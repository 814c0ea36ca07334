import LuxSwirl.Server.PasswordChange

/-!
# What is known of credentials

The facts that a run of the server keeps. Each transaction has those of its phase
(`Fits`), and they speak of the tables, of what the transaction has written of them and
of its locks, so a statement leaves those of the others (`Consistent.beside`), and a
commit is judged by what it installs (`Commits.consistent`). While a change holds the
user's row nothing is committed but stamps; so the sessions and tokens it has found are
those there are when it commits.
-/

namespace LuxSwirl.Server
open LuxSwirl.Py LuxSwirl.Lib

namespace AccountServer

/-! ## What is known of a transaction -/

section Facts

variable (id : Id) (server : AccountServer)

/-- It has written none of its sessions but to stamp them. -/
def Stamps : Prop :=
  ∀ sessionId entry, server.sessions.own id sessionId = some entry → entry = server.sessions.committed sessionId

def NoTokens : Prop := ∀ tokenId, server.tokens.own id tokenId = none

/-- It has no lock on the user's row. -/
structure Unlocked : Prop where
  user : server.user.own id = none
  stamps : Stamps id server
  tokens : NoTokens id server
  keyShare : id ∉ server.keyShares

/-- It has the user's row locked, with the hash as it was. -/
structure Locked : Prop where
  user : ∃ row, server.user.own id = some row ∧ row.passwordHash = server.user.committed.passwordHash
  tokens : NoTokens id server

/-- The sessions it has written are its stamps, and new ones of the password of now. -/
def Opens : Prop :=
  ∀ sessionId entry, server.sessions.own id sessionId = some entry → entry = server.sessions.committed sessionId ∨
    server.sessions.committed sessionId = .unused ∧
      ∃ session, entry = .live session ∧ session.compared = server.user.committed.passwordHash

/-- A session that it has read is as it was, or gone. -/
def Read (through : Id × SessionRow) : Prop :=
  server.sessions.committed through.1 = .live through.2 ∨ server.sessions.committed through.1 = .deleted

/-- A session that a token request relies on is gone, or one of the password of now; once
stamped, it is held. -/
structure Relies (stampPending : Bool) (through : Id × SessionRow) : Prop where
  trusted : server.sessions.committed through.1 = .deleted ∨ server.sessions.committed through.1 = .live through.2 ∧
    through.2.compared = server.user.committed.passwordHash
  stamped : stampPending = false → server.sessions.own id through.1 = some (.live through.2)

/-- The sessions that were there at the purge are expired, deleted or waited for. -/
structure Purges (since : Time) (waiting : List Id) : Prop where
  user : server.user.own id ≠ none
  past : since ≤ server.now
  own : ∀ sessionId entry, server.sessions.own id sessionId = some entry →
    entry = server.sessions.committed sessionId ∨ entry = .deleted
  all : ∀ sessionId session, server.sessions.committed sessionId = .live session → session.expiresAt < since ∨
    since < session.expiresAt ∧ (server.sessions.own id sessionId = some .deleted ∨ sessionId ∈ waiting)

/-- It has revoked the tokens there are. -/
structure Revokes : Prop where
  own : ∀ tokenId entry, server.tokens.own id tokenId = some entry → ∃ token, entry = some token ∧ token.revokedAt ≠ none
  all : ∀ tokenId token, server.tokens.committed tokenId = some token → token.revokedAt = none →
    server.tokens.own id tokenId ≠ none

/-- It has inserted tokens of the password of now, and nobody changes that. -/
structure Inserts : Prop where
  user : server.user.own id = none
  stamps : Stamps id server
  keyShare : id ∈ server.keyShares
  tokens : ∀ tokenId entry, server.tokens.own id tokenId = some entry →
    ∃ token, entry = some token ∧ token.compared = server.user.committed.passwordHash

def Fits (transaction : AccountTransaction) : Prop :=
  match transaction.phase with
  | .closed | .opened | .queued => Unlocked id server
  | .selected | .loaded _ => Unlocked id server ∧ ∀ through ∈ transaction.through, Read server through
  | .ready => Unlocked id server ∧ ∀ through ∈ transaction.relies, Relies id server transaction.stampPending through
  | .locked | .judged | .wrong => Locked id server ∧ Stamps id server
  | .right hash | .reset hash => (Locked id server ∧ Stamps id server) ∧ hash = server.user.committed.passwordHash
  | .settled => Locked id server ∧ Opens id server
  | .purging since waiting => Purges id server since waiting ∧ NoTokens id server
  | .revoked since | .changed since => Purges id server since [] ∧ Revokes id server
  | .inserted => Inserts id server

end Facts

/-- What a run keeps. -/
structure Consistent (server : AccountServer) : Prop where
  fit : ∀ id, Fits id server (server.transactions id)
  free : ∀ id ∈ server.keyShares, server.user.held = none
  spared : ∀ id other since, ∀ through ∈ (server.transactions id).relies,
    (server.transactions other).phase.since = some since →
      since ≤ through.2.expiresAt ∨ server.sessions.committed through.1 = .deleted
  opened : ∀ id, id ∉ server.opened → (server.transactions id).phase = .closed
  sessionIds : ∀ sessionId, sessionId ∉ server.sessionIds → server.sessions sessionId = ⟨.unused, none⟩
  tokenIds : ∀ tokenId, tokenId ∉ server.tokenIds → server.tokens tokenId = ⟨none, none⟩
  sessions : ∀ sessionId session, server.sessions.committed sessionId = .live session →
    session.compared = server.user.committed.passwordHash ∨ session.expiresAt < server.now
  tokens : ∀ tokenId token, server.tokens.committed tokenId = some token → token.revokedAt = none →
    token.compared = server.user.committed.passwordHash

variable {bcryptMatches : Text → Text → Bool} {server next : AccountServer} {id other : Id}
  {transaction : AccountTransaction}

theorem Consistent.current (consistent : server.Consistent) : server.Current where
  sessions sessionId session isLive unexpired := by
    rcases consistent.sessions sessionId session isLive with compared | expired
    · exact compared
    · exact absurd expired (of_decide_eq_false unexpired)
  tokens := consistent.tokens

theorem Idle.consistent (idle : server.Idle) (current : server.Current) : server.Consistent := by
  have unlocked (id : Id) : Unlocked id server := by
    refine ⟨Stored.own_of_free idle.user id, fun sessionId entry own => ?_,
      fun tokenId => Stored.own_of_free (idle.tokens tokenId) id, by simp [idle.keyShares]⟩
    rw [Rows.own, Stored.own_of_free (idle.sessions sessionId)] at own
    cases own
  refine ⟨fun id => ?_, ?_, ?_, fun id _ => idle.transactions id, ?_, ?_, ?_, current.tokens⟩
  · rw [Fits, idle.transactions id]
    exact unlocked id
  · simp [idle.keyShares]
  · intro id other since through relies began
    rw [idle.transactions other] at began
    cases began
  · intro sessionId unknown
    have committed := idle.sessionIds sessionId unknown
    have held := idle.sessions sessionId
    rw [Rows.committed] at committed
    cases stored : server.sessions sessionId with
    | mk row owner =>
      rw [stored] at committed held
      cases committed
      cases held
      rfl
  · intro tokenId unknown
    have committed := idle.tokenIds tokenId unknown
    have held := idle.tokens tokenId
    rw [Rows.committed] at committed
    cases stored : server.tokens tokenId with
    | mk row owner =>
      rw [stored] at committed held
      cases committed
      cases held
      rfl
  · intro sessionId session isLive
    by_cases expired : session.expiresAt < server.now
    · exact .inr expired
    · exact .inl (current.sessions sessionId session isLive (decide_eq_false expired))

theorem through_of_relies {through : Id × SessionRow} (relies : through ∈ transaction.relies) :
    through ∈ transaction.through := by
  rcases transaction with ⟨request, phase, stored, pending⟩
  cases request <;> cases phase <;> first
    | exact relies
    | cases relies

theorem ready_of_relies {through : Id × SessionRow} (relies : through ∈ transaction.relies) :
    transaction.phase = .ready := by
  rcases transaction with ⟨request, phase, stored, pending⟩
  cases request <;> cases phase <;> cases relies
  rfl

theorem view_eq {stored : Stored Id SessionEntry} (stamped : ∀ entry, stored.own id = some entry → entry = stored.committed) :
    stored.view id = stored.committed := by
  rw [Stored.view]
  cases own : stored.own id with
  | none => rfl
  | some entry => exact stamped entry own

theorem Stamps.opens (stamps : Stamps id server) : Opens id server :=
  fun sessionId entry own => .inl (stamps sessionId entry own)

/-- What it sees of the user's row is the hash as it was. -/
theorem Locked.view (locked : Locked id server) :
    (server.user.view id).passwordHash = server.user.committed.passwordHash := by
  obtain ⟨row, own, same⟩ := locked.user
  rw [Stored.view, own]
  exact same

theorem Locked.found (locked : Locked id server) {row : AccountRow} (found : server.user.found id = some row) :
    row.passwordHash = server.user.committed.passwordHash := by
  obtain ⟨own, isOwn, same⟩ := locked.user
  rw [Stored.found_of_own isOwn, Option.some_inj] at found
  rw [← found]
  exact same

theorem Locked.own_ne_none (locked : Locked id server) : server.user.own id ≠ none := by
  obtain ⟨row, own, -⟩ := locked.user
  rw [own]
  exact nofun

/-- A purge has begun in the past. -/
theorem Fits.purges {since : Time} (fits : Fits id server transaction) (began : transaction.phase.since = some since) :
    ∃ waiting, Purges id server since waiting := by
  rw [Fits] at fits
  cases isPhase : transaction.phase <;> rw [isPhase] at began fits <;> cases began
  · exact ⟨_, fits.1⟩
  · exact ⟨_, fits.1⟩
  · exact ⟨_, fits.1⟩

/-- A session that is stored is known. -/
theorem Consistent.known (consistent : server.Consistent) {sessionId : Id} {session : SessionRow}
    (isLive : server.sessions.committed sessionId = .live session) : sessionId ∈ server.sessionIds := by
  by_contra unknown
  rw [Rows.committed, consistent.sessionIds sessionId unknown] at isLive
  cases isLive

/-! ## What a statement leaves to the others -/

/-- What is known of a transaction is of these. -/
structure Same (other : Id) (server next : AccountServer) : Prop where
  now : server.now ≤ next.now
  hash : next.user.committed.passwordHash = server.user.committed.passwordHash
  sessions : next.sessions.committed = server.sessions.committed
  tokens : server.user.own other ≠ none → next.tokens.committed = server.tokens.committed
  userOwn : next.user.own other = server.user.own other
  sessionsOwn : next.sessions.own other = server.sessions.own other
  tokensOwn : next.tokens.own other = server.tokens.own other
  keyShare : other ∈ next.keyShares ↔ other ∈ server.keyShares

namespace Same

variable (same : Same other server next)

include same

theorem stamps (stamps : Stamps other server) : Stamps other next := by
  rw [Stamps, same.sessionsOwn, same.sessions]
  exact stamps

theorem noTokens (noTokens : NoTokens other server) : NoTokens other next := by
  rw [NoTokens, same.tokensOwn]
  exact noTokens

theorem unlocked (unlocked : Unlocked other server) : Unlocked other next :=
  ⟨same.userOwn.trans unlocked.user, same.stamps unlocked.stamps, same.noTokens unlocked.tokens,
    fun mem => unlocked.keyShare (same.keyShare.mp mem)⟩

theorem locked (locked : Locked other server) : Locked other next := by
  refine ⟨?_, same.noTokens locked.tokens⟩
  rw [same.userOwn, same.hash]
  exact locked.user

theorem opens (opens : Opens other server) : Opens other next := by
  rw [Opens, same.sessionsOwn, same.sessions, same.hash]
  exact opens

theorem purges {since : Time} {waiting : List Id} (purges : Purges other server since waiting) :
    Purges other next since waiting := by
  refine ⟨?_, purges.past.trans same.now, ?_, ?_⟩
  · rw [same.userOwn]
    exact purges.user
  · rw [same.sessionsOwn, same.sessions]
    exact purges.own
  · rw [same.sessionsOwn, same.sessions]
    exact purges.all

theorem revokes (locked : server.user.own other ≠ none) (revokes : Revokes other server) : Revokes other next := by
  refine ⟨?_, ?_⟩
  · rw [same.tokensOwn]
    exact revokes.own
  · rw [same.tokensOwn, same.tokens locked]
    exact revokes.all

theorem read {through : Id × SessionRow} (read : Read server through) : Read next through := by
  rw [Read, same.sessions]
  exact read

theorem relies {stampPending : Bool} {through : Id × SessionRow} (relies : Relies other server stampPending through) :
    Relies other next stampPending through := by
  refine ⟨?_, ?_⟩
  · rw [same.sessions, same.hash]
    exact relies.trusted
  · rw [same.sessionsOwn]
    exact relies.stamped

theorem inserts (inserts : Inserts other server) : Inserts other next := by
  refine ⟨same.userOwn.trans inserts.user, same.stamps inserts.stamps, same.keyShare.mpr inserts.keyShare, ?_⟩
  rw [same.tokensOwn, same.hash]
  exact inserts.tokens

theorem fits (fits : Fits other server transaction) : Fits other next transaction := by
  obtain ⟨request, phase, stored, pending⟩ := transaction
  cases phase with
  | closed | opened | queued => exact same.unlocked fits
  | selected | loaded user => exact ⟨same.unlocked fits.1, fun through mem => same.read (fits.2 through mem)⟩
  | ready => exact ⟨same.unlocked fits.1, fun through mem => same.relies (fits.2 through mem)⟩
  | locked | judged | wrong => exact ⟨same.locked fits.1, same.stamps fits.2⟩
  | right hash | reset hash => exact ⟨⟨same.locked fits.1.1, same.stamps fits.1.2⟩, by rw [same.hash]; exact fits.2⟩
  | settled => exact ⟨same.locked fits.1, same.opens fits.2⟩
  | purging since waiting => exact ⟨same.purges fits.1, same.noTokens fits.2⟩
  | revoked since | changed since => exact ⟨same.purges fits.1, same.revokes fits.1.user fits.2⟩
  | inserted => exact same.inserts fits

end Same

/-- A statement of one transaction that commits nothing. -/
structure Beside (id : Id) (transaction : AccountTransaction) (server next : AccountServer) : Prop where
  transactions : next.transactions = Function.update server.transactions id transaction
  same : ∀ other, other ≠ id → Same other server next
  now : next.now = server.now
  user : next.user.committed = server.user.committed
  sessions : next.sessions.committed = server.sessions.committed
  tokens : next.tokens.committed = server.tokens.committed

/-- **A statement** of one transaction that commits nothing leaves what is known of the
others. -/
theorem Consistent.beside (consistent : server.Consistent) (beside : Beside id transaction server next)
    (fits : Fits id next transaction) (free : ∀ other ∈ next.keyShares, next.user.held = none)
    (relies : ∀ through ∈ transaction.relies, ∀ other since, (server.transactions other).phase.since = some since →
      since ≤ through.2.expiresAt ∨ server.sessions.committed through.1 = .deleted)
    (began : ∀ since, transaction.phase.since = some since → ∀ other, ∀ through ∈ (server.transactions other).relies,
      since ≤ through.2.expiresAt ∨ server.sessions.committed through.1 = .deleted)
    (opened : ∀ other, other ∉ next.opened → other ∉ server.opened ∧ (other = id → transaction.phase = .closed))
    (sessionIds : ∀ sessionId, sessionId ∉ next.sessionIds → next.sessions sessionId = ⟨.unused, none⟩)
    (tokenIds : ∀ tokenId, tokenId ∉ next.tokenIds → next.tokens tokenId = ⟨none, none⟩) : next.Consistent := by
  have here : next.transactions id = transaction := by rw [beside.transactions, Function.update_self]
  have there (other : Id) (apart : other ≠ id) : next.transactions other = server.transactions other := by
    rw [beside.transactions, Function.update_of_ne apart]
  refine ⟨fun other => ?_, free, ?_, fun other unopened => ?_, sessionIds, tokenIds, ?_, ?_⟩
  · by_cases isId : other = id
    · rw [isId, here]
      exact fits
    · rw [there other isId]
      exact (beside.same other isId).fits (consistent.fit other)
  · intro one other since through isRelied isSince
    rw [beside.sessions]
    by_cases isOne : one = id
    · rw [isOne, here] at isRelied
      by_cases isOther : other = id
      · rw [isOther, here, ready_of_relies isRelied] at isSince
        cases isSince
      · rw [there other isOther] at isSince
        exact relies through isRelied other since isSince
    · rw [there one isOne] at isRelied
      by_cases isOther : other = id
      · rw [isOther, here] at isSince
        exact began since isSince one through isRelied
      · rw [there other isOther] at isSince
        exact consistent.spared one other since through isRelied isSince
  · obtain ⟨before, isClosed⟩ := opened other unopened
    by_cases isId : other = id
    · rw [isId, here]
      exact isClosed isId
    · rw [there other isId]
      exact consistent.opened other before
  · rw [beside.sessions, beside.user, beside.now]
    exact consistent.sessions
  · rw [beside.tokens, beside.user]
    exact consistent.tokens

/-- The tables are left alone. -/
structure Quiet (server next : AccountServer) : Prop where
  now : next.now = server.now
  user : next.user = server.user
  sessions : next.sessions = server.sessions
  tokens : next.tokens = server.tokens
  keyShares : next.keyShares = server.keyShares
  sessionIds : next.sessionIds = server.sessionIds
  tokenIds : next.tokenIds = server.tokenIds

theorem Quiet.same (quiet : Quiet server next) (other : Id) : Same other server next := by
  obtain ⟨now, user, sessions, tokens, keyShares, -, -⟩ := quiet
  exact ⟨now.ge, by rw [user], by rw [sessions], fun _ => by rw [tokens], by rw [user], by rw [sessions],
    by rw [tokens], by rw [keyShares]⟩

section Statements

variable (consistent : server.Consistent)

include consistent

theorem Consistent.opened_of (kept : (server.transactions id).phase = .closed → transaction.phase = .closed) :
    ∀ other, other ∉ server.opened → other ∉ server.opened ∧ (other = id → transaction.phase = .closed) := by
  refine fun other unopened => ⟨unopened, ?_⟩
  rintro rfl
  exact kept (consistent.opened other unopened)

/-- The transaction goes on, writing nothing. -/
theorem Consistent.goOn (quiet : Quiet server next)
    (transactions : next.transactions = Function.update server.transactions id transaction)
    (opened : ∀ other, other ∉ next.opened → other ∉ server.opened ∧ (other = id → transaction.phase = .closed))
    (fits : Fits id server transaction)
    (relies : ∀ through ∈ transaction.relies, ∀ other since, (server.transactions other).phase.since = some since →
      since ≤ through.2.expiresAt ∨ server.sessions.committed through.1 = .deleted)
    (began : ∀ since, transaction.phase.since = some since → ∀ other, ∀ through ∈ (server.transactions other).relies,
      since ≤ through.2.expiresAt ∨ server.sessions.committed through.1 = .deleted) : next.Consistent := by
  refine consistent.beside ⟨transactions, fun other _ => quiet.same other, quiet.now, by rw [quiet.user],
    by rw [quiet.sessions], by rw [quiet.tokens]⟩ ((quiet.same id).fits fits) ?_ relies began opened ?_ ?_
  · rw [quiet.keyShares, quiet.user]
    exact consistent.free
  · rw [quiet.sessionIds, quiet.sessions]
    exact consistent.sessionIds
  · rw [quiet.tokenIds, quiet.tokens]
    exact consistent.tokenIds

/-- It goes on to a phase in which it neither relies on a session nor purges. -/
theorem Consistent.setPhase {phase : AccountPhase} (kept : (server.transactions id).phase = .closed → phase = .closed)
    (fits : Fits id server { server.transactions id with phase }) (notReady : phase ≠ .ready)
    (notSince : phase.since = none) : (server.setPhase id phase).Consistent := by
  refine consistent.goOn ⟨rfl, rfl, rfl, rfl, rfl, rfl, rfl⟩ rfl (consistent.opened_of kept) fits ?_ ?_
  · exact fun through mem => absurd (ready_of_relies mem) notReady
  · intro since isSince
    rw [show phase.since = some since from isSince] at notSince
    cases notSince

/-- It writes the user's row. -/
theorem Consistent.writeUser {old row : AccountRow}
    (kept : (server.transactions id).phase = .closed → transaction.phase = .closed)
    (found : server.user.found id = some old) (unshared : server.keyShares = [])
    (fits : Fits id { server.setTransaction id transaction with user := server.user.write id row } transaction)
    (notReady : transaction.phase ≠ .ready)
    (began : ∀ since, transaction.phase.since = some since → (server.transactions id).phase.since = some since) :
    Consistent { server.setTransaction id transaction with user := server.user.write id row } := by
  refine consistent.beside ⟨rfl, fun other apart => ?_, rfl, rfl, rfl, rfl⟩ fits ?_ ?_ ?_
    (consistent.opened_of kept) consistent.sessionIds consistent.tokenIds
  · refine ⟨le_rfl, rfl, rfl, fun _ => rfl, ?_, rfl, rfl, Iff.rfl⟩
    exact (Stored.own_other (Stored.own_write id row _) apart).trans (Stored.own_other_of_found found apart).symm
  · intro other mem
    have none_ : other ∈ server.keyShares := mem
    rw [unshared] at none_
    cases none_
  · exact fun through mem => absurd (ready_of_relies mem) notReady
  · exact fun since isSince other through mem => consistent.spared other id since through mem (began since isSince)

/-- It writes a session. -/
theorem Consistent.writeSession {sessionId : Id} {old entry : SessionEntry} {sessionIds : List Id}
    (kept : (server.transactions id).phase = .closed → transaction.phase = .closed)
    (found : (server.sessions sessionId).found id = some old)
    (known : sessionId ∈ sessionIds) (more : server.sessionIds ⊆ sessionIds)
    (fits : Fits id { server.setTransaction id transaction with
      sessions := server.sessions.write id sessionId entry, sessionIds := sessionIds } transaction)
    (relies : ∀ through ∈ transaction.relies, through ∈ (server.transactions id).relies)
    (began : ∀ since, transaction.phase.since = some since → (server.transactions id).phase.since = some since) :
    Consistent { server.setTransaction id transaction with
      sessions := server.sessions.write id sessionId entry, sessionIds := sessionIds } := by
  refine consistent.beside ⟨rfl, fun other apart => ?_, rfl, rfl, Rows.committed_write, rfl⟩ fits consistent.free ?_ ?_
    (consistent.opened_of kept) (fun other unknown => ?_) consistent.tokenIds
  · exact ⟨le_rfl, rfl, Rows.committed_write, fun _ => rfl, rfl, Rows.own_write_other found apart, rfl, Iff.rfl⟩
  · exact fun through mem other since isSince => consistent.spared id other since through (relies through mem) isSince
  · exact fun since isSince other through mem => consistent.spared other id since through mem (began since isSince)
  · have apart : other ≠ sessionId := fun same => unknown (same ▸ known)
    show server.sessions.write id sessionId entry other = ⟨.unused, none⟩
    rw [Rows.write, Function.update_of_ne apart]
    exact consistent.sessionIds other fun mem => unknown (more mem)

/-- Who holds the user's row leaves no key share. -/
theorem Consistent.unshared (locked : server.user.own id ≠ none) : server.keyShares = [] := by
  refine List.eq_nil_iff_forall_not_mem.mpr fun other mem => locked ?_
  exact Stored.own_of_free (consistent.free other mem) id

end Statements

/-- A transaction that is to lock the user's row has not. -/
theorem unlocked_of_locksNext (locks : transaction.locksNext = true) (fits : Fits id server transaction) :
    Unlocked id server ∧ transaction.phase ≠ .closed := by
  have isNext : transaction.phase = .queued ∨ transaction.phase = .ready := by
    obtain ⟨request, phase, stored, pending⟩ := transaction
    cases request <;> cases phase <;> simp [AccountTransaction.locksNext] at locks ⊢
  rw [Fits] at fits
  rcases isNext with isPhase | isPhase
  · rw [isPhase] at fits
    exact ⟨fits, by simp [isPhase]⟩
  · rw [isPhase] at fits
    exact ⟨fits.1, by simp [isPhase]⟩

theorem Consistent.lockRow (consistent : server.Consistent) (stepped : server.lockRow id = some next) :
    next.Consistent := by
  unfold AccountServer.lockRow at stepped
  split at stepped
  · rename_i user locks found
    obtain ⟨unlocked, unclosed⟩ := unlocked_of_locksNext locks (consistent.fit id)
    split_ifs at stepped with shares
    cases stepped
    have unshared : server.keyShares = [] := by
      refine List.eq_nil_iff_forall_not_mem.mpr fun other mem => unlocked.keyShare ?_
      rwa [← of_decide_eq_true (List.all_eq_true.mp shares other mem)]
    refine consistent.writeUser (fun closed => absurd closed unclosed) found unshared ⟨⟨⟨user, Stored.own_write .., ?_⟩, unlocked.tokens⟩, unlocked.stamps⟩
      nofun nofun
    rw [Stored.found_unwritten unlocked.user found]
    rfl
  · cases stepped

theorem Consistent.rollback (consistent : server.Consistent) (id : Id) : (server.rollback id).Consistent := by
  have freeUser : server.user.held = none → (server.user.rollback id).held = none := by
    intro free
    rw [Stored.rollback_of_own_none (Stored.own_of_free free id), free]
  refine consistent.beside ⟨rfl, fun other apart => ?_, rfl, Stored.rollback_committed .., Rows.committed_rollback,
    Rows.committed_rollback⟩ ⟨?_, ?_, ?_, ?_⟩ ?_ ?_ nofun ?_ ?_ ?_
  · refine ⟨le_rfl, congrArg AccountRow.passwordHash (Stored.rollback_committed ..), Rows.committed_rollback,
      fun _ => Rows.committed_rollback, ?_, Rows.own_rollback_other apart, Rows.own_rollback_other apart, ?_⟩
    · exact Stored.own_rollback_other apart
    · show other ∈ server.keyShares.filter _ ↔ _
      simp [apart]
  · exact Stored.own_rollback id server.user
  · intro sessionId entry own
    have none_ : (server.sessions.rollback id).own id sessionId = some entry := own
    rw [Rows.own_rollback] at none_
    cases none_
  · exact fun tokenId => congrFun Rows.own_rollback tokenId
  · show id ∉ server.keyShares.filter _
    simp
  · intro other mem
    exact freeUser (consistent.free other (List.mem_of_mem_filter mem))
  · exact fun through mem => absurd (ready_of_relies mem) (by simp)
  · exact fun other unopened => ⟨unopened, fun _ => rfl⟩
  · intro sessionId unknown
    show (server.sessions sessionId).rollback id = _
    rw [consistent.sessionIds sessionId unknown]
    rfl
  · intro tokenId unknown
    show (server.tokens tokenId).rollback id = _
    rw [consistent.tokenIds tokenId unknown]
    rfl

/-! ## Commits -/

/-- What a commit of the transaction leaves. -/
structure Commits (id : Id) (server next : AccountServer) : Prop where
  now : next.now = server.now
  user : next.user = server.user.commit id
  sessions : next.sessions = server.sessions.commit id
  tokens : next.tokens = server.tokens.commit id
  keyShares : next.keyShares = server.keyShares.filter fun owner => decide (owner ≠ id)
  transactions : next.transactions = Function.update server.transactions id {}
  opened : next.opened = server.opened
  sessionIds : next.sessionIds = server.sessionIds
  tokenIds : next.tokenIds = server.tokenIds

namespace Commits

variable (commits : Commits id server next)

include commits

theorem sessions_committed (sessionId : Id) : next.sessions.committed sessionId =
    (server.sessions.own id sessionId).getD (server.sessions.committed sessionId) := by
  rw [commits.sessions, Rows.committed_commit]
  rfl

theorem tokens_committed (tokenId : Id) : next.tokens.committed tokenId =
    (server.tokens.own id tokenId).getD (server.tokens.committed tokenId) := by
  rw [commits.tokens, Rows.committed_commit]
  rfl

theorem keyShare (apart : other ≠ id) : other ∈ next.keyShares ↔ other ∈ server.keyShares := by
  rw [commits.keyShares]
  simp [apart]

/-- To commit, keep what is known of the others and what is stored. -/
theorem consistent (consistent : server.Consistent)
    (others : ∀ other, other ≠ id → Fits other next (server.transactions other))
    (gone : ∀ sessionId, server.sessions.committed sessionId = .deleted → next.sessions.committed sessionId = .deleted)
    (sessions : ∀ sessionId session, next.sessions.committed sessionId = .live session →
      session.compared = next.user.committed.passwordHash ∨ session.expiresAt < next.now)
    (tokens : ∀ tokenId token, next.tokens.committed tokenId = some token → token.revokedAt = none →
      token.compared = next.user.committed.passwordHash) : next.Consistent := by
  have here : next.transactions id = {} := by rw [commits.transactions, Function.update_self]
  have there (other : Id) (apart : other ≠ id) : next.transactions other = server.transactions other := by
    rw [commits.transactions, Function.update_of_ne apart]
  refine ⟨fun other => ?_, ?_, ?_, fun other unopened => ?_, ?_, ?_, sessions, tokens⟩
  · by_cases isId : other = id
    · rw [isId, here]
      refine ⟨by rw [commits.user, Stored.own_commit], fun sessionId entry own => ?_, fun tokenId => ?_, ?_⟩
      · rw [commits.sessions, Rows.own_commit] at own
        cases own
      · rw [commits.tokens, Rows.own_commit]
      · rw [commits.keyShares]
        simp
    · rw [there other isId]
      exact others other isId
  · intro other mem
    rw [commits.keyShares] at mem
    have free := consistent.free other (List.mem_of_mem_filter mem)
    rw [commits.user, Stored.commit_of_own_none (Stored.own_of_free free id), free]
  · intro one other since through isRelied isSince
    have isOne : one ≠ id := by
      rintro rfl
      rw [here] at isRelied
      cases isRelied
    have isOther : other ≠ id := by
      rintro rfl
      rw [here] at isSince
      cases isSince
    rw [there one isOne] at isRelied
    rw [there other isOther] at isSince
    exact (consistent.spared one other since through isRelied isSince).imp_right (gone through.1)
  · by_cases isId : other = id
    · rw [isId, here]
    · rw [there other isId]
      rw [commits.opened] at unopened
      exact consistent.opened other unopened
  · intro sessionId unknown
    rw [commits.sessionIds] at unknown
    rw [commits.sessions, Rows.commit, consistent.sessionIds sessionId unknown]
    rfl
  · intro tokenId unknown
    rw [commits.tokenIds] at unknown
    rw [commits.tokens, Rows.commit, consistent.tokenIds tokenId unknown]
    rfl

/-- A commit of whoever has the user's row locked, for another transaction. -/
theorem others (consistent : server.Consistent) (locked : server.user.own id ≠ none) (apart : other ≠ id)
    (read : ∀ through, Read server through → Read next through)
    (trusted : ∀ through ∈ (server.transactions other).relies, next.sessions.committed through.1 = .deleted ∨
      next.sessions.committed through.1 = .live through.2 ∧ through.2.compared = next.user.committed.passwordHash) :
    Fits other next (server.transactions other) := by
  have free : server.user.own other = none := by
    obtain ⟨row, own⟩ := Option.ne_none_iff_exists'.mp locked
    exact Stored.own_other own apart
  have sessionsOwn : next.sessions.own other = server.sessions.own other := by
    rw [commits.sessions, Rows.own_commit_other apart]
  have unlocked (before : Unlocked other server) : Unlocked other next := by
    refine ⟨by rw [commits.user, Stored.own_commit_other apart, free], fun sessionId entry own => ?_, fun tokenId => ?_,
      fun mem => before.keyShare ((commits.keyShare apart).mp mem)⟩
    · rw [sessionsOwn] at own
      have held : server.sessions.own other sessionId ≠ none := by rw [own]; exact nofun
      rw [commits.sessions, Rows.committed_commit, Rows.installed_of_held held apart]
      exact before.stamps sessionId entry own
    · rw [commits.tokens, Rows.own_commit_other apart]
      exact before.tokens tokenId
  have fits := consistent.fit other
  have unheld {row : AccountRow} (own : server.user.own other = some row) : False := by
    rw [free] at own
    cases own
  rcases isTransaction : server.transactions other with ⟨request, phase, stored, pending⟩
  rw [isTransaction] at fits trusted
  cases phase with
  | closed | opened | queued => exact unlocked fits
  | selected | loaded user => exact ⟨unlocked fits.1, fun through mem => read through (fits.2 through mem)⟩
  | ready =>
    refine ⟨unlocked fits.1, fun through mem => ⟨trusted through mem, fun flushed => ?_⟩⟩
    rw [sessionsOwn]
    exact (fits.2 through mem).stamped flushed
  | locked | judged | wrong | settled =>
    obtain ⟨row, own, -⟩ := fits.1.user
    exact (unheld own).elim
  | right hash | reset hash =>
    obtain ⟨row, own, -⟩ := fits.1.1.user
    exact (unheld own).elim
  | purging since waiting | revoked since | changed since => exact absurd free fits.1.user
  | inserted =>
    have mem := fits.keyShare
    rw [consistent.unshared locked] at mem
    cases mem

end Commits

section Commit

variable (consistent : server.Consistent) (commits : Commits id server next)

include consistent commits

/-- A token is committed while nobody has the user's row locked. -/
theorem Consistent.commitToken (inserts : Inserts id server) : next.Consistent := by
  have user : next.user = server.user := by rw [commits.user, Stored.commit_of_own_none inserts.user]
  have sessions : next.sessions.committed = server.sessions.committed := by
    funext sessionId
    rw [commits.sessions_committed]
    cases own : server.sessions.own id sessionId with
    | none => rfl
    | some entry => exact inserts.stamps sessionId entry own
  refine commits.consistent consistent (fun other apart => Same.fits ?_ (consistent.fit other)) ?_ ?_ ?_
  · refine ⟨commits.now.ge, by rw [user], sessions, fun locked => ?_, by rw [user], ?_, ?_, commits.keyShare apart⟩
    · exact absurd (Stored.own_of_free (consistent.free id inserts.keyShare) other) locked
    · rw [commits.sessions, Rows.own_commit_other apart]
    · rw [commits.tokens, Rows.own_commit_other apart]
  · intro sessionId deleted
    rw [sessions]
    exact deleted
  · rw [sessions, user, commits.now]
    exact consistent.sessions
  · intro tokenId token isToken unrevoked
    rw [user]
    rw [commits.tokens_committed] at isToken
    cases own : server.tokens.own id tokenId with
    | none =>
      rw [own] at isToken
      exact consistent.tokens tokenId token isToken unrevoked
    | some entry =>
      obtain ⟨inserted, isInserted, compared⟩ := inserts.tokens tokenId entry own
      rw [own, isInserted] at isToken
      cases isToken
      exact compared

/-- A commit with the hash as it was, of new sessions. -/
theorem Consistent.commitSessions (locked : Locked id server) (opens : Opens id server) : next.Consistent := by
  have hash : next.user.committed.passwordHash = server.user.committed.passwordHash := by
    obtain ⟨row, own, same⟩ := locked.user
    rw [commits.user, Stored.commit_of_own own]
    exact same
  have stored (sessionId : Id) : next.sessions.committed sessionId = server.sessions.committed sessionId ∨
      server.sessions.committed sessionId = .unused ∧ ∃ session, next.sessions.committed sessionId = .live session ∧
        session.compared = server.user.committed.passwordHash := by
    rw [commits.sessions_committed]
    cases own : server.sessions.own id sessionId with
    | none => exact .inl rfl
    | some entry => exact opens sessionId entry own
  have kept {sessionId : Id} {entry : SessionEntry} (isStored : server.sessions.committed sessionId = entry)
      (used : entry ≠ .unused) : next.sessions.committed sessionId = entry := by
    rcases stored sessionId with same | ⟨unused, -⟩
    · rw [same, isStored]
    · exact absurd (isStored.symm.trans unused) used
  refine commits.consistent consistent (fun other apart => ?_) (fun _ deleted => kept deleted nofun) ?_ ?_
  · refine commits.others consistent locked.own_ne_none apart
      (fun through isRead => isRead.imp (kept · nofun) (kept · nofun)) fun through mem => ?_
    have fits := consistent.fit other
    rw [Fits, ready_of_relies mem] at fits
    rw [hash]
    exact (fits.2 through mem).trusted.imp (kept · nofun) fun ⟨isLive, compared⟩ => ⟨kept isLive nofun, compared⟩
  · intro sessionId session isLive
    rw [hash, commits.now]
    rcases stored sessionId with same | ⟨-, opened, isOpened, compared⟩
    · exact consistent.sessions sessionId session (same.symm.trans isLive)
    · rw [isOpened] at isLive
      cases isLive
      exact .inl compared
  · intro tokenId token isToken unrevoked
    have none_ : server.tokens.own id tokenId = none := locked.tokens tokenId
    rw [commits.tokens_committed, none_] at isToken
    rw [hash]
    exact consistent.tokens tokenId token isToken unrevoked

/-- The commit of a change. -/
theorem Consistent.commitChange {since : Time} (began : (server.transactions id).phase.since = some since)
    (purges : Purges id server since []) (revokes : Revokes id server) : next.Consistent := by
  have stored (sessionId : Id) : next.sessions.committed sessionId = server.sessions.committed sessionId ∨
      next.sessions.committed sessionId = .deleted := by
    rw [commits.sessions_committed]
    cases own : server.sessions.own id sessionId with
    | none => exact .inl rfl
    | some entry => exact purges.own sessionId entry own
  have gone {sessionId : Id} (deleted : server.sessions.committed sessionId = .deleted) :
      next.sessions.committed sessionId = .deleted := by
    rcases stored sessionId with same | isGone
    · rw [same, deleted]
    · exact isGone
  have purged {sessionId : Id} {session : SessionRow} (isLive : server.sessions.committed sessionId = .live session) :
      session.expiresAt < since ∨ next.sessions.committed sessionId = .deleted := by
    refine (purges.all sessionId session isLive).imp_right fun ⟨_, isGone⟩ => ?_
    rcases isGone with own | waits
    · rw [commits.sessions_committed, own]
      rfl
    · cases waits
  refine commits.consistent consistent (fun other apart => ?_) (fun _ => gone) ?_ ?_
  · refine commits.others consistent purges.user apart ?_ fun through mem => .inl ?_
    · rintro through (isLive | deleted)
      · rcases stored through.1 with same | isGone
        · exact .inl (same.trans isLive)
        · exact .inr isGone
      · exact .inr (gone deleted)
    · have fits := consistent.fit other
      rw [Fits, ready_of_relies mem] at fits
      rcases (fits.2 through mem).trusted with deleted | ⟨isLive, -⟩
      · exact gone deleted
      · -- a purge spares no session that is relied on
        rcases consistent.spared other id since through mem began with later | deleted
        · rcases purged isLive with expired | isGone
          · exact absurd expired (not_lt.mpr later)
          · exact isGone
        · exact gone deleted
  · intro sessionId session isLive
    refine .inr ?_
    rw [commits.now]
    rcases stored sessionId with same | isGone
    · rcases purged (same.symm.trans isLive) with expired | isGone
      · exact expired.trans_le purges.past
      · rw [isGone] at isLive
        cases isLive
    · rw [isGone] at isLive
      cases isLive
  · intro tokenId token isToken unrevoked
    rw [commits.tokens_committed] at isToken
    cases own : server.tokens.own id tokenId with
    | none =>
      rw [own] at isToken
      exact absurd own (revokes.all tokenId token isToken unrevoked)
    | some entry =>
      obtain ⟨revoked, isRevoked, notNone⟩ := revokes.own tokenId entry own
      rw [own, isRevoked] at isToken
      cases isToken
      exact absurd unrevoked notNone

end Commit

end AccountServer

end LuxSwirl.Server
