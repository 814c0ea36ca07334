import LuxSwirl.Server.CredentialFacts

/-!
# No credential outlives a password change

`credentials_current`: after any statements of sign-ins, token requests, changes and
resets, every session that has not expired and every token that is not revoked goes back
to the password of now, if no purge spares a session that is still accepted or that a
token request in flight relies on. Each statement has a lemma here.

`token_outlives_reset` is a run with such a purge: the session a token request relies on
expires before the DELETE, which leaves it; the stamp that a change stops such a request
by then finds its row, and the token comes after the change.
-/

namespace LuxSwirl.Server
open LuxSwirl.Py LuxSwirl.Lib

namespace AccountServer

variable {bcryptMatches : Text → Text → Bool} {server next : AccountServer} {id other : Id}
  {transaction : AccountTransaction}

/-! ## Signed-in requests -/

theorem Consistent.openRequest (consistent : server.Consistent) {request : AccountRequest}
    (closed : (server.transactions id).phase = .closed)
    (transactions : next.transactions = Function.update server.transactions id
      { request, phase := if request.sessionId.isSome then .opened else .ready })
    (quiet : Quiet server next) (opened : next.opened = id :: server.opened) : next.Consistent := by
  have unlocked : Unlocked id server := by
    have fits := consistent.fit id
    rw [Fits, closed] at fits
    exact fits
  refine consistent.goOn quiet transactions ?_ ?_ ?_ ?_
  · intro other unopened
    rw [opened, List.mem_cons, not_or] at unopened
    exact ⟨unopened.2, fun isId => absurd isId unopened.1⟩
  · split_ifs
    · exact unlocked
    · refine ⟨unlocked, fun through mem => ?_⟩
      cases request <;> cases mem
  · intro through mem
    cases request <;> cases mem
  · split_ifs
    · exact (by simp [AccountPhase.since])
    · exact (by simp [AccountPhase.since])

theorem Consistent.selectSession (consistent : server.Consistent) (stepped : server.selectSession id = some next) :
    next.Consistent := by
  unfold AccountServer.selectSession at stepped
  dsimp only at stepped
  split at stepped
  · rename_i sessionId isPhase isSession
    have unlocked : Unlocked id server := by
      have fits := consistent.fit id
      rw [Fits, isPhase] at fits
      exact fits
    have viewed : (server.sessions sessionId).view id = server.sessions.committed sessionId :=
      view_eq (unlocked.stamps sessionId)
    split at stepped
    · rename_i session isLive
      cases stepped
      refine consistent.goOn ⟨rfl, rfl, rfl, rfl, rfl, rfl, rfl⟩ rfl
        (consistent.opened_of (by simp [isPhase])) ⟨unlocked, ?_⟩ ?_ (by simp [AccountPhase.since])
      · intro through mem
        cases mem
        exact .inl (viewed.symm.trans isLive)
      · exact fun through mem => absurd (ready_of_relies mem) (by simp)
    · cases stepped
      exact consistent.rollback id
  · cases stepped

theorem Consistent.selectUser (consistent : server.Consistent) (stepped : server.selectUser id = some next) :
    next.Consistent := by
  unfold AccountServer.selectUser at stepped
  split at stepped
  · rename_i isPhase
    cases stepped
    have fits := consistent.fit id
    rw [Fits, isPhase] at fits
    exact consistent.setPhase (by simp [isPhase]) fits (by simp) rfl
  · cases stepped

theorem Consistent.verifySession (consistent : server.Consistent) (stepped : server.verifySession id = some next) :
    next.Consistent := by
  unfold AccountServer.verifySession at stepped
  dsimp only at stepped
  split at stepped
  · rename_i user sessionId session isPhase isThrough
    split_ifs at stepped with invalid
    · cases stepped
      exact consistent.rollback id
    · cases stepped
      have fits := consistent.fit id
      rw [Fits, isPhase] at fits
      have unexpired : server.now ≤ session.expiresAt := by
        simp only [Bool.or_eq_true, not_or, SessionRow.isExpired, decide_eq_true_eq, not_lt] at invalid
        exact invalid.1.1
      refine consistent.goOn ⟨rfl, rfl, rfl, rfl, rfl, rfl, rfl⟩ rfl
        (consistent.opened_of (by simp [isPhase])) ⟨fits.1, ?_⟩ ?_ (by simp [AccountPhase.since])
      · intro through mem
        have isRead := through_of_relies mem
        refine ⟨?_, by simp⟩
        rcases fits.2 through isRead with isLive | deleted
        · refine .inr ⟨isLive, ?_⟩
          rcases consistent.sessions _ _ isLive with compared | expired
          · exact compared
          · rw [isThrough] at isRead
            cases isRead
            exact absurd expired (not_lt.mpr unexpired)
        · exact .inl deleted
      · intro through mem other since began
        obtain ⟨waiting, purges⟩ := (consistent.fit other).purges began
        have isRead := through_of_relies mem
        rw [isThrough] at isRead
        cases isRead
        exact .inl (purges.past.trans unexpired)
  · cases stepped

/-- The row a stamp finds is its own, or committed. -/
theorem stamped_of_found {sessionId : Id} {entry : SessionEntry} (found : (server.sessions sessionId).found id = some entry) :
    ∀ other written, Function.update (server.sessions.own id) sessionId (some entry) other = some written →
      server.sessions.own id other = some written ∨ written = server.sessions.committed other := by
  intro other written own
  by_cases same : other = sessionId
  · rw [same, Function.update_self] at own
    cases own
    rw [same]
    rcases Stored.found_eq_some found with own | ⟨-, committed⟩
    · exact .inl own
    · exact .inr committed.symm
  · rw [Function.update_of_ne same] at own
    exact .inl own

/-- A stamp writes the row that it finds. -/
theorem Fits.stamp {sessionId : Id} {read session : SessionRow} (fits : Fits id server transaction)
    (isThrough : transaction.through = some (sessionId, read))
    (found : (server.sessions sessionId).found id = some (.live session))
    (sessions : next.sessions = server.sessions.write id sessionId (.live session)) (user : next.user = server.user)
    (tokens : next.tokens = server.tokens) (keyShares : next.keyShares = server.keyShares)
    (now : next.now = server.now) : Fits id next { transaction with stampPending := false } := by
  have committed : next.sessions.committed = server.sessions.committed := by rw [sessions, Rows.committed_write]
  have own : next.sessions.own id = Function.update (server.sessions.own id) sessionId (some (.live session)) := by
    rw [sessions, Rows.own_write]
  have stamped (other : Id) (written : SessionEntry) (isOwn : next.sessions.own id other = some written) :
      server.sessions.own id other = some written ∨ written = next.sessions.committed other := by
    rw [own] at isOwn
    rw [committed]
    exact stamped_of_found found other written isOwn
  have stamps (before : Stamps id server) : Stamps id next := by
    intro other written isOwn
    rcases stamped other written isOwn with isOwn | isStored
    · rw [committed]
      exact before other written isOwn
    · exact isStored
  have noTokens (before : NoTokens id server) : NoTokens id next := by
    rw [NoTokens, tokens]
    exact before
  have unlocked (before : Unlocked id server) : Unlocked id next :=
    ⟨by rw [user]; exact before.user, stamps before.stamps, noTokens before.tokens,
      by rw [keyShares]; exact before.keyShare⟩
  have locked (before : Locked id server) : Locked id next :=
    ⟨by rw [user]; exact before.user, noTokens before.tokens⟩
  have purges {since : Time} {waiting : List Id} (before : Purges id server since waiting) :
      Purges id next since waiting := by
    refine ⟨by rw [user]; exact before.user, by rw [now]; exact before.past, ?_, ?_⟩
    · intro other written isOwn
      rcases stamped other written isOwn with isOwn | isStored
      · rw [committed]
        exact before.own other written isOwn
      · exact .inl isStored
    · intro other old isLive
      rw [committed] at isLive
      rcases before.all other old isLive with expired | ⟨later, deleted | waits⟩
      · exact .inl expired
      · refine .inr ⟨later, .inl ?_⟩
        have apart : other ≠ sessionId := by
          rintro rfl
          rw [Stored.found_of_own deleted] at found
          cases found
        rw [own, Function.update_of_ne apart]
        exact deleted
      · exact .inr ⟨later, .inr waits⟩
  have revokes (before : Revokes id server) : Revokes id next := by
    refine ⟨?_, ?_⟩
    · rw [tokens]
      exact before.own
    · rw [tokens]
      exact before.all
  obtain ⟨request, phase, stored, pending⟩ := transaction
  cases phase with
  | closed | opened | queued => exact unlocked fits
  | selected | loaded _ =>
    refine ⟨unlocked fits.1, fun through mem => ?_⟩
    rw [Read, committed]
    exact fits.2 through mem
  | ready =>
    refine ⟨unlocked fits.1, fun through mem => ?_⟩
    have before : Relies id server pending through := fits.2 through (by cases request <;> exact mem)
    have isSession : through = (sessionId, read) :=
      Option.some.inj ((Option.mem_def.mp (through_of_relies mem)).symm.trans isThrough)
    have isLive : server.sessions.committed sessionId = .live session := by
      rcases Stored.found_eq_some found with isOwn | ⟨-, isStored⟩
      · exact (fits.1.stamps sessionId _ isOwn).symm
      · exact isStored
    refine ⟨by rw [committed, user]; exact before.trusted, fun _ => ?_⟩
    rw [isSession, own, Function.update_self]
    rcases before.trusted with deleted | ⟨asRead, -⟩
    · rw [isSession, isLive] at deleted
      cases deleted
    · rw [isSession, isLive] at asRead
      exact congrArg some asRead
  | locked | judged | wrong => exact ⟨locked fits.1, stamps fits.2⟩
  | right hash | reset hash => exact ⟨⟨locked fits.1.1, stamps fits.1.2⟩, by rw [user]; exact fits.2⟩
  | settled =>
    refine ⟨locked fits.1, fun other written isOwn => ?_⟩
    rcases stamped other written isOwn with isOwn | isStored
    · rw [committed, user]
      exact fits.2 other written isOwn
    · exact .inl isStored
  | purging since waiting => exact ⟨purges fits.1, noTokens fits.2⟩
  | revoked since | changed since => exact ⟨purges fits.1, revokes fits.2⟩
  | inserted =>
    refine ⟨by rw [user]; exact fits.user, stamps fits.stamps, by rw [keyShares]; exact fits.keyShare, ?_⟩
    rw [tokens, user]
    exact fits.tokens

theorem relies_flushed (transaction : AccountTransaction) (stampPending : Bool) :
    ({ transaction with stampPending } : AccountTransaction).relies = transaction.relies := by
  rcases transaction with ⟨request, phase, stored, pending⟩
  cases request <;> cases phase <;> rfl

theorem Consistent.stamp (consistent : server.Consistent) (stepped : server.stamp id = some next) :
    next.Consistent := by
  unfold AccountServer.stamp at stepped
  dsimp only at stepped
  split at stepped
  · rename_i sessionId read pending isThrough
    split at stepped
    · cases stepped
    · rename_i session found
      cases stepped
      have known : sessionId ∈ server.sessionIds := by
        by_contra unknown
        rw [consistent.sessionIds sessionId unknown] at found
        cases found
      refine consistent.writeSession (fun closed => closed) found known (List.Subset.refl _)
        ((consistent.fit id).stamp isThrough found rfl rfl rfl rfl rfl) ?_ fun _ isSince => isSince
      intro through mem
      rwa [relies_flushed] at mem
    · cases stepped
      exact consistent.rollback id
  · cases stepped

/-! ## The user's row -/

theorem Consistent.queueOnUsername (consistent : server.Consistent) (stepped : server.queueOnUsername id = some next) :
    next.Consistent := by
  unfold AccountServer.queueOnUsername at stepped
  dsimp only at stepped
  split at stepped
  · rename_i isPhase
    split_ifs at stepped
    cases stepped
    have fits := consistent.fit id
    rw [Fits, isPhase] at fits
    exact consistent.goOn ⟨rfl, rfl, rfl, rfl, rfl, rfl, rfl⟩ rfl (consistent.opened_of (by simp [isPhase]))
      fits.1 (fun through mem => absurd (ready_of_relies mem) (by simp)) (by simp [AccountPhase.since])
  · cases stepped

theorem Consistent.judge (consistent : server.Consistent) (stepped : server.judge id = some next) : next.Consistent := by
  unfold AccountServer.judge at stepped
  dsimp only at stepped
  split at stepped
  · rename_i isPhase
    have fits := consistent.fit id
    rw [Fits, isPhase] at fits
    have kept (phase : AccountPhase) : (server.transactions id).phase = .closed → phase = .closed := by
      simp [isPhase]
    split_ifs at stepped
    · cases stepped
      exact consistent.setPhase (kept _) ⟨fits.1, fits.2.opens⟩ (by simp) rfl
    · cases stepped
      exact consistent.setPhase (kept _) fits (by simp) rfl
  · cases stepped

theorem Consistent.compare (consistent : server.Consistent) (stepped : server.compare bcryptMatches id = some next) :
    next.Consistent := by
  unfold AccountServer.compare at stepped
  dsimp only at stepped
  split at stepped
  · rename_i password isPhase isPassword
    have fits := consistent.fit id
    rw [Fits, isPhase] at fits
    have kept (phase : AccountPhase) : (server.transactions id).phase = .closed → phase = .closed := by
      simp [isPhase]
    cases stepped
    split_ifs
    · exact consistent.setPhase (kept _) ⟨fits, fits.1.view⟩ (by simp) rfl
    · exact consistent.setPhase (kept _) fits (by simp) rfl
  · cases stepped

theorem Consistent.count (consistent : server.Consistent) {settings : SecuritySettings}
    (stepped : server.count id settings = some next) : next.Consistent := by
  unfold AccountServer.count at stepped
  split at stepped
  · rename_i user isPhase found
    cases stepped
    have fits := consistent.fit id
    rw [Fits, isPhase] at fits
    refine consistent.writeUser (by simp [isPhase]) found (consistent.unshared fits.1.own_ne_none)
      ⟨⟨⟨_, Stored.own_write .., ?_⟩, fits.1.tokens⟩, fits.2.opens⟩ (by simp) (by simp [AccountPhase.since])
    exact (fits.1.found found : user.passwordHash = _)
  · cases stepped

theorem Consistent.reset (consistent : server.Consistent) (stepped : server.reset id = some next) : next.Consistent := by
  unfold AccountServer.reset at stepped
  split at stepped
  · rename_i hash user isPhase found
    cases stepped
    have fits := consistent.fit id
    rw [Fits, isPhase] at fits
    refine consistent.writeUser (by simp [isPhase]) found (consistent.unshared fits.1.1.own_ne_none)
      ⟨⟨⟨⟨_, Stored.own_write .., ?_⟩, fits.1.1.tokens⟩, fits.1.2⟩, fits.2⟩ (by simp) (by simp [AccountPhase.since])
    exact (fits.1.1.found found : user.passwordHash = _)
  · cases stepped

theorem Consistent.refuse (consistent : server.Consistent) (stepped : server.refuse id = some next) :
    next.Consistent := by
  unfold AccountServer.refuse at stepped
  dsimp only at stepped
  split at stepped
  · rename_i hash isPhase
    split_ifs at stepped
    cases stepped
    have fits := consistent.fit id
    rw [Fits, isPhase] at fits
    exact consistent.setPhase (by simp [isPhase]) ⟨fits.1.1, fits.1.2.opens⟩ (by simp) rfl
  · cases stepped

theorem Consistent.createSession (consistent : server.Consistent) {sessionId : Id} {lifetime : Nat}
    (stepped : server.createSession id sessionId lifetime = some next) : next.Consistent := by
  unfold AccountServer.createSession at stepped
  dsimp only at stepped
  split at stepped
  · rename_i password hash isRequest isPhase
    split_ifs at stepped with isKnown
    cases stepped
    have fits := consistent.fit id
    rw [Fits, isPhase] at fits
    have unused := consistent.sessionIds sessionId fun mem => isKnown (List.contains_iff_mem.mpr mem)
    have found : (server.sessions sessionId).found id = some .unused := by rw [unused]; rfl
    refine consistent.writeSession (by simp [isPhase]) found (List.mem_cons_self ..)
      (List.subset_cons_self ..) ⟨⟨fits.1.1.user, fits.1.1.tokens⟩, fun other entry own => ?_⟩
      (fun through mem => absurd (ready_of_relies mem) (by simp)) (by simp [AccountPhase.since])
    have isOwn : (server.sessions.write id sessionId _).own id other = some entry := own
    have committed : (server.sessions.write id sessionId
        (.live ⟨server.now + minutes (lifetime * 24 * 60), hash⟩)).committed = server.sessions.committed :=
      Rows.committed_write
    rw [Rows.own_write] at isOwn
    by_cases same : other = sessionId
    · rw [same, Function.update_self] at isOwn
      cases isOwn
      refine .inr ⟨?_, _, rfl, fits.2⟩
      show (server.sessions.write id sessionId _).committed other = _
      rw [committed, same, Rows.committed, unused]
    · rw [Function.update_of_ne same] at isOwn
      refine .inl ?_
      show entry = (server.sessions.write id sessionId _).committed other
      rw [committed]
      exact fits.1.2 other entry isOwn
  · cases stepped

/-! ## The change -/

theorem locked_of_purgesNext (purges : transaction.purgesNext = true) (fits : Fits id server transaction) :
    (Locked id server ∧ Stamps id server) ∧ transaction.phase ≠ .closed := by
  have isNext : transaction.phase = .locked ∨ ∃ hash, transaction.phase = .reset hash := by
    obtain ⟨request, phase, stored, pending⟩ := transaction
    cases request <;> cases phase <;> simp [AccountTransaction.purgesNext] at purges ⊢
  rw [Fits] at fits
  rcases isNext with isPhase | ⟨hash, isPhase⟩
  · rw [isPhase] at fits
    exact ⟨fits, by simp [isPhase]⟩
  · rw [isPhase] at fits
    exact ⟨fits.1, by simp [isPhase]⟩

theorem Consistent.purge (consistent : server.Consistent) (allowed : server.purgesAll (.purge id) = true)
    (stepped : server.purge id = some next) : next.Consistent := by
  unfold AccountServer.purge at stepped
  dsimp only at stepped
  split_ifs at stepped with purgesNext
  cases stepped
  obtain ⟨⟨locked, stamps⟩, unclosed⟩ := locked_of_purgesNext purgesNext (consistent.fit id)
  obtain ⟨none_now, none_relied⟩ := Bool.and_eq_true_iff.mp allowed
  refine consistent.goOn ⟨rfl, rfl, rfl, rfl, rfl, rfl, rfl⟩ rfl (consistent.opened_of fun closed => absurd closed unclosed)
    ⟨⟨locked.own_ne_none, le_rfl, fun sessionId entry own => .inl (stamps sessionId entry own), ?_⟩, locked.tokens⟩
    (fun through mem => absurd (ready_of_relies mem) (by simp)) ?_
  · intro sessionId session isLive
    have known := consistent.known isLive
    have apart : session.expiresAt ≠ server.now := by
      have spared := List.all_eq_true.mp none_now sessionId known
      rw [isLive] at spared
      exact of_decide_eq_true spared
    rcases lt_or_gt_of_ne apart with expired | later
    · exact .inl expired
    · refine .inr ⟨later, .inr (List.mem_filter.mpr ⟨known, ?_⟩)⟩
      have viewed : (server.sessions sessionId).view id = .live session :=
        (view_eq (stamps sessionId)).trans isLive
      rw [viewed]
      exact decide_eq_true later
  · intro since began other through mem
    cases began
    have isOpened : other ∈ server.opened := by
      by_contra unopened
      have isReady := ready_of_relies mem
      rw [consistent.opened other unopened] at isReady
      cases isReady
    have relied := List.all_eq_true.mp none_relied other isOpened
    rw [Option.mem_def.mp mem] at relied
    simp only [Option.all_some, Bool.or_eq_true, decide_eq_true_eq, beq_iff_eq] at relied
    exact relied.imp_left le_of_lt

theorem Consistent.deleteSession (consistent : server.Consistent) {sessionId : Id}
    (stepped : server.deleteSession id sessionId = some next) : next.Consistent := by
  unfold AccountServer.deleteSession at stepped
  split at stepped
  · rename_i since waiting entry isPhase found
    split_ifs at stepped
    have fits := consistent.fit id
    rw [Fits, isPhase] at fits
    obtain ⟨purges, noTokens⟩ := fits
    dsimp only at stepped
    have kept (phase : AccountPhase) : (server.transactions id).phase = .closed → phase = .closed := by
      simp [isPhase]
    have waits {other : Id} (mem : other ∈ waiting) (apart : other ≠ sessionId) :
        other ∈ waiting.filter fun other => decide (other ≠ sessionId) :=
      List.mem_filter.mpr ⟨mem, decide_eq_true apart⟩
    split at stepped
    · rename_i session
      cases stepped
      have known : sessionId ∈ server.sessionIds := by
        by_contra unknown
        rw [consistent.sessionIds sessionId unknown] at found
        cases found
      have committed : (server.sessions.write id sessionId .deleted).committed = server.sessions.committed :=
        Rows.committed_write
      have own : (server.sessions.write id sessionId .deleted).own id =
          Function.update (server.sessions.own id) sessionId (some .deleted) := Rows.own_write
      refine consistent.writeSession (kept _) found known (List.Subset.refl _) ⟨⟨purges.user, purges.past, ?_, ?_⟩, noTokens⟩
        (fun through mem => absurd (ready_of_relies mem) (by simp)) fun since' isSince => by rw [isPhase]; exact isSince
      · show ∀ other written, (server.sessions.write id sessionId .deleted).own id other = some written →
          written = (server.sessions.write id sessionId .deleted).committed other ∨ written = .deleted
        rw [own, committed]
        intro other written isOwn
        by_cases same : other = sessionId
        · rw [same, Function.update_self] at isOwn
          exact .inr (Option.some.inj isOwn).symm
        · rw [Function.update_of_ne same] at isOwn
          exact purges.own other written isOwn
      · show ∀ other old, (server.sessions.write id sessionId .deleted).committed other = .live old →
          old.expiresAt < since ∨ since < old.expiresAt ∧
            ((server.sessions.write id sessionId .deleted).own id other = some .deleted ∨ other ∈ waiting.filter _)
        rw [own, committed]
        intro other old isLive
        refine (purges.all other old isLive).imp_right (And.imp_right fun gone => ?_)
        by_cases same : other = sessionId
        · rw [same, Function.update_self]
          exact .inl rfl
        · rw [Function.update_of_ne same]
          exact gone.imp_right fun mem => waits mem same
    · rename_i notLive
      cases stepped
      refine consistent.goOn ⟨rfl, rfl, rfl, rfl, rfl, rfl, rfl⟩ rfl (consistent.opened_of (kept _))
        ⟨⟨purges.user, purges.past, purges.own, ?_⟩, noTokens⟩ (fun through mem => absurd (ready_of_relies mem) (by simp)) ?_
      · intro other old isLive
        refine (purges.all other old isLive).imp_right (And.imp_right fun gone => ?_)
        by_cases same : other = sessionId
        · subst same
          rcases Stored.found_eq_some found with isOwn | ⟨-, isStored⟩
          · rcases purges.own other entry isOwn with isStored | deleted
            · exact absurd (isStored.trans isLive) (notLive old)
            · exact .inl (deleted ▸ isOwn)
          · exact absurd (isStored.symm.trans isLive) (notLive old)
        · exact gone.imp_right fun mem => waits mem same
      · intro since' began other through mem
        exact consistent.spared other id since' through mem (by rw [isPhase]; exact began)
  · cases stepped

theorem revoke_eq_some {now : Time} {entry : Option TokenRow} {revoked : Option TokenRow}
    (isRevoked : revoke now entry = some revoked) : ∃ token, revoked = some token ∧ token.revokedAt ≠ none := by
  cases entry with
  | none => cases isRevoked
  | some token =>
    rw [revoke] at isRevoked
    split_ifs at isRevoked
    cases isRevoked
    exact ⟨_, rfl, by simp⟩

theorem Consistent.revokeTokens (consistent : server.Consistent) (stepped : server.revokeTokens id = some next) :
    next.Consistent := by
  unfold AccountServer.revokeTokens at stepped
  split at stepped
  · rename_i since isPhase
    split_ifs at stepped with free
    cases stepped
    have fits := consistent.fit id
    rw [Fits, isPhase] at fits
    obtain ⟨purges, noTokens⟩ := fits
    refine consistent.beside ⟨rfl, fun other apart => ?_, rfl, rfl, rfl, Rows.committed_updateWhere _⟩
      ⟨⟨purges.user, purges.past, purges.own, purges.all⟩, ?_, ?_⟩ consistent.free
      (fun through mem => absurd (ready_of_relies mem) (by simp)) ?_ (consistent.opened_of (by simp [isPhase]))
      consistent.sessionIds ?_
    · exact ⟨le_rfl, rfl, rfl, fun _ => Rows.committed_updateWhere _, rfl, rfl, Rows.own_updateWhere_other _ apart, Iff.rfl⟩
    · intro tokenId entry own
      have isOwn : (server.tokens.updateWhere id (revoke server.now)).own id tokenId = some entry := own
      have none_ : server.tokens.own id tokenId = none := noTokens tokenId
      rw [Rows.own_updateWhere, none_, Option.or_none] at isOwn
      obtain ⟨old, -, isRevoked⟩ := Option.bind_eq_some_iff.mp isOwn
      exact revoke_eq_some isRevoked
    · intro tokenId token isToken unrevoked
      have isStored : server.tokens.committed tokenId = some token := by
        rw [← Rows.committed_updateWhere (revoke server.now)]
        exact isToken
      have known : tokenId ∈ server.tokenIds := by
        by_contra unknown
        rw [Rows.committed, consistent.tokenIds tokenId unknown] at isStored
        cases isStored
      obtain ⟨old, found⟩ := Option.isSome_iff_exists.mp (List.all_eq_true.mp free tokenId known)
      have isOld : old = some token := (Stored.found_unwritten (noTokens tokenId) found).trans isStored
      show (server.tokens.updateWhere id (revoke server.now)).own id tokenId ≠ none
      rw [Rows.own_updateWhere, found, isOld]
      simp [revoke, unrevoked]
    · intro since' began other through mem
      exact consistent.spared other id since' through mem (by rw [isPhase]; exact began)
    · intro tokenId unknown
      show server.tokens.updateWhere id (revoke server.now) tokenId = _
      rw [Rows.updateWhere, consistent.tokenIds tokenId unknown]
      rfl
  · cases stepped

theorem Consistent.flushHash (consistent : server.Consistent) {hash : Text}
    (stepped : server.flushHash bcryptMatches id hash = some next) : next.Consistent := by
  unfold AccountServer.flushHash at stepped
  dsimp only at stepped
  split at stepped
  · rename_i since newPassword user isPhase isNew found
    split_ifs at stepped
    cases stepped
    have fits := consistent.fit id
    rw [Fits, isPhase] at fits
    obtain ⟨purges, revokes⟩ := fits
    refine consistent.writeUser (by simp [isPhase]) found (consistent.unshared purges.user)
      ⟨⟨?_, purges.past, purges.own, purges.all⟩, revokes.own, revokes.all⟩ (by simp) fun since' isSince => ?_
    · show (server.user.write id _).own id ≠ none
      rw [Stored.own_write]
      simp
    · rw [isPhase]
      exact isSince
  · cases stepped

theorem Consistent.insertToken (consistent : server.Consistent) {tokenId : Id}
    (stepped : server.insertToken id tokenId = some next) : next.Consistent := by
  unfold AccountServer.insertToken at stepped
  dsimp only at stepped
  split at stepped
  · rename_i sessionId session isRelied
    split_ifs at stepped with refused
    cases stepped
    simp only [Bool.or_eq_true, not_or, Bool.not_eq_true, Option.isSome_eq_false_iff, Option.isNone_iff_eq_none,
      List.contains_eq_mem, decide_eq_false_iff_not] at refused
    obtain ⟨⟨flushed, free⟩, unknown⟩ := refused
    have isPhase := ready_of_relies isRelied
    have fits := consistent.fit id
    rw [Fits, isPhase] at fits
    obtain ⟨unlocked, relied⟩ := fits
    obtain ⟨trusted, stamped⟩ := relied _ isRelied
    have isStored := unlocked.stamps sessionId _ (stamped flushed)
    have compared : session.compared = server.user.committed.passwordHash := by
      rcases trusted with deleted | ⟨-, compared⟩
      · cases isStored.trans deleted
      · exact compared
    have found : (server.tokens tokenId).found id = some none := by
      rw [consistent.tokenIds tokenId unknown]
      rfl
    refine consistent.beside ⟨rfl, fun other apart => ?_, rfl, rfl, rfl, Rows.committed_write⟩
      ⟨unlocked.user, unlocked.stamps, List.mem_cons_self .., ?_⟩ (fun _ _ => free)
      (fun through mem => absurd (ready_of_relies mem) (by simp)) (by simp [AccountPhase.since]) (consistent.opened_of (by simp [isPhase]))
      consistent.sessionIds ?_
    · refine ⟨le_rfl, rfl, rfl, fun _ => Rows.committed_write, rfl, rfl, Rows.own_write_other found apart, ?_⟩
      show other ∈ id :: server.keyShares ↔ _
      rw [List.mem_cons, or_iff_right apart]
    · intro other entry own
      have isOwn : (server.tokens.write id tokenId (some { compared := session.compared })).own id other = some entry := own
      rw [Rows.own_write] at isOwn
      by_cases same : other = tokenId
      · rw [same, Function.update_self] at isOwn
        cases isOwn
        exact ⟨_, rfl, compared⟩
      · rw [Function.update_of_ne same, unlocked.tokens other] at isOwn
        cases isOwn
    · intro other unused
      have apart : other ≠ tokenId ∧ other ∉ server.tokenIds := by
        rwa [List.mem_cons, not_or] at unused
      show server.tokens.write id tokenId _ other = _
      rw [Rows.write, Function.update_of_ne apart.1]
      exact consistent.tokenIds other apart.2
  · cases stepped

theorem Consistent.tick (consistent : server.Consistent) {later : Time} (forward : server.now ≤ later) :
    Consistent { server with now := later } where
  fit id :=
    have same : Same id server { server with now := later } := ⟨forward, rfl, rfl, fun _ => rfl, rfl, rfl, rfl, Iff.rfl⟩
    same.fits (consistent.fit id)
  free := consistent.free
  spared := consistent.spared
  opened := consistent.opened
  sessionIds := consistent.sessionIds
  tokenIds := consistent.tokenIds
  sessions sessionId session isLive := (consistent.sessions sessionId session isLive).imp_right fun expired =>
    expired.trans_le forward
  tokens := consistent.tokens

/-! ## Runs -/

theorem Consistent.commit (consistent : server.Consistent) (stepped : server.commit id = some next) :
    next.Consistent := by
  unfold AccountServer.commit at stepped
  dsimp only at stepped
  split_ifs at stepped
  have fits := consistent.fit id
  split at stepped
  · rename_i isPhase
    cases stepped
    rw [Fits, isPhase] at fits
    exact consistent.commitSessions ⟨rfl, rfl, rfl, rfl, rfl, rfl, rfl, rfl, rfl⟩ fits.1 fits.2
  · rename_i since isPhase
    cases stepped
    rw [Fits, isPhase] at fits
    exact consistent.commitChange ⟨rfl, rfl, rfl, rfl, rfl, rfl, rfl, rfl, rfl⟩ (by rw [isPhase]; rfl) fits.1 fits.2
  · rename_i isPhase
    cases stepped
    rw [Fits, isPhase] at fits
    exact consistent.commitToken ⟨rfl, rfl, rfl, rfl, rfl, rfl, rfl, rfl, rfl⟩ fits
  · cases stepped

/-- **One statement** keeps what is known, unless a purge spares too much. -/
theorem Consistent.step (consistent : server.Consistent) {statement : AccountStatement}
    (allowed : server.purgesAll statement = true) (stepped : server.step bcryptMatches statement = some next) :
    next.Consistent := by
  cases statement with
  | tick later =>
    rw [AccountServer.step] at stepped
    split_ifs at stepped with forward
    cases stepped
    exact consistent.tick forward
  | openRequest id request =>
    rw [AccountServer.step] at stepped
    split at stepped
    · rename_i closed
      cases stepped
      exact consistent.openRequest closed rfl ⟨rfl, rfl, rfl, rfl, rfl, rfl, rfl⟩ rfl
    · cases stepped
  | selectSession id => exact consistent.selectSession stepped
  | selectUser id => exact consistent.selectUser stepped
  | verifySession id => exact consistent.verifySession stepped
  | stamp id => exact consistent.stamp stepped
  | queueOnUsername id => exact consistent.queueOnUsername stepped
  | lockRow id => exact consistent.lockRow stepped
  | judge id => exact consistent.judge stepped
  | compare id => exact consistent.compare stepped
  | count id settings => exact consistent.count stepped
  | reset id => exact consistent.reset stepped
  | refuse id => exact consistent.refuse stepped
  | createSession id sessionId lifetime => exact consistent.createSession stepped
  | purge id => exact consistent.purge allowed stepped
  | deleteSession id sessionId => exact consistent.deleteSession stepped
  | revokeTokens id => exact consistent.revokeTokens stepped
  | flushHash id hash => exact consistent.flushHash stepped
  | insertToken id tokenId => exact consistent.insertToken stepped
  | commit id => exact consistent.commit stepped
  | rollback id =>
    cases stepped
    exact consistent.rollback id

/-- **No credential outlives a password change**, in a run whose purges spare no session
that is still accepted or relied on. -/
theorem credentials_current {start : AccountServer} (idle : start.Idle) (current : start.Current)
    (run : Runs (step bcryptMatches) purgesAll start server) : server.Current :=
  (run.keeps (fun _ _ _ allowed stepped consistent => consistent.step allowed stepped)
    (idle.consistent current)).current

/-- A hash that is a mark before the password. -/
def plainMatches (password hash : Text) : Bool := decide (hash = text "$" ++ password)

/-- An account without sessions. -/
def newAccount : AccountServer where
  now := 0
  user := ⟨{ username := text "ada", passwordHash := text "$old" }, none⟩

theorem newAccount_idle : newAccount.Idle :=
  ⟨rfl, fun _ => rfl, fun _ => rfl, rfl, fun _ => rfl, fun _ _ => rfl, fun _ _ => rfl⟩

theorem newAccount_current : newAccount.Current := ⟨by rintro _ _ ⟨⟩, by rintro _ _ ⟨⟩⟩

/-- A sign-in, and a token request that has verified the session. -/
def signedIn : List AccountStatement :=
  [.openRequest 1 (.signIn (text "old")), .queueOnUsername 1, .lockRow 1, .judge 1, .compare 1, .reset 1,
    .createSession 1 7 1, .commit 1,
    .openRequest 2 (.createToken 7), .selectSession 2, .selectUser 2, .verifySession 2]

/-- The token is created, and the password changed in another session. -/
def changed : List AccountStatement :=
  signedIn ++ [.stamp 2, .insertToken 2 9, .commit 2,
    .openRequest 3 (.changePassword 7 (text "old") (text "new")), .selectSession 3, .selectUser 3, .verifySession 3,
    .queueOnUsername 3, .lockRow 3, .judge 3, .compare 3, .reset 3, .purge 3, .deleteSession 3 7, .revokeTokens 3,
    .flushHash 3 (text "$new"), .commit 3]

theorem credentials_current_changed : ∃ last,
    runAll (step plainMatches) purgesAll changed newAccount = some last ∧ last.Current ∧
      last.user.committed.passwordHash = text "$new" := by
  have ran : (runAll (step plainMatches) purgesAll changed newAccount).map (·.user.committed.passwordHash) =
      some (text "$new") := by decide
  obtain ⟨last, isLast, isNew⟩ := Option.map_eq_some_iff.mp ran
  exact ⟨last, isLast, credentials_current newAccount_idle newAccount_current (.of_runAll isLast), isNew⟩

/-- The password is reset while the request is at work, after its session has expired. -/
def resetMeanwhile : List AccountStatement :=
  signedIn ++ [.openRequest 3 (.resetPassword none (text "new")), .lockRow 3, .tick (minutes (24 * 60) + 1),
    .purge 3, .revokeTokens 3, .flushHash 3 (text "$new"), .commit 3, .stamp 2, .insertToken 2 9, .commit 2]

/-- The token of a session opened with the old password comes after the reset. -/
theorem token_outlives_reset : newAccount.Idle ∧ newAccount.Current ∧ ∃ last,
    runAll (step plainMatches) (fun _ _ => true) resetMeanwhile newAccount = some last ∧ ¬ last.Current := by
  have ran : (runAll (step plainMatches) (fun _ _ => true) resetMeanwhile newAccount).map
      (fun last => (last.tokens.committed 9, last.user.committed.passwordHash)) =
        some (some ⟨text "$old", none⟩, text "$new") := by decide
  obtain ⟨last, isLast, tables⟩ := Option.map_eq_some_iff.mp ran
  obtain ⟨isToken, isNew⟩ := Prod.mk.inj tables
  refine ⟨newAccount_idle, newAccount_current, last, isLast, fun current => ?_⟩
  have compared := current.tokens 9 _ isToken rfl
  rw [isNew] at compared
  exact absurd compared (by decide)

end AccountServer

end LuxSwirl.Server
