import LuxSwirl.Lib.Interleaving
import LuxSwirl.Lib.Lockout
import LuxSwirl.Lib.Sessions
import LuxSwirl.Server.Models
import Mathlib.Tactic.Linarith

/-!
# The account lockout

`auth_core_service.py` and `user_crud.py`: a sign-in (`authenticate_user`) and a
current-password check (`change_password`) queue on the username, lock the user's row,
look at its lock and its failure count, compare the password with the stored hash and
count a wrong one, all in one transaction. Both locks are held until it commits.

The server here takes the statements of these two kinds of requests for one account,
in any order. A check of the password of a locked or inactive account is against a
hash no password has, and is not a comparison. A check's request also stamps the row
of its own session at its commit; none of these requests deletes that row.
-/

namespace LuxSwirl.Server
open LuxSwirl.Py LuxSwirl.Lib

/-- The settings of the lockout, within the bounds their validation keeps. -/
structure SecuritySettings where
  maxFailedAttempts : Nat
  accountLockDurationMinutes : Nat
  attempts_bounds : 3 ≤ maxFailedAttempts ∧ maxFailedAttempts ≤ 10
  duration_bounds : 5 ≤ accountLockDurationMinutes ∧ accountLockDurationMinutes ≤ 1440

def SecuritySettings.lockDuration (settings : SecuritySettings) : Time :=
  minutes settings.accountLockDurationMinutes

/-- A row of `users`, as far as signing in depends on it. -/
structure LoginRow where
  username : Text
  isActive : Bool := true
  failedLoginAttempts : Nat := 0
  lockedUntil : Option Time := none
  deriving DecidableEq

namespace LoginRow

def isLocked (now : Time) (user : LoginRow) : Bool :=
  user.lockedUntil.any fun lockedUntil => decide (now < lockedUntil)

/-- The UPDATE of `record_failed_login`, with the lock `_count_failure` asks for. -/
def recordFailedLogin (settings : SecuritySettings) (now : Time) (user : LoginRow) : LoginRow :=
  let raised := user.failedLoginAttempts + 1
  { user with
    failedLoginAttempts := raised
    lockedUntil :=
      if settings.maxFailedAttempts ≤ raised then some (now + settings.lockDuration)
      else user.lockedUntil }

/-- What the right password leaves. -/
def resetFailedLogins (user : LoginRow) : LoginRow :=
  { user with failedLoginAttempts := 0, lockedUntil := none }

end LoginRow

/-- A sign-in, or a signed-in user's current-password check, and whether the password
it brings is the right one. -/
inductive PasswordRequest where
  | signIn (username : Text) (right : Bool)
  | currentPassword (right : Bool)

def PasswordRequest.right : PasswordRequest → Bool
  | .signIn _ right | .currentPassword right => right

/-- Whether the request's SELECT finds the account. -/
def PasswordRequest.finds (user : LoginRow) : PasswordRequest → Bool
  | .signIn username _ => user.username == username
  | .currentPassword _ => true

inductive LoginSession where
  | unopened
  | opened (request : PasswordRequest)
  /-- It knows the username to queue on. -/
  | named (request : PasswordRequest) (username : Text)
  /-- It holds the username's advisory lock. -/
  | queued (request : PasswordRequest) (username : Text)
  /-- It has the user's row, locked. -/
  | read (request : PasswordRequest) (username : Text)
  /-- It has found the account neither locked nor inactive. -/
  | judged (request : PasswordRequest) (username : Text)
  /-- It has compared a wrong password with the stored hash. -/
  | wrong (username : Text)
  /-- It has compared the right one. -/
  | right (username : Text)
  /-- It has counted the failure. -/
  | counted (username : Text)
  | reset (username : Text)
  /-- The request ends without a comparison. -/
  | refused (username : Text)
  | closed

/-- The wrong password compared is not in the committed count yet. -/
def LoginSession.inFlight : LoginSession → Bool
  | .wrong _ | .counted _ => true
  | _ => false

/-- It has not come to the user's row yet. -/
def LoginSession.unread : LoginSession → Bool
  | .unopened | .opened _ | .named _ _ | .queued _ _ => true
  | _ => false

def LoginSession.isClosed : LoginSession → Bool
  | .closed => true
  | _ => false

/-- The clock, the stored user, who holds the advisory lock of which key, the sessions,
and the comparisons of wrong passwords, the newest first. -/
structure LoginServer where
  now : Time
  stored : Stored Id LoginRow
  queue : Int → Option Id := fun _ => none
  sessions : Id → LoginSession := fun _ => .unopened
  comparisons : List (Id × Time) := []

inductive LoginStatement where
  | tick (now : Time)
  | openRequest (id : Id) (request : PasswordRequest)
  /-- The SELECT of the username, without a lock; a sign-in brings it. -/
  | readUsername (id : Id)
  /-- `_queue_on_username` -/
  | queueOnUsername (id : Id)
  /-- `_locked_where` -/
  | lockRow (id : Id)
  /-- A lock wait ran out: the request is refused as busy. -/
  | giveUp (id : Id)
  | judge (id : Id)
  | compare (id : Id)
  /-- `_count_failure` -/
  | count (id : Id)
  | reset (id : Id)
  | commit (id : Id)

namespace LoginServer

def setSession (id : Id) (session : LoginSession) (server : LoginServer) : LoginServer :=
  { server with sessions := Function.update server.sessions id session }

-- PostgreSQL's `hashtext`, by which usernames share a lock
variable (settings : SecuritySettings) (hashtext : Text → Int)

/-- The advisory lock is released with the transaction. -/
def leaveQueue (id : Id) (username : Text) (server : LoginServer) : LoginServer :=
  if server.queue (hashtext username) = some id then
    { server with queue := Function.update server.queue (hashtext username) none }
  else server

def readUsername (id : Id) (server : LoginServer) : Option LoginServer :=
  match server.sessions id with
  | .opened (.signIn username right) =>
    some (server.setSession id (.named (.signIn username right) username))
  | .opened (.currentPassword right) =>
    some (server.setSession id (.named (.currentPassword right) server.stored.committed.username))
  | _ => none

/-- A session waits while another one holds the lock. -/
def queueOnUsername (id : Id) (server : LoginServer) : Option LoginServer :=
  match server.sessions id with
  | .named request username =>
    if server.queue (hashtext username) = none then
      some { server.setSession id (.queued request username) with
        queue := Function.update server.queue (hashtext username) (some id) }
    else none
  | _ => none

/-- `SELECT … FOR UPDATE`: the newest version, once no other session holds the row. -/
def lockRow (id : Id) (server : LoginServer) : Option LoginServer :=
  match server.sessions id, server.stored.found id with
  | .queued request username, some user =>
    if request.finds user then
      some { server.setSession id (.read request username) with
        stored := server.stored.write id user }
    else some (server.setSession id (.refused username))
  | _, _ => none

def giveUp (id : Id) (server : LoginServer) : Option LoginServer :=
  match server.sessions id with
  | .named _ username | .queued _ username =>
    some ((server.setSession id .closed).leaveQueue hashtext id username)
  | _ => none

def judge (id : Id) (server : LoginServer) : Option LoginServer :=
  match server.sessions id with
  | .read request username =>
    let user := server.stored.view id
    some (server.setSession id
      (if user.isLocked server.now || !user.isActive then .refused username
       else .judged request username))
  | _ => none

def compare (id : Id) (server : LoginServer) : Option LoginServer :=
  match server.sessions id with
  | .judged request username =>
    if request.right then some (server.setSession id (.right username))
    else
      some { server.setSession id (.wrong username) with
        comparisons := (id, server.now) :: server.comparisons }
  | _ => none

def count (id : Id) (server : LoginServer) : Option LoginServer :=
  match server.sessions id, server.stored.found id with
  | .wrong username, some user =>
    some { server.setSession id (.counted username) with
      stored := server.stored.write id (user.recordFailedLogin settings server.now) }
  | _, _ => none

def reset (id : Id) (server : LoginServer) : Option LoginServer :=
  match server.sessions id, server.stored.found id with
  | .right username, some user =>
    some { server.setSession id (.reset username) with
      stored := server.stored.write id user.resetFailedLogins }
  | _, _ => none

def commit (id : Id) (server : LoginServer) : Option LoginServer :=
  match server.sessions id with
  | .counted username | .reset username | .refused username =>
    some (({ server.setSession id .closed with
      stored := server.stored.commit id } : LoginServer).leaveQueue hashtext id username)
  | _ => none

/-- The server after a statement, if it can run now. -/
def step : LoginStatement → LoginServer → Option LoginServer
  | .tick now, server => some { server with now }
  | .openRequest id request, server =>
    match server.sessions id with
    | .unopened => some (server.setSession id (.opened request))
    | _ => none
  | .readUsername id, server => server.readUsername id
  | .queueOnUsername id, server => server.queueOnUsername hashtext id
  | .lockRow id, server => server.lockRow id
  | .giveUp id, server => server.giveUp hashtext id
  | .judge id, server => server.judge id
  | .compare id, server => server.compare id
  | .count id, server => server.count settings id
  | .reset id, server => server.reset id
  | .commit id, server => server.commit hashtext id

/-- The clock does not go back, and no right password is compared. -/
def guessing (server : LoginServer) : LoginStatement → Bool
  | .tick now => decide (server.now ≤ now)
  | .compare id =>
    match server.sessions id with
    | .judged request _ => !request.right
    | _ => true
  | _ => true

/-- No request has come yet. -/
structure Idle (server : LoginServer) : Prop where
  held : server.stored.held = none
  sessions : ∀ id, server.sessions id = .unopened
  comparisons : server.comparisons = []

end LoginServer

/-! ## What a run keeps -/

variable {settings : SecuritySettings} {hashtext : Text → Int} {start : Nat} {now : Time}
  {committed user : LoginRow} {comparisons : List (Id × Time)} {id : Id} {server : LoginServer}

/-- The comparisons are in the row's count, and the row is locked for the newest if the
budget is spent. -/
structure Tallied (settings : SecuritySettings) (start : Nat) (user : LoginRow)
    (comparisons : List (Id × Time)) : Prop where
  count : user.failedLoginAttempts = start + comparisons.length
  locked : settings.maxFailedAttempts ≤ user.failedLoginAttempts → ∀ last ∈ comparisons.head?,
    ∃ lockedUntil, user.lockedUntil = some lockedUntil ∧
      last.2 + settings.lockDuration ≤ lockedUntil

/-- Counting the newest comparison. -/
theorem Tallied.recordFailedLogin {last : Id × Time} (tallied : Tallied settings start user comparisons)
    (past : last.2 ≤ now) :
    Tallied settings start (user.recordFailedLogin settings now) (last :: comparisons) where
  count := by
    simp only [LoginRow.recordFailedLogin, tallied.count, List.length_cons]
    omega
  locked full last' isLast := by
    obtain rfl : last = last' := by simpa using isLast
    exact ⟨now + settings.lockDuration, if_pos full, by linarith⟩

/-- An account that is not locked lets a comparison follow the newest only after the
lock that one set. -/
theorem Tallied.paused (tallied : Tallied settings start user comparisons)
    (unlocked : user.isLocked now = false)
    (full : settings.maxFailedAttempts ≤ start + comparisons.length) :
    ∀ last ∈ comparisons.head?, last.2 + settings.lockDuration ≤ now := by
  intro last isLast
  obtain ⟨lockedUntil, isLocked, le⟩ := tallied.locked (tallied.count ▸ full) last isLast
  rw [LoginRow.isLocked, isLocked, Option.any_some, decide_eq_false_iff_not, not_lt] at unlocked
  exact le.trans unlocked

namespace LoginSession

/-- What is known of a session from what is committed and what it has written. -/
def Fits (settings : SecuritySettings) (start : Nat) (now : Time) (comparisons : List (Id × Time))
    (id : Id) (session : LoginSession) (committed : LoginRow) (own : Option LoginRow) : Prop :=
  match session with
  | .read _ _ => own = some committed
  | .judged _ _ => own = some committed ∧ committed.isLocked now = false
  | .wrong _ => own = some committed ∧ ∃ at_ rest, comparisons = (id, at_) :: rest ∧
      Tallied settings start committed rest ∧ ∀ comparison ∈ rest, comparison.1 ≠ id
  | .counted _ => (∃ user, own = some user ∧ Tallied settings start user comparisons) ∧
      ∃ at_ rest, comparisons = (id, at_) :: rest ∧
        committed.failedLoginAttempts = start + rest.length ∧ ∀ comparison ∈ rest, comparison.1 ≠ id
  | .right _ | .reset _ => False
  | .refused _ => own = none ∨ own = some committed
  | _ => own = none

variable {session : LoginSession} {own : Option LoginRow}

theorem Fits.later (fits : session.Fits settings start now comparisons id committed own) {later : Time}
    (notBefore : now ≤ later) : session.Fits settings start later comparisons id committed own := by
  cases session with
  | judged request username =>
    obtain ⟨isOwn, unlocked⟩ := fits
    refine ⟨isOwn, ?_⟩
    rw [LoginRow.isLocked, Option.any_eq_false] at unlocked ⊢
    intro lockedUntil isLocked
    have passed := unlocked lockedUntil isLocked
    rw [decide_eq_false_iff_not, not_lt] at passed ⊢
    exact passed.trans notBefore
  | _ => exact fits

/-- A session that has not locked the row knows nothing of it. -/
theorem Fits.unlocked (fits : session.Fits settings start now comparisons id committed none)
    (committed' : LoginRow) (comparisons' : List (Id × Time)) :
    session.Fits settings start now comparisons' id committed' none := by
  cases session with
  | read request username => cases fits
  | judged request username => cases fits.1
  | wrong username => cases fits.1
  | counted username =>
    obtain ⟨⟨user, isOwn, -⟩, -⟩ := fits
    cases isOwn
  | right username => exact fits
  | reset username => exact fits
  | refused username => exact .inl rfl
  | _ => rfl

/-- A session whose comparison is not counted yet has the row. -/
theorem Fits.own_of_inFlight (fits : session.Fits settings start now comparisons id committed own)
    (inFlight : session.inFlight = true) : own ≠ none := by
  rintro rfl
  cases session with
  | wrong username => cases fits.1
  | counted username =>
    obtain ⟨⟨user, isOwn, -⟩, -⟩ := fits
    cases isOwn
  | _ => cases inFlight

end LoginSession

/-- What a run keeps: what is known of each session; the comparisons with their pauses;
and whose comparison is not in the committed count. -/
structure LoginServer.Consistent (settings : SecuritySettings) (start : Nat) (server : LoginServer) :
    Prop where
  fit : Fit (fun id session => session.Fits settings start server.now server.comparisons id)
    server.stored server.sessions
  paced : Paced settings.maxFailedAttempts start settings.lockDuration
    (server.comparisons.map (·.2))
  past : ∀ comparison ∈ server.comparisons, comparison.2 ≤ server.now
  compared : ∀ comparison ∈ server.comparisons,
    server.sessions comparison.1 = .closed ∨ (server.sessions comparison.1).inFlight = true
  balance : (∃ id, (server.sessions id).inFlight = true) ∨
    Tallied settings start server.stored.committed server.comparisons

namespace LoginServer

variable {next : LoginServer} {session : LoginSession}

theorem Idle.consistent (idle : server.Idle) :
    server.Consistent settings server.stored.committed.failedLoginAttempts where
  fit id := by
    rw [idle.sessions id]
    exact Stored.own_of_free idle.held id
  paced := by
    rw [idle.comparisons]
    trivial
  past comparison mem := by
    rw [idle.comparisons] at mem
    cases mem
  compared comparison mem := by
    rw [idle.comparisons] at mem
    cases mem
  balance := by
    rw [idle.comparisons]
    exact .inr ⟨rfl, fun _ last isLast => nomatch isLast⟩

namespace Consistent

theorem leaveQueue (consistent : server.Consistent settings start) (id : Id) (username : Text) :
    (server.leaveQueue hashtext id username).Consistent settings start := by
  unfold LoginServer.leaveQueue
  split
  · exact ⟨consistent.fit, consistent.paced, consistent.past, consistent.compared, consistent.balance⟩
  · exact consistent

/-- The sessions that compared stay as they are when another one moves. -/
theorem compared_update (consistent : server.Consistent settings start)
    (unclosed : server.sessions id ≠ .closed) (notInFlight : (server.sessions id).inFlight = false) :
    ∀ comparison ∈ server.comparisons,
      Function.update server.sessions id session comparison.1 = .closed ∨
        (Function.update server.sessions id session comparison.1).inFlight = true := by
  intro comparison mem
  have apart : comparison.1 ≠ id := by
    rintro rfl
    rcases consistent.compared comparison mem with isClosed | inFlight
    · exact unclosed isClosed
    · rw [notInFlight] at inFlight
      cases inFlight
  rw [Function.update_of_ne apart]
  exact consistent.compared comparison mem

theorem balance_update (consistent : server.Consistent settings start)
    (notInFlight : (server.sessions id).inFlight = false) :
    (∃ other, (Function.update server.sessions id session other).inFlight = true) ∨
      Tallied settings start server.stored.committed server.comparisons := by
  refine consistent.balance.imp_left ?_
  rintro ⟨other, inFlight⟩
  have apart : other ≠ id := by
    rintro rfl
    rw [notInFlight] at inFlight
    cases inFlight
  exact ⟨other, by rwa [Function.update_of_ne apart]⟩

/-- A session goes on with nothing compared or written. -/
theorem goOn (consistent : server.Consistent settings start) (unclosed : server.sessions id ≠ .closed)
    (notInFlight : (server.sessions id).inFlight = false)
    (here : session.Fits settings start server.now server.comparisons id server.stored.committed
      (server.stored.own id)) :
    (server.setSession id session).Consistent settings start where
  fit := consistent.fit.goOn here
  paced := consistent.paced
  past := consistent.past
  compared := consistent.compared_update unclosed notInFlight
  balance := consistent.balance_update notInFlight

/-- A session that has not come to the row goes on. -/
theorem passOn (consistent : server.Consistent settings start)
    (unread : (server.sessions id).unread = true)
    (here : server.stored.own id = none → session.Fits settings start server.now server.comparisons id
      server.stored.committed (server.stored.own id)) :
    (server.setSession id session).Consistent settings start := by
  have fits := consistent.fit id
  cases isSession : server.sessions id with
  | unopened | opened | named | queued =>
    rw [isSession] at fits
    exact consistent.goOn (by simp [isSession]) (by simp [isSession, LoginSession.inFlight])
      (here fits)
  | _ => simp [isSession, LoginSession.unread] at unread

theorem tick (consistent : server.Consistent settings start) {now : Time} (notBefore : server.now ≤ now) :
    ({ server with now } : LoginServer).Consistent settings start where
  fit := consistent.fit.mono fun _ _ _ _ fits => fits.later notBefore
  paced := consistent.paced
  past comparison mem := (consistent.past comparison mem).trans notBefore
  compared := consistent.compared
  balance := consistent.balance

/-- With the row free, or held by a session that compared nothing, every comparison is
counted. -/
theorem tallied (consistent : server.Consistent settings start)
    (own : ∃ user, server.stored.own id = some user)
    (notInFlight : (server.sessions id).inFlight = false) :
    Tallied settings start server.stored.committed server.comparisons := by
  refine consistent.balance.resolve_left ?_
  rintro ⟨other, inFlight⟩
  obtain ⟨user, own⟩ := own
  have apart : other ≠ id := by
    rintro rfl
    rw [notInFlight] at inFlight
    cases inFlight
  exact (consistent.fit other).own_of_inFlight inFlight (Stored.own_other own apart)

theorem lockRow (consistent : server.Consistent settings start)
    (stepped : server.lockRow id = some next) : next.Consistent settings start := by
  unfold LoginServer.lockRow at stepped
  split at stepped
  · rename_i request username user isQueued found
    have unclosed : server.sessions id ≠ .closed := by simp [isQueued]
    have notInFlight : (server.sessions id).inFlight = false := by simp [isQueued, LoginSession.inFlight]
    have unwritten : server.stored.own id = none := by
      have fits := consistent.fit id
      rwa [isQueued] at fits
    split at stepped
    · cases stepped
      have committed := Stored.found_unwritten unwritten found
      refine ⟨consistent.fit.write found ?_, consistent.paced, consistent.past,
        consistent.compared_update unclosed notInFlight, consistent.balance_update notInFlight⟩
      exact congrArg some committed
    · cases stepped
      exact consistent.goOn unclosed notInFlight (.inl unwritten)
  · cases stepped

theorem judge (consistent : server.Consistent settings start)
    (stepped : server.judge id = some next) : next.Consistent settings start := by
  unfold LoginServer.judge at stepped
  split at stepped
  · rename_i request username isRead
    cases stepped
    have own : server.stored.own id = some server.stored.committed := by
      have fits := consistent.fit id
      rwa [isRead] at fits
    have view : server.stored.view id = server.stored.committed := by
      rw [Stored.view, own, Option.getD_some]
    refine consistent.goOn (by simp [isRead]) (by simp [isRead, LoginSession.inFlight]) ?_
    rw [view]
    split
    · exact .inr own
    · rename_i judged
      have unlocked : server.stored.committed.isLocked server.now = false ∧
          server.stored.committed.isActive = true := by simpa using judged
      exact ⟨own, unlocked.1⟩
  · cases stepped

/-- A wrong password is compared: the row is the session's, so every comparison before
is counted and the account is not locked. -/
theorem compare (consistent : server.Consistent settings start)
    (guess : guessing server (.compare id) = true)
    (stepped : server.compare id = some next) : next.Consistent settings start := by
  unfold LoginServer.compare at stepped
  split at stepped
  · rename_i request username isJudged
    have wrong : request.right = false := by
      rw [guessing, isJudged] at guess
      simpa using guess
    rw [wrong] at stepped
    cases stepped
    have fits := consistent.fit id
    rw [isJudged] at fits
    obtain ⟨own, unlocked⟩ := fits
    have notInFlight : (server.sessions id).inFlight = false := by simp [isJudged, LoginSession.inFlight]
    have unclosed : server.sessions id ≠ .closed := by simp [isJudged]
    have tallied := consistent.tallied ⟨_, own⟩ notInFlight
    have fresh : ∀ comparison ∈ server.comparisons, comparison.1 ≠ id := by
      rintro comparison mem rfl
      rcases consistent.compared comparison mem with isClosed | inFlight
      · exact unclosed isClosed
      · rw [notInFlight] at inFlight
        cases inFlight
    refine ⟨?_, ?_, ?_, ?_, ?_⟩
    · refine Fit.of_update ⟨own, server.now, server.comparisons, rfl, tallied, fresh⟩ fun other apart => ?_
      have before := consistent.fit other
      have unwritten := Stored.own_other own apart
      rw [unwritten] at before
      show (server.sessions other).Fits settings start server.now _ other server.stored.committed
        (server.stored.own other)
      rw [unwritten]
      exact before.unlocked _ _
    · refine consistent.paced.cons ?_ ?_
      · intro try' mem
        obtain ⟨comparison, isMem, rfl⟩ := List.mem_map.mp mem
        exact consistent.past comparison isMem
      · intro full last isLast
        rw [List.length_map] at full
        rw [List.head?_map, Option.mem_map] at isLast
        obtain ⟨comparison, isHead, rfl⟩ := isLast
        exact tallied.paused unlocked full comparison isHead
    · intro comparison mem
      rcases List.mem_cons.mp mem with rfl | mem
      · exact le_rfl
      · exact consistent.past comparison mem
    · intro comparison mem
      rcases List.mem_cons.mp mem with rfl | mem
      · exact .inr (by simp [setSession, LoginSession.inFlight])
      · exact consistent.compared_update unclosed notInFlight comparison mem
    · exact .inl ⟨id, by simp [setSession, LoginSession.inFlight]⟩
  · cases stepped

theorem count (consistent : server.Consistent settings start)
    (stepped : server.count settings id = some next) : next.Consistent settings start := by
  unfold LoginServer.count at stepped
  split at stepped
  · rename_i username user isWrong found
    cases stepped
    have fits := consistent.fit id
    rw [isWrong] at fits
    obtain ⟨own, at_, rest, newest, tallied, fresh⟩ := fits
    obtain rfl : server.stored.committed = user :=
      Option.some_inj.mp ((Stored.found_of_own own).symm.trans found)
    have past : at_ ≤ server.now := consistent.past (id, at_) (newest ▸ List.mem_cons_self)
    refine ⟨consistent.fit.write found ?_, consistent.paced, consistent.past, ?_,
      .inl ⟨id, by simp [setSession, LoginSession.inFlight]⟩⟩
    · refine ⟨⟨_, rfl, ?_⟩, at_, rest, newest, tallied.count, fresh⟩
      rw [newest]
      exact tallied.recordFailedLogin past
    · intro comparison mem
      by_cases same : comparison.1 = id
      · exact .inr (by simp [setSession, same, LoginSession.inFlight])
      · simp only [setSession, Function.update_of_ne same]
        exact consistent.compared comparison mem
  · cases stepped

/-- The commit of a failure that was counted. -/
theorem commit_counted (consistent : server.Consistent settings start) {username : Text}
    (isCounted : server.sessions id = .counted username) :
    ({ server.setSession id .closed with
      stored := server.stored.commit id } : LoginServer).Consistent settings start := by
  have fits := consistent.fit id
  rw [isCounted] at fits
  obtain ⟨⟨user, own, tallied⟩, at_, rest, newest, -, fresh⟩ := fits
  refine ⟨?_, consistent.paced, consistent.past, ?_, .inr ?_⟩
  · refine consistent.fit.commit (fun unwritten => ?_) (fun _ _ => rfl) fun row _ other _ before =>
      before.unlocked row _
    cases unwritten.symm.trans own
  · intro comparison mem
    by_cases same : comparison.1 = id
    · exact .inl (by simp [setSession, same])
    · simp only [setSession, Function.update_of_ne same]
      exact consistent.compared comparison mem
  · show Tallied settings start (server.stored.commit id).committed server.comparisons
    rwa [Stored.commit_of_own own]

theorem commit_refused (consistent : server.Consistent settings start) {username : Text}
    (isRefused : server.sessions id = .refused username) :
    ({ server.setSession id .closed with
      stored := server.stored.commit id } : LoginServer).Consistent settings start := by
  have fits := consistent.fit id
  rw [isRefused] at fits
  have same : (server.stored.commit id).committed = server.stored.committed := by
    rcases fits with unwritten | own
    · rw [Stored.commit_of_own_none unwritten]
    · rw [Stored.commit_of_own own]
  have notInFlight : (server.sessions id).inFlight = false := by simp [isRefused, LoginSession.inFlight]
  refine ⟨?_, consistent.paced, consistent.past,
    consistent.compared_update (by simp [isRefused]) notInFlight, ?_⟩
  · exact consistent.fit.commit (fun _ => rfl) (fun _ _ => rfl) fun row _ other _ before =>
      before.unlocked row _
  · show _ ∨ Tallied settings start (server.stored.commit id).committed server.comparisons
    rw [same]
    exact consistent.balance_update notInFlight

theorem commit (consistent : server.Consistent settings start)
    (stepped : server.commit hashtext id = some next) : next.Consistent settings start := by
  have fits := consistent.fit id
  unfold LoginServer.commit at stepped
  split at stepped
  · rename_i username isCounted
    cases stepped
    exact (consistent.commit_counted isCounted).leaveQueue id username
  · rename_i username isReset
    rw [isReset] at fits
    exact fits.elim
  · rename_i username isRefused
    cases stepped
    exact (consistent.commit_refused isRefused).leaveQueue id username
  · cases stepped

/-- Any statement. -/
theorem step {statement : LoginStatement} (consistent : server.Consistent settings start)
    (guess : guessing server statement = true)
    (stepped : LoginServer.step settings hashtext statement server = some next) :
    next.Consistent settings start := by
  cases statement with
  | tick now =>
    cases stepped
    exact consistent.tick (of_decide_eq_true guess)
  | openRequest id request =>
    simp only [LoginServer.step] at stepped
    split at stepped
    · rename_i isUnopened
      cases stepped
      exact consistent.passOn (by rw [isUnopened]; rfl) fun unwritten => unwritten
    · cases stepped
  | readUsername id =>
    simp only [LoginServer.step, LoginServer.readUsername] at stepped
    split at stepped
    · rename_i username right isOpened
      cases stepped
      exact consistent.passOn (by rw [isOpened]; rfl) fun unwritten => unwritten
    · rename_i right isOpened
      cases stepped
      exact consistent.passOn (by rw [isOpened]; rfl) fun unwritten => unwritten
    · cases stepped
  | queueOnUsername id =>
    simp only [LoginServer.step, LoginServer.queueOnUsername] at stepped
    split at stepped
    · rename_i request username isNamed
      split at stepped
      · cases stepped
        have on : (server.setSession id (.queued request username)).Consistent settings start :=
          consistent.passOn (by rw [isNamed]; rfl) fun unwritten => unwritten
        exact ⟨on.fit, on.paced, on.past, on.compared, on.balance⟩
      · cases stepped
    · cases stepped
  | lockRow id => exact consistent.lockRow stepped
  | giveUp id =>
    simp only [LoginServer.step, LoginServer.giveUp] at stepped
    split at stepped
    · rename_i request username isNamed
      cases stepped
      have closed : (server.setSession id .closed).Consistent settings start :=
        consistent.passOn (by rw [isNamed]; rfl) fun unwritten => unwritten
      exact closed.leaveQueue id username
    · rename_i request username isQueued
      cases stepped
      have closed : (server.setSession id .closed).Consistent settings start :=
        consistent.passOn (by rw [isQueued]; rfl) fun unwritten => unwritten
      exact closed.leaveQueue id username
    · cases stepped
  | judge id => exact consistent.judge stepped
  | compare id => exact consistent.compare guess stepped
  | count id => exact consistent.count stepped
  | reset id =>
    simp only [LoginServer.step, LoginServer.reset] at stepped
    split at stepped
    · rename_i username user isRight _
      have none := consistent.fit id
      rw [isRight] at none
      exact none.elim
    · cases stepped
  | commit id => exact consistent.commit stepped

/-- The committed count is of the comparisons whose requests have ended. -/
theorem count_eq (consistent : server.Consistent settings start) :
    server.stored.committed.failedLoginAttempts =
      start + server.comparisons.countP fun comparison => (server.sessions comparison.1).isClosed := by
  by_cases moving : ∃ id, (server.sessions id).inFlight = true
  · obtain ⟨id, inFlight⟩ := moving
    have fits := consistent.fit id
    have own : ∃ user, server.stored.own id = some user :=
      Option.ne_none_iff_exists'.mp (fits.own_of_inFlight inFlight)
    obtain ⟨at_, rest, newest, count, fresh⟩ : ∃ at_ rest, server.comparisons = (id, at_) :: rest ∧
        server.stored.committed.failedLoginAttempts = start + rest.length ∧
        ∀ comparison ∈ rest, comparison.1 ≠ id := by
      cases isSession : server.sessions id with
      | wrong username =>
        rw [isSession] at fits
        obtain ⟨-, at_, rest, newest, tallied, fresh⟩ := fits
        exact ⟨at_, rest, newest, tallied.count, fresh⟩
      | counted username =>
        rw [isSession] at fits
        exact fits.2
      | _ => simp [isSession, LoginSession.inFlight] at inFlight
    have notClosed : (server.sessions id).isClosed = false := by
      cases isSession : server.sessions id with
      | closed => simp [isSession, LoginSession.inFlight] at inFlight
      | _ => rfl
    have others : rest.countP (fun comparison => (server.sessions comparison.1).isClosed) = rest.length := by
      refine List.countP_eq_length.mpr fun comparison mem => ?_
      rcases consistent.compared comparison (newest ▸ List.mem_cons_of_mem _ mem) with isClosed | other
      · simp [isClosed, LoginSession.isClosed]
      · obtain ⟨user, own⟩ := own
        exact absurd (Stored.own_other own (fresh comparison mem))
          ((consistent.fit comparison.1).own_of_inFlight other)
    rw [newest, List.countP_cons, others, count, notClosed]
    rfl
  · have tallied := consistent.balance.resolve_left moving
    have all : server.comparisons.countP (fun comparison => (server.sessions comparison.1).isClosed) =
        server.comparisons.length := by
      refine List.countP_eq_length.mpr fun comparison mem => ?_
      have isClosed := (consistent.compared comparison mem).resolve_right fun inFlight =>
        moving ⟨_, inFlight⟩
      simp [isClosed, LoginSession.isClosed]
    rw [tallied.count, all]

end Consistent

end LoginServer

/-- **The lockout budget.** However the requests of one account interleave, while none
brings the right password: no window shorter than the lock holds more comparisons with
the stored hash than `max_failed_attempts`, and every one is counted by the end of its
request. -/
theorem lockout_budget {after : LoginServer} (idle : server.Idle)
    (run : Runs (LoginServer.step settings hashtext) LoginServer.guessing server after)
    {from_ length : Time} (short : length < settings.lockDuration) :
    after.comparisons.countP
        (fun comparison => decide (from_ ≤ comparison.2 ∧ comparison.2 < from_ + length)) ≤
      settings.maxFailedAttempts ∧
    after.stored.committed.failedLoginAttempts =
      server.stored.committed.failedLoginAttempts +
        after.comparisons.countP fun comparison => (after.sessions comparison.1).isClosed := by
  have consistent : after.Consistent settings server.stored.committed.failedLoginAttempts :=
    run.keeps (fun _ _ _ guess stepped kept => kept.step guess stepped) idle.consistent
  refine ⟨?_, consistent.count_eq⟩
  have pos : 0 < settings.maxFailedAttempts := by
    have bounds := settings.attempts_bounds
    omega
  have within : (after.comparisons.map (·.2)).countP
      (fun at_ => decide (from_ ≤ at_ ∧ at_ < from_ + length)) ≤ settings.maxFailedAttempts :=
    consistent.paced.countP_le pos short.le
  rwa [List.countP_map] at within

/-- The lowest settings that validate. -/
def fewestAttempts : SecuritySettings := ⟨3, 5, by decide, by decide⟩

def unguessedServer : LoginServer where
  now := 0
  stored := ⟨{ username := text "admin" }, none⟩

/-- One request from its start to its commit. -/
def wholeGuess (id : Id) (request : PasswordRequest) : List LoginStatement :=
  [.openRequest id request, .readUsername id, .queueOnUsername id, .lockRow id, .judge id,
    .compare id, .count id, .commit id]

/-- Two requests at once, one more, and one that the lock refuses. -/
def fourGuesses : List LoginStatement :=
  [.openRequest 0 (.signIn (text "admin") false), .openRequest 1 (.currentPassword false),
    .readUsername 0, .readUsername 1, .queueOnUsername 0, .lockRow 0, .judge 0, .compare 0,
    .count 0, .commit 0, .queueOnUsername 1, .lockRow 1, .judge 1, .compare 1, .tick 1000,
    .count 1, .commit 1] ++
  wholeGuess 2 (.signIn (text "admin") false) ++
  [.openRequest 3 (.currentPassword false), .readUsername 3, .queueOnUsername 3, .lockRow 3,
    .judge 3, .commit 3]

theorem lockout_of_four_guesses :
    ∃ after, runAll (LoginServer.step fewestAttempts fun _ => 0) LoginServer.guessing fourGuesses
        unguessedServer = some after ∧
      after.comparisons.length = 3 ∧
      after.comparisons.countP (fun comparison =>
        decide (0 ≤ comparison.2 ∧ comparison.2 < 0 + minutes 4)) ≤ 3 ∧
      after.stored.committed.failedLoginAttempts =
        0 + after.comparisons.countP fun comparison => (after.sessions comparison.1).isClosed := by
  have idle : unguessedServer.Idle := ⟨rfl, fun _ => rfl, rfl⟩
  obtain ⟨after, ran, three⟩ : ∃ after, runAll (LoginServer.step fewestAttempts fun _ => 0)
      LoginServer.guessing fourGuesses unguessedServer = some after ∧
      after.comparisons.length = 3 := ⟨_, rfl, rfl⟩
  exact ⟨after, ran, three, lockout_budget idle (Runs.of_runAll ran) (by decide)⟩

end LuxSwirl.Server
