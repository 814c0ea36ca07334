import LuxSwirl.Lib.Interleaving
import LuxSwirl.Lib.Sessions
import LuxSwirl.Server.Models
import Mathlib.Tactic.Linarith

/-!
# Leases of a scheduler job

`scheduler_core_service.py` and `scheduler_crud.py`: a server process that polls locks
a due job and writes a lease on it, a call by hand takes one by one conditional
UPDATE. The run of a poll verifies the lease by its token, without looking at when it
expires, and both clear it by its token when they are through.

A lease is taken at the clock reading it is stamped with, which its session made
before the statement that takes it. `one_run_at_a_time` is about every order of these
statements in which runs keep `max_runtime_seconds` (`withinLimits`).
-/

namespace LuxSwirl.Server
open LuxSwirl.Lib

/-- A row of `job_configurations`, as far as its lease depends on it. -/
structure JobConfiguration where
  enabled : Bool := true
  nextRunAt : Option Time := none
  leaseToken : Option Id := none
  leaseExpiresAt : Option Time := none
  deriving DecidableEq

namespace JobConfiguration

/-- No lease, or one that has expired. -/
def unleased (now : Time) (job : JobConfiguration) : Bool :=
  job.leaseExpiresAt.all fun expiresAt => decide (expiresAt ≤ now)

/-- `get_due_jobs` -/
def due (now : Time) (job : JobConfiguration) : Bool :=
  job.enabled && job.nextRunAt.any (fun nextRunAt => decide (nextRunAt ≤ now)) && job.unleased now

def withLease (token : Id) (expiresAt : Time) (job : JobConfiguration) : JobConfiguration :=
  { job with leaseToken := some token, leaseExpiresAt := some expiresAt }

def withoutLease (job : JobConfiguration) : JobConfiguration :=
  { job with leaseToken := none, leaseExpiresAt := none }

def lease (job : JobConfiguration) : Option Id × Option Time := (job.leaseToken, job.leaseExpiresAt)

end JobConfiguration

/-- A session's token is its id. `byHand` is `execute_job_synchronously`, else it is
`_process_due_jobs` and the `_execute_job` it dispatches. -/
inductive LeaseSession where
  | unopened
  | opened (byHand : Bool)
  /-- It has read the clock. -/
  | clocked (byHand : Bool) (now : Time)
  /-- `take_lease` has found the job unleased, and waits for the row. -/
  | asking (now : Time)
  /-- It has written its lease. -/
  | leasing (byHand : Bool) (takenAt : Time)
  | leased (byHand : Bool) (takenAt : Time)
  /-- `get_by_job_key_with_lease` has found its token. -/
  | verified (takenAt : Time)
  | running (byHand : Bool) (takenAt : Time)
  | ended (byHand : Bool)
  /-- It has counted its run. -/
  | counted (byHand : Bool)
  /-- `release_lease` has found its token, and waits for the row. -/
  | releasing
  | released
  | closed

structure JobRun where
  token : Id
  startedAt : Time
  endedAt : Option Time := none
  deriving DecidableEq

namespace JobRun

/-- A run that has not ended goes on now. -/
def lasts (now : Time) (run : JobRun) : Time := run.endedAt.getD now

/-- The run as it is when its session's run has ended. -/
def stop (id : Id) (now : Time) (run : JobRun) : JobRun :=
  if run.token = id ∧ run.endedAt = none then { run with endedAt := some now } else run

def overlaps (now : Time) (run other : JobRun) : Bool :=
  decide (max run.startedAt other.startedAt < min (run.lasts now) (other.lasts now))

end JobRun

/-- The clock, the stored job, the sessions, and the runs of the job. -/
structure LeaseServer where
  now : Time
  stored : Stored Id JobConfiguration
  sessions : Id → LeaseSession := fun _ => .unopened
  runs : List JobRun := []

inductive LeaseStatement where
  | tick (now : Time)
  | openSession (id : Id) (byHand : Bool)
  | readClock (id : Id)
  /-- The poll's SELECT, which skips a locked row and may not list the job. -/
  | select (id : Id) (listed : Bool)
  /-- `take_lease`, until it waits for the row -/
  | issue (id : Id)
  | execute (id : Id)
  | verify (id : Id)
  | start (id : Id)
  | finish (id : Id)
  /-- `count_success` and `count_failure` -/
  | count (id : Id) (enabled : Bool) (nextRunAt : Option Time)
  /-- A run by hand that failed outside its job, before the lease is released -/
  | abandon (id : Id)
  | issueRelease (id : Id)
  | executeRelease (id : Id)
  | commit (id : Id)
  | rollback (id : Id)

namespace LeaseServer

def setSession (id : Id) (session : LeaseSession) (server : LeaseServer) : LeaseServer :=
  { server with sessions := Function.update server.sessions id session }

/-- The run of the session ends, if it has not. -/
def endRun (id : Id) (server : LeaseServer) : LeaseServer :=
  { server with runs := server.runs.map (JobRun.stop id server.now) }

section Statements

-- `max_runtime_seconds`, which no statement here changes
variable (maxRuntimeSeconds : Int)

def expiry (takenAt : Time) : Time := takenAt + seconds (maxRuntimeSeconds * 2)

def select (id : Id) (listed : Bool) (server : LeaseServer) : Option LeaseServer :=
  match server.sessions id with
  | .clocked false now =>
    match server.stored.held with
    | none =>
      let job := server.stored.committed
      if listed ∧ job.due now then
        some
          { server.setSession id (.leasing false now) with
            stored := server.stored.write id (job.withLease id (expiry maxRuntimeSeconds now)) }
      else some (server.setSession id .closed)
    | some _ => some (server.setSession id .closed)
  | _ => none

/-- The condition of `take_lease` on what is committed. -/
def issue (id : Id) (server : LeaseServer) : Option LeaseServer :=
  match server.sessions id with
  | .clocked true now =>
    some (server.setSession id (if server.stored.committed.unleased now then .asking now else .closed))
  | _ => none

/-- And again on the row it gets. -/
def execute (id : Id) (server : LeaseServer) : Option LeaseServer :=
  match server.sessions id, server.stored.found id with
  | .asking now, some job =>
    if job.unleased now then
      some
        { server.setSession id (.leasing true now) with
          stored := server.stored.write id (job.withLease id (expiry maxRuntimeSeconds now)) }
    else some (server.setSession id .closed)
  | _, _ => none

def verify (id : Id) (server : LeaseServer) : Option LeaseServer :=
  match server.sessions id with
  | .leased false takenAt =>
    some (server.setSession id
      (if server.stored.committed.leaseToken = some id then .verified takenAt else .closed))
  | _ => none

/-- A run by hand starts without another look at its lease. -/
def start (id : Id) (server : LeaseServer) : Option LeaseServer :=
  match server.sessions id with
  | .leased true takenAt =>
    some { server.setSession id (.running true takenAt) with
      runs := { token := id, startedAt := server.now } :: server.runs }
  | .verified takenAt =>
    some { server.setSession id (.running false takenAt) with
      runs := { token := id, startedAt := server.now } :: server.runs }
  | _ => none

def finish (id : Id) (server : LeaseServer) : Option LeaseServer :=
  match server.sessions id with
  | .running byHand _ => some ((server.setSession id (.ended byHand)).endRun id)
  | _ => none

def count (id : Id) (enabled : Bool) (nextRunAt : Option Time) (server : LeaseServer) : Option LeaseServer :=
  match server.sessions id, server.stored.found id with
  | .ended byHand, some job =>
    some
      { server.setSession id (.counted byHand) with
        stored := server.stored.write id { job with enabled, nextRunAt } }
  | _, _ => none

/-- Only the run by hand clears the lease in a transaction of its own. -/
def abandon (id : Id) (server : LeaseServer) : Option LeaseServer :=
  match server.sessions id with
  | .leased true _ | .running true _ | .ended true | .counted true =>
    some (({ server.setSession id (.ended true) with stored := server.stored.rollback id } : LeaseServer).endRun id)
  | _ => none

def issueRelease (id : Id) (server : LeaseServer) : Option LeaseServer :=
  match server.sessions id with
  | .ended _ | .counted false =>
    some (server.setSession id
      (if (server.stored.view id).leaseToken = some id then .releasing else .released))
  | _ => none

def executeRelease (id : Id) (server : LeaseServer) : Option LeaseServer :=
  match server.sessions id, server.stored.found id with
  | .releasing, some job =>
    if job.leaseToken = some id then
      some { server.setSession id .released with stored := server.stored.write id job.withoutLease }
    else some (server.setSession id .released)
  | _, _ => none

def commit (id : Id) (server : LeaseServer) : Option LeaseServer :=
  match server.sessions id with
  | .leasing byHand takenAt =>
    some { server.setSession id (.leased byHand takenAt) with stored := server.stored.commit id }
  | .counted true => some { server.setSession id (.ended true) with stored := server.stored.commit id }
  | .released => some { server.setSession id .closed with stored := server.stored.commit id }
  | _ => none

/-- The process dies, or its transaction fails. -/
def rollback (id : Id) (server : LeaseServer) : Option LeaseServer :=
  match server.sessions id with
  | .unopened | .closed => none
  | _ => some (({ server.setSession id .closed with stored := server.stored.rollback id } : LeaseServer).endRun id)

/-- The server after a statement, if it can run now. -/
def step : LeaseStatement → LeaseServer → Option LeaseServer
  | .tick now, server => some { server with now }
  | .openSession id byHand, server =>
    match server.sessions id with
    | .unopened => some (server.setSession id (.opened byHand))
    | _ => none
  | .readClock id, server =>
    match server.sessions id with
    | .opened byHand => some (server.setSession id (.clocked byHand server.now))
    | _ => none
  | .select id listed, server => server.select maxRuntimeSeconds id listed
  | .issue id, server => server.issue id
  | .execute id, server => server.execute maxRuntimeSeconds id
  | .verify id, server => server.verify id
  | .start id, server => server.start id
  | .finish id, server => server.finish id
  | .count id enabled nextRunAt, server => server.count id enabled nextRunAt
  | .abandon id, server => server.abandon id
  | .issueRelease id, server => server.issueRelease id
  | .executeRelease id, server => server.executeRelease id
  | .commit id, server => server.commit id
  | .rollback id, server => server.rollback id

/-- A run starts within `max_runtime_seconds` of its lease being taken, and ends
within as much of its start. -/
def withinLimits (server : LeaseServer) : LeaseStatement → Bool
  | .tick now =>
    decide (server.now ≤ now) && server.runs.all fun run =>
      run.endedAt.isSome || decide (now ≤ run.startedAt + seconds maxRuntimeSeconds)
  | .start id =>
    match server.sessions id with
    | .leased _ takenAt | .verified takenAt => decide (server.now ≤ takenAt + seconds maxRuntimeSeconds)
    | _ => true
  | _ => true

end Statements

end LeaseServer

/-! ## What a commit does to the lease -/

/-- The lease stays, is cleared by the session it is of, or is taken by one that found
it free at its clock reading. -/
inductive LeaseChange (maxRuntimeSeconds : Int) (now : Time) (id : Id) (session : LeaseSession)
    (before after : JobConfiguration) : Prop
  | kept : after.lease = before.lease → LeaseChange maxRuntimeSeconds now id session before after
  | cleared : session = .released → before.leaseToken = some id → after.lease = (none, none) →
      LeaseChange maxRuntimeSeconds now id session before after
  | taken {byHand : Bool} {takenAt : Time} : session = .leasing byHand takenAt → takenAt ≤ now →
      before.unleased takenAt = true →
      after.lease = (some id, some (LeaseServer.expiry maxRuntimeSeconds takenAt)) →
      LeaseChange maxRuntimeSeconds now id session before after

namespace LeaseSession

/-- What is known of a session from what is committed and what it has written. -/
def Fits (maxRuntimeSeconds : Int) (now : Time) (id : Id) (session : LeaseSession)
    (committed : JobConfiguration) (own : Option JobConfiguration) : Prop :=
  match session with
  | .clocked _ readAt | .asking readAt => own = none ∧ readAt ≤ now
  | .leasing _ takenAt => takenAt ≤ now ∧ committed.unleased takenAt = true ∧
      ∃ job, own = some job ∧ job.lease = (some id, some (LeaseServer.expiry maxRuntimeSeconds takenAt))
  | .leased _ takenAt | .verified takenAt | .running _ takenAt => own = none ∧
      (committed.lease = (some id, some (LeaseServer.expiry maxRuntimeSeconds takenAt)) ∨
        LeaseServer.expiry maxRuntimeSeconds takenAt ≤ now)
  | .counted _ | .releasing => ∀ job ∈ own, job.lease = committed.lease
  | .released => ∀ job ∈ own, job.lease = committed.lease ∨
      (committed.leaseToken = some id ∧ job.lease = (none, none))
  | _ => own = none

variable {maxRuntimeSeconds : Int} {now : Time} {id other : Id} {session : LeaseSession}
  {committed job : JobConfiguration} {own : Option JobConfiguration}

theorem Fits.later (fits : session.Fits maxRuntimeSeconds now id committed own) {later : Time}
    (notBefore : now ≤ later) : session.Fits maxRuntimeSeconds later id committed own := by
  cases session with
  | clocked byHand readAt => exact ⟨fits.1, fits.2.trans notBefore⟩
  | asking readAt => exact ⟨fits.1, fits.2.trans notBefore⟩
  | leasing byHand takenAt => exact ⟨fits.1.trans notBefore, fits.2⟩
  | leased byHand takenAt => exact ⟨fits.1, fits.2.imp_right (·.trans notBefore)⟩
  | verified takenAt => exact ⟨fits.1, fits.2.imp_right (·.trans notBefore)⟩
  | running byHand takenAt => exact ⟨fits.1, fits.2.imp_right (·.trans notBefore)⟩
  | _ => exact fits

/-- What a session's commit does to the lease. -/
theorem Fits.change (fits : session.Fits maxRuntimeSeconds now id committed (some job)) :
    LeaseChange maxRuntimeSeconds now id session committed job := by
  cases session with
  | leasing byHand takenAt =>
    obtain ⟨notAfter, unleased, own, isOwn, lease⟩ := fits
    cases isOwn
    exact .taken rfl notAfter unleased lease
  | counted byHand => exact .kept (fits job rfl)
  | releasing => exact .kept (fits job rfl)
  | released =>
    rcases fits job rfl with kept | ⟨token, cleared⟩
    · exact .kept kept
    · exact .cleared rfl token cleared
  | clocked byHand readAt => cases fits.1
  | asking readAt => cases fits.1
  | leased byHand takenAt => cases fits.1
  | verified takenAt => cases fits.1
  | running byHand takenAt => cases fits.1
  | _ => cases fits

/-- A lease is another session's, or has expired, once a commit has changed it. -/
theorem lease_of_change (change : LeaseChange maxRuntimeSeconds now id session committed job)
    (apart : other ≠ id) {expiresAt : Time} (lease : committed.lease = (some other, some expiresAt)) :
    job.lease = (some other, some expiresAt) ∨ expiresAt ≤ now := by
  obtain ⟨token, expires⟩ := Prod.mk.injEq .. ▸ lease
  cases change with
  | kept kept => exact .inl (kept.trans lease)
  | cleared _ own _ => exact absurd (Option.some.inj (token.symm.trans own)) apart
  | @taken _ takenAt _ notAfter unleased _ =>
    rw [JobConfiguration.unleased, expires] at unleased
    exact .inr ((of_decide_eq_true unleased).trans notAfter)

/-- What is known of the other sessions outlasts a commit. -/
theorem Fits.after (fits : session.Fits maxRuntimeSeconds now other committed none)
    {mover : LeaseSession} (change : LeaseChange maxRuntimeSeconds now id mover committed job)
    (apart : other ≠ id) : session.Fits maxRuntimeSeconds now other job none := by
  have owner {expiresAt : Time}
      (holds : committed.lease = (some other, some expiresAt) ∨ expiresAt ≤ now) :
      job.lease = (some other, some expiresAt) ∨ expiresAt ≤ now := by
    rcases holds with lease | expired
    · exact lease_of_change change apart lease
    · exact .inr expired
  cases session with
  | leasing byHand takenAt =>
    obtain ⟨-, -, own, isOwn, -⟩ := fits
    cases isOwn
  | leased byHand takenAt => exact ⟨rfl, owner fits.2⟩
  | verified takenAt => exact ⟨rfl, owner fits.2⟩
  | running byHand takenAt => exact ⟨rfl, owner fits.2⟩
  | clocked byHand readAt => exact fits
  | asking readAt => exact fits
  | counted byHand => exact fun job mem => by cases mem
  | releasing => exact fun job mem => by cases mem
  | released => exact fun job mem => by cases mem
  | _ => rfl

end LeaseSession

/-! ## The runs -/

/-- The session may have had its run. -/
def LeaseSession.begun : LeaseSession → Bool
  | .running _ _ | .ended _ | .counted _ | .releasing | .released | .closed => true
  | _ => false

def NoOverlap (server : LeaseServer) : Prop :=
  server.runs.Pairwise fun run other => run.overlaps server.now other = false

/-- Two runs are of two sessions, and do not overlap. -/
def JobRun.Apart (now : Time) (run other : JobRun) : Prop :=
  run.token ≠ other.token ∧ run.overlaps now other = false

/-- What is known of the runs. -/
structure RunsKept (maxRuntimeSeconds : Int) (server : LeaseServer) : Prop where
  begun : ∀ run ∈ server.runs, (server.sessions run.token).begun = true
  unended : ∀ run ∈ server.runs, run.endedAt = none → ∃ byHand takenAt,
    server.sessions run.token = .running byHand takenAt ∧ run.startedAt ≤ takenAt + seconds maxRuntimeSeconds
  ended : ∀ run ∈ server.runs, ∀ endedAt ∈ run.endedAt, endedAt ≤ server.now
  apart : server.runs.Pairwise (JobRun.Apart server.now)

/-- Only a commit changes the stored lease, and as its session may. -/
def LeaseMoves (maxRuntimeSeconds : Int) (statement : LeaseStatement) (server next : LeaseServer) : Prop :=
  next.stored.committed = server.stored.committed ∨
    ∃ id, statement = .commit id ∧ LeaseChange maxRuntimeSeconds server.now id (server.sessions id)
      server.stored.committed next.stored.committed

structure LeaseServer.Consistent (maxRuntimeSeconds : Int) (server : LeaseServer) : Prop where
  fit : Fit (fun id session => session.Fits maxRuntimeSeconds server.now id) server.stored server.sessions
  runs : RunsKept maxRuntimeSeconds server

namespace JobRun

variable {id : Id} {now : Time} {run other : JobRun}

@[simp] theorem token_stop : (run.stop id now).token = run.token := by
  rw [stop]
  split_ifs <;> rfl

@[simp] theorem startedAt_stop : (run.stop id now).startedAt = run.startedAt := by
  rw [stop]
  split_ifs <;> rfl

/-- A run that goes on lasts until now, so it may as well end now. -/
@[simp] theorem lasts_stop : (run.stop id now).lasts now = run.lasts now := by
  rw [stop]
  split_ifs with own
  · rw [lasts, lasts, own.2]
    rfl
  · rfl

theorem Apart.stop (apart : run.Apart now other) : (run.stop id now).Apart now (other.stop id now) := by
  obtain ⟨tokens, noOverlap⟩ := apart
  refine ⟨?_, ?_⟩
  · rwa [token_stop, token_stop]
  · rwa [overlaps, startedAt_stop, startedAt_stop, lasts_stop, lasts_stop]

/-- Of two runs one of which has ended, only the past can overlap. -/
theorem overlap_past (other : JobRun) {endedAt : Time} (ended : run.endedAt = some endedAt)
    (past : endedAt ≤ now) (later : Time) :
    min (run.lasts later) (other.lasts later) ≤ min (run.lasts now) (other.lasts now) := by
  have same (at_ : Time) : run.lasts at_ = endedAt := by rw [lasts, ended, Option.getD_some]
  rw [same, same]
  refine le_min (min_le_left _ _) ?_
  rw [lasts, lasts]
  cases other.endedAt with
  | some otherEnd => exact min_le_right _ _
  | none => exact (min_le_left _ _).trans past

theorem overlaps_eq_false :
    run.overlaps now other = false ↔
      min (run.lasts now) (other.lasts now) ≤ max run.startedAt other.startedAt := by
  rw [overlaps, decide_eq_false_iff_not, not_lt]

end JobRun

@[simp] theorem LeaseServer.setSession_same (id : Id) (session : LeaseSession) (server : LeaseServer) :
    (server.setSession id session).sessions id = session := Function.update_self ..

theorem LeaseServer.setSession_other {id other : Id} (apart : other ≠ id) (session : LeaseSession)
    (server : LeaseServer) : (server.setSession id session).sessions other = server.sessions other :=
  Function.update_of_ne apart ..

namespace RunsKept

variable {maxRuntimeSeconds : Int} {server : LeaseServer} {id : Id} {session : LeaseSession}

/-- What was begun stays begun. -/
theorem begun_setSession (kept : RunsKept maxRuntimeSeconds server)
    (begun : (server.sessions id).begun = true → session.begun = true) {run : JobRun} (mem : run ∈ server.runs) :
    ((server.setSession id session).sessions run.token).begun = true := by
  have before := kept.begun run mem
  by_cases same : run.token = id
  · rw [same] at before ⊢
    rw [LeaseServer.setSession_same]
    exact begun before
  · rwa [LeaseServer.setSession_other same]

/-- A session that does not run goes on, and cannot start another run. -/
theorem goOn (kept : RunsKept maxRuntimeSeconds server)
    (idle : ∀ byHand takenAt, server.sessions id ≠ .running byHand takenAt)
    (begun : (server.sessions id).begun = true → session.begun = true) :
    RunsKept maxRuntimeSeconds (server.setSession id session) where
  begun _ mem := kept.begun_setSession begun mem
  unended run mem goesOn := by
    obtain ⟨byHand, takenAt, running, inTime⟩ := kept.unended run mem goesOn
    have apart : run.token ≠ id := by
      rintro rfl
      exact idle byHand takenAt running
    exact ⟨byHand, takenAt, (LeaseServer.setSession_other apart ..).trans running, inTime⟩
  ended := kept.ended
  apart := kept.apart

/-- The run of a session ends, and the session goes on. -/
theorem endRun (kept : RunsKept maxRuntimeSeconds server) (id : Id) (session : LeaseSession)
    (begun : (server.sessions id).begun = true → session.begun = true) :
    RunsKept maxRuntimeSeconds ((server.setSession id session).endRun id) where
  begun _ mem := by
    obtain ⟨run, isRun, rfl⟩ := List.mem_map.mp mem
    rw [JobRun.token_stop]
    exact kept.begun_setSession begun isRun
  unended _ mem goesOn := by
    obtain ⟨run, isRun, rfl⟩ := List.mem_map.mp mem
    rw [JobRun.stop] at goesOn ⊢
    split_ifs at goesOn ⊢ with own
    obtain ⟨byHand, takenAt, running, inTime⟩ := kept.unended run isRun goesOn
    have apart : run.token ≠ id := fun same => own ⟨same, goesOn⟩
    exact ⟨byHand, takenAt, (LeaseServer.setSession_other apart ..).trans running, inTime⟩
  ended _ mem endedAt isEnd := by
    obtain ⟨run, isRun, rfl⟩ := List.mem_map.mp mem
    rw [JobRun.stop] at isEnd
    split_ifs at isEnd
    · cases isEnd
      exact le_refl _
    · exact kept.ended run isRun endedAt isEnd
  apart := List.pairwise_map.mpr (kept.apart.imp JobRun.Apart.stop)

/-- A session starts a run in time. -/
theorem start (kept : RunsKept maxRuntimeSeconds server) (fresh : (server.sessions id).begun = false)
    {byHand : Bool} {takenAt : Time} (inTime : server.now ≤ takenAt + seconds maxRuntimeSeconds) :
    RunsKept maxRuntimeSeconds { server.setSession id (.running byHand takenAt) with
      runs := { token := id, startedAt := server.now } :: server.runs } where
  begun run mem := by
    rcases List.mem_cons.mp mem with rfl | mem
    · exact congrArg LeaseSession.begun (LeaseServer.setSession_same ..)
    · exact kept.begun_setSession (fun _ => rfl) mem
  unended run mem goesOn := by
    rcases List.mem_cons.mp mem with rfl | mem
    · exact ⟨byHand, takenAt, LeaseServer.setSession_same .., inTime⟩
    · obtain ⟨byHand, takenAt, running, inTime⟩ := kept.unended run mem goesOn
      have apart : run.token ≠ id := by
        intro same
        rw [← same, running] at fresh
        cases fresh
      exact ⟨byHand, takenAt, (LeaseServer.setSession_other apart ..).trans running, inTime⟩
  ended run mem endedAt isEnd := by
    rcases List.mem_cons.mp mem with rfl | mem
    · cases isEnd
    · exact kept.ended run mem endedAt isEnd
  apart := by
    refine List.pairwise_cons.mpr ⟨fun run mem => ⟨?_, ?_⟩, kept.apart⟩
    · intro same
      dsimp only at same
      rw [same, kept.begun run mem] at fresh
      cases fresh
    · -- the new run lasts no time yet
      rw [JobRun.overlaps_eq_false]
      exact (min_le_left _ _).trans (le_max_left _ _)

end RunsKept

namespace LeaseServer.Consistent

variable {maxRuntimeSeconds : Int} {server : LeaseServer}

/-- While it may still run on, the lease is its session's. -/
theorem lease_of_unended (consistent : server.Consistent maxRuntimeSeconds) {run : JobRun}
    (mem : run ∈ server.runs) (goesOn : run.endedAt = none)
    (inTime : server.now < run.startedAt + seconds maxRuntimeSeconds) :
    server.stored.committed.leaseToken = some run.token := by
  obtain ⟨byHand, takenAt, running, startedInTime⟩ := consistent.runs.unended run mem goesOn
  have fits := consistent.fit run.token
  rw [running] at fits
  rcases fits.2 with lease | expired
  · exact (Prod.mk.injEq .. ▸ lease).1
  · rw [expiry, seconds] at expired
    rw [seconds] at inTime startedInTime
    linarith

theorem tick (consistent : server.Consistent maxRuntimeSeconds) {now : Time} (notBefore : server.now ≤ now)
    (inTime : ∀ run ∈ server.runs, run.endedAt = none → now ≤ run.startedAt + seconds maxRuntimeSeconds) :
    ({ server with now } : LeaseServer).Consistent maxRuntimeSeconds where
  fit := consistent.fit.mono fun _ _ _ _ fits => fits.later notBefore
  runs :=
    { begun := consistent.runs.begun
      unended := consistent.runs.unended
      ended := fun run mem endedAt isEnd => (consistent.runs.ended run mem endedAt isEnd).trans notBefore
      apart := by
        refine consistent.runs.apart.imp_of_mem fun {run other} mem isOther apart => ⟨apart.1, ?_⟩
        rw [JobRun.overlaps_eq_false]
        have before := JobRun.overlaps_eq_false.mp apart.2
        cases ended : run.endedAt with
        | some endedAt =>
          exact (JobRun.overlap_past other ended (consistent.runs.ended run mem endedAt ended) now).trans before
        | none =>
          cases otherEnded : other.endedAt with
          | some endedAt =>
            have past := JobRun.overlap_past run otherEnded
              (consistent.runs.ended other isOther endedAt otherEnded) now
            rw [min_comm, min_comm (other.lasts _)] at past
            exact past.trans before
          | none =>
            rcases notBefore.eq_or_lt with rfl | moves
            · exact before
            -- of two runs that go on, both would hold the lease
            have own := consistent.lease_of_unended mem ended (moves.trans_le (inTime run mem ended))
            have others := consistent.lease_of_unended isOther otherEnded
              (moves.trans_le (inTime other isOther otherEnded))
            exact absurd (Option.some.inj (own.symm.trans others)) apart.1 }

section Moves

variable {id : Id} {session : LeaseSession} {old job : JobConfiguration}

theorem goOn (consistent : server.Consistent maxRuntimeSeconds)
    (idle : ∀ byHand takenAt, server.sessions id ≠ .running byHand takenAt)
    (begun : (server.sessions id).begun = true → session.begun = true)
    (here : session.Fits maxRuntimeSeconds server.now id server.stored.committed (server.stored.own id)) :
    (server.setSession id session).Consistent maxRuntimeSeconds :=
  ⟨consistent.fit.goOn here, consistent.runs.goOn idle begun⟩

/-- A session that goes on as a look at the row tells it. -/
theorem goOn_ite (consistent : server.Consistent maxRuntimeSeconds) {seen : Prop} [Decidable seen]
    {other : LeaseSession} (idle : ∀ byHand takenAt, server.sessions id ≠ .running byHand takenAt)
    (begun : (server.sessions id).begun = true → session.begun = true ∧ other.begun = true)
    (here : session.Fits maxRuntimeSeconds server.now id server.stored.committed (server.stored.own id))
    (there : other.Fits maxRuntimeSeconds server.now id server.stored.committed (server.stored.own id)) :
    (server.setSession id (if seen then session else other)).Consistent maxRuntimeSeconds := by
  split_ifs
  · exact consistent.goOn idle (fun was => (begun was).1) here
  · exact consistent.goOn idle (fun was => (begun was).2) there

theorem write (consistent : server.Consistent maxRuntimeSeconds)
    (idle : ∀ byHand takenAt, server.sessions id ≠ .running byHand takenAt)
    (begun : (server.sessions id).begun = true → session.begun = true)
    (found : server.stored.found id = some old)
    (here : session.Fits maxRuntimeSeconds server.now id server.stored.committed (some job)) :
    ({ server.setSession id session with stored := server.stored.write id job } : LeaseServer).Consistent
      maxRuntimeSeconds := by
  obtain ⟨begunAll, unended, ended, apart⟩ := consistent.runs.goOn idle begun
  exact ⟨consistent.fit.write found here, begunAll, unended, ended, apart⟩

/-- A commit changes the lease as its session may. -/
theorem commit (consistent : server.Consistent maxRuntimeSeconds) (id : Id) (session : LeaseSession)
    (idle : ∀ byHand takenAt, server.sessions id ≠ .running byHand takenAt)
    (begun : (server.sessions id).begun = true → session.begun = true)
    (unwritten : server.stored.own id = none →
      session.Fits maxRuntimeSeconds server.now id server.stored.committed none)
    (here : ∀ job, server.stored.own id = some job → session.Fits maxRuntimeSeconds server.now id job none) :
    ({ server.setSession id session with stored := server.stored.commit id } : LeaseServer).Consistent
        maxRuntimeSeconds ∧
      LeaseChange maxRuntimeSeconds server.now id (server.sessions id) server.stored.committed
        (server.stored.commit id).committed := by
  have changes (job : JobConfiguration) (own : server.stored.own id = some job) :
      LeaseChange maxRuntimeSeconds server.now id (server.sessions id) server.stored.committed job := by
    have fits := consistent.fit id
    rw [own] at fits
    exact fits.change
  have fit := consistent.fit.commit unwritten here fun job own other apart fits =>
    fits.after (changes job own) apart
  obtain ⟨begunAll, unended, ended, apart⟩ := consistent.runs.goOn idle begun
  refine ⟨⟨fit, begunAll, unended, ended, apart⟩, ?_⟩
  cases own : server.stored.own id with
  | none =>
    rw [Stored.commit_of_own_none own]
    exact .kept rfl
  | some job =>
    rw [Stored.commit_of_own own]
    exact changes job own

/-- A run that starts while its lease is fresh. -/
theorem startRun (consistent : server.Consistent maxRuntimeSeconds) {byHand : Bool} {takenAt : Time}
    (fresh : (server.sessions id).begun = false) (inTime : server.now ≤ takenAt + seconds maxRuntimeSeconds)
    (here : (LeaseSession.running byHand takenAt).Fits maxRuntimeSeconds server.now id server.stored.committed
      (server.stored.own id)) :
    ({ server.setSession id (.running byHand takenAt) with
      runs := { token := id, startedAt := server.now } :: server.runs } : LeaseServer).Consistent
        maxRuntimeSeconds := by
  obtain ⟨begun, unended, ended, apart⟩ := consistent.runs.start fresh inTime
  exact ⟨consistent.fit.goOn here, begun, unended, ended, apart⟩

/-- A rollback, which ends the run. -/
theorem rollback (consistent : server.Consistent maxRuntimeSeconds)
    (begun : (server.sessions id).begun = true → session.begun = true)
    (here : session.Fits maxRuntimeSeconds server.now id server.stored.committed none) :
    (({ server.setSession id session with stored := server.stored.rollback id } : LeaseServer).endRun
      id).Consistent maxRuntimeSeconds := by
  obtain ⟨begunAll, unended, ended, apart⟩ := consistent.runs.endRun id session begun
  exact ⟨consistent.fit.rollback here, begunAll, unended, ended, apart⟩

end Moves

/-- **One statement** keeps the runs apart. -/
theorem step (consistent : server.Consistent maxRuntimeSeconds) {statement : LeaseStatement} {next : LeaseServer}
    (allowed : server.withinLimits maxRuntimeSeconds statement = true)
    (stepped : LeaseServer.step maxRuntimeSeconds statement server = some next) :
    next.Consistent maxRuntimeSeconds ∧ LeaseMoves maxRuntimeSeconds statement server next := by
  cases statement with
  | tick now =>
    cases stepped
    obtain ⟨notBefore, inTime⟩ := Bool.and_eq_true_iff.mp allowed
    refine ⟨consistent.tick (of_decide_eq_true notBefore) fun run mem goesOn => ?_, .inl rfl⟩
    have within := List.all_eq_true.mp inTime run mem
    rw [goesOn] at within
    exact of_decide_eq_true within
  | openSession id byHand =>
    rw [LeaseServer.step] at stepped
    split at stepped
    · rename_i session
      cases stepped
      have fits := consistent.fit id
      rw [session] at fits
      refine ⟨consistent.goOn (by simp [session]) ?_ fits, .inl rfl⟩
      simp [session, LeaseSession.begun]
    · cases stepped
  | readClock id =>
    rw [LeaseServer.step] at stepped
    split at stepped
    · rename_i byHand session
      cases stepped
      have fits := consistent.fit id
      rw [session] at fits
      refine ⟨consistent.goOn (by simp [session]) ?_ ⟨fits, le_refl _⟩, .inl rfl⟩
      simp [session, LeaseSession.begun]
    · cases stepped
  | select id listed =>
    rw [LeaseServer.step, LeaseServer.select] at stepped
    split at stepped
    · rename_i now session
      have fits := consistent.fit id
      rw [session] at fits
      have idle : ∀ byHand takenAt, server.sessions id ≠ .running byHand takenAt := by simp [session]
      have begun (after : LeaseSession) : (server.sessions id).begun = true → after.begun = true := by
        simp [session, LeaseSession.begun]
      split at stepped
      · rename_i free
        dsimp only at stepped
        split_ifs at stepped with due
        · cases stepped
          have unleased := (Bool.and_eq_true_iff.mp due.2).2
          exact ⟨consistent.write idle (begun _) (Stored.found_of_free free id)
            ⟨fits.2, unleased, _, rfl, rfl⟩, .inl rfl⟩
        · cases stepped
          exact ⟨consistent.goOn idle (begun _) fits.1, .inl rfl⟩
      · cases stepped
        exact ⟨consistent.goOn idle (begun _) fits.1, .inl rfl⟩
    · cases stepped
  | issue id =>
    rw [LeaseServer.step, LeaseServer.issue] at stepped
    split at stepped
    · rename_i now session
      cases stepped
      have fits := consistent.fit id
      rw [session] at fits
      have begun (after : LeaseSession) : (server.sessions id).begun = true → after.begun = true := by
        simp [session, LeaseSession.begun]
      exact ⟨consistent.goOn_ite (by simp [session]) (fun was => ⟨begun _ was, begun _ was⟩) fits fits.1, .inl rfl⟩
    · cases stepped
  | execute id =>
    rw [LeaseServer.step, LeaseServer.execute] at stepped
    split at stepped
    · rename_i now job session found
      have fits := consistent.fit id
      rw [session] at fits
      have idle : ∀ byHand takenAt, server.sessions id ≠ .running byHand takenAt := by simp [session]
      have begun (after : LeaseSession) : (server.sessions id).begun = true → after.begun = true := by
        simp [session, LeaseSession.begun]
      split_ifs at stepped with unleased
      · cases stepped
        have isStored := Stored.found_unwritten fits.1 found
        exact ⟨consistent.write idle (begun _) found ⟨fits.2, isStored ▸ unleased, _, rfl, rfl⟩, .inl rfl⟩
      · cases stepped
        exact ⟨consistent.goOn idle (begun _) fits.1, .inl rfl⟩
    · cases stepped
  | verify id =>
    rw [LeaseServer.step, LeaseServer.verify] at stepped
    split at stepped
    · rename_i takenAt session
      cases stepped
      have fits := consistent.fit id
      rw [session] at fits
      have begun (after : LeaseSession) : (server.sessions id).begun = true → after.begun = true := by
        simp [session, LeaseSession.begun]
      exact ⟨consistent.goOn_ite (by simp [session]) (fun was => ⟨begun _ was, begun _ was⟩) fits fits.1, .inl rfl⟩
    · cases stepped
  | start id =>
    rw [LeaseServer.step, LeaseServer.start] at stepped
    rw [LeaseServer.withinLimits] at allowed
    split at stepped
    · rename_i takenAt session
      cases stepped
      have fits := consistent.fit id
      rw [session] at fits allowed
      exact ⟨consistent.startRun (by rw [session]; rfl) (of_decide_eq_true allowed) fits, .inl rfl⟩
    · rename_i takenAt session
      cases stepped
      have fits := consistent.fit id
      rw [session] at fits allowed
      exact ⟨consistent.startRun (by rw [session]; rfl) (of_decide_eq_true allowed) fits, .inl rfl⟩
    · cases stepped
  | finish id =>
    rw [LeaseServer.step, LeaseServer.finish] at stepped
    split at stepped
    · rename_i byHand takenAt session
      cases stepped
      have fits := consistent.fit id
      rw [session] at fits
      obtain ⟨begun, unended, ended, apart⟩ := consistent.runs.endRun id (.ended byHand) fun _ => rfl
      exact ⟨⟨consistent.fit.goOn fits.1, begun, unended, ended, apart⟩, .inl rfl⟩
    · cases stepped
  | count id enabled nextRunAt =>
    rw [LeaseServer.step, LeaseServer.count] at stepped
    split at stepped
    · rename_i byHand job session found
      cases stepped
      have fits := consistent.fit id
      rw [session] at fits
      refine ⟨consistent.write (by simp [session]) (fun _ => rfl) found fun own isOwn => ?_, .inl rfl⟩
      cases isOwn
      rw [← Stored.found_unwritten fits found]
      rfl
    · cases stepped
  | abandon id =>
    rw [LeaseServer.step, LeaseServer.abandon] at stepped
    split at stepped
    on_goal 5 => cases stepped
    all_goals
      cases stepped
      exact ⟨consistent.rollback (fun _ => rfl) rfl, .inl (Stored.rollback_committed ..)⟩
  | issueRelease id =>
    rw [LeaseServer.step, LeaseServer.issueRelease] at stepped
    split at stepped
    · rename_i byHand session
      cases stepped
      have fits := consistent.fit id
      rw [session] at fits
      have unwritten : server.stored.own id = none := fits
      refine ⟨consistent.goOn_ite (by simp [session]) (fun _ => ⟨rfl, rfl⟩) ?_ ?_, .inl rfl⟩
      · intro job mem
        cases unwritten.symm.trans mem
      · intro job mem
        cases unwritten.symm.trans mem
    · rename_i session
      cases stepped
      have fits := consistent.fit id
      rw [session] at fits
      exact ⟨consistent.goOn_ite (by simp [session]) (fun _ => ⟨rfl, rfl⟩) fits fun job mem => .inl (fits job mem),
        .inl rfl⟩
    · cases stepped
  | executeRelease id =>
    rw [LeaseServer.step, LeaseServer.executeRelease] at stepped
    split at stepped
    · rename_i job session found
      have fits := consistent.fit id
      rw [session] at fits
      have idle : ∀ byHand takenAt, server.sessions id ≠ .running byHand takenAt := by simp [session]
      split_ifs at stepped with token
      · cases stepped
        refine ⟨consistent.write idle (fun _ => rfl) found fun own isOwn => ?_, .inl rfl⟩
        cases isOwn
        refine .inr ⟨?_, rfl⟩
        rcases Stored.found_eq_some found with own | ⟨-, rfl⟩
        · exact (congrArg Prod.fst (fits job own)).symm.trans token
        · exact token
      · cases stepped
        exact ⟨consistent.goOn idle (fun _ => rfl) fun job mem => .inl (fits job mem), .inl rfl⟩
    · cases stepped
  | commit id =>
    rw [LeaseServer.step, LeaseServer.commit] at stepped
    split at stepped
    · rename_i byHand takenAt session
      cases stepped
      have fits := consistent.fit id
      rw [session] at fits
      obtain ⟨-, -, own, isOwn, lease⟩ := fits
      have committed := consistent.commit id (.leased byHand takenAt) (by simp [session])
        (by simp [session, LeaseSession.begun]) (fun unwritten => by cases isOwn.symm.trans unwritten)
        (fun job isJob => by
          cases isOwn.symm.trans isJob
          exact ⟨rfl, .inl lease⟩)
      exact ⟨committed.1, .inr ⟨id, rfl, committed.2⟩⟩
    · rename_i session
      cases stepped
      have committed := consistent.commit id (.ended true) (by simp [session]) (fun _ => rfl)
        (fun _ => rfl) (fun _ _ => rfl)
      exact ⟨committed.1, .inr ⟨id, rfl, committed.2⟩⟩
    · rename_i session
      cases stepped
      have committed := consistent.commit id .closed (by simp [session]) (fun _ => rfl)
        (fun _ => rfl) (fun _ _ => rfl)
      exact ⟨committed.1, .inr ⟨id, rfl, committed.2⟩⟩
    · cases stepped
  | rollback id =>
    rw [LeaseServer.step, LeaseServer.rollback] at stepped
    split at stepped
    · cases stepped
    · cases stepped
    · cases stepped
      exact ⟨consistent.rollback (fun _ => rfl) rfl, .inl (Stored.rollback_committed ..)⟩

end LeaseServer.Consistent

/-- No session was opened yet. -/
structure LeaseServer.Fresh (server : LeaseServer) : Prop where
  free : server.stored.held = none
  unopened : ∀ id, server.sessions id = .unopened
  unrun : server.runs = []

theorem LeaseServer.Fresh.consistent {server : LeaseServer} (fresh : server.Fresh) (maxRuntimeSeconds : Int) :
    server.Consistent maxRuntimeSeconds where
  fit id := by
    rw [fresh.unopened]
    exact Stored.own_of_free fresh.free id
  runs := by
    refine ⟨?_, ?_, ?_, ?_⟩
    · simp [fresh.unrun]
    · simp [fresh.unrun]
    · simp [fresh.unrun]
    · rw [fresh.unrun]
      exact .nil

/-- **One run at a time**: whatever the order of their statements, no two runs of the
job overlap while they keep their limits, and the lease changes only by the commit of
the session that takes it free or clears its own. -/
theorem one_run_at_a_time {maxRuntimeSeconds : Int} {start server : LeaseServer} (fresh : start.Fresh)
    (runs : Runs (LeaseServer.step maxRuntimeSeconds) (LeaseServer.withinLimits maxRuntimeSeconds) start server) :
    NoOverlap server ∧ ∀ statement next, server.withinLimits maxRuntimeSeconds statement = true →
      LeaseServer.step maxRuntimeSeconds statement server = some next →
      LeaseMoves maxRuntimeSeconds statement server next := by
  have consistent : server.Consistent maxRuntimeSeconds :=
    runs.keeps (fun _ _ _ allowed stepped now => (now.step allowed stepped).1) (fresh.consistent maxRuntimeSeconds)
  refine ⟨consistent.runs.apart.imp fun apart => apart.2, fun statement next allowed stepped => ?_⟩
  exact (consistent.step allowed stepped).2

/-! ## A lease that is taken over -/

/-- A job that is due, with no lease. -/
def dueJob : LeaseServer where
  now := 0
  stored := ⟨{ nextRunAt := some 0 }, none⟩

theorem dueJob_fresh : dueJob.Fresh := ⟨rfl, fun _ => rfl, rfl⟩

/-- A poll leases the job for ten seconds of running; its process comes to clear the
lease only when a call by hand has taken it over. -/
def takeOver : List LeaseStatement :=
  [.openSession 1 false, .readClock 1, .select 1 true, .commit 1, .verify 1, .tick (seconds 5), .start 1,
    .tick (seconds 15), .finish 1, .tick (seconds 20), .openSession 2 true, .readClock 2, .issue 2, .execute 2,
    .commit 2, .start 2, .tick (seconds 25), .issueRelease 1, .commit 1]

/-- The second run has the lease to itself, and keeps it. -/
theorem taken_over : ∃ server,
    runAll (LeaseServer.step 10) (LeaseServer.withinLimits 10) takeOver dueJob = some server ∧
    server.runs.length = 2 ∧ server.stored.committed.leaseToken = some 2 ∧ NoOverlap server := by
  have apart : ∀ server,
      runAll (LeaseServer.step 10) (LeaseServer.withinLimits 10) takeOver dueJob = some server →
      NoOverlap server := fun server ran => (one_run_at_a_time dueJob_fresh (.of_runAll ran)).1
  exact ⟨_, rfl, rfl, rfl, apart _ rfl⟩

end LuxSwirl.Server
