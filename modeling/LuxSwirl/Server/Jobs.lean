import LuxSwirl.Lib.ReadCommitted
import LuxSwirl.Server.Models

/-!
# Requests on one job

`job_core_service.py` and `job_crud.py`: an agent's heartbeat dispatches a pending
job, the job starts, its result is submitted, or it is cancelled. Each request is a
transaction at READ COMMITTED. Three of them move the job by one UPDATE that checks
its status; a heartbeat reads it, assigns the copy in its session, and writes that by
the job's key.

The stored job keeps its outcome as long as no such write finds it finished:
`finished_stays`.
-/

namespace LuxSwirl.Server
open LuxSwirl.Py LuxSwirl.Lib

inductive JobStatus where
  | pending
  | assigned
  | running
  | completed
  | failed
  | cancelled
  deriving DecidableEq

/-- `_FINISHED` -/
def JobStatus.finished : JobStatus → Bool
  | .completed | .failed | .cancelled => true
  | _ => false

structure Job where
  status : JobStatus := .pending
  assignedAt : Option Time := none
  startedAt : Option Time := none
  completedAt : Option Time := none
  result : Option Value := none
  error : Option Text := none
  deriving DecidableEq

/-- `Job.assign` -/
def Job.assign (now : Time) (job : Job) : Job := { job with status := .assigned, assignedAt := some now }

/-- Where a request moves a job, with the result or the error it stores. -/
structure JobMove where
  status : JobStatus
  result : Option Value := none
  error : Option Text := none

/-- The condition of the UPDATE: only an assigned job starts, and only an unfinished
one moves anywhere else. -/
def JobMove.matches (move : JobMove) (job : Job) : Bool :=
  (if move.status = .running then decide (job.status = .assigned) else !job.status.finished) &&
    decide (job.status ≠ move.status)

/-- The row it leaves; the start or finish time is stamped once. -/
def JobMove.row (move : JobMove) (now : Time) (job : Job) : Job :=
  { job with
    status := move.status
    result := move.result <|> job.result
    error := move.error <|> job.error
    startedAt := if move.status = .running then job.startedAt <|> some now else job.startedAt
    completedAt := if move.status.finished then job.completedAt <|> some now else job.completedAt }

/-- `move_open_job` on the version of the job it finds. -/
def moveOpenJob (move : JobMove) (now : Time) (job : Job) : Option Job :=
  if move.matches job then some (move.row now job) else none

/-- What an agent submits: its result when it completed the job, else an error. -/
structure JobResultSubmit where
  completed : Bool
  result : Option Value := none
  error : Option Text := none

inductive Request where
  | heartbeat
  | updateJobStatus (status : JobStatus)
  | submitJobResult (data : JobResultSubmit)
  | cancelJob

/-- `error or "Unknown error"` -/
def errorOr (error : Option Text) : Text :=
  match error with
  | none | some [] => text "Unknown error"
  | some error => error

/-- The move a request makes by one UPDATE; a heartbeat makes none. What a completed
job stores is enriched by its type. -/
def Request.move (enrich : Value → Value) : Request → Option JobMove
  | .heartbeat => none
  | .updateJobStatus status => some { status }
  | .submitJobResult data =>
    if data.completed then some { status := .completed, result := some (enrich (data.result.getD (.dict []))) }
    else some { status := .failed, error := some (errorOr data.error) }
  | .cancelJob => some { status := .cancelled }

/-! ## Statements -/

/-- How far a request's transaction is. -/
inductive Session where
  | unopened
  | opened (request : Request)
  /-- Its UPDATE matched the job of its snapshot, and waits for the row. -/
  | waiting (request : Request)
  /-- A heartbeat's copy of the job is assigned. -/
  | assigned (assignedAt : Time)
  | wrote (request : Request)
  | unchanged (request : Request)
  | closed

/-- What a request that committed a change told: the job to its agent, or that it is
cancelled. -/
inductive Answer where
  | dispatched (id : Id)
  | cancelled (id : Id)
  deriving DecidableEq

/-- The job, the requests on it, and the answers, newest first. -/
structure JobServer where
  stored : Stored Id Job
  sessions : Id → Session := fun _ => .unopened
  answers : List Answer := []

def JobServer.setSession (id : Id) (session : Session) (server : JobServer) : JobServer :=
  { server with sessions := Function.update server.sessions id session }

inductive Statement where
  | openSession (id : Id) (request : Request)
  /-- A heartbeat's SELECT; the job may be beyond its limit. -/
  | select (id : Id) (listed : Bool) (now : Time)
  /-- An UPDATE takes its snapshot, -/
  | issue (id : Id)
  /-- and moves the job once it has the row. -/
  | execute (id : Id) (now : Time)
  /-- The write of an assigned copy. -/
  | flush (id : Id)
  | commit (id : Id)
  | rollback (id : Id)

/-- What a request tells once it has committed a write. -/
def Request.answers (id : Id) : Request → List Answer
  | .heartbeat => [.dispatched id]
  | .cancelJob => [.cancelled id]
  | _ => []

namespace JobServer

variable (enrich : Value → Value)

def select (id : Id) (listed : Bool) (now : Time) (server : JobServer) : Option JobServer :=
  match server.sessions id with
  | .opened .heartbeat =>
    some (server.setSession id
      (if listed ∧ server.stored.committed.status = .pending then .assigned now else .unchanged .heartbeat))
  | _ => none

def issue (id : Id) (server : JobServer) : Option JobServer :=
  match server.sessions id with
  | .opened request => (request.move enrich).map fun move =>
    server.setSession id (if move.matches server.stored.committed then .waiting request else .unchanged request)
  | _ => none

def execute (id : Id) (now : Time) (server : JobServer) : Option JobServer :=
  match server.sessions id with
  | .waiting request =>
    match request.move enrich, server.stored.found id with
    | some move, some job =>
      match moveOpenJob move now job with
      | some moved => some { server.setSession id (.wrote request) with stored := server.stored.write id moved }
      | none => some (server.setSession id (.unchanged request))
    | _, _ => none
  | _ => none

def flush (id : Id) (server : JobServer) : Option JobServer :=
  match server.sessions id, server.stored.found id with
  | .assigned assignedAt, some job =>
    some { server.setSession id (.wrote .heartbeat) with
      stored := server.stored.write id (job.assign assignedAt) }
  | _, _ => none

def commit (id : Id) (server : JobServer) : Option JobServer :=
  match server.sessions id with
  | .wrote request =>
    some { server.setSession id .closed with
      stored := server.stored.commit id
      answers := request.answers id ++ server.answers }
  | .unchanged _ => some (server.setSession id .closed)
  | _ => none

def rollback (id : Id) (server : JobServer) : Option JobServer :=
  match server.sessions id with
  | .unopened | .closed => none
  | _ => some { server.setSession id .closed with stored := server.stored.rollback id }

/-- The server after a statement, if it can run now. -/
def step : Statement → JobServer → Option JobServer
  | .openSession id request, server =>
    match server.sessions id with
    | .unopened => some (server.setSession id (.opened request))
    | _ => none
  | .select id listed now, server => server.select id listed now
  | .issue id, server => server.issue enrich id
  | .execute id now, server => server.execute enrich id now
  | .flush id, server => server.flush id
  | .commit id, server => server.commit id
  | .rollback id, server => server.rollback id

/-- One statement of any request, allowed where it runs. -/
def Next (allows : JobServer → Statement → Bool) (server next : JobServer) : Prop :=
  ∃ statement, allows server statement = true ∧ server.step enrich statement = some next

/-- Statements of any requests, one after another. -/
abbrev Runs (allows : JobServer → Statement → Bool) : JobServer → JobServer → Prop :=
  Relation.ReflTransGen (Next enrich allows)

/-- Some statements in turn. -/
def runAll (allows : JobServer → Statement → Bool) : List Statement → JobServer → Option JobServer
  | [], server => some server
  | statement :: rest, server =>
    if allows server statement then (server.step enrich statement).bind (runAll allows rest) else none

theorem Runs.of_runAll {allows : JobServer → Statement → Bool} {statements : List Statement}
    {start server : JobServer} (ran : runAll enrich allows statements start = some server) :
    Runs enrich allows start server := by
  induction statements generalizing start with
  | nil =>
    cases ran
    exact .refl
  | cons statement rest ih =>
    rw [runAll] at ran
    split_ifs at ran with allowed
    obtain ⟨next, stepped, others⟩ := Option.bind_eq_some_iff.mp ran
    exact .head ⟨statement, allowed, stepped⟩ (ih others)

end JobServer

/-! ## A finished job -/

/-- A finished job keeps its status, result, error and finish time. -/
def Job.Keeps (before after : Job) : Prop :=
  before.status.finished = true → after.status = before.status ∧ after.result = before.result ∧
    after.error = before.error ∧ after.completedAt = before.completedAt

instance (before after : Job) : Decidable (before.Keeps after) := inferInstanceAs (Decidable (_ → _))

theorem Job.Keeps.refl (job : Job) : job.Keeps job := fun _ => ⟨rfl, rfl, rfl, rfl⟩

theorem Job.Keeps.trans (first second third : Job) (kept : first.Keeps second) (keptOn : second.Keeps third) :
    first.Keeps third := by
  intro finished
  obtain ⟨status, result, error, completedAt⟩ := kept finished
  obtain ⟨status', result', error', completedAt'⟩ := keptOn (by rw [status]; exact finished)
  exact ⟨status'.trans status, result'.trans result, error'.trans error, completedAt'.trans completedAt⟩

/-- A move finds its job unfinished. -/
theorem moveOpenJob_keeps {move : JobMove} {now : Time} {job moved : Job}
    (isMoved : moveOpenJob move now job = some moved) : job.Keeps moved ∧ moved.status = move.status := by
  unfold moveOpenJob at isMoved
  split_ifs at isMoved with isMatch
  cases isMoved
  refine ⟨fun finished => ?_, rfl⟩
  rw [JobMove.matches, Bool.and_eq_true] at isMatch
  obtain ⟨movable, -⟩ := isMatch
  split_ifs at movable with starts
  · rw [of_decide_eq_true movable] at finished
    cases finished
  · rw [finished] at movable
    cases movable

/-- Every write of an assigned copy finds the stored job unfinished. -/
def assignsOpen (server : JobServer) : Statement → Bool
  | .flush _ => !server.stored.committed.status.finished
  | _ => true

/-- A dispatch after a cancel was told of. -/
def Answer.late : Answer → Answer → Bool
  | .dispatched _, .cancelled _ => true
  | _, _ => false

/-- No job told to be cancelled is dispatched later. -/
def NoLateDispatch (answers : List Answer) : Prop :=
  answers.Pairwise fun later earlier => later.late earlier = false

instance (answers : List Answer) : Decidable (NoLateDispatch answers) :=
  inferInstanceAs (Decidable (answers.Pairwise _))

/-- What a request wrote, as far as its answer tells of it. -/
def Request.Wrote (job : Job) : Request → Prop
  | .heartbeat => job.status = .assigned
  | .cancelJob => job.status = .cancelled
  | _ => True

namespace JobServer

/-- The row is held by the request that wrote it, and a cancelled job is finished. -/
structure Consistent (server : JobServer) : Prop where
  holder : ∀ id job, server.stored.held = some (id, job) →
    ∃ request, server.sessions id = .wrote request ∧ request.Wrote job
  holds : ∀ id request, server.sessions id = .wrote request → ∃ job, server.stored.held = some (id, job)
  sound : Stored.Sound Job.Keeps server.stored
  finished : ∀ id, .cancelled id ∈ server.answers → server.stored.committed.status.finished = true
  order : NoLateDispatch server.answers

@[simp] theorem setSession_stored (id : Id) (session : Session) (server : JobServer) :
    (server.setSession id session).stored = server.stored := rfl

@[simp] theorem setSession_answers (id : Id) (session : Session) (server : JobServer) :
    (server.setSession id session).answers = server.answers := rfl

@[simp] theorem setSession_same (id : Id) (session : Session) (server : JobServer) :
    (server.setSession id session).sessions id = session := Function.update_self ..

theorem setSession_other {id other : Id} (apart : other ≠ id) (session : Session) (server : JobServer) :
    (server.setSession id session).sessions other = server.sessions other := Function.update_of_ne apart ..

section Steps

variable {server next : JobServer} {id : Id}

/-- A request that has written nothing goes on, writing nothing. -/
theorem Consistent.goOn (consistent : Consistent server) (before : ∀ request, server.sessions id ≠ .wrote request)
    {session : Session} (after : ∀ request, session ≠ .wrote request) :
    Consistent (server.setSession id session) where
  holder other job held := by
    obtain ⟨request, wrote, isWritten⟩ := consistent.holder other job held
    have apart : other ≠ id := by
      rintro rfl
      exact before request wrote
    exact ⟨request, by rw [setSession_other apart, wrote], isWritten⟩
  holds other request wrote := by
    by_cases same : other = id
    · rw [same, setSession_same] at wrote
      exact absurd wrote (after request)
    · rw [setSession_other same] at wrote
      exact consistent.holds other request wrote
  sound := consistent.sound
  finished := consistent.finished
  order := consistent.order

/-- A request that has not written finds the row free or not at all. -/
theorem Consistent.free (consistent : Consistent server) (before : ∀ request, server.sessions id ≠ .wrote request)
    {job : Job} (found : server.stored.found id = some job) :
    server.stored.held = none ∧ job = server.stored.committed := by
  unfold Stored.found at found
  split at found
  · rename_i free
    cases found
    exact ⟨free, rfl⟩
  · rename_i owner own held
    split_ifs at found with same
    obtain ⟨request, wrote, -⟩ := consistent.holder owner own held
    rw [same] at wrote
    exact absurd wrote (before request)

/-- It writes the version it finds, and holds the row. -/
theorem Consistent.write (consistent : Consistent server) (before : ∀ request, server.sessions id ≠ .wrote request)
    {old job : Job} (found : server.stored.found id = some old) (kept : old.Keeps job) {request : Request}
    (wrote : request.Wrote job) :
    Consistent { server.setSession id (.wrote request) with stored := server.stored.write id job } where
  holder other own held := by
    rw [Stored.write_held, Option.some.injEq, Prod.mk.injEq] at held
    obtain ⟨rfl, rfl⟩ := held
    exact ⟨request, setSession_same .., wrote⟩
  holds other otherRequest isWriter := by
    by_cases same : other = id
    · exact ⟨job, by rw [same]; rfl⟩
    · have old : server.sessions other = .wrote otherRequest := by
        rw [← isWriter]
        exact (setSession_other same _ _).symm
      obtain ⟨own, held⟩ := consistent.holds other otherRequest old
      rw [(consistent.free before found).1] at held
      cases held
  sound := ((Stored.Change.write found kept).committed Job.Keeps.refl Job.Keeps.trans consistent.sound).2
  finished := consistent.finished
  order := consistent.order

/-- While a request holds the row, no other has written. -/
theorem Consistent.alone (consistent : Consistent server) {job : Job} (held : server.stored.held = some (id, job))
    (other : Id) (request : Request) : (server.setSession id .closed).sessions other ≠ .wrote request := by
  intro isWriter
  by_cases same : other = id
  · rw [same] at isWriter
    cases (setSession_same id .closed server).symm.trans isWriter
  · have old := (setSession_other same .closed server).symm.trans isWriter
    obtain ⟨own, alsoHeld⟩ := consistent.holds other request old
    rw [held] at alsoHeld
    cases alsoHeld
    exact absurd rfl same

/-- A commit tells of a cancel, or of a dispatch when no cancel was told of. -/
theorem Consistent.commit (consistent : Consistent server) {request : Request}
    (wrote : server.sessions id = .wrote request) :
    Consistent { server.setSession id .closed with
      stored := server.stored.commit id
      answers := request.answers id ++ server.answers } := by
  obtain ⟨job, held⟩ := consistent.holds id request wrote
  obtain ⟨other, isWriter, isWritten⟩ := consistent.holder id job held
  rw [wrote] at isWriter
  cases isWriter
  have kept : server.stored.committed.Keeps job := consistent.sound id job held
  rw [Stored.commit_of_held held]
  refine ⟨by simp, ?_, Stored.sound_of_free rfl, ?_, ?_⟩
  · exact fun other otherRequest isWriter => absurd isWriter (consistent.alone held other otherRequest)
  · intro other told
    rcases List.mem_append.mp told with own | before
    · cases request with
      | cancelJob =>
        have cancelled : job.status = .cancelled := isWritten
        show job.status.finished = true
        rw [cancelled]
        rfl
      | heartbeat => simp [Request.answers] at own
      | updateJobStatus status => simp [Request.answers] at own
      | submitJobResult data => simp [Request.answers] at own
    · have finished := consistent.finished other before
      show job.status.finished = true
      rw [(kept finished).1]
      exact finished
  · cases request with
    | heartbeat =>
      refine List.pairwise_cons.mpr ⟨fun earlier told => ?_, consistent.order⟩
      cases earlier with
      | dispatched other => rfl
      | cancelled other =>
        have finished := consistent.finished other told
        have assigned : job.status = .assigned := isWritten
        rw [← (kept finished).1, assigned] at finished
        cases finished
    | cancelJob =>
      exact List.pairwise_cons.mpr ⟨fun _ _ => rfl, consistent.order⟩
    | updateJobStatus status => exact consistent.order
    | submitJobResult data => exact consistent.order

theorem Consistent.rollback (consistent : Consistent server) :
    Consistent { server.setSession id .closed with stored := server.stored.rollback id } := by
  by_cases wrote : ∃ request, server.sessions id = .wrote request
  · obtain ⟨request, wrote⟩ := wrote
    obtain ⟨job, held⟩ := consistent.holds id request wrote
    rw [Stored.rollback_of_held held]
    refine ⟨by simp, ?_, Stored.sound_of_free rfl, consistent.finished, consistent.order⟩
    exact fun other otherRequest isWriter => absurd isWriter (consistent.alone held other otherRequest)
  · have notWritten : ∀ request, server.sessions id ≠ .wrote request :=
      fun request isWritten => wrote ⟨request, isWritten⟩
    have same : server.stored.rollback id = server.stored := by
      unfold Stored.rollback
      split
      · rfl
      · rename_i owner job held
        obtain ⟨request, isWriter, -⟩ := consistent.holder owner job held
        refine if_neg fun same => ?_
        rw [same] at isWriter
        exact notWritten request isWriter
    rw [same]
    exact consistent.goOn notWritten fun request => by simp

end Steps

/-- **One statement** keeps the server consistent and changes the stored job as its
writes may. -/
theorem Consistent.step {enrich : Value → Value} {server next : JobServer} {statement : Statement}
    (consistent : Consistent server) (isOpen : assignsOpen server statement = true)
    (stepped : server.step enrich statement = some next) :
    Consistent next ∧ Stored.Change Job.Keeps server.stored next.stored := by
  cases statement with
  | openSession id request =>
    rw [JobServer.step] at stepped
    split at stepped
    · rename_i session
      cases stepped
      exact ⟨consistent.goOn (fun _ => by simp [session]) (fun _ => by simp), .read⟩
    · cases stepped
  | select id listed now =>
    rw [JobServer.step, JobServer.select] at stepped
    split at stepped
    · rename_i session
      cases stepped
      refine ⟨consistent.goOn (fun _ => by simp [session]) fun _ => ?_, .read⟩
      split_ifs <;> simp
    · cases stepped
  | issue id =>
    rw [JobServer.step, JobServer.issue] at stepped
    split at stepped
    · rename_i request session
      obtain ⟨move, -, rfl⟩ := Option.map_eq_some_iff.mp stepped
      refine ⟨consistent.goOn (fun _ => by simp [session]) fun _ => ?_, .read⟩
      split_ifs <;> simp
    · cases stepped
  | execute id now =>
    rw [JobServer.step, JobServer.execute] at stepped
    split at stepped
    · rename_i request session
      have notWritten : ∀ request, server.sessions id ≠ .wrote request := fun _ => by simp [session]
      split at stepped
      · rename_i move job isMove found
        split at stepped
        · rename_i moved isMoved
          cases stepped
          obtain ⟨kept, status⟩ := moveOpenJob_keeps isMoved
          have wrote : request.Wrote moved := by
            cases request with
            | heartbeat => cases isMove
            | cancelJob =>
              cases isMove
              exact status
            | updateJobStatus status => trivial
            | submitJobResult data => trivial
          exact ⟨consistent.write notWritten found kept wrote, .write found kept⟩
        · cases stepped
          exact ⟨consistent.goOn notWritten fun _ => by simp, .read⟩
      · cases stepped
    · cases stepped
  | flush id =>
    rw [JobServer.step, JobServer.flush] at stepped
    split at stepped
    · rename_i assignedAt job session found
      cases stepped
      have notWritten : ∀ request, server.sessions id ≠ .wrote request := fun _ => by simp [session]
      obtain ⟨-, isStored⟩ := consistent.free notWritten found
      have kept : job.Keeps (job.assign assignedAt) := by
        intro finished
        rw [isStored] at finished
        simp [assignsOpen, finished] at isOpen
      exact ⟨consistent.write notWritten found kept rfl, .write found kept⟩
    · cases stepped
  | commit id =>
    rw [JobServer.step, JobServer.commit] at stepped
    split at stepped
    · rename_i request wrote
      cases stepped
      exact ⟨consistent.commit wrote, .commit id⟩
    · rename_i request session
      cases stepped
      exact ⟨consistent.goOn (fun _ => by simp [session]) fun _ => by simp, .read⟩
    · cases stepped
  | rollback id =>
    rw [JobServer.step, JobServer.rollback] at stepped
    split at stepped
    · cases stepped
    · cases stepped
    · cases stepped
      exact ⟨consistent.rollback, .rollback id⟩

/-- A run of statements is a run on the stored job. -/
theorem Consistent.runs {enrich : Value → Value} {start server : JobServer} (consistent : Consistent start)
    (runs : Runs enrich assignsOpen start server) :
    Consistent server ∧ Stored.Run Job.Keeps start.stored server.stored := by
  induction runs with
  | refl => exact ⟨consistent, .refl⟩
  | tail before next ih =>
    obtain ⟨statement, isOpen, stepped⟩ := next
    obtain ⟨now, run⟩ := ih
    obtain ⟨after, change⟩ := now.step isOpen stepped
    exact ⟨after, run.tail change⟩

/-- A write of an assigned copy over a finished job reopens it once committed. -/
theorem reopens {enrich : Value → Value} {server next last : JobServer} {id : Id}
    (finished : server.stored.committed.status.finished = true)
    (flushed : server.step enrich (.flush id) = some next) (committed : next.step enrich (.commit id) = some last) :
    ¬ server.stored.committed.Keeps last.stored.committed := by
  rw [JobServer.step, JobServer.flush] at flushed
  split at flushed
  · rename_i assignedAt job session found
    cases flushed
    rw [JobServer.step, JobServer.commit] at committed
    dsimp only at committed
    rw [setSession_same] at committed
    cases committed
    rw [Stored.commit_of_held (Stored.write_held id _ _)]
    intro kept
    have reopened := (kept finished).1
    rw [← reopened] at finished
    cases finished
  · cases flushed

/-- No request was opened yet. -/
structure Fresh (server : JobServer) : Prop where
  free : server.stored.held = none
  unopened : ∀ id, server.sessions id = .unopened
  unanswered : server.answers = []

theorem Fresh.consistent {server : JobServer} (fresh : Fresh server) : Consistent server where
  holder id job held := by
    rw [fresh.free] at held
    cases held
  holds id request wrote := by
    rw [fresh.unopened] at wrote
    cases wrote
  sound := Stored.sound_of_free fresh.free
  finished id told := by
    rw [fresh.unanswered] at told
    cases told
  order := by
    rw [fresh.unanswered]
    exact .nil

end JobServer

/-- **A finished job stays finished** in every run each of whose writes of an
assigned copy finds the stored job unfinished: between any two states of it, what the
job has stays, and no dispatch comes after a cancel was told of. -/
theorem finished_stays {enrich : Value → Value} {start middle server : JobServer} (fresh : start.Fresh)
    (before : JobServer.Runs enrich assignsOpen start middle)
    (after : JobServer.Runs enrich assignsOpen middle server) :
    middle.stored.committed.Keeps server.stored.committed ∧ NoLateDispatch server.answers := by
  obtain ⟨now, -⟩ := fresh.consistent.runs before
  obtain ⟨last, run⟩ := now.runs after
  exact ⟨(run.committed Job.Keeps.refl Job.Keeps.trans now.sound).1, last.order⟩

/-! ## A cancel while a heartbeat holds the job -/

/-- A job no request is on yet. -/
def newJob : JobServer where
  stored := ⟨{}, none⟩

theorem newJob_fresh : newJob.Fresh := ⟨rfl, fun _ => rfl, rfl⟩

def dispatchJob : List Statement :=
  [.openSession 1 .heartbeat, .select 1 true 5, .flush 1, .commit 1]

def cancelJob : List Statement :=
  [.openSession 2 .cancelJob, .issue 2, .execute 2 6, .commit 2]

def lateResult : List Statement :=
  [.openSession 3 (.submitJobResult ⟨true, none, none⟩), .issue 3, .commit 3]

/-- Dispatched and then cancelled, a job stays cancelled under a late result. -/
theorem cancelled_stays : ∃ middle server,
    JobServer.runAll id assignsOpen (dispatchJob ++ cancelJob) newJob = some middle ∧
    middle.stored.committed.status = .cancelled ∧
    JobServer.runAll id assignsOpen lateResult middle = some server ∧
    middle.stored.committed.Keeps server.stored.committed ∧ NoLateDispatch server.answers := by
  have stays : ∀ middle server,
      JobServer.runAll id assignsOpen (dispatchJob ++ cancelJob) newJob = some middle →
      JobServer.runAll id assignsOpen lateResult middle = some server →
      middle.stored.committed.Keeps server.stored.committed ∧ NoLateDispatch server.answers := by
    intro middle server first more
    exact finished_stays newJob_fresh (.of_runAll id first) (.of_runAll id more)
  exact ⟨_, _, rfl, rfl, rfl, stays _ _ rfl rfl⟩

/-- A heartbeat that read the job before its cancel writes it assigned after, and
dispatches it. -/
theorem cancelled_dispatched : ∃ middle server,
    JobServer.runAll id (fun _ _ => true) ([.openSession 1 .heartbeat, .select 1 true 5] ++ cancelJob) newJob =
      some middle ∧
    middle.stored.committed.status = .cancelled ∧
    JobServer.runAll id (fun _ _ => true) [.flush 1, .commit 1] middle = some server ∧
    server.stored.committed.status = .assigned ∧
    ¬ middle.stored.committed.Keeps server.stored.committed ∧ ¬ NoLateDispatch server.answers :=
  ⟨_, _, rfl, rfl, rfl, rfl, by decide, by decide⟩

end LuxSwirl.Server
