import LuxSwirl.Lib.Interleaving
import LuxSwirl.Server.Jobs
import Mathlib.Data.Fin.Basic
import Mathlib.Data.List.MinMax

/-!
# Maintenance jobs

`maintenance_worker.py` and `maintenance_job_crud.py`: requests enqueue jobs, and the
worker of each server process claims one at a time, runs its handler, and records the
outcome. A step is one transaction. A partial unique index keeps a target from having
two jobs in flight; a worker that starts fails all the running jobs there are.

`one_job_per_target` is about every order of these transactions in which a worker
starts while no other one is at a job (`startsAlone`).
-/

namespace LuxSwirl.Server
open LuxSwirl.Py LuxSwirl.Lib

inductive MaintenanceJobStatus where
  | queued
  | running
  | done
  | failed
  deriving DecidableEq

inductive MaintenanceJobKind where
  | agentDelete
  | bulkCheckDelete
  | bulkCheckToggle
  | bulkCheckModify
  | bulkCheckImport
  | bulkCheckCreate
  | statusPageDelete
  deriving DecidableEq

/-- A row of `maintenance_jobs`. -/
structure MaintenanceJob where
  id : Id
  kind : MaintenanceJobKind
  targetId : Option Id
  status : MaintenanceJobStatus := .queued
  error : Option Text := none
  createdAt : Time
  startedAt : Option Time := none
  completedAt : Option Time := none
  deriving DecidableEq

/-- `status IN ('queued', 'running')` -/
def MaintenanceJobStatus.inflight : MaintenanceJobStatus → Bool
  | .queued | .running => true
  | .done | .failed => false

namespace MaintenanceJob

/-- The jobs have one target. Jobs that have none, have not. -/
def SameTarget (job other : MaintenanceJob) : Prop :=
  job.kind = other.kind ∧ job.targetId = other.targetId ∧ job.targetId ≠ none

instance (job other : MaintenanceJob) : Decidable (SameTarget job other) :=
  inferInstanceAs (Decidable (_ ∧ _))

end MaintenanceJob

/-! ## Statements -/

namespace MaintenanceJobs

def getById (id : Id) (jobs : List MaintenanceJob) : Option MaintenanceJob :=
  jobs.find? fun job => decide (job.id = id)

def getInflightForTarget (kind : MaintenanceJobKind) (targetId : Option Id) (jobs : List MaintenanceJob) :
    Option MaintenanceJob :=
  jobs.find? fun job => decide (job.kind = kind ∧ job.targetId = targetId) && job.status.inflight

/-- The row inserted, if any: a job without a target conflicts with none. -/
def insert (id : Id) (kind : MaintenanceJobKind) (targetId : Option Id) (now : Time)
    (jobs : List MaintenanceJob) : Option MaintenanceJob :=
  if targetId.isSome && (getInflightForTarget kind targetId jobs).isSome then none
  else some { id, kind, targetId, createdAt := now }

/-- The job that a request gets, and the rows; none for an id that is taken. -/
def enqueue (id : Id) (kind : MaintenanceJobKind) (targetId : Option Id) (now : Time)
    (jobs : List MaintenanceJob) : Option (MaintenanceJob × List MaintenanceJob) :=
  if (getById id jobs).isSome then none
  else
    match insert id kind targetId now jobs with
    | some job => some (job, jobs ++ [job])
    | none => (getInflightForTarget kind targetId jobs).map (·, jobs)

/-- `UPDATE … WHERE …` -/
def update (matching : MaintenanceJob → Bool) (set : MaintenanceJob → MaintenanceJob)
    (jobs : List MaintenanceJob) : List MaintenanceJob :=
  jobs.map fun job => if matching job then set job else job

/-- The oldest queued row that no other transaction has locked. -/
def claimNext (locked : List Id) (jobs : List MaintenanceJob) : Option Id :=
  letI : Preorder Time := Int.instLinearOrder.toPreorder
  ((jobs.filter fun job => decide (job.status = .queued ∧ job.id ∉ locked)).argmin (·.createdAt)).map (·.id)

def markRunning (id : Id) (now : Time) : List MaintenanceJob → List MaintenanceJob :=
  update (fun job => decide (job.id = id)) fun job => { job with status := .running, startedAt := some now }

def markDone (id : Id) (now : Time) : List MaintenanceJob → List MaintenanceJob :=
  update (fun job => decide (job.id = id)) fun job => { job with status := .done, completedAt := some now }

def markFailed (id : Id) (error : Text) (now : Time) : List MaintenanceJob → List MaintenanceJob :=
  update (fun job => decide (job.id = id)) fun job =>
    { job with status := .failed, error := some (error.take 2000), completedAt := some now }

def markInterruptedOnRestart (now : Time) : List MaintenanceJob → List MaintenanceJob :=
  update (fun job => decide (job.status = .running)) fun job =>
    { job with
      status := .failed
      error := some (text "Interrupted by process restart")
      completedAt := some now }

/-- The job claimed, and the rows; a claim whose job does not decrypt rolls back. -/
def claimOne (locked : List Id) (decrypts : MaintenanceJob → Bool) (now : Time) (jobs : List MaintenanceJob) :
    Option MaintenanceJob × List MaintenanceJob :=
  match claimNext locked jobs with
  | none => (none, jobs)
  | some id =>
    match getById id (markRunning id now jobs) with
    | some job => if decrypts job then (some job, markRunning id now jobs) else (none, jobs)
    | none => (none, markRunning id now jobs)

/-- The outcome of a handler: it returned, or raised an error. The text that is stored
of an error is `readable_error`'s. -/
def finalize (readableError : Text → Text) (id : Id) (error : Option Text) (now : Time) :
    List MaintenanceJob → List MaintenanceJob :=
  match error with
  | none => markDone id now
  | some error =>
    let summary := readableError (errorOr (some error))
    markFailed id (if summary.isEmpty then text "Job failed" else summary) now

end MaintenanceJobs

/-! ## The processes -/

/-- The worker of a process. -/
inductive MaintenanceWorker where
  | stopped
  | idle
  | handling (job : MaintenanceJob)
  /-- The handler has returned, or raised, and its outcome is not recorded yet. -/
  | handled (job : MaintenanceJob) (error : Option Text)

namespace MaintenanceWorker

def job : MaintenanceWorker → Option MaintenanceJob
  | .handling job | .handled job _ => some job
  | _ => none

/-- It is at a job: the handler runs, or has returned. -/
def busy : MaintenanceWorker → Bool
  | .handling _ | .handled _ none => true
  | _ => false

def isStopped : MaintenanceWorker → Bool
  | .stopped => true
  | _ => false

end MaintenanceWorker

/-- The jobs, and the worker of each of `n` processes. -/
structure MaintenanceServer (n : Nat) where
  jobs : List MaintenanceJob
  workers : Fin n → MaintenanceWorker := fun _ => .stopped

inductive MaintenanceStep (n : Nat) where
  | enqueue (id : Id) (kind : MaintenanceJobKind) (targetId : Option Id) (now : Time)
  | start (process : Fin n) (now : Time)
  | claim (process : Fin n) (locked : List Id) (decrypts : MaintenanceJob → Bool) (now : Time)
  | finish (process : Fin n) (error : Option Text)
  | finalize (process : Fin n) (now : Time)
  /-- Recording an outcome fails, and the loop goes on. -/
  | loseOutcome (process : Fin n)
  /-- The worker is cancelled, or its process killed. -/
  | stop (process : Fin n)

namespace MaintenanceServer

variable {n : Nat}

def setWorker (process : Fin n) (worker : MaintenanceWorker) (server : MaintenanceServer n) :
    MaintenanceServer n :=
  { server with workers := Function.update server.workers process worker }

@[simp] theorem workers_setWorker_self (process : Fin n) (worker : MaintenanceWorker)
    (server : MaintenanceServer n) : (server.setWorker process worker).workers process = worker :=
  Function.update_self ..

theorem workers_setWorker_of_ne {process other : Fin n} (apart : other ≠ process) (worker : MaintenanceWorker)
    (server : MaintenanceServer n) : (server.setWorker process worker).workers other = server.workers other :=
  Function.update_of_ne apart ..

def step (readableError : Text → Text) :
    MaintenanceStep n → MaintenanceServer n → Option (MaintenanceServer n)
  | .enqueue id kind targetId now, server =>
    (MaintenanceJobs.enqueue id kind targetId now server.jobs).map fun result => { server with jobs := result.2 }
  | .start process now, server =>
    if (server.workers process).isStopped then
      some { server.setWorker process .idle with jobs := MaintenanceJobs.markInterruptedOnRestart now server.jobs }
    else some server
  | .claim process locked decrypts now, server =>
    match server.workers process with
    | .idle =>
      match MaintenanceJobs.claimOne locked decrypts now server.jobs with
      | (some job, jobs) => some { server.setWorker process (.handling job) with jobs }
      | (none, jobs) => some { server with jobs }
    | _ => none
  | .finish process error, server =>
    match server.workers process with
    | .handling job => some (server.setWorker process (.handled job error))
    | _ => none
  | .finalize process now, server =>
    match server.workers process with
    | .handled job error =>
      some
        { server.setWorker process .idle with
          jobs := MaintenanceJobs.finalize readableError job.id error now server.jobs }
    | _ => none
  | .loseOutcome process, server =>
    match server.workers process with
    | .handled _ _ => some (server.setWorker process .idle)
    | _ => none
  | .stop process, server => some (server.setWorker process .stopped)

/-- A worker starts while no other one is at a job. -/
def startsAlone (server : MaintenanceServer n) : MaintenanceStep n → Bool
  | .start process _ =>
    !(server.workers process).isStopped || decide (∀ other, (server.workers other).busy = false)
  | _ => true

/-- **Exclusion.** No two handlers run for one target. -/
def Exclusive (server : MaintenanceServer n) : Prop :=
  ∀ process other job otherJob, server.workers process = .handling job →
    server.workers other = .handling otherJob → job.SameTarget otherJob → process = other

def status (id : Id) (server : MaintenanceServer n) : Option MaintenanceJobStatus :=
  (MaintenanceJobs.getById id server.jobs).map (·.status)

/-- A job that is done or failed stays so. -/
def FinalStays (before after : MaintenanceServer n) : Prop :=
  ∀ id status, before.status id = some status → status.inflight = false → after.status id = some status

/-- No worker is started, and the rows keep the primary key and the index. -/
structure Fresh (server : MaintenanceServer n) : Prop where
  ids : (server.jobs.map (·.id)).Nodup
  inflight : ∀ job ∈ server.jobs, ∀ other ∈ server.jobs, job.status.inflight = true →
    other.status.inflight = true → job.SameTarget other → job.id = other.id
  stopped : ∀ process, server.workers process = .stopped

end MaintenanceServer

/-! ## The rows -/

namespace MaintenanceJobs

variable {matching : MaintenanceJob → Bool} {set : MaintenanceJob → MaintenanceJob}
  {jobs : List MaintenanceJob} {job : MaintenanceJob} {id : Id} {now : Time}

theorem id_of_getById (found : getById id jobs = some job) : job ∈ jobs ∧ job.id = id :=
  ⟨List.mem_of_find?_eq_some found, by simpa using List.find?_some found⟩

theorem getById_update (keeps : ∀ job, (set job).id = job.id) :
    getById id (update matching set jobs) =
      (getById id jobs).map fun job => if matching job then set job else job := by
  rw [getById, update, List.find?_map, getById]
  refine congrArg _ (congrArg (fun p => jobs.find? p) (funext fun job => ?_))
  by_cases matched : matching job = true <;> simp [matched, keeps]

/-- What an update does to the rows as a whole: their ids and targets stay, and none
comes into flight. -/
structure Settles (matching : MaintenanceJob → Bool) (set : MaintenanceJob → MaintenanceJob)
    (jobs : List MaintenanceJob) : Prop where
  id : ∀ job, (set job).id = job.id
  kind : ∀ job, (set job).kind = job.kind
  targetId : ∀ job, (set job).targetId = job.targetId
  inflight : ∀ job ∈ jobs, matching job = true → (set job).status.inflight = true → job.status.inflight = true

theorem Settles.ids (settles : Settles matching set jobs) :
    (update matching set jobs).map (·.id) = jobs.map (·.id) := by
  rw [update, List.map_map]
  refine List.map_congr_left fun job _ => ?_
  by_cases matched : matching job = true <;> simp [matched, settles.id]

/-- The row an updated one was. -/
theorem Settles.was (settles : Settles matching set jobs) {after : MaintenanceJob}
    (mem : after ∈ update matching set jobs) : ∃ job ∈ jobs, after.id = job.id ∧ after.kind = job.kind ∧
      after.targetId = job.targetId ∧ (after.status.inflight = true → job.status.inflight = true) := by
  obtain ⟨job, isJob, rfl⟩ := List.mem_map.mp mem
  refine ⟨job, isJob, ?_⟩
  by_cases matched : matching job = true
  · simpa [matched, settles.id, settles.kind, settles.targetId] using settles.inflight job isJob matched
  · simp [matched]

theorem mem_update (mem : job ∈ jobs) : (if matching job then set job else job) ∈ update matching set jobs :=
  List.mem_map_of_mem mem

/-- An update of one row that keeps it in flight, or takes it out. -/
theorem settles_id {id : Id} {set : MaintenanceJob → MaintenanceJob} (keepsId : ∀ job, (set job).id = job.id)
    (keepsKind : ∀ job, (set job).kind = job.kind) (keepsTarget : ∀ job, (set job).targetId = job.targetId)
    (inflight : ∀ job ∈ jobs, job.id = id → (set job).status.inflight = true → job.status.inflight = true) :
    Settles (fun job => decide (job.id = id)) set jobs where
  id := keepsId
  kind := keepsKind
  targetId := keepsTarget
  inflight job mem matched := inflight job mem (of_decide_eq_true matched)

/-- A claim finds a queued row. -/
theorem claimNext_queued {locked : List Id} (ids : (jobs.map (·.id)).Nodup)
    (claimed : claimNext locked jobs = some id) :
    (∃ job ∈ jobs, job.id = id) ∧ ∀ job ∈ jobs, job.id = id → job.status = .queued := by
  obtain ⟨job, isOldest, rfl⟩ := Option.map_eq_some_iff.mp claimed
  obtain ⟨isJob, isQueued⟩ := List.mem_filter.mp (List.argmin_mem isOldest)
  refine ⟨⟨job, isJob, rfl⟩, fun other isOther same => ?_⟩
  rw [List.inj_on_of_nodup_map ids isOther isJob same]
  exact (of_decide_eq_true isQueued).1

end MaintenanceJobs

namespace MaintenanceServer

/-! ## What holds at all times -/

variable {n : Nat} {server next last : MaintenanceServer n} {readableError : Text → Text}

/-- The row of a worker's job: running, unless it was failed after the handler had raised. -/
structure Backs (worker : MaintenanceWorker) (job row : MaintenanceJob) : Prop where
  id : row.id = job.id
  kind : row.kind = job.kind
  targetId : row.targetId = job.targetId
  status : row.status = .running ∨ row.status = .failed ∧ worker.busy = false

structure Guarded (server : MaintenanceServer n) : Prop where
  ids : (server.jobs.map (·.id)).Nodup
  inflight : ∀ job ∈ server.jobs, ∀ other ∈ server.jobs, job.status.inflight = true →
    other.status.inflight = true → job.SameTarget other → job.id = other.id
  backed : ∀ process job, (server.workers process).job = some job →
    ∃ row ∈ server.jobs, Backs (server.workers process) job row
  apart : ∀ process other job otherJob, (server.workers process).job = some job →
    (server.workers other).job = some otherJob → job.id = otherJob.id → process = other

theorem Fresh.guarded (fresh : server.Fresh) : server.Guarded where
  ids := fresh.ids
  inflight := fresh.inflight
  backed process job isJob := by
    rw [fresh.stopped process] at isJob
    cases isJob
  apart process other job otherJob isJob := by
    rw [fresh.stopped process] at isJob
    cases isJob

/-- Running handlers have rows in flight, and a target has one of those. -/
theorem Guarded.exclusive (guarded : server.Guarded) : server.Exclusive := by
  intro process other job otherJob handles otherHandles same
  have isJob : (server.workers process).job = some job := by rw [handles]; rfl
  have isOther : (server.workers other).job = some otherJob := by rw [otherHandles]; rfl
  obtain ⟨row, isRow, backs⟩ := guarded.backed process job isJob
  obtain ⟨otherRow, isOtherRow, otherBacks⟩ := guarded.backed other otherJob isOther
  have running : row.status = .running := by
    obtain running | ⟨-, idle⟩ := backs.status
    · exact running
    · rw [handles] at idle
      cases idle
  have otherRunning : otherRow.status = .running := by
    obtain running | ⟨-, idle⟩ := otherBacks.status
    · exact running
    · rw [otherHandles] at idle
      cases idle
  have sameTarget : row.SameTarget otherRow := by
    obtain ⟨sameKind, sameId, some⟩ := same
    exact ⟨by rw [backs.kind, otherBacks.kind, sameKind], by rw [backs.targetId, otherBacks.targetId, sameId],
      by rw [backs.targetId]; exact some⟩
  have sameId := guarded.inflight row isRow otherRow isOtherRow (by rw [running]; rfl) (by rw [otherRunning]; rfl)
    sameTarget
  exact guarded.apart process other job otherJob isJob isOther (backs.id ▸ otherBacks.id ▸ sameId)

/-! ## One step -/

/-- A worker moves on with the rows as they are: it keeps its job, or leaves it. -/
theorem Guarded.setWorker (guarded : server.Guarded) {process : Fin n} {worker : MaintenanceWorker}
    (keeps : ∀ job, worker.job = some job → (server.workers process).job = some job)
    (busy : worker.busy = true → (server.workers process).busy = true) :
    (server.setWorker process worker).Guarded := by
  have was (p : Fin n) (job : MaintenanceJob)
      (isJob : ((server.setWorker process worker).workers p).job = some job) :
      (server.workers p).job = some job := by
    by_cases same : p = process
    · subst same
      rw [workers_setWorker_self] at isJob
      exact keeps job isJob
    · rwa [workers_setWorker_of_ne same] at isJob
  refine ⟨guarded.ids, guarded.inflight, fun p job isJob => ?_, fun p q job other isJob isOther =>
    guarded.apart p q job other (was p job isJob) (was q other isOther)⟩
  obtain ⟨row, isRow, sameId, sameKind, sameTarget, status⟩ := guarded.backed p job (was p job isJob)
  refine ⟨row, isRow, sameId, sameKind, sameTarget, status.imp_right fun ⟨failed, idle⟩ => ⟨failed, ?_⟩⟩
  by_cases same : p = process
  · subst same
    rw [workers_setWorker_self, Bool.eq_false_iff]
    intro isBusy
    rw [busy isBusy] at idle
    cases idle
  · rwa [workers_setWorker_of_ne same]

/-- An update of the rows. -/
theorem Guarded.update (guarded : server.Guarded) {matching : MaintenanceJob → Bool}
    {set : MaintenanceJob → MaintenanceJob} (settles : MaintenanceJobs.Settles matching set server.jobs)
    (backed : ∀ process job row, (server.workers process).job = some job → row ∈ server.jobs →
      Backs (server.workers process) job row → matching row = true → Backs (server.workers process) job (set row)) :
    Guarded { server with jobs := MaintenanceJobs.update matching set server.jobs } := by
  refine ⟨?_, fun job isJob other isOther inflight otherInflight same => ?_, fun process job isJob => ?_,
    guarded.apart⟩
  · rw [settles.ids]
    exact guarded.ids
  · obtain ⟨was, isWas, sameId, sameKind, sameTarget, wasInflight⟩ := settles.was isJob
    obtain ⟨otherWas, isOtherWas, otherId, otherKind, otherTarget, otherWasInflight⟩ := settles.was isOther
    rw [sameId, otherId]
    refine guarded.inflight was isWas otherWas isOtherWas (wasInflight inflight) (otherWasInflight otherInflight) ?_
    rw [MaintenanceJob.SameTarget, sameKind, sameTarget, otherKind, otherTarget] at same
    exact same
  · obtain ⟨row, isRow, backs⟩ := guarded.backed process job isJob
    refine ⟨_, MaintenanceJobs.mem_update isRow, ?_⟩
    by_cases matched : matching row = true
    · rw [if_pos matched]
      exact backed process job row isJob isRow backs matched
    · rw [if_neg matched]
      exact backs

theorem status_update {matching : MaintenanceJob → Bool} {set : MaintenanceJob → MaintenanceJob}
    (keeps : ∀ job, (set job).id = job.id)
    (unfinished : ∀ job ∈ server.jobs, matching job = true → job.status.inflight = false → (set job).status = job.status)
    (workers : Fin n → MaintenanceWorker) :
    server.FinalStays ⟨MaintenanceJobs.update matching set server.jobs, workers⟩ := by
  intro id status isStatus final
  obtain ⟨job, found, rfl⟩ := Option.map_eq_some_iff.mp isStatus
  rw [MaintenanceServer.status, MaintenanceJobs.getById_update keeps, found, Option.map_some, Option.map_some]
  by_cases matched : matching job = true
  · rw [if_pos matched, unfinished job (MaintenanceJobs.id_of_getById found).1 matched final]
  · rw [if_neg matched]

theorem FinalStays.refl (workers : Fin n → MaintenanceWorker) :
    server.FinalStays { server with workers } := fun _ _ isStatus _ => isStatus

theorem FinalStays.trans (first : server.FinalStays next) (second : next.FinalStays last) :
    server.FinalStays last := fun id status isStatus final =>
  second id status (first id status isStatus final) final

/-- A worker takes a running row that is no worker's job. -/
theorem Guarded.handle (guarded : server.Guarded) {process : Fin n} {row : MaintenanceJob}
    (isRow : row ∈ server.jobs) (running : row.status = .running)
    (free : ∀ other job, (server.workers other).job = some job → job.id ≠ row.id) :
    (server.setWorker process (.handling row)).Guarded := by
  have was (p : Fin n) (job : MaintenanceJob)
      (isJob : ((server.setWorker process (.handling row)).workers p).job = some job) :
      p = process ∧ job = row ∨ p ≠ process ∧ (server.workers p).job = some job := by
    by_cases same : p = process
    · subst same
      rw [workers_setWorker_self] at isJob
      cases isJob
      exact .inl ⟨rfl, rfl⟩
    · rw [workers_setWorker_of_ne same] at isJob
      exact .inr ⟨same, isJob⟩
  refine ⟨guarded.ids, guarded.inflight, fun p job isJob => ?_, fun p q job other isJob isOther sameId => ?_⟩
  · obtain ⟨rfl, rfl⟩ | ⟨apart, isJob⟩ := was p job isJob
    · exact ⟨job, isRow, rfl, rfl, rfl, .inl running⟩
    · rw [workers_setWorker_of_ne apart]
      exact guarded.backed p job isJob
  · obtain ⟨rfl, rfl⟩ | ⟨-, hadJob⟩ := was p job isJob
    · obtain ⟨rfl, -⟩ | ⟨-, hadOther⟩ := was q other isOther
      · rfl
      · exact absurd sameId.symm (free q other hadOther)
    · obtain ⟨rfl, rfl⟩ | ⟨-, hadOther⟩ := was q other isOther
      · exact absurd sameId (free p job hadJob)
      · exact guarded.apart p q job other hadJob hadOther sameId

theorem Guarded.enqueue (guarded : server.Guarded) {id : Id} {kind : MaintenanceJobKind} {targetId : Option Id}
    {now : Time} {result : MaintenanceJob × List MaintenanceJob}
    (enqueued : MaintenanceJobs.enqueue id kind targetId now server.jobs = some result) :
    Guarded { server with jobs := result.2 } ∧ server.FinalStays { server with jobs := result.2 } := by
  rw [MaintenanceJobs.enqueue] at enqueued
  split_ifs at enqueued with taken
  cases inserted : MaintenanceJobs.insert id kind targetId now server.jobs with
  | none =>
    rw [inserted] at enqueued
    obtain ⟨job, -, rfl⟩ := Option.map_eq_some_iff.mp enqueued
    exact ⟨guarded, FinalStays.refl _⟩
  | some job =>
    rw [inserted] at enqueued
    cases enqueued
    rw [MaintenanceJobs.insert] at inserted
    split_ifs at inserted with conflict
    cases inserted
    have fresh : ∀ job ∈ server.jobs, job.id ≠ id := by
      simpa [MaintenanceJobs.getById] using taken
    have alone : ∀ job ∈ server.jobs, job.status.inflight = true → job.kind = kind → job.targetId = targetId →
        targetId = none := by
      intro job isJob inflight sameKind sameTarget
      by_contra target
      refine conflict (Bool.and_eq_true_iff.mpr ⟨Option.isSome_iff_ne_none.mpr target, ?_⟩)
      rw [MaintenanceJobs.getInflightForTarget, List.find?_isSome]
      exact ⟨job, isJob, by simp [inflight, sameKind, sameTarget]⟩
    refine ⟨⟨?_, fun job isJob other isOther inflight otherInflight same => ?_, fun process job isJob => ?_,
      guarded.apart⟩, fun searched status isStatus _ => ?_⟩
    · rw [List.map_append, List.nodup_append']
      refine ⟨guarded.ids, List.nodup_singleton _, fun taken isTaken isNew => ?_⟩
      obtain ⟨job, isJob, rfl⟩ := List.mem_map.mp isTaken
      exact fresh job isJob (List.mem_singleton.mp isNew)
    · obtain ⟨sameKind, sameTarget, isTarget⟩ := same
      rcases List.mem_append.mp isJob with old | isNew <;> rcases List.mem_append.mp isOther with otherOld | otherNew
      · exact guarded.inflight job old other otherOld inflight otherInflight ⟨sameKind, sameTarget, isTarget⟩
      · obtain rfl := List.mem_singleton.mp otherNew
        exact absurd (sameTarget.trans (alone job old inflight sameKind sameTarget)) isTarget
      · obtain rfl := List.mem_singleton.mp isNew
        exact absurd (alone other otherOld otherInflight sameKind.symm sameTarget.symm) isTarget
      · rw [List.mem_singleton.mp isNew, List.mem_singleton.mp otherNew]
    · obtain ⟨row, isRow, backs⟩ := guarded.backed process job isJob
      exact ⟨row, List.mem_append_left _ isRow, backs⟩
    · obtain ⟨job, found, rfl⟩ := Option.map_eq_some_iff.mp isStatus
      rw [MaintenanceJobs.getById] at found
      rw [MaintenanceServer.status, MaintenanceJobs.getById, List.find?_append, found]
      rfl

/-- The sweep of a worker that starts while no other one is at a job. -/
theorem Guarded.start (guarded : server.Guarded) (alone : ∀ process, (server.workers process).busy = false)
    (process : Fin n) (now : Time) : Guarded
      { server.setWorker process .idle with jobs := MaintenanceJobs.markInterruptedOnRestart now server.jobs } ∧
      server.FinalStays
        { server.setWorker process .idle with jobs := MaintenanceJobs.markInterruptedOnRestart now server.jobs } := by
  have swept : Guarded { server with jobs := MaintenanceJobs.markInterruptedOnRestart now server.jobs } := by
    refine guarded.update ⟨fun _ => rfl, fun _ => rfl, fun _ => rfl, fun _ _ _ inflight => ?_⟩
      fun process job row isJob isRow backs _ => ⟨backs.id, backs.kind, backs.targetId, .inr ⟨rfl, alone process⟩⟩
    cases inflight
  refine ⟨swept.setWorker (fun job isJob => ?_) fun busy => ?_, status_update ?_ ?_ _⟩
  · cases isJob
  · cases busy
  · exact fun _ => rfl
  · intro job _ running final
    rw [of_decide_eq_true running] at final
    cases final

theorem Guarded.claim (guarded : server.Guarded) (process : Fin n) (locked : List Id)
    (decrypts : MaintenanceJob → Bool) (now : Time) {claimed : Option MaintenanceJob} {jobs : List MaintenanceJob}
    (isClaim : MaintenanceJobs.claimOne locked decrypts now server.jobs = (claimed, jobs)) :
    server.FinalStays { server with jobs } ∧ Guarded { server with jobs } ∧
      ∀ job ∈ claimed, Guarded { server.setWorker process (.handling job) with jobs } := by
  rw [MaintenanceJobs.claimOne] at isClaim
  cases isNext : MaintenanceJobs.claimNext locked server.jobs with
  | none =>
    rw [isNext] at isClaim
    cases isClaim
    exact ⟨FinalStays.refl _, guarded, fun job isJob => nomatch isJob⟩
  | some id =>
    obtain ⟨-, queued⟩ := MaintenanceJobs.claimNext_queued guarded.ids isNext
    rw [isNext] at isClaim
    have unheld : ∀ other job, (server.workers other).job = some job → job.id ≠ id := by
      rintro other job isJob rfl
      obtain ⟨row, isRow, backs⟩ := guarded.backed other job isJob
      have status := backs.status
      rw [queued row isRow backs.id] at status
      simp at status
    have stays : server.FinalStays { server with jobs := MaintenanceJobs.markRunning id now server.jobs } := by
      refine status_update ?_ ?_ _
      · exact fun _ => rfl
      · intro job isJob matched final
        rw [queued job isJob (of_decide_eq_true matched)] at final
        cases final
    have marked : Guarded { server with jobs := MaintenanceJobs.markRunning id now server.jobs } := by
      refine guarded.update (MaintenanceJobs.settles_id (fun _ => rfl) (fun _ => rfl) (fun _ => rfl) ?_) ?_
      · intro job isJob same _
        rw [queued job isJob same]
        rfl
      · intro other job row isJob _ backs matched
        exact absurd (backs.id ▸ of_decide_eq_true matched) (unheld other job isJob)
    dsimp only at isClaim
    split at isClaim
    · rename_i job found
      obtain ⟨isJob, rfl⟩ := MaintenanceJobs.id_of_getById found
      split_ifs at isClaim
      · cases isClaim
        refine ⟨stays, marked, fun other isOther => ?_⟩
        cases isOther
        refine marked.handle isJob ?_ unheld
        obtain ⟨was, -, isWas⟩ := List.mem_map.mp isJob
        rw [← isWas]
        split_ifs with same
        · rfl
        · exact absurd (decide_eq_true (by rw [← isWas, if_neg same])) same
      · cases isClaim
        exact ⟨FinalStays.refl _, guarded, fun job isJob => nomatch isJob⟩
    · cases isClaim
      exact ⟨stays, marked, fun job isJob => nomatch isJob⟩

/-- The outcome of a worker's job is recorded. -/
theorem Guarded.finalize (guarded : server.Guarded) {process : Fin n} {job : MaintenanceJob}
    {error : Option Text} (isHandled : server.workers process = .handled job error)
    (readableError : Text → Text) (now : Time) :
    Guarded
      { server.setWorker process .idle with
        jobs := MaintenanceJobs.finalize readableError job.id error now server.jobs } ∧
      server.FinalStays
        { server.setWorker process .idle with
          jobs := MaintenanceJobs.finalize readableError job.id error now server.jobs } := by
  have isJob : (server.workers process).job = some job := by rw [isHandled]; rfl
  obtain ⟨row, isRow, backs⟩ := guarded.backed process job isJob
  have idle : (server.setWorker process .idle).Guarded :=
    guarded.setWorker (fun _ isJob => nomatch isJob) fun busy => nomatch busy
  have unheld : ∀ other held, ((server.setWorker process .idle).workers other).job = some held → held.id ≠ job.id := by
    intro other held isHeld same
    by_cases isProcess : other = process
    · subst isProcess
      rw [workers_setWorker_self] at isHeld
      cases isHeld
    · rw [workers_setWorker_of_ne isProcess] at isHeld
      exact isProcess (guarded.apart other process held job isHeld isJob same)
  have settled {set : MaintenanceJob → MaintenanceJob} (keepsId : ∀ job, (set job).id = job.id)
      (keepsKind : ∀ job, (set job).kind = job.kind) (keepsTarget : ∀ job, (set job).targetId = job.targetId)
      (final : ∀ job, (set job).status.inflight = false)
      (same : row.status = .failed → (set row).status = .failed) :
      Guarded
        { server.setWorker process .idle with
          jobs := MaintenanceJobs.update (fun job' => decide (job'.id = job.id)) set server.jobs } ∧
        server.FinalStays
          { server.setWorker process .idle with
            jobs := MaintenanceJobs.update (fun job' => decide (job'.id = job.id)) set server.jobs } := by
    refine ⟨idle.update (MaintenanceJobs.settles_id keepsId keepsKind keepsTarget ?_) ?_,
      status_update keepsId (fun other isOther matched isFinal => ?_) _⟩
    · intro other _ _ inflight
      rw [final other] at inflight
      cases inflight
    · intro other held otherRow isHeld _ otherBacks matched
      exact absurd (otherBacks.id ▸ of_decide_eq_true matched) (unheld other held isHeld)
    · have isRow : other = row := List.inj_on_of_nodup_map guarded.ids isOther isRow
        ((of_decide_eq_true matched).trans backs.id.symm)
      subst isRow
      obtain running | ⟨failed, -⟩ := backs.status
      · rw [running] at isFinal
        cases isFinal
      · rw [failed, same failed]
  cases error with
  | none =>
    refine settled (fun _ => rfl) (fun _ => rfl) (fun _ => rfl) (fun _ => rfl) fun failed => ?_
    obtain running | ⟨-, idle⟩ := backs.status
    · rw [failed] at running
      cases running
    · rw [isHandled] at idle
      cases idle
  | some error => exact settled (fun _ => rfl) (fun _ => rfl) (fun _ => rfl) (fun _ => rfl) fun _ => rfl

/-- **A step.** -/
theorem Guarded.keeps (guarded : server.Guarded) {statement : MaintenanceStep n}
    (alone : startsAlone server statement = true) (stepped : step readableError statement server = some next) :
    next.Guarded ∧ server.FinalStays next := by
  cases statement with
  | enqueue id kind targetId now =>
    obtain ⟨result, enqueued, rfl⟩ := Option.map_eq_some_iff.mp stepped
    exact guarded.enqueue enqueued
  | start process now =>
    rw [step] at stepped
    split_ifs at stepped with stopped <;> cases stepped
    · refine guarded.start ?_ process now
      simpa [startsAlone, stopped] using alone
    · exact ⟨guarded, FinalStays.refl _⟩
  | claim process locked decrypts now =>
    rw [step] at stepped
    split at stepped
    · split at stepped
      · rename_i isClaim
        obtain ⟨stays, -, handles⟩ := guarded.claim process locked decrypts now isClaim
        cases stepped
        exact ⟨handles _ rfl, stays⟩
      · rename_i isClaim
        obtain ⟨stays, unclaimed, -⟩ := guarded.claim process locked decrypts now isClaim
        cases stepped
        exact ⟨unclaimed, stays⟩
    · cases stepped
  | finish process error =>
    rw [step] at stepped
    split at stepped
    · rename_i job isHandling
      cases stepped
      refine ⟨guarded.setWorker (fun other isJob => ?_) fun _ => ?_, FinalStays.refl _⟩
      · rw [isHandling]
        exact isJob
      · rw [isHandling]
        rfl
    · cases stepped
  | finalize process now =>
    rw [step] at stepped
    split at stepped
    · rename_i job error isHandled
      cases stepped
      exact guarded.finalize isHandled readableError now
    · cases stepped
  | loseOutcome process =>
    rw [step] at stepped
    split at stepped
    · cases stepped
      exact ⟨guarded.setWorker (fun _ isJob => nomatch isJob) (fun busy => nomatch busy), FinalStays.refl _⟩
    · cases stepped
  | stop process =>
    cases stepped
    exact ⟨guarded.setWorker (fun _ isJob => nomatch isJob) (fun busy => nomatch busy), FinalStays.refl _⟩

/-- **A run.** -/
theorem Guarded.runs (guarded : server.Guarded) (run : Runs (step readableError) startsAlone server last) :
    last.Guarded ∧ server.FinalStays last := by
  have both : ∀ state statement next, startsAlone state statement = true →
      step readableError statement state = some next → state.Guarded ∧ server.FinalStays state →
      next.Guarded ∧ server.FinalStays next := by
    intro state statement next alone stepped kept
    obtain ⟨keeps, stays⟩ := kept.1.keeps alone stepped
    exact ⟨keeps, kept.2.trans stays⟩
  exact run.keeps both ⟨guarded, FinalStays.refl _⟩

/-! ## One job per target -/

/-- **Exclusion.** In every run in which workers start while no other one is at a job,
no two handlers run for one target, and a job that is done or failed stays so. -/
theorem one_job_per_target (readableError : Text → Text) {start middle : MaintenanceServer n} (fresh : start.Fresh)
    (before : Runs (step readableError) startsAlone start middle)
    (after : Runs (step readableError) startsAlone middle last) :
    last.Exclusive ∧ middle.FinalStays last := by
  obtain ⟨guarded, -⟩ := fresh.guarded.runs before
  obtain ⟨keeps, stays⟩ := guarded.runs after
  exact ⟨keeps.exclusive, stays⟩

/-- The job of a worker that another one's start fails is done all the same once the
handler has returned. -/
theorem Guarded.sweep_breaks (guarded : server.Guarded) {process other : Fin n}
    (stopped : (server.workers process).isStopped = true) (busy : (server.workers other).busy = true)
    (readableError : Text → Text) (now : Time) :
    ∃ swept last, step readableError (.start process now) server = some swept ∧
      Runs (step readableError) startsAlone swept last ∧ ¬ swept.FinalStays last := by
  have isOther : other ≠ process := by
    rintro rfl
    cases isWorker : server.workers other <;> simp [isWorker, MaintenanceWorker.busy,
      MaintenanceWorker.isStopped] at busy stopped
  obtain ⟨job, isJob⟩ : ∃ job, server.workers other = .handling job ∨ server.workers other = .handled job none := by
    cases isWorker : server.workers other with
    | handling job => exact ⟨job, .inl rfl⟩
    | handled job error =>
      cases error with
      | none => exact ⟨job, .inr rfl⟩
      | some error =>
        rw [isWorker] at busy
        cases busy
    | stopped =>
      rw [isWorker] at busy
      cases busy
    | idle =>
      rw [isWorker] at busy
      cases busy
  have hasJob : (server.workers other).job = some job := by
    obtain isWorker | isWorker := isJob <;> rw [isWorker] <;> rfl
  obtain ⟨row, isRow, backs⟩ := guarded.backed other job hasJob
  have running : row.status = .running := by
    obtain running | ⟨-, idle⟩ := backs.status
    · exact running
    · rw [busy] at idle
      cases idle
  have found : MaintenanceJobs.getById job.id server.jobs = some row := by
    obtain ⟨found, isFound⟩ : ∃ found, MaintenanceJobs.getById job.id server.jobs = some found := by
      rw [← Option.isSome_iff_exists, MaintenanceJobs.getById, List.find?_isSome]
      exact ⟨row, isRow, decide_eq_true backs.id⟩
    obtain ⟨mem, same⟩ := MaintenanceJobs.id_of_getById isFound
    rw [isFound, List.inj_on_of_nodup_map guarded.ids mem isRow (same.trans backs.id.symm)]
  let swept : MaintenanceServer n :=
    { server.setWorker process .idle with jobs := MaintenanceJobs.markInterruptedOnRestart now server.jobs }
  have isSwept : swept.status job.id = some .failed := by
    show Option.map _ (MaintenanceJobs.getById job.id (MaintenanceJobs.update _ _ server.jobs)) = _
    rw [MaintenanceJobs.getById_update, found]
    · simp [running]
    · exact fun _ => rfl
  have finalized {returned : MaintenanceServer n} (isWorker : returned.workers other = .handled job none)
      (sameJobs : returned.jobs = swept.jobs) :
      ∃ last, step readableError (.finalize other now) returned = some last ∧ ¬ swept.FinalStays last := by
    refine ⟨_, by rw [step, isWorker], fun stays => ?_⟩
    have isDone := stays job.id .failed isSwept rfl
    rw [MaintenanceServer.status] at isDone isSwept
    obtain ⟨failed, isFailed, -⟩ := Option.map_eq_some_iff.mp isSwept
    rw [MaintenanceJobs.finalize, MaintenanceJobs.markDone, sameJobs, MaintenanceJobs.getById_update, isFailed] at isDone
    · simp [(MaintenanceJobs.id_of_getById isFailed).2] at isDone
    · exact fun _ => rfl
  have worker : swept.workers other = server.workers other := workers_setWorker_of_ne isOther ..
  have started : step readableError (.start process now) server = some swept := by
    rw [step, if_pos stopped]
  obtain handling | handled := isJob
  · have returns : step readableError (.finish other none) swept = some (swept.setWorker other (.handled job none)) := by
      rw [step, worker, handling]
    obtain ⟨last, isLast, breaks⟩ := finalized (workers_setWorker_self other (.handled job none) swept) rfl
    exact ⟨swept, last, started,
      .tail (.single ⟨.finish other none, rfl, returns⟩) ⟨.finalize other now, rfl, isLast⟩, breaks⟩
  · obtain ⟨last, isLast, breaks⟩ := finalized (worker.trans handled) rfl
    exact ⟨swept, last, started, .single ⟨.finalize other now, rfl, isLast⟩, breaks⟩

/-- Two processes, and no jobs. -/
def twoProcesses : MaintenanceServer 2 := { jobs := [] }

theorem twoProcesses_fresh : twoProcesses.Fresh :=
  ⟨List.nodup_nil, fun _ isJob => (nomatch isJob), fun _ => rfl⟩

/-- The deletion of an agent is enqueued and claimed. -/
def deletion : List (MaintenanceStep 2) :=
  [.start 0 0, .enqueue 7 .agentDelete (some 5) 1, .claim 0 [] (fun _ => true) 2]

/-- Its outcome is recorded before the other process starts. -/
def recorded : List (MaintenanceStep 2) := [.finish 0 none, .finalize 0 3, .start 1 4]

theorem deletion_alone : ∃ middle last : MaintenanceServer 2,
    runAll (step id) startsAlone deletion twoProcesses = some middle ∧
      runAll (step id) startsAlone recorded middle = some last ∧ last.Exclusive ∧ middle.FinalStays last := by
  refine ⟨_, _, rfl, rfl, one_job_per_target id twoProcesses_fresh ?_ ?_⟩
  · exact @Runs.of_runAll _ _ _ _ _ _ deletion rfl
  · exact @Runs.of_runAll _ _ _ _ _ _ recorded rfl

/-- A process that is started during the deletion fails its job. -/
def rollingRestart : List (MaintenanceStep 2) :=
  deletion ++ [.start 1 3, .enqueue 8 .agentDelete (some 5) 4, .claim 1 [] (fun _ => true) 5]

/-- Then a second handler deletes the agent, and the failed job is done after all. -/
theorem two_deletions : ∃ middle last : MaintenanceServer 2,
    runAll (step id) (fun _ _ => true) rollingRestart twoProcesses = some middle ∧ ¬ middle.Exclusive ∧
      runAll (step id) (fun _ _ => true) [.finish 0 none, .finalize 0 6] middle = some last ∧
      ¬ middle.FinalStays last := by
  refine ⟨_, _, rfl, fun exclusive => ?_, rfl, fun stays => ?_⟩
  · exact absurd (exclusive 0 1 _ _ rfl rfl (by decide)) (by decide)
  · exact absurd (stays 7 .failed rfl rfl) (by decide)

end MaintenanceServer

end LuxSwirl.Server
