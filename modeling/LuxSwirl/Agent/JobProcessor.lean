import LuxSwirl.Lib.Interleaving
import LuxSwirl.Lib.PriorityQueue
import LuxSwirl.Py.Builtins
import LuxSwirl.Py.Value
import Mathlib.Algebra.GroupWithZero.Nat
import Mathlib.Data.List.Count
import Mathlib.Data.Prod.Lex

/-!
# The job processor

`job_processor.py`: heartbeats put jobs on a priority queue, and one worker takes them off,
runs each and submits its result. A heartbeat may put more jobs, or read the counters and
reset them, at any point of a job.

Every job that was put is queued, under way, submitted once, or was dropped by the stop, and
the counters agree with what was submitted (`jobs_accounted`). Of the jobs that wait, the
first of the highest priority is taken (`taken_in_order`).
-/

namespace LuxSwirl.Agent.JobProcessor
open LuxSwirl.Py LuxSwirl.Lib

/-- A job as a heartbeat's answer holds it; its priority is none where `int` refuses it. -/
structure JobDispatch where
  jobId : Text
  jobType : Option Text
  params : Value
  priority : Option Int
  timeoutSeconds : Nat

/-- An entry of the queue. -/
structure Queued where
  priority : Int
  sequence : Nat
  job : JobDispatch

/-- Entries are ordered by priority, the highest first, and then by arrival. -/
def Queued.key (entry : Queued) : Int ×ₗ Nat := toLex (-entry.priority, entry.sequence)

structure JobResult where
  completed : Bool
  result : Value
  error : Option Text

def JobResult.failure (error : Text) : JobResult := ⟨false, .none, some error⟩

/-- How a job ends that was started: its `execute` returns or raises, or it takes too long, or
`run` itself raises. -/
inductive Outcome where
  | executed (result : Value)
  | failed (error : Text)
  | timedOut
  | raised (error : Text)

/-- What is submitted of it. -/
def Outcome.result (job : JobDispatch) : Outcome → JobResult
  | .executed result => ⟨true, result, none⟩
  | .failed error => .failure error
  | .timedOut => .failure (text "Job timed out after " ++ strOfNat job.timeoutSeconds ++ text " seconds")
  | .raised error => .failure error

/-- A job whose `run` returned is counted before its result is submitted. -/
def Outcome.countedFirst : Outcome → Bool
  | .executed _ | .failed _ => true
  | .timedOut | .raised _ => false

/-- The handlers of the job types. -/
structure Registry where
  registered : Text → Bool
  /-- The error with which a handler refuses a job. -/
  refusal : JobDispatch → Option Text

inductive Phase where
  | idle
  /-- The server is told of the start. -/
  | notifying (job : JobDispatch)
  | running (job : JobDispatch)
  | submitting (job : JobDispatch) (result : JobResult) (counted : Bool)
  | stopped

/-- The job under way. -/
def Phase.job : Phase → List JobDispatch
  | .idle | .stopped => []
  | .notifying job | .running job | .submitting job _ _ => [job]

/-- How it was counted, if it was already. -/
def Phase.counted : Phase → Option Bool
  | .submitting _ result true => some result.completed
  | _ => none

structure Stats where
  jobsCompletedSinceLast : Nat := 0
  jobsFailedSinceLast : Nat := 0
  totalCompleted : Nat := 0
  totalFailed : Nat := 0

def Stats.count (completed : Bool) (stats : Stats) : Stats :=
  if completed then
    { stats with
      jobsCompletedSinceLast := stats.jobsCompletedSinceLast + 1
      totalCompleted := stats.totalCompleted + 1 }
  else
    { stats with
      jobsFailedSinceLast := stats.jobsFailedSinceLast + 1
      totalFailed := stats.totalFailed + 1 }

/-- What a heartbeat tells of the jobs. -/
structure Report where
  jobsPending : Nat
  jobsRunning : Nat
  jobsCompletedSinceLast : Nat
  jobsFailedSinceLast : Nat

/-- An entry that was taken, and how many jobs had been put before. -/
structure Taken where
  entry : Queued
  arrived : Nat

/-- The last five fields are a record of what came in, was taken, submitted and told, and of
the job that a stop dropped, with how it was counted. -/
structure Processor where
  queue : PriorityQueue Queued.key := .empty
  sequence : Nat := 0
  phase : Phase := .idle
  stats : Stats := {}
  accepted : List JobDispatch := []
  taken : List Taken := []
  submitted : List (JobDispatch × JobResult) := []
  reports : List Report := []
  dropped : List (JobDispatch × Option Bool) := []

inductive Event where
  | enqueueJobs (jobs : List JobDispatch)
  | getStats
  | take
  /-- The notice of the start was sent, or not. -/
  | started
  | ended (outcome : Outcome)
  | submitted
  | stop

namespace Processor

def put (job : JobDispatch) (priority : Int) (processor : Processor) : Processor :=
  { processor with
    queue := processor.queue.put ⟨priority, processor.sequence, job⟩
    sequence := processor.sequence + 1
    accepted := processor.accepted ++ [job] }

/-- A priority that `int` refuses ends the call. -/
def enqueueJobs : List JobDispatch → Processor → Processor
  | [], processor => processor
  | job :: rest, processor =>
    match job.priority with
    | some priority => enqueueJobs rest (processor.put job priority)
    | none => processor

def getStats (processor : Processor) : Processor :=
  { processor with
    stats := { processor.stats with jobsCompletedSinceLast := 0, jobsFailedSinceLast := 0 }
    reports := processor.reports ++
      [{ jobsPending := processor.queue.entries.length
         jobsRunning := processor.phase.job.length
         jobsCompletedSinceLast := processor.stats.jobsCompletedSinceLast
         jobsFailedSinceLast := processor.stats.jobsFailedSinceLast }] }

/-- `Unknown job type: …`, for a type that may be missing. -/
def unknownType (jobType : Option Text) : Text := text "Unknown job type: " ++ jobType.getD (text "None")

/-- A job of no known type, or one its handler refuses, fails without being started. -/
def startPhase (registry : Registry) (job : JobDispatch) : Phase :=
  if job.jobType.any registry.registered then
    match registry.refusal job with
    | some error => .submitting job (.failure (text "Failed to create job handler: " ++ error)) false
    | none => .notifying job
  else .submitting job (.failure (unknownType job.jobType)) false

/-- The worker takes the next entry. -/
def take (registry : Registry) (processor : Processor) : Option Processor :=
  match processor.phase with
  | .idle => processor.queue.get.map fun (entry, queue) =>
    { processor with
      queue
      phase := startPhase registry entry.job
      taken := processor.taken ++ [⟨entry, processor.sequence⟩] }
  | _ => none

def started (processor : Processor) : Option Processor :=
  match processor.phase with
  | .notifying job => some { processor with phase := .running job }
  | _ => none

def ended (outcome : Outcome) (processor : Processor) : Option Processor :=
  match processor.phase with
  | .running job =>
    let result := outcome.result job
    some { processor with
      phase := .submitting job result outcome.countedFirst
      stats := if outcome.countedFirst then processor.stats.count result.completed else processor.stats }
  | _ => none

def submit (processor : Processor) : Option Processor :=
  match processor.phase with
  | .submitting job result counted =>
    some { processor with
      phase := .idle
      stats := if counted then processor.stats else processor.stats.count result.completed
      submitted := processor.submitted ++ [(job, result)] }
  | _ => none

/-- The worker is cancelled, wherever it is. -/
def stop (processor : Processor) : Processor :=
  { processor with
    phase := .stopped
    dropped := processor.dropped ++ processor.phase.job.map (·, processor.phase.counted) }

end Processor

def step (registry : Registry) : Event → Processor → Option Processor
  | .enqueueJobs jobs, processor => some (processor.enqueueJobs jobs)
  | .getStats, processor => some processor.getStats
  | .take, processor => processor.take registry
  | .started, processor => processor.started
  | .ended outcome, processor => processor.ended outcome
  | .submitted, processor => processor.submit
  | .stop, processor => some processor.stop

/-! ## Every job -/

/-- Every job that was put is queued, under way, submitted or dropped. -/
def Processor.Accounted (processor : Processor) : Prop :=
  processor.accepted.Perm (processor.queue.entries.map (·.job) ++
    (processor.phase.job ++ (processor.submitted.map (·.1) ++ processor.dropped.map (·.1))))

/-- The counters agree with what was submitted, and with what heartbeats told and will tell. -/
structure Processor.Counted (processor : Processor) : Prop where
  totals : ∀ completed, (if completed then processor.stats.totalCompleted else processor.stats.totalFailed) =
    (processor.submitted.map (some ·.2.completed)).count (some completed) +
      [processor.phase.counted].count (some completed) + (processor.dropped.map (·.2)).count (some completed)
  completed : (processor.reports.map (·.jobsCompletedSinceLast)).sum + processor.stats.jobsCompletedSinceLast =
    processor.stats.totalCompleted
  failed : (processor.reports.map (·.jobsFailedSinceLast)).sum + processor.stats.jobsFailedSinceLast =
    processor.stats.totalFailed

section Steps

variable {registry : Registry} {processor next : Processor} {event : Event}

theorem startPhase_job (registry : Registry) (job : JobDispatch) :
    (Processor.startPhase registry job).job = [job] ∧ (Processor.startPhase registry job).counted = none := by
  unfold Processor.startPhase
  split_ifs
  · split <;> exact ⟨rfl, rfl⟩
  · exact ⟨rfl, rfl⟩

theorem Processor.Accounted.put (accounted : processor.Accounted) (job : JobDispatch) (priority : Int) :
    (processor.put job priority).Accounted := by
  unfold Accounted Processor.put
  dsimp only
  have inserted := (PriorityQueue.perm_put ⟨priority, processor.sequence, job⟩ processor.queue).map (·.job)
  refine (List.perm_append_singleton ..).trans ((accounted.cons job).trans ?_)
  exact (inserted.append_right _).symm

theorem Processor.Counted.put (counted : processor.Counted) (job : JobDispatch) (priority : Int) :
    (processor.put job priority).Counted := ⟨counted.totals, counted.completed, counted.failed⟩

/-- What every put keeps, a heartbeat's jobs keep. -/
theorem enqueueJobs_keeps {keeps : Processor → Prop} (put : ∀ processor job priority, keeps processor →
    keeps (processor.put job priority)) (jobs : List JobDispatch) (kept : keeps processor) :
    keeps (processor.enqueueJobs jobs) := by
  induction jobs generalizing processor with
  | nil => exact kept
  | cons job rest ih =>
    rw [Processor.enqueueJobs]
    cases job.priority with
    | none => exact kept
    | some priority => exact ih (put processor job priority kept)

theorem take_eq_some (taken : processor.take registry = some next) : processor.phase = .idle ∧ ∃ entry queue,
    processor.queue.get = some (entry, queue) ∧ next =
      { processor with
        queue
        phase := Processor.startPhase registry entry.job
        taken := processor.taken ++ [⟨entry, processor.sequence⟩] } := by
  unfold Processor.take at taken
  split at taken
  · rename_i idle
    obtain ⟨⟨entry, queue⟩, got, rfl⟩ := Option.map_eq_some_iff.mp taken
    exact ⟨idle, entry, queue, got, rfl⟩
  · cases taken

theorem started_eq_some (started : processor.started = some next) :
    ∃ job, processor.phase = .notifying job ∧ next = { processor with phase := .running job } := by
  unfold Processor.started at started
  split at started
  · cases started
    exact ⟨_, ‹_›, rfl⟩
  · cases started

theorem ended_eq_some {outcome : Outcome} (ended : processor.ended outcome = some next) :
    ∃ job, processor.phase = .running job ∧ next =
      { processor with
        phase := .submitting job (outcome.result job) outcome.countedFirst
        stats := if outcome.countedFirst then processor.stats.count (outcome.result job).completed
          else processor.stats } := by
  unfold Processor.ended at ended
  split at ended
  · cases ended
    exact ⟨_, ‹_›, rfl⟩
  · cases ended

theorem submit_eq_some (submitted : processor.submit = some next) :
    ∃ job result counted, processor.phase = .submitting job result counted ∧ next =
      { processor with
        phase := .idle
        stats := if counted then processor.stats else processor.stats.count result.completed
        submitted := processor.submitted ++ [(job, result)] } := by
  unfold Processor.submit at submitted
  split at submitted
  · cases submitted
    exact ⟨_, _, _, ‹_›, rfl⟩
  · cases submitted

theorem Processor.Accounted.step (accounted : processor.Accounted)
    (stepped : step registry event processor = some next) : next.Accounted := by
  cases event with
  | enqueueJobs jobs =>
    cases stepped
    exact enqueueJobs_keeps (fun _ job priority kept => kept.put job priority) jobs accounted
  | getStats =>
    cases stepped
    exact accounted
  | take =>
    obtain ⟨idle, entry, queue, got, rfl⟩ := take_eq_some stepped
    unfold Accounted at accounted ⊢
    rw [(PriorityQueue.of_get got).1, idle] at accounted
    dsimp only
    rw [(startPhase_job registry entry.job).1]
    exact accounted.trans List.perm_middle.symm
  | started =>
    obtain ⟨job, notifying, rfl⟩ := started_eq_some stepped
    unfold Accounted at accounted ⊢
    rw [notifying] at accounted
    exact accounted
  | ended outcome =>
    obtain ⟨job, running, rfl⟩ := ended_eq_some stepped
    unfold Accounted at accounted ⊢
    rw [running] at accounted
    exact accounted
  | submitted =>
    obtain ⟨job, result, first, submitting, rfl⟩ := submit_eq_some stepped
    unfold Accounted at accounted ⊢
    rw [submitting] at accounted
    refine accounted.trans (List.Perm.append_left _ ?_)
    simp only [Phase.job, List.map_append, List.map_cons, List.map_nil, List.nil_append, List.append_assoc,
      List.cons_append]
    exact List.perm_middle.symm
  | stop =>
    cases stepped
    unfold Accounted at accounted ⊢
    refine accounted.trans (List.Perm.append_left _ ?_)
    have dropped : (processor.dropped ++ processor.phase.job.map (·, processor.phase.counted)).map (·.1) =
        processor.dropped.map (·.1) ++ processor.phase.job := by
      rw [List.map_append, List.map_map]
      exact congrArg _ (List.map_id _)
    show (processor.phase.job ++ _).Perm (processor.submitted.map (·.1) ++ (processor.dropped ++ _).map (·.1))
    rw [dropped, ← List.append_assoc (processor.submitted.map _)]
    exact List.perm_append_comm

theorem Stats.count_totals (stats : Stats) (counted completed : Bool) :
    (if completed then (stats.count counted).totalCompleted else (stats.count counted).totalFailed) =
      (if completed then stats.totalCompleted else stats.totalFailed) + [some counted].count (some completed) := by
  cases counted <;> cases completed <;> rfl

/-- Counting a job keeps what was told and will be told equal to the totals. -/
theorem Stats.count_told {stats : Stats} {completed failed : Nat} (counted : Bool)
    (toldCompleted : completed + stats.jobsCompletedSinceLast = stats.totalCompleted)
    (toldFailed : failed + stats.jobsFailedSinceLast = stats.totalFailed) :
    completed + (stats.count counted).jobsCompletedSinceLast = (stats.count counted).totalCompleted ∧
      failed + (stats.count counted).jobsFailedSinceLast = (stats.count counted).totalFailed := by
  cases counted <;> simp only [Stats.count, Bool.false_eq_true, if_false, if_true] <;> omega

theorem Processor.Counted.step (counted : processor.Counted)
    (stepped : step registry event processor = some next) : next.Counted := by
  obtain ⟨totals, completed, failed⟩ := counted
  cases event with
  | enqueueJobs jobs =>
    cases stepped
    exact enqueueJobs_keeps (fun _ job priority kept => kept.put job priority) jobs ⟨totals, completed, failed⟩
  | getStats =>
    cases stepped
    refine ⟨totals, ?_, ?_⟩
    · show (List.map _ (_ ++ _)).sum + 0 = _
      rw [List.map_append, List.sum_append]
      simpa [Processor.getStats] using completed
    · show (List.map _ (_ ++ _)).sum + 0 = _
      rw [List.map_append, List.sum_append]
      simpa [Processor.getStats] using failed
  | take =>
    obtain ⟨idle, entry, queue, got, rfl⟩ := take_eq_some stepped
    refine ⟨fun done => ?_, completed, failed⟩
    have before := totals done
    rw [idle] at before
    dsimp only
    rw [(startPhase_job registry entry.job).2]
    exact before
  | started =>
    obtain ⟨job, notifying, rfl⟩ := started_eq_some stepped
    refine ⟨fun done => ?_, completed, failed⟩
    have before := totals done
    rw [notifying] at before
    exact before
  | ended outcome =>
    obtain ⟨job, running, rfl⟩ := ended_eq_some stepped
    rw [running] at totals
    cases first : outcome.countedFirst with
    | false =>
      refine ⟨totals, completed, failed⟩
    | true =>
      obtain ⟨toldCompleted, toldFailed⟩ := Stats.count_told (outcome.result job).completed completed failed
      refine ⟨fun done => ?_, toldCompleted, toldFailed⟩
      rw [if_pos rfl, Stats.count_totals, totals done]
      show _ + 0 + _ + _ = (processor.submitted.map (some ·.2.completed)).count (some done) +
        [some (outcome.result job).completed].count (some done) + (processor.dropped.map (·.2)).count (some done)
      omega
  | submitted =>
    obtain ⟨job, result, first, submitting, rfl⟩ := submit_eq_some stepped
    rw [submitting] at totals
    cases first with
    | true =>
      refine ⟨fun done => ?_, completed, failed⟩
      rw [if_pos rfl, totals done, List.map_append, List.count_append]
      show _ + [some result.completed].count (some done) + _ =
        _ + [some result.completed].count (some done) + 0 + (processor.dropped.map (·.2)).count (some done)
      omega
    | false =>
      obtain ⟨toldCompleted, toldFailed⟩ := Stats.count_told result.completed completed failed
      refine ⟨fun done => ?_, toldCompleted, toldFailed⟩
      rw [if_neg Bool.false_ne_true, Stats.count_totals, totals done, List.map_append, List.count_append]
      show _ + 0 + _ + _ =
        _ + [some result.completed].count (some done) + 0 + (processor.dropped.map (·.2)).count (some done)
      omega
  | stop =>
    cases stepped
    refine ⟨fun done => ?_, completed, failed⟩
    show _ = _ + [none].count (some done) +
      ((processor.dropped ++ processor.phase.job.map (·, processor.phase.counted)).map (·.2)).count (some done)
    have underWay : ((processor.phase.job.map (·, processor.phase.counted)).map (·.2)).count (some done) =
        [processor.phase.counted].count (some done) := by
      cases processor.phase <;> rfl
    rw [List.map_append, List.count_append, underWay]
    have before := totals done
    show (if done then processor.stats.totalCompleted else processor.stats.totalFailed) =
      (processor.submitted.map (some ·.2.completed)).count (some done) + 0 + _
    omega

end Steps

/-! ## The order -/

/-- The entry goes before the other: its priority is higher, or the same and it came first. -/
def Queued.Before (entry other : Queued) : Prop :=
  other.priority < entry.priority ∨ other.priority = entry.priority ∧ entry.sequence < other.sequence

theorem before_of_key {entry other : Queued} (le : entry.key ≤ other.key)
    (apart : entry.sequence ≠ other.sequence) : entry.Before other := by
  rw [Queued.key, Queued.key, Prod.Lex.toLex_le_toLex] at le
  unfold Queued.Before
  dsimp only at le
  omega

/-- Entries have numbers of their own, and of those that had come, the one that was taken went
before the ones that are left. -/
structure Processor.Ordered (processor : Processor) : Prop where
  below : ∀ entry ∈ processor.queue.entries, entry.sequence < processor.sequence
  distinct : (processor.queue.entries.map (·.sequence)).Nodup
  arrived : ∀ taken ∈ processor.taken, taken.arrived ≤ processor.sequence
  waiting : ∀ taken ∈ processor.taken, ∀ entry ∈ processor.queue.entries, entry.sequence < taken.arrived →
    taken.entry.Before entry
  order : processor.taken.Pairwise fun earlier later =>
    later.entry.sequence < earlier.arrived → earlier.entry.Before later.entry

section Order

variable {registry : Registry} {processor next : Processor} {event : Event}

theorem Processor.Ordered.put (ordered : processor.Ordered) (job : JobDispatch) (priority : Int) :
    (processor.put job priority).Ordered := by
  unfold Processor.put
  refine ⟨fun entry mem => ?_, ?_, fun taken mem => ?_, fun taken mem entry isIn arrived => ?_, ordered.order⟩
  · rcases PriorityQueue.mem_put.mp mem with rfl | old
    · exact Nat.lt_succ_self _
    · exact Nat.lt_succ_of_lt (ordered.below entry old)
  · have inserted := (PriorityQueue.perm_put ⟨priority, processor.sequence, job⟩ processor.queue).map (·.sequence)
    rw [inserted.nodup_iff, List.map_cons, List.nodup_cons]
    refine ⟨fun mem => ?_, ordered.distinct⟩
    obtain ⟨entry, isIn, same⟩ := List.mem_map.mp mem
    exact absurd same (Nat.ne_of_lt (ordered.below entry isIn))
  · exact Nat.le_succ_of_le (ordered.arrived taken mem)
  · rcases PriorityQueue.mem_put.mp isIn with rfl | old
    · exact absurd arrived (Nat.not_lt.mpr (ordered.arrived taken mem))
    · exact ordered.waiting taken mem entry old arrived

theorem Processor.Ordered.take (ordered : processor.Ordered) {entry : Queued} {queue : PriorityQueue Queued.key}
    (got : processor.queue.get = some (entry, queue)) (phase : Phase) :
    Processor.Ordered { processor with
      queue, phase
      taken := processor.taken ++ [⟨entry, processor.sequence⟩] } := by
  obtain ⟨entries, least⟩ := PriorityQueue.of_get got
  obtain ⟨below, distinct, arrived, waiting, order⟩ := ordered
  rw [entries] at below distinct waiting
  obtain ⟨apart, distinct⟩ := List.nodup_cons.mp distinct
  have isFirst : ∀ other ∈ queue.entries, entry.Before other := by
    intro other mem
    refine before_of_key (least other mem) fun same => ?_
    exact apart (List.mem_map.mpr ⟨other, mem, same.symm⟩)
  refine ⟨fun other mem => below other (List.mem_cons_of_mem _ mem), distinct,
    List.forall_mem_append.mpr ⟨arrived, List.forall_mem_singleton.mpr (Nat.le_refl _)⟩,
    List.forall_mem_append.mpr ⟨fun taken mem other isIn => waiting taken mem other (List.mem_cons_of_mem _ isIn),
      List.forall_mem_singleton.mpr fun other isIn _ => isFirst other isIn⟩,
    List.pairwise_append.mpr ⟨order, List.pairwise_singleton .., fun earlier mem later isLater => ?_⟩⟩
  rw [List.mem_singleton.mp isLater]
  exact waiting earlier mem entry (List.mem_cons_self ..)

theorem Processor.Ordered.step (ordered : processor.Ordered)
    (stepped : step registry event processor = some next) : next.Ordered := by
  have same {phase : Phase} {stats : Stats} {submitted : List (JobDispatch × JobResult)} {reports : List Report}
      {dropped : List (JobDispatch × Option Bool)} :
      Processor.Ordered { processor with phase, stats, submitted, reports, dropped } :=
    ⟨ordered.below, ordered.distinct, ordered.arrived, ordered.waiting, ordered.order⟩
  cases event with
  | enqueueJobs jobs =>
    cases stepped
    exact enqueueJobs_keeps (fun _ job priority kept => kept.put job priority) jobs ordered
  | getStats =>
    cases stepped
    exact same
  | take =>
    obtain ⟨-, entry, queue, got, rfl⟩ := take_eq_some stepped
    exact ordered.take got _
  | started =>
    obtain ⟨job, -, rfl⟩ := started_eq_some stepped
    exact same
  | ended outcome =>
    obtain ⟨job, -, rfl⟩ := ended_eq_some stepped
    exact same
  | submitted =>
    obtain ⟨job, result, first, -, rfl⟩ := submit_eq_some stepped
    exact same
  | stop =>
    cases stepped
    exact same

/-- **In order.** In every run, a job that had come when another was taken, and was taken later,
has a lower priority, or the same and came later. -/
theorem taken_in_order (run : Runs (step registry) (fun _ _ => true) {} processor) :
    processor.taken.Pairwise fun earlier later =>
      later.entry.sequence < earlier.arrived → earlier.entry.Before later.entry := by
  have ordered : processor.Ordered := by
    refine run.keeps (fun _ _ _ _ stepped ordered => ordered.step stepped) ⟨?_, List.nodup_nil, ?_, ?_, .nil⟩ <;>
      exact fun _ mem => by cases mem
  exact ordered.order

end Order

/-! ## Every run -/

def scans : Registry where
  registered jobType := decide (jobType = text "network_scan")
  refusal _ := none

def scan (jobId : String) (priority : Int) : JobDispatch :=
  ⟨text jobId, some (text "network_scan"), .dict [], some priority, 300⟩

/-- The second job comes while the first is under way, and a third is dropped. -/
def busyDay : List Event :=
  [.enqueueJobs [scan "one" 5], .take, .started, .enqueueJobs [scan "two" 9, scan "three" 5],
    .ended (.executed .none), .getStats, .submitted, .take, .started, .ended .timedOut, .submitted, .take, .stop]

theorem busyDay_in_order : ∃ processor, runAll (step scans) (fun _ _ => true) busyDay {} = some processor ∧
    processor.taken.Pairwise fun earlier later =>
      later.entry.sequence < earlier.arrived → earlier.entry.Before later.entry := by
  have runs : (runAll (step scans) (fun _ _ => true) busyDay {}).isSome = true := by decide +kernel
  obtain ⟨processor, ran⟩ := Option.isSome_iff_exists.mp runs
  exact ⟨processor, ran, taken_in_order (Runs.of_runAll ran)⟩

end LuxSwirl.Agent.JobProcessor
