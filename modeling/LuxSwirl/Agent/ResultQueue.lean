import LuxSwirl.Agent.ResultLimits
import Mathlib.Data.Multiset.OrderedMonoid

/-!
# The results in memory

`Reporter.add_result` and `Reporter.flush` (`reporter.py`), and the change of
`max_queue_size` a heartbeat's answer makes (`heartbeat.py`). The batch's lock
makes each of them one step, whatever the tasks they are called from.

A full batch is cut by a slice that keeps its newest results. `-(1 - 1)` is 0, and
the slice from 0 is the whole batch, so a bound of 1 cuts nothing; and the counter
goes up by one however many results the slice leaves out. `accounted_iff` is the
condition on the batch and the bound under which neither happens.
-/

namespace LuxSwirl.Agent
open LuxSwirl.Py LuxSwirl.Lib

/-- `report_max_queue_size` -/
abbrev QueueSize := { size : Nat // 1 ≤ size }

/-- What `add_result` and `flush` read and write. -/
structure ResultQueue where
  currentBatch : List Dict := []
  maxQueueSize : QueueSize
  batchSize : Nat
  running : Bool := false
  flushEvent : Bool := false
  droppedResults : Nat := 0
  maxBatchSize : Nat := 0
  lastBacklog : Nat := 0

namespace ResultQueue

/-- The batch once a result may be added to it, and what the counter of dropped
results goes up by. -/
def dropOldest (queue : ResultQueue) : List Dict × Nat :=
  if queue.maxQueueSize ≤ queue.currentBatch.length then
    (sliceFrom (-((queue.maxQueueSize : Nat) - 1 : Int)) queue.currentBatch, 1)
  else (queue.currentBatch, 0)

def addResult (result : Dict) (queue : ResultQueue) : ResultQueue :=
  let currentBatchSize := queue.currentBatch.length
  let (kept, dropped) := queue.dropOldest
  let currentBatch := kept ++ [fitResult result]
  { queue with
    running := true
    currentBatch
    droppedResults := queue.droppedResults + dropped
    maxBatchSize := max queue.maxBatchSize currentBatchSize
    lastBacklog := currentBatchSize
    flushEvent := queue.flushEvent || decide (queue.batchSize ≤ currentBatch.length) }

/-- The batch taken to be sent, and what is left. -/
def flush (queue : ResultQueue) : List Dict × ResultQueue :=
  (queue.currentBatch, { queue with currentBatch := [] })

def setMaxQueueSize (size : QueueSize) (queue : ResultQueue) : ResultQueue :=
  if size = queue.maxQueueSize then queue else { queue with maxQueueSize := size }

end ResultQueue

/-! ## Runs -/

inductive QueueStep where
  | addResult (result : Dict)
  | flush
  | setMaxQueueSize (size : QueueSize)

/-- A reporter's queue with what became of the results so far: all that were added,
those added since the last flush, and those of the flushed batches. -/
structure QueueHistory where
  queue : ResultQueue
  added : List Dict := []
  sinceFlush : List Dict := []
  flushed : List Dict := []

namespace QueueHistory

def step (history : QueueHistory) : QueueStep → QueueHistory
  | .addResult result =>
    { history with
      queue := history.queue.addResult result
      added := history.added ++ [fitResult result]
      sinceFlush := history.sinceFlush ++ [fitResult result] }
  | .flush =>
    { history with
      queue := history.queue.flush.2
      sinceFlush := []
      flushed := history.flushed ++ history.queue.flush.1 }
  | .setMaxQueueSize size => { history with queue := history.queue.setMaxQueueSize size }

/-- The results that are in neither the batch nor a flushed batch. -/
def lost (history : QueueHistory) : Multiset Dict :=
  (history.added : Multiset Dict) - (history.flushed + history.queue.currentBatch : Multiset Dict)

/-- What is to hold after a result was added. -/
structure Accounted (history : QueueHistory) : Prop where
  bounded : history.queue.currentBatch.length ≤ history.queue.maxQueueSize
  newest : history.queue.currentBatch <:+ history.sinceFlush
  dropped : history.queue.droppedResults = history.lost.card

/-- The run is one whose every `add_result` has `holds` of the history before it and
the one after it. -/
def EachAdd (holds : QueueHistory → QueueHistory → Prop) : QueueHistory → List QueueStep → Prop
  | _, [] => True
  | history, step :: rest =>
    (∀ result, step = .addResult result → holds history (history.step step)) ∧
      EachAdd holds (history.step step) rest

/-- A reporter that was just made. -/
def start (maxQueueSize : QueueSize) (batchSize : Nat) : QueueHistory where
  queue := { maxQueueSize, batchSize }

end QueueHistory

/-- The batch has room, or it is just full and the slice cuts its oldest result. -/
def ResultQueue.Trims (queue : ResultQueue) : Prop :=
  queue.currentBatch.length < queue.maxQueueSize ∨
    queue.currentBatch.length = queue.maxQueueSize ∧ 2 ≤ (queue.maxQueueSize : Nat)

/-! ## The slice -/

section Slice

variable {α : Type*} (xs : List α)

theorem sliceFrom_suffix (start : Int) : sliceFrom start xs <:+ xs := by
  rw [sliceFrom]
  split_ifs
  · exact List.drop_suffix _ xs
  · exact List.drop_suffix _ xs

/-- So many of the newest, but all of them for none. -/
theorem length_sliceFrom_neg (n : Nat) :
    (sliceFrom (-(n : Int)) xs).length = if n = 0 then xs.length else min n xs.length := by
  rw [sliceFrom, Int.natAbs_neg, Int.natAbs_natCast]
  by_cases none : n = 0
  · subst none
    simp
  · rw [if_pos (by omega), if_neg none, List.length_drop]
    omega

end Slice

namespace ResultQueue

variable (queue : ResultQueue)

theorem dropOldest_suffix : queue.dropOldest.1 <:+ queue.currentBatch := by
  rw [dropOldest]
  split_ifs
  · exact sliceFrom_suffix _ _
  · exact List.suffix_refl _

/-- The batch and the counter come out right together just when the slice trims. -/
theorem trims_iff : queue.Trims ↔
    queue.dropOldest.1.length + 1 ≤ queue.maxQueueSize ∧
      queue.dropOldest.1.length + queue.dropOldest.2 = queue.currentBatch.length := by
  obtain ⟨batch, ⟨size, atLeastOne⟩, batchSize, running, event, dropped, greatest, backlog⟩ := queue
  have cast : -((size : Int) - 1) = -((size - 1 : Nat) : Int) := by omega
  simp only [Trims, dropOldest, cast]
  by_cases full : size ≤ batch.length
  · simp only [if_pos full, length_sliceFrom_neg]
    split_ifs with one
    · omega
    · omega
  · simp only [if_neg full]
    omega

end ResultQueue

/-! ## What every run keeps -/

namespace QueueHistory

variable {history : QueueHistory}

structure Consistent (history : QueueHistory) : Prop where
  newest : history.queue.currentBatch <:+ history.sinceFlush
  apart : (history.flushed + history.sinceFlush : Multiset Dict) ≤ history.added

theorem Consistent.step (consistent : history.Consistent) (step : QueueStep) : (history.step step).Consistent := by
  cases step with
  | addResult result =>
    constructor
    · show history.queue.dropOldest.1 ++ [fitResult result] <:+ history.sinceFlush ++ [fitResult result]
      obtain ⟨older, whole⟩ := history.queue.dropOldest_suffix.trans consistent.newest
      exact ⟨older, by rw [← List.append_assoc, whole]⟩
    · show (history.flushed + (history.sinceFlush ++ [fitResult result] : List Dict) : Multiset Dict) ≤
        (history.added ++ [fitResult result] : List Dict)
      rw [← Multiset.coe_add, ← Multiset.coe_add, ← add_assoc]
      exact add_le_add_left consistent.apart _
  | flush =>
    constructor
    · exact List.suffix_refl []
    · show ((history.flushed ++ history.queue.currentBatch : List Dict) + ([] : List Dict) : Multiset Dict) ≤ history.added
      rw [← Multiset.coe_add]
      show (_ + _ + 0 : Multiset Dict) ≤ _
      rw [add_zero]
      refine le_trans (add_le_add_right ?_ _) consistent.apart
      exact Multiset.coe_le.mpr consistent.newest.sublist.subperm
  | setMaxQueueSize size =>
    have same : (history.queue.setMaxQueueSize size).currentBatch = history.queue.currentBatch := by
      rw [ResultQueue.setMaxQueueSize]
      split_ifs
      · rfl
      · rfl
    constructor
    · show (history.queue.setMaxQueueSize size).currentBatch <:+ history.sinceFlush
      rw [same]
      exact consistent.newest
    · exact consistent.apart

/-- What is in neither is what is left of all that was added. -/
theorem Consistent.card_lost (consistent : history.Consistent) :
    history.lost.card + (history.flushed.length + history.queue.currentBatch.length) = history.added.length := by
  have within : (history.flushed + history.queue.currentBatch : Multiset Dict) ≤ history.added :=
    le_trans (add_le_add_right (Multiset.coe_le.mpr consistent.newest.sublist.subperm) _) consistent.apart
  have cards := Multiset.card_le_card within
  rw [lost, Multiset.card_sub within]
  simp only [Multiset.card_add, Multiset.coe_card] at cards ⊢
  omega

/-- The counter has what is in neither. -/
def Exact (history : QueueHistory) : Prop := history.queue.droppedResults = history.lost.card

theorem Exact.flush (exact : history.Exact) : (history.step .flush).Exact := by
  have same : (history.step .flush).lost = history.lost := by
    show (history.added : Multiset Dict) - ((history.flushed ++ history.queue.currentBatch : List Dict) + 0) = _
    rw [add_zero, ← Multiset.coe_add]
    rfl
  rw [Exact, same]
  exact exact

theorem Exact.setMaxQueueSize (exact : history.Exact) (size : QueueSize) :
    (history.step (.setMaxQueueSize size)).Exact := by
  rw [Exact, lost, step, ResultQueue.setMaxQueueSize]
  split_ifs
  · exact exact
  · exact exact

/-- What one `add_result` does to the account. -/
theorem card_lost_addResult (consistent : history.Consistent) (result : Dict) :
    (history.step (.addResult result)).lost.card + history.queue.dropOldest.1.length =
      history.lost.card + history.queue.currentBatch.length := by
  have before := consistent.card_lost
  have after := (consistent.step (.addResult result)).card_lost
  have batch : (history.step (.addResult result)).queue.currentBatch.length =
      history.queue.dropOldest.1.length + 1 := List.length_append
  have added : (history.step (.addResult result)).added.length = history.added.length + 1 := List.length_append
  have flushed : (history.step (.addResult result)).flushed = history.flushed := rfl
  rw [batch, added, flushed] at after
  omega

/-- **One `add_result`.** From an exact account it leaves one as it should just when the
batch has room or the slice trims it. -/
theorem accounted_addResult_iff (consistent : history.Consistent) (exact : history.Exact) (result : Dict) :
    (history.step (.addResult result)).Accounted ↔ history.queue.Trims := by
  have account := card_lost_addResult consistent result
  have size : (history.step (.addResult result)).queue.currentBatch.length =
      history.queue.dropOldest.1.length + 1 := List.length_append
  have counter : (history.step (.addResult result)).queue.droppedResults =
      history.queue.droppedResults + history.queue.dropOldest.2 := rfl
  have bound : (history.step (.addResult result)).queue.maxQueueSize = history.queue.maxQueueSize := rfl
  rw [Exact] at exact
  rw [ResultQueue.trims_iff]
  constructor
  · intro accounted
    have bounded := accounted.bounded
    have dropped := accounted.dropped
    rw [size, bound] at bounded
    omega
  · rintro ⟨bounded, dropped⟩
    refine ⟨?_, (consistent.step _).newest, ?_⟩
    · rw [size, bound]
      exact bounded
    · omega

theorem eachAdd_iff (consistent : history.Consistent) (exact : history.Exact) (steps : List QueueStep) :
    EachAdd (fun _ after => after.Accounted) history steps ↔
      EachAdd (fun before _ => before.queue.Trims) history steps := by
  induction steps generalizing history with
  | nil => exact Iff.rfl
  | cons step rest ih =>
    cases step with
    | addResult result =>
      have here := accounted_addResult_iff consistent exact result
      constructor
      · rintro ⟨each, others⟩
        have accounted := each result rfl
        refine ⟨?_, (ih (consistent.step _) accounted.dropped).mp others⟩
        intro other same
        exact here.mp accounted
      · rintro ⟨each, others⟩
        have accounted := here.mpr (each result rfl)
        refine ⟨?_, (ih (consistent.step _) accounted.dropped).mpr others⟩
        intro other same
        exact accounted
    | flush =>
      have others := ih (consistent.step .flush) exact.flush
      simp only [EachAdd, reduceCtorEq, IsEmpty.forall_iff, implies_true, true_and]
      exact others
    | setMaxQueueSize size =>
      have others := ih (consistent.step (.setMaxQueueSize size)) (exact.setMaxQueueSize size)
      simp only [EachAdd, reduceCtorEq, IsEmpty.forall_iff, implies_true, true_and]
      exact others

theorem start_consistent (size : QueueSize) (batchSize : Nat) : (start size batchSize).Consistent :=
  ⟨List.suffix_refl [], le_rfl⟩

/-- **The queue keeps its bound and its account.** In a run of `add_result`, `flush` and
changes of the bound the batch holds no more than the bound, the newest results of those
since the last flush, and the counter all that are in neither, after every `add_result`
just when each found room or a batch exactly full under a bound of two or more. -/
theorem accounted_iff (size : QueueSize) (batchSize : Nat) (steps : List QueueStep) :
    EachAdd (fun _ after => after.Accounted) (start size batchSize) steps ↔
      EachAdd (fun before _ => before.queue.Trims) (start size batchSize) steps := by
  have nothing : (start size batchSize).Exact := rfl
  exact eachAdd_iff (start_consistent size batchSize) nothing steps

/-- A bound of 1 that holds nothing back, and a bound lowered from 4 to 2 with four
results in the batch, three of which go as one. -/
theorem queue_miscounts :
    ¬ EachAdd (fun _ after => after.Accounted) (start ⟨1, by decide⟩ 500) [.addResult [], .addResult []] ∧
      ¬ EachAdd (fun _ after => after.Accounted) (start ⟨4, by decide⟩ 500)
        [.addResult [], .addResult [], .addResult [], .addResult [], .setMaxQueueSize ⟨2, by decide⟩, .addResult []] := by
  constructor
  · rintro ⟨-, each, -⟩
    have bounded := (each [] rfl).bounded
    exact absurd bounded (by decide)
  · rintro ⟨-, -, -, -, -, each, -⟩
    have dropped := (each [] rfl).dropped
    exact absurd dropped (by decide)

end QueueHistory

end LuxSwirl.Agent
