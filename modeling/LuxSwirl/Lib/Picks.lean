import Mathlib.Algebra.BigOperators.Intervals
import Mathlib.Algebra.Order.BigOperators.Group.Finset
import Mathlib.Algebra.Order.Group.Defs
import Mathlib.Tactic.Abel

/-!
# Picking what comes late enough

Of a list of times, one is picked when the wait the pick before set is over, and
sets a wait of its own: `wait k` after the pick of number `k`. No list of times that
keep these waits is longer than the one picked (`Waited.length_le`), the waits bound
the picks from below (`Waited.span_le`), and where the times leave no gap they bound
them from above too (`picks_le`).
-/

namespace LuxSwirl.Lib

variable {α : Type} [AddCommGroup α] [LinearOrder α] (wait : Nat → α)

/-- The times picked from `ready` on, the first of them as number `k`. -/
def picks : Nat → α → List α → List α
  | _, _, [] => []
  | k, ready, time :: times =>
    if ready ≤ time then time :: picks (k + 1) (time + wait k) times else picks k ready times

/-- Times that keep the waits, from `ready` on. -/
inductive Waited : Nat → α → List α → Prop
  | nil {k : Nat} {ready : α} : Waited k ready []
  | cons {k : Nat} {ready time : α} {times : List α} (late : ready ≤ time)
      (rest : Waited (k + 1) (time + wait k) times) : Waited k ready (time :: times)

variable {wait} {k : Nat} {ready : α} {times chain : List α}

theorem picks_sublist : (picks wait k ready times).Sublist times := by
  induction times generalizing k ready with
  | nil => exact .slnil
  | cons time times ih =>
    unfold picks
    split
    · exact ih.cons_cons time
    · exact ih.cons time

theorem waited_picks : Waited wait k ready (picks wait k ready times) := by
  induction times generalizing k ready with
  | nil => exact .nil
  | cons time times ih =>
    unfold picks
    split
    · exact .cons ‹_› ih
    · exact ih

theorem Waited.take (apart : Waited wait k ready times) (n : Nat) :
    Waited wait k ready (times.take n) := by
  induction apart generalizing n with
  | nil => simpa using Waited.nil
  | cons late _ ih =>
    cases n with
    | zero => exact .nil
    | succ n => exact .cons late (ih n)

/-- After the first pick the others are those of the times after it. -/
theorem picks_eq_cons {first : α} {rest : List α}
    (same : picks wait k ready times = first :: rest) :
    ∃ before later, times = before ++ first :: later ∧
      rest = picks wait (k + 1) (first + wait k) later := by
  induction times with
  | nil => cases same
  | cons time times ih =>
    unfold picks at same
    split at same
    · obtain ⟨rfl, rfl⟩ := List.cons.inj same
      exact ⟨[], times, rfl, rfl⟩
    · obtain ⟨before, later, rfl, rfl⟩ := ih same
      exact ⟨time :: before, later, rfl, rfl⟩

variable [IsOrderedAddMonoid α]

/-- **The picks are the longest list that keeps the waits.** -/
theorem Waited.length_le {later : α} (apart : Waited wait k later chain) (le : ready ≤ later)
    (sub : chain.Sublist times) (sorted : times.Pairwise (· < ·)) :
    chain.length ≤ (picks wait k ready times).length := by
  induction times generalizing k ready later chain with
  | nil => simp [List.sublist_nil.mp sub]
  | cons time times ih =>
    obtain ⟨first, sorted⟩ := List.pairwise_cons.mp sorted
    unfold picks
    cases apart with
    | nil => exact Nat.zero_le _
    | @cons _ _ head tail late rest =>
      split
      · -- Whatever the chain starts with comes no sooner than the pick.
        have within : time ≤ head ∧ tail.Sublist times := by
          rcases List.sublist_cons_iff.mp sub with sub | ⟨_, same, sub⟩
          · exact ⟨(first head (sub.subset List.mem_cons_self)).le,
              (List.sublist_cons_self head tail).trans sub⟩
          · obtain ⟨rfl, rfl⟩ := List.cons.inj same
            exact ⟨le_rfl, sub⟩
        exact Nat.succ_le_succ (ih rest (by gcongr; exact within.1) within.2 sorted)
      · rename_i early
        rcases List.sublist_cons_iff.mp sub with sub | ⟨_, same, _⟩
        · exact ih (.cons late rest) le sub sorted
        · obtain ⟨rfl, rfl⟩ := List.cons.inj same
          exact absurd (le.trans late) early

/-- A time is at least the waits before it after the start. -/
theorem Waited.span_le (apart : Waited wait k ready times) {n : Nat} {time : α}
    (at_n : times[n]? = some time) : ready + ∑ j ∈ Finset.range n, wait (k + j) ≤ time := by
  induction apart generalizing n with
  | nil => simp at at_n
  | @cons k ready head times late _ ih =>
    cases n with
    | zero =>
      obtain rfl : head = time := by simpa using at_n
      simpa using late
    | succ n =>
      have rest := ih (by simpa using at_n)
      rw [Finset.sum_range_succ']
      calc ready + (∑ j ∈ Finset.range n, wait (k + (j + 1)) + wait (k + 0))
          ≤ head + (∑ j ∈ Finset.range n, wait (k + (j + 1)) + wait (k + 0)) := by gcongr
        _ = head + wait k + ∑ j ∈ Finset.range n, wait (k + 1 + j) := by
            simp only [Nat.add_zero, Nat.add_assoc, Nat.add_comm 1]
            abel
        _ ≤ time := rest

/-- Between two times lie the waits between them. -/
theorem Waited.between (apart : Waited wait k ready times) {i n : Nat} {first last : α}
    (at_i : times[i]? = some first) (at_n : times[i + n + 1]? = some last) :
    first + ∑ j ∈ Finset.range (n + 1), wait (k + i + j) ≤ last := by
  induction apart generalizing i with
  | nil => simp at at_i
  | @cons k ready head times _ rest ih =>
    cases i with
    | zero =>
      obtain rfl : head = first := by simpa using at_i
      have span := rest.span_le (n := n) (by simpa using at_n)
      rw [Finset.sum_range_succ']
      calc head + (∑ j ∈ Finset.range n, wait (k + 0 + (j + 1)) + wait (k + 0 + 0))
          = head + wait k + ∑ j ∈ Finset.range n, wait (k + 1 + j) := by
            simp only [Nat.add_zero, Nat.add_assoc, Nat.add_comm 1]
            abel
        _ ≤ last := span
    | succ i =>
      have next := ih (i := i) (by simpa using at_i) (by simpa [Nat.add_right_comm i] using at_n)
      simpa only [Nat.add_assoc, Nat.add_comm 1] using next

/-- Where the times are at most `step` apart, each pick comes within `step` of the end
of its wait. -/
theorem picks_le {step last : α} (nonneg : ∀ k, 0 ≤ wait k) (waiting : last ≤ ready)
    (dense : (last :: times).IsChain fun s t => t ≤ s + step) {n : Nat} {time : α}
    (at_n : (picks wait k ready times)[n]? = some time) :
    time ≤ ready + ∑ j ∈ Finset.range n, wait (k + j) + (n + 1) • step := by
  induction times generalizing k ready last n with
  | nil => simp [picks] at at_n
  | cons head times ih =>
    obtain ⟨near, dense⟩ := List.isChain_cons_cons.mp dense
    have near : head ≤ ready + step := near.trans (by gcongr)
    unfold picks at at_n
    split at at_n
    · cases n with
      | zero =>
        obtain rfl : head = time := by simpa using at_n
        simpa [one_nsmul] using near
      | succ n =>
        have rest := ih (le_add_of_nonneg_right (nonneg k)) dense (by simpa using at_n)
        rw [Finset.sum_range_succ']
        calc time ≤ head + wait k + ∑ j ∈ Finset.range n, wait (k + 1 + j) + (n + 1) • step := rest
          _ ≤ ready + step + wait k + ∑ j ∈ Finset.range n, wait (k + 1 + j) + (n + 1) • step := by
              gcongr
          _ = ready + (∑ j ∈ Finset.range n, wait (k + (j + 1)) + wait (k + 0)) +
                (n + 1 + 1) • step := by
              rw [succ_nsmul step (n + 1)]
              simp only [Nat.add_zero, Nat.add_right_comm k 1, Nat.add_assoc k]
              abel
    · rename_i early
      exact ih (not_le.mp early).le dense at_n

/-! ## Counting -/

/-- How many of the times lie from `start` to `stop`. -/
def countFrom (start stop : α) (times : List α) : Nat :=
  times.countP fun time => decide (start ≤ time ∧ time ≤ stop)

omit [AddCommGroup α] [IsOrderedAddMonoid α] in
theorem countFrom_le_of_lt {start stop time : α} (sorted : times.Pairwise (· < ·)) {i : Nat}
    (at_i : times[i]? = some time) (before : time < start) :
    countFrom start stop times ≤ times.length - (i + 1) := by
  induction times generalizing i with
  | nil => simp at at_i
  | cons head times ih =>
    obtain ⟨first, sorted⟩ := List.pairwise_cons.mp sorted
    have early : head < start := by
      cases i with
      | zero =>
        obtain rfl : head = time := by simpa using at_i
        exact before
      | succ i =>
        have mem : time ∈ times := List.mem_of_getElem? (i := i) (by simpa using at_i)
        exact (first time mem).trans before
    have skip : countFrom start stop (head :: times) = countFrom start stop times := by
      simp [countFrom, not_le.mpr early]
    rw [skip]
    cases i with
    | zero => exact List.countP_le_length
    | succ i =>
      have rest := ih sorted (i := i) (by simpa using at_i)
      simp only [List.length_cons]
      omega

omit [AddCommGroup α] [IsOrderedAddMonoid α] in
theorem countFrom_le_of_gt {start stop time : α} (sorted : times.Pairwise (· < ·)) {i : Nat}
    (at_i : times[i]? = some time) (after : stop < time) : countFrom start stop times ≤ i := by
  induction times generalizing i with
  | nil => simp at at_i
  | cons head times ih =>
    obtain ⟨first, sorted⟩ := List.pairwise_cons.mp sorted
    cases i with
    | zero =>
      obtain rfl : head = time := by simpa using at_i
      have none : countFrom start stop (head :: times) = 0 := by
        refine List.countP_eq_zero.mpr fun later mem => ?_
        rcases List.mem_cons.mp mem with rfl | mem
        · simp [not_le.mpr after]
        · simp [not_le.mpr (after.trans (first later mem))]
      exact none.le
    | succ i =>
      have rest := ih sorted (i := i) (by simpa using at_i)
      have one : countFrom start stop (head :: times) ≤ countFrom start stop times + 1 := by
        unfold countFrom
        rw [List.countP_cons]
        split <;> omega
      omega

omit [AddCommGroup α] [IsOrderedAddMonoid α] in
/-- All the times from the first to another. -/
theorem le_countFrom {first last : α} (sorted : (first :: times).Pairwise (· < ·)) {i : Nat}
    (at_i : (first :: times)[i]? = some last) :
    i + 1 ≤ countFrom first last (first :: times) := by
  obtain ⟨bound, rfl⟩ := List.getElem?_eq_some_iff.mp at_i
  have all : ((first :: times).take (i + 1)).countP
      (fun time => decide (first ≤ time ∧ time ≤ (first :: times)[i])) = i + 1 := by
    rw [List.countP_eq_length.mpr]
    · simp at bound ⊢
      omega
    · intro time mem
      obtain ⟨j, before, rfl⟩ := List.mem_take_iff_getElem.mp mem
      have le_first : first ≤ (first :: times)[j] := by
        rcases Nat.eq_zero_or_pos j with rfl | pos
        · exact le_rfl
        · exact (List.pairwise_iff_getElem.mp sorted 0 j (by simp) (by omega) pos).le
      have le_last : (first :: times)[j] ≤ (first :: times)[i] := by
        rcases Nat.lt_or_ge j i with lt | ge
        · exact (List.pairwise_iff_getElem.mp sorted j i (by omega) bound lt).le
        · obtain rfl : j = i := by omega
          exact le_rfl
      simp [le_first, le_last]
  rw [← all]
  exact (List.take_sublist _ _).countP_le

/-- Two times that do not both fit bound what fits. -/
theorem countFrom_le_max {start length first last : α} (sorted : times.Pairwise (· < ·))
    {i j : Nat} (at_i : times[i]? = some first) (at_j : times[j]? = some last)
    (far : first + length < last) :
    countFrom start (start + length) times ≤ max (times.length - (i + 1)) j := by
  rcases lt_or_ge first start with before | within
  · exact (countFrom_le_of_lt sorted at_i before).trans (le_max_left _ _)
  · have after : start + length < last := lt_of_le_of_lt (by gcongr) far
    exact (countFrom_le_of_gt sorted at_j after).trans (le_max_right _ _)

end LuxSwirl.Lib
