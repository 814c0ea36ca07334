import Mathlib.Algebra.Order.Group.Defs
import Mathlib.Algebra.Order.Group.Unbundled.Basic
import Mathlib.Data.List.Chain
import Mathlib.Tactic.SplitIfs

/-!
# Reminders

A notice is sent once, and then again while what it tells of goes on: an interval after
the one before at the earliest, and a limited number of times. A log has for each when it
was sent and how many reminders there were by then. What is next is told from the newest
entry alone (`next`), and a log that only grows so is `Lawful`.
-/

namespace LuxSwirl.Lib

structure Reminders (τ : Type*) where
  interval : Option τ
  limit : Option Nat

namespace Reminders

variable {τ : Type*} [AddCommGroup τ] [LinearOrder τ] [IsOrderedAddMonoid τ]

/-- The count of what is to be sent at a time, after the newest entry. -/
def next (policy : Reminders τ) (now : τ) : Option (τ × Nat) → Option Nat
  | none => some 0
  | some (time, count) =>
    match policy.interval with
    | none => none
    | some interval =>
      if now - time < interval then none
      else if policy.limit.any fun limit => decide (limit < count + 1) then none
      else some (count + 1)

/-- A log, oldest entry first: the counts go up from 0, the entries are an interval
apart, and there are no more of them than the limit allows. -/
structure Lawful (policy : Reminders τ) (log : List (τ × Nat)) : Prop where
  counts : log.map (·.2) = List.range log.length
  apart : log.IsChain fun earlier later =>
    ∃ interval, policy.interval = some interval ∧ earlier.1 + interval ≤ later.1
  limited : ∀ limit, policy.limit = some limit → log.length ≤ limit + 1

variable {policy : Reminders τ} {log : List (τ × Nat)} {now time : τ} {count : Nat}

omit [IsOrderedAddMonoid τ] in
theorem Lawful.nil : policy.Lawful [] := ⟨rfl, .nil, fun _ _ => Nat.zero_le _⟩

omit [IsOrderedAddMonoid τ] in
/-- Without an interval there is no second entry. -/
theorem Lawful.length_le_one (lawful : policy.Lawful log) (noInterval : policy.interval = none) :
    log.length ≤ 1 := by
  match log, lawful.apart with
  | [], _ => exact Nat.zero_le 1
  | [_], _ => exact Nat.le_refl 1
  | _ :: _ :: _, .cons_cons ⟨_, isInterval, _⟩ _ =>
    rw [noInterval] at isInterval
    cases isInterval

omit [IsOrderedAddMonoid τ] in
/-- The newest entry has counted the others. -/
theorem Lawful.count_getLast (lawful : policy.Lawful log) (last : log.getLast? = some (time, count)) :
    log.length = count + 1 := by
  obtain ⟨front, rfl⟩ := List.getLast?_eq_some_iff.mp last
  have counts := lawful.counts
  rw [List.map_append, List.length_append, List.map_singleton, List.length_singleton, List.range_succ] at counts
  rw [List.length_append, List.length_singleton, (List.singleton_injective (List.append_inj' counts rfl).2).symm]

/-- What is due: the interval has passed, and reminders are left. -/
theorem next_eq_some (interval : τ) (isInterval : policy.interval = some interval) (passed : time + interval ≤ now)
    (left : ∀ limit, policy.limit = some limit → count < limit) :
    policy.next now (some (time, count)) = some (count + 1) := by
  have elapsed : ¬ now - time < interval := not_lt.mpr (le_sub_iff_add_le'.mpr passed)
  have within : (policy.limit.any fun limit => decide (limit < count + 1)) = false := by
    cases isLimit : policy.limit with
    | none => rfl
    | some limit =>
      have := left limit isLimit
      exact decide_eq_false (by omega)
  rw [next]
  simp only [isInterval]
  rw [if_neg elapsed, within, if_neg Bool.false_ne_true]

/-- **One entry.** What is next, once it is sent, keeps the log lawful. -/
theorem Lawful.sent (lawful : policy.Lawful log) (isNext : policy.next now log.getLast? = some count)
    (later : now ≤ time) : policy.Lawful (log ++ [(time, count)]) := by
  cases isLast : log.getLast? with
  | none =>
    obtain rfl := List.getLast?_eq_none_iff.mp isLast
    rw [List.getLast?_nil] at isNext
    cases isNext
    exact ⟨rfl, .singleton _, fun limit _ => Nat.le_add_left 1 limit⟩
  | some last =>
    obtain ⟨before, prior⟩ := last
    have length := lawful.count_getLast isLast
    rw [isLast, next] at isNext
    split at isNext
    · cases isNext
    · rename_i interval isInterval
      split_ifs at isNext with soon past
      cases isNext
      refine ⟨?_, ?_, fun limit isLimit => ?_⟩
      · rw [List.map_append, List.length_append, lawful.counts, List.length_singleton, List.range_succ, length]
        rfl
      · refine List.isChain_append.mpr ⟨lawful.apart, .singleton _, fun last isLast' first isFirst => ?_⟩
        rw [isLast, Option.mem_some_iff] at isLast'
        cases isFirst
        subst isLast'
        exact ⟨interval, isInterval, (le_sub_iff_add_le'.mp (not_lt.mp soon)).trans later⟩
      · rw [List.length_append, List.length_singleton, length]
        rw [isLimit, Option.any_some, decide_eq_true_eq] at past
        omega

end Reminders

end LuxSwirl.Lib
