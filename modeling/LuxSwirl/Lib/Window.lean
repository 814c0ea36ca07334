import Mathlib.Algebra.Order.Group.Int
import Mathlib.Data.List.Basic

/-!
# Counting in a moving window

A log of entries, some of which count, each at a time. `Spaced` says that every
entry that counts found fewer than `limit` of them in the `length` before it;
then no window of that length holds more than `limit`. The times need not be in
the log's order.
-/

namespace LuxSwirl.Lib

variable {ε : Type} (counts : ε → Bool) (time : ε → Int)

/-- The entries that count from `since` on. -/
def countSince (since : Int) (log : List ε) : Nat :=
  log.countP fun entry => counts entry && decide (since ≤ time entry)

/-- The entries that count from `start` to `stop`. -/
def countWithin (start stop : Int) (log : List ε) : Nat :=
  log.countP fun entry => counts entry && decide (start ≤ time entry ∧ time entry ≤ stop)

theorem countSince_mono {since later : Int} (le : since ≤ later) (log : List ε) :
    countSince counts time later log ≤ countSince counts time since log := by
  refine List.countP_mono_left fun entry _ within => ?_
  simp only [Bool.and_eq_true, decide_eq_true_eq] at within ⊢
  exact ⟨within.1, le.trans within.2⟩

theorem countWithin_le_countSince {since start : Int} (le : since ≤ start) (stop : Int) (log : List ε) :
    countWithin counts time start stop log ≤ countSince counts time since log := by
  refine List.countP_mono_left fun entry _ within => ?_
  simp only [Bool.and_eq_true, decide_eq_true_eq] at within ⊢
  exact ⟨within.1, le.trans within.2.1⟩

/-- Every entry that counts found room in the window before it. -/
inductive Spaced (length : Int) (limit : Nat) : List ε → Prop
  | nil : Spaced length limit []
  | snoc {log : List ε} {entry : ε} : Spaced length limit log →
      (counts entry = true → countSince counts time (time entry - length) log < limit) →
      Spaced length limit (log ++ [entry])

/-- **No window holds more than the limit** when every entry found room in the
window before it. -/
theorem Spaced.countWithin_le {length : Int} {limit : Nat} {log : List ε}
    (spaced : Spaced counts time length limit log) (start : Int) :
    countWithin counts time start (start + length) log ≤ limit := by
  induction spaced with
  | nil => exact Nat.zero_le _
  | @snoc log entry _ room ih =>
    rw [countWithin, List.countP_append, List.countP_singleton]
    split_ifs with within
    · simp only [Bool.and_eq_true, decide_eq_true_eq] at within
      obtain ⟨isCounted, -, stop⟩ := within
      have before : time entry - length ≤ start := by omega
      have fewer := countWithin_le_countSince counts time before (start + length) log
      have room := room isCounted
      rw [countWithin] at fewer
      omega
    · exact ih

end LuxSwirl.Lib
