import Mathlib.Data.List.MinMax

/-!
# The best of those that are up

A pool's choice is the best-scored member that is up, or the best of all when none is.
Scores go by a member's key. When one key joins, leaves or changes sides and the other
members stay as they are, the choice only moves to that key or from it
(`Chosen.score_eq`).
-/

namespace LuxSwirl.Lib

variable {α K S : Type*} [LinearOrder S]

/-- The best is the choice of the pool. -/
structure Chosen (score : α → S) (up : α → Bool) (pool : List α) (best : α) : Prop where
  mem : best ∈ pool
  best_of_up : ∀ other ∈ pool, up other = true → score other ≤ score best
  best_of_all : up best = false → (∀ other ∈ pool, up other = false) ∧ ∀ other ∈ pool, score other ≤ score best

namespace Chosen

variable {score : α → S} {up up' : α → Bool} {pool pool' : List α} {best best' : α}

theorem of_argmax (isUp : (pool.filter up).argmax score = some best) : Chosen score up pool best := by
  have mem := List.argmax_mem isUp
  rw [List.mem_filter] at mem
  refine ⟨mem.1, fun other isIn otherUp => ?_, fun down => absurd mem.2 (by rw [down]; decide)⟩
  exact List.le_of_mem_argmax (List.mem_filter.mpr ⟨isIn, otherUp⟩) isUp

theorem of_argmax_all (noneUp : pool.filter up = []) (isBest : pool.argmax score = some best) :
    Chosen score up pool best := by
  have down : ∀ other ∈ pool, up other = false := fun other mem =>
    Bool.eq_false_iff.mpr (List.filter_eq_nil_iff.mp noneUp other mem)
  have isMax : ∀ other ∈ pool, score other ≤ score best := fun other mem => List.le_of_mem_argmax mem isBest
  exact ⟨List.argmax_mem isBest, fun other mem _ => isMax other mem, fun _ => ⟨down, isMax⟩⟩

/-- The members of other keys are the same, with the same keys up. -/
def SameOthers (key : α → K) (changed : K) (up up' : α → Bool) (pool pool' : List α) : Prop :=
  ∀ member ∈ pool, key member ≠ changed → ∃ same ∈ pool', key same = key member ∧ up' same = up member

/-- A choice of another key is at least as good as the other pool's. -/
theorem score_le {key : α → K} {changed : K} (sameScore : ∀ x y, key x = key y → score x = score y)
    (chosen : Chosen score up pool best) (chosen' : Chosen score up' pool' best')
    (there : SameOthers key changed up up' pool pool') (back : SameOthers key changed up' up pool' pool)
    (isOther : key best ≠ changed) (isOther' : key best' ≠ changed) : score best' ≤ score best := by
  obtain ⟨copy, isIn, sameKey, sameUp⟩ := there best chosen.mem isOther
  obtain ⟨copy', isIn', sameKey', sameUp'⟩ := back best' chosen'.mem isOther'
  rw [← sameScore _ _ sameKey']
  cases isUp : up best with
  | true =>
    -- the copy of `best` is up as well, so the other choice is
    have isUp' : up' best' = true := by
      by_contra down
      have allDown := (chosen'.best_of_all (Bool.eq_false_iff.mpr down)).1 copy isIn
      rw [sameUp, isUp] at allDown
      cases allDown
    exact chosen.best_of_up copy' isIn' (sameUp'.trans isUp')
  | false => exact (chosen.best_of_all isUp).2 copy' isIn'

/-- **Failover moves only what it must.** Choices of keys that did not change are equally
good. -/
theorem score_eq {key : α → K} {changed : K} (sameScore : ∀ x y, key x = key y → score x = score y)
    (chosen : Chosen score up pool best) (chosen' : Chosen score up' pool' best')
    (there : SameOthers key changed up up' pool pool') (back : SameOthers key changed up' up pool' pool)
    (isOther : key best ≠ changed) (isOther' : key best' ≠ changed) : score best = score best' :=
  le_antisymm (score_le sameScore chosen' chosen back there isOther' isOther)
    (score_le sameScore chosen chosen' there back isOther isOther')

end Chosen

end LuxSwirl.Lib
