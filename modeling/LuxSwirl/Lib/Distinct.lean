import Mathlib.Data.List.Nodup
import Mathlib.Data.List.Perm.Subperm

/-!
# Distinct elements

`List.eraseDups` leaves each element once, so its length goes by what a list holds.
-/

namespace LuxSwirl.Lib

variable {α : Type*} [BEq α] [LawfulBEq α]

theorem nodup_eraseDups (items : List α) : items.eraseDups.Nodup := by
  induction hn : items.length using Nat.strongRecOn generalizing items with
  | ind n ih =>
    cases items with
    | nil => exact .nil
    | cons item rest =>
      rw [List.eraseDups_cons, List.nodup_cons]
      refine ⟨fun mem => ?_, ih _ ?_ _ rfl⟩
      · have others := (List.mem_filter.mp (List.mem_eraseDups.mp mem)).2
        simp at others
      · rw [← hn, List.length_cons]
        exact Nat.lt_succ_of_le (List.length_filter_le _ _)

theorem length_eraseDups_le {items others : List α} (subset : items ⊆ others) :
    items.eraseDups.length ≤ others.length := by
  refine (List.subperm_of_subset (nodup_eraseDups items) ?_).length_le
  intro item mem
  exact subset (List.mem_eraseDups.mp mem)

end LuxSwirl.Lib
