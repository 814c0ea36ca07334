import Mathlib.Data.List.Nodup
import Mathlib.Data.List.Perm.Subperm
import Mathlib.Data.List.Range

/-!
# A name not used yet

The candidates for a name are tried in turn. As no two of them are the same, one of the
first few is not among the names used: `firstFree_not_mem`.
-/

namespace LuxSwirl.Lib

variable {α : Type*} [DecidableEq α] {candidate : Nat → α} {used : List α}

/-- The first candidate from the n-th on that is not used, within so many tries. -/
def firstFree (candidate : Nat → α) (used : List α) : Nat → Nat → Nat
  | 0, n => n
  | tries + 1, n => if candidate n ∈ used then firstFree candidate used tries (n + 1) else n

/-- The search ends at a free candidate, or every one it tried was used. -/
theorem firstFree_cases (candidate : Nat → α) (used : List α) (tries n : Nat) :
    candidate (firstFree candidate used tries n) ∉ used ∨
      firstFree candidate used tries n = n + tries ∧ ∀ m ∈ List.range' n tries, candidate m ∈ used := by
  induction tries generalizing n with
  | zero => exact .inr ⟨rfl, fun m mem => nomatch mem⟩
  | succ tries ih =>
    rw [firstFree]
    by_cases isUsed : candidate n ∈ used
    · rw [if_pos isUsed]
      rcases ih (n + 1) with free | ⟨last, all⟩
      · exact .inl free
      · refine .inr ⟨by omega, ?_⟩
        rw [List.range'_succ]
        exact List.forall_mem_cons.mpr ⟨isUsed, all⟩
    · rw [if_neg isUsed]
      exact .inl isUsed

theorem firstFree_le (candidate : Nat → α) (used : List α) (tries n : Nat) :
    firstFree candidate used tries n ≤ n + tries := by
  induction tries generalizing n with
  | zero => exact Nat.le_refl n
  | succ tries ih =>
    rw [firstFree]
    split_ifs
    · have later := ih (n + 1)
      omega
    · omega

/-- **Some candidate is free.** With no two candidates the same, as many tries as there
are used names are enough. -/
theorem firstFree_not_mem (apart : Function.Injective candidate) :
    candidate (firstFree candidate used used.length 0) ∉ used := by
  rcases firstFree_cases candidate used used.length 0 with free | ⟨last, all⟩
  · exact free
  · intro isUsed
    rw [last, Nat.zero_add] at isUsed
    have nodup : ((List.range' 0 (used.length + 1)).map candidate).Nodup :=
      List.Nodup.map apart List.nodup_range'
    have within : (List.range' 0 (used.length + 1)).map candidate ⊆ used := by
      intro name mem
      obtain ⟨m, isTried, rfl⟩ := List.mem_map.mp mem
      rw [List.range'_1_concat, List.mem_append, List.mem_singleton, Nat.zero_add] at isTried
      rcases isTried with earlier | rfl
      · exact all m earlier
      · exact isUsed
    have few := (nodup.subperm within).length_le
    rw [List.length_map, List.length_range'] at few
    exact absurd few (Nat.not_succ_le_self _)

theorem exists_free (apart : Function.Injective candidate) (used : List α) :
    ∃ n ≤ used.length, candidate n ∉ used := by
  refine ⟨firstFree candidate used used.length 0, ?_, firstFree_not_mem apart⟩
  have few := firstFree_le candidate used used.length 0
  omega

end LuxSwirl.Lib
