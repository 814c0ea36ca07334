import Mathlib.Data.List.Nodup
import Mathlib.Data.List.Perm.Basic
import Mathlib.Data.List.Range

/-!
# Items by their places

A list is given by the places of its items in another one. The items at the places
named and those at the places left out are together the items there are
(`picked_append_leftOut_perm`), as long as no place is named twice.
-/

namespace LuxSwirl.Lib

variable {α : Type*}

/-- The items at the places; a place past the end has none. -/
def picked (places : List Nat) (items : List α) : List α := places.filterMap fun place => items[place]?

/-- The items at the places that are not named. -/
def leftOut (places : List Nat) (items : List α) : List α :=
  picked ((List.range items.length).filter fun place => decide (place ∉ places)) items

theorem picked_append (left right : List Nat) (items : List α) :
    picked (left ++ right) items = picked left items ++ picked right items := List.filterMap_append

theorem picked_range (items : List α) : picked (List.range items.length) items = items := by
  have each : (List.range items.length).map (fun place => items[place]?) = items.map some := by
    apply List.ext_getElem
    · simp
    · intro place less within
      simp
  have same := congrArg (List.filterMap id) each
  rw [List.filterMap_map, List.filterMap_map] at same
  rw [picked]
  exact same.trans List.filterMap_some

theorem picked_filter_within (places : List Nat) (items : List α) :
    picked (places.filter fun place => decide (place < items.length)) items = picked places items := by
  rw [picked, List.filterMap_filter, picked]
  congr 1
  funext place
  by_cases within : place < items.length
  · simp [within]
  · rw [if_neg (by simpa using within), List.getElem?_eq_none (by omega)]

/-- **Nothing is lost and nothing doubled.** -/
theorem picked_append_leftOut_perm {places : List Nat} (nodup : places.Nodup) (items : List α) :
    (picked places items ++ leftOut places items).Perm items := by
  have apart : List.Disjoint (places.filter fun place => decide (place < items.length))
      ((List.range items.length).filter fun place => decide (place ∉ places)) := by
    intro place named left
    simp only [List.mem_filter, decide_eq_true_eq] at named left
    exact left.2 named.1
  have all : ((places.filter fun place => decide (place < items.length)) ++
      (List.range items.length).filter fun place => decide (place ∉ places)).Perm (List.range items.length) := by
    refine (List.perm_ext_iff_of_nodup ?_ List.nodup_range).mpr ?_
    · exact List.nodup_append'.mpr ⟨nodup.filter _, List.nodup_range.filter _, apart⟩
    · intro place
      simp only [List.mem_append, List.mem_filter, List.mem_range, decide_eq_true_eq]
      tauto
  have together : (picked (_ ++ _) items).Perm (picked (List.range items.length) items) :=
    all.filterMap fun place => items[place]?
  rw [picked_append, picked_filter_within, picked_range] at together
  exact together

end LuxSwirl.Lib
