import Mathlib.Data.List.Basic
import Mathlib.Order.Lattice

/-!
# The newest element of a record

`newest time items` is the element with the greatest time, and of several the
one recorded last. Where a record is only added to, and never with an element
older than those it has, the newest one is among what was added last.
-/

namespace LuxSwirl.Lib

variable {α τ : Type*} [LinearOrder τ] (time : α → τ)

/-- The newer of two elements, the second when they are of one time. -/
def newer (a b : α) : α := if time a ≤ time b then b else a

def newest : List α → Option α
  | [] => none
  | item :: rest => some (rest.foldl (newer time) item)

theorem newer_of_le {a b : α} (le : time a ≤ time b) : newer time a b = b := if_pos le

theorem foldl_newer_mem (item : α) (rest : List α) :
    rest.foldl (newer time) item ∈ item :: rest := by
  induction rest generalizing item with
  | nil => simp
  | cons next rest ih =>
    have := ih (newer time item next)
    rw [List.foldl_cons]
    rcases List.mem_cons.mp this with same | later
    · rw [same, newer]
      split_ifs <;> simp
    · exact List.mem_cons_of_mem _ (List.mem_cons_of_mem _ later)

theorem mem_of_newest {items : List α} {item : α} (found : newest time items = some item) :
    item ∈ items := by
  cases items with
  | nil => cases found
  | cons first rest =>
    cases found
    exact foldl_newer_mem time first rest

theorem newest_eq_none {items : List α} : newest time items = none ↔ items = [] := by
  cases items <;> simp [newest]

/-- Nothing in the record is newer. -/
theorem le_newest {items : List α} {item : α} (found : newest time items = some item) :
    ∀ other ∈ items, time other ≤ time item := by
  have le_foldl (first : α) (rest : List α) :
      ∀ other ∈ first :: rest, time other ≤ time (rest.foldl (newer time) first) := by
    induction rest generalizing first with
    | nil => simp
    | cons next rest ih =>
      have newer_ge : time first ≤ time (newer time first next) ∧
          time next ≤ time (newer time first next) := by
        rw [newer]
        split_ifs with le
        · exact ⟨le, le_rfl⟩
        · exact ⟨le_rfl, (le_total _ _).resolve_left le⟩
      have fromHere := ih (newer time first next)
      rw [List.forall_mem_cons] at fromHere
      rw [List.forall_mem_cons, List.forall_mem_cons, List.foldl_cons]
      exact ⟨le_trans newer_ge.1 fromHere.1, le_trans newer_ge.2 fromHere.1, fromHere.2⟩
  cases items with
  | nil => cases found
  | cons first rest =>
    cases found
    exact le_foldl first rest

/-- Adding elements no older than the record: the newest is the newest of them. -/
theorem newest_append {items added : List α} (nonempty : added ≠ [])
    (later : ∀ item ∈ items, ∀ new ∈ added, time item ≤ time new) :
    newest time (items ++ added) = newest time added := by
  obtain ⟨new, rest, rfl⟩ := List.exists_cons_of_ne_nil nonempty
  cases items with
  | nil => rfl
  | cons first others =>
    rw [newest, List.cons_append]
    have within := foldl_newer_mem time first others
    rw [newest, List.foldl_append, List.foldl_cons,
      newer_of_le time (later _ within new (List.mem_cons_self ..))]

end LuxSwirl.Lib
