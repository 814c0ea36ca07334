import Mathlib.Data.List.Nodup

/-!
# Keys visited in turn

A loop goes through some keys and changes one state, each visit by the number it has. A
visit that touches nothing but its own key finds there what the loop began with, and
what it leaves there is what the loop ends with: so the visits of different keys can be
judged one at a time (`visits_apart`).
-/

namespace LuxSwirl.Lib

variable {κ σ α : Type*}

/-- A key with the state its visit finds. -/
structure Visit (κ σ : Type*) where
  number : Nat
  key : κ
  before : σ

section Loop

variable (step : Nat → κ → σ → σ)

/-- The visits of a loop, the first by `number`. -/
def visits : Nat → List κ → σ → List (Visit κ σ)
  | _, [], _ => []
  | number, key :: rest, state => ⟨number, key, state⟩ :: visits (number + 1) rest (step number key state)

/-- The state a loop leaves. -/
def afterVisits : Nat → List κ → σ → σ
  | _, [], state => state
  | number, key :: rest, state => afterVisits (number + 1) rest (step number key state)

@[simp] theorem visits_keys (number : Nat) (keys : List κ) (state : σ) :
    (visits step number keys state).map (·.key) = keys := by
  induction keys generalizing number state with
  | nil => rfl
  | cons key rest ih => rw [visits, List.map_cons, ih]

end Loop

section Apart

variable {step : Nat → κ → σ → σ} {read : κ → σ → α}

/-- What no visit is of stays. -/
theorem afterVisits_of_not_mem (apart : ∀ number key other state, other ≠ key →
      read other (step number key state) = read other state) {keys : List κ} {key : κ} (absent : key ∉ keys)
    (number : Nat) (state : σ) : read key (afterVisits step number keys state) = read key state := by
  induction keys generalizing number state with
  | nil => rfl
  | cons first rest ih =>
    rw [List.mem_cons, not_or] at absent
    obtain ⟨ne, absent⟩ := absent
    rw [afterVisits, ih absent, apart number first key state ne]

/-- **A visit of its own key finds what was there at first and leaves what is there at
last.** -/
theorem visits_apart (apart : ∀ number key other state, other ≠ key →
      read other (step number key state) = read other state) {keys : List κ} (nodup : keys.Nodup)
    {number : Nat} {state : σ} {visit : Visit κ σ} (mem : visit ∈ visits step number keys state) :
    read visit.key visit.before = read visit.key state ∧
      read visit.key (afterVisits step number keys state) =
        read visit.key (step visit.number visit.key visit.before) := by
  induction keys generalizing number state with
  | nil => cases mem
  | cons first rest ih =>
    obtain ⟨fresh, nodup⟩ := List.nodup_cons.mp nodup
    rcases List.mem_cons.mp mem with rfl | mem
    · exact ⟨rfl, afterVisits_of_not_mem apart fresh _ _⟩
    · have isKey : visit.key ∈ rest := by
        rw [← visits_keys step (number + 1) rest (step number first state)]
        exact List.mem_map_of_mem mem
      have ne : visit.key ≠ first := fun same => fresh (same ▸ isKey)
      obtain ⟨found, left⟩ := ih nodup mem
      exact ⟨found.trans (apart number first visit.key state ne), left⟩

end Apart

end LuxSwirl.Lib
