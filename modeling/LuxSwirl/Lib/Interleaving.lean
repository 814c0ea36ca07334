import Mathlib.Data.List.Basic
import Mathlib.Logic.Relation
import Mathlib.Tactic.SplitIfs

/-!
# Interleaved statements

A system takes one statement after another, of any of its parties. A run may be
limited to statements that are allowed where they run; what every such statement
keeps, a run keeps (`Runs.keeps`).

A party that decides by facts it read and writes later is only right about those
that no other write has broken meanwhile. `Seen` records for each fact whether one
has, and `Interference.Sound` says that an unbroken one still holds.
-/

namespace LuxSwirl.Lib

section Runs

variable {σ τ : Type*}

/-- One statement, allowed where it runs. -/
def Next (step : τ → σ → Option σ) (allows : σ → τ → Bool) (before after : σ) : Prop :=
  ∃ statement, allows before statement = true ∧ step statement before = some after

/-- Statements one after another. -/
abbrev Runs (step : τ → σ → Option σ) (allows : σ → τ → Bool) : σ → σ → Prop :=
  Relation.ReflTransGen (Next step allows)

/-- Some statements in turn, while they are allowed. -/
def runAll (step : τ → σ → Option σ) (allows : σ → τ → Bool) : List τ → σ → Option σ
  | [], state => some state
  | statement :: rest, state =>
    if allows state statement then (step statement state).bind (runAll step allows rest) else none

variable {step : τ → σ → Option σ} {allows : σ → τ → Bool} {before after : σ}

theorem Runs.of_runAll {statements : List τ} (ran : runAll step allows statements before = some after) :
    Runs step allows before after := by
  induction statements generalizing before with
  | nil =>
    cases ran
    exact .refl
  | cons statement rest ih =>
    rw [runAll] at ran
    split_ifs at ran with allowed
    obtain ⟨next, stepped, others⟩ := Option.bind_eq_some_iff.mp ran
    exact .head ⟨statement, allowed, stepped⟩ (ih others)

/-- **Invariants.** What every allowed statement keeps, a run keeps. -/
theorem Runs.keeps {inv : σ → Prop} (run : Runs step allows before after)
    (kept : ∀ state statement next, allows state statement = true → step statement state = some next →
      inv state → inv next) (start : inv before) : inv after := by
  induction run with
  | refl => exact start
  | tail _ next ih =>
    obtain ⟨statement, allowed, stepped⟩ := next
    exact kept _ statement _ allowed stepped ih

/-- What holds after some steps held before them, or one of them first brought it about. -/
theorem foldl_brings {p : σ → Prop} {step : σ → τ → σ} {steps : List τ} {start : σ}
    (holds : p (steps.foldl step start)) : p start ∨ ∃ done last rest, steps = done ++ last :: rest ∧
      ¬ p (done.foldl step start) ∧ p ((done ++ [last]).foldl step start) := by
  induction steps generalizing start with
  | nil => exact .inl holds
  | cons first rest ih =>
    rcases ih holds with here | ⟨done, last, others, rfl, before, after⟩
    · by_cases already : p start
      · exact .inl already
      · exact .inr ⟨[], first, rest, rfl, already, here⟩
    · exact .inr ⟨first :: done, last, others, rfl, before, after⟩

end Runs

/-! ## Facts that were read -/

/-- What the facts say of a state, the writes that change it, and which facts a write
breaks at most. -/
structure Interference (σ φ ω : Type*) where
  holds : φ → σ → Prop
  apply : ω → σ → σ
  valid : ω → σ → Prop
  breaks : ω → φ → Bool
  keeps : ∀ {write fact state}, valid write state → breaks write fact = false → holds fact state →
    holds fact (apply write state)

/-- Facts that were read, each with whether a write has broken it since. -/
abbrev Seen (φ : Type*) := List (φ × Bool)

namespace Seen

variable {φ : Type*}

/-- A fact was read. -/
def see (fact : φ) (seen : Seen φ) : Seen φ := (fact, false) :: seen

/-- A write of another party. -/
def disturb (breaks : φ → Bool) (seen : Seen φ) : Seen φ :=
  seen.map fun entry => (entry.1, entry.2 || breaks entry.1)

def unbroken (seen : Seen φ) : Bool := seen.all fun entry => !entry.2

def facts (seen : Seen φ) : List φ := seen.map (·.1)

@[simp] theorem facts_see (fact : φ) (seen : Seen φ) : (seen.see fact).facts = fact :: seen.facts := rfl

@[simp] theorem facts_disturb (breaks : φ → Bool) (seen : Seen φ) :
    (seen.disturb breaks).facts = seen.facts := by
  simp [facts, disturb, Function.comp_def]

end Seen

namespace Interference

variable {σ φ ω : Type*} (interference : Interference σ φ ω)

/-- Every fact that is not broken holds. -/
def Sound (seen : Seen φ) (state : σ) : Prop := ∀ fact, (fact, false) ∈ seen → interference.holds fact state

variable {interference} {seen : Seen φ} {state : σ}

theorem Sound.nil : interference.Sound [] state := fun _ mem => by cases mem

theorem Sound.see (sound : interference.Sound seen state) {fact : φ} (holds : interference.holds fact state) :
    interference.Sound (seen.see fact) state := by
  intro other mem
  rcases List.mem_cons.mp mem with same | mem
  · cases same
    exact holds
  · exact sound other mem

/-- A write leaves it sound, once it is counted. -/
theorem Sound.disturb (sound : interference.Sound seen state) {write : ω} (valid : interference.valid write state) :
    interference.Sound (seen.disturb (interference.breaks write)) (interference.apply write state) := by
  intro fact mem
  obtain ⟨⟨other, broken⟩, isOther, same⟩ := List.mem_map.mp mem
  obtain ⟨rfl, unbroken⟩ := Prod.mk.injEq .. ▸ same
  obtain ⟨rfl, spared⟩ := Bool.or_eq_false_iff.mp unbroken
  exact interference.keeps valid spared (sound _ isOther)

/-- With nothing broken, all that was read holds. -/
theorem Sound.holds (sound : interference.Sound seen state) (unbroken : seen.unbroken = true) {fact : φ}
    (read : fact ∈ seen.facts) : interference.holds fact state := by
  obtain ⟨⟨other, broken⟩, mem, rfl⟩ := List.mem_map.mp read
  have spared : broken = false := by simpa using List.all_eq_true.mp unbroken _ mem
  exact sound other (spared ▸ mem)

end Interference

end LuxSwirl.Lib
