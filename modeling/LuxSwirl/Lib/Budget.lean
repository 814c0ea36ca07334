import Mathlib.Data.List.Count
import Mathlib.Logic.Function.Basic
import Mathlib.Logic.Relation

/-!
# Budgets with reservations

Room is reserved before it is known whether it will be spent. A reservation is
charged or released when it is settled, and what was charged is forgotten when
its window ends. Whatever the order, what is charged and what is reserved stay
within the amount: `Budget.Run.within`.

`FixedWindow` is a counter per key whose count is forgotten when its window has
passed, as a parameter with the laws it keeps; `memoryStorage` is one.
-/

namespace LuxSwirl.Lib

/-- What is charged in the current window, and how many reservations are open. -/
structure Budget where
  counted : Nat
  held : Nat

namespace Budget

inductive Step (amount : Nat) : Budget → Budget → Prop
  /-- The window ends. -/
  | roll {counted held : Nat} : Step amount ⟨counted, held⟩ ⟨0, held⟩
  | enter {counted held : Nat} : counted + held < amount → Step amount ⟨counted, held⟩ ⟨counted, held + 1⟩
  | charge {counted held : Nat} : Step amount ⟨counted, held + 1⟩ ⟨counted + 1, held⟩
  | release {counted held : Nat} : Step amount ⟨counted, held + 1⟩ ⟨counted, held⟩

def Within (amount : Nat) (budget : Budget) : Prop := budget.counted + budget.held ≤ amount

abbrev Run (amount : Nat) : Budget → Budget → Prop := Relation.ReflTransGen (Step amount)

theorem Step.within {amount : Nat} {budget after : Budget} (step : Step amount budget after)
    (within : Within amount budget) : Within amount after := by
  unfold Within at *
  cases step with
  | roll => dsimp only at *; omega
  | enter room => dsimp only at *; omega
  | charge => dsimp only at *; omega
  | release => dsimp only at *; omega

/-- **A budget is never overspent.** -/
theorem Run.within {amount : Nat} {budget after : Budget} (run : Run amount budget after)
    (within : Within amount budget) : Within amount after := by
  induction run with
  | refl => exact within
  | tail _ step ih => exact step.within ih

end Budget

/-! ## Counters of a fixed window -/

/-- A counter for each key, read and hit at a time. -/
structure FixedWindow (Key : Type) where
  Store : Type
  empty : Store
  count : Store → Key → Int → Nat
  /-- When the current window ends. -/
  resetTime : Store → Key → Int → Int
  hit : Store → Key → Int → Store

namespace FixedWindow

variable {Key : Type}

/-- A hit adds one to its key's current window, which is forgotten once it has
passed. -/
structure Lawful (window : FixedWindow Key) : Prop where
  count_empty : ∀ key time, window.count window.empty key time = 0
  count_hit : ∀ store key time, window.count (window.hit store key time) key time =
    window.count store key time + 1
  count_hit_of_ne : ∀ store key other time later, other ≠ key →
    window.count (window.hit store key time) other later = window.count store other later
  count_later : ∀ store key time later, time ≤ later →
    window.count store key later = window.count store key time ∨ window.count store key later = 0

variable [DecidableEq Key] {window : FixedWindow Key}

/-- Each key in turn is hit at its own time. -/
def hitAll (window : FixedWindow Key) (keys : List Key) (clock : Key → Int) (store : window.Store) :
    window.Store :=
  keys.foldl (fun store key => window.hit store key (clock key)) store

/-- A key is counted as often as it is listed. -/
theorem Lawful.count_hitAll (lawful : window.Lawful) (keys : List Key) (clock : Key → Int) (key : Key)
    (store : window.Store) :
    window.count (window.hitAll keys clock store) key (clock key) =
      window.count store key (clock key) + keys.count key := by
  induction keys generalizing store with
  | nil => rfl
  | cons first rest ih =>
    rw [hitAll, List.foldl_cons, ← hitAll, ih, List.count_cons]
    by_cases same : first = key
    · subst same
      rw [lawful.count_hit, if_pos (by simp)]
      omega
    · rw [lawful.count_hit_of_ne _ _ _ _ _ (Ne.symm same), if_neg (by simpa using same), Nat.add_zero]

/-- Counters in memory: each key's count and when its window ends. -/
abbrev Counters (Key : Type) := Key → Nat × Int

def Counters.count (store : Counters Key) (key : Key) (time : Int) : Nat :=
  if (store key).2 ≤ time then 0 else (store key).1

omit [DecidableEq Key] in
theorem Counters.count_later (store : Counters Key) (key : Key) {time later : Int} (le : time ≤ later) :
    store.count key later = store.count key time ∨ store.count key later = 0 := by
  rw [Counters.count, Counters.count]
  by_cases ended : (store key).2 ≤ later
  · exact Or.inr (if_pos ended)
  · left
    rw [if_neg ended, if_neg (by omega)]

def Counters.hit (expiry : Key → Int) (store : Counters Key) (key : Key) (time : Int) : Counters Key :=
  Function.update store key <|
    if (store key).2 ≤ time then (1, time + expiry key) else ((store key).1 + 1, (store key).2)

theorem Counters.count_hit {expiry : Key → Int} (positive : ∀ key, 0 < expiry key)
    (store : Counters Key) (key : Key) (time : Int) :
    (store.hit expiry key time).count key time = store.count key time + 1 := by
  have expires := positive key
  rw [Counters.count, Counters.hit, Function.update_self, Counters.count]
  by_cases ended : (store key).2 ≤ time
  · rw [if_pos ended, if_pos ended, if_neg (by dsimp only; omega)]
  · rw [if_neg ended, if_neg ended, if_neg ended]

def memoryStorage (expiry : Key → Int) : FixedWindow Key where
  Store := Counters Key
  empty _ := (0, 0)
  count := Counters.count
  resetTime store key _ := (store key).2
  hit := Counters.hit expiry

theorem memoryStorage_lawful {expiry : Key → Int} (positive : ∀ key, 0 < expiry key) :
    (memoryStorage expiry).Lawful where
  count_empty _ _ := ite_self _
  count_hit := Counters.count_hit positive
  count_hit_of_ne store key other time later ne := by
    have same : Counters.hit expiry store key time other = store other := Function.update_of_ne ne _ _
    show Counters.count (Counters.hit expiry store key time) other later = Counters.count store other later
    unfold Counters.count
    rw [same]
  count_later store key _ _ := Counters.count_later store key

end FixedWindow

end LuxSwirl.Lib
