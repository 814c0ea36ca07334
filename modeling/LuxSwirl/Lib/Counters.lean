import Mathlib.Algebra.Order.Ring.Int
import Mathlib.Data.List.Count
import Mathlib.Logic.Function.Basic

/-!
# Counters that expire

A counter keeps a value until its window ends, and reads as zero from then on. A value
that becomes what it grew by begins a window. A `CounterStorage` keeps a counter for
each key, as a parameter with the laws it keeps; `inMemory` is one.

A hit given back while its window is open leaves no trace: `Counter.read_giveBack`. So
where every hit is counted, admitted within an amount or given back, no window admits
more than the amount: `Counter.Kept`.
-/

namespace LuxSwirl.Lib

/-- A value and when its window ends. -/
structure Counter where
  value : Int
  ends : Int
  deriving DecidableEq

namespace Counter

variable {expiry amount now time later checked back : Int} {kept : Option Counter} {counter : Counter}

/-- The value, or zero once the window has ended. -/
def read (now : Int) : Option Counter → Int
  | none => 0
  | some counter => if counter.ends ≤ now then 0 else counter.value

/-- The value grows by `amount`; if it becomes that, a window begins. -/
def incr (expiry amount now : Int) (kept : Option Counter) : Counter :=
  let value := read now kept + amount
  let ends := if value = amount then none else kept.map (·.ends)
  { value, ends := ends.getD (now + expiry) }

/-- One less, if there is something to give back when it is checked. -/
def giveBack (expiry checked back : Int) (kept : Option Counter) : Option Counter :=
  if 0 < read checked kept then some (incr expiry (-1) back kept) else kept

theorem read_of_ended (ended : counter.ends ≤ now) : read now (some counter) = 0 := if_pos ended

theorem read_of_open (isOpen : now < counter.ends) : read now (some counter) = counter.value :=
  if_neg (not_le_of_gt isOpen)

/-- What reads as zero is not more later. -/
theorem read_eq_zero_later (zero : read now kept = 0) (le : now ≤ later) : read later kept = 0 := by
  cases kept with
  | none => rfl
  | some counter =>
    by_cases ended : counter.ends ≤ later
    · exact read_of_ended ended
    · rw [not_le] at ended
      rw [read_of_open ended, ← read_of_open (le.trans_lt ended), zero]

theorem incr_of_zero (zero : read now kept = 0) : incr expiry amount now kept = ⟨amount, now + expiry⟩ := by
  rw [incr, zero, zero_add, if_pos rfl]
  rfl

theorem incr_of_open (isOpen : now < counter.ends) (used : counter.value ≠ 0) :
    incr expiry amount now (some counter) = ⟨counter.value + amount, counter.ends⟩ := by
  rw [incr, read_of_open isOpen, if_neg (by omega)]
  rfl

theorem value_incr (expiry amount now : Int) (kept : Option Counter) :
    (incr expiry amount now kept).value = read now kept + amount := rfl

/-- A counter is in use, or reads as zero. -/
theorem read_cases (now : Int) (kept : Option Counter) :
    read now kept = 0 ∨ ∃ counter, kept = some counter ∧ now < counter.ends ∧ counter.value ≠ 0 := by
  by_cases zero : read now kept = 0
  · exact .inl zero
  · right
    cases kept with
    | none => exact absurd rfl zero
    | some counter =>
      have isOpen : now < counter.ends := lt_of_not_ge fun ended => zero (read_of_ended ended)
      exact ⟨counter, rfl, isOpen, by rwa [read_of_open isOpen] at zero⟩

/-- Right after it grew, it reads as grown. -/
theorem read_incr (positive : 0 < expiry) (amount now : Int) (kept : Option Counter) :
    read now (some (incr expiry amount now kept)) = read now kept + amount := by
  rcases read_cases now kept with zero | ⟨counter, rfl, isOpen, used⟩
  · rw [incr_of_zero zero, zero, zero_add]
    exact read_of_open (Int.lt_add_of_pos_right now positive)
  · rw [incr_of_open isOpen used, read_of_open isOpen]
    exact read_of_open isOpen

/-- What a hit left is given back, unless its window has ended before that is checked. -/
theorem giveBack_some (used : 0 < counter.value)
    (steady : 0 < read checked (some counter) → back < counter.ends) :
    giveBack expiry checked back (some counter) =
      some (if counter.ends ≤ checked then counter else ⟨counter.value - 1, counter.ends⟩) := by
  rw [giveBack]
  by_cases ended : counter.ends ≤ checked
  · rw [if_pos ended, read_of_ended ended, if_neg (lt_irrefl 0)]
  · rw [not_le] at ended
    rw [read_of_open ended] at steady ⊢
    rw [if_pos used, incr_of_open (steady used) used.ne', if_neg (not_le_of_gt ended)]
    rfl

/-- **A hit given back leaves no trace.** -/
theorem read_giveBack (nonneg : 0 ≤ read time kept) (le : time ≤ checked) (le' : checked ≤ back)
    (steady : 0 < read checked (some (incr expiry 1 time kept)) → back < (incr expiry 1 time kept).ends)
    (isLater : back ≤ later) :
    read later (giveBack expiry checked back (some (incr expiry 1 time kept))) = read later kept := by
  have afterCheck : checked ≤ later := le'.trans isLater
  rcases read_cases time kept with zero | ⟨counter, rfl, isOpen, used⟩
  · rw [incr_of_zero zero] at steady ⊢
    rw [giveBack_some Int.one_pos steady, read_eq_zero_later zero (le.trans afterCheck)]
    by_cases ended : time + expiry ≤ checked
    · rw [if_pos ended]
      exact read_of_ended (ended.trans afterCheck)
    · rw [if_neg ended]
      exact ite_self _
  · rw [read_of_open isOpen] at nonneg
    rw [incr_of_open isOpen used] at steady ⊢
    rw [giveBack_some (Int.lt_add_one_of_le nonneg) steady]
    by_cases ended : counter.ends ≤ checked
    · rw [if_pos ended, read_of_ended (ended.trans afterCheck)]
      exact read_of_ended (ended.trans afterCheck)
    · rw [if_neg ended, Int.add_sub_cancel]

/-! ## What was admitted -/

/-- The counter with the window each admitted hit was counted in: none was begun later
than the counter's, and no window admitted more than the amount, nor the open one more
than the value. -/
structure Kept (expiry amount now : Int) (kept : Option Counter) (admitted : List Int) : Prop where
  nonneg : ∀ counter, kept = some counter → 0 ≤ counter.value
  recent : ∀ counter, kept = some counter → counter.ends ≤ now + expiry
  past : ∀ ends ∈ admitted, ∃ counter, kept = some counter ∧ ends ≤ counter.ends
  current : ∀ counter, kept = some counter → now < counter.ends → (admitted.count counter.ends : Int) ≤ counter.value
  within : ∀ ends, (admitted.count ends : Int) ≤ amount

namespace Kept

variable {admitted : List Int}

theorem empty (nonneg : 0 ≤ amount) (expiry now : Int) : Kept expiry amount now none [] where
  nonneg _ isSome := nomatch isSome
  recent _ isSome := nomatch isSome
  past _ mem := nomatch mem
  current _ isSome := nomatch isSome
  within _ := nonneg

theorem wait (inv : Kept expiry amount now kept admitted) (le : now ≤ later) :
    Kept expiry amount later kept admitted where
  nonneg := inv.nonneg
  recent counter isSome := (inv.recent counter isSome).trans (Int.add_le_add_right le expiry)
  past := inv.past
  current counter isSome isOpen := inv.current counter isSome (le.trans_lt isOpen)
  within := inv.within

theorem read_nonneg (inv : Kept expiry amount now kept admitted) (time : Int) : 0 ≤ read time kept := by
  rcases read_cases time kept with zero | ⟨counter, rfl, isOpen, -⟩
  · exact zero.ge
  · rw [read_of_open isOpen]
    exact inv.nonneg counter rfl

/-- A window begun where nothing is counted is a new one, as far as was admitted. -/
theorem fresh (inv : Kept expiry amount now kept admitted) (positive : 0 < expiry) (zero : read now kept = 0) :
    (admitted.count (now + expiry) : Int) ≤ 0 := by
  by_cases mem : now + expiry ∈ admitted
  · obtain ⟨counter, rfl, le⟩ := inv.past _ mem
    have same : counter.ends = now + expiry := le_antisymm (inv.recent counter rfl) le
    have isOpen : now < counter.ends := same ▸ Int.lt_add_of_pos_right now positive
    have few := inv.current counter rfl isOpen
    rwa [← read_of_open isOpen, zero, same] at few
  · rw [List.count_eq_zero_of_not_mem mem]
    rfl

/-- What a hit leaves: a window as new as any, with at least one counted more than was
admitted in it. -/
theorem hit (inv : Kept expiry amount now kept admitted) (positive : 0 < expiry) :
    (incr expiry 1 now kept).ends ≤ now + expiry ∧
      (∀ ends ∈ admitted, ends ≤ (incr expiry 1 now kept).ends) ∧
      (admitted.count (incr expiry 1 now kept).ends : Int) + 1 ≤ (incr expiry 1 now kept).value := by
  rcases read_cases now kept with zero | ⟨counter, rfl, isOpen, used⟩
  · rw [incr_of_zero zero]
    refine ⟨le_rfl, fun ends mem => ?_, Int.add_le_add_right (inv.fresh positive zero) 1⟩
    obtain ⟨counter, isSome, le⟩ := inv.past ends mem
    exact le.trans (inv.recent counter isSome)
  · rw [incr_of_open isOpen used]
    refine ⟨inv.recent counter rfl, fun ends mem => ?_, Int.add_le_add_right (inv.current counter rfl isOpen) 1⟩
    obtain ⟨_, isSome, le⟩ := inv.past ends mem
    cases isSome
    exact le

theorem of_counter (nonneg : 0 ≤ counter.value) (recent : counter.ends ≤ now + expiry)
    (past : ∀ ends ∈ admitted, ends ≤ counter.ends) (current : (admitted.count counter.ends : Int) ≤ counter.value)
    (within : ∀ ends, (admitted.count ends : Int) ≤ amount) : Kept expiry amount now (some counter) admitted where
  nonneg _ isSome := Option.some.inj isSome ▸ nonneg
  recent _ isSome := Option.some.inj isSome ▸ recent
  past ends mem := ⟨counter, rfl, past ends mem⟩
  current _ isSome _ := Option.some.inj isSome ▸ current
  within := within

theorem count (inv : Kept expiry amount now kept admitted) (positive : 0 < expiry) :
    Kept expiry amount now (some (incr expiry 1 now kept)) admitted := by
  obtain ⟨recent, past, room⟩ := inv.hit positive
  exact .of_counter (by omega) recent past (by omega) inv.within

/-- A hit within the amount, admitted in the window it was counted in. -/
theorem admits (inv : Kept expiry amount now kept admitted) (positive : 0 < expiry)
    (room : (incr expiry 1 now kept).value ≤ amount) :
    Kept expiry amount now (some (incr expiry 1 now kept)) ((incr expiry 1 now kept).ends :: admitted) := by
  obtain ⟨recent, past, counted⟩ := inv.hit positive
  refine .of_counter (by omega) recent (List.forall_mem_cons.mpr ⟨le_rfl, past⟩) ?_ fun ends => ?_
  · rwa [List.count_cons_self, Nat.cast_succ]
  · by_cases same : ends = (incr expiry 1 now kept).ends
    · rw [same, List.count_cons_self, Nat.cast_succ]
      exact counted.trans room
    · rw [List.count_cons_of_ne (Ne.symm same)]
      exact inv.within ends

/-- A hit given back. -/
theorem refuse (inv : Kept expiry amount now kept admitted) (positive : 0 < expiry) (le : now ≤ back)
    (steady : 0 < read checked (some (incr expiry 1 now kept)) → back < (incr expiry 1 now kept).ends) :
    Kept expiry amount back (giveBack expiry checked back (some (incr expiry 1 now kept))) admitted := by
  obtain ⟨recent, past, counted⟩ := inv.hit positive
  have used : 0 < (incr expiry 1 now kept).value := by omega
  rw [giveBack_some used steady]
  by_cases ended : (incr expiry 1 now kept).ends ≤ checked
  · rw [if_pos ended]
    exact (inv.count positive).wait le
  · rw [if_neg ended]
    exact .of_counter (Int.sub_nonneg_of_le used) (recent.trans (Int.add_le_add_right le expiry)) past
      (Int.le_sub_right_of_add_le counted) inv.within

end Kept

end Counter

/-! ## A counter for each key -/

/-- Counters by key. -/
structure CounterStorage (Key : Type) where
  Store : Type
  empty : Store
  kept : Store → Key → Option Counter
  incr : Store → Key → (expiry amount now : Int) → Store

namespace CounterStorage

variable {Key : Type}

/-- Each key has its own counter, and only its own `incr` changes it. -/
structure Lawful (storage : CounterStorage Key) : Prop where
  kept_empty : ∀ key, storage.kept storage.empty key = none
  kept_incr : ∀ store key expiry amount now, storage.kept (storage.incr store key expiry amount now) key =
    some (Counter.incr expiry amount now (storage.kept store key))
  kept_incr_of_ne : ∀ store key other expiry amount now, other ≠ key →
    storage.kept (storage.incr store key expiry amount now) other = storage.kept store other

def inMemory (Key : Type) [DecidableEq Key] : CounterStorage Key where
  Store := Key → Option Counter
  empty _ := none
  kept store key := store key
  incr store key expiry amount now := Function.update store key (some (Counter.incr expiry amount now (store key)))

theorem inMemory_lawful [DecidableEq Key] : (inMemory Key).Lawful where
  kept_empty _ := rfl
  kept_incr _ _ _ _ _ := Function.update_self ..
  kept_incr_of_ne _ _ _ _ _ _ ne := Function.update_of_ne ne _ _

end CounterStorage

end LuxSwirl.Lib
