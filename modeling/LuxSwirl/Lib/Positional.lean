import Mathlib.Data.Nat.Digits.Defs
import Mathlib.Tactic.Ring

/-!
# Digits and their number

The number a list of digits writes in a base, the first digit the highest, and the
digits of a number at so many places. Leading zeros write nothing, and a list put
together from two writes the first shifted by the length of the second.
-/

namespace LuxSwirl.Lib.Positional

def value (base : Nat) (digits : List Nat) : Nat := digits.foldl (fun n digit => n * base + digit) 0

/-- The digits at the lowest so many places, the highest of them first. -/
def places (base count n : Nat) : List Nat := (List.range count).reverse.map fun place => n / base ^ place % base

variable {base : Nat}

theorem foldl_value (digits : List Nat) (start : Nat) :
    digits.foldl (fun n digit => n * base + digit) start = start * base ^ digits.length + value base digits := by
  induction digits generalizing start with
  | nil => simp [value]
  | cons digit rest ih =>
    rw [value, List.foldl_cons, List.foldl_cons, ih, ih (0 * base + digit), List.length_cons, Nat.pow_succ]
    ring

theorem value_cons (digit : Nat) (rest : List Nat) :
    value base (digit :: rest) = digit * base ^ rest.length + value base rest := by
  rw [value, List.foldl_cons, foldl_value, Nat.zero_mul, Nat.zero_add]

theorem value_append (xs ys : List Nat) : value base (xs ++ ys) = value base xs * base ^ ys.length + value base ys := by
  rw [value, List.foldl_append, foldl_value]
  rfl

theorem value_zeros (count : Nat) (digits : List Nat) :
    value base (List.replicate count 0 ++ digits) = value base digits := by
  induction count with
  | zero => rfl
  | succ count ih => rw [List.replicate_succ, List.cons_append, value_cons, Nat.zero_mul, Nat.zero_add, ih]

@[simp] theorem length_places (count n : Nat) : (places base count n).length = count := by simp [places]

theorem places_succ (count n : Nat) : places base (count + 1) n = n / base ^ count % base :: places base count n := by
  simp [places, List.range_succ]

theorem lt_of_mem_places (pos : 0 < base) {count n digit : Nat} (mem : digit ∈ places base count n) : digit < base := by
  obtain ⟨place, -, rfl⟩ := List.mem_map.mp mem
  exact Nat.mod_lt _ pos

theorem value_places (count n : Nat) : value base (places base count n) = n % base ^ count := by
  induction count with
  | zero => simp [places, value, Nat.mod_one]
  | succ count ih =>
    rw [places_succ, value_cons, ih, length_places, Nat.pow_succ, Nat.mod_mul]
    ring

/-- A number that the places hold is the number of its digits. -/
theorem value_places_of_lt {count n : Nat} (fits : n < base ^ count) : value base (places base count n) = n := by
  rw [value_places, Nat.mod_eq_of_lt fits]

/-- Without leading zeros. -/
theorem value_digits (n : Nat) : value base (Nat.digits base n).reverse = n := by
  have reversed : ∀ digits : List Nat, value base digits.reverse = Nat.ofDigits base digits := by
    intro digits
    induction digits with
    | nil => rfl
    | cons digit rest ih =>
      rw [List.reverse_cons, value_append, ih, Nat.ofDigits_cons]
      simp [value]
      ring
  rw [reversed, Nat.ofDigits_digits]

end LuxSwirl.Lib.Positional
