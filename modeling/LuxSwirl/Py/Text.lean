import Mathlib.Data.List.Basic
import Mathlib.Tactic.Common

/-!
# Python text

A Python `str` is a sequence of code points, and any of them may be a surrogate
that stands alone. UTF-8 refuses a surrogate; a JSON document written in ASCII
escapes it, and reading it back joins an escaped high half with the low half
right after it.
-/

namespace LuxSwirl.Py

/-- A code point of a Python `str`: a Unicode scalar value or one half of a
surrogate pair, by its offset in its range. -/
inductive CodePoint where
  | scalar (c : Char)
  | high (offset : Fin 0x400)
  | low (offset : Fin 0x400)
  deriving DecidableEq

/-- A Python `str`. -/
abbrev Text := List CodePoint

instance : LawfulBEq Text := inferInstance

/-- The text of a literal. -/
def text (literal : String) : Text := literal.toList.map .scalar

/-- The character a high and a low half stand for together. -/
def joined (high low : Fin 0x400) : Char :=
  Char.ofNat (0x10000 + high.val * 0x400 + low.val)

/-- The code point with number `n`, as `\uXXXX` gives it. -/
def CodePoint.ofUnit (n : Nat) : CodePoint :=
  if 0xD800 ≤ n ∧ n < 0xDC00 then .high (Fin.ofNat _ (n - 0xD800))
  else if 0xDC00 ≤ n ∧ n < 0xE000 then .low (Fin.ofNat _ (n - 0xDC00))
  else .scalar (Char.ofNat n)

/-- The number Python orders a character by. -/
def CodePoint.ord : CodePoint → Nat
  | .scalar c => c.toNat
  | .high offset => 0xD800 + offset.val
  | .low offset => 0xDC00 + offset.val

def CodePoint.isSurrogate : CodePoint → Bool
  | .scalar _ => false
  | .high _ => true
  | .low _ => true

/-- `str.encode("utf-8")` takes the text: it holds no surrogate. -/
def utf8Encodable (s : Text) : Bool := s.all fun c => !c.isSurrogate

/-- The control characters Python takes for white space and Unicode does not. -/
def separators : List Char := ['\x1c', '\x1d', '\x1e', '\x1f']

/-- The characters with Unicode's `White_Space` property. -/
def whiteSpace : List Char :=
  ['\t', '\n', '\x0b', '\x0c', '\r', ' ', '\x85', '\xa0', '\u1680', '\u2000', '\u2001', '\u2002',
    '\u2003', '\u2004', '\u2005', '\u2006', '\u2007', '\u2008', '\u2009', '\u200a', '\u2028', '\u2029',
    '\u202f', '\u205f', '\u3000']

/-- `str.isspace`, of one code point. -/
def CodePoint.isSpace : CodePoint → Bool
  | .scalar c => decide (c ∈ whiteSpace ++ separators)
  | _ => false

/-- A text without the code points of `space` at its ends. -/
def stripped (space : CodePoint → Bool) (s : Text) : Text :=
  ((s.dropWhile space).reverse.dropWhile space).reverse

/-- `str.strip`. -/
def strip (s : Text) : Text := stripped CodePoint.isSpace s

theorem stripped_of_none {space : CodePoint → Bool} {s : Text} (none : ∀ c ∈ s, space c = false) :
    stripped space s = s := by
  have front : s.dropWhile space = s := by
    cases s with
    | nil => rfl
    | cons c rest => rw [List.dropWhile_cons_of_neg]; simp [none c]
  have back : s.reverse.dropWhile space = s.reverse := by
    cases isReverse : s.reverse with
    | nil => rfl
    | cons c rest =>
      have mem : c ∈ s := List.mem_reverse.mp (isReverse ▸ List.mem_cons_self ..)
      rw [List.dropWhile_cons_of_neg]
      simp [none c mem]
  rw [stripped, front, back, List.reverse_reverse]

/-- The text read back from `s` written with every surrogate as an escape of its own. -/
def joinSurrogates : Text → Text
  | .high h :: .low l :: rest => .scalar (joined h l) :: joinSurrogates rest
  | c :: rest => c :: joinSurrogates rest
  | [] => []

/-- A code point in front of a text is kept, unless the two are the halves of a pair. -/
theorem joinSurrogates_cons {c : CodePoint} {s : Text}
    (apart : ∀ h l, c = .high h → s.head? ≠ some (.low l)) :
    joinSurrogates (c :: s) = c :: joinSurrogates s := by
  rw [joinSurrogates]
  rintro h l rest rfl rfl
  exact apart h l rfl rfl

/-- A low half leads the text read back only where it led the text. -/
theorem head?_of_head?_joinSurrogates {s : Text} {l : Fin 0x400}
    (head : (joinSurrogates s).head? = some (.low l)) : s.head? = some (.low l) := by
  fun_cases joinSurrogates s with
  | case1 h l' rest => simp [joinSurrogates] at head
  | case2 c rest apart =>
    rw [joinSurrogates] at head
    · simpa using head
    · exact apart
  | case3 => simp [joinSurrogates] at head

theorem length_joinSurrogates_le (s : Text) : (joinSurrogates s).length ≤ s.length := by
  fun_induction joinSurrogates s with
  | case1 h l rest ih =>
    simp only [List.length_cons]
    omega
  | case2 c rest apart ih => exact Nat.succ_le_succ ih
  | case3 => exact Nat.le_refl _

/-- Reading back a second time changes nothing. -/
theorem joinSurrogates_joinSurrogates (s : Text) :
    joinSurrogates (joinSurrogates s) = joinSurrogates s := by
  fun_induction joinSurrogates s with
  | case1 h l rest ih => rw [joinSurrogates_cons (by simp), ih]
  | case2 c rest apart ih =>
    rw [joinSurrogates_cons, ih]
    rintro h l rfl head
    have := head?_of_head?_joinSurrogates head
    cases rest with
    | nil => simp at this
    | cons d rest => exact apart h l rest rfl (by simpa using this)
  | case3 => rfl

/-- A text UTF-8 takes is read back as it is. -/
theorem joinSurrogates_of_utf8Encodable {s : Text} (encodable : utf8Encodable s = true) :
    joinSurrogates s = s := by
  fun_induction joinSurrogates s with
  | case1 h l rest ih => simp [utf8Encodable, CodePoint.isSurrogate] at encodable
  | case2 c rest apart ih =>
    simp only [utf8Encodable, List.all_cons, Bool.and_eq_true] at encodable ih
    rw [ih encodable.2]
  | case3 => rfl

end LuxSwirl.Py
