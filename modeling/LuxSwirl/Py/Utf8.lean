import LuxSwirl.Py.Text
import Mathlib.Algebra.GroupWithZero.Nat

/-!
# UTF-8

`str.encode()`: the bytes of a text, one to four for each character, or a
`UnicodeEncodeError` for a surrogate that stands alone.
-/

namespace LuxSwirl.Py

/-- The bytes of a code point; a surrogate has none. -/
def CodePoint.encode : CodePoint → Option (List UInt8)
  | .scalar c => some (String.utf8EncodeChar c)
  | .high _ | .low _ => none

/-- `s.encode()` -/
def encode : Text → Option (List UInt8)
  | [] => some []
  | c :: rest => c.encode.bind fun bytes => (encode rest).map (bytes ++ ·)

/-- How many bytes a code point takes; a surrogate would take three. -/
def CodePoint.utf8Size : CodePoint → Nat
  | .scalar c => c.utf8Size
  | .high _ | .low _ => 3

def utf8Size (s : Text) : Nat := (s.map CodePoint.utf8Size).sum

theorem encode_of_utf8Encodable {s : Text} (encodable : utf8Encodable s = true) :
    ∃ bytes, encode s = some bytes ∧ bytes.length = utf8Size s := by
  induction s with
  | nil => exact ⟨[], rfl, rfl⟩
  | cons c rest ih =>
    rw [utf8Encodable, List.all_cons, Bool.and_eq_true] at encodable
    obtain ⟨bytes, encoded, size⟩ := ih encodable.2
    cases c with
    | scalar c =>
      refine ⟨String.utf8EncodeChar c ++ bytes, ?_, ?_⟩
      · rw [encode, encoded]
        rfl
      · rw [List.length_append, size, String.length_utf8EncodeChar]
        rfl
    | high offset => cases encodable.1
    | low offset => cases encodable.1

theorem utf8Size_replicate (n : Nat) (c : CodePoint) : utf8Size (List.replicate n c) = n * c.utf8Size := by
  simp [utf8Size]

end LuxSwirl.Py
