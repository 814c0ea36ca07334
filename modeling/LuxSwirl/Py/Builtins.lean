import LuxSwirl.Py.Value
import Mathlib.Data.String.Basic

/-!
# Built-in functions

The truth of a value, `int(text)`, and the methods of `str` that settings and
results go through.
-/

namespace LuxSwirl.Py
open LuxSwirl.Lib

/-! ## Keys -/

def fieldKey (field : String) : Key := .text (text field)

theorem text_inj {a b : String} : text a = text b ↔ a = b := by
  refine ⟨fun same => ?_, fun same => by rw [same]⟩
  have injective : Function.Injective CodePoint.scalar := fun c d same => by injection same
  exact String.toList_inj.mp (injective.list_map same)

@[simp] theorem fieldKey_inj {a b : String} : fieldKey a = fieldKey b ↔ a = b := by
  rw [fieldKey, fieldKey, Key.text.injEq, text_inj]

theorem utf8Encodable_text (literal : String) : utf8Encodable (text literal) = true := by
  simp [utf8Encodable, text, CodePoint.isSurrogate]

@[simp] theorem joinSurrogates_text (literal : String) :
    joinSurrogates (text literal) = text literal :=
  joinSurrogates_of_utf8Encodable (utf8Encodable_text literal)

/-- A dictionary whose keys JSON keeps as they are. -/
structure Plain (fields : List (Key × Value)) : Prop where
  nodup : (fields.map (·.1)).Nodup
  strict : ∀ entry ∈ fields, entry.1.strict = true

namespace Plain

variable {fields : List (Key × Value)}

theorem set (plain : Plain fields) (name : String) (value : Value) :
    Plain (Fields.set (fieldKey name) value fields) where
  nodup := Fields.nodup_set plain.nodup
  strict entry mem := by
    rcases Fields.mem_of_mem_set mem with rfl | mem
    · exact utf8Encodable_text name
    · exact plain.strict entry mem

theorem filter (plain : Plain fields) (kept : Key × Value → Bool) : Plain (fields.filter kept) where
  nodup := plain.nodup.sublist (List.filter_sublist.map _)
  strict entry mem := plain.strict entry (List.mem_of_mem_filter mem)

theorem decodeFields (plain : Plain fields) :
    Fields.ofPairs (Value.decodeFields fields) =
      fields.map fun entry => (entry.1, entry.2.decode) := by
  have kept : Value.decodeFields fields = fields.map fun entry => (entry.1, entry.2.decode) := by
    rw [Value.decodeFields_eq_map]
    refine List.map_congr_left fun entry mem => ?_
    have strict := plain.strict entry mem
    obtain ⟨key, value⟩ := entry
    cases key with
    | text s => simp only [Key.decode, joinSurrogates_of_utf8Encodable strict]
    | special value => simp [Key.strict] at strict
  have keys : (fields.map fun entry => (entry.1, entry.2.decode)).map (·.1) = fields.map (·.1) := by
    rw [List.map_map]
    rfl
  rw [kept, Fields.ofPairs_of_nodup (keys ▸ plain.nodup)]

/-- A field of such a dictionary after JSON. -/
theorem get?_decode (plain : Plain fields) (key : Key) :
    Fields.get? key (Fields.ofPairs (Value.decodeFields fields)) =
      (Fields.get? key fields).map Value.decode := by
  rw [plain.decodeFields]
  simp only [Fields.get?, List.find?_map, Option.map_map]
  rfl

end Plain

/-! ## Truth -/

/-- Whether Python takes a value for true. -/
def truthy : Value → Bool
  | .none => false
  | .bool b => b
  | .int n => decide (n ≠ 0)
  | .float x => decide (x ≠ .finite 0)
  | .str s => !s.isEmpty
  | .list items => !items.isEmpty
  | .dict fields => !fields.isEmpty
  | .object => true

/-- `value or default` of a number of seconds. -/
def orDefault (value : Option Nat) (default : Nat) : Nat :=
  match value with
  | none => default
  | some 0 => default
  | some n => n

theorem orDefault_pos (value : Option Nat) {default : Nat} (pos : 0 < default) :
    0 < orDefault value default := by
  rcases value with _ | _ | n
  · exact pos
  · exact pos
  · exact Nat.succ_pos n

/-! ## Numbers -/

/-- The digits zero, one to each of Unicode's sets of decimal digits. -/
def decimalZeros : List Nat :=
  [0x30, 0x660, 0x6f0, 0x7c0, 0x966, 0x9e6, 0xa66, 0xae6, 0xb66, 0xbe6, 0xc66, 0xce6, 0xd66, 0xde6,
    0xe50, 0xed0, 0xf20, 0x1040, 0x1090, 0x17e0, 0x1810, 0x1946, 0x19d0, 0x1a80, 0x1a90, 0x1b50,
    0x1bb0, 0x1c40, 0x1c50, 0xa620, 0xa8d0, 0xa900, 0xa9d0, 0xa9f0, 0xaa50, 0xabf0, 0xff10, 0x104a0,
    0x10d30, 0x10d40, 0x11066, 0x110f0, 0x11136, 0x111d0, 0x112f0, 0x11450, 0x114d0, 0x11650,
    0x116c0, 0x116d0, 0x116da, 0x11730, 0x118e0, 0x11950, 0x11bf0, 0x11c50, 0x11d50, 0x11da0,
    0x11f50, 0x16130, 0x16a60, 0x16ac0, 0x16b50, 0x16d70, 0x1ccf0, 0x1d7ce, 0x1d7d8, 0x1d7e2,
    0x1d7ec, 0x1d7f6, 0x1e140, 0x1e2f0, 0x1e4f0, 0x1e5f1, 0x1e950, 0x1fbf0]

def CodePoint.decimal : CodePoint → Option Nat
  | .scalar c =>
    (decimalZeros.find? fun start => decide (start ≤ c.toNat ∧ c.toNat < start + 10)).map (c.toNat - ·)
  | _ => none

/-- Decimal digits, with single underscores between them. -/
def readDecimals : Text → Option (List Nat)
  | [] => none
  | [c] => c.decimal.map ([·])
  | c :: .scalar '_' :: rest =>
    c.decimal.bind fun digit => (readDecimals rest).map (digit :: ·)
  | c :: rest => c.decimal.bind fun digit => (readDecimals rest).map (digit :: ·)

/-- `int(text)`, or none for a `ValueError`. -/
def intOf (s : Text) : Option Int :=
  let (sign, decimals) : Int × Text := match strip s with
    | .scalar '-' :: rest => (-1, rest)
    | .scalar '+' :: rest => (1, rest)
    | rest => (1, rest)
  (readDecimals decimals).bind fun digits =>
    if digits.length ≤ maxStrDigits then
      some (sign * digits.foldl (fun n digit => n * 10 + (digit : Int)) 0)
    else none

/-- `float(n)` up to its rounding, or none for an `OverflowError`. -/
def floatOfInt (n : Int) : Option Float :=
  if n.natAbs < 2 ^ 1024 - 2 ^ 970 then some (.finite n) else none

/-! ## Texts -/

/-- The characters outside ASCII whose upper case is in it. -/
def upperTable : List (Char × String) :=
  [('ß', "SS"), ('ı', "I"), ('ſ', "S"), ('ﬀ', "FF"), ('ﬁ', "FI"), ('ﬂ', "FL"), ('ﬃ', "FFI"),
    ('ﬄ', "FFL"), ('ﬅ', "ST"), ('ﬆ', "ST")]

/-- `str.upper`, for comparison with words in ASCII: a character whose upper case
is not in ASCII stays as it is. -/
def upper (s : Text) : Text :=
  s.flatMap fun
    | .scalar c =>
      match upperTable.find? fun entry => entry.1 == c with
      | some entry => text entry.2
      | none => [.scalar c.toUpper]
    | c => [c]

/-- The characters outside ASCII whose lower case has some that is in it. -/
def lowerTable : List (Char × String) := [('\u0130', "i\u0307"), ('\u212a', "k")]

/-- `str.lower`, for comparison with words in ASCII: a character whose lower case is
not in ASCII stays as it is. -/
def lower (s : Text) : Text :=
  s.flatMap fun
    | .scalar c =>
      match lowerTable.find? fun entry => entry.1 == c with
      | some entry => text entry.2
      | none => [.scalar c.toLower]
    | c => [c]

/-- `s.rsplit(c, 1)` of a text that holds `c`. -/
def rsplitOnce (c : CodePoint) (s : Text) : Option (Text × Text) :=
  if c ∈ s then
    let back := (s.reverse.takeWhile (decide <| · ≠ c)).reverse
    some (s.take (s.length - back.length - 1), back)
  else none

/-- `separator.join(parts)` -/
def join (separator : Text) (parts : List Text) : Text := (parts.intersperse separator).flatten

/-- `xs[start:]` -/
def sliceFrom {α : Type*} (start : Int) (xs : List α) : List α :=
  if start < 0 then xs.drop (xs.length - start.natAbs) else xs.drop start.natAbs

/-- `xs[:stop]` -/
def sliceTo {α : Type*} (stop : Int) (xs : List α) : List α :=
  if stop < 0 then xs.take (xs.length - stop.natAbs) else xs.take stop.natAbs

theorem length_sliceTo {α : Type*} (stop : Nat) (xs : List α) : (sliceTo stop xs).length = min stop xs.length := by
  rw [sliceTo, if_neg (Int.not_lt.mpr (Int.natCast_nonneg stop)), Int.natAbs_natCast, List.length_take]

/-- `str(n)` of a natural number. -/
def strOfNat (n : Nat) : Text := (Nat.toDigits 10 n).map .scalar

theorem strOfNat_injective : Function.Injective strOfNat := fun m n same => by
  have digits : Nat.toDigits 10 m = Nat.toDigits 10 n :=
    List.map_injective_iff.mpr (fun _ _ => CodePoint.scalar.inj) same
  rw [← @Nat.ofDigitChars_ten_toDigits m, digits, Nat.ofDigitChars_ten_toDigits]

theorem length_strOfNat_le_iff {n digits : Nat} (some : 0 < digits) : (strOfNat n).length ≤ digits ↔ n < 10 ^ digits := by
  rw [strOfNat, List.length_map]
  exact Nat.length_toDigits_le_iff (by decide) some

theorem length_strOfNat_pos (n : Nat) : 0 < (strOfNat n).length := by
  rw [strOfNat, List.length_map]
  exact Nat.length_toDigits_pos

/-- The digits of a number are ASCII's. -/
theorem digit_of_mem_strOfNat {n : Nat} {c : CodePoint} (mem : c ∈ strOfNat n) :
    ∃ digit : Char, c = .scalar digit ∧ digit.isDigit = true := by
  obtain ⟨digit, isDigit, rfl⟩ := List.mem_map.mp mem
  exact ⟨digit, rfl, Nat.isDigit_of_mem_toDigits (by decide) (by decide) isDigit⟩

theorem decimal_of_isDigit {digit : Char} (isDigit : digit.isDigit = true) :
    (CodePoint.scalar digit).decimal.isSome = true := by
  have ascii : 48 ≤ digit.toNat ∧ digit.toNat ≤ 57 := by
    rw [Char.isDigit, Bool.and_eq_true, decide_eq_true_eq, decide_eq_true_eq] at isDigit
    exact isDigit
  have first : decide (0x30 ≤ digit.toNat ∧ digit.toNat < 0x30 + 10) = true := decide_eq_true ⟨ascii.1, by omega⟩
  simp only [CodePoint.decimal, decimalZeros, List.find?_cons, first, Option.map_some, Option.isSome_some]

example : intOf (text " -1_0 ") = some (-10) := by decide

example : rsplitOnce (.scalar ':') (text "a:b:80") = some (text "a:b", text "80") := by decide

end LuxSwirl.Py
