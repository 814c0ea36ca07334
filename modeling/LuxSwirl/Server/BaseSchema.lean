import LuxSwirl.Lib.Schema
import LuxSwirl.Py.Builtins
import LuxSwirl.Py.Uuid
import Mathlib.Data.List.TakeWhile

/-!
# Fields of the API's models

`base_schema.py` and `storable_text.py`, with the readers pydantic has for the
types of the fields: each gives the value a field keeps for a given one, or
none when it refuses it.

What pydantic sees in a text where a field wants a flag, a number or a date is
a parameter, and so is whether a NaN passes its lower bounds.
-/

namespace LuxSwirl.Server
open LuxSwirl.Py LuxSwirl.Lib

structure Pydantic where
  boolOf : Text → Option Bool
  intOf : Text → Option Int
  floatOf : Text → Option Py.Float
  datetimeOf : Text → Bool
  nanPasses : Bool

/-! ## Text a column can hold -/

def nul : CodePoint := .scalar (Char.ofNat 0)

def storableText (s : Text) : Bool := decide (nul ∉ s) && utf8Encodable s

def storableKey : Key → Bool
  | .text s => storableText s
  | .special _ => true

mutual

/-- `_refuse_unstorable` does not raise. -/
def storableValue : Value → Bool
  | .str s => storableText s
  | .dict fields => storableFields fields
  | .list items => storableItems items
  | _ => true

def storableItems : List Value → Bool
  | [] => true
  | v :: rest => storableValue v && storableItems rest

def storableFields : List (Key × Value) → Bool
  | [] => true
  | (k, v) :: rest => storableKey k && storableValue v && storableFields rest

end

def isWhiteSpace : CodePoint → Bool
  | .scalar c => decide (c ∈ whiteSpace)
  | _ => false

/-- `str_strip_whitespace` -/
def trim (s : Text) : Text := stripped isWhiteSpace s

/-! ## Reading a field -/

/-- `StorableText` of bounded length. -/
def storableTextOf (minLength maxLength : Nat) (s : Text) : Option Text :=
  let s := trim s
  if minLength ≤ s.length ∧ s.length ≤ maxLength ∧ storableText s then some s else none

def readStorableText (maxLength : Nat) : Value → Option Value
  | .str s => (storableTextOf 0 maxLength s).map .str
  | _ => none

def readStorableJson : Value → Option Value
  | .dict fields => if storableFields fields then some (.dict fields) else none
  | _ => none

def nullable (read : Value → Option Value) : Value → Option Value
  | .none => some .none
  | v => read v

def readBool (pydantic : Pydantic) : Value → Option Value
  | .bool b => some (.bool b)
  | .int n => if n = 0 ∨ n = 1 then some (.bool (n = 1)) else none
  | .float (.finite x) => if x = 0 ∨ x = 1 then some (.bool (x = 1)) else none
  | .str s => (pydantic.boolOf s).map .bool
  | _ => none

/-- The integer a value stands for. -/
def intIn (pydantic : Pydantic) : Value → Option Int
  | .bool b => some b.toInt
  | .int n => some n
  | .float (.finite x) => if x.den = 1 then some x.num else none
  | .str s => pydantic.intOf s
  | _ => none

def readIntBetween (pydantic : Pydantic) (least greatest : Int) (v : Value) : Option Value :=
  ((intIn pydantic v).filter fun n => decide (least ≤ n ∧ n ≤ greatest)).map .int

/-- The float a value stands for. -/
def floatIn (pydantic : Pydantic) : Value → Option Py.Float
  | .bool b => some (.finite b.toInt)
  | .int n => floatOfInt n
  | .float x => some x
  | .str s => pydantic.floatOf s
  | _ => none

/-- `ge=0` of a float. -/
def atLeastZero (pydantic : Pydantic) (x : Py.Float) : Bool :=
  if x = .special .nan then pydantic.nanPasses else Py.Float.le (.finite 0) x

def readNonNegativeFloat (pydantic : Pydantic) (v : Value) : Option Value :=
  ((floatIn pydantic v).filter (atLeastZero pydantic)).map .float

/-- A number of seconds since 1970, or beyond 2e10 of milliseconds, from the year
1 to 9999. -/
def datetimeHolds (x : ℚ) : Bool :=
  decide ((-20000000000 ≤ x ∧ x ≤ 20000000000) ∨
    (-62135596800000 ≤ x ∧ x < 253402300800000))

def readDatetime (pydantic : Pydantic) : Value → Option Value
  | .int n => if datetimeHolds n then some (.int n) else none
  | .float (.finite x) => if datetimeHolds x then some (.float (.finite x)) else none
  | .str s => if pydantic.datetimeOf s then some (.str s) else none
  | _ => none

def readUuid : Value → Option Value
  | .str s => (Uuid.read s).map fun uuid => .str uuid.str
  | _ => none

/-- An enumeration, or a `Literal`, of texts. -/
def readOneOf (words : List String) : Value → Option Value
  | .str s => if s ∈ words.map text then some (.str s) else none
  | _ => none

/-! ## Storable text -/

theorem storableText_iff {s : Text} :
    storableText s = true ↔ ∀ c ∈ s, c ≠ nul ∧ c.isSurrogate = false := by
  simp only [storableText, utf8Encodable, Bool.and_eq_true, decide_eq_true_eq, List.all_eq_true,
    Bool.not_eq_true', forall_and]
  refine and_congr_left fun _ => ⟨?_, ?_⟩
  · rintro absent c mem rfl
    exact absent mem
  · exact fun other mem => other nul mem rfl

/-- A text of some code points of a storable one is storable. -/
theorem storableText_of_subset {s t : Text} (within : s ⊆ t) (storable : storableText t = true) :
    storableText s = true := by
  rw [storableText_iff] at storable ⊢
  exact fun c mem => storable c (within mem)

theorem trim_subset (s : Text) : trim s ⊆ s := by
  intro c mem
  rw [trim, stripped, List.mem_reverse] at mem
  have mem := List.dropWhile_subset _ mem
  rw [List.mem_reverse] at mem
  exact List.dropWhile_subset _ mem

theorem length_trim_le (s : Text) : (trim s).length ≤ s.length := by
  rw [trim, stripped, List.length_reverse]
  refine (List.length_dropWhile_le _ _).trans ?_
  rw [List.length_reverse]
  exact List.length_dropWhile_le _ _

/-- What is trimmed off is white space. -/
theorem mem_or_space_of_mem_dropWhile {space : CodePoint → Bool} {s : Text} {c : CodePoint}
    (mem : c ∈ s) : c ∈ s.dropWhile space ∨ space c = true := by
  rw [← List.takeWhile_append_dropWhile (p := space) (l := s), List.mem_append] at mem
  exact mem.symm.imp_right List.mem_takeWhile_imp

theorem storableText_trim {s : Text} : storableText (trim s) = storableText s := by
  refine Bool.eq_iff_iff.mpr ⟨fun storable => ?_, storableText_of_subset (trim_subset s)⟩
  rw [storableText_iff] at storable ⊢
  intro c mem
  by_cases kept : c ∈ trim s
  · exact storable c kept
  · have space : isWhiteSpace c = true := by
      rcases mem_or_space_of_mem_dropWhile mem with front | space
      · rcases mem_or_space_of_mem_dropWhile (List.mem_reverse.mpr front) with back | space
        · exact absurd (List.mem_reverse.mpr back) kept
        · exact space
      · exact space
    cases c with
    | scalar c =>
      refine ⟨?_, rfl⟩
      rintro ⟨⟩
      exact absurd space (by decide)
    | high offset => cases space
    | low offset => cases space

/-- A text no longer than the bound is read when it is storable. -/
theorem storableTextOf_isSome {maxLength : Nat} {s : Text} (short : s.length ≤ maxLength) :
    (storableTextOf 0 maxLength s).isSome = storableText s := by
  have shorter := (length_trim_le s).trans short
  by_cases storable : storableText s = true <;>
    simp [storableTextOf, storableText_trim, shorter, storable]

theorem of_storableTextOf {minLength maxLength : Nat} {s read : Text}
    (isRead : storableTextOf minLength maxLength s = some read) :
    read.length ≤ maxLength ∧ storableText read = true := by
  simp only [storableTextOf] at isRead
  split_ifs at isRead with fits
  cases isRead
  exact fits.2

theorem storableFields_iff {fields : List (Key × Value)} :
    storableFields fields = true ↔
      ∀ entry ∈ fields, storableKey entry.1 = true ∧ storableValue entry.2 = true := by
  induction fields with
  | nil => simp [storableFields]
  | cons entry rest ih =>
    obtain ⟨key, value⟩ := entry
    rw [storableFields, Bool.and_eq_true, Bool.and_eq_true, ih, List.forall_mem_cons]

/-- A storable text arrives as it was sent. -/
theorem joinSurrogates_of_storable {s : Text} (storable : storableText s = true) :
    joinSurrogates s = s :=
  joinSurrogates_of_utf8Encodable (Bool.and_eq_true _ _ ▸ storable).2

/-- Hexadecimal digits and hyphens are storable. -/
theorem storableText_uuid (uuid : Uuid) : storableText uuid.str = true := by
  have digit : ∀ digit : Fin 16, Uuid.hexDigit digit ≠ nul ∧ (Uuid.hexDigit digit).isSurrogate = false := by
    decide
  have written (sizes : List Nat) (digits : List (Fin 16)) :
      ∀ c ∈ Uuid.writeGroups sizes digits, c ≠ nul ∧ c.isSurrogate = false := by
    induction sizes generalizing digits with
    | nil => simp [Uuid.writeGroups]
    | cons size rest ih =>
      have front : ∀ c ∈ (digits.take size).map Uuid.hexDigit, c ≠ nul ∧ c.isSurrogate = false := by
        rw [List.forall_mem_map]
        exact fun d _ => digit d
      cases rest with
      | nil => exact front
      | cons next rest =>
        rw [Uuid.writeGroups]
        · rw [List.forall_mem_append, List.forall_mem_cons]
          exact ⟨front, by decide, ih (digits.drop size)⟩
        · simp
  exact storableText_iff.mpr (written Uuid.groups uuid.digits)

end LuxSwirl.Server
