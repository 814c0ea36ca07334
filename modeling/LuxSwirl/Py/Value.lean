import LuxSwirl.Lib.Fields
import LuxSwirl.Py.Text
import Mathlib.Algebra.Group.Nat.Defs
import Mathlib.Data.Rat.Defs

/-!
# Python values and their JSON documents

The values a check result can hold, as the encoders of the agent see them:

- `dumpable` is `json.dumps(value)` with its defaults, which a stored row goes
  through. It writes NaN and the infinities and escapes every character, and
  refuses an object it has no encoding for and an integer of more digits than
  the interpreter converts.
- `strict` is the body of a request, `json.dumps(value, ensure_ascii=False,
  allow_nan=False)` in UTF-8. It refuses a non-finite number and a lone
  surrogate as well.
- `decode` is the value `json.loads` gives for what either of them wrote.

A `Document` is a value that `decode` leaves as it is. Rows and bodies hold
documents, so a row read, written and read again is the same row.

A key of a Python dict that is an integer, a finite float, a bool or None is
written as its text by both encoders; such a key stands here as that text.
-/

namespace LuxSwirl.Py
open LuxSwirl.Lib

/-- The floats with no JSON number. -/
inductive NonFinite where
  | inf
  | negInf
  | nan
  deriving DecidableEq

/-- The word `json.dumps` writes for a non-finite float. -/
def NonFinite.word : NonFinite → Text
  | .inf => text "Infinity"
  | .negInf => text "-Infinity"
  | .nan => text "NaN"

inductive Float where
  | finite (value : ℚ)
  | special (value : NonFinite)
  deriving DecidableEq

namespace Float

/-- `a <= b`; a NaN compares with nothing. -/
def le : Float → Float → Bool
  | .finite a, .finite b => decide (a ≤ b)
  | .special .nan, _ | _, .special .nan => false
  | .special .negInf, _ | _, .special .inf => true
  | _, _ => false

/-- `a < b` -/
def lt (a b : Float) : Bool := le a b && !le b a

/-- `a == b` -/
def eq (a b : Float) : Bool := le a b && le b a

end Float

/-- A dict's key: a text, or a non-finite float, which only the lax encoder writes. -/
inductive Key where
  | text (s : Text)
  | special (value : NonFinite)
  deriving DecidableEq

inductive Value where
  | none
  | bool (value : Bool)
  | int (value : Int)
  | float (value : Float)
  | str (value : Text)
  | list (items : List Value)
  | dict (fields : List (Key × Value))
  /-- Anything `json.dumps` refuses by its type. -/
  | object

/-- A value by its elements: lists and dicts from a hypothesis for each thing they hold. -/
theorem Value.induct {motive : Value → Prop} (none : motive .none)
    (bool : ∀ b, motive (.bool b)) (int : ∀ n, motive (.int n)) (float : ∀ x, motive (.float x))
    (str : ∀ s, motive (.str s))
    (list : ∀ items, (∀ v ∈ items, motive v) → motive (.list items))
    (dict : ∀ fields, (∀ entry ∈ fields, motive entry.2) → motive (.dict fields))
    (object : motive .object) : ∀ v, motive v
  | .none => none
  | .bool b => bool b
  | .int n => int n
  | .float x => float x
  | .str s => str s
  | .list items => list items fun v mem =>
      have := List.sizeOf_lt_of_mem mem
      Value.induct none bool int float str list dict object v
  | .dict fields => dict fields fun entry mem =>
      have := List.sizeOf_lt_of_mem mem
      Value.induct none bool int float str list dict object entry.2
  | .object => object
termination_by v => sizeOf v
decreasing_by
  · simp only [Value.list.sizeOf_spec]
    omega
  · simp only [Value.dict.sizeOf_spec]
    have : sizeOf entry.2 < sizeOf entry := by
      cases entry
      simp only [Prod.mk.sizeOf_spec]
      omega
    omega

/-! ## Equality -/

mutual

def Value.same : Value → Value → Bool
  | .none, .none => true
  | .bool a, .bool b => a == b
  | .int m, .int n => m == n
  | .float x, .float y => decide (x = y)
  | .str s, .str t => decide (s = t)
  | .list xs, .list ys => sameItems xs ys
  | .dict xs, .dict ys => sameFields xs ys
  | .object, .object => true
  | _, _ => false

def Value.sameItems : List Value → List Value → Bool
  | [], [] => true
  | x :: xs, y :: ys => x.same y && sameItems xs ys
  | _, _ => false

def Value.sameFields : List (Key × Value) → List (Key × Value) → Bool
  | [], [] => true
  | (k, x) :: xs, (l, y) :: ys => decide (k = l) && x.same y && sameFields xs ys
  | _, _ => false

end

namespace Value

theorem sameItems_iff {xs ys : List Value} (each : ∀ x ∈ xs, ∀ y, x.same y = true ↔ x = y) :
    sameItems xs ys = true ↔ xs = ys := by
  induction xs generalizing ys with
  | nil => cases ys <;> simp [sameItems]
  | cons x xs ih =>
    cases ys with
    | nil => simp [sameItems]
    | cons y ys =>
      rw [List.forall_mem_cons] at each
      simp only [sameItems, Bool.and_eq_true, each.1 y, ih each.2, List.cons.injEq]

theorem sameFields_iff {xs ys : List (Key × Value)}
    (each : ∀ x ∈ xs, ∀ y, x.2.same y = true ↔ x.2 = y) : sameFields xs ys = true ↔ xs = ys := by
  induction xs generalizing ys with
  | nil => cases ys <;> simp [sameFields]
  | cons x xs ih =>
    cases ys with
    | nil => simp [sameFields]
    | cons y ys =>
      rw [List.forall_mem_cons] at each
      obtain ⟨k, x⟩ := x
      obtain ⟨l, y⟩ := y
      simp only [sameFields, Bool.and_eq_true, decide_eq_true_eq, each.1 y, ih each.2,
        List.cons.injEq, Prod.mk.injEq]

theorem same_iff {v w : Value} : v.same w = true ↔ v = w := by
  induction v using Value.induct generalizing w with
  | none => cases w <;> simp [same]
  | bool b => cases w <;> simp [same]
  | int n => cases w <;> simp [same]
  | float x => cases w <;> simp [same]
  | str s => cases w <;> simp [same]
  | list items ih =>
    cases w with
    | list others =>
      simp only [same, Value.list.injEq]
      exact sameItems_iff fun x mem y => ih x mem
    | _ => simp [same]
  | dict fields ih =>
    cases w with
    | dict others =>
      simp only [same, Value.dict.injEq]
      exact sameFields_iff fun x mem y => ih x mem
    | _ => simp [same]
  | object => cases w <;> simp [same]

instance : DecidableEq Value := fun _ _ => decidable_of_iff _ same_iff

end Value

/-! ## The encoders -/

/-- `sys.get_int_max_str_digits()`: the integers of more digits have no text. -/
def maxStrDigits : Nat := 4300

def writable (n : Int) : Bool := decide (n.natAbs < 10 ^ maxStrDigits)

def Key.strict : Key → Bool
  | .text s => utf8Encodable s
  | .special _ => false

def Key.decode : Key → Key
  | .text s => .text (joinSurrogates s)
  | .special value => .text value.word

mutual

/-- `json.dumps(value)` succeeds. -/
def Value.dumpable : Value → Bool
  | .none | .bool _ | .float _ | .str _ => true
  | .int n => writable n
  | .list items => dumpableItems items
  | .dict fields => dumpableFields fields
  | .object => false

def Value.dumpableItems : List Value → Bool
  | [] => true
  | v :: rest => v.dumpable && dumpableItems rest

def Value.dumpableFields : List (Key × Value) → Bool
  | [] => true
  | (_, v) :: rest => v.dumpable && dumpableFields rest

end

mutual

/-- `json.dumps(value, ensure_ascii=False, allow_nan=False).encode()` succeeds. -/
def Value.strict : Value → Bool
  | .none | .bool _ | .float (.finite _) => true
  | .float (.special _) => false
  | .int n => writable n
  | .str s => utf8Encodable s
  | .list items => strictItems items
  | .dict fields => strictFields fields
  | .object => false

def Value.strictItems : List Value → Bool
  | [] => true
  | v :: rest => v.strict && strictItems rest

def Value.strictFields : List (Key × Value) → Bool
  | [] => true
  | (k, v) :: rest => k.strict && v.strict && strictFields rest

end

mutual

/-- What `json.loads` gives for the document written for the value. -/
def Value.decode : Value → Value
  | .none => .none
  | .bool b => .bool b
  | .int n => .int n
  | .float x => .float x
  | .str s => .str (joinSurrogates s)
  | .list items => .list (decodeItems items)
  | .dict fields => .dict (Fields.ofPairs (decodeFields fields))
  | .object => .object

def Value.decodeItems : List Value → List Value
  | [] => []
  | v :: rest => v.decode :: decodeItems rest

def Value.decodeFields : List (Key × Value) → List (Key × Value)
  | [] => []
  | (k, v) :: rest => (k.decode, v.decode) :: decodeFields rest

end

namespace Value

theorem dumpableItems_iff {items : List Value} :
    dumpableItems items = true ↔ ∀ v ∈ items, v.dumpable = true := by
  induction items with
  | nil => simp [dumpableItems]
  | cons v rest ih => simp [dumpableItems, ih]

theorem dumpableFields_iff {fields : List (Key × Value)} :
    dumpableFields fields = true ↔ ∀ entry ∈ fields, entry.2.dumpable = true := by
  induction fields with
  | nil => simp [dumpableFields]
  | cons entry rest ih =>
    obtain ⟨k, v⟩ := entry
    simp only [dumpableFields, Bool.and_eq_true, ih, List.forall_mem_cons]

theorem strictItems_iff {items : List Value} :
    strictItems items = true ↔ ∀ v ∈ items, v.strict = true := by
  induction items with
  | nil => simp [strictItems]
  | cons v rest ih => simp [strictItems, ih]

theorem strictFields_iff {fields : List (Key × Value)} :
    strictFields fields = true ↔ ∀ entry ∈ fields, entry.1.strict = true ∧ entry.2.strict = true := by
  induction fields with
  | nil => simp [strictFields]
  | cons entry rest ih =>
    obtain ⟨k, v⟩ := entry
    simp only [strictFields, Bool.and_eq_true, ih, List.forall_mem_cons]

theorem decodeItems_eq_map (items : List Value) : decodeItems items = items.map decode := by
  induction items with
  | nil => rfl
  | cons v rest ih => rw [decodeItems, ih, List.map_cons]

theorem decodeFields_eq_map (fields : List (Key × Value)) :
    decodeFields fields = fields.map fun entry => (entry.1.decode, entry.2.decode) := by
  induction fields with
  | nil => rfl
  | cons entry rest ih => rw [decodeFields, ih, List.map_cons]

/-- The strict encoder takes no more than the lax one. -/
theorem dumpable_of_strict {v : Value} (strict : v.strict = true) : v.dumpable = true := by
  induction v using Value.induct with
  | none => rfl
  | bool b => rfl
  | int n => exact strict
  | float x => rfl
  | str s => rfl
  | list items ih =>
    simp only [Value.strict, strictItems_iff] at strict
    simp only [dumpable, dumpableItems_iff]
    exact fun v mem => ih v mem (strict v mem)
  | dict fields ih =>
    simp only [Value.strict, strictFields_iff] at strict
    simp only [dumpable, dumpableFields_iff]
    exact fun entry mem => ih entry mem (strict entry mem).2
  | object => exact strict

end Value

theorem Key.decode_decode (k : Key) : k.decode.decode = k.decode := by
  cases k with
  | text s => simp only [Key.decode, joinSurrogates_joinSurrogates]
  | special value => cases value <;> decide

theorem Key.strict_decode {k : Key} (strict : k.strict = true) : k.decode.strict = true := by
  cases k with
  | text s =>
    have encodable : utf8Encodable s = true := strict
    rwa [Key.decode, joinSurrogates_of_utf8Encodable encodable]
  | special value => simp [Key.strict] at strict

namespace Value

/-- An entry of a decoded dict is a decoded entry of the dict. -/
theorem mem_decodeFields {fields : List (Key × Value)} {entry : Key × Value}
    (mem : entry ∈ Fields.ofPairs (decodeFields fields)) :
    ∃ source ∈ fields, entry = (source.1.decode, source.2.decode) := by
  have := Fields.mem_of_mem_ofPairs mem
  rw [decodeFields_eq_map, List.mem_map] at this
  obtain ⟨source, within, rfl⟩ := this
  exact ⟨source, within, rfl⟩

/-- Decoding a decoded value changes nothing. -/
theorem decode_decode (v : Value) : v.decode.decode = v.decode := by
  induction v using Value.induct with
  | none => rfl
  | bool b => rfl
  | int n => rfl
  | float x => rfl
  | str s => simp only [decode, joinSurrogates_joinSurrogates]
  | list items ih =>
    simp only [decode, decodeItems_eq_map, List.map_map, Value.list.injEq]
    exact List.map_congr_left fun v mem => ih v mem
  | dict fields ih =>
    have fixed : decodeFields (Fields.ofPairs (decodeFields fields)) =
        Fields.ofPairs (decodeFields fields) := by
      rw [decodeFields_eq_map (Fields.ofPairs _)]
      refine (List.map_congr_left fun entry mem => ?_).trans (List.map_id _)
      obtain ⟨source, within, rfl⟩ := mem_decodeFields mem
      simp only [Key.decode_decode, ih source within, id]
    simp only [decode, fixed, Fields.ofPairs_of_nodup (Fields.nodup_ofPairs _)]
  | object => rfl

/-- What was written once can be written again. -/
theorem dumpable_decode {v : Value} (dumps : v.dumpable = true) : v.decode.dumpable = true := by
  induction v using Value.induct with
  | none => rfl
  | bool b => rfl
  | int n => exact dumps
  | float x => rfl
  | str s => rfl
  | list items ih =>
    simp only [dumpable, dumpableItems_iff] at dumps
    simp only [decode, dumpable, dumpableItems_iff, decodeItems_eq_map, List.forall_mem_map]
    exact fun v mem => ih v mem (dumps v mem)
  | dict fields ih =>
    simp only [dumpable, dumpableFields_iff] at dumps
    simp only [decode, dumpable, dumpableFields_iff]
    intro entry mem
    obtain ⟨source, within, rfl⟩ := mem_decodeFields mem
    exact ih source within (dumps source within)
  | object => exact dumps

/-- What a request body carried once it carries again. -/
theorem strict_decode {v : Value} (strict : v.strict = true) : v.decode.strict = true := by
  induction v using Value.induct with
  | none => rfl
  | bool b => rfl
  | int n => exact strict
  | float x => exact strict
  | str s =>
    have encodable : utf8Encodable s = true := strict
    simpa only [decode, Value.strict, joinSurrogates_of_utf8Encodable encodable] using strict
  | list items ih =>
    simp only [Value.strict, strictItems_iff] at strict
    simp only [decode, Value.strict, strictItems_iff, decodeItems_eq_map, List.forall_mem_map]
    exact fun v mem => ih v mem (strict v mem)
  | dict fields ih =>
    simp only [Value.strict, strictFields_iff] at strict
    simp only [decode, Value.strict, strictFields_iff]
    intro entry mem
    obtain ⟨source, within, rfl⟩ := mem_decodeFields mem
    exact ⟨Key.strict_decode (strict source within).1, ih source within (strict source within).2⟩
  | object => exact strict

end Value

/-! ## Documents -/

/-- A value as `json.loads` gives it for what the agent wrote. -/
structure Document where
  value : Value
  decoded : value.decode = value
  dumpable : value.dumpable = true

@[ext] theorem Document.ext {d e : Document} (same : d.value = e.value) : d = e := by
  cases d
  cases e
  cases same
  rfl

instance : DecidableEq Document := fun d e =>
  decidable_of_iff (d.value = e.value) ⟨Document.ext, congrArg Document.value⟩

/-- The document of a value the lax encoder takes. -/
def Value.document (v : Value) (dumps : v.dumpable = true) : Document :=
  ⟨v.decode, v.decode_decode, dumpable_decode dumps⟩

/-- `json.dumps(batch)`, item by item: the documents it writes, or none when it raises. -/
def dumps : List Value → Option (List Document)
  | [] => some []
  | v :: rest =>
    if h : v.dumpable = true then (dumps rest).map (v.document h :: ·) else none

/-- The request body for a batch: the documents it carries, or none when encoding raises. -/
def body : List Value → Option (List Document)
  | [] => some []
  | v :: rest =>
    if h : v.strict = true then
      (body rest).map (v.document (Value.dumpable_of_strict h) :: ·)
    else none

/-- The values `json.loads` gives for a list of documents. -/
def loads (documents : List Document) : List Value := documents.map Document.value

@[simp] theorem Value.document_value (v : Value) (dumps : v.dumpable = true) :
    (v.document dumps).value = v.decode := rfl

@[simp] theorem Document.document_value (d : Document) : d.value.document d.dumpable = d :=
  Document.ext d.decoded

@[simp] theorem loads_nil : loads [] = [] := rfl

@[simp] theorem loads_append (xs ys : List Document) : loads (xs ++ ys) = loads xs ++ loads ys :=
  List.map_append

@[simp] theorem length_loads (documents : List Document) :
    (loads documents).length = documents.length := List.length_map ..

theorem dumps_isSome {batch : List Value} :
    (dumps batch).isSome = true ↔ ∀ v ∈ batch, v.dumpable = true := by
  induction batch with
  | nil => simp [dumps]
  | cons v rest ih =>
    by_cases h : v.dumpable = true
    · simp [dumps, h, ih]
    · simp [dumps, h]

theorem body_isSome {batch : List Value} :
    (body batch).isSome = true ↔ ∀ v ∈ batch, v.strict = true := by
  induction batch with
  | nil => simp [body]
  | cons v rest ih =>
    by_cases h : v.strict = true
    · simp [body, h, ih]
    · simp [body, h]

/-- Documents a request carries are carried as they are. -/
theorem body_loads {documents : List Document}
    (strict : ∀ d ∈ documents, d.value.strict = true) : body (loads documents) = some documents := by
  induction documents with
  | nil => rfl
  | cons d rest ih =>
    rw [List.forall_mem_cons] at strict
    have tail := ih strict.2
    simp only [loads, List.map_cons] at tail ⊢
    simp [body, strict.1, tail]

/-- A batch the request carries is dumped to the same documents. -/
theorem dumps_of_body {batch : List Value} {documents : List Document}
    (encoded : body batch = some documents) : dumps batch = some documents := by
  induction batch generalizing documents with
  | nil => exact encoded
  | cons v rest ih =>
    by_cases h : v.strict = true
    · simp only [body, h, dif_pos, Option.map_eq_some_iff] at encoded
      obtain ⟨tail, encoded, rfl⟩ := encoded
      simp [dumps, Value.dumpable_of_strict h, ih encoded]
    · simp [body, h] at encoded

/-- What a row's payload decodes to is written back as the same payload. -/
@[simp] theorem dumps_loads (documents : List Document) :
    dumps (loads documents) = some documents := by
  induction documents with
  | nil => rfl
  | cons d rest ih =>
    simp only [loads, List.map_cons] at ih ⊢
    simp [dumps, d.dumpable, ih]

end LuxSwirl.Py
