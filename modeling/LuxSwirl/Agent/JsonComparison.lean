import LuxSwirl.Py.Decimal
import Mathlib.Algebra.Order.Ring.Cast
import Mathlib.Data.Int.Cast.Lemmas
import Mathlib.Data.List.Infix

/-!
# Comparing a JSON value with its expected text

`JSONCheck._compare_values` (`checks/json.py`). The text is read as the type of the
value; for a number it is kept as it is where it cannot be.

`compares_iff` says which texts are compared as the values they denote. Any text but
`true` is read as false, and `int` reads no literal with a fraction.
-/

namespace LuxSwirl.Agent
open LuxSwirl.Py

/-- What the interpreter does beyond this model. -/
structure Interpreter where
  /-- `str(value)`, or none for its `ValueError`. -/
  str : Value → Option Text
  /-- `float(text)`, or none for its `ValueError`. -/
  floatOf : Text → Option Py.Float
  /-- Whether `re.search` finds the pattern in the text, or none for an error. -/
  search : Text → Text → Option Bool
  /-- The type's name of a value JSON has no form for. -/
  objectName : Text

variable (interpreter : Interpreter)

/-! ## The values -/

/-- `type(value).__name__` -/
def typeName : Value → Text
  | .none => text "NoneType"
  | .bool _ => text "bool"
  | .int _ => text "int"
  | .float _ => text "float"
  | .str _ => text "str"
  | .list _ => text "list"
  | .dict _ => text "dict"
  | .object => interpreter.objectName

/-- The number of a value that `isinstance(value, (int, float))` takes. -/
def numeric : Value → Option Py.Float
  | .bool b => some (.finite (if b then 1 else 0))
  | .int n => some (.finite n)
  | .float x => some x
  | _ => none

/-- `value == expected`, where `expected` is no list and no dict. -/
def equalTo (expected value : Value) : Bool :=
  match numeric value, numeric expected with
  | some x, some y => Py.Float.eq x y
  | none, none => decide (value = expected)
  | _, _ => false

/-- `expected` as it is compared with a value like `actual`. -/
def coerceExpected (actual : Value) : Option Text → Value
  | none => .none
  | some expected =>
    match actual with
    | .bool _ => .bool (decide (lower expected = text "true"))
    | .int _ => ((intOf expected).map .int).getD (.str expected)
    | .float _ => ((interpreter.floatOf expected).map .float).getD (.str expected)
    | _ => .str expected

/-! ## The comparison -/

/-- An error with both values in it. -/
def mismatch (before between after : String) (actual expected : Value) : Option (Bool × Option Text) := do
  let actual ← interpreter.str actual
  let expected ← interpreter.str expected
  return (false, some (text before ++ actual ++ text between ++ expected ++ text after))

def cannotPerform (comparison : String) (actual : Value) : Option (Bool × Option Text) :=
  some (false, some (text "Cannot perform " ++ text comparison ++ text " comparison on " ++ typeName interpreter actual))

def compareEquals (actual expected : Value) : Option (Bool × Option Text) :=
  if equalTo expected actual then some (true, none)
  else mismatch interpreter "Value '" "' does not equal expected '" "'" actual expected

def compareContains (actual expected : Value) : Option (Bool × Option Text) :=
  match actual, expected with
  | .str s, .str part =>
    if part <:+: s then some (true, none) else mismatch interpreter "Value '" "' does not contain '" "'" actual expected
  | .list items, _ =>
    if items.any (equalTo expected) then some (true, none)
    else mismatch interpreter "List '" "' does not contain '" "'" actual expected
  | _, _ => cannotPerform interpreter "'contains'" actual

def compareRegex (actual expected : Value) : Option (Bool × Option Text) :=
  match actual, expected with
  | .str s, .str pattern =>
    match interpreter.search pattern s with
    | none => none
    | some true => some (true, none)
    | some false => mismatch interpreter "Value '" "' does not match regex '" "'" actual expected
  | _, _ => cannotPerform interpreter "regex" actual

/-- One of the two orders: whether it has the numbers of the values, by its name and the
words of its error. -/
def compareOrder (order : Py.Float → Py.Float → Bool) (comparison between : String) (actual expected : Value) :
    Option (Bool × Option Text) :=
  match numeric actual, numeric expected with
  | some x, some y => if order x y then some (true, none) else mismatch interpreter "Value " between "" actual expected
  | _, _ => cannotPerform interpreter comparison actual

def compareGreaterThan (actual expected : Value) : Option (Bool × Option Text) :=
  compareOrder interpreter (fun x y => Py.Float.lt y x) "'greater than'" " is not greater than " actual expected

def compareLessThan (actual expected : Value) : Option (Bool × Option Text) :=
  compareOrder interpreter (fun x y => Py.Float.lt x y) "'less than'" " is not less than " actual expected

def compareNotEquals (actual expected : Value) : Option (Bool × Option Text) :=
  if equalTo expected actual then mismatch interpreter "Value '" "' equals '" "' when it should not" actual expected
  else some (true, none)

/-- `_compare_values`, or none for an exception. -/
def compareValues (actual : Value) (given : Option Text) (comparisonType : Text) : Option (Bool × Option Text) :=
  let expected := coerceExpected interpreter actual given
  if comparisonType = text "equals" then compareEquals interpreter actual expected
  else if comparisonType = text "contains" then compareContains interpreter actual expected
  else if comparisonType = text "regex" then compareRegex interpreter actual expected
  else if comparisonType = text "greater_than" ∨ comparisonType = text "gt" then
    compareGreaterThan interpreter actual expected
  else if comparisonType = text "less_than" ∨ comparisonType = text "lt" then compareLessThan interpreter actual expected
  else if comparisonType = text "not_equals" ∨ comparisonType = text "ne" then
    compareNotEquals interpreter actual expected
  else some (false, some (text "Unknown comparison type: " ++ comparisonType))

def Succeeds (actual : Value) (expected : Text) (comparisonType : String) : Prop :=
  compareValues interpreter actual (some expected) (text comparisonType) = some (true, none)

/-! ## What a text denotes -/

/-- A boolean, an integer or a string. -/
inductive Scalar where
  | bool (value : Bool)
  | int (value : Int)
  | str (value : Text)

def Scalar.value : Scalar → Value
  | .bool b => .bool b
  | .int n => .int n
  | .str s => .str s

def Denotes (expected : Text) : Scalar → Prop
  | .bool b => lower expected = text (if b then "true" else "false")
  | .int n => decimalValue expected = some (n : ℚ)
  | .str s => expected = s

def ExactlyOne (p q r : Prop) : Prop := (p ∧ ¬ q ∧ ¬ r) ∨ (¬ p ∧ q ∧ ¬ r) ∨ (¬ p ∧ ¬ q ∧ r)

/-- The comparisons are those of the value with what the text denotes. -/
structure ComparesAs (actual : Scalar) (expected : Text) : Prop where
  equals : Succeeds interpreter actual.value expected "equals" ↔ Denotes expected actual
  notEquals : Succeeds interpreter actual.value expected "not_equals" ↔
    ¬ Succeeds interpreter actual.value expected "equals"
  greater : ∀ n q, actual = .int n → decimalValue expected = some q →
    (Succeeds interpreter actual.value expected "greater_than" ↔ q < n)
  less : ∀ n q, actual = .int n → decimalValue expected = some q →
    (Succeeds interpreter actual.value expected "less_than" ↔ (n : ℚ) < q)
  exactlyOne : ∀ n q, actual = .int n → decimalValue expected = some q →
    ExactlyOne (Succeeds interpreter actual.value expected "greater_than")
      (Succeeds interpreter actual.value expected "less_than") (Succeeds interpreter actual.value expected "equals")

/-- The text is read as what it denotes. -/
def ReadAs (expected : Text) : Scalar → Prop
  | .bool b => b = true ∨ lower expected = text "true" ∨ lower expected = text "false"
  | .int n => if (decimalValue expected).isSome then integerLiteral expected = true else intOf expected ≠ some n
  | .str _ => True

/-! ## When a comparison succeeds -/

variable {interpreter} {actual expected : Value}

theorem mismatch_ne (before between after : String) (message : Option Text) :
    mismatch interpreter before between after actual expected ≠ some (true, message) := by
  intro same
  simp only [mismatch, Option.bind_eq_bind, Option.bind_eq_some_iff, Option.pure_def, Option.some.injEq,
    Prod.mk.injEq, Bool.false_eq_true, false_and, and_false, exists_false] at same

theorem cannotPerform_ne (comparison : String) (message : Option Text) :
    cannotPerform interpreter comparison actual ≠ some (true, message) := by
  intro same
  cases same

theorem compareEquals_eq_iff : compareEquals interpreter actual expected = some (true, none) ↔ equalTo expected actual = true := by
  rw [compareEquals]
  split_ifs with same
  · exact iff_of_true rfl same
  · exact iff_of_false (mismatch_ne _ _ _ _) same

theorem compareNotEquals_eq_iff :
    compareNotEquals interpreter actual expected = some (true, none) ↔ ¬ equalTo expected actual = true := by
  rw [compareNotEquals]
  split_ifs with same
  · exact iff_of_false (mismatch_ne _ _ _ _) (not_not_intro same)
  · exact iff_of_true rfl same

theorem compareOrder_eq_iff {order : Py.Float → Py.Float → Bool} {comparison between : String} :
    compareOrder interpreter order comparison between actual expected = some (true, none) ↔
      ∃ x y, numeric actual = some x ∧ numeric expected = some y ∧ order x y = true := by
  rw [compareOrder]
  split
  · rename_i x y isX isY
    rw [isX, isY]
    split_ifs with ordered
    · exact iff_of_true rfl ⟨x, y, rfl, rfl, ordered⟩
    · refine iff_of_false (mismatch_ne _ _ _ _) ?_
      rintro ⟨_, _, ⟨⟩, ⟨⟩, isOrdered⟩
      exact ordered isOrdered
  · rename_i none
    refine iff_of_false (cannotPerform_ne _ _) ?_
    rintro ⟨x, y, isX, isY, -⟩
    exact none x y isX isY

section Given

variable {given : Text}

theorem succeeds_equals_iff :
    Succeeds interpreter actual given "equals" ↔ equalTo (coerceExpected interpreter actual (some given)) actual = true := by
  rw [Succeeds, compareValues, if_pos rfl]
  exact compareEquals_eq_iff

theorem succeeds_not_equals_iff :
    Succeeds interpreter actual given "not_equals" ↔ ¬ Succeeds interpreter actual given "equals" := by
  rw [succeeds_equals_iff, Succeeds, compareValues]
  simp only [text_inj, String.reduceEq, ↓reduceIte, or_false, or_self]
  exact compareNotEquals_eq_iff

theorem succeeds_greater_iff :
    Succeeds interpreter actual given "greater_than" ↔
      ∃ x y, numeric actual = some x ∧ numeric (coerceExpected interpreter actual (some given)) = some y ∧
        Py.Float.lt y x = true := by
  rw [Succeeds, compareValues]
  simp only [text_inj, String.reduceEq, ↓reduceIte, or_false]
  exact compareOrder_eq_iff

theorem succeeds_less_iff :
    Succeeds interpreter actual given "less_than" ↔
      ∃ x y, numeric actual = some x ∧ numeric (coerceExpected interpreter actual (some given)) = some y ∧
        Py.Float.lt x y = true := by
  rw [Succeeds, compareValues]
  simp only [text_inj, String.reduceEq, ↓reduceIte, or_false, or_self]
  exact compareOrder_eq_iff

end Given

/-! ## The comparisons of each type -/

variable (interpreter) (expected : Text)

theorem lt_finite {a b : ℚ} : Py.Float.lt (.finite a) (.finite b) = true ↔ a < b := by
  simp only [Py.Float.lt, Py.Float.le, Bool.and_eq_true, decide_eq_true_eq, Bool.not_eq_true', decide_eq_false_iff_not,
    not_le]
  exact and_iff_right_of_imp le_of_lt

theorem eq_finite {a b : ℚ} : Py.Float.eq (.finite a) (.finite b) = true ↔ a = b := by
  simp only [Py.Float.eq, Py.Float.le, Bool.and_eq_true, decide_eq_true_eq]
  exact le_antisymm_iff.symm

/-- A boolean is equal to a text that reads `true` when it is true. -/
theorem bool_equals_iff (b : Bool) :
    Succeeds interpreter (.bool b) expected "equals" ↔ (lower expected = text "true" ↔ b = true) := by
  rw [succeeds_equals_iff]
  show Py.Float.eq _ _ = true ↔ _
  rw [eq_finite]
  by_cases isTrue : lower expected = text "true"
  · cases b <;> simp [isTrue]
  · cases b <;> simp [isTrue]

theorem str_equals_iff (s : Text) : Succeeds interpreter (.str s) expected "equals" ↔ expected = s := by
  rw [succeeds_equals_iff]
  show decide (Value.str s = .str expected) = true ↔ _
  rw [decide_eq_true_eq, Value.str.injEq, eq_comm]

theorem int_equals_iff (n : Int) : Succeeds interpreter (.int n) expected "equals" ↔ intOf expected = some n := by
  rw [succeeds_equals_iff, coerceExpected]
  cases read : intOf expected with
  | none =>
    refine iff_of_false ?_ (by simp)
    exact Bool.false_ne_true
  | some m =>
    show Py.Float.eq _ _ = true ↔ _
    rw [eq_finite, Int.cast_inj, Option.some_inj, eq_comm]

/-- A text compared with an integer by size counts as the integer it reads as. -/
theorem numeric_coerceExpected_int (n : Int) {y : Py.Float} :
    numeric (coerceExpected interpreter (.int n) (some expected)) = some y ↔
      ∃ m : Int, intOf expected = some m ∧ y = .finite m := by
  rw [coerceExpected]
  cases read : intOf expected with
  | none =>
    constructor
    · intro isY
      cases isY
    · rintro ⟨m, isRead, -⟩
      cases isRead
  | some m =>
    constructor
    · intro isY
      cases isY
      exact ⟨m, rfl, rfl⟩
    · rintro ⟨other, isRead, rfl⟩
      cases isRead
      rfl

/-- An order of floats says of integers what their own order does. -/
theorem int_order_iff (n : Int) (order : Py.Float → Py.Float → Prop) (less : Int → Int → Prop)
    (same : ∀ m : Int, order (.finite n) (.finite m) ↔ less n m) :
    (∃ x y, numeric (.int n) = some x ∧ numeric (coerceExpected interpreter (.int n) (some expected)) = some y ∧
      order x y) ↔ ∃ m, intOf expected = some m ∧ less n m := by
  constructor
  · rintro ⟨x, y, ⟨⟩, isY, isLess⟩
    obtain ⟨m, read, rfl⟩ := (numeric_coerceExpected_int interpreter expected n).mp isY
    exact ⟨m, read, (same m).mp isLess⟩
  · rintro ⟨m, read, isLess⟩
    have isY := (numeric_coerceExpected_int interpreter expected n).mpr ⟨m, read, rfl⟩
    exact ⟨_, _, rfl, isY, (same m).mpr isLess⟩

theorem int_greater_iff (n : Int) :
    Succeeds interpreter (.int n) expected "greater_than" ↔ ∃ m, intOf expected = some m ∧ m < n := by
  rw [succeeds_greater_iff]
  apply int_order_iff interpreter expected n (fun x y => Py.Float.lt y x = true) fun n m => m < n
  intro m
  rw [lt_finite, Int.cast_lt]

theorem int_less_iff (n : Int) :
    Succeeds interpreter (.int n) expected "less_than" ↔ ∃ m, intOf expected = some m ∧ n < m := by
  rw [succeeds_less_iff]
  apply int_order_iff interpreter expected n (fun x y => Py.Float.lt x y = true) fun n m => n < m
  intro m
  rw [lt_finite, Int.cast_lt]

/-! ## Texts compared as what they denote -/

theorem compares_bool_iff (b : Bool) : ComparesAs interpreter (.bool b) expected ↔ ReadAs expected (.bool b) := by
  have equals := bool_equals_iff interpreter expected b
  have falseNotTrue : text "false" ≠ text "true" := by decide
  constructor
  · intro compares
    have denotes := compares.equals
    show b = true ∨ _
    cases b with
    | true => exact .inl rfl
    | false =>
      by_cases isTrue : lower expected = text "true"
      · exact .inr (.inl isTrue)
      · exact .inr (.inr (denotes.mp (equals.mpr (by simp [isTrue]))))
  · intro read
    refine ⟨equals.trans ?_, succeeds_not_equals_iff, by simp, by simp, by simp⟩
    show _ ↔ lower expected = text (if b then "true" else "false")
    cases b with
    | true => simp
    | false =>
      have words : false = true ∨ lower expected = text "true" ∨ lower expected = text "false" := read
      rcases words with isFalse | isTrue | isFalse
      · cases isFalse
      · simp [isTrue, falseNotTrue.symm]
      · simp [isFalse, falseNotTrue]

theorem compares_str (s : Text) : ComparesAs interpreter (.str s) expected :=
  ⟨str_equals_iff interpreter expected s, succeeds_not_equals_iff, by simp, by simp, by simp⟩

theorem exactlyOne_of_iff {p q r : Prop} {m n : Int} (less : p ↔ m < n) (greater : q ↔ n < m) (same : r ↔ m = n) :
    ExactlyOne p q r := by
  rw [ExactlyOne, less, greater, same]
  omega

theorem compares_int_iff (n : Int) : ComparesAs interpreter (.int n) expected ↔ ReadAs expected (.int n) := by
  have equals := int_equals_iff interpreter expected n
  have greater := int_greater_iff interpreter expected n
  have less := int_less_iff interpreter expected n
  show _ ↔ if (decimalValue expected).isSome then _ else _
  cases literal : decimalValue expected with
  | none =>
    rw [Option.isSome_none, if_neg Bool.false_ne_true]
    constructor
    · intro compares read
      have denotes : decimalValue expected = some (n : ℚ) := compares.equals.mp (equals.mpr read)
      rw [literal] at denotes
      cases denotes
    · intro other
      refine ⟨iff_of_false (fun succeeds => other (equals.mp succeeds)) ?_, succeeds_not_equals_iff, ?_, ?_, ?_⟩
      · show decimalValue expected ≠ _
        simp [literal]
      · simp [literal]
      · simp [literal]
      · simp [literal]
  | some q =>
    obtain ⟨readsInteger, readsNothing⟩ := intOf_of_literal literal
    rw [Option.isSome_some, if_pos rfl]
    constructor
    · intro compares
      by_contra noInteger
      have unread := readsNothing (Bool.not_eq_true _ ▸ noInteger)
      rw [unread] at equals greater less
      have notLess : ¬ q < n := by
        intro isLess
        obtain ⟨m, ⟨⟩, -⟩ := greater.mp ((compares.greater n q rfl literal).mpr isLess)
      have notGreater : ¬ (n : ℚ) < q := by
        intro isLess
        obtain ⟨m, ⟨⟩, -⟩ := less.mp ((compares.less n q rfl literal).mpr isLess)
      have same : q = n := le_antisymm (not_lt.mp notGreater) (not_lt.mp notLess)
      have denotes : decimalValue expected = some (n : ℚ) := by rw [literal, same]
      cases equals.mp (compares.equals.mpr denotes)
    · intro integer
      obtain ⟨m, read, rfl⟩ := readsInteger integer
      rw [read] at equals greater less
      refine ⟨?_, succeeds_not_equals_iff, ?_, ?_, ?_⟩
      · show _ ↔ decimalValue expected = some (n : ℚ)
        rw [literal, Option.some_inj, Int.cast_inj, ← Option.some_inj]
        exact equals
      · rintro _ q ⟨⟩ isLiteral
        rw [literal] at isLiteral
        cases isLiteral
        refine greater.trans ?_
        rw [Int.cast_lt]
        simp
      · rintro _ q ⟨⟩ isLiteral
        rw [literal] at isLiteral
        cases isLiteral
        refine less.trans ?_
        rw [Int.cast_lt]
        simp
      · intro _ _ _ _
        apply @exactlyOne_of_iff _ _ _ m n
        · exact greater.trans (by simp)
        · exact less.trans (by simp)
        · exact equals.trans Option.some_inj

/-- An interpreter that writes scalars. -/
def plainInterpreter : Interpreter where
  str
    | .bool b => some (text (if b then "True" else "False"))
    | .int n => some ((if n < 0 then text "-" else []) ++ strOfNat n.natAbs)
    | .str s => some s
    | _ => none
  floatOf _ := none
  search _ _ := none
  objectName := []

end LuxSwirl.Agent
