import LuxSwirl.Lib.Pointwise
import LuxSwirl.Py.Builtins
import Mathlib.Algebra.Order.Ring.Rat

/-!
# Numbers written in ASCII

The digits a number is written in where only ASCII counts, and `int` of them. A
decimal literal is a sign, if any, digits and, if any, a point with digits after it;
`int` reads one as its number, or not at all.
-/

namespace LuxSwirl.Py
open LuxSwirl.Lib

def asciiDigit : CodePoint → Option Nat
  | .scalar c => if 0x30 ≤ c.toNat ∧ c.toNat < 0x3a then some (c.toNat - 0x30) else none
  | _ => none

/-- The number decimal digits write. -/
def ofDecimals (digits : List Nat) : Nat := digits.foldl (fun n digit => n * 10 + digit) 0

/-- The octet that one to three ASCII digits without a zero in front write. -/
def octetOf (part : Text) : Option Nat :=
  (part.mapM asciiDigit).bind fun digits =>
    if 1 ≤ digits.length ∧ digits.length ≤ 3 ∧ (digits.head? = some 0 → digits.length = 1) ∧ ofDecimals digits ≤ 255
    then some (ofDecimals digits) else none

/-! ## Digits as `int` reads them -/

theorem asciiDigit_eq_some {c : CodePoint} {digit : Nat} (isDigit : asciiDigit c = some digit) :
    ∃ char, c = .scalar char ∧ char.toNat = 0x30 + digit ∧ digit < 10 := by
  cases c with
  | scalar char =>
    obtain ⟨bounds, same⟩ := Option.ite_none_right_eq_some.mp isDigit
    have number : char.toNat - 0x30 = digit := Option.some.inj same
    exact ⟨char, rfl, by omega, by omega⟩
  | high offset => cases isDigit
  | low offset => cases isDigit

theorem decimal_of_asciiDigit {c : CodePoint} {digit : Nat} (isDigit : asciiDigit c = some digit) :
    c.decimal = some digit := by
  obtain ⟨char, rfl, number, small⟩ := asciiDigit_eq_some isDigit
  rw [CodePoint.decimal, decimalZeros, List.find?_cons_of_pos (by simp only [decide_eq_true_eq]; omega), Option.map_some,
    number, Nat.add_sub_cancel_left]

theorem not_isSpace_of_asciiDigit {c : CodePoint} {digit : Nat} (isDigit : asciiDigit c = some digit) :
    c.isSpace = false := by
  obtain ⟨char, rfl, number, small⟩ := asciiDigit_eq_some isDigit
  have noSpace : ∀ space ∈ whiteSpace ++ separators, space.toNat < 0x30 ∨ 0x3a ≤ space.toNat := by
    simp [whiteSpace, separators]
  rw [CodePoint.isSpace, decide_eq_false_iff_not]
  intro isSpace
  have := noSpace char isSpace
  omega

theorem readDecimals_of_ascii {part : Text} {digits : List Nat} (nonempty : part ≠ [])
    (areDigits : part.map asciiDigit = digits.map some) : readDecimals part = some digits := by
  induction part generalizing digits with
  | nil => exact absurd rfl nonempty
  | cons c rest ih =>
    rcases digits with _ | ⟨digit, digits⟩
    · cases areDigits
    · obtain ⟨isDigit, areDigits⟩ := List.cons.inj areDigits
      have isDecimal := decimal_of_asciiDigit isDigit
      rcases rest with _ | ⟨next, rest⟩
      · rw [List.map_nil, eq_comm, List.map_eq_nil_iff] at areDigits
        rw [readDecimals, isDecimal, areDigits]
        rfl
      · have noUnderscore : ∀ others, next :: rest = .scalar '_' :: others → False := by
          intro others same
          cases same
          cases digits <;> cases areDigits
        rw [readDecimals.eq_4 c (next :: rest) (List.cons_ne_nil _ _) noUnderscore, isDecimal,
          ih (List.cons_ne_nil _ _) areDigits]
        rfl

theorem isSome_of_map {part : Text} {digits : List Nat} (areDigits : part.map asciiDigit = digits.map some)
    {c : CodePoint} (mem : c ∈ part) : ∃ digit, asciiDigit c = some digit := by
  have isDigit : asciiDigit c ∈ digits.map some := areDigits ▸ List.mem_map_of_mem mem
  obtain ⟨digit, -, isDigit⟩ := List.mem_map.mp isDigit
  exact ⟨digit, isDigit.symm⟩

theorem strip_of_ascii {part : Text} {digits : List Nat} (areDigits : part.map asciiDigit = digits.map some) :
    strip part = part := by
  refine stripped_of_none fun c mem => ?_
  obtain ⟨digit, isDigit⟩ := isSome_of_map areDigits mem
  exact not_isSpace_of_asciiDigit isDigit

theorem foldl_cast (digits : List Nat) (start : Nat) :
    (digits.map (Nat.cast : Nat → Int)).foldl (fun n digit => n * 10 + digit) (start : Int) =
      (digits.foldl (fun n digit => n * 10 + digit) start : Nat) := by
  induction digits generalizing start with
  | nil => rfl
  | cons digit rest ih =>
    rw [List.map_cons, List.foldl_cons, List.foldl_cons, ← ih]
    rfl

/-- A sign in front, and what is behind it. -/
def splitSign : Text → Int × Text
  | .scalar '-' :: rest => (-1, rest)
  | .scalar '+' :: rest => (1, rest)
  | rest => (1, rest)

/-- The text is what is behind the sign with the sign, if any, in front. -/
theorem splitSign_text (s : Text) :
    ∃ sign, s = sign ++ (splitSign s).2 ∧ ∀ c ∈ sign, c = .scalar '-' ∨ c = .scalar '+' := by
  fun_cases splitSign s
  · exact ⟨[.scalar '-'], rfl, by simp⟩
  · exact ⟨[.scalar '+'], rfl, by simp⟩
  · exact ⟨[], rfl, by simp⟩

theorem intOf_eq (s : Text) :
    intOf s = (readDecimals (splitSign (strip s)).2).bind fun digits =>
      if digits.length ≤ maxStrDigits then
        some ((splitSign (strip s)).1 * digits.foldl (fun n digit => n * 10 + (digit : Int)) 0)
      else none := rfl

/-- `int` reads ASCII digits behind a sign as the number they write, up to its limit. -/
theorem intOf_signed {s : Text} {digits : List Nat} (bare : strip s = s) (nonempty : (splitSign s).2 ≠ [])
    (areDigits : (splitSign s).2.map asciiDigit = digits.map some) :
    intOf s = if digits.length ≤ maxStrDigits then some ((splitSign s).1 * ofDecimals digits) else none := by
  have value := foldl_cast digits 0
  rw [Nat.cast_zero] at value
  rw [intOf_eq, bare, readDecimals_of_ascii nonempty areDigits, Option.bind_some]
  simp only [List.map_eq_map, bind_pure_comp, value]
  rfl

theorem splitSign_of_ascii {part : Text} {digits : List Nat} (areDigits : part.map asciiDigit = digits.map some) :
    splitSign part = (1, part) := by
  fun_cases splitSign part
  · cases digits <;> cases areDigits
  · cases digits <;> cases areDigits
  · rfl

theorem intOf_of_ascii {part : Text} {digits : List Nat} (nonempty : part ≠ [])
    (areDigits : part.map asciiDigit = digits.map some) :
    intOf part = if digits.length ≤ maxStrDigits then some (ofDecimals digits : Int) else none := by
  have unsigned := splitSign_of_ascii areDigits
  have read := @intOf_signed part digits (strip_of_ascii areDigits) (by rwa [unsigned]) (by rwa [unsigned])
  rwa [unsigned, one_mul] at read

theorem octetOf_eq_some {part : Text} {octet : Nat} :
    octetOf part = some octet ↔ ∃ digits, part.map asciiDigit = digits.map some ∧ 1 ≤ digits.length ∧
      digits.length ≤ 3 ∧ (digits.head? = some 0 → digits.length = 1) ∧ ofDecimals digits ≤ 255 ∧
        ofDecimals digits = octet := by
  simp only [octetOf, Option.bind_eq_some_iff, mapM_eq_some_iff, Option.ite_none_right_eq_some, Option.some.injEq, and_assoc]

/-! ## Decimal literals -/

/-- The number of a literal without a sign. -/
def unsignedValue (s : Text) : Option ℚ :=
  match s.splitOn (.scalar '.') with
  | [whole] => if whole = [] then none else (whole.mapM asciiDigit).map fun digits => (ofDecimals digits : ℚ)
  | [whole, fraction] =>
    if whole = [] ∨ fraction = [] then none
    else ((whole ++ fraction).mapM asciiDigit).map fun digits => (ofDecimals digits : ℚ) / 10 ^ fraction.length
  | _ => none

def decimalValue (s : Text) : Option ℚ := (unsignedValue (splitSign s).2).map ((splitSign s).1 * ·)

/-- The literal has neither a fraction nor more digits than the interpreter converts. -/
def integerLiteral (s : Text) : Bool :=
  decide (.scalar '.' ∉ s) && decide ((splitSign s).2.length ≤ maxStrDigits)

/-- The text of a literal without a sign. -/
theorem unsignedValue_eq_some {s : Text} {q : ℚ} (value : unsignedValue s = some q) :
    (s ≠ [] ∧ ∃ digits : List Nat, s.map asciiDigit = digits.map some ∧ q = ofDecimals digits) ∨
      ∃ whole fraction : Text, s = whole ++ .scalar '.' :: fraction ∧ ∃ digits : List Nat,
        (whole ++ fraction).map asciiDigit = digits.map some := by
  have whole_ := @List.intercalate_splitOn _ s _ _ (.scalar '.')
  rw [unsignedValue] at value
  split at value
  · rename_i whole parts
    rw [parts, List.intercalate_singleton] at whole_
    obtain ⟨nonempty, value⟩ := Option.ite_none_left_eq_some.mp value
    obtain ⟨digits, areDigits, rfl⟩ := Option.map_eq_some_iff.mp value
    subst whole_
    exact .inl ⟨nonempty, digits, mapM_eq_some_iff.mp areDigits, rfl⟩
  · rename_i whole fraction parts
    rw [parts, List.intercalate_cons_cons, List.intercalate_singleton] at whole_
    obtain ⟨-, value⟩ := Option.ite_none_left_eq_some.mp value
    obtain ⟨digits, areDigits, -⟩ := Option.map_eq_some_iff.mp value
    refine .inr ⟨whole, fraction, ?_, digits, mapM_eq_some_iff.mp areDigits⟩
    rw [← whole_, List.append_assoc]
    rfl
  · cases value

/-- A text with a character that is no digit, nor an underscore, is no number. -/
theorem readDecimals_eq_none {s : Text} {c : CodePoint} (mem : c ∈ s) (noDigit : c.decimal = none)
    (other : c ≠ .scalar '_') : readDecimals s = none := by
  fun_induction readDecimals s with
  | case1 => simp at mem
  | case2 d =>
    rw [List.mem_singleton] at mem
    rw [← mem, noDigit]
    rfl
  | case3 d rest ih =>
    rcases List.mem_cons.mp mem with rfl | mem
    · rw [noDigit]
      rfl
    · rw [ih ((List.mem_cons.mp mem).resolve_left other)]
      cases d.decimal <;> rfl
  | case4 d rest _ _ ih =>
    rcases List.mem_cons.mp mem with rfl | mem
    · rw [noDigit]
      rfl
    · rw [ih mem]
      cases d.decimal <;> rfl

/-- **Literals as `int` reads them.** -/
theorem intOf_of_literal {s : Text} {q : ℚ} (literal : decimalValue s = some q) :
    (integerLiteral s = true → ∃ n : Int, intOf s = some n ∧ (n : ℚ) = q) ∧
      (integerLiteral s = false → intOf s = none) := by
  obtain ⟨sign, isText, signs⟩ := splitSign_text s
  obtain ⟨v, value, rfl⟩ := Option.map_eq_some_iff.mp literal
  have point : asciiDigit (.scalar '.') = none := by decide
  have bareSign : ∀ c ∈ sign, c.isSpace = false := by
    intro c mem
    rcases signs c mem with rfl | rfl
    · decide
    · decide
  rcases unsignedValue_eq_some value with ⟨nonempty, digits, areDigits, rfl⟩ | ⟨whole, fraction, isWhole, digits, areDigits⟩
  · have bare : strip s = s := by
      refine stripped_of_none fun c mem => ?_
      rw [isText] at mem
      rcases List.mem_append.mp mem with mem | mem
      · exact bareSign c mem
      · obtain ⟨digit, isDigit⟩ := isSome_of_map areDigits mem
        exact not_isSpace_of_asciiDigit isDigit
    have noPoint : .scalar '.' ∉ s := by
      intro mem
      rw [isText] at mem
      rcases List.mem_append.mp mem with mem | mem
      · rcases signs _ mem with same | same
        · exact absurd same (by decide)
        · exact absurd same (by decide)
      · obtain ⟨digit, isDigit⟩ := isSome_of_map areDigits mem
        rw [point] at isDigit
        cases isDigit
    have length : digits.length = (splitSign s).2.length := by
      rw [← @List.length_map _ _ digits some, ← areDigits, List.length_map]
    have read := intOf_signed bare nonempty areDigits
    rw [length] at read
    constructor
    · intro integer
      rw [integerLiteral, Bool.and_eq_true, decide_eq_true_eq, decide_eq_true_eq] at integer
      rw [read, if_pos integer.2]
      exact ⟨_, rfl, by push_cast; rfl⟩
    · intro noInteger
      rw [integerLiteral, decide_eq_true noPoint, Bool.true_and, decide_eq_false_iff_not] at noInteger
      rw [read, if_neg noInteger]
  · have mem : CodePoint.scalar '.' ∈ (splitSign s).2 := by
      rw [isWhole]
      exact List.mem_append_right _ (List.mem_cons_self ..)
    have memText : CodePoint.scalar '.' ∈ s := by
      rw [isText]
      exact List.mem_append_right _ mem
    have bare : strip s = s := by
      refine stripped_of_none fun c mem => ?_
      rw [isText, isWhole] at mem
      simp only [List.mem_append, List.mem_cons] at mem
      rcases mem with mem | mem | rfl | mem
      · exact bareSign c mem
      · obtain ⟨digit, isDigit⟩ := isSome_of_map areDigits (List.mem_append_left _ mem)
        exact not_isSpace_of_asciiDigit isDigit
      · decide
      · obtain ⟨digit, isDigit⟩ := isSome_of_map areDigits (List.mem_append_right _ mem)
        exact not_isSpace_of_asciiDigit isDigit
    have unread : intOf s = none := by
      rw [intOf_eq, bare, readDecimals_eq_none mem (by decide) (by decide)]
      rfl
    constructor
    · intro integer
      rw [integerLiteral, Bool.and_eq_true, decide_eq_true_eq] at integer
      exact absurd memText integer.1
    · intro _
      exact unread

example : decimalValue (text "-12.50") = some (-25 / 2) := by decide +kernel

end LuxSwirl.Py
