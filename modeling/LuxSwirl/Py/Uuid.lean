import LuxSwirl.Py.Builtins
import Mathlib.Algebra.GroupWithZero.Nat
import Mathlib.Data.Fin.Basic
import Mathlib.Data.List.Induction

/-!
# UUIDs as text

`str(uuid)` writes the 32 hexadecimal digits in groups. A reader takes that
text, and also the digits without the groups, in braces, or after `urn:uuid:`.
-/

namespace LuxSwirl.Py

/-- A UUID by its hexadecimal digits. -/
structure Uuid where
  digits : List (Fin 16)
  length_digits : digits.length = 32
  deriving DecidableEq

namespace Uuid

/-- The UUID a row id stands for. -/
def ofId (id : Nat) : Uuid where
  digits := (List.range 32).reverse.map fun place => Fin.ofNat 16 (id / 16 ^ place)
  length_digits := by simp

/-- `int(uuid)` -/
def number (uuid : Uuid) : Nat := uuid.digits.foldl (fun n digit => n * 16 + digit.val) 0

/-- The last hexadecimal digit of `n`. -/
def lastDigit (n : Nat) : Fin 16 := Fin.ofNat 16 n

def hexDigit (digit : Fin 16) : CodePoint := .scalar (Nat.digitChar digit)

def groups : List Nat := [8, 4, 4, 4, 12]

def writeGroups : List Nat → List (Fin 16) → Text
  | [], _ => []
  | [size], digits => (digits.take size).map hexDigit
  | size :: rest, digits =>
    (digits.take size).map hexDigit ++ .scalar '-' :: writeGroups rest (digits.drop size)

/-- `str(uuid)` -/
def str (uuid : Uuid) : Text := writeGroups groups uuid.digits

def readDigit : CodePoint → Option (Fin 16)
  | .scalar c =>
    if '0' ≤ c ∧ c ≤ '9' then some (Fin.ofNat 16 (c.toNat - '0'.toNat))
    else if 'a' ≤ c ∧ c ≤ 'f' then some (Fin.ofNat 16 (c.toNat - 'a'.toNat + 10))
    else if 'A' ≤ c ∧ c ≤ 'F' then some (Fin.ofNat 16 (c.toNat - 'A'.toNat + 10))
    else none
  | _ => none

/-- The digits of a text with nothing else in it. -/
def readDigits : Text → Option (List (Fin 16))
  | [] => some []
  | c :: rest => do return (← readDigit c) :: (← readDigits rest)

def readGroups : List Nat → Text → Option (List (Fin 16))
  | [], _ => none
  | [_], s => readDigits s
  | size :: rest, s =>
    if (s.drop size).head? = some (.scalar '-') then do
      return (← readDigits (s.take size)) ++ (← readGroups rest (s.drop (size + 1)))
    else none

/-- The text between the ends of `s`, when it has these ends. -/
def inside (front back s : Text) : Option Text :=
  if front.isPrefixOf s ∧ back.isSuffixOf s then
    some ((s.drop front.length).take (s.length - front.length - back.length))
  else none

def readPlain (s : Text) : Option (List (Fin 16)) :=
  if s.length = 36 then readGroups groups s else if s.length = 32 then readDigits s else none

/-- The UUID a text names. -/
def read (s : Text) : Option Uuid :=
  let digits := (readPlain s).orElse fun _ =>
    ((inside (text "\x7b") (text "\x7d") s).orElse fun _ => inside (text "urn:uuid:") [] s).bind
      (readGroups groups)
  digits.bind fun digits =>
    if length_digits : digits.length = 32 then some ⟨digits, length_digits⟩ else none

/-! ## The constructor -/

/-- `s.replace(word, "")`; `skip` is what is left of a word that was found. -/
def removeAll (word : Text) : Nat → Text → Text
  | _, [] => []
  | skip + 1, _ :: rest => removeAll word skip rest
  | 0, c :: rest =>
    if word.isPrefixOf (c :: rest) then removeAll word (word.length - 1) rest
    else c :: removeAll word 0 rest

/-- A decimal digit of any script as that of ASCII. -/
def asciiDecimal (c : CodePoint) : CodePoint :=
  match c.decimal with
  | some digit => .scalar (Nat.digitChar digit)
  | none => c

/-- Hexadecimal digits, with single underscores between them. -/
def readHex : Text → Option (List (Fin 16))
  | [] => none
  | [c] => (readDigit c).map ([·])
  | c :: .scalar '_' :: rest =>
    (readDigit c).bind fun digit => (readHex rest).map (digit :: ·)
  | c :: rest => (readDigit c).bind fun digit => (readHex rest).map (digit :: ·)

/-- What follows the prefix of a hexadecimal number; an underscore may end it. -/
def withoutPrefix : Text → Text
  | .scalar '0' :: .scalar 'x' :: .scalar '_' :: rest => rest
  | .scalar '0' :: .scalar 'X' :: .scalar '_' :: rest => rest
  | .scalar '0' :: .scalar 'x' :: rest => rest
  | .scalar '0' :: .scalar 'X' :: rest => rest
  | s => s

/-- `int(s, 16)` of a text with no hyphen, or none for a `ValueError`. -/
def intOfHex (s : Text) : Option Nat :=
  let unsigned := match (strip s).map asciiDecimal with
    | .scalar '+' :: rest => rest
    | rest => rest
  (readHex (withoutPrefix unsigned)).map fun digits => digits.foldl (fun n digit => n * 16 + digit.val) 0

/-- The number of `UUID(s)`, or none for a `ValueError`. -/
def ofText (s : Text) : Option Nat :=
  let bare := removeAll (text "uuid:") 0 (removeAll (text "urn:") 0 s)
  let braces : CodePoint → Bool := fun c => decide (c ∈ text "\x7b\x7d")
  let hex := removeAll (text "-") 0 (stripped braces bare)
  if hex.length = 32 then intOfHex hex else none

example : ofText (text "00000000-0000-0000-0000-0000000000ff") = some 255 := by decide

example : ofText (text "00000000-0000-0000-0000-0000000000f") = none := by decide

/-! ## Reading what was written -/

theorem readDigit_hexDigit (digit : Fin 16) : readDigit (hexDigit digit) = some digit := by
  revert digit
  decide

theorem readDigits_map (digits : List (Fin 16)) :
    readDigits (digits.map hexDigit) = some digits := by
  induction digits with
  | nil => rfl
  | cons digit rest ih => simp [readDigits, readDigit_hexDigit, ih]

/-- Behind the first group there are digits for the others. -/
theorem length_drop_group {size : Nat} {sizes : List Nat} {digits : List (Fin 16)}
    (takesUp : digits.length = (size :: sizes).sum) : (digits.drop size).length = sizes.sum := by
  rw [List.length_drop, takesUp, List.sum_cons, Nat.add_sub_cancel_left]

/-- Groups that take up the digits are read as they were written. -/
theorem readGroups_writeGroups {sizes : List Nat} {digits : List (Fin 16)} (some_size : sizes ≠ [])
    (takesUp : digits.length = sizes.sum) : readGroups sizes (writeGroups sizes digits) = some digits := by
  induction sizes generalizing digits with
  | nil => exact absurd rfl some_size
  | cons size rest ih =>
    cases rest with
    | nil =>
      have whole : digits.take size = digits := List.take_of_length_le (by simp [takesUp])
      simp only [writeGroups, readGroups, whole, readDigits_map]
    | cons next rest =>
      have front : ((digits.take size).map hexDigit).length = size := by
        simp only [List.sum_cons] at takesUp
        simp only [List.length_map, List.length_take]
        omega
      have back := length_drop_group takesUp
      have dropped : ((digits.take size).map hexDigit ++ .scalar '-' ::
          writeGroups (next :: rest) (digits.drop size)).drop (size + 1) =
            writeGroups (next :: rest) (digits.drop size) := by
        rw [← List.drop_drop, List.drop_left' front]
        rfl
      rw [writeGroups, readGroups, List.drop_left' front, List.take_left' front, dropped,
        readDigits_map, ih (by simp) back]
      · simp
      · simp
      · simp

theorem length_writeGroups {sizes : List Nat} {digits : List (Fin 16)} (some_size : sizes ≠ [])
    (takesUp : digits.length = sizes.sum) :
    (writeGroups sizes digits).length + 1 = digits.length + sizes.length := by
  induction sizes generalizing digits with
  | nil => exact absurd rfl some_size
  | cons size rest ih =>
    cases rest with
    | nil =>
      simp only [List.sum_cons, List.sum_nil, Nat.add_zero] at takesUp
      simp [writeGroups, takesUp]
    | cons next rest =>
      have back := length_drop_group takesUp
      have written := ih (by simp) back
      simp only [List.length_drop, List.length_cons] at written
      rw [writeGroups]
      · simp only [List.sum_cons] at takesUp
        simp only [List.length_append, List.length_map, List.length_take, List.length_cons]
        omega
      · simp

theorem length_str (uuid : Uuid) : uuid.str.length = 36 := by
  have takesUp : uuid.digits.length = groups.sum := uuid.length_digits
  have written := length_writeGroups (by decide) takesUp
  rw [uuid.length_digits] at written
  exact Nat.succ.inj written

/-- **Round trip.** A UUID is read from its text. -/
theorem read_str (uuid : Uuid) : read uuid.str = some uuid := by
  have plain : readPlain uuid.str = some uuid.digits := by
    rw [readPlain, if_pos uuid.length_str]
    have takesUp : uuid.digits.length = groups.sum := uuid.length_digits
    exact readGroups_writeGroups (by decide) takesUp
  simp [read, plain, uuid.length_digits]

/-! ## The constructor reads the text -/

theorem number_append (digits : List (Fin 16)) (digit : Fin 16) :
    (digits ++ [digit]).foldl (fun n digit => n * 16 + digit.val) 0 =
      digits.foldl (fun n digit => n * 16 + digit.val) 0 * 16 + digit.val := by
  rw [List.foldl_append]
  rfl

/-- The digits of a number, from the first one on. -/
theorem digits_of_number (digits : List (Fin 16)) :
    (List.range digits.length).reverse.map (fun place =>
      Fin.ofNat 16 (digits.foldl (fun n digit => n * 16 + digit.val) 0 / 16 ^ place)) = digits := by
  induction digits using List.reverseRecOn with
  | nil => rfl
  | append_singleton digits digit ih =>
    have last : Fin.ofNat 16 (digits.foldl (fun n digit => n * 16 + digit.val) 0 * 16 + digit.val) = digit := by
      ext
      rw [Fin.val_ofNat]
      omega
    have others (place : Nat) : (digits.foldl (fun n digit => n * 16 + digit.val) 0 * 16 + digit.val) /
        16 ^ (place + 1) = digits.foldl (fun n digit => n * 16 + digit.val) 0 / 16 ^ place := by
      rw [Nat.pow_succ', ← Nat.div_div_eq_div_mul]
      congr 1
      omega
    rw [List.length_append, List.length_singleton, List.range_succ_eq_map, number_append, List.reverse_cons,
      List.map_append, ← List.map_reverse, List.map_map]
    simp only [Function.comp_def, Nat.succ_eq_add_one, others, ih, List.map_cons, List.map_nil, Nat.pow_zero, Nat.div_one, last]

/-- A UUID is that of its number. -/
theorem ofId_number (uuid : Uuid) : ofId uuid.number = uuid := by
  obtain ⟨digits, isLength⟩ := uuid
  have same := digits_of_number digits
  rw [isLength] at same
  exact Uuid.mk.injEq .. ▸ same

theorem removeAll_singleton (c : CodePoint) (s : Text) : removeAll [c] 0 s = s.filter (fun d => decide (d ≠ c)) := by
  induction s with
  | nil => rfl
  | cons d rest ih =>
    by_cases same : d = c
    · subst same
      simp [removeAll, ih]
    · have other : ¬ c = d := fun isSame => same isSame.symm
      simp [removeAll, ih, same, other]

theorem removeAll_of_not_mem {first : CodePoint} {word s : Text} (absent : first ∉ s) :
    removeAll (first :: word) 0 s = s := by
  induction s with
  | nil => rfl
  | cons c rest ih =>
    obtain ⟨other, absent⟩ : first ≠ c ∧ first ∉ rest := by simpa using absent
    simp [removeAll, other, ih absent]

/-- The characters of a UUID's text. -/
theorem mem_writeGroups {sizes : List Nat} {digits : List (Fin 16)} {c : CodePoint}
    (mem : c ∈ writeGroups sizes digits) : c = .scalar '-' ∨ ∃ digit, c = hexDigit digit := by
  induction sizes generalizing digits with
  | nil => cases mem
  | cons size rest ih =>
    have ofDigits {taken : List (Fin 16)} (isDigit : c ∈ taken.map hexDigit) : ∃ digit, c = hexDigit digit := by
      obtain ⟨digit, -, rfl⟩ := List.mem_map.mp isDigit
      exact ⟨digit, rfl⟩
    cases rest with
    | nil => exact .inr (ofDigits mem)
    | cons next rest =>
      rw [writeGroups] at mem
      · rcases List.mem_append.mp mem with isDigit | later
        · exact .inr (ofDigits isDigit)
        · rcases List.mem_cons.mp later with isHyphen | later
          · exact .inl isHyphen
          · exact ih later
      · simp

theorem hexDigit_ne {digit : Fin 16} {c : Char} (other : c ∉ "0123456789abcdef".toList) :
    hexDigit digit ≠ .scalar c := by
  intro same
  have within : ∀ digit : Fin 16, Nat.digitChar digit ∈ "0123456789abcdef".toList := by decide
  exact other (CodePoint.scalar.inj same ▸ within digit)

/-- Without its hyphens. -/
theorem filter_writeGroups {sizes : List Nat} {digits : List (Fin 16)} (some_size : sizes ≠ [])
    (takesUp : digits.length = sizes.sum) :
    (writeGroups sizes digits).filter (fun c => decide (c ≠ .scalar '-')) = digits.map hexDigit := by
  have kept (taken : List (Fin 16)) :
      (taken.map hexDigit).filter (fun c => decide (c ≠ .scalar '-')) = taken.map hexDigit := by
    rw [List.filter_eq_self]
    intro c mem
    obtain ⟨digit, -, rfl⟩ := List.mem_map.mp mem
    exact decide_eq_true (hexDigit_ne (by decide))
  induction sizes generalizing digits with
  | nil => exact absurd rfl some_size
  | cons size rest ih =>
    cases rest with
    | nil =>
      have whole : digits.take size = digits := List.take_of_length_le (by simp [takesUp])
      rw [writeGroups, whole, kept]
    | cons next rest =>
      have back := length_drop_group takesUp
      rw [writeGroups, List.filter_append, kept, List.filter_cons_of_neg (by simp), ih (by simp) back,
        ← List.map_append, List.take_append_drop]
      simp

theorem readHex_map (digits : List (Fin 16)) (some_digit : digits ≠ []) :
    readHex (digits.map hexDigit) = some digits := by
  induction digits with
  | nil => exact absurd rfl some_digit
  | cons digit rest ih =>
    cases rest with
    | nil => simp [readHex, readDigit_hexDigit]
    | cons next rest =>
      have plain : hexDigit next ≠ .scalar '_' := hexDigit_ne (by decide)
      have read := ih (by simp)
      rw [List.map_cons] at read
      rw [List.map_cons, List.map_cons, readHex, readDigit_hexDigit, Option.bind_some, read]
      · rfl
      · simp
      · exact fun _ same => plain (List.cons.inj same).1


/-- The prefix of a hexadecimal number has a letter that is no digit. -/
theorem withoutPrefix_eq {s : Text} (plain : ∀ c ∈ s, c ≠ .scalar 'x' ∧ c ≠ .scalar 'X') :
    withoutPrefix s = s := by
  unfold withoutPrefix
  split
  · exact absurd rfl (plain (.scalar 'x') (by simp)).1
  · exact absurd rfl (plain (.scalar 'X') (by simp)).2
  · exact absurd rfl (plain (.scalar 'x') (by simp)).1
  · exact absurd rfl (plain (.scalar 'X') (by simp)).2
  · rfl

theorem intOfHex_map {digits : List (Fin 16)} (some_digit : digits ≠ []) :
    intOfHex (digits.map hexDigit) = some (digits.foldl (fun n digit => n * 16 + digit.val) 0) := by
  have spaces : ∀ digit : Fin 16, CodePoint.isSpace (hexDigit digit) = false := by decide
  have decimals : ∀ digit : Fin 16, asciiDecimal (hexDigit digit) = hexDigit digit := by decide +kernel
  have bare : (strip (digits.map hexDigit)).map asciiDecimal = digits.map hexDigit := by
    rw [strip, stripped_of_none, List.map_map]
    · exact List.map_congr_left fun digit _ => decimals digit
    · intro c mem
      obtain ⟨digit, -, rfl⟩ := List.mem_map.mp mem
      exact spaces digit
  have plain : withoutPrefix (digits.map hexDigit) = digits.map hexDigit := by
    refine withoutPrefix_eq fun c mem => ?_
    obtain ⟨digit, -, rfl⟩ := List.mem_map.mp mem
    exact ⟨hexDigit_ne (by decide), hexDigit_ne (by decide)⟩
  rw [intOfHex, bare]
  cases digits with
  | nil => exact absurd rfl some_digit
  | cons digit rest =>
    have unsigned : hexDigit digit ≠ .scalar '+' := hexDigit_ne (by decide)
    split
    · rename_i isSigned
      exact absurd (List.cons.inj isSigned).1 unsigned
    · rw [plain, readHex_map _ some_digit, Option.map_some]

/-- **Round trip.** The constructor reads the text of a UUID. -/
theorem ofText_str (uuid : Uuid) : ofText uuid.str = some uuid.number := by
  have takesUp : uuid.digits.length = groups.sum := uuid.length_digits
  have letters {c : Char} (other : c ∉ "0123456789abcdef-".toList) : .scalar c ∉ uuid.str := by
    intro mem
    obtain isHyphen | ⟨digit, isDigit⟩ := mem_writeGroups mem
    · exact other (CodePoint.scalar.inj isHyphen ▸ by decide)
    · exact hexDigit_ne (fun within => other (List.mem_append_left _ within)) isDigit.symm
  have digits : ∀ digit : Fin 16, decide (hexDigit digit ∈ text "\x7b\x7d") = false := by decide
  have braces : ∀ c ∈ uuid.str, decide (c ∈ text "\x7b\x7d") = false := by
    intro c mem
    obtain rfl | ⟨digit, rfl⟩ := mem_writeGroups mem
    · decide
    · exact digits digit
  have urn : removeAll (text "urn:") 0 uuid.str = uuid.str := removeAll_of_not_mem (letters (by decide))
  have prefixed : removeAll (text "uuid:") 0 uuid.str = uuid.str := removeAll_of_not_mem (letters (by decide))
  have hyphens : removeAll (text "-") 0 uuid.str = uuid.digits.map hexDigit :=
    (removeAll_singleton _ _).trans (filter_writeGroups (by decide) takesUp)
  rw [ofText, urn, prefixed, stripped_of_none braces, hyphens, List.length_map, if_pos uuid.length_digits, intOfHex_map]
  · rfl
  · rintro empty
    have length := uuid.length_digits
    rw [empty] at length
    cases length

end Uuid

end LuxSwirl.Py
