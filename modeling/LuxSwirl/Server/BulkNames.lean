import LuxSwirl.Lib.FreshName
import LuxSwirl.Py.Builtins

/-!
# Names of imported checks

`_check_bulk_names.py` and the loop of `bulk_create_checks`: a name an agent's check has
already is numbered, by numbers each base name counts for itself. A suffix is fitted
into 255 characters by cutting the base, so candidates of different bases can be the
same, and a base can be a candidate of its own.

Two candidates of one base are never the same (`numberedName_injective`), so the loop
ends, on a name that is not taken: `unusedName_unused`.
-/

namespace LuxSwirl.Server
open LuxSwirl.Py LuxSwirl.Lib

/-! ## Names asked for -/

/-- What `urlparse` reads of the masked URL; it gives no port when that is no number. -/
structure MaskedUrl where
  hostname : Option Text
  path : Text
  port : Option (Option Nat)

/-- `s.replace(old, new)` of two characters. -/
def replaceChar (old new : Char) (s : Text) : Text :=
  s.map fun c => if c = .scalar old then .scalar new else c

/-- `value or default` of a text. -/
def orText (value : Option Text) (default : Text) : Text :=
  match value with
  | none | some [] => default
  | some s => s

/-- `bulk_display_name`, of the masked URL if it parses. -/
def bulkDisplayName : Option MaskedUrl → Except Text Text
  | none => .error (text "The URL could not be parsed")
  | some masked =>
    let hostname := orText masked.hostname (text "unknown")
    let displayName := replaceChar '.' '-' hostname
    let displayName :=
      if masked.path ≠ [] ∧ masked.path ≠ text "/" then
        displayName ++ text "-" ++
          replaceChar '/' '-' (stripped (fun c => decide (c = .scalar '/')) masked.path)
      else displayName
    match masked.port with
    | none => .error (text "The URL has no valid port")
    | some port =>
      let displayName := match port with
        | none => displayName
        | some port =>
          if port ≠ 0 ∧ port ∉ [80, 443] then displayName ++ text "-" ++ strOfNat port else displayName
      .ok (sliceTo 255 displayName)

/-- A request as validated: a name it gives has at most 255 characters. -/
structure BulkCheckCreateRequest where
  displayName : Option Text
  bounded : ∀ name, displayName = some name → name.length ≤ 255

/-- `req.display_name or bulk_display_name(parsed)` -/
def BulkCheckCreateRequest.name (req : BulkCheckCreateRequest) (masked : Option MaskedUrl) : Except Text Text :=
  match req.displayName with
  | none | some [] => bulkDisplayName masked
  | some name => .ok name

/-! ## Names given -/

/-- `_NUMBERED.sub("", name)`: a number of one to six digits is taken off the end. -/
def subNumbered (name : Text) : Text :=
  match name.reverse with
  | .scalar ')' :: back =>
    let digits := back.takeWhile fun c => c.decimal.isSome
    match back.drop digits.length with
    | .scalar '(' :: .scalar ' ' :: front =>
      if 1 ≤ digits.length ∧ digits.length ≤ 6 then front.reverse else name
    | _ => name
  | _ => name

/-- `f" ({number})"`; that `str` refuses a number of more than 4300 digits is left out. -/
def suffix (number : Nat) : Text := text " (" ++ strOfNat number ++ text ")"

/-- `f"{base[: 255 - len(suffix)]}{suffix}"` -/
def numberedName (base : Text) (number : Nat) : Text :=
  sliceTo (255 - (suffix number).length) base ++ suffix number

/-- `while unused in taken`, with the number it ends at. -/
def whileTaken (base : Text) (taken : List Text) : Nat → Text → Nat → Option (Text × Nat)
  | 0, _, _ => none
  | fuel + 1, unused, number =>
    if unused ∈ taken then whileTaken base taken fuel (numberedName base (number + 1)) (number + 1)
    else some (unused, number)

/-- `numbers.get(base, 1)` -/
def lastNumber (base : Text) (numbers : List (Text × Nat)) : Nat := (Fields.get? base numbers).getD 1

/-- `unused_name`, with `numbers` as it leaves them; none while it loops. -/
def unusedName (fuel : Nat) (name : Text) (taken : List Text) (numbers : List (Text × Nat)) :
    Option (Text × List (Text × Nat)) :=
  if name ∉ taken then some (name, numbers)
  else
    let base := subNumbered name
    (whileTaken base taken fuel base (lastNumber base numbers)).map fun (unused, number) =>
      (unused, Fields.set base number numbers)

/-- One turn of the loop of `bulk_create_checks`: the name asked for, unless the URL
raises first, and whether the check is created under the name it gets. -/
structure BulkTurn where
  name : Option Text
  created : Bool

def BulkCheckCreateRequest.turn (req : BulkCheckCreateRequest) (classified : Bool) (masked : Option MaskedUrl)
    (created : Bool) : BulkTurn where
  name := if classified then (req.name masked).toOption else none
  created := created

/-- The names of the checks `bulk_create_checks` creates, one for each request that succeeds. -/
def bulkCreateChecks (fuel : Nat) : List BulkTurn → List Text → List (Text × Nat) → Option (List (Option Text))
  | [], _, _ => some []
  | turn :: rest, taken, numbers =>
    match turn.name with
    | none => (bulkCreateChecks fuel rest taken numbers).map (none :: ·)
    | some name =>
      (unusedName fuel name taken numbers).bind fun (displayName, numbers) =>
        if turn.created then
          (bulkCreateChecks fuel rest (displayName :: taken) numbers).map (some displayName :: ·)
        else (bulkCreateChecks fuel rest taken numbers).map (none :: ·)

/-! ## Numbers on names -/

theorem subNumbered_append {base digits : Text} (decimal : ∀ c ∈ digits, c.decimal.isSome = true)
    (some : 1 ≤ digits.length) (few : digits.length ≤ 6) :
    subNumbered (base ++ (text " (" ++ digits ++ text ")")) = base := by
  have back : (base ++ (text " (" ++ digits ++ text ")")).reverse =
      .scalar ')' :: (digits.reverse ++ .scalar '(' :: .scalar ' ' :: base.reverse) := by
    simp [text]
  have isTaken : (digits.reverse ++ .scalar '(' :: .scalar ' ' :: base.reverse).takeWhile
      (fun c => c.decimal.isSome) = digits.reverse := by
    rw [List.takeWhile_append_of_pos fun c mem => decimal c (List.mem_reverse.mp mem),
      List.takeWhile_cons_of_neg (by decide), List.append_nil]
  unfold subNumbered
  rw [back]
  simp only [isTaken, List.drop_left]
  rw [if_pos ⟨by rwa [List.length_reverse], by rwa [List.length_reverse]⟩, List.reverse_reverse]

theorem length_subNumbered_le (name : Text) : (subNumbered name).length ≤ name.length := by
  unfold subNumbered
  split
  next back isBack =>
    have length := congrArg List.length isBack
    rw [List.length_reverse, List.length_cons] at length
    dsimp only
    split
    next front isFront =>
      have shorter := congrArg List.length isFront
      simp only [List.length_drop, List.length_cons] at shorter
      split_ifs
      · rw [List.length_reverse]
        omega
      · exact Nat.le_refl _
    · exact Nat.le_refl _
  · exact Nat.le_refl _

theorem length_suffix (number : Nat) : (suffix number).length = (strOfNat number).length + 3 := by
  simp only [suffix, text, List.length_append, List.length_map]
  have two : " (".toList.length = 2 := by decide
  have one : ")".toList.length = 1 := by decide
  omega

/-- The digits between the last bracket and its partner. -/
theorem digits_numberedName (base : Text) (number : Nat) :
    ((numberedName base number).reverse.drop 1).takeWhile (fun c => decide (c ≠ .scalar '(')) =
      (strOfNat number).reverse := by
  have back : (numberedName base number).reverse.drop 1 =
      (strOfNat number).reverse ++ .scalar '(' :: .scalar ' ' ::
        (sliceTo (255 - (suffix number).length) base).reverse := by
    simp [numberedName, suffix, text]
  have digits : ∀ c ∈ (strOfNat number).reverse, decide (c ≠ .scalar '(') = true := by
    intro c mem
    obtain ⟨digit, rfl, isDigit⟩ := digit_of_mem_strOfNat (List.mem_reverse.mp mem)
    refine decide_eq_true fun same => ?_
    rw [CodePoint.scalar.inj same] at isDigit
    exact absurd isDigit (by decide)
  rw [back, List.takeWhile_append_of_pos digits, List.takeWhile_cons_of_neg (by decide), List.append_nil]

theorem numberedName_injective (base : Text) : Function.Injective (numberedName base) := by
  intro m n same
  have digits := digits_numberedName base m
  rw [same, digits_numberedName base n] at digits
  exact strOfNat_injective (List.reverse_inj.mp digits.symm)

/-- One of the numbers after any is free, within as many tries as there are names. -/
theorem exists_free_number (base : Text) (start : Nat) (names : List Text) :
    ∃ tries ≤ names.length, numberedName base (start + tries + 1) ∉ names := by
  have apart : Function.Injective fun tries => numberedName base (start + tries + 1) := by
    intro m n same
    have numbers := numberedName_injective _ same
    omega
  exact exists_free apart names

/-- **Names stay single numbered.** A number put on a name is taken off as a whole. -/
theorem subNumbered_numberedName (base : Text) {number : Nat} (few : number < 10 ^ 6) :
    subNumbered (numberedName base number) = sliceTo (255 - (suffix number).length) base := by
  have short : (strOfNat number).length ≤ 6 := (length_strOfNat_le_iff (by decide)).mpr few
  refine subNumbered_append ?_ (length_strOfNat_pos number) short
  intro c mem
  obtain ⟨digit, rfl, isDigit⟩ := digit_of_mem_strOfNat mem
  exact decimal_of_isDigit isDigit

/-- A name a check can have. -/
def NameFits (name : Text) : Prop := name ≠ [] ∧ name.length ≤ 255

theorem numberedName_ne_nil (base : Text) (number : Nat) : numberedName base number ≠ [] := by
  intro isEmpty
  have length := congrArg List.length isEmpty
  rw [numberedName, List.length_append, length_suffix, List.length_nil] at length
  omega

/-- A suffix leaves room for itself as long as its number has at most 252 digits. -/
theorem length_numberedName_le_iff (base : Text) (number : Nat) :
    (numberedName base number).length ≤ 255 ↔ number < 10 ^ 252 := by
  rw [← length_strOfNat_le_iff (by decide : 0 < 252), numberedName, List.length_append, length_suffix]
  constructor
  · intro short
    omega
  · intro short
    have room : (255 - ((strOfNat number).length + 3 : Nat) : Int) = ((255 - ((strOfNat number).length + 3) : Nat) : Int) := by
      omega
    rw [room, length_sliceTo]
    omega

theorem nameFits_numberedName_iff (base : Text) (number : Nat) : NameFits (numberedName base number) ↔ number < 10 ^ 252 := by
  rw [← length_numberedName_le_iff base number]
  exact and_iff_right (numberedName_ne_nil base number)

/-! ## The loop -/

section Loop

variable {base unused : Text} {taken : List Text} {number fuel : Nat}

theorem whileTaken_of_free (free : unused ∉ taken) (enough : 0 < fuel) :
    whileTaken base taken fuel unused number = some (unused, number) := by
  obtain ⟨fuel, rfl⟩ := Nat.exists_eq_succ_of_ne_zero enough.ne'
  exact if_neg free

theorem whileTaken_of_taken (isTaken : unused ∈ taken) (enough : 0 < fuel) :
    whileTaken base taken fuel unused number =
      whileTaken base taken (fuel - 1) (numberedName base (number + 1)) (number + 1) := by
  obtain ⟨fuel, rfl⟩ := Nat.exists_eq_succ_of_ne_zero enough.ne'
  exact if_pos isTaken

/-- The loop ends by the first free candidate: on the name it began with, or on a
candidate all those before which are taken. -/
theorem whileTaken_ends (base : Text) (taken : List Text) (tries : Nat) (unused : Text) (number : Nat)
    (free : numberedName base (number + tries + 1) ∉ taken) :
    ∃ given last, (∀ fuel ≥ tries + 2, whileTaken base taken fuel unused number = some (given, last)) ∧
      given ∉ taken ∧
      (given = unused ∧ last = number ∨
        unused ∈ taken ∧ given = numberedName base last ∧ number < last ∧
          ∀ k, number < k → k < last → numberedName base k ∈ taken) := by
  induction tries generalizing unused number with
  | zero =>
    by_cases isTaken : unused ∈ taken
    · refine ⟨_, number + 1, ?_, free, .inr ⟨isTaken, rfl, Nat.lt_succ_self _, ?_⟩⟩
      · intro fuel enough
        rw [whileTaken_of_taken isTaken (by omega), whileTaken_of_free free (by omega)]
      · intro k above below
        omega
    · exact ⟨unused, number, fun fuel enough => whileTaken_of_free isTaken (by omega), isTaken, .inl ⟨rfl, rfl⟩⟩
  | succ tries ih =>
    by_cases isTaken : unused ∈ taken
    · have later : numberedName base (number + 1 + tries + 1) ∉ taken := by
        rwa [show number + 1 + tries + 1 = number + (tries + 1) + 1 by omega]
      obtain ⟨given, last, ends, isFree, cases⟩ := ih (numberedName base (number + 1)) (number + 1) later
      refine ⟨given, last, ?_, isFree, .inr ⟨isTaken, ?_⟩⟩
      · intro fuel enough
        rw [whileTaken_of_taken isTaken (by omega)]
        exact ends _ (by omega)
      · rcases cases with ⟨isFirst, isNext⟩ | ⟨firstTaken, isCandidate, above, between⟩
        · subst isNext
          exact ⟨isFirst, Nat.lt_succ_self number, fun k above below => by omega⟩
        · refine ⟨isCandidate, by omega, fun k low high => ?_⟩
          by_cases first : k = number + 1
          · rwa [first]
          · exact between k (by omega) high
    · exact ⟨unused, number, fun fuel enough => whileTaken_of_free isTaken (by omega), isTaken, .inl ⟨rfl, rfl⟩⟩

end Loop

/-- What `unused_name` gives, and the numbers after it. -/
inductive Unused (name : Text) (taken : List Text) (numbers : List (Text × Nat)) : Text → List (Text × Nat) → Prop
  | kept (free : name ∉ taken) : Unused name taken numbers name numbers
  | base (isTaken : name ∈ taken) (free : subNumbered name ∉ taken) :
      Unused name taken numbers (subNumbered name)
        (Fields.set (subNumbered name) (lastNumber (subNumbered name) numbers) numbers)
  | numbered (number : Nat) (isTaken : name ∈ taken) (baseTaken : subNumbered name ∈ taken)
      (later : lastNumber (subNumbered name) numbers < number)
      (between : ∀ k, lastNumber (subNumbered name) numbers < k → k < number →
        numberedName (subNumbered name) k ∈ taken)
      (free : numberedName (subNumbered name) number ∉ taken) :
      Unused name taken numbers (numberedName (subNumbered name) number) (Fields.set (subNumbered name) number numbers)

section Call

variable {name given : Text} {taken : List Text} {numbers after : List (Text × Nat)}

theorem Unused.not_mem (unused : Unused name taken numbers given after) : given ∉ taken := by
  cases unused with
  | kept free => exact free
  | base isTaken free => exact free
  | numbered number isTaken baseTaken later between free => exact free

/-- **The loop ends.** A call tests no more names than are taken, and two. -/
theorem unusedName_unused (name : Text) (taken : List Text) (numbers : List (Text × Nat)) :
    ∃ given after, (∀ fuel ≥ taken.length + 2, unusedName fuel name taken numbers = some (given, after)) ∧
      Unused name taken numbers given after := by
  by_cases isTaken : name ∈ taken
  · obtain ⟨tries, few, free⟩ := exists_free_number (subNumbered name) (lastNumber (subNumbered name) numbers) taken
    obtain ⟨given, last, ends, isFree, cases⟩ := whileTaken_ends (subNumbered name) taken tries (subNumbered name) _ free
    refine ⟨given, Fields.set (subNumbered name) last numbers, ?_, ?_⟩
    · intro fuel enough
      rw [unusedName, if_neg (not_not.mpr isTaken)]
      dsimp only
      rw [ends fuel (by omega)]
      rfl
    · rcases cases with ⟨isBase, isLast⟩ | ⟨baseTaken, isCandidate, later, between⟩
      · rw [isBase] at isFree ⊢
        rw [isLast]
        exact .base isTaken isFree
      · rw [isCandidate] at isFree ⊢
        exact .numbered last isTaken baseTaken later between isFree
  · exact ⟨name, numbers, fun fuel _ => if_pos isTaken, .kept isTaken⟩

/-- A name given fits when no suffix was put on it and it did, or when a number of at most
252 digits is left for the suffix. -/
theorem Unused.fits (unused : Unused name taken numbers given after) (whole : name ∉ taken → NameFits name)
    (stripped : name ∈ taken → subNumbered name ∉ taken → NameFits (subNumbered name))
    (room : name ∈ taken → subNumbered name ∈ taken → ∃ k, lastNumber (subNumbered name) numbers < k ∧
      k < 10 ^ 252 ∧ numberedName (subNumbered name) k ∉ taken) : NameFits given := by
  cases unused with
  | kept free => exact whole free
  | base isTaken free => exact stripped isTaken free
  | numbered number isTaken baseTaken later between free =>
    obtain ⟨k, above, small, isFree⟩ := room isTaken baseTaken
    have first : number ≤ k := by
      by_contra before
      exact isFree (between k above (Nat.lt_of_not_le before))
    exact (nameFits_numberedName_iff _ number).mpr (Nat.lt_of_le_of_lt first small)

/-! ## The numbers -/

/-- No number is counted for a base without its name having been seen. -/
def Counted (seen : List Text) (numbers : List (Text × Nat)) : Prop :=
  ∀ base k, 1 < k → k ≤ lastNumber base numbers → numberedName base k ∈ seen

theorem counted_nil (seen : List Text) : Counted seen [] := by
  intro base k above below
  have none : lastNumber base [] = 1 := rfl
  omega

theorem lastNumber_set (base other : Text) (number : Nat) (numbers : List (Text × Nat)) :
    lastNumber other (Fields.set base number numbers) = if base = other then number else lastNumber other numbers := by
  rw [lastNumber, Fields.get?_set]
  split_ifs
  · rfl
  · rfl

/-- The numbers of a base never go back. -/
theorem Unused.lastNumber_le (unused : Unused name taken numbers given after) (base : Text) :
    lastNumber base numbers ≤ lastNumber base after := by
  cases unused with
  | kept free => exact Nat.le_refl _
  | base isTaken free =>
    rw [lastNumber_set]
    split_ifs with same
    · rw [same]
    · exact Nat.le_refl _
  | numbered number isTaken baseTaken later between free =>
    rw [lastNumber_set]
    split_ifs with same
    · rw [← same]
      exact later.le
    · exact Nat.le_refl _

theorem Unused.counted {seen : List Text} (unused : Unused name taken numbers given after) (within : taken ⊆ seen)
    (counted : Counted seen numbers) : Counted (given :: seen) after := by
  intro base k above below
  cases unused with
  | kept free => exact List.mem_cons_of_mem _ (counted base k above below)
  | base isTaken free =>
    rw [lastNumber_set] at below
    split_ifs at below with same
    · rw [same] at below
      exact List.mem_cons_of_mem _ (counted base k above below)
    · exact List.mem_cons_of_mem _ (counted base k above below)
  | numbered number isTaken baseTaken later between free =>
    rw [lastNumber_set] at below
    split_ifs at below with same
    · subst same
      by_cases old : k ≤ lastNumber (subNumbered name) numbers
      · exact List.mem_cons_of_mem _ (counted _ k above old)
      · rcases Nat.lt_or_eq_of_le below with earlier | rfl
        · exact List.mem_cons_of_mem _ (within (between k (Nat.lt_of_not_le old) earlier))
        · exact List.mem_cons_self
    · exact List.mem_cons_of_mem _ (counted base k above below)

/-- A base has a number left among the first few, as many as there are names seen. -/
theorem Counted.room {seen : List Text} (counted : Counted seen numbers) (base : Text) :
    ∃ k, lastNumber base numbers < k ∧ k ≤ seen.length + 2 ∧ numberedName base k ∉ seen := by
  obtain ⟨tries, few, free⟩ := exists_free_number base 1 seen
  refine ⟨1 + tries + 1, ?_, by omega, free⟩
  by_contra counts
  exact free (counted base (1 + tries + 1) (by omega) (Nat.le_of_not_lt counts))

end Call

/-! ## The import -/

/-- The turns of an import in order, with the name of each check created. -/
inductive BulkRun : List Text → List (Text × Nat) → List BulkTurn → List (Option Text) → Prop
  | nil (taken : List Text) (numbers : List (Text × Nat)) : BulkRun taken numbers [] []
  | unnamed {taken : List Text} {numbers : List (Text × Nat)} {rest : List BulkTurn} {results : List (Option Text)}
      (created : Bool) (others : BulkRun taken numbers rest results) :
      BulkRun taken numbers (⟨none, created⟩ :: rest) (none :: results)
  | failed {taken : List Text} {numbers after : List (Text × Nat)} {rest : List BulkTurn} {results : List (Option Text)}
      {name displayName : Text} (unused : Unused name taken numbers displayName after)
      (others : BulkRun taken after rest results) :
      BulkRun taken numbers (⟨some name, false⟩ :: rest) (none :: results)
  | created {taken : List Text} {numbers after : List (Text × Nat)} {rest : List BulkTurn} {results : List (Option Text)}
      {name displayName : Text} (unused : Unused name taken numbers displayName after)
      (others : BulkRun (displayName :: taken) after rest results) :
      BulkRun taken numbers (⟨some name, true⟩ :: rest) (some displayName :: results)

theorem bulkCreateChecks_run (turns : List BulkTurn) (taken : List Text) (numbers : List (Text × Nat)) :
    ∃ results, (∀ fuel ≥ taken.length + turns.length + 2, bulkCreateChecks fuel turns taken numbers = some results) ∧
      BulkRun taken numbers turns results := by
  induction turns generalizing taken numbers with
  | nil => exact ⟨[], fun fuel _ => rfl, .nil taken numbers⟩
  | cons turn rest ih =>
    rcases turn with ⟨name, created⟩
    cases name with
    | none =>
      obtain ⟨results, ends, run⟩ := ih taken numbers
      refine ⟨none :: results, ?_, .unnamed created run⟩
      intro fuel enough
      rw [List.length_cons] at enough
      rw [bulkCreateChecks, ends fuel (by omega)]
      rfl
    | some name =>
      obtain ⟨displayName, after, named, unused⟩ := unusedName_unused name taken numbers
      cases created with
      | false =>
        obtain ⟨results, ends, run⟩ := ih taken after
        refine ⟨none :: results, ?_, .failed unused run⟩
        intro fuel enough
        rw [List.length_cons] at enough
        simp only [bulkCreateChecks, named fuel (by omega), ends fuel (by omega), Option.bind_some, Option.map_some,
          Bool.false_eq_true, if_false]
      | true =>
        obtain ⟨results, ends, run⟩ := ih (displayName :: taken) after
        refine ⟨some displayName :: results, ?_, .created unused run⟩
        intro fuel enough
        rw [List.length_cons] at enough ends
        simp only [bulkCreateChecks, named fuel (by omega), ends fuel (by omega), Option.bind_some, Option.map_some,
          if_true]

namespace BulkRun

variable {taken : List Text} {numbers : List (Text × Nat)} {turns : List BulkTurn} {results : List (Option Text)}

/-- A check is created for each turn that asks for a name and does not fail. -/
theorem each (run : BulkRun taken numbers turns results) :
    List.Forall₂ (fun turn result => result.isSome = (turn.name.isSome && turn.created)) turns results := by
  induction run with
  | nil => exact .nil
  | unnamed created others ih => exact .cons rfl ih
  | failed unused others ih => exact .cons rfl ih
  | created unused others ih => exact .cons rfl ih

theorem not_mem (run : BulkRun taken numbers turns results) : ∀ name ∈ results.filterMap id, name ∉ taken := by
  induction run with
  | nil =>
    intro name mem
    cases mem
  | unnamed created others ih => exact ih
  | failed unused others ih => exact ih
  | created unused others ih =>
    intro name mem
    rcases List.mem_cons.mp mem with rfl | mem
    · exact unused.not_mem
    · exact fun isTaken => ih name mem (List.mem_cons_of_mem _ isTaken)

theorem nodup (run : BulkRun taken numbers turns results) : (results.filterMap id).Nodup := by
  induction run with
  | nil => exact List.nodup_nil
  | unnamed created others ih => exact ih
  | failed unused others ih => exact ih
  | created unused others ih =>
    refine List.nodup_cons.mpr ⟨?_, ih⟩
    intro again
    exact others.not_mem _ again List.mem_cons_self

/-- Names that fit, and are more than a number, are given names that fit, as long as the
names seen leave numbers of few digits. -/
theorem fits {seen : List Text} (run : BulkRun taken numbers turns results) (within : taken ⊆ seen)
    (counted : Counted seen numbers) {limit : Nat} (small : limit ≤ 10 ^ 252) (few : seen.length + turns.length + 2 ≤ limit)
    (asked : ∀ turn ∈ turns, ∀ name, turn.name = some name → NameFits name ∧ subNumbered name ≠ []) :
    ∀ name ∈ results.filterMap id, NameFits name := by
  induction run generalizing seen with
  | nil =>
    intro name mem
    cases mem
  | unnamed created others ih =>
    rw [List.length_cons] at few
    exact ih within counted (by omega) (List.forall_mem_cons.mp asked).2
  | failed unused others ih =>
    rw [List.length_cons] at few
    refine ih (fun name mem => List.mem_cons_of_mem _ (within mem)) (unused.counted within counted) ?_
      (List.forall_mem_cons.mp asked).2
    rw [List.length_cons]
    omega
  | @created taken numbers after rest results name displayName unused others ih =>
    rw [List.length_cons] at few
    obtain ⟨first, others⟩ := List.forall_mem_cons.mp asked
    refine List.forall_mem_cons.mpr ⟨?_, ?_⟩
    · obtain ⟨fits, some⟩ := first name rfl
      refine unused.fits (fun _ => fits) (fun _ _ => ⟨some, (length_subNumbered_le name).trans fits.2⟩) fun _ _ => ?_
      obtain ⟨k, above, below, free⟩ := counted.room (subNumbered name)
      have under : k < limit := by omega
      exact ⟨k, above, under.trans_le small, fun isTaken => free (within isTaken)⟩
    · refine ih ?_ (unused.counted within counted) ?_ others
      · exact List.cons_subset_cons _ within
      · rw [List.length_cons]
        omega

end BulkRun

/-- **An import of fewer than ten to the 252 names gives names that fit.** -/
theorem bulkCreateChecks_fits (taken : List Text) (turns : List BulkTurn)
    (few : taken.length + turns.length + 2 ≤ 10 ^ 252)
    (asked : ∀ turn ∈ turns, ∀ name, turn.name = some name → NameFits name ∧ subNumbered name ≠ []) :
    ∃ results, (∀ fuel ≥ taken.length + turns.length + 2, bulkCreateChecks fuel turns taken [] = some results) ∧
      ∀ name ∈ results.filterMap id, NameFits name := by
  obtain ⟨results, ends, run⟩ := bulkCreateChecks_run turns taken []
  exact ⟨results, ends, run.fits (List.Subset.refl _) (counted_nil _) (Nat.le_refl _) few asked⟩

/-! ## Names the requests ask for -/

theorem nameFits_sliceTo {s : Text} (some : s ≠ []) : NameFits (sliceTo 255 s) := by
  have length : (sliceTo 255 s).length = min 255 s.length := length_sliceTo 255 s
  have pos := List.length_pos_iff.mpr some
  constructor
  · apply List.ne_nil_of_length_pos
    omega
  · omega

theorem replaceChar_ne_nil {old new : Char} {s : Text} (some : s ≠ []) : replaceChar old new s ≠ [] := by
  rwa [replaceChar, ne_eq, List.map_eq_nil_iff]

theorem orText_ne_nil (value : Option Text) {default : Text} (some : default ≠ []) : orText value default ≠ [] := by
  rcases value with _ | _ | ⟨c, rest⟩
  · exact some
  · exact some
  · exact List.cons_ne_nil c rest

theorem bulkDisplayName_fits {masked : Option MaskedUrl} {name : Text} (named : bulkDisplayName masked = .ok name) :
    NameFits name := by
  rcases masked with _ | ⟨hostname, path, port⟩
  · cases named
  · cases port with
    | none => cases named
    | some port =>
      simp only [bulkDisplayName, Except.ok.injEq] at named
      rw [← named]
      apply nameFits_sliceTo
      have isHost : replaceChar '.' '-' (orText hostname (text "unknown")) ≠ [] :=
        replaceChar_ne_nil (orText_ne_nil hostname (by decide))
      have longer {front : Text} (some : front ≠ []) (between back : Text) : front ++ between ++ back ≠ [] :=
        List.append_ne_nil_of_left_ne_nil (List.append_ne_nil_of_left_ne_nil some _) _
      rcases port with _ | port
      · dsimp only
        split_ifs
        · exact longer isHost _ _
        · exact isHost
      · dsimp only
        split_ifs
        · exact longer (longer isHost _ _) _ _
        · exact longer isHost _ _
        · exact longer isHost _ _
        · exact isHost

/-- A request asks for a name that fits. -/
theorem BulkCheckCreateRequest.turn_fits {req : BulkCheckCreateRequest} {classified created : Bool}
    {masked : Option MaskedUrl} {name : Text} (asked : (req.turn classified masked created).name = some name) :
    NameFits name := by
  have named : req.name masked = .ok name := by
    cases classified with
    | false => cases asked
    | true =>
      cases isNamed : req.name masked with
      | error e =>
        rw [BulkCheckCreateRequest.turn, isNamed] at asked
        cases asked
      | ok given =>
        rw [BulkCheckCreateRequest.turn, isNamed] at asked
        cases asked
        rfl
  unfold BulkCheckCreateRequest.name at named
  split at named
  · exact bulkDisplayName_fits named
  · exact bulkDisplayName_fits named
  next given notEmpty isGiven =>
    cases named
    exact ⟨notEmpty, req.bounded _ isGiven⟩

/-! ## Freshness -/

example : bulkCreateChecks 5 [⟨some (text "h (2)"), true⟩, ⟨some (text "h (2)"), true⟩] [text "h"] [] =
    some [some (text "h (2)"), some (text "h (3)")] := by
  decide

/-- **A name given is not taken**, and an import gives no name twice. The name fits when
its base does and numbers of at most 252 digits are left. -/
theorem unusedName_fresh :
    (∀ (name : Text) (taken : List Text) (numbers : List (Text × Nat)), ∃ given after,
      (∀ fuel ≥ taken.length + 2, unusedName fuel name taken numbers = some (given, after)) ∧ given ∉ taken ∧
        ((name ∉ taken → NameFits name) →
          (name ∈ taken → subNumbered name ∉ taken → NameFits (subNumbered name)) →
          (name ∈ taken → subNumbered name ∈ taken → ∃ k, lastNumber (subNumbered name) numbers < k ∧
            k < 10 ^ 252 ∧ numberedName (subNumbered name) k ∉ taken) → NameFits given)) ∧
      ∀ (turns : List BulkTurn) (taken : List Text) (numbers : List (Text × Nat)), ∃ results,
        (∀ fuel ≥ taken.length + turns.length + 2, bulkCreateChecks fuel turns taken numbers = some results) ∧
          List.Forall₂ (fun turn result => result.isSome = (turn.name.isSome && turn.created)) turns results ∧
          (results.filterMap id).Nodup ∧ ∀ name ∈ results.filterMap id, name ∉ taken := by
  constructor
  · intro name taken numbers
    obtain ⟨given, after, ends, unused⟩ := unusedName_unused name taken numbers
    exact ⟨given, after, ends, unused.not_mem, unused.fits⟩
  · intro turns taken numbers
    obtain ⟨results, ends, run⟩ := bulkCreateChecks_run turns taken numbers
    exact ⟨results, ends, run.each, run.nodup, run.not_mem⟩

/-- A base and its candidates of so many numbers. -/
def candidates (base : Text) (count : Nat) : List Text := base :: (List.range count).map (numberedName base)

theorem base_mem_candidates (base : Text) (count : Nat) : base ∈ candidates base count := List.mem_cons_self

theorem numberedName_mem_candidates (base : Text) {count k : Nat} (below : k < count) :
    numberedName base k ∈ candidates base count :=
  List.mem_cons_of_mem _ (List.mem_map.mpr ⟨k, List.mem_range.mpr below, rfl⟩)

/-- With its candidates of 252 digits all taken, a name is given one that does not fit. -/
theorem Unused.not_fits {base given : Text} {taken : List Text} {numbers after : List (Text × Nat)}
    (unused : Unused base taken numbers given after) (isBase : subNumbered base = base) (isTaken : base ∈ taken)
    (full : ∀ k < 10 ^ 252, numberedName base k ∈ taken) : ¬ NameFits given := by
  cases unused with
  | kept free => exact absurd isTaken free
  | base _ free => exact absurd (isBase.symm ▸ isTaken) free
  | numbered number _ _ later between free =>
    rw [isBase] at free ⊢
    intro fits
    exact free (full number ((nameFits_numberedName_iff base number).mp fits))

/-- A name is kept as it is, however long or empty; of a name that is only a number nothing
is left; and a number may have more digits than fit. -/
theorem unusedName_misfits :
    unusedName 2 (List.replicate 256 (.scalar 'a')) [] [] = some (List.replicate 256 (.scalar 'a'), []) ∧
      ¬ NameFits (List.replicate 256 (.scalar 'a')) ∧
    unusedName 2 [] [] [] = some ([], []) ∧ ¬ NameFits [] ∧
    unusedName 3 (text " (2)") [text " (2)"] [] = some ([], [([], 1)]) ∧
    ∃ given after, unusedName ((candidates (text "a") (10 ^ 252)).length + 2) (text "a")
      (candidates (text "a") (10 ^ 252)) [] = some (given, after) ∧ ¬ NameFits given := by
  have notLong : ¬ NameFits (List.replicate 256 (.scalar 'a')) := fun fits => by
    have short := fits.2
    rw [List.length_replicate] at short
    omega
  refine ⟨if_pos List.not_mem_nil, notLong, if_pos List.not_mem_nil, fun fits => fits.1 rfl, by decide, ?_⟩
  obtain ⟨given, after, ends, unused⟩ := unusedName_unused (text "a") (candidates (text "a") (10 ^ 252)) []
  refine ⟨given, after, ends _ (Nat.le_refl _), ?_⟩
  exact unused.not_fits (by decide) (base_mem_candidates _ _) fun k small => numberedName_mem_candidates _ small

end LuxSwirl.Server
