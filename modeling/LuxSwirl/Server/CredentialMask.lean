import LuxSwirl.Lib.FreshName
import LuxSwirl.Py.Builtins
import LuxSwirl.Py.Json

/-!
# Masking a document

`mask_mapping` of `credential_mask.py`: a copy of a decoded JSON object in which the
strings are masked, those under a key that names a secret hidden whole, and the keys
renamed by one `KeyNames` for the whole document. `mask_credentials` and
`names_a_secret` are parameters.

The result is the document under one injective renaming of its keys (`Masked`), so no
mapping of it loses an entry: `maskMapping_masked`.
-/

namespace LuxSwirl.Server
open LuxSwirl.Py LuxSwirl.Lib

def mask : Text := text "***"

def maxDepth : Nat := 64

/-- One name for each key of one document. -/
structure KeyNames where
  names : List (Text × Text) := []
  used : List Text := []
  numbers : List (Text × Nat) := []

/-- `f"{masked} ({number})"` -/
def numbered (masked : Text) (number : Nat) : Text := masked ++ text " (" ++ strOfNat number ++ text ")"

/-- The names tried for a key that masks so, after as many tries. -/
def nameTried (masked : Text) (number : Nat) : Nat → Text
  | 0 => masked
  | tries + 1 => numbered masked (number + tries + 1)

section Code

variable (maskCredentials : Text → Text) (namesASecret : Text → Bool)

/-- The name of `key`; `shown` is the text to name it by, when that is not `key`. -/
def KeyNames.of (key : Text) (shown : Option Text) (names : KeyNames) : Text × KeyNames :=
  match Fields.get? key names.names with
  | some name => (name, names)
  | none =>
    let masked := maskCredentials (shown.getD key)
    let number := (Fields.get? masked names.numbers).getD 1
    let tries := firstFree (nameTried masked number) names.used names.used.length 0
    let name := nameTried masked number tries
    (name,
      { names := Fields.set key name names.names
        used := name :: names.used
        numbers := Fields.set masked (number + tries) names.numbers })

mutual

/-- `_masked` -/
def masked : Json → Nat → Bool → KeyNames → Json × KeyNames
  | .str value, depth, hidden, names =>
    if depth > maxDepth then (.str mask, names)
    else (.str (if hidden ∧ value ≠ [] then mask else maskCredentials value), names)
  | .obj fields, depth, hidden, names =>
    if depth > maxDepth then (.str mask, names)
    else
      let (items, names) := maskedItems fields (depth + 1) hidden names
      (.obj (Fields.ofPairs items), names)
  | .arr items, depth, hidden, names =>
    if depth > maxDepth then (.str mask, names)
    else
      let (items, names) := maskedList items (depth + 1) hidden names
      (.arr items, names)
  | value, depth, _, names => if depth > maxDepth then (.str mask, names) else (value, names)

/-- `_masked_items`, as the pairs it makes. -/
def maskedItems : List (Text × Json) → Nat → Bool → KeyNames → List (Text × Json) × KeyNames
  | [], _, _, names => ([], names)
  | (key, item) :: rest, depth, hidden, names =>
    let (name, names) := names.of maskCredentials key none
    let (item, names) := masked item depth (hidden || namesASecret key) names
    let (rest, names) := maskedItems rest depth hidden names
    ((name, item) :: rest, names)

/-- The items of a list in turn. -/
def maskedList : List Json → Nat → Bool → KeyNames → List Json × KeyNames
  | [], _, _, names => ([], names)
  | item :: rest, depth, hidden, names =>
    let (item, names) := masked item depth hidden names
    let (rest, names) := maskedList rest depth hidden names
    (item :: rest, names)

end

/-! ## What a mask shows -/

variable (nameOf : Text → Option Text)

mutual

/-- What is shown of a value so deep, under a key that names a secret or not, where keys
are named by `nameOf`. -/
inductive Masked : Nat → Bool → Json → Json → Prop
  | deep {depth : Nat} {hidden : Bool} (value : Json) (past : depth > maxDepth) : Masked depth hidden value (.str mask)
  | null {depth : Nat} {hidden : Bool} (within : depth ≤ maxDepth) : Masked depth hidden .null .null
  | bool {depth : Nat} {hidden : Bool} (value : Bool) (within : depth ≤ maxDepth) :
      Masked depth hidden (.bool value) (.bool value)
  | num {depth : Nat} {hidden : Bool} (literal : List Char) (within : depth ≤ maxDepth) :
      Masked depth hidden (.num literal) (.num literal)
  | secret {depth : Nat} {value : Text} (some : value ≠ []) (within : depth ≤ maxDepth) :
      Masked depth true (.str value) (.str mask)
  | str {depth : Nat} {hidden : Bool} {value : Text} (shown : hidden = true → value = []) (within : depth ≤ maxDepth) :
      Masked depth hidden (.str value) (.str (maskCredentials value))
  | arr {depth : Nat} {hidden : Bool} {items items' : List Json} (within : depth ≤ maxDepth)
      (each : MaskedList (depth + 1) hidden items items') : Masked depth hidden (.arr items) (.arr items')
  | obj {depth : Nat} {hidden : Bool} {fields fields' : List (Text × Json)} (within : depth ≤ maxDepth)
      (each : MaskedItems (depth + 1) hidden fields fields') : Masked depth hidden (.obj fields) (.obj fields')

/-- The entries of a mapping one for one, each under the name of its key. -/
inductive MaskedItems : Nat → Bool → List (Text × Json) → List (Text × Json) → Prop
  | nil (depth : Nat) (hidden : Bool) : MaskedItems depth hidden [] []
  | cons {depth : Nat} {hidden : Bool} {key name : Text} {item item' : Json} {rest rest' : List (Text × Json)}
      (named : nameOf key = some name) (first : Masked depth (hidden || namesASecret key) item item')
      (others : MaskedItems depth hidden rest rest') : MaskedItems depth hidden ((key, item) :: rest) ((name, item') :: rest')

/-- The items of a list one for one. -/
inductive MaskedList : Nat → Bool → List Json → List Json → Prop
  | nil (depth : Nat) (hidden : Bool) : MaskedList depth hidden [] []
  | cons {depth : Nat} {hidden : Bool} {item item' : Json} {rest rest' : List Json}
      (first : Masked depth hidden item item') (others : MaskedList depth hidden rest rest') :
      MaskedList depth hidden (item :: rest) (item' :: rest')

end

end Code

/-- A value as `json.loads` gives it: no mapping has a key twice. -/
inductive Decoded : Json → Prop
  | null : Decoded .null
  | bool (value : Bool) : Decoded (.bool value)
  | num (literal : List Char) : Decoded (.num literal)
  | str (value : Text) : Decoded (.str value)
  | arr {items : List Json} (each : ∀ item ∈ items, Decoded item) : Decoded (.arr items)
  | obj {fields : List (Text × Json)} (distinct : (fields.map (·.1)).Nodup)
      (each : ∀ entry ∈ fields, Decoded entry.2) : Decoded (.obj fields)

/-- A decoded JSON object. -/
structure Mapping where
  fields : List (Text × Json)
  decoded : Decoded (.obj fields)

/-- `mask_mapping` -/
def maskMapping (maskCredentials : Text → Text) (namesASecret : Text → Bool) (mapping : Mapping) : List (Text × Json) :=
  Fields.ofPairs (maskedItems maskCredentials namesASecret mapping.fields 1 false {}).1

/-! ## The names -/

theorem numbered_injective (masked : Text) : Function.Injective (numbered masked) := fun _ _ same =>
  strOfNat_injective (List.append_cancel_left (List.append_cancel_right same))

theorem nameTried_injective (masked : Text) (number : Nat) : Function.Injective (nameTried masked number) := by
  have longer (n : Nat) : masked ≠ numbered masked n := fun same => by
    have lengths := congrArg List.length same
    rw [numbered, List.length_append, List.length_append, List.length_append] at lengths
    have two : (text " (").length = 2 := rfl
    omega
  intro m n same
  rcases m with _ | m <;> rcases n with _ | n
  · rfl
  · exact absurd same (longer _)
  · exact absurd same.symm (longer _)
  · have numbers := numbered_injective masked same
    omega

namespace KeyNames

/-- The name of a key, if it was given one. -/
def nameOf (names : KeyNames) (key : Text) : Option Text := Fields.get? key names.names

/-- No name is given twice. -/
structure Sound (names : KeyNames) : Prop where
  apart : ∀ key key' name, names.nameOf key = some name → names.nameOf key' = some name → key = key'
  used : ∀ key name, names.nameOf key = some name → name ∈ names.used

/-- A name once given stays. -/
def Extends (names names' : KeyNames) : Prop :=
  ∀ key name, names.nameOf key = some name → names'.nameOf key = some name

theorem Extends.refl (names : KeyNames) : names.Extends names := fun _ _ given => given

theorem Extends.trans {names names' names'' : KeyNames} (first : names.Extends names') (second : names'.Extends names'') :
    names.Extends names'' := fun key name given => second key name (first key name given)

theorem sound_empty : Sound {} where
  apart _ _ _ given := nomatch given
  used _ _ given := nomatch given

/-- A key without a name given one that is not used. -/
theorem Sound.give {names : KeyNames} (sound : names.Sound) {key name : Text} (unnamed : names.nameOf key = none)
    (free : name ∉ names.used) (numbers : List (Text × Nat)) :
    let names' : KeyNames := { names := Fields.set key name names.names, used := name :: names.used, numbers }
    names'.Sound ∧ names.Extends names' ∧ names'.nameOf key = some name := by
  intro names'
  have named (other : Text) : names'.nameOf other = if key = other then some name else names.nameOf other :=
    Fields.get?_set other
  have cases (other given : Text) (isGiven : names'.nameOf other = some given) :
      key = other ∧ given = name ∨ names.nameOf other = some given := by
    rw [named] at isGiven
    split_ifs at isGiven with same
    · exact .inl ⟨same, (Option.some.inj isGiven).symm⟩
    · exact .inr isGiven
  refine ⟨⟨fun first second given isFirst isSecond => ?_, fun other given isGiven => ?_⟩, fun other given isGiven => ?_, ?_⟩
  · rcases cases first given isFirst with ⟨rfl, rfl⟩ | old <;> rcases cases second given isSecond with ⟨rfl, same⟩ | old'
    · rfl
    · exact absurd (sound.used _ _ old') free
    · exact absurd (same ▸ sound.used _ _ old) free
    · exact sound.apart _ _ _ old old'
  · rcases cases other given isGiven with ⟨-, rfl⟩ | old
    · exact List.mem_cons_self
    · exact List.mem_cons_of_mem _ (sound.used _ _ old)
  · rw [named, if_neg fun same => ?_]
    · exact isGiven
    · rw [same, isGiven] at unnamed
      cases unnamed
  · rw [named, if_pos rfl]

/-- A key is named by a name no other key has. -/
theorem of_named (maskCredentials : Text → Text) (key : Text) (shown : Option Text) {names : KeyNames} (sound : names.Sound) :
    (names.of maskCredentials key shown).2.Sound ∧ names.Extends (names.of maskCredentials key shown).2 ∧
      (names.of maskCredentials key shown).2.nameOf key = some (names.of maskCredentials key shown).1 := by
  cases given : names.nameOf key with
  | some name =>
    rw [KeyNames.of, show Fields.get? key names.names = some name from given]
    exact ⟨sound, .refl names, given⟩
  | none =>
    rw [KeyNames.of, show Fields.get? key names.names = none from given]
    exact sound.give given (firstFree_not_mem (nameTried_injective _ _)) _

end KeyNames

/-! ## The document -/

section Document

variable {maskCredentials : Text → Text} {namesASecret : Text → Bool}

/-- Entries shown under names no two keys share are a mapping as they are. -/
theorem MaskedItems.nodup {names : KeyNames} (sound : names.Sound) {depth : Nat} {hidden : Bool} :
    ∀ {fields fields' : List (Text × Json)},
      MaskedItems maskCredentials namesASecret names.nameOf depth hidden fields fields' →
        (fields.map (·.1)).Nodup → (fields'.map (·.1)).Nodup ∧
          ∀ entry' ∈ fields', ∃ entry ∈ fields, names.nameOf entry.1 = some entry'.1
  | _, _, .nil _ _, _ => ⟨List.nodup_nil, fun _ mem => nomatch mem⟩
  | (key, _) :: rest, (name, _) :: rest', .cons named _ others, distinct => by
    rw [List.map_cons, List.nodup_cons] at distinct
    obtain ⟨nodup, from_rest⟩ := MaskedItems.nodup sound others distinct.2
    refine ⟨?_, ?_⟩
    · rw [List.map_cons, List.nodup_cons]
      refine ⟨fun mem => ?_, nodup⟩
      obtain ⟨entry', mem, same⟩ := List.mem_map.mp mem
      obtain ⟨entry, within, isNamed⟩ := from_rest entry' mem
      have sameKey := sound.apart _ _ _ named (same ▸ isNamed)
      exact distinct.1 (List.mem_map.mpr ⟨entry, within, sameKey.symm⟩)
    · intro entry' mem
      rcases List.mem_cons.mp mem with rfl | mem
      · exact ⟨_, List.mem_cons_self, named⟩
      · obtain ⟨entry, within, isNamed⟩ := from_rest entry' mem
        exact ⟨entry, List.mem_cons_of_mem _ within, isNamed⟩

/-- What masking a part of the document owes: names that stay, and the part shown under them. -/
structure Shows (names names' : KeyNames) (shown : (Text → Option Text) → Prop) : Prop where
  sound : names'.Sound
  grows : names.Extends names'
  shown : ∀ final : KeyNames, names'.Extends final → shown final.nameOf

theorem Shows.here {names : KeyNames} (sound : names.Sound) {shown : (Text → Option Text) → Prop}
    (isShown : ∀ nameOf, shown nameOf) : Shows names names shown where
  sound := sound
  grows := .refl names
  shown _ _ := isShown _

theorem masked_of_deep {depth : Nat} (deep : depth > maxDepth) (value : Json) (hidden : Bool) (names : KeyNames) :
    masked maskCredentials namesASecret value depth hidden names = (.str mask, names) := by
  cases value with
  | obj fields => rw [masked, if_pos deep]
  | arr items => rw [masked, if_pos deep]
  | str content => rw [masked, if_pos deep]
  | null => exact if_pos deep
  | bool b => exact if_pos deep
  | num literal => exact if_pos deep

theorem masked_str {depth : Nat} (within : depth ≤ maxDepth) (content : Text) (hidden : Bool)
    (nameOf : Text → Option Text) :
    Masked maskCredentials namesASecret nameOf depth hidden (.str content)
      (.str (if hidden ∧ content ≠ [] then mask else maskCredentials content)) := by
  by_cases secret : hidden = true ∧ content ≠ []
  · obtain ⟨rfl, some⟩ := secret
    rw [if_pos ⟨rfl, some⟩]
    exact .secret some within
  · rw [if_neg secret]
    exact .str (fun isHidden => not_ne_iff.mp fun some => secret ⟨isHidden, some⟩) within

mutual

theorem masked_shows {names : KeyNames} (sound : names.Sound) {value : Json} (decoded : Decoded value) (depth : Nat)
    (hidden : Bool) :
    Shows names (masked maskCredentials namesASecret value depth hidden names).2 fun nameOf =>
      Masked maskCredentials namesASecret nameOf depth hidden value
        (masked maskCredentials namesASecret value depth hidden names).1 := by
  by_cases deep : depth > maxDepth
  · rw [masked_of_deep deep]
    exact .here sound fun _ => .deep value deep
  · have within : depth ≤ maxDepth := Nat.le_of_not_lt deep
    match value, decoded with
    | .null, _ =>
      have same : masked maskCredentials namesASecret .null depth hidden names = (.null, names) := if_neg deep
      rw [same]
      exact .here sound fun _ => .null within
    | .bool b, _ =>
      have same : masked maskCredentials namesASecret (.bool b) depth hidden names = (.bool b, names) := if_neg deep
      rw [same]
      exact .here sound fun _ => .bool b within
    | .num literal, _ =>
      have same : masked maskCredentials namesASecret (.num literal) depth hidden names = (.num literal, names) := if_neg deep
      rw [same]
      exact .here sound fun _ => .num literal within
    | .str content, _ =>
      rw [masked, if_neg deep]
      exact .here sound fun nameOf => masked_str within content hidden nameOf
    | .arr items, .arr each =>
      have shows := maskedList_shows sound each (depth + 1) hidden
      rw [masked, if_neg deep]
      exact ⟨shows.sound, shows.grows, fun final grows => .arr within (shows.shown final grows)⟩
    | .obj fields, .obj distinct each =>
      have shows := maskedItems_shows sound each (depth + 1) hidden
      have nodup := (MaskedItems.nodup shows.sound (shows.shown _ (.refl _)) distinct).1
      rw [masked, if_neg deep]
      refine ⟨shows.sound, shows.grows, fun final grows => ?_⟩
      dsimp only
      rw [Fields.ofPairs_of_nodup nodup]
      exact .obj within (shows.shown final grows)

theorem maskedItems_shows {names : KeyNames} (sound : names.Sound) {fields : List (Text × Json)}
    (decoded : ∀ entry ∈ fields, Decoded entry.2) (depth : Nat) (hidden : Bool) :
    Shows names (maskedItems maskCredentials namesASecret fields depth hidden names).2 fun nameOf =>
      MaskedItems maskCredentials namesASecret nameOf depth hidden fields
        (maskedItems maskCredentials namesASecret fields depth hidden names).1 := by
  match fields, decoded with
  | [], _ =>
    rw [maskedItems]
    exact .here sound fun _ => .nil depth hidden
  | (key, item) :: rest, decoded =>
    obtain ⟨namedSound, grows, named⟩ := KeyNames.of_named maskCredentials key none sound
    have first := masked_shows namedSound (List.forall_mem_cons.mp decoded).1 depth (hidden || namesASecret key)
    have others := maskedItems_shows first.sound (List.forall_mem_cons.mp decoded).2 depth hidden
    rw [maskedItems]
    refine ⟨others.sound, grows.trans (first.grows.trans others.grows), fun final isFinal => ?_⟩
    have afterFirst := others.grows.trans isFinal
    exact .cons (afterFirst _ _ (first.grows _ _ named)) (first.shown final afterFirst) (others.shown final isFinal)

theorem maskedList_shows {names : KeyNames} (sound : names.Sound) {items : List Json}
    (decoded : ∀ item ∈ items, Decoded item) (depth : Nat) (hidden : Bool) :
    Shows names (maskedList maskCredentials namesASecret items depth hidden names).2 fun nameOf =>
      MaskedList maskCredentials namesASecret nameOf depth hidden items
        (maskedList maskCredentials namesASecret items depth hidden names).1 := by
  match items, decoded with
  | [], _ =>
    rw [maskedList]
    exact .here sound fun _ => .nil depth hidden
  | item :: rest, decoded =>
    have first := masked_shows sound (List.forall_mem_cons.mp decoded).1 depth hidden
    have others := maskedList_shows first.sound (List.forall_mem_cons.mp decoded).2 depth hidden
    rw [maskedList]
    refine ⟨others.sound, first.grows.trans others.grows, fun final isFinal => ?_⟩
    exact .cons (first.shown final (others.grows.trans isFinal)) (others.shown final isFinal)

end

/-- **A mask keeps a document's shape.** Under one name for each key, and no name for two,
every mapping shows its entries and every list its items one for one, every figure is as
it was, and of a string under a key that names a secret nothing is shown, unless it is empty. -/
theorem maskMapping_masked (maskCredentials : Text → Text) (namesASecret : Text → Bool) (mapping : Mapping) :
    ∃ nameOf : Text → Option Text,
      (∀ key key' name, nameOf key = some name → nameOf key' = some name → key = key') ∧
        MaskedItems maskCredentials namesASecret nameOf 1 false mapping.fields
          (maskMapping maskCredentials namesASecret mapping) := by
  obtain ⟨fields, decoded⟩ := mapping
  cases decoded with
  | obj distinct each =>
    have shows : Shows {} _ fun nameOf => MaskedItems maskCredentials namesASecret nameOf 1 false fields _ :=
      maskedItems_shows KeyNames.sound_empty each 1 false
    have items := shows.shown _ (.refl _)
    refine ⟨_, shows.sound.apart, ?_⟩
    rw [maskMapping, Fields.ofPairs_of_nodup (MaskedItems.nodup shows.sound items distinct).1]
    exact items

/-- An empty string under a key that names a secret is shown. -/
theorem maskMapping_shows_empty :
    maskMapping id (fun key => decide (key = text "password"))
        ⟨[(text "password", .str [])], .obj (List.nodup_singleton _) fun _ mem => List.mem_singleton.mp mem ▸ .str _⟩ =
      [(text "password", .str [])] := by
  rfl

end Document

end LuxSwirl.Server
