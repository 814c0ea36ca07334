import LuxSwirl.Lib.Fields

/-!
# Record schemas

A schema lists the fields of a record: the key of each, what stands for it when
it is missing, and how a given value is read. A dictionary is a valid record
when each of its fields is; a key no field names is passed over.
-/

namespace LuxSwirl.Lib

structure Schema.Field (κ α : Type*) where
  key : κ
  /-- What a missing field stands for; without it the field is required. -/
  default : Option α := none
  /-- The value kept for a given one, or none when it is refused. -/
  read : α → Option α

namespace Schema

variable {κ α : Type*} [DecidableEq κ]

/-- What a field keeps of the value given for it, if one is; none when it is refused. -/
def Field.of (field : Field κ α) : Option α → Option α
  | none => field.default
  | some value => field.read value

/-- The value of a field in a record, or none when it is refused. -/
def Field.take (field : Field κ α) (given : List (κ × α)) : Option α :=
  field.of (Fields.get? field.key given)

/-- The record of a dictionary, or none when a field is refused. -/
def validate : List (Field κ α) → List (κ × α) → Option (List (κ × α))
  | [], _ => some []
  | field :: rest, given =>
    (field.take given).bind fun value => (validate rest given).map ((field.key, value) :: ·)

theorem validate_isSome {schema : List (Field κ α)} {given : List (κ × α)} :
    (validate schema given).isSome = true ↔ ∀ field ∈ schema, (field.take given).isSome = true := by
  induction schema with
  | nil => simp [validate]
  | cons field rest ih =>
    rw [List.forall_mem_cons, ← ih, validate]
    cases field.take given <;> cases validate rest given <;> simp

/-- A record whose fields all keep what it gives them is kept as it is. -/
theorem validate_self {schema : List (Field κ α)} {record : List (κ × α)}
    (nodup : (record.map (·.1)).Nodup)
    (kept : List.Forall₂ (fun field entry => field.key = entry.1 ∧ field.read entry.2 = some entry.2)
      schema record) : validate schema record = some record := by
  suffices taken : ∀ {fields entries}, entries ⊆ record →
      List.Forall₂ (fun (field : Field κ α) entry => field.key = entry.1 ∧ field.read entry.2 = some entry.2)
        fields entries → validate fields record = some entries from
    taken (List.Subset.refl record) kept
  intro fields entries within kept
  induction kept with
  | nil => rfl
  | cons first rest ih =>
    obtain ⟨here, within⟩ := List.cons_subset.mp within
    have found := Fields.get?_of_mem nodup here
    simp [validate, Field.take, Field.of, first.1, found, first.2, ih within]

/-- A valid record has under each field's key what the field keeps. -/
theorem get?_validate {schema : List (Field κ α)} {given record : List (κ × α)} {field : Field κ α}
    (nodup : (schema.map (·.key)).Nodup) (mem : field ∈ schema)
    (valid : validate schema given = some record) :
    Fields.get? field.key record = field.take given := by
  induction schema generalizing record with
  | nil => cases mem
  | cons first rest ih =>
    obtain ⟨fresh, nodup⟩ := List.nodup_cons.mp nodup
    obtain ⟨value, taken, valid⟩ := Option.bind_eq_some_iff.mp valid
    obtain ⟨more, isMore, rfl⟩ := Option.map_eq_some_iff.mp valid
    rcases List.mem_cons.mp mem with rfl | mem
    · rw [taken]
      simp [Fields.get?]
    · have apart : first.key ≠ field.key := by
        intro same
        exact fresh (List.mem_map.mpr ⟨field, mem, same.symm⟩)
      rw [← ih nodup mem isMore]
      simp [Fields.get?, apart]

end Schema

end LuxSwirl.Lib
