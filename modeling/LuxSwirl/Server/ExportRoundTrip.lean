import LuxSwirl.Lib.Pointwise
import LuxSwirl.Server.CheckTransfer

/-!
# An entry through its JSON

What the schema of an entry keeps as it is, and that an entry which holds nothing else
comes back from its JSON as it was.
-/

namespace LuxSwirl.Server
open LuxSwirl.Py LuxSwirl.Lib

/-! ## Values that are kept -/

/-- A text the schema keeps as it is. -/
abbrev StoredText (s : Text) : Prop := readAnyText (.str s) = some (.str s)

theorem storedText_iff {s : Text} : StoredText s ↔ trim s = s ∧ storableText s = true := by
  simp only [StoredText, readAnyText]
  by_cases storable : storableText (trim s) = true
  · rw [if_pos storable]
    simp only [Option.some.injEq, Value.str.injEq]
    exact ⟨fun same => ⟨same, same ▸ storable⟩, fun both => both.1⟩
  · rw [if_neg storable]
    constructor
    · intro impossible
      cases impossible
    · rintro ⟨same, isStorable⟩
      exact absurd (same.symm ▸ isStorable) storable

/-- A bounded text that is read as it is. -/
theorem fitsText_iff {least greatest : Nat} {s : Text} :
    FitsText least greatest s ↔ StoredText s ∧ least ≤ s.length ∧ s.length ≤ greatest := by
  rw [storedText_iff]
  simp only [FitsText, storableTextOf]
  constructor
  · intro fits
    split_ifs at fits with bounds
    have same := Option.some.inj fits
    rw [same] at bounds
    exact ⟨⟨same, bounds.2.2⟩, bounds.1, bounds.2.1⟩
  · rintro ⟨⟨same, storable⟩, least, greatest⟩
    rw [same, if_pos ⟨least, greatest, storable⟩]

/-- A field keeps the value, and so does its JSON. -/
def Kept (field : Schema.Field Key Value) (entry : Key × Value) : Prop :=
  field.key = entry.1 ∧ field.read entry.2 = some entry.2 ∧ entry.2.decode = entry.2

theorem decode_str {s : Text} (stored : StoredText s) : (Value.str s).decode = .str s :=
  congrArg Value.str (joinSurrogates_of_storable (storedText_iff.mp stored).2)

theorem kept_text {key : String} {s : Text} (stored : StoredText s) :
    Kept (requiredField key readAnyText) (fieldKey key, .str s) :=
  ⟨rfl, stored, decode_str stored⟩

theorem kept_optionalText {key : String} {s : Option Text} (stored : ∀ t ∈ s, StoredText t) :
    Kept (optionalField key readAnyText) (fieldKey key, nullOr .str s) := by
  cases s with
  | none => exact ⟨rfl, rfl, rfl⟩
  | some t => exact ⟨rfl, stored t rfl, decode_str (stored t rfl)⟩

theorem kept_int {pydantic : Pydantic} {key : String} {default : Value} {n : Int} :
    Kept (defaultField key default (readInt pydantic)) (fieldKey key, .int n) :=
  ⟨rfl, rfl, rfl⟩

theorem kept_optionalInt {pydantic : Pydantic} {key : String} {n : Option Int} :
    Kept (optionalField key (readInt pydantic)) (fieldKey key, nullOr .int n) := by
  cases n <;> exact ⟨rfl, rfl, rfl⟩

theorem kept_optionalBool {pydantic : Pydantic} {key : String} {b : Option Bool} :
    Kept (optionalField key (readBool pydantic)) (fieldKey key, nullOr .bool b) := by
  cases b <;> exact ⟨rfl, rfl, rfl⟩

/-- A word in upper case with no space around it is kept. -/
theorem kept_word {key : String} {words : List String} {word : Option Text}
    (upright : ∀ w ∈ words.map text, upper (strip w) = w ∧ w ≠ [] ∧ utf8Encodable w = true)
    (isWord : ∀ w ∈ word, w ∈ words.map text) :
    Kept (wordField key words) (fieldKey key, nullOr .str word) := by
  cases word with
  | none => exact ⟨rfl, rfl, rfl⟩
  | some w =>
    obtain ⟨same, some_word, encodable⟩ := upright w (isWord w rfl)
    refine ⟨rfl, ?_, congrArg Value.str (joinSurrogates_of_utf8Encodable encodable)⟩
    show readWord words (.str w) = some (.str w)
    simp only [readWord, same, if_neg some_word, if_pos (isWord w rfl)]

theorem httpMethods_upright :
    ∀ w ∈ httpMethods.map text, upper (strip w) = w ∧ w ≠ [] ∧ utf8Encodable w = true := by
  decide

theorem dnsRecordTypes_upright :
    ∀ w ∈ dnsRecordTypes.map text, upper (strip w) = w ∧ w ≠ [] ∧ utf8Encodable w = true := by
  decide

/-- A tag has no surrogate. -/
theorem utf8Encodable_of_tagOf {tag : Text} (kept : tagOf tag = some tag) : utf8Encodable tag = true := by
  simp only [tagOf] at kept
  split_ifs at kept with fits
  rw [Option.some.inj kept] at fits
  refine List.all_eq_true.mpr fun c mem => ?_
  have allowed := fits.2 c mem
  cases c with
  | scalar c => rfl
  | high offset => cases allowed
  | low offset => cases allowed

/-- Items that are all kept are kept as a list. -/
theorem mapM_self {α : Type} {read : α → Option α} {items : List α} (each : ∀ x ∈ items, read x = some x) :
    items.mapM read = some items := by
  induction items with
  | nil => rfl
  | cons x rest ih =>
    rw [List.forall_mem_cons] at each
    simp [List.mapM_cons, each.1, ih each.2]

theorem kept_tags {key : String} {tags : Option (List Text)} (fits : FitsTags tags) :
    Kept (optionalField key readTags)
      (fieldKey key, nullOr (fun tags => .list (tags.map .str)) tags) := by
  cases tags with
  | none => exact ⟨rfl, rfl, rfl⟩
  | some tags =>
    obtain ⟨few, each⟩ := fits tags rfl
    have read : ∀ v ∈ tags.map Value.str, readTag v = some v := by
      rw [List.forall_mem_map]
      exact fun tag mem => by simp only [readTag, each tag mem, Option.map_some]
    have decoded : ∀ v ∈ tags.map Value.str, v.decode = v := by
      rw [List.forall_mem_map]
      exact fun tag mem => congrArg Value.str
        (joinSurrogates_of_utf8Encodable (utf8Encodable_of_tagOf (each tag mem)))
    refine ⟨rfl, ?_, ?_⟩
    · show readTags (.list (tags.map .str)) = some (.list (tags.map .str))
      rw [readTags, if_pos (by rwa [List.length_map]), mapM_self read]
      rfl
    · show (Value.list (tags.map .str)).decode = .list (tags.map .str)
      rw [Value.decode, Value.decodeItems_eq_map, List.map_congr_left decoded, List.map_id']

theorem kept_uuid {key : String} {uuid : Option Uuid} :
    Kept (optionalField key readUuid) (fieldKey key, nullOr (fun uuid => .str uuid.str) uuid) := by
  cases uuid with
  | none => exact ⟨rfl, rfl, rfl⟩
  | some uuid =>
    refine ⟨rfl, ?_, congrArg Value.str (joinSurrogates_of_storable (storableText_uuid uuid))⟩
    show (Uuid.read uuid.str).map _ = _
    rw [Uuid.read_str]
    rfl

/-! ## Entries that are kept -/

/-- An entry that holds what its schema keeps as it is. -/
structure CheckExport.Stored (entry : CheckExport) : Prop where
  name : StoredText entry.name
  target : StoredText entry.target
  description : ∀ s ∈ entry.description, StoredText s
  settings : entry.toTypeSettings.Fits
  tags : FitsTags entry.tags
  scriptCode : FitsScript entry.scriptCode
  dependsOn : ∀ s ∈ entry.dependsOn, StoredText s
  oneParent : (entry.dependsOn.isSome && entry.dependsOnCheckId.isSome) = false
  fieldsSet : entry.fieldsSet = entry.modelDump.map (·.1)

namespace CheckExport

variable {entry : CheckExport}

/-- The fields of an entry. -/
def fieldNames : List String :=
  ["name", "check_type", "target", "interval", "timeout", "retry_attempts", "enabled", "description",
    "http_method", "expected_status", "json_path", "expected_value", "tags", "retry_interval_seconds",
    "resend_notification_after", "verify_ssl", "record_type", "nameserver", "port", "expect_value",
    "connection_string", "query", "script_code", "depends_on", "depends_on_check_id"]

theorem keys_modelDump (entry : CheckExport) : entry.modelDump.map (·.1) = fieldNames.map fieldKey := rfl

theorem keys_checkExportFields (pydantic : Pydantic) :
    (checkExportFields pydantic).map (·.key) = fieldNames.map fieldKey := rfl

theorem nodup_modelDump (entry : CheckExport) : (entry.modelDump.map (·.1)).Nodup := by
  have injective : Function.Injective fieldKey := fun a b same => fieldKey_inj.mp same
  rw [keys_modelDump]
  exact List.Nodup.map injective (by decide)

theorem kept_modelDump (pydantic : Pydantic) (stored : entry.Stored) :
    List.Forall₂ Kept (checkExportFields pydantic) entry.modelDump := by
  have settings := stored.settings
  have given {least greatest : Nat} {s : Option Text} (fits : ∀ t ∈ s, FitsText least greatest t) :
      ∀ t ∈ s, StoredText t := fun t mem => (fitsText_iff.mp (fits t mem)).1
  have checkType : readOneOf (checkTypes.map CheckType.value) (.str (text entry.checkType.value)) =
      some (.str (text entry.checkType.value)) := by
    cases entry.checkType <;> decide
  simp only [checkExportFields, modelDump, List.forall₂_cons, List.forall₂_nil_left_iff, and_true]
  exact ⟨kept_text stored.name, ⟨rfl, checkType, congrArg Value.str (joinSurrogates_text _)⟩,
    kept_text stored.target, kept_int, kept_int, kept_int, ⟨rfl, rfl, rfl⟩,
    kept_optionalText stored.description, kept_word httpMethods_upright settings.httpMethod,
    kept_optionalInt, kept_optionalText (given settings.jsonPath),
    kept_optionalText (given settings.expectedValue), kept_tags stored.tags, kept_optionalInt,
    kept_optionalInt, kept_optionalBool, kept_word dnsRecordTypes_upright settings.recordType,
    kept_optionalText (given settings.nameserver), kept_optionalInt,
    kept_optionalText (given settings.expectValue), kept_optionalText (given settings.connectionString),
    kept_optionalText (given settings.query), kept_optionalText stored.scriptCode,
    kept_optionalText stored.dependsOn, kept_uuid⟩

theorem ofRecord_modelDump (entry : CheckExport) (fieldsSet : List Key) :
    ofRecord entry.modelDump fieldsSet = some { entry with fieldsSet } := by
  have uuid : (asText (nullOr (fun uuid : Uuid => .str uuid.str) entry.dependsOnCheckId)).bind Uuid.read =
      entry.dependsOnCheckId := by
    cases entry.dependsOnCheckId with
    | none => rfl
    | some uuid => exact Uuid.read_str uuid
  simp only [ofRecord, modelDump, valueAt_cons, String.reduceEq, if_true, if_false, asText_nullOr,
    asInt_nullOr, asBool_nullOr, asTexts_nullOr, asText_str, asInt_int, asBool_bool, uuid,
    CheckType.ofValue_value, Option.bind_some]
  rfl

/-- **Entry round trip.** The schema takes the fields of such an entry for the entry. -/
theorem modelValidate_modelDump (pydantic : Pydantic) (stored : entry.Stored) :
    modelValidate pydantic entry.modelDump = some entry := by
  have valid : Schema.validate (checkExportFields pydantic) entry.modelDump = some entry.modelDump :=
    Schema.validate_self (nodup_modelDump entry)
      ((kept_modelDump pydantic stored).imp fun field entry kept => ⟨kept.1, kept.2.1⟩)
  have named : (entry.modelDump.any fun given =>
      decide (given.1 ∉ (checkExportFields pydantic).map (·.key))) = false := by
    rw [List.any_eq_false]
    intro given mem
    rw [keys_checkExportFields, ← keys_modelDump entry, decide_eq_true_eq, not_not]
    exact List.mem_map_of_mem mem
  simp only [modelValidate, named, valid, ofRecord_modelDump, Option.bind_eq_bind, Option.bind_some,
    if_false, Bool.false_eq_true, ← stored.fieldsSet]
  rw [if_neg (by simp [stored.oneParent])]

/-- JSON changes nothing of such an entry. -/
theorem json_eq (pydantic : Pydantic) (stored : entry.Stored) : entry.json = entry.modelDump := by
  have plain : Plain entry.modelDump := by
    refine ⟨nodup_modelDump entry, ?_⟩
    intro given mem
    have isKey := List.mem_map_of_mem (f := (·.1)) mem
    rw [keys_modelDump, List.mem_map] at isKey
    obtain ⟨name, -, isName⟩ := isKey
    rw [← isName]
    exact utf8Encodable_text name
  have kept : ∀ given ∈ entry.modelDump, given.2.decode = given.2 := by
    intro given mem
    obtain ⟨field, -, isKept⟩ := exists_of_mem_right (kept_modelDump pydantic stored) mem
    exact isKept.2.2
  rw [json, plain.decodeFields]
  conv_rhs => rw [← List.map_id entry.modelDump]
  refine List.map_congr_left fun given mem => ?_
  rw [kept given mem]
  rfl

/-- So it is read from its JSON as it was. -/
theorem modelValidate_json (pydantic : Pydantic) (stored : entry.Stored) :
    modelValidate pydantic entry.json = some entry := by
  rw [json_eq pydantic stored, modelValidate_modelDump pydantic stored]

end CheckExport

end LuxSwirl.Server
