import LuxSwirl.Server.StoredChecks

/-!
# Settings over settings

The settings of a type as `_merge_clone_data` puts them together: those the overrides
give, and where they give none, those the source's row is read with. What is read of a
row, or of what a schema has let through, is what is written there (`value_ofFields`), and
the merge takes each setting from the one or the other (`value_or`).
-/

namespace LuxSwirl.Server
open LuxSwirl.Py LuxSwirl.Lib

/-- The settings that some fields give. -/
def TypeSettings.ofFields (fields : List (Key × Value)) : TypeSettings where
  httpMethod := asText (valueAt fields "http_method")
  verifySsl := asBool (valueAt fields "verify_ssl")
  expectedStatus := asInt (valueAt fields "expected_status")
  jsonPath := asText (valueAt fields "json_path")
  expectedValue := asText (valueAt fields "expected_value")
  recordType := asText (valueAt fields "record_type")
  nameserver := asText (valueAt fields "nameserver")
  port := asInt (valueAt fields "port")
  expectValue := asText (valueAt fields "expect_value")
  connectionString := asText (valueAt fields "connection_string")
  query := asText (valueAt fields "query")

/-- The given settings, and others where they are none. -/
def TypeSettings.or (given other : TypeSettings) : TypeSettings where
  httpMethod := given.httpMethod.or other.httpMethod
  verifySsl := given.verifySsl.or other.verifySsl
  expectedStatus := given.expectedStatus.or other.expectedStatus
  jsonPath := given.jsonPath.or other.jsonPath
  expectedValue := given.expectedValue.or other.expectedValue
  recordType := given.recordType.or other.recordType
  nameserver := given.nameserver.or other.nameserver
  port := given.port.or other.port
  expectValue := given.expectValue.or other.expectValue
  connectionString := given.connectionString.or other.connectionString
  query := given.query.or other.query

/-- The settings with their free texts as a schema strips them. -/
def TypeSettings.stripped (settings : TypeSettings) : TypeSettings :=
  { settings with
    jsonPath := settings.jsonPath.map trim
    expectedValue := settings.expectedValue.map trim
    nameserver := settings.nameserver.map trim
    expectValue := settings.expectValue.map trim
    connectionString := settings.connectionString.map trim
    query := settings.query.map trim }

/-- The settings a row is read with, by the accessors of its model. -/
def Check.settings (check : Check) : TypeSettings where
  httpMethod := check.httpMethod
  verifySsl := check.configBool "verify_ssl"
  expectedStatus := check.configInt "expected_status"
  jsonPath := check.configStr "json_path"
  expectedValue := check.configStr "expected_value"
  recordType := check.recordType
  nameserver := check.configStr "nameserver"
  port := check.configInt "port"
  expectValue := check.configStr "expect_value"
  connectionString := check.connectionString
  query := check.configStr "query"

/-! ## One setting -/

/-- A setting as a field of a request. -/
def TypeSettings.field (settings : TypeSettings) : String → Option Value
  | "http_method" => some (nullOr .str settings.httpMethod)
  | "verify_ssl" => some (nullOr .bool settings.verifySsl)
  | "expected_status" => some (nullOr .int settings.expectedStatus)
  | "json_path" => some (nullOr .str settings.jsonPath)
  | "expected_value" => some (nullOr .str settings.expectedValue)
  | "record_type" => some (nullOr .str settings.recordType)
  | "nameserver" => some (nullOr .str settings.nameserver)
  | "port" => some (nullOr .int settings.port)
  | "expect_value" => some (nullOr .str settings.expectValue)
  | "connection_string" => some (nullOr .str settings.connectionString)
  | "query" => some (nullOr .str settings.query)
  | _ => none

/-- A setting as it is stored. -/
def TypeSettings.value (settings : TypeSettings) (name : String) : Option Value :=
  (settings.field name).filter isSet

theorem get?_fields (settings : TypeSettings) (name : String) :
    Fields.get? (fieldKey name) settings.fields = settings.field name := by
  unfold TypeSettings.field
  split
  case h_12 =>
    rename_i a b c d e f g h i j k
    have ne {other : String} (apart : name = other → False) : ¬ other = name := fun same => apart same.symm
    simp only [TypeSettings.fields, Fields.get?_cons, fieldKey, Key.text.injEq, text_inj, ne a, ne b, ne c, ne d,
      ne e, ne f, ne g, ne h, ne i, ne j, ne k, if_false]
    rfl
  all_goals rfl

/-- Each field that is given is one the schemas take for its name. -/
def Typed (fields : List (Key × Value)) : Prop :=
  ∀ name value, Fields.get? (fieldKey name) fields = some value →
    ∃ settings : TypeSettings, settings.Fits ∧ settings.field name = some value

theorem fields_keys (settings : TypeSettings) : (settings.fields.map (·.1)).Nodup := by
  simp only [TypeSettings.fields, List.map_cons, List.map_nil]
  decide

theorem field_of_mem {settings : TypeSettings} {name : String} {value : Value}
    (mem : (fieldKey name, value) ∈ settings.fields) : settings.field name = some value := by
  rw [← get?_fields]
  exact Fields.get?_of_mem (fields_keys settings) mem

theorem GivenFits.typed {config : List (Key × Value)} (given : GivenFits config) : Typed config := by
  obtain ⟨settings, fits, within⟩ := given
  exact fun name value found => ⟨settings, fits, field_of_mem (within (Fields.mem_of_get?_eq_some found))⟩

theorem Check.Stores.typed {check : Check} {last : String → Option Value} (stores : check.Stores last) :
    Typed (check.checkConfig.getD []) := by
  intro name value found
  obtain ⟨-, settings, fits, mem⟩ := stores.fits name value found
  exact ⟨settings, fits, field_of_mem mem⟩

/-! ## Reading settings back -/

section ReadBack

variable {α : Type} {toValue : α → Value} {ofValue : Value → Option α}

/-- A setting that is read as it is written is written back as it was. -/
theorem readBack {keep : Value → Bool} (notNone : keep .none = false)
    (inverse : ∀ x, ofValue (nullOr toValue x) = x) {given : Option Value}
    (typed : ∀ value ∈ given, ∃ x, nullOr toValue x = value) :
    (some (nullOr toValue (ofValue (given.getD .none)))).filter keep = given.filter keep := by
  cases given with
  | none =>
    have nothing : ofValue .none = none := inverse none
    rw [Option.getD_none, nothing]
    simp [nullOr, Option.filter, notNone]
  | some value =>
    obtain ⟨x, rfl⟩ := typed value rfl
    rw [Option.getD_some, inverse]

/-- A merged setting is the given one, unless it is none. -/
theorem nullOr_or (written : ∀ x, toValue x ≠ .none) (given other : Option α) :
    some (nullOr toValue (given.or other)) =
      ((some (nullOr toValue given)).filter fun value => decide (value ≠ .none)).or
        (some (nullOr toValue other)) := by
  cases given with
  | none => rfl
  | some x => simp [nullOr, Option.filter, written x]

end ReadBack

/-- What fields give of a setting is what was in them, nulls apart. -/
theorem field_ofFields {keep : Value → Bool} (notNone : keep .none = false) {fields : List (Key × Value)}
    (typed : Typed fields) (name : String) :
    ((TypeSettings.ofFields fields).field name).filter keep = (Fields.get? (fieldKey name) fields).filter keep := by
  have typed := typed name
  unfold TypeSettings.field
  unfold TypeSettings.field at typed
  split
  -- the texts, the numbers, the flag, and what is no setting
  case h_1 | h_4 | h_5 | h_6 | h_7 | h_9 | h_10 | h_11 =>
    refine readBack notNone asText_nullOr fun value found => ?_
    obtain ⟨settings, -, isField⟩ := typed value found
    exact ⟨_, Option.some.inj isField⟩
  case h_3 | h_8 =>
    refine readBack notNone asInt_nullOr fun value found => ?_
    obtain ⟨settings, -, isField⟩ := typed value found
    exact ⟨_, Option.some.inj isField⟩
  case h_2 =>
    refine readBack notNone asBool_nullOr fun value found => ?_
    obtain ⟨settings, -, isField⟩ := typed value found
    exact ⟨_, Option.some.inj isField⟩
  case h_12 =>
    cases found : Fields.get? (fieldKey name) fields with
    | none => rfl
    | some value =>
      obtain ⟨settings, -, isField⟩ := typed value found
      simp at isField

theorem value_ofFields {fields : List (Key × Value)} (typed : Typed fields) (name : String) :
    (TypeSettings.ofFields fields).value name = (Fields.get? (fieldKey name) fields).filter isSet :=
  field_ofFields rfl typed name

theorem field_or (given other : TypeSettings) (name : String) :
    (given.or other).field name =
      ((given.field name).filter fun value => decide (value ≠ .none)).or (other.field name) := by
  unfold TypeSettings.field
  split
  all_goals first
    | exact nullOr_or (by simp) _ _
    | rfl

/-- A stored setting of a merge is the given one, where one is given and each given one is
set. -/
theorem value_or {given other : TypeSettings}
    (set : ∀ name, ∀ value ∈ given.field name, value ≠ .none → isSet value = true) (name : String) :
    (given.or other).value name = (given.value name).or (other.value name) := by
  rw [TypeSettings.value, field_or, TypeSettings.value, TypeSettings.value]
  cases isGiven : given.field name with
  | none => rfl
  | some value =>
    by_cases isNone : value = .none
    · subst isNone
      rfl
    · have isSet := set name value isGiven isNone
      simp [Option.filter, isNone, isSet]

/-! ## What the schemas ask -/

section Reads

variable {α : Type} {toValue : α → Value} {ofValue : Value → Option α} {fields : List (Key × Value)} {name : String}

/-- A setting that is read is given as it would be written. -/
theorem get?_of_read (reads : ∀ value x, ofValue value = some x → value = toValue x)
    (written : ∀ x, toValue x ≠ .none) {x : α} (given : x ∈ ofValue (valueAt fields name)) :
    Fields.get? (fieldKey name) fields = some (toValue x) := by
  have isValue := reads _ _ given
  unfold valueAt at isValue
  cases found : Fields.get? (fieldKey name) fields with
  | none =>
    rw [found] at isValue
    exact absurd isValue.symm (written x)
  | some value =>
    rw [found] at isValue
    exact congrArg some isValue

/-- What the schemas ask of a setting holds of what is read of it. -/
theorem Typed.read (typed : Typed fields) (reads : ∀ value x, ofValue value = some x → value = toValue x)
    (written : ∀ x, toValue x ≠ .none) (inverse : ∀ x, ofValue (nullOr toValue x) = x) {P : α → Prop}
    {get : TypeSettings → Option α} (isField : ∀ settings, settings.field name = some (nullOr toValue (get settings)))
    (fits : ∀ settings, settings.Fits → ∀ x ∈ get settings, P x) : ∀ x ∈ ofValue (valueAt fields name), P x := by
  intro x given
  obtain ⟨settings, settingsFit, found⟩ := typed name _ (get?_of_read reads written given)
  have sameValue : nullOr toValue (get settings) = nullOr toValue (some x) :=
    Option.some.inj ((isField settings).symm.trans found)
  have isGet : get settings = some x := by
    rw [← inverse (get settings), sameValue, inverse]
  exact fits settings settingsFit x isGet

end Reads

section Typed

variable {fields : List (Key × Value)} {name : String}

theorem Typed.text (typed : Typed fields) {P : Text → Prop} {get : TypeSettings → Option Text}
    (isField : ∀ settings, settings.field name = some (nullOr .str (get settings)))
    (fits : ∀ settings, settings.Fits → ∀ s ∈ get settings, P s) : ∀ s ∈ asText (valueAt fields name), P s :=
  typed.read (fun value s => by cases value <;> simp [asText]) (by simp) asText_nullOr isField fits

theorem Typed.int (typed : Typed fields) {P : Int → Prop} {get : TypeSettings → Option Int}
    (isField : ∀ settings, settings.field name = some (nullOr .int (get settings)))
    (fits : ∀ settings, settings.Fits → ∀ n ∈ get settings, P n) : ∀ n ∈ asInt (valueAt fields name), P n :=
  typed.read (fun value n => by cases value <;> simp [asInt]) (by simp) asInt_nullOr isField fits

theorem Typed.fits (typed : Typed fields) : (TypeSettings.ofFields fields).Fits where
  httpMethod := typed.text (fun _ => rfl) fun _ fits => fits.httpMethod
  expectedStatus := typed.int (fun _ => rfl) fun _ fits => fits.expectedStatus
  jsonPath := typed.text (fun _ => rfl) fun _ fits => fits.jsonPath
  expectedValue := typed.text (fun _ => rfl) fun _ fits => fits.expectedValue
  recordType := typed.text (fun _ => rfl) fun _ fits => fits.recordType
  nameserver := typed.text (fun _ => rfl) fun _ fits => fits.nameserver
  port := typed.int (fun _ => rfl) fun _ fits => fits.port
  expectValue := typed.text (fun _ => rfl) fun _ fits => fits.expectValue
  connectionString := typed.text (fun _ => rfl) fun _ fits => fits.connectionString
  query := typed.text (fun _ => rfl) fun _ fits => fits.query

end Typed

theorem forall_or {α : Type} {P : α → Prop} {given other : Option α} (first : ∀ x ∈ given, P x)
    (second : ∀ x ∈ other, P x) : ∀ x ∈ given.or other, P x := by
  cases given with
  | none => exact second
  | some x => exact first

/-- A merge of settings that fit fits. -/
theorem TypeSettings.Fits.or {given other : TypeSettings} (fits : given.Fits) (otherFits : other.Fits) :
    (given.or other).Fits where
  httpMethod := forall_or fits.httpMethod otherFits.httpMethod
  expectedStatus := forall_or fits.expectedStatus otherFits.expectedStatus
  jsonPath := forall_or fits.jsonPath otherFits.jsonPath
  expectedValue := forall_or fits.expectedValue otherFits.expectedValue
  recordType := forall_or fits.recordType otherFits.recordType
  nameserver := forall_or fits.nameserver otherFits.nameserver
  port := forall_or fits.port otherFits.port
  expectValue := forall_or fits.expectValue otherFits.expectValue
  connectionString := forall_or fits.connectionString otherFits.connectionString
  query := forall_or fits.query otherFits.query

/-- Settings that fit are stripped already. -/
theorem TypeSettings.Fits.stripped {settings : TypeSettings} (fits : settings.Fits) :
    settings.stripped = settings := by
  simp only [TypeSettings.stripped, map_trim fits.jsonPath, map_trim fits.expectedValue, map_trim fits.nameserver,
    map_trim fits.expectValue, map_trim fits.connectionString, map_trim fits.query]

/-! ## A stored row -/

section Row

variable {check : Check} {last : String → Option Value}

theorem configStr_eq_asText (check : Check) (name : String) :
    check.configStr name = asText (valueAt (check.checkConfig.getD []) name) := by
  unfold Check.configStr Check.getConfig valueAt
  cases Fields.get? (fieldKey name) (check.checkConfig.getD []) with
  | none => rfl
  | some value => cases value <;> rfl

theorem configInt_eq_asInt (check : Check) (name : String) :
    check.configInt name = asInt (valueAt (check.checkConfig.getD []) name) := by
  unfold Check.configInt Check.getConfig valueAt
  cases Fields.get? (fieldKey name) (check.checkConfig.getD []) with
  | none => rfl
  | some value => cases value <;> rfl

theorem configBool_eq_asBool (check : Check) (name : String) :
    check.configBool name = asBool (valueAt (check.checkConfig.getD []) name) := by
  unfold Check.configBool Check.getConfig valueAt
  cases Fields.get? (fieldKey name) (check.checkConfig.getD []) with
  | none => rfl
  | some value => cases value <;> rfl

/-- A stored word is read as it is. -/
theorem configWord_eq_configStr {name : String} {words : List String}
    (upright : ∀ w ∈ words.map text, upper (strip w) = w ∧ w ≠ [] ∧ utf8Encodable w = true)
    (isWord : ∀ w ∈ check.configStr name, w ∈ words.map text) :
    check.configWord name words = check.configStr name := by
  rw [Check.configWord]
  cases stored : check.configStr name with
  | none =>
    have blank : ([] : Text) ∉ words.map text := fun mem => (upright [] mem).2.1 rfl
    exact if_neg blank
  | some w =>
    have mem := isWord w stored
    rw [Option.getD_some, (upright w mem).1, if_pos mem]

/-- The connection string that is stored is set, and a database check's. -/
theorem connectionString_eq_configStr (stores : check.Stores last) :
    check.connectionString = check.configStr "connection_string" := by
  rw [Check.connectionString]
  cases stored : check.configStr "connection_string" with
  | none => simp
  | some s =>
    have isConfig : check.getConfig "connection_string" = some (.str s) := by
      rw [Check.configStr] at stored
      split at stored
      · rename_i found
        rw [found, Option.some.inj stored]
      · cases stored
    have own : "connection_string" ∈ typeFields check.checkType := by
      by_contra other
      rw [stores.others _ other] at isConfig
      cases isConfig
    have isDatabase : check.checkType = .mysql ∨ check.checkType = .postgres := by
      revert own
      cases check.checkType <;> simp [typeFields]
    have isText : (!s.isEmpty) = true := (stores.fits _ _ isConfig).1
    rw [if_pos isDatabase, Option.filter_some, if_pos isText]

/-- A row is read with the settings that are stored. -/
theorem settings_eq_ofFields (stores : check.Stores last) :
    check.settings = TypeSettings.ofFields (check.checkConfig.getD []) := by
  have fits := stores.typed.fits
  have httpMethod : check.httpMethod = check.configStr "http_method" := by
    refine configWord_eq_configStr httpMethods_upright fun w stored => fits.httpMethod w ?_
    rwa [configStr_eq_asText] at stored
  have recordType : check.recordType = check.configStr "record_type" := by
    refine configWord_eq_configStr dnsRecordTypes_upright fun w stored => fits.recordType w ?_
    rwa [configStr_eq_asText] at stored
  simp only [Check.settings, TypeSettings.ofFields, httpMethod, recordType, connectionString_eq_configStr stores,
    configStr_eq_asText, configInt_eq_asInt, configBool_eq_asBool]

theorem value_settings (stores : check.Stores last) (name : String) :
    check.settings.value name = check.getConfig name := by
  rw [settings_eq_ofFields stores, value_ofFields stores.typed]
  cases stored : check.getConfig name with
  | none =>
    rw [Check.getConfig] at stored
    rw [stored]
    rfl
  | some value =>
    have isSet := (stores.fits name value stored).1
    rw [Check.getConfig] at stored
    rw [stored, Option.filter_some, if_pos isSet]

end Row

end LuxSwirl.Server
