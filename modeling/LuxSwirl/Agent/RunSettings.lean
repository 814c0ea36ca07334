import LuxSwirl.Agent.CheckConfig
import LuxSwirl.Server.StoredSettings

/-!
# The settings an agent runs a check with

`runsAsStored_iff` is about every row that `create_check` and `update_check` calls
leave, as it is served and as the agent reads it.
-/

namespace LuxSwirl.Agent
open LuxSwirl.Py LuxSwirl.Lib LuxSwirl.Server

/-- A setting under the key its class reads. The port of a TCP check is its target's,
and no setting. -/
def CheckConfig.setting (config : CheckConfig) (field : String) : Option Value :=
  match field with
  | "http_method" => config.method.map .str
  | "verify_ssl" => config.verifySsl.map .bool
  | "expected_status" => config.expectedStatus.map .int
  | "json_path" => config.jsonPath.map .str
  | "expected_value" => config.expectedValue.map .str
  | "record_type" => config.recordType.map .str
  | "nameserver" => config.nameserver.map .str
  | "port" => if config.checkType = .tcp then none else config.port.map .int
  | "expect_value" => config.expectValue.map .str
  | "connection_string" => config.connectionString.map .str
  | "query" => config.query.map .str
  | _ => none

/-- **What is stored is what runs**: each setting of the check's type is run with the
value it was last set to, and no setting of another type is. -/
structure RunsAsStored (last : String → Option Value) (config : CheckConfig) : Prop where
  own : ∀ field ∈ typeFields config.checkType, ∀ value,
    last field = some value → config.setting field = some value
  others : ∀ field ∉ typeFields config.checkType, config.setting field = none

/-! ## Settings as they are served -/

section

variable {check : Check} {name : String}

theorem served_text (least greatest : Nat)
    (fits : ∀ value, check.getConfig name = some value → ∃ s, value = .str s ∧ FitsText least greatest s) :
    ((check.configStr name).map trim).map .str = check.getConfig name := by
  rw [Check.configStr]
  cases found : check.getConfig name with
  | none => rfl
  | some value =>
    obtain ⟨s, rfl, fits⟩ := fits value found
    rw [Option.map_some, (storedText_iff.mp (fitsText_iff.mp fits).1).1]
    rfl

theorem served_int (fits : ∀ value, check.getConfig name = some value → ∃ n, value = .int n) :
    (check.configInt name).map .int = check.getConfig name := by
  rw [Check.configInt]
  cases found : check.getConfig name with
  | none => rfl
  | some value =>
    obtain ⟨n, rfl⟩ := fits value found
    rfl

theorem served_bool (fits : ∀ value, check.getConfig name = some value → ∃ b, value = .bool b) :
    (check.configBool name).map .bool = check.getConfig name := by
  rw [Check.configBool]
  cases found : check.getConfig name with
  | none => rfl
  | some value =>
    obtain ⟨b, rfl⟩ := fits value found
    rfl

theorem served_word {words : List String}
    (upright : ∀ w ∈ words.map text, upper (strip w) = w ∧ w ≠ [] ∧ utf8Encodable w = true)
    (fits : ∀ value, check.getConfig name = some value → ∃ w, value = .str w ∧ w ∈ words.map text) :
    (check.configWord name words).map .str = check.getConfig name := by
  rw [Check.configWord, Check.configStr]
  cases found : check.getConfig name with
  | none =>
    have blank : upper (strip []) ∉ words.map text := fun mem => (upright [] mem).2.1 rfl
    exact congrArg (Option.map Value.str) (if_neg blank)
  | some value =>
    obtain ⟨w, rfl, isWord⟩ := fits value found
    simp only [Option.getD_some, (upright w isWord).1, if_pos isWord, Option.map_some]

end

/-! ## The settings of a row -/

def settingNames : List String :=
  ["http_method", "verify_ssl", "expected_status", "json_path", "expected_value", "record_type",
    "nameserver", "port", "expect_value", "connection_string", "query"]

theorem fields_keys_nodup (settings : TypeSettings) : (settings.fields.map (·.1)).Nodup := by
  have keys : settings.fields.map (·.1) = settingNames.map fieldKey := rfl
  rw [keys]
  decide

/-- A value that is taken for a setting is one the setting can have. -/
theorem exists_of_fieldFits {α : Type} {field : String} {value : Value} {wrap : α → Value}
    (pick : TypeSettings → Option α)
    (isField : ∀ settings : TypeSettings,
      Fields.get? (fieldKey field) settings.fields = some (nullOr wrap (pick settings)))
    (fits : FieldFits field value) :
    ∃ settings : TypeSettings, settings.Fits ∧ ∃ x ∈ pick settings, value = wrap x := by
  obtain ⟨isValue, settings, areFit, mem⟩ := fits
  have found := Fields.get?_of_mem (fields_keys_nodup settings) mem
  rw [isField settings] at found
  cases given : pick settings with
  | none =>
    rw [given] at found
    cases found
    cases isValue
  | some x =>
    rw [given] at found
    exact ⟨settings, areFit, x, given, (Option.some.inj found).symm⟩

/-- The settings of a response are those the row stores. -/
structure ServesSettings (check : Check) (response : CheckResponse) : Prop where
  checkType : response.checkType = check.checkType
  httpMethod : response.httpMethod.map .str = check.getConfig "http_method"
  verifySsl : response.verifySsl.map .bool = check.getConfig "verify_ssl"
  expectedStatus : response.expectedStatus.map .int = check.getConfig "expected_status"
  jsonPath : response.jsonPath.map .str = check.getConfig "json_path"
  expectedValue : response.expectedValue.map .str = check.getConfig "expected_value"
  recordType : response.recordType.map .str = check.getConfig "record_type"
  nameserver : response.nameserver.map .str = check.getConfig "nameserver"
  port : response.port.map .int = check.getConfig "port"
  expectValue : response.expectValue.map .str = check.getConfig "expect_value"
  connectionString : response.connectionString.map .str = check.getConfig "connection_string"
  query : response.query.map .str = check.getConfig "query"

variable {guards : Guards} {check : Check} {last : String → Option Value} {response : CheckResponse}

/-- Only a database check stores a connection string. -/
theorem connectionString_eq (stores : check.Stores last) :
    check.connectionString = check.configStr "connection_string" := by
  rw [Check.connectionString]
  split_ifs with isDatabase
  · rw [Check.configStr]
    cases found : check.getConfig "connection_string" with
    | none => rfl
    | some value =>
      obtain ⟨-, -, s, -, rfl⟩ := exists_of_fieldFits TypeSettings.connectionString (fun _ => rfl)
        (stores.fits _ _ found)
      have isValue := (stores.fits _ _ found).1
      exact (Option.filter_eq_some_iff).mpr ⟨rfl, isValue⟩
  · have other : "connection_string" ∉ typeFields check.checkType := by
      cases isType : check.checkType <;> first | decide | simp [isType] at isDatabase
    rw [Check.configStr, stores.others _ other]

theorem serves_of_stores (stores : check.Stores last) (served : check.toResponse = some response) :
    ServesSettings check response := by
  have fits {α : Type} {field : String} {wrap : α → Value} (pick : TypeSettings → Option α)
      (isField : ∀ settings : TypeSettings,
        Fields.get? (fieldKey field) settings.fields = some (nullOr wrap (pick settings)))
      (value : Value) (found : check.getConfig field = some value) :
      ∃ settings : TypeSettings, settings.Fits ∧ ∃ x ∈ pick settings, value = wrap x :=
    exists_of_fieldFits pick isField (stores.fits field value found)
  have asText {field : String} {least greatest : Nat} (pick : TypeSettings → Option Text)
      (isField : ∀ settings : TypeSettings,
        Fields.get? (fieldKey field) settings.fields = some (nullOr .str (pick settings)))
      (bounded : ∀ settings : TypeSettings, settings.Fits → ∀ s ∈ pick settings, FitsText least greatest s) :
      ((check.configStr field).map trim).map .str = check.getConfig field := by
    refine served_text least greatest fun value found => ?_
    obtain ⟨settings, areFit, s, mem, rfl⟩ := fits pick isField value found
    exact ⟨s, rfl, bounded settings areFit s mem⟩
  have asInt {field : String} (pick : TypeSettings → Option Int)
      (isField : ∀ settings : TypeSettings,
        Fields.get? (fieldKey field) settings.fields = some (nullOr .int (pick settings))) :
      (check.configInt field).map .int = check.getConfig field := by
    refine served_int fun value found => ?_
    obtain ⟨-, -, n, -, rfl⟩ := fits pick isField value found
    exact ⟨n, rfl⟩
  simp only [Check.toResponse, Option.bind_eq_bind, Option.bind_eq_some_iff] at served
  obtain ⟨displayName, -, target, -, description, -, made⟩ := served
  cases made
  refine
    { checkType := rfl
      httpMethod := served_word httpMethods_upright fun value found => ?_
      verifySsl := served_bool fun value found => ?_
      expectedStatus := asInt TypeSettings.expectedStatus fun _ => rfl
      jsonPath := asText TypeSettings.jsonPath (fun _ => rfl) fun _ areFit => areFit.jsonPath
      expectedValue := asText TypeSettings.expectedValue (fun _ => rfl) fun _ areFit => areFit.expectedValue
      recordType := served_word dnsRecordTypes_upright fun value found => ?_
      nameserver := asText TypeSettings.nameserver (fun _ => rfl) fun _ areFit => areFit.nameserver
      port := asInt TypeSettings.port fun _ => rfl
      expectValue := asText TypeSettings.expectValue (fun _ => rfl) fun _ areFit => areFit.expectValue
      connectionString := ?_
      query := asText TypeSettings.query (fun _ => rfl) fun _ areFit => areFit.query }
  · obtain ⟨settings, areFit, word, mem, rfl⟩ := fits TypeSettings.httpMethod (fun _ => rfl) value found
    exact ⟨word, rfl, areFit.httpMethod word mem⟩
  · obtain ⟨-, -, b, -, rfl⟩ := fits TypeSettings.verifySsl (fun _ => rfl) value found
    exact ⟨b, rfl⟩
  · obtain ⟨settings, areFit, word, mem, rfl⟩ := fits TypeSettings.recordType (fun _ => rfl) value found
    exact ⟨word, rfl, areFit.recordType word mem⟩
  · dsimp only
    rw [connectionString_eq stores]
    exact asText TypeSettings.connectionString (fun _ => rfl) fun _ areFit => areFit.connectionString

/-- The agent has the settings of the row, -/
theorem setting_transform (stores : check.Stores last) (served : check.toResponse = some response)
    {field : String} (other : field ≠ "verify_ssl") :
    (transformCheckConfig response).setting field = check.getConfig field := by
  have serves := serves_of_stores stores served
  by_cases isName : field ∈ settingNames
  · simp only [settingNames, List.mem_cons, List.not_mem_nil, or_false] at isName
    rcases isName with rfl | rfl | rfl | rfl | rfl | rfl | rfl | rfl | rfl | rfl | rfl
    · exact serves.httpMethod
    · exact absurd rfl other
    · exact serves.expectedStatus
    · exact serves.jsonPath
    · exact serves.expectedValue
    · exact serves.recordType
    · exact serves.nameserver
    · have others := stores.others "port"
      simp only [CheckConfig.setting, transformCheckConfig, serves.checkType]
      cases isType : check.checkType with
      | dns => exact serves.port
      | _ =>
        rw [isType] at others
        exact (others (by decide)).symm
    · exact serves.expectValue
    · exact serves.connectionString
    · exact serves.query
  · have isOther : field ∉ typeFields check.checkType := by
      intro mem
      refine isName ?_
      cases isType : check.checkType <;> rw [isType] at mem <;>
        simp only [typeFields, List.mem_cons, List.not_mem_nil, or_false] at mem <;>
        rcases mem with rfl | rfl | rfl | rfl | rfl <;> decide
    rw [stores.others field isOther]
    unfold CheckConfig.setting
    split <;> first | rfl | exact absurd (by decide) isName

/-- but for the `verify_ssl` of a JSON check. -/
theorem setting_verifySsl (stores : check.Stores last) (served : check.toResponse = some response) :
    (transformCheckConfig response).setting "verify_ssl" =
      if check.checkType = .json then none else check.getConfig "verify_ssl" := by
  have serves := serves_of_stores stores served
  have others := stores.others "verify_ssl"
  simp only [CheckConfig.setting, transformCheckConfig, serves.checkType]
  cases isType : check.checkType with
  | http => exact serves.verifySsl
  | json => rfl
  | _ =>
    rw [isType] at others
    exact (others (by decide)).symm

/-- **What is stored is what runs, exactly when the check is no JSON check whose
`verify_ssl` was set.** -/
theorem runsAsStored_iff (stored : StoredAs guards check last) (served : check.toResponse = some response) :
    RunsAsStored last (transformCheckConfig response) ↔
      ¬ (check.checkType = .json ∧ (last "verify_ssl").isSome) := by
  have stores := stored.stores
  have sameType : (transformCheckConfig response).checkType = check.checkType :=
    (serves_of_stores stores served).checkType
  constructor
  · rintro runs ⟨isJson, isSet⟩
    obtain ⟨value, isSet⟩ := Option.isSome_iff_exists.mp isSet
    have own : "verify_ssl" ∈ typeFields (transformCheckConfig response).checkType := by
      rw [sameType, isJson]
      decide
    have run := runs.own _ own value isSet
    rw [setting_verifySsl stores served, if_pos isJson] at run
    cases run
  · intro sound
    refine ⟨fun field _ value isSet => ?_, fun field other => ?_⟩
    · have held := stores.asSet field value isSet
      by_cases isFlag : field = "verify_ssl"
      · subst isFlag
        have notJson : check.checkType ≠ .json := fun isJson => sound ⟨isJson, by simp [isSet]⟩
        rw [setting_verifySsl stores served, if_neg notJson, held]
      · rw [setting_transform stores served isFlag, held]
    · rw [sameType] at other
      by_cases isFlag : field = "verify_ssl"
      · subst isFlag
        rw [setting_verifySsl stores served, stores.others _ other, ite_self]
      · rw [setting_transform stores served isFlag, stores.others field other]

/-! ## A check that verifies no certificate -/

def insecureSettings : TypeSettings where
  verifySsl := some false
  jsonPath := some (text "$.ok")
  expectedValue := some (text "true")

def insecureData (checkType : CheckType) : CheckCreate where
  displayName := text "api"
  checkType
  target := text "https://a"
  config := insecureSettings.fields

def insecureCheck (checkType : CheckType) : Check := (insecureData checkType).row 1 1 0

def insecureLast (checkType : CheckType) : String → Option Value :=
  lastSetAfter checkType insecureSettings.fields fun _ => none

theorem insecureCheck_stored {checkType : CheckType} (isWeb : checkType = .http ∨ checkType = .json) :
    StoredAs anyTarget (insecureCheck checkType) (insecureLast checkType) := by
  have given : GivenFits insecureSettings.fields :=
    ⟨insecureSettings, by decide +kernel, List.Subset.refl _⟩
  let db : Server.Db := { agents := [{ id := 1, approvalStatus := .active, createdAt := 0 }] }
  rcases isWeb with rfl | rfl
  · have created : createCheck anyTarget (fun _ => 0) 1 1 (insecureData .http) true true db =
        .ok { db with checks := [insecureCheck .http] } := rfl
    exact StoredAs.created given created rfl
  · have created : createCheck anyTarget (fun _ => 0) 1 1 (insecureData .json) true true db =
        .ok { db with checks := [insecureCheck .json] } := rfl
    exact StoredAs.created given created rfl

/-- An HTTP check runs with the flag, -/
theorem insecure_http_runs : ∃ response, (insecureCheck .http).toResponse = some response ∧
    insecureLast .http "verify_ssl" = some (.bool false) ∧
      RunsAsStored (insecureLast .http) (transformCheckConfig response) := by
  have isServed : (insecureCheck .http).toResponse.isSome := by decide +kernel
  obtain ⟨response, served⟩ := Option.isSome_iff_exists.mp isServed
  exact ⟨response, served, by decide,
    (runsAsStored_iff (insecureCheck_stored (Or.inl rfl)) served).mpr fun ⟨isJson, _⟩ => nomatch isJson⟩

/-- and a JSON check without. -/
theorem not_runsAsStored_of_json :
    ¬ ∀ (guards : Guards) (check : Check) (last : String → Option Value) (response : CheckResponse),
      StoredAs guards check last → check.toResponse = some response →
        RunsAsStored last (transformCheckConfig response) := by
  intro claimed
  have isServed : (insecureCheck .json).toResponse.isSome := by decide +kernel
  obtain ⟨response, served⟩ := Option.isSome_iff_exists.mp isServed
  have stored := insecureCheck_stored (Or.inr rfl)
  have runs := claimed _ _ _ _ stored served
  have isJson : (insecureCheck .json).checkType = .json := rfl
  have sameType : (transformCheckConfig response).checkType = .json :=
    (serves_of_stores stored.stores served).checkType
  have own : "verify_ssl" ∈ typeFields (transformCheckConfig response).checkType := by
    rw [sameType]
    decide
  have run := runs.own _ own (.bool false) (by decide)
  rw [setting_verifySsl stored.stores served, if_pos isJson] at run
  cases run

end LuxSwirl.Agent
