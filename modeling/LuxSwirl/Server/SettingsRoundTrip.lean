import LuxSwirl.Server.ExportRoundTrip

/-!
# Settings through an export

A check that `create_check` has made of settings it accepts is served with these
settings, those of its type that are set. Its entry gives them again, with numbers for
the unset ones, and the check made of the entry holds what the entry gives.
-/

namespace LuxSwirl.Server
open LuxSwirl.Py LuxSwirl.Lib

/-! ## Settings that are stored -/

/-- The settings a check of the type is stored with. -/
def TypeSettings.keep (settings : TypeSettings) (checkType : CheckType) : TypeSettings :=
  let own (field : String) : Bool := decide (field ∈ typeFields checkType)
  let text (field : String) (s : Option Text) : Option Text := s.filter fun s => own field && !s.isEmpty
  { httpMethod := text "http_method" settings.httpMethod
    expectedStatus := settings.expectedStatus.filter fun _ => own "expected_status"
    jsonPath := text "json_path" settings.jsonPath
    expectedValue := text "expected_value" settings.expectedValue
    verifySsl := settings.verifySsl.filter fun _ => own "verify_ssl"
    recordType := text "record_type" settings.recordType
    nameserver := text "nameserver" settings.nameserver
    port := settings.port.filter fun _ => own "port"
    expectValue := text "expect_value" settings.expectValue
    connectionString := text "connection_string" settings.connectionString
    query := text "query" settings.query }

@[simp] theorem TypeSettings.keep_keep (settings : TypeSettings) (checkType : CheckType) :
    (settings.keep checkType).keep checkType = settings.keep checkType := by
  simp only [TypeSettings.keep, Option.filter_filter, Bool.and_self]

/-- Dropping settings leaves the others within their bounds. -/
theorem TypeSettings.Fits.keep {settings : TypeSettings} (fits : settings.Fits) (checkType : CheckType) :
    (settings.keep checkType).Fits where
  httpMethod word mem := fits.httpMethod word (Option.mem_filter_iff.mp mem).1
  expectedStatus n mem := fits.expectedStatus n (Option.mem_filter_iff.mp mem).1
  jsonPath s mem := fits.jsonPath s (Option.mem_filter_iff.mp mem).1
  expectedValue s mem := fits.expectedValue s (Option.mem_filter_iff.mp mem).1
  recordType word mem := fits.recordType word (Option.mem_filter_iff.mp mem).1
  nameserver s mem := fits.nameserver s (Option.mem_filter_iff.mp mem).1
  port n mem := fits.port n (Option.mem_filter_iff.mp mem).1
  expectValue s mem := fits.expectValue s (Option.mem_filter_iff.mp mem).1
  connectionString s mem := fits.connectionString s (Option.mem_filter_iff.mp mem).1
  query s mem := fits.query s (Option.mem_filter_iff.mp mem).1

theorem get?_packConfig (given : List (Key × Value)) (checkType : CheckType) (name : String) :
    Fields.get? (fieldKey name) (packConfig given checkType) =
      if name ∈ typeFields checkType then (Fields.get? (fieldKey name) given).filter isSet else none := by
  rw [packConfig]
  induction typeFields checkType with
  | nil => rfl
  | cons field rest ih =>
    cases found : (Fields.get? (fieldKey field) given).filter isSet with
    | none =>
      rw [List.filterMap_cons_none (by rw [found]; rfl), ih]
      by_cases same : name = field
      · subst same
        simp [found]
      · simp [same]
    | some value =>
      rw [List.filterMap_cons_some (by rw [found]; rfl), Fields.get?_cons, ih]
      by_cases same : name = field
      · subst same
        simp [found]
      · simp [same, Ne.symm same]

/-- The settings a row has of its type. -/
def Check.HasSettings (check : Check) (settings : TypeSettings) : Prop :=
  ∀ name, check.getConfig name =
    if name ∈ typeFields check.checkType then (Fields.get? (fieldKey name) settings.fields).filter isSet
    else none

/-! ## Settings that are served -/

section Accessors

variable {check : Check} {own : Prop} [Decidable own] {name : String}

theorem configStr_eq {s : Option Text}
    (stored : check.getConfig name = if own then (some (nullOr .str s)).filter isSet else none) :
    check.configStr name = s.filter fun s => decide own && !s.isEmpty := by
  rw [Check.configStr, stored]
  by_cases isOwn : own <;> cases s <;> simp [isOwn, nullOr, isSet, Option.filter]
  split_ifs <;> rfl

theorem configInt_eq {n : Option Int}
    (stored : check.getConfig name = if own then (some (nullOr .int n)).filter isSet else none) :
    check.configInt name = n.filter fun _ => decide own := by
  rw [Check.configInt, stored]
  by_cases isOwn : own <;> cases n <;> simp [isOwn, nullOr, isSet, Option.filter]

theorem configBool_eq {b : Option Bool}
    (stored : check.getConfig name = if own then (some (nullOr .bool b)).filter isSet else none) :
    check.configBool name = b.filter fun _ => decide own := by
  rw [Check.configBool, stored]
  by_cases isOwn : own <;> cases b <;> simp [isOwn, nullOr, isSet, Option.filter]

/-- A word in upper case is read as it is stored. -/
theorem configWord_eq {words : List String} {word : Option Text}
    (upright : ∀ w ∈ words.map text, upper (strip w) = w ∧ w ≠ [] ∧ utf8Encodable w = true)
    (isWord : ∀ w ∈ word, w ∈ words.map text)
    (stored : check.getConfig name = if own then (some (nullOr .str word)).filter isSet else none) :
    check.configWord name words = word.filter fun s => decide own && !s.isEmpty := by
  simp only [Check.configWord, configStr_eq stored]
  cases kept : word.filter fun s => decide own && !s.isEmpty with
  | none =>
    have blank : ([] : Text) ∉ words.map text := fun mem => (upright [] mem).2.1 rfl
    simp only [Option.getD_none]
    exact if_neg blank
  | some w =>
    have mem := isWord w (Option.mem_filter_iff.mp kept).1
    rw [Option.getD_some, (upright w mem).1, if_pos mem]

/-- A text that is stored as it is read keeps its ends. -/
theorem map_trim {least greatest : Nat} {s : Option Text} (fits : ∀ t ∈ s, FitsText least greatest t) :
    s.map trim = s := by
  cases s with
  | none => rfl
  | some t => exact congrArg some (storedText_iff.mp (fitsText_iff.mp (fits t rfl)).1).1

end Accessors

/-- A check as it is served, by the settings it has of its type. -/
def Check.served (check : Check) (settings : TypeSettings) : CheckResponse where
  id := Uuid.ofId check.id
  displayName := check.displayName
  checkType := check.checkType
  target := check.target
  description := check.description
  intervalSeconds := check.intervalSeconds
  timeoutSeconds := check.timeoutSeconds
  enabled := check.enabled
  expectedStatus := settings.expectedStatus
  httpMethod := settings.httpMethod
  verifySsl := settings.verifySsl
  jsonPath := settings.jsonPath
  expectedValue := settings.expectedValue
  recordType := settings.recordType
  nameserver := settings.nameserver
  port := settings.port
  expectValue := settings.expectValue
  connectionString := settings.connectionString
  query := settings.query
  retryAttempts := check.retryAttempts
  retryIntervalSeconds := some check.retryIntervalSeconds
  scriptCode := check.scriptCode

/-- The texts of a row are as the create schema leaves them. -/
structure Check.TextsFit (check : Check) : Prop where
  displayName : FitsText 1 255 check.displayName
  target : FitsText 1 512 check.target
  description : ∀ s ∈ check.description, FitsText 0 1000 s
  scriptCode : FitsScript check.scriptCode

/-- Such a row is served with its settings. -/
theorem toResponse_eq_served {check : Check} {settings : TypeSettings} (texts : check.TextsFit)
    (fits : settings.Fits) (stored : check.HasSettings settings) :
    check.toResponse = some (check.served (settings.keep check.checkType)) := by
  have kept := fits.keep check.checkType
  have described : Check.describe check.description = some check.description := by
    cases given : check.description with
    | none => rfl
    | some s =>
      have fits := texts.description s given
      rw [Check.describe, fits]
      rfl
  have script : check.scriptCode.map trim = check.scriptCode := by
    cases given : check.scriptCode with
    | none => rfl
    | some s => exact congrArg some (storedText_iff.mp (texts.scriptCode s given)).1
  have httpMethod : check.httpMethod = (settings.keep check.checkType).httpMethod :=
    configWord_eq httpMethods_upright fits.httpMethod (stored "http_method")
  have recordType : check.recordType = (settings.keep check.checkType).recordType :=
    configWord_eq dnsRecordTypes_upright fits.recordType (stored "record_type")
  have expectedStatus : check.configInt "expected_status" =
      (settings.keep check.checkType).expectedStatus := configInt_eq (stored "expected_status")
  have port : check.configInt "port" = (settings.keep check.checkType).port := configInt_eq (stored "port")
  have verifySsl : check.configBool "verify_ssl" = (settings.keep check.checkType).verifySsl :=
    configBool_eq (stored "verify_ssl")
  have jsonPath : check.configStr "json_path" = (settings.keep check.checkType).jsonPath :=
    configStr_eq (stored "json_path")
  have expectedValue : check.configStr "expected_value" =
      (settings.keep check.checkType).expectedValue := configStr_eq (stored "expected_value")
  have nameserver : check.configStr "nameserver" = (settings.keep check.checkType).nameserver :=
    configStr_eq (stored "nameserver")
  have expectValue : check.configStr "expect_value" = (settings.keep check.checkType).expectValue :=
    configStr_eq (stored "expect_value")
  have query : check.configStr "query" = (settings.keep check.checkType).query := configStr_eq (stored "query")
  have connectionString : check.connectionString = (settings.keep check.checkType).connectionString := by
    have kept : check.configStr "connection_string" = (settings.keep check.checkType).connectionString :=
      configStr_eq (stored "connection_string")
    simp only [Check.connectionString, kept, TypeSettings.keep, Option.filter_filter]
    cases check.checkType <;> simp [typeFields]
  simp only [Check.toResponse, texts.displayName, texts.target, described, script, httpMethod, recordType,
    expectedStatus, port, verifySsl, jsonPath, expectedValue, nameserver, expectValue, query,
    connectionString, map_trim kept.jsonPath, map_trim kept.expectedValue, map_trim kept.nameserver,
    map_trim kept.expectValue, map_trim kept.connectionString, map_trim kept.query, Option.bind_eq_bind,
    Option.bind_some]
  rfl

/-! ## Checks that hold what was accepted -/

/-- Settings `create_check` accepts of an admin, where every address passes. -/
structure CheckCreate.Accepted (guards : Guards) (data : CheckCreate) (settings : TypeSettings) :
    Prop where
  fits : data.Fits
  given : data.config = settings.fields
  settings : settings.Fits
  script : data.validateSynthetic guards true = .ok ()

/-- The row holds the settings. An update may have set a number to null since. -/
structure Check.Holds (check : Check) (data : CheckCreate) (settings : TypeSettings) : Prop where
  displayName : check.displayName = data.displayName
  checkType : check.checkType = data.checkType
  target : check.target = data.target
  description : check.description = data.description
  enabled : check.enabled = data.enabled
  intervalSeconds : check.intervalSeconds = data.intervalSeconds ∨ check.intervalSeconds = none
  timeoutSeconds : check.timeoutSeconds = some data.timeoutSeconds ∨ check.timeoutSeconds = none
  retryAttempts : check.retryAttempts = some (data.retryAttempts.getD defaultRetryAttempts) ∨
    check.retryAttempts = none
  retryIntervalSeconds : check.retryIntervalSeconds = data.retryIntervalSeconds
  resendNotificationAfter : check.resendNotificationAfter = data.resendNotificationAfter
  tags : check.tags = data.tags
  scriptCode : check.scriptCode = if data.checkType = .synthetic then data.scriptCode else none
  settings : check.HasSettings settings

/-- A new row holds the settings it is made of. -/
theorem CheckCreate.holds_row {data : CheckCreate} {settings : TypeSettings}
    (given : data.config = settings.fields) (id agentId : Id) (now : Time) :
    (data.row id agentId now).Holds data settings where
  displayName := rfl
  checkType := rfl
  target := rfl
  description := rfl
  enabled := rfl
  intervalSeconds := Or.inl rfl
  timeoutSeconds := Or.inl rfl
  retryAttempts := Or.inl rfl
  retryIntervalSeconds := rfl
  resendNotificationAfter := rfl
  tags := rfl
  scriptCode := rfl
  settings name := by
    have config : ((data.row id agentId now).checkConfig.getD []) = packConfig data.config data.checkType := by
      simp only [CheckCreate.row]
      split_ifs with empty
      · exact empty.symm
      · rfl
    rw [Check.getConfig, config, get?_packConfig, given]
    rfl

section Holds

variable {check : Check} {data : CheckCreate} {settings : TypeSettings}

theorem Check.Holds.textsFit (holds : check.Holds data settings) (fits : data.Fits) : check.TextsFit where
  displayName := holds.displayName ▸ fits.displayName
  target := holds.target ▸ fits.target
  description := holds.description ▸ fits.description
  scriptCode := by
    rw [holds.scriptCode]
    split_ifs with synthetic
    · exact fits.scriptCode
    · rintro s ⟨⟩

theorem Check.Holds.fitsTags (holds : check.Holds data settings) (fits : data.Fits) :
    FitsTags check.tags :=
  holds.tags ▸ fits.tags

/-- What the import makes a copy of the check with. -/
def Check.recreate (check : Check) (settings : TypeSettings) : CheckCreate where
  displayName := check.displayName
  checkType := check.checkType
  target := check.target
  description := check.description
  intervalSeconds := some (check.intervalSeconds.getD 60)
  timeoutSeconds := check.timeoutSeconds.getD 5
  enabled := check.enabled
  retryAttempts := some (check.retryAttempts.getD 2)
  retryIntervalSeconds := check.retryIntervalSeconds
  resendNotificationAfter := check.resendNotificationAfter
  tags := check.tags
  scriptCode := check.scriptCode
  config := settings.fields

/-- The check as `list_agent_checks` reads it. -/
def Check.read (check : Check) (settings : TypeSettings) : CheckInDB :=
  { settings with
    id := check.id
    displayName := check.displayName
    checkType := check.checkType
    target := check.target
    description := check.description
    intervalSeconds := check.intervalSeconds
    timeoutSeconds := check.timeoutSeconds
    enabled := check.enabled
    retryAttempts := check.retryAttempts
    retryIntervalSeconds := some check.retryIntervalSeconds
    resendNotificationAfter := check.resendNotificationAfter
    tags := check.tags
    scriptCode := check.scriptCode
    dependsOnCheckId := check.dependsOnCheckId }

theorem trim_of_tagOf {tag : Text} (kept : tagOf tag = some tag) : trim tag = tag := by
  simp only [tagOf] at kept
  split_ifs at kept
  exact Option.some.inj kept

theorem toInDB_eq_read (texts : check.TextsFit) (fits : settings.Fits)
    (tags : FitsTags check.tags) (stored : check.HasSettings settings) :
    check.toInDB = some (check.read (settings.keep check.checkType)) := by
  have trimmed : (check.tags.map fun tags => tags.map trim) = check.tags := by
    cases given : check.tags with
    | none => rfl
    | some listed =>
      have same : ∀ tag ∈ listed, trim tag = tag := fun tag mem =>
        trim_of_tagOf ((tags listed given).2 tag mem)
      rw [Option.map_some, List.map_congr_left same, List.map_id']
  rw [Check.toInDB, toResponse_eq_served texts fits stored, trimmed]
  rfl

/-- The numbers of the copy are in bounds. -/
theorem Check.Holds.fits_recreate (holds : check.Holds data settings) (fits : data.Fits)
    (kept : TypeSettings) : (check.recreate kept).Fits where
  displayName := (holds.textsFit fits).displayName
  target := (holds.textsFit fits).target
  description := (holds.textsFit fits).description
  intervalSeconds := by
    rintro n ⟨⟩
    rcases holds.intervalSeconds with given | cleared
    · rw [given]
      cases interval : data.intervalSeconds with
      | none => decide
      | some n => exact fits.intervalSeconds n interval
    · rw [cleared]
      decide
  timeoutSeconds := by
    rintro n ⟨⟩
    show 1 ≤ check.timeoutSeconds.getD 5 ∧ check.timeoutSeconds.getD 5 ≤ 300
    rcases holds.timeoutSeconds with given | cleared
    · rw [given]
      exact fits.timeoutSeconds _ rfl
    · rw [cleared]
      decide
  retryAttempts := by
    rintro n ⟨⟩
    rcases holds.retryAttempts with given | cleared
    · rw [given]
      cases attempts : data.retryAttempts with
      | none => decide
      | some n => exact fits.retryAttempts n attempts
    · rw [cleared]
      decide
  retryIntervalSeconds := by
    show FitsNumber 1 300 (some check.retryIntervalSeconds)
    exact holds.retryIntervalSeconds ▸ fits.retryIntervalSeconds
  resendNotificationAfter := by
    show FitsNumber 1 100 check.resendNotificationAfter
    exact holds.resendNotificationAfter ▸ fits.resendNotificationAfter
  tags := holds.fitsTags fits
  scriptCode := (holds.textsFit fits).scriptCode

/-- The copy is accepted where the check was. -/
theorem CheckCreate.Accepted.recreate {guards : Guards} (accepted : data.Accepted guards settings)
    (holds : check.Holds data settings) :
    (check.recreate (settings.keep check.checkType)).Accepted guards (settings.keep check.checkType) where
  fits := holds.fits_recreate accepted.fits _
  given := rfl
  settings := accepted.settings.keep _
  script := by
    have script := accepted.script
    simp only [CheckCreate.validateSynthetic, Check.recreate, holds.checkType, holds.scriptCode] at script ⊢
    by_cases synthetic : data.checkType = .synthetic
    · simpa only [if_pos synthetic] using script
    · rw [if_neg synthetic]
      rfl

/-! ## The entry of a check -/

/-- The entry holds what its schema keeps. -/
theorem stored_export {names : List (Id × Text)} (holds : check.Holds data settings) (fits : data.Fits)
    (settingsFit : settings.Fits)
    (named : ∀ parent name, Fields.get? parent names = some name → StoredText name) :
    ((check.read (settings.keep check.checkType)).export names).Stored where
  name := (fitsText_iff.mp (holds.textsFit fits).displayName).1
  target := (fitsText_iff.mp (holds.textsFit fits).target).1
  description s mem := (fitsText_iff.mp ((holds.textsFit fits).description s mem)).1
  settings := settingsFit.keep _
  tags := holds.fitsTags fits
  scriptCode := (holds.textsFit fits).scriptCode
  dependsOn s mem := by
    obtain ⟨parent, -, found⟩ := Option.bind_eq_some_iff.mp mem
    exact named parent s found
  oneParent := by
    simp only [CheckInDB.export]
    cases (check.read (settings.keep check.checkType)).dependsOnCheckId.bind fun parent =>
      Fields.get? parent names <;> rfl
  fieldsSet := rfl

/-- Its settings are those the copy is made with. -/
theorem checkCreate_export {names : List (Id × Text)} (holds : check.Holds data settings)
    (fits : data.Fits) (settingsFit : settings.Fits) :
    ((check.read (settings.keep check.checkType)).export names).checkCreate =
      some (check.recreate (settings.keep check.checkType)) := by
  have resend : (check.resendNotificationAfter.map Int.ofNat).mapM Int.toNat? =
      some check.resendNotificationAfter := by
    cases check.resendNotificationAfter <;> rfl
  have fits := holds.fits_recreate fits (settings.keep check.checkType)
  simp only [CheckExport.checkCreate, CheckInDB.export, Check.read, resend, Option.map_some,
    Option.getD_some, Int.toNat?, Option.bind_eq_bind, Option.bind_some]
  exact if_pos ⟨fits, settingsFit.keep _⟩

end Holds

end LuxSwirl.Server
