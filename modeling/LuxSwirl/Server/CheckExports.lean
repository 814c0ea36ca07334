import LuxSwirl.Server.CheckResultSchema
import LuxSwirl.Server.Checks

/-!
# An exported check

`import_export_schema.py`: an entry of an export, as a check is written to JSON and
read again, with what the schemas of `check_schema.py` ask of the settings an entry
gives. An entry's texts are stripped when it is made, so the schemas after it strip
nothing more.
-/

namespace LuxSwirl.Server
open LuxSwirl.Py LuxSwirl.Lib

/-! ## Reading a setting -/

def httpMethods : List String :=
  ["GET", "HEAD", "POST", "PUT", "PATCH", "DELETE", "OPTIONS", "TRACE", "CONNECT"]

def dnsRecordTypes : List String :=
  ["A", "AAAA", "CNAME", "MX", "TXT", "NS", "PTR", "SOA", "SRV", "CAA"]

def checkTypes : List CheckType := [.ping, .http, .tcp, .json, .dns, .mysql, .postgres, .synthetic]

def maxTags : Nat := 100

def maxTagLength : Nat := 100

/-- The format characters of Unicode, by their first and last. -/
def formatRanges : List (Nat × Nat) :=
  [(0xad, 0xad), (0x600, 0x605), (0x61c, 0x61c), (0x6dd, 0x6dd), (0x70f, 0x70f), (0x890, 0x891),
    (0x8e2, 0x8e2), (0x180e, 0x180e), (0x200b, 0x200f), (0x202a, 0x202e), (0x2060, 0x2064),
    (0x2066, 0x206f), (0xfeff, 0xfeff), (0xfff9, 0xfffb), (0x110bd, 0x110bd), (0x110cd, 0x110cd),
    (0x13430, 0x1343f), (0x1bca0, 0x1bca3), (0x1d173, 0x1d17a), (0xe0001, 0xe0001), (0xe0020, 0xe007f)]

/-- A control or format character, a line or paragraph separator, or a surrogate. -/
def isRefused : CodePoint → Bool
  | .scalar c => decide (c.toNat < 0x20 ∨ (0x7f ≤ c.toNat ∧ c.toNat < 0xa0) ∨ c.toNat = 0x2028 ∨
      c.toNat = 0x2029 ∨ ∃ range ∈ formatRanges, range.1 ≤ c.toNat ∧ c.toNat ≤ range.2)
  | _ => true

/-- `StorableText` of any length. -/
def readAnyText : Value → Option Value
  | .str s => if storableText (trim s) then some (.str (trim s)) else none
  | _ => none

def readInt (pydantic : Pydantic) (v : Value) : Option Value := (intIn pydantic v).map .int

/-- An enumeration in upper case, after `upper_or_none`; an empty text is unset. -/
def readWord (words : List String) : Value → Option Value
  | .none => some .none
  | .str s =>
    let word := upper (strip s)
    if word = [] then some .none else if word ∈ words.map text then some (.str word) else none
  | _ => none

/-- `Tag` -/
def tagOf (s : Text) : Option Text :=
  let tag := trim s
  if tag.length ≤ maxTagLength ∧ ∀ c ∈ tag, isRefused c = false then some tag else none

def readTag : Value → Option Value
  | .str s => (tagOf s).map .str
  | _ => none

/-- `TagList` -/
def readTags : Value → Option Value
  | .list items => if items.length ≤ maxTags then (items.mapM readTag).map .list else none
  | _ => none

/-! ## The settings of a type -/

/-- The settings only some types have. -/
structure TypeSettings where
  httpMethod : Option Text := none
  expectedStatus : Option Int := none
  jsonPath : Option Text := none
  expectedValue : Option Text := none
  verifySsl : Option Bool := none
  recordType : Option Text := none
  nameserver : Option Text := none
  port : Option Int := none
  expectValue : Option Text := none
  connectionString : Option Text := none
  query : Option Text := none
  deriving DecidableEq

/-- A value that may be null. -/
def nullOr {α : Type} (value : α → Value) : Option α → Value
  | none => .none
  | some x => value x

/-- The settings as the fields of a request. -/
def TypeSettings.fields (settings : TypeSettings) : List (Key × Value) :=
  [(fieldKey "http_method", nullOr .str settings.httpMethod),
    (fieldKey "verify_ssl", nullOr .bool settings.verifySsl),
    (fieldKey "expected_status", nullOr .int settings.expectedStatus),
    (fieldKey "json_path", nullOr .str settings.jsonPath),
    (fieldKey "expected_value", nullOr .str settings.expectedValue),
    (fieldKey "record_type", nullOr .str settings.recordType),
    (fieldKey "nameserver", nullOr .str settings.nameserver),
    (fieldKey "port", nullOr .int settings.port),
    (fieldKey "expect_value", nullOr .str settings.expectValue),
    (fieldKey "connection_string", nullOr .str settings.connectionString),
    (fieldKey "query", nullOr .str settings.query)]

/-- A `StorableText` of at most some length, as it is stored. -/
abbrev FitsText (minLength maxLength : Nat) (s : Text) : Prop :=
  storableTextOf minLength maxLength s = some s

/-- What the create and update schemas ask of them. -/
structure TypeSettings.Fits (settings : TypeSettings) : Prop where
  httpMethod : ∀ word ∈ settings.httpMethod, word ∈ httpMethods.map text
  expectedStatus : ∀ n ∈ settings.expectedStatus, 100 ≤ n ∧ n ≤ 599
  jsonPath : ∀ s ∈ settings.jsonPath, FitsText 0 500 s
  expectedValue : ∀ s ∈ settings.expectedValue, FitsText 0 500 s
  recordType : ∀ word ∈ settings.recordType, word ∈ dnsRecordTypes.map text
  nameserver : ∀ s ∈ settings.nameserver, FitsText 0 255 s
  port : ∀ n ∈ settings.port, 1 ≤ n ∧ n ≤ 65535
  expectValue : ∀ s ∈ settings.expectValue, FitsText 0 500 s
  connectionString : ∀ s ∈ settings.connectionString, FitsText 0 1000 s
  query : ∀ s ∈ settings.query, FitsText 0 5000 s

instance (settings : TypeSettings) : Decidable settings.Fits :=
  decidable_of_iff
    ((∀ word ∈ settings.httpMethod, word ∈ httpMethods.map text) ∧
      (∀ n ∈ settings.expectedStatus, 100 ≤ n ∧ n ≤ 599) ∧ (∀ s ∈ settings.jsonPath, FitsText 0 500 s) ∧
      (∀ s ∈ settings.expectedValue, FitsText 0 500 s) ∧
      (∀ word ∈ settings.recordType, word ∈ dnsRecordTypes.map text) ∧
      (∀ s ∈ settings.nameserver, FitsText 0 255 s) ∧ (∀ n ∈ settings.port, 1 ≤ n ∧ n ≤ 65535) ∧
      (∀ s ∈ settings.expectValue, FitsText 0 500 s) ∧
      (∀ s ∈ settings.connectionString, FitsText 0 1000 s) ∧ ∀ s ∈ settings.query, FitsText 0 5000 s)
    ⟨fun ⟨a, b, c, d, e, f, g, h, i, j⟩ => ⟨a, b, c, d, e, f, g, h, i, j⟩,
      fun ⟨a, b, c, d, e, f, g, h, i, j⟩ => ⟨a, b, c, d, e, f, g, h, i, j⟩⟩

/-! ## An entry -/

structure CheckExport extends TypeSettings where
  name : Text
  checkType : CheckType
  target : Text
  interval : Int
  timeout : Int
  retryAttempts : Int
  enabled : Bool
  description : Option Text
  tags : Option (List Text)
  retryIntervalSeconds : Option Int
  resendNotificationAfter : Option Int
  scriptCode : Option Text
  /-- The parent by its name on the agent imported onto, -/
  dependsOn : Option Text
  /-- or another agent's check by its id. -/
  dependsOnCheckId : Option Uuid
  /-- `model_fields_set` -/
  fieldsSet : List Key
  deriving DecidableEq

def defaultField (key : String) (default : Value) (read : Value → Option Value) :
    Schema.Field Key Value :=
  { key := fieldKey key, default := some default, read }

def wordField (key : String) (words : List String) : Schema.Field Key Value :=
  { key := fieldKey key, default := some .none, read := readWord words }

def checkExportFields (pydantic : Pydantic) : List (Schema.Field Key Value) :=
  [requiredField "name" readAnyText,
    requiredField "check_type" (readOneOf (checkTypes.map CheckType.value)),
    requiredField "target" readAnyText,
    defaultField "interval" (.int 60) (readInt pydantic),
    defaultField "timeout" (.int 5) (readInt pydantic),
    defaultField "retry_attempts" (.int 2) (readInt pydantic),
    defaultField "enabled" (.bool true) (readBool pydantic),
    optionalField "description" readAnyText,
    wordField "http_method" httpMethods,
    optionalField "expected_status" (readInt pydantic),
    optionalField "json_path" readAnyText,
    optionalField "expected_value" readAnyText,
    optionalField "tags" readTags,
    optionalField "retry_interval_seconds" (readInt pydantic),
    optionalField "resend_notification_after" (readInt pydantic),
    optionalField "verify_ssl" (readBool pydantic),
    wordField "record_type" dnsRecordTypes,
    optionalField "nameserver" readAnyText,
    optionalField "port" (readInt pydantic),
    optionalField "expect_value" readAnyText,
    optionalField "connection_string" readAnyText,
    optionalField "query" readAnyText,
    optionalField "script_code" readAnyText,
    optionalField "depends_on" readAnyText,
    optionalField "depends_on_check_id" readUuid]

/-! The attributes of a validated entry. -/

def asText : Value → Option Text
  | .str s => some s
  | _ => none

def asInt : Value → Option Int
  | .int n => some n
  | _ => none

def asBool : Value → Option Bool
  | .bool b => some b
  | _ => none

def asTexts : Value → Option (List Text)
  | .list items => some (items.filterMap asText)
  | _ => none

/-- An attribute of a record. -/
def valueAt (record : List (Key × Value)) (field : String) : Value :=
  (Fields.get? (fieldKey field) record).getD .none

theorem valueAt_cons (a b : String) (value : Value) (rest : List (Key × Value)) :
    valueAt ((fieldKey a, value) :: rest) b = if a = b then value else valueAt rest b := by
  rw [valueAt, Fields.get?_cons]
  by_cases same : a = b <;> simp [valueAt, same]

@[simp] theorem asText_str (s : Text) : asText (.str s) = some s := rfl

@[simp] theorem asInt_int (n : Int) : asInt (.int n) = some n := rfl

@[simp] theorem asBool_bool (b : Bool) : asBool (.bool b) = some b := rfl

@[simp] theorem asText_nullOr (s : Option Text) : asText (nullOr .str s) = s := by
  cases s <;> rfl

@[simp] theorem asInt_nullOr (n : Option Int) : asInt (nullOr .int n) = n := by
  cases n <;> rfl

@[simp] theorem asBool_nullOr (b : Option Bool) : asBool (nullOr .bool b) = b := by
  cases b <;> rfl

@[simp] theorem asTexts_nullOr (tags : Option (List Text)) :
    asTexts (nullOr (fun tags => .list (tags.map .str)) tags) = tags := by
  cases tags with
  | none => rfl
  | some tags => simp [nullOr, asTexts, List.filterMap_map, Function.comp_def]

def CheckType.ofValue (s : Text) : Option CheckType :=
  checkTypes.find? fun checkType => decide (text checkType.value = s)

def CheckExport.ofRecord (record : List (Key × Value)) (fieldsSet : List Key) : Option CheckExport := do
  return {
    name := ← asText (valueAt record "name")
    checkType := ← (asText (valueAt record "check_type")).bind CheckType.ofValue
    target := ← asText (valueAt record "target")
    interval := ← asInt (valueAt record "interval")
    timeout := ← asInt (valueAt record "timeout")
    retryAttempts := ← asInt (valueAt record "retry_attempts")
    enabled := ← asBool (valueAt record "enabled")
    description := asText (valueAt record "description")
    httpMethod := asText (valueAt record "http_method")
    expectedStatus := asInt (valueAt record "expected_status")
    jsonPath := asText (valueAt record "json_path")
    expectedValue := asText (valueAt record "expected_value")
    tags := asTexts (valueAt record "tags")
    retryIntervalSeconds := asInt (valueAt record "retry_interval_seconds")
    resendNotificationAfter := asInt (valueAt record "resend_notification_after")
    verifySsl := asBool (valueAt record "verify_ssl")
    recordType := asText (valueAt record "record_type")
    nameserver := asText (valueAt record "nameserver")
    port := asInt (valueAt record "port")
    expectValue := asText (valueAt record "expect_value")
    connectionString := asText (valueAt record "connection_string")
    query := asText (valueAt record "query")
    scriptCode := asText (valueAt record "script_code")
    dependsOn := asText (valueAt record "depends_on")
    dependsOnCheckId := (asText (valueAt record "depends_on_check_id")).bind Uuid.read
    fieldsSet }

@[simp] theorem CheckType.ofValue_value (checkType : CheckType) :
    CheckType.ofValue (text checkType.value) = some checkType := by
  cases checkType <;> decide

/-- `CheckExport.model_validate`. A field it does not name is refused, and so is a
parent named twice. -/
def CheckExport.modelValidate (pydantic : Pydantic) (raw : List (Key × Value)) : Option CheckExport :=
  let schema := checkExportFields pydantic
  if raw.any fun entry => decide (entry.1 ∉ schema.map (·.key)) then none
  else do
    let record ← Schema.validate schema raw
    let entry ← CheckExport.ofRecord record (raw.map (·.1))
    if entry.dependsOn.isSome && entry.dependsOnCheckId.isSome then none else some entry

/-- `model_dump(mode="json")` -/
def CheckExport.modelDump (entry : CheckExport) : List (Key × Value) :=
  [(fieldKey "name", .str entry.name),
    (fieldKey "check_type", .str (text entry.checkType.value)),
    (fieldKey "target", .str entry.target),
    (fieldKey "interval", .int entry.interval),
    (fieldKey "timeout", .int entry.timeout),
    (fieldKey "retry_attempts", .int entry.retryAttempts),
    (fieldKey "enabled", .bool entry.enabled),
    (fieldKey "description", nullOr .str entry.description),
    (fieldKey "http_method", nullOr .str entry.httpMethod),
    (fieldKey "expected_status", nullOr .int entry.expectedStatus),
    (fieldKey "json_path", nullOr .str entry.jsonPath),
    (fieldKey "expected_value", nullOr .str entry.expectedValue),
    (fieldKey "tags", nullOr (fun tags => .list (tags.map .str)) entry.tags),
    (fieldKey "retry_interval_seconds", nullOr .int entry.retryIntervalSeconds),
    (fieldKey "resend_notification_after", nullOr .int entry.resendNotificationAfter),
    (fieldKey "verify_ssl", nullOr .bool entry.verifySsl),
    (fieldKey "record_type", nullOr .str entry.recordType),
    (fieldKey "nameserver", nullOr .str entry.nameserver),
    (fieldKey "port", nullOr .int entry.port),
    (fieldKey "expect_value", nullOr .str entry.expectValue),
    (fieldKey "connection_string", nullOr .str entry.connectionString),
    (fieldKey "query", nullOr .str entry.query),
    (fieldKey "script_code", nullOr .str entry.scriptCode),
    (fieldKey "depends_on", nullOr .str entry.dependsOn),
    (fieldKey "depends_on_check_id", nullOr (fun uuid => .str uuid.str) entry.dependsOnCheckId)]

/-- The entry says what its check depends on, nothing included. -/
def CheckExport.namesParent (entry : CheckExport) : Bool :=
  decide (fieldKey "depends_on" ∈ entry.fieldsSet ∨ fieldKey "depends_on_check_id" ∈ entry.fieldsSet)

/-! ## The settings an entry gives -/

/-- Null, or in bounds. -/
abbrev FitsNumber (least greatest : Nat) (n : Option Nat) : Prop :=
  ∀ m ∈ n, least ≤ m ∧ m ≤ greatest

abbrev FitsTags (tags : Option (List Text)) : Prop :=
  ∀ given ∈ tags, given.length ≤ maxTags ∧ ∀ tag ∈ given, tagOf tag = some tag

/-- A script, as it is stored. -/
abbrev FitsScript (script : Option Text) : Prop :=
  ∀ s ∈ script, readAnyText (.str s) = some (.str s)

/-- What `CheckCreate` asks of its fields, those of a type apart. -/
structure CheckCreate.Fits (data : CheckCreate) : Prop where
  displayName : FitsText 1 255 data.displayName
  target : FitsText 1 512 data.target
  description : ∀ s ∈ data.description, FitsText 0 1000 s
  intervalSeconds : FitsNumber 1 86400 data.intervalSeconds
  timeoutSeconds : FitsNumber 1 300 (some data.timeoutSeconds)
  retryAttempts : FitsNumber 0 10 data.retryAttempts
  retryIntervalSeconds : FitsNumber 1 300 (some data.retryIntervalSeconds)
  resendNotificationAfter : FitsNumber 1 100 data.resendNotificationAfter
  tags : FitsTags data.tags
  scriptCode : FitsScript data.scriptCode

instance (data : CheckCreate) : Decidable data.Fits :=
  decidable_of_iff
    (FitsText 1 255 data.displayName ∧ FitsText 1 512 data.target ∧
      (∀ s ∈ data.description, FitsText 0 1000 s) ∧ FitsNumber 1 86400 data.intervalSeconds ∧
      FitsNumber 1 300 (some data.timeoutSeconds) ∧ FitsNumber 0 10 data.retryAttempts ∧
      FitsNumber 1 300 (some data.retryIntervalSeconds) ∧
      FitsNumber 1 100 data.resendNotificationAfter ∧ FitsTags data.tags ∧ FitsScript data.scriptCode)
    ⟨fun ⟨a, b, c, d, e, f, g, h, i, j⟩ => ⟨a, b, c, d, e, f, g, h, i, j⟩,
      fun ⟨a, b, c, d, e, f, g, h, i, j⟩ => ⟨a, b, c, d, e, f, g, h, i, j⟩⟩

/-- What `CheckUpdate` asks of the numbers an entry sets; it bounds no text of one. -/
def CheckUpdate.Fits (data : CheckUpdate) : Prop :=
  FitsNumber 1 86400 data.intervalSeconds.join ∧ FitsNumber 1 300 data.timeoutSeconds.join ∧
    FitsNumber 0 10 data.retryAttempts.join ∧ FitsNumber 1 300 data.retryIntervalSeconds.join ∧
    FitsNumber 1 100 data.resendNotificationAfter.join

instance (data : CheckUpdate) : Decidable data.Fits := by
  unfold CheckUpdate.Fits
  infer_instance

namespace CheckExport

/-- `CheckCreate.model_validate` of the entry's name and settings. An optional
setting that is null is left out, and gets the schema's default. -/
def checkCreate (entry : CheckExport) : Option CheckCreate := do
  let data : CheckCreate :=
    { displayName := entry.name
      checkType := entry.checkType
      target := entry.target
      description := entry.description
      intervalSeconds := some (← entry.interval.toNat?)
      timeoutSeconds := ← entry.timeout.toNat?
      enabled := entry.enabled
      retryAttempts := some (← entry.retryAttempts.toNat?)
      retryIntervalSeconds := ← (entry.retryIntervalSeconds.getD 30).toNat?
      resendNotificationAfter := ← entry.resendNotificationAfter.mapM Int.toNat?
      tags := entry.tags
      scriptCode := entry.scriptCode
      config := entry.toTypeSettings.fields }
  if data.Fits ∧ entry.toTypeSettings.Fits then some data else none

/-- `CheckUpdate.model_validate` of the entry's settings. A setting of a type that is
null is as good as left out: an update stores none. -/
def checkUpdate (entry : CheckExport) : Option CheckUpdate := do
  let data : CheckUpdate :=
    { checkType := some (some entry.checkType)
      target := some (some entry.target)
      description := some entry.description
      intervalSeconds := some (some (← entry.interval.toNat?))
      timeoutSeconds := some (some (← entry.timeout.toNat?))
      enabled := some (some entry.enabled)
      retryAttempts := some (some (← entry.retryAttempts.toNat?))
      retryIntervalSeconds := (← entry.retryIntervalSeconds.mapM Int.toNat?).map some
      resendNotificationAfter := (← entry.resendNotificationAfter.mapM Int.toNat?).map some
      tags := some entry.tags
      scriptCode := entry.scriptCode.map some
      config := entry.toTypeSettings.fields }
  if data.Fits ∧ entry.toTypeSettings.Fits then some data else none

end CheckExport

end LuxSwirl.Server
