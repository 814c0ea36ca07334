import LuxSwirl.Lib.InsertNew
import LuxSwirl.Server.AgentAssignment
import LuxSwirl.Server.CheckResultSchema
import LuxSwirl.Server.Checks
import LuxSwirl.Server.Reports
import Mathlib.Data.List.Infix

/-!
# Taking in a report

`process_agent_submission` validates the results of a report one by one, makes a
row of each that its agent may report, and inserts the rows; a row whose check and
time are stored is passed by. `ingested_exactly_iff` says which reports are taken
in exactly: the insert fails as a whole on an id and time that are stored already
and on a time no UTC date holds, and a result whose certificate cannot be read is
counted as failed.
-/

namespace LuxSwirl.Server.Ingestion
open LuxSwirl.Py LuxSwirl.Lib

/-- A JSON object, as it was decoded. -/
abbrev Object := List (Key × Value)

structure AgentReportSubmission where
  agentId : Id
  timestamp : Option Time := none
  checks : List Object

/-- A report whose results have been validated. -/
structure AgentReportRequest where
  agentId : Id
  timestamp : Option Time
  checks : List Object

/-- How dates are read. -/
structure Readers where
  pydantic : Pydantic
  /-- The instant of a date that a field keeps. -/
  instantOf : Value → Time
  /-- `_parse_expiry`, or none when it raises. -/
  parseExpiry : Text → Option (Option Time)

/-- What one request has from outside: the clock, the ids and the clocks for the
results by their places, and the settings. -/
structure Request where
  now : Time
  uuid7 : Nat → Id
  evaluatedAt : Nat → Time
  warningDays : Int
  criticalDays : Int

inductive ReportError where
  | agentNotFound
  /-- A date that cannot be converted to UTC. -/
  | dataError
  | uniqueViolation
  deriving DecidableEq

/-! ## Validation -/

/-- The valid results, and how many were refused. -/
def validateResults (pydantic : Pydantic) : List Object → List Object × Nat
  | [] => ([], 0)
  | raw :: rest =>
    let (valid, refused) := validateResults pydantic rest
    match validateResult pydantic (.dict raw) with
    | some result => (result :: valid, refused)
    | none => (valid, refused + 1)

def field (name : String) (result : Object) : Value :=
  (Fields.get? (fieldKey name) result).getD .none

/-! ## The certificate in a result's metrics -/

/-- `key in value`, or none for a `TypeError`. -/
def holdsKey (key : String) : Value → Option Bool
  | .dict fields => some (Fields.get? (fieldKey key) fields).isSome
  | .list items => some (decide (Value.str (text key) ∈ items))
  | .str s => some (decide (text key <:+: s))
  | _ => none

/-- `value[key]`, or none for an exception. -/
def getItem (key : String) : Value → Option Value
  | .dict fields => Fields.get? (fieldKey key) fields
  | _ => none

/-- `value[key] = item` -/
def setItem (key : String) (item : Value) : Value → Option Value
  | .dict fields => some (.dict (Fields.set (fieldKey key) item fields))
  | _ => none

def expiryFields (state : String) (expirationDate daysUntilExpiration : Value)
    (expired expiresSoon expiresCritical : Bool) : Object :=
  [(fieldKey "state", .str (text state)),
    (fieldKey "expiration_date", expirationDate),
    (fieldKey "days_until_expiration", daysUntilExpiration),
    (fieldKey "expired", .bool expired),
    (fieldKey "expires_soon", .bool expiresSoon),
    (fieldKey "expires_critical", .bool expiresCritical)]

def unknownExpiry (expirationDate : Value) : Object :=
  expiryFields "unknown" expirationDate .none false false false

/-- The flags of a certificate by the days it has left. -/
def knownExpiry (request : Request) (expirationDate : Value) (expiresAt : Time) : Object :=
  let daysRemaining := (expiresAt - request.now) / seconds 86400
  let expired := decide (daysRemaining < 0)
  let expiresSoon := decide (0 ≤ daysRemaining ∧ daysRemaining ≤ request.warningDays)
  let expiresCritical := decide (0 ≤ daysRemaining ∧ daysRemaining ≤ request.criticalDays)
  let state :=
    if expired then "expired" else if expiresCritical then "critical"
    else if expiresSoon then "soon" else "valid"
  expiryFields state expirationDate (.int daysRemaining) expired expiresSoon expiresCritical

/-- `ssl_expiry_fields`, or none when it raises. -/
def sslExpiryFields (readers : Readers) (request : Request) (expirationDate : Value) : Option Object :=
  if truthy expirationDate then
    match expirationDate with
    | .str s => (readers.parseExpiry s).map fun
      | some expiresAt => knownExpiry request expirationDate expiresAt
      | none => unknownExpiry expirationDate
    | _ => none
  else some (unknownExpiry expirationDate)

/-- The certificate with its flags, or none when it raises. -/
def computeSslCertInfo (readers : Readers) (request : Request) : Value → Option Object
  | .dict rawCert =>
    (sslExpiryFields readers request (field "expiration_date" rawCert)).map fun fields =>
      fields.foldl (fun cert entry => Fields.set entry.1 entry.2 cert) rawCert
  | _ => none

/-- The metrics with the flags of the certificate in them, if one is; none when
finding or computing it raises. What came as JSON is dumped without failing. -/
def processMetrics (readers : Readers) (request : Request) (metrics : Object) : Option Object :=
  match Fields.get? (fieldKey "response") metrics with
  | none => some metrics
  | some response => do
    if ← holdsKey "ssl_certificate" response then
      let rawCert ← getItem "ssl_certificate" response
      let computedCert ← computeSslCertInfo readers request rawCert
      let response ← setItem "ssl_certificate" (.dict computedCert) response
      return Fields.set (fieldKey "response") response metrics
    else return metrics

/-! ## The rows -/

/-- A row of `check_results`. -/
structure ResultRow where
  id : Id
  agentId : Id
  checkId : Id
  timestamp : Time
  success : Bool
  latencyMs : Value
  error : Value
  errorType : Value
  httpStatusCode : Value
  httpResponseTimeMs : Value
  metrics : Option Object
  responseData : Value

/-- The row as alert evaluation reads it. -/
def ResultRow.checkResult (row : ResultRow) : CheckResult where
  id := row.id
  checkId := row.checkId
  agentId := row.agentId
  timestamp := row.timestamp
  success := row.success
  latencyMs := match row.latencyMs with
    | .float x => some x
    | _ => none
  metrics := row.metrics.getD []

def ResultRow.key (row : ResultRow) : Id × Time := (row.checkId, row.timestamp)

def ResultRow.primaryKey (row : ResultRow) : Id × Time := (row.id, row.timestamp)

def resultKey (result : CheckResult) : Id × Time := (result.checkId, result.timestamp)

def resultPrimaryKey (result : CheckResult) : Id × Time := (result.id, result.timestamp)

/-- A valid result of a check its agent may report, with its place in the report. -/
structure Reported where
  check : Check
  result : Object
  place : Nat

/-- The result of a check in the map of those the agent may report. -/
def lookUp (checks : List Check) (entry : Object × Nat) : Option Reported :=
  (checks.find? fun check => decide (field "check_id" entry.1 = .str (Uuid.ofId check.id).str)).map
    (⟨·, entry.1, entry.2⟩)

/-- `check_data.metrics or {}` -/
def Reported.metrics (reported : Reported) : Object :=
  match field "metrics" reported.result with
  | .dict fields => fields
  | _ => []

/-- The result's own id, or a new one when it has none that is a UUID. -/
def Reported.id (request : Request) (reported : Reported) : Id :=
  match field "result_id" reported.result with
  | .str s => (Uuid.ofText s).getD (request.uuid7 reported.place)
  | _ => request.uuid7 reported.place

/-- The result's own time, or the report's. -/
def Reported.timestamp (readers : Readers) (timestamp : Time) (reported : Reported) : Time :=
  match field "timestamp" reported.result with
  | .none => timestamp
  | date => readers.instantOf date

def Reported.row (readers : Readers) (request : Request) (agent : Agent) (timestamp : Time)
    (reported : Reported) : Option ResultRow :=
  (processMetrics readers request reported.metrics).map fun metrics =>
    { id := reported.id request
      agentId := agent.id
      checkId := reported.check.id
      timestamp := reported.timestamp readers timestamp
      success := decide (field "success" reported.result = .bool true)
      latencyMs := field "latency_ms" reported.result
      error := field "error" reported.result
      errorType := field "error_type" reported.result
      httpStatusCode := field "http_status_code" reported.result
      httpResponseTimeMs := field "http_response_time_ms" reported.result
      metrics := if metrics = [] then none else some metrics
      responseData := field "response_data" reported.result }

/-- `check_data.display_name or "unknown"` -/
def displayName (result : Object) : Text :=
  match field "display_name" result with
  | .str [] => text "unknown"
  | .str s => s
  | _ => text "unknown"

/-- What the loop over the results has so far: the rows with the clocks at their
evaluation, the counts, and the names. -/
structure Progress where
  rowsToInsert : List (ResultRow × Time) := []
  resultsProcessed : Nat := 0
  resultsFailed : Nat := 0
  checkDisplayNames : List Text := []

/-- One turn: a result of no check the agent may report, or that raises, failed. -/
def processResult (readers : Readers) (request : Request) (agent : Agent) (checks : List Check)
    (timestamp : Time) (progress : Progress) (entry : Object × Nat) : Progress :=
  match (lookUp checks entry).bind (Reported.row readers request agent timestamp) with
  | none => { progress with resultsFailed := progress.resultsFailed + 1 }
  | some row =>
    { progress with
      rowsToInsert := progress.rowsToInsert ++ [(row, request.evaluatedAt entry.2)]
      resultsProcessed := progress.resultsProcessed + 1
      checkDisplayNames := progress.checkDisplayNames ++ [displayName entry.1] }

/-! ## The insert -/

/-- The years 1 to 9999. -/
def utcHolds (time : Time) : Bool :=
  decide (seconds (-62135596800) ≤ time ∧ time < seconds 253402300800)

def addRows (rows : List (ResultRow × Time)) (db : Db) : Db :=
  { db with results := (rows.map (·.1.checkResult)).reverse ++ db.results }

/-- One statement: `ON CONFLICT DO NOTHING` on the index of check and time. -/
def insertChunk (chunk : List (ResultRow × Time)) (db : Db) : Except ReportError (List (ResultRow × Time)) :=
  if chunk.all fun entry => utcHolds entry.1.timestamp then
    match insertNew (·.1.key) (·.1.primaryKey) (db.results.map resultKey)
        (db.results.map resultPrimaryKey) chunk with
    | some inserted => .ok inserted
    | none => .error .uniqueViolation
  else .error .dataError

def insertChunks : List (List (ResultRow × Time)) → Db → Except ReportError (List (ResultRow × Time) × Db)
  | [], db => .ok ([], db)
  | chunk :: rest, db => do
    let inserted ← insertChunk chunk db
    let (more, db) ← insertChunks rest (addRows inserted db)
    return (inserted ++ more, db)

def chunkSize : Nat := 1500

/-- The rows inserted, and the tables with them. -/
def bulkInsertIdempotent (rows : List (ResultRow × Time)) (db : Db) :
    Except ReportError (List (ResultRow × Time) × Db) :=
  insertChunks (slices chunkSize rows) db

/-! ## The report -/

structure Summary where
  agentId : Id
  receivedAt : Time
  resultsProcessed : Nat
  resultsFailed : Nat
  checkDisplayNames : List Text
  alertsEvaluated : Nat

/-- What a report that does not fail leaves: its summary, the rows it inserted, the
tables, and the notifications sent. -/
structure Ingested where
  summary : Summary
  inserted : List ResultRow
  db : Db
  notices : List Notice

def processAgentReport (readers : Readers) (outside : Outside) (request : Request)
    (report : AgentReportRequest) (db : Db) : Except ReportError Ingested :=
  let timestamp := report.timestamp.getD request.now
  match db.getAgent report.agentId with
  | none => .error .agentNotFound
  | some agent => do
    let assignedChecks := getReportableChecks outside request.now agent db
    let progress := report.checks.zipIdx.foldl
      (processResult readers request agent assignedChecks timestamp) {}
    let (inserted, db) ← bulkInsertIdempotent progress.rowsToInsert db
    let (db, notices) :=
      evaluateEach outside (inserted.map fun entry => (entry.1.checkResult, entry.2)) db
    return {
      summary :=
        { agentId := report.agentId
          receivedAt := timestamp
          resultsProcessed := progress.resultsProcessed
          resultsFailed := progress.resultsFailed
          checkDisplayNames := progress.checkDisplayNames
          alertsEvaluated := inserted.length }
      inserted := inserted.map (·.1)
      db, notices }

def processAgentSubmission (readers : Readers) (outside : Outside) (request : Request)
    (submission : AgentReportSubmission) (db : Db) : Except ReportError Ingested :=
  let (valid, refused) := validateResults readers.pydantic submission.checks
  (processAgentReport readers outside request ⟨submission.agentId, submission.timestamp, valid⟩ db).map
    fun ingested =>
      { ingested with
        summary := { ingested.summary with resultsFailed := ingested.summary.resultsFailed + refused } }

end LuxSwirl.Server.Ingestion
