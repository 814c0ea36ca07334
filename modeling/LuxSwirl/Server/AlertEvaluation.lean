import LuxSwirl.Server.Notifications

/-!
# Evaluating a result

`alert_evaluation_core_service.py`: for each alert set up on a result's check,
whether it fires, and whether its notification goes out, is a resend, or is
held back. The functions read the tables and return what they add to the
notification log, with the notifications they sent.

The clock is read once for an evaluation, where the source reads it at each
decision of it.
-/

namespace LuxSwirl.Server
open LuxSwirl.Py LuxSwirl.Lib

/-- What an evaluation sent, and the rows it added to the log. -/
structure Written where
  notices : List Notice := []
  rows : List NotificationLog := []

/-! ## The certificate in a result's metrics -/

/-- `value.get(key)`; only a dict has it. -/
def getField (key : String) : Value → Except EvaluationError (Option Value)
  | .dict fields => .ok (Fields.get? (.text (text key)) fields)
  | _ => .error .attributeError

/-- `metrics.get("response", {}).get("ssl_certificate")` -/
def sslCertificate (metrics : List (Key × Value)) : Except EvaluationError Value :=
  let response := (Fields.get? (.text (text "response")) metrics).getD (.dict [])
  (getField "ssl_certificate" response).map (·.getD .none)

/-- `certificate.get("days_until_expiration")` -/
def daysUntilExpiration (certificate : Value) : Except EvaluationError Value :=
  (getField "days_until_expiration" certificate).map (·.getD .none)

/-- `value <= days` -/
def leDays (days : Int) : Value → Except EvaluationError Bool
  | .int n => .ok (decide (n ≤ days))
  | .bool b => .ok (decide (((if b then 1 else 0) : Int) ≤ days))
  | .float x => .ok (x.le (.finite days))
  | _ => .error .typeError

/-- The thresholds of an expiry alert, one of its own or the list. -/
def TriggerConfig.thresholds (config : TriggerConfig) : List Int :=
  if config.daysThresholds = [] then [config.daysThreshold.getD 30] else config.daysThresholds

/-- The tightest of the sorted thresholds the expiry is within. -/
def bandOf (days : Value) : List Int → Except EvaluationError StateKey
  | [] => .ok .sslOk
  | threshold :: rest => do
    if ← leDays threshold days then return .sslWithin threshold
    bandOf days rest

/-! ## The state -/

/-- Which state the alert is in, as the log records it. -/
def computeAlertStateKey (alert : Alert) (checkResult : CheckResult) (parentDown : Bool := false) :
    Except EvaluationError StateKey :=
  if parentDown then .ok .parentDown
  else
    match alert.triggerType with
    | .statusChange => .ok (if checkResult.success then .statusUp else .statusDown)
    | .threshold =>
      .ok (.threshold (alert.triggerConfig.operator.getD .gt) alert.triggerConfig.value)
    | .repeatedFailure => .ok .repeatedFailure
    | .sslCertExpiry => do
      let certificate ← sslCertificate checkResult.metrics
      let certificate := if truthy certificate then certificate else .dict []
      match ← daysUntilExpiration certificate with
      | .none => return .sslUnknown
      | days => bandOf days (alert.triggerConfig.thresholds.insertionSort (· ≤ ·))
    | triggerType => .ok (.active triggerType)

/-! ## The triggers -/

def evaluateStatusChange (alert : Alert) (check : Check) (checkResult : CheckResult) (db : Db) : Bool :=
  let onStatus := alert.triggerConfig.onStatus.getD [.error]
  let consecutiveFailures := alert.triggerConfig.consecutiveFailures.getD 1
  let currentStatus := if checkResult.success then Status.success else .error
  if currentStatus = .success ∧ alert.notifyOnRecovery then
    -- a recovery: the result before this one failed
    match db.getRecentResultsForCheck check.id 2 with
    | _ :: previous :: _ => !previous.success
    | _ => false
  else if currentStatus ∉ onStatus then false
  else if consecutiveFailures > 1 then
    let recent := db.getRecentResultsForCheck check.id consecutiveFailures
    if recent.length < consecutiveFailures then false else recent.all fun result => !result.success
  else true

def Operator.holds (operator : Operator) (current threshold : Py.Float) : Bool :=
  match operator with
  | .gt => threshold.lt current
  | .ge => threshold.le current
  | .lt => current.lt threshold
  | .le => current.le threshold
  | .eq => current.eq threshold

def evaluateThreshold (alert : Alert) (checkResult : CheckResult) : Bool :=
  match alert.triggerConfig.value, checkResult.latencyMs with
  | some threshold, some current => (alert.triggerConfig.operator.getD .gt).holds current threshold
  | _, _ => false

/-- The trigger of `status_change`, under another name. -/
def evaluateRepeatedFailure (alert : Alert) (check : Check) (checkResult : CheckResult) (db : Db) :
    Bool :=
  evaluateStatusChange alert check checkResult db

/-- The newest notification told of an expiry in a band, or of one that could
not be read. -/
def StateKey.isExpiry : StateKey → Bool
  | .sslWithin _ => true
  | .sslUnknown => true
  | _ => false

def evaluateSslCertExpiry (alert : Alert) (check : Check) (checkResult : CheckResult) (db : Db) :
    Except EvaluationError Bool := do
  if checkResult.metrics = [] then return false
  let certificate ← sslCertificate checkResult.metrics
  if !truthy certificate then return false
  match ← daysUntilExpiration certificate with
  | .none => return true
  | days =>
    if ← leDays (alert.triggerConfig.thresholds.max?.getD 0) days then return true
    if !alert.notifyOnRecovery then return false
    match db.getLastNotificationForDedup alert.id check.id with
    | none => return false
    | some last => return last.notificationHash.any StateKey.isExpiry

/-- Whether the alert's trigger is met. -/
def shouldFireAlert (alert : Alert) (check : Check) (checkResult : CheckResult) (db : Db) :
    Except EvaluationError Bool :=
  match alert.triggerType with
  | .statusChange => .ok (evaluateStatusChange alert check checkResult db)
  | .threshold => .ok (evaluateThreshold alert checkResult)
  | .repeatedFailure => .ok (evaluateRepeatedFailure alert check checkResult db)
  | .sslCertExpiry => evaluateSslCertExpiry alert check checkResult db
  | _ => .ok false

/-! ## Firing -/

/-- Whether this fire tells of a recovery. -/
def isRecovery (alert : Alert) (checkResult : CheckResult) : Except EvaluationError Bool :=
  if !alert.notifyOnRecovery then .ok false
  else
    match alert.triggerType with
    | .sslCertExpiry => (computeAlertStateKey alert checkResult).map fun key => decide (key = .sslOk)
    | _ => .ok checkResult.success

/-- The row the pair's newest recorded state is suppressed with, for each live provider. -/
def suppressedRows (now : Time) (alert : Alert) (check : Check) (checkResult : CheckResult)
    (stateKey : StateKey) (db : Db) : List NotificationLog :=
  (db.listLiveProviders alert.id).map fun provider =>
    { alertId := alert.id
      notificationProviderId := provider.id
      checkResultId := some checkResult.id
      checkId := some check.id
      checkSuccess := some checkResult.success
      status := .suppressed
      sentAt := now
      notificationHash := some stateKey }

/-- A suppression is recorded once, when the state is entered. -/
def shouldLogSuppression (alert : Alert) (check : Check) (stateKey : StateKey) (db : Db) : Bool :=
  match db.getLastNotificationForDedup alert.id check.id with
  | none => true
  | some last => last.notificationHash != some stateKey

/-- The parent check is down: its newest result failed. -/
def parentIsDown (check : Check) (db : Db) : Bool :=
  match check.dependsOnCheckId with
  | none => false
  | some parentId => (db.getLatestResultForCheck parentId).any fun result => !result.success

/-- The rows written while the parent is down; none when it is not. -/
def handleParentSuppression (now : Time) (alert : Alert) (check : Check) (checkResult : CheckResult)
    (db : Db) : Option (List NotificationLog) :=
  if parentIsDown check db then
    some <| if shouldLogSuppression alert check .parentDown db then
      suppressedRows now alert check checkResult .parentDown db else []
  else none

/-- The pair is snoozed right now. -/
def isSnoozed (now : Time) (alertId checkId : Id) (db : Db) : Bool :=
  ((db.getCheckMapping alertId checkId).bind (·.snoozedUntil)).any fun snoozedUntil =>
    decide (now < snoozedUntil)

/-- Whether the alert has left the state the last notification recorded. -/
def stateChangedSince (alert : Alert) (checkResult : CheckResult) (last : NotificationLog) (db : Db) :
    Except EvaluationError Bool :=
  match last.notificationHash with
  | some recorded => (computeAlertStateKey alert checkResult).map fun key => recorded != key
  | none =>
    .ok <| match last.checkResultId.bind db.getCheckResultById with
    | none => true
    | some lastResult => lastResult.success != checkResult.success

/-- Send, and not as a resend. -/
def SendDecision.fresh : SendDecision := ⟨true, false, 0⟩

def SendDecision.skip : SendDecision := ⟨false, false, 0⟩

/-- In the same state: resend once the interval has passed, up to `max_resends`. -/
def resendDecision (now : Time) (alert : Alert) (last : NotificationLog) : SendDecision :=
  match alert.resendIntervalMinutes with
  | none => .skip
  | some interval =>
    if now - last.sentAt < minutes interval then .skip
    else if alert.maxResends.any fun limit => decide (limit < last.resendCount + 1) then
      ⟨false, true, last.resendCount⟩
    else ⟨true, true, last.resendCount + 1⟩

def shouldSendNotification (now : Time) (alert : Alert) (check : Check) (checkResult : CheckResult)
    (db : Db) : Except EvaluationError SendDecision :=
  if isSnoozed now alert.id check.id db then .ok .skip
  else
    match db.getLastNotificationForDedup alert.id check.id with
    | none => .ok .fresh
    | some last => do
      if ← stateChangedSince alert checkResult last db then return .fresh
      return resendDecision now alert last

/-- Fire an alert through its providers. -/
def fireAlert (outside : Outside) (now : Time) (alert : Alert) (check : Check)
    (checkResult : CheckResult) (db : Db) : Except EvaluationError Written := do
  let recovery ← isRecovery alert checkResult
  let suppressed :=
    if recovery then none else handleParentSuppression now alert check checkResult db
  match suppressed with
  | some rows => return { rows }
  | none =>
    let decision ← shouldSendNotification now alert check checkResult db
    if !decision.send then return {}
    let stateKey ← computeAlertStateKey alert checkResult
    let notice : Notice :=
      { alertId := alert.id
        stateKey
        checkId := some check.id
        checkResultId := some checkResult.id
        context := { success := checkResult.success, isRecovery := recovery }
        decision }
    let rows ← sendToProviders outside now notice db
    return { notices := if rows = [] then [] else [notice], rows }

/-- Evaluate one alert on a result. -/
def evaluateAlert (outside : Outside) (now : Time) (alert : Alert) (check : Check)
    (checkResult : CheckResult) (db : Db) : Except EvaluationError Written :=
  if alert.triggerType = .noData ∨ alert.triggerType = .agentOffline then .ok {}
  else do
    if ← shouldFireAlert alert check checkResult db then
      fireAlert outside now alert check checkResult db
    else return {}

/-- Evaluate some alerts in turn; one that fails leaves nothing behind. -/
def evaluateAlerts (outside : Outside) (now : Time) (check : Check) (checkResult : CheckResult) :
    List Alert → Db → Db × List Notice
  | [], db => (db, [])
  | alert :: rest, db =>
    match evaluateAlert outside now alert check checkResult db with
    | .error _ => evaluateAlerts outside now check checkResult rest db
    | .ok written =>
      let (db, notices) :=
        evaluateAlerts outside now check checkResult rest (db.addNotificationLogs written.rows)
      (db, written.notices ++ notices)

/-- Evaluate a stored result against every alert on its check. -/
def evaluateCheckResult (outside : Outside) (now : Time) (checkResult : CheckResult) (db : Db) :
    Db × List Notice :=
  match db.getCheck checkResult.checkId with
  | none => (db, [])
  | some check =>
    evaluateAlerts outside now check checkResult (db.listActiveAlertsForCheck check.id) db

end LuxSwirl.Server
