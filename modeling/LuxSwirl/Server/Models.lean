import LuxSwirl.Lib.Newest
import LuxSwirl.Py.Builtins
import Mathlib.Algebra.Order.Group.Int
import Mathlib.Data.List.Sort

/-!
# The server's tables

The rows alert evaluation reads and writes, and the queries it makes. A table
is the list of its rows. `check_results` has its newest insert first,
`notification_logs` its newest insert last; a query that orders its rows sorts
them itself.

A `trigger_config` is in the normal form the admin API stores, and the state
key that evaluation keeps in `notification_logs.notification_hash` is its
meaning, not its text: keys are only written and compared.
-/

namespace LuxSwirl.Server
open LuxSwirl.Py LuxSwirl.Lib

/-- A row id. -/
abbrev Id := Nat

/-- A point in time or a time difference, in microseconds. -/
abbrev Time := Int

def seconds (n : Int) : Time := n * 1000000

def minutes (n : Int) : Time := seconds (n * 60)

/-! ## Enumerations -/

inductive AlertTriggerType where
  | statusChange
  | threshold
  | repeatedFailure
  | sslCertExpiry
  | noData
  | agentOffline
  deriving DecidableEq

inductive NotificationStatus where
  | sent
  | failed
  | retrying
  | rateLimited
  | deduplicated
  | suppressed
  deriving DecidableEq

inductive AgentStatus where
  | online
  | degraded
  | offline
  | unknown
  deriving DecidableEq

inductive AgentApprovalStatus where
  | pending
  | active
  | paused
  | disabled
  | archived
  | rejected
  deriving DecidableEq

inductive AssignmentMode where
  | manual
  | replicate
  | distribute
  deriving DecidableEq

inductive CheckType where
  | ping
  | http
  | tcp
  | json
  | dns
  | mysql
  | postgres
  | synthetic
  deriving DecidableEq

/-- What a result says of its check, as `on_status` lists it. -/
inductive Status where
  | error
  | success
  deriving DecidableEq

inductive Operator where
  | gt
  | ge
  | lt
  | le
  | eq
  deriving DecidableEq

/-! ## Rows -/

/-- Which checks a global alert reaches; the agents' ids are stored as their texts. -/
structure CheckFilters where
  agentIds : Option (List Id) := none
  checkTypes : Option (List CheckType) := none
  checkNames : Option (List Text) := none
  tags : Option (List Text) := none
  deriving DecidableEq

/-- An alert's `trigger_config`; each trigger type reads its own keys. -/
structure TriggerConfig where
  onStatus : Option (List Status) := none
  consecutiveFailures : Option Nat := none
  operator : Option Operator := none
  value : Option Py.Float := none
  daysThresholds : List Int := []
  daysThreshold : Option Int := none
  missedIntervals : Option Int := none
  checkFilters : Option CheckFilters := none
  deriving DecidableEq

structure Alert where
  id : Id
  triggerType : AlertTriggerType
  triggerConfig : TriggerConfig := {}
  isEnabled : Bool := true
  isGlobal : Bool := false
  notifyOnRecovery : Bool := true
  resendIntervalMinutes : Option Nat := none
  maxResends : Option Nat := none
  deletedAt : Option Time := none
  deriving DecidableEq

/-- The alert is set up on the check; the pair may be snoozed. -/
structure AlertCheckMapping where
  alertId : Id
  checkId : Id
  isEnabled : Bool := true
  snoozedUntil : Option Time := none
  deriving DecidableEq

/-- The alert notifies through the provider. -/
structure AlertNotificationMapping where
  alertId : Id
  notificationProviderId : Id
  isEnabled : Bool := true
  deriving DecidableEq

structure NotificationProvider where
  id : Id
  isEnabled : Bool := true
  rateLimitCount : Option Nat := none
  rateLimitWindowMinutes : Option Nat := some 60
  deletedAt : Option Time := none
  deriving DecidableEq

inductive MatchMode where
  | all
  | any
  deriving DecidableEq

/-- Which agents a replicate or distribute check runs on. -/
structure AgentSelector where
  agentIds : Option (List Text) := none
  tags : Option (List Text) := none
  matchMode : MatchMode := .all
  deriving DecidableEq

/-- A check; `checkConfig` holds the fields of its type. -/
structure Check where
  id : Id
  agentId : Id
  displayName : Text := []
  checkType : CheckType := .ping
  target : Text := []
  description : Option Text := none
  enabled : Bool := true
  intervalSeconds : Option Nat := none
  timeoutSeconds : Option Nat := none
  retryAttempts : Option Nat := none
  retryIntervalSeconds : Nat := 30
  resendNotificationAfter : Option Nat := none
  tags : Option (List Text) := none
  checkConfig : Option (List (Key × Value)) := none
  scriptCode : Option Text := none
  assignmentMode : AssignmentMode := .manual
  agentSelector : Option AgentSelector := none
  dependsOnCheckId : Option Id := none
  createdAt : Time
  updatedAt : Time := createdAt
  deriving DecidableEq

structure Agent where
  id : Id
  agentName : Option Text := none
  tags : List Text := []
  status : Option AgentStatus := none
  approvalStatus : AgentApprovalStatus
  lastSeen : Option Time := none
  heartbeatInterval : Option Nat := none
  createdAt : Time
  checksUpdatedAt : Option Time := none
  deriving DecidableEq

/-- A stored result. Its metrics are the JSON object stored with it, empty when
there is none. -/
structure CheckResult where
  id : Id
  checkId : Id
  agentId : Id
  timestamp : Time
  success : Bool
  latencyMs : Option Py.Float := none
  metrics : List (Key × Value) := []

/-- What `notification_hash` records: the state the alert was in. -/
inductive StateKey where
  | parentDown
  | statusUp
  | statusDown
  /-- `threshold:latency_ms:{operator}:{value}` -/
  | threshold (operator : Operator) (value : Option Py.Float)
  | repeatedFailure
  | sslUnknown
  /-- `ssl:lte:{days}` -/
  | sslWithin (days : Int)
  | sslOk
  /-- `{trigger_type}:active` -/
  | active (triggerType : AlertTriggerType)
  /-- `no_data:silent` -/
  | checkSilent
  /-- `no_data:agent_offline` -/
  | checkSuppressed
  /-- `no_data:reporting` -/
  | checkReporting
  /-- `agent_offline:offline` -/
  | agentOffline
  /-- `agent_offline:online` -/
  | agentOnline
  deriving DecidableEq

structure NotificationLog where
  alertId : Id
  notificationProviderId : Id
  checkResultId : Option Id := none
  checkId : Option Id := none
  agentId : Option Id := none
  checkSuccess : Option Bool := none
  status : NotificationStatus
  sentAt : Time
  notificationHash : Option StateKey := none
  isResend : Bool := false
  resendCount : Nat := 0
  deriving DecidableEq

structure Db where
  alerts : List Alert := []
  checkMappings : List AlertCheckMapping := []
  notificationMappings : List AlertNotificationMapping := []
  providers : List NotificationProvider := []
  checks : List Check := []
  agents : List Agent := []
  results : List CheckResult := []
  logs : List NotificationLog := []

/-- The statuses that say an evaluation was recorded. -/
def dedupRelevantStatuses : List NotificationStatus :=
  [.sent, .failed, .rateLimited, .suppressed, .deduplicated]

namespace Db

/-! ## Alerts -/

def getAlert (db : Db) (alertId : Id) : Option Alert :=
  db.alerts.find? fun alert => decide (alert.id = alertId)

/-- The alert an enabled mapping sets up on a check, when it is enabled and live. -/
def activeAlert (db : Db) (checkId : Id) (mapping : AlertCheckMapping) : Option Alert :=
  if mapping.checkId = checkId ∧ mapping.isEnabled then
    (db.getAlert mapping.alertId).filter fun alert => alert.isEnabled && alert.deletedAt.isNone
  else none

/-- The enabled, live alerts set up on a check by an enabled mapping. -/
def listActiveAlertsForCheck (db : Db) (checkId : Id) : List Alert :=
  db.checkMappings.filterMap (db.activeAlert checkId)

/-- The enabled, live alerts of some trigger types. -/
def listEnabledAlertsByTrigger (db : Db) (triggerTypes : List AlertTriggerType) : List Alert :=
  db.alerts.filter fun alert =>
    decide (alert.triggerType ∈ triggerTypes) && alert.isEnabled && alert.deletedAt.isNone

def getCheckMapping (db : Db) (alertId checkId : Id) : Option AlertCheckMapping :=
  db.checkMappings.find? fun mapping => decide (mapping.alertId = alertId ∧ mapping.checkId = checkId)

/-- The providers an alert notifies: its enabled mappings' providers that are
not deleted. -/
def listLiveProviders (db : Db) (alertId : Id) : List NotificationProvider :=
  db.notificationMappings.filterMap fun mapping =>
    if mapping.alertId = alertId ∧ mapping.isEnabled then
      (db.providers.find? fun provider => decide (provider.id = mapping.notificationProviderId)).filter
        fun provider => provider.deletedAt.isNone
    else none

/-! ## Checks and results -/

def getCheck (db : Db) (checkId : Id) : Option Check :=
  db.checks.find? fun check => decide (check.id = checkId)

/-- The results of a check. -/
def resultsOf (db : Db) (checkId : Id) : List CheckResult :=
  db.results.filter fun result => decide (result.checkId = checkId)

/-- The newest results of a check, newest first. -/
def getRecentResultsForCheck (db : Db) (checkId : Id) (limit : Nat) : List CheckResult :=
  ((db.resultsOf checkId).insertionSort fun a b => b.timestamp ≤ a.timestamp).take limit

def getLatestResultForCheck (db : Db) (checkId : Id) : Option CheckResult :=
  (db.getRecentResultsForCheck checkId 1).head?

def getCheckResultById (db : Db) (resultId : Id) : Option CheckResult :=
  db.results.find? fun result => decide (result.id = resultId)

/-- When the check's newest result in the window from `since` on was. -/
def latestResultTime (db : Db) (checkId : Id) (since : Time) : Option Time :=
  (((db.resultsOf checkId).map (·.timestamp)).filter fun t => decide (since ≤ t)).max?

/-- When its newest result later than `after` was. -/
def newestResultAfter (db : Db) (checkId : Id) (after : Time) : Option Time :=
  (((db.resultsOf checkId).map (·.timestamp)).filter fun t => decide (after < t)).max?

/-! ## The notification log -/

/-- The rows of an alert and a check that say an evaluation was recorded. -/
def pairRows (db : Db) (alertId checkId : Id) : List NotificationLog :=
  db.logs.filter fun row =>
    decide (row.alertId = alertId ∧ row.checkId = some checkId ∧ row.status ∈ dedupRelevantStatuses)

/-- The newest of them. -/
def getLastNotificationForDedup (db : Db) (alertId checkId : Id) : Option NotificationLog :=
  newest (·.sentAt) (db.pairRows alertId checkId)

/-- The newest row that says so for an alert and an agent. -/
def lastNotificationForAgent (db : Db) (alertId agentId : Id) : Option NotificationLog :=
  newest (·.sentAt) <| db.logs.filter fun row =>
    decide (row.alertId = alertId ∧ row.agentId = some agentId ∧ row.status ∈ dedupRelevantStatuses)

def addNotificationLogs (rows : List NotificationLog) (db : Db) : Db :=
  { db with logs := db.logs ++ rows }

def addResult (result : CheckResult) (db : Db) : Db := { db with results := result :: db.results }

end Db

end LuxSwirl.Server
