import LuxSwirl.Server.AgentAssignment
import LuxSwirl.Server.AlertEvaluation

/-!
# The silence pass

`silence_alert_core_service.py`: the alerts that fire on the absence of data. A
pass decides first, reading only, and then sends or records what it decided,
one notice after another. A silence is an episode, told from the newest row of
the log for the alert and its subject, and from the results since.

The clock is read once for the deciding and once for each notice recorded.
-/

namespace LuxSwirl.Server
open LuxSwirl.Py LuxSwirl.Lib

/-- One thing a pass decided to record. -/
inductive PassNotice where
  | send (notice : Notice)
  | suppress (alertId checkId : Id)
  deriving DecidableEq

/-- The alert's `missed_intervals`, or the default when unset or unusable. -/
def missedIntervals (alert : Alert) : Int :=
  match alert.triggerConfig.missedIntervals with
  | some value => if 1 ≤ value ∧ value ≤ maxMissedIntervals then value else defaultMissedIntervals
  | none => defaultMissedIntervals

/-- The newest row records a silence of the check that no result has ended since. -/
def episodeOpen (check : Check) (lastRow : Option NotificationLog) (lastResult : Option Time)
    (db : Db) : Bool :=
  match lastRow with
  | none => false
  | some row =>
    if row.notificationHash = some .checkSilent ∨ row.notificationHash = some .checkSuppressed then
      match lastResult.orElse fun _ => db.newestResultAfter check.id row.sentAt with
      | none => true
      | some last => decide (last ≤ row.sentAt)
    else false

/-! ## Checks that stopped reporting -/

/-- What a pass finds for one check. -/
inductive Finding where
  | nothing
  /-- The check reports again after a silence that was notified. -/
  | reporting
  /-- It is silent and so are all its agents. -/
  | agentsSilent
  /-- It is silent on its own account. -/
  | silent (decision : SendDecision)

/-- The enabled mapping of the alert to the check. -/
def watchMapping (alert : Alert) (check : Check) (db : Db) : Option AlertCheckMapping :=
  db.checkMappings.find? fun mapping =>
    decide (mapping.alertId = alert.id ∧ mapping.checkId = check.id) && mapping.isEnabled

/-- That mapping is snoozed. -/
def watchSnoozed (now : Time) (alert : Alert) (check : Check) (db : Db) : Bool :=
  ((watchMapping alert check db).bind (·.snoozedUntil)).any fun snoozedUntil =>
    decide (now < snoozedUntil)

/-- When the check was last due to be heard from: its newest result, or the time
its new agent learned of it. -/
def expectedFrom (outside : Outside) (now : Time) (target : Assignment) (lastResult : Option Time) :
    Time :=
  let expected := lastResult.getD target.check.createdAt
  match handedOverAt outside target.check target.pool now, target.agents with
  | some movedAt, agent :: _ => max expected (movedAt + seconds (heartbeatInterval outside agent))
  | _, _ => expected

/-- The check reports again after a silence that was notified, and the alert
tells of recoveries. -/
def reportsAgain (alert : Alert) (lastRow : Option NotificationLog) (lastResult : Option Time) :
    Bool :=
  match lastRow, lastResult with
  | some row, some last =>
    alert.notifyOnRecovery && decide (row.notificationHash = some .checkSilent) &&
      decide (row.sentAt < last)
  | _, _ => false

/-- One check of a `no_data` alert. -/
def findNoData (outside : Outside) (now since : Time) (alert : Alert) (target : Assignment)
    (db : Db) : Finding :=
  let check := target.check
  let lastResult := db.latestResultTime check.id since
  let lastRow := db.getLastNotificationForDedup alert.id check.id
  let threshold := silentAfter check.intervalSeconds (missedIntervals alert)
  if now - threshold ≤ expectedFrom outside now target lastResult then
    if reportsAgain alert lastRow lastResult then .reporting else .nothing
  else if watchSnoozed now alert check db then .nothing
  else
    let inEpisode := episodeOpen check lastRow lastResult db
    if target.agents.all fun agent => agentOffline outside agent now then
      if inEpisode then .nothing else .agentsSilent
    else
      let decision :=
        match lastRow with
        | some row =>
          if inEpisode ∧ row.notificationHash = some .checkSilent then resendDecision now alert row
          else .fresh
        | none => .fresh
      if decision.send then .silent decision else .nothing

/-- The notification of a finding about a check. -/
def checkNotice (alert : Alert) (check : Check) (stateKey : StateKey) (recovered : Bool)
    (decision : SendDecision) : PassNotice :=
  .send
    { alertId := alert.id
      stateKey
      checkId := some check.id
      context := { success := recovered, isRecovery := recovered }
      decision }

/-- The checks a `no_data` alert watches: those mapped to it that an active
agent is to run. -/
def noDataTargets (alert : Alert) (assigned : List Assignment) (db : Db) : List Assignment :=
  assigned.filter fun target =>
    !target.agents.isEmpty && (watchMapping alert target.check db).isSome

def decideNoData (outside : Outside) (now : Time) (alert : Alert) (assigned : List Assignment)
    (db : Db) : List PassNotice :=
  let targets := noDataTargets alert assigned db
  let since := ((targets.map fun target =>
    now - silentAfter target.check.intervalSeconds (missedIntervals alert)).min?).getD now
  let find target := findNoData outside now since alert target db
  (targets.filterMap fun target =>
    match find target with
    | .reporting => some (checkNotice alert target.check .checkReporting true .fresh)
    | .agentsSilent => some (.suppress alert.id target.check.id)
    | _ => none) ++
  targets.filterMap fun target =>
    match find target with
    | .silent decision => some (checkNotice alert target.check .checkSilent false decision)
    | _ => none

/-! ## Agents that stopped heartbeating -/

/-- One agent of an `agent_offline` alert. -/
def findAgentOffline (outside : Outside) (now : Time) (alert : Alert) (agent : Agent) (db : Db) :
    Option PassNotice :=
  let lastRow := db.lastNotificationForAgent alert.id agent.id
  let notice stateKey recovered decision := PassNotice.send
    { alertId := alert.id
      stateKey
      agentId := some agent.id
      context := { success := recovered, isRecovery := recovered }
      decision }
  if !agentOffline outside agent now (missedIntervals alert) then
    match lastRow, agent.lastSeen with
    | some row, some last =>
      if alert.notifyOnRecovery ∧ row.notificationHash = some .agentOffline ∧ row.sentAt < last then
        some (notice .agentOnline true .fresh)
      else none
    | _, _ => none
  else
    let decision :=
      match lastRow with
      | some row =>
        if row.notificationHash = some .agentOffline ∧
            agent.lastSeen.all fun last => decide (last ≤ row.sentAt) then
          resendDecision now alert row
        else .fresh
      | none => .fresh
    if decision.send then some (notice .agentOffline false decision) else none

/-- The agents an `agent_offline` alert covers, each once. -/
def coveredAgents (alert : Alert) (assigned : List Assignment) (db : Db) : List Agent :=
  (assigned.flatMap fun target =>
    if (watchMapping alert target.check db).isSome then target.pool else []).eraseDups

def decideAgentOffline (outside : Outside) (now : Time) (alert : Alert) (assigned : List Assignment)
    (db : Db) : List PassNotice :=
  (coveredAgents alert assigned db).filterMap fun agent =>
    findAgentOffline outside now alert agent db

/-! ## A pass -/

/-- What a pass should record for one alert. One with no live provider is not evaluated. -/
def decideAlert (outside : Outside) (now : Time) (assigned : List Assignment) (db : Db) (alert : Alert) :
    List PassNotice :=
  if db.listLiveProviders alert.id = [] then []
  else if alert.triggerType = .noData then decideNoData outside now alert assigned db
  else decideAgentOffline outside now alert assigned db

/-- What a pass should record. -/
def decidePass (outside : Outside) (now : Time) (db : Db) : List PassNotice :=
  (db.listEnabledAlertsByTrigger [.noData, .agentOffline]).flatMap
    (decideAlert outside now (assignedAgentsByCheck outside now db) db)

/-- Send or record one decided notice; what was sent and the rows it added. -/
def recordNotice (outside : Outside) (now : Time) (decided : PassNotice) (db : Db) :
    Except EvaluationError Written :=
  match decided with
  | .suppress alertId checkId =>
    .ok { rows := (db.listLiveProviders alertId).map fun provider =>
      { alertId
        notificationProviderId := provider.id
        checkId := some checkId
        checkSuccess := some false
        status := .suppressed
        sentAt := now
        notificationHash := some .checkSuppressed } }
  | .send notice => do
    let rows ← sendToProviders outside now notice db
    return { notices := if rows = [] then [] else [notice], rows }

/-- Record some notices in turn, each at its own reading of the clock. -/
def recordNotices (outside : Outside) (clock : Nat → Time) : List PassNotice → Db → Db × List Notice
  | [], db => (db, [])
  | decided :: rest, db =>
    match recordNotice outside (clock 0) decided db with
    | .error _ => (db, [])
    | .ok written =>
      let (db, notices) :=
        recordNotices outside (fun n => clock (n + 1)) rest (db.addNotificationLogs written.rows)
      (db, written.notices ++ notices)

/-- One pass, decided at `now`. -/
def silencePass (outside : Outside) (now : Time) (clock : Nat → Time) (db : Db) : Db × List Notice :=
  recordNotices outside clock (decidePass outside now db) db

end LuxSwirl.Server
