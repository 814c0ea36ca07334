import LuxSwirl.Server.AgentAssignment

/-!
# Changing checks

`check_core_service.py`, with the mapping of global alerts that creating a check
does (`alert_core_service.py`) and the packing of a type's own fields
(`check_config.py`). An operation gives the tables after it or the refusal; a
refused update may have changed the row in its session already, which is kept
when the session goes on, as in a bulk change.

Every reading of the clock is a value of `clock`, in their order.
-/

namespace LuxSwirl.Server
open LuxSwirl.Py LuxSwirl.Lib

/-- Why an operation is refused. -/
inductive CheckError where
  | checkNotFound
  | agentNotFound
  | validation
  | authorization
  | targetBlocked
  | scriptBlocked
  /-- The database refuses a row, and the session with it. -/
  | integrity
  deriving DecidableEq

/-- What judges the addresses a check connects to, and its script. -/
structure Guards where
  endpointAllowed : Text → Bool
  scriptAllowed : Text → Bool

def anyTarget : Guards := ⟨fun _ => true, fun _ => true⟩

/-- A new check; `config` holds the fields of the types that were given. -/
structure CheckCreate where
  displayName : Text
  checkType : CheckType
  target : Text
  description : Option Text := none
  intervalSeconds : Option Nat := none
  timeoutSeconds : Nat := 10
  enabled : Bool := true
  retryAttempts : Option Nat := none
  retryIntervalSeconds : Nat := 30
  resendNotificationAfter : Option Nat := none
  tags : Option (List Text) := none
  assignmentMode : AssignmentMode := .manual
  agentSelector : Option AgentSelector := none
  scriptCode : Option Text := none
  dependsOnCheckId : Option Id := none
  config : List (Key × Value) := []

/-- The fields set by an update; one that is set may be null. -/
structure CheckUpdate where
  displayName : Option (Option Text) := none
  checkType : Option (Option CheckType) := none
  target : Option (Option Text) := none
  description : Option (Option Text) := none
  intervalSeconds : Option (Option Nat) := none
  timeoutSeconds : Option (Option Nat) := none
  enabled : Option (Option Bool) := none
  retryAttempts : Option (Option Nat) := none
  retryIntervalSeconds : Option (Option Nat) := none
  resendNotificationAfter : Option (Option Nat) := none
  tags : Option (Option (List Text)) := none
  assignmentMode : Option (Option AssignmentMode) := none
  agentSelector : Option (Option AgentSelector) := none
  scriptCode : Option (Option Text) := none
  dependsOnCheckId : Option (Option Id) := none
  config : List (Key × Value) := []

/-! ## The fields of a type -/

def typeFields : CheckType → List String
  | .http => ["http_method", "verify_ssl", "expected_status"]
  | .json => ["http_method", "verify_ssl", "expected_status", "json_path", "expected_value"]
  | .dns => ["record_type", "nameserver", "port", "expect_value"]
  | .mysql => ["connection_string", "query"]
  | .postgres => ["connection_string", "query"]
  | _ => []

def allConfigFields : List Key :=
  ([.http, .json, .dns, .mysql, .postgres].flatMap typeFields).map fieldKey

/-- Whether a value is worth storing; an empty text is the form's "unset". -/
def isSet : Value → Bool
  | .none => false
  | .str s => !s.isEmpty
  | _ => true

/-- The fields of a type that are given and set. -/
def packConfig (given : List (Key × Value)) (checkType : CheckType) : List (Key × Value) :=
  (typeFields checkType).filterMap fun field =>
    ((Fields.get? (fieldKey field) given).filter isSet).map fun value => (fieldKey field, value)

/-- The config without the fields of other types. -/
def keepTypeFields (config : List (Key × Value)) (checkType : CheckType) : List (Key × Value) :=
  config.filter fun entry =>
    decide (entry.1 ∉ allConfigFields ∨ entry.1 ∈ (typeFields checkType).map fieldKey)

/-- The config fields an update sets. -/
def takeConfigUpdates (given : List (Key × Value)) (checkType : CheckType) : List (Key × Value) :=
  packConfig given checkType

/-! ## What the operations read and write -/

namespace Db

def getAgent (db : Db) (agentId : Id) : Option Agent :=
  db.agents.find? fun agent => decide (agent.id = agentId)

/-- The check is one of them. -/
def countDependents (db : Db) (checkId : Id) : Nat :=
  db.checks.countP fun check => decide (check.dependsOnCheckId = some checkId)

/-- The enabled, live, global alerts. -/
def listGlobalEnabledAlertIds (db : Db) : List Id :=
  (db.alerts.filter fun alert => alert.isGlobal && alert.isEnabled && alert.deletedAt.isNone).map (·.id)

def listMappedAlertIdsForCheck (db : Db) (checkId : Id) : List Id :=
  (db.checkMappings.filter fun mapping => decide (mapping.checkId = checkId)).map (·.alertId)

def addCheckMappingsForAlerts (checkId : Id) (alertIds : List Id) (db : Db) : Db :=
  { db with
    checkMappings := db.checkMappings ++ alertIds.map fun alertId => { alertId, checkId } }

/-- Every global alert is set up on the check. -/
def assignGlobalAlertsToCheck (checkId : Id) (db : Db) : Db :=
  let mapped := db.listMappedAlertIdsForCheck checkId
  db.addCheckMappingsForAlerts checkId
    (db.listGlobalEnabledAlertIds.filter fun alertId => decide (alertId ∉ mapped))

/-- The agent's list of checks was changed. -/
def touchAgent (now : Time) (agentId : Id) (db : Db) : Db :=
  { db with
    agents := db.agents.map fun agent =>
      if agent.id = agentId then { agent with checksUpdatedAt := some now } else agent }

def touchAgents (clock : Nat → Time) : List Id → Db → Db
  | [], db => db
  | agentId :: rest, db => touchAgents (fun n => clock (n + 1)) rest (db.touchAgent (clock 0) agentId)

def saveCheck (row : Check) (db : Db) : Db :=
  { db with checks := db.checks.map fun check => if check.id = row.id then row else check }

/-- Deleting checks deletes their results and alert mappings, and a check that
depends on one of them depends on none. -/
def deleteChecks (checkIds : List Id) (db : Db) : Db :=
  { db with
    checks := (db.checks.filter fun check => decide (check.id ∉ checkIds)).map fun check =>
      if check.dependsOnCheckId.any fun parentId => decide (parentId ∈ checkIds) then
        { check with dependsOnCheckId := none }
      else check
    checkMappings := db.checkMappings.filter fun mapping => decide (mapping.checkId ∉ checkIds)
    results := db.results.filter fun result => decide (result.checkId ∉ checkIds) }

/-- The agents whose rows name one of the checks, each once. -/
def agentsOf (checkIds : List Id) (db : Db) : List Id :=
  ((db.checks.filter fun check => decide (check.id ∈ checkIds)).map (·.agentId)).dedup

end Db

/-- The agent, if it takes checks. -/
def getAdmittedAgent (agentId : Id) (db : Db) : Except CheckError Agent :=
  match db.getAgent agentId with
  | none => .error .agentNotFound
  | some agent =>
    if agent.approvalStatus ∈ [.pending, .rejected, .archived] then .error .validation else .ok agent

def validateEndpoints (guards : Guards) (endpoints : List (Option Text)) : Except CheckError Unit :=
  if endpoints.any fun endpoint => endpoint.any fun address => !address.isEmpty && !guards.endpointAllowed address
  then .error .targetBlocked else .ok ()

/-- A config field that holds a text. -/
def configText (field : String) (given : List (Key × Value)) : Option Text :=
  match Fields.get? (fieldKey field) given with
  | some (.str s) => some s
  | _ => none

def validateDependency (dependsOnCheckId ownCheckId : Option Id) (db : Db) : Except CheckError Unit :=
  match dependsOnCheckId with
  | none => .ok ()
  | some parentId =>
    if ownCheckId = some parentId then .error .validation
    else
      match db.getCheck parentId with
      | none => .error .validation
      | some parent =>
        if parent.dependsOnCheckId.isSome then .error .validation
        else if ownCheckId.any fun own => decide (0 < db.countDependents own) then .error .validation
        else .ok ()

def requireAdminActor (actorIsAdmin : Bool) : Except CheckError Unit :=
  if actorIsAdmin then .ok () else .error .authorization

def validateScript (guards : Guards) (script : Text) : Except CheckError Unit :=
  if guards.scriptAllowed script then .ok () else .error .scriptBlocked

/-! ## Creating -/

/-- What the database stores of a new check's retries when none are given. -/
def defaultRetryAttempts : Nat := 2

/-- The row of a new check. A null is not sent to the database, which then stores
the column's default. -/
def CheckCreate.row (data : CheckCreate) (id agentId : Id) (now : Time) : Check :=
  let config := packConfig data.config data.checkType
  { id, agentId
    displayName := data.displayName
    checkType := data.checkType
    target := data.target
    description := data.description
    enabled := data.enabled
    intervalSeconds := data.intervalSeconds
    timeoutSeconds := some data.timeoutSeconds
    retryAttempts := some (data.retryAttempts.getD defaultRetryAttempts)
    retryIntervalSeconds := data.retryIntervalSeconds
    resendNotificationAfter := data.resendNotificationAfter
    tags := data.tags
    checkConfig := if config = [] then none else some config
    scriptCode := if data.checkType = .synthetic then data.scriptCode else none
    assignmentMode := data.assignmentMode
    agentSelector := data.agentSelector
    dependsOnCheckId := data.dependsOnCheckId
    createdAt := now }

/-- A synthetic check is an admin's, and its script is judged. -/
def CheckCreate.validateSynthetic (guards : Guards) (data : CheckCreate) (actorIsAdmin : Bool) :
    Except CheckError Unit :=
  if data.checkType = .synthetic then do
    requireAdminActor actorIsAdmin
    match data.scriptCode with
    | some script => if script.isEmpty then return () else validateScript guards script
    | none => return ()
  else return ()

def createCheck (guards : Guards) (clock : Nat → Time) (id agentId : Id) (data : CheckCreate)
    (skipConfigUpdate actorIsAdmin : Bool) (db : Db) : Except CheckError Db := do
  let agent ← getAdmittedAgent agentId db
  validateEndpoints guards
    [some data.target, configText "nameserver" data.config, configText "connection_string" data.config]
  validateDependency data.dependsOnCheckId none db
  data.validateSynthetic guards actorIsAdmin
  let added := { db with checks := db.checks ++ [data.row id agent.id (clock 0)] }
  let assigned := added.assignGlobalAlertsToCheck id
  return if skipConfigUpdate then assigned else assigned.touchAgent (clock 1) agent.id

theorem id_of_admitted {agentId : Id} {db : Db} {agent : Agent}
    (admitted : getAdmittedAgent agentId db = .ok agent) : agent ∈ db.agents ∧ agent.id = agentId := by
  unfold getAdmittedAgent at admitted
  split at admitted
  · cases admitted
  · rename_i found isFound
    split_ifs at admitted
    cases admitted
    exact ⟨List.mem_of_find?_eq_some isFound, by simpa using List.find?_some isFound⟩

/-- What creating a check leaves: its row on an agent, the global alerts set up on
it, and the agent touched. -/
theorem createCheck_eq_ok {guards : Guards} {clock : Nat → Time} {id agentId : Id} {data : CheckCreate}
    {skipConfigUpdate actorIsAdmin : Bool} {db created : Db}
    (isCreated : createCheck guards clock id agentId data skipConfigUpdate actorIsAdmin db = .ok created) :
    (∃ agent ∈ db.agents, agent.id = agentId) ∧
      let added := { db with checks := db.checks ++ [data.row id agentId (clock 0)] }
      let assigned := added.assignGlobalAlertsToCheck id
      created = if skipConfigUpdate then assigned else assigned.touchAgent (clock 1) agentId := by
  obtain ⟨agent, admitted, checked⟩ := except_bind_ok.mp isCreated
  obtain ⟨-, -, checked⟩ := except_bind_ok.mp checked
  obtain ⟨-, -, checked⟩ := except_bind_ok.mp checked
  obtain ⟨-, -, done⟩ := except_bind_ok.mp checked
  obtain ⟨isAgent, isId⟩ := id_of_admitted admitted
  rw [isId] at done
  exact ⟨⟨agent, isAgent, isId⟩, (Except.ok.inj done).symm⟩

/-! ## Updating -/

/-- What an update sets of a column that is not null. -/
def required {α : Type} (given : Option (Option α)) (old : α) : Except CheckError α :=
  match given with
  | none => .ok old
  | some none => .error .integrity
  | some (some value) => .ok value

/-- An update sets the config when it gives a field of its type or changes the type. -/
def CheckUpdate.setsConfig (data : CheckUpdate) (checkType : Option CheckType) (check : Check) : Bool :=
  decide ((checkType.map (takeConfigUpdates data.config)).getD [] ≠ [] ∨ checkType ≠ some check.checkType)

/-- The config after an update. -/
def CheckUpdate.config' (data : CheckUpdate) (checkType : Option CheckType) (check : Check) :
    Option (List (Key × Value)) :=
  let updates := (checkType.map (takeConfigUpdates data.config)).getD []
  let typeChanges := decide (checkType ≠ some check.checkType)
  if !data.setsConfig checkType check then check.checkConfig
  else
    let current := check.checkConfig.getD []
    let kept := if typeChanges then (checkType.map (keepTypeFields current)).getD
        (current.filter fun entry => decide (entry.1 ∉ allConfigFields)) else current
    some (updates.foldl (fun config entry => Fields.set entry.1 entry.2 config) kept)

/-- The row an update leaves; an update that sets a required column to null is
refused by the database. -/
def CheckUpdate.row (data : CheckUpdate) (now : Time) (check : Check) : Except CheckError Check := do
  let checkType := data.checkType.getD (some check.checkType)
  return { check with
    displayName := ← required data.displayName check.displayName
    checkType := ← required data.checkType check.checkType
    target := ← required data.target check.target
    description := data.description.getD check.description
    enabled := ← required data.enabled check.enabled
    intervalSeconds := data.intervalSeconds.getD check.intervalSeconds
    timeoutSeconds := data.timeoutSeconds.getD check.timeoutSeconds
    retryAttempts := data.retryAttempts.getD check.retryAttempts
    retryIntervalSeconds := ← required data.retryIntervalSeconds check.retryIntervalSeconds
    resendNotificationAfter := data.resendNotificationAfter.getD check.resendNotificationAfter
    tags := data.tags.getD check.tags
    checkConfig := data.config' checkType check
    scriptCode :=
      if checkType ≠ some .synthetic then none else data.scriptCode.getD check.scriptCode
    assignmentMode := ← required data.assignmentMode check.assignmentMode
    agentSelector := data.agentSelector.getD check.agentSelector
    dependsOnCheckId := data.dependsOnCheckId.getD check.dependsOnCheckId
    updatedAt := now }

/-- What refuses an update before the row is changed. -/
def CheckUpdate.validate (guards : Guards) (data : CheckUpdate) (actorIsAdmin : Bool) (check : Check)
    (db : Db) : Except CheckError Unit := do
  validateEndpoints guards
    [data.target.getD none, configText "nameserver" data.config, configText "connection_string" data.config]
  match data.dependsOnCheckId with
  | some parentId => validateDependency parentId (some check.id) db
  | none => pure ()
  if check.checkType = .synthetic ∨ data.checkType = some (some .synthetic) then
    requireAdminActor actorIsAdmin

/-- The script of an update that has to be judged. -/
def CheckUpdate.script (data : CheckUpdate) (check : Check) : Option Text :=
  if data.checkType.getD (some check.checkType) = some .synthetic ∧
      (data.scriptCode.isSome ∨ check.checkType ≠ .synthetic) then
    (data.scriptCode.getD check.scriptCode).filter fun script => !script.isEmpty
  else none

/-- The tables an update leaves in its session, and why it was refused. A refused
script is judged after the row's config was set. -/
def updateCheck (guards : Guards) (clock : Nat → Time) (checkId : Id) (data : CheckUpdate)
    (actorIsAdmin : Bool) (db : Db) : Db × Option CheckError :=
  match db.getCheck checkId with
  | none => (db, some .checkNotFound)
  | some check =>
    match data.validate guards actorIsAdmin check db with
    | .error refusal => (db, some refusal)
    | .ok () =>
      if (data.script check).any fun script => !guards.scriptAllowed script then
        let checkType := data.checkType.getD (some check.checkType)
        -- the row, once flushed, gets a new `updated_at` as well
        let left := if data.setsConfig checkType check then
            db.saveCheck { check with checkConfig := data.config' checkType check, updatedAt := clock 0 }
          else db
        (left, some .scriptBlocked)
      else
        match data.row (clock 0) check with
        | .error refusal => (db, some refusal)
        | .ok row => ((db.touchAgent (clock 1) check.agentId).saveCheck row, none)

/-! ## Deleting -/

def deleteCheck (clock : Nat → Time) (checkId : Id) (actorIsAdmin : Bool) (db : Db) :
    Except CheckError Db :=
  match db.getCheck checkId with
  | none => .error .checkNotFound
  | some check => do
    if check.checkType = .synthetic then requireAdminActor actorIsAdmin
    return (db.deleteChecks [checkId]).touchAgent (clock 0) check.agentId

/-! ## In bulk -/

structure BulkOutcome where
  successCount : Nat
  failureCount : Nat
  deriving DecidableEq

/-- The checks an actor may change in bulk, and how many are refused: a synthetic
one is an admin's. -/
def bulkPermitted (checkIds : List Id) (actorIsAdmin : Bool) (db : Db) : List Id × Nat :=
  if actorIsAdmin then (checkIds, 0)
  else
    let synthetic := fun checkId => db.checks.any fun check =>
      decide (check.id = checkId ∧ check.checkType = .synthetic)
    (checkIds.filter fun checkId => !synthetic checkId, checkIds.countP synthetic)

/-- The counts of a bulk statement; an id it did not touch is a failure. -/
def bulkOutcome (checkIds : List Id) (refused successCount : Nat) : BulkOutcome where
  successCount
  failureCount := checkIds.dedup.length - successCount + refused

def bulkSetEnabled (clock : Nat → Time) (checkIds : List Id) (enabled actorIsAdmin : Bool) (db : Db) :
    Db × BulkOutcome :=
  let (checkIds, refused) := bulkPermitted checkIds actorIsAdmin db
  let updated : Db :=
    { db with
      checks := db.checks.map fun check =>
        if check.id ∈ checkIds then { check with enabled, updatedAt := clock 0 } else check }
  (updated.touchAgents (fun n => clock (n + 1)) (updated.agentsOf checkIds),
    bulkOutcome checkIds refused (db.checks.countP fun check => decide (check.id ∈ checkIds)))

def bulkDelete (clock : Nat → Time) (checkIds : List Id) (actorIsAdmin : Bool) (db : Db) :
    Db × BulkOutcome :=
  let (checkIds, refused) := bulkPermitted checkIds actorIsAdmin db
  ((db.touchAgents clock (db.agentsOf checkIds)).deleteChecks checkIds,
    bulkOutcome checkIds refused (db.checks.countP fun check => decide (check.id ∈ checkIds)))

/-- The row of a check moved to another agent, with the fields that go along. -/
def moveCheckToAgent (check : Check) (newAgentId : Id) (data : CheckUpdate) (now : Time) : Check :=
  { check with
    agentId := newAgentId
    intervalSeconds := (data.intervalSeconds.getD none).orElse fun _ => check.intervalSeconds
    timeoutSeconds := (data.timeoutSeconds.getD none).orElse fun _ => check.timeoutSeconds
    retryAttempts := (data.retryAttempts.getD none).orElse fun _ => check.retryAttempts
    enabled := (data.enabled.getD none).getD check.enabled
    tags := (data.tags.getD none).orElse fun _ => check.tags
    description := (data.description.getD none).orElse fun _ => check.description
    updatedAt := now }

/-- What one check of a bulk change does: the tables, the agents to touch for a
move, and the refusal. -/
def modifyOne (guards : Guards) (clock : Nat → Time) (data : CheckUpdate)
    (newAgent : Option (Id × Except CheckError Agent)) (actorIsAdmin : Bool) (checkId : Id) (db : Db) :
    Db × List Id × Option CheckError :=
  match db.getCheck checkId with
  | none => (db, [], some .checkNotFound)
  | some check =>
    match newAgent.filter fun target => decide (target.1 ≠ check.agentId) with
    | some (_, .error refusal) => (db, [], some refusal)
    | some (_, .ok agent) =>
      if check.checkType = .synthetic ∧ !actorIsAdmin then (db, [], some .authorization)
      else (db.saveCheck (moveCheckToAgent check agent.id data (clock 0)), [check.agentId, agent.id], none)
    | none =>
      let (updated, refusal) := updateCheck guards clock checkId data actorIsAdmin db
      (updated, [], refusal)

/-- The checks of a bulk change in turn. A row the database refuses takes the
session with it. -/
def modifyAll (guards : Guards) (clock : Nat → Time) (data : CheckUpdate)
    (newAgent : Option (Id × Except CheckError Agent)) (actorIsAdmin : Bool) :
    List Id → Db → Except CheckError (Db × List Id × BulkOutcome)
  | [], db => .ok (db, [], ⟨0, 0⟩)
  | checkId :: rest, db =>
    match modifyOne guards clock data newAgent actorIsAdmin checkId db with
    | (_, _, some .integrity) => .error .integrity
    | (db, affected, refusal) => do
      let (db, more, outcome) ←
        modifyAll guards (fun n => clock (n + 2)) data newAgent actorIsAdmin rest db
      return (db, affected ++ more,
        if refusal.isSome then { outcome with failureCount := outcome.failureCount + 1 }
        else { outcome with successCount := outcome.successCount + 1 })

def bulkModify (guards : Guards) (clock : Nat → Time) (checkIds : List Id) (data : CheckUpdate)
    (newAgentId : Option Id) (actorIsAdmin : Bool) (db : Db) : Except CheckError (Db × BulkOutcome) := do
  let newAgent := newAgentId.map fun agentId => (agentId, getAdmittedAgent agentId db)
  let (changed, affected, outcome) ← modifyAll guards clock data newAgent actorIsAdmin checkIds db
  return (changed.touchAgents (fun n => clock (n + 2 * checkIds.length)) affected.dedup, outcome)

end LuxSwirl.Server
