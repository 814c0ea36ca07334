import LuxSwirl.Server.AgentRows
import LuxSwirl.Server.CloneCheck
import LuxSwirl.Server.ScanChecks
import Mathlib.Data.Finset.Dedup
import Mathlib.Data.Finset.Empty

/-!
# Where synthetic checks run

A synthetic check runs a script on the hosts of its agents. `synthetic_guard.py` leaves
its script, settings and agents to admins: operators create, change, move and delete other
checks, rename, tag, approve and delete agents, and agents register and heartbeat with
tags of their own, but none of these may put a script on a host.

A run is of whole requests, one after another, of any admins, operators and agents.
`served_by_admins` says that every synthetic check an agent is served was placed there by an
admin, `operators_keep_code` that no operator changes or removes one.
-/

namespace LuxSwirl.Server
open LuxSwirl.Py LuxSwirl.Lib

/-! ## The checks that reach an agent -/

/-- The agent is placed to run the synthetic check: it is its own, or matches the selector. -/
def reaches (agent : Agent) (check : Check) : Bool :=
  decide (check.checkType = .synthetic) &&
    if check.assignmentMode = .manual then decide (check.agentId = agent.id)
    else agentMatchesSelector agent check.agentSelector

def syntheticChecksReaching (agent : Agent) (db : Db) : Finset Id :=
  (((db.listAssignmentCandidates agent.id).filter (reaches agent)).map (·.id)).toFinset

/-! ## Agents -/

/-- Why a request on an agent is refused. -/
inductive AgentError where
  | notFound
  | duplicate
  | validation
  | authorization
  deriving DecidableEq

/-- The fields set by an update of an agent, of those that are placed. -/
structure AgentUpdate where
  agentName : Option (Option Text) := none
  tags : Option (Option (List Text)) := none
  heartbeatInterval : Option (Option Nat) := none

/-- What of a heartbeat is written to its agent's row. -/
structure AgentHeartbeat where
  status : AgentStatus
  tags : List Text := []

namespace Db

def getAgentByName (db : Db) (name : Text) : Option Agent :=
  db.agents.find? fun agent => decide (agent.agentName = some name)

def saveAgent (row : Agent) (db : Db) : Db :=
  { db with agents := db.agents.map fun agent => if agent.id = row.id then row else agent }

/-- Deleting agents deletes their checks, and the results they reported. -/
def deleteAgents (agentIds : List Id) (db : Db) : Db :=
  let owned := (db.checks.filter fun check => decide (check.agentId ∈ agentIds)).map (·.id)
  let left := db.deleteChecks owned
  { left with
    agents := db.agents.filter fun agent => decide (agent.id ∉ agentIds)
    results := left.results.filter fun result => decide (result.agentId ∉ agentIds) }

end Db

def AgentUpdate.row (data : AgentUpdate) (agent : Agent) : Agent :=
  { agent with
    agentName := data.agentName.getD agent.agentName
    tags := (data.tags.map (·.getD [])).getD agent.tags
    heartbeatInterval := data.heartbeatInterval.getD agent.heartbeatInterval }

/-- The new name is another agent's. -/
def AgentUpdate.takesName (data : AgentUpdate) (agent : Agent) (db : Db) : Bool :=
  match data.agentName with
  | some (some name) =>
    decide (some name ≠ agent.agentName) && (db.getAgentByName name).any fun taken => decide (taken.id ≠ agent.id)
  | _ => false

/-- A name or tags that would bring a synthetic check to the agent, or take one from it,
are an admin's to set. -/
def updateAgent (agentId : Id) (data : AgentUpdate) (actorIsAdmin : Bool) (db : Db) : Except AgentError Db :=
  match db.getAgent agentId with
  | none => .error .notFound
  | some agent =>
    if data.takesName agent db then .error .duplicate
    else
      let row := data.row agent
      let placementChanges := !actorIsAdmin && (data.agentName.isSome || data.tags.isSome)
      if placementChanges ∧ syntheticChecksReaching agent db ≠ syntheticChecksReaching row db then
        .error .authorization
      else .ok (db.saveAgent row)

def requireMayDelete (agentId : Id) (actorIsAdmin : Bool) (db : Db) : Except AgentError Unit :=
  if actorIsAdmin then .ok ()
  else if db.checks.any fun check => decide (check.agentId = agentId ∧ check.checkType = .synthetic) then
    .error .authorization
  else .ok ()

def deleteAgent (agentId : Id) (actorIsAdmin : Bool) (db : Db) : Except AgentError Db :=
  match db.getAgent agentId with
  | none => .error .notFound
  | some _ => do
    requireMayDelete agentId actorIsAdmin db
    return db.deleteAgents [agentId]

/-- `approve_agent`, `reject_agent` and the others, on the agent's status. Approving an agent
that synthetic checks reach starts them. -/
def actOnAgent (agentId : Id) (action : AgentAction) (actorIsAdmin : Bool) (db : Db) : Except AgentError Db :=
  match db.getAgent agentId with
  | none => .error .notFound
  | some agent =>
    if agent.approvalStatus ∉ action.allowed then .error .validation
    else
      let starts := match action with
        | .approve _ => decide (syntheticChecksReaching agent db ≠ ∅)
        | _ => false
      if starts && !actorIsAdmin then .error .authorization
      else .ok (db.saveAgent { agent with approvalStatus := action.target })

def registerAgent (id : Id) (now : Time) (tags : List Text) (db : Db) : Db :=
  { db with
    agents := db.agents ++
      [({ id, tags, approvalStatus := .pending, createdAt := now, lastSeen := some now } : Agent)] }

/-- The tags as a `TagList` stores them. -/
def storableTags (tags : List Text) : Option (List Text) :=
  if tags.length ≤ maxTags ∧ ∀ tag ∈ tags, tag.length ≤ maxTagLength ∧ ∀ c ∈ tag, isRefused c = false then
    some tags
  else none

/-- Tags decide what an agent is handed, so those it declares are taken only while it is
pending. -/
def applyHeartbeat (heartbeat : AgentHeartbeat) (receivedAt : Time) (agent : Agent) : Agent :=
  { agent with
    lastSeen := some receivedAt
    status := some heartbeat.status
    tags :=
      if heartbeat.tags ≠ [] ∧ agent.approvalStatus = .pending then
        (storableTags heartbeat.tags).getD agent.tags
      else agent.tags }

def updateFromHeartbeat (agentId : Id) (heartbeat : AgentHeartbeat) (receivedAt : Time) (db : Db) :
    Except AgentError Db :=
  match db.getAgent agentId with
  | none => .error .notFound
  | some agent => .ok (db.saveAgent (applyHeartbeat heartbeat receivedAt agent))

/-- The agents not heard from since, but for archived ones. -/
def Db.staleAgents (cutoff : Time) (db : Db) : List Agent :=
  db.agents.filter fun agent =>
    (agent.lastSeen.any fun seen => decide (seen < cutoff)) && decide (agent.approvalStatus ≠ .archived)

/-- The nightly job; it does nothing when no stale agent has a name. -/
def cleanupStaleAgents (cutoff : Time) (db : Db) : Db :=
  let stale := db.staleAgents cutoff
  if stale.any fun agent => agent.agentName.any fun name => !name.isEmpty then
    db.deleteAgents (stale.map (·.id))
  else db

/-! ## Dependencies -/

/-- A check that the new set of children attaches or detaches. -/
def relinked (parentCheckId : Id) (childCheckIds : List Id) (check : Check) : Bool :=
  if check.id ∈ childCheckIds then decide (check.dependsOnCheckId ≠ some parentCheckId)
  else decide (check.dependsOnCheckId = some parentCheckId)

def setDependents (now : Time) (parentCheckId : Id) (childCheckIds : List Id) (actorIsAdmin : Bool) (db : Db) :
    Except CheckError Db :=
  match db.getCheck parentCheckId with
  | none => .error .validation
  | some parent =>
    if parent.dependsOnCheckId.isSome ∨ parentCheckId ∈ childCheckIds then .error .validation
    else if childCheckIds.any fun id => (db.getCheck id).isNone || decide (0 < db.countDependents id) then
      .error .validation
    else
      let touched := db.checks.filter (relinked parentCheckId childCheckIds)
      if (touched.any fun check => decide (check.checkType = .synthetic)) && !actorIsAdmin then
        .error .authorization
      else .ok
        { db with
          checks := db.checks.map fun check =>
            if relinked parentCheckId childCheckIds check then
              { check with
                dependsOnCheckId := if check.id ∈ childCheckIds then some parentCheckId else none
                updatedAt := now }
            else check }

/-! ## Requests -/

/-- The checks of `bulk_create_checks`, each in a savepoint of its own. -/
def createChecks (guards : Guards) (agentId : Id) :
    (Nat → Time) → List (Id × CheckCreate) → Db → Db
  | _, [], db => db
  | clock, (id, data) :: rest, db =>
    match createCheck guards clock id agentId data false false db with
    | .ok created => createChecks guards agentId (fun n => clock (n + 2)) rest created
    | .error _ => createChecks guards agentId clock rest db

/-- What changes checks and agents. An admin's request leaves any tables; the rest is by
operators, agents and the server itself. -/
inductive Change where
  | admin (left : Db)
  | operate (clock : Nat → Time) (operation : Operation)
  | clone (clock : Nat → Time) (defaultTimeout : Nat) (id checkId agentId : Id) (overrides : CheckUpdate)
  | createChecks (clock : Nat → Time) (agentId : Id) (checks : List (Id × CheckCreate))
  | createFromJob (session : ScanSession) (params : BulkCheckParams) (kind : ScanCheckKind)
    (result : Option (List (Key × Value)))
  | setDependents (now : Time) (parentCheckId : Id) (childCheckIds : List Id)
  | updateAgent (agentId : Id) (data : AgentUpdate)
  | act (agentId : Id) (action : AgentAction)
  | forceReload (now : Time) (agentId : Id)
  | deleteAgent (agentId : Id)
  | register (id : Id) (now : Time) (tags : List Text)
  | heartbeat (agentId : Id) (heartbeat : AgentHeartbeat) (receivedAt : Time)
  | cleanup (cutoff : Time)

namespace Change

/-- The tables a change leaves, unless it is refused. -/
def run (guards : Guards) : Change → Db → Option Db
  | .admin left, _ => some left
  | .operate clock operation, db => (operation.run guards clock false db).toOption
  | .clone clock defaultTimeout id checkId agentId overrides, db =>
    (cloneCheck guards clock defaultTimeout id checkId agentId overrides false false db).toOption
  | .createChecks clock agentId checks, db => some (Server.createChecks guards agentId clock checks db)
  | .createFromJob session params kind result, db =>
    match session.createChecksFromJob params kind result db with
    | .done left _ _ => some left
    | _ => none
  | .setDependents now parentCheckId childCheckIds, db =>
    (Server.setDependents now parentCheckId childCheckIds false db).toOption
  | .updateAgent agentId data, db => (Server.updateAgent agentId data false db).toOption
  | .act agentId action, db => (actOnAgent agentId action false db).toOption
  | .forceReload now agentId, db => some (db.touchAgent now agentId)
  | .deleteAgent agentId, db => (Server.deleteAgent agentId false db).toOption
  | .register id now tags, db => some (registerAgent id now tags db)
  | .heartbeat agentId sent receivedAt, db => (updateFromHeartbeat agentId sent receivedAt db).toOption
  | .cleanup cutoff, db => some (cleanupStaleAgents cutoff db)

end Change

/-- The primary keys are unique. -/
def Db.keyed (db : Db) : Bool :=
  decide ((db.checks.map (·.id)).Nodup ∧ (db.agents.map (·.id)).Nodup)

/-- The committed tables; the database refuses a primary key that is taken. -/
def Change.commit (guards : Guards) (db : Db) (change : Change) : Db :=
  ((change.run guards db).filter Db.keyed).getD db

/-- The tables after some changes. -/
def afterChanges (guards : Guards) (changes : List Change) (db : Db) : Db :=
  changes.foldl (Change.commit guards) db

/-! ## Placements -/

/-- What a synthetic check runs: its row, but for its parent. -/
def Check.code (check : Check) : Option Check :=
  if check.checkType = .synthetic then some { check with dependsOnCheckId := none } else none

def codeOf (checks : List Check) : List Check := checks.filterMap Check.code

/-- What of an agent decides which checks reach it, and whether it was ever approved. -/
def Agent.host (agent : Agent) : Agent :=
  { id := agent.id, agentName := agent.agentName, tags := agent.tags,
    approvalStatus := agent.approvalStatus, createdAt := 0 }

def Agent.admitted (agent : Agent) : Bool := decide (agent.approvalStatus ∉ approvable)

/-- An agent that was approved is placed to run the code. -/
def Db.Places (db : Db) (agentId : Id) (code : Check) : Prop :=
  code ∈ codeOf db.checks ∧ ∃ host ∈ db.agents.map Agent.host,
    host.id = agentId ∧ host.admitted = true ∧ reaches host code = true

/-- A change by an operator or an agent. -/
def Change.isOperators : Change → Bool
  | .admin _ | .cleanup _ => false
  | _ => true

def Change.isAdmins : Change → Bool
  | .admin _ => true
  | _ => false

def Change.deletes (agentId : Id) : Change → Bool
  | .deleteAgent id => decide (id = agentId)
  | _ => false

section Rows

variable {checks : List Check} {db left : Db}

theorem code_eq_none {check : Check} : check.code = none ↔ check.checkType ≠ .synthetic := by
  unfold Check.code
  split_ifs with isSynthetic
  · exact ⟨fun absent => (by cases absent), fun other => absurd isSynthetic other⟩
  · exact ⟨fun _ => isSynthetic, fun _ => rfl⟩

theorem code_plain {row check : Check} (rowPlain : row.checkType ≠ .synthetic)
    (isPlain : check.checkType ≠ .synthetic) : row.code = check.code :=
  (code_eq_none.mpr rowPlain).trans (code_eq_none.mpr isPlain).symm

/-- Rows that are changed one by one, each keeping its code, keep it together. -/
theorem codeOf_filterMap {change : Check → Option Check}
    (each : ∀ check ∈ checks, (change check).bind Check.code = check.code) :
    codeOf (checks.filterMap change) = codeOf checks := by
  unfold codeOf
  rw [List.filterMap_filterMap]
  exact List.filterMap_congr each

theorem codeOf_map {change : Check → Check} (each : ∀ check ∈ checks, (change check).code = check.code) :
    codeOf (checks.map change) = codeOf checks := by
  rw [← List.filterMap_eq_map]
  exact codeOf_filterMap each

/-- Rows that are changed or deleted, each keeping its code if it is left. -/
theorem mem_codeOf_filterMap {change : Check → Option Check}
    (each : ∀ check ∈ checks, ∀ row ∈ change check, row.code = check.code) {code : Check}
    (isCode : code ∈ codeOf (checks.filterMap change)) : code ∈ codeOf checks := by
  obtain ⟨row, isRow, runs⟩ := List.mem_filterMap.mp isCode
  obtain ⟨check, isCheck, changed⟩ := List.mem_filterMap.mp isRow
  exact List.mem_filterMap.mpr ⟨check, isCheck, (each check isCheck row changed) ▸ runs⟩

theorem codeOf_saveCheck (keys : (db.checks.map (·.id)).Nodup) {check row : Check}
    (found : db.getCheck row.id = some check) (same : row.code = check.code) :
    codeOf (db.saveCheck row).checks = codeOf db.checks := by
  obtain ⟨isCheck, isId⟩ := id_of_getCheck found
  refine codeOf_map fun other isOther => ?_
  split_ifs with isRow
  · have isSame : other = check := List.inj_on_of_nodup_map keys isOther isCheck (isRow.trans isId.symm)
    rw [isSame, same]
  · rfl

theorem code_without {checkIds : List Id} {check row : Check} (stays : check.without checkIds = some row) :
    row.code = check.code := by
  unfold Check.without at stays
  split_ifs at stays <;> cases stays <;> rfl

theorem codeOf_deleteChecks {checkIds : List Id}
    (others : ∀ check ∈ db.checks, check.id ∈ checkIds → check.checkType ≠ .synthetic) :
    codeOf (db.deleteChecks checkIds).checks = codeOf db.checks := by
  rw [deleteChecks_checks]
  refine codeOf_filterMap fun check isCheck => ?_
  cases stays : check.without checkIds with
  | some row => exact code_without stays
  | none =>
    have deleted : check.id ∈ checkIds := by
      unfold Check.without at stays
      split_ifs at stays with deleted
      exact deleted
    exact (code_eq_none.mpr (others check isCheck deleted)).symm

end Rows

/-- A change keeps the code and what decides where it runs. -/
structure KeepsCode (before after : Db) : Prop where
  code : codeOf after.checks = codeOf before.checks
  hosts : after.agents.map Agent.host = before.agents.map Agent.host

namespace KeepsCode

variable {db left next : Db}

theorem refl (db : Db) : KeepsCode db db := ⟨rfl, rfl⟩

theorem trans (first : KeepsCode db left) (second : KeepsCode left next) : KeepsCode db next :=
  ⟨second.code.trans first.code, second.hosts.trans first.hosts⟩

theorem places_iff (keeps : KeepsCode db left) {agentId : Id} {code : Check} :
    left.Places agentId code ↔ db.Places agentId code := by
  unfold Db.Places
  rw [keeps.code, keeps.hosts]

theorem touchAgent (now : Time) (agentId : Id) (db : Db) : KeepsCode db (db.touchAgent now agentId) := by
  refine ⟨rfl, ?_⟩
  rw [Db.touchAgent, List.map_map]
  refine List.map_congr_left fun agent _ => ?_
  rw [Function.comp_apply]
  split_ifs <;> rfl

theorem touchAgents (clock : Nat → Time) (agentIds : List Id) (db : Db) :
    KeepsCode db (db.touchAgents clock agentIds) := by
  induction agentIds generalizing clock db with
  | nil => exact refl db
  | cons agentId rest ih => exact (touchAgent (clock 0) agentId db).trans (ih _ _)

theorem saveCheck (keys : (db.checks.map (·.id)).Nodup) {check row : Check}
    (found : db.getCheck row.id = some check) (same : row.code = check.code) : KeepsCode db (db.saveCheck row) :=
  ⟨codeOf_saveCheck keys found same, rfl⟩

theorem deleteChecks {checkIds : List Id}
    (others : ∀ check ∈ db.checks, check.id ∈ checkIds → check.checkType ≠ .synthetic) :
    KeepsCode db (db.deleteChecks checkIds) := ⟨codeOf_deleteChecks others, rfl⟩

end KeepsCode

/-! ## What operators do to checks -/

section Operators

variable {guards : Guards} {clock : Nat → Time} {db left : Db}

theorem createCheck_keepsCode {id agentId : Id} {data : CheckCreate} {skipConfigUpdate : Bool}
    (created : createCheck guards clock id agentId data skipConfigUpdate false db = .ok left) :
    KeepsCode db left := by
  obtain ⟨added, -, synthetic⟩ := createCheck_passed created
  have isPlain : data.checkType ≠ .synthetic := by
    intro isSynthetic
    rw [CheckCreate.validateSynthetic, if_pos isSynthetic] at synthetic
    cases synthetic
  have isRow : (data.row id agentId (clock 0)).code = none := code_eq_none.mpr isPlain
  obtain ⟨-, isLeft⟩ := createCheck_eq_ok created
  constructor
  · rw [added, codeOf, List.filterMap_append, List.filterMap_cons, isRow]
    exact List.append_nil _
  · rw [isLeft]
    cases skipConfigUpdate with
    | true => rfl
    | false => exact (KeepsCode.touchAgent (clock 1) agentId _).hosts

theorem createChecks_keepsCode (agentId : Id) (checks : List (Id × CheckCreate)) :
    KeepsCode db (createChecks guards agentId clock checks db) := by
  induction checks generalizing clock db with
  | nil => exact .refl db
  | cons check rest ih =>
    rw [createChecks]
    split
    · rename_i created isCreated
      exact (createCheck_keepsCode isCreated).trans ih
    · exact ih

theorem createEach_keepsCode {params : BulkCheckParams} {kind : ScanCheckKind} {session : ScanSession}
    {endpoints : List (Option Endpoint)} {names : List Text} {before skippedBefore created skipped : Nat}
    (done : ScanSession.createEach params kind session endpoints names db before skippedBefore =
      .done left created skipped) : KeepsCode db left := by
  induction endpoints generalizing session names db before skippedBefore with
  | nil =>
    cases done
    exact .refl _
  | cons endpoint rest ih =>
    cases endpoint with
    | none => exact ih done
    | some endpoint =>
      rw [ScanSession.createEach] at done
      split_ifs at done
      · exact ih done
      · split at done
        · cases done
        · split at done
          · cases done
          · rename_i made isMade
            exact (createCheck_keepsCode isMade).trans (ih done)

theorem createChecksFromJob_keepsCode {session : ScanSession} {params : BulkCheckParams} {kind : ScanCheckKind}
    {result : Option (List (Key × Value))} {created skipped : Nat}
    (done : session.createChecksFromJob params kind result db = .done left created skipped) :
    KeepsCode db left := by
  unfold ScanSession.createChecksFromJob at done
  split at done
  · cases done
  · cases done
  · split_ifs at done
    split at done
    · cases done
    · exact createEach_keepsCode done

theorem copyCheckMappings_agents (sourceCheckId targetCheckId : Id) (db : Db) :
    (db.copyCheckMappings sourceCheckId targetCheckId).agents = db.agents := by
  rw [Db.copyCheckMappings]
  generalize db.listMappedAlertIdsForCheck targetCheckId = held
  induction db.checkMappings.filter fun mapping => decide (mapping.checkId = sourceCheckId) generalizing db with
  | nil => rfl
  | cons mapping rest ih => exact ih (db.copyCheckMapping targetCheckId held mapping)

theorem cloneCheck_keepsCode {defaultTimeout : Nat} {id checkId agentId : Id} {overrides : CheckUpdate}
    {skipConfigUpdate : Bool}
    (cloned : cloneCheck guards clock defaultTimeout id checkId agentId overrides skipConfigUpdate false db =
      .ok left) : KeepsCode db left := by
  unfold cloneCheck at cloned
  split at cloned
  · cases cloned
  · split at cloned
    · cases cloned
    · split at cloned
      · cases cloned
      · obtain ⟨created, isCreated, copied⟩ := except_bind_ok.mp cloned
        cases copied
        have keeps := createCheck_keepsCode isCreated
        refine ⟨?_, ?_⟩
        · rw [copyCheckMappings_checks, keeps.code]
        · rw [copyCheckMappings_agents, keeps.hosts]

/-- An operator's update is of a check that is not synthetic, and stays so. -/
theorem plain_of_validate {data : CheckUpdate} {check : Check}
    (validated : data.validate guards false check db = .ok ()) :
    check.checkType ≠ .synthetic ∧ data.checkType.getD (some check.checkType) ≠ some .synthetic := by
  have authorized : ¬ (check.checkType = .synthetic ∨ data.checkType = some (some .synthetic)) := by
    intro synthetic
    simp only [CheckUpdate.validate, if_pos synthetic] at validated
    obtain ⟨⟨⟩, -, validated⟩ := except_bind_ok.mp validated
    split at validated
    · obtain ⟨⟨⟩, -, validated⟩ := except_bind_ok.mp validated
      cases validated
    · cases validated
  rw [not_or] at authorized
  refine ⟨authorized.1, ?_⟩
  cases given : data.checkType with
  | none => exact fun same => authorized.1 (Option.some.inj same)
  | some checkType => exact fun same => authorized.2 (given.trans (congrArg some same))

theorem updateCheck_keepsCode (keys : (db.checks.map (·.id)).Nodup) (guards : Guards) (clock : Nat → Time)
    (checkId : Id) (data : CheckUpdate) : KeepsCode db (updateCheck guards clock checkId data false db).1 := by
  rcases done : updateCheck guards clock checkId data false db with ⟨updated, _ | refusal⟩
  · obtain ⟨check, row, found, validated, -, isRow, rfl⟩ := updateCheck_passed done
    obtain ⟨isPlain, staysPlain⟩ := plain_of_validate validated
    have leaves := CheckUpdate.row_leaves isRow
    have rowPlain : row.checkType ≠ .synthetic := by
      rw [leaves.checkType] at staysPlain
      exact fun same => staysPlain (congrArg some same)
    have isSame : db.getCheck row.id = some check := by
      rw [CheckUpdate.row_id isRow, (id_of_getCheck found).2]
      exact found
    have saved : KeepsCode db (db.saveCheck row) := .saveCheck keys isSame (code_plain rowPlain isPlain)
    exact saved.trans (.touchAgent (clock 1) check.agentId (db.saveCheck row))
  · unfold updateCheck at done
    split at done
    · cases done
      exact .refl db
    · rename_i check found
      split at done
      · cases done
        exact .refl db
      · rename_i validated
        have unjudged : data.script check = none := if_neg fun judged => (plain_of_validate validated).2 judged.1
        rw [unjudged] at done
        rw [if_neg (by simp)] at done
        split at done
        · cases done
          exact .refl db
        · cases done

theorem deleteCheck_keepsCode (keys : (db.checks.map (·.id)).Nodup) {checkId : Id}
    (deleted : deleteCheck clock checkId false db = .ok left) : KeepsCode db left := by
  unfold deleteCheck at deleted
  split at deleted
  · cases deleted
  · rename_i check found
    obtain ⟨isCheck, isId⟩ := id_of_getCheck found
    split_ifs at deleted with isSynthetic
    · cases deleted
    · cases deleted
      refine KeepsCode.trans (.deleteChecks fun other isOther isDeleted => ?_) (.touchAgent ..)
      have same := List.inj_on_of_nodup_map keys isOther isCheck ((List.mem_singleton.mp isDeleted).trans isId.symm)
      rw [same]
      exact isSynthetic

/-- A bulk change of an operator leaves synthetic checks out. -/
theorem plain_of_permitted {checkIds : List Id} {check : Check} (isCheck : check ∈ db.checks)
    (permitted : check.id ∈ (bulkPermitted checkIds false db).1) : check.checkType ≠ .synthetic := by
  rw [bulkPermitted, if_neg Bool.false_ne_true] at permitted
  have notSynthetic := (List.mem_filter.mp permitted).2
  intro isSynthetic
  rw [Bool.not_eq_true', List.any_eq_false] at notSynthetic
  exact notSynthetic check isCheck (decide_eq_true ⟨rfl, isSynthetic⟩)

theorem bulkSetEnabled_keepsCode (clock : Nat → Time) (checkIds : List Id) (enabled : Bool) (db : Db) :
    KeepsCode db (bulkSetEnabled clock checkIds enabled false db).1 := by
  have set : KeepsCode db
      { db with
        checks := db.checks.map fun check =>
          if check.id ∈ (bulkPermitted checkIds false db).1 then { check with enabled, updatedAt := clock 0 }
          else check } := by
    refine ⟨codeOf_map fun check isCheck => ?_, rfl⟩
    split_ifs with permitted
    · have isPlain := plain_of_permitted isCheck permitted
      exact code_plain (show ({ check with enabled, updatedAt := clock 0 } : Check).checkType ≠ .synthetic from
        isPlain) isPlain
    · rfl
  exact set.trans (.touchAgents ..)

theorem bulkDelete_keepsCode (clock : Nat → Time) (checkIds : List Id) (db : Db) :
    KeepsCode db (bulkDelete clock checkIds false db).1 := by
  refine KeepsCode.trans (.touchAgents ..) (.deleteChecks fun check isCheck permitted => ?_)
  rw [touchAgents_checks] at isCheck
  exact plain_of_permitted isCheck permitted

theorem modifyOne_keepsCode (keys : (db.checks.map (·.id)).Nodup) (guards : Guards) (clock : Nat → Time)
    (data : CheckUpdate) (newAgent : Option (Id × Except CheckError Agent)) (checkId : Id) :
    KeepsCode db (modifyOne guards clock data newAgent false checkId db).1 := by
  unfold modifyOne
  split
  · exact .refl db
  · rename_i check found
    split
    · exact .refl db
    · rename_i agent _
      split_ifs with forbidden
      · exact .refl db
      · have isPlain : check.checkType ≠ .synthetic := fun isSynthetic => forbidden ⟨isSynthetic, rfl⟩
        have isSame : db.getCheck (moveCheckToAgent check agent.id data (clock 0)).id = some check := by
          show db.getCheck check.id = some check
          rw [(id_of_getCheck found).2]
          exact found
        have staysPlain : (moveCheckToAgent check agent.id data (clock 0)).checkType ≠ .synthetic := isPlain
        exact .saveCheck keys isSame (code_plain staysPlain isPlain)
    · exact updateCheck_keepsCode keys guards clock checkId data

theorem modifyOne_ids (guards : Guards) (clock : Nat → Time) (data : CheckUpdate)
    (newAgent : Option (Id × Except CheckError Agent)) (actorIsAdmin : Bool) (checkId : Id) (db : Db) :
    (modifyOne guards clock data newAgent actorIsAdmin checkId db).1.checks.map (·.id) = db.checks.map (·.id) := by
  unfold modifyOne
  split
  · rfl
  · split
    · rfl
    · split_ifs
      · rfl
      · exact saveCheck_ids _ _
    · rcases done : updateCheck guards clock checkId data actorIsAdmin db with ⟨updated, _ | refusal⟩
      · obtain ⟨check, row, -, -, rfl⟩ := updateCheck_eq_none done
        exact saveCheck_ids _ _
      · exact (updateCheck_eq_some done).2

theorem modifyAll_keepsCode (keys : (db.checks.map (·.id)).Nodup) {data : CheckUpdate}
    {newAgent : Option (Id × Except CheckError Agent)} {checkIds affected : List Id} {outcome : BulkOutcome}
    (done : modifyAll guards clock data newAgent false checkIds db = .ok (left, affected, outcome)) :
    KeepsCode db left := by
  induction checkIds generalizing clock db affected outcome with
  | nil =>
    cases done
    exact .refl _
  | cons checkId rest ih =>
    have one := modifyOne_keepsCode keys guards clock data newAgent checkId
    have sameIds := modifyOne_ids guards clock data newAgent false checkId db
    rw [modifyAll] at done
    split at done
    · cases done
    · rename_i next first refusal _ isOne
      obtain ⟨⟨left', more, counted⟩, others, isDone⟩ := except_bind_ok.mp done
      cases isDone
      rw [isOne] at one sameIds
      exact one.trans (ih (sameIds ▸ keys) others)

/-- **Operators keep the code**, whatever they do to checks. -/
theorem Operation.keepsCode (keys : (db.checks.map (·.id)).Nodup) {operation : Operation}
    (done : operation.run guards clock false db = .ok left) : KeepsCode db left := by
  cases operation with
  | create id agentId data skipConfigUpdate => exact createCheck_keepsCode done
  | update checkId data =>
    have keeps := updateCheck_keepsCode keys guards clock checkId data
    rw [Operation.run] at done
    split at done
    · rename_i updated isUpdated
      cases done
      rw [isUpdated] at keeps
      exact keeps
    · cases done
  | delete checkId => exact deleteCheck_keepsCode keys done
  | setEnabled checkIds enabled =>
    cases done
    exact bulkSetEnabled_keepsCode clock checkIds enabled db
  | bulkDelete checkIds =>
    cases done
    exact bulkDelete_keepsCode clock checkIds db
  | modify checkIds data newAgentId =>
    rw [Operation.run] at done
    cases modified : bulkModify guards clock checkIds data newAgentId false db with
    | error _ =>
      rw [modified] at done
      cases done
    | ok result =>
      rw [modified] at done
      cases done
      obtain ⟨⟨changed, affected, outcome⟩, all, isDone⟩ := except_bind_ok.mp modified
      cases isDone
      exact (modifyAll_keepsCode keys all).trans (.touchAgents ..)

theorem setDependents_keepsCode {now : Time} {parentCheckId : Id} {childCheckIds : List Id}
    (done : setDependents now parentCheckId childCheckIds false db = .ok left) : KeepsCode db left := by
  unfold setDependents at done
  split at done
  · cases done
  · split_ifs at done
    dsimp only at done
    split_ifs at done with refused
    cases done
    refine ⟨codeOf_map fun check isCheck => ?_, rfl⟩
    by_cases isTouched : relinked parentCheckId childCheckIds check = true
    · have isPlain : check.checkType ≠ .synthetic := by
        intro isSynthetic
        refine refused (Bool.and_eq_true_iff.mpr ⟨List.any_eq_true.mpr ⟨check, ?_, ?_⟩, rfl⟩)
        · exact List.mem_filter.mpr ⟨isCheck, isTouched⟩
        · exact decide_eq_true isSynthetic
      rw [if_pos isTouched]
      apply code_plain
      · exact isPlain
      · exact isPlain
    · rw [if_neg isTouched]

end Operators

/-! ## What is done to agents -/

section Agents

variable {db left : Db} {agent row : Agent} {agentId : Id} {code : Check}

theorem id_of_getAgent (found : db.getAgent agentId = some agent) : agent ∈ db.agents ∧ agent.id = agentId :=
  ⟨List.mem_of_find?_eq_some found, of_decide_eq_true (List.find?_some found :)⟩

theorem reaches_host {check : Check} (runs : check.code = some code) :
    reaches agent.host code = reaches agent check := by
  unfold Check.code at runs
  split_ifs at runs
  cases runs
  rfl

theorem reaches_synthetic {check : Check} (isReached : reaches agent check = true) :
    check.code = some { check with dependsOnCheckId := none } :=
  if_pos (of_decide_eq_true (Bool.and_eq_true_iff.mp isReached).1)

theorem mem_syntheticChecksReaching {check : Check} (isCheck : check ∈ db.checks)
    (isReached : reaches agent check = true) : check.id ∈ syntheticChecksReaching agent db := by
  have isCandidate : check ∈ db.listAssignmentCandidates agent.id := by
    refine List.mem_filter.mpr ⟨isCheck, decide_eq_true ?_⟩
    have placed := (Bool.and_eq_true_iff.mp isReached).2
    cases isMode : check.assignmentMode with
    | manual =>
      rw [isMode, if_pos rfl] at placed
      exact .inl ⟨rfl, of_decide_eq_true placed⟩
    | replicate => exact .inr (by simp)
    | distribute => exact .inr (by simp)
  exact List.mem_toFinset.mpr (List.mem_map_of_mem (List.mem_filter.mpr ⟨isCandidate, isReached⟩))

theorem reaches_of_mem (keys : (db.checks.map (·.id)).Nodup) {check : Check} (isCheck : check ∈ db.checks)
    (isIn : check.id ∈ syntheticChecksReaching agent db) : reaches agent check = true := by
  obtain ⟨other, isOther, same⟩ := List.mem_map.mp (List.mem_toFinset.mp isIn)
  obtain ⟨isCandidate, isReached⟩ := List.mem_filter.mp isOther
  have isSame : other = check := List.inj_on_of_nodup_map keys (List.mem_filter.mp isCandidate).1 isCheck same
  rw [← isSame]
  exact isReached

/-- The same ids reach two agents when the same checks do. -/
theorem reaches_eq (keys : (db.checks.map (·.id)).Nodup) {other : Agent}
    (same : syntheticChecksReaching agent db = syntheticChecksReaching other db) {check : Check}
    (isCheck : check ∈ db.checks) : reaches agent check = reaches other check := by
  rw [Bool.eq_iff_iff]
  constructor
  · intro isReached
    apply reaches_of_mem keys isCheck
    rw [← same]
    exact mem_syntheticChecksReaching isCheck isReached
  · intro isReached
    apply reaches_of_mem keys isCheck
    rw [same]
    exact mem_syntheticChecksReaching isCheck isReached

theorem Db.places_iff : db.Places agentId code ↔ ∃ check ∈ db.checks, check.code = some code ∧
    ∃ agent ∈ db.agents, agent.id = agentId ∧ agent.admitted = true ∧ reaches agent check = true := by
  constructor
  · rintro ⟨isCode, host, isHost, isId, admitted, isReached⟩
    obtain ⟨check, isCheck, runs⟩ := List.mem_filterMap.mp isCode
    obtain ⟨agent, isAgent, rfl⟩ := List.mem_map.mp isHost
    exact ⟨check, isCheck, runs, agent, isAgent, isId, admitted, (reaches_host runs) ▸ isReached⟩
  · rintro ⟨check, isCheck, runs, agent, isAgent, isId, admitted, isReached⟩
    refine ⟨List.mem_filterMap.mpr ⟨check, isCheck, runs⟩, agent.host, List.mem_map_of_mem isAgent, isId, admitted, ?_⟩
    rw [reaches_host runs]
    exact isReached

/-- An agent's new row is placed as the old one was, if the same checks reach it or it has
never been approved. -/
theorem places_saveAgent (keys : (db.agents.map (·.id)).Nodup) (found : db.getAgent row.id = some agent)
    (same : ∀ check ∈ db.checks, (row.admitted && reaches row check) = (agent.admitted && reaches agent check)) :
    (db.saveAgent row).Places agentId code ↔ db.Places agentId code := by
  obtain ⟨isAgent, isId⟩ := id_of_getAgent found
  have isSame {other : Agent} (isOther : other ∈ db.agents) (isRow : other.id = row.id) : other = agent :=
    List.inj_on_of_nodup_map keys isOther isAgent (isRow.trans isId.symm)
  rw [Db.places_iff, Db.places_iff]
  constructor
  · rintro ⟨check, isCheck, runs, changed, isChanged, rfl, placed⟩
    obtain ⟨other, isOther, rfl⟩ := List.mem_map.mp isChanged
    split_ifs at placed ⊢ with isRow
    · have before := same check isCheck
      rw [placed.1, placed.2, Bool.and_self] at before
      exact ⟨check, isCheck, runs, agent, isAgent, isId, Bool.and_eq_true_iff.mp before.symm⟩
    · exact ⟨check, isCheck, runs, other, isOther, rfl, placed⟩
  · rintro ⟨check, isCheck, runs, other, isOther, rfl, placed⟩
    refine ⟨check, isCheck, runs, if other.id = row.id then row else other, List.mem_map_of_mem isOther, ?_⟩
    split_ifs with isRow
    · rw [isSame isOther isRow] at placed ⊢
      have after := same check isCheck
      rw [placed.1, placed.2, Bool.and_self] at after
      exact ⟨isId.symm, Bool.and_eq_true_iff.mp after⟩
    · exact ⟨rfl, placed⟩

theorem admitted_iff : agent.admitted = true ↔ agent.approvalStatus ∉ approvable := decide_eq_true_iff

/-- An operator's update that would bring a synthetic check to the agent, or take one, is
refused. -/
theorem updateAgent_eq_ok {data : AgentUpdate} (done : updateAgent agentId data false db = .ok left) :
    ∃ agent, db.getAgent agentId = some agent ∧ left = db.saveAgent (data.row agent) ∧
      ((data.agentName.isSome || data.tags.isSome) = true →
        syntheticChecksReaching agent db = syntheticChecksReaching (data.row agent) db) := by
  unfold updateAgent at done
  split at done
  · cases done
  · rename_i agent found
    split_ifs at done
    dsimp only at done
    split_ifs at done with refused
    cases done
    refine ⟨agent, found, rfl, fun changes => ?_⟩
    by_contra differs
    exact refused ⟨changes, differs⟩

theorem places_updateAgent (keyed : db.keyed = true) {data : AgentUpdate} {id : Id}
    (done : updateAgent agentId data false db = .ok left) : left.Places id code ↔ db.Places id code := by
  obtain ⟨checkKeys, agentKeys⟩ := of_decide_eq_true keyed
  obtain ⟨agent, found, rfl, guarded⟩ := updateAgent_eq_ok done
  have isRow : db.getAgent (data.row agent).id = some agent := by
    rw [← (id_of_getAgent found).2] at found
    exact found
  refine places_saveAgent agentKeys isRow fun check isCheck => ?_
  show (agent.admitted && reaches (data.row agent) check) = _
  congr 1
  cases changes : data.agentName.isSome || data.tags.isSome with
  | true => exact (reaches_eq checkKeys (guarded changes) isCheck).symm
  | false =>
    obtain ⟨noName, noTags⟩ := Bool.or_eq_false_iff.mp changes
    have sameName : (data.row agent).agentName = agent.agentName := by
      rw [AgentUpdate.row, Option.isNone_iff_eq_none.mp (Option.isSome_eq_false_iff.mp noName)]
      rfl
    have sameTags : (data.row agent).tags = agent.tags := by
      rw [AgentUpdate.row, Option.isNone_iff_eq_none.mp (Option.isSome_eq_false_iff.mp noTags)]
      rfl
    unfold reaches agentMatchesSelector
    rw [sameName, sameTags]
    rfl

/-- Only an approval admits an agent. -/
theorem admitted_of_action {action : AgentAction} (may : agent.approvalStatus ∈ action.allowed)
    (others : ∀ keyHash, action ≠ .approve keyHash) :
    ({ agent with approvalStatus := action.target } : Agent).admitted = agent.admitted := by
  unfold Agent.admitted
  cases action with
  | approve keyHash => exact absurd rfl (others keyHash)
  | reject reason =>
    rw [List.mem_singleton.mp may]
    rfl
  | pause reason =>
    rw [List.mem_singleton.mp may]
    rfl
  | resume =>
    rw [List.mem_singleton.mp may]
    rfl
  | disable reason =>
    rcases List.mem_cons.mp may with isActive | may
    · rw [isActive]
      rfl
    · rw [List.mem_singleton.mp may]
      rfl
  | enable =>
    rw [List.mem_singleton.mp may]
    rfl
  | archive =>
    have isAdmitted : agent.approvalStatus ∉ approvable := by
      intro isApprovable
      revert may isApprovable
      cases agent.approvalStatus <;> decide
    rw [decide_eq_true isAdmitted]
    rfl
  | restore =>
    rw [List.mem_singleton.mp may]
    rfl

/-- An operator approves no agent that a synthetic check reaches. -/
theorem actOnAgent_eq_ok {action : AgentAction} (done : actOnAgent agentId action false db = .ok left) :
    ∃ agent, db.getAgent agentId = some agent ∧
      left = db.saveAgent { agent with approvalStatus := action.target } ∧
      agent.approvalStatus ∈ action.allowed ∧
      ∀ keyHash, action = .approve keyHash → syntheticChecksReaching agent db = ∅ := by
  unfold actOnAgent at done
  split at done
  · cases done
  · rename_i agent found
    split_ifs at done with may
    dsimp only at done
    split_ifs at done with refused
    cases done
    refine ⟨agent, found, rfl, may, ?_⟩
    rintro keyHash rfl
    by_contra reached
    exact refused (Bool.and_eq_true_iff.mpr ⟨decide_eq_true reached, rfl⟩)

theorem places_actOnAgent (keyed : db.keyed = true) {action : AgentAction} {id : Id}
    (done : actOnAgent agentId action false db = .ok left) : left.Places id code ↔ db.Places id code := by
  obtain ⟨agent, found, rfl, may, guarded⟩ := actOnAgent_eq_ok done
  have isRow : db.getAgent ({ agent with approvalStatus := action.target } : Agent).id = some agent := by
    rw [← (id_of_getAgent found).2] at found
    exact found
  refine places_saveAgent (of_decide_eq_true keyed).2 isRow fun check isCheck => ?_
  cases isAction : action with
  | approve keyHash =>
    rw [isAction] at may
    have notAdmitted : agent.admitted = false := decide_eq_false (not_not.mpr may)
    rw [notAdmitted, Bool.false_and, Bool.and_eq_false_iff]
    right
    rw [← Bool.not_eq_true]
    intro isReached
    have isIn : check.id ∈ syntheticChecksReaching agent db := mem_syntheticChecksReaching isCheck isReached
    rw [guarded keyHash isAction] at isIn
    exact Finset.notMem_empty _ isIn
  | _ =>
    rw [isAction] at may
    rw [admitted_of_action may (fun keyHash same => by cases same)]
    rfl

theorem updateFromHeartbeat_eq_ok {heartbeat : AgentHeartbeat} {receivedAt : Time}
    (done : updateFromHeartbeat agentId heartbeat receivedAt db = .ok left) :
    ∃ agent, db.getAgent agentId = some agent ∧
      left = db.saveAgent (applyHeartbeat heartbeat receivedAt agent) := by
  unfold updateFromHeartbeat at done
  split at done
  · cases done
  · rename_i agent found
    cases done
    exact ⟨agent, found, rfl⟩

theorem places_heartbeat (keyed : db.keyed = true) {heartbeat : AgentHeartbeat} {receivedAt : Time} {id : Id}
    (done : updateFromHeartbeat agentId heartbeat receivedAt db = .ok left) :
    left.Places id code ↔ db.Places id code := by
  obtain ⟨agent, found, rfl⟩ := updateFromHeartbeat_eq_ok done
  have isRow : db.getAgent (applyHeartbeat heartbeat receivedAt agent).id = some agent := by
    rw [← (id_of_getAgent found).2] at found
    exact found
  refine places_saveAgent (of_decide_eq_true keyed).2 isRow fun check isCheck => ?_
  show (agent.admitted && _) = _
  cases admitted : agent.admitted with
  | false => rfl
  | true =>
    have notPending : ¬ (heartbeat.tags ≠ [] ∧ agent.approvalStatus = .pending) := by
      rintro ⟨-, isPending⟩
      exact admitted_iff.mp admitted (isPending ▸ List.mem_cons_self ..)
    have sameTags : (applyHeartbeat heartbeat receivedAt agent).tags = agent.tags := if_neg notPending
    unfold reaches agentMatchesSelector
    rw [sameTags]
    rfl

theorem places_registerAgent {id : Id} {now : Time} {tags : List Text} :
    (registerAgent id now tags db).Places agentId code ↔ db.Places agentId code := by
  rw [Db.places_iff, Db.places_iff]
  constructor
  · rintro ⟨check, isCheck, runs, agent, isAgent, isId, admitted, isReached⟩
    rcases List.mem_append.mp isAgent with old | new
    · exact ⟨check, isCheck, runs, agent, old, isId, admitted, isReached⟩
    · rw [List.mem_singleton.mp new] at admitted
      cases admitted
  · rintro ⟨check, isCheck, runs, agent, isAgent, placed⟩
    exact ⟨check, isCheck, runs, agent, List.mem_append_left _ isAgent, placed⟩

theorem places_of_deleteAgents {agentIds : List Id} (placed : (db.deleteAgents agentIds).Places agentId code) :
    db.Places agentId code := by
  obtain ⟨isCode, host, isHost, placed⟩ := placed
  refine ⟨?_, host, ?_, placed⟩
  · rw [Db.deleteAgents] at isCode
    dsimp only at isCode
    rw [deleteChecks_checks] at isCode
    exact mem_codeOf_filterMap (fun check _ row stays => code_without stays) isCode
  · exact List.map_subset Agent.host (List.filter_subset_self _) isHost

theorem deleteAgent_cases (keys : (db.checks.map (·.id)).Nodup) {id : Id} (done : deleteAgent id false db = .ok left) :
    left = db.deleteAgents [id] ∧ codeOf left.checks = codeOf db.checks := by
  unfold deleteAgent at done
  split at done
  · cases done
  · obtain ⟨⟨⟩, may, done⟩ := except_bind_ok.mp done
    cases done
    refine ⟨rfl, ?_⟩
    rw [requireMayDelete, if_neg Bool.false_ne_true] at may
    split_ifs at may with owns
    refine codeOf_deleteChecks fun check isCheck isOwned => ?_
    obtain ⟨other, isOther, same⟩ := List.mem_map.mp isOwned
    obtain ⟨isOther, isOwn⟩ := List.mem_filter.mp isOther
    have isSame : other = check := List.inj_on_of_nodup_map keys isOther isCheck same
    rw [isSame] at isOwn
    intro isSynthetic
    have isAgents : check.agentId = id := List.mem_singleton.mp (of_decide_eq_true isOwn)
    exact owns (List.any_eq_true.mpr ⟨check, isCheck, decide_eq_true ⟨isAgents, isSynthetic⟩⟩)

theorem places_deleteAgent (keys : (db.checks.map (·.id)).Nodup) {id : Id}
    (done : deleteAgent id false db = .ok left) (other : agentId ≠ id) (placed : db.Places agentId code) :
    left.Places agentId code := by
  obtain ⟨rfl, sameCode⟩ := deleteAgent_cases keys done
  rw [Db.places_iff] at placed
  obtain ⟨check, isCheck, runs, agent, isAgent, rfl, admitted, isReached⟩ := placed
  refine ⟨?_, agent.host, List.mem_map_of_mem (List.mem_filter.mpr ⟨isAgent, ?_⟩), rfl, admitted, ?_⟩
  · rw [sameCode]
    exact List.mem_filterMap.mpr ⟨check, isCheck, runs⟩
  · exact decide_eq_true fun isIn => other (List.mem_singleton.mp isIn)
  · rw [reaches_host runs]
    exact isReached

/-- What an agent is served is placed there. -/
theorem places_of_served {outside : Outside} {now : Time} {check : Check} (isAgent : agent ∈ db.agents)
    (admitted : agent.admitted = true) (served : check ∈ getChecksForAgent outside now agent db)
    (runs : check.code = some code) : db.Places agent.id code := by
  obtain ⟨isCandidate, goes⟩ := List.mem_filter.mp served
  rw [Db.places_iff]
  refine ⟨check, (List.mem_filter.mp isCandidate).1, runs, agent, isAgent, rfl, admitted, ?_⟩
  have isSynthetic : check.checkType = .synthetic := by
    by_contra other
    rw [code_eq_none.mpr other] at runs
    cases runs
  unfold reaches
  unfold goesTo at goes
  rw [decide_eq_true isSynthetic, Bool.true_and]
  cases isMode : check.assignmentMode with
  | manual =>
    rw [isMode] at goes
    exact goes
  | replicate =>
    rw [isMode] at goes
    exact goes
  | distribute =>
    rw [isMode] at goes
    exact (Bool.and_eq_true_iff.mp goes).1

end Agents

/-! ## Runs -/

theorem ok_of_toOption {ε α : Type} {result : Except ε α} {value : α} (done : result.toOption = some value) :
    result = .ok value := by
  cases result <;> cases done
  rfl

section Runs

variable {guards : Guards} {db left : Db} {change : Change} {agentId : Id} {code : Check}

/-- **No one but an admin** places code, and operators take it from no agent that they do not
delete. -/
theorem Change.run_places (keyed : db.keyed = true) (isRun : change.run guards db = some left)
    (others : change.isAdmins = false) : (left.Places agentId code → db.Places agentId code) ∧
      (change.isOperators = true → change.deletes agentId = false →
        db.Places agentId code → left.Places agentId code) := by
  obtain ⟨checkKeys, agentKeys⟩ := of_decide_eq_true keyed
  have ofIff (same : left.Places agentId code ↔ db.Places agentId code) :
      (left.Places agentId code → db.Places agentId code) ∧
        (change.isOperators = true → change.deletes agentId = false →
          db.Places agentId code → left.Places agentId code) := ⟨same.mp, fun _ _ => same.mpr⟩
  cases change with
  | admin => cases others
  | operate clock operation =>
    exact ofIff (Operation.keepsCode checkKeys (ok_of_toOption isRun)).places_iff
  | clone clock defaultTimeout id checkId agentId overrides =>
    exact ofIff (cloneCheck_keepsCode (ok_of_toOption isRun)).places_iff
  | createChecks clock agentId checks =>
    cases isRun
    exact ofIff (createChecks_keepsCode agentId checks).places_iff
  | createFromJob session params kind result =>
    rw [Change.run] at isRun
    split at isRun
    · rename_i created skipped done
      cases isRun
      exact ofIff (createChecksFromJob_keepsCode done).places_iff
    · cases isRun
  | setDependents now parentCheckId childCheckIds =>
    exact ofIff (setDependents_keepsCode (ok_of_toOption isRun)).places_iff
  | updateAgent agentId data => exact ofIff (places_updateAgent keyed (ok_of_toOption isRun))
  | act agentId action => exact ofIff (places_actOnAgent keyed (ok_of_toOption isRun))
  | forceReload now agentId =>
    cases isRun
    exact ofIff (KeepsCode.touchAgent now agentId db).places_iff
  | deleteAgent id =>
    have done := ok_of_toOption isRun
    refine ⟨fun placed => ?_, fun _ other => ?_⟩
    · rw [(deleteAgent_cases checkKeys done).1] at placed
      exact places_of_deleteAgents placed
    · exact places_deleteAgent checkKeys done fun same => of_decide_eq_false other same.symm
  | register id now tags =>
    cases isRun
    exact ofIff places_registerAgent
  | heartbeat agentId sent receivedAt => exact ofIff (places_heartbeat keyed (ok_of_toOption isRun))
  | cleanup cutoff =>
    cases isRun
    refine ⟨fun placed => ?_, fun isOperators => by cases isOperators⟩
    unfold cleanupStaleAgents at placed
    dsimp only at placed
    split_ifs at placed
    · exact places_of_deleteAgents placed
    · exact placed

/-- Operators keep the code itself. -/
theorem Change.run_code (keyed : db.keyed = true) (isRun : change.run guards db = some left)
    (operators : change.isOperators = true) : codeOf left.checks = codeOf db.checks := by
  obtain ⟨checkKeys, agentKeys⟩ := of_decide_eq_true keyed
  cases change with
  | admin => cases operators
  | operate clock operation => exact (Operation.keepsCode checkKeys (ok_of_toOption isRun)).code
  | clone clock defaultTimeout id checkId agentId overrides =>
    exact (cloneCheck_keepsCode (ok_of_toOption isRun)).code
  | createChecks clock agentId checks =>
    cases isRun
    exact (createChecks_keepsCode agentId checks).code
  | createFromJob session params kind result =>
    rw [Change.run] at isRun
    split at isRun
    · rename_i created skipped done
      cases isRun
      exact (createChecksFromJob_keepsCode done).code
    · cases isRun
  | setDependents now parentCheckId childCheckIds => exact (setDependents_keepsCode (ok_of_toOption isRun)).code
  | updateAgent agentId data =>
    obtain ⟨agent, -, rfl, -⟩ := updateAgent_eq_ok (ok_of_toOption isRun)
    rfl
  | act agentId action =>
    obtain ⟨agent, -, rfl, -⟩ := actOnAgent_eq_ok (ok_of_toOption isRun)
    rfl
  | forceReload now agentId =>
    cases isRun
    rfl
  | deleteAgent id => exact (deleteAgent_cases checkKeys (ok_of_toOption isRun)).2
  | register id now tags =>
    cases isRun
    rfl
  | heartbeat agentId sent receivedAt =>
    obtain ⟨agent, -, rfl⟩ := updateFromHeartbeat_eq_ok (ok_of_toOption isRun)
    rfl
  | cleanup cutoff => cases operators

/-- A committed change ran, and keeps the keys; or nothing changed. -/
theorem Change.commit_cases (guards : Guards) (change : Change) (db : Db) :
    change.commit guards db = db ∨
      change.run guards db = some (change.commit guards db) ∧ (change.commit guards db).keyed = true := by
  unfold Change.commit
  cases isRun : change.run guards db with
  | none => exact .inl rfl
  | some left =>
    cases keyed : left.keyed with
    | false => exact .inl (by rw [Option.filter_some, keyed]; rfl)
    | true =>
      rw [Option.filter_some, if_pos keyed, Option.getD_some]
      exact .inr ⟨rfl, keyed⟩

theorem Change.commit_places (keyed : db.keyed = true) (others : change.isAdmins = false) :
    ((change.commit guards db).Places agentId code → db.Places agentId code) ∧
      (change.isOperators = true → change.deletes agentId = false →
        db.Places agentId code → (change.commit guards db).Places agentId code) := by
  rcases change.commit_cases guards db with same | ⟨isRun, -⟩
  · rw [same]
    exact ⟨id, fun _ _ => id⟩
  · exact Change.run_places keyed isRun others

theorem Change.commit_code (keyed : db.keyed = true) (operators : change.isOperators = true) :
    codeOf (change.commit guards db).checks = codeOf db.checks := by
  rcases change.commit_cases guards db with same | ⟨isRun, -⟩
  · rw [same]
  · exact Change.run_code keyed isRun operators

theorem afterChanges_keyed (keyed : db.keyed = true) (changes : List Change) :
    (afterChanges guards changes db).keyed = true := by
  induction changes generalizing db with
  | nil => exact keyed
  | cons change rest ih =>
    apply ih
    rcases change.commit_cases guards db with same | ⟨-, kept⟩
    · rw [same]
      exact keyed
    · exact kept

/-- **Code is placed by admins.** After any requests, each synthetic check that an approved
agent is served was on it at the start, with all its settings, or an admin's request put it
there. -/
theorem served_by_admins (keyed : db.keyed = true) {changes : List Change} {outside : Outside} {now : Time}
    {agent : Agent} (isAgent : agent ∈ (afterChanges guards changes db).agents) (admitted : agent.admitted = true)
    {check : Check} (served : check ∈ getChecksForAgent outside now agent (afterChanges guards changes db))
    (runs : check.code = some code) :
    db.Places agent.id code ∨ ∃ done left rest, changes = done ++ .admin left :: rest ∧
      ¬ (afterChanges guards done db).Places agent.id code ∧
      (afterChanges guards (done ++ [.admin left]) db).Places agent.id code := by
  have placed := places_of_served isAgent admitted served runs
  rcases foldl_brings (p := fun db : Db => db.Places agent.id code) placed with here | brought
  · exact .inl here
  · obtain ⟨done, last, rest, whole, before, after⟩ := brought
    cases isAdmins : last.isAdmins with
    | true =>
      cases last with
      | admin left => exact .inr ⟨done, left, rest, whole, before, after⟩
      | _ => cases isAdmins
    | false =>
      rw [List.foldl_append] at after
      have keptKeys : (afterChanges guards done db).keyed = true := afterChanges_keyed keyed done
      exact absurd ((Change.commit_places keptKeys isAdmins).1 after) before

end Runs

/-! ## A tagged agent -/

def webScript : Check :=
  { id := 1, agentId := 1, checkType := .synthetic, scriptCode := some (text "async def run_check(page): ..."),
    assignmentMode := .replicate, agentSelector := some { tags := some [text "web"] }, createdAt := 0 }

/-- A script for every agent tagged `web`, as one agent is. -/
def scriptDb : Db where
  checks := [webScript, { id := 2, agentId := 1, checkType := .ping, createdAt := 0 }]
  agents :=
    [{ id := 1, agentName := some (text "edge"), tags := [text "web"], approvalStatus := .active, createdAt := 0 },
     { id := 2, agentName := some (text "lab"), approvalStatus := .active, createdAt := 0 }]

/-- An agent that registers as `web` is not approved, an operator tags none so and does not
change the script, whatever runs it is deleted with. -/
def intrusion : List Change :=
  [.register 3 0 [text "web"], .act 3 (.approve []), .updateAgent 2 { tags := some (some [text "web"]) },
   .operate (fun _ => 5) (.update 1 { scriptCode := some (some []) }), .deleteAgent 1,
   .heartbeat 2 ⟨.online, [text "web"]⟩ 7, .operate (fun _ => 9) (.setEnabled [1, 2] false)]

theorem web_served_by_admins : ∃ agent ∈ (afterChanges anyTarget (.admin scriptDb :: intrusion) {}).agents,
    ∃ check ∈ getChecksForAgent still 9 agent (afterChanges anyTarget (.admin scriptDb :: intrusion) {}),
      check.code = some webScript ∧
      (({} : Db).Places agent.id webScript ∨ ∃ done left rest, .admin scriptDb :: intrusion = done ++ .admin left :: rest ∧
        ¬ (afterChanges anyTarget done {}).Places agent.id webScript ∧
        (afterChanges anyTarget (done ++ [.admin left]) {}).Places agent.id webScript) := by
  have serves : ∃ agent ∈ (afterChanges anyTarget (.admin scriptDb :: intrusion) {}).agents, agent.admitted = true ∧
      ∃ check ∈ getChecksForAgent still 9 agent (afterChanges anyTarget (.admin scriptDb :: intrusion) {}),
        check.code = some webScript := by decide +kernel
  obtain ⟨agent, isAgent, admitted, check, served, runs⟩ := serves
  exact ⟨agent, isAgent, check, served, runs, served_by_admins (by decide) isAgent admitted served runs⟩

end LuxSwirl.Server
