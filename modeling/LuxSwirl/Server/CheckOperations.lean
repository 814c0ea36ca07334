import LuxSwirl.Server.ConfigVersions
import Mathlib.Data.List.Dedup

/-!
# Operations on checks

The operations of `check_core_service.py`, with the agents each marks and the row
each leaves of a check, and the versions they move: `configVersion_iff`.
-/

namespace LuxSwirl.Server
open LuxSwirl.Py LuxSwirl.Lib

inductive Operation where
  | create (id agentId : Id) (data : CheckCreate) (skipConfigUpdate : Bool)
  | update (checkId : Id) (data : CheckUpdate)
  | delete (checkId : Id)
  | setEnabled (checkIds : List Id) (enabled : Bool)
  | bulkDelete (checkIds : List Id)
  | modify (checkIds : List Id) (data : CheckUpdate) (newAgentId : Option Id)

/-- The tables left by an operation that succeeds. -/
def Operation.run (guards : Guards) (clock : Nat → Time) (actorIsAdmin : Bool) :
    Operation → Db → Except CheckError Db
  | .create id agentId data skipConfigUpdate, db =>
    createCheck guards clock id agentId data skipConfigUpdate actorIsAdmin db
  | .update checkId data, db =>
    match updateCheck guards clock checkId data actorIsAdmin db with
    | (updated, none) => .ok updated
    | (_, some refusal) => .error refusal
  | .delete checkId, db => deleteCheck clock checkId actorIsAdmin db
  | .setEnabled checkIds enabled, db => .ok (bulkSetEnabled clock checkIds enabled actorIsAdmin db).1
  | .bulkDelete checkIds, db =>
    .ok (Server.bulkDelete clock checkIds actorIsAdmin db).1
  | .modify checkIds data newAgentId, db =>
    (bulkModify guards clock checkIds data newAgentId actorIsAdmin db).map (·.1)

/-! ## The turns of a bulk change -/

section Turns

variable (guards : Guards) (clock : Nat → Time) (data : CheckUpdate)
  (newAgent : Option (Id × Except CheckError Agent)) (actorIsAdmin : Bool)

/-- The agents marked for one check: its own, and for a move the new one. -/
def turnMarks (checkId : Id) (db : Db) : List Id :=
  match db.getCheck checkId, modifyOne guards clock data newAgent actorIsAdmin checkId db with
  | some check, (_, affected, none) => check.agentId :: affected
  | _, _ => []

/-- The tables some turns leave. -/
def modifyTables (clock : Nat → Time) : List Id → Db → Db
  | [], db => db
  | checkId :: rest, db =>
    modifyTables (fun n => clock (n + 2)) rest
      (modifyOne guards clock data newAgent actorIsAdmin checkId db).1

/-- The agents some turns mark. -/
def modifyMarks (clock : Nat → Time) : List Id → Db → List Id
  | [], _ => []
  | checkId :: rest, db =>
    turnMarks guards clock data newAgent actorIsAdmin checkId db ++
      modifyMarks (fun n => clock (n + 2)) rest
        (modifyOne guards clock data newAgent actorIsAdmin checkId db).1

end Turns

/-! ## Marks and rows -/

/-- The row of a check once some checks are deleted. -/
def Check.without (checkIds : List Id) (check : Check) : Option Check :=
  if check.id ∈ checkIds then none
  else if check.dependsOnCheckId.any fun parentId => decide (parentId ∈ checkIds) then
    some { check with dependsOnCheckId := none }
  else some check

section Plan

variable (guards : Guards) (clock : Nat → Time) (actorIsAdmin : Bool)

/-- The agents the operation marks. -/
def Operation.marks : Operation → Db → List Id
  | .create _ agentId _ skipConfigUpdate, _ => if skipConfigUpdate then [] else [agentId]
  | .update checkId _, db => (db.getCheck checkId).toList.map (·.agentId)
  | .delete checkId, db => (db.getCheck checkId).toList.map (·.agentId)
  | .setEnabled checkIds _, db => db.agentsOf (bulkPermitted checkIds actorIsAdmin db).1
  | .bulkDelete checkIds, db => db.agentsOf (bulkPermitted checkIds actorIsAdmin db).1
  | .modify checkIds data newAgentId, db =>
    modifyMarks guards data (newAgentId.map fun agentId => (agentId, getAdmittedAgent agentId db))
      actorIsAdmin clock checkIds db

/-- The row the operation leaves of a check, unless it deletes it. -/
def Operation.rowAfter : Operation → Db → Check → Option Check
  | .create .., _, check => some check
  | .update checkId data, _, check =>
    if check.id = checkId then (data.row (clock 0) check).toOption else some check
  | .delete checkId, _, check => check.without [checkId]
  | .setEnabled checkIds enabled, db, check =>
    some (if check.id ∈ (bulkPermitted checkIds actorIsAdmin db).1 then
      { check with enabled, updatedAt := clock 0 } else check)
  | .bulkDelete checkIds, db, check => check.without (bulkPermitted checkIds actorIsAdmin db).1
  | .modify checkIds data newAgentId, db, check =>
    (modifyTables guards data (newAgentId.map fun agentId => (agentId, getAdmittedAgent agentId db))
      actorIsAdmin clock checkIds db).getCheck check.id

/-- A new check has a new id. -/
def Operation.Fresh : Operation → Db → Prop
  | .create id .., db => ∀ check ∈ db.checks, check.id ≠ id
  | _, _ => True

end Plan

section Rows

variable {since : Time} {db db' : Db}

theorem id_of_getCheck {checkId : Id} {check : Check} (found : db.getCheck checkId = some check) :
    check ∈ db.checks ∧ check.id = checkId :=
  ⟨List.mem_of_find?_eq_some found, by simpa using List.find?_some found⟩

theorem getCheck_of_mem (keys : (db.checks.map (·.id)).Nodup) {check : Check} (mem : check ∈ db.checks) :
    db.getCheck check.id = some check := by
  obtain ⟨found, isFound⟩ : ∃ found, db.getCheck check.id = some found := by
    rw [← Option.isSome_iff_exists, Db.getCheck, List.find?_isSome]
    exact ⟨check, mem, decide_eq_true rfl⟩
  obtain ⟨isCheck, same⟩ := id_of_getCheck isFound
  rw [isFound, List.inj_on_of_nodup_map keys isCheck mem same]

/-- Tables with the checks' ids hold their rows. -/
theorem filterMap_getCheck (keys : (db.checks.map (·.id)).Nodup)
    (sameIds : db'.checks.map (·.id) = db.checks.map (·.id)) :
    db.checks.filterMap (fun check => db'.getCheck check.id) = db'.checks := by
  have keys' : (db'.checks.map (·.id)).Nodup := sameIds ▸ keys
  have byIds (rows : List Check) :
      rows.filterMap (fun check => db'.getCheck check.id) = (rows.map (·.id)).filterMap db'.getCheck := by
    rw [List.filterMap_map]
    rfl
  rw [byIds, ← sameIds, ← byIds]
  refine (List.filterMap_congr fun check mem => ?_).trans List.filterMap_some
  exact getCheck_of_mem keys' mem

@[simp] theorem saveCheck_ids (row : Check) (db : Db) :
    (db.saveCheck row).checks.map (·.id) = db.checks.map (·.id) := by
  rw [Db.saveCheck, List.map_map]
  refine List.map_congr_left fun check _ => ?_
  dsimp only [Function.comp_apply]
  split_ifs with same
  · exact same.symm
  · rfl

/-- A saved row replaces the check it is of. -/
theorem saveCheck_checks {check row : Check} (same : row.id = check.id) (db : Db) :
    (db.saveCheck row).checks = db.checks.filterMap fun other =>
      if other.id = check.id then some row else some other := by
  rw [Db.saveCheck, ← List.filterMap_eq_map]
  refine List.filterMap_congr fun other _ => ?_
  rw [Function.comp_apply, same]
  split_ifs <;> rfl

theorem deleteChecks_checks (checkIds : List Id) (db : Db) :
    (db.deleteChecks checkIds).checks = db.checks.filterMap (Check.without checkIds) := by
  rw [Db.deleteChecks]
  dsimp only
  rw [← List.filterMap_eq_map, List.filterMap_filter]
  refine List.filterMap_congr fun check _ => ?_
  by_cases deleted : check.id ∈ checkIds
  · simp [Check.without, deleted]
  · simp only [deleted, not_false_eq_true, decide_true, if_true, Function.comp_apply, Check.without, if_false]
    split_ifs <;> rfl

theorem without_id {checkIds : List Id} {check row : Check} (left : check.without checkIds = some row) :
    row.id = check.id := by
  unfold Check.without at left
  split_ifs at left <;> cases left <;> rfl

end Rows

/-! ## What each operation does -/

section Each

variable {guards : Guards} {clock : Nat → Time} {actorIsAdmin : Bool} {since : Time} {db db' : Db}

theorem required_eq_ok {α : Type} {given : Option (Option α)} {old value : α}
    (set : required given old = .ok value) : given.getD (some old) = some value := by
  rcases given with _ | _ | given <;> cases set <;> rfl

/-- What an update leaves: a required column has what it had or was given, never null. -/
structure CheckUpdate.Leaves (data : CheckUpdate) (now : Time) (check row : Check) : Prop where
  displayName : data.displayName.getD (some check.displayName) = some row.displayName
  checkType : data.checkType.getD (some check.checkType) = some row.checkType
  target : data.target.getD (some check.target) = some row.target
  enabled : data.enabled.getD (some check.enabled) = some row.enabled
  retryIntervalSeconds :
    data.retryIntervalSeconds.getD (some check.retryIntervalSeconds) = some row.retryIntervalSeconds
  assignmentMode : data.assignmentMode.getD (some check.assignmentMode) = some row.assignmentMode
  row : row = { check with
    displayName := row.displayName
    checkType := row.checkType
    target := row.target
    description := data.description.getD check.description
    enabled := row.enabled
    intervalSeconds := data.intervalSeconds.getD check.intervalSeconds
    timeoutSeconds := data.timeoutSeconds.getD check.timeoutSeconds
    retryAttempts := data.retryAttempts.getD check.retryAttempts
    retryIntervalSeconds := row.retryIntervalSeconds
    resendNotificationAfter := data.resendNotificationAfter.getD check.resendNotificationAfter
    tags := data.tags.getD check.tags
    checkConfig := data.config' (some row.checkType) check
    scriptCode := if row.checkType ≠ .synthetic then none else data.scriptCode.getD check.scriptCode
    assignmentMode := row.assignmentMode
    agentSelector := data.agentSelector.getD check.agentSelector
    dependsOnCheckId := data.dependsOnCheckId.getD check.dependsOnCheckId
    updatedAt := now }

theorem CheckUpdate.row_leaves {data : CheckUpdate} {now : Time} {check row : Check}
    (isRow : data.row now check = .ok row) : data.Leaves now check row := by
  obtain ⟨_, displayName, isRow⟩ := except_bind_ok.mp isRow
  obtain ⟨_, checkType, isRow⟩ := except_bind_ok.mp isRow
  obtain ⟨_, target, isRow⟩ := except_bind_ok.mp isRow
  obtain ⟨_, enabled, isRow⟩ := except_bind_ok.mp isRow
  obtain ⟨_, retryInterval, isRow⟩ := except_bind_ok.mp isRow
  obtain ⟨_, assignmentMode, isRow⟩ := except_bind_ok.mp isRow
  have becomes := required_eq_ok checkType
  rw [becomes] at isRow
  cases isRow
  refine ⟨required_eq_ok displayName, becomes, required_eq_ok target, required_eq_ok enabled,
    required_eq_ok retryInterval, required_eq_ok assignmentMode, ?_⟩
  simp only [ne_eq, Option.some_inj]

/-- An updated row is of the check. -/
theorem CheckUpdate.row_id {data : CheckUpdate} {now : Time} {check row : Check}
    (isRow : data.row now check = .ok row) : row.id = check.id := by
  rw [(CheckUpdate.row_leaves isRow).row]

/-- An update that succeeds has passed its checks, marks the check's agent and saves the row. -/
theorem updateCheck_passed {checkId : Id} {data : CheckUpdate} {updated : Db}
    (done : updateCheck guards clock checkId data actorIsAdmin db = (updated, none)) :
    ∃ check row, db.getCheck checkId = some check ∧ data.validate guards actorIsAdmin check db = .ok () ∧
      (∀ script ∈ data.script check, guards.scriptAllowed script = true) ∧
      data.row (clock 0) check = .ok row ∧
      updated = (db.touchAgent (clock 1) check.agentId).saveCheck row := by
  unfold updateCheck at done
  split at done
  · cases done
  · rename_i check found
    split at done
    · cases done
    · rename_i validated
      split_ifs at done with refused
      · cases done
      · split at done
        · cases done
        · rename_i row isRow
          cases done
          refine ⟨check, row, found, validated, fun script given => ?_, isRow, rfl⟩
          rw [Option.mem_def.mp given] at refused
          simpa using refused

theorem updateCheck_eq_none {checkId : Id} {data : CheckUpdate} {updated : Db}
    (done : updateCheck guards clock checkId data actorIsAdmin db = (updated, none)) :
    ∃ check row, db.getCheck checkId = some check ∧ data.row (clock 0) check = .ok row ∧
      updated = (db.touchAgent (clock 1) check.agentId).saveCheck row := by
  obtain ⟨check, row, found, -, -, isRow, left⟩ := updateCheck_passed done
  exact ⟨check, row, found, isRow, left⟩

/-- One that is refused marks no agent and keeps the ids. -/
theorem updateCheck_eq_some {checkId : Id} {data : CheckUpdate} {updated : Db} {refusal : CheckError}
    (done : updateCheck guards clock checkId data actorIsAdmin db = (updated, some refusal)) :
    updated.agents = db.agents ∧ updated.checks.map (·.id) = db.checks.map (·.id) := by
  unfold updateCheck at done
  split at done
  · cases done
    exact ⟨rfl, rfl⟩
  · split at done
    · cases done
      exact ⟨rfl, rfl⟩
    · split_ifs at done
      · dsimp only at done
        split_ifs at done
        · cases done
          exact ⟨rfl, saveCheck_ids _ _⟩
        · cases done
          exact ⟨rfl, rfl⟩
      · split at done
        · cases done
          exact ⟨rfl, rfl⟩
        · cases done

/-- What a turn of a bulk change does: it keeps the ids, and marks at once or at the
end the agents it is to mark. -/
structure Turn (since : Time) (marks affected : List Id) (db db' : Db) : Prop where
  ids : db'.checks.map (·.id) = db.checks.map (·.id)
  marked : ∃ atOnce : List Id, Marks since (· ∈ atOnce) db db' ∧
    ∀ agentId, agentId ∈ marks ↔ agentId ∈ atOnce ∨ agentId ∈ affected

theorem Turn.nothing (sameIds : db'.checks.map (·.id) = db.checks.map (·.id)) (agents : db'.agents = db.agents) :
    Turn since [] [] db db' :=
  ⟨sameIds, [], (Marks.of_agents agents).congr fun _ => by simp, by simp⟩

theorem modifyOne_turn (guards : Guards) (actorIsAdmin : Bool) (le : ∀ n, since ≤ clock n) (data : CheckUpdate)
    (newAgent : Option (Id × Except CheckError Agent)) (checkId : Id) (db : Db) :
    let turn := modifyOne guards clock data newAgent actorIsAdmin checkId db
    Turn since (turnMarks guards clock data newAgent actorIsAdmin checkId db) turn.2.1 db turn.1 := by
  unfold turnMarks modifyOne
  cases found : db.getCheck checkId with
  | none => exact .nothing rfl rfl
  | some check =>
    dsimp only
    cases moved : newAgent.filter fun target => decide (target.1 ≠ check.agentId) with
    | none =>
      rcases done : updateCheck guards clock checkId data actorIsAdmin db with ⟨updated, _ | refusal⟩
      · obtain ⟨other, row, isCheck, isRow, rfl⟩ := updateCheck_eq_none done
        rw [found] at isCheck
        cases isCheck
        refine ⟨saveCheck_ids _ _, [check.agentId], ?_, by simp⟩
        exact (Marks.touchAgent (le 1) check.agentId db).congr fun _ => List.mem_singleton.symm
      · obtain ⟨agents, sameIds⟩ := updateCheck_eq_some done
        exact .nothing sameIds agents
    | some target =>
      obtain ⟨newAgentId, refusal | agent⟩ := target
      · exact .nothing rfl rfl
      · dsimp only
        split_ifs
        · exact .nothing rfl rfl
        · refine ⟨saveCheck_ids _ _, [], (Marks.of_agents rfl).congr fun _ => by simp, ?_⟩
          simp

/-- Some turns do what each does. -/
theorem modifyAll_turns (le : ∀ n, since ≤ clock n) {data : CheckUpdate}
    {newAgent : Option (Id × Except CheckError Agent)} {checkIds : List Id} {affected : List Id}
    {outcome : BulkOutcome}
    (done : modifyAll guards clock data newAgent actorIsAdmin checkIds db = .ok (db', affected, outcome)) :
    db' = modifyTables guards data newAgent actorIsAdmin clock checkIds db ∧
      Turn since (modifyMarks guards data newAgent actorIsAdmin clock checkIds db) affected db db' := by
  induction checkIds generalizing clock db affected outcome with
  | nil =>
    cases done
    exact ⟨rfl, .nothing rfl rfl⟩
  | cons checkId rest ih =>
    have turn := modifyOne_turn guards actorIsAdmin le data newAgent checkId db
    rw [modifyAll] at done
    split at done
    · cases done
    · rename_i next first refusal _ isOne
      obtain ⟨⟨last, more, counted⟩, others, finished⟩ := except_bind_ok.mp done
      cases finished
      obtain ⟨sameTables, turns⟩ := ih (fun n => le (n + 2)) others
      rw [modifyTables, modifyMarks]
      rw [isOne] at turn ⊢
      refine ⟨sameTables, turns.ids.trans turn.ids, ?_⟩
      obtain ⟨atOnce, marks, sameMarks⟩ := turn.marked
      obtain ⟨later, marks', sameMarks'⟩ := turns.marked
      refine ⟨atOnce ++ later, (marks.trans marks').congr fun _ => List.mem_append.symm, fun agentId => ?_⟩
      rw [List.mem_append, List.mem_append, List.mem_append, sameMarks, sameMarks']
      exact or_or_or_comm

/-- What an operation that creates no check does, by the rows it leaves. -/
theorem Effects.of_rows {marked : Id → Prop} {rowAfter : Check → Option Check} (marks : Marks since marked db db')
    (checks : db'.checks = db.checks.filterMap rowAfter)
    (sameId : ∀ check ∈ db.checks, ∀ row, rowAfter check = some row → row.id = check.id) :
    Effects marked rowAfter since db db' where
  marks
  sameId
  checks := ⟨[], by rw [checks, List.append_nil], by simp, .inl rfl⟩

theorem createCheck_effects (le : ∀ n, since ≤ clock n) {id agentId : Id} {data : CheckCreate}
    {skipConfigUpdate : Bool} (fresh : ∀ check ∈ db.checks, check.id ≠ id)
    (done : createCheck guards clock id agentId data skipConfigUpdate actorIsAdmin db = .ok db') :
    Effects (· ∈ if skipConfigUpdate then [] else [agentId]) some since db db' := by
  obtain ⟨-, rfl⟩ := createCheck_eq_ok done
  refine ⟨?_, ?_, [data.row id agentId (clock 0)], ?_, ?_, .inr fun _ _ => rfl⟩
  · cases skipConfigUpdate with
    | true => exact (Marks.of_agents rfl).congr fun _ => by simp
    | false =>
      have assigned : Marks since (fun _ => False) db
          (({ db with checks := db.checks ++ [data.row id agentId (clock 0)] } : Db).assignGlobalAlertsToCheck id) :=
        .of_agents rfl
      exact (assigned.trans (.touchAgent (le 1) agentId _)).congr fun _ => by simp
  · rintro check - row left
    cases left
    rfl
  · rw [List.filterMap_some]
    cases skipConfigUpdate <;> rfl
  · intro row mem check isCheck
    rw [List.mem_singleton.mp mem]
    exact fresh check isCheck

theorem updateCheck_effects (le : ∀ n, since ≤ clock n) (keys : (db.checks.map (·.id)).Nodup) {checkId : Id}
    {data : CheckUpdate} (done : updateCheck guards clock checkId data actorIsAdmin db = (db', none)) :
    Effects (· ∈ (db.getCheck checkId).toList.map (·.agentId))
      (fun check => if check.id = checkId then (data.row (clock 0) check).toOption else some check) since db db' := by
  obtain ⟨check, row, found, isRow, rfl⟩ := updateCheck_eq_none done
  obtain ⟨isCheck, isId⟩ := id_of_getCheck found
  refine .of_rows ?_ ?_ ?_
  · have marks : Marks since (· = check.agentId) db ((db.touchAgent (clock 1) check.agentId).saveCheck row) :=
      .touchAgent (le 1) check.agentId db
    exact marks.congr fun _ => by simp [found]
  · rw [saveCheck_checks (CheckUpdate.row_id isRow), isId]
    refine List.filterMap_congr fun other mem => ?_
    split_ifs with isIt
    · rw [List.inj_on_of_nodup_map keys mem isCheck (isIt.trans isId.symm), isRow]
      rfl
    · rfl
  · intro other _ left isLeft
    split_ifs at isLeft with isIt
    · cases result : data.row (clock 0) other with
      | error refusal =>
        rw [result] at isLeft
        cases isLeft
      | ok updated =>
        rw [result] at isLeft
        cases isLeft
        exact CheckUpdate.row_id result
    · cases isLeft
      rfl

theorem deleteCheck_effects (le : ∀ n, since ≤ clock n) {checkId : Id}
    (done : deleteCheck clock checkId actorIsAdmin db = .ok db') :
    Effects (· ∈ (db.getCheck checkId).toList.map (·.agentId)) (Check.without [checkId]) since db db' := by
  unfold deleteCheck at done
  split at done
  · cases done
  · rename_i check found
    obtain rfl : (db.deleteChecks [checkId]).touchAgent (clock 0) check.agentId = db' := by
      dsimp only at done
      split_ifs at done
      · obtain ⟨-, -, isDone⟩ := except_bind_ok.mp done
        exact Except.ok.inj isDone
      · exact Except.ok.inj done
    refine .of_rows ?_ (deleteChecks_checks [checkId] db) fun _ _ _ => without_id
    have deleted : Marks since (fun _ => False) db (db.deleteChecks [checkId]) := .of_agents rfl
    exact (deleted.trans (.touchAgent (le 0) check.agentId _)).congr fun _ => by simp [found]

theorem bulkSetEnabled_effects (le : ∀ n, since ≤ clock n) (checkIds : List Id) (enabled : Bool) (db : Db) :
    Effects (· ∈ db.agentsOf (bulkPermitted checkIds actorIsAdmin db).1)
      (fun check => some (if check.id ∈ (bulkPermitted checkIds actorIsAdmin db).1 then
        { check with enabled, updatedAt := clock 0 } else check)) since db
      (bulkSetEnabled clock checkIds enabled actorIsAdmin db).1 := by
  rw [bulkSetEnabled]
  dsimp only
  generalize bulkPermitted checkIds actorIsAdmin db = permitted
  have sameAgents : ({ db with
      checks := db.checks.map fun check =>
        if check.id ∈ permitted.1 then { check with enabled, updatedAt := clock 0 } else check } : Db).agentsOf
          permitted.1 = db.agentsOf permitted.1 := by
    have keepsId (check : Check) : (if check.id ∈ permitted.1 then
        { check with enabled, updatedAt := clock 0 } else check).id = check.id := by split_ifs <;> rfl
    have keepsAgent (check : Check) : (if check.id ∈ permitted.1 then
        { check with enabled, updatedAt := clock 0 } else check).agentId = check.agentId := by split_ifs <;> rfl
    simp only [Db.agentsOf, List.filter_map, List.map_map, Function.comp_def, keepsId, keepsAgent]
  refine .of_rows ?_ ?_ ?_
  · rw [sameAgents]
    exact (Marks.touchAgents (fun n => le (n + 1)) _ _).congr fun _ => Iff.rfl
  · rw [touchAgents_checks, ← List.filterMap_eq_map]
    rfl
  · intro check _ row left
    cases left
    split_ifs <;> rfl

theorem bulkDelete_effects (le : ∀ n, since ≤ clock n) (checkIds : List Id) (db : Db) :
    Effects (· ∈ db.agentsOf (bulkPermitted checkIds actorIsAdmin db).1)
      (Check.without (bulkPermitted checkIds actorIsAdmin db).1) since db
      (bulkDelete clock checkIds actorIsAdmin db).1 := by
  rw [bulkDelete]
  dsimp only
  generalize bulkPermitted checkIds actorIsAdmin db = permitted
  refine .of_rows ?_ ?_ fun _ _ _ => without_id
  · have marks : Marks since (· ∈ db.agentsOf permitted.1) db (db.touchAgents clock (db.agentsOf permitted.1)) :=
      .touchAgents le _ db
    exact (marks.trans (.of_agents rfl)).congr fun _ => by simp
  · rw [deleteChecks_checks, touchAgents_checks]

theorem bulkModify_effects (le : ∀ n, since ≤ clock n) (keys : (db.checks.map (·.id)).Nodup) {checkIds : List Id}
    {data : CheckUpdate} {newAgentId : Option Id} {outcome : BulkOutcome}
    (done : bulkModify guards clock checkIds data newAgentId actorIsAdmin db = .ok (db', outcome)) :
    let newAgent := newAgentId.map fun agentId => (agentId, getAdmittedAgent agentId db)
    Effects (· ∈ modifyMarks guards data newAgent actorIsAdmin clock checkIds db)
      (fun check => (modifyTables guards data newAgent actorIsAdmin clock checkIds db).getCheck check.id)
      since db db' := by
  obtain ⟨⟨changed, affected, counted⟩, all, finished⟩ := except_bind_ok.mp done
  cases finished
  obtain ⟨rfl, turns⟩ := modifyAll_turns le all
  obtain ⟨atOnce, marks, sameMarks⟩ := turns.marked
  refine .of_rows ?_ ?_ fun check _ row left => (id_of_getCheck left).2
  · have atEnd := marks.trans (.touchAgents (fun n => le (n + 2 * checkIds.length)) affected.dedup _)
    exact atEnd.congr fun agentId => by rw [sameMarks, List.mem_dedup]
  · rw [touchAgents_checks, filterMap_getCheck keys turns.ids]

/-- Every operation that succeeds does what its marks and rows say. -/
theorem Operation.effects (le : ∀ n, since ≤ clock n) {operation : Operation}
    (keys : (db.checks.map (·.id)).Nodup) (fresh : operation.Fresh db)
    (done : operation.run guards clock actorIsAdmin db = .ok db') :
    Effects (· ∈ operation.marks guards clock actorIsAdmin db)
      (operation.rowAfter guards clock actorIsAdmin db) since db db' := by
  cases operation with
  | create id agentId data skipConfigUpdate => exact createCheck_effects le fresh done
  | update checkId data =>
    rw [Operation.run] at done
    split at done
    · rename_i updated isUpdated
      cases done
      exact updateCheck_effects le keys isUpdated
    · cases done
  | delete checkId => exact deleteCheck_effects le done
  | setEnabled checkIds enabled =>
    cases done
    exact bulkSetEnabled_effects le checkIds enabled db
  | bulkDelete checkIds =>
    cases done
    exact bulkDelete_effects le checkIds db
  | modify checkIds data newAgentId =>
    rw [Operation.run] at done
    rcases modified : bulkModify guards clock checkIds data newAgentId actorIsAdmin db with refusal | ⟨left, outcome⟩
    · rw [modified] at done
      cases done
    · rw [modified] at done
      cases done
      exact bulkModify_effects le keys modified

end Each

/-! ## A check of two agents -/

def probe (id : Id) : Agent := { id, tags := [text "probe"], approvalStatus := .active, createdAt := 0 }

/-- A check for every probe. -/
def replica : CheckCreate where
  displayName := text "web"
  checkType := .ping
  target := text "web"
  assignmentMode := .replicate
  agentSelector := some { tags := some [text "probe"] }

def newInterval : CheckUpdate where
  intervalSeconds := some (some 300)

/-- Distributed checks stay where they are. -/
def still : Outside := ⟨fun _ _ _ => true, fun _ _ => 0, 60⟩

/-- The check on the row of one probe, and some others. -/
def replicaDb (others : List Id) : Db where
  agents := { probe 1 with checksUpdatedAt := some 1 } :: others.map probe
  checks := [replica.row 5 1 0]

end LuxSwirl.Server
