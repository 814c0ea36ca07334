import LuxSwirl.Lib.Visits
import LuxSwirl.Server.StoredSettings

/-!
# What a bulk change reports

`bulk_modify` goes through its checks in one session, one visit each, and notes of each
that it was changed or the error that stopped it. `bulkModify_asReported_iff`: what it
notes is what it stores exactly when the checks differ, no update stops at a script
after it set a config, and no move leaves out a change that the check has yet to get.
-/

namespace LuxSwirl.Server
open LuxSwirl.Py LuxSwirl.Lib

/-! ## The visits -/

section Visits

variable (guards : Guards) (clock : Nat → Time) (data : CheckUpdate)
  (newAgent : Option (Id × Except CheckError Agent)) (actorIsAdmin : Bool)

/-- The visit of a check by its number; each has two readings of the clock. -/
def modifyVisit (number : Nat) (checkId : Id) (db : Db) : Db × List Id × Option CheckError :=
  modifyOne guards (fun n => clock (n + 2 * number)) data newAgent actorIsAdmin checkId db

/-- The tables a visit leaves. -/
def modifyStep (number : Nat) (checkId : Id) (db : Db) : Db :=
  (modifyVisit guards clock data newAgent actorIsAdmin number checkId db).1

def visitRefusal (visit : Visit Id Db) : Option CheckError :=
  (modifyVisit guards clock data newAgent actorIsAdmin visit.number visit.key visit.before).2.2

def modifyVisits (checkIds : List Id) (db : Db) : List (Visit Id Db) :=
  visits (modifyStep guards clock data newAgent actorIsAdmin) 0 checkIds db

/-- What the call notes of each check: the error, unless it is one of the changed ones. -/
def modifyNotes (checkIds : List Id) (db : Db) : List (Id × Option CheckError) :=
  (modifyVisits guards clock data newAgent actorIsAdmin checkIds db).map fun visit =>
    (visit.key, visitRefusal guards clock data newAgent actorIsAdmin visit)

end Visits

/-! ## The changes -/

/-- A row has the changes that an update and a move ask for: of the config those of its
type that are set, and a script only when it is a synthetic check. -/
structure CheckUpdate.Made (data : CheckUpdate) (newAgentId : Option Id) (row : Check) : Prop where
  agentId : ∀ agentId ∈ newAgentId, row.agentId = agentId
  displayName : ∀ value ∈ data.displayName, value = some row.displayName
  checkType : ∀ value ∈ data.checkType, value = some row.checkType
  target : ∀ value ∈ data.target, value = some row.target
  description : ∀ value ∈ data.description, value = row.description
  intervalSeconds : ∀ value ∈ data.intervalSeconds, value = row.intervalSeconds
  timeoutSeconds : ∀ value ∈ data.timeoutSeconds, value = row.timeoutSeconds
  enabled : ∀ value ∈ data.enabled, value = some row.enabled
  retryAttempts : ∀ value ∈ data.retryAttempts, value = row.retryAttempts
  retryIntervalSeconds : ∀ value ∈ data.retryIntervalSeconds, value = some row.retryIntervalSeconds
  resendNotificationAfter : ∀ value ∈ data.resendNotificationAfter, value = row.resendNotificationAfter
  tags : ∀ value ∈ data.tags, value = row.tags
  assignmentMode : ∀ value ∈ data.assignmentMode, value = some row.assignmentMode
  agentSelector : ∀ value ∈ data.agentSelector, value = row.agentSelector
  scriptCode : row.checkType = .synthetic → ∀ value ∈ data.scriptCode, value = row.scriptCode
  dependsOnCheckId : ∀ value ∈ data.dependsOnCheckId, value = row.dependsOnCheckId
  config : ∀ entry ∈ takeConfigUpdates data.config row.checkType,
    Fields.get? entry.1 (row.checkConfig.getD []) = some entry.2

/-- The changes that a move does not make: all but six fields, and nulls. -/
def CheckUpdate.leftByMove (data : CheckUpdate) : CheckUpdate :=
  { data with
    description := data.description.filter (·.isNone)
    intervalSeconds := data.intervalSeconds.filter (·.isNone)
    timeoutSeconds := data.timeoutSeconds.filter (·.isNone)
    enabled := data.enabled.filter (·.isNone)
    retryAttempts := data.retryAttempts.filter (·.isNone)
    tags := data.tags.filter (·.isNone) }

/-- The call's notes are what it stored: each check is in them once, one with an error
has its row and assignment of before, and one without has all of the changes. -/
structure AsReported (notes : List (Id × Option CheckError)) (checkIds : List Id) (data : CheckUpdate)
    (newAgentId : Option Id) (before after : Db) : Prop where
  once : ∀ checkId ∈ checkIds, (notes.map (·.1)).count checkId = 1
  failed : ∀ checkId refusal, (checkId, some refusal) ∈ notes → after.getCheck checkId = before.getCheck checkId
  modified : ∀ checkId, (checkId, none) ∈ notes →
    ∃ row, after.getCheck checkId = some row ∧ data.Made newAgentId row

/-! ## The branches that go wrong -/

section Branches

variable (guards : Guards) (data : CheckUpdate) (newAgent : Option (Id × Except CheckError Agent))
  (actorIsAdmin : Bool)

/-- A check moves to another agent. -/
def MovesTo (check : Check) (agent : Agent) : Prop :=
  (∃ newAgentId, newAgent = some (newAgentId, .ok agent) ∧ newAgentId ≠ check.agentId) ∧
    (check.checkType = .synthetic → actorIsAdmin = true)

/-- An update in place is stopped by its script when the config is set, to another than
the stored one or at another time. -/
structure LeavesHalf (now : Time) (db : Db) (check : Check) : Prop where
  stays : ∀ target ∈ newAgent, target.1 = check.agentId
  validated : data.validate guards actorIsAdmin check db = .ok ()
  script : ∃ script ∈ data.script check, guards.scriptAllowed script = false
  setsConfig : data.setsConfig (data.checkType.getD (some check.checkType)) check = true
  differs : data.config' (data.checkType.getD (some check.checkType)) check ≠ check.checkConfig ∨
    check.updatedAt ≠ now

/-- Neither goes wrong: no update stops half-way, and a check that moves has the changes
that a move does not make. -/
structure Whole (now : Time) (db : Db) (check : Check) : Prop where
  script : ¬ LeavesHalf guards data newAgent actorIsAdmin now db check
  moved : ∀ agent, MovesTo newAgent actorIsAdmin check agent → data.leftByMove.Made none check

end Branches

variable {guards : Guards} {clock : Nat → Time} {data : CheckUpdate} {actorIsAdmin : Bool} {db : Db}

/-! ## What the rows have -/

theorem required_made {α : Type} {given : Option (Option α)} {old value : α}
    (set : given.getD (some old) = some value) : ∀ v ∈ given, v = some value := by
  rintro v isGiven
  rw [Option.mem_def.mp isGiven] at set
  exact set

theorem getD_made {α : Type} {given : Option α} {old : α} : ∀ v ∈ given, v = given.getD old := by
  rintro v isGiven
  rw [Option.mem_def.mp isGiven]
  rfl

/-- The config fields an update gives are in the config it leaves. -/
theorem CheckUpdate.config'_made (data : CheckUpdate) (check : Check) (checkType : CheckType) :
    ∀ entry ∈ takeConfigUpdates data.config checkType,
      Fields.get? entry.1 ((data.config' (some checkType) check).getD []) = some entry.2 := by
  intro entry mem
  have isSetting : data.setsConfig (some checkType) check = true :=
    decide_eq_true (Or.inl (List.ne_nil_of_mem mem))
  have keys := packConfig_keys data.config checkType
  simp only [CheckUpdate.config', isSetting, Bool.not_true, Bool.false_eq_true, if_false, Option.getD_some,
    Option.map_some, takeConfigUpdates]
  rw [Fields.get?_foldl_set keys, Fields.get?_of_mem keys mem]
  rfl

/-- An update in place makes its changes. -/
theorem CheckUpdate.Leaves.made {now : Time} {check row : Check} (leaves : data.Leaves now check row)
    {newAgentId : Option Id} (stays : ∀ agentId ∈ newAgentId, check.agentId = agentId) :
    data.Made newAgentId row where
  agentId := by
    rw [leaves.row]
    exact stays
  displayName := required_made leaves.displayName
  checkType := required_made leaves.checkType
  target := required_made leaves.target
  description := by
    rw [leaves.row]
    exact getD_made
  intervalSeconds := by
    rw [leaves.row]
    exact getD_made
  timeoutSeconds := by
    rw [leaves.row]
    exact getD_made
  enabled := required_made leaves.enabled
  retryAttempts := by
    rw [leaves.row]
    exact getD_made
  retryIntervalSeconds := required_made leaves.retryIntervalSeconds
  resendNotificationAfter := by
    rw [leaves.row]
    exact getD_made
  tags := by
    rw [leaves.row]
    exact getD_made
  assignmentMode := required_made leaves.assignmentMode
  agentSelector := by
    rw [leaves.row]
    exact getD_made
  scriptCode isSynthetic := by
    rw [leaves.row]
    dsimp only
    rw [if_neg (not_not_intro isSynthetic)]
    exact getD_made
  dependsOnCheckId := by
    rw [leaves.row]
    exact getD_made
  config := by
    rw [leaves.sets.checkConfig]
    exact data.config'_made check row.checkType

theorem orElse_made_iff {α : Type} {given : Option (Option α)} {old : Option α} :
    (∀ value ∈ given, value = (given.getD none).orElse fun _ => old) ↔
      ∀ value ∈ given.filter (·.isNone), value = old := by
  rcases given with _ | _ | value <;> simp

theorem getD_made_iff {α : Type} {given : Option (Option α)} {old : α} :
    (∀ value ∈ given, value = some ((given.getD none).getD old)) ↔
      ∀ value ∈ given.filter (·.isNone), value = some old := by
  rcases given with _ | _ | value <;> simp

/-- A check that moves has all of the changes when it has those the move leaves out. -/
theorem moveCheckToAgent_made_iff {check : Check} {movedTo : Id} {now : Time} {newAgentId : Option Id}
    (isAgent : ∀ agentId ∈ newAgentId, movedTo = agentId) :
    data.Made newAgentId (moveCheckToAgent check movedTo data now) ↔ data.leftByMove.Made none check := by
  constructor
  · intro made
    exact
      { made with
        agentId := by simp
        description := orElse_made_iff.mp made.description
        intervalSeconds := orElse_made_iff.mp made.intervalSeconds
        timeoutSeconds := orElse_made_iff.mp made.timeoutSeconds
        enabled := getD_made_iff.mp made.enabled
        retryAttempts := orElse_made_iff.mp made.retryAttempts
        tags := orElse_made_iff.mp made.tags }
  · intro made
    exact
      { made with
        agentId := isAgent
        description := orElse_made_iff.mpr made.description
        intervalSeconds := orElse_made_iff.mpr made.intervalSeconds
        timeoutSeconds := orElse_made_iff.mpr made.timeoutSeconds
        enabled := getD_made_iff.mpr made.enabled
        retryAttempts := orElse_made_iff.mpr made.retryAttempts
        tags := orElse_made_iff.mpr made.tags }

/-! ## One visit -/

/-- What the visit of a check that is there does. -/
inductive ModifyCase (guards : Guards) (clock : Nat → Time) (data : CheckUpdate)
    (newAgent : Option (Id × Except CheckError Agent)) (actorIsAdmin : Bool) (db : Db) (check : Check) :
    Db × List Id × Option CheckError → Prop where
  | refused (left : Db) (refusal : CheckError) (same : ∀ other, left.getCheck other = db.getCheck other)
      (script : ¬ LeavesHalf guards data newAgent actorIsAdmin (clock 0) db check)
      (stays : ∀ agent, ¬ MovesTo newAgent actorIsAdmin check agent) :
      ModifyCase guards clock data newAgent actorIsAdmin db check (left, [], some refusal)
  | half (row : Check) (leaves : LeavesHalf guards data newAgent actorIsAdmin (clock 0) db check)
      (sameId : row.id = check.id) (differs : row ≠ check) :
      ModifyCase guards clock data newAgent actorIsAdmin db check (db.saveCheck row, [], some .scriptBlocked)
  | moved (agent : Agent) (moves : MovesTo newAgent actorIsAdmin check agent) :
      ModifyCase guards clock data newAgent actorIsAdmin db check
        (db.saveCheck (moveCheckToAgent check agent.id data (clock 0)), [check.agentId, agent.id], none)
  | updated (row : Check) (stays : ∀ target ∈ newAgent, target.1 = check.agentId)
      (script : ∀ script ∈ data.script check, guards.scriptAllowed script = true)
      (isRow : data.row (clock 0) check = .ok row) :
      ModifyCase guards clock data newAgent actorIsAdmin db check
        ((db.touchAgent (clock 1) check.agentId).saveCheck row, [], none)

theorem updateCheck_cases (guards : Guards) (clock : Nat → Time) (data : CheckUpdate)
    {newAgent : Option (Id × Except CheckError Agent)} (actorIsAdmin : Bool) {checkId : Id} {check : Check}
    (found : db.getCheck checkId = some check) (stays : ∀ target ∈ newAgent, target.1 = check.agentId) :
    ModifyCase guards clock data newAgent actorIsAdmin db check
      ((updateCheck guards clock checkId data actorIsAdmin db).1, [],
        (updateCheck guards clock checkId data actorIsAdmin db).2) := by
  have unmoved : ∀ agent, ¬ MovesTo newAgent actorIsAdmin check agent := by
    rintro agent ⟨⟨newAgentId, isTarget, apart⟩, -⟩
    exact apart (stays _ isTarget)
  unfold updateCheck
  rw [found]
  dsimp only
  cases validated : data.validate guards actorIsAdmin check db with
  | error refusal =>
    refine .refused db refusal (fun _ => rfl) (fun half => ?_) unmoved
    rw [half.validated] at validated
    cases validated
  | ok _ =>
    dsimp only
    cases isScript : (data.script check).any fun script => !guards.scriptAllowed script with
    | false =>
      have allowed : ∀ script ∈ data.script check, guards.scriptAllowed script = true := by
        intro script given
        rw [Option.mem_def.mp given] at isScript
        simpa using isScript
      rw [if_neg Bool.false_ne_true]
      cases isRow : data.row (clock 0) check with
      | error refusal =>
        refine .refused db refusal (fun _ => rfl) (fun half => ?_) unmoved
        obtain ⟨script, given, refused⟩ := half.script
        rw [allowed script given] at refused
        cases refused
      | ok row => exact .updated row stays allowed isRow
    | true =>
      rw [if_pos rfl]
      dsimp only
      have refused : ∃ script ∈ data.script check, guards.scriptAllowed script = false := by
        simpa [Option.any_eq_true] using isScript
      split_ifs with isSetting
      · by_cases differs : data.config' (data.checkType.getD (some check.checkType)) check ≠ check.checkConfig ∨
          check.updatedAt ≠ clock 0
        · refine .half _ ⟨stays, validated, refused, isSetting, differs⟩ rfl fun same => ?_
          rcases differs with differs | differs
          · exact differs (congrArg Check.checkConfig same)
          · exact differs (congrArg Check.updatedAt same).symm
        · -- what is written is what was stored
          refine .refused _ .scriptBlocked (fun other => ?_) (fun half => differs half.differs) unmoved
          rw [not_or, not_not, not_not] at differs
          have same : { check with
              checkConfig := data.config' (data.checkType.getD (some check.checkType)) check
              updatedAt := clock 0 } = check := by
            rw [differs.1, ← differs.2]
          rw [same]
          obtain ⟨-, rfl⟩ := id_of_getCheck found
          by_cases isCheck : other = check.id
          · rw [isCheck, getCheck_saveCheck found, found]
          · exact getCheck_saveCheck_of_ne isCheck db
      · exact .refused db .scriptBlocked (fun _ => rfl) (fun half => isSetting half.setsConfig) unmoved

theorem modifyOne_cases (guards : Guards) (clock : Nat → Time) (data : CheckUpdate)
    (newAgent : Option (Id × Except CheckError Agent)) (actorIsAdmin : Bool) {checkId : Id} {check : Check}
    (found : db.getCheck checkId = some check) :
    ModifyCase guards clock data newAgent actorIsAdmin db check
      (modifyOne guards clock data newAgent actorIsAdmin checkId db) := by
  unfold modifyOne
  rw [found]
  dsimp only
  cases isTarget : newAgent.filter fun target => decide (target.1 ≠ check.agentId) with
  | none =>
    have stays : ∀ target ∈ newAgent, target.1 = check.agentId := by
      simpa [Option.filter_eq_none_iff] using isTarget
    exact updateCheck_cases guards clock data actorIsAdmin found stays
  | some target =>
    obtain ⟨newAgentId, resolved⟩ := target
    obtain ⟨isNew, isApart⟩ := Option.filter_eq_some_iff.mp isTarget
    have apart : newAgentId ≠ check.agentId := of_decide_eq_true isApart
    have whole (now : Time) : ¬ LeavesHalf guards data newAgent actorIsAdmin now db check :=
      fun half => apart (half.stays _ isNew)
    cases resolved with
    | error refusal =>
      refine .refused db refusal (fun _ => rfl) (whole _) ?_
      rintro agent ⟨⟨_, isOther, -⟩, -⟩
      rw [isNew] at isOther
      cases isOther
    | ok agent =>
      dsimp only
      split_ifs with forbidden
      · refine .refused db .authorization (fun _ => rfl) (whole _) ?_
        rintro other ⟨-, permitted⟩
        simp [permitted forbidden.1] at forbidden
      · refine .moved agent ⟨⟨newAgentId, isNew, apart⟩, fun isSynthetic => ?_⟩
        simpa [isSynthetic] using forbidden

/-- A visit stores what it notes, exactly when nothing of it goes wrong. -/
theorem visit_asReported_iff {newAgent : Option (Id × Except CheckError Agent)} {newAgentId : Option Id}
    {target : Id → Except CheckError Agent}
    (isTarget : newAgent = newAgentId.map fun agentId => (agentId, target agentId))
    (isAgent : ∀ agentId agent, target agentId = .ok agent → agent.id = agentId)
    {check : Check} {turn : Db × List Id × Option CheckError}
    (found : db.getCheck check.id = some check)
    (isTurn : ModifyCase guards clock data newAgent actorIsAdmin db check turn) :
    ((∀ refusal, turn.2.2 = some refusal → turn.1.getCheck check.id = db.getCheck check.id) ∧
      (turn.2.2 = none → ∃ row, turn.1.getCheck check.id = some row ∧ data.Made newAgentId row)) ↔
      Whole guards data newAgent actorIsAdmin (clock 0) db check := by
  cases isTurn with
  | refused left refusal same script stays =>
    refine iff_of_true ⟨fun _ _ => same _, nofun⟩ ⟨script, fun agent moves => absurd moves (stays agent)⟩
  | half row leaves sameId differs =>
    refine iff_of_false (fun reported => differs ?_) fun whole => whole.script leaves
    have kept := reported.1 _ rfl
    rw [← sameId] at kept found
    rw [getCheck_saveCheck found, found] at kept
    exact Option.some.inj kept
  | moved agent moves =>
    obtain ⟨⟨movedTo, isNew, apart⟩, -⟩ := id moves
    have isAgent : ∀ agentId ∈ newAgentId, agent.id = agentId := by
      intro agentId isId
      rw [isTarget, Option.mem_def.mp isId, Option.map_some, Option.some_inj, Prod.mk.injEq] at isNew
      exact isAgent agentId agent isNew.2
    have saved : (db.saveCheck (moveCheckToAgent check agent.id data (clock 0))).getCheck check.id =
        some (moveCheckToAgent check agent.id data (clock 0)) := getCheck_saveCheck found
    constructor
    · rintro ⟨-, modified⟩
      obtain ⟨row, isRow, made⟩ := modified rfl
      rw [saved] at isRow
      cases isRow
      exact ⟨fun half => apart (half.stays _ isNew), fun _ _ => (moveCheckToAgent_made_iff isAgent).mp made⟩
    · intro whole
      exact ⟨nofun, fun _ => ⟨_, saved, (moveCheckToAgent_made_iff isAgent).mpr (whole.moved agent moves)⟩⟩
  | updated row stays allowed isRow =>
    have sameId : row.id = check.id := CheckUpdate.row_id isRow
    have touched : (db.touchAgent (clock 1) check.agentId).getCheck row.id = some check := by
      rw [sameId]
      exact found
    have staysThere : ∀ agentId ∈ newAgentId, check.agentId = agentId := by
      intro agentId isId
      refine (stays (agentId, target agentId) ?_).symm
      rw [isTarget, Option.mem_def.mp isId]
      rfl
    refine iff_of_true ⟨nofun, fun _ => ⟨row, ?_, (CheckUpdate.row_leaves isRow).made staysThere⟩⟩ ⟨?_, ?_⟩
    · rw [← sameId, getCheck_saveCheck touched]
    · rintro half
      obtain ⟨script, given, refused⟩ := half.script
      rw [allowed script given] at refused
      cases refused
    · rintro agent ⟨⟨_, isNew, apart⟩, -⟩
      exact absurd (stays _ isNew) apart

/-- A visit touches the row of its check alone. -/
theorem modifyOne_apart (guards : Guards) (clock : Nat → Time) (data : CheckUpdate)
    (newAgent : Option (Id × Except CheckError Agent)) (actorIsAdmin : Bool) {checkId other : Id}
    (ne : other ≠ checkId) (db : Db) :
    (modifyOne guards clock data newAgent actorIsAdmin checkId db).1.getCheck other = db.getCheck other := by
  cases found : db.getCheck checkId with
  | none =>
    unfold modifyOne
    rw [found]
  | some check =>
    obtain ⟨-, rfl⟩ := id_of_getCheck found
    have isCase := modifyOne_cases guards clock data newAgent actorIsAdmin found
    generalize modifyOne guards clock data newAgent actorIsAdmin check.id db = turn at isCase
    cases isCase with
    | refused left refusal same script stays => exact same other
    | half row leaves sameId differs => exact getCheck_saveCheck_of_ne (sameId ▸ ne) db
    | moved agent moves =>
      have notMoved : other ≠ (moveCheckToAgent check agent.id data (clock 0)).id := ne
      exact getCheck_saveCheck_of_ne notMoved db
    | updated row stays allowed isRow =>
      exact getCheck_saveCheck_of_ne (CheckUpdate.row_id isRow ▸ ne) (db.touchAgent (clock 1) check.agentId)

/-! ## The call -/

/-- A bulk change that is committed leaves what its visits leave, and counts what they
note. -/
theorem modifyAll_visits {newAgent : Option (Id × Except CheckError Agent)} {checkIds affected : List Id}
    {number : Nat} {left : Db} {outcome : BulkOutcome}
    (done : modifyAll guards (fun n => clock (n + 2 * number)) data newAgent actorIsAdmin checkIds db =
      .ok (left, affected, outcome)) :
    left = afterVisits (modifyStep guards clock data newAgent actorIsAdmin) number checkIds db ∧
      outcome.successCount = (visits (modifyStep guards clock data newAgent actorIsAdmin) number checkIds db).countP
        (fun visit => (visitRefusal guards clock data newAgent actorIsAdmin visit).isNone) ∧
      outcome.failureCount = (visits (modifyStep guards clock data newAgent actorIsAdmin) number checkIds db).countP
        (fun visit => (visitRefusal guards clock data newAgent actorIsAdmin visit).isSome) := by
  induction checkIds generalizing number db affected outcome with
  | nil =>
    cases done
    exact ⟨rfl, rfl, rfl⟩
  | cons checkId rest ih =>
    rw [modifyAll] at done
    split at done
    · cases done
    · rename_i turn next first refusal notIntegrity isOne
      obtain ⟨⟨last, more, counted⟩, others, finished⟩ := except_bind_ok.mp done
      cases finished
      have shifted : (fun n => clock (n + 2 + 2 * number)) = fun n => clock (n + 2 * (number + 1)) := by
        funext n
        congr 1
        omega
      rw [shifted] at others
      have isNext : modifyStep guards clock data newAgent actorIsAdmin number checkId db = next := by
        rw [modifyStep, modifyVisit, isOne]
      have isRefusal : visitRefusal guards clock data newAgent actorIsAdmin ⟨number, checkId, db⟩ = refusal := by
        rw [visitRefusal, modifyVisit, isOne]
      rw [afterVisits, visits, isNext, List.countP_cons, List.countP_cons, isRefusal]
      obtain ⟨sameTables, changed, failed⟩ := ih others
      cases refusal with
      | none => exact ⟨sameTables, congrArg (· + 1) changed, failed⟩
      | some _ => exact ⟨sameTables, changed, congrArg (· + 1) failed⟩

theorem bulkModify_visits {checkIds : List Id} {newAgentId : Option Id} {left : Db} {outcome : BulkOutcome}
    (done : bulkModify guards clock checkIds data newAgentId actorIsAdmin db = .ok (left, outcome)) :
    let newAgent := newAgentId.map fun agentId => (agentId, getAdmittedAgent agentId db)
    let notes := modifyNotes guards clock data newAgent actorIsAdmin checkIds db
    left.checks = (afterVisits (modifyStep guards clock data newAgent actorIsAdmin) 0 checkIds db).checks ∧
      outcome.successCount = notes.countP (·.2.isNone) ∧ outcome.failureCount = notes.countP (·.2.isSome) := by
  obtain ⟨⟨changed, affected, counted⟩, all, finished⟩ := except_bind_ok.mp done
  cases finished
  have fromFirst : modifyAll guards (fun n => clock (n + 2 * 0)) data _ actorIsAdmin checkIds db =
      .ok (changed, affected, outcome) := all
  obtain ⟨sameTables, isChanged, isFailed⟩ := modifyAll_visits fromFirst
  dsimp only
  rw [touchAgents_checks, sameTables, modifyNotes, List.countP_map, List.countP_map]
  exact ⟨rfl, isChanged, isFailed⟩

/-- What the visit of any id stores is what it notes, when nothing of it goes wrong. -/
theorem modifyOne_asReported_iff {newAgentId : Option Id} {target : Id → Except CheckError Agent}
    (isAgent : ∀ agentId agent, target agentId = .ok agent → agent.id = agentId) (checkId : Id) (db : Db) :
    let newAgent := newAgentId.map fun agentId => (agentId, target agentId)
    let turn := modifyOne guards clock data newAgent actorIsAdmin checkId db
    ((∀ refusal, turn.2.2 = some refusal → turn.1.getCheck checkId = db.getCheck checkId) ∧
      (turn.2.2 = none → ∃ row, turn.1.getCheck checkId = some row ∧ data.Made newAgentId row)) ↔
      ∀ check, db.getCheck checkId = some check →
        Whole guards data newAgent actorIsAdmin (clock 0) db check := by
  cases found : db.getCheck checkId with
  | none =>
    have isTurn : modifyOne guards clock data (newAgentId.map fun agentId => (agentId, target agentId)) actorIsAdmin
        checkId db = (db, [], some .checkNotFound) := by
      unfold modifyOne
      rw [found]
    dsimp only
    rw [isTurn]
    refine iff_of_true ⟨fun _ _ => found, fun changed => ?_⟩ fun check isCheck => ?_
    · cases changed
    · cases isCheck
  | some check =>
    obtain ⟨-, rfl⟩ := id_of_getCheck found
    have one := visit_asReported_iff rfl isAgent found
      (modifyOne_cases guards clock data (newAgentId.map fun agentId => (agentId, target agentId)) actorIsAdmin found)
    rw [found] at one
    refine one.trans ⟨?_, fun whole => whole check rfl⟩
    rintro whole other isOther
    cases isOther
    exact whole

/-- **A bulk change stores what it reports, exactly when** the checks differ, no update
stops at its script with the config set, and no check that moves has yet to get a change
that the move leaves out. -/
theorem bulkModify_asReported_iff {checkIds : List Id} {newAgentId : Option Id} {left : Db} {outcome : BulkOutcome}
    (done : bulkModify guards clock checkIds data newAgentId actorIsAdmin db = .ok (left, outcome)) :
    let newAgent := newAgentId.map fun agentId => (agentId, getAdmittedAgent agentId db)
    AsReported (modifyNotes guards clock data newAgent actorIsAdmin checkIds db) checkIds data newAgentId db left ↔
      checkIds.Nodup ∧ ∀ visit ∈ modifyVisits guards clock data newAgent actorIsAdmin checkIds db, ∀ check,
        visit.before.getCheck visit.key = some check →
          Whole guards data newAgent actorIsAdmin (clock (2 * visit.number)) visit.before check := by
  obtain ⟨sameChecks, -, -⟩ := bulkModify_visits done
  intro newAgent
  have keys : (modifyNotes guards clock data newAgent actorIsAdmin checkIds db).map (·.1) = checkIds := by
    rw [modifyNotes, List.map_map]
    exact visits_keys _ 0 checkIds db
  have differ : (∀ checkId ∈ checkIds, ((modifyNotes guards clock data newAgent actorIsAdmin checkIds db).map
      (·.1)).count checkId = 1) ↔ checkIds.Nodup := by
    rw [keys, List.nodup_iff_count_eq_one]
  have apart : ∀ number checkId other tables, other ≠ checkId →
      (modifyStep guards clock data newAgent actorIsAdmin number checkId tables).getCheck other =
        tables.getCheck other :=
    fun number checkId other tables ne => modifyOne_apart guards _ data newAgent actorIsAdmin ne tables
  have isAgent : ∀ agentId agent, getAdmittedAgent agentId db = .ok agent → agent.id = agentId :=
    fun _ _ admitted => (id_of_admitted admitted).2
  -- what a visit stores is judged at the end, when no other visit is of its check
  have each (nodup : checkIds.Nodup) (visit : Visit Id Db)
      (mem : visit ∈ modifyVisits guards clock data newAgent actorIsAdmin checkIds db) :
      ((∀ refusal, visitRefusal guards clock data newAgent actorIsAdmin visit = some refusal →
          left.getCheck visit.key = db.getCheck visit.key) ∧
        (visitRefusal guards clock data newAgent actorIsAdmin visit = none →
          ∃ row, left.getCheck visit.key = some row ∧ data.Made newAgentId row)) ↔
        ∀ check, visit.before.getCheck visit.key = some check →
          Whole guards data newAgent actorIsAdmin (clock (2 * visit.number)) visit.before check := by
    obtain ⟨found, stored⟩ : visit.before.getCheck visit.key = db.getCheck visit.key ∧ _ :=
      @visits_apart _ _ _ _ (fun checkId tables => Db.getCheck tables checkId) apart _ nodup _ _ _ mem
    have isLeft : left.getCheck visit.key =
        (modifyVisit guards clock data newAgent actorIsAdmin visit.number visit.key visit.before).1.getCheck
          visit.key := (congrArg (List.find? _) sameChecks).trans stored
    rw [isLeft, ← found, ← Nat.zero_add (2 * visit.number)]
    exact modifyOne_asReported_iff isAgent visit.key visit.before
  constructor
  · rintro ⟨once, failed, modified⟩
    refine ⟨differ.mp once, fun visit mem => (each (differ.mp once) visit mem).mp ⟨?_, ?_⟩⟩
    · intro refusal isRefusal
      exact failed visit.key refusal (List.mem_map.mpr ⟨visit, mem, congrArg (Prod.mk visit.key) isRefusal⟩)
    · intro isChanged
      exact modified visit.key (List.mem_map.mpr ⟨visit, mem, congrArg (Prod.mk visit.key) isChanged⟩)
  · rintro ⟨nodup, whole⟩
    refine ⟨differ.mpr nodup, ?_, ?_⟩
    · intro checkId refusal noted
      obtain ⟨visit, mem, isNote⟩ := List.mem_map.mp noted
      obtain ⟨rfl, isRefusal⟩ := Prod.mk.inj isNote
      exact ((each nodup visit mem).mpr (whole visit mem)).1 refusal isRefusal
    · intro checkId noted
      obtain ⟨visit, mem, isNote⟩ := List.mem_map.mp noted
      obtain ⟨rfl, isChanged⟩ := Prod.mk.inj isNote
      exact ((each nodup visit mem).mpr (whole visit mem)).2 isChanged

/-- A row has the changes of an update that asks for none. -/
theorem CheckUpdate.made_of_nothing (row : Check) : ({} : CheckUpdate).Made none row where
  agentId := nofun
  displayName := nofun
  checkType := nofun
  target := nofun
  description := nofun
  intervalSeconds := nofun
  timeoutSeconds := nofun
  enabled := nofun
  retryAttempts := nofun
  retryIntervalSeconds := nofun
  resendNotificationAfter := nofun
  tags := nofun
  assignmentMode := nofun
  agentSelector := nofun
  scriptCode := fun _ => nofun
  dependsOnCheckId := nofun
  config := by simp [takeConfigUpdates, packConfig, Fields.get?]

/-- A check on each of two agents. -/
def probedChecks : Db where
  agents := [probe 1, probe 2]
  checks := [replica.row 5 1 0, replica.row 6 2 0]

/-- Both get a new interval, the one on the other agent with its move. -/
theorem newInterval_asReported : ∃ left outcome,
    bulkModify anyTarget (fun n => n + 10) [5, 6] newInterval (some 2) true probedChecks = .ok (left, outcome) ∧
      AsReported (modifyNotes anyTarget (fun n => n + 10) newInterval (some (2, getAdmittedAgent 2 probedChecks)) true
        [5, 6] probedChecks) [5, 6] newInterval (some 2) probedChecks left := by
  have done : bulkModify anyTarget (fun n => n + 10) [5, 6] newInterval (some 2) true probedChecks = .ok _ := rfl
  refine ⟨_, _, done, ?_⟩
  refine (bulkModify_asReported_iff done).mpr ⟨by decide, fun visit _ check _ => ⟨?_, fun _ _ => ?_⟩⟩
  · intro half
    obtain ⟨script, given, -⟩ := half.script
    simp [CheckUpdate.script, newInterval] at given
  · exact CheckUpdate.made_of_nothing check

/-- An http check on an agent. -/
def pageDb : Db where
  agents := [probe 1]
  checks := [CheckCreate.row
    { displayName := text "page"
      checkType := .http
      target := text "https://example.com"
      config := [(fieldKey "http_method", .str (text "GET"))] } 5 1 0]

/-- It is to become synthetic. -/
def toSynthetic : CheckUpdate where
  checkType := some (some .synthetic)
  scriptCode := some (some (text "import os"))

def noScripts : Guards := ⟨fun _ => true, fun _ => false⟩

/-- Its script is refused: it is noted as failed, and has lost its config. -/
theorem toSynthetic_not_asReported : ∃ left,
    bulkModify noScripts (fun n => n + 10) [5] toSynthetic none true pageDb = .ok (left, ⟨0, 1⟩) ∧
      ¬ AsReported (modifyNotes noScripts (fun n => n + 10) toSynthetic none true [5] pageDb) [5] toSynthetic none
        pageDb left := by
  refine ⟨_, rfl, fun reported => ?_⟩
  have kept := reported.failed 5 .scriptBlocked (List.mem_singleton.mpr rfl)
  revert kept
  decide

end LuxSwirl.Server
