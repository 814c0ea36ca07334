import LuxSwirl.Server.CheckOperations
import LuxSwirl.Server.SettingsRoundTrip
import LuxSwirl.Server.SingleLevel

/-!
# An import of an export

The entries of an agent's checks are imported onto an agent with none: each makes its
check, and then each check with a parent is linked to the copy of it. Checks are linked
in any order, as no check that is a parent is ever given one.
-/

namespace LuxSwirl.Server
open LuxSwirl.Py LuxSwirl.Lib

/-! ## Making the checks -/

/-- The entry of a check that holds accepted settings. -/
structure IsEntry (guards : Guards) (names : List (Id × Text)) (check : Check) (entry : CheckExport) :
    Prop where
  holds : ∃ data settings, data.Accepted guards settings ∧ check.Holds data settings ∧
    entry = (check.read (settings.keep check.checkType)).export names
  stored : entry.Stored

/-- A row made for an agent of what the entry of a check gives. -/
structure IsCopy (guards : Guards) (agentId : Id) (check copy : Check) : Prop where
  made : ∃ data settings now, data.Accepted guards settings ∧ check.Holds data settings ∧
    copy = (check.recreate (settings.keep check.checkType)).row copy.id agentId now

section Making

variable {guards : Guards} {newAgentId : Id}

theorem IsCopy.displayName {check copy : Check} (isCopy : IsCopy guards newAgentId check copy) :
    copy.displayName = check.displayName := by
  obtain ⟨data, settings, now, -, -, made⟩ := isCopy.made
  rw [made]
  rfl

theorem IsCopy.agentId {check copy : Check} (isCopy : IsCopy guards newAgentId check copy) :
    copy.agentId = newAgentId := by
  obtain ⟨data, settings, now, -, -, made⟩ := isCopy.made
  rw [made]
  rfl

theorem IsCopy.parentless {check copy : Check} (isCopy : IsCopy guards newAgentId check copy) :
    copy.dependsOnCheckId = none := by
  obtain ⟨data, settings, now, -, -, made⟩ := isCopy.made
  rw [made]
  rfl

/-- Only a synthetic copy has a script. -/
theorem IsCopy.scriptless {check copy : Check} (isCopy : IsCopy guards newAgentId check copy)
    (plain : copy.checkType ≠ .synthetic) : copy.scriptCode = none := by
  obtain ⟨data, settings, now, -, -, made⟩ := isCopy.made
  rw [made] at plain ⊢
  exact if_neg plain

/-- The import of an admin, to which every address passes. -/
def Guards.Pass (guards : Guards) : Prop := ∀ address, guards.endpointAllowed address = true

theorem validateEndpoints_of_pass (pass : guards.Pass) (endpoints : List (Option Text)) :
    validateEndpoints guards endpoints = .ok () := by
  rw [validateEndpoints, if_neg]
  simp only [List.any_eq_true, not_exists, not_and]
  intro endpoint _ refused
  cases endpoint with
  | none => cases refused
  | some address => simp [pass address] at refused

theorem getAgent_touchAgent (now : Time) (touched agentId : Id) (db : Db) :
    (db.touchAgent now touched).getAgent agentId = (db.getAgent agentId).map fun agent =>
      if agent.id = touched then { agent with checksUpdatedAt := some now } else agent := by
  simp only [Db.touchAgent, Db.getAgent, List.find?_map]
  congr 2
  funext agent
  dsimp only [Function.comp_apply]
  split_ifs <;> rfl

/-- Touching agents changes none's approval. -/
theorem admitted_touchAgent {db : Db} (now : Time) (touched : Id)
    (admitted : ∃ agent, getAdmittedAgent newAgentId db = .ok agent) :
    ∃ agent, getAdmittedAgent newAgentId (db.touchAgent now touched) = .ok agent := by
  obtain ⟨agent, admitted⟩ := admitted
  simp only [getAdmittedAgent, getAgent_touchAgent] at admitted ⊢
  cases found : db.getAgent newAgentId with
  | none => simp [found] at admitted
  | some agent =>
    simp only [found, Option.map_some] at admitted ⊢
    split_ifs at admitted with unadmitted
    have kept : (if agent.id = touched then { agent with checksUpdatedAt := some now } else agent).approvalStatus =
        agent.approvalStatus := by
      split_ifs <;> rfl
    rw [kept, if_neg unadmitted]
    exact ⟨_, rfl⟩

/-- What an accepted check is made into. -/
theorem createCheck_of_accepted {data : CheckCreate} {settings : TypeSettings} {db : Db}
    (accepted : data.Accepted guards settings) (pass : guards.Pass)
    (parentless : data.dependsOnCheckId = none)
    (admitted : ∃ agent, getAdmittedAgent newAgentId db = .ok agent) (clock : Nat → Time) (id : Id) :
    ∃ created, createCheck guards clock id newAgentId data false true db = .ok created ∧
      created.checks = db.checks ++ [data.row id newAgentId (clock 0)] ∧
      ∃ agent, getAdmittedAgent newAgentId created = .ok agent := by
  have isAdmitted := admitted
  obtain ⟨agent, admitted⟩ := admitted
  obtain ⟨-, rfl⟩ := id_of_admitted admitted
  let added : Db := { db with checks := db.checks ++ [data.row id agent.id (clock 0)] }
  refine ⟨(added.assignGlobalAlertsToCheck id).touchAgent (clock 1) agent.id, ?_, rfl, ?_⟩
  · simp only [createCheck, admitted, validateEndpoints_of_pass pass, parentless, validateDependency,
      accepted.script, bind, Except.bind, pure, Except.pure]
    rfl
  · have stillAdmitted : ∃ found, getAdmittedAgent agent.id (added.assignGlobalAlertsToCheck id) = .ok found :=
      isAdmitted
    exact admitted_touchAgent _ _ stillAdmitted

/-- What the entries of some checks make of an import, with their ids. -/
structure Made (guards : Guards) (newAgentId : Id) (checks : List Check) (entries : List CheckExport)
    (ids : List Id) (state after : Import) (copies : List Check) : Prop where
  areCopies : List.Forall₂ (IsCopy guards newAgentId) checks copies
  areIds : copies.map (·.id) = ids
  rows : after.db.checks = state.db.checks ++ copies
  existing : after.existing = state.existing ++ copies.map fun copy => (copy.displayName, copy.id)
  toLink : after.toLink = state.toLink ++ entries
  outcome : after.outcome = { state.outcome with created := state.outcome.created + copies.length }
  admitted : ∃ agent, getAdmittedAgent newAgentId after.db = .ok agent

theorem Made.cons {check : Check} {checks : List Check} {entry : CheckExport} {entries : List CheckExport}
    {id : Id} {ids : List Id} {state next after : Import} {copy : Check} {copies : List Check}
    (first : Made guards newAgentId [check] [entry] [id] state next [copy])
    (rest : Made guards newAgentId checks entries ids next after copies) :
    Made guards newAgentId (check :: checks) (entry :: entries) (id :: ids) state after (copy :: copies) where
  areCopies := List.Forall₂.cons (List.forall₂_cons.mp first.areCopies).1 rest.areCopies
  areIds := by
    have isId : copy.id = id := by simpa using first.areIds
    rw [List.map_cons, isId, rest.areIds]
  rows := by rw [rest.rows, first.rows, List.append_assoc, List.singleton_append]
  existing := by
    rw [rest.existing, first.existing, List.append_assoc]
    rfl
  toLink := by rw [rest.toLink, first.toLink, List.append_assoc, List.singleton_append]
  outcome := by
    rw [rest.outcome, first.outcome]
    simp only [List.length_cons, List.length_nil]
    congr 1
    omega
  admitted := rest.admitted

/-- **One entry** makes its check, under a name the agent has not. -/
theorem importEntry_makes (pydantic : Pydantic) {names : List (Id × Text)} {check : Check}
    {entry : CheckExport} {state : Import} (isEntry : IsEntry guards names check entry) (pass : guards.Pass)
    (overwrite : Bool) (clock : Nat → Time) (id : Id)
    (unknown : check.displayName ∉ state.existing.map (·.1))
    (admitted : ∃ agent, getAdmittedAgent newAgentId state.db = .ok agent) :
    ∃ copy, Made guards newAgentId [check] [entry] [id] state
      (importEntry pydantic guards newAgentId overwrite true clock id entry.json state) [copy] := by
  obtain ⟨data, settings, accepted, holds, isEntryOf⟩ := isEntry.holds
  have validated := CheckExport.modelValidate_json pydantic isEntry.stored
  have name : entry.name = check.displayName := by rw [isEntryOf]; rfl
  have notThere : Fields.get? entry.name state.existing = none := by
    rw [name, Fields.get?, Option.map_eq_none_iff, List.find?_eq_none]
    intro known mem same
    exact unknown (List.mem_map.mpr ⟨known, mem, of_decide_eq_true same⟩)
  have given : entry.checkCreate = some (check.recreate (settings.keep check.checkType)) := by
    rw [isEntryOf]
    exact checkCreate_export holds accepted.fits accepted.settings
  obtain ⟨created, isCreated, rows, stillAdmitted⟩ :=
    createCheck_of_accepted (accepted.recreate holds) pass rfl admitted clock id
  have namesParent : entry.namesParent = true := by
    rw [CheckExport.namesParent, isEntry.stored.fieldsSet, CheckExport.keys_modelDump]
    exact decide_eq_true (Or.inl (List.mem_map_of_mem (by decide)))
  have imported : importOne guards newAgentId overwrite true clock id entry state.existing state.db =
      .ok (created, Fields.set entry.name id state.existing, .created) := by
    simp only [importOne, notThere, given, isCreated]
  refine ⟨(check.recreate (settings.keep check.checkType)).row id newAgentId (clock 0), ?_⟩
  simp only [importEntry, validated, imported]
  exact
    { areCopies := List.Forall₂.cons ⟨data, settings, clock 0, accepted, holds, rfl⟩ List.Forall₂.nil
      areIds := rfl
      rows := rows
      existing := by
        rw [name, Fields.set_of_not_mem unknown]
        rfl
      toLink := by simp [namesParent]
      outcome := rfl
      admitted := stillAdmitted }

/-- **All entries** make their checks, when the names differ. -/
theorem importEntries_make (pydantic : Pydantic) {names : List (Id × Text)} {checks : List Check}
    {entries : List CheckExport} (areEntries : List.Forall₂ (IsEntry guards names) checks entries)
    (pass : guards.Pass) (overwrite : Bool) (clock : Nat → Time) (ids : Nat → Id) (state : Import)
    (unknown : (state.existing.map (·.1) ++ checks.map (·.displayName)).Nodup)
    (admitted : ∃ agent, getAdmittedAgent newAgentId state.db = .ok agent) :
    ∃ copies, Made guards newAgentId checks entries ((List.range checks.length).map ids) state
      (importEntries pydantic guards newAgentId overwrite true clock ids (entries.map CheckExport.json) state)
      copies := by
  induction areEntries generalizing clock ids state with
  | nil =>
    refine ⟨[], ⟨List.Forall₂.nil, rfl, ?_, ?_, ?_, rfl, admitted⟩⟩ <;> simp [importEntries]
  | @cons check entry checks entries isEntry rest ih =>
    have isNew : check.displayName ∉ state.existing.map (·.1) := by
      intro known
      exact (List.nodup_append.mp unknown).2.2 _ known _ (List.mem_cons_self ..) rfl
    obtain ⟨copy, first⟩ := importEntry_makes pydantic isEntry pass overwrite clock (ids 0) isNew admitted
    have named : copy.displayName = check.displayName := (List.forall₂_cons.mp first.areCopies).1.displayName
    have unknownAfter : ((importEntry pydantic guards newAgentId overwrite true clock (ids 0) entry.json
        state).existing.map (·.1) ++ checks.map (·.displayName)).Nodup := by
      rw [first.existing]
      simpa [named] using unknown
    obtain ⟨copies, made⟩ := ih (fun n => clock (n + 2)) (fun n => ids (n + 1)) _ unknownAfter first.admitted
    refine ⟨copy :: copies, ?_⟩
    rw [List.length_cons, List.range_succ_eq_map, List.map_cons, List.map_map]
    exact first.cons made

end Making

/-! ## Linking the checks -/

/-- The parents the copies are to have: copies with none. -/
structure Parents (old copies : List Check) (target : Id → Option Id) : Prop where
  keyed : CheckKeys old
  nodup : ((old ++ copies).map (·.id)).Nodup
  parentless : ∀ own parentId, target own = some parentId →
    parentId ∈ copies.map (·.id) ∧ target parentId = none

/-- A copy's row: it has its parent, or is still to be linked. -/
structure LinkedTo (target : Id → Option Id) (linked : List Id) (copy row : Check) : Prop where
  same : row = { copy with dependsOnCheckId := row.dependsOnCheckId, updatedAt := row.updatedAt }
  parent : row.dependsOnCheckId = target copy.id ∨ (row.dependsOnCheckId = none ∧ copy.id ∉ linked)

/-- The table while the copies are linked. -/
structure Linking (old copies : List Check) (target : Id → Option Id) (linked : List Id) (db : Db)
    (rows : List Check) : Prop where
  checks : db.checks = old ++ rows
  areLinked : List.Forall₂ (LinkedTo target linked) copies rows

section Linking

variable {guards : Guards} {old copies : List Check} {target : Id → Option Id} {linked : List Id} {db : Db}
  {rows : List Check}

theorem LinkedTo.id {copy row : Check} (isLinked : LinkedTo target linked copy row) : row.id = copy.id := by
  rw [isLinked.same]

theorem Linking.ids (linking : Linking old copies target linked db rows) :
    rows.map (·.id) = copies.map (·.id) :=
  (map_eq_of_forall₂ linking.areLinked fun _ _ isLinked => isLinked.id.symm).symm

theorem Linking.nodup (linking : Linking old copies target linked db rows)
    (parents : Parents old copies target) : (db.checks.map (·.id)).Nodup := by
  rw [linking.checks, List.map_append, linking.ids, ← List.map_append]
  exact parents.nodup

/-- Giving a check a parent, when it may have one. -/
theorem updateCheck_parent (guards : Guards) {check parent : Check} (found : db.getCheck check.id = some check)
    (foundParent : db.getCheck parent.id = some parent) (other : check.id ≠ parent.id)
    (parentless : parent.dependsOnCheckId = none) (childless : db.countDependents check.id = 0)
    (scriptless : check.checkType ≠ .synthetic → check.scriptCode = none) (clock : Nat → Time) :
    updateCheck guards clock check.id { dependsOnCheckId := some (some parent.id) } true db =
      ((db.touchAgent (clock 1) check.agentId).saveCheck
        { check with dependsOnCheckId := some parent.id, updatedAt := clock 0 }, none) := by
  let data : CheckUpdate := { dependsOnCheckId := some (some parent.id) }
  have valid : data.validate guards true check db = .ok () := by
    have notOwn : some check.id ≠ some parent.id := fun same => other (Option.some.inj same)
    have allowed : validateDependency (some parent.id) (some check.id) db = .ok () := by
      simp [validateDependency, notOwn, foundParent, parentless, childless]
    have passes : validateEndpoints guards [data.target.getD none, configText "nameserver" data.config,
        configText "connection_string" data.config] = .ok () := rfl
    refine except_bind_ok.mpr ⟨(), passes, except_bind_ok.mpr ⟨(), allowed, ?_⟩⟩
    split_ifs <;> rfl
  have noScript : data.script check = none := by
    simp only [CheckUpdate.script]
    split_ifs with judged
    · obtain ⟨synthetic, set | plain⟩ := judged
      · cases set
      · exact absurd (Option.some.inj synthetic) plain
    · rfl
  have config : data.config' (some check.checkType) check = check.checkConfig := by
    have none_given : packConfig [] check.checkType = [] :=
      List.filterMap_eq_nil_iff.mpr fun field _ => rfl
    have unset : data.setsConfig (some check.checkType) check = false := by
      simp [CheckUpdate.setsConfig, takeConfigUpdates, data, none_given]
    simp [CheckUpdate.config', unset]
  have row : data.row (clock 0) check =
      .ok { check with dependsOnCheckId := some parent.id, updatedAt := clock 0 } := by
    have script : (if (some check.checkType : Option CheckType) ≠ some .synthetic then none
        else check.scriptCode) = check.scriptCode := by
      split_ifs with plain
      · exact (scriptless fun same => plain (congrArg some same)).symm
      · rfl
    have config : data.config' (data.checkType.getD (some check.checkType)) check = check.checkConfig := config
    simp only [CheckUpdate.row, config]
    show Except.ok
      { check with
        dependsOnCheckId := some parent.id
        updatedAt := clock 0
        scriptCode := if some check.checkType ≠ some CheckType.synthetic then none
          else check.scriptCode } = _
    rw [script]
  simp only [updateCheck, found]
  show (match data.validate guards true check db with
    | .error refusal => _
    | .ok _ => _) = _
  rw [valid]
  dsimp only
  rw [noScript, row]
  rfl

/-- Linked already, or by nobody else: a row that was linked stays so. -/
theorem LinkedTo.cons {copy row : Check} (isLinked : LinkedTo target linked copy row) {own : Id}
    (there : copy.id = own → row.dependsOnCheckId = target copy.id) :
    LinkedTo target (own :: linked) copy row where
  same := isLinked.same
  parent := by
    rcases isLinked.parent with hasParent | ⟨free, unlinked⟩
    · exact Or.inl hasParent
    · by_cases isOwn : copy.id = own
      · exact Or.inl (there isOwn)
      · exact Or.inr ⟨free, List.not_mem_cons_of_ne_of_not_mem isOwn unlinked⟩

/-- No row of the tables depends on a check that is to have a parent. -/
theorem Linking.childless (linking : Linking old copies target linked db rows)
    (parents : Parents old copies target) {own parentId : Id} (isTarget : target own = some parentId)
    (isCopy : own ∈ copies.map (·.id)) : db.countDependents own = 0 := by
  rw [Db.countDependents, List.countP_eq_zero, linking.checks]
  intro check mem depends
  have depends : check.dependsOnCheckId = some own := of_decide_eq_true depends
  rcases List.mem_append.mp mem with isOld | isRow
  · have known := parents.keyed.parents check isOld own depends
    have apart := (List.nodup_append.mp (List.map_append (f := fun check : Check => check.id) ▸ parents.nodup)).2.2
    exact apart own known own isCopy rfl
  · obtain ⟨copy, -, isLinked⟩ := exists_of_mem_right linking.areLinked isRow
    rcases isLinked.parent with hasParent | ⟨free, -⟩
    · have none_own := (parents.parentless copy.id own (hasParent ▸ depends)).2
      rw [isTarget] at none_own
      cases none_own
    · rw [free] at depends
      cases depends

/-- **One link.** An entry whose parent is known links its check to it. -/
theorem Linking.step (guards : Guards) (linking : Linking old copies target linked db rows)
    (parents : Parents old copies target)
    (scriptless : ∀ copy ∈ copies, copy.checkType ≠ .synthetic → copy.scriptCode = none)
    {copy : Check} (isCopy : copy ∈ copies) {entry : CheckExport} {existing : List (Text × Id)}
    (known : Fields.get? entry.name existing = some copy.id)
    (named : parentNamed entry existing = .ok (target copy.id)) (clock : Nat → Time) :
    ∃ after rows', linkParent guards true clock entry existing db = .ok after ∧
      Linking old copies target (copy.id :: linked) after rows' := by
  obtain ⟨row, isRow, isLinked⟩ := exists_of_mem_left linking.areLinked isCopy
  have keys := linking.nodup parents
  have found : db.getCheck copy.id = some row := by
    rw [← isLinked.id]
    exact getCheck_of_mem keys (linking.checks ▸ List.mem_append_right old isRow)
  have unique {other otherRow : Check} (isOther : otherRow ∈ rows)
      (isLinkedOther : LinkedTo target linked other otherRow) (same : other.id = copy.id) : otherRow = row := by
    have mem {check : Check} (mem : check ∈ rows) : check ∈ db.checks :=
      linking.checks ▸ List.mem_append_right old mem
    refine List.inj_on_of_nodup_map keys (mem isOther) (mem isRow) ?_
    rw [isLinkedOther.id, isLinked.id, same]
  by_cases there : row.dependsOnCheckId = target copy.id
  · refine ⟨db, rows, ?_, linking.checks, ?_⟩
    · refine except_bind_ok.mpr ⟨target copy.id, named, ?_⟩
      rw [known, Option.bind_some, found]
      exact if_pos there
    · refine forall₂_imp_mem linking.areLinked fun other _ otherRow isOther isLinkedOther => ?_
      refine isLinkedOther.cons fun same => ?_
      rw [unique isOther isLinkedOther same, there, same]
  · have free : row.dependsOnCheckId = none := (isLinked.parent.resolve_left there).1
    cases isTarget : target copy.id with
    | none => exact absurd (free.trans isTarget.symm) there
    | some parentId =>
      obtain ⟨isParent, parentless⟩ := parents.parentless copy.id parentId isTarget
      rw [← linking.ids, List.mem_map] at isParent
      obtain ⟨parentRow, isParentRow, rfl⟩ := isParent
      obtain ⟨parentCopy, -, isLinkedParent⟩ := exists_of_mem_right linking.areLinked isParentRow
      have freeParent : parentRow.dependsOnCheckId = none := by
        rcases isLinkedParent.parent with hasParent | ⟨free, -⟩
        · rw [hasParent, ← isLinkedParent.id, parentless]
        · exact free
      have foundParent : db.getCheck parentRow.id = some parentRow :=
        getCheck_of_mem keys (linking.checks ▸ List.mem_append_right old isParentRow)
      have other : row.id ≠ parentRow.id := by
        intro same
        rw [← same, isLinked.id, isTarget] at parentless
        cases parentless
      have childless : db.countDependents row.id = 0 := by
        rw [isLinked.id]
        exact linking.childless parents isTarget (List.mem_map_of_mem isCopy)
      have noScript : row.checkType ≠ .synthetic → row.scriptCode = none := by
        rw [isLinked.same]
        exact scriptless copy isCopy
      have updates := updateCheck_parent guards (isLinked.id ▸ found) foundParent other freeParent
        childless noScript clock
      let saved : Check := { row with dependsOnCheckId := some parentRow.id, updatedAt := clock 0 }
      refine ⟨(db.touchAgent (clock 1) row.agentId).saveCheck saved,
        rows.map fun check => if check.id = row.id then saved else check, ?_, ?_, ?_⟩
      · refine except_bind_ok.mpr ⟨target copy.id, named, ?_⟩
        rw [known, Option.bind_some, found]
        dsimp only
        rw [if_neg there, isTarget, updates]
        rfl
      · have kept : old.map (fun check => if check.id = row.id then saved else check) = old := by
          conv_rhs => rw [← List.map_id old]
          refine List.map_congr_left fun check mem => if_neg fun same => ?_
          have apart := (List.nodup_append.mp
            (List.map_append (f := fun check : Check => check.id) ▸ parents.nodup)).2.2
          exact apart check.id (List.mem_map_of_mem mem) copy.id (List.mem_map_of_mem isCopy)
            (same.trans isLinked.id)
        show (db.checks.map fun check => if check.id = row.id then saved else check) = _
        rw [linking.checks, List.map_append, kept]
      · rw [List.forall₂_map_right_iff]
        refine forall₂_imp_mem linking.areLinked fun other _ otherRow isOther isLinkedOther => ?_
        split_ifs with same
        · have isOwn : otherRow = row := List.inj_on_of_nodup_map keys
            (linking.checks ▸ List.mem_append_right old isOther)
            (linking.checks ▸ List.mem_append_right old isRow) same
          have sameCopy : other.id = copy.id := by rw [← isLinkedOther.id, ← isLinked.id, isOwn]
          refine ⟨?_, Or.inl ?_⟩
          · have same := isLinkedOther.same
            rw [isOwn] at same
            simp only [saved]
            rw [same]
          · rw [sameCopy, isTarget]
        · exact isLinkedOther.cons fun isOwn => absurd (by rw [isLinkedOther.id, isOwn, isLinked.id]) same

/-- **All links.** Every entry links its check. -/
theorem linkEntries_link (guards : Guards) (parents : Parents old copies target)
    (scriptless : ∀ copy ∈ copies, copy.checkType ≠ .synthetic → copy.scriptCode = none)
    (order : List CheckExport) (clock : Nat → Time) (state : Import)
    (linking : Linking old copies target linked state.db rows)
    (known : ∀ entry ∈ order, ∃ copy ∈ copies, Fields.get? entry.name state.existing = some copy.id ∧
      parentNamed entry state.existing = .ok (target copy.id)) :
    ∃ db rows' linked', linkEntries guards true clock order state = { state with db } ∧
      Linking old copies target linked' db rows' ∧ linked ⊆ linked' ∧
      ∀ entry ∈ order, ∀ id, Fields.get? entry.name state.existing = some id → id ∈ linked' := by
  induction order generalizing clock state linked rows with
  | nil => exact ⟨state.db, rows, linked, rfl, linking, List.Subset.refl _, by simp⟩
  | cons entry rest ih =>
    rw [List.forall_mem_cons] at known
    obtain ⟨⟨copy, isCopy, isKnown, named⟩, known⟩ := known
    obtain ⟨after, rows', links, linking⟩ := linking.step guards parents scriptless isCopy
      isKnown named clock
    have first : linkEntry guards true clock entry state = { state with db := after } := by
      simp only [linkEntry, links]
    obtain ⟨db, rows'', linked', run, linking, within, covered⟩ :=
      ih (fun n => clock (n + 2)) { state with db := after } linking known
    refine ⟨db, rows'', linked', ?_, linking, fun id mem => within (List.mem_cons_of_mem _ mem), ?_⟩
    · rw [linkEntries, first, run]
    · rw [List.forall_mem_cons]
      refine ⟨fun id isId => ?_, covered⟩
      rw [isKnown] at isId
      cases isId
      exact within (List.mem_cons_self ..)

end Linking

/-! ## The whole import -/

/-- The parent of a check by its name. -/
def Db.parentName (db : Db) (check : Check) : Option Text :=
  (check.dependsOnCheckId.bind db.getCheck).map (·.displayName)

/-- An agent that has no checks, in tables with their keys, and ids that are new. -/
structure Receptive (newAgentId : Id) (ids : Nat → Id) (db : Db) : Prop where
  admitted : ∃ agent, getAdmittedAgent newAgentId db = .ok agent
  empty : ∀ check ∈ db.checks, check.agentId ≠ newAgentId
  keyed : CheckKeys db.checks
  fresh : ∀ n, ids n ∉ db.checks.map (·.id)
  distinct : Function.Injective ids

/-- Checks with the names and parents an export names. -/
structure Family (checks : List Check) : Prop where
  ids : (checks.map (·.id)).Nodup
  names : (checks.map (·.displayName)).Nodup
  parents : ∀ check ∈ checks, ∀ parentId ∈ check.dependsOnCheckId,
    ∃ parent ∈ checks, parent.id = parentId ∧ parent.dependsOnCheckId = none

/-- A row of the agent imported onto: the copy of a check, with the copy of its parent. -/
structure Imported (guards : Guards) (newAgentId : Id) (checks : List Check) (after : Db) (check row : Check) :
    Prop where
  isCopy : ∃ copy, IsCopy guards newAgentId check copy ∧
    row = { copy with dependsOnCheckId := row.dependsOnCheckId, updatedAt := row.updatedAt }
  parent : after.parentName row =
    (check.dependsOnCheckId.bind fun parentId => checks.find? fun parent => decide (parent.id = parentId)).map
      (·.displayName)

section Whole

variable {guards : Guards} {newAgentId : Id} {checks copies : List Check}

/-- The id of each check's copy. -/
def copyIds (checks copies : List Check) : List (Id × Id) :=
  (checks.zip copies).map fun pair => (pair.1.id, pair.2.id)

/-- The parent each copy is to have. -/
def copyParent (checks copies : List Check) (own : Id) : Option Id :=
  (Fields.get? own ((checks.zip copies).map fun pair => (pair.2.id, pair.1))).bind fun check =>
    check.dependsOnCheckId.bind fun parentId => Fields.get? parentId (copyIds checks copies)

/-- A check's parent and its copy. -/
theorem copyParent_eq (family : Family checks) (length : checks.length = copies.length)
    (nodup : (copies.map (·.id)).Nodup) {check copy : Check} (isPair : (check, copy) ∈ checks.zip copies) :
    (check.dependsOnCheckId = none ∧ copyParent checks copies copy.id = none) ∨
      ∃ parent parentCopy, (parent, parentCopy) ∈ checks.zip copies ∧
        check.dependsOnCheckId = some parent.id ∧ parent.dependsOnCheckId = none ∧
        copyParent checks copies copy.id = some parentCopy.id := by
  have ofCopy : Fields.get? copy.id ((checks.zip copies).map fun pair => (pair.2.id, pair.1)) = some check :=
    get?_zip_right (·.id) (·.1) length nodup isPair
  rw [copyParent, ofCopy, Option.bind_some]
  cases depends : check.dependsOnCheckId with
  | none => exact Or.inl ⟨rfl, rfl⟩
  | some parentId =>
    obtain ⟨parent, isParent, rfl, parentless⟩ :=
      family.parents check (List.of_mem_zip isPair).1 parentId depends
    obtain ⟨parentCopy, isParentPair⟩ := exists_pair_left length isParent
    refine Or.inr ⟨parent, parentCopy, isParentPair, rfl, parentless, ?_⟩
    exact get?_zip_left (·.id) (fun pair => pair.2.id) length family.ids isParentPair

/-- So the copies' parents are copies with none. -/
theorem parents_copyParent {db : Db} {ids : Nat → Id} (family : Family checks)
    (length : checks.length = copies.length) (receptive : Receptive newAgentId ids db)
    (areIds : copies.map (·.id) = (List.range checks.length).map ids) :
    Parents db.checks copies (copyParent checks copies) := by
  have nodup : (copies.map (·.id)).Nodup := areIds ▸ List.Nodup.map receptive.distinct List.nodup_range
  refine ⟨receptive.keyed, ?_, ?_⟩
  · rw [List.map_append, List.nodup_append]
    refine ⟨receptive.keyed.nodup, nodup, ?_⟩
    rintro id isOld new isNew rfl
    rw [areIds, List.mem_map] at isNew
    obtain ⟨n, -, isId⟩ := isNew
    exact receptive.fresh n (isId ▸ isOld)
  · intro own parentId isTarget
    obtain ⟨check, found, -⟩ := Option.bind_eq_some_iff.mp isTarget
    obtain ⟨⟨check', copy⟩, isPair, same⟩ := List.mem_map.mp (Fields.mem_of_get?_eq_some found)
    cases same
    rcases copyParent_eq family length nodup isPair with
      ⟨-, free⟩ | ⟨parent, parentCopy, isParentPair, -, parentless, isParent⟩
    · rw [free] at isTarget
      cases isTarget
    · rw [isParent] at isTarget
      cases isTarget
      refine ⟨List.mem_map_of_mem (List.of_mem_zip isParentPair).2, ?_⟩
      rcases copyParent_eq family length nodup isParentPair with ⟨-, free⟩ | ⟨_, _, -, depends, -, -⟩
      · exact free
      · rw [parentless] at depends
        cases depends

/-- The import knows a check by its entry's name, and its parent by the name given. -/
theorem entry_known (family : Family checks) (areCopies : List.Forall₂ (IsCopy guards newAgentId) checks copies)
    (nodup : (copies.map (·.id)).Nodup) {check copy : Check} (isPair : (check, copy) ∈ checks.zip copies)
    {entry : CheckExport}
    (isEntry : IsEntry guards (checks.map fun check => (check.id, check.displayName)) check entry) :
    Fields.get? entry.name (copies.map fun copy => (copy.displayName, copy.id)) = some copy.id ∧
      parentNamed entry (copies.map fun copy => (copy.displayName, copy.id)) =
        .ok (copyParent checks copies copy.id) := by
  have length := areCopies.length_eq
  have sameNames : checks.map (·.displayName) = copies.map (·.displayName) :=
    map_eq_of_forall₂ areCopies fun _ _ isCopy => isCopy.displayName.symm
  have byName {check copy : Check} (isPair : (check, copy) ∈ checks.zip copies) :
      Fields.get? check.displayName (copies.map fun copy => (copy.displayName, copy.id)) = some copy.id := by
    have keys : ((copies.map fun copy => (copy.displayName, copy.id)).map (·.1)).Nodup := by
      rw [List.map_map]
      exact sameNames ▸ family.names
    rw [← (List.forall₂_zip areCopies isPair).displayName]
    have held : (copy.displayName, copy.id) ∈ copies.map fun copy => (copy.displayName, copy.id) :=
      List.mem_map.mpr ⟨copy, (List.of_mem_zip isPair).2, rfl⟩
    exact Fields.get?_of_mem keys held
  obtain ⟨data, settings, -, -, isEntryOf⟩ := isEntry.holds
  have name : entry.name = check.displayName := by
    rw [isEntryOf]
    rfl
  refine ⟨name ▸ byName isPair, ?_⟩
  rcases copyParent_eq family length nodup isPair with
    ⟨free, isNone⟩ | ⟨parent, parentCopy, isParentPair, depends, -, isParent⟩
  · have unnamed : entry.dependsOn = none ∧ entry.dependsOnCheckId = none := by
      rw [isEntryOf]
      simp [CheckInDB.export, Check.read, free]
    rw [parentNamed, unnamed.1, unnamed.2, isNone]
    rfl
  · have keys : ((checks.map fun check => (check.id, check.displayName)).map (·.1)).Nodup := by
      rw [List.map_map]
      exact family.ids
    have held : (parent.id, parent.displayName) ∈ checks.map fun check => (check.id, check.displayName) :=
      List.mem_map.mpr ⟨parent, (List.of_mem_zip isParentPair).1, rfl⟩
    have named : Fields.get? parent.id (checks.map fun check => (check.id, check.displayName)) =
        some parent.displayName := Fields.get?_of_mem keys held
    have named : entry.dependsOn = some parent.displayName := by
      rw [isEntryOf]
      simp only [CheckInDB.export, Check.read, depends, Option.bind_some, named]
    simp only [parentNamed, named, byName isParentPair, isParent]
    rfl

theorem mem_linkOrder {entry : CheckExport} {toLink : List CheckExport} :
    entry ∈ linkOrder toLink ↔ entry ∈ toLink := by
  simp only [linkOrder, List.mem_append, List.mem_filter]
  cases entry.dependsOn.isSome || entry.dependsOnCheckId.isSome <;> simp

/-- **The import** of an agent's entries makes a copy of each of its checks. -/
theorem bulkImport_imports (pydantic : Pydantic) (collation : Text → Text → Bool) (pass : guards.Pass)
    (family : Family checks) {entries : List CheckExport}
    (areEntries : List.Forall₂
      (IsEntry guards (checks.map fun check => (check.id, check.displayName))) checks entries)
    {ids : Nat → Id} {db : Db} (receptive : Receptive newAgentId ids db) (overwrite : Bool)
    (clock : Nat → Time) :
    ∃ after rows, bulkImportChecks pydantic guards newAgentId overwrite true collation clock ids
        (entries.map CheckExport.json) db = .ok (after, { created := checks.length }) ∧
      after.checks = db.checks ++ rows ∧
      List.Forall₂ (Imported guards newAgentId checks after) checks rows := by
  have none_listed : db.listChecksForAgent collation newAgentId = [] := by
    have none_there : (db.checks.filter fun check => decide (check.agentId = newAgentId)) = [] := by
      rw [List.filter_eq_nil_iff]
      exact fun check mem same => receptive.empty check mem (of_decide_eq_true same)
    rw [Db.listChecksForAgent, none_there]
    rfl
  obtain ⟨copies, made⟩ := importEntries_make pydantic areEntries pass overwrite clock ids
    { db, existing := [] } (by simpa using family.names) receptive.admitted
  generalize isImported : importEntries pydantic guards newAgentId overwrite true clock ids
    (entries.map CheckExport.json) { db, existing := [] } = imported at made
  have length : checks.length = copies.length := made.areCopies.length_eq
  have nodup : (copies.map (·.id)).Nodup :=
    made.areIds ▸ List.Nodup.map receptive.distinct List.nodup_range
  have parents := parents_copyParent family length receptive made.areIds
  have scriptless : ∀ copy ∈ copies, copy.checkType ≠ .synthetic → copy.scriptCode = none := by
    intro copy mem
    obtain ⟨check, -, isCopy⟩ := exists_of_mem_right made.areCopies mem
    exact isCopy.scriptless
  have unlinked : Linking db.checks copies (copyParent checks copies) [] imported.db copies := by
    refine ⟨made.rows, List.forall₂_same.mpr fun copy mem => ⟨rfl, Or.inr ⟨?_, List.not_mem_nil⟩⟩⟩
    obtain ⟨check, -, isCopy⟩ := exists_of_mem_right made.areCopies mem
    exact isCopy.parentless
  have existing : imported.existing = copies.map fun copy => (copy.displayName, copy.id) := made.existing
  have toLink : imported.toLink = entries := made.toLink
  have known : ∀ entry ∈ linkOrder imported.toLink, ∃ copy ∈ copies,
      Fields.get? entry.name imported.existing = some copy.id ∧
        parentNamed entry imported.existing = .ok (copyParent checks copies copy.id) := by
    intro entry mem
    rw [mem_linkOrder, toLink] at mem
    obtain ⟨check, isCheck, isEntry⟩ := exists_of_mem_right areEntries mem
    obtain ⟨copy, isPair⟩ := exists_pair_left length isCheck
    exact ⟨copy, (List.of_mem_zip isPair).2, existing ▸ entry_known family made.areCopies nodup isPair isEntry⟩
  obtain ⟨after, rows, linked, links, linking, -, covered⟩ := linkEntries_link guards parents
    scriptless (linkOrder imported.toLink) (fun n => clock (n + 2 * (entries.map CheckExport.json).length))
    imported unlinked known
  have parentOf {check copy row : Check} (isPair : (check, copy) ∈ checks.zip copies)
      (isLinked : LinkedTo (copyParent checks copies) linked copy row) :
      row.dependsOnCheckId = copyParent checks copies copy.id := by
    rcases isLinked.parent with hasParent | ⟨-, unlinked⟩
    · exact hasParent
    · obtain ⟨entry, isIn, isEntry⟩ := exists_of_mem_left areEntries (List.of_mem_zip isPair).1
      have isKnown := (entry_known family made.areCopies nodup isPair isEntry).1
      exact absurd (covered entry (mem_linkOrder.mpr (toLink ▸ isIn)) copy.id (existing ▸ isKnown)) unlinked
  refine ⟨after, rows, ?_, linking.checks, ?_⟩
  · obtain ⟨agent, admitted⟩ := receptive.admitted
    have outcome : imported.outcome = { created := checks.length } := by
      rw [made.outcome, length]
      simp
    refine except_bind_ok.mpr ⟨agent, admitted, ?_⟩
    dsimp only
    simp only [none_listed, List.map_nil, Fields.ofPairs, List.foldl_nil, isImported, links, outcome]
    rfl
  · have areCopies : List.Forall₂
        (fun check copy => (check, copy) ∈ checks.zip copies ∧ IsCopy guards newAgentId check copy)
        checks copies :=
      List.forall₂_iff_zip.mpr ⟨length, fun isPair => ⟨isPair, List.forall₂_zip made.areCopies isPair⟩⟩
    refine (forall₂_trans areCopies linking.areLinked).imp ?_
    rintro check row ⟨copy, ⟨isPair, isCopy⟩, isLinked⟩
    refine ⟨⟨copy, isCopy, isLinked.same⟩, ?_⟩
    rw [Db.parentName, parentOf isPair isLinked]
    rcases copyParent_eq family length nodup isPair with
      ⟨free, isNone⟩ | ⟨parent, parentCopy, isParentPair, depends, -, isParent⟩
    · rw [isNone, free]
      rfl
    · obtain ⟨parentRow, isRow, isLinkedParent⟩ :=
        exists_of_mem_left linking.areLinked (List.of_mem_zip isParentPair).2
      have foundRow : after.getCheck parentCopy.id = some parentRow := by
        rw [← isLinkedParent.id]
        exact getCheck_of_mem (linking.nodup parents) (linking.checks ▸ List.mem_append_right _ isRow)
      have foundParent : (checks.find? fun other => decide (other.id = parent.id)) = some parent :=
        @getCheck_of_mem { db with checks } family.ids parent (List.of_mem_zip isParentPair).1
      have named : parentRow.displayName = parent.displayName := by
        rw [isLinkedParent.same]
        exact (List.forall₂_zip made.areCopies isParentPair).displayName
      rw [isParent, depends, Option.bind_some, Option.bind_some, foundRow, foundParent, Option.map_some,
        Option.map_some, named]

end Whole

end LuxSwirl.Server
