import LuxSwirl.Agent.CheckConfig
import LuxSwirl.Server.ImportRun

/-!
# What runs after a transfer

An agent's checks are exported and imported onto an agent that has none. Each gets a
copy with its parent, and the copy's agent runs what the check's agent does, unless a
number was unset: the entry has 60 for an interval and 2 for the retries, and the agent
takes an unset interval as none and unset retries as 0.
-/

namespace LuxSwirl.Agent
open LuxSwirl.Py LuxSwirl.Lib LuxSwirl.Server

/-- The settings an agent builds of a check it is served. -/
def configOf (check : Check) : Option CheckConfig := check.toResponse.map transformCheckConfig

/-- An agent whose checks hold settings that were accepted, by different names, with
parents among them that have none. -/
structure Exportable (guards : Guards) (agentId : Id) (db : Server.Db) : Prop where
  agent : ∃ agent ∈ db.agents, agent.id = agentId
  keys : (db.checks.map (·.id)).Nodup
  accepted : ∀ check ∈ db.checks, check.agentId = agentId →
    ∃ data settings, data.Accepted guards settings ∧ check.Holds data settings
  names : ((db.checks.filter fun check => decide (check.agentId = agentId)).map (·.displayName)).Nodup
  parents : ∀ check ∈ db.checks, check.agentId = agentId → ∀ parentId ∈ check.dependsOnCheckId,
    ∃ parent ∈ db.checks, parent.id = parentId ∧ parent.agentId = agentId ∧ parent.dependsOnCheckId = none

/-- The copy's agent runs the check as the check's does, and it has the parent's copy. -/
structure RunsAlike (before after : Server.Db) (check copy : Check) : Prop where
  config : ∃ original copied, configOf check = some original ∧ configOf copy = some copied ∧
    copied = { original with checkId := copied.checkId }
  parent : after.parentName copy = before.parentName check

section Export

variable {guards : Guards} {agentId : Id} {db : Server.Db}

theorem perm_listChecksForAgent (collation : Text → Text → Bool) (agentId : Id) (db : Server.Db) :
    (db.listChecksForAgent collation agentId).Perm
      (db.checks.filter fun check => decide (check.agentId = agentId)) :=
  List.perm_insertionSort _ _

theorem mem_listChecksForAgent {collation : Text → Text → Bool} {check : Check} :
    check ∈ db.listChecksForAgent collation agentId ↔ check ∈ db.checks ∧ check.agentId = agentId := by
  rw [(perm_listChecksForAgent collation agentId db).mem_iff, List.mem_filter, decide_eq_true_iff]

theorem Exportable.family (exportable : Exportable guards agentId db) (collation : Text → Text → Bool) :
    Family (db.listChecksForAgent collation agentId) where
  ids := by
    refine ((perm_listChecksForAgent collation agentId db).map _).nodup_iff.mpr ?_
    exact exportable.keys.sublist (List.filter_sublist.map _)
  names := ((perm_listChecksForAgent collation agentId db).map _).nodup_iff.mpr exportable.names
  parents check mem parentId depends := by
    obtain ⟨isCheck, ofAgent⟩ := mem_listChecksForAgent.mp mem
    obtain ⟨parent, isParent, isId, ofParent, parentless⟩ :=
      exportable.parents check isCheck ofAgent parentId depends
    exact ⟨parent, mem_listChecksForAgent.mpr ⟨isParent, ofParent⟩, isId, parentless⟩

/-- **The export** has an entry of each check. -/
theorem exportDocument_entries (exportable : Exportable guards agentId db) (pydantic : Pydantic)
    (collation : Text → Text → Bool) :
    ∃ entries, exportDocument pydantic collation agentId db = .ok entries ∧
      List.Forall₂ (IsEntry guards ((db.listChecksForAgent collation agentId).map fun check =>
        (check.id, check.displayName))) (db.listChecksForAgent collation agentId) entries := by
  obtain ⟨agent, isAgent, isId⟩ := exportable.agent
  obtain ⟨found, isFound⟩ : ∃ found, db.getAgent agentId = some found := by
    rw [← Option.isSome_iff_exists, Server.Db.getAgent, List.find?_isSome]
    exact ⟨agent, isAgent, decide_eq_true isId⟩
  have foundId : found.id = agentId := by simpa using List.find?_some isFound
  have family := exportable.family collation
  have accepted : ∀ check ∈ db.listChecksForAgent collation agentId, ∃ data settings,
      data.Accepted guards settings ∧ check.Holds data settings := fun check mem =>
    exportable.accepted check (mem_listChecksForAgent.mp mem).1 (mem_listChecksForAgent.mp mem).2
  generalize isListed : db.listChecksForAgent collation agentId = checks at family accepted
  obtain ⟨read, isRead, areRead⟩ := exists_mapM checks (f := Check.toInDB)
    (R := fun check inDB => ∃ data settings, data.Accepted guards settings ∧ check.Holds data settings ∧
      inDB = check.read (settings.keep check.checkType)) (by
    intro check mem
    obtain ⟨data, settings, isAccepted, holds⟩ := accepted check mem
    exact ⟨_, toInDB_eq_read (holds.textsFit isAccepted.fits) isAccepted.settings
      (holds.fitsTags isAccepted.fits) holds.settings, data, settings, isAccepted, holds, rfl⟩)
  have sameNames : (read.map fun check => (check.id, check.displayName)) =
      checks.map fun check => (check.id, check.displayName) := by
    refine (map_eq_of_forall₂ areRead ?_).symm
    rintro check _ ⟨data, settings, -, -, rfl⟩
    rfl
  have names : Fields.ofPairs (read.map fun check => (check.id, check.displayName)) =
      checks.map fun check => (check.id, check.displayName) := by
    rw [sameNames, Fields.ofPairs_of_nodup]
    rw [List.map_map]
    exact family.ids
  have named : ∀ parent name, Fields.get? parent (checks.map fun check => (check.id, check.displayName)) =
      some name → StoredText name := by
    intro parent name found
    obtain ⟨check, mem, same⟩ := List.mem_map.mp (Fields.mem_of_get?_eq_some found)
    obtain ⟨data, settings, isAccepted, holds⟩ := accepted check mem
    cases same
    exact (fitsText_iff.mp (holds.textsFit isAccepted.fits).displayName).1
  obtain ⟨entries, isExported, areExported⟩ := exists_mapM read
    (f := entryOf pydantic (checks.map fun check => (check.id, check.displayName)))
    (R := fun inDB entry => entry = inDB.export (checks.map fun check => (check.id, check.displayName)) ∧
      entry.Stored) (by
    intro inDB mem
    obtain ⟨check, -, data, settings, isAccepted, holds, rfl⟩ := exists_of_mem_right areRead mem
    have stored := stored_export holds isAccepted.fits isAccepted.settings named
    exact ⟨_, CheckExport.modelValidate_modelDump pydantic stored, rfl, stored⟩)
  refine ⟨entries, ?_, ?_⟩
  · simp only [exportDocument, isFound, foundId, isListed, isRead, names, isExported, Option.elim, bind,
      Except.bind]
  · refine (forall₂_trans areRead areExported).imp ?_
    rintro check entry ⟨inDB, ⟨data, settings, isAccepted, holds, rfl⟩, isEntry, stored⟩
    exact ⟨⟨data, settings, isAccepted, holds, isEntry⟩, stored⟩

end Export

/-! ## Running alike -/

section Alike

variable {guards : Guards} {newAgentId : Id} {checks : List Check} {after : Server.Db} {check row : Check}

/-- A copy is served with the check's settings, and with numbers for the unset ones. -/
theorem served_of_imported (imported : Imported guards newAgentId checks after check row) :
    ∃ settings, check.toResponse = some (check.served settings) ∧
      row.toResponse = some { check.served settings with
        id := Uuid.ofId row.id
        intervalSeconds := some (check.intervalSeconds.getD 60)
        timeoutSeconds := some (check.timeoutSeconds.getD 5)
        retryAttempts := some (check.retryAttempts.getD 2) } := by
  obtain ⟨copy, ⟨data, settings, now, accepted, holds, made⟩, same⟩ := imported.isCopy
  refine ⟨settings.keep check.checkType,
    toResponse_eq_served (holds.textsFit accepted.fits) accepted.settings holds.settings, ?_⟩
  have accepted' := accepted.recreate holds
  have held : copy.Holds (check.recreate (settings.keep check.checkType)) (settings.keep check.checkType) := by
    rw [made]
    exact CheckCreate.holds_row rfl _ _ _
  have held : row.Holds (check.recreate (settings.keep check.checkType)) (settings.keep check.checkType) := by
    rw [same]
    exact { held with settings := held.settings }
  have sameType : row.checkType = check.checkType := by
    rw [held.checkType]
    rfl
  have script : row.scriptCode = check.scriptCode := by
    rw [held.scriptCode]
    show (if check.checkType = .synthetic then check.scriptCode else none) = check.scriptCode
    split_ifs with synthetic
    · rfl
    · rw [holds.scriptCode, if_neg (holds.checkType ▸ synthetic)]
  have numbers : row.intervalSeconds = some (check.intervalSeconds.getD 60) ∧
      row.timeoutSeconds = some (check.timeoutSeconds.getD 5) ∧
      row.retryAttempts = some (check.retryAttempts.getD 2) := by
    rw [same, made]
    exact ⟨rfl, rfl, rfl⟩
  rw [toResponse_eq_served (held.textsFit accepted'.fits) accepted'.settings held.settings, sameType,
    TypeSettings.keep_keep]
  simp only [Check.served, held.displayName, sameType, held.target, held.description, held.enabled, script,
    held.retryIntervalSeconds, numbers]
  rfl

/-- A copy is run alike when what the entry has a number for was set. -/
theorem config_of_imported (imported : Imported guards newAgentId checks after check row) :
    (∃ original copied, configOf check = some original ∧ configOf row = some copied ∧
      copied = { original with checkId := copied.checkId }) ↔
    check.intervalSeconds.isSome = true ∧ check.retryAttempts.isSome = true := by
  obtain ⟨settings, isServed, isServedCopy⟩ := served_of_imported imported
  have timeout : orDefault (some (check.timeoutSeconds.getD 5)) 5 = orDefault check.timeoutSeconds 5 := by
    cases check.timeoutSeconds <;> rfl
  simp only [configOf, isServed, isServedCopy, Option.map_some, Option.some.injEq]
  simp only [transformCheckConfig, Check.served, timeout]
  cases check.intervalSeconds <;> cases check.retryAttempts <;> simp [orDefault]

end Alike

/-- **A transfer keeps what the agent runs**: the import makes one check of each and no
error, and each copy is run as its check, under its parent's name. -/
def KeepsWhatRuns (pydantic : Pydantic) (collation : Text → Text → Bool) (guards : Guards)
    (overwrite : Bool) (clock : Nat → Server.Time) (ids : Nat → Id) (agentId newAgentId : Id)
    (before db : Server.Db) : Prop :=
  ∃ entries after, exportDocument pydantic collation agentId before = .ok entries ∧
    bulkImportChecks pydantic guards newAgentId overwrite true collation clock ids
      (entries.map CheckExport.json) db =
        .ok (after, { created := (before.listChecksForAgent collation agentId).length }) ∧
    List.Forall₂ (RunsAlike before after) (before.listChecksForAgent collation agentId)
      (after.checks.filter fun check => decide (check.agentId = newAgentId))

section Transfer

variable {guards : Guards} {agentId newAgentId : Id} {before db : Server.Db} {ids : Nat → Id}

/-- What a transfer leaves: a copy of each check, with the copy of its parent. -/
theorem exists_transfer (exportable : Exportable guards agentId before) (pass : guards.Pass)
    (receptive : Receptive newAgentId ids db) (pydantic : Pydantic) (collation : Text → Text → Bool)
    (overwrite : Bool) (clock : Nat → Server.Time) :
    ∃ entries after, exportDocument pydantic collation agentId before = .ok entries ∧
      bulkImportChecks pydantic guards newAgentId overwrite true collation clock ids
        (entries.map CheckExport.json) db =
          .ok (after, { created := (before.listChecksForAgent collation agentId).length }) ∧
      List.Forall₂ (fun check row => after.parentName row = before.parentName check ∧
          Imported guards newAgentId (before.listChecksForAgent collation agentId) after check row)
        (before.listChecksForAgent collation agentId)
        (after.checks.filter fun check => decide (check.agentId = newAgentId)) := by
  obtain ⟨entries, isExported, areEntries⟩ := exportDocument_entries exportable pydantic collation
  have family := exportable.family collation
  obtain ⟨after, rows, isImported, checks, areImported⟩ :=
    bulkImport_imports pydantic collation pass family areEntries receptive overwrite clock
  have ofAgent : (after.checks.filter fun check => decide (check.agentId = newAgentId)) = rows := by
    have others : (db.checks.filter fun check => decide (check.agentId = newAgentId)) = [] := by
      rw [List.filter_eq_nil_iff]
      exact fun check mem same => receptive.empty check mem (of_decide_eq_true same)
    rw [checks, List.filter_append, others, List.nil_append, List.filter_eq_self]
    intro row mem
    obtain ⟨check, -, imported⟩ := exists_of_mem_right areImported mem
    obtain ⟨copy, isCopy, same⟩ := imported.isCopy
    rw [same]
    exact decide_eq_true isCopy.agentId
  refine ⟨entries, after, isExported, isImported, ?_⟩
  rw [ofAgent]
  refine forall₂_imp_mem areImported fun check mem row _ imported => ⟨?_, imported⟩
  rw [imported.parent, Server.Db.parentName]
  cases depends : check.dependsOnCheckId with
  | none => rfl
  | some parentId =>
    obtain ⟨parent, isParent, rfl, -⟩ := family.parents check mem parentId depends
    have found : ((before.listChecksForAgent collation agentId).find? fun other =>
        decide (other.id = parent.id)) = some parent :=
      @getCheck_of_mem { before with checks := before.listChecksForAgent collation agentId } family.ids
        parent isParent
    rw [Option.bind_some, Option.bind_some, found,
      getCheck_of_mem exportable.keys (mem_listChecksForAgent.mp isParent).1]

/-- A transfer that keeps what the agent runs had nothing to put a number to. -/
theorem KeepsWhatRuns.isSet {pydantic : Pydantic} {collation : Text → Text → Bool} {overwrite : Bool}
    {clock : Nat → Server.Time} (exportable : Exportable guards agentId before) (pass : guards.Pass)
    (receptive : Receptive newAgentId ids db)
    (keeps : KeepsWhatRuns pydantic collation guards overwrite clock ids agentId newAgentId before db) :
    ∀ check ∈ before.checks, check.agentId = agentId →
      check.intervalSeconds.isSome = true ∧ check.retryAttempts.isSome = true := by
  intro check mem ofThis
  obtain ⟨entries, after, isExported, isImported, areImported⟩ :=
    exists_transfer exportable pass receptive pydantic collation overwrite clock
  obtain ⟨entries', after', isExported', isImported', alike⟩ := keeps
  rw [isExported] at isExported'
  cases isExported'
  rw [isImported] at isImported'
  cases isImported'
  obtain ⟨row, isPair⟩ := exists_pair_left alike.length_eq (mem_listChecksForAgent.mpr ⟨mem, ofThis⟩)
  exact (config_of_imported (List.forall₂_zip areImported isPair).2).mp (List.forall₂_zip alike isPair).config

end Transfer

/-! ## Two transfers -/

/-- Settings of a web check. -/
def webSettings : TypeSettings := { httpMethod := some (text "GET"), verifySsl := some false }

def webCheck (intervalSeconds : Option Nat) : CheckCreate where
  displayName := text "web"
  checkType := .http
  target := text "https://a"
  intervalSeconds
  config := webSettings.fields

/-- An agent with the check that was created, and an agent with none. -/
def webDb (intervalSeconds : Option Nat) : Server.Db where
  checks := [(webCheck intervalSeconds).row 1 7 0]
  agents := [{ id := 7, approvalStatus := .active, createdAt := 0 },
    { id := 8, approvalStatus := .active, createdAt := 0 }]

/-- pydantic reads a number or a flag from no text. -/
def strictPydantic : Pydantic := ⟨fun _ => none, fun _ => none, fun _ => none, fun _ => false, false⟩

theorem webCheck_accepted {intervalSeconds : Option Nat} (fits : FitsNumber 1 86400 intervalSeconds) :
    (webCheck intervalSeconds).Accepted anyTarget webSettings where
  fits :=
    { displayName := (by decide +kernel : FitsText 1 255 (text "web"))
      target := (by decide +kernel : FitsText 1 512 (text "https://a"))
      description := by rintro s ⟨⟩
      intervalSeconds := fits
      timeoutSeconds := (by decide : FitsNumber 1 300 (some 10))
      retryAttempts := by rintro n ⟨⟩
      retryIntervalSeconds := (by decide : FitsNumber 1 300 (some 30))
      resendNotificationAfter := by rintro n ⟨⟩
      tags := by rintro tags ⟨⟩
      scriptCode := by rintro s ⟨⟩ }
  given := rfl
  settings := by decide +kernel
  script := rfl

theorem webDb_exportable {intervalSeconds : Option Nat} (fits : FitsNumber 1 86400 intervalSeconds) :
    Exportable anyTarget 7 (webDb intervalSeconds) where
  agent := ⟨_, List.mem_cons_self .., rfl⟩
  keys := List.nodup_singleton _
  accepted check mem _ := by
    rw [List.mem_singleton.mp mem]
    exact ⟨_, _, webCheck_accepted fits, CheckCreate.holds_row rfl 1 7 0⟩
  names := List.nodup_singleton _
  parents check mem _ parentId depends := by
    rw [List.mem_singleton.mp mem] at depends
    cases depends

theorem webDb_receptive (intervalSeconds : Option Nat) :
    Receptive 8 (fun n => 100 + n) (webDb intervalSeconds) where
  admitted := ⟨_, rfl⟩
  empty check mem := by
    rw [List.mem_singleton.mp mem]
    exact (by decide : (7 : Id) ≠ 8)
  keyed := by
    refine ⟨List.nodup_singleton _, ?_⟩
    intro check mem parentId depends
    rw [List.mem_singleton.mp mem] at depends
    cases depends
  fresh n := by
    show 100 + n ∉ [1]
    simp
    omega
  distinct a b same := by simpa using same

end LuxSwirl.Agent
