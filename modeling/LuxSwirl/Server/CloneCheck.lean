import LuxSwirl.Server.ImportRun
import LuxSwirl.Server.SettingsMerge

/-!
# Cloning a check

`clone_check` of `check_core_service.py` reads a check, puts the overrides over it and
creates what comes out, where `update_check` would write the overrides into the check.
`cloneCheck_matches_update`: of a check that accepted calls have left, the clone is the
check as that update leaves it, with the default timeout where it has none.

The overrides are a `CheckUpdate`; no overrides set nothing.
-/

namespace LuxSwirl.Server
open LuxSwirl.Py LuxSwirl.Lib

/-! ## The clone -/

/-- A create payload as its schema strips its texts. -/
def CheckCreate.stripped (data : CheckCreate) : CheckCreate :=
  { data with
    displayName := trim data.displayName
    target := trim data.target
    description := data.description.map trim
    tags := data.tags.map fun tags => tags.map trim
    scriptCode := data.scriptCode.map trim }

/-- The source with the overrides: a field that they set, and not to null, is theirs, and
any other the source's. -/
def Check.overridden (source : Check) (overrides : CheckUpdate) (defaultTimeout : Nat) (settings : TypeSettings) :
    CheckCreate where
  displayName := overrides.displayName.join.getD source.displayName
  checkType := overrides.checkType.join.getD source.checkType
  target := overrides.target.join.getD source.target
  description := overrides.description.join.or source.description
  intervalSeconds := overrides.intervalSeconds.join.or source.intervalSeconds
  timeoutSeconds := (overrides.timeoutSeconds.join.or source.timeoutSeconds).getD defaultTimeout
  enabled := overrides.enabled.join.getD source.enabled
  retryAttempts := overrides.retryAttempts.join.or source.retryAttempts
  retryIntervalSeconds := overrides.retryIntervalSeconds.join.getD source.retryIntervalSeconds
  resendNotificationAfter := overrides.resendNotificationAfter.join.or source.resendNotificationAfter
  tags := overrides.tags.join.or source.tags
  assignmentMode := overrides.assignmentMode.join.getD source.assignmentMode
  agentSelector := overrides.agentSelector.join.or source.agentSelector
  scriptCode := overrides.scriptCode.join.or source.scriptCode
  dependsOnCheckId := overrides.dependsOnCheckId.join.or source.dependsOnCheckId
  config := settings.fields

/-- The clone's create payload, unless its schema refuses it. -/
def mergeCloneData (defaultTimeout : Nat) (source : Check) (overrides : CheckUpdate) : Option CheckCreate :=
  let settings := ((TypeSettings.ofFields overrides.config).or source.settings).stripped
  let data := (source.overridden overrides defaultTimeout settings).stripped
  if data.Fits ∧ settings.Fits then some data else none

/-- The target's mapping to an alert, new unless it is held, is as enabled as the
source's; a snooze is not copied. -/
def Db.copyCheckMapping (targetCheckId : Id) (held : List Id) (db : Db) (source : AlertCheckMapping) : Db :=
  { db with
    checkMappings :=
      if source.alertId ∈ held then
        db.checkMappings.map fun mapping =>
          if mapping.checkId = targetCheckId ∧ mapping.alertId = source.alertId then
            { mapping with isEnabled := source.isEnabled }
          else mapping
      else
        db.checkMappings ++
          [{ alertId := source.alertId, checkId := targetCheckId, isEnabled := source.isEnabled }] }

def Db.copyCheckMappings (sourceCheckId targetCheckId : Id) (db : Db) : Db :=
  (db.checkMappings.filter fun mapping => decide (mapping.checkId = sourceCheckId)).foldl
    (Db.copyCheckMapping targetCheckId (db.listMappedAlertIdsForCheck targetCheckId)) db

def cloneCheck (guards : Guards) (clock : Nat → Time) (defaultTimeout : Nat) (id checkId agentId : Id)
    (overrides : CheckUpdate) (skipConfigUpdate actorIsAdmin : Bool) (db : Db) : Except CheckError Db :=
  match db.getCheck checkId with
  | none => .error .checkNotFound
  | some source =>
    match db.getAgent agentId with
    | none => .error .agentNotFound
    | some _ =>
      match mergeCloneData defaultTimeout source overrides with
      | none => .error .validation
      | some data => do
        let created ← createCheck guards clock id agentId data skipConfigUpdate actorIsAdmin db
        return created.copyCheckMappings checkId id

/-! ## The overrides -/

/-- No field of an update is set to null or to an empty text. -/
structure CheckUpdate.Plain (data : CheckUpdate) : Prop where
  displayName : data.displayName ≠ some none
  checkType : data.checkType ≠ some none
  target : data.target ≠ some none ∧ data.target ≠ some (some [])
  description : data.description ≠ some none ∧ data.description ≠ some (some [])
  intervalSeconds : data.intervalSeconds ≠ some none
  timeoutSeconds : data.timeoutSeconds ≠ some none
  enabled : data.enabled ≠ some none
  retryAttempts : data.retryAttempts ≠ some none
  retryIntervalSeconds : data.retryIntervalSeconds ≠ some none
  resendNotificationAfter : data.resendNotificationAfter ≠ some none
  tags : data.tags ≠ some none
  assignmentMode : data.assignmentMode ≠ some none
  agentSelector : data.agentSelector ≠ some none
  scriptCode : data.scriptCode ≠ some none ∧ data.scriptCode ≠ some (some [])
  dependsOnCheckId : data.dependsOnCheckId ≠ some none
  config : ∀ entry ∈ data.config, isSet entry.2 = true

/-- A clone has the settings of a row. -/
structure Check.Clones (clone row : Check) (defaultTimeout : Nat) : Prop where
  displayName : clone.displayName = row.displayName
  checkType : clone.checkType = row.checkType
  target : clone.target = row.target
  description : clone.description = row.description
  enabled : clone.enabled = row.enabled
  intervalSeconds : clone.intervalSeconds = row.intervalSeconds
  timeoutSeconds : clone.timeoutSeconds = some (row.timeoutSeconds.getD defaultTimeout)
  retryAttempts : clone.retryAttempts = row.retryAttempts
  retryIntervalSeconds : clone.retryIntervalSeconds = row.retryIntervalSeconds
  resendNotificationAfter : clone.resendNotificationAfter = row.resendNotificationAfter
  tags : clone.tags = row.tags
  scriptCode : clone.scriptCode = row.scriptCode
  assignmentMode : clone.assignmentMode = row.assignmentMode
  agentSelector : clone.agentSelector = row.agentSelector
  dependsOnCheckId : clone.dependsOnCheckId = row.dependsOnCheckId
  settings : ∀ name, clone.getConfig name = row.getConfig name

variable {guards : Guards} {clock : Nat → Time} {db : Db} {source row : Check} {overrides : CheckUpdate}
  {defaultTimeout : Nat}

/-! ## What is created -/

theorem getD_eq_join_or {α : Type} {given : Option (Option α)} (plain : given ≠ some none) (old : Option α) :
    given.getD old = given.join.or old := by
  rcases given with _ | _ | x
  · rfl
  · exact absurd rfl plain
  · rfl

/-- What a copy of a row is created with. -/
def Check.clonePayload (row : Check) (defaultTimeout : Nat) (scriptCode : Option Text) (settings : TypeSettings) :
    CheckCreate where
  displayName := row.displayName
  checkType := row.checkType
  target := row.target
  description := row.description
  intervalSeconds := row.intervalSeconds
  timeoutSeconds := row.timeoutSeconds.getD defaultTimeout
  enabled := row.enabled
  retryAttempts := row.retryAttempts
  retryIntervalSeconds := row.retryIntervalSeconds
  resendNotificationAfter := row.resendNotificationAfter
  tags := row.tags
  assignmentMode := row.assignmentMode
  agentSelector := row.agentSelector
  scriptCode := scriptCode
  dependsOnCheckId := row.dependsOnCheckId
  config := settings.fields

theorem map_trim_of_script {script : Option Text} (fits : FitsScript script) : script.map trim = script := by
  cases script with
  | none => rfl
  | some s => exact congrArg some (storedText_iff.mp (fits s rfl)).1

theorem map_trim_of_tags {tags : Option (List Text)} (fits : FitsTags tags) :
    (tags.map fun tags => tags.map trim) = tags := by
  cases tags with
  | none => rfl
  | some listed =>
    have same : ∀ tag ∈ listed, trim tag = tag := fun tag mem => trim_of_tagOf ((fits listed rfl).2 tag mem)
    rw [Option.map_some, List.map_congr_left same, List.map_id']

section Payload

variable {scriptCode : Option Text} {settings : TypeSettings}

/-- What a row in bounds holds is stripped already. -/
theorem clonePayload_stripped (inBounds : row.InBounds guards) (script : FitsScript scriptCode) :
    (row.clonePayload defaultTimeout scriptCode settings).stripped =
      row.clonePayload defaultTimeout scriptCode settings := by
  have displayName : trim row.displayName = row.displayName :=
    (storedText_iff.mp (fitsText_iff.mp inBounds.displayName).1).1
  have target : trim row.target = row.target := (storedText_iff.mp inBounds.target).1
  simp only [CheckCreate.stripped, Check.clonePayload, displayName, target, map_trim inBounds.description,
    map_trim_of_tags inBounds.tags, map_trim_of_script script]

/-- The create schema takes it, when the target is as short as it asks. -/
theorem clonePayload_fits (inBounds : row.InBounds guards) (script : FitsScript scriptCode)
    (target : 1 ≤ row.target.length ∧ row.target.length ≤ 512)
    (timeout : 1 ≤ defaultTimeout ∧ defaultTimeout ≤ 300) :
    (row.clonePayload defaultTimeout scriptCode settings).Fits where
  displayName := inBounds.displayName
  target := fitsText_iff.mpr ⟨inBounds.target, target⟩
  description := inBounds.description
  intervalSeconds := inBounds.intervalSeconds
  timeoutSeconds := by
    rintro n ⟨⟩
    show 1 ≤ row.timeoutSeconds.getD defaultTimeout ∧ row.timeoutSeconds.getD defaultTimeout ≤ 300
    cases isTimeout : row.timeoutSeconds with
    | none => exact timeout
    | some n => exact inBounds.timeoutSeconds n isTimeout
  retryAttempts := inBounds.retryAttempts
  retryIntervalSeconds := inBounds.retryIntervalSeconds
  resendNotificationAfter := inBounds.resendNotificationAfter
  tags := inBounds.tags
  scriptCode := script

end Payload

/-- The source with plain overrides is the row that the update leaves. -/
theorem overridden_eq {now : Time} (plain : overrides.Plain) (leaves : overrides.Leaves now source row)
    (settings : TypeSettings) : source.overridden overrides defaultTimeout settings =
      row.clonePayload defaultTimeout (overrides.scriptCode.join.or source.scriptCode) settings := by
  simp only [Check.overridden, ← join_getD leaves.displayName, ← join_getD leaves.checkType, ← join_getD leaves.target,
    ← join_getD leaves.enabled, ← join_getD leaves.retryIntervalSeconds, ← join_getD leaves.assignmentMode]
  rw [leaves.row]
  simp only [Check.clonePayload, getD_eq_join_or plain.description.1,
    getD_eq_join_or plain.intervalSeconds, getD_eq_join_or plain.timeoutSeconds,
    getD_eq_join_or plain.retryAttempts, getD_eq_join_or plain.resendNotificationAfter, getD_eq_join_or plain.tags,
    getD_eq_join_or plain.agentSelector, getD_eq_join_or plain.dependsOnCheckId]

theorem mergeCloneData_eq {now : Time} (inBounds : source.InBounds guards) (rowInBounds : row.InBounds guards)
    (accepted : overrides.Accepted) (plain : overrides.Plain) (leaves : overrides.Leaves now source row)
    (target : 1 ≤ row.target.length ∧ row.target.length ≤ 512)
    (timeout : 1 ≤ defaultTimeout ∧ defaultTimeout ≤ 300) :
    mergeCloneData defaultTimeout source overrides =
      some (row.clonePayload defaultTimeout (overrides.scriptCode.join.or source.scriptCode)
        ((TypeSettings.ofFields overrides.config).or source.settings)) := by
  obtain ⟨last, stores⟩ := inBounds.settings
  have script : FitsScript (overrides.scriptCode.join.or source.scriptCode) :=
    forall_or accepted.scriptCode inBounds.scriptCode
  have settings : ((TypeSettings.ofFields overrides.config).or source.settings).Fits := by
    rw [settings_eq_ofFields stores]
    exact accepted.config.typed.fits.or stores.typed.fits
  simp only [mergeCloneData, settings.stripped, overridden_eq plain leaves, clonePayload_stripped rowInBounds script]
  exact if_pos ⟨clonePayload_fits rowInBounds script target timeout, settings⟩

/-- An admin's check is accepted when its script is. -/
theorem validateSynthetic_of_judged {data : CheckCreate}
    (judged : data.checkType = .synthetic → ∀ s ∈ data.scriptCode, s ≠ [] → guards.scriptAllowed s = true) :
    data.validateSynthetic guards true = .ok () := by
  rw [CheckCreate.validateSynthetic]
  by_cases isSynthetic : data.checkType = .synthetic
  · rw [if_pos isSynthetic]
    cases given : data.scriptCode with
    | none => rfl
    | some script =>
      by_cases isEmpty : script.isEmpty = true
      · simp [requireAdminActor, bind, Except.bind, isEmpty, pure, Except.pure]
      · have allowed := judged isSynthetic script given (by simpa using isEmpty)
        simp [requireAdminActor, bind, Except.bind, isEmpty, validateScript, allowed]
  · rw [if_neg isSynthetic]
    rfl

/-- A synthetic row keeps the script of the overrides, or of the source. -/
theorem CheckUpdate.Plain.scriptCode_eq {now : Time} (plain : overrides.Plain)
    (leaves : overrides.Leaves now source row) : row.scriptCode =
      if row.checkType = .synthetic then overrides.scriptCode.join.or source.scriptCode else none := by
  rw [leaves.scriptCode, getD_eq_join_or plain.scriptCode.1]
  by_cases isSynthetic : row.checkType = .synthetic <;> simp [isSynthetic]

/-- A parent that is there and has none is accepted of a new check. -/
theorem validateDependency_of_parent {dependsOn : Option Id}
    (isParent : ∀ parentId ∈ dependsOn,
      ∃ parent, db.getCheck parentId = some parent ∧ parent.dependsOnCheckId = none) :
    validateDependency dependsOn none db = .ok () := by
  cases dependsOn with
  | none => rfl
  | some parentId =>
    obtain ⟨parent, found, hasNone⟩ := isParent parentId rfl
    simp [validateDependency, found, hasNone]

theorem copyCheckMappings_checks (sourceCheckId targetCheckId : Id) (db : Db) :
    (db.copyCheckMappings sourceCheckId targetCheckId).checks = db.checks := by
  rw [Db.copyCheckMappings]
  generalize db.listMappedAlertIdsForCheck targetCheckId = held
  induction db.checkMappings.filter fun mapping => decide (mapping.checkId = sourceCheckId) generalizing db with
  | nil => rfl
  | cons mapping rest ih => exact ih (db.copyCheckMapping targetCheckId held mapping)

/-! ## The settings of a clone -/

/-- Each setting that plain overrides give is set. -/
theorem CheckUpdate.Plain.isSet (plain : overrides.Plain) (accepted : overrides.Accepted) :
    ∀ name, ∀ value ∈ (TypeSettings.ofFields overrides.config).field name, value ≠ .none →
      Server.isSet value = true := by
  intro name value given notNone
  have same := @field_ofFields (fun value => decide (value ≠ .none)) (by simp) _ accepted.config.typed name
  rw [Option.mem_def.mp given, Option.filter_some, if_pos (decide_eq_true notNone)] at same
  obtain ⟨found, -⟩ := Option.filter_eq_some_iff.mp same.symm
  exact plain.config _ (Fields.mem_of_get?_eq_some found)

/-- Every setting of the clone's type is as the update leaves it. -/
theorem clone_settings {now : Time} {scriptCode : Option Text} (id agentId : Id) (createdAt : Time)
    (inBounds : source.InBounds guards) (accepted : overrides.Accepted) (plain : overrides.Plain)
    (leaves : overrides.Leaves now source row) (name : String) :
    ((row.clonePayload defaultTimeout scriptCode
      ((TypeSettings.ofFields overrides.config).or source.settings)).row id agentId createdAt).getConfig name =
        row.getConfig name := by
  obtain ⟨last, stores⟩ := inBounds.settings
  have given : (row.clonePayload defaultTimeout scriptCode
      ((TypeSettings.ofFields overrides.config).or source.settings)).config =
        ((TypeSettings.ofFields overrides.config).or source.settings).fields := rfl
  have holds := CheckCreate.holds_row given id agentId createdAt
  have merged := @value_or _ source.settings (plain.isSet accepted) name
  rw [holds.settings name, getConfig_of_sets leaves.sets stores.others name, get?_fields]
  rw [TypeSettings.value, value_ofFields accepted.config.typed, value_settings stores] at merged
  rw [merged]
  rfl

/-- What is created of the payload has the settings of the row. -/
theorem clonePayload_clones {now : Time} (id agentId : Id) (createdAt : Time) (inBounds : source.InBounds guards)
    (accepted : overrides.Accepted) (plain : overrides.Plain) (leaves : overrides.Leaves now source row)
    (attempts : row.retryAttempts ≠ none) :
    ((row.clonePayload defaultTimeout (overrides.scriptCode.join.or source.scriptCode)
      ((TypeSettings.ofFields overrides.config).or source.settings)).row id agentId createdAt).Clones row
        defaultTimeout where
  displayName := rfl
  checkType := rfl
  target := rfl
  description := rfl
  enabled := rfl
  intervalSeconds := rfl
  timeoutSeconds := rfl
  retryAttempts := by
    obtain ⟨n, isAttempts⟩ := Option.ne_none_iff_exists'.mp attempts
    show some (row.retryAttempts.getD defaultRetryAttempts) = row.retryAttempts
    rw [isAttempts, Option.getD_some]
  retryIntervalSeconds := rfl
  resendNotificationAfter := rfl
  tags := rfl
  scriptCode := (plain.scriptCode_eq leaves).symm
  assignmentMode := rfl
  agentSelector := rfl
  dependsOnCheckId := rfl
  settings := clone_settings id agentId createdAt inBounds accepted plain leaves

/-- What the payload creates. -/
theorem createCheck_of_payload {now : Time} {agentId : Id} {agent : Agent} {settings : TypeSettings}
    (pass : guards.Pass) (tidy : db.Tidy guards) (found : db.getCheck source.id = some source)
    (rowInBounds : row.InBounds guards) (plain : overrides.Plain)
    (validated : overrides.validate guards true source db = .ok ()) (leaves : overrides.Leaves now source row)
    (admitted : getAdmittedAgent agentId db = .ok agent) (clock : Nat → Time) (id : Id) (skipConfigUpdate : Bool) :
    ∃ created, createCheck guards clock id agentId
      (row.clonePayload defaultTimeout (overrides.scriptCode.join.or source.scriptCode) settings)
        skipConfigUpdate true db = .ok created := by
  have dependency : validateDependency row.dependsOnCheckId none db = .ok () :=
    validateDependency_of_parent fun parentId isParent =>
      (CheckUpdate.Leaves.parent tidy found validated leaves parentId isParent).2
  have synthetic : (row.clonePayload defaultTimeout (overrides.scriptCode.join.or source.scriptCode)
      settings).validateSynthetic guards true = .ok () := by
    refine validateSynthetic_of_judged fun isSynthetic s isScript => ?_
    have kept : row.scriptCode = overrides.scriptCode.join.or source.scriptCode :=
      (plain.scriptCode_eq leaves).trans (if_pos isSynthetic)
    exact rowInBounds.judged s (kept.trans isScript)
  rw [createCheck, admitted, synthetic]
  show ∃ created, (do
    validateEndpoints guards _
    validateDependency row.dependsOnCheckId none db
    _) = Except.ok created
  rw [validateEndpoints_of_pass pass, dependency]
  exact ⟨_, rfl⟩

theorem getAgent_of_admitted {agentId : Id} {agent : Agent} (admitted : getAdmittedAgent agentId db = .ok agent) :
    ∃ found, db.getAgent agentId = some found := by
  rw [getAdmittedAgent] at admitted
  cases found : db.getAgent agentId with
  | none =>
    rw [found] at admitted
    cases admitted
  | some agent => exact ⟨agent, rfl⟩

/-- **A clone is its source with the overrides**: of a check that accepted calls have left,
plain overrides make a clone with the settings the source would have after the update
with them, the default timeout standing for a null one. It needs the update to leave a
target that the create schema takes, and a number of retries. -/
theorem cloneCheck_matches_update {requests : List CheckRequest} {start updated : Db} {id checkId agentId : Id}
    {agent : Agent} (pass : guards.Pass) (none_yet : start.checks = [])
    (accepted : ∀ request ∈ requests, request.call.Accepted)
    (isDb : db = afterRequests guards requests start)
    (overridesAccepted : overrides.Accepted) (plain : overrides.Plain)
    (timeout : 1 ≤ defaultTimeout ∧ defaultTimeout ≤ 300) (admitted : getAdmittedAgent agentId db = .ok agent)
    (isUpdated : updateCheck guards clock checkId overrides true db = (updated, none))
    (isRow : updated.getCheck checkId = some row)
    (target : 1 ≤ row.target.length ∧ row.target.length ≤ 512) (attempts : row.retryAttempts ≠ none)
    (cloneClock : Nat → Time) (skipConfigUpdate : Bool) : ∃ cloned clone,
      cloneCheck guards cloneClock defaultTimeout id checkId agentId overrides skipConfigUpdate true db = .ok cloned ∧
        cloned.checks = db.checks ++ [clone] ∧ clone.id = id ∧ clone.agentId = agentId ∧
        clone.Clones row defaultTimeout := by
  have tidy : db.Tidy guards := by
    rw [isDb]
    refine tidy_afterRequests accepted ⟨?_, ?_⟩
    · simp [none_yet]
    · simp [none_yet]
  obtain ⟨source, saved, found, validated, judged, isSaved, left⟩ := updateCheck_passed isUpdated
  obtain ⟨isSource, rfl⟩ := id_of_getCheck found
  have sameRow : saved = row := by
    have sameId : saved.id = source.id := CheckUpdate.row_id isSaved
    have touched : (db.touchAgent (clock 1) source.agentId).getCheck saved.id = some source := by
      rw [sameId]
      exact found
    rw [left, ← sameId, getCheck_saveCheck touched] at isRow
    exact Option.some.inj isRow
  subst sameRow
  have leaves := CheckUpdate.row_leaves isSaved
  have inBounds := tidy.rows source isSource
  have rowInBounds := inBounds.updated overridesAccepted judged leaves
  have merged := mergeCloneData_eq inBounds rowInBounds overridesAccepted plain leaves target timeout
  obtain ⟨created, isCreated⟩ := @createCheck_of_payload _ _ _ _ _ defaultTimeout _ _ _
    ((TypeSettings.ofFields overrides.config).or source.settings) pass tidy found rowInBounds plain validated
    leaves admitted cloneClock id skipConfigUpdate
  obtain ⟨foundAgent, isAgent⟩ := getAgent_of_admitted admitted
  refine ⟨created.copyCheckMappings source.id id, _, ?_, ?_, rfl, rfl,
    clonePayload_clones id agentId (cloneClock 0) inBounds overridesAccepted plain leaves attempts⟩
  · rw [cloneCheck, found, isAgent]
    dsimp only
    rw [merged]
    exact except_bind_ok.mpr ⟨created, isCreated, rfl⟩
  · rw [copyCheckMappings_checks]
    exact (createCheck_passed isCreated).1

/-! ## Checks that an update has left with a null or an empty target -/

theorem givenFits_nil : GivenFits [] :=
  ⟨{}, by decide, List.nil_subset _⟩

/-- An update of numbers and the target alone. -/
theorem CheckUpdate.accepted_of_numbers {data : CheckUpdate} (numbers : data.Fits)
    (target : ∀ s ∈ data.target.join, StoredText s)
    (others : data.displayName = none ∧ data.description = none ∧ data.scriptCode = none ∧ data.tags = none)
    (config : data.config = []) : data.Accepted where
  numbers := numbers
  displayName := by rw [others.1]; exact nofun
  target := target
  description := by rw [others.2.1]; exact nofun
  tags := by rw [others.2.2.2]; exact nofun
  scriptCode := by rw [others.2.2.1]; exact nofun
  config := by rw [config]; exact givenFits_nil

/-- A check is created and then updated. -/
def createdAndUpdated (data : CheckUpdate) : List CheckRequest :=
  [⟨.create 5 1 { displayName := text "web", checkType := .ping, target := text "web" } false, fun n => n, true⟩,
    ⟨.update 5 data, fun n => n + 10, true⟩]

theorem createdAndUpdated_accepted {data : CheckUpdate} (accepted : data.Accepted) :
    ∀ request ∈ createdAndUpdated data, request.call.Accepted := by
  rintro request mem
  rcases List.mem_cons.mp mem with rfl | mem
  · exact ⟨by decide +kernel, givenFits_nil⟩
  · rw [List.mem_singleton.mp mem]
    exact accepted

def updatedDb (data : CheckUpdate) : Db :=
  afterRequests anyTarget (createdAndUpdated data) { agents := [probe 1] }

def noTimeout : CheckUpdate where
  timeoutSeconds := some none

def noRetryAttempts : CheckUpdate where
  retryAttempts := some none

def emptyTarget : CheckUpdate where
  target := some (some [])

/-- The row that is left once nothing more is updated. -/
def keptRow (data : CheckUpdate) : Option Check :=
  let (updated, refusal) := updateCheck anyTarget (fun n => n + 20) 5 {} true (updatedDb data)
  if refusal.isNone then updated.getCheck 5 else none

/-- The clone with nothing overridden. -/
def plainClone (data : CheckUpdate) : Option Check :=
  (cloneCheck anyTarget (fun n => n + 20) 10 6 5 1 {} false true (updatedDb data)).toOption.bind (·.getCheck 6)

/-- A clone gets the default for a null timeout, and the column's own for null retries;
with an empty target there is none. -/
theorem cloneCheck_differs :
    (noTimeout.Accepted ∧ (keptRow noTimeout).map (·.timeoutSeconds) = some none ∧
      (plainClone noTimeout).map (·.timeoutSeconds) = some (some 10)) ∧
    (noRetryAttempts.Accepted ∧ (keptRow noRetryAttempts).map (·.retryAttempts) = some none ∧
      (plainClone noRetryAttempts).map (·.retryAttempts) = some (some 2)) ∧
    (emptyTarget.Accepted ∧ (keptRow emptyTarget).map (·.target) = some [] ∧ plainClone emptyTarget = none) := by
  refine ⟨⟨?_, rfl, ?_⟩, ⟨?_, rfl, ?_⟩, ?_, rfl, ?_⟩
  · exact CheckUpdate.accepted_of_numbers (by decide) nofun ⟨rfl, rfl, rfl, rfl⟩ rfl
  · decide +kernel
  · exact CheckUpdate.accepted_of_numbers (by decide) nofun ⟨rfl, rfl, rfl, rfl⟩ rfl
  · decide +kernel
  · refine CheckUpdate.accepted_of_numbers (by decide) ?_ ⟨rfl, rfl, rfl, rfl⟩ rfl
    rintro s ⟨⟩
    decide
  · decide +kernel

/-- The check without a timeout clones as it is updated. -/
theorem noTimeout_clones : ∃ updated row,
    updateCheck anyTarget (fun n => n + 20) 5 newInterval true (updatedDb noTimeout) = (updated, none) ∧
      updated.getCheck 5 = some row ∧ row.intervalSeconds = some 300 ∧ ∃ cloned clone,
        cloneCheck anyTarget (fun n => n + 30) 10 6 5 1 newInterval false true (updatedDb noTimeout) = .ok cloned ∧
          cloned.checks = (updatedDb noTimeout).checks ++ [clone] ∧ clone.id = 6 ∧ clone.agentId = 1 ∧
          clone.Clones row 10 := by
  have isUpdated : updateCheck anyTarget (fun n => n + 20) 5 newInterval true (updatedDb noTimeout) = (_, none) := rfl
  have accepted : newInterval.Accepted :=
    CheckUpdate.accepted_of_numbers (by decide) nofun ⟨rfl, rfl, rfl, rfl⟩ rfl
  have nulled : noTimeout.Accepted :=
    CheckUpdate.accepted_of_numbers (by decide) nofun ⟨rfl, rfl, rfl, rfl⟩ rfl
  have plain : newInterval.Plain := by constructor <;> decide
  refine ⟨_, _, isUpdated, rfl, rfl, ?_⟩
  exact cloneCheck_matches_update (fun _ => rfl) rfl (createdAndUpdated_accepted nulled) rfl accepted plain
    (by decide) rfl isUpdated rfl (by decide) (by decide) (fun n => n + 30) false

end LuxSwirl.Server
