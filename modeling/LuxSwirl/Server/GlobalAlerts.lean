import LuxSwirl.Py.Fnmatch
import LuxSwirl.Server.Checks
import LuxSwirl.Server.View

/-!
# What a global alert reaches

A global alert carries filters, and a new check is mapped to it when it is
created. The mapping is made from `list_global_enabled_alert_ids`, which does not
read them, and `evaluate_check_result` takes every mapped alert: the function that
reads the filters is called by neither. So the filters decide what the alert
reaches exactly for a check that passes all of them.
-/

namespace LuxSwirl.Server
open LuxSwirl.Py LuxSwirl.Lib

/-! ## The filters -/

/-- A filter that is not given lets everything through. -/
def given {α : Type} (filter : Option α) (passes : α → Bool) : Bool :=
  match filter with
  | none => true
  | some allowed => passes allowed

/-- The check matches every filter given. -/
def CheckFilters.matchesAll (filters : CheckFilters) (check : Check) : Bool :=
  given filters.agentIds (fun ids => decide (check.agentId ∈ ids)) &&
  given filters.checkTypes (fun types => decide (check.checkType ∈ types)) &&
  given filters.checkNames (fun patterns => patterns.any (fnmatch check.displayName)) &&
  given filters.tags (fun tags => tags.all fun tag => decide (tag ∈ check.tags.getD []))

/-- The check is one the alert is meant to reach. -/
def Alert.matchesFilters (alert : Alert) (check : Check) : Bool :=
  (alert.triggerConfig.checkFilters.getD {}).matchesAll check

/-- The source's own reading of the filters, which nothing calls. An agent's id is
compared with stored texts, which it never equals, and a check without tags passes
the tags. -/
def checkMatchesFilters (check : Check) (triggerConfig : TriggerConfig) : Bool :=
  let filters := triggerConfig.checkFilters.getD {}
  given filters.agentIds (fun _ => false) &&
  given filters.checkTypes (fun types => decide (check.checkType ∈ types)) &&
  given filters.checkNames (fun patterns => patterns.any (fnmatch check.displayName)) &&
  given filters.tags fun tags =>
    decide (check.tags.getD [] = []) || tags.all fun tag => decide (tag ∈ check.tags.getD [])

@[simp] theorem given_none {α : Type} (passes : α → Bool) : given none passes = true := rfl

/-- It reads the filters as they are meant when no agents are listed and the check
has tags. -/
theorem checkMatchesFilters_eq {alert : Alert} {check : Check}
    (anyAgent : (alert.triggerConfig.checkFilters.getD {}).agentIds = none)
    (tagged : check.tags.getD [] ≠ []) :
    checkMatchesFilters check alert.triggerConfig = alert.matchesFilters check := by
  simp [checkMatchesFilters, Alert.matchesFilters, CheckFilters.matchesAll, anyAgent, tagged]

/-! ## What the alert reaches -/

section Reach

variable {alert : Alert} {check : Check} {db : Db}

/-- The alert is set up on the check. -/
def Mapped (alert : Alert) (check : Check) (db : Db) : Prop :=
  ∃ mapping ∈ db.checkMappings, mapping.alertId = alert.id ∧ mapping.checkId = check.id

/-- Evaluating a result of the check evaluates the alert. -/
def Evaluated (alert : Alert) (check : Check) (db : Db) : Prop :=
  alert ∈ db.listActiveAlertsForCheck check.id

/-- The filters decide whether the alert is set up on the check and evaluated on it. -/
structure FiltersDecide (alert : Alert) (check : Check) (db : Db) : Prop where
  mapped : Mapped alert check db ↔ alert.matchesFilters check = true
  evaluated : Evaluated alert check db ↔ alert.matchesFilters check = true

/-- The alert is a global one that new checks are given. -/
structure Global (alert : Alert) (db : Db) : Prop where
  alertKeys : (db.alerts.map (·.id)).Nodup
  isAlert : alert ∈ db.alerts
  isGlobal : alert.isGlobal = true
  enabled : alert.isEnabled = true
  alive : alert.deletedAt = none

theorem Global.listed (isGlobal : Global alert db) : alert.id ∈ db.listGlobalEnabledAlertIds := by
  refine List.mem_map_of_mem (List.mem_filter.mpr ⟨isGlobal.isAlert, ?_⟩)
  simp [isGlobal.isGlobal, isGlobal.enabled, isGlobal.alive]

/-- An enabled mapping of a live alert has it evaluated. -/
theorem Global.evaluated (isGlobal : Global alert db) {mapping : AlertCheckMapping}
    (mem : mapping ∈ db.checkMappings) (enabled : mapping.isEnabled = true)
    (sameAlert : mapping.alertId = alert.id) (sameCheck : mapping.checkId = check.id) :
    Evaluated alert check db := by
  refine List.mem_filterMap.mpr ⟨mapping, mem, ?_⟩
  rw [Db.activeAlert, if_pos ⟨sameCheck, enabled⟩, sameAlert,
    getAlert_of_mem isGlobal.alertKeys isGlobal.isAlert]
  simp [isGlobal.enabled, isGlobal.alive]

/-- Only an alert that is evaluated on the check notifies of its results. -/
theorem evaluated_of_notice (keys : (db.alerts.map (·.id)).Nodup) (isAlert : alert ∈ db.alerts)
    (isCheck : db.getCheck check.id = some check) {outside : Outside} {now : Time}
    {checkResult : CheckResult} (isResult : checkResult.checkId = check.id) {notice : Notice}
    (sent : notice ∈ (evaluateCheckResult outside now checkResult db).2)
    (isOf : notice.alertId = alert.id) : Evaluated alert check db := by
  rw [evaluateCheckResult, isResult, isCheck] at sent
  obtain ⟨rows, -, -, ofNotices⟩ := evaluateAlerts_adds outside now check checkResult
    (db.listActiveAlertsForCheck check.id) db
  obtain ⟨⟨other, listed, same⟩, -⟩ := ofNotices notice sent
  obtain ⟨mapping, -, found⟩ := List.mem_filterMap.mp listed
  unfold Db.activeAlert at found
  split_ifs at found with set
  have isOther := List.mem_of_find?_eq_some (Option.filter_eq_some_iff.mp found).1
  have isIt : other = alert := List.inj_on_of_nodup_map keys isOther isAlert (same.symm.trans isOf)
  rw [← isIt]
  exact listed

end Reach

/-! ## Creating a check -/

section Create

variable {guards : Guards} {clock : Nat → Time} {id agentId : Id} {data : CheckCreate}
  {skipConfigUpdate actorIsAdmin : Bool} {alert : Alert} {db created : Db}

/-- A new check has every global alert set up on it by an enabled mapping. -/
theorem Global.of_created (isGlobal : Global alert db)
    (unmapped : ∀ mapping ∈ db.checkMappings, mapping.checkId ≠ id)
    (isCreated : createCheck guards clock id agentId data skipConfigUpdate actorIsAdmin db = .ok created) :
    Global alert created ∧ ⟨alert.id, id, true, none⟩ ∈ created.checkMappings := by
  obtain ⟨-, isCreated⟩ := createCheck_eq_ok isCreated
  have sameAlerts : created.alerts = db.alerts := by
    rw [isCreated]
    cases skipConfigUpdate <;> rfl
  have mappings : created.checkMappings = db.checkMappings ++
      (db.listGlobalEnabledAlertIds.filter fun alertId =>
        decide (alertId ∉ db.listMappedAlertIdsForCheck id)).map fun alertId =>
          { alertId, checkId := id } := by
    rw [isCreated]
    cases skipConfigUpdate <;> rfl
  constructor
  · exact { isGlobal with alertKeys := sameAlerts ▸ isGlobal.alertKeys
                          isAlert := sameAlerts ▸ isGlobal.isAlert }
  · rw [mappings]
    refine List.mem_append_right _
      (List.mem_map.mpr ⟨alert.id, List.mem_filter.mpr ⟨isGlobal.listed, ?_⟩, rfl⟩)
    rw [decide_eq_true_eq]
    intro already
    obtain ⟨mapping, mem, -⟩ := List.mem_map.mp already
    obtain ⟨mem, isOwn⟩ := List.mem_filter.mp mem
    exact unmapped mapping mem (of_decide_eq_true isOwn)

/-- **The filters of a global alert decide its reach exactly on the checks that
match every filter given**: any check created while the alert exists is set up with
it and evaluated against it. -/
theorem filtersDecide_iff (isGlobal : Global alert db)
    (unmapped : ∀ mapping ∈ db.checkMappings, mapping.checkId ≠ id)
    (isCreated : createCheck guards clock id agentId data skipConfigUpdate actorIsAdmin db = .ok created) :
    FiltersDecide alert (data.row id agentId (clock 0)) created ↔
      alert.matchesFilters (data.row id agentId (clock 0)) = true := by
  obtain ⟨after, mapped⟩ := isGlobal.of_created unmapped isCreated
  constructor
  · intro decides
    exact decides.mapped.mp ⟨_, mapped, rfl, rfl⟩
  · intro passes
    exact ⟨iff_of_true ⟨_, mapped, rfl, rfl⟩ passes,
      iff_of_true (after.evaluated mapped rfl rfl rfl) passes⟩

end Create

/-! ## An alert for other checks -/

/-- A global alert for the checks of one type. -/
def typeAlert (checkType : CheckType) : Alert where
  id := 0
  triggerType := .statusChange
  triggerConfig := { checkFilters := some { checkTypes := some [checkType] } }
  isGlobal := true

/-- One agent, and the alert with a provider. -/
def typeAlertDb (checkType : CheckType) : Db where
  alerts := [typeAlert checkType]
  notificationMappings := [{ alertId := 0, notificationProviderId := 5 }]
  providers := [{ id := 5 }]
  agents := [{ id := 3, approvalStatus := .active, createdAt := 0 }]

theorem typeAlert_global (checkType : CheckType) :
    Global (typeAlert checkType) (typeAlertDb checkType) :=
  ⟨List.nodup_singleton _, List.mem_singleton_self _, rfl, rfl, rfl⟩

def webCheck : CheckCreate where
  displayName := text "web"
  checkType := .http
  target := text "https://example.org"

/-- An alert for the http checks reaches one. -/
theorem filtersDecide_http : ∃ created,
    createCheck anyTarget (fun n => n) 1 3 webCheck false true (typeAlertDb .http) = .ok created ∧
      FiltersDecide (typeAlert .http) (webCheck.row 1 3 0) created := by
  have isCreated : createCheck anyTarget (fun n => n) 1 3 webCheck false true (typeAlertDb .http) =
    .ok _ := rfl
  have unmapped : ∀ mapping ∈ (typeAlertDb .http).checkMappings, mapping.checkId ≠ 1 := by
    intro mapping mem
    cases mem
  exact ⟨_, isCreated,
    (filtersDecide_iff (typeAlert_global .http) unmapped isCreated).mpr (by decide)⟩

/-- An alert for the tcp checks is set up on an http check, and notifies when it
fails. -/
theorem http_reached_by_tcp_alert : ∃ created,
    createCheck anyTarget (fun n => n) 1 3 webCheck false true (typeAlertDb .tcp) = .ok created ∧
      ¬ FiltersDecide (typeAlert .tcp) (webCheck.row 1 3 0) created ∧
      (evaluateCheckResult ⟨fun _ _ _ => true, fun _ _ => 0, 60⟩ 2 ⟨9, 1, 3, 2, false, none, []⟩
        (created.addResult ⟨9, 1, 3, 2, false, none, []⟩)).2.map (·.alertId) = [0] := by
  refine ⟨_, rfl, fun decides => ?_, by decide⟩
  have reached : (typeAlert .tcp).matchesFilters (webCheck.row 1 3 0) = true :=
    decides.mapped.mp ⟨⟨0, 1, true, none⟩, by decide, rfl, rfl⟩
  exact absurd reached (by decide)

end LuxSwirl.Server
