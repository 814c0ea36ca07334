import LuxSwirl.Server.View

/-!
# What a silence pass does to a pair

Among all that a pass decides there is at most one notice about an alert on a
check, `passDecides`; and what the pass adds to the pair's rows and sends for the
pair is that notice's.
-/

namespace LuxSwirl.Server
open LuxSwirl.Py LuxSwirl.Lib

namespace PassNotice

def stateKey : PassNotice → StateKey
  | .send notice => notice.stateKey
  | .suppress _ _ => .checkSuppressed

def isResend : PassNotice → Bool
  | .send notice => notice.decision.isResend
  | .suppress _ _ => false

/-- The notifications of a decided notice. -/
def notices : PassNotice → List Notice
  | .send notice => [notice]
  | .suppress _ _ => []

/-- The agent of an alert on agents. -/
def agentId : PassNotice → Option Id
  | .send notice => notice.agentId
  | .suppress _ _ => none

def isOf (alert : Alert) (check : Check) (decided : PassNotice) : Bool :=
  decide (decided.alertId = alert.id ∧ decided.checkId = some check.id)

end PassNotice

/-- What a pass decides on a finding about a check. -/
def Finding.decided (alert : Alert) (check : Check) : Finding → Option PassNotice
  | .nothing => none
  | .reporting => some (checkNotice alert check .checkReporting true .fresh)
  | .agentsSilent => some (.suppress alert.id check.id)
  | .silent decision => some (checkNotice alert check .checkSilent false decision)

/-- How far back a pass looks for results. -/
def passSince (now : Time) (alert : Alert) (targets : List Assignment) : Time :=
  ((targets.map fun target =>
    now - silentAfter target.check.intervalSeconds (missedIntervals alert)).min?).getD now

/-- What a pass finds for a check it watches. -/
def passFinding (outside : Outside) (now : Time) (alert : Alert) (target : Assignment) (db : Db) :
    Finding :=
  findNoData outside now
    (passSince now alert (noDataTargets alert (assignedAgentsByCheck outside now db) db)) alert target db

/-- The check as a pass of the alert watches it. -/
def watchedTarget (outside : Outside) (now : Time) (alert : Alert) (check : Check) (db : Db) :
    Option Assignment :=
  (noDataTargets alert (assignedAgentsByCheck outside now db) db).find? fun target =>
    decide (target.check.id = check.id)

/-- A pass evaluates the alert: an enabled `no_data` alert with a live provider. -/
def Alert.isPassed (alert : Alert) (db : Db) : Prop :=
  alert.triggerType = .noData ∧ alert.isEnabled = true ∧ alert.deletedAt = none ∧
    db.listLiveProviders alert.id ≠ []

instance (alert : Alert) (db : Db) : Decidable (alert.isPassed db) := by
  unfold Alert.isPassed
  infer_instance

/-- What a pass decides for the pair. -/
def passDecides (outside : Outside) (now : Time) (alert : Alert) (check : Check) (db : Db) :
    Option PassNotice :=
  if alert.isPassed db then
    (watchedTarget outside now alert check db).bind fun target =>
      (passFinding outside now alert target db).decided alert target.check
  else none

section Decide

variable {outside : Outside} {now : Time} {alert : Alert} {check : Check} {db : Db}

/-- Of what is decided for some items, one thing at most is about one of them. -/
theorem filter_decided {α : Type*} {items : List α} {key : α → Id} (keys : (items.map key).Nodup) (id : Id)
    {decide_ : α → Option PassNotice} {isOwn : PassNotice → Bool}
    (about : ∀ item one, decide_ item = some one → isOwn one = decide (key item = id)) :
    (items.filterMap decide_).filter isOwn =
      ((items.find? fun item => decide (key item = id)).bind decide_).toList := by
  induction items with
  | nil => rfl
  | cons item rest ih =>
    rw [List.map_cons, List.nodup_cons] at keys
    have tail := ih keys.2
    by_cases own : key item = id
    · have absent : (rest.find? fun item => decide (key item = id)) = none := by
        rw [List.find?_eq_none]
        intro other mem same
        refine keys.1 (List.mem_map.mpr ⟨other, mem, ?_⟩)
        rw [of_decide_eq_true same, own]
      rw [absent] at tail
      rw [List.find?_cons_of_pos (by simpa using own), Option.bind_some, List.filterMap_cons]
      cases decided : decide_ item with
      | none => exact tail
      | some one =>
        rw [List.filter_cons_of_pos (by simp [about item one decided, own]), tail]
        rfl
    · rw [List.find?_cons_of_neg (by simpa using own), List.filterMap_cons]
      cases decided : decide_ item with
      | none => exact tail
      | some one =>
        rw [List.filter_cons_of_neg (by simp [about item one decided, own])]
        exact tail

/-- What a pass of the alert decides for the check. -/
theorem decideNoData_pair (keys : (db.checks.map (·.id)).Nodup) :
    (decideNoData outside now alert (assignedAgentsByCheck outside now db) db).filter
        (PassNotice.isOf alert check) =
      ((watchedTarget outside now alert check db).bind fun target =>
        (passFinding outside now alert target db).decided alert target.check).toList := by
  have targetKeys : ((noDataTargets alert (assignedAgentsByCheck outside now db) db).map
      (·.check.id)).Nodup := by
    have all : (assignedAgentsByCheck outside now db).map (·.check.id) = db.listEnabled.map (·.id) := by
      rw [assignedAgentsByCheck, List.map_map]
      refine List.map_congr_left fun own _ => ?_
      dsimp only [Function.comp]
      unfold assignment
      cases own.assignmentMode <;> rfl
    refine (List.filter_sublist.map _).nodup ?_
    rw [all]
    exact (List.filter_sublist.map _).nodup keys
  rw [decideNoData, List.filter_append]
  refine (congrArg₂ (· ++ ·) (filter_decided targetKeys check.id ?_) (filter_decided targetKeys check.id ?_)).trans ?_
  · intro target one decided
    split at decided <;> cases decided <;> simp [PassNotice.isOf, PassNotice.alertId, PassNotice.checkId, checkNotice]
  · intro target one decided
    split at decided <;> cases decided
    simp [PassNotice.isOf, PassNotice.alertId, PassNotice.checkId, checkNotice]
  · rw [watchedTarget]
    rcases (noDataTargets alert (assignedAgentsByCheck outside now db) db).find? _ with _ | target
    · rfl
    · simp only [Option.bind_some]
      have found : passFinding outside now alert target db = findNoData outside now
        (passSince now alert (noDataTargets alert (assignedAgentsByCheck outside now db) db)) alert target
          db := rfl
      rw [found, passSince]
      cases findNoData outside now _ alert target db <;> rfl

/-- Alerts on agents decide nothing about checks. -/
theorem decideAgentOffline_pair (assigned : List Assignment) :
    (decideAgentOffline outside now alert assigned db).filter (PassNotice.isOf alert check) = [] := by
  rw [List.filter_eq_nil_iff]
  intro one mem
  obtain ⟨agent, -, found⟩ := List.mem_filterMap.mp mem
  unfold findAgentOffline at found
  dsimp only at found
  split_ifs at found
  · split at found
    · split_ifs at found
      cases found
      simp [PassNotice.isOf, PassNotice.checkId]
    · cases found
  · cases found
    simp [PassNotice.isOf, PassNotice.checkId]

/-- What a pass decides on an alert is what it decides when it comes to it. -/
theorem decidePass_filter (outside : Outside) (now : Time) (alertKeys : (db.alerts.map (·.id)).Nodup)
    (isAlert : alert ∈ db.alerts) {isOwn : PassNotice → Bool}
    (own : ∀ one, isOwn one = true → one.alertId = alert.id) :
    (decidePass outside now db).filter isOwn =
      if (decide (alert.triggerType ∈ [AlertTriggerType.noData, .agentOffline]) &&
          alert.isEnabled && alert.deletedAt.isNone) = true then
        (decideAlert outside now (assignedAgentsByCheck outside now db) db alert).filter isOwn
      else [] := by
  obtain ⟨front, back, split⟩ := List.append_of_mem isAlert
  have others : ∀ other ∈ front ++ back, other.id ≠ alert.id := by
    rw [split, List.map_append, List.map_cons] at alertKeys
    rw [List.perm_middle.nodup_iff, List.nodup_cons, ← List.map_append] at alertKeys
    intro other mem same
    exact alertKeys.1 (same ▸ List.mem_map_of_mem mem)
  have quiet (alerts : List Alert) (listed : Alert → Bool)
      (apart : ∀ other ∈ alerts, other.id ≠ alert.id) :
      ((alerts.filter listed).flatMap
        (decideAlert outside now (assignedAgentsByCheck outside now db) db)).filter isOwn = [] := by
    rw [List.filter_eq_nil_iff]
    intro one mem isOne
    obtain ⟨other, within, decided⟩ := List.mem_flatMap.mp mem
    exact apart other (List.mem_of_mem_filter within) ((decideAlert_about decided).symm.trans (own one isOne))
  have before (listed : Alert → Bool) := quiet front listed fun other mem =>
    others other (List.mem_append_left _ mem)
  have after (listed : Alert → Bool) := quiet back listed fun other mem =>
    others other (List.mem_append_right _ mem)
  rw [decidePass, Db.listEnabledAlertsByTrigger, split, List.filter_append, List.flatMap_append,
    List.filter_append, before, List.nil_append, List.filter_cons]
  split_ifs with listed
  · rw [List.flatMap_cons, List.filter_append, after, List.append_nil]
  · exact after _

/-- **A pass decides one thing at most about a pair.** -/
theorem decidePass_pair (outside : Outside) (now : Time) (check : Check)
    (alertKeys : (db.alerts.map (·.id)).Nodup)
    (checkKeys : (db.checks.map (·.id)).Nodup) (isAlert : alert ∈ db.alerts) :
    (decidePass outside now db).filter (PassNotice.isOf alert check) =
      (passDecides outside now alert check db).toList := by
  rw [decidePass_filter outside now alertKeys isAlert fun one isOne => (of_decide_eq_true isOne).1]
  unfold passDecides
  split_ifs with listed passed passed
  · rw [decideAlert, if_neg passed.2.2.2, if_pos passed.1, decideNoData_pair checkKeys]
  · simp only [Bool.and_eq_true, decide_eq_true_eq, Option.isNone_iff_eq_none] at listed
    rw [decideAlert]
    split_ifs with provider type
    · rfl
    · exact absurd ⟨type, listed.1.2, listed.2, provider⟩ passed
    · exact decideAgentOffline_pair _
  · exact absurd (by simp [passed.1, passed.2.1, passed.2.2.1]) listed
  · rfl

end Decide

/-! ## Recording -/

section Record

variable {alert : Alert} {check : Check}

/-- The rows of a decided notice. -/
structure RecordedAs (one : PassNotice) (now : Time) (row : NotificationLog) : Prop where
  alertId : row.alertId = one.alertId
  checkId : row.checkId = one.checkId
  sentAt : row.sentAt = now
  relevant : row.status ∈ dedupRelevantStatuses
  stateKey : row.notificationHash = some one.stateKey
  isResend : row.isResend = one.isResend

/-- Recording a notice never fails: a row for each live provider, and the
notification when there is one. -/
theorem recordNotice_ok (outside : Outside) (now : Time) (one : PassNotice) (db : Db) :
    ∃ written, recordNotice outside now one db = .ok written ∧
      written.notices = (if db.listLiveProviders one.alertId = [] then [] else one.notices) ∧
      (written.rows = [] ↔ db.listLiveProviders one.alertId = []) ∧
      ∀ row ∈ written.rows, RecordedAs one now row := by
  cases one with
  | suppress alertId checkId =>
    refine ⟨_, rfl, ?_, by rw [List.map_eq_nil_iff, PassNotice.alertId], fun row mem => ?_⟩
    · simp [PassNotice.notices]
    · obtain ⟨provider, -, rfl⟩ := List.mem_map.mp mem
      exact ⟨rfl, rfl, rfl, suppressed_relevant, rfl, rfl⟩
  | send notice =>
    refine ⟨_, by rw [recordNotice, sendToProviders_eq]; rfl, ?_, ?_, fun row mem => ?_⟩
    · simp only [List.map_eq_nil_iff]
      rfl
    · exact List.map_eq_nil_iff
    · obtain ⟨provider, -, rfl⟩ := List.mem_map.mp mem
      exact ⟨rfl, rfl, rfl, attempt_relevant .., rfl, rfl⟩

/-- What a notice writes names its alert, its check and its agent. -/
theorem recordNotice_names {outside : Outside} {now : Time} {one : PassNotice} {db : Db} {written : Written}
    (recorded : recordNotice outside now one db = .ok written) :
    ∀ row ∈ written.rows, row.alertId = one.alertId ∧ row.checkId = one.checkId ∧ row.agentId = one.agentId ∧
      row.status ∈ dedupRelevantStatuses := by
  intro row mem
  cases one with
  | suppress alertId checkId =>
    cases recorded
    obtain ⟨provider, -, rfl⟩ := List.mem_map.mp mem
    exact ⟨rfl, rfl, rfl, suppressed_relevant⟩
  | send notice =>
    rw [recordNotice, sendToProviders_eq] at recorded
    cases recorded
    obtain ⟨provider, -, rfl⟩ := List.mem_map.mp mem
    exact ⟨rfl, rfl, rfl, attempt_relevant ..⟩

/-! A kind of row, and the notices that write it. -/

section Own

variable {outside : Outside} {isOwn : PassNotice → Bool} {isRow : NotificationLog → Bool}

/-- A notice writes rows of the kind, or none. -/
theorem logs_recordNotice
    (agrees : ∀ now one db written, recordNotice outside now one db = .ok written →
      ∀ row ∈ written.rows, isRow row = isOwn one)
    {now : Time} {one : PassNotice} {db : Db} {written : Written}
    (recorded : recordNotice outside now one db = .ok written) :
    (db.addNotificationLogs written.rows).logs.filter isRow =
      db.logs.filter isRow ++ if isOwn one then written.rows else [] := by
  have each := agrees now one db written recorded
  rw [Db.addNotificationLogs, List.filter_append]
  refine congrArg (db.logs.filter isRow ++ ·) ?_
  split_ifs with own
  · exact List.filter_eq_self.mpr fun row mem => (each row mem).trans own
  · exact List.filter_eq_nil_iff.mpr fun row mem => by rwa [each row mem]

theorem recordNotices_none
    (agrees : ∀ now one db written, recordNotice outside now one db = .ok written →
      ∀ row ∈ written.rows, isRow row = isOwn one) (clock : Nat → Time) {decided : List PassNotice}
    (others : decided.filter isOwn = []) (db : Db) :
    (recordNotices outside clock decided db).1.logs.filter isRow = db.logs.filter isRow := by
  induction decided generalizing clock db with
  | nil => rfl
  | cons first rest ih =>
    obtain ⟨written, recorded, -⟩ := recordNotice_ok outside (clock 0) first db
    obtain ⟨notOwn, others⟩ : isOwn first = false ∧ rest.filter isOwn = [] := by
      cases own : isOwn first with
      | false => exact ⟨rfl, by rwa [List.filter_cons_of_neg (by simp [own])] at others⟩
      | true =>
        rw [List.filter_cons_of_pos own] at others
        cases others
    rw [recordNotices, recorded]
    refine (ih _ others (db.addNotificationLogs written.rows)).trans ?_
    rw [logs_recordNotice agrees recorded, notOwn, if_neg Bool.false_ne_true, List.append_nil]

/-- Of one notice that writes them, a pass adds the rows that it writes, after some others. -/
theorem recordNotices_single
    (agrees : ∀ now one db written, recordNotice outside now one db = .ok written →
      ∀ row ∈ written.rows, isRow row = isOwn one) (clock : Nat → Time) {decided : List PassNotice}
    {one : PassNotice} (only : decided.filter isOwn = [one]) (db : Db) :
    ∃ n others written, recordNotice outside (clock n) one (db.addNotificationLogs others) = .ok written ∧
      (recordNotices outside clock decided db).1.logs.filter isRow = db.logs.filter isRow ++ written.rows := by
  induction decided generalizing clock db with
  | nil => cases only
  | cons first rest ih =>
    obtain ⟨written, recorded, -⟩ := recordNotice_ok outside (clock 0) first db
    rw [recordNotices, recorded]
    cases own : isOwn first with
    | true =>
      rw [List.filter_cons_of_pos own] at only
      obtain ⟨rfl, others⟩ := List.cons.inj only
      refine ⟨0, [], written, ?_, ?_⟩
      · rw [Db.addNotificationLogs, List.append_nil]
        exact recorded
      · refine (recordNotices_none agrees _ others (db.addNotificationLogs written.rows)).trans ?_
        rw [logs_recordNotice agrees recorded, if_pos own]
    | false =>
      rw [List.filter_cons_of_neg (by simp [own])] at only
      obtain ⟨n, others, written', recorded', added⟩ :=
        ih (fun n => clock (n + 1)) only (db.addNotificationLogs written.rows)
      refine ⟨n + 1, written.rows ++ others, written', ?_, added.trans ?_⟩
      · rw [← recorded', Db.addNotificationLogs, Db.addNotificationLogs, Db.addNotificationLogs,
          List.append_assoc]
      · rw [logs_recordNotice agrees recorded, own, if_neg Bool.false_ne_true, List.append_nil]

end Own

/-- Recording what is about others leaves the pair alone. -/
theorem recordNotices_others (outside : Outside) (clock : Nat → Time) {decided : List PassNotice}
    (others : decided.filter (PassNotice.isOf alert check) = []) (db : Db) :
    (recordNotices outside clock decided db).1.pairRows alert.id check.id =
        db.pairRows alert.id check.id ∧
      (recordNotices outside clock decided db).2.filter (Notice.isOf alert check) = [] := by
  have apart : ∀ one ∈ decided, one.alertId ≠ alert.id ∨ one.checkId ≠ some check.id := by
    intro one mem
    have := (List.filter_eq_nil_iff.mp others) one mem
    simpa [PassNotice.isOf, imp_iff_not_or] using this
  obtain ⟨rows, added, ofRows, ofNotices⟩ := recordNotices_adds outside clock decided db
  constructor
  · rw [added]
    refine pairRows_of_others _ fun row mem => ?_
    obtain ⟨one, within, sameAlert, sameCheck⟩ := ofRows row mem
    rw [sameAlert, sameCheck]
    exact apart one within
  · refine notices_of_others fun notice mem => ?_
    obtain ⟨one, within, sameAlert, sameCheck⟩ := ofNotices notice mem
    rw [sameAlert, sameCheck]
    exact apart one within

/-- Of one notice about the pair, recording adds the rows at one reading of the clock. -/
theorem recordNotices_one (outside : Outside) (clock : Nat → Time) {decided : List PassNotice} {one : PassNotice}
    (only : decided.filter (PassNotice.isOf alert check) = [one]) (db : Db) :
    (∃ n new, (recordNotices outside clock decided db).1.pairRows alert.id check.id =
        db.pairRows alert.id check.id ++ new ∧
        (new = [] ↔ db.listLiveProviders alert.id = []) ∧ ∀ row ∈ new, RecordedAs one (clock n) row) ∧
      (recordNotices outside clock decided db).2.filter (Notice.isOf alert check) =
        if db.listLiveProviders alert.id = [] then [] else one.notices := by
  induction decided generalizing clock db with
  | nil => cases only
  | cons first rest ih =>
    obtain ⟨written, recorded, notices, empty, each⟩ := recordNotice_ok outside (clock 0) first db
    have whole : recordNotices outside clock (first :: rest) db =
        ((recordNotices outside (fun n => clock (n + 1)) rest (db.addNotificationLogs written.rows)).1,
          written.notices ++
            (recordNotices outside (fun n => clock (n + 1)) rest
              (db.addNotificationLogs written.rows)).2) := by
      rw [recordNotices, recorded]
    have providers : (db.addNotificationLogs written.rows).listLiveProviders alert.id =
        db.listLiveProviders alert.id := rfl
    rw [whole]
    cases own : PassNotice.isOf alert check first with
    | true =>
      rw [List.filter_cons_of_pos own] at only
      obtain ⟨rfl, others⟩ := List.cons.inj only
      obtain ⟨same, quiet⟩ := recordNotices_others outside (fun n => clock (n + 1)) others
        (db.addNotificationLogs written.rows)
      obtain ⟨sameAlert, sameCheck⟩ := of_decide_eq_true own
      refine ⟨⟨0, written.rows, ?_, sameAlert ▸ empty, each⟩, ?_⟩
      · rw [same, pairRows_addLogs, List.filter_eq_self.mpr]
        intro row mem
        have is := each row mem
        simp [is.alertId, is.checkId, is.relevant, sameAlert, sameCheck]
      · rw [List.filter_append, quiet, List.append_nil, List.filter_eq_self.mpr, notices, sameAlert]
        intro notice mem
        obtain ⟨ofAlert, ofCheck⟩ := (recordNotice_about recorded).2 notice mem
        simp [Notice.isOf, ofAlert, ofCheck, sameAlert, sameCheck]
    | false =>
      rw [List.filter_cons_of_neg (by simp [own])] at only
      obtain ⟨⟨n, new, added, nonempty, ofNew⟩, sent⟩ :=
        ih (fun n => clock (n + 1)) only (db.addNotificationLogs written.rows)
      have apart : first.alertId ≠ alert.id ∨ first.checkId ≠ some check.id := by
        simpa [PassNotice.isOf, imp_iff_not_or] using own
      have unchanged : (db.addNotificationLogs written.rows).pairRows alert.id check.id =
          db.pairRows alert.id check.id := pairRows_of_others db fun row mem => by
        rw [(each row mem).alertId, (each row mem).checkId]
        exact apart
      have quiet : written.notices.filter (Notice.isOf alert check) = [] :=
        notices_of_others fun notice mem => by
          obtain ⟨ofAlert, ofCheck⟩ := (recordNotice_about recorded).2 notice mem
          rw [ofAlert, ofCheck]
          exact apart
      rw [unchanged] at added
      refine ⟨⟨n + 1, new, added, nonempty, ofNew⟩, ?_⟩
      rw [List.filter_append, quiet, List.nil_append, sent, providers]

end Record

end LuxSwirl.Server
