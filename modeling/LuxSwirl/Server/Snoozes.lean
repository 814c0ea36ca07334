import LuxSwirl.Server.Passes
import LuxSwirl.Server.Solo

/-!
# Snoozed pairs

While an alert on a check is snoozed, evaluating a result sends nothing for the
pair. A silence pass asks for the snooze only of a silent check: one that reports
again is told of all the same.
-/

namespace LuxSwirl.Server
open LuxSwirl.Py LuxSwirl.Lib

/-- The rows a pair of keys identifies are one each. -/
structure Keyed (alert : Alert) (db : Db) : Prop where
  alertKeys : (db.alerts.map (·.id)).Nodup
  checkKeys : (db.checks.map (·.id)).Nodup
  mappingKeys : (db.checkMappings.map fun mapping => (mapping.alertId, mapping.checkId)).Nodup
  isAlert : alert ∈ db.alerts

/-- The pair is snoozed when the event is evaluated. -/
def SnoozedAt (alert : Alert) (check : Check) (db : Db) : Event → Prop
  | .report _ now => isSnoozed now alert.id check.id db = true
  | .silencePass now _ => isSnoozed now alert.id check.id db = true
  | _ => True

/-- The event sends nothing for the pair. -/
def SilentFor (outside : Outside) (alert : Alert) (check : Check) (db : Db) (event : Event) : Prop :=
  ∀ notice ∈ (step outside event db).2, notice.isOf alert check = false

/-- A check whose silence the pair told of last, and that reports again. -/
structure ReportsAgain (outside : Outside) (now : Time) (alert : Alert) (check : Check) (db : Db)
    (target : Assignment) : Prop where
  isTarget : watchedTarget outside now alert check db = some target
  notifyOnRecovery : alert.notifyOnRecovery = true
  heard : ∃ row last, db.getLastNotificationForDedup alert.id target.check.id = some row ∧
    row.notificationHash = some .checkSilent ∧
    db.latestResultTime target.check.id
      (passSince now alert (noDataTargets alert (assignedAgentsByCheck outside now db) db)) = some last ∧
    row.sentAt < last ∧
    now - silentAfter target.check.intervalSeconds (missedIntervals alert) ≤
      expectedFrom outside now target (some last)

/-- The event is a pass of the alert that finds its check reporting again. -/
def TellsOfReturn (outside : Outside) (alert : Alert) (check : Check) (db : Db) : Event → Prop
  | .silencePass now _ => alert.isPassed db ∧ ∃ target, ReportsAgain outside now alert check db target
  | _ => False

section Evaluate

variable {outside : Outside} {now : Time} {alert : Alert} {check : Check} {checkResult : CheckResult}
  {db : Db}

/-- A fire of a snoozed pair sends nothing. -/
theorem fireAlert_snoozed (snoozed : isSnoozed now alert.id check.id db = true) {written : Written}
    (fired : fireAlert outside now alert check checkResult db = .ok written) : written.notices = [] := by
  obtain ⟨recovery, -, fired⟩ := except_bind_ok.mp fired
  dsimp only at fired
  split at fired
  · cases fired
    rfl
  · obtain ⟨decision, decided, fired⟩ := except_bind_ok.mp fired
    rw [shouldSendNotification, if_pos snoozed] at decided
    cases decided
    cases fired
    rfl

theorem evaluateAlert_snoozed (snoozed : isSnoozed now alert.id check.id db = true) {written : Written}
    (evaluated : evaluateAlert outside now alert check checkResult db = .ok written) :
    written.notices = [] := by
  unfold evaluateAlert at evaluated
  split_ifs at evaluated
  · cases evaluated
    rfl
  · obtain ⟨fires, -, evaluated⟩ := except_bind_ok.mp evaluated
    split_ifs at evaluated
    · exact fireAlert_snoozed snoozed evaluated
    · cases evaluated
      rfl

/-- No alert of a snoozed pair sends anything, whatever its trigger. -/
theorem evaluateAlerts_snoozed (check : Check)
    (snoozed : isSnoozed now alert.id check.id db = true)
    (alerts : List Alert) :
    ∀ notice ∈ (evaluateAlerts outside now check checkResult alerts db).2,
      notice.isOf alert check = false := by
  induction alerts generalizing db with
  | nil => simp [evaluateAlerts]
  | cons first rest ih =>
    rw [evaluateAlerts]
    cases evaluated : evaluateAlert outside now first check checkResult db with
    | error e => exact ih snoozed
    | ok written =>
      intro notice mem
      rcases List.mem_append.mp mem with own | later
      · obtain ⟨sameAlert, -⟩ := (evaluateAlert_about evaluated).notices notice own
        have apart : first.id ≠ alert.id := by
          intro same
          rw [evaluateAlert_snoozed (same ▸ snoozed) evaluated] at own
          cases own
        simp [Notice.isOf, sameAlert, apart]
      · have stillSnoozed : isSnoozed now alert.id check.id (db.addNotificationLogs written.rows) = true :=
          snoozed
        exact ih stillSnoozed notice later

theorem evaluateCheckResult_snoozed (snoozed : isSnoozed now alert.id check.id db = true) :
    ∀ notice ∈ (evaluateCheckResult outside now checkResult db).2, notice.isOf alert check = false := by
  intro notice mem
  rw [evaluateCheckResult] at mem
  split at mem
  · cases mem
  · rename_i own found
    by_cases same : own.id = check.id
    · have := evaluateAlerts_snoozed own (same ▸ snoozed) _ notice mem
      rwa [Notice.isOf, same] at this
    · obtain ⟨-, -, -, ofNotices⟩ := evaluateAlerts_adds outside now own checkResult
        (db.listActiveAlertsForCheck own.id) db
      simp [Notice.isOf, (ofNotices notice mem).2, same]

end Evaluate

section Pass

variable {outside : Outside} {now : Time} {alert : Alert} {check : Check} {db : Db} {target : Assignment}

theorem mem_of_watchedTarget (found : watchedTarget outside now alert check db = some target) :
    target.check.id = check.id ∧ (watchMapping alert target.check db).isSome = true := by
  have mem := List.mem_of_find?_eq_some found
  have watched := (List.mem_filter.mp mem).2
  rw [Bool.and_eq_true] at watched
  exact ⟨by simpa using List.find?_some found, watched.2⟩

/-- A pass sees the snooze that evaluation sees. -/
theorem watchSnoozed_of_isSnoozed (keyed : Keyed alert db)
    (snoozed : isSnoozed now alert.id check.id db = true)
    (found : watchedTarget outside now alert check db = some target) :
    watchSnoozed now alert target.check db = true := by
  obtain ⟨sameCheck, isSome⟩ := mem_of_watchedTarget found
  obtain ⟨watched, isWatched⟩ := Option.isSome_iff_exists.mp isSome
  obtain ⟨snoozedUntil, isUntil, later⟩ := (Option.any_eq_true _ _).mp snoozed
  obtain ⟨mapping, isMapping, isUntil⟩ := Option.bind_eq_some_iff.mp isUntil
  have ids : mapping.alertId = alert.id ∧ mapping.checkId = check.id := by
    simpa using List.find?_some isMapping
  have watchedIds : (watched.alertId = alert.id ∧ watched.checkId = target.check.id) ∧
      watched.isEnabled = true := by
    simpa using List.find?_some isWatched
  have same : watched = mapping := by
    refine List.inj_on_of_nodup_map keyed.mappingKeys (List.mem_of_find?_eq_some isWatched)
      (List.mem_of_find?_eq_some isMapping) ?_
    rw [watchedIds.1.1, watchedIds.1.2, sameCheck, ids.1, ids.2]
  rw [watchSnoozed, isWatched, same, Option.bind_some, isUntil]
  exact later

/-- While snoozed, a pass finds nothing of a check it watches but that it reports again. -/
theorem passFinding_snoozed (snoozed : watchSnoozed now alert target.check db = true) :
    passFinding outside now alert target db = .nothing ∨
      passFinding outside now alert target db = .reporting := by
  unfold passFinding findNoData
  simp only [snoozed, if_true]
  split_ifs
  · exact Or.inr rfl
  · exact Or.inl rfl
  · exact Or.inl rfl

/-- When a pass finds a check reporting again. -/
theorem passFinding_reporting_iff (found : watchedTarget outside now alert check db = some target) :
    passFinding outside now alert target db = .reporting ↔
      ReportsAgain outside now alert check db target := by
  unfold passFinding findNoData
  dsimp only
  constructor
  · intro reporting
    split_ifs at reporting with heard again
    unfold reportsAgain at again
    split at again
    · rename_i row last isRow isLast
      simp only [Bool.and_eq_true, decide_eq_true_eq] at again
      exact ⟨found, again.1.1, row, last, isRow, again.1.2, isLast, again.2, isLast ▸ heard⟩
    · cases again
  · rintro ⟨-, recovery, row, last, isRow, silent, isLast, later, heard⟩
    rw [isLast, isRow, if_pos heard, if_pos]
    simp [reportsAgain, recovery, silent, later]

/-- What a pass sends for a pair. -/
theorem silencePass_notices (keyed : Keyed alert db) (clock : Nat → Time) :
    (silencePass outside now clock db).2.filter (Notice.isOf alert check) =
      match passDecides outside now alert check db with
      | none => []
      | some one => if db.listLiveProviders alert.id = [] then [] else one.notices := by
  have pair := decidePass_pair outside now check keyed.alertKeys keyed.checkKeys keyed.isAlert
  rcases decided : passDecides outside now alert check db with _ | one
  · rw [decided] at pair
    exact (recordNotices_others outside clock pair db).2
  · rw [decided] at pair
    exact (recordNotices_one outside clock pair db).2

/-- While snoozed, a pass sends for a pair exactly when it finds its check reporting again. -/
theorem silencePass_snoozed_iff (keyed : Keyed alert db)
    (snoozed : isSnoozed now alert.id check.id db = true) (clock : Nat → Time) :
    (∀ notice ∈ (silencePass outside now clock db).2, notice.isOf alert check = false) ↔
      ¬ (alert.isPassed db ∧ ∃ target, ReportsAgain outside now alert check db target) := by
  have quiet : (∀ notice ∈ (silencePass outside now clock db).2, notice.isOf alert check = false) ↔
      (silencePass outside now clock db).2.filter (Notice.isOf alert check) = [] := by
    rw [List.filter_eq_nil_iff]
    simp
  rw [quiet, silencePass_notices keyed, passDecides]
  by_cases passed : alert.isPassed db
  · rw [if_pos passed]
    rcases found : watchedTarget outside now alert check db with _ | target
    · refine iff_of_true rfl ?_
      rintro ⟨-, target, again⟩
      cases found.symm.trans again.isTarget
    · have reporting := passFinding_reporting_iff found
      rw [Option.bind_some]
      rcases passFinding_snoozed (watchSnoozed_of_isSnoozed keyed snoozed found) with nothing | finds
      · rw [nothing]
        refine iff_of_true rfl ?_
        rintro ⟨-, other, again⟩
        cases found.symm.trans again.isTarget
        cases nothing.symm.trans (reporting.mpr again)
      · rw [finds]
        refine iff_of_false ?_ (not_not.mpr ⟨passed, target, reporting.mp finds⟩)
        simp [Finding.decided, checkNotice, PassNotice.notices, passed.2.2.2]
  · rw [if_neg passed]
    exact iff_of_true rfl fun returned => passed returned.1

end Pass

section Claim

variable {alert : Alert} {check : Check} {db : Db}

/-- **When a snooze silences.** An event evaluated while the pair is snoozed sends
nothing for it, exactly when it is no pass that finds its check reporting again. -/
theorem silentFor_iff (outside : Outside) (keyed : Keyed alert db) {event : Event}
    (snoozed : SnoozedAt alert check db event) :
    SilentFor outside alert check db event ↔ ¬ TellsOfReturn outside alert check db event := by
  unfold SilentFor TellsOfReturn
  cases event with
  | report checkResult now =>
    refine iff_of_true ?_ id
    rw [step, reportResult]
    split_ifs
    · simp
    · have stillSnoozed : isSnoozed now alert.id check.id (db.addResult checkResult) = true := snoozed
      exact evaluateCheckResult_snoozed stillSnoozed
  | snooze => exact iff_of_true (by simp [step]) id
  | heartbeat => exact iff_of_true (by simp [step]) id
  | silencePass now clock => exact silencePass_snoozed_iff keyed snoozed clock

end Claim

/-- A silent check of an alert, snoozed until long after it reports again. -/
def returnedDb : Db where
  alerts := [{ id := 0, triggerType := .noData }]
  checkMappings := [{ alertId := 0, checkId := 0, snoozedUntil := some (seconds 10000) }]
  notificationMappings := [{ alertId := 0, notificationProviderId := 0 }]
  providers := [{ id := 0 }]
  checks := [soloCheck]
  agents := [{ id := 0, approvalStatus := .active, lastSeen := some (seconds 500), createdAt := 0 }]
  results := [{ id := 0, checkId := 0, agentId := 0, timestamp := seconds 500, success := true }]
  logs :=
    [{ alertId := 0
       notificationProviderId := 0
       checkId := some 0
       status := .sent
       sentAt := seconds 400
       notificationHash := some .checkSilent }]

theorem returnedDb_keyed : Keyed { id := 0, triggerType := .noData } returnedDb := by
  constructor <;> simp [returnedDb, soloCheck]

theorem returnedDb_snoozed {now : Time} (before : now < seconds 10000) (clock : Nat → Time) :
    SnoozedAt { id := 0, triggerType := .noData } soloCheck returnedDb (.silencePass now clock) := by
  show isSnoozed now 0 0 returnedDb = true
  simpa [isSnoozed, Db.getCheckMapping, returnedDb] using before

/-- Nothing is sent for a snoozed pair whose check is silent. -/
theorem silentFor_of_silent :
    SilentFor calm { id := 0, triggerType := .noData } soloCheck returnedDb
      (.silencePass (seconds 1000) fun n => seconds (1000 + n)) := by
  refine (silentFor_iff calm returnedDb_keyed (returnedDb_snoozed (by decide) _)).mpr ?_
  rintro ⟨-, target, isTarget, -, row, last, -, -, isLast, -, -⟩
  have none_ : returnedDb.latestResultTime 0 (passSince (seconds 1000) { id := 0, triggerType := .noData }
      (noDataTargets { id := 0, triggerType := .noData }
        (assignedAgentsByCheck calm (seconds 1000) returnedDb) returnedDb)) = none := by decide
  rw [(mem_of_watchedTarget isTarget).1] at isLast
  cases none_.symm.trans isLast

/-- A snoozed pair is told that its check reports again. -/
theorem snoozed_return_told :
    ¬ ∀ outside alert check db event, Keyed alert db → SnoozedAt alert check db event →
      SilentFor outside alert check db event := by
  intro silent
  have atReturn : seconds 510 < seconds 10000 := by decide
  have told := silent calm _ _ _ _ returnedDb_keyed
    (returnedDb_snoozed atReturn fun n => seconds (510 + n))
  unfold SilentFor at told
  revert told
  decide

end LuxSwirl.Server
