import LuxSwirl.Lib.Distinct
import LuxSwirl.Lib.Reminders
import LuxSwirl.Server.Silences

/-!
# Resends

While an alert stays in one state it is told of once, and then again as its resend
settings say. No count is kept besides the log: every evaluation of a result, and every
silence pass, makes out from the newest row whether it sends, and as which resend.

What each of them does is `Records` of one decision, and `resendLaw` is about every run.
-/

namespace LuxSwirl.Server
open LuxSwirl.Py LuxSwirl.Lib

/-- What an alert tells of: a check, or an agent for an `agent_offline` alert. -/
inductive Subject where
  | check (check : Check)
  | agent (agentId : Id)

/-- The rows that say an evaluation of it was recorded. -/
def Db.subjectRows (db : Db) (alertId : Id) : Subject → List NotificationLog
  | .check check => db.pairRows alertId check.id
  | .agent agentId => db.logs.filter fun row =>
      decide (row.alertId = alertId ∧ row.agentId = some agentId ∧ row.status ∈ dedupRelevantStatuses)

/-! ## Evaluations -/

/-- A result of the same check and time is stored. -/
def Db.isStored (db : Db) (checkResult : CheckResult) : Bool :=
  db.results.any fun old => decide (old.checkId = checkResult.checkId ∧ old.timestamp = checkResult.timestamp)

/-- The agent among those a pass of the alert looks at. -/
def watchedAgent (outside : Outside) (now : Time) (alert : Alert) (agentId : Id) (db : Db) : Option Agent :=
  (coveredAgents alert (assignedAgentsByCheck outside now db) db).find? fun agent => decide (agent.id = agentId)

/-- A pass evaluates the alert: an enabled `agent_offline` alert with a live provider. -/
def Alert.watchesAgents (alert : Alert) (db : Db) : Prop :=
  alert.triggerType = .agentOffline ∧ alert.isEnabled = true ∧ alert.deletedAt = none ∧
    db.listLiveProviders alert.id ≠ []

/-- The alert finds the subject in the state, at an evaluation made at a time. -/
inductive Finds (outside : Outside) (alert : Alert) (stateKey : StateKey) (db : Db) : Subject → Event → Time → Prop
  /-- A result is reported, on which the trigger is met; no snooze holds it, and no
  parent that is down. -/
  | result {check : Check} {checkResult : CheckResult} {now : Time} (notSilence : alert.NotSilence)
      (isCheck : checkResult.checkId = check.id) (isNew : db.isStored checkResult = false)
      (fires : shouldFireAlert alert check checkResult (db.addResult checkResult) = .ok true)
      (state : computeAlertStateKey alert checkResult = .ok stateKey)
      (unmasked : parentIsDown check (db.addResult checkResult) = true → isRecovery alert checkResult = .ok true)
      (unsnoozed : isSnoozed now alert.id check.id db = false) :
      Finds outside alert stateKey db (.check check) (.report checkResult now) now
  /-- A pass finds the check silent on its own account, and not snoozed. A result
  would have ended a silence told of. -/
  | silence {check : Check} {target : Assignment} {now : Time} {clock : Nat → Time} (isPassed : alert.isPassed db)
      (isTarget : watchedTarget outside now alert check db = some target) (state : stateKey = .checkSilent)
      (silent : expectedFrom outside now target (db.latestResultTime target.check.id
        (passSince now alert (noDataTargets alert (assignedAgentsByCheck outside now db) db))) <
          now - silentAfter target.check.intervalSeconds (missedIntervals alert))
      (own : ¬ target.agents.all (fun agent => agentOffline outside agent now) = true)
      (unsnoozed : watchSnoozed now alert target.check db = false)
      (goesOn : ∀ row, LastSilent alert check db row → ¬ HeardSince check db row.sentAt) :
      Finds outside alert stateKey db (.check check) (.silencePass now clock) now
  /-- A pass finds the agent offline. A heartbeat would have ended an outage told of. -/
  | outage {agentId : Id} {agent : Agent} {now : Time} {clock : Nat → Time} (watches : alert.watchesAgents db)
      (isAgent : watchedAgent outside now alert agentId db = some agent) (state : stateKey = .agentOffline)
      (offline : agentOffline outside agent now (missedIntervals alert) = true)
      (goesOn : ∀ row, db.lastNotificationForAgent alert.id agentId = some row →
        row.notificationHash = some .agentOffline → ∀ last, agent.lastSeen = some last → last ≤ row.sentAt) :
      Finds outside alert stateKey db (.agent agentId) (.silencePass now clock) now

/-- The event evaluates the alert on the subject. -/
inductive Evaluates (outside : Outside) (alert : Alert) (db : Db) : Subject → Event → Prop
  | result {check : Check} {checkResult : CheckResult} {now : Time} (notSilence : alert.NotSilence)
      (isCheck : checkResult.checkId = check.id) (isNew : db.isStored checkResult = false) :
      Evaluates outside alert db (.check check) (.report checkResult now)
  | silence {check : Check} {target : Assignment} {now : Time} {clock : Nat → Time} (isPassed : alert.isPassed db)
      (isTarget : watchedTarget outside now alert check db = some target) :
      Evaluates outside alert db (.check check) (.silencePass now clock)
  | outage {agentId : Id} {agent : Agent} {now : Time} {clock : Nat → Time} (watches : alert.watchesAgents db)
      (isAgent : watchedAgent outside now alert agentId db = some agent) :
      Evaluates outside alert db (.agent agentId) (.silencePass now clock)

/-- Nothing was recorded later than now, and nothing will be recorded earlier. -/
def ClockRuns (db : Db) : Event → Prop
  | .report _ now => ∀ row ∈ db.logs, row.sentAt ≤ now
  | .silencePass now clock => (∀ row ∈ db.logs, row.sentAt ≤ now) ∧ ∀ n, now ≤ clock n
  | _ => True

/-- **The alert stays triggered**: every evaluation of the subject finds it in the state. -/
structure StaysTriggered (outside : Outside) (alert : Alert) (stateKey : StateKey) (subject : Subject) (db : Db)
    (event : Event) : Prop where
  finds : Evaluates outside alert db subject event → ∃ now, Finds outside alert stateKey db subject event now
  clock : ClockRuns db event

/-! ## The law -/

/-- The alert's resend settings. -/
def Alert.reminders (alert : Alert) : Reminders Time where
  interval := alert.resendIntervalMinutes.map fun interval : Nat => minutes interval
  limit := alert.maxResends

/-- When a notification was recorded, and as which resend. -/
def NotificationLog.entry (row : NotificationLog) : Time × Nat := (row.sentAt, row.resendCount)

/-- The notifications of one state, oldest first: a fresh one, then resends. -/
structure ResendLaw (alert : Alert) (stateKey : StateKey) (rows : List NotificationLog) : Prop where
  state : ∀ row ∈ rows, row.notificationHash = some stateKey
  isResend : ∀ row ∈ rows, row.isResend = decide (0 < row.resendCount)
  /-- They count 0, 1, 2, …, are an interval apart, and no more than `max_resends`. -/
  reminders : alert.reminders.Lawful (rows.map NotificationLog.entry)
  once : alert.resendIntervalMinutes = none → rows.length ≤ 1

/-- A resend is due at a time: its interval has passed, and resends are left. -/
def ResendDue (alert : Alert) (now : Time) (last : NotificationLog) : Prop :=
  ∃ interval, alert.resendIntervalMinutes = some interval ∧ last.sentAt + minutes interval ≤ now ∧
    ∀ limit, alert.maxResends = some limit → last.resendCount < limit

/-- The alert is set up on a check, with one live provider; it tells of the check, or
for an `agent_offline` alert of an agent. -/
structure SetUp (alert : Alert) (check : Check) (subject : Subject) (db : Db) : Prop where
  watched : Watched alert check db
  checkKeys : (db.checks.map (·.id)).Nodup
  agentKeys : (db.agents.map (·.id)).Nodup
  provider : (db.listLiveProviders alert.id).length = 1
  kind : match subject with
    | .check own => own = check ∧ alert.triggerType ≠ .agentOffline
    | .agent _ => alert.triggerType = .agentOffline

/-- Every row of the subject records a state, and the newest another than this one. -/
structure Enters (alert : Alert) (stateKey : StateKey) (check : Check) (subject : Subject) (db : Db) : Prop
    extends SetUp alert check subject db where
  hashed : ∀ row ∈ db.subjectRows alert.id subject, row.notificationHash.isSome = true
  enters : ∀ row, newest (·.sentAt) (db.subjectRows alert.id subject) = some row →
    row.notificationHash ≠ some stateKey

/-! ## One decision -/

/-- What is decided on the newest row. -/
def decisionAt (now : Time) (alert : Alert) (stateKey : StateKey) (last : Option NotificationLog) : SendDecision :=
  match last with
  | none => .fresh
  | some row => if row.notificationHash = some stateKey then resendDecision now alert row else .fresh

/-- What a decision writes: nothing, or one row that records it. -/
inductive Records (stateKey : StateKey) (now : Time) (decision : SendDecision) : List NotificationLog → Prop
  | skip (skips : decision.send = false) : Records stateKey now decision []
  | send {row : NotificationLog} (sends : decision.send = true) (later : now ≤ row.sentAt)
      (state : row.notificationHash = some stateKey) (isResend : row.isResend = decision.isResend)
      (count : row.resendCount = decision.resendCount) : Records stateKey now decision [row]

section Step

variable {outside : Outside} {alert : Alert} {check : Check} {subject : Subject} {stateKey : StateKey} {db : Db}

/-- The rows of a notice, with one live provider. -/
theorem records_sent (notice : Notice) (db : Db) {now recorded : Time} {decision : SendDecision}
    (isDecision : notice.decision = decision) (state : notice.stateKey = stateKey) (sends : decision.send = true)
    (later : now ≤ recorded) (provider : (db.listLiveProviders notice.alertId).length = 1) :
    Records stateKey now decision ((db.listLiveProviders notice.alertId).map fun provider =>
      notice.row recorded provider.id (attempt outside recorded notice.context provider db)) := by
  obtain ⟨only, isOnly⟩ := List.length_eq_one_iff.mp provider
  rw [isOnly]
  subst isDecision
  exact .send sends later (congrArg some state) rfl rfl

/-! ### A result -/

/-- Whether a fire is of a recovery is known where its state is. -/
theorem exists_isRecovery {checkResult : CheckResult}
    (state : computeAlertStateKey alert checkResult = .ok stateKey) :
    ∃ recovery, isRecovery alert checkResult = .ok recovery := by
  rw [isRecovery]
  split_ifs
  · exact ⟨false, rfl⟩
  · split
    · rw [state]
      exact ⟨_, rfl⟩
    · exact ⟨_, rfl⟩

/-- The policy of an alert that is triggered in a state. -/
def statePolicy (alert : Alert) (stateKey : StateKey) (recovery : Bool) : Policy CheckResult StateKey Time where
  fires _ _ := true
  key _ := stateKey
  recovers _ := recovery
  mask := .parentDown
  resend := resendDue alert

/-- An evaluation that is not snoozed decides on the newest row. -/
theorem shouldSend_eq {checkResult : CheckResult} {now : Time} (hashed : Hashed alert check db)
    (state : computeAlertStateKey alert checkResult = .ok stateKey)
    (unsnoozed : isSnoozed now alert.id check.id db = false) :
    shouldSendNotification now alert check checkResult db =
      .ok (decisionAt now alert stateKey (db.getLastNotificationForDedup alert.id check.id)) := by
  rw [shouldSendNotification, unsnoozed, if_neg Bool.false_ne_true]
  cases last : db.getLastNotificationForDedup alert.id check.id with
  | none => rfl
  | some row =>
    obtain ⟨key, hash⟩ := Option.isSome_iff_exists.mp (hashed row (mem_of_newest _ last))
    have changed : stateChangedSince alert checkResult row db = .ok (decide (key ≠ stateKey)) := by
      rw [stateChangedSince, hash, state]
      simp [Except.map, bne, BEq.beq]
    by_cases same : key = stateKey
    · simp [changed, decisionAt, hash, same, bind, Except.bind, pure, Except.pure]
    · simp [changed, decisionAt, hash, same, bind, Except.bind, pure, Except.pure]

theorem result_records {checkResult : CheckResult} {now : Time} (watched : Watched alert check db)
    (provider : (db.listLiveProviders alert.id).length = 1) (hashed : Hashed alert check db)
    (notSilence : alert.NotSilence) (isCheck : checkResult.checkId = check.id) (isNew : db.isStored checkResult = false)
    (fires : shouldFireAlert alert check checkResult (db.addResult checkResult) = .ok true)
    (state : computeAlertStateKey alert checkResult = .ok stateKey)
    (unmasked : parentIsDown check (db.addResult checkResult) = true → isRecovery alert checkResult = .ok true)
    (unsnoozed : isSnoozed now alert.id check.id db = false) (clock : ∀ row ∈ db.logs, row.sentAt ≤ now) :
    ∃ new, (step outside (.report checkResult now) db).1.pairRows alert.id check.id =
        db.pairRows alert.id check.id ++ new ∧
      Records stateKey now (decisionAt now alert stateKey (db.getLastNotificationForDedup alert.id check.id)) new := by
  obtain ⟨recovery, isRecovers⟩ := exists_isRecovery state
  have obeys : Obeys (statePolicy alert stateKey recovery) alert check checkResult (db.resultsOf check.id)
      (db.addResult checkResult) := ⟨notSilence, fires, state, isRecovers, rfl, rfl⟩
  have apart : ∀ old ∈ db.resultsOf check.id, old.timestamp ≠ checkResult.timestamp := by
    intro old mem same
    obtain ⟨stored, sameCheck⟩ := List.mem_filter.mp mem
    refine Bool.eq_false_iff.mp isNew (List.any_eq_true.mpr ⟨old, stored, ?_⟩)
    exact decide_eq_true ⟨(of_decide_eq_true sameCheck).trans isCheck.symm, same⟩
  obtain ⟨others, new, added, -, isNew⟩ := (step_obeys outside watched hashed isCheck apart
    (fun row mem => clock row (List.mem_of_mem_filter mem)) obeys).wrote
  refine ⟨new, added, ?_⟩
  -- what the policy sends is the decision of the source
  obtain ⟨decision, decided, sends⟩ := shouldSend_obeys now obeys hashed
  have isDecision := decided.symm.trans (shouldSend_eq hashed state unsnoozed)
  rw [Except.ok.injEq] at isDecision
  have opens : ((inputOf alert check now checkResult (db.addResult checkResult)).masked && !recovery) = false := by
    show (parentIsDown check (db.addResult checkResult) && !recovery) = false
    cases down : parentIsDown check (db.addResult checkResult) with
    | false => rfl
    | true =>
      rw [unmasked down, Except.ok.injEq] at isRecovers
      rw [← isRecovers]
      rfl
  have stepped := @Policy.step_open CheckResult StateKey Time _ (statePolicy alert stateKey recovery)
    (inputOf alert check now checkResult (db.addResult checkResult)) (view alert check db) rfl opens
  rw [isNew, stepped, rowsOf]
  have same : lastMark alert check (db.addResult checkResult) = (view alert check db).last := rfl
  rw [← same, sends]
  change Records stateKey now (decisionAt now alert stateKey
    ((db.addResult checkResult).getLastNotificationForDedup alert.id check.id)) _
  rw [← isDecision]
  cases send : decision.send with
  | false =>
    simp only [Bool.false_eq_true, if_false]
    have nothing : lastMark alert check (db.addResult checkResult) = lastMark alert check db := rfl
    rw [if_pos nothing]
    exact .skip send
  | true =>
    simp only [if_true]
    have whole : SendDecision.mk true decision.isResend decision.resendCount = decision := by rw [← send]
    exact records_sent (noticeOf alert check checkResult _) (db.addNotificationLogs others) whole rfl send
      (le_refl now) provider

/-! ### A pass -/

/-- A decided notice is about the subject. -/
def Subject.isOf (alertId : Id) : Subject → PassNotice → Bool
  | .check check, one => decide (one.alertId = alertId ∧ one.checkId = some check.id)
  | .agent agentId, one => decide (one.alertId = alertId ∧ one.agentId = some agentId)

/-- A row is the subject's. -/
def Subject.isRow (alertId : Id) : Subject → NotificationLog → Bool
  | .check check, row =>
    decide (row.alertId = alertId ∧ row.checkId = some check.id ∧ row.status ∈ dedupRelevantStatuses)
  | .agent agentId, row =>
    decide (row.alertId = alertId ∧ row.agentId = some agentId ∧ row.status ∈ dedupRelevantStatuses)

theorem subjectRows_eq (db : Db) (alertId : Id) (subject : Subject) :
    db.subjectRows alertId subject = db.logs.filter (subject.isRow alertId) := by
  cases subject <;> rfl

theorem isRow_of_recorded (alertId : Id) (subject : Subject) (now : Time) (one : PassNotice) (db : Db)
    (written : Written) (recorded : recordNotice outside now one db = .ok written) :
    ∀ row ∈ written.rows, subject.isRow alertId row = subject.isOf alertId one := by
  intro row mem
  obtain ⟨sameAlert, sameCheck, sameAgent, relevant⟩ := recordNotice_names recorded row mem
  cases subject <;> simp [Subject.isRow, Subject.isOf, sameAlert, sameCheck, sameAgent, relevant]

/-- A pass writes what it decides on the subject. -/
theorem pass_records {now : Time} {clock : Nat → Time} {decision : SendDecision} {notice : Notice}
    (decides : (decidePass outside now db).filter (subject.isOf alert.id) =
      if decision.send then [.send notice] else [])
    (isDecision : notice.decision = decision) (state : notice.stateKey = stateKey) (isAlert : notice.alertId = alert.id)
    (provider : (db.listLiveProviders alert.id).length = 1) (later : ∀ n, now ≤ clock n) :
    ∃ new, (step outside (.silencePass now clock) db).1.subjectRows alert.id subject =
        db.subjectRows alert.id subject ++ new ∧
      Records stateKey now decision new := by
  rw [subjectRows_eq, subjectRows_eq, step, silencePass]
  cases send : decision.send with
  | false =>
    rw [send, if_neg Bool.false_ne_true] at decides
    refine ⟨[], ?_, .skip send⟩
    rw [List.append_nil]
    exact recordNotices_none (isRow_of_recorded alert.id subject) clock decides db
  | true =>
    rw [send, if_pos rfl] at decides
    obtain ⟨n, others, written, recorded, added⟩ :=
      recordNotices_single (isRow_of_recorded alert.id subject) clock decides db
    refine ⟨written.rows, added, ?_⟩
    rw [recordNotice, sendToProviders_eq] at recorded
    cases recorded
    rw [← isAlert] at provider
    exact records_sent notice (db.addNotificationLogs others) isDecision state send (later n) provider

/-- What a silent check's newest row decides. -/
theorem passFinding_silent {target : Assignment} {now : Time} (sameCheck : target.check.id = check.id)
    (silent : expectedFrom outside now target (db.latestResultTime target.check.id
      (passSince now alert (noDataTargets alert (assignedAgentsByCheck outside now db) db))) <
        now - silentAfter target.check.intervalSeconds (missedIntervals alert))
    (own : ¬ target.agents.all (fun agent => agentOffline outside agent now) = true)
    (unsnoozed : watchSnoozed now alert target.check db = false)
    (goesOn : ∀ row, LastSilent alert check db row → ¬ HeardSince check db row.sentAt) :
    passFinding outside now alert target db =
      if (decisionAt now alert .checkSilent (db.getLastNotificationForDedup alert.id check.id)).send then
        .silent (decisionAt now alert .checkSilent (db.getLastNotificationForDedup alert.id check.id))
      else .nothing := by
  rw [passFinding, findNoData]
  dsimp only
  rw [if_neg (not_le.mpr silent), unsnoozed, if_neg Bool.false_ne_true, if_neg own, sameCheck]
  cases last : db.getLastNotificationForDedup alert.id check.id with
  | none => rfl
  | some row =>
    rw [decisionAt]
    by_cases isSilent : row.notificationHash = some .checkSilent
    · have opened : episodeOpen target.check (some row) (db.latestResultTime target.check.id
          (passSince now alert (noDataTargets alert (assignedAgentsByCheck outside now db) db))) db = true := by
        by_contra closed
        exact goesOn row ⟨last, isSilent⟩ (heardSince_of_closed sameCheck (Bool.not_eq_true _ ▸ closed) isSilent)
      rw [sameCheck] at opened
      simp only [if_pos isSilent, if_pos (And.intro opened isSilent)]
    · simp only [if_neg isSilent, if_neg fun both : _ ∧ _ => isSilent both.2]

theorem silence_records {target : Assignment} {now : Time} {clock : Nat → Time}
    (setUp : SetUp alert check (.check check) db) (isPassed : alert.isPassed db)
    (isTarget : watchedTarget outside now alert check db = some target)
    (silent : expectedFrom outside now target (db.latestResultTime target.check.id
      (passSince now alert (noDataTargets alert (assignedAgentsByCheck outside now db) db))) <
        now - silentAfter target.check.intervalSeconds (missedIntervals alert))
    (own : ¬ target.agents.all (fun agent => agentOffline outside agent now) = true)
    (unsnoozed : watchSnoozed now alert target.check db = false)
    (goesOn : ∀ row, LastSilent alert check db row → ¬ HeardSince check db row.sentAt)
    (later : ∀ n, now ≤ clock n) :
    ∃ new, (step outside (.silencePass now clock) db).1.subjectRows alert.id (.check check) =
        db.subjectRows alert.id (.check check) ++ new ∧
      Records .checkSilent now
        (decisionAt now alert .checkSilent (db.getLastNotificationForDedup alert.id check.id)) new := by
  obtain ⟨sameCheck, -⟩ := mem_of_watchedTarget isTarget
  have pair := decidePass_pair outside now check setUp.watched.alertKeys setUp.checkKeys setUp.watched.isAlert
  rw [passDecides, if_pos isPassed, isTarget, Option.bind_some,
    passFinding_silent sameCheck silent own unsnoozed goesOn] at pair
  refine @pass_records outside alert (.check check) .checkSilent db now clock _
    { alertId := alert.id
      stateKey := .checkSilent
      checkId := some target.check.id
      context := { success := false, isRecovery := false }
      decision := _ } (pair.trans ?_) rfl rfl rfl setUp.provider later
  split_ifs <;> rfl

/-! ### An outage -/

theorem mem_agents_of_covered {now : Time} {agent : Agent}
    (mem : agent ∈ coveredAgents alert (assignedAgentsByCheck outside now db) db) : agent ∈ db.agents := by
  obtain ⟨target, isTarget, within⟩ := List.mem_flatMap.mp (List.mem_eraseDups.mp mem)
  obtain ⟨own, -, rfl⟩ := List.mem_map.mp isTarget
  split_ifs at within
  · refine List.mem_of_mem_filter (p := fun agent => decide (agent.approvalStatus = .active)) ?_
    unfold assignment at within
    cases mode : own.assignmentMode with
    | manual =>
      rw [mode] at within
      exact List.mem_of_find?_eq_some (Option.mem_toList.mp within)
    | replicate =>
      rw [mode] at within
      exact List.mem_of_mem_filter within
    | distribute =>
      rw [mode] at within
      exact List.mem_of_mem_filter within
  · cases within

/-- What a pass of an `agent_offline` alert decides for one agent. -/
theorem decidePass_agent (now : Time) (watched : Watched alert check db) (agentKeys : (db.agents.map (·.id)).Nodup)
    (watches : alert.watchesAgents db) (agentId : Id) :
    (decidePass outside now db).filter (Subject.isOf alert.id (.agent agentId)) =
      ((watchedAgent outside now alert agentId db).bind fun agent =>
        findAgentOffline outside now alert agent db).toList := by
  obtain ⟨type, enabled, alive, provider⟩ := watches
  rw [decidePass_filter outside now watched.alertKeys watched.isAlert fun one isOne => (of_decide_eq_true isOne).1,
    if_pos (by simp [type, enabled, alive]), decideAlert, if_neg provider, if_neg (by simp [type])]
  have keys : ((coveredAgents alert (assignedAgentsByCheck outside now db) db).map (·.id)).Nodup :=
    (nodup_eraseDups _).map_on fun one isOne other isOther same =>
      List.inj_on_of_nodup_map agentKeys (mem_agents_of_covered isOne) (mem_agents_of_covered isOther) same
  refine filter_decided keys agentId fun agent one found => ?_
  unfold findAgentOffline at found
  dsimp only at found
  split_ifs at found
  · split at found
    · split_ifs at found
      cases found
      simp [Subject.isOf, PassNotice.alertId, PassNotice.agentId]
    · cases found
  · cases found
    simp [Subject.isOf, PassNotice.alertId, PassNotice.agentId]

theorem outage_records {agentId : Id} {agent : Agent} {now : Time} {clock : Nat → Time}
    (setUp : SetUp alert check (.agent agentId) db) (watches : alert.watchesAgents db)
    (isAgent : watchedAgent outside now alert agentId db = some agent)
    (offline : agentOffline outside agent now (missedIntervals alert) = true)
    (goesOn : ∀ row, db.lastNotificationForAgent alert.id agentId = some row →
      row.notificationHash = some .agentOffline → ∀ last, agent.lastSeen = some last → last ≤ row.sentAt)
    (later : ∀ n, now ≤ clock n) :
    ∃ new, (step outside (.silencePass now clock) db).1.subjectRows alert.id (.agent agentId) =
        db.subjectRows alert.id (.agent agentId) ++ new ∧
      Records .agentOffline now
        (decisionAt now alert .agentOffline (db.lastNotificationForAgent alert.id agentId)) new := by
  have sameAgent : agent.id = agentId := by simpa using List.find?_some isAgent
  have decides := @decidePass_agent outside alert check db now setUp.watched setUp.agentKeys watches agentId
  have found : findAgentOffline outside now alert agent db =
      if (decisionAt now alert .agentOffline (db.lastNotificationForAgent alert.id agentId)).send then
        some (.send
          { alertId := alert.id
            stateKey := .agentOffline
            agentId := some agent.id
            context := { success := false, isRecovery := false }
            decision := decisionAt now alert .agentOffline (db.lastNotificationForAgent alert.id agentId) })
      else none := by
    rw [findAgentOffline]
    dsimp only
    rw [offline, if_neg (by simp), sameAgent]
    cases last : db.lastNotificationForAgent alert.id agentId with
    | none => rfl
    | some row =>
      rw [decisionAt]
      by_cases isOffline : row.notificationHash = some .agentOffline
      · have quiet : (agent.lastSeen.all fun last => decide (last ≤ row.sentAt)) = true := by
          cases seen : agent.lastSeen with
          | none => rfl
          | some at_ => exact decide_eq_true (goesOn row last isOffline at_ seen)
        simp only [if_pos isOffline, if_pos (And.intro isOffline quiet)]
      · simp only [if_neg isOffline, if_neg fun both : _ ∧ _ => isOffline both.1]
  rw [isAgent, Option.bind_some, found] at decides
  refine @pass_records outside alert (.agent agentId) .agentOffline db now clock _
    { alertId := alert.id
      stateKey := .agentOffline
      agentId := some agent.id
      context := { success := false, isRecovery := false }
      decision := _ } (decides.trans ?_) rfl rfl rfl setUp.provider later
  split_ifs <;> rfl

/-! ### An event -/

theorem SetUp.keyed (setUp : SetUp alert check subject db) : Keyed alert db :=
  ⟨setUp.watched.alertKeys, setUp.checkKeys, setUp.watched.mappingKeys, setUp.watched.isAlert⟩

theorem SetUp.step (setUp : SetUp alert check subject db) (event : Event) :
    SetUp alert check subject (step outside event db).1 := by
  have checkKeys := (@Keyed.step outside alert db setUp.keyed event).checkKeys
  obtain ⟨rows, added⟩ := step_adds outside event db
  rw [added] at checkKeys ⊢
  refine ⟨(setUp.watched.settle event).addLogs rows, checkKeys, ?_, ?_, setUp.kind⟩
  · cases event with
    | heartbeat agentId receivedAt status =>
      have same : ((db.applyHeartbeat agentId receivedAt status).agents.map (·.id)) = db.agents.map (·.id) := by
        rw [Db.applyHeartbeat, List.map_map]
        refine List.map_congr_left fun agent _ => ?_
        simp only [Function.comp_apply]
        split_ifs <;> rfl
      exact (congrArg List.Nodup same).mpr setUp.agentKeys
    | report checkResult now =>
      rw [Event.settle]
      split_ifs <;> exact setUp.agentKeys
    | _ => exact setUp.agentKeys
  · cases event with
    | report checkResult now =>
      rw [Event.settle]
      split_ifs <;> exact setUp.provider
    | _ => exact setUp.provider

/-- **One evaluation** that finds the subject in the state records what it decides on the newest row. -/
theorem step_records (setUp : SetUp alert check subject db)
    (hashed : ∀ row ∈ db.subjectRows alert.id subject, row.notificationHash.isSome = true) {event : Event} {now : Time}
    (finds : Finds outside alert stateKey db subject event now) (clock : ClockRuns db event) :
    ∃ new, (step outside event db).1.subjectRows alert.id subject = db.subjectRows alert.id subject ++ new ∧
      Records stateKey now
        (decisionAt now alert stateKey (newest (·.sentAt) (db.subjectRows alert.id subject))) new := by
  cases finds with
  | result notSilence isCheck isNew fires state unmasked unsnoozed =>
    obtain ⟨rfl, -⟩ := setUp.kind
    exact result_records setUp.watched setUp.provider hashed notSilence isCheck isNew fires state unmasked unsnoozed
      clock
  | silence isPassed isTarget state silent own unsnoozed goesOn =>
    subst state
    obtain ⟨rfl, -⟩ := setUp.kind
    exact silence_records setUp isPassed isTarget silent own unsnoozed goesOn clock.2
  | outage watches isAgent state offline goesOn =>
    subst state
    exact outage_records setUp watches isAgent offline goesOn clock.2

theorem rows_of_pass_elsewhere {now : Time} (clock : Nat → Time)
    (decides : (decidePass outside now db).filter (subject.isOf alert.id) = []) :
    (step outside (.silencePass now clock) db).1.subjectRows alert.id subject = db.subjectRows alert.id subject := by
  rw [subjectRows_eq, subjectRows_eq, step, silencePass]
  exact recordNotices_none (isRow_of_recorded alert.id subject) clock decides db

theorem rows_of_not_pass (keyed : Keyed alert db)
    (silence : alert.triggerType = .noData ∨ alert.triggerType = .agentOffline) {event : Event}
    (notPass : ∀ now clock, event ≠ .silencePass now clock) :
    (step outside event db).1.subjectRows alert.id subject = db.subjectRows alert.id subject := by
  obtain ⟨rows, added, others⟩ := logs_of_not_pass outside keyed silence notPass
  have none : rows.filter (subject.isRow alert.id) = [] := by
    rw [List.filter_eq_nil_iff]
    intro row mem
    cases subject <;> simp [Subject.isRow, others row mem]
  rw [subjectRows_eq, subjectRows_eq, added, List.filter_append, none, List.append_nil]

/-- An alert on results, at an event that does not evaluate it on the check. -/
theorem rows_of_result_elsewhere (watched : Watched alert check db) (notSilence : alert.NotSilence) {event : Event}
    (elsewhere : ¬ Evaluates outside alert db (.check check) event) :
    (step outside event db).1.pairRows alert.id check.id = db.pairRows alert.id check.id := by
  cases event with
  | report checkResult now =>
    by_cases isCheck : checkResult.checkId = check.id
    · cases isNew : db.isStored checkResult with
      | false => exact absurd (.result notSilence isCheck isNew) elsewhere
      | true =>
        rw [Db.isStored] at isNew
        rw [step, reportResult, if_pos isNew]
    · refine (step_leaves outside notSilence watched ?_).rows
      rw [pairInput, if_neg isCheck]
  | _ => exact (step_leaves outside notSilence watched rfl).rows

/-- An event that does not evaluate the subject writes no row of it. -/
theorem step_elsewhere (setUp : SetUp alert check subject db) {event : Event}
    (elsewhere : ¬ Evaluates outside alert db subject event) :
    (step outside event db).1.subjectRows alert.id subject = db.subjectRows alert.id subject := by
  have isPass_or : (∃ now clock, event = .silencePass now clock) ∨ ∀ now clock, event ≠ .silencePass now clock := by
    by_contra neither
    push Not at neither
    obtain ⟨⟨now, clock, isPass⟩, notPass⟩ := neither.symm
    exact notPass now clock isPass
  cases subject with
  | check own =>
    obtain ⟨rfl, notAgents⟩ := setUp.kind
    by_cases type : alert.triggerType = .noData
    · rcases isPass_or with ⟨now, clock, rfl⟩ | notPass
      · have isPassed : alert.isPassed db := ⟨type, setUp.watched.enabled, setUp.watched.alive, setUp.watched.provider⟩
        refine rows_of_pass_elsewhere clock ((decidePass_pair outside now own setUp.watched.alertKeys setUp.checkKeys
          setUp.watched.isAlert).trans ?_)
        rw [passDecides, if_pos isPassed]
        cases isTarget : watchedTarget outside now alert own db with
        | none => rfl
        | some target => exact absurd (.silence isPassed isTarget) elsewhere
      · exact rows_of_not_pass setUp.keyed (Or.inl type) notPass
    · exact rows_of_result_elsewhere setUp.watched (fun silence => silence.elim type notAgents) elsewhere
  | agent agentId =>
    rcases isPass_or with ⟨now, clock, rfl⟩ | notPass
    · have watches : alert.watchesAgents db :=
        ⟨setUp.kind, setUp.watched.enabled, setUp.watched.alive, setUp.watched.provider⟩
      refine rows_of_pass_elsewhere clock ((decidePass_agent now setUp.watched setUp.agentKeys watches agentId).trans ?_)
      cases isAgent : watchedAgent outside now alert agentId db with
      | none => rfl
      | some agent => exact absurd (.outage watches isAgent) elsewhere
    · exact rows_of_not_pass setUp.keyed (Or.inr setUp.kind) notPass

/-! ## The law of a run -/

variable {rows new : List NotificationLog} {now : Time} {last : NotificationLog}

theorem ResendLaw.nil : ResendLaw alert stateKey [] where
  state := by simp
  isResend := by simp
  reminders := .nil
  once _ := Nat.zero_le 1

/-- A resend is decided as the settings say. -/
theorem next_resendDecision (now : Time) (alert : Alert) (last : NotificationLog) :
    alert.reminders.next now (some last.entry) =
      if (resendDecision now alert last).send then some (resendDecision now alert last).resendCount else none := by
  rw [resendDecision, NotificationLog.entry, Reminders.next, Alert.reminders]
  cases alert.resendIntervalMinutes with
  | none => rfl
  | some interval =>
    simp only [Option.map_some]
    split_ifs with soon past
    all_goals first | rfl | contradiction

theorem resendCount_of_resend (sends : (resendDecision now alert last).send = true) :
    0 < (resendDecision now alert last).resendCount := by
  unfold resendDecision at sends ⊢
  split at sends
  · cases sends
  · split_ifs at sends ⊢
    · cases sends
    · exact Nat.succ_pos _

/-- A decision is what the settings make of the rows so far. -/
structure DecidesNext (alert : Alert) (now : Time) (rows : List NotificationLog) (decision : SendDecision) : Prop where
  next : alert.reminders.next now (rows.map NotificationLog.entry).getLast? =
    if decision.send then some decision.resendCount else none
  isResend : decision.send = true → decision.isResend = decide (0 < decision.resendCount)

/-- The first decision on a state that was not recorded last. -/
theorem decidesNext_enters {newest : Option NotificationLog}
    (enters : ∀ row, newest = some row → row.notificationHash ≠ some stateKey) :
    DecidesNext alert now [] (decisionAt now alert stateKey newest) := by
  have fresh : decisionAt now alert stateKey newest = .fresh := by
    cases newest with
    | none => rfl
    | some row => exact if_neg (enters row rfl)
  rw [fresh]
  exact ⟨rfl, fun _ => rfl⟩

/-- A decision on the last row of the state. -/
theorem decidesNext_last (isLast : rows.getLast? = some last) (state : last.notificationHash = some stateKey) :
    DecidesNext alert now rows (decisionAt now alert stateKey (some last)) := by
  have again : decisionAt now alert stateKey (some last) = resendDecision now alert last := if_pos state
  rw [again]
  refine ⟨?_, fun sends => ?_⟩
  · rw [List.getLast?_map, isLast, Option.map_some]
    exact next_resendDecision now alert last
  · rw [isResend_of_resend sends, decide_eq_true (resendCount_of_resend sends)]

/-- What such a decision records keeps the law. -/
theorem ResendLaw.records (law : ResendLaw alert stateKey rows) {decision : SendDecision}
    (decidesNext : DecidesNext alert now rows decision) (records : Records stateKey now decision new) :
    ResendLaw alert stateKey (rows ++ new) := by
  cases records with
  | skip => rwa [List.append_nil]
  | @send row sends later state isResend count =>
    have reminders : alert.reminders.Lawful ((rows ++ [row]).map NotificationLog.entry) := by
      have isNext := decidesNext.next
      rw [sends, if_pos rfl] at isNext
      have sent := law.reminders.sent isNext later
      rw [List.map_append]
      rwa [← count] at sent
    refine ⟨fun other mem => ?_, fun other mem => ?_, reminders, fun never => ?_⟩
    · rcases List.mem_append.mp mem with old | isNew
      · exact law.state other old
      · rwa [List.mem_singleton.mp isNew]
    · rcases List.mem_append.mp mem with old | isNew
      · exact law.isResend other old
      · rw [List.mem_singleton.mp isNew, isResend, count, decidesNext.isResend sends]
    · rw [← List.length_map (f := NotificationLog.entry)]
      exact reminders.length_le_one (congrArg (Option.map _) never)

/-- The subject's rows in a run: those before it, then those of the state. -/
structure ToldSoFar (alert : Alert) (stateKey : StateKey) (check : Check) (subject : Subject)
    (before told : List NotificationLog) (db : Db) : Prop where
  setUp : SetUp alert check subject db
  rows : db.subjectRows alert.id subject = before ++ told
  hashed : ∀ row ∈ before, row.notificationHash.isSome = true
  enters : told = [] → ∀ row, newest (·.sentAt) before = some row → row.notificationHash ≠ some stateKey
  isNewest : ∀ last, told.getLast? = some last → newest (·.sentAt) (before ++ told) = some last
  law : ResendLaw alert stateKey told

variable {before : List NotificationLog}

theorem Enters.reached (enters : Enters alert stateKey check subject db) :
    ToldSoFar alert stateKey check subject (db.subjectRows alert.id subject) [] db where
  setUp := enters.toSetUp
  rows := (List.append_nil _).symm
  hashed := enters.hashed
  enters _ := enters.enters
  isNewest last isLast := by cases isLast
  law := .nil

theorem ToldSoFar.decidesNext (reached : ToldSoFar alert stateKey check subject before rows db) (now : Time) :
    DecidesNext alert now rows (decisionAt now alert stateKey (newest (·.sentAt) (before ++ rows))) := by
  cases isLast : rows.getLast? with
  | none =>
    obtain rfl := List.getLast?_eq_none_iff.mp isLast
    rw [List.append_nil]
    exact decidesNext_enters (reached.enters rfl)
  | some last =>
    rw [reached.isNewest last isLast]
    exact decidesNext_last isLast (reached.law.state last (List.mem_of_getLast? isLast))

/-- An evaluation is made at the event's time, -/
theorem Finds.time_unique {event : Event} {other : Time} (finds : Finds outside alert stateKey db subject event now)
    (finds' : Finds outside alert stateKey db subject event other) : now = other := by
  cases finds <;> cases finds' <;> rfl

/-- which nothing recorded is later than. -/
theorem Finds.past {event : Event} (finds : Finds outside alert stateKey db subject event now)
    (clock : ClockRuns db event) : ∀ row ∈ db.logs, row.sentAt ≤ now := by
  cases finds with
  | result => exact clock
  | silence => exact clock.1
  | outage => exact clock.1

/-- An evaluation that finds the state. -/
theorem ToldSoFar.finds (reached : ToldSoFar alert stateKey check subject before rows db) {event : Event}
    (finds : Finds outside alert stateKey db subject event now) (clock : ClockRuns db event) :
    ∃ new, ToldSoFar alert stateKey check subject before (rows ++ new) (step outside event db).1 ∧
      Records stateKey now (decisionAt now alert stateKey (newest (·.sentAt) (before ++ rows))) new := by
  have hashed : ∀ row ∈ db.subjectRows alert.id subject, row.notificationHash.isSome = true := by
    rw [reached.rows]
    intro row mem
    rcases List.mem_append.mp mem with old | own
    · exact reached.hashed row old
    · rw [reached.law.state row own]
      rfl
  obtain ⟨new, added, records⟩ := step_records reached.setUp hashed finds clock
  rw [reached.rows] at added records
  refine ⟨new, ⟨reached.setUp.step event, ?_, reached.hashed, fun nothing => ?_, fun last isLast => ?_,
    reached.law.records (reached.decidesNext now) records⟩, records⟩
  · rw [added, List.append_assoc]
  · exact reached.enters (List.append_eq_nil_iff.mp nothing).1
  · cases records with
    | skip =>
      rw [List.append_nil] at isLast ⊢
      exact reached.isNewest last isLast
    | @send row sends later state isResend count =>
      rw [List.getLast?_concat, Option.some.injEq] at isLast
      subst isLast
      rw [← List.append_assoc]
      refine newest_append _ (List.cons_ne_nil _ _) fun old mem one isOne => ?_
      rw [List.mem_singleton.mp isOne]
      refine (finds.past clock old ?_).trans later
      rw [← reached.rows, subjectRows_eq] at mem
      exact List.mem_of_mem_filter mem

/-- What an event adds to the notifications of the state. -/
structure AddsNext (outside : Outside) (alert : Alert) (stateKey : StateKey) (subject : Subject) (db : Db)
    (event : Event) (told new : List NotificationLog) : Prop where
  law : ResendLaw alert stateKey (told ++ new)
  one : new.length ≤ 1
  /-- The first evaluation sends, -/
  first : Evaluates outside alert db subject event → told = [] → new ≠ []
  /-- and one that finds a resend due sends it. -/
  due : ∀ now, Finds outside alert stateKey db subject event now →
    ∀ last, told.getLast? = some last → ResendDue alert now last → new ≠ []

/-- **One event.** -/
theorem ToldSoFar.step (reached : ToldSoFar alert stateKey check subject before rows db) {event : Event}
    (stays : StaysTriggered outside alert stateKey subject db event) :
    ∃ new, ToldSoFar alert stateKey check subject before (rows ++ new) (step outside event db).1 ∧
      AddsNext outside alert stateKey subject db event rows new := by
  by_cases evaluates : Evaluates outside alert db subject event
  · obtain ⟨now, finds⟩ := stays.finds evaluates
    obtain ⟨new, reached', records⟩ := reached.finds finds stays.clock
    have isNext := (reached.decidesNext now).next
    have sends {count : Nat} (is : alert.reminders.next now (rows.map NotificationLog.entry).getLast? = some count) :
        new ≠ [] := by
      rw [is] at isNext
      cases records with
      | skip skips =>
        rw [skips] at isNext
        cases isNext
      | send => exact List.cons_ne_nil _ _
    refine ⟨new, reached', reached'.law, ?_, fun _ nothing => ?_, fun now' finds' last isLast due => ?_⟩
    · cases records with
      | skip => exact Nat.zero_le 1
      | send => exact Nat.le_refl 1
    · subst nothing
      exact sends rfl
    · obtain rfl := finds.time_unique finds'
      obtain ⟨interval, isInterval, passed, left⟩ := due
      refine @sends (last.resendCount + 1) ?_
      rw [List.getLast?_map, isLast]
      exact Reminders.next_eq_some (minutes interval) (congrArg (Option.map _) isInterval) passed left
  · have same := step_elsewhere reached.setUp evaluates
    refine ⟨[], ?_, ?_, Nat.zero_le 1, fun evaluates' => absurd evaluates' evaluates, fun now finds => ?_⟩
    · rw [List.append_nil]
      exact { reached with setUp := reached.setUp.step event, rows := same.trans reached.rows }
    · rw [List.append_nil]
      exact reached.law
    · refine absurd ?_ evaluates
      cases finds with
      | result notSilence isCheck isNew => exact .result notSilence isCheck isNew
      | silence isPassed isTarget => exact .silence isPassed isTarget
      | outage watches isAgent => exact .outage watches isAgent

theorem reached_run (enters : Enters alert stateKey check subject db) {events : List Event}
    (allowed : Allowed outside (StaysTriggered outside alert stateKey subject) db events) :
    ∃ told, ToldSoFar alert stateKey check subject (db.subjectRows alert.id subject) told (run outside events db) := by
  refine allowed.induction (fun reachedDb =>
    ∃ told, ToldSoFar alert stateKey check subject (db.subjectRows alert.id subject) told reachedDb)
    ⟨[], enters.reached⟩ fun db event held stays => ?_
  obtain ⟨told, reached⟩ := held
  obtain ⟨new, reached, -⟩ := reached.step stays
  exact ⟨told ++ new, reached⟩

/-- **The resend law.** While an alert stays in one state, in every run, its notifications
are a fresh one and then resends as its settings say, each sent by the first evaluation
at which it is due. -/
theorem resend_law (enters : Enters alert stateKey check subject db) {events : List Event} {event : Event}
    (allowed : Allowed outside (StaysTriggered outside alert stateKey subject) db (events ++ [event])) :
    ∃ told new,
      (run outside events db).subjectRows alert.id subject = db.subjectRows alert.id subject ++ told ∧
      (run outside (events ++ [event]) db).subjectRows alert.id subject =
        db.subjectRows alert.id subject ++ (told ++ new) ∧
      AddsNext outside alert stateKey subject (run outside events db) event told new := by
  obtain ⟨before, stays⟩ := allowed.of_snoc
  obtain ⟨told, reached⟩ := reached_run enters before
  obtain ⟨new, reached', addsNext⟩ := reached.step stays
  rw [← run_snoc] at reached'
  exact ⟨told, new, reached.rows, reached'.rows, addsNext⟩

end Step

/-! ## A failure told of again -/

/-- Told of again after half an hour, three times at most. -/
def remindingAlert : Alert where
  id := 0
  triggerType := .statusChange
  resendIntervalMinutes := some 30
  maxResends := some 3

theorem enters_remindingAlert : Enters remindingAlert .statusDown soloCheck (.check soloCheck) (soloDb remindingAlert) where
  watched := (soloDb_untouched rfl rfl).watched
  checkKeys := by decide
  agentKeys := by decide
  provider := rfl
  kind := ⟨rfl, by decide⟩
  hashed := by simp [Db.subjectRows, Db.pairRows, soloDb]
  enters _ isNewest := by cases isNewest

/-- A failure is found where it is reported. -/
theorem staysTriggered_of_failure {db : Db} {n : Nat} {now : Time}
    (finds : Finds calm remindingAlert .statusDown db (.check soloCheck) (.report (soloResult n false) now) now)
    (clock : ∀ row ∈ db.logs, row.sentAt ≤ now) :
    StaysTriggered calm remindingAlert .statusDown (.check soloCheck) db (.report (soloResult n false) now) :=
  ⟨fun _ => ⟨now, finds⟩, clock⟩

theorem resend_law_of_failures :
    ∃ told new,
      (run calm [.report (soloResult 0 false) 0] (soloDb remindingAlert)).subjectRows 0 (.check soloCheck) = told ∧
      AddsNext calm remindingAlert .statusDown (.check soloCheck)
        (run calm [.report (soloResult 0 false) 0] (soloDb remindingAlert))
        (.report (soloResult 1 false) (minutes 30)) told new := by
  have first : StaysTriggered calm remindingAlert .statusDown (.check soloCheck) (soloDb remindingAlert)
      (.report (soloResult 0 false) 0) :=
    staysTriggered_of_failure (.result (notSilence_of_plain rfl) rfl rfl rfl rfl (fun down => by cases down) rfl) (by decide)
  have second : StaysTriggered calm remindingAlert .statusDown (.check soloCheck)
      (run calm [.report (soloResult 0 false) 0] (soloDb remindingAlert)) (.report (soloResult 1 false) (minutes 30)) :=
    staysTriggered_of_failure (.result (notSilence_of_plain rfl) rfl rfl rfl rfl (fun down => by cases down) rfl) (by decide)
  have ran : Allowed calm (StaysTriggered calm remindingAlert .statusDown (.check soloCheck)) (soloDb remindingAlert)
      ([.report (soloResult 0 false) 0] ++ [.report (soloResult 1 false) (minutes 30)]) :=
    .snoc (@Allowed.snoc calm _ _ [] _ .nil first) second
  obtain ⟨told, new, before, -, addsNext⟩ := resend_law enters_remindingAlert ran
  exact ⟨told, new, before, addsNext⟩

end LuxSwirl.Server
