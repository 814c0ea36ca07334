import LuxSwirl.Lib.Notifier
import LuxSwirl.Server.Runs

/-!
# An alert on one check

Seen from one alert on one check, the server is a notifier with a memory: the
check's results are its history, the newest row of the log is its record.
`step_view` is that refinement, for the triggers that read the history alone;
everything else the server does leaves the pair as it was.
-/

namespace LuxSwirl.Server
open LuxSwirl.Py LuxSwirl.Lib

/-! ## What an evaluation writes -/

/-- What was written is about the alert and the check and was written at `now`. -/
structure About (alertId checkId : Id) (now : Time) (written : Written) : Prop where
  rows : ∀ row ∈ written.rows, row.alertId = alertId ∧ row.checkId = some checkId ∧
    row.sentAt = now ∧ row.status ∈ dedupRelevantStatuses ∧ row.notificationHash.isSome = true
  notices : ∀ notice ∈ written.notices, notice.alertId = alertId ∧ notice.checkId = some checkId

theorem About.nothing (alertId checkId : Id) (now : Time) : About alertId checkId now {} where
  rows := by simp
  notices := by simp

/-- The rows of a notification are about it. -/
theorem sent_rows {outside : Outside} {now : Time} {notice : Notice} {db : Db}
    {rows : List NotificationLog} (sent : sendToProviders outside now notice db = .ok rows) :
    ∀ row ∈ rows, row.alertId = notice.alertId ∧ row.checkId = notice.checkId ∧
      row.agentId = notice.agentId ∧ row.sentAt = now ∧ row.status ∈ dedupRelevantStatuses ∧
      row.notificationHash = some notice.stateKey ∧ row.isResend = notice.decision.isResend ∧
      row.resendCount = notice.decision.resendCount := by
  rw [sendToProviders_eq, Except.ok.injEq] at sent
  intro row mem
  rw [← sent] at mem
  obtain ⟨provider, -, rfl⟩ := List.mem_map.mp mem
  exact ⟨rfl, rfl, rfl, rfl, attempt_relevant .., rfl, rfl, rfl⟩

theorem suppressed_relevant : NotificationStatus.suppressed ∈ dedupRelevantStatuses := by decide

theorem suppressedRows_about (now : Time) (alert : Alert) (check : Check) (checkResult : CheckResult)
    (stateKey : StateKey) (db : Db) :
    ∀ row ∈ suppressedRows now alert check checkResult stateKey db,
      row.alertId = alert.id ∧ row.checkId = some check.id ∧ row.sentAt = now ∧
        row.status ∈ dedupRelevantStatuses ∧ row.notificationHash = some stateKey ∧
        row.resendCount = 0 := by
  intro row mem
  obtain ⟨provider, -, rfl⟩ := List.mem_map.mp mem
  exact ⟨rfl, rfl, rfl, suppressed_relevant, rfl, rfl⟩

theorem handleParentSuppression_about {now : Time} {alert : Alert} {check : Check}
    {checkResult : CheckResult} {db : Db} {rows : List NotificationLog}
    (suppressed : handleParentSuppression now alert check checkResult db = some rows) :
    About alert.id check.id now { rows } where
  rows := by
    intro row mem
    unfold handleParentSuppression at suppressed
    split_ifs at suppressed with down log
    · cases suppressed
      obtain ⟨a, b, c, d, e, -⟩ := suppressedRows_about now alert check checkResult _ db row mem
      exact ⟨a, b, c, d, by rw [e]; rfl⟩
    · cases suppressed
      simp at mem
  notices := by simp

theorem fireAlert_about {outside : Outside} {now : Time} {alert : Alert} {check : Check}
    {checkResult : CheckResult} {db : Db} {written : Written}
    (fired : fireAlert outside now alert check checkResult db = .ok written) :
    About alert.id check.id now written := by
  obtain ⟨recovery, -, fired⟩ := except_bind_ok.mp fired
  dsimp only at fired
  split at fired
  · rename_i rows suppressed
    cases fired
    split_ifs at suppressed
    exact handleParentSuppression_about suppressed
  · obtain ⟨decision, -, fired⟩ := except_bind_ok.mp fired
    split_ifs at fired
    · cases fired
      exact .nothing ..
    · obtain ⟨stateKey, -, fired⟩ := except_bind_ok.mp fired
      obtain ⟨rows, sent, fired⟩ := except_bind_ok.mp fired
      cases fired
      refine ⟨fun row mem => ?_, fun notice mem => ?_⟩
      · obtain ⟨a, b, -, c, d, e, -⟩ := sent_rows sent row mem
        exact ⟨a, b, c, d, by rw [e]; rfl⟩
      · dsimp only at mem
        split_ifs at mem
        · simp at mem
        · rw [List.mem_singleton.mp mem]
          exact ⟨rfl, rfl⟩

theorem evaluateAlert_about {outside : Outside} {now : Time} {alert : Alert} {check : Check}
    {checkResult : CheckResult} {db : Db} {written : Written}
    (evaluated : evaluateAlert outside now alert check checkResult db = .ok written) :
    About alert.id check.id now written := by
  unfold evaluateAlert at evaluated
  split_ifs at evaluated
  · cases evaluated
    exact .nothing ..
  · obtain ⟨fires, -, evaluated⟩ := except_bind_ok.mp evaluated
    split_ifs at evaluated
    · exact fireAlert_about evaluated
    · cases evaluated
      exact .nothing ..

/-- Evaluating some alerts adds rows of theirs to the log, and nothing else. -/
theorem evaluateAlerts_adds (outside : Outside) (now : Time) (check : Check)
    (checkResult : CheckResult) (alerts : List Alert) (db : Db) :
    ∃ rows, (evaluateAlerts outside now check checkResult alerts db).1 = db.addNotificationLogs rows ∧
      (∀ row ∈ rows, (∃ alert ∈ alerts, row.alertId = alert.id) ∧ row.checkId = some check.id ∧
        row.sentAt = now ∧ row.notificationHash.isSome = true) ∧
      ∀ notice ∈ (evaluateAlerts outside now check checkResult alerts db).2,
        (∃ alert ∈ alerts, notice.alertId = alert.id) ∧ notice.checkId = some check.id := by
  induction alerts generalizing db with
  | nil => exact ⟨[], by simp [evaluateAlerts, Db.addNotificationLogs], by simp, by simp [evaluateAlerts]⟩
  | cons alert rest ih =>
    rw [evaluateAlerts]
    cases evaluated : evaluateAlert outside now alert check checkResult db with
    | error e =>
      obtain ⟨rows, added, ofRows, ofNotices⟩ := ih db
      refine ⟨rows, added, fun row mem => ?_, fun notice mem => ?_⟩
      · obtain ⟨⟨other, within, same⟩, about⟩ := ofRows row mem
        exact ⟨⟨other, List.mem_cons_of_mem _ within, same⟩, about⟩
      · obtain ⟨⟨other, within, same⟩, about⟩ := ofNotices notice mem
        exact ⟨⟨other, List.mem_cons_of_mem _ within, same⟩, about⟩
    | ok written =>
      have about := evaluateAlert_about evaluated
      obtain ⟨rows, added, ofRows, ofNotices⟩ := ih (db.addNotificationLogs written.rows)
      refine ⟨written.rows ++ rows, ?_, fun row mem => ?_, fun notice mem => ?_⟩
      · dsimp only
        rw [added]
        simp [Db.addNotificationLogs]
      · rcases List.mem_append.mp mem with own | later
        · obtain ⟨a, b, c, -, d⟩ := about.rows row own
          exact ⟨⟨alert, List.mem_cons_self .., a⟩, b, c, d⟩
        · obtain ⟨⟨other, within, same⟩, about⟩ := ofRows row later
          exact ⟨⟨other, List.mem_cons_of_mem _ within, same⟩, about⟩
      · rcases List.mem_append.mp mem with own | later
        · obtain ⟨a, b⟩ := about.notices notice own
          exact ⟨⟨alert, List.mem_cons_self .., a⟩, b⟩
        · obtain ⟨⟨other, within, same⟩, about⟩ := ofNotices notice later
          exact ⟨⟨other, List.mem_cons_of_mem _ within, same⟩, about⟩

/-! ## The policy of an alert -/

/-- The triggers that read the history of results alone. -/
def Alert.isPlain (alert : Alert) : Bool :=
  decide (alert.triggerType ∈ [.statusChange, .threshold, .repeatedFailure])

/-- The trigger is evaluated on results, not by the silence pass. -/
def Alert.NotSilence (alert : Alert) : Prop :=
  ¬ (alert.triggerType = .noData ∨ alert.triggerType = .agentOffline)

/-- The state key of a plain alert. -/
def plainKey (alert : Alert) (checkResult : CheckResult) : StateKey :=
  match alert.triggerType with
  | .statusChange => if checkResult.success then .statusUp else .statusDown
  | .threshold => .threshold (alert.triggerConfig.operator.getD .gt) alert.triggerConfig.value
  | _ => .repeatedFailure

/-- The status trigger, over the history it reads. -/
def statusFires (alert : Alert) : List CheckResult → Bool
  | [] => false
  | checkResult :: earlier =>
    if checkResult.success ∧ alert.notifyOnRecovery then earlier.head?.any fun previous => !previous.success
    else if (if checkResult.success then Status.success else .error) ∉
        alert.triggerConfig.onStatus.getD [.error] then false
    else if alert.triggerConfig.consecutiveFailures.getD 1 > 1 then
      let recent := (checkResult :: earlier).take (alert.triggerConfig.consecutiveFailures.getD 1)
      if recent.length < alert.triggerConfig.consecutiveFailures.getD 1 then false
      else recent.all fun result => !result.success
    else true

/-- The count of the resend that is due. -/
def resendDue (alert : Alert) (now : Time) (mark : Mark StateKey Time) : Option Nat :=
  match alert.resendIntervalMinutes with
  | none => none
  | some interval =>
    if now - mark.time < minutes interval then none
    else if alert.maxResends.any fun limit => decide (limit < mark.count + 1) then none
    else some (mark.count + 1)

/-- A plain alert as a notifier. -/
def Alert.policy (alert : Alert) : Policy CheckResult StateKey Time where
  fires history _ :=
    match alert.triggerType with
    | .threshold => history.head?.any (evaluateThreshold alert)
    | _ => statusFires alert history
  key := plainKey alert
  recovers checkResult := alert.notifyOnRecovery && checkResult.success
  mask := .parentDown
  resend := resendDue alert

/-- What a row records for its pair. -/
def NotificationLog.mark (row : NotificationLog) : Option (Mark StateKey Time) :=
  row.notificationHash.map fun key => ⟨key, row.sentAt, row.resendCount⟩

/-- The newest record of the pair. -/
def lastMark (alert : Alert) (check : Check) (db : Db) : Option (Mark StateKey Time) :=
  (db.getLastNotificationForDedup alert.id check.id).bind (·.mark)

/-- The pair's memory. -/
def view (alert : Alert) (check : Check) (db : Db) : Memory CheckResult StateKey Time where
  history := db.resultsOf check.id
  last := lastMark alert check db

/-- The notification of what the notifier sends. -/
def noticeOf (alert : Alert) (check : Check) (checkResult : CheckResult) (sent : Sent StateKey) :
    Notice where
  alertId := alert.id
  stateKey := sent.key
  checkId := some check.id
  checkResultId := some checkResult.id
  context := { success := checkResult.success, isRecovery := sent.recovers }
  decision := ⟨true, sent.isResend, sent.count⟩

/-- What the pair's notifier is given for a result. -/
def inputOf (alert : Alert) (check : Check) (now : Time) (checkResult : CheckResult) (db : Db) :
    Input CheckResult Time where
  seen := checkResult
  time := now
  held := isSnoozed now alert.id check.id db
  masked := parentIsDown check db

/-- The newest result comes first. -/
def NewestFirst (results : List CheckResult) : Prop :=
  results.Pairwise fun a b => b.timestamp < a.timestamp

/-- Every row of the pair records a state. -/
def Hashed (alert : Alert) (check : Check) (db : Db) : Prop :=
  ∀ row ∈ db.pairRows alert.id check.id, row.notificationHash.isSome = true

section Plain

variable {alert : Alert} {check : Check} {checkResult : CheckResult} {db : Db}

theorem plain_cases (plain : alert.isPlain = true) : alert.triggerType = .statusChange ∨
    alert.triggerType = .threshold ∨ alert.triggerType = .repeatedFailure := by
  simpa [Alert.isPlain] using plain

theorem notSilence_of_plain (plain : alert.isPlain = true) : alert.NotSilence := by
  rcases plain_cases plain with type | type | type <;> simp [Alert.NotSilence, type]

theorem getRecentResults_eq (ordered : NewestFirst (db.resultsOf check.id)) (limit : Nat) :
    db.getRecentResultsForCheck check.id limit = (db.resultsOf check.id).take limit := by
  rw [Db.getRecentResultsForCheck, List.Pairwise.insertionSort_eq]
  exact ordered.imp fun earlier => le_of_lt earlier

/-- The status trigger reads the history. -/
theorem evaluateStatusChange_eq (alert : Alert) {earlier : List CheckResult}
    (ordered : NewestFirst (db.resultsOf check.id))
    (newest : db.resultsOf check.id = checkResult :: earlier) :
    evaluateStatusChange alert check checkResult db = statusFires alert (db.resultsOf check.id) := by
  unfold evaluateStatusChange
  simp only [getRecentResults_eq ordered, newest, statusFires]
  cases checkResult.success with
  | false => rfl
  | true =>
    cases alert.notifyOnRecovery with
    | false => rfl
    | true => cases earlier <;> rfl

theorem stateKey_plain (plain : alert.isPlain = true) :
    computeAlertStateKey alert checkResult = .ok (plainKey alert checkResult) := by
  unfold computeAlertStateKey plainKey
  rcases plain_cases plain with type | type | type <;> simp [type]

theorem isRecovery_plain (plain : alert.isPlain = true) :
    isRecovery alert checkResult = .ok (alert.policy.recovers checkResult) := by
  unfold isRecovery
  cases recovery : alert.notifyOnRecovery <;>
    rcases plain_cases plain with type | type | type <;> simp [Alert.policy, recovery, type]

theorem shouldFire_plain (plain : alert.isPlain = true) {earlier : List CheckResult}
    (ordered : NewestFirst (db.resultsOf check.id))
    (newest : db.resultsOf check.id = checkResult :: earlier) (last : Option StateKey) :
    shouldFireAlert alert check checkResult db =
      .ok (alert.policy.fires (db.resultsOf check.id) last) := by
  have status := evaluateStatusChange_eq alert ordered newest
  unfold shouldFireAlert
  rcases plain_cases plain with type | type | type
  · simp [type, Alert.policy, status]
  · simp [type, Alert.policy, newest]
  · simp [type, Alert.policy, evaluateRepeatedFailure, status]

/-- A mark of a row that records a state. -/
theorem mark_of_hashed {row : NotificationLog} {key : StateKey}
    (hash : row.notificationHash = some key) : row.mark = some ⟨key, row.sentAt, row.resendCount⟩ := by
  rw [NotificationLog.mark, hash]
  rfl

theorem lastMark_eq_none (hashed : Hashed alert check db) (none_ : lastMark alert check db = none) :
    db.getLastNotificationForDedup alert.id check.id = none := by
  rcases last : db.getLastNotificationForDedup alert.id check.id with _ | row
  · rfl
  · obtain ⟨key, hash⟩ := Option.isSome_iff_exists.mp (hashed row (mem_of_newest _ last))
    rw [lastMark, last, Option.bind_some, mark_of_hashed hash] at none_
    cases none_

theorem lastMark_eq_some {mark : Mark StateKey Time} (found : lastMark alert check db = some mark) :
    ∃ row, db.getLastNotificationForDedup alert.id check.id = some row ∧
      row.notificationHash = some mark.key ∧ row.sentAt = mark.time ∧ row.resendCount = mark.count := by
  obtain ⟨row, last, isMark⟩ := Option.bind_eq_some_iff.mp found
  obtain ⟨key, hash, rfl⟩ := Option.map_eq_some_iff.mp isMark
  exact ⟨row, last, hash, rfl, rfl⟩

theorem resendDecision_eq (alert : Alert) (now : Time) {last : NotificationLog} {mark : Mark StateKey Time}
    (time : last.sentAt = mark.time) (count : last.resendCount = mark.count) :
    resendDue alert now mark =
      if (resendDecision now alert last).send then some (resendDecision now alert last).resendCount
      else none := by
  unfold resendDue resendDecision
  rw [time, count]
  cases alert.resendIntervalMinutes with
  | none => rfl
  | some interval =>
    dsimp only
    split_ifs <;> simp_all [SendDecision.skip]

theorem isResend_of_resend {now : Time} {last : NotificationLog} (send : (resendDecision now alert last).send = true) :
    (resendDecision now alert last).isResend = true := by
  unfold resendDecision at send ⊢
  split at send
  · cases send
  · split_ifs at send ⊢
    · cases send
    · rfl

/-! ## Evaluation is a step of a notifier -/

/-- What evaluating a result asks of the alert, the policy answers. -/
structure Obeys (policy : Policy CheckResult StateKey Time) (alert : Alert) (check : Check)
    (checkResult : CheckResult) (earlier : List CheckResult) (db : Db) : Prop where
  notSilence : alert.NotSilence
  fires : shouldFireAlert alert check checkResult db =
    .ok (policy.fires (checkResult :: earlier) ((lastMark alert check db).map (·.key)))
  key : computeAlertStateKey alert checkResult = .ok (policy.key checkResult)
  recovers : isRecovery alert checkResult = .ok (policy.recovers checkResult)
  mask : policy.mask = .parentDown
  resend : policy.resend = resendDue alert

/-- A plain alert obeys its policy. -/
theorem obeys_plain (plain : alert.isPlain = true) {earlier : List CheckResult}
    (ordered : NewestFirst (db.resultsOf check.id))
    (newest : db.resultsOf check.id = checkResult :: earlier) :
    Obeys alert.policy alert check checkResult earlier db where
  notSilence := notSilence_of_plain plain
  fires := by rw [shouldFire_plain plain ordered newest ((lastMark alert check db).map (·.key)), newest]
  key := stateKey_plain plain
  recovers := isRecovery_plain plain
  mask := rfl
  resend := rfl

section Obeys

variable {policy : Policy CheckResult StateKey Time} {earlier : List CheckResult}

/-- The decision of the source is what the notifier sends. -/
theorem shouldSend_obeys (now : Time) (obeys : Obeys policy alert check checkResult earlier db)
    (hashed : Hashed alert check db) :
    ∃ decision, shouldSendNotification now alert check checkResult db = .ok decision ∧
      policy.sends (inputOf alert check now checkResult db) (lastMark alert check db) =
        if decision.send then
          some ⟨policy.key checkResult, decision.isResend, decision.resendCount,
            policy.recovers checkResult⟩
        else none := by
  unfold shouldSendNotification Policy.sends inputOf
  dsimp only
  cases snoozed : isSnoozed now alert.id check.id db with
  | true => exact ⟨.skip, rfl, rfl⟩
  | false =>
    rcases found : lastMark alert check db with _ | mark
    · rw [lastMark_eq_none hashed found]
      exact ⟨.fresh, rfl, rfl⟩
    · obtain ⟨row, last, hash, time, count⟩ := lastMark_eq_some found
      rw [last]
      have changed : stateChangedSince alert checkResult row db =
          .ok (decide (mark.key ≠ policy.key checkResult)) := by
        rw [stateChangedSince, hash, obeys.key]
        simp [Except.map, bne, BEq.beq]
      by_cases same : mark.key = policy.key checkResult
      · refine ⟨resendDecision now alert row, ?_, ?_⟩
        · simp [changed, same, bind, Except.bind, pure, Except.pure]
        · have due := resendDecision_eq alert now time count
          rw [if_neg (by simp)]
          dsimp only
          rw [if_pos same, obeys.resend, due]
          split_ifs with send
          · rw [isResend_of_resend send]
            rfl
          · rfl
      · refine ⟨.fresh, ?_, ?_⟩
        · simp [changed, same, bind, Except.bind, pure, Except.pure]
        · simp [same, SendDecision.fresh]

/-- What an evaluation adds for the pair: nothing, or rows that all record what
the notifier records. -/
def Adds (alert : Alert) (check : Check) (now : Time) (rows : List NotificationLog)
    (before after : Option (Mark StateKey Time)) : Prop :=
  (rows = [] ∧ after = before) ∨
    (rows ≠ [] ∧ after.isSome = true ∧ ∀ row ∈ rows, row.alertId = alert.id ∧
      row.checkId = some check.id ∧ row.sentAt = now ∧ row.status ∈ dedupRelevantStatuses ∧
      row.mark = after)

/-- The rows of a step of the notifier, one for each live provider. -/
def rowsOf (outside : Outside) (now : Time) (alert : Alert) (check : Check) (checkResult : CheckResult)
    (db : Db) (before : Option (Mark StateKey Time))
    (stepped : Memory CheckResult StateKey Time × Option (Sent StateKey)) : List NotificationLog :=
  match stepped.2 with
  | some sent =>
    (db.listLiveProviders alert.id).map fun provider =>
      (noticeOf alert check checkResult sent).row now provider.id
        (attempt outside now (noticeOf alert check checkResult sent).context provider db)
  | none =>
    if stepped.1.last = before then []
    else suppressedRows now alert check checkResult .parentDown db

/-- A masked fire records the mask once. -/
theorem masked_adds (now : Time) (checkResult : CheckResult) (isMask : policy.mask = .parentDown)
    (hashed : Hashed alert check db) (live : db.listLiveProviders alert.id ≠ []) :
    let rows := if shouldLogSuppression alert check .parentDown db then
      suppressedRows now alert check checkResult .parentDown db else []
    let last := policy.masks (inputOf alert check now checkResult db) (lastMark alert check db)
    Adds alert check now rows (lastMark alert check db) last ∧
      rows = if last = lastMark alert check db then [] else
        suppressedRows now alert check checkResult .parentDown db := by
  dsimp only
  have log : shouldLogSuppression alert check .parentDown db =
      decide ((lastMark alert check db).map (·.key) ≠ some .parentDown) := by
    rw [shouldLogSuppression]
    rcases found : lastMark alert check db with _ | mark
    · rw [lastMark_eq_none hashed found]
      rfl
    · obtain ⟨row, last, hash, -, -⟩ := lastMark_eq_some found
      rw [last]
      apply Bool.eq_iff_iff.mpr
      simp [hash]
  rw [log, Policy.masks]
  by_cases same : (lastMark alert check db).map (·.key) = some .parentDown
  · rw [isMask, if_pos same, if_neg (by simp [same])]
    exact ⟨Or.inl ⟨rfl, rfl⟩, by simp⟩
  · have other : some ⟨.parentDown, (inputOf alert check now checkResult db).time, 0⟩ ≠
        lastMark alert check db := by
      intro is
      rw [← is] at same
      exact same rfl
    rw [isMask, if_neg same, if_pos (by simpa using same), if_neg other]
    refine ⟨Or.inr ⟨by simpa [suppressedRows] using live, rfl, fun row mem => ?_⟩, rfl⟩
    obtain ⟨a, b, c, d, hash, count⟩ := suppressedRows_about now alert check checkResult _ db row mem
    exact ⟨a, b, c, d, by rw [mark_of_hashed hash, c, count]; rfl⟩

/-- A fire that is not masked sends what the notifier sends. -/
theorem fireAlert_sends (outside : Outside) (now : Time)
    (obeys : Obeys policy alert check checkResult earlier db) (hashed : Hashed alert check db)
    (live : db.listLiveProviders alert.id ≠ [])
    (unmasked : (parentIsDown check db && !policy.recovers checkResult) = false) :
    ∃ written, fireAlert outside now alert check checkResult db = .ok written ∧
      match policy.sends (inputOf alert check now checkResult db) (lastMark alert check db) with
      | none => written.notices = [] ∧ written.rows = []
      | some sent => written.notices = [noticeOf alert check checkResult sent] ∧
          Adds alert check now written.rows (lastMark alert check db) (some ⟨sent.key, now, sent.count⟩) ∧
          written.rows = (db.listLiveProviders alert.id).map fun provider =>
            (noticeOf alert check checkResult sent).row now provider.id
              (attempt outside now (noticeOf alert check checkResult sent).context provider db) := by
  obtain ⟨decision, decided, sends⟩ := shouldSend_obeys now obeys hashed
  have unsuppressed : (if policy.recovers checkResult then none
      else handleParentSuppression now alert check checkResult db) = none := by
    unfold handleParentSuppression
    cases recovers : policy.recovers checkResult with
    | true => rfl
    | false =>
      rw [recovers] at unmasked
      simp at unmasked
      simp [unmasked]
  have start : fireAlert outside now alert check checkResult db = (do
      let decision ← shouldSendNotification now alert check checkResult db
      if !decision.send then return {}
      let stateKey ← computeAlertStateKey alert checkResult
      let notice : Notice :=
        { alertId := alert.id
          stateKey
          checkId := some check.id
          checkResultId := some checkResult.id
          context := { success := checkResult.success, isRecovery := policy.recovers checkResult }
          decision }
      let rows ← sendToProviders outside now notice db
      return { notices := if rows = [] then [] else [notice], rows }) := by
    rw [fireAlert, obeys.recovers]
    simp only [bind, Except.bind, unsuppressed]
  rw [start, decided, obeys.key, sends]
  cases send : decision.send with
  | false => exact ⟨{}, by simp [send, bind, Except.bind, pure, Except.pure], rfl, rfl⟩
  | true =>
    have isSend : decision = ⟨true, decision.isResend, decision.resendCount⟩ := by rw [← send]
    simp only [bind, Except.bind, send, Bool.not_true, Bool.false_eq_true, if_false, if_true,
      sendToProviders_eq, List.map_eq_nil_iff, live, pure, Except.pure]
    refine ⟨_, rfl, ?_, Or.inr ⟨by simpa using live, rfl, fun row mem => ?_⟩, ?_⟩
    · rw [isSend]
      rfl
    · obtain ⟨provider, -, rfl⟩ := List.mem_map.mp mem
      exact ⟨rfl, rfl, rfl, attempt_relevant .., rfl⟩
    · rw [isSend]
      rfl

/-- **Evaluating an alert is a step of the policy it obeys.** -/
theorem evaluateAlert_obeys (outside : Outside) (now : Time)
    (obeys : Obeys policy alert check checkResult earlier db) (hashed : Hashed alert check db)
    (live : db.listLiveProviders alert.id ≠ []) :
    ∃ written, evaluateAlert outside now alert check checkResult db = .ok written ∧
      let stepped := policy.step (inputOf alert check now checkResult db)
        ⟨earlier, lastMark alert check db⟩
      written.notices = stepped.2.toList.map (noticeOf alert check checkResult) ∧
        Adds alert check now written.rows (lastMark alert check db) stepped.1.last ∧
        written.rows = rowsOf outside now alert check checkResult db (lastMark alert check db) stepped := by
  unfold rowsOf
  rw [evaluateAlert, if_neg obeys.notSilence, obeys.fires]
  have seen : (inputOf alert check now checkResult db).seen = checkResult := rfl
  have masked : (inputOf alert check now checkResult db).masked = parentIsDown check db := rfl
  unfold Policy.step
  dsimp only
  rw [seen, masked]
  cases firing : policy.fires (checkResult :: earlier) ((lastMark alert check db).map (·.key)) with
  | false => exact ⟨{}, rfl, rfl, Or.inl ⟨rfl, rfl⟩, by simp⟩
  | true =>
    have goes : (do if ← (Except.ok true : Except EvaluationError Bool) then
          fireAlert outside now alert check checkResult db else return {}) =
        fireAlert outside now alert check checkResult db := rfl
    rw [goes]
    cases down : parentIsDown check db && !policy.recovers checkResult with
    | true =>
      rw [Bool.and_eq_true, Bool.not_eq_true'] at down
      refine ⟨{ rows := if shouldLogSuppression alert check .parentDown db then
        suppressedRows now alert check checkResult .parentDown db else [] }, ?_, rfl,
        masked_adds now checkResult obeys.mask hashed live⟩
      rw [fireAlert, obeys.recovers, down.2]
      simp [handleParentSuppression, down.1, bind, Except.bind, pure, Except.pure]
    | false =>
      obtain ⟨written, fired, result⟩ := fireAlert_sends outside now obeys hashed live down
      refine ⟨written, fired, ?_⟩
      simp only [Bool.not_true, Bool.false_eq_true, if_false]
      rcases sends : policy.sends (inputOf alert check now checkResult db)
        (lastMark alert check db) with _ | sent
      · rw [sends] at result
        exact ⟨result.1, Or.inl ⟨result.2, rfl⟩, by rw [result.2]; simp⟩
      · rw [sends] at result
        exact result

end Obeys

end Plain

end LuxSwirl.Server
