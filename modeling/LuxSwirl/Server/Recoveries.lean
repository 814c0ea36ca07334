import LuxSwirl.Server.Outages

/-!
# The notification of a recovery

A `status_change` alert tells of a recovery after any failure, and of an outage
after as many failures as it counts. What the log recorded last is what the
results last gave it to tell, `lastCue`, and so a recovery is told of without an
outage exactly where they gave it none.
-/

namespace LuxSwirl.Server
open LuxSwirl.Py LuxSwirl.Lib

/-- A recovery is sent only when an outage was recorded after the last recovery. -/
def RecoversFromOutage (outside : Outside) (alert : Alert) (check : Check) (db : Db) (event : Event) :
    Prop :=
  ∀ notice ∈ (step outside event db).2, notice.isOf alert check = true →
    notice.context.isRecovery = true →
    ∃ down ∈ db.pairRows alert.id check.id, down.notificationHash = some .statusDown ∧
      ∀ up ∈ db.pairRows alert.id check.id, up.notificationHash = some .statusUp →
        up.sentAt < down.sentAt

/-! ## What the results give to tell -/

/-- The newest result is one failure too many in a row, and the alert is set on errors. -/
def Alert.alarms (alert : Alert) : List CheckResult → Bool
  | [] => false
  | newest :: earlier =>
    let failures := alert.triggerConfig.consecutiveFailures.getD 1
    !newest.success && decide (.error ∈ alert.triggerConfig.onStatus.getD [.error]) &&
      decide (failures ≤ (newest :: earlier).length) &&
      ((newest :: earlier).take failures).all fun result => !result.success

/-- The newest result succeeded and the one before it failed. -/
def returns : List CheckResult → Bool
  | newest :: previous :: _ => newest.success && !previous.success
  | _ => false

inductive Cue where
  | alarm
  | recovery
  deriving DecidableEq

def Cue.key : Cue → StateKey
  | .alarm => .statusDown
  | .recovery => .statusUp

/-- What the unsnoozed results gave the alert to tell last; newest first. -/
def lastCue (alert : Alert) : List (Input CheckResult Time) → Option Cue
  | [] => none
  | input :: earlier =>
    let results := input.seen :: earlier.map (·.seen)
    if input.held then lastCue alert earlier
    else if alert.alarms results then some .alarm
    else if returns results then some .recovery
    else lastCue alert earlier

/-- An unsnoozed return comes after an alarm that no return came after, or after
another return and with no resend due. -/
def ReturnsFromAlarm (outside : Outside) (alert : Alert) (check : Check) (start : Db)
    (events : List Event) (event : Event) : Prop :=
  let db := run outside events start
  let inputs := inputsOf outside alert check events start
  ∀ input, pairInput alert check db event = some input → input.held = false →
    returns (input.seen :: inputs.map (·.seen)) = true →
    lastCue alert inputs = some .alarm ∨
      (lastCue alert inputs = some .recovery ∧
        ((lastMark alert check db).bind (resendDue alert input.time)) = none)

section Policy

variable {alert : Alert} {memory : Memory CheckResult StateKey Time} {input : Input CheckResult Time}

/-- Told of recoveries, the alert fires on what alarms and on what returns. -/
theorem statusFires_eq (recovery : alert.notifyOnRecovery = true) (history : List CheckResult) :
    statusFires alert history = (alert.alarms history || returns history) := by
  rcases history with _ | ⟨newest, earlier⟩
  · rfl
  · cases success : newest.success with
    | true =>
      rcases earlier with _ | ⟨previous, rest⟩ <;>
        simp [statusFires, Alert.alarms, returns, success, recovery]
    | false =>
      have noReturn : returns (newest :: earlier) = false := by
        rcases earlier with _ | ⟨previous, rest⟩ <;> simp [returns, success]
      rw [noReturn, Bool.or_false]
      by_cases onError : Status.error ∈ alert.triggerConfig.onStatus.getD [.error]
      · rcases failures : alert.triggerConfig.consecutiveFailures.getD 1 with _ | _ | n
        · simp [statusFires, Alert.alarms, success, onError, failures]
        · simp [statusFires, Alert.alarms, success, onError, failures]
        · have enough : n + 1 ≤ earlier.length ↔ n < earlier.length := Nat.succ_le_iff
          by_cases longer : n < earlier.length
          · simp [statusFires, Alert.alarms, success, onError, failures, enough, longer]
          · simp [statusFires, Alert.alarms, success, onError, failures, enough, longer]
      · simp [statusFires, Alert.alarms, success, onError]

theorem success_of_alarms {newest : CheckResult} {earlier : List CheckResult}
    (alarms : alert.alarms (newest :: earlier) = true) : newest.success = false := by
  simp only [Alert.alarms, Bool.and_eq_true, Bool.not_eq_true'] at alarms
  exact alarms.1.1.1

theorem success_of_returns {newest : CheckResult} {earlier : List CheckResult}
    (back : returns (newest :: earlier) = true) : newest.success = true := by
  rcases earlier with _ | ⟨previous, rest⟩
  · cases back
  · simp only [returns, Bool.and_eq_true] at back
    exact back.1

theorem key_of_alarms (type : alert.triggerType = .statusChange) {earlier : List CheckResult}
    (alarms : alert.alarms (input.seen :: earlier) = true) :
    alert.policy.key input.seen = Cue.alarm.key := by
  rw [key_statusChange type, success_of_alarms alarms]
  rfl

theorem key_of_returns (type : alert.triggerType = .statusChange) {earlier : List CheckResult}
    (back : returns (input.seen :: earlier) = true) :
    alert.policy.key input.seen = Cue.recovery.key := by
  rw [key_statusChange type, success_of_returns back]
  rfl

/-- **The newest record is of the last cue**, and is after the next result. -/
theorem lastCue_step (type : alert.triggerType = .statusChange)
    (recovery : alert.notifyOnRecovery = true) (unmasked : input.masked = false)
    {inputs : List (Input CheckResult Time)} (history : memory.history = inputs.map (·.seen))
    (last : memory.last.map (·.key) = (lastCue alert inputs).map Cue.key) :
    (alert.policy.step input memory).1.last.map (·.key) =
      (lastCue alert (input :: inputs)).map Cue.key := by
  have visible : (input.masked && !alert.policy.recovers input.seen) = false := by simp [unmasked]
  have fires : alert.policy.fires (input.seen :: memory.history) (memory.last.map (·.key)) =
      (alert.alarms (input.seen :: inputs.map (·.seen)) ||
        returns (input.seen :: inputs.map (·.seen))) := by
    rw [fires_statusChange type, statusFires_eq recovery, history]
  unfold lastCue
  dsimp only
  cases held : input.held with
  | true =>
    rw [Policy.step_held held visible, if_pos rfl]
    exact last
  | false =>
    rw [if_neg (by simp)]
    cases alarms : alert.alarms (input.seen :: inputs.map (·.seen)) with
    | true =>
      rw [alarms, Bool.true_or] at fires
      rw [Policy.key_of_fire fires held visible, key_of_alarms type alarms, if_pos rfl]
      rfl
    | false =>
      rw [alarms, Bool.false_or] at fires
      rw [if_neg (by simp)]
      cases back : returns (input.seen :: inputs.map (·.seen)) with
      | true =>
        rw [back] at fires
        rw [Policy.key_of_fire fires held visible, key_of_returns type back, if_pos rfl]
        rfl
      | false =>
        rw [back] at fires
        rw [Policy.step_quiet fires, if_neg (by simp)]
        exact last

end Policy

/-! ## What the log says -/

/-- Every row of the pair is of an outage or of a recovery, and rows of one time
are of one of the two. -/
structure LogsStates (alert : Alert) (check : Check) (db : Db) : Prop where
  state : ∀ row ∈ db.pairRows alert.id check.id,
    row.notificationHash = some .statusDown ∨ row.notificationHash = some .statusUp
  time : ∀ row ∈ db.pairRows alert.id check.id, ∀ other ∈ db.pairRows alert.id check.id,
    row.sentAt = other.sentAt → row.notificationHash = other.notificationHash

section Log

variable {outside : Outside} {alert : Alert} {check : Check} {db : Db} {events : List Event}

/-- An outage was recorded after the last recovery exactly when it is the newest record. -/
theorem outage_is_newest (logs : LogsStates alert check db) (hashed : Hashed alert check db) :
    (∃ down ∈ db.pairRows alert.id check.id, down.notificationHash = some .statusDown ∧
      ∀ up ∈ db.pairRows alert.id check.id, up.notificationHash = some .statusUp →
        up.sentAt < down.sentAt) ↔
      (lastMark alert check db).map (·.key) = some .statusDown := by
  constructor
  · rintro ⟨down, mem, isDown, later⟩
    rcases found : lastMark alert check db with _ | mark
    · have none_ := lastMark_eq_none hashed found
      rw [Db.getLastNotificationForDedup, newest_eq_none] at none_
      rw [none_] at mem
      cases mem
    · obtain ⟨row, isNewest, hash, -, -⟩ := lastMark_eq_some found
      have within := mem_of_newest _ isNewest
      rcases logs.state row within with same | same
      · rw [hash] at same
        exact same
      · exact absurd (later row within same) (not_lt.mpr (le_newest _ isNewest down mem))
  · intro last
    obtain ⟨mark, found, isDown⟩ := Option.map_eq_some_iff.mp last
    obtain ⟨row, isNewest, hash, -, -⟩ := lastMark_eq_some found
    have within := mem_of_newest _ isNewest
    refine ⟨row, within, hash.trans (congrArg some isDown), fun up mem isUp => ?_⟩
    refine lt_of_le_of_ne (le_newest _ isNewest up mem) fun same => ?_
    have := logs.time up mem row within same
    rw [isUp, hash, isDown] at this
    cases this

/-- What holds of the pair after any run. -/
structure CuesLogged (outside : Outside) (alert : Alert) (check : Check) (start : Db)
    (events : List Event) : Prop where
  tracked : Tracked alert check (run outside events start)
  history : (view alert check (run outside events start)).history =
    (inputsOf outside alert check events start).map (·.seen)
  last : (view alert check (run outside events start)).last.map (·.key) =
    (lastCue alert (inputsOf outside alert check events start)).map Cue.key
  logs : LogsStates alert check (run outside events start)

theorem unmasked_of_no_parent (noParent : check.dependsOnCheckId = none) {event : Event}
    {input : Input CheckResult Time} (given : pairInput alert check db event = some input) :
    input.masked = false := by
  obtain ⟨checkResult, now, rfl, -, rfl⟩ := of_pairInput given
  show parentIsDown check _ = false
  rw [parentIsDown, noParent]

theorem cuesLogged (type : alert.triggerType = .statusChange) (recovery : alert.notifyOnRecovery = true)
    (noParent : check.dependsOnCheckId = none) (untouched : Untouched alert check db)
    (allowed : Allowed outside (InOrder check) db events) :
    CuesLogged outside alert check db events := by
  have plain := isPlain_of_statusChange type
  induction allowed with
  | nil =>
    refine ⟨untouched.tracked, ?_, ?_, ?_, ?_⟩
    · rw [run_nil, untouched.view]
      rfl
    · rw [run_nil, untouched.view]
      rfl
    · rw [run_nil, untouched.rows]
      simp
    · rw [run_nil, untouched.rows]
      simp
  | @snoc events event before inOrder ih =>
    have tracked := (step_view outside plain ih.tracked inOrder).1
    rcases given : pairInput alert check (run outside events db) event with _ | input
    · have leaves := step_leaves outside (notSilence_of_plain plain) ih.tracked.watched given
      have inputs : inputsOf outside alert check (events ++ [event]) db =
          inputsOf outside alert check events db := by
        rw [inputsOf_snoc, given]
        rfl
      refine ⟨run_snoc .. ▸ tracked, ?_, ?_, ?_, ?_⟩
      · rw [run_snoc, leaves.view, inputs]
        exact ih.history
      · rw [run_snoc, leaves.view, inputs]
        exact ih.last
      · rw [run_snoc, leaves.rows]
        exact ih.logs.state
      · rw [run_snoc, leaves.rows]
        exact ih.logs.time
    · have steps := step_steps outside plain ih.tracked inOrder given
      have inputs : inputsOf outside alert check (events ++ [event]) db =
          input :: inputsOf outside alert check events db := by
        rw [inputsOf_snoc, given]
        rfl
      have last := lastCue_step type recovery (unmasked_of_no_parent noParent given) ih.history ih.last
      obtain ⟨new, added, each⟩ := steps.rows
      -- a new row records the newest cue
      have hash : ∀ row ∈ new, row.notificationHash =
          (lastCue alert (input :: inputsOf outside alert check events db)).map Cue.key := by
        intro row mem
        obtain ⟨key, isKey⟩ := Option.isSome_iff_exists.mp
          (steps.hashed row (added ▸ List.mem_append_right _ mem))
        have isMark := (each row mem).2
        rw [mark_of_hashed isKey] at isMark
        rw [← last, ← isMark, isKey]
        rfl
      refine ⟨run_snoc .. ▸ tracked, ?_, ?_, ?_, ?_⟩
      · rw [run_snoc, steps.view, Policy.history_step, inputs, ih.history]
        rfl
      · rw [run_snoc, steps.view, inputs]
        exact last
      · rw [run_snoc, added]
        intro row mem
        rcases List.mem_append.mp mem with old | isNew
        · exact ih.logs.state row old
        · obtain ⟨key, isKey⟩ := Option.isSome_iff_exists.mp
            (steps.hashed row (added ▸ List.mem_append_right _ isNew))
          have isCue := hash row isNew
          rw [isKey] at isCue ⊢
          obtain ⟨cue, -, rfl⟩ := Option.map_eq_some_iff.mp isCue.symm
          cases cue with
          | alarm => exact Or.inl rfl
          | recovery => exact Or.inr rfl
      · rw [run_snoc, added]
        intro row mem other otherMem same
        rcases List.mem_append.mp mem with old | isNew <;>
          rcases List.mem_append.mp otherMem with otherOld | otherNew
        · exact ih.logs.time row old other otherOld same
        · exact absurd (same.trans (each other otherNew).1) (ne_of_lt (steps.later row old))
        · exact absurd (same.symm.trans (each row isNew).1) (ne_of_lt (steps.later other otherOld))
        · rw [hash row isNew, hash other otherNew]

/-- A result of the check sends a recovery exactly when it is an unsnoozed return
that the newest record does not hold back. -/
theorem sends_recovery_iff (memory : Memory CheckResult StateKey Time)
    (type : alert.triggerType = .statusChange) (recovery : alert.notifyOnRecovery = true)
    {input : Input CheckResult Time} (unmasked : input.masked = false) :
    (∃ sent, (alert.policy.step input memory).2 = some sent ∧ sent.recovers = true) ↔
      input.held = false ∧ returns (input.seen :: memory.history) = true ∧
        ∀ mark, memory.last = some mark → mark.key = .statusUp →
          (resendDue alert input.time mark).isSome = true := by
  have visible : (input.masked && !alert.policy.recovers input.seen) = false := by simp [unmasked]
  have fires : alert.policy.fires (input.seen :: memory.history) (memory.last.map (·.key)) =
      (alert.alarms (input.seen :: memory.history) || returns (input.seen :: memory.history)) := by
    rw [fires_statusChange type, statusFires_eq recovery]
  have recovers : alert.policy.recovers input.seen = input.seen.success := by
    simp [Alert.policy, recovery]
  cases held : input.held with
  | true => simp [Policy.step_held held visible]
  | false =>
    cases back : returns (input.seen :: memory.history) with
    | false =>
      simp only [Bool.false_eq_true, false_and, and_false, iff_false, not_exists, not_and]
      intro sent isSent isRecovery
      obtain ⟨fired, same⟩ := Policy.of_sent isSent
      rw [fires, back, Bool.or_false] at fired
      rw [isRecovery, recovers, success_of_alarms fired] at same
      cases same
    | true =>
      have up : alert.policy.key input.seen = .statusUp := key_of_returns type back
      have success : alert.policy.recovers input.seen = true := recovers.trans (success_of_returns back)
      rw [back, Bool.or_true] at fires
      by_cases again : memory.last.map (·.key) = some .statusUp
      · obtain ⟨mark, last, same⟩ := Option.map_eq_some_iff.mp again
        have resend : alert.policy.resend input.time mark = resendDue alert input.time mark := rfl
        rw [Policy.step_again fires held visible last (same.trans up.symm), resend, last]
        cases due : resendDue alert input.time mark <;> simp [success, same, due]
      · rw [Policy.step_fresh fires held visible (up ▸ again)]
        simp only [success, Option.some.injEq, exists_eq_left', true_and, true_iff]
        intro mark last same
        exact absurd (by rw [last, Option.map_some, same]) again

/-- After any run, an event sends no recovery without an outage exactly when it
is no return, or one that comes after an alarm. -/
theorem recoversFromOutage_iff (type : alert.triggerType = .statusChange)
    (recovery : alert.notifyOnRecovery = true) (noParent : check.dependsOnCheckId = none)
    (untouched : Untouched alert check db) (allowed : Allowed outside (InOrder check) db events)
    {event : Event} (inOrder : InOrder check (run outside events db) event) :
    RecoversFromOutage outside alert check (run outside events db) event ↔
      ReturnsFromAlarm outside alert check db events event := by
  have plain := isPlain_of_statusChange type
  have logged := cuesLogged type recovery noParent untouched allowed
  unfold RecoversFromOutage ReturnsFromAlarm
  dsimp only
  rw [outage_is_newest logged.logs logged.tracked.hashed]
  rcases given : pairInput alert check (run outside events db) event with _ | input
  · have quiet := (step_leaves outside (notSilence_of_plain plain) logged.tracked.watched given).quiet
    rw [List.filter_eq_nil_iff] at quiet
    refine iff_of_true (fun notice mem isOf _ => absurd isOf (quiet notice mem)) ?_
    rintro input ⟨⟩
  · have sends := sends_recovery_iff (view alert check (run outside events db)) type recovery
      (unmasked_of_no_parent noParent given)
    rw [logged.history] at sends
    have notices := exists_notice outside plain logged.tracked inOrder given
      fun notice => notice.context.isRecovery = true
    have last : (lastMark alert check (run outside events db)).map (·.key) =
      (lastCue alert (inputsOf outside alert check events db)).map Cue.key := logged.last
    constructor
    · rintro onlyAfter input ⟨⟩ unheld back
      -- a recovery that is sent has the outage for newest record
      have ofSent (due : ∀ mark, lastMark alert check (run outside events db) = some mark →
          mark.key = .statusUp → (resendDue alert input.time mark).isSome = true) :
          (lastCue alert (inputsOf outside alert check events db)).map Cue.key = some .statusDown := by
        obtain ⟨notice, mem, isOf, isRecovery⟩ := notices.mpr (sends.mpr ⟨unheld, back, due⟩)
        exact last ▸ onlyAfter notice mem isOf isRecovery
      rcases cue : lastCue alert (inputsOf outside alert check events db) with _ | _ | _
      · rw [cue] at last ofSent
        cases ofSent fun mark isMark _ => by simp [isMark] at last
      · exact Or.inl rfl
      · refine Or.inr ⟨rfl, ?_⟩
        rw [cue] at ofSent
        by_contra some_
        cases ofSent fun mark isMark _ => by
          rwa [isMark, Option.bind_some, ← ne_eq, ← Option.isSome_iff_ne_none] at some_
    · intro cond notice mem isOf isRecovery
      obtain ⟨unheld, back, due⟩ := sends.mp (notices.mp ⟨notice, mem, isOf, isRecovery⟩)
      rcases cond input rfl unheld back with alarm | ⟨cue, noResend⟩
      · rw [last, alarm]
        rfl
      · rw [cue] at last
        obtain ⟨mark, isMark, isUp⟩ := Option.map_eq_some_iff.mp last
        have isDue := due mark isMark isUp
        rw [isMark, Option.bind_some] at noResend
        rw [noResend] at isDue
        cases isDue

/-- **When no recovery comes without an outage.** A run sends none exactly when
each of its unsnoozed returns comes after an alarm, or after another return with
no resend due. -/
theorem recoveriesFromOutages_iff (type : alert.triggerType = .statusChange)
    (recovery : alert.notifyOnRecovery = true) (noParent : check.dependsOnCheckId = none)
    (untouched : Untouched alert check db) (allowed : Allowed outside (InOrder check) db events) :
    (∀ front event back, events = front ++ event :: back →
      RecoversFromOutage outside alert check (run outside front db) event) ↔
    ∀ front event back, events = front ++ event :: back →
      ReturnsFromAlarm outside alert check db front event := by
  refine forall_congr' fun front => forall_congr' fun event => forall_congr' fun back =>
    forall_congr' fun split => ?_
  obtain ⟨before, inOrder⟩ := (split ▸ allowed).of_append
  exact recoversFromOutage_iff type recovery noParent untouched before inOrder

end Log

/-- A failure and a success of one alert on one failure: its recovery comes from
an outage. -/
theorem recoversFromOutage_of_failure :
    let alert : Alert := { id := 0, triggerType := .statusChange }
    ∀ front event back,
      soloEvents [soloInput 1 true, soloInput 0 false] = front ++ event :: back →
        RecoversFromOutage calm alert soloCheck (run calm front (soloDb alert)) event := by
  intro alert
  have solo : Solo [soloInput 1 true, soloInput 0 false] := by
    constructor <;> simp [soloInput, soloResult]
  have plain : alert.isPlain = true := rfl
  obtain ⟨allowed, -⟩ := solo_run _ solo
  refine (recoveriesFromOutages_iff rfl rfl rfl (soloDb_untouched rfl rfl)
    (allowed.imp fun _ _ => SoloAllows.inOrder)).mpr fun front event back split => ?_
  have given := (solo_step plain rfl rfl solo).given
  have givenFirst := (solo_step plain rfl rfl solo.tail).given
  obtain ⟨-, inputs, -⟩ := solo_run _ solo.tail
  rcases front with _ | ⟨first, _ | ⟨second, rest⟩⟩
  · cases split
    intro input same unheld back
    cases givenFirst.symm.trans same
    cases back
  · cases split
    intro input same unheld back
    cases given.symm.trans same
    exact Or.inl (congrArg (lastCue alert) inputs)
  · simp [soloEvents] at split

/-- A recovery without an outage: at two failures each, one failure and a success. -/
theorem recovery_without_outage :
    let alert : Alert :=
      { id := 0, triggerType := .statusChange, triggerConfig := { consecutiveFailures := some 2 } }
    ¬ ∀ outside check db events, check.dependsOnCheckId = none → Untouched alert check db →
      Allowed outside (InOrder check) db events →
      ∀ front event back, events = front ++ event :: back →
        RecoversFromOutage outside alert check (run outside front db) event := by
  intro alert recovers
  have solo : Solo [soloInput 1 true, soloInput 0 false] := by
    constructor <;> simp [soloInput, soloResult]
  have plain : alert.isPlain = true := rfl
  have untouched : Untouched alert soloCheck (soloDb alert) := soloDb_untouched rfl rfl
  obtain ⟨allowed, -⟩ := solo_run _ solo
  obtain ⟨before, inputs, -⟩ := solo_run _ solo.tail
  have last := solo_step plain rfl rfl solo
  have fromAlarm := (recoversFromOutage_iff rfl rfl rfl untouched
      (before.imp fun _ _ => SoloAllows.inOrder) last.inOrder).mp
    (recovers calm soloCheck (soloDb alert) _ rfl untouched
      (allowed.imp fun _ _ => SoloAllows.inOrder) _ _ [] (soloEvents_cons ..))
  have cue := fromAlarm _ last.given rfl (by rw [inputs]; rfl)
  rw [inputs] at cue
  rcases cue with alarm | ⟨recovery, -⟩
  · cases alarm
  · cases recovery

end LuxSwirl.Server
