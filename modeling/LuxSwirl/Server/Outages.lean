import LuxSwirl.Server.Solo

/-!
# The notification of an outage

A `status_change` alert remembers the state it told of last. A state that fires
nothing is not told of: with recoveries neither notified nor fired on, the next
outage looks like the one before it.
-/

namespace LuxSwirl.Server
open LuxSwirl.Py LuxSwirl.Lib

/-- A result of the check that failed right after one that succeeded sends a
notification that is no resend. -/
def NotifiesOutage (outside : Outside) (alert : Alert) (check : Check) (db : Db) (event : Event) :
    Prop :=
  ∀ input, pairInput alert check db event = some input → input.seen.success = false →
    (db.resultsOf check.id).head?.any (·.success) = true →
    ∃ notice ∈ (step outside event db).2, notice.isOf alert check = true ∧
      notice.decision.isResend = false

/-- Every new outage notifies, in every run that nothing hinders. -/
def NotifiesOutages (alert : Alert) : Prop :=
  ∀ outside check db, Untouched alert check db → ∀ events,
    Allowed outside (fun db event => InOrder check db event ∧ Unhindered alert check db event) db events →
    Allowed outside (NotifiesOutage outside alert check) db events

/-- The newest result is the state the record knows, when it is a failure. -/
def KnowsOutage (memory : Memory CheckResult StateKey Time) : Prop :=
  (memory.history.head?.any fun result => !result.success) =
    decide (memory.last.map (·.key) = some .statusDown)

section Policy

variable {alert : Alert} {memory : Memory CheckResult StateKey Time} {input : Input CheckResult Time}

theorem fires_statusChange (type : alert.triggerType = .statusChange) (history : List CheckResult)
    (last : Option StateKey) : alert.policy.fires history last = statusFires alert history := by
  simp [Alert.policy, type]

theorem key_statusChange (type : alert.triggerType = .statusChange) (checkResult : CheckResult) :
    alert.policy.key checkResult = if checkResult.success then .statusUp else .statusDown := by
  simp [Alert.policy, plainKey, type]

/-- At one failure each, a failure fires when the alert is set on errors. -/
theorem fires_of_failure (type : alert.triggerType = .statusChange)
    (single : alert.triggerConfig.consecutiveFailures.getD 1 = 1) (failed : input.seen.success = false)
    (history : List CheckResult) (last : Option StateKey) :
    alert.policy.fires (input.seen :: history) last =
      decide (.error ∈ alert.triggerConfig.onStatus.getD [.error]) := by
  rw [fires_statusChange type, statusFires]
  by_cases onError : Status.error ∈ alert.triggerConfig.onStatus.getD [.error] <;>
    simp [failed, single, onError]

/-- At one failure each, a success fires as a recovery, or when the alert is set
on successes. -/
theorem fires_of_success (type : alert.triggerType = .statusChange)
    (single : alert.triggerConfig.consecutiveFailures.getD 1 = 1) (succeeded : input.seen.success = true)
    (history : List CheckResult) (last : Option StateKey) :
    alert.policy.fires (input.seen :: history) last =
      if alert.notifyOnRecovery then history.head?.any fun previous => !previous.success
      else decide (.success ∈ alert.triggerConfig.onStatus.getD [.error]) := by
  rw [fires_statusChange type, statusFires]
  cases recovery : alert.notifyOnRecovery with
  | true => simp [succeeded]
  | false =>
    by_cases onSuccess : Status.success ∈ alert.triggerConfig.onStatus.getD [.error] <;>
      simp [succeeded, single, onSuccess]

/-- An unhindered result keeps the record up with the outages. -/
theorem knowsOutage_step (type : alert.triggerType = .statusChange)
    (single : alert.triggerConfig.consecutiveFailures.getD 1 = 1)
    (onError : .error ∈ alert.triggerConfig.onStatus.getD [.error])
    (tells : alert.notifyOnRecovery = true ∨ .success ∈ alert.triggerConfig.onStatus.getD [.error])
    (unheld : input.held = false) (unmasked : input.masked = false) (knows : KnowsOutage memory) :
    KnowsOutage (alert.policy.step input memory).1 := by
  have visible : (input.masked && !alert.policy.recovers input.seen) = false := by simp [unmasked]
  unfold KnowsOutage at knows ⊢
  rw [Policy.history_step, List.head?_cons, Option.any_some]
  cases success : input.seen.success with
  | false =>
    have fires := fires_of_failure type single success memory.history (memory.last.map (·.key))
    rw [decide_eq_true onError] at fires
    rw [Policy.key_of_fire fires unheld visible, key_statusChange type, success]
    rfl
  | true =>
    have fires := fires_of_success type single success memory.history (memory.last.map (·.key))
    cases fired : alert.policy.fires (input.seen :: memory.history) (memory.last.map (·.key)) with
    | true =>
      rw [Policy.key_of_fire fired unheld visible, key_statusChange type, success]
      rfl
    | false =>
      have quiet : (memory.history.head?.any fun previous => !previous.success) = false := by
        rw [fired] at fires
        split_ifs at fires with recovery
        · exact fires.symm
        · exact absurd (tells.resolve_left recovery) (of_decide_eq_false fires.symm)
      rw [Policy.step_quiet fired, ← knows, quiet]
      rfl

end Policy

section Claim

variable {alert : Alert}

theorem isPlain_of_statusChange (type : alert.triggerType = .statusChange) : alert.isPlain = true := by
  simp [Alert.isPlain, type]

/-- An alert that is told of recoveries, or set on successes, and set on errors,
notifies every outage. -/
theorem notifiesOutages (type : alert.triggerType = .statusChange)
    (single : alert.triggerConfig.consecutiveFailures.getD 1 = 1)
    (onError : .error ∈ alert.triggerConfig.onStatus.getD [.error])
    (tells : alert.notifyOnRecovery = true ∨ .success ∈ alert.triggerConfig.onStatus.getD [.error]) :
    NotifiesOutages alert := by
  intro outside check db untouched events allowed
  have plain := isPlain_of_statusChange type
  refine allowed.each fun events event before allows input given failed afterSuccess => ?_
  obtain ⟨unheld, unmasked⟩ := allows.2 input given
  have knows : KnowsOutage (view alert check (run outside events db)) :=
    before.view_induction plain untouched (fun _ _ => And.left) KnowsOutage rfl
      fun _ _ _ _ allows given => knowsOutage_step type single onError tells
        (allows.2 _ given).1 (allows.2 _ given).2
  obtain ⟨tracked, -⟩ := run_view plain untouched (before.imp fun _ _ => And.left)
  rw [exists_notice outside plain tracked allows.1 given]
  have fires := fires_of_failure type single failed (view alert check (run outside events db)).history
    ((view alert check (run outside events db)).last.map (·.key))
  rw [decide_eq_true onError] at fires
  have fresh : (view alert check (run outside events db)).last.map (·.key) ≠
      some (alert.policy.key input.seen) := by
    rw [key_statusChange type, failed]
    obtain ⟨previous, isPrevious, succeeded⟩ := (Option.any_eq_true _ _).mp afterSuccess
    have history : (view alert check (run outside events db)).history.head? = some previous :=
      isPrevious
    rw [KnowsOutage, history, Option.any_some, succeeded] at knows
    exact of_decide_eq_false knows.symm
  rw [Policy.step_fresh fires unheld (by simp [unmasked]) fresh]
  exact ⟨_, rfl, rfl⟩

/-- A failure that does not fire is not notified. -/
theorem not_notifiesOutages_of_not_onError (type : alert.triggerType = .statusChange)
    (single : alert.triggerConfig.consecutiveFailures.getD 1 = 1) (enabled : alert.isEnabled = true)
    (alive : alert.deletedAt = none)
    (onError : .error ∉ alert.triggerConfig.onStatus.getD [.error]) : ¬ NotifiesOutages alert := by
  intro notifies
  have plain := isPlain_of_statusChange type
  have solo : Solo [soloInput 1 false, soloInput 0 true] := by
    constructor <;> simp [soloInput, soloResult]
  obtain ⟨allowed, -⟩ := solo_run alert solo
  obtain ⟨db, last, notifiesLast⟩ := solo_last plain enabled alive solo
    (notifies _ _ _ (soloDb_untouched enabled alive) _
      (allowed.imp fun _ _ allows => ⟨allows.inOrder, allows.unhindered⟩))
  have history := congrArg Memory.history last.view
  rw [Policy.history_after] at history
  obtain ⟨sent, isSent, -⟩ := (exists_notice calm plain last.tracked last.inOrder last.given _).mp
    (notifiesLast _ last.given rfl (by rw [show db.resultsOf soloCheck.id = _ from history]; rfl))
  have quiet : alert.policy.fires ((soloInput 1 false).seen :: (view alert soloCheck db).history)
      ((view alert soloCheck db).last.map (·.key)) = false := by
    rw [fires_of_failure type single rfl, decide_eq_false onError]
  rw [Policy.step_quiet quiet] at isSent
  cases isSent

/-- The second outage is taken for the first when nothing tells of what is
between them. -/
theorem not_notifiesOutages_of_silent_recovery (type : alert.triggerType = .statusChange)
    (single : alert.triggerConfig.consecutiveFailures.getD 1 = 1) (enabled : alert.isEnabled = true)
    (alive : alert.deletedAt = none) (onError : .error ∈ alert.triggerConfig.onStatus.getD [.error])
    (noRecovery : alert.notifyOnRecovery = false)
    (onSuccess : .success ∉ alert.triggerConfig.onStatus.getD [.error]) :
    ¬ NotifiesOutages alert := by
  intro notifies
  have plain := isPlain_of_statusChange type
  have solo : Solo [soloInput 2 false, soloInput 1 true, soloInput 0 false] := by
    constructor <;> simp [soloInput, soloResult]
  obtain ⟨allowed, -⟩ := solo_run alert solo
  obtain ⟨db, last, notifiesLast⟩ := solo_last plain enabled alive solo
    (notifies _ _ _ (soloDb_untouched enabled alive) _
      (allowed.imp fun _ _ allows => ⟨allows.inOrder, allows.unhindered⟩))
  have fires (n : Nat) (history : List CheckResult) (lastKey : Option StateKey) :
      alert.policy.fires ((soloInput n false).seen :: history) lastKey = true := by
    rw [fires_of_failure type single rfl, decide_eq_true onError]
  have down (n : Nat) : alert.policy.key (soloInput n false).seen = .statusDown := by
    rw [key_statusChange type]
    rfl
  -- the first outage is recorded, and the success after it changes nothing
  have first : alert.policy.after ⟨[], none⟩ [soloInput 0 false] =
      ⟨[(soloInput 0 false).seen], some ⟨.statusDown, 0, 0⟩⟩ := by
    rw [Policy.after, Policy.after, Policy.step_fresh (fires 0 _ _) rfl rfl (by simp), down]
    rfl
  have second : alert.policy.after ⟨[], none⟩ [soloInput 1 true, soloInput 0 false] =
      ⟨[(soloInput 1 true).seen, (soloInput 0 false).seen], some ⟨.statusDown, 0, 0⟩⟩ := by
    rw [Policy.after, first, Policy.step_quiet]
    rw [fires_of_success type single rfl, noRecovery, if_neg (by simp), decide_eq_false onSuccess]
  have history := congrArg Memory.history last.view
  rw [second] at history
  obtain ⟨sent, isSent, isFresh⟩ := (exists_notice calm plain last.tracked last.inOrder last.given _).mp
    (notifiesLast _ last.given rfl (by rw [show db.resultsOf soloCheck.id = _ from history]; rfl))
  rw [last.view, second, Policy.step_again (fires 2 _ _) rfl rfl rfl (down 2).symm] at isSent
  split at isSent
  · cases isSent
  · cases isSent
    cases isFresh

/-- **When every new outage notifies.** At one failure each, exactly the alerts
set on errors that are told of recoveries, or set on successes too. -/
theorem notifiesOutages_iff (type : alert.triggerType = .statusChange)
    (single : alert.triggerConfig.consecutiveFailures.getD 1 = 1) (enabled : alert.isEnabled = true)
    (alive : alert.deletedAt = none) :
    NotifiesOutages alert ↔ .error ∈ alert.triggerConfig.onStatus.getD [.error] ∧
      (alert.notifyOnRecovery = true ∨ .success ∈ alert.triggerConfig.onStatus.getD [.error]) := by
  constructor
  · intro notifies
    have onError : .error ∈ alert.triggerConfig.onStatus.getD [.error] := by
      by_contra quiet
      exact not_notifiesOutages_of_not_onError type single enabled alive quiet notifies
    refine ⟨onError, ?_⟩
    by_contra silent
    rw [not_or, Bool.not_eq_true] at silent
    exact not_notifiesOutages_of_silent_recovery type single enabled alive onError silent.1 silent.2
      notifies
  · rintro ⟨onError, tells⟩
    exact notifiesOutages type single onError tells

/-- An alert on errors that is told of recoveries notifies every outage. -/
theorem notifiesOutages_default : NotifiesOutages { id := 0, triggerType := .statusChange } :=
  (notifiesOutages_iff rfl rfl rfl rfl).mpr ⟨by decide, Or.inl rfl⟩

/-- Without recoveries the second outage is not notified: a failure, a success
and a failure. -/
theorem second_outage_unnoticed :
    ¬ NotifiesOutages { id := 0, triggerType := .statusChange, notifyOnRecovery := false } :=
  not_notifiesOutages_of_silent_recovery rfl rfl rfl rfl (by decide) rfl (by decide)

end Claim

end LuxSwirl.Server
