import LuxSwirl.Server.Outages

/-!
# Repeated failures

`repeated_failure` shares the trigger of `status_change`, under one state key
for all it fires on. The two tell the same as long as an alert fires on results
of one kind only.
-/

namespace LuxSwirl.Server
open LuxSwirl.Py LuxSwirl.Lib

/-- The alert under another trigger. -/
def Alert.retrigger (alert : Alert) (type : AlertTriggerType) : Alert :=
  { alert with triggerType := type }

/-- The tables with the alert under another trigger. -/
def Db.retrigger (alertId : Id) (type : AlertTriggerType) (db : Db) : Db :=
  { db with
    alerts := db.alerts.map fun alert =>
      if alert.id = alertId then alert.retrigger type else alert }

/-- What an event sends for the pair: whether as a resend, which, and whether as
a recovery. -/
def outcomes (outside : Outside) (alert : Alert) (check : Check) (db : Db) (event : Event) :
    List (Bool × Nat × Bool) :=
  ((step outside event db).2.filter (Notice.isOf alert check)).map fun notice =>
    (notice.decision.isResend, notice.decision.resendCount, notice.context.isRecovery)

/-- The alert tells the same as a `repeated_failure` alert, in every run. -/
def TellsAsRepeatedFailure (alert : Alert) : Prop :=
  ∀ outside check db, Untouched alert check db → ∀ events event,
    Allowed outside (InOrder check) db (events ++ [event]) →
    Allowed outside (InOrder check) (db.retrigger alert.id .repeatedFailure) (events ++ [event]) →
    outcomes outside alert check (run outside events db) event =
      outcomes outside (alert.retrigger .repeatedFailure) check
        (run outside events (db.retrigger alert.id .repeatedFailure)) event

/-- The alert fires on failures, and on successes too. -/
def Alert.firesBothWays (alert : Alert) : Prop :=
  .error ∈ alert.triggerConfig.onStatus.getD [.error] ∧
    (alert.notifyOnRecovery = true ∨
      (.success ∈ alert.triggerConfig.onStatus.getD [.error] ∧
        alert.triggerConfig.consecutiveFailures.getD 1 ≤ 1))

instance (alert : Alert) : Decidable alert.firesBothWays := by
  unfold Alert.firesBothWays
  infer_instance

section Policy

variable {alert : Alert}

/-- An alert that is not set on errors does not fire on a failure. -/
theorem statusFires_failure (onError : .error ∉ alert.triggerConfig.onStatus.getD [.error])
    {checkResult : CheckResult} (failed : checkResult.success = false) (history : List CheckResult) :
    statusFires alert (checkResult :: history) = false := by
  simp [statusFires, failed, onError]

/-- An alert that fires neither on recoveries nor on successes does not fire on
a success. -/
theorem statusFires_success (noRecovery : alert.notifyOnRecovery = false)
    (onSuccess : .success ∈ alert.triggerConfig.onStatus.getD [.error] →
      1 < alert.triggerConfig.consecutiveFailures.getD 1)
    {checkResult : CheckResult} (succeeded : checkResult.success = true) (history : List CheckResult) :
    statusFires alert (checkResult :: history) = false := by
  by_cases listed : Status.success ∈ alert.triggerConfig.onStatus.getD [.error]
  · have several := onSuccess listed
    obtain ⟨n, count⟩ : ∃ n, alert.triggerConfig.consecutiveFailures.getD 1 = n + 1 :=
      ⟨_, (Nat.sub_add_cancel (by omega)).symm⟩
    rw [count] at several
    simp [statusFires, succeeded, noRecovery, listed, count, several]
  · simp [statusFires, succeeded, noRecovery, listed]

/-- Failures as many as the alert counts fire. -/
theorem statusFires_of_failures (onError : .error ∈ alert.triggerConfig.onStatus.getD [.error])
    {history : List CheckResult} (failures : ∀ checkResult ∈ history, checkResult.success = false)
    (some_ : history ≠ [])
    (enough : alert.triggerConfig.consecutiveFailures.getD 1 ≤ history.length) :
    statusFires alert history = true := by
  obtain ⟨newest, earlier, rfl⟩ := List.exists_cons_of_ne_nil some_
  have newestFailed := failures newest (List.mem_cons_self ..)
  have recent : ((newest :: earlier).take (alert.triggerConfig.consecutiveFailures.getD 1)).all
      (fun result => !result.success) = true := by
    rw [List.all_eq_true]
    intro result mem
    simp [failures result (List.mem_of_mem_take mem)]
  rw [statusFires, newestFailed]
  simp only [Bool.false_eq_true, false_and, if_false, onError, not_true_eq_false]
  split_ifs with several short
  · rw [List.length_take, Nat.min_eq_left enough] at short
    exact absurd short (lt_irrefl _)
  · exact recent
  · rfl

/-- The policies differ in their keys alone, while the alert does not fire both ways. -/
theorem alike_repeatedFailure (type : alert.triggerType = .statusChange)
    (oneWay : ¬ alert.firesBothWays) :
    ∃ key, Policy.Alike alert.policy (alert.retrigger .repeatedFailure).policy key .repeatedFailure := by
  have fires (history : List CheckResult) (last : Option StateKey) :
      alert.policy.fires history last = statusFires alert history := fires_statusChange type history last
  have build (key : StateKey) (notMask : key ≠ .parentDown)
      (sameKey : ∀ seen history, statusFires alert (seen :: history) = true →
        alert.policy.key seen = key) :
      Policy.Alike alert.policy (alert.retrigger .repeatedFailure).policy key .repeatedFailure :=
    { fires := fun history last _ => fires history last
      recovers := fun _ => rfl
      mask := rfl
      resend := fun _ _ _ _ _ => rfl
      keyLeft := fun seen history last fired => sameKey seen history (fires _ last ▸ fired)
      keyRight := fun _ _ _ _ => rfl
      notMaskLeft := notMask
      notMaskRight := by rintro ⟨⟩ }
  by_cases onError : Status.error ∈ alert.triggerConfig.onStatus.getD [.error]
  · refine ⟨.statusDown, build _ (by rintro ⟨⟩) fun seen history fired => ?_⟩
    have noRecovery : alert.notifyOnRecovery = false := by
      by_contra recovery
      exact oneWay ⟨onError, Or.inl (Bool.not_eq_false _ ▸ recovery)⟩
    have failed : seen.success = false := by
      by_contra succeeded
      rw [Bool.not_eq_false] at succeeded
      rw [statusFires_success noRecovery (fun listed => by
        by_contra single
        exact oneWay ⟨onError, Or.inr ⟨listed, by omega⟩⟩) succeeded] at fired
      cases fired
    rw [key_statusChange type, failed]
    rfl
  · refine ⟨.statusUp, build _ (by rintro ⟨⟩) fun seen history fired => ?_⟩
    have succeeded : seen.success = true := by
      by_contra failed
      rw [Bool.not_eq_true] at failed
      rw [statusFires_failure onError failed] at fired
      cases fired
    rw [key_statusChange type, succeeded]
    rfl

end Policy

/-! ## The two runs -/

section Runs

variable {outside : Outside} {alert : Alert} {check : Check} {db : Db}

/-- The tables a pair's inputs are read from. -/
structure SameResults (db other : Db) : Prop where
  results : db.results = other.results
  checkMappings : db.checkMappings = other.checkMappings

theorem SameResults.step {db other : Db} (same : SameResults db other) (event : Event) :
    SameResults (step outside event db).1 (step outside event other).1 := by
  obtain ⟨rows, added⟩ := step_adds outside event db
  obtain ⟨rows', added'⟩ := step_adds outside event other
  rw [added, added']
  cases event with
  | report checkResult now =>
    rw [Event.settle, Event.settle, same.results]
    split_ifs
    · exact ⟨same.results, same.checkMappings⟩
    · exact ⟨congrArg (checkResult :: ·) same.results, same.checkMappings⟩
  | snooze alertId checkId snoozedUntil =>
    exact ⟨same.results, congrArg (List.map _) same.checkMappings⟩
  | heartbeat agentId receivedAt status => exact ⟨same.results, same.checkMappings⟩
  | silencePass now clock => exact ⟨same.results, same.checkMappings⟩

theorem SameResults.pairInput {db other : Db} (same : SameResults db other) (type : AlertTriggerType)
    (event : Event) :
    pairInput (alert.retrigger type) check other event = pairInput alert check db event := by
  cases event with
  | report checkResult now =>
    have held : isSnoozed now alert.id check.id (other.addResult checkResult) =
        isSnoozed now alert.id check.id (db.addResult checkResult) := by
      rw [isSnoozed, isSnoozed, Db.getCheckMapping, Db.getCheckMapping]
      show ((other.checkMappings.find? _).bind _).any _ = ((db.checkMappings.find? _).bind _).any _
      rw [same.checkMappings]
    have masked : parentIsDown check (other.addResult checkResult) =
        parentIsDown check (db.addResult checkResult) := by
      have results : (other.addResult checkResult).results = (db.addResult checkResult).results :=
        congrArg (checkResult :: ·) same.results.symm
      simp only [parentIsDown, Db.getLatestResultForCheck, Db.getRecentResultsForCheck, Db.resultsOf,
        results]
    have id : (alert.retrigger type).id = alert.id := rfl
    rw [Server.pairInput, Server.pairInput, inputOf, inputOf, masked, id, held]
  | snooze => rfl
  | heartbeat => rfl
  | silencePass => rfl

theorem SameResults.inputsOf {db other : Db} (same : SameResults db other) (type : AlertTriggerType)
    (events : List Event) :
    inputsOf outside (alert.retrigger type) check events other =
      inputsOf outside alert check events db := by
  induction events generalizing db other with
  | nil => rfl
  | cons event rest ih =>
    rw [Server.inputsOf, Server.inputsOf, same.pairInput, ih (same.step event)]

theorem SameResults.run (outside : Outside) {db other : Db} (same : SameResults db other)
    (events : List Event) : SameResults (run outside events db) (run outside events other) := by
  induction events generalizing db other with
  | nil => exact same
  | cons event rest ih => exact ih (same.step event)

/-- The pair under another trigger is as untouched. -/
theorem Untouched.retrigger (untouched : Untouched alert check db) (type : AlertTriggerType) :
    Untouched (alert.retrigger type) check (db.retrigger alert.id type) := by
  have watched := untouched.watched
  have ids : (db.retrigger alert.id type).alerts.map (·.id) = db.alerts.map (·.id) := by
    rw [Db.retrigger, List.map_map]
    refine List.map_congr_left fun other _ => ?_
    dsimp only [Function.comp]
    split_ifs <;> rfl
  refine ⟨{ watched with alertKeys := ids ▸ watched.alertKeys, isAlert := ?_ }, untouched.results,
    untouched.rows⟩
  refine List.mem_map.mpr ⟨alert, watched.isAlert, ?_⟩
  rw [if_pos rfl]

/-- What an event sends for the pair is what its notifier sends. -/
theorem outcomes_eq (plain : alert.isPlain = true) (untouched : Untouched alert check db)
    {events : List Event} {event : Event}
    (allowed : Allowed outside (InOrder check) db (events ++ [event])) :
    outcomes outside alert check (run outside events db) event =
      match pairInput alert check (run outside events db) event with
      | none => []
      | some input =>
        ((alert.policy.step input
          (alert.policy.after ⟨[], none⟩ (inputsOf outside alert check events db))).2.map
            Policy.outcome).toList := by
  obtain ⟨before, inOrder⟩ := allowed.of_snoc
  obtain ⟨tracked, sameView⟩ := run_view plain untouched before
  have stepped := (step_view outside plain tracked inOrder).2
  unfold outcomes
  cases given : pairInput alert check (run outside events db) event with
  | none =>
    rw [given] at stepped
    rw [stepped.2]
    rfl
  | some input =>
    rw [given] at stepped
    rw [stepped.2, sameView]
    dsimp only
    rw [List.map_map, Option.toList_map]
    rfl

/-- An alert that does not fire both ways tells as a `repeated_failure` alert. -/
theorem tellsAsRepeatedFailure (type : alert.triggerType = .statusChange)
    (oneWay : ¬ alert.firesBothWays) : TellsAsRepeatedFailure alert := by
  intro outside check db untouched events event allowed allowed'
  obtain ⟨key, alike⟩ := alike_repeatedFailure type oneWay
  have same : SameResults db (db.retrigger alert.id .repeatedFailure) := ⟨rfl, rfl⟩
  rw [outcomes_eq (isPlain_of_statusChange type) untouched allowed,
    outcomes_eq (by rfl) (untouched.retrigger _) allowed', same.inputsOf,
    (same.run outside events).pairInput]
  cases pairInput alert check (run outside events db) event with
  | none => rfl
  | some input =>
    have history : (alert.policy.after ⟨[], none⟩ (inputsOf outside alert check events db)).history =
        ((alert.retrigger .repeatedFailure).policy.after ⟨[], none⟩
          (inputsOf outside alert check events db)).history := by
      rw [Policy.history_after, Policy.history_after]
    exact congrArg Option.toList (alike.step history (alike.after _)).2

end Runs

/-! ## Where the two differ -/

/-- Some failures, newest first. -/
def soloFailures : Nat → List (Input CheckResult Time)
  | 0 => []
  | n + 1 => soloInput n false :: soloFailures n

theorem mem_soloFailures {n : Nat} {input : Input CheckResult Time} (mem : input ∈ soloFailures n) :
    ∃ k < n, input = soloInput k false := by
  induction n with
  | zero => cases mem
  | succ n ih =>
    rcases List.mem_cons.mp mem with rfl | earlier
    · exact ⟨n, Nat.lt_succ_self n, rfl⟩
    · obtain ⟨k, lt, same⟩ := ih earlier
      exact ⟨k, Nat.lt_succ_of_lt lt, same⟩

/-- Failures, and one more result. -/
theorem solo_soloFailures (n : Nat) (success : Bool) : Solo (soloInput n success :: soloFailures n) := by
  have later (k : Nat) (old : Input CheckResult Time) (mem : old ∈ soloFailures k) :
      old.time < k ∧ old.seen.timestamp < k := by
    obtain ⟨j, lt, rfl⟩ := mem_soloFailures mem
    exact ⟨Int.ofNat_lt.mpr lt, Int.ofNat_lt.mpr lt⟩
  refine ⟨fun input mem => ?_, fun input mem => ?_, ?_⟩
  · rcases List.mem_cons.mp mem with rfl | mem
    · rfl
    · obtain ⟨k, -, rfl⟩ := mem_soloFailures mem
      rfl
  · rcases List.mem_cons.mp mem with rfl | mem
    · exact ⟨rfl, rfl⟩
    · obtain ⟨k, -, rfl⟩ := mem_soloFailures mem
      exact ⟨rfl, rfl⟩
  · refine List.pairwise_cons.mpr ⟨later n, ?_⟩
    induction n with
    | zero => exact List.Pairwise.nil
    | succ n ih => exact List.pairwise_cons.mpr ⟨later n, ih⟩

theorem history_soloFailures (policy : Policy CheckResult StateKey Time) (n : Nat) :
    (∀ checkResult ∈ (policy.after ⟨[], none⟩ (soloFailures n)).history, checkResult.success = false) ∧
      (policy.after ⟨[], none⟩ (soloFailures n)).history.length = n := by
  rw [Policy.history_after, List.append_nil, List.length_map]
  constructor
  · intro checkResult mem
    obtain ⟨input, within, rfl⟩ := List.mem_map.mp mem
    obtain ⟨k, -, rfl⟩ := mem_soloFailures within
    rfl
  · induction n with
    | zero => rfl
    | succ n ih => rw [soloFailures, List.length_cons, ih]

section Differ

variable {alert : Alert}

/-- Enough failures fire, and are what is recorded last. -/
theorem last_soloFailures (policy : Policy CheckResult StateKey Time)
    (fires : ∀ history last, policy.fires history last = statusFires alert history)
    (onError : .error ∈ alert.triggerConfig.onStatus.getD [.error]) (n : Nat)
    (enough : alert.triggerConfig.consecutiveFailures.getD 1 ≤ n + 1) :
    (policy.after ⟨[], none⟩ (soloFailures (n + 1))).last.map (·.key) =
      some (policy.key (soloInput n false).seen) := by
  have history := history_soloFailures policy (n + 1)
  rw [soloFailures, Policy.after, Policy.history_step] at history
  refine Policy.key_of_fire ?_ rfl rfl
  rw [fires]
  exact statusFires_of_failures onError history.1 (List.cons_ne_nil _ _) (history.2 ▸ enough)

/-- After failures, a success fires when the alert fires both ways. -/
theorem fires_after_failures (bothWays : alert.firesBothWays) {history : List CheckResult} (n : Nat)
    (failures : ∀ checkResult ∈ history, checkResult.success = false) (some_ : history ≠ []) :
    statusFires alert ((soloInput n true).seen :: history) = true := by
  obtain ⟨newest, earlier, rfl⟩ := List.exists_cons_of_ne_nil some_
  have newestFailed := failures newest (List.mem_cons_self ..)
  have succeeded : (soloInput n true).seen.success = true := rfl
  rw [statusFires, succeeded]
  cases recovery : alert.notifyOnRecovery with
  | true => simp [newestFailed]
  | false =>
    obtain ⟨listed, single⟩ := bothWays.2.resolve_left (by simp [recovery])
    simp [listed, Nat.not_lt.mpr single]

theorem solo_inOrder (alert : Alert) {input : Input CheckResult Time}
    {earlier : List (Input CheckResult Time)} (solo : Solo (input :: earlier)) :
    Allowed calm (InOrder soloCheck) (soloDb alert)
      (soloEvents earlier ++ [.report input.seen input.time]) := by
  obtain ⟨allowed, -⟩ := solo_run alert solo
  rw [soloEvents_cons] at allowed
  exact allowed.imp fun _ _ => SoloAllows.inOrder

/-- What the last of some results sends. -/
theorem solo_outcomes (plain : alert.isPlain = true) (enabled : alert.isEnabled = true)
    (alive : alert.deletedAt = none) {input : Input CheckResult Time}
    {earlier : List (Input CheckResult Time)} (solo : Solo (input :: earlier)) :
    outcomes calm alert soloCheck (run calm (soloEvents earlier) (soloDb alert))
        (.report input.seen input.time) =
      ((alert.policy.step input (alert.policy.after ⟨[], none⟩ earlier)).2.map Policy.outcome).toList := by
  obtain ⟨-, inputs, -⟩ := solo_run alert solo.tail
  rw [outcomes_eq plain (soloDb_untouched enabled alive) (solo_inOrder alert solo),
    (solo_step plain enabled alive solo).given, inputs]

/-- An alert that fires both ways tells of the return after an outage; as a
`repeated_failure` alert it takes it for the outage. -/
theorem not_tellsAsRepeatedFailure (type : alert.triggerType = .statusChange)
    (enabled : alert.isEnabled = true) (alive : alert.deletedAt = none)
    (bothWays : alert.firesBothWays) : ¬ TellsAsRepeatedFailure alert := by
  intro tells
  have plain := isPlain_of_statusChange type
  have plain' : (alert.retrigger .repeatedFailure).isPlain = true := rfl
  obtain ⟨n, enough⟩ : ∃ n, alert.triggerConfig.consecutiveFailures.getD 1 ≤ n + 1 :=
    ⟨_, Nat.le_succ _⟩
  have solo := solo_soloFailures (n + 1) true
  have retriggered : (soloDb alert).retrigger alert.id .repeatedFailure =
      soloDb (alert.retrigger .repeatedFailure) := by
    simp [Db.retrigger, soloDb, Alert.retrigger]
  have same := tells calm soloCheck (soloDb alert) (soloDb_untouched enabled alive) _ _
    (solo_inOrder alert solo) (retriggered ▸ solo_inOrder _ solo)
  rw [retriggered, solo_outcomes plain enabled alive solo, solo_outcomes plain' enabled alive solo] at same
  have firesLeft (history : List CheckResult) (last : Option StateKey) :
      alert.policy.fires history last = statusFires alert history := fires_statusChange type history last
  have firesRight (history : List CheckResult) (last : Option StateKey) :
      (alert.retrigger .repeatedFailure).policy.fires history last = statusFires alert history := rfl
  have lastLeft := last_soloFailures alert.policy firesLeft bothWays.1 n enough
  have lastRight := last_soloFailures _ firesRight bothWays.1 n enough
  have some_ (policy : Policy CheckResult StateKey Time) :
      (policy.after ⟨[], none⟩ (soloFailures (n + 1))).history ≠ [] :=
    List.ne_nil_of_length_eq_add_one (history_soloFailures policy (n + 1)).2
  have goesLeft := fires_after_failures bothWays (n + 1)
    (history_soloFailures alert.policy (n + 1)).1 (some_ _)
  have goesRight := fires_after_failures bothWays (n + 1)
    (history_soloFailures (alert.retrigger .repeatedFailure).policy (n + 1)).1 (some_ _)
  obtain ⟨mark, isMark, isKey⟩ := Option.map_eq_some_iff.mp lastRight
  have again : mark.key = (alert.retrigger .repeatedFailure).policy.key (soloInput (n + 1) true).seen :=
    isKey
  -- the change of state is sent, and the same state at most again
  rw [Policy.step_fresh (firesLeft _ _ ▸ goesLeft) rfl rfl (by
      rw [lastLeft, key_statusChange type, key_statusChange type]
      simp [soloInput, soloResult]),
    Policy.step_again (firesRight _ _ ▸ goesRight) rfl rfl isMark again] at same
  split at same
  · cases same
  · cases same

end Differ

end LuxSwirl.Server
