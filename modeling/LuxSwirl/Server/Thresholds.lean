import LuxSwirl.Server.Solo

/-!
# The notifications of a threshold

A `threshold` alert fires on the results that meet its comparison, under one
state key. It never fires on a result that does not, so nothing tells of a
return, the first breach is remembered for good, and a breach counts as a
recovery when its check succeeded.
-/

namespace LuxSwirl.Server
open LuxSwirl.Py LuxSwirl.Lib

/-- A result of the check tells of its breach or of its return: one notification
for the first result that meets the comparison, no resend and no recovery; one
recovery for the first that does not after one that did; nothing otherwise. -/
structure TellsOfBreach (alert : Alert) (before : Bool) (met : Bool) (sent : List Notice) : Prop where
  breach : met = true → before = false →
    ∃ notice, sent = [notice] ∧ notice.decision.isResend = false ∧ notice.context.isRecovery = false
  return_ : met = false → before = true → ∃ notice, sent = [notice] ∧ notice.context.isRecovery = true
  otherwise : met = before → sent = []

/-- So does every result of the check the event reports. -/
def NotifiesBreach (outside : Outside) (alert : Alert) (check : Check) (db : Db) (event : Event) :
    Prop :=
  ∀ input, pairInput alert check db event = some input →
    TellsOfBreach alert ((db.resultsOf check.id).head?.any (evaluateThreshold alert))
      (evaluateThreshold alert input.seen)
      ((step outside event db).2.filter (Notice.isOf alert check))

/-- A result that meets the comparison after one that did, or first of all and
with its check failed, or that does not meet it after one that did not. -/
def BreachesForGood (alert : Alert) (check : Check) (db : Db) (event : Event) : Prop :=
  ∀ input, pairInput alert check db event = some input →
    ((db.resultsOf check.id).head?.any (evaluateThreshold alert) = true →
      evaluateThreshold alert input.seen = true) ∧
    (evaluateThreshold alert input.seen = true →
      (db.resultsOf check.id).any (evaluateThreshold alert) = false → input.seen.success = false)

/-- The results of the check carry a latency. -/
def CarriesLatency (alert : Alert) (check : Check) (db : Db) (event : Event) : Prop :=
  ∀ input, pairInput alert check db event = some input → input.seen.latencyMs ≠ none

/-- A threshold on the latency, told of recoveries and never resent. -/
structure Alert.IsThreshold (alert : Alert) : Prop where
  type : alert.triggerType = .threshold
  operator : alert.triggerConfig.operator ≠ none
  value : alert.triggerConfig.value ≠ none
  notifyOnRecovery : alert.notifyOnRecovery = true
  neverResends : alert.resendIntervalMinutes = none

/-- What the runs of the claim are allowed. -/
def MeasuredInOrder (alert : Alert) (check : Check) (db : Db) (event : Event) : Prop :=
  InOrder check db event ∧ Unhindered alert check db event ∧ CarriesLatency alert check db event

/-- The record knows of a breach as soon as there was one, and for good. -/
def KnowsBreach (alert : Alert) (memory : Memory CheckResult StateKey Time) : Prop :=
  memory.last.map (·.key) =
    if memory.history.any (evaluateThreshold alert) then
      some (.threshold (alert.triggerConfig.operator.getD .gt) alert.triggerConfig.value)
    else none

section Policy

variable {alert : Alert} {memory : Memory CheckResult StateKey Time} {input : Input CheckResult Time}

theorem Alert.IsThreshold.isPlain (threshold : alert.IsThreshold) : alert.isPlain = true := by
  simp [Alert.isPlain, threshold.type]

theorem Alert.IsThreshold.fires (threshold : alert.IsThreshold) (checkResult : CheckResult)
    (history : List CheckResult) (last : Option StateKey) :
    alert.policy.fires (checkResult :: history) last = evaluateThreshold alert checkResult := by
  simp [Alert.policy, threshold.type]

theorem Alert.IsThreshold.key (threshold : alert.IsThreshold) (checkResult : CheckResult) :
    alert.policy.key checkResult =
      .threshold (alert.triggerConfig.operator.getD .gt) alert.triggerConfig.value := by
  simp [Alert.policy, plainKey, threshold.type]

theorem knowsBreach_step (threshold : alert.IsThreshold) (unheld : input.held = false)
    (unmasked : input.masked = false) (knows : KnowsBreach alert memory) :
    KnowsBreach alert (alert.policy.step input memory).1 := by
  unfold KnowsBreach at knows ⊢
  have fires := threshold.fires input.seen memory.history (memory.last.map (·.key))
  rw [Policy.history_step, List.any_cons]
  cases met : evaluateThreshold alert input.seen with
  | true =>
    rw [met] at fires
    rw [Policy.key_of_fire fires unheld (by simp [unmasked]), threshold.key]
    rfl
  | false =>
    rw [met] at fires
    rw [Policy.step_quiet fires, knows]
    rfl

/-- What an unhindered result sends: nothing, but for the first breach. -/
theorem sent_of_knowsBreach (threshold : alert.IsThreshold) (unheld : input.held = false)
    (unmasked : input.masked = false) (knows : KnowsBreach alert memory) :
    (alert.policy.step input memory).2 =
      if evaluateThreshold alert input.seen && !memory.history.any (evaluateThreshold alert) then
        some ⟨alert.policy.key input.seen, false, 0, input.seen.success⟩
      else none := by
  have visible : (input.masked && !alert.policy.recovers input.seen) = false := by simp [unmasked]
  have fires := threshold.fires input.seen memory.history (memory.last.map (·.key))
  cases met : evaluateThreshold alert input.seen with
  | false =>
    rw [met] at fires
    rw [Policy.step_quiet fires]
    rfl
  | true =>
    rw [met] at fires
    unfold KnowsBreach at knows
    cases known : memory.history.any (evaluateThreshold alert) with
    | false =>
      rw [known] at knows
      rw [Policy.step_fresh fires unheld visible (by rw [knows]; simp)]
      have recovers : alert.policy.recovers input.seen = input.seen.success := by
        simp [Alert.policy, threshold.notifyOnRecovery]
      rw [recovers]
      rfl
    | true =>
      rw [known, if_pos rfl, ← threshold.key input.seen] at knows
      obtain ⟨mark, last, same⟩ := Option.map_eq_some_iff.mp knows
      have never : alert.policy.resend input.time mark = none := by
        show resendDue alert input.time mark = none
        unfold resendDue
        rw [threshold.neverResends]
      rw [Policy.step_again fires unheld visible last same, never]
      rfl

end Policy

section Claim

variable {outside : Outside} {alert : Alert} {check : Check} {db : Db} {events : List Event}

theorem knowsBreach_run (threshold : alert.IsThreshold) (untouched : Untouched alert check db)
    (allowed : Allowed outside (MeasuredInOrder alert check) db events) :
    KnowsBreach alert (view alert check (run outside events db)) :=
  allowed.view_induction threshold.isPlain untouched (fun _ _ => And.left) (KnowsBreach alert) rfl
    fun _ _ _ _ allows given => knowsBreach_step threshold (allows.2.1 _ given).1 (allows.2.1 _ given).2

/-- What a result of the check sends, in a run. -/
theorem sent_of_report (threshold : alert.IsThreshold) (untouched : Untouched alert check db)
    (allowed : Allowed outside (MeasuredInOrder alert check) db events) {event : Event}
    (allows : MeasuredInOrder alert check (run outside events db) event)
    {input : Input CheckResult Time}
    (given : pairInput alert check (run outside events db) event = some input) :
    (step outside event (run outside events db)).2.filter (Notice.isOf alert check) =
      if evaluateThreshold alert input.seen &&
          !((run outside events db).resultsOf check.id).any (evaluateThreshold alert) then
        [noticeOf alert check input.seen ⟨alert.policy.key input.seen, false, 0, input.seen.success⟩]
      else [] := by
  obtain ⟨tracked, -⟩ := run_view threshold.isPlain untouched (allowed.imp fun _ _ => And.left)
  have stepped := (step_view outside threshold.isPlain tracked allows.1).2
  rw [given] at stepped
  rw [stepped.2, sent_of_knowsBreach threshold (allows.2.1 _ given).1 (allows.2.1 _ given).2
    (knowsBreach_run threshold untouched allowed)]
  have history : (view alert check (run outside events db)).history =
      (run outside events db).resultsOf check.id := rfl
  rw [history]
  split_ifs <;> rfl

/-- While no breach ends, a breach is going on as soon as there was one. -/
theorem head_breaches (forGood : Allowed outside (fun db event => MeasuredInOrder alert check db event ∧
      BreachesForGood alert check db event) db events)
    (threshold : alert.IsThreshold) (untouched : Untouched alert check db) :
    ((run outside events db).resultsOf check.id).any (evaluateThreshold alert) =
      ((run outside events db).resultsOf check.id).head?.any (evaluateThreshold alert) := by
  induction forGood with
  | nil =>
    rw [run_nil, untouched.results]
    rfl
  | @snoc events event before allows ih =>
    obtain ⟨tracked, -⟩ := run_view threshold.isPlain untouched (before.imp fun _ _ allows => allows.1.1)
    have stepped := (step_view outside threshold.isPlain tracked allows.1.1).2
    rw [run_append, run_singleton]
    rcases given : pairInput alert check (run outside events db) event with _ | input
    · rw [given] at stepped
      have same : (step outside event (run outside events db)).1.resultsOf check.id =
          (run outside events db).resultsOf check.id := congrArg Memory.history stepped.1
      rw [same]
      exact ih
    · rw [given] at stepped
      have added : (step outside event (run outside events db)).1.resultsOf check.id =
          input.seen :: (run outside events db).resultsOf check.id := by
        have := congrArg Memory.history stepped.1
        rwa [Policy.history_step] at this
      rw [added, List.any_cons, List.head?_cons, Option.any_some, ih]
      cases met : evaluateThreshold alert input.seen with
      | true => rfl
      | false =>
        cases going : ((run outside events db).resultsOf check.id).head?.any (evaluateThreshold alert) with
        | false => rfl
        | true => exact absurd ((allows.2 input given).1 going) (by simp [met])

/-- A run that tells of each breach has one that never ends, begun by a failed check. -/
theorem breachesForGood_of_notifies (threshold : alert.IsThreshold) (untouched : Untouched alert check db)
    (allowed : Allowed outside (MeasuredInOrder alert check) db events)
    (notifies : Allowed outside (NotifiesBreach outside alert check) db events) :
    Allowed outside (BreachesForGood alert check) db events := by
  refine (allowed.and notifies).each fun events event before allows input given => ?_
  have sent := sent_of_report threshold untouched (before.imp fun _ _ => And.left) allows.1 given
  have tells := allows.2 input given
  rw [sent] at tells
  constructor
  · intro going
    by_contra ended
    rw [Bool.not_eq_true] at ended
    obtain ⟨notice, isSent, -⟩ := tells.return_ ended going
    rw [ended] at isSent
    simp at isSent
  · intro met first
    have new : ((run outside events db).resultsOf check.id).head?.any (evaluateThreshold alert) = false := by
      cases results : (run outside events db).resultsOf check.id with
      | nil => rfl
      | cons newest earlier =>
        rw [results, List.any_cons, Bool.or_eq_false_iff] at first
        exact first.1
    obtain ⟨notice, isSent, -, noRecovery⟩ := tells.breach met new
    rw [met, first] at isSent
    cases isSent
    exact noRecovery

/-- A run with one breach, which never ends and was begun by a failed check,
tells of it. -/
theorem notifies_of_breachesForGood (threshold : alert.IsThreshold) (untouched : Untouched alert check db)
    (allowed : Allowed outside (MeasuredInOrder alert check) db events)
    (forGood : Allowed outside (BreachesForGood alert check) db events) :
    Allowed outside (NotifiesBreach outside alert check) db events := by
  refine (allowed.and forGood).each fun events event before allows input given => ?_
  rw [sent_of_report threshold untouched (before.imp fun _ _ => And.left) allows.1 given]
  have going := head_breaches before threshold untouched
  obtain ⟨goesOn, failed⟩ := allows.2 input given
  refine ⟨fun met new => ?_, fun ended old => ?_, fun same => ?_⟩
  · rw [new] at going
    rw [met, going, failed met going]
    exact ⟨_, rfl, rfl, rfl⟩
  · rw [goesOn old] at ended
    cases ended
  · rw [going, same]
    simp

/-- An alert on a latency over 100 ms. -/
def slowAlert : Alert where
  id := 0
  triggerType := .threshold
  triggerConfig := { operator := some .gt, value := some (.finite 100) }

theorem slowAlert_isThreshold : slowAlert.IsThreshold := ⟨rfl, by simp [slowAlert], by simp [slowAlert], rfl, rfl⟩

theorem measuredInOrder_of_solo {alert : Alert} {inputs : List (Input CheckResult Time)}
    (measured : ∀ input ∈ inputs, input.seen.latencyMs ≠ none) {db : Db} {event : Event}
    (allows : SoloAllows alert inputs db event) : MeasuredInOrder alert soloCheck db event :=
  ⟨allows.inOrder, allows.unhindered, fun input given => measured input (allows.given input given)⟩

end Claim

end LuxSwirl.Server
