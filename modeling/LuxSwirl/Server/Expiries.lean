import LuxSwirl.Server.Solo

/-!
# The notifications of a certificate's expiry

A result says of the certificate how many days it is good for, that its expiry
cannot be read, or nothing. An `ssl_cert_expiry` alert tells of each band the
certificate enters and of its renewal; its record is the state told of last.
With recoveries not notified a renewal is not told of, and the band before it is
still on record when the certificate is back in it.
-/

namespace LuxSwirl.Server
open LuxSwirl.Py LuxSwirl.Lib

/-- What a result says of the certificate. -/
inductive Expiry where
  | absent
  | unreadable
  | readable (days : Int)
  deriving DecidableEq

/-- What it says, when its metrics say one of the three. -/
def CheckResult.expiry (checkResult : CheckResult) : Option Expiry :=
  match sslCertificate checkResult.metrics with
  | .error _ => none
  | .ok certificate =>
    if truthy certificate then
      match daysUntilExpiration certificate with
      | .ok .none => some .unreadable
      | .ok (.int days) => some (.readable days)
      | _ => none
    else some .absent

/-- The state of a certificate: within the smallest threshold that holds its days,
or safe. -/
def expiryBand (thresholds : List Int) (days : Int) : StateKey :=
  match (thresholds.filter fun threshold => decide (days ≤ threshold)).min? with
  | some threshold => .sslWithin threshold
  | none => .sslOk

/-- The state of what a result says; one without a certificate has none. -/
def Expiry.state (thresholds : List Int) : Expiry → Option StateKey
  | .absent => none
  | .unreadable => some .sslUnknown
  | .readable days => some (expiryBand thresholds days)

def expiryState (alert : Alert) (checkResult : CheckResult) : Option StateKey :=
  checkResult.expiry.bind (Expiry.state alert.triggerConfig.thresholds)

/-- The states of the results with a certificate. -/
def expiryStates (alert : Alert) (results : List CheckResult) : List StateKey :=
  results.filterMap (expiryState alert)

/-- The state before a result: that of the newest result with a certificate, safe
when there is none. -/
def stateBefore (alert : Alert) (results : List CheckResult) : StateKey :=
  (expiryStates alert results).head?.getD .sslOk

/-- The newest state that was not safe. -/
def lastWarning (alert : Alert) (results : List CheckResult) : Option StateKey :=
  (expiryStates alert results).find? fun state => decide (state ≠ .sslOk)

/-- What a result tells: of a state it enters, by one notification that is
neither a resend nor a recovery; of the return to safe, by one recovery when
those are notified; of nothing else. -/
structure TellsOfExpiry (alert : Alert) (before : StateKey) (state : Option StateKey)
    (sent : List Notice) : Prop where
  entered : ∀ key, state = some key → key ≠ .sslOk → key ≠ before →
    ∃ notice, sent = [notice] ∧ notice.stateKey = key ∧ notice.decision.isResend = false ∧
      notice.context.isRecovery = false
  renewed : state = some .sslOk → before ≠ .sslOk → alert.notifyOnRecovery = true →
    ∃ notice, sent = [notice] ∧ notice.stateKey = .sslOk ∧ notice.decision.isResend = false ∧
      notice.context.isRecovery = true
  otherwise : state = none ∨ state = some before ∨
    (state = some .sslOk ∧ alert.notifyOnRecovery = false) → sent = []

/-- So does every result of the check the event reports. -/
def NotifiesExpiry (outside : Outside) (alert : Alert) (check : Check) (db : Db) (event : Event) :
    Prop :=
  ∀ input, pairInput alert check db event = some input →
    TellsOfExpiry alert (stateBefore alert (db.resultsOf check.id)) (expiryState alert input.seen)
      ((step outside event db).2.filter (Notice.isOf alert check))

/-- Recoveries are notified, or the state a result enters from safe is another
than the newest one that was not safe. -/
def EntersAfresh (alert : Alert) (check : Check) (db : Db) (event : Event) : Prop :=
  ∀ input, pairInput alert check db event = some input → alert.notifyOnRecovery = false →
    ∀ key, expiryState alert input.seen = some key → key ≠ .sslOk →
      stateBefore alert (db.resultsOf check.id) = .sslOk →
      lastWarning alert (db.resultsOf check.id) ≠ some key

/-- An expiry alert that never resends. -/
structure Alert.IsExpiry (alert : Alert) : Prop where
  type : alert.triggerType = .sslCertExpiry
  neverResends : alert.resendIntervalMinutes = none

/-- What the runs are allowed: results of the check that say one of the three,
each new to it, with nothing hindering the alert. -/
structure LegibleArrival (alert : Alert) (check : Check) (db : Db) (event : Event) : Prop where
  arrives : Arrives check db event
  unhindered : Unhindered alert check db event
  legible : ∀ input, pairInput alert check db event = some input →
    ∃ expiry, input.seen.expiry = some expiry

/-! ## The bands -/

theorem bandOf_eq_find (days : Int) (thresholds : List Int) :
    bandOf (.int days) thresholds =
      .ok (match thresholds.find? fun threshold => decide (days ≤ threshold) with
        | some threshold => .sslWithin threshold
        | none => .sslOk) := by
  induction thresholds with
  | nil => rfl
  | cons threshold rest ih =>
    rw [bandOf, leDays, List.find?_cons]
    by_cases within : days ≤ threshold
    · simp [within, bind, Except.bind, pure, Except.pure]
    · simp [within, bind, Except.bind, ih]

/-- The first threshold of the sorted ones that holds the days is the smallest. -/
theorem find_sorted_eq_min (days : Int) (thresholds : List Int) :
    ((thresholds.insertionSort (· ≤ ·)).find? fun threshold => decide (days ≤ threshold)) =
      (thresholds.filter fun threshold => decide (days ≤ threshold)).min? := by
  have sorted : ((thresholds.insertionSort (· ≤ ·)).filter fun threshold =>
      decide (days ≤ threshold)).Pairwise (fun a b => min a b = a) :=
    ((List.pairwise_insertionSort (· ≤ ·) thresholds).filter _).imp fun le => min_eq_left le
  rw [← List.head?_filter, ← List.min?_eq_head? sorted]
  have perm := ((List.perm_insertionSort (· ≤ ·) thresholds).filter fun threshold =>
    decide (days ≤ threshold))
  rcases least : (thresholds.filter fun threshold => decide (days ≤ threshold)).min? with _ | threshold
  · rw [List.min?_eq_none_iff] at least ⊢
    exact List.Perm.eq_nil (least ▸ perm)
  · rw [List.min?_eq_some_iff] at least ⊢
    exact ⟨perm.mem_iff.mpr least.1, fun other mem => least.2 other (perm.mem_iff.mp mem)⟩

theorem bandOf_sorted (days : Int) (thresholds : List Int) :
    bandOf (.int days) (thresholds.insertionSort (· ≤ ·)) = .ok (expiryBand thresholds days) := by
  rw [bandOf_eq_find, find_sorted_eq_min, expiryBand]

theorem thresholds_ne_nil (config : TriggerConfig) : config.thresholds ≠ [] := by
  unfold TriggerConfig.thresholds
  split_ifs with empty
  · simp
  · exact empty

/-- Days within the largest threshold are within one. -/
theorem le_max_iff {thresholds : List Int} (nonempty : thresholds ≠ []) (days : Int) :
    days ≤ thresholds.max?.getD 0 ↔ expiryBand thresholds days ≠ .sslOk := by
  obtain ⟨largest, isMax⟩ : ∃ largest, thresholds.max? = some largest := by
    rw [← Option.isSome_iff_exists, List.isSome_max?_iff]
    exact nonempty
  obtain ⟨mem, most⟩ := List.max?_eq_some_iff.mp isMax
  rw [isMax, Option.getD_some, expiryBand]
  rcases least : (thresholds.filter fun threshold => decide (days ≤ threshold)).min? with _ | threshold
  · rw [List.min?_eq_none_iff, List.filter_eq_nil_iff] at least
    simpa using least largest mem
  · have within := List.of_mem_filter (List.min?_eq_some_iff.mp least).1
    have inside := List.mem_of_mem_filter (List.min?_eq_some_iff.mp least).1
    simpa using le_trans (of_decide_eq_true within) (most threshold inside)

/-! ## The policy of an expiry alert -/

/-- The key a result is recorded under. -/
def expiryKey (alert : Alert) (checkResult : CheckResult) : StateKey :=
  (expiryState alert checkResult).getD .sslUnknown

/-- An expiry alert as a notifier. -/
def Alert.expiryPolicy (alert : Alert) : Policy CheckResult StateKey Time where
  fires history last :=
    match history.head?.bind (expiryState alert) with
    | none => false
    | some .sslOk => alert.notifyOnRecovery && last.any StateKey.isExpiry
    | some _ => true
  key := expiryKey alert
  recovers checkResult := alert.notifyOnRecovery && decide (expiryKey alert checkResult = .sslOk)
  mask := .parentDown
  resend := resendDue alert

section Policy

variable {alert : Alert} {check : Check} {checkResult : CheckResult} {db : Db}

/-- What an expiry is read from. -/
theorem certificate_of_expiry {expiry : Expiry} (legible : checkResult.expiry = some expiry) :
    ∃ certificate, sslCertificate checkResult.metrics = .ok certificate ∧
      match expiry with
      | .absent => truthy certificate = false
      | .unreadable => truthy certificate = true ∧ daysUntilExpiration certificate = .ok .none
      | .readable days =>
        truthy certificate = true ∧ daysUntilExpiration certificate = .ok (.int days) := by
  unfold CheckResult.expiry at legible
  split at legible
  · cases legible
  · rename_i certificate found
    refine ⟨certificate, found, ?_⟩
    cases bears : truthy certificate with
    | false =>
      rw [bears] at legible
      cases legible
      rfl
    | true =>
      rw [bears, if_pos rfl] at legible
      split at legible
      · rename_i days
        cases legible
        exact ⟨rfl, days⟩
      · rename_i days
        cases legible
        exact ⟨rfl, days⟩
      · cases legible

theorem stateKey_expiry (type : alert.triggerType = .sslCertExpiry) {expiry : Expiry}
    (legible : checkResult.expiry = some expiry) :
    computeAlertStateKey alert checkResult = .ok (expiryKey alert checkResult) := by
  obtain ⟨certificate, found, reads⟩ := certificate_of_expiry legible
  rw [expiryKey, expiryState, legible]
  unfold computeAlertStateKey
  rw [if_neg (by simp), type]
  simp only [found, bind, Except.bind, Option.bind]
  cases expiry with
  | absent =>
    simp only at reads
    simp [reads, daysUntilExpiration, getField, Fields.get?, Except.map, Expiry.state, pure, Except.pure]
  | unreadable =>
    simp [reads.1, reads.2, Expiry.state, pure, Except.pure]
  | readable days =>
    simp [reads.1, reads.2, Expiry.state, bandOf_sorted]

theorem isRecovery_expiry (type : alert.triggerType = .sslCertExpiry) {expiry : Expiry}
    (legible : checkResult.expiry = some expiry) :
    isRecovery alert checkResult = .ok (alert.expiryPolicy.recovers checkResult) := by
  unfold isRecovery
  rw [type, stateKey_expiry type legible]
  cases recovery : alert.notifyOnRecovery <;> simp [Alert.expiryPolicy, recovery, Except.map]

theorem lastMark_key : (lastMark alert check db).map (·.key) =
    (db.getLastNotificationForDedup alert.id check.id).bind (·.notificationHash) := by
  rw [lastMark]
  cases db.getLastNotificationForDedup alert.id check.id with
  | none => rfl
  | some row => simp [NotificationLog.mark, Function.comp_def]

theorem shouldFire_expiry (type : alert.triggerType = .sslCertExpiry) {expiry : Expiry}
    (legible : checkResult.expiry = some expiry) (earlier : List CheckResult) :
    shouldFireAlert alert check checkResult db =
      .ok (alert.expiryPolicy.fires (checkResult :: earlier) ((lastMark alert check db).map (·.key))) := by
  obtain ⟨certificate, found, reads⟩ := certificate_of_expiry legible
  rw [shouldFireAlert, type]
  dsimp only
  have state : alert.expiryPolicy.fires (checkResult :: earlier) ((lastMark alert check db).map (·.key)) =
      match Expiry.state alert.triggerConfig.thresholds expiry with
      | none => false
      | some .sslOk => alert.notifyOnRecovery && ((lastMark alert check db).map (·.key)).any StateKey.isExpiry
      | some _ => true := by
    simp only [Alert.expiryPolicy, List.head?_cons, Option.bind_some, expiryState, legible]
  rw [state]
  unfold evaluateSslCertExpiry
  by_cases empty : checkResult.metrics = []
  · cases expiry with
    | absent => simp [empty, Expiry.state, pure, Except.pure]
    | unreadable =>
      rw [empty] at found
      cases found
      exact absurd reads.1 Bool.noConfusion
    | readable days =>
      rw [empty] at found
      cases found
      exact absurd reads.1 Bool.noConfusion
  · rw [if_neg empty, found]
    cases expiry with
    | absent =>
      simp only at reads
      simp [reads, Expiry.state, bind, Except.bind, pure, Except.pure]
    | unreadable => simp [reads.1, reads.2, Expiry.state, bind, Except.bind, pure, Except.pure]
    | readable days =>
      have within := le_max_iff (thresholds_ne_nil alert.triggerConfig) days
      simp only [reads.1, reads.2, Expiry.state, bind, Except.bind, leDays]
      by_cases danger : days ≤ alert.triggerConfig.thresholds.max?.getD 0
      · have unsafe_ := within.mp danger
        split <;> simp_all [pure, Except.pure]
      · have safe : expiryBand alert.triggerConfig.thresholds days = .sslOk := by
          by_contra other
          exact danger (within.mpr other)
        rw [safe, lastMark_key]
        cases alert.notifyOnRecovery <;>
          cases db.getLastNotificationForDedup alert.id check.id <;>
          simp [danger, pure, Except.pure]

/-- An expiry alert obeys its policy on every result that reads one of the three. -/
theorem obeys_expiry (type : alert.triggerType = .sslCertExpiry) {expiry : Expiry}
    (legible : checkResult.expiry = some expiry) (earlier : List CheckResult) :
    Obeys alert.expiryPolicy alert check checkResult earlier db where
  notSilence := by simp [Alert.NotSilence, type]
  fires := shouldFire_expiry type legible earlier
  key := stateKey_expiry type legible
  recovers := isRecovery_expiry type legible
  mask := rfl
  resend := rfl

end Policy

/-! ## The record -/

/-- What the log knows: the newest state told of. -/
def KnowsExpiry (alert : Alert) (memory : Memory CheckResult StateKey Time) : Prop :=
  memory.last.map (·.key) =
    (lastWarning alert memory.history).map fun warning =>
      if alert.notifyOnRecovery then stateBefore alert memory.history else warning

section Record

variable {alert : Alert} {memory : Memory CheckResult StateKey Time} {input : Input CheckResult Time}

theorem isExpiry_of_state {checkResult : CheckResult} {key : StateKey}
    (state : expiryState alert checkResult = some key) (warns : key ≠ .sslOk) : key.isExpiry = true := by
  obtain ⟨expiry, -, isState⟩ := Option.bind_eq_some_iff.mp state
  cases expiry with
  | absent => cases isState
  | unreadable =>
    cases isState
    rfl
  | readable days =>
    cases isState
    unfold expiryBand at warns ⊢
    split at warns
    · rfl
    · exact absurd rfl warns

theorem isExpiry_of_mem {results : List CheckResult} {key : StateKey}
    (mem : key ∈ expiryStates alert results) (warns : key ≠ .sslOk) : key.isExpiry = true := by
  obtain ⟨checkResult, -, state⟩ := List.mem_filterMap.mp mem
  exact isExpiry_of_state state warns

/-- Without a warning every state was safe. -/
theorem stateBefore_of_no_warning {results : List CheckResult}
    (none_ : lastWarning alert results = none) : stateBefore alert results = .sslOk := by
  rw [stateBefore]
  rcases newest : (expiryStates alert results).head? with _ | state
  · rfl
  · have := List.find?_eq_none.mp none_ state (List.mem_of_mem_head? newest)
    simpa using this

/-- A state that is not safe is the newest warning. -/
theorem lastWarning_of_stateBefore {results : List CheckResult}
    (warns : stateBefore alert results ≠ .sslOk) :
    lastWarning alert results = some (stateBefore alert results) := by
  rw [stateBefore] at warns ⊢
  rw [lastWarning]
  cases states : expiryStates alert results with
  | nil => simp [states] at warns
  | cons state rest =>
    rw [states] at warns
    simp only [List.head?_cons, Option.getD_some] at warns ⊢
    rw [List.find?_cons_of_pos (by simpa using warns)]

theorem expiryStates_cons_none {checkResult : CheckResult} {results : List CheckResult}
    (state : expiryState alert checkResult = none) :
    expiryStates alert (checkResult :: results) = expiryStates alert results :=
  List.filterMap_cons_none state

theorem expiryStates_cons_some {checkResult : CheckResult} {results : List CheckResult} {key : StateKey}
    (state : expiryState alert checkResult = some key) :
    expiryStates alert (checkResult :: results) = key :: expiryStates alert results :=
  List.filterMap_cons_some state

/-- Whether a result fires, by its state and the newest record. -/
theorem fires_expiry (checkResult : CheckResult) (history : List CheckResult) (last : Option StateKey) :
    alert.expiryPolicy.fires (checkResult :: history) last =
      match expiryState alert checkResult with
      | none => false
      | some .sslOk => alert.notifyOnRecovery && last.any StateKey.isExpiry
      | some _ => true := by
  simp [Alert.expiryPolicy]

theorem key_expiry {checkResult : CheckResult} {key : StateKey}
    (state : expiryState alert checkResult = some key) : alert.expiryPolicy.key checkResult = key := by
  simp [Alert.expiryPolicy, expiryKey, state]

theorem fires_of_warning {key : StateKey} (state : expiryState alert input.seen = some key)
    (warns : key ≠ .sslOk) (history : List CheckResult) (last : Option StateKey) :
    alert.expiryPolicy.fires (input.seen :: history) last = true := by
  rw [fires_expiry, state]
  split <;> simp_all

/-- A safe result fires when recoveries are notified and the state before was not
safe. -/
theorem fires_of_safe (knows : KnowsExpiry alert memory)
    (state : expiryState alert input.seen = some .sslOk) :
    alert.expiryPolicy.fires (input.seen :: memory.history) (memory.last.map (·.key)) =
      (alert.notifyOnRecovery && decide (stateBefore alert memory.history ≠ .sslOk)) := by
  rw [fires_expiry, state]
  dsimp only
  cases recovery : alert.notifyOnRecovery with
  | false => rfl
  | true =>
    rw [knows, recovery, Bool.true_and, Bool.true_and]
    rcases warning : lastWarning alert memory.history with _ | warned
    · rw [stateBefore_of_no_warning warning]
      rfl
    · rw [Option.map_some, Option.any_some, if_pos rfl]
      by_cases safe : stateBefore alert memory.history = .sslOk
      · rw [safe]
        rfl
      · have mem : stateBefore alert memory.history ∈ expiryStates alert memory.history := by
          rw [lastWarning_of_stateBefore safe] at warning
          have := lastWarning_of_stateBefore safe
          exact List.mem_of_find?_eq_some this
        rw [isExpiry_of_mem mem safe, decide_eq_true safe]

/-- It fires exactly then. -/
theorem fires_safe_iff (knows : KnowsExpiry alert memory) (state : expiryState alert input.seen = some .sslOk) :
    alert.expiryPolicy.fires (input.seen :: memory.history) (memory.last.map (·.key)) = true ↔
      alert.notifyOnRecovery = true ∧ stateBefore alert memory.history ≠ .sslOk := by
  rw [fires_of_safe knows state, Bool.and_eq_true, decide_eq_true_eq]

/-- An unhindered result keeps the record up with the states. -/
theorem knowsExpiry_step (unheld : input.held = false) (unmasked : input.masked = false)
    (knows : KnowsExpiry alert memory) : KnowsExpiry alert (alert.expiryPolicy.step input memory).1 := by
  have visible : (input.masked && !alert.expiryPolicy.recovers input.seen) = false := by simp [unmasked]
  rcases state : expiryState alert input.seen with _ | key
  · have quiet : alert.expiryPolicy.fires (input.seen :: memory.history)
        (memory.last.map (·.key)) = false := by rw [fires_expiry, state]
    rw [Policy.step_quiet quiet, KnowsExpiry, lastWarning, stateBefore, expiryStates_cons_none state]
    exact knows
  · unfold KnowsExpiry
    rw [Policy.history_step, lastWarning, stateBefore, expiryStates_cons_some state, List.head?_cons,
      Option.getD_some]
    by_cases safe : key = .sslOk
    · subst safe
      rw [List.find?_cons_of_neg (by simp)]
      have fires := fires_safe_iff knows state
      cases fired : alert.expiryPolicy.fires (input.seen :: memory.history)
        (memory.last.map (·.key)) with
      | true =>
        obtain ⟨recovery, warned⟩ := fires.mp fired
        have warning := lastWarning_of_stateBefore warned
        rw [lastWarning] at warning
        rw [Policy.key_of_fire fired unheld visible, key_expiry state, warning, recovery]
        rfl
      | false =>
        rw [Policy.step_quiet fired]
        dsimp only
        rw [knows, lastWarning]
        cases recovery : alert.notifyOnRecovery with
        | false => rfl
        | true =>
          have safe : stateBefore alert memory.history = .sslOk := by
            by_contra warned
            rw [fires.mpr ⟨recovery, warned⟩] at fired
            cases fired
          rw [safe]
    · rw [List.find?_cons_of_pos (by simpa using safe),
        Policy.key_of_fire (fires_of_warning state safe _ _) unheld visible, key_expiry state]
      simp

/-- What a result tells of, by the record. -/
theorem tellsOfExpiry_iff (neverResends : alert.resendIntervalMinutes = none) {check : Check}
    (unheld : input.held = false) (unmasked : input.masked = false) (knows : KnowsExpiry alert memory) :
    TellsOfExpiry alert (stateBefore alert memory.history) (expiryState alert input.seen)
        ((alert.expiryPolicy.step input memory).2.toList.map (noticeOf alert check input.seen)) ↔
      (alert.notifyOnRecovery = false → ∀ key, expiryState alert input.seen = some key →
        key ≠ .sslOk → stateBefore alert memory.history = .sslOk →
        lastWarning alert memory.history ≠ some key) := by
  have visible : (input.masked && !alert.expiryPolicy.recovers input.seen) = false := by simp [unmasked]
  have noResend (mark : Mark StateKey Time) : alert.expiryPolicy.resend input.time mark = none := by
    simp [Alert.expiryPolicy, resendDue, neverResends]
  rcases state : expiryState alert input.seen with _ | key
  · have quiet : alert.expiryPolicy.fires (input.seen :: memory.history)
        (memory.last.map (·.key)) = false := by rw [fires_expiry, state]
    rw [Policy.step_quiet quiet]
    refine iff_of_true ⟨?_, ?_, fun _ => rfl⟩ ?_
    · intro key same
      cases same
    · intro same
      cases same
    · intro _ key same
      cases same
  · by_cases safe : key = .sslOk
    · subst safe
      refine iff_of_true ?_ fun _ key same warns => absurd (Option.some.inj same).symm warns
      have fires := fires_safe_iff knows state
      cases fired : alert.expiryPolicy.fires (input.seen :: memory.history)
        (memory.last.map (·.key)) with
      | true =>
        obtain ⟨recovery, before⟩ := fires.mp fired
        have fresh : memory.last.map (·.key) ≠ some (alert.expiryPolicy.key input.seen) := by
          rw [knows, lastWarning_of_stateBefore before, recovery, key_expiry state]
          simpa using before
        have recovers : alert.expiryPolicy.recovers input.seen = true := by
          simp [Alert.expiryPolicy, expiryKey, state, recovery]
        rw [Policy.step_fresh fired unheld visible fresh, key_expiry state, recovers]
        refine ⟨fun key same warns => absurd (Option.some.inj same).symm warns,
          fun _ _ _ => ⟨_, rfl, rfl, rfl, rfl⟩, ?_⟩
        rintro (none_ | same | ⟨-, silent⟩)
        · cases none_
        · exact absurd (Option.some.inj same).symm before
        · exact absurd (recovery.symm.trans silent) (by simp)
      | false =>
        rw [Policy.step_quiet fired]
        refine ⟨fun key same warns => absurd (Option.some.inj same).symm warns,
          fun _ before recovery => ?_, fun _ => rfl⟩
        cases fired.symm.trans (fires.mpr ⟨recovery, before⟩)
    · have fires := fires_of_warning state safe memory.history (memory.last.map (·.key))
      have key_ := key_expiry state
      have recovers : alert.expiryPolicy.recovers input.seen = false := by
        simp [Alert.expiryPolicy, expiryKey, state, safe]
      by_cases recorded : memory.last.map (·.key) = some key
      · obtain ⟨mark, last, same⟩ := Option.map_eq_some_iff.mp recorded
        rw [Policy.step_again fires unheld visible last (same.trans key_.symm), noResend]
        rw [knows] at recorded
        constructor
        · intro tells silent other isKey warns before warning
          obtain ⟨notice, sent, -⟩ := tells.entered key rfl safe (by rw [before]; exact safe)
          cases sent
        · intro afresh
          have sameState : stateBefore alert memory.history = key := by
            by_contra other
            cases recovery : alert.notifyOnRecovery with
            | true =>
              rw [recovery] at recorded
              obtain ⟨warned, -, isKey⟩ := Option.map_eq_some_iff.mp recorded
              exact other isKey
            | false =>
              rw [recovery] at recorded
              have warning : lastWarning alert memory.history = some key := by simpa using recorded
              by_cases before : stateBefore alert memory.history = .sslOk
              · exact afresh recovery key rfl safe before warning
              · rw [lastWarning_of_stateBefore before] at warning
                exact other (Option.some.inj warning)
          exact ⟨fun other isKey _ differs => absurd ((Option.some.inj isKey).symm.trans sameState.symm) differs,
            fun isSafe => absurd (Option.some.inj isSafe) safe, fun _ => rfl⟩
      · rw [Policy.step_fresh fires unheld visible (key_ ▸ recorded), key_, recovers]
        rw [knows] at recorded
        refine iff_of_true ⟨fun other isKey _ _ => ⟨_, rfl, Option.some.inj isKey, rfl, rfl⟩,
          fun isSafe => absurd (Option.some.inj isSafe) safe, ?_⟩ ?_
        · rintro (none_ | same | ⟨isSafe, -⟩)
          · cases none_
          · exfalso
            have before : stateBefore alert memory.history ≠ .sslOk :=
              (Option.some.inj same) ▸ safe
            rw [lastWarning_of_stateBefore before] at recorded
            apply recorded
            rw [← Option.some.inj same]
            simp
          · exact absurd (Option.some.inj isSafe) safe
        · intro silent other isKey warns before warning
          apply recorded
          rw [warning, silent, Option.some.inj isKey]
          rfl

end Record

/-! ## Runs -/

section Runs

variable {outside : Outside} {alert : Alert} {check : Check} {db : Db}

theorem polices_expiry (isExpiry : alert.IsExpiry) :
    Polices alert.expiryPolicy alert check (LegibleArrival alert check) where
  notSilence := by simp [Alert.NotSilence, isExpiry.type]
  isNew _ _ _ allowed isCheck := allowed.arrives.1 isCheck
  later _ _ _ allowed _ row mem := le_of_lt (allowed.arrives.2 row (List.mem_of_mem_filter mem))
  obeys _ _ _ allowed isCheck _ := by
    obtain ⟨expiry, legible⟩ := allowed.legible _ (by rw [pairInput, if_pos isCheck])
    exact obeys_expiry isExpiry.type legible _

/-- After any run the record is up with the states. -/
theorem knowsExpiry_run (isExpiry : alert.IsExpiry) (untouched : Untouched alert check db)
    {events : List Event} (allowed : Allowed outside (LegibleArrival alert check) db events) :
    KnowsExpiry alert (view alert check (run outside events db)) := by
  refine (polices_expiry isExpiry).view_induction untouched.watched untouched.tracked.hashed
    (KnowsExpiry alert) ?_ (fun db event input memory allows given knows => ?_) allowed
  · rw [untouched.view]
    rfl
  · obtain ⟨unheld, unmasked⟩ := allows.unhindered input given
    exact knowsExpiry_step unheld unmasked knows

/-- A step tells of the expiry exactly when it does not re-enter an untold state. -/
theorem notifiesExpiry_iff (isExpiry : alert.IsExpiry) (untouched : Untouched alert check db)
    {events : List Event} (allowed : Allowed outside (LegibleArrival alert check) db events)
    {event : Event} (allows : LegibleArrival alert check (run outside events db) event) :
    NotifiesExpiry outside alert check (run outside events db) event ↔
      EntersAfresh alert check (run outside events db) event := by
  have polices : Polices alert.expiryPolicy alert check (LegibleArrival alert check) :=
    polices_expiry isExpiry
  have knows := knowsExpiry_run isExpiry untouched allowed
  have done := polices.run untouched.watched untouched.tracked.hashed allowed
  have stepped := polices.step outside done.watched done.hashed allows
  unfold NotifiesExpiry EntersAfresh
  refine forall_congr' fun input => forall_congr' fun given => ?_
  rw [given] at stepped
  obtain ⟨unheld, unmasked⟩ := allows.unhindered input given
  rw [stepped.notices]
  exact tellsOfExpiry_iff isExpiry.neverResends unheld unmasked knows

/-- **When a run tells of every expiry.** Exactly when recoveries are notified,
or no result enters from safe the state of the newest warning. -/
theorem notifiesExpiries_iff (isExpiry : alert.IsExpiry) (untouched : Untouched alert check db)
    {events : List Event} (allowed : Allowed outside (LegibleArrival alert check) db events) :
    Allowed outside (NotifiesExpiry outside alert check) db events ↔
      Allowed outside (EntersAfresh alert check) db events := by
  constructor
  · intro notifies
    refine (allowed.and notifies).each fun events event before allows => ?_
    exact (notifiesExpiry_iff isExpiry untouched (before.imp fun _ _ => And.left) allows.1).mp allows.2
  · intro afresh
    refine (allowed.and afresh).each fun events event before allows => ?_
    exact (notifiesExpiry_iff isExpiry untouched (before.imp fun _ _ => And.left) allows.1).mpr allows.2

/-- A result whose certificate is good for some days. -/
def certified (n : Nat) (days : Int) : CheckResult :=
  { soloResult n true with
    metrics := [(.text (text "response"), .dict [(.text (text "ssl_certificate"),
      .dict [(.text (text "days_until_expiration"), .int days)])])] }

def certifiedInput (n : Nat) (days : Int) : Input CheckResult Time where
  seen := certified n days
  time := n

theorem certified_legible (n : Nat) (days : Int) : (certified n days).expiry = some (.readable days) := rfl

/-- A certificate near its end, renewed, and near its end again. -/
def renewedInputs : List (Input CheckResult Time) :=
  [certifiedInput 2 20, certifiedInput 1 90, certifiedInput 0 20]

theorem renewed_arrivals : SoloArrivals renewedInputs := by
  constructor <;> simp [renewedInputs, certifiedInput, certified, soloResult]

theorem renewed_allowed (alert : Alert) :
    Allowed calm (LegibleArrival alert soloCheck) (soloDb alert) (soloEvents renewedInputs) := by
  refine (solo_arrives alert renewed_arrivals).1.imp fun db event reports =>
    ⟨reports.arrives renewed_arrivals, reports.unhindered renewed_arrivals, fun input given => ?_⟩
  have mem := reports.given input given
  simp only [renewedInputs, List.mem_cons, List.not_mem_nil, or_false] at mem
  rcases mem with rfl | rfl | rfl <;> exact ⟨_, certified_legible _ _⟩

/-- Warned at thirty days. -/
def thirtyDays (notifyOnRecovery : Bool) : Alert where
  id := 0
  triggerType := .sslCertExpiry
  triggerConfig := { daysThresholds := [30] }
  notifyOnRecovery

/-- With recoveries notified the renewed certificate is told of each time. -/
theorem notifiesExpiries_of_recovery :
    Allowed calm (NotifiesExpiry calm (thirtyDays true) soloCheck) (soloDb (thirtyDays true))
      (soloEvents renewedInputs) :=
  (notifiesExpiries_iff ⟨rfl, rfl⟩ (soloDb_untouched rfl rfl) (renewed_allowed _)).mpr
    ((renewed_allowed _).imp fun _ _ _ _ _ silent => absurd silent (by simp [thirtyDays]))

/-- Every run of results that say one of the three tells of every expiry. -/
def NotifiesExpiries (alert : Alert) : Prop :=
  ∀ outside check db, Untouched alert check db → ∀ events,
    Allowed outside (LegibleArrival alert check) db events →
    Allowed outside (NotifiesExpiry outside alert check) db events

/-- Without recoveries notified a certificate that is renewed and nears its end
again is not told of. -/
theorem renewed_certificate_unnoticed :
    ¬ NotifiesExpiries (thirtyDays false) := by
  intro notifies
  generalize isAlert : thirtyDays false = alert at notifies
  have isExpiry : alert.IsExpiry := isAlert ▸ ⟨rfl, rfl⟩
  have untouched : Untouched alert soloCheck (soloDb alert) :=
    soloDb_untouched (isAlert ▸ rfl) (isAlert ▸ rfl)
  have all := notifies _ _ _ untouched _ (renewed_allowed alert)
  have allowed := renewed_allowed alert
  rw [renewedInputs, soloEvents_cons] at all allowed
  have afresh := (notifiesExpiry_iff isExpiry untouched allowed.of_snoc.1 allowed.of_snoc.2).mp all.of_snoc.2
  obtain ⟨-, given, -⟩ := solo_arrives alert renewed_arrivals
  obtain ⟨-, givenBefore, keeps⟩ := solo_arrives alert renewed_arrivals.tail
  rw [renewedInputs, soloEvents_cons, inputsOf_snoc, givenBefore] at given
  have isInput : pairInput alert soloCheck
      (run calm (soloEvents [certifiedInput 1 90, certifiedInput 0 20]) (soloDb alert))
      (.report (certifiedInput 2 20).seen (certifiedInput 2 20).time) = some (certifiedInput 2 20) := by
    rw [← Option.toList_eq_singleton_iff]
    exact List.append_cancel_right given
  have results := keeps.resultsOf renewed_arrivals.tail.isCheck
  refine afresh _ isInput (isAlert ▸ rfl) (.sslWithin 30) ?_ (by simp) ?_ ?_
  · rw [← isAlert]
    rfl
  · rw [results, ← isAlert]
    rfl
  · rw [results, ← isAlert]
    rfl

end Runs

end LuxSwirl.Server
