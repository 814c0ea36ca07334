import LuxSwirl.Server.Reports

/-!
# Results that arrive late

A result is evaluated when it arrives, while the recovery rule reads the results in
the order they were taken. A status alert whose results arrive one at a time in any
order is followed by `arrivedState`; `late_results_iff` says after which arrivals the
newest state recorded is the check's.
-/

namespace LuxSwirl.Server
open LuxSwirl.Py LuxSwirl.Lib

/-! ## Arrivals

Results in the order they arrived, newest arrival first. -/

/-- The newest state told of. A success fires when the second newest result taken,
of those there by then, failed. -/
def arrivedState (onError : Bool) : List CheckResult → Option StateKey
  | [] => none
  | result :: earlier =>
    toldState (firesWith onError (secondNewestFailed (result :: earlier)) result) result
      (arrivedState onError earlier)

/-- A success found the second newest result failed, after the last failure to
arrive if failures are told of. -/
def recovered (onError : Bool) : List CheckResult → Bool
  | [] => false
  | result :: earlier =>
    if result.success then secondNewestFailed (result :: earlier) || recovered onError earlier
    else !onError && recovered onError earlier

/-- The result taken last failed. -/
def newestFailed (arrived : List CheckResult) : Bool := (byTime arrived).head?.any (·.failed)

/-- When arrivals leave the alert in the check's state. -/
def Settles (onError : Bool) (arrived : List CheckResult) : Prop :=
  (∀ result ∈ arrived, result.success = true) ∨
    ((onError = true ∨ recovered onError arrived = true) ∧ recovered onError arrived = !newestFailed arrived)

instance (onError : Bool) (arrived : List CheckResult) : Decidable (Settles onError arrived) :=
  inferInstanceAs (Decidable (_ ∨ _))

/-- The newest state told is the check's: the last recorded is down exactly when
the result taken last failed, or none is and no result failed. -/
def InState (arrived : List CheckResult) : Option StateKey → Prop
  | none => ∀ result ∈ arrived, result.success = true
  | some key => key = .statusDown ↔ newestFailed arrived = true

section Arrived

variable {onError : Bool} {arrived : List CheckResult}

/-- Once a recovery is told of, the state is up. -/
theorem arrivedState_of_recovered (isRecovered : recovered onError arrived = true) :
    arrivedState onError arrived = some .statusUp := by
  induction arrived with
  | nil => cases isRecovered
  | cons result earlier ih =>
    rw [recovered] at isRecovered
    rw [arrivedState, toldState, firesWith]
    cases success : result.success with
    | true =>
      rw [success, if_pos rfl, Bool.or_eq_true] at isRecovered
      rcases isRecovered with here | before
      · simp [here, statusKey, success]
      · simp [ih before, statusKey, success]
    | false =>
      rw [success, if_neg (by decide), Bool.and_eq_true, Bool.not_eq_true'] at isRecovered
      obtain ⟨off, before⟩ := isRecovered
      have silent : toldState onError result (arrivedState onError earlier) = arrivedState onError earlier := by
        simp [toldState, off]
      exact silent.trans (ih before)

/-- Until then it is down once a failure is told of. -/
theorem arrivedState_of_unrecovered (unrecovered : recovered onError arrived = false) :
    arrivedState onError arrived =
      if onError = true ∧ ∃ result ∈ arrived, result.success = false then some .statusDown else none := by
  induction arrived with
  | nil => simp [arrivedState]
  | cons result earlier ih =>
    rw [recovered] at unrecovered
    rw [arrivedState, toldState, firesWith]
    cases success : result.success with
    | true =>
      rw [success, if_pos rfl, Bool.or_eq_false_iff] at unrecovered
      simp [unrecovered.1, ih unrecovered.2, success]
    | false =>
      rw [success, if_neg (by decide)] at unrecovered
      cases onError with
      | true => simp [statusKey, success]
      | false => simp [ih unrecovered]

/-- If all succeed, so does the one taken last. -/
theorem newestFailed_of_all (all : ∀ result ∈ arrived, result.success = true) :
    newestFailed arrived = false := by
  have perm : (byTime arrived).Perm arrived := List.perm_insertionSort _ arrived
  rw [newestFailed]
  rcases sorted : byTime arrived with _ | ⟨newest, older⟩
  · rfl
  · have success := all newest (perm.subset (sorted ▸ List.mem_cons_self ..))
    simp [CheckResult.failed, success]

/-- **The state is right exactly when the arrivals settle.** -/
theorem inState_iff : InState arrived (arrivedState onError arrived) ↔ Settles onError arrived := by
  cases isRecovered : recovered onError arrived with
  | true =>
    have right : InState arrived (some .statusUp) ↔ newestFailed arrived = false := by
      simp [InState]
    rw [arrivedState_of_recovered isRecovered, right, Settles, isRecovered]
    constructor
    · intro newest
      exact .inr ⟨.inr rfl, by rw [newest]; rfl⟩
    · rintro (all | ⟨-, same⟩)
      · exact newestFailed_of_all all
      · simpa using same.symm
  | false =>
    rw [arrivedState_of_unrecovered isRecovered, Settles, isRecovered]
    by_cases failed : ∃ result ∈ arrived, result.success = false
    · have notAll : ¬ ∀ result ∈ arrived, result.success = true := by
        obtain ⟨result, mem, failure⟩ := failed
        intro all
        rw [all result mem] at failure
        cases failure
      cases onError with
      | true =>
        have right : InState arrived (some .statusDown) ↔ newestFailed arrived = true := by
          simp [InState]
        rw [if_pos ⟨rfl, failed⟩, right]
        simp [notAll]
      | false =>
        rw [if_neg fun told => absurd told.1 (by decide)]
        simp [notAll, InState]
    · have all : ∀ result ∈ arrived, result.success = true := by
        intro result mem
        by_contra failure
        exact failed ⟨result, mem, by simpa using failure⟩
      rw [if_neg fun told => failed told.2]
      exact iff_of_true all (.inl all)

end Arrived

/-! ## The server -/

/-- A report of one result. -/
def AgentReport.IsSingle (report : AgentReport) : Prop := ∃ entry, report.results = [entry]

/-- Reports of one result of the check each, taken at different times and evaluated
later and later. -/
structure Arrivals (check : Check) (reports : List AgentReport) : Prop where
  reportable : ∀ report ∈ reports, check.id ∈ report.reportable
  ofCheck : ∀ report ∈ reports, ∀ entry ∈ report.results, entry.1.checkId = check.id
  single : ∀ report ∈ reports, report.IsSingle
  apart : (reports.flatMap (·.results)).Pairwise fun entry later =>
    entry.1.timestamp ≠ later.1.timestamp ∧ entry.2 < later.2

/-- The results of some reports, newest arrival first. -/
def arrivalsOf (reports : List AgentReport) : List CheckResult := (reports.flatMap (·.checkResults)).reverse

/-- The pair's newest row records the check's state: down exactly when the check's
newest result failed, or there is no row and no result failed. -/
def RightState (alert : Alert) (check : Check) (db : Db) : Prop :=
  match db.getLastNotificationForDedup alert.id check.id with
  | none => ∀ result ∈ db.resultsOf check.id, result.success = true
  | some row => row.notificationHash = some .statusDown ↔
      (db.getLatestResultForCheck check.id).any (·.failed) = true

section Server

variable {alert : Alert} {check : Check} {db : Db}

theorem latestFailed_eq (check : Check) (db : Db) :
    (db.getLatestResultForCheck check.id).any (·.failed) = newestFailed (db.resultsOf check.id) := by
  have latest : db.getLatestResultForCheck check.id = (byTime (db.resultsOf check.id)).head? := by
    show ((byTime (db.resultsOf check.id)).take 1).head? = _
    rcases byTime (db.resultsOf check.id) with _ | ⟨newest, older⟩ <;> rfl
  rw [latest, newestFailed]

/-- What the newest row says is the newest state recorded. -/
theorem rightState_iff (hashed : Hashed alert check db) :
    RightState alert check db ↔ InState (db.resultsOf check.id) (lastState alert check db) := by
  rw [RightState, latestFailed_eq, lastState]
  cases found : lastMark alert check db with
  | none => rw [lastMark_eq_none hashed found]; rfl
  | some mark =>
    obtain ⟨row, last, hash, -⟩ := lastMark_eq_some found
    rw [last]
    dsimp only [Option.map_some, InState]
    rw [hash, Option.some.injEq]

/-- Each of the reports is evaluated as it arrives. -/
theorem processReports_arrive (outside : Outside) (status : StatusAlert alert) {reports : List AgentReport}
    (arrivals : Arrivals check reports) {earlier : List CheckResult} (stands : Stands alert check db)
    (stored : db.resultsOf check.id = earlier)
    (isNew : ∀ old ∈ earlier, ∀ entry ∈ reports.flatMap (·.results), old.timestamp ≠ entry.1.timestamp)
    (before : WrittenBefore alert check db (reports.flatMap (·.results)))
    (state : lastState alert check db = arrivedState alert.onError earlier) :
    let processed := (processReports outside reports db).1
    Hashed alert check processed ∧ processed.resultsOf check.id = arrivalsOf reports ++ earlier ∧
      lastState alert check processed = arrivedState alert.onError (arrivalsOf reports ++ earlier) := by
  induction reports generalizing db earlier with
  | nil => exact ⟨stands.hashed, stored, state⟩
  | cons report rest ih =>
    have isReport : report ∈ report :: rest := List.mem_cons_self ..
    obtain ⟨⟨checkResult, now⟩, single⟩ := arrivals.single report isReport
    have apart := arrivals.apart
    rw [List.flatMap_cons] at before isNew apart
    obtain ⟨own, others, across⟩ := List.pairwise_append.mp apart
    have processed : processAgentReport outside report db = evaluateEach outside report.results
        { db with results := report.checkResults.reverse ++ db.results } := by
      refine processAgentReport_new (arrivals.reportable report isReport)
        (arrivals.ofCheck report isReport) (own.imp And.left) fun old mem entry within => ?_
      rw [stored] at mem
      exact isNew old mem entry (List.mem_append_left _ within)
    obtain ⟨rows, added, ofRows, nextStands, told, -⟩ :=
      (stands.store report.checkResults.reverse).evaluateEach outside status
      (arrivals.ofCheck report isReport)
      (fun row mem entry within => before row mem entry (List.mem_append_left _ within))
      (own.imp And.right)
    rw [← processed] at added nextStands told
    have one : report.checkResults = [checkResult] := by rw [AgentReport.checkResults, single]; rfl
    have nowStored : (processAgentReport outside report db).1.resultsOf check.id = checkResult :: earlier := by
      have isCheck := arrivals.ofCheck report isReport (checkResult, now) (by rw [single]; simp)
      rw [added, resultsOf_addLogs, one, ← stored]
      exact List.filter_cons_of_pos (decide_eq_true isCheck)
    have nowState : lastState alert check (processAgentReport outside report db).1 =
        arrivedState alert.onError (checkResult :: earlier) := by
      have withIt : ({ db with results := report.checkResults.reverse ++ db.results } : Db).resultsOf check.id =
          checkResult :: earlier := by
        rw [← nowStored, added, resultsOf_addLogs]
      have sameState : lastState alert check { db with results := report.checkResults.reverse ++ db.results } =
          arrivedState alert.onError earlier := state
      rw [told, withIt, single, sameState]
      rfl
    have nextBefore : WrittenBefore alert check (processAgentReport outside report db).1
        (rest.flatMap (·.results)) := by
      rw [added]
      exact WrittenBefore.addLogs (fun row mem entry within => before row mem entry
        (List.mem_append_right _ within)) ofRows fun entry mem other within => (across entry mem other within).2
    have nextNew : ∀ old ∈ checkResult :: earlier, ∀ entry ∈ rest.flatMap (·.results),
        old.timestamp ≠ entry.1.timestamp := by
      intro old isOld entry within
      rcases List.mem_cons.mp isOld with rfl | isEarlier
      · exact (across (old, now) (by rw [single]; simp) entry within).1
      · exact isNew old isEarlier entry (List.mem_append_right _ within)
    have next := ih ⟨fun report mem => arrivals.reportable report (List.mem_cons_of_mem _ mem),
        fun report mem => arrivals.ofCheck report (List.mem_cons_of_mem _ mem),
        fun report mem => arrivals.single report (List.mem_cons_of_mem _ mem), others⟩
      nextStands nowStored nextNew nextBefore nowState
    have newestFirst : arrivalsOf (report :: rest) ++ earlier = arrivalsOf rest ++ checkResult :: earlier := by
      rw [arrivalsOf, List.flatMap_cons, one, List.reverse_append, List.append_assoc]
      rfl
    rw [newestFirst, processReports]
    exact next

/-- **Late results leave the alert in the check's state exactly when their arrivals
settle**: all succeed; or the result taken last is a success exactly when, since the
last failure to arrive, some success found the second newest result failed. An alert
that is not set on errors needs such a success, at any time, and the result taken last
to be one too. -/
theorem late_results_iff (outside : Outside) (status : StatusAlert alert)
    (undisturbed : Undisturbed alert check db) {reports : List AgentReport}
    (arrivals : Arrivals check reports) :
    RightState alert check (processReports outside reports db).1 ↔
      Settles alert.onError (arrivalsOf reports) := by
  have noRows : WrittenBefore alert check db (reports.flatMap (·.results)) := by
    intro row mem
    rw [undisturbed.untouched.rows] at mem
    cases mem
  obtain ⟨hashed, results, state⟩ := processReports_arrive outside status arrivals undisturbed.stands
    undisturbed.untouched.results (by simp) noRows undisturbed.nothing
  rw [rightState_iff hashed, results, state, List.append_nil, inState_iff]

end Server

/-! ## A failure after a success taken later -/

/-- The results of the check in the order of their arrival, by the time they were
taken, evaluated one after another. -/
def soloArrivals (results : List (Nat × Bool)) : List AgentReport :=
  results.mapIdx fun i (n, success) =>
    { reportable := [soloCheck.id], results := [(soloResult n success, (i : Time))] }

/-- An outage whose failure is late, but before the recovery. -/
theorem late_outage_settles :
    RightState statusAlert soloCheck
      (processReports calm (soloArrivals [(1, true), (3, false), (2, false), (4, true)]) (soloDb statusAlert)).1 := by
  have arrivals : Arrivals soloCheck (soloArrivals [(1, true), (3, false), (2, false), (4, true)]) := by
    refine ⟨by decide, by decide, ?_, by decide⟩
    simp [soloArrivals, AgentReport.IsSingle]
  exact (late_results_iff calm statusAlert_status solo_undisturbed arrivals).mpr (by decide)

/-- A failure that arrives after a success taken later leaves the alert down. -/
theorem late_failure_keeps_down :
    Arrivals soloCheck (soloArrivals [(2, true), (1, false)]) ∧
    ¬ RightState statusAlert soloCheck
      (processReports calm (soloArrivals [(2, true), (1, false)]) (soloDb statusAlert)).1 := by
  have arrivals : Arrivals soloCheck (soloArrivals [(2, true), (1, false)]) := by
    refine ⟨by decide, by decide, ?_, by decide⟩
    simp [soloArrivals, AgentReport.IsSingle]
  refine ⟨arrivals, ?_⟩
  intro right
  generalize processed : (processReports calm (soloArrivals [(2, true), (1, false)]) (soloDb statusAlert)).1 = db
    at right
  have down : (db.getLastNotificationForDedup statusAlert.id soloCheck.id).map (·.notificationHash) =
      some (some .statusDown) := by
    rw [← processed]
    decide
  have newest : (db.getLatestResultForCheck soloCheck.id).any (·.failed) = false := by
    rw [← processed]
    decide
  obtain ⟨row, last, hash⟩ := Option.map_eq_some_iff.mp down
  rw [RightState, last, newest] at right
  exact absurd (right.mp hash) (by decide)

end LuxSwirl.Server
