import LuxSwirl.Server.Batches
import LuxSwirl.Server.Solo

/-!
# Reports of several results

`process_agent_report` stores all the results of a report and then evaluates each of
them, so the recovery rule reads the newest stored results, not the ones before the
one evaluated. `processReports_tells` says what a run of reports tells of a status
alert, and `batching_iff` when that is what single results would tell.
-/

namespace LuxSwirl.Server
open LuxSwirl.Py LuxSwirl.Lib

/-- A report: what its agent may report (the ids of `get_reportable_checks`), and
its results in order, each with the clock at its evaluation. -/
structure AgentReport where
  reportable : List Id
  results : List (CheckResult × Time)

/-- The rows that are new, and the tables with them. A row stored before for the
same check and time is left out, also one of the same statement. -/
def bulkInsertIdempotent : List (CheckResult × Time) → Db → List (CheckResult × Time) × Db
  | [], db => ([], db)
  | entry :: rest, db =>
    if db.results.any fun old =>
      decide (old.checkId = entry.1.checkId ∧ old.timestamp = entry.1.timestamp)
    then bulkInsertIdempotent rest db
    else
      let (inserted, db) := bulkInsertIdempotent rest (db.addResult entry.1)
      (entry :: inserted, db)

/-- Each result is evaluated in turn. -/
def evaluateEach (outside : Outside) : List (CheckResult × Time) → Db → Db × List Notice
  | [], db => (db, [])
  | (checkResult, now) :: rest, db =>
    let (db, notices) := evaluateCheckResult outside now checkResult db
    let (db, more) := evaluateEach outside rest db
    (db, notices ++ more)

/-- `process_agent_report`, as far as alerts go: a result of a check the agent may
not report is skipped. -/
def processAgentReport (outside : Outside) (report : AgentReport) (db : Db) : Db × List Notice :=
  let (inserted, db) := bulkInsertIdempotent
    (report.results.filter fun entry => decide (entry.1.checkId ∈ report.reportable)) db
  evaluateEach outside inserted db

/-- Some reports in turn. -/
def processReports (outside : Outside) : List AgentReport → Db → Db × List Notice
  | [], db => (db, [])
  | report :: rest, db =>
    let (db, notices) := processAgentReport outside report db
    let (db, more) := processReports outside rest db
    (db, notices ++ more)

/-- A report of one result is what a run of single results makes of it. -/
theorem processAgentReport_single (outside : Outside) (now : Time) (checkResult : CheckResult) (db : Db) :
    processAgentReport outside ⟨[checkResult.checkId], [(checkResult, now)]⟩ db =
      reportResult outside now checkResult db := by
  have kept : [(checkResult, now)].filter (fun entry => decide (entry.1.checkId ∈ [checkResult.checkId])) =
      [(checkResult, now)] := by simp
  rw [processAgentReport, reportResult, kept, bulkInsertIdempotent]
  dsimp only
  split_ifs
  · rfl
  · simp [bulkInsertIdempotent, evaluateEach]

section Told

variable {outside : Outside} {alert : Alert} {check : Check} {db : Db}

/-- The alert of the claims on batches: a status alert at one failure each that
tells of recoveries and sends nothing again. -/
structure StatusAlert (alert : Alert) : Prop where
  type : alert.triggerType = .statusChange
  single : alert.triggerConfig.consecutiveFailures.getD 1 = 1
  recovery : alert.notifyOnRecovery = true
  noResend : alert.resendIntervalMinutes = none

/-- The alert is set on errors. -/
def Alert.onError (alert : Alert) : Bool :=
  decide (.error ∈ alert.triggerConfig.onStatus.getD [.error])

/-- The notification of a result's state. -/
def toldNotice (alert : Alert) (check : Check) (checkResult : CheckResult) : Notice :=
  noticeOf alert check checkResult ⟨statusKey checkResult, false, 0, checkResult.success⟩

/-- The status alert as a policy, when the result before the newest stored one
failed or not. -/
def Alert.statusPolicy (alert : Alert) (failedBefore : Bool) : Policy CheckResult StateKey Time where
  fires history _ := history.head?.any (firesWith alert.onError failedBefore)
  key := statusKey
  recovers checkResult := checkResult.success
  mask := .parentDown
  resend := resendDue alert

/-- The pair as the claims on several results find it: watched, not snoozed, and
without a parent. -/
structure Stands (alert : Alert) (check : Check) (db : Db) : Prop where
  watched : Watched alert check db
  hashed : Hashed alert check db
  unsnoozed : (db.getCheckMapping alert.id check.id).bind (·.snoozedUntil) = none
  orphan : check.dependsOnCheckId = none

/-- Some results, newest first by their time. -/
def byTime (stored : List CheckResult) : List CheckResult :=
  stored.insertionSort fun a b => b.timestamp ≤ a.timestamp

/-- The second newest of some stored results failed. -/
def secondNewestFailed (stored : List CheckResult) : Bool :=
  match byTime stored with
  | _ :: previous :: _ => previous.failed
  | _ => false

/-- The results stored are those, oldest first. -/
structure Stored (check : Check) (earlier : List CheckResult) (db : Db) : Prop where
  results : db.resultsOf check.id = earlier.reverse
  ordered : NewestFirst (db.resultsOf check.id)

/-- Of results stored in order it is the last but one. -/
theorem Stored.secondNewest {earlier : List CheckResult} (stored : Stored check earlier db) :
    secondNewestFailed (db.resultsOf check.id) = secondLastFailed earlier := by
  have sorted : byTime (db.resultsOf check.id) = earlier.reverse := by
    rw [byTime, List.Pairwise.insertionSort_eq (stored.ordered.imp fun lt => le_of_lt lt), stored.results]
  rcases last : earlier.reverse with _ | ⟨newest, _ | ⟨previous, older⟩⟩ <;>
    simp [secondNewestFailed, secondLastFailed, sorted, last]

/-- The newest state recorded for the pair. -/
def lastState (alert : Alert) (check : Check) (db : Db) : Option StateKey :=
  (lastMark alert check db).map (·.key)

theorem Stands.addLogs (stands : Stands alert check db) (rows : List NotificationLog)
    (hashed : Hashed alert check (db.addNotificationLogs rows)) :
    Stands alert check (db.addNotificationLogs rows) where
  watched := stands.watched.addLogs rows
  hashed
  unsnoozed := stands.unsnoozed
  orphan := stands.orphan

/-- On any stored results, the status alert obeys its policy. -/
theorem StatusAlert.obeys (status : StatusAlert alert) (check : Check) (checkResult : CheckResult)
    (db : Db) :
    Obeys (alert.statusPolicy (secondNewestFailed (db.resultsOf check.id))) alert check checkResult [] db where
  notSilence := notSilence_of_plain (by simp [Alert.isPlain, status.type])
  fires := by
    have recent : db.getRecentResultsForCheck check.id 2 = (byTime (db.resultsOf check.id)).take 2 := rfl
    have decided : evaluateStatusChange alert check checkResult db =
        firesWith alert.onError (secondNewestFailed (db.resultsOf check.id)) checkResult := by
      rw [evaluateStatusChange, recent, status.single, status.recovery, firesWith, Alert.onError,
        secondNewestFailed]
      cases success : checkResult.success with
      | true => rcases byTime (db.resultsOf check.id) with _ | ⟨newest, _ | ⟨previous, older⟩⟩ <;> rfl
      | false =>
        by_cases onError : Status.error ∈ alert.triggerConfig.onStatus.getD [.error] <;> simp [onError]
    rw [shouldFireAlert, status.type, decided]
    rfl
  key := by
    rw [computeAlertStateKey, status.type]
    rfl
  recovers := by
    rw [isRecovery, status.recovery, status.type]
    rfl
  mask := rfl
  resend := rfl

/-- **Evaluating a result tells its state**, by the newest state recorded. -/
theorem Stands.evaluate (outside : Outside) (status : StatusAlert alert)
    (stands : Stands alert check db) {checkResult : CheckResult}
    (isCheck : checkResult.checkId = check.id) {now : Time}
    (later : ∀ row ∈ db.pairRows alert.id check.id, row.sentAt < now) :
    let fires := firesWith alert.onError (secondNewestFailed (db.resultsOf check.id)) checkResult
    let evaluated := evaluateCheckResult outside now checkResult db
    ∃ rows, evaluated.1 = db.addNotificationLogs rows ∧ (∀ row ∈ rows, row.sentAt = now) ∧
      Stands alert check evaluated.1 ∧
      lastState alert check evaluated.1 = toldState fires checkResult (lastState alert check db) ∧
      evaluated.2.filter (Notice.isOf alert check) =
        if tells fires checkResult (lastState alert check db) then [toldNotice alert check checkResult]
        else [] := by
  have never : ∀ now mark, (alert.statusPolicy
      (secondNewestFailed (db.resultsOf check.id))).resend now mark = none := by
    intro now mark
    show resendDue alert now mark = none
    rw [resendDue, status.noResend]
  have unheld : (inputOf alert check now checkResult db).held = false := by
    show isSnoozed now alert.id check.id db = false
    rw [isSnoozed, stands.unsnoozed]
    rfl
  have unmasked : (inputOf alert check now checkResult db).masked = false := by
    show parentIsDown check db = false
    rw [parentIsDown, stands.orphan]
  obtain ⟨last, hashed, notices, -⟩ := evaluateCheckResult_obeys outside now stands.watched stands.hashed
    isCheck (status.obeys check checkResult db) (fun row mem => le_of_lt (later row mem))
  obtain ⟨state, sent⟩ := Policy.step_unrepeated _ ⟨[], lastMark alert check db⟩ never unheld
    (by rw [unmasked]; rfl)
  obtain ⟨rows, added, ofRows, -⟩ := evaluateCheckResult_adds outside now checkResult db
  refine ⟨rows, added, fun row mem => (ofRows row mem).2, ?_, ?_, ?_⟩
  · rw [added] at hashed ⊢
    exact stands.addLogs rows hashed
  · rw [lastState, last, state]
    rfl
  · rw [notices, sent]
    show (if tells (firesWith alert.onError (secondNewestFailed (db.resultsOf check.id)) checkResult) checkResult
        (lastState alert check db) then some ⟨statusKey checkResult, false, 0, checkResult.success⟩
      else none).toList.map (noticeOf alert check checkResult) = _
    split_ifs <;> rfl

/-- Results that are all new are all stored. -/
theorem bulkInsert_new {entries : List (CheckResult × Time)}
    (isNew : ∀ entry ∈ entries, ∀ old ∈ db.results, old.checkId = entry.1.checkId →
      old.timestamp ≠ entry.1.timestamp)
    (apart : entries.Pairwise fun entry later => entry.1.checkId = later.1.checkId →
      entry.1.timestamp ≠ later.1.timestamp) :
    bulkInsertIdempotent entries db =
      (entries, { db with results := (entries.map (·.1)).reverse ++ db.results }) := by
  induction entries generalizing db with
  | nil => rfl
  | cons entry rest ih =>
    obtain ⟨fromEntry, apart⟩ := List.pairwise_cons.mp apart
    have absent : ¬ (db.results.any fun old =>
        decide (old.checkId = entry.1.checkId ∧ old.timestamp = entry.1.timestamp)) = true := by
      intro stored
      obtain ⟨old, mem, same⟩ := List.any_eq_true.mp stored
      obtain ⟨sameCheck, sameTime⟩ := of_decide_eq_true same
      exact isNew entry (List.mem_cons_self ..) old mem sameCheck sameTime
    have stillNew : ∀ other ∈ rest, ∀ old ∈ (db.addResult entry.1).results,
        old.checkId = other.1.checkId → old.timestamp ≠ other.1.timestamp := by
      intro other within old mem
      rcases List.mem_cons.mp mem with rfl | stored
      · exact fromEntry other within
      · exact isNew other (List.mem_cons_of_mem _ within) old stored
    rw [bulkInsertIdempotent, if_neg absent, ih stillNew apart]
    simp [Db.addResult]

/-- Every row of the pair was written before these evaluations. -/
def WrittenBefore (alert : Alert) (check : Check) (db : Db) (entries : List (CheckResult × Time)) : Prop :=
  ∀ row ∈ db.pairRows alert.id check.id, ∀ entry ∈ entries, row.sentAt < entry.2

theorem WrittenBefore.addLogs {entries later : List (CheckResult × Time)} {rows : List NotificationLog}
    (before : WrittenBefore alert check db later)
    (ofRows : ∀ row ∈ rows, ∃ entry ∈ entries, row.sentAt = entry.2)
    (apart : ∀ entry ∈ entries, ∀ other ∈ later, entry.2 < other.2) :
    WrittenBefore alert check (db.addNotificationLogs rows) later := by
  intro row mem other within
  rw [pairRows_addLogs] at mem
  rcases List.mem_append.mp mem with old | new
  · exact before row old other within
  · obtain ⟨entry, isEntry, same⟩ := ofRows row (List.mem_of_mem_filter new)
    rw [same]
    exact apart entry isEntry other within

/-- **Evaluating the results of a report tells a batch.** -/
theorem Stands.evaluateEach (outside : Outside) (status : StatusAlert alert)
    (stands : Stands alert check db) {entries : List (CheckResult × Time)}
    (ofCheck : ∀ entry ∈ entries, entry.1.checkId = check.id)
    (before : WrittenBefore alert check db entries)
    (clocks : entries.Pairwise fun entry later => entry.2 < later.2) :
    let batch := tellBatch alert.onError (secondNewestFailed (db.resultsOf check.id))
      (lastState alert check db) (entries.map (·.1))
    let evaluated := Server.evaluateEach outside entries db
    ∃ rows, evaluated.1 = db.addNotificationLogs rows ∧
      (∀ row ∈ rows, ∃ entry ∈ entries, row.sentAt = entry.2) ∧
      Stands alert check evaluated.1 ∧ lastState alert check evaluated.1 = batch.1 ∧
      evaluated.2.filter (Notice.isOf alert check) = batch.2.map (toldNotice alert check) := by
  induction entries generalizing db with
  | nil => exact ⟨[], by simp [Server.evaluateEach, Db.addNotificationLogs], by simp, stands, rfl, rfl⟩
  | cons entry rest ih =>
    obtain ⟨checkResult, now⟩ := entry
    obtain ⟨fromEntry, clocks⟩ := List.pairwise_cons.mp clocks
    obtain ⟨rows, added, ofRows, nextStands, state, notices⟩ := stands.evaluate outside status
      (ofCheck (checkResult, now) (List.mem_cons_self ..))
      (fun row mem => before row mem (checkResult, now) (List.mem_cons_self ..))
    have nextBefore : WrittenBefore alert check (evaluateCheckResult outside now checkResult db).1 rest := by
      rw [added]
      have ofOne : ∀ row ∈ rows, ∃ entry ∈ [(checkResult, now)], row.sentAt = entry.2 :=
        fun row mem => ⟨_, List.mem_singleton_self _, ofRows row mem⟩
      refine WrittenBefore.addLogs
        (fun row mem entry within => before row mem entry (List.mem_cons_of_mem _ within)) ofOne ?_
      intro entry isEntry other within
      rw [List.mem_singleton.mp isEntry]
      exact fromEntry other within
    obtain ⟨more, addedMore, ofMore, lastStands, final, others⟩ := ih nextStands
      (fun entry mem => ofCheck entry (List.mem_cons_of_mem _ mem)) nextBefore clocks
    have sameResults : (evaluateCheckResult outside now checkResult db).1.resultsOf check.id =
        db.resultsOf check.id := by
      rw [added, resultsOf_addLogs]
    rw [state, sameResults] at final others
    refine ⟨rows ++ more, ?_, ?_, lastStands, final, ?_⟩
    · rw [Server.evaluateEach]
      dsimp only
      rw [addedMore, added]
      simp [Db.addNotificationLogs]
    · intro row mem
      rcases List.mem_append.mp mem with own | later
      · exact ⟨_, List.mem_cons_self .., ofRows row own⟩
      · obtain ⟨entry, within, same⟩ := ofMore row later
        exact ⟨entry, List.mem_cons_of_mem _ within, same⟩
    · rw [Server.evaluateEach, List.map_cons, tellBatch]
      dsimp only
      rw [List.filter_append, notices, others]
      split_ifs <;> rfl

/-- The reports give results of one check, in the order they were taken and, later
and later, evaluated. -/
structure ReportsOf (check : Check) (reports : List AgentReport) : Prop where
  reportable : ∀ report ∈ reports, check.id ∈ report.reportable
  ofCheck : ∀ report ∈ reports, ∀ entry ∈ report.results, entry.1.checkId = check.id
  ordered : (reports.flatMap (·.results)).Pairwise fun entry later =>
    entry.1.timestamp < later.1.timestamp ∧ entry.2 < later.2

/-- The results of a report. -/
def AgentReport.checkResults (report : AgentReport) : List CheckResult := report.results.map (·.1)

/-- A report stores its results, all new, and evaluates them. -/
theorem processAgentReport_new {report : AgentReport} (reportable : check.id ∈ report.reportable)
    (ofCheck : ∀ entry ∈ report.results, entry.1.checkId = check.id)
    (apart : report.results.Pairwise fun entry later => entry.1.timestamp ≠ later.1.timestamp)
    (isNew : ∀ old ∈ db.resultsOf check.id, ∀ entry ∈ report.results, old.timestamp ≠ entry.1.timestamp) :
    processAgentReport outside report db = evaluateEach outside report.results
      { db with results := report.checkResults.reverse ++ db.results } := by
  have kept : report.results.filter (fun entry => decide (entry.1.checkId ∈ report.reportable)) =
      report.results := by
    rw [List.filter_eq_self]
    intro entry mem
    rw [ofCheck entry mem]
    exact decide_eq_true reportable
  have inserted : bulkInsertIdempotent report.results db =
      (report.results, { db with results := (report.results.map (·.1)).reverse ++ db.results }) := by
    have apartEach : report.results.Pairwise fun entry later => entry.1.checkId = later.1.checkId →
        entry.1.timestamp ≠ later.1.timestamp := by
      refine apart.imp ?_
      intro entry later differ _
      exact differ
    refine bulkInsert_new (fun entry mem old stored same => ?_) apartEach
    refine isNew old (List.mem_filter.mpr ⟨stored, ?_⟩) entry mem
    rw [same, ofCheck entry mem]
    exact decide_eq_true rfl
  rw [processAgentReport, kept, inserted]
  rfl

/-- What is stored once the results of a report are. -/
theorem Stored.store {earlier : List CheckResult} (stored : Stored check earlier db)
    {batch : List CheckResult} (ofCheck : ∀ result ∈ batch, result.checkId = check.id)
    (ordered : batch.Pairwise fun result later => result.timestamp < later.timestamp)
    (isNew : ∀ old ∈ earlier, ∀ result ∈ batch, old.timestamp < result.timestamp) :
    Stored check (earlier ++ batch) { db with results := batch.reverse ++ db.results } := by
  have results : ({ db with results := batch.reverse ++ db.results } : Db).resultsOf check.id =
      (earlier ++ batch).reverse := by
    have own : batch.reverse.filter (fun result => decide (result.checkId = check.id)) = batch.reverse := by
      rw [List.filter_eq_self]
      intro result mem
      exact decide_eq_true (ofCheck result (List.mem_reverse.mp mem))
    rw [Db.resultsOf, List.filter_append, own, ← Db.resultsOf, stored.results, List.reverse_append]
  refine ⟨results, ?_⟩
  have old := stored.ordered
  rw [stored.results, NewestFirst, List.pairwise_reverse] at old
  rw [results, NewestFirst, List.pairwise_reverse, List.pairwise_append]
  exact ⟨old, ordered, isNew⟩

theorem Stands.store (stands : Stands alert check db) (batch : List CheckResult) :
    Stands alert check { db with results := batch ++ db.results } where
  watched := { stands.watched with }
  hashed := stands.hashed
  unsnoozed := stands.unsnoozed
  orphan := stands.orphan

/-- **A run of reports tells batches** of the alert. -/
theorem processReports_tells (outside : Outside) (status : StatusAlert alert) {earlier : List CheckResult}
    (stands : Stands alert check db) (stored : Stored check earlier db) {reports : List AgentReport}
    (ofCheck : ReportsOf check reports)
    (before : WrittenBefore alert check db (reports.flatMap (·.results)))
    (isNew : ∀ old ∈ earlier, ∀ entry ∈ reports.flatMap (·.results), old.timestamp < entry.1.timestamp) :
    (processReports outside reports db).2.filter (Notice.isOf alert check) =
      (tellBatches alert.onError earlier (lastState alert check db)
        (reports.map (·.checkResults))).map (toldNotice alert check) := by
  induction reports generalizing db earlier with
  | nil => rfl
  | cons report rest ih =>
    have isReport : report ∈ report :: rest := List.mem_cons_self ..
    have ordered := ofCheck.ordered
    rw [List.flatMap_cons] at before isNew ordered
    obtain ⟨own, others, across⟩ := List.pairwise_append.mp ordered
    have isResult : ∀ result ∈ report.checkResults, result.checkId = check.id := by
      intro result mem
      obtain ⟨entry, within, rfl⟩ := List.mem_map.mp mem
      exact ofCheck.ofCheck report isReport entry within
    have taken : report.checkResults.Pairwise fun result later => result.timestamp < later.timestamp :=
      List.pairwise_map.mpr (own.imp And.left)
    have afterEarlier : ∀ old ∈ earlier, ∀ result ∈ report.checkResults, old.timestamp < result.timestamp := by
      intro old isOld result mem
      obtain ⟨entry, within, rfl⟩ := List.mem_map.mp mem
      exact isNew old isOld entry (List.mem_append_left _ within)
    have nowStored := stored.store isResult taken afterEarlier
    have processed : processAgentReport outside report db = evaluateEach outside report.results
        { db with results := report.checkResults.reverse ++ db.results } := by
      refine processAgentReport_new (ofCheck.reportable report isReport)
        (ofCheck.ofCheck report isReport) (own.imp fun later => ne_of_lt later.1) fun old mem entry within => ?_
      rw [stored.results] at mem
      exact ne_of_lt (isNew old (List.mem_reverse.mp mem) entry (List.mem_append_left _ within))
    obtain ⟨rows, added, ofRows, nextStands, state, notices⟩ :=
      (stands.store report.checkResults.reverse).evaluateEach outside status
      (ofCheck.ofCheck report isReport)
      (fun row mem entry within => before row mem entry (List.mem_append_left _ within))
      (own.imp And.right)
    rw [← processed, nowStored.secondNewest] at state notices
    rw [← processed] at added nextStands
    have nextStored : Stored check (earlier ++ report.checkResults) (processAgentReport outside report db).1 := by
      rw [added]
      exact ⟨nowStored.results, nowStored.ordered⟩
    have nextBefore : WrittenBefore alert check (processAgentReport outside report db).1
        (rest.flatMap (·.results)) := by
      rw [added]
      exact WrittenBefore.addLogs (fun row mem entry within => before row mem entry
        (List.mem_append_right _ within)) ofRows fun entry mem other within => (across entry mem other within).2
    have next := ih nextStands nextStored
      ⟨fun report mem => ofCheck.reportable report (List.mem_cons_of_mem _ mem),
        fun report mem => ofCheck.ofCheck report (List.mem_cons_of_mem _ mem), others⟩ nextBefore
      (by
        intro old isOld entry within
        rcases List.mem_append.mp isOld with isEarlier | isOwn
        · exact isNew old isEarlier entry (List.mem_append_right _ within)
        · obtain ⟨mine, isMine, rfl⟩ := List.mem_map.mp isOwn
          exact (across mine isMine entry within).1)
    rw [state] at next
    rw [processReports, List.map_cons, tellBatches]
    dsimp only
    rw [List.filter_append, notices, next, List.map_append]
    rfl

/-! ## Cut into reports or not -/

/-- Reports and single reports of the same results, to the same tables. -/
structure Cut (check : Check) (reports singles : List AgentReport) : Prop where
  whole : ReportsOf check reports
  alone : ReportsOf check singles
  single : ∀ report ∈ singles, ∃ result, report.checkResults = [result]
  same : reports.flatMap (·.checkResults) = singles.flatMap (·.checkResults)
  nodup : ((reports.flatMap (·.checkResults)).map (·.id)).Nodup

/-- The reports notify of the pair what the single ones notify, in the same order. -/
def NotifiesAlike (outside : Outside) (alert : Alert) (check : Check) (db : Db)
    (reports singles : List AgentReport) : Prop :=
  (processReports outside reports db).2.filter (Notice.isOf alert check) =
    (processReports outside singles db).2.filter (Notice.isOf alert check)

/-- Results are told of alike only if they are the same. -/
theorem eq_of_toldNotice {results told others : List CheckResult} (nodup : (results.map (·.id)).Nodup)
    (ofTold : told ⊆ results) (ofOthers : others ⊆ results)
    (same : told.map (toldNotice alert check) = others.map (toldNotice alert check)) : told = others := by
  induction told generalizing others with
  | nil => exact (List.map_eq_nil_iff.mp same.symm).symm
  | cons result rest ih =>
    rcases others with _ | ⟨other, others⟩
    · cases same
    · obtain ⟨first, tail⟩ := List.cons.inj same
      have sameId : result.id = other.id := Option.some.inj (congrArg Notice.checkResultId first)
      have isSame := List.inj_on_of_nodup_map nodup (ofTold (List.mem_cons_self ..))
        (ofOthers (List.mem_cons_self ..)) sameId
      rw [isSame, ih (fun x mem => ofTold (List.mem_cons_of_mem _ mem))
        (fun x mem => ofOthers (List.mem_cons_of_mem _ mem)) tail]

/-- Single results tell what they tell one at a time. -/
theorem tellBatches_single (onError : Bool) {singles : List (List CheckResult)}
    (single : ∀ batch ∈ singles, ∃ result, batch = [result]) (nodup : singles.flatten.Nodup) :
    tellBatches onError [] none singles = (tellEach onError false none singles.flatten).2 := by
  refine (tellBatches_iff onError nodup).mpr fun before batch after split => ?_
  obtain ⟨result, rfl⟩ := single batch (split ▸ List.mem_append_right _ (List.mem_cons_self ..))
  exact batchAgrees_single onError _ result

/-- Nothing of the pair is snoozed or has a parent. -/
structure Undisturbed (alert : Alert) (check : Check) (db : Db) : Prop where
  untouched : Untouched alert check db
  unsnoozed : (db.getCheckMapping alert.id check.id).bind (·.snoozedUntil) = none
  orphan : check.dependsOnCheckId = none

theorem Undisturbed.stands (undisturbed : Undisturbed alert check db) : Stands alert check db where
  watched := undisturbed.untouched.watched
  hashed := undisturbed.untouched.tracked.hashed
  unsnoozed := undisturbed.unsnoozed
  orphan := undisturbed.orphan

theorem Undisturbed.nothing (undisturbed : Undisturbed alert check db) : lastState alert check db = none := by
  rw [lastState, lastMark, Db.getLastNotificationForDedup, undisturbed.untouched.rows]
  rfl

/-- What reports of a check tell from the start. -/
theorem Undisturbed.tells (outside : Outside) (status : StatusAlert alert)
    (undisturbed : Undisturbed alert check db) {reports : List AgentReport} (ofCheck : ReportsOf check reports) :
    (processReports outside reports db).2.filter (Notice.isOf alert check) =
      (tellBatches alert.onError [] none (reports.map (·.checkResults))).map (toldNotice alert check) := by
  have noRows : WrittenBefore alert check db (reports.flatMap (·.results)) := by
    intro row mem
    rw [undisturbed.untouched.rows] at mem
    cases mem
  have stored : Stored check [] db :=
    ⟨undisturbed.untouched.results, undisturbed.untouched.tracked.ordered⟩
  rw [processReports_tells outside status undisturbed.stands stored ofCheck noRows (by simp),
    undisturbed.nothing]

/-- **Batching changes nothing exactly when every report agrees** with the results
before it: the alert is not set on errors and a recovery came before; or the result
before its newest failed and a failure came before or is its first; or that result
did not fail and no success of it comes right after a failure. -/
theorem batching_iff (outside : Outside) (status : StatusAlert alert)
    (undisturbed : Undisturbed alert check db) {reports singles : List AgentReport}
    (cut : Cut check reports singles) :
    NotifiesAlike outside alert check db reports singles ↔
      ∀ before report after, reports = before ++ report :: after →
        BatchAgrees alert.onError (before.flatMap (·.checkResults)) report.checkResults := by
  have nodup : (reports.map (·.checkResults)).flatten.Nodup :=
    List.flatMap_def ▸ List.Nodup.of_map _ cut.nodup
  have sameResults : (singles.map (·.checkResults)).flatten = (reports.map (·.checkResults)).flatten := by
    rw [← List.flatMap_def, ← List.flatMap_def, cut.same]
  have oneByOne : tellBatches alert.onError [] none (singles.map (·.checkResults)) =
      (tellEach alert.onError false none (reports.map (·.checkResults)).flatten).2 := by
    rw [tellBatches_single alert.onError _ (sameResults ▸ nodup), sameResults]
    intro batch mem
    obtain ⟨report, isReport, rfl⟩ := List.mem_map.mp mem
    exact cut.single report isReport
  have agree : (∀ before report after, reports = before ++ report :: after →
        BatchAgrees alert.onError (before.flatMap (·.checkResults)) report.checkResults) ↔
      ∀ before batch after, reports.map (·.checkResults) = before ++ batch :: after →
        BatchAgrees alert.onError before.flatten batch := by
    constructor
    · intro each before batch after split
      obtain ⟨front, back, rfl, rfl, tail⟩ := List.map_eq_append_iff.mp split
      obtain ⟨report, rest, rfl, rfl, rfl⟩ := List.map_eq_cons_iff.mp tail
      have agrees := each front report rest rfl
      rwa [List.flatMap_def] at agrees
    · rintro each before report after rfl
      rw [List.flatMap_def]
      exact each _ _ (after.map (·.checkResults)) (by rw [List.map_append, List.map_cons])
  rw [agree, ← tellBatches_iff alert.onError nodup, ← oneByOne, NotifiesAlike,
    undisturbed.tells outside status cut.whole, undisturbed.tells outside status cut.alone]
  constructor
  · refine eq_of_toldNotice cut.nodup ?_ ?_
    · rw [List.flatMap_def]
      exact told_subset_batches _ _
    · rw [cut.same, List.flatMap_def]
      exact told_subset_batches _ _
  · intro same
    rw [same]

end Told

/-! ## An outage in one report -/

def statusAlert : Alert where
  id := 1
  triggerType := .statusChange

/-- A report of the `n`th results of the check, each a success or not, evaluated as
they are taken. -/
def soloReport (results : List (Nat × Bool)) : AgentReport where
  reportable := [soloCheck.id]
  results := results.map fun (n, success) => (soloResult n success, (n : Time))

theorem statusAlert_status : StatusAlert statusAlert := ⟨rfl, rfl, rfl, rfl⟩

theorem solo_undisturbed : Undisturbed statusAlert soloCheck (soloDb statusAlert) :=
  ⟨soloDb_untouched rfl rfl, rfl, rfl⟩

/-- A failure and the recovery from it notify alike in one report and in two. -/
theorem batching_outage : NotifiesAlike calm statusAlert soloCheck (soloDb statusAlert)
    [soloReport [(1, false), (2, true)]] [soloReport [(1, false)], soloReport [(2, true)]] := by
  have cut : Cut soloCheck [soloReport [(1, false), (2, true)]]
      [soloReport [(1, false)], soloReport [(2, true)]] :=
    ⟨⟨by decide, by decide, by decide⟩, ⟨by decide, by decide, by decide⟩, by simp [soloReport,
      AgentReport.checkResults], rfl, by decide⟩
  refine (batching_iff calm statusAlert_status solo_undisturbed cut).mpr ?_
  intro before report after split
  rcases before with _ | ⟨first, before⟩
  · obtain ⟨rfl, -⟩ := List.cons.inj split
    decide
  · simp at split

/-- A failure and two successes in one report notify no recovery: the result before
the newest is a success by then. -/
theorem batched_recovery_unnoticed :
    Cut soloCheck [soloReport [(1, false), (2, true), (3, true)]]
      [soloReport [(1, false)], soloReport [(2, true)], soloReport [(3, true)]] ∧
    ¬ NotifiesAlike calm statusAlert soloCheck (soloDb statusAlert)
      [soloReport [(1, false), (2, true), (3, true)]]
      [soloReport [(1, false)], soloReport [(2, true)], soloReport [(3, true)]] := by
  refine ⟨⟨⟨by decide, by decide, by decide⟩, ⟨by decide, by decide, by decide⟩,
    by simp [soloReport, AgentReport.checkResults], rfl, by decide⟩, ?_⟩
  unfold NotifiesAlike
  decide

end LuxSwirl.Server
