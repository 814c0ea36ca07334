import LuxSwirl.Server.Snoozes

/-!
# Silence episodes

A silence is told of once until a result ends it. No episode is stored: each
pass makes it out from the newest row of the pair and the results since. What
ties the two is `Episodes`, which every event keeps.
-/

namespace LuxSwirl.Server
open LuxSwirl.Py LuxSwirl.Lib

/-- A result of the check is stored that is later than a time. -/
def HeardSince (check : Check) (db : Db) (time : Time) : Prop :=
  ∃ result ∈ db.resultsOf check.id, time < result.timestamp

/-- The row tells of a silence, and not again. -/
def IsFreshSilence (row : NotificationLog) : Prop :=
  row.notificationHash = some .checkSilent ∧ row.isResend = false

/-- The newest row of the pair tells of a silence. -/
def LastSilent (alert : Alert) (check : Check) (db : Db) (row : NotificationLog) : Prop :=
  db.getLastNotificationForDedup alert.id check.id = some row ∧ row.notificationHash = some .checkSilent

/-- Each silence told of has ended, or is the newest thing told; rows of one time
are of one notice. -/
structure Episodes (alert : Alert) (check : Check) (db : Db) : Prop where
  ended : ∀ first ∈ db.pairRows alert.id check.id, IsFreshSilence first →
    HeardSince check db first.sentAt ∨ ∃ row, LastSilent alert check db row
  time : ∀ row ∈ db.pairRows alert.id check.id, ∀ other ∈ db.pairRows alert.id check.id,
    row.sentAt = other.sentAt → row.notificationHash = other.notificationHash

/-- A pass records at times later than everything logged. -/
def ClockMovesOn (db : Db) : Event → Prop
  | .silencePass _ clock => ∀ row ∈ db.logs, ∀ n, row.sentAt < clock n
  | _ => True

/-- Every agent that is to run the check is offline. -/
def AgentsOffline (outside : Outside) (now : Time) (check : Check) (db : Db) : Prop :=
  ∀ target ∈ assignedAgentsByCheck outside now db, target.check.id = check.id →
    ∀ agent ∈ target.agents, agentOffline outside agent now = true

/-! ## What a pass decides -/

section Decide

variable {outside : Outside} {now : Time} {alert : Alert} {check : Check} {db : Db}

theorem heardSince_of_latest {since last time : Time}
    (isLast : db.latestResultTime check.id since = some last) (later : time < last) :
    HeardSince check db time := by
  have mem := List.mem_of_mem_filter (List.max?_mem isLast)
  obtain ⟨result, within, rfl⟩ := List.mem_map.mp mem
  exact ⟨result, within, later⟩

/-- An episode that is not open has ended. -/
theorem heardSince_of_closed {own : Check} (sameCheck : own.id = check.id) {row : NotificationLog}
    {since : Time}
    (closed : episodeOpen own (some row) (db.latestResultTime own.id since) db = false)
    (silence : row.notificationHash = some .checkSilent) : HeardSince check db row.sentAt := by
  unfold episodeOpen at closed
  dsimp only at closed
  rw [if_pos (Or.inl silence), sameCheck] at closed
  rcases isLast : db.latestResultTime check.id since with _ | last
  · rw [isLast] at closed
    rcases isAfter : db.newestResultAfter check.id row.sentAt with _ | last
    · rw [isAfter] at closed
      cases closed
    · have mem := List.max?_mem isAfter
      obtain ⟨within, later⟩ := List.mem_filter.mp mem
      obtain ⟨result, isResult, rfl⟩ := List.mem_map.mp within
      exact ⟨result, isResult, by simpa using later⟩
  · rw [isLast] at closed
    exact heardSince_of_latest isLast (by simpa using closed)

/-- What a pass decides for a pair, and when. -/
structure Decides (outside : Outside) (now : Time) (alert : Alert) (check : Check) (db : Db)
    (one : PassNotice) : Prop where
  key : one.stateKey = .checkReporting ∨ one.stateKey = .checkSuppressed ∨ one.stateKey = .checkSilent
  /-- Nothing but a resend is decided while a silence told of goes on. -/
  ended : one.stateKey = .checkSilent → one.isResend = true ∨
    ∀ row, LastSilent alert check db row → HeardSince check db row.sentAt
  suppressed : one.stateKey = .checkSuppressed →
    ∀ row, LastSilent alert check db row → HeardSince check db row.sentAt
  reporting : one.stateKey = .checkReporting →
    ∃ row, LastSilent alert check db row ∧ HeardSince check db row.sentAt
  notOffline : one.stateKey = .checkSilent → ¬ AgentsOffline outside now check db

theorem passDecides_spec {one : PassNotice}
    (decided : passDecides outside now alert check db = some one) :
    Decides outside now alert check db one := by
  unfold passDecides at decided
  split_ifs at decided with passed
  obtain ⟨target, isTarget, decided⟩ := Option.bind_eq_some_iff.mp decided
  obtain ⟨sameCheck, -⟩ := mem_of_watchedTarget isTarget
  have assigned : target ∈ assignedAgentsByCheck outside now db :=
    List.mem_of_mem_filter (List.mem_of_find?_eq_some isTarget)
  rcases finds : passFinding outside now alert target db with _ | _ | _ | decision <;>
    rw [finds] at decided <;> cases decided
  · obtain ⟨-, -, row, last, isRow, silent, isLast, later, -⟩ :=
      (passFinding_reporting_iff isTarget).mp finds
    rw [sameCheck] at isRow isLast
    exact
      { key := Or.inl rfl
        ended := by rintro ⟨⟩
        suppressed := by rintro ⟨⟩
        reporting := fun _ => ⟨row, ⟨isRow, silent⟩, heardSince_of_latest isLast later⟩
        notOffline := by rintro ⟨⟩ }
  · refine
      { key := Or.inr (Or.inl rfl)
        ended := by rintro ⟨⟩
        suppressed := fun _ row last => ?_
        reporting := by rintro ⟨⟩
        notOffline := by rintro ⟨⟩ }
    have isRow : db.getLastNotificationForDedup alert.id target.check.id = some row := sameCheck ▸ last.1
    unfold passFinding findNoData at finds
    dsimp only at finds
    rw [isRow] at finds
    split_ifs at finds with _ _ _ _ opened
    exact heardSince_of_closed sameCheck (Bool.not_eq_true _ ▸ opened) last.2
  · refine
      { key := Or.inr (Or.inr rfl)
        ended := fun _ => ?_
        suppressed := by rintro ⟨⟩
        reporting := by rintro ⟨⟩
        notOffline := fun _ offline => ?_ }
    · by_cases again : decision.isResend = true
      · exact Or.inl again
      · refine Or.inr fun row last => ?_
        have isRow : db.getLastNotificationForDedup alert.id target.check.id = some row :=
          sameCheck ▸ last.1
        unfold passFinding findNoData at finds
        dsimp only at finds
        rw [isRow] at finds
        split_ifs at finds with _ _ _ _ _ sends
        cases finds
        by_cases opened : episodeOpen target.check (some row)
            (db.latestResultTime target.check.id (passSince now alert
              (noDataTargets alert (assignedAgentsByCheck outside now db) db))) db = true
        · dsimp only at sends again
          rw [if_pos ⟨opened, last.2⟩] at sends again
          exact absurd (isResend_of_resend sends) again
        · exact heardSince_of_closed sameCheck (Bool.not_eq_true _ ▸ opened) last.2
    · unfold passFinding findNoData at finds
      dsimp only at finds
      split_ifs at finds with _ _ _ someOnline
      exact someOnline (List.all_eq_true.mpr (offline target assigned sameCheck))

end Decide

/-! ## What an event adds -/

section Step

variable {outside : Outside} {alert : Alert} {check : Check} {db : Db}

theorem Keyed.addLogs (keyed : Keyed alert db) (rows : List NotificationLog) :
    Keyed alert (db.addNotificationLogs rows) := { keyed with }

theorem Keyed.step (keyed : Keyed alert db) (event : Event) :
    Keyed alert (step outside event db).1 := by
  obtain ⟨rows, added⟩ := step_adds outside event db
  rw [added]
  refine Keyed.addLogs ?_ rows
  cases event with
  | report checkResult now =>
    rw [Event.settle]
    split_ifs
    · exact keyed
    · exact { keyed with }
  | snooze alertId checkId snoozedUntil =>
    exact { keyed with mappingKeys := setSnooze_keys alertId checkId snoozedUntil db ▸ keyed.mappingKeys }
  | heartbeat agentId receivedAt status => exact { keyed with }
  | silencePass now clock => exact keyed

/-- Evaluation passes over the alerts of the silence triggers. -/
theorem evaluateAlerts_skips (now : Time) (own : Check) (checkResult : CheckResult)
    (alerts : List Alert) (db : Db) :
    evaluateAlerts outside now own checkResult alerts db =
      evaluateAlerts outside now own checkResult
        (alerts.filter fun alert =>
          !decide (alert.triggerType = .noData ∨ alert.triggerType = .agentOffline)) db := by
  induction alerts generalizing db with
  | nil => rfl
  | cons first rest ih =>
    by_cases silence : first.triggerType = .noData ∨ first.triggerType = .agentOffline
    · have same : db.addNotificationLogs [] = db := by simp [Db.addNotificationLogs]
      rw [List.filter_cons_of_neg (by simpa [or_iff_not_imp_left] using silence), evaluateAlerts, evaluateAlert, if_pos silence]
      simp [same, ih]
    · rw [List.filter_cons_of_pos (by simpa using silence), evaluateAlerts, evaluateAlerts]
      cases evaluateAlert outside now first own checkResult db with
      | error e => exact ih db
      | ok written =>
        dsimp only
        rw [ih]

/-- Only passes write rows of an alert of a silence trigger. -/
theorem logs_of_not_pass (outside : Outside) (keyed : Keyed alert db)
    (silence : alert.triggerType = .noData ∨ alert.triggerType = .agentOffline) {event : Event}
    (notPass : ∀ now clock, event ≠ .silencePass now clock) :
    ∃ rows, (step outside event db).1.logs = db.logs ++ rows ∧ ∀ row ∈ rows, row.alertId ≠ alert.id := by
  cases event with
  | silencePass now clock => exact absurd rfl (notPass now clock)
  | snooze => exact ⟨[], (List.append_nil _).symm, by simp⟩
  | heartbeat => exact ⟨[], (List.append_nil _).symm, by simp⟩
  | report checkResult now =>
    rw [step, reportResult]
    split_ifs
    · exact ⟨[], (List.append_nil _).symm, by simp⟩
    · rw [evaluateCheckResult]
      split
      · exact ⟨[], (List.append_nil _).symm, by simp⟩
      · rename_i own found
        rw [evaluateAlerts_skips]
        obtain ⟨rows, added, ofRows, -⟩ := evaluateAlerts_adds outside now own checkResult
          (((db.addResult checkResult).listActiveAlertsForCheck own.id).filter fun alert =>
            !decide (alert.triggerType = .noData ∨ alert.triggerType = .agentOffline))
          (db.addResult checkResult)
        rw [added]
        refine ⟨rows, rfl, fun row mem same => ?_⟩
        obtain ⟨⟨other, within, isOther⟩, -⟩ := ofRows row mem
        obtain ⟨listed, evaluated⟩ := List.mem_filter.mp within
        obtain ⟨mapping, -, active⟩ := List.mem_filterMap.mp listed
        unfold Db.activeAlert at active
        split_ifs at active
        have inDb := List.mem_of_find?_eq_some (Option.filter_eq_some_iff.mp active).1
        have isAlert := List.inj_on_of_nodup_map keyed.alertKeys inDb keyed.isAlert (isOther ▸ same)
        rw [isAlert, Bool.not_eq_true', decide_eq_false_iff_not] at evaluated
        exact evaluated silence

/-- Only passes write rows of a `no_data` alert. -/
theorem pairRows_of_not_pass (outside : Outside) (check : Check) (keyed : Keyed alert db) (type : alert.triggerType = .noData)
    {event : Event} (notPass : ∀ now clock, event ≠ .silencePass now clock) :
    (step outside event db).1.pairRows alert.id check.id = db.pairRows alert.id check.id := by
  obtain ⟨rows, added, others⟩ := logs_of_not_pass outside keyed (Or.inl type) notPass
  rw [Db.pairRows, added]
  exact pairRows_of_others db fun row mem => Or.inl (others row mem)

/-- What a pass adds to the pair's rows. -/
theorem pairRows_pass (outside : Outside) (check : Check) (keyed : Keyed alert db) (now : Time)
    (clock : Nat → Time) :
    ∃ new, (silencePass outside now clock db).1.pairRows alert.id check.id =
        db.pairRows alert.id check.id ++ new ∧
      (new = [] ∨ new ≠ [] ∧ ∃ one n, Decides outside now alert check db one ∧
        ∀ row ∈ new, RecordedAs one (clock n) row) := by
  have pair := decidePass_pair outside now check keyed.alertKeys keyed.checkKeys keyed.isAlert
  rcases decided : passDecides outside now alert check db with _ | one
  · rw [decided] at pair
    exact ⟨[], by rw [List.append_nil]; exact (recordNotices_others outside clock pair db).1, Or.inl rfl⟩
  · rw [decided] at pair
    obtain ⟨⟨n, new, added, -, each⟩, -⟩ := recordNotices_one outside clock pair db
    refine ⟨new, added, (em (new = [])).imp_right fun some_ => ?_⟩
    exact ⟨some_, one, n, passDecides_spec decided, each⟩

theorem resultsOf_mono (event : Event) {result : CheckResult} (mem : result ∈ db.resultsOf check.id) :
    result ∈ (step outside event db).1.resultsOf check.id := by
  obtain ⟨rows, added⟩ := step_adds outside event db
  rw [added, resultsOf_addLogs]
  cases event with
  | report checkResult now =>
    rw [Event.settle]
    split_ifs
    · exact mem
    · exact List.mem_filter.mpr ⟨List.mem_cons_of_mem _ (List.mem_of_mem_filter mem),
        (List.mem_filter.mp mem).2⟩
  | snooze => exact mem
  | heartbeat => exact mem
  | silencePass => exact mem

theorem HeardSince.step {time : Time} (heard : HeardSince check db time) (event : Event) :
    HeardSince check (step outside event db).1 time := by
  obtain ⟨result, mem, later⟩ := heard
  exact ⟨result, resultsOf_mono event mem, later⟩

theorem LastSilent.of_rows {other : Db} {row : NotificationLog}
    (same : other.pairRows alert.id check.id = db.pairRows alert.id check.id)
    (last : LastSilent alert check db row) : LastSilent alert check other row := by
  refine ⟨?_, last.2⟩
  rw [Db.getLastNotificationForDedup, same]
  exact last.1

/-- Where a silence told of has not ended, it is the newest row's. -/
theorem Episodes.heardSince (episodes : Episodes alert check db)
    (closed : ∀ row, LastSilent alert check db row → HeardSince check db row.sentAt)
    {first : NotificationLog} (mem : first ∈ db.pairRows alert.id check.id)
    (fresh : IsFreshSilence first) : HeardSince check db first.sentAt := by
  rcases episodes.ended first mem fresh with heard | ⟨row, last⟩
  · exact heard
  · obtain ⟨result, within, later⟩ := closed row last
    exact ⟨result, within, lt_of_le_of_lt (le_newest _ last.1 first mem) later⟩

/-- A decision of a pass that is no silence comes after the end of the last one. -/
theorem Decides.closed {now : Time} {one : PassNotice}
    (decides : Decides outside now alert check db one) (other : one.stateKey ≠ .checkSilent)
    {row : NotificationLog} (last : LastSilent alert check db row) :
    HeardSince check db row.sentAt := by
  rcases decides.key with reporting | suppressed | silent
  · obtain ⟨found, isLast, heard⟩ := decides.reporting reporting
    cases isLast.1.symm.trans last.1
    exact heard
  · exact decides.suppressed suppressed row last
  · exact absurd silent other

/-- A pass keeps the episodes. -/
theorem Episodes.pass (keyed : Keyed alert db) (episodes : Episodes alert check db) {now : Time}
    {clock : Nat → Time} (moves : ∀ row ∈ db.logs, ∀ n, row.sentAt < clock n) :
    Episodes alert check (silencePass outside now clock db).1 := by
  obtain ⟨new, added, nothing | ⟨some_, one, n, decides, each⟩⟩ :=
    pairRows_pass outside check keyed now clock
  · rw [nothing, List.append_nil] at added
    constructor
    · rw [added]
      intro first mem fresh
      rcases episodes.ended first mem fresh with heard | ⟨row, last⟩
      · exact Or.inl (heard.step (.silencePass now clock))
      · exact Or.inr ⟨row, last.of_rows added⟩
    · rw [added]
      exact episodes.time
  · have later : ∀ row ∈ db.pairRows alert.id check.id, row.sentAt < clock n :=
      fun row mem => moves row (List.mem_of_mem_filter mem) n
    constructor
    · intro first mem fresh
      rw [added] at mem
      by_cases silent : one.stateKey = .checkSilent
      · -- the newest row is the pass's own, and tells of a silence
        refine Or.inr ?_
        rcases isNewest : newest (·.sentAt) new with _ | row
        · exact absurd ((newest_eq_none _).mp isNewest) some_
        · have within := mem_of_newest _ isNewest
          refine ⟨row, ?_, by rw [(each row within).stateKey, silent]⟩
          rw [Db.getLastNotificationForDedup, added, newest_append _ some_, isNewest]
          intro old oldMem item itemMem
          rw [(each item itemMem).sentAt]
          exact le_of_lt (later old oldMem)
      · refine Or.inl (HeardSince.step ?_ (.silencePass now clock))
        rcases List.mem_append.mp mem with old | isNew
        · exact episodes.heardSince (fun row last => decides.closed silent last) old fresh
        · have isSilent := (each first isNew).stateKey
          rw [fresh.1, Option.some.injEq] at isSilent
          exact absurd isSilent.symm silent
    · rw [added]
      intro row mem other otherMem same
      rcases List.mem_append.mp mem with old | isNew <;>
        rcases List.mem_append.mp otherMem with otherOld | otherNew
      · exact episodes.time row old other otherOld same
      · exact absurd (same.trans (each other otherNew).sentAt) (ne_of_lt (later row old))
      · exact absurd (same.symm.trans (each row isNew).sentAt) (ne_of_lt (later other otherOld))
      · rw [(each row isNew).stateKey, (each other otherNew).stateKey]

/-- **Every event keeps the episodes.** -/
theorem Episodes.step (keyed : Keyed alert db) (type : alert.triggerType = .noData)
    (episodes : Episodes alert check db) {event : Event} (moves : ClockMovesOn db event) :
    Episodes alert check (step outside event db).1 := by
  by_cases isPass : ∃ now clock, event = .silencePass now clock
  · obtain ⟨now, clock, rfl⟩ := isPass
    exact episodes.pass keyed moves
  · have same := pairRows_of_not_pass outside check keyed type
      fun now clock isPass' => isPass ⟨now, clock, isPass'⟩
    constructor
    · rw [same]
      intro first mem fresh
      rcases episodes.ended first mem fresh with heard | ⟨row, last⟩
      · exact Or.inl (heard.step event)
      · exact Or.inr ⟨row, last.of_rows same⟩
    · rw [same]
      exact episodes.time

end Step

/-! ## A run -/

/-- What an event adds to the pair's rows, and what is stored by then. -/
structure TellsByEpisode (outside : Outside) (alert : Alert) (check : Check) (before : Db)
    (event : Event) (new : List NotificationLog) : Prop where
  added : (step outside event before).1.pairRows alert.id check.id =
    before.pairRows alert.id check.id ++ new
  /-- Between two silences told of, a result came after the first. -/
  again : ∀ second ∈ new, IsFreshSilence second →
    ∀ first ∈ before.pairRows alert.id check.id, IsFreshSilence first →
      HeardSince check before first.sentAt
  /-- A return is told of only after a silence, and a result after it. -/
  reporting : ∀ row ∈ new, row.notificationHash = some .checkReporting →
    ∃ last, LastSilent alert check before last ∧ HeardSince check before last.sentAt
  /-- And once at most for each silence. -/
  once : ∀ row ∈ new, row.notificationHash = some .checkReporting →
    ∀ earlier ∈ before.pairRows alert.id check.id, earlier.notificationHash = some .checkReporting →
      ∃ silent ∈ before.pairRows alert.id check.id,
        silent.notificationHash = some .checkSilent ∧ earlier.sentAt < silent.sentAt
  /-- No silence is told of anew while every agent is offline. -/
  offline : ∀ now clock, event = .silencePass now clock → AgentsOffline outside now check before →
    ∀ row ∈ new, ¬ IsFreshSilence row

section Run

variable {outside : Outside} {alert : Alert} {check : Check} {db : Db}

theorem episodes_run (keyed : Keyed alert db) (type : alert.triggerType = .noData)
    (untouched : db.pairRows alert.id check.id = []) {events : List Event}
    (allowed : Allowed outside ClockMovesOn db events) :
    Keyed alert (run outside events db) ∧ Episodes alert check (run outside events db) := by
  refine allowed.induction (fun db => Keyed alert db ∧ Episodes alert check db)
    ⟨keyed, ?_, ?_⟩ fun db event kept moves => ⟨kept.1.step event, kept.2.step kept.1 type moves⟩
  · simp [untouched]
  · simp [untouched]

/-- What one event adds, where the episodes hold. -/
theorem tellsByEpisode_step (keyed : Keyed alert db) (type : alert.triggerType = .noData)
    (episodes : Episodes alert check db) (event : Event) :
    ∃ new, TellsByEpisode outside alert check db event new := by
  by_cases isPass : ∃ now clock, event = .silencePass now clock
  · obtain ⟨now, clock, rfl⟩ := isPass
    obtain ⟨new, added, nothing | ⟨-, one, n, decides, each⟩⟩ :=
      pairRows_pass outside check keyed now clock
    · subst nothing
      exact ⟨[], added, by simp, by simp, by simp, by simp⟩
    · have silent {row : NotificationLog} (mem : row ∈ new) (fresh : IsFreshSilence row) :
          one.stateKey = .checkSilent ∧ one.isResend = false := by
        have same := (each row mem).stateKey
        rw [fresh.1, Option.some.injEq] at same
        exact ⟨same.symm, (each row mem).isResend.symm.trans fresh.2⟩
      have returned {row : NotificationLog} (mem : row ∈ new)
          (reports : row.notificationHash = some .checkReporting) :
          ∃ last, LastSilent alert check db last ∧ HeardSince check db last.sentAt := by
        have same := (each row mem).stateKey
        rw [reports, Option.some.injEq] at same
        exact decides.reporting same.symm
      refine ⟨new, added, fun second mem fresh first firstMem firstFresh => ?_,
        fun row mem reports => returned mem reports, fun row mem reports earlier earlierMem isEarlier => ?_,
        fun _ _ same offline row mem fresh => ?_⟩
      · obtain ⟨isSilent, notAgain⟩ := silent mem fresh
        have closed := (decides.ended isSilent).resolve_left (by simp [notAgain])
        exact episodes.heardSince closed firstMem firstFresh
      · obtain ⟨last, isLast, -⟩ := returned mem reports
        have within := mem_of_newest _ isLast.1
        refine ⟨last, within, isLast.2, lt_of_le_of_ne (le_newest _ isLast.1 earlier earlierMem) fun same => ?_⟩
        have hash := episodes.time earlier earlierMem last within same
        rw [isEarlier, isLast.2] at hash
        cases hash
      · cases same
        exact decides.notOffline (silent mem fresh).1 offline
  · have same := pairRows_of_not_pass outside check keyed type
      fun now clock isPass' => isPass ⟨now, clock, isPass'⟩
    refine ⟨[], by rw [same, List.append_nil], by simp, by simp, by simp, by simp⟩

/-- **Silence episodes.** In every run, each event tells of silences and returns
by the episode. -/
theorem tellsByEpisode (keyed : Keyed alert db) (type : alert.triggerType = .noData)
    (untouched : db.pairRows alert.id check.id = []) {events : List Event} {event : Event}
    (allowed : Allowed outside ClockMovesOn db (events ++ [event])) :
    ∃ new, TellsByEpisode outside alert check (run outside events db) event new := by
  obtain ⟨stillKeyed, episodes⟩ := episodes_run keyed type untouched allowed.of_snoc.1
  exact tellsByEpisode_step stillKeyed type episodes event

end Run

/-- The check of the alert, silent and not yet told of. -/
def silentDb : Db := { returnedDb with logs := [] }

/-- Two passes over a silent check. -/
theorem tellsByEpisode_of_silent :
    ∃ new, TellsByEpisode calm { id := 0, triggerType := .noData } soloCheck
      (run calm [.silencePass (seconds 20000) fun n => seconds (20000 + n)] silentDb)
      (.silencePass (seconds 30000) fun n => seconds (30000 + n)) new := by
  have keyed : Keyed { id := 0, triggerType := .noData } silentDb := { returnedDb_keyed with }
  have early : ∀ row ∈ (run calm [.silencePass (seconds 20000) fun n => seconds (20000 + n)]
      silentDb).logs, row.sentAt < seconds 30000 := by decide
  have first : Allowed calm ClockMovesOn silentDb
      ([] ++ [.silencePass (seconds 20000) fun n => seconds (20000 + n)]) :=
    .snoc .nil fun row mem => absurd mem List.not_mem_nil
  refine tellsByEpisode keyed rfl rfl (first.snoc fun row mem n => ?_)
  have later : seconds 30000 ≤ seconds (30000 + n) := by
    show (30000 * 1000000 : Int) ≤ (30000 + n) * 1000000
    omega
  exact lt_of_lt_of_le (early row mem) later

end LuxSwirl.Server
