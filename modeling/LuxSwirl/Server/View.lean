import LuxSwirl.Server.Pair

/-!
# The pair over a run

`Tracked` is what a run keeps of an alert on a check, and `step_view` what one
event does to the pair: a result of the check, reported in order, is a step of
the notifier, and any other event leaves the pair alone. `run_view` is a whole
run: the pair is where its notifier is, after the results of the check.
-/

namespace LuxSwirl.Server
open LuxSwirl.Py LuxSwirl.Lib

/-- The alert is set up on the check, enabled, with a live provider. -/
structure Watched (alert : Alert) (check : Check) (db : Db) : Prop where
  alertKeys : (db.alerts.map (·.id)).Nodup
  mappingKeys : (db.checkMappings.map fun mapping => (mapping.alertId, mapping.checkId)).Nodup
  isCheck : db.getCheck check.id = some check
  isAlert : alert ∈ db.alerts
  enabled : alert.isEnabled = true
  alive : alert.deletedAt = none
  mapped : ∃ mapping ∈ db.checkMappings, mapping.alertId = alert.id ∧ mapping.checkId = check.id ∧
    mapping.isEnabled = true
  provider : db.listLiveProviders alert.id ≠ []

/-- The pair as a notifier can follow it. -/
structure Tracked (alert : Alert) (check : Check) (db : Db) : Prop where
  watched : Watched alert check db
  ordered : NewestFirst (db.resultsOf check.id)
  hashed : Hashed alert check db

/-- A result of the check is reported after those before it, and after
everything in the log. -/
def InOrder (check : Check) (db : Db) : Event → Prop
  | .report checkResult now =>
    (checkResult.checkId = check.id → ∀ old ∈ db.resultsOf check.id, old.timestamp < checkResult.timestamp) ∧
      ∀ row ∈ db.logs, row.sentAt < now
  | _ => True

/-- A result of the check is reported that is new to it, whenever it was taken,
and after everything in the log. -/
def Arrives (check : Check) (db : Db) : Event → Prop
  | .report checkResult now =>
    (checkResult.checkId = check.id → ∀ old ∈ db.resultsOf check.id, old.timestamp ≠ checkResult.timestamp) ∧
      ∀ row ∈ db.logs, row.sentAt < now
  | _ => True

/-- A notification is about the pair. -/
def Notice.isOf (alert : Alert) (check : Check) (notice : Notice) : Bool :=
  decide (notice.alertId = alert.id ∧ notice.checkId = some check.id)

/-- What an event gives the pair's notifier. -/
def pairInput (alert : Alert) (check : Check) (db : Db) : Event → Option (Input CheckResult Time)
  | .report checkResult now =>
    if checkResult.checkId = check.id then
      some (inputOf alert check now checkResult (db.addResult checkResult))
    else none
  | _ => none

section Frames

variable {alert : Alert} {check : Check} {db : Db}

/-- What the notifier is given is a result of the check. -/
theorem of_pairInput {event : Event} {input : Input CheckResult Time}
    (given : pairInput alert check db event = some input) :
    ∃ checkResult now, event = .report checkResult now ∧ checkResult.checkId = check.id ∧
      input = inputOf alert check now checkResult (db.addResult checkResult) := by
  cases event with
  | snooze => cases given
  | heartbeat => cases given
  | silencePass => cases given
  | report checkResult now =>
    rw [pairInput] at given
    split_ifs at given with isCheck
    exact ⟨checkResult, now, rfl, isCheck, (Option.some.inj given).symm⟩

theorem getAlert_of_mem (keys : (db.alerts.map (·.id)).Nodup) (mem : alert ∈ db.alerts) :
    db.getAlert alert.id = some alert := by
  obtain ⟨found, isFound⟩ : ∃ found, db.getAlert alert.id = some found := by
    rw [← Option.isSome_iff_exists, Db.getAlert, List.find?_isSome]
    exact ⟨alert, mem, by simp⟩
  have same : found.id = alert.id := by simpa using List.find?_some isFound
  rw [isFound, List.inj_on_of_nodup_map keys (List.mem_of_find?_eq_some isFound) mem same]

theorem id_of_getAlert {alertId : Id} (found : db.getAlert alertId = some alert) :
    alert.id = alertId := by simpa using List.find?_some found

/-- The alert is evaluated once for a result of the check. -/
theorem Watched.listActive_split (watched : Watched alert check db) :
    ∃ before after, db.listActiveAlertsForCheck check.id = before ++ alert :: after ∧
      ∀ other ∈ before ++ after, other.id ≠ alert.id := by
  obtain ⟨mapping, mem, sameAlert, sameCheck, enabled⟩ := watched.mapped
  obtain ⟨front, back, split⟩ := List.append_of_mem mem
  have keys := watched.mappingKeys
  have own : db.activeAlert check.id mapping = some alert := by
    rw [Db.activeAlert, if_pos ⟨sameCheck, enabled⟩, sameAlert,
      getAlert_of_mem watched.alertKeys watched.isAlert]
    simp [watched.enabled, watched.alive]
  refine ⟨_, _, by rw [Db.listActiveAlertsForCheck, split, List.filterMap_append,
    List.filterMap_cons_some own], ?_⟩
  have apart : ∀ other ∈ front ++ back, (other.alertId, other.checkId) ≠ (alert.id, check.id) := by
    have perm : db.checkMappings.Perm (mapping :: (front ++ back)) := by
      rw [split]
      exact List.perm_middle
    have nodup := ((perm.map fun m => (m.alertId, m.checkId)).nodup_iff).mp keys
    rw [List.map_cons, List.nodup_cons, sameAlert, sameCheck] at nodup
    intro other within same
    exact nodup.1 (same ▸ List.mem_map_of_mem within)
  rw [← List.filterMap_append]
  intro other within same
  obtain ⟨source, inside, found⟩ := List.mem_filterMap.mp within
  unfold Db.activeAlert at found
  split_ifs at found with set
  have isSource := id_of_getAlert (Option.filter_eq_some_iff.mp found).1
  exact apart source inside (by rw [← isSource, same, set.1])

@[simp] theorem resultsOf_addLogs (rows : List NotificationLog) (checkId : Id) :
    (db.addNotificationLogs rows).resultsOf checkId = db.resultsOf checkId := rfl

@[simp] theorem pairRows_addLogs (rows : List NotificationLog) (alertId checkId : Id) :
    (db.addNotificationLogs rows).pairRows alertId checkId =
      db.pairRows alertId checkId ++ rows.filter fun row =>
        decide (row.alertId = alertId ∧ row.checkId = some checkId ∧ row.status ∈ dedupRelevantStatuses) :=
  List.filter_append ..

/-- Rows of other alerts, or about other checks, are not the pair's. -/
theorem pairRows_of_others (db : Db) {rows : List NotificationLog}
    (others : ∀ row ∈ rows, row.alertId ≠ alert.id ∨ row.checkId ≠ some check.id) :
    (db.addNotificationLogs rows).pairRows alert.id check.id = db.pairRows alert.id check.id := by
  rw [pairRows_addLogs, List.filter_eq_nil_iff.mpr, List.append_nil]
  intro row mem
  rcases others row mem with other | other <;> simp [other]

theorem lastMark_of_others (db : Db) {rows : List NotificationLog}
    (others : ∀ row ∈ rows, row.alertId ≠ alert.id ∨ row.checkId ≠ some check.id) :
    lastMark alert check (db.addNotificationLogs rows) = lastMark alert check db := by
  rw [lastMark, lastMark, Db.getLastNotificationForDedup, pairRows_of_others _ others,
    Db.getLastNotificationForDedup]

/-- What a step of the notifier adds is the newest record. -/
theorem Adds.lastMark_eq {now : Time} {rows : List NotificationLog}
    {after : Option (Mark StateKey Time)}
    (adds : Adds alert check now rows (lastMark alert check db) after)
    (later : ∀ row ∈ db.pairRows alert.id check.id, row.sentAt ≤ now) :
    lastMark alert check (db.addNotificationLogs rows) = after := by
  rcases adds with ⟨rfl, rfl⟩ | ⟨nonempty, -, each⟩
  · exact lastMark_of_others _ (by simp)
  · have own : rows.filter (fun row => decide (row.alertId = alert.id ∧
        row.checkId = some check.id ∧ row.status ∈ dedupRelevantStatuses)) = rows := by
      rw [List.filter_eq_self]
      intro row mem
      obtain ⟨a, b, -, c, -⟩ := each row mem
      simp [a, b, c]
    have found : (db.addNotificationLogs rows).getLastNotificationForDedup alert.id check.id =
        newest (·.sentAt) rows := by
      rw [Db.getLastNotificationForDedup, pairRows_addLogs, own]
      refine newest_append _ nonempty fun old within new mem => ?_
      rw [(each new mem).2.2.1]
      exact later old within
    rcases isNewest : newest (·.sentAt) rows with _ | row
    · exact absurd ((newest_eq_none _).mp isNewest) nonempty
    · rw [lastMark, found, isNewest, Option.bind_some]
      exact (each row (mem_of_newest _ isNewest)).2.2.2.2

theorem hashed_of_others {rows : List NotificationLog} (hashed : Hashed alert check db)
    (others : ∀ row ∈ rows, row.alertId ≠ alert.id ∨ row.checkId ≠ some check.id) :
    Hashed alert check (db.addNotificationLogs rows) := by
  rw [Hashed, pairRows_of_others _ others]
  exact hashed

/-- All it adds is of one time and one record. -/
theorem Adds.each {now : Time} {rows : List NotificationLog} {before after : Option (Mark StateKey Time)}
    (adds : Adds alert check now rows before after) :
    ∀ row ∈ rows, row.sentAt = now ∧ row.mark = after := by
  rcases adds with ⟨rfl, -⟩ | ⟨-, -, each⟩
  · simp
  · exact fun row mem => ⟨(each row mem).2.2.1, (each row mem).2.2.2.2⟩

/-- All it adds is the pair's. -/
theorem Adds.pairRows {now : Time} {rows : List NotificationLog}
    {before after : Option (Mark StateKey Time)} (adds : Adds alert check now rows before after) :
    (db.addNotificationLogs rows).pairRows alert.id check.id =
      db.pairRows alert.id check.id ++ rows := by
  rw [pairRows_addLogs]
  rcases adds with ⟨rfl, -⟩ | ⟨-, -, each⟩
  · rfl
  · rw [List.filter_eq_self.mpr]
    intro row mem
    obtain ⟨a, b, -, c, -⟩ := each row mem
    simp [a, b, c]

theorem Adds.hashed {now : Time} {rows : List NotificationLog}
    {before after : Option (Mark StateKey Time)} (adds : Adds alert check now rows before after)
    (hashed : Hashed alert check db) : Hashed alert check (db.addNotificationLogs rows) := by
  intro row mem
  rw [pairRows_addLogs] at mem
  rcases List.mem_append.mp mem with old | new
  · exact hashed row old
  · rcases adds with ⟨rfl, -⟩ | ⟨-, isSome, each⟩
    · simp at new
    · have isMark := (each row (List.mem_of_mem_filter new)).2.2.2.2
      rw [← isMark, NotificationLog.mark, Option.isSome_map] at isSome
      exact isSome

/-- Notifications of other alerts, or about other checks, are not the pair's. -/
theorem notices_of_others {notices : List Notice}
    (others : ∀ notice ∈ notices, notice.alertId ≠ alert.id ∨ notice.checkId ≠ some check.id) :
    notices.filter (Notice.isOf alert check) = [] := by
  rw [List.filter_eq_nil_iff]
  intro notice mem
  rcases others notice mem with other | other <;> simp [Notice.isOf, other]

end Frames

/-! ## A result of the check -/

section Report

variable {alert : Alert} {check : Check} {checkResult : CheckResult} {db : Db}

theorem evaluateAlerts_append (outside : Outside) (now : Time) (check : Check)
    (checkResult : CheckResult) (front back : List Alert) (db : Db) :
    evaluateAlerts outside now check checkResult (front ++ back) db =
      let first := evaluateAlerts outside now check checkResult front db
      let second := evaluateAlerts outside now check checkResult back first.1
      (second.1, first.2 ++ second.2) := by
  induction front generalizing db with
  | nil => rfl
  | cons alert rest ih =>
    rw [List.cons_append, evaluateAlerts, evaluateAlerts]
    cases evaluateAlert outside now alert check checkResult db with
    | error e => exact ih db
    | ok written => simp [ih]

/-- Evaluating other alerts leaves the pair as it was. -/
theorem evaluateAlerts_of_others (outside : Outside) (now : Time) (check : Check)
    (checkResult : CheckResult)
    {alerts : List Alert} (others : ∀ other ∈ alerts, other.id ≠ alert.id) (db : Db) :
    ∃ rows, (evaluateAlerts outside now check checkResult alerts db).1 = db.addNotificationLogs rows ∧
      (∀ row ∈ rows, row.alertId ≠ alert.id ∨ row.checkId ≠ some check.id) ∧
      (evaluateAlerts outside now check checkResult alerts db).2.filter (Notice.isOf alert check) = [] := by
  obtain ⟨rows, added, ofRows, ofNotices⟩ :=
    evaluateAlerts_adds outside now check checkResult alerts db
  refine ⟨rows, added, fun row mem => ?_, notices_of_others fun notice mem => ?_⟩
  · obtain ⟨⟨other, within, same⟩, -⟩ := ofRows row mem
    exact Or.inl (same ▸ others other within)
  · obtain ⟨⟨other, within, same⟩, -⟩ := ofNotices notice mem
    exact Or.inl (same ▸ others other within)

/-- Evaluating a result adds rows about its check to the log, and nothing else. -/
theorem evaluateCheckResult_adds (outside : Outside) (now : Time) (checkResult : CheckResult)
    (db : Db) :
    ∃ rows, (evaluateCheckResult outside now checkResult db).1 = db.addNotificationLogs rows ∧
      (∀ row ∈ rows, row.checkId = some checkResult.checkId ∧ row.sentAt = now) ∧
      ∀ notice ∈ (evaluateCheckResult outside now checkResult db).2,
        notice.checkId = some checkResult.checkId := by
  rw [evaluateCheckResult]
  rcases found : db.getCheck checkResult.checkId with _ | check
  · exact ⟨[], by simp [Db.addNotificationLogs], by simp, by simp⟩
  · have isCheck : check.id = checkResult.checkId := by simpa using List.find?_some found
    obtain ⟨rows, added, ofRows, ofNotices⟩ := evaluateAlerts_adds outside now check checkResult
      (db.listActiveAlertsForCheck check.id) db
    rw [← isCheck]
    exact ⟨rows, added, fun row mem => ⟨(ofRows row mem).2.1, (ofRows row mem).2.2.1⟩,
      fun notice mem => (ofNotices notice mem).2⟩

/-- Rows of others do not change what an alert obeys. -/
theorem Obeys.of_others {policy : Policy CheckResult StateKey Time} {earlier : List CheckResult}
    (obeys : Obeys policy alert check checkResult earlier db) {rows : List NotificationLog}
    (others : ∀ row ∈ rows, row.alertId ≠ alert.id ∨ row.checkId ≠ some check.id) :
    Obeys policy alert check checkResult earlier (db.addNotificationLogs rows) := by
  have sameLast : (db.addNotificationLogs rows).getLastNotificationForDedup alert.id check.id =
      db.getLastNotificationForDedup alert.id check.id := by
    rw [Db.getLastNotificationForDedup, pairRows_of_others _ others, Db.getLastNotificationForDedup]
  have sameFires : shouldFireAlert alert check checkResult (db.addNotificationLogs rows) =
      shouldFireAlert alert check checkResult db := by
    unfold shouldFireAlert evaluateSslCertExpiry
    rw [sameLast]
    rfl
  refine { obeys with fires := ?_ }
  rw [sameFires, lastMark_of_others _ others]
  exact obeys.fires

/-- **Evaluating a result is a step of the policy the alert obeys**, whatever
other alerts are on the check. -/
theorem evaluateCheckResult_obeys (outside : Outside) (now : Time)
    {policy : Policy CheckResult StateKey Time} {earlier : List CheckResult}
    (watched : Watched alert check db) (hashed : Hashed alert check db)
    (isResult : checkResult.checkId = check.id)
    (obeys : Obeys policy alert check checkResult earlier db)
    (later : ∀ row ∈ db.pairRows alert.id check.id, row.sentAt ≤ now) :
    let stepped := policy.step (inputOf alert check now checkResult db)
      ⟨earlier, lastMark alert check db⟩
    let evaluated := evaluateCheckResult outside now checkResult db
    lastMark alert check evaluated.1 = stepped.1.last ∧ Hashed alert check evaluated.1 ∧
      evaluated.2.filter (Notice.isOf alert check) =
        stepped.2.toList.map (noticeOf alert check checkResult) ∧
      ∃ others new, evaluated.1.pairRows alert.id check.id = db.pairRows alert.id check.id ++ new ∧
        Adds alert check now new (lastMark alert check db) stepped.1.last ∧
        new = rowsOf outside now alert check checkResult (db.addNotificationLogs others)
          (lastMark alert check db) stepped := by
  obtain ⟨before, after, split, others⟩ := watched.listActive_split
  obtain ⟨rowsBefore, addedBefore, othersBefore, quietBefore⟩ :=
    evaluateAlerts_of_others outside now check checkResult
      (fun other mem => others other (List.mem_append_left _ mem)) db
  have pairBefore := pairRows_of_others db othersBefore
  have lastBefore := lastMark_of_others db othersBefore
  have hashedBefore := hashed_of_others hashed othersBefore
  obtain ⟨written, evaluated, notices, adds, wrote⟩ :=
    evaluateAlert_obeys outside now (obeys.of_others othersBefore) hashedBefore watched.provider
  rw [lastBefore] at notices adds wrote
  obtain ⟨rowsAfter, addedAfter, othersAfter, quietAfter⟩ :=
    evaluateAlerts_of_others outside now check checkResult
      (fun other mem => others other (List.mem_append_right _ mem))
      ((db.addNotificationLogs rowsBefore).addNotificationLogs written.rows)
  have whole : evaluateCheckResult outside now checkResult db =
      (((db.addNotificationLogs rowsBefore).addNotificationLogs written.rows).addNotificationLogs
        rowsAfter,
       (evaluateAlerts outside now check checkResult before db).2 ++ (written.notices ++
         (evaluateAlerts outside now check checkResult after
           ((db.addNotificationLogs rowsBefore).addNotificationLogs written.rows)).2)) := by
    rw [evaluateCheckResult, isResult, watched.isCheck]
    dsimp only
    rw [split, evaluateAlerts_append]
    dsimp only
    rw [addedBefore, evaluateAlerts, evaluated]
    dsimp only
    rw [addedAfter]
  have own : written.notices.filter (Notice.isOf alert check) = written.notices := by
    rw [notices, List.filter_eq_self]
    intro notice mem
    obtain ⟨sent, -, rfl⟩ := List.mem_map.mp mem
    simp [Notice.isOf, noticeOf]
  dsimp only
  rw [whole]
  refine ⟨?_, ?_, ?_, rowsBefore, written.rows, ?_, adds, wrote⟩
  · rw [lastMark_of_others _ othersAfter]
    refine Adds.lastMark_eq (by rw [lastBefore]; exact adds) ?_
    rw [pairBefore]
    exact later
  · exact hashed_of_others (adds.hashed hashedBefore) othersAfter
  · rw [List.filter_append, List.filter_append, quietBefore, quietAfter, own, notices,
      List.nil_append, List.append_nil]
    rfl
  · rw [pairRows_of_others _ othersAfter, ← pairBefore]
    exact adds.pairRows

end Report

/-! ## An event -/

def PassNotice.alertId : PassNotice → Id
  | .send notice => notice.alertId
  | .suppress alertId _ => alertId

def PassNotice.checkId : PassNotice → Option Id
  | .send notice => notice.checkId
  | .suppress _ checkId => some checkId

/-- What a decided notice writes is about its alert and its check. -/
theorem recordNotice_about {outside : Outside} {now : Time} {decided : PassNotice} {db : Db}
    {written : Written} (recorded : recordNotice outside now decided db = .ok written) :
    (∀ row ∈ written.rows, row.alertId = decided.alertId ∧ row.checkId = decided.checkId) ∧
      ∀ notice ∈ written.notices, notice.alertId = decided.alertId ∧
        notice.checkId = decided.checkId := by
  cases decided with
  | suppress alertId checkId =>
    cases recorded
    refine ⟨fun row mem => ?_, by simp⟩
    obtain ⟨provider, -, rfl⟩ := List.mem_map.mp mem
    exact ⟨rfl, rfl⟩
  | send notice =>
    obtain ⟨rows, sent, recorded⟩ := except_bind_ok.mp recorded
    cases recorded
    refine ⟨fun row mem => ?_, fun other mem => ?_⟩
    · obtain ⟨a, b, -⟩ := sent_rows sent row mem
      exact ⟨a, b⟩
    · dsimp only at mem
      split_ifs at mem
      · simp at mem
      · rw [List.mem_singleton.mp mem]
        exact ⟨rfl, rfl⟩

/-- Recording adds rows of what was decided to the log, and nothing else. -/
theorem recordNotices_adds (outside : Outside) (clock : Nat → Time) (decided : List PassNotice)
    (db : Db) :
    ∃ rows, (recordNotices outside clock decided db).1 = db.addNotificationLogs rows ∧
      (∀ row ∈ rows, ∃ one ∈ decided, row.alertId = one.alertId ∧ row.checkId = one.checkId) ∧
      ∀ notice ∈ (recordNotices outside clock decided db).2,
        ∃ one ∈ decided, notice.alertId = one.alertId ∧ notice.checkId = one.checkId := by
  induction decided generalizing clock db with
  | nil => exact ⟨[], by simp [recordNotices, Db.addNotificationLogs], by simp, by simp [recordNotices]⟩
  | cons one rest ih =>
    rw [recordNotices]
    cases recorded : recordNotice outside (clock 0) one db with
    | error e => exact ⟨[], by simp [Db.addNotificationLogs], by simp, by simp⟩
    | ok written =>
      obtain ⟨ofRows, ofNotices⟩ := recordNotice_about recorded
      obtain ⟨rows, added, restRows, restNotices⟩ :=
        ih (fun n => clock (n + 1)) (db.addNotificationLogs written.rows)
      refine ⟨written.rows ++ rows, ?_, fun row mem => ?_, fun notice mem => ?_⟩
      · dsimp only
        rw [added]
        simp [Db.addNotificationLogs]
      · rcases List.mem_append.mp mem with own | later
        · exact ⟨one, List.mem_cons_self .., ofRows row own⟩
        · obtain ⟨other, within, about⟩ := restRows row later
          exact ⟨other, List.mem_cons_of_mem _ within, about⟩
      · rcases List.mem_append.mp mem with own | later
        · exact ⟨one, List.mem_cons_self .., ofNotices notice own⟩
        · obtain ⟨other, within, about⟩ := restNotices notice later
          exact ⟨other, List.mem_cons_of_mem _ within, about⟩

/-- What a pass decides for an alert is about it. -/
theorem decideAlert_about {outside : Outside} {now : Time} {assigned : List Assignment} {db : Db}
    {alert : Alert} {decided : PassNotice} (mem : decided ∈ decideAlert outside now assigned db alert) :
    decided.alertId = alert.id := by
  unfold decideAlert at mem
  split_ifs at mem with noProvider isNoData
  · simp at mem
  · rcases List.mem_append.mp mem with mem | mem <;>
    · obtain ⟨target, -, found⟩ := List.mem_filterMap.mp mem
      split at found <;> cases found <;> rfl
  · obtain ⟨agent, -, found⟩ := List.mem_filterMap.mp mem
    unfold findAgentOffline at found
    dsimp only at found
    split_ifs at found
    · split at found
      · split_ifs at found
        cases found
        rfl
      · cases found
    · cases found
      rfl

/-- A pass decides on alerts of the silence triggers only. -/
theorem decidePass_alerts {outside : Outside} {now : Time} {db : Db} {decided : PassNotice}
    (mem : decided ∈ decidePass outside now db) :
    ∃ alert ∈ db.alerts, decided.alertId = alert.id ∧
      (alert.triggerType = .noData ∨ alert.triggerType = .agentOffline) := by
  obtain ⟨alert, listed, mem⟩ := List.mem_flatMap.mp mem
  obtain ⟨inDb, isSilence⟩ := List.mem_filter.mp listed
  exact ⟨alert, inDb, decideAlert_about mem, by simp at isSilence; exact isSilence.1.1⟩

/-- What an event does to the tables, the log aside. -/
def Event.settle (event : Event) (db : Db) : Db :=
  match event with
  | .report checkResult _ =>
    if db.results.any fun old =>
      decide (old.checkId = checkResult.checkId ∧ old.timestamp = checkResult.timestamp)
    then db else db.addResult checkResult
  | .snooze alertId checkId snoozedUntil => db.setSnooze alertId checkId snoozedUntil
  | .heartbeat agentId receivedAt status => db.applyHeartbeat agentId receivedAt status
  | .silencePass _ _ => db

/-- An event settles its tables and adds rows to the log. -/
theorem step_adds (outside : Outside) (event : Event) (db : Db) :
    ∃ rows, (step outside event db).1 = (event.settle db).addNotificationLogs rows := by
  have nothing (db : Db) : db = db.addNotificationLogs [] := by simp [Db.addNotificationLogs]
  cases event with
  | report checkResult now =>
    rw [step, reportResult, Event.settle]
    split_ifs
    · exact ⟨[], nothing db⟩
    · obtain ⟨rows, added, -⟩ :=
        evaluateCheckResult_adds outside now checkResult (db.addResult checkResult)
      exact ⟨rows, added⟩
  | snooze alertId checkId snoozedUntil => exact ⟨[], nothing _⟩
  | heartbeat agentId receivedAt status => exact ⟨[], nothing _⟩
  | silencePass now clock =>
    obtain ⟨rows, added, -⟩ := recordNotices_adds outside clock (decidePass outside now db) db
    exact ⟨rows, added⟩

section Step

variable {alert : Alert} {check : Check} {db : Db}

/-- A snooze keeps the keys of the mappings. -/
theorem setSnooze_keys (alertId checkId : Id) (snoozedUntil : Option Time) (db : Db) :
    ((db.setSnooze alertId checkId snoozedUntil).checkMappings.map fun mapping => (mapping.alertId, mapping.checkId)) =
      db.checkMappings.map fun mapping => (mapping.alertId, mapping.checkId) := by
  rw [Db.setSnooze, List.map_map]
  refine List.map_congr_left fun mapping _ => ?_
  dsimp only [Function.comp]
  split_ifs <;> rfl

theorem Watched.addLogs (watched : Watched alert check db) (rows : List NotificationLog) :
    Watched alert check (db.addNotificationLogs rows) := { watched with }

theorem Watched.settle (watched : Watched alert check db) (event : Event) :
    Watched alert check (event.settle db) := by
  cases event with
  | report checkResult now =>
    rw [Event.settle]
    split_ifs
    · exact watched
    · exact { watched with }
  | snooze alertId checkId snoozedUntil =>
    obtain ⟨mapping, mem, a, b, c⟩ := watched.mapped
    refine { watched with mappingKeys := setSnooze_keys alertId checkId snoozedUntil db ▸ watched.mappingKeys, mapped := ?_ }
    refine ⟨_, List.mem_map_of_mem mem, ?_⟩
    split_ifs
    · exact ⟨a, b, c⟩
    · exact ⟨a, b, c⟩
  | heartbeat agentId receivedAt status => exact { watched with }
  | silencePass now clock => exact watched

/-- No alert of a silence trigger has the id of another. -/
theorem Watched.notSilence (watched : Watched alert check db) (onResults : alert.NotSilence)
    {other : Alert} (mem : other ∈ db.alerts)
    (silence : other.triggerType = .noData ∨ other.triggerType = .agentOffline) :
    other.id ≠ alert.id := by
  intro same
  rw [List.inj_on_of_nodup_map watched.alertKeys mem watched.isAlert same] at silence
  exact onResults silence

/-- Rows and notifications that are not the pair's leave its view as it was. -/
theorem view_of_others {rows : List NotificationLog}
    (others : ∀ row ∈ rows, row.alertId ≠ alert.id ∨ row.checkId ≠ some check.id) :
    view alert check (db.addNotificationLogs rows) = view alert check db := by
  rw [view, view, lastMark_of_others _ others, resultsOf_addLogs]

/-- What an event that is not the pair's leaves of it. -/
structure LeavesPair (alert : Alert) (check : Check) (db : Db) (done : Db × List Notice) : Prop where
  view : view alert check done.1 = view alert check db
  hashed : Hashed alert check db → Hashed alert check done.1
  quiet : done.2.filter (Notice.isOf alert check) = []
  rows : done.1.pairRows alert.id check.id = db.pairRows alert.id check.id

theorem LeavesPair.of_rows {settled : Db} {rows : List NotificationLog} {done : Db × List Notice}
    (added : done.1 = settled.addNotificationLogs rows)
    (results : settled.resultsOf check.id = db.resultsOf check.id) (logs : settled.logs = db.logs)
    (others : ∀ row ∈ rows, row.alertId ≠ alert.id ∨ row.checkId ≠ some check.id)
    (quiet : done.2.filter (Notice.isOf alert check) = []) : LeavesPair alert check db done where
  view := by
    rw [added, view_of_others others, Server.view, results, lastMark, Db.getLastNotificationForDedup,
      Db.pairRows, logs]
    rfl
  hashed hashed := by
    rw [added]
    refine hashed_of_others ?_ others
    rw [Hashed, Db.pairRows, logs]
    exact hashed
  quiet := quiet
  rows := by
    rw [added, pairRows_of_others _ others, Db.pairRows, logs]
    rfl

/-- A result of another check, a snooze, a heartbeat and a silence pass leave
the pair as it was. -/
theorem step_leaves (outside : Outside) (onResults : alert.NotSilence)
    (watched : Watched alert check db) {event : Event} (none_ : pairInput alert check db event = none) :
    LeavesPair alert check db (step outside event db) := by
  have nothing (settled : Db) : settled = settled.addNotificationLogs [] := by
    simp [Db.addNotificationLogs]
  cases event with
  | snooze alertId checkId snoozedUntil => exact .of_rows (nothing _) rfl rfl (by simp) rfl
  | heartbeat agentId receivedAt status => exact .of_rows (nothing _) rfl rfl (by simp) rfl
  | silencePass now clock =>
    obtain ⟨rows, added, ofRows, ofNotices⟩ :=
      recordNotices_adds outside clock (decidePass outside now db) db
    have others : ∀ one ∈ decidePass outside now db, one.alertId ≠ alert.id := by
      intro one mem
      obtain ⟨other, within, same, silence⟩ := decidePass_alerts mem
      exact same ▸ watched.notSilence onResults within silence
    refine .of_rows added rfl rfl (fun row mem => ?_) (notices_of_others fun notice mem => ?_)
    · obtain ⟨one, decided, same, -⟩ := ofRows row mem
      exact Or.inl (same ▸ others one decided)
    · obtain ⟨one, decided, same, -⟩ := ofNotices notice mem
      exact Or.inl (same ▸ others one decided)
  | report checkResult now =>
    have other : checkResult.checkId ≠ check.id := by
      intro same
      rw [pairInput, if_pos same] at none_
      cases none_
    rw [step, reportResult]
    split_ifs
    · exact .of_rows (nothing _) rfl rfl (by simp) rfl
    · have results : (db.addResult checkResult).resultsOf check.id = db.resultsOf check.id := by
        simp [Db.resultsOf, Db.addResult, other]
      obtain ⟨rows, added, ofRows, ofNotices⟩ :=
        evaluateCheckResult_adds outside now checkResult (db.addResult checkResult)
      refine .of_rows added results rfl (fun row mem => Or.inr ?_)
        (notices_of_others fun notice mem => Or.inr ?_)
      · rw [(ofRows row mem).1]
        simpa using other
      · rw [ofNotices notice mem]
        simpa using other

/-- A result of the check that is new is stored and evaluated. -/
theorem step_report_new (outside : Outside) {checkResult : CheckResult} (now : Time)
    (isCheck : checkResult.checkId = check.id)
    (isNew : ∀ old ∈ db.resultsOf check.id, old.timestamp ≠ checkResult.timestamp) :
    step outside (.report checkResult now) db =
      evaluateCheckResult outside now checkResult (db.addResult checkResult) ∧
    (db.addResult checkResult).resultsOf check.id = checkResult :: db.resultsOf check.id := by
  constructor
  · rw [step, reportResult, if_neg]
    intro stored
    obtain ⟨old, mem, same⟩ := List.any_eq_true.mp stored
    obtain ⟨sameCheck, sameTime⟩ := of_decide_eq_true same
    exact isNew old (List.mem_filter.mpr ⟨mem, by simp [sameCheck, isCheck]⟩) sameTime
  · simp [Db.resultsOf, Db.addResult, isCheck]

/-- So is one that is reported in order. -/
theorem step_report (outside : Outside) {checkResult : CheckResult} {now : Time}
    (isCheck : checkResult.checkId = check.id)
    (inOrder : InOrder check db (.report checkResult now)) :
    step outside (.report checkResult now) db =
      evaluateCheckResult outside now checkResult (db.addResult checkResult) ∧
    (db.addResult checkResult).resultsOf check.id = checkResult :: db.resultsOf check.id :=
  step_report_new outside now isCheck fun old mem => ne_of_lt (inOrder.1 isCheck old mem)

/-- What an event that is the pair's does to it by a policy: a step of the
notifier, with its notifications, and rows of one time, all of them its newest
record. -/
structure StepsBy (outside : Outside) (policy : Policy CheckResult StateKey Time) (alert : Alert)
    (check : Check) (db : Db) (input : Input CheckResult Time) (done : Db × List Notice) : Prop where
  view : view alert check done.1 = (policy.step input (view alert check db)).1
  hashed : Hashed alert check done.1
  notices : done.2.filter (Notice.isOf alert check) =
    (policy.step input (Server.view alert check db)).2.toList.map (noticeOf alert check input.seen)
  wrote : ∃ others new, done.1.pairRows alert.id check.id = db.pairRows alert.id check.id ++ new ∧
    Adds alert check input.time new (lastMark alert check db)
      (policy.step input (Server.view alert check db)).1.last ∧
    new = rowsOf outside input.time alert check input.seen (db.addNotificationLogs others)
      (lastMark alert check db) (policy.step input (Server.view alert check db))

/-- The rows it writes are of one time, and all of them its newest record. -/
theorem StepsBy.rows {outside : Outside} {policy : Policy CheckResult StateKey Time}
    {input : Input CheckResult Time} {done : Db × List Notice}
    (steps : StepsBy outside policy alert check db input done) :
    ∃ new, done.1.pairRows alert.id check.id = db.pairRows alert.id check.id ++ new ∧
      ∀ row ∈ new, row.sentAt = input.time ∧
        row.mark = (policy.step input (Server.view alert check db)).1.last := by
  obtain ⟨others, new, added, adds, -⟩ := steps.wrote
  exact ⟨new, added, adds.each⟩

/-- The pair's notifications of a step are what the policy sends. -/
theorem StepsBy.exists_notice {outside : Outside} {policy : Policy CheckResult StateKey Time} {input : Input CheckResult Time} {done : Db × List Notice}
    (steps : StepsBy outside policy alert check db input done) (about : Notice → Prop) :
    (∃ notice ∈ done.2, notice.isOf alert check = true ∧ about notice) ↔
      ∃ sent, (policy.step input (Server.view alert check db)).2 = some sent ∧
        about (noticeOf alert check input.seen sent) := by
  have mem (notice : Notice) : notice ∈ done.2 ∧ notice.isOf alert check = true ↔
      ∃ sent, (policy.step input (Server.view alert check db)).2 = some sent ∧
        noticeOf alert check input.seen sent = notice := by
    rw [← List.mem_filter, steps.notices]
    simp
  constructor
  · rintro ⟨notice, within, isOf, holds⟩
    obtain ⟨sent, isSent, rfl⟩ := (mem notice).mp ⟨within, isOf⟩
    exact ⟨sent, isSent, holds⟩
  · rintro ⟨sent, isSent, holds⟩
    obtain ⟨within, isOf⟩ := (mem _).mpr ⟨sent, isSent, rfl⟩
    exact ⟨_, within, isOf, holds⟩

/-- **A report by a policy.** A new result of the check is a step of the policy
the alert obeys on it. -/
theorem step_obeys (outside : Outside) {policy : Policy CheckResult StateKey Time}
    (watched : Watched alert check db) (hashed : Hashed alert check db) {checkResult : CheckResult}
    {now : Time} (isCheck : checkResult.checkId = check.id)
    (isNew : ∀ old ∈ db.resultsOf check.id, old.timestamp ≠ checkResult.timestamp)
    (later : ∀ row ∈ db.pairRows alert.id check.id, row.sentAt ≤ now)
    (obeys : Obeys policy alert check checkResult (db.resultsOf check.id) (db.addResult checkResult)) :
    StepsBy outside policy alert check db (inputOf alert check now checkResult (db.addResult checkResult))
      (step outside (.report checkResult now) db) := by
  obtain ⟨stepped, newest⟩ := step_report_new outside now isCheck isNew
  have stillWatched : Watched alert check (db.addResult checkResult) := { watched with }
  obtain ⟨last, stillHashed, notices, wrote⟩ :=
    evaluateCheckResult_obeys outside now stillWatched hashed isCheck obeys later
  obtain ⟨logged, added, -⟩ :=
    evaluateCheckResult_adds outside now checkResult (db.addResult checkResult)
  have results : (step outside (.report checkResult now) db).1.resultsOf check.id =
      checkResult :: db.resultsOf check.id := by
    rw [stepped, added, resultsOf_addLogs, newest]
  refine ⟨?_, by rw [stepped]; exact stillHashed, by rw [stepped]; exact notices,
    by rw [stepped]; exact wrote⟩
  rw [Memory.ext_iff, Policy.history_step]
  refine ⟨results, ?_⟩
  rw [stepped]
  exact last

/-- What an event that is the pair's does to it: a step of the notifier, with its
notifications, and rows of one time in the log, all of them its newest record. -/
structure StepsPair (outside : Outside) (alert : Alert) (check : Check) (db : Db)
    (input : Input CheckResult Time) (done : Db × List Notice) : Prop
    extends StepsBy outside alert.policy alert check db input done where
  ordered : NewestFirst (done.1.resultsOf check.id)
  later : ∀ row ∈ db.pairRows alert.id check.id, row.sentAt < input.time

/-- A result of the check, reported in order, is a step of the pair's notifier. -/
theorem step_steps (outside : Outside) (plain : alert.isPlain = true)
    (tracked : Tracked alert check db) {event : Event} (inOrder : InOrder check db event)
    {input : Input CheckResult Time} (given : pairInput alert check db event = some input) :
    StepsPair outside alert check db input (step outside event db) := by
  cases event with
  | snooze => cases given
  | heartbeat => cases given
  | silencePass => cases given
  | report checkResult now =>
    have isCheck : checkResult.checkId = check.id := by
      by_contra other
      rw [pairInput, if_neg other] at given
      cases given
    rw [pairInput, if_pos isCheck, Option.some.injEq] at given
    have newest := (step_report outside isCheck inOrder).2
    have ordered : NewestFirst ((db.addResult checkResult).resultsOf check.id) := by
      rw [newest]
      exact List.pairwise_cons.mpr ⟨inOrder.1 isCheck, tracked.ordered⟩
    have later : ∀ row ∈ db.pairRows alert.id check.id, row.sentAt < now :=
      fun row mem => inOrder.2 row (List.mem_of_mem_filter mem)
    have steps := step_obeys outside tracked.watched tracked.hashed isCheck
      (fun old mem => ne_of_lt (inOrder.1 isCheck old mem)) (fun row mem => le_of_lt (later row mem))
      (obeys_plain plain ordered newest)
    have results := congrArg Memory.history steps.view
    rw [Policy.history_step] at results
    rw [← given]
    refine { steps with ordered := ?_, later }
    rw [show (step outside (.report checkResult now) db).1.resultsOf check.id = _ from results]
    exact newest ▸ ordered

/-- **The pair over one event.** A result of the check, reported in order, is a
step of the notifier, with its notifications; any other event leaves it alone. -/
theorem step_view (outside : Outside) (plain : alert.isPlain = true)
    (tracked : Tracked alert check db) {event : Event} (inOrder : InOrder check db event) :
    Tracked alert check (step outside event db).1 ∧
      match pairInput alert check db event with
      | none => view alert check (step outside event db).1 = view alert check db ∧
          (step outside event db).2.filter (Notice.isOf alert check) = []
      | some input =>
          view alert check (step outside event db).1 = (alert.policy.step input (view alert check db)).1 ∧
          (step outside event db).2.filter (Notice.isOf alert check) =
            (alert.policy.step input (view alert check db)).2.toList.map
              (noticeOf alert check input.seen) := by
  obtain ⟨rows, added⟩ := step_adds outside event db
  have watched : Watched alert check (step outside event db).1 := by
    rw [added]
    exact (tracked.watched.settle event).addLogs rows
  rcases given : pairInput alert check db event with _ | input
  · have leaves := step_leaves outside (notSilence_of_plain plain) tracked.watched given
    have results : (step outside event db).1.resultsOf check.id = db.resultsOf check.id :=
      congrArg Memory.history leaves.view
    exact ⟨⟨watched, by rw [results]; exact tracked.ordered, leaves.hashed tracked.hashed⟩,
      leaves.view, leaves.quiet⟩
  · have steps := step_steps outside plain tracked inOrder given
    exact ⟨⟨watched, steps.ordered, steps.hashed⟩, steps.view, steps.notices⟩

/-- The pair's notifications of a step are what its notifier sends. -/
theorem exists_notice (outside : Outside) (plain : alert.isPlain = true)
    (tracked : Tracked alert check db) {event : Event} (inOrder : InOrder check db event)
    {input : Input CheckResult Time} (given : pairInput alert check db event = some input)
    (about : Notice → Prop) :
    (∃ notice ∈ (step outside event db).2, notice.isOf alert check = true ∧ about notice) ↔
      ∃ sent, (alert.policy.step input (view alert check db)).2 = some sent ∧
        about (noticeOf alert check input.seen sent) :=
  (step_steps outside plain tracked inOrder given).exists_notice about

end Step

/-! ## A run -/

/-- Nothing is known of the pair yet. -/
structure Untouched (alert : Alert) (check : Check) (db : Db) : Prop where
  watched : Watched alert check db
  results : db.resultsOf check.id = []
  rows : db.pairRows alert.id check.id = []

/-- The pair is not snoozed and no parent of the check is down, when a result of
it is reported. -/
def Unhindered (alert : Alert) (check : Check) (db : Db) (event : Event) : Prop :=
  ∀ input, pairInput alert check db event = some input → input.held = false ∧ input.masked = false

/-- What a run gives the pair's notifier, newest first. -/
def inputsOf (outside : Outside) (alert : Alert) (check : Check) :
    List Event → Db → List (Input CheckResult Time)
  | [], _ => []
  | event :: rest, db =>
    inputsOf outside alert check rest (step outside event db).1 ++
      (pairInput alert check db event).toList

section Run

variable {outside : Outside} {alert : Alert} {check : Check} {db : Db}

theorem inputsOf_snoc (events : List Event) (event : Event) (db : Db) :
    inputsOf outside alert check (events ++ [event]) db =
      (pairInput alert check (run outside events db) event).toList ++
        inputsOf outside alert check events db := by
  induction events generalizing db with
  | nil => simp [inputsOf]
  | cons first rest ih =>
    rw [List.cons_append, inputsOf, ih, inputsOf, List.append_assoc]
    rfl

theorem Untouched.tracked (untouched : Untouched alert check db) : Tracked alert check db where
  watched := untouched.watched
  ordered := by
    rw [untouched.results]
    exact List.Pairwise.nil
  hashed := by simp [Hashed, untouched.rows]

theorem Untouched.view (untouched : Untouched alert check db) : view alert check db = ⟨[], none⟩ := by
  rw [Server.view, untouched.results, lastMark, Db.getLastNotificationForDedup, untouched.rows]
  rfl

/-- **The pair over a run.** The run is the notifier's run on the results it is
given. -/
theorem run_view (plain : alert.isPlain = true) (untouched : Untouched alert check db)
    {events : List Event} (allowed : Allowed outside (InOrder check) db events) :
    Tracked alert check (run outside events db) ∧
      view alert check (run outside events db) =
        alert.policy.after ⟨[], none⟩ (inputsOf outside alert check events db) := by
  induction allowed with
  | nil => exact ⟨untouched.tracked, untouched.view⟩
  | snoc _ inOrder ih =>
    obtain ⟨tracked, sameView⟩ := ih
    obtain ⟨stillTracked, stepped⟩ := step_view outside plain tracked inOrder
    rw [run_append, run_singleton, inputsOf_snoc]
    refine ⟨stillTracked, ?_⟩
    split at stepped
    · rename_i given
      rw [given, stepped.1, sameView]
      rfl
    · rename_i input given
      rw [given, stepped.1, sameView]
      rfl

/-- What holds of an untouched pair's memory and is kept by every allowed result
holds of it after a run. -/
theorem Allowed.view_induction {allows : Db → Event → Prop} (plain : alert.isPlain = true)
    (untouched : Untouched alert check db)
    (inOrder : ∀ db event, allows db event → InOrder check db event)
    (holds : Memory CheckResult StateKey Time → Prop) (start : holds ⟨[], none⟩)
    (kept : ∀ db event input memory, allows db event → pairInput alert check db event = some input →
      holds memory → holds (alert.policy.step input memory).1)
    {events : List Event} (allowed : Allowed outside allows db events) :
    holds (view alert check (run outside events db)) := by
  induction allowed with
  | nil =>
    rw [run_nil, untouched.view]
    exact start
  | snoc before allows ih =>
    obtain ⟨tracked, -⟩ := run_view plain untouched (before.imp inOrder)
    have stepped := (step_view outside plain tracked (inOrder _ _ allows)).2
    rw [run_append, run_singleton]
    split at stepped
    · rw [stepped.1]
      exact ih
    · rename_i input given
      rw [stepped.1]
      exact kept _ _ input _ allows given ih

end Run

/-- What the policy says of an alert, as far as the reports allowed here go: each
is of a result new to the check, after the pair's rows, that the alert obeys the
policy on. -/
structure Polices (policy : Policy CheckResult StateKey Time) (alert : Alert) (check : Check)
    (allows : Db → Event → Prop) : Prop where
  notSilence : alert.NotSilence
  isNew : ∀ db checkResult now, allows db (.report checkResult now) → checkResult.checkId = check.id →
    ∀ old ∈ db.resultsOf check.id, old.timestamp ≠ checkResult.timestamp
  later : ∀ db checkResult now, allows db (.report checkResult now) → checkResult.checkId = check.id →
    ∀ row ∈ db.pairRows alert.id check.id, row.sentAt ≤ now
  obeys : ∀ db checkResult now, allows db (.report checkResult now) → checkResult.checkId = check.id →
    Hashed alert check db →
    Obeys policy alert check checkResult (db.resultsOf check.id) (db.addResult checkResult)

section Polices

variable {outside : Outside} {alert : Alert} {check : Check} {db : Db}
  {policy : Policy CheckResult StateKey Time} {allows : Db → Event → Prop}

/-- **The pair over one event, by a policy.** -/
theorem Polices.step (polices : Polices policy alert check allows) (outside : Outside)
    (watched : Watched alert check db) (hashed : Hashed alert check db) {event : Event}
    (allowed : allows db event) :
    match pairInput alert check db event with
    | none => LeavesPair alert check db (step outside event db)
    | some input => StepsBy outside policy alert check db input (step outside event db) := by
  split
  · rename_i given
    exact step_leaves outside polices.notSilence watched given
  · rename_i input given
    obtain ⟨checkResult, now, rfl, isCheck, rfl⟩ := of_pairInput given
    exact step_obeys outside watched hashed isCheck (polices.isNew _ _ _ allowed isCheck)
      (polices.later _ _ _ allowed isCheck) (polices.obeys _ _ _ allowed isCheck hashed)

/-- What a run by a policy keeps of the pair. -/
structure RunBy (policy : Policy CheckResult StateKey Time) (alert : Alert) (check : Check)
    (outside : Outside) (db : Db) (events : List Event) : Prop where
  watched : Watched alert check (run outside events db)
  hashed : Hashed alert check (run outside events db)
  view : view alert check (run outside events db) =
    policy.after (view alert check db) (inputsOf outside alert check events db)

/-- **The pair over a run, by a policy.** The run is the policy's run on the
results it is given. -/
theorem Polices.run (polices : Polices policy alert check allows) (watched : Watched alert check db)
    (hashed : Hashed alert check db) {events : List Event} (allowed : Allowed outside allows db events) :
    RunBy policy alert check outside db events := by
  induction allowed with
  | nil => exact ⟨watched, hashed, rfl⟩
  | @snoc events event _ allows ih =>
    obtain ⟨rows, added⟩ := step_adds outside event (Server.run outside events db)
    have stepped := polices.step outside ih.watched ih.hashed allows
    rw [← run_snoc] at added
    refine ⟨by rw [added]; exact (ih.watched.settle event).addLogs rows, ?_, ?_⟩
    · rw [run_snoc]
      split at stepped
      · exact stepped.hashed ih.hashed
      · exact stepped.hashed
    · rw [run_snoc, inputsOf_snoc]
      split at stepped
      · rename_i given
        rw [given, stepped.view, ih.view]
        rfl
      · rename_i input given
        rw [given, stepped.view, ih.view]
        rfl

/-- What holds of the pair's memory and is kept by the policy on every allowed
result holds of it after a run. -/
theorem Polices.view_induction (polices : Polices policy alert check allows)
    (watched : Watched alert check db) (hashed : Hashed alert check db)
    (holds : Memory CheckResult StateKey Time → Prop) (start : holds (view alert check db))
    (kept : ∀ db event input memory, allows db event → pairInput alert check db event = some input →
      holds memory → holds (policy.step input memory).1)
    {events : List Event} (allowed : Allowed outside allows db events) :
    holds (view alert check (Server.run outside events db)) := by
  induction allowed with
  | nil => exact start
  | snoc before allows ih =>
    have done := polices.run watched hashed before
    have stepped := polices.step outside done.watched done.hashed allows
    rw [run_snoc]
    split at stepped
    · rw [stepped.view]
      exact ih
    · rename_i input given
      rw [stepped.view]
      exact kept _ _ input _ allows given ih

end Polices

end LuxSwirl.Server
