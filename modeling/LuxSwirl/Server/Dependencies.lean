import LuxSwirl.Server.Solo
import LuxSwirl.Server.Outages

/-!
# An alert on a check with a parent

While the parent's newest result is a failure the alert is masked: an outage of
the child is recorded as suppressed, once, and a recovery goes out all the same.
The mask on record makes the child's outage new again when the parent is back.
-/

namespace LuxSwirl.Server
open LuxSwirl.Py LuxSwirl.Lib

/-- The newest result of the parent is a failure. -/
def ParentFailing (parentId : Id) (db : Db) : Prop :=
  (db.resultsOf parentId).head?.any (fun newest => !newest.success) = true

/-- The event reports a success of the check. -/
def ReportsSuccess (check : Check) : Event → Prop
  | .report checkResult _ => checkResult.checkId = check.id ∧ checkResult.success = true
  | _ => False

/-- Results of the check and of its parent are reported in order, and the pair is
not snoozed. -/
structure Interleaved (alert : Alert) (check : Check) (parentId : Id) (db : Db) (event : Event) :
    Prop where
  inOrder : InOrder check db event
  parentInOrder : ∀ checkResult now, event = .report checkResult now → checkResult.checkId = parentId →
    ∀ old ∈ db.resultsOf parentId, old.timestamp < checkResult.timestamp
  unsnoozed : ∀ input, pairInput alert check db event = some input → input.held = false

/-- A status alert that notifies at the first failure and of recoveries. -/
structure Alert.TellsOutages (alert : Alert) : Prop where
  type : alert.triggerType = .statusChange
  single : alert.triggerConfig.consecutiveFailures.getD 1 = 1
  recovery : alert.notifyOnRecovery = true

/-- The provider sends whatever it is given. -/
structure Able (outside : Outside) (alert : Alert) (provider : NotificationProvider) (db : Db) : Prop where
  live : provider ∈ db.listLiveProviders alert.id
  enabled : provider.isEnabled = true
  unlimited : provider.rateLimitCount.getD 0 = 0
  delivers : ∀ now context, outside.deliver now provider.id context = true

/-- The alert on a check with a parent, before any result of the check. -/
structure Depends (outside : Outside) (alert : Alert) (check : Check) (parentId : Id)
    (provider : NotificationProvider) (db : Db) : Prop where
  untouched : Untouched alert check db
  dependsOn : check.dependsOnCheckId = some parentId
  other : parentId ≠ check.id
  parentOrdered : NewestFirst (db.resultsOf parentId)
  providerKeys : (db.notificationMappings.map fun mapping =>
    (mapping.alertId, mapping.notificationProviderId)).Nodup
  able : Able outside alert provider db

/-- Between two suppressions of one provider there is another row. -/
def SuppressedOnce (rows : List NotificationLog) : Prop :=
  ∀ (i j : Nat) (first second : NotificationLog), i < j → rows[i]? = some first → rows[j]? = some second →
    first.notificationHash = some .parentDown → second.notificationHash = some .parentDown →
    first.notificationProviderId = second.notificationProviderId →
    ∃ (k : Nat) (row : NotificationLog), i < k ∧ k < j ∧ rows[k]? = some row ∧ row.notificationHash ≠ some .parentDown

/-- A row of the pair was recorded by the later events. -/
def RecordedIn (outside : Outside) (alert : Alert) (check : Check) (db : Db) (front rest : List Event)
    (about : NotificationLog → Prop) : Prop :=
  ∃ new, (run outside (front ++ rest) db).pairRows alert.id check.id =
    (run outside front db).pairRows alert.id check.id ++ new ∧ ∃ row ∈ new, about row

/-- The row of an outage that was sent. -/
def SentOutage (provider : NotificationProvider) (row : NotificationLog) : Prop :=
  row.notificationProviderId = provider.id ∧ row.status = .sent ∧ row.notificationHash = some .statusDown

/-- A step sends no outage and no resend. -/
def SendsNoOutage (outside : Outside) (alert : Alert) (check : Check) (db : Db) (event : Event) : Prop :=
  ∀ notice ∈ (step outside event db).2, notice.isOf alert check = true →
    notice.stateKey ≠ .statusDown ∧ notice.decision.isResend = false

/-- A step sends a fresh outage. -/
def SendsFreshOutage (outside : Outside) (alert : Alert) (check : Check) (db : Db) (event : Event) :
    Prop :=
  ∃ notice ∈ (step outside event db).2, notice.isOf alert check = true ∧
    notice.stateKey = .statusDown ∧ notice.decision.isResend = false

/-- Suppression is exact over a run. -/
structure SuppressesExactly (outside : Outside) (alert : Alert) (check : Check) (parentId : Id)
    (provider : NotificationProvider) (db : Db) (events : List Event) : Prop where
  /-- While the parent is failing no outage and no resend is sent. -/
  quiet : Allowed outside (fun db event => ParentFailing parentId db →
    (pairInput alert check db event).isSome = true → SendsNoOutage outside alert check db event) db events
  once : SuppressedOnce ((run outside events db).pairRows alert.id check.id)
  /-- A failure while the parent is not: its outage was sent since the last success. -/
  notified : ∀ front rest event back input, events = front ++ (rest ++ event :: back) →
    (front = [] ∨ ∃ before success, front = before ++ [success] ∧ ReportsSuccess check success) →
    (∀ other ∈ rest, ¬ ReportsSuccess check other) →
    pairInput alert check (run outside (front ++ rest) db) event = some input →
    input.seen.success = false → ¬ ParentFailing parentId (run outside (front ++ rest) db) →
    RecordedIn outside alert check db front (rest ++ [event]) (SentOutage provider)
  /-- Two fresh notifications of one outage have a suppression between them. -/
  freshOnce : ∀ front first rest second back, events = front ++ first :: (rest ++ second :: back) →
    SendsFreshOutage outside alert check (run outside front db) first →
    SendsFreshOutage outside alert check (run outside (front ++ first :: rest) db) second →
    (∀ other ∈ rest, ¬ ReportsSuccess check other) →
    RecordedIn outside alert check db (front ++ [first]) rest
      fun row => row.status = .suppressed ∧ row.notificationHash = some .parentDown

/-! ## The tables over a run -/

section Tables

variable {alert : Alert} {check : Check} {db : Db}

theorem settle_tables (event : Event) (db : Db) :
    (event.settle db).notificationMappings = db.notificationMappings ∧
      (event.settle db).providers = db.providers ∧ (event.settle db).logs = db.logs := by
  cases event with
  | report checkResult now =>
    rw [Event.settle]
    split_ifs <;> exact ⟨rfl, rfl, rfl⟩
  | snooze => exact ⟨rfl, rfl, rfl⟩
  | heartbeat => exact ⟨rfl, rfl, rfl⟩
  | silencePass => exact ⟨rfl, rfl, rfl⟩

/-- An event changes no provider. -/
theorem step_live (outside : Outside) (event : Event) (db : Db) (alertId : Id) :
    (step outside event db).1.listLiveProviders alertId = db.listLiveProviders alertId := by
  obtain ⟨rows, added⟩ := step_adds outside event db
  obtain ⟨mappings, providers, -⟩ := settle_tables event db
  rw [added]
  unfold Db.listLiveProviders Db.addNotificationLogs
  rw [mappings, providers]

/-- The pair's rows are only added to. -/
theorem pairRows_step (outside : Outside) (event : Event) (db : Db) (alertId checkId : Id) :
    ∃ new, (step outside event db).1.pairRows alertId checkId = db.pairRows alertId checkId ++ new := by
  obtain ⟨rows, added⟩ := step_adds outside event db
  rw [added, pairRows_addLogs, Db.pairRows, (settle_tables event db).2.2]
  exact ⟨_, rfl⟩

theorem pairRows_run (outside : Outside) (events : List Event) (db : Db) (alertId checkId : Id) :
    ∃ new, (run outside events db).pairRows alertId checkId = db.pairRows alertId checkId ++ new := by
  induction events using List.reverseRecOn with
  | nil => exact ⟨[], (List.append_nil _).symm⟩
  | append_singleton events event ih =>
    obtain ⟨earlier, grown⟩ := ih
    obtain ⟨new, added⟩ := pairRows_step outside event (run outside events db) alertId checkId
    exact ⟨earlier ++ new, by rw [run_snoc, added, grown, List.append_assoc]⟩

/-- A step keeps the results of a check in order. -/
theorem newestFirst_step (outside : Outside) (event : Event) (db : Db) (checkId : Id)
    (ordered : NewestFirst (db.resultsOf checkId))
    (inOrder : ∀ checkResult now, event = .report checkResult now → checkResult.checkId = checkId →
      ∀ old ∈ db.resultsOf checkId, old.timestamp < checkResult.timestamp) :
    NewestFirst ((step outside event db).1.resultsOf checkId) := by
  obtain ⟨rows, added⟩ := step_adds outside event db
  rw [added, resultsOf_addLogs]
  cases event with
  | report checkResult now =>
    rw [Event.settle]
    split_ifs
    · exact ordered
    · by_cases isCheck : checkResult.checkId = checkId
      · have newest : (db.addResult checkResult).resultsOf checkId =
            checkResult :: db.resultsOf checkId := by
          simp [Db.resultsOf, Db.addResult, isCheck]
        rw [newest]
        exact List.pairwise_cons.mpr ⟨inOrder _ _ rfl isCheck, ordered⟩
      · have same : (db.addResult checkResult).resultsOf checkId = db.resultsOf checkId := by
          simp [Db.resultsOf, Db.addResult, isCheck]
        rw [same]
        exact ordered
  | snooze => exact ordered
  | heartbeat => exact ordered
  | silencePass => exact ordered

/-- A result of the child is masked while the parent is failing. -/
theorem masked_iff {parentId : Id} (dependsOn : check.dependsOnCheckId = some parentId)
    (other : parentId ≠ check.id) (ordered : NewestFirst (db.resultsOf parentId)) {event : Event}
    {input : Input CheckResult Time} (given : pairInput alert check db event = some input) :
    input.masked = true ↔ ParentFailing parentId db := by
  obtain ⟨checkResult, now, rfl, isCheck, rfl⟩ := of_pairInput given
  have apart : (db.addResult checkResult).resultsOf parentId = db.resultsOf parentId := by
    simp [Db.resultsOf, Db.addResult, isCheck, other.symm]
  have recent : (db.addResult checkResult).getRecentResultsForCheck parentId 1 =
      (db.resultsOf parentId).take 1 := by
    rw [Db.getRecentResultsForCheck, apart, List.Pairwise.insertionSort_eq]
    exact ordered.imp fun later => le_of_lt later
  have masked : (inputOf alert check now checkResult (db.addResult checkResult)).masked =
      (db.resultsOf parentId).head?.any fun newest => !newest.success := by
    simp only [inputOf, parentIsDown, dependsOn, Db.getLatestResultForCheck, recent]
    cases db.resultsOf parentId <;> rfl
  rw [masked, ParentFailing]

/-- The live providers of an alert are named once. -/
theorem live_nodup (keys : (db.notificationMappings.map fun mapping =>
      (mapping.alertId, mapping.notificationProviderId)).Nodup) (alertId : Id) :
    ((db.listLiveProviders alertId).map (·.id)).Nodup := by
  unfold Db.listLiveProviders
  generalize db.notificationMappings = mappings at keys ⊢
  induction mappings with
  | nil => simp
  | cons mapping rest ih =>
    rw [List.map_cons, List.nodup_cons] at keys
    rw [List.filterMap_cons]
    split
    · exact ih keys.2
    · rename_i provider found
      split_ifs at found with own
      rw [List.map_cons, List.nodup_cons]
      refine ⟨fun again => keys.1 ?_, ih keys.2⟩
      obtain ⟨twin, within, same⟩ := List.mem_map.mp again
      obtain ⟨source, inside, isTwin⟩ := List.mem_filterMap.mp within
      split_ifs at isTwin with ofAlert
      have named : provider.id = mapping.notificationProviderId := by
        simpa using List.find?_some (Option.filter_eq_some_iff.mp found).1
      have twinNamed : twin.id = source.notificationProviderId := by
        simpa using List.find?_some (Option.filter_eq_some_iff.mp isTwin).1
      refine List.mem_map.mpr ⟨source, inside, ?_⟩
      rw [ofAlert.1, own.1, ← twinNamed, same, named]

end Tables

/-! ## Rows -/

section Rows

variable {rows new : List NotificationLog}

/-- Rows that are added leave what lies between two earlier ones. -/
theorem SuppressedOnce.earlier (once : SuppressedOnce rows) {i j : Nat} {first second : NotificationLog}
    (before : i < j) (within : j < rows.length) (isFirst : (rows ++ new)[i]? = some first)
    (isSecond : (rows ++ new)[j]? = some second) (hashFirst : first.notificationHash = some .parentDown)
    (hashSecond : second.notificationHash = some .parentDown)
    (sameProvider : first.notificationProviderId = second.notificationProviderId) :
    ∃ (k : Nat) (row : NotificationLog), i < k ∧ k < j ∧ (rows ++ new)[k]? = some row ∧
      row.notificationHash ≠ some .parentDown := by
  rw [List.getElem?_append_left (by omega)] at isFirst
  rw [List.getElem?_append_left within] at isSecond
  obtain ⟨k, row, above, below, isRow, hash⟩ :=
    once i j first second before isFirst isSecond hashFirst hashSecond sameProvider
  exact ⟨k, row, above, below, by rwa [List.getElem?_append_left (by omega)], hash⟩

theorem SuppressedOnce.append_others (once : SuppressedOnce rows)
    (others : ∀ row ∈ new, row.notificationHash ≠ some .parentDown) : SuppressedOnce (rows ++ new) := by
  intro i j first second before isFirst isSecond hashFirst hashSecond sameProvider
  by_cases within : j < rows.length
  · exact once.earlier before within isFirst isSecond hashFirst hashSecond sameProvider
  · rw [List.getElem?_append_right (by omega)] at isSecond
    exact absurd hashSecond (others second (List.mem_of_getElem? isSecond))

/-- A block of suppressions, one for each provider, after another row. -/
theorem SuppressedOnce.append_block (once : SuppressedOnce rows)
    (left : ∀ row, rows.getLast? = some row → row.notificationHash ≠ some .parentDown)
    (keys : (new.map (·.notificationProviderId)).Nodup) : SuppressedOnce (rows ++ new) := by
  intro i j first second before isFirst isSecond hashFirst hashSecond sameProvider
  by_cases within : j < rows.length
  · exact once.earlier before within isFirst isSecond hashFirst hashSecond sameProvider
  · rw [List.getElem?_append_right (by omega)] at isSecond
    by_cases inside : i < rows.length
    · rw [List.getElem?_append_left inside] at isFirst
      -- the row before the block lies between the two
      obtain ⟨last, isLast⟩ : ∃ last, rows.getLast? = some last := by
        rw [← Option.isSome_iff_exists, List.getLast?_isSome]
        exact List.ne_nil_of_length_pos (by omega)
      have hashLast := left last isLast
      rw [List.getLast?_eq_getElem?] at isLast
      have apart : i ≠ rows.length - 1 := by
        rintro rfl
        rw [isFirst, Option.some.injEq] at isLast
        exact hashLast (isLast ▸ hashFirst)
      exact ⟨rows.length - 1, last, by omega, by omega,
        by rwa [List.getElem?_append_left (by omega)], hashLast⟩
    · rw [List.getElem?_append_right (by omega)] at isFirst
      have sameIndex : i - rows.length = j - rows.length := by
        have bound : i - rows.length < (new.map (·.notificationProviderId)).length := by
          rw [List.length_map]
          exact (List.getElem?_eq_some_iff.mp isFirst).1
        refine (List.getElem?_inj bound keys).mp ?_
        rw [List.getElem?_map, List.getElem?_map, isFirst, isSecond, Option.map_some,
          Option.map_some, sameProvider]
      omega

end Rows

/-! ## The record -/

/-- What the record says of the newest result: it is down only while that is a
failure, and a failure is down or masked. -/
structure KnowsMask (memory : Memory CheckResult StateKey Time) : Prop where
  ofDown : memory.last.map (·.key) = some .statusDown →
    memory.history.head?.any (fun result => !result.success) = true
  ofFailure : memory.history.head?.any (fun result => !result.success) = true →
    memory.last.map (·.key) = some .statusDown ∨ memory.last.map (·.key) = some .parentDown

section Record

variable {alert : Alert} {memory : Memory CheckResult StateKey Time} {input : Input CheckResult Time}

theorem Alert.TellsOutages.failure_fires (tells : alert.TellsOutages)
    (onError : .error ∈ alert.triggerConfig.onStatus.getD [.error]) (failed : input.seen.success = false)
    (history : List CheckResult) (last : Option StateKey) :
    alert.policy.fires (input.seen :: history) last = true := by
  rw [fires_of_failure tells.type tells.single failed, decide_eq_true onError]

theorem Alert.TellsOutages.success_fires (tells : alert.TellsOutages)
    (succeeded : input.seen.success = true) (history : List CheckResult) (last : Option StateKey) :
    alert.policy.fires (input.seen :: history) last =
      history.head?.any fun previous => !previous.success := by
  rw [fires_of_success tells.type tells.single succeeded, tells.recovery, if_pos rfl]

theorem Alert.TellsOutages.recovers (tells : alert.TellsOutages) (checkResult : CheckResult) :
    alert.policy.recovers checkResult = checkResult.success := by
  simp [Alert.policy, tells.recovery]

/-- After a masked failure the mask is on record. -/
theorem last_of_masked (tells : alert.TellsOutages)
    (onError : .error ∈ alert.triggerConfig.onStatus.getD [.error]) (failed : input.seen.success = false)
    (masked : input.masked = true) :
    (alert.policy.step input memory).2 = none ∧
      (alert.policy.step input memory).1.last.map (·.key) = some .parentDown := by
  have fires := tells.failure_fires onError failed memory.history (memory.last.map (·.key))
  rw [Policy.step_masked fires (by rw [masked, tells.recovers, failed]; rfl)]
  refine ⟨rfl, ?_⟩
  dsimp only
  unfold Policy.masks
  split_ifs with same
  · exact same
  · rfl

/-- After a failure that is not masked the outage is on record. -/
theorem last_of_unmasked (tells : alert.TellsOutages)
    (onError : .error ∈ alert.triggerConfig.onStatus.getD [.error]) (failed : input.seen.success = false)
    (unheld : input.held = false) (unmasked : input.masked = false) :
    (alert.policy.step input memory).1.last.map (·.key) = some .statusDown := by
  have fires := tells.failure_fires onError failed memory.history (memory.last.map (·.key))
  rw [Policy.key_of_fire fires unheld (by simp [unmasked]), key_statusChange tells.type, failed]
  rfl

theorem knowsMask_step (tells : alert.TellsOutages)
    (onError : .error ∈ alert.triggerConfig.onStatus.getD [.error]) (unheld : input.held = false)
    (knows : KnowsMask memory) : KnowsMask (alert.policy.step input memory).1 := by
  cases success : input.seen.success with
  | false =>
    refine ⟨fun _ => by simp [success], fun _ => ?_⟩
    cases masked : input.masked with
    | true => exact Or.inr (last_of_masked tells onError success masked).2
    | false => exact Or.inl (last_of_unmasked tells onError success unheld masked)
  | true =>
    have up : (alert.policy.step input memory).1.last.map (·.key) ≠ some .statusDown := by
      have fires := tells.success_fires success memory.history (memory.last.map (·.key))
      cases fired : alert.policy.fires (input.seen :: memory.history) (memory.last.map (·.key)) with
      | true =>
        have visible : (input.masked && !alert.policy.recovers input.seen) = false := by
          simp [tells.recovers, success]
        rw [Policy.key_of_fire fired unheld visible, key_statusChange tells.type, success]
        simp
      | false =>
        rw [Policy.step_quiet fired]
        intro down
        have failed := knows.ofDown down
        rw [fired, failed] at fires
        cases fires
    exact ⟨fun down => absurd down up, fun failed => by simp [success] at failed⟩

/-- What a masked result sends is a recovery, and no resend. -/
theorem sent_of_masked (tells : alert.TellsOutages)
    (onError : .error ∈ alert.triggerConfig.onStatus.getD [.error]) (masked : input.masked = true)
    (knows : KnowsMask memory) {sent : Sent StateKey}
    (isSent : (alert.policy.step input memory).2 = some sent) :
    sent.key ≠ .statusDown ∧ sent.isResend = false := by
  cases success : input.seen.success with
  | false =>
    rw [(last_of_masked tells onError success masked).1] at isSent
    cases isSent
  | true =>
    have visible : (input.masked && !alert.policy.recovers input.seen) = false := by
      simp [tells.recovers, success]
    have fires := (Policy.of_sent isSent).1
    have failed := tells.success_fires success memory.history (memory.last.map (·.key))
    rw [fires] at failed
    have key : alert.policy.key input.seen = .statusUp := by
      rw [key_statusChange tells.type, success]
      rfl
    cases held : input.held with
    | true =>
      rw [Policy.step_held held visible] at isSent
      cases isSent
    | false =>
      have fresh : memory.last.map (·.key) ≠ some (alert.policy.key input.seen) := by
        rw [key]
        rcases knows.ofFailure failed.symm with last | last <;> rw [last] <;> simp
      rw [Policy.step_fresh fires held visible fresh, key] at isSent
      cases isSent
      exact ⟨by simp, rfl⟩

end Record

/-! ## Runs -/

section Runs

variable {outside : Outside} {alert : Alert} {check : Check} {parentId : Id}
  {provider : NotificationProvider} {db : Db}

theorem attempt_able (able : Able outside alert provider db) (now : Time) (context : NotificationContext)
    (tables : Db) : attempt outside now context provider tables = .sent := by
  unfold attempt
  have unlimited : checkRateLimit now provider tables = false := by
    rw [checkRateLimit, able.unlimited]
    cases provider.rateLimitWindowMinutes.getD 0 <;> rfl
  simp [able.enabled, unlimited, able.delivers]

/-- What a step of the pair writes. -/
structure NewRows (outside : Outside) (alert : Alert) (check : Check) (db : Db)
    (input : Input CheckResult Time) (new : List NotificationLog) : Prop where
  mark : ∀ row ∈ new, row.mark = (alert.policy.step input (view alert check db)).1.last
  nothing : new = [] → (alert.policy.step input (view alert check db)).1.last = lastMark alert check db
  ofSent : ∀ sent, (alert.policy.step input (view alert check db)).2 = some sent →
    (∀ row ∈ new, row.notificationHash = some sent.key) ∧
    ∀ provider ∈ db.listLiveProviders alert.id, ∃ row ∈ new, ∃ tables,
      row.notificationProviderId = provider.id ∧
      row.status = attempt outside input.time (noticeOf alert check input.seen sent).context provider tables
  ofSilence : (alert.policy.step input (view alert check db)).2 = none → new ≠ [] →
    (alert.policy.step input (view alert check db)).1.last ≠ (view alert check db).last ∧
    new.map (·.notificationProviderId) = (db.listLiveProviders alert.id).map (·.id) ∧
      ∀ row ∈ new, row.status = .suppressed ∧ row.notificationHash = some .parentDown

theorem StepsPair.newRows {input : Input CheckResult Time} {done : Db × List Notice}
    (steps : StepsPair outside alert check db input done) :
    ∃ new, done.1.pairRows alert.id check.id = db.pairRows alert.id check.id ++ new ∧
      NewRows outside alert check db input new := by
  obtain ⟨others, new, added, adds, wrote⟩ := steps.wrote
  refine ⟨new, added, fun row mem => (adds.each row mem).2, fun empty => ?_, fun sent isSent => ?_,
    fun silent nonempty => ?_⟩
  · rcases adds with ⟨-, same⟩ | ⟨nonempty, -⟩
    · exact same
    · exact absurd empty nonempty
  · rw [rowsOf, isSent] at wrote
    refine ⟨fun row mem => ?_, fun provider live => ?_⟩
    · rw [wrote] at mem
      obtain ⟨one, -, rfl⟩ := List.mem_map.mp mem
      rfl
    · subst wrote
      exact ⟨_, List.mem_map_of_mem live, db.addNotificationLogs others, rfl, rfl⟩
  · rw [rowsOf, silent] at wrote
    dsimp only at wrote
    split_ifs at wrote with same
    · exact absurd wrote nonempty
    · rw [wrote]
      refine ⟨same, ?_, fun row mem => ?_⟩
      · rw [suppressedRows, List.map_map]
        rfl
      · obtain ⟨one, -, rfl⟩ := List.mem_map.mp mem
        exact ⟨rfl, rfl⟩

/-- What a run keeps of an alert on a check with a parent. -/
structure Guarded (alert : Alert) (check : Check) (parentId : Id) (start now : Db) : Prop where
  tracked : Tracked alert check now
  knows : KnowsMask (view alert check now)
  parentOrdered : NewestFirst (now.resultsOf parentId)
  live : now.listLiveProviders alert.id = start.listLiveProviders alert.id
  once : SuppressedOnce (now.pairRows alert.id check.id)
  lastRow : ∀ row, (now.pairRows alert.id check.id).getLast? = some row →
    row.mark = lastMark alert check now

theorem Depends.guarded (depends : Depends outside alert check parentId provider db) :
    Guarded alert check parentId db db where
  tracked := depends.untouched.tracked
  knows := by
    rw [depends.untouched.view]
    exact ⟨fun down => by simp at down, fun failed => by simp at failed⟩
  parentOrdered := depends.parentOrdered
  live := rfl
  once := by
    rw [depends.untouched.rows]
    intro i j first second _ isFirst
    simp at isFirst
  lastRow row isLast := by
    rw [depends.untouched.rows] at isLast
    cases isLast

theorem policy_mask (alert : Alert) : alert.policy.mask = .parentDown := rfl

/-- A step keeps it. -/
theorem guarded_step (tells : alert.TellsOutages)
    (onError : .error ∈ alert.triggerConfig.onStatus.getD [.error])
    (depends : Depends outside alert check parentId provider db) {now : Db}
    (guarded : Guarded alert check parentId db now) {event : Event}
    (interleaved : Interleaved alert check parentId now event) :
    Guarded alert check parentId db (step outside event now).1 := by
  have plain := isPlain_of_statusChange tells.type
  have tracked := (step_view outside plain guarded.tracked interleaved.inOrder).1
  have parentOrdered := newestFirst_step outside event now parentId guarded.parentOrdered
    interleaved.parentInOrder
  have live := (step_live outside event now alert.id).trans guarded.live
  rcases given : pairInput alert check now event with _ | input
  · have leaves := step_leaves outside (notSilence_of_plain plain) guarded.tracked.watched given
    have last := congrArg Memory.last leaves.view
    refine ⟨tracked, leaves.view ▸ guarded.knows, parentOrdered, live, leaves.rows ▸ guarded.once,
      fun row isLast => ?_⟩
    rw [leaves.rows] at isLast
    exact (guarded.lastRow row isLast).trans last.symm
  · have steps := step_steps outside plain guarded.tracked interleaved.inOrder given
    obtain ⟨new, added, wrote⟩ := steps.newRows
    have last := congrArg Memory.last steps.view
    refine ⟨tracked, ?_, parentOrdered, live, ?_, fun row isLast => ?_⟩
    · rw [steps.view]
      exact knowsMask_step tells onError (interleaved.unsnoozed input given) guarded.knows
    · rw [added]
      rcases sends : (alert.policy.step input (view alert check now)).2 with _ | sent
      · by_cases empty : new = []
        · rw [empty, List.append_nil]
          exact guarded.once
        · obtain ⟨changed, providers, -⟩ := wrote.ofSilence sends empty
          refine guarded.once.append_block (fun row isRow => ?_) ?_
          · have other := (Policy.of_silent_change sends changed).1
            rw [policy_mask] at other
            intro isMask
            have isMark := guarded.lastRow row isRow
            rw [mark_of_hashed isMask] at isMark
            exact other (by rw [show (view alert check now).last = _ from isMark.symm]; rfl)
          · rw [providers, guarded.live]
            exact live_nodup depends.providerKeys alert.id
      · refine guarded.once.append_others fun row mem => ?_
        rw [(wrote.ofSent sent sends).1 row mem, (Policy.last_of_sent sends).2,
          key_statusChange tells.type]
        split_ifs <;> simp
    · rw [added] at isLast
      by_cases empty : new = []
      · rw [empty, List.append_nil] at isLast
        rw [guarded.lastRow row isLast, ← wrote.nothing empty]
        exact last.symm
      · rw [List.getLast?_append_of_ne_nil _ empty] at isLast
        exact (wrote.mark row (List.mem_of_getLast? isLast)).trans last.symm

theorem guarded_run (tells : alert.TellsOutages)
    (onError : .error ∈ alert.triggerConfig.onStatus.getD [.error])
    (depends : Depends outside alert check parentId provider db) {events : List Event}
    (allowed : Allowed outside (Interleaved alert check parentId) db events) :
    Guarded alert check parentId db (run outside events db) :=
  allowed.induction (Guarded alert check parentId db) depends.guarded
    fun _ _ guarded interleaved => guarded_step tells onError depends guarded interleaved

/-- While the parent is failing a result of the child sends no outage. -/
theorem sendsNoOutage_of_failing (tells : alert.TellsOutages)
    (onError : .error ∈ alert.triggerConfig.onStatus.getD [.error])
    (depends : Depends outside alert check parentId provider db) {now : Db}
    (guarded : Guarded alert check parentId db now) {event : Event}
    (interleaved : Interleaved alert check parentId now event) (failing : ParentFailing parentId now)
    (given : (pairInput alert check now event).isSome = true) :
    SendsNoOutage outside alert check now event := by
  obtain ⟨input, given⟩ := Option.isSome_iff_exists.mp given
  have masked := (masked_iff depends.dependsOn depends.other guarded.parentOrdered given).mpr failing
  have steps := step_steps outside (isPlain_of_statusChange tells.type) guarded.tracked
    interleaved.inOrder given
  intro notice mem isOf
  have isNotice : notice ∈ (step outside event now).2.filter (Notice.isOf alert check) :=
    List.mem_filter.mpr ⟨mem, isOf⟩
  rw [steps.notices] at isNotice
  obtain ⟨sent, isSent, rfl⟩ := List.mem_map.mp isNotice
  exact sent_of_masked tells onError masked guarded.knows (Option.mem_toList.mp isSent)

theorem RecordedIn.snoc {front rest : List Event} {about : NotificationLog → Prop}
    (recorded : RecordedIn outside alert check db front rest about) (event : Event) :
    RecordedIn outside alert check db front (rest ++ [event]) about := by
  obtain ⟨new, added, row, mem, holds⟩ := recorded
  obtain ⟨more, addedMore⟩ :=
    pairRows_step outside event (run outside (front ++ rest) db) alert.id check.id
  refine ⟨new ++ more, ?_, row, List.mem_append_left _ mem, holds⟩
  rw [← List.append_assoc, run_snoc, addedMore, added, List.append_assoc]

/-- A result of the pair that is no success is a failure. -/
theorem failed_of_no_success {event : Event} (noSuccess : ¬ ReportsSuccess check event)
    {input : Input CheckResult Time} (given : pairInput alert check db event = some input) :
    input.seen.success = false := by
  obtain ⟨checkResult, now, rfl, isCheck, rfl⟩ := of_pairInput given
  by_contra succeeded
  exact noSuccess ⟨isCheck, by simpa [inputOf] using succeeded⟩

/-- A success of the check is a result of the pair. -/
theorem input_of_success {event : Event} (success : ReportsSuccess check event) (db : Db) :
    ∃ input, pairInput alert check db event = some input ∧ input.seen.success = true := by
  cases event with
  | snooze => exact success.elim
  | heartbeat => exact success.elim
  | silencePass => exact success.elim
  | report checkResult now => exact ⟨_, by rw [pairInput, if_pos success.1], success.2⟩

/-- An outage on record was sent since the record said otherwise, as long as
there was no success. -/
theorem recordedIn_of_down (tells : alert.TellsOutages)
    (onError : .error ∈ alert.triggerConfig.onStatus.getD [.error])
    (depends : Depends outside alert check parentId provider db) {front rest : List Event}
    (allowed : Allowed outside (Interleaved alert check parentId) db (front ++ rest))
    (start : (lastMark alert check (run outside front db)).map (·.key) ≠ some .statusDown)
    (noSuccess : ∀ other ∈ rest, ¬ ReportsSuccess check other)
    (down : (lastMark alert check (run outside (front ++ rest) db)).map (·.key) = some .statusDown) :
    RecordedIn outside alert check db front rest (SentOutage provider) := by
  induction rest using List.reverseRecOn with
  | nil => exact absurd (by rwa [List.append_nil] at down) start
  | append_singleton rest event ih =>
    rw [← List.append_assoc] at allowed down
    obtain ⟨before, interleaved⟩ := allowed.of_snoc
    have guarded := guarded_run tells onError depends before
    have recorded := fun down => (ih before (fun other mem =>
      noSuccess other (List.mem_append_left _ mem)) down).snoc event
    have plain := isPlain_of_statusChange tells.type
    rw [run_snoc] at down
    rcases given : pairInput alert check (run outside (front ++ rest) db) event with _ | input
    · have leaves := step_leaves outside (notSilence_of_plain plain) guarded.tracked.watched given
      have last : lastMark alert check _ = _ := congrArg Memory.last leaves.view
      rw [last] at down
      exact recorded down
    · have steps := step_steps outside plain guarded.tracked interleaved.inOrder given
      have failed := failed_of_no_success (noSuccess event (by simp)) given
      have unheld := interleaved.unsnoozed input given
      have last : lastMark alert check _ = _ := congrArg Memory.last steps.view
      rw [last] at down
      cases masked : input.masked with
      | true =>
        rw [(last_of_masked tells onError failed masked).2] at down
        cases down
      | false =>
        by_cases already : (lastMark alert check (run outside (front ++ rest) db)).map (·.key) =
            some .statusDown
        · exact recorded already
        · -- the outage is new, and is sent
          have fires := tells.failure_fires onError failed
            (view alert check (run outside (front ++ rest) db)).history
            ((view alert check (run outside (front ++ rest) db)).last.map (·.key))
          have key : alert.policy.key input.seen = .statusDown := by
            rw [key_statusChange tells.type, failed]
            rfl
          have sends := congrArg Prod.snd (Policy.step_fresh fires unheld (by simp [masked])
            (by rw [key]; exact already))
          obtain ⟨new, added, wrote⟩ := steps.newRows
          obtain ⟨hash, rows⟩ := wrote.ofSent _ sends
          obtain ⟨row, mem, tables, named, status⟩ :=
            rows provider (guarded.live ▸ depends.able.live)
          obtain ⟨earlier, grown⟩ := pairRows_run outside rest (run outside front db) alert.id check.id
          rw [← run_append] at grown
          refine ⟨earlier ++ new, ?_, row, List.mem_append_right _ mem, named, ?_, ?_⟩
          · rw [← List.append_assoc, run_snoc, added, grown, List.append_assoc]
          · rw [status, attempt_able depends.able]
          · rw [hash row mem, key]

/-- From an outage on record, as long as there was no success: it is on record
still, or was suppressed in between. -/
theorem down_or_suppressed (tells : alert.TellsOutages)
    (onError : .error ∈ alert.triggerConfig.onStatus.getD [.error])
    (depends : Depends outside alert check parentId provider db) {front rest : List Event}
    (allowed : Allowed outside (Interleaved alert check parentId) db (front ++ rest))
    (start : (lastMark alert check (run outside front db)).map (·.key) = some .statusDown)
    (noSuccess : ∀ other ∈ rest, ¬ ReportsSuccess check other) :
    (lastMark alert check (run outside (front ++ rest) db)).map (·.key) = some .statusDown ∨
      RecordedIn outside alert check db front rest
        fun row => row.status = .suppressed ∧ row.notificationHash = some .parentDown := by
  induction rest using List.reverseRecOn with
  | nil =>
    left
    rwa [List.append_nil]
  | append_singleton rest event ih =>
    rw [← List.append_assoc] at allowed
    obtain ⟨before, interleaved⟩ := allowed.of_snoc
    have guarded := guarded_run tells onError depends before
    rcases ih before fun other mem => noSuccess other (List.mem_append_left _ mem) with
      down | recorded
    · have plain := isPlain_of_statusChange tells.type
      rw [← List.append_assoc, run_snoc]
      rcases given : pairInput alert check (run outside (front ++ rest) db) event with _ | input
      · left
        have leaves := step_leaves outside (notSilence_of_plain plain) guarded.tracked.watched given
        have last : lastMark alert check _ = _ := congrArg Memory.last leaves.view
        rw [last]
        exact down
      · have steps := step_steps outside plain guarded.tracked interleaved.inOrder given
        have failed := failed_of_no_success (noSuccess event (by simp)) given
        have last : lastMark alert check _ = _ := congrArg Memory.last steps.view
        rw [last]
        cases masked : input.masked with
        | false =>
          left
          exact last_of_unmasked tells onError failed (interleaved.unsnoozed input given) masked
        | true =>
          right
          have stepped : (alert.policy.step input (view alert check (run outside (front ++ rest) db))).2 =
              none ∧ _ := last_of_masked tells onError failed masked
          obtain ⟨silent, isMask⟩ := stepped
          obtain ⟨new, added, wrote⟩ := steps.newRows
          have nonempty : new ≠ [] := by
            intro empty
            rw [wrote.nothing empty, down] at isMask
            cases isMask
          obtain ⟨row, mem⟩ := List.exists_mem_of_ne_nil _ nonempty
          obtain ⟨earlier, grown⟩ := pairRows_run outside rest (run outside front db) alert.id check.id
          rw [← run_append] at grown
          refine ⟨earlier ++ new, ?_, row, List.mem_append_right _ mem,
            (wrote.ofSilence silent nonempty).2.2 row mem⟩
          rw [← List.append_assoc, run_snoc, added, grown, List.append_assoc]
    · exact Or.inr (recorded.snoc event)

/-- A fresh outage is on record after it and was not before. -/
theorem down_of_freshOutage (tells : alert.TellsOutages)
    (onError : .error ∈ alert.triggerConfig.onStatus.getD [.error])
    (depends : Depends outside alert check parentId provider db) {events : List Event} {event : Event}
    (before : Allowed outside (Interleaved alert check parentId) db events)
    (interleaved : Interleaved alert check parentId (run outside events db) event)
    (sends : SendsFreshOutage outside alert check (run outside events db) event) :
    (lastMark alert check (run outside events db)).map (·.key) ≠ some .statusDown ∧
      (lastMark alert check (run outside (events ++ [event]) db)).map (·.key) = some .statusDown := by
  have plain := isPlain_of_statusChange tells.type
  have guarded := guarded_run tells onError depends before
  obtain ⟨notice, mem, isOf, key, isFresh⟩ := sends
  have isNotice : notice ∈ (step outside event (run outside events db)).2.filter
      (Notice.isOf alert check) := List.mem_filter.mpr ⟨mem, isOf⟩
  rcases given : pairInput alert check (run outside events db) event with _ | input
  · have leaves := step_leaves outside (notSilence_of_plain plain) guarded.tracked.watched given
    rw [leaves.quiet] at isNotice
    cases isNotice
  · have steps := step_steps outside plain guarded.tracked interleaved.inOrder given
    rw [steps.notices] at isNotice
    obtain ⟨sent, isSent, rfl⟩ := List.mem_map.mp isNotice
    have sends := Option.mem_toList.mp isSent
    have last : lastMark alert check _ = _ := congrArg Memory.last steps.view
    have isKey : sent.key = .statusDown := key
    refine ⟨isKey ▸ Policy.fresh_of_sent sends isFresh, ?_⟩
    rw [run_snoc, last, (Policy.last_of_sent sends).1, ← isKey]
    rfl

/-- After a success no outage is on record. -/
theorem not_down_of_success (tells : alert.TellsOutages)
    (onError : .error ∈ alert.triggerConfig.onStatus.getD [.error])
    (depends : Depends outside alert check parentId provider db) {events : List Event} {success : Event}
    (allowed : Allowed outside (Interleaved alert check parentId) db (events ++ [success]))
    (reports : ReportsSuccess check success) :
    (lastMark alert check (run outside (events ++ [success]) db)).map (·.key) ≠ some .statusDown := by
  intro down
  obtain ⟨before, interleaved⟩ := allowed.of_snoc
  have guarded := guarded_run tells onError depends before
  have after_ := guarded_run tells onError depends allowed
  obtain ⟨input, given, succeeded⟩ := input_of_success reports (run outside events db)
  have steps := step_steps outside (isPlain_of_statusChange tells.type) guarded.tracked
    interleaved.inOrder given
  have history := congrArg Memory.history steps.view
  rw [Policy.history_step, ← run_snoc] at history
  have newestFailed := after_.knows.ofDown down
  rw [history, List.head?_cons, Option.any_some, succeeded] at newestFailed
  cases newestFailed

/-- **Dependency suppression is exact**, for an alert set on errors: in every
order of the parent's and the child's results. -/
theorem suppressesExactly (tells : alert.TellsOutages)
    (onError : .error ∈ alert.triggerConfig.onStatus.getD [.error])
    (depends : Depends outside alert check parentId provider db) {events : List Event}
    (allowed : Allowed outside (Interleaved alert check parentId) db events) :
    SuppressesExactly outside alert check parentId provider db events where
  quiet := allowed.each fun _ _ before interleaved failing given =>
    sendsNoOutage_of_failing tells onError depends (guarded_run tells onError depends before)
      interleaved failing given
  once := (guarded_run tells onError depends allowed).once
  notified := by
    rintro front rest event back input rfl sinceSuccess noSuccess given failed running
    rw [← List.append_assoc] at allowed
    obtain ⟨before, interleaved⟩ := allowed.of_append
    have guarded := guarded_run tells onError depends before
    have unmasked : input.masked = false := by
      rw [Bool.eq_false_iff]
      exact fun masked => running
        ((masked_iff depends.dependsOn depends.other guarded.parentOrdered given).mp masked)
    have steps := step_steps outside (isPlain_of_statusChange tells.type) guarded.tracked
      interleaved.inOrder given
    have last : lastMark alert check _ = _ := congrArg Memory.last steps.view
    have whole : Allowed outside (Interleaved alert check parentId) db (front ++ (rest ++ [event])) := by
      rw [← List.append_assoc]
      exact .snoc before interleaved
    refine recordedIn_of_down tells onError depends whole ?_ ?_ ?_
    · rcases sinceSuccess with rfl | ⟨earlier, success, rfl, reports⟩
      · have view := depends.untouched.view
        rw [run_nil, show lastMark alert check db = _ from congrArg Memory.last view]
        simp
      · exact not_down_of_success tells onError depends before.front reports
    · intro other mem
      rcases List.mem_append.mp mem with old | isLast
      · exact noSuccess other old
      · rw [List.mem_singleton.mp isLast]
        intro reports
        obtain ⟨one, isOne, succeeded⟩ := input_of_success reports (run outside (front ++ rest) db)
        rw [given] at isOne
        cases isOne
        rw [failed] at succeeded
        cases succeeded
    · rw [← List.append_assoc, run_snoc, last]
      exact last_of_unmasked tells onError failed (interleaved.unsnoozed input given) unmasked
  freshOnce := by
    rintro front first rest second back rfl sendsFirst sendsSecond noSuccess
    have split : front ++ first :: (rest ++ second :: back) =
        (front ++ first :: rest) ++ second :: back := by simp
    have joined : front ++ first :: rest = (front ++ [first]) ++ rest := by simp
    rw [split] at allowed
    obtain ⟨before, interleaved⟩ := allowed.of_append
    obtain ⟨firstBefore, firstInterleaved⟩ := before.of_append
    have start := (down_of_freshOutage tells onError depends firstBefore firstInterleaved sendsFirst).2
    have ended := (down_of_freshOutage tells onError depends before interleaved sendsSecond).1
    rw [joined] at before ended
    exact (down_or_suppressed tells onError depends before start noSuccess).resolve_left ended

/-- The claim's runs, for one alert. -/
def SuppressesAlways (alert : Alert) : Prop :=
  ∀ outside check parentId provider db, Depends outside alert check parentId provider db → ∀ events,
    Allowed outside (Interleaved alert check parentId) db events →
    SuppressesExactly outside alert check parentId provider db events

/-- A check and its parent. -/
def dependentCheck : Check := { soloCheck with dependsOnCheckId := some 1 }

def dependentDb (alert : Alert) : Db :=
  { soloDb alert with checks := [dependentCheck, { soloCheck with id := 1 }] }

theorem dependentDb_depends (enabled : alert.isEnabled = true) (alive : alert.deletedAt = none) :
    Depends calm alert dependentCheck 1 { id := 0 } (dependentDb alert) where
  untouched :=
    { watched :=
        { alertKeys := by simp [dependentDb, soloDb]
          mappingKeys := by simp [dependentDb, soloDb]
          isCheck := by simp [dependentDb, dependentCheck, Db.getCheck]
          isAlert := by simp [dependentDb, soloDb]
          enabled
          alive
          mapped := by simp [dependentDb, soloDb, dependentCheck]
          provider := by simp [dependentDb, soloDb, Db.listLiveProviders] }
      results := rfl
      rows := rfl }
  dependsOn := rfl
  other := by decide
  parentOrdered := List.Pairwise.nil
  providerKeys := by simp [dependentDb, soloDb]
  able :=
    { live := by simp [dependentDb, soloDb, Db.listLiveProviders]
      enabled := rfl
      unlimited := rfl
      delivers := fun _ _ => rfl }

/-- The parent fails, then the child. -/
def outageBehindParent : List Event :=
  [.report { soloResult 0 false with checkId := 1 } 0, .report (soloResult 1 false) 1]

theorem outageBehindParent_allowed :
    Allowed calm (Interleaved { id := 0, triggerType := .statusChange } dependentCheck 1)
      (dependentDb { id := 0, triggerType := .statusChange }) outageBehindParent := by
  have first : run calm [.report { soloResult 0 false with checkId := 1 } 0]
      (dependentDb { id := 0, triggerType := .statusChange }) =
      (dependentDb { id := 0, triggerType := .statusChange }).addResult
        { soloResult 0 false with checkId := 1 } := rfl
  refine .snoc (.snoc .nil ?_) ?_
  · refine ⟨⟨by simp [dependentCheck, soloCheck], by simp [dependentDb, soloDb]⟩, ?_, ?_⟩
    · simp [dependentDb, soloDb, Db.resultsOf]
    · intro input given
      cases given
  · rw [List.nil_append, first]
    refine ⟨⟨?_, by simp [dependentDb, soloDb, Db.addResult]⟩, ?_, ?_⟩
    · simp [dependentCheck, soloCheck, soloResult, dependentDb, soloDb, Db.resultsOf, Db.addResult]
    · intro checkResult now report isParent
      cases report
      cases isParent
    · intro input given
      cases given
      rfl

/-- The child's outage is suppressed exactly, the parent failing before it. -/
theorem suppressesExactly_outageBehindParent :
    SuppressesExactly calm { id := 0, triggerType := .statusChange } dependentCheck 1 { id := 0 }
      (dependentDb { id := 0, triggerType := .statusChange }) outageBehindParent :=
  suppressesExactly ⟨rfl, rfl, rfl⟩ (by decide) (dependentDb_depends rfl rfl) outageBehindParent_allowed

/-- Told of recoveries only. -/
def onSuccess : Alert where
  id := 0
  triggerType := .statusChange
  triggerConfig := { onStatus := some [.success] }

/-- An alert set on successes only is told of recoveries, but no failure fires it:
a child that fails while its parent has no result sends nothing. -/
theorem outage_unsent_on_success : onSuccess.TellsOutages ∧ ¬ SuppressesAlways onSuccess := by
  refine ⟨⟨rfl, rfl, rfl⟩, fun always => ?_⟩
  have allowed : Allowed calm (Interleaved onSuccess dependentCheck 1) (dependentDb onSuccess)
      ([] ++ [.report (soloResult 0 false) 0]) := by
    refine .snoc .nil ⟨⟨by simp [dependentDb, soloDb, Db.resultsOf], by simp [dependentDb, soloDb]⟩,
      by simp [dependentDb, soloDb, Db.resultsOf], fun input given => ?_⟩
    cases given
    rfl
  have exact_ := always calm dependentCheck 1 { id := 0 } (dependentDb onSuccess)
    (dependentDb_depends rfl rfl) _ allowed
  obtain ⟨new, added, row, mem, -⟩ := exact_.notified [] [] (.report (soloResult 0 false) 0) [] _ rfl
    (Or.inl rfl) (by simp) rfl rfl (by simp [ParentFailing, dependentDb, soloDb, Db.resultsOf])
  have nothing : (run calm ([] ++ ([] ++ [.report (soloResult 0 false) 0]))
      (dependentDb onSuccess)).pairRows onSuccess.id dependentCheck.id = [] := rfl
  rw [added] at nothing
  rw [(List.append_eq_nil_iff.mp nothing).2] at mem
  cases mem

end Runs

end LuxSwirl.Server
