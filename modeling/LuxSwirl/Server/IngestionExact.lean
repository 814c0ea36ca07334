import LuxSwirl.Server.Ingestion

/-!
# Which reports are taken in exactly

The rows a report inserts are those of `firstReported`, the first valid result of
each new check and time, when each of these makes a row (`Ingestible.readable`), no
time is out of range (`dated`) and no id and time occur twice (`apart`).
-/

namespace LuxSwirl.Server.Ingestion
open LuxSwirl.Py LuxSwirl.Lib

variable {readers : Readers} {outside : Outside} {request : Request} {agent : Agent} {db : Db}

/-! ## The claim -/

/-- The results of a report that are valid and of a check the agent may report. -/
def claimed (readers : Readers) (checks : List Check) (submission : AgentReportSubmission) :
    List Reported :=
  (validateResults readers.pydantic submission.checks).1.zipIdx.filterMap (lookUp checks)

def Reported.key (readers : Readers) (timestamp : Time) (reported : Reported) : Id × Time :=
  (reported.check.id, reported.timestamp readers timestamp)

def Reported.primaryKey (readers : Readers) (request : Request) (timestamp : Time)
    (reported : Reported) : Id × Time :=
  (reported.id request, reported.timestamp readers timestamp)

/-- The first of them for each check and time not stored before. -/
def firstReported (readers : Readers) (outside : Outside) (request : Request) (agent : Agent)
    (submission : AgentReportSubmission) (db : Db) : List Reported :=
  firsts (Reported.key readers (submission.timestamp.getD request.now)) (db.results.map resultKey)
    (claimed readers (getReportableChecks outside request.now agent db) submission)

/-- The report is taken in: every result is counted, the rows of the first results
are stored and no others, and taking it in again, whenever that is and whatever
was stored in between, leaves the tables as they are. -/
structure IngestedExactly (readers : Readers) (outside : Outside) (request : Request) (agent : Agent)
    (submission : AgentReportSubmission) (db : Db) (ingested : Ingested) : Prop where
  counted : ingested.summary.resultsProcessed + ingested.summary.resultsFailed = submission.checks.length
  rows : ingested.inserted.map some =
    (firstReported readers outside request agent submission db).map
      (Reported.row readers request agent (submission.timestamp.getD request.now))
  stored : ingested.db.results = (ingested.inserted.map (·.checkResult)).reverse ++ db.results
  again : ∀ (again : Request) (later : Db), later.checks = ingested.db.checks →
    later.agents = ingested.db.agents → ingested.db.results ⊆ later.results →
      ∃ summary, processAgentSubmission readers outside again submission later =
        .ok ⟨summary, [], later, []⟩ ∧ summary.alertsEvaluated = 0

/-! ## The certificate -/

/-- An expiry is unset, or a text that is read. -/
def expiryReads (readers : Readers) : Value → Bool
  | .str s => s.isEmpty || (readers.parseExpiry s).isSome
  | expirationDate => !truthy expirationDate

/-- The certificate in the metrics is one, if there is one, and its expiry reads. -/
def certificateReads (readers : Readers) (metrics : Object) : Bool :=
  match Fields.get? (fieldKey "response") metrics with
  | none => true
  | some (.dict response) =>
    match Fields.get? (fieldKey "ssl_certificate") response with
    | none => true
    | some (.dict cert) => expiryReads readers (field "expiration_date" cert)
    | some _ => false
  | some (.list items) => decide (Value.str (text "ssl_certificate") ∉ items)
  | some (.str s) => decide (¬ text "ssl_certificate" <:+: s)
  | some _ => false

theorem sslExpiryFields_isSome (readers : Readers) (request : Request) (expirationDate : Value) :
    (sslExpiryFields readers request expirationDate).isSome = expiryReads readers expirationDate := by
  unfold sslExpiryFields
  cases expirationDate with
  | str s =>
    rw [expiryReads, truthy]
    cases s.isEmpty <;> simp
  | bool b => cases b <;> rfl
  | int n => by_cases zero : n = 0 <;> simp [expiryReads, truthy, zero]
  | float x => by_cases zero : x = .finite 0 <;> simp [expiryReads, truthy, zero]
  | list items => cases items <;> rfl
  | dict fields => cases fields <;> rfl
  | none => rfl
  | object => rfl

/-- The metrics are processed exactly when their certificate reads. -/
theorem processMetrics_isSome (readers : Readers) (request : Request) (metrics : Object) :
    (processMetrics readers request metrics).isSome = certificateReads readers metrics := by
  rw [processMetrics, certificateReads]
  cases Fields.get? (fieldKey "response") metrics with
  | none => rfl
  | some response =>
    cases response with
    | dict response =>
      simp only [holdsKey, getItem, setItem]
      cases Fields.get? (fieldKey "ssl_certificate") response with
      | none => rfl
      | some rawCert =>
        cases rawCert with
        | dict rawCert =>
          have computes : (computeSslCertInfo readers request (.dict rawCert)).isSome =
              expiryReads readers (field "expiration_date" rawCert) := by
            rw [computeSslCertInfo, Option.isSome_map, sslExpiryFields_isSome]
          simp only [← computes]
          cases computed : computeSslCertInfo readers request (.dict rawCert) <;> simp [computed]
        | _ => rfl
    | list items =>
      by_cases within : Value.str (text "ssl_certificate") ∈ items <;> simp [holdsKey, getItem, within]
    | str s =>
      by_cases within : text "ssl_certificate" <:+: s <;> simp [holdsKey, getItem, within]
    | _ => rfl

/-! ## The loop -/

theorem length_validateResults (pydantic : Pydantic) (checks : List Object) :
    (validateResults pydantic checks).1.length + (validateResults pydantic checks).2 = checks.length := by
  induction checks with
  | nil => rfl
  | cons raw rest ih =>
    rw [validateResults]
    dsimp only
    split <;> simp only [List.length_cons] <;> omega

/-- The row a result makes, with the clock at its evaluation. -/
def Reported.prepare (readers : Readers) (request : Request) (agent : Agent) (timestamp : Time)
    (reported : Reported) : Option (ResultRow × Time) :=
  (reported.row readers request agent timestamp).map (·, request.evaluatedAt reported.place)

/-- The rows that the results make. -/
def prepared (readers : Readers) (request : Request) (agent : Agent) (timestamp : Time)
    (reported : List Reported) : List (ResultRow × Time) :=
  reported.filterMap (Reported.prepare readers request agent timestamp)

theorem row_isSome (readers : Readers) (request : Request) (agent : Agent) (timestamp : Time)
    (reported : Reported) : (reported.row readers request agent timestamp).isSome =
      certificateReads readers reported.metrics := by
  rw [Reported.row, Option.isSome_map, processMetrics_isSome]

theorem prepare_isSome (readers : Readers) (request : Request) (agent : Agent) (timestamp : Time)
    (reported : Reported) : (reported.prepare readers request agent timestamp).isSome =
      certificateReads readers reported.metrics := by
  rw [Reported.prepare, Option.isSome_map, row_isSome]

theorem key_prepare {timestamp : Time} {reported : Reported} {entry : ResultRow × Time}
    (isEntry : reported.prepare readers request agent timestamp = some entry) :
    entry.1.key = reported.key readers timestamp ∧
      entry.1.primaryKey = reported.primaryKey readers request timestamp ∧
      entry.1.timestamp = reported.timestamp readers timestamp := by
  obtain ⟨row, isRow, rfl⟩ := Option.map_eq_some_iff.mp isEntry
  obtain ⟨metrics, -, rfl⟩ := Option.map_eq_some_iff.mp isRow
  exact ⟨rfl, rfl, rfl⟩

theorem place_lookUp {checks : List Check} {entry : Object × Nat} {reported : Reported}
    (isReported : lookUp checks entry = some reported) : reported.place = entry.2 := by
  obtain ⟨check, -, rfl⟩ := Option.map_eq_some_iff.mp isReported
  rfl

/-- **The loop** counts every result, and prepares a row of each that makes one. -/
theorem processResults_eq (readers : Readers) (request : Request) (agent : Agent) (checks : List Check)
    (timestamp : Time) (entries : List (Object × Nat)) (progress : Progress) :
    let after := entries.foldl (processResult readers request agent checks timestamp) progress
    after.rowsToInsert = progress.rowsToInsert ++
        prepared readers request agent timestamp (entries.filterMap (lookUp checks)) ∧
      after.resultsProcessed + after.resultsFailed =
        progress.resultsProcessed + progress.resultsFailed + entries.length := by
  induction entries generalizing progress with
  | nil => simp [prepared]
  | cons entry rest ih =>
    rw [List.foldl_cons, List.filterMap_cons]
    obtain ⟨rows, counts⟩ := ih (processResult readers request agent checks timestamp progress entry)
    refine ⟨rows.trans ?_, counts.trans ?_⟩
    · rw [processResult]
      cases isReported : lookUp checks entry with
      | none => rfl
      | some reported =>
        rw [Option.bind_some, prepared, prepared, List.filterMap_cons, Reported.prepare,
          ← place_lookUp isReported]
        cases reported.row readers request agent timestamp <;> simp
    · rw [processResult, List.length_cons]
      cases (lookUp checks entry).bind (Reported.row readers request agent timestamp) <;>
        simp only <;> omega

/-! ## The insert -/

theorem insertChunk_eq_ok {chunk inserted : List (ResultRow × Time)} :
    insertChunk chunk db = .ok inserted ↔
      (∀ entry ∈ chunk, utcHolds entry.1.timestamp = true) ∧
      inserted = firsts (·.1.key) (db.results.map resultKey) chunk ∧
      Apart (·.1.primaryKey) (db.results.map resultPrimaryKey)
        (firsts (·.1.key) (db.results.map resultKey) chunk) := by
  rw [insertChunk, ← List.all_eq_true, ← insertNew_eq_some]
  split_ifs with dated
  · split
    · rename_i isInserted
      rw [isInserted]
      simp [dated]
    · rename_i none
      rw [none]
      simp
  · simp [dated]

theorem map_resultKey_addRows (rows : List (ResultRow × Time)) :
    (addRows rows db).results.map resultKey = (rows.map (·.1.key)).reverse ++ db.results.map resultKey := by
  rw [addRows, List.map_append, List.map_reverse, List.map_map]
  rfl

theorem map_resultPrimaryKey_addRows (rows : List (ResultRow × Time)) :
    (addRows rows db).results.map resultPrimaryKey =
      (rows.map (·.1.primaryKey)).reverse ++ db.results.map resultPrimaryKey := by
  rw [addRows, List.map_append, List.map_reverse, List.map_map]
  rfl

/-- **The insert** in chunks is the insert in one statement. -/
theorem insertChunks_eq_ok {chunks : List (List (ResultRow × Time))} {inserted : List (ResultRow × Time)}
    {after : Db} :
    insertChunks chunks db = .ok (inserted, after) ↔
      (∀ entry ∈ chunks.flatten, utcHolds entry.1.timestamp = true) ∧
      inserted = firsts (·.1.key) (db.results.map resultKey) chunks.flatten ∧
      Apart (·.1.primaryKey) (db.results.map resultPrimaryKey) inserted ∧ after = addRows inserted db := by
  induction chunks generalizing db inserted after with
  | nil =>
    have apart : Apart (·.1.primaryKey) (db.results.map resultPrimaryKey)
        ([] : List (ResultRow × Time)) := ⟨by simp, by simp⟩
    have same : addRows [] db = db := rfl
    simp only [insertChunks, Except.ok.injEq, Prod.mk.injEq, List.flatten_nil, firsts, List.not_mem_nil,
      false_imp_iff, implies_true, true_and]
    constructor
    · rintro ⟨rfl, rfl⟩
      exact ⟨rfl, apart, rfl⟩
    · rintro ⟨rfl, -, rfl⟩
      exact ⟨rfl, rfl⟩
  | cons chunk rest ih =>
    have twice (first second : List (ResultRow × Time)) :
        addRows second (addRows first db) = addRows (first ++ second) db := by
      simp [addRows]
    have keys (rows : List (ResultRow × Time)) (k : Id × Time) :
        k ∈ (addRows rows db).results.map resultKey ↔
          k ∈ rows.map (·.1.key) ++ db.results.map resultKey := by
      rw [map_resultKey_addRows, List.mem_append, List.mem_append, List.mem_reverse]
    have primaryKeys (rows : List (ResultRow × Time)) (k : Id × Time) :
        k ∈ (addRows rows db).results.map resultPrimaryKey ↔
          k ∈ rows.map (·.1.primaryKey) ++ db.results.map resultPrimaryKey := by
      rw [map_resultPrimaryKey_addRows, List.mem_append, List.mem_append, List.mem_reverse]
    rw [insertChunks, except_bind_ok, List.flatten_cons, List.forall_mem_append, firsts_append]
    constructor
    · rintro ⟨first, isFirst, bound⟩
      obtain ⟨⟨second, last⟩, isSecond, returned⟩ := except_bind_ok.mp bound
      cases returned
      obtain ⟨dated, isFirsts, apart⟩ := insertChunk_eq_ok.mp isFirst
      obtain ⟨datedRest, isSeconds, apartRest, rfl⟩ := ih.mp isSecond
      rw [firsts_congr (keys first)] at isSeconds
      rw [← isFirsts] at apart ⊢
      refine ⟨⟨dated, datedRest⟩, by rw [isSeconds], apart_append.mpr ⟨apart, ?_⟩, twice _ _⟩
      exact apartRest.congr (primaryKeys first)
    · rintro ⟨⟨dated, datedRest⟩, rfl, apart, rfl⟩
      obtain ⟨apart, apartRest⟩ := apart_append.mp apart
      refine ⟨_, insertChunk_eq_ok.mpr ⟨dated, rfl, apart⟩, except_bind_ok.mpr
        ⟨_, ih.mpr ⟨datedRest, rfl, ?_, rfl⟩, ?_⟩⟩
      · rw [firsts_congr (keys _)]
        exact apartRest.congr fun k => (primaryKeys _ k).symm
      · rw [firsts_congr (keys _), twice]
        rfl

theorem bulkInsertIdempotent_eq_ok {rows inserted : List (ResultRow × Time)} {after : Db} :
    bulkInsertIdempotent rows db = .ok (inserted, after) ↔
      (∀ entry ∈ rows, utcHolds entry.1.timestamp = true) ∧
      inserted = firsts (·.1.key) (db.results.map resultKey) rows ∧
      Apart (·.1.primaryKey) (db.results.map resultPrimaryKey) inserted ∧ after = addRows inserted db := by
  rw [bulkInsertIdempotent, insertChunks_eq_ok, flatten_slices (by decide)]

/-- Evaluating results adds rows to the log. -/
theorem evaluateEach_adds (outside : Outside) (entries : List (CheckResult × Time)) (db : Db) :
    ∃ rows, (evaluateEach outside entries db).1 = db.addNotificationLogs rows := by
  induction entries generalizing db with
  | nil => exact ⟨[], by simp [evaluateEach, Db.addNotificationLogs]⟩
  | cons entry rest ih =>
    obtain ⟨rows, added, -⟩ := evaluateCheckResult_adds outside entry.2 entry.1 db
    obtain ⟨more, addedMore⟩ := ih (db.addNotificationLogs rows)
    refine ⟨rows ++ more, ?_⟩
    rw [evaluateEach]
    dsimp only
    rw [added, addedMore]
    simp [Db.addNotificationLogs]

/-! ## The report -/

section Report

variable {submission : AgentReportSubmission}

/-- The rows a report's results make. -/
def rowsOf (readers : Readers) (outside : Outside) (request : Request) (agent : Agent)
    (submission : AgentReportSubmission) (db : Db) : List (ResultRow × Time) :=
  prepared readers request agent (submission.timestamp.getD request.now)
    (claimed readers (getReportableChecks outside request.now agent db) submission)

/-- The first of them for each new check and time. -/
def newRows (readers : Readers) (outside : Outside) (request : Request) (agent : Agent)
    (submission : AgentReportSubmission) (db : Db) : List (ResultRow × Time) :=
  firsts (·.1.key) (db.results.map resultKey) (rowsOf readers outside request agent submission db)

/-- What a report that does not fail leaves. -/
structure TakenIn (readers : Readers) (outside : Outside) (request : Request) (agent : Agent)
    (submission : AgentReportSubmission) (db : Db) (ingested : Ingested) : Prop where
  counted : ingested.summary.resultsProcessed + ingested.summary.resultsFailed = submission.checks.length
  evaluated : ingested.summary.alertsEvaluated = ingested.inserted.length
  inserted : ingested.inserted = (newRows readers outside request agent submission db).map (·.1)
  written : (ingested.db, ingested.notices) = evaluateEach outside
    ((newRows readers outside request agent submission db).map fun entry => (entry.1.checkResult, entry.2))
    (addRows (newRows readers outside request agent submission db) db)

/-- **A report is taken in** when no row is out of range and no new one has the id
and time of another. -/
theorem processAgentSubmission_takesIn (readers : Readers) (outside : Outside) (request : Request)
    (found : db.getAgent submission.agentId = some agent) :
    (∀ ingested, processAgentSubmission readers outside request submission db = .ok ingested →
      TakenIn readers outside request agent submission db ingested) ∧
    ((∃ ingested, processAgentSubmission readers outside request submission db = .ok ingested) ↔
      (∀ entry ∈ rowsOf readers outside request agent submission db, utcHolds entry.1.timestamp = true) ∧
      Apart (·.1.primaryKey) (db.results.map resultPrimaryKey)
        (newRows readers outside request agent submission db)) := by
  obtain ⟨rows, counts⟩ := processResults_eq readers request agent
    (getReportableChecks outside request.now agent db) (submission.timestamp.getD request.now)
    (validateResults readers.pydantic submission.checks).1.zipIdx {}
  have length := length_validateResults readers.pydantic submission.checks
  rw [List.length_zipIdx] at counts
  simp only [processAgentSubmission, processAgentReport, found]
  generalize (validateResults readers.pydantic submission.checks).1.zipIdx.foldl
    (processResult readers request agent (getReportableChecks outside request.now agent db)
      (submission.timestamp.getD request.now)) {} = progress at rows counts ⊢
  replace rows : progress.rowsToInsert = rowsOf readers outside request agent submission db := rows
  rw [rows]
  cases isInserted : bulkInsertIdempotent (rowsOf readers outside request agent submission db) db with
  | error e =>
    refine ⟨?_, iff_of_false ?_ fun ⟨dated, apart⟩ => ?_⟩
    · rintro ingested ⟨⟩
    · rintro ⟨ingested, ⟨⟩⟩
    rw [bulkInsertIdempotent_eq_ok.mpr ⟨dated, rfl, apart, rfl⟩] at isInserted
    cases isInserted
  | ok result =>
    obtain ⟨inserted, after⟩ := result
    obtain ⟨dated, rfl, apart, rfl⟩ := bulkInsertIdempotent_eq_ok.mp isInserted
    refine ⟨?_, iff_of_true ⟨_, rfl⟩ ⟨dated, apart⟩⟩
    rintro ingested ⟨⟩
    refine ⟨?_, (List.length_map ..).symm, rfl, rfl⟩
    show progress.resultsProcessed + (progress.resultsFailed + _) = _
    rw [← Nat.add_assoc, counts, ← length]
    simp

/-! ## Each result has a time of its own -/

theorem readDatetime_ne_none {pydantic : Pydantic} {v : Value} : readDatetime pydantic v ≠ some .none := by
  cases v with
  | int n => simp [readDatetime]
  | float x => cases x <;> simp [readDatetime]
  | str s => simp [readDatetime]
  | _ => simp [readDatetime]

/-- A valid result has a date. -/
theorem date_of_valid {pydantic : Pydantic} {raw : Value} {result : Object}
    (valid : validateResult pydantic raw = some result) : field "timestamp" result ≠ .none := by
  cases raw with
  | dict given =>
    have nodup : ((checkResultCreate pydantic).map (·.key)).Nodup := by simp [checkResultCreate]
    have isFirst : requiredField "timestamp" (readDatetime pydantic) ∈ checkResultCreate pydantic :=
      List.mem_cons_self ..
    have present := Schema.validate_isSome.mp (Option.isSome_of_mem valid) _ isFirst
    obtain ⟨date, isDate⟩ := Option.isSome_iff_exists.mp present
    have kept := Schema.get?_validate nodup isFirst valid
    rw [requiredField_key, isDate] at kept
    rw [field, kept]
    rw [Schema.Field.take] at isDate
    cases isGiven : Fields.get? (requiredField "timestamp" (readDatetime pydantic)).key given with
    | none =>
      rw [isGiven] at isDate
      cases isDate
    | some v =>
      rw [isGiven, requiredField_of] at isDate
      rintro rfl
      exact readDatetime_ne_none isDate
  | _ => cases valid

theorem valid_of_mem {pydantic : Pydantic} {checks : List Object} {result : Object}
    (mem : result ∈ (validateResults pydantic checks).1) :
    ∃ raw, validateResult pydantic raw = some result := by
  induction checks with
  | nil => cases mem
  | cons raw rest ih =>
    rw [validateResults] at mem
    dsimp only at mem
    split at mem
    · rename_i first isFirst
      rcases List.mem_cons.mp mem with rfl | mem
      · exact ⟨_, isFirst⟩
      · exact ih mem
    · exact ih mem

/-- So the report's own time is the time of none. -/
theorem timestamp_of_claimed {checks : List Check} {reported : Reported}
    (mem : reported ∈ claimed readers checks submission) (timestamp : Time) :
    reported.timestamp readers timestamp = readers.instantOf (field "timestamp" reported.result) := by
  obtain ⟨⟨result, place⟩, isEntry, isReported⟩ := List.mem_filterMap.mp mem
  obtain ⟨check, -, rfl⟩ := Option.map_eq_some_iff.mp isReported
  obtain ⟨raw, valid⟩ := valid_of_mem (List.fst_mem_of_mem_zipIdx isEntry)
  have dated := date_of_valid valid
  rw [Reported.timestamp]
  split
  · rename_i missing
    exact absurd missing dated
  · rfl

/-! ## Exactness -/

/-- Reports that are taken in exactly: of the valid results of checks the agent may
report, the certificate in each first one reads, the time of each that makes a row
is a UTC date, and no first one has the id and time of another or of a stored one. -/
structure Ingestible (readers : Readers) (outside : Outside) (request : Request) (agent : Agent)
    (submission : AgentReportSubmission) (db : Db) : Prop where
  readable : ∀ reported ∈ firstReported readers outside request agent submission db,
    certificateReads readers reported.metrics = true
  dated : ∀ reported ∈ claimed readers (getReportableChecks outside request.now agent db) submission,
    certificateReads readers reported.metrics = true →
      utcHolds (readers.instantOf (field "timestamp" reported.result)) = true
  apart : Apart (Reported.primaryKey readers request (submission.timestamp.getD request.now))
    (db.results.map resultPrimaryKey) (firstReported readers outside request agent submission db)

/-- The first results among those that make a row. -/
def firstReadable (readers : Readers) (outside : Outside) (request : Request) (agent : Agent)
    (submission : AgentReportSubmission) (db : Db) : List Reported :=
  firsts (Reported.key readers (submission.timestamp.getD request.now)) (db.results.map resultKey)
    ((claimed readers (getReportableChecks outside request.now agent db) submission).filter
      fun reported => certificateReads readers reported.metrics)

theorem firstReadable_eq (readable : ∀ reported ∈ firstReported readers outside request agent submission db,
    certificateReads readers reported.metrics = true) :
    firstReadable readers outside request agent submission db =
      firstReported readers outside request agent submission db :=
  firsts_filter readable

/-- The new rows are made of these. -/
theorem newRows_made : (newRows readers outside request agent submission db).map some =
    (firstReadable readers outside request agent submission db).map
      (Reported.prepare readers request agent (submission.timestamp.getD request.now)) := by
  rw [newRows, rowsOf, prepared, firsts_filterMap fun _ _ isEntry => (key_prepare isEntry).1]
  simp only [prepare_isSome]
  rfl

theorem rows_made : ((newRows readers outside request agent submission db).map (·.1)).map some =
    (firstReadable readers outside request agent submission db).map
      (Reported.row readers request agent (submission.timestamp.getD request.now)) := by
  have made : (newRows readers outside request agent submission db).map some = _ := newRows_made
  have fromMade := congrArg (List.map (Option.map Prod.fst)) made
  simpa [Function.comp_def, Reported.prepare] using fromMade

theorem mem_rowsOf {entry : ResultRow × Time}
    (mem : entry ∈ rowsOf readers outside request agent submission db) :
    ∃ reported ∈ claimed readers (getReportableChecks outside request.now agent db) submission,
      reported.prepare readers request agent (submission.timestamp.getD request.now) = some entry ∧
      certificateReads readers reported.metrics = true := by
  obtain ⟨reported, isReported, isEntry⟩ := List.mem_filterMap.mp mem
  refine ⟨reported, isReported, isEntry, ?_⟩
  rw [← prepare_isSome readers request agent (submission.timestamp.getD request.now), isEntry]
  rfl

theorem rowsOf_dated : (∀ entry ∈ rowsOf readers outside request agent submission db,
      utcHolds entry.1.timestamp = true) ↔
    ∀ reported ∈ claimed readers (getReportableChecks outside request.now agent db) submission,
      certificateReads readers reported.metrics = true →
        utcHolds (readers.instantOf (field "timestamp" reported.result)) = true := by
  constructor
  · intro dated reported isReported reads
    rw [← prepare_isSome readers request agent (submission.timestamp.getD request.now)] at reads
    obtain ⟨entry, isEntry⟩ := Option.isSome_iff_exists.mp reads
    rw [← timestamp_of_claimed isReported (submission.timestamp.getD request.now),
      ← (key_prepare isEntry).2.2]
    exact dated entry (List.mem_filterMap.mpr ⟨reported, isReported, isEntry⟩)
  · intro dated entry mem
    obtain ⟨reported, isReported, isEntry, reads⟩ := mem_rowsOf mem
    rw [(key_prepare isEntry).2.2, timestamp_of_claimed isReported]
    exact dated reported isReported reads

/-- Which checks an agent may report does not depend on the clock. -/
theorem getReportableChecks_congr {later : Db} (now before : Time) (checks : later.checks = db.checks)
    (agents : later.agents = db.agents) :
    getReportableChecks outside now agent later = getReportableChecks outside before agent db := by
  have active : later.listActive = db.listActive := by rw [Db.listActive, agents, Db.listActive]
  rw [getReportableChecks, getReportableChecks, checksForAgent, checksForAgent, Db.listAssignmentCandidates,
    checks, active]
  refine List.filter_congr fun check _ => ?_
  rw [goesTo, goesTo]
  rfl

/-- The key of every row is stored once the new rows are. -/
theorem key_stored {reported : Reported}
    (isReported : reported ∈ claimed readers (getReportableChecks outside request.now agent db) submission)
    (reads : certificateReads readers reported.metrics = true) :
    reported.key readers (submission.timestamp.getD request.now) ∈
      (addRows (newRows readers outside request agent submission db) db).results.map resultKey := by
  have keys : (newRows readers outside request agent submission db).map (·.1.key) =
      (firstReadable readers outside request agent submission db).map
        (Reported.key readers (submission.timestamp.getD request.now)) :=
    map_eq_of_made newRows_made fun _ _ isEntry => (key_prepare isEntry).1
  rw [map_resultKey_addRows, List.mem_append, List.mem_reverse, keys]
  exact (key_mem_firsts _ (List.mem_filter.mpr ⟨isReported, reads⟩)).symm

/-- A report that was taken in has nothing new. -/
theorem newRows_again {again : Request} {later : Db} (checks : later.checks = db.checks)
    (agents : later.agents = db.agents)
    (results : (addRows (newRows readers outside request agent submission db) db).results ⊆ later.results) :
    newRows readers outside again agent submission later = [] := by
  refine firsts_eq_nil fun entry mem => ?_
  obtain ⟨reported, isReported, isEntry, reads⟩ := mem_rowsOf mem
  rw [getReportableChecks_congr again.now request.now checks agents] at isReported
  have sameKey : entry.1.key = reported.key readers (submission.timestamp.getD request.now) := by
    rw [(key_prepare isEntry).1, Reported.key, Reported.key, timestamp_of_claimed isReported,
      timestamp_of_claimed isReported]
  rw [sameKey]
  exact List.map_subset _ results (key_stored isReported reads)

/-- The tables, with the new rows and what evaluating them logged. -/
theorem TakenIn.db_eq {ingested : Ingested}
    (taken : TakenIn readers outside request agent submission db ingested) :
    ∃ logs, ingested.db =
      (addRows (newRows readers outside request agent submission db) db).addNotificationLogs logs := by
  obtain ⟨logs, added⟩ := evaluateEach_adds outside
    ((newRows readers outside request agent submission db).map fun entry => (entry.1.checkResult, entry.2))
    (addRows (newRows readers outside request agent submission db) db)
  exact ⟨logs, (congrArg Prod.fst taken.written).trans added⟩

/-- **Again.** A report that was taken in stores nothing more. -/
theorem TakenIn.again {ingested : Ingested} (found : db.getAgent submission.agentId = some agent)
    (taken : TakenIn readers outside request agent submission db ingested)
    (dated : ∀ entry ∈ rowsOf readers outside request agent submission db,
      utcHolds entry.1.timestamp = true) (again : Request) {later : Db}
    (checks : later.checks = ingested.db.checks) (agents : later.agents = ingested.db.agents)
    (results : ingested.db.results ⊆ later.results) :
    ∃ summary, processAgentSubmission readers outside again submission later =
      .ok ⟨summary, [], later, []⟩ ∧ summary.alertsEvaluated = 0 := by
  obtain ⟨logs, isDb⟩ := taken.db_eq
  rw [isDb] at checks agents results
  replace checks : later.checks = db.checks := checks
  replace agents : later.agents = db.agents := agents
  have stillFound : later.getAgent submission.agentId = some agent := by
    rw [Db.getAgent, agents]
    exact found
  have nothing : newRows readers outside again agent submission later = [] :=
    newRows_again checks agents results
  obtain ⟨takesIn, succeeds⟩ := processAgentSubmission_takesIn readers outside again stillFound
  have stillDated : ∀ entry ∈ rowsOf readers outside again agent submission later,
      utcHolds entry.1.timestamp = true := by
    rw [rowsOf_dated, getReportableChecks_congr again.now request.now checks agents]
    exact rowsOf_dated.mp dated
  obtain ⟨⟨summary, inserted, after, notices⟩, processed⟩ :=
    succeeds.mpr ⟨stillDated, by rw [nothing]; exact ⟨by simp, by simp⟩⟩
  obtain ⟨-, evaluated, rfl, written⟩ := takesIn _ processed
  rw [nothing] at evaluated written
  cases written
  rw [nothing] at processed
  exact ⟨summary, processed, evaluated⟩

/-- The insert that alerts see is the one of the first rows. -/
theorem bulkInsert_firsts (entries : List (CheckResult × Time)) (db : Db) :
    Server.bulkInsertIdempotent entries db =
      (firsts (fun entry => resultKey entry.1) (db.results.map resultKey) entries,
        { db with results := ((firsts (fun entry => resultKey entry.1) (db.results.map resultKey)
          entries).map (·.1)).reverse ++ db.results }) := by
  induction entries generalizing db with
  | nil => rfl
  | cons entry rest ih =>
    have stored : (db.results.any fun old =>
        decide (old.checkId = entry.1.checkId ∧ old.timestamp = entry.1.timestamp)) = true ↔
          resultKey entry.1 ∈ db.results.map resultKey := by
      simp [resultKey]
    rw [Server.bulkInsertIdempotent, firsts]
    simp only [stored]
    split_ifs
    · exact ih db
    · rw [ih (db.addResult entry.1)]
      simp [Db.addResult]

/-- **Refinement.** A report that is taken in stores, evaluates and notifies of what
the report of its rows does. -/
theorem TakenIn.processAgentReport {ingested : Ingested}
    (taken : TakenIn readers outside request agent submission db ingested) :
    (ingested.db, ingested.notices) = Server.processAgentReport outside
      { reportable := (getReportableChecks outside request.now agent db).map (·.id)
        results := (rowsOf readers outside request agent submission db).map fun entry =>
          (entry.1.checkResult, entry.2) } db := by
  have kept : ((rowsOf readers outside request agent submission db).map fun entry =>
      (entry.1.checkResult, entry.2)).filter (fun entry => decide (entry.1.checkId ∈
        (getReportableChecks outside request.now agent db).map (·.id))) =
      (rowsOf readers outside request agent submission db).map fun entry =>
        (entry.1.checkResult, entry.2) := by
    rw [List.filter_eq_self, List.forall_mem_map]
    intro entry mem
    obtain ⟨reported, isReported, isEntry, -⟩ := mem_rowsOf mem
    obtain ⟨found, -, isFound⟩ := List.mem_filterMap.mp isReported
    obtain ⟨check, isCheck, rfl⟩ := Option.map_eq_some_iff.mp isFound
    have sameCheck : entry.1.checkId = check.id := congrArg Prod.fst (key_prepare isEntry).1
    refine decide_eq_true (List.mem_map.mpr ⟨check, List.mem_of_find?_eq_some isCheck, sameCheck.symm⟩)
  have inserted : firsts (fun entry => resultKey entry.1) (db.results.map resultKey)
      ((rowsOf readers outside request agent submission db).map fun entry =>
        (entry.1.checkResult, entry.2)) =
      (newRows readers outside request agent submission db).map fun entry =>
        (entry.1.checkResult, entry.2) := firsts_map
  rw [taken.written, Server.processAgentReport, kept, bulkInsert_firsts, inserted]
  simp [addRows, Function.comp_def]

/-! ## Two results of one id -/

/-- Dates are numbers of seconds. -/
def secondsOnly : Readers where
  pydantic :=
    { boolOf _ := none
      intOf _ := none
      floatOf _ := none
      datetimeOf _ := false
      nanPasses := false }
  instantOf
    | .int n => seconds n
    | _ => 0
  parseExpiry _ := some none

def evening : Request where
  now := seconds 1700000060
  uuid7 place := 1000 + place
  evaluatedAt place := seconds (1700000060 + place)
  warningDays := 30
  criticalDays := 14

def reporter : Agent := { id := 1, approvalStatus := .active, createdAt := 0 }

def twoChecks : Db where
  agents := [reporter]
  checks := [{ id := 2, agentId := 1, createdAt := 0 }, { id := 3, agentId := 1, createdAt := 0 }]

/-- A success of a check under an id, as the agent sends it. -/
def sentResult (checkId resultId : Id) : Object :=
  [(fieldKey "timestamp", .int 1700000000),
    (fieldKey "success", .bool true),
    (fieldKey "check_id", .str (Uuid.ofId checkId).str),
    (fieldKey "result_id", .str (Uuid.ofId resultId).str),
    (fieldKey "display_name", .str (text "web")),
    (fieldKey "check_type", .str (text "ping")),
    (fieldKey "target", .str (text "10.0.0.1"))]

end Report

end LuxSwirl.Server.Ingestion
