import LuxSwirl.Server.CheckOperations
import LuxSwirl.Server.IngestionExact
import Mathlib.Data.List.Find

/-!
# The series of check results

`metrics_collector_core_service.py` keeps gauges in the memory of the process. It sets
those of a check from every result a report inserts, as they come, and at its start
from each check's newest result of the last minutes. Of the gauges, those of a
result's outcome, time and status code are here.

`mirrors_iff` is about every run of reports, after a start on any stored results.
-/

namespace LuxSwirl.Server.Ingestion
open LuxSwirl.Py LuxSwirl.Lib

/-! ## Gauges -/

structure CheckLabels where
  agent : Text
  check : Text
  type : CheckType
  target : Text
  deriving DecidableEq

/-- The labels of a status code's gauge; the code is written in digits. -/
structure HttpLabels where
  agent : Text
  check : Text
  target : Text
  code : Int
  deriving DecidableEq

structure Gauges where
  checkSuccess : CheckLabels → Option Nat := fun _ => none
  checkLastExecutionTime : CheckLabels → Option Time := fun _ => none
  checkHttpStatusCode : HttpLabels → Option Nat := fun _ => none

/-- The agent's name, or its id while it has none. -/
def agentLabel (agent : Agent) : Text :=
  match agent.agentName with
  | some name => if name.isEmpty then (Uuid.ofId agent.id).str else name
  | none => (Uuid.ofId agent.id).str

/-- The code of a result, when it carries one. -/
def ResultRow.statusCode (row : ResultRow) : Option Int :=
  match row.httpStatusCode with
  | .int n => if n = 0 then none else some n
  | _ => none

def ResultRow.successValue (row : ResultRow) : Nat := if row.success then 1 else 0

section

-- `mask_credentials`, of which only the labels it gives matter
variable (maskCredentials : Text → Text)

def checkLabels (check : Check) (agent : Agent) : CheckLabels where
  agent := agentLabel agent
  check := check.displayName
  type := check.checkType
  target := maskCredentials check.target

/-- The labels of the code a result carries, if its check has such a gauge. -/
def httpLabels (row : ResultRow) (check : Check) (agent : Agent) : Option HttpLabels :=
  if check.checkType = .http then
    row.statusCode.map fun code =>
      { agent := agentLabel agent, check := check.displayName, target := maskCredentials check.target, code }
  else none

/-- `update_check_result` -/
def updateCheckResult (row : ResultRow) (check : Check) (agent : Agent) (gauges : Gauges) : Gauges where
  checkSuccess := Function.update gauges.checkSuccess (checkLabels maskCredentials check agent) row.successValue
  checkLastExecutionTime :=
    Function.update gauges.checkLastExecutionTime (checkLabels maskCredentials check agent) row.timestamp
  checkHttpStatusCode :=
    match httpLabels maskCredentials row check agent with
    | some labels => Function.update gauges.checkHttpStatusCode labels (some 1)
    | none => gauges.checkHttpStatusCode

/-! ## The process -/

/-- The tables and the gauges. `rows` is `check_results`, and `written` holds the rows
the gauges were set from, both with the newest insert first. -/
structure Collector where
  db : Db
  rows : List ResultRow
  written : List ResultRow := []
  gauges : Gauges := {}

/-- One result: the gauges of a check that cannot be looked up are left. -/
def Collector.update (agent : Agent) (check : Option Check) (row : ResultRow) (collector : Collector) :
    Collector :=
  match check with
  | none => collector
  | some check =>
    { collector with
      written := row :: collector.written
      gauges := updateCheckResult maskCredentials row check agent collector.gauges }

/-- A report is taken in, and the gauges are set from each inserted result. -/
def processReport (readers : Readers) (outside : Outside) (request : Request)
    (submission : AgentReportSubmission) (collector : Collector) : Collector :=
  match collector.db.getAgent submission.agentId,
    processAgentSubmission readers outside request submission collector.db with
  | some agent, .ok ingested =>
    let checkMap := getReportableChecks outside request.now agent collector.db
    ingested.inserted.foldl
      (fun collector row => collector.update maskCredentials agent
        (checkMap.find? fun check => decide (check.id = row.checkId)) row)
      { collector with db := ingested.db, rows := ingested.inserted.reverse ++ collector.rows }
  | _, _ => collector

/-- The newest stored result of each check, of the agents seen since. -/
def latestResults (cutoff : Time) (db : Db) (rows : List ResultRow) : List ResultRow :=
  let recent := rows.filter fun row =>
    decide (cutoff ≤ row.timestamp) && db.agents.any fun agent =>
      decide (agent.id = row.agentId) && agent.lastSeen.any fun seen => decide (cutoff ≤ seen)
  recent.filter fun row => recent.all fun other =>
    decide (other.checkId = row.checkId → other.timestamp ≤ row.timestamp)

/-- `rebuild_from_database`, at the start of the process. -/
def rebuildFromDatabase (now : Time) (db : Db) (rows : List ResultRow) : Collector :=
  (latestResults (now - minutes 10) db rows).foldl
    (fun collector row =>
      match db.getAgent row.agentId with
      | some agent => collector.update maskCredentials agent (db.getCheck row.checkId) row
      | none => collector)
    { db, rows }

/-- The process after some reports. -/
def processSubmissions (readers : Readers) (outside : Outside)
    (reports : List (Request × AgentReportSubmission)) (collector : Collector) : Collector :=
  reports.foldl
    (fun collector report => processReport maskCredentials readers outside report.1 report.2 collector) collector

end

/-! ## The series of a result -/

/-- The results have one series: they are of one check, by one agent. -/
def SameSeries (row other : ResultRow) : Prop := other.agentId = row.agentId ∧ other.checkId = row.checkId

instance (row other : ResultRow) : Decidable (SameSeries row other) :=
  inferInstanceAs (Decidable (_ ∧ _))

section

variable (maskCredentials : Text → Text) (db : Db)

def labelsOf (row : ResultRow) : Option CheckLabels :=
  (db.getAgent row.agentId).bind fun agent =>
    (db.getCheck row.checkId).map fun check => checkLabels maskCredentials check agent

def httpLabelsOf (row : ResultRow) : Option HttpLabels :=
  (db.getAgent row.agentId).bind fun agent =>
    (db.getCheck row.checkId).bind fun check => httpLabels maskCredentials row check agent

end

/-- The newest result of its series. -/
def Newest (rows : List ResultRow) (row : ResultRow) : Prop :=
  row ∈ rows ∧ ∀ other ∈ rows, SameSeries row other → other.timestamp ≤ row.timestamp

/-- Stored results of different series have different labels. -/
def LabelsApart (maskCredentials : Text → Text) (collector : Collector) : Prop :=
  ∀ row ∈ collector.rows, ∀ other ∈ collector.rows, ∀ labels,
    labelsOf maskCredentials collector.db row = some labels →
      labelsOf maskCredentials collector.db other = some labels → SameSeries row other

/-- **The gauges mirror the newest results**, and of an HTTP check's codes the newest one
alone is set. -/
def Mirrors (maskCredentials : Text → Text) (collector : Collector) : Prop :=
  ∀ row, Newest collector.rows row → ∀ labels, labelsOf maskCredentials collector.db row = some labels →
    collector.gauges.checkSuccess labels = some row.successValue ∧
      collector.gauges.checkLastExecutionTime labels = some row.timestamp ∧
      ∀ code, httpLabelsOf maskCredentials collector.db row = some code →
        ∀ n, collector.gauges.checkHttpStatusCode { code with code := n } = some 1 ↔ n = code.code

/-- The last result a series was set from is its newest one, and an HTTP check's results
carry the code of the newest one, or none. -/
def Orderly (maskCredentials : Text → Text) (collector : Collector) : Prop :=
  ∀ row, Newest collector.rows row → (labelsOf maskCredentials collector.db row).isSome →
    collector.written.find? (fun other => decide (SameSeries row other)) = some row ∧
      ∀ code, httpLabelsOf maskCredentials collector.db row = some code →
        ∀ other ∈ collector.written, SameSeries row other → ∀ n ∈ other.statusCode, n = code.code

/-! ## What the gauges follow -/

variable {maskCredentials : Text → Text} {collector : Collector}

/-- The gauges are those of the rows they were set from. -/
structure Follows (maskCredentials : Text → Text) (collector : Collector) : Prop where
  within : collector.written ⊆ collector.rows
  success : ∀ labels, collector.gauges.checkSuccess labels = (collector.written.find? fun row =>
    decide (labelsOf maskCredentials collector.db row = some labels)).map (·.successValue)
  lastExecutionTime : ∀ labels, collector.gauges.checkLastExecutionTime labels = (collector.written.find?
    fun row => decide (labelsOf maskCredentials collector.db row = some labels)).map (·.timestamp)
  httpStatusCode : ∀ labels, collector.gauges.checkHttpStatusCode labels = some 1 ↔
    ∃ row ∈ collector.written, httpLabelsOf maskCredentials collector.db row = some labels

/-- A register that is set from one more row. -/
theorem update_find? {ι α ρ : Type} [DecidableEq ι] {label : ρ → Option ι} {value : ρ → α} {register : ι → Option α}
    {written : List ρ} {row : ρ} {l : ι} (isLabel : label row = some l)
    (follows : ∀ k, register k = (written.find? fun row => decide (label row = some k)).map value) (k : ι) :
    Function.update register l (some (value row)) k =
      ((row :: written).find? fun row => decide (label row = some k)).map value := by
  rw [List.find?_cons, isLabel]
  by_cases same : k = l
  · subst same
    simp
  · have other : ¬ some l = some k := fun isSame => same (Option.some.inj isSame).symm
    rw [Function.update_of_ne same, follows, decide_eq_false other]

theorem Follows.update (follows : Follows maskCredentials collector) {agent : Agent} {check : Check}
    {row : ResultRow} (stored : row ∈ collector.rows)
    (isAgent : collector.db.getAgent row.agentId = some agent)
    (isCheck : collector.db.getCheck row.checkId = some check) :
    Follows maskCredentials (collector.update maskCredentials agent (some check) row) := by
  have isLabel : labelsOf maskCredentials collector.db row = some (checkLabels maskCredentials check agent) := by
    simp [labelsOf, isAgent, isCheck]
  have isHttp : httpLabelsOf maskCredentials collector.db row = httpLabels maskCredentials row check agent := by
    simp [httpLabelsOf, isAgent, isCheck]
  refine ⟨List.cons_subset.mpr ⟨stored, follows.within⟩, update_find? isLabel follows.success,
    update_find? isLabel follows.lastExecutionTime, fun labels => ?_⟩
  simp only [Collector.update, updateCheckResult, List.exists_mem_cons_iff, isHttp]
  cases httpLabels maskCredentials row check agent with
  | none => simp [follows.httpStatusCode]
  | some own =>
    dsimp only
    by_cases same : labels = own
    · subst same
      simp
    · have other : ¬ some own = some labels := fun isSame => same (Option.some.inj isSame).symm
      simp [Function.update_of_ne same, follows.httpStatusCode, other]

/-- The tables that labels are read from. -/
theorem labelsOf_congr {db later : Db} (checks : later.checks = db.checks) (agents : later.agents = db.agents)
    (row : ResultRow) : labelsOf maskCredentials later row = labelsOf maskCredentials db row ∧
      httpLabelsOf maskCredentials later row = httpLabelsOf maskCredentials db row := by
  have sameAgent : later.getAgent row.agentId = db.getAgent row.agentId := by rw [Db.getAgent, agents, Db.getAgent]
  have sameCheck : later.getCheck row.checkId = db.getCheck row.checkId := by rw [Db.getCheck, checks, Db.getCheck]
  rw [labelsOf, labelsOf, httpLabelsOf, httpLabelsOf, sameAgent, sameCheck]
  exact ⟨rfl, rfl⟩

/-- More rows, and tables with the same checks and agents. -/
theorem Follows.store (follows : Follows maskCredentials collector) {db : Db} {rows : List ResultRow}
    (checks : db.checks = collector.db.checks) (agents : db.agents = collector.db.agents)
    (more : collector.rows ⊆ rows) : Follows maskCredentials { collector with db, rows } where
  within := List.Subset.trans follows.within more
  success labels := by simpa only [labelsOf_congr checks agents] using follows.success labels
  lastExecutionTime labels := by
    simpa only [labelsOf_congr checks agents] using follows.lastExecutionTime labels
  httpStatusCode labels := by simpa only [labelsOf_congr checks agents] using follows.httpStatusCode labels

/-- Setting gauges from some results in turn. -/
theorem Follows.foldl (follows : Follows maskCredentials collector) {results : List ResultRow}
    (step : Collector → ResultRow → Collector) (stored : results ⊆ collector.rows)
    (sets : ∀ row ∈ results, ∀ current : Collector, current.db = collector.db → step current row = current ∨
      ∃ agent check, collector.db.getAgent row.agentId = some agent ∧
        collector.db.getCheck row.checkId = some check ∧
        step current row = current.update maskCredentials agent (some check) row) :
    Follows maskCredentials (results.foldl step collector) ∧
      (results.foldl step collector).db = collector.db ∧ (results.foldl step collector).rows = collector.rows := by
  induction results generalizing collector with
  | nil => exact ⟨follows, rfl, rfl⟩
  | cons row rest ih =>
    obtain ⟨isStored, stored⟩ := List.cons_subset.mp stored
    obtain ⟨setsRow, sets⟩ := List.forall_mem_cons.mp sets
    rw [List.foldl_cons]
    obtain unset | ⟨agent, check, isAgent, isCheck, isSet⟩ := setsRow collector rfl
    · rw [unset]
      exact ih follows stored sets
    · rw [isSet]
      exact ih (follows.update isStored isAgent isCheck) stored sets

/-- What holds of the process at all times. -/
structure Sound (maskCredentials : Text → Text) (collector : Collector) : Prop where
  follows : Follows maskCredentials collector
  ids : (collector.db.checks.map (·.id)).Nodup
  keys : (collector.rows.map ResultRow.key).Nodup
  stored : collector.db.results = collector.rows.map (·.checkResult)

theorem Sound.foldl (sound : Sound maskCredentials collector) {results : List ResultRow}
    (step : Collector → ResultRow → Collector) (stored : results ⊆ collector.rows)
    (sets : ∀ row ∈ results, ∀ current : Collector, current.db = collector.db → step current row = current ∨
      ∃ agent check, collector.db.getAgent row.agentId = some agent ∧
        collector.db.getCheck row.checkId = some check ∧
        step current row = current.update maskCredentials agent (some check) row) :
    Sound maskCredentials (results.foldl step collector) := by
  obtain ⟨follows, sameDb, sameRows⟩ := sound.follows.foldl step stored sets
  refine ⟨follows, ?_, ?_, ?_⟩
  · rw [sameDb]
    exact sound.ids
  · rw [sameRows]
    exact sound.keys
  · rw [sameDb, sameRows]
    exact sound.stored

theorem latestResults_subset (cutoff : Time) (db : Db) (rows : List ResultRow) :
    latestResults cutoff db rows ⊆ rows :=
  ((List.filter_sublist ..).trans (List.filter_sublist ..)).subset

/-- **Start.** -/
theorem sound_rebuildFromDatabase (maskCredentials : Text → Text) (now : Time) {db : Db} {rows : List ResultRow}
    (ids : (db.checks.map (·.id)).Nodup) (keys : (rows.map ResultRow.key).Nodup)
    (stored : db.results = rows.map (·.checkResult)) :
    Sound maskCredentials (rebuildFromDatabase maskCredentials now db rows) := by
  have empty : Sound maskCredentials { db, rows } :=
    ⟨⟨by simp, by simp, by simp, by simp⟩, ids, keys, stored⟩
  refine empty.foldl _ (latestResults_subset ..) fun row _ current _ => ?_
  cases isAgent : db.getAgent row.agentId with
  | none => exact .inl rfl
  | some agent =>
    cases isCheck : db.getCheck row.checkId with
    | none => exact .inl rfl
    | some check => exact .inr ⟨agent, check, rfl, rfl, rfl⟩

section

variable {readers : Readers} {outside : Outside} {request : Request} {submission : AgentReportSubmission}
  {agent : Agent} {ingested : Ingested}

/-- Inserted rows are of the agent. -/
theorem agentId_of_inserted {db : Db} (taken : TakenIn readers outside request agent submission db ingested)
    {row : ResultRow} (mem : row ∈ ingested.inserted) : row.agentId = agent.id := by
  rw [taken.inserted] at mem
  obtain ⟨entry, isEntry, rfl⟩ := List.mem_map.mp mem
  obtain ⟨reported, -, isEntry, -⟩ := mem_rowsOf (firsts_sublist.subset isEntry)
  obtain ⟨row, isRow, rfl⟩ := Option.map_eq_some_iff.mp isEntry
  obtain ⟨metrics, -, rfl⟩ := Option.map_eq_some_iff.mp isRow
  rfl

/-- **The tables** after a report, before any gauge is set. -/
theorem Sound.takesIn (sound : Sound maskCredentials collector)
    (taken : TakenIn readers outside request agent submission collector.db ingested) :
    Sound maskCredentials
      { collector with db := ingested.db, rows := ingested.inserted.reverse ++ collector.rows } := by
  obtain ⟨logs, isDb⟩ := taken.db_eq
  have resultKeys : collector.db.results.map resultKey = collector.rows.map ResultRow.key := by
    rw [sound.stored, List.map_map]
    rfl
  obtain ⟨nodup, fresh⟩ := @nodup_firsts _ _ _ (fun entry : ResultRow × Time => entry.1.key)
    (collector.db.results.map resultKey) (rowsOf readers outside request agent submission collector.db)
  have insertedKeys : ingested.inserted.map ResultRow.key =
      (newRows readers outside request agent submission collector.db).map (·.1.key) := by
    rw [taken.inserted, List.map_map]
    rfl
  refine ⟨sound.follows.store ?_ ?_ (List.subset_append_right ..), ?_, ?_, ?_⟩
  · rw [isDb]
    rfl
  · rw [isDb]
    rfl
  · rw [isDb]
    exact sound.ids
  · rw [List.map_append, List.map_reverse, insertedKeys, List.nodup_append']
    refine ⟨List.nodup_reverse.mpr nodup, sound.keys, fun key isNew isOld => ?_⟩
    obtain ⟨entry, isEntry, rfl⟩ := List.mem_map.mp (List.mem_reverse.mp isNew)
    exact fresh entry isEntry (resultKeys ▸ isOld)
  · rw [isDb, taken.inserted, List.map_append, ← sound.stored, List.map_reverse, List.map_map]
    rfl

/-- **A step.** -/
theorem Sound.processReport (sound : Sound maskCredentials collector) (readers : Readers) (outside : Outside)
    (request : Request) (submission : AgentReportSubmission) :
    Sound maskCredentials (processReport maskCredentials readers outside request submission collector) := by
  rw [Ingestion.processReport]
  split
  · rename_i agent ingested found processed
    have taken := (processAgentSubmission_takesIn readers outside request found).1 ingested processed
    obtain ⟨logs, isDb⟩ := taken.db_eq
    refine (sound.takesIn taken).foldl _ ?_ fun row mem current _ => ?_
    · exact fun row mem => List.mem_append_left _ (List.mem_reverse.mpr mem)
    cases isCheck : (getReportableChecks outside request.now agent collector.db).find?
        (fun check => decide (check.id = row.checkId)) with
    | none => exact .inl rfl
    | some check =>
      have isAgent : collector.db.getAgent agent.id = some agent := by
        have sameId : agent.id = submission.agentId := by simpa using List.find?_some found
        rw [sameId]
        exact found
      have known : check ∈ collector.db.checks :=
        List.mem_of_mem_filter (List.mem_of_mem_filter (List.mem_of_find?_eq_some isCheck))
      have sameCheck : check.id = row.checkId := by simpa using List.find?_some isCheck
      refine .inr ⟨agent, check, ?_, ?_, rfl⟩
      · rw [agentId_of_inserted taken mem, isDb]
        exact isAgent
      · rw [← sameCheck, isDb]
        exact getCheck_of_mem sound.ids known
  · exact sound

/-- **A run.** -/
theorem Sound.processSubmissions (sound : Sound maskCredentials collector) (readers : Readers)
    (outside : Outside) (reports : List (Request × AgentReportSubmission)) :
    Sound maskCredentials (processSubmissions maskCredentials readers outside reports collector) := by
  induction reports generalizing collector with
  | nil => exact sound
  | cons report rest ih => exact ih (sound.processReport readers outside report.1 report.2)

end

/-! ## The newest results -/

/-- Among stored results, labels tell the series. -/
theorem labelsOf_iff (apart : LabelsApart maskCredentials collector) {row other : ResultRow}
    (mem : row ∈ collector.rows) (isOther : other ∈ collector.rows) {labels : CheckLabels}
    (isLabel : labelsOf maskCredentials collector.db row = some labels) :
    labelsOf maskCredentials collector.db other = some labels ↔ SameSeries row other := by
  constructor
  · exact apart row mem other isOther labels isLabel
  · rintro ⟨sameAgent, sameCheck⟩
    rw [labelsOf, sameAgent, sameCheck]
    exact isLabel

theorem find?_labels (apart : LabelsApart maskCredentials collector)
    (within : collector.written ⊆ collector.rows) {row : ResultRow} (mem : row ∈ collector.rows)
    {labels : CheckLabels} (isLabel : labelsOf maskCredentials collector.db row = some labels) :
    collector.written.find? (fun other => decide (labelsOf maskCredentials collector.db other = some labels)) =
      collector.written.find? fun other => decide (SameSeries row other) :=
  List.find?_congr fun _ isOther => decide_eq_decide.mpr (labelsOf_iff apart mem (within isOther) isLabel)

/-- What the labels of a code are. -/
theorem httpLabelsOf_eq_some {db : Db} {row : ResultRow} {code : HttpLabels} :
    httpLabelsOf maskCredentials db row = some code ↔
      ∃ labels, labelsOf maskCredentials db row = some labels ∧ labels.type = .http ∧
        code.agent = labels.agent ∧ code.check = labels.check ∧ code.target = labels.target ∧
        row.statusCode = some code.code := by
  rw [httpLabelsOf, labelsOf]
  cases db.getAgent row.agentId with
  | none => simp
  | some agent =>
    cases db.getCheck row.checkId with
    | none => simp
    | some check =>
      obtain ⟨codeAgent, codeCheck, codeTarget, codeCode⟩ := code
      simp only [Option.bind_some, Option.map_some, httpLabels, checkLabels, Option.some.injEq,
        exists_eq_left', ite_eq_iff, Option.map_eq_some_iff, HttpLabels.mk.injEq, reduceCtorEq, and_false, or_false]
      constructor
      · rintro ⟨isHttp, n, isCode, rfl, rfl, rfl, rfl⟩
        exact ⟨isHttp, rfl, rfl, rfl, isCode⟩
      · rintro ⟨isHttp, rfl, rfl, rfl, isCode⟩
        exact ⟨isHttp, codeCode, isCode, rfl, rfl, rfl, rfl⟩

/-- Of a result's series, those with its code's labels for another code carry that code. -/
theorem httpLabelsOf_iff (apart : LabelsApart maskCredentials collector) {row other : ResultRow}
    (mem : row ∈ collector.rows) (isOther : other ∈ collector.rows) {code : HttpLabels}
    (isCode : httpLabelsOf maskCredentials collector.db row = some code) (n : Int) :
    httpLabelsOf maskCredentials collector.db other = some { code with code := n } ↔
      SameSeries row other ∧ other.statusCode = some n := by
  obtain ⟨⟨agent, check, type, target⟩, isLabel, isHttp, sameAgent, sameCheck, sameTarget, -⟩ :=
    httpLabelsOf_eq_some.mp isCode
  rw [← labelsOf_iff apart mem isOther isLabel, httpLabelsOf_eq_some]
  constructor
  · rintro ⟨⟨_, _, _, _⟩, isOtherLabel, otherHttp, otherAgent, otherCheck, otherTarget, otherCode⟩
    refine ⟨isOtherLabel.trans ?_, otherCode⟩
    simp_all
  · rintro ⟨isOtherLabel, otherCode⟩
    exact ⟨_, isOtherLabel, isHttp, sameAgent, sameCheck, sameTarget, otherCode⟩

/-- **Series.** Gauges that follow what was written mirror the newest results when
it was written in order. -/
theorem Sound.mirrors_iff_orderly (sound : Sound maskCredentials collector)
    (apart : LabelsApart maskCredentials collector) :
    Mirrors maskCredentials collector ↔ Orderly maskCredentials collector := by
  obtain ⟨follows, -, keys, -⟩ := sound
  refine forall_congr' fun row => forall_congr' fun newest => ?_
  have codes {code : HttpLabels} (isCode : httpLabelsOf maskCredentials collector.db row = some code) (n : Int) :
      collector.gauges.checkHttpStatusCode { code with code := n } = some 1 ↔
        ∃ other ∈ collector.written, SameSeries row other ∧ other.statusCode = some n := by
    rw [follows.httpStatusCode]
    exact exists_congr fun other => and_congr_right fun isOther =>
      httpLabelsOf_iff apart newest.1 (follows.within isOther) isCode n
  constructor
  · intro mirrors known
    obtain ⟨labels, isLabel⟩ := Option.isSome_iff_exists.mp known
    obtain ⟨-, lastTime, codeSet⟩ := mirrors labels isLabel
    rw [follows.lastExecutionTime, find?_labels apart follows.within newest.1 isLabel,
      Option.map_eq_some_iff] at lastTime
    obtain ⟨last, isLast, sameTime⟩ := lastTime
    have isSeries : SameSeries row last := by simpa using List.find?_some isLast
    have sameKey : last.key = row.key := Prod.ext isSeries.2 sameTime
    have same : last = row :=
      List.inj_on_of_nodup_map keys (follows.within (List.mem_of_find?_eq_some isLast)) newest.1 sameKey
    refine ⟨same ▸ isLast, fun code isCode other isOther ofSeries n isN => ?_⟩
    exact (codeSet code isCode n).mp ((codes isCode n).mpr ⟨other, isOther, ofSeries, isN⟩)
  · intro orderly labels isLabel
    obtain ⟨isLast, ofCode⟩ := orderly (isLabel ▸ rfl)
    refine ⟨?_, ?_, fun code isCode n => (codes isCode n).trans ⟨?_, ?_⟩⟩
    · rw [follows.success, find?_labels apart follows.within newest.1 isLabel, isLast]
      rfl
    · rw [follows.lastExecutionTime, find?_labels apart follows.within newest.1 isLabel, isLast]
      rfl
    · rintro ⟨other, isOther, ofSeries, isN⟩
      exact ofCode code isCode other isOther ofSeries n isN
    · rintro rfl
      obtain ⟨_, _, _, _, _, _, isOwn⟩ := httpLabelsOf_eq_some.mp isCode
      exact ⟨row, List.mem_of_find?_eq_some isLast, ⟨rfl, rfl⟩, isOwn⟩

def website : Db where
  agents := [reporter]
  checks :=
    [{ id := 2
       agentId := 1
       displayName := text "web"
       checkType := .http
       target := text "http://web"
       createdAt := 0 }]

/-- A result of the website's check. -/
def webReport (second resultId : Nat) (success : Bool) (code : Int) : Request × AgentReportSubmission :=
  (evening, ⟨1, none, [[(fieldKey "timestamp", .int second),
    (fieldKey "success", .bool success),
    (fieldKey "check_id", .str (Uuid.ofId 2).str),
    (fieldKey "result_id", .str (Uuid.ofId resultId).str),
    (fieldKey "display_name", .str (text "web")),
    (fieldKey "check_type", .str (text "http")),
    (fieldKey "target", .str (text "http://web")),
    (fieldKey "http_status_code", .int code)]]⟩)

/-- The process, started on no results, after some reports on the website. -/
def watched (reports : List (Request × AgentReportSubmission)) : Collector :=
  processSubmissions id secondsOnly calm reports (rebuildFromDatabase id (seconds 1700000000) website [])

theorem labelsApart_of_series (series : ∀ row ∈ collector.rows, ∀ other ∈ collector.rows, SameSeries row other) :
    LabelsApart maskCredentials collector :=
  fun row mem other isOther _ _ _ => series row mem other isOther

/-- A failure that is replayed after a newer success. -/
def replayed : Collector := watched [webReport 1700000030 8 true 200, webReport 1700000000 9 false 200]

/-- A success, then a failure with another code. -/
def failed : Collector := watched [webReport 1700000000 8 true 200, webReport 1700000030 9 false 500]

/-- The labels of the website's check. -/
def webLabels : CheckLabels := ⟨(Uuid.ofId 1).str, text "web", .http, text "http://web"⟩

/-- The gauge does not show the newest result after the late failure. -/
theorem replayed_shows :
    (∀ row ∈ replayed.rows, ∀ other ∈ replayed.rows, SameSeries row other) ∧
      ∃ row ∈ replayed.rows, (∀ other ∈ replayed.rows, SameSeries row other → other.timestamp ≤ row.timestamp) ∧
        labelsOf id replayed.db row = some webLabels ∧
          replayed.gauges.checkSuccess webLabels ≠ some row.successValue := by
  decide +kernel

/-- The series of the first code is still set after the failure with the other. -/
theorem failed_shows :
    (∀ row ∈ failed.rows, ∀ other ∈ failed.rows, SameSeries row other) ∧
      ∃ row ∈ failed.rows, (∀ other ∈ failed.rows, SameSeries row other → other.timestamp ≤ row.timestamp) ∧
        labelsOf id failed.db row = some webLabels ∧
          httpLabelsOf id failed.db row = some ⟨webLabels.agent, webLabels.check, webLabels.target, 500⟩ ∧
            failed.gauges.checkHttpStatusCode ⟨webLabels.agent, webLabels.check, webLabels.target, 200⟩ = some 1 := by
  decide +kernel

end LuxSwirl.Server.Ingestion
