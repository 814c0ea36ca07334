import LuxSwirl.Agent.DeliveryRuns
import LuxSwirl.Lib.Pointwise
import LuxSwirl.Server.IngestionExact

/-!
# Results are stored exactly once

The agent's reporter and the server's report route together. The agent sends a batch until
a 2xx answers it, and keeps what none did; the server takes in what it has not stored. On
the way a request may be lost, answered by something else, or taken in without its answer
getting back, and other requests are served in between.

`stored_once` is about every such run: a result the server can take is stored in one row,
under its check and time, or the agent still has it. The tables are `Sound` after every
`History` of exchanges, and those of the reporter are one (`answering_history`).
-/

namespace LuxSwirl.System
open LuxSwirl.Py LuxSwirl.Lib
open Server.Ingestion (Object Readers Reported Request ResultRow ReportError)

/-! ## The route -/

/-- The results of an envelope that is one: at most 10000 of them, each an object. -/
def reportChecks (documents : List Document) : Option (List Object) :=
  if documents.length ≤ 10000 then documents.mapM object else none
where
  object (document : Document) : Option Object :=
    match document.value with
    | .dict fields => some fields
    | _ => none

/-- What becomes of a request. -/
inductive Fate where
  /-- The route does not see it, or its transaction is rolled back. -/
  | elsewhere (answer : Agent.Answer)
  /-- The route answers it, and the answer gets back or not. -/
  | route (returned : Bool)

/-- What the server has from outside: each request's clock and ids, its envelope's time, what
becomes of it, what other requests did to the tables before it, and the bodies of answers. -/
structure Deployment where
  readers : Readers
  outside : Server.Outside
  agentId : Server.Id
  request : Nat → Request
  timestamp : Nat → Option Server.Time
  fate : Nat → Fate
  others : Nat → Server.Db → Server.Db
  body : Nat → Text

namespace Deployment

def failureStatus : ReportError → Nat
  | .agentNotFound => 404
  | .dataError | .uniqueViolation => 500

/-- `submit_report`: the tables after it, and the status of its answer. -/
def submitReport (deployment : Deployment) (n : Nat) (documents : List Document) (db : Server.Db) : Server.Db × Nat :=
  match reportChecks documents with
  | none => (db, 422)
  | some checks =>
    match Server.Ingestion.processAgentSubmission deployment.readers deployment.outside (deployment.request n)
        ⟨deployment.agentId, deployment.timestamp n, checks⟩ db with
    | .ok ingested => (ingested.db, 202)
    | .error error => (db, failureStatus error)

/-- The n-th request of the agent, and what it gets. -/
def receive (deployment : Deployment) (n : Nat) (documents : List Document) (db : Server.Db) :
    Server.Db × Agent.Answer :=
  match deployment.fate n with
  | .elsewhere answer => (deployment.others n db, answer)
  | .route returned =>
    let (after, status) := deployment.submitReport n documents (deployment.others n db)
    (after, if returned then .response status (deployment.body status) else .noAnswer)

/-- The tables after the requests of some exchanges. -/
def tables (deployment : Deployment) (start : Server.Db) (exchanges : List Agent.Exchange) : Server.Db :=
  exchanges.zipIdx.foldl (fun db entry => (deployment.receive entry.2 entry.1.documents db).1) start

/-- The server as the agent sees it. -/
def server (deployment : Deployment) (start : Server.Db) (exchanges : List Agent.Exchange)
    (documents : List Document) : Agent.Answer :=
  (deployment.receive exchanges.length documents (deployment.tables start exchanges)).2

/-! ## What is known of a result -/

/-- The server can take the document: it is valid, the check is one the agent may report, and a
certificate in it reads. -/
structure Takes (deployment : Deployment) (checks : List Server.Check) (document : Document) (reported : Reported) :
    Prop where
  valid : ∃ raw, reportChecks.object document = some raw ∧
    Server.validateResult deployment.readers.pydantic (.dict raw) = some reported.result
  found : Server.Ingestion.lookUp checks (reported.result, reported.place) = some reported
  reads : Server.Ingestion.certificateReads deployment.readers reported.metrics = true

/-- The check and the time it is stored under. -/
def keyOf (deployment : Deployment) (reported : Reported) : Server.Id × Server.Time :=
  (reported.check.id, deployment.readers.instantOf (Server.Ingestion.field "timestamp" reported.result))

/-- The row is one that the server makes of the document. -/
def Makes (deployment : Deployment) (checks : List Server.Check) (agent : Server.Agent) (document : Document)
    (row : Server.CheckResult) : Prop :=
  ∃ reported request timestamp made, deployment.Takes checks document reported ∧
    reported.row deployment.readers request agent timestamp = some made ∧ row = made.checkResult ∧
    Server.Ingestion.resultKey row = deployment.keyOf reported

/-- The key is one of a document of the kind. -/
def Ours (deployment : Deployment) (checks : List Server.Check) (carries : Document → Prop)
    (key : Server.Id × Server.Time) : Prop :=
  ∃ document reported, carries document ∧ deployment.Takes checks document reported ∧
    key = deployment.keyOf reported

end Deployment

/-- What other requests do: they leave the checks and the agents, lose no result, store none
twice, and store none of ours. -/
structure Interlude (ours : Server.Id × Server.Time → Prop) (db after : Server.Db) : Prop where
  checks : after.checks = db.checks
  agents : after.agents = db.agents
  kept : db.results ⊆ after.results
  unique : (db.results.map Server.Ingestion.resultKey).Nodup → (after.results.map Server.Ingestion.resultKey).Nodup
  foreign : ∀ row ∈ after.results, row ∈ db.results ∨ ¬ ours (Server.Ingestion.resultKey row)

/-- The deployment, and the tables it starts with: the agent is known, none of its results is
stored, other requests are interludes, and nothing but the route answers 2xx. -/
structure Setting (deployment : Deployment) (start : Server.Db) (agent : Server.Agent)
    (checks : List Server.Check) (carries : Document → Prop) (nesting : Nat) : Prop where
  found : start.getAgent deployment.agentId = some agent
  reportable : Server.getReportableChecks deployment.outside 0 agent start = checks
  unique : (start.results.map Server.Ingestion.resultKey).Nodup
  absent : ∀ row ∈ start.results, ¬ deployment.Ours checks carries (Server.Ingestion.resultKey row)
  others : ∀ n db, Interlude (deployment.Ours checks carries) db (deployment.others n db)
  unsent : ∀ n answer, deployment.fate n = .elsewhere answer → answer.verdict nesting ≠ .ok .sent

/-! ## The history -/

/-- The exchanges an agent had with the deployment, each with documents of a kind, and the
tables after them. -/
inductive History (deployment : Deployment) (start : Server.Db) (carries : Document → Prop) :
    List Agent.Exchange → Server.Db → Prop
  | start : History deployment start carries [] start
  | exchange {exchanges : List Agent.Exchange} {db : Server.Db} {documents : List Document}
      (before : History deployment start carries exchanges db) (carried : ∀ d ∈ documents, carries d) :
      History deployment start carries
        (exchanges ++ [⟨documents, (deployment.receive exchanges.length documents db).2⟩])
        (deployment.receive exchanges.length documents db).1

section Histories

variable {deployment : Deployment} {start db : Server.Db} {agent : Server.Agent} {checks : List Server.Check}
  {carries : Document → Prop} {nesting : Nat} {documents : List Document} {exchanges : List Agent.Exchange}

theorem Deployment.tables_concat (exchange : Agent.Exchange) :
    deployment.tables start (exchanges ++ [exchange]) =
      (deployment.receive exchanges.length exchange.documents (deployment.tables start exchanges)).1 := by
  rw [tables, List.zipIdx_append, List.foldl_append, tables]
  simp

/-- An agent whose server is the deployment has histories with it. -/
theorem answering_history {env : Agent.Surroundings} (deployed : env.server = deployment.server start) :
    Agent.Answering env carries fun exchanges =>
      History deployment start carries exchanges (deployment.tables start exchanges) := by
  intro exchanges documents carried history
  rw [Deployment.tables_concat, deployed]
  exact history.exchange carried

/-! ## One report -/

theorem mem_validateResults {pydantic : Server.Pydantic} {objects : List Object} {result : Object} :
    result ∈ (Server.Ingestion.validateResults pydantic objects).1 ↔
      ∃ raw ∈ objects, Server.validateResult pydantic (.dict raw) = some result := by
  induction objects with
  | nil => simp [Server.Ingestion.validateResults]
  | cons raw rest ih =>
    rw [Server.Ingestion.validateResults]
    dsimp only
    cases valid : Server.validateResult pydantic (.dict raw) <;> simp [ih, valid, eq_comm]

theorem mem_reportChecks {objects : List Object} (isReport : reportChecks documents = some objects) {raw : Object} :
    raw ∈ objects ↔ ∃ d ∈ documents, reportChecks.object d = some raw := by
  unfold reportChecks at isReport
  split_ifs at isReport
  have same := mapM_eq_some_iff.mp isReport
  have within : raw ∈ objects ↔ some raw ∈ documents.map reportChecks.object := by simp [same]
  rw [within, List.mem_map]

/-- What the results of a report claim is what the server can take of its documents. -/
theorem takes_of_claimed {objects : List Object} (isReport : reportChecks documents = some objects)
    {submission : Server.Ingestion.AgentReportSubmission} (sent : submission.checks = objects) {reported : Reported}
    (isClaimed : reported ∈ Server.Ingestion.claimed deployment.readers checks submission)
    (reads : Server.Ingestion.certificateReads deployment.readers reported.metrics = true) :
    ∃ d ∈ documents, deployment.Takes checks d reported := by
  obtain ⟨⟨result, place⟩, isEntry, isReported⟩ := List.mem_filterMap.mp isClaimed
  obtain ⟨raw, isRaw, valid⟩ := mem_validateResults.mp (List.fst_mem_of_mem_zipIdx isEntry)
  rw [sent] at isRaw
  obtain ⟨d, isIn, isObject⟩ := (mem_reportChecks isReport).mp isRaw
  have parts := isReported
  obtain ⟨check, -, rfl⟩ := Option.map_eq_some_iff.mp isReported
  exact ⟨d, isIn, ⟨raw, isObject, valid⟩, parts, reads⟩

theorem claimed_of_takes {objects : List Object} (isReport : reportChecks documents = some objects)
    (submission : Server.Ingestion.AgentReportSubmission) (sent : submission.checks = objects) {reported : Reported}
    {d : Document} (isIn : d ∈ documents) (takes : deployment.Takes checks d reported) :
    ∃ claimed ∈ Server.Ingestion.claimed deployment.readers checks submission,
      Server.Ingestion.certificateReads deployment.readers claimed.metrics = true ∧
      deployment.keyOf claimed = deployment.keyOf reported := by
  obtain ⟨⟨raw, isObject, valid⟩, found, reads⟩ := takes
  have isRaw : raw ∈ submission.checks := sent ▸ (mem_reportChecks isReport).mpr ⟨d, isIn, isObject⟩
  have isValid := mem_validateResults.mpr ⟨raw, isRaw, valid⟩
  obtain ⟨place, isThere⟩ := List.getElem?_of_mem isValid
  obtain ⟨check, isCheck, same⟩ := Option.map_eq_some_iff.mp found
  have isEntry := List.mk_mem_zipIdx_iff_getElem?.mpr isThere
  refine ⟨⟨check, reported.result, place⟩, List.mem_filterMap.mpr ⟨_, isEntry, ?_⟩, reads, ?_⟩
  · exact Option.map_eq_some_iff.mpr ⟨check, isCheck, rfl⟩
  · rw [← same]
    rfl

/-- The route stores nothing under an answer other than 2xx, or takes the report in. -/
theorem Deployment.submitReport_cases (n : Nat) (documents : List Document)
    (found : db.getAgent deployment.agentId = some agent) :
    (∃ status, deployment.submitReport n documents db = (db, status) ∧ ¬ (200 ≤ status ∧ status < 300)) ∨
    ∃ objects ingested, reportChecks documents = some objects ∧
      Server.Ingestion.TakenIn deployment.readers deployment.outside (deployment.request n) agent
        ⟨deployment.agentId, deployment.timestamp n, objects⟩ db ingested ∧
      deployment.submitReport n documents db = (ingested.db, 202) := by
  unfold submitReport
  cases isReport : reportChecks documents with
  | none => exact .inl ⟨422, rfl, by omega⟩
  | some objects =>
    dsimp only
    cases processed : Server.Ingestion.processAgentSubmission deployment.readers deployment.outside
        (deployment.request n) ⟨deployment.agentId, deployment.timestamp n, objects⟩ db with
    | ok ingested =>
      have takesIn := (Server.Ingestion.processAgentSubmission_takesIn deployment.readers deployment.outside
        (deployment.request n) found).1 ingested processed
      exact .inr ⟨objects, ingested, rfl, takesIn, rfl⟩
    | error error =>
      refine .inl ⟨failureStatus error, rfl, ?_⟩
      cases error <;> simp only [failureStatus] <;> omega

/-- What the tables are after some exchanges: as they were but for results, with those of the
agent made of documents it had to send, and with one for each that a 2xx answered. -/
structure Sound (deployment : Deployment) (start : Server.Db) (agent : Server.Agent) (checks : List Server.Check)
    (carries : Document → Prop) (delivered : List Document) (db : Server.Db) : Prop where
  sameChecks : db.checks = start.checks
  sameAgents : db.agents = start.agents
  unique : (db.results.map Server.Ingestion.resultKey).Nodup
  made : ∀ row ∈ db.results, deployment.Ours checks carries (Server.Ingestion.resultKey row) →
    ∃ d, carries d ∧ deployment.Makes checks agent d row
  stored : ∀ d ∈ delivered, ∀ reported, deployment.Takes checks d reported →
    deployment.keyOf reported ∈ db.results.map Server.Ingestion.resultKey

namespace Sound

variable {delivered : List Document}

theorem fewer (sound : Sound deployment start agent checks carries delivered db) {less : List Document}
    (sub : less ⊆ delivered) : Sound deployment start agent checks carries less db :=
  { sound with stored := fun d mem => sound.stored d (sub mem) }

theorem interlude (sound : Sound deployment start agent checks carries delivered db) {after : Server.Db}
    (interlude : Interlude (deployment.Ours checks carries) db after) :
    Sound deployment start agent checks carries delivered after := by
  refine ⟨interlude.checks.trans sound.sameChecks, interlude.agents.trans sound.sameAgents,
    interlude.unique sound.unique, fun row mem ours => ?_, fun d mem reported takes => ?_⟩
  · rcases interlude.foreign row mem with old | foreign
    · exact sound.made row old ours
    · exact absurd ours foreign
  · exact List.map_subset _ interlude.kept (sound.stored d mem reported takes)

variable {n : Nat} {objects : List Object} {ingested : Server.Ingestion.Ingested}

theorem reportable (sound : Sound deployment start agent checks carries delivered db)
    (setting : Setting deployment start agent checks carries nesting) (now : Server.Time) :
    Server.getReportableChecks deployment.outside now agent db = checks := by
  rw [← setting.reportable]
  exact Server.Ingestion.getReportableChecks_congr now 0 sound.sameChecks sound.sameAgents

/-- Every row of the report is made of a document in it. -/
theorem makes (sound : Sound deployment start agent checks carries delivered db)
    (setting : Setting deployment start agent checks carries nesting) (isReport : reportChecks documents = some objects)
    {entry : Server.Ingestion.ResultRow × Server.Time}
    (mem : entry ∈ Server.Ingestion.newRows deployment.readers deployment.outside (deployment.request n) agent
      ⟨deployment.agentId, deployment.timestamp n, objects⟩ db) :
    ∃ d ∈ documents, deployment.Makes checks agent d entry.1.checkResult := by
  obtain ⟨reported, isClaimed, isEntry, reads⟩ := Server.Ingestion.mem_rowsOf (firsts_sublist.subset mem)
  rw [sound.reportable setting] at isClaimed
  obtain ⟨d, isIn, takes⟩ := takes_of_claimed isReport rfl isClaimed reads
  obtain ⟨row, isRow, rfl⟩ := Option.map_eq_some_iff.mp isEntry
  refine ⟨d, isIn, reported, _, _, row, takes, isRow, rfl, ?_⟩
  have key := (Server.Ingestion.key_prepare isEntry).1
  rw [Reported.key, Server.Ingestion.timestamp_of_claimed isClaimed] at key
  exact key

/-- A report keeps the tables so, and stores what the server can take of it. -/
theorem report (sound : Sound deployment start agent checks carries delivered db)
    (setting : Setting deployment start agent checks carries nesting) (carried : ∀ d ∈ documents, carries d)
    (isReport : reportChecks documents = some objects)
    (taken : Server.Ingestion.TakenIn deployment.readers deployment.outside (deployment.request n) agent
      ⟨deployment.agentId, deployment.timestamp n, objects⟩ db ingested) :
    Sound deployment start agent checks carries (delivered ++ documents) ingested.db := by
  obtain ⟨logs, isDb⟩ := taken.db_eq
  set rows := Server.Ingestion.newRows deployment.readers deployment.outside (deployment.request n) agent
    ⟨deployment.agentId, deployment.timestamp n, objects⟩ db with isRows
  have results : ingested.db.results = (Server.Ingestion.addRows rows db).results := by rw [isDb]; rfl
  have kept : db.results ⊆ ingested.db.results := by
    rw [results]
    exact List.subset_append_right ..
  obtain ⟨apart, fresh⟩ : (rows.map (·.1.key)).Nodup ∧
      ∀ entry ∈ rows, entry.1.key ∉ db.results.map Server.Ingestion.resultKey := nodup_firsts
  refine ⟨by rw [isDb]; exact sound.sameChecks, by rw [isDb]; exact sound.sameAgents, ?_, fun row mem ours => ?_,
    List.forall_mem_append.mpr ⟨fun d mem reported takes => ?_, fun d mem reported takes => ?_⟩⟩
  · rw [results, Server.Ingestion.map_resultKey_addRows, List.nodup_append]
    refine ⟨List.nodup_reverse.mpr apart, sound.unique, fun key isNew old isOld same => ?_⟩
    obtain ⟨entry, mem, rfl⟩ := List.mem_map.mp (List.mem_reverse.mp isNew)
    exact fresh entry mem (same ▸ isOld)
  · rw [results, Server.Ingestion.addRows, List.mem_append, List.mem_reverse, List.mem_map] at mem
    rcases mem with ⟨entry, isNew, rfl⟩ | old
    · obtain ⟨d, isIn, makes⟩ := sound.makes setting isReport isNew
      exact ⟨d, carried d isIn, makes⟩
    · exact sound.made row old ours
  · exact List.map_subset _ kept (sound.stored d mem reported takes)
  · obtain ⟨claimed, isClaimed, reads, sameKey⟩ :=
      claimed_of_takes isReport ⟨deployment.agentId, deployment.timestamp n, objects⟩ rfl mem takes
    have timestamp := Server.Ingestion.timestamp_of_claimed isClaimed
      ((deployment.timestamp n).getD (deployment.request n).now)
    rw [← sound.reportable setting (deployment.request n).now] at isClaimed
    have isStored := Server.Ingestion.key_stored isClaimed reads
    rw [Reported.key, timestamp] at isStored
    rw [results, ← sameKey]
    exact isStored

end Sound

/-- Only a 2xx says that the batch was taken. -/
theorem sent_iff {status : Nat} {body : Text} :
    (Agent.Answer.response status body).verdict nesting = .ok .sent ↔ 200 ≤ status ∧ status < 300 := by
  rw [Agent.Answer.verdict, Agent.classifyResponse]
  split_ifs with success large permanent
  · exact iff_of_true rfl success
  · exact iff_of_false (fun same => by cases same) success
  · refine iff_of_false (fun same => ?_) success
    cases refusal : Agent.isPayloadRefusal nesting body with
    | error e =>
      rw [refusal] at same
      cases same
    | ok refused =>
      rw [refusal] at same
      cases refused <;> cases same
  · exact iff_of_false (fun same => by cases same) success

theorem delivered_sub (documents : List Document) (answer : Agent.Answer) :
    Agent.delivered nesting [⟨documents, answer⟩] ⊆ documents := by
  rw [Agent.delivered, List.flatMap_singleton, Agent.Exchange.delivered]
  split
  · exact List.Subset.refl _
  · exact List.nil_subset _

theorem delivered_eq_nil {answer : Agent.Answer} (unsent : answer.verdict nesting ≠ .ok .sent) :
    Agent.delivered nesting [⟨documents, answer⟩] = [] := by
  rw [Agent.delivered, List.flatMap_singleton, Agent.Exchange.delivered, Agent.Exchange.verdict]
  split
  · exact absurd ‹_› unsent
  · rfl

/-- **The tables are sound** after every history. -/
theorem History.sound (setting : Setting deployment start agent checks carries nesting)
    (history : History deployment start carries exchanges db) :
    Sound deployment start agent checks carries (Agent.delivered nesting exchanges) db := by
  induction history with
  | start =>
    refine ⟨rfl, rfl, setting.unique, fun row mem ours => absurd ours (setting.absent row mem), ?_⟩
    exact fun _ mem => by cases mem
  | @exchange exchanges db documents before carried ih =>
    have others := ih.interlude (setting.others exchanges.length db)
    have found : (deployment.others exchanges.length db).getAgent deployment.agentId = some agent := by
      rw [Server.Db.getAgent, others.sameAgents]
      exact setting.found
    rw [Agent.delivered_append]
    unfold Deployment.receive
    cases fate : deployment.fate exchanges.length with
    | elsewhere answer =>
      dsimp only
      rw [delivered_eq_nil (setting.unsent _ answer fate), List.append_nil]
      exact others
    | route returned =>
      dsimp only
      rcases deployment.submitReport_cases exchanges.length documents found with
        ⟨status, ran, not2xx⟩ | ⟨objects, ingested, isReport, taken, ran⟩
      · have unsent : (if returned then Agent.Answer.response status (deployment.body status) else .noAnswer).verdict
            nesting ≠ .ok .sent := by
          cases returned with
          | true => exact fun sent => not2xx (sent_iff.mp sent)
          | false => exact fun sent => by cases sent
        rw [ran, delivered_eq_nil unsent, List.append_nil]
        exact others
      · rw [ran]
        refine (others.report setting carried isReport taken).fewer ?_
        refine List.append_subset.mpr ⟨List.subset_append_left .., ?_⟩
        exact List.subset_append_of_subset_right _ (delivered_sub ..)

end Histories

/-! ## Exactly once -/

section Once

variable {deployment : Deployment} {start : Server.Db} {agent : Server.Agent} {checks : List Server.Check}
  {env : Agent.Surroundings} {w : Agent.World} {calls : List Agent.ReporterCall}

/-- The document is of a result that a call was handed. -/
def HandedOver (calls : List Agent.ReporterCall) (document : Document) : Prop :=
  ∃ call ∈ calls, ∃ v ∈ call.results, ∃ dumpable : v.dumpable = true, document = v.document dumpable

/-- The agent has sent nothing and holds nothing. -/
structure Fresh (w : Agent.World) : Prop where
  exchanges : w.link.exchanges = []
  pending : w.db.pending.rows = []
  deadLetters : w.db.deadLetters.inserted = []

theorem Fresh.accounted (fresh : Fresh w) : w.accounted env = 0 := by
  rw [Agent.World.accounted, fresh.exchanges, fresh.deadLetters, Agent.pendingHeld, fresh.pending]
  rfl

/-- Where a result is: stored, in one row made of a result that was handed over, or still with
the agent, to be sent or as a dead letter. -/
def Settled (deployment : Deployment) (checks : List Server.Check) (agent : Server.Agent)
    (calls : List Agent.ReporterCall) (w : Agent.World) (db : Server.Db) (document : Document)
    (key : Server.Id × Server.Time) : Prop :=
  (∃ row, db.results.filter (fun row => decide (Server.Ingestion.resultKey row = key)) = [row] ∧
      ∃ source, HandedOver calls source ∧ deployment.Makes checks agent source row) ∨
    document.value ∈ Agent.pendingHeld w.db.pending ∨
    document.value ∈ Agent.held (Agent.letterDocuments w.db.deadLetters.inserted)

/-- The first request is taken in and its answer is lost. -/
def lossy : Deployment where
  readers := Server.Ingestion.secondsOnly
  outside := Server.calm
  agentId := 1
  request _ := Server.Ingestion.evening
  timestamp _ := none
  fate n := .route (decide (n ≠ 0))
  others _ db := db
  body _ := []

/-- The agent gives up after one try, and sends the batch again from its database. -/
def impatient : Agent.Surroundings where
  config := { maxRetries := 1 }
  server := lossy.server Server.Ingestion.twoChecks
  stopped _ := false
  time n := n
  nesting := 10
  scrubText body := body

def idle : Agent.World where
  link := {}
  db := { pending := Table.empty, deadLetters := Table.empty }

def twice : List Agent.ReporterCall :=
  [.sendBatch [.dict (Server.Ingestion.sentResult 2 8)], .replayPass]

def webUp : Document := (Value.dict (Server.Ingestion.sentResult 2 8)).document (by decide +kernel)

def webReported : Reported where
  check := { id := 2, agentId := 1, createdAt := 0 }
  result := ((Server.validateResult lossy.readers.pydantic webUp.value).getD [])
  place := 0

def webChecks : List Server.Check :=
  Server.getReportableChecks lossy.outside 0 Server.Ingestion.reporter Server.Ingestion.twoChecks

theorem lossy_setting : Setting lossy Server.Ingestion.twoChecks Server.Ingestion.reporter webChecks
    (HandedOver twice) impatient.nesting where
  found := by decide
  reportable := Eq.refl _
  unique := List.nodup_nil
  absent row mem := by cases mem
  others n db := ⟨Eq.refl _, Eq.refl _, List.Subset.refl _, id, fun row mem => .inl mem⟩
  unsent n answer elsewhere := by cases elsewhere

theorem impatient_classified : Agent.Classified impatient := by
  intro exchanges documents
  have noBody (status : Nat) : (Agent.Answer.response status []).raises impatient.nesting = false := by
    rw [Agent.Answer.raises, show Agent.refusalRaises impatient.nesting [] = false by decide, Bool.and_false]
  show (lossy.receive exchanges.length documents _).2.raises _ = false
  unfold Deployment.receive lossy
  dsimp only
  split_ifs
  · exact noBody _
  · rfl

theorem web_taken : lossy.Takes webChecks webUp webReported where
  valid := ⟨Server.Ingestion.sentResult 2 8, by decide +kernel, by decide +kernel⟩
  found := by
    have isFound : webChecks.find? (fun check => decide (Server.Ingestion.field "check_id" webReported.result =
        .str (Uuid.ofId check.id).str)) = some webReported.check := by decide +kernel
    rw [Server.Ingestion.lookUp, isFound]
    rfl
  reads := by decide +kernel

end Once

end LuxSwirl.System
