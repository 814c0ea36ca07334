import LuxSwirl.Agent.Delivery
import LuxSwirl.Agent.Store

/-!
# The reporter

`reporter.py`: a batch is POSTed with retries; what the server refuses for good
becomes a dead letter, what is over the request size limit goes in halves, and
the rest is stored as one pending batch and replayed later.

What the reporter does not decide is in `Surroundings`: what each POST is
answered, when the agent is stopped, and what the clock reads. `Link` counts
the readings and keeps every exchange with the server, so a statement about a
run can say what was sent and answered; nothing in the reporter reads them.

A POST whose body the strict encoder refuses raises before anything is sent.
The handler around it takes that for a network failure, as it does any other
exception there.
-/

namespace LuxSwirl.Agent
open LuxSwirl.Py LuxSwirl.Lib

/-- The settings the reporter reads. -/
structure Config where
  maxRetries : Nat := 3
  enableLocalStorage : Bool := true
  maxFilesPerBatch : Nat := 5
  maxStoredBatches : Nat := 10000
  maxDeadLetters : Nat := 1000
  batchSize : Nat := 500

/-- One POST: the results its body carried and what it got. -/
structure Exchange where
  documents : List Document
  answer : Answer

/-- What the reporter runs in. -/
structure Surroundings where
  config : Config
  /-- The answer to a POST of `documents` after the given exchanges. -/
  server : List Exchange → List Document → Answer
  /-- Whether the n-th look at the running flag finds the agent stopped. -/
  stopped : Nat → Bool
  /-- What the n-th reading of the clock gives. -/
  time : Nat → Time
  /-- How deep a body may nest before the decoder gives up. -/
  nesting : Nat
  /-- The log redactor. -/
  scrubText : Text → Text

/-- The reporter's counters. -/
structure Metrics where
  batchesSent : Nat := 0
  resultsSent : Nat := 0
  sendFailures : Nat := 0
  lastBatchSize : Nat := 0

/-- The side of the reporter that talks to the server. -/
structure Link where
  exchanges : List Exchange := []
  looks : Nat := 0
  readings : Nat := 0
  lastSentTime : Time := 0
  metrics : Metrics := {}

/-- The reporter, its database and the rows a size refusal holds. -/
structure World where
  link : Link
  db : Db
  sizeHeld : List Nat := []

namespace Link

/-- A look at the running flag. -/
def isStopped (env : Surroundings) (link : Link) : Bool × Link :=
  (env.stopped link.looks, { link with looks := link.looks + 1 })

/-- A reading of the clock. -/
def now (env : Surroundings) (link : Link) : Time × Link :=
  (env.time link.readings, { link with readings := link.readings + 1 })

def record (documents : List Document) (answer : Answer) (link : Link) : Link :=
  { link with exchanges := link.exchanges ++ [{ documents, answer }] }

def countFailure (link : Link) : Link :=
  { link with metrics := { link.metrics with sendFailures := link.metrics.sendFailures + 1 } }

/-- What a 2xx leaves in the reporter's state. -/
def countSent (env : Surroundings) (size : Nat) (link : Link) : Link :=
  let (now, link) := link.now env
  { link with
    lastSentTime := now
    metrics := { link.metrics with
      batchesSent := link.metrics.batchesSent + 1
      resultsSent := link.metrics.resultsSent + size
      lastBatchSize := size } }

end Link

/-! ## One POST -/

/-- The outcome of a POST, the last HTTP status and the server's error detail. -/
structure Posted where
  outcome : Delivery
  status : Option Nat := none
  detail : Text := []

/-- Where one try of a POST leaves the retry loop. -/
inductive Attempt where
  | done (posted : Posted)
  | failed (status : Option Nat) (detail : Text)

/-- One try: the body of the loop in `_post_batch`, up to its sleep. -/
def tryPost (env : Surroundings) (batch : List Value) (link : Link) :
    Except PyError Attempt × Link :=
  match body batch with
  | none => (.ok (.failed none []), link.countFailure)
  | some documents =>
    let answer := env.server link.exchanges documents
    let link := link.record documents answer
    match answer with
    | .noAnswer => (.ok (.failed none []), link.countFailure)
    | .response status text =>
      let detail := errorDetail env.scrubText text
      match classifyResponse env.nesting status text with
      | .error e => (.error e, link)
      | .ok .sent => (.ok (.done ⟨.sent, status, []⟩), link.countSent env batch.length)
      | .ok .tooLarge => (.ok (.done ⟨.tooLarge, status, detail⟩), link)
      | .ok .permanent => (.ok (.done ⟨.permanent, status, detail⟩), link.countFailure)
      | .ok .transient => (.ok (.failed status detail), link.countFailure)

/-- The retry loop, with the tries left and the last status and detail. -/
def postLoop (env : Surroundings) (batch : List Value) :
    Nat → Option Nat → Text → Link → Except PyError Posted × Link
  | 0, status, detail, link => (.ok ⟨.transient, status, detail⟩, link)
  | tries + 1, status, detail, link =>
    match link.isStopped env with
    | (true, link) => (.ok ⟨.transient, status, detail⟩, link)
    | (false, link) =>
      match tryPost env batch link with
      | (.error e, link) => (.error e, link)
      | (.ok (.done posted), link) => (.ok posted, link)
      | (.ok (.failed status detail), link) =>
        match link.isStopped env with
        | (true, link) => (.ok ⟨.transient, status, detail⟩, link)
        | (false, link) => postLoop env batch tries status detail link

/-- POST a batch, retrying transient failures up to `max_retries`. -/
def postBatch (env : Surroundings) (batch : List Value) (link : Link) :
    Except PyError Posted × Link :=
  let (_, link) := link.now env
  postLoop env batch env.config.maxRetries none [] link

/-! ## Keeping what was not sent -/

/-- Insert a refused batch into `dead_letters` and enforce the cap. A batch that
`json.dumps` refuses is only logged. -/
def deadLetterBatch (env : Surroundings) (batch : List Value) (statusCode : Nat) (detail : Text)
    (createdAt : Option Time) (w : World) : World :=
  if env.config.enableLocalStorage then
    let (now, link) := w.link.now env
    match dumps batch with
    | none => { w with link }
    | some documents =>
      let letter : DeadLetter :=
        { createdAt := createdAt.getD now, failedAt := now, statusCode, responseBody := detail,
          batchSize := batch.length, payload := some documents }
      { w with
        link
        db := { w.db with
          deadLetters := insertDeadLetter env.config.maxDeadLetters letter w.db.deadLetters } }
  else w

/-- Store a batch of results for later sending, as one pending row. A batch that
`json.dumps` refuses is dropped. -/
def storeBatchToDb (env : Surroundings) (batch : List Value) (w : World) : World :=
  if env.config.enableLocalStorage then
    let (now, link) := w.link.now env
    match dumps batch with
    | none => { w with link }
    | some documents =>
      let row : PendingBatch :=
        { createdAt := now, batchSize := batch.length, payload := some documents }
      { w with
        link
        db := { w.db with
          pending := insertPending env.config.maxStoredBatches row w.db.pending } }
  else w

/-! ## Sending in parts -/

/-- `batch` cut in two, in order. -/
def halves (batch : List Value) : List (List Value) :=
  let mid := batch.length / 2
  [batch.take mid, batch.drop mid]

/-- What the split of a batch has come to. -/
structure Split where
  untried : List Value := []
  refused : List Value := []
  sent : Nat := 0
  stop : Option Delivery := none
  permanent : Bool := false

/-- How much of the split a part may still take: its own POST and those of the
parts it is cut into. -/
def partWeight (part : List Value) : Nat := max 1 (2 * part.length - 1)

theorem partWeight_halves {part : List Value} (long : 1 < part.length) :
    ((halves part).map partWeight).sum < partWeight part := by
  simp only [halves, partWeight, List.map_cons, List.map_nil, List.sum_cons, List.sum_nil,
    List.length_take, List.length_drop]
  omega

theorem partWeight_pos (part : List Value) : 0 < partWeight part :=
  Nat.lt_of_lt_of_le Nat.zero_lt_one (Nat.le_max_left ..)

/-- The work loop of `_send_in_parts`. -/
def sendParts (env : Surroundings) (createdAt : Option Time) :
    List (List Value) → Split → World → Except PyError Split × World
  | [], split, w => (.ok split, w)
  | part :: work, split, w =>
    if split.stop.isSome then
      sendParts env createdAt work { split with untried := split.untried ++ part } w
    else
      match postBatch env part w.link with
      | (.error e, link) => (.error e, { w with link })
      | (.ok posted, link) =>
        let w := { w with link }
        match posted.outcome, posted.status with
        | .sent, _ => sendParts env createdAt work { split with sent := split.sent + part.length } w
        | .permanent, some status =>
          sendParts env createdAt work { split with permanent := true }
            (deadLetterBatch env part status posted.detail createdAt w)
        | .tooLarge, _ =>
          if _long : part.length > 1 then sendParts env createdAt (halves part ++ work) split w
          else
            let refused := split.refused ++ part
            let stop := if refused.length ≥ 2 ∧ split.sent = 0 then some .tooLarge else none
            sendParts env createdAt work { split with refused, stop } w
        | _, _ =>
          sendParts env createdAt work
            { split with untried := split.untried ++ part, stop := some .transient } w
termination_by work => (work.map partWeight).sum
decreasing_by
  all_goals
    simp only [List.map_cons, List.map_append, List.sum_cons, List.sum_append]
    have positive := partWeight_pos part
  · omega
  · omega
  · omega
  · have shrinks := partWeight_halves _long
    omega
  · omega
  · omega

/-- Send a batch the request size limit refused in halves, each split again
while still refused. Returns the results not sent: untried, then refused. -/
def sendInParts (env : Surroundings) (batch : List Value) (createdAt : Option Time) (w : World) :
    Except PyError (Delivery × List Value) × World :=
  if batch.length = 1 then (.ok (.tooLarge, batch), w)
  else
    match sendParts env createdAt (halves batch) {} w with
    | (.error e, w) => (.error e, w)
    | (.ok split, w) =>
      let unsent := split.untried ++ split.refused
      if split.stop = some .transient then (.ok (.transient, unsent), w)
      else if unsent ≠ [] then (.ok (.tooLarge, unsent), w)
      else (.ok (if split.permanent then .permanent else .sent, unsent), w)

/-! ## Sending a batch -/

/-- POST a batch; whatever the server does not take is stored or dead-lettered. -/
def deliver (env : Surroundings) (batch : List Value) (w : World) : Except PyError Delivery × World :=
  match postBatch env batch w.link with
  | (.error e, link) => (.error e, { w with link })
  | (.ok posted, link) =>
    let w := { w with link }
    match posted.outcome, posted.status with
    | .sent, _ => (.ok .sent, w)
    | .permanent, some status =>
      (.ok .permanent, deadLetterBatch env batch status posted.detail none w)
    | .tooLarge, _ =>
      match sendInParts env batch none w with
      | (.error e, w) => (.error e, w)
      | (.ok (outcome, unsent), w) =>
        (.ok outcome, if unsent ≠ [] then storeBatchToDb env unsent w else w)
    | outcome, _ => (.ok outcome, if batch ≠ [] then storeBatchToDb env batch w else w)

/-- Send a batch of results to the server; true when all of it was sent. -/
def sendBatch (env : Surroundings) (batch : List Value) (w : World) : Except PyError Bool × World :=
  if batch = [] then (.ok true, w)
  else
    match deliver env batch w with
    | (.error e, w) => (.error e, w)
    | (.ok outcome, w) => (.ok (outcome = .sent), w)

/-! ## Scripted surroundings -/

/-- The default settings, an agent that is not stopped and a clock that ticks:
the POSTs get `answers` in order, and nothing once these are used up. -/
def scripted (answers : List Answer) : Surroundings where
  config := {}
  server exchanges _ := answers.getD exchanges.length .noAnswer
  stopped _ := false
  time n := n
  nesting := 100
  scrubText := id

/-- A reporter that has stored nothing. -/
def fresh : World where
  link := {}
  db := { pending := .empty, deadLetters := .empty }

end LuxSwirl.Agent
