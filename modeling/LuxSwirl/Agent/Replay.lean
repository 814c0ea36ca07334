import LuxSwirl.Agent.Reporter

/-!
# Replaying stored batches

One pass reads the oldest pending rows, puts them together into groups of at
most `batch_size` results and POSTs each group. A group refused for good or for
its size is tried again row by row: a row the server takes is deleted, one it
refuses for good moves to `dead_letters`, and one over the size limit goes in
halves, what is left of it rewritten in place. A transient failure ends the
pass.
-/

namespace LuxSwirl.Agent
open LuxSwirl.Py LuxSwirl.Lib

/-- What a replay step comes to: whether the pass goes on. -/
abbrev Replayed := Except PyError Bool × World

namespace World

/-- A look at the running flag. -/
def isStopped (env : Surroundings) (w : World) : Bool × World :=
  let (stopped, link) := w.link.isStopped env
  (stopped, { w with link })

/-- Fetch the pending batches to replay. Corrupt rows are deleted; when only
rows a size refusal held are left, those are read again. -/
def processStoredReports (env : Surroundings) (w : World) : List StoredBatch × World :=
  let read := fun sizeHeld => w.db.readPending sizeHeld env.config.maxFilesPerBatch
  let (rows, sizeHeld) :=
    if read w.sizeHeld = [] ∧ w.sizeHeld ≠ [] then (read [], []) else (read w.sizeHeld, w.sizeHeld)
  (storedBatches rows,
    { w with
      sizeHeld
      db := { w.db with pending := w.db.pending.deleteIds (corruptIds rows) } })

def deleteStoredBatch (rowId : Nat) (w : World) : World :=
  { w with db := w.db.deleteStoredBatch rowId }

def rewriteStoredBatch (rowId : Nat) (checks : List Document) (w : World) : World :=
  { w with db := w.db.rewriteStoredBatch rowId checks }

def moveToDeadLetters (env : Surroundings) (rowId : Nat) (statusCode : Nat) (detail : Text)
    (w : World) : World :=
  let (failedAt, link) := w.link.now env
  { w with
    link
    db := w.db.moveToDeadLetters env.config.maxDeadLetters rowId failedAt statusCode detail }

/-- Later reads go past the row. -/
def holdForSize (rowId : Nat) (w : World) : World := { w with sizeHeld := rowId :: w.sizeHeld }

end World

/-- What becomes of a row once its results went in parts: deleted when none is
left, rewritten in place when they are fewer or in another order. -/
def World.keepUnsent (stored : StoredBatch) (unsent : List Value) (w : World) : World :=
  if unsent = [] then w.deleteStoredBatch stored.rowId
  else if unsent ≠ loads stored.checks then
    match dumps unsent with
    | some left => w.rewriteStoredBatch stored.rowId left
    | none => w
  else w

/-- A single row over the size limit: send it in halves and keep what is left. -/
def replayInParts (env : Surroundings) (stored : StoredBatch) (w : World) : Replayed :=
  match sendInParts env (loads stored.checks) (some stored.createdAt) w with
  | (.error e, w) => (.error e, w)
  | (.ok (got, unsent), w) =>
    let w := w.keepUnsent stored unsent
    (.ok (got ≠ .transient), if got = .tooLarge then w.holdForSize stored.rowId else w)

/-- The rows of a refused group one by one, until one ends the pass. -/
def replayEach (env : Surroundings) (replayOne : StoredBatch → World → Replayed) :
    List StoredBatch → World → Replayed
  | [], w => (.ok true, w)
  | stored :: rest, w =>
    match w.isStopped env with
    | (true, w) => (.ok false, w)
    | (false, w) =>
      match replayOne stored w with
      | (.ok true, w) => replayEach env replayOne rest w
      | stop => stop

/-- `_replay_group`, its call for a group of one given. -/
def settleGroup (env : Surroundings) (replayOne : StoredBatch → World → Replayed)
    (group : List StoredBatch) (w : World) : Replayed :=
  match postBatch env (loads (group.flatMap (·.checks))) w.link with
  | (.error e, link) => (.error e, { w with link })
  | (.ok posted, link) =>
    let w := { w with link }
    match posted.outcome, posted.status, group with
    | .sent, _, group => (.ok true, group.foldl (fun w stored => w.deleteStoredBatch stored.rowId) w)
    | .tooLarge, _, [stored] => replayInParts env stored w
    | .transient, _, _ => (.ok false, w)
    | _, none, _ => (.ok false, w)
    | _, some status, [stored] =>
      (.ok true, w.moveToDeadLetters env stored.rowId status posted.detail)
    | _, some _, group => replayEach env replayOne group w

/-- Replay one stored batch. A group of one is never taken apart. -/
def replayOne (env : Surroundings) (stored : StoredBatch) (w : World) : Replayed :=
  settleGroup env (fun _ w => (.ok true, w)) [stored] w

/-- Replay stored batches as one combined POST; false ends the pass. -/
def replayGroup (env : Surroundings) (group : List StoredBatch) (w : World) : Replayed :=
  settleGroup env (replayOne env) group w

/-- Replay one fetch of stored batches, combined up to `batch_size` per POST,
from the group and its size collected so far. -/
def replayPending (env : Surroundings) :
    List StoredBatch → List StoredBatch → Nat → World → Except PyError Unit × World
  | [], group, _, w =>
    if group = [] then (.ok (), w)
    else
      match w.isStopped env with
      | (true, w) => (.ok (), w)
      | (false, w) =>
        match replayGroup env group w with
        | (.error e, w) => (.error e, w)
        | (.ok _, w) => (.ok (), w)
  | stored :: rest, group, size, w =>
    match w.isStopped env with
    | (true, w) => (.ok (), w)
    | (false, w) =>
      if group ≠ [] ∧ size + stored.checks.length > env.config.batchSize then
        match replayGroup env group w with
        | (.error e, w) => (.error e, w)
        | (.ok false, w) => (.ok (), w)
        | (.ok true, w) => replayPending env rest [stored] stored.checks.length w
      else replayPending env rest (group ++ [stored]) (size + stored.checks.length) w

/-- One pass of the background replay. What it raises is logged. -/
def replayPass (env : Surroundings) (w : World) : World :=
  match w.processStoredReports env with
  | ([], w) => w
  | (pending, w) =>
    match w.isStopped env with
    | (true, w) => w
    | (false, w) => (replayPending env pending [] 0 w).2

end LuxSwirl.Agent
