import LuxSwirl.Lib.Table
import LuxSwirl.Py.Value
import Mathlib.Data.Rat.Lemmas
import Mathlib.Algebra.Order.Field.Rat

/-!
# The agent's database

Two tables in one SQLite file: `pending_batches`, the batches the server could
not take yet, and `dead_letters`, the ones it refused for good. A payload is
the compressed JSON document of a batch; it is here the documents of the
batch's results, or none for a blob that does not decode.

Both tables are capped. The dead letters lose their lowest ids, the pending
batches the ones stored longest ago.
-/

namespace LuxSwirl.Agent
open LuxSwirl.Py LuxSwirl.Lib

/-- A reading of `time.time()`. -/
abbrev Time := ℚ

/-- A row of `pending_batches`. -/
structure PendingBatch where
  createdAt : Time
  batchSize : Nat
  payload : Option (List Document)

/-- A row of `dead_letters`. -/
structure DeadLetter where
  createdAt : Time
  failedAt : Time
  statusCode : Nat
  responseBody : Text
  batchSize : Nat
  payload : Option (List Document)

/-- A pending batch read back from SQLite for replay. -/
structure StoredBatch where
  rowId : Nat
  createdAt : Time
  checks : List Document

/-- A row's results; none in a row whose blob does not decode. -/
def PendingBatch.documents (batch : PendingBatch) : List Document := batch.payload.getD []

def DeadLetter.documents (letter : DeadLetter) : List Document := letter.payload.getD []

structure Db where
  pending : Table PendingBatch
  deadLetters : Table DeadLetter

/-- Insert one dead letter, then delete the oldest beyond `cap`. -/
def insertDeadLetter (cap : Nat) (letter : DeadLetter) (table : Table DeadLetter) :
    Table DeadLetter :=
  (table.insert letter).keepNewest cap

/-- Insert one pending batch, then prune the ones created first beyond `cap`. -/
def insertPending (cap : Nat) (batch : PendingBatch) (table : Table PendingBatch) :
    Table PendingBatch :=
  let table := table.insert batch
  table.deleteIds (((table.orderBy (·.createdAt)).take (table.rows.length - cap)).map (·.id))

namespace Db

/-- Replace a pending row's results, in place: same row, same `created_at`. -/
def rewriteStoredBatch (rowId : Nat) (checks : List Document) (db : Db) : Db :=
  { db with
    pending := db.pending.update rowId fun batch =>
      { batch with batchSize := checks.length, payload := some checks } }

/-- Delete a pending row. -/
def deleteStoredBatch (rowId : Nat) (db : Db) : Db :=
  { db with pending := db.pending.delete rowId }

/-- Move a pending row to `dead_letters` in one transaction. The row keeps its
`created_at` and its payload as is. -/
def moveToDeadLetters (cap : Nat) (rowId : Nat) (failedAt : Time) (statusCode : Nat)
    (detail : Text) (db : Db) : Db :=
  match db.pending.get? rowId with
  | none => db
  | some batch =>
    { pending := db.pending.delete rowId
      deadLetters := insertDeadLetter cap
        { createdAt := batch.createdAt, failedAt, statusCode, responseBody := detail,
          batchSize := batch.batchSize, payload := batch.payload } db.deadLetters }

/-- The oldest pending rows not held by a size refusal. -/
def readPending (sizeHeld : List Nat) (limit : Nat) (db : Db) : List (Row PendingBatch) :=
  ((db.pending.orderBy (·.createdAt)).filter fun row => decide (row.id ∉ sizeHeld)).take limit

end Db

/-- The rows read that decode, ready to send. -/
def storedBatches (rows : List (Row PendingBatch)) : List StoredBatch :=
  rows.filterMap fun row =>
    row.data.payload.map fun checks =>
      { rowId := row.id, createdAt := row.data.createdAt, checks }

/-- The ids of the rows read that do not decode. -/
def corruptIds (rows : List (Row PendingBatch)) : List Nat :=
  (rows.filter fun row => row.data.payload.isNone).map (·.id)

/-- The batches read are the rows that decode, in the order read. -/
theorem map_rowId_storedBatches (rows : List (Row PendingBatch)) :
    (storedBatches rows).map (·.rowId) =
      (rows.filter fun row => row.data.payload.isSome).map (·.id) := by
  induction rows with
  | nil => rfl
  | cons row rest ih =>
    rw [storedBatches] at ih ⊢
    cases payload : row.data.payload with
    | none => simp [payload, ih]
    | some checks => simp [payload, ih]

/-- The table keeps the newest letters. -/
theorem rows_insertDeadLetter (cap : Nat) (letter : DeadLetter) (table : Table DeadLetter) :
    (insertDeadLetter cap letter table).rows =
      (table.rows ++ [(⟨table.inserted.length, letter⟩ : Row DeadLetter)]).drop (table.rows.length + 1 - cap) := by
  simp [insertDeadLetter, Table.rows_keepNewest, Table.insert]

@[simp] theorem inserted_insertDeadLetter (cap : Nat) (letter : DeadLetter)
    (table : Table DeadLetter) :
    (insertDeadLetter cap letter table).inserted = table.inserted ++ [letter] := by
  simp [insertDeadLetter]

@[simp] theorem inserted_insertPending (cap : Nat) (batch : PendingBatch)
    (table : Table PendingBatch) :
    (insertPending cap batch table).inserted = table.inserted ++ [batch] := by
  simp [insertPending]

/-- Below the cap a new pending batch costs no other row. -/
theorem insertPending_of_lt {cap : Nat} {batch : PendingBatch} {table : Table PendingBatch}
    (room : table.rows.length < cap) : insertPending cap batch table = table.insert batch := by
  have none : (table.insert batch).rows.length - cap = 0 := by
    simp only [Table.insert, List.length_append, List.length_singleton]
    omega
  simp only [insertPending, none, List.take_zero, List.map_nil, Table.deleteIds_nil]

end LuxSwirl.Agent
