import LuxSwirl.Agent.Parts

/-!
# Delivery conservation

What `send_batch` does with the results it is handed. With local storage a
batch that `json.dumps` takes is conserved whenever every answer can be
classified: each result is in a part a 2xx answered, in a dead letter the call
wrote, or in the one pending row it wrote.

Both conditions are needed. An answer that raises in `classify_response`
escapes `send_batch` before anything is stored, and a batch with a value that
`json.dumps` refuses can neither be sent nor stored.
-/

namespace LuxSwirl.Agent
open LuxSwirl.Py LuxSwirl.Lib

/-- The pending table after the call stored `row`, if it stored one. -/
def withStored (cap : Nat) (stored : Option PendingBatch) (table : Table PendingBatch) :
    Table PendingBatch :=
  stored.elim table fun row => insertPending cap row table

theorem inserted_withStored (cap : Nat) (stored : Option PendingBatch)
    (table : Table PendingBatch) :
    (withStored cap stored table).inserted = table.inserted ++ stored.toList := by
  cases stored with
  | none => exact (List.append_nil _).symm
  | some row => exact inserted_insertPending cap row table

/-- The results in the row the call stored. -/
def storedDocuments (stored : Option PendingBatch) : List Document := stored.elim [] (·.documents)

/-- What a call that sends a batch leaves: its exchanges, the dead letters it
wrote and the pending row it wrote. -/
structure Left (env : Surroundings) (w w' : World) (made : List Exchange)
    (letters : List DeadLetter) (stored : Option PendingBatch) : Prop where
  exchanges : w'.link.exchanges = w.link.exchanges ++ made
  deadLetters : w'.db.deadLetters =
    insertDeadLetters env.config.maxDeadLetters letters w.db.deadLetters
  pending : w'.db.pending = withStored env.config.maxStoredBatches stored w.db.pending

/-- The call returned, and every result of the batch is, with its multiplicity,
in a part a 2xx answered, in a dead letter the call wrote or in the pending row
it wrote. -/
structure Conserves (env : Surroundings) (batch : List Value) (w : World)
    (result : Except PyError Bool × World) : Prop where
  returns : ∃ sent, result.1 = .ok sent
  placed : ∃ made letters stored, Left env w result.2 made letters stored ∧
    tally batch = held (delivered env.nesting made) + held (letterDocuments letters) +
      held (storedDocuments stored)

theorem Account.left {env : Surroundings} {w w' : World} {made : List Exchange}
    {letters : List DeadLetter} (account : Account env w w' made letters) :
    Left env w w' made letters none :=
  ⟨account.exchanges, account.deadLetters, account.pending⟩

/-- Storing what an account left unsent. -/
theorem Account.leftStored {env : Surroundings} (storage : env.config.enableLocalStorage = true)
    {w w' : World} {made : List Exchange} {letters : List DeadLetter}
    (account : Account env w w' made letters) {unsent : List Value} {documents : List Document}
    (written : dumps unsent = some documents) :
    ∃ stored : PendingBatch, stored.documents = documents ∧
      Left env w (storeBatchToDb env unsent w') made letters (some stored) := by
  simp only [storeBatchToDb, storage, if_true, written]
  refine ⟨{ createdAt := (w'.link.now env).1, batchSize := unsent.length, payload := some documents },
    rfl, account.exchanges, account.deadLetters, ?_⟩
  rw [← account.pending]
  rfl

/-- Storing the results left, when there are any. -/
theorem Account.leftUnsent {env : Surroundings} (storage : env.config.enableLocalStorage = true)
    {w w' : World} {made : List Exchange} {letters : List DeadLetter}
    (account : Account env w w' made letters) {unsent : List Value}
    (dumpable : ∀ v ∈ unsent, v.dumpable = true) :
    ∃ stored, held (storedDocuments stored) = tally unsent ∧
      Left env w (if unsent ≠ [] then storeBatchToDb env unsent w' else w') made letters stored := by
  by_cases nothing : unsent = []
  · subst nothing
    exact ⟨none, rfl, by simpa using account.left⟩
  · obtain ⟨documents, written⟩ := Option.isSome_iff_exists.mp (dumps_isSome.mpr dumpable)
    obtain ⟨stored, same, left⟩ := account.leftStored storage written
    refine ⟨some stored, ?_, by simpa [nothing] using left⟩
    rw [tally_of_dumps written, ← same]
    rfl

/-- `_deliver` raises exactly when an answer does, and otherwise conserves a
batch that can be dumped. -/
theorem deliver_conserves {env : Surroundings} (storage : env.config.enableLocalStorage = true)
    {batch : List Value} (dumpable : ∀ v ∈ batch, v.dumpable = true) (w : World) :
    ∃ made letters stored, Left env w (deliver env batch w).2 made letters stored ∧
      match (deliver env batch w).1 with
      | .error _ => ¬ Calm env.nesting made
      | .ok _ => Calm env.nesting made ∧
          tally batch = held (delivered env.nesting made) + held (letterDocuments letters) +
            held (storedDocuments stored) := by
  obtain ⟨made, post⟩ := postBatch_ends env batch w.link
  unfold deliver
  rcases posting : postBatch env batch w.link with ⟨e | ⟨outcome, status, detail⟩, link⟩
  · rw [posting] at post
    exact ⟨made, [], none, (Account.ofPost post).left, post.not_calm⟩
  rw [posting] at post
  have account := Account.ofPost post
  cases outcome with
  | sent =>
    refine ⟨made, [], none, account.left, post.calm, ?_⟩
    simp [post.held_delivered rfl, storedDocuments]
  | permanent =>
    obtain ⟨code, documents, hasStatus, carried, -⟩ := post.definite (by simp)
    obtain rfl : status = some code := hasStatus
    have written := dumps_of_body carried
    obtain ⟨letter, same, wrote⟩ := deadLetterBatch_account storage written code detail none
      { w with link }
    refine ⟨_, _, none, (account.trans wrote).left, by simpa using post.calm, ?_⟩
    simp [post.delivered_eq_nil (by simp), letterDocuments, same, storedDocuments,
      tally_of_dumps written]
  | tooLarge =>
    obtain ⟨made', letters, done⟩ := sendInParts_done storage batch none { w with link }
    dsimp only
    rcases parts : sendInParts env batch none { w with link } with ⟨e | ⟨outcome, unsent⟩, w'⟩
    · rw [parts] at done
      exact ⟨_, _, none, (account.trans done.account).left,
        fun calm => done.ended (calm_append.mp calm).2⟩
    · rw [parts] at done
      obtain ⟨calm, total, within⟩ := done.ended
      obtain ⟨stored, same, left⟩ := (account.trans done.account).leftUnsent storage
        fun v mem => dumpable v (within v mem)
      refine ⟨_, _, stored, left, calm_append.mpr ⟨post.calm, calm⟩, ?_⟩
      rw [total, delivered_append, post.delivered_eq_nil (by simp), List.nil_append,
        List.nil_append, same]
  | transient =>
    obtain ⟨stored, same, left⟩ := account.leftUnsent storage dumpable
    refine ⟨_, _, stored, left, post.calm, ?_⟩
    simp [post.delivered_eq_nil, same]

/-- A batch that cannot be dumped is never sent, and never stored either. -/
theorem deliver_of_dumps_eq_none (env : Surroundings) {batch : List Value} (refused : dumps batch = none)
    (w : World) : (deliver env batch w).2.link.exchanges = w.link.exchanges ∧
      (deliver env batch w).2.db = w.db := by
  have uncarried : body batch = none := by
    cases carried : body batch with
    | none => rfl
    | some documents =>
      rw [dumps_of_body carried] at refused
      cases refused
  obtain ⟨made, post⟩ := postBatch_ends env batch w.link
  unfold deliver
  rcases posting : postBatch env batch w.link with ⟨e | ⟨outcome, status, detail⟩, link⟩
  · rw [posting] at post
    obtain rfl : made = [] := post.made_of_body_eq_none uncarried
    exact ⟨by simpa using post.exchanges, rfl⟩
  · rw [posting] at post
    obtain ⟨rfl, rfl⟩ := post.of_body_eq_none uncarried
    have same : link.exchanges = w.link.exchanges := by simpa using post.exchanges
    dsimp only
    split_ifs
    · unfold storeBatchToDb
      split_ifs
      · rw [refused]
        exact ⟨same, rfl⟩
      · exact ⟨same, rfl⟩
    · exact ⟨same, rfl⟩

end LuxSwirl.Agent
