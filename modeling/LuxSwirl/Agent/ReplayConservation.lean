import LuxSwirl.Agent.Parts
import LuxSwirl.Lib.Ledger

/-!
# Replay conservation

One pass of `_replay_pending` drains the pending table: what leaves a row was
answered with a 2xx or went into a dead letter, and what stays is still in that
row, under its id and its `created_at`. `PassDone` is that account for a stretch
of the pass; the pass is its groups one after another, and a refused group is
its rows one after another, so the account of the pass is put together from the
accounts of single groups and rows by `PassDone.trans`.

The dead letters are the rows the pass wrote. The table they went into is
capped, so it may not hold all of them at the end.
-/

namespace LuxSwirl.Agent
open LuxSwirl.Py LuxSwirl.Lib

/-- Every answer the server gives can be classified. -/
def Classified (env : Surroundings) : Prop :=
  ∀ exchanges documents, (env.server exchanges documents).raises env.nesting = false

/-- The stored batch is a row of the pending table as it is now. -/
def Fetched (w : World) (stored : StoredBatch) : Prop :=
  ∃ row ∈ w.db.pending.rows, row.id = stored.rowId ∧ row.data.createdAt = stored.createdAt ∧
    row.data.payload = some stored.checks

/-- The exchanges dealt with the row: a POST that carried it was answered with a
2xx, or a POST of its results alone was not answered transiently. -/
def Touched (nesting : Nat) (made : List Exchange) (batch : PendingBatch) : Prop :=
  ∃ exchange ∈ made,
    (exchange.verdict nesting = .ok .sent ∧ batch.documents <:+: exchange.documents) ∨
      (exchange.documents = batch.documents ∧ exchange.verdict nesting ≠ .ok .transient)

def SameCreated (before after : PendingBatch) : Prop := after.createdAt = before.createdAt

theorem SameCreated.refl (batch : PendingBatch) : SameCreated batch batch := rfl

theorem SameCreated.trans (a b c : PendingBatch) (first : SameCreated a b)
    (second : SameCreated b c) : SameCreated a c :=
  Eq.trans second first

/-- The pending table drained of `sent` and `dead` by the exchanges `made`. -/
abbrev RowLedger (env : Surroundings) (made : List Exchange) (sent dead : Multiset Value)
    (t t' : Table PendingBatch) : Prop :=
  Ledger (fun batch : PendingBatch => held batch.documents) SameCreated
    (Touched env.nesting made) sent dead t t'

/-- The account of a stretch of the pass that worked on the rows `ids`. -/
structure PassDone (env : Surroundings) (ids : List Nat) (w w' : World) (made : List Exchange)
    (letters : List DeadLetter) : Prop where
  exchanges : w'.link.exchanges = w.link.exchanges ++ made
  deadLetters : w'.db.deadLetters =
    insertDeadLetters env.config.maxDeadLetters letters w.db.deadLetters
  rows : RowLedger env made (held (delivered env.nesting made)) (held (letterDocuments letters))
    w.db.pending w'.db.pending
  frame : ∀ row ∈ w.db.pending.rows, row.id ∉ ids → row ∈ w'.db.pending.rows

theorem Touched.mono {nesting : Nat} {made made' : List Exchange} (more : made ⊆ made')
    (batch : PendingBatch) (touched : Touched nesting made batch) : Touched nesting made' batch := by
  obtain ⟨exchange, mem, how⟩ := touched
  exact ⟨exchange, more mem, how⟩

namespace PassDone

variable {env : Surroundings} {ids ids' : List Nat} {w w' w'' : World}
  {made made' : List Exchange} {letters letters' : List DeadLetter}

/-- A stretch in which nothing was delivered, dead-lettered or changed in a row. -/
theorem quiet (exchanges : w'.link.exchanges = w.link.exchanges ++ made)
    (same : w'.db = w.db) (undelivered : delivered env.nesting made = []) :
    PassDone env ids w w' made [] where
  exchanges := exchanges
  deadLetters := by
    rw [same]
    rfl
  rows := by
    rw [same, undelivered]
    exact Ledger.refl SameCreated.refl _
  frame row mem _ := by
    rw [same]
    exact mem

/-- A look at the running flag touches no row. -/
theorem looked (env : Surroundings) (w : World) :
    PassDone env [] w { w with link := { w.link with looks := w.link.looks + 1 } } [] [] :=
  .quiet (List.append_nil _).symm rfl rfl

theorem trans (first : PassDone env ids w w' made letters)
    (second : PassDone env ids' w' w'' made' letters') :
    PassDone env (ids ++ ids') w w'' (made ++ made') (letters ++ letters') where
  exchanges := by rw [second.exchanges, first.exchanges, List.append_assoc]
  deadLetters := by rw [second.deadLetters, first.deadLetters, insertDeadLetters_append]
  rows := by
    rw [delivered_append, letterDocuments_append, held_append, held_append]
    exact (first.rows.mono (Touched.mono (List.subset_append_left ..))).trans SameCreated.trans
      (second.rows.mono (Touched.mono (List.subset_append_right ..)))
  frame row mem apart := by
    rw [List.mem_append, not_or] at apart
    exact second.frame row (first.frame row mem apart.1) apart.2

theorem subset (done : PassDone env ids w w' made letters) (more : ids ⊆ ids') :
    PassDone env ids' w w' made letters where
  exchanges := done.exchanges
  deadLetters := done.deadLetters
  rows := done.rows
  frame row mem apart := done.frame row mem fun within => apart (more within)

/-- A row the stretch did not work on is fetched as before. -/
theorem fetched (done : PassDone env ids w w' made letters) {stored : StoredBatch}
    (fetched : Fetched w stored) (apart : stored.rowId ∉ ids) : Fetched w' stored := by
  obtain ⟨row, mem, sameId, created, payload⟩ := fetched
  exact ⟨row, done.frame row mem (sameId ▸ apart), sameId, created, payload⟩

end PassDone

/-! ## One row -/

theorem documents_of_payload {batch : PendingBatch} {checks : List Document}
    (payload : batch.payload = some checks) : batch.documents = checks := by
  rw [PendingBatch.documents, payload, Option.getD_some]

section OneRow

variable {env : Surroundings} {made : List Exchange} {t : Table PendingBatch}
  {row : Row PendingBatch} {sent dead : Multiset Value}

/-- Deleting a row all of whose results left it. -/
theorem rowLedger_delete (mem : row ∈ t.rows) (total : held row.data.documents = sent + dead)
    (touched : Touched env.nesting made row.data) :
    RowLedger env made sent dead t (t.delete row.id) :=
  have settled : Settled (fun batch : PendingBatch => held batch.documents) SameCreated
      (Touched env.nesting made) row.data sent dead none :=
    ⟨by simpa using total, by simp, Or.inr touched⟩
  Ledger.single mem SameCreated.refl settled

/-- Rewriting a row to the results that are left of it. -/
theorem rowLedger_update (mem : row ∈ t.rows) {left : List Document}
    (total : held row.data.documents = sent + dead + held left)
    (touched : Touched env.nesting made row.data) :
    RowLedger env made sent dead t (t.update row.id fun batch =>
      { batch with batchSize := left.length, payload := some left }) := by
  have settled : Settled (fun batch : PendingBatch => held batch.documents) SameCreated
      (Touched env.nesting made) row.data sent dead
      (some { row.data with batchSize := left.length, payload := some left }) := by
    refine ⟨total, ?_, Or.inr touched⟩
    rintro b ⟨⟩
    rfl
  have ledger := Ledger.single mem SameCreated.refl settled
  rwa [Table.alter_congr (g := fun id data =>
    if id = row.id then some { data with batchSize := left.length, payload := some left }
    else some data)] at ledger
  intro row' mem'
  by_cases same : row'.id = row.id
  · obtain rfl := Table.eq_of_id_eq mem' mem same
    simp
  · simp [same]

/-- Leaving a row as it is, where what left it is nothing. -/
theorem rowLedger_keep (mem : row ∈ t.rows)
    (total : held row.data.documents = sent + dead + held row.data.documents) :
    RowLedger env made sent dead t t := by
  have settled : Settled (fun batch : PendingBatch => held batch.documents) SameCreated
      (Touched env.nesting made) row.data sent dead (some row.data) := by
    refine ⟨total, ?_, Or.inl rfl⟩
    rintro b ⟨⟩
    rfl
  have ledger := Ledger.single mem SameCreated.refl settled
  rwa [Table.alter_congr (g := fun _ data => some data), Table.alter_keep] at ledger
  intro row' mem'
  by_cases same : row'.id = row.id
  · obtain rfl := Table.eq_of_id_eq mem' mem same
    simp
  · simp [same]

end OneRow

/-! ## One group -/

/-- A way to replay one stored batch keeps the account of its row. -/
def Settles (env : Surroundings) (replay : StoredBatch → World → Replayed) : Prop :=
  ∀ stored w, Fetched w stored → ∃ made letters goesOn, (replay stored w).1 = .ok goesOn ∧
    PassDone env [stored.rowId] w (replay stored w).2 made letters

/-- Exchanges with a server all of whose answers are classified. -/
theorem Classified.calm {env : Surroundings} (classified : Classified env) {made : List Exchange}
    (served : ∀ exchange ∈ made, exchange.Served env) : Calm env.nesting made := by
  intro exchange mem
  obtain ⟨history, answer⟩ := served exchange mem
  rw [answer]
  exact classified history exchange.documents

/-- The last exchange of a POST of some stored results carried exactly those. -/
theorem PostMade.last_of_loads {env : Surroundings} {documents : List Document} {link link' : Link}
    {posted : Posted} {made : List Exchange}
    (post : PostMade env (loads documents) link (.ok posted, link') made)
    (definite : posted.outcome ≠ .transient) :
    ∃ last ∈ made, last.documents = documents ∧ last.verdict env.nesting = .ok posted.outcome := by
  obtain ⟨-, carried, -, encoded, tries, last, rfl, rfl, verdict⟩ := post.definite definite
  have same := dumps_of_body encoded
  rw [dumps_loads, Option.some.injEq] at same
  exact ⟨last, by simp, same.symm, verdict⟩

/-- A group the server took: its rows are deleted one after another. -/
theorem deleteGroup_done {env : Surroundings} {made : List Exchange} (group : List StoredBatch)
    (w : World) (fetched : ∀ stored ∈ group, Fetched w stored)
    (nodup : (group.map (·.rowId)).Nodup)
    (touched : ∀ stored ∈ group, ∀ batch : PendingBatch, batch.documents = stored.checks →
      Touched env.nesting made batch) :
    let w' := group.foldl (fun w stored => w.deleteStoredBatch stored.rowId) w
    w'.link = w.link ∧ w'.db.deadLetters = w.db.deadLetters ∧
      RowLedger env made (held (group.flatMap (·.checks))) 0 w.db.pending w'.db.pending ∧
      ∀ row ∈ w.db.pending.rows, row.id ∉ group.map (·.rowId) → row ∈ w'.db.pending.rows := by
  induction group generalizing w with
  | nil => exact ⟨rfl, rfl, Ledger.refl SameCreated.refl _, fun row mem _ => mem⟩
  | cons stored rest ih =>
    rw [List.map_cons, List.nodup_cons] at nodup
    rw [List.forall_mem_cons] at fetched touched
    obtain ⟨row, mem, sameId, -, payload⟩ := fetched.1
    have keeps : ∀ row' ∈ w.db.pending.rows, row'.id ≠ stored.rowId →
        row' ∈ (w.deleteStoredBatch stored.rowId).db.pending.rows :=
      fun row' mem' other => Table.rows_alter_ne mem' other
    have still : ∀ stored' ∈ rest, Fetched (w.deleteStoredBatch stored.rowId) stored' := by
      intro stored' mem'
      obtain ⟨row', within, sameId', rest'⟩ := fetched.2 stored' mem'
      refine ⟨row', keeps row' within ?_, sameId', rest'⟩
      rw [sameId']
      exact fun same => nodup.1 (same ▸ List.mem_map_of_mem mem')
    obtain ⟨link, dead, ledger, frame⟩ := ih (w.deleteStoredBatch stored.rowId) still nodup.2 touched.2
    refine ⟨link, dead, ?_, ?_⟩
    · have documents := documents_of_payload payload
      have head : RowLedger env made (held stored.checks) 0 w.db.pending
          (w.db.pending.delete stored.rowId) := by
        rw [← sameId]
        exact rowLedger_delete mem (by rw [documents, add_zero]) (touched.1 _ documents)
      have whole := head.trans SameCreated.trans ledger
      rwa [add_zero, ← held_append, ← List.flatMap_cons] at whole
    · intro row' mem' apart
      rw [List.map_cons, List.mem_cons, not_or] at apart
      exact frame row' (keeps row' mem' apart.1) apart.2

/-- What is left of a row is rewritten into it. -/
theorem keepUnsent_done {env : Surroundings} {made : List Exchange} {stored : StoredBatch}
    {w : World} (fetched : Fetched w stored) {unsent : List Value} {left : List Document}
    (written : dumps unsent = some left) {sent dead : Multiset Value}
    (total : held stored.checks = sent + dead + held left)
    (touched : ∀ batch : PendingBatch, batch.documents = stored.checks →
      Touched env.nesting made batch) :
    let w' := w.keepUnsent stored unsent
    w'.link = w.link ∧ w'.db.deadLetters = w.db.deadLetters ∧
      RowLedger env made sent dead w.db.pending w'.db.pending ∧
      ∀ row ∈ w.db.pending.rows, row.id ∉ [stored.rowId] → row ∈ w'.db.pending.rows := by
  obtain ⟨row, mem, sameId, -, payload⟩ := fetched
  have documents := documents_of_payload payload
  rw [← documents] at total
  unfold World.keepUnsent
  by_cases nothing : unsent = []
  · subst nothing
    cases written
    rw [held_nil, add_zero] at total
    rw [if_pos rfl]
    refine ⟨rfl, rfl, ?_, fun row' mem' apart => Table.rows_alter_ne mem' (by simpa using apart)⟩
    rw [← sameId]
    exact rowLedger_delete mem total (touched _ documents)
  · rw [if_neg nothing]
    by_cases same : unsent = loads stored.checks
    · rw [if_neg (not_not.mpr same)]
      have all_left : left = row.data.documents := by
        rw [same, dumps_loads, Option.some.injEq] at written
        rw [← written, documents]
      rw [all_left] at total
      exact ⟨rfl, rfl, rowLedger_keep mem total, fun row' mem' _ => mem'⟩
    · rw [if_pos same, written]
      refine ⟨rfl, rfl, ?_, fun row' mem' apart => Table.rows_alter_ne mem' (by simpa using apart)⟩
      rw [← sameId]
      exact rowLedger_update mem total (touched _ documents)

/-- A row over the size limit, after the POST of the row that said so. -/
theorem replayInParts_done {env : Surroundings} (storage : env.config.enableLocalStorage = true)
    (classified : Classified env) {stored : StoredBatch} {w : World} (fetched : Fetched w stored)
    {before : List Exchange}
    (touched : ∀ batch : PendingBatch, batch.documents = stored.checks →
      Touched env.nesting before batch) :
    ∃ made letters goesOn, (replayInParts env stored w).1 = .ok goesOn ∧
      (replayInParts env stored w).2.link.exchanges = w.link.exchanges ++ made ∧
      (replayInParts env stored w).2.db.deadLetters =
        insertDeadLetters env.config.maxDeadLetters letters w.db.deadLetters ∧
      RowLedger env before (held (delivered env.nesting made)) (held (letterDocuments letters))
        w.db.pending (replayInParts env stored w).2.db.pending ∧
      ∀ row ∈ w.db.pending.rows, row.id ∉ [stored.rowId] →
        row ∈ (replayInParts env stored w).2.db.pending.rows := by
  obtain ⟨made, letters, done⟩ :=
    sendInParts_done storage (loads stored.checks) (some stored.createdAt) w
  unfold replayInParts
  rcases parts : sendInParts env (loads stored.checks) (some stored.createdAt) w with
    ⟨e | ⟨got, unsent⟩, w'⟩
  · rw [parts] at done
    exact absurd (classified.calm done.account.served) done.ended
  rw [parts] at done
  obtain ⟨-, total, within⟩ := done.ended
  have samePending : w'.db.pending = w.db.pending := done.account.pending
  have dumpable : ∀ v ∈ unsent, v.dumpable = true := by
    intro v mem
    obtain ⟨d, -, rfl⟩ := List.mem_map.mp (within v mem)
    exact d.dumpable
  obtain ⟨left, written⟩ := Option.isSome_iff_exists.mp (dumps_isSome.mpr dumpable)
  rw [tally_loads, tally_of_dumps written] at total
  have fetched' : Fetched w' stored := by
    rw [Fetched, samePending]
    exact fetched
  obtain ⟨link, dead, ledger, frame⟩ := keepUnsent_done fetched' written total touched
  rw [samePending] at ledger frame
  have heldSame : ∀ v : World, (if got = .tooLarge then v.holdForSize stored.rowId else v).link =
      v.link ∧ (if got = .tooLarge then v.holdForSize stored.rowId else v).db = v.db := by
    intro v
    split_ifs <;> exact ⟨rfl, rfl⟩
  refine ⟨made, letters, _, rfl, ?_, ?_, ?_, ?_⟩
  · rw [(heldSame _).1, link]
    exact done.account.exchanges
  · rw [(heldSame _).2, dead]
    exact done.account.deadLetters
  · rw [(heldSame _).2]
    exact ledger
  · rw [(heldSame _).2]
    exact frame

/-- A row the server refuses for good moves to the dead letters as it is. -/
theorem moveToDeadLetters_done {env : Surroundings} {made : List Exchange} {stored : StoredBatch}
    {w : World} (fetched : Fetched w stored) (status : Nat) (detail : Text)
    (touched : ∀ batch : PendingBatch, batch.documents = stored.checks →
      Touched env.nesting made batch) :
    ∃ letter : DeadLetter, let w' := w.moveToDeadLetters env stored.rowId status detail
      w'.link.exchanges = w.link.exchanges ∧
      w'.db.deadLetters = insertDeadLetter env.config.maxDeadLetters letter w.db.deadLetters ∧
      RowLedger env made 0 (held letter.documents) w.db.pending w'.db.pending ∧
      ∀ row ∈ w.db.pending.rows, row.id ∉ [stored.rowId] → row ∈ w'.db.pending.rows := by
  obtain ⟨row, mem, sameId, -, payload⟩ := fetched
  have documents := documents_of_payload payload
  have found := Table.get?_of_mem mem
  simp only [World.moveToDeadLetters, Db.moveToDeadLetters, ← sameId, found]
  refine ⟨_, rfl, rfl, ?_, ?_⟩
  · apply rowLedger_delete mem _ (touched _ documents)
    rw [zero_add]
    rfl
  · intro row' mem' apart
    exact Table.rows_alter_ne mem' (by simpa using apart)

/-- The rows of a refused group, one by one. -/
theorem replayEach_done {env : Surroundings} {replayOne : StoredBatch → World → Replayed}
    (settles : Settles env replayOne) (group : List StoredBatch) (w : World)
    (fetched : ∀ stored ∈ group, Fetched w stored) (nodup : (group.map (·.rowId)).Nodup) :
    ∃ made letters goesOn, (replayEach env replayOne group w).1 = .ok goesOn ∧
      PassDone env (group.map (·.rowId)) w (replayEach env replayOne group w).2 made letters := by
  induction group generalizing w with
  | nil => exact ⟨[], [], true, rfl, .quiet (List.append_nil _).symm rfl rfl⟩
  | cons stored rest ih =>
    rw [List.map_cons, List.nodup_cons] at nodup
    rw [List.forall_mem_cons] at fetched
    rw [replayEach, World.isStopped, Link.isStopped]
    cases env.stopped w.link.looks with
    | true => exact ⟨[], [], false, rfl, .quiet (List.append_nil _).symm rfl rfl⟩
    | false =>
      dsimp only
      have start := PassDone.looked env w
      generalize ({ w with link := { w.link with looks := w.link.looks + 1 } } : World) = w' at start ⊢
      obtain ⟨made, letters, goesOn, returned, done⟩ := settles stored w'
        (start.fetched fetched.1 (List.not_mem_nil))
      have first := start.trans done
      rcases one : replayOne stored w' with ⟨result, w''⟩
      rw [one] at returned first
      obtain rfl : result = .ok goesOn := returned
      cases goesOn with
      | false =>
        refine ⟨_, _, false, rfl, first.subset ?_⟩
        simp
      | true =>
        have fetched' : ∀ stored' ∈ rest, Fetched w'' stored' := by
          intro stored' mem
          apply first.fetched (fetched.2 stored' mem)
          intro within
          obtain same : stored'.rowId = stored.rowId := by simpa using within
          exact nodup.1 (same ▸ List.mem_map_of_mem mem)
        obtain ⟨made', letters', goesOn', returned', done'⟩ := ih w'' fetched' nodup.2
        refine ⟨_, _, goesOn', returned', (first.trans done').subset ?_⟩
        simp

/-- A group keeps the account of its rows when its rows do one by one. -/
theorem settleGroup_done {env : Surroundings} (storage : env.config.enableLocalStorage = true)
    (classified : Classified env) {replayOne : StoredBatch → World → Replayed}
    (settles : Settles env replayOne) (group : List StoredBatch) (w : World)
    (fetched : ∀ stored ∈ group, Fetched w stored) (nodup : (group.map (·.rowId)).Nodup) :
    ∃ made letters goesOn, (settleGroup env replayOne group w).1 = .ok goesOn ∧
      PassDone env (group.map (·.rowId)) w (settleGroup env replayOne group w).2 made letters := by
  obtain ⟨made, post⟩ := postBatch_ends env (loads (group.flatMap (·.checks))) w.link
  rw [settleGroup]
  rcases posting : postBatch env (loads (group.flatMap (·.checks))) w.link with
    ⟨e | ⟨outcome, status, detail⟩, link⟩
  · rw [posting] at post
    exact absurd (classified.calm post.served) post.not_calm
  rw [posting] at post
  rw [posting]
  have fetched' : ∀ stored ∈ group, Fetched { w with link } stored := fetched
  -- a definite answer to the POST of one row alone deals with that row
  have alone {stored : StoredBatch} (single : group = [stored]) (definite : outcome ≠ .transient) :
      ∀ batch : PendingBatch, batch.documents = stored.checks → Touched env.nesting made batch := by
    intro batch documents
    obtain ⟨last, mem, carried, verdict⟩ := post.last_of_loads definite
    refine ⟨last, mem, Or.inr ⟨?_, by simpa [verdict] using definite⟩⟩
    rw [carried, single, documents]
    simp
  have unsent (goesOn : Bool) (notSent : outcome ≠ .sent) : ∃ made' letters goesOn',
      (Except.ok goesOn : Except PyError Bool) = .ok goesOn' ∧
        PassDone env (group.map (·.rowId)) w { w with link } made' letters :=
    ⟨made, [], goesOn, rfl, .quiet post.exchanges rfl (post.delivered_eq_nil notSent)⟩
  have each (notSent : outcome ≠ .sent) : ∃ made' letters goesOn,
      (replayEach env replayOne group { w with link }).1 = .ok goesOn ∧
        PassDone env (group.map (·.rowId)) w (replayEach env replayOne group { w with link }).2
          made' letters := by
    have start : PassDone env [] w { w with link } made [] :=
      .quiet post.exchanges rfl (post.delivered_eq_nil notSent)
    obtain ⟨made', letters, goesOn, returned, done⟩ :=
      replayEach_done settles group { w with link } fetched' nodup
    exact ⟨_, _, goesOn, returned, start.trans done⟩
  cases outcome with
  | sent =>
    have touched : ∀ stored ∈ group, ∀ batch : PendingBatch, batch.documents = stored.checks →
        Touched env.nesting made batch := by
      intro stored mem batch documents
      obtain ⟨last, within, carried, verdict⟩ := post.last_of_loads (by simp)
      refine ⟨last, within, Or.inl ⟨verdict, ?_⟩⟩
      rw [carried, documents]
      exact List.infix_of_mem_flatten (List.mem_map_of_mem mem)
    obtain ⟨sameLink, sameDead, ledger, frame⟩ :=
      deleteGroup_done group { w with link } fetched' nodup touched
    refine ⟨made, [], true, rfl, ?_, sameDead, ?_, frame⟩
    · rw [sameLink]
      exact post.exchanges
    · rw [post.held_delivered rfl, tally_loads]
      exact ledger
  | transient => exact unsent false (by simp)
  | permanent =>
    obtain ⟨code, -, hasStatus, -⟩ := post.definite (by simp)
    obtain rfl : status = some code := hasStatus
    rcases group with _ | ⟨stored, _ | ⟨second, rest⟩⟩
    · exact each (by simp)
    · obtain ⟨letter, sameExchanges, dead, ledger, frame⟩ := moveToDeadLetters_done
        (fetched' stored (List.mem_singleton_self _)) code detail (alone rfl (by simp))
      refine ⟨made, [letter], true, rfl, ?_, dead, ?_, frame⟩
      · rw [sameExchanges]
        exact post.exchanges
      · rw [post.delivered_eq_nil (by simp)]
        simpa [letterDocuments] using ledger
    · exact each (by simp)
  | tooLarge =>
    obtain ⟨code, -, hasStatus, -⟩ := post.definite (by simp)
    obtain rfl : status = some code := hasStatus
    rcases group with _ | ⟨stored, _ | ⟨second, rest⟩⟩
    · exact each (by simp)
    · obtain ⟨made', letters, goesOn, returned, exchanges, dead, ledger, frame⟩ :=
        replayInParts_done storage classified (fetched' stored (List.mem_singleton_self _))
          (alone rfl (by simp))
      refine ⟨made ++ made', letters, goesOn, returned, ?_, dead, ?_, frame⟩
      · rw [exchanges, ← List.append_assoc]
        exact congrArg (· ++ made') post.exchanges
      · rw [delivered_append, post.delivered_eq_nil (by simp), List.nil_append]
        exact ledger.mono (Touched.mono (List.subset_append_left ..))
    · exact each (by simp)

/-- A group of one never calls itself, so any way to replay its row will do. -/
theorem replayOne_settles {env : Surroundings} (storage : env.config.enableLocalStorage = true)
    (classified : Classified env) : Settles env (replayOne env) := by
  intro stored w fetched
  have idle : Settles env fun _ w => (.ok true, w) :=
    fun _ _ _ => ⟨[], [], true, rfl, .quiet (List.append_nil _).symm rfl rfl⟩
  exact settleGroup_done storage classified idle [stored] w (by simpa using fetched) (by simp)

theorem replayGroup_done {env : Surroundings} (storage : env.config.enableLocalStorage = true)
    (classified : Classified env) (group : List StoredBatch) (w : World)
    (fetched : ∀ stored ∈ group, Fetched w stored) (nodup : (group.map (·.rowId)).Nodup) :
    ∃ made letters goesOn, (replayGroup env group w).1 = .ok goesOn ∧
      PassDone env (group.map (·.rowId)) w (replayGroup env group w).2 made letters :=
  settleGroup_done storage classified (replayOne_settles storage classified) group w fetched nodup

/-! ## One pass -/

theorem replayPending_done {env : Surroundings} (storage : env.config.enableLocalStorage = true)
    (classified : Classified env) (pending group : List StoredBatch) (size : Nat) (w : World)
    (fetched : ∀ stored ∈ group ++ pending, Fetched w stored)
    (nodup : ((group ++ pending).map (·.rowId)).Nodup) :
    ∃ made letters, (replayPending env pending group size w).1 = .ok () ∧
      PassDone env ((group ++ pending).map (·.rowId)) w
        (replayPending env pending group size w).2 made letters := by
  induction pending generalizing group size w with
  | nil =>
    rw [List.append_nil] at fetched nodup ⊢
    rw [replayPending, World.isStopped, Link.isStopped]
    split_ifs with nothing
    · exact ⟨[], [], rfl, .quiet (List.append_nil _).symm rfl rfl⟩
    · cases env.stopped w.link.looks with
      | true => exact ⟨[], [], rfl, .quiet (List.append_nil _).symm rfl rfl⟩
      | false =>
        obtain ⟨made, letters, goesOn, returned, done⟩ := replayGroup_done storage classified group
          { w with link := { w.link with looks := w.link.looks + 1 } } fetched nodup
        dsimp only
        rcases replayed : replayGroup env group
          { w with link := { w.link with looks := w.link.looks + 1 } } with ⟨result, w'⟩
        rw [replayed] at returned done
        obtain rfl : result = .ok goesOn := returned
        exact ⟨made, letters, rfl, done.exchanges, done.deadLetters, done.rows, done.frame⟩
  | cons stored rest ih =>
    rw [replayPending, World.isStopped, Link.isStopped]
    cases env.stopped w.link.looks with
    | true => exact ⟨[], [], rfl, .quiet (List.append_nil _).symm rfl rfl⟩
    | false =>
      dsimp only
      have start := PassDone.looked env w
      generalize ({ w with link := { w.link with looks := w.link.looks + 1 } } : World) = w' at start ⊢
      have fetched' : ∀ other ∈ group ++ stored :: rest, Fetched w' other :=
        fun other mem => start.fetched (fetched other mem) List.not_mem_nil
      split_ifs with full
      · have apart := nodup
        rw [List.map_append, List.nodup_append] at apart
        obtain ⟨made, letters, goesOn, returned, done⟩ := replayGroup_done storage classified group w'
          (fun other mem => fetched' other (List.mem_append_left _ mem)) apart.1
        have first := start.trans done
        rcases replayed : replayGroup env group w' with ⟨result, w''⟩
        rw [replayed] at returned first
        obtain rfl : result = .ok goesOn := returned
        cases goesOn with
        | false =>
          refine ⟨_, _, rfl, first.subset ?_⟩
          rw [List.nil_append, List.map_append]
          exact List.subset_append_left ..
        | true =>
          have fetched'' : ∀ other ∈ [stored] ++ rest, Fetched w'' other := by
            intro other mem
            apply first.fetched (fetched other (List.mem_append_right _ mem))
            intro within
            exact apart.2.2 _ (by simpa using within) _ (List.mem_map_of_mem mem) rfl
          obtain ⟨made', letters', returned', done'⟩ :=
            ih [stored] stored.checks.length w'' fetched'' apart.2.1
          refine ⟨_, _, returned', (first.trans done').subset ?_⟩
          simp
      · have regrouped : group ++ [stored] ++ rest = group ++ stored :: rest := by simp
        obtain ⟨made, letters, returned, done⟩ := ih (group ++ [stored])
          (size + stored.checks.length) w' (by rwa [regrouped]) (by rwa [regrouped])
        rw [regrouped] at done
        exact ⟨_, _, returned, start.trans done⟩

/-- What one pass of the replay keeps: of each row's results those in `sent row`
are in parts a 2xx answered, those in `dead row` in dead letters the pass wrote,
and the rest are still in the row. -/
structure PassConserves (env : Surroundings) (w w' : World) (made : List Exchange)
    (letters : List DeadLetter) (sent dead : Row PendingBatch → Multiset Value) : Prop where
  exchanges : w'.link.exchanges = w.link.exchanges ++ made
  deadLetters : w'.db.deadLetters =
    insertDeadLetters env.config.maxDeadLetters letters w.db.deadLetters
  sentTotal : held (delivered env.nesting made) = (w.db.pending.rows.map sent).sum
  deadTotal : held (letterDocuments letters) = (w.db.pending.rows.map dead).sum
  rows : ∀ row ∈ w.db.pending.rows,
    (∃ row' ∈ w'.db.pending.rows, row'.id = row.id ∧ row'.data.createdAt = row.data.createdAt ∧
      held row.data.documents = sent row + dead row + held row'.data.documents) ∨
    ((∀ row' ∈ w'.db.pending.rows, row'.id ≠ row.id) ∧
      held row.data.documents = sent row + dead row)
  old : ∀ row' ∈ w'.db.pending.rows, ∃ row ∈ w.db.pending.rows, row'.id = row.id
  count : w'.db.pending.rows.length ≤ w.db.pending.rows.length
  untouched : ∀ row ∈ w.db.pending.rows, ¬ Touched env.nesting made row.data →
    row ∈ w'.db.pending.rows

theorem PassDone.conserves {env : Surroundings} {ids : List Nat} {w w' : World}
    {made : List Exchange} {letters : List DeadLetter}
    (done : PassDone env ids w w' made letters) :
    ∃ sent dead, PassConserves env w w' made letters sent dead := by
  obtain ⟨f, s, d, altered, sent, dead, each⟩ := done.rows.settled
  refine ⟨s, d, done.exchanges, done.deadLetters, sent.symm, dead.symm, ?_, ?_, ?_, ?_⟩
  · intro row mem
    have settled := each row mem
    rw [altered]
    cases left : f row.id row.data with
    | none =>
      rw [left] at settled
      refine Or.inr ⟨fun row' mem' same => ?_, by simpa using settled.total⟩
      obtain ⟨source, within, sameId, kept⟩ := Table.mem_alter.mp mem'
      obtain rfl := Table.eq_of_id_eq within mem (sameId.symm.trans same)
      rw [left] at kept
      cases kept
    | some batch =>
      rw [left] at settled
      refine Or.inl ⟨⟨row.id, batch⟩, ?_, rfl, settled.succeeds batch rfl, settled.total⟩
      exact Table.mem_alter.mpr ⟨row, mem, rfl, left⟩
  · intro row' mem'
    rw [altered] at mem'
    obtain ⟨row, mem, sameId, -⟩ := Table.mem_alter.mp mem'
    exact ⟨row, mem, sameId⟩
  · rw [altered, Table.rows_alter]
    exact List.length_filterMap_le ..
  · intro row mem untouched
    have same := (each row mem).touched.resolve_right untouched
    rw [altered]
    exact Table.mem_alter.mpr ⟨row, mem, rfl, same⟩

/-- The batches a pass fetches are rows of the table it leaves, each once. -/
theorem processStoredReports_fetched (env : Surroundings) (w : World) :
    (∀ stored ∈ (w.processStoredReports env).1, Fetched (w.processStoredReports env).2 stored) ∧
      (((w.processStoredReports env).1).map (·.rowId)).Nodup := by
  have fetch (sizeHeld : List Nat) (v : World) (rows : List (Row PendingBatch))
      (isRead : rows = w.db.readPending sizeHeld env.config.maxFilesPerBatch)
      (pending : v.db.pending = w.db.pending.deleteIds (corruptIds rows)) :
      (∀ stored ∈ storedBatches rows, Fetched v stored) ∧
        ((storedBatches rows).map (·.rowId)).Nodup := by
    have sub : rows.Sublist (w.db.pending.orderBy (·.createdAt)) := by
      rw [isRead]
      exact (List.take_sublist ..).trans List.filter_sublist
    have nodup : (rows.map (·.id)).Nodup := (sub.map _).nodup (w.db.pending.nodup_ids_orderBy _)
    constructor
    · intro stored mem
      obtain ⟨row, within, decoded⟩ := List.mem_filterMap.mp mem
      obtain ⟨checks, payload, rfl⟩ := Option.map_eq_some_iff.mp decoded
      refine ⟨row, ?_, rfl, rfl, payload⟩
      rw [pending, Table.rows_deleteIds, List.mem_filter]
      refine ⟨(Table.mem_orderBy _).mp (sub.subset within), ?_⟩
      rw [decide_eq_true_eq, corruptIds, List.mem_map]
      rintro ⟨other, corrupt, same⟩
      obtain ⟨within', noPayload⟩ := List.mem_filter.mp corrupt
      obtain rfl := List.inj_on_of_nodup_map nodup within' within same
      rw [payload] at noPayload
      cases noPayload
    · rw [map_rowId_storedBatches]
      exact (List.filter_sublist.map _).nodup nodup
  unfold World.processStoredReports
  dsimp only
  split_ifs
  · exact fetch [] _ _ rfl rfl
  · exact fetch w.sizeHeld _ _ rfl rfl

/-- **Replay conservation.** With local storage and a server whose answers can
be classified, one pass over rows read from the pending table returns, and each
result of each row is afterwards in a part a 2xx answered, in a dead letter the
pass wrote, or still in its own row. A row that is gone has none of its results
left; one that is there has its id and its `created_at`; no row is new; and a
row that no answer dealt with is as it was. -/
theorem replayPending_conserves {env : Surroundings}
    (storage : env.config.enableLocalStorage = true) (classified : Classified env)
    (pending : List StoredBatch) (w : World) (fetched : ∀ stored ∈ pending, Fetched w stored)
    (nodup : (pending.map (·.rowId)).Nodup) :
    (replayPending env pending [] 0 w).1 = .ok () ∧
      ∃ made letters sent dead,
        PassConserves env w (replayPending env pending [] 0 w).2 made letters sent dead := by
  obtain ⟨made, letters, returned, done⟩ :=
    replayPending_done storage classified pending [] 0 w fetched nodup
  obtain ⟨sent, dead, conserves⟩ := done.conserves
  exact ⟨returned, made, letters, sent, dead, conserves⟩

/-- Two pending rows of one result each. -/
def twoRows : World :=
  { fresh with
    db := { fresh.db with
      pending := (Table.empty.insert
        { createdAt := 0, batchSize := 1, payload := some [Value.document (.str (text "a")) rfl] }).insert
        { createdAt := 1, batchSize := 1, payload := some [Value.document (.str (text "b")) rfl] } } }

theorem replayPending_conserves_accepted :
    (replayPending { scripted [] with server := fun _ _ => .response 200 [] }
        (twoRows.processStoredReports (scripted [])).1 [] 0 twoRows).1 = .ok () ∧
      ∃ made letters sent dead, PassConserves
        { scripted [] with server := fun _ _ => .response 200 [] } twoRows
        (replayPending { scripted [] with server := fun _ _ => .response 200 [] }
          (twoRows.processStoredReports (scripted [])).1 [] 0 twoRows).2 made letters sent dead := by
  have fetched := processStoredReports_fetched (scripted []) twoRows
  exact replayPending_conserves rfl (fun _ _ => rfl) _ twoRows fetched.1 fetched.2

/-- A server that refuses every batch for good, and room for one dead letter. -/
def refusing : Surroundings :=
  { scripted [] with
    config := { maxDeadLetters := 1 }
    server := fun _ _ => .response 400 (text "\x7b\"error\": \"BAD_REQUEST\"\x7d") }

/-- Where the cap is reached within the pass, a result it dead-lettered is
afterwards in no sent part, in no dead letter and in no pending row. -/
theorem replayPending_prunes_dead_letter :
    let pending := (twoRows.processStoredReports refusing).1
    let after := (replayPending refusing pending [] 0 twoRows).2
    let result := Value.document (.str (text "a")) rfl
    refusing.config.enableLocalStorage = true ∧ Classified refusing ∧
      (∀ stored ∈ pending, Fetched twoRows stored) ∧ (pending.map (·.rowId)).Nodup ∧
      (∃ row ∈ twoRows.db.pending.rows, result ∈ row.data.documents) ∧
      result ∉ delivered refusing.nesting after.link.exchanges ∧
      (∀ row ∈ after.db.deadLetters.rows, result ∉ row.data.documents) ∧
      ∀ row ∈ after.db.pending.rows, result ∉ row.data.documents := by
  have fetched := processStoredReports_fetched refusing twoRows
  refine ⟨rfl, fun _ _ => rfl, fetched.1, fetched.2, ?_, ?_, ?_, ?_⟩
  · exact ⟨_, List.mem_cons_self .., by decide⟩
  · decide
  · decide
  · decide

end LuxSwirl.Agent
