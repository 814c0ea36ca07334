import LuxSwirl.Agent.HealthyServer
import Mathlib.Data.Multiset.OrderedMonoid

/-!
# Results no request can carry

The body of a request is encoded strictly and a stored row is not, so a batch
with one odd result is refused as a whole, stored as a whole, and then read and
refused at every pass. `sendBatch_delivers_others_iff` says when the results
around an odd one get through all the same.
-/

namespace LuxSwirl.Agent
open LuxSwirl.Py LuxSwirl.Lib

/-- The row the batch becomes, when `json.dumps` takes it. -/
def ownBatch (env : Surroundings) (batch : List Value) (w : World) : Option PendingBatch :=
  (dumps batch).map fun documents =>
    { createdAt := env.time (w.link.readings + 1), batchSize := batch.length,
      payload := some documents }

/-- The id of that row. -/
def ownId (batch : List Value) (w : World) : Option Nat :=
  (dumps batch).map fun _ => w.db.pending.inserted.length

/-- Batches stored later. -/
def World.storeLater (env : Surroundings) (newer : List PendingBatch) (w : World) : World :=
  { w with
    db := { w.db with
      pending := newer.foldl
        (fun table row => insertPending env.config.maxStoredBatches row table) w.db.pending } }

/-- The pending rows the passes find: the old ones, the batch's own and the newer. -/
def lineUp (env : Surroundings) (batch : List Value) (newer : List PendingBatch) (w : World) :
    Table PendingBatch :=
  ((ownBatch env batch w).toList ++ newer).foldl (fun table row => table.insert row) w.db.pending

/-- The results a request can carry, of some documents. -/
def carriable (documents : List Document) : List Document := documents.filter (·.value.strict)

/-- From `w` to `w'` every other result was delivered: those of the batch that a
request can carry, and those of the rows stored before and after it. None of
these rows is left with such a result. -/
structure OthersDelivered (env : Surroundings) (batch : List Value) (newer : List PendingBatch)
    (w w' : World) : Prop where
  delivered : ∃ made, w'.link.exchanges = w.link.exchanges ++ made ∧
    tally (batch.filter (·.strict)) +
      held (carriable (w.db.pending.rows.flatMap (·.data.documents) ++ newer.flatMap (·.documents))) ≤
        held (delivered env.nesting made)
  released : ∀ row ∈ w'.db.pending.rows, some row.id ≠ ownId batch w → carriable row.data.documents = []

/-- No other result is where an odd one holds it back: not in the first row that
cannot be carried, nor with it, nor behind it; and none is in a batch that
`json.dumps` refuses. -/
structure Unhindered (env : Surroundings) (batch : List Value) (newer : List PendingBatch)
    (w : World) : Prop where
  dumped : dumps batch = none → batch.filter (·.strict) = []
  unblocked : ∀ stored ∈ Packing.blocked env.config.batchSize StoredBatch.count
      env.config.maxFilesPerBatch StoredBatch.carriable
      (((lineUp env batch newer w).orderBy (·.createdAt)).map toStored),
    if some stored.rowId = ownId batch w then batch.filter (·.strict) = []
    else carriable stored.checks = []

/-! ## Storing -/

/-- An odd batch is never sent: it is stored, or dropped when it has no document. -/
theorem sendBatch_of_odd {env : Surroundings} (healthy : Healthy env) {batch : List Value}
    (odd : ∃ v ∈ batch, v.strict = false) (w : World) :
    (sendBatch env batch w).2.link.exchanges = w.link.exchanges ∧
      (sendBatch env batch w).2.sizeHeld = w.sizeHeld ∧
      (sendBatch env batch w).2.db.pending =
        (ownBatch env batch w).toList.foldl
          (fun table row => insertPending env.config.maxStoredBatches row table) w.db.pending := by
  obtain ⟨v, mem, bad⟩ := odd
  have nonempty : batch ≠ [] := List.ne_nil_of_mem mem
  have refused : body batch = none := by
    rw [← Option.not_isSome_iff_eq_none, body_isSome]
    intro strict
    rw [strict v mem] at bad
    cases bad
  obtain ⟨⟨outcome, status, detail⟩, link, posting, failed, exchanges, readings⟩ :=
    postBatch_of_body_eq_none env refused w.link
  obtain rfl : outcome = .transient := failed
  have delivery : sendBatch env batch w = (.ok false, storeBatchToDb env batch { w with link }) := by
    rw [sendBatch, if_neg nonempty, deliver, posting]
    simp [nonempty]
  rw [delivery, storeBatchToDb, if_pos healthy.storage, ownBatch, ← readings]
  cases dumps batch with
  | none => exact ⟨exchanges, rfl, rfl⟩
  | some documents => exact ⟨exchanges, rfl, rfl⟩

theorem foldl_insertPending {cap : Nat} (rows : List PendingBatch) (table : Table PendingBatch)
    (room : table.rows.length + rows.length ≤ cap) :
    rows.foldl (fun table row => insertPending cap row table) table =
      rows.foldl (fun table row => table.insert row) table := by
  induction rows generalizing table with
  | nil => rfl
  | cons row rest ih =>
    rw [List.length_cons] at room
    rw [List.foldl_cons, List.foldl_cons, insertPending_of_lt (by omega), ih]
    simp only [Table.insert, List.length_append, List.length_singleton]
    omega

/-- The rows the passes find, where the cap leaves room for all of them. -/
theorem pending_storeLater {env : Surroundings} (healthy : Healthy env) {batch : List Value}
    (odd : ∃ v ∈ batch, v.strict = false) (newer : List PendingBatch) (w : World)
    (room : w.db.pending.rows.length + 1 + newer.length ≤ env.config.maxStoredBatches) :
    ((sendBatch env batch w).2.storeLater env newer).db.pending = lineUp env batch newer w := by
  obtain ⟨-, -, stored⟩ := sendBatch_of_odd healthy odd w
  have atMost : (ownBatch env batch w).toList.length ≤ 1 := by
    cases ownBatch env batch w <;> simp
  rw [World.storeLater, lineUp, stored, ← List.foldl_append, foldl_insertPending]
  rw [List.length_append]
  omega

theorem mem_foldl_insert {row : Row PendingBatch} (rows : List PendingBatch)
    {table : Table PendingBatch} (mem : row ∈ table.rows) :
    row ∈ (rows.foldl (fun table row => table.insert row) table).rows := by
  induction rows generalizing table with
  | nil => exact mem
  | cons data rest ih => exact ih (List.mem_append_left _ mem)

theorem mem_insert (data : PendingBatch) (table : Table PendingBatch) :
    (⟨table.inserted.length, data⟩ : Row PendingBatch) ∈ (table.insert data).rows :=
  List.mem_append_right _ (List.mem_singleton_self _)

/-- Whoever has the batch's id in the table is the batch. -/
theorem held_own {env : Surroundings} {batch : List Value} {newer : List PendingBatch} {w : World}
    {row : Row PendingBatch} (mem : row ∈ (lineUp env batch newer w).rows)
    (own : some row.id = ownId batch w) : held row.data.documents = tally batch := by
  rw [ownId] at own
  cases written : dumps batch with
  | none =>
    rw [written] at own
    cases own
  | some documents =>
    rw [written, Option.map_some, Option.some_inj] at own
    rw [lineUp, ownBatch, written, Option.map_some, Option.toList_some, List.singleton_append,
      List.foldl_cons] at mem
    have inserted := mem_foldl_insert newer
      (mem_insert ⟨env.time (w.link.readings + 1), batch.length, some documents⟩ w.db.pending)
    rw [Table.eq_of_id_eq mem inserted own, tally_of_dumps written]
    rfl

theorem readable_lineUp {env : Surroundings} {batch : List Value} {newer : List PendingBatch}
    {w : World} (ready : Ready w) (readable : ∀ row ∈ newer, row.payload.isSome = true) :
    ∀ row ∈ (lineUp env batch newer w).rows, row.data.payload.isSome = true := by
  have insert (rows : List PendingBatch) (each : ∀ row ∈ rows, row.payload.isSome = true)
      (table : Table PendingBatch) (old : ∀ row ∈ table.rows, row.data.payload.isSome = true) :
      ∀ row ∈ (rows.foldl (fun table row => table.insert row) table).rows,
        row.data.payload.isSome = true := by
    induction rows generalizing table with
    | nil => exact old
    | cons data rest ih =>
      rw [List.forall_mem_cons] at each
      refine ih each.2 _ fun row mem => ?_
      rcases List.mem_append.mp mem with before | new
      · exact old row before
      · rw [List.mem_singleton.mp new]
        exact each.1
  refine insert _ ?_ _ ready.readable
  rw [List.forall_mem_append]
  refine ⟨fun row mem => ?_, readable⟩
  obtain ⟨documents, -, rfl⟩ := Option.map_eq_some_iff.mp (Option.mem_toList.mp mem)
  rfl

/-! ## What is to be delivered -/

/-- What is to be delivered of a pending row. -/
def wanted (batch : List Value) (own : Option Nat) (stored : StoredBatch) : Multiset Value :=
  if some stored.rowId = own then tally (batch.filter (·.strict)) else held (carriable stored.checks)

theorem wanted_eq_zero {batch : List Value} {own : Option Nat} {stored : StoredBatch} :
    wanted batch own stored = 0 ↔
      if some stored.rowId = own then batch.filter (·.strict) = [] else carriable stored.checks = [] := by
  rw [wanted]
  split_ifs
  · simp [tally]
  · simp [held, loads]

@[simp] theorem carriable_append (xs ys : List Document) :
    carriable (xs ++ ys) = carriable xs ++ carriable ys := List.filter_append ..

/-- Rows stored after the batch's id was given want what they hold. -/
theorem wanted_insertions {own : Option Nat} (batch : List Value) (rows : List PendingBatch)
    (table : Table PendingBatch) (given : ∀ id ∈ own, id < table.inserted.length) :
    ((rows.foldl (fun table row => table.insert row) table).rows.map
        fun row => wanted batch own (toStored row)).sum =
      (table.rows.map fun row => wanted batch own (toStored row)).sum +
        held (carriable (rows.flatMap (·.documents))) := by
  induction rows generalizing table with
  | nil => simp [carriable]
  | cons row rest ih =>
    have other : some table.inserted.length ≠ own := fun same =>
      absurd (given _ same.symm) (Nat.lt_irrefl _)
    rw [List.foldl_cons, ih _ fun id mem => ?_]
    · simp [Table.insert, wanted, toStored, other, add_assoc]
    · rw [Table.inserted_insert, List.length_append]
      exact Nat.lt_add_right _ (given id mem)

theorem wanted_old (batch : List Value) {own : Option Nat} (table : Table PendingBatch)
    (others : ∀ row ∈ table.rows, some row.id ≠ own) :
    (table.rows.map fun row => wanted batch own (toStored row)).sum =
      held (carriable (table.rows.flatMap (·.data.documents))) := by
  have each : table.rows.map (fun row => wanted batch own (toStored row)) =
      table.rows.map fun row => held (carriable row.data.documents) :=
    List.map_congr_left fun row mem => if_neg (others row mem)
  rw [each]
  generalize table.rows = rows
  induction rows with
  | nil => rfl
  | cons row rest ih => simp [ih]

/-- All there is to deliver: the other results, but for those of a batch that
was dropped. -/
theorem wanted_lineUp (env : Surroundings) (batch : List Value) (newer : List PendingBatch)
    (w : World) :
    ((((lineUp env batch newer w).orderBy (·.createdAt)).map toStored).map
        (wanted batch (ownId batch w))).sum =
      (if (dumps batch).isSome then tally (batch.filter (·.strict)) else 0) +
        held (carriable
          (w.db.pending.rows.flatMap (·.data.documents) ++ newer.flatMap (·.documents))) := by
  have perm := ((lineUp env batch newer w).orderBy_perm (·.createdAt)).map
    fun row => wanted batch (ownId batch w) (toStored row)
  rw [List.map_map]
  refine perm.sum_eq.trans ?_
  have others : ∀ row ∈ w.db.pending.rows, some row.id ≠ ownId batch w := by
    intro row mem same
    rw [ownId] at same
    obtain ⟨documents, -, isId⟩ := Option.map_eq_some_iff.mp same.symm
    exact absurd (w.db.pending.below row mem) (isId ▸ Nat.lt_irrefl _)
  have old := wanted_old batch w.db.pending others
  cases written : dumps batch with
  | none =>
    simp only [ownId, written, Option.map_none] at old ⊢
    rw [lineUp, ownBatch, written, Option.map_none, Option.toList_none, List.nil_append,
      wanted_insertions batch newer w.db.pending (by simp), old]
    simp
  | some documents =>
    simp only [ownId, written, Option.map_some] at old ⊢
    rw [lineUp, ownBatch, written, Option.map_some, Option.toList_some, List.singleton_append,
      List.foldl_cons, wanted_insertions batch newer _ (by simp)]
    simp only [Table.insert, List.map_append, List.sum_append, old]
    simp only [wanted, toStored, List.map_cons, List.map_nil, List.sum_singleton, if_true,
      Option.isSome_some, carriable_append, held_append]
    abel

/-! ## What gets through -/

/-- The world the passes start from. -/
def afterBatch (env : Surroundings) (batch : List Value) (newer : List PendingBatch) (w : World) :
    World :=
  (sendBatch env batch w).2.storeLater env newer

/-- Where `n` passes leave the queue: what they served, of which all was
delivered, and what they did not. -/
structure Passed (env : Surroundings) (batch : List Value) (newer : List PendingBatch) (w w' : World)
    (items : List StoredBatch) : Prop where
  split : items ++ w'.queue = ((lineUp env batch newer w).orderBy (·.createdAt)).map toStored
  carriable : ∀ stored ∈ items, stored.carriable = true
  made : ∃ made, w'.link.exchanges = w.link.exchanges ++ made ∧
    delivered env.nesting made = items.flatMap (·.checks)

theorem afterBatch_ready {env : Surroundings} (healthy : Healthy env) {batch : List Value}
    (odd : ∃ v ∈ batch, v.strict = false) {newer : List PendingBatch} {w : World} (ready : Ready w)
    (readable : ∀ row ∈ newer, row.payload.isSome = true)
    (room : w.db.pending.rows.length + 1 + newer.length ≤ env.config.maxStoredBatches) :
    Ready (afterBatch env batch newer w) := by
  obtain ⟨-, sizeHeld, -⟩ := sendBatch_of_odd healthy odd w
  refine ⟨?_, sizeHeld.trans ready.unheld⟩
  rw [afterBatch, pending_storeLater healthy odd newer w room]
  exact readable_lineUp ready readable

theorem Passed.wanted_le {env : Surroundings} {batch : List Value} {newer : List PendingBatch}
    {w w' : World} {items : List StoredBatch} (passed : Passed env batch newer w w' items)
    {stored : StoredBatch} (mem : stored ∈ items) :
    wanted batch (ownId batch w) stored ≤ held stored.checks := by
  rw [wanted]
  split_ifs with own
  · have within : stored ∈ ((lineUp env batch newer w).orderBy (·.createdAt)).map toStored := by
      rw [← passed.split]
      exact List.mem_append_left _ mem
    obtain ⟨row, inTable, rfl⟩ := List.mem_map.mp within
    have same : held (toStored row).checks = tally batch :=
      held_own ((Table.mem_orderBy _).mp inTable) own
    rw [same]
    exact Multiset.coe_le.mpr (List.filter_sublist.map _).subperm
  · exact Multiset.coe_le.mpr (List.filter_sublist.map _).subperm

theorem held_flatMap_checks (items : List StoredBatch) :
    held (items.flatMap (·.checks)) = (items.map fun stored => held stored.checks).sum := by
  induction items with
  | nil => rfl
  | cons stored rest ih => simp [ih]

/-- Nothing is wanted of what is left, once the others were delivered. -/
theorem Passed.wanted_eq_zero {env : Surroundings} {batch : List Value} {newer : List PendingBatch}
    {w w' : World} {items : List StoredBatch} (passed : Passed env batch newer w w' items)
    (others : OthersDelivered env batch newer w w') :
    (dumps batch = none → batch.filter (·.strict) = []) ∧
      ∀ stored ∈ w'.queue, wanted batch (ownId batch w) stored = 0 := by
  by_cases inside : ∃ stored ∈ items, some stored.rowId = ownId batch w
  · -- the batch's own row was sent, and the others left have nothing to deliver
    obtain ⟨own, sent, isOwn⟩ := inside
    have written : dumps batch ≠ none := by
      intro refused
      rw [ownId, refused] at isOwn
      cases isOwn
    have nodup : ((items ++ w'.queue).map (·.rowId)).Nodup := by
      rw [passed.split, List.map_map]
      exact (lineUp env batch newer w).nodup_ids_orderBy (·.createdAt)
    rw [List.map_append, List.nodup_append] at nodup
    refine ⟨fun refused => absurd refused written, fun stored left => ?_⟩
    have other : some stored.rowId ≠ ownId batch w := by
      rw [← isOwn]
      intro same
      exact nodup.2.2 _ (List.mem_map_of_mem sent) _ (List.mem_map_of_mem left)
        (Option.some_inj.mp same).symm
    obtain ⟨row, mem, rfl⟩ := List.mem_map.mp left
    rw [wanted, if_neg other]
    exact congrArg held (others.released row ((Table.mem_orderBy _).mp mem) other)
  · -- what was delivered is what was wanted of the rows sent
    obtain ⟨made, exchanges, enough⟩ := others.delivered
    obtain ⟨made', exchanges', whole⟩ := passed.made
    obtain rfl : made = made' := List.append_cancel_left (exchanges.symm.trans exchanges')
    have total := wanted_lineUp env batch newer w
    rw [← passed.split, List.map_append, List.sum_append] at total
    have sent : (items.map (wanted batch (ownId batch w))).sum = held (delivered env.nesting made) := by
      rw [whole, held_flatMap_checks]
      refine congrArg _ (List.map_congr_left fun stored mem => ?_)
      have all : StoredBatch.carriable stored = true := passed.carriable stored mem
      rw [wanted, if_neg fun own => inside ⟨stored, mem, own⟩, Agent.carriable,
        List.filter_eq_self.mpr (List.all_eq_true.mp all)]
    rw [← sent] at enough
    have nothing : (dumps batch = none → tally (batch.filter (·.strict)) = 0) ∧
        (w'.queue.map (wanted batch (ownId batch w))).sum = 0 := by
      cases written : dumps batch with
      | some documents =>
        rw [written, Option.isSome_some, if_pos rfl] at total
        rw [← total] at enough
        exact ⟨by simp, nonpos_iff_eq_zero.mp ((add_le_iff_nonpos_right _).mp enough)⟩
      | none =>
        rw [written, Option.isSome_none, if_neg (by simp), zero_add] at total
        rw [← total, add_left_comm] at enough
        have := nonpos_iff_eq_zero.mp ((add_le_iff_nonpos_right _).mp enough)
        exact ⟨fun _ => (add_eq_zero.mp this).1, (add_eq_zero.mp this).2⟩
    refine ⟨fun refused => by simpa [tally] using nothing.1 refused, fun stored left => ?_⟩
    exact List.sum_eq_zero_iff.mp nothing.2 _ (List.mem_map_of_mem left)

/-- **Odd results and the others.** Before a server that takes whatever it is
sent, a batch with an odd result, the rows stored before it and the ones stored
after it: some number of passes delivers every other result if and only if none
of them is in the odd batch's way, as `Unhindered` says. -/
theorem sendBatch_delivers_others_iff {env : Surroundings} (healthy : Healthy env)
    {batch : List Value} (odd : ∃ v ∈ batch, v.strict = false) {newer : List PendingBatch}
    (readable : ∀ row ∈ newer, row.payload.isSome = true) {w : World} (ready : Ready w)
    (room : w.db.pending.rows.length + 1 + newer.length ≤ env.config.maxStoredBatches) :
    (∃ n, OthersDelivered env batch newer w ((replayPass env)^[n] (afterBatch env batch newer w))) ↔
      Unhindered env batch newer w := by
  have start := afterBatch_ready healthy odd ready readable room
  have queue : (afterBatch env batch newer w).queue =
      ((lineUp env batch newer w).orderBy (·.createdAt)).map toStored := by
    rw [World.queue, afterBatch, pending_storeLater healthy odd newer w room]
  have passed (n : Nat) : ∃ items, Passed env batch newer w
      ((replayPass env)^[n] (afterBatch env batch newer w)) items := by
    obtain ⟨items, served, split, carriable, -⟩ := healthy.replayPasses_served start n
    obtain ⟨made, exchanges, whole⟩ := served.made
    obtain ⟨unsent, -, -⟩ := sendBatch_of_odd healthy odd w
    exact ⟨items, by rw [split, queue], carriable, made, by rw [exchanges, ← unsent]; rfl, whole⟩
  have total := wanted_lineUp env batch newer w
  constructor
  · rintro ⟨n, others⟩
    obtain ⟨items, passed⟩ := passed n
    obtain ⟨dumped, nothing⟩ := passed.wanted_eq_zero others
    refine ⟨dumped, fun stored blocked => ?_⟩
    obtain ⟨-, -, -, -, turned⟩ := healthy.replayPasses_served start n
    rw [← queue] at blocked
    rw [← Agent.wanted_eq_zero]
    refine nothing stored ?_
    rw [turned]
    exact (Packing.blocked_suffix_iterate _ _ _ _ healthy.window _ n).subset blocked
  · intro unhindered
    obtain ⟨n, turned⟩ := Packing.turn_iterate_reaches env.config.batchSize StoredBatch.count
      env.config.maxFilesPerBatch StoredBatch.carriable healthy.window
      (afterBatch env batch newer w).queue
    obtain ⟨-, -, -, -, left⟩ := healthy.replayPasses_served start n
    rw [turned, queue] at left
    obtain ⟨items, passed⟩ := passed n
    obtain ⟨made, exchanges, whole⟩ := passed.made
    refine ⟨n, ⟨made, exchanges, ?_⟩, ?_⟩
    · have nothing : ((((replayPass env)^[n] (afterBatch env batch newer w)).queue).map
          (wanted batch (ownId batch w))).sum = 0 := by
        rw [left]
        exact List.sum_eq_zero fun x mem => by
          obtain ⟨stored, blocked, rfl⟩ := List.mem_map.mp mem
          exact wanted_eq_zero.mpr (unhindered.unblocked stored blocked)
      rw [← passed.split, List.map_append, List.sum_append, nothing, add_zero] at total
      have all : tally (batch.filter (·.strict)) =
          if (dumps batch).isSome then tally (batch.filter (·.strict)) else 0 := by
        split_ifs with written
        · rfl
        · rw [unhindered.dumped (Option.not_isSome_iff_eq_none.mp written), tally_nil]
      rw [all, ← total, whole, held_flatMap_checks]
      exact List.sum_le_sum fun stored mem => passed.wanted_le mem
    · intro row mem other
      have within : toStored row ∈ ((replayPass env)^[n] (afterBatch env batch newer w)).queue :=
        List.mem_map_of_mem ((Table.mem_orderBy _).mpr mem)
      rw [left] at within
      have := unhindered.unblocked _ within
      rwa [toStored, if_neg other] at this

/-- A server that answers 200 to every request. -/
def accepting : Surroundings := { scripted [] with server := fun _ _ => .response 200 [] }

theorem accepting_healthy : Healthy accepting where
  storage := rfl
  retries := by decide
  window := by decide
  running _ := rfl
  accepts _ _ := rfl

theorem fresh_ready : Ready fresh where
  readable := by simp [fresh, Table.empty]
  unheld := rfl

/-- The result of a JSON check whose endpoint answered `NaN`. -/
def nanResult : Value :=
  .dict [(.text (text "success"), .bool true), (.text (text "value"), .float (.special .nan))]

/-- A result like any other. -/
def plainResult : Value := .dict [(.text (text "success"), .bool true)]

theorem sendBatch_delivers_others_iff_nan :
    (∃ n, OthersDelivered accepting [nanResult] [] fresh
        ((replayPass accepting)^[n] (afterBatch accepting [nanResult] [] fresh))) ↔
      Unhindered accepting [nanResult] [] fresh :=
  sendBatch_delivers_others_iff accepting_healthy ⟨nanResult, by simp, by decide⟩ (by simp)
    fresh_ready (by decide)

/-- One result holds a NaN, and the other one of its batch is not delivered by
any number of passes. -/
theorem nan_holds_back_its_batch :
    Healthy accepting ∧ Ready fresh ∧ ∀ n,
      ¬ OthersDelivered accepting [nanResult, plainResult] [] fresh
        ((replayPass accepting)^[n] (afterBatch accepting [nanResult, plainResult] [] fresh)) := by
  have odd : ∃ v ∈ [nanResult, plainResult], v.strict = false := ⟨nanResult, by simp, by decide⟩
  have none_newer : ∀ row ∈ ([] : List PendingBatch), row.payload.isSome = true := by simp
  have ready := afterBatch_ready accepting_healthy odd fresh_ready none_newer (by decide)
  refine ⟨accepting_healthy, fresh_ready, fun n others => ?_⟩
  obtain ⟨items, served, split, carriable, -⟩ := accepting_healthy.replayPasses_served ready n
  have blocked : ∀ stored ∈ (afterBatch accepting [nanResult, plainResult] [] fresh).queue,
      stored.carriable = false := by decide
  have unserved : items = [] := by
    refine List.eq_nil_iff_forall_not_mem.mpr fun stored mem => ?_
    have := blocked stored (split ▸ List.mem_append_left _ mem)
    rw [carriable stored mem] at this
    cases this
  obtain ⟨made, exchanges, whole⟩ := served.made
  obtain ⟨made', exchanges', enough⟩ := others.delivered
  obtain rfl : made' = made := List.append_cancel_left (exchanges'.symm.trans exchanges)
  rw [whole, unserved] at enough
  have plain : plainResult.decode ∈ tally ([nanResult, plainResult].filter (·.strict)) := by decide
  simpa using Multiset.mem_of_le enough (Multiset.mem_add.mpr (Or.inl plain))

end LuxSwirl.Agent
