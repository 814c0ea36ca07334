import LuxSwirl.Agent.Parts
import LuxSwirl.Lib.Packing

/-!
# Replay before a server that takes everything

When the agent runs and every request it sends is answered with a 2xx, a pass
over the pending table is one turn of a queue served in windows: the window is
the read limit, the groups are packed up to `batch_size`, and a group is served
unless one of its rows holds a result no request can carry. `pass_queue` is that
refinement; the queue is the library's.
-/

namespace LuxSwirl.Agent
open LuxSwirl.Py LuxSwirl.Lib

/-- The agent runs, keeps what it cannot send, tries at least once and reads at
least one row; every request it sends is answered with a 2xx. -/
structure Healthy (env : Surroundings) : Prop where
  storage : env.config.enableLocalStorage = true
  retries : 0 < env.config.maxRetries
  window : 0 < env.config.maxFilesPerBatch
  running : ∀ n, env.stopped n = false
  accepts : ∀ exchanges documents,
    (env.server exchanges documents).verdict env.nesting = .ok .sent

/-- A row all of whose results a request can carry. -/
def StoredBatch.carriable (stored : StoredBatch) : Bool := stored.checks.all (·.value.strict)

/-- How many results a stored batch adds to a request. -/
def StoredBatch.count (stored : StoredBatch) : Nat := stored.checks.length

/-- A pending row as replay reads it. -/
def toStored (row : Row PendingBatch) : StoredBatch :=
  { rowId := row.id, createdAt := row.data.createdAt, checks := row.data.documents }

/-- The pending rows in the order replay takes them. -/
def World.queue (w : World) : List StoredBatch :=
  (w.db.pending.orderBy (·.createdAt)).map toStored

/-- Every pending row decodes and none is held for its size. -/
structure Ready (w : World) : Prop where
  readable : ∀ row ∈ w.db.pending.rows, row.data.payload.isSome = true
  unheld : w.sizeHeld = []

/-- From `w` to `w'` the rows `items` were sent and deleted, and nothing else happened. -/
structure Served (env : Surroundings) (items : List StoredBatch) (w w' : World) : Prop where
  pending : w'.db.pending = w.db.pending.deleteIds (items.map (·.rowId))
  sizeHeld : w'.sizeHeld = w.sizeHeld
  made : ∃ made, w'.link.exchanges = w.link.exchanges ++ made ∧
    delivered env.nesting made = items.flatMap (·.checks)

namespace Served

variable {env : Surroundings} {items items' : List StoredBatch} {w w' w'' : World}

theorem nothing (exchanges : w'.link.exchanges = w.link.exchanges) (db : w'.db = w.db)
    (sizeHeld : w'.sizeHeld = w.sizeHeld) : Served env [] w w' where
  pending := by rw [db, List.map_nil, Table.deleteIds_nil]
  sizeHeld := sizeHeld
  made := ⟨[], by rw [exchanges, List.append_nil], rfl⟩

/-- A look at the running flag serves no row. -/
theorem looked (env : Surroundings) (w : World) :
    Served env [] w { w with link := { w.link with looks := w.link.looks + 1 } } := .nothing rfl rfl rfl

theorem trans (first : Served env items w w') (second : Served env items' w' w'') :
    Served env (items ++ items') w w'' where
  pending := by
    rw [second.pending, first.pending, Table.deleteIds_deleteIds, List.map_append]
  sizeHeld := second.sizeHeld.trans first.sizeHeld
  made := by
    obtain ⟨made, exchanges, sent⟩ := first.made
    obtain ⟨made', exchanges', sent'⟩ := second.made
    refine ⟨made ++ made', by rw [exchanges', exchanges, List.append_assoc], ?_⟩
    rw [delivered_append, sent, sent', List.flatMap_append]

end Served

/-! ## A POST -/

theorem tryPost_of_body_eq_none {env : Surroundings} {batch : List Value}
    (refused : body batch = none) (link : Link) :
    tryPost env batch link = (.ok (.failed none []), link.countFailure) := by
  rw [tryPost, refused]

/-- A batch the request cannot carry fails as a network failure would. -/
theorem postLoop_of_body_eq_none {env : Surroundings} {batch : List Value}
    (refused : body batch = none) (tries : Nat) (status : Option Nat) (detail : Text) (link : Link) :
    ∃ posted link', postLoop env batch tries status detail link = (.ok posted, link') ∧
      posted.outcome = .transient ∧ link'.exchanges = link.exchanges ∧
      link'.readings = link.readings := by
  induction tries generalizing status detail link with
  | zero => exact ⟨_, link, rfl, rfl, rfl, rfl⟩
  | succ tries ih =>
    rw [postLoop, Link.isStopped]
    cases env.stopped link.looks with
    | true => exact ⟨_, _, rfl, rfl, rfl, rfl⟩
    | false =>
      dsimp only
      rw [tryPost_of_body_eq_none refused]
      dsimp only
      rw [Link.isStopped]
      cases env.stopped (Link.countFailure { link with looks := link.looks + 1 }).looks with
      | true => exact ⟨_, _, rfl, rfl, rfl, rfl⟩
      | false => exact ih none [] _

theorem postBatch_of_body_eq_none (env : Surroundings) {batch : List Value}
    (refused : body batch = none) (link : Link) :
    ∃ posted link', postBatch env batch link = (.ok posted, link') ∧
      posted.outcome = .transient ∧ link'.exchanges = link.exchanges ∧
      link'.readings = link.readings + 1 :=
  postLoop_of_body_eq_none refused env.config.maxRetries none [] (link.now env).2

namespace Healthy

variable {env : Surroundings}

/-- A batch the request can carry is sent at the first try. -/
theorem postBatch (healthy : Healthy env) {batch : List Value} {documents : List Document}
    (carried : body batch = some documents) (link : Link) :
    ∃ posted link', postBatch env batch link = (.ok posted, link') ∧ posted.outcome = .sent ∧
      ∃ made, link'.exchanges = link.exchanges ++ made ∧
        delivered env.nesting made = documents := by
  have verdict := healthy.accepts link.exchanges documents
  obtain ⟨posted, link', posting, sent, exchanges⟩ :=
    postBatch_answered healthy.retries healthy.running carried link verdict (by decide)
  refine ⟨posted, link', posting, sent, _, exchanges, ?_⟩
  simp [delivered, Exchange.delivered, Exchange.verdict, verdict]

/-! ## A group -/

theorem deleteGroup_served (group : List StoredBatch) (w : World) :
    let after := group.foldl (fun w stored => w.deleteStoredBatch stored.rowId) w
    after.link = w.link ∧ after.sizeHeld = w.sizeHeld ∧
      after.db.pending = w.db.pending.deleteIds (group.map (·.rowId)) := by
  induction group generalizing w with
  | nil => exact ⟨rfl, rfl, (Table.deleteIds_nil _).symm⟩
  | cons stored rest ih =>
    obtain ⟨link, sizeHeld, pending⟩ := ih (w.deleteStoredBatch stored.rowId)
    refine ⟨link, sizeHeld, pending.trans ?_⟩
    rw [World.deleteStoredBatch, Db.deleteStoredBatch, Table.delete_eq_deleteIds,
      Table.deleteIds_deleteIds]
    rfl

/-- A group that can be carried is sent and its rows are deleted. -/
theorem settleGroup_of_carriable (healthy : Healthy env) (one : StoredBatch → World → Replayed)
    {group : List StoredBatch} (carriable : group.all (·.carriable) = true) (w : World) :
    (settleGroup env one group w).1 = .ok true ∧
      Served env group w (settleGroup env one group w).2 := by
  have carried : body (loads (group.flatMap (·.checks))) = some (group.flatMap (·.checks)) := by
    refine body_loads fun d mem => ?_
    obtain ⟨stored, within, inside⟩ := List.mem_flatMap.mp mem
    exact List.all_eq_true.mp (List.all_eq_true.mp carriable stored within) d inside
  obtain ⟨⟨outcome, status, detail⟩, link, posting, sent, made, exchanges, whole⟩ :=
    healthy.postBatch carried w.link
  obtain rfl : outcome = .sent := sent
  rw [settleGroup, posting]
  obtain ⟨sameLink, sizeHeld, pending⟩ := deleteGroup_served group { w with link }
  exact ⟨rfl, pending, sizeHeld, made, by rw [sameLink]; exact exchanges, whole⟩

/-- A group with a row that cannot be carried ends the pass. -/
theorem settleGroup_of_not_carriable (one : StoredBatch → World → Replayed)
    {group : List StoredBatch} (carriable : group.all (·.carriable) = false) (w : World) :
    (settleGroup env one group w).1 = .ok false ∧
      Served env [] w (settleGroup env one group w).2 := by
  have refused : body (loads (group.flatMap (·.checks))) = none := by
    rw [← Option.not_isSome_iff_eq_none, body_isSome]
    intro strict
    obtain ⟨stored, mem, bad⟩ := List.all_eq_false.mp carriable
    refine bad (List.all_eq_true.mpr fun d inside => strict d.value ?_)
    exact List.mem_map_of_mem (List.mem_flatMap.mpr ⟨stored, mem, inside⟩)
  obtain ⟨⟨outcome, status, detail⟩, link, posting, failed, exchanges, -⟩ :=
    postBatch_of_body_eq_none env refused w.link
  obtain rfl : outcome = .transient := failed
  rw [settleGroup, posting]
  exact ⟨rfl, .nothing exchanges rfl rfl⟩

/-- A group is sent whole, or it ends the pass. -/
theorem replayGroup_served (healthy : Healthy env) (group : List StoredBatch) (w : World) :
    (replayGroup env group w).1 = .ok (group.all (·.carriable)) ∧
      Served env (if group.all (·.carriable) then group else []) w (replayGroup env group w).2 := by
  cases carriable : group.all (·.carriable) with
  | true => exact settleGroup_of_carriable healthy (replayOne env) carriable w
  | false => exact settleGroup_of_not_carriable (replayOne env) carriable w

/-! ## A pass -/

/-- A pass serves the groups its batches are packed into, up to the first that
cannot be carried. -/
theorem replayPending_served (healthy : Healthy env) (pending group : List StoredBatch)
    (size : Nat) (w : World) (whole : size = (group.map (·.count)).sum) :
    Served env
      ((Packing.pack env.config.batchSize StoredBatch.count group pending).takeWhile
        (·.all (·.carriable))).flatten
      w (replayPending env pending group size w).2 := by
  induction pending generalizing group size w with
  | nil =>
    rw [replayPending, World.isStopped, Link.isStopped, healthy.running, Packing.pack]
    by_cases empty : group = []
    · simpa [empty] using Served.nothing rfl rfl rfl
    · simp only [empty, List.isEmpty_iff, if_false]
      have start := Served.looked env w
      generalize ({ w with link := { w.link with looks := w.link.looks + 1 } } : World) = w' at start ⊢
      obtain ⟨goesOn, served⟩ := replayGroup_served healthy group w'
      rcases replayed : replayGroup env group w' with ⟨result, w''⟩
      rw [replayed] at goesOn served
      obtain rfl : result = .ok (group.all (·.carriable)) := goesOn
      have done := start.trans served
      cases carriable : group.all (·.carriable) <;> simpa [carriable] using done
  | cons stored rest ih =>
    rw [replayPending, World.isStopped, Link.isStopped, healthy.running, Packing.pack]
    dsimp only
    have start := Served.looked env w
    generalize ({ w with link := { w.link with looks := w.link.looks + 1 } } : World) = w' at start ⊢
    have full : Packing.closes env.config.batchSize StoredBatch.count group stored = true ↔
        group ≠ [] ∧ size + stored.checks.length > env.config.batchSize := by
      rw [Packing.closes, ← whole, ← StoredBatch.count]
      simp
    split_ifs with packed closed closed
    · obtain ⟨goesOn, served⟩ := replayGroup_served healthy group w'
      rcases replayed : replayGroup env group w' with ⟨result, w''⟩
      rw [replayed] at goesOn served
      obtain rfl : result = .ok (group.all (·.carriable)) := goesOn
      have done := start.trans served
      cases carriable : group.all (·.carriable) with
      | false => simpa [carriable] using done
      | true =>
        have later := ih [stored] stored.checks.length w'' (by simp [StoredBatch.count])
        simpa [carriable] using done.trans later
    · exact absurd (full.mp packed) closed
    · exact absurd (full.mpr closed) packed
    · have later := ih (group ++ [stored]) (size + stored.checks.length) w'
        (by simp [whole, StoredBatch.count])
      simpa using start.trans later

/-- With nothing held and nothing corrupt a pass reads the front of the queue. -/
theorem processStoredReports_eq {w : World} (ready : Ready w) (env : Surroundings) :
    w.processStoredReports env = (w.queue.take env.config.maxFilesPerBatch, w) := by
  have read (row : Row PendingBatch)
      (mem : row ∈ w.db.readPending [] env.config.maxFilesPerBatch) : row.data.payload.isSome = true := by
    refine ready.readable row ((Table.mem_orderBy (·.createdAt)).mp ?_)
    exact List.mem_of_mem_filter (List.mem_of_mem_take mem)
  have fetched : storedBatches (w.db.readPending [] env.config.maxFilesPerBatch) =
      w.queue.take env.config.maxFilesPerBatch := by
    rw [storedBatches, World.queue, ← List.map_take, ← List.filterMap_eq_map]
    refine (List.filterMap_congr fun row mem => ?_).trans (congrArg _ ?_)
    · obtain ⟨checks, payload⟩ := Option.isSome_iff_exists.mp (read row mem)
      simp [toStored, PendingBatch.documents, payload]
    · simp [Db.readPending]
  have intact : corruptIds (w.db.readPending [] env.config.maxFilesPerBatch) = [] := by
    rw [corruptIds, List.map_eq_nil_iff, List.filter_eq_nil_iff]
    intro row mem
    simpa [Option.isNone_iff_eq_none, Option.isSome_iff_ne_none] using read row mem
  rw [World.processStoredReports, ready.unheld]
  simp only [ne_eq, not_true_eq_false, and_false, if_false, fetched, intact, Table.deleteIds_nil]
  rw [← ready.unheld]

/-- **A pass is a turn of the queue.** -/
theorem replayPass_served (healthy : Healthy env) {w : World} (ready : Ready w) :
    Served env
      (Packing.served env.config.batchSize StoredBatch.count env.config.maxFilesPerBatch
        StoredBatch.carriable w.queue)
      w (replayPass env w) := by
  rw [replayPass, processStoredReports_eq ready]
  rcases front : w.queue.take env.config.maxFilesPerBatch with _ | ⟨stored, rest⟩
  · simpa [Packing.served, front, Packing.pack] using Served.nothing rfl rfl rfl
  · simp only [World.isStopped, Link.isStopped, healthy.running]
    have served := replayPending_served healthy (stored :: rest) [] 0
      { w with link := { w.link with looks := w.link.looks + 1 } } rfl
    rw [Packing.served, front]
    exact ⟨served.pending, served.sizeHeld, served.made⟩

end Healthy

namespace Served

variable {env : Surroundings} {items rest : List StoredBatch} {w w' : World}

/-- Serving the front of the queue leaves the rest of it. -/
theorem queue (served : Served env items w w') (whole : items ++ rest = w.queue) :
    w'.queue = rest := by
  have front : items = ((w.db.pending.orderBy (·.createdAt)).take items.length).map toStored := by
    rw [List.map_take, ← World.queue, ← whole, List.take_left]
  have ids : items.map (·.rowId) =
      ((w.db.pending.orderBy (·.createdAt)).take items.length).map (·.id) := by
    nth_rewrite 1 [front]
    rw [List.map_map]
    rfl
  rw [World.queue, served.pending, ids, Table.orderBy_deleteIds_take, List.map_drop, ← World.queue,
    ← whole, List.drop_left]

theorem ready (served : Served env items w w') (ready : Ready w) : Ready w' where
  readable := by
    intro row mem
    rw [served.pending, Table.rows_deleteIds] at mem
    exact ready.readable row (List.mem_of_mem_filter mem)
  unheld := served.sizeHeld.trans ready.unheld

end Served

/-- Passes serve the queue in order, turn by turn. -/
theorem Healthy.replayPasses_served {env : Surroundings} (healthy : Healthy env) {w : World}
    (ready : Ready w) (n : Nat) :
    ∃ items, Served env items w ((replayPass env)^[n] w) ∧
      items ++ ((replayPass env)^[n] w).queue = w.queue ∧
      (∀ stored ∈ items, stored.carriable = true) ∧
      ((replayPass env)^[n] w).queue =
        (Packing.turn env.config.batchSize StoredBatch.count env.config.maxFilesPerBatch
          StoredBatch.carriable)^[n] w.queue := by
  induction n generalizing w with
  | zero => exact ⟨[], .nothing rfl rfl rfl, rfl, by simp, rfl⟩
  | succ n ih =>
    have first := healthy.replayPass_served ready
    have whole := Packing.served_append_turn env.config.batchSize StoredBatch.count
      env.config.maxFilesPerBatch StoredBatch.carriable w.queue
    have left := first.queue whole
    obtain ⟨items, served, split, carriable, turned⟩ := ih (first.ready ready)
    rw [Function.iterate_succ_apply, Function.iterate_succ_apply]
    refine ⟨_, first.trans served, ?_, ?_, by rw [turned, left]⟩
    · rw [List.append_assoc, split, left, whole]
    · rw [List.forall_mem_append]
      exact ⟨fun stored mem => Packing.ok_of_mem_served _ _ _ _ mem, carriable⟩

end LuxSwirl.Agent
