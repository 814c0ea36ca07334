import LuxSwirl.Agent.OddResults
import LuxSwirl.Agent.OversizedRows
import LuxSwirl.Agent.ReplayConservation
import Mathlib.Data.List.Flatten

/-!
# Held rows and the backlog

A row with a result over the server's size limit stays pending, and `_size_held` keeps later
reads off it. Before a server whose limit is exact, every row a pass reads is gone after it, or
held with a result too big in it (`replayPass_worked`). So the rows that wait, those not held,
get fewer by what each pass reads, and a row without such a result never joins the held ones.

A row with a result no request can carry is the exception: its POST fails as a network failure
would and ends the pass, with the row still first in line (`odd_row_blocks`).
-/

namespace LuxSwirl.Agent
open LuxSwirl.Py LuxSwirl.Lib

/-- The agent is not stopped. The server answers 413 to exactly the POSTs with a result too big
or more results than the limit, and a 2xx to the others. -/
structure ExactLimit (env : Surroundings) (big : Document → Bool) (limit : Nat) : Prop where
  positive : 1 ≤ limit
  running : ∀ n, env.stopped n = false
  refuses : ∀ exchanges documents, documents.any big = true ∨ limit < documents.length →
    ∃ body, env.server exchanges documents = .response 413 body
  takes : ∀ exchanges documents, ¬ (documents.any big = true ∨ limit < documents.length) →
    ∃ status body, env.server exchanges documents = .response status body ∧ 200 ≤ status ∧ status < 300

namespace ExactLimit

variable {env : Surroundings} {big : Document → Bool} {limit : Nat} {documents : List Document}

theorem verdict_refused (exact : ExactLimit env big limit) (exchanges : List Exchange)
    (refused : documents.any big = true ∨ limit < documents.length) :
    (env.server exchanges documents).verdict env.nesting = .ok .tooLarge := by
  obtain ⟨body, answer⟩ := exact.refuses exchanges documents refused
  rw [answer]
  rfl

theorem verdict_taken (exact : ExactLimit env big limit) (exchanges : List Exchange)
    (taken : ¬ (documents.any big = true ∨ limit < documents.length)) :
    (env.server exchanges documents).verdict env.nesting = .ok .sent := by
  obtain ⟨status, body, answer, least, most⟩ := exact.takes exchanges documents taken
  rw [answer]
  exact if_pos ⟨least, most⟩

theorem limited (exact : ExactLimit env big limit) (retries : 0 < env.config.maxRetries) :
    SizeLimited env big where
  retries := retries
  running := exact.running
  alone exchanges result := by
    have positive := exact.positive
    cases isBig : big result with
    | true =>
      apply exact.verdict_refused
      simp [isBig]
    | false =>
      apply exact.verdict_taken
      simp only [List.any_cons, isBig, List.any_nil, List.length_singleton]
      simp
      omega
  several exchanges documents _ := by
    by_cases refused : documents.any big = true ∨ limit < documents.length
    · exact .inl (exact.verdict_refused exchanges refused)
    · refine .inr ⟨exact.verdict_taken exchanges refused, fun result mem => Bool.eq_false_iff.mpr fun isBig => ?_⟩
      exact refused (.inl (List.any_eq_true.mpr ⟨result, mem, isBig⟩))

end ExactLimit

/-! ## What a pass reads -/

namespace World

variable (env : Surroundings) (w : World)

/-- The pending rows that no size refusal holds, oldest first. -/
def waiting : List (Row PendingBatch) :=
  (w.db.pending.orderBy (·.createdAt)).filter fun row => decide (row.id ∉ w.sizeHeld)

/-- Nothing left but held rows: those are read again. -/
def retriesHeld : Bool :=
  decide (w.db.readPending w.sizeHeld env.config.maxFilesPerBatch = [] ∧ w.sizeHeld ≠ [])

/-- The rows a pass reads. -/
def rowsRead : List (Row PendingBatch) :=
  w.db.readPending (if w.retriesHeld env then [] else w.sizeHeld) env.config.maxFilesPerBatch

/-- The world once the rows are read: corrupt rows are gone, and held rows read again are not held. -/
def afterRead : World :=
  { w with
    sizeHeld := if w.retriesHeld env then [] else w.sizeHeld
    db := { w.db with pending := w.db.pending.deleteIds (corruptIds (w.rowsRead env)) } }

variable {env w}

theorem processStoredReports_rows :
    w.processStoredReports env = (storedBatches (w.rowsRead env), w.afterRead env) := by
  rw [processStoredReports, afterRead, rowsRead]
  by_cases again : w.db.readPending w.sizeHeld env.config.maxFilesPerBatch = [] ∧ w.sizeHeld ≠ []
  · have isAgain : w.retriesHeld env = true := decide_eq_true again
    simp only [if_pos again, isAgain, if_true]
  · have isAgain : w.retriesHeld env = false := decide_eq_false again
    simp only [if_neg again, isAgain, Bool.false_eq_true, if_false]

theorem readPending_held : w.db.readPending w.sizeHeld env.config.maxFilesPerBatch =
    w.waiting.take env.config.maxFilesPerBatch := rfl

/-- As long as a row waits, the waiting rows are read. -/
theorem retriesHeld_of_waiting (window : 1 ≤ env.config.maxFilesPerBatch) (some : w.waiting ≠ []) :
    w.retriesHeld env = false := by
  apply decide_eq_false
  intro again
  have empty := again.1
  rw [readPending_held, List.take_eq_nil_iff] at empty
  rcases empty with none | empty
  · omega
  · exact some empty

theorem rowsRead_of_waiting (window : 1 ≤ env.config.maxFilesPerBatch) (some : w.waiting ≠ []) :
    w.rowsRead env = w.waiting.take env.config.maxFilesPerBatch := by
  rw [rowsRead, retriesHeld_of_waiting window some]
  exact readPending_held

theorem rowsRead_sublist : (w.rowsRead env).Sublist (w.db.pending.orderBy (·.createdAt)) :=
  (List.take_sublist ..).trans List.filter_sublist

theorem mem_waiting {row : Row PendingBatch} :
    row ∈ w.waiting ↔ row ∈ w.db.pending.rows ∧ row.id ∉ w.sizeHeld := by
  rw [waiting, List.mem_filter, Table.mem_orderBy, decide_eq_true_eq]

/-- A held row is read when no other is there. -/
theorem waiting_of_held_read (window : 1 ≤ env.config.maxFilesPerBatch) {row : Row PendingBatch}
    (read : row ∈ w.rowsRead env) (isHeld : row.id ∈ w.sizeHeld) : w.waiting = [] := by
  by_contra some
  rw [rowsRead_of_waiting window some] at read
  exact (mem_waiting.mp (List.mem_of_mem_take read)).2 isHeld

/-- The waiting rows are in the order of their creation. -/
theorem waiting_ordered : w.waiting.Pairwise fun a b => a.data.createdAt ≤ b.data.createdAt := by
  apply List.Pairwise.filter
  refine (List.pairwise_insertionSort (Table.Precedes PendingBatch.createdAt) _).imp ?_
  intro a b before
  exact Prod.Lex.monotone_fst_ofLex before

theorem nodup_waiting : (w.waiting.map (·.id)).Nodup :=
  (List.filter_sublist.map _).nodup (w.db.pending.nodup_ids_orderBy _)

end World

/-! ## A stretch of a pass -/

/-- Whether the row has no result too big. -/
def StoredBatch.clean (big : Document → Bool) (stored : StoredBatch) : Bool := !stored.checks.any big

/-- The rows ahead of a pass: each is there as it was read, once, and a request can carry it. -/
structure Ahead (items : List StoredBatch) (w : World) : Prop where
  nodup : (items.map (·.rowId)).Nodup
  here : ∀ stored ∈ items, w.stored? stored.rowId = some stored
  carriable : ∀ stored ∈ items, stored.carriable = true

/-- The row is gone, or it is held with results left of which one is too big. -/
def PutAway (big : Document → Bool) (stored : StoredBatch) (w : World) : Prop :=
  w.db.pending.get? stored.rowId = none ∨
    stored.rowId ∈ w.sizeHeld ∧ ∃ batch left, w.db.pending.get? stored.rowId = some batch ∧
      batch.payload = some left ∧ left ⊆ stored.checks ∧ left.any big = true

/-- From `w` to `w'` the rows `items` were replayed: they are put away, the clean ones
delivered, and no other row was touched or held. -/
structure Worked (env : Surroundings) (big : Document → Bool) (items : List StoredBatch) (w w' : World) : Prop where
  away : ∀ stored ∈ items, PutAway big stored w'
  others : ∀ rowId, rowId ∉ items.map (·.rowId) → w'.db.pending.get? rowId = w.db.pending.get? rowId
  stillHeld : w.sizeHeld ⊆ w'.sizeHeld
  newlyHeld : ∀ rowId ∈ w'.sizeHeld, rowId ∈ w.sizeHeld ∨ rowId ∈ items.map (·.rowId)
  made : ∃ made, w'.link.exchanges = w.link.exchanges ++ made ∧
    ((items.filter (·.clean big)).flatMap (·.checks)).Subperm (delivered env.nesting made)

namespace Worked

variable {env : Surroundings} {big : Document → Bool} {items rest : List StoredBatch} {w w' w'' : World}

theorem nothing {made : List Exchange} (exchanges : w'.link.exchanges = w.link.exchanges ++ made)
    (db : w'.db = w.db) (sizeHeld : w'.sizeHeld = w.sizeHeld) : Worked env big [] w w' where
  away stored mem := absurd mem List.not_mem_nil
  others rowId _ := by rw [db]
  stillHeld := by rw [sizeHeld]; exact List.Subset.refl _
  newlyHeld rowId mem := .inl (sizeHeld ▸ mem)
  made := ⟨made, exchanges, List.nil_subperm⟩

theorem trans (apart : ∀ stored ∈ items, stored.rowId ∉ rest.map (·.rowId)) (first : Worked env big items w w')
    (second : Worked env big rest w' w'') : Worked env big (items ++ rest) w w'' where
  away stored mem := by
    rcases List.mem_append.mp mem with mem | mem
    · have same := second.others stored.rowId (apart stored mem)
      rcases first.away stored mem with gone | ⟨isHeld, batch, left, there, kept⟩
      · exact .inl (same.trans gone)
      · exact .inr ⟨second.stillHeld isHeld, batch, left, same.trans there, kept⟩
    · exact second.away stored mem
  others rowId other := by
    rw [List.map_append, List.mem_append, not_or] at other
    rw [second.others rowId other.2, first.others rowId other.1]
  stillHeld := List.Subset.trans first.stillHeld second.stillHeld
  newlyHeld rowId mem := by
    rw [List.map_append, List.mem_append, ← or_assoc]
    rcases second.newlyHeld rowId mem with mem | mem
    · exact .inl (first.newlyHeld rowId mem)
    · exact .inr mem
  made := by
    obtain ⟨made, exchanges, delivers⟩ := first.made
    obtain ⟨made', exchanges', delivers'⟩ := second.made
    refine ⟨made ++ made', by rw [exchanges', exchanges, List.append_assoc], ?_⟩
    rw [List.filter_append, List.flatMap_append, delivered_append]
    exact delivers.append delivers'

end Worked

namespace Ahead

variable {env : Surroundings} {big : Document → Bool} {items rest : List StoredBatch} {w w' : World}

theorem apart (ahead : Ahead (items ++ rest) w) : ∀ stored ∈ items, stored.rowId ∉ rest.map (·.rowId) := by
  intro stored mem within
  have nodup := ahead.nodup
  rw [List.map_append, List.nodup_append] at nodup
  exact nodup.2.2 _ (List.mem_map_of_mem mem) _ within rfl

theorem front (ahead : Ahead (items ++ rest) w) : Ahead items w where
  nodup := by
    have nodup := ahead.nodup
    rw [List.map_append, List.nodup_append] at nodup
    exact nodup.1
  here stored mem := ahead.here stored (List.mem_append_left _ mem)
  carriable stored mem := ahead.carriable stored (List.mem_append_left _ mem)

/-- Work on the rows in front leaves those behind as they were read. -/
theorem behind (ahead : Ahead (items ++ rest) w) (worked : Worked env big items w w') : Ahead rest w' where
  nodup := by
    have nodup := ahead.nodup
    rw [List.map_append, List.nodup_append] at nodup
    exact nodup.2.1
  here stored mem := by
    have other : stored.rowId ∉ items.map (·.rowId) := by
      intro within
      obtain ⟨earlier, mem', same⟩ := List.mem_map.mp within
      apply ahead.apart earlier mem'
      rw [same]
      exact List.mem_map_of_mem mem
    rw [World.stored?, worked.others _ other]
    exact ahead.here stored (List.mem_append_right _ mem)
  carriable stored mem := ahead.carriable stored (List.mem_append_right _ mem)

/-- A look at the running flag changes nothing of this. -/
theorem looked (ahead : Ahead items w) (looks : Nat) : Ahead items { w with link := { w.link with looks } } :=
  ⟨ahead.nodup, ahead.here, ahead.carriable⟩

end Ahead

theorem Worked.of_looked {env : Surroundings} {big : Document → Bool} {items : List StoredBatch} {w w' : World}
    {looks : Nat} (worked : Worked env big items { w with link := { w.link with looks } } w') :
    Worked env big items w w' :=
  ⟨worked.away, worked.others, worked.stillHeld, worked.newlyHeld, worked.made⟩

/-! ## Rows and groups -/

section Steps

variable {env : Surroundings} {big : Document → Bool}

theorem payload_of_stored? {w : World} {rowId : Nat} {stored : StoredBatch} (here : w.stored? rowId = some stored) :
    ∃ batch, w.db.pending.get? rowId = some batch ∧ batch.payload = some stored.checks := by
  obtain ⟨batch, found, payload⟩ := Option.bind_eq_some_iff.mp here
  obtain ⟨checks, isPayload, rfl⟩ := Option.map_eq_some_iff.mp payload
  exact ⟨batch, found, isPayload⟩

/-- A row replayed alone is put away. -/
theorem RowReplayed.worked {stored : StoredBatch} {w w' : World} {made : List Exchange} {left : List Document}
    (replayed : RowReplayed env big stored w w' made left) : Worked env big [stored] w w' where
  away other mem := by
    obtain rfl := List.mem_singleton.mp mem
    by_cases none : left = []
    · exact .inl (replayed.gone none)
    · have stays := replayed.stays
      rw [StoredBatch.leaving, if_neg none] at stays
      obtain ⟨batch, there, payload⟩ := payload_of_stored? stays
      refine .inr ⟨?_, batch, left, there, payload, ?_, ?_⟩
      · rw [replayed.sizeHeld, if_neg none]
        exact List.mem_cons_self
      · intro result mem
        exact replayed.round.perm.mem_iff.mp (List.mem_append_right _ mem)
      · exact List.any_eq_true.mpr (replayed.round.exists_bad none)
  others rowId other := by
    apply replayed.others
    rintro rfl
    exact other (List.mem_singleton_self _)
  stillHeld := by
    intro rowId mem
    rw [replayed.sizeHeld]
    split_ifs
    · exact mem
    · exact List.mem_cons_of_mem _ mem
  newlyHeld rowId mem := by
    rw [replayed.sizeHeld] at mem
    split_ifs at mem
    · exact .inl mem
    · rcases List.mem_cons.mp mem with rfl | mem
      · exact .inr (List.mem_singleton_self _)
      · exact .inl mem
  made := by
    refine ⟨made, replayed.exchanges, ?_⟩
    cases clean : stored.clean big with
    | false =>
      rw [List.filter_cons_of_neg (by rw [clean]; decide)]
      exact List.nil_subperm
    | true =>
      have good : ∀ result ∈ stored.checks, big result = false := by
        intro result mem
        rw [StoredBatch.clean, Bool.not_eq_true', List.any_eq_false] at clean
        exact Bool.eq_false_iff.mpr (clean result mem)
      rw [List.filter_cons_of_pos clean, (replayed.round.of_good good).1]
      simp only [List.filter_nil, List.flatMap_cons, List.flatMap_nil, List.append_nil]
      exact List.Subperm.refl _

theorem replayOne_worked (limited : SizeLimited env big) {w : World} {stored : StoredBatch}
    (ahead : Ahead [stored] w) :
    (replayOne env stored w).1 = .ok true ∧ Worked env big [stored] w (replayOne env stored w).2 := by
  have here := ahead.here stored (List.mem_singleton_self _)
  have carriable := ahead.carriable stored (List.mem_singleton_self _)
  obtain ⟨made, left, goesOn, replayed⟩ := replayOne_round limited here (List.all_eq_true.mp carriable)
  exact ⟨goesOn, replayed.worked⟩

/-- The rows of a refused group, one after another. -/
theorem replayEach_worked (limited : SizeLimited env big) (group : List StoredBatch) (w : World)
    (ahead : Ahead group w) :
    (replayEach env (replayOne env) group w).1 = .ok true ∧
      Worked env big group w (replayEach env (replayOne env) group w).2 := by
  induction group generalizing w with
  | nil => exact ⟨rfl, .nothing (List.append_nil _).symm rfl rfl⟩
  | cons stored rest ih =>
    rw [replayEach, World.isStopped, Link.isStopped, limited.running]
    dsimp only
    have split : Ahead ([stored] ++ rest) { w with link := { w.link with looks := w.link.looks + 1 } } :=
      ahead.looked _
    obtain ⟨goesOn, worked⟩ := replayOne_worked limited split.front
    rcases replayed : replayOne env stored { w with link := { w.link with looks := w.link.looks + 1 } } with ⟨result, w'⟩
    rw [replayed] at goesOn worked
    obtain rfl : result = .ok true := goesOn
    obtain ⟨onward, later⟩ := ih w' (split.behind worked)
    exact ⟨onward, (worked.trans split.apart later).of_looked⟩

/-- A group of one is its row. -/
theorem settleGroup_singleton (one : StoredBatch → World → Replayed) (stored : StoredBatch) (w : World) :
    settleGroup env one [stored] w = replayOne env stored w := by
  rw [replayOne, settleGroup, settleGroup]
  generalize postBatch env (loads ([stored].flatMap (·.checks))) w.link = answered
  rcases answered with ⟨_ | ⟨outcome, status, detail⟩, link⟩
  · rfl
  · cases outcome <;> cases status <;> rfl

theorem replayGroup_worked (limited : SizeLimited env big) (group : List StoredBatch) (w : World)
    (ahead : Ahead group w) :
    (replayGroup env group w).1 = .ok true ∧ Worked env big group w (replayGroup env group w).2 := by
  by_cases single : ∃ stored, group = [stored]
  · obtain ⟨stored, rfl⟩ := single
    rw [replayGroup, settleGroup_singleton]
    exact replayOne_worked limited ahead
  · have strict : ∀ result ∈ group.flatMap (·.checks), result.value.strict = true := by
      intro result mem
      obtain ⟨stored, within, inside⟩ := List.mem_flatMap.mp mem
      exact List.all_eq_true.mp (ahead.carriable stored within) result inside
    obtain ⟨ends, posting⟩ := postBatch_ends env (loads (group.flatMap (·.checks))) w.link
    obtain ⟨posted, link, made, answered, exchanges, verdict⟩ := limited.post strict w.link
    rw [answered] at posting
    obtain ⟨outcome, status, detail⟩ := posted
    rw [replayGroup, settleGroup, answered]
    rcases verdict with ⟨isSent, fits, delivers⟩ | ⟨isLarge, alone, nothing⟩
    · obtain rfl : outcome = .sent := isSent
      obtain ⟨sameLink, sizeHeld, pending⟩ := Healthy.deleteGroup_served group { w with link }
      refine ⟨rfl, fun stored mem => .inl ?_, fun rowId other => ?_, ?_, fun rowId mem => .inl ?_, made, ?_, ?_⟩
      · dsimp only
        rw [pending, Table.get?_deleteIds, if_pos (List.mem_map_of_mem mem)]
      · dsimp only
        rw [pending, Table.get?_deleteIds, if_neg other]
      · dsimp only
        rw [sizeHeld]
        exact List.Subset.refl _
      · exact sizeHeld ▸ mem
      · dsimp only
        rw [sameLink]
        exact exchanges
      · rw [delivers]
        exact (List.filter_sublist.flatMap _).subperm
    · obtain rfl : outcome = .tooLarge := isLarge
      obtain ⟨status', -, isStatus, -⟩ := posting.definite (by simp)
      obtain rfl : status = some status' := isStatus
      have start : Worked env big [] w { w with link } := .nothing exchanges rfl rfl
      have ahead' : Ahead group { w with link } := ⟨ahead.nodup, ahead.here, ahead.carriable⟩
      obtain ⟨goesOn, worked⟩ := replayEach_worked limited group { w with link } ahead'
      have whole := start.trans (fun stored mem => absurd mem List.not_mem_nil) worked
      rcases group with _ | ⟨stored, _ | ⟨other, more⟩⟩
      · exact ⟨goesOn, whole⟩
      · exact absurd ⟨stored, rfl⟩ single
      · exact ⟨goesOn, whole⟩

/-- The groups that the rows are packed into, one after another. -/
theorem replayPending_worked (limited : SizeLimited env big) (pending group : List StoredBatch) (size : Nat)
    (w : World) (ahead : Ahead (group ++ pending) w) :
    Worked env big (group ++ pending) w (replayPending env pending group size w).2 := by
  induction pending generalizing group size w with
  | nil =>
    rw [List.append_nil] at ahead ⊢
    rw [replayPending, World.isStopped, Link.isStopped, limited.running]
    by_cases empty : group = []
    · subst empty
      exact .nothing (List.append_nil _).symm rfl rfl
    · rw [if_neg empty]
      dsimp only
      obtain ⟨goesOn, worked⟩ := replayGroup_worked limited group _ (ahead.looked (w.link.looks + 1))
      rcases replayed : replayGroup env group { w with link := { w.link with looks := w.link.looks + 1 } } with ⟨result, w'⟩
      rw [replayed] at goesOn worked
      obtain rfl : result = .ok true := goesOn
      exact worked.of_looked
  | cons stored rest ih =>
    rw [replayPending, World.isStopped, Link.isStopped, limited.running]
    dsimp only
    have regrouped : group ++ [stored] ++ rest = group ++ stored :: rest := List.append_cons .. ▸ rfl
    have ahead' := ahead.looked (w.link.looks + 1)
    split_ifs with closed
    · obtain ⟨goesOn, worked⟩ := replayGroup_worked limited group _ ahead'.front
      rcases replayed : replayGroup env group { w with link := { w.link with looks := w.link.looks + 1 } } with ⟨result, w'⟩
      rw [replayed] at goesOn worked
      obtain rfl : result = .ok true := goesOn
      have later := ih [stored] stored.checks.length w' (ahead'.behind worked)
      exact (worked.trans ahead'.apart later).of_looked
    · have later := ih (group ++ [stored]) (size + stored.checks.length) _ (regrouped ▸ ahead')
      rw [regrouped] at later
      exact later.of_looked

/-! ## A pass -/

/-- Every result of the pending rows can be carried by a request. -/
def World.Carriable (w : World) : Prop :=
  ∀ row ∈ w.db.pending.rows, ∀ result ∈ row.data.documents, result.value.strict = true

/-- Every held row has a result too big in it. -/
def World.HeldBig (big : Document → Bool) (w : World) : Prop :=
  ∀ row ∈ w.db.pending.rows, row.id ∈ w.sizeHeld → row.data.documents.any big = true

theorem stored?_of_fetched {w : World} {stored : StoredBatch} (fetched : Fetched w stored) :
    w.stored? stored.rowId = some stored := by
  obtain ⟨row, mem, sameId, created, payload⟩ := fetched
  rw [World.stored?, ← sameId, Table.get?_of_mem mem, Option.bind_some, payload, Option.map_some, sameId, created]

theorem mem_afterRead {w : World} {row : Row PendingBatch} (mem : row ∈ (w.afterRead env).db.pending.rows) :
    row ∈ w.db.pending.rows := by
  rw [World.afterRead, Table.rows_deleteIds] at mem
  exact List.mem_of_mem_filter mem

/-- The rows a pass reads are ahead of it. -/
theorem ahead_of_carriable {w : World} (carriable : w.Carriable) :
    Ahead (storedBatches (w.rowsRead env)) (w.afterRead env) := by
  obtain ⟨fetched, nodup⟩ := processStoredReports_fetched env w
  rw [World.processStoredReports_rows] at fetched nodup
  refine ⟨nodup, fun stored mem => stored?_of_fetched (fetched stored mem), fun stored mem => ?_⟩
  obtain ⟨row, within, -, -, payload⟩ := fetched stored mem
  apply List.all_eq_true.mpr
  intro result inside
  refine carriable row (mem_afterRead within) result ?_
  rwa [documents_of_payload payload]

/-- **A pass works through the rows it read.** -/
theorem replayPass_worked (limited : SizeLimited env big) {w : World} (carriable : w.Carriable) :
    Worked env big (storedBatches (w.rowsRead env)) (w.afterRead env) (replayPass env w) := by
  have ahead := @ahead_of_carriable env w carriable
  rw [replayPass, World.processStoredReports_rows]
  generalize storedBatches (w.rowsRead env) = items at ahead ⊢
  cases items with
  | nil => exact .nothing (List.append_nil _).symm rfl rfl
  | cons stored rest =>
    dsimp only
    rw [World.isStopped, Link.isStopped, limited.running]
    have split : Ahead ([] ++ stored :: rest) (w.afterRead env) := ahead
    exact (replayPending_worked limited (stored :: rest) [] 0 _ (split.looked _)).of_looked

/-- A row left by work on `items` is one it did not touch, or it is held with a result too
big and holds nothing new. -/
theorem Worked.row {items : List StoredBatch} {w w' : World} (worked : Worked env big items w w')
    (ahead : Ahead items w) {row' : Row PendingBatch} (mem : row' ∈ w'.db.pending.rows) :
    (row' ∈ w.db.pending.rows ∧ row'.id ∉ items.map (·.rowId)) ∨
      row'.id ∈ w'.sizeHeld ∧ row'.data.documents.any big = true ∧
        ∃ row ∈ w.db.pending.rows, row.id = row'.id ∧ row'.data.documents ⊆ row.data.documents := by
  have there := Table.get?_of_mem mem
  by_cases within : row'.id ∈ items.map (·.rowId)
  · obtain ⟨stored, isItem, same⟩ := List.mem_map.mp within
    rw [← same] at there
    rcases worked.away stored isItem with gone | ⟨isHeld, batch, left, found, payload, fewer, isBig⟩
    · cases gone.symm.trans there
    · obtain rfl := Option.some.inj (found.symm.trans there)
      obtain ⟨batch, found, isPayload⟩ := payload_of_stored? (ahead.here stored isItem)
      rw [documents_of_payload payload, ← same]
      refine .inr ⟨isHeld, isBig, ⟨stored.rowId, batch⟩, Table.get?_eq_some_iff.mp found, rfl, ?_⟩
      rwa [documents_of_payload isPayload]
  · rw [worked.others _ within] at there
    exact .inl ⟨Table.get?_eq_some_iff.mp there, within⟩

/-- A row is read as a batch to send or as a corrupt row. -/
theorem mem_rowsRead_iff {w : World} {row : Row PendingBatch} (mem : row ∈ w.db.pending.rows) :
    row ∈ w.rowsRead env ↔ row.id ∈ (storedBatches (w.rowsRead env)).map (·.rowId) ∨
      row.id ∈ corruptIds (w.rowsRead env) := by
  have same {p : Row PendingBatch → Bool} (within : row.id ∈ ((w.rowsRead env).filter p).map (·.id)) :
      row ∈ w.rowsRead env := by
    obtain ⟨other, isRead, same⟩ := List.mem_map.mp within
    have isRead := List.mem_of_mem_filter isRead
    have there := (Table.mem_orderBy _).mp (World.rowsRead_sublist.subset isRead)
    rwa [← Table.eq_of_id_eq there mem same]
  rw [map_rowId_storedBatches, corruptIds]
  constructor
  · intro isRead
    cases payload : row.data.payload with
    | none =>
      apply Or.inr
      exact List.mem_map_of_mem (List.mem_filter.mpr ⟨isRead, by rw [payload]; exact Option.isNone_none⟩)
    | some checks =>
      apply Or.inl
      exact List.mem_map_of_mem (List.mem_filter.mpr ⟨isRead, by rw [payload]; exact Option.isSome_some⟩)
  · rintro (within | within)
    · exact same within
    · exact same within

/-- What a pass leaves of the pending table. -/
theorem mem_replayPass (limited : SizeLimited env big) {w : World} (carriable : w.Carriable)
    {row' : Row PendingBatch} (mem : row' ∈ (replayPass env w).db.pending.rows) :
    (row' ∈ w.db.pending.rows ∧ row' ∉ w.rowsRead env) ∨
      row'.id ∈ (replayPass env w).sizeHeld ∧ row'.data.documents.any big = true ∧
        ∃ row ∈ w.db.pending.rows, row.id = row'.id ∧ row'.data.documents ⊆ row.data.documents := by
  rcases (replayPass_worked limited carriable).row (ahead_of_carriable carriable) mem with
    ⟨there, other⟩ | ⟨isHeld, isBig, row, there, same, fewer⟩
  · have before := mem_afterRead there
    refine .inl ⟨before, fun isRead => ?_⟩
    rw [World.afterRead, Table.rows_deleteIds, List.mem_filter, decide_eq_true_eq] at there
    rcases (mem_rowsRead_iff before).mp isRead with within | corrupt
    · exact other within
    · exact there.2 corrupt
  · exact .inr ⟨isHeld, isBig, row, mem_afterRead there, same, fewer⟩

/-- A pass leaves the rows it did not read. -/
theorem mem_replayPass_of_unread (limited : SizeLimited env big) {w : World} (carriable : w.Carriable)
    {row : Row PendingBatch} (mem : row ∈ w.db.pending.rows) (unread : row ∉ w.rowsRead env) :
    row ∈ (replayPass env w).db.pending.rows := by
  rw [mem_rowsRead_iff mem, not_or] at unread
  apply Table.get?_eq_some_iff.mp
  rw [(replayPass_worked limited carriable).others _ unread.1, World.afterRead, Table.get?_deleteIds,
    if_neg unread.2]
  exact Table.get?_of_mem mem

/-! ## What a pass keeps -/

/-- The pending rows without a result too big. -/
def World.cleanRows (big : Document → Bool) (w : World) : List (Row PendingBatch) :=
  w.db.pending.rows.filter fun row => !row.data.documents.any big

/-- Their results. -/
def World.cleanResults (big : Document → Bool) (w : World) : List Document :=
  (w.cleanRows big).flatMap (·.data.documents)

/-- Every pending row has a result too big. -/
def World.Clear (big : Document → Bool) (w : World) : Prop :=
  ∀ row ∈ w.db.pending.rows, row.data.documents.any big = true

theorem World.mem_cleanRows {w : World} {row : Row PendingBatch} :
    row ∈ w.cleanRows big ↔ row ∈ w.db.pending.rows ∧ row.data.documents.any big = false := by
  rw [cleanRows, List.mem_filter, Bool.not_eq_true']

theorem World.Clear.cleanResults {w : World} (clear : w.Clear big) : w.cleanResults big = [] := by
  have none : w.cleanRows big = [] := by
    apply List.filter_eq_nil_iff.mpr
    intro row mem
    rw [clear row mem]
    decide
  rw [World.cleanResults, none, List.flatMap_nil]

theorem carriable_replayPass (limited : SizeLimited env big) {w : World} (carriable : w.Carriable) :
    (replayPass env w).Carriable := by
  intro row' mem result inside
  rcases mem_replayPass limited carriable mem with ⟨before, -⟩ | ⟨-, -, row, before, -, fewer⟩
  · exact carriable row' before result inside
  · exact carriable row before result (fewer inside)

theorem sizeHeld_afterRead {w : World} : (w.afterRead env).sizeHeld ⊆ w.sizeHeld := by
  rw [World.afterRead]
  split_ifs
  · exact List.nil_subset _
  · exact List.Subset.refl _

theorem heldBig_replayPass (limited : SizeLimited env big) {w : World} (carriable : w.Carriable)
    (heldBig : w.HeldBig big) : (replayPass env w).HeldBig big := by
  intro row' mem isHeld
  rcases mem_replayPass limited carriable mem with ⟨before, unread⟩ | ⟨-, isBig, -⟩
  · rcases (replayPass_worked limited carriable).newlyHeld _ isHeld with wasHeld | read
    · exact heldBig row' before (sizeHeld_afterRead wasHeld)
    · exact absurd ((mem_rowsRead_iff before).mpr (.inl read)) unread
  · exact isBig

theorem clear_replayPass (limited : SizeLimited env big) {w : World} (carriable : w.Carriable)
    (clear : w.Clear big) : (replayPass env w).Clear big := by
  intro row' mem
  rcases mem_replayPass limited carriable mem with ⟨before, -⟩ | ⟨-, isBig, -⟩
  · exact clear row' before
  · exact isBig

/-- When no row waits, each is held. -/
theorem clear_of_waiting {w : World} (heldBig : w.HeldBig big) (empty : w.waiting = []) : w.Clear big := by
  intro row mem
  by_cases isHeld : row.id ∈ w.sizeHeld
  · exact heldBig row mem isHeld
  · have waits : row ∈ w.waiting := World.mem_waiting.mpr ⟨mem, isHeld⟩
    rw [empty] at waits
    cases waits

/-- **The rows that wait get fewer by what the pass reads.** -/
theorem length_waiting_replayPass (limited : SizeLimited env big) (window : 1 ≤ env.config.maxFilesPerBatch)
    {w : World} (carriable : w.Carriable) (some : w.waiting ≠ []) :
    (replayPass env w).waiting.length ≤ w.waiting.length - env.config.maxFilesPerBatch := by
  have fewer : (replayPass env w).waiting ⊆ w.waiting.drop env.config.maxFilesPerBatch := by
    intro row' waits
    obtain ⟨mem, free⟩ := World.mem_waiting.mp waits
    rcases mem_replayPass limited carriable mem with ⟨before, unread⟩ | ⟨isHeld, -⟩
    · have stillHeld := (replayPass_worked limited carriable).stillHeld
      rw [World.afterRead, World.retriesHeld_of_waiting window some] at stillHeld
      have waited : row' ∈ w.waiting := World.mem_waiting.mpr ⟨before, fun wasHeld => free (stillHeld wasHeld)⟩
      rw [World.rowsRead_of_waiting window some] at unread
      rw [← List.take_append_drop env.config.maxFilesPerBatch w.waiting] at waited
      exact (List.mem_append.mp waited).resolve_left unread
    · exact absurd isHeld free
  have nodup : (replayPass env w).waiting.Nodup := World.nodup_waiting.of_map _
  have shorter := (List.subperm_of_subset nodup fewer).length_le
  rwa [List.length_drop] at shorter

theorem subperm_flatMap {α β : Type*} {xs ys : List α} (f : α → List β) (within : xs.Subperm ys) :
    (xs.flatMap f).Subperm (ys.flatMap f) := by
  obtain ⟨zs, perm, sub⟩ := within
  exact ⟨zs.flatMap f, perm.flatMap_right f, sub.flatMap f⟩

/-- The clean rows read are the clean batches to send: a corrupt row has no results. -/
theorem clean_storedBatches (rows : List (Row PendingBatch)) :
    (rows.filter fun row => !row.data.documents.any big).flatMap (·.data.documents) =
      ((storedBatches rows).filter (·.clean big)).flatMap (·.checks) := by
  induction rows with
  | nil => rfl
  | cons row rest ih =>
    rw [storedBatches] at ih ⊢
    cases payload : row.data.payload with
    | none => simpa [payload, PendingBatch.documents] using ih
    | some checks =>
      have documents := documents_of_payload payload
      rw [List.filterMap_cons_some (by rw [payload]; rfl)]
      cases clean : checks.any big with
      | true =>
        rw [List.filter_cons_of_neg (by rw [documents, clean]; decide),
          List.filter_cons_of_neg (by rw [StoredBatch.clean, clean]; decide), ih]
      | false =>
        rw [List.filter_cons_of_pos (by rw [documents, clean]; rfl),
          List.filter_cons_of_pos (by rw [StoredBatch.clean, clean]; rfl), List.flatMap_cons, List.flatMap_cons, ih,
          documents]

/-- The clean results are delivered by a pass, or still pending after it. -/
theorem cleanResults_replayPass (limited : SizeLimited env big) {w : World} (carriable : w.Carriable) :
    ∃ made, (replayPass env w).link.exchanges = w.link.exchanges ++ made ∧
      (w.cleanResults big).Subperm (delivered env.nesting made ++ (replayPass env w).cleanResults big) := by
  obtain ⟨made, exchanges, delivers⟩ := (replayPass_worked limited carriable).made
  refine ⟨made, exchanges, ?_⟩
  have nodup : (w.cleanRows big).Nodup := (w.db.pending.nodup_ids.of_map _).filter _
  have readOrLeft : w.cleanRows big ⊆
      (w.rowsRead env).filter (fun row => !row.data.documents.any big) ++ (replayPass env w).cleanRows big := by
    intro row mem
    obtain ⟨there, clean⟩ := World.mem_cleanRows.mp mem
    rw [List.mem_append]
    by_cases read : row ∈ w.rowsRead env
    · exact .inl (List.mem_filter.mpr ⟨read, by rw [clean]; rfl⟩)
    · exact .inr (World.mem_cleanRows.mpr ⟨mem_replayPass_of_unread limited carriable there read, clean⟩)
  have whole := subperm_flatMap (·.data.documents) (List.subperm_of_subset nodup readOrLeft)
  rw [List.flatMap_append, clean_storedBatches] at whole
  exact whole.trans (delivers.append (List.Subperm.refl _))

/-! ## Passes -/

/-- What passes from `w` to `v` keep: a row is one of `w`, with nothing new in it, and the
clean results are delivered or still pending. -/
structure Replaying (env : Surroundings) (big : Document → Bool) (w v : World) : Prop where
  carriable : v.Carriable
  heldBig : v.HeldBig big
  shrunk : ∀ row' ∈ v.db.pending.rows, ∃ row ∈ w.db.pending.rows,
    row.id = row'.id ∧ row'.data.documents ⊆ row.data.documents
  delivers : ∃ made, v.link.exchanges = w.link.exchanges ++ made ∧
    (w.cleanResults big).Subperm (delivered env.nesting made ++ v.cleanResults big)

theorem Replaying.next (limited : SizeLimited env big) {w v : World} (replaying : Replaying env big w v) :
    Replaying env big w (replayPass env v) where
  carriable := carriable_replayPass limited replaying.carriable
  heldBig := heldBig_replayPass limited replaying.carriable replaying.heldBig
  shrunk row' mem := by
    rcases mem_replayPass limited replaying.carriable mem with ⟨before, -⟩ | ⟨-, -, between, before, same, fewer⟩
    · exact replaying.shrunk row' before
    · obtain ⟨row, first, isRow, fewer'⟩ := replaying.shrunk between before
      exact ⟨row, first, isRow.trans same, List.Subset.trans fewer fewer'⟩
  delivers := by
    obtain ⟨made, exchanges, sent⟩ := replaying.delivers
    obtain ⟨made', exchanges', sent'⟩ := cleanResults_replayPass limited replaying.carriable
    refine ⟨made ++ made', by rw [exchanges', exchanges, List.append_assoc], sent.trans ?_⟩
    rw [delivered_append, List.append_assoc]
    exact (List.Subperm.refl _).append sent'

theorem passes_replaying (limited : SizeLimited env big) {w : World} (carriable : w.Carriable)
    (heldBig : w.HeldBig big) (n : Nat) : Replaying env big w ((replayPass env)^[n] w) := by
  induction n with
  | zero =>
    refine ⟨carriable, heldBig, fun row mem => ⟨row, mem, rfl, List.Subset.refl _⟩, [], (List.append_nil _).symm, ?_⟩
    exact List.Subperm.refl _
  | succ n ih =>
    rw [Function.iterate_succ_apply']
    exact ih.next limited

/-- Once every row has a result too big it stays so. -/
theorem clear_passes (limited : SizeLimited env big) {w : World} (carriable : w.Carriable)
    (clear : w.Clear big) (n : Nat) : ((replayPass env)^[n] w).Clear big := by
  induction n generalizing w with
  | zero => exact clear
  | succ n ih => exact ih (carriable_replayPass limited carriable) (clear_replayPass limited carriable clear)

/-- As many passes as it takes to read the rows that wait leave no clean row. -/
theorem clear_of_enough (limited : SizeLimited env big) (window : 1 ≤ env.config.maxFilesPerBatch) {w : World}
    (carriable : w.Carriable) (heldBig : w.HeldBig big) (n : Nat)
    (enough : w.waiting.length ≤ n * env.config.maxFilesPerBatch) : ((replayPass env)^[n] w).Clear big := by
  induction n generalizing w with
  | zero =>
    rw [Nat.zero_mul] at enough
    exact clear_of_waiting heldBig (List.eq_nil_of_length_eq_zero (Nat.le_zero.mp enough))
  | succ n ih =>
    by_cases empty : w.waiting = []
    · exact clear_passes limited carriable (clear_of_waiting heldBig empty) (n + 1)
    · apply ih (carriable_replayPass limited carriable) (heldBig_replayPass limited carriable heldBig)
      have fewer := length_waiting_replayPass limited window carriable empty
      rw [Nat.succ_mul] at enough
      omega

theorem length_waiting_le (w : World) : w.waiting.length ≤ w.db.pending.rows.length := by
  rw [← (w.db.pending.orderBy_perm PendingBatch.createdAt).length_eq]
  exact List.length_filter_le ..

/-- Held rows do not block the backlog of `w`: a pass that finds rows not held reads the oldest
of these and no held row, as many passes as it takes to read every row deliver those without a
result too big, and a held row is read again when no other is pending. -/
structure NeverBlocked (env : Surroundings) (big : Document → Bool) (w : World) : Prop where
  reads : ∀ n, let v := (replayPass env)^[n] w; v.waiting ≠ [] →
    (v.processStoredReports env).1 = storedBatches (v.rowsRead env) ∧
      v.rowsRead env = v.waiting.take env.config.maxFilesPerBatch ∧
      (v.rowsRead env).length = min env.config.maxFilesPerBatch v.waiting.length ∧
      ∀ row ∈ v.rowsRead env, row.id ∉ v.sizeHeld
  oldest : ∀ n, ((replayPass env)^[n] w).waiting.Pairwise fun a b => a.data.createdAt ≤ b.data.createdAt
  settles : ∀ n, (w.db.pending.rows.length + env.config.maxFilesPerBatch - 1) / env.config.maxFilesPerBatch ≤ n →
    (∀ row ∈ w.db.pending.rows, row.data.documents.any big = false →
      ((replayPass env)^[n] w).db.pending.get? row.id = none) ∧
    ∃ made, ((replayPass env)^[n] w).link.exchanges = w.link.exchanges ++ made ∧
      (w.cleanResults big).Subperm (delivered env.nesting made)
  rereads : ∀ n, let v := (replayPass env)^[n] w;
    ∀ row ∈ v.rowsRead env, row.id ∈ v.sizeHeld → v.waiting = []

/-- **Held rows never block the backlog**, when a request can carry what the rows hold. -/
theorem backlog_never_blocked {limit : Nat} (exact : ExactLimit env big limit)
    (window : 1 ≤ env.config.maxFilesPerBatch) {w : World} (heldBig : w.HeldBig big)
    (retries : 0 < env.config.maxRetries) (carriable : w.Carriable) : NeverBlocked env big w where
  reads n some := by
    have read := World.rowsRead_of_waiting window some
    refine ⟨by rw [World.processStoredReports_rows], read, by rw [read, List.length_take], fun row mem isHeld => ?_⟩
    exact some (World.waiting_of_held_read window mem isHeld)
  oldest n := World.waiting_ordered
  settles n enough := by
    have limited := exact.limited retries
    have replaying := passes_replaying limited carriable heldBig n
    have reaches : w.waiting.length ≤ n * env.config.maxFilesPerBatch := by
      have fewer := length_waiting_le w
      rw [Nat.div_le_iff_le_mul_add_pred window] at enough
      rw [Nat.mul_comm]
      omega
    have clear := clear_of_enough limited window carriable heldBig n reaches
    constructor
    · intro row mem clean
      by_contra there
      obtain ⟨batch, found⟩ := Option.ne_none_iff_exists'.mp there
      have left := Table.get?_eq_some_iff.mp found
      obtain ⟨before, first, same, fewer⟩ := replaying.shrunk _ left
      obtain rfl := Table.eq_of_id_eq first mem same
      obtain ⟨result, inside, isBig⟩ := List.any_eq_true.mp (clear _ left)
      exact List.any_eq_false.mp clean result (fewer inside) isBig
    · obtain ⟨made, exchanges, sent⟩ := replaying.delivers
      rw [clear.cleanResults, List.append_nil] at sent
      exact ⟨made, exchanges, sent⟩
  rereads n row mem isHeld := World.waiting_of_held_read window mem isHeld

end Steps

/-! ## Two runs -/

theorem narrow_exact : ExactLimit narrow oversized 1 where
  positive := Nat.le_refl 1
  running _ := rfl
  refuses _ documents refused := ⟨[], if_pos refused⟩
  takes _ documents taken := ⟨200, [], if_neg taken, by decide, by decide⟩

/-- A row with results too big, and behind it one with a plain result. -/
def plainBehind : World :=
  { storing with
    db := { storing.db with
      pending := storing.db.pending.insert
        { createdAt := 1, batchSize := 1, payload := some [plainResult.document rfl] } } }

theorem backlog_behind_oversized : NeverBlocked narrow oversized plainBehind :=
  @backlog_never_blocked narrow oversized 1 narrow_exact (by decide) plainBehind
    (fun row _ isHeld => absurd isHeld List.not_mem_nil) (by decide) (by
      intro row mem
      revert row
      decide)

/-- A row whose result holds a NaN, and behind it one with a plain result. -/
def plainBehindNan : World :=
  { fresh with
    db := { fresh.db with
      pending := (Table.empty.insert
        { createdAt := 0, batchSize := 1, payload := some [nanResult.document rfl] }).insert
          { createdAt := 1, batchSize := 1, payload := some [plainResult.document rfl] } } }

/-- One pass should settle both rows, and it leaves both. -/
theorem odd_row_blocks : ExactLimit narrow oversized 1 ∧ 1 ≤ narrow.config.maxFilesPerBatch ∧
    plainBehindNan.HeldBig oversized ∧ 0 < narrow.config.maxRetries ∧ ¬ NeverBlocked narrow oversized plainBehindNan := by
  refine ⟨narrow_exact, by decide, fun row _ isHeld => absurd isHeld List.not_mem_nil, by decide, ?_⟩
  intro never
  have gone := (never.settles 1 (by decide)).1 ⟨1, _⟩ (List.mem_append_right _ (List.mem_singleton_self _)) (by decide)
  have stays : ((replayPass narrow plainBehindNan).db.pending.get? 1).isSome = true := by decide
  rw [show replayPass narrow plainBehindNan = (replayPass narrow)^[1] plainBehindNan from rfl, gone] at stays
  cases stays

end LuxSwirl.Agent
