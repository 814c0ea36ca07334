import LuxSwirl.Agent.DeliveryConservation
import LuxSwirl.Agent.ReplayConservation

/-!
# Runs of the reporter

Batches are sent and replay passes made in any order. Two rules carry a fact over such a
run. What every answered POST keeps of the exchanges, every call keeps
(`Answering.reported`). And no result is lost: each is in a part a 2xx answered, in a
dead letter or in a pending row (`reported_accounted`).
-/

namespace LuxSwirl.Agent
open LuxSwirl.Py LuxSwirl.Lib

inductive ReporterCall where
  | sendBatch (batch : List Value)
  | replayPass

namespace ReporterCall

/-- The results the call is handed. -/
def results : ReporterCall → List Value
  | .sendBatch batch => batch
  | .replayPass => []

def run (env : Surroundings) (w : World) : ReporterCall → World
  | .sendBatch batch => (Agent.sendBatch env batch w).2
  | .replayPass => Agent.replayPass env w

end ReporterCall

/-- Some calls one after another. -/
def reported (env : Surroundings) (w : World) (calls : List ReporterCall) : World :=
  calls.foldl (ReporterCall.run env) w

/-! ## What every POST keeps -/

/-- A property of the exchanges that one more keeps, with documents of a kind and the
server's answer. -/
def Answering (env : Surroundings) (carries : Document → Prop) (keeps : List Exchange → Prop) : Prop :=
  ∀ exchanges documents, (∀ d ∈ documents, carries d) → keeps exchanges →
    keeps (exchanges ++ [{ documents, answer := env.server exchanges documents }])

/-- All documents of these results are of the kind. -/
def Carried (carries : Document → Prop) (batch : List Value) : Prop :=
  ∀ v ∈ batch, ∀ dumpable : v.dumpable = true, carries (v.document dumpable)

section Carried

variable {carries : Document → Prop} {batch part : List Value} {documents : List Document}

theorem Carried.dumps (carried : Carried carries batch) (written : dumps batch = some documents) :
    ∀ d ∈ documents, carries d := by
  induction batch generalizing documents with
  | nil =>
    cases written
    exact fun _ mem => by cases mem
  | cons v rest ih =>
    obtain ⟨here, others⟩ := List.forall_mem_cons.mp carried
    by_cases dumpable : v.dumpable = true
    · rw [Py.dumps, dif_pos dumpable] at written
      obtain ⟨left, isLeft, rfl⟩ := Option.map_eq_some_iff.mp written
      exact List.forall_mem_cons.mpr ⟨here dumpable, ih others isLeft⟩
    · rw [Py.dumps, dif_neg dumpable] at written
      cases written

theorem Carried.body (carried : Carried carries batch) (encoded : body batch = some documents) :
    ∀ d ∈ documents, carries d := carried.dumps (dumps_of_body encoded)

theorem Carried.within (carried : Carried carries batch) (sub : part ⊆ batch) : Carried carries part :=
  fun v mem => carried v (sub mem)

theorem Carried.append {more : List Value} (carried : Carried carries batch) (others : Carried carries more) :
    Carried carries (batch ++ more) := List.forall_mem_append.mpr ⟨carried, others⟩

theorem carried_loads (carries_all : ∀ d ∈ documents, carries d) : Carried carries (loads documents) := by
  intro v mem dumpable
  obtain ⟨d, isIn, rfl⟩ := List.mem_map.mp mem
  rw [Document.document_value]
  exact carries_all d isIn

theorem carried_halves (carried : Carried carries batch) : ∀ part ∈ halves batch, Carried carries part := by
  rw [halves, List.forall_mem_cons, List.forall_mem_singleton]
  exact ⟨carried.within (List.take_subset ..), carried.within (List.drop_subset ..)⟩

end Carried

/-- The exchanges have the property, and the pending rows hold only documents of the kind. -/
structure Keeping (carries : Document → Prop) (keeps : List Exchange → Prop) (w : World) : Prop where
  exchanges : keeps w.link.exchanges
  pending : ∀ row ∈ w.db.pending.rows, ∀ d ∈ row.data.documents, carries d

namespace Keeping

variable {carries : Document → Prop} {keeps : List Exchange → Prop} {w w' : World}

theorem congr (keeping : Keeping carries keeps w) (exchanges : w'.link.exchanges = w.link.exchanges)
    (pending : w'.db.pending = w.db.pending) : Keeping carries keeps w' :=
  ⟨exchanges ▸ keeping.exchanges, pending ▸ keeping.pending⟩

/-- Rows that are altered hold no other documents. -/
theorem alter (keeping : Keeping carries keeps w) {f : Nat → PendingBatch → Option PendingBatch}
    (exchanges : w'.link.exchanges = w.link.exchanges) (pending : w'.db.pending = w.db.pending.alter f)
    (altered : ∀ id batch left, f id batch = some left → (∀ d ∈ batch.documents, carries d) →
      ∀ d ∈ left.documents, carries d) : Keeping carries keeps w' := by
  refine ⟨exchanges ▸ keeping.exchanges, fun row' mem => ?_⟩
  rw [pending] at mem
  obtain ⟨row, within, -, left⟩ := Table.mem_alter.mp mem
  exact altered row.id row.data row'.data left (keeping.pending row within)

theorem delete (keeping : Keeping carries keeps w) (rowId : Nat) :
    Keeping carries keeps (w.deleteStoredBatch rowId) := by
  refine keeping.alter rfl rfl fun id batch left isLeft holds => ?_
  split_ifs at isLeft
  cases isLeft
  exact holds

theorem deleteIds (keeping : Keeping carries keeps w) (exchanges : w'.link.exchanges = w.link.exchanges)
    {ids : List Nat} (pending : w'.db.pending = w.db.pending.deleteIds ids) : Keeping carries keeps w' := by
  refine keeping.alter exchanges pending fun id batch left isLeft holds => ?_
  split_ifs at isLeft
  cases isLeft
  exact holds

theorem rewrite (keeping : Keeping carries keeps w) (rowId : Nat) {documents : List Document}
    (carriesAll : ∀ d ∈ documents, carries d) : Keeping carries keeps (w.rewriteStoredBatch rowId documents) := by
  refine keeping.alter rfl rfl fun id batch left isLeft holds => ?_
  split_ifs at isLeft <;> cases isLeft
  · exact carriesAll
  · exact holds

theorem deadLetterBatch (keeping : Keeping carries keeps w) (env : Surroundings) (batch : List Value) (status : Nat)
    (detail : Text) (createdAt : Option Time) :
    Keeping carries keeps (deadLetterBatch env batch status detail createdAt w) := by
  unfold Agent.deadLetterBatch
  split_ifs
  · cases dumps batch <;> exact keeping.congr rfl rfl
  · exact keeping

theorem storeBatchToDb (keeping : Keeping carries keeps w) (env : Surroundings) {batch : List Value}
    (carried : Carried carries batch) : Keeping carries keeps (storeBatchToDb env batch w) := by
  unfold Agent.storeBatchToDb
  split_ifs
  on_goal 2 => exact keeping
  cases written : dumps batch with
  | none => exact keeping.congr rfl rfl
  | some documents =>
    dsimp only
    refine @Keeping.deleteIds carries keeps { w with db := { w.db with pending := w.db.pending.insert _ } } _
      ⟨keeping.exchanges, fun row mem => ?_⟩ rfl _ rfl
    rcases List.mem_append.mp mem with old | new
    · exact keeping.pending row old
    · rw [List.mem_singleton.mp new]
      exact carried.dumps written

theorem moveToDeadLetters (keeping : Keeping carries keeps w) (env : Surroundings) (rowId status : Nat)
    (detail : Text) : Keeping carries keeps (w.moveToDeadLetters env rowId status detail) := by
  unfold World.moveToDeadLetters Db.moveToDeadLetters
  dsimp only
  cases w.db.pending.get? rowId with
  | none => exact keeping.congr rfl rfl
  | some batch => exact (keeping.delete rowId).congr rfl rfl

theorem keepUnsent (keeping : Keeping carries keeps w) (stored : StoredBatch) {unsent : List Value}
    (carried : Carried carries unsent) : Keeping carries keeps (w.keepUnsent stored unsent) := by
  unfold World.keepUnsent
  split_ifs
  · exact keeping.delete stored.rowId
  · cases written : dumps unsent with
    | none => exact keeping
    | some left => exact keeping.rewrite stored.rowId (carried.dumps written)
  · exact keeping

theorem deleteAll (keeping : Keeping carries keeps w) (group : List StoredBatch) :
    Keeping carries keeps (group.foldl (fun w stored => w.deleteStoredBatch stored.rowId) w) := by
  induction group generalizing w with
  | nil => exact keeping
  | cons stored rest ih => exact ih (keeping.delete stored.rowId)

end Keeping

namespace Answering

variable {env : Surroundings} {carries : Document → Prop} {keeps : List Exchange → Prop}

theorem tryPost (answering : Answering env carries keeps) {batch : List Value} (carried : Carried carries batch)
    {link : Link} (kept : keeps link.exchanges) : keeps (tryPost env batch link).2.exchanges := by
  unfold Agent.tryPost
  cases encoded : body batch with
  | none => exact kept
  | some documents =>
    have more := answering link.exchanges documents (carried.body encoded) kept
    dsimp only
    cases answer : env.server link.exchanges documents with
    | noAnswer => rw [answer] at more; exact more
    | response status text =>
      rw [answer] at more
      dsimp only
      split <;> exact more

theorem postLoop (answering : Answering env carries keeps) {batch : List Value} (carried : Carried carries batch)
    (tries : Nat) (status : Option Nat) (detail : Text) {link : Link} (kept : keeps link.exchanges) :
    keeps (postLoop env batch tries status detail link).2.exchanges := by
  induction tries generalizing status detail link with
  | zero => exact kept
  | succ tries ih =>
    rw [Agent.postLoop]
    rcases looked : link.isStopped env with ⟨stopped, link'⟩
    have same : link'.exchanges = link.exchanges := by
      rw [← Link.exchanges_isStopped env link, looked]
    have kept' : keeps link'.exchanges := by rw [same]; exact kept
    cases stopped with
    | true => exact kept'
    | false =>
      dsimp only
      have tried := answering.tryPost carried kept'
      rcases trying : Agent.tryPost env batch link' with ⟨e | posted | ⟨status, detail⟩, link''⟩ <;>
        rw [trying] at tried
      · exact tried
      · exact tried
      · dsimp only at tried ⊢
        rcases lookedAgain : link''.isStopped env with ⟨stopped, last⟩
        have sameAgain : last.exchanges = link''.exchanges := by
          rw [← Link.exchanges_isStopped env link'', lookedAgain]
        have keptAgain : keeps last.exchanges := by rw [sameAgain]; exact tried
        cases stopped with
        | true => exact keptAgain
        | false => exact ih status detail keptAgain

theorem postBatch (answering : Answering env carries keeps) {batch : List Value} (carried : Carried carries batch)
    {w : World} (keeping : Keeping carries keeps w) :
    Keeping carries keeps { w with link := (postBatch env batch w.link).2 } :=
  ⟨answering.postLoop carried env.config.maxRetries none [] keeping.exchanges, keeping.pending⟩

/-- What is not sent of a batch in parts is of the kind as well. -/
structure Parted (carries : Document → Prop) (keeps : List Exchange → Prop) (ran : Except PyError Split × World) :
    Prop where
  keeping : Keeping carries keeps ran.2
  unsent : ∀ split, ran.1 = .ok split → Carried carries (split.untried ++ split.refused)

theorem sendParts (answering : Answering env carries keeps) (createdAt : Option Time) (work : List (List Value))
    (split : Split) (w : World) (parts : ∀ part ∈ work, Carried carries part)
    (untried : Carried carries split.untried) (refused : Carried carries split.refused)
    (keeping : Keeping carries keeps w) : Parted carries keeps (sendParts env createdAt work split w) := by
  induction work, split, w using Agent.sendParts.induct env createdAt with
  | case1 split w =>
    rw [Agent.sendParts]
    exact ⟨keeping, fun _ same => by cases same; exact untried.append refused⟩
  | case2 part work split w stopped ih =>
    obtain ⟨here, others⟩ := List.forall_mem_cons.mp parts
    rw [Agent.sendParts, if_pos stopped]
    exact ih others (untried.append here) refused keeping
  | case3 part work split w going e link posted =>
    have made := answering.postBatch (parts part (List.mem_cons_self ..)) keeping
    rw [posted] at made
    rw [Agent.sendParts, if_neg going, posted]
    exact ⟨made, fun _ same => by cases same⟩
  | case4 part work split w going posted link isPosted w' sent ih =>
    obtain ⟨here, others⟩ := List.forall_mem_cons.mp parts
    have made := answering.postBatch here keeping
    rw [isPosted] at made
    rw [Agent.sendParts, if_neg going, isPosted]
    dsimp only
    rw [sent]
    exact ih others untried refused made
  | case5 part work split w going posted link isPosted w' status hasStatus permanent ih =>
    obtain ⟨here, others⟩ := List.forall_mem_cons.mp parts
    have made := answering.postBatch here keeping
    rw [isPosted] at made
    rw [Agent.sendParts, if_neg going, isPosted]
    dsimp only
    rw [permanent, hasStatus]
    exact ih others untried refused (made.deadLetterBatch env part status posted.detail createdAt)
  | case6 part work split w going posted link isPosted w' tooLarge long ih =>
    obtain ⟨here, others⟩ := List.forall_mem_cons.mp parts
    have made := answering.postBatch here keeping
    rw [isPosted] at made
    rw [Agent.sendParts, if_neg going, isPosted]
    dsimp only
    rw [tooLarge]
    dsimp only
    rw [dif_pos long]
    exact ih (List.forall_mem_append.mpr ⟨carried_halves here, others⟩) untried refused made
  | case7 part work split w going posted link isPosted w' tooLarge short refused' stop ih =>
    obtain ⟨here, others⟩ := List.forall_mem_cons.mp parts
    have made := answering.postBatch here keeping
    rw [isPosted] at made
    rw [Agent.sendParts, if_neg going, isPosted]
    dsimp only
    rw [tooLarge]
    dsimp only
    rw [dif_neg short]
    exact ih others untried (refused.append here) made
  | case8 part work split w going posted link isPosted w' unsent small lenient ih =>
    obtain ⟨here, others⟩ := List.forall_mem_cons.mp parts
    have made := answering.postBatch here keeping
    rw [isPosted] at made
    rw [Agent.sendParts, if_neg going, isPosted]
    dsimp only
    split
    · exact absurd ‹_› unsent
    · exact absurd ‹posted.status = some _› (lenient _ ‹_›)
    · exact absurd ‹_› small
    · exact ih others (untried.append here) refused made

/-- So with what is left of the whole batch. -/
structure SentInParts (carries : Document → Prop) (keeps : List Exchange → Prop)
    (ran : Except PyError (Delivery × List Value) × World) : Prop where
  keeping : Keeping carries keeps ran.2
  unsent : ∀ outcome unsent, ran.1 = .ok (outcome, unsent) → Carried carries unsent

theorem sendInParts (answering : Answering env carries keeps) {batch : List Value} (carried : Carried carries batch)
    (createdAt : Option Time) {w : World} (keeping : Keeping carries keeps w) :
    SentInParts carries keeps (sendInParts env batch createdAt w) := by
  unfold Agent.sendInParts
  split_ifs with single
  · exact ⟨keeping, fun _ _ same => by cases same; exact carried⟩
  · have nothing : Carried carries [] := fun _ mem => by cases mem
    have parts := answering.sendParts createdAt (halves batch) {} w (carried_halves carried) nothing nothing keeping
    rcases ran : Agent.sendParts env createdAt (halves batch) {} w with ⟨e | split, w'⟩ <;> rw [ran] at parts
    · exact ⟨parts.keeping, fun _ _ same => by cases same⟩
    · dsimp only
      split_ifs <;> exact ⟨parts.keeping, fun _ _ same => by cases same; exact parts.unsent split rfl⟩

theorem deliver (answering : Answering env carries keeps) {batch : List Value} (carried : Carried carries batch)
    {w : World} (keeping : Keeping carries keeps w) : Keeping carries keeps (deliver env batch w).2 := by
  have made := answering.postBatch carried keeping
  unfold Agent.deliver
  rcases ran : Agent.postBatch env batch w.link with ⟨e | posted, link⟩ <;> rw [ran] at made
  · exact made
  have storing {unsent : List Value} (carriedHere : Carried carries unsent) {v : World}
      (keepingHere : Keeping carries keeps v) :
      Keeping carries keeps (if unsent ≠ [] then storeBatchToDb env unsent v else v) := by
    split_ifs
    · exact keepingHere.storeBatchToDb env carriedHere
    · exact keepingHere
  dsimp only
  split
  · exact made
  · exact made.deadLetterBatch env batch _ _ none
  · have parts := answering.sendInParts carried none made
    rcases split : Agent.sendInParts env batch none { w with link } with ⟨e | ⟨outcome, unsent⟩, w'⟩ <;>
      rw [split] at parts
    · exact parts.keeping
    · exact storing (parts.unsent outcome unsent rfl) parts.keeping
  · exact storing carried made

theorem sendBatch (answering : Answering env carries keeps) {batch : List Value} (carried : Carried carries batch)
    {w : World} (keeping : Keeping carries keeps w) : Keeping carries keeps (sendBatch env batch w).2 := by
  unfold Agent.sendBatch
  split_ifs
  · exact keeping
  · have delivered := answering.deliver carried keeping
    rcases ran : Agent.deliver env batch w with ⟨e | outcome, w'⟩ <;> rw [ran] at delivered <;> exact delivered

/-! ## And a replay pass -/

/-- The results of a stored batch are of the kind. -/
def Holds (carries : Document → Prop) (stored : StoredBatch) : Prop := ∀ d ∈ stored.checks, carries d

theorem replayInParts (answering : Answering env carries keeps) {stored : StoredBatch} (holds : Holds carries stored)
    {w : World} (keeping : Keeping carries keeps w) : Keeping carries keeps (replayInParts env stored w).2 := by
  have parts := answering.sendInParts (carried_loads holds) (some stored.createdAt) keeping
  unfold Agent.replayInParts
  rcases ran : Agent.sendInParts env (loads stored.checks) (some stored.createdAt) w with ⟨e | ⟨got, unsent⟩, w'⟩ <;>
    rw [ran] at parts
  · exact parts.keeping
  · have kept := parts.keeping.keepUnsent stored (parts.unsent got unsent rfl)
    dsimp only
    split_ifs
    · exact kept.congr rfl rfl
    · exact kept

/-- A way to replay one stored batch that keeps the property. -/
def Keeps (carries : Document → Prop) (keeps : List Exchange → Prop) (replay : StoredBatch → World → Replayed) : Prop :=
  ∀ stored w, Holds carries stored → Keeping carries keeps w → Keeping carries keeps (replay stored w).2

theorem replayEach {replayOne : StoredBatch → World → Replayed} (one : Keeps carries keeps replayOne)
    {group : List StoredBatch} (holds : ∀ stored ∈ group, Holds carries stored) {w : World}
    (keeping : Keeping carries keeps w) : Keeping carries keeps (replayEach env replayOne group w).2 := by
  induction group generalizing w with
  | nil => exact keeping
  | cons stored rest ih =>
    obtain ⟨here, others⟩ := List.forall_mem_cons.mp holds
    rw [Agent.replayEach, World.isStopped, Link.isStopped]
    cases env.stopped w.link.looks with
    | true => exact keeping.congr rfl rfl
    | false =>
      dsimp only
      have replayed := one stored { w with link := { w.link with looks := w.link.looks + 1 } } here
        (keeping.congr rfl rfl)
      rcases ran : replayOne stored { w with link := { w.link with looks := w.link.looks + 1 } }
        with ⟨e | goesOn, w'⟩ <;> rw [ran] at replayed
      · exact replayed
      · cases goesOn with
        | true => exact ih others replayed
        | false => exact replayed

theorem settleGroup (answering : Answering env carries keeps) {replayOne : StoredBatch → World → Replayed}
    (one : Keeps carries keeps replayOne) {group : List StoredBatch} (holds : ∀ stored ∈ group, Holds carries stored)
    {w : World} (keeping : Keeping carries keeps w) : Keeping carries keeps (settleGroup env replayOne group w).2 := by
  have carried : Carried carries (loads (group.flatMap (·.checks))) := by
    refine carried_loads fun d mem => ?_
    obtain ⟨stored, isIn, within⟩ := List.mem_flatMap.mp mem
    exact holds stored isIn d within
  have made := answering.postBatch carried keeping
  rcases posting : Agent.postBatch env (loads (group.flatMap (·.checks))) w.link with ⟨e | posted, link⟩
  all_goals
    rw [posting] at made
    simp only [Agent.settleGroup, posting]
  · exact made
  split
  · exact made.deleteAll _
  · exact answering.replayInParts (holds _ (List.mem_singleton.mpr rfl)) made
  · exact made
  · exact made
  · exact made.moveToDeadLetters env _ _ _
  · exact replayEach one holds made

theorem replayOne (answering : Answering env carries keeps) : Keeps carries keeps (Agent.replayOne env) := by
  intro stored w holds keeping
  exact answering.settleGroup (fun _ _ _ keeping => keeping) (List.forall_mem_singleton.mpr holds) keeping

theorem replayPending (answering : Answering env carries keeps) {pending group : List StoredBatch} (size : Nat)
    (unread : ∀ stored ∈ pending, Holds carries stored) (holds : ∀ stored ∈ group, Holds carries stored) {w : World}
    (keeping : Keeping carries keeps w) : Keeping carries keeps (replayPending env pending group size w).2 := by
  have grouped {group : List StoredBatch} (holds : ∀ stored ∈ group, Holds carries stored) (w : World)
      (keeping : Keeping carries keeps w) : Keeping carries keeps (replayGroup env group w).2 :=
    answering.settleGroup answering.replayOne holds keeping
  induction pending generalizing group size w with
  | nil =>
    rw [Agent.replayPending]
    split_ifs
    · exact keeping
    rw [World.isStopped, Link.isStopped]
    cases env.stopped w.link.looks with
    | true => exact keeping.congr rfl rfl
    | false =>
      dsimp only
      have replayed := grouped holds { w with link := { w.link with looks := w.link.looks + 1 } }
        (keeping.congr rfl rfl)
      rcases ran : replayGroup env group { w with link := { w.link with looks := w.link.looks + 1 } }
        with ⟨e | goesOn, w'⟩ <;> rw [ran] at replayed <;> exact replayed
  | cons stored rest ih =>
    obtain ⟨here, others⟩ := List.forall_mem_cons.mp unread
    rw [Agent.replayPending, World.isStopped, Link.isStopped]
    cases env.stopped w.link.looks with
    | true => exact keeping.congr rfl rfl
    | false =>
      dsimp only
      split_ifs
      · have replayed := grouped holds { w with link := { w.link with looks := w.link.looks + 1 } }
          (keeping.congr rfl rfl)
        rcases ran : replayGroup env group { w with link := { w.link with looks := w.link.looks + 1 } }
          with ⟨e | goesOn, w'⟩ <;> rw [ran] at replayed
        · exact replayed
        · cases goesOn with
          | true => exact ih stored.checks.length others (List.forall_mem_singleton.mpr here) replayed
          | false => exact replayed
      · refine ih _ others (List.forall_mem_append.mpr ⟨holds, List.forall_mem_singleton.mpr here⟩) ?_
        exact keeping.congr rfl rfl

theorem processStoredReports (env : Surroundings) {w : World} (keeping : Keeping carries keeps w) :
    Keeping carries keeps (w.processStoredReports env).2 := by
  unfold World.processStoredReports
  dsimp only
  split_ifs
  · exact keeping.deleteIds rfl rfl
  · exact keeping.deleteIds rfl rfl

theorem replayPass (answering : Answering env carries keeps) {w : World} (keeping : Keeping carries keeps w) :
    Keeping carries keeps (replayPass env w) := by
  have read := processStoredReports env keeping
  have fetched := (processStoredReports_fetched env w).1
  unfold Agent.replayPass
  rcases reading : w.processStoredReports env with ⟨pending, w'⟩
  rw [reading] at read fetched
  have holds : ∀ stored ∈ pending, Holds carries stored := by
    intro stored mem
    obtain ⟨row, within, -, -, payload⟩ := fetched stored mem
    have held := read.pending row within
    rwa [documents_of_payload payload] at held
  cases pending with
  | nil => exact read
  | cons stored rest =>
    dsimp only
    rw [World.isStopped, Link.isStopped]
    cases env.stopped w'.link.looks with
    | true => exact read.congr rfl rfl
    | false => exact answering.replayPending 0 holds (fun _ mem => by cases mem) (read.congr rfl rfl)

/-- **What every POST keeps**, a run keeps. -/
theorem reported (answering : Answering env carries keeps) {calls : List ReporterCall}
    (carried : ∀ call ∈ calls, Carried carries call.results) {w : World} (keeping : Keeping carries keeps w) :
    Keeping carries keeps (reported env w calls) := by
  induction calls generalizing w with
  | nil => exact keeping
  | cons call rest ih =>
    obtain ⟨here, others⟩ := List.forall_mem_cons.mp carried
    refine ih others ?_
    cases call with
    | sendBatch batch => exact answering.sendBatch here keeping
    | replayPass => exact answering.replayPass keeping

end Answering

/-- Every exchange is one that the server had. -/
def AllServed (env : Surroundings) (exchanges : List Exchange) : Prop := ∀ exchange ∈ exchanges, exchange.Served env

theorem answering_allServed (env : Surroundings) : Answering env (fun _ => True) (AllServed env) := by
  intro exchanges documents _ served
  refine List.forall_mem_append.mpr ⟨served, ?_⟩
  rw [List.forall_mem_singleton]
  exact ⟨exchanges, rfl⟩

theorem AllServed.keeping {env : Surroundings} {w : World} (served : AllServed env w.link.exchanges) :
    Keeping (fun _ => True) (AllServed env) w := ⟨served, fun _ _ _ _ => trivial⟩

theorem carried_any (batch : List Value) : Carried (fun _ => True) batch := fun _ _ _ => trivial

/-! ## Where every result is -/

/-- The results in the pending rows. -/
def pendingHeld (table : Table PendingBatch) : Multiset Value :=
  (table.rows.map fun row => held row.data.documents).sum

/-- The results that a 2xx answered, that were written to dead letters, or that wait. -/
def World.accounted (env : Surroundings) (w : World) : Multiset Value :=
  held (delivered env.nesting w.link.exchanges) + held (letterDocuments w.db.deadLetters.inserted) +
    pendingHeld w.db.pending

/-- At each batch sent there is room for a pending row. -/
def Roomy (env : Surroundings) : World → List ReporterCall → Prop
  | _, [] => True
  | w, .sendBatch batch :: rest =>
    w.db.pending.rows.length < env.config.maxStoredBatches ∧ Roomy env (ReporterCall.run env w (.sendBatch batch)) rest
  | w, .replayPass :: rest => Roomy env (ReporterCall.run env w .replayPass) rest

section Accounts

variable {env : Surroundings} {w w' : World}

theorem pendingHeld_insertPending {cap : Nat} {batch : PendingBatch} {table : Table PendingBatch}
    (room : table.rows.length < cap) :
    pendingHeld (insertPending cap batch table) = pendingHeld table + held batch.documents := by
  rw [insertPending_of_lt room, pendingHeld, Table.insert, List.map_append, List.sum_append, List.map_singleton,
    List.sum_singleton, pendingHeld]

/-- What a batch leaves is all accounted for. -/
theorem Left.accounted {made : List Exchange} {letters : List DeadLetter} {stored : Option PendingBatch}
    (left : Left env w w' made letters stored) (room : w.db.pending.rows.length < env.config.maxStoredBatches) :
    w'.accounted env = w.accounted env +
      (held (delivered env.nesting made) + held (letterDocuments letters) + held (storedDocuments stored)) := by
  have pending : pendingHeld w'.db.pending = pendingHeld w.db.pending + held (storedDocuments stored) := by
    rw [left.pending]
    cases stored with
    | none => exact (add_zero _).symm
    | some batch => exact pendingHeld_insertPending room
  rw [World.accounted, World.accounted, left.exchanges, left.deadLetters, inserted_insertDeadLetters, pending,
    delivered_append, letterDocuments_append, held_append, held_append]
  abel

/-- So is what a pass does. -/
theorem PassDone.accounted {ids : List Nat} {made : List Exchange} {letters : List DeadLetter}
    (done : PassDone env ids w w' made letters) : w'.accounted env = w.accounted env := by
  have total : pendingHeld w.db.pending = held (delivered env.nesting made) + held (letterDocuments letters) +
      pendingHeld w'.db.pending := done.rows.total
  rw [World.accounted, World.accounted, done.exchanges, done.deadLetters, inserted_insertDeadLetters, total,
    delivered_append, letterDocuments_append, held_append, held_append]
  abel

/-- A row that does not decode holds no result. -/
theorem pendingHeld_deleteCorrupt (rows : List (Row PendingBatch)) (table : Table PendingBatch)
    (sub : ∀ row ∈ rows, row ∈ table.rows) :
    pendingHeld (table.deleteIds (corruptIds rows)) = pendingHeld table := by
  rw [pendingHeld, Table.deleteIds, Table.sum_alter, pendingHeld]
  refine congrArg List.sum (List.map_congr_left fun row mem => ?_)
  by_cases corrupt : row.id ∈ corruptIds rows
  · obtain ⟨other, isCorrupt, same⟩ := List.mem_map.mp corrupt
    obtain ⟨within, none⟩ := List.mem_filter.mp isCorrupt
    obtain rfl := Table.eq_of_id_eq (sub other within) mem same
    have empty : other.data.documents = [] := by
      rw [PendingBatch.documents, Option.isNone_iff_eq_none.mp none, Option.getD_none]
    simp [Table.alterRow, corrupt, empty]
  · simp [Table.alterRow, corrupt]

theorem accounted_processStoredReports (env : Surroundings) (w : World) :
    (w.processStoredReports env).2.accounted env = w.accounted env := by
  have kept (sizeHeld : List Nat) :
      pendingHeld (w.db.pending.deleteIds (corruptIds (w.db.readPending sizeHeld env.config.maxFilesPerBatch))) =
        pendingHeld w.db.pending := by
    refine pendingHeld_deleteCorrupt _ _ fun row isRead => ?_
    exact (Table.mem_orderBy _).mp (List.mem_of_mem_filter (List.mem_of_mem_take isRead))
  unfold World.processStoredReports
  dsimp only
  rw [World.accounted, World.accounted]
  split_ifs
  · rw [kept []]
  · rw [kept w.sizeHeld]

/-- **A batch** is accounted for. -/
theorem accounted_sendBatch (storage : env.config.enableLocalStorage = true) (classified : Classified env)
    {batch : List Value} (dumpable : ∀ v ∈ batch, v.dumpable = true) (served : AllServed env w.link.exchanges)
    (room : w.db.pending.rows.length < env.config.maxStoredBatches) :
    (sendBatch env batch w).2.accounted env = w.accounted env + tally batch := by
  by_cases empty : batch = []
  · subst empty
    rw [sendBatch, if_pos rfl, tally, List.map_nil]
    exact (add_zero _).symm
  have after : (sendBatch env batch w).2 = (deliver env batch w).2 := by
    rw [sendBatch, if_neg empty]
    rcases deliver env batch w with ⟨e | outcome, w'⟩ <;> rfl
  rw [after]
  obtain ⟨made, letters, stored, left, ended⟩ := deliver_conserves storage dumpable w
  -- every exchange was had with the server, so no answer raises
  have calm : Calm env.nesting made := by
    refine classified.calm fun exchange isMade => ?_
    have all := ((answering_allServed env).deliver (carried_any batch) served.keeping).exchanges
    rw [left.exchanges] at all
    exact all exchange (List.mem_append_right _ isMade)
  rw [left.accounted room]
  cases delivery : (deliver env batch w).1 with
  | error e =>
    rw [delivery] at ended
    exact absurd calm ended
  | ok outcome =>
    rw [delivery] at ended
    rw [ended.2]

/-- **A pass** loses none. -/
theorem accounted_replayPass (storage : env.config.enableLocalStorage = true) (classified : Classified env)
    (w : World) : (replayPass env w).accounted env = w.accounted env := by
  obtain ⟨fetched, nodup⟩ := processStoredReports_fetched env w
  have read := accounted_processStoredReports env w
  unfold replayPass
  rcases reading : w.processStoredReports env with ⟨pending, w'⟩
  rw [reading] at fetched nodup read
  cases pending with
  | nil => exact read
  | cons stored rest =>
    dsimp only
    rw [World.isStopped, Link.isStopped]
    cases env.stopped w'.link.looks with
    | true => exact read
    | false =>
      obtain ⟨made, letters, -, done⟩ := replayPending_done storage classified (stored :: rest) [] 0
        { w' with link := { w'.link with looks := w'.link.looks + 1 } } fetched nodup
      rw [done.accounted]
      exact read

/-- **No result is lost.** Over any calls, with a server whose answers are classified and
room for the batches it does not take, every result handed over is in a part a 2xx
answered, in a dead letter or in a pending row. -/
theorem reported_accounted (storage : env.config.enableLocalStorage = true) (classified : Classified env)
    {calls : List ReporterCall} (dumpable : ∀ call ∈ calls, ∀ v ∈ call.results, v.dumpable = true)
    (served : AllServed env w.link.exchanges) (roomy : Roomy env w calls) :
    (reported env w calls).accounted env = w.accounted env + tally (calls.flatMap ReporterCall.results) := by
  induction calls generalizing w with
  | nil => exact (add_zero _).symm
  | cons call rest ih =>
    obtain ⟨here, others⟩ := List.forall_mem_cons.mp dumpable
    have nextServed : AllServed env (ReporterCall.run env w call).link.exchanges :=
      ((answering_allServed env).reported (List.forall_mem_singleton.mpr (carried_any call.results))
        served.keeping).exchanges
    rw [List.flatMap_cons, tally, List.map_append, ← Multiset.coe_add, ← tally, ← tally]
    show (reported env (ReporterCall.run env w call) rest).accounted env = _
    cases call with
    | sendBatch batch =>
      obtain ⟨room, roomyAfter⟩ := roomy
      have dumpableBatch : ∀ v ∈ batch, v.dumpable = true := here
      rw [ih others nextServed roomyAfter, ReporterCall.run,
        accounted_sendBatch storage classified dumpableBatch served room, add_assoc]
      rfl
    | replayPass =>
      rw [ih others nextServed roomy, ReporterCall.run, accounted_replayPass storage classified]
      simp [ReporterCall.results, tally]

end Accounts

end LuxSwirl.Agent
