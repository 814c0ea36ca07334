import LuxSwirl.Agent.HealthyServer
import LuxSwirl.Lib.Rounds

/-!
# A row over the size limit

A server answers 413 to some results even alone, takes the others alone, and may answer
413 to any two or more. `_send_in_parts` then gives up at two refused results with
nothing sent, and puts them behind the others, so one replay of a row is a `Round` over
its results (`replayOne_round`), and enough of them deliver all that the server takes
(`replays_deliver`).
-/

namespace LuxSwirl.Agent
open LuxSwirl.Py LuxSwirl.Lib

/-- The agent runs and tries at least once; nothing it posts is answered but with a 2xx
or a 413, a result alone by whether it is too big. -/
structure SizeLimited (env : Surroundings) (big : Document → Bool) : Prop where
  retries : 0 < env.config.maxRetries
  running : ∀ n, env.stopped n = false
  alone : ∀ exchanges result,
    (env.server exchanges [result]).verdict env.nesting = .ok (if big result then .tooLarge else .sent)
  several : ∀ exchanges documents, documents.length ≠ 1 →
    (env.server exchanges documents).verdict env.nesting = .ok .tooLarge ∨
      (env.server exchanges documents).verdict env.nesting = .ok .sent ∧ ∀ result ∈ documents, big result = false

/-- The pending row with that id, if it decodes. -/
def World.stored? (rowId : Nat) (w : World) : Option StoredBatch :=
  (w.db.pending.get? rowId).bind fun batch =>
    batch.payload.map fun checks => { rowId, createdAt := batch.createdAt, checks }

/-- The results left in the row. -/
def World.resultsLeft (rowId : Nat) (w : World) : List Document := ((w.stored? rowId).map (·.checks)).getD []

/-- So many replays of the row, as long as it is there. -/
def replays (env : Surroundings) (rowId : Nat) : Nat → World → World
  | 0, w => w
  | n + 1, w =>
    match w.stored? rowId with
    | none => w
    | some stored => replays env rowId n (replayOne env stored w).2

/-! ## A POST -/

namespace SizeLimited

variable {env : Surroundings} {big : Document → Bool}

/-- A POST of results is answered with a 2xx when none is too big, or else with a 413. -/
theorem post (limited : SizeLimited env big) {documents : List Document}
    (strict : ∀ result ∈ documents, result.value.strict = true) (link : Link) :
    ∃ posted link' made, postBatch env (loads documents) link = (.ok posted, link') ∧
      link'.exchanges = link.exchanges ++ made ∧
      (posted.outcome = .sent ∧ (∀ result ∈ documents, big result = false) ∧ delivered env.nesting made = documents ∨
        posted.outcome = .tooLarge ∧ (∀ result, documents = [result] → big result = true) ∧
          delivered env.nesting made = []) := by
  have carried := body_loads strict
  have answered : (env.server link.exchanges documents).verdict env.nesting = .ok .tooLarge ∧
        (∀ result, documents = [result] → big result = true) ∨
      (env.server link.exchanges documents).verdict env.nesting = .ok .sent ∧ ∀ result ∈ documents, big result = false := by
    by_cases single : documents.length = 1
    · obtain ⟨result, rfl⟩ := List.length_eq_one_iff.mp single
      have verdict := limited.alone link.exchanges result
      cases isBig : big result with
      | true =>
        rw [isBig, if_pos rfl] at verdict
        refine .inl ⟨verdict, fun other same => ?_⟩
        rwa [← (List.cons.inj same).1]
      | false =>
        rw [isBig, if_neg Bool.false_ne_true] at verdict
        exact .inr ⟨verdict, fun other mem => by rwa [List.mem_singleton.mp mem]⟩
    · rcases limited.several link.exchanges documents single with tooLarge | sent
      · exact .inl ⟨tooLarge, fun result same => absurd (by rw [same]; rfl) single⟩
      · exact .inr sent
  rcases answered with ⟨verdict, alone⟩ | ⟨verdict, fits⟩
  · obtain ⟨posted, link', posting, isOutcome, exchanges⟩ :=
      postBatch_answered limited.retries limited.running carried link verdict (by decide)
    refine ⟨posted, link', _, posting, exchanges, .inr ⟨isOutcome, alone, ?_⟩⟩
    simp only [delivered, List.flatMap_cons, List.flatMap_nil, Exchange.delivered, Exchange.verdict, verdict,
      List.append_nil]
  · obtain ⟨posted, link', posting, isOutcome, exchanges⟩ :=
      postBatch_answered limited.retries limited.running carried link verdict (by decide)
    refine ⟨posted, link', _, posting, exchanges, .inl ⟨isOutcome, fits, ?_⟩⟩
    simp only [delivered, List.flatMap_cons, List.flatMap_nil, Exchange.delivered, Exchange.verdict, verdict,
      List.append_nil]

end SizeLimited

/-! ## Sending in parts -/

theorem halves_loads (documents : List Document) :
    halves (loads documents) =
      [documents.take (documents.length / 2), documents.drop (documents.length / 2)].map loads := by
  rw [halves, length_loads, loads, ← List.map_take, ← List.map_drop]
  rfl

/-- Where the split of a row ends, with the results delivered meanwhile: it is stopped
already, goes on to the end, or stops at a second refused result with nothing sent. -/
inductive SplitEnds (big : Document → Bool) (items : List Document) (split : Split) :
    List Document → Split → Prop
  | stopped (isStopped : split.stop.isSome = true) :
      SplitEnds big items split [] { split with untried := split.untried ++ loads items }
  | through (sent : Nat) (goesOn : split.stop = none) :
      SplitEnds big items split (items.filter fun result => !big result)
        { split with refused := split.refused ++ loads (items.filter big), sent }
  | stops {front rest : List Document} (goesOn : split.stop = none) (unsent : split.sent = 0) (whole : items = front ++ rest)
      (refused : ∀ result ∈ front, big result = true) (second : split.refused.length + front.length = 2) :
      SplitEnds big items split []
        { split with
          refused := split.refused ++ loads front
          untried := split.untried ++ loads rest
          stop := some .tooLarge }

/-- A split that has not stopped has not met two refused results with nothing sent. -/
def Split.Going (split : Split) : Prop := split.stop = none → split.sent = 0 → split.refused.length ≤ 1

namespace SplitEnds

variable {big : Document → Bool} {items part sent : List Document} {split split' : Split}

theorem nil (split : Split) : SplitEnds big [] split [] split := by
  cases stop : split.stop with
  | some outcome =>
    have ends : SplitEnds big [] split [] { split with untried := split.untried ++ loads [] } :=
      .stopped (by rw [stop]; rfl)
    rwa [loads_nil, List.append_nil] at ends
  | none =>
    have ends : SplitEnds big [] split _ { split with refused := split.refused ++ loads (List.filter big []) } :=
      .through split.sent stop
    rwa [List.filter_nil, List.filter_nil, loads_nil, List.append_nil] at ends

/-- Once the split has stopped, everything else is untried. -/
theorem of_stopped (ends : SplitEnds big items split sent split') (isStopped : split.stop.isSome = true) :
    sent = [] ∧ split' = { split with untried := split.untried ++ loads items } := by
  cases ends with
  | stopped => exact ⟨rfl, rfl⟩
  | through _ goesOn => rw [goesOn] at isStopped; cases isStopped
  | stops goesOn => rw [goesOn] at isStopped; cases isStopped

/-- A part over before the split stopped: the server took it. -/
theorem after_sent (goesOn : split.stop = none) (fits : ∀ result ∈ part, big result = false)
    (ends : SplitEnds big items { split with sent := split.sent + part.length } sent split') :
    SplitEnds big (part ++ items) split (part ++ sent) split' := by
  cases ends with
  | stopped isStopped => rw [goesOn] at isStopped; cases isStopped
  | through =>
    have taken : (part ++ items).filter (fun result => !big result) =
        part ++ items.filter fun result => !big result := by
      rw [List.filter_append, List.filter_eq_self.mpr fun result mem => by rw [fits result mem]; rfl]
    have left : (part ++ items).filter big = items.filter big := by
      rw [List.filter_append, List.filter_eq_nil_iff.mpr fun result mem => by rw [fits result mem]; decide,
        List.nil_append]
    rw [← taken, ← left]
    exact .through _ goesOn
  | stops _ unsent whole refused second =>
    obtain ⟨none, empty⟩ := Nat.add_eq_zero_iff.mp unsent
    obtain rfl := List.eq_nil_of_length_eq_zero empty
    exact .stops goesOn none whole refused second

/-- One result refused, and the split stops there. -/
theorem refused_last {result : Document} (goesOn : split.stop = none) (unsent : split.sent = 0)
    (isBig : big result = true) (second : split.refused.length = 1) :
    SplitEnds big (result :: items) split []
      { split with
        refused := split.refused ++ loads [result]
        untried := split.untried ++ loads items
        stop := some .tooLarge } :=
  @SplitEnds.stops big (result :: items) split [result] items goesOn unsent rfl
    (fun other mem => by rwa [List.mem_singleton.mp mem]) (congrArg (· + 1) second)

/-- One result refused, and the split goes on. -/
theorem after_refused {result : Document} (goesOn : split.stop = none) (isBig : big result = true)
    (ends : SplitEnds big items { split with refused := split.refused ++ loads [result] } sent split') :
    SplitEnds big (result :: items) split sent split' := by
  cases ends with
  | stopped isStopped => rw [goesOn] at isStopped; cases isStopped
  | through sent =>
    have ends := @SplitEnds.through big (result :: items) split sent goesOn
    rw [List.filter_cons_of_neg (by rw [isBig]; decide), List.filter_cons_of_pos isBig] at ends
    rwa [List.append_assoc, ← loads_append]
  | @stops front rest _ unsent whole refused second =>
    have ends := @SplitEnds.stops big (result :: items) split (result :: front) rest goesOn unsent
      (congrArg (result :: ·) whole) (List.forall_mem_cons.mpr ⟨isBig, refused⟩) ?_
    · rwa [List.append_assoc, ← loads_append]
    · rw [List.length_append, length_loads] at second
      rw [List.length_cons, ← second, List.length_singleton]
      ring

/-- A part that cannot be cut refused: the split stops if it is the second with nothing sent. -/
theorem after_too_large (goesOn : split.stop = none) (going : split.sent = 0 → split.refused.length ≤ 1)
    (alone : ∀ result, part = [result] → big result = true) (short : ¬ (loads part).length > 1)
    (ends : SplitEnds big items
      { split with
        refused := split.refused ++ loads part
        stop := if (split.refused ++ loads part).length ≥ 2 ∧ split.sent = 0 then some .tooLarge else none }
      sent split') :
    SplitEnds big (part ++ items) split sent split' := by
  rcases part with _ | ⟨result, _ | ⟨other, more⟩⟩
  · rw [loads_nil, List.append_nil, if_neg fun stops => absurd (going stops.2) (Nat.not_le_of_lt stops.1),
      ← goesOn] at ends
    exact ends
  · have isBig := alone result rfl
    by_cases stops : (split.refused ++ loads [result]).length ≥ 2 ∧ split.sent = 0
    · rw [if_pos stops] at ends
      obtain ⟨rfl, rfl⟩ := ends.of_stopped rfl
      have few := going stops.2
      have many := stops.1
      rw [List.length_append, length_loads, List.length_singleton] at many
      exact refused_last goesOn stops.2 isBig (Nat.le_antisymm few (Nat.le_of_succ_le_succ many))
    · rw [if_neg stops, ← goesOn] at ends
      exact ends.after_refused goesOn isBig
  · exact absurd (by rw [length_loads]; exact Nat.le_add_left 2 _) short

end SplitEnds

theorem sendParts_limited {env : Surroundings} {big : Document → Bool} (limited : SizeLimited env big)
    (createdAt : Option Time) (work : List (List Value)) (split : Split) (w : World)
    (parts : List (List Document)) (isWork : work = parts.map loads)
    (strict : ∀ part ∈ parts, ∀ result ∈ part, result.value.strict = true) (going : split.Going) :
    ∃ made sent split', (sendParts env createdAt work split w).1 = .ok split' ∧
      (sendParts env createdAt work split w).2.db = w.db ∧
      (sendParts env createdAt work split w).2.link.exchanges = w.link.exchanges ++ made ∧
      delivered env.nesting made = sent ∧ SplitEnds big parts.flatten split sent split' := by
  fun_induction sendParts env createdAt work split w generalizing parts with
  | case1 split w =>
    obtain rfl : parts = [] := List.map_eq_nil_iff.mp isWork.symm
    exact ⟨[], [], split, rfl, rfl, (List.append_nil _).symm, rfl, .nil split⟩
  | case2 _ work split w isStopped ih =>
    obtain ⟨part, rest, rfl, rfl, rfl⟩ := List.map_eq_cons_iff.mp isWork.symm
    obtain ⟨made, sent, split', result, db, exchanges, whole, ends⟩ :=
      ih rest rfl (fun part mem => strict part (List.mem_cons_of_mem _ mem))
        (fun goesOn => by rw [goesOn] at isStopped; cases isStopped)
    obtain ⟨rfl, rfl⟩ := ends.of_stopped isStopped
    refine ⟨made, [], _, result, db, exchanges, whole, ?_⟩
    dsimp only
    rw [List.append_assoc, ← loads_append]
    exact .stopped isStopped
  | case3 _ work split w running e link posted =>
    obtain ⟨part, rest, rfl, rfl, rfl⟩ := List.map_eq_cons_iff.mp isWork.symm
    obtain ⟨posted', link', made, answered, -⟩ := limited.post (strict part List.mem_cons_self) w.link
    cases answered.symm.trans posted
  | case4 _ work split w running posted link result _ isSent ih =>
    obtain ⟨part, rest, rfl, rfl, rfl⟩ := List.map_eq_cons_iff.mp isWork.symm
    obtain ⟨posted', link', made, answered, exchanges, outcome⟩ := limited.post (strict part List.mem_cons_self) w.link
    cases answered.symm.trans result
    rcases outcome with ⟨-, fits, delivers⟩ | ⟨tooLarge, -⟩
    · have goesOn : split.stop = none := Option.not_isSome_iff_eq_none.mp running
      obtain ⟨made', sent, split', result, db, exchanges', whole, ends⟩ :=
        ih rest rfl (fun part mem => strict part (List.mem_cons_of_mem _ mem))
          (fun goesOn unsent => going goesOn (Nat.add_eq_zero_iff.mp unsent).1)
      rw [length_loads] at ends
      refine ⟨made ++ made', part ++ sent, split', result, db, ?_, ?_, ends.after_sent goesOn fits⟩
      · rw [exchanges', exchanges, List.append_assoc]
      · rw [delivered_append, delivers, whole]
    · cases tooLarge.symm.trans isSent
  | case5 _ work split w running posted link result _ status hasStatus permanent ih =>
    obtain ⟨part, rest, rfl, rfl, rfl⟩ := List.map_eq_cons_iff.mp isWork.symm
    obtain ⟨posted', link', made, answered, -, outcome⟩ := limited.post (strict part List.mem_cons_self) w.link
    cases answered.symm.trans result
    rcases outcome with ⟨sent, -⟩ | ⟨tooLarge, -⟩
    · cases sent.symm.trans permanent
    · cases tooLarge.symm.trans permanent
  | case6 _ work split w running posted link result _ isLarge long ih =>
    obtain ⟨part, rest, rfl, rfl, rfl⟩ := List.map_eq_cons_iff.mp isWork.symm
    obtain ⟨posted', link', made, answered, exchanges, outcome⟩ := limited.post (strict part List.mem_cons_self) w.link
    cases answered.symm.trans result
    rcases outcome with ⟨sent, -⟩ | ⟨-, -, delivers⟩
    · cases sent.symm.trans isLarge
    · have cut : [part.take (part.length / 2), part.drop (part.length / 2)].flatten = part := by
        rw [List.flatten_cons, List.flatten_singleton, List.take_append_drop]
      have halvesStrict : ∀ half ∈ [part.take (part.length / 2), part.drop (part.length / 2)],
          ∀ result ∈ half, result.value.strict = true := fun half mem result inside =>
        strict part List.mem_cons_self result (cut ▸ List.mem_flatten_of_mem mem inside)
      obtain ⟨made', sent, split', result, db, exchanges', whole, ends⟩ :=
        ih ([part.take (part.length / 2), part.drop (part.length / 2)] ++ rest)
          (by rw [halves_loads, List.map_append])
          (List.forall_mem_append.mpr ⟨halvesStrict, fun part mem => strict part (List.mem_cons_of_mem _ mem)⟩) going
      rw [List.flatten_append, cut] at ends
      refine ⟨made ++ made', sent, split', result, db, ?_, ?_, ends⟩
      · rw [exchanges', exchanges, List.append_assoc]
      · rw [delivered_append, delivers, whole, List.nil_append]
  | case7 _ work split w running posted link result _ isLarge short refused stop ih =>
    obtain ⟨part, rest, rfl, rfl, rfl⟩ := List.map_eq_cons_iff.mp isWork.symm
    obtain ⟨posted', link', made, answered, exchanges, outcome⟩ := limited.post (strict part List.mem_cons_self) w.link
    cases answered.symm.trans result
    have goesOn : split.stop = none := Option.not_isSome_iff_eq_none.mp running
    rcases outcome with ⟨sent, -⟩ | ⟨-, alone, delivers⟩
    · cases sent.symm.trans isLarge
    · have goes : Split.Going { split with refused, stop } := fun goes unsent => by
        by_contra many
        refine absurd goes ?_
        exact ne_of_eq_of_ne (dif_pos ⟨Nat.lt_of_not_le many, unsent⟩) (Option.some_ne_none _)
      obtain ⟨made', sent, split', result, db, exchanges', whole, ends⟩ :=
        ih rest rfl (fun part mem => strict part (List.mem_cons_of_mem _ mem)) goes
      refine ⟨made ++ made', sent, split', result, db, ?_, ?_, ends.after_too_large goesOn (going goesOn) alone short⟩
      · rw [exchanges', exchanges, List.append_assoc]
      · rw [delivered_append, delivers, whole, List.nil_append]
  | case8 _ work split w running posted link result _ notSent notLarge notPermanent ih =>
    obtain ⟨part, rest, rfl, rfl, rfl⟩ := List.map_eq_cons_iff.mp isWork.symm
    obtain ⟨posted', link', made, answered, -, outcome⟩ := limited.post (strict part List.mem_cons_self) w.link
    cases answered.symm.trans result
    rcases outcome with ⟨sent, -⟩ | ⟨tooLarge, -⟩
    · exact absurd sent notSent
    · exact absurd tooLarge notLarge

/-! ## A replay of the row -/

theorem sizeHeld_deadLetterBatch (env : Surroundings) (batch : List Value) (statusCode : Nat) (detail : Text)
    (createdAt : Option Time) (w : World) :
    (deadLetterBatch env batch statusCode detail createdAt w).sizeHeld = w.sizeHeld := by
  rw [deadLetterBatch]
  split_ifs
  · cases dumps batch with
    | none => rfl
    | some documents => rfl
  · rfl

/-- Sending in parts holds no row. -/
theorem sizeHeld_sendParts (env : Surroundings) (createdAt : Option Time) (work : List (List Value)) (split : Split)
    (w : World) : (sendParts env createdAt work split w).2.sizeHeld = w.sizeHeld := by
  fun_induction sendParts env createdAt work split w with
  | case1 => rfl
  | case3 => rfl
  | case5 part work split w running posted link result w' status hasStatus permanent ih =>
    exact ih.trans (sizeHeld_deadLetterBatch env part status posted.detail createdAt w')
  | case2 | case4 | case6 | case7 | case8 =>
    rename_i ih
    exact ih

theorem sendInParts_of_parts {env : Surroundings} {createdAt : Option Time} {batch : List Value} {w w' : World}
    {split : Split} (several : batch.length ≠ 1) (goesOn : split.stop ≠ some .transient)
    (parts : sendParts env createdAt (halves batch) {} w = (.ok split, w')) :
    ∃ got, sendInParts env batch createdAt w = (.ok (got, split.untried ++ split.refused), w') ∧
      got ≠ .transient ∧ (got = .tooLarge ↔ split.untried ++ split.refused ≠ []) := by
  rw [sendInParts, if_neg several, parts]
  dsimp only
  rw [if_neg goesOn]
  by_cases kept : split.untried ++ split.refused ≠ []
  · rw [if_pos kept]
    exact ⟨.tooLarge, rfl, by decide, iff_of_true rfl kept⟩
  · rw [if_neg kept]
    refine ⟨_, rfl, ?_⟩
    cases split.permanent with
    | true => exact ⟨by decide, iff_of_false (by decide) kept⟩
    | false => exact ⟨by decide, iff_of_false (by decide) kept⟩

/-- `_send_in_parts` sends a refused row's results in a round. It says too large when some are left. -/
theorem sendInParts_round {env : Surroundings} {big : Document → Bool} (limited : SizeLimited env big)
    (createdAt : Option Time) {documents : List Document} (strict : ∀ result ∈ documents, result.value.strict = true)
    (alone : ∀ result, documents = [result] → big result = true) (w : World) :
    ∃ made got left w', sendInParts env (loads documents) createdAt w = (.ok (got, loads left), w') ∧
      got ≠ .transient ∧ (got = .tooLarge ↔ left ≠ []) ∧ w'.db = w.db ∧ w'.sizeHeld = w.sizeHeld ∧
      w'.link.exchanges = w.link.exchanges ++ made ∧ Round big documents (delivered env.nesting made) left := by
  have empty (left : List Document) : loads left ≠ [] ↔ left ≠ [] := not_congr List.map_eq_nil_iff
  by_cases single : documents.length = 1
  · obtain ⟨result, rfl⟩ := List.length_eq_one_iff.mp single
    have isBig := alone result rfl
    have round : Round big _ _ _ := .through [result]
    rw [List.filter_cons_of_pos isBig, List.filter_cons_of_neg (by rw [isBig]; decide)] at round
    exact ⟨[], .tooLarge, [result], w, if_pos (length_loads [result]), by decide,
      iff_of_true rfl (List.cons_ne_nil result []), rfl, rfl, (List.append_nil _).symm, round⟩
  · have cut : [documents.take (documents.length / 2), documents.drop (documents.length / 2)].flatten = documents := by
      rw [List.flatten_cons, List.flatten_singleton, List.take_append_drop]
    obtain ⟨made, sent, split, result, db, exchanges, delivers, ends⟩ :=
      sendParts_limited limited createdAt (halves (loads documents)) {} w _ (halves_loads documents)
        (fun part mem result inside => strict result (cut ▸ List.mem_flatten_of_mem mem inside))
        (fun _ _ => Nat.zero_le 1)
    have sizeHeld := sizeHeld_sendParts env createdAt (halves (loads documents)) {} w
    rw [cut] at ends
    rcases parts : sendParts env createdAt (halves (loads documents)) {} w with ⟨_, w'⟩
    rw [parts] at result db exchanges sizeHeld
    obtain rfl := result
    have several : (loads documents).length ≠ 1 := by rwa [length_loads]
    cases ends with
    | stopped isStopped => cases isStopped
    | through =>
      obtain ⟨got, sending, definite, tooLarge⟩ := sendInParts_of_parts several (by simp) parts
      exact ⟨made, got, _, w', sending, definite, tooLarge.trans (empty _), db, sizeHeld, exchanges,
        delivers ▸ .through documents⟩
    | @stops front rest _ _ whole refused second =>
      obtain ⟨got, sending, definite, tooLarge⟩ := sendInParts_of_parts several (by simp) parts
      rw [List.length_nil, Nat.zero_add] at second
      obtain ⟨x, y, rfl⟩ := List.length_eq_two.mp second
      have unsent : ([] ++ loads rest) ++ ([] ++ loads [x, y]) = loads (rest ++ [x, y]) := (loads_append _ _).symm
      refine ⟨made, got, rest ++ [x, y], w', ?_, definite, ?_, db, sizeHeld, exchanges, ?_⟩
      · rw [sending, ← unsent]
      · exact tooLarge.trans (unsent ▸ empty _)
      · rw [delivers, whole]
        exact .stopped rest (refused x List.mem_cons_self) (refused y (List.mem_cons_of_mem _ List.mem_cons_self))

/-- The row with other results left in it, or gone when none is. -/
def StoredBatch.leaving (stored : StoredBatch) (left : List Document) : Option StoredBatch :=
  if left = [] then none else some { stored with checks := left }

theorem stored?_deleteStoredBatch (rowId : Nat) (w : World) : (w.deleteStoredBatch rowId).stored? rowId = none := by
  rw [World.stored?, World.deleteStoredBatch, Db.deleteStoredBatch, Table.get?_delete]
  rfl

theorem stored?_rewriteStoredBatch {w : World} {stored : StoredBatch}
    (here : w.stored? stored.rowId = some stored) (left : List Document) :
    (w.rewriteStoredBatch stored.rowId left).stored? stored.rowId = some { stored with checks := left } := by
  obtain ⟨batch, found, payload⟩ := Option.bind_eq_some_iff.mp here
  obtain ⟨checks, -, isStored⟩ := Option.map_eq_some_iff.mp payload
  rw [World.stored?, World.rewriteStoredBatch, Db.rewriteStoredBatch, Table.get?_update, found]
  exact congrArg (fun stored : StoredBatch => some { stored with checks := left }) isStored

theorem stored?_keepUnsent {w : World} {stored : StoredBatch} (here : w.stored? stored.rowId = some stored)
    (left : List Document) : (w.keepUnsent stored (loads left)).stored? stored.rowId = stored.leaving left := by
  have empty : loads left = [] ↔ left = [] := List.map_eq_nil_iff
  rw [World.keepUnsent, StoredBatch.leaving]
  by_cases none : left = []
  · rw [if_pos none, if_pos (empty.mpr none)]
    exact stored?_deleteStoredBatch stored.rowId w
  · rw [if_neg none, if_neg (mt empty.mp none)]
    by_cases same : loads left = loads stored.checks
    · rw [if_neg (not_not_intro same), here,
        List.map_injective_iff.mpr (fun _ _ => Document.ext) same]
    · rw [if_pos same, dumps_loads]
      exact stored?_rewriteStoredBatch here left

theorem link_keepUnsent (stored : StoredBatch) (unsent : List Value) (w : World) :
    (w.keepUnsent stored unsent).link = w.link := by
  rw [World.keepUnsent]
  split_ifs
  · rfl
  · cases dumps unsent with
    | none => rfl
    | some left => rfl
  · rfl

theorem sizeHeld_keepUnsent (stored : StoredBatch) (unsent : List Value) (w : World) :
    (w.keepUnsent stored unsent).sizeHeld = w.sizeHeld := by
  rw [World.keepUnsent]
  split_ifs
  · rfl
  · cases dumps unsent with
    | none => rfl
    | some left => rfl
  · rfl

theorem get?_deleteStoredBatch (rowId other : Nat) (w : World) :
    (w.deleteStoredBatch rowId).db.pending.get? other = if other = rowId then none else w.db.pending.get? other := by
  rw [World.deleteStoredBatch, Db.deleteStoredBatch, Table.delete, Table.get?_alter]
  split_ifs
  · exact Option.bind_fun_none _
  · exact Option.bind_fun_some _

/-- What is done to one row leaves the others. -/
theorem get?_keepUnsent {stored : StoredBatch} {rowId : Nat} (other : rowId ≠ stored.rowId) (unsent : List Value)
    (w : World) : (w.keepUnsent stored unsent).db.pending.get? rowId = w.db.pending.get? rowId := by
  rw [World.keepUnsent]
  split_ifs
  · rw [get?_deleteStoredBatch, if_neg other]
  · cases dumps unsent with
    | none => rfl
    | some left =>
      dsimp only
      rw [World.rewriteStoredBatch, Db.rewriteStoredBatch, Table.update, Table.get?_alter]
      simp only [if_neg other]
      exact Option.bind_fun_some _
  · rfl

/-- What a replay of one row leaves: the row holds what its round left, or it is gone; a row
with results left is held; the other rows are as they were. -/
structure RowReplayed (env : Surroundings) (big : Document → Bool) (stored : StoredBatch) (w w' : World)
    (made : List Exchange) (left : List Document) : Prop where
  exchanges : w'.link.exchanges = w.link.exchanges ++ made
  round : Round big stored.checks (delivered env.nesting made) left
  stays : w'.stored? stored.rowId = stored.leaving left
  gone : left = [] → w'.db.pending.get? stored.rowId = none
  sizeHeld : w'.sizeHeld = if left = [] then w.sizeHeld else stored.rowId :: w.sizeHeld
  others : ∀ rowId, rowId ≠ stored.rowId → w'.db.pending.get? rowId = w.db.pending.get? rowId

/-- **One replay of a row is a round over its results.** -/
theorem replayOne_round {env : Surroundings} {big : Document → Bool} (limited : SizeLimited env big)
    {w : World} {stored : StoredBatch} (here : w.stored? stored.rowId = some stored)
    (strict : ∀ result ∈ stored.checks, result.value.strict = true) :
    ∃ made left, (replayOne env stored w).1 = .ok true ∧
      RowReplayed env big stored w (replayOne env stored w).2 made left := by
  obtain ⟨⟨outcome, status, detail⟩, link, made, posting, exchanges, verdict⟩ := limited.post strict w.link
  have whole : [stored].flatMap (·.checks) = stored.checks := List.flatMap_singleton ..
  rcases verdict with ⟨rfl, fits, delivers⟩ | ⟨rfl, alone, nothing⟩
  · have round : Round big _ _ _ := .through stored.checks
    rw [List.filter_eq_self.mpr fun result mem => by rw [fits result mem]; rfl,
      List.filter_eq_nil_iff.mpr fun result mem => by rw [fits result mem]; decide] at round
    rw [replayOne, settleGroup, whole, posting]
    have deleted := get?_deleteStoredBatch stored.rowId
    refine ⟨made, [], rfl, exchanges, delivers ▸ round, ?_, fun _ => ?_, rfl, fun rowId other => ?_⟩
    · exact stored?_deleteStoredBatch stored.rowId { w with link }
    · exact (deleted stored.rowId { w with link }).trans (if_pos rfl)
    · exact (deleted rowId { w with link }).trans (if_neg other)
  · obtain ⟨made', got, left, w', sending, definite, tooLarge, db, sizeHeld, exchanges', round⟩ :=
      sendInParts_round limited (some stored.createdAt) strict alone { w with link }
    have here' : w'.stored? stored.rowId = some stored := by
      rw [World.stored?, db]
      exact here
    have kept : RowReplayed env big stored w
        (if got = .tooLarge then (w'.keepUnsent stored (loads left)).holdForSize stored.rowId
          else w'.keepUnsent stored (loads left)) (made ++ made') left := by
      refine ⟨?_, ?_, ?_, ?_, ?_, fun rowId other => ?_⟩
      · rw [apply_ite (fun after : World => after.link.exchanges), World.holdForSize, ite_self, link_keepUnsent,
          exchanges', exchanges, List.append_assoc]
      · rwa [delivered_append, nothing, List.nil_append]
      · rw [apply_ite (World.stored? stored.rowId)]
        exact (ite_self _).trans (stored?_keepUnsent here' left)
      · rintro rfl
        rw [if_neg (mt tooLarge.mp (not_not_intro rfl))]
        exact (get?_deleteStoredBatch stored.rowId stored.rowId w').trans (if_pos rfl)
      · by_cases none : left = []
        · rw [if_pos none, if_neg (mt tooLarge.mp (not_not_intro none)), sizeHeld_keepUnsent, sizeHeld]
        · rw [if_neg none, if_pos (tooLarge.mpr none), World.holdForSize, sizeHeld_keepUnsent, sizeHeld]
      · rw [apply_ite (fun after : World => after.db.pending.get? rowId), World.holdForSize, ite_self,
          get?_keepUnsent other, db]
    rw [replayOne, settleGroup, whole, posting]
    dsimp only
    rw [replayInParts, sending]
    exact ⟨made ++ made', left, congrArg Except.ok (decide_eq_true definite), kept⟩

/-! ## Replays -/

/-- The row holds these results, or it is gone and they are none. -/
def World.Holds (stored : StoredBatch) (w : World) : Prop :=
  w.stored? stored.rowId = some stored ∨ stored.checks = [] ∧ w.stored? stored.rowId = none

theorem World.Holds.of_leaving {w : World} {stored : StoredBatch} {left : List Document}
    (here : w.stored? stored.rowId = stored.leaving left) : w.Holds { stored with checks := left } := by
  rw [StoredBatch.leaving] at here
  split_ifs at here with none
  · exact .inr ⟨none, here⟩
  · exact .inl here

theorem World.Holds.resultsLeft {w : World} {stored : StoredBatch} (here : w.Holds stored) :
    w.resultsLeft stored.rowId = stored.checks := by
  rw [World.resultsLeft]
  rcases here with here | ⟨none, gone⟩
  · rw [here]
    rfl
  · rw [gone, none]
    rfl

theorem replays_of_gone {env : Surroundings} {rowId : Nat} {w : World} (gone : w.stored? rowId = none) (n : Nat) :
    replays env rowId n w = w := by
  cases n with
  | zero => rfl
  | succ n => rw [replays, gone]

theorem replays_rounds {env : Surroundings} {big : Document → Bool} (limited : SizeLimited env big) (n : Nat)
    (stored : StoredBatch) (w : World) (here : w.Holds stored)
    (strict : ∀ result ∈ stored.checks, result.value.strict = true) :
    ∃ made left, (replays env stored.rowId n w).link.exchanges = w.link.exchanges ++ made ∧
      Rounds big n stored.checks (delivered env.nesting made) left ∧
      (replays env stored.rowId n w).resultsLeft stored.rowId = left := by
  induction n generalizing stored w with
  | zero => exact ⟨[], stored.checks, (List.append_nil _).symm, .none _, here.resultsLeft⟩
  | succ n ih =>
    rcases here with here | ⟨none, gone⟩
    · obtain ⟨made, left, -, replayed⟩ := replayOne_round limited here strict
      obtain ⟨exchanges, round, stays, -⟩ := replayed
      obtain ⟨made', left', exchanges', rounds, settled⟩ :=
        ih { stored with checks := left } (replayOne env stored w).2 (.of_leaving stays)
          fun result mem => strict result (round.perm.mem_iff.mp (List.mem_append_right _ mem))
      rw [replays, here]
      refine ⟨made ++ made', left', ?_, ?_, settled⟩
      · rw [exchanges', exchanges, List.append_assoc]
      · rw [delivered_append]
        exact .next round rounds
    · rw [replays_of_gone gone, none]
      refine ⟨[], [], (List.append_nil _).symm, .empty _, ?_⟩
      rw [World.resultsLeft, gone]
      rfl

/-- **The results too big hold nothing back.** Half as many replays of a row as it has
results too big, and one more, deliver every other result once and leave those. -/
theorem replays_deliver {env : Surroundings} {big : Document → Bool} (limited : SizeLimited env big)
    {w : World} {stored : StoredBatch} (here : w.stored? stored.rowId = some stored)
    (carriable : stored.carriable = true) {n : Nat} (enough : (stored.checks.countP big + 1) / 2 + 1 ≤ n) :
    ∃ made, (replays env stored.rowId n w).link.exchanges = w.link.exchanges ++ made ∧
      (delivered env.nesting made).Perm (stored.checks.filter fun result => !big result) ∧
      ((replays env stored.rowId n w).resultsLeft stored.rowId).Perm (stored.checks.filter big) := by
  obtain ⟨made, left, exchanges, rounds, rfl⟩ :=
    replays_rounds limited n stored w (.inl here) (List.all_eq_true.mp carriable)
  exact ⟨made, exchanges, rounds.settled enough⟩

/-! ## A run -/

/-- Texts of two characters are too big, and two results always are. -/
def oversized (document : Document) : Bool :=
  match document.value with
  | .str content => decide (2 ≤ content.length)
  | _ => false

def narrow : Surroundings :=
  { scripted [] with
    server := fun _ documents =>
      if documents.any oversized ∨ 2 ≤ documents.length then .response 413 [] else .response 200 [] }

theorem narrow_limited : SizeLimited narrow oversized where
  retries := by decide
  running _ := rfl
  alone _ result := by
    cases isBig : oversized result with
    | true => simp [narrow, isBig, Answer.verdict, classifyResponse]
    | false => simp [narrow, isBig, Answer.verdict, classifyResponse]
  several _ documents _ := by
    by_cases refused : documents.any oversized ∨ 2 ≤ documents.length
    · left
      simp only [narrow, if_pos refused]
      rfl
    · right
      refine ⟨?_, fun result mem => Bool.eq_false_iff.mpr fun isBig => ?_⟩
      · simp only [narrow, if_neg refused]
        rfl
      · exact refused (.inl (List.any_eq_true.mpr ⟨result, mem, isBig⟩))

def threeInARow : StoredBatch where
  rowId := 0
  createdAt := 0
  checks :=
    [(Value.str (text "aa")).document rfl, (Value.str (text "bb")).document rfl, (Value.str (text "c")).document rfl]

def storing : World :=
  { fresh with
    db := { fresh.db with
      pending := Table.empty.insert { createdAt := 0, batchSize := 3, payload := some threeInARow.checks } } }

theorem replays_deliver_behind :
    ∃ made, (replays narrow 0 2 storing).link.exchanges = [] ++ made ∧
      (delivered narrow.nesting made).Perm [(Value.str (text "c")).document rfl] ∧
      ((replays narrow 0 2 storing).resultsLeft 0).Perm
        [(Value.str (text "aa")).document rfl, (Value.str (text "bb")).document rfl] :=
  @replays_deliver narrow oversized narrow_limited storing threeInARow rfl rfl 2 (by decide)

end LuxSwirl.Agent
