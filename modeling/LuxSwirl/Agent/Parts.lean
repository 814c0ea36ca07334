import LuxSwirl.Agent.Posting

/-!
# Accounts of a send

An `Account` of a stretch of work lists the exchanges it made and the dead
letters it wrote, and says it touched nothing else. Accounts of consecutive
stretches add up, so the split of an oversized batch is accounted for by
following its work list: every result that entered the split was delivered,
dead-lettered, or comes back unsent.
-/

namespace LuxSwirl.Agent
open LuxSwirl.Py LuxSwirl.Lib

/-- The dead letters of a run of inserts. -/
def insertDeadLetters (cap : Nat) (letters : List DeadLetter) (table : Table DeadLetter) :
    Table DeadLetter :=
  letters.foldl (fun table letter => insertDeadLetter cap letter table) table

/-- The results in some dead letters. -/
def letterDocuments (letters : List DeadLetter) : List Document := letters.flatMap (·.documents)

@[simp] theorem letterDocuments_nil : letterDocuments [] = [] := rfl

@[simp] theorem letterDocuments_append (xs ys : List DeadLetter) :
    letterDocuments (xs ++ ys) = letterDocuments xs ++ letterDocuments ys := by
  simp [letterDocuments]

theorem insertDeadLetters_append (cap : Nat) (xs ys : List DeadLetter) (table : Table DeadLetter) :
    insertDeadLetters cap (xs ++ ys) table =
      insertDeadLetters cap ys (insertDeadLetters cap xs table) :=
  List.foldl_append

theorem inserted_insertDeadLetters (cap : Nat) (letters : List DeadLetter)
    (table : Table DeadLetter) :
    (insertDeadLetters cap letters table).inserted = table.inserted ++ letters := by
  induction letters generalizing table with
  | nil => simp [insertDeadLetters]
  | cons letter rest ih =>
    rw [insertDeadLetters, List.foldl_cons, ← insertDeadLetters, ih]
    simp

/-- From `w` to `w'` the exchanges `made` were had with the server and the dead
letters `letters` written, and neither the pending rows nor the held ones changed. -/
structure Account (env : Surroundings) (w w' : World) (made : List Exchange)
    (letters : List DeadLetter) : Prop where
  exchanges : w'.link.exchanges = w.link.exchanges ++ made
  served : ∀ exchange ∈ made, exchange.Served env
  deadLetters : w'.db.deadLetters =
    insertDeadLetters env.config.maxDeadLetters letters w.db.deadLetters
  pending : w'.db.pending = w.db.pending
  sizeHeld : w'.sizeHeld = w.sizeHeld

namespace Account

variable {env : Surroundings} {w w' w'' : World} {made made' : List Exchange}
  {letters letters' : List DeadLetter}

theorem refl (env : Surroundings) (w : World) : Account env w w [] [] where
  exchanges := (List.append_nil _).symm
  served := by simp
  deadLetters := rfl
  pending := rfl
  sizeHeld := rfl

theorem trans (first : Account env w w' made letters) (second : Account env w' w'' made' letters') :
    Account env w w'' (made ++ made') (letters ++ letters') where
  exchanges := by rw [second.exchanges, first.exchanges, List.append_assoc]
  served := List.forall_mem_append.mpr ⟨first.served, second.served⟩
  deadLetters := by rw [second.deadLetters, first.deadLetters, insertDeadLetters_append]
  pending := second.pending.trans first.pending
  sizeHeld := second.sizeHeld.trans first.sizeHeld

/-- A POST is an account of its exchanges alone. -/
theorem ofPost {batch : List Value} {result : Except PyError Posted × Link}
    (post : PostMade env batch w.link result made) : Account env w { w with link := result.2 } made [] where
  exchanges := post.exchanges
  served := post.served
  deadLetters := rfl
  pending := rfl
  sizeHeld := rfl

end Account

/-- With local storage a batch that can be dumped becomes one dead letter. -/
theorem deadLetterBatch_account {env : Surroundings} (storage : env.config.enableLocalStorage = true)
    {batch : List Value} {documents : List Document} (written : dumps batch = some documents)
    (status : Nat) (detail : Text) (createdAt : Option Time) (w : World) :
    ∃ letter : DeadLetter, letter.documents = documents ∧
      Account env w (deadLetterBatch env batch status detail createdAt w) [] [letter] := by
  simp only [deadLetterBatch, storage, if_true, written]
  refine ⟨_, ?_, ⟨(List.append_nil _).symm, by simp, rfl, rfl, rfl⟩⟩
  rfl

theorem halves_flatten (batch : List Value) : (halves batch).flatten = batch := by
  simp [halves]

/-- What the work loop owes: an account, and when it ends without raising, every
result of the work and of the split so far delivered, dead-lettered or unsent. -/
structure PartsDone (env : Surroundings) (work : List (List Value)) (split : Split) (w : World)
    (result : Except PyError Split × World) (made : List Exchange)
    (letters : List DeadLetter) : Prop where
  account : Account env w result.2 made letters
  ended : match result.1 with
    | .error _ => ¬ Calm env.nesting made
    | .ok split' => Calm env.nesting made ∧
        tally (work.flatten ++ split.untried ++ split.refused) =
          held (delivered env.nesting made) + held (letterDocuments letters) +
            tally (split'.untried ++ split'.refused) ∧
        ∀ v ∈ split'.untried ++ split'.refused, v ∈ work.flatten ++ split.untried ++ split.refused

/-- The loop after a first stretch of work that delivered and dead-lettered `gone`. -/
theorem PartsDone.after {env : Surroundings} {work work' : List (List Value)} {split split' : Split}
    {w w' : World} {result : Except PyError Split × World} {made made' : List Exchange}
    {letters letters' : List DeadLetter} (first : Account env w w' made letters)
    (calm : Calm env.nesting made) (rest : PartsDone env work' split' w' result made' letters')
    (total : tally (work.flatten ++ split.untried ++ split.refused) =
      held (delivered env.nesting made) + held (letterDocuments letters) +
        tally (work'.flatten ++ split'.untried ++ split'.refused))
    (within : ∀ v ∈ work'.flatten ++ split'.untried ++ split'.refused,
      v ∈ work.flatten ++ split.untried ++ split.refused) :
    PartsDone env work split w result (made ++ made') (letters ++ letters') := by
  refine ⟨first.trans rest.account, ?_⟩
  have ended := rest.ended
  rcases result with ⟨_ | final, w''⟩
  · exact fun whole => ended (calm_append.mp whole).2
  · obtain ⟨calm', total', within'⟩ := ended
    refine ⟨calm_append.mpr ⟨calm, calm'⟩, ?_, fun v mem => within v (within' v mem)⟩
    rw [total, total', delivered_append, letterDocuments_append, held_append, held_append]
    abel

theorem sendParts_done {env : Surroundings} (storage : env.config.enableLocalStorage = true)
    (createdAt : Option Time) (work : List (List Value)) (split : Split) (w : World) :
    ∃ made letters,
      PartsDone env work split w (sendParts env createdAt work split w) made letters := by
  fun_induction sendParts env createdAt work split w with
  | case1 split w => exact ⟨[], [], .refl env w, by simp [Calm], by simp, by simp⟩
  | case2 part work split w stopped ih =>
    obtain ⟨made, letters, done⟩ := ih
    refine ⟨_, _, done.after (.refl env w) (by simp [Calm]) ?_ ?_⟩
    · simp only [List.flatten_cons, tally_append, delivered_nil, letterDocuments_nil, held_nil]
      abel
    · intro v mem
      simp only [List.flatten_cons, List.mem_append] at mem ⊢
      tauto
  | case3 part work split w running e link posted =>
    obtain ⟨made, post⟩ := postBatch_ends env part w.link
    rw [posted] at post
    exact ⟨made, [], .ofPost post, post.not_calm⟩
  | case4 part work split w running posted link result _ sent ih =>
    obtain ⟨made, post⟩ := postBatch_ends env part w.link
    rw [result] at post
    obtain ⟨made', letters, done⟩ := ih
    refine ⟨_, _, done.after (.ofPost post) post.calm ?_ ?_⟩
    · simp only [List.flatten_cons, tally_append, post.held_delivered sent, letterDocuments_nil,
        held_nil]
      abel
    · intro v mem
      simp only [List.flatten_cons, List.mem_append] at mem ⊢
      tauto
  | case5 part work split w running posted link result _ status hasStatus permanent ih =>
    obtain ⟨made, post⟩ := postBatch_ends env part w.link
    rw [result] at post
    obtain ⟨made', letters, done⟩ := ih
    obtain ⟨-, documents, -, carried, -⟩ := post.definite (by simp [permanent])
    have written := dumps_of_body carried
    obtain ⟨letter, documents_eq, account⟩ := deadLetterBatch_account storage written status
      posted.detail createdAt { w with link }
    refine ⟨_, _, done.after ((Account.ofPost post).trans account) ?_ ?_ ?_⟩
    · simpa using post.calm
    · simp only [List.flatten_cons, tally_append, List.append_nil, List.nil_append,
        post.delivered_eq_nil (by simp [permanent]), held_nil, tally_of_dumps written,
        letterDocuments, List.flatMap_cons, List.flatMap_nil, documents_eq]
      abel
    · intro v mem
      simp only [List.flatten_cons, List.mem_append] at mem ⊢
      tauto
  | case6 part work split w running posted link result _ large long ih =>
    obtain ⟨made, post⟩ := postBatch_ends env part w.link
    rw [result] at post
    obtain ⟨made', letters, done⟩ := ih
    refine ⟨_, _, done.after (.ofPost post) post.calm ?_ ?_⟩
    · simp only [List.flatten_cons, List.flatten_append, halves_flatten, tally_append,
        post.delivered_eq_nil (by simp [large]), letterDocuments_nil, held_nil]
      abel
    · intro v mem
      simpa [halves_flatten] using mem
  | case7 part work split w running posted link result _ large short refused stop ih =>
    obtain ⟨made, post⟩ := postBatch_ends env part w.link
    rw [result] at post
    obtain ⟨made', letters, done⟩ := ih
    refine ⟨_, _, done.after (.ofPost post) post.calm ?_ ?_⟩
    · simp only [refused, List.flatten_cons, tally_append, post.delivered_eq_nil (by simp [large]),
        letterDocuments_nil, held_nil]
      abel
    · intro v mem
      simp only [refused, List.flatten_cons, List.mem_append] at mem ⊢
      tauto
  | case8 part work split w running posted link result _ notSent notLarge notPermanent ih =>
    obtain ⟨made, post⟩ := postBatch_ends env part w.link
    rw [result] at post
    obtain ⟨made', letters, done⟩ := ih
    refine ⟨_, _, done.after (.ofPost post) post.calm ?_ ?_⟩
    · simp only [List.flatten_cons, tally_append, post.delivered_eq_nil notSent,
        letterDocuments_nil, held_nil]
      abel
    · intro v mem
      simp only [List.flatten_cons, List.mem_append] at mem ⊢
      tauto

/-- What sending a refused batch in parts owes. -/
structure SendDone (env : Surroundings) (batch : List Value) (w : World)
    (result : Except PyError (Delivery × List Value) × World) (made : List Exchange)
    (letters : List DeadLetter) : Prop where
  account : Account env w result.2 made letters
  ended : match result.1 with
    | .error _ => ¬ Calm env.nesting made
    | .ok (_, unsent) => Calm env.nesting made ∧
        tally batch = held (delivered env.nesting made) + held (letterDocuments letters) +
          tally unsent ∧
        ∀ v ∈ unsent, v ∈ batch

theorem sendInParts_done {env : Surroundings} (storage : env.config.enableLocalStorage = true)
    (batch : List Value) (createdAt : Option Time) (w : World) :
    ∃ made letters, SendDone env batch w (sendInParts env batch createdAt w) made letters := by
  unfold sendInParts
  by_cases single : batch.length = 1
  · rw [if_pos single]
    exact ⟨[], [], .refl env w, by simp [Calm], by simp, by simp⟩
  · rw [if_neg single]
    obtain ⟨made, letters, done⟩ := sendParts_done storage createdAt (halves batch) {} w
    refine ⟨made, letters, ?_⟩
    rcases outcome : sendParts env createdAt (halves batch) {} w with ⟨_ | split, w'⟩
    · rw [outcome] at done
      exact ⟨done.account, done.ended⟩
    · rw [outcome] at done
      obtain ⟨calm, total, within⟩ := done.ended
      simp only [halves_flatten, List.append_nil] at total within
      dsimp only
      split_ifs
      all_goals exact ⟨done.account, calm, total, within⟩

end LuxSwirl.Agent
