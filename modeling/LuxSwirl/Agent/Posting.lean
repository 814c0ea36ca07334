import LuxSwirl.Agent.Replay
import Mathlib.Algebra.Order.Group.Multiset
import Mathlib.Tactic.Abel

/-!
# What a POST does

`postBatch_ends` says once what `_post_batch` can do: its tries were answered
transiently, all but the last, and the last answer is the outcome, or raised.
Everything the reporter does with a batch is a sequence of such calls with
writes between them, so its specifications speak of the exchanges added and
never open the retry loop again.

Results are counted as multisets of decoded values: a result on its way, in a
body, in a row and in a dead letter has one decoded value.
-/

namespace LuxSwirl.Agent
open LuxSwirl.Py LuxSwirl.Lib

/-- What the exchange's answer says of its results. -/
def Exchange.verdict (nesting : Nat) (exchange : Exchange) : Except PyError Delivery :=
  exchange.answer.verdict nesting

/-- The results of the exchange that a 2xx answered. -/
def Exchange.delivered (nesting : Nat) (exchange : Exchange) : List Document :=
  match exchange.verdict nesting with
  | .ok .sent => exchange.documents
  | _ => []

/-- The results a 2xx answered. -/
def delivered (nesting : Nat) (exchanges : List Exchange) : List Document :=
  exchanges.flatMap (·.delivered nesting)

/-- No answer raises. -/
def Calm (nesting : Nat) (exchanges : List Exchange) : Prop :=
  ∀ exchange ∈ exchanges, exchange.answer.raises nesting = false

/-- The results of a batch, with their multiplicities, as they would be read back. -/
def tally (batch : List Value) : Multiset Value := Multiset.ofList (batch.map Value.decode)

/-- The results of some documents, with their multiplicities. -/
def held (documents : List Document) : Multiset Value := Multiset.ofList (loads documents)

@[simp] theorem tally_nil : tally [] = 0 := rfl

@[simp] theorem tally_append (xs ys : List Value) : tally (xs ++ ys) = tally xs + tally ys := by
  simp [tally]

@[simp] theorem held_nil : held [] = 0 := rfl

@[simp] theorem held_append (xs ys : List Document) : held (xs ++ ys) = held xs + held ys := by
  simp [held]

@[simp] theorem tally_loads (documents : List Document) : tally (loads documents) = held documents := by
  rw [tally, held, loads, List.map_map]
  exact congrArg _ (List.map_congr_left fun d _ => d.decoded)

@[simp] theorem delivered_nil (nesting : Nat) : delivered nesting [] = [] := rfl

@[simp] theorem delivered_append (nesting : Nat) (xs ys : List Exchange) :
    delivered nesting (xs ++ ys) = delivered nesting xs ++ delivered nesting ys := by
  simp [delivered]

theorem tally_of_dumps {batch : List Value} {documents : List Document}
    (written : dumps batch = some documents) : tally batch = held documents := by
  induction batch generalizing documents with
  | nil =>
    cases written
    rfl
  | cons v rest ih =>
    by_cases h : v.dumpable = true
    · simp only [dumps, h, dif_pos, Option.map_eq_some_iff] at written
      obtain ⟨tail, written, rfl⟩ := written
      have := ih written
      simp only [tally, held, loads, List.map_cons, Value.document_value, ← Multiset.cons_coe] at this ⊢
      rw [this]
    · simp [dumps, h] at written

/-- How a POST can end, by the exchanges it made. -/
inductive PostEnds (nesting : Nat) : List Exchange → Except PyError Posted → Prop
  | transient (tries : List Exchange) (status : Option Nat) (detail : Text)
      (failed : ∀ exchange ∈ tries, exchange.verdict nesting = .ok .transient) :
      PostEnds nesting tries (.ok ⟨.transient, status, detail⟩)
  | definite (tries : List Exchange) (last : Exchange) (outcome : Delivery) (status : Nat)
      (detail : Text) (failed : ∀ exchange ∈ tries, exchange.verdict nesting = .ok .transient)
      (verdict : last.verdict nesting = .ok outcome) (definite : outcome ≠ .transient) :
      PostEnds nesting (tries ++ [last]) (.ok ⟨outcome, some status, detail⟩)
  | raised (tries : List Exchange) (last : Exchange) (e : PyError)
      (failed : ∀ exchange ∈ tries, exchange.verdict nesting = .ok .transient)
      (verdict : last.verdict nesting = .error e) :
      PostEnds nesting (tries ++ [last]) (.error e)

/-- A failed try before a POST that ends so. -/
theorem PostEnds.cons {nesting : Nat} {first : Exchange} {tries : List Exchange}
    {result : Except PyError Posted} (failed : first.verdict nesting = .ok .transient)
    (ends : PostEnds nesting tries result) : PostEnds nesting (first :: tries) result := by
  cases ends with
  | transient _ status detail rest =>
    exact .transient _ status detail (List.forall_mem_cons.mpr ⟨failed, rest⟩)
  | definite tries last outcome status detail rest verdict definite =>
    exact .definite (first :: tries) last outcome status detail
      (List.forall_mem_cons.mpr ⟨failed, rest⟩) verdict definite
  | raised tries last e rest verdict =>
    exact .raised (first :: tries) last e (List.forall_mem_cons.mpr ⟨failed, rest⟩) verdict

/-- How one try can end: nothing was sent, or one exchange was made and its
verdict says what the loop does next. -/
inductive TryEnds (nesting : Nat) (batch : List Value) : List Exchange → Except PyError Attempt → Prop
  | unsent (refused : body batch = none) : TryEnds nesting batch [] (.ok (.failed none []))
  | failed (exchange : Exchange) (status : Option Nat) (detail : Text)
      (carried : body batch = some exchange.documents)
      (verdict : exchange.verdict nesting = .ok .transient) :
      TryEnds nesting batch [exchange] (.ok (.failed status detail))
  | done (exchange : Exchange) (outcome : Delivery) (status : Nat) (detail : Text)
      (carried : body batch = some exchange.documents)
      (verdict : exchange.verdict nesting = .ok outcome) (definite : outcome ≠ .transient) :
      TryEnds nesting batch [exchange] (.ok (.done ⟨outcome, some status, detail⟩))
  | raised (exchange : Exchange) (e : PyError) (carried : body batch = some exchange.documents)
      (verdict : exchange.verdict nesting = .error e) :
      TryEnds nesting batch [exchange] (.error e)

namespace Link

@[simp] theorem exchanges_isStopped (env : Surroundings) (link : Link) :
    (link.isStopped env).2.exchanges = link.exchanges := rfl

@[simp] theorem exchanges_now (env : Surroundings) (link : Link) :
    (link.now env).2.exchanges = link.exchanges := rfl

@[simp] theorem exchanges_countFailure (link : Link) :
    link.countFailure.exchanges = link.exchanges := rfl

@[simp] theorem exchanges_countSent (env : Surroundings) (size : Nat) (link : Link) :
    (link.countSent env size).exchanges = link.exchanges := rfl

end Link

/-- The exchange is one the server had. -/
def Exchange.Served (env : Surroundings) (exchange : Exchange) : Prop :=
  ∃ history, exchange.answer = env.server history exchange.documents

theorem tryPost_ends (env : Surroundings) (batch : List Value) (link : Link) :
    ∃ made, (tryPost env batch link).2.exchanges = link.exchanges ++ made ∧
      (∀ exchange ∈ made, exchange.Served env) ∧
      TryEnds env.nesting batch made (tryPost env batch link).1 := by
  unfold tryPost
  cases carried : body batch with
  | none => exact ⟨[], by simp, by simp, .unsent carried⟩
  | some documents =>
    dsimp only
    refine ⟨[⟨documents, env.server link.exchanges documents⟩], ?_⟩
    have served : ∀ exchange ∈ [Exchange.mk documents (env.server link.exchanges documents)],
        exchange.Served env := by
      simp only [List.mem_singleton, forall_eq]
      exact ⟨link.exchanges, rfl⟩
    cases answer : env.server link.exchanges documents with
    | noAnswer =>
      rw [answer] at served
      exact ⟨rfl, served, .failed _ _ _ carried rfl⟩
    | response status text =>
      rw [answer] at served
      dsimp only
      cases verdict : classifyResponse env.nesting status text with
      | error e => exact ⟨rfl, served, .raised _ e carried verdict⟩
      | ok outcome =>
        cases outcome with
        | sent => exact ⟨rfl, served, .done _ .sent status [] carried verdict (by decide)⟩
        | tooLarge => exact ⟨rfl, served, .done _ .tooLarge status _ carried verdict (by decide)⟩
        | permanent => exact ⟨rfl, served, .done _ .permanent status _ carried verdict (by decide)⟩
        | transient => exact ⟨rfl, served, .failed _ _ _ carried verdict⟩

/-- The exchanges a POST makes all carry its batch, and end as `PostEnds` says. -/
structure PostMade (env : Surroundings) (batch : List Value) (link : Link)
    (result : Except PyError Posted × Link) (made : List Exchange) : Prop where
  exchanges : result.2.exchanges = link.exchanges ++ made
  carried : ∀ exchange ∈ made, body batch = some exchange.documents
  served : ∀ exchange ∈ made, exchange.Served env
  ends : PostEnds env.nesting made result.1

theorem postLoop_ends (env : Surroundings) (batch : List Value) (tries : Nat)
    (status : Option Nat) (detail : Text) (link : Link) :
    ∃ made, PostMade env batch link (postLoop env batch tries status detail link) made := by
  have quiet (status : Option Nat) (detail : Text) : PostEnds env.nesting []
      (.ok ⟨.transient, status, detail⟩) := .transient [] status detail (by simp)
  induction tries generalizing status detail link with
  | zero => exact ⟨[], by simp [postLoop], by simp, by simp, quiet status detail⟩
  | succ tries ih =>
    rw [postLoop]
    cases stopped : env.stopped link.looks with
    | true =>
      simp only [Link.isStopped, stopped]
      exact ⟨[], by simp, by simp, by simp, quiet status detail⟩
    | false =>
      simp only [Link.isStopped, stopped]
      generalize looked : ({ link with looks := link.looks + 1 } : Link) = link'
      have same : link'.exchanges = link.exchanges := by rw [← looked]
      obtain ⟨made, exchanges, served, ends⟩ := tryPost_ends env batch link'
      rcases attempt : tryPost env batch link' with ⟨outcome, link''⟩
      rw [attempt] at exchanges ends
      rw [same] at exchanges
      dsimp only at exchanges
      cases ends with
      | raised exchange e carried verdict =>
        exact ⟨[exchange], exchanges, by simpa using carried, served,
          .raised [] exchange e (by simp) verdict⟩
      | done exchange outcome status detail carried verdict definite =>
        exact ⟨[exchange], exchanges, by simpa using carried, served,
          .definite [] exchange outcome status detail (by simp) verdict definite⟩
      | unsent refused =>
        dsimp only
        cases env.stopped link''.looks with
        | true => exact ⟨[], exchanges, by simp, by simp, quiet none []⟩
        | false =>
          obtain ⟨later, made⟩ := ih none [] { link'' with looks := link''.looks + 1 }
          exact ⟨later, by rw [made.exchanges]; simp [exchanges], made.carried, made.served, made.ends⟩
      | failed exchange status detail carried verdict =>
        dsimp only
        cases env.stopped link''.looks with
        | true =>
          exact ⟨[exchange], exchanges, by simpa using carried, served,
            .transient [exchange] status detail (by simpa using verdict)⟩
        | false =>
          obtain ⟨later, made⟩ := ih status detail { link'' with looks := link''.looks + 1 }
          exact ⟨exchange :: later, by rw [made.exchanges]; simp [exchanges],
            List.forall_mem_cons.mpr ⟨carried, made.carried⟩,
            List.forall_mem_cons.mpr ⟨served exchange (by simp), made.served⟩,
            .cons verdict made.ends⟩

theorem postBatch_ends (env : Surroundings) (batch : List Value) (link : Link) :
    ∃ made, PostMade env batch link (postBatch env batch link) made := by
  obtain ⟨made, ends⟩ := postLoop_ends env batch env.config.maxRetries none [] (link.now env).2
  exact ⟨made, ends.exchanges, ends.carried, ends.served, ends.ends⟩

/-! ## What a POST leaves -/

theorem raises_of_verdict {nesting : Nat} {exchange : Exchange} {result : Except PyError Delivery}
    (verdict : exchange.verdict nesting = result) :
    exchange.answer.raises nesting = !result.isOk := by
  have := exchange.answer.verdict_isOk nesting
  rw [Exchange.verdict] at verdict
  rw [verdict] at this
  rw [this, Bool.not_not]

theorem calm_of_failed {nesting : Nat} {tries : List Exchange}
    (failed : ∀ exchange ∈ tries, exchange.verdict nesting = .ok .transient) :
    Calm nesting tries :=
  fun exchange mem => raises_of_verdict (failed exchange mem)

theorem delivered_of_failed {nesting : Nat} {tries : List Exchange}
    (failed : ∀ exchange ∈ tries, exchange.verdict nesting = .ok .transient) :
    delivered nesting tries = [] := by
  refine List.flatMap_eq_nil_iff.mpr fun exchange mem => ?_
  simp only [Exchange.delivered, failed exchange mem]

theorem calm_append {nesting : Nat} {xs ys : List Exchange} :
    Calm nesting (xs ++ ys) ↔ Calm nesting xs ∧ Calm nesting ys :=
  List.forall_mem_append

namespace PostMade

variable {env : Surroundings} {batch : List Value} {link link' : Link} {made : List Exchange}
  {posted : Posted} {e : PyError}

theorem calm (post : PostMade env batch link (.ok posted, link') made) : Calm env.nesting made := by
  cases post.ends with
  | transient _ status detail failed => exact calm_of_failed failed
  | definite tries last outcome status detail failed verdict definite =>
    refine calm_append.mpr ⟨calm_of_failed failed, ?_⟩
    rintro exchange mem
    rw [List.mem_singleton.mp mem]
    exact raises_of_verdict verdict

theorem not_calm (post : PostMade env batch link (.error e, link') made) :
    ¬ Calm env.nesting made := by
  cases post.ends with
  | raised tries last e failed verdict =>
    intro calm
    have := (calm_append.mp calm).2 last (List.mem_singleton_self last)
    rw [raises_of_verdict verdict] at this
    cases this

/-- A batch that was sent is what its last exchange delivered. -/
theorem held_delivered (post : PostMade env batch link (.ok posted, link') made)
    (sent : posted.outcome = .sent) : held (delivered env.nesting made) = tally batch := by
  cases post.ends with
  | transient _ status detail failed => cases sent
  | definite tries last outcome status detail failed verdict definite =>
    cases sent
    have carried := post.carried last (by simp)
    rw [delivered_append, delivered_of_failed failed, tally_of_dumps (dumps_of_body carried)]
    simp [delivered, Exchange.delivered, verdict]

theorem delivered_eq_nil (post : PostMade env batch link (.ok posted, link') made)
    (unsent : posted.outcome ≠ .sent) : delivered env.nesting made = [] := by
  cases post.ends with
  | transient _ status detail failed => exact delivered_of_failed failed
  | definite tries last outcome status detail failed verdict definite =>
    rw [delivered_append, delivered_of_failed failed]
    cases outcome with
    | sent => exact absurd rfl unsent
    | _ => simp [delivered, Exchange.delivered, verdict]

/-- A definite outcome comes with a status, for a batch whose body was sent. -/
theorem definite (post : PostMade env batch link (.ok posted, link') made)
    (definite : posted.outcome ≠ .transient) :
    ∃ status documents, posted.status = some status ∧ body batch = some documents ∧
      ∃ tries last, made = tries ++ [last] ∧ last.documents = documents ∧
        last.verdict env.nesting = .ok posted.outcome := by
  cases post.ends with
  | transient _ status detail failed => exact absurd rfl definite
  | definite tries last outcome status detail failed verdict _ =>
    exact ⟨status, last.documents, rfl, post.carried last (by simp), tries, last, rfl, rfl, verdict⟩

/-- A batch the request cannot carry is never sent. -/
theorem made_of_body_eq_none {result : Except PyError Posted × Link}
    (post : PostMade env batch link result made) (refused : body batch = none) : made = [] := by
  refine List.eq_nil_iff_forall_not_mem.mpr fun exchange mem => ?_
  have := post.carried exchange mem
  rw [refused] at this
  cases this

/-- It fails as a network failure would. -/
theorem of_body_eq_none (post : PostMade env batch link (.ok posted, link') made)
    (refused : body batch = none) : posted.outcome = .transient ∧ made = [] := by
  have none_made := post.made_of_body_eq_none refused
  refine ⟨?_, none_made⟩
  by_contra outcome
  obtain ⟨-, -, -, -, tries, last, whole, -⟩ := post.definite outcome
  rw [none_made] at whole
  simp at whole

end PostMade

/-! ## An answer that is not for a moment only -/

theorem tryPost_answered {env : Surroundings} {batch : List Value} {documents : List Document}
    (carried : body batch = some documents) (link : Link) {outcome : Delivery}
    (verdict : (env.server link.exchanges documents).verdict env.nesting = .ok outcome)
    (definite : outcome ≠ .transient) :
    ∃ posted link', tryPost env batch link = (.ok (.done posted), link') ∧ posted.outcome = outcome ∧
      link'.exchanges = link.exchanges ++ [⟨documents, env.server link.exchanges documents⟩] := by
  obtain ⟨status, text, answer⟩ := Answer.response_of_verdict verdict definite
  have classified : classifyResponse env.nesting status text = .ok outcome := by
    rw [answer] at verdict
    exact verdict
  rw [tryPost, carried]
  simp only [answer, classified]
  cases outcome with
  | sent => exact ⟨_, _, rfl, rfl, rfl⟩
  | permanent => exact ⟨_, _, rfl, rfl, rfl⟩
  | tooLarge => exact ⟨_, _, rfl, rfl, rfl⟩
  | transient => exact absurd rfl definite

/-- A POST that is answered, and not for a moment only, is not tried again. -/
theorem postBatch_answered {env : Surroundings} (retries : 0 < env.config.maxRetries)
    (running : ∀ n, env.stopped n = false) {batch : List Value} {documents : List Document}
    (carried : body batch = some documents) (link : Link) {outcome : Delivery}
    (verdict : (env.server link.exchanges documents).verdict env.nesting = .ok outcome)
    (definite : outcome ≠ .transient) :
    ∃ posted link', postBatch env batch link = (.ok posted, link') ∧ posted.outcome = outcome ∧
      link'.exchanges = link.exchanges ++ [⟨documents, env.server link.exchanges documents⟩] := by
  obtain ⟨tries, positive⟩ : ∃ tries, env.config.maxRetries = tries + 1 :=
    ⟨env.config.maxRetries - 1, (Nat.succ_pred_eq_of_pos retries).symm⟩
  obtain ⟨posted, link', tried, isOutcome, exchanges⟩ := tryPost_answered carried
    { link with looks := link.looks + 1, readings := link.readings + 1 } verdict definite
  refine ⟨posted, link', ?_, isOutcome, exchanges⟩
  show postLoop env batch env.config.maxRetries none [] (link.now env).2 = _
  rw [positive, postLoop, Link.isStopped, running]
  dsimp only [Link.now]
  rw [tried]

end LuxSwirl.Agent
