import Mathlib
import LuxSwirl.Lib.Counters
import LuxSwirl.Py.Text
import LuxSwirl.Server.CredentialBudget

/-!
# The limiter for surfaces without a decorator

`KeyedLimiter` of `rate_limit.py`: a call hits every part of the limit, and when one of
them is spent gives every hit back. The limits library's storage is a `CounterStorage`;
each of its operations reads the clock once, and so does a wait.

A part listed twice has one counter, which a call hits twice; and a hit whose window
ends between the look at the count and the give-back is taken from the next window. With
neither, a refused call leaves every count as it was, an admitted one raises each by one,
and no window admits more than its part's amount (`refused_cost_nothing`).
-/

namespace LuxSwirl.Server
open LuxSwirl.Py LuxSwirl.Lib

/-- A limiter and what it runs in: the storage, the key of a part for a surface and a
client, and what the n-th reading of the clock gives. -/
structure KeyedLimiter (Key : Type) where
  limits : List RateLimitItem
  storage : CounterStorage Key
  keyFor : RateLimitItem → Text → Text → Key
  clock : Nat → Time

/-- The counts, and how often the clock was read. -/
structure Counts {Key : Type} (limiter : KeyedLimiter Key) where
  store : limiter.storage.Store
  readings : Nat

namespace KeyedLimiter

variable {Key : Type} (limiter : KeyedLimiter Key)

/-- A limiter that has counted nothing. -/
def fresh : Counts limiter where
  store := limiter.storage.empty
  readings := 0

/-- What is kept of a part. -/
def kept (limit : RateLimitItem) (surface client : Text) (counts : Counts limiter) : Option Counter :=
  limiter.storage.kept counts.store (limiter.keyFor limit surface client)

/-- `storage.incr` of a part's key. -/
def incr (limit : RateLimitItem) (surface client : Text) (amount : Int) (counts : Counts limiter) : Counts limiter where
  store := limiter.storage.incr counts.store (limiter.keyFor limit surface client) limit.expiry amount
    (limiter.clock counts.readings)
  readings := counts.readings + 1

/-- `storage.get` of a part's key. -/
def get (limit : RateLimitItem) (surface client : Text) (counts : Counts limiter) : Int × Counts limiter :=
  (Counter.read (limiter.clock counts.readings) (limiter.kept limit surface client counts),
    { counts with readings := counts.readings + 1 })

/-- `strategy.hit`: whether the count after it is within the amount. -/
def hit (surface client : Text) (limit : RateLimitItem) (counts : Counts limiter) : Bool × Counts limiter :=
  let after := limiter.incr limit surface client 1 counts
  (decide (Counter.read (limiter.clock counts.readings) (limiter.kept limit surface client after) ≤ limit.amount), after)

/-- `strategy.test`: whether a hit would be within the amount. -/
def test (surface client : Text) (limit : RateLimitItem) (counts : Counts limiter) : Bool × Counts limiter :=
  let (count, counts) := limiter.get limit surface client counts
  (decide (count < limit.amount), counts)

/-- The parts a check refuses, each checked in turn. -/
def spentBy (check : RateLimitItem → Counts limiter → Bool × Counts limiter) :
    List RateLimitItem → Counts limiter → List RateLimitItem × Counts limiter
  | [], counts => ([], counts)
  | limit :: rest, counts =>
    let (under, counts) := check limit counts
    let (spent, counts) := spentBy check rest counts
    (if under then spent else limit :: spent, counts)

/-- The seconds until a part has room, at least one. -/
def waitFor (surface client : Text) (limit : RateLimitItem) (counts : Counts limiter) : Int × Counts limiter :=
  let now := limiter.clock counts.readings
  let resetTime := ((limiter.kept limit surface client counts).map (·.ends)).getD now
  (max 1 ((resetTime - now).tdiv (seconds 1)), { counts with readings := counts.readings + 1 })

def waits (surface client : Text) : List RateLimitItem → Counts limiter → List Int × Counts limiter
  | [], counts => ([], counts)
  | limit :: rest, counts =>
    let (wait, counts) := limiter.waitFor surface client limit counts
    let (waits, counts) := waits surface client rest counts
    (wait :: waits, counts)

/-- `_wait`: the longest of the spent parts' waits; none when no part is spent. -/
def wait (surface client : Text) (spent : List RateLimitItem) (counts : Counts limiter) : Option Int × Counts limiter :=
  let (waits, counts) := limiter.waits surface client spent counts
  (waits.max?, counts)

/-- A part's hit given back, if its count is not zero. -/
def giveBackOne (surface client : Text) (limit : RateLimitItem) (counts : Counts limiter) : Counts limiter :=
  let (count, counts) := limiter.get limit surface client counts
  if count > 0 then limiter.incr limit surface client (-1) counts else counts

def giveBack (surface client : Text) (limits : List RateLimitItem) (counts : Counts limiter) : Counts limiter :=
  limits.foldl (fun counts limit => limiter.giveBackOne surface client limit counts) counts

/-- Count one request in every part, and give it back when a part is over its limit. -/
def retryAfter (surface client : Text) (counts : Counts limiter) : Option Int × Counts limiter :=
  let (spent, counts) := limiter.spentBy (limiter.hit surface client) limiter.limits counts
  if spent = [] then (none, counts)
  else limiter.wait surface client spent (limiter.giveBack surface client limiter.limits counts)

/-- The wait of a client at the limit already. -/
def overLimit (surface client : Text) (counts : Counts limiter) : Option Int × Counts limiter :=
  let (spent, counts) := limiter.spentBy (limiter.test surface client) limiter.limits counts
  if spent = [] then (none, counts) else limiter.wait surface client spent counts

/-- Count one event in every part. -/
def count (surface client : Text) (counts : Counts limiter) : Counts limiter :=
  (limiter.spentBy (limiter.hit surface client) limiter.limits counts).2

end KeyedLimiter

/-! ## Runs -/

inductive LimiterCall where
  | retryAfter (surface client : Text)
  | overLimit (surface client : Text)
  | count (surface client : Text)

namespace KeyedLimiter

variable {Key : Type} (limiter : KeyedLimiter Key)

def call (counts : Counts limiter) : LimiterCall → Counts limiter
  | .retryAfter surface client => (limiter.retryAfter surface client counts).2
  | .overLimit surface client => (limiter.overLimit surface client counts).2
  | .count surface client => limiter.count surface client counts

def run (calls : List LimiterCall) (counts : Counts limiter) : Counts limiter := calls.foldl limiter.call counts

/-- The window of the part a call was counted in, if it is an admitted `retry_after` of
the client. A window is known by when it ends. -/
def admittedBy (limit : RateLimitItem) (surface client : Text) (counts : Counts limiter) : LimiterCall → List Time
  | .retryAfter surface' client' =>
    let (answer, after) := limiter.retryAfter surface' client' counts
    if surface' = surface ∧ client' = client ∧ answer = none then
      ((limiter.kept limit surface client after).map (·.ends)).toList
    else []
  | _ => []

/-- The windows of the part the admitted calls of the client were counted in, the latest first. -/
def admittedIn (limit : RateLimitItem) (surface client : Text) : List LimiterCall → Counts limiter → List Time
  | [], _ => []
  | call :: rest, counts =>
    admittedIn limit surface client rest (limiter.call counts call) ++
      limiter.admittedBy limit surface client counts call

/-- No window ends between the look at a count and its give-back. -/
def Lasting (surface client : Text) : List RateLimitItem → Counts limiter → Prop
  | [], _ => True
  | limit :: rest, counts =>
    (∀ counter ∈ limiter.kept limit surface client counts,
      0 < Counter.read (limiter.clock counts.readings) (some counter) →
        limiter.clock (counts.readings + 1) < counter.ends) ∧
      Lasting surface client rest (limiter.giveBackOne surface client limit counts)

/-- Of a refused call, no window ends between the look and the give-back. -/
def Steady (counts : Counts limiter) : LimiterCall → Prop
  | .retryAfter surface client =>
    let (spent, counts) := limiter.spentBy (limiter.hit surface client) limiter.limits counts
    spent ≠ [] → limiter.Lasting surface client limiter.limits counts
  | _ => True

def SteadyRun : List LimiterCall → Counts limiter → Prop
  | [], _ => True
  | call :: rest, counts => limiter.Steady counts call ∧ SteadyRun rest (limiter.call counts call)

instance decidableLasting (surface client : Text) :
    ∀ (limits : List RateLimitItem) (counts : Counts limiter), Decidable (limiter.Lasting surface client limits counts)
  | [], _ => isTrue trivial
  | limit :: rest, counts =>
    @instDecidableAnd _ _ inferInstance
      (decidableLasting surface client rest (limiter.giveBackOne surface client limit counts))

instance (counts : Counts limiter) : DecidablePred (limiter.Steady counts)
  | .retryAfter _ _ => inferInstanceAs (Decidable (_ ≠ _ → _))
  | .overLimit _ _ => isTrue trivial
  | .count _ _ => isTrue trivial

instance decidableSteadyRun :
    ∀ (calls : List LimiterCall) (counts : Counts limiter), Decidable (limiter.SteadyRun calls counts)
  | [], _ => isTrue trivial
  | call :: rest, counts => @instDecidableAnd _ _ inferInstance (decidableSteadyRun rest (limiter.call counts call))

/-- What a call owes: a refused one leaves every part's count as it was, an admitted one
raises each by one. -/
def Costs (counts : Counts limiter) : LimiterCall → Prop
  | .retryAfter surface client =>
    let (answer, after) := limiter.retryAfter surface client counts
    if answer = none then
      ∀ limit ∈ limiter.limits,
        let time := limiter.clock (counts.readings + limiter.limits.idxOf limit)
        Counter.read time (limiter.kept limit surface client after) =
          Counter.read time (limiter.kept limit surface client counts) + 1
    else
      ∀ limit ∈ limiter.limits, ∀ later, (∀ reading < after.readings, limiter.clock reading ≤ later) →
        Counter.read later (limiter.kept limit surface client after) =
          Counter.read later (limiter.kept limit surface client counts)
  | _ => True

/-- The storage keeps its laws, and a key has its part's amount and period in it. -/
structure Lawful : Prop where
  storage : limiter.storage.Lawful
  keyed : ∀ limit surface client limit' surface' client',
    limiter.keyFor limit surface client = limiter.keyFor limit' surface' client' → limit = limit'
  forward : Monotone limiter.clock

variable {limiter} {limits : List RateLimitItem} {limit : RateLimitItem} {surface client surface' client' : Text}

/-- Other keys than those of these parts are left alone. -/
def Apart (limiter : KeyedLimiter Key) (limits : List RateLimitItem) (surface' client' : Text) (limit : RateLimitItem)
    (surface client : Text) : Prop :=
  ∀ other ∈ limits, limiter.keyFor limit surface client ≠ limiter.keyFor other surface' client'

theorem kept_of_key (same : limiter.keyFor limit surface client = limiter.keyFor limit surface' client')
    (counts : Counts limiter) : limiter.kept limit surface client counts = limiter.kept limit surface' client' counts := by
  rw [kept, kept, same]

theorem kept_incr (lawful : limiter.Lawful) (amount : Int) (counts : Counts limiter) :
    limiter.kept limit surface client (limiter.incr limit surface client amount counts) =
      some (Counter.incr limit.expiry amount (limiter.clock counts.readings)
        (limiter.kept limit surface client counts)) :=
  lawful.storage.kept_incr ..

theorem kept_incr_of_ne (lawful : limiter.Lawful) {other : RateLimitItem} (amount : Int) (counts : Counts limiter)
    (apart : limiter.keyFor limit surface client ≠ limiter.keyFor other surface' client') :
    limiter.kept limit surface client (limiter.incr other surface' client' amount counts) =
      limiter.kept limit surface client counts :=
  lawful.storage.kept_incr_of_ne _ _ _ _ _ _ apart

/-! ### The parts hit -/

theorem spentBy_kept_of_apart (lawful : limiter.Lawful) (counts : Counts limiter)
    (apart : Apart limiter limits surface' client' limit surface client) :
    limiter.kept limit surface client (limiter.spentBy (limiter.hit surface' client') limits counts).2 =
      limiter.kept limit surface client counts := by
  induction limits generalizing counts with
  | nil => rfl
  | cons first rest ih =>
    have others := List.forall_mem_cons.mp apart
    rw [spentBy]
    exact (ih _ others.2).trans (kept_incr_of_ne lawful 1 counts others.1)

theorem spentBy_readings (surface client : Text) (limits : List RateLimitItem) (counts : Counts limiter) :
    (limiter.spentBy (limiter.hit surface client) limits counts).2.readings = counts.readings + limits.length := by
  induction limits generalizing counts with
  | nil => rfl
  | cons first rest ih =>
    rw [spentBy]
    refine (ih _).trans ?_
    rw [List.length_cons, hit, incr]
    exact (Nat.add_right_comm ..).trans (Nat.add_assoc ..)

/-- A key tells the parts of a limit without repetitions apart. -/
theorem apart_of_not_mem (lawful : limiter.Lawful) (notMem : limit ∉ limits) :
    Apart limiter limits surface' client' limit surface client := fun _ mem same =>
  notMem (lawful.keyed _ _ _ _ _ _ same ▸ mem)

/-- Each part's counter is hit once, at the reading of its place. -/
theorem spentBy_kept (lawful : limiter.Lawful) (distinct : limits.Nodup) (mem : limit ∈ limits)
    (surface client : Text) (counts : Counts limiter) :
    let time := limiter.clock (counts.readings + limits.idxOf limit)
    let counter := Counter.incr limit.expiry 1 time (limiter.kept limit surface client counts)
    limiter.kept limit surface client (limiter.spentBy (limiter.hit surface client) limits counts).2 = some counter ∧
      (limit ∉ (limiter.spentBy (limiter.hit surface client) limits counts).1 →
        Counter.read time (some counter) ≤ limit.amount) := by
  induction limits generalizing counts with
  | nil => cases mem
  | cons first rest ih =>
    obtain ⟨notMem, distinct⟩ := List.nodup_cons.mp distinct
    rw [spentBy]
    by_cases isFirst : first = limit
    · obtain rfl := isFirst
      rw [List.idxOf_cons_self, Nat.add_zero]
      refine ⟨?_, fun unspent => ?_⟩
      · refine (spentBy_kept_of_apart lawful _ (apart_of_not_mem lawful notMem)).trans ?_
        exact kept_incr lawful 1 counts
      · by_contra tooMany
        refine unspent ?_
        dsimp only [hit]
        rw [kept_incr lawful, decide_eq_false tooMany]
        exact List.mem_cons_self
    · have inRest : limit ∈ rest := (List.mem_cons.mp mem).resolve_left (Ne.symm isFirst)
      have kept := ih distinct inRest (limiter.hit surface client first counts).2
      have same : limiter.kept limit surface client (limiter.hit surface client first counts).2 =
          limiter.kept limit surface client counts :=
        kept_incr_of_ne lawful 1 counts fun same => isFirst (lawful.keyed _ _ _ _ _ _ same).symm
      have next : (limiter.hit surface client first counts).2.readings + rest.idxOf limit =
          counts.readings + (first :: rest).idxOf limit := by
        rw [List.idxOf_cons_ne rest isFirst]
        exact Nat.add_right_comm ..
      rw [same, next] at kept
      refine ⟨kept.1, fun unspent => kept.2 fun isSpent => unspent ?_⟩
      dsimp only
      split_ifs
      · exact isSpent
      · exact List.mem_cons_of_mem first isSpent

/-! ### The hits given back -/

theorem giveBackOne_kept_of_ne (lawful : limiter.Lawful) {other : RateLimitItem} (counts : Counts limiter)
    (apart : limiter.keyFor limit surface client ≠ limiter.keyFor other surface' client') :
    limiter.kept limit surface client (limiter.giveBackOne surface' client' other counts) =
      limiter.kept limit surface client counts := by
  rw [giveBackOne]
  dsimp only [get]
  split_ifs
  · exact kept_incr_of_ne lawful (-1) _ apart
  · rfl

theorem giveBack_kept_of_apart (lawful : limiter.Lawful) (counts : Counts limiter)
    (apart : Apart limiter limits surface' client' limit surface client) :
    limiter.kept limit surface client (limiter.giveBack surface' client' limits counts) =
      limiter.kept limit surface client counts := by
  induction limits generalizing counts with
  | nil => rfl
  | cons first rest ih =>
    have others := List.forall_mem_cons.mp apart
    exact (ih _ others.2).trans (giveBackOne_kept_of_ne lawful counts others.1)

theorem giveBackOne_readings_le (limit : RateLimitItem) (counts : Counts limiter) :
    counts.readings < (limiter.giveBackOne surface client limit counts).readings := by
  rw [giveBackOne]
  dsimp only [get]
  split_ifs
  · exact Nat.lt_add_of_pos_right (Nat.succ_pos 1)
  · exact Nat.lt_succ_self _

theorem giveBack_readings_le (limits : List RateLimitItem) (counts : Counts limiter) :
    counts.readings ≤ (limiter.giveBack surface client limits counts).readings := by
  induction limits generalizing counts with
  | nil => exact le_rfl
  | cons first rest ih => exact (giveBackOne_readings_le first counts).le.trans (ih _)

/-- What a give-back does to its counter, looked at at one reading and given back at another. -/
structure GaveBack (limiter : KeyedLimiter Key) (limit : RateLimitItem) (surface client : Text)
    (counts after : Counts limiter) (checked back : Nat) : Prop where
  started : counts.readings ≤ checked
  inOrder : checked ≤ back
  done : back < after.readings
  kept : limiter.kept limit surface client after =
    Counter.giveBack limit.expiry (limiter.clock checked) (limiter.clock back) (limiter.kept limit surface client counts)
  steady : ∀ counter ∈ limiter.kept limit surface client counts,
    0 < Counter.read (limiter.clock checked) (some counter) → limiter.clock back < counter.ends

theorem giveBackOne_gave (lawful : limiter.Lawful) {counts : Counts limiter}
    (lasting : ∀ counter ∈ limiter.kept limit surface client counts,
      0 < Counter.read (limiter.clock counts.readings) (some counter) →
        limiter.clock (counts.readings + 1) < counter.ends) :
    ∃ checked back, GaveBack limiter limit surface client counts
      (limiter.giveBackOne surface client limit counts) checked back := by
  rw [giveBackOne]
  dsimp only [get]
  by_cases used : Counter.read (limiter.clock counts.readings) (limiter.kept limit surface client counts) > 0
  · rw [if_pos used]
    refine ⟨counts.readings, counts.readings + 1, le_rfl, Nat.le_succ _, Nat.lt_succ_self _, ?_, lasting⟩
    rw [Counter.giveBack, if_pos used]
    exact kept_incr lawful (-1) _
  · rw [if_neg used]
    refine ⟨counts.readings, counts.readings, le_rfl, le_rfl, Nat.lt_succ_self _, ?_, fun counter isKept isUsed => ?_⟩
    · rw [Counter.giveBack, if_neg used]
      rfl
    · rw [Option.mem_def.mp isKept] at used
      exact absurd isUsed used

/-- Each part's counter is looked at and given back once. -/
theorem giveBack_gave (lawful : limiter.Lawful) (distinct : limits.Nodup) (mem : limit ∈ limits)
    {counts : Counts limiter} (lasting : limiter.Lasting surface client limits counts) :
    ∃ checked back, GaveBack limiter limit surface client counts
      (limiter.giveBack surface client limits counts) checked back := by
  induction limits generalizing counts with
  | nil => cases mem
  | cons first rest ih =>
    obtain ⟨notMem, distinct⟩ := List.nodup_cons.mp distinct
    by_cases isFirst : first = limit
    · obtain rfl := isFirst
      obtain ⟨checked, back, gave⟩ := giveBackOne_gave lawful lasting.1
      refine ⟨checked, back, gave.started, gave.inOrder, gave.done.trans_le (giveBack_readings_le rest _), ?_, gave.steady⟩
      exact (giveBack_kept_of_apart lawful _ (apart_of_not_mem lawful notMem)).trans gave.kept
    · have inRest : limit ∈ rest := (List.mem_cons.mp mem).resolve_left (Ne.symm isFirst)
      obtain ⟨checked, back, gave⟩ := ih distinct inRest lasting.2
      have same : limiter.kept limit surface client (limiter.giveBackOne surface client first counts) =
          limiter.kept limit surface client counts :=
        giveBackOne_kept_of_ne lawful counts fun same => isFirst (lawful.keyed _ _ _ _ _ _ same).symm
      refine ⟨checked, back, (giveBackOne_readings_le first counts).le.trans gave.started, gave.inOrder, gave.done, ?_, ?_⟩
      · rw [← same]
        exact gave.kept
      · rw [← same]
        exact gave.steady

/-! ### The waits -/

theorem waits_store (surface client : Text) (spent : List RateLimitItem) (counts : Counts limiter) :
    (limiter.waits surface client spent counts).2.store = counts.store ∧
      counts.readings ≤ (limiter.waits surface client spent counts).2.readings ∧
      (limiter.waits surface client spent counts).1.length = spent.length := by
  induction spent generalizing counts with
  | nil => exact ⟨rfl, le_rfl, rfl⟩
  | cons first rest ih =>
    obtain ⟨store, readings, length⟩ := ih (limiter.waitFor surface client first counts).2
    rw [waits]
    exact ⟨store, (Nat.le_succ _).trans readings, congrArg (· + 1) length⟩

/-- A wait is answered where a part is spent. -/
theorem wait_isSome {spent : List RateLimitItem} (some : spent ≠ []) (counts : Counts limiter) :
    (limiter.wait surface client spent counts).1 ≠ none := by
  rw [wait]
  intro isNone
  have empty : (limiter.waits surface client spent counts).1 = [] := List.max?_eq_none_iff.mp isNone
  have length := (waits_store surface client spent counts).2.2
  rw [empty] at length
  exact some (List.eq_nil_of_length_eq_zero length.symm)

/-! ### A call -/

theorem retryAfter_of_admitted {counts : Counts limiter}
    (unspent : (limiter.spentBy (limiter.hit surface client) limiter.limits counts).1 = []) :
    limiter.retryAfter surface client counts =
      (none, (limiter.spentBy (limiter.hit surface client) limiter.limits counts).2) := by
  rw [retryAfter]
  exact if_pos unspent

theorem retryAfter_of_refused {counts : Counts limiter}
    (spent : (limiter.spentBy (limiter.hit surface client) limiter.limits counts).1 ≠ []) :
    let back := limiter.giveBack surface client limiter.limits
      (limiter.spentBy (limiter.hit surface client) limiter.limits counts).2
    (limiter.retryAfter surface client counts).1 ≠ none ∧
      (limiter.retryAfter surface client counts).2.store = back.store ∧
      back.readings ≤ (limiter.retryAfter surface client counts).2.readings := by
  intro back
  have isWait : limiter.retryAfter surface client counts = limiter.wait surface client _ back := if_neg spent
  rw [isWait]
  obtain ⟨store, readings, -⟩ := waits_store surface client
    (limiter.spentBy (limiter.hit surface client) limiter.limits counts).1 back
  exact ⟨wait_isSome spent back, store, readings⟩

/-- What a refused call does to the counter of one of its parts. -/
structure Refused (limiter : KeyedLimiter Key) (limit : RateLimitItem) (surface client : Text)
    (counts after : Counts limiter) (time checked back : Time) : Prop where
  started : limiter.clock counts.readings ≤ time
  checkedAfter : time ≤ checked
  inOrder : checked ≤ back
  done : ∃ reading < after.readings, back = limiter.clock reading
  kept : limiter.kept limit surface client after =
    Counter.giveBack limit.expiry checked back
      (some (Counter.incr limit.expiry 1 time (limiter.kept limit surface client counts)))
  steady : 0 < Counter.read checked (some (Counter.incr limit.expiry 1 time (limiter.kept limit surface client counts))) →
    back < (Counter.incr limit.expiry 1 time (limiter.kept limit surface client counts)).ends

theorem Refused.of_key {counts after : Counts limiter} {time checked back : Time}
    (same : limiter.keyFor limit surface client = limiter.keyFor limit surface' client')
    (refused : Refused limiter limit surface' client' counts after time checked back) :
    Refused limiter limit surface client counts after time checked back where
  started := refused.started
  checkedAfter := refused.checkedAfter
  inOrder := refused.inOrder
  done := refused.done
  kept := by rw [kept_of_key same, kept_of_key same, refused.kept]
  steady := by
    rw [kept_of_key same]
    exact refused.steady

theorem retryAfter_refused (lawful : limiter.Lawful) (distinct : limiter.limits.Nodup) (mem : limit ∈ limiter.limits)
    {counts : Counts limiter} (steady : limiter.Steady counts (.retryAfter surface client))
    (spent : (limiter.spentBy (limiter.hit surface client) limiter.limits counts).1 ≠ []) :
    ∃ time checked back, Refused limiter limit surface client counts
      (limiter.retryAfter surface client counts).2 time checked back := by
  obtain ⟨hit, -⟩ := spentBy_kept lawful distinct mem surface client counts
  have readings := spentBy_readings surface client limiter.limits counts
  obtain ⟨checked, back, gave⟩ := giveBack_gave lawful distinct mem (steady spent)
  obtain ⟨-, store, later⟩ := retryAfter_of_refused spent
  have kept := gave.kept
  have stays := gave.steady
  rw [hit] at kept stays
  have started := gave.started
  rw [readings] at started
  refine ⟨_, _, _, ⟨?_, ?_, lawful.forward gave.inOrder, ⟨back, gave.done.trans_le later, rfl⟩, ?_, stays _ rfl⟩⟩
  · exact lawful.forward (Nat.le_add_right _ _)
  · exact lawful.forward ((Nat.add_le_add_left List.idxOf_le_length _).trans started)
  · rw [← kept, KeyedLimiter.kept, store]
    rfl

/-! ### What is kept of a part -/

/-- The part's counter with the windows the client was admitted in. -/
def Inv (limiter : KeyedLimiter Key) (limit : RateLimitItem) (surface client : Text) (counts : Counts limiter)
    (admitted : List Time) : Prop :=
  Counter.Kept limit.expiry limit.amount (limiter.clock counts.readings) (limiter.kept limit surface client counts) admitted

theorem inv_fresh (lawful : limiter.Lawful) (limit : RateLimitItem) (surface client : Text) :
    Inv limiter limit surface client limiter.fresh [] := by
  rw [Inv, show limiter.kept limit surface client limiter.fresh = none from lawful.storage.kept_empty _]
  exact .empty (Int.natCast_nonneg _) _ _

namespace Inv

variable {counts after : Counts limiter} {admitted : List Time}

theorem untouched (inv : Inv limiter limit surface client counts admitted) (lawful : limiter.Lawful)
    (later : counts.readings ≤ after.readings)
    (same : limiter.kept limit surface client after = limiter.kept limit surface client counts) :
    Inv limiter limit surface client after admitted := by
  rw [Inv, same]
  exact inv.wait (lawful.forward later)

/-- A hit of the part, admitted or not. -/
theorem hits (inv : Inv limiter limit surface client counts admitted) (lawful : limiter.Lawful) {reading : Nat}
    (started : counts.readings ≤ reading) (done : reading ≤ after.readings)
    (hit : limiter.kept limit surface client after =
      some (Counter.incr limit.expiry 1 (limiter.clock reading) (limiter.kept limit surface client counts))) :
    Inv limiter limit surface client after admitted := by
  rw [Inv, hit]
  exact ((inv.wait (lawful.forward started)).count limit.expiry_pos).wait (lawful.forward done)

theorem admits (inv : Inv limiter limit surface client counts admitted) (lawful : limiter.Lawful) {reading : Nat}
    (started : counts.readings ≤ reading) (done : reading ≤ after.readings)
    (hit : limiter.kept limit surface client after =
      some (Counter.incr limit.expiry 1 (limiter.clock reading) (limiter.kept limit surface client counts)))
    (room : Counter.read (limiter.clock reading) (limiter.kept limit surface client after) ≤ limit.amount) :
    Inv limiter limit surface client after
      (((limiter.kept limit surface client after).map (·.ends)).toList ++ admitted) := by
  rw [hit, Counter.read_incr limit.expiry_pos] at room
  rw [Inv, hit]
  refine ((inv.wait (lawful.forward started)).admits limit.expiry_pos ?_).wait (lawful.forward done)
  rwa [Counter.value_incr]

theorem refuses (inv : Inv limiter limit surface client counts admitted) (lawful : limiter.Lawful)
    {time checked back : Time} (refused : Refused limiter limit surface client counts after time checked back) :
    Inv limiter limit surface client after admitted := by
  obtain ⟨reading, done, rfl⟩ := refused.done
  rw [Inv, refused.kept]
  exact ((inv.wait refused.started).refuse limit.expiry_pos (refused.checkedAfter.trans refused.inOrder)
    refused.steady).wait (lawful.forward done.le)

end Inv

/-! ### Runs -/

theorem test_store (surface client : Text) (limits : List RateLimitItem) (counts : Counts limiter) :
    (limiter.spentBy (limiter.test surface client) limits counts).2.store = counts.store ∧
      counts.readings ≤ (limiter.spentBy (limiter.test surface client) limits counts).2.readings := by
  induction limits generalizing counts with
  | nil => exact ⟨rfl, le_rfl⟩
  | cons first rest ih =>
    obtain ⟨store, readings⟩ := ih (limiter.test surface client first counts).2
    exact ⟨store, (Nat.le_succ _).trans readings⟩

theorem overLimit_store (surface client : Text) (counts : Counts limiter) :
    (limiter.overLimit surface client counts).2.store = counts.store ∧
      counts.readings ≤ (limiter.overLimit surface client counts).2.readings := by
  obtain ⟨store, readings⟩ := test_store surface client limiter.limits counts
  rw [overLimit]
  dsimp only
  split_ifs
  · exact ⟨store, readings⟩
  · obtain ⟨store', readings', -⟩ := waits_store surface client
      (limiter.spentBy (limiter.test surface client) limiter.limits counts).1
      (limiter.spentBy (limiter.test surface client) limiter.limits counts).2
    exact ⟨store'.trans store, readings.trans readings'⟩

theorem apart_of_key_ne (lawful : limiter.Lawful)
    (ne : limiter.keyFor limit surface client ≠ limiter.keyFor limit surface' client') :
    Apart limiter limits surface' client' limit surface client := fun _ _ same => by
  obtain rfl := lawful.keyed _ _ _ _ _ _ same
  exact ne same

namespace Inv

variable {counts : Counts limiter} {admitted : List Time}

/-- Every part hit once for some client keeps what is kept of a part for another. -/
theorem count (inv : Inv limiter limit surface client counts admitted) (lawful : limiter.Lawful)
    (distinct : limiter.limits.Nodup) (mem : limit ∈ limiter.limits) (surface' client' : Text) :
    Inv limiter limit surface client (limiter.count surface' client' counts) admitted := by
  have readings := spentBy_readings surface' client' limiter.limits counts
  by_cases same : limiter.keyFor limit surface client = limiter.keyFor limit surface' client'
  · obtain ⟨hit, -⟩ := spentBy_kept lawful distinct mem surface' client' counts
    rw [← kept_of_key same, ← kept_of_key same] at hit
    refine inv.hits lawful (Nat.le_add_right _ _) ?_ hit
    exact (Nat.add_le_add_left List.idxOf_le_length _).trans readings.ge
  · exact inv.untouched lawful ((Nat.le_add_right _ _).trans readings.ge)
      (spentBy_kept_of_apart lawful counts (apart_of_key_ne lawful same))

theorem refused (inv : Inv limiter limit surface client counts admitted) (lawful : limiter.Lawful)
    (distinct : limiter.limits.Nodup) (mem : limit ∈ limiter.limits)
    (steady : limiter.Steady counts (.retryAfter surface' client'))
    (spent : (limiter.spentBy (limiter.hit surface' client') limiter.limits counts).1 ≠ []) :
    Inv limiter limit surface client (limiter.retryAfter surface' client' counts).2 admitted := by
  by_cases same : limiter.keyFor limit surface client = limiter.keyFor limit surface' client'
  · obtain ⟨time, checked, back, refused⟩ := retryAfter_refused lawful distinct mem steady spent
    exact inv.refuses lawful (refused.of_key same)
  · obtain ⟨-, store, readings⟩ := retryAfter_of_refused spent
    have apart : Apart limiter limiter.limits surface' client' limit surface client := apart_of_key_ne lawful same
    have started := (spentBy_readings surface' client' limiter.limits counts).ge
    refine inv.untouched lawful ?_ ?_
    · exact ((Nat.le_add_right _ _).trans started).trans ((giveBack_readings_le _ _).trans readings)
    · rw [kept, store]
      exact (giveBack_kept_of_apart lawful _ apart).trans (spentBy_kept_of_apart lawful counts apart)

end Inv

/-- One call keeps what is kept of a part. -/
theorem inv_call (lawful : limiter.Lawful) (distinct : limiter.limits.Nodup) (mem : limit ∈ limiter.limits)
    {counts : Counts limiter} {admitted : List Time} (inv : Inv limiter limit surface client counts admitted)
    (call : LimiterCall) (steady : limiter.Steady counts call) :
    Inv limiter limit surface client (limiter.call counts call)
      (limiter.admittedBy limit surface client counts call ++ admitted) := by
  cases call with
  | overLimit surface' client' =>
    obtain ⟨store, readings⟩ := overLimit_store surface' client' counts
    refine inv.untouched lawful readings ?_
    rw [kept, call, store]
    rfl
  | count surface' client' => exact inv.count lawful distinct mem surface' client'
  | retryAfter surface' client' =>
    rw [call, admittedBy]
    by_cases unspent : (limiter.spentBy (limiter.hit surface' client') limiter.limits counts).1 = []
    · rw [retryAfter_of_admitted unspent]
      dsimp only
      by_cases own : surface' = surface ∧ client' = client
      · obtain ⟨rfl, rfl⟩ := own
        obtain ⟨hit, room⟩ := spentBy_kept lawful distinct mem surface' client' counts
        rw [if_pos ⟨rfl, rfl, rfl⟩]
        refine inv.admits lawful (Nat.le_add_right _ _) ?_ hit ?_
        · exact (Nat.add_le_add_left List.idxOf_le_length _).trans (spentBy_readings ..).ge
        · rw [hit]
          exact room (by rw [unspent]; exact List.not_mem_nil)
      · rw [if_neg fun isOwn => own ⟨isOwn.1, isOwn.2.1⟩]
        exact inv.count lawful distinct mem surface' client'
    · obtain ⟨answered, -⟩ := retryAfter_of_refused unspent
      dsimp only
      rw [if_neg fun isOwn => answered isOwn.2.2]
      exact inv.refused lawful distinct mem steady unspent

theorem steadyRun_append (front back : List LimiterCall) (counts : Counts limiter) :
    limiter.SteadyRun (front ++ back) counts ↔
      limiter.SteadyRun front counts ∧ limiter.SteadyRun back (limiter.run front counts) := by
  induction front generalizing counts with
  | nil => exact ⟨fun steady => ⟨trivial, steady⟩, And.right⟩
  | cons call rest ih => exact (and_congr_right fun _ => ih _).trans and_assoc.symm

/-- A run keeps what is kept of a part. -/
theorem inv_run (lawful : limiter.Lawful) (distinct : limiter.limits.Nodup) (mem : limit ∈ limiter.limits)
    (calls : List LimiterCall) {counts : Counts limiter} {admitted : List Time}
    (inv : Inv limiter limit surface client counts admitted) (steady : limiter.SteadyRun calls counts) :
    Inv limiter limit surface client (limiter.run calls counts)
      (limiter.admittedIn limit surface client calls counts ++ admitted) := by
  induction calls generalizing counts admitted with
  | nil => exact inv
  | cons call rest ih =>
    rw [admittedIn, List.append_assoc]
    exact ih (inv_call lawful distinct mem inv call steady.1) steady.2

/-- One call costs what it owes. -/
theorem costs_call (lawful : limiter.Lawful) (distinct : limiter.limits.Nodup) {counts : Counts limiter}
    (inv : ∀ limit ∈ limiter.limits, ∀ surface client, ∃ admitted, Inv limiter limit surface client counts admitted)
    (call : LimiterCall) (steady : limiter.Steady counts call) : limiter.Costs counts call := by
  cases call with
  | overLimit surface client => trivial
  | count surface client => trivial
  | retryAfter surface client =>
    rw [Costs]
    by_cases unspent : (limiter.spentBy (limiter.hit surface client) limiter.limits counts).1 = []
    · rw [retryAfter_of_admitted unspent]
      dsimp only
      rw [if_pos rfl]
      intro limit mem
      obtain ⟨hit, -⟩ := spentBy_kept lawful distinct mem surface client counts
      rw [hit]
      exact Counter.read_incr limit.expiry_pos 1 _ _
    · obtain ⟨answered, -⟩ := retryAfter_of_refused unspent
      dsimp only
      rw [if_neg answered]
      intro limit mem later isLater
      obtain ⟨admitted, inv⟩ := inv limit mem surface client
      obtain ⟨time, checked, back, refused⟩ := retryAfter_refused lawful distinct mem steady unspent
      obtain ⟨reading, done, isBack⟩ := refused.done
      rw [refused.kept]
      exact Counter.read_giveBack (inv.read_nonneg time) refused.checkedAfter refused.inOrder refused.steady
        (isBack ▸ isLater reading done)

/-- **Refused calls cost nothing.** No part is listed twice, and in no refused call of
the run does a window end between the look at its count and its give-back. Then every
refused call of the run leaves the counts as they were, every admitted one raises each by
one, and no window of a part admits more of a client's calls than the part's amount. -/
theorem refused_cost_nothing (lawful : limiter.Lawful) (distinct : limiter.limits.Nodup) (calls : List LimiterCall)
    (steady : limiter.SteadyRun calls limiter.fresh) :
    (∀ before call after, calls = before ++ call :: after → limiter.Costs (limiter.run before limiter.fresh) call) ∧
      ∀ limit ∈ limiter.limits, ∀ surface client window,
        (limiter.admittedIn limit surface client calls limiter.fresh).count window ≤ limit.amount := by
  refine ⟨?_, fun limit mem surface client window => ?_⟩
  · rintro before call after rfl
    obtain ⟨steadyBefore, steadyCall, -⟩ := (steadyRun_append before (call :: after) limiter.fresh).mp steady
    refine costs_call lawful distinct (fun limit mem surface client => ?_) call steadyCall
    exact ⟨_, inv_run lawful distinct mem before (inv_fresh lawful limit surface client) steadyBefore⟩
  · have kept := inv_run lawful distinct mem calls (inv_fresh lawful limit surface client) steady
    rw [List.append_nil] at kept
    exact Int.ofNat_le.mp (kept.within window)

end KeyedLimiter

/-! ### Two limiters -/

/-- A limiter whose counts are in memory, by part, surface and client. -/
def byPart (limits : List RateLimitItem) (clock : Nat → Time) : KeyedLimiter (RateLimitItem × Text × Text) where
  limits
  storage := CounterStorage.inMemory _
  keyFor limit surface client := (limit, surface, client)
  clock

theorem byPart_lawful (limits : List RateLimitItem) {clock : Nat → Time} (forward : Monotone clock) :
    (byPart limits clock).Lawful where
  storage := CounterStorage.inMemory_lawful
  keyed _ _ _ _ _ _ same := congrArg Prod.fst same
  forward := forward

def twicePerMinute : RateLimitItem := ⟨2, 1, .minute, Nat.two_pos, Nat.one_pos⟩

def oncePerMinute : RateLimitItem := ⟨1, 1, .minute, Nat.one_pos, Nat.one_pos⟩

def thricePerHour : RateLimitItem := ⟨3, 1, .hour, by decide, Nat.one_pos⟩

/-- A call of one client of one surface. -/
def theCall : LimiterCall := .retryAfter [] []

theorem refused_cost_nothing_twice_per_minute :
    let limiter := byPart [twicePerMinute, thricePerHour] (fun n => seconds n)
    (∀ before call after, [theCall, theCall, theCall, theCall] = before ++ call :: after →
      limiter.Costs (limiter.run before limiter.fresh) call) ∧
      ∀ limit ∈ limiter.limits, ∀ surface client window,
        (limiter.admittedIn limit surface client [theCall, theCall, theCall, theCall] limiter.fresh).count window ≤
          limit.amount :=
  KeyedLimiter.refused_cost_nothing (byPart_lawful _ fun _ _ le => Int.mul_le_mul_of_nonneg_right (Int.ofNat_le.mpr le) (by decide))
    (by decide) _ (by decide)

/-- A minute that ends between the third reading of the clock and the fourth. -/
def minuteEnds (n : Nat) : Time := if n = 0 then 0 else if n < 3 then seconds 60 - 1 else seconds 60

/-- A refused call costs a window that begins meanwhile one request more than it has; and
an admitted one costs a part listed twice two. -/
theorem refused_costs_at_window_end :
    (let limiter := byPart [oncePerMinute] minuteEnds
      let counts := limiter.call limiter.fresh theCall
      let after := limiter.call counts theCall
      (limiter.retryAfter [] [] counts).1 = some 60 ∧
        Counter.read (seconds 60) (limiter.kept oncePerMinute [] [] counts) = 0 ∧
        Counter.read (seconds 60) (limiter.kept oncePerMinute [] [] after) = -1) ∧
      (let limiter := byPart [twicePerMinute, twicePerMinute] (fun n => seconds n)
        let after := limiter.call limiter.fresh theCall
        (limiter.retryAfter [] [] limiter.fresh).1 = none ∧
          Counter.read (seconds 2) (limiter.kept twicePerMinute [] [] limiter.fresh) = 0 ∧
          Counter.read (seconds 2) (limiter.kept twicePerMinute [] [] after) = 2) := by
  decide

end LuxSwirl.Server
