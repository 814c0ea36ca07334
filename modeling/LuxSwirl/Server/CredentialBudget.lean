import LuxSwirl.Lib.Budget
import LuxSwirl.Server.Models
import Mathlib.Data.List.Induction

/-!
# The budget of refused credentials

`rate_limit.py`: a credential check holds room in its bucket before the credential
is read, and a refusal is counted in every part of the registration limit when it is
settled. The limits library's strategy is a `FixedWindow`, keyed by the parts of the
limit; a part listed twice has one counter, which a refusal hits twice.

The events are the calls on one bucket in the order they take effect. A call reads
the monotonic clock once and the wall clock once for each part. An attempt's number
is drawn from a count all buckets share, so it comes with the event.
-/

namespace LuxSwirl.Server
open LuxSwirl.Lib

inductive Granularity where
  | second
  | minute
  | hour
  | day
  | month
  | year
  deriving DecidableEq

def Granularity.seconds : Granularity → Int
  | .second => 1
  | .minute => 60
  | .hour => 3600
  | .day => 86400
  | .month => 2592000
  | .year => 31104000

/-- One part of a limit: so many in so many of a granularity. -/
structure RateLimitItem where
  amount : Nat
  multiples : Nat
  granularity : Granularity
  amountPos : 0 < amount
  multiplesPos : 0 < multiples
  deriving DecidableEq

def RateLimitItem.expiry (item : RateLimitItem) : Time :=
  seconds (item.granularity.seconds * item.multiples)

def inFlightSeconds : Time := seconds 300

def busyRetryAfterSeconds : Int := 2

structure CredentialAttempt where
  limits : List RateLimitItem
  number : Nat
  settled : Bool := false

/-- A bucket: when each check in flight began, the attempts handed out, and the
counts. -/
structure Bucket (window : FixedWindow RateLimitItem) where
  inFlight : List (Nat × Time) := []
  attempts : List CredentialAttempt := []
  store : window.Store := window.empty

/-- What a reservation is answered: the attempt's number, or the seconds to wait. -/
inductive Reserved where
  | attempt (number : Nat)
  | wait (seconds : Int)
  deriving DecidableEq

section Code

variable {window : FixedWindow RateLimitItem}

/-- `_held` -/
def heldAt (now : Time) (inFlight : List (Nat × Time)) : List (Nat × Time) :=
  inFlight.filter fun entry => decide (now - entry.2 < inFlightSeconds)

/-- `get_window_stats(...).remaining` -/
def remaining (wall : RateLimitItem → Time) (store : window.Store) (limit : RateLimitItem) : Nat :=
  limit.amount - window.count store limit (wall limit)

/-- The wait of a part its refusals have spent. -/
def waitFor (wall : RateLimitItem → Time) (store : window.Store) (limit : RateLimitItem) : Int :=
  max 1 ((window.resetTime store limit (wall limit) - wall limit).tdiv (seconds 1))

/-- `_reserve_refusal_count` -/
def reserveRefusalCount (limits : List RateLimitItem) (number : Nat) (now : Time)
    (wall : RateLimitItem → Time) (bucket : Bucket window) : Bucket window × Reserved :=
  let held := heldAt now bucket.inFlight
  let spent := limits.filter fun limit => decide (remaining wall bucket.store limit = 0)
  match (spent.map (waitFor wall bucket.store)).max? with
  | some wait => ({ bucket with inFlight := held }, .wait wait)
  | none =>
    if limits.any fun limit => decide (remaining wall bucket.store limit ≤ held.length) then
      ({ bucket with inFlight := held }, .wait busyRetryAfterSeconds)
    else
      ({ bucket with
          inFlight := held ++ [(number, now)]
          attempts := bucket.attempts ++ [{ limits, number }] }, .attempt number)

/-- `CredentialAttempt.settle` of the attempt with that number. -/
def settle (number : Nat) (refused : Bool) (wall : RateLimitItem → Time) (bucket : Bucket window) :
    Bucket window :=
  match bucket.attempts.find? fun attempt => decide (attempt.number = number) with
  | none => bucket
  | some attempt =>
    if attempt.settled then bucket
    else
      { inFlight := bucket.inFlight.filter fun entry => decide (entry.1 ≠ number)
        attempts := bucket.attempts.map fun other =>
          if other.number = number then { other with settled := true } else other
        store := if refused then window.hitAll attempt.limits wall bucket.store else bucket.store }

end Code

/-! ## Runs -/

inductive CredentialEvent where
  | reserve (number : Nat) (now : Time) (wall : RateLimitItem → Time)
  | settle (number : Nat) (refused : Bool) (wall : RateLimitItem → Time)

namespace CredentialEvent

def wall : CredentialEvent → RateLimitItem → Time
  | .reserve _ _ wall => wall
  | .settle _ _ wall => wall

def number : CredentialEvent → Nat
  | .reserve number _ _ => number
  | .settle number _ _ => number

/-- The number a reservation would hand out. -/
def reserves : CredentialEvent → Option Nat
  | .reserve number _ _ => some number
  | .settle _ _ _ => none

end CredentialEvent

section Runs

variable (window : FixedWindow RateLimitItem) (limits : List RateLimitItem)

def credentialStep (bucket : Bucket window) : CredentialEvent → Bucket window
  | .reserve number now wall => (reserveRefusalCount limits number now wall bucket).1
  | .settle number refused wall => settle number refused wall bucket

/-- The bucket after some events, from an empty one. -/
def credentialRun (events : List CredentialEvent) : Bucket window :=
  events.foldl (credentialStep window limits) {}

@[simp] theorem credentialRun_nil : credentialRun window limits [] = {} := rfl

theorem credentialRun_snoc (events : List CredentialEvent) (event : CredentialEvent) :
    credentialRun window limits (events ++ [event]) =
      credentialStep window limits (credentialRun window limits events) event := by
  rw [credentialRun, List.foldl_append]
  rfl

/-- The events of a bucket as they come: the clocks go on, a number is drawn once,
and every attempt is settled within `inFlightSeconds`. -/
structure Orderly (events : List CredentialEvent) : Prop where
  walls : events.Pairwise fun event later => ∀ part, event.wall part ≤ later.wall part
  numbers : (events.filterMap CredentialEvent.reserves).Nodup
  inTime : ∀ before number now wall after, events = before ++ .reserve number now wall :: after →
    ∀ entry ∈ (credentialRun window limits before).inFlight, now - entry.2 < inFlightSeconds

end Runs

section Budget

variable {window : FixedWindow RateLimitItem} {limits : List RateLimitItem}
  {events : List CredentialEvent} {bucket : Bucket window}

theorem Orderly.front {front back : List CredentialEvent} (orderly : Orderly window limits (front ++ back)) :
    Orderly window limits front where
  walls := (List.pairwise_append.mp orderly.walls).1
  numbers := by
    have numbers := orderly.numbers
    rw [List.filterMap_append] at numbers
    exact (List.nodup_append.mp numbers).1
  inTime before number now wall after split := by
    refine orderly.inTime before number now wall (after ++ back) ?_
    rw [split, List.append_assoc, List.cons_append]

/-- The numbers handed out. -/
def Bucket.numbers (bucket : Bucket window) : List Nat := bucket.attempts.map (·.number)

/-- The attempts not settled yet. -/
def Bucket.unsettled (bucket : Bucket window) : List CredentialAttempt :=
  bucket.attempts.filter fun attempt => !attempt.settled

/-- The attempts in flight are the unsettled ones, each of this limit. -/
structure Bucket.Sound (limits : List RateLimitItem) (bucket : Bucket window) : Prop where
  nodup : bucket.numbers.Nodup
  inFlight : bucket.inFlight.map (·.1) = bucket.unsettled.map (·.number)
  limited : ∀ attempt ∈ bucket.attempts, attempt.limits = limits

/-! ### What a step does -/

/-- A reservation with nothing stale hands out an attempt, or changes nothing. -/
theorem reserve_cases (number : Nat) {now : Time} (wall : RateLimitItem → Time)
    (inTime : ∀ entry ∈ bucket.inFlight, now - entry.2 < inFlightSeconds) :
    let after := credentialStep window limits bucket (.reserve number now wall)
    (after = bucket ∧ ∃ limit ∈ limits, remaining wall bucket.store limit ≤ bucket.inFlight.length) ∨
    (after = { bucket with
        inFlight := bucket.inFlight ++ [(number, now)]
        attempts := bucket.attempts ++ [{ limits, number }] } ∧
      ∀ limit ∈ limits, bucket.inFlight.length < remaining wall bucket.store limit) := by
  have held : heldAt now bucket.inFlight = bucket.inFlight :=
    List.filter_eq_self.mpr fun entry mem => decide_eq_true (inTime entry mem)
  dsimp only [credentialStep, reserveRefusalCount]
  rw [held]
  split
  · rename_i wait found
    left
    obtain ⟨limit, mem, -⟩ := List.mem_map.mp (List.max?_mem found)
    obtain ⟨mem, spent⟩ := List.mem_filter.mp mem
    exact ⟨rfl, limit, mem, by rw [of_decide_eq_true spent]; exact Nat.zero_le _⟩
  · split_ifs with busy
    · left
      obtain ⟨limit, mem, full⟩ := List.any_eq_true.mp busy
      exact ⟨rfl, limit, mem, of_decide_eq_true full⟩
    · right
      refine ⟨rfl, fun limit mem => ?_⟩
      by_contra full
      exact busy (List.any_eq_true.mpr ⟨limit, mem, decide_eq_true (Nat.not_lt.mp full)⟩)

/-- Settling ends an unsettled attempt, and changes nothing else. -/
theorem settle_cases (sound : bucket.Sound limits) (number : Nat) (refused : Bool)
    (wall : RateLimitItem → Time) :
    let after := credentialStep window limits bucket (.settle number refused wall)
    (after = bucket ∧ number ∉ bucket.unsettled.map (·.number)) ∨
    (after = { inFlight := bucket.inFlight.filter fun entry => decide (entry.1 ≠ number)
               attempts := bucket.attempts.map fun other =>
                 if other.number = number then { other with settled := true } else other
               store := if refused then window.hitAll limits wall bucket.store else bucket.store } ∧
      number ∈ bucket.unsettled.map (·.number)) := by
  dsimp only [credentialStep, settle]
  have only (attempt : CredentialAttempt)
      (found : bucket.attempts.find? (fun attempt => decide (attempt.number = number)) = some attempt) :
      attempt ∈ bucket.attempts ∧ attempt.number = number ∧
        ∀ other ∈ bucket.attempts, other.number = number → other = attempt := by
    have isNumber : attempt.number = number := by simpa using List.find?_some found
    refine ⟨List.mem_of_find?_eq_some found, isNumber, fun other mem same => ?_⟩
    exact List.inj_on_of_nodup_map sound.nodup mem (List.mem_of_find?_eq_some found)
      (same.trans isNumber.symm)
  split
  · rename_i absent
    left
    refine ⟨rfl, fun mem => ?_⟩
    obtain ⟨attempt, mem, same⟩ := List.mem_map.mp mem
    exact absurd (decide_eq_true same)
      (by simpa using List.find?_eq_none.mp absent attempt (List.mem_of_mem_filter mem))
  · rename_i attempt found
    obtain ⟨mem, isNumber, unique⟩ := only attempt found
    cases settled : attempt.settled with
    | true =>
      left
      refine ⟨rfl, fun unsettled => ?_⟩
      obtain ⟨other, within, same⟩ := List.mem_map.mp unsettled
      obtain ⟨within, isOpen⟩ := List.mem_filter.mp within
      rw [unique other within same, settled] at isOpen
      exact absurd isOpen (by decide)
    | false =>
      right
      rw [sound.limited attempt mem]
      refine ⟨rfl, List.mem_map.mpr ⟨attempt, List.mem_filter.mpr ⟨mem, ?_⟩, isNumber⟩⟩
      rw [settled]
      rfl

@[simp] theorem numbers_settled (attempts : List CredentialAttempt) (number : Nat) :
    (attempts.map fun other =>
      if other.number = number then { other with settled := true } else other).map (·.number) =
      attempts.map (·.number) := by
  rw [List.map_map]
  refine List.map_congr_left fun attempt _ => ?_
  dsimp only [Function.comp]
  split_ifs <;> rfl

/-- A step hands out no number but its own. -/
theorem numbers_step (event : CredentialEvent) {number : Nat}
    (mem : number ∈ (credentialStep window limits bucket event).numbers) :
    number ∈ bucket.numbers ∨ event.reserves = some number := by
  cases event with
  | reserve own now wall =>
    dsimp only [credentialStep, reserveRefusalCount] at mem
    split at mem
    · exact Or.inl mem
    · split_ifs at mem
      · exact Or.inl mem
      · rw [Bucket.numbers, List.map_append, List.mem_append] at mem
        rcases mem with old | new
        · exact Or.inl old
        · exact Or.inr (congrArg some (List.mem_singleton.mp new).symm)
  | settle own refused wall =>
    left
    dsimp only [credentialStep, settle] at mem
    split at mem
    · exact mem
    · split_ifs at mem with done
      · exact mem
      all_goals rwa [Bucket.numbers, numbers_settled] at mem

/-- A number handed out stays so. -/
theorem numbers_kept {number : Nat} {front : List CredentialEvent}
    (mem : number ∈ (credentialRun window limits front).numbers) (back : List CredentialEvent) :
    number ∈ (credentialRun window limits (front ++ back)).numbers := by
  induction back using List.reverseRecOn with
  | nil => rwa [List.append_nil]
  | append_singleton back event ih =>
    rw [← List.append_assoc, credentialRun_snoc]
    generalize credentialRun window limits (front ++ back) = bucket at ih
    cases event with
    | reserve own now wall =>
      dsimp only [credentialStep, reserveRefusalCount]
      split
      · exact ih
      · split_ifs
        · exact ih
        · rw [Bucket.numbers, List.map_append]
          exact List.mem_append_left _ ih
    | settle own refused wall =>
      dsimp only [credentialStep, settle]
      split
      · exact ih
      · split_ifs
        · exact ih
        all_goals rwa [Bucket.numbers, numbers_settled]

theorem numbers_run {number : Nat} (mem : number ∈ (credentialRun window limits events).numbers) :
    number ∈ events.filterMap CredentialEvent.reserves := by
  induction events using List.reverseRecOn with
  | nil => simp [Bucket.numbers] at mem
  | append_singleton events event ih =>
    rw [credentialRun_snoc] at mem
    rw [List.filterMap_append, List.mem_append]
    rcases numbers_step event mem with old | new
    · exact Or.inl (ih old)
    · exact Or.inr (List.mem_filterMap.mpr ⟨event, List.mem_singleton_self _, new⟩)

/-- A reservation's number is new. -/
theorem Orderly.fresh {number : Nat} {now : Time} {wall : RateLimitItem → Time}
    {back : List CredentialEvent}
    (orderly : Orderly window limits (events ++ .reserve number now wall :: back)) :
    number ∉ (credentialRun window limits events).numbers := by
  intro mem
  have numbers := orderly.numbers
  rw [List.filterMap_append, List.filterMap_cons] at numbers
  exact (List.nodup_append.mp numbers).2.2 number (numbers_run mem) number (List.mem_cons_self ..) rfl

/-- The numbers of the unsettled attempts once one is settled. -/
theorem unsettled_settled (attempts : List CredentialAttempt) (number : Nat) :
    ((attempts.map fun other =>
      if other.number = number then { other with settled := true } else other).filter
        fun attempt => !attempt.settled).map (·.number) =
      ((attempts.filter fun attempt => !attempt.settled).map (·.number)).filter
        fun other => decide (other ≠ number) := by
  induction attempts with
  | nil => rfl
  | cons attempt rest ih =>
    rw [List.map_cons, List.filter_cons, List.filter_cons]
    by_cases same : attempt.number = number
    · rw [if_pos same, if_neg (by simp), ih]
      cases attempt.settled <;> simp [same]
    · rw [if_neg same]
      cases attempt.settled with
      | false =>
        have isOpen : (!false) = true := rfl
        rw [if_pos isOpen, if_pos isOpen, List.map_cons, ih, List.map_cons, List.filter_cons,
          if_pos (by simpa using same)]
      | true => rw [if_neg (by decide), if_neg (by decide), ih]

theorem Bucket.Sound.step (sound : bucket.Sound limits) (event : CredentialEvent)
    (fresh : ∀ number now wall, event = .reserve number now wall → number ∉ bucket.numbers)
    (inTime : ∀ number now wall, event = .reserve number now wall →
      ∀ entry ∈ bucket.inFlight, now - entry.2 < inFlightSeconds) :
    (credentialStep window limits bucket event).Sound limits := by
  cases event with
  | reserve number now wall =>
    rcases reserve_cases number wall (inTime number now wall rfl) with ⟨same, -⟩ | ⟨admitted, -⟩
    · rw [same]
      exact sound
    · rw [admitted]
      refine ⟨?_, ?_, ?_⟩
      · rw [Bucket.numbers, List.map_append]
        refine List.nodup_append.mpr ⟨sound.nodup, List.nodup_singleton _, fun old mem new isNew => ?_⟩
        have isNumber : new = number := List.mem_singleton.mp isNew
        rintro rfl
        exact fresh number now wall rfl (isNumber ▸ mem)
      · have whole := sound.inFlight
        rw [Bucket.unsettled] at whole ⊢
        rw [List.map_append, whole, List.filter_append, List.map_append]
        rfl
      · intro attempt mem
        rcases List.mem_append.mp mem with old | new
        · exact sound.limited attempt old
        · rw [List.mem_singleton.mp new]
  | settle number refused wall =>
    rcases settle_cases sound number refused wall with ⟨same, -⟩ | ⟨ended, -⟩
    · rw [same]
      exact sound
    · rw [ended]
      refine ⟨?_, ?_, ?_⟩
      · rw [Bucket.numbers, numbers_settled]
        exact sound.nodup
      · rw [Bucket.unsettled, unsettled_settled, ← Bucket.unsettled, ← sound.inFlight, List.filter_map]
        rfl
      · intro attempt mem
        obtain ⟨other, within, rfl⟩ := List.mem_map.mp mem
        split_ifs
        · exact sound.limited other within
        · exact sound.limited other within

/-- **The attempts in flight are the unsettled ones**, after any orderly events. -/
theorem Orderly.sound (orderly : Orderly window limits events) :
    (credentialRun window limits events).Sound limits := by
  induction events using List.reverseRecOn with
  | nil => exact ⟨List.nodup_nil, rfl, by simp⟩
  | append_singleton events event ih =>
    rw [credentialRun_snoc]
    refine (ih orderly.front).step event ?_ ?_
    · rintro number now wall rfl
      exact orderly.fresh
    · rintro number now wall rfl
      exact orderly.inTime events number now wall [] rfl

/-! ### One part of the limit -/

/-- What a part of the limit has counted and holds, as a budget: a refusal is
counted once for each time the part is listed. -/
structure Follows (limits : List RateLimitItem) (part : RateLimitItem) (time : Time) (bucket : Bucket window)
    (budget : Budget) : Prop where
  counted : window.count bucket.store part time = limits.count part * budget.counted
  held : bucket.inFlight.length = budget.held

variable {part : RateLimitItem} {budget : Budget}

/-- Time passing leaves a budget, or ends its window. -/
theorem Follows.later (lawful : window.Lawful) {time later : Time} (le : time ≤ later)
    (follows : Follows limits part time bucket budget) :
    ∃ after, Budget.Run part.amount budget after ∧ Follows limits part later bucket after := by
  obtain ⟨counted, held⟩ := budget
  rcases lawful.count_later bucket.store part time later le with same | ended
  · exact ⟨⟨counted, held⟩, .refl, same.trans follows.counted, follows.held⟩
  · exact ⟨⟨0, held⟩, .single .roll, by simpa using ended, follows.held⟩

theorem length_settled {inFlight : List (Nat × Time)} {number : Nat}
    (nodup : (inFlight.map (·.1)).Nodup) (mem : number ∈ inFlight.map (·.1)) :
    inFlight.length = (inFlight.filter fun entry => decide (entry.1 ≠ number)).length + 1 := by
  induction inFlight with
  | nil => simp at mem
  | cons entry rest ih =>
    rw [List.map_cons, List.nodup_cons] at nodup
    rw [List.map_cons, List.mem_cons] at mem
    rw [List.filter_cons, List.length_cons]
    by_cases same : entry.1 = number
    · rw [if_neg (by simpa using same), List.filter_eq_self.mpr]
      intro other within
      have apart : other.1 ≠ number := by
        rintro rfl
        exact nodup.1 (same ▸ List.mem_map_of_mem within)
      simpa using apart
    · rw [if_pos (by simpa using same), List.length_cons,
        ← ih nodup.2 (mem.resolve_left (Ne.symm same))]

/-- **An event is a step of each part's budget.** -/
theorem Follows.step (lawful : window.Lawful) (isPart : part ∈ limits) (sound : bucket.Sound limits)
    (event : CredentialEvent)
    (inTime : ∀ number now wall, event = .reserve number now wall →
      ∀ entry ∈ bucket.inFlight, now - entry.2 < inFlightSeconds)
    (follows : Follows limits part (event.wall part) bucket budget) :
    ∃ after, Budget.Run part.amount budget after ∧
      Follows limits part (event.wall part) (credentialStep window limits bucket event) after := by
  obtain ⟨counted, held⟩ := budget
  have listed : 0 < limits.count part := List.count_pos_iff.mpr isPart
  cases event with
  | reserve number now wall =>
    rcases reserve_cases number wall (inTime number now wall rfl) with ⟨same, -⟩ | ⟨admitted, room⟩
    · rw [same]
      exact ⟨_, .refl, follows⟩
    · rw [admitted]
      have here := room part isPart
      rw [remaining, follows.held] at here
      have isCounted : window.count bucket.store part (wall part) = limits.count part * counted :=
        follows.counted
      have once : counted ≤ limits.count part * counted := Nat.le_mul_of_pos_left _ listed
      dsimp only at here
      refine ⟨⟨counted, held + 1⟩, .single (.enter (by omega)), isCounted, ?_⟩
      rw [List.length_append, follows.held]
      rfl
  | settle number refused wall =>
    rcases settle_cases sound number refused wall with ⟨same, -⟩ | ⟨ended, isOpen⟩
    · rw [same]
      exact ⟨_, .refl, follows⟩
    · rw [← sound.inFlight] at isOpen
      have nodup : (bucket.inFlight.map (·.1)).Nodup := by
        rw [sound.inFlight]
        exact sound.nodup.sublist (List.filter_sublist.map _)
      have one := length_settled nodup isOpen
      have isHeld : bucket.inFlight.length = held := follows.held
      obtain ⟨rest, rfl⟩ : ∃ rest, held = rest + 1 := ⟨_, isHeld.symm.trans one⟩
      have left : (bucket.inFlight.filter fun entry => decide (entry.1 ≠ number)).length = rest := by
        omega
      rw [ended]
      cases refused with
      | false => exact ⟨⟨counted, rest⟩, .single .release, follows.counted, left⟩
      | true =>
        refine ⟨⟨counted + 1, rest⟩, .single .charge, ?_, left⟩
        have isCounted : window.count bucket.store part (wall part) = limits.count part * counted :=
          follows.counted
        show window.count (window.hitAll limits wall bucket.store) part (wall part) =
          limits.count part * (counted + 1)
        rw [lawful.count_hitAll, isCounted, Nat.mul_add, Nat.mul_one]

/-- A clock that has reached every event's. -/
def Reached (events : List CredentialEvent) (part : RateLimitItem) (time : Time) : Prop :=
  ∀ event ∈ events, event.wall part ≤ time

/-- A part's budget over a run. -/
theorem follows_run (lawful : window.Lawful) (isPart : part ∈ limits)
    (orderly : Orderly window limits events) {time : Time} (reached : Reached events part time) :
    ∃ budget, Budget.Run part.amount ⟨0, 0⟩ budget ∧
      Follows limits part time (credentialRun window limits events) budget := by
  induction events using List.reverseRecOn generalizing time with
  | nil => exact ⟨⟨0, 0⟩, .refl, lawful.count_empty part time, rfl⟩
  | append_singleton events event ih =>
    have before : Reached events part (event.wall part) := fun earlier mem =>
      (List.pairwise_append.mp orderly.walls).2.2 earlier mem event (List.mem_singleton_self _) part
    obtain ⟨first, toFirst, follows⟩ := ih orderly.front before
    obtain ⟨second, toSecond, follows⟩ := follows.step lawful isPart orderly.front.sound event (by
      rintro number now wall rfl
      exact orderly.inTime events number now wall [] rfl)
    rw [← credentialRun_snoc] at follows
    obtain ⟨last, toLast, follows⟩ := follows.later lawful
      (reached event (List.mem_append_right _ (List.mem_singleton_self _)))
    exact ⟨last, (toFirst.trans toSecond).trans toLast, follows⟩

/-! ### An attempt that is not refused -/

/-- The attempt is handed out and not settled. -/
def Bucket.Open (bucket : Bucket window) (number : Nat) : Prop :=
  number ∈ bucket.unsettled.map (·.number)

/-- The attempt is settled, and no refusal of it is counted. -/
def Spared (window : FixedWindow RateLimitItem) (limits : List RateLimitItem)
    (events : List CredentialEvent) (number : Nat) : Prop :=
  ¬ (credentialRun window limits events).Open number ∧
    ∀ before wall after, events = before ++ .settle number true wall :: after →
      ¬ (credentialRun window limits before).Open number

/-- Some attempts can be left out: those answered with a wait are among them, and
the others of them are spared. -/
structure LeavesOut (window : FixedWindow RateLimitItem) (limits : List RateLimitItem)
    (events : List CredentialEvent) (gone : Nat → Bool) : Prop where
  waits : ∀ number ∈ events.filterMap CredentialEvent.reserves,
    number ∉ (credentialRun window limits events).numbers → gone number = true
  spared : ∀ number ∈ (credentialRun window limits events).numbers, gone number = true →
    Spared window limits events number

/-- The events of the other attempts. -/
def others (gone : Nat → Bool) (events : List CredentialEvent) : List CredentialEvent :=
  events.filter fun event => !gone event.number

/-- The bucket is as the other attempts leave it, but for those still in flight. -/
structure Without (gone : Nat → Bool) (bucket rest : Bucket window) : Prop where
  store : rest.store = bucket.store
  inFlight : rest.inFlight = bucket.inFlight.filter fun entry => !gone entry.1
  attempts : rest.attempts = bucket.attempts.filter fun attempt => !gone attempt.number

/-- Numbers handed out were handed out before or are reserved later. -/
theorem numbers_append {front back : List CredentialEvent} {number : Nat}
    (mem : number ∈ (credentialRun window limits (front ++ back)).numbers) :
    number ∈ (credentialRun window limits front).numbers ∨
      number ∈ back.filterMap CredentialEvent.reserves := by
  induction back using List.reverseRecOn with
  | nil => exact Or.inl (by simpa using mem)
  | append_singleton back event ih =>
    rw [← List.append_assoc, credentialRun_snoc] at mem
    rw [List.filterMap_append, List.mem_append]
    rcases numbers_step event mem with old | new
    · exact (ih old).imp_right Or.inl
    · exact Or.inr (Or.inr (List.mem_filterMap.mpr ⟨event, List.mem_singleton_self _, new⟩))

/-- A reservation whose number is handed out in the end was admitted. -/
theorem Orderly.admitted {front back : List CredentialEvent} {number : Nat} {now : Time}
    {wall : RateLimitItem → Time}
    (orderly : Orderly window limits (front ++ .reserve number now wall :: back))
    (mem : number ∈ (credentialRun window limits (front ++ .reserve number now wall :: back)).numbers) :
    number ∈ (credentialStep window limits (credentialRun window limits front)
      (.reserve number now wall)).numbers := by
  have longer : front ++ CredentialEvent.reserve number now wall :: back =
      (front ++ [.reserve number now wall]) ++ back := by simp
  have numbers := orderly.numbers
  rw [longer] at mem
  rw [← credentialRun_snoc]
  rcases numbers_append mem with here | later
  · exact here
  · rw [List.filterMap_append, List.filterMap_cons] at numbers
    exact absurd later (List.nodup_cons.mp (List.nodup_append.mp numbers).2.1).1

section Without

variable {gone : Nat → Bool} {rest : Bucket window}

/-- Settling an attempt and leaving some out can be done in either order. -/
theorem filter_settled (gone : Nat → Bool) (attempts : List CredentialAttempt) (number : Nat) :
    (attempts.map fun other =>
      if other.number = number then { other with settled := true } else other).filter
        (fun attempt => !gone attempt.number) =
      (attempts.filter fun attempt => !gone attempt.number).map fun other =>
        if other.number = number then { other with settled := true } else other := by
  rw [List.filter_map]
  refine congrArg _ (List.filter_congr fun attempt _ => ?_)
  dsimp only [Function.comp]
  split_ifs <;> rfl

/-- Settling an attempt that is not there changes nothing. -/
theorem map_settled_of_absent {attempts : List CredentialAttempt} {number : Nat}
    (absent : ∀ attempt ∈ attempts, attempt.number ≠ number) :
    (attempts.map fun other =>
      if other.number = number then { other with settled := true } else other) = attempts := by
  refine (List.map_congr_left fun attempt mem => ?_).trans (List.map_id _)
  exact if_neg (absent attempt mem)

theorem Without.unsettled (without : Without gone bucket rest) :
    rest.unsettled = bucket.unsettled.filter fun attempt => !gone attempt.number := by
  rw [Bucket.unsettled, without.attempts, Bucket.unsettled, List.filter_filter, List.filter_filter]
  exact List.filter_congr fun attempt _ => Bool.and_comm ..

theorem Without.sound (without : Without gone bucket rest) (sound : bucket.Sound limits) :
    rest.Sound limits where
  nodup := by
    rw [Bucket.numbers, without.attempts]
    exact sound.nodup.sublist (List.filter_sublist.map _)
  inFlight := by
    have left (pairs : List (Nat × Time)) : (pairs.filter fun entry => !gone entry.1).map (·.1) =
        (pairs.map (·.1)).filter fun number => !gone number := by
      rw [List.filter_map]
      rfl
    have right (attempts : List CredentialAttempt) :
        (attempts.filter fun attempt => !gone attempt.number).map (·.number) =
          (attempts.map (·.number)).filter fun number => !gone number := by
      rw [List.filter_map]
      rfl
    rw [without.unsettled, without.inFlight, left, right, sound.inFlight]
  limited attempt mem := by
    rw [without.attempts] at mem
    exact sound.limited attempt (List.mem_of_mem_filter mem)

theorem Without.open_iff (without : Without gone bucket rest) {number : Nat}
    (kept : gone number = false) : rest.Open number ↔ bucket.Open number := by
  unfold Bucket.Open
  rw [without.unsettled]
  constructor
  · intro mem
    obtain ⟨attempt, within, same⟩ := List.mem_map.mp mem
    exact List.mem_map.mpr ⟨attempt, List.mem_of_mem_filter within, same⟩
  · intro mem
    obtain ⟨attempt, within, same⟩ := List.mem_map.mp mem
    exact List.mem_map.mpr ⟨attempt, List.mem_filter.mpr ⟨within, by rw [same, kept]; rfl⟩, same⟩

/-- An event of an attempt that is left out leaves the others as they were. -/
theorem Without.skip (sound : bucket.Sound limits) (without : Without gone bucket rest)
    (event : CredentialEvent) (isGone : gone event.number = true)
    (inTime : ∀ number now wall, event = .reserve number now wall →
      ∀ entry ∈ bucket.inFlight, now - entry.2 < inFlightSeconds)
    (spared : ∀ number wall, event = .settle number true wall → ¬ bucket.Open number) :
    Without gone (credentialStep window limits bucket event) rest := by
  cases event with
  | reserve number now wall =>
    have own : gone number = true := isGone
    rcases reserve_cases number wall (inTime number now wall rfl) with ⟨same, -⟩ | ⟨admitted, -⟩
    · rw [same]
      exact without
    · rw [admitted]
      refine ⟨without.store, ?_, ?_⟩
      · rw [without.inFlight, List.filter_append]
        simp [own]
      · rw [without.attempts, List.filter_append]
        simp [own]
  | settle number refused wall =>
    have own : gone number = true := isGone
    rcases settle_cases sound number refused wall with ⟨same, -⟩ | ⟨ended, isOpen⟩
    · rw [same]
      exact without
    · rw [ended]
      cases refused with
      | true => exact absurd isOpen (spared number wall rfl)
      | false =>
        refine ⟨without.store, ?_, ?_⟩
        · rw [without.inFlight, List.filter_filter]
          refine List.filter_congr fun entry _ => ?_
          by_cases same : entry.1 = number
          · simp [same, own]
          · simp [same]
        · rw [filter_settled, map_settled_of_absent, without.attempts]
          rintro attempt mem rfl
          simpa [own] using (List.mem_filter.mp mem).2

/-- An event of another attempt, admitted if it is a reservation, is the same event
for them alone. -/
theorem Without.follow (sound : bucket.Sound limits) (without : Without gone bucket rest)
    (event : CredentialEvent) (kept : gone event.number = false)
    (inTime : ∀ number now wall, event = .reserve number now wall →
      ∀ entry ∈ bucket.inFlight, now - entry.2 < inFlightSeconds)
    (admitted : ∀ number now wall, event = .reserve number now wall →
      number ∉ bucket.numbers ∧ number ∈ (credentialStep window limits bucket event).numbers) :
    Without gone (credentialStep window limits bucket event) (credentialStep window limits rest event) := by
  cases event with
  | reserve number now wall =>
    have own : gone number = false := kept
    obtain ⟨fresh, isIn⟩ := admitted number now wall rfl
    have inTime := inTime number now wall rfl
    have restInTime : ∀ entry ∈ rest.inFlight, now - entry.2 < inFlightSeconds := by
      intro entry mem
      rw [without.inFlight] at mem
      exact inTime entry (List.mem_of_mem_filter mem)
    rcases reserve_cases number wall inTime with ⟨same, -⟩ | ⟨whole, room⟩
    · rw [same] at isIn
      exact absurd isIn fresh
    · rcases reserve_cases number wall restInTime with ⟨-, limit, isLimit, full⟩ | ⟨part, -⟩
      · have fewer : rest.inFlight.length ≤ bucket.inFlight.length := by
          rw [without.inFlight]
          exact List.length_filter_le _ _
        have room := room limit isLimit
        rw [without.store] at full
        omega
      · rw [whole, part]
        refine ⟨without.store, ?_, ?_⟩
        · rw [without.inFlight, List.filter_append]
          simp [own]
        · rw [without.attempts, List.filter_append]
          simp [own]
  | settle number refused wall =>
    have own : gone number = false := kept
    have sameOpen := without.open_iff own
    rcases settle_cases sound number refused wall with ⟨same, notOpen⟩ | ⟨whole, isOpen⟩ <;>
      rcases settle_cases (without.sound sound) number refused wall with ⟨restSame, restNot⟩ | ⟨part, restOpen⟩
    · rw [same, restSame]
      exact without
    · exact absurd (sameOpen.mp restOpen) notOpen
    · exact absurd (sameOpen.mpr isOpen) restNot
    · rw [whole, part]
      refine ⟨?_, ?_, ?_⟩
      · rw [without.store]
      · rw [without.inFlight, List.filter_filter, List.filter_filter]
        exact List.filter_congr fun entry _ => Bool.and_comm ..
      · rw [filter_settled, without.attempts]

/-- Over a whole run, the others are left as if the rest had never been made. -/
theorem LeavesOut.without {front back : List CredentialEvent}
    (orderly : Orderly window limits (front ++ back))
    (leaves : LeavesOut window limits (front ++ back) gone) :
    Without gone (credentialRun window limits front) (credentialRun window limits (others gone front)) := by
  induction front using List.reverseRecOn generalizing back with
  | nil => exact ⟨rfl, rfl, rfl⟩
  | append_singleton front event ih =>
    have longer : front ++ [event] ++ back = front ++ event :: back := by simp
    rw [longer] at orderly leaves
    have before := ih orderly leaves
    have sound := orderly.front.sound
    have inTime : ∀ number now wall, event = .reserve number now wall →
        ∀ entry ∈ (credentialRun window limits front).inFlight, now - entry.2 < inFlightSeconds := by
      rintro number now wall rfl
      exact orderly.inTime front number now wall back rfl
    rw [credentialRun_snoc, others, List.filter_append, ← others]
    cases isGone : gone event.number with
    | true =>
      have none_ : [event].filter (fun event => !gone event.number) = [] := by simp [isGone]
      rw [none_, List.append_nil]
      refine before.skip sound event isGone inTime ?_
      rintro number wall rfl isOpen
      have isIn : number ∈ (credentialRun window limits front).numbers :=
        (List.filter_sublist.map _).subset isOpen
      have whole := numbers_kept isIn (.settle number true wall :: back)
      exact (leaves.spared number whole isGone).2 front wall back rfl isOpen
    | false =>
      have one : [event].filter (fun event => !gone event.number) = [event] := by simp [isGone]
      rw [one, credentialRun_snoc]
      refine before.follow sound event isGone inTime ?_
      rintro number now wall rfl
      refine ⟨orderly.fresh, orderly.admitted ?_⟩
      by_contra out
      have reserved : number ∈ (front ++ CredentialEvent.reserve number now wall :: back).filterMap
          CredentialEvent.reserves := by simp [CredentialEvent.reserves]
      have isGone' := leaves.waits number reserved out
      rw [CredentialEvent.number] at isGone
      rw [isGone] at isGone'
      cases isGone'

/-- **An attempt settled and not refused leaves no trace.** -/
theorem LeavesOut.noTrace (orderly : Orderly window limits events)
    (leaves : LeavesOut window limits events gone) :
    (credentialRun window limits (others gone events)).store = (credentialRun window limits events).store ∧
      (credentialRun window limits (others gone events)).inFlight =
        (credentialRun window limits events).inFlight := by
  have orderly' : Orderly window limits (events ++ []) := by rwa [List.append_nil]
  have leaves' : LeavesOut window limits (events ++ []) gone := by rwa [List.append_nil]
  have without := LeavesOut.without orderly' leaves'
  refine ⟨without.store, without.inFlight.trans (List.filter_eq_self.mpr fun entry mem => ?_)⟩
  have isOpen : (credentialRun window limits events).Open entry.1 := by
    rw [Bucket.Open, ← orderly.sound.inFlight]
    exact List.mem_map_of_mem mem
  have isIn : entry.1 ∈ (credentialRun window limits events).numbers :=
    (List.filter_sublist.map _).subset isOpen
  cases isGone : gone entry.1 with
  | true => exact absurd isOpen (leaves.spared entry.1 isIn isGone).1
  | false => rfl

end Without

/-! ### The budget -/

/-- The refusals counted in a part's current window. -/
def refusalsIn (limits : List RateLimitItem) (part : RateLimitItem) (time : Time) (bucket : Bucket window) :
    Nat := window.count bucket.store part time / limits.count part

/-- What the bucket keeps, after some events. -/
structure KeepsBudget (window : FixedWindow RateLimitItem) (limits : List RateLimitItem)
    (events : List CredentialEvent) : Prop where
  /-- Refusals of the window and attempts in flight are within every part's amount,
  and so are the refusals alone. -/
  within : ∀ part ∈ limits, ∀ time, Reached events part time →
    refusalsIn limits part time (credentialRun window limits events) +
      (credentialRun window limits events).unsettled.length ≤ part.amount
  /-- A refusal counts once for each time its part is listed. -/
  whole : ∀ part ∈ limits, ∀ time, Reached events part time →
    limits.count part ∣ window.count (credentialRun window limits events).store part time
  /-- What holds room is what is in flight. -/
  holds : (credentialRun window limits events).inFlight.map (·.1) =
    (credentialRun window limits events).unsettled.map (·.number)
  noTrace : ∀ gone, LeavesOut window limits events gone →
    (credentialRun window limits (others gone events)).store = (credentialRun window limits events).store ∧
      (credentialRun window limits (others gone events)).inFlight =
        (credentialRun window limits events).inFlight

end Budget

theorem RateLimitItem.expiry_pos (item : RateLimitItem) : 0 < item.expiry := by
  have granular : 0 < item.granularity.seconds := by cases item.granularity <;> decide
  have several : (0 : Int) < item.multiples := Int.natCast_pos.mpr item.multiplesPos
  exact Int.mul_pos (Int.mul_pos granular several) (by decide)

/-- Two in a minute and ten in an hour. -/
def twoParts : List RateLimitItem :=
  [⟨2, 1, .minute, by decide, by decide⟩, ⟨10, 1, .hour, by decide, by decide⟩]

/-- A check in flight, and one refused. -/
def twoChecks : List CredentialEvent :=
  [.reserve 0 (seconds 1) fun _ => seconds 1, .reserve 1 (seconds 2) fun _ => seconds 2,
    .settle 0 true fun _ => seconds 3]

theorem twoChecks_orderly :
    Orderly (FixedWindow.memoryStorage RateLimitItem.expiry) twoParts twoChecks where
  walls := by simp [twoChecks, CredentialEvent.wall, seconds]
  numbers := by decide
  inTime before number now wall after split := by
    rcases before with _ | ⟨first, _ | ⟨second, _ | ⟨third, before⟩⟩⟩
    · simp
    · obtain ⟨rfl, tail⟩ := List.cons.inj split
      obtain ⟨isEvent, -⟩ := List.cons.inj tail
      obtain ⟨-, rfl, -⟩ := CredentialEvent.reserve.inj isEvent
      decide
    · simp [twoChecks] at split
    · simp [twoChecks] at split

end LuxSwirl.Server
