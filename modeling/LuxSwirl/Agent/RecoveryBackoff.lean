import LuxSwirl.Agent.Identity
import LuxSwirl.Lib.Picks
import Mathlib.Tactic.IntervalCases
import Mathlib.Tactic.Linarith
import Mathlib.Tactic.NormNum

/-!
# The back-off of key recoveries

A key recovered again within an hour of the last sets a wait that doubles from a
minute to an hour. The hour of the longest wait is the hour of the test: the
recovery after it does not count as repeated, and the waits begin again at none.
So the recoveries an agent gets through are those `recoveryWait` lets through, eight
to a round of a little over two hours.
-/

namespace LuxSwirl.Agent
open LuxSwirl.Py LuxSwirl.Lib

/-! ## Calls -/

/-- A call of `recover_agent_key`: the time it is made at, and surroundings in which the
clock reads that time and a recovery is answered with a key. -/
structure RecoveryCall where
  time : ℚ
  out : Outside
  reads : ∀ look, out.monotonic look = time
  answered : ∀ past, ∃ response apiKey,
    out.answer past .recoverKey = some response ∧ response.recoveredKey = some apiKey

/-- The times of the calls that recovered the key. -/
def recoveries : AgentProcess → List RecoveryCall → List ℚ
  | _, [] => []
  | agent, call :: calls =>
    match recoverAgentKey call.out agent with
    | (true, agent) => call.time :: recoveries agent calls
    | (false, agent) => recoveries agent calls

/-- An agent that can recover its key. -/
structure Recoverable (agent : AgentProcess) : Prop where
  unrefused : agent.registration.recoveryRefused = false
  recoverySecret : truthy agent.credentials.recoverySecret = true
  registrationKey : truthy agent.registrationKey = true
  agentId : ∃ agentId, agent.agentId = some agentId ∧ agent.credentials.agentId = some agentId

/-- An agent that has recovered no key since it started. -/
structure FreshlyStarted (agent : AgentProcess) : Prop extends Recoverable agent where
  notBefore : agent.registration.recoveryNotBefore = 0
  lastRecovered : agent.registration.lastRecovered = none

variable {agent : AgentProcess}

theorem Recoverable.held (recoverable : Recoverable agent) (call : RecoveryCall)
    (early : call.time < agent.registration.recoveryNotBefore) :
    recoverAgentKey call.out agent = (false, agent.looked) := by
  unfold recoverAgentKey
  rw [recoverable.unrefused, call.reads]
  exact if_pos early

/-- What a key the server handed out leaves of an agent that can recover it. -/
theorem takeKey_spec (out : Outside) (recoverable : Recoverable agent) {agentId : Nat}
    (configured : agent.agentId = some agentId) (apiKey : Value) :
    Recoverable (takeKey out agentId apiKey agent) ∧
      (takeKey out agentId apiKey agent).registration =
        agent.registration.recovered (out.monotonic agent.looks) := by
  obtain ⟨unrefused, recoverySecret, registrationKey, ownId, configured', own⟩ := recoverable
  obtain rfl : agentId = ownId := Option.some_inj.mp (configured.symm.trans configured')
  have asked : (agent.registration.recovered (out.monotonic agent.looks)).recoveryRefused = false := by
    unfold AgentRegistration.recovered
    split <;> exact unrefused
  have sameSecret : savedSecret agentId .none (holdBackRepeatedRecovery out agent).credentials =
      agent.credentials.recoverySecret := savedSecret_of_held own
  unfold takeKey save
  rw [sameSecret]
  by_cases works : out.saves (holdBackRepeatedRecovery out agent).looks = true
  · rw [if_pos works]
    exact ⟨⟨asked, recoverySecret, registrationKey, agentId, configured, rfl⟩, rfl⟩
  · rw [if_neg works]
    exact ⟨⟨asked, recoverySecret, registrationKey, agentId, configured, own⟩, rfl⟩

theorem Recoverable.taken (recoverable : Recoverable agent) (call : RecoveryCall)
    (due : agent.registration.recoveryNotBefore ≤ call.time) :
    ∃ after, recoverAgentKey call.out agent = (true, after) ∧ Recoverable after ∧
      after.registration = agent.registration.recovered call.time := by
  obtain ⟨agentId, configured, -⟩ := recoverable.agentId
  obtain ⟨response, apiKey, answer, brought⟩ := call.answered agent.asked
  have success : response.isSuccess = true := by
    by_contra failed
    rw [ServerResponse.recoveredKey, if_neg failed] at brought
    cases brought
  let asked := agent.looked.record .recoverKey (some response)
  have able : Recoverable asked := { recoverable with }
  have configuredNow : asked.agentId = some agentId := configured
  obtain ⟨recoverable', registration⟩ := takeKey_spec call.out able configuredNow apiKey
  refine ⟨takeKey call.out agentId apiKey asked, ?_, recoverable', ?_⟩
  · unfold recoverAgentKey
    rw [recoverable.unrefused, call.reads]
    have secret : truthy agent.looked.credentials.recoverySecret = true :=
      recoverable.recoverySecret
    have key : truthy agent.looked.registrationKey = true := recoverable.registrationKey
    have due : ¬call.time < agent.looked.registration.recoveryNotBefore := not_lt.mpr due
    have id : agent.looked.agentId = some agentId := configured
    simp only [Bool.false_eq_true, if_false, secret, if_true, id, key]
    rw [if_neg due]
    unfold askForKey
    have answer : call.out.answer agent.looked.asked .recoverKey = some response := answer
    simp only [answer, success, if_true, brought]
    rfl
  · rw [registration, call.reads]
    rfl

/-! ## The waits -/

/-- The wait after the recovery of number `k`, in seconds. -/
def recoveryWait (k : Nat) : ℚ := [0, 60, 120, 240, 480, 960, 1920, 3600].getD (k % 8) 0

theorem recoveryWait_nonneg (k : Nat) : 0 ≤ recoveryWait k := by
  have small : k % 8 < 8 := Nat.mod_lt _ (by decide)
  unfold recoveryWait
  interval_cases k % 8 <;> norm_num

/-- The longest wait is followed by none; any other is doubled. -/
theorem recoveryWait_succ (k : Nat) :
    recoveryWait k = 3600 ∧ recoveryWait (k + 1) = 0 ∨
      recoveryWait k ≤ 1920 ∧ 0 < recoveryWait (k + 1) ∧
        recoveryWait (k + 1) = min (max (recoveryWait k * 2) 60) 3600 := by
  have small : k % 8 < 8 := Nat.mod_lt _ (by decide)
  unfold recoveryWait
  rw [Nat.add_mod]
  interval_cases k % 8 <;> norm_num

/-- The bookkeeping after the recovery of number `k`, made at `last`. -/
structure Waiting (k : Nat) (last : ℚ) (registration : AgentRegistration) : Prop where
  recovered : registration.lastRecovered = some last
  gap : registration.recoveryGap = recoveryWait k
  held : ∀ now, last < now →
    (now < registration.recoveryNotBefore ↔ now < last + recoveryWait k)

variable {registration : AgentRegistration} {k : Nat} {last now : ℚ}

theorem Waiting.first (fresh : registration.lastRecovered = none)
    (due : registration.recoveryNotBefore ≤ now) : Waiting 0 now (registration.recovered now) := by
  unfold AgentRegistration.recovered
  rw [fresh]
  refine ⟨rfl, rfl, fun later after => ?_⟩
  have none : recoveryWait 0 = 0 := rfl
  rw [none]
  constructor
  · intro held
    exact absurd held (by simpa using due.trans after.le)
  · intro held
    linarith

theorem Waiting.next (waiting : Waiting k last registration)
    (due : last + recoveryWait k ≤ now) (soon : now ≤ last + recoveryWait k + 60)
    (after : last < now) : Waiting (k + 1) now (registration.recovered now) := by
  have notHeld : registration.recoveryNotBefore ≤ now :=
    not_lt.mp fun held => absurd ((waiting.held now after).mp held) (not_lt.mpr due)
  unfold AgentRegistration.recovered
  rw [waiting.recovered, waiting.gap]
  rcases recoveryWait_succ k with ⟨longest, none⟩ | ⟨short, pos, doubled⟩
  · -- An hour has passed: the recovery does not count as repeated.
    have apart : ¬now - last < 3600 := by linarith
    simp only [Option.any_some, apart, decide_false, Bool.false_eq_true, if_false]
    refine ⟨rfl, none.symm, fun later after => ?_⟩
    rw [none]
    constructor
    · intro held
      exact absurd held (by simpa using notHeld.trans after.le)
    · intro held
      linarith
  · have repeated : now - last < 3600 := by linarith
    simp only [Option.any_some, repeated, decide_true, if_true, ← doubled]
    exact ⟨rfl, rfl, fun later _ => Iff.rfl⟩

/-! ## The recoveries a run gets through -/

/-- Calls one after another, at most a minute apart. -/
def Successive (times : List ℚ) : Prop := times.IsChain fun s t => s < t ∧ t ≤ s + 60

theorem Waiting.recoveries_eq (recoverable : Recoverable agent)
    (waiting : Waiting k last agent.registration) {prev : ℚ} (le : last ≤ prev)
    (within : prev ≤ last + recoveryWait k) (calls : List RecoveryCall)
    (successive : Successive (prev :: calls.map (·.time))) :
    recoveries agent calls =
      picks recoveryWait (k + 1) (last + recoveryWait k) (calls.map (·.time)) := by
  induction calls generalizing agent k last prev with
  | nil => rfl
  | cons call calls ih =>
    obtain ⟨⟨after, near⟩, successive⟩ := List.isChain_cons_cons.mp successive
    have later : last < call.time := lt_of_le_of_lt le after
    simp only [List.map_cons, picks]
    by_cases early : call.time < last + recoveryWait k
    · have held := recoverable.held call ((waiting.held call.time later).mpr early)
      rw [if_neg (not_le.mpr early)]
      simp only [recoveries, held]
      have able : Recoverable agent.looked := { recoverable with }
      have same : Waiting k last agent.looked.registration := waiting
      exact ih able same later.le early.le successive
    · have due : last + recoveryWait k ≤ call.time := not_lt.mp early
      have notHeld : agent.registration.recoveryNotBefore ≤ call.time :=
        not_lt.mp fun held => absurd ((waiting.held call.time later).mp held) early
      obtain ⟨after, taken, able, registration⟩ := recoverable.taken call notHeld
      have next : Waiting (k + 1) call.time after.registration := by
        rw [registration]
        exact waiting.next due (by linarith) later
      rw [if_pos due]
      simp only [recoveries, taken]
      rw [ih able next le_rfl (le_add_of_nonneg_right (recoveryWait_nonneg _)) successive]

/-- **The recoveries are the calls that keep the waits.** -/
theorem FreshlyStarted.recoveries_eq (fresh : FreshlyStarted agent) (calls : List RecoveryCall)
    (successive : Successive (calls.map (·.time))) :
    recoveries agent calls = picks recoveryWait 0 0 (calls.map (·.time)) := by
  induction calls generalizing agent with
  | nil => rfl
  | cons call calls ih =>
    simp only [List.map_cons, picks]
    by_cases early : call.time < 0
    · have held := fresh.toRecoverable.held call (by rwa [fresh.notBefore])
      have same : FreshlyStarted agent.looked := { fresh with }
      rw [if_neg (not_le.mpr early)]
      simp only [recoveries, held]
      exact ih same successive.tail
    · have due : agent.registration.recoveryNotBefore ≤ call.time := by
        rw [fresh.notBefore]
        exact not_lt.mp early
      obtain ⟨after, taken, able, registration⟩ := fresh.toRecoverable.taken call due
      have next : Waiting 0 call.time after.registration := by
        rw [registration]
        exact Waiting.first fresh.lastRecovered due
      rw [if_pos (not_lt.mp early)]
      simp only [recoveries, taken]
      rw [next.recoveries_eq able le_rfl (le_add_of_nonneg_right (recoveryWait_nonneg _)) calls
        successive]

/-! ## The bound -/

/-- In every interval at most one recovery an hour, and nine. -/
def BackoffBounded (recovered : List ℚ) : Prop :=
  ∀ start length, 0 ≤ length →
    (countFrom start (start + length) recovered : ℚ) ≤ length / 3600 + 9

/-- Twelve calls that keep the waits. -/
def TwelveApart (times : List ℚ) : Prop :=
  ∃ chain, chain.Sublist times ∧ chain.length = 12 ∧ Waited recoveryWait 0 0 chain

theorem Successive.sorted {times : List ℚ} (successive : Successive times) :
    times.Pairwise (· < ·) :=
  (successive.imp fun _ _ step => step.1).pairwise

/-- Eleven recoveries are within the bound. -/
theorem bounded_of_length_le {recovered : List ℚ} (apart : Waited recoveryWait 0 0 recovered)
    (sorted : recovered.Pairwise (· < ·)) (few : recovered.length ≤ 11) :
    BackoffBounded recovered := by
  intro start length nonneg
  have all : countFrom start (start + length) recovered ≤ recovered.length :=
    List.countP_le_length
  have ten : length < 7200 → countFrom start (start + length) recovered ≤ 10 := by
    intro short
    rcases Nat.lt_or_ge recovered.length 11 with lt | ge
    · omega
    · have span := apart.between (i := 0) (n := 9) (List.getElem?_eq_getElem (by omega))
        (List.getElem?_eq_getElem (by omega))
      have far : recovered[0] + length < recovered[0 + 9 + 1] := by
        norm_num [Finset.sum_range_succ, recoveryWait] at span ⊢
        linarith
      have most : countFrom start (start + length) recovered ≤ max (recovered.length - (0 + 1)) (0 + 9 + 1) :=
        countFrom_le_max sorted (List.getElem?_eq_getElem (by omega))
          (List.getElem?_eq_getElem (by omega)) far
      omega
  have nine : length < 3600 → countFrom start (start + length) recovered ≤ 9 := by
    intro short
    rcases Nat.lt_or_ge recovered.length 10 with lt | ge
    · omega
    · have span := apart.between (i := 1) (n := 7) (List.getElem?_eq_getElem (by omega))
        (List.getElem?_eq_getElem (by omega))
      have far : recovered[1] + length < recovered[1 + 7 + 1] := by
        norm_num [Finset.sum_range_succ, recoveryWait] at span ⊢
        linarith
      have most : countFrom start (start + length) recovered ≤ max (recovered.length - (1 + 1)) (1 + 7 + 1) :=
        countFrom_le_max sorted (List.getElem?_eq_getElem (by omega))
          (List.getElem?_eq_getElem (by omega)) far
      omega
  rcases lt_or_ge length 3600 with short | hour
  · have most : (countFrom start (start + length) recovered : ℚ) ≤ 9 := by exact_mod_cast nine short
    linarith
  · rcases lt_or_ge length 7200 with short | hours
    · have most : (countFrom start (start + length) recovered : ℚ) ≤ 10 := by
        exact_mod_cast ten short
      linarith
    · have most : (countFrom start (start + length) recovered : ℚ) ≤ 11 := by
        exact_mod_cast all.trans few
      linarith

/-- Twelve recoveries come within two hours and twenty minutes. -/
theorem not_bounded_of_length {times : List ℚ} (successive : Successive times)
    (many : 12 ≤ (picks recoveryWait 0 0 times).length) :
    ¬BackoffBounded (picks recoveryWait 0 0 times) := by
  intro bounded
  have sorted : (picks recoveryWait 0 0 times).Pairwise (· < ·) :=
    successive.sorted.sublist picks_sublist
  cases same : picks recoveryWait 0 0 times with
  | nil => simp [same] at many
  | cons first rest =>
    rw [same] at many bounded sorted
    obtain ⟨before, later, rfl, rfl⟩ := picks_eq_cons same
    have dense : (first :: later).IsChain fun s t => t ≤ s + 60 :=
      (successive.right_of_append).imp fun _ _ step => step.2
    set rest := picks recoveryWait (0 + 1) (first + recoveryWait 0) later with rest_eq
    have long : 10 < rest.length := by simp at many; omega
    have near := picks_le recoveryWait_nonneg (le_add_of_nonneg_right (recoveryWait_nonneg 0)) dense
      (List.getElem?_eq_getElem long)
    have near : rest[10] ≤ first + 8220 := by
      norm_num [Finset.sum_range_succ, recoveryWait] at near
      linarith
    have twelve : 11 + 1 ≤ countFrom first rest[10] (first :: rest) :=
      le_countFrom sorted (by simp [List.getElem?_eq_getElem long])
    have le : first ≤ rest[10] := by
      have := (List.pairwise_cons.mp sorted).1 rest[10] (List.getElem_mem long)
      exact this.le
    have most := bounded first (rest[10] - first) (by linarith)
    rw [add_sub_cancel] at most
    have twelve : (12 : ℚ) ≤ countFrom first rest[10] (first :: rest) := by exact_mod_cast twelve
    linarith

/-- **When the back-off bound holds.** The recoveries keep to one an hour and nine
exactly when no twelve of the calls keep the waits of a whole round and a half. -/
theorem backoff_bounded_iff (fresh : FreshlyStarted agent) (calls : List RecoveryCall)
    (successive : Successive (calls.map (·.time))) :
    BackoffBounded (recoveries agent calls) ↔ ¬TwelveApart (calls.map (·.time)) := by
  rw [fresh.recoveries_eq calls successive]
  constructor
  · rintro bounded ⟨chain, sub, twelve, apart⟩
    have many := apart.length_le le_rfl sub successive.sorted
    exact not_bounded_of_length successive (twelve ▸ many) bounded
  · intro none
    have few : (picks recoveryWait 0 0 (calls.map (·.time))).length ≤ 11 := by
      by_contra many
      refine none ⟨_, (List.take_sublist 12 _).trans picks_sublist, ?_, waited_picks.take 12⟩
      rw [List.length_take]
      omega
    exact bounded_of_length_le waited_picks (successive.sorted.sublist picks_sublist) few

/-! ## Fixed calls -/

/-- A call at a time, answered with a key. -/
def callAt (time : ℚ) : RecoveryCall where
  time := time
  out :=
    { answer := fun _ _ => some { statusCode := 200, json := objectOf [("api_key", "new")] }
      saves := fun _ => true
      unlinks := fun _ => true
      moves := fun _ => true
      monotonic := fun _ => time }
  reads _ := rfl
  answered _ := ⟨_, .str (text "new"), rfl, rfl⟩

theorem firstAgent_fresh : FreshlyStarted firstAgent where
  unrefused := rfl
  recoverySecret := rfl
  registrationKey := rfl
  agentId := ⟨1, rfl, rfl⟩
  notBefore := rfl
  lastRecovered := rfl

theorem bounded_of_two_calls :
    BackoffBounded (recoveries firstAgent [callAt 0, callAt 60]) := by
  have successive : Successive ([callAt 0, callAt 60].map (·.time)) := by
    simp [Successive, callAt]
  refine (backoff_bounded_iff firstAgent_fresh _ successive).mpr ?_
  rintro ⟨chain, sub, twelve, -⟩
  have few := sub.length_le
  simp [twelve] at few

/-- A call a minute for two hours and eight minutes. -/
def everyMinute : List RecoveryCall := (List.range 129).map fun minute => callAt (60 * minute)

/-- Twelve recoveries in two hours and eight minutes. -/
theorem twelve_recoveries :
    FreshlyStarted firstAgent ∧ Successive (everyMinute.map (·.time)) ∧
      ¬BackoffBounded (recoveries firstAgent everyMinute) := by
  refine ⟨firstAgent_fresh, by unfold Successive; decide +kernel, fun bounded => ?_⟩
  have most := bounded 0 7680 (by norm_num)
  have twelve : countFrom 0 (0 + 7680) (recoveries firstAgent everyMinute) = 12 := by decide +kernel
  rw [twelve] at most
  norm_num at most

end LuxSwirl.Agent
