import LuxSwirl.Server.Models
import Mathlib.Data.List.Induction

/-!
# What batches of results tell

A status alert at one failure each, seen through the states it tells of. A failure
fires when the alert is set on errors, a success when the result before the newest
stored one failed. One result at a time that is the result before it; in a batch
it is the same for all of it. `tellBatches_iff` says on which batches the two tell
alike.
-/

namespace LuxSwirl.Server
open LuxSwirl.Lib

/-- The state a result is in. -/
def statusKey (result : CheckResult) : StateKey := if result.success then .statusUp else .statusDown

/-- Whether a result fires when the result before the newest failed or not. -/
def firesWith (onError failedBefore : Bool) (result : CheckResult) : Bool :=
  if result.success then failedBefore else onError

/-- The newest state told of after one more result. -/
def toldState (fires : Bool) (result : CheckResult) (last : Option StateKey) : Option StateKey :=
  if fires then some (statusKey result) else last

/-- A result that fires is told of when its state is not the newest told. -/
def tells (fires : Bool) (result : CheckResult) (last : Option StateKey) : Bool :=
  fires && decide (last ≠ some (statusKey result))

/-- The newest state after a batch and the results told of; whether the result
before the newest failed is the same for all of it. -/
def tellBatch (onError failedBefore : Bool) (last : Option StateKey) :
    List CheckResult → Option StateKey × List CheckResult
  | [] => (last, [])
  | result :: rest =>
    let fires := firesWith onError failedBefore result
    let (final, told) := tellBatch onError failedBefore (toldState fires result last) rest
    (final, if tells fires result last then result :: told else told)

/-- The same of results one at a time. -/
def tellEach (onError : Bool) : Bool → Option StateKey → List CheckResult →
    Option StateKey × List CheckResult
  | _, last, [] => (last, [])
  | failedBefore, last, result :: rest =>
    let fires := firesWith onError failedBefore result
    let (final, told) := tellEach onError (!result.success) (toldState fires result last) rest
    (final, if tells fires result last then result :: told else told)

def CheckResult.failed (result : CheckResult) : Bool := !result.success

/-- The last of some results failed. -/
def lastFailed (results : List CheckResult) : Bool := results.getLast?.any (·.failed)

/-- The last but one of some results failed. -/
def secondLastFailed (results : List CheckResult) : Bool :=
  match results.reverse with
  | _ :: previous :: _ => previous.failed
  | _ => false

/-- Some success comes right after a failure. -/
def recoversIn : Bool → List CheckResult → Bool
  | _, [] => false
  | failedBefore, result :: rest => (result.success && failedBefore) || recoversIn (!result.success) rest

/-- What batches tell, after some earlier results. -/
def tellBatches (onError : Bool) (earlier : List CheckResult) (last : Option StateKey) :
    List (List CheckResult) → List CheckResult
  | [] => []
  | batch :: rest =>
    let (state, told) := tellBatch onError (secondLastFailed (earlier ++ batch)) last batch
    told ++ tellBatches onError (earlier ++ batch) state rest

/-- The newest state told of after some results, one at a time. -/
def stateAfter (onError : Bool) (results : List CheckResult) : Option StateKey :=
  (tellEach onError false none results).1

/-- When a batch tells what its results tell one at a time. -/
def BatchAgrees (onError : Bool) (earlier batch : List CheckResult) : Prop :=
  (onError = false ∧ recoversIn false earlier = true) ∨
  (secondLastFailed (earlier ++ batch) = true ∧
    ((∃ result ∈ earlier, result.failed = true) ∨ batch.head?.any (·.failed) = true)) ∨
  (secondLastFailed (earlier ++ batch) = false ∧ recoversIn (lastFailed earlier) batch = false)

instance (onError : Bool) (earlier batch : List CheckResult) :
    Decidable (BatchAgrees onError earlier batch) := inferInstanceAs (Decidable (_ ∨ _ ∨ _))

section Each

variable {onError failedBefore : Bool} {last : Option StateKey}

@[simp] theorem lastFailed_nil : lastFailed [] = false := rfl

@[simp] theorem lastFailed_snoc (results : List CheckResult) (result : CheckResult) :
    lastFailed (results ++ [result]) = result.failed := by
  simp [lastFailed]

theorem tellEach_append (results more : List CheckResult) :
    tellEach onError failedBefore last (results ++ more) =
      let first := tellEach onError failedBefore last results
      let then_ := tellEach onError (if results = [] then failedBefore else lastFailed results) first.1 more
      (then_.1, first.2 ++ then_.2) := by
  induction results generalizing failedBefore last with
  | nil => rfl
  | cons result rest ih =>
    rw [List.cons_append, tellEach, ih, tellEach]
    have newest : (if rest = [] then !result.success else lastFailed rest) =
        lastFailed (result :: rest) := by
      rcases rest with _ | ⟨next, rest⟩
      · rfl
      · simp [lastFailed]
    dsimp only
    rw [newest, if_neg (List.cons_ne_nil _ _)]
    split_ifs <;> rfl

/-- Results one at a time go on from where those before them ended. -/
theorem tellEach_after (results more : List CheckResult) :
    tellEach onError false none (results ++ more) =
      let next := tellEach onError (lastFailed results) (stateAfter onError results) more
      (next.1, (tellEach onError false none results).2 ++ next.2) := by
  have same : (if results = [] then false else lastFailed results) = lastFailed results := by
    split_ifs with empty
    · rw [empty]
      rfl
    · rfl
  rw [tellEach_append, same]
  rfl

theorem stateAfter_append (results more : List CheckResult) :
    stateAfter onError (results ++ more) =
      (tellEach onError (lastFailed results) (stateAfter onError results) more).1 := by
  rw [stateAfter, tellEach_after]

theorem stateAfter_snoc (results : List CheckResult) (result : CheckResult) :
    stateAfter onError (results ++ [result]) =
      toldState (firesWith onError (lastFailed results) result) result (stateAfter onError results) :=
  stateAfter_append results [result]

theorem tellEach_from (earlier batch rest : List CheckResult) :
    (tellEach onError (lastFailed earlier) (stateAfter onError earlier) (batch ++ rest)).2 =
      (tellEach onError (lastFailed earlier) (stateAfter onError earlier) batch).2 ++
        (tellEach onError (lastFailed (earlier ++ batch)) (stateAfter onError (earlier ++ batch)) rest).2 := by
  have newest : (if batch = [] then lastFailed earlier else lastFailed batch) =
      lastFailed (earlier ++ batch) := by
    split_ifs with empty
    · rw [empty, List.append_nil]
    · rw [lastFailed, lastFailed, List.getLast?_append_of_ne_nil _ empty]
  rw [tellEach_append, stateAfter_append, newest]

/-- The newest state told is that of the newest result, as far as it is told. -/
structure Aligned (onError failedBefore : Bool) (last : Option StateKey) : Prop where
  up : failedBefore = false → last = some .statusUp
  down : onError = true → failedBefore = true → last = some .statusDown

/-- One result keeps it so, and after a failure it is so. -/
theorem Aligned.step {result : CheckResult} (aligned : result.success = true → Aligned onError failedBefore last) :
    Aligned onError result.failed
      (toldState (firesWith onError failedBefore result) result last) := by
  cases success : result.success with
  | true =>
    have isFailed : result.failed = false := by rw [CheckResult.failed, success]; rfl
    have before := aligned success
    refine ⟨fun _ => ?_, fun _ failed => absurd failed (by rw [isFailed]; decide)⟩
    cases failedBefore with
    | true => simp [toldState, firesWith, statusKey, success]
    | false => simpa [toldState, firesWith, success] using before.up rfl
  | false =>
    have isFailed : result.failed = true := by rw [CheckResult.failed, success]; rfl
    refine ⟨fun failed => absurd failed (by rw [isFailed]; decide), fun isOn _ => ?_⟩
    simp [toldState, firesWith, statusKey, success, isOn]

/-- With a failure among the results, the newest state is that of the newest. -/
theorem aligned_of_failure {results : List CheckResult}
    (failure : ∃ result ∈ results, result.failed = true) :
    Aligned onError (lastFailed results) (stateAfter onError results) := by
  induction results using List.reverseRecOn with
  | nil => simp at failure
  | append_singleton results result ih =>
    rw [lastFailed_snoc, stateAfter_snoc]
    refine Aligned.step fun success => ih ?_
    obtain ⟨other, mem, failed⟩ := failure
    rcases List.mem_append.mp mem with old | new
    · exact ⟨other, old, failed⟩
    · rw [List.mem_singleton.mp new, CheckResult.failed, success] at failed
      cases failed

/-- Without one nothing is told. -/
theorem stateAfter_of_no_failure {results : List CheckResult}
    (noFailure : ¬ ∃ result ∈ results, result.failed = true) : stateAfter onError results = none := by
  induction results using List.reverseRecOn with
  | nil => rfl
  | append_singleton results result ih =>
    have before : ¬ ∃ other ∈ results, other.failed = true := fun ⟨other, mem, failed⟩ =>
      noFailure ⟨other, List.mem_append_left _ mem, failed⟩
    have quiet : lastFailed results = false := by
      rw [lastFailed, ← Bool.not_eq_true, Option.any_eq_true]
      rintro ⟨other, isLast, failed⟩
      exact before ⟨other, List.mem_of_getLast? isLast, failed⟩
    have success : result.success = true := by
      by_contra failed
      exact noFailure ⟨result, by simp, by simpa [CheckResult.failed] using failed⟩
    rw [stateAfter_snoc, ih before, quiet, toldState, firesWith, if_pos success, if_neg (by decide)]

/-- An alert that is not set on errors tells of recoveries alone. -/
theorem tellEach_of_noError (results : List CheckResult) :
    (tellEach false failedBefore last results).1 =
      if recoversIn failedBefore results then some .statusUp else last := by
  induction results generalizing failedBefore last with
  | nil => rfl
  | cons result rest ih =>
    rw [tellEach, recoversIn]
    dsimp only
    rw [ih]
    cases success : result.success <;> cases failedBefore <;>
      simp [toldState, firesWith, statusKey, success]

/-! ## A batch that agrees -/

/-- Where the newest result is told of, a batch after which a failure comes before
the newest tells each state once. -/
theorem tellBatch_of_aligned (batch : List CheckResult) (aligned : Aligned onError failedBefore last) :
    tellBatch onError true last batch = tellEach onError failedBefore last batch := by
  induction batch generalizing failedBefore last with
  | nil => rfl
  | cons result rest ih =>
    have next : Aligned onError result.failed
        (toldState (firesWith onError failedBefore result) result last) := Aligned.step fun _ => aligned
    have sameState : toldState (firesWith onError true result) result last =
        toldState (firesWith onError failedBefore result) result last := by
      cases success : result.success with
      | false => simp [firesWith, success]
      | true =>
        cases failedBefore with
        | true => rfl
        | false => simp [toldState, firesWith, statusKey, success, aligned.up rfl]
    have sameTells : tells (firesWith onError true result) result last =
        tells (firesWith onError failedBefore result) result last := by
      cases success : result.success with
      | false => simp [firesWith, success]
      | true =>
        cases failedBefore with
        | true => rfl
        | false => simp [tells, firesWith, statusKey, success, aligned.up rfl]
    rw [tellBatch, tellEach]
    dsimp only
    rw [sameState, sameTells, ih next]
    rfl

/-- With no recovery in it, a batch after which no failure comes before the newest
tells the same. -/
theorem tellBatch_of_no_recovery (batch : List CheckResult) (none_ : recoversIn failedBefore batch = false) :
    tellBatch onError false last batch = tellEach onError failedBefore last batch := by
  induction batch generalizing failedBefore last with
  | nil => rfl
  | cons result rest ih =>
    rw [recoversIn, Bool.or_eq_false_iff] at none_
    have sameFires : firesWith onError false result = firesWith onError failedBefore result := by
      cases success : result.success with
      | false => simp [firesWith, success]
      | true => simpa [firesWith, success] using none_.1
    rw [tellBatch, tellEach]
    dsimp only
    rw [sameFires, ih none_.2]

/-- An alert not set on errors has nothing more to tell once a recovery was told. -/
theorem told_up (failed : Bool) (result : CheckResult) :
    toldState (firesWith false failed result) result (some .statusUp) = some .statusUp ∧
      tells (firesWith false failed result) result (some .statusUp) = false := by
  cases success : result.success <;> simp [toldState, tells, firesWith, statusKey, success]

theorem tellBatch_of_up (batch : List CheckResult) (failed : Bool) :
    tellBatch false failed (some .statusUp) batch = (some .statusUp, []) := by
  induction batch with
  | nil => rfl
  | cons result rest ih =>
    obtain ⟨same, quiet⟩ := told_up failed result
    rw [tellBatch]
    dsimp only
    rw [same, quiet, ih]
    rfl

theorem tellEach_of_up (batch : List CheckResult) :
    tellEach false failedBefore (some .statusUp) batch = (some .statusUp, []) := by
  induction batch generalizing failedBefore with
  | nil => rfl
  | cons result rest ih =>
    obtain ⟨same, quiet⟩ := told_up failedBefore result
    rw [tellEach]
    dsimp only
    rw [same, quiet, ih]
    rfl

/-- **A batch that agrees tells what its results tell one at a time.** -/
theorem tellBatch_of_agrees {earlier batch : List CheckResult} (agrees : BatchAgrees onError earlier batch) :
    tellBatch onError (secondLastFailed (earlier ++ batch)) (stateAfter onError earlier) batch =
      tellEach onError (lastFailed earlier) (stateAfter onError earlier) batch := by
  rcases agrees with ⟨rfl, recovered⟩ | ⟨second, failure | first⟩ | ⟨second, none_⟩
  · have up : stateAfter false earlier = some .statusUp := by
      rw [stateAfter, tellEach_of_noError, if_pos recovered]
    rw [up, tellBatch_of_up, tellEach_of_up]
  · rw [second]
    exact tellBatch_of_aligned batch (aligned_of_failure failure)
  · rw [second]
    rcases batch with _ | ⟨result, rest⟩
    · rfl
    · have failed : result.success = false := by simpa [CheckResult.failed] using first
      have isFailed : (!result.success) = result.failed := rfl
      have sameFires : firesWith onError true result = firesWith onError (lastFailed earlier) result := by
        simp [firesWith, failed]
      have aligned : Aligned onError result.failed
          (toldState (firesWith onError (lastFailed earlier) result) result (stateAfter onError earlier)) :=
        Aligned.step fun success => absurd success (by rw [failed]; decide)
      rw [tellBatch, tellEach]
      dsimp only
      rw [isFailed, sameFires, tellBatch_of_aligned rest aligned]
  · rw [second]
    exact tellBatch_of_no_recovery batch none_

/-! ## A batch that does not -/

/-- Only results are told of. -/
theorem told_subset_batch (failed : Bool) (batch : List CheckResult) :
    (tellBatch onError failed last batch).2 ⊆ batch := by
  induction batch generalizing last with
  | nil => exact List.Subset.refl _
  | cons result rest ih =>
    rw [tellBatch]
    dsimp only
    split_ifs
    · exact List.cons_subset_cons _ ih
    · exact fun other mem => List.mem_cons_of_mem _ (ih mem)

theorem told_subset_each (results : List CheckResult) :
    (tellEach onError failedBefore last results).2 ⊆ results := by
  induction results generalizing failedBefore last with
  | nil => exact List.Subset.refl _
  | cons result rest ih =>
    rw [tellEach]
    dsimp only
    split_ifs
    · exact List.cons_subset_cons _ ih
    · exact fun other mem => List.mem_cons_of_mem _ (ih mem)

/-- After no failure, no success of a batch is told of. -/
theorem failed_of_told (batch : List CheckResult) :
    ∀ result ∈ (tellBatch onError false last batch).2, result.success = false := by
  induction batch generalizing last with
  | nil => simp [tellBatch]
  | cons result rest ih =>
    rw [tellBatch]
    dsimp only
    split_ifs with told
    · rintro other (_ | ⟨_, mem⟩)
      · by_contra success
        simp [tells, firesWith, success] at told
      · exact ih other mem
    · exact ih

/-- One at a time, a recovery is told of unless one was told before. -/
theorem exists_told_recovery (onError : Bool) (last : Option StateKey) (batch : List CheckResult)
    (recovers : recoversIn failedBefore batch = true)
    (down : onError = true → failedBefore = true → last = some .statusDown)
    (quiet : onError = false → last = none) :
    ∃ result ∈ (tellEach onError failedBefore last batch).2, result.success = true := by
  induction batch generalizing last failedBefore with
  | nil => cases recovers
  | cons result rest ih =>
    rw [recoversIn, Bool.or_eq_true, Bool.and_eq_true] at recovers
    rw [tellEach]
    dsimp only
    by_cases here : result.success = true ∧ failedBefore = true
    · obtain ⟨success, failed⟩ := here
      have isTold : tells (firesWith onError failedBefore result) result last = true := by
        have news : last ≠ some .statusUp := by
          cases onError with
          | true => rw [down rfl failed]; decide
          | false => rw [quiet rfl]; decide
        simp [tells, firesWith, statusKey, success, failed, news]
      rw [if_pos isTold]
      exact ⟨result, List.mem_cons_self .., success⟩
    · have nextDown : onError = true → (!result.success) = true →
          toldState (firesWith onError failedBefore result) result last = some .statusDown := by
        intro isOn failed
        have isDown : result.success = false := by simpa using failed
        simp [toldState, firesWith, statusKey, isDown, isOn]
      have nextQuiet : onError = false →
          toldState (firesWith onError failedBefore result) result last = none := by
        intro isOff
        cases success : result.success with
        | false => simpa [toldState, firesWith, success, isOff] using quiet isOff
        | true =>
          have calm : failedBefore = false := by
            by_contra failed
            exact here ⟨success, by simpa using failed⟩
          simpa [toldState, firesWith, success, calm] using quiet isOff
      obtain ⟨other, mem, success⟩ := ih _ (recovers.resolve_left here) nextDown nextQuiet
      refine ⟨other, ?_, success⟩
      split_ifs
      · exact List.mem_cons_of_mem _ mem
      · exact mem

/-- **A batch that tells what its results tell one at a time agrees.** -/
theorem agrees_of_told {earlier batch : List CheckResult} (nodup : batch.Nodup)
    (same : (tellBatch onError (secondLastFailed (earlier ++ batch)) (stateAfter onError earlier) batch).2 =
      (tellEach onError (lastFailed earlier) (stateAfter onError earlier) batch).2) :
    BatchAgrees onError earlier batch := by
  by_contra disagrees
  rw [BatchAgrees, not_or, not_or] at disagrees
  obtain ⟨notTold, notSecond, notQuiet⟩ := disagrees
  cases second : secondLastFailed (earlier ++ batch) with
  | true =>
    rw [second] at same notSecond
    obtain ⟨noFailure, noFirst⟩ := not_or.mp fun holds => notSecond ⟨rfl, holds⟩
    rw [stateAfter_of_no_failure noFailure] at same
    rcases batch with _ | ⟨result, rest⟩
    · rw [List.append_nil] at second
      unfold secondLastFailed at second
      split at second
      · rename_i newest previous older split
        have within : previous ∈ earlier := by
          rw [← List.mem_reverse, split]
          simp
        exact noFailure ⟨previous, within, second⟩
      · cases second
    · have success : result.success = true := by simpa [CheckResult.failed] using noFirst
      have calm : lastFailed earlier = false := by
        rw [lastFailed, ← Bool.not_eq_true, Option.any_eq_true]
        rintro ⟨other, isLast, failed⟩
        exact noFailure ⟨other, List.mem_of_getLast? isLast, failed⟩
      have told : tells (firesWith onError true result) result none = true := by
        simp [tells, firesWith, success]
      have untold : tells (firesWith onError (lastFailed earlier) result) result none = false := by
        simp [tells, firesWith, success, calm]
      rw [tellBatch, tellEach] at same
      dsimp only at same
      rw [if_pos told, if_neg (by rw [untold]; decide)] at same
      have within := told_subset_each rest (same ▸ List.mem_cons_self ..)
      exact (List.nodup_cons.mp nodup).1 within
  | false =>
    rw [second] at same notQuiet
    have recovers : recoversIn (lastFailed earlier) batch = true := by
      by_contra none_
      exact notQuiet ⟨rfl, by simpa using none_⟩
    have down : onError = true → lastFailed earlier = true →
        stateAfter onError earlier = some .statusDown := by
      intro isOn failed
      obtain ⟨other, isLast, isFailed⟩ := (Option.any_eq_true _ _).mp failed
      exact (aligned_of_failure ⟨other, List.mem_of_getLast? isLast, isFailed⟩).down isOn failed
    have quiet : onError = false → stateAfter onError earlier = none := by
      rintro rfl
      rw [stateAfter, tellEach_of_noError, if_neg fun recovered => notTold ⟨rfl, recovered⟩]
    obtain ⟨result, told, success⟩ := exists_told_recovery onError _ batch recovers down quiet
    rw [← same] at told
    have failed := failed_of_told batch result told
    rw [success] at failed
    cases failed

/-! ## All the batches -/

theorem told_subset_batches (earlier : List CheckResult) (batches : List (List CheckResult)) :
    tellBatches onError earlier last batches ⊆ batches.flatten := by
  induction batches generalizing earlier last with
  | nil => exact List.Subset.refl _
  | cons batch rest ih =>
    rw [tellBatches, List.flatten_cons]
    intro result mem
    rcases List.mem_append.mp mem with own | later
    · exact List.mem_append_left _ (told_subset_batch _ _ own)
    · exact List.mem_append_right _ (ih _ later)

/-- Lists told of one part and of the other are equal part by part. -/
theorem append_inj_of_disjoint {front back a b c d : List CheckResult} (disjoint : front.Disjoint back)
    (ofA : a ⊆ front) (ofB : b ⊆ back) (ofC : c ⊆ front) (ofD : d ⊆ back) (same : a ++ b = c ++ d) :
    a = c ∧ b = d := by
  suffices length : a.length = c.length from List.append_inj same length
  have apart {x y : CheckResult} (inFront : x ∈ front) (inBack : y ∈ back) : x ≠ y := by
    rintro rfl
    exact disjoint inFront inBack
  induction a generalizing c with
  | nil =>
    rcases c with _ | ⟨first, c⟩
    · rfl
    · have within : first ∈ b := by
        rw [show b = first :: c ++ d from same]
        exact List.mem_cons_self ..
      exact absurd rfl (apart (ofC (List.mem_cons_self ..)) (ofB within))
  | cons first a ih =>
    rcases c with _ | ⟨other, c⟩
    · have within : first ∈ d := by
        rw [show d = first :: a ++ b from same.symm]
        exact List.mem_cons_self ..
      exact absurd rfl (apart (ofA (List.mem_cons_self ..)) (ofD within))
    · have next := ih (fun x mem => ofA (List.mem_cons_of_mem _ mem))
        (fun x mem => ofC (List.mem_cons_of_mem _ mem)) (List.cons.inj same).2
      rw [List.length_cons, List.length_cons, next]

theorem tellBatches_iff_from {earlier : List CheckResult} {batches : List (List CheckResult)}
    (nodup : batches.flatten.Nodup) :
    tellBatches onError earlier (stateAfter onError earlier) batches =
        (tellEach onError (lastFailed earlier) (stateAfter onError earlier) batches.flatten).2 ↔
      ∀ before batch after, batches = before ++ batch :: after →
        BatchAgrees onError (earlier ++ before.flatten) batch := by
  induction batches generalizing earlier with
  | nil =>
    refine iff_of_true rfl fun before batch after split => ?_
    simp at split
  | cons batch rest ih =>
    rw [List.flatten_cons] at nodup ⊢
    obtain ⟨ofBatch, ofRest, disjoint⟩ := List.nodup_append'.mp nodup
    have here : (∀ before batch' after, batch :: rest = before ++ batch' :: after →
        BatchAgrees onError (earlier ++ before.flatten) batch') ↔
        BatchAgrees onError earlier batch ∧ ∀ before batch' after, rest = before ++ batch' :: after →
          BatchAgrees onError (earlier ++ batch ++ before.flatten) batch' := by
      constructor
      · intro each
        refine ⟨by simpa using each [] batch rest rfl, fun before batch' after split => ?_⟩
        have next := each (batch :: before) batch' after (by rw [split]; rfl)
        rwa [List.flatten_cons, ← List.append_assoc] at next
      · rintro ⟨first, others⟩ before batch' after split
        rcases before with _ | ⟨one, before⟩
        · obtain ⟨rfl, -⟩ := List.cons.inj split
          simpa using first
        · obtain ⟨rfl, tail⟩ := List.cons.inj split
          rw [List.flatten_cons, ← List.append_assoc]
          exact others before batch' after tail
    rw [tellBatches, tellEach_from, here]
    dsimp only
    constructor
    · intro same
      obtain ⟨first, others⟩ := append_inj_of_disjoint disjoint (told_subset_batch _ batch)
        (told_subset_batches _ rest) (told_subset_each batch) (told_subset_each _) same
      have agrees := agrees_of_told ofBatch first
      rw [tellBatch_of_agrees agrees, ← stateAfter_append] at others
      exact ⟨agrees, (ih ofRest).mp others⟩
    · rintro ⟨agrees, others⟩
      rw [tellBatch_of_agrees agrees, ← stateAfter_append, (ih ofRest).mpr others]

/-- **Batches tell what their results tell one at a time exactly when each of them
agrees** with what came before it. -/
theorem tellBatches_iff (onError : Bool) {batches : List (List CheckResult)} (nodup : batches.flatten.Nodup) :
    tellBatches onError [] none batches = (tellEach onError false none batches.flatten).2 ↔
      ∀ before batch after, batches = before ++ batch :: after →
        BatchAgrees onError before.flatten batch :=
  tellBatches_iff_from nodup

/-- A single result agrees. -/
theorem batchAgrees_single (onError : Bool) (earlier : List CheckResult) (result : CheckResult) :
    BatchAgrees onError earlier [result] := by
  have second : secondLastFailed (earlier ++ [result]) = lastFailed earlier := by
    rw [secondLastFailed, lastFailed, List.reverse_append, ← List.head?_reverse]
    cases earlier.reverse <;> rfl
  rw [BatchAgrees, second]
  cases failed : lastFailed earlier with
  | true =>
    obtain ⟨other, isLast, isFailed⟩ := (Option.any_eq_true _ _).mp failed
    exact Or.inr (Or.inl ⟨rfl, Or.inl ⟨other, List.mem_of_getLast? isLast, isFailed⟩⟩)
  | false => exact Or.inr (Or.inr ⟨rfl, by simp [recoversIn]⟩)

end Each

end LuxSwirl.Server
