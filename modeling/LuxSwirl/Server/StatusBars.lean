import LuxSwirl.Lib.Nearest
import LuxSwirl.Server.Models

/-!
# Status bars

`_dashboard_render.py` builds a check's bars, one for each minute before now, in two
ways. `generate_status_bars` looks for each minute at all results and takes the nearest
one, however far it is. `generate_status_bars_bulk` gives each result to the minute it is
nearest to, so a minute that no result is nearest to has no data.

Where the bulk form leaves no minute out they are the same bars (`bars_agree_iff`).
Distances in minutes are rationals here.
-/

namespace LuxSwirl.Server
open LuxSwirl.Py LuxSwirl.Lib

structure StatusBarResult where
  checkId : Id
  timestamp : Time
  success : Bool
  latencyMs : Option Py.Float := none
  httpStatusCode : Option Int := none

structure Bar where
  success : Option Bool
  count : Nat
  avgLatency : Py.Float
  httpStatusCode : Option Int
  minutesAgo : Nat
  deriving DecidableEq

/-- `round(x, 1)` -/
def roundToTenth : Py.Float → Py.Float
  | .finite x => .finite (Nearest.roundHalfEven (x * 10) / 10)
  | .special x => .special x

/-- `(now - timestamp).total_seconds() / 60` -/
def exactMinutesAgo (now : Time) (row : StatusBarResult) : ℚ := ((now - row.timestamp : Int) : ℚ) / minutes 1

/-- The bar of a minute with its result, if it has one. -/
def minuteBar (minuteOffset : Nat) : Option StatusBarResult → Bar
  | some closest =>
    { success := closest.success
      count := 1
      avgLatency := roundToTenth (closest.latencyMs.getD (.finite 0))
      httpStatusCode := closest.httpStatusCode
      minutesAgo := minuteOffset }
  | none => { success := none, count := 0, avgLatency := .finite 0, httpStatusCode := none, minutesAgo := minuteOffset }

/-! ## The queries -/

/-- The stored results of a check since so many minutes ago; `stored` is newest first. -/
def getRawResultsForStatusBar (now : Time) (stored : List StatusBarResult) (checkId : Id) (ago : Nat) :
    List StatusBarResult :=
  stored.filter fun row => decide (row.checkId = checkId ∧ now - minutes ago ≤ row.timestamp)

/-- Those of several checks, by check. -/
def getResultsForStatusBarsBulk (now : Time) (stored : List StatusBarResult) (checkIds : List Id) (ago : Nat) :
    List StatusBarResult :=
  (stored.filter fun row => decide (row.checkId ∈ checkIds ∧ now - minutes ago ≤ row.timestamp)).mergeSort
    fun a b => decide (a.checkId ≤ b.checkId)

/-- A row of the aggregate query for longer ranges. -/
structure BucketRow where
  checkId : Id
  bucketStart : Time
  successCount : Nat
  failCount : Nat
  avgLatency : Option ℚ := none
  httpStatusCode : Option Int := none

/-! ## The builders -/

def generateStatusBars (now : Time) (stored : List StatusBarResult) (checkId : Id) (minutes : Nat) : List Bar :=
  let results := getRawResultsForStatusBar now stored checkId (minutes + 2)
  (List.range minutes).map fun minuteOffset =>
    minuteBar minuteOffset (Nearest.closest (exactMinutesAgo now) minuteOffset results)

/-- `_get_bucket_size` -/
def getBucketSize (minutes : Nat) : Nat :=
  if minutes ≤ 60 then 1 else if minutes ≤ 240 then 5 else if minutes ≤ 480 then 10 else 30

/-- The bars of one of the checks, a minute each. -/
def minuteBars (now : Time) (allResults : List StatusBarResult) (checkId : Id) (minutes : Nat) : List Bar :=
  let results := allResults.filter fun row => decide (row.checkId = checkId)
  let minuteBarsDict := results.foldl
    (Nearest.keep (exactMinutesAgo now) fun nearest => decide (0 ≤ nearest ∧ nearest < minutes)) []
  (List.range minutes).map fun minuteOffset => minuteBar minuteOffset (Fields.get? (minuteOffset : Int) minuteBarsDict)

/-- The bars of one of the checks, a bucket each. -/
def bucketBars (now : Time) (allBuckets : List BucketRow) (checkId : Id) (bucketMinutes numBars : Nat) : List Bar :=
  let buckets := allBuckets.filter fun row => decide (row.checkId = checkId)
  let checkBuckets := buckets.foldl
    (fun dict row =>
      let barIndex := (now - row.bucketStart).tdiv (minutes bucketMinutes)
      if 0 ≤ barIndex ∧ barIndex < numBars then Fields.set barIndex row dict else dict) []
  (List.range numBars).map fun (barIdx : Nat) =>
    match Fields.get? (barIdx : Int) checkBuckets with
    | some bucket =>
      let total := bucket.successCount + bucket.failCount
      { success := if 0 < total then some (!decide (0 < bucket.failCount)) else none
        count := total
        avgLatency := .finite (bucket.avgLatency.getD 0)
        httpStatusCode := bucket.httpStatusCode
        minutesAgo := barIdx * bucketMinutes }
    | none =>
      { success := none, count := 0, avgLatency := .finite 0, httpStatusCode := none, minutesAgo := barIdx * bucketMinutes }

/-- The bars of each of the checks; `bucketed` is what the aggregate query gives since so
many minutes ago, in buckets of so many. -/
def generateStatusBarsBulk (now : Time) (stored : List StatusBarResult) (bucketed : Nat → Nat → List BucketRow)
    (checkIds : List Id) (minutes : Nat) : List (Id × List Bar) :=
  let bucketMinutes := getBucketSize minutes
  let numBars := minutes / bucketMinutes
  if bucketMinutes = 1 then
    let allResults := getResultsForStatusBarsBulk now stored checkIds (minutes + 2)
    Fields.ofPairs (checkIds.map fun checkId => (checkId, minuteBars now allResults checkId minutes))
  else
    let allBuckets := bucketed (minutes + bucketMinutes) bucketMinutes
    Fields.ofPairs (checkIds.map fun checkId => (checkId, bucketBars now allBuckets checkId bucketMinutes numBars))

/-! ## The results of a check -/

/-- Putting rows in the order of their checks keeps the order of each check's. -/
theorem filter_mergeSort_checkId (rows : List StatusBarResult) (checkId : Id) :
    (rows.mergeSort fun a b => decide (a.checkId ≤ b.checkId)).filter (fun row => decide (row.checkId = checkId)) =
      rows.filter fun row => decide (row.checkId = checkId) := by
  have alike : (rows.filter fun row => decide (row.checkId = checkId)).Pairwise
      fun a b => decide (a.checkId ≤ b.checkId) = true := by
    refine List.pairwise_of_forall_mem_list ?_
    intro a memA b memB
    have isA := of_decide_eq_true (List.mem_filter.mp memA).2
    have isB := of_decide_eq_true (List.mem_filter.mp memB).2
    exact decide_eq_true (by rw [isA, isB])
  have kept : (rows.filter fun row => decide (row.checkId = checkId)).Sublist
      (rows.mergeSort fun a b => decide (a.checkId ≤ b.checkId)) := by
    refine List.sublist_mergeSort ?_ ?_ alike List.filter_sublist
    · intro a b c first second
      simp only [decide_eq_true_eq] at first second ⊢
      exact Nat.le_trans first second
    · intro a b
      simp only [Bool.or_eq_true, decide_eq_true_eq]
      exact Nat.le_total a.checkId b.checkId
  have among := kept.filter fun row => decide (row.checkId = checkId)
  rw [List.filter_filter] at among
  simp only [Bool.and_self] at among
  refine (among.eq_of_length ?_).symm
  exact ((List.mergeSort_perm rows _).filter _).length_eq.symm

/-- The bulk query has for each of its checks what the other query has. -/
theorem getResultsForStatusBarsBulk_filter {now : Time} {stored : List StatusBarResult} {checkIds : List Id}
    {checkId : Id} (mem : checkId ∈ checkIds) (ago : Nat) :
    (getResultsForStatusBarsBulk now stored checkIds ago).filter (fun row => decide (row.checkId = checkId)) =
      getRawResultsForStatusBar now stored checkId ago := by
  rw [getResultsForStatusBarsBulk, filter_mergeSort_checkId, List.filter_filter, getRawResultsForStatusBar]
  refine List.filter_congr ?_
  intro row _
  by_cases same : row.checkId = checkId
  · simp [same, mem]
  · simp [same]

/-! ## The bars -/

/-- A minute with a result and one without have different bars. -/
theorem minuteBar_none_ne {minuteOffset : Nat} (row : StatusBarResult) :
    minuteBar minuteOffset (some row) ≠ minuteBar minuteOffset none := by
  intro same
  cases congrArg Bar.success same

/-- Both ways give a minute the same bar when the check has no results or the minute is
the nearest to one of them. -/
theorem minuteBar_eq_iff {position : StatusBarResult → ℚ} {results : List StatusBarResult} {minuteOffset : Nat} :
    minuteBar minuteOffset (Nearest.closest position minuteOffset results) =
        minuteBar minuteOffset (Nearest.closest position minuteOffset
          (results.filter fun row => decide (Nearest.roundHalfEven (position row) = minuteOffset))) ↔
      results = [] ∨ ∃ row ∈ results, Nearest.roundHalfEven (position row) = minuteOffset := by
  by_cases rounds : ∃ row ∈ results, Nearest.roundHalfEven (position row) = minuteOffset
  · rw [Nearest.closest_filter rounds]
    exact iff_of_true rfl (.inr rounds)
  · have nothing : (results.filter fun row => decide (Nearest.roundHalfEven (position row) = minuteOffset)) = [] := by
      rw [List.filter_eq_nil_iff]
      intro row mem isRounded
      exact rounds ⟨row, mem, of_decide_eq_true isRounded⟩
    rw [nothing, or_iff_left rounds]
    constructor
    · intro same
      cases found : Nearest.closest position minuteOffset results with
      | none => exact Nearest.closest_eq_none_iff.mp found
      | some row =>
        rw [found] at same
        exact absurd same (minuteBar_none_ne row)
    · rintro rfl
      rfl

theorem minuteBars_eq (now : Time) (allResults : List StatusBarResult) (checkId : Id) (minutes : Nat) :
    minuteBars now allResults checkId minutes = (List.range minutes).map fun minuteOffset =>
      minuteBar minuteOffset (Nearest.closest (exactMinutesAgo now) minuteOffset
        ((allResults.filter fun row => decide (row.checkId = checkId)).filter fun row =>
          decide (Nearest.roundHalfEven (exactMinutesAgo now row) = minuteOffset))) := by
  rw [minuteBars]
  refine List.map_congr_left ?_
  intro minuteOffset mem
  have below := List.mem_range.mp mem
  have inside : decide ((0 : Int) ≤ minuteOffset ∧ (minuteOffset : Int) < minutes) = true :=
    decide_eq_true ⟨by omega, by omega⟩
  rw [Nearest.get?_keep inside]

/-- **Both builders give a check the same bars** when it has no results since two minutes
before the first bar, or when each minute shown is the nearest one to some result. -/
theorem bars_agree_iff (now : Time) (stored : List StatusBarResult) (bucketed : Nat → Nat → List BucketRow)
    (before after : List Id) (checkId : Id) {minutes : Nat} (short : minutes ≤ 60) :
    Fields.get? checkId (generateStatusBarsBulk now stored bucketed (before ++ checkId :: after) minutes) =
        some (generateStatusBars now stored checkId minutes) ↔
      getRawResultsForStatusBar now stored checkId (minutes + 2) = [] ∨
        ∀ minuteOffset < minutes, ∃ row ∈ getRawResultsForStatusBar now stored checkId (minutes + 2),
          Nearest.roundHalfEven (exactMinutesAgo now row) = minuteOffset := by
  have mem : checkId ∈ before ++ checkId :: after := by simp
  have single : getBucketSize minutes = 1 := if_pos short
  rw [generateStatusBarsBulk]
  dsimp only
  rw [if_pos single, Fields.get?_ofPairs_map, if_pos mem, Option.some_inj, minuteBars_eq,
    getResultsForStatusBarsBulk_filter mem, generateStatusBars, eq_comm, List.map_inj_left]
  simp only [List.mem_range, minuteBar_eq_iff]
  constructor
  · intro each
    by_cases empty : getRawResultsForStatusBar now stored checkId (minutes + 2) = []
    · exact .inl empty
    · exact .inr fun minuteOffset below => (each minuteOffset below).resolve_left empty
  · rintro (empty | each)
    · exact fun minuteOffset _ => .inl empty
    · exact fun minuteOffset below => .inr (each minuteOffset below)

/-- One result, of now. -/
def lonely : List StatusBarResult := [{ checkId := 1, timestamp := minutes 10, success := true }]

theorem lonely_agrees :
    Fields.get? 1 (generateStatusBarsBulk (minutes 10) lonely (fun _ _ => []) ([] ++ 1 :: []) 1) =
        some (generateStatusBars (minutes 10) lonely 1 1) ↔
      getRawResultsForStatusBar (minutes 10) lonely 1 (1 + 2) = [] ∨
        ∀ minuteOffset : Nat, minuteOffset < 1 → ∃ row ∈ getRawResultsForStatusBar (minutes 10) lonely 1 (1 + 2),
          Nearest.roundHalfEven (exactMinutesAgo (minutes 10) row) = minuteOffset :=
  bars_agree_iff (minutes 10) lonely (fun _ _ => []) [] [] 1 (by decide)

/-- Over two minutes the scan shows the result of now in both, the bulk form in one. -/
theorem lonely_bars_differ :
    Fields.get? 1 (generateStatusBarsBulk (minutes 10) lonely (fun _ _ => []) [1] 2) ≠
      some (generateStatusBars (minutes 10) lonely 1 2) := by
  decide +kernel

end LuxSwirl.Server
