import LuxSwirl.Agent.CheckExecutor
import Mathlib.Data.NNRat.Defs
import Mathlib.Tactic.Linarith

/-!
# Runs in time

`run_check`, `_attempt` and `_run` (`check_executor.py`) by the monotonic clock, which
goes on while an attempt runs, between two attempts, and while a run waits for a slot.
`record` is their end: the latency is counted before the result is put into the queue,
and a script may report one that does not add up. `runsInTime_iff` says that a run
keeps all it is to keep just when its last attempt's latency can be counted.
-/

namespace LuxSwirl.Agent
open LuxSwirl.Py LuxSwirl.Lib

/-- An attempt of a check. What a sleep before it overruns is part of its wait. -/
structure CheckAttempt where
  slotWait : ℚ≥0
  duration : ℚ≥0
  outcome : Outcome

/-- An attempt that was made, and the time it had its slot. -/
structure Made where
  begun : ℚ
  attempt : CheckAttempt

/-- The variables of `run_check`, the clock, and the attempts made. -/
structure Progress where
  result : Dict
  attempts : Nat
  longest : ℚ
  clock : ℚ
  made : List Made

namespace CheckConfig

variable (check : CheckConfig)

def timeoutSeconds : ℚ := orDefault (some check.timeout) 10

def intervalSeconds : ℚ := orDefault check.interval 60

/-- `_run`: the result, the longest attempt so far, and the time. -/
def runAttempt (attempt : CheckAttempt) (longest clock : ℚ) : Dict × ℚ × ℚ :=
  let begun := clock
  let clock := clock + attempt.duration
  (runOnce check attempt.outcome, max (max longest check.timeoutSeconds) (clock - begun), clock)

/-- `_attempt`: a retry, or none when its slot comes too late. -/
def retryAttempt (attempt : CheckAttempt) (longest clock finishBy : ℚ) : Option Dict × ℚ × ℚ :=
  let clock := clock + attempt.slotWait
  if finishBy < clock + longest then (none, longest, clock)
  else
    let (result, longest, clock) := check.runAttempt attempt longest clock
    (some result, longest, clock)

/-- The loop of `run_check`, with the retries left. -/
def retryInTime (attempt : Nat → CheckAttempt) (nextRun : ℚ) : Nat → Progress → Progress
  | 0, progress => progress
  | left + 1, progress =>
    if truthy (field "success" progress.result) then progress
    else if nextRun < progress.clock + check.retryInterval + progress.longest then progress
    else
      let next := attempt progress.attempts
      let asked := progress.clock + check.retryInterval
      match check.retryAttempt next progress.longest asked nextRun with
      | (none, longest, clock) => { progress with longest, clock }
      | (some result, longest, clock) =>
        retryInTime attempt nextRun left
          { result, attempts := progress.attempts + 1, longest, clock
            made := progress.made ++ [⟨asked + next.slotWait, next⟩] }

end CheckConfig

/-- One run of a check by the clock: the attempts there may be, and what stamps its result. -/
structure TimedRun where
  attempt : Nat → CheckAttempt
  start : ℚ
  resultId : Uuid
  agentId : Text
  runId : Text
  startedAt : Py.Float
  totalLatency : Value

namespace TimedRun

variable (run : TimedRun) (check : CheckConfig)

/-- The run, whose retries are those that `again` lets it make. -/
def untimed (again : Nat → Option Outcome) : CheckRun where
  first := (run.attempt 0).outcome
  again
  resultId := run.resultId
  agentId := run.agentId
  runId := run.runId
  startedAt := run.startedAt
  totalLatency := run.totalLatency

def nextRun : ℚ := run.start + check.intervalSeconds

def finish : Progress :=
  let (result, longest, clock) :=
    check.runAttempt (run.attempt 0) 0 (run.start + (run.attempt 0).slotWait)
  check.retryInTime run.attempt (run.nextRun check) check.retryAttempts
    { result, attempts := 1, longest, clock
      made := [⟨run.start + (run.attempt 0).slotWait, run.attempt 0⟩] }

/-- `run_check`: the queue after the run. -/
def runCheck (queue : List Dict) : List Dict :=
  let progress := run.finish check
  queue ++ (record (run.untimed fun _ => none) (withAttempts progress.attempts progress.result)).toList

/-! ## What a run is to keep -/

/-- The keys `run_check` and `_record` set themselves. -/
def stampKeys : List String := ["metrics", "result_id", "agent_id", "agent_run_id", "timestamp"]

/-- The result is the last attempt's, with the run's start and the number of attempts. -/
structure ReportsLast (made : List Made) (result : Dict) : Prop where
  own : ∃ last, made.getLast? = some last ∧ ∀ key ∉ stampKeys,
    Fields.get? (fieldKey key) result = Fields.get? (fieldKey key) (runOnce check last.attempt.outcome)
  timestamp : Fields.get? (fieldKey "timestamp") result = some (.float run.startedAt)
  attempts : ∃ metrics, Fields.get? (fieldKey "metrics") result = some (.dict metrics) ∧
    Fields.get? (fieldKey "attempts") metrics = some (.int made.length)

/-- An attempt as long as the timeout and as each earlier one would end by the next run. -/
structure EndsInTime (earlier : List Made) (made : Made) : Prop where
  timeout : made.begun + check.timeoutSeconds ≤ run.nextRun check
  longest : ∀ other ∈ earlier, made.begun + other.attempt.duration ≤ run.nextRun check

structure RunsInTime : Prop where
  reported : ∃ result, run.ReportsLast check (run.finish check).made result ∧
    ∀ queue, run.runCheck check queue = queue ++ [result]
  atMost : (run.finish check).made.length ≤ check.retryAttempts + 1
  failed : ∀ made ∈ (run.finish check).made.dropLast, made.attempt.outcome.succeeded = false
  inTime : ∀ earlier made later, (run.finish check).made = earlier ++ made :: later → earlier ≠ [] →
    run.EndsInTime check earlier made

/-! ## Which attempts are made -/

/-- When an attempt begins that all before it are retried for. -/
def begun : Nat → ℚ
  | 0 => run.start + (run.attempt 0).slotWait
  | n + 1 => begun n + (run.attempt n).duration + check.retryInterval + (run.attempt (n + 1)).slotWait

/-- The longest of the timeout and the attempts up to one. -/
def longest : Nat → ℚ
  | 0 => max check.timeoutSeconds (run.attempt 0).duration
  | n + 1 => max (longest n) (run.attempt (n + 1)).duration

/-- An attempt is retried: it failed, and a retry is left that would end in time. -/
structure Retried (n : Nat) : Prop where
  failed : (run.attempt n).outcome.succeeded = false
  left : n < check.retryAttempts
  inTime : run.begun check (n + 1) + run.longest check n ≤ run.nextRun check

/-- The run ends with its attempt `n`, counted from 0. -/
structure EndsWith (n : Nat) : Prop where
  before : ∀ m < n, run.Retried check m
  notRetried : ¬ run.Retried check n

/-- The latency the run ends with is none, or one the check's total can be raised by. -/
def Counts : Prop :=
  ∀ n, run.EndsWith check n → truthy (run.attempt n).outcome.latencyMs = true →
    adds run.totalLatency (run.attempt n).outcome.latencyMs = true

/-! ## The loop -/

/-- The attempts up to one, with the times they begin. -/
def madeUpTo (n : Nat) : List Made :=
  (List.range (n + 1)).map fun m => ⟨run.begun check m, run.attempt m⟩

/-- Where the loop stands once attempt `n` was made. -/
def progressAt (n : Nat) : Progress where
  result := runOnce check (run.attempt n).outcome
  attempts := n + 1
  longest := run.longest check n
  clock := run.begun check n + (run.attempt n).duration
  made := run.madeUpTo check n

variable {run check}

theorem timeout_le_longest (n : Nat) : check.timeoutSeconds ≤ run.longest check n := by
  induction n with
  | zero => exact le_max_left _ _
  | succ n ih => exact le_trans ih (le_max_left _ _)

theorem duration_le_longest {m n : Nat} (before : m ≤ n) :
    ((run.attempt m).duration : ℚ) ≤ run.longest check n := by
  induction n with
  | zero =>
    obtain rfl : m = 0 := by omega
    exact le_max_right _ _
  | succ n ih =>
    by_cases last : m = n + 1
    · subst last
      exact le_max_right _ _
    · exact le_trans (ih (by omega)) (le_max_left _ _)

theorem runAttempt_eq (attempt : CheckAttempt) (longest clock : ℚ) :
    check.runAttempt attempt longest clock =
      (runOnce check attempt.outcome, max (max longest check.timeoutSeconds) attempt.duration,
        clock + attempt.duration) := by
  simp [CheckConfig.runAttempt]

/-- The first attempt. -/
theorem finish_eq : run.finish check =
    check.retryInTime run.attempt (run.nextRun check) check.retryAttempts (run.progressAt check 0) := by
  have positive : (0 : ℚ) ≤ check.timeoutSeconds := Nat.cast_nonneg _
  simp only [finish, runAttempt_eq, max_eq_right positive]
  rfl

theorem success_runOnce (outcome : Outcome) :
    truthy (field "success" (runOnce check outcome)) = outcome.succeeded := by
  rw [field, (reports_runOnce check outcome).success]
  rfl

/-- One turn of the loop makes the next attempt just when this one is retried. -/
theorem retryInTime_succ (n left : Nat) (isLeft : n + (left + 1) = check.retryAttempts) :
    (run.Retried check n ∧ check.retryInTime run.attempt (run.nextRun check) (left + 1) (run.progressAt check n) =
        check.retryInTime run.attempt (run.nextRun check) left (run.progressAt check (n + 1))) ∨
      ¬ run.Retried check n ∧ ∃ clock,
        check.retryInTime run.attempt (run.nextRun check) (left + 1) (run.progressAt check n) =
          { run.progressAt check n with clock } := by
  have slot : run.begun check n + (run.attempt n).duration + check.retryInterval ≤ run.begun check (n + 1) :=
    le_add_of_nonneg_right (run.attempt (n + 1)).slotWait.coe_nonneg
  rw [CheckConfig.retryInTime]
  split_ifs with succeeded late
  · refine Or.inr ⟨?_, _, rfl⟩
    intro retried
    have failed := retried.failed
    rw [show (run.progressAt check n).result = runOnce check (run.attempt n).outcome from rfl,
      success_runOnce] at succeeded
    exact absurd succeeded (by simp [failed])
  · refine Or.inr ⟨?_, _, rfl⟩
    intro retried
    have inTime := retried.inTime
    simp only [progressAt] at late
    linarith
  · rw [show (run.progressAt check n).result = runOnce check (run.attempt n).outcome from rfl,
      success_runOnce, Bool.not_eq_true] at succeeded
    by_cases tooLate : run.nextRun check < run.begun check (n + 1) + run.longest check n
    · refine Or.inr ⟨fun retried => absurd retried.inTime (not_le.mpr tooLate), run.begun check (n + 1), ?_⟩
      have none : check.retryAttempt (run.attempt (n + 1)) (run.longest check n)
          (run.begun check n + (run.attempt n).duration + check.retryInterval) (run.nextRun check) =
            (none, run.longest check n, run.begun check (n + 1)) := if_pos tooLate
      simp only [progressAt, none]
    · refine Or.inl ⟨⟨succeeded, by omega, not_lt.mp tooLate⟩, ?_⟩
      have made : check.retryAttempt (run.attempt (n + 1)) (run.longest check n)
          (run.begun check n + (run.attempt n).duration + check.retryInterval) (run.nextRun check) =
            (some (runOnce check (run.attempt (n + 1)).outcome), run.longest check (n + 1),
              run.begun check (n + 1) + (run.attempt (n + 1)).duration) := by
        rw [CheckConfig.retryAttempt]
        simp only [runAttempt_eq, max_eq_left (timeout_le_longest n)]
        exact if_neg tooLate
      have longer : run.madeUpTo check (n + 1) =
          run.madeUpTo check n ++ [⟨run.begun check (n + 1), run.attempt (n + 1)⟩] := by
        rw [madeUpTo, List.range_succ, List.map_append]
        rfl
      simp only [progressAt, made, longer]
      rfl

/-- The loop goes on to the first attempt that is not retried. -/
theorem retryInTime_ends (n left : Nat) (isLeft : n + left = check.retryAttempts)
    (before : ∀ m < n, run.Retried check m) : ∃ last, run.EndsWith check last ∧ ∃ clock,
      check.retryInTime run.attempt (run.nextRun check) left (run.progressAt check n) =
        { run.progressAt check last with clock } := by
  induction left generalizing n with
  | zero =>
    refine ⟨n, ⟨before, ?_⟩, _, rfl⟩
    intro retried
    have left := retried.left
    omega
  | succ left ih =>
    rcases @retryInTime_succ run check n left isLeft with ⟨retried, step⟩ | ⟨ends, clock, step⟩
    · rw [step]
      refine ih (n + 1) (by omega) ?_
      intro m less
      by_cases here : m = n
      · subst here
        exact retried
      · exact before m (by omega)
    · exact ⟨n, ⟨before, ends⟩, clock, step⟩

theorem finish_ends (run : TimedRun) (check : CheckConfig) : ∃ last, run.EndsWith check last ∧
    ∃ clock, run.finish check = { run.progressAt check last with clock } := by
  rw [finish_eq]
  exact retryInTime_ends 0 check.retryAttempts (by omega) (by omega)

theorem EndsWith.unique {m n : Nat} (first : run.EndsWith check m) (second : run.EndsWith check n) :
    m = n := by
  rcases lt_trichotomy m n with less | same | more
  · exact absurd (second.before m less) first.notRetried
  · exact same
  · exact absurd (first.before n more) second.notRetried

/-! ## The runs of the untimed executor -/

/-- The retries that would end in time, by the attempts before them. -/
def fitting (run : TimedRun) (check : CheckConfig) : Nat → Option Outcome
  | 0 => none
  | n + 1 =>
    if run.begun check (n + 1) + run.longest check n ≤ run.nextRun check then
      some (run.attempt (n + 1)).outcome
    else none

theorem lastAttempt_fitting {last : Nat} (ends : run.EndsWith check last) (n left : Nat)
    (isLeft : n + left = check.retryAttempts) (before : n ≤ last) :
    lastAttempt (run.fitting check) left (n + 1) (run.attempt n).outcome =
      ((run.attempt last).outcome, last + 1) := by
  induction left generalizing n with
  | zero =>
    have isLast : n = last := by
      by_contra other
      have left := (ends.before n (by omega)).left
      omega
    subst isLast
    rfl
  | succ left ih =>
    by_cases isLast : n = last
    · subst isLast
      rw [lastAttempt, fitting]
      split_ifs with succeeded inTime
      · rfl
      · exact absurd ⟨by simpa using succeeded, by omega, inTime⟩ ends.notRetried
      · rfl
    · have retried := ends.before n (by omega)
      rw [lastAttempt, fitting, if_pos retried.inTime, retried.failed]
      exact ih (n + 1) (by omega) (by omega)

/-- A run by the clock is one of the executor's, whose retries are those in time. -/
theorem runCheck_fitting (run : TimedRun) (check : CheckConfig) (queue : List Dict) :
    run.runCheck check queue =
      queue ++ (Agent.runCheck check (run.untimed (run.fitting check))).toList := by
  obtain ⟨last, ends, clock, finish⟩ := run.finish_ends check
  have untimed := lastAttempt_fitting ends 0 check.retryAttempts (by omega) (by omega)
  rw [runCheck_eq, CheckRun.last, show (run.untimed (run.fitting check)).again = run.fitting check from rfl,
    show (run.untimed (run.fitting check)).first = (run.attempt 0).outcome from rfl, untimed]
  simp only [runCheck, finish, progressAt]
  rfl

/-! ## What is queued -/

/-- A counted result is queued with its stamps. -/
theorem record_isSome_iff (stamps : CheckRun) (attempts : Nat) (outcome : Outcome) :
    (record stamps (withAttempts attempts (runOnce check outcome))).isSome = true ↔
      (truthy outcome.latencyMs = true → adds stamps.totalLatency outcome.latencyMs = true) := by
  have latency : field "latency_ms" (withAttempts attempts (runOnce check outcome)) = outcome.latencyMs := by
    rw [field, (reports_withAttempts check (outcome, attempts)).latencyMs]
    rfl
  rw [record, latency]
  split_ifs with raises
  · simpa using raises
  · simpa using raises

theorem reportsLast_record {last : Nat} {stamps : CheckRun} {queued : Dict}
    (isStart : stamps.startedAt = run.startedAt)
    (isQueued : record stamps (withAttempts (last + 1) (runOnce check (run.attempt last).outcome)) =
      some queued) : run.ReportsLast check (run.madeUpTo check last) queued := by
  rw [record] at isQueued
  split_ifs at isQueued
  cases isQueued
  have isLast : (run.madeUpTo check last).getLast? = some ⟨run.begun check last, run.attempt last⟩ := by
    simp [madeUpTo, List.range_succ]
  refine ⟨⟨_, isLast, ?_⟩, ?_, ?_⟩
  · intro key others
    simp only [stampKeys, List.mem_cons, List.not_mem_nil, or_false, not_or] at others
    rw [get?_update, get?_entries_of_not_mem (by simp [others]), Option.none_or, withAttempts,
      Fields.get?_set, if_neg (by simpa using Ne.symm others.1)]
  · simp [get?_update, isStart]
  · have metrics := (reports_withAttempts check ((run.attempt last).outcome, last + 1)).metrics
    have absent := get?_entries_of_not_mem (@findings_name check (run.attempt last).outcome "attempts" (by decide))
    refine ⟨entries (runMetrics check ((run.attempt last).outcome, last + 1)), ?_, ?_⟩
    · rw [get?_update, metrics]
      simp
    · rw [runMetrics, get?_entries_append, absent]
      simp [madeUpTo]

theorem endsInTime_madeUpTo {last : Nat} (ends : run.EndsWith check last) {earlier later : List Made}
    {made : Made} (parts : run.madeUpTo check last = earlier ++ made :: later) (retry : earlier ≠ []) :
    run.EndsInTime check earlier made := by
  have place (n : Nat) (less : n < last + 1) :
      (run.madeUpTo check last)[n]? = some ⟨run.begun check n, run.attempt n⟩ := by
    simp [madeUpTo, less]
  have whole : earlier.length < last + 1 := by
    have lengths := congrArg List.length parts
    simp only [madeUpTo, List.length_map, List.length_range, List.length_append, List.length_cons] at lengths
    omega
  have isMade : made = ⟨run.begun check earlier.length, run.attempt earlier.length⟩ := by
    have there := place earlier.length whole
    rw [parts, List.getElem?_append_right le_rfl, Nat.sub_self, List.getElem?_cons_zero] at there
    exact Option.some.inj there
  obtain ⟨n, count⟩ : ∃ n, earlier.length = n + 1 :=
    Nat.exists_eq_succ_of_ne_zero (by simpa using retry)
  have inTime := (ends.before n (by omega)).inTime
  rw [count] at isMade
  subst isMade
  constructor
  · show run.begun check (n + 1) + check.timeoutSeconds ≤ run.nextRun check
    linarith [@timeout_le_longest run check n]
  · intro other mem
    obtain ⟨m, less, isOther⟩ := List.mem_iff_getElem.mp mem
    have there := place m (by omega)
    rw [parts, List.getElem?_append_left less, List.getElem?_eq_getElem less, isOther] at there
    cases there
    show run.begun check (n + 1) + (run.attempt m).duration ≤ run.nextRun check
    linarith [@duration_le_longest run check m n (by omega)]

theorem counts_iff {last : Nat} (ends : run.EndsWith check last) : run.Counts check ↔
    (truthy (run.attempt last).outcome.latencyMs = true →
      adds run.totalLatency (run.attempt last).outcome.latencyMs = true) := by
  constructor
  · intro counts
    exact counts last ends
  · intro counts n isLast
    rw [isLast.unique ends]
    exact counts

/-- **A run stays inside its interval and is reported once.** A run queues its last
attempt's result alone, with its start and the number of its attempts; it makes no more
than its retries, each after a failure and with room for a longest attempt; all of it
just when the latency it ends with can be counted. -/
theorem runsInTime_iff (run : TimedRun) (check : CheckConfig) :
    run.RunsInTime check ↔ run.Counts check := by
  obtain ⟨last, ends, clock, finish⟩ := run.finish_ends check
  have made : (run.finish check).made = run.madeUpTo check last := by rw [finish, progressAt]
  have queue (queue : List Dict) : run.runCheck check queue = queue ++
      (record (run.untimed fun _ => none)
        (withAttempts (last + 1) (runOnce check (run.attempt last).outcome))).toList := by
    simp only [runCheck, finish, progressAt]
  have counted := @record_isSome_iff check (run.untimed fun _ => none) (last + 1)
    (run.attempt last).outcome
  rw [counts_iff ends]
  constructor
  · intro kept
    obtain ⟨result, -, queued⟩ := kept.reported
    have one := queued []
    rw [queue] at one
    refine counted.mp ?_
    cases isQueued : record (run.untimed fun _ => none)
        (withAttempts (last + 1) (runOnce check (run.attempt last).outcome)) with
    | none => simp [isQueued] at one
    | some result => rfl
  · intro counts
    obtain ⟨result, isQueued⟩ := Option.isSome_iff_exists.mp (counted.mpr counts)
    refine ⟨⟨result, ?_, ?_⟩, ?_, ?_, ?_⟩
    · rw [made]
      exact reportsLast_record rfl isQueued
    · intro before
      rw [queue, isQueued]
      rfl
    · rw [made, madeUpTo, List.length_map, List.length_range]
      by_contra more
      have left := (ends.before check.retryAttempts (by omega)).left
      omega
    · rw [made, madeUpTo, List.range_succ, List.map_append, List.map_singleton, List.dropLast_concat]
      intro other mem
      obtain ⟨m, less, rfl⟩ := List.mem_map.mp mem
      exact (ends.before m (List.mem_range.mp less)).failed
    · rw [made]
      intro earlier other later parts retry
      exact endsInTime_madeUpTo ends parts retry

/-- A check of a script, without retries. -/
def scriptCheck : CheckConfig where
  checkId := Uuid.ofId 1
  name := text "login"
  checkType := .synthetic
  target := text "https://example.com"
  interval := some 300
  timeout := 60
  enabled := true
  retryAttempts := 0
  retryInterval := 30
  method := none
  expectedStatus := none
  jsonPath := none
  expectedValue := none
  recordType := none
  nameserver := none
  expectValue := none
  connectionString := none
  query := none
  scriptCode := some (text "return \x7b'script_execution_time_ms': 'fast'\x7d")
  port := none
  verifySsl := none

/-- A run of a script that returns the text `fast` as its own time. -/
def fastRun : TimedRun where
  attempt _ :=
    { slotWait := 0
      duration := 2
      outcome := .returned (.synthetic
        (entries [("status", .str (text "success")), ("script_execution_time_ms", .str (text "fast"))])
        [] .none ⟨.finite 2000, by decide⟩) }
  start := 0
  resultId := Uuid.ofId 9
  agentId := text "agent"
  runId := text "run"
  startedAt := .finite 1700000000
  totalLatency := .int 0

/-- The run of that script queues nothing. -/
theorem fast_script_unreported : ¬ fastRun.RunsInTime scriptCheck := by
  intro kept
  obtain ⟨result, -, queued⟩ := kept.reported
  have nothing : fastRun.runCheck scriptCheck [] = [] := by decide +kernel
  have one := queued []
  rw [nothing] at one
  cases one

end TimedRun
end LuxSwirl.Agent
