import LuxSwirl.Agent.CheckConfig
import LuxSwirl.Agent.Store
import LuxSwirl.Lib.Schedule
import Mathlib.Algebra.Order.Ring.Rat

/-!
# The main loop

`LuxSwirlAgent.run` of `core.py` starts the checks that are due, twice a second. It
keeps their last starts by their names; a name it has not met counts as started at
zero. `_reload_checks` puts another list in place between two passes.

A check without an interval raises from the pass, which ends the loop.

`keepsSchedule_of_named` is about every run whose names tell the checks apart.
-/

namespace LuxSwirl.Agent
open LuxSwirl.Py LuxSwirl.Lib

/-- `last_run`; a name that is not there counts as zero. -/
abbrev LastRun := Text → Time

/-- A pass: which checks it starts, and whether it raised. -/
structure PassOutcome where
  starts : List Bool
  lastRun : LastRun
  raised : Bool

/-- A pass over the checks at a reading of the clock. -/
def passOver (now : Time) : List CheckConfig → LastRun → PassOutcome
  | [], lastRun => ⟨[], lastRun, false⟩
  | check :: rest, lastRun =>
    match check.interval with
    | none => ⟨(check :: rest).map fun _ => false, lastRun, true⟩
    | some interval =>
      let isDue := decide ((interval : Time) ≤ now - lastRun check.name)
      let after := passOver now rest (if isDue then Function.update lastRun check.name now else lastRun)
      { after with starts := isDue :: after.starts }

/-- What the loop meets: a reading of the clock, or another list of checks. -/
inductive LoopEvent where
  | pass (now : Time)
  | reload (checks : List CheckConfig)

/-- The readings of the clock, each with the list in place. -/
def turns : List CheckConfig → List LoopEvent → List (Time × List CheckConfig)
  | _, [] => []
  | checks, .pass now :: rest => (now, checks) :: turns checks rest
  | _, .reload checks :: rest => turns checks rest

/-- A pass that was made. -/
structure Pass where
  now : Time
  checks : List CheckConfig
  starts : List Bool

/-- The passes of a loop; one that raises is its last. -/
def mainLoop : LastRun → List (Time × List CheckConfig) → List Pass
  | _, [] => []
  | lastRun, (now, checks) :: rest =>
    let outcome := passOver now checks lastRun
    ⟨now, checks, outcome.starts⟩ :: if outcome.raised then [] else mainLoop outcome.lastRun rest

/-- The passes of an agent from the list it loads at its start. -/
def run (checks : List CheckConfig) (events : List LoopEvent) : List Pass :=
  mainLoop (fun _ => 0) (turns checks events)

/-! ## A check's own schedule -/

/-- The checks a pass started. -/
def Pass.started (pass : Pass) : List CheckConfig := ((pass.checks.zip pass.starts).filter (·.2)).map (·.1)

/-- When the check last started, of the passes made so far, newest first. -/
def lastStart (checkId : Uuid) (earlier : List Pass) : Option Time :=
  (earlier.find? fun pass => pass.started.any fun check => decide (check.checkId = checkId)).map (·.now)

/-- The check has never been started, or its interval has passed since it was. -/
def isOwnDue (earlier : List Pass) (now : Time) (check : CheckConfig) : Bool :=
  (lastStart check.checkId earlier).all fun start => check.interval.any fun interval =>
    decide ((interval : Time) ≤ now - start)

/-- **Every check keeps its schedule**: each pass starts exactly the checks that are
due by their own last starts. -/
def KeepsSchedule : List Pass → List Pass → Prop
  | _, [] => True
  | earlier, pass :: rest =>
    pass.starts = pass.checks.map (isOwnDue earlier pass.now) ∧ KeepsSchedule (pass :: earlier) rest

/-- The checks of a list have distinct ids. -/
def DistinctIds (checks : List CheckConfig) : Prop := (checks.map (·.checkId)).Nodup

instance (checks : List CheckConfig) : Decidable (DistinctIds checks) :=
  inferInstanceAs (Decidable (checks.map (·.checkId)).Nodup)

/-- The names tell the checks apart, a check keeps its name, each has an interval, and
that interval has passed when the clock is read. -/
structure Named (turns : List (Time × List CheckConfig)) : Prop where
  names : ∀ check ∈ turns.flatMap (·.2), ∀ other ∈ turns.flatMap (·.2),
    check.name = other.name ↔ check.checkId = other.checkId
  intervals : ∀ turn ∈ turns, ∀ check ∈ turn.2, ∃ interval ∈ check.interval, (interval : Time) ≤ turn.1

/-! ## A pass over checks with intervals -/

def CheckConfig.seconds (check : CheckConfig) : Time := ((check.interval.getD 0 : Nat) : Time)

/-- Such a pass raises nothing, and is a pass of the names' schedule. -/
theorem passOver_of_intervals {checks : List CheckConfig} (now : Time) (lastRun : LastRun)
    (areSet : ∀ check ∈ checks, check.interval.isSome) :
    passOver now checks lastRun =
      ⟨(Schedule.pass (·.name) CheckConfig.seconds now checks lastRun).1,
        (Schedule.pass (·.name) CheckConfig.seconds now checks lastRun).2, false⟩ := by
  induction checks generalizing lastRun with
  | nil => rfl
  | cons check rest ih =>
    obtain ⟨isSet, areSet⟩ := List.forall_mem_cons.mp areSet
    obtain ⟨interval, isInterval⟩ := Option.isSome_iff_exists.mp isSet
    simp only [passOver, isInterval, ih _ areSet, Schedule.pass, Schedule.due, CheckConfig.seconds,
      Option.getD_some]

theorem filter_zip_map (judge : CheckConfig → Bool) (checks : List CheckConfig) :
    ((checks.zip (checks.map judge)).filter (·.2)).map (·.1) = checks.filter judge := by
  induction checks with
  | nil => rfl
  | cons check rest ih =>
    simp only [List.map_cons, List.zip_cons_cons, List.filter_cons]
    split_ifs with starts
    · rw [List.map_cons, ih]
    · exact ih

/-- When a check last started, after one more pass. -/
theorem lastStart_cons {now : Time} {checks : List CheckConfig} {judge : CheckConfig → Bool}
    {earlier : List Pass} {check : CheckConfig} (distinct : DistinctIds checks)
    (mem : check ∈ checks) :
    lastStart check.checkId (⟨now, checks, checks.map judge⟩ :: earlier) =
      if judge check then some now else lastStart check.checkId earlier := by
  have started : ((Pass.started ⟨now, checks, checks.map judge⟩).any fun other =>
      decide (other.checkId = check.checkId)) = judge check := by
    rw [Pass.started, filter_zip_map, Bool.eq_iff_iff, List.any_eq_true]
    constructor
    · rintro ⟨other, isStarted, same⟩
      obtain ⟨isCheck, starts⟩ := List.mem_filter.mp isStarted
      rwa [List.inj_on_of_nodup_map distinct isCheck mem (of_decide_eq_true same)] at starts
    · intro starts
      exact ⟨check, List.mem_filter.mpr ⟨mem, starts⟩, decide_eq_true rfl⟩
  rw [lastStart, List.find?_cons, started]
  cases judge check <;> rfl

/-- A check that is not in the list is not started. -/
theorem lastStart_cons_of_not_mem {now : Time} {checks : List CheckConfig} {starts : List Bool}
    {earlier : List Pass} {checkId : Uuid} (absent : ∀ check ∈ checks, check.checkId ≠ checkId) :
    lastStart checkId (⟨now, checks, starts⟩ :: earlier) = lastStart checkId earlier := by
  have unstarted : ((Pass.started ⟨now, checks, starts⟩).any fun other =>
      decide (other.checkId = checkId)) = false := by
    rw [List.any_eq_false]
    intro other isStarted
    obtain ⟨entry, isEntry, rfl⟩ := List.mem_map.mp isStarted
    simpa using absent entry.1 (List.of_mem_zip (List.mem_of_mem_filter isEntry)).1
  rw [lastStart, List.find?_cons, unstarted]
  rfl

/-! ## Runs -/

/-- The last starts by name are those of the checks. -/
def Agrees (earlier : List Pass) (lastRun : LastRun) (checks : List CheckConfig) : Prop :=
  ∀ check ∈ checks, lastRun check.name = (lastStart check.checkId earlier).getD 0

theorem isOwnDue_eq_due {earlier : List Pass} {lastRun : LastRun} {now : Time} {check : CheckConfig}
    (agrees : lastRun check.name = (lastStart check.checkId earlier).getD 0)
    (isSet : ∃ interval ∈ check.interval, (interval : Time) ≤ now) :
    Schedule.due check.seconds (lastRun check.name) now = isOwnDue earlier now check := by
  obtain ⟨interval, isInterval, passed⟩ := isSet
  rw [Option.mem_def] at isInterval
  rw [Schedule.due, isOwnDue, agrees, CheckConfig.seconds, isInterval]
  cases lastStart check.checkId earlier with
  | none => simpa using passed
  | some start => simp

/-- **A check's schedule is its own where the names tell the checks apart.** -/
theorem keepsSchedule_mainLoop {turns : List (Time × List CheckConfig)} (named : Named turns)
    (distinct : ∀ turn ∈ turns, DistinctIds turn.2) {earlier : List Pass} {lastRun : LastRun}
    (agrees : Agrees earlier lastRun (turns.flatMap (·.2))) :
    KeepsSchedule earlier (mainLoop lastRun turns) := by
  induction turns generalizing earlier lastRun with
  | nil => trivial
  | cons turn rest ih =>
    obtain ⟨now, checks⟩ := turn
    obtain ⟨distinctHere, distinct⟩ := List.forall_mem_cons.mp distinct
    obtain ⟨areSet, intervals⟩ := List.forall_mem_cons.mp named.intervals
    have within {check : CheckConfig} (mem : check ∈ checks) :
        check ∈ ((now, checks) :: rest).flatMap (·.2) :=
      List.mem_flatMap.mpr ⟨_, List.mem_cons_self .., mem⟩
    have later {check : CheckConfig} (mem : check ∈ rest.flatMap (·.2)) :
        check ∈ ((now, checks) :: rest).flatMap (·.2) := by
      rw [List.flatMap_cons]
      exact List.mem_append_right _ mem
    have apart : (checks.map (·.name)).Nodup := by
      refine List.Nodup.map_on (fun check mem other mem' same => ?_) (List.Nodup.of_map _ distinctHere)
      exact List.inj_on_of_nodup_map distinctHere mem mem' ((named.names _ (within mem) _ (within mem')).mp same)
    have isDue : ∀ check ∈ checks,
        Schedule.due check.seconds (lastRun check.name) now = isOwnDue earlier now check := fun check mem =>
      isOwnDue_eq_due (agrees check (within mem)) (areSet check mem)
    have intervalsSet : ∀ check ∈ checks, check.interval.isSome := by
      intro check mem
      obtain ⟨interval, isInterval, -⟩ := areSet check mem
      exact Option.isSome_iff_exists.mpr ⟨interval, isInterval⟩
    obtain ⟨starts, lasts⟩ := Schedule.pass_of_nodup CheckConfig.seconds now lastRun apart
    have starts := starts.trans (List.map_congr_left isDue)
    rw [mainLoop, passOver_of_intervals now lastRun intervalsSet]
    refine ⟨starts, ?_⟩
    refine ih ⟨fun check mem other mem' => named.names _ (later mem) _ (later mem'), intervals⟩ distinct ?_
    intro check mem
    dsimp only
    rw [starts]
    by_cases listed : check.checkId ∈ checks.map (·.checkId)
    · obtain ⟨twin, isTwin, same⟩ := List.mem_map.mp listed
      have sameName : check.name = twin.name :=
        (named.names _ (later mem) _ (within isTwin)).mpr same.symm
      rw [sameName, ← same, lasts twin isTwin, isDue twin isTwin, lastStart_cons distinctHere isTwin]
      split_ifs
      · rfl
      · exact agrees twin (within isTwin)
    · have unnamed : check.name ∉ checks.map (·.name) := by
        intro isName
        obtain ⟨twin, isTwin, same⟩ := List.mem_map.mp isName
        exact listed (List.mem_map.mpr ⟨twin, isTwin, (named.names _ (within isTwin) _ (later mem)).mp same⟩)
      rw [Schedule.pass_last_of_not_mem unnamed, agrees check (later mem), lastStart_cons_of_not_mem]
      exact fun other mem same => listed (List.mem_map.mpr ⟨other, mem, same⟩)

/-- A ping every minute. -/
def pingCheck (id : Nat) (name : String) : CheckConfig where
  checkId := Uuid.ofId id
  name := text name
  checkType := .ping
  target := text "db"
  interval := some 60
  timeout := 5
  enabled := true
  retryAttempts := 0
  retryInterval := 30
  method := none
  expectedStatus := none
  jsonPath := none
  expectedValue := none
  recordType := none
  nameserver := none
  expectValue := none
  connectionString := none
  query := none
  scriptCode := none
  port := none
  verifySsl := none

end LuxSwirl.Agent
