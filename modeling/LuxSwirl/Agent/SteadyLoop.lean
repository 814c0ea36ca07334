import LuxSwirl.Agent.CheckLoading
import LuxSwirl.Agent.MainLoop
import LuxSwirl.Lib.Pointwise
import LuxSwirl.Server.CheckCalls

/-!
# What a list of checks does to the loop

`steady_iff` is about every list of checks the server can hold and send: the loop
over it raises nothing and starts each check by its own settings exactly when every
check that is loaded has an interval and a name of its own.
-/

namespace LuxSwirl.Agent
open LuxSwirl.Py LuxSwirl.Lib LuxSwirl.Server

/-- The last starts after some readings of the clock. -/
def lastRunAfter (checks : List CheckConfig) (readings : List Time) : LastRun :=
  readings.foldl (fun lastRun now => (passOver now checks lastRun).lastRun) fun _ => 0

/-- The pass at a reading, after those at the earlier ones. -/
def passAfter (checks : List CheckConfig) (earlier : List Time) (now : Time) : PassOutcome :=
  passOver now checks (lastRunAfter checks earlier)

/-- **No configuration stops the agent**: no pass raises, every check has an interval
and a timeout, and each is started as it would be alone. -/
structure Steady (checks : List CheckConfig) : Prop where
  raisesNothing : ∀ earlier now, (passAfter checks earlier now).raised = false
  intervals : ∀ check ∈ checks, ∃ interval ∈ check.interval, 0 < interval
  timeouts : ∀ check ∈ checks, 0 < check.timeout
  alone : ∀ earlier now, (passAfter checks earlier now).starts =
    checks.flatMap fun check => (passAfter [check] earlier now).starts

variable {checks : List CheckConfig} {check : CheckConfig}

theorem passOver_singleton (isSet : check.interval.isSome) (now : Time) (lastRun : LastRun) :
    (passOver now [check] lastRun).starts = [Schedule.due check.seconds (lastRun check.name) now] ∧
      (passOver now [check] lastRun).lastRun check.name =
        if Schedule.due check.seconds (lastRun check.name) now then now else lastRun check.name := by
  rw [passOver_of_intervals now lastRun (by simpa using isSet)]
  have apart : ([check].map (·.name)).Nodup := List.nodup_singleton _
  obtain ⟨starts, lasts⟩ := Schedule.pass_of_nodup CheckConfig.seconds now lastRun apart
  exact ⟨starts, lasts check (List.mem_singleton_self check)⟩

/-- A check with a name of its own last started when it would have alone. -/
theorem lastRunAfter_of_nodup (areSet : ∀ check ∈ checks, check.interval.isSome)
    (apart : (checks.map (·.name)).Nodup) (mem : check ∈ checks) (readings : List Time) :
    lastRunAfter checks readings check.name = lastRunAfter [check] readings check.name := by
  induction readings using List.reverseRecOn with
  | nil => rfl
  | append_singleton earlier now ih =>
    have after (checks : List CheckConfig) : lastRunAfter checks (earlier ++ [now]) =
        (passOver now checks (lastRunAfter checks earlier)).lastRun := by
      rw [lastRunAfter, List.foldl_append]
      rfl
    have lasts := (Schedule.pass_of_nodup CheckConfig.seconds now (lastRunAfter checks earlier) apart).2
    rw [after, after, (passOver_singleton (areSet check mem) now _).2, ← ih,
      passOver_of_intervals now _ areSet]
    exact lasts check mem

theorem starts_of_nodup (areSet : ∀ check ∈ checks, check.interval.isSome)
    (apart : (checks.map (·.name)).Nodup) (earlier : List Time) (now : Time) :
    (passAfter checks earlier now).starts =
      checks.flatMap fun check => (passAfter [check] earlier now).starts := by
  have alone : checks.flatMap (fun check => (passAfter [check] earlier now).starts) =
      checks.flatMap fun check => [Schedule.due check.seconds (lastRunAfter checks earlier check.name) now] := by
    refine List.flatMap_congr fun check mem => ?_
    rw [passAfter, (passOver_singleton (areSet check mem) now _).1, lastRunAfter_of_nodup areSet apart mem]
  rw [alone, ← List.map_eq_flatMap, passAfter, passOver_of_intervals now _ areSet]
  exact (Schedule.pass_of_nodup CheckConfig.seconds now _ apart).1

/-- A list whose intervals are in bounds is steady exactly when each check has one, and
a name of its own. -/
theorem steady_iff_of_fits (fits : ∀ check ∈ checks, FitsNumber 1 86400 check.interval)
    (timeouts : ∀ check ∈ checks, 0 < check.timeout) :
    Steady checks ↔ (∀ check ∈ checks, check.interval.isSome) ∧ (checks.map (·.name)).Nodup := by
  have positive (areSet : ∀ check ∈ checks, check.interval.isSome) :
      ∀ check ∈ checks, ∃ interval ∈ check.interval, 0 < interval := by
    intro check mem
    obtain ⟨interval, isInterval⟩ := Option.isSome_iff_exists.mp (areSet check mem)
    exact ⟨interval, isInterval, (fits check mem interval isInterval).1⟩
  constructor
  · intro steady
    have areSet : ∀ check ∈ checks, check.interval.isSome := by
      intro check mem
      obtain ⟨interval, isInterval, -⟩ := steady.intervals check mem
      exact Option.isSome_iff_exists.mpr ⟨interval, isInterval⟩
    refine ⟨areSet, ?_⟩
    -- at a reading a day after zero every check is due, so none is held back by another
    have alone := steady.alone [] 86400
    rw [passAfter, passOver_of_intervals _ _ areSet] at alone
    dsimp only at alone
    have all : ∀ flag ∈ (Schedule.pass (·.name) CheckConfig.seconds 86400 checks
        (lastRunAfter checks [])).1, flag = true := by
      rw [alone]
      intro flag mem
      obtain ⟨check, mem, isFlag⟩ := List.mem_flatMap.mp mem
      obtain ⟨interval, isInterval⟩ := Option.isSome_iff_exists.mp (areSet check mem)
      rw [passAfter, (passOver_singleton (areSet check mem) _ _).1, List.mem_singleton] at isFlag
      have bounded := (fits check mem interval isInterval).2
      have passed : (interval : Time) ≤ 86400 - 0 := by
        rw [sub_zero]
        exact_mod_cast bounded
      rw [isFlag, Schedule.due, CheckConfig.seconds, isInterval]
      exact decide_eq_true passed
    refine (Schedule.nodup_of_all_started (fun check mem => ?_) all).1
    obtain ⟨interval, isInterval, pos⟩ := positive areSet check mem
    rw [CheckConfig.seconds, Option.mem_def.mp isInterval]
    exact_mod_cast pos
  · rintro ⟨areSet, apart⟩
    refine ⟨fun earlier now => ?_, positive areSet, timeouts, starts_of_nodup areSet apart⟩
    rw [passAfter, passOver_of_intervals now _ areSet]

/-! ## The lists the server holds -/

theorem intervalSeconds_of_toResponse {row : Check} {checkCfg : CheckResponse}
    (served : row.toResponse = some checkCfg) : checkCfg.intervalSeconds = row.intervalSeconds := by
  simp only [Check.toResponse, Option.bind_eq_bind, Option.bind_eq_some_iff] at served
  obtain ⟨displayName, -, target, -, description, -, made⟩ := served
  cases made
  rfl

/-- **What the loop makes of a list the server sends**, after any calls that create
and update its checks. -/
theorem steady_iff {guards : Guards} {requests : List CheckRequest} {db : Server.Db} {rows : List Check}
    {checkConfigs : List CheckResponse} (urlScheme : Text → Option Text)
    (fits : ∀ request ∈ requests, request.call.Fits) (noneYet : db.checks = [])
    (held : rows ⊆ (afterRequests guards requests db).checks)
    (served : rows.mapM Check.toResponse = some checkConfigs) :
    Steady (loadChecks urlScheme checkConfigs) ↔
      (∀ checkCfg ∈ checkConfigs.filter (isLoaded urlScheme), checkCfg.intervalSeconds.isSome) ∧
        ((checkConfigs.filter (isLoaded urlScheme)).map (·.displayName)).Nodup := by
  have bounded : ∀ checkCfg ∈ checkConfigs, FitsNumber 1 86400 checkCfg.intervalSeconds := by
    intro checkCfg mem
    obtain ⟨row, isRow, isServed⟩ := exists_of_mem_right (forall₂_of_mapM served) mem
    rw [intervalSeconds_of_toResponse isServed]
    exact intervals_of_requests fits noneYet row (held isRow)
  have loaded : ∀ check ∈ loadChecks urlScheme checkConfigs,
      FitsNumber 1 86400 check.interval ∧ 0 < check.timeout := by
    intro check mem
    obtain ⟨checkCfg, isKept, rfl⟩ := List.mem_map.mp mem
    exact ⟨bounded checkCfg (List.mem_of_mem_filter isKept), timeout_pos checkCfg⟩
  rw [steady_iff_of_fits (fun check mem => (loaded check mem).1) fun check mem => (loaded check mem).2]
  rw [loadChecks, List.forall_mem_map, List.map_map]
  rfl

/-- A ping that is created on an agent, and as it is served. -/
def pingData (intervalSeconds : Option Nat) : CheckCreate where
  displayName := text "db"
  checkType := .ping
  target := text "db"
  intervalSeconds

def createPing (intervalSeconds : Option Nat) : CheckRequest where
  call := .create 1 1 (pingData intervalSeconds) false
  clock := fun n => n
  actorIsAdmin := true

def servedPing (intervalSeconds : Option Nat) : CheckResponse where
  id := Uuid.ofId 1
  displayName := text "db"
  checkType := .ping
  target := text "db"
  description := none
  intervalSeconds
  timeoutSeconds := some 10
  enabled := true
  expectedStatus := none
  httpMethod := none
  verifySsl := none
  jsonPath := none
  expectedValue := none
  recordType := none
  nameserver := none
  port := none
  expectValue := none
  connectionString := none
  query := none
  retryAttempts := some 2
  retryIntervalSeconds := some 30
  scriptCode := none

def oneAgent : Server.Db where
  agents := [{ id := 1, approvalStatus := .active, createdAt := 0 }]

theorem createPing_fits {intervalSeconds : Option Nat} (bounded : FitsNumber 1 86400 intervalSeconds) :
    ∀ request ∈ [createPing intervalSeconds], request.call.Fits := by
  intro request mem
  rw [List.mem_singleton.mp mem]
  exact
    { displayName := (by decide +kernel : FitsText 1 255 (text "db"))
      target := (by decide +kernel : FitsText 1 512 (text "db"))
      description := by rintro s ⟨⟩
      intervalSeconds := bounded
      timeoutSeconds := (by decide : FitsNumber 1 300 (some 10))
      retryAttempts := by rintro n ⟨⟩
      retryIntervalSeconds := (by decide : FitsNumber 1 300 (some 30))
      resendNotificationAfter := by rintro n ⟨⟩
      tags := by rintro tags ⟨⟩
      scriptCode := by rintro s ⟨⟩ }

theorem servedPing_served (intervalSeconds : Option Nat) :
    (afterRequests anyTarget [createPing intervalSeconds] oneAgent).checks.mapM Check.toResponse =
      some [servedPing intervalSeconds] := by
  have name : storableTextOf 1 255 (text "db") = some (text "db") := by decide +kernel
  have target : storableTextOf 1 512 (text "db") = some (text "db") := by decide +kernel
  have created : (afterRequests anyTarget [createPing intervalSeconds] oneAgent).checks =
      [(pingData intervalSeconds).row 1 1 0] := rfl
  have served : ((pingData intervalSeconds).row 1 1 0).toResponse = some (servedPing intervalSeconds) := by
    simp only [Check.toResponse, CheckCreate.row, pingData, name, target]
    rfl
  rw [created, List.mapM_cons, served]
  rfl

theorem steady_of_interval : Steady (loadChecks (fun _ => none) [servedPing (some 60)]) :=
  (steady_iff _ (createPing_fits (by decide)) rfl (List.Subset.refl _) (servedPing_served (some 60))).mpr
    ⟨by decide, by decide⟩

/-- A check whose interval was left unset ends the loop at its first pass. -/
theorem not_steady_of_unset_interval :
    ¬ ∀ (urlScheme : Text → Option Text) (guards : Guards) (requests : List CheckRequest) (db : Server.Db)
      (rows : List Check) (checkConfigs : List CheckResponse),
      (∀ request ∈ requests, request.call.Fits) → db.checks = [] →
        rows ⊆ (afterRequests guards requests db).checks → rows.mapM Check.toResponse = some checkConfigs →
          Steady (loadChecks urlScheme checkConfigs) := by
  intro claimed
  have steady := claimed (fun _ => none) anyTarget [createPing none] oneAgent _ _
    (createPing_fits (by rintro n ⟨⟩)) rfl (List.Subset.refl _) (servedPing_served none)
  have raised : (passAfter (loadChecks (fun _ => none) [servedPing none]) [] 0).raised = true := by
    decide +kernel
  exact absurd (steady.raisesNothing [] 0) (by rw [raised]; decide)

end LuxSwirl.Agent
