import LuxSwirl.Server.View

/-!
# An alert alone

Any results, reported one after another, are a run of a server with one alert on
one check: `solo_run`. What goes wrong in an alert's policy goes wrong on the
server.
-/

namespace LuxSwirl.Server
open LuxSwirl.Py LuxSwirl.Lib

def soloCheck : Check := { id := 0, agentId := 0, createdAt := 0 }

/-- The alert on one check, with one provider. -/
def soloDb (alert : Alert) : Db where
  alerts := [alert]
  checkMappings := [{ alertId := alert.id, checkId := soloCheck.id }]
  notificationMappings := [{ alertId := alert.id, notificationProviderId := 0 }]
  providers := [{ id := 0 }]
  checks := [soloCheck]

/-- Every delivery goes out. -/
def calm : Outside where
  deliver _ _ _ := true
  hrwDigest _ _ := 0
  defaultHeartbeatInterval := 30

/-- The `n`th result of the check. -/
def soloResult (n : Nat) (success : Bool) (latencyMs : Option Py.Float := none) : CheckResult where
  id := n
  checkId := soloCheck.id
  agentId := 0
  timestamp := n
  success
  latencyMs

/-- What the notifier is given for it. -/
def soloInput (n : Nat) (success : Bool) (latencyMs : Option Py.Float := none) :
    Input CheckResult Time where
  seen := soloResult n success latencyMs
  time := n

/-- The reports of some inputs, newest first. -/
def soloEvents (inputs : List (Input CheckResult Time)) : List Event :=
  (inputs.map fun input => .report input.seen input.time).reverse

theorem soloEvents_cons (input : Input CheckResult Time) (earlier : List (Input CheckResult Time)) :
    soloEvents (input :: earlier) = soloEvents earlier ++ [.report input.seen input.time] := by
  rw [soloEvents, List.map_cons, List.reverse_cons]
  rfl

/-- The inputs are results of the check, each after those before it, and nothing
hinders their alert. -/
structure Solo (inputs : List (Input CheckResult Time)) : Prop where
  isCheck : ∀ input ∈ inputs, input.seen.checkId = soloCheck.id
  unhindered : ∀ input ∈ inputs, input.held = false ∧ input.masked = false
  ordered : inputs.Pairwise fun new old => old.time < new.time ∧ old.seen.timestamp < new.seen.timestamp

theorem Solo.tail {input : Input CheckResult Time} {earlier : List (Input CheckResult Time)}
    (solo : Solo (input :: earlier)) : Solo earlier where
  isCheck other mem := solo.isCheck other (List.mem_cons_of_mem _ mem)
  unhindered other mem := solo.unhindered other (List.mem_cons_of_mem _ mem)
  ordered := (List.pairwise_cons.mp solo.ordered).2

section

variable {alert : Alert}

theorem soloDb_untouched (enabled : alert.isEnabled = true) (alive : alert.deletedAt = none) :
    Untouched alert soloCheck (soloDb alert) where
  watched :=
    { alertKeys := by simp [soloDb]
      mappingKeys := by simp [soloDb]
      isCheck := by simp [soloDb, Db.getCheck]
      isAlert := by simp [soloDb]
      enabled
      alive
      mapped := by simp [soloDb]
      provider := by simp [soloDb, Db.listLiveProviders] }
  results := rfl
  rows := rfl

/-- The results come one after another, none of them twice. -/
structure SoloArrivals (inputs : List (Input CheckResult Time)) : Prop where
  isCheck : ∀ input ∈ inputs, input.seen.checkId = soloCheck.id
  unhindered : ∀ input ∈ inputs, input.held = false ∧ input.masked = false
  arriving : inputs.Pairwise fun new old => old.time < new.time ∧ old.seen.timestamp ≠ new.seen.timestamp

theorem SoloArrivals.tail {input : Input CheckResult Time} {earlier : List (Input CheckResult Time)}
    (arrivals : SoloArrivals (input :: earlier)) : SoloArrivals earlier where
  isCheck other mem := arrivals.isCheck other (List.mem_cons_of_mem _ mem)
  unhindered other mem := arrivals.unhindered other (List.mem_cons_of_mem _ mem)
  arriving := (List.pairwise_cons.mp arrivals.arriving).2

theorem Solo.arrivals {inputs : List (Input CheckResult Time)} (solo : Solo inputs) :
    SoloArrivals inputs where
  isCheck := solo.isCheck
  unhindered := solo.unhindered
  arriving := solo.ordered.imp fun later => ⟨later.1, ne_of_lt later.2⟩

/-- The tables after some results. -/
structure SoloKeeps (alert : Alert) (inputs : List (Input CheckResult Time)) (db : Db) : Prop where
  mappings : db.checkMappings = (soloDb alert).checkMappings
  checks : db.checks = (soloDb alert).checks
  results : db.results = inputs.map (·.seen)
  logs : ∀ row ∈ db.logs, ∃ input ∈ inputs, row.sentAt = input.time

theorem SoloKeeps.unheld {inputs : List (Input CheckResult Time)} {db : Db} (now : Time)
    (keeps : SoloKeeps alert inputs db) : isSnoozed now alert.id soloCheck.id db = false := by
  rw [isSnoozed, Db.getCheckMapping, keeps.mappings]
  simp [soloDb]

theorem SoloKeeps.resultsOf {inputs : List (Input CheckResult Time)} {db : Db}
    (keeps : SoloKeeps alert inputs db) (isCheck : ∀ input ∈ inputs, input.seen.checkId = soloCheck.id) :
    db.resultsOf soloCheck.id = inputs.map (·.seen) := by
  rw [Db.resultsOf, keeps.results, List.filter_eq_self]
  intro result mem
  obtain ⟨input, within, rfl⟩ := List.mem_map.mp mem
  simp [isCheck input within]

/-- An event reports one of the results, after those before it. -/
structure SoloReports (alert : Alert) (inputs : List (Input CheckResult Time)) (db : Db)
    (event : Event) : Prop where
  report : ∃ input earlier, (input :: earlier) <:+ inputs ∧ event = .report input.seen input.time ∧
    SoloKeeps alert earlier db
  given : ∀ input, pairInput alert soloCheck db event = some input → input ∈ inputs

/-- **Any results make a run of the alert alone**, in whatever order they were
taken, and are what it is given. -/
theorem solo_arrives (alert : Alert) {inputs : List (Input CheckResult Time)}
    (arrivals : SoloArrivals inputs) :
    Allowed calm (SoloReports alert inputs) (soloDb alert) (soloEvents inputs) ∧
      inputsOf calm alert soloCheck (soloEvents inputs) (soloDb alert) = inputs ∧
      SoloKeeps alert inputs (run calm (soloEvents inputs) (soloDb alert)) := by
  induction inputs with
  | nil => exact ⟨.nil, rfl, rfl, rfl, rfl, by simp [soloDb, soloEvents]⟩
  | cons input earlier ih =>
    obtain ⟨allowed, given, keeps⟩ := ih arrivals.tail
    have isCheck := arrivals.isCheck input (List.mem_cons_self ..)
    have unhindered := arrivals.unhindered input (List.mem_cons_self ..)
    have later := (List.pairwise_cons.mp arrivals.arriving).1
    generalize before : run calm (soloEvents earlier) (soloDb alert) = db at *
    have isInput : pairInput alert soloCheck db (.report input.seen input.time) = some input := by
      rw [pairInput, if_pos isCheck, inputOf, Option.some.injEq]
      have unheld : isSnoozed input.time alert.id soloCheck.id (db.addResult input.seen) = false :=
        keeps.unheld input.time
      have unmasked : parentIsDown soloCheck (db.addResult input.seen) = false := rfl
      rw [unheld, unmasked]
      cases input with
      | mk seen time held masked =>
        obtain ⟨rfl, rfl⟩ := unhindered
        rfl
    have isNew : ∀ old ∈ db.resultsOf soloCheck.id, old.timestamp ≠ input.seen.timestamp := by
      intro old mem
      rw [keeps.resultsOf arrivals.tail.isCheck] at mem
      obtain ⟨seen, within, rfl⟩ := List.mem_map.mp mem
      exact (later seen within).2
    rw [soloEvents_cons]
    refine ⟨.snoc (allowed.imp fun _ _ reports => ?_) ?_, ?_, ?_⟩
    · obtain ⟨⟨one, before, suffix, isEvent, keeps⟩, given⟩ := reports
      exact ⟨⟨one, before, suffix.trans (List.suffix_cons _ _), isEvent, keeps⟩,
        fun other same => List.mem_cons_of_mem _ (given other same)⟩
    · rw [before]
      refine ⟨⟨input, earlier, List.suffix_refl _, rfl, keeps⟩, fun other same => ?_⟩
      rw [isInput] at same
      cases same
      exact List.mem_cons_self ..
    · rw [inputsOf_snoc, before, isInput, given]
      rfl
    · obtain ⟨stepped, -⟩ := step_report_new calm input.time isCheck isNew
      obtain ⟨rows, added, ofRows, -⟩ :=
        evaluateCheckResult_adds calm input.time input.seen (db.addResult input.seen)
      rw [run_append, run_singleton, before, stepped, added]
      refine ⟨keeps.mappings, keeps.checks, ?_, fun row mem => ?_⟩
      · change input.seen :: db.results = _
        rw [keeps.results, List.map_cons]
      · rcases List.mem_append.mp mem with old | new
        · obtain ⟨one, within, same⟩ := keeps.logs row old
          exact ⟨one, List.mem_cons_of_mem _ within, same⟩
        · exact ⟨input, List.mem_cons_self .., (ofRows row new).2⟩

theorem SoloReports.unhindered {inputs : List (Input CheckResult Time)} (arrivals : SoloArrivals inputs)
    {db : Db} {event : Event} (reports : SoloReports alert inputs db event) :
    Unhindered alert soloCheck db event :=
  fun input given => arrivals.unhindered input (reports.given input given)

theorem SoloReports.arrives {inputs : List (Input CheckResult Time)} (arrivals : SoloArrivals inputs)
    {db : Db} {event : Event} (reports : SoloReports alert inputs db event) :
    Arrives soloCheck db event := by
  obtain ⟨⟨input, earlier, suffix, rfl, keeps⟩, -⟩ := reports
  have later := (List.pairwise_cons.mp (arrivals.arriving.sublist suffix.sublist)).1
  have within : ∀ one ∈ earlier, one.seen.checkId = soloCheck.id := fun one mem =>
    arrivals.isCheck one (suffix.subset (List.mem_cons_of_mem _ mem))
  refine ⟨fun _ old mem => ?_, fun row mem => ?_⟩
  · rw [keeps.resultsOf within] at mem
    obtain ⟨seen, inside, rfl⟩ := List.mem_map.mp mem
    exact (later seen inside).2
  · obtain ⟨one, inside, same⟩ := keeps.logs row mem
    rw [same]
    exact (later one inside).1

/-- What the events of some results are. -/
structure SoloAllows (alert : Alert) (inputs : List (Input CheckResult Time)) (db : Db) (event : Event) :
    Prop where
  inOrder : InOrder soloCheck db event
  unhindered : Unhindered alert soloCheck db event
  given : ∀ input, pairInput alert soloCheck db event = some input → input ∈ inputs

/-- Results taken one after another are reported in order. -/
theorem solo_run (alert : Alert) {inputs : List (Input CheckResult Time)} (solo : Solo inputs) :
    Allowed calm (SoloAllows alert inputs) (soloDb alert) (soloEvents inputs) ∧
      inputsOf calm alert soloCheck (soloEvents inputs) (soloDb alert) = inputs ∧
      SoloKeeps alert inputs (run calm (soloEvents inputs) (soloDb alert)) := by
  obtain ⟨allowed, given, keeps⟩ := solo_arrives alert solo.arrivals
  refine ⟨allowed.imp fun db event reports => ⟨?_, reports.unhindered solo.arrivals, reports.given⟩,
    given, keeps⟩
  have arrives := reports.arrives solo.arrivals
  obtain ⟨⟨input, earlier, suffix, rfl, keeps⟩, -⟩ := reports
  have later := (List.pairwise_cons.mp (solo.ordered.sublist suffix.sublist)).1
  have within : ∀ one ∈ earlier, one.seen.checkId = soloCheck.id := fun one mem =>
    solo.isCheck one (suffix.subset (List.mem_cons_of_mem _ mem))
  refine ⟨fun _ old mem => ?_, arrives.2⟩
  rw [keeps.resultsOf within] at mem
  obtain ⟨seen, inside, rfl⟩ := List.mem_map.mp mem
  exact (later seen inside).2

/-- The last of some results, where it is reported. -/
structure SoloStep (alert : Alert) (input : Input CheckResult Time)
    (earlier : List (Input CheckResult Time)) (db : Db) : Prop where
  tracked : Tracked alert soloCheck db
  inOrder : InOrder soloCheck db (.report input.seen input.time)
  given : pairInput alert soloCheck db (.report input.seen input.time) = some input
  view : view alert soloCheck db = alert.policy.after ⟨[], none⟩ earlier

theorem solo_step (plain : alert.isPlain = true) (enabled : alert.isEnabled = true)
    (alive : alert.deletedAt = none) {input : Input CheckResult Time}
    {earlier : List (Input CheckResult Time)} (solo : Solo (input :: earlier)) :
    SoloStep alert input earlier (run calm (soloEvents earlier) (soloDb alert)) := by
  obtain ⟨whole, givenAll, -⟩ := solo_run alert solo
  obtain ⟨before, givenBefore, -⟩ := solo_run alert solo.tail
  obtain ⟨tracked, sameView⟩ := run_view plain (soloDb_untouched enabled alive)
    (before.imp fun _ _ => SoloAllows.inOrder)
  rw [soloEvents_cons] at whole givenAll
  rw [inputsOf_snoc, givenBefore] at givenAll
  rw [givenBefore] at sameView
  refine ⟨tracked, whole.of_snoc.2.inOrder, ?_, sameView⟩
  have one : (pairInput alert soloCheck (run calm (soloEvents earlier) (soloDb alert))
      (.report input.seen input.time)).toList = [input] :=
    List.append_cancel_right givenAll
  rwa [Option.toList_eq_singleton_iff] at one

/-- What holds of every step of a run holds of the last result's. -/
theorem solo_last (plain : alert.isPlain = true) (enabled : alert.isEnabled = true)
    (alive : alert.deletedAt = none) {input : Input CheckResult Time}
    {earlier : List (Input CheckResult Time)} (solo : Solo (input :: earlier))
    {holds : Db → Event → Prop}
    (all : Allowed calm holds (soloDb alert) (soloEvents (input :: earlier))) :
    ∃ db, SoloStep alert input earlier db ∧ holds db (.report input.seen input.time) := by
  rw [soloEvents_cons] at all
  exact ⟨_, solo_step plain enabled alive solo, all.of_snoc.2⟩

end

end LuxSwirl.Server
