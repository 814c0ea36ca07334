import LuxSwirl.Server.SilenceAlert

/-!
# Runs of the server

What happens to the tables alert evaluation reads: a report of one result, a
snooze set or cleared, a heartbeat, and a silence pass. A step gives the tables
after it and the notifications it sent; a run is a list of events, each of them
allowed where it happens.
-/

namespace LuxSwirl.Server
open LuxSwirl.Py LuxSwirl.Lib

inductive Event where
  /-- An agent reports a result, which is stored and evaluated. -/
  | report (checkResult : CheckResult) (now : Time)
  | snooze (alertId checkId : Id) (snoozedUntil : Option Time)
  | heartbeat (agentId : Id) (receivedAt : Time) (status : AgentStatus)
  | silencePass (now : Time) (clock : Nat → Time)

namespace Db

def setSnooze (alertId checkId : Id) (snoozedUntil : Option Time) (db : Db) : Db :=
  { db with
    checkMappings := db.checkMappings.map fun mapping =>
      if mapping.alertId = alertId ∧ mapping.checkId = checkId then { mapping with snoozedUntil }
      else mapping }

/-- What a heartbeat changes of its agent's liveness. -/
def applyHeartbeat (agentId : Id) (receivedAt : Time) (status : AgentStatus) (db : Db) : Db :=
  { db with
    agents := db.agents.map fun agent =>
      if agent.id = agentId then { agent with lastSeen := some receivedAt, status := some status }
      else agent }

end Db

/-- A report of one result. One stored before for the same check and time is
neither stored nor evaluated again. -/
def reportResult (outside : Outside) (now : Time) (checkResult : CheckResult) (db : Db) :
    Db × List Notice :=
  if db.results.any fun old =>
    decide (old.checkId = checkResult.checkId ∧ old.timestamp = checkResult.timestamp)
  then (db, [])
  else evaluateCheckResult outside now checkResult (db.addResult checkResult)

def step (outside : Outside) (event : Event) (db : Db) : Db × List Notice :=
  match event with
  | .report checkResult now => reportResult outside now checkResult db
  | .snooze alertId checkId snoozedUntil => (db.setSnooze alertId checkId snoozedUntil, [])
  | .heartbeat agentId receivedAt status => (db.applyHeartbeat agentId receivedAt status, [])
  | .silencePass now clock => silencePass outside now clock db

/-- The tables after some events. -/
def run (outside : Outside) (events : List Event) (db : Db) : Db :=
  events.foldl (fun db event => (step outside event db).1) db

@[simp] theorem run_nil (outside : Outside) (db : Db) : run outside [] db = db := rfl

@[simp] theorem run_append (outside : Outside) (events more : List Event) (db : Db) :
    run outside (events ++ more) db = run outside more (run outside events db) :=
  List.foldl_append

@[simp] theorem run_singleton (outside : Outside) (event : Event) (db : Db) :
    run outside [event] db = (step outside event db).1 := rfl

theorem run_snoc (outside : Outside) (events : List Event) (event : Event) (db : Db) :
    run outside (events ++ [event]) db = (step outside event (run outside events db)).1 := by
  rw [run_append, run_singleton]

/-- A run each of whose events is allowed by the tables it finds. -/
inductive Allowed (outside : Outside) (allows : Db → Event → Prop) (db : Db) : List Event → Prop
  | nil : Allowed outside allows db []
  | snoc {events : List Event} {event : Event} : Allowed outside allows db events →
      allows (run outside events db) event → Allowed outside allows db (events ++ [event])

theorem Allowed.of_snoc {outside : Outside} {allows : Db → Event → Prop} {db : Db}
    {events : List Event} {event : Event} (allowed : Allowed outside allows db (events ++ [event])) :
    Allowed outside allows db events ∧ allows (run outside events db) event := by
  generalize whole : events ++ [event] = all at allowed
  cases allowed with
  | nil => simp at whole
  | snoc before allows =>
    obtain ⟨rfl, same⟩ := List.append_inj' whole rfl
    cases same
    exact ⟨before, allows⟩

/-- The events before one of an allowed run, and that one. -/
theorem Allowed.of_append {outside : Outside} {allows : Db → Event → Prop} {db : Db}
    {front back : List Event} {event : Event}
    (allowed : Allowed outside allows db (front ++ event :: back)) :
    Allowed outside allows db front ∧ allows (run outside front db) event := by
  induction back using List.reverseRecOn with
  | nil => exact allowed.of_snoc
  | append_singleton back last ih =>
    have longer : front ++ event :: (back ++ [last]) = (front ++ event :: back) ++ [last] := by simp
    rw [longer] at allowed
    exact ih allowed.of_snoc.1

/-- An allowed run's events up to any point. -/
theorem Allowed.front {outside : Outside} {allows : Db → Event → Prop} {db : Db}
    {front back : List Event} (allowed : Allowed outside allows db (front ++ back)) :
    Allowed outside allows db front := by
  cases back with
  | nil => rwa [List.append_nil] at allowed
  | cons event back => exact allowed.of_append.1

/-- What holds of an allowed event after any allowed run holds of each event of one. -/
theorem Allowed.each {outside : Outside} {allows more : Db → Event → Prop} {db : Db}
    (each : ∀ events event, Allowed outside allows db events →
      allows (run outside events db) event → more (run outside events db) event)
    {events : List Event} (allowed : Allowed outside allows db events) :
    Allowed outside more db events := by
  induction allowed with
  | nil => exact .nil
  | snoc before allows ih => exact .snoc ih (each _ _ before allows)

theorem Allowed.imp {outside : Outside} {allows more : Db → Event → Prop} {db : Db}
    (weaker : ∀ db event, allows db event → more db event) {events : List Event}
    (allowed : Allowed outside allows db events) : Allowed outside more db events :=
  allowed.each fun _ _ _ => weaker _ _

theorem Allowed.and {outside : Outside} {allows more : Db → Event → Prop} {db : Db}
    {events : List Event} (allowed : Allowed outside allows db events)
    (also : Allowed outside more db events) :
    Allowed outside (fun db event => allows db event ∧ more db event) db events := by
  induction allowed with
  | nil => exact .nil
  | snoc _ allows ih => exact .snoc (ih also.of_snoc.1) ⟨allows, also.of_snoc.2⟩

/-- What holds at the start and is kept by every allowed event holds after a run. -/
theorem Allowed.induction {outside : Outside} {allows : Db → Event → Prop} {db : Db}
    (holds : Db → Prop) (start : holds db)
    (kept : ∀ db event, holds db → allows db event → holds (step outside event db).1)
    {events : List Event} (allowed : Allowed outside allows db events) :
    holds (run outside events db) := by
  induction allowed with
  | nil => exact start
  | snoc _ allows ih =>
    rw [run_append, run_singleton]
    exact kept _ _ ih allows

end LuxSwirl.Server
