import LuxSwirl.Server.Notifications
import Mathlib.Data.List.MinMax
import Mathlib.Data.Prod.Lex

/-!
# Liveness and assignment

`liveness.py`: when a check or an agent counts as silent.
`agent_assignment_core_service.py`: which agents run a check. A distributed
check goes to the agent of its pool with the highest weight that is not handed
off, and stays with its first choice when the whole pool is.
-/

namespace LuxSwirl.Server
open LuxSwirl.Py LuxSwirl.Lib

/-! ## Liveness -/

def defaultCheckIntervalSeconds : Nat := 60

def defaultMissedIntervals : Int := 3

def maxMissedIntervals : Int := 100

def graceSeconds : Nat := 60

/-- How long without data counts as silent. -/
def silentAfter (intervalSeconds : Option Nat) (missedIntervals : Int := defaultMissedIntervals) :
    Time :=
  seconds (orDefault intervalSeconds defaultCheckIntervalSeconds * missedIntervals + graceSeconds)

def heartbeatInterval (outside : Outside) (agent : Agent) : Nat :=
  orDefault agent.heartbeatInterval outside.defaultHeartbeatInterval

/-- When the agent counts as offline unless it heartbeats again first. -/
def offlineAt (outside : Outside) (agent : Agent)
    (missedIntervals : Int := defaultMissedIntervals) : Time :=
  agent.lastSeen.getD agent.createdAt +
    silentAfter (some (heartbeatInterval outside agent)) missedIntervals

def agentOffline (outside : Outside) (agent : Agent) (now : Time)
    (missedIntervals : Int := defaultMissedIntervals) : Bool :=
  decide (offlineAt outside agent missedIntervals < now)

/-- The agent's distributed checks belong to another agent of their pool. -/
def handedOff (outside : Outside) (agent : Agent) (now : Time) : Bool :=
  decide (agent.status = some .offline) || agentOffline outside agent now

/-- When they went to another agent. -/
def handedOffAt (outside : Outside) (agent : Agent) : Time :=
  if agent.status = some .offline then agent.lastSeen.getD agent.createdAt
  else offlineAt outside agent

/-! ## Assignment -/

def agentMatchesSelector (agent : Agent) (selector : Option AgentSelector) : Bool :=
  match selector with
  | none => false
  | some selector =>
    match selector.agentIds, selector.tags with
    | some names, _ => agent.agentName.any fun name => decide (name ∈ names)
    | none, some required =>
      if agent.tags = [] then false
      else
        let agentTags := (agent.tags.map strip).filter fun tag => !tag.isEmpty
        match selector.matchMode with
        | .any => required.any fun tag => decide (tag ∈ agentTags)
        | .all => required.all fun tag => decide (tag ∈ agentTags)
    | none, none => false

/-- The agent's weight for the check; a tie goes by its id. -/
def hrwScore (outside : Outside) (check : Check) (agent : Agent) : Nat ×ₗ Nat :=
  toLex (outside.hrwDigest check.id agent.id, agent.id)

def getAssignedAgentForCheck (outside : Outside) (check : Check) (availableAgents : List Agent) :
    Option Agent :=
  availableAgents.argmax (hrwScore outside check)

/-- The agent of the pool that runs a distributed check. -/
def distributeOwner (outside : Outside) (check : Check) (pool : List Agent) (now : Time) :
    Option Agent :=
  let online := pool.filter fun agent => !handedOff outside agent now
  getAssignedAgentForCheck outside check (if online = [] then pool else online)

/-- When a distributed check moved to the agent now running it; none on its
first choice. -/
def handedOverAt (outside : Outside) (check : Check) (pool : List Agent) (now : Time) :
    Option Time :=
  match distributeOwner outside check pool now with
  | none => none
  | some owner =>
    let above := pool.filter fun agent =>
      decide (hrwScore outside check owner < hrwScore outside check agent)
    (above.map (handedOffAt outside)).max?

def filterAgentsBySelector (agents : List Agent) (selector : Option AgentSelector) : List Agent :=
  agents.filter fun agent => agentMatchesSelector agent selector

namespace Db

def listActive (db : Db) : List Agent :=
  db.agents.filter fun agent => decide (agent.approvalStatus = .active)

def listEnabled (db : Db) : List Check := db.checks.filter (·.enabled)

/-- The checks that could run on the agent: its own manual ones, and those whose
selectors are still to be matched. -/
def listAssignmentCandidates (db : Db) (agentId : Id) : List Check :=
  db.checks.filter fun check =>
    decide ((check.assignmentMode = .manual ∧ check.agentId = agentId) ∨
      check.assignmentMode ∈ [.replicate, .distribute])

end Db

/-- Whether a candidate goes to the agent; a distributed check goes to its owner
alone, or to its whole pool. -/
def goesTo (outside : Outside) (now : Time) (activeAgents : List Agent) (ownedOnly : Bool) (agent : Agent)
    (check : Check) : Bool :=
  match check.assignmentMode with
  | .manual => decide (check.agentId = agent.id)
  | .replicate => agentMatchesSelector agent check.agentSelector
  | .distribute =>
    agentMatchesSelector agent check.agentSelector &&
      let pool := filterAgentsBySelector activeAgents check.agentSelector
      if ownedOnly then (distributeOwner outside check pool now).any fun owner => decide (owner.id = agent.id)
      else pool.any fun member => decide (member.id = agent.id)

/-- `_checks_for_agent` -/
def checksForAgent (outside : Outside) (now : Time) (agent : Agent) (ownedOnly : Bool) (db : Db) :
    List Check :=
  (db.listAssignmentCandidates agent.id).filter (goesTo outside now db.listActive ownedOnly agent)

/-- The checks the agent is to run. -/
def getChecksForAgent (outside : Outside) (now : Time) (agent : Agent) (db : Db) : List Check :=
  checksForAgent outside now agent true db

/-- The checks it may post results for. -/
def getReportableChecks (outside : Outside) (now : Time) (agent : Agent) (db : Db) : List Check :=
  checksForAgent outside now agent false db

/-- The version of the agent's list: a digest of when the list was touched and of
the ids in it, in their order. -/
def configVersion {Version : Type} (digest : Option Time × List Id → Version) (outside : Outside)
    (now : Time) (agent : Agent) (db : Db) : Version :=
  digest (agent.checksUpdatedAt,
    ((getChecksForAgent outside now agent db).map (·.id)).insertionSort (· ≤ ·))

/-- A check with the active agents that are to run it and those it may run on. -/
structure Assignment where
  check : Check
  agents : List Agent
  pool : List Agent

/-- The agents of one check. -/
def assignment (outside : Outside) (now : Time) (activeAgents : List Agent) (check : Check) :
    Assignment :=
  match check.assignmentMode with
  | .manual =>
    let owner := activeAgents.find? fun agent => decide (agent.id = check.agentId)
    { check, agents := owner.toList, pool := owner.toList }
  | .replicate =>
    let pool := filterAgentsBySelector activeAgents check.agentSelector
    { check, agents := pool, pool }
  | .distribute =>
    let pool := filterAgentsBySelector activeAgents check.agentSelector
    { check, agents := (distributeOwner outside check pool now).toList, pool }

/-- Every enabled check with its agents. -/
def assignedAgentsByCheck (outside : Outside) (now : Time) (db : Db) : List Assignment :=
  db.listEnabled.map (assignment outside now db.listActive)

end LuxSwirl.Server
