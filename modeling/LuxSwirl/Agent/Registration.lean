import LuxSwirl.Py.Uuid
import Mathlib.Algebra.Order.Ring.Rat

/-!
# Registration and credentials

How an agent comes to its identity and may lose it: `credentials.py` (the id, the
key and the recovery secret, in memory and in the file), `registration.py`
(register, recover the key, register again), the part of `check_manager.py` that
fetches the checks, and the part of `heartbeat.py` that reads the server's answers.

What the agent does not decide is in `Outside`. Every request and what it got is
kept in `asked`, so a statement about a run can say what was sent and answered;
nothing in the agent reads it.

A save either takes effect or leaves the file as it was, as a rename does.
-/

namespace LuxSwirl.Agent
open LuxSwirl.Py LuxSwirl.Lib

/-! ## Answers -/

/-- A response of whatever answered: the server, or something in front of it. -/
structure ServerResponse where
  statusCode : Nat
  /-- The `X-LuxSwirl-Refused` header. -/
  refused : Option Text := none
  /-- The finite number its `Retry-After` names. -/
  retryAfter : Option ℚ := none
  /-- Its body as JSON. -/
  json : Option Value := none

namespace ServerResponse

/-- What `raise_for_status` lets through. -/
def isSuccess (response : ServerResponse) : Bool :=
  decide (200 ≤ response.statusCode ∧ response.statusCode < 300)

/-- The statuses that are refusals. -/
def isRefusalStatus (response : ServerResponse) : Bool :=
  response.statusCode == 401 || response.statusCode == 403

/-- The server's refusal mark on a 401 or 403. -/
def refusalMark (response : ServerResponse) : Option Text :=
  if response.isRefusalStatus then response.refused.filter (!·.isEmpty) else none

def isMarkedRefusal (response : ServerResponse) : Bool := response.refusalMark.isSome

def refusesAgentKey (response : ServerResponse) : Bool :=
  response.refusalMark == some (text "agent-key")

def refusesRecoverySecret (response : ServerResponse) : Bool :=
  response.refusalMark == some (text "recovery-secret")

def refusesRegistrationKey (response : ServerResponse) : Bool :=
  response.refusalMark == some (text "registration-key")

/-- `response.json().get(name)`, or none when the body is not a JSON object. -/
def field (name : String) (response : ServerResponse) : Option Value :=
  match response.json with
  | some (.dict fields) => some ((Fields.get? (fieldKey name) fields).getD .none)
  | _ => none

/-- The key a recover-key response brings. -/
def recoveredKey (response : ServerResponse) : Option Value :=
  if response.isSuccess then (response.field "api_key").filter truthy else none

/-- The agent id and the recovery secret a registration response brings. -/
def registered (response : ServerResponse) : Option (Nat × Value) :=
  if response.isSuccess then
    match response.field "agent_id", response.field "recovery_secret" with
    | some (.str agentId), some secret => (Uuid.ofText agentId).map (·, secret)
    | _, _ => none
  else none

/-- The seconds a 429 asks the agent to wait. -/
def retrySeconds (response : ServerResponse) : ℚ :=
  match response.retryAfter with
  | some seconds => min (max 1 seconds) 3600
  | none => 60

end ServerResponse

/-- The requests an agent's credentials depend on. -/
inductive AgentRequest where
  | heartbeat (withSecret : Bool)
  | checks
  | recoverKey
  | register
  deriving DecidableEq

/-- A request and the response it got; none when it raised. -/
structure Asked where
  request : AgentRequest
  response : Option ServerResponse

/-- What the agent does not decide. -/
structure Outside where
  /-- The response to a request after the given ones. -/
  answer : List Asked → AgentRequest → Option ServerResponse
  /-- Whether the file can be written at the n-th look. -/
  saves : Nat → Bool
  /-- Whether the file can be deleted. -/
  unlinks : Nat → Bool
  /-- Whether the HTTP clients move to a new key without raising. -/
  moves : Nat → Bool
  /-- What `time.monotonic()` gives. -/
  monotonic : Nat → ℚ

/-! ## The agent -/

/-- `AgentCredentials`, in memory. -/
structure AgentCredentials where
  agentId : Option Nat := none
  apiKey : Value := .none
  recoverySecret : Value := .none
  unsaved : Bool := false

/-- The credentials file. -/
structure StoredCredentials where
  agentId : Nat
  apiKey : Value
  recoverySecret : Value

/-- The bookkeeping of `AgentRegistration`. -/
structure AgentRegistration where
  recoveryRefused : Bool := false
  recoveryNotBefore : ℚ := 0
  lastRecovered : Option ℚ := none
  recoveryGap : ℚ := 0
  secretRefused : Bool := false
  registerAgainNotBefore : ℚ := 0

/-- What the heartbeat sender knows of refusals. -/
structure HeartbeatSender where
  keyRefused : Bool := false
  secretRefused : Bool := false

/-- An agent process. -/
structure AgentProcess where
  credentials : AgentCredentials
  file : Option StoredCredentials
  /-- `config["agent_id"]` -/
  agentId : Option Nat
  /-- `config["auth_key"]` -/
  authKey : Value
  /-- `config["registration_key"]` -/
  registrationKey : Value
  registration : AgentRegistration := {}
  sender : HeartbeatSender := {}
  asked : List Asked := []
  /-- How often the agent looked at the file system, its clients and the clock. -/
  looks : Nat := 0

namespace AgentProcess

def looked (agent : AgentProcess) : AgentProcess := { agent with looks := agent.looks + 1 }

def record (request : AgentRequest) (response : Option ServerResponse) (agent : AgentProcess) :
    AgentProcess :=
  { agent with asked := agent.asked ++ [⟨request, response⟩] }

end AgentProcess

variable (out : Outside)

/-! ## Credentials -/

/-- A value as the file holds it: one that is false is left out. -/
def written (value : Value) : Value := if truthy value then value else .none

/-- The secret a save keeps: the one passed, else the one of the agent already held. -/
def savedSecret (agentId : Nat) (recoverySecret : Value) (held : AgentCredentials) : Value :=
  match recoverySecret with
  | .none => if held.agentId = some agentId then held.recoverySecret else .none
  | secret => secret

theorem written_of_truthy {value : Value} (counts : truthy value = true) :
    written value = value := if_pos counts

theorem savedSecret_of_truthy {agentId : Nat} {secret : Value} {held : AgentCredentials}
    (counts : truthy secret = true) : savedSecret agentId secret held = secret := by
  unfold savedSecret
  split
  · cases counts
  · rfl

theorem savedSecret_of_held {agentId : Nat} {held : AgentCredentials}
    (own : held.agentId = some agentId) :
    savedSecret agentId .none held = held.recoverySecret := if_pos own

/-- These credentials in memory and in the file. -/
def AgentProcess.stored (agentId : Nat) (apiKey recoverySecret : Value) (agent : AgentProcess) :
    AgentProcess :=
  { agent with
    file := some ⟨agentId, written apiKey, written recoverySecret⟩
    credentials := ⟨some agentId, apiKey, recoverySecret, false⟩ }

/-- `AgentCredentials.save` -/
def save (agentId : Nat) (apiKey recoverySecret : Value) (agent : AgentProcess) :
    Bool × AgentProcess :=
  if out.saves agent.looks then
    (true, agent.looked.stored agentId apiKey
      (savedSecret agentId recoverySecret agent.credentials))
  else (false, agent.looked)

def holdUnsaved (apiKey : Value) (agent : AgentProcess) : AgentProcess :=
  { agent with credentials := { agent.credentials with apiKey, unsaved := true } }

def holdUnsavedRegistration (agentId : Nat) (recoverySecret : Value) (agent : AgentProcess) :
    AgentProcess :=
  { agent with credentials := ⟨some agentId, .none, recoverySecret, true⟩ }

def retryUnsaved (agent : AgentProcess) : AgentProcess :=
  if agent.credentials.unsaved then
    match agent.credentials.agentId with
    | none => agent
    | some agentId =>
      (save out agentId agent.credentials.apiKey agent.credentials.recoverySecret agent).2
  else agent

/-- `AgentCredentials.clear`; a file that cannot be deleted stays. -/
def clear (agent : AgentProcess) : Bool × AgentProcess :=
  let agent := { agent with credentials := {} }
  match agent.file with
  | none => (true, agent)
  | some _ =>
    if out.unlinks agent.looks then (true, { agent.looked with file := none })
    else (false, agent.looked)

/-! ## Registration -/

/-- What a registration the server took leaves. -/
def takeRegistration (agentId : Nat) (recoverySecret : Value) (agent : AgentProcess) :
    AgentProcess :=
  let kept := match save out agentId .none recoverySecret agent with
    | (true, agent) => agent
    | (false, agent) => holdUnsavedRegistration agentId recoverySecret agent
  { kept with
    agentId := some agentId
    registration := { kept.registration with
      recoveryRefused := false
      recoveryNotBefore := 0
      lastRecovered := none
      recoveryGap := 0 } }

def registerWithServer (agent : AgentProcess) : Bool × AgentProcess :=
  let response := out.answer agent.asked .register
  let agent := agent.record .register response
  match response.bind ServerResponse.registered with
  | none => (false, agent)
  | some (agentId, secret) => (true, takeRegistration out agentId secret agent)

/-- Drop the stored credentials and register as a new agent. -/
def registerAfresh (agent : AgentProcess) : Bool × AgentProcess :=
  registerWithServer out { (clear out agent).2 with agentId := none }

def ensureRecoverable (agent : AgentProcess) : Bool × AgentProcess :=
  if truthy agent.credentials.apiKey || truthy agent.credentials.recoverySecret then (true, agent)
  else registerAfresh out agent

/-! ## Key recovery -/

/-- The wait a recovery at `now` sets before the next. -/
def AgentRegistration.recovered (now : ℚ) (registration : AgentRegistration) :
    AgentRegistration :=
  if registration.lastRecovered.any fun last => decide (now - last < 3600) then
    let gap := min (max (registration.recoveryGap * 2) 60) 3600
    { registration with
      recoveryGap := gap, recoveryNotBefore := now + gap, lastRecovered := some now }
  else { registration with recoveryGap := 0, lastRecovered := some now }

def holdBackRepeatedRecovery (agent : AgentProcess) : AgentProcess :=
  { agent.looked with registration := agent.registration.recovered (out.monotonic agent.looks) }

/-- What a key the server handed out leaves. -/
def takeKey (agentId : Nat) (apiKey : Value) (agent : AgentProcess) : AgentProcess :=
  let kept := match save out agentId apiKey .none (holdBackRepeatedRecovery out agent) with
    | (true, agent) => agent
    | (false, agent) => holdUnsaved apiKey agent
  { kept with authKey := apiKey }

/-- What a refused recovery leaves. -/
def AgentRegistration.refused (response : ServerResponse) (now : ℚ)
    (registration : AgentRegistration) : AgentRegistration :=
  if response.isRefusalStatus && !response.isMarkedRefusal then
    { registration with recoveryNotBefore := now + 60 }
  else if response.refusesRecoverySecret then { registration with secretRefused := true }
  else if response.refusesRegistrationKey then { registration with recoveryRefused := true }
  else if response.statusCode = 429 then
    { registration with recoveryNotBefore := now + response.retrySeconds }
  else registration

/-- The request of `recover_agent_key`, once nothing holds it back. -/
def askForKey (agentId : Nat) (agent : AgentProcess) : Bool × AgentProcess :=
  let response := out.answer agent.asked .recoverKey
  let agent := agent.record .recoverKey response
  match response with
  | none => (false, agent)
  | some response =>
    if response.isSuccess then
      match response.recoveredKey with
      | none => (false, agent)
      | some apiKey => (true, takeKey out agentId apiKey agent)
    else
      (false, { agent.looked with
        registration := agent.registration.refused response (out.monotonic agent.looks) })

def recoverAgentKey (agent : AgentProcess) : Bool × AgentProcess :=
  if agent.registration.recoveryRefused then (false, agent)
  else
    let now := out.monotonic agent.looks
    let agent := agent.looked
    if now < agent.registration.recoveryNotBefore then (false, agent)
    else if truthy agent.credentials.recoverySecret then
      match agent.agentId with
      | none => (false, agent)
      | some agentId =>
        if truthy agent.registrationKey then askForKey out agentId agent else (false, agent)
    else (false, (registerAfresh out agent).2)

/-! ## After a revoke -/

/-- The registration of `register_again_after_revoke`: the old credentials stay
until the server has taken it. -/
def registerAgain (agent : AgentProcess) : Bool × AgentProcess :=
  match registerWithServer out agent with
  | (true, agent) =>
    (true, { agent with
      registration := { agent.registration with secretRefused := false }
      authKey := agent.registrationKey })
  | (false, agent) =>
    (false, { agent.looked with
      registration := { agent.registration with
        registerAgainNotBefore := out.monotonic agent.looks + 300 } })

def registerAgainAfterRevoke (agent : AgentProcess) : Bool × AgentProcess :=
  let now := out.monotonic agent.looks
  let agent := agent.looked
  if now < agent.registration.registerAgainNotBefore then (false, agent)
  else if agent.registration.secretRefused then registerAgain out agent
  else
    match recoverAgentKey out agent with
    | (true, agent) => (false, agent)
    | (false, agent) =>
      if agent.registration.secretRefused then registerAgain out agent else (false, agent)

/-! ## The agent's callbacks -/

/-- A value, or none when moving the clients to a new key raised. -/
def moveClientsToAuthKey (value : Bool) (agent : AgentProcess) : Option Bool × AgentProcess :=
  (if out.moves agent.looks then some value else none, agent.looked)

def handleRecoverySecretRefused (agent : AgentProcess) : Option Bool × AgentProcess :=
  let (registered, after) := registerAgainAfterRevoke out agent
  if after.authKey = agent.authKey then (some registered, after)
  else moveClientsToAuthKey out registered after

def handleAgentApproved (agent : AgentProcess) : Option Bool × AgentProcess :=
  match recoverAgentKey out agent with
  | (true, agent) => moveClientsToAuthKey out true agent
  | (false, agent) =>
    if agent.registration.secretRefused then
      let (handled, agent) := handleRecoverySecretRefused out agent
      (handled.map fun _ => false, agent)
    else (some false, agent)

/-! ## Fetching the checks -/

/-- What `load_checks` leaves of the agent. A fetch after a re-registration is a
call within the one before, and `depth` is what the interpreter's stack takes. -/
def fetchChecks : Nat → AgentProcess → AgentProcess
  | 0, agent => agent
  | depth + 1, agent =>
    match agent.agentId with
    | none => agent
    | some _ =>
      let response := out.answer agent.asked .checks
      let agent := agent.record .checks response
      if (response.map (·.statusCode)) = some 404 then
        -- An agent the server does not know: its credentials are of no use.
        match clear out agent with
        | (false, agent) => agent
        | (true, agent) =>
          match registerWithServer out agent with
          | (false, agent) => agent
          | (true, agent) => fetchChecks depth agent
      else agent

/-! ## Heartbeats -/

/-- What else decides how one heartbeat is answered and read. -/
structure Beat where
  /-- Whether a setting of the answer raises before the approval is read. -/
  settingsRaise : Bool := false
  /-- Whether the checks are fetched again. -/
  syncs : Bool := false
  depth : Nat := 0

namespace AgentProcess

/-- Whether a heartbeat carries the recovery secret. -/
def sendsSecret (agent : AgentProcess) : Bool :=
  truthy agent.credentials.recoverySecret &&
    (!truthy agent.credentials.apiKey || agent.sender.keyRefused)

def noteKeyRefused (refused : Bool) (agent : AgentProcess) : AgentProcess :=
  { agent with sender := { agent.sender with keyRefused := refused } }

def noteSecretRefused (refused : Bool) (agent : AgentProcess) : AgentProcess :=
  { agent with sender := { agent.sender with secretRefused := refused } }

end AgentProcess

/-- `_own_key_refused`: what a heartbeat's answer tells of the agent's own key. The
outer none is a body that raises. -/
def ownKeyRefused (sentSecret : Bool) (response : ServerResponse) (agent : AgentProcess) :
    Option (Option Bool) :=
  if truthy agent.credentials.apiKey then
    match response.field "agent_key_accepted" with
    | none => none
    | some (.bool accepted) => some (some !accepted)
    | some _ => some (if sentSecret then none else some false)
  else some (some false)

/-- What is done on `_own_key_refused`. -/
def noteOwnKey (refused : Option Bool) (agent : AgentProcess) : AgentProcess :=
  match refused with
  | some true => agent.noteKeyRefused true
  | some false => retryUnsaved out (agent.noteKeyRefused false)
  | none => agent

/-- `_handle_agent_approval`; none when it raised. -/
def handleAgentApproval (response : ServerResponse) (agent : AgentProcess) :
    Option Unit × AgentProcess :=
  if response.field "approval_status" = some (.str (text "active")) &&
      !(truthy agent.credentials.apiKey && !agent.sender.keyRefused) then
    match handleAgentApproved out agent with
    | (none, agent) => (none, agent)
    | (some true, agent) => (some (), agent.noteKeyRefused false)
    | (some false, agent) => (some (), agent)
  else (some (), agent)

/-- The body of a 200 to a heartbeat. -/
def readAnswer (beat : Beat) (sentSecret : Bool) (response : ServerResponse)
    (agent : AgentProcess) : AgentProcess :=
  match response.json.bind fun _ => ownKeyRefused sentSecret response agent with
  | none => agent
  | some refused =>
    let agent := noteOwnKey out refused agent
    match response.json with
    | some (.dict _) =>
      if beat.settingsRaise then agent
      else
        match handleAgentApproval out response agent with
        | (none, agent) => agent
        | (some (), agent) => if beat.syncs then fetchChecks out beat.depth agent else agent
    | _ => agent

/-- `_read_refusal` -/
def readRefusal (sentSecret : Bool) (response : ServerResponse) (agent : AgentProcess) :
    AgentProcess :=
  if response.isMarkedRefusal then
    if sentSecret then
      if response.refusesRecoverySecret then agent.noteSecretRefused true else agent
    else if truthy agent.credentials.apiKey &&
        (response.refusesAgentKey || response.refusesRegistrationKey) then
      agent.noteKeyRefused true
    else agent
  else agent

/-- `_register_again_if_refused` -/
def registerAgainIfRefused (agent : AgentProcess) : AgentProcess :=
  if agent.sender.secretRefused then
    match handleRecoverySecretRefused out agent with
    | (some true, agent) => (agent.noteSecretRefused false).noteKeyRefused false
    | (_, agent) => agent
  else agent

/-- One round of `send_heartbeat`. -/
def sendHeartbeat (beat : Beat) (agent : AgentProcess) : AgentProcess :=
  let sentSecret := agent.sendsSecret
  let response := out.answer agent.asked (.heartbeat sentSecret)
  let agent := agent.record (.heartbeat sentSecret) response
  match response with
  | none => agent
  | some response =>
    if response.statusCode = 200 then
      registerAgainIfRefused out
        ((readAnswer out beat sentSecret response agent).noteSecretRefused false)
    else registerAgainIfRefused out (readRefusal sentSecret response agent)

/-! ## Runs -/

/-- What an agent does that its credentials depend on. -/
inductive Turn where
  | start
  | loadChecks (depth : Nat)
  | heartbeat (beat : Beat)

def takeTurn (agent : AgentProcess) : Turn → AgentProcess
  | .start => (ensureRecoverable out agent).2
  | .loadChecks depth => fetchChecks out depth agent
  | .heartbeat beat => sendHeartbeat out beat agent

/-- The agent after its turns. -/
def runTurns (turns : List Turn) (agent : AgentProcess) : AgentProcess :=
  turns.foldl (takeTurn out) agent

end LuxSwirl.Agent
