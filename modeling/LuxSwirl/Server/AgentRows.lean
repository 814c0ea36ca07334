import LuxSwirl.Lib.Interleaving
import LuxSwirl.Lib.Sessions
import LuxSwirl.Server.Models

/-!
# Requests on one agent row

`agent_core_service.py`, `agent_crud.py`, and the checks of an agent's credential in
`security.py`: operators move an agent through its lifecycle and change its key, while
its heartbeats arrive. Each request is a transaction at READ COMMITTED. Most read the
row, judge that copy, and at their flush write the columns they changed by primary
key; `AgentCRUD.lock` takes the row lock first and reloads the copy, what was changed
on it included.
-/

namespace LuxSwirl.Server
open LuxSwirl.Py LuxSwirl.Lib

/-- A row of `agents`, as far as these requests read or write it; of what a heartbeat
reports, the time it was received. -/
structure AgentRow where
  approvalStatus : AgentApprovalStatus := .pending
  statusReason : Option Text := none
  statusChangedAt : Option Time := none
  approvedAt : Option Time := none
  apiKeyHash : Option Text := none
  apiKeyCreatedAt : Option Time := none
  apiKeyLastUsed : Option Time := none
  recoverySecretHash : Option Text := none
  lastSeen : Option Time := none
  deriving DecidableEq

/-- `save_agent`: what was set on a copy that was read, on the stored row. -/
def AgentRow.flush (read set stored : AgentRow) : AgentRow where
  approvalStatus := flushColumn read.approvalStatus set.approvalStatus stored.approvalStatus
  statusReason := flushColumn read.statusReason set.statusReason stored.statusReason
  statusChangedAt := flushColumn read.statusChangedAt set.statusChangedAt stored.statusChangedAt
  approvedAt := flushColumn read.approvedAt set.approvedAt stored.approvedAt
  apiKeyHash := flushColumn read.apiKeyHash set.apiKeyHash stored.apiKeyHash
  apiKeyCreatedAt := flushColumn read.apiKeyCreatedAt set.apiKeyCreatedAt stored.apiKeyCreatedAt
  apiKeyLastUsed := flushColumn read.apiKeyLastUsed set.apiKeyLastUsed stored.apiKeyLastUsed
  recoverySecretHash := flushColumn read.recoverySecretHash set.recoverySecretHash stored.recoverySecretHash
  lastSeen := flushColumn read.lastSeen set.lastSeen stored.lastSeen

/-! ## What operators do -/

/-- `_APPROVABLE` -/
def approvable : List AgentApprovalStatus := [.pending, .rejected]

/-- `_DISABLEABLE` -/
def disableable : List AgentApprovalStatus := [.active, .paused]

/-- `_ARCHIVABLE` -/
def archivable : List AgentApprovalStatus := [.active, .paused, .disabled]

inductive AgentAction where
  | approve (keyHash : Text)
  | reject (reason : Option Text)
  | pause (reason : Option Text)
  | resume
  | disable (reason : Option Text)
  | enable
  | archive
  | restore
  deriving DecidableEq

namespace AgentAction

/-- The statuses `_require_status` lets the action move an agent from. -/
def allowed : AgentAction → List AgentApprovalStatus
  | .approve _ => approvable
  | .reject _ => [.pending]
  | .pause _ => [.active]
  | .resume => [.paused]
  | .disable _ => disableable
  | .enable => [.disabled]
  | .archive => archivable
  | .restore => [.archived]

def target : AgentAction → AgentApprovalStatus
  | .approve _ => .active
  | .reject _ => .rejected
  | .pause _ => .paused
  | .resume => .active
  | .disable _ => .disabled
  | .enable => .active
  | .archive => .archived
  | .restore => .disabled

/-- An action other than an approval, on the copy it read. -/
def move (status : AgentApprovalStatus) (reason : Option Text) (now : Time) (agent : AgentRow) : AgentRow :=
  { agent with approvalStatus := status, statusReason := reason, statusChangedAt := some now }

def apply (now : Time) (agent : AgentRow) : AgentAction → AgentRow
  | .approve keyHash =>
    { agent with
      approvalStatus := .active
      apiKeyHash := some keyHash
      apiKeyCreatedAt := some now
      approvedAt := some now
      statusChangedAt := some now }
  | .reject reason => move .rejected reason now agent
  | .pause reason => move .paused reason now agent
  | .resume => move .active none now agent
  | .disable reason => move .disabled reason now agent
  | .enable => move .active none now agent
  | .archive => move .archived none now agent
  | .restore => move .disabled none now agent

/-- Only an approval takes the row lock. -/
def locks : AgentAction → Bool
  | .approve _ => true
  | _ => false

end AgentAction

inductive KeyAction where
  /-- `regenerate_agent_key` -/
  | regenerate (keyHash : Text)
  /-- `revoke_agent_key` -/
  | revoke

def KeyAction.apply (now : Time) (agent : AgentRow) : KeyAction → AgentRow
  | .regenerate keyHash =>
    { agent with apiKeyHash := some keyHash, apiKeyCreatedAt := some now, apiKeyLastUsed := none }
  | .revoke =>
    { agent with
      apiKeyHash := none, apiKeyCreatedAt := none, apiKeyLastUsed := none, recoverySecretHash := none }

/-! ## A heartbeat's credential -/

/-- A heartbeat's headers: the token of a well-formed Authorization, and the secret. -/
structure Heartbeat where
  token : Option Text := none
  recoverySecret : Option Text := none

inductive AgentRefusal where
  | unauthorized
  | forbidden
  | tooManyRequests
  deriving DecidableEq

/-- The setting, and the comparisons of `bcrypt_secret.py`, `recovery_secret.py` and
`agent_key.py`. -/
structure AgentSecurity where
  authEnabled : Bool
  /-- false as well where the comparison fails -/
  bcryptMatches : Text → Text → Bool
  recoverySecretDigest : Text → Text
  holdsAgentKey : Text → Bool

/-- The rest of what decides on a pending credential: the budget of refused ones, and
whether the token is a registration key. -/
structure PendingAttempt where
  reserved : Bool := true
  registrationKey : Bool := false

/-- A heartbeat, once authenticated, with what its credential was checked against. -/
structure HeartbeatSender where
  heartbeat : Heartbeat
  usingAgentKey : Bool
  verifiedKeyHash : Option Text
  verifiedSecretHash : Option Text

namespace AgentSecurity

variable (security : AgentSecurity)

def recoverySecretMatches (stored presented : Option Text) : Bool :=
  decide (some (security.recoverySecretDigest (presented.getD [])) = stored) &&
    presented.any fun secret => decide (secret ≠ [])

/-- `verify_agent_token` -/
def verifyAgentToken (agent : AgentRow) (token : Option Text) : Except AgentRefusal Unit :=
  if !security.authEnabled then .ok ()
  else
    match token, agent.apiKeyHash with
    | some token, some keyHash =>
      if !security.bcryptMatches token keyHash then .error .unauthorized
      else if agent.approvalStatus ≠ .active then .error .forbidden
      else .ok ()
    | _, _ => .error .unauthorized

/-- `verify_agent_recovery_secret` -/
def verifyAgentRecoverySecret (agent : AgentRow) (secret : Option Text) : Except AgentRefusal Unit :=
  if !security.authEnabled || security.recoverySecretMatches agent.recoverySecretHash secret then .ok ()
  else .error .unauthorized

def verifyRegistrationToken (attempt : PendingAttempt) (token : Option Text) : Except AgentRefusal Unit :=
  if !security.authEnabled || (token.isSome && attempt.registrationKey) then .ok () else .error .unauthorized

/-- The pending credential: its secret, or the registration key. -/
def authenticatePending (agent : AgentRow) (heartbeat : Heartbeat) (attempt : PendingAttempt) :
    Except AgentRefusal Bool :=
  if security.authEnabled && heartbeat.recoverySecret.isNone && heartbeat.token.any security.holdsAgentKey then
    .error .unauthorized
  else if !attempt.reserved then .error .tooManyRequests
  else
    (if heartbeat.recoverySecret.isSome then
      security.verifyAgentRecoverySecret agent heartbeat.recoverySecret
    else security.verifyRegistrationToken attempt heartbeat.token).map fun _ => false

/-- `authenticate_heartbeat`; true when the agent's own key was used. -/
def authenticateHeartbeat (agent : AgentRow) (heartbeat : Heartbeat) (attempt : PendingAttempt) :
    Except AgentRefusal Bool :=
  if agent.apiKeyHash.isSome then
    match security.verifyAgentToken agent heartbeat.token with
    | .ok () => .ok true
    | .error .unauthorized => security.authenticatePending agent heartbeat attempt
    | .error refusal => .error refusal
  else security.authenticatePending agent heartbeat attempt

/-- `require_heartbeat_sender` -/
def requireHeartbeatSender (agent : AgentRow) (heartbeat : Heartbeat) (attempt : PendingAttempt) :
    Except AgentRefusal HeartbeatSender :=
  (security.authenticateHeartbeat agent heartbeat attempt).map fun usingAgentKey =>
    { heartbeat
      usingAgentKey
      verifiedKeyHash := if usingAgentKey then agent.apiKeyHash else none
      verifiedSecretHash :=
        if !usingAgentKey && heartbeat.recoverySecret.isSome then agent.recoverySecretHash else none }

end AgentSecurity

/-- What a heartbeat did: the metric it stored, if it was applied, whether it asked for
jobs, and what it answers. -/
structure HeartbeatOutcome where
  metric : Option Time
  jobs : Bool
  agentKeyAccepted : Bool
  approvalStatus : AgentApprovalStatus

/-- `process_heartbeat`, on the row as locked: the row it leaves, and the outcome. -/
def processHeartbeat (security : AgentSecurity) (sender : HeartbeatSender) (now : Time) (agent : AgentRow) :
    Except AgentRefusal (AgentRow × HeartbeatOutcome) :=
  -- a key revoked or regenerated since it was checked
  let usingAgentKey := sender.usingAgentKey && decide (agent.apiKeyHash = sender.verifiedKeyHash)
  if security.authEnabled && usingAgentKey && decide (agent.approvalStatus ≠ .active) then .error .forbidden
  else if sender.verifiedSecretHash.isSome && decide (agent.recoverySecretHash ≠ sender.verifiedSecretHash) then
    .error .unauthorized
  else
    let applied := usingAgentKey || (decide (agent.approvalStatus = .pending) && agent.apiKeyHash.isNone)
    .ok
      (if applied then { agent with lastSeen := some now } else agent,
        { metric := if applied then some now else none
          jobs := usingAgentKey
          agentKeyAccepted := usingAgentKey
          approvalStatus := agent.approvalStatus })

/-! ## Statement by statement -/

inductive AgentRequest where
  | act (action : AgentAction)
  /-- `generate_agent_key` -/
  | generate (keyHash : Text)
  | changeKey (change : KeyAction)
  | heartbeat (heartbeat : Heartbeat)

inductive AgentSession where
  | unopened
  | opened (request : AgentRequest)
  /-- An action that takes no lock has read the row, in a status it may move. -/
  | found (action : AgentAction) (read : AgentRow)
  /-- An approval holds the row, -/
  | approving (keyHash : Text) (read : AgentRow)
  /-- or a change of the key does. -/
  | rekeying (change : KeyAction) (read : AgentRow)
  /-- `claim_initial_api_key` has found no key, and waits for the row. -/
  | claiming (keyHash : Text)
  /-- What an operator asked for is written. -/
  | wrote (action : Option AgentAction)
  /-- A heartbeat's credential was accepted, -/
  | accepted (sender : HeartbeatSender)
  /-- it holds the row, -/
  | locked (sender : HeartbeatSender) (read : AgentRow)
  /-- and it is processed. -/
  | processed (sender : HeartbeatSender) (outcome : HeartbeatOutcome)
  | closed

/-- The stored row, the sessions, and the times of the agent's metric rows. -/
structure AgentServer where
  stored : Stored Id AgentRow
  sessions : Id → AgentSession := fun _ => .unopened
  metrics : List Time := []

inductive AgentStatement where
  | openSession (id : Id) (request : AgentRequest)
  | read (id : Id) (attempt : PendingAttempt)
  | lock (id : Id)
  | issue (id : Id)
  | execute (id : Id) (now : Time)
  | flush (id : Id) (now : Time)
  | process (id : Id) (now : Time)
  | commit (id : Id)
  | rollback (id : Id)

namespace AgentServer

variable (security : AgentSecurity)

def setSession (id : Id) (session : AgentSession) (server : AgentServer) : AgentServer :=
  { server with sessions := Function.update server.sessions id session }

/-- What a request does with the copy it read without a lock; a refusal ends it. -/
def readNext (attempt : PendingAttempt) (agent : AgentRow) : AgentRequest → Option AgentSession
  | .act action =>
    if action.locks then none
    else some (if agent.approvalStatus ∈ action.allowed then .found action agent else .closed)
  | .heartbeat heartbeat =>
    some
      (match security.requireHeartbeatSender agent heartbeat attempt with
      | .ok sender => .accepted sender
      | .error _ => .closed)
  | _ => none

def read (id : Id) (attempt : PendingAttempt) (server : AgentServer) : Option AgentServer :=
  match server.sessions id with
  | .opened request =>
    (readNext security attempt server.stored.committed request).map fun session => server.setSession id session
  | _ => none

/-- What a session does with the row once it has locked it. -/
def lockNext (agent : AgentRow) : AgentSession → Option AgentSession
  | .opened (.act (.approve keyHash)) => some (.approving keyHash agent)
  | .opened (.changeKey change) => some (.rekeying change agent)
  | .accepted sender => some (.locked sender agent)
  | _ => none

/-- `AgentCRUD.lock`, and the reads of the locked row. -/
def lock (id : Id) (server : AgentServer) : Option AgentServer :=
  (server.stored.found id).bind fun agent =>
    (lockNext agent (server.sessions id)).map fun session =>
      { server.setSession id session with stored := server.stored.write id agent }

/-- The condition of `claim_initial_api_key` on what is committed. -/
def issue (id : Id) (server : AgentServer) : Option AgentServer :=
  match server.sessions id with
  | .opened (.generate keyHash) =>
    some (server.setSession id (if server.stored.committed.apiKeyHash.isNone then .claiming keyHash else .closed))
  | _ => none

/-- And again on the row it gets. -/
def execute (id : Id) (now : Time) (server : AgentServer) : Option AgentServer :=
  match server.sessions id, server.stored.found id with
  | .claiming keyHash, some agent =>
    if agent.apiKeyHash.isNone then
      some
        { server.setSession id (.wrote none) with
          stored := server.stored.write id
            { agent with apiKeyHash := some keyHash, apiKeyCreatedAt := some now } }
    else some (server.setSession id .closed)
  | _, _ => none

/-- What a flush writes: the copy that was read, and as set on it. An approval that
finds another status than it may move is refused, and rolls back. -/
def flushed (now : Time) : AgentSession → Option (Option AgentAction × AgentRow × AgentRow)
  | .found action read => some (some action, read, action.apply now read)
  | .approving keyHash read =>
    if read.approvalStatus ∈ approvable then
      some (some (.approve keyHash), read, AgentAction.apply now read (.approve keyHash))
    else none
  | .rekeying change read => some (none, read, change.apply now read)
  | _ => none

def flush (id : Id) (now : Time) (server : AgentServer) : Option AgentServer :=
  match flushed now (server.sessions id), server.stored.found id with
  | some (action, read, set), some agent =>
    some
      { server.setSession id (.wrote action) with
        stored := server.stored.write id (AgentRow.flush read set agent) }
  | _, _ => none

def process (id : Id) (now : Time) (server : AgentServer) : Option AgentServer :=
  match server.sessions id with
  | .locked sender read =>
    match processHeartbeat security sender now read with
    | .ok (agent, outcome) =>
      some
        { server.setSession id (.processed sender outcome) with
          stored := server.stored.write id agent }
    | .error _ => some { server.setSession id .closed with stored := server.stored.rollback id }
  | _ => none

def commit (id : Id) (server : AgentServer) : Option AgentServer :=
  match server.sessions id with
  | .wrote _ => some { server.setSession id .closed with stored := server.stored.commit id }
  | .processed _ outcome =>
    some
      { server.setSession id .closed with
        stored := server.stored.commit id
        metrics := outcome.metric.toList ++ server.metrics }
  | _ => none

def rollback (id : Id) (server : AgentServer) : Option AgentServer :=
  match server.sessions id with
  | .unopened | .closed => none
  | _ => some { server.setSession id .closed with stored := server.stored.rollback id }

/-- The server after a statement, if it can run now. -/
def step : AgentStatement → AgentServer → Option AgentServer
  | .openSession id request, server =>
    match server.sessions id with
    | .unopened => some (server.setSession id (.opened request))
    | _ => none
  | .read id attempt, server => server.read security id attempt
  | .lock id, server => server.lock id
  | .issue id, server => server.issue id
  | .execute id now, server => server.execute id now
  | .flush id now, server => server.flush id now
  | .process id now, server => server.process security id now
  | .commit id, server => server.commit id
  | .rollback id, server => server.rollback id

section Statements

variable {security} {id : Id} {attempt : PendingAttempt} {agent : AgentRow} {session after : AgentSession}
  {request : AgentRequest} {server next : AgentServer}

/-- A read is of an opened session, and goes by the row that is committed. -/
theorem read_eq_some (isRead : server.read security id attempt = some next) :
    ∃ request after, server.sessions id = .opened request ∧
      readNext security attempt server.stored.committed request = some after ∧ next = server.setSession id after := by
  rw [read] at isRead
  split at isRead
  · rename_i request session
    obtain ⟨after, isNext, rfl⟩ := Option.map_eq_some_iff.mp isRead
    exact ⟨request, after, session, isNext, rfl⟩
  · cases isRead

/-- It finds the row in a status the action is allowed in, accepts the heartbeat's
sender, or closes the session. -/
theorem readNext_cases (isNext : readNext security attempt agent request = some after) :
    (∃ action, request = .act action ∧ agent.approvalStatus ∈ action.allowed ∧ after = .found action agent) ∨
      (∃ heartbeat sender, request = .heartbeat heartbeat ∧
        security.requireHeartbeatSender agent heartbeat attempt = .ok sender ∧ after = .accepted sender) ∨
      after = .closed := by
  cases request with
  | act action =>
    rw [readNext] at isNext
    split_ifs at isNext with locks allowed
    · cases isNext
      exact .inl ⟨action, rfl, allowed, rfl⟩
    · cases isNext
      exact .inr (.inr rfl)
  | heartbeat heartbeat =>
    rw [readNext] at isNext
    cases accepted : security.requireHeartbeatSender agent heartbeat attempt with
    | ok sender =>
      rw [accepted] at isNext
      cases isNext
      exact .inr (.inl ⟨heartbeat, sender, rfl, accepted, rfl⟩)
    | error refusal =>
      rw [accepted] at isNext
      cases isNext
      exact .inr (.inr rfl)
  | generate keyHash => cases isNext
  | changeKey change => cases isNext

/-- A lock is of a row that is found, which it then writes back as it is. -/
theorem lock_eq_some (isLocked : server.lock id = some next) :
    ∃ agent after, server.stored.found id = some agent ∧ lockNext agent (server.sessions id) = some after ∧
      next = { server.setSession id after with stored := server.stored.write id agent } := by
  obtain ⟨agent, found, mapped⟩ := Option.bind_eq_some_iff.mp isLocked
  obtain ⟨after, isNext, rfl⟩ := Option.map_eq_some_iff.mp mapped
  exact ⟨agent, after, found, isNext, rfl⟩

/-- It is an approval's, a key change's or an accepted heartbeat's. -/
theorem lockNext_cases (isNext : lockNext agent session = some after) :
    (∃ keyHash, session = .opened (.act (.approve keyHash)) ∧ after = .approving keyHash agent) ∨
      (∃ change, session = .opened (.changeKey change) ∧ after = .rekeying change agent) ∨
      ∃ sender, session = .accepted sender ∧ after = .locked sender agent := by
  unfold lockNext at isNext
  split at isNext
  · cases isNext
    exact .inl ⟨_, rfl, rfl⟩
  · cases isNext
    exact .inr (.inl ⟨_, rfl, rfl⟩)
  · cases isNext
    exact .inr (.inr ⟨_, rfl, rfl⟩)
  · cases isNext

end Statements

/-- No request was opened yet. -/
structure Fresh (server : AgentServer) : Prop where
  free : server.stored.held = none
  unopened : ∀ id, server.sessions id = .unopened

end AgentServer

end LuxSwirl.Server
