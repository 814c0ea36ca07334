import LuxSwirl.Server.Heartbeats

/-!
# The keys of an agent

Operators issue an agent its key (`approve_agent`, `generate_agent_key`,
`regenerate_agent_key`) and revoke it, and an agent gets itself another with the secret of its
registration (`recover_agent_key`), while its heartbeats and the other actions run on the
same row.

`KeyHistory` is what the key and the secret are for: a machine of three events, each on the
row it found. In every order of the requests' statements, what is committed of them goes by
such a history (`Sound.step`); so the stored key is the newest one issued, and no secret gets
one after a revoke (`keys_follow_history`).
-/

namespace LuxSwirl.Server
open LuxSwirl.Py LuxSwirl.Lib

/-! ## Credentials by their events -/

/-- What a row holds of credentials. -/
structure Credentials where
  apiKeyHash : Option Text
  recoverySecretHash : Option Text
  deriving DecidableEq

def AgentRow.credentials (agent : AgentRow) : Credentials := ⟨agent.apiKeyHash, agent.recoverySecretHash⟩

inductive KeyEvent where
  /-- An operator had a key made. -/
  | issued (keyHash : Text)
  /-- The agent did, with what it presented for its secret. -/
  | recovered (keyHash : Text) (recoverySecret : Option Text)
  | revoked
  deriving DecidableEq

/-- The key an event leaves. -/
def KeyEvent.key : KeyEvent → Option Text
  | .issued keyHash | .recovered keyHash _ => some keyHash
  | .revoked => none

def KeyEvent.apply (credentials : Credentials) (event : KeyEvent) : Credentials where
  apiKeyHash := event.key
  recoverySecretHash := if event = .revoked then none else credentials.recoverySecretHash

/-- `recover_agent_key`, on the row it locked: what is presented is the secret on record, and
the agent is active. -/
def AgentSecurity.recoverAgentKey (security : AgentSecurity) (agent : AgentRow) (recoverySecret : Option Text) :
    Except AgentRefusal Unit :=
  if !security.recoverySecretMatches agent.recoverySecretHash recoverySecret then .error .unauthorized
  else if agent.approvalStatus ≠ .active then .error .forbidden
  else .ok ()

/-- A row on which the event may come. -/
def KeyEvent.Lawful (security : AgentSecurity) (agent : AgentRow) : KeyEvent → Prop
  | .recovered _ recoverySecret => security.recoverAgentKey agent recoverySecret = .ok ()
  | _ => True

/-- Events, each on a row with the credentials the ones before it left, and those they leave. -/
inductive KeyHistory (security : AgentSecurity) (registered : Credentials) :
    List (KeyEvent × AgentRow) → Credentials → Prop
  | start : KeyHistory security registered [] registered
  | event {events : List (KeyEvent × AgentRow)} {agent : AgentRow} {event : KeyEvent}
      (before : KeyHistory security registered events agent.credentials) (lawful : event.Lawful security agent) :
      KeyHistory security registered (events ++ [(event, agent)]) (event.apply agent.credentials)

namespace KeyHistory

variable {security : AgentSecurity} {registered credentials : Credentials} {events : List (KeyEvent × AgentRow)}

/-- The key is that of the newest event. -/
theorem apiKeyHash (history : KeyHistory security registered events credentials) :
    credentials.apiKeyHash = (events.getLast?.map fun entry => entry.1.key).getD registered.apiKeyHash := by
  cases history with
  | start => rfl
  | event before lawful =>
    rw [List.getLast?_append]
    rfl

/-- The secret stays until a revoke voids it. -/
theorem recoverySecretHash (history : KeyHistory security registered events credentials) :
    credentials.recoverySecretHash =
      if .revoked ∈ events.map Prod.fst then none else registered.recoverySecretHash := by
  induction history with
  | start => rfl
  | @event events agent event before lawful ih =>
    rw [KeyEvent.apply]
    dsimp only
    rw [ih]
    by_cases now : event = .revoked
    · simp [now]
    · have other : KeyEvent.revoked ≠ event := fun same => now same.symm
      have same : .revoked ∈ (events ++ [(event, agent)]).map Prod.fst ↔ .revoked ∈ events.map Prod.fst := by
        simp [other]
      rw [if_neg now]
      exact (if_congr same rfl rfl).symm

/-- Each event is lawful on its row, which has the credentials that those before it left. -/
theorem before (history : KeyHistory security registered events credentials)
    {done rest : List (KeyEvent × AgentRow)} {event : KeyEvent} {agent : AgentRow}
    (whole : events = done ++ (event, agent) :: rest) :
    KeyHistory security registered done agent.credentials ∧ event.Lawful security agent := by
  induction history generalizing done rest with
  | start => simp at whole
  | @event events found last history lawful ih =>
    rcases List.eq_nil_or_concat rest with rfl | ⟨others, final, rfl⟩
    · obtain ⟨rfl, same⟩ := List.append_inj' whole rfl
      cases same
      exact ⟨history, lawful⟩
    · rw [List.concat_eq_append, ← List.cons_append, ← List.append_assoc] at whole
      exact ih (List.append_inj' whole rfl).1

end KeyHistory

/-! ## Recoveries among the other requests -/

/-- The server, with what recoveries present, what sessions have written of the credentials,
and what was committed of that. -/
structure KeyServer extends AgentServer where
  presented : Id → Option (Option Text) := fun _ => none
  writing : Id → Option KeyEvent := fun _ => none
  events : List (KeyEvent × AgentRow) := []

inductive KeyStatement where
  | openRecovery (id : Id) (recoverySecret : Option Text) (keyHash : Text)
  | agent (statement : AgentStatement)

/-- What a session that writes now writes of the credentials. -/
def keyEvent (presented : Option (Option Text)) : AgentSession → Option KeyEvent
  | .approving keyHash _ | .claiming keyHash => some (.issued keyHash)
  | .rekeying (.regenerate keyHash) _ =>
    some
      (match presented with
      | some recoverySecret => .recovered keyHash recoverySecret
      | none => .issued keyHash)
  | .rekeying .revoke _ => some .revoked
  | _ => none

namespace KeyServer

variable (security : AgentSecurity)

/-- A recovery is a `regenerate_agent_key` with a check before it. -/
def openRecovery (id : Id) (recoverySecret : Option Text) (keyHash : Text) (server : KeyServer) : Option KeyServer :=
  (AgentServer.step security (.openSession id (.changeKey (.regenerate keyHash))) server.toAgentServer).map
    fun agents =>
      { server with
        toAgentServer := agents
        presented := Function.update server.presented id (some recoverySecret) }

/-- A recovery that is refused on the row it locked rolls back. -/
def judge (id : Id) (server : KeyServer) : KeyServer :=
  match server.sessions id, server.presented id with
  | .rekeying _ agent, some recoverySecret =>
    match security.recoverAgentKey agent recoverySecret with
    | .ok () => server
    | .error _ =>
      { server with
        toAgentServer := { server.setSession id .closed with stored := server.stored.rollback id } }
  | _, _ => server

def write (id : Id) (agents : AgentServer) (server : KeyServer) : KeyServer :=
  { server with
    toAgentServer := agents
    writing := Function.update server.writing id (keyEvent (server.presented id) (server.sessions id)) }

def commit (id : Id) (agents : AgentServer) (server : KeyServer) : KeyServer :=
  { server with
    toAgentServer := agents
    events := server.events ++ ((server.writing id).map fun event => (event, server.stored.committed)).toList }

def step : KeyStatement → KeyServer → Option KeyServer
  | .openRecovery id recoverySecret keyHash, server => server.openRecovery security id recoverySecret keyHash
  | .agent statement, server =>
    (AgentServer.step security statement server.toAgentServer).map fun agents =>
      match statement with
      | .lock id => { server with toAgentServer := agents }.judge security id
      | .execute id _ | .flush id _ => server.write id agents
      | .commit id => server.commit id agents
      | _ => { server with toAgentServer := agents }

end KeyServer

/-! ## What is known of a session -/

/-- A session with what it presents and what it has written. -/
structure KeySession where
  session : AgentSession
  presented : Option (Option Text)
  writing : Option KeyEvent

/-- What is known of it from what is committed and its own version of the row. -/
def KeySession.Fits (security : AgentSecurity) (known : KeySession) (committed : AgentRow) (own : Option AgentRow) :
    Prop :=
  match known.session with
  | .found action _ => own = none ∧ known.writing = none ∧ action.locks = false
  | .approving _ read | .locked _ read => own = some committed ∧ read = committed ∧ known.writing = none
  | .rekeying _ read => own = some committed ∧ read = committed ∧ known.writing = none ∧
      ∀ recoverySecret ∈ known.presented, security.recoverAgentKey committed recoverySecret = .ok ()
  | .wrote _ => ∃ row, own = some row ∧
      row.credentials = (known.writing.map (KeyEvent.apply committed.credentials)).getD committed.credentials ∧
      ∀ event ∈ known.writing, event.Lawful security committed
  | .processed _ _ => ∃ row, own = some row ∧ row.credentials = committed.credentials ∧ known.writing = none
  | .closed => own = none
  | _ => own = none ∧ known.writing = none

/-- What is known of a session that has written nothing outlasts the others' commits. -/
theorem KeySession.Fits.after {security : AgentSecurity} {known : KeySession} {committed : AgentRow}
    (fits : known.Fits security committed none) (row : AgentRow) : known.Fits security row none := by
  obtain ⟨session, presented, writing⟩ := known
  cases session with
  | approving keyHash read => cases fits.1
  | rekeying change read => cases fits.1
  | locked sender read => cases fits.1
  | wrote action =>
    obtain ⟨own, isOwn, -⟩ := fits
    cases isOwn
  | processed sender outcome =>
    obtain ⟨own, isOwn, -⟩ := fits
    cases isOwn
  | _ => exact fits

section Flushes

variable {read set stored : AgentRow}

/-- What is flushed over the row as it was read is what was set. -/
theorem AgentRow.flush_read : AgentRow.flush read set read = set := by
  have column {α : Type} [DecidableEq α] (old new : α) : flushColumn old new old = new := by
    unfold flushColumn
    split_ifs with same
    · exact same.symm
    · rfl
  simp only [AgentRow.flush, column]

theorem AgentRow.credentials_flush (same : set.credentials = read.credentials) :
    (AgentRow.flush read set stored).credentials = stored.credentials := by
  obtain ⟨sameKey, sameSecret⟩ := Credentials.mk.injEq .. ▸ same
  show (⟨flushColumn read.apiKeyHash set.apiKeyHash _, flushColumn read.recoverySecretHash set.recoverySecretHash _⟩ :
    Credentials) = _
  rw [flushColumn, if_pos sameKey, flushColumn, if_pos sameSecret]
  rfl

/-- An action that takes no lock sets no credentials. -/
theorem AgentAction.credentials_apply {action : AgentAction} (unlocked : action.locks = false) (now : Time) :
    (action.apply now read).credentials = read.credentials := by
  cases action with
  | approve keyHash => cases unlocked
  | _ => rfl

theorem credentials_processHeartbeat {security : AgentSecurity} {sender : HeartbeatSender} {now : Time}
    {agent after : AgentRow} {outcome : HeartbeatOutcome}
    (processed : processHeartbeat security sender now agent = .ok (after, outcome)) :
    after.credentials = agent.credentials := by
  unfold processHeartbeat at processed
  dsimp only at processed
  split_ifs at processed <;> cases processed <;> rfl

end Flushes

namespace KeyServer

variable {security : AgentSecurity} {registered : Credentials} {server next : KeyServer} {id : Id}

def known (server : KeyServer) (id : Id) : KeySession := ⟨server.sessions id, server.presented id, server.writing id⟩

/-- One session moves. -/
theorem known_eq {session : AgentSession} {presented : Option (Option Text)} {writing : Option KeyEvent}
    (isSession : next.sessions = Function.update server.sessions id session)
    (isPresented : next.presented = Function.update server.presented id presented)
    (isWriting : next.writing = Function.update server.writing id writing) :
    next.known = Function.update server.known id ⟨session, presented, writing⟩ := by
  funext other
  rw [known, isSession, isPresented, isWriting]
  by_cases same : other = id
  · subst same
    simp only [Function.update_self]
  · simp only [Function.update_of_ne same]
    rfl

/-- It alone. -/
theorem known_setSession (session : AgentSession) (stored : Stored Id AgentRow) (metrics : List Time)
    (events : List (KeyEvent × AgentRow)) :
    ({ server with
      sessions := Function.update server.sessions id session, stored, metrics, events } : KeyServer).known =
      Function.update server.known id ⟨session, server.presented id, server.writing id⟩ :=
  known_eq rfl (Function.update_eq_self ..).symm (Function.update_eq_self ..).symm

/-- Every session fits, and what is committed goes by a history. -/
structure Sound (security : AgentSecurity) (registered : Credentials) (server : KeyServer) : Prop where
  fits : Fit (fun _ known => known.Fits security) server.stored server.known
  history : KeyHistory security registered server.events server.stored.committed.credentials

namespace Sound

variable {known : KeySession} {old row : AgentRow}

theorem goOn (sound : server.Sound security registered) (isKnown : next.known = Function.update server.known id known)
    (stored : next.stored = server.stored) (events : next.events = server.events)
    (fits : known.Fits security server.stored.committed (server.stored.own id)) : next.Sound security registered := by
  refine ⟨?_, ?_⟩
  · rw [isKnown, stored]
    exact sound.fits.goOn fits
  · rw [events, stored]
    exact sound.history

theorem write (sound : server.Sound security registered) (isKnown : next.known = Function.update server.known id known)
    (stored : next.stored = server.stored.write id row) (events : next.events = server.events)
    (found : server.stored.found id = some old) (fits : known.Fits security server.stored.committed (some row)) :
    next.Sound security registered := by
  refine ⟨?_, ?_⟩
  · rw [isKnown, stored]
    exact sound.fits.write found fits
  · rw [events, stored]
    exact sound.history

theorem rollback (sound : server.Sound security registered)
    (isKnown : next.known = Function.update server.known id known)
    (stored : next.stored = server.stored.rollback id) (events : next.events = server.events)
    (fits : known.Fits security server.stored.committed none) : next.Sound security registered := by
  refine ⟨?_, ?_⟩
  · rw [isKnown, stored]
    exact Fit.rollback sound.fits fits
  · rw [events, stored, Stored.rollback_committed]
    exact sound.history

/-- A request is opened. -/
theorem openSession (sound : server.Sound security registered) {request : AgentRequest} {agents : AgentServer}
    (opened : AgentServer.step security (.openSession id request) server.toAgentServer = some agents)
    (presented : Option (Option Text)) :
    ({ server with
      toAgentServer := agents, presented := Function.update server.presented id presented } : KeyServer).Sound
      security registered := by
  rw [AgentServer.step] at opened
  split at opened
  on_goal 2 => cases opened
  rename_i session
  cases opened
  have fits := sound.fits id
  rw [known, session] at fits
  exact sound.goOn (known_eq rfl rfl (Function.update_eq_self ..).symm) rfl rfl fits

theorem read (sound : server.Sound security registered) {attempt : PendingAttempt} {agents : AgentServer}
    (isRead : server.toAgentServer.read security id attempt = some agents) :
    ({ server with toAgentServer := agents } : KeyServer).Sound security registered := by
  obtain ⟨request, after, session, isNext, rfl⟩ := AgentServer.read_eq_some isRead
  have fits := sound.fits id
  rw [known, session] at fits
  refine sound.goOn (known_setSession ..) rfl rfl ?_
  rcases AgentServer.readNext_cases isNext with ⟨action, rfl, -, rfl⟩ | ⟨heartbeat, sender, rfl, -, rfl⟩ | rfl
  · rw [AgentServer.readNext] at isNext
    split_ifs at isNext with locks allowed
    · exact ⟨fits.1, fits.2, Bool.eq_false_iff.mpr locks⟩
    · cases isNext
  · exact fits
  · exact fits.1

/-- A recovery goes on with the row locked only if its secret is taken. -/
theorem lock (sound : server.Sound security registered) {agents : AgentServer}
    (isLocked : server.toAgentServer.lock id = some agents) :
    (({ server with toAgentServer := agents } : KeyServer).judge security id).Sound security registered := by
  obtain ⟨agent, after, found, isNext, rfl⟩ := AgentServer.lock_eq_some isLocked
  have fits := sound.fits id
  rw [known] at fits
  rcases AgentServer.lockNext_cases isNext with
    ⟨keyHash, session, rfl⟩ | ⟨change, session, rfl⟩ | ⟨sender, session, rfl⟩ <;> rw [session] at fits <;>
    obtain rfl := Stored.found_unwritten fits.1 found <;> rw [judge, AgentServer.setSession] <;> dsimp only <;>
    rw [Function.update_self]
  · exact sound.write (known_setSession ..) rfl rfl found ⟨rfl, rfl, fits.2⟩
  · cases presented : server.presented id with
    | none =>
      refine sound.write (known_setSession ..) rfl rfl found ⟨rfl, rfl, fits.2, ?_⟩
      rw [presented]
      exact fun _ mem => by cases mem
    | some recoverySecret =>
      dsimp only
      cases judged : security.recoverAgentKey server.stored.committed recoverySecret with
      | ok taken =>
        refine sound.write (known_setSession ..) rfl rfl found ⟨rfl, rfl, fits.2, ?_⟩
        rw [presented]
        exact fun _ mem => by cases mem; exact judged
      | error refusal =>
        have unlocked : (server.stored.write id server.stored.committed).rollback id = server.stored := by
          rw [Stored.rollback_of_own (Stored.own_write ..)]
          rcases Stored.found_eq_some found with own | ⟨free, -⟩
          · cases fits.1.symm.trans own
          · rw [← free]
            rfl
        dsimp only [AgentServer.setSession]
        rw [Function.update_idem, unlocked]
        exact sound.goOn (known_setSession ..) rfl rfl fits.1
  · exact sound.write (known_setSession ..) rfl rfl found ⟨rfl, rfl, fits.2⟩

theorem issue (sound : server.Sound security registered) {agents : AgentServer}
    (issued : server.toAgentServer.issue id = some agents) :
    ({ server with toAgentServer := agents } : KeyServer).Sound security registered := by
  rw [AgentServer.issue] at issued
  split at issued
  on_goal 2 => cases issued
  rename_i keyHash session
  cases issued
  have fits := sound.fits id
  rw [known, session] at fits
  refine sound.goOn (known_setSession ..) rfl rfl ?_
  split_ifs
  · exact fits
  · exact fits.1

/-- A claim writes a key only on a row that has none. -/
theorem execute (sound : server.Sound security registered) {now : Time} {agents : AgentServer}
    (executed : server.toAgentServer.execute id now = some agents) :
    (server.write id agents).Sound security registered := by
  rw [AgentServer.execute] at executed
  split at executed
  on_goal 2 => cases executed
  rename_i keyHash agent session found
  have fits := sound.fits id
  rw [known, session] at fits
  obtain rfl := Stored.found_unwritten fits.1 found
  rw [KeyServer.write, session]
  split_ifs at executed with keyless
  · cases executed
    refine sound.write (known_eq rfl (Function.update_eq_self ..).symm rfl) rfl rfl found ⟨_, rfl, rfl, ?_⟩
    exact fun event mem => by cases mem; trivial
  · cases executed
    exact sound.goOn (known_eq rfl (Function.update_eq_self ..).symm rfl) rfl rfl fits.1

/-- A flush writes the credentials its event leaves, or none. -/
theorem flush (sound : server.Sound security registered) {now : Time} {agents : AgentServer}
    (flushed : server.toAgentServer.flush id now = some agents) :
    (server.write id agents).Sound security registered := by
  rw [AgentServer.flush] at flushed
  split at flushed
  on_goal 2 => cases flushed
  rename_i action read set agent isFlushed found
  cases flushed
  have fits := sound.fits id
  rw [known] at fits
  refine sound.write (known_eq rfl (Function.update_eq_self ..).symm rfl) rfl rfl found ?_
  cases session : server.sessions id with
  | found act copy =>
    rw [session] at isFlushed fits
    cases isFlushed
    obtain rfl := Stored.found_unwritten fits.1 found
    refine ⟨_, rfl, ?_, fun event mem => by cases mem⟩
    exact AgentRow.credentials_flush (AgentAction.credentials_apply fits.2.2 now)
  | approving keyHash copy =>
    rw [session, AgentServer.flushed] at isFlushed
    rw [session] at fits
    obtain ⟨own, rfl, -⟩ := fits
    split_ifs at isFlushed
    cases isFlushed
    cases (Stored.found_of_own own).symm.trans found
    rw [AgentRow.flush_read]
    exact ⟨_, rfl, rfl, fun event mem => by cases mem; trivial⟩
  | rekeying change copy =>
    rw [session] at isFlushed fits
    obtain ⟨own, rfl, -, taken⟩ := fits
    cases isFlushed
    cases (Stored.found_of_own own).symm.trans found
    rw [AgentRow.flush_read]
    cases change with
    | revoke => exact ⟨_, rfl, rfl, fun event mem => by cases mem; trivial⟩
    | regenerate keyHash =>
      cases presented : server.presented id with
      | none => exact ⟨_, rfl, rfl, fun event mem => by cases mem; trivial⟩
      | some recoverySecret =>
        exact ⟨_, rfl, rfl, fun event mem => by cases mem; exact taken recoverySecret presented⟩
  | _ =>
    rw [session] at isFlushed
    cases isFlushed

theorem process (sound : server.Sound security registered) {now : Time} {agents : AgentServer}
    (processed : server.toAgentServer.process security id now = some agents) :
    ({ server with toAgentServer := agents } : KeyServer).Sound security registered := by
  rw [AgentServer.process] at processed
  split at processed
  on_goal 2 => cases processed
  rename_i sender read session
  have fits := sound.fits id
  rw [known, session] at fits
  obtain ⟨own, rfl, nothing⟩ := fits
  split at processed
  · rename_i agent outcome isProcessed
    cases processed
    exact sound.write (known_setSession ..) rfl rfl (Stored.found_of_own own)
      ⟨agent, rfl, credentials_processHeartbeat isProcessed, nothing⟩
  · cases processed
    exact sound.rollback (known_setSession ..) rfl rfl rfl

/-- **A commit** that leaves other credentials is the next event of the history. -/
theorem commit (sound : server.Sound security registered) {agents : AgentServer}
    (committed : server.toAgentServer.commit id = some agents) :
    (server.commit id agents).Sound security registered := by
  have fits := sound.fits id
  rw [known] at fits
  have closes (metrics : List Time) (events : List (KeyEvent × AgentRow)) :
      Fit (fun _ known => known.Fits security) (server.stored.commit id)
        ({ server with
          sessions := Function.update server.sessions id .closed, stored := server.stored.commit id
          metrics, events } : KeyServer).known := by
    rw [known_setSession]
    exact Fit.commit sound.fits (fun _ => rfl) (fun _ _ => rfl) fun row _ _ _ others => others.after row
  rw [AgentServer.commit] at committed
  split at committed
  · rename_i action session
    cases committed
    rw [session] at fits
    obtain ⟨row, own, credentials, lawful⟩ := fits
    refine ⟨closes _ _, ?_⟩
    rw [KeyServer.commit]
    dsimp only
    rw [Stored.commit_of_own own]
    dsimp only
    rw [credentials]
    cases writing : server.writing id with
    | none =>
      rw [Option.map_none, Option.toList_none, List.append_nil]
      exact sound.history
    | some event => exact .event sound.history (lawful event writing)
  · rename_i sender outcome session
    cases committed
    rw [session] at fits
    obtain ⟨row, own, credentials, nothing⟩ := fits
    refine ⟨closes _ _, ?_⟩
    rw [KeyServer.commit]
    dsimp only
    rw [Stored.commit_of_own own, show server.writing id = none from nothing]
    dsimp only
    rw [credentials, Option.map_none, Option.toList_none, List.append_nil]
    exact sound.history
  · cases committed

/-- **One statement** keeps what is committed to a history. -/
theorem step (sound : server.Sound security registered) {statement : KeyStatement}
    (stepped : KeyServer.step security statement server = some next) : next.Sound security registered := by
  cases statement with
  | openRecovery id recoverySecret keyHash =>
    obtain ⟨agents, opened, rfl⟩ := Option.map_eq_some_iff.mp stepped
    exact sound.openSession opened _
  | agent statement =>
    obtain ⟨agents, ran, rfl⟩ := Option.map_eq_some_iff.mp stepped
    cases statement with
    | openSession id request =>
      have opens := sound.openSession ran (server.presented id)
      rwa [Function.update_eq_self] at opens
    | read id attempt => exact sound.read ran
    | lock id => exact sound.lock ran
    | issue id => exact sound.issue ran
    | execute id now => exact sound.execute ran
    | flush id now => exact sound.flush ran
    | process id now => exact sound.process ran
    | commit id => exact sound.commit ran
    | rollback id =>
      rw [AgentServer.step, AgentServer.rollback] at ran
      split at ran
      · cases ran
      · cases ran
      · cases ran
        exact sound.rollback (known_setSession ..) rfl rfl rfl

end Sound

/-- No request was opened yet. -/
structure Fresh (server : KeyServer) : Prop where
  agents : server.toAgentServer.Fresh
  presented : ∀ id, server.presented id = none
  writing : ∀ id, server.writing id = none
  events : server.events = []

theorem Fresh.sound (fresh : server.Fresh) (security : AgentSecurity) :
    server.Sound security server.stored.committed.credentials := by
  refine ⟨fun id => ?_, ?_⟩
  · rw [known, fresh.agents.unopened]
    exact ⟨Stored.own_of_free fresh.agents.free id, fresh.writing id⟩
  · rw [fresh.events]
    exact .start

/-- The key of the newest event, or the one there was. -/
def newestKey (registered : Credentials) (server : KeyServer) : Option Text :=
  (server.events.getLast?.map fun entry => entry.1.key).getD registered.apiKeyHash

/-- The key is the newest one, the secret is that of the registration until a revoke, and every
recovery was before any revoke, with the secret of the registration and for an active agent. -/
structure KeepsKeys (security : AgentSecurity) (registered : Credentials) (server : KeyServer) : Prop where
  key : server.stored.committed.apiKeyHash = server.newestKey registered
  secret : server.stored.committed.recoverySecretHash =
    if .revoked ∈ server.events.map Prod.fst then none else registered.recoverySecretHash
  recoveries : ∀ done keyHash recoverySecret agent rest,
    server.events = done ++ (.recovered keyHash recoverySecret, agent) :: rest →
      .revoked ∉ done.map Prod.fst ∧ agent.approvalStatus = .active ∧
      security.recoverySecretMatches registered.recoverySecretHash recoverySecret = true

theorem recoverAgentKey_ok {agent : AgentRow} {recoverySecret : Option Text}
    (taken : security.recoverAgentKey agent recoverySecret = .ok ()) :
    security.recoverySecretMatches agent.recoverySecretHash recoverySecret = true ∧
      agent.approvalStatus = .active := by
  unfold AgentSecurity.recoverAgentKey at taken
  split_ifs at taken with wrong inactive
  exact ⟨by simpa using wrong, not_not.mp inactive⟩

/-- **The keys of an agent.** In every order of the requests' statements, the stored key is the
newest one that was committed, and every key that the agent got itself was for the secret of
its registration, while it was active and before any revoke. -/
theorem keys_follow_history {start : KeyServer} (fresh : start.Fresh)
    (run : Runs (KeyServer.step security) (fun _ _ => true) start server) :
    server.KeepsKeys security start.stored.committed.credentials := by
  have sound : server.Sound security start.stored.committed.credentials :=
    run.keeps (fun _ _ _ _ stepped sound => sound.step stepped) (fresh.sound security)
  refine ⟨sound.history.apiKeyHash, sound.history.recoverySecretHash, ?_⟩
  intro done keyHash recoverySecret agent rest whole
  obtain ⟨before, taken⟩ := sound.history.before whole
  obtain ⟨isSecret, active⟩ := recoverAgentKey_ok taken
  have onRecord := before.recoverySecretHash
  by_cases revoked : .revoked ∈ done.map Prod.fst
  · -- no secret is left to match
    rw [if_pos revoked] at onRecord
    rw [show agent.recoverySecretHash = none from onRecord] at isSecret
    simp [AgentSecurity.recoverySecretMatches] at isSecret
  · rw [if_neg revoked] at onRecord
    rw [show agent.recoverySecretHash = _ from onRecord] at isSecret
    exact ⟨revoked, active, isSecret⟩

/-- **One statement** is some of the agent server's. -/
theorem step_current (on : security.authEnabled = true) (current : server.Current security) {statement : KeyStatement}
    (stepped : KeyServer.step security statement server = some next) : next.Current security := by
  cases statement with
  | openRecovery id recoverySecret keyHash =>
    obtain ⟨agents, ran, rfl⟩ := Option.map_eq_some_iff.mp stepped
    exact current.step on ran
  | agent statement =>
    obtain ⟨agents, ran, rfl⟩ := Option.map_eq_some_iff.mp stepped
    have after : agents.Current security := current.step on ran
    cases statement with
    | lock id =>
      dsimp only
      rw [judge]
      split
      · split
        · exact after
        · exact Fit.rollback after trivial
      · exact after
    | _ => exact after

/-- **Jobs go to the newest key.** In every such run, a heartbeat is handed jobs only with a token
of the key that was committed last, while the agent is active. -/
theorem jobs_by_newest_key {start : KeyServer} (on : security.authEnabled = true) (fresh : start.Fresh)
    (run : Runs (KeyServer.step security) (fun _ _ => true) start server) {sender : HeartbeatSender}
    {outcome : HeartbeatOutcome} (processed : server.sessions id = .processed sender outcome)
    (jobs : outcome.jobs = true) :
    ∃ token keyHash, sender.heartbeat.token = some token ∧ security.bcryptMatches token keyHash = true ∧
      server.newestKey start.stored.committed.credentials = some keyHash ∧
      server.stored.committed.approvalStatus = .active := by
  have sound : server.Sound security start.stored.committed.credentials :=
    run.keeps (fun _ _ _ _ stepped sound => sound.step stepped) (fresh.sound security)
  have current : server.Current security :=
    run.keeps (fun _ _ _ _ stepped current => step_current on current stepped) (fresh.agents.current security)
  have known := current id
  rw [processed] at known
  obtain ⟨row, -, guarded⟩ := known
  obtain ⟨⟨token, keyHash, isToken, verified, isKey⟩, stored, active⟩ := guarded.jobs jobs
  refine ⟨token, keyHash, isToken, isKey, ?_, active⟩
  rw [newestKey, ← verified, ← stored]
  exact sound.history.apiKeyHash.symm

/-! ## A revoke before a second recovery -/

def registeredAgent : KeyServer where
  stored := ⟨{ recoverySecretHash := some (text "secret") }, none⟩

theorem registeredAgent_fresh : registeredAgent.Fresh := ⟨⟨rfl, fun _ => rfl⟩, fun _ => rfl, fun _ => rfl, rfl⟩

/-- The agent is approved and recovers its key, with which a heartbeat of it is processed. -/
def recovered : List KeyStatement :=
  [.agent (.openSession 1 (.act (.approve (text "first")))), .agent (.lock 1), .agent (.flush 1 5), .agent (.commit 1),
    .openRecovery 2 (some (text "secret")) (text "second"), .agent (.lock 2), .agent (.flush 2 7), .agent (.commit 2),
    .agent (.openSession 3 (.heartbeat { token := some (text "second") })), .agent (.read 3 {}), .agent (.lock 3),
    .agent (.process 3 8)]

/-- The key is revoked while another recovery is on its way. -/
def revokedMeanwhile : List KeyStatement :=
  [.agent (.commit 3), .openRecovery 4 (some (text "secret")) (text "third"),
    .agent (.openSession 5 (.changeKey .revoke)), .agent (.lock 5), .agent (.flush 5 9), .agent (.commit 5),
    .agent (.lock 4)]

theorem revoke_ends_recoveries : ∃ server,
    runAll (KeyServer.step plainCredentials) (fun _ _ => true) (recovered ++ revokedMeanwhile) registeredAgent =
      some server ∧
    server.events.map Prod.fst = [.issued (text "first"), .recovered (text "second") (some (text "secret")), .revoked] ∧
    server.KeepsKeys plainCredentials registeredAgent.stored.committed.credentials := by
  have keeps : ∀ server, runAll (KeyServer.step plainCredentials) (fun _ _ => true) (recovered ++ revokedMeanwhile)
      registeredAgent = some server →
      server.KeepsKeys plainCredentials registeredAgent.stored.committed.credentials :=
    fun server ran => keys_follow_history registeredAgent_fresh (.of_runAll ran)
  exact ⟨_, rfl, rfl, keeps _ rfl⟩

theorem recovered_key_works : ∃ server sender outcome,
    runAll (KeyServer.step plainCredentials) (fun _ _ => true) recovered registeredAgent = some server ∧
    server.sessions 3 = .processed sender outcome ∧ outcome.jobs = true ∧
    ∃ token keyHash, sender.heartbeat.token = some token ∧ plainCredentials.bcryptMatches token keyHash = true ∧
      server.newestKey registeredAgent.stored.committed.credentials = some keyHash ∧
      server.stored.committed.approvalStatus = .active := by
  have works : ∀ server sender outcome,
      runAll (KeyServer.step plainCredentials) (fun _ _ => true) recovered registeredAgent = some server →
      server.sessions 3 = .processed sender outcome → outcome.jobs = true →
      ∃ token keyHash, sender.heartbeat.token = some token ∧ plainCredentials.bcryptMatches token keyHash = true ∧
        server.newestKey registeredAgent.stored.committed.credentials = some keyHash ∧
        server.stored.committed.approvalStatus = .active :=
    fun server sender outcome ran processed jobs =>
      jobs_by_newest_key rfl registeredAgent_fresh (.of_runAll ran) processed jobs
  exact ⟨_, _, _, rfl, rfl, rfl, works _ _ _ rfl rfl rfl⟩

end KeyServer

end LuxSwirl.Server
