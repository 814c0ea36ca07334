import LuxSwirl.Server.AgentRows

/-!
# What a heartbeat may do

A heartbeat's credential is judged on the row as read, and again on the row as locked.
In every order of its statements with those of the operators' requests, it writes or
stores a metric only with the agent's current key or, while the agent is pending, with
its current secret, and gets jobs only with its current key
(`heartbeat_uses_current_credential`).
-/

namespace LuxSwirl.Server
open LuxSwirl.Py LuxSwirl.Lib

/-- The key the heartbeat was checked with is the agent's, which is active. -/
structure KeyCurrent (security : AgentSecurity) (sender : HeartbeatSender) (agent : AgentRow) : Prop where
  checked : ∃ token keyHash, sender.heartbeat.token = some token ∧
    sender.verifiedKeyHash = some keyHash ∧ security.bcryptMatches token keyHash = true
  stored : agent.apiKeyHash = sender.verifiedKeyHash
  active : agent.approvalStatus = .active

/-- The agent is pending with no key, and the secret the heartbeat was checked with, if
any, is the agent's. -/
structure PendingCurrent (security : AgentSecurity) (sender : HeartbeatSender) (agent : AgentRow) : Prop where
  pending : agent.approvalStatus = .pending
  keyless : agent.apiKeyHash = none
  secret : sender.usingAgentKey = false → ∀ secret ∈ sender.heartbeat.recoverySecret,
    security.recoverySecretMatches agent.recoverySecretHash (some secret) = true

/-- What an accepted heartbeat was checked against. -/
structure HeartbeatSender.Checked (security : AgentSecurity) (sender : HeartbeatSender) : Prop where
  key : sender.usingAgentKey = true → ∃ token keyHash, sender.heartbeat.token = some token ∧
    sender.verifiedKeyHash = some keyHash ∧ security.bcryptMatches token keyHash = true
  secret : sender.usingAgentKey = false → ∀ secret ∈ sender.heartbeat.recoverySecret,
    sender.verifiedSecretHash.isSome = true ∧
      security.recoverySecretMatches sender.verifiedSecretHash (some secret) = true

/-- What a heartbeat that left a row and an outcome relied on. -/
structure HeartbeatOutcome.Guarded (security : AgentSecurity) (sender : HeartbeatSender) (agent after : AgentRow)
    (outcome : HeartbeatOutcome) : Prop where
  applied : after ≠ agent ∨ outcome.metric ≠ none →
    KeyCurrent security sender agent ∨ PendingCurrent security sender agent
  jobs : outcome.jobs = true → KeyCurrent security sender agent

section Credentials

variable {security : AgentSecurity} {agent after : AgentRow} {heartbeat : Heartbeat} {attempt : PendingAttempt}
  {sender : HeartbeatSender} {outcome : HeartbeatOutcome}

/-- A key that is accepted is the one stored. -/
theorem verifyAgentToken_ok (on : security.authEnabled = true) {token : Option Text}
    (verified : security.verifyAgentToken agent token = .ok ()) :
    ∃ bearer keyHash, token = some bearer ∧ agent.apiKeyHash = some keyHash ∧
      security.bcryptMatches bearer keyHash = true := by
  unfold AgentSecurity.verifyAgentToken at verified
  rw [on, Bool.not_true, if_neg Bool.false_ne_true] at verified
  split at verified
  · rename_i bearer keyHash isHash
    split_ifs at verified with wrong inactive
    exact ⟨bearer, keyHash, rfl, isHash, by simpa using wrong⟩
  · cases verified

/-- A pending credential that is a secret is accepted only when it is the one stored. -/
theorem authenticatePending_ok (on : security.authEnabled = true) {usingKey : Bool}
    (authenticated : security.authenticatePending agent heartbeat attempt = .ok usingKey) :
    usingKey = false ∧ ∀ secret ∈ heartbeat.recoverySecret,
      security.recoverySecretMatches agent.recoverySecretHash (some secret) = true := by
  rw [AgentSecurity.authenticatePending] at authenticated
  split_ifs at authenticated with keyFormat spent secretSent
  · obtain ⟨secret, isSecret⟩ := Option.isSome_iff_exists.mp secretSent
    rw [isSecret, AgentSecurity.verifyAgentRecoverySecret, on] at authenticated
    split_ifs at authenticated with matching
    · cases authenticated
      refine ⟨rfl, fun other isOther => ?_⟩
      cases isSecret.symm.trans isOther
      simpa using matching
    · cases authenticated
  · have none : heartbeat.recoverySecret = none := by simpa using secretSent
    refine ⟨?_, fun secret isSecret => by cases none.symm.trans isSecret⟩
    cases verified : security.verifyRegistrationToken attempt heartbeat.token with
    | ok _ =>
      rw [verified] at authenticated
      cases authenticated
      rfl
    | error refusal =>
      rw [verified] at authenticated
      cases authenticated

/-- Nothing stored matches no secret. -/
theorem isSome_of_recoverySecretMatches {stored presented : Option Text}
    (matching : security.recoverySecretMatches stored presented = true) : stored.isSome = true := by
  rw [AgentSecurity.recoverySecretMatches] at matching
  have same := of_decide_eq_true (Bool.and_eq_true_iff.mp matching).1
  rw [← same]
  rfl

theorem requireHeartbeatSender_checked (on : security.authEnabled = true)
    (accepted : security.requireHeartbeatSender agent heartbeat attempt = .ok sender) :
    sender.Checked security := by
  have pending {usingKey : Bool} (authenticated : security.authenticatePending agent heartbeat attempt = .ok usingKey) :
      usingKey = false ∧ ∀ secret ∈ heartbeat.recoverySecret,
        agent.recoverySecretHash.isSome = true ∧
          security.recoverySecretMatches agent.recoverySecretHash (some secret) = true := by
    obtain ⟨notKey, matching⟩ := authenticatePending_ok on authenticated
    refine ⟨notKey, fun secret isSecret => ?_⟩
    exact ⟨isSome_of_recoverySecretMatches (matching secret isSecret), matching secret isSecret⟩
  have judged {usingKey : Bool} (authenticated : security.authenticateHeartbeat agent heartbeat attempt = .ok usingKey) :
      (usingKey = true ∧ ∃ bearer keyHash, heartbeat.token = some bearer ∧ agent.apiKeyHash = some keyHash ∧
        security.bcryptMatches bearer keyHash = true) ∨
      security.authenticatePending agent heartbeat attempt = .ok usingKey := by
    unfold AgentSecurity.authenticateHeartbeat at authenticated
    split_ifs at authenticated with keyed
    · split at authenticated
      · rename_i verified
        cases authenticated
        exact .inl ⟨rfl, verifyAgentToken_ok on verified⟩
      · exact .inr authenticated
      · cases authenticated
    · exact .inr authenticated
  unfold AgentSecurity.requireHeartbeatSender at accepted
  cases authenticated : security.authenticateHeartbeat agent heartbeat attempt with
  | error refusal =>
    rw [authenticated] at accepted
    cases accepted
  | ok usingKey =>
    rw [authenticated] at accepted
    cases accepted
    rcases judged authenticated with ⟨rfl, checked⟩ | byPending
    · exact ⟨fun _ => checked, fun notKey => by cases notKey⟩
    · obtain ⟨rfl, matching⟩ := pending byPending
      refine ⟨fun isKey => absurd isKey Bool.false_ne_true, fun _ secret isSecret => ?_⟩
      have sent : heartbeat.recoverySecret = some secret := isSecret
      dsimp only
      rw [sent, Option.isSome_some, Bool.not_false, Bool.and_true, if_pos rfl]
      exact matching secret isSecret

/-- **On the locked row**, a heartbeat relies on a credential that is current. -/
theorem processHeartbeat_guarded (on : security.authEnabled = true) (checked : sender.Checked security)
    {now : Time} (processed : processHeartbeat security sender now agent = .ok (after, outcome)) :
    outcome.Guarded security sender agent after := by
  unfold processHeartbeat at processed
  rw [on] at processed
  dsimp only at processed
  split_ifs at processed with inactive voided applied
  · cases processed
    have current (usingKey : (sender.usingAgentKey && decide (agent.apiKeyHash = sender.verifiedKeyHash)) = true) :
        KeyCurrent security sender agent := by
      obtain ⟨used, same⟩ := Bool.and_eq_true_iff.mp usingKey
      refine ⟨checked.key used, of_decide_eq_true same, ?_⟩
      rw [usingKey] at inactive
      simpa using inactive
    refine ⟨fun _ => ?_, current⟩
    rcases Bool.or_eq_true_iff.mp applied with usingKey | pending
    · exact .inl (current usingKey)
    · obtain ⟨isPending, keyless⟩ := Bool.and_eq_true_iff.mp pending
      refine .inr ⟨of_decide_eq_true isPending, Option.isNone_iff_eq_none.mp keyless, fun notKey secret isSecret => ?_⟩
      obtain ⟨stored, matching⟩ := checked.secret notKey secret isSecret
      have same : agent.recoverySecretHash = sender.verifiedSecretHash := by
        by_contra changed
        exact voided (Bool.and_eq_true_iff.mpr ⟨stored, decide_eq_true changed⟩)
      rwa [same]
  · cases processed
    refine ⟨?_, fun jobs => ?_⟩
    · rintro (changed | stored)
      · exact absurd rfl changed
      · exact absurd rfl stored
    · exact absurd (Bool.or_eq_true_iff.mpr (.inl jobs)) applied

end Credentials

/-! ## Over a run -/

/-- What is known of a session from what is committed and what it has written. -/
def AgentSession.Current (security : AgentSecurity) (session : AgentSession) (committed : AgentRow)
    (own : Option AgentRow) : Prop :=
  match session with
  | .unopened | .opened _ => own = none
  | .accepted sender => own = none ∧ sender.Checked security
  | .locked sender read => own = some committed ∧ read = committed ∧ sender.Checked security
  | .processed sender outcome => ∃ row, own = some row ∧ outcome.Guarded security sender committed row
  | _ => True

namespace AgentServer

variable {security : AgentSecurity} {server next : AgentServer} {id : Id}

abbrev Current (security : AgentSecurity) (server : AgentServer) : Prop :=
  Fit (fun _ session => session.Current security) server.stored server.sessions

/-- A session that ends is known nothing of. -/
theorem Current.commit (current : server.Current security) (id : Id) :
    Fit (fun _ session => session.Current security) (server.stored.commit id)
      (Function.update server.sessions id .closed) := by
  refine Fit.commit current (fun _ => trivial) (fun _ _ => trivial) fun row _ other _ known => ?_
  cases session : server.sessions other with
  | unopened => rfl
  | opened request => rfl
  | accepted sender =>
    rw [session] at known
    exact known
  | locked sender read =>
    rw [session] at known
    cases known.1
  | processed sender outcome =>
    rw [session] at known
    obtain ⟨own, isOwn, -⟩ := known
    cases isOwn
  | _ => trivial

/-- **One statement** keeps what heartbeats rely on. -/
theorem Current.step (current : server.Current security) (on : security.authEnabled = true)
    {statement : AgentStatement} (stepped : AgentServer.step security statement server = some next) :
    next.Current security := by
  cases statement with
  | openSession id request =>
    rw [AgentServer.step] at stepped
    split at stepped
    · rename_i session
      cases stepped
      have known := current id
      rw [session] at known
      exact current.goOn known
    · cases stepped
  | read id attempt =>
    obtain ⟨request, after, session, isNext, rfl⟩ := AgentServer.read_eq_some stepped
    have known := current id
    rw [session] at known
    refine current.goOn ?_
    rcases AgentServer.readNext_cases isNext with
      ⟨action, rfl, -, rfl⟩ | ⟨heartbeat, sender, rfl, accepted, rfl⟩ | rfl
    · trivial
    · exact ⟨known, requireHeartbeatSender_checked on accepted⟩
    · trivial
  | lock id =>
    obtain ⟨agent, after, found, isNext, rfl⟩ := AgentServer.lock_eq_some stepped
    refine current.write found ?_
    rcases AgentServer.lockNext_cases isNext with
      ⟨keyHash, session, rfl⟩ | ⟨change, session, rfl⟩ | ⟨sender, session, rfl⟩
    · trivial
    · trivial
    · have known := current id
      rw [session] at known
      have isStored := Stored.found_unwritten known.1 found
      exact ⟨congrArg some isStored, isStored, known.2⟩
  | issue id =>
    rw [AgentServer.step, AgentServer.issue] at stepped
    split at stepped
    · cases stepped
      refine current.goOn ?_
      split_ifs <;> trivial
    · cases stepped
  | execute id now =>
    rw [AgentServer.step, AgentServer.execute] at stepped
    split at stepped
    · rename_i found
      split_ifs at stepped
      · cases stepped
        exact current.write found trivial
      · cases stepped
        exact current.goOn trivial
    · cases stepped
  | flush id now =>
    rw [AgentServer.step, AgentServer.flush] at stepped
    split at stepped
    · rename_i found
      cases stepped
      exact current.write found trivial
    · cases stepped
  | process id now =>
    rw [AgentServer.step, AgentServer.process] at stepped
    split at stepped
    · rename_i sender read session
      have known := current id
      rw [session] at known
      obtain ⟨own, rfl, checked⟩ := known
      split at stepped
      · rename_i agent outcome processed
        cases stepped
        exact current.write (Stored.found_of_own own) ⟨agent, rfl, processHeartbeat_guarded on checked processed⟩
      · cases stepped
        exact current.rollback trivial
    · cases stepped
  | commit id =>
    rw [AgentServer.step, AgentServer.commit] at stepped
    split at stepped
    · cases stepped
      exact current.commit id
    · cases stepped
      exact current.commit id
    · cases stepped
  | rollback id =>
    rw [AgentServer.step, AgentServer.rollback] at stepped
    split at stepped
    · cases stepped
    · cases stepped
    · cases stepped
      exact Fit.rollback current trivial

theorem Fresh.current (fresh : server.Fresh) (security : AgentSecurity) : server.Current security := by
  intro id
  rw [fresh.unopened]
  exact Stored.own_of_free fresh.free id

end AgentServer

/-- A heartbeat has written nothing before it is processed, and then relies on a
credential that is current while it holds the row. -/
def AgentSession.UsesCurrent (security : AgentSecurity) (session : AgentSession) (committed : AgentRow)
    (own : Option AgentRow) : Prop :=
  match session with
  | .opened (.heartbeat _) | .accepted _ => own = none
  | .locked _ _ => own = some committed
  | .processed sender outcome => ∃ row, own = some row ∧ outcome.Guarded security sender committed row
  | _ => True

/-- What the commit of a heartbeat changes, it changes with a current credential. -/
theorem commit_uses_current {security : AgentSecurity} {server next : AgentServer} {id : Id}
    {sender : HeartbeatSender} {outcome : HeartbeatOutcome} {row : AgentRow}
    (session : server.sessions id = .processed sender outcome) (own : server.stored.own id = some row)
    (guarded : outcome.Guarded security sender server.stored.committed row)
    (committed : AgentServer.step security (.commit id) server = some next)
    (changes : next.stored.committed ≠ server.stored.committed ∨ next.metrics ≠ server.metrics) :
    KeyCurrent security sender server.stored.committed ∨ PendingCurrent security sender server.stored.committed := by
  rw [AgentServer.step, AgentServer.commit, session] at committed
  cases committed
  rw [Stored.commit_of_own own] at changes
  refine guarded.applied (changes.imp_right fun stored unapplied => stored ?_)
  rw [unapplied]
  rfl

/-- **A heartbeat writes only with the agent's current credential**: in every order of
the requests' statements, what it writes, the jobs it gets and what its commit changes
rest on one that is current while it holds the row. -/
theorem heartbeat_uses_current_credential {security : AgentSecurity} (on : security.authEnabled = true)
    {start server : AgentServer} (fresh : start.Fresh)
    (runs : Runs (AgentServer.step security) (fun _ _ => true) start server) (id : Id) :
    (server.sessions id).UsesCurrent security server.stored.committed (server.stored.own id) ∧
    ∀ sender outcome next, server.sessions id = .processed sender outcome →
      AgentServer.step security (.commit id) server = some next →
      next.stored.committed ≠ server.stored.committed ∨ next.metrics ≠ server.metrics →
      KeyCurrent security sender server.stored.committed ∨
        PendingCurrent security sender server.stored.committed := by
  have current : server.Current security :=
    runs.keeps (fun _ _ _ _ stepped now => now.step on stepped) (fresh.current security)
  have known := current id
  refine ⟨?_, fun sender outcome next session committed changes => ?_⟩
  · cases session : server.sessions id with
    | opened request =>
      rw [session] at known
      cases request with
      | heartbeat heartbeat => exact known
      | _ => trivial
    | accepted sender =>
      rw [session] at known
      exact known.1
    | locked sender read =>
      rw [session] at known
      exact known.1
    | processed sender outcome =>
      rw [session] at known
      exact known
    | _ => trivial
  · rw [session] at known
    obtain ⟨row, own, guarded⟩ := known
    exact commit_uses_current session own guarded committed changes

/-! ## A revoke while a heartbeat is checked -/

/-- Every key and secret is its own hash. -/
def plainCredentials : AgentSecurity := ⟨true, fun token keyHash => decide (token = keyHash), id, fun _ => false⟩

def activeAgent : AgentServer where
  stored := ⟨{ approvalStatus := .active, apiKeyHash := some (text "key") }, none⟩

theorem activeAgent_fresh : activeAgent.Fresh := ⟨rfl, fun _ => rfl⟩

/-- A heartbeat with the agent's key, whose row is locked before the key is revoked. -/
def beatThenRevoke : List AgentStatement :=
  [.openSession 1 (.heartbeat { token := some (text "key") }), .read 1 {}, .openSession 2 (.changeKey .revoke),
    .lock 1, .process 1 5]

/-- It is applied with the current key, and gets jobs. -/
theorem current_key_applied : ∃ server sender outcome,
    runAll (AgentServer.step plainCredentials) (fun _ _ => true) beatThenRevoke activeAgent = some server ∧
    server.sessions 1 = .processed sender outcome ∧ outcome.metric = some 5 ∧ outcome.jobs = true ∧
    KeyCurrent plainCredentials sender server.stored.committed := by
  have guarded : ∀ server,
      runAll (AgentServer.step plainCredentials) (fun _ _ => true) beatThenRevoke activeAgent = some server →
      (server.sessions 1).UsesCurrent plainCredentials server.stored.committed (server.stored.own 1) :=
    fun server ran => (heartbeat_uses_current_credential rfl activeAgent_fresh (.of_runAll ran) 1).1
  obtain ⟨row, -, relied⟩ := guarded _ rfl
  exact ⟨_, _, _, rfl, rfl, rfl, rfl, relied.jobs rfl⟩

end LuxSwirl.Server
