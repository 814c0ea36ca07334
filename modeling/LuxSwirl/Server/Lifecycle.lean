import LuxSwirl.Server.AgentRows

/-!
# The lifecycle of an agent

Each operator action judges the status it read, and only an approval reads it under
the row lock. A commit moves the stored status by its action's own edge in every run in
which the other actions write over a status they may move (`lifecycle_edges`); one
that does not, commits a forbidden edge.
-/

namespace LuxSwirl.Server
open LuxSwirl.Py LuxSwirl.Lib

/-- The action moves an agent so. -/
def AgentAction.Edge (action : AgentAction) (before after : AgentApprovalStatus) : Prop :=
  before ∈ action.allowed ∧ after = action.target

/-- A statement leaves the stored status, or is the commit of an action that moves it so. -/
def LawfulStep (statement : AgentStatement) (server next : AgentServer) : Prop :=
  next.stored.committed.approvalStatus = server.stored.committed.approvalStatus ∨
    ∃ id action, statement = .commit id ∧ server.sessions id = .wrote (some action) ∧
      action.Edge server.stored.committed.approvalStatus next.stored.committed.approvalStatus

/-- An action that took no lock writes over a status it may move, or moves to. -/
def AgentServer.writesMovable (server : AgentServer) : AgentStatement → Bool
  | .flush id _ =>
    match server.sessions id, server.stored.found id with
    | .found action _, some agent =>
      decide (agent.approvalStatus ∈ action.allowed) || decide (agent.approvalStatus = action.target)
    | _, _ => true
  | _ => true

namespace AgentAction

variable {action : AgentAction} {now : Time} {agent : AgentRow}

@[simp] theorem approvalStatus_apply : (apply now agent action).approvalStatus = action.target := by
  cases action <;> rfl

/-- An action moves an agent to another status. -/
theorem target_not_allowed (action : AgentAction) : action.target ∉ action.allowed := by
  cases action <;> simp [target, allowed, approvable, disableable, archivable]

theorem moves (may : agent.approvalStatus ∈ action.allowed) :
    (apply now agent action).approvalStatus ≠ agent.approvalStatus := by
  rw [approvalStatus_apply]
  rintro same
  exact action.target_not_allowed (same ▸ may)

end AgentAction

namespace AgentRow

variable {read set stored : AgentRow}

theorem approvalStatus_flush (changed : set.approvalStatus ≠ read.approvalStatus) :
    (flush read set stored).approvalStatus = set.approvalStatus := if_neg changed

theorem approvalStatus_flush_same (same : set.approvalStatus = read.approvalStatus) :
    (flush read set stored).approvalStatus = stored.approvalStatus := if_pos same

end AgentRow

/-- What is known of a session from what is committed and what it has written. -/
def AgentSession.Lawful (session : AgentSession) (committed : AgentRow) (own : Option AgentRow) : Prop :=
  match session with
  | .found action read => own = none ∧ read.approvalStatus ∈ action.allowed
  | .approving _ read | .rekeying _ read | .locked _ read => own = some committed ∧ read = committed
  | .wrote action => ∃ row, own = some row ∧
      (row.approvalStatus = committed.approvalStatus ∨
        ∃ act, action = some act ∧ act.Edge committed.approvalStatus row.approvalStatus)
  | .processed _ _ => ∃ row, own = some row ∧ row.approvalStatus = committed.approvalStatus
  | _ => own = none

namespace AgentSession

variable {session : AgentSession} {committed : AgentRow}

/-- What is known of a session that has written nothing outlasts the others' commits. -/
theorem Lawful.after (lawful : session.Lawful committed none) (row : AgentRow) : session.Lawful row none := by
  cases session with
  | found action read => exact lawful
  | approving keyHash read => cases lawful.1
  | rekeying change read => cases lawful.1
  | locked sender read => cases lawful.1
  | wrote action =>
    obtain ⟨own, isOwn, -⟩ := lawful
    cases isOwn
  | processed sender outcome =>
    obtain ⟨own, isOwn, -⟩ := lawful
    cases isOwn
  | _ => rfl

end AgentSession

/-- A heartbeat leaves the status. -/
theorem approvalStatus_processHeartbeat {security : AgentSecurity} {sender : HeartbeatSender} {now : Time}
    {agent after : AgentRow} {outcome : HeartbeatOutcome}
    (processed : processHeartbeat security sender now agent = .ok (after, outcome)) :
    after.approvalStatus = agent.approvalStatus := by
  unfold processHeartbeat at processed
  dsimp only at processed
  split_ifs at processed <;> cases processed <;> rfl

abbrev AgentServer.Lawful (server : AgentServer) : Prop :=
  Fit (fun _ session => session.Lawful) server.stored server.sessions

namespace AgentServer

variable {security : AgentSecurity} {server next last : AgentServer} {id : Id} {session : AgentSession}

/-- A session's flush keeps to its action's edges. -/
theorem Lawful.flush (lawful : server.Lawful) {now : Time}
    (movable : server.writesMovable (.flush id now) = true) (flushed : server.flush id now = some next) :
    next.Lawful := by
  have fits := lawful id
  rw [AgentServer.flush] at flushed
  split at flushed
  · rename_i action read set agent isFlushed found
    cases flushed
    refine lawful.write found ⟨_, rfl, ?_⟩
    rw [writesMovable, found] at movable
    cases session : server.sessions id with
    | found act copy =>
      rw [session] at isFlushed movable fits
      cases isFlushed
      obtain ⟨free, allowed⟩ := fits
      rw [AgentRow.approvalStatus_flush (AgentAction.moves allowed), AgentAction.approvalStatus_apply,
        ← Stored.found_unwritten free found]
      rcases Bool.or_eq_true_iff.mp movable with may | already
      · exact .inr ⟨act, rfl, of_decide_eq_true may, rfl⟩
      · exact .inl (of_decide_eq_true already).symm
    | approving keyHash copy =>
      rw [session, flushed] at isFlushed
      rw [session] at fits
      split_ifs at isFlushed with allowed
      cases isFlushed
      obtain ⟨own, rfl⟩ := fits
      have moved : (AgentAction.apply now server.stored.committed (.approve keyHash)).approvalStatus ≠
          server.stored.committed.approvalStatus := AgentAction.moves allowed
      rw [AgentRow.approvalStatus_flush moved, AgentAction.approvalStatus_apply]
      exact .inr ⟨_, rfl, allowed, rfl⟩
    | rekeying change copy =>
      rw [session] at isFlushed fits
      cases isFlushed
      obtain ⟨own, rfl⟩ := fits
      have same : (change.apply now server.stored.committed).approvalStatus =
          server.stored.committed.approvalStatus := by
        cases change <;> rfl
      rw [AgentRow.approvalStatus_flush_same same]
      cases (Stored.found_of_own own).symm.trans found
      exact .inl rfl
    | _ =>
      rw [session] at isFlushed
      cases isFlushed
  · cases flushed

/-- A commit moves the status by its action's edge. -/
theorem Lawful.commit (lawful : server.Lawful) (committed : server.commit id = some next) :
    next.Lawful ∧ LawfulStep (.commit id) server next := by
  have fits := lawful id
  have closes : Fit (fun _ session => session.Lawful) (server.stored.commit id)
      (Function.update server.sessions id .closed) :=
    Fit.commit lawful (fun _ => rfl) (fun _ _ => rfl) fun row _ _ _ others => others.after row
  rw [AgentServer.commit] at committed
  split at committed
  · rename_i action session
    cases committed
    rw [session] at fits
    obtain ⟨row, own, status⟩ := fits
    refine ⟨closes, ?_⟩
    rw [LawfulStep, Stored.commit_of_own own]
    rcases status with same | ⟨act, rfl, edge⟩
    · exact .inl same
    · exact .inr ⟨id, act, rfl, session, edge⟩
  · rename_i sender outcome session
    cases committed
    rw [session] at fits
    obtain ⟨row, own, same⟩ := fits
    refine ⟨closes, .inl ?_⟩
    rw [Stored.commit_of_own own]
    exact same
  · cases committed

/-- **One statement** keeps to the edges. -/
theorem Lawful.step (lawful : server.Lawful) {statement : AgentStatement}
    (movable : server.writesMovable statement = true)
    (stepped : AgentServer.step security statement server = some next) :
    next.Lawful ∧ LawfulStep statement server next := by
  cases statement with
  | openSession id request =>
    rw [AgentServer.step] at stepped
    split at stepped
    · rename_i session
      cases stepped
      have fits := lawful id
      rw [session] at fits
      exact ⟨lawful.goOn fits, .inl rfl⟩
    · cases stepped
  | read id attempt =>
    obtain ⟨request, after, session, isNext, rfl⟩ := AgentServer.read_eq_some stepped
    have fits := lawful id
    rw [session] at fits
    refine ⟨lawful.goOn ?_, .inl rfl⟩
    rw [show server.stored.own id = none from fits]
    rcases AgentServer.readNext_cases isNext with
      ⟨action, rfl, allowed, rfl⟩ | ⟨heartbeat, sender, rfl, accepted, rfl⟩ | rfl
    · exact ⟨rfl, allowed⟩
    · rfl
    · rfl
  | lock id =>
    obtain ⟨agent, after, found, isNext, rfl⟩ := AgentServer.lock_eq_some stepped
    have fits := lawful id
    have isStored (free : server.stored.own id = none) : agent = server.stored.committed :=
      Stored.found_unwritten free found
    refine ⟨lawful.write found ?_, .inl rfl⟩
    rcases AgentServer.lockNext_cases isNext with
      ⟨keyHash, session, rfl⟩ | ⟨change, session, rfl⟩ | ⟨sender, session, rfl⟩
    · rw [session] at fits
      exact ⟨congrArg some (isStored fits), isStored fits⟩
    · rw [session] at fits
      exact ⟨congrArg some (isStored fits), isStored fits⟩
    · rw [session] at fits
      exact ⟨congrArg some (isStored fits), isStored fits⟩
  | issue id =>
    rw [AgentServer.step, AgentServer.issue] at stepped
    split at stepped
    · rename_i keyHash session
      cases stepped
      have fits := lawful id
      rw [session] at fits
      refine ⟨lawful.goOn ?_, .inl rfl⟩
      split_ifs
      · exact fits
      · exact fits
    · cases stepped
  | execute id now =>
    rw [AgentServer.step, AgentServer.execute] at stepped
    split at stepped
    · rename_i keyHash agent session found
      have fits := lawful id
      rw [session] at fits
      split_ifs at stepped
      · cases stepped
        refine ⟨lawful.write found ⟨_, rfl, .inl ?_⟩, .inl rfl⟩
        rw [← Stored.found_unwritten fits found]
      · cases stepped
        exact ⟨lawful.goOn fits, .inl rfl⟩
    · cases stepped
  | flush id now =>
    refine ⟨lawful.flush movable stepped, ?_⟩
    rw [AgentServer.step, AgentServer.flush] at stepped
    split at stepped
    · cases stepped
      exact .inl rfl
    · cases stepped
  | process id now =>
    rw [AgentServer.step, AgentServer.process] at stepped
    split at stepped
    · rename_i sender read session
      have fits := lawful id
      rw [session] at fits
      obtain ⟨own, rfl⟩ := fits
      split at stepped
      · rename_i agent outcome processed
        cases stepped
        exact ⟨lawful.write (Stored.found_of_own own)
          ⟨agent, rfl, approvalStatus_processHeartbeat processed⟩, .inl rfl⟩
      · cases stepped
        refine ⟨Fit.rollback lawful rfl, .inl ?_⟩
        exact congrArg AgentRow.approvalStatus (Stored.rollback_committed ..)
    · cases stepped
  | commit id => exact lawful.commit stepped
  | rollback id =>
    rw [AgentServer.step, AgentServer.rollback] at stepped
    split at stepped
    · cases stepped
    · cases stepped
    · cases stepped
      refine ⟨Fit.rollback lawful rfl, .inl ?_⟩
      exact congrArg AgentRow.approvalStatus (Stored.rollback_committed ..)

theorem Fresh.lawful (fresh : server.Fresh) : server.Lawful := by
  intro id
  rw [fresh.unopened]
  exact Stored.own_of_free fresh.free id

/-- A write over a status its action may not move commits a forbidden edge. -/
theorem Lawful.forbidden (lawful : server.Lawful) {now : Time} (flushed : server.flush id now = some next)
    (committed : next.commit id = some last) (forbidden : server.writesMovable (.flush id now) = false) :
    ¬ LawfulStep (.commit id) next last := by
  have fits := lawful id
  rw [AgentServer.flush] at flushed
  split at flushed
  on_goal 2 => cases flushed
  rename_i action read set agent isFlushed found
  cases flushed
  rw [AgentServer.commit] at committed
  dsimp only [setSession] at committed
  rw [Function.update_self] at committed
  cases committed
  rw [writesMovable, found] at forbidden
  cases session : server.sessions id with
  | found act copy =>
    rw [session] at isFlushed forbidden fits
    cases isFlushed
    obtain ⟨free, allowed⟩ := fits
    obtain ⟨notAllowed, notTarget⟩ := Bool.or_eq_false_iff.mp forbidden
    rw [LawfulStep, Stored.commit_of_own (Stored.own_write id _ server.stored)]
    dsimp only [setSession, Stored.write_committed]
    rw [AgentRow.approvalStatus_flush (AgentAction.moves allowed), AgentAction.approvalStatus_apply,
      ← Stored.found_unwritten free found]
    rintro (same | ⟨other, own, isCommit, wrote, edge⟩)
    · exact of_decide_eq_false notTarget same.symm
    · cases isCommit
      rw [Function.update_self] at wrote
      cases wrote
      exact of_decide_eq_false notAllowed edge.1
  | _ =>
    rw [session] at forbidden
    cases forbidden

end AgentServer

/-- **The lifecycle of an agent**: in every run in which each action that takes no lock
writes over a status it may move, each commit moves the stored status by its action's
edge; a write over another status commits a forbidden one. -/
theorem lifecycle_edges {security : AgentSecurity} {start server : AgentServer} (fresh : start.Fresh)
    (runs : Runs (AgentServer.step security) AgentServer.writesMovable start server) :
    (∀ statement next, server.writesMovable statement = true →
      AgentServer.step security statement server = some next → LawfulStep statement server next) ∧
    (∀ id now next last, AgentServer.step security (.flush id now) server = some next →
      AgentServer.step security (.commit id) next = some last →
      (server.writesMovable (.flush id now) = true ↔ LawfulStep (.commit id) next last)) := by
  have lawful : server.Lawful :=
    runs.keeps (fun _ _ _ movable stepped now => (now.step movable stepped).1) fresh.lawful
  refine ⟨fun statement next movable stepped => (lawful.step movable stepped).2, ?_⟩
  intro id now next last flushed committed
  refine ⟨fun movable => ?_, fun step => ?_⟩
  · exact ((lawful.flush movable flushed).commit committed).2
  · by_contra forbidden
    exact lawful.forbidden flushed committed (Bool.eq_false_of_not_eq_true forbidden) step

/-! ## An archive while a resume is under way -/

/-- Authentication is on, and nothing matches. -/
def noCredentials : AgentSecurity := ⟨true, fun _ _ => false, id, fun _ => false⟩

def pausedAgent : AgentServer where
  stored := ⟨{ approvalStatus := .paused }, none⟩

theorem pausedAgent_fresh : pausedAgent.Fresh := ⟨rfl, fun _ => rfl⟩

def archivedPaused : List AgentStatement :=
  [.openSession 1 (.act .archive), .read 1 {}, .flush 1 5, .commit 1]

/-- A paused agent is archived, and a resume that reads it after is refused. -/
theorem archived_after_pause : ∃ server,
    runAll (AgentServer.step noCredentials) AgentServer.writesMovable
      ([.openSession 2 (.act .resume)] ++ archivedPaused ++ [.read 2 {}]) pausedAgent = some server ∧
    server.stored.committed.approvalStatus = .archived ∧
    ∀ statement next, server.writesMovable statement = true →
      AgentServer.step noCredentials statement server = some next → LawfulStep statement server next := by
  have lawful : ∀ server, runAll (AgentServer.step noCredentials) AgentServer.writesMovable
      ([.openSession 2 (.act .resume)] ++ archivedPaused ++ [.read 2 {}]) pausedAgent = some server →
      ∀ statement next, server.writesMovable statement = true →
        AgentServer.step noCredentials statement server = some next → LawfulStep statement server next :=
    fun server ran => (lifecycle_edges pausedAgent_fresh (.of_runAll ran)).1
  exact ⟨_, rfl, rfl, lawful _ rfl⟩

/-- A resume that read the agent before it was archived makes it active. -/
theorem archived_becomes_active : ∃ server next,
    runAll (AgentServer.step noCredentials) (fun _ _ => true)
      ([.openSession 2 (.act .resume), .read 2 {}] ++ archivedPaused ++ [.flush 2 6]) pausedAgent = some server ∧
    AgentServer.step noCredentials (.commit 2) server = some next ∧
    server.stored.committed.approvalStatus = .archived ∧ next.stored.committed.approvalStatus = .active ∧
    ¬ LawfulStep (.commit 2) server next := by
  refine ⟨_, _, rfl, rfl, rfl, rfl, ?_⟩
  rintro (same | ⟨other, own, isCommit, wrote, edge⟩)
  · exact absurd same (by decide)
  · cases isCommit
    cases wrote
    exact absurd edge.1 (by decide)

end LuxSwirl.Server
