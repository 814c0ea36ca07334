import LuxSwirl.Agent.Registration

/-!
# An agent's identity

An agent that holds an id, a key and a recovery secret keeps the id and the secret
while nothing marks its answers as the server's refusals, and takes others only
from a registration the server answered. Two ways around this are in the code: a
check fetch answered 404 clears the credentials first, and so does an agent whose
registration brought no secret.
-/

namespace LuxSwirl.Agent
open LuxSwirl.Py LuxSwirl.Lib

/-! ## What the answers brought -/

/-- The id and secret of a registration that was answered with them. -/
def Asked.registration (asked : Asked) : Option (Nat × Value) :=
  if asked.request = .register then asked.response.bind ServerResponse.registered else none

/-- The key of a recovery that was answered with one. -/
def Asked.key (asked : Asked) : Option Value :=
  if asked.request = .recoverKey then asked.response.bind ServerResponse.recoveredKey else none

/-- The ids and secrets the agent was given: its first, and those of registrations. -/
def identities (start : StoredCredentials) (asked : List Asked) : List (Nat × Value) :=
  (start.agentId, start.recoverySecret) :: asked.filterMap Asked.registration

/-- The keys the agent was given: its first, and the recovered ones. -/
def keysGiven (start : StoredCredentials) (asked : List Asked) : List Value :=
  start.apiKey :: asked.filterMap Asked.key

/-- The key recovered last, else the first. -/
def lastKey (start : StoredCredentials) (asked : List Asked) : Value :=
  (asked.filterMap Asked.key).getLast?.getD start.apiKey

theorem lastKey_mem {start : StoredCredentials} {asked : List Asked} :
    lastKey start asked ∈ keysGiven start asked := by
  unfold lastKey keysGiven
  cases last : (asked.filterMap Asked.key).getLast? with
  | none => simp
  | some key => exact List.mem_cons_of_mem _ (List.mem_of_getLast? last)

namespace Outside

/-- No answer carries the server's refusal mark. -/
def Unmarked (out : Outside) : Prop :=
  ∀ past request response, out.answer past request = some response →
    response.isMarkedRefusal = false

/-- No check fetch is answered 404. -/
def Finds (out : Outside) : Prop :=
  ∀ past response, out.answer past .checks = some response → response.statusCode ≠ 404

/-- A registration that is answered brings a secret. -/
def GivesSecrets (out : Outside) : Prop :=
  ∀ past response agentId secret, out.answer past .register = some response →
    response.registered = some (agentId, secret) → truthy secret = true

end Outside

/-- An agent that holds `start`, in memory and in its file, and was refused nothing. -/
structure Holding (start : StoredCredentials) (agent : AgentProcess) : Prop where
  credentials : agent.credentials = ⟨some start.agentId, start.apiKey, start.recoverySecret, false⟩
  file : agent.file = some start
  agentId : agent.agentId = some start.agentId
  apiKey : truthy start.apiKey = true
  recoverySecret : truthy start.recoverySecret = true
  registration : agent.registration.secretRefused = false
  sender : agent.sender.secretRefused = false
  asked : agent.asked = []

/-! ## What a run keeps -/

/-- The agent's id and secret are ones it was given. -/
structure Sourced (start : StoredCredentials) (agent : AgentProcess) : Prop where
  held : ∃ own ∈ identities start agent.asked, agent.credentials.agentId = some own.1 ∧
    agent.agentId = some own.1 ∧ agent.credentials.recoverySecret = own.2
  kept : ∃ file, agent.file = some file ∧
    (file.agentId, file.recoverySecret) ∈ identities start agent.asked
  secret : ∀ own ∈ identities start agent.asked, truthy own.2 = true

/-- The agent registered nothing, and its key is the last it was given. -/
structure Unrefused (start : StoredCredentials) (agent : AgentProcess) : Prop where
  registration : agent.registration.secretRefused = false
  sender : agent.sender.secretRefused = false
  unregistered : ∀ asked ∈ agent.asked, asked.request ≠ .register
  held : agent.credentials.apiKey = lastKey start agent.asked
  kept : ∃ file, agent.file = some file ∧ file.apiKey ∈ keysGiven start agent.asked ∧
    (agent.credentials.unsaved = false → file.apiKey = lastKey start agent.asked)
  key : ∀ key ∈ keysGiven start agent.asked, truthy key = true

structure Kept (out : Outside) (start : StoredCredentials) (agent : AgentProcess) : Prop where
  sourced : Sourced start agent
  unrefused : out.Unmarked → Unrefused start agent

variable {out : Outside} {start : StoredCredentials} {agent after : AgentProcess}

theorem Holding.kept (holding : Holding start agent) : Kept out start agent := by
  obtain ⟨credentials, file, agentId, apiKey, recoverySecret, registration, sender, asked⟩ := holding
  refine ⟨⟨?_, ⟨start, file, ?_⟩, ?_⟩, fun _ => ⟨registration, sender, ?_, ?_, ⟨start, file, ?_, ?_⟩, ?_⟩⟩
  · exact ⟨(start.agentId, start.recoverySecret), by simp [identities], by rw [credentials],
      agentId, by rw [credentials]⟩
  · simp [identities]
  · simpa [identities, asked] using recoverySecret
  · simp [asked]
  · simp [lastKey, asked, credentials]
  · simp [keysGiven]
  · simp [lastKey, asked]
  · simpa [keysGiven, asked] using apiKey

/-- What nothing on the agent's identity depends on may change. -/
theorem Kept.frame (kept : Kept out start agent) (credentials : after.credentials = agent.credentials)
    (file : after.file = agent.file) (agentId : after.agentId = agent.agentId)
    (asked : after.asked = agent.asked)
    (registration : out.Unmarked → agent.registration.secretRefused = false →
      after.registration.secretRefused = false)
    (sender : out.Unmarked → agent.sender.secretRefused = false →
      after.sender.secretRefused = false) : Kept out start after := by
  obtain ⟨⟨held, kept, secret⟩, unrefused⟩ := kept
  refine ⟨⟨?_, ?_, ?_⟩, fun unmarked => ?_⟩
  · rwa [asked, credentials, agentId]
  · rwa [file, asked]
  · rwa [asked]
  · obtain ⟨noRegistration, noSender, unregistered, ownKey, keptKey, key⟩ := unrefused unmarked
    refine ⟨registration unmarked noRegistration, sender unmarked noSender, ?_, ?_, ?_, ?_⟩
    · rwa [asked]
    · rwa [asked, credentials]
    · rwa [file, asked, credentials]
    · rwa [asked]

theorem Kept.looked (kept : Kept out start agent) : Kept out start agent.looked :=
  kept.frame rfl rfl rfl rfl (fun _ same => same) fun _ same => same

/-- The secret the agent holds is one that counts. -/
theorem Kept.hasSecret (kept : Kept out start agent) :
    truthy agent.credentials.recoverySecret = true := by
  obtain ⟨own, mem, -, -, secret⟩ := kept.sourced.held
  rw [secret]
  exact kept.sourced.secret own mem

/-- A request that brings neither credentials nor a key. -/
theorem Kept.record (kept : Kept out start agent) {request : AgentRequest}
    {response : Option ServerResponse} (registration : (Asked.mk request response).registration = none)
    (key : (Asked.mk request response).key = none)
    (other : out.Unmarked → request ≠ .register) :
    Kept out start (agent.record request response) := by
  obtain ⟨⟨held, kept, secret⟩, unrefused⟩ := kept
  have identities_eq : identities start (agent.asked ++ [Asked.mk request response]) =
      identities start agent.asked := by
    simp [identities, List.filterMap_append, registration]
  have keys_eq : (agent.asked ++ [Asked.mk request response]).filterMap Asked.key =
      agent.asked.filterMap Asked.key := by
    simp [List.filterMap_append, key]
  refine ⟨⟨?_, ?_, ?_⟩, fun unmarked => ?_⟩
  · simpa only [AgentProcess.record, identities_eq] using held
  · simpa only [AgentProcess.record, identities_eq] using kept
  · simpa only [AgentProcess.record, identities_eq] using secret
  · obtain ⟨noRegistration, noSender, unregistered, ownKey, keptKey, key⟩ := unrefused unmarked
    refine ⟨noRegistration, noSender, ?_, ?_, ?_, ?_⟩
    · intro asked mem
      rcases List.mem_append.mp mem with old | new
      · exact unregistered asked old
      · rw [List.mem_singleton.mp new]
        exact other unmarked
    · simpa only [AgentProcess.record, lastKey, keys_eq] using ownKey
    · simpa only [AgentProcess.record, lastKey, keysGiven, keys_eq] using keptKey
    · simpa only [AgentProcess.record, keysGiven, keys_eq] using key

/-! ## Saves -/

/-- The file takes what the agent holds. -/
theorem Kept.stored (kept : Kept out start agent) {agentId : Nat}
    (own : agent.credentials.agentId = some agentId) :
    Kept out start
      (agent.stored agentId agent.credentials.apiKey agent.credentials.recoverySecret) := by
  have hasSecret := kept.hasSecret
  obtain ⟨⟨⟨identity, mem, ownId, configured, ownSecret⟩, -, secret⟩, unrefused⟩ := kept
  obtain rfl : agentId = identity.1 := Option.some_inj.mp (own.symm.trans ownId)
  refine ⟨⟨⟨identity, mem, rfl, configured, ownSecret⟩, ⟨_, rfl, ?_⟩, secret⟩, fun unmarked => ?_⟩
  · show (identity.1, written agent.credentials.recoverySecret) ∈ _
    rw [written_of_truthy hasSecret, ownSecret]
    exact mem
  · obtain ⟨noRegistration, noSender, unregistered, ownKey, -, key⟩ := unrefused unmarked
    have asFile : written agent.credentials.apiKey = lastKey start agent.asked := by
      rw [ownKey, written_of_truthy (key _ lastKey_mem)]
    exact ⟨noRegistration, noSender, unregistered, ownKey,
      ⟨_, rfl, asFile ▸ lastKey_mem, fun _ => asFile⟩, key⟩

theorem Kept.retryUnsaved (kept : Kept out start agent) :
    Kept out start (retryUnsaved out agent) := by
  unfold Agent.retryUnsaved
  split
  · cases own : agent.credentials.agentId with
    | none => exact kept
    | some agentId =>
      simp only [save, savedSecret_of_truthy kept.hasSecret]
      split
      · exact kept.looked.stored own
      · exact kept.looked
  · exact kept

/-! ## Recovered keys -/

/-- A key the server handed out, kept in memory. -/
theorem Kept.given (kept : Kept out start agent) {response : ServerResponse} {apiKey : Value}
    (brought : response.recoveredKey = some apiKey) :
    Kept out start
      (holdUnsaved apiKey (agent.record .recoverKey (some response))) := by
  have new : (Asked.mk .recoverKey (some response)).key = some apiKey := brought
  have old : (Asked.mk .recoverKey (some response)).registration = none := rfl
  have identities_eq : identities start (agent.asked ++ [Asked.mk .recoverKey (some response)]) =
      identities start agent.asked := by
    simp [identities, List.filterMap_append, old]
  have keys_eq : (agent.asked ++ [Asked.mk .recoverKey (some response)]).filterMap Asked.key =
      agent.asked.filterMap Asked.key ++ [apiKey] := by
    simp [List.filterMap_append, new]
  have counts : truthy apiKey = true := by
    unfold ServerResponse.recoveredKey at brought
    split at brought
    · exact (Option.filter_eq_some_iff.mp brought).2
    · cases brought
  obtain ⟨⟨held, kept, secret⟩, unrefused⟩ := kept
  refine ⟨⟨?_, ?_, ?_⟩, fun unmarked => ?_⟩
  · simpa only [holdUnsaved, AgentProcess.record, identities_eq] using held
  · simpa only [holdUnsaved, AgentProcess.record, identities_eq] using kept
  · simpa only [holdUnsaved, AgentProcess.record, identities_eq] using secret
  · obtain ⟨noRegistration, noSender, unregistered, -, ⟨file, same, mem, -⟩, key⟩ :=
      unrefused unmarked
    refine ⟨noRegistration, noSender, ?_, ?_, ⟨file, same, ?_, ?_⟩, ?_⟩
    · intro asked mem
      rcases List.mem_append.mp mem with old | new
      · exact unregistered asked old
      · rw [List.mem_singleton.mp new]
        exact AgentRequest.noConfusion
    · simp [holdUnsaved, AgentProcess.record, lastKey, keys_eq]
    · have := List.mem_append_left [apiKey] mem
      simpa [keysGiven, keys_eq, holdUnsaved, AgentProcess.record] using this
    · exact fun saved => nomatch saved
    · intro given mem
      simp only [holdUnsaved, AgentProcess.record, keysGiven, keys_eq] at mem
      rcases List.mem_cons.mp mem with rfl | mem
      · exact key _ List.mem_cons_self
      · rcases List.mem_append.mp mem with old | new
        · exact key _ (List.mem_cons_of_mem _ old)
        · rwa [List.mem_singleton.mp new]

theorem secretRefused_recovered (now : ℚ) (registration : AgentRegistration) :
    (registration.recovered now).secretRefused = registration.secretRefused := by
  unfold AgentRegistration.recovered
  split <;> rfl

theorem secretRefused_refused {response : ServerResponse} (unmarked : response.isMarkedRefusal = false)
    (now : ℚ) (registration : AgentRegistration) :
    (registration.refused response now).secretRefused = registration.secretRefused := by
  have notSecret : response.refusesRecoverySecret = false := by
    unfold ServerResponse.isMarkedRefusal at unmarked
    unfold ServerResponse.refusesRecoverySecret
    rw [Option.isSome_eq_false_iff.mp unmarked |> Option.isNone_iff_eq_none.mp]
    rfl
  unfold AgentRegistration.refused
  rw [notSecret]
  simp only [Bool.false_eq_true, if_false]
  split
  · rfl
  · split
    · rfl
    · split <;> rfl

theorem Kept.takeKey (kept : Kept out start agent) {response : ServerResponse} {apiKey : Value}
    {agentId : Nat} (configured : agent.agentId = some agentId)
    (brought : response.recoveredKey = some apiKey) :
    Kept out start (takeKey out agentId apiKey (agent.record .recoverKey (some response))) := by
  have own : agent.credentials.agentId = some agentId := by
    obtain ⟨identity, -, ownId, sameId, -⟩ := kept.sourced.held
    rw [ownId, ← sameId, configured]
  have given := kept.given brought
  have sameSecret : savedSecret agentId .none (holdBackRepeatedRecovery out
      (agent.record .recoverKey (some response))).credentials = agent.credentials.recoverySecret :=
    savedSecret_of_held own
  unfold Agent.takeKey save
  rw [sameSecret]
  by_cases works : out.saves (holdBackRepeatedRecovery out
      (agent.record .recoverKey (some response))).looks = true
  · rw [if_pos works]
    exact (given.stored own).frame rfl rfl rfl rfl
      (fun _ same => (secretRefused_recovered _ _).trans same) fun _ same => same
  · rw [if_neg works]
    exact given.frame rfl rfl rfl rfl
      (fun _ same => (secretRefused_recovered _ _).trans same) fun _ same => same

/-! ## Registrations -/

/-- A registration the server answered, kept in memory. -/
theorem Kept.registered (kept : Kept out start agent) (marked : ¬out.Unmarked)
    {response : ServerResponse} {agentId : Nat} {secret : Value}
    (brought : response.registered = some (agentId, secret)) (counts : truthy secret = true) :
    Kept out start
      { holdUnsavedRegistration agentId secret (agent.record .register (some response)) with
        agentId := some agentId } := by
  have new : (Asked.mk .register (some response)).registration = some (agentId, secret) := brought
  have identities_eq : identities start (agent.asked ++ [Asked.mk .register (some response)]) =
      identities start agent.asked ++ [(agentId, secret)] := by
    simp [identities, List.filterMap_append, new]
  obtain ⟨⟨-, ⟨file, same, mem⟩, old⟩, -⟩ := kept
  refine ⟨⟨⟨(agentId, secret), ?_, rfl, rfl, rfl⟩, ⟨file, same, ?_⟩, ?_⟩,
    fun unmarked => absurd unmarked marked⟩
  · simp [holdUnsavedRegistration, AgentProcess.record, identities_eq]
  · simp [holdUnsavedRegistration, AgentProcess.record, identities_eq, mem]
  · intro own mem
    simp only [holdUnsavedRegistration, AgentProcess.record, identities_eq] at mem
    rcases List.mem_append.mp mem with before | new
    · exact old own before
    · rwa [List.mem_singleton.mp new]

theorem Kept.takeRegistration (kept : Kept out start agent) (marked : ¬out.Unmarked)
    {response : ServerResponse} {agentId : Nat} {secret : Value}
    (brought : response.registered = some (agentId, secret)) (counts : truthy secret = true) :
    Kept out start
      (takeRegistration out agentId secret (agent.record .register (some response))) := by
  have taken := kept.registered marked brought counts
  unfold Agent.takeRegistration save
  rw [savedSecret_of_truthy counts]
  by_cases works : out.saves (agent.record .register (some response)).looks = true
  · rw [if_pos works]
    exact (taken.stored rfl).frame rfl rfl rfl rfl
      (fun unmarked => absurd unmarked marked) fun unmarked => absurd unmarked marked
  · rw [if_neg works]
    exact taken.frame rfl rfl rfl rfl
      (fun unmarked => absurd unmarked marked) fun unmarked => absurd unmarked marked

theorem Kept.registerWithServer (kept : Kept out start agent) (marked : ¬out.Unmarked)
    (secrets : out.GivesSecrets) : Kept out start (registerWithServer out agent).2 := by
  unfold Agent.registerWithServer
  cases answer : out.answer agent.asked .register with
  | none => exact kept.record rfl rfl fun unmarked => absurd unmarked marked
  | some response =>
    cases brought : response.registered with
    | none =>
      simp only [Option.bind_some, brought]
      exact kept.record (if_pos rfl |>.trans brought) rfl fun unmarked => absurd unmarked marked
    | some identity =>
      simp only [Option.bind_some, brought]
      exact kept.takeRegistration marked brought (secrets _ _ _ _ answer brought)

/-! ## Requests of the agent -/

theorem Kept.askForKey (kept : Kept out start agent) {agentId : Nat}
    (configured : agent.agentId = some agentId) :
    Kept out start (askForKey out agentId agent).2 := by
  unfold Agent.askForKey
  cases answer : out.answer agent.asked .recoverKey with
  | none => exact kept.record rfl rfl fun _ => AgentRequest.noConfusion
  | some response =>
    by_cases success : response.isSuccess = true
    · simp only [success, if_true]
      cases brought : response.recoveredKey with
      | none => exact kept.record rfl (if_pos rfl |>.trans brought) fun _ => AgentRequest.noConfusion
      | some apiKey => exact kept.takeKey configured brought
    · have noKey : (Asked.mk .recoverKey (some response)).key = none := if_neg success
      simp only [success]
      refine (kept.record rfl noKey fun _ => AgentRequest.noConfusion).frame
        rfl rfl rfl rfl (fun unmarked same => ?_) fun _ same => same
      exact (secretRefused_refused (unmarked _ _ _ answer) _ _).trans same

theorem Kept.recoverAgentKey (kept : Kept out start agent) :
    Kept out start (recoverAgentKey out agent).2 := by
  unfold Agent.recoverAgentKey
  split
  · exact kept
  · have hasSecret : truthy agent.looked.credentials.recoverySecret = true := kept.hasSecret
    simp only [hasSecret, if_true]
    split
    · exact kept.looked
    · cases configured : agent.looked.agentId with
      | none => exact kept.looked
      | some agentId =>
        by_cases registrationKey : truthy agent.looked.registrationKey = true
        · simp only [registrationKey, if_true]
          exact kept.looked.askForKey configured
        · simp only [registrationKey]
          exact kept.looked

theorem Kept.fetchChecks (kept : Kept out start agent) (finds : out.Finds) (depth : Nat) :
    Kept out start (fetchChecks out depth agent) := by
  cases depth with
  | zero => exact kept
  | succ depth =>
    unfold Agent.fetchChecks
    split
    · exact kept
    · dsimp only
      have found : (out.answer agent.asked .checks).map (·.statusCode) ≠ some 404 := by
        intro missing
        obtain ⟨response, answer, status⟩ := Option.map_eq_some_iff.mp missing
        exact finds _ _ answer status
      rw [if_neg found]
      exact kept.record rfl rfl fun _ => AgentRequest.noConfusion

theorem Kept.noteKeyRefused (kept : Kept out start agent) (refused : Bool) :
    Kept out start (agent.noteKeyRefused refused) :=
  kept.frame rfl rfl rfl rfl (fun _ same => same) fun _ same => same

theorem Kept.noteOwnKey (kept : Kept out start agent) (refused : Option Bool) :
    Kept out start (noteOwnKey out refused agent) := by
  rcases refused with _ | (_ | _)
  · exact kept
  · exact (kept.noteKeyRefused false).retryUnsaved
  · exact kept.noteKeyRefused true

theorem Kept.readRefusal (kept : Kept out start agent) {response : ServerResponse}
    (unmarked : out.Unmarked → response.isMarkedRefusal = false) (sentSecret : Bool) :
    Kept out start (readRefusal sentSecret response agent) := by
  unfold Agent.readRefusal
  split
  · rename_i marked
    have noted : Kept out start (agent.noteSecretRefused true) :=
      kept.frame rfl rfl rfl rfl (fun _ same => same) fun none => by
        rw [unmarked none] at marked
        cases marked
    split
    · split
      · exact noted
      · exact kept
    · split
      · exact kept.noteKeyRefused true
      · exact kept
  · exact kept

section
variable (whole : out.Unmarked ∨ out.GivesSecrets)
include whole

/-- Only a marked refusal makes the agent register again. -/
theorem Kept.registerAgain (kept : Kept out start agent) (marked : ¬out.Unmarked) :
    Kept out start (registerAgain out agent).2 := by
  have registered := kept.registerWithServer marked (whole.resolve_left marked)
  unfold Agent.registerAgain
  cases answer : Agent.registerWithServer out agent with
  | mk taken after =>
    rw [answer] at registered
    cases taken <;>
      exact registered.frame rfl rfl rfl rfl
        (fun unmarked => absurd unmarked marked) fun unmarked => absurd unmarked marked

theorem Kept.registerAgainAfterRevoke (kept : Kept out start agent) :
    Kept out start (registerAgainAfterRevoke out agent).2 := by
  have marked {agent : AgentProcess} (kept : Kept out start agent)
      (refused : agent.registration.secretRefused = true) : ¬out.Unmarked := by
    intro unmarked
    rw [(kept.unrefused unmarked).registration] at refused
    cases refused
  unfold Agent.registerAgainAfterRevoke
  dsimp only
  split
  · exact kept.looked
  · split
    · exact kept.looked.registerAgain whole (marked kept.looked ‹_›)
    · have recovered := kept.looked.recoverAgentKey
      cases answer : Agent.recoverAgentKey out agent.looked with
      | mk taken after =>
        rw [answer] at recovered
        cases taken with
        | true => exact recovered
        | false =>
          dsimp only
          split
          · exact recovered.registerAgain whole (marked recovered ‹_›)
          · exact recovered

theorem Kept.handleRecoverySecretRefused (kept : Kept out start agent) :
    Kept out start (handleRecoverySecretRefused out agent).2 := by
  have again := kept.registerAgainAfterRevoke whole
  unfold Agent.handleRecoverySecretRefused
  dsimp only
  split
  · exact again
  · exact again.looked

theorem Kept.handleAgentApproved (kept : Kept out start agent) :
    Kept out start (handleAgentApproved out agent).2 := by
  have recovered := kept.recoverAgentKey
  unfold Agent.handleAgentApproved
  cases answer : Agent.recoverAgentKey out agent with
  | mk taken after =>
    rw [answer] at recovered
    cases taken with
    | true => exact recovered.looked
    | false =>
      dsimp only
      split
      · exact recovered.handleRecoverySecretRefused whole
      · exact recovered

theorem Kept.handleAgentApproval (kept : Kept out start agent) (response : ServerResponse) :
    Kept out start (handleAgentApproval out response agent).2 := by
  have approved := kept.handleAgentApproved whole
  unfold Agent.handleAgentApproval
  split
  · cases answer : Agent.handleAgentApproved out agent with
    | mk handled after =>
      rw [answer] at approved
      rcases handled with _ | (_ | _)
      · exact approved
      · exact approved
      · exact approved.noteKeyRefused false
  · exact kept

/-! ## Turns -/

theorem Kept.readAnswer (kept : Kept out start agent) (finds : out.Finds) (beat : Beat)
    (sentSecret : Bool) (response : ServerResponse) :
    Kept out start (readAnswer out beat sentSecret response agent) := by
  unfold Agent.readAnswer
  split
  · exact kept
  · rename_i refused _
    have noted := kept.noteOwnKey refused
    dsimp only
    split
    · split
      · exact noted
      · have approved := noted.handleAgentApproval whole response
        cases answer : Agent.handleAgentApproval out response (Agent.noteOwnKey out refused agent) with
        | mk handled after =>
          rw [answer] at approved
          cases handled with
          | none => exact approved
          | some _ =>
            dsimp only
            split
            · exact approved.fetchChecks finds beat.depth
            · exact approved
    · exact noted

theorem Kept.registerAgainIfRefused (kept : Kept out start agent) :
    Kept out start (registerAgainIfRefused out agent) := by
  have handled := kept.handleRecoverySecretRefused whole
  unfold Agent.registerAgainIfRefused
  split
  · cases answer : Agent.handleRecoverySecretRefused out agent with
    | mk registered after =>
      rw [answer] at handled
      rcases registered with _ | (_ | _)
      · exact handled
      · exact handled
      · exact handled.frame rfl rfl rfl rfl (fun _ same => same) fun _ _ => rfl
  · exact kept

theorem Kept.sendHeartbeat (kept : Kept out start agent) (finds : out.Finds) (beat : Beat) :
    Kept out start (sendHeartbeat out beat agent) := by
  unfold Agent.sendHeartbeat
  dsimp only
  cases answer : out.answer agent.asked (.heartbeat agent.sendsSecret) with
  | none => exact kept.record rfl rfl fun _ => AgentRequest.noConfusion
  | some response =>
    have sent : Kept out start (agent.record (.heartbeat agent.sendsSecret) (some response)) :=
      kept.record rfl rfl fun _ => AgentRequest.noConfusion
    dsimp only
    split
    · refine Kept.registerAgainIfRefused whole ?_
      exact (sent.readAnswer whole finds beat _ response).frame rfl rfl rfl rfl
        (fun _ same => same) fun _ _ => rfl
    · exact (sent.readRefusal (fun unmarked => unmarked _ _ _ answer) _).registerAgainIfRefused
        whole

theorem Kept.takeTurn (kept : Kept out start agent) (finds : out.Finds) (turn : Turn) :
    Kept out start (takeTurn out agent turn) := by
  cases turn with
  | start =>
    simp only [Agent.takeTurn, ensureRecoverable, kept.hasSecret, Bool.or_true, if_true]
    exact kept
  | loadChecks depth => exact kept.fetchChecks finds depth
  | heartbeat beat => exact kept.sendHeartbeat whole finds beat

/-- What any number of turns leaves. -/
theorem Kept.runTurns (kept : Kept out start agent) (finds : out.Finds) (turns : List Turn) :
    Kept out start (runTurns out turns agent) := by
  induction turns generalizing agent with
  | nil => exact kept
  | cons turn turns ih => exact ih (kept.takeTurn whole finds turn)

end

/-! ## The identity -/

theorem Unrefused.identities (unrefused : Unrefused start agent) :
    identities start agent.asked = [(start.agentId, start.recoverySecret)] := by
  have none : agent.asked.filterMap Asked.registration = [] := by
    rw [List.filterMap_eq_nil_iff]
    exact fun asked mem => if_neg (unrefused.unregistered asked mem)
  rw [Agent.identities, none]

/-- **Only the server's word costs an agent its identity.** While no check fetch is
answered 404: with no marked answer the agent registers nothing, and a recovered key
is all that changes in memory and in the file; with any answers whose registrations
bring a secret, the id and the secret are ones a registration brought. -/
theorem identity_is_given (holding : Holding start agent) (finds : out.Finds)
    (turns : List Turn) :
    (out.Unmarked →
      (∀ asked ∈ (runTurns out turns agent).asked, asked.request ≠ .register) ∧
      (runTurns out turns agent).credentials.agentId = some start.agentId ∧
      (runTurns out turns agent).credentials.recoverySecret = start.recoverySecret ∧
      (runTurns out turns agent).credentials.apiKey =
        lastKey start (runTurns out turns agent).asked ∧
      ∃ key ∈ keysGiven start (runTurns out turns agent).asked,
        (runTurns out turns agent).file = some ⟨start.agentId, key, start.recoverySecret⟩ ∧
        ((runTurns out turns agent).credentials.unsaved = false →
          key = lastKey start (runTurns out turns agent).asked)) ∧
    (out.GivesSecrets →
      (∃ own ∈ identities start (runTurns out turns agent).asked,
        (runTurns out turns agent).credentials.agentId = some own.1 ∧
        (runTurns out turns agent).credentials.recoverySecret = own.2) ∧
      ∃ own ∈ identities start (runTurns out turns agent).asked, ∃ key,
        (runTurns out turns agent).file = some ⟨own.1, key, own.2⟩) := by
  refine ⟨fun unmarked => ?_, fun secrets => ?_⟩
  · have kept : Kept out start (runTurns out turns agent) :=
      holding.kept.runTurns (.inl unmarked) finds turns
    have unrefused := kept.unrefused unmarked
    have one := unrefused.identities
    obtain ⟨⟨own, mem, ownId, -, ownSecret⟩, ⟨file, same, stored⟩, -⟩ := kept.sourced
    obtain ⟨file', same', key, current⟩ := unrefused.kept
    obtain rfl : file = file' := Option.some_inj.mp (same.symm.trans same')
    rw [one, List.mem_singleton] at mem stored
    obtain rfl := mem
    obtain ⟨fileId, fileSecret⟩ := Prod.mk.inj stored
    refine ⟨unrefused.unregistered, ownId, ownSecret, unrefused.held, file.apiKey, key, ?_,
      current⟩
    rw [same, ← fileId, ← fileSecret]
  · obtain ⟨⟨own, mem, ownId, -, ownSecret⟩, ⟨file, same, stored⟩, -⟩ :=
      (holding.kept.runTurns (.inr secrets) finds turns).sourced
    exact ⟨⟨own, mem, ownId, ownSecret⟩, _, stored, file.apiKey, same⟩

/-! ## Fixed answers -/

/-- An agent's first credentials. -/
def firstCredentials : StoredCredentials := ⟨1, .str (text "key"), .str (text "secret")⟩

/-- The agent that holds them. -/
def firstAgent : AgentProcess where
  credentials := ⟨some 1, .str (text "key"), .str (text "secret"), false⟩
  file := some firstCredentials
  agentId := some 1
  authKey := .str (text "key")
  registrationKey := .str (text "shared")

theorem firstAgent_holding : Holding firstCredentials firstAgent where
  credentials := rfl
  file := rfl
  agentId := rfl
  apiKey := rfl
  recoverySecret := rfl
  registration := rfl
  sender := rfl
  asked := rfl

/-- Surroundings that answer the requests one after another, whatever they are. -/
def answeredInTurn (answers : List ServerResponse) : Outside where
  answer past _ := answers[past.length]?
  saves _ := true
  unlinks _ := true
  moves _ := true
  monotonic _ := 0

theorem inTurn_unmarked {answers : List ServerResponse}
    (unmarked : ∀ response ∈ answers, response.isMarkedRefusal = false) :
    (answeredInTurn answers).Unmarked :=
  fun _ _ response answer => unmarked response (List.mem_of_getElem? answer)

theorem inTurn_finds {answers : List ServerResponse}
    (finds : ∀ response ∈ answers, response.statusCode ≠ 404) : (answeredInTurn answers).Finds :=
  fun _ response answer => finds response (List.mem_of_getElem? answer)

/-- A JSON object of texts. -/
def objectOf (fields : List (String × String)) : Option Value :=
  some (.dict (fields.map fun entry => (fieldKey entry.1, .str (text entry.2))))

/-- A refused key, recovered with one request. -/
def keyTaken : List ServerResponse :=
  [{ statusCode := 200
     json := some (.dict [(fieldKey "agent_key_accepted", .bool false),
       (fieldKey "approval_status", .str (text "active"))]) },
   { statusCode := 200, json := objectOf [("api_key", "new")] }]

theorem identity_of_key_taken :
    Holding firstCredentials firstAgent ∧ (answeredInTurn keyTaken).Unmarked ∧
    (∀ asked ∈ (runTurns (answeredInTurn keyTaken) [.heartbeat {}] firstAgent).asked,
      asked.request ≠ .register) ∧
    (runTurns (answeredInTurn keyTaken) [.heartbeat {}] firstAgent).file =
      some ⟨1, .str (text "new"), .str (text "secret")⟩ := by
  have unmarked : (answeredInTurn keyTaken).Unmarked := inTurn_unmarked (by decide)
  have finds : (answeredInTurn keyTaken).Finds := inTurn_finds (by decide)
  exact ⟨firstAgent_holding, unmarked,
    ((identity_is_given firstAgent_holding finds [.heartbeat {}]).1 unmarked).1, rfl⟩

/-- What a proxy in front of the server answers a check fetch. -/
def notFound : List ServerResponse := [{ statusCode := 404 }]

/-- A key with a status other than 200. -/
def keyCreated : List ServerResponse :=
  [{ statusCode := 200
     json := some (.dict [(fieldKey "agent_key_accepted", .bool false),
       (fieldKey "approval_status", .str (text "active"))]) },
   { statusCode := 201, json := objectOf [("api_key", "new")] }]

/-- A revoke, then a registration answered without a secret and approved. -/
def revokedThenApproved : List ServerResponse :=
  [{ statusCode := 401, refused := some (text "agent-key") },
   { statusCode := 401, refused := some (text "recovery-secret") },
   { statusCode := 401, refused := some (text "recovery-secret") },
   { statusCode := 200
     json := objectOf [("agent_id", "00000000-0000-0000-0000-000000000002")] },
   { statusCode := 200, json := objectOf [("approval_status", "active")] },
   { statusCode := 500 }]

/-- The unmarked 404 of a check fetch makes the agent drop its credentials and register,
a 201 replaces the key, and an agent registered without a secret gives its credentials
up for none. -/
theorem identity_lost :
    Holding firstCredentials firstAgent ∧
    ((answeredInTurn notFound).Unmarked ∧
      (runTurns (answeredInTurn notFound) [.loadChecks 1] firstAgent).asked.map (·.request) =
        [.checks, .register] ∧
      (runTurns (answeredInTurn notFound) [.loadChecks 1] firstAgent).credentials.agentId = none ∧
      (runTurns (answeredInTurn notFound) [.loadChecks 1] firstAgent).file = none) ∧
    ((answeredInTurn keyCreated).Unmarked ∧
      (runTurns (answeredInTurn keyCreated) [.heartbeat {}] firstAgent).file =
        some ⟨1, .str (text "new"), .str (text "secret")⟩) ∧
    ((runTurns (answeredInTurn revokedThenApproved) [.heartbeat {}, .heartbeat {}, .heartbeat {}]
        firstAgent).asked.filterMap Asked.registration = [(2, .none)] ∧
      (runTurns (answeredInTurn revokedThenApproved) [.heartbeat {}, .heartbeat {}, .heartbeat {}]
        firstAgent).file = none) :=
  ⟨firstAgent_holding, ⟨inTurn_unmarked (by decide), rfl, rfl, rfl⟩,
    ⟨inTurn_unmarked (by decide), rfl⟩, by decide +kernel,
    Option.isNone_iff_eq_none.mp (by decide +kernel)⟩

end LuxSwirl.Agent
