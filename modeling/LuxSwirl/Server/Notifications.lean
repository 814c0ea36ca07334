import LuxSwirl.Server.Models

/-!
# Sending notifications

`notification_core_service.py`: one row of the log for each provider, with what
became of the attempt. A disabled provider suppresses it, a provider over its
rate limit refuses it, and a delivery goes out or fails.

How a delivery goes is outside the server, and so is a digest: `Outside` has
one answer for each question the server asks.
-/

namespace LuxSwirl.Server
open LuxSwirl.Py LuxSwirl.Lib

/-- A fallible step that goes on did not fail. -/
theorem except_bind_ok {ε α β : Type} {x : Except ε α} {f : α → Except ε β} {b : β} :
    (x >>= f) = .ok b ↔ ∃ a, x = .ok a ∧ f a = .ok b := by
  cases x <;> simp [bind, Except.bind]

/-- What a notification says, as far as evaluation decides it. -/
structure NotificationContext where
  success : Bool
  isRecovery : Bool
  deriving DecidableEq

/-- Whether to send, and as what. -/
structure SendDecision where
  send : Bool
  isResend : Bool
  resendCount : Nat
  deriving DecidableEq

/-- What the server runs in. -/
structure Outside where
  /-- Whether the provider takes a notification sent at that time. -/
  deliver : Time → Id → NotificationContext → Bool
  /-- The digest of a check's and an agent's ids, as a number. -/
  hrwDigest : Id → Id → Nat
  /-- `settings.server.default_heartbeat_interval` -/
  defaultHeartbeatInterval : Nat

/-- What evaluating an alert can raise. -/
inductive EvaluationError where
  | notFound
  | attributeError
  | typeError
  deriving DecidableEq

/-- A notification for an alert's providers. -/
structure Notice where
  alertId : Id
  stateKey : StateKey
  checkId : Option Id := none
  agentId : Option Id := none
  checkResultId : Option Id := none
  context : NotificationContext
  decision : SendDecision
  deriving DecidableEq

namespace Db

/-- A live provider, by its id. -/
def getProvider (db : Db) (providerId : Id) : Option NotificationProvider :=
  (db.providers.find? fun provider => decide (provider.id = providerId)).filter
    fun provider => provider.deletedAt.isNone

def countForProviderSince (db : Db) (providerId : Id) (since : Time)
    (statuses : List NotificationStatus) : Nat :=
  db.logs.countP fun row =>
    decide (row.notificationProviderId = providerId ∧ since ≤ row.sentAt ∧ row.status ∈ statuses)

end Db

/-- The provider is over its rate limit. -/
def checkRateLimit (now : Time) (provider : NotificationProvider) (db : Db) : Bool :=
  match provider.rateLimitCount.getD 0, provider.rateLimitWindowMinutes.getD 0 with
  | 0, _ => false
  | _, 0 => false
  | limit, window =>
    decide (limit ≤ db.countForProviderSince provider.id (now - minutes window) [.sent, .rateLimited])

/-- What becomes of one provider's attempt. -/
def attempt (outside : Outside) (now : Time) (context : NotificationContext)
    (provider : NotificationProvider) (db : Db) : NotificationStatus :=
  if !provider.isEnabled then .suppressed
  else if checkRateLimit now provider db then .rateLimited
  else if outside.deliver now provider.id context then .sent
  else .failed

/-- The row of one attempt. -/
def Notice.row (notice : Notice) (now : Time) (providerId : Id) (status : NotificationStatus) :
    NotificationLog :=
  { alertId := notice.alertId
    notificationProviderId := providerId
    checkResultId := notice.checkResultId
    checkId := notice.checkId
    agentId := notice.agentId
    checkSuccess := some notice.context.success
    status
    sentAt := now
    notificationHash := some notice.stateKey
    isResend := notice.decision.isResend
    resendCount := notice.decision.resendCount }

/-- Send through several providers; one row for each, in their order. -/
def sendNotifications (outside : Outside) (now : Time) (providerIds : List Id) (notice : Notice)
    (db : Db) : Except EvaluationError (List NotificationLog) :=
  providerIds.mapM fun providerId =>
    match db.getProvider providerId with
    | none => .error .notFound
    | some provider =>
      .ok (notice.row now providerId (attempt outside now notice.context provider db))

/-- Send through each of the alert's live providers. -/
def sendToProviders (outside : Outside) (now : Time) (notice : Notice) (db : Db) :
    Except EvaluationError (List NotificationLog) :=
  let providerIds := (db.listLiveProviders notice.alertId).map (·.id)
  if providerIds = [] then .ok [] else sendNotifications outside now providerIds notice db

/-! ## What a send writes -/

theorem getProvider_of_live {db : Db} {alertId : Id} {provider : NotificationProvider}
    (live : provider ∈ db.listLiveProviders alertId) : db.getProvider provider.id = some provider := by
  obtain ⟨mapping, -, found⟩ := List.mem_filterMap.mp live
  split_ifs at found with set
  obtain ⟨named, alive⟩ := Option.filter_eq_some_iff.mp found
  have same : provider.id = mapping.notificationProviderId := by simpa using List.find?_some named
  rw [Db.getProvider, same]
  exact found

/-- Sending never fails: every live provider is found. -/
theorem sendToProviders_eq (outside : Outside) (now : Time) (notice : Notice) (db : Db) :
    sendToProviders outside now notice db =
      .ok ((db.listLiveProviders notice.alertId).map fun provider =>
        notice.row now provider.id (attempt outside now notice.context provider db)) := by
  have each (providers : List NotificationProvider)
      (found : ∀ provider ∈ providers, db.getProvider provider.id = some provider) :
      sendNotifications outside now (providers.map (·.id)) notice db =
        .ok (providers.map fun provider =>
          notice.row now provider.id (attempt outside now notice.context provider db)) := by
    induction providers with
    | nil => rfl
    | cons provider rest ih =>
      rw [List.forall_mem_cons] at found
      have tail := ih found.2
      rw [sendNotifications] at tail ⊢
      rw [List.map_cons, List.mapM_cons, tail, found.1]
      rfl
  rw [sendToProviders]
  split_ifs with empty
  · rw [List.map_eq_nil_iff.mp empty, List.map_nil]
  · exact each _ fun provider live => getProvider_of_live live

theorem attempt_relevant (outside : Outside) (now : Time) (context : NotificationContext)
    (provider : NotificationProvider) (db : Db) :
    attempt outside now context provider db ∈ dedupRelevantStatuses := by
  unfold attempt
  split_ifs <;> decide

end LuxSwirl.Server
