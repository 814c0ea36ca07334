import LuxSwirl.Lib.Window
import LuxSwirl.Server.Notifications
import Mathlib.Data.List.Induction

/-!
# A provider's rate limit

`send_notifications` through one provider, call after call. A call reads the clock
when it gates a provider and again when it writes the provider's row. The gate
counts the sends and the refusals of the window alike, so it refuses an attempt
exactly when `limit` attempts were made in the window before it, whatever became
of them: `attempt_limited`. It counts what was sent as long as no attempt finds
fewer than `limit` sends but as many sends and refusals.
-/

namespace LuxSwirl.Server
open LuxSwirl.Py LuxSwirl.Lib

/-- A call of `send_notifications`, with the clock where it is read. -/
structure SendCall where
  providerIds : List Id
  notice : Notice
  gateAt : Id → Time
  recordAt : Id → Time

/-- The row of each provider, or the failure. -/
def sendNotificationsAt (outside : Outside) (call : SendCall) (db : Db) :
    Except EvaluationError (List NotificationLog) :=
  call.providerIds.mapM fun providerId =>
    match db.getProvider providerId with
    | none => .error .notFound
    | some provider =>
      .ok (call.notice.row (call.recordAt providerId) providerId
        (attempt outside (call.gateAt providerId) call.notice.context provider db))

theorem sendNotifications_eq (outside : Outside) (now : Time) (providerIds : List Id) (notice : Notice)
    (db : Db) :
    sendNotifications outside now providerIds notice db =
      sendNotificationsAt outside ⟨providerIds, notice, fun _ => now, fun _ => now⟩ db := rfl

/-- The tables after a call; one that fails writes nothing. -/
def sendCall (outside : Outside) (db : Db) (call : SendCall) : Db :=
  match sendNotificationsAt outside call db with
  | .ok rows => db.addNotificationLogs rows
  | .error _ => db

/-- The tables after some calls. -/
def sendCalls (outside : Outside) (calls : List SendCall) (db : Db) : Db :=
  calls.foldl (sendCall outside) db

@[simp] theorem sendCalls_nil (outside : Outside) (db : Db) : sendCalls outside [] db = db := rfl

theorem sendCalls_snoc (outside : Outside) (calls : List SendCall) (call : SendCall) (db : Db) :
    sendCalls outside (calls ++ [call]) db = sendCall outside (sendCalls outside calls db) call := by
  rw [sendCalls, List.foldl_append]
  rfl

/-! ## The rows of a provider -/

namespace Db

/-- The provider's rows, oldest first. -/
def providerRows (db : Db) (providerId : Id) : List NotificationLog :=
  db.logs.filter fun row => decide (row.notificationProviderId = providerId)

end Db

def NotificationLog.isSent (row : NotificationLog) : Bool := decide (row.status = .sent)

def NotificationLog.isRefused (row : NotificationLog) : Bool := decide (row.status = .rateLimited)

/-- How many notifications the provider sent since then. -/
def sentSince (providerId : Id) (since : Time) (db : Db) : Nat :=
  countSince (·.isSent) (·.sentAt) since (db.providerRows providerId)

/-- How many attempts it refused. -/
def refusedSince (providerId : Id) (since : Time) (db : Db) : Nat :=
  countSince (·.isRefused) (·.sentAt) since (db.providerRows providerId)

/-- The gate counts both. -/
theorem countForProviderSince_eq (db : Db) (providerId : Id) (since : Time) :
    db.countForProviderSince providerId since [.sent, .rateLimited] =
      sentSince providerId since db + refusedSince providerId since db := by
  rw [Db.countForProviderSince, sentSince, refusedSince, countSince, countSince, Db.providerRows]
  induction db.logs with
  | nil => rfl
  | cons row rest ih =>
    rw [List.countP_cons, ih, List.filter_cons]
    by_cases own : row.notificationProviderId = providerId
    · have isOwn : decide (row.notificationProviderId = providerId) = true := decide_eq_true own
      rw [if_pos isOwn, List.countP_cons, List.countP_cons]
      cases isStatus : row.status <;> by_cases late : since ≤ row.sentAt <;>
        simp [NotificationLog.isSent, NotificationLog.isRefused, own, isStatus, late] <;> omega
    · simp [own]

section Limit

variable {outside : Outside} {provider : NotificationProvider} {limit window : Nat} {db : Db}

/-- An enabled provider with a limit, whose deliveries all succeed. -/
structure Limited (outside : Outside) (provider : NotificationProvider) (limit window : Nat) (db : Db) :
    Prop where
  isProvider : db.getProvider provider.id = some provider
  enabled : provider.isEnabled = true
  count : provider.rateLimitCount = some limit
  minutes : provider.rateLimitWindowMinutes = some window
  countPos : 0 < limit
  minutesPos : 0 < window
  delivers : ∀ now context, outside.deliver now provider.id context = true

/-- The call attempts to send through the provider. -/
def Attempts (outside : Outside) (provider : NotificationProvider) (call : SendCall) (db : Db) : Prop :=
  provider.id ∈ call.providerIds ∧ ∃ rows, sendNotificationsAt outside call db = .ok rows

/-- The start of the window before the attempt. -/
def windowStart (provider : NotificationProvider) (window : Nat) (call : SendCall) : Time :=
  call.gateAt provider.id - minutes window

/-- **What the gate does**: it refuses when sends and refusals of the window reach
the limit, and sends otherwise. -/
theorem attempt_limited (limited : Limited outside provider limit window db) (call : SendCall) :
    attempt outside (call.gateAt provider.id) call.notice.context provider db =
      if limit ≤ sentSince provider.id (windowStart provider window call) db +
          refusedSince provider.id (windowStart provider window call) db then .rateLimited
      else .sent := by
  have gate : checkRateLimit (call.gateAt provider.id) provider db =
      decide (limit ≤ sentSince provider.id (windowStart provider window call) db +
        refusedSince provider.id (windowStart provider window call) db) := by
    rw [← countForProviderSince_eq, checkRateLimit, limited.count, limited.minutes]
    obtain ⟨n, rfl⟩ := Nat.exists_eq_succ_of_ne_zero limited.countPos.ne'
    obtain ⟨w, rfl⟩ := Nat.exists_eq_succ_of_ne_zero limited.minutesPos.ne'
    rfl
  rw [attempt, limited.enabled, gate, limited.delivers]
  simp

/-- The rows a call writes for one provider. -/
theorem filter_rows {call : SendCall} (isProvider : db.getProvider provider.id = some provider)
    {rows : List NotificationLog} (sent : sendNotificationsAt outside call db = .ok rows) :
    rows.filter (fun row => decide (row.notificationProviderId = provider.id)) =
      (call.providerIds.filter fun providerId => decide (providerId = provider.id)).map fun _ =>
        call.notice.row (call.recordAt provider.id) provider.id
          (attempt outside (call.gateAt provider.id) call.notice.context provider db) := by
  rw [sendNotificationsAt] at sent
  generalize call.providerIds = providerIds at sent ⊢
  induction providerIds generalizing rows with
  | nil =>
    cases sent
    rfl
  | cons providerId rest ih =>
    rw [List.mapM_cons] at sent
    obtain ⟨row, one, sent⟩ := except_bind_ok.mp sent
    obtain ⟨others, more, sent⟩ := except_bind_ok.mp sent
    cases sent
    have ofRow : row.notificationProviderId = providerId := by
      split at one
      · cases one
      · cases one
        rfl
    rw [List.filter_cons, List.filter_cons, ofRow, ih more]
    by_cases own : providerId = provider.id
    · subst own
      rw [isProvider] at one
      cases one
      simp
    · simp [own]

theorem filter_id {providerIds : List Id} {providerId : Id} (nodup : providerIds.Nodup)
    (mem : providerId ∈ providerIds) :
    providerIds.filter (fun other => decide (other = providerId)) = [providerId] := by
  rw [List.filter_eq, List.count_eq_one_of_mem nodup mem]
  rfl

/-- A call that attempts the provider adds one row of it. -/
theorem providerRows_of_attempt {call : SendCall} (nodup : call.providerIds.Nodup)
    (isProvider : db.getProvider provider.id = some provider)
    (attempts : Attempts outside provider call db) :
    (sendCall outside db call).providerRows provider.id = db.providerRows provider.id ++
      [call.notice.row (call.recordAt provider.id) provider.id
        (attempt outside (call.gateAt provider.id) call.notice.context provider db)] := by
  obtain ⟨mem, rows, sent⟩ := attempts
  rw [sendCall, sent]
  dsimp only
  rw [Db.providerRows, Db.addNotificationLogs, List.filter_append, filter_rows isProvider sent,
    filter_id nodup mem]
  rfl

/-- Any other call leaves its rows alone. -/
theorem providerRows_of_other {call : SendCall} (isProvider : db.getProvider provider.id = some provider)
    (other : ¬ Attempts outside provider call db) :
    (sendCall outside db call).providerRows provider.id = db.providerRows provider.id := by
  rw [sendCall]
  rcases sent : sendNotificationsAt outside call db with _ | rows
  · rfl
  · have absent : provider.id ∉ call.providerIds := fun mem => other ⟨mem, rows, sent⟩
    have never : call.providerIds.filter (fun providerId => decide (providerId = provider.id)) = [] := by
      rw [List.filter_eq, List.count_eq_zero_of_not_mem absent]
      rfl
    dsimp only
    rw [Db.providerRows, Db.addNotificationLogs, List.filter_append, filter_rows isProvider sent, never,
      List.map_nil, List.append_nil, Db.providerRows]

@[simp] theorem getProvider_sendCall (call : SendCall) (providerId : Id) :
    (sendCall outside db call).getProvider providerId = db.getProvider providerId := by
  rw [sendCall]
  split <;> rfl

theorem Limited.sendCalls (limited : Limited outside provider limit window db) (calls : List SendCall) :
    Limited outside provider limit window (sendCalls outside calls db) := by
  refine { limited with isProvider := ?_ }
  induction calls using List.reverseRecOn with
  | nil => exact limited.isProvider
  | append_singleton calls call ih => rw [sendCalls_snoc, getProvider_sendCall, ih]

/-! ## A whole run -/

/-- An attempt is refused exactly when the sends of the window reach the limit, and
goes out otherwise. -/
def CountsSent (outside : Outside) (provider : NotificationProvider) (limit window : Nat)
    (call : SendCall) (db : Db) : Prop :=
  ∃ rows, sendNotificationsAt outside call db = .ok rows ∧
    ∀ row ∈ rows, row.notificationProviderId = provider.id →
      row.status = if limit ≤ sentSince provider.id (windowStart provider window call) db
        then .rateLimited else .sent

/-- No attempt with room among the sends lacks it among the sends and refusals. -/
def RoomAmongAttempts (provider : NotificationProvider) (limit window : Nat) (call : SendCall) (db : Db) :
    Prop :=
  sentSince provider.id (windowStart provider window call) db < limit →
    sentSince provider.id (windowStart provider window call) db +
      refusedSince provider.id (windowStart provider window call) db < limit

instance (provider : NotificationProvider) (limit window : Nat) (call : SendCall) (db : Db) :
    Decidable (RoomAmongAttempts provider limit window call db) :=
  inferInstanceAs (Decidable (_ → _))

/-- It holds of each attempt of some calls, where it is made. -/
def EachAttempt (outside : Outside) (provider : NotificationProvider) (holds : SendCall → Db → Prop)
    (calls : List SendCall) (db : Db) : Prop :=
  ∀ before call after, calls = before ++ call :: after →
    Attempts outside provider call (sendCalls outside before db) →
      holds call (sendCalls outside before db)

/-- The calls through the provider, one after another. -/
structure Sequential (provider : NotificationProvider) (calls : List SendCall) : Prop where
  nodup : ∀ call ∈ calls, call.providerIds.Nodup
  recorded : ∀ call ∈ calls, call.gateAt provider.id ≤ call.recordAt provider.id

/-- The limit counts what was sent: each attempt is refused by the sends before it
alone, and no window holds more sends than the limit. -/
structure LimitsSent (outside : Outside) (provider : NotificationProvider) (limit window : Nat)
    (calls : List SendCall) (db : Db) : Prop where
  attempts : EachAttempt outside provider (CountsSent outside provider limit window) calls db
  bounded : ∀ start, countWithin (·.isSent) (·.sentAt) start (start + minutes window)
    ((sendCalls outside calls db).providerRows provider.id) ≤ limit

theorem countsSent_iff (limited : Limited outside provider limit window db) {call : SendCall}
    (nodup : call.providerIds.Nodup) (attempts : Attempts outside provider call db) :
    CountsSent outside provider limit window call db ↔ RoomAmongAttempts provider limit window call db := by
  obtain ⟨mem, rows, sent⟩ := attempts
  have own := filter_rows limited.isProvider sent
  rw [filter_id nodup mem, attempt_limited limited] at own
  constructor
  · rintro ⟨rows', sent', each⟩ room
    rw [sent, Except.ok.injEq] at sent'
    subst sent'
    obtain ⟨row, within⟩ : ∃ row, row ∈ rows.filter fun row =>
        decide (row.notificationProviderId = provider.id) := by
      rw [own]
      exact ⟨_, List.mem_singleton_self _⟩
    have isOwn : row.notificationProviderId = provider.id := by
      simpa using (List.mem_filter.mp within).2
    have status := each row (List.mem_of_mem_filter within) isOwn
    rw [own, List.map_singleton, List.mem_singleton] at within
    rw [within, if_neg (Nat.not_le.mpr room)] at status
    by_contra full
    rw [Notice.row, if_pos (Nat.not_lt.mp full)] at status
    cases status
  · intro room
    refine ⟨rows, sent, fun row isRow isOwn => ?_⟩
    have within : row ∈ rows.filter fun row => decide (row.notificationProviderId = provider.id) :=
      List.mem_filter.mpr ⟨isRow, by simpa using isOwn⟩
    rw [own, List.map_singleton, List.mem_singleton] at within
    rw [within, Notice.row]
    unfold RoomAmongAttempts at room
    split_ifs with all some_ <;> first | rfl | omega

/-- The sends of a run found room in the window before them. -/
theorem spaced_sendCalls (limited : Limited outside provider limit window db)
    (new : db.providerRows provider.id = []) {calls : List SendCall}
    (sequential : Sequential provider calls) :
    Spaced (·.isSent) (·.sentAt) (minutes window) limit
      ((sendCalls outside calls db).providerRows provider.id) := by
  induction calls using List.reverseRecOn with
  | nil =>
    rw [sendCalls_nil, new]
    exact .nil
  | append_singleton calls call ih =>
    have before := ih ⟨fun call mem => sequential.nodup call (List.mem_append_left _ mem),
      fun call mem => sequential.recorded call (List.mem_append_left _ mem)⟩
    have last : call ∈ calls ++ [call] := List.mem_append_right _ (List.mem_singleton_self _)
    have here := limited.sendCalls calls
    rw [sendCalls_snoc]
    by_cases attempts : Attempts outside provider call (sendCalls outside calls db)
    · rw [providerRows_of_attempt (sequential.nodup call last) here.isProvider attempts]
      refine before.snoc fun isSent => ?_
      have later : windowStart provider window call ≤ call.recordAt provider.id - minutes window :=
        Int.sub_le_sub_right (sequential.recorded call last) _
      have fewer := countSince_mono (·.isSent) (·.sentAt) later
        ((sendCalls outside calls db).providerRows provider.id)
      rw [attempt_limited here] at isSent
      by_contra full
      have reached : limit ≤ sentSince provider.id (windowStart provider window call)
          (sendCalls outside calls db) := (Nat.not_lt.mp full).trans fewer
      rw [if_pos (reached.trans (Nat.le_add_right ..))] at isSent
      cases isSent
    · rw [providerRows_of_other here.isProvider attempts]
      exact before

/-- **The limit counts what was sent** over a run of calls through a new provider
exactly when no attempt finds room among the sends of its window but none among the
sends and refusals. -/
theorem limitsSent_iff (limited : Limited outside provider limit window db)
    (new : db.providerRows provider.id = []) {calls : List SendCall}
    (sequential : Sequential provider calls) :
    LimitsSent outside provider limit window calls db ↔
      EachAttempt outside provider (RoomAmongAttempts provider limit window) calls db := by
  have each (before after : List SendCall) (call : SendCall) (split : calls = before ++ call :: after)
      (attempts : Attempts outside provider call (sendCalls outside before db)) :=
    countsSent_iff (limited.sendCalls before)
      (sequential.nodup call (split ▸ List.mem_append_right _ (List.mem_cons_self ..))) attempts
  constructor
  · intro limits before call after split attempts
    exact (each before after call split attempts).mp (limits.attempts before call after split attempts)
  · intro room
    refine ⟨fun before call after split attempts => ?_, fun start => ?_⟩
    · exact (each before after call split attempts).mpr (room before call after split attempts)
    · exact (spaced_sendCalls limited new sequential).countWithin_le _ _ start

end Limit

/-! ## A slow provider -/

/-- One notification an hour. -/
def hourly : NotificationProvider where
  id := 5
  rateLimitCount := some 1

def hourlyDb : Db where
  providers := [hourly]

def delivering : Outside where
  deliver _ _ _ := true
  hrwDigest _ _ := 0
  defaultHeartbeatInterval := 60

def outageNotice : Notice where
  alertId := 1
  stateKey := .statusDown
  checkId := some 2
  context := ⟨false, false⟩
  decision := ⟨true, false, 0⟩

/-- A call through the provider at a minute. -/
def sendAtMinute (minute : Int) : SendCall where
  providerIds := [5]
  notice := outageNotice
  gateAt _ := minutes minute
  recordAt _ := minutes minute

theorem hourly_limited : Limited delivering hourly 1 60 hourlyDb :=
  ⟨rfl, rfl, rfl, rfl, by decide, by decide, fun _ _ => rfl⟩

theorem sendAtMinute_sequential (minuteList : List Int) :
    Sequential hourly (minuteList.map sendAtMinute) where
  nodup := by
    intro call mem
    obtain ⟨minute, -, rfl⟩ := List.mem_map.mp mem
    exact List.nodup_singleton _
  recorded := by
    intro call mem
    obtain ⟨minute, -, rfl⟩ := List.mem_map.mp mem
    exact le_refl _

/-- One notification in an hour is within the limit. -/
theorem limitsSent_single : LimitsSent delivering hourly 1 60 ([0].map sendAtMinute) hourlyDb := by
  refine (limitsSent_iff hourly_limited rfl (sendAtMinute_sequential [0])).mpr ?_
  intro before call after split
  rcases before with _ | ⟨first, before⟩
  · obtain ⟨rfl, -⟩ := List.cons.inj split
    intro _
    decide
  · simp at split

/-- A refusal keeps out the next attempt, an hour after the send and with none in
the window. -/
theorem refusal_counts :
    ((sendCalls delivering ([0, 40, 70].map sendAtMinute) hourlyDb).logs.map (·.status) =
      [.sent, .rateLimited, .rateLimited]) ∧
    ¬ LimitsSent delivering hourly 1 60 ([0, 40, 70].map sendAtMinute) hourlyDb := by
  refine ⟨by decide, fun limits => ?_⟩
  have attempts : Attempts delivering hourly (sendAtMinute 70)
      (sendCalls delivering ([0, 40].map sendAtMinute) hourlyDb) := ⟨by decide, _, rfl⟩
  obtain ⟨rows, sent, each⟩ := limits.attempts ([0, 40].map sendAtMinute) (sendAtMinute 70) [] rfl attempts
  have isRows : rows = [outageNotice.row (minutes 70) 5 .rateLimited] := (Except.ok.inj sent).symm
  have status := each (outageNotice.row (minutes 70) 5 .rateLimited) (by rw [isRows]; simp) rfl
  exact absurd status (by decide)

end LuxSwirl.Server
