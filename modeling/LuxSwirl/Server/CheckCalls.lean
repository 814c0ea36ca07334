import LuxSwirl.Server.CheckExports
import LuxSwirl.Server.CheckOperations

/-!
# Calls that create and update checks

A sequence of `create_check` and `update_check` calls, each a transaction of its own:
one that is refused leaves the tables. What every new row is, and every update
keeps, the stored rows are after any such sequence.
-/

namespace LuxSwirl.Server
open LuxSwirl.Py LuxSwirl.Lib

inductive CheckCall where
  | create (id agentId : Id) (data : CheckCreate) (skipConfigUpdate : Bool)
  | update (checkId : Id) (data : CheckUpdate)

def CheckCall.operation : CheckCall → Operation
  | .create id agentId data skipConfigUpdate => .create id agentId data skipConfigUpdate
  | .update checkId data => .update checkId data

/-- The schemas take the call's data. -/
def CheckCall.Fits : CheckCall → Prop
  | .create _ _ data _ => data.Fits
  | .update _ data => data.Fits

/-- A call by an actor, with the clock it reads. -/
structure CheckRequest where
  call : CheckCall
  clock : Nat → Time
  actorIsAdmin : Bool

/-- The tables a request leaves. -/
def CheckRequest.commit (guards : Guards) (request : CheckRequest) (db : Db) : Db :=
  match request.call.operation.run guards request.clock request.actorIsAdmin db with
  | .ok committed => committed
  | .error _ => db

def afterRequests (guards : Guards) (requests : List CheckRequest) (db : Db) : Db :=
  requests.foldl (fun db request => request.commit guards db) db

variable {guards : Guards} {requests : List CheckRequest} {db : Db}

/-- What a request does to the rows of checks: nothing, or it adds one, or it
replaces one. -/
inductive CheckRequest.Wrote (request : CheckRequest) (before after : List Check) : Prop where
  | nothing (same : after = before)
  | created (id agentId : Id) (data : CheckCreate) (skipConfigUpdate : Bool)
      (isCall : request.call = .create id agentId data skipConfigUpdate)
      (added : after = before ++ [data.row id agentId (request.clock 0)])
  | updated (checkId : Id) (data : CheckUpdate) (check row : Check)
      (isCall : request.call = .update checkId data) (isCheck : check ∈ before) (same : check.id = checkId)
      (isRow : data.row (request.clock 0) check = .ok row)
      (saved : after = before.map fun other => if other.id = row.id then row else other)

theorem CheckRequest.commit_wrote (guards : Guards) (request : CheckRequest) (db : Db) :
    request.Wrote db.checks (request.commit guards db).checks := by
  rw [CheckRequest.commit]
  cases done : request.call.operation.run guards request.clock request.actorIsAdmin db with
  | error _ => exact .nothing rfl
  | ok committed =>
    cases isCall : request.call with
    | create id agentId data skipConfigUpdate =>
      rw [isCall, CheckCall.operation, Operation.run] at done
      obtain ⟨-, rfl⟩ := createCheck_eq_ok done
      refine .created id agentId data skipConfigUpdate isCall ?_
      cases skipConfigUpdate <;> rfl
    | update checkId data =>
      rw [isCall, CheckCall.operation, Operation.run] at done
      split at done
      · rename_i updated isUpdated
        cases done
        obtain ⟨check, row, found, isRow, rfl⟩ := updateCheck_eq_none isUpdated
        obtain ⟨isCheck, same⟩ := id_of_getCheck found
        exact .updated checkId data check row isCall isCheck same isRow rfl
      · cases done

/-- **What new rows are and updates keep, every stored row is.** -/
theorem rows_of_requests {P : Check → Prop}
    (created : ∀ request ∈ requests, ∀ id agentId data skipConfigUpdate,
      request.call = .create id agentId data skipConfigUpdate → P (data.row id agentId (request.clock 0)))
    (updated : ∀ request ∈ requests, ∀ checkId data, request.call = .update checkId data →
      ∀ check row, P check → data.row (request.clock 0) check = .ok row → P row)
    (start : ∀ check ∈ db.checks, P check) : ∀ check ∈ (afterRequests guards requests db).checks, P check := by
  induction requests generalizing db with
  | nil => exact start
  | cons request rest ih =>
    obtain ⟨createdHere, created⟩ := List.forall_mem_cons.mp created
    obtain ⟨updatedHere, updated⟩ := List.forall_mem_cons.mp updated
    refine ih created updated ?_
    rcases request.commit_wrote guards db with same | ⟨id, agentId, data, skip, isCall, added⟩ |
      ⟨checkId, data, check, row, isCall, isCheck, -, isRow, saved⟩
    · rwa [same]
    · rw [added]
      intro check mem
      rcases List.mem_append.mp mem with mem | mem
      · exact start check mem
      · rw [List.mem_singleton.mp mem]
        exact createdHere _ _ _ _ isCall
    · rw [saved]
      intro other mem
      obtain ⟨old, isOld, rfl⟩ := List.mem_map.mp mem
      split_ifs
      · exact updatedHere _ _ isCall check row (start check isCheck) isRow
      · exact start old isOld

/-- What an update makes of a row, of what an agent runs. -/
structure CheckUpdate.Sets (data : CheckUpdate) (check row : Check) : Prop where
  checkType : data.checkType.getD (some check.checkType) = some row.checkType
  checkConfig : row.checkConfig = data.config' (some row.checkType) check
  intervalSeconds : row.intervalSeconds = data.intervalSeconds.getD check.intervalSeconds

theorem CheckUpdate.Leaves.sets {data : CheckUpdate} {now : Time} {check row : Check}
    (leaves : data.Leaves now check row) : data.Sets check row :=
  ⟨leaves.checkType, congrArg Check.checkConfig leaves.row, congrArg Check.intervalSeconds leaves.row⟩

theorem CheckUpdate.row_sets {data : CheckUpdate} {now : Time} {check row : Check}
    (isRow : data.row now check = .ok row) : data.Sets check row :=
  (CheckUpdate.row_leaves isRow).sets

/-- An interval is null or in bounds. -/
theorem intervals_of_requests (fits : ∀ request ∈ requests, request.call.Fits) (none_yet : db.checks = []) :
    ∀ check ∈ (afterRequests guards requests db).checks, FitsNumber 1 86400 check.intervalSeconds := by
  refine rows_of_requests ?_ ?_ (by simp [none_yet])
  · intro request mem id agentId data skipConfigUpdate isCall
    have fits := fits request mem
    rw [isCall] at fits
    exact fits.intervalSeconds
  · intro request mem checkId data isCall check row kept isRow
    have fits := fits request mem
    rw [isCall] at fits
    rw [(CheckUpdate.row_sets isRow).intervalSeconds]
    cases given : data.intervalSeconds with
    | none => exact kept
    | some interval =>
      have bounded := fits.1
      rwa [given] at bounded

end LuxSwirl.Server
