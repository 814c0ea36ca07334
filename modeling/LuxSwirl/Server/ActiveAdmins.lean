import LuxSwirl.Lib.Interleaving
import LuxSwirl.Lib.RowLocks
import LuxSwirl.Server.Models

/-!
# An active admin remains

`user_core_service.py` and `user_crud.py`: a request that ends an active admin counts
the others, with their rows locked until it commits. It judges its target by the row
it read without a lock, and a target that was no active admin then is not counted for.

`an_active_admin_remains` is about every run in which such a target, when it is written
or deleted, still is none, or stays one.
-/

namespace LuxSwirl.Server
open LuxSwirl.Py LuxSwirl.Lib

inductive UserRole where
  | admin
  | editor
  | viewer
  deriving DecidableEq

/-- A row of `users`, as far as a `UserUpdate` writes it. -/
structure UserRow where
  role : UserRole := .viewer
  isActive : Bool := true
  fullName : Option Text := none
  mustChangePassword : Bool := false
  deriving DecidableEq

def UserRow.isActiveAdmin (user : UserRow) : Bool := decide (user.role = .admin) && user.isActive

/-- The fields a `UserUpdate` sets; a set field may be null. -/
structure UserUpdate where
  role : Option (Option UserRole) := none
  isActive : Option (Option Bool) := none
  fullName : Option (Option Text) := none
  mustChangePassword : Option (Option Bool) := none

namespace UserUpdate

/-- The value a field has after the update. -/
def value {α : Type} (field : Option (Option α)) (read : α) : Option α := field.getD (some read)

def staysActiveAdmin (read : UserRow) (update : UserUpdate) : Bool :=
  decide (value update.role read.role = some .admin) && decide (value update.isActive read.isActive = some true)

/-- The copy as set, unless it breaks a NOT NULL. -/
def apply (read : UserRow) (update : UserUpdate) : Option UserRow :=
  match value update.role read.role, value update.isActive read.isActive,
    value update.mustChangePassword read.mustChangePassword with
  | some role, some isActive, some mustChangePassword =>
    some { role, isActive, mustChangePassword, fullName := update.fullName.getD read.fullName }
  | _, _, _ => none

end UserUpdate

/-- What was set on a copy that was read, on the stored row. -/
def UserRow.flush (read set stored : UserRow) : UserRow where
  role := flushColumn read.role set.role stored.role
  isActive := flushColumn read.isActive set.isActive stored.isActive
  fullName := flushColumn read.fullName set.fullName stored.fullName
  mustChangePassword := flushColumn read.mustChangePassword set.mustChangePassword stored.mustChangePassword

inductive UserRequest where
  | createUser (userId : Id) (row : UserRow)
  | updateUser (userId : Id) (update : UserUpdate)
  | deleteUser (userId : Id) (actorId : Option Id)

/-- What is to become of a user that was read. -/
inductive UserChange where
  | update (read set : UserRow)
  | delete (read : UserRow)

namespace UserChange

def read : UserChange → UserRow
  | .update read _ | .delete read => read

/-- The stored row after the change. -/
def result (stored : UserRow) : UserChange → Option UserRow
  | .update read set => some (UserRow.flush read set stored)
  | .delete _ => none

/-- A change of the role ends the user's sessions, whose row is locked first. -/
def changesRole : UserChange → Bool
  | .update read set => decide (set.role ≠ read.role)
  | .delete _ => false

end UserChange

inductive UserSession where
  | unopened
  | opened (request : UserRequest)
  /-- `_assert_an_active_admin_remains` is to count. -/
  | asking (userId : Id) (change : UserChange)
  /-- The rows still to lock, and the active admins among those it has locked. -/
  | counting (userId : Id) (change : UserChange) (waiting counted : List Id)
  | permitted (userId : Id) (change : UserChange) (guarded : Bool) (purged : Bool)
  | wrote
  | closed

/-- The ids of all rows, the rows, and the sessions. -/
structure UserServer where
  userIds : List Id
  rows : Rows Id Id (Option UserRow)
  sessions : Id → UserSession := fun _ => .unopened

inductive UserStatement where
  | openSession (id : Id) (request : UserRequest)
  | read (id : Id)
  /-- `count_other_active_admins`, as of its snapshot, -/
  | count (id : Id)
  /-- one row of it after another, -/
  | lockAdmin (id : Id) (userId : Id)
  /-- and what it counted. -/
  | judge (id : Id)
  /-- `logout_all_sessions` -/
  | purge (id : Id)
  | flush (id : Id)
  | commit (id : Id)
  | rollback (id : Id)

namespace UserServer

def setSession (id : Id) (session : UserSession) (server : UserServer) : UserServer :=
  { server with sessions := Function.update server.sessions id session }

/-- A request ends with its transaction rolled back. -/
def refuse (id : Id) (server : UserServer) : UserServer :=
  { server.setSession id .closed with rows := server.rows.rollback id }

/-- The request goes on with a change, which the guard may have to count for. -/
def guarding (userId : Id) (change : UserChange) (staysActiveAdmin : Bool) : UserSession :=
  if !change.read.isActiveAdmin || staysActiveAdmin then .permitted userId change false false
  else .asking userId change

def readNext (committed : Id → Option UserRow) : UserRequest → Option UserSession
  | .createUser _ _ => none
  | .updateUser userId update =>
    some
      (match committed userId with
      | none => .closed
      | some user =>
        match update.apply user with
        | none => .closed
        | some set => guarding userId (.update user set) (update.staysActiveAdmin user))
  | .deleteUser userId actorId =>
    some
      (if actorId = some userId then .closed
      else
        match committed userId with
        | none => .closed
        | some user => guarding userId (.delete user) false)

def read (id : Id) (server : UserServer) : Option UserServer :=
  match server.sessions id with
  | .opened request => (readNext server.rows.committed request).map fun session => server.setSession id session
  | _ => none

def count (id : Id) (server : UserServer) : Option UserServer :=
  match server.sessions id with
  | .asking userId change =>
    let listed := server.userIds.filter fun user => (server.rows.committed user).any UserRow.isActiveAdmin
    some (server.setSession id (.counting userId change listed []))
  | _ => none

/-- A row that is free is locked, and counts if it still is an active admin's. -/
def lockAdmin (id : Id) (admin : Id) (server : UserServer) : Option UserServer :=
  match server.sessions id, (server.rows admin).found id with
  | .counting userId change waiting counted, some found =>
    if admin ∈ waiting then
      match found with
      | none => some (server.setSession id (.counting userId change (waiting.erase admin) counted))
      | some user =>
        let nowCounted := if user.isActiveAdmin then admin :: counted else counted
        some
          { server.setSession id (.counting userId change (waiting.erase admin) nowCounted) with
            rows := server.rows.write id admin (some user) }
    else none
  | _, _ => none

def judge (id : Id) (server : UserServer) : Option UserServer :=
  match server.sessions id with
  | .counting userId change [] counted =>
    some
      (if (counted.filter fun admin => decide (admin ≠ userId)) = [] then server.refuse id
      else server.setSession id (.permitted userId change true false))
  | _ => none

def purge (id : Id) (server : UserServer) : Option UserServer :=
  match server.sessions id with
  | .permitted userId change guarded false =>
    ((server.rows userId).found id).map fun found =>
      { server.setSession id (.permitted userId change guarded true) with
        rows := if found.isSome then server.rows.write id userId found else server.rows }
  | _ => none

/-- An update of a row that is gone fails, a delete of one does nothing. -/
def flush (id : Id) (server : UserServer) : Option UserServer :=
  match server.sessions id with
  | .opened (.createUser userId row) =>
    match (server.rows userId).found id with
    | some none =>
      some
        { server.setSession id .wrote with
          userIds := userId :: server.userIds
          rows := server.rows.write id userId (some row) }
    | _ => none
  | .permitted userId change _ purged =>
    if change.changesRole && !purged then none
    else
      match (server.rows userId).found id with
      | some (some stored) =>
        some
          { server.setSession id .wrote with
            rows := server.rows.write id userId (change.result stored) }
      | some none =>
        match change with
        | .update _ _ => some (server.refuse id)
        | .delete _ => some (server.setSession id .wrote)
      | none => none
  | _ => none

def commit (id : Id) (server : UserServer) : Option UserServer :=
  match server.sessions id with
  | .wrote => some { server.setSession id .closed with rows := server.rows.commit id }
  | _ => none

def rollback (id : Id) (server : UserServer) : Option UserServer :=
  match server.sessions id with
  | .unopened | .closed => none
  | _ => some (server.refuse id)

/-- The server after a statement, if it can run now. -/
def step : UserStatement → UserServer → Option UserServer
  | .openSession id request, server =>
    match server.sessions id with
    | .unopened => some (server.setSession id (.opened request))
    | _ => none
  | .read id, server => server.read id
  | .count id, server => server.count id
  | .lockAdmin id userId, server => server.lockAdmin id userId
  | .judge id, server => server.judge id
  | .purge id, server => server.purge id
  | .flush id, server => server.flush id
  | .commit id, server => server.commit id
  | .rollback id, server => server.rollback id

/-- A target that was read as no active admin is none when it is written or deleted,
or stays one. -/
def endsNoAdmin (server : UserServer) : UserStatement → Bool
  | .flush id =>
    match server.sessions id with
    | .permitted userId change false _ =>
      match (server.rows userId).found id with
      | some (some stored) =>
        change.read.isActiveAdmin || !stored.isActiveAdmin || (change.result stored).any UserRow.isActiveAdmin
      | _ => true
    | _ => true
  | _ => true

/-- No request was opened yet. -/
structure Fresh (server : UserServer) : Prop where
  free : ∀ userId, (server.rows userId).held = none
  unopened : ∀ id, server.sessions id = .unopened

end UserServer

/-- Some user is an active admin. -/
def AnActiveAdmin (rows : Id → Option UserRow) : Prop :=
  ∃ userId user, rows userId = some user ∧ user.isActiveAdmin = true

/-! ## What a session relies on -/

namespace UserSession

/-- It has locked rows, and written none. -/
def OnlyLocks (committed : Id → Option UserRow) (own : Id → Option (Option UserRow)) : Prop :=
  ∀ userId row, own userId = some row → row = committed userId

/-- It holds an active admin's row, of another user than this. -/
def HoldsAdmin (own : Id → Option (Option UserRow)) (userId : Id) : Prop :=
  ∃ other user, other ≠ userId ∧ own other = some (some user) ∧ user.isActiveAdmin = true

/-- What is known of a session from what is committed and what it has written. -/
def Safe (session : UserSession) (committed : Id → Option UserRow) (own : Id → Option (Option UserRow)) : Prop :=
  match session with
  | .counting _ _ _ counted => OnlyLocks committed own ∧
      ∀ admin ∈ counted, ∃ user, own admin = some (some user) ∧ user.isActiveAdmin = true
  | .permitted userId change guarded _ => OnlyLocks committed own ∧
      (guarded = true → HoldsAdmin own userId) ∧
      (guarded = false → change.read.isActiveAdmin = true →
        ∃ set, change = .update change.read set ∧ set.role = change.read.role ∧ set.isActive = change.read.isActive)
  | .wrote => (∃ admin user, own admin = some (some user) ∧ user.isActiveAdmin = true) ∨
      ∀ userId row, own userId = some row → (committed userId).any UserRow.isActiveAdmin = true →
        row.any UserRow.isActiveAdmin = true
  | _ => own = fun _ => none

variable {session : UserSession} {committed installed : Id → Option UserRow} {own : Id → Option (Option UserRow)}

theorem OnlyLocks.after (locks : OnlyLocks committed own)
    (same : ∀ userId, own userId ≠ none → installed userId = committed userId) : OnlyLocks installed own := by
  intro userId row held
  rw [same userId (by simp [held])]
  exact locks userId row held

/-- What is known of a session outlasts the others' commits. -/
theorem Safe.after (safe : session.Safe committed own)
    (same : ∀ userId, own userId ≠ none → installed userId = committed userId) : session.Safe installed own := by
  cases session with
  | counting userId change waiting counted => exact ⟨safe.1.after same, safe.2⟩
  | permitted userId change guarded purged => exact ⟨safe.1.after same, safe.2⟩
  | wrote =>
    rcases safe with holds | keeps
    · exact .inl holds
    · refine .inr fun userId row held was => keeps userId row held ?_
      rwa [same userId (by simp [held])] at was
  | _ => exact safe

end UserSession

/-- An update that keeps an active admin one writes neither column. -/
theorem UserUpdate.stays {read set : UserRow} {update : UserUpdate} (applied : update.apply read = some set)
    (stays : update.staysActiveAdmin read = true) (isAdmin : read.isActiveAdmin = true) :
    set.role = read.role ∧ set.isActive = read.isActive := by
  obtain ⟨staysAdmin, staysActive⟩ := Bool.and_eq_true_iff.mp stays
  obtain ⟨wasAdmin, wasActive⟩ := Bool.and_eq_true_iff.mp isAdmin
  rw [UserUpdate.apply, of_decide_eq_true staysAdmin, of_decide_eq_true staysActive] at applied
  split at applied
  · rename_i role isActive mustChangePassword isRole isActive' _
    cases applied
    cases isRole
    cases isActive'
    exact ⟨(of_decide_eq_true wasAdmin).symm, wasActive.symm⟩
  · cases applied

/-- Columns that were not set stay as stored. -/
theorem UserRow.isActiveAdmin_flush {read set stored : UserRow} (role : set.role = read.role)
    (isActive : set.isActive = read.isActive) : (flush read set stored).isActiveAdmin = stored.isActiveAdmin := by
  rw [UserRow.isActiveAdmin, UserRow.isActiveAdmin, flush, flushColumn, if_pos role, flushColumn, if_pos isActive]

namespace UserServer

variable {server next : UserServer} {id : Id}

abbrev Safe (server : UserServer) : Prop :=
  FitRows (fun _ session => session.Safe) server.rows server.sessions

theorem Safe.goOn (safe : server.Safe) {session : UserSession}
    (here : session.Safe server.rows.committed (server.rows.own id)) : (server.setSession id session).Safe :=
  FitRows.goOn safe here

theorem Safe.refuse (safe : server.Safe) (id : Id) : (server.refuse id).Safe :=
  FitRows.rollback safe rfl

@[simp] theorem committed_refuse (id : Id) (server : UserServer) :
    (server.refuse id).rows.committed = server.rows.committed := Rows.committed_rollback

/-- A row that is locked without being written. -/
theorem onlyLocks_lock {key : Id} {found : Option UserRow}
    (locks : UserSession.OnlyLocks server.rows.committed (server.rows.own id))
    (isFound : (server.rows key).found id = some found) :
    found = server.rows.committed key ∧
      UserSession.OnlyLocks server.rows.committed (Function.update (server.rows.own id) key (some found)) := by
  have isStored : found = server.rows.committed key := by
    rcases Stored.found_eq_some isFound with own | ⟨-, isStored⟩
    · exact locks key found own
    · exact isStored.symm
  refine ⟨isStored, fun userId row held => ?_⟩
  by_cases same : userId = key
  · rw [same, Function.update_self] at held
    rw [same, ← isStored]
    exact (Option.some.inj held).symm
  · rw [Function.update_of_ne same] at held
    exact locks userId row held

/-- The first read, and what the guard makes of it. -/
theorem Safe.read (safe : server.Safe) (stepped : server.read id = some next) :
    next.Safe ∧ next.rows = server.rows := by
  rw [UserServer.read] at stepped
  split at stepped
  on_goal 2 => cases stepped
  rename_i request session
  obtain ⟨after, isNext, rfl⟩ := Option.map_eq_some_iff.mp stepped
  have known := safe id
  rw [session] at known
  have unwritten : server.rows.own id = fun _ => none := known
  refine ⟨safe.goOn ?_, rfl⟩
  have free : UserSession.OnlyLocks server.rows.committed fun _ => none := fun _ _ held => by cases held
  -- what the guard lets pass without counting
  have guarded (userId : Id) (change : UserChange) (staysActiveAdmin : Bool)
      (keeps : staysActiveAdmin = true → change.read.isActiveAdmin = true → ∃ set,
        change = .update change.read set ∧ set.role = change.read.role ∧ set.isActive = change.read.isActive) :
      (guarding userId change staysActiveAdmin).Safe server.rows.committed fun _ => none := by
    rw [guarding]
    split_ifs with passes
    · refine ⟨free, fun isGuarded => absurd isGuarded Bool.false_ne_true, fun _ wasAdmin => keeps ?_ wasAdmin⟩
      rwa [wasAdmin] at passes
    · rfl
  rw [unwritten]
  cases request with
  | createUser userId row => cases isNext
  | updateUser userId update =>
    cases isNext
    split
    · rfl
    · rename_i user _
      split
      · rfl
      · rename_i set applied
        exact guarded userId _ _ fun stays isAdmin => ⟨set, rfl, UserUpdate.stays applied stays isAdmin⟩
  | deleteUser userId actorId =>
    cases isNext
    split_ifs
    · rfl
    · split
      · rfl
      · exact guarded userId _ _ fun stays => by cases stays

/-- A lock of one of the admins' rows. -/
theorem Safe.lockAdmin (safe : server.Safe) {admin : Id} (stepped : server.lockAdmin id admin = some next) :
    next.Safe ∧ next.rows.committed = server.rows.committed := by
  rw [UserServer.lockAdmin] at stepped
  split at stepped
  on_goal 2 => cases stepped
  rename_i userId change waiting counted found session isFound
  have known := safe id
  rw [session] at known
  obtain ⟨locks, holds⟩ := known
  split_ifs at stepped
  split at stepped
  · cases stepped
    exact ⟨safe.goOn ⟨locks, holds⟩, rfl⟩
  · rename_i user
    cases stepped
    refine ⟨FitRows.write safe isFound ⟨(onlyLocks_lock locks isFound).2, fun other mem => ?_⟩,
      Rows.committed_write⟩
    by_cases same : other = admin
    · rw [same, Function.update_self]
      refine ⟨user, rfl, ?_⟩
      split_ifs at mem with isAdmin
      · exact isAdmin
      · -- a row it has counted is its own, as it was counted
        obtain ⟨held, own, wasAdmin⟩ := holds other mem
        rw [same] at own
        cases (Stored.found_of_own own).symm.trans isFound
        exact wasAdmin
    · rw [Function.update_of_ne same]
      refine holds other ?_
      split_ifs at mem
      · exact (List.mem_cons.mp mem).resolve_left same
      · exact mem

/-- What the guard counted. -/
theorem Safe.judge (safe : server.Safe) (stepped : server.judge id = some next) :
    next.Safe ∧ next.rows.committed = server.rows.committed := by
  rw [UserServer.judge] at stepped
  split at stepped
  on_goal 2 => cases stepped
  rename_i userId change counted session
  have known := safe id
  rw [session] at known
  obtain ⟨locks, holds⟩ := known
  cases stepped
  split_ifs with none
  · exact ⟨safe.refuse id, committed_refuse id server⟩
  · obtain ⟨admin, isOther⟩ := List.exists_mem_of_ne_nil _ none
    obtain ⟨mem, apart⟩ := List.mem_filter.mp isOther
    obtain ⟨user, own, isAdmin⟩ := holds admin mem
    refine ⟨safe.goOn ⟨locks, fun _ => ?_, fun notGuarded => absurd notGuarded.symm Bool.false_ne_true⟩, rfl⟩
    exact ⟨admin, user, of_decide_eq_true apart, own, isAdmin⟩

/-- The lock of the target before its sessions end. -/
theorem Safe.purge (safe : server.Safe) (stepped : server.purge id = some next) :
    next.Safe ∧ next.rows.committed = server.rows.committed := by
  rw [UserServer.purge] at stepped
  split at stepped
  on_goal 2 => cases stepped
  rename_i userId change guarded session
  obtain ⟨found, isFound, rfl⟩ := Option.map_eq_some_iff.mp stepped
  have known := safe id
  rw [session] at known
  obtain ⟨locks, holds, stays⟩ := known
  split_ifs
  · refine ⟨FitRows.write safe isFound ⟨(onlyLocks_lock locks isFound).2, fun isGuarded => ?_, stays⟩,
      Rows.committed_write⟩
    obtain ⟨other, user, apart, own, isAdmin⟩ := holds isGuarded
    exact ⟨other, user, apart, (Function.update_of_ne apart ..).trans own, isAdmin⟩
  · exact ⟨safe.goOn ⟨locks, holds, stays⟩, rfl⟩

/-- A write leaves an active admin, with what its session holds. -/
theorem Safe.flush (safe : server.Safe) (endsNone : server.endsNoAdmin (.flush id) = true)
    (stepped : server.flush id = some next) :
    next.Safe ∧ next.rows.committed = server.rows.committed := by
  have known := safe id
  rw [UserServer.flush] at stepped
  split at stepped
  · rename_i userId row session
    split at stepped
    on_goal 2 => cases stepped
    rename_i isFound
    cases stepped
    rw [session] at known
    have unwritten : server.rows.own id = fun _ => none := known
    refine ⟨FitRows.write safe isFound (.inr fun user version held was => ?_), Rows.committed_write⟩
    rw [unwritten] at held
    by_cases same : user = userId
    · have isNew : none = server.rows.committed userId :=
        Stored.found_unwritten (congrFun unwritten userId) isFound
      rw [same, ← isNew] at was
      cases was
    · rw [Function.update_of_ne same] at held
      cases held
  · rename_i userId change guarded purged session
    rw [session] at known
    obtain ⟨locks, holds, stays⟩ := known
    split_ifs at stepped
    split at stepped
    · rename_i stored isFound
      cases stepped
      refine ⟨FitRows.write safe isFound ?_, Rows.committed_write⟩
      have isStored := (onlyLocks_lock locks isFound).1
      cases guarded with
      | true =>
        obtain ⟨other, user, apart, own, isAdmin⟩ := holds rfl
        exact .inl ⟨other, user, (Function.update_of_ne apart ..).trans own, isAdmin⟩
      | false =>
        refine .inr fun user version held was => ?_
        by_cases same : user = userId
        · rw [same, Function.update_self] at held
          cases held
          rw [same, ← isStored] at was
          rw [endsNoAdmin, session] at endsNone
          dsimp only at endsNone
          rw [isFound] at endsNone
          rcases Bool.or_eq_true_iff.mp endsNone with passedOver | stays'
          · rcases Bool.or_eq_true_iff.mp passedOver with wasAdmin | notAdmin
            · -- an update that was to keep it an active admin
              obtain ⟨set, isUpdate, role, isActive⟩ := stays rfl wasAdmin
              rw [isUpdate]
              exact (UserRow.isActiveAdmin_flush role isActive).trans was
            · have isAdmin : stored.isActiveAdmin = true := was
              rw [isAdmin] at notAdmin
              cases notAdmin
          · exact stays'
        · rw [Function.update_of_ne same] at held
          rw [locks user version held]
          exact was
    · split at stepped
      · cases stepped
        exact ⟨safe.refuse id, committed_refuse id server⟩
      · cases stepped
        refine ⟨safe.goOn (.inr fun user version held was => ?_), rfl⟩
        rw [locks user version held]
        exact was
    · cases stepped
  · cases stepped

/-- A commit leaves an active admin. -/
theorem Safe.commit (safe : server.Safe) (stepped : server.commit id = some next)
    (before : AnActiveAdmin server.rows.committed) : next.Safe ∧ AnActiveAdmin next.rows.committed := by
  rw [UserServer.commit] at stepped
  split at stepped
  on_goal 2 => cases stepped
  rename_i session
  cases stepped
  have known := safe id
  rw [session] at known
  refine ⟨FitRows.commit safe rfl fun other _ fits same => fits.after same, ?_⟩
  show AnActiveAdmin (server.rows.commit id).committed
  rw [Rows.committed_commit]
  have ofOwn {userId : Id} {user : UserRow} (own : server.rows.own id userId = some (some user))
      (isAdmin : user.isActiveAdmin = true) : AnActiveAdmin (server.rows.installed id) :=
    ⟨userId, user, by rw [Rows.installed, own, Option.getD_some], isAdmin⟩
  rcases known with ⟨admin, user, own, isAdmin⟩ | keeps
  · exact ofOwn own isAdmin
  · obtain ⟨admin, user, isStored, isAdmin⟩ := before
    cases own : server.rows.own id admin with
    | none => exact ⟨admin, user, by rw [Rows.installed, own, Option.getD_none, isStored], isAdmin⟩
    | some row =>
      have was : (server.rows.committed admin).any UserRow.isActiveAdmin = true := by
        rw [isStored]
        exact isAdmin
      obtain ⟨still, rfl, stillAdmin⟩ := (Option.any_eq_true _ _).mp (keeps admin row own was)
      exact ofOwn own stillAdmin

structure Governed (server : UserServer) : Prop where
  safe : server.Safe
  admins : AnActiveAdmin server.rows.committed

/-- **One statement** leaves an active admin. -/
theorem Governed.step (governed : server.Governed) {statement : UserStatement} (endsNone : server.endsNoAdmin statement = true)
    (stepped : UserServer.step statement server = some next) : next.Governed := by
  obtain ⟨safe, before⟩ := governed
  have ofSame (kept : next.Safe ∧ next.rows.committed = server.rows.committed) : next.Governed :=
    ⟨kept.1, kept.2 ▸ before⟩
  cases statement with
  | openSession id request =>
    rw [UserServer.step] at stepped
    split at stepped
    · rename_i session
      cases stepped
      have known := safe id
      rw [session] at known
      exact ofSame ⟨safe.goOn known, rfl⟩
    · cases stepped
  | read id =>
    obtain ⟨nowSafe, same⟩ := safe.read stepped
    exact ofSame ⟨nowSafe, by rw [same]⟩
  | count id =>
    rw [UserServer.step, UserServer.count] at stepped
    split at stepped
    · rename_i userId change session
      cases stepped
      have known := safe id
      rw [session] at known
      have unwritten : server.rows.own id = fun _ => none := known
      refine ofSame ⟨safe.goOn ⟨fun userId row held => ?_, fun admin mem => by cases mem⟩, rfl⟩
      rw [unwritten] at held
      cases held
    · cases stepped
  | lockAdmin id admin => exact ofSame (safe.lockAdmin stepped)
  | judge id => exact ofSame (safe.judge stepped)
  | purge id => exact ofSame (safe.purge stepped)
  | flush id => exact ofSame (safe.flush endsNone stepped)
  | commit id =>
    obtain ⟨nowSafe, after⟩ := safe.commit stepped before
    exact ⟨nowSafe, after⟩
  | rollback id =>
    rw [UserServer.step, UserServer.rollback] at stepped
    split at stepped
    · cases stepped
    · cases stepped
    · cases stepped
      exact ofSame ⟨safe.refuse id, committed_refuse id server⟩

theorem Fresh.safe (fresh : server.Fresh) : server.Safe := by
  intro id
  rw [fresh.unopened]
  funext userId
  exact Stored.own_of_free (fresh.free userId) id

end UserServer

/-- **An active admin remains**: with one at the start, every committed state of a run
has one, when no target that was read as no active admin has become one that its
request ends. -/
theorem an_active_admin_remains {start server : UserServer} (fresh : start.Fresh)
    (admins : AnActiveAdmin start.rows.committed)
    (runs : Runs UserServer.step UserServer.endsNoAdmin start server) : AnActiveAdmin server.rows.committed := by
  have governed : server.Governed :=
    runs.keeps (fun _ _ _ endsNone stepped now => now.step endsNone stepped) ⟨fresh.safe, admins⟩
  exact governed.admins

/-! ## A promotion between a read and its write -/

/-- An admin, and an editor. -/
def adminAndEditor : UserServer where
  userIds := [1, 2]
  rows
    | 1 => ⟨some { role := .admin }, none⟩
    | 2 => ⟨some { role := .editor }, none⟩
    | _ => ⟨none, none⟩

theorem adminAndEditor_fresh : adminAndEditor.Fresh where
  free userId := by
    match userId with
    | 0 | 1 | 2 | _ + 3 => rfl
  unopened _ := rfl

theorem adminAndEditor_admin : AnActiveAdmin adminAndEditor.rows.committed := ⟨1, _, rfl, rfl⟩

/-- The editor is promoted, and then the admin demoted. -/
def handOver : List UserStatement :=
  [.openSession 2 (.updateUser 2 { role := some (some .admin) }), .read 2, .purge 2, .flush 2, .commit 2,
    .openSession 3 (.updateUser 1 { role := some (some .viewer) }), .read 3, .count 3, .lockAdmin 3 1,
    .lockAdmin 3 2, .judge 3, .purge 3, .flush 3, .commit 3]

/-- The promoted editor is left. -/
theorem handed_over : ∃ server, runAll UserServer.step UserServer.endsNoAdmin handOver adminAndEditor = some server ∧
    (server.rows.committed 1).map UserRow.role = some .viewer ∧ AnActiveAdmin server.rows.committed := by
  have remains : ∀ server, runAll UserServer.step UserServer.endsNoAdmin handOver adminAndEditor = some server →
      AnActiveAdmin server.rows.committed := fun server ran =>
    an_active_admin_remains adminAndEditor_fresh adminAndEditor_admin (.of_runAll ran)
  exact ⟨_, rfl, rfl, remains _ rfl⟩

/-- A deactivation that read the editor before the promotion leaves no active admin. -/
theorem no_admin_left : ∃ server,
    runAll UserServer.step (fun _ _ => true)
      ([.openSession 1 (.updateUser 2 { isActive := some (some false) }), .read 1] ++ handOver ++
        [.flush 1, .commit 1]) adminAndEditor = some server ∧
    ¬ AnActiveAdmin server.rows.committed := by
  refine ⟨_, rfl, ?_⟩
  rintro ⟨userId, user, isStored, isAdmin⟩
  match userId with
  | 1 =>
    cases isStored
    cases isAdmin
  | 2 =>
    cases isStored
    cases isAdmin
  | 0 => cases isStored
  | n + 3 => cases isStored

end LuxSwirl.Server
