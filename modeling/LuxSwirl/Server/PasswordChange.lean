import LuxSwirl.Lib.RowLocks
import LuxSwirl.Server.Lockout

/-!
# Credentials and password changes

`auth_core_service.py`, `api_token_core_service.py` and `user_crud.py`: sign-ins that
open a session, signed-in requests that create an API token, `change_password` and
`reset_password`, all of one user. The server takes their statements in any order.

A change locks the user's row, deletes the sessions that have yet to expire
(`delete_active_for_user`), revokes the tokens and writes the hash. A token request
holds no lock until it stamps its session and inserts its token: the stamp is what a
change stops it by. `credentials_current` needs that no purge spares a session that is
still accepted, or that a token request in flight relies on.
-/

namespace LuxSwirl.Server
open LuxSwirl.Py LuxSwirl.Lib

/-! ## Rows -/

/-- A row of `users`. -/
structure AccountRow extends LoginRow where
  passwordHash : Text

/-- A row of `sessions`, and the hash its sign-in's password was compared with. A stamp of
its last activity is a write that changes nothing here. -/
structure SessionRow where
  expiresAt : Time
  compared : Text
  deriving DecidableEq

def SessionRow.isExpired (now : Time) (session : SessionRow) : Bool := decide (session.expiresAt < now)

/-- What is stored under a session's id. -/
inductive SessionEntry where
  | unused
  | live (session : SessionRow)
  | deleted
  deriving DecidableEq

/-- A row of `api_tokens`, and the hash its creator's session goes back to. -/
structure TokenRow where
  compared : Text
  revokedAt : Option Time := none
  deriving DecidableEq

/-! ## Requests -/

inductive AccountRequest where
  /-- `authenticate_user`, then `create_session` -/
  | signIn (password : Text)
  /-- `verify_session`, then `create_token` -/
  | createToken (sessionId : Id)
  | changePassword (sessionId : Id) (currentPassword newPassword : Text)
  /-- The session is the user's own, if it is an administrator. -/
  | resetPassword (sessionId : Option Id) (newPassword : Text)

def AccountRequest.sessionId : AccountRequest → Option Id
  | .signIn _ => none
  | .createToken sessionId | .changePassword sessionId _ _ => some sessionId
  | .resetPassword sessionId _ => sessionId

/-- The password to compare with the stored hash. -/
def AccountRequest.password : AccountRequest → Option Text
  | .signIn password | .changePassword _ password _ => some password
  | .createToken _ | .resetPassword _ _ => none

def AccountRequest.newPassword : AccountRequest → Option Text
  | .signIn _ | .createToken _ => none
  | .changePassword _ _ newPassword | .resetPassword _ newPassword => some newPassword

inductive AccountPhase where
  | closed
  | opened
  /-- It has read its session. -/
  | selected
  /-- And the session's user. -/
  | loaded (user : LoginRow)
  /-- It is signed in, or need not be. -/
  | ready
  /-- It holds the username's advisory lock. -/
  | queued
  /-- It has the user's row, locked. -/
  | locked
  /-- It has found the account neither locked nor inactive. -/
  | judged
  | wrong
  /-- It has compared its password with this hash. -/
  | right (hash : Text)
  | reset (hash : Text)
  /-- It ends with the user's row locked and the hash as it was. -/
  | settled
  /-- It deletes these sessions, which had yet to expire at the time. -/
  | purging (since : Time) (waiting : List Id)
  | revoked (since : Time)
  /-- It has written the new hash. -/
  | changed (since : Time)
  /-- It has inserted its token. -/
  | inserted

/-- The clock of the purge, once it has begun. -/
def AccountPhase.since : AccountPhase → Option Time
  | .purging since _ | .revoked since | .changed since => some since
  | _ => none

/-- A request's transaction, with the session it is signed in by, as read, and whether the
stamp of that has yet to be flushed. -/
structure AccountTransaction where
  request : AccountRequest := .signIn []
  phase : AccountPhase := .closed
  through : Option (Id × SessionRow) := none
  stampPending : Bool := false

/-- The session that a token request is about to create a token by. -/
def AccountTransaction.relies (transaction : AccountTransaction) : Option (Id × SessionRow) :=
  match transaction.request, transaction.phase with
  | .createToken _, .ready => transaction.through
  | _, _ => none

/-- A sign-in and a change queue first, a reset does not. -/
def AccountTransaction.locksNext (transaction : AccountTransaction) : Bool :=
  match transaction.request, transaction.phase with
  | .signIn _, .queued | .changePassword _ _ _, .queued | .resetPassword _ _, .ready => true
  | _, _ => false

/-- A change purges once the current password is right, a reset at once. -/
def AccountTransaction.purgesNext (transaction : AccountTransaction) : Bool :=
  match transaction.request, transaction.phase with
  | .changePassword _ _ _, .reset _ | .resetPassword _ _, .locked => true
  | _, _ => false

/-! ## The server -/

/-- The clock, the tables, the owner of the username's advisory lock, the transactions
with a key-share lock on the user's row, and the ids in use. -/
structure AccountServer where
  now : Time
  user : Stored Id AccountRow
  sessions : Rows Id Id SessionEntry := fun _ => ⟨.unused, none⟩
  tokens : Rows Id Id (Option TokenRow) := fun _ => ⟨none, none⟩
  queue : Option Id := none
  keyShares : List Id := []
  transactions : Id → AccountTransaction := fun _ => {}
  opened : List Id := []
  sessionIds : List Id := []
  tokenIds : List Id := []

inductive AccountStatement where
  | tick (now : Time)
  | openRequest (id : Id) (request : AccountRequest)
  /-- `SessionCRUD.get_by_token_hash` -/
  | selectSession (id : Id)
  /-- The SELECT of the session's user. -/
  | selectUser (id : Id)
  /-- `is_valid` -/
  | verifySession (id : Id)
  /-- A flush of the activity stamp. -/
  | stamp (id : Id)
  | queueOnUsername (id : Id)
  /-- `_locked_where`, `get_by_id_for_update` -/
  | lockRow (id : Id)
  | judge (id : Id)
  | compare (id : Id)
  /-- `_count_failure` -/
  | count (id : Id) (settings : SecuritySettings)
  | reset (id : Id)
  /-- `validate_password_complexity` -/
  | refuse (id : Id)
  | createSession (id sessionId : Id) (sessionLifetimeDays : Nat)
  /-- The snapshot of `delete_active_for_user`. -/
  | purge (id : Id)
  | deleteSession (id sessionId : Id)
  /-- `revoke_all_for_user` -/
  | revokeTokens (id : Id)
  /-- The UPDATE of the hash. -/
  | flushHash (id : Id) (hash : Text)
  /-- `create_token` -/
  | insertToken (id tokenId : Id)
  | commit (id : Id)
  | rollback (id : Id)

namespace AccountServer

def setTransaction (id : Id) (transaction : AccountTransaction) (server : AccountServer) : AccountServer :=
  { server with transactions := Function.update server.transactions id transaction }

def setPhase (id : Id) (phase : AccountPhase) (server : AccountServer) : AccountServer :=
  server.setTransaction id { server.transactions id with phase }

/-- A transaction that ends releases its locks. -/
def close (id : Id) (server : AccountServer) : AccountServer :=
  { server.setTransaction id {} with
    queue := if server.queue = some id then none else server.queue
    keyShares := server.keyShares.filter fun owner => decide (owner ≠ id) }

def rollback (id : Id) (server : AccountServer) : AccountServer :=
  { server.close id with
    user := server.user.rollback id
    sessions := server.sessions.rollback id
    tokens := server.tokens.rollback id }

/-- What is pending is flushed before. -/
def commit (id : Id) (server : AccountServer) : Option AccountServer :=
  let transaction := server.transactions id
  let committed : AccountServer :=
    { server.close id with
      user := server.user.commit id
      sessions := server.sessions.commit id
      tokens := server.tokens.commit id }
  if transaction.stampPending then none
  else
    match transaction.phase with
    | .settled | .changed _ | .inserted => some committed
    | _ => none

/-! ### Signed-in requests -/

def selectSession (id : Id) (server : AccountServer) : Option AccountServer :=
  let transaction := server.transactions id
  match transaction.phase, transaction.request.sessionId with
  | .opened, some sessionId =>
    match (server.sessions sessionId).view id with
    | .live session =>
      some (server.setTransaction id { transaction with phase := .selected, through := some (sessionId, session) })
    | _ => some (server.rollback id)
  | _, _ => none

def selectUser (id : Id) (server : AccountServer) : Option AccountServer :=
  match (server.transactions id).phase with
  | .selected => some (server.setPhase id (.loaded (server.user.view id).toLoginRow))
  | _ => none

def verifySession (id : Id) (server : AccountServer) : Option AccountServer :=
  let transaction := server.transactions id
  match transaction.phase, transaction.through with
  | .loaded user, some (_, session) =>
    if session.isExpired server.now || !user.isActive || user.isLocked server.now then some (server.rollback id)
    else some (server.setTransaction id { transaction with phase := .ready, stampPending := true })
  | _, _ => none

/-- The UPDATE of the session's row. It waits while another transaction holds the row, and
raises when it matches none. -/
def stamp (id : Id) (server : AccountServer) : Option AccountServer :=
  let transaction := server.transactions id
  match transaction.stampPending, transaction.through with
  | true, some (sessionId, _) =>
    match (server.sessions sessionId).found id with
    | none => none
    | some (.live session) =>
      some { server.setTransaction id { transaction with stampPending := false } with
        sessions := server.sessions.write id sessionId (.live session) }
    | some _ => some (server.rollback id)
  | _, _ => none

/-- The INSERT takes a key-share lock on the user's row. -/
def insertToken (id tokenId : Id) (server : AccountServer) : Option AccountServer :=
  let transaction := server.transactions id
  match transaction.relies with
  | some (_, session) =>
    if transaction.stampPending || server.user.held.isSome || server.tokenIds.contains tokenId then none
    else
      some { server.setPhase id .inserted with
        tokens := server.tokens.write id tokenId (some { compared := session.compared })
        keyShares := id :: server.keyShares
        tokenIds := tokenId :: server.tokenIds }
  | none => none

/-! ### The user's row -/

def queueOnUsername (id : Id) (server : AccountServer) : Option AccountServer :=
  let transaction := server.transactions id
  match transaction.phase with
  | .ready =>
    if transaction.request.password.isSome && server.queue.isNone then
      some { server.setPhase id .queued with queue := some id }
    else none
  | _ => none

/-- `SELECT … FOR UPDATE` waits for other holders of the row and of key shares. -/
def lockRow (id : Id) (server : AccountServer) : Option AccountServer :=
  match (server.transactions id).locksNext, server.user.found id with
  | true, some user =>
    if server.keyShares.all (fun owner => decide (owner = id)) then
      some { server.setPhase id .locked with user := server.user.write id user }
    else none
  | _, _ => none

/-- A reset compares no password. -/
def judge (id : Id) (server : AccountServer) : Option AccountServer :=
  let transaction := server.transactions id
  match transaction.phase with
  | .locked =>
    if transaction.request.password.isNone then none
    else
      let user := server.user.view id
      some (server.setPhase id (if user.isLocked server.now || !user.isActive then .settled else .judged))
  | _ => none

variable (bcryptMatches : Text → Text → Bool)

def compare (id : Id) (server : AccountServer) : Option AccountServer :=
  let transaction := server.transactions id
  match transaction.phase, transaction.request.password with
  | .judged, some password =>
    let hash := (server.user.view id).passwordHash
    some (server.setPhase id (if bcryptMatches password hash then .right hash else .wrong))
  | _, _ => none

def count (id : Id) (settings : SecuritySettings) (server : AccountServer) : Option AccountServer :=
  match (server.transactions id).phase, server.user.found id with
  | .wrong, some user =>
    some { server.setPhase id .settled with
      user := server.user.write id { user with toLoginRow := user.recordFailedLogin settings server.now } }
  | _, _ => none

def reset (id : Id) (server : AccountServer) : Option AccountServer :=
  match (server.transactions id).phase, server.user.found id with
  | .right hash, some user =>
    some { server.setPhase id (.reset hash) with
      user := server.user.write id { user with toLoginRow := user.resetFailedLogins } }
  | _, _ => none

/-- A new password that is too simple ends a change. -/
def refuse (id : Id) (server : AccountServer) : Option AccountServer :=
  let transaction := server.transactions id
  match transaction.phase with
  | .reset _ => if transaction.request.newPassword.isSome then some (server.setPhase id .settled) else none
  | _ => none

def createSession (id sessionId : Id) (sessionLifetimeDays : Nat) (server : AccountServer) : Option AccountServer :=
  let transaction := server.transactions id
  match transaction.request, transaction.phase with
  | .signIn _, .reset hash =>
    if server.sessionIds.contains sessionId then none
    else
      let session : SessionRow := ⟨server.now + minutes (sessionLifetimeDays * 24 * 60), hash⟩
      some { server.setPhase id .settled with
        sessions := server.sessions.write id sessionId (.live session)
        sessionIds := sessionId :: server.sessionIds }
  | _, _ => none

/-! ### The change -/

/-- The sessions that have yet to expire. -/
def activeSessions (id : Id) (server : AccountServer) : List Id :=
  server.sessionIds.filter fun sessionId =>
    match (server.sessions sessionId).view id with
    | .live session => decide (server.now < session.expiresAt)
    | _ => false

/-- A session of its own that the DELETE matches is stamped no more. -/
def purge (id : Id) (server : AccountServer) : Option AccountServer :=
  let transaction := server.transactions id
  if transaction.purgesNext then
    some (server.setTransaction id { transaction with
      phase := .purging server.now (server.activeSessions id)
      stampPending := transaction.stampPending &&
        !transaction.through.any fun through => decide (server.now < through.2.expiresAt) })
  else none

/-- A row that another transaction holds is waited for; one that is gone is skipped. -/
def deleteSession (id sessionId : Id) (server : AccountServer) : Option AccountServer :=
  match (server.transactions id).phase, (server.sessions sessionId).found id with
  | .purging since waiting, some entry =>
    if waiting.contains sessionId then
      let deleted := server.setPhase id (.purging since (waiting.filter fun other => decide (other ≠ sessionId)))
      match entry with
      | .live _ => some { deleted with sessions := server.sessions.write id sessionId .deleted }
      | _ => some deleted
    else none
  | _, _ => none

/-- What the UPDATE makes of a row that is not revoked. -/
def revoke (now : Time) : Option TokenRow → Option (Option TokenRow)
  | some token => if token.revokedAt = none then some (some { token with revokedAt := some now }) else none
  | none => none

def revokeTokens (id : Id) (server : AccountServer) : Option AccountServer :=
  match (server.transactions id).phase with
  | .purging since [] =>
    if server.tokenIds.all fun tokenId => ((server.tokens tokenId).found id).isSome then
      some { server.setPhase id (.revoked since) with
        tokens := server.tokens.updateWhere id (revoke server.now) }
    else none
  | _ => none

def flushHash (id : Id) (hash : Text) (server : AccountServer) : Option AccountServer :=
  let transaction := server.transactions id
  match transaction.phase, transaction.request.newPassword, server.user.found id with
  | .revoked since, some newPassword, some user =>
    if bcryptMatches newPassword hash then
      some { server.setPhase id (.changed since) with
        user := server.user.write id { toLoginRow := user.resetFailedLogins, passwordHash := hash } }
    else none
  | _, _, _ => none

/-- The server after a statement, if it can run now. -/
def step : AccountStatement → AccountServer → Option AccountServer
  | .tick now, server => if server.now ≤ now then some { server with now } else none
  | .openRequest id request, server =>
    match (server.transactions id).phase with
    | .closed =>
      some { server.setTransaction id { request, phase := if request.sessionId.isSome then .opened else .ready } with
        opened := id :: server.opened }
    | _ => none
  | .selectSession id, server => server.selectSession id
  | .selectUser id, server => server.selectUser id
  | .verifySession id, server => server.verifySession id
  | .stamp id, server => server.stamp id
  | .queueOnUsername id, server => server.queueOnUsername id
  | .lockRow id, server => server.lockRow id
  | .judge id, server => server.judge id
  | .compare id, server => server.compare bcryptMatches id
  | .count id settings, server => server.count id settings
  | .reset id, server => server.reset id
  | .refuse id, server => server.refuse id
  | .createSession id sessionId lifetime, server => server.createSession id sessionId lifetime
  | .purge id, server => server.purge id
  | .deleteSession id sessionId, server => server.deleteSession id sessionId
  | .revokeTokens id, server => server.revokeTokens id
  | .flushHash id hash, server => server.flushHash bcryptMatches id hash
  | .insertToken id tokenId, server => server.insertToken id tokenId
  | .commit id, server => server.commit id
  | .rollback id, server => some (server.rollback id)

/-! ## What a run keeps -/

/-- **Every credential goes back to the password of now**: the sessions that have not
expired, and the tokens that are not revoked. -/
structure Current (server : AccountServer) : Prop where
  sessions : ∀ sessionId session, server.sessions.committed sessionId = .live session →
    session.isExpired server.now = false → session.compared = server.user.committed.passwordHash
  tokens : ∀ tokenId token, server.tokens.committed tokenId = some token → token.revokedAt = none →
    token.compared = server.user.committed.passwordHash

/-- No request has come yet. -/
structure Idle (server : AccountServer) : Prop where
  user : server.user.held = none
  sessions : ∀ sessionId, (server.sessions sessionId).held = none
  tokens : ∀ tokenId, (server.tokens tokenId).held = none
  keyShares : server.keyShares = []
  transactions : ∀ id, (server.transactions id).phase = .closed
  sessionIds : ∀ sessionId, sessionId ∉ server.sessionIds → server.sessions.committed sessionId = .unused
  tokenIds : ∀ tokenId, tokenId ∉ server.tokenIds → server.tokens.committed tokenId = none

/-- What a purge spares is expired, and no token request in flight relies on it. -/
def purgesAll (server : AccountServer) : AccountStatement → Bool
  | .purge _ =>
    (server.sessionIds.all fun sessionId =>
      match server.sessions.committed sessionId with
      | .live session => decide (session.expiresAt ≠ server.now)
      | _ => true) &&
    server.opened.all fun id =>
      ((server.transactions id).relies).all fun (sessionId, session) =>
        decide (server.now < session.expiresAt) || server.sessions.committed sessionId == .deleted
  | _ => true

end AccountServer

end LuxSwirl.Server
