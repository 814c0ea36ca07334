import LuxSwirl.Lib.Exclusive
import LuxSwirl.Server.ActiveAdmins

/-!
# The first admin

`admin_bootstrap_core_service.py`, `admin_bootstrap_crud.py` and
`admin_bootstrap_view_service.py`: each worker's startup seeds the first admin or opens
`/setup` with a token from a file that all workers share, and `/setup` makes the first
admin for whoever submits that token. Both count the users under one lock, which their
transaction holds until it ends; nothing else takes it.

Any number of these transactions run with other code that creates and deletes users.
`first_admins_counted` counts the first admins of a run, `logged_token_opens_setup` is
about the token.
-/

namespace LuxSwirl.Server
open LuxSwirl.Py LuxSwirl.Lib

/-! ## The seed -/

inductive BootstrapOutcome where
  | usersExist
  | seeded
  | setup
  | seedRejected
  deriving DecidableEq

/-- Why a file that the environment names was not read. -/
inductive SeedFileError where
  | osError (strerror : Text)
  | unicodeDecodeError

/-- The environment, and the files it names. -/
structure SeedInputs where
  environ : Text → Option Text
  /-- `Path.read_text(encoding="utf-8-sig")` -/
  readText : Text → Except SeedFileError Text

/-- The settings' password policy, and the hasher with the texts of its refusals. -/
structure PasswordRules where
  policyProblem : Text → Text
  hash : Text → Except Text Text

/-- `first or second`, of texts. -/
def orElseText (first second : Text) : Text := if first = [] then second else first

/-- `_env_value` -/
def envValue (inputs : SeedInputs) (name : Text) : Text × Text :=
  let file := name ++ text "_FILE"
  let direct := strip ((inputs.environ name).getD [])
  let path := strip ((inputs.environ file).getD [])
  if direct ≠ [] ∧ path ≠ [] then ([], name ++ text " and " ++ file ++ text " are both set; set one")
  else if path = [] then (direct, [])
  else
    match inputs.readText path with
    | .ok content => (strip content, [])
    | .error (.osError strerror) => ([], file ++ text " (" ++ path ++ text ") cannot be read: " ++ strerror)
    | .error .unicodeDecodeError => ([], file ++ text " (" ++ path ++ text ") is not UTF-8 text")

def seedLogin : Text := text "INITIAL_ADMIN_USERNAME"

def seedPassword : Text := text "INITIAL_ADMIN_PASSWORD"

def minPasswordLength : Nat := 12

def maxLogin : Nat := 254

/-- `unicodedata.category(c) == "Cc"` -/
def isControl : CodePoint → Bool
  | .scalar c => decide (c.toNat < 0x20) || decide (0x7f ≤ c.toNat ∧ c.toNat < 0xa0)
  | _ => false

def isAsciiAlphanum : CodePoint → Bool
  | .scalar c => c.isAlphanum
  | _ => false

def isUsernameChar (c : CodePoint) : Bool :=
  isAsciiAlphanum c || decide (c ∈ text "._-")

/-- `[A-Za-z0-9][A-Za-z0-9._-]{1,63}` -/
def isUsername : Text → Bool
  | [] => false
  | first :: rest =>
    isAsciiAlphanum first && rest.all isUsernameChar && decide (1 ≤ rest.length ∧ rest.length ≤ 63)

/-- `_LOGIN_SHAPE["username"].match`; its `$` matches before a newline that ends the text, too. -/
def matchesUsername (login : Text) : Bool :=
  isUsername login || (decide (login.getLast? = some (.scalar '\n')) && isUsername login.dropLast)

/-- `_login_problem`, with the `LOGIN_KIND` it has. -/
def loginProblem (login : Text) : Text :=
  if maxLogin < login.length then text "the login is longer than 254 characters"
  else if !utf8Encodable login then text "the login holds a character UTF-8 cannot encode"
  else if login.any isControl then text "the login holds a control character"
  else if matchesUsername login then []
  else text "the login is not a username (letters, digits, '.', '_' or '-', up to 64)"

/-- `_password_problem` -/
def passwordProblem (rules : PasswordRules) (password : Text) : Text :=
  if !utf8Encodable password then text "the password holds a character UTF-8 cannot encode"
  else if .scalar '\x00' ∈ password then text "the password holds a NUL character"
  else if password.length < minPasswordLength then text "the password is shorter than 12 characters"
  else rules.policyProblem password

/-- `_hash`, with the message of its `PasswordPolicyError`. -/
def hashPassword (rules : PasswordRules) (password : Text) : Except Text Text :=
  (rules.hash password).mapError fun refusal => text "the password was refused by the hasher: " ++ refusal

/-- A row of `users`, as first boot makes one. -/
structure AdminRow extends UserRow where
  username : Text
  passwordHash : Text
  createdBy : Text
  deriving DecidableEq

/-- `_new_admin` -/
def newAdmin (login passwordHash : Text) (mustChangePassword : Bool) : AdminRow where
  username := login
  passwordHash := passwordHash
  role := .admin
  fullName := some (text "Administrator")
  isActive := true
  mustChangePassword := mustChangePassword
  createdBy := text "setup"

/-- What startup does with no users. -/
inductive SeedPlan where
  | openSetup (outcome : BootstrapOutcome) (detail : Text)
  | addAdmin (admin : AdminRow)

/-- `bootstrap`, once it has counted no user. -/
def seedPlan (inputs : SeedInputs) (rules : PasswordRules) : SeedPlan :=
  let login := (envValue inputs seedLogin).1
  let password := (envValue inputs seedPassword).1
  let problem := orElseText (envValue inputs seedLogin).2 (envValue inputs seedPassword).2
  if login = [] ∧ password = [] ∧ problem = [] then
    .openSetup .setup (text "no INITIAL_ADMIN_* seed is configured")
  else
    let halfSet := if problem = [] ∧ (login = [] ∨ password = []) then
      text "set both INITIAL_ADMIN_USERNAME and INITIAL_ADMIN_PASSWORD" else problem
    let problem := orElseText (orElseText halfSet (loginProblem login)) (passwordProblem rules password)
    if problem ≠ [] then .openSetup .seedRejected problem
    else
      match hashPassword rules password with
      | .error refusal => .openSetup .seedRejected refusal
      | .ok hash => .addAdmin (newAdmin login hash true)

/-! ## The token -/

/-- `secrets.token_urlsafe(32)`: letters, digits, `-` and `_`. -/
structure SetupToken where
  value : Text
  urlSafe : ∀ c ∈ value, isAsciiAlphanum c = true ∨ c ∈ text "-_"
  nonempty : value ≠ []

/-- What is at `SETUP_TOKEN_FILE`. -/
inductive TokenFile where
  /-- `os.open` refuses it: a link, say, or a file of another user. -/
  | unopened (strerror : Text)
  /-- Whether it is a regular file of this process's user that no other user can read, and
  what its first 4096 bytes decode to. -/
  | opened (isOwn : Bool) (data : Option Text)

def TokenFile.trusted : TokenFile → Bool
  | .opened true _ => true
  | _ => false

/-- The file `_issue_token` links. -/
def SetupToken.file (token : SetupToken) : TokenFile := .opened true (some token.value)

def notOpened (strerror : Text) : Text × Text :=
  ([], text "the token file cannot be opened (" ++ strerror ++ text "): remove it and restart")

def notOwn : Text :=
  text "the token file is not this process's own private file (a regular file it owns that no " ++
    text "other user can read): remove it and restart"

/-- `_token_at` -/
def tokenAt : Option TokenFile → Text × Text
  | none => notOpened (text "No such file or directory")
  | some (.unopened strerror) => notOpened strerror
  | some (.opened false _) => ([], notOwn)
  | some (.opened true data) =>
    let token := strip (data.getD [])
    if token = [] then ([], text "the token file holds no token: remove it and restart") else (token, [])

/-! ## Requests -/

structure SetupForm where
  token : Text
  login : Text
  password : Text
  passwordConfirm : Text

inductive FirstBootRequest where
  /-- A worker's startup. -/
  | bootstrap (inputs : SeedInputs) (rules : PasswordRules)
  /-- A submitted `/setup`. -/
  | submitSetup (form : SetupForm) (rules : PasswordRules)
  /-- The login page and `/setup` ask whether there are users. -/
  | setupOpen

inductive FirstBootResult where
  | bootstrapped (outcome : BootstrapOutcome) (detail : Text) (setupToken : Option Text)
  | passwordsDiffer
  | setupClosed
  | tokenRefused
  | refused (problem : Text)
  | created
  | isOpen (isOpen : Bool)

/-- The result of a request that found users. -/
def FirstBootRequest.usersExist : FirstBootRequest → FirstBootResult
  | .bootstrap _ _ =>
    .bootstrapped .usersExist (text "users exist: the INITIAL_ADMIN_* seed is ignored and /setup is closed") none
  | .submitSetup _ _ => .setupClosed
  | .setupOpen => .isOpen false

inductive FirstBootPhase where
  | unopened
  /-- `lock_first_boot` -/
  | locking
  /-- `count_users` -/
  | counting
  /-- `_discard_token` -/
  | discarding
  /-- `_issue_token`: the private file, -/
  | issuing (outcome : BootstrapOutcome) (detail : Text)
  /-- the link, -/
  | staged (outcome : BootstrapOutcome) (detail : Text) (token : SetupToken)
  /-- and the token read back. -/
  | linked (outcome : BootstrapOutcome) (detail : Text)
  /-- `_read_token` -/
  | reading
  /-- `add_admin` -/
  | adding (admin : AdminRow)
  /-- The transaction is to end. -/
  | ending (result : FirstBootResult)
  /-- `after_commit` is to discard the token. -/
  | landed
  | closed

/-- A request's transaction, and the admin it has inserted. -/
structure FirstBootSession where
  request : FirstBootRequest := .setupOpen
  phase : FirstBootPhase := .unopened
  inserted : Option AdminRow := none

namespace FirstBootRequest

/-- `submit_setup` compares the two passwords first, `setup_open` takes no lock. -/
def start : FirstBootRequest → FirstBootPhase
  | .bootstrap _ _ => .locking
  | .submitSetup form _ => if form.password ≠ form.passwordConfirm then .ending .passwordsDiffer else .locking
  | .setupOpen => .counting

/-- What a request does that counted no user. -/
def noUsers : FirstBootRequest → FirstBootPhase
  | .bootstrap inputs rules =>
    match seedPlan inputs rules with
    | .openSetup outcome detail => .issuing outcome detail
    | .addAdmin admin => .adding admin
  | .submitSetup _ _ => .reading
  | .setupOpen => .ending (.isOpen true)

def isSetupOpen : FirstBootRequest → Bool
  | .setupOpen => true
  | _ => false

/-- The result of a request that inserted its admin. -/
def added : FirstBootRequest → AdminRow → FirstBootResult
  | .bootstrap _ _, admin =>
    .bootstrapped .seeded
      (text "seeded the first admin " ++ admin.username ++
        text " from INITIAL_ADMIN_*; they must change the password at first sign-in") none
  | _, _ => .created

/-- Only `/setup` discards the token after its commit. -/
def afterCommit : FirstBootRequest → FirstBootPhase
  | .submitSetup _ _ => .landed
  | _ => .closed

end FirstBootRequest

/-- `create_first_admin`, from the token it has read on. -/
def judgeSetup (expected : Text) (form : SetupForm) (rules : PasswordRules) : FirstBootPhase :=
  let submitted := strip form.token
  let login := strip form.login
  if expected = [] ∨ utf8Encodable submitted = false ∨ submitted ≠ expected then .ending .tokenRefused
  else
    let problem := orElseText (loginProblem login) (passwordProblem rules form.password)
    if problem ≠ [] then .ending (.refused problem)
    else
      match hashPassword rules form.password with
      | .error refusal => .ending (.refused refusal)
      | .ok hash => .adding (newAdmin login hash false)

/-! ## The server -/

/-- The committed users, the owner of the first-boot lock, the token file and the
transactions. Of the past: the tokens staged and those logged, the first admins committed,
with their requests, and how often the last user went. -/
structure FirstBoot where
  users : List AdminRow := []
  lock : Option Id := none
  tokenFile : Option TokenFile := none
  sessions : Id → FirstBootSession := fun _ => {}
  issued : List SetupToken := []
  logged : List Text := []
  firstAdmins : List (FirstBootRequest × AdminRow) := []
  emptied : Nat := 0

inductive FirstBootStatement where
  | openSession (id : Id) (request : FirstBootRequest)
  | lockFirstBoot (id : Id)
  | countUsers (id : Id)
  | discardToken (id : Id) (unlinked : Bool)
  | stageToken (id : Id) (token : SetupToken) (created : Bool)
  | linkToken (id : Id) (linked : Bool)
  | readBack (id : Id) (readable : Bool)
  | readToken (id : Id) (readable : Bool)
  | addAdmin (id : Id)
  | commit (id : Id)
  /-- A failure before the commit, or at it, and a worker's crash. -/
  | rollback (id : Id)
  | afterCommit (id : Id) (unlinked : Bool)
  | crashAfterCommit (id : Id)
  /-- Another local user puts a file at a free path, or takes it back. -/
  | plantFile (file : TokenFile)
  | removePlanted
  /-- Other code commits a user, or the removal of one. -/
  | createUser (user : AdminRow)
  | deleteUser (place : Nat)

namespace FirstBoot

def setSession (id : Id) (session : FirstBootSession) (server : FirstBoot) : FirstBoot :=
  { server with sessions := Function.update server.sessions id session }

def goTo (id : Id) (phase : FirstBootPhase) (server : FirstBoot) : FirstBoot :=
  server.setSession id { server.sessions id with phase }

/-- The token file, once it was to be unlinked. -/
def discard (unlinked : Bool) (server : FirstBoot) : FirstBoot :=
  if unlinked then { server with tokenFile := none } else server

def lockFirstBoot (id : Id) (server : FirstBoot) : Option FirstBoot :=
  match (server.sessions id).phase, server.lock with
  | .locking, none => some { server.goTo id .counting with lock := some id }
  | _, _ => none

def countUsers (id : Id) (server : FirstBoot) : Option FirstBoot :=
  match (server.sessions id).phase with
  | .counting =>
    some (server.goTo id (if server.users = [] then (server.sessions id).request.noUsers else .discarding))
  | _ => none

def discardToken (id : Id) (unlinked : Bool) (server : FirstBoot) : Option FirstBoot :=
  match (server.sessions id).phase with
  | .discarding => some ((server.discard unlinked).goTo id (.ending (server.sessions id).request.usersExist))
  | _ => none

def stageToken (id : Id) (token : SetupToken) (created : Bool) (server : FirstBoot) : Option FirstBoot :=
  match (server.sessions id).phase with
  | .issuing outcome detail =>
    some
      (if created then { server.goTo id (.staged outcome detail token) with issued := token :: server.issued }
      else server.goTo id (.ending (.bootstrapped outcome detail none)))
  | _ => none

/-- `os.link` leaves a file that is there. -/
def linkToken (id : Id) (linked : Bool) (server : FirstBoot) : Option FirstBoot :=
  match (server.sessions id).phase with
  | .staged outcome detail token =>
    some
      (if linked then
        { server.goTo id (.linked outcome detail) with
          tokenFile := server.tokenFile.or (some token.file) }
      else server.goTo id (.ending (.bootstrapped outcome detail none)))
  | _ => none

/-- The token a reader gets. -/
def tokenRead (readable : Bool) (server : FirstBoot) : Text :=
  if readable then (tokenAt server.tokenFile).1 else []

def readBack (id : Id) (readable : Bool) (server : FirstBoot) : Option FirstBoot :=
  match (server.sessions id).phase with
  | .linked outcome detail =>
    let token := server.tokenRead readable
    some
      (if token = [] then server.goTo id (.ending (.bootstrapped outcome detail none))
      else
        { server.goTo id (.ending (.bootstrapped outcome detail (some token))) with
          logged := token :: server.logged })
  | _ => none

def readToken (id : Id) (readable : Bool) (server : FirstBoot) : Option FirstBoot :=
  match (server.sessions id).phase, (server.sessions id).request with
  | .reading, .submitSetup form rules => some (server.goTo id (judgeSetup (server.tokenRead readable) form rules))
  | _, _ => none

def addAdmin (id : Id) (server : FirstBoot) : Option FirstBoot :=
  match (server.sessions id).phase with
  | .adding admin =>
    some
      (server.setSession id
        { server.sessions id with
          phase := .ending ((server.sessions id).request.added admin), inserted := some admin })
  | _ => none

def commit (id : Id) (server : FirstBoot) : Option FirstBoot :=
  match (server.sessions id).phase with
  | .ending _ =>
    let session := server.sessions id
    some
      (match session.inserted with
      | none => { server.setSession id { session with phase := .closed } with lock := release id server.lock }
      | some admin =>
        { server.setSession id { session with phase := session.request.afterCommit, inserted := none } with
          lock := release id server.lock
          users := admin :: server.users
          firstAdmins := (session.request, admin) :: server.firstAdmins })
  | _ => none

def rollback (id : Id) (server : FirstBoot) : Option FirstBoot :=
  match (server.sessions id).phase with
  | .unopened | .landed | .closed => none
  | _ =>
    some
      { server.setSession id { server.sessions id with phase := .closed, inserted := none } with
        lock := release id server.lock }

def afterCommit (id : Id) (unlinked : Bool) (server : FirstBoot) : Option FirstBoot :=
  match (server.sessions id).phase with
  | .landed => some ((server.discard unlinked).goTo id .closed)
  | _ => none

def deleteUser (place : Nat) (server : FirstBoot) : FirstBoot :=
  let left := server.users.eraseIdx place
  { server with
    users := left
    emptied := if server.users ≠ [] ∧ left = [] then server.emptied + 1 else server.emptied }

/-- The server after a statement, if it can run now. -/
def step : FirstBootStatement → FirstBoot → Option FirstBoot
  | .openSession id request, server =>
    match (server.sessions id).phase with
    | .unopened => some (server.setSession id { request, phase := request.start })
    | _ => none
  | .lockFirstBoot id, server => server.lockFirstBoot id
  | .countUsers id, server => server.countUsers id
  | .discardToken id unlinked, server => server.discardToken id unlinked
  | .stageToken id token created, server => server.stageToken id token created
  | .linkToken id linked, server => server.linkToken id linked
  | .readBack id readable, server => server.readBack id readable
  | .readToken id readable, server => server.readToken id readable
  | .addAdmin id, server => server.addAdmin id
  | .commit id, server => server.commit id
  | .rollback id, server => server.rollback id
  | .afterCommit id unlinked, server => server.afterCommit id unlinked
  | .crashAfterCommit id, server =>
    match (server.sessions id).phase with
    | .landed => some (server.goTo id .closed)
    | _ => none
  | .plantFile file, server =>
    if server.tokenFile.isNone && !file.trusted then some { server with tokenFile := some file } else none
  | .removePlanted, server =>
    if server.tokenFile.any TokenFile.trusted then none else some { server with tokenFile := none }
  | .createUser user, server => some { server with users := user :: server.users }
  | .deleteUser place, server => some (server.deleteUser place)

/-- Other code creates a user for an admin, who is a user. -/
def usersMakeUsers (server : FirstBoot) : FirstBootStatement → Bool
  | .createUser _ => !server.users.isEmpty
  | _ => true

/-- And it leaves a user, once there is one. -/
def usersRemain (server : FirstBoot) (statement : FirstBootStatement) : Bool :=
  usersMakeUsers server statement &&
    match statement with
    | .deleteUser place => server.users.isEmpty || !(server.users.eraseIdx place).isEmpty
    | _ => true

end FirstBoot

/-! ## One transaction at a time -/

/-- A phase before the count, or after all that follows from it. -/
def FirstBootPhase.idle : FirstBootPhase → Bool
  | .counting | .issuing _ _ | .staged _ _ _ | .linked _ _ | .reading | .adding _ => false
  | _ => true

namespace FirstBootSession

/-- It relies on there being no users: it has counted none and not ended. -/
def foundNone (session : FirstBootSession) : Prop :=
  session.inserted.isSome = true ∨
    match session.phase with
    | .issuing _ _ | .staged _ _ _ | .linked _ _ | .reading | .adding _ => True
    | _ => False

/-- It is to find that out with the lock held. -/
def countsLocked (session : FirstBootSession) : Prop :=
  session.phase = .counting ∧ session.request.isSetupOpen = false

def excludes (session : FirstBootSession) : Prop := session.foundNone ∨ session.countsLocked

/-- In other phases only an admin that it has inserted counts. -/
theorem excludes_of_idle {request : FirstBootRequest} {phase : FirstBootPhase} {inserted : Option AdminRow}
    (idle : phase.idle = true) :
    (FirstBootSession.mk request phase inserted).excludes ↔ inserted.isSome = true := by
  unfold excludes foundNone countsLocked
  cases phase <;> simp_all [FirstBootPhase.idle]

end FirstBootSession

namespace FirstBoot

/-- While a transaction relies on there being no users, it has the lock and there are none. -/
structure Guarded (server : FirstBoot) : Prop where
  exclusive : Exclusive FirstBootSession.excludes server.lock server.sessions
  noUsers : ∀ id, (server.sessions id).foundNone → server.users = []

/-- A statement that leaves the table of users alone. -/
def SameUsers (server next : FirstBoot) : Prop :=
  next.users = server.users ∧ next.firstAdmins = server.firstAdmins ∧ next.emptied = server.emptied

/-- Each time the table was empty made one first admin, or has yet to. -/
def Counted (server : FirstBoot) : Prop :=
  server.firstAdmins.length = server.emptied + if server.users = [] then 0 else 1

variable {server next : FirstBoot} {id : Id} {session : FirstBootSession}

theorem sameUsers_discard (unlinked : Bool) (server : FirstBoot) : SameUsers server (server.discard unlinked) := by
  unfold discard
  split_ifs <;> exact ⟨rfl, rfl, rfl⟩

@[simp] theorem lock_discard (unlinked : Bool) (server : FirstBoot) :
    (server.discard unlinked).lock = server.lock := by
  unfold discard
  split_ifs <;> rfl

@[simp] theorem sessions_discard (unlinked : Bool) (server : FirstBoot) :
    (server.discard unlinked).sessions = server.sessions := by
  unfold discard
  split_ifs <;> rfl

/-- A statement that changes one session, and neither the users nor the lock. -/
theorem Guarded.goOn (guarded : server.Guarded) (users : next.users = server.users) (lock : next.lock = server.lock)
    (sessions : next.sessions = Function.update server.sessions id session)
    (excludes : session.excludes → (server.sessions id).excludes)
    (found : session.foundNone → server.users = []) : next.Guarded := by
  constructor
  · rw [sessions, lock]
    exact guarded.exclusive.goOn excludes
  · intro other isFound
    rw [users]
    rw [sessions] at isFound
    by_cases same : other = id
    · subst same
      rw [Function.update_self] at isFound
      exact found isFound
    · rw [Function.update_of_ne same] at isFound
      exact guarded.noUsers other isFound

/-- Another one that counted no users would hold the lock as well. -/
theorem Guarded.alone (guarded : server.Guarded) (here : (server.sessions id).foundNone) {other : Id}
    (apart : other ≠ id) : ¬ (server.sessions other).foundNone := by
  intro there
  exact apart (guarded.exclusive.alone (.inl here) (.inl there))

/-- A session that goes on to a phase that does not rely on the count. -/
theorem Guarded.goTo (guarded : server.Guarded) (users : next.users = server.users) (lock : next.lock = server.lock)
    {phase : FirstBootPhase}
    (sessions : next.sessions = Function.update server.sessions id { server.sessions id with phase })
    (quiet : ({ server.sessions id with phase } : FirstBootSession).excludes → (server.sessions id).foundNone) :
    next.Guarded := by
  refine guarded.goOn users lock sessions (fun excludes => .inl (quiet excludes)) fun found => ?_
  exact guarded.noUsers id (quiet (.inl found))

/-- A transaction that ends has no admin left to commit, and lets go of the lock. -/
theorem Guarded.leave (guarded : server.Guarded) (users : next.users = server.users)
    (lock : next.lock = release id server.lock)
    (sessions : next.sessions = Function.update server.sessions id session) (outside : ¬ session.excludes) :
    next.Guarded := by
  constructor
  · rw [sessions, lock]
    exact guarded.exclusive.leave outside
  · intro other isFound
    rw [users]
    rw [sessions] at isFound
    by_cases same : other = id
    · subst same
      rw [Function.update_self] at isFound
      exact absurd (.inl isFound) outside
    · rw [Function.update_of_ne same] at isFound
      exact guarded.noUsers other isFound

theorem Guarded.lockFirstBoot (guarded : server.Guarded) (stepped : server.lockFirstBoot id = some next) :
    next.Guarded ∧ SameUsers server next := by
  unfold FirstBoot.lockFirstBoot at stepped
  split at stepped
  · rename_i phase free
    cases stepped
    refine ⟨⟨?_, ?_⟩, rfl, rfl, rfl⟩
    · have exclusive := guarded.exclusive
      rw [free] at exclusive
      exact exclusive.acquire
    · intro other isFound
      by_cases same : other = id
      · subst same
        refine guarded.noUsers other ?_
        rw [FirstBoot.goTo, setSession] at isFound
        simpa [FirstBootSession.foundNone, phase] using isFound
      · rw [FirstBoot.goTo, setSession] at isFound
        simp only [Function.update_of_ne same] at isFound
        exact guarded.noUsers other isFound
  · cases stepped

theorem Guarded.countUsers (guarded : server.Guarded) (stepped : server.countUsers id = some next) :
    next.Guarded ∧ SameUsers server next := by
  unfold FirstBoot.countUsers at stepped
  split at stepped
  · rename_i phase
    cases stepped
    refine ⟨guarded.goOn rfl rfl rfl ?_ ?_, rfl, rfl, rfl⟩
    · intro excludes
      cases isRequest : (server.sessions id).request with
      | bootstrap inputs rules => exact .inr ⟨phase, by rw [isRequest]; rfl⟩
      | submitSetup form rules => exact .inr ⟨phase, by rw [isRequest]; rfl⟩
      | setupOpen =>
        refine .inl (.inl ?_)
        split_ifs at excludes <;>
          simpa [FirstBootSession.excludes, FirstBootSession.foundNone, FirstBootSession.countsLocked, isRequest,
            FirstBootRequest.noUsers] using excludes
    · intro found
      by_cases none : server.users = []
      · exact none
      · rw [if_neg none] at found
        exact guarded.noUsers id (.inl (by simpa [FirstBootSession.foundNone] using found))
  · cases stepped

theorem Guarded.addAdmin (guarded : server.Guarded) (stepped : server.addAdmin id = some next) :
    next.Guarded ∧ SameUsers server next := by
  unfold FirstBoot.addAdmin at stepped
  split at stepped
  · rename_i admin phase
    cases stepped
    have found : (server.sessions id).foundNone := .inr (by rw [phase]; trivial)
    exact ⟨guarded.goOn rfl rfl rfl (fun _ => .inl found) fun _ => guarded.noUsers id found, rfl, rfl, rfl⟩
  · cases stepped

/-- A transaction that has counted goes on. -/
theorem Guarded.relies (guarded : server.Guarded) {phase : FirstBootPhase} (here : (server.sessions id).foundNone)
    (same : SameUsers server next) (lock : next.lock = server.lock)
    (sessions : next.sessions = Function.update server.sessions id { server.sessions id with phase }) :
    next.Guarded ∧ SameUsers server next :=
  ⟨guarded.goTo same.1 lock sessions fun _ => here, same⟩

theorem Guarded.stageToken (guarded : server.Guarded) {token : SetupToken} {created : Bool}
    (stepped : server.stageToken id token created = some next) : next.Guarded ∧ SameUsers server next := by
  unfold FirstBoot.stageToken at stepped
  split at stepped
  · rename_i outcome detail phase
    have here : (server.sessions id).foundNone := .inr (by rw [phase]; trivial)
    cases created <;> cases stepped <;> exact guarded.relies here ⟨rfl, rfl, rfl⟩ rfl rfl
  · cases stepped

theorem Guarded.linkToken (guarded : server.Guarded) {linked : Bool}
    (stepped : server.linkToken id linked = some next) : next.Guarded ∧ SameUsers server next := by
  unfold FirstBoot.linkToken at stepped
  split at stepped
  · rename_i outcome detail token phase
    have here : (server.sessions id).foundNone := .inr (by rw [phase]; trivial)
    cases linked <;> cases stepped <;> exact guarded.relies here ⟨rfl, rfl, rfl⟩ rfl rfl
  · cases stepped

theorem Guarded.readBack (guarded : server.Guarded) {readable : Bool}
    (stepped : server.readBack id readable = some next) : next.Guarded ∧ SameUsers server next := by
  unfold FirstBoot.readBack at stepped
  split at stepped
  · rename_i outcome detail phase
    have here : (server.sessions id).foundNone := .inr (by rw [phase]; trivial)
    obtain rfl := Option.some.inj stepped
    split_ifs <;> exact guarded.relies here ⟨rfl, rfl, rfl⟩ rfl rfl
  · cases stepped

theorem Guarded.readToken (guarded : server.Guarded) {readable : Bool}
    (stepped : server.readToken id readable = some next) : next.Guarded ∧ SameUsers server next := by
  unfold FirstBoot.readToken at stepped
  split at stepped
  · rename_i form rules phase _
    have here : (server.sessions id).foundNone := .inr (by rw [phase]; trivial)
    cases stepped
    exact guarded.relies here ⟨rfl, rfl, rfl⟩ rfl rfl
  · cases stepped

/-- A commit adds the first admin to an empty table. -/
theorem Guarded.commit (guarded : server.Guarded) (stepped : server.commit id = some next) :
    next.Guarded ∧ (SameUsers server next ∨
      server.users = [] ∧ next.emptied = server.emptied ∧
      ∃ admin, (server.sessions id).inserted = some admin ∧ next.users = [admin] ∧
        next.firstAdmins = ((server.sessions id).request, admin) :: server.firstAdmins) := by
  unfold FirstBoot.commit at stepped
  split at stepped
  on_goal 2 => cases stepped
  cases stepped
  cases inserted : (server.sessions id).inserted with
  | none =>
    refine ⟨guarded.leave rfl rfl rfl ?_, .inl ⟨rfl, rfl, rfl⟩⟩
    rw [FirstBootSession.excludes_of_idle rfl]
    exact Bool.false_ne_true
  | some admin =>
    have here : (server.sessions id).foundNone := .inl (by rw [inserted]; rfl)
    have isEmpty : server.users = [] := guarded.noUsers id here
    have idle : (server.sessions id).request.afterCommit.idle = true := by
      cases (server.sessions id).request <;> rfl
    have outside : ¬ (FirstBootSession.mk (server.sessions id).request
        (server.sessions id).request.afterCommit none).excludes := by
      rw [FirstBootSession.excludes_of_idle idle]
      exact Bool.false_ne_true
    refine ⟨⟨guarded.exclusive.leave outside, ?_⟩, .inr ⟨isEmpty, rfl, admin, rfl, by rw [isEmpty], rfl⟩⟩
    intro other isFound
    by_cases same : other = id
    · subst same
      refine absurd (.inl ?_) outside
      simpa [setSession] using isFound
    · simp only [setSession, Function.update_of_ne same] at isFound
      exact absurd isFound (guarded.alone here same)

theorem Guarded.rollback (guarded : server.Guarded) (stepped : server.rollback id = some next) :
    next.Guarded ∧ SameUsers server next := by
  have outside : ¬ (FirstBootSession.mk (server.sessions id).request .closed none).excludes := by
    rw [FirstBootSession.excludes_of_idle rfl]
    exact Bool.false_ne_true
  unfold FirstBoot.rollback at stepped
  split at stepped
  on_goal 4 => cases stepped; exact ⟨guarded.leave rfl rfl rfl outside, rfl, rfl, rfl⟩
  all_goals cases stepped

/-- A session goes on to its end with what it has inserted. -/
theorem Guarded.idle (guarded : server.Guarded) (id : Id) {phase : FirstBootPhase} (idle : phase.idle = true)
    (users : next.users = server.users) (lock : next.lock = server.lock)
    (sessions : next.sessions = Function.update server.sessions id { server.sessions id with phase }) :
    next.Guarded := by
  refine guarded.goTo users lock sessions fun excludes => .inl ?_
  rwa [FirstBootSession.excludes_of_idle idle] at excludes

/-- So does one after it has discarded the token. -/
theorem Guarded.discard (guarded : server.Guarded) {phase : FirstBootPhase} (idle : phase.idle = true)
    (unlinked : Bool) : ((server.discard unlinked).goTo id phase).Guarded := by
  refine guarded.idle id idle (sameUsers_discard unlinked server).1 (lock_discard unlinked server) ?_
  rw [FirstBoot.goTo, setSession, sessions_discard]

/-- Other code's changes concern no transaction that counted no users. -/
theorem Guarded.others (guarded : server.Guarded) (lock : next.lock = server.lock)
    (sessions : next.sessions = server.sessions) (users : server.users = [] → next.users = []) : next.Guarded := by
  constructor
  · rw [lock, sessions]
    exact guarded.exclusive
  · intro id isFound
    rw [sessions] at isFound
    exact users (guarded.noUsers id isFound)

/-- What a statement does to the table of users. -/
inductive TableChange (statement : FirstBootStatement) (server next : FirstBoot) : Prop
  | same : SameUsers server next → TableChange statement server next
  | first (id : Id) (admin : AdminRow) : server.users = [] → next.emptied = server.emptied →
      (server.sessions id).inserted = some admin → next.users = [admin] →
      next.firstAdmins = ((server.sessions id).request, admin) :: server.firstAdmins →
      TableChange statement server next
  | created (user : AdminRow) : server.users ≠ [] → next = { server with users := user :: server.users } →
      TableChange statement server next
  | deleted (place : Nat) : statement = .deleteUser place → next = server.deleteUser place →
      TableChange statement server next

/-- **One statement** keeps the lock's promise, and makes an admin only in an empty table. -/
theorem Guarded.step (guarded : server.Guarded) {statement : FirstBootStatement}
    (allowed : usersMakeUsers server statement = true) (stepped : step statement server = some next) :
    next.Guarded ∧ TableChange statement server next := by
  cases statement with
  | openSession id request =>
    rw [FirstBoot.step] at stepped
    split at stepped
    · rename_i phase
      cases stepped
      refine ⟨guarded.goOn rfl rfl rfl ?_ ?_, .same ⟨rfl, rfl, rfl⟩⟩
      · intro excludes
        cases request <;> simp_all [FirstBootSession.excludes, FirstBootSession.foundNone,
          FirstBootSession.countsLocked, FirstBootRequest.start, FirstBootRequest.isSetupOpen]
        split_ifs at excludes <;> simp_all
      · intro found
        cases request <;> simp_all [FirstBootSession.foundNone, FirstBootRequest.start]
        split_ifs at found <;> simp_all
    · cases stepped
  | lockFirstBoot id => exact (guarded.lockFirstBoot stepped).imp_right .same
  | countUsers id => exact (guarded.countUsers stepped).imp_right .same
  | discardToken id unlinked =>
    rw [FirstBoot.step, FirstBoot.discardToken] at stepped
    split at stepped
    · cases stepped
      exact ⟨guarded.discard rfl unlinked, .same (sameUsers_discard unlinked server)⟩
    · cases stepped
  | stageToken id token created => exact (guarded.stageToken stepped).imp_right .same
  | linkToken id linked => exact (guarded.linkToken stepped).imp_right .same
  | readBack id readable => exact (guarded.readBack stepped).imp_right .same
  | readToken id readable => exact (guarded.readToken stepped).imp_right .same
  | addAdmin id => exact (guarded.addAdmin stepped).imp_right .same
  | commit id =>
    obtain ⟨kept, same | ⟨isEmpty, emptied, admin, inserted, users, firstAdmins⟩⟩ := guarded.commit stepped
    · exact ⟨kept, .same same⟩
    · exact ⟨kept, .first id admin isEmpty emptied inserted users firstAdmins⟩
  | rollback id => exact (guarded.rollback stepped).imp_right .same
  | afterCommit id unlinked =>
    rw [FirstBoot.step, FirstBoot.afterCommit] at stepped
    split at stepped
    · cases stepped
      exact ⟨guarded.discard rfl unlinked, .same (sameUsers_discard unlinked server)⟩
    · cases stepped
  | crashAfterCommit id =>
    rw [FirstBoot.step] at stepped
    split at stepped
    · cases stepped
      exact ⟨guarded.idle id rfl rfl rfl rfl, .same ⟨rfl, rfl, rfl⟩⟩
    · cases stepped
  | plantFile file =>
    rw [FirstBoot.step] at stepped
    split_ifs at stepped
    cases stepped
    exact ⟨guarded.others rfl rfl id, .same ⟨rfl, rfl, rfl⟩⟩
  | removePlanted =>
    rw [FirstBoot.step] at stepped
    split_ifs at stepped
    cases stepped
    exact ⟨guarded.others rfl rfl id, .same ⟨rfl, rfl, rfl⟩⟩
  | createUser user =>
    cases stepped
    have some : server.users ≠ [] := by
      intro none
      rw [usersMakeUsers, none] at allowed
      exact absurd allowed Bool.false_ne_true
    exact ⟨guarded.others rfl rfl fun none => absurd none some, .created user some rfl⟩
  | deleteUser place =>
    cases stepped
    refine ⟨guarded.others rfl rfl fun none => ?_, .deleted place rfl rfl⟩
    rw [deleteUser, none]
    rfl

theorem Counted.step (counted : server.Counted) {statement : FirstBootStatement}
    (change : TableChange statement server next) : next.Counted := by
  unfold Counted at counted ⊢
  cases change with
  | same same => rw [same.1, same.2.1, same.2.2, counted]
  | first id admin isEmpty emptied _ users firstAdmins =>
    rw [if_pos isEmpty] at counted
    rw [users, firstAdmins, emptied, List.length_cons, counted, if_neg (List.cons_ne_nil admin [])]
  | created user some isNext =>
    rw [if_neg some] at counted
    rw [isNext, if_neg (List.cons_ne_nil user server.users)]
    exact counted
  | deleted place _ isNext =>
    rw [isNext, deleteUser]
    dsimp only
    by_cases isEmpty : server.users = []
    · rw [if_pos isEmpty] at counted
      rw [isEmpty, List.eraseIdx_nil, if_neg (fun both => both.1 rfl), if_pos rfl, counted]
    · rw [if_neg isEmpty] at counted
      split_ifs with both left left
      · omega
      · exact absurd both.2 left
      · exact absurd ⟨isEmpty, left⟩ both
      · exact counted

/-- Nothing has happened yet. -/
structure Fresh (server : FirstBoot) : Prop where
  users : server.users = []
  unopened : ∀ id, server.sessions id = {}
  tokenFile : server.tokenFile.any TokenFile.trusted = false
  past : server.issued = [] ∧ server.logged = [] ∧ server.firstAdmins = [] ∧ server.emptied = 0

theorem Fresh.guarded (fresh : server.Fresh) : server.Guarded := by
  have outside (id : Id) : ¬ (server.sessions id).excludes := by
    rw [fresh.unopened id, FirstBootSession.excludes_of_idle rfl]
    exact Bool.false_ne_true
  exact ⟨.of_outside outside, fun _ _ => fresh.users⟩

theorem Fresh.counted (fresh : server.Fresh) : server.Counted := by
  obtain ⟨-, -, firstAdmins, emptied⟩ := fresh.past
  rw [Counted, firstAdmins, emptied, fresh.users]
  rfl

/-- What every statement keeps. -/
structure Sound (server : FirstBoot) : Prop where
  guarded : server.Guarded
  counted : server.Counted

/-- **First admins.** Startups and `/setup` make one for each time the table of users was
empty and is not: workers that start together, and submissions at the same time, make no
second one. -/
theorem first_admins_counted {before after : FirstBoot} (fresh : before.Fresh)
    (run : Runs step usersMakeUsers before after) :
    after.firstAdmins.length = after.emptied + (if after.users = [] then 0 else 1) := by
  have sound : after.Sound := by
    refine run.keeps (fun server statement next allowed stepped sound => ?_) ⟨fresh.guarded, fresh.counted⟩
    obtain ⟨kept, change⟩ := sound.guarded.step allowed stepped
    exact ⟨kept, sound.counted.step change⟩
  exact sound.counted

/-! ## Whose token it is -/

end FirstBoot

section Token

variable {token : SetupToken} {file : TokenFile} {read : Text}

theorem SetupToken.strip_value (token : SetupToken) : strip token.value = token.value := by
  refine stripped_of_none fun c isIn => ?_
  rcases token.urlSafe c isIn with alphanum | other
  · cases c with
    | scalar c =>
      have spaces : (whiteSpace ++ separators).all (fun space => !space.isAlphanum) = true := by decide
      refine decide_eq_false fun space => ?_
      have isNot := List.all_eq_true.mp spaces c space
      rw [isAsciiAlphanum] at alphanum
      rw [alphanum] at isNot
      cases isNot
    | high offset => cases alphanum
    | low offset => cases alphanum
  · have spaceless : ∀ other ∈ text "-_", other.isSpace = false := by decide
    exact spaceless c other

theorem SetupToken.utf8Encodable_value (token : SetupToken) : utf8Encodable token.value = true := by
  refine List.all_eq_true.mpr fun c isIn => ?_
  rcases token.urlSafe c isIn with alphanum | other
  · cases c with
    | scalar c => rfl
    | high offset => cases alphanum
    | low offset => cases alphanum
  · have scalars : ∀ other ∈ text "-_", (!other.isSurrogate) = true := by decide
    exact scalars c other

/-- A token that was issued reads back as it is. -/
theorem tokenAt_file (token : SetupToken) : tokenAt (some token.file) = (token.value, []) := by
  rw [SetupToken.file, tokenAt, Option.getD_some, token.strip_value, if_neg token.nonempty]

theorem trusted_of_tokenAt {found : Option TokenFile} (read : (tokenAt found).1 ≠ []) :
    ∃ file, found = some file ∧ file.trusted = true := by
  match found, read with
  | none, read => exact absurd rfl read
  | some (.unopened strerror), read => exact absurd rfl read
  | some (.opened false data), read => exact absurd rfl read
  | some (.opened true data), _ => exact ⟨_, rfl, rfl⟩

/-- Nothing is said against a file only if it is trusted. -/
theorem trusted_of_works {found : Option TokenFile} (works : tokenAt found = (read, [])) :
    ∃ file, found = some file ∧ file.trusted = true := by
  have noProblem : (tokenAt found).2 = [] := by rw [works]
  match found, noProblem with
  | none, noProblem => exact absurd noProblem (by decide)
  | some (.unopened strerror), noProblem => exact absurd noProblem (by simp [tokenAt, notOpened, text])
  | some (.opened false data), noProblem =>
    have problem : notOwn ≠ [] := by decide
    exact absurd noProblem problem
  | some (.opened true data), _ => exact ⟨_, rfl, rfl⟩

end Token

/-- Each of a first admin's request and row: the seed it is from, or the token that was
submitted with it. -/
def Vouched (issued : List SetupToken) : FirstBootRequest → AdminRow → Prop
  | .bootstrap inputs rules, admin => seedPlan inputs rules = .addAdmin admin
  | .submitSetup form rules, admin =>
    ∃ token ∈ issued, strip form.token = token.value ∧ form.password = form.passwordConfirm ∧
      judgeSetup token.value form rules = .adding admin
  | .setupOpen, _ => False

/-- A submitted form goes on only with its password confirmed. -/
def FirstBootRequest.confirmed : FirstBootRequest → Prop
  | .submitSetup form _ => form.password = form.passwordConfirm
  | _ => True

/-- A session that may yet make an admin has what vouches for it, and links a token that was issued. -/
structure FirstBootSession.Backed (issued : List SetupToken) (session : FirstBootSession) : Prop where
  adding : ∀ admin, session.phase = .adding admin → Vouched issued session.request admin
  inserted : ∀ admin, session.inserted = some admin → Vouched issued session.request admin
  staged : ∀ outcome detail token, session.phase = .staged outcome detail token → token ∈ issued
  confirmed : session.phase = .locking ∨ session.phase = .counting ∨ session.phase = .reading →
    session.request.confirmed

/-- A phase on the way to an admin or to a token file. -/
def FirstBootPhase.proceeds : FirstBootPhase → Bool
  | .locking | .counting | .reading | .adding _ | .staged _ _ _ => true
  | _ => false

section Backed

variable {issued more : List SetupToken} {session : FirstBootSession}

theorem Vouched.mono {request : FirstBootRequest} {admin : AdminRow} (vouched : Vouched issued request admin)
    (grown : ∀ token ∈ issued, token ∈ more) : Vouched more request admin := by
  cases request with
  | bootstrap inputs rules => exact vouched
  | submitSetup form rules =>
    obtain ⟨token, isIssued, rest⟩ := vouched
    exact ⟨token, grown token isIssued, rest⟩
  | setupOpen => exact vouched

namespace FirstBootSession.Backed

theorem mono (backed : session.Backed issued) (grown : ∀ token ∈ issued, token ∈ more) : session.Backed more where
  adding admin adding := Vouched.mono (backed.adding admin adding) grown
  inserted admin inserted := Vouched.mono (backed.inserted admin inserted) grown
  staged outcome detail token isStaged := grown token (backed.staged outcome detail token isStaged)
  confirmed := backed.confirmed

/-- Another phase needs nothing. -/
theorem goTo (backed : session.Backed issued) (phase : FirstBootPhase) (quiet : phase.proceeds = false) :
    ({ session with phase } : FirstBootSession).Backed issued := by
  refine ⟨fun admin adding => ?_, backed.inserted, fun outcome detail token staged => ?_, fun waits => ?_⟩
  · dsimp only at adding
    subst adding
    cases quiet
  · dsimp only at staged
    subst staged
    cases quiet
  · dsimp only at waits
    rcases waits with rfl | rfl | rfl <;> cases quiet

end FirstBootSession.Backed

end Backed

namespace FirstBoot

variable {server next : FirstBoot} {id : Id} {session : FirstBootSession}

/-- Every trusted token file is one that was issued, and every admin is vouched for. -/
structure Issued (server : FirstBoot) : Prop where
  file : ∀ file, server.tokenFile = some file → file.trusted = true → ∃ token ∈ server.issued, file = token.file
  backed : ∀ id, (server.sessions id).Backed server.issued
  vouched : ∀ entry ∈ server.firstAdmins, Vouched server.issued entry.1 entry.2

/-- Each session is as it was, but for one that is still backed. -/
theorem Issued.goOn (issued : server.Issued) (id : Id) {session : FirstBootSession}
    (sessions : next.sessions = Function.update server.sessions id session)
    (grown : ∀ token ∈ server.issued, token ∈ next.issued)
    (file : ∀ file, next.tokenFile = some file → file.trusted = true → ∃ token ∈ next.issued, file = token.file)
    (here : session.Backed next.issued) (vouched : ∀ entry ∈ next.firstAdmins, Vouched next.issued entry.1 entry.2) :
    next.Issued := by
  refine ⟨file, fun other => ?_, vouched⟩
  rw [sessions]
  by_cases same : other = id
  · subst same
    rw [Function.update_self]
    exact here
  · rw [Function.update_of_ne same]
    exact (issued.backed other).mono grown

/-- A statement that leaves the tokens and the file, and moves one session. -/
theorem Issued.moves (issued : server.Issued) (sessions : next.sessions = Function.update server.sessions id session)
    (tokens : next.issued = server.issued) (file : next.tokenFile = server.tokenFile)
    (firstAdmins : next.firstAdmins = server.firstAdmins) (here : session.Backed server.issued) : next.Issued := by
  refine issued.goOn id sessions ?_ ?_ ?_ ?_
  · rw [tokens]
    exact fun _ isIssued => isIssued
  · rw [tokens, file]
    exact issued.file
  · rwa [tokens]
  · rw [tokens, firstAdmins]
    exact issued.vouched

/-- With its file discarded or not. -/
theorem Issued.discard (issued : server.Issued) (unlinked : Bool) {phase : FirstBootPhase}
    (quiet : phase.proceeds = false) : ((server.discard unlinked).goTo id phase).Issued := by
  cases unlinked with
  | false => exact issued.moves rfl rfl rfl rfl ((issued.backed id).goTo _ quiet)
  | true =>
    refine issued.goOn id rfl (fun _ isIssued => isIssued) (fun file isFile => ?_)
      ((issued.backed id).goTo _ quiet) issued.vouched
    cases isFile

/-- A session that counted no users links no token yet. -/
theorem staged_noUsers {request : FirstBootRequest} {outcome : BootstrapOutcome} {detail : Text} {token : SetupToken} :
    request.noUsers ≠ .staged outcome detail token := by
  intro staged
  cases request with
  | bootstrap inputs rules =>
    unfold FirstBootRequest.noUsers at staged
    dsimp only at staged
    split at staged <;> cases staged
  | submitSetup form rules => cases staged
  | setupOpen => cases staged

theorem vouched_noUsers {issued : List SetupToken} {request : FirstBootRequest} {admin : AdminRow}
    (adding : request.noUsers = .adding admin) : Vouched issued request admin := by
  cases request with
  | bootstrap inputs rules =>
    unfold FirstBootRequest.noUsers at adding
    dsimp only at adding
    split at adding
    · cases adding
    · rename_i isPlan
      cases adding
      exact isPlan
  | submitSetup form rules => cases adding
  | setupOpen => cases adding

/-- What was submitted is the token that was read. -/
theorem judgeSetup_adding {expected : Text} {form : SetupForm} {rules : PasswordRules} {admin : AdminRow}
    (adding : judgeSetup expected form rules = .adding admin) : strip form.token = expected ∧ expected ≠ [] := by
  unfold judgeSetup at adding
  dsimp only at adding
  split_ifs at adding with refused
  all_goals
    rw [not_or, not_or] at refused
    exact ⟨not_not.mp refused.2.2, refused.1⟩

theorem judgeSetup_staged {expected : Text} {form : SetupForm} {rules : PasswordRules} {outcome : BootstrapOutcome}
    {detail : Text} {token : SetupToken} : judgeSetup expected form rules ≠ .staged outcome detail token := by
  intro staged
  unfold judgeSetup at staged
  dsimp only at staged
  split_ifs at staged
  split at staged <;> cases staged

theorem Issued.countUsers (issued : server.Issued) (stepped : server.countUsers id = some next) : next.Issued := by
  unfold FirstBoot.countUsers at stepped
  split at stepped
  on_goal 2 => cases stepped
  rename_i phase
  cases stepped
  have backed := issued.backed id
  split_ifs
  · refine issued.moves rfl rfl rfl rfl ⟨fun admin => vouched_noUsers, backed.inserted, fun _ _ _ staged => ?_, ?_⟩
    · exact absurd staged staged_noUsers
    · exact fun _ => backed.confirmed (.inr (.inl phase))
  · exact issued.moves rfl rfl rfl rfl (backed.goTo _ rfl)

/-- A trusted file holds a token that was issued. -/
theorem Issued.tokenRead (issued : server.Issued) {readable : Bool} (some : server.tokenRead readable ≠ []) :
    ∃ token ∈ server.issued, server.tokenRead readable = token.value := by
  cases readable with
  | false => exact absurd rfl some
  | true =>
    obtain ⟨file, isFile, trusted⟩ := trusted_of_tokenAt some
    obtain ⟨token, isIssued, rfl⟩ := issued.file file isFile trusted
    refine ⟨token, isIssued, ?_⟩
    rw [FirstBoot.tokenRead, if_pos rfl, isFile, tokenAt_file]

theorem Issued.readToken (issued : server.Issued) {readable : Bool}
    (stepped : server.readToken id readable = some next) : next.Issued := by
  unfold FirstBoot.readToken at stepped
  split at stepped
  on_goal 2 => cases stepped
  rename_i form rules phase isRequest
  cases stepped
  have backed := issued.backed id
  have confirmed := backed.confirmed (.inr (.inr phase))
  refine issued.moves rfl rfl rfl rfl ⟨fun admin adding => ?_, backed.inserted, fun _ _ _ staged => ?_, fun _ => confirmed⟩
  · dsimp only at adding ⊢
    obtain ⟨isToken, some⟩ := judgeSetup_adding adding
    obtain ⟨token, isIssued, isValue⟩ := issued.tokenRead some
    rw [isRequest] at confirmed ⊢
    rw [isValue] at isToken adding
    exact ⟨token, isIssued, isToken, confirmed, adding⟩
  · exact absurd staged judgeSetup_staged

theorem Issued.linkToken (issued : server.Issued) {linked : Bool}
    (stepped : server.linkToken id linked = some next) : next.Issued := by
  unfold FirstBoot.linkToken at stepped
  split at stepped
  on_goal 2 => cases stepped
  rename_i outcome detail token phase
  cases linked with
  | false =>
    cases stepped
    exact issued.moves rfl rfl rfl rfl ((issued.backed id).goTo _ rfl)
  | true =>
    cases stepped
    refine issued.goOn id rfl (fun _ isIssued => isIssued) (fun file isFile trusted => ?_)
      ((issued.backed id).goTo _ rfl) issued.vouched
    cases was : server.tokenFile with
    | none =>
      rw [was] at isFile
      cases isFile
      exact ⟨token, (issued.backed id).staged outcome detail token phase, rfl⟩
    | some old =>
      rw [was] at isFile
      cases isFile
      exact issued.file _ was trusted

theorem Issued.stageToken (issued : server.Issued) {token : SetupToken} {created : Bool}
    (stepped : server.stageToken id token created = some next) : next.Issued := by
  have grown : ∀ other ∈ server.issued, other ∈ token :: server.issued := fun _ => List.mem_cons_of_mem token
  unfold FirstBoot.stageToken at stepped
  split at stepped
  on_goal 2 => cases stepped
  rename_i outcome detail phase
  have backed := issued.backed id
  cases created with
  | false =>
    cases stepped
    exact issued.moves rfl rfl rfl rfl (backed.goTo _ rfl)
  | true =>
    cases stepped
    refine issued.goOn id rfl grown (fun file isFile trusted => ?_) ⟨?_, ?_, ?_, ?_⟩ ?_
    · obtain ⟨old, isIssued, same⟩ := issued.file file isFile trusted
      exact ⟨old, grown old isIssued, same⟩
    · intro admin adding
      cases adding
    · exact fun admin inserted => (backed.inserted admin inserted).mono grown
    · rintro outcome detail staged same
      cases same
      exact List.mem_cons_self ..
    · rintro (waits | waits | waits) <;> cases waits
    · exact fun entry isEntry => (issued.vouched entry isEntry).mono grown

theorem Issued.commit (issued : server.Issued) (stepped : server.commit id = some next) : next.Issued := by
  unfold FirstBoot.commit at stepped
  split at stepped
  on_goal 2 => cases stepped
  cases stepped
  have backed := issued.backed id
  cases inserted : (server.sessions id).inserted with
  | none =>
    refine issued.moves rfl rfl rfl rfl ?_
    have closed := backed.goTo .closed rfl
    rwa [inserted] at closed
  | some admin =>
    refine issued.goOn id rfl (fun _ isIssued => isIssued) issued.file ?_ ?_
    · have quiet : (server.sessions id).request.afterCommit.proceeds = false := by
        cases (server.sessions id).request <;> rfl
      have landed := backed.goTo _ quiet
      exact ⟨landed.adding, (fun admin none => by cases none), landed.staged, landed.confirmed⟩
    · rintro entry isEntry
      rcases List.mem_cons.mp isEntry with rfl | before
      · exact backed.inserted admin inserted
      · exact issued.vouched entry before

/-- **One statement** keeps every admin vouched for. -/
theorem Issued.step (issued : server.Issued) {statement : FirstBootStatement}
    (stepped : step statement server = some next) : next.Issued := by
  cases statement with
  | openSession id request =>
    rw [FirstBoot.step] at stepped
    split at stepped
    on_goal 2 => cases stepped
    cases stepped
    refine issued.moves rfl rfl rfl rfl ⟨fun admin adding => ?_, ?_, fun _ _ _ staged => ?_, fun waits => ?_⟩
    · cases request <;> simp [FirstBootRequest.start] at adding
      split_ifs at adding
    · exact fun admin inserted => by cases inserted
    · cases request <;> simp [FirstBootRequest.start] at staged
      split_ifs at staged
    · cases request with
      | bootstrap inputs rules => trivial
      | submitSetup form rules =>
        by_cases confirmed : form.password = form.passwordConfirm
        · exact confirmed
        · simp [FirstBootRequest.start, confirmed] at waits
      | setupOpen => trivial
  | lockFirstBoot id =>
    rw [FirstBoot.step, FirstBoot.lockFirstBoot] at stepped
    split at stepped
    on_goal 2 => cases stepped
    rename_i phase _
    cases stepped
    have backed := issued.backed id
    refine issued.moves rfl rfl rfl rfl
      ⟨fun _ adding => ?_, backed.inserted, fun _ _ _ staged => ?_, fun _ => backed.confirmed (.inl phase)⟩
    · cases adding
    · cases staged
  | countUsers id => exact issued.countUsers stepped
  | discardToken id unlinked =>
    rw [FirstBoot.step, FirstBoot.discardToken] at stepped
    split at stepped
    · cases stepped
      exact issued.discard unlinked rfl
    · cases stepped
  | stageToken id token created => exact issued.stageToken stepped
  | linkToken id linked => exact issued.linkToken stepped
  | readBack id readable =>
    rw [FirstBoot.step, FirstBoot.readBack] at stepped
    split at stepped
    on_goal 2 => cases stepped
    obtain rfl := Option.some.inj stepped
    split_ifs <;> exact issued.moves rfl rfl rfl rfl ((issued.backed id).goTo _ rfl)
  | readToken id readable => exact issued.readToken stepped
  | addAdmin id =>
    rw [FirstBoot.step, FirstBoot.addAdmin] at stepped
    split at stepped
    on_goal 2 => cases stepped
    rename_i admin phase
    cases stepped
    have backed := issued.backed id
    refine issued.moves rfl rfl rfl rfl ⟨fun _ adding => ?_, ?_, fun _ _ _ staged => ?_, ?_⟩
    · cases adding
    · rintro other same
      cases same
      exact backed.adding admin phase
    · cases staged
    · rintro (waits | waits | waits) <;> cases waits
  | commit id => exact issued.commit stepped
  | rollback id =>
    have closed := (issued.backed id).goTo .closed rfl
    have here : ({ server.sessions id with phase := .closed, inserted := none } : FirstBootSession).Backed
        server.issued :=
      ⟨closed.adding, (fun admin none => by cases none), closed.staged, closed.confirmed⟩
    rw [FirstBoot.step, FirstBoot.rollback] at stepped
    split at stepped
    on_goal 4 => cases stepped; exact issued.moves rfl rfl rfl rfl here
    all_goals cases stepped
  | afterCommit id unlinked =>
    rw [FirstBoot.step, FirstBoot.afterCommit] at stepped
    split at stepped
    · cases stepped
      exact issued.discard unlinked rfl
    · cases stepped
  | crashAfterCommit id =>
    rw [FirstBoot.step] at stepped
    split at stepped
    · cases stepped
      exact issued.moves rfl rfl rfl rfl ((issued.backed id).goTo _ rfl)
    · cases stepped
  | plantFile file =>
    rw [FirstBoot.step] at stepped
    split_ifs at stepped with free
    cases stepped
    refine ⟨fun other isFile trusted => ?_, issued.backed, issued.vouched⟩
    cases isFile
    rw [trusted] at free
    simp at free
  | removePlanted =>
    rw [FirstBoot.step] at stepped
    split_ifs at stepped
    cases stepped
    exact ⟨(fun _ isFile => by cases isFile), issued.backed, issued.vouched⟩
  | createUser user =>
    cases stepped
    exact ⟨issued.file, issued.backed, issued.vouched⟩
  | deleteUser place =>
    cases stepped
    exact ⟨issued.file, issued.backed, issued.vouched⟩

theorem Fresh.issued (fresh : server.Fresh) : server.Issued := by
  refine ⟨fun file isFile trusted => ?_, fun id => ?_, ?_⟩
  · have untrusted := fresh.tokenFile
    rw [isFile] at untrusted
    exact absurd trusted (by simpa using untrusted)
  · rw [fresh.unopened id]
    refine ⟨?_, ?_, ?_, ?_⟩
    · exact fun _ adding => by cases adding
    · exact fun _ inserted => by cases inserted
    · exact fun _ _ _ staged => by cases staged
    · rintro (waits | waits | waits) <;> cases waits
  · rw [fresh.past.2.2.1]
    exact fun _ isEntry => by cases isEntry

/-- **Every first admin** is the environment's seed, which passed the checks, or was claimed
with a token that a worker wrote into the file: no other submission, and no file that another
user plants, makes one. -/
theorem first_admins_vouched {before after : FirstBoot} (fresh : before.Fresh)
    (run : Runs step (fun _ _ => true) before after) :
    ∀ entry ∈ after.firstAdmins, Vouched after.issued entry.1 entry.2 := by
  have issued : after.Issued := run.keeps (fun _ _ _ _ stepped issued => issued.step stepped) fresh.issued
  exact issued.vouched

/-! ## One token -/

end FirstBoot

/-- A phase whose next statement discards the token. -/
def FirstBootPhase.discards : FirstBootPhase → Bool
  | .discarding | .landed => true
  | _ => false

theorem judgeSetup_discards (expected : Text) (form : SetupForm) (rules : PasswordRules) :
    (judgeSetup expected form rules).discards = false := by
  unfold judgeSetup
  dsimp only
  split_ifs
  · rfl
  · rfl
  · split <;> rfl

theorem noUsers_discards (request : FirstBootRequest) : request.noUsers.discards = false := by
  unfold FirstBootRequest.noUsers
  split
  · split <;> rfl
  · rfl
  · rfl

theorem start_discards (request : FirstBootRequest) : request.start.discards = false := by
  unfold FirstBootRequest.start
  split
  · rfl
  · split_ifs <;> rfl
  · rfl

namespace FirstBoot

variable {server next : FirstBoot} {id : Id} {session : FirstBootSession}

/-- While there are no users, no one is to discard the token, and every token that was logged
is the file's. -/
structure Agreed (server : FirstBoot) : Prop where
  stale : ∀ id, (server.sessions id).phase.discards = true → server.users ≠ []
  logged : server.users = [] → ∀ read ∈ server.logged, tokenAt server.tokenFile = (read, [])

/-- Once there are users, there always are. -/
theorem TableChange.remain {statement : FirstBootStatement} (change : TableChange statement server next)
    (allowed : usersRemain server statement = true) (none : next.users = []) : server.users = [] := by
  cases change with
  | same same => rw [← same.1, none]
  | first id admin _ _ _ users _ => rw [users] at none; cases none
  | created user some isNext => rw [isNext] at none; cases none
  | deleted place isDelete isNext =>
    rw [isNext] at none
    have left : server.users.eraseIdx place = [] := none
    rw [isDelete, usersRemain, left] at allowed
    simpa [usersMakeUsers] using allowed

/-- A statement that moves one session, with what it does to the file and the log. -/
theorem Agreed.goOn (agreed : server.Agreed) (remain : next.users = [] → server.users = [])
    (sessions : next.sessions = Function.update server.sessions id session)
    (here : session.phase.discards = true → next.users ≠ [])
    (logged : server.users = [] → ∀ read ∈ next.logged, tokenAt next.tokenFile = (read, [])) : next.Agreed := by
  refine ⟨fun other discards none => ?_, fun none => logged (remain none)⟩
  rw [sessions] at discards
  by_cases same : other = id
  · subst same
    rw [Function.update_self] at discards
    exact here discards none
  · rw [Function.update_of_ne same] at discards
    exact agreed.stale other discards (remain none)

/-- One that leaves the file and the log. -/
theorem Agreed.moves (agreed : server.Agreed) (remain : next.users = [] → server.users = [])
    (sessions : next.sessions = Function.update server.sessions id session)
    (here : session.phase.discards = true → next.users ≠ []) (logged : next.logged = server.logged)
    (file : next.tokenFile = server.tokenFile) : next.Agreed := by
  refine agreed.goOn remain sessions here ?_
  rw [logged, file]
  exact agreed.logged

/-- Whoever discards the token knows of a user. -/
theorem Agreed.discard (agreed : server.Agreed) (some : server.users ≠ []) (unlinked : Bool) {phase : FirstBootPhase}
    (quiet : phase.discards = false) : ((server.discard unlinked).goTo id phase).Agreed := by
  have users : ((server.discard unlinked).goTo id phase).users = server.users :=
    (sameUsers_discard unlinked server).1
  have sessions : ((server.discard unlinked).goTo id phase).sessions =
      Function.update server.sessions id { server.sessions id with phase } := by
    rw [FirstBoot.goTo, setSession, sessions_discard]
  refine agreed.goOn (fun none => users ▸ none) sessions (fun discards => ?_) fun none => absurd none some
  rw [quiet] at discards
  cases discards

/-- A link puts a token only where none was. -/
theorem Agreed.linkToken (agreed : server.Agreed) {linked : Bool} (stepped : server.linkToken id linked = some next) :
    next.Agreed := by
  unfold FirstBoot.linkToken at stepped
  split at stepped
  on_goal 2 => cases stepped
  rename_i outcome detail token phase
  cases linked with
  | false =>
    cases stepped
    exact agreed.moves (fun none => none) rfl (fun discards => by cases discards) rfl rfl
  | true =>
    cases stepped
    refine agreed.goOn (fun none => none) rfl (fun discards => by cases discards) fun none read isLogged => ?_
    have was := agreed.logged none read isLogged
    obtain ⟨file, isFile, -⟩ := trusted_of_works was
    rw [isFile] at was ⊢
    exact was

theorem tokenAt_eq {found : Option TokenFile} (read : (tokenAt found).1 ≠ []) :
    tokenAt found = ((tokenAt found).1, []) := by
  obtain ⟨file, rfl, trusted⟩ := trusted_of_tokenAt read
  match file, trusted, read with
  | .opened true data, _, read =>
    rw [tokenAt] at read ⊢
    split_ifs at read ⊢
    · exact absurd rfl read
    · rfl

theorem Agreed.readBack (agreed : server.Agreed) {readable : Bool}
    (stepped : server.readBack id readable = some next) : next.Agreed := by
  unfold FirstBoot.readBack at stepped
  split at stepped
  on_goal 2 => cases stepped
  obtain rfl := Option.some.inj stepped
  split_ifs with unread
  · exact agreed.moves (fun none => none) rfl (fun discards => by cases discards) rfl rfl
  · refine agreed.goOn (fun none => none) rfl (fun discards => by cases discards) fun none read isLogged => ?_
    rcases List.mem_cons.mp isLogged with rfl | before
    · cases readable with
      | false => exact absurd rfl unread
      | true => exact tokenAt_eq unread
    · exact agreed.logged none read before

/-- **One statement**, while users remain, keeps the logged tokens working. -/
theorem Agreed.step (agreed : server.Agreed) (guarded : server.Guarded) {statement : FirstBootStatement}
    (allowed : usersRemain server statement = true) (stepped : step statement server = some next) :
    next.Agreed := by
  have change : TableChange statement server next :=
    (guarded.step (Bool.and_eq_true_iff.mp allowed).1 stepped).2
  have remain : next.users = [] → server.users = [] := change.remain allowed
  cases statement with
  | openSession id request =>
    rw [FirstBoot.step] at stepped
    split at stepped
    on_goal 2 => cases stepped
    cases stepped
    refine agreed.moves remain rfl (fun discards => ?_) rfl rfl
    rw [start_discards] at discards
    cases discards
  | lockFirstBoot id =>
    rw [FirstBoot.step, FirstBoot.lockFirstBoot] at stepped
    split at stepped
    on_goal 2 => cases stepped
    cases stepped
    exact agreed.moves remain rfl (fun discards => by cases discards) rfl rfl
  | countUsers id =>
    rw [FirstBoot.step, FirstBoot.countUsers] at stepped
    split at stepped
    on_goal 2 => cases stepped
    cases stepped
    refine agreed.moves remain rfl (fun discards none => ?_) rfl rfl
    have isEmpty : server.users = [] := none
    rw [if_pos isEmpty, noUsers_discards] at discards
    cases discards
  | discardToken id unlinked =>
    rw [FirstBoot.step, FirstBoot.discardToken] at stepped
    split at stepped
    on_goal 2 => cases stepped
    rename_i phase
    cases stepped
    exact agreed.discard (agreed.stale id (by rw [phase]; rfl)) unlinked rfl
  | stageToken id token created =>
    rw [FirstBoot.step, FirstBoot.stageToken] at stepped
    split at stepped
    on_goal 2 => cases stepped
    cases created <;> cases stepped <;>
      exact agreed.moves remain rfl (fun discards => by cases discards) rfl rfl
  | linkToken id linked => exact agreed.linkToken stepped
  | readBack id readable => exact agreed.readBack stepped
  | readToken id readable =>
    rw [FirstBoot.step, FirstBoot.readToken] at stepped
    split at stepped
    on_goal 2 => cases stepped
    cases stepped
    refine agreed.moves remain rfl (fun discards => ?_) rfl rfl
    rw [judgeSetup_discards] at discards
    cases discards
  | addAdmin id =>
    rw [FirstBoot.step, FirstBoot.addAdmin] at stepped
    split at stepped
    on_goal 2 => cases stepped
    cases stepped
    exact agreed.moves remain rfl (fun discards => by cases discards) rfl rfl
  | commit id =>
    rw [FirstBoot.step, FirstBoot.commit] at stepped
    split at stepped
    on_goal 2 => cases stepped
    cases stepped
    cases inserted : (server.sessions id).inserted with
    | none =>
      rw [inserted] at remain
      exact agreed.moves remain rfl (fun discards => by cases discards) rfl rfl
    | some admin =>
      rw [inserted] at remain
      exact agreed.moves remain rfl (fun _ => List.cons_ne_nil admin server.users) rfl rfl
  | rollback id =>
    rw [FirstBoot.step, FirstBoot.rollback] at stepped
    split at stepped
    on_goal 4 => cases stepped; exact agreed.moves remain rfl (fun discards => by cases discards) rfl rfl
    all_goals cases stepped
  | afterCommit id unlinked =>
    rw [FirstBoot.step, FirstBoot.afterCommit] at stepped
    split at stepped
    on_goal 2 => cases stepped
    rename_i phase
    cases stepped
    exact agreed.discard (agreed.stale id (by rw [phase]; rfl)) unlinked rfl
  | crashAfterCommit id =>
    rw [FirstBoot.step] at stepped
    split at stepped
    on_goal 2 => cases stepped
    cases stepped
    exact agreed.moves remain rfl (fun discards => by cases discards) rfl rfl
  | plantFile file =>
    rw [FirstBoot.step] at stepped
    split_ifs at stepped with free
    cases stepped
    refine ⟨agreed.stale, fun none read isLogged => ?_⟩
    have noFile : server.tokenFile = Option.none := Option.isNone_iff_eq_none.mp (Bool.and_eq_true_iff.mp free).1
    obtain ⟨file, isFile, -⟩ := trusted_of_works (agreed.logged none read isLogged)
    rw [noFile] at isFile
    cases isFile
  | removePlanted =>
    rw [FirstBoot.step] at stepped
    split_ifs at stepped with untrusted
    cases stepped
    refine ⟨agreed.stale, fun none read isLogged => ?_⟩
    obtain ⟨file, isFile, trusted⟩ := trusted_of_works (agreed.logged none read isLogged)
    rw [isFile] at untrusted
    exact absurd trusted untrusted
  | createUser user =>
    cases stepped
    exact ⟨fun id discards => List.cons_ne_nil user server.users, fun none => absurd none (List.cons_ne_nil _ _)⟩
  | deleteUser place =>
    cases stepped
    exact ⟨fun id discards none => agreed.stale id discards (remain none),
      fun none => agreed.logged (remain none)⟩

theorem Fresh.agreed (fresh : server.Fresh) : server.Agreed := by
  refine ⟨fun id discards => ?_, fun _ read isLogged => ?_⟩
  · rw [fresh.unopened id] at discards
    cases discards
  · rw [fresh.past.2.1] at isLogged
    cases isLogged

/-- What every statement keeps while users remain. -/
structure Reached (server : FirstBoot) : Prop where
  guarded : server.Guarded
  issued : server.Issued
  agreed : server.Agreed

theorem Reached.of_run {before after : FirstBoot} (fresh : before.Fresh)
    (run : Runs step usersRemain before after) : after.Reached := by
  refine run.keeps (fun server statement next allowed stepped reached => ?_)
    ⟨fresh.guarded, fresh.issued, fresh.agreed⟩
  have guarded := (reached.guarded.step (Bool.and_eq_true_iff.mp allowed).1 stepped).1
  exact ⟨guarded, reached.issued.step stepped, reached.agreed.step reached.guarded allowed stepped⟩

/-- `/setup` takes a text that UTF-8 can carry exactly if it is the token. -/
theorem judgeSetup_refused {expected : Text} {form : SetupForm} {rules : PasswordRules} (some : expected ≠ [])
    (encodable : utf8Encodable expected = true) :
    judgeSetup expected form rules = .ending .tokenRefused ↔ strip form.token ≠ expected := by
  unfold judgeSetup
  dsimp only
  constructor
  · intro refused same
    rw [same, if_neg (by simp [some, encodable])] at refused
    split_ifs at refused
    · cases refused
    · split at refused <;> cases refused
  · intro other
    rw [if_pos (.inr (.inr other))]

/-- **The logged token.** Until a first admin is committed, the token that any worker logged
opens `/setup`, whatever failed, crashed or was planted meanwhile; and no other does. -/
theorem logged_token_opens_setup {before after : FirstBoot} (fresh : before.Fresh)
    (run : Runs step usersRemain before after) {read : Text} (logged : read ∈ after.logged) {id : Id}
    {form : SetupForm} {rules : PasswordRules} (isRequest : (after.sessions id).request = .submitSetup form rules)
    (reading : (after.sessions id).phase = .reading) :
    ∃ next, step (.readToken id true) after = some next ∧
      ((next.sessions id).phase = .ending .tokenRefused ↔ strip form.token ≠ read) := by
  obtain ⟨guarded, issued, agreed⟩ := Reached.of_run fresh run
  have here : (after.sessions id).foundNone := .inr (by rw [reading]; trivial)
  have works : tokenAt after.tokenFile = (read, []) := agreed.logged (guarded.noUsers id here) read logged
  obtain ⟨file, isFile, trusted⟩ := trusted_of_works works
  obtain ⟨token, -, rfl⟩ := issued.file file isFile trusted
  have isValue : read = token.value := by
    rw [isFile, tokenAt_file] at works
    exact (Prod.ext_iff.mp works).1.symm
  have expected : after.tokenRead true = token.value := by
    rw [tokenRead, if_pos rfl, works, isValue]
  refine ⟨_, by rw [step, readToken, reading, isRequest], ?_⟩
  rw [goTo, setSession]
  dsimp only
  rw [Function.update_self, expected, isValue]
  exact judgeSetup_refused token.nonempty token.utf8Encodable_value

/-! ## An install -/

def aToken : SetupToken := ⟨text "qT-9", by decide, by decide⟩

def anyPassword : PasswordRules := ⟨fun _ => [], .ok⟩

def owner : SetupForm :=
  ⟨text " qT-9", text "owner", text "correct horse", text "correct horse"⟩

/-- Two workers start with no seed. -/
def startUp : List FirstBootStatement :=
  [.openSession 1 (.bootstrap ⟨fun _ => none, fun _ => .error .unicodeDecodeError⟩ anyPassword),
    .openSession 2 (.bootstrap ⟨fun _ => none, fun _ => .error .unicodeDecodeError⟩ anyPassword),
    .lockFirstBoot 1, .countUsers 1, .stageToken 1 aToken true, .linkToken 1 true, .readBack 1 true, .commit 1,
    .lockFirstBoot 2, .countUsers 2, .stageToken 2 ⟨text "other", by decide, by decide⟩ true, .linkToken 2 true,
    .readBack 2 true, .commit 2]

/-- The owner submits `/setup` twice at once, and the first of these fails at its commit. -/
def setUp : List FirstBootStatement :=
  [.openSession 3 (.submitSetup owner anyPassword), .openSession 4 (.submitSetup owner anyPassword),
    .lockFirstBoot 3, .countUsers 3, .readToken 3 true, .addAdmin 3, .rollback 3, .lockFirstBoot 4, .countUsers 4]

def claim : List FirstBootStatement :=
  [.readToken 4 true, .addAdmin 4, .commit 4, .afterCommit 4 true]

theorem fresh_empty : ({} : FirstBoot).Fresh := ⟨rfl, fun _ => rfl, rfl, rfl, rfl, rfl, rfl⟩

theorem one_owner : ∃ server, runAll step usersMakeUsers (startUp ++ setUp ++ claim) {} = some server ∧
    server.users.map AdminRow.username = [text "owner"] ∧ server.firstAdmins.length = 1 := by
  have counted : ∀ server, runAll step usersMakeUsers (startUp ++ setUp ++ claim) {} = some server →
      server.firstAdmins.length = server.emptied + (if server.users = [] then 0 else 1) :=
    fun server ran => first_admins_counted fresh_empty (.of_runAll ran)
  exact ⟨_, rfl, rfl, counted _ rfl⟩

theorem owner_vouched : ∃ server, runAll step (fun _ _ => true) (startUp ++ setUp ++ claim) {} = some server ∧
    ∃ admin, server.firstAdmins = [(.submitSetup owner anyPassword, admin)] ∧
      Vouched server.issued (.submitSetup owner anyPassword) admin := by
  have vouched : ∀ server, runAll step (fun _ _ => true) (startUp ++ setUp ++ claim) {} = some server →
      ∀ entry ∈ server.firstAdmins, Vouched server.issued entry.1 entry.2 :=
    fun server ran => first_admins_vouched fresh_empty (.of_runAll ran)
  exact ⟨_, rfl, _, rfl, vouched _ rfl _ (List.mem_singleton.mpr rfl)⟩

/-- The second submission still gets in with the token both workers logged. -/
theorem token_still_opens : ∃ server, runAll step usersRemain (startUp ++ setUp) {} = some server ∧
    server.logged = [aToken.value, aToken.value] ∧ strip owner.token = aToken.value ∧
    ∃ next, step (.readToken 4 true) server = some next ∧
      ((next.sessions 4).phase = .ending .tokenRefused ↔ strip owner.token ≠ aToken.value) := by
  have opens : ∀ server, runAll step usersRemain (startUp ++ setUp) {} = some server →
      aToken.value ∈ server.logged → (server.sessions 4).request = .submitSetup owner anyPassword →
      (server.sessions 4).phase = .reading → ∃ next, step (.readToken 4 true) server = some next ∧
        ((next.sessions 4).phase = .ending .tokenRefused ↔ strip owner.token ≠ aToken.value) :=
    fun server ran logged request reading =>
      logged_token_opens_setup fresh_empty (.of_runAll ran) logged request reading
  exact ⟨_, rfl, rfl, rfl, opens _ rfl (List.mem_cons_self ..) rfl rfl⟩

end FirstBoot

end LuxSwirl.Server
