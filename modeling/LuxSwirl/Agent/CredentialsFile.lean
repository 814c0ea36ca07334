import LuxSwirl.Agent.Registration
import LuxSwirl.Lib.Interleaving

/-!
# The credentials file

`AgentCredentials` of `credentials.py`: the agent's id, key and recovery secret in
memory, and the file they are saved in. A save replaces the file by a rename; where
none can land, the file is rewritten in place. A file from before encryption is
migrated when it is loaded.

`credentials_lawful_iff` says after which operations memory and the file a new process
loads still agree. Two do not keep that: a `clear` whose unlink fails, and a load that
migrates a file without a recovery secret while a new registration of its agent waits
unsaved.
-/

namespace LuxSwirl.Agent
open LuxSwirl.Py LuxSwirl.Lib

/-- Credentials in memory. -/
structure HeldCredentials where
  agentId : Option Uuid := none
  apiKey : Value := .none
  recoverySecret : Value := .none
  unsaved : Bool := false
  deriving DecidableEq

/-- Credentials as a file holds them. -/
structure SavedCredentials where
  agentId : Uuid
  apiKey : Value
  recoverySecret : Value
  deriving DecidableEq

namespace SavedCredentials

/-- An entry of the JSON object, left out when its value is false. -/
def entry (name : String) (value : Value) : List (Key × Value) :=
  if truthy value then [(fieldKey name, value)] else []

def data (saved : SavedCredentials) : Value :=
  .dict ((fieldKey "agent_id", .str saved.agentId.str) ::
    (entry "api_key" saved.apiKey ++ entry "recovery_secret" saved.recoverySecret))

/-- What is read of the JSON, or none for an exception. -/
def parse : Value → Option SavedCredentials
  | .dict fields =>
    match Fields.get? (fieldKey "agent_id") fields with
    | some (.str agentId) => (Uuid.ofText agentId).map fun number =>
      { agentId := Uuid.ofId number
        apiKey := (Fields.get? (fieldKey "api_key") fields).getD .none
        recoverySecret := (Fields.get? (fieldKey "recovery_secret") fields).getD .none }
    | _ => none
  | _ => none

def held (saved : SavedCredentials) : HeldCredentials where
  agentId := some saved.agentId
  apiKey := saved.apiKey
  recoverySecret := saved.recoverySecret

end SavedCredentials

/-- The file: JSON, JSON encrypted with this machine's key, or anything else. No
encrypted JSON is JSON. -/
inductive FileContent where
  | plaintext (data : Value)
  | encrypted (data : Value)
  | unreadable
  deriving DecidableEq

/-! ## The disk -/

/-- An error of `_NO_RENAME_ERRNOS`, or another. -/
inductive DiskError where
  | noRename
  | other
  deriving DecidableEq

/-- How a file that is rewritten in place ends up. -/
inductive InPlace where
  | whole
  | unopened
  | torn (left : FileContent)
  deriving DecidableEq

/-- What the disk does in the course of one save. -/
structure SaveDisk where
  makesDirectory : Bool := true
  create : Option DiskError := none
  writes : Bool := true
  rename : Option DiskError := none
  inPlace : InPlace := .whole
  deriving DecidableEq

/-- `_write_in_place`: whether it returns, and the file. -/
def writeInPlace (disk : SaveDisk) (content : FileContent) (file : Option FileContent) :
    Bool × Option FileContent :=
  match disk.inPlace with
  | .whole => (true, some content)
  | .unopened => (false, file)
  | .torn left => (false, some left)

/-- `_write_atomically` -/
def writeAtomically (disk : SaveDisk) (content : FileContent) (file : Option FileContent) :
    Bool × Option FileContent :=
  match disk.create with
  | some .noRename => writeInPlace disk content file
  | some .other => (false, file)
  | none =>
    if disk.writes then
      match disk.rename with
      | none => (true, some content)
      | some .noRename => writeInPlace disk content file
      | some .other => (false, file)
    else (false, file)

namespace SaveDisk

/-- The save is written. -/
def lands (disk : SaveDisk) : Bool :=
  disk.makesDirectory &&
    match disk.create with
    | some error => decide (error = .noRename ∧ disk.inPlace = .whole)
    | none => disk.writes && decide (disk.rename = none)

/-- A rename does not fail as one that falls back, and a fallback tears no file. -/
def admissible (disk : SaveDisk) : Bool :=
  decide (disk.rename ≠ some .noRename) &&
    match disk.inPlace with
    | .torn _ => false
    | _ => true

end SaveDisk

/-! ## The operations -/

structure CredentialsStore where
  memory : HeldCredentials := {}
  file : Option FileContent
  deriving DecidableEq

namespace CredentialsStore

-- whether this process, and the next one, encrypts
variable (encryption : Bool)

/-- The secret a save keeps. -/
def keptSecret (agentId : Uuid) (recoverySecret : Value) (held : HeldCredentials) : Value :=
  if recoverySecret = .none ∧ held.agentId = some agentId then held.recoverySecret else recoverySecret

def save (disk : SaveDisk) (agentId : Uuid) (apiKey recoverySecret : Value) (store : CredentialsStore) :
    Bool × CredentialsStore :=
  if disk.makesDirectory then
    let recoverySecret := keptSecret agentId recoverySecret store.memory
    let data := SavedCredentials.data { agentId, apiKey, recoverySecret }
    match writeAtomically disk (if encryption then .encrypted data else .plaintext data) store.file with
    | (true, file) => (true, { memory := { agentId := some agentId, apiKey, recoverySecret }, file })
    | (false, file) => (false, { store with file })
  else (false, store)

/-- What was loaded, in memory. -/
def take (saved : SavedCredentials) (store : CredentialsStore) : CredentialsStore :=
  { store with memory := { saved.held with unsaved := store.memory.unsaved } }

/-- `reads` is whether the file is read, where there is one. -/
def load (reads : Bool) (disk : SaveDisk) (store : CredentialsStore) : Bool × CredentialsStore :=
  if reads then
    match store.file with
    | some (.plaintext data) =>
      match SavedCredentials.parse data with
      | none => (false, store)
      | some saved =>
        let migrated :=
          if encryption then (store.save encryption disk saved.agentId saved.apiKey saved.recoverySecret).2 else store
        (true, migrated.take saved)
    | some (.encrypted data) =>
      match if encryption then SavedCredentials.parse data else none with
      | none => (false, store)
      | some saved => (true, store.take saved)
    | _ => (false, store)
  else (false, store)

def holdUnsaved (apiKey : Value) (store : CredentialsStore) : CredentialsStore :=
  { store with memory := { store.memory with apiKey, unsaved := true } }

def holdUnsavedRegistration (agentId : Uuid) (recoverySecret : Value) (store : CredentialsStore) :
    CredentialsStore :=
  { store with memory := { agentId := some agentId, recoverySecret, unsaved := true } }

def retryUnsaved (disk : SaveDisk) (store : CredentialsStore) : CredentialsStore :=
  if store.memory.unsaved then
    match store.memory.agentId with
    | none => store
    | some agentId => (store.save encryption disk agentId store.memory.apiKey store.memory.recoverySecret).2
  else store

/-- `unlinks` is whether the file is deleted, where there is one. -/
def clear (unlinks : Bool) (store : CredentialsStore) : Bool × CredentialsStore :=
  match store.file with
  | none => (true, { file := none })
  | some content => if unlinks then (true, { file := none }) else (false, { file := some content })

end CredentialsStore

inductive CredentialsOp where
  | load (reads : Bool) (disk : SaveDisk)
  | save (agentId : Uuid) (apiKey recoverySecret : Value) (disk : SaveDisk)
  | holdUnsaved (apiKey : Value)
  | holdUnsavedRegistration (agentId : Uuid) (recoverySecret : Value)
  | retryUnsaved (disk : SaveDisk)
  | clear (unlinks : Bool)

/-- A non-empty string, or nothing. -/
def given : Value → Bool
  | .none => true
  | .str s => !s.isEmpty
  | _ => false

def CredentialsOp.admissible : CredentialsOp → Bool
  | .load _ disk | .retryUnsaved disk => disk.admissible
  | .save _ apiKey recoverySecret disk => given apiKey && given recoverySecret && disk.admissible
  | .holdUnsaved apiKey => given apiKey
  | .holdUnsavedRegistration _ recoverySecret => given recoverySecret
  | .clear _ => true

namespace CredentialsStore

variable (encryption : Bool)

/-- An operation, and what it answers if it does. -/
def apply : CredentialsOp → CredentialsStore → Option Bool × CredentialsStore
  | .load reads disk, store => (store.load encryption reads disk).map some id
  | .save agentId apiKey recoverySecret disk, store =>
    (store.save encryption disk agentId apiKey recoverySecret).map some id
  | .holdUnsaved apiKey, store => (none, store.holdUnsaved apiKey)
  | .holdUnsavedRegistration agentId recoverySecret, store =>
    (none, store.holdUnsavedRegistration agentId recoverySecret)
  | .retryUnsaved disk, store => (none, store.retryUnsaved encryption disk)
  | .clear unlinks, store => (store.clear unlinks).map some id

/-- The credentials in memory after a new process has loaded the file. -/
def restarted (disk : SaveDisk) (store : CredentialsStore) : HeldCredentials :=
  (load encryption true disk { file := store.file }).2.memory

/-- A new process holds the same credentials. -/
def Agrees (store : CredentialsStore) : Prop :=
  ∀ disk, disk.admissible = true → store.restarted encryption disk = store.memory

/-- What holds of every save that is tried. -/
structure SaveLaws (store : CredentialsStore) : Prop where
  failed : ∀ disk agentId apiKey recoverySecret, disk.admissible = true →
    (store.save encryption disk agentId apiKey recoverySecret).1 = false →
      (store.save encryption disk agentId apiKey recoverySecret).2 = store
  keepsSecret : ∀ disk agentId apiKey, disk.admissible = true → given apiKey = true →
    store.memory.agentId = some agentId → (store.save encryption disk agentId apiKey .none).1 = true →
      (store.save encryption disk agentId apiKey .none).2.memory.recoverySecret = store.memory.recoverySecret ∧
      ∀ later, later.admissible = true →
        ((store.save encryption disk agentId apiKey .none).2.restarted encryption later).recoverySecret =
          store.memory.recoverySecret

/-- **The laws of the credentials**, at one operation. -/
structure Lawful (op : CredentialsOp) (before : CredentialsStore) : Prop where
  saves : before.SaveLaws encryption
  agrees : (apply encryption op before).2.memory.unsaved = false →
    (apply encryption op before).2.memory.agentId ≠ none → (apply encryption op before).2.Agrees encryption
  cleared : ∀ unlinks, op = .clear unlinks → (apply encryption op before).2.Agrees encryption

/-- What a load reads of the file. -/
def loaded : Option FileContent → Option SavedCredentials
  | some (.plaintext data) => SavedCredentials.parse data
  | some (.encrypted data) => if encryption then SavedCredentials.parse data else none
  | _ => none

/-- A file that loads is deleted when it is to be, and no load migrates a file without
a secret while memory holds one of its agent. -/
def consistent : CredentialsOp → CredentialsStore → Bool
  | .clear unlinks, store => unlinks || (loaded encryption store.file).isNone
  | .load true disk, ⟨memory, some (.plaintext data)⟩ =>
    !(encryption && disk.lands) || (SavedCredentials.parse data).all fun saved =>
      decide (saved.recoverySecret = .none → memory.agentId = some saved.agentId → memory.recoverySecret = .none)
  | _, _ => true

/-- A process before its first operation, on a file whose values are strings or missing. -/
structure Fresh (store : CredentialsStore) : Prop where
  memory : store.memory = {}
  file : ∀ saved, loaded encryption store.file = some saved →
    given saved.apiKey = true ∧ given saved.recoverySecret = true

end CredentialsStore

/-! ## What is written is read -/

theorem entry_given {value : Value} (isGiven : given value = true) (name : String) :
    value = .none ∧ SavedCredentials.entry name value = [] ∨
      SavedCredentials.entry name value = [(fieldKey name, value)] := by
  cases value with
  | none => exact .inl ⟨rfl, rfl⟩
  | str s => exact .inr (if_pos (by simpa [given, truthy] using isGiven))
  | _ => cases isGiven

/-- **Round trip.** -/
theorem SavedCredentials.parse_data {saved : SavedCredentials} (apiKey : given saved.apiKey = true)
    (recoverySecret : given saved.recoverySecret = true) : parse saved.data = some saved := by
  obtain ⟨agentId, key, secret⟩ := saved
  have idKey : ¬ fieldKey "agent_id" = fieldKey "api_key" := by decide
  have idSecret : ¬ fieldKey "agent_id" = fieldKey "recovery_secret" := by decide
  have keySecret : ¬ fieldKey "api_key" = fieldKey "recovery_secret" := by decide
  have secretKey : ¬ fieldKey "recovery_secret" = fieldKey "api_key" := by decide
  have empty (key : Key) : Fields.get? key ([] : List (Key × Value)) = none := rfl
  obtain ⟨rfl, noKey⟩ | isKey := entry_given apiKey "api_key" <;>
    obtain ⟨rfl, noSecret⟩ | isSecret := entry_given recoverySecret "recovery_secret" <;>
    simp [parse, data, Fields.get?_cons, Uuid.ofText_str, Uuid.ofId_number, *]

namespace CredentialsStore

variable {encryption : Bool} {store : CredentialsStore} {disk : SaveDisk}

/-- The file as a save writes it. -/
def content (encryption : Bool) (saved : SavedCredentials) : FileContent :=
  if encryption then .encrypted saved.data else .plaintext saved.data

theorem loaded_content {saved : SavedCredentials} (apiKey : given saved.apiKey = true)
    (recoverySecret : given saved.recoverySecret = true) :
    loaded encryption (some (content encryption saved)) = some saved := by
  cases encryption <;> exact SavedCredentials.parse_data apiKey recoverySecret

/-! ## What an operation leaves -/

/-- **A save** replaces the file, or changes nothing. -/
theorem save_eq (admissible : disk.admissible = true) (agentId : Uuid) (apiKey recoverySecret : Value) :
    store.save encryption disk agentId apiKey recoverySecret =
      if disk.lands then
        (true,
          { memory := { agentId := some agentId, apiKey, recoverySecret := keptSecret agentId recoverySecret store.memory }
            file := some (content encryption ⟨agentId, apiKey, keptSecret agentId recoverySecret store.memory⟩) })
      else (false, store) := by
  obtain ⟨makesDirectory, create, writes, rename, inPlace⟩ := disk
  rw [save, SaveDisk.lands]
  cases makesDirectory with
  | false => rfl
  | true =>
    cases create with
    | some error =>
      cases error with
      | other => rfl
      | noRename =>
        cases inPlace with
        | torn left => simp [SaveDisk.admissible] at admissible
        | _ => rfl
    | none =>
      cases writes with
      | false => rfl
      | true =>
        cases rename with
        | none => rfl
        | some error =>
          cases error with
          | other => rfl
          | noRename => simp [SaveDisk.admissible] at admissible

theorem keptSecret_eq_self {agentId : Uuid} {recoverySecret : Value} {held : HeldCredentials} :
    keptSecret agentId recoverySecret held = recoverySecret ↔
      (recoverySecret = .none → held.agentId = some agentId → held.recoverySecret = .none) := by
  rw [keptSecret]
  split_ifs with own
  · obtain ⟨rfl, isHeld⟩ := own
    exact ⟨fun same _ _ => same, fun none => none rfl isHeld⟩
  · exact iff_of_true rfl fun isNone isHeld => absurd ⟨isNone, isHeld⟩ own

/-- A load that changes nothing, takes over what the file holds, or migrates the file
and takes over what it has read before. -/
inductive Loads (encryption : Bool) (reads : Bool) (disk : SaveDisk) (store : CredentialsStore) : Prop where
  | nothing (unread : reads = true → loaded encryption store.file = none)
      (unchanged : store.load encryption reads disk = (false, store))
      (consistent : consistent encryption (.load reads disk) store = true)
  | takes (saved : SavedCredentials) (isLoaded : loaded encryption store.file = some saved)
      (taken : store.load encryption reads disk = (true, store.take saved))
      (consistent : consistent encryption (.load reads disk) store = true)
  | migrates (saved : SavedCredentials) (isLoaded : loaded encryption store.file = some saved)
      (migrated : store.load encryption reads disk =
        (true,
          { memory := saved.held
            file := some (content encryption
              { saved with recoverySecret := keptSecret saved.agentId saved.recoverySecret store.memory }) }))
      (consistent : consistent encryption (.load reads disk) store = true ↔
        keptSecret saved.agentId saved.recoverySecret store.memory = saved.recoverySecret)

/-- **A load.** -/
theorem loads (admissible : disk.admissible = true) (reads : Bool) : Loads encryption reads disk store := by
  obtain ⟨memory, file⟩ := store
  cases reads with
  | false => exact .nothing (fun reads => nomatch reads) rfl rfl
  | true =>
    cases file with
    | none => exact .nothing (fun _ => rfl) rfl rfl
    | some found =>
      cases found with
      | unreadable => exact .nothing (fun _ => rfl) rfl rfl
      | plaintext data =>
        cases parsed : SavedCredentials.parse data with
        | none => exact .nothing (fun _ => parsed) (by simp [load, parsed]) (by simp [consistent, parsed])
        | some saved =>
          cases encryption with
          | false => exact .takes saved parsed (by simp [load, parsed]) (by simp [consistent])
          | true =>
            cases lands : disk.lands with
            | false =>
              exact .takes saved parsed (by simp [load, parsed, save_eq admissible, lands])
                (by simp [consistent, lands])
            | true =>
              refine .migrates saved parsed ?_ ?_
              · simp [load, parsed, save_eq admissible, lands, take, SavedCredentials.held]
              · rw [keptSecret_eq_self]
                simp only [consistent, lands, parsed, Bool.and_self, Bool.not_true, Bool.false_or, Option.all_some,
                  decide_eq_true_eq]
      | encrypted data =>
        have byLoaded : load encryption true disk ⟨memory, some (.encrypted data)⟩ =
            match loaded encryption (some (.encrypted data)) with
            | none => (false, ⟨memory, some (.encrypted data)⟩)
            | some saved => (true, take saved ⟨memory, some (.encrypted data)⟩) := rfl
        cases parsed : loaded encryption (some (.encrypted data)) with
        | none => exact .nothing (fun _ => parsed) (by rw [byLoaded, parsed]) rfl
        | some saved => exact .takes saved parsed (by rw [byLoaded, parsed]) rfl

/-! ## What a new process loads -/

/-- A new process holds what the file loads to, whatever its own disk does. -/
theorem restarted_eq (admissible : disk.admissible = true) :
    store.restarted encryption disk = ((loaded encryption store.file).map SavedCredentials.held).getD {} := by
  rw [restarted]
  cases @loads encryption { file := store.file } disk admissible true with
  | nothing unread unchanged _ =>
    have none : loaded encryption store.file = none := unread rfl
    rw [unchanged, none]
    rfl
  | takes saved isLoaded taken _ =>
    have some : loaded encryption store.file = some saved := isLoaded
    rw [taken, some]
    rfl
  | migrates saved isLoaded migrated _ =>
    have some : loaded encryption store.file = some saved := isLoaded
    rw [migrated, some]
    rfl

theorem agrees_iff : store.Agrees encryption ↔
    ((loaded encryption store.file).map SavedCredentials.held).getD {} = store.memory := by
  constructor
  · intro agrees
    rw [← agrees {} rfl, restarted_eq rfl]
  · intro same disk admissible
    rw [restarted_eq admissible, same]

/-! ## What holds at all times -/

structure Sound (encryption : Bool) (store : CredentialsStore) : Prop where
  file : ∀ saved, loaded encryption store.file = some saved →
    given saved.apiKey = true ∧ given saved.recoverySecret = true
  apiKey : given store.memory.apiKey = true
  recoverySecret : given store.memory.recoverySecret = true
  agrees : store.memory.unsaved = false → store.memory.agentId ≠ none → store.Agrees encryption

theorem Fresh.sound (fresh : store.Fresh encryption) : store.Sound encryption := by
  refine ⟨fresh.file, ?_, ?_, fun _ held => ?_⟩ <;> rw [fresh.memory] at *
  · rfl
  · rfl
  · exact absurd rfl held

theorem Sound.keptSecret (sound : store.Sound encryption) (agentId : Uuid) {recoverySecret : Value}
    (isGiven : given recoverySecret = true) :
    given (CredentialsStore.keptSecret agentId recoverySecret store.memory) = true := by
  rw [CredentialsStore.keptSecret]
  split_ifs
  · exact sound.recoverySecret
  · exact isGiven

/-- Credentials that were just saved. -/
theorem sound_saved {saved : SavedCredentials} (apiKey : given saved.apiKey = true)
    (recoverySecret : given saved.recoverySecret = true) :
    Sound encryption { memory := saved.held, file := some (content encryption saved) } := by
  refine ⟨fun other isLoaded => ?_, apiKey, recoverySecret, fun _ _ => agrees_iff.mpr ?_⟩
  · rw [loaded_content apiKey recoverySecret] at isLoaded
    cases isLoaded
    exact ⟨apiKey, recoverySecret⟩
  · rw [loaded_content apiKey recoverySecret]
    rfl

theorem Sound.save (sound : store.Sound encryption) (admissible : disk.admissible = true) (agentId : Uuid)
    {apiKey recoverySecret : Value} (isKey : given apiKey = true) (isSecret : given recoverySecret = true) :
    (store.save encryption disk agentId apiKey recoverySecret).2.Sound encryption := by
  rw [save_eq admissible]
  split_ifs
  · exact @sound_saved encryption ⟨agentId, apiKey, _⟩ isKey (sound.keptSecret agentId isSecret)
  · exact sound

theorem Sound.saveLaws (sound : store.Sound encryption) : store.SaveLaws encryption where
  failed disk agentId apiKey recoverySecret admissible := by
    rw [save_eq admissible]
    split_ifs
    · exact fun failed => nomatch failed
    · exact fun _ => rfl
  keepsSecret disk agentId apiKey admissible isKey isHeld := by
    have kept : CredentialsStore.keptSecret agentId .none store.memory = store.memory.recoverySecret :=
      if_pos ⟨rfl, isHeld⟩
    rw [save_eq admissible, kept]
    split_ifs
    · refine fun _ => ⟨rfl, fun later laterAdmissible => ?_⟩
      rw [restarted_eq laterAdmissible, loaded_content isKey sound.recoverySecret]
      rfl
    · exact fun failed => nomatch failed

/-! ## One operation -/

/-- An operation, with whether it keeps memory and the file in agreement. -/
structure Handles (encryption : Bool) (op : CredentialsOp) (store : CredentialsStore) : Prop where
  lawful : Lawful encryption op store ↔ consistent encryption op store = true
  sound : consistent encryption op store = true → (apply encryption op store).2.Sound encryption

/-- Other operations than a `clear` only have to leave sound credentials. -/
theorem Sound.handles (sound : store.Sound encryption) {op : CredentialsOp} (others : ∀ unlinks, op ≠ .clear unlinks)
    (consistent : consistent encryption op store = true)
    (after : (apply encryption op store).2.Sound encryption) : Handles encryption op store where
  lawful := iff_of_true ⟨sound.saveLaws, after.agrees, fun unlinks same => absurd same (others unlinks)⟩ consistent
  sound _ := after

theorem Sound.load (sound : store.Sound encryption) (admissible : disk.admissible = true) (reads : Bool) :
    Handles encryption (.load reads disk) store := by
  have others : ∀ unlinks, CredentialsOp.load reads disk ≠ .clear unlinks := by rintro _ ⟨⟩
  cases loads admissible reads with
  | nothing unread unchanged consistent =>
    refine sound.handles others consistent ?_
    rw [apply, unchanged]
    exact sound
  | takes saved isLoaded taken consistent =>
    refine sound.handles others consistent ?_
    rw [apply, taken]
    obtain ⟨isKey, isSecret⟩ := sound.file saved isLoaded
    refine ⟨sound.file, isKey, isSecret, fun isSaved _ => agrees_iff.mpr ?_⟩
    have file : loaded encryption (store.take saved).file = some saved := isLoaded
    have unsaved : store.memory.unsaved = false := isSaved
    show ((loaded encryption (store.take saved).file).map SavedCredentials.held).getD {} = _
    rw [file, take, unsaved]
    rfl
  | migrates saved isLoaded migrated consistent =>
    obtain ⟨isKey, isSecret⟩ := sound.file saved isLoaded
    have kept := sound.keptSecret saved.agentId isSecret
    constructor
    · rw [consistent]
      constructor
      · intro lawful
        have agrees := lawful.agrees
        rw [apply, migrated] at agrees
        have same := agrees_iff.mp (agrees rfl (by simp [SavedCredentials.held]))
        have written : loaded encryption (some (content encryption { saved with
            recoverySecret := CredentialsStore.keptSecret saved.agentId saved.recoverySecret store.memory })) =
            some _ := loaded_content isKey kept
        dsimp only [Prod.map, id] at same
        rw [written] at same
        exact congrArg HeldCredentials.recoverySecret same
      · intro same
        refine ⟨sound.saveLaws, ?_, fun unlinks isClear => absurd isClear (others unlinks)⟩
        rw [apply, migrated, same]
        exact (sound_saved isKey isSecret).agrees
    · intro isConsistent
      rw [apply, migrated, consistent.mp isConsistent]
      exact sound_saved isKey isSecret

/-- Cleared credentials agree with a file that does not load. -/
theorem agrees_cleared (file : Option FileContent) :
    Agrees encryption { file } ↔ loaded encryption file = none := by
  rw [agrees_iff]
  cases loaded encryption file with
  | none => exact iff_of_true rfl rfl
  | some saved =>
    refine iff_of_false (fun same => ?_) (by simp)
    have cleared : some saved.agentId = none := congrArg HeldCredentials.agentId same
    cases cleared

theorem Sound.clear (sound : store.Sound encryption) (unlinks : Bool) :
    Handles encryption (.clear unlinks) store := by
  obtain ⟨file, isCleared, isFile, left⟩ : ∃ file, (apply encryption (.clear unlinks) store).2 = { file } ∧
      (file = none ∨ file = store.file) ∧
      (loaded encryption file = none ↔ consistent encryption (.clear unlinks) store = true) := by
    rw [apply, CredentialsStore.clear, consistent]
    cases isFile : store.file with
    | none => exact ⟨none, rfl, .inl rfl, by simp [loaded]⟩
    | some content =>
      cases unlinks with
      | true => exact ⟨none, rfl, .inl rfl, by simp [loaded]⟩
      | false => exact ⟨some content, rfl, .inr rfl, by simp⟩
  rw [← agrees_cleared] at left
  refine ⟨?_, fun _ => ?_⟩
  · rw [← left]
    constructor
    · intro lawful
      have agrees := lawful.cleared unlinks rfl
      rwa [isCleared] at agrees
    · intro agrees
      refine ⟨sound.saveLaws, ?_, fun _ _ => ?_⟩
      · rw [isCleared]
        exact fun _ held => absurd rfl held
      · rwa [isCleared]
  · rw [isCleared]
    refine ⟨fun saved isLoaded => ?_, rfl, rfl, fun _ held => absurd rfl held⟩
    obtain rfl | rfl := isFile
    · cases isLoaded
    · exact sound.file saved isLoaded

/-- **An operation** is lawful if and only if it is consistent, and leaves sound
credentials then. -/
theorem Sound.apply (sound : store.Sound encryption) {op : CredentialsOp} (admissible : op.admissible = true) :
    Handles encryption op store := by
  cases op with
  | load reads disk => exact sound.load admissible reads
  | save agentId apiKey recoverySecret disk =>
    obtain ⟨⟨isKey, isSecret⟩, isDisk⟩ : (given apiKey = true ∧ given recoverySecret = true) ∧
        disk.admissible = true := by simpa [CredentialsOp.admissible] using admissible
    exact sound.handles (by rintro _ ⟨⟩) rfl (sound.save isDisk agentId isKey isSecret)
  | holdUnsaved apiKey =>
    refine sound.handles (by rintro _ ⟨⟩) rfl ⟨sound.file, admissible, sound.recoverySecret, ?_⟩
    exact fun unsaved => nomatch unsaved
  | holdUnsavedRegistration agentId recoverySecret =>
    refine sound.handles (by rintro _ ⟨⟩) rfl ⟨sound.file, rfl, admissible, ?_⟩
    exact fun unsaved => nomatch unsaved
  | retryUnsaved disk =>
    refine sound.handles (by rintro _ ⟨⟩) rfl ?_
    rw [CredentialsStore.apply, retryUnsaved]
    split_ifs
    · split
      · exact sound
      · exact sound.save admissible _ sound.apiKey sound.recoverySecret
    · exact sound
  | clear unlinks => exact sound.clear unlinks

/-! ## The agent's view -/

/-- The agent process whose credentials these are: what it knows of the file is what
it loads. -/
structure Shows (encryption : Bool) (store : CredentialsStore) (agent : AgentProcess) : Prop where
  credentials : agent.credentials =
    ⟨store.memory.agentId.map Uuid.number, store.memory.apiKey, store.memory.recoverySecret, store.memory.unsaved⟩
  file : agent.file = (loaded encryption store.file).map fun saved =>
    ⟨saved.agentId.number, saved.apiKey, saved.recoverySecret⟩

theorem written_of_given {value : Value} (isGiven : given value = true) : written value = value := by
  rw [written]
  split_ifs with counts
  · rfl
  · obtain ⟨rfl, -⟩ | isEntry := entry_given isGiven ""
    · rfl
    · rw [SavedCredentials.entry, if_neg counts] at isEntry
      cases isEntry

theorem savedSecret_keptSecret {agent : AgentProcess} (isShown : Shows encryption store agent) (agentId : Uuid)
    {recoverySecret : Value} : savedSecret agentId.number recoverySecret agent.credentials =
      CredentialsStore.keptSecret agentId recoverySecret store.memory := by
  have sameId : store.memory.agentId.map Uuid.number = some agentId.number ↔ store.memory.agentId = some agentId := by
    constructor
    · intro same
      obtain ⟨held, isHeld, sameNumber⟩ := Option.map_eq_some_iff.mp same
      rw [isHeld, ← Uuid.ofId_number held, sameNumber, Uuid.ofId_number]
    · intro same
      rw [same]
      rfl
  unfold savedSecret
  rw [CredentialsStore.keptSecret, isShown.credentials]
  split
  · simp only [sameId, true_and]
  · rename_i isSecret
    rw [if_neg fun own => isSecret own.1]

/-- **Refinement.** The save of the agent's model is a save that lands, or does not. -/
theorem Sound.save_shows (sound : store.Sound encryption) {agent : AgentProcess} {out : Outside}
    (isShown : Shows encryption store agent) (admissible : disk.admissible = true)
    (lands : out.saves agent.looks = disk.lands) (agentId : Uuid) {apiKey recoverySecret : Value}
    (isKey : given apiKey = true) (isSecret : given recoverySecret = true) :
    (Agent.save out agentId.number apiKey recoverySecret agent).1 =
        (store.save encryption disk agentId apiKey recoverySecret).1 ∧
      Shows encryption (store.save encryption disk agentId apiKey recoverySecret).2
        (Agent.save out agentId.number apiKey recoverySecret agent).2 := by
  have kept := sound.keptSecret agentId isSecret
  rw [save_eq admissible, Agent.save, lands, savedSecret_keptSecret isShown]
  cases disk.lands with
  | false => exact ⟨rfl, isShown.credentials, isShown.file⟩
  | true =>
    refine ⟨rfl, rfl, ?_⟩
    have isFile : loaded encryption (some (content encryption
        ⟨agentId, apiKey, CredentialsStore.keptSecret agentId recoverySecret store.memory⟩)) = some _ :=
      loaded_content isKey kept
    simp only [if_true, isFile, Option.map_some, AgentProcess.stored, written_of_given isKey, written_of_given kept]

/-! ## Whole runs -/

/-- Operations a process makes with values that are strings or missing. -/
def step (encryption : Bool) (op : CredentialsOp) (store : CredentialsStore) : Option CredentialsStore :=
  if op.admissible then some (apply encryption op store).2 else none

/-- **Runs.** After any operations of a process that were all consistent, the next one is
lawful if and only if it is consistent. -/
theorem credentials_lawful_iff {start : CredentialsStore} (fresh : start.Fresh encryption)
    (run : Runs (step encryption) (fun store op => consistent encryption op store) start store)
    {op : CredentialsOp} (admissible : op.admissible = true) :
    Lawful encryption op store ↔ consistent encryption op store = true := by
  have sound : store.Sound encryption := by
    refine run.keeps (fun before op after isConsistent stepped sound => ?_) fresh.sound
    rw [step] at stepped
    split_ifs at stepped with isAdmissible
    cases stepped
    exact (Sound.apply sound isAdmissible).sound isConsistent
  exact (sound.apply admissible).lawful

/-- A process whose file is missing. -/
def unregistered : CredentialsStore := { file := none }

theorem unregistered_fresh : unregistered.Fresh true := ⟨rfl, fun _ isLoaded => nomatch isLoaded⟩

/-- Registered and approved. -/
def approval : CredentialsOp := .save (Uuid.ofId 5) (.str (text "key")) (.str (text "secret")) {}

theorem clear_after_approval : Lawful true (.clear true) (apply true approval unregistered).2 ↔
    consistent true (.clear true) (apply true approval unregistered).2 = true :=
  credentials_lawful_iff unregistered_fresh (.single ⟨approval, rfl, rfl⟩) rfl

/-- A file from before encryption and recovery secrets. -/
def legacyFile : FileContent :=
  .plaintext (.dict [(fieldKey "agent_id", .str (Uuid.ofId 5).str), (fieldKey "api_key", .str (text "key"))])

/-- The process on that file, with a registration of the same agent that is not saved yet. -/
def heldRegistration : CredentialsStore :=
  holdUnsavedRegistration (Uuid.ofId 5) (.str (text "secret")) { file := some legacyFile }

/-- A new process resurrects credentials whose file could not be deleted, and finds a
secret that the one which migrated the file no longer holds. -/
theorem credentials_not_lawful : ¬ Lawful true (.clear false) (apply true approval unregistered).2 ∧
    ¬ Lawful true (.load true {}) heldRegistration := by
  refine ⟨fun lawful => ?_, fun lawful => ?_⟩
  · have agrees := lawful.cleared false rfl {} rfl
    exact absurd agrees (by decide +kernel)
  · have agrees := lawful.agrees (by decide +kernel) (by decide +kernel) {} rfl
    exact absurd agrees (by decide +kernel)

end CredentialsStore

end LuxSwirl.Agent
