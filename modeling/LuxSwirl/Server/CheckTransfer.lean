import LuxSwirl.Server.CheckExports
import Mathlib.Data.List.Sort

/-!
# Exporting and importing an agent's checks

`check_transfer_core_service.py` and `bulk_import_checks` of `check_core_service.py`.
An export is JSON between the two; of its document, the checks are here.

An entry that fails is that entry's error: its savepoint takes back what it did.
The parents that entries name are linked after every entry is made.
-/

namespace LuxSwirl.Server
open LuxSwirl.Py LuxSwirl.Lib

/-! ## Export -/

/-- The checks of an agent by their names, in the order of the database. -/
def Db.listChecksForAgent (collation : Text → Text → Bool) (db : Db) (agentId : Id) : List Check :=
  (db.checks.filter fun check => decide (check.agentId = agentId)).insertionSort fun a b =>
    collation a.displayName b.displayName

structure CheckInDB extends TypeSettings where
  id : Id
  displayName : Text
  checkType : CheckType
  target : Text
  description : Option Text
  intervalSeconds : Option Nat
  timeoutSeconds : Option Nat
  enabled : Bool
  retryAttempts : Option Nat
  retryIntervalSeconds : Option Nat
  resendNotificationAfter : Option Nat
  tags : Option (List Text)
  scriptCode : Option Text
  dependsOnCheckId : Option Id

/-- The settings of its type that a served check has. -/
def CheckResponse.typeSettings (response : CheckResponse) : TypeSettings where
  httpMethod := response.httpMethod
  expectedStatus := response.expectedStatus
  jsonPath := response.jsonPath
  expectedValue := response.expectedValue
  verifySsl := response.verifySsl
  recordType := response.recordType
  nameserver := response.nameserver
  port := response.port
  expectValue := response.expectValue
  connectionString := response.connectionString
  query := response.query

/-- `CheckInDB.model_validate`, which a `CheckResponse` reads its fields by as well. -/
def Check.toInDB (check : Check) : Option CheckInDB :=
  check.toResponse.map fun response =>
    { response.typeSettings with
      id := check.id
      displayName := response.displayName
      checkType := response.checkType
      target := response.target
      description := response.description
      intervalSeconds := response.intervalSeconds
      timeoutSeconds := response.timeoutSeconds
      enabled := response.enabled
      retryAttempts := response.retryAttempts
      retryIntervalSeconds := response.retryIntervalSeconds
      resendNotificationAfter := check.resendNotificationAfter
      tags := check.tags.map fun tags => tags.map trim
      scriptCode := response.scriptCode
      dependsOnCheckId := check.dependsOnCheckId }

/-- The fields `_entry` gives; all of them are set. -/
def CheckInDB.export (check : CheckInDB) (names : List (Id × Text)) : CheckExport :=
  let parentName := check.dependsOnCheckId.bind fun parent => Fields.get? parent names
  let entry : CheckExport :=
    { check.toTypeSettings with
      name := check.displayName
      checkType := check.checkType
      target := check.target
      interval := (check.intervalSeconds.getD 60 : Nat)
      timeout := (check.timeoutSeconds.getD 5 : Nat)
      retryAttempts := (check.retryAttempts.getD 2 : Nat)
      enabled := check.enabled
      description := check.description
      tags := check.tags
      retryIntervalSeconds := check.retryIntervalSeconds.map Int.ofNat
      resendNotificationAfter := check.resendNotificationAfter.map Int.ofNat
      scriptCode := check.scriptCode
      dependsOn := parentName
      dependsOnCheckId := if parentName.isNone then check.dependsOnCheckId.map Uuid.ofId else none
      fieldsSet := [] }
  { entry with fieldsSet := entry.modelDump.map (·.1) }

/-- `_entry`, which the schema of an entry may refuse. -/
def entryOf (pydantic : Pydantic) (names : List (Id × Text)) (check : CheckInDB) : Option CheckExport :=
  CheckExport.modelValidate pydantic (check.export names).modelDump

/-- The checks of `export_document`. -/
def exportDocument (pydantic : Pydantic) (collation : Text → Text → Bool) (agentId : Id) (db : Db) :
    Except CheckError (List CheckExport) := do
  let agent ← (db.getAgent agentId).elim (.error .agentNotFound) .ok
  let checks ← ((db.listChecksForAgent collation agent.id).mapM Check.toInDB).elim (.error .validation) .ok
  let names := Fields.ofPairs (checks.map fun check => (check.id, check.displayName))
  (checks.mapM (entryOf pydantic names)).elim (.error .validation) .ok

/-- An entry after its JSON. -/
def CheckExport.json (entry : CheckExport) : List (Key × Value) :=
  Fields.ofPairs (Value.decodeFields entry.modelDump)

/-! ## Import -/

/-- Why an entry is an error. -/
inductive ImportRefusal where
  | notAnEntry
  /-- The settings it gives are not a check's. -/
  | notACheck
  | noParent
  | refused (error : CheckError)
  deriving DecidableEq

inductive ImportResult where
  | created
  | updated
  | skipped
  deriving DecidableEq

structure ImportError where
  /-- The name, as the entry gives it. -/
  check : Value
  refusal : ImportRefusal
  deriving DecidableEq

structure ImportOutcome where
  created : Nat := 0
  updated : Nat := 0
  skipped : Nat := 0
  errors : List ImportError := []
  deriving DecidableEq

def ImportOutcome.count (outcome : ImportOutcome) : ImportResult → ImportOutcome
  | .created => { outcome with created := outcome.created + 1 }
  | .updated => { outcome with updated := outcome.updated + 1 }
  | .skipped => { outcome with skipped := outcome.skipped + 1 }

/-- What an import is at: the checks of the agent by name, and the entries to link. -/
structure Import where
  db : Db
  existing : List (Text × Id)
  toLink : List CheckExport := []
  outcome : ImportOutcome := {}

def Import.failed (check : Value) (refusal : ImportRefusal) (state : Import) : Import :=
  { state with
    outcome := { state.outcome with errors := state.outcome.errors ++ [⟨check, refusal⟩] } }

/-- What an update that was not refused leaves. -/
def updated : Db × Option CheckError → Except ImportRefusal Db
  | (_, some refusal) => .error (.refused refusal)
  | (db, none) => .ok db

section Import

variable (pydantic : Pydantic) (guards : Guards) (agentId : Id) (overwrite actorIsAdmin : Bool)

/-- `_import_one`: the tables, and the checks by name with one that was created. -/
def importOne (clock : Nat → Time) (id : Id) (entry : CheckExport) (existing : List (Text × Id))
    (db : Db) : Except ImportRefusal (Db × List (Text × Id) × ImportResult) :=
  match Fields.get? entry.name existing with
  | some checkId =>
    if !overwrite then .ok (db, existing, .skipped)
    else
      match entry.checkUpdate with
      | none => .error .notACheck
      | some data => do
        return (← updated (updateCheck guards clock checkId data actorIsAdmin db), existing, .updated)
  | none =>
    match entry.checkCreate with
    | none => .error .notACheck
    | some data =>
      match createCheck guards clock id agentId data false actorIsAdmin db with
      | .error refusal => .error (.refused refusal)
      | .ok created => .ok (created, Fields.set entry.name id existing, .created)

/-- The name an error gives: what the entry has, or "unknown". -/
def nameOf (raw : List (Key × Value)) : Value :=
  if truthy (valueAt raw "name") then valueAt raw "name" else .str (text "unknown")

/-- One round of the import. -/
def importEntry (clock : Nat → Time) (id : Id) (raw : List (Key × Value)) (state : Import) : Import :=
  match CheckExport.modelValidate pydantic raw with
  | none => state.failed (nameOf raw) .notAnEntry
  | some entry =>
    match importOne guards agentId overwrite actorIsAdmin clock id entry state.existing state.db with
    | .error refusal => state.failed (nameOf raw) refusal
    | .ok (db, existing, result) =>
      { db, existing
        toLink := if result ≠ .skipped ∧ entry.namesParent then state.toLink ++ [entry] else state.toLink
        outcome := state.outcome.count result }

/-- The entries in turn; each reads the clock twice at most, and takes an id if it
makes a check. -/
def importEntries : (Nat → Time) → (Nat → Id) → List (List (Key × Value)) → Import → Import
  | _, _, [], state => state
  | clock, ids, raw :: rest, state =>
    importEntries (fun n => clock (n + 2)) (fun n => ids (n + 1)) rest
      (importEntry pydantic guards agentId overwrite actorIsAdmin clock (ids 0) raw state)

/-- The parent an entry names. -/
def parentNamed (entry : CheckExport) (existing : List (Text × Id)) : Except ImportRefusal (Option Id) :=
  match entry.dependsOn with
  | some name => (Fields.get? name existing).elim (.error .noParent) fun parentId => .ok (some parentId)
  | none => .ok (entry.dependsOnCheckId.map Uuid.number)

/-- `_link_parent`; the check of an entry to link is there. -/
def linkParent (clock : Nat → Time) (entry : CheckExport) (existing : List (Text × Id)) (db : Db) :
    Except ImportRefusal Db := do
  let parentId ← parentNamed entry existing
  match (Fields.get? entry.name existing).bind db.getCheck with
  | none => .error (.refused .checkNotFound)
  | some check =>
    if check.dependsOnCheckId = parentId then return db
    else updated (updateCheck guards clock check.id { dependsOnCheckId := some parentId } actorIsAdmin db)

def linkEntry (clock : Nat → Time) (entry : CheckExport) (state : Import) : Import :=
  match linkParent guards actorIsAdmin clock entry state.existing state.db with
  | .error refusal => state.failed (.str entry.name) refusal
  | .ok db => { state with db }

def linkEntries : (Nat → Time) → List CheckExport → Import → Import
  | _, [], state => state
  | clock, entry :: rest, state =>
    linkEntries (fun n => clock (n + 2)) rest (linkEntry guards actorIsAdmin clock entry state)

/-- The entries to link, those that free their check of its parent first. -/
def linkOrder (toLink : List CheckExport) : List CheckExport :=
  let names : CheckExport → Bool := fun entry => entry.dependsOn.isSome || entry.dependsOnCheckId.isSome
  (toLink.filter fun entry => !names entry) ++ toLink.filter names

def bulkImportChecks (collation : Text → Text → Bool) (clock : Nat → Time) (ids : Nat → Id)
    (checks : List (List (Key × Value))) (db : Db) : Except CheckError (Db × ImportOutcome) := do
  let _ ← getAdmittedAgent agentId db
  let existing := Fields.ofPairs
    ((db.listChecksForAgent collation agentId).map fun check => (check.displayName, check.id))
  let imported := importEntries pydantic guards agentId overwrite actorIsAdmin clock ids checks
    { db, existing }
  let linked := linkEntries guards actorIsAdmin (fun n => clock (n + 2 * checks.length))
    (linkOrder imported.toLink) imported
  return (linked.db, linked.outcome)

end Import

end LuxSwirl.Server
