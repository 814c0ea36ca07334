import LuxSwirl.Lib.InsertNew
import LuxSwirl.Server.CloneCheck

/-!
# Checks of a scan's hosts

`job_to_check_core_service.py` makes the checks of the hosts a network scan found, with the
reading of its result (`network_scan_core_service.py`) and the names of the checks
(`scan_check_names.py`).

A host is passed by when a check has the name its own would get, whatever that check is
for; and hosts whose names differ in a dot get one name. `monitors_all_iff` says when every
host is monitored all the same.
-/

namespace LuxSwirl.Server
open LuxSwirl.Py LuxSwirl.Lib

inductive ScanCheckKind where
  | ping
  | web
  | ssh
  | database
  deriving DecidableEq

namespace ScanCheckKind

/-- `PORT_CATEGORIES` -/
def ports : ScanCheckKind → List Int
  | ping => []
  | web => [80, 443, 8080, 8443, 8000, 3000, 5000]
  | ssh => [22, 2222]
  | database => [3306, 5432, 5433, 27017, 6379, 1433, 1521]

/-- `CATEGORY_PREFIX` -/
def namePrefix : ScanCheckKind → String
  | ping => "ping"
  | web => "http"
  | ssh => "ssh"
  | database => "db"

def checkType : ScanCheckKind → CheckType
  | ping => .ping
  | web => .http
  | ssh | database => .tcp

end ScanCheckKind

/-! ## A scan's result -/

structure ScanHost where
  ip : Value
  hostname : Value
  openPorts : List Int

/-- `fields.get(key)` -/
def fieldOr (key : String) (fields : List (Key × Value)) : Value := (Fields.get? (fieldKey key) fields).getD .none

/-- `_port_numbers` -/
def portNumbers : Value → List Int
  | .list items => items.filterMap fun
    | .int port => some port
    | _ => none
  | _ => []

def scanHosts (result : List (Key × Value)) : List ScanHost :=
  match fieldOr "discovered_hosts" result with
  | .list hosts => hosts.filterMap fun
    | .dict host =>
      some { ip := fieldOr "ip" host, hostname := fieldOr "hostname" host, openPorts := portNumbers (fieldOr "open_ports" host) }
    | _ => none
  | _ => []

def scannedPorts (result : List (Key × Value)) : List Int :=
  match fieldOr "scan_params" result with
  | .dict scanParams => portNumbers (fieldOr "ports" scanParams)
  | _ => []

/-- The ports of a category that were scanned. -/
def activePorts (scanned : List Int) (kind : ScanCheckKind) : List Int :=
  kind.ports.filter fun port => decide (port ∈ scanned)

/-- The first category a port is one of; none for the others. -/
def categoryOf (scanned : List Int) (port : Int) : Option ScanCheckKind :=
  [ScanCheckKind.web, .ssh, .database].find? fun kind => decide (port ∈ activePorts scanned kind)

/-- `categorized_hosts` of `_categorize_by_scanned_ports`. -/
def categorizedHosts (result : List (Key × Value)) (kind : ScanCheckKind) : List ScanHost :=
  (scanHosts result).filter fun host =>
    decide (some kind ∈ host.openPorts.map (categoryOf (scannedPorts result)))

/-- `hostname or ip` -/
def ScanHost.target (host : ScanHost) : Value := if truthy host.hostname then host.hostname else host.ip

/-! ## The checks wanted -/

/-- What a check is to reach: a host, and of a service its port. -/
structure Endpoint where
  host : Value
  port : Option Int

section Wanted

variable (str : Value → Text)

/-- A value in an f-string. -/
def formatted : Value → Text
  | .str s => s
  | value => str value

def formattedPort (port : Int) : Text := (if port < 0 then text "-" else []) ++ strOfNat port.natAbs

def checkName (kind : ScanCheckKind) (endpoint : Endpoint) : Text :=
  let suffix := (endpoint.port.map fun port => text "_" ++ formattedPort port).getD []
  (text kind.namePrefix ++ text "_" ++ formatted str endpoint.host ++ suffix).map fun c =>
    if c = .scalar '.' then .scalar '_' else c

/-- The target a check of the endpoint is given. -/
def checkTarget (kind : ScanCheckKind) (endpoint : Endpoint) : Value :=
  match kind, endpoint.port with
  | .ping, _ => endpoint.host
  | _, none => endpoint.host
  | .web, some port =>
    .str ((if port = 443 ∨ port = 8443 then text "https://" else text "http://") ++
      formatted str endpoint.host ++ text ":" ++ formattedPort port)
  | _, some port => .str (formatted str endpoint.host ++ text ":" ++ formattedPort port)

end Wanted

/-- The endpoints of a kind in the order of the loops; none for a host without a name and
an address. -/
def wantedEndpoints (kind : ScanCheckKind) (result : List (Key × Value)) : List (Option Endpoint) :=
  match kind with
  | .ping => (scanHosts result).map fun host =>
    if truthy host.target then some { host := host.target, port := none } else none
  | _ => (categorizedHosts result kind).flatMap fun host =>
    if truthy host.target then
      (host.openPorts.filter fun port => decide (port ∈ kind.ports)).map fun port =>
        some { host := host.target, port := some port }
    else [none]

/-! ## The call -/

structure BulkCheckParams where
  agentId : Id
  interval : Nat
  timeout : Nat
  retryAttempts : Nat
  tags : List Text
  expectedStatus : Option Int := none
  verifySsl : Bool := true

/-- How a call ends: it raises, reports an error, or made its checks. -/
inductive ScanOutcome where
  | raised
  | error (message : Text)
  | done (db : Db) (created skipped : Nat)

/-- A service's settings, which a web check alone is given. -/
def BulkCheckParams.settings (params : BulkCheckParams) : ScanCheckKind → TypeSettings
  | .web => { expectedStatus := params.expectedStatus, verifySsl := some params.verifySsl }
  | _ => {}

/-- `CheckCreate(...)`, or none when pydantic refuses it. -/
def BulkCheckParams.checkCreate (params : BulkCheckParams) (str : Value → Text) (kind : ScanCheckKind)
    (endpoint : Endpoint) : Option CheckCreate :=
  match checkTarget str kind endpoint with
  | .str target =>
    let settings := params.settings kind
    let data := CheckCreate.stripped
      { displayName := checkName str kind endpoint
        checkType := kind.checkType
        target
        intervalSeconds := some params.interval
        timeoutSeconds := params.timeout
        retryAttempts := some params.retryAttempts
        tags := some params.tags
        config := settings.fields }
    if data.Fits ∧ settings.Fits then some data else none
  | _ => none

/-- What a call runs in: the guards, the clock, and the ids the database gives out. -/
structure ScanSession where
  guards : Guards
  clock : Nat → Time
  ids : Nat → Id
  /-- `str` of a value that is no text. -/
  str : Value → Text

namespace ScanSession

def next (session : ScanSession) : ScanSession :=
  { session with
    clock := fun n => session.clock (n + 2)
    ids := fun n => session.ids (n + 1) }

/-- The loop, with the names the agent's checks have. -/
def createEach (params : BulkCheckParams) (kind : ScanCheckKind) : ScanSession → List (Option Endpoint) →
    List Text → Db → Nat → Nat → ScanOutcome
  | _, [], _, db, created, skipped => .done db created skipped
  | session, none :: rest, names, db, created, skipped =>
    createEach params kind session rest names db created (skipped + 1)
  | session, some endpoint :: rest, names, db, created, skipped =>
    let name := checkName session.str kind endpoint
    if name ∈ names then createEach params kind session rest names db created (skipped + 1)
    else match params.checkCreate session.str kind endpoint with
      | none => .raised
      | some data =>
        match createCheck session.guards session.clock (session.ids 0) params.agentId data false false db with
        | .error _ => .raised
        | .ok made => createEach params kind session.next rest (name :: names) made (created + 1) skipped

/-- The `create_..._checks_from_job` of a kind; `result` is the job's, when there is one. -/
def createChecksFromJob (session : ScanSession) (params : BulkCheckParams) (kind : ScanCheckKind)
    (result : Option (List (Key × Value))) (db : Db) : ScanOutcome :=
  match result with
  | none | some [] => .error (text (if kind = .ping then "Job not found or has no discovered hosts" else "Job not found or has no result"))
  | some result =>
    if kind = .ping ∧ Fields.get? (fieldKey "discovered_hosts") result = none then
      .error (text "Job not found or has no discovered hosts")
    else match db.getAgent params.agentId with
      | none => .raised
      | some agent =>
        let existing := db.checks.filter fun check => decide (check.agentId = agent.id)
        createEach params kind session (wantedEndpoints kind result) (existing.map (·.displayName)) db 0 0

end ScanSession

/-! ## What a call is to cover -/

/-- The call applies to an endpoint: a host with a name or an address, and of a service an
open port of its category, some of whose ports the scan found open on the host. -/
inductive Applies (result : List (Key × Value)) : ScanCheckKind → Endpoint → Prop
  | host {host : ScanHost} (found : host ∈ scanHosts result) (named : truthy host.target = true) :
    Applies result .ping ⟨host.target, none⟩
  | service {kind : ScanCheckKind} {host : ScanHost} {port scanned : Int} (found : host ∈ scanHosts result)
      (named : truthy host.target = true) (isOpen : port ∈ host.openPorts) (isPort : port ∈ kind.ports)
      (scannedOpen : scanned ∈ host.openPorts) (scannedPort : scanned ∈ kind.ports)
      (isScanned : scanned ∈ scannedPorts result) : Applies result kind ⟨host.target, some port⟩

/-- An address of a page of the host at the port. -/
def WebPage (target host : Text) (port : Int) : Prop :=
  ∃ scheme ∈ [("http://", 80), ("https://", 443)], ∃ authority rest,
    target = text scheme.1 ++ authority ++ rest ∧
      (authority = host ++ text ":" ++ formattedPort port ∨ authority = host ∧ port = scheme.2) ∧
      ∀ c ∈ rest.head?, c ∈ text "/?#"

section Covered

variable (str : Value → Text) (kind : ScanCheckKind)

/-- The target an endpoint's check is stored with. -/
def storedTarget (endpoint : Endpoint) : Option Text :=
  match checkTarget str kind endpoint with
  | .str target => some (trim target)
  | _ => none

/-- A target is that host, and that port: as the call stores it, or a page of it. -/
def IsFor (target : Text) (endpoint : Endpoint) : Prop :=
  storedTarget str kind endpoint = some target ∨
    kind = .web ∧ ∃ port, endpoint.port = some port ∧ WebPage target (formatted str endpoint.host) port

/-- The agent has a check of the kind for the endpoint. -/
def Monitored (agentId : Id) (checks : List Check) (endpoint : Endpoint) : Prop :=
  ∃ check ∈ checks, check.agentId = agentId ∧ check.checkType = kind.checkType ∧
    IsFor str kind check.target endpoint

def MonitorsAll (result : List (Key × Value)) (agentId : Id) (db : Db) : Prop :=
  ∀ endpoint, Applies result kind endpoint → Monitored str kind agentId db.checks endpoint

/-- The endpoints first with their names, none of which a check of the agent has. -/
def newlyNamed (result : List (Key × Value)) (agentId : Id) (db : Db) : List Endpoint :=
  firsts (checkName str kind)
    ((db.checks.filter fun check => decide (check.agentId = agentId)).map (·.displayName))
    ((wantedEndpoints kind result).filterMap id)

/-- An endpoint has a check already, or is that of a check under a new name. -/
def NamesCover (result : List (Key × Value)) (agentId : Id) (db : Db) : Prop :=
  ∀ endpoint, Applies result kind endpoint → Monitored str kind agentId db.checks endpoint ∨
    ∃ first ∈ newlyNamed str kind result agentId db, ∃ target, storedTarget str kind first = some target ∧
      IsFor str kind target endpoint

end Covered

/-! ## What a call leaves -/

theorem checks_createCheck {guards : Guards} {clock : Nat → Time} {id agentId : Id} {data : CheckCreate}
    {skipConfigUpdate actorIsAdmin : Bool} {db created : Db}
    (isCreated : createCheck guards clock id agentId data skipConfigUpdate actorIsAdmin db = .ok created) :
    created.checks = db.checks ++ [data.row id agentId (clock 0)] := by
  obtain ⟨-, rfl⟩ := createCheck_eq_ok isCreated
  split_ifs <;> rfl

/-- What of a check says what it monitors. -/
def monitors (check : Check) : Id × CheckType × Option Text := (check.agentId, check.checkType, some check.target)

theorem monitors_row {params : BulkCheckParams} {str : Value → Text} {kind : ScanCheckKind} {endpoint : Endpoint}
    {data : CheckCreate} (isData : params.checkCreate str kind endpoint = some data) (id agentId : Id) (now : Time) :
    monitors (data.row id agentId now) = (agentId, kind.checkType, storedTarget str kind endpoint) := by
  rw [BulkCheckParams.checkCreate] at isData
  rw [storedTarget]
  split at isData
  · rename_i target isTarget
    dsimp only at isData
    split_ifs at isData
    cases isData
    rfl
  · cases isData

namespace ScanSession

/-- The loop makes the checks of the first endpoint of each new name. -/
theorem createEach_done {params : BulkCheckParams} {kind : ScanCheckKind} {session : ScanSession}
    {endpoints : List (Option Endpoint)} {names : List Text} {db after : Db} {before skippedBefore created skipped : Nat}
    (done : createEach params kind session endpoints names db before skippedBefore = .done after created skipped) :
    ∃ rows, after.checks = db.checks ++ rows ∧
      rows.map monitors = (firsts (checkName session.str kind) names (endpoints.filterMap id)).map fun endpoint =>
        (params.agentId, kind.checkType, storedTarget session.str kind endpoint) := by
  induction endpoints generalizing session names db before skippedBefore with
  | nil =>
    cases done
    exact ⟨[], by simp, rfl⟩
  | cons wanted rest ih =>
    cases wanted with
    | none => exact ih done
    | some endpoint =>
      rw [createEach] at done
      simp only [List.filterMap_cons, id_eq, firsts]
      split_ifs at done ⊢ with taken
      · exact ih done
      · cases isData : params.checkCreate session.str kind endpoint with
        | none => simp [isData] at done
        | some data =>
          simp only [isData] at done
          cases isMade : createCheck session.guards session.clock (session.ids 0) params.agentId data false false db with
          | error refusal => simp [isMade] at done
          | ok made =>
            simp only [isMade] at done
            obtain ⟨rows, whole, each⟩ := ih done
            refine ⟨data.row (session.ids 0) params.agentId (session.clock 0) :: rows, ?_, ?_⟩
            · rw [whole, checks_createCheck isMade, List.append_assoc]
              rfl
            · rw [List.map_cons, List.map_cons, monitors_row isData, each]
              rfl

end ScanSession

/-! ## Which endpoints are wanted -/

/-- A port is of one category. -/
theorem kind_of_mem_ports {port : Int} {kind other : ScanCheckKind} (isPort : port ∈ kind.ports)
    (isOther : port ∈ other.ports) : kind = other := by
  cases kind <;> cases other <;> simp only [ScanCheckKind.ports, List.mem_cons, List.not_mem_nil, or_false] at isPort isOther <;>
    first
      | rfl
      | omega

theorem mem_categories {kind : ScanCheckKind} (isService : kind ≠ .ping) :
    kind ∈ [ScanCheckKind.web, .ssh, .database] := by
  cases kind with
  | ping => exact absurd rfl isService
  | _ => decide

theorem categoryOf_eq_some {scanned : List Int} {port : Int} {kind : ScanCheckKind} (isService : kind ≠ .ping) :
    categoryOf scanned port = some kind ↔ port ∈ kind.ports ∧ port ∈ scanned := by
  have active (other : ScanCheckKind) : port ∈ activePorts scanned other ↔ port ∈ other.ports ∧ port ∈ scanned := by
    simp [activePorts]
  constructor
  · intro found
    exact (active kind).mp (by simpa using List.find?_some found)
  · intro both
    have some : (categoryOf scanned port).isSome = true := by
      rw [categoryOf, List.find?_isSome]
      exact ⟨kind, mem_categories isService, decide_eq_true ((active kind).mpr both)⟩
    obtain ⟨other, found⟩ := Option.isSome_iff_exists.mp some
    have isOther := (active other).mp (by simpa using List.find?_some found)
    rw [found, kind_of_mem_ports both.1 isOther.1]

theorem mem_categorizedHosts {result : List (Key × Value)} {kind : ScanCheckKind} (isService : kind ≠ .ping)
    {host : ScanHost} : host ∈ categorizedHosts result kind ↔ host ∈ scanHosts result ∧
      ∃ port ∈ host.openPorts, port ∈ kind.ports ∧ port ∈ scannedPorts result := by
  simp only [categorizedHosts, List.mem_filter, decide_eq_true_eq, List.mem_map, categoryOf_eq_some isService]

theorem wantedEndpoints_service {result : List (Key × Value)} {kind : ScanCheckKind} (isService : kind ≠ .ping) :
    wantedEndpoints kind result = (categorizedHosts result kind).flatMap fun host =>
      if truthy host.target then
        (host.openPorts.filter fun port => decide (port ∈ kind.ports)).map fun port =>
          some { host := host.target, port := some port }
      else [none] := by
  cases kind with
  | ping => exact absurd rfl isService
  | _ => rfl

theorem some_mem_wantedEndpoints {result : List (Key × Value)} {kind : ScanCheckKind} {endpoint : Endpoint} :
    some endpoint ∈ wantedEndpoints kind result ↔ Applies result kind endpoint := by
  by_cases isPing : kind = .ping
  · subst isPing
    simp only [wantedEndpoints, List.mem_map]
    constructor
    · rintro ⟨host, found, isEndpoint⟩
      split_ifs at isEndpoint with named
      cases isEndpoint
      exact .host found named
    · intro applies
      cases applies with
      | host found named => exact ⟨_, found, if_pos named⟩
      | service _ _ _ isPort => cases isPort
  · rw [wantedEndpoints_service isPing, List.mem_flatMap]
    constructor
    · rintro ⟨host, isHost, mem⟩
      obtain ⟨found, scanned, scannedOpen, scannedPort, isScanned⟩ := (mem_categorizedHosts isPing).mp isHost
      split_ifs at mem with named
      · obtain ⟨port, isPort, isEndpoint⟩ := List.mem_map.mp mem
        cases isEndpoint
        obtain ⟨isOpen, isPort⟩ := List.mem_filter.mp isPort
        exact .service found named isOpen (of_decide_eq_true isPort) scannedOpen scannedPort isScanned
      · simp at mem
    · intro applies
      cases applies with
      | host => exact absurd rfl isPing
      | service found named isOpen isPort scannedOpen scannedPort isScanned =>
        refine ⟨_, (mem_categorizedHosts isPing).mpr ⟨found, _, scannedOpen, scannedPort, isScanned⟩, ?_⟩
        rw [if_pos named]
        exact List.mem_map.mpr ⟨_, List.mem_filter.mpr ⟨isOpen, decide_eq_true isPort⟩, rfl⟩

/-! ## The call -/

namespace ScanSession

variable {session : ScanSession} {params : BulkCheckParams} {kind : ScanCheckKind}
  {result : List (Key × Value)} {db after : Db} {created skipped : Nat}

/-- A call that is done has added to the checks one for each endpoint under a new name. -/
theorem createChecksFromJob_done
    (done : session.createChecksFromJob params kind (some result) db = .done after created skipped) :
    ∃ rows, after.checks = db.checks ++ rows ∧
      rows.map monitors = (newlyNamed session.str kind result params.agentId db).map fun endpoint =>
        (params.agentId, kind.checkType, storedTarget session.str kind endpoint) := by
  cases result with
  | nil => cases done
  | cons entry rest =>
    simp only [createChecksFromJob] at done
    split_ifs at done
    cases found : db.getAgent params.agentId with
    | none => simp [found] at done
    | some agent =>
      have isAgent : agent.id = params.agentId := by simpa using List.find?_some found
      simp only [found, isAgent] at done
      exact createEach_done done

/-- An endpoint has a check after the call when it had one, or is that of one of the call's. -/
theorem monitored_done_iff
    (done : session.createChecksFromJob params kind (some result) db = .done after created skipped)
    (endpoint : Endpoint) :
    Monitored session.str kind params.agentId after.checks endpoint ↔
      Monitored session.str kind params.agentId db.checks endpoint ∨
        ∃ first ∈ newlyNamed session.str kind result params.agentId db, ∃ target,
          storedTarget session.str kind first = some target ∧ IsFor session.str kind target endpoint := by
  obtain ⟨rows, whole, each⟩ := createChecksFromJob_done done
  simp only [Monitored, whole, List.mem_append, or_and_right, exists_or]
  refine or_congr Iff.rfl ?_
  constructor
  · rintro ⟨check, isRow, -, -, isFor⟩
    have mem : monitors check ∈ rows.map monitors := List.mem_map_of_mem isRow
    rw [each] at mem
    obtain ⟨first, isFirst, same⟩ := List.mem_map.mp mem
    refine ⟨first, isFirst, check.target, ?_, isFor⟩
    exact congrArg (fun parts : Id × CheckType × Option Text => parts.2.2) same
  · rintro ⟨first, isFirst, target, isTarget, isFor⟩
    have mem : (params.agentId, kind.checkType, some target) ∈ rows.map monitors := by
      rw [each]
      exact List.mem_map.mpr ⟨first, isFirst, by rw [isTarget]⟩
    obtain ⟨check, isRow, same⟩ := List.mem_map.mp mem
    simp only [monitors, Prod.mk.injEq, Option.some.injEq] at same
    obtain ⟨isAgent, isType, rfl⟩ := same
    exact ⟨check, isRow, isAgent, isType, isFor⟩

/-- The call had a target for each endpoint it made a check of. -/
theorem storedTarget_of_done
    (done : session.createChecksFromJob params kind (some result) db = .done after created skipped)
    {first : Endpoint} (isFirst : first ∈ newlyNamed session.str kind result params.agentId db) :
    ∃ target, storedTarget session.str kind first = some target := by
  obtain ⟨rows, -, each⟩ := createChecksFromJob_done done
  have mem : (params.agentId, kind.checkType, storedTarget session.str kind first) ∈ rows.map monitors := by
    rw [each]
    exact List.mem_map_of_mem isFirst
  obtain ⟨check, -, same⟩ := List.mem_map.mp mem
  exact ⟨check.target, (congrArg (fun parts : Id × CheckType × Option Text => parts.2.2) same).symm⟩

/-- Hosts whose generated names no check has, and no two of them share, are all monitored. -/
theorem monitorsAll_of_names_apart
    (done : session.createChecksFromJob params kind (some result) db = .done after created skipped)
    (free : ∀ check ∈ db.checks, check.agentId = params.agentId →
      ∀ endpoint, Applies result kind endpoint → checkName session.str kind endpoint ≠ check.displayName)
    (apart : ∀ a b, Applies result kind a → Applies result kind b →
      checkName session.str kind a = checkName session.str kind b → a = b) :
    MonitorsAll session.str kind result params.agentId after := by
  intro endpoint applies
  refine (monitored_done_iff done endpoint).mpr (Or.inr ?_)
  have isWanted : endpoint ∈ (wantedEndpoints kind result).filterMap id :=
    List.mem_filterMap.mpr ⟨some endpoint, some_mem_wantedEndpoints.mpr applies, rfl⟩
  have name : checkName session.str kind endpoint ∈
        (db.checks.filter fun check => decide (check.agentId = params.agentId)).map (·.displayName) ∨
      checkName session.str kind endpoint ∈
        (newlyNamed session.str kind result params.agentId db).map (checkName session.str kind) :=
    key_mem_firsts _ isWanted
  rcases name with taken | named
  · obtain ⟨check, isCheck, isName⟩ := List.mem_map.mp taken
    obtain ⟨isCheck, isAgent⟩ := List.mem_filter.mp isCheck
    exact absurd isName.symm (free check isCheck (of_decide_eq_true isAgent) endpoint applies)
  · obtain ⟨first, isFirst, sameName⟩ := List.mem_map.mp named
    obtain ⟨wanted, isSome, isFirstOf⟩ := List.mem_filterMap.mp (firsts_sublist.subset isFirst)
    rw [id_eq] at isFirstOf
    subst isFirstOf
    obtain rfl : first = endpoint := apart first endpoint (some_mem_wantedEndpoints.mp isSome) applies sameName
    obtain ⟨target, isTarget⟩ := storedTarget_of_done done isFirst
    exact ⟨first, isFirst, target, isTarget, Or.inl isTarget⟩

/-- **Every host found is monitored.** After a call that reports no error the agent has for
each endpoint the call applies to a check of the kind just when it had one, or a host that
comes first with its generated name, which no check of the agent had, gave it one. -/
theorem monitors_all_iff (session : ScanSession) (params : BulkCheckParams) (kind : ScanCheckKind)
    (result : List (Key × Value)) (db after : Db) (created skipped : Nat)
    (done : session.createChecksFromJob params kind (some result) db = .done after created skipped) :
    MonitorsAll session.str kind result params.agentId after ↔
      NamesCover session.str kind result params.agentId db :=
  forall₂_congr fun endpoint _ => monitored_done_iff done endpoint

end ScanSession

/-! ## Two hosts of one name -/

/-- A scan's result with hosts of these names. -/
def hostsNamed (hostnames : List String) : List (Key × Value) :=
  [(fieldKey "discovered_hosts", .list (hostnames.map fun name => .dict [(fieldKey "hostname", .str (text name))]))]

def scanAgent : Db where
  agents := [{ id := 1, approvalStatus := .active, createdAt := 0 }]

def scanSession : ScanSession where
  guards := anyTarget
  clock _ := 0
  ids n := n + 1
  str _ := []

def everyMinute : BulkCheckParams where
  agentId := 1
  interval := 60
  timeout := 10
  retryAttempts := 1
  tags := []

theorem scanHosts_hostsNamed (hostnames : List String) : scanHosts (hostsNamed hostnames) =
    hostnames.map fun name => { ip := .none, hostname := .str (text name), openPorts := [] } := by
  show List.filterMap _ (hostnames.map _) = _
  rw [List.filterMap_map, ← List.filterMap_eq_map]
  rfl

/-- The check that is made is that of the host `db.1`. -/
theorem second_host_unmonitored : ∃ after,
    scanSession.createChecksFromJob everyMinute .ping (some (hostsNamed ["db.1", "db_1"])) scanAgent = .done after 1 1 ∧
      ¬ MonitorsAll scanSession.str .ping (hostsNamed ["db.1", "db_1"]) 1 after := by
  refine ⟨_, rfl, ?_⟩
  intro all
  have found : ScanHost.mk .none (.str (text "db_1")) [] ∈ scanHosts (hostsNamed ["db.1", "db_1"]) := by
    rw [scanHosts_hostsNamed]
    simp
  obtain ⟨check, isCheck, -, -, written | ⟨isWeb, -⟩⟩ := all ⟨.str (text "db_1"), none⟩ (.host found rfl)
  · have mem : some check.target ∈ [some (text "db.1")] := List.mem_map_of_mem (f := fun check => some check.target) isCheck
    rw [← written] at mem
    exact absurd mem (by decide +kernel)
  · cases isWeb

/-- One host has one check. -/
theorem one_host_monitored : ∃ after,
    scanSession.createChecksFromJob everyMinute .ping (some (hostsNamed ["db.1"])) scanAgent = .done after 1 0 ∧
      MonitorsAll scanSession.str .ping (hostsNamed ["db.1"]) 1 after := by
  refine ⟨_, rfl, (ScanSession.monitors_all_iff scanSession everyMinute .ping (hostsNamed ["db.1"]) scanAgent _ 1 0 rfl).mpr ?_⟩
  intro endpoint applies
  cases applies with
  | host found =>
    rw [scanHosts_hostsNamed, List.map_singleton, List.mem_singleton] at found
    subst found
    have one : newlyNamed scanSession.str .ping (hostsNamed ["db.1"]) 1 scanAgent = [⟨.str (text "db.1"), none⟩] := rfl
    exact Or.inr ⟨_, one ▸ List.mem_singleton_self _, text "db.1", rfl, Or.inl rfl⟩
  | service _ _ _ isPort => cases isPort

end LuxSwirl.Server
