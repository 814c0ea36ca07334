import LuxSwirl.Lib.Interleaving
import LuxSwirl.Shared.SsrfTargets

/-!
# Connections under the SSRF policy

The http and json checks share a client. Its transport (`_ssrf_http.py`, `ssrf_http.py`) opens
a connection for a request on an address that its lookup allowed, or sends the request over an
open connection of the same pool and origin. The server may change the policy between any two
of these steps, and the resolver may answer anything.

No socket is opened on an address that the policy of its lookup blocks (`sockets_vetted`). A
request goes over an address that the policy it began under allows (`exchanges_vetted`),
provided the policy is not relaxed while a request that began under a strict one has yet to
be looked up: a connection that is opened then stays in the strict pool.
-/

namespace LuxSwirl.Agent.VettedTransport
open LuxSwirl.Py LuxSwirl.Lib LuxSwirl.Shared

structure Origin where
  scheme : Text
  host : Text
  port : Nat
  deriving DecidableEq

structure Connection where
  origin : Origin
  address : Text
  deriving DecidableEq

/-- A pool, by its number and by the policy it was started under. -/
structure Pool where
  number : Nat
  policy : Bool
  deriving DecidableEq

inductive Phase where
  /-- It has neither a connection nor a lookup. -/
  | waiting
  /-- Its lookup runs, under the policy that was read for it. -/
  | resolving (policy : Bool)
  /-- These addresses are left to try. -/
  | connecting (policy : Bool) (addresses : List Text)
  | ended
  deriving DecidableEq

structure Request where
  origin : Origin
  pool : Pool
  phase : Phase

/-- A connection attempt: the host it is for, the address, and the policy of the lookup. -/
structure Socket where
  host : Text
  address : Text
  policy : Bool

/-- A request that was sent: its origin, the policy it began under, and the connection. -/
structure Exchange where
  origin : Origin
  policy : Bool
  connection : Connection

/-- The policy the server set, a transport, and the requests on it by their numbers. The last
three fields are a record: what the resolver answered, the sockets and the exchanges. -/
structure Client where
  blockPrivateNetworks : Bool := false
  policy : Bool
  pool : Pool
  connections : List (Pool × Connection) := []
  requests : List Request := []
  answers : List (Text × Option (List Text)) := []
  sockets : List Socket := []
  exchanges : List Exchange := []

/-- A transport that is new. -/
def Client.start (blockPrivateNetworks : Bool) : Client where
  blockPrivateNetworks
  policy := blockPrivateNetworks
  pool := ⟨0, blockPrivateNetworks⟩

inductive Event where
  /-- A response of the server, with the policy if it holds one. -/
  | applyServerPolicy (value : Option Bool)
  /-- A new request. -/
  | handleAsyncRequest (origin : Origin)
  /-- The pool sends the request over an open connection. -/
  | reuse (id : Nat) (connection : Connection)
  /-- The pool opens one: the lookup starts, -/
  | lookUp (id : Nat)
  /-- the resolver answers, -/
  | resolved (id : Nat) (answer : Option (List Text))
  /-- and the next address is tried. -/
  | connectTcp (id : Nat) (opens : Bool)
  /-- A connection is closed. -/
  | close (pool : Pool) (connection : Connection)

namespace Client

def setPhase (client : Client) (id : Nat) (request : Request) (phase : Phase) : Client :=
  { client with requests := client.requests.set id { request with phase } }

def send (client : Client) (request : Request) (connection : Connection) : Client :=
  { client with exchanges := client.exchanges ++ [(⟨request.origin, request.pool.policy, connection⟩ : Exchange)] }

/-- `apply_server_policy` -/
def applyServerPolicy (client : Client) : Option Bool → Client
  | some value => { client with blockPrivateNetworks := value }
  | none => client

/-- The request goes to the pool, a new one when the policy has changed. -/
def handleAsyncRequest (client : Client) (origin : Origin) : Client :=
  let client : Client :=
    if client.blockPrivateNetworks ≠ client.policy then
      { client with
        pool := ⟨client.pool.number + 1, client.blockPrivateNetworks⟩
        policy := client.blockPrivateNetworks }
    else client
  { client with requests := client.requests ++ [(⟨origin, client.pool, .waiting⟩ : Request)] }

def reuse (client : Client) (id : Nat) (connection : Connection) : Option Client := do
  let request ← client.requests[id]?
  if request.phase = .waiting ∧ (request.pool, connection) ∈ client.connections ∧
      connection.origin = request.origin then
    some ((client.send request connection).setPhase id request .ended)
  else none

/-- A name that cannot be resolved as written is refused before the policy is read. -/
def lookUp (resolvable : Text → Bool) (client : Client) (id : Nat) : Option Client := do
  let request ← client.requests[id]?
  if request.phase = .waiting then
    some (client.setPhase id request
      (if resolvable request.origin.host then .resolving client.blockPrivateNetworks else .ended))
  else none

def resolved (client : Client) (id : Nat) (answer : Option (List Text)) : Option Client := do
  let request ← client.requests[id]?
  match request.phase with
  | .resolving policy =>
    let phase :=
      match allowedAddresses true policy (resolveHost answer request.origin.host) with
      | .ok addresses => .connecting policy addresses
      | .error _ => .ended
    return { client.setPhase id request phase with answers := client.answers ++ [(request.origin.host, answer)] }
  | _ => none

def connectTcp (client : Client) (id : Nat) (opens : Bool) : Option Client := do
  let request ← client.requests[id]?
  match request.phase with
  | .connecting policy (address :: rest) =>
    let client := { client with sockets := client.sockets ++ [(⟨request.origin.host, address, policy⟩ : Socket)] }
    if opens then
      let connection : Connection := ⟨request.origin, address⟩
      let client := { client with connections := (request.pool, connection) :: client.connections }
      return (client.send request connection).setPhase id request .ended
    else return client.setPhase id request (.connecting policy rest)
  | _ => none

def close (client : Client) (pool : Pool) (connection : Connection) : Client :=
  { client with connections := client.connections.erase (pool, connection) }

end Client

def step (resolvable : Text → Bool) : Event → Client → Option Client
  | .applyServerPolicy value, client => some (client.applyServerPolicy value)
  | .handleAsyncRequest origin, client => some (client.handleAsyncRequest origin)
  | .reuse id connection, client => client.reuse id connection
  | .lookUp id, client => client.lookUp resolvable id
  | .resolved id answer, client => client.resolved id answer
  | .connectTcp id opens, client => client.connectTcp id opens
  | .close pool connection, client => some (client.close pool connection)

/-! ## What a step does -/

/-- What a step on a request does: it ends on an open connection, starts its lookup, has its
addresses, or tries the first of them. -/
inductive Moves (resolvable : Text → Bool) (client : Client) (id : Nat) (request : Request) : Client → Prop
  | reuse (connection : Connection) (waiting : request.phase = .waiting)
      (pooled : (request.pool, connection) ∈ client.connections) (same : connection.origin = request.origin) :
      Moves resolvable client id request ((client.send request connection).setPhase id request .ended)
  | refused (waiting : request.phase = .waiting) :
      Moves resolvable client id request (client.setPhase id request .ended)
  | lookUp (waiting : request.phase = .waiting) :
      Moves resolvable client id request (client.setPhase id request (.resolving client.blockPrivateNetworks))
  | blocked (policy : Bool) (answer : Option (List Text)) (resolving : request.phase = .resolving policy) :
      Moves resolvable client id request
        { client.setPhase id request .ended with answers := client.answers ++ [(request.origin.host, answer)] }
  | resolved (policy : Bool) (answer : Option (List Text)) (addresses : List Text)
      (resolving : request.phase = .resolving policy)
      (allowed : allowedAddresses true policy (resolveHost answer request.origin.host) = .ok addresses) :
      Moves resolvable client id request
        { client.setPhase id request (.connecting policy addresses) with
          answers := client.answers ++ [(request.origin.host, answer)] }
  | failed (policy : Bool) (address : Text) (rest : List Text)
      (connecting : request.phase = .connecting policy (address :: rest)) :
      Moves resolvable client id request
        ({ client with
            sockets := client.sockets ++ [(⟨request.origin.host, address, policy⟩ : Socket)] }.setPhase id request
          (.connecting policy rest))
  | opened (policy : Bool) (address : Text) (rest : List Text)
      (connecting : request.phase = .connecting policy (address :: rest)) :
      Moves resolvable client id request
        (({ client with
            sockets := client.sockets ++ [(⟨request.origin.host, address, policy⟩ : Socket)]
            connections := (request.pool, ⟨request.origin, address⟩) :: client.connections }.send request
          ⟨request.origin, address⟩).setPhase id request .ended)

section Steps

variable {resolvable : Text → Bool} {client next : Client} {event : Event}

/-- Every step is of the server, a new request, a close, or moves a request. -/
theorem step_cases (stepped : step resolvable event client = some next) :
    (∃ value, event = .applyServerPolicy value ∧ next = client.applyServerPolicy value) ∨
    (∃ origin, next = client.handleAsyncRequest origin) ∨
    (∃ pool connection, next = client.close pool connection) ∨
    ∃ id request, client.requests[id]? = some request ∧ Moves resolvable client id request next := by
  cases event with
  | applyServerPolicy value => exact .inl ⟨value, rfl, (Option.some_inj.mp stepped).symm⟩
  | handleAsyncRequest origin => exact .inr (.inl ⟨origin, (Option.some_inj.mp stepped).symm⟩)
  | close pool connection => exact .inr (.inr (.inl ⟨pool, connection, (Option.some_inj.mp stepped).symm⟩))
  | reuse id connection =>
    obtain ⟨request, isRequest, returned⟩ := Option.bind_eq_some_iff.mp stepped
    split_ifs at returned with moves
    obtain ⟨waiting, pooled, same⟩ := moves
    cases returned
    exact .inr (.inr (.inr ⟨id, request, isRequest, .reuse connection waiting pooled same⟩))
  | lookUp id =>
    obtain ⟨request, isRequest, returned⟩ := Option.bind_eq_some_iff.mp stepped
    split_ifs at returned with waiting
    all_goals cases returned
    all_goals refine .inr (.inr (.inr ⟨id, request, isRequest, ?_⟩))
    · exact .lookUp waiting
    · exact .refused waiting
  | resolved id answer =>
    obtain ⟨request, isRequest, returned⟩ := Option.bind_eq_some_iff.mp stepped
    refine .inr (.inr (.inr ⟨id, request, isRequest, ?_⟩))
    split at returned
    · rename_i policy resolving
      cases returned
      cases allowed : allowedAddresses true policy (resolveHost answer request.origin.host) with
      | error refusal => exact .blocked policy answer resolving
      | ok addresses => exact .resolved policy answer addresses resolving allowed
    · cases returned
  | connectTcp id opens =>
    obtain ⟨request, isRequest, returned⟩ := Option.bind_eq_some_iff.mp stepped
    refine .inr (.inr (.inr ⟨id, request, isRequest, ?_⟩))
    split at returned
    · rename_i policy address rest connecting
      cases opens <;> cases returned
      · exact .failed policy address rest connecting
      · exact .opened policy address rest connecting
    · cases returned

theorem mem_setPhase {id : Nat} {request other : Request} {phase : Phase}
    (mem : other ∈ (client.setPhase id request phase).requests) :
    other ∈ client.requests ∨ other = { request with phase } := List.mem_or_eq_of_mem_set mem

end Steps

/-! ## Every socket -/

/-- The address is one of the host's, and the policy allows it. -/
structure Vetted (answers : List (Text × Option (List Text))) (host address : Text) (policy : Bool) : Prop where
  resolved : ∃ answer, (host, answer) ∈ answers ∧ address ∈ resolveHost answer host
  allowed : addressRange true policy address = none

theorem Vetted.later {answers later : List (Text × Option (List Text))} {host address : Text} {policy : Bool}
    (vetted : Vetted answers host address policy) (sub : answers ⊆ later) : Vetted later host address policy := by
  obtain ⟨⟨answer, isAnswer, mem⟩, allowed⟩ := vetted
  exact ⟨⟨answer, sub isAnswer, mem⟩, allowed⟩

/-- So is every address the request has left to try. -/
def Request.Vetted (answers : List (Text × Option (List Text))) (request : Request) : Prop :=
  ∀ policy addresses, request.phase = .connecting policy addresses →
    ∀ address ∈ addresses, VettedTransport.Vetted answers request.origin.host address policy

/-- The connection is on a socket that was opened for its host. -/
def Connection.Opened (sockets : List Socket) (connection : Connection) : Prop :=
  ∃ socket ∈ sockets, socket.host = connection.origin.host ∧ socket.address = connection.address

theorem Connection.Opened.later {sockets later : List Socket} {connection : Connection}
    (isOpened : connection.Opened sockets) (sub : sockets ⊆ later) : connection.Opened later := by
  obtain ⟨socket, mem, same⟩ := isOpened
  exact ⟨socket, sub mem, same⟩

/-- Every address to try and every socket is vetted, and every connection and exchange is on a
socket of its host. -/
structure Sound (client : Client) : Prop where
  requests : ∀ request ∈ client.requests, request.Vetted client.answers
  sockets : ∀ socket ∈ client.sockets, Vetted client.answers socket.host socket.address socket.policy
  connections : ∀ entry ∈ client.connections, entry.2.Opened client.sockets
  exchanges : ∀ exchange ∈ client.exchanges,
    exchange.connection.origin = exchange.origin ∧ exchange.connection.Opened client.sockets

namespace Sound

variable {resolvable : Text → Bool} {client next : Client} {event : Event}

theorem start (blockPrivateNetworks : Bool) : Sound (.start blockPrivateNetworks) := by
  refine ⟨?_, ?_, ?_, ?_⟩ <;> exact fun _ mem => by cases mem

/-- The phase of a request changes. -/
theorem setPhase (sound : Sound client) {id : Nat} {request : Request} {phase : Phase}
    (vetted : Request.Vetted client.answers { request with phase }) : Sound (client.setPhase id request phase) := by
  refine ⟨fun other mem => ?_, sound.sockets, sound.connections, sound.exchanges⟩
  rcases mem_setPhase mem with old | rfl
  · exact sound.requests other old
  · exact vetted

theorem answer (sound : Sound client) (entry : Text × Option (List Text)) :
    Sound { client with answers := client.answers ++ [entry] } := by
  have sub : client.answers ⊆ client.answers ++ [entry] := List.subset_append_left ..
  refine ⟨fun request mem policy addresses connecting address isIn => ?_, fun socket mem => ?_,
    sound.connections, sound.exchanges⟩
  · exact (sound.requests request mem policy addresses connecting address isIn).later sub
  · exact (sound.sockets socket mem).later sub

theorem socket (sound : Sound client) {host address : Text} {policy : Bool}
    (vetted : Vetted client.answers host address policy) :
    Sound { client with sockets := client.sockets ++ [⟨host, address, policy⟩] } := by
  have sub : client.sockets ⊆ client.sockets ++ [⟨host, address, policy⟩] := List.subset_append_left ..
  refine ⟨sound.requests, List.forall_mem_append.mpr ⟨sound.sockets, List.forall_mem_singleton.mpr vetted⟩,
    fun entry mem => (sound.connections entry mem).later sub, fun exchange mem => ?_⟩
  exact (sound.exchanges exchange mem).imp_right (·.later sub)

theorem send (sound : Sound client) {request : Request} {connection : Connection}
    (same : connection.origin = request.origin) (isOpened : connection.Opened client.sockets) :
    Sound (client.send request connection) :=
  ⟨sound.requests, sound.sockets, sound.connections,
    List.forall_mem_append.mpr ⟨sound.exchanges, List.forall_mem_singleton.mpr ⟨same, isOpened⟩⟩⟩

theorem handleAsyncRequest (sound : Sound client) (origin : Origin) : Sound (client.handleAsyncRequest origin) := by
  have new (pool : Pool) : Request.Vetted client.answers ⟨origin, pool, .waiting⟩ := fun _ _ same => by cases same
  unfold Client.handleAsyncRequest
  dsimp only
  split_ifs <;> refine ⟨?_, sound.sockets, sound.connections, sound.exchanges⟩ <;>
    exact List.forall_mem_append.mpr ⟨sound.requests, List.forall_mem_singleton.mpr (new _)⟩

theorem moves (sound : Sound client) {id : Nat} {request : Request} (isRequest : client.requests[id]? = some request)
    (moves : Moves resolvable client id request next) : Sound next := by
  have vetted := sound.requests request (List.mem_of_getElem? isRequest)
  cases moves with
  | reuse connection waiting pooled same =>
    exact (sound.send same (sound.connections _ pooled)).setPhase (fun _ _ same => by cases same)
  | refused waiting => exact sound.setPhase (fun _ _ same => by cases same)
  | lookUp waiting => exact sound.setPhase (fun _ _ same => by cases same)
  | blocked policy answer resolving => exact (sound.answer _).setPhase (fun _ _ same => by cases same)
  | resolved policy answer addresses resolving allowed =>
    refine (sound.answer _).setPhase fun policy' addresses' same address mem => ?_
    cases same
    obtain ⟨isAddress, isAllowed⟩ := mem_allowedAddresses allowed mem
    exact ⟨⟨answer, List.mem_append_right _ (List.mem_singleton.mpr rfl), isAddress⟩, isAllowed⟩
  | failed policy address rest connecting =>
    have each := vetted policy _ connecting
    refine (sound.socket (each address (List.mem_cons_self ..))).setPhase fun policy' addresses' same other mem => ?_
    cases same
    exact each other (List.mem_cons_of_mem _ mem)
  | opened policy address rest connecting =>
    have each := vetted policy _ connecting
    have withSocket := sound.socket (each address (List.mem_cons_self ..))
    have isOpened : Connection.Opened (client.sockets ++ [⟨request.origin.host, address, policy⟩])
        ⟨request.origin, address⟩ := ⟨_, List.mem_append_right _ (List.mem_singleton.mpr rfl), rfl, rfl⟩
    have pooled : Sound { client with
        sockets := client.sockets ++ [⟨request.origin.host, address, policy⟩]
        connections := (request.pool, ⟨request.origin, address⟩) :: client.connections } :=
      { withSocket with connections := List.forall_mem_cons.mpr ⟨isOpened, withSocket.connections⟩ }
    exact (pooled.send rfl isOpened).setPhase (fun _ _ same => by cases same)

theorem step (sound : Sound client) (stepped : step resolvable event client = some next) : Sound next := by
  rcases step_cases stepped with ⟨value, -, rfl⟩ | ⟨origin, rfl⟩ | ⟨pool, connection, rfl⟩ |
    ⟨id, request, isRequest, moves⟩
  · cases value <;> exact ⟨sound.requests, sound.sockets, sound.connections, sound.exchanges⟩
  · exact sound.handleAsyncRequest origin
  · refine ⟨sound.requests, sound.sockets, fun entry mem => ?_, sound.exchanges⟩
    exact sound.connections entry (List.mem_of_mem_erase mem)
  · exact sound.moves isRequest moves

end Sound

/-- The server does not relax the policy while a request that began under a strict one has yet
to be looked up. -/
def steady (client : Client) : Event → Bool
  | .applyServerPolicy (some false) =>
    client.requests.all fun request => decide (request.phase = .waiting → request.pool.policy = false)
  | _ => true

/-- A request that began under a strict policy is looked up under one. -/
def Request.Strict (blockPrivateNetworks : Bool) (request : Request) : Prop :=
  request.pool.policy = true →
    match request.phase with
    | .waiting => blockPrivateNetworks = true
    | .resolving policy => policy = true
    | .connecting policy _ => policy = true
    | .ended => True

/-- What a pool holds is allowed by its policy, and every exchange by the policy its request
began under. -/
structure Steady (client : Client) : Prop where
  pool : client.pool.policy = client.policy
  requests : ∀ request ∈ client.requests, request.Strict client.blockPrivateNetworks
  connections : ∀ entry ∈ client.connections, addressRange true entry.1.policy entry.2.address = none
  exchanges : ∀ exchange ∈ client.exchanges, addressRange true exchange.policy exchange.connection.address = none

namespace Steady

variable {resolvable : Text → Bool} {client next : Client} {event : Event}

theorem start (blockPrivateNetworks : Bool) : Steady (.start blockPrivateNetworks) := by
  refine ⟨rfl, ?_, ?_, ?_⟩ <;> exact fun _ mem => by cases mem

theorem setPhase (steady : Steady client) {id : Nat} {request : Request} {phase : Phase}
    (strict : Request.Strict client.blockPrivateNetworks { request with phase }) :
    Steady (client.setPhase id request phase) := by
  refine ⟨steady.pool, fun other mem => ?_, steady.connections, steady.exchanges⟩
  rcases mem_setPhase mem with old | rfl
  · exact steady.requests other old
  · exact strict

theorem send (steady : Steady client) {request : Request} {connection : Connection}
    (allowed : addressRange true request.pool.policy connection.address = none) :
    Steady (client.send request connection) :=
  { steady with exchanges := List.forall_mem_append.mpr ⟨steady.exchanges, List.forall_mem_singleton.mpr allowed⟩ }

theorem answer (steady : Steady client) (entry : Text × Option (List Text)) :
    Steady { client with answers := client.answers ++ [entry] } :=
  ⟨steady.pool, steady.requests, steady.connections, steady.exchanges⟩

theorem socket (steady : Steady client) (socket : Socket) :
    Steady { client with sockets := client.sockets ++ [socket] } :=
  ⟨steady.pool, steady.requests, steady.connections, steady.exchanges⟩

theorem moves (steady : Steady client) (sound : Sound client) {id : Nat} {request : Request}
    (isRequest : client.requests[id]? = some request) (moves : Moves resolvable client id request next) :
    Steady next := by
  have isIn := List.mem_of_getElem? isRequest
  have strict := steady.requests request isIn
  have vetted := sound.requests request isIn
  cases moves with
  | reuse connection waiting pooled same =>
    exact (steady.send (steady.connections _ pooled)).setPhase fun _ => trivial
  | refused waiting => exact steady.setPhase fun _ => trivial
  | lookUp waiting =>
    refine steady.setPhase fun on => ?_
    have now := strict on
    rw [waiting] at now
    exact now
  | blocked policy answer resolving => exact (steady.answer _).setPhase fun _ => trivial
  | resolved policy answer addresses resolving allowed =>
    refine (steady.answer _).setPhase fun on => ?_
    have read := strict on
    rw [resolving] at read
    exact read
  | failed policy address rest connecting =>
    refine (steady.socket _).setPhase fun on => ?_
    have read := strict on
    rw [connecting] at read
    exact read
  | opened policy address rest connecting =>
    have allowed : addressRange true request.pool.policy address = none := by
      refine addressRange_relax (fun on => ?_) (vetted policy _ connecting address (List.mem_cons_self ..)).allowed
      have read := strict on
      rw [connecting] at read
      exact read
    have pooled : Steady { client with
        sockets := client.sockets ++ [⟨request.origin.host, address, policy⟩]
        connections := (request.pool, ⟨request.origin, address⟩) :: client.connections } :=
      { steady.socket ⟨request.origin.host, address, policy⟩ with
        connections := List.forall_mem_cons.mpr ⟨allowed, steady.connections⟩ }
    exact (pooled.send allowed).setPhase fun _ => trivial

theorem handleAsyncRequest (steady : Steady client) (origin : Origin) : Steady (client.handleAsyncRequest origin) := by
  unfold Client.handleAsyncRequest
  dsimp only
  split_ifs with changed
  · refine ⟨rfl, List.forall_mem_append.mpr ⟨steady.requests, List.forall_mem_singleton.mpr id⟩,
      steady.connections, steady.exchanges⟩
  · have same : client.blockPrivateNetworks = client.policy := not_ne_iff.mp changed
    refine ⟨steady.pool, List.forall_mem_append.mpr ⟨steady.requests, List.forall_mem_singleton.mpr fun on => ?_⟩,
      steady.connections, steady.exchanges⟩
    show client.blockPrivateNetworks = true
    rw [same, ← steady.pool]
    exact on

/-- A policy that is not relaxed too early leaves every request strict. -/
theorem applyServerPolicy (steady : Steady client) {value : Option Bool}
    (allowed : VettedTransport.steady client (.applyServerPolicy value) = true) :
    Steady (client.applyServerPolicy value) := by
  cases value with
  | none => exact steady
  | some value =>
    refine ⟨steady.pool, fun request mem on => ?_, steady.connections, steady.exchanges⟩
    have before := steady.requests request mem on
    cases phase : request.phase with
    | waiting =>
      cases value with
      | true => rfl
      | false =>
        have lax := of_decide_eq_true (List.all_eq_true.mp allowed request mem) phase
        rw [on] at lax
        cases lax
    | _ =>
      rw [phase] at before
      exact before

theorem step (steady : Steady client) (sound : Sound client) (allowed : VettedTransport.steady client event = true)
    (stepped : step resolvable event client = some next) : Steady next := by
  rcases step_cases stepped with ⟨value, rfl, rfl⟩ | ⟨origin, rfl⟩ | ⟨pool, connection, rfl⟩ |
    ⟨id, request, isRequest, moves⟩
  · exact steady.applyServerPolicy allowed
  · exact steady.handleAsyncRequest origin
  · exact ⟨steady.pool, steady.requests, fun entry mem => steady.connections entry (List.mem_of_mem_erase mem),
      steady.exchanges⟩
  · exact steady.moves sound isRequest moves

end Steady

/-- **Every exchange is vetted** under the policy that its request began under, in every run in
which the policy is not relaxed too early. -/
theorem exchanges_vetted {resolvable : Text → Bool} {blockPrivateNetworks : Bool} {client : Client}
    (run : Runs (step resolvable) steady (.start blockPrivateNetworks) client) {exchange : Exchange}
    (mem : exchange ∈ client.exchanges) :
    ∀ read, ipAddress exchange.connection.address = some read → Unblocked true exchange.policy read.ip := by
  have both : Sound client ∧ Steady client := by
    refine @Runs.keeps _ _ _ _ _ _ (fun client => Sound client ∧ Steady client) run ?_ ⟨Sound.start _, Steady.start _⟩
    rintro _ _ _ allowed stepped ⟨sound, steady⟩
    exact ⟨sound.step stepped, steady.step sound allowed stepped⟩
  exact addressRange_eq_none_iff.mp (both.2.exchanges exchange mem)

/-! ## Runs -/

def intranet : Origin := ⟨text "http", text "wiki", 80⟩

def wiki : Connection := ⟨intranet, text "10.0.0.5"⟩

def mirror : Connection := ⟨intranet, text "203.0.113.7"⟩

/-- The name has a private address and another one; the second request comes after a change of
the policy and back. -/
def visits : List Event :=
  [.handleAsyncRequest intranet, .lookUp 0, .resolved 0 (some [wiki.address, mirror.address]),
    .applyServerPolicy (some false), .connectTcp 0 true, .applyServerPolicy (some true),
    .handleAsyncRequest intranet, .reuse 1 mirror]

theorem visits_exchanges : ∃ client, runAll (step fun _ => true) steady visits (Client.start true) = some client ∧
    ∀ exchange ∈ client.exchanges, ∀ read, ipAddress exchange.connection.address = some read →
      Unblocked true exchange.policy read.ip := by
  have runs : (runAll (step fun _ => true) steady visits (Client.start true)).isSome = true := by decide +kernel
  obtain ⟨client, ran⟩ := Option.isSome_iff_exists.mp runs
  exact ⟨client, ran, fun exchange mem => exchanges_vetted (Runs.of_runAll ran) mem⟩

/-- A request begins under a strict policy and is looked up under a lax one, -/
def relaxedEarly : List Event :=
  [.handleAsyncRequest intranet, .applyServerPolicy (some false), .lookUp 0,
    .resolved 0 (some [wiki.address]), .connectTcp 0 true, .applyServerPolicy (some true),
    .handleAsyncRequest intranet, .reuse 1 wiki]

/-- and the next one goes over its connection under the strict policy. -/
theorem relaxed_early_reaches :
    (runAll (step fun _ => true) (fun _ _ => true) relaxedEarly (Client.start true)).any (fun client =>
      client.exchanges.any fun exchange => exchange.policy &&
        (addressRange true true exchange.connection.address).isSome) = true := by
  decide +kernel

end LuxSwirl.Agent.VettedTransport
