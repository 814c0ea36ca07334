import LuxSwirl.Py.IpText
import LuxSwirl.Shared.Ssrf

/-!
# The addresses of a target

`ssrf.py`: a name is resolved once, and the addresses in a blocked range are dropped. A name
is refused only when it resolves and no address is left (`allowedAddresses_eq_error`).
-/

namespace LuxSwirl.Shared
open LuxSwirl.Py

/-- The address, or the IPv4 address it carries, is of the network. -/
def Reaches (ip : IpAddress) (network : IpNetwork) : Prop :=
  ∃ candidate ∈ ip :: (embeddedIpv4 ip).toList, network.contains candidate = true

/-- What a policy leaves to connect to. -/
structure Unblocked (blockCloudMetadata blockPrivateNetworks : Bool) (ip : IpAddress) : Prop where
  metadata : blockCloudMetadata = true → ∀ network ∈ cloudMetadataNetworks, ¬ Reaches ip network
  internal : blockPrivateNetworks = true → ∀ network ∈ privateNetworks, ¬ Reaches ip network

theorem find_reaches_eq_none {ip : IpAddress} {networks : List IpNetwork} :
    (networks.find? fun network => (ip :: (embeddedIpv4 ip).toList).any network.contains) = none ↔
      ∀ network ∈ networks, ¬ Reaches ip network := by
  rw [List.find?_eq_none]
  refine forall₂_congr fun network _ => not_congr ?_
  rw [List.any_eq_true]
  rfl

theorem blockedRange_eq_none_iff {blockCloudMetadata blockPrivateNetworks : Bool} {ip : IpAddress} :
    blockedRange (some ip) blockCloudMetadata blockPrivateNetworks = none ↔
      Unblocked blockCloudMetadata blockPrivateNetworks ip := by
  have each (networks : List IpNetwork) (label : String) :
      ((networks.find? fun network => (ip :: (embeddedIpv4 ip).toList).any network.contains).map
        fun matched => (matched, label)) = none ↔ ∀ network ∈ networks, ¬ Reaches ip network := by
    rw [Option.map_eq_none_iff, find_reaches_eq_none]
  rw [blockedRange]
  simp only [List.findSome?_append, Option.or_eq_none_iff]
  constructor
  · rintro ⟨metadata, internal⟩
    refine ⟨fun on => ?_, fun on => ?_⟩
    · rw [if_pos on, List.findSome?_singleton, each] at metadata
      exact metadata
    · rw [if_pos on, List.findSome?_singleton, each] at internal
      exact internal
  · rintro ⟨metadata, internal⟩
    constructor
    · split_ifs with on
      · rw [List.findSome?_singleton, each]
        exact metadata on
      · rfl
    · split_ifs with on
      · rw [List.findSome?_singleton, each]
        exact internal on
      · rfl

/-- The range of an address, as it is written. -/
def addressRange (blockCloudMetadata blockPrivateNetworks : Bool) (address : Text) : Option (IpNetwork × String) :=
  blockedRange ((ipAddress address).map (·.ip)) blockCloudMetadata blockPrivateNetworks

theorem addressRange_eq_none_iff {blockCloudMetadata blockPrivateNetworks : Bool} {address : Text} :
    addressRange blockCloudMetadata blockPrivateNetworks address = none ↔
      ∀ read, ipAddress address = some read → Unblocked blockCloudMetadata blockPrivateNetworks read.ip := by
  rw [addressRange]
  cases isRead : ipAddress address with
  | none => exact iff_of_true rfl fun _ same => by cases same
  | some read =>
    rw [Option.map_some, blockedRange_eq_none_iff]
    constructor
    · rintro unblocked other ⟨⟩
      exact unblocked
    · exact fun all => all read rfl

/-- A policy that blocks more leaves less. -/
theorem addressRange_relax {blockCloudMetadata strict lax : Bool} {address : Text}
    (weaker : lax = true → strict = true) (allowed : addressRange blockCloudMetadata strict address = none) :
    addressRange blockCloudMetadata lax address = none := by
  rw [addressRange_eq_none_iff] at allowed ⊢
  intro read isRead
  obtain ⟨metadata, internal⟩ := allowed read isRead
  exact ⟨metadata, fun on => internal (weaker on)⟩

/-- The addresses of a host, by what the resolver answers for a name: none when it fails. -/
def resolveHost (answer : Option (List Text)) (host : Text) : List Text :=
  if (ipAddress host).isSome then [host]
  else
    match answer with
    | some addresses => addresses.eraseDups
    | none => []

/-- An address and the range it is refused for. -/
structure SsrfBlockedError where
  address : Text
  matched : IpNetwork
  label : String

def assertIpAllowed (blockCloudMetadata blockPrivateNetworks : Bool) (address : Text) : Except SsrfBlockedError Unit :=
  match addressRange blockCloudMetadata blockPrivateNetworks address with
  | none => .ok ()
  | some (matched, label) => .error ⟨address, matched, label⟩

/-- Those of the addresses to connect to. -/
def allowedAddresses (blockCloudMetadata blockPrivateNetworks : Bool) (addresses : List Text) :
    Except SsrfBlockedError (List Text) :=
  let allowed := addresses.filter fun address =>
    (addressRange blockCloudMetadata blockPrivateNetworks address).isNone
  match addresses, allowed with
  | first :: _, [] => do
    assertIpAllowed blockCloudMetadata blockPrivateNetworks first
    return allowed
  | _, _ => .ok allowed

section Addresses

variable {blockCloudMetadata blockPrivateNetworks : Bool} {addresses : List Text}

/-- An allowed address is one of the host's, and in no blocked range. -/
theorem mem_allowedAddresses {allowed : List Text} {address : Text}
    (returned : allowedAddresses blockCloudMetadata blockPrivateNetworks addresses = .ok allowed)
    (mem : address ∈ allowed) :
    address ∈ addresses ∧ addressRange blockCloudMetadata blockPrivateNetworks address = none := by
  have kept : allowed ⊆ addresses.filter fun address =>
      (addressRange blockCloudMetadata blockPrivateNetworks address).isNone := by
    unfold allowedAddresses at returned
    dsimp only at returned
    split at returned
    · rename_i first rest empty
      rw [empty] at returned
      unfold assertIpAllowed at returned
      cases range : addressRange blockCloudMetadata blockPrivateNetworks first <;> rw [range] at returned <;>
        cases returned
      exact List.nil_subset _
    · cases returned
      exact List.Subset.refl _
  obtain ⟨isAddress, isNone⟩ := List.mem_filter.mp (kept mem)
  exact ⟨isAddress, Option.isNone_iff_eq_none.mp isNone⟩

/-- **A host is refused** when it has addresses and all are blocked, by the range of the first. -/
theorem allowedAddresses_eq_error {refusal : SsrfBlockedError} :
    allowedAddresses blockCloudMetadata blockPrivateNetworks addresses = .error refusal ↔
      addresses.head? = some refusal.address ∧
      addressRange blockCloudMetadata blockPrivateNetworks refusal.address = some (refusal.matched, refusal.label) ∧
      ∀ address ∈ addresses, addressRange blockCloudMetadata blockPrivateNetworks address ≠ none := by
  have none_left : (addresses.filter fun address =>
      (addressRange blockCloudMetadata blockPrivateNetworks address).isNone) = [] ↔
        ∀ address ∈ addresses, addressRange blockCloudMetadata blockPrivateNetworks address ≠ none := by
    rw [List.filter_eq_nil_iff]
    simp
  rw [← none_left]
  unfold allowedAddresses
  cases addresses with
  | nil => simp
  | cons first rest =>
    rw [List.head?_cons, Option.some_inj]
    dsimp only
    split
    · rename_i same kept
      cases same
      rw [kept]
      unfold assertIpAllowed
      have isBlocked := none_left.mp kept first (List.mem_cons_self ..)
      cases range : addressRange blockCloudMetadata blockPrivateNetworks first with
      | none => exact absurd range isBlocked
      | some blocked =>
        obtain ⟨matched, label⟩ := blocked
        constructor
        · rintro ⟨⟩
          exact ⟨rfl, range, rfl⟩
        · rintro ⟨rfl, same, -⟩
          cases range.symm.trans same
          rfl
    · rename_i left
      refine iff_of_false (fun same => by cases same) fun ⟨_, _, kept⟩ => ?_
      exact left first rest rfl kept

end Addresses

end LuxSwirl.Shared
