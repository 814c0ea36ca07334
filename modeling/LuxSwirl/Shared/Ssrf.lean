import LuxSwirl.Py.IpAddress
import Mathlib.Tactic.SplitIfs

/-!
# The SSRF ranges

`ssrf.py`: `blocked_range` judges one address, and the IPv4 address it carries, against
the blocked ranges. `network_cloud_metadata_overlap` judges a whole network by its
ends, and by the ends of each part of it that carries IPv4 addresses. The two agree
(`networkCloudMetadataOverlap_iff`): along such a part the address carried only grows,
and skips none.
-/

namespace LuxSwirl.Shared
open LuxSwirl.Py

/-- An IPv4 network by its four octets. -/
def octets (a b c d : Nat) : Nat := ((a * 256 + b) * 256 + c) * 256 + d

def cloudMetadataNetworks : List IpNetwork :=
  [⟨.v4, octets 169 254 0 0, 16, by decide, by decide, by decide⟩,
    ⟨.v6, 0xfe80 * 2 ^ 112, 10, by decide, by decide, by decide⟩,
    ⟨.v6, 0xfd000ec2 * 2 ^ 96 + 0x254, 128, by decide, by decide, by decide⟩,
    ⟨.v4, octets 100 100 100 200, 32, by decide, by decide, by decide⟩]

def privateNetworks : List IpNetwork :=
  [⟨.v4, octets 10 0 0 0, 8, by decide, by decide, by decide⟩,
    ⟨.v4, octets 172 16 0 0, 12, by decide, by decide, by decide⟩,
    ⟨.v4, octets 192 168 0 0, 16, by decide, by decide, by decide⟩,
    ⟨.v6, 0xfc00 * 2 ^ 112, 7, by decide, by decide, by decide⟩,
    ⟨.v4, octets 127 0 0 0, 8, by decide, by decide, by decide⟩,
    ⟨.v6, 1, 128, by decide, by decide, by decide⟩,
    ⟨.v4, octets 0 0 0 0, 8, by decide, by decide, by decide⟩,
    ⟨.v6, 0, 128, by decide, by decide, by decide⟩,
    ⟨.v4, octets 100 64 0 0, 10, by decide, by decide, by decide⟩]

def nat64 : IpNetwork := ⟨.v6, 0x64ff9b * 2 ^ 96, 96, by decide, by decide, by decide⟩

/-- The low 32 bits of a number, as an IPv4 address. -/
def lowIpv4 (n : Nat) : IpAddress := ⟨.v4, n % 2 ^ 32, Nat.mod_lt _ (by decide)⟩

/-- `ipv4_mapped` -/
def ipv4Mapped (ip : IpAddress) : Option IpAddress :=
  if ip.value / 2 ^ 32 = 0xffff then some (lowIpv4 ip.value) else none

def sixtofour (ip : IpAddress) : Option IpAddress :=
  if ip.value / 2 ^ 112 = 0x2002 then some (lowIpv4 (ip.value / 2 ^ 80)) else none

/-- The IPv4 address an IPv6 one carries. -/
def embeddedIpv4 (ip : IpAddress) : Option IpAddress :=
  match ip.version with
  | .v4 => none
  | .v6 =>
    match ipv4Mapped ip, sixtofour ip with
    | some mapped, _ => some mapped
    | none, some carried => some carried
    | none, none => if nat64.contains ip then some (lowIpv4 ip.value) else none

/-- The IPv6 networks whose addresses carry an IPv4 one. -/
def ipv4Carriers : List IpNetwork :=
  [⟨.v6, 0xffff * 2 ^ 32, 96, by decide, by decide, by decide⟩,
    ⟨.v6, 0x2002 * 2 ^ 112, 16, by decide, by decide, by decide⟩,
    nat64]

/-- The first address of the part of a network in a carrier, -/
def firstCarrying (network carrier : IpNetwork) : IpAddress :=
  if network.address ≤ carrier.address then carrier.networkAddress else network.networkAddress

/-- and the last one. -/
def lastCarrying (network carrier : IpNetwork) : IpAddress :=
  if network.broadcast ≤ carrier.broadcast then network.broadcastAddress else carrier.broadcastAddress

/-- The metadata range that the part of an IPv6 network in a carrier carries an
address of. -/
def carriedOverlap (network carrier : IpNetwork) : Option IpNetwork :=
  if !network.overlaps carrier then none
  else
    match embeddedIpv4 (firstCarrying network carrier), embeddedIpv4 (lastCarrying network carrier) with
    | some low, some high =>
      cloudMetadataNetworks.find? fun blocked =>
        decide (blocked.version = .v4 ∧ low.value ≤ blocked.broadcast ∧ blocked.address ≤ high.value)
    | _, _ => none

/-- The cloud-metadata range the network reaches. -/
def networkCloudMetadataOverlap (network : IpNetwork) : Option IpNetwork :=
  match cloudMetadataNetworks.find? fun blocked =>
      decide (network.version = blocked.version) && network.overlaps blocked with
  | some blocked => some blocked
  | none =>
    match network.version with
    | .v4 => none
    | .v6 => ipv4Carriers.findSome? (carriedOverlap network)

/-- The blocked range of the address a text reads as, and the range's label. -/
def blockedRange (parsed : Option IpAddress) (blockCloudMetadata : Bool := true)
    (blockPrivateNetworks : Bool := false) : Option (IpNetwork × String) :=
  match parsed with
  | none => none
  | some ip =>
    let candidates := ip :: (embeddedIpv4 ip).toList
    let ranges := (if blockCloudMetadata then [(cloudMetadataNetworks, "cloud metadata / link-local")] else []) ++
      if blockPrivateNetworks then [(privateNetworks, "private network")] else []
    ranges.findSome? fun (networks, label) =>
      (networks.find? fun network => candidates.any network.contains).map fun matched => (matched, label)

/-! ## Carriers -/

/-- The carrier's addresses carry all IPv4 addresses in order, each `2 ^ shift` times. -/
structure Carries (carrier : IpNetwork) (shift block : Nat) : Prop where
  isV6 : carrier.version = .v6
  address : carrier.address = 2 ^ 32 * block * 2 ^ shift
  size : carrier.numAddresses = 2 ^ 32 * 2 ^ shift
  embeds : ∀ ip, carrier.contains ip = true → embeddedIpv4 ip = some (lowIpv4 (ip.value / 2 ^ shift))

theorem ipv4Carriers_carry {carrier : IpNetwork} (mem : carrier ∈ ipv4Carriers) :
    ∃ shift block, Carries carrier shift block := by
  simp only [ipv4Carriers, List.mem_cons, List.not_mem_nil, or_false] at mem
  rcases mem with rfl | rfl | rfl
  · refine ⟨0, 0xffff, rfl, rfl, rfl, fun ip isIn => ?_⟩
    obtain ⟨isV6, start, stop⟩ := IpNetwork.contains_iff.mp isIn
    have isMapped : ip.value / 2 ^ 32 = 0xffff := by
      simp only [IpNetwork.broadcast, IpNetwork.numAddresses, IpVersion.width] at start stop
      omega
    rw [embeddedIpv4, ← isV6, ipv4Mapped, if_pos isMapped, Nat.pow_zero, Nat.div_one]
  · refine ⟨80, 0x2002, rfl, rfl, rfl, fun ip isIn => ?_⟩
    obtain ⟨isV6, start, stop⟩ := IpNetwork.contains_iff.mp isIn
    simp only [IpNetwork.broadcast, IpNetwork.numAddresses, IpVersion.width] at start stop
    have notMapped : ¬ip.value / 2 ^ 32 = 0xffff := by omega
    have isSixtofour : ip.value / 2 ^ 112 = 0x2002 := by omega
    rw [embeddedIpv4, ← isV6, ipv4Mapped, if_neg notMapped, sixtofour, if_pos isSixtofour]
  · refine ⟨0, 0x64ff9b * 2 ^ 64, rfl, rfl, rfl, fun ip isIn => ?_⟩
    obtain ⟨isV6, start, stop⟩ := IpNetwork.contains_iff.mp isIn
    simp only [nat64, IpNetwork.broadcast, IpNetwork.numAddresses, IpVersion.width] at start stop
    have notMapped : ¬ip.value / 2 ^ 32 = 0xffff := by omega
    have notSixtofour : ¬ip.value / 2 ^ 112 = 0x2002 := by omega
    have version : ip.version = .v6 := isV6.symm
    rw [embeddedIpv4, version, ipv4Mapped, if_neg notMapped, sixtofour, if_neg notSixtofour, Nat.pow_zero, Nat.div_one]
    exact if_pos isIn

/-- An address that carries one is in a carrier. -/
theorem mem_carrier_of_embedded {ip carried : IpAddress} (embeds : embeddedIpv4 ip = some carried) :
    ∃ carrier ∈ ipv4Carriers, carrier.contains ip = true := by
  unfold embeddedIpv4 at embeds
  split at embeds
  · cases embeds
  · rename_i isV6
    simp only [ipv4Carriers, List.mem_cons, List.not_mem_nil, or_false, exists_eq_or_imp, exists_eq_left]
    by_cases isMapped : ip.value / 2 ^ 32 = 0xffff
    · refine .inl (IpNetwork.contains_iff.mpr ⟨isV6.symm, ?_⟩)
      simp only [IpNetwork.broadcast, IpNetwork.numAddresses, IpVersion.width]
      omega
    · by_cases isSixtofour : ip.value / 2 ^ 112 = 0x2002
      · refine .inr (.inl (IpNetwork.contains_iff.mpr ⟨isV6.symm, ?_⟩))
        simp only [IpNetwork.broadcast, IpNetwork.numAddresses, IpVersion.width]
        omega
      · rw [ipv4Mapped, if_neg isMapped, sixtofour, if_neg isSixtofour] at embeds
        exact .inr (.inr (Option.ite_none_right_eq_some.mp embeds).1)

section Carried

variable {network carrier : IpNetwork} {shift block : Nat}

/-- The carried address, within the carrier's blocks. -/
theorem Carries.value_carried (carries : Carries carrier shift block) {ip : IpAddress}
    (isIn : carrier.contains ip = true) : (lowIpv4 (ip.value / 2 ^ shift)).value + 2 ^ 32 * block = ip.value / 2 ^ shift := by
  obtain ⟨-, start, stop⟩ := IpNetwork.contains_iff.mp isIn
  have size := carrier.numAddresses_pos
  rw [IpNetwork.broadcast] at stop
  rw [carries.address] at start stop
  rw [carries.size] at stop size
  have positive : 0 < 2 ^ shift := Nat.pow_pos (by decide)
  have from_ : 2 ^ 32 * block ≤ ip.value / 2 ^ shift := (Nat.le_div_iff_mul_le positive).mpr start
  have below : ip.value / 2 ^ shift < 2 ^ 32 * block + 2 ^ 32 :=
    (Nat.div_lt_iff_lt_mul positive).mpr (by rw [Nat.add_mul]; omega)
  change ip.value / 2 ^ shift % 2 ^ 32 + 2 ^ 32 * block = ip.value / 2 ^ shift
  omega

/-- From the first address of a part to its last, all the addresses between those
they carry are carried. -/
theorem Carries.exists_carried (carries : Carries carrier shift block) {first last : IpAddress}
    (firstIn : carrier.contains first = true) (lastIn : carrier.contains last = true) {value : Nat}
    (ge : (lowIpv4 (first.value / 2 ^ shift)).value ≤ value)
    (le : value ≤ (lowIpv4 (last.value / 2 ^ shift)).value) (ordered : first.value ≤ last.value) :
    ∃ ip, carrier.contains ip = true ∧ first.value ≤ ip.value ∧ ip.value ≤ last.value ∧
      (lowIpv4 (ip.value / 2 ^ shift)).value = value := by
  obtain ⟨isV6, start, stop⟩ := IpNetwork.contains_iff.mp firstIn
  obtain ⟨lastV6, lastStart, lastStop⟩ := IpNetwork.contains_iff.mp lastIn
  have firstValue := carries.value_carried firstIn
  have lastValue := carries.value_carried lastIn
  have positive : 0 < 2 ^ shift := Nat.pow_pos (by decide)
  rcases Nat.eq_or_lt_of_le ge with same | later
  · exact ⟨first, firstIn, le_rfl, ordered, same⟩
  · -- the first address that carries `value`
    have afterFirst : first.value < (2 ^ 32 * block + value) * 2 ^ shift :=
      (Nat.div_lt_iff_lt_mul positive).mp (by omega)
    have upToLast : (2 ^ 32 * block + value) * 2 ^ shift ≤ last.value :=
      (Nat.le_div_iff_mul_le positive).mp (by omega)
    have isIn : carrier.contains ⟨last.version, _, upToLast.trans_lt last.fits⟩ = true :=
      IpNetwork.contains_iff.mpr ⟨lastV6, start.trans afterFirst.le, upToLast.trans lastStop⟩
    refine ⟨⟨last.version, _, upToLast.trans_lt last.fits⟩, isIn, afterFirst.le, upToLast, ?_⟩
    have carried := carries.value_carried isIn
    rw [Nat.mul_div_cancel _ positive] at carried ⊢
    omega

/-- The part of a network in a carrier, by its ends. -/
theorem contains_both_iff (same : network.version = carrier.version) {ip : IpAddress} :
    network.contains ip = true ∧ carrier.contains ip = true ↔
      network.version = ip.version ∧ (firstCarrying network carrier).value ≤ ip.value ∧
        ip.value ≤ (lastCarrying network carrier).value := by
  rw [IpNetwork.contains_iff, IpNetwork.contains_iff, ← same, firstCarrying, lastCarrying]
  split_ifs with starts stops stops
  all_goals
    simp only [IpNetwork.networkAddress, IpNetwork.broadcastAddress]
    constructor
    · rintro ⟨⟨isVersion, start, stop⟩, -, carrierStart, carrierStop⟩
      exact ⟨isVersion, by omega, by omega⟩
    · rintro ⟨isVersion, start, stop⟩
      exact ⟨⟨isVersion, by omega, by omega⟩, isVersion, by omega, by omega⟩

theorem version_firstCarrying (same : network.version = carrier.version) :
    (firstCarrying network carrier).version = network.version := by
  rw [firstCarrying]
  split_ifs
  · exact same.symm
  · rfl

theorem version_lastCarrying (same : network.version = carrier.version) :
    (lastCarrying network carrier).version = network.version := by
  rw [lastCarrying]
  split_ifs
  · rfl
  · exact same.symm

/-- A part reaches a metadata range when one of its addresses carries one of it. -/
theorem Carries.carriedOverlap_isSome_iff (carries : Carries carrier shift block) (isV6 : network.version = .v6) :
    (carriedOverlap network carrier).isSome = true ↔
      ∃ ip, (network.contains ip = true ∧ carrier.contains ip = true) ∧
        ∃ carried, embeddedIpv4 ip = some carried ∧
          ∃ blocked ∈ cloudMetadataNetworks, blocked.contains carried = true := by
  have same : network.version = carrier.version := isV6.trans carries.isV6.symm
  rw [carriedOverlap]
  by_cases overlaps : network.overlaps carrier = true
  · obtain ⟨shared, isShared⟩ := IpNetwork.overlaps_iff.mp overlaps
    obtain ⟨-, start, stop⟩ := (contains_both_iff same).mp isShared
    have ordered := start.trans stop
    have firstIn := ((contains_both_iff same).mpr
      ⟨(version_firstCarrying same).symm, le_rfl, ordered⟩).2
    have lastIn := ((contains_both_iff same).mpr ⟨(version_lastCarrying same).symm, ordered, le_rfl⟩).2
    rw [if_neg (by simpa using overlaps), carries.embeds _ firstIn, carries.embeds _ lastIn]
    dsimp only
    simp only [List.find?_isSome, decide_eq_true_eq]
    constructor
    · rintro ⟨blocked, mem, isV4, lowIn, highIn⟩
      have ends : blocked.address ≤ blocked.broadcast := Nat.le_add_right _ _
      have grows : (lowIpv4 ((firstCarrying network carrier).value / 2 ^ shift)).value ≤
          (lowIpv4 ((lastCarrying network carrier).value / 2 ^ shift)).value := by
        have firstValue := carries.value_carried firstIn
        have lastValue := carries.value_carried lastIn
        have le := Nat.div_le_div_right (c := 2 ^ shift) ordered
        omega
      -- the first of the range that is carried from the first address on
      obtain ⟨ip, isIn, from_, upTo, value⟩ := carries.exists_carried firstIn lastIn
        (le_max_left _ blocked.address) (max_le grows highIn) ordered
      have isVersion : network.version = ip.version := same.trans (IpNetwork.contains_iff.mp isIn).1
      refine ⟨ip, (contains_both_iff same).mpr ⟨isVersion, from_, upTo⟩, _, carries.embeds ip isIn, blocked, mem,
        IpNetwork.contains_iff.mpr ⟨isV4, ?_, ?_⟩⟩
      · rw [value]
        exact le_max_right _ _
      · rw [value]
        exact max_le lowIn ends
    · rintro ⟨ip, isBoth, carried, embeds, blocked, mem, isIn⟩
      obtain ⟨-, from_, upTo⟩ := (contains_both_iff same).mp isBoth
      cases (carries.embeds ip isBoth.2).symm.trans embeds
      obtain ⟨isV4, start, stop⟩ := IpNetwork.contains_iff.mp isIn
      have firstValue := carries.value_carried firstIn
      have lastValue := carries.value_carried lastIn
      have value := carries.value_carried isBoth.2
      have afterFirst := Nat.div_le_div_right (c := 2 ^ shift) from_
      have upToLast := Nat.div_le_div_right (c := 2 ^ shift) upTo
      exact ⟨blocked, mem, isV4, by omega, by omega⟩
  · rw [if_pos (by simpa using overlaps)]
    refine ⟨fun isSome => absurd isSome (by decide), ?_⟩
    rintro ⟨ip, isBoth, -⟩
    exact absurd (IpNetwork.overlaps_iff.mpr ⟨ip, isBoth⟩) overlaps

end Carried

/-! ## Agreement -/

/-- What `blocked_range` refuses as cloud metadata: an address of a metadata range, or
one that carries such an address. -/
theorem blockedRange_isSome_iff {ip : IpAddress} :
    (blockedRange (some ip) true false).isSome = true ↔
      ∃ blocked ∈ cloudMetadataNetworks, blocked.contains ip = true ∨
        ∃ carried, embeddedIpv4 ip = some carried ∧ blocked.contains carried = true := by
  rw [blockedRange, if_pos rfl, if_neg Bool.false_ne_true, List.append_nil, List.findSome?_singleton,
    Option.isSome_map, List.find?_isSome]
  refine exists_congr fun blocked => and_congr_right fun _ => ?_
  rw [List.any_cons, Bool.or_eq_true, List.any_eq_true]
  refine or_congr_right (exists_congr fun carried => and_congr_left fun _ => ?_)
  rw [Option.mem_toList]

/-- An IPv4 address carries none. -/
theorem embeddedIpv4_of_v4 {ip : IpAddress} (isV4 : ip.version = .v4) : embeddedIpv4 ip = none := by
  rw [embeddedIpv4, isV4]

/-- The part of an IPv6 network that reaches a metadata range through an address carried. -/
theorem findSome_carriedOverlap_isSome_iff {network : IpNetwork} (isV6 : network.version = .v6) :
    (ipv4Carriers.findSome? (carriedOverlap network)).isSome = true ↔
      ∃ ip, network.contains ip = true ∧ ∃ carried, embeddedIpv4 ip = some carried ∧
        ∃ blocked ∈ cloudMetadataNetworks, blocked.contains carried = true := by
  rw [List.findSome?_isSome_iff]
  constructor
  · rintro ⟨carrier, mem, isSome⟩
    obtain ⟨shift, block, carries⟩ := ipv4Carriers_carry mem
    obtain ⟨ip, ⟨isIn, -⟩, reaches⟩ := (carries.carriedOverlap_isSome_iff isV6).mp isSome
    exact ⟨ip, isIn, reaches⟩
  · rintro ⟨ip, isIn, carried, embeds, reaches⟩
    obtain ⟨carrier, mem, isCarrier⟩ := mem_carrier_of_embedded embeds
    obtain ⟨shift, block, carries⟩ := ipv4Carriers_carry mem
    exact ⟨carrier, mem, (carries.carriedOverlap_isSome_iff isV6).mpr ⟨ip, ⟨isIn, isCarrier⟩, carried, embeds, reaches⟩⟩

/-- A network reaches a metadata range by an address of its own. -/
theorem find_overlaps_isSome_iff {network : IpNetwork} :
    (cloudMetadataNetworks.find? fun blocked =>
      decide (network.version = blocked.version) && network.overlaps blocked).isSome = true ↔
      ∃ ip, network.contains ip = true ∧ ∃ blocked ∈ cloudMetadataNetworks, blocked.contains ip = true := by
  rw [List.find?_isSome]
  constructor
  · rintro ⟨blocked, mem, isMatch⟩
    obtain ⟨-, overlaps⟩ := Bool.and_eq_true_iff.mp isMatch
    obtain ⟨ip, isIn, isBlocked⟩ := IpNetwork.overlaps_iff.mp overlaps
    exact ⟨ip, isIn, blocked, mem, isBlocked⟩
  · rintro ⟨ip, isIn, blocked, mem, isBlocked⟩
    have same : network.version = blocked.version :=
      (IpNetwork.contains_iff.mp isIn).1.trans (IpNetwork.contains_iff.mp isBlocked).1.symm
    exact ⟨blocked, mem, Bool.and_eq_true_iff.mpr
      ⟨decide_eq_true same, IpNetwork.overlaps_iff.mpr ⟨ip, isIn, isBlocked⟩⟩⟩

/-- **The two checks agree.** A network is refused exactly when one of its addresses
is. -/
theorem networkCloudMetadataOverlap_iff (network : IpNetwork) :
    (networkCloudMetadataOverlap network).isSome = true ↔
      ∃ ip, network.contains ip = true ∧ (blockedRange (some ip) true false).isSome = true := by
  have reaches : (∃ ip, network.contains ip = true ∧ (blockedRange (some ip) true false).isSome = true) ↔
      (∃ ip, network.contains ip = true ∧ ∃ blocked ∈ cloudMetadataNetworks, blocked.contains ip = true) ∨
      ∃ ip, network.contains ip = true ∧ ∃ carried, embeddedIpv4 ip = some carried ∧
        ∃ blocked ∈ cloudMetadataNetworks, blocked.contains carried = true := by
    simp only [blockedRange_isSome_iff]
    grind
  rw [reaches, ← find_overlaps_isSome_iff, networkCloudMetadataOverlap]
  split
  · rename_i blocked found
    rw [found]
    exact ⟨fun _ => .inl rfl, fun _ => rfl⟩
  · rename_i free
    rw [free]
    cases isVersion : network.version with
    | v4 =>
      refine ⟨fun isSome => absurd isSome Bool.false_ne_true, ?_⟩
      rintro (isSome | ⟨ip, isIn, carried, embeds, -⟩)
      · exact absurd isSome Bool.false_ne_true
      · have isV4 : ip.version = .v4 := (IpNetwork.contains_iff.mp isIn).1.symm.trans isVersion
        rw [embeddedIpv4_of_v4 isV4] at embeds
        cases embeds
    | v6 =>
      rw [← findSome_carriedOverlap_isSome_iff isVersion]
      exact ⟨.inr, fun either => either.resolve_left Bool.false_ne_true⟩

end LuxSwirl.Shared
