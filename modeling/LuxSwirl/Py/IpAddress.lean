import Mathlib.Data.List.OfFn
import Mathlib.Tactic.Ring

/-!
# Python's `ipaddress`

Addresses and networks of either version, by their numbers. A network is an aligned
block of addresses; an address is in it when it has the network's address once its
host bits are cleared, which is when it lies between the first and the last address
of the block (`IpNetwork.contains_iff`).
-/

namespace LuxSwirl.Py

inductive IpVersion where
  | v4
  | v6
  deriving DecidableEq

/-- `max_prefixlen` -/
def IpVersion.width : IpVersion → Nat
  | .v4 => 32
  | .v6 => 128

structure IpAddress where
  version : IpVersion
  value : Nat
  fits : value < 2 ^ version.width
  deriving DecidableEq

structure IpNetwork where
  version : IpVersion
  address : Nat
  prefixlen : Nat
  prefixlen_le : prefixlen ≤ version.width
  aligned : 2 ^ (version.width - prefixlen) ∣ address
  fits : address < 2 ^ version.width
  deriving DecidableEq

namespace IpNetwork

variable {network other : IpNetwork} {ip : IpAddress}

def numAddresses (network : IpNetwork) : Nat := 2 ^ (network.version.width - network.prefixlen)

/-- `broadcast_address` -/
def broadcast (network : IpNetwork) : Nat := network.address + (network.numAddresses - 1)

theorem numAddresses_pos (network : IpNetwork) : 0 < network.numAddresses := Nat.pow_pos (by decide)

/-- The block ends where the addresses do, at the latest. -/
theorem end_le (network : IpNetwork) : network.address + network.numAddresses ≤ 2 ^ network.version.width := by
  obtain ⟨blocks, isAddress⟩ := network.aligned
  have whole : 2 ^ network.version.width = network.numAddresses * 2 ^ network.prefixlen := by
    rw [numAddresses, ← Nat.pow_add, Nat.sub_add_cancel network.prefixlen_le]
  have below : network.numAddresses * blocks < network.numAddresses * 2 ^ network.prefixlen := by
    rw [← whole, numAddresses, ← isAddress]
    exact network.fits
  have isBlock : blocks + 1 ≤ 2 ^ network.prefixlen := Nat.lt_of_mul_lt_mul_left below
  calc network.address + network.numAddresses
      = network.numAddresses * (blocks + 1) := by rw [isAddress, Nat.mul_succ, numAddresses]
    _ ≤ network.numAddresses * 2 ^ network.prefixlen := Nat.mul_le_mul_left _ isBlock
    _ = 2 ^ network.version.width := whole.symm

theorem broadcast_lt (network : IpNetwork) : network.broadcast < 2 ^ network.version.width := by
  have ends := network.end_le
  have some := network.numAddresses_pos
  rw [broadcast]
  omega

/-- `network_address` -/
def networkAddress (network : IpNetwork) : IpAddress := ⟨network.version, network.address, network.fits⟩

def broadcastAddress (network : IpNetwork) : IpAddress := ⟨network.version, network.broadcast, network.broadcast_lt⟩

/-- `ip in network` -/
def contains (network : IpNetwork) (ip : IpAddress) : Bool :=
  decide (network.version = ip.version ∧ ip.value - ip.value % network.numAddresses = network.address)

theorem contains_iff : network.contains ip = true ↔
    network.version = ip.version ∧ network.address ≤ ip.value ∧ ip.value ≤ network.broadcast := by
  rw [contains, decide_eq_true_eq, broadcast]
  refine and_congr_right fun _ => ?_
  have some := network.numAddresses_pos
  obtain ⟨blocks, isAddress⟩ := network.aligned
  change network.address = network.numAddresses * blocks at isAddress
  have split := Nat.div_add_mod ip.value network.numAddresses
  have rest := Nat.mod_lt ip.value some
  have cleared : ip.value - ip.value % network.numAddresses =
      network.numAddresses * (ip.value / network.numAddresses) := by omega
  rw [cleared, isAddress, Nat.mul_right_inj (by omega)]
  refine ⟨fun same => ?_, fun ⟨from_, upTo⟩ => ?_⟩
  · rw [same] at split
    omega
  · exact Nat.div_eq_of_lt_le (by rwa [Nat.mul_comm]) (by rw [Nat.add_mul, Nat.one_mul, Nat.mul_comm]; omega)

/-- `network.overlaps(other)` -/
def overlaps (network other : IpNetwork) : Bool :=
  network.contains other.networkAddress || network.contains other.broadcastAddress ||
    other.contains network.networkAddress || other.contains network.broadcastAddress

/-- Networks overlap when an address is in both. -/
theorem overlaps_iff : network.overlaps other = true ↔ ∃ ip, network.contains ip = true ∧ other.contains ip = true := by
  have here := network.numAddresses_pos
  have there := other.numAddresses_pos
  simp only [overlaps, Bool.or_eq_true, contains_iff, networkAddress, broadcastAddress]
  constructor
  · rintro (((isIn | isIn) | isIn) | isIn)
    · exact ⟨other.networkAddress, isIn, rfl, le_rfl, Nat.le_add_right _ _⟩
    · exact ⟨other.broadcastAddress, isIn, rfl, Nat.le_add_right _ _, le_rfl⟩
    · exact ⟨network.networkAddress, ⟨rfl, le_rfl, Nat.le_add_right _ _⟩, isIn⟩
    · exact ⟨network.broadcastAddress, ⟨rfl, Nat.le_add_right _ _, le_rfl⟩, isIn⟩
  · rintro ⟨ip, ⟨isVersion, start, stop⟩, ⟨otherVersion, otherStart, otherStop⟩⟩
    have same : network.version = other.version := isVersion.trans otherVersion.symm
    rcases le_total network.address other.address with le | le
    · exact .inl (.inl (.inl ⟨same, le, otherStart.trans stop⟩))
    · exact .inl (.inr ⟨same.symm, le, start.trans otherStop⟩)

/-- `network.hosts()`: all addresses of a block of two or one, else those between the
first and the last, an IPv6 network's last among them. -/
def hosts (network : IpNetwork) : List Nat :=
  if network.version.width ≤ network.prefixlen + 1 then List.range' network.address network.numAddresses
  else
    match network.version with
    | .v4 => List.range' (network.address + 1) (network.numAddresses - 2)
    | .v6 => List.range' (network.address + 1) (network.numAddresses - 1)

/-- `network.subnets(new_prefix=newPrefix)` -/
def subnets (network : IpNetwork) (newPrefix : Nat) (le : network.prefixlen ≤ newPrefix)
    (le_width : newPrefix ≤ network.version.width) : List IpNetwork :=
  List.ofFn fun block : Fin (2 ^ (newPrefix - network.prefixlen)) =>
    { version := network.version
      address := network.address + 2 ^ (network.version.width - newPrefix) * block
      prefixlen := newPrefix
      prefixlen_le := le_width
      aligned := Nat.dvd_add (Nat.dvd_trans (Nat.pow_dvd_pow 2 (Nat.sub_le_sub_left le _)) network.aligned)
        (Nat.dvd_mul_right _ _)
      fits := by
        have inside := (Nat.mul_lt_mul_left (Nat.pow_pos (n := network.version.width - newPrefix) Nat.two_pos)).mpr
          block.isLt
        rw [← Nat.pow_add, Nat.sub_add_sub_cancel le_width le] at inside
        have ends := network.end_le
        rw [numAddresses] at ends
        omega }

theorem mem_subnets {newPrefix : Nat} {le : network.prefixlen ≤ newPrefix}
    {le_width : newPrefix ≤ network.version.width} {subnet : IpNetwork}
    (mem : subnet ∈ network.subnets newPrefix le le_width) :
    subnet.version = network.version ∧ subnet.prefixlen = newPrefix ∧
      ∃ block < 2 ^ (newPrefix - network.prefixlen),
        subnet.address = network.address + 2 ^ (network.version.width - newPrefix) * block := by
  obtain ⟨block, rfl⟩ := (List.mem_ofFn' _ _).mp mem
  exact ⟨rfl, rfl, block, block.isLt, rfl⟩

end IpNetwork

end LuxSwirl.Py
