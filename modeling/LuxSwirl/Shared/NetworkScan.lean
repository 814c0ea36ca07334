import LuxSwirl.Shared.Ssrf

/-!
# The network scan

`network_scan.py`: a scan probes the hosts of its subnet, directly or in /24 chunks,
and counts them. A chunk is a network of its own, so its first and its last address
are probed by no chunk, although most of them are hosts of the subnet.

What the scans of the hosts find is a parameter. They run concurrently, and what they
found is sorted by address afterwards, which is the order it is listed in here.
-/

namespace LuxSwirl.Shared
open LuxSwirl.Py

def maxScanAddresses : Nat := 65536

/-- The networks `validate_subnet` accepts. -/
def validateSubnet (network : IpNetwork) : Bool :=
  decide (network.numAddresses ≤ maxScanAddresses) && (networkCloudMetadataOverlap network).isNone

structure ChunkMetrics where
  subnet : IpNetwork
  hostsScanned : Nat
  hostsFound : Nat

/-- The addresses given to `_scan_single_host`, and the result of the job. -/
structure ScanResult (Host : Type) where
  probed : List Nat
  discoveredHosts : List Host
  hostsScanned : Nat
  hostsResponding : Nat
  subnet : IpNetwork
  chunkMetrics : List ChunkMetrics := []

section Code

variable {Host : Type} (scanSingleHost : Nat → Option Host)

/-- `scan_chunk`: what it found, and its metrics. -/
def scanChunk (chunk : IpNetwork) : List Host × ChunkMetrics :=
  let hosts := chunk.hosts
  let found := hosts.filterMap scanSingleHost
  (found, { subnet := chunk, hostsScanned := hosts.length, hostsFound := found.length })

theorem width_ge (version : IpVersion) : 24 ≤ version.width := by
  cases version <;> decide

/-- `execute`, for the network its subnet parses as; none for a `ValueError`. -/
def execute (network : IpNetwork) : Option (ScanResult Host) :=
  if !validateSubnet network then none
  else
    if large : network.prefixlen < 24 ∧ 256 < network.numAddresses then
      let chunks := network.subnets 24 large.1.le (width_ge network.version)
      let results := chunks.map (scanChunk scanSingleHost)
      let discovered := results.flatMap (·.1)
      some
        { probed := chunks.flatMap IpNetwork.hosts
          discoveredHosts := discovered
          hostsScanned := network.numAddresses - 2
          hostsResponding := discovered.length
          subnet := network
          chunkMetrics := results.map (·.2) }
    else
      let hosts := network.hosts
      let discovered := hosts.filterMap scanSingleHost
      some
        { probed := hosts
          discoveredHosts := discovered
          hostsScanned := hosts.length
          hostsResponding := discovered.length
          subnet := network }

end Code

/-- The scan probes the usable hosts of the subnet, each once, and counts them. -/
def ScanResult.Exact {Host : Type} (network : IpNetwork) (result : ScanResult Host) : Prop :=
  result.probed.Perm network.hosts ∧ result.hostsScanned = network.hosts.length

section Results

variable {Host : Type} {scanSingleHost : Nat → Option Host} {network : IpNetwork} {result : ScanResult Host}

/-- What a scan reports is what its probes found. -/
theorem discovered_probed (ran : execute scanSingleHost network = some result) :
    result.discoveredHosts = result.probed.filterMap scanSingleHost ∧
      result.hostsResponding = result.discoveredHosts.length := by
  unfold execute at ran
  split_ifs at ran
  · cases ran
    refine ⟨?_, rfl⟩
    simp only [List.flatMap_map, scanChunk, List.filterMap_flatMap]
  · cases ran
    exact ⟨rfl, rfl⟩

/-- The hosts of an IPv4 network of more than two addresses lie between its ends. -/
theorem mem_hosts_iff (isV4 : network.version = .v4) (large : network.prefixlen < 31) {host : Nat} :
    host ∈ network.hosts ↔ network.address < host ∧ host < network.broadcast := by
  have size : 4 ≤ network.numAddresses := by
    rw [IpNetwork.numAddresses, isV4]
    calc 4 = 2 ^ 2 := rfl
      _ ≤ 2 ^ (IpVersion.v4.width - network.prefixlen) := Nat.pow_le_pow_right (by decide) (by
        rw [IpVersion.width]; omega)
  rw [IpNetwork.hosts, if_neg (by rw [isV4, IpVersion.width]; omega), isV4, IpNetwork.broadcast]
  dsimp only
  rw [List.mem_range'_1]
  omega

/-- A chunk's last address is probed by none of the chunks. -/
theorem not_mem_chunk_hosts (isV4 : network.version = .v4) (large : network.prefixlen < 24) {block : Nat} :
    network.address + 256 * block + 255 ∉
      (network.subnets 24 large.le (width_ge network.version)).flatMap IpNetwork.hosts := by
  rintro mem
  obtain ⟨chunk, isChunk, isHost⟩ := List.mem_flatMap.mp mem
  obtain ⟨sameVersion, isPrefix, other, -, isAddress⟩ := IpNetwork.mem_subnets isChunk
  have chunkV4 : chunk.version = .v4 := sameVersion.trans isV4
  have size : chunk.numAddresses = 256 := by
    rw [IpNetwork.numAddresses, chunkV4, isPrefix]
    rfl
  rw [mem_hosts_iff chunkV4 (by omega), IpNetwork.broadcast, size, isAddress, isV4] at isHost
  simp only [IpVersion.width] at isHost
  omega

/-- **Direct scans are exact, and chunked ones never are.** An accepted IPv4 subnet is
scanned host by host exactly when it is at most a /24. -/
theorem execute_exact_iff (scanSingleHost : Nat → Option Host) (network : IpNetwork) (isV4 : network.version = .v4)
    (accepted : validateSubnet network = true) :
    (∃ result, execute scanSingleHost network = some result ∧ result.Exact network) ↔ 24 ≤ network.prefixlen := by
  rw [execute, if_neg (by rw [accepted]; decide)]
  rcases Nat.lt_or_ge network.prefixlen 24 with large | small
  · have size : 512 ≤ network.numAddresses := by
      rw [IpNetwork.numAddresses, isV4]
      calc 512 = 2 ^ 9 := rfl
        _ ≤ 2 ^ (IpVersion.v4.width - network.prefixlen) := Nat.pow_le_pow_right (by decide) (by
          rw [IpVersion.width]; omega)
    rw [dif_pos ⟨large, by omega⟩]
    refine ⟨?_, fun small => absurd large (by omega)⟩
    rintro ⟨result, isResult, probed, -⟩
    cases isResult
    -- the last address of the first chunk
    have isHost : network.address + 256 * 0 + 255 ∈ network.hosts := by
      rw [mem_hosts_iff isV4 (by omega), IpNetwork.broadcast]
      omega
    have isProbed := probed.mem_iff.mpr isHost
    exact (@not_mem_chunk_hosts network isV4 large 0 isProbed).elim
  · rw [dif_neg (by omega)]
    exact ⟨fun _ => small, fun _ => ⟨_, rfl, List.Perm.refl _, rfl⟩⟩

end Results

/-- 192.168.1.0/24. -/
def officeNetwork : IpNetwork := ⟨.v4, octets 192 168 1 0, 24, by decide, by decide, by decide⟩

theorem execute_office_exact :
    (∃ result, execute (fun ip => some ip) officeNetwork = some result ∧ result.Exact officeNetwork) ↔ 24 ≤ 24 :=
  execute_exact_iff (fun ip => some ip) officeNetwork rfl (by decide +kernel)

/-- 192.168.0.0/23. -/
def wideNetwork : IpNetwork :=
  ⟨.v4, octets 192 168 0 0, 23, by decide, by decide, (by decide : octets 192 168 0 0 < 2 ^ 32)⟩

/-- Of 510 hosts 508 are probed, and 192.168.0.255 is not. -/
theorem wide_scan_misses :
    validateSubnet wideNetwork = true ∧ wideNetwork.hosts.length = 510 ∧
      octets 192 168 0 255 ∈ wideNetwork.hosts ∧
      ((execute (fun ip => some ip) wideNetwork).map fun result =>
        (result.hostsScanned, result.probed.length, decide (octets 192 168 0 255 ∈ result.probed))) =
          some (510, 508, false) ∧
      ¬∃ result, execute (fun ip => some ip) wideNetwork = some result ∧ result.Exact wideNetwork := by
  have scanned : ((execute (fun ip => some ip) wideNetwork).map fun result =>
      (result.hostsScanned, result.probed.length, decide (octets 192 168 0 255 ∈ result.probed))) =
        some (510, 508, false) := by decide +kernel
  have isHost : octets 192 168 0 255 ∈ wideNetwork.hosts := by decide +kernel
  refine ⟨by decide +kernel, by decide +kernel, isHost, scanned, ?_⟩
  rintro ⟨result, ran, probed, -⟩
  rw [ran, Option.map_some, Option.some.injEq, Prod.mk.injEq, Prod.mk.injEq] at scanned
  exact of_decide_eq_false scanned.2.2 (probed.mem_iff.mpr isHost)

end LuxSwirl.Shared
