import LuxSwirl.Lib.Positional
import LuxSwirl.Py.Decimal
import LuxSwirl.Py.IpAddress
import LuxSwirl.Py.Uuid
import Mathlib.Data.Nat.Digits.Defs

/-!
# Addresses as text

`ipaddress.ip_address` and `str` of what it gives. Version 4 is four octets between
dots. Version 6 is eight hextets between colons, of which `::` leaves out as many zeros
as are missing; the last two may be written as an address of version 4, and a scope may
follow a `%`. `str` leaves out the longest run of two zeros or more, and writes an
address of version 4 that is mapped into version 6 with dots.
-/

namespace LuxSwirl.Py
open LuxSwirl.Lib

namespace IpText

/-! ## Version 4 -/

/-- The number of `IPv4Address(s)`. -/
def ipv4Value (s : Text) : Option Nat :=
  let octets := s.splitOn (.scalar '.')
  if octets.length = 4 then (octets.mapM octetOf).map (Positional.value 256) else none

def ipv4Text (n : Nat) : Text := join [.scalar '.'] ((Positional.places 256 4 n).map strOfNat)

/-! ## Version 6 -/

/-- `'%x' % n` -/
def hexText (n : Nat) : Text :=
  if n = 0 then [.scalar '0'] else (Nat.digits 16 n).reverse.map fun digit => Uuid.hexDigit (Uuid.lastDigit digit)

/-- `_parse_hextet` -/
def readHextet (s : Text) : Option Nat :=
  if s = [] ∨ 4 < s.length then none
  else (Uuid.readDigits s).map fun digits => Positional.value 16 (digits.map Fin.val)

/-- The parts with an address of version 4 at their end as two hextets. -/
def embedIpv4 (parts : List Text) : Option (List Text) :=
  match parts.getLast? with
  | some last =>
    if .scalar '.' ∈ last then
      (ipv4Value last).map fun n => parts.dropLast ++ [hexText (n / 65536), hexText (n % 65536)]
    else some parts
  | none => some parts

def isPart (part : Text) : Bool := decide (part ≠ [])

/-- The hextets of the parts between colons. An empty part among the inner ones leaves
zeros out, and only beside it may the first or the last part be empty. -/
def readParts (first : Text) (inner : List Text) (last : Text) : Option (List Nat) :=
  match inner.dropWhile isPart with
  | [] =>
    if first = [] ∨ last = [] ∨ inner.length ≠ 6 then none else (first :: inner ++ [last]).mapM readHextet
  | _ :: low =>
    let high := inner.takeWhile isPart
    if [] ∈ low ∨ (first = [] ∧ high ≠ []) ∨ (last = [] ∧ low ≠ []) then none
    else
      let high := if first = [] then [] else first :: high
      let low := if last = [] then [] else low ++ [last]
      if 7 < high.length + low.length then none
      else
        (high.mapM readHextet).bind fun high => (low.mapM readHextet).map fun low =>
          high ++ List.replicate (8 - (high.length + low.length)) 0 ++ low

/-- The number of `IPv6Address(s)` without a scope. -/
def ipv6Value (s : Text) : Option Nat :=
  let parts := s.splitOn (.scalar ':')
  if parts.length < 3 then none
  else
    (embedIpv4 parts).bind fun parts =>
      if 9 < parts.length then none
      else (readParts (parts.headD []) parts.tail.dropLast (parts.getLastD [])).map (Positional.value 65536)

/-- The longest run of zeros so far and the one that ends here, each by its start and
its length. -/
structure ZeroRuns where
  bestStart : Nat := 0
  bestLength : Nat := 0
  start : Nat := 0
  length : Nat := 0

/-- The run that ends here with a zero more. -/
def ZeroRuns.extend (runs : ZeroRuns) (index : Nat) : ZeroRuns :=
  { runs with start := if runs.length = 0 then index else runs.start, length := runs.length + 1 }

def ZeroRuns.keepBest (runs : ZeroRuns) : ZeroRuns :=
  if runs.bestLength < runs.length then { runs with bestStart := runs.start, bestLength := runs.length } else runs

def ZeroRuns.step (runs : ZeroRuns) (index : Nat) (hextet : Text) : ZeroRuns :=
  if hextet = [.scalar '0'] then (runs.extend index).keepBest else { runs with length := 0 }

def ZeroRuns.of (hextets : List Text) : ZeroRuns :=
  hextets.zipIdx.foldl (fun runs entry => runs.step entry.2 entry.1) {}

/-- `_compress_hextets` -/
def compressHextets (hextets : List Text) : List Text :=
  let runs := ZeroRuns.of hextets
  let stop := runs.bestStart + runs.bestLength
  if 1 < runs.bestLength then
    (if runs.bestStart = 0 then [[]] else []) ++ hextets.take runs.bestStart ++ [] :: hextets.drop stop ++
      (if stop = hextets.length then [[]] else [])
  else hextets

/-- `_string_from_ip_int` -/
def compressedText (n : Nat) : Text :=
  join [.scalar ':'] (compressHextets ((Positional.places 65536 8 n).map hexText))

/-- `str` of an address of version 6 without its scope. -/
def ipv6Text (n : Nat) : Text :=
  if n / 2 ^ 32 = 0xffff then compressedText 0xffff ++ .scalar ':' :: ipv4Text (n % 2 ^ 32) else compressedText n

/-- `s.partition("%")`, or none for a scope that cannot be. -/
def splitScopeId (s : Text) : Option (Text × Option Text) :=
  let address := s.takeWhile fun c => decide (c ≠ .scalar '%')
  match s.dropWhile fun c => decide (c ≠ .scalar '%') with
  | [] => some (address, none)
  | _ :: scopeId => if scopeId = [] ∨ .scalar '%' ∈ scopeId then none else some (address, some scopeId)

end IpText

/-! ## Either version -/

/-- An address with its scope, if it has one. -/
structure HostAddress where
  ip : IpAddress
  scopeId : Option Text := none
  deriving DecidableEq

open IpText

def ipv6Address (s : Text) : Option HostAddress :=
  if .scalar '/' ∈ s then none
  else
    (splitScopeId s).bind fun (address, scopeId) => (ipv6Value address).bind fun n =>
      if fits : n < 2 ^ 128 then some { ip := ⟨.v6, n, fits⟩, scopeId } else none

/-- `ip_address(s)`, or none for a `ValueError`. -/
def ipAddress (s : Text) : Option HostAddress :=
  match ipv4Value s with
  | some n => if fits : n < 2 ^ 32 then some { ip := ⟨.v4, n, fits⟩ } else none
  | none => ipv6Address s

/-- `str(ip)` -/
def HostAddress.str (address : HostAddress) : Text :=
  match address.ip.version with
  | .v4 => ipv4Text address.ip.value
  | .v6 =>
    ipv6Text address.ip.value ++
      match address.scopeId with
      | none => []
      | some scopeId => .scalar '%' :: scopeId

example : (ipAddress (text "2001:DB8:0:0:1::1")).map HostAddress.str = some (text "2001:db8::1:0:0:1") := by decide +kernel

end LuxSwirl.Py
