import LuxSwirl.Py.IpReading

/-!
# The client's address behind proxies

`request_helpers.py` reads the client's address from `X-Forwarded-For` when the peer is a
trusted proxy: from the right, the first hop that is not trusted. What a client writes
into the header itself stands to the left of what the proxies append.

A proxy may also append a line of its own, and the code reads the first line alone.
`unspoofable_iff` says when that is enough.
-/

namespace LuxSwirl.Server
open LuxSwirl.Py

/-! ## The code -/

/-- `_ip_in_trusted_networks`, with the networks that are configured. -/
def ipInTrustedNetworks (trusted : List IpNetwork) (s : Text) : Bool :=
  match ipAddress s with
  | none => false
  | some address => trusted.any fun network => network.contains address.ip

/-- The hops of a line, those without text left out. -/
def hopsOf (xff : Text) : List Text := ((xff.splitOn (.scalar ',')).map strip).filter fun hop => decide (hop ≠ [])

/-- The first of the hops that is an address and not trusted. -/
def firstUntrusted (trusted : List IpNetwork) : List Text → Option Text
  | [] => none
  | hop :: rest =>
    match ipAddress hop with
    | none => firstUntrusted trusted rest
    | some address =>
      if ipInTrustedNetworks trusted address.str then firstUntrusted trusted rest else some address.str

/-- `client` is the direct peer, and `forwardedFor` the lines of `X-Forwarded-For`, of
which `headers.get` gives the first. -/
def clientIpFromRequest (trusted : List IpNetwork) (client : Option Text) (forwardedFor : List Text) : Text :=
  let direct := client.getD (text "unknown")
  if direct = text "unknown" then direct
  else if ¬ ipInTrustedNetworks trusted direct then direct
  else
    let xff := forwardedFor.headD []
    if xff = [] then direct else (firstUntrusted trusted (hopsOf xff).reverse).getD direct

/-! ## The proxies -/

/-- What a proxy appends: the address of its peer, as it writes it, behind the last line
with a comma and blanks or on a line of its own. -/
structure ProxyHop where
  address : HostAddress
  written : Text
  reads : ipAddress written = some address
  whole : .scalar ',' ∉ written
  bare : strip written = written
  ownLine : Bool
  blanks : Nat := 1

/-- A line with the hop behind it. -/
def ProxyHop.behind (hop : ProxyHop) (line : Text) : Text :=
  line ++ .scalar ',' :: (List.replicate hop.blanks (.scalar ' ') ++ hop.written)

def ProxyHop.append (hop : ProxyHop) (lines : List Text) : List Text :=
  match lines.getLast? with
  | none => [hop.written]
  | some last => if hop.ownLine then lines ++ [hop.written] else lines.dropLast ++ [hop.behind last]

/-- The header as it arrives, the hops in the order they were appended in. -/
def forwarded (lines : List Text) (hops : List ProxyHop) : List Text :=
  hops.foldl (fun lines hop => hop.append lines) lines

def isTrusted (trusted : List IpNetwork) (address : HostAddress) : Bool :=
  trusted.any fun network => network.contains address.ip

/-- The address of the last hop that is not trusted. -/
def rightmostUntrusted (trusted : List IpNetwork) (hops : List ProxyHop) : Option HostAddress :=
  (hops.reverse.map ProxyHop.address).find? fun address => !isTrusted trusted address

/-- Whatever the client writes, on so many lines, the answer is the last hop that is not
trusted; and the direct peer, when it is not. -/
structure Unspoofable (trusted : List IpNetwork) (direct : Text) (clientLines : Nat) (hops : List ProxyHop) : Prop where
  behindProxy : ipInTrustedNetworks trusted direct = true →
    ∀ client, rightmostUntrusted trusted hops = some client → ∀ lines : List Text, lines.length = clientLines →
      clientIpFromRequest trusted (some direct) (forwarded lines hops) = client.str
  direct : ipInTrustedNetworks trusted direct = false →
    ∀ lines, clientIpFromRequest trusted (some direct) lines = direct

/-- The hops that come to stand on the first line. -/
def onFirstLine (clientLines : Nat) (hops : List ProxyHop) : List ProxyHop :=
  match clientLines, hops with
  | 0, [] => []
  | 0, first :: rest => first :: rest.takeWhile fun hop => !hop.ownLine
  | 1, hops => hops.takeWhile fun hop => !hop.ownLine
  | _, _ => []

/-! ## Hops of a line -/

theorem hopsOf_append (xs ys : Text) : hopsOf (xs ++ .scalar ',' :: ys) = hopsOf xs ++ hopsOf ys := by
  have comma : (CodePoint.scalar ',' == CodePoint.scalar ',') = true := beq_self_eq_true _
  rw [hopsOf, List.splitOn_eq_splitOnP, List.splitOnP_append_cons (p := fun c => c == CodePoint.scalar ',') xs ys comma,
    List.map_append, List.filter_append, ← List.splitOn_eq_splitOnP, ← List.splitOn_eq_splitOnP]
  rfl

theorem hopsOf_nil : hopsOf [] = [] := by decide

theorem strip_blanks (blanks : Nat) (s : Text) : strip (List.replicate blanks (.scalar ' ') ++ s) = strip s := by
  have space : ∀ c ∈ List.replicate blanks (CodePoint.scalar ' '), c.isSpace = true := by
    intro c mem
    rw [List.eq_of_mem_replicate mem]
    decide
  rw [strip, stripped, List.dropWhile_append_of_pos space]
  rfl

namespace ProxyHop

variable (hop : ProxyHop)

theorem written_ne_nil : hop.written ≠ [] := by
  intro empty
  have read := hop.reads
  have unread : ipAddress [] = none := by decide +kernel
  rw [empty, unread] at read
  cases read

/-- A hop is one hop of its line. -/
theorem hopsOf_blanks (blanks : Nat) : hopsOf (List.replicate blanks (.scalar ' ') ++ hop.written) = [hop.written] := by
  have noComma : ∀ part ∈ [List.replicate blanks (.scalar ' ') ++ hop.written], .scalar ',' ∉ part := by
    intro part mem memPart
    rw [List.mem_singleton.mp mem, List.mem_append] at memPart
    rcases memPart with mem | mem
    · exact absurd (List.eq_of_mem_replicate mem) (by decide)
    · exact hop.whole mem
  have isOne := IpText.splitOn_join noComma (List.cons_ne_nil _ _)
  have isJoin : join [.scalar ','] [List.replicate blanks (.scalar ' ') ++ hop.written] =
      List.replicate blanks (.scalar ' ') ++ hop.written := by simp [join]
  rw [isJoin] at isOne
  rw [hopsOf, isOne, List.map_singleton, strip_blanks, hop.bare, List.filter_singleton,
    decide_eq_true hop.written_ne_nil]
  rfl

theorem hopsOf_written : hopsOf hop.written = [hop.written] := hop.hopsOf_blanks 0

theorem hopsOf_behind (line : Text) : hopsOf (hop.behind line) = hopsOf line ++ [hop.written] := by
  rw [behind, hopsOf_append, hop.hopsOf_blanks]

end ProxyHop

/-! ## The first line -/

/-- Once there are two lines the first one stays. -/
theorem headD_forwarded_of_two {first second : Text} (rest : List Text) (hops : List ProxyHop) :
    (forwarded (first :: second :: rest) hops).headD [] = first := by
  induction hops generalizing second rest with
  | nil => rfl
  | cons hop hops ih =>
    show (forwarded (hop.append (first :: second :: rest)) hops).headD [] = first
    rw [ProxyHop.append, List.getLast?_cons_cons]
    split
    · rename_i none
      cases List.getLast?_eq_none_iff.mp none
    · rename_i last isLast
      split_ifs
      · exact ih (rest ++ [hop.written])
      · rw [List.dropLast_cons_cons]
        rcases isRest : (second :: rest).dropLast ++ [hop.behind last] with _ | ⟨next, others⟩
        · simp at isRest
        · rw [List.cons_append, isRest]
          exact ih others

theorem hopsOf_forwarded_single (line : Text) (hops : List ProxyHop) :
    hopsOf ((forwarded [line] hops).headD []) =
      hopsOf line ++ (hops.takeWhile fun hop => !hop.ownLine).map ProxyHop.written := by
  induction hops generalizing line with
  | nil =>
    show hopsOf line = _
    simp
  | cons hop hops ih =>
    show hopsOf ((forwarded (hop.append [line]) hops).headD []) = _
    cases own : hop.ownLine with
    | true =>
      have appended : hop.append [line] = [line, hop.written] := if_pos own
      rw [appended, headD_forwarded_of_two, List.takeWhile_cons_of_neg (by simp [own])]
      simp
    | false =>
      have appended : hop.append [line] = [hop.behind line] := if_neg (by simp [own])
      rw [appended, ih, hop.hopsOf_behind, List.takeWhile_cons_of_pos (by simp [own]), List.map_cons, List.append_assoc]
      rfl

/-- **The hops the code reads**: the client's, and those that came to stand on the first
line. -/
theorem hopsOf_forwarded (lines : List Text) (hops : List ProxyHop) :
    hopsOf ((forwarded lines hops).headD []) =
      hopsOf (lines.headD []) ++ (onFirstLine lines.length hops).map ProxyHop.written := by
  match lines, hops with
  | [], [] => rfl
  | [], first :: rest =>
    show hopsOf ((forwarded [first.written] rest).headD []) = _
    rw [hopsOf_forwarded_single, first.hopsOf_written, List.headD_nil, hopsOf_nil]
    rfl
  | [line], hops => exact hopsOf_forwarded_single line hops
  | first :: second :: rest, hops =>
    have nothing : onFirstLine (first :: second :: rest).length hops = [] := by
      cases hops <;> rfl
    rw [headD_forwarded_of_two, nothing, List.map_nil, List.append_nil]
    rfl

/-! ## The answer -/

variable {trusted : List IpNetwork}

theorem ipInTrustedNetworks_str {s : Text} {address : HostAddress} (reads : ipAddress s = some address) :
    ipInTrustedNetworks trusted address.str = isTrusted trusted address := by
  rw [ipInTrustedNetworks, ipAddress_str reads]
  rfl

theorem firstUntrusted_append (xs ys : List Text) :
    firstUntrusted trusted (xs ++ ys) = (firstUntrusted trusted xs).or (firstUntrusted trusted ys) := by
  induction xs with
  | nil => rfl
  | cons hop rest ih =>
    rw [List.cons_append, firstUntrusted, firstUntrusted, ih]
    cases ipAddress hop with
    | none => rfl
    | some address =>
      dsimp only
      split_ifs
      · rfl
      · rfl

/-- Among the proxies' hops it is the last one that is not trusted. -/
theorem firstUntrusted_written (hops : List ProxyHop) :
    firstUntrusted trusted (hops.map ProxyHop.written).reverse = (rightmostUntrusted trusted hops).map HostAddress.str := by
  rw [rightmostUntrusted, ← List.map_reverse]
  induction hops.reverse with
  | nil => rfl
  | cons hop rest ih =>
    rw [List.map_cons, firstUntrusted, hop.reads]
    dsimp only
    rw [ipInTrustedNetworks_str hop.reads, ih, List.map_cons, List.find?_cons]
    cases isTrusted trusted hop.address with
    | true => rfl
    | false => rfl

theorem not_trusted_unknown : ipInTrustedNetworks trusted (text "unknown") = false := by
  have unread : ipAddress (text "unknown") = none := by decide +kernel
  rw [ipInTrustedNetworks, unread]

/-- Behind a trusted peer the answer is the first hop from the right of the first line that
is not trusted. -/
theorem clientIp_of_trusted {direct : Text} (peer : ipInTrustedNetworks trusted direct = true) (lines : List Text) :
    clientIpFromRequest trusted (some direct) lines =
      (firstUntrusted trusted (hopsOf (lines.headD [])).reverse).getD direct := by
  have known : direct ≠ text "unknown" := by
    rintro rfl
    rw [not_trusted_unknown] at peer
    cases peer
  rw [clientIpFromRequest, Option.getD_some, if_neg known, if_neg (not_not_intro peer)]
  show (if lines.headD [] = [] then direct else _) = _
  split_ifs with empty
  · rw [empty, hopsOf_nil]
    rfl
  · rfl

theorem clientIp_of_untrusted {direct : Text} (peer : ipInTrustedNetworks trusted direct = false) (lines : List Text) :
    clientIpFromRequest trusted (some direct) lines = direct := by
  have refused : ¬ ipInTrustedNetworks trusted direct = true := by rw [peer]; exact Bool.false_ne_true
  rw [clientIpFromRequest, Option.getD_some, if_pos refused]
  split_ifs with unknown
  · rfl
  · rfl

theorem clientIp_forwarded {direct : Text} (peer : ipInTrustedNetworks trusted direct = true) (lines : List Text)
    (hops : List ProxyHop) :
    clientIpFromRequest trusted (some direct) (forwarded lines hops) =
      (((rightmostUntrusted trusted (onFirstLine lines.length hops)).map HostAddress.str).or
        (firstUntrusted trusted (hopsOf (lines.headD [])).reverse)).getD direct := by
  rw [clientIp_of_trusted peer, hopsOf_forwarded, List.reverse_append, firstUntrusted_append, firstUntrusted_written]

/-- The last hop that is not trusted is an address that some hop writes. -/
theorem reads_of_rightmost {hops : List ProxyHop} {client : HostAddress}
    (isLast : rightmostUntrusted trusted hops = some client) :
    (∃ s, ipAddress s = some client) ∧ isTrusted trusted client = false := by
  have mem := List.mem_of_find?_eq_some isLast
  have untrusted := List.find?_some isLast
  obtain ⟨hop, -, rfl⟩ := List.mem_map.mp mem
  exact ⟨⟨hop.written, hop.reads⟩, by simpa using untrusted⟩

/-- **The header cannot be spoofed** just when the last hop that is not trusted is also the
last one of those on the first line, or the peer is not trusted. -/
theorem unspoofable_iff (trusted : List IpNetwork) (direct : Text) (clientLines : Nat) (hops : List ProxyHop) :
    Unspoofable trusted direct clientLines hops ↔
      (ipInTrustedNetworks trusted direct = true → ∀ client, rightmostUntrusted trusted hops = some client →
        rightmostUntrusted trusted (onFirstLine clientLines hops) = some client) := by
  constructor
  · intro unspoofable peer client isLast
    obtain ⟨⟨s, reads⟩, untrusted⟩ := reads_of_rightmost isLast
    have answer := unspoofable.behindProxy peer client isLast (List.replicate clientLines []) List.length_replicate
    have noClient : hopsOf ((List.replicate clientLines ([] : Text)).headD []) = [] := by
      cases clientLines <;> exact hopsOf_nil
    rw [clientIp_forwarded peer, noClient, List.length_replicate] at answer
    cases onFirst : rightmostUntrusted trusted (onFirstLine clientLines hops) with
    | none =>
      rw [onFirst] at answer
      have same : direct = client.str := answer
      rw [same, ipInTrustedNetworks_str reads, untrusted] at peer
      cases peer
    | some first =>
      rw [onFirst] at answer
      have same : first.str = client.str := answer
      obtain ⟨⟨t, readsFirst⟩, -⟩ := reads_of_rightmost onFirst
      have isFirst := ipAddress_str readsFirst
      rw [same, ipAddress_str reads] at isFirst
      exact isFirst.symm
  · intro fits
    refine ⟨fun peer client isLast lines length => ?_, clientIp_of_untrusted⟩
    rw [clientIp_forwarded peer, length, fits peer client isLast]
    rfl

/-- 10.0.0.0/8 -/
def proxyNetwork : IpNetwork where
  version := .v4
  address := 0x0a000000
  prefixlen := 8
  prefixlen_le := Nat.le_add_right 8 24
  aligned := Nat.dvd_mul_left (2 ^ 24) 10
  fits := by
    show 0x0a000000 < 2 ^ 32
    omega

/-- A hop on a line of its own. -/
def ownLineHop : ProxyHop where
  address := { ip := ⟨.v4, 203 * 2 ^ 24 + 113 * 2 ^ 8 + 7, by simp [IpVersion.width]⟩ }
  written := text "203.0.113.7"
  reads := by decide +kernel
  whole := by simp [text]
  bare := by decide +kernel
  ownLine := true

/-- A client that sends a line itself is taken for whom that line names. -/
theorem own_line_spoofed :
    ¬ Unspoofable [proxyNetwork] (text "10.0.0.1") 1 [ownLineHop] ∧
      clientIpFromRequest [proxyNetwork] (some (text "10.0.0.1")) (forwarded [text "1.2.3.4"] [ownLineHop]) =
        text "1.2.3.4" := by
  constructor
  · rw [unspoofable_iff]
    intro fits
    have onFirst := fits (by decide +kernel) ownLineHop.address (by decide +kernel)
    cases onFirst
  · decide +kernel

end LuxSwirl.Server
