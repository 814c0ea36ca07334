import LuxSwirl.Py.IpText
import Mathlib.Data.Nat.Digits.Lemmas

/-!
# Addresses read back

An address is read back from its `str` (`ipAddress_str`). The run of zeros that is left
out is a run of zeros (`ZeroRuns.Holds`), the parts around it are read around as many zeros
as are missing, and nothing in the text of the one version is read as the other.
-/

namespace LuxSwirl.Py
open LuxSwirl.Lib

namespace IpText

/-! ## Parts -/

theorem mem_join {sep c : CodePoint} {parts : List Text} (mem : c ∈ join [sep] parts) :
    c = sep ∨ ∃ part ∈ parts, c ∈ part := by
  induction parts with
  | nil => cases mem
  | cons part rest ih =>
    cases rest with
    | nil =>
      right
      refine ⟨part, List.mem_singleton_self _, ?_⟩
      simpa [join] using mem
    | cons next rest =>
      have split : join [sep] (part :: next :: rest) = part ++ sep :: join [sep] (next :: rest) := rfl
      rw [split, List.mem_append, List.mem_cons] at mem
      rcases mem with mem | same | mem
      · exact .inr ⟨part, List.mem_cons_self, mem⟩
      · exact .inl same
      · refine (ih mem).imp_right ?_
        rintro ⟨other, memRest, mem⟩
        exact ⟨other, List.mem_cons_of_mem _ memRest, mem⟩

theorem splitOn_join {sep : CodePoint} {parts : List Text} (apart : ∀ part ∈ parts, sep ∉ part) (nonempty : parts ≠ []) :
    (join [sep] parts).splitOn sep = parts := List.splitOn_intercalate sep apart nonempty

theorem join_splitOn (sep : CodePoint) (s : Text) : join [sep] (s.splitOn sep) = s := List.intercalate_splitOn sep

/-! ## Octets -/

theorem octetOf_strOfNat {n : Nat} (small : n < 256) : octetOf (strOfNat n) = some n := by
  have each : ∀ n < 256, octetOf (strOfNat n) = some n := by decide +kernel
  exact each n small

/-- An octet has nothing in it but digits. -/
theorem digit_of_mem_octet {part : Text} {octet : Nat} (isOctet : octetOf part = some octet) {c : CodePoint}
    (mem : c ∈ part) : ∃ digit, asciiDigit c = some digit := by
  obtain ⟨digits, areDigits, -⟩ := octetOf_eq_some.mp isOctet
  exact isSome_of_map areDigits mem

theorem mem_ipv4Text {n : Nat} {c : CodePoint} (mem : c ∈ ipv4Text n) :
    c = .scalar '.' ∨ ∃ digit, asciiDigit c = some digit := by
  refine (mem_join mem).imp_right ?_
  rintro ⟨part, memParts, mem⟩
  obtain ⟨octet, isPlace, rfl⟩ := List.mem_map.mp memParts
  exact digit_of_mem_octet (octetOf_strOfNat (Positional.lt_of_mem_places (by decide) isPlace)) mem

theorem ipv4Value_ipv4Text {n : Nat} (fits : n < 2 ^ 32) : ipv4Value (ipv4Text n) = some n := by
  have small : ∀ octet ∈ Positional.places 256 4 n, octet < 256 :=
    fun octet mem => Positional.lt_of_mem_places (by decide) mem
  have apart : ∀ part ∈ (Positional.places 256 4 n).map strOfNat, .scalar '.' ∉ part := by
    intro part memParts mem
    obtain ⟨octet, isPlace, rfl⟩ := List.mem_map.mp memParts
    obtain ⟨digit, isDigit⟩ := digit_of_mem_octet (octetOf_strOfNat (small octet isPlace)) mem
    cases isDigit
  have nonempty : (Positional.places 256 4 n).map strOfNat ≠ [] := by
    apply List.ne_nil_of_length_pos
    simp
  have read : ((Positional.places 256 4 n).map strOfNat).mapM octetOf = some (Positional.places 256 4 n) := by
    rw [mapM_eq_some_iff, List.map_map]
    exact List.map_congr_left fun octet mem => octetOf_strOfNat (small octet mem)
  have holds : n < 256 ^ 4 := fits
  rw [ipv4Value, ipv4Text, splitOn_join apart nonempty, if_pos (by simp), read, Option.map_some,
    Positional.value_places_of_lt holds]

/-- A text with something else than digits and dots is no address of version 4. -/
theorem ipv4Value_eq_none {s : Text} {c : CodePoint} (mem : c ∈ s) (noDot : c ≠ .scalar '.')
    (noDigit : asciiDigit c = none) : ipv4Value s = none := by
  rw [ipv4Value]
  split_ifs with four
  · rw [← join_splitOn (.scalar '.') s] at mem
    obtain ⟨part, memParts, mem⟩ := (mem_join mem).resolve_left noDot
    cases read : (s.splitOn (.scalar '.')).mapM octetOf with
    | none => rfl
    | some octets =>
      have isRead : octetOf part ∈ octets.map some := mapM_eq_some_iff.mp read ▸ List.mem_map_of_mem memParts
      obtain ⟨octet, -, isOctet⟩ := List.mem_map.mp isRead
      obtain ⟨digit, isDigit⟩ := digit_of_mem_octet isOctet.symm mem
      rw [noDigit] at isDigit
      cases isDigit
  · rfl

/-! ## Hextets -/

theorem hexText_of_ne_zero {n : Nat} (nonzero : n ≠ 0) :
    hexText n = ((Nat.digits 16 n).reverse.map (Fin.ofNat 16)).map Uuid.hexDigit := by
  rw [hexText, if_neg nonzero, List.map_map]
  rfl

theorem mem_hexText {n : Nat} {c : CodePoint} (mem : c ∈ hexText n) : ∃ digit, c = Uuid.hexDigit digit := by
  by_cases zero : n = 0
  · subst zero
    exact ⟨0, List.mem_singleton.mp mem⟩
  · rw [hexText_of_ne_zero zero] at mem
    obtain ⟨digit, -, rfl⟩ := List.mem_map.mp mem
    exact ⟨digit, rfl⟩

theorem not_mem_hexText {n : Nat} {c : Char} (other : c ∉ "0123456789abcdef".toList) : .scalar c ∉ hexText n := by
  intro mem
  obtain ⟨digit, same⟩ := mem_hexText mem
  exact Uuid.hexDigit_ne other same.symm

theorem readHextet_hexText {n : Nat} (small : n < 65536) : readHextet (hexText n) = some n := by
  by_cases zero : n = 0
  · subst zero
    decide
  · have short : (Nat.digits 16 n).length ≤ 4 := (Nat.digits_length_le_iff (by decide) n).mpr small
    have nonempty : Nat.digits 16 n ≠ [] := Nat.digits_ne_nil_iff_ne_zero.mpr zero
    have values : ((Nat.digits 16 n).reverse.map (Fin.ofNat 16)).map Fin.val = (Nat.digits 16 n).reverse := by
      rw [List.map_map]
      refine (List.map_congr_left fun digit mem => ?_).trans (List.map_id _)
      exact Nat.mod_eq_of_lt (Nat.digits_lt_base (by decide) (List.mem_reverse.mp mem))
    rw [hexText_of_ne_zero zero, readHextet, Uuid.readDigits_map, Option.map_some, values, Positional.value_digits,
      if_neg]
    rintro (empty | long)
    · simp only [List.map_eq_nil_iff, List.reverse_eq_nil_iff] at empty
      exact nonempty empty
    · simp only [List.length_map, List.length_reverse] at long
      omega

theorem hexText_ne_nil (n : Nat) : hexText n ≠ [] := by
  by_cases zero : n = 0
  · subst zero
    decide
  · rw [hexText_of_ne_zero zero]
    simp [Nat.digits_ne_nil_iff_ne_zero.mpr zero]

theorem mapM_readHextet {hextets : List Nat} (small : ∀ hextet ∈ hextets, hextet < 65536) :
    (hextets.map hexText).mapM readHextet = some hextets := by
  rw [mapM_eq_some_iff, List.map_map]
  exact List.map_congr_left fun hextet mem => readHextet_hexText (small hextet mem)

/-! ## Runs of zeros -/

/-- The runs are runs of zeros in the hextets done, and the second ends them. -/
structure ZeroRuns.Holds (runs : ZeroRuns) (done : List Text) : Prop where
  best : ∃ front back, done = front ++ List.replicate runs.bestLength [.scalar '0'] ++ back ∧
    front.length = runs.bestStart
  current : ∃ front, done = front ++ List.replicate runs.length [.scalar '0'] ∧
    (runs.length ≠ 0 → front.length = runs.start)

theorem ZeroRuns.Holds.keepBest {runs : ZeroRuns} {done : List Text} (holds : runs.Holds done) :
    runs.keepBest.Holds done := by
  obtain ⟨front, isCurrent, currentAt⟩ := holds.current
  rw [ZeroRuns.keepBest]
  split_ifs with longer
  · have start : front.length = runs.start := currentAt (by omega)
    exact ⟨⟨front, [], by rw [List.append_nil, ← isCurrent], start⟩, holds.current⟩
  · exact holds

theorem ZeroRuns.Holds.extend {runs : ZeroRuns} {done : List Text} (holds : runs.Holds done) :
    (runs.extend done.length).Holds (done ++ [[.scalar '0']]) := by
  obtain ⟨⟨bestFront, back, isBest, bestAt⟩, front, isCurrent, currentAt⟩ := holds
  refine ⟨⟨bestFront, back ++ [[.scalar '0']], ?_, bestAt⟩, front, ?_, fun _ => ?_⟩
  · show done ++ _ = bestFront ++ List.replicate runs.bestLength _ ++ _
    rw [← List.append_assoc, ← isBest]
  · show _ = front ++ List.replicate (runs.length + 1) _
    rw [List.replicate_succ', ← List.append_assoc, ← isCurrent]
  · show front.length = if runs.length = 0 then done.length else runs.start
    split_ifs with first
    · rw [isCurrent, first, List.replicate_zero, List.append_nil]
    · exact currentAt first

theorem ZeroRuns.Holds.step {runs : ZeroRuns} {done : List Text} (holds : runs.Holds done) (hextet : Text) :
    (runs.step done.length hextet).Holds (done ++ [hextet]) := by
  rw [ZeroRuns.step]
  split_ifs with zero
  · subst zero
    exact holds.extend.keepBest
  · obtain ⟨front, back, isBest, bestAt⟩ := holds.best
    refine ⟨⟨front, back ++ [hextet], ?_, bestAt⟩, done ++ [hextet], (List.append_nil _).symm, fun some => absurd rfl some⟩
    rw [← List.append_assoc, ← isBest]

theorem ZeroRuns.Holds.foldl {runs : ZeroRuns} {done : List Text} (holds : runs.Holds done) (rest : List Text) :
    ((rest.zipIdx done.length).foldl (fun runs entry => runs.step entry.2 entry.1) runs).Holds (done ++ rest) := by
  induction rest generalizing runs done with
  | nil => simpa using holds
  | cons hextet rest ih =>
    have next := ih (holds.step hextet)
    rw [List.length_append, List.length_singleton, List.append_assoc] at next
    exact next

theorem ZeroRuns.holds_of (hextets : List Text) : (ZeroRuns.of hextets).Holds hextets := by
  have start : ({} : ZeroRuns).Holds [] := ⟨⟨[], [], rfl, rfl⟩, [], rfl, fun some => absurd rfl some⟩
  exact start.foldl hextets

/-! ## Parts left out -/

/-- The parts in front of a run that is left out, and behind it. -/
def around (high low : List Text) : List Text :=
  (if high = [] then [[]] else []) ++ high ++ [] :: low ++ if low = [] then [[]] else []

/-- Hextets are written as they are, or without a run of two zeros or more. -/
theorem compressHextets_cases (hextets : List Text) :
    compressHextets hextets = hextets ∨ ∃ high low count, 1 < count ∧
      hextets = high ++ List.replicate count [.scalar '0'] ++ low ∧ compressHextets hextets = around high low := by
  have holds := ZeroRuns.holds_of hextets
  rw [compressHextets]
  generalize ZeroRuns.of hextets = runs at holds ⊢
  obtain ⟨high, low, rfl, bestAt⟩ := holds.best
  by_cases long : 1 < runs.bestLength
  · refine .inr ⟨high, low, runs.bestLength, long, rfl, ?_⟩
    have upTo : (high ++ List.replicate runs.bestLength [CodePoint.scalar '0']).length =
        runs.bestStart + runs.bestLength := by rw [List.length_append, List.length_replicate, bestAt]
    have highEnds : runs.bestStart = 0 ↔ high = [] := by rw [← bestAt, List.length_eq_zero_iff]
    have lowEnds : runs.bestStart + runs.bestLength =
        (high ++ List.replicate runs.bestLength [CodePoint.scalar '0'] ++ low).length ↔ low = [] := by
      rw [List.length_append, upTo, ← List.length_eq_zero_iff]
      omega
    have lowPart : (high ++ List.replicate runs.bestLength [CodePoint.scalar '0'] ++ low).drop
        (runs.bestStart + runs.bestLength) = low := by
      rw [← upTo]
      exact List.drop_left
    have highPart : (high ++ List.replicate runs.bestLength [CodePoint.scalar '0'] ++ low).take runs.bestStart = high := by
      rw [← bestAt, List.append_assoc]
      exact List.take_left
    rw [if_pos long, highPart, lowPart, around]
    simp only [highEnds, lowEnds]
  · exact .inl (if_neg long)

/-- What stands in front of the part left out, by its first part. -/
theorem around_front (high : List Text) (parts : ∀ part ∈ high, part ≠ []) :
    ∃ first inner, (if high = [] then [[]] else []) ++ high = first :: inner ∧
      (if first = [] then [] else first :: inner) = high ∧ (first = [] → inner = []) ∧
      ∀ part ∈ inner, isPart part = true := by
  cases high with
  | nil => exact ⟨[], [], rfl, rfl, fun _ => rfl, by simp⟩
  | cons first inner =>
    rw [List.forall_mem_cons] at parts
    refine ⟨first, inner, by rw [if_neg (List.cons_ne_nil _ _), List.nil_append], if_neg parts.1,
      fun empty => absurd empty parts.1, ?_⟩
    exact fun part mem => decide_eq_true (parts.2 part mem)

/-- And what stands behind it, by its last part. -/
theorem around_back (low : List Text) (parts : ∀ part ∈ low, part ≠ []) :
    ∃ inner last, (low ++ if low = [] then [[]] else []) = inner ++ [last] ∧
      (if last = [] then [] else inner ++ [last]) = low ∧ (last = [] → inner = []) ∧ [] ∉ inner := by
  rcases List.eq_nil_or_concat low with rfl | ⟨inner, last, rfl⟩
  · exact ⟨[], [], rfl, rfl, fun _ => rfl, by simp⟩
  · rw [List.concat_eq_append] at parts ⊢
    have lastPart : last ≠ [] := parts last (by simp)
    refine ⟨inner, last, by simp, if_neg lastPart, fun empty => absurd empty lastPart, fun mem => ?_⟩
    exact parts [] (List.mem_append_left _ mem) rfl

section Reading

variable {hextets high low : List Nat}

theorem parts_map (part : Text) (mem : part ∈ hextets.map hexText) : part ≠ [] := by
  obtain ⟨hextet, -, rfl⟩ := List.mem_map.mp mem
  exact hexText_ne_nil hextet

/-- Eight hextets are read from between eight parts. -/
theorem readParts_map (small : ∀ hextet ∈ hextets, hextet < 65536) (eight : hextets.length = 8) :
    readParts ((hextets.map hexText).headD []) (hextets.map hexText).tail.dropLast ((hextets.map hexText).getLastD []) =
      some hextets := by
  have parts := @parts_map hextets
  have length : (hextets.map hexText).length = 8 := by rw [List.length_map, eight]
  have read := mapM_readHextet small
  rcases isParts : hextets.map hexText with _ | ⟨first, rest⟩
  · rw [isParts] at length
    cases length
  · rcases List.eq_nil_or_concat rest with rfl | ⟨inner, last, rfl⟩
    · rw [isParts] at length
      cases length
    · rw [List.concat_eq_append] at isParts ⊢
      rw [isParts] at parts length read
      have six : inner.length = 6 := by
        simp only [List.length_cons, List.length_append, List.length_nil] at length
        omega
      have noneLeft : inner.dropWhile isPart = [] := by
        have passes : ∀ part ∈ inner, isPart part = true := fun part mem => decide_eq_true (parts part (by simp [mem]))
        rw [← List.append_nil inner, List.dropWhile_append_of_pos passes, List.dropWhile_nil]
      have ends : (first :: inner ++ [last]).getLastD [] = last := List.getLastD_concat
      rw [List.cons_append] at ends
      rw [List.headD_cons, List.tail_cons, List.dropLast_concat, ends, readParts, noneLeft]
      dsimp only
      rw [if_neg]
      · exact read
      · rintro (empty | empty | short)
        · exact parts first List.mem_cons_self empty
        · exact parts last (by simp) empty
        · exact short six

/-- Hextets around zeros are read with as many zeros as are missing. -/
theorem readParts_around (smallHigh : ∀ hextet ∈ high, hextet < 65536) (smallLow : ∀ hextet ∈ low, hextet < 65536)
    (room : high.length + low.length ≤ 7) :
    readParts ((around (high.map hexText) (low.map hexText)).headD [])
        (around (high.map hexText) (low.map hexText)).tail.dropLast
        ((around (high.map hexText) (low.map hexText)).getLastD []) =
      some (high ++ List.replicate (8 - (high.length + low.length)) 0 ++ low) := by
  obtain ⟨first, innerHigh, isFront, isHigh, highAlone, highParts⟩ := around_front _ (@parts_map high)
  obtain ⟨innerLow, last, isBack, isLow, lowAlone, lowParts⟩ := around_back _ (@parts_map low)
  have whole : around (high.map hexText) (low.map hexText) = first :: (innerHigh ++ [] :: innerLow) ++ [last] := by
    have back : [] :: low.map hexText ++ (if low.map hexText = [] then [[]] else []) = [] :: (innerLow ++ [last]) := by
      rw [List.cons_append, isBack]
    rw [around, isFront, List.append_assoc, back]
    simp
  have ends : (first :: (innerHigh ++ [] :: innerLow) ++ [last]).getLastD [] = last := List.getLastD_concat
  have stops : isPart [] = false := rfl
  have behind : (innerHigh ++ [] :: innerLow).dropWhile isPart = [] :: innerLow := by
    rw [List.dropWhile_append_of_pos highParts, List.dropWhile_cons_of_neg (by rw [stops]; decide)]
  have before : (innerHigh ++ [] :: innerLow).takeWhile isPart = innerHigh := by
    rw [List.takeWhile_append_of_pos highParts, List.takeWhile_cons_of_neg (by rw [stops]; decide), List.append_nil]
  rw [whole, ends, List.cons_append, List.headD_cons, List.tail_cons, List.dropLast_concat, readParts, behind, before]
  dsimp only
  rw [if_neg, isHigh, isLow, if_neg, mapM_readHextet smallHigh, mapM_readHextet smallLow]
  · rfl
  · simp only [List.length_map]
    omega
  · rintro (mem | ⟨empty, some⟩ | ⟨empty, some⟩)
    · exact lowParts mem
    · exact some (highAlone empty)
    · exact some (lowAlone empty)

end Reading

/-! ## Version 6 read back -/

/-- The parts are hexadecimal and the hextets are read from between them. -/
structure Written (parts : List Text) (hextets : List Nat) : Prop where
  atLeast : 3 ≤ parts.length
  atMost : parts.length ≤ 9
  hexadecimal : ∀ part ∈ parts, ∀ c ∈ part, ∃ digit, c = Uuid.hexDigit digit
  read : readParts (parts.headD []) parts.tail.dropLast (parts.getLastD []) = some hextets

theorem mem_around {high low : List Text} {part : Text} (mem : part ∈ around high low) :
    part = [] ∨ part ∈ high ∨ part ∈ low := by
  rw [around] at mem
  split_ifs at mem <;> simp only [List.mem_append, List.mem_cons, List.not_mem_nil, or_false, false_or] at mem <;> tauto

theorem length_around (high low : List Text) :
    (around high low).length = max 1 high.length + 1 + max 1 low.length := by
  rw [around]
  split_ifs with noHigh noLow noLow
  · rw [noHigh, noLow]
    rfl
  · have some := List.length_pos_of_ne_nil noLow
    rw [noHigh]
    simp
    omega
  · have some := List.length_pos_of_ne_nil noHigh
    rw [noLow]
    simp
    omega
  · have someHigh := List.length_pos_of_ne_nil noHigh
    have someLow := List.length_pos_of_ne_nil noLow
    simp
    omega

/-- A run of texts of zero is written for zeros. -/
theorem eq_replicate_zero {hextets : List Nat} {count : Nat} (small : ∀ hextet ∈ hextets, hextet < 65536)
    (zeros : hextets.map hexText = List.replicate count [.scalar '0']) : hextets = List.replicate count 0 := by
  have length : hextets.length = count := by rw [← List.length_map hexText, zeros, List.length_replicate]
  rw [List.eq_replicate_iff]
  refine ⟨length, fun hextet mem => ?_⟩
  have isZero : hexText hextet = [.scalar '0'] := List.eq_of_mem_replicate (zeros ▸ List.mem_map_of_mem mem)
  have read := readHextet_hexText (small hextet mem)
  rw [isZero] at read
  exact (Option.some.inj read).symm

theorem written_compressed {hextets : List Nat} (small : ∀ hextet ∈ hextets, hextet < 65536) (eight : hextets.length = 8) :
    Written (compressHextets (hextets.map hexText)) hextets := by
  have hexadecimal : ∀ part ∈ hextets.map hexText, ∀ c ∈ part, ∃ digit, c = Uuid.hexDigit digit := by
    intro part memParts c mem
    obtain ⟨hextet, -, rfl⟩ := List.mem_map.mp memParts
    exact mem_hexText mem
  rcases compressHextets_cases (hextets.map hexText) with same | ⟨highParts, lowParts, count, many, isMap, same⟩
  · rw [same]
    exact ⟨by simp [eight], by simp [eight], hexadecimal, readParts_map small eight⟩
  · obtain ⟨front, low, rfl, isFront, rfl⟩ := List.map_eq_append_iff.mp isMap
    obtain ⟨high, zeros, rfl, rfl, isZeros⟩ := List.map_eq_append_iff.mp isFront
    simp only [List.forall_mem_append] at small
    obtain rfl := eq_replicate_zero small.1.2 isZeros
    simp only [List.length_append, List.length_replicate] at eight
    rw [same]
    refine ⟨?_, ?_, ?_, ?_⟩
    · rw [length_around]
      omega
    · rw [length_around, List.length_map, List.length_map]
      omega
    · intro part memParts c mem
      rcases mem_around memParts with rfl | memParts | memParts
      · cases mem
      · exact hexadecimal part (by simp only [List.map_append, List.mem_append]; tauto) c mem
      · exact hexadecimal part (by simp only [List.map_append, List.mem_append]; tauto) c mem
    · rw [readParts_around small.1.1 small.2 (by omega)]
      have left : 8 - (high.length + low.length) = count := by omega
      rw [left]

theorem embedIpv4_of_none {parts : List Text} (none : ∀ part ∈ parts, .scalar '.' ∉ part) : embedIpv4 parts = some parts := by
  rw [embedIpv4]
  cases isLast : parts.getLast? with
  | none => rfl
  | some last => exact if_neg (none last (List.mem_of_getLast? isLast))

variable {parts : List Text} {hextets : List Nat}

theorem Written.apart (written : Written parts hextets) {c : Char} (other : c ∉ "0123456789abcdef".toList) (part : Text)
    (memParts : part ∈ parts) : .scalar c ∉ part := by
  intro mem
  obtain ⟨digit, same⟩ := written.hexadecimal part memParts _ mem
  exact Uuid.hexDigit_ne other same.symm

theorem Written.ipv6Value (written : Written parts hextets) :
    ipv6Value (join [.scalar ':'] parts) = some (Positional.value 65536 hextets) := by
  have nonempty : parts ≠ [] := List.ne_nil_of_length_pos (Nat.lt_of_lt_of_le (by decide) written.atLeast)
  rw [IpText.ipv6Value, splitOn_join (written.apart (by decide)) nonempty,
    if_neg (Nat.not_lt.mpr written.atLeast), embedIpv4_of_none (written.apart (by decide)), Option.bind_some,
    if_neg (Nat.not_lt.mpr written.atMost), written.read]
  rfl

theorem places_small (n : Nat) : ∀ hextet ∈ Positional.places 65536 8 n, hextet < 65536 :=
  fun _ mem => Positional.lt_of_mem_places (by decide) mem

theorem ipv6Value_compressedText {n : Nat} (fits : n < 2 ^ 128) : ipv6Value (compressedText n) = some n := by
  have holds : n < 65536 ^ 8 := fits
  rw [compressedText, (written_compressed (places_small n) (Positional.length_places _ _)).ipv6Value,
    Positional.value_places_of_lt holds]

/-- A mapped address is read as the hextets of the one it maps. -/
theorem ipv6Value_mapped {n : Nat} (fits : n < 2 ^ 32) :
    ipv6Value (compressedText 0xffff ++ .scalar ':' :: ipv4Text n) = some (0xffff * 2 ^ 32 + n) := by
  have front : compressedText 0xffff = [.scalar ':', .scalar ':'] ++ hexText 0xffff := by decide +kernel
  have isJoin : compressedText 0xffff ++ .scalar ':' :: ipv4Text n =
      join [.scalar ':'] [[], [], hexText 0xffff, ipv4Text n] := by
    rw [front]
    simp [join]
  have noColon : .scalar ':' ∉ ipv4Text n := by
    intro mem
    rcases mem_ipv4Text mem with same | ⟨digit, isDigit⟩
    · exact absurd same (by decide)
    · cases isDigit
  have hasDot : .scalar '.' ∈ ipv4Text n := by
    have four : ((ipv4Text n).splitOn (.scalar '.')).length = 4 := by
      by_contra other
      have read := ipv4Value_ipv4Text fits
      rw [ipv4Value, if_neg other] at read
      cases read
    by_contra none
    have whole : (ipv4Text n).splitOn (.scalar '.') = [ipv4Text n] := by
      have isWhole : join [.scalar '.'] [ipv4Text n] = ipv4Text n := by simp [join]
      rw [← isWhole, splitOn_join (by simpa using none) (List.cons_ne_nil _ _), isWhole]
    rw [whole] at four
    cases four
  have apart : ∀ part ∈ [[], [], hexText 0xffff, ipv4Text n], .scalar ':' ∉ part := by
    simp only [List.forall_mem_cons, List.not_mem_nil, not_false_iff, true_and, IsEmpty.forall_iff, implies_true, and_true]
    exact ⟨not_mem_hexText (by decide), noColon⟩
  have embedded : embedIpv4 [[], [], hexText 0xffff, ipv4Text n] =
      some (around (([] : List Nat).map hexText) ([0xffff, n / 65536, n % 65536].map hexText)) := by
    show (if .scalar '.' ∈ ipv4Text n then (ipv4Value (ipv4Text n)).map _ else _) = _
    rw [if_pos hasDot, ipv4Value_ipv4Text fits]
    rfl
  have small : ∀ hextet ∈ [0xffff, n / 65536, n % 65536], hextet < 65536 := by
    simp only [List.forall_mem_cons, List.not_mem_nil, IsEmpty.forall_iff, implies_true, and_true]
    omega
  have read := @readParts_around [] _ (by simp) small (by simp)
  rw [isJoin, ipv6Value, splitOn_join apart (List.cons_ne_nil _ _), if_neg (by simp), embedded, Option.bind_some,
    if_neg (by simp [length_around]), read, Option.map_some, List.nil_append, Positional.value_zeros]
  refine congrArg some ?_
  simp only [Positional.value, List.foldl_cons, List.foldl_nil]
  omega

theorem ipv6Value_ipv6Text {n : Nat} (fits : n < 2 ^ 128) : ipv6Value (ipv6Text n) = some n := by
  rw [ipv6Text]
  split_ifs with mapped
  · rw [ipv6Value_mapped (Nat.mod_lt _ (by decide)), ← mapped, Nat.div_add_mod']
  · exact ipv6Value_compressedText fits

/-! ## Scopes -/

theorem mem_compressedText {n : Nat} {c : CodePoint} (mem : c ∈ compressedText n) :
    c = .scalar ':' ∨ ∃ digit, c = Uuid.hexDigit digit := by
  refine (mem_join mem).imp_right ?_
  rintro ⟨part, memParts, mem⟩
  exact (written_compressed (places_small n) (Positional.length_places _ _)).hexadecimal part memParts c mem

theorem colon_mem_compressedText (n : Nat) : .scalar ':' ∈ compressedText n := by
  have long := (written_compressed (places_small n) (Positional.length_places _ _)).atLeast
  rw [compressedText]
  rcases isParts : compressHextets ((Positional.places 65536 8 n).map hexText) with _ | ⟨first, _ | ⟨second, rest⟩⟩
  · rw [isParts] at long
    exact absurd long (by decide)
  · rw [isParts] at long
    exact absurd long (by simp)
  · have split : join [.scalar ':'] (first :: second :: rest) = first ++ .scalar ':' :: join [.scalar ':'] (second :: rest) := rfl
    rw [split]
    simp

theorem colon_mem_ipv6Text (n : Nat) : .scalar ':' ∈ ipv6Text n := by
  rw [ipv6Text]
  split_ifs
  · exact List.mem_append_left _ (colon_mem_compressedText _)
  · exact colon_mem_compressedText n

theorem not_mem_ipv6Text {c : Char} (noDigit : asciiDigit (.scalar c) = none) (noHex : c ∉ "0123456789abcdef".toList)
    (other : c ≠ ':' ∧ c ≠ '.') (n : Nat) : .scalar c ∉ ipv6Text n := by
  have colon : CodePoint.scalar c ≠ .scalar ':' := fun same => other.1 (CodePoint.scalar.inj same)
  have noneCompressed : ∀ n, .scalar c ∉ compressedText n := by
    intro n mem
    rcases mem_compressedText mem with same | ⟨digit, same⟩
    · exact colon same
    · exact Uuid.hexDigit_ne noHex same.symm
  rw [ipv6Text]
  split_ifs
  · rw [List.mem_append, List.mem_cons]
    rintro (mem | same | mem)
    · exact noneCompressed _ mem
    · exact colon same
    · rcases mem_ipv4Text mem with same | ⟨digit, isDigit⟩
      · exact other.2 (CodePoint.scalar.inj same)
      · rw [noDigit] at isDigit
        cases isDigit
  · exact noneCompressed n

/-- A scope that an address can have. -/
def IsScope (scopeId : Text) : Prop := scopeId ≠ [] ∧ .scalar '%' ∉ scopeId ∧ .scalar '/' ∉ scopeId

theorem isScope_of_split {s address scopeId : Text} (noSlash : .scalar '/' ∉ s)
    (split : splitScopeId s = some (address, some scopeId)) : IsScope scopeId := by
  rw [splitScopeId] at split
  cases behind : s.dropWhile (fun c => decide (c ≠ .scalar '%')) with
  | nil =>
    rw [behind] at split
    cases split
  | cons percent scope =>
    rw [behind] at split
    obtain ⟨fits, same⟩ := Option.ite_none_left_eq_some.mp split
    cases same
    rw [not_or] at fits
    refine ⟨fits.1, fits.2, fun mem => noSlash ?_⟩
    have within : .scalar '/' ∈ s.dropWhile (fun c => decide (c ≠ .scalar '%')) := by
      rw [behind]
      exact List.mem_cons_of_mem _ mem
    exact (List.dropWhile_sublist _).mem within

theorem splitScopeId_none {address : Text} (noPercent : .scalar '%' ∉ address) :
    splitScopeId address = some (address, none) := by
  have passes : ∀ c ∈ address, decide (c ≠ .scalar '%') = true :=
    fun c mem => decide_eq_true fun same => noPercent (same ▸ mem)
  have behind := @List.dropWhile_append_of_pos _ _ address [] passes
  have front := @List.takeWhile_append_of_pos _ _ address [] passes
  rw [List.append_nil, List.dropWhile_nil] at behind
  rw [List.append_nil, List.takeWhile_nil, List.append_nil] at front
  rw [splitScopeId, behind, front]

theorem splitScopeId_some {address scopeId : Text} (noPercent : .scalar '%' ∉ address) (isScope : IsScope scopeId) :
    splitScopeId (address ++ .scalar '%' :: scopeId) = some (address, some scopeId) := by
  have passes : ∀ c ∈ address, decide (c ≠ .scalar '%') = true :=
    fun c mem => decide_eq_true fun same => noPercent (same ▸ mem)
  rw [splitScopeId, List.dropWhile_append_of_pos passes, List.takeWhile_append_of_pos passes,
    List.dropWhile_cons_of_neg (by simp), List.takeWhile_cons_of_neg (by simp), List.append_nil]
  exact if_neg (not_or.mpr ⟨isScope.1, isScope.2.1⟩)

end IpText

open IpText

/-- **An address is read back from its `str`.** -/
theorem ipAddress_str {s : Text} {address : HostAddress} (read : ipAddress s = some address) :
    ipAddress address.str = some address := by
  rw [ipAddress] at read
  cases isV4 : ipv4Value s with
  | some n =>
    rw [isV4] at read
    obtain ⟨fits, same⟩ := Option.dite_none_right_eq_some.mp read
    cases same
    show ipAddress (ipv4Text n) = _
    rw [ipAddress, ipv4Value_ipv4Text fits]
    exact dif_pos fits
  | none =>
    rw [isV4] at read
    obtain ⟨noSlash, read⟩ := Option.ite_none_left_eq_some.mp read
    obtain ⟨⟨text, scopeId⟩, isSplit, read⟩ := Option.bind_eq_some_iff.mp read
    obtain ⟨n, -, read⟩ := Option.bind_eq_some_iff.mp read
    obtain ⟨fits, same⟩ := Option.dite_none_right_eq_some.mp read
    cases same
    have noPercent := @not_mem_ipv6Text '%' (by decide) (by decide) (by decide) n
    have noSlashText := @not_mem_ipv6Text '/' (by decide) (by decide) (by decide) n
    cases scopeId with
    | none =>
      show ipAddress (ipv6Text n ++ []) = _
      rw [List.append_nil, ipAddress, ipv4Value_eq_none (colon_mem_ipv6Text n) (by decide) (by decide), ipv6Address,
        if_neg noSlashText, splitScopeId_none noPercent, Option.bind_some]
      dsimp only
      rw [ipv6Value_ipv6Text fits, Option.bind_some, dif_pos fits]
    | some scopeId =>
      have isScope := isScope_of_split noSlash isSplit
      show ipAddress (ipv6Text n ++ .scalar '%' :: scopeId) = _
      have noSlashWhole : .scalar '/' ∉ ipv6Text n ++ .scalar '%' :: scopeId := by
        rw [List.mem_append, List.mem_cons]
        rintro (mem | same | mem)
        · exact noSlashText mem
        · exact absurd same (by decide)
        · exact isScope.2.2 mem
      rw [ipAddress, ipv4Value_eq_none (List.mem_append_left _ (colon_mem_ipv6Text n)) (by decide) (by decide),
        ipv6Address, if_neg noSlashWhole, splitScopeId_some noPercent isScope, Option.bind_some]
      dsimp only
      rw [ipv6Value_ipv6Text fits, Option.bind_some, dif_pos fits]

end LuxSwirl.Py
