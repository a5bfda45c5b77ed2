/-
This file reads texts as IP addresses. A strict reader takes IPv4 addresses of
four plain octets and IPv6 addresses of eight hextets, where a run of zeros may
be skipped, the last two may be written as an IPv4 address, and a scope may
follow. A lenient reader is that of resolvers: it takes one to four numbers in
the notation of C, the last of which fills the octets that are left.

The lenient reader takes every IPv4 address of the strict one, as the same
address, and no text with a colon.
-/

import Gyanam.Lib.Hex

namespace IpAddress

open Json (CodePoint Text)

/-! ### Numbers -/

/-- The number that some digits spell to a base, after a number that was read before. -/
def readBase (base : Nat) : Nat → Text → Option Nat
  | before, [] => some before
  | before, digit :: rest => do
    let value ← (Hex.digitValue digit).filter fun value => decide (value < base)
    readBase base (base * before + value) rest

/-- A number in the notation of C: hexadecimal behind `0x`, octal behind another zero, else
decimal. -/
def cNumeral : Text → Option Nat
  | [] => none
  | first :: rest =>
    if first = Json.point '0'.toNat then
      match rest with
      | [] => some 0
      | mark :: digits =>
        if mark = Json.point 'x'.toNat ∨ mark = Json.point 'X'.toNat then
          if digits = [] then none else readBase 16 0 digits
        else readBase 8 0 (mark :: digits)
    else readBase 10 0 (first :: rest)

/-! ### IPv4 -/

/-- An octet: a decimal number of at most three digits without a zero in front. -/
def parseOctet (octet : Text) : Option Nat :=
  if octet = [] ∨ 3 < octet.length ∨
      (octet ≠ Json.text "0" ∧ octet.head? = some (Json.point '0'.toNat)) then none
  else (readBase 10 0 octet).filter fun value => decide (value ≤ 255)

/-- The number of some octets, the highest first. -/
def ofOctets (octets : List Nat) : Nat :=
  octets.foldl (fun address octet => 256 * address + octet) 0

/-- Read an IPv4 address. -/
def parseIpv4 (chars : Text) : Option Nat := do
  let octets ← (Strings.split (Json.point '.'.toNat) chars).mapM parseOctet
  if octets.length = 4 then some (ofOctets octets) else none

/-- Some numbers fill a number of octets: all but the last are octets, and the last has room in
the octets that are left. -/
def fillsOctets : Nat → List Nat → Bool
  | left + 1, first :: rest =>
    if rest = [] then decide (first < 256 ^ (left + 1))
    else decide (first < 256) && fillsOctets left rest
  | _, _ => false

/-- The number that some numbers are in a number of octets. -/
def fillOctets : Nat → List Nat → Nat
  | left + 1, first :: rest =>
    if rest = [] then first else first * 256 ^ left + fillOctets left rest
  | _, _ => 0

/-- The numbers between the dots of a text, in the notation of C. -/
def cNumerals (chars : Text) : Option (List Nat) :=
  (Strings.split (Json.point '.'.toNat) chars).mapM cNumeral

/-- Read an IPv4 address as resolvers do. -/
def inetAton (chars : Text) : Option Nat := do
  let numbers ← cNumerals chars
  if fillsOctets 4 numbers then some (fillOctets 4 numbers) else none

/-! ### IPv6 -/

/-- A hextet: a hexadecimal number of at most four digits. -/
def parseHextet (hextet : Text) : Option Nat :=
  if hextet = [] ∨ 4 < hextet.length then none else readBase 16 0 hextet

/-- The parts between the colons, with an IPv4 address at the end as two hextets. -/
def expandSuffix (parts : List Text) : Option (List Text) :=
  if (parts.getLast?.getD []).contains (Json.point '.'.toNat) then
    (parseIpv4 (parts.getLast?.getD [])).map fun address =>
      parts.dropLast ++ [Hex.digits 1 (address / 2 ^ 16 % 2 ^ 16), Hex.digits 1 (address % 2 ^ 16)]
  else some parts

/-- The places of the empty parts that are not at an end: a double colon. -/
def skips (parts : List Text) : List Nat :=
  (List.range parts.length).filter fun index =>
    decide (1 ≤ index) && decide (index + 1 < parts.length) && decide (parts[index]? = some [])

/-- How many parts come before the skipped zeros, how many zeros are skipped, and how many parts
come behind them. -/
def layout (parts : List Text) : Option (Nat × Nat × Nat) :=
  let opens := decide (parts.head? = some [])
  let closes := decide (parts.getLast? = some [])
  match skips parts with
  | [] => if parts.length = 8 ∧ ¬ opens ∧ ¬ closes then some (8, 0, 0) else none
  | [skip] =>
    let high := if opens then skip - 1 else skip
    let low := if closes then parts.length - skip - 2 else parts.length - skip - 1
    if (opens ∧ high ≠ 0) ∨ (closes ∧ low ≠ 0) ∨ 8 ≤ high + low then none
    else some (high, 8 - (high + low), low)
  | _ => none

/-- Read hextets behind an address that was read before. -/
def readHextets (before : Nat) (parts : List Text) : Option Nat :=
  parts.foldlM (fun address part =>
    (parseHextet part).map fun hextet => (address <<< 16) ||| hextet) before

/-- Read the digits of an IPv6 address. -/
def parseHextets (chars : Text) : Option Nat := do
  let parts := Strings.split (Json.point ':'.toNat) chars
  if parts.length < 3 then none
  else
    let parts ← expandSuffix parts
    if 9 < parts.length then none
    else
      let (high, skipped, low) ← layout parts
      let address ← readHextets 0 (parts.take high)
      readHextets (address <<< (16 * skipped)) (parts.drop (parts.length - low))

/-- An address without its scope, which stands behind a percent sign and is not empty. -/
def withoutScope (chars : Text) : Option Text :=
  match Strings.split (Json.point '%'.toNat) chars with
  | [address] => some address
  | [address, scope] => if scope = [] then none else some address
  | _ => none

/-- Read an IPv6 address. -/
def parseIpv6 (chars : Text) : Option Nat :=
  if chars.contains (Json.point '/'.toNat) then none
  else (withoutScope chars).bind parseHextets


/-! ### What the readers take -/

theorem digitValue_eq_zero {digit : CodePoint} (zero : Hex.digitValue digit = some 0) :
    digit = Json.point '0'.toNat := by
  have each : ∀ value < 0x80, Json.hexValue (Char.ofNat value) = some 0 → value = 48 := by decide
  rw [Hex.digitValue] at zero
  split at zero
  · rename_i small
    exact Fin.ext (each digit.val small zero)
  · cases zero

theorem readBase_cons {base before value : Nat} {digit : CodePoint} {rest : Text}
    (found : readBase base before (digit :: rest) = some value) :
    ∃ first < base, Hex.digitValue digit = some first ∧
      readBase base (base * before + first) rest = some value := by
  obtain ⟨first, valued, found⟩ := Option.bind_eq_some_iff.mp found
  obtain ⟨valued, small⟩ := Option.filter_eq_some_iff.mp valued
  exact ⟨first, of_decide_eq_true small, valued, found⟩

/-- Digits do not make a number smaller. -/
theorem le_readBase {base before value : Nat} {chars : Text} (positive : 0 < base)
    (found : readBase base before chars = some value) : before ≤ value := by
  induction chars generalizing before with
  | nil => exact (Option.some.inj found).le
  | cons digit rest inductionHypothesis =>
    obtain ⟨first, _, _, found⟩ := readBase_cons found
    have grown : before ≤ base * before := Nat.le_mul_of_pos_left before positive
    exact (grown.trans (Nat.le_add_right _ first)).trans (inductionHypothesis found)

/-- A mark that is no digit does not occur in a number. -/
theorem not_mem_of_readBase {base before value : Nat} {chars : Text} {mark : CodePoint}
    (noDigit : Hex.digitValue mark = none) (found : readBase base before chars = some value) :
    mark ∉ chars := by
  induction chars generalizing before with
  | nil => exact List.not_mem_nil
  | cons digit rest inductionHypothesis =>
    obtain ⟨first, _, valued, found⟩ := readBase_cons found
    rw [List.mem_cons, not_or]
    refine ⟨?_, inductionHypothesis found⟩
    rintro rfl
    rw [noDigit] at valued
    cases valued

theorem not_mem_of_cNumeral {part : Text} {value : Nat} {mark : CodePoint}
    (noDigit : Hex.digitValue mark = none)
    (noBase : mark ≠ Json.point 'x'.toNat ∧ mark ≠ Json.point 'X'.toNat)
    (found : cNumeral part = some value) : mark ∉ part := by
  have noZero : mark ≠ Json.point '0'.toNat := by
    rintro rfl
    have zero : Hex.digitValue (Json.point '0'.toNat) = some 0 := by decide
    rw [noDigit] at zero
    cases zero
  unfold cNumeral at found
  split at found
  · cases found
  · split at found
    · rename_i first rest zero
      subst zero
      cases rest with
      | nil => exact fun member => noZero (List.mem_singleton.mp member)
      | cons base digits =>
        rw [List.mem_cons, not_or]
        refine ⟨noZero, ?_⟩
        simp only at found
        split at found
        · rename_i hexadecimal
          split at found
          · cases found
          · rw [List.mem_cons, not_or]
            refine ⟨?_, not_mem_of_readBase noDigit found⟩
            rintro rfl
            exact hexadecimal.elim noBase.1 noBase.2
        · exact not_mem_of_readBase noDigit found
    · exact not_mem_of_readBase noDigit found

/-- The octets of the strict reader are numbers of the lenient one. -/
theorem cNumeral_of_parseOctet {octet : Text} {value : Nat}
    (found : parseOctet octet = some value) : cNumeral octet = some value ∧ value < 256 := by
  unfold parseOctet at found
  split at found
  · cases found
  · rename_i plain
    rw [not_or, not_or, not_and_or, not_not] at plain
    obtain ⟨filled, _, plain⟩ := plain
    obtain ⟨read, small⟩ := Option.filter_eq_some_iff.mp found
    refine ⟨?_, Nat.lt_succ_of_le (of_decide_eq_true small)⟩
    obtain rfl | noZero := plain
    · exact (show cNumeral (Json.text "0") = readBase 10 0 (Json.text "0") by decide).trans read
    · obtain ⟨first, rest, rfl⟩ := List.exists_cons_of_ne_nil filled
      have other : first ≠ Json.point '0'.toNat := fun same => noZero (congrArg some same)
      exact (if_neg other).trans read

theorem eq_zero_of_parseOctet {octet : Text} (found : parseOctet octet = some 0) :
    octet = Json.text "0" := by
  unfold parseOctet at found
  split at found
  · cases found
  · rename_i plain
    rw [not_or, not_or, not_and_or, not_not] at plain
    obtain ⟨filled, _, same | noZero⟩ := plain
    · exact same
    · obtain ⟨first, rest, rfl⟩ := List.exists_cons_of_ne_nil filled
      obtain ⟨read, _⟩ := Option.filter_eq_some_iff.mp found
      obtain ⟨value, _, valued, read⟩ := readBase_cons read
      have least := le_readBase (by decide) read
      obtain rfl : value = 0 := by omega
      exact absurd (congrArg some (digitValue_eq_zero valued)) noZero

/-! ### Octets -/

theorem fillOctets_lt {left : Nat} {numbers : List Nat} (fills : fillsOctets left numbers = true) :
    fillOctets left numbers < 256 ^ left := by
  induction left generalizing numbers with
  | zero => cases fills
  | succ left inductionHypothesis =>
    cases numbers with
    | nil => cases fills
    | cons first rest =>
      rw [fillsOctets] at fills
      rw [fillOctets]
      by_cases last : rest = []
      · rw [if_pos last] at fills ⊢
        exact of_decide_eq_true fills
      · rw [if_neg last, Bool.and_eq_true, decide_eq_true_eq] at fills
        rw [if_neg last]
        calc first * 256 ^ left + fillOctets left rest
            < first * 256 ^ left + 256 ^ left := Nat.add_lt_add_left (inductionHypothesis fills.2) _
          _ = (first + 1) * 256 ^ left := (Nat.succ_mul _ _).symm
          _ ≤ 256 * 256 ^ left := Nat.mul_le_mul_right _ fills.1
          _ = 256 ^ (left + 1) := (pow_succ' 256 left).symm

/-- The first of several numbers is the highest octet. -/
theorem fillOctets_div {left first : Nat} {rest : List Nat} (more : rest ≠ [])
    (fills : fillsOctets (left + 1) (first :: rest) = true) :
    fillOctets (left + 1) (first :: rest) / 256 ^ left = first := by
  rw [fillsOctets, if_neg more, Bool.and_eq_true] at fills
  rw [fillOctets, if_neg more, add_comm, Nat.add_mul_div_right _ _ (Nat.pow_pos (by decide)),
    Nat.div_eq_of_lt (fillOctets_lt fills.2), Nat.zero_add]

/-- Numbers that fill octets make zero exactly when they all are. -/
theorem fillOctets_eq_zero_iff {left : Nat} {numbers : List Nat}
    (fills : fillsOctets left numbers = true) :
    fillOctets left numbers = 0 ↔ ∀ number ∈ numbers, number = 0 := by
  induction left generalizing numbers with
  | zero => cases fills
  | succ left inductionHypothesis =>
    cases numbers with
    | nil => cases fills
    | cons first rest =>
      rw [fillsOctets] at fills
      rw [fillOctets, List.forall_mem_cons]
      by_cases last : rest = []
      · subst last
        simp
      · rw [if_neg last, Bool.and_eq_true] at fills
        rw [if_neg last, Nat.add_eq_zero_iff, inductionHypothesis fills.2, Nat.mul_eq_zero]
        simp [Nat.pow_eq_zero]

/-! ### The readers -/

theorem parseIpv4_cases {chars : Text} {address : Nat} (found : parseIpv4 chars = some address) :
    ∃ parts octets, Strings.split (Json.point '.'.toNat) chars = parts ∧
      List.Forall₂ (fun part octet => parseOctet part = some octet) parts octets ∧
      octets.length = 4 ∧ ofOctets octets = address := by
  obtain ⟨octets, read, found⟩ := Option.bind_eq_some_iff.mp found
  split at found
  · rename_i four
    exact ⟨_, octets, rfl, Fallible.mapM_eq_some_iff.mp read, four, Option.some.inj found⟩
  · cases found

/-- What the strict reader takes, the lenient one takes as the same address. -/
theorem inetAton_of_parseIpv4 {chars : Text} {address : Nat}
    (found : parseIpv4 chars = some address) : inetAton chars = some address := by
  obtain ⟨parts, octets, split, each, four, rfl⟩ := parseIpv4_cases found
  have numerals : cNumerals chars = some octets := by
    rw [cNumerals, split]
    exact Fallible.mapM_eq_some_iff.mpr (each.imp fun _ _ octet => (cNumeral_of_parseOctet octet).1)
  obtain ⟨first, second, third, fourth, rfl⟩ := List.length_eq_four.mp four
  obtain _ | ⟨one, _ | ⟨two, _ | ⟨three, _ | ⟨four, _⟩⟩⟩⟩ := each
  have fills : fillsOctets 4 [first, second, third, fourth] = true := by
    simp [fillsOctets, (cNumeral_of_parseOctet one).2, (cNumeral_of_parseOctet two).2,
      (cNumeral_of_parseOctet three).2, (cNumeral_of_parseOctet four).2]
  have filled : fillOctets 4 [first, second, third, fourth] =
      ofOctets [first, second, third, fourth] := by
    simp only [fillOctets, ofOctets, List.foldl_cons, List.foldl_nil, reduceCtorEq, if_false,
      if_true]
    omega
  rw [inetAton, numerals, ← filled]
  exact if_pos fills

/-- The strict reader takes one text for the address of zeros. -/
theorem eq_zeros_of_parseIpv4 {chars : Text} (found : parseIpv4 chars = some 0) :
    chars = Json.text "0.0.0.0" := by
  obtain ⟨parts, octets, split, each, four, zero⟩ := parseIpv4_cases found
  obtain ⟨first, second, third, fourth, rfl⟩ := List.length_eq_four.mp four
  simp only [ofOctets, List.foldl_cons, List.foldl_nil] at zero
  obtain ⟨rfl, rfl, rfl, rfl⟩ : first = 0 ∧ second = 0 ∧ third = 0 ∧ fourth = 0 := by omega
  obtain _ | ⟨one, _ | ⟨two, _ | ⟨three, _ | ⟨four, last⟩⟩⟩⟩ := each
  obtain rfl := List.forall₂_nil_right_iff.mp last
  rw [← Strings.intercalate_split (Json.point '.'.toNat) chars, split, eq_zero_of_parseOctet one,
    eq_zero_of_parseOctet two, eq_zero_of_parseOctet three, eq_zero_of_parseOctet four]
  decide

/-- The lenient reader takes no text with a colon. -/
theorem colon_not_mem_of_inetAton {chars : Text} {address : Nat}
    (found : inetAton chars = some address) : Json.point ':'.toNat ∉ chars := by
  obtain ⟨numbers, read, _⟩ := Option.bind_eq_some_iff.mp found
  rw [Strings.mem_iff_mem_split (show _ ≠ Json.point '.'.toNat by decide)]
  rintro ⟨part, member, colon⟩
  cases spelled : cNumeral part with
  | none =>
    rw [cNumerals, Fallible.mapM_eq_none_iff.mpr ⟨part, member, spelled⟩] at read
    cases read
  | some value => exact not_mem_of_cNumeral (by decide) (by decide) spelled colon

/-- An IPv6 address has a colon. -/
theorem colon_mem_of_parseIpv6 {chars : Text} {address : Nat}
    (found : parseIpv6 chars = some address) : Json.point ':'.toNat ∈ chars := by
  unfold parseIpv6 at found
  split at found
  · cases found
  · obtain ⟨digits, scope, found⟩ := Option.bind_eq_some_iff.mp found
    have listed : digits ∈ Strings.split (Json.point '%'.toNat) chars := by
      unfold withoutScope at scope
      split at scope
      · rename_i only
        rw [only]
        exact List.mem_singleton.mpr (Option.some.inj scope).symm
      · rename_i both
        split at scope
        · cases scope
        · rw [both, ← Option.some.inj scope]
          exact List.mem_cons_self
      · cases scope
    by_contra absent
    have noColon : Json.point ':'.toNat ∉ digits := fun colon =>
      absent ((Strings.mem_iff_mem_split (by decide)).mpr ⟨digits, listed, colon⟩)
    rw [parseHextets, Strings.split_eq_singleton noColon] at found
    cases found

end IpAddress
