/-
This file says which spellings of a loopback or unspecified address the check of
a host lets through. A host is checked against a few literals, then read as an
IP address by the strict rules, of which only loopbacks are refused, and else as
a hostname. A resolver reads the hosts that are no addresses by the lenient
rules, which take shortened, decimal, octal and hexadecimal numbers.

The library is that of Python 3.11: it takes one IPv6 address for a loopback, and
not the ones of IPv4 that are mapped to IPv6. How texts are lower-cased is a
parameter.
-/

import Gyanam.Lib.IpAddress
import Gyanam.TargetsImport

namespace Gyanam

open IpAddress (cNumerals fillOctets fillsOctets inetAton parseIpv4 parseIpv6)
open Json (Text)

/-! ### Addresses -/

/-- The network of IPv4 loopbacks. -/
def isLoopbackIpv4 (address : Nat) : Bool := decide (address / 2 ^ 24 = 127)

/-- The IPv6 loopback. -/
def isLoopbackIpv6 (address : Nat) : Bool := decide (address = 1)

/-- The hosts of the library: an IP address is one of IPv4, or else one of IPv6. -/
def systemLibrary (lower : Text → Text) : HostLibrary where
  lower := lower
  ipAddress host :=
    match parseIpv4 host with
    | some address => some (isLoopbackIpv4 address)
    | none => (parseIpv6 host).map isLoopbackIpv6

/-- An IPv4 address that is a loopback or unspecified. -/
def isLocalIpv4 (address : Nat) : Bool := isLoopbackIpv4 address || decide (address = 0)

/-- An IPv6 address to which an IPv4 one is mapped that is a loopback or unspecified. -/
def isMappedLocal (address : Nat) : Bool :=
  decide (address / 2 ^ 32 = 0xFFFF) && isLocalIpv4 (address % 2 ^ 32)

/-- An IPv6 address that is a loopback or unspecified. -/
def isLocalIpv6 (address : Nat) : Bool :=
  isLoopbackIpv6 address || decide (address = 0) || isMappedLocal address

/-- A host denotes a loopback or unspecified address: as a literal, or as resolvers read it. -/
def denotesLocal (host : Text) : Bool :=
  (parseIpv4 host).any isLocalIpv4 || (parseIpv6 host).any isLocalIpv6 ||
    (inetAton host).any isLocalIpv4

/-! ### What is overlooked -/

/-- Numbers that spell a loopback or unspecified address: a single one from the range of the
loopbacks, several of which the first is 127, or zeros. -/
def spellsLocal : List Nat → Bool
  | [] => false
  | first :: rest =>
    fillsOctets 4 (first :: rest) &&
      ((if rest = [] then decide (127 * 2 ^ 24 ≤ first) && decide (first < 128 * 2 ^ 24)
        else decide (first = 127)) ||
        (first :: rest).all fun number => decide (number = 0))

/-- A host that the check overlooks: the unspecified IPv6 address, an IPv6 address to which a
loopback or the unspecified address is mapped, or a hostname that is no dotted quad but spells
one of these in the notation of C. -/
def isOverlooked (host : Text) : Bool :=
  (parseIpv6 host).any (fun address => decide (address = 0) || isMappedLocal address) ||
    (isHostname host && (parseIpv4 host).isNone && (cNumerals host).any spellsLocal)

/-- A resolver takes the numbers that spell a local address for one. -/
theorem isLocalIpv4_fillOctets {numbers : List Nat} (fills : fillsOctets 4 numbers = true) :
    isLocalIpv4 (fillOctets 4 numbers) = spellsLocal numbers := by
  have zero :
      decide (fillOctets 4 numbers = 0) = numbers.all fun number => decide (number = 0) := by
    rw [Bool.eq_iff_iff, decide_eq_true_eq, IpAddress.fillOctets_eq_zero_iff fills]
    simp
  cases numbers with
  | nil => cases fills
  | cons first rest =>
    rw [isLocalIpv4, spellsLocal, zero, fills, Bool.true_and, isLoopbackIpv4]
    congr 1
    by_cases last : rest = []
    · rw [fillOctets, if_pos last, if_pos last, ← Bool.decide_and]
      refine decide_eq_decide.mpr ?_
      omega
    · have high := IpAddress.fillOctets_div last fills
      rw [if_neg last, show 2 ^ 24 = 256 ^ 3 by decide, high]

theorem inetAton_isLocalIpv4 (host : Text) :
    (inetAton host).any isLocalIpv4 = (cNumerals host).any spellsLocal := by
  rw [inetAton]
  cases cNumerals host with
  | none => rfl
  | some numbers =>
    show (if fillsOctets 4 numbers = true then some (fillOctets 4 numbers) else none).any
      isLocalIpv4 = spellsLocal numbers
    by_cases fills : fillsOctets 4 numbers = true
    · rw [if_pos fills]
      exact isLocalIpv4_fillOctets fills
    · rw [if_neg fills]
      cases numbers with
      | nil => rfl
      | cons first rest =>
        rw [spellsLocal, Bool.eq_false_iff.mpr fills]
        rfl

/-! ### What is accepted -/

/-- The accepted hosts that denote a local address are those that are overlooked. -/
theorem acceptsHost_local (lower : Text → Text) (host : Text) :
    (acceptsHost (systemLibrary lower) host && denotesLocal host) = isOverlooked host := by
  have blockedLiterals : ∀ blocked ∈ blockedHosts, isOverlooked blocked = false := by decide
  by_cases blocked : host ∈ blockedHosts
  · have refused : acceptsHost (systemLibrary lower) host = false := by
      rw [acceptsHost, List.any_eq_true.mpr ⟨host, blocked, decide_eq_true rfl⟩]
      rfl
    rw [blockedLiterals host blocked, refused]
    rfl
  · have free : (blockedHosts.any fun literal => decide (host = literal)) = false := by
      refine List.any_eq_false.mpr fun literal listed => ?_
      rw [decide_eq_true_eq]
      rintro rfl
      exact blocked listed
    rw [acceptsHost, free, denotesLocal, isOverlooked, ← inetAton_isLocalIpv4]
    cases four : parseIpv4 host with
    | some address =>
      have lenient := IpAddress.inetAton_of_parseIpv4 four
      have noIpv6 : parseIpv6 host = none := by
        refine Option.eq_none_iff_forall_ne_some.mpr fun address six => ?_
        exact IpAddress.colon_not_mem_of_inetAton lenient (IpAddress.colon_mem_of_parseIpv6 six)
      have filled : address ≠ 0 := by
        rintro rfl
        exact blocked (IpAddress.eq_zeros_of_parseIpv4 four ▸ by decide)
      rw [noIpv6, lenient]
      cases loopback : isLoopbackIpv4 address <;>
        simp [systemLibrary, four, isLocalIpv4, loopback, filled]
    | none =>
      cases six : parseIpv6 host with
      | some address =>
        have noLenient : inetAton host = none := by
          refine Option.eq_none_iff_forall_ne_some.mpr fun address lenient => ?_
          exact IpAddress.colon_not_mem_of_inetAton lenient (IpAddress.colon_mem_of_parseIpv6 six)
        rw [noLenient]
        by_cases loopback : address = 1
        · subst loopback
          simp [systemLibrary, four, six, isLocalIpv6, isLoopbackIpv6, isMappedLocal]
        · simp [systemLibrary, four, six, isLocalIpv6, isLoopbackIpv6, loopback]
      | none =>
        simp [systemLibrary, four, six]

/-- What is returned for a host denotes no loopback or unspecified address, exactly when the host is
empty or is not overlooked. -/
theorem validateHost_refuses_local_iff (lower : Text → Text) (host : Text) :
    (∀ result, validateHost (systemLibrary lower) host = .ok result →
        denotesLocal result = false) ↔
      Strings.strip host = [] ∨ isOverlooked (lower (Strings.strip host)) = false := by
  rw [← acceptsHost_local lower, Bool.and_eq_false_iff]
  constructor
  · intro refuses
    by_cases empty : Strings.strip host = []
    · exact Or.inl empty
    · refine Or.inr ?_
      cases accepted : acceptsHost (systemLibrary lower) (lower (Strings.strip host)) with
      | false => exact Or.inl rfl
      | true => exact Or.inr (refuses _ (validateHost_eq_ok_iff.mpr ⟨empty, accepted, rfl⟩))
  · intro condition result valid
    obtain ⟨filled, accepted, rfl⟩ := validateHost_eq_ok_iff.mp valid
    obtain empty | refused | remote := condition
    · exact absurd empty filled
    · exact Bool.noConfusion (refused.symm.trans accepted)
    · exact remote

/-- The loopback address in shortened, decimal, hexadecimal and octal form, two spellings of the
unspecified address, and an IPv6 address to which the loopback is mapped. -/
def localSpellings : List Text :=
  ["127.1", "2130706433", "0x7f.1", "0177.0.0.1", "0", "::", "::ffff:127.0.0.1"].map Json.text

/-- They are all accepted, and denote what is to be refused. -/
theorem localSpellings_accepted :
    localSpellings.map (fun host => (validateHost (systemLibrary Strings.lower) host,
      denotesLocal host)) = localSpellings.map fun host => (.ok host, true) := by
  decide +kernel

end Gyanam
