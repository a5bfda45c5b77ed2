/-
This file builds the UTF-8 text of code points as a program that is strict about
it writes and reads it: a surrogate has no octets, and octets that spell one are
no text. What is written is read back.
-/

import Gyanam.Lib.Json

namespace Encoding

open Json (CodePoint Text)

/-- Half of a pair that stands for one character. -/
def isSurrogate (point : CodePoint) : Bool := 0xD800 ≤ point.val && point.val ≤ 0xDFFF

/-- An octet of a number below 256. -/
def octet (value : Nat) : UInt8 := .ofNat value

/-- The octet that carries six bits on. -/
def continuation (bits : Nat) : UInt8 := octet (0x80 + bits % 0x40)

/-- The octets of a code point; a surrogate has none. -/
def encodePoint (point : CodePoint) : Option (List UInt8) :=
  if point.val < 0x80 then some [octet point.val]
  else if point.val < 0x800 then
    some [octet (0xC0 + point.val / 0x40), continuation point.val]
  else if isSurrogate point then none
  else if point.val < 0x10000 then
    some [octet (0xE0 + point.val / 0x1000), continuation (point.val / 0x40),
      continuation point.val]
  else
    some [octet (0xF0 + point.val / 0x40000), continuation (point.val / 0x1000),
      continuation (point.val / 0x40), continuation point.val]

/-- The octets of a text; a text with a surrogate has none. -/
def encode : Text → Option (List UInt8)
  | [] => some []
  | point :: rest => do
    let first ← encodePoint point
    let others ← encode rest
    return first ++ others

/-- The text that octets spell. -/
def decode (octets : List UInt8) : Option Text :=
  (Json.decodeUtf8 octets).filter fun chars => !chars.any isSurrogate

/-! ### What is written is read back -/

theorem toNat_octet {value : Nat} (small : value < 0x100) : (octet value).toNat = value := by
  rw [octet, UInt8.toNat_ofNat', Nat.mod_eq_of_lt small]

theorem toNat_continuation (bits : Nat) : (continuation bits).toNat = 0x80 + bits % 0x40 :=
  toNat_octet (by omega)

/-- A continuation octet within its bounds carries the value on. -/
theorem octet_continuation {owed low high value bits : Nat} {before : Text}
    (above : low ≤ 0x80 + bits % 0x40) (below : 0x80 + bits % 0x40 ≤ high) :
    Json.Utf8.octet ⟨owed + 2, low, high, value, before⟩ (continuation bits) =
      some { owed := owed + 1, value := 0x40 * value + bits % 0x40, decoded := before } := by
  simp [Json.Utf8.octet, toNat_continuation, not_lt.mpr above, not_lt.mpr below]

/-- The last one completes a character. -/
theorem octet_last {low high value bits : Nat} {before : Text}
    (above : low ≤ 0x80 + bits % 0x40) (below : 0x80 + bits % 0x40 ≤ high) :
    Json.Utf8.octet ⟨1, low, high, value, before⟩ (continuation bits) =
      some { decoded := before ++ [Json.point (0x40 * value + bits % 0x40)] } := by
  simp [Json.Utf8.octet, toNat_continuation, not_lt.mpr above, not_lt.mpr below]

/-- Between two characters the decoder reads the octets of one more. -/
theorem octets_encodePoint {point : CodePoint} {octets : List UInt8}
    (encoded : encodePoint point = some octets) (before : Text) :
    octets.foldlM Json.Utf8.octet { decoded := before } =
      some { decoded := before ++ [point] } := by
  have bound := point.isLt
  have self : ∀ value, value = point.val → Json.point value = point := by
    rintro value rfl
    exact Fin.ofNat_val_eq_self point
  unfold encodePoint at encoded
  split_ifs at encoded with one two surrogate three
  · obtain rfl := Option.some.inj encoded
    have first : (octet point.val).toNat = point.val := toNat_octet (by omega)
    simp [Json.Utf8.octet, first, one, self]
  · obtain rfl := Option.some.inj encoded
    have first : (octet (0xC0 + point.val / 0x40)).toNat = _ := toNat_octet (by omega)
    have lead : Json.Utf8.octet { decoded := before } (octet (0xC0 + point.val / 0x40)) =
        some { owed := 1, value := point.val / 0x40, decoded := before } := by
      simp only [Json.Utf8.octet, first]
      rw [if_neg (by omega), if_pos (by omega), Nat.add_sub_cancel_left]
    simp only [List.foldlM_cons, List.foldlM_nil, lead, Option.bind_eq_bind, Option.bind_some]
    rw [octet_last (by omega) (by omega), Option.bind_some, self _ (Nat.div_add_mod ..)]
    rfl
  · obtain rfl := Option.some.inj encoded
    have first : (octet (0xE0 + point.val / 0x1000)).toNat = _ := toNat_octet (by omega)
    have apart : point.val < 0xD800 ∨ 0xDFFF < point.val := by
      simpa [isSurrogate, imp_iff_not_or, not_le] using surrogate
    have lead : Json.Utf8.octet { decoded := before } (octet (0xE0 + point.val / 0x1000)) =
        some { owed := 2, value := point.val / 0x1000, decoded := before
               low := if point.val / 0x1000 = 0 then 0xA0 else 0x80 } := by
      simp only [Json.Utf8.octet, first]
      rw [if_neg (by omega), if_neg (by omega), if_pos (by omega), Nat.add_sub_cancel_left]
      simp
    simp only [List.foldlM_cons, List.foldlM_nil, lead, Option.bind_eq_bind, Option.bind_some]
    rw [octet_continuation (by split <;> omega) (by omega), Option.bind_some,
      octet_last (by omega) (by omega), Option.bind_some, self _ (by omega)]
    rfl
  · obtain rfl := Option.some.inj encoded
    have first : (octet (0xF0 + point.val / 0x40000)).toNat = _ := toNat_octet (by omega)
    have lead : Json.Utf8.octet { decoded := before } (octet (0xF0 + point.val / 0x40000)) =
        some { owed := 3, value := point.val / 0x40000, decoded := before
               low := if point.val / 0x40000 = 0 then 0x90 else 0x80
               high := if point.val / 0x40000 = 4 then 0x8F else 0xBF } := by
      simp only [Json.Utf8.octet, first]
      have last : 0xF0 + point.val / 0x40000 = 0xF4 ↔ point.val / 0x40000 = 4 := by omega
      rw [if_neg (by omega), if_neg (by omega), if_neg (by omega), if_pos (by omega),
        Nat.add_sub_cancel_left, if_congr last rfl rfl]
      simp
    simp only [List.foldlM_cons, List.foldlM_nil, lead, Option.bind_eq_bind, Option.bind_some]
    rw [octet_continuation (by split <;> omega) (by split <;> omega), Option.bind_some,
      octet_continuation (by omega) (by omega), Option.bind_some,
      octet_last (by omega) (by omega), Option.bind_some, self _ (by omega)]
    rfl

theorem octets_encode {chars : Text} {octets : List UInt8} (encoded : encode chars = some octets)
    (before : Text) :
    octets.foldlM Json.Utf8.octet { decoded := before } =
      some { decoded := before ++ chars } := by
  induction chars generalizing octets before with
  | nil =>
    obtain rfl := Option.some.inj encoded
    rw [List.append_nil]
    rfl
  | cons point rest inductionHypothesis =>
    simp only [encode, Option.bind_eq_bind, Option.bind_eq_some_iff, Option.pure_def,
      Option.some.injEq] at encoded
    obtain ⟨first, one, others, more, rfl⟩ := encoded
    rw [List.foldlM_append, octets_encodePoint one]
    refine (inductionHypothesis more _).trans ?_
    rw [List.append_assoc, List.singleton_append]

theorem not_isSurrogate_of_encode {chars : Text} {octets : List UInt8}
    (encoded : encode chars = some octets) : ∀ point ∈ chars, isSurrogate point = false := by
  induction chars generalizing octets with
  | nil => exact fun point member => absurd member List.not_mem_nil
  | cons point rest inductionHypothesis =>
    simp only [encode, Option.bind_eq_bind, Option.bind_eq_some_iff] at encoded
    obtain ⟨first, one, others, more, -⟩ := encoded
    refine List.forall_mem_cons.mpr ⟨?_, inductionHypothesis more⟩
    by_contra surrogate
    rw [Bool.not_eq_false, isSurrogate, Bool.and_eq_true, decide_eq_true_eq,
      decide_eq_true_eq] at surrogate
    rw [encodePoint, if_neg (by omega), if_neg (by omega),
      if_pos (by simp [isSurrogate, surrogate])] at one
    cases one

/-- The octets of a text spell it. -/
theorem decode_encode {chars : Text} {octets : List UInt8} (encoded : encode chars = some octets) :
    decode octets = some chars := by
  have none_surrogate : chars.any isSurrogate = false :=
    List.any_eq_false.mpr fun point member =>
      Bool.eq_false_iff.mp (not_isSurrogate_of_encode encoded point member)
  have whole := octets_encode encoded []
  rw [List.nil_append] at whole
  rw [decode, Json.decodeUtf8, show ({} : Json.Utf8) = { decoded := [] } from rfl, whole]
  simp [none_surrogate]

/-- The octets of a text in two parts. -/
theorem encode_append {front back : Text} :
    encode (front ++ back) = (encode front).bind fun first =>
      (encode back).map fun second => first ++ second := by
  induction front with
  | nil => simp [encode]
  | cons point rest inductionHypothesis =>
    simp only [List.cons_append, encode, inductionHypothesis, Option.bind_eq_bind]
    cases encodePoint point with
    | none => rfl
    | some first =>
      cases encode rest <;> cases encode back <;> simp

/-- A text in ASCII has octets. -/
theorem encode_of_ascii {chars : Text} (ascii : ∀ point ∈ chars, point.val < 0x80) :
    ∃ octets, encode chars = some octets := by
  induction chars with
  | nil => exact ⟨[], rfl⟩
  | cons point rest inductionHypothesis =>
    obtain ⟨here, later⟩ := List.forall_mem_cons.mp ascii
    obtain ⟨octets, encoded⟩ := inductionHypothesis later
    refine ⟨[octet point.val] ++ octets, ?_⟩
    rw [encode, encodePoint, if_pos here, encoded]
    rfl

end Encoding
