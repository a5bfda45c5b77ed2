/-
This file reads and writes numbers as little-endian octets. Some octets stand for
the number that has them as its digits to the base 256, the lowest first. A
record holds a number at an offset when the octets of the number stand there,
and a number that is read in two halves is the number that is read at once.
-/

import Mathlib.Data.Nat.Bitwise
import Mathlib.Data.Nat.Digits.Lemmas

namespace LittleEndian

/-- The number that some octets stand for. -/
def value (octets : List UInt8) : Nat := Nat.ofDigits 256 (octets.map UInt8.toNat)

/-- The octets of a number, as many as the width. -/
def encode : Nat → Nat → List UInt8
  | 0, _ => []
  | width + 1, number => UInt8.ofNat number :: encode width (number / 256)

/-- Read the number of a width at an offset of a record. -/
def read (width : Nat) (raw : List UInt8) (offset : Nat) : Nat :=
  value ((raw.drop offset).take width)

/-- Read some numbers of a width, the first at an offset and each behind the one before. -/
def readArray (width count : Nat) (raw : List UInt8) (offset : Nat) : List Nat :=
  (List.range count).map fun index => read width raw (offset + width * index)

/-- A record holds a number of a width at an offset. -/
def Holds (width : Nat) (raw : List UInt8) (offset number : Nat) : Prop :=
  (raw.drop offset).take width = encode width number

instance (width : Nat) (raw : List UInt8) (offset number : Nat) :
    Decidable (Holds width raw offset number) :=
  inferInstanceAs (Decidable ((raw.drop offset).take width = encode width number))

theorem length_encode (width number : Nat) : (encode width number).length = width := by
  induction width generalizing number with
  | zero => rfl
  | succ width inductionHypothesis => rw [encode, List.length_cons, inductionHypothesis]

theorem value_append (front back : List UInt8) :
    value (front ++ back) = value front + 256 ^ front.length * value back := by
  rw [value, List.map_append, Nat.ofDigits_append, List.length_map]
  rfl

theorem value_lt (octets : List UInt8) : value octets < 256 ^ octets.length := by
  have bound := Nat.ofDigits_lt_base_pow_length (b := 256) (l := octets.map UInt8.toNat)
    (by decide) fun digit member => by
      obtain ⟨octet, _, rfl⟩ := List.mem_map.mp member
      exact octet.toNat_lt
  rwa [List.length_map] at bound

/-- The octets of a number stand for it, as far as it fits their width. -/
theorem value_encode (width number : Nat) : value (encode width number) = number % 256 ^ width := by
  induction width generalizing number with
  | zero => rw [pow_zero, Nat.mod_one]; rfl
  | succ width inductionHypothesis =>
    have first : (UInt8.ofNat number).toNat = number % 256 := UInt8.toNat_ofNat'
    have rest := inductionHypothesis (number / 256)
    rw [value] at rest ⊢
    rw [encode, List.map_cons, Nat.ofDigits_cons, rest, first, pow_succ', Nat.mod_mul]

/-- A record that holds a number reads as this number. -/
theorem read_of_holds {width offset number : Nat} {raw : List UInt8}
    (holds : Holds width raw offset number) (fits : number < 256 ^ width) :
    read width raw offset = number := by
  rw [read, show (raw.drop offset).take width = _ from holds, value_encode, Nat.mod_eq_of_lt fits]

/-- A record that holds a number goes on as long as the number does. -/
theorem length_of_holds {width offset number : Nat} {raw : List UInt8}
    (holds : Holds width raw offset number) (filled : 0 < width) :
    offset + width ≤ raw.length := by
  have length := congrArg List.length holds
  rw [length_encode, List.length_take, List.length_drop] at length
  omega

/-- The halves of a number, the high one shifted, make up the number. -/
theorem halves_eq_read {half offset : Nat} {raw : List UInt8} (fits : offset + half ≤ raw.length) :
    read half raw offset ||| (read half raw (offset + half) <<< (8 * half)) =
      read (half + half) raw offset := by
  have split : (raw.drop offset).take (half + half) =
      (raw.drop offset).take half ++ (raw.drop (offset + half)).take half := by
    rw [List.take_add, List.drop_drop]
  have length : ((raw.drop offset).take half).length = half := by
    rw [List.length_take, List.length_drop]
    omega
  have low := value_lt ((raw.drop offset).take half)
  rw [length, show (256 : Nat) = 2 ^ 8 from rfl, ← pow_mul] at low
  rw [read, read, read, split, value_append, length, Nat.lor_comm,
    ← Nat.shiftLeft_add_eq_or_of_lt low, Nat.shiftLeft_eq, show (256 : Nat) = 2 ^ 8 from rfl,
    ← pow_mul, add_comm, mul_comm]

end LittleEndian
