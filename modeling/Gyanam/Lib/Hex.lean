/-
This file writes numbers as hexadecimal texts, and reads them back. A text has
the small letters as digits, and zeros in front up to a width. Reading is for
texts that are written so: a sign, spaces and underscores are refused.

It also builds the number without its low bits, which is the largest multiple of
a power of two that does not exceed it.
-/

import Gyanam.Lib.Strings
import Mathlib.Data.Nat.Bitwise
import Mathlib.Order.Bounds.Defs

namespace Hex

open Json (CodePoint Text)

/-! ### Texts -/

/-- The digits of a number, at least as many as a width. -/
def digits (width value : Nat) : Text :=
  ((Nat.toDigits 16 value).leftpad width '0').map fun digit => Json.point digit.toNat

/-- A number with the mark of its base. -/
def literal (width value : Nat) : Text := Json.text "0x" ++ digits width value

/-- The value of a hexadecimal digit. -/
def digitValue (digit : CodePoint) : Option Nat :=
  if digit.val < 0x80 then Json.hexValue (Char.ofNat digit.val) else none

/-- The number that some digits spell after the digits that were read before. -/
def readDigits : Nat → Text → Option Nat
  | before, [] => some before
  | before, digit :: rest => do
    let value ← digitValue digit
    readDigits (16 * before + value) rest

/-- The number that a text spells. -/
def read (chars : Text) : Option Nat :=
  if Json.text "0x" <+: chars ∧ chars ≠ Json.text "0x" then readDigits 0 (chars.drop 2) else none

theorem readDigits_append {before value : Nat} {front : Text}
    (found : readDigits before front = some value) (back : Text) :
    readDigits before (front ++ back) = readDigits value back := by
  induction front generalizing before with
  | nil =>
    obtain rfl := Option.some.inj found
    rfl
  | cons digit rest inductionHypothesis =>
    obtain ⟨digitValue', valued, found⟩ := Option.bind_eq_some_iff.mp found
    rw [List.cons_append, readDigits, valued]
    exact inductionHypothesis found

theorem digitValue_digitChar :
    ∀ digit < 16, digitValue (Json.point (Nat.digitChar digit).toNat) = some digit := by
  decide

/-- Zeros in front do not matter. -/
theorem readDigits_zeros (count : Nat) :
    readDigits 0 ((List.replicate count '0').map fun digit => Json.point digit.toNat) = some 0 := by
  induction count with
  | zero => rfl
  | succ count inductionHypothesis =>
    have zero : digitValue (Json.point '0'.toNat) = some 0 := by decide
    rw [List.replicate_succ, List.map_cons, readDigits, zero]
    exact inductionHypothesis

/-- The digits of a number spell it. -/
theorem readDigits_toDigits (value : Nat) :
    readDigits 0 ((Nat.toDigits 16 value).map fun digit => Json.point digit.toNat) =
      some value := by
  induction value using Nat.strongRecOn with
  | ind value inductionHypothesis =>
    have last := digitValue_digitChar (value % 16) (Nat.mod_lt _ (by decide))
    by_cases small : value < 16
    · rw [Nat.mod_eq_of_lt small] at last
      rw [Nat.toDigits_of_lt_base small, List.map_cons, readDigits, last]
      exact congrArg some (Nat.zero_add value)
    · have shorter := inductionHypothesis (value / 16) (Nat.div_lt_self (by omega) (by decide))
      rw [Nat.toDigits_eq_if (by decide), if_neg small, List.map_append,
        readDigits_append shorter, List.map_cons, List.map_nil, readDigits, last]
      exact congrArg some (Nat.div_add_mod value 16)

theorem readDigits_digits (width value : Nat) : readDigits 0 (digits width value) = some value := by
  rw [digits, List.leftpad, List.map_append, readDigits_append (readDigits_zeros _),
    readDigits_toDigits]

/-- The text of a number spells it. -/
theorem read_literal (width value : Nat) : read (literal width value) = some value := by
  have filled : digits width value ≠ [] := by
    rw [digits, List.leftpad, List.map_append]
    exact List.append_ne_nil_of_right_ne_nil _ (mt List.map_eq_nil_iff.mp Nat.toDigits_ne_nil)
  have longer : literal width value ≠ Json.text "0x" := fun same =>
    filled (List.append_cancel_left (same.trans (List.append_nil _).symm))
  rw [read, if_pos ⟨List.prefix_append _ _, longer⟩]
  exact readDigits_digits width value

/-! ### Low bits -/

/-- A number without the bits of a mask of low bits is the largest multiple of their power of two
that is at most the number. -/
theorem isGreatest_ldiff_mask (number bits : Nat) :
    IsGreatest {multiple | 2 ^ bits ∣ multiple ∧ multiple ≤ number}
      (Nat.ldiff number (2 ^ bits - 1)) := by
  have floor : Nat.ldiff number (2 ^ bits - 1) = number / 2 ^ bits * 2 ^ bits := by
    refine Nat.eq_of_testBit_eq fun index => ?_
    rw [Nat.testBit_ldiff, Nat.testBit_two_pow_sub_one, Nat.testBit_mul_two_pow,
      Nat.testBit_div_two_pow]
    by_cases low : index < bits
    · simp [low, not_le.mpr low]
    · simp [low, not_lt.mp low, Nat.sub_add_cancel (not_lt.mp low)]
  rw [floor]
  refine ⟨⟨Nat.dvd_mul_left _ _, Nat.div_mul_le_self _ _⟩, ?_⟩
  rintro multiple ⟨⟨quotient, rfl⟩, below⟩
  rw [mul_comm] at below ⊢
  exact Nat.mul_le_mul_right _ ((Nat.le_div_iff_mul_le (Nat.two_pow_pos bits)).mpr below)

end Hex
