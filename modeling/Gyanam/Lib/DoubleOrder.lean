/-
This file places doubles on a line, from the negative infinity up to the
positive one. Where neither of two doubles is NaN, the comparison of doubles is
the order of the line, and it is total. The double next to a ratio is never NaN.
-/

import Gyanam.Lib.Json
import Mathlib.Algebra.Order.Ring.Rat
import Mathlib.Order.WithBot

namespace Double

/-- The place of a double on the line. What is not a number is put at the end. -/
def level : Double → WithBot (WithTop Rat)
  | .finite value => ((value : WithTop Rat) : WithBot (WithTop Rat))
  | .infinite true => ⊥
  | .infinite false => ((⊤ : WithTop Rat) : WithBot (WithTop Rat))
  | .nan => ((⊤ : WithTop Rat) : WithBot (WithTop Rat))

theorem lt_iff_level {first second : Double} (number : first ≠ .nan) (number' : second ≠ .nan) :
    first.lt second = true ↔ first.level < second.level := by
  cases first with
  | nan => exact absurd rfl number
  | finite value =>
    cases second with
    | nan => exact absurd rfl number'
    | finite value' => simp [lt, level]
    | infinite negative =>
      cases negative with
      | true => simp [lt, level]
      | false => exact iff_of_true rfl (WithBot.coe_lt_coe.mpr (WithTop.coe_lt_top value))
  | infinite negative =>
    cases second with
    | nan => exact absurd rfl number'
    | finite value => cases negative <;> simp [lt, level]
    | infinite negative' => cases negative <;> cases negative' <;> simp [lt, level]

theorem ne_nan_of_lt {first second : Double} (less : first.lt second = true) :
    first ≠ .nan ∧ second ≠ .nan := by
  constructor
  · rintro rfl
    cases second <;> cases less
  · rintro rfl
    cases first <;> cases less

theorem lt_irrefl (number : Double) : number.lt number = false := by
  cases number with
  | finite value => exact decide_eq_false (not_lt_of_ge (le_refl value))
  | infinite negative => cases negative <;> rfl
  | nan => rfl

theorem lt_trans {first second third : Double} (less : first.lt second = true)
    (less' : second.lt third = true) : first.lt third = true := by
  have number := ne_nan_of_lt less
  have number' := ne_nan_of_lt less'
  rw [lt_iff_level number.1 number.2] at less
  rw [lt_iff_level number.2 number'.2] at less'
  exact (lt_iff_level number.1 number'.2).mpr (less.trans less')

theorem ofRatio_ne_nan (numerator : Int) (denominator : Nat) :
    ofRatio numerator denominator ≠ .nan := by
  rw [ofRatio]
  cases nearest numerator.natAbs denominator <;> simp

end Double
