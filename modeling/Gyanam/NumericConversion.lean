/-
This file models the conversions of values to numbers with the exceptions that
occur inside them. The source converts in three places: in the extractor, in the
discovery, and in the discovery's test of what can be converted. Each catches
the exceptions of its calls in its own way. None of them lets an exception out,
and the three are one function.

How a text is read as a float and how it is put into lower case are parameters,
so nothing rests on a model of either. With the models of both, these are the
conversions that extraction and discovery are built from.
-/

import Gyanam.Extractor

namespace Gyanam.Raising

open Json (Text)

/-! ### Exceptions -/

/-- The exceptions that the conversions know. -/
inductive ConversionError where
  | value
  | overflow
  | type
  deriving DecidableEq

/-- A try block with one handler, for the exceptions of some classes. -/
def tryExcept {Value : Type} (classes : List ConversionError)
    (body handler : Except ConversionError Value) : Except ConversionError Value :=
  match body with
  | .ok value => .ok value
  | .error error => if error ∈ classes then handler else .error error

/-- The float of an integer; one that is too large raises. -/
def floatOfInt (value : Int) : Except ConversionError Double :=
  match Double.ofRatio value 1 with
  | .finite number => .ok (.finite number)
  | _ => .error .overflow

/-- Whether a float is finite. -/
def isFinite : Double → Bool
  | .finite _ => true
  | _ => false

/-! ### The conversions -/

section Conversions

variable (parse : Text → Option Double) (lower : Text → Text)

/-- The float that a text spells; one that spells none raises. -/
def floatOfText (chars : Text) : Except ConversionError Double :=
  match parse chars with
  | some number => .ok number
  | none => .error .value

/-- The number of a value, in the extractor. -/
def MetricExtractor.toNumeric : Json → Except ConversionError (Option Double)
  | .null => return none
  | .bool value => return some (.finite (if value then 1 else 0))
  | .int value => do
    match ← tryExcept [.overflow, .value] (some <$> floatOfInt value) (return none) with
    | none => return none
    | some number => return if isFinite number then some number else none
  | .float number => return if isFinite number then some number else none
  | .string chars =>
    tryExcept [.value, .overflow]
      (do
        let number ← floatOfText parse chars
        return if isFinite number then some number else none)
      (if lower chars ∈ onWords then return some (.finite 1)
      else if lower chars ∈ offWords then return some (.finite 0)
      else return none)
  | .array _ => return none
  | .object _ => return none

/-- The number of a value, in the discovery. It does not look at null. -/
def MetricDiscovery.toNumeric : Json → Except ConversionError (Option Double)
  | .bool value => return some (.finite (if value then 1 else 0))
  | .int value => do
    match ← tryExcept [.overflow, .value] (some <$> floatOfInt value) (return none) with
    | none => return none
    | some number => return if isFinite number then some number else none
  | .float number => return if isFinite number then some number else none
  | .string chars =>
    tryExcept [.value, .overflow]
      (do
        let number ← floatOfText parse chars
        return if isFinite number then some number else none)
      (if lower chars ∈ onWords then return some (.finite 1)
      else if lower chars ∈ offWords then return some (.finite 0)
      else return none)
  | _ => return none

/-- The words that the discovery's test knows, in its own order. -/
def numericWords : List Text :=
  ["true", "false", "yes", "no", "on", "off", "enabled", "disabled", "ok", "error", "healthy",
    "unhealthy"].map Json.text

/-- Whether a value can be converted. An integer is tested as it is, and raises where its float
does. -/
def MetricDiscovery.isNumeric : Json → Except ConversionError Bool
  | .bool _ => return true
  | .int value => tryExcept [.overflow, .type] (isFinite <$> floatOfInt value) (return false)
  | .float number => return isFinite number
  | .string chars =>
    tryExcept [.value, .overflow] (isFinite <$> floatOfText parse chars)
      (return decide (lower chars ∈ numericWords))
  | _ => return false

/-! ### One function -/

/-- The number that a value is, as a function without exceptions. -/
def numberOf : Json → Option Double
  | .bool value => some (.finite (if value then 1 else 0))
  | .int value => finiteOnly (Double.ofRatio value 1)
  | .float number => finiteOnly number
  | .string chars =>
    match parse chars with
    | some number => finiteOnly number
    | none =>
      if lower chars ∈ onWords then some (.finite 1)
      else if lower chars ∈ offWords then some (.finite 0)
      else none
  | _ => none

theorem finiteOnly_eq (number : Double) :
    finiteOnly number = if isFinite number then some number else none := by
  cases number <;> rfl

theorem isSome_finiteOnly (number : Double) : (finiteOnly number).isSome = isFinite number := by
  cases number <;> rfl

theorem mem_numericWords (word : Text) :
    word ∈ numericWords ↔ word ∈ onWords ∨ word ∈ offWords := by
  have inward : numericWords ⊆ onWords ++ offWords := by decide
  have outward : onWords ++ offWords ⊆ numericWords := by decide
  rw [← List.mem_append]
  exact ⟨fun member => inward member, fun member => outward member⟩

theorem MetricExtractor.toNumeric_eq (value : Json) :
    MetricExtractor.toNumeric parse lower value = .ok (numberOf parse lower value) := by
  cases value with
  | null => rfl
  | bool value => rfl
  | int value =>
    simp only [MetricExtractor.toNumeric, numberOf, floatOfInt]
    cases Double.ofRatio value 1 <;> rfl
  | float number => exact congrArg Except.ok (finiteOnly_eq number).symm
  | string chars =>
    simp only [MetricExtractor.toNumeric, numberOf, floatOfText]
    cases parse chars with
    | some number => exact congrArg Except.ok (finiteOnly_eq number).symm
    | none =>
      simp only [tryExcept]
      split_ifs <;> rfl
  | array items => rfl
  | object members => rfl

theorem MetricDiscovery.toNumeric_eq (value : Json) :
    MetricDiscovery.toNumeric parse lower value = .ok (numberOf parse lower value) := by
  rw [← MetricExtractor.toNumeric_eq]
  cases value <;> rfl

theorem MetricDiscovery.isNumeric_eq (value : Json) :
    MetricDiscovery.isNumeric parse lower value = .ok (numberOf parse lower value).isSome := by
  cases value with
  | null => rfl
  | bool value => rfl
  | int value =>
    simp only [MetricDiscovery.isNumeric, numberOf, floatOfInt]
    cases Double.ofRatio value 1 <;> rfl
  | float number => exact congrArg Except.ok (isSome_finiteOnly number).symm
  | string chars =>
    simp only [MetricDiscovery.isNumeric, numberOf, floatOfText]
    cases parse chars with
    | some number => exact congrArg Except.ok (isSome_finiteOnly number).symm
    | none =>
      -- Both orders of the words hold the same words.
      refine congrArg Except.ok (Bool.eq_iff_iff.mpr ?_)
      rw [decide_eq_true_iff, mem_numericWords]
      by_cases on : lower chars ∈ onWords
      · simp [on]
      · by_cases off : lower chars ∈ offWords <;> simp [on, off]
  | array items => rfl
  | object members => rfl

/-- A number is never infinite, nor is it none. -/
theorem finite_of_numberOf {value : Json} {number : Double}
    (converted : numberOf parse lower value = some number) : isFinite number = true := by
  have only {given : Double} (kept : finiteOnly given = some number) :
      isFinite number = true := by
    rw [finiteOnly_eq] at kept
    split at kept
    · next finite => exact Option.some.inj kept ▸ finite
    · cases kept
  cases value with
  | null => cases converted
  | bool value => exact Option.some.inj converted ▸ rfl
  | int value => exact only converted
  | float number => exact only converted
  | string chars =>
    simp only [numberOf] at converted
    split at converted
    · exact only converted
    · split_ifs at converted
      · exact Option.some.inj converted ▸ rfl
      · exact Option.some.inj converted ▸ rfl
  | array items => cases converted
  | object members => cases converted

/-- Whatever a value is, the extractor and the discovery convert it to the same, the test holds
exactly when that is a number, and the number is finite. No exception comes out of any of them. -/
theorem conversions_agree (value : Json) : ∃ result : Option Double,
    MetricExtractor.toNumeric parse lower value = .ok result ∧
      MetricDiscovery.toNumeric parse lower value = .ok result ∧
      MetricDiscovery.isNumeric parse lower value = .ok result.isSome ∧
      ∀ number, result = some number → isFinite number = true :=
  ⟨numberOf parse lower value, MetricExtractor.toNumeric_eq parse lower value,
    MetricDiscovery.toNumeric_eq parse lower value, MetricDiscovery.isNumeric_eq parse lower value,
    fun _ => finite_of_numberOf parse lower⟩

end Conversions

/-! ### The conversions without exceptions -/

/-- Extraction and discovery are modelled with this function, for the float of a text and its lower
case as these are modelled. -/
theorem numberOf_eq (value : Json) :
    numberOf Strings.toFloat Strings.lower value = Gyanam.MetricExtractor.toNumeric value := by
  cases value with
  | string chars =>
    cases parsed : Strings.toFloat chars with
    | some number => simp only [numberOf, Gyanam.MetricExtractor.toNumeric, parsed]
    | none =>
      simp only [numberOf, Gyanam.MetricExtractor.toNumeric, parsed, List.contains_iff_mem]
  | _ => rfl

end Gyanam.Raising

namespace Gyanam

/-- The discovery converts what the extractor converts. -/
theorem toNumeric_discovery (value : Json) :
    MetricDiscovery.toNumeric value = MetricExtractor.toNumeric value := by
  cases value <;> rfl

/-- The discovery's test holds of what it converts. -/
theorem isNumeric_discovery (value : Json) :
    MetricDiscovery.isNumeric value = (MetricDiscovery.toNumeric value).isSome := by
  rw [toNumeric_discovery, ← Raising.numberOf_eq]
  cases value with
  | string chars =>
    simp only [MetricDiscovery.isNumeric, Raising.numberOf]
    cases Strings.toFloat chars with
    | some number => rfl
    | none =>
      by_cases on : Strings.lower chars ∈ onWords
      · simp [on]
      · by_cases off : Strings.lower chars ∈ offWords <;> simp [on, off]
  | _ => rfl

end Gyanam
