/-
This file proves that the ISO text of an instant determines it, for the instants
of the calendar. The text consists of numbers between separators, so it can be
read back piece by piece; what is left is that the civil date determines the day.
The date is computed era by era, in years that start in March, and each of its
numbers leaves as its remainder what the next one is computed from.
-/

import Gyanam.ShardManager
import Gyanam.Timestamps
import Mathlib.Data.List.Basic
import Mathlib.Tactic.IntervalCases

namespace Gyanam

/-! ### The numbers of a text -/

/-- The numbers that an ISO text is made of. -/
structure IsoFields where
  year : Int
  month : Int
  day : Int
  hour : Int
  minute : Int
  second : Int
  microsecond : Int

/-- The year of an era that a day of it falls in; years start in March. -/
def yearOfEra (dayOfEra : Int) : Int :=
  (dayOfEra - dayOfEra / 1460 + dayOfEra / 36524 - dayOfEra / 146096) / 365

/-- The day of its year that a day of an era is. -/
def dayOfYear (dayOfEra : Int) : Int :=
  dayOfEra - (365 * yearOfEra dayOfEra + yearOfEra dayOfEra / 4 - yearOfEra dayOfEra / 100)

/-- The month after March that a day of an era falls in. -/
def shiftedMonth (dayOfEra : Int) : Int := (5 * dayOfYear dayOfEra + 2) / 153

/-- The month that follows March after some months. -/
def monthOf (shifted : Int) : Int := if shifted < 10 then shifted + 3 else shifted - 9

/-- The day of its month that a day of an era is. -/
def dayOfMonth (dayOfEra : Int) : Int :=
  dayOfYear dayOfEra - (153 * shiftedMonth dayOfEra + 2) / 5 + 1

/-- The days from the start of the era that the year 0 belongs to. -/
def eraDays (instant : Time) : Int := instant / 86400000000 + 719468

/-- The numbers of an instant. -/
def isoFields (instant : Time) : IsoFields :=
  let dayOfEra := eraDays instant % 146097
  let month := monthOf (shiftedMonth dayOfEra)
  let seconds := instant % 86400000000 / 1000000
  { year := yearOfEra dayOfEra + eraDays instant / 146097 * 400 + if month ≤ 2 then 1 else 0
    month := month
    day := dayOfMonth dayOfEra
    hour := seconds / 3600
    minute := seconds / 60 % 60
    second := seconds % 60
    microsecond := instant % 86400000000 % 1000000 }

/-- The text of some numbers. -/
def IsoFields.text (fields : IsoFields) : String :=
  padded 4 fields.year.toNat ++ "-" ++ padded 2 fields.month.toNat ++ "-" ++
    padded 2 fields.day.toNat ++ "T" ++ padded 2 fields.hour.toNat ++ ":" ++
    padded 2 fields.minute.toNat ++ ":" ++ padded 2 fields.second.toNat ++
    if fields.microsecond = 0 then "" else "." ++ padded 6 fields.microsecond.toNat

theorem isoformat_eq (instant : Time) : isoformat instant = (isoFields instant).text := rfl

/-! ### Reading a text back -/

theorem toList_padded (width value : Nat) :
    (padded width value).toList =
      List.replicate (width - (toString value).length) '0' ++ Nat.toDigits 10 value := by
  rw [padded, String.toList_append, String.toList_ofList]
  exact congrArg _ Nat.toList_repr

/-- A padded number consists of digits. -/
theorem isDigit_of_mem_padded {width value : Nat} {char : Char}
    (member : char ∈ (padded width value).toList) : char.isDigit = true := by
  rw [toList_padded, List.mem_append] at member
  rcases member with zero | digit
  · rw [List.eq_of_mem_replicate zero]
    rfl
  · exact Nat.isDigit_of_mem_toDigits (by decide) (by decide) digit

theorem notMem_padded {width value : Nat} {char : Char} (mark : char.isDigit = false) :
    char ∉ (padded width value).toList := by
  intro member
  rw [isDigit_of_mem_padded member] at mark
  exact Bool.noConfusion mark

/-- A padded number determines the number. -/
theorem padded_injective {width first second : Nat}
    (same : (padded width first).toList = (padded width second).toList) : first = second := by
  have value : ∀ number, Nat.ofDigitChars 10 (padded width number).toList 0 = number := by
    intro number
    rw [toList_padded, Nat.ofDigitChars_append, Nat.ofDigitChars_replicate_zero, Nat.mul_zero,
      Nat.ofDigitChars_ten_toDigits]
  rw [← value first, same, value second]

/-- A padded number and the mark behind it can be read off a text. -/
theorem padded_append_inj {width first second : Nat} {mark : Char} {rest rest' : List Char}
    (noDigit : mark.isDigit = false)
    (same : (padded width first).toList ++ mark :: rest =
      (padded width second).toList ++ mark :: rest') : first = second ∧ rest = rest' := by
  have digits : ∀ (number : Nat) (after : List Char),
      ((padded width number).toList ++ mark :: after).takeWhile Char.isDigit =
        (padded width number).toList := by
    intro number after
    rw [List.takeWhile_append_of_pos fun _ => isDigit_of_mem_padded,
      List.takeWhile_cons_of_neg (by simp [noDigit]), List.append_nil]
  have number := congrArg (List.takeWhile Char.isDigit) same
  rw [digits, digits] at number
  rw [number] at same
  exact ⟨padded_injective number, List.tail_eq_of_cons_eq (List.append_cancel_left same)⟩

/-- The numbers of a text are none of them negative. -/
structure IsoFields.Readable (fields : IsoFields) : Prop where
  year : 0 ≤ fields.year
  month : 0 ≤ fields.month
  day : 0 ≤ fields.day
  hour : 0 ≤ fields.hour
  minute : 0 ≤ fields.minute
  second : 0 ≤ fields.second
  microsecond : 0 ≤ fields.microsecond

theorem eq_of_toNat_eq {first second : Int} (nonneg : 0 ≤ first) (nonneg' : 0 ≤ second)
    (same : first.toNat = second.toNat) : first = second := by
  rw [← Int.toNat_of_nonneg nonneg, same, Int.toNat_of_nonneg nonneg']

/-- The end of a text: the seconds, and the fraction if there is one. -/
theorem seconds_inj {first second : IsoFields} (readable : first.Readable)
    (readable' : second.Readable)
    (same : (padded 2 first.second.toNat).toList ++
        (if first.microsecond = 0 then "" else "." ++ padded 6 first.microsecond.toNat).toList =
      (padded 2 second.second.toNat).toList ++
        (if second.microsecond = 0 then "" else "." ++ padded 6 second.microsecond.toNat).toList) :
    first.second = second.second ∧ first.microsecond = second.microsecond := by
  have noDigit : '.'.isDigit = false := rfl
  have dotted : ∀ fraction, ("." ++ fraction : String).toList = '.' :: fraction.toList := by
    intro fraction
    rw [String.toList_append]
    rfl
  have empty : ("" : String).toList = [] := rfl
  split at same <;> split at same
  · next whole whole' =>
    rw [empty, List.append_nil, List.append_nil] at same
    exact ⟨eq_of_toNat_eq readable.second readable'.second (padded_injective same),
      whole.trans whole'.symm⟩
  · rw [empty, List.append_nil, dotted] at same
    have dot : '.' ∈ (padded 2 first.second.toNat).toList := by
      rw [same]
      simp
    exact absurd dot (notMem_padded noDigit)
  · rw [empty, List.append_nil, dotted] at same
    have dot : '.' ∈ (padded 2 second.second.toNat).toList := by
      rw [← same]
      simp
    exact absurd dot (notMem_padded noDigit)
  · rw [dotted, dotted] at same
    obtain ⟨seconds, fraction⟩ := padded_append_inj noDigit same
    exact ⟨eq_of_toNat_eq readable.second readable'.second seconds,
      eq_of_toNat_eq readable.microsecond readable'.microsecond (padded_injective fraction)⟩

/-- A text determines its numbers. -/
theorem text_inj {first second : IsoFields} (readable : first.Readable)
    (readable' : second.Readable) (same : first.text = second.text) :
    first.year = second.year ∧ first.month = second.month ∧ first.day = second.day ∧
      first.hour = second.hour ∧ first.minute = second.minute ∧
      first.second = second.second ∧ first.microsecond = second.microsecond := by
  have chars := congrArg String.toList same
  have dash : "-".toList = ['-'] := rfl
  have letter : "T".toList = ['T'] := rfl
  have colon : ":".toList = [':'] := rfl
  simp only [IsoFields.text, String.toList_append, dash, letter, colon, List.append_assoc,
    List.singleton_append] at chars
  obtain ⟨year, chars⟩ := padded_append_inj rfl chars
  obtain ⟨month, chars⟩ := padded_append_inj rfl chars
  obtain ⟨day, chars⟩ := padded_append_inj rfl chars
  obtain ⟨hour, chars⟩ := padded_append_inj rfl chars
  obtain ⟨minute, chars⟩ := padded_append_inj rfl chars
  obtain ⟨seconds, fraction⟩ := seconds_inj readable readable' chars
  exact ⟨eq_of_toNat_eq readable.year readable'.year year,
    eq_of_toNat_eq readable.month readable'.month month,
    eq_of_toNat_eq readable.day readable'.day day, eq_of_toNat_eq readable.hour readable'.hour hour,
    eq_of_toNat_eq readable.minute readable'.minute minute, seconds, fraction⟩

/-! ### The civil date -/

/-- An era has 400 years, and a year at most 366 days. -/
theorem dayOfYear_bounds {dayOfEra : Int} (low : 0 ≤ dayOfEra) (high : dayOfEra < 146097) :
    (0 ≤ yearOfEra dayOfEra ∧ yearOfEra dayOfEra ≤ 399) ∧
      0 ≤ dayOfYear dayOfEra ∧ dayOfYear dayOfEra ≤ 365 := by
  obtain ⟨year, yearEq⟩ : ∃ year, year = yearOfEra dayOfEra := ⟨_, rfl⟩
  rw [dayOfYear, ← yearEq]
  rw [yearOfEra] at yearEq
  have range : 0 ≤ year ∧ year ≤ 399 := by omega
  refine ⟨range, ?_⟩
  -- Once the centuries of the day and of the year are fixed, what is left is linear.
  obtain ⟨century, centuryEq⟩ : ∃ century, century = dayOfEra / 36524 := ⟨_, rfl⟩
  obtain ⟨last, lastEq⟩ : ∃ last, last = dayOfEra / 146096 := ⟨_, rfl⟩
  obtain ⟨hundreds, hundredsEq⟩ : ∃ hundreds, hundreds = year / 100 := ⟨_, rfl⟩
  rw [← centuryEq, ← lastEq] at yearEq
  rw [← hundredsEq]
  obtain ⟨centuryLow, centuryHigh⟩ : 0 ≤ century ∧ century ≤ 4 := by omega
  obtain ⟨lastLow, lastHigh⟩ : 0 ≤ last ∧ last ≤ 1 := by omega
  obtain ⟨hundredsLow, hundredsHigh⟩ : 0 ≤ hundreds ∧ hundreds ≤ 3 := by omega
  interval_cases last <;> interval_cases century <;> interval_cases hundreds <;> omega

theorem shiftedMonth_bounds {dayOfEra : Int} (low : 0 ≤ dayOfEra) (high : dayOfEra < 146097) :
    0 ≤ shiftedMonth dayOfEra ∧ shiftedMonth dayOfEra ≤ 11 := by
  obtain ⟨_, start, finish⟩ := dayOfYear_bounds low high
  rw [shiftedMonth]
  omega

/-- The months of a year are told apart by their numbers. -/
theorem monthOf_inj {first second : Int} (bounds : 0 ≤ first ∧ first ≤ 11)
    (bounds' : 0 ≤ second ∧ second ≤ 11) (same : monthOf first = monthOf second) :
    first = second := by
  rw [monthOf, monthOf] at same
  split at same <;> split at same <;> omega

/-- The year, the month and the day of the month determine the day of the era. -/
theorem dayOfEra_inj {first second : Int} (year : yearOfEra first = yearOfEra second)
    (month : shiftedMonth first = shiftedMonth second)
    (day : dayOfMonth first = dayOfMonth second) : first = second := by
  have dayInYear : dayOfYear first = dayOfYear second := by
    rw [dayOfMonth, dayOfMonth, month] at day
    omega
  rw [dayOfYear, dayOfYear, year] at dayInYear
  omega

theorem dayOfEra_bounds (instant : Time) :
    0 ≤ eraDays instant % 146097 ∧ eraDays instant % 146097 < 146097 :=
  ⟨Int.emod_nonneg _ (by decide), Int.emod_lt_of_pos _ (by decide)⟩

theorem micros_bounds (instant : Time) :
    0 ≤ instant % 86400000000 ∧ instant % 86400000000 < 86400000000 :=
  ⟨Int.emod_nonneg _ (by decide), Int.emod_lt_of_pos _ (by decide)⟩

theorem isoFields_readable (reading : Datetime.Reading) : (isoFields reading.micros).Readable := by
  obtain ⟨low, high⟩ := dayOfEra_bounds reading.micros
  obtain ⟨yearBounds, dayBounds⟩ := dayOfYear_bounds low high
  have monthBounds := shiftedMonth_bounds low high
  have time := micros_bounds reading.micros
  have start : Datetime.minReading ≤ reading.micros := reading.inCalendar.1
  have era : 0 ≤ eraDays reading.micros := by
    rw [eraDays]
    rw [Datetime.minReading] at start
    omega
  have eraNumber : 0 ≤ eraDays reading.micros / 146097 := Int.ediv_nonneg era (by decide)
  constructor
  · show 0 ≤ yearOfEra _ + _ * 400 + ite _ _ _
    split <;> omega
  · show 0 ≤ monthOf _
    rw [monthOf]
    split <;> omega
  · show 0 ≤ dayOfMonth _
    rw [dayOfMonth]
    have shifted : shiftedMonth (eraDays reading.micros % 146097) =
        (5 * dayOfYear (eraDays reading.micros % 146097) + 2) / 153 := rfl
    omega
  all_goals
    simp only [isoFields]
    omega

/-- The ISO text of a reading determines it. -/
theorem isoformat_injective {first second : Datetime.Reading}
    (same : isoformat first.micros = isoformat second.micros) : first = second := by
  rw [isoformat_eq, isoformat_eq] at same
  obtain ⟨year, month, day, hour, minute, seconds, microsecond⟩ :=
    text_inj (isoFields_readable first) (isoFields_readable second) same
  obtain ⟨low, high⟩ := dayOfEra_bounds first.micros
  obtain ⟨low', high'⟩ := dayOfEra_bounds second.micros
  obtain ⟨yearBounds, _⟩ := dayOfYear_bounds low high
  obtain ⟨yearBounds', _⟩ := dayOfYear_bounds low' high'
  have shifted := monthOf_inj (shiftedMonth_bounds low high) (shiftedMonth_bounds low' high') month
  have years : yearOfEra (eraDays first.micros % 146097) =
      yearOfEra (eraDays second.micros % 146097) ∧
      eraDays first.micros / 146097 = eraDays second.micros / 146097 := by
    simp only [isoFields, shifted] at year
    omega
  have dayNumber := dayOfEra_inj years.1 shifted day
  have days : eraDays first.micros = eraDays second.micros := by omega
  have time : first.micros % 86400000000 = second.micros % 86400000000 := by
    have bounds := micros_bounds first.micros
    have bounds' := micros_bounds second.micros
    simp only [isoFields] at hour minute seconds microsecond
    omega
  rw [eraDays, eraDays] at days
  refine Datetime.Reading.ext ?_
  omega

end Gyanam
