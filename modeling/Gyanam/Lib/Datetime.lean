/-
This file builds the datetimes of Python's standard library as far as parsing and
normalising them goes. A reading is what a clock shows, in microseconds since the
start of 1970; it lies in the calendar, which has the years 1 to 9999. A datetime
is a reading, and the offset of the clock from UTC unless it is naive. An offset
is less than a day. The conversion to UTC fails where the instant has no reading
in the calendar.

The ISO parser takes what the library's accelerated one takes: the extended and
the basic forms of dates, week dates, any separator, and times with a fraction
and an offset. It is laxer than the format. A fraction may follow any part of a
time, and the time may have a character too many before an offset.
-/

import Gyanam.Lib.Json
import Mathlib.Tactic.IntervalCases

namespace Datetime

/-! ### The calendar -/

/-- The microseconds of a day. -/
abbrev dayMicros : Int := 86400000000

def isLeap (year : Int) : Bool :=
  year % 4 = 0 && (year % 100 != 0 || year % 400 = 0)

def daysInMonth (year month : Int) : Int :=
  if month = 2 then if isLeap year then 29 else 28
  else if month = 4 ∨ month = 6 ∨ month = 9 ∨ month = 11 then 30
  else 31

/-- The days before the first of January of a year; the first year starts with day 0. -/
def daysBeforeYear (year : Int) : Int :=
  (year - 1) * 365 + (year - 1) / 4 - (year - 1) / 100 + (year - 1) / 400

/-- The days of a year before the first of a month. -/
def daysBeforeMonth (year month : Int) : Int :=
  ([0, 31, 59, 90, 120, 151, 181, 212, 243, 273, 304, 334].getD (month - 1).toNat 0) +
    if 2 < month ∧ isLeap year then 1 else 0

/-- The number of a day; the first of January of the year 1 is day 1. -/
def ordinal (year month day : Int) : Int :=
  daysBeforeYear year + daysBeforeMonth year month + day

/-- The number of the last day of the calendar. -/
abbrev maxOrdinal : Int := 3652059

/-- The number of the first of January 1970. -/
abbrev epochOrdinal : Int := 719163

/-- A date exists. -/
def ValidDate (year month day : Int) : Prop :=
  (1 ≤ year ∧ year ≤ 9999) ∧ (1 ≤ month ∧ month ≤ 12) ∧ 1 ≤ day ∧ day ≤ daysInMonth year month

instance (year month day : Int) : Decidable (ValidDate year month day) := by
  unfold ValidDate
  infer_instance

theorem month_end_le (year : Int) {month : Int} (first : 1 ≤ month) (last : month ≤ 12) :
    0 ≤ daysBeforeMonth year month ∧
      daysBeforeMonth year month + daysInMonth year month ≤
        365 + if isLeap year then 1 else 0 := by
  cases leap : isLeap year <;> interval_cases month <;> simp [daysBeforeMonth, daysInMonth, leap]

/-- The days that exist have numbers between those of the first and the last day. -/
theorem ordinal_bounds {year month day : Int} (valid : ValidDate year month day) :
    1 ≤ ordinal year month day ∧ ordinal year month day ≤ maxOrdinal := by
  obtain ⟨⟨yearLow, yearHigh⟩, ⟨monthLow, monthHigh⟩, dayLow, dayHigh⟩ := valid
  obtain ⟨start, finish⟩ := month_end_le year monthLow monthHigh
  rw [ordinal, daysBeforeYear, maxOrdinal]
  refine ⟨by omega, ?_⟩
  by_cases last : year = 9999
  · subst last
    rw [if_neg (by decide)] at finish
    omega
  · split at finish <;> omega

/-! ### Readings and datetimes -/

/-- The reading of a day number and a time of day. -/
def readingOf (dayNumber hour minute second microsecond : Int) : Int :=
  (dayNumber - epochOrdinal) * dayMicros + hour * 3600000000 + minute * 60000000 +
    second * 1000000 + microsecond

/-- The first reading of the calendar. -/
abbrev minReading : Int := -62135596800000000

/-- The last reading of the calendar. -/
abbrev maxReading : Int := 253402300799999999

/-- What a clock shows: the microseconds since the start of 1970. -/
@[ext]
structure Reading where
  micros : Int
  inCalendar : minReading ≤ micros ∧ micros ≤ maxReading
  deriving DecidableEq

/-- The reading that microseconds are counted from. -/
def Reading.epoch : Reading := ⟨0, by decide⟩

/-- A number of microseconds as a reading, if it is in the calendar. -/
def Reading.ofMicros (value : Int) : Option Reading :=
  if within : minReading ≤ value ∧ value ≤ maxReading then some ⟨value, within⟩ else none

theorem Reading.ofMicros_eq_none {value : Int} :
    ofMicros value = none ↔ ¬ (minReading ≤ value ∧ value ≤ maxReading) := by
  rw [ofMicros, dite_eq_right_iff]
  exact ⟨fun fails within => absurd (fails within) (by simp), fun outside within =>
    absurd within outside⟩

/-- A time of day exists. -/
def ValidTime (hour minute second microsecond : Int) : Prop :=
  (0 ≤ hour ∧ hour ≤ 23) ∧ (0 ≤ minute ∧ minute ≤ 59) ∧ (0 ≤ second ∧ second ≤ 59) ∧
    0 ≤ microsecond ∧ microsecond ≤ 999999

instance (hour minute second microsecond : Int) :
    Decidable (ValidTime hour minute second microsecond) := by
  unfold ValidTime
  infer_instance

theorem readingOf_bounds {dayNumber hour minute second microsecond : Int}
    (day : 1 ≤ dayNumber ∧ dayNumber ≤ maxOrdinal)
    (time : ValidTime hour minute second microsecond) :
    minReading ≤ readingOf dayNumber hour minute second microsecond ∧
      readingOf dayNumber hour minute second microsecond ≤ maxReading := by
  obtain ⟨_, _, _, _⟩ := time
  rw [readingOf, minReading, maxReading, epochOrdinal, dayMicros]
  rw [maxOrdinal] at day
  omega

/-- The reading of a date and a time of day, if both exist. -/
def civil (year month day hour minute second microsecond : Int) : Option Reading :=
  if valid : ValidDate year month day ∧ ValidTime hour minute second microsecond then
    some ⟨readingOf (ordinal year month day) hour minute second microsecond,
      readingOf_bounds (ordinal_bounds valid.1) valid.2⟩
  else none

/-- The microseconds that a clock is ahead of UTC. -/
@[ext]
structure Offset where
  micros : Int
  withinDay : -dayMicros < micros ∧ micros < dayMicros
  deriving DecidableEq

/-- A number of microseconds as an offset, if it is less than a day. -/
def Offset.ofMicros (value : Int) : Option Offset :=
  if within : -dayMicros < value ∧ value < dayMicros then some ⟨value, within⟩ else none

/-- UTC itself. -/
def Offset.utc : Offset := ⟨0, by decide⟩

end Datetime

/-- A datetime: a reading, and the offset of the clock unless it is naive. -/
structure Datetime where
  reading : Datetime.Reading
  offset : Option Datetime.Offset := none
  deriving DecidableEq

namespace Datetime

open Json (CodePoint Text)

/-- Convert an aware datetime to UTC. The instant may have no reading there. -/
def astimezoneUtc (reading : Reading) (offset : Offset) : Option Reading :=
  Reading.ofMicros (reading.micros - offset.micros)

/-! ### The ISO format -/

/-- The value of an ASCII digit. -/
def asciiDigit (point : CodePoint) : Option Nat :=
  if '0'.toNat ≤ point.val ∧ point.val ≤ '9'.toNat then some (point.val - '0'.toNat) else none

/-- The number that digits spell. -/
def spell (digits : List Nat) : Nat := digits.foldl (fun value digit => 10 * value + digit) 0

/-- A number of exactly as many digits, and what follows it. -/
def parseDigits (width : Nat) (chars : Text) : Option (Nat × Text) :=
  if chars.length < width then none
  else ((chars.take width).mapM asciiDigit).map fun digits => (spell digits, chars.drop width)

/-- Whether a text starts with a character. -/
def startsWith (chars : Text) (char : Char) : Bool := chars.head? = some (Json.point char.toNat)

/-- How far the date goes. A week date may have a day or not; where both readings are possible, the
day is taken for the first digits of the time. -/
def findSeparator (chars : Text) : Option Nat :=
  if chars.length = 7 then some 7
  else if startsWith (chars.drop 4) '-' then
    if startsWith (chars.drop 5) 'W' then
      if startsWith (chars.drop 8) '-' then
        if chars.length = 9 then none
        else if ((chars[10]?).bind asciiDigit).isSome then some 8
        else some 10
      else some 8
    else some 10
  else if startsWith (chars.drop 4) 'W' then
    let index := 7 + ((chars.drop 7).takeWhile fun point => (asciiDigit point).isSome).length
    if index < 9 then some index
    else if index % 2 = 0 then some 7
    else some 8
  else some 8

/-- The weekday of a day number; Monday is 0. -/
def weekday (dayNumber : Int) : Int := (dayNumber + 6) % 7

/-- The number of the Monday of the first week of a year, which has the year's first Thursday. -/
def isoWeek1Monday (year : Int) : Int :=
  let first := ordinal year 1 1
  if 3 < weekday first then first - weekday first + 7 else first - weekday first

/-- The number of a day of a week date, if it exists. A year has 53 weeks if it starts on a
Thursday, or on a Wednesday and is a leap year. -/
def isoWeekOrdinal (year week day : Int) : Option Int :=
  let first := weekday (ordinal year 1 1)
  if (1 ≤ year ∧ year ≤ 9999) ∧
      ((1 ≤ week ∧ week < 53) ∨ (week = 53 ∧ (first = 3 ∨ (first = 2 ∧ isLeap year)))) ∧
      1 ≤ day ∧ day ≤ 7 then
    some (isoWeek1Monday year + (week - 1) * 7 + (day - 1))
  else none

/-- Drop a dash if there has to be one; there must be none otherwise. -/
def dash (required : Bool) (chars : Text) : Option Text :=
  if startsWith chars '-' = required then some (if required then chars.tail else chars) else none

/-- The day number of a date. -/
def parseIsoDate (chars : Text) : Option Int := do
  let (year, rest) ← parseDigits 4 chars
  let hasSeparator := startsWith rest '-'
  let rest := if hasSeparator then rest.tail else rest
  if startsWith rest 'W' then
    let (week, rest) ← parseDigits 2 rest.tail
    if rest = [] then isoWeekOrdinal year week 1
    else
      let (day, rest) ← parseDigits 1 (← dash hasSeparator rest)
      if rest = [] then isoWeekOrdinal year week day else none
  else
    let (month, rest) ← parseDigits 2 rest
    let (day, rest) ← parseDigits 2 (← dash hasSeparator rest)
    if rest = [] ∧ ValidDate year month day then some (ordinal year month day) else none

/-- Whether a text is at its end; a zero character ends it too. -/
def atEnd (chars : Text) : Bool := chars.head?.all fun point => decide (point.val = 0)

/-- The microseconds of a fraction, and whether nothing follows it. Digits after the sixth are
ignored. -/
def parseFraction (chars : Text) : Option (Nat × Bool) :=
  ((chars.take 6).mapM asciiDigit).map fun digits =>
    (spell digits * 10 ^ (6 - digits.length),
      atEnd ((chars.drop 6).dropWhile fun point => (asciiDigit point).isSome))

/-- What follows a part of a time: its end, with nothing or one character left; a fraction; or the
next part. -/
inductive ClockMark where
  | ended (clean : Bool)
  | fraction (rest : Text)
  | part (rest : Text)

/-- What follows a part of a time whose parts have separators or not. -/
def clockMark (hasSeparator : Bool) (rest : Text) : Option ClockMark :=
  if rest.length = 0 ∨ (rest.length = 1 ∧ rest.all fun point => decide (point.val < 128)) then
    some (.ended (atEnd rest))
  else if hasSeparator && startsWith rest ':' then some (.part rest.tail)
  else if startsWith rest '.' || startsWith rest ',' then some (.fraction rest.tail)
  else if hasSeparator then none
  else some (.part rest)

/-- The hours, minutes, seconds and microseconds of a time, and whether nothing follows them; only
the hours are required. What follows the seconds is a fraction. -/
def parseIsoClock (chars : Text) : Option ((Int × Int × Int × Int) × Bool) := do
  let (hour, rest) ← parseDigits 2 chars
  let hasSeparator := startsWith rest ':'
  match ← clockMark hasSeparator rest with
  | .ended clean => return ((hour, 0, 0, 0), clean)
  | .fraction rest =>
    let (microsecond, clean) ← parseFraction rest
    return ((hour, 0, 0, microsecond), clean)
  | .part rest =>
    let (minute, rest) ← parseDigits 2 rest
    match ← clockMark hasSeparator rest with
    | .ended clean => return ((hour, minute, 0, 0), clean)
    | .fraction rest =>
      let (microsecond, clean) ← parseFraction rest
      return ((hour, minute, 0, microsecond), clean)
    | .part rest =>
      let (second, rest) ← parseDigits 2 rest
      match ← clockMark hasSeparator rest with
      | .ended clean => return ((hour, minute, second, 0), clean)
      | .fraction rest | .part rest =>
        let (microsecond, clean) ← parseFraction rest
        return ((hour, minute, second, microsecond), clean)

/-- The offset that parts of a time say after a sign. One of less than a second is UTC. -/
def isoOffset (sign : Int) (clock : Int × Int × Int × Int) : Option Offset :=
  let seconds := clock.1 * 3600 + clock.2.1 * 60 + clock.2.2.1
  if seconds = 0 then some .utc
  else Offset.ofMicros (sign * (seconds * 1000000 + clock.2.2.2))

/-- Whether an offset starts here. -/
def startsOffset (point : CodePoint) : Bool :=
  decide (point = Json.point '+'.toNat) || decide (point = Json.point '-'.toNat) ||
    decide (point = Json.point 'Z'.toNat)

/-- A time with its offset, if it has one. Without one nothing may follow it. -/
def parseIsoTime (chars : Text) : Option ((Int × Int × Int × Int) × Option Offset) := do
  let (clock, clean) ← parseIsoClock (chars.takeWhile fun point => !startsOffset point)
  match chars.dropWhile fun point => !startsOffset point with
  | [] => if clean then return (clock, none) else none
  | mark :: rest =>
    if mark = Json.point 'Z'.toNat then
      if atEnd rest then return (clock, some Offset.utc) else none
    else
      let (shift, clean) ← parseIsoClock rest
      let sign := if mark = Json.point '-'.toNat then -1 else 1
      if clean then return (clock, some (← isoOffset sign shift)) else none

/-- Whether a code point is a surrogate. -/
def isSurrogate (point : CodePoint) : Bool :=
  decide (0xD800 ≤ point.val ∧ point.val < 0xE000)

/-- A text without surrogates; one where a separator may stand is replaced. -/
def sanitize (chars : Text) : Option Text :=
  let clean := match [7, 8, 10].find? fun index => (chars[index]?).any isSurrogate with
    | some index => chars.set index (Json.point 'T'.toNat)
    | none => chars
  if clean.any isSurrogate then none else some clean

/-- A datetime in the ISO format; nothing where the library raises that it is none. -/
def fromisoformat (chars : Text) : Option Datetime := do
  if chars.length < 7 then none
  let chars ← sanitize chars
  let separator ← findSeparator chars
  let dayNumber ← parseIsoDate (chars.take separator)
  let (clock, offset) ←
    if chars.drop separator = [] then some ((0, 0, 0, 0), none)
    else parseIsoTime (chars.drop (separator + 1))
  let (hour, minute, second, microsecond) := clock
  if ValidTime hour minute second microsecond then
    let reading ← Reading.ofMicros (readingOf dayNumber hour minute second microsecond)
    return { reading := reading, offset := offset }
  else none

end Datetime
