/-
This file models how the collector reads the timestamps of alerts and log
entries. A text in the ISO format is left to the library; anything else is
searched for a date and a time whose parts need not be padded. Either way the
datetime that comes out is aware, and is then normalised to naive UTC.

Two things can raise: an offset of a day or more in the second format, and an
instant that has no reading in UTC in the calendar. The file says for every text
whether it does.
-/

import Gyanam.Lib.Datetime
import Gyanam.Lib.Strings

namespace Gyanam

open Json (Text)

/-! ### Exceptions -/

/-- What a timestamp raises: an offset that is none, or an instant outside the calendar. -/
inductive TimestampError where
  | value
  | overflow
  deriving DecidableEq, Repr

/-- Normalise a datetime to naive UTC. -/
def toNaiveUtc : Option Datetime → Except TimestampError (Option Datetime.Reading)
  | none => .ok none
  | some dt =>
    match dt.offset with
    | none => .ok (some dt.reading)
    | some offset =>
      match Datetime.astimezoneUtc dt.reading offset with
      | some reading => .ok (some reading)
      | none => .error .overflow

/-! ### The tolerant format -/

/-- A number of exactly as many decimal digits of any script, and what follows it. -/
def matchDigits (width : Nat) (chars : Text) : Option (Nat × Text) :=
  if chars.length < width then none
  else ((chars.take width).mapM Strings.decimalDigit).map fun digits =>
    (Datetime.spell digits, chars.drop width)

/-- A number of one or two digits. -/
def matchPart (chars : Text) : Option (Nat × Text) :=
  (matchDigits 2 chars).or (matchDigits 1 chars)

/-- One of some characters. -/
def matchMark (marks : List Char) (chars : Text) : Option Text :=
  match chars with
  | [] => none
  | point :: rest =>
    if marks.any fun char => decide (point = Json.point char.toNat) then some rest else none

/-- The digits of a fraction, if there are any, and what follows them. -/
def matchFraction (chars : Text) : List Nat × Text :=
  match matchMark ['.'] chars with
  | none => ([], chars)
  | some rest =>
    match (rest.takeWhile fun point => (Strings.decimalDigit point).isSome).filterMap
      Strings.decimalDigit with
    | [] => ([], chars)
    | digits => (digits, rest.drop digits.length)

/-- An offset: whether it is west, its hours and its minutes. -/
def matchOffset (chars : Text) : Option (Bool × Nat × Nat) := do
  let west := Datetime.startsWith chars '-'
  let (hours, rest) ← matchDigits 2 (← matchMark ['+', '-'] chars)
  let (minutes, _) ← matchDigits 2 ((matchMark [':'] rest).getD rest)
  return (west, hours, minutes)

/-- The parts of a timestamp. One without an offset is in UTC. -/
structure TimestampParts where
  year : Nat
  month : Nat
  day : Nat
  hour : Nat
  minute : Nat
  second : Nat
  fraction : List Nat
  offset : Option (Bool × Nat × Nat)

/-- The parts of the timestamp that a text starts with. -/
def matchTimestamp (chars : Text) : Option TimestampParts := do
  let (year, rest) ← matchDigits 4 chars
  let (month, rest) ← matchPart (← matchMark ['-'] rest)
  let (day, rest) ← matchPart (← matchMark ['-'] rest)
  let (hour, rest) ← matchPart (← matchMark ['T', ' '] rest)
  let (minute, rest) ← matchPart (← matchMark [':'] rest)
  let (second, rest) ← matchPart (← matchMark [':'] rest)
  let (fraction, rest) := matchFraction rest
  return ⟨year, month, day, hour, minute, second, fraction,
    matchOffset (rest.dropWhile Strings.isSpace)⟩

/-- The parts of the first timestamp in a text. -/
def searchTimestamp : Text → Option TimestampParts
  | [] => none
  | point :: rest => (matchTimestamp (point :: rest)).or (searchTimestamp rest)

namespace TimestampParts

/-- The microseconds that the fraction counts. -/
def microsecond (parts : TimestampParts) : Nat :=
  Datetime.spell (parts.fraction.take 6) * 10 ^ (6 - parts.fraction.length)

/-- What the clock shows, if there is such a date and time. -/
def reading (parts : TimestampParts) : Option Datetime.Reading :=
  Datetime.civil parts.year parts.month parts.day parts.hour parts.minute parts.second
    parts.microsecond

/-- The microseconds that the clock is ahead of UTC. -/
def offsetMicros (parts : TimestampParts) : Int :=
  match parts.offset with
  | none => 0
  | some (west, hours, minutes) =>
    (if west then -1 else 1) * (hours * 3600000000 + minutes * 60000000)

end TimestampParts

/-! ### Parsing -/

/-- The trailing letter for UTC as an offset, wherever it stands. -/
def spellUtc (chars : Text) : Text :=
  chars.flatMap fun point =>
    if point = Json.point 'Z'.toNat then Json.text "+00:00" else [point]

/-- Read a text as a timestamp in either format. -/
def parseTimestampText (chars : Text) : Except TimestampError (Option Datetime) :=
  match Datetime.fromisoformat (spellUtc (Strings.strip chars)) with
  | some dt => .ok (some { dt with offset := some (dt.offset.getD .utc) })
  | none =>
    match searchTimestamp (Strings.strip chars) with
    | none => .ok none
    | some parts =>
      match parts.reading with
      | none => .ok none
      | some reading =>
        match Datetime.Offset.ofMicros parts.offsetMicros with
        | some offset => .ok (some { reading := reading, offset := some offset })
        | none => .error .value

/-- Read a value as a timestamp; one that is no text, or an empty one, is none. -/
def parseRedfishTimestamp : Json → Except TimestampError (Option Datetime)
  | .string [] => .ok none
  | .string chars => parseTimestampText chars
  | _ => .ok none

/-! ### Which texts raise -/

/-- Reading a text, and normalising what it says, give an instant or nothing. -/
def Normalises (chars : Text) : Prop :=
  ∃ result, (do toNaiveUtc (← parseRedfishTimestamp (.string chars))) = Except.ok result

/-- What a text says: what the clock shows, and the microseconds that it is ahead of UTC. -/
def denoted (chars : Text) : Option (Datetime.Reading × Int) :=
  match Datetime.fromisoformat (spellUtc (Strings.strip chars)) with
  | some dt => some (dt.reading, (dt.offset.getD .utc).micros)
  | none => do
    let parts ← searchTimestamp (Strings.strip chars)
    return (← parts.reading, parts.offsetMicros)

/-- An instant has a reading in UTC, and the clock that shows it is less than a day off. -/
def InCalendar (shown : Datetime.Reading × Int) : Prop :=
  (-Datetime.dayMicros < shown.2 ∧ shown.2 < Datetime.dayMicros) ∧
    Datetime.minReading ≤ shown.1.micros - shown.2 ∧
    shown.1.micros - shown.2 ≤ Datetime.maxReading

instance (shown : Datetime.Reading × Int) : Decidable (InCalendar shown) := by
  unfold InCalendar
  infer_instance

/-- If a text says a timestamp, it is one in the calendar. -/
def Convertible (chars : Text) : Prop := ∀ shown ∈ denoted chars, InCalendar shown

instance (chars : Text) : Decidable (Convertible chars) := by
  unfold Convertible
  infer_instance

/-- The reading in UTC of an instant of the calendar. -/
def utcReading (shown : Datetime.Reading × Int) (inCalendar : InCalendar shown) :
    Datetime.Reading := ⟨shown.1.micros - shown.2, inCalendar.2⟩

theorem toNaiveUtc_aware (reading : Datetime.Reading) (offset : Datetime.Offset) :
    toNaiveUtc (some { reading := reading, offset := some offset }) =
      if within : InCalendar (reading, offset.micros) then
        .ok (some (utcReading (reading, offset.micros) within))
      else .error .overflow := by
  simp only [toNaiveUtc, Datetime.astimezoneUtc]
  by_cases within : InCalendar (reading, offset.micros)
  · rw [dif_pos within, Datetime.Reading.ofMicros, dif_pos within.2]
    rfl
  · rw [dif_neg within, Datetime.Reading.ofMicros_eq_none.mpr fun inside =>
      within ⟨offset.withinDay, inside⟩]

/-- What the parser returns, in terms of what the text says. -/
theorem parseTimestampText_eq (chars : Text) :
    parseTimestampText chars =
      match denoted chars with
      | none => .ok none
      | some shown =>
        match Datetime.Offset.ofMicros shown.2 with
        | some offset => .ok (some { reading := shown.1, offset := some offset })
        | none => .error .value := by
  rw [parseTimestampText, denoted]
  cases Datetime.fromisoformat (spellUtc (Strings.strip chars)) with
  | some dt =>
    have within := (dt.offset.getD .utc).withinDay
    simp only [Datetime.Offset.ofMicros, dif_pos within]
  | none =>
    cases searchTimestamp (Strings.strip chars) with
    | none => rfl
    | some parts =>
      cases found : parts.reading with
      | none => simp [found]
      | some reading => simp [found]

theorem parseRedfishTimestamp_string (chars : Text) :
    parseRedfishTimestamp (.string chars) = parseTimestampText chars := by
  cases chars with
  | nil => rfl
  | cons point rest => rfl

/-- Reading and normalising a text: nothing if it says nothing, the reading in UTC if what it says
is in the calendar, and an exception otherwise. -/
theorem normalise_eq (chars : Text) :
    (do toNaiveUtc (← parseRedfishTimestamp (.string chars))) =
      match denoted chars with
      | none => .ok none
      | some shown =>
        if within : InCalendar shown then .ok (some (utcReading shown within))
        else .error (if -Datetime.dayMicros < shown.2 ∧ shown.2 < Datetime.dayMicros then .overflow
          else .value) := by
  rw [parseRedfishTimestamp_string, parseTimestampText_eq]
  cases denoted chars with
  | none => rfl
  | some shown =>
    obtain ⟨reading, micros⟩ := shown
    by_cases day : -Datetime.dayMicros < micros ∧ micros < Datetime.dayMicros
    · simp only [Datetime.Offset.ofMicros, dif_pos day, if_pos day]
      exact toNaiveUtc_aware reading ⟨micros, day⟩
    · have outside : ¬ InCalendar (reading, micros) := fun inside => day inside.1
      simp only [Datetime.Offset.ofMicros, dif_neg day, dif_neg outside, if_neg day]
      rfl

/-- Reading and normalising a text raises unless what it says is in the calendar. -/
theorem normalises_iff (chars : Text) : Normalises chars ↔ Convertible chars := by
  rw [Normalises, normalise_eq, Convertible]
  cases denoted chars with
  | none => simp
  | some shown =>
    simp only [Option.mem_some_iff, forall_eq']
    by_cases within : InCalendar shown
    · simp only [within, iff_true]
      exact ⟨_, rfl⟩
    · simp [within]

end Gyanam
