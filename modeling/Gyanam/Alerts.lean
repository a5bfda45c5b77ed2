/-
This file models alert events and the key that tells them apart. An event comes
from a stream, a webhook or a log entry, so what the BMC sent is any value. The
key is the hash of a text: the target, the message id, the time and the message
joined by a separator, or the target and the source where an event has a source
but no time of its own.

The texts of two events are equal exactly when their parts are, provided no part
contains the separator, so an injective hash tells events apart as well as the
parts do. Lone surrogates are the exception: the encoder replaces them, so parts
that differ in nothing else count as one.
-/

import Gyanam.IsoText

namespace Gyanam

open Json (CodePoint Text)

/-! ### Events -/

/-- What preparing an alert raises: a timestamp outside the calendar, or a value of the wrong
type. -/
inductive AlertError where
  | timestamp (error : TimestampError)
  | type
  deriving DecidableEq, Repr

/-- An alert event. The values taken over from the BMC may be of any type; the raw event is a
dictionary. -/
structure AlertEvent where
  targetId : TargetId
  targetName : Text
  targetBmc : Text
  severity : Text
  message : Json
  messageId : Json
  eventType : Json
  originOfCondition : Json
  eventTimestamp : Option Datetime
  receivedAt : Option Datetime
  sourceId : Json := .null
  raw : Option (List (Text × Json)) := none

/-! ### The key -/

/-- A part of the key: a falsy value is empty, and any other has to be a text. -/
def spelled (value : Json) : Except AlertError Text :=
  if value.truthy then
    match value with
    | .string chars => .ok chars
    | _ => .error .type
  else .ok []

/-- The separator of the parts. -/
def unitSeparator : CodePoint := Json.point 0x1F

/-- Join the parts of a key. -/
def joinParts (parts : List Text) : Text := [unitSeparator].intercalate parts

/-- The part of a key for a time. -/
def timePart (time : Option Datetime.Reading) : Text :=
  match time with
  | some reading => Json.text (isoformat reading.micros)
  | none => []

/-- Whether an event is told apart by its source. -/
def bySource (event : AlertEvent) : Bool :=
  event.eventTimestamp.isNone && event.sourceId.truthy

/-- The time of an event that is told apart by its content. -/
def keyTime (event : AlertEvent) : Except AlertError (Option Datetime.Reading) :=
  (toNaiveUtc (event.eventTimestamp.or event.receivedAt)).mapError .timestamp

/-- The parts of a key. -/
def keyParts (event : AlertEvent) : Except AlertError (List Text) :=
  let target := Json.text (toString event.targetId)
  if bySource event then do
    return [target, Json.text "src", ← spelled event.sourceId]
  else do
    let time ← keyTime event
    return [target, ← spelled event.messageId, timePart time, ← spelled event.message]

/-- The scalar value that is encoded for a code point: a lone surrogate is replaced. -/
def scalar (point : CodePoint) : Char :=
  if 0xD800 ≤ point.val ∧ point.val < 0xE000 then '?' else Char.ofNat point.val

/-- The octets of a text. -/
def encode (chars : Text) : ByteArray := (String.ofList (chars.map scalar)).toByteArray

variable {Key : Type}

/-- The key of an alert. -/
def computeAlertDedupKey (sha256 : ByteArray → Key) (event : AlertEvent) :
    Except AlertError Key :=
  (keyParts event).map fun parts => sha256 (encode (joinParts parts))

/-! ### Parts and their encoding -/

theorem encode_eq_iff {first second : Text} :
    encode first = encode second ↔ first.map scalar = second.map scalar := by
  rw [encode, encode, String.toByteArray_inj, String.ofList_inj]

theorem scalar_point (char : Char) : scalar (Json.point char.toNat) = char := by
  rw [scalar, Strings.val_point, if_neg, Char.ofNat_toNat]
  rintro ⟨low, high⟩
  rcases char.valid with below | above
  · exact absurd low (not_le.mpr below)
  · exact absurd above.1 (not_lt.mpr (Nat.le_of_lt_succ high))

theorem scalar_text (literal : String) : (Json.text literal).map scalar = literal.toList := by
  rw [Json.text, List.map_map, List.map_id'']
  exact scalar_point

/-- Only the separator is encoded as the separator. -/
theorem scalar_eq_separator {point : CodePoint} :
    scalar point = '\x1f' ↔ point = unitSeparator := by
  constructor
  · intro same
    rw [scalar] at same
    split at same
    · exact absurd same (by decide)
    · next noSurrogate =>
      have valid : point.val.isValidChar := by
        rcases lt_or_ge point.val 0xD800 with low | high
        · exact .inl low
        · exact .inr ⟨by omega, point.isLt⟩
      have code : (Char.ofNat point.val).toNat = point.val := by
        rw [Char.ofNat, dif_pos valid]
        rfl
      refine Fin.ext ?_
      rw [← code, same]
      rfl
  · rintro rfl
    rfl

theorem map_joinParts (parts : List Text) :
    (joinParts parts).map scalar = ['\x1f'].intercalate (parts.map (List.map scalar)) := by
  rw [joinParts]
  induction parts with
  | nil => rfl
  | cons part rest inductionHypothesis =>
    cases rest with
    | nil => simp
    | cons next rest =>
      rw [List.intercalate_cons_cons, List.map_append, List.map_append, inductionHypothesis]
      show _ = ['\x1f'].intercalate
        (part.map scalar :: next.map scalar :: rest.map (List.map scalar))
      rw [List.intercalate_cons_cons]
      rfl

/-- The joined parts of two keys are encoded alike exactly when the parts are. -/
theorem encode_joinParts_eq_iff {first second : List Text} (nonempty : first ≠ [])
    (nonempty' : second ≠ []) (clean : ∀ part ∈ first, unitSeparator ∉ part)
    (clean' : ∀ part ∈ second, unitSeparator ∉ part) :
    encode (joinParts first) = encode (joinParts second) ↔
      first.map (List.map scalar) = second.map (List.map scalar) := by
  have split : ∀ parts : List Text, parts ≠ [] → (∀ part ∈ parts, unitSeparator ∉ part) →
      (['\x1f'].intercalate (parts.map (List.map scalar))).splitOn '\x1f' =
        parts.map (List.map scalar) := by
    intro parts filled cleanParts
    refine List.splitOn_intercalate _ ?_ (by simpa using filled)
    rintro _ member separator
    obtain ⟨part, listed, rfl⟩ := List.mem_map.mp member
    obtain ⟨point, inside, encoded⟩ := List.mem_map.mp separator
    rw [scalar_eq_separator.mp encoded] at inside
    exact cleanParts part listed inside
  rw [encode_eq_iff, map_joinParts, map_joinParts]
  constructor
  · intro same
    rw [← split first nonempty clean, same, split second nonempty' clean']
  · intro same
    rw [same]

/-! ### The parts of a key -/

theorem toDigits_injective : Function.Injective (Nat.toDigits 10) := by
  intro first second same
  rw [← Nat.ofDigitChars_ten_toDigits (n := first), same, Nat.ofDigitChars_ten_toDigits]

theorem notMem_toDigits {char : Char} (mark : char.isDigit = false) (number : Nat) :
    char ∉ Nat.toDigits 10 number := by
  intro member
  rw [Nat.isDigit_of_mem_toDigits (by decide) (by decide) member] at mark
  exact Bool.noConfusion mark

/-- The decimal text of a number determines it. -/
theorem decimal_inj {first second : Int}
    (same : (toString first).toList = (toString second).toList) : first = second := by
  have noDash : ∀ number, '-' ∉ Nat.toDigits 10 number := notMem_toDigits rfl
  rw [Strings.toList_decimal, Strings.toList_decimal] at same
  split at same <;> split at same
  · have magnitude := toDigits_injective same
    omega
  · exact absurd (same ▸ List.mem_cons_self) (noDash _)
  · exact absurd (same.symm ▸ List.mem_cons_self) (noDash _)
  · have magnitude := toDigits_injective (List.tail_eq_of_cons_eq same)
    omega

/-- A literal without the separator is a part without it. -/
theorem separator_notMem_text {literal : String} (clean : '\x1f' ∉ literal.toList) :
    unitSeparator ∉ Json.text literal := by
  intro member
  obtain ⟨char, inside, same⟩ := List.mem_map.mp member
  rw [← scalar_point char, same] at inside
  exact clean inside

theorem separator_notMem_decimal (number : Int) :
    unitSeparator ∉ Json.text (toString number) := by
  refine separator_notMem_text ?_
  rw [Strings.toList_decimal]
  have noDigit : ∀ magnitude, '\x1f' ∉ Nat.toDigits 10 magnitude := notMem_toDigits rfl
  split
  · exact noDigit _
  · rw [List.mem_cons]
    rintro (dash | digit)
    · exact absurd dash (by decide)
    · exact noDigit _ digit

theorem separator_notMem_isoformat (reading : Datetime.Reading) :
    unitSeparator ∉ Json.text (isoformat reading.micros) := by
  refine separator_notMem_text ?_
  have noDigit : ∀ width number, '\x1f' ∉ (padded width number).toList :=
    fun width number => notMem_padded rfl
  rw [isoformat_eq, IsoFields.text]
  split <;> simp [noDigit]

/-- The parts of the time tell readings apart. -/
theorem timePart_inj {first second : Option Datetime.Reading}
    (same : (timePart first).map scalar = (timePart second).map scalar) : first = second := by
  have filled : ∀ reading : Datetime.Reading, (isoformat reading.micros).toList ≠ [] := by
    intro reading
    rw [isoformat_eq, IsoFields.text]
    simp
  cases first with
  | none =>
    cases second with
    | none => rfl
    | some reading =>
      rw [timePart, timePart, scalar_text] at same
      exact absurd same.symm (filled reading)
  | some reading =>
    cases second with
    | none =>
      rw [timePart, timePart, scalar_text] at same
      exact absurd same (filled reading)
    | some reading' =>
      rw [timePart, timePart, scalar_text, scalar_text] at same
      rw [isoformat_injective (String.toList_inj.mp same)]

/-- The parts of an event that is told apart by its source. -/
theorem keyParts_bySource {event : AlertEvent} (source : bySource event = true)
    {parts : List Text} :
    keyParts event = .ok parts ↔ ∃ chars, spelled event.sourceId = .ok chars ∧
      parts = [Json.text (toString event.targetId), Json.text "src", chars] := by
  simp only [keyParts, source, if_true]
  cases spelled event.sourceId with
  | error error => simp [bind, Except.bind]
  | ok chars => simp [bind, Except.bind, pure, Except.pure, eq_comm]

/-- The parts of an event that is told apart by its content. -/
theorem keyParts_byContent {event : AlertEvent} (content : bySource event = false)
    {parts : List Text} :
    keyParts event = .ok parts ↔ ∃ time messageId message, keyTime event = .ok time ∧
      spelled event.messageId = .ok messageId ∧ spelled event.message = .ok message ∧
      parts = [Json.text (toString event.targetId), messageId, timePart time, message] := by
  simp only [keyParts, content]
  cases keyTime event with
  | error error => simp [bind, Except.bind]
  | ok time =>
    cases spelled event.messageId with
    | error error => simp [bind, Except.bind]
    | ok messageId =>
      cases spelled event.message with
      | error error => simp [bind, Except.bind]
      | ok message => simp [bind, Except.bind, pure, Except.pure, eq_comm]

/-! ### What a key tells apart -/

/-- The separator does not occur in a value, as far as it is a text. -/
def Unseparated (value : Json) : Prop := ∀ chars, spelled value = .ok chars → unitSeparator ∉ chars

/-- The separator occurs in none of the texts that a key may be made of. -/
structure AlertEvent.Clean (event : AlertEvent) : Prop where
  messageId : Unseparated event.messageId
  message : Unseparated event.message
  sourceId : Unseparated event.sourceId

/-- Two values are texts, or falsy, that the encoder does not tell apart. -/
def EncodedAlike (first second : Json) : Prop :=
  ∃ chars chars', spelled first = .ok chars ∧ spelled second = .ok chars' ∧
    chars.map scalar = chars'.map scalar

theorem keyParts_clean {event : AlertEvent} (clean : event.Clean) {parts : List Text}
    (found : keyParts event = .ok parts) :
    parts ≠ [] ∧ ∀ part ∈ parts, unitSeparator ∉ part := by
  cases source : bySource event with
  | true =>
    obtain ⟨chars, sourceId, rfl⟩ := (keyParts_bySource source).mp found
    refine ⟨by simp, ?_⟩
    simp only [List.forall_mem_cons, List.not_mem_nil, false_implies, implies_true, and_true]
    exact ⟨separator_notMem_decimal _, by decide, clean.sourceId chars sourceId⟩
  | false =>
    obtain ⟨time, idChars, chars, _, messageId, message, rfl⟩ :=
      (keyParts_byContent source).mp found
    refine ⟨by simp, ?_⟩
    simp only [List.forall_mem_cons, List.not_mem_nil, false_implies, implies_true, and_true]
    refine ⟨separator_notMem_decimal _, clean.messageId idChars messageId, ?_,
      clean.message chars message⟩
    cases time with
    | none => simp [timePart]
    | some reading => exact separator_notMem_isoformat reading

/-- The parts of two events are encoded alike. -/
def PartsAlike (first second : AlertEvent) : Prop :=
  ∃ parts parts', keyParts first = .ok parts ∧ keyParts second = .ok parts' ∧
    parts.map (List.map scalar) = parts'.map (List.map scalar)

/-- Two events have one key exactly when both have parts, and the parts are encoded alike. -/
theorem key_eq_iff_parts {sha256 : ByteArray → Key} (injective : Function.Injective sha256)
    {first second : AlertEvent} (clean : first.Clean) (clean' : second.Clean) :
    (∃ key, computeAlertDedupKey sha256 first = .ok key ∧
        computeAlertDedupKey sha256 second = .ok key) ↔ PartsAlike first second := by
  rw [computeAlertDedupKey, computeAlertDedupKey, PartsAlike]
  cases found : keyParts first with
  | error error => simp [Except.map]
  | ok parts =>
    cases found' : keyParts second with
    | error error => simp [Except.map]
    | ok parts' =>
      obtain ⟨filled, separated⟩ := keyParts_clean clean found
      obtain ⟨filled', separated'⟩ := keyParts_clean clean' found'
      simp only [Except.map, Except.ok.injEq, exists_eq_left', injective.eq_iff]
      rw [encode_joinParts_eq_iff filled' filled separated' separated, eq_comm]
      simp

theorem partsAlike_byContent {first second : AlertEvent} (source : bySource first = false)
    (source' : bySource second = false) :
    PartsAlike first second ↔ first.targetId = second.targetId ∧
      (∃ time, keyTime first = .ok time ∧ keyTime second = .ok time) ∧
      EncodedAlike first.messageId second.messageId ∧
      EncodedAlike first.message second.message := by
  simp only [PartsAlike, keyParts_byContent source, keyParts_byContent source']
  constructor
  · rintro ⟨_, _, ⟨time, idChars, chars, timed, messageId, message, rfl⟩,
      ⟨time', idChars', chars', timed', messageId', message', rfl⟩, same⟩
    simp only [List.map_cons, List.map_nil, List.cons.injEq, and_true, scalar_text] at same
    obtain ⟨target, sameId, sameTime, sameMessage⟩ := same
    obtain rfl := timePart_inj sameTime
    exact ⟨decimal_inj target, ⟨time, timed, timed'⟩,
      ⟨idChars, idChars', messageId, messageId', sameId⟩,
      ⟨chars, chars', message, message', sameMessage⟩⟩
  · rintro ⟨target, ⟨time, timed, timed'⟩, ⟨idChars, idChars', messageId, messageId', sameId⟩,
      ⟨chars, chars', message, message', sameMessage⟩⟩
    refine ⟨_, _, ⟨time, idChars, chars, timed, messageId, message, rfl⟩,
      ⟨time, idChars', chars', timed', messageId', message', rfl⟩, ?_⟩
    simp only [List.map_cons, List.map_nil, target, sameId, sameMessage]

theorem partsAlike_bySource {first second : AlertEvent} (source : bySource first = true)
    (source' : bySource second = true) :
    PartsAlike first second ↔ first.targetId = second.targetId ∧
      EncodedAlike first.sourceId second.sourceId := by
  simp only [PartsAlike, keyParts_bySource source, keyParts_bySource source']
  constructor
  · rintro ⟨_, _, ⟨chars, sourceId, rfl⟩, ⟨chars', sourceId', rfl⟩, same⟩
    simp only [List.map_cons, List.map_nil, List.cons.injEq, and_true, scalar_text] at same
    obtain ⟨target, _, sameSource⟩ := same
    exact ⟨decimal_inj target, chars, chars', sourceId, sourceId', sameSource⟩
  · rintro ⟨target, chars, chars', sourceId, sourceId', sameSource⟩
    refine ⟨_, _, ⟨chars, sourceId, rfl⟩, ⟨chars', sourceId', rfl⟩, ?_⟩
    simp only [List.map_cons, List.map_nil, target, sameSource]

/-- A key by content has one part more than a key by source. -/
theorem partsAlike_bySource_eq {first second : AlertEvent} (alike : PartsAlike first second) :
    bySource first = bySource second := by
  obtain ⟨parts, parts', found, found', same⟩ := alike
  have lengths : parts.length = parts'.length := by
    simpa only [List.length_map] using congrArg List.length same
  cases source : bySource first <;> cases source' : bySource second
  · rfl
  · obtain ⟨_, _, _, _, _, _, rfl⟩ := (keyParts_byContent source).mp found
    obtain ⟨_, _, rfl⟩ := (keyParts_bySource source').mp found'
    cases lengths
  · obtain ⟨_, _, rfl⟩ := (keyParts_bySource source).mp found
    obtain ⟨_, _, _, _, _, _, rfl⟩ := (keyParts_byContent source').mp found'
    cases lengths
  · rfl

theorem unseparated_null : Unseparated .null := by
  intro chars found
  rw [← Except.ok.inj found]
  exact List.not_mem_nil

theorem unseparated_string {chars : Text} (clean : unitSeparator ∉ chars) :
    Unseparated (.string chars) := by
  intro other found
  rw [spelled] at found
  split at found
  · rw [← Except.ok.inj found]
    exact clean
  · rw [← Except.ok.inj found]
    exact List.not_mem_nil

/-- The keys of two events whose texts do not contain the separator are equal exactly when the
targets are and either both are told apart by their content, with the same instant, message id and
message, or both by their source, with the same one. Falsy values count as empty, and lone
surrogates as question marks. -/
theorem dedup_key_iff (sha256 : ByteArray → Key) (injective : Function.Injective sha256)
    (first second : AlertEvent) (clean : first.Clean) (clean' : second.Clean) :
    (∃ key, computeAlertDedupKey sha256 first = .ok key ∧
        computeAlertDedupKey sha256 second = .ok key) ↔
      first.targetId = second.targetId ∧
        ((bySource first = false ∧ bySource second = false ∧
            (∃ time, keyTime first = .ok time ∧ keyTime second = .ok time) ∧
            EncodedAlike first.messageId second.messageId ∧
            EncodedAlike first.message second.message) ∨
          (bySource first = true ∧ bySource second = true ∧
            EncodedAlike first.sourceId second.sourceId)) := by
  rw [key_eq_iff_parts injective clean clean']
  constructor
  · intro alike
    have sameSource := partsAlike_bySource_eq alike
    cases source : bySource first with
    | false =>
      have source' : bySource second = false := sameSource.symm.trans source
      obtain ⟨target, timed, messageId, message⟩ := (partsAlike_byContent source source').mp alike
      exact ⟨target, .inl ⟨rfl, source', timed, messageId, message⟩⟩
    | true =>
      have source' : bySource second = true := sameSource.symm.trans source
      obtain ⟨target, sourceId⟩ := (partsAlike_bySource source source').mp alike
      exact ⟨target, .inr ⟨rfl, source', sourceId⟩⟩
  · rintro ⟨target, ⟨source, source', timed, messageId, message⟩ | ⟨source, source', sourceId⟩⟩
    · exact (partsAlike_byContent source source').mpr ⟨target, timed, messageId, message⟩
    · exact (partsAlike_bySource source source').mpr ⟨target, sourceId⟩

/-- An alert of a message at the start of 1970, as read by a clock with an offset. -/
def sampleAlert (message : Json) (eventTimestamp : Option Datetime) : AlertEvent where
  targetId := 1
  targetName := Json.text "bmc"
  targetBmc := Json.text "10.0.0.1"
  severity := Json.text "Critical"
  message := message
  messageId := .null
  eventType := .string (Json.text "Alert")
  originOfCondition := .null
  eventTimestamp := eventTimestamp
  receivedAt := some { reading := Datetime.Reading.epoch, offset := some .utc }

theorem sampleAlert_clean {chars : Text} (clean : unitSeparator ∉ chars)
    (eventTimestamp : Option Datetime) :
    (sampleAlert (.string chars) eventTimestamp).Clean :=
  ⟨unseparated_null, unseparated_string clean, unseparated_null⟩

/-- An hour past midnight on a clock that is an hour ahead, and midnight on a naive one. -/
def hourAhead : Datetime where
  reading := ⟨3600000000, by decide⟩
  offset := some ⟨3600000000, by decide⟩

def naiveMidnight : Datetime where
  reading := Datetime.Reading.epoch

/-- The event of a stream and the entry of a log at one instant have one key. -/
theorem sampleAlert_merges : ∃ key,
    computeAlertDedupKey id (sampleAlert (.string (Json.text "hot")) (some hourAhead)) = .ok key ∧
      computeAlertDedupKey id (sampleAlert (.string (Json.text "hot")) (some naiveMidnight)) =
        .ok key := by
  refine (dedup_key_iff id Function.injective_id _ _ (sampleAlert_clean (by decide) _)
    (sampleAlert_clean (by decide) _)).mpr ⟨rfl, .inl ⟨rfl, rfl,
      ⟨some Datetime.Reading.epoch, rfl, rfl⟩, ⟨[], [], rfl, rfl, rfl⟩,
      ⟨Json.text "hot", Json.text "hot", rfl, rfl, rfl⟩⟩⟩

/-- A lone surrogate and a question mark give one key, so equal keys do not mean equal messages. -/
theorem surrogate_not_told_apart :
    ¬ ∀ (Key : Type) (sha256 : ByteArray → Key), Function.Injective sha256 →
      ∀ first second : AlertEvent, first.Clean → second.Clean →
        ((∃ key, computeAlertDedupKey sha256 first = .ok key ∧
            computeAlertDedupKey sha256 second = .ok key) ↔
          first.targetId = second.targetId ∧
            ((bySource first = false ∧ bySource second = false ∧
                (∃ time, keyTime first = .ok time ∧ keyTime second = .ok time) ∧
                (∃ chars, spelled first.messageId = .ok chars ∧
                  spelled second.messageId = .ok chars) ∧
                ∃ chars, spelled first.message = .ok chars ∧
                  spelled second.message = .ok chars) ∨
              (bySource first = true ∧ bySource second = true ∧
                ∃ chars, spelled first.sourceId = .ok chars ∧
                  spelled second.sourceId = .ok chars))) := by
  intro claimed
  have clean : (sampleAlert (.string [Json.point 0xD800]) none).Clean :=
    sampleAlert_clean (by decide) none
  have clean' : (sampleAlert (.string (Json.text "?")) none).Clean :=
    sampleAlert_clean (by decide) none
  have same := (key_eq_iff_parts Function.injective_id clean clean').mpr
    ⟨_, _, rfl, rfl, by decide⟩
  obtain ⟨_, ⟨_, _, _, _, chars, surrogate, mark⟩ | ⟨source, _⟩⟩ :=
    (claimed ByteArray id Function.injective_id _ _ clean clean').mp same
  · have equal := (Except.ok.inj surrogate).trans (Except.ok.inj mark).symm
    exact absurd equal (by decide)
  · exact Bool.noConfusion source

end Gyanam
