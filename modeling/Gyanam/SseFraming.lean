/-
This file models how the alert subscriber reads the events of a stream. Lines of
data are collected until a blank line, which hands their text over; comments and
other fields are skipped, and what the end of the stream leaves is handed over,
too. An event whose processing raises is logged and the loop goes on.

The lines are those that the HTTP client makes of the text, and these end at more
separators than those of the format. So a payload with such a separator comes
apart. The file shows that all other payloads are handed over unchanged and in
their order, however they were encoded.
-/

import Gyanam.Lib.Attempt
import Gyanam.Lib.Lines
import Gyanam.Lib.Strings

namespace Gyanam

open Json (CodePoint Text)
open Lines (lineFeed carriageReturn isSeparator isBoundary OnOneLine)

/-! ### The line loop -/

def colon : CodePoint := Json.point ':'.toNat

def space : CodePoint := Json.point ' '.toNat

/-- What a stream has brought so far: the lines of data that are collected, the payloads that were
handed over, and the state of what processes them. -/
structure Listener (State : Type) where
  dataBuffer : List Text := []
  handed : List Text := []
  state : State

/-- The field of a line and its value, without one space before it. -/
def sseField (line : Text) : Text × Text :=
  let field := line.takeWhile (· ≠ colon)
  match line.dropWhile (· ≠ colon) with
  | [] => (field, [])
  | _ :: value => (field, if value.head? = some space then value.tail else value)

namespace Listener

variable {State Error : Type} (process : Text → Attempt State Error Unit)

/-- Hand the collected lines over, if they are not blank. An exception is only logged. -/
def dispatch (listener : Listener State) : Listener State :=
  if listener.dataBuffer = [] then listener
  else
    let payload := List.intercalate [lineFeed] listener.dataBuffer
    if Strings.strip payload = [] then { listener with dataBuffer := [] }
    else
      let processed := (tryCatch (process payload) fun _ => pure ()).start listener.state
      { dataBuffer := [], handed := listener.handed ++ [payload], state := processed.2 }

/-- One line of the stream. -/
def readLine (listener : Listener State) (line : Text) : Listener State :=
  let line := Strings.stripEnd (fun point => point = carriageReturn ∨ point = lineFeed) line
  if line = [] then listener.dispatch process
  else if line.head? = some colon then listener
  else
    let field := sseField line
    if field.1 = Json.text "data" then
      { listener with dataBuffer := listener.dataBuffer ++ [field.2] }
    else listener

/-- The lines of a stream, and its end. -/
def listen (lines : List Text) (state : State) : Listener State :=
  (lines.foldl (readLine process) { state := state }).dispatch process

end Listener

/-! ### Encoded streams -/

/-- A line of an encoded stream: one line of data, with or without the space before it, or a comment
or another field. -/
inductive StreamLine where
  | data (spaced : Bool) (value : Text)
  | filler (text : Text)

namespace StreamLine

/-- What stands before the value of a line of data. -/
def mark (spaced : Bool) : Text :=
  if spaced then Json.text "data: " else Json.text "data:"

/-- The text of a line. -/
def text : StreamLine → Text
  | .data spaced value => mark spaced ++ value
  | .filler text => text

/-- The value of a line of data. -/
def value : StreamLine → Option Text
  | .data _ value => some value
  | .filler _ => none

/-- A line that is neither blank nor data: a comment starts with a colon, and another field is not
called data. -/
def Skipped (text : Text) : Prop :=
  text ≠ [] ∧ OnOneLine text ∧ (text.head? = some colon ∨ (sseField text).1 ≠ Json.text "data")

/-- A value that starts with a space needs another space before it. -/
def WellFormed : StreamLine → Prop
  | .data spaced value => spaced = false → value.head? ≠ some space
  | .filler text => Skipped text

/-- The parts of a line that the client makes lines of. -/
def parts (line : StreamLine) : List Text := line.text.splitOnP isSeparator

/-- A comment or another field whose parts are neither blank nor data. -/
def Harmless (line : StreamLine) : Prop :=
  line.value = none → ∀ part ∈ line.parts, Skipped part

instance : DecidablePred Skipped := fun _ => inferInstanceAs (Decidable (_ ∧ _ ∧ _))

instance : DecidablePred WellFormed
  | .data spaced value => inferInstanceAs (Decidable (spaced = false → value.head? ≠ some space))
  | .filler text => inferInstanceAs (Decidable (Skipped text))

instance : DecidablePred Harmless := fun line =>
  inferInstanceAs (Decidable (line.value = none → ∀ part ∈ line.parts, Skipped part))

end StreamLine

/-- An encoded event: lines of data that tell its payload line by line, with comments and other
fields anywhere between them. -/
structure EncodedEvent where
  payload : Text
  lines : List StreamLine
  noReturn : carriageReturn ∉ payload
  wellFormed : ∀ line ∈ lines, line.WellFormed
  tells : lines.filterMap StreamLine.value = payload.splitOn lineFeed

/-- An encoded stream: events ended by a blank line, one that is not, and comments and other fields
at the end. -/
structure EncodedStream where
  closed : List EncodedEvent
  last : Option EncodedEvent := none
  tail : List StreamLine := []
  ending : Lines.Ending := .lf
  wellFormed : ∀ line ∈ tail, line.WellFormed ∧ line.value = none

namespace EncodedStream

/-- The lines of a stream. -/
def lines (stream : EncodedStream) : List Text :=
  stream.closed.flatMap (fun event => event.lines.map (·.text) ++ [[]]) ++
    (stream.last.elim [] fun event => event.lines.map (·.text)) ++ stream.tail.map (·.text)

/-- The lines of a stream that are not blank. -/
def streamLines (stream : EncodedStream) : List StreamLine :=
  stream.closed.flatMap (·.lines) ++ stream.last.toList.flatMap (·.lines) ++ stream.tail

/-- The text of a stream. -/
def text (stream : EncodedStream) : Text :=
  stream.lines.flatMap fun line => line ++ stream.ending.text

/-- The payloads of a stream. -/
def payloads (stream : EncodedStream) : List Text :=
  stream.closed.map (·.payload) ++ stream.last.toList.map (·.payload)

/-- The payloads that are not blank. -/
def filled (stream : EncodedStream) : List Text :=
  stream.payloads.filter fun payload => Strings.strip payload ≠ []

end EncodedStream

/-! ### Reading one line -/

section Reading

variable {State Error : Type} (process : Text → Attempt State Error Unit)

namespace Listener

/-- The listener after a payload was handed over. -/
def hand (listener : Listener State) (payload : Text) : Listener State where
  handed := listener.handed ++ [payload]
  state := ((process payload).start listener.state).2

/-- The listener after an event: a blank payload is dropped. -/
def take (listener : Listener State) (payload : Text) : Listener State :=
  if Strings.strip payload = [] then { listener with dataBuffer := [] }
  else listener.hand process payload

/-- Exceptions of the processing are caught, and its effects stay. -/
theorem dispatch_eq {listener : Listener State} {payload : Text} (filled : listener.dataBuffer ≠ [])
    (joined : List.intercalate [lineFeed] listener.dataBuffer = payload) :
    listener.dispatch process = listener.take process payload := by
  simp only [dispatch, if_neg filled, joined, take]
  split
  next => rfl
  next =>
    rw [hand, Attempt.start_tryCatch]
    cases (process payload).start listener.state with
    | mk outcome after => cases outcome <;> rfl

theorem dispatch_of_empty {listener : Listener State} (empty : listener.dataBuffer = []) :
    listener.dispatch process = listener := if_pos empty

end Listener

/-- A line without boundaries has nothing to strip at its end. -/
theorem stripEnd_of_onOneLine {line : Text} (onOneLine : OnOneLine line) :
    Strings.stripEnd (fun point => point = carriageReturn ∨ point = lineFeed) line = line := by
  refine Strings.stripEnd_eq_self fun point member => decide_eq_false ?_
  rintro (rfl | rfl)
  · exact onOneLine.2 member
  · exact onOneLine.1 member

namespace StreamLine

/-- What is read of the value after a mark. -/
def unspaced (spaced : Bool) (value : Text) : Text :=
  if spaced = false ∧ value.head? = some space then value.tail else value

theorem onOneLine_mark (spaced : Bool) {value : Text} (onOneLine : OnOneLine value) :
    OnOneLine (mark spaced ++ value) := by
  have marks : ∀ spaced, OnOneLine (mark spaced) := by decide
  exact ⟨fun member => (List.mem_append.mp member).elim (marks spaced).1 onOneLine.1,
    fun member => (List.mem_append.mp member).elim (marks spaced).2 onOneLine.2⟩

theorem sseField_mark (spaced : Bool) (value : Text) :
    sseField (mark spaced ++ value) = (Json.text "data", unspaced spaced value) := by
  cases spaced with
  | false => simp [unspaced]; rfl
  | true => rfl

theorem isSeparator_of_mem_mark (spaced : Bool) :
    ∀ point ∈ mark spaced, isSeparator point = false := by
  have all : ∀ spaced, (mark spaced).all (fun point => !isSeparator point) = true := by decide
  intro point member
  simpa using List.all_eq_true.mp (all spaced) point member

end StreamLine

namespace Listener

/-- A line of data is collected, without the space before it. -/
theorem readLine_mark (listener : Listener State) (spaced : Bool) {value : Text}
    (onOneLine : OnOneLine value) :
    listener.readLine process (StreamLine.mark spaced ++ value) =
      { listener with
        dataBuffer := listener.dataBuffer ++ [StreamLine.unspaced spaced value] } := by
  have whole := StreamLine.onOneLine_mark spaced onOneLine
  have first : (StreamLine.mark spaced ++ value).head? = some (Json.point 'd'.toNat) := by
    cases spaced <;> rfl
  have filled : StreamLine.mark spaced ++ value ≠ [] := by
    intro empty
    rw [empty] at first
    cases first
  have noComment : some (Json.point 'd'.toNat) ≠ some colon := by decide
  simp only [readLine, stripEnd_of_onOneLine whole, if_neg filled, first, if_neg noComment,
    StreamLine.sseField_mark, if_true]

/-- A blank line hands over what is collected. -/
theorem readLine_nil (listener : Listener State) :
    listener.readLine process [] = listener.dispatch process := rfl

/-- A comment or another field is skipped. -/
theorem readLine_skipped (listener : Listener State) {text : Text}
    (skipped : StreamLine.Skipped text) : listener.readLine process text = listener := by
  obtain ⟨filled, onOneLine, other⟩ := skipped
  simp only [readLine, stripEnd_of_onOneLine onOneLine, if_neg filled]
  split
  next => rfl
  next noComment => rw [if_neg (other.resolve_left noComment)]

theorem foldl_skipped (listener : Listener State) {texts : List Text}
    (skipped : ∀ text ∈ texts, StreamLine.Skipped text) :
    texts.foldl (readLine process) listener = listener := by
  induction texts with
  | nil => rfl
  | cons text rest inductionHypothesis =>
    obtain ⟨first, others⟩ := List.forall_mem_cons.mp skipped
    rw [List.foldl_cons, readLine_skipped process listener first, inductionHypothesis others]

end Listener

/-! ### Reading one event -/

/-- An event that the lines of the client do not take apart. -/
structure EncodedEvent.Intact (event : EncodedEvent) : Prop where
  harmless : ∀ line ∈ event.lines, line.Harmless
  whole : Strings.strip event.payload ≠ [] → ∀ point ∈ event.payload, isSeparator point = false

/-- The values of an event are parts of its payload, each on one line. -/
theorem EncodedEvent.onOneLine_value {event : EncodedEvent} {line : StreamLine} {value : Text}
    (member : line ∈ event.lines) (tells : line.value = some value) :
    OnOneLine value ∧ ∀ point ∈ value, point ∈ event.payload := by
  have listed : value ∈ event.payload.splitOnP (· == lineFeed) := by
    rw [← List.splitOn_eq_splitOnP, ← event.tells]
    exact List.mem_filterMap.mpr ⟨line, member, tells⟩
  have within : ∀ point ∈ value, point ∈ event.payload := fun _ =>
    Lines.mem_of_mem_splitOnP listed
  refine ⟨⟨fun feed => ?_, fun back => event.noReturn (within _ back)⟩, within⟩
  exact absurd (Lines.separates_of_mem_splitOnP listed _ feed) (by simp)

namespace Listener

/-- Lines without separators are collected as they were encoded. -/
theorem foldl_parts {lines : List StreamLine} (listener : Listener State)
    (wellFormed : ∀ line ∈ lines, line.WellFormed) (harmless : ∀ line ∈ lines, line.Harmless)
    (plain : ∀ line ∈ lines, ∀ value, line.value = some value →
      OnOneLine value ∧ ∀ point ∈ value, isSeparator point = false) :
    (lines.flatMap StreamLine.parts).foldl (readLine process) listener =
      { listener with dataBuffer := listener.dataBuffer ++ lines.filterMap StreamLine.value } := by
  induction lines generalizing listener with
  | nil => simp
  | cons line rest inductionHypothesis =>
    obtain ⟨first, others⟩ := List.forall_mem_cons.mp wellFormed
    obtain ⟨skipped, harmlessRest⟩ := List.forall_mem_cons.mp harmless
    obtain ⟨own, plainRest⟩ := List.forall_mem_cons.mp plain
    rw [List.flatMap_cons, List.foldl_append]
    cases line with
    | data spaced value =>
      obtain ⟨onOneLine, noSeparator⟩ := own value rfl
      have whole : (StreamLine.data spaced value).parts = [StreamLine.mark spaced ++ value] :=
        List.splitOnP_eq_singleton fun point member =>
          (List.mem_append.mp member).elim (StreamLine.isSeparator_of_mem_mark spaced point)
            (noSeparator point)
      have read : StreamLine.unspaced spaced value = value := by
        rw [StreamLine.unspaced, if_neg fun both => first both.1 both.2]
      rw [whole, List.foldl_cons, List.foldl_nil, readLine_mark process listener spaced onOneLine,
        read, inductionHypothesis _ others harmlessRest plainRest]
      simp [StreamLine.value]
    | filler text =>
      rw [foldl_skipped process listener (skipped rfl),
        inductionHypothesis _ others harmlessRest plainRest]
      rfl

/-- Only blank text was collected since, and nothing was handed over. -/
structure Quiet (before after : Listener State) : Prop where
  handed : after.handed = before.handed
  state : after.state = before.state
  blank : ∀ value ∈ after.dataBuffer, ∀ point ∈ value, Strings.isSpace point = true

/-- Blank text is dropped when it is handed over. -/
theorem Quiet.dispatch {before after : Listener State} (quiet : before.Quiet after) :
    after.dispatch process = { before with dataBuffer := [] } := by
  have drops : after.dispatch process = { after with dataBuffer := [] } := by
    by_cases empty : after.dataBuffer = []
    · rw [dispatch_of_empty process empty, ← empty]
    · rw [dispatch_eq process empty rfl, take,
        if_pos (Strings.strip_eq_nil_iff.mpr
          (Lines.forall_mem_intercalate
          (List.forall_mem_singleton.mpr (by decide)) quiet.blank))]
  rw [drops, quiet.handed, quiet.state]

/-- A blank line hands over nothing but blank text. -/
theorem Quiet.readLine {before after : Listener State} (quiet : before.Quiet after) {line : Text}
    (onOneLine : OnOneLine line) (blank : ∀ point ∈ line, Strings.isSpace point = true) :
    before.Quiet (after.readLine process line) := by
  simp only [Listener.readLine, stripEnd_of_onOneLine onOneLine]
  split
  next =>
    rw [quiet.dispatch process]
    exact ⟨rfl, rfl, by simp⟩
  next filled =>
    split
    next => exact quiet
    next =>
      have noColon : line.takeWhile (· ≠ colon) = line := by
        rw [List.takeWhile_eq_self_iff]
        intro point member
        refine decide_eq_true ?_
        rintro rfl
        exact absurd (blank _ member) (by decide)
      have other : (sseField line).1 ≠ Json.text "data" := by
        have field : (sseField line).1 = line := by
          unfold sseField
          split <;> exact noColon
        rw [field]
        rintro rfl
        exact absurd (blank (Json.point 'd'.toNat) (by decide)) (by decide)
      rw [if_neg other]
      exact quiet

/-- A line of blank data collects blank text. -/
theorem Quiet.readLine_mark {before after : Listener State} (quiet : before.Quiet after)
    (spaced : Bool) {value : Text} (onOneLine : OnOneLine value)
    (blank : ∀ point ∈ value, Strings.isSpace point = true) :
    before.Quiet (after.readLine process (StreamLine.mark spaced ++ value)) := by
  rw [Listener.readLine_mark process after spaced onOneLine]
  refine ⟨quiet.handed, quiet.state, fun collected member => ?_⟩
  rcases List.mem_append.mp member with old | new
  · exact quiet.blank collected old
  · rw [List.mem_singleton.mp new, StreamLine.unspaced]
    split
    next => exact fun point inside => blank point (List.mem_of_mem_tail inside)
    next => exact blank

/-- Blank lines without a mark collect nothing. -/
theorem Quiet.foldl_readLine {before after : Listener State} (quiet : before.Quiet after)
    {pieces : List Text} (blank : ∀ piece ∈ pieces,
      OnOneLine piece ∧ ∀ point ∈ piece, Strings.isSpace point = true) :
    before.Quiet (pieces.foldl (Listener.readLine process) after) := by
  induction pieces generalizing after with
  | nil => exact quiet
  | cons piece rest inductionHypothesis =>
    obtain ⟨first, others⟩ := List.forall_mem_cons.mp blank
    exact inductionHypothesis (quiet.readLine process first.1 first.2) others

/-- Lines of blank data collect blank text, wherever they come apart. -/
theorem Quiet.foldl_parts {lines : List StreamLine} {before after : Listener State}
    (quiet : before.Quiet after) (harmless : ∀ line ∈ lines, line.Harmless)
    (blank : ∀ line ∈ lines, ∀ value, line.value = some value →
      OnOneLine value ∧ ∀ point ∈ value, Strings.isSpace point = true) :
    before.Quiet ((lines.flatMap StreamLine.parts).foldl (Listener.readLine process) after) := by
  induction lines generalizing after with
  | nil => exact quiet
  | cons line rest inductionHypothesis =>
    obtain ⟨skipped, others⟩ := List.forall_mem_cons.mp harmless
    obtain ⟨own, blankRest⟩ := List.forall_mem_cons.mp blank
    rw [List.flatMap_cons, List.foldl_append]
    refine inductionHypothesis ?_ others blankRest
    cases line with
    | data spaced value =>
      obtain ⟨onOneLine, spaces⟩ := own value rfl
      have pieceBlank : ∀ piece ∈ value.splitOnP isSeparator,
          OnOneLine piece ∧ ∀ point ∈ piece, Strings.isSpace point = true := by
        intro piece listed
        have within : ∀ point ∈ piece, point ∈ value := fun _ => Lines.mem_of_mem_splitOnP listed
        exact ⟨⟨fun feed => onOneLine.1 (within _ feed), fun back => onOneLine.2 (within _ back)⟩,
          fun point inside => spaces point (within point inside)⟩
      obtain ⟨head, tail, pieces⟩ :=
        List.exists_cons_of_ne_nil (List.splitOnP_ne_nil isSeparator value)
      obtain ⟨headBlank, tailBlank⟩ := List.forall_mem_cons.mp (pieces ▸ pieceBlank)
      have parts : (StreamLine.data spaced value).parts =
          (StreamLine.mark spaced ++ head) :: tail := by
        rw [StreamLine.parts, StreamLine.text,
          Lines.splitOnP_append (StreamLine.isSeparator_of_mem_mark spaced), pieces,
          List.modifyHead_cons]
      rw [parts, List.foldl_cons]
      exact (quiet.readLine_mark process spaced headBlank.1 headBlank.2).foldl_readLine process
        tailBlank
    | filler text =>
      rw [foldl_skipped process after (skipped rfl)]
      exact quiet

/-- An event is handed over as it was encoded, if it is blank or comes apart nowhere. -/
theorem foldl_event {listener : Listener State} (empty : listener.dataBuffer = [])
    {event : EncodedEvent} (intact : event.Intact) :
    ((event.lines.flatMap StreamLine.parts).foldl (readLine process) listener).dispatch process =
      listener.take process event.payload := by
  by_cases blank : Strings.strip event.payload = []
  · have quiet : listener.Quiet listener := ⟨rfl, rfl, by simp [empty]⟩
    rw [take, if_pos blank]
    refine (quiet.foldl_parts process intact.harmless fun line member value tells => ?_).dispatch
      process
    obtain ⟨onOneLine, within⟩ := EncodedEvent.onOneLine_value member tells
    exact ⟨onOneLine, fun point inside =>
      Strings.strip_eq_nil_iff.mp blank point (within point inside)⟩
  · have plain : ∀ line ∈ event.lines, ∀ value, line.value = some value →
        OnOneLine value ∧ ∀ point ∈ value, isSeparator point = false := by
      intro line member value tells
      obtain ⟨onOneLine, within⟩ := EncodedEvent.onOneLine_value member tells
      exact ⟨onOneLine, fun point inside => intact.whole blank point (within point inside)⟩
    rw [foldl_parts process listener event.wellFormed intact.harmless plain,
      empty, event.tells, List.nil_append]
    exact dispatch_eq process (List.splitOn_ne_nil lineFeed event.payload)
      (List.intercalate_splitOn lineFeed)

theorem dataBuffer_take (listener : Listener State) (payload : Text) :
    (listener.take process payload).dataBuffer = [] := by
  rw [take]
  split <;> rfl

/-- Events that are ended by blank lines are handed over one by one. -/
theorem foldl_events {events : List EncodedEvent} {listener : Listener State}
    (empty : listener.dataBuffer = []) (intact : ∀ event ∈ events, event.Intact) :
    (events.flatMap fun event => event.lines.flatMap StreamLine.parts ++ [[]]).foldl
        (readLine process) listener =
      (events.map (·.payload)).foldl (take process) listener := by
  induction events generalizing listener with
  | nil => rfl
  | cons event rest inductionHypothesis =>
    obtain ⟨first, others⟩ := List.forall_mem_cons.mp intact
    rw [List.flatMap_cons, List.foldl_append, List.foldl_append, List.foldl_cons, List.foldl_nil,
      readLine_nil, foldl_event process empty first, List.map_cons, List.foldl_cons]
    exact inductionHypothesis (dataBuffer_take process _ _) others

/-- Handing payloads over leaves out those that are blank, and each finds the state that the one
before it left. -/
theorem foldl_take (payloads : List Text) {listener : Listener State}
    (empty : listener.dataBuffer = []) :
    payloads.foldl (take process) listener =
      { handed := listener.handed ++ payloads.filter fun payload => Strings.strip payload ≠ []
        state := (payloads.filter fun payload => Strings.strip payload ≠ []).foldl
          (fun state payload => ((process payload).start state).2) listener.state } := by
  induction payloads generalizing listener with
  | nil =>
    cases listener
    cases empty
    simp
  | cons payload rest inductionHypothesis =>
    rw [List.foldl_cons, inductionHypothesis (dataBuffer_take process listener payload), take]
    by_cases blank : Strings.strip payload = []
    · simp [blank]
    · simp [blank, hand]

end Listener

namespace EncodedStream

theorem onOneLine_of_mem_lines (stream : EncodedStream) :
    ∀ line ∈ stream.lines, OnOneLine line := by
  have ofEvent : ∀ event : EncodedEvent, ∀ line ∈ event.lines.map (·.text), OnOneLine line := by
    intro event line listed
    obtain ⟨own, member, rfl⟩ := List.mem_map.mp listed
    cases own with
    | data spaced value =>
      exact StreamLine.onOneLine_mark spaced (EncodedEvent.onOneLine_value member rfl).1
    | filler text =>
      have skipped : StreamLine.Skipped text := event.wellFormed _ member
      exact skipped.2.1
  intro line listed
  rcases List.mem_append.mp listed with inEvents | inTail
  · rcases List.mem_append.mp inEvents with inClosed | inLast
    · obtain ⟨event, -, member⟩ := List.mem_flatMap.mp inClosed
      rcases List.mem_append.mp member with own | blank
      · exact ofEvent event line own
      · rw [List.mem_singleton.mp blank]
        decide
    · cases ends : stream.last with
      | none => simp [ends] at inLast
      | some event =>
        rw [ends] at inLast
        exact ofEvent event line inLast
  · obtain ⟨own, member, rfl⟩ := List.mem_map.mp inTail
    obtain ⟨wellFormed, silent⟩ := stream.wellFormed own member
    cases own with
    | data spaced value => cases silent
    | filler text =>
      have skipped : StreamLine.Skipped text := wellFormed
      exact skipped.2.1

/-- The lines that the client makes of a stream. -/
theorem splitLines_text (stream : EncodedStream) :
    Lines.splitLines stream.text =
      (stream.closed.flatMap fun event => event.lines.flatMap StreamLine.parts ++ [[]]) ++
        (stream.last.elim [] fun event => event.lines.flatMap StreamLine.parts) ++
          stream.tail.flatMap StreamLine.parts := by
  have closed : stream.closed.flatMap (fun event =>
        (event.lines.map (·.text) ++ [[]]).flatMap (·.splitOnP isSeparator)) =
      stream.closed.flatMap fun event => event.lines.flatMap StreamLine.parts ++ [[]] := by
    refine List.flatMap_congr fun event _ => ?_
    rw [List.flatMap_append, List.flatMap_map, List.flatMap_singleton, List.splitOnP_nil]
    rfl
  have last : (stream.last.elim [] fun event => event.lines.map (·.text)).flatMap
        (·.splitOnP isSeparator) =
      stream.last.elim [] fun event => event.lines.flatMap StreamLine.parts := by
    cases stream.last with
    | none => rfl
    | some event => exact List.flatMap_map _ _ _
  rw [text, Lines.splitLines_flatMap stream.ending stream.onOneLine_of_mem_lines, lines,
    List.flatMap_append, List.flatMap_append, List.flatMap_assoc, closed, last, List.flatMap_map]
  rfl

/-- The payloads of a stream without separators are handed over. -/
theorem listen_eq {stream : EncodedStream} (harmless : ∀ line ∈ stream.streamLines, line.Harmless)
    (whole : ∀ payload ∈ stream.filled, ∀ point ∈ payload, isSeparator point = false)
    (start : State) :
    Listener.listen process (Lines.splitLines stream.text) start =
      { handed := stream.filled
        state := stream.filled.foldl (fun state payload => ((process payload).start state).2)
          start } := by
  have intactClosed : ∀ event ∈ stream.closed, event.Intact := fun event member =>
    { harmless := fun line listed => harmless line (List.mem_append_left _
        (List.mem_append_left _ (List.mem_flatMap.mpr ⟨event, member, listed⟩)))
      whole := fun filled => whole event.payload (List.mem_filter.mpr
        ⟨List.mem_append_left _ (List.mem_map_of_mem member), decide_eq_true filled⟩) }
  have intactLast : ∀ event ∈ stream.last.toList, event.Intact := fun event member =>
    { harmless := fun line listed => harmless line (List.mem_append_left _
        (List.mem_append_right _ (List.mem_flatMap.mpr ⟨event, member, listed⟩)))
      whole := fun filled => whole event.payload (List.mem_filter.mpr
        ⟨List.mem_append_right _ (List.mem_map_of_mem member), decide_eq_true filled⟩) }
  have skipped : ∀ listener : Listener State,
      (stream.tail.flatMap StreamLine.parts).foldl (Listener.readLine process) listener =
        listener := by
    refine fun listener => Listener.foldl_skipped process listener fun text listed => ?_
    obtain ⟨line, member, part⟩ := List.mem_flatMap.mp listed
    exact harmless line (List.mem_append_right _ member) (stream.wellFormed line member).2 text part
  let listener : Listener State := { state := start }
  have closed := Listener.foldl_events process (show listener.dataBuffer = [] from rfl) intactClosed
  rw [Listener.listen, splitLines_text, List.foldl_append, List.foldl_append, closed, skipped]
  have taken : ((stream.last.elim [] fun event => event.lines.flatMap StreamLine.parts).foldl
      (Listener.readLine process) ((stream.closed.map (·.payload)).foldl
        (Listener.take process) { state := start })).dispatch process =
      stream.payloads.foldl (Listener.take process) { state := start } := by
    have empty : ((stream.closed.map (·.payload)).foldl (Listener.take process)
        { state := start }).dataBuffer = [] := by
      rw [Listener.foldl_take process _ rfl]
    rw [payloads, List.foldl_append]
    cases ends : stream.last with
    | none => exact Listener.dispatch_of_empty process empty
    | some event =>
      refine Listener.foldl_event process empty (intactLast event ?_)
      rw [ends]
      exact List.mem_singleton_self event
  rw [taken, Listener.foldl_take process _ rfl]
  rfl

end EncodedStream

/-! ### What the processing has no part in -/

namespace Listener

variable {State' Error' : Type} (process' : Text → Attempt State' Error' Unit)

/-- Two listeners have collected and handed over the same. -/
structure Alike (listener : Listener State) (listener' : Listener State') : Prop where
  dataBuffer : listener.dataBuffer = listener'.dataBuffer
  handed : listener.handed = listener'.handed

theorem Alike.dispatch {listener : Listener State} {listener' : Listener State'}
    (alike : listener.Alike listener') :
    (listener.dispatch process).Alike (listener'.dispatch process') := by
  simp only [Listener.dispatch, alike.dataBuffer, alike.handed]
  split
  next => exact alike
  next =>
    split
    next => exact ⟨rfl, rfl⟩
    next => exact ⟨rfl, rfl⟩

theorem Alike.readLine {listener : Listener State} {listener' : Listener State'}
    (alike : listener.Alike listener') (line : Text) :
    (listener.readLine process line).Alike (listener'.readLine process' line) := by
  simp only [Listener.readLine, alike.dataBuffer]
  split
  next => exact alike.dispatch process process'
  next =>
    split
    next => exact alike
    next =>
      split
      next => exact ⟨rfl, alike.handed⟩
      next => exact alike

/-- Whatever processes the payloads, the same are handed over. -/
theorem handed_listen (lines : List Text) (start : State) (start' : State') :
    (listen process lines start).handed = (listen process' lines start').handed := by
  have read : ∀ {listener : Listener State} {listener' : Listener State'},
      listener.Alike listener' →
        (lines.foldl (Listener.readLine process) listener).Alike
          (lines.foldl (Listener.readLine process') listener') := by
    induction lines with
    | nil => exact fun alike => alike
    | cons line rest inductionHypothesis =>
      exact fun alike => inductionHypothesis (alike.readLine process process' line)
  have initial :
      Alike ({ state := start } : Listener State) ({ state := start' } : Listener State') :=
    ⟨rfl, rfl⟩
  exact ((read initial).dispatch process process').handed

end Listener

/-! ### Payloads that come apart -/

namespace Listener

/-- Neither what is collected nor what was handed over has separators in it. -/
structure Plain (listener : Listener State) : Prop where
  collected : ∀ value ∈ listener.dataBuffer, ∀ point ∈ value, isSeparator point = false
  handed : ∀ payload ∈ listener.handed, ∀ point ∈ payload, isSeparator point = false

theorem Plain.dispatch {listener : Listener State} (plain : listener.Plain) :
    (listener.dispatch process).Plain := by
  simp only [Listener.dispatch]
  split
  next => exact plain
  next =>
    split
    next => exact ⟨by simp, plain.handed⟩
    next =>
      refine ⟨by simp, fun payload member => ?_⟩
      rcases List.mem_append.mp member with old | new
      · exact plain.handed payload old
      · rw [List.mem_singleton.mp new]
        exact Lines.forall_mem_intercalate (List.forall_mem_singleton.mpr (by decide))
          plain.collected

theorem mem_of_mem_sseField {line : Text} {point : CodePoint}
    (member : point ∈ (sseField line).2) : point ∈ line := by
  unfold sseField at member
  split at member
  next => cases member
  next first value rest =>
    refine (List.dropWhile_sublist _).mem (rest ▸ List.mem_cons_of_mem _ ?_)
    split at member
    next => exact List.mem_of_mem_tail member
    next => exact member

theorem Plain.readLine {listener : Listener State} (plain : listener.Plain) {line : Text}
    (whole : ∀ point ∈ line, isSeparator point = false) :
    (listener.readLine process line).Plain := by
  simp only [Listener.readLine]
  split
  next => exact plain.dispatch process
  next =>
    split
    next => exact plain
    next =>
      split
      next =>
        refine ⟨fun value member => ?_, plain.handed⟩
        rcases List.mem_append.mp member with old | new
        · exact plain.collected value old
        · rw [List.mem_singleton.mp new]
          exact fun point inside => whole point (Strings.mem_of_mem_stripEnd
            (mem_of_mem_sseField inside))
      next => exact plain

/-- What is handed over of lines without separators has none, either. -/
theorem isSeparator_of_mem_listen {lines : List Text}
    (whole : ∀ line ∈ lines, ∀ point ∈ line, isSeparator point = false) (start : State) :
    ∀ payload ∈ (listen process lines start).handed, ∀ point ∈ payload,
      isSeparator point = false := by
  have read : (lines.foldl (Listener.readLine process) { state := start }).Plain :=
    List.foldlRecOn lines _ ⟨by simp, by simp⟩ fun listener plain line member =>
      plain.readLine process (whole line member)
  exact (read.dispatch process).handed

end Listener

end Reading

/-- The non-blank payloads of a stream are handed over unchanged, each once and in their order,
whatever processes them. Each finds the state that the one before it left, failed or not. -/
def EncodedStream.RoundTrips (aiterLines : Text → List Text) (stream : EncodedStream) : Prop :=
  ∀ (State Error : Type) (process : Text → Attempt State Error Unit) (start : State),
    Listener.listen process (aiterLines stream.text) start =
      { handed := stream.filled
        state := stream.filled.foldl (fun state payload => ((process payload).start state).2)
          start }

/-- A stream round trips if none of its payloads has a separator in it at which the client ends a
line, and only then. Comments and other fields with separators do no harm unless a part of them is
blank or data. -/
theorem framing_round_trips (aiterLines : Text → List Text)
    (documented : ∀ text, aiterLines text = Lines.splitLines text) (stream : EncodedStream) :
    ((∀ payload ∈ stream.filled, ∀ point ∈ payload, isSeparator point = false) →
        (∀ line ∈ stream.streamLines, line.Harmless) → stream.RoundTrips aiterLines) ∧
      (stream.RoundTrips aiterLines →
        ∀ payload ∈ stream.filled, ∀ point ∈ payload, isSeparator point = false) := by
  rw [EncodedStream.RoundTrips, documented]
  refine ⟨fun whole harmless _ _ process start => stream.listen_eq process harmless whole start,
    fun exact payload member => ?_⟩
  -- Already what processes nothing is only handed payloads without separators.
  let ignore : Text → Attempt Unit Unit Unit := fun _ => pure ()
  have handed : payload ∈ (Listener.listen ignore (Lines.splitLines stream.text) ()).handed := by
    rw [exact Unit Unit ignore ()]
    exact member
  refine Listener.isSeparator_of_mem_listen ignore (fun line listed point inside => ?_) ()
    payload handed
  have inner := Lines.isBoundary_of_mem_splitLines listed point inside
  rw [isBoundary, Bool.or_eq_false_iff] at inner
  exact inner.2

/-- A stream with an event of two lines, a comment in it, and another event that no blank line
ends. -/
def commentedStream : EncodedStream where
  closed := [{
    payload := Json.text "\x7b\n\x7d"
    lines := [
      .data true (Json.text "\x7b"), .filler (Json.text ": keep\u2028alive"),
      .data false (Json.text "\x7d")
    ]
    noReturn := by decide
    wellFormed := by decide
    tells := by decide
  }]
  last := some {
    payload := Json.text "[]"
    lines := [.filler (Json.text "id: 7"), .data true (Json.text "[]")]
    noReturn := by decide
    wellFormed := by decide
    tells := by decide
  }
  wellFormed := by decide

/-- Both of its events are handed over. -/
theorem commentedStream_round_trips : commentedStream.RoundTrips Lines.splitLines := by
  refine (framing_round_trips Lines.splitLines (fun _ => rfl) commentedStream).1 ?_ (by decide)
  have all : commentedStream.filled.all (fun payload =>
      payload.all fun point => !isSeparator point) = true := by decide
  simpa using all

/-- A stream with one event whose message has a line separator in it. -/
def separatedStream : EncodedStream where
  closed := [{
    payload := Json.text "\x7b\"m\":\"a\u2028b\"\x7d"
    lines := [.data true (Json.text "\x7b\"m\":\"a\u2028b\"\x7d")]
    noReturn := by decide
    wellFormed := by decide
    tells := by decide
  }]
  wellFormed := by decide

/-- The event is handed over without what follows the separator. -/
theorem separatedStream_comes_apart :
    ¬∀ (aiterLines : Text → List Text) (_ : ∀ text, aiterLines text = Lines.splitLines text)
      (stream : EncodedStream), stream.RoundTrips aiterLines := by
  intro exact
  let ignore : Text → Attempt Unit Unit Unit := fun _ => pure ()
  have handed := congrArg Listener.handed
    (exact Lines.splitLines (fun _ => rfl) separatedStream Unit Unit ignore ())
  have kept : (Listener.listen ignore (Lines.splitLines separatedStream.text) ()).handed =
      [Json.text "\x7b\"m\":\"a"] := by decide
  rw [kept] at handed
  exact absurd handed (by decide)

end Gyanam
