/-
This file builds the CSV dialect of Python's standard library. The writer quotes
the fields that need it and doubles the quotes in them; the reader is a fold over
the characters with a mode, as in the source, and may have a limit on the length
of a field. What is written is read back, whether its lines end in a carriage
return and a line feed or in a line feed alone.

A file that is read as text has its line ends translated. Translating a written
file translates its fields and the ends of its lines, and nothing else.
-/

import Mathlib.Data.List.Basic
import Mathlib.Data.List.Flatten
import Mathlib.Tactic.Common

namespace Csv

/-- The characters that mean something in a file. -/
structure Dialect (Point : Type) where
  delimiter : Point
  quote : Point
  carriageReturn : Point
  lineFeed : Point
  distinct : [delimiter, quote, carriageReturn, lineFeed].Nodup

/-- The characters of the excel dialect. -/
def excel : Dialect Char := ⟨',', '"', '\r', '\n', by decide⟩

/-- A row is a list of fields. -/
abbrev Row (Point : Type) := List (List Point)

/-- How lines end. -/
inductive LineEnd where
  | crlf
  | lf
  deriving DecidableEq, Repr

variable {Point : Type} [DecidableEq Point] (dialect : Dialect Point)

/-! ### Writing -/

/-- Does a character make a field need quotes? -/
def special (point : Point) : Bool :=
  decide (point = dialect.delimiter) || decide (point = dialect.quote) ||
    decide (point = dialect.carriageReturn) || decide (point = dialect.lineFeed)

/-- Double the quotes. -/
def escape : List Point → List Point
  | [] => []
  | point :: rest =>
    if point = dialect.quote then point :: point :: escape rest else point :: escape rest

/-- Write a field, in quotes if it needs them. -/
def writeField (field : List Point) : List Point :=
  if field.any (special dialect) then dialect.quote :: escape dialect field ++ [dialect.quote]
  else field

/-- Write the fields of a row with delimiters between them. -/
def joinFields : Row Point → List Point
  | [] => []
  | [field] => writeField dialect field
  | field :: rest => writeField dialect field ++ dialect.delimiter :: joinFields rest

/-- The characters that end a line. -/
def terminator : LineEnd → List Point
  | .crlf => [dialect.carriageReturn, dialect.lineFeed]
  | .lf => [dialect.lineFeed]

/-- Write a row. One whose only field is empty is written as a pair of quotes. -/
def writeRow (ending : LineEnd) (row : Row Point) : List Point :=
  (if row = [[]] then [dialect.quote, dialect.quote] else joinFields dialect row) ++
    terminator dialect ending

/-- Write rows. -/
def write (ending : LineEnd) (rows : List (Row Point)) : List Point :=
  rows.flatMap (writeRow dialect ending)

/-! ### Reading -/

/-- Where the reader is. -/
inductive Mode where
  | startRecord
  | startField
  | inField
  | inQuotedField
  | quoteInQuotedField
  | eatCrnl
  deriving DecidableEq, Repr

/-- The reader: the field and the fields it is at, and the rows that it has read. -/
structure Reader (Point : Type) where
  mode : Mode := .startRecord
  field : List Point := []
  fields : Row Point := []
  rows : List (Row Point) := []
  failed : Bool := false

namespace Reader

variable {dialect}

/-- Put the field away. -/
def saveField (reader : Reader Point) : Reader Point :=
  { reader with field := [], fields := reader.fields ++ [reader.field] }

/-- Put the row away. -/
def endRow (reader : Reader Point) : Reader Point :=
  { reader with mode := .startRecord, fields := [], rows := reader.rows ++ [reader.fields] }

/-- Add a character to the field, unless it is as long as a field may be. -/
def addChar (limit : Option Nat) (mode : Mode) (point : Point) (reader : Reader Point) :
    Reader Point :=
  if limit.any fun bound => decide (bound ≤ reader.field.length) then
    { reader with failed := true }
  else { reader with mode := mode, field := reader.field ++ [point] }

variable (dialect) in
/-- Read one character. A line feed ends the line that is handed to the reader, too. -/
def step (limit : Option Nat) (reader : Reader Point) (point : Point) : Reader Point :=
  if reader.failed then reader
  else
    match reader.mode with
    | .inQuotedField =>
      if point = dialect.quote then { reader with mode := .quoteInQuotedField }
      else reader.addChar limit .inQuotedField point
    | .eatCrnl =>
      if point = dialect.lineFeed then reader.endRow
      else if point = dialect.carriageReturn then reader
      else { reader with failed := true }
    | mode =>
      if point = dialect.lineFeed then
        if mode = .startRecord then reader.endRow else reader.saveField.endRow
      else if point = dialect.carriageReturn then
        { if mode = .startRecord then reader else reader.saveField with mode := .eatCrnl }
      else if point = dialect.delimiter then { reader.saveField with mode := .startField }
      else if point = dialect.quote then
        match mode with
        | .inField => reader.addChar limit .inField point
        | .quoteInQuotedField => reader.addChar limit .inQuotedField point
        | _ => { reader with mode := .inQuotedField }
      else reader.addChar limit .inField point

variable (dialect) in
/-- Read some characters. -/
def feed (limit : Option Nat) (reader : Reader Point) (chars : List Point) : Reader Point :=
  chars.foldl (step dialect limit) reader

/-- The text is over. A row that has begun is put away. -/
def finish (reader : Reader Point) : Reader Point :=
  if reader.failed then reader
  else
    match reader.mode with
    | .startRecord => reader
    | .eatCrnl => reader.endRow
    | _ => reader.saveField.endRow

end Reader

/-- Read a text: the rows, and whether the reader has failed after them. -/
def readAll (limit : Option Nat) (chars : List Point) : Reader Point :=
  (Reader.feed dialect limit {} chars).finish

/-- The rows of a text, if the reader does not fail. -/
def read (chars : List Point) : Option (List (Row Point)) :=
  if (readAll dialect none chars).failed then none else some (readAll dialect none chars).rows

/-! ### Reading back what was written -/

section Back

variable {dialect} {limit : Option Nat} {reader : Reader Point}

theorem special_eq_false {point : Point} : special dialect point = false ↔
    point ≠ dialect.delimiter ∧ point ≠ dialect.quote ∧ point ≠ dialect.carriageReturn ∧
      point ≠ dialect.lineFeed := by
  simp [special, and_assoc]

omit [DecidableEq Point] in
theorem marks_distinct (dialect : Dialect Point) : dialect.delimiter ≠ dialect.quote ∧
    dialect.delimiter ≠ dialect.carriageReturn ∧ dialect.delimiter ≠ dialect.lineFeed ∧
      dialect.quote ≠ dialect.carriageReturn ∧ dialect.quote ≠ dialect.lineFeed ∧
        dialect.carriageReturn ≠ dialect.lineFeed := by
  have distinct := dialect.distinct
  simp only [List.nodup_cons, List.mem_cons, List.not_mem_nil, or_false, not_or] at distinct
  exact ⟨distinct.1.1, distinct.1.2.1, distinct.1.2.2, distinct.2.1.1, distinct.2.1.2,
    distinct.2.2.1⟩

theorem joinFields_cons_cons (field next : List Point) (rest : Row Point) :
    joinFields dialect (field :: next :: rest) =
      writeField dialect field ++ dialect.delimiter :: joinFields dialect (next :: rest) := by
  simp [joinFields]

/-- A length that a field may have. -/
def Within (limit : Option Nat) (length : Nat) : Prop := ∀ bound ∈ limit, length ≤ bound

theorem Within.mono {short long : Nat} (within : Within limit long) (shorter : short ≤ long) :
    Within limit short :=
  fun bound set => Nat.le_trans shorter (within bound set)

namespace Reader

theorem feed_append (first second : List Point) :
    reader.feed dialect limit (first ++ second) =
      (reader.feed dialect limit first).feed dialect limit second :=
  List.foldl_append

omit [DecidableEq Point] in
theorem addChar_of_within (reader : Reader Point) (mode : Mode) (point : Point)
    (within : Within limit (reader.field.length + 1)) :
    reader.addChar limit mode point =
      { reader with mode := mode, field := reader.field ++ [point] } := by
  refine if_neg fun full => ?_
  obtain ⟨bound, set, reached⟩ := (Option.any_eq_true _ _).mp full
  exact absurd (within bound set) (Nat.not_le_of_lt (Nat.lt_succ_of_le (of_decide_eq_true reached)))

/-- Characters that mean nothing are added to a field without quotes. -/
theorem feed_plain (reader : Reader Point) {chars : List Point}
    (plain : ∀ point ∈ chars, special dialect point = false)
    (running : reader.failed = false)
    (outside : reader.mode = .startRecord ∨ reader.mode = .startField ∨ reader.mode = .inField)
    (within : Within limit (reader.field.length + chars.length)) (filled : chars ≠ []) :
    reader.feed dialect limit chars =
      { reader with mode := .inField, field := reader.field ++ chars } := by
  induction chars generalizing reader with
  | nil => exact absurd rfl filled
  | cons point rest inductionHypothesis =>
    obtain ⟨delimiter, quote, carriageReturn, lineFeed⟩ :=
      special_eq_false.mp (plain point List.mem_cons_self)
    have first : reader.step dialect limit point =
        { reader with mode := .inField, field := reader.field ++ [point] } := by
      rw [← addChar_of_within reader .inField point
        (within.mono (by rw [List.length_cons]; omega))]
      unfold step
      rcases outside with mode | mode | mode <;>
        simp [running, mode, delimiter, quote, carriageReturn, lineFeed]
    show feed dialect limit (reader.step dialect limit point) rest = _
    rw [first]
    cases rest with
    | nil => rfl
    | cons next rest =>
      rw [inductionHypothesis { reader with mode := .inField, field := reader.field ++ [point] }
        (fun other member => plain other (List.mem_cons_of_mem _ member)) running (.inr (.inr rfl))
        (within.mono ?_) (List.cons_ne_nil _ _)]
      · simp
      · simp only [List.length_append, List.length_cons, List.length_nil]
        omega

/-- In quotes, the characters of a field are read back from the ones with doubled quotes. -/
theorem feed_escape (reader : Reader Point) {chars : List Point} (running : reader.failed = false)
    (inside : reader.mode = .inQuotedField)
    (within : Within limit (reader.field.length + chars.length)) :
    reader.feed dialect limit (escape dialect chars) =
      { reader with field := reader.field ++ chars } := by
  induction chars generalizing reader with
  | nil => simp [escape, feed]
  | cons point rest inductionHypothesis =>
    have short : Within limit (reader.field.length + 1) :=
      within.mono (by rw [List.length_cons]; omega)
    have next : feed dialect limit { reader with field := reader.field ++ [point] }
        (escape dialect rest) = { reader with field := reader.field ++ point :: rest } := by
      rw [inductionHypothesis { reader with field := reader.field ++ [point] } running inside
        (within.mono ?_)]
      · simp
      · simp only [List.length_append, List.length_cons, List.length_nil]
        omega
    have added (mode : Mode) : addChar limit .inQuotedField point { reader with mode := mode } =
        { reader with field := reader.field ++ [point] } :=
      (addChar_of_within { reader with mode := mode } .inQuotedField point short).trans
        (by rw [inside])
    rw [← next]
    by_cases quote : point = dialect.quote
    · obtain ⟨delimiter, -, -, carriageReturn, lineFeed, -⟩ := marks_distinct dialect
      have twice : step dialect limit (reader.step dialect limit point) point =
          { reader with field := reader.field ++ [point] } := by
        rw [← added .quoteInQuotedField]
        simp [step, running, inside, quote, delimiter.symm, carriageReturn, lineFeed]
      rw [escape, if_pos quote]
      show feed dialect limit (step dialect limit (reader.step dialect limit point) point) _ = _
      rw [twice]
    · have once : reader.step dialect limit point =
          { reader with field := reader.field ++ [point] } := by
        have kept : reader.step dialect limit point =
            reader.addChar limit .inQuotedField point := by
          simp [step, running, inside, quote]
        exact kept.trans (added reader.mode)
      rw [escape, if_neg quote]
      show feed dialect limit (reader.step dialect limit point) _ = _
      rw [once]

/-- A written field is read, up to what follows it. -/
theorem feed_writeField {field : List Point} (running : reader.failed = false)
    (starts : reader.mode = .startRecord ∨ reader.mode = .startField) (blank : reader.field = [])
    (within : Within limit field.length) :
    ∃ mode, reader.feed dialect limit (writeField dialect field) =
        { reader with mode := mode, field := field } ∧
      (mode = .inField ∨ mode = .quoteInQuotedField ∨ mode = .startField ∨
        (mode = .startRecord ∧ field = [] ∧ reader.mode = .startRecord)) := by
  have bounded : Within limit (reader.field.length + field.length) := by
    rwa [blank, List.length_nil, Nat.zero_add]
  unfold writeField
  split
  · obtain ⟨delimiter, -, -, carriageReturn, lineFeed, -⟩ := marks_distinct dialect
    have opened : reader.step dialect limit dialect.quote =
        { reader with mode := .inQuotedField } := by
      unfold step
      rcases starts with mode | mode <;>
        simp [running, mode, delimiter.symm, carriageReturn, lineFeed]
    refine ⟨.quoteInQuotedField, ?_, .inr (.inl rfl)⟩
    rw [feed_append]
    show feed dialect limit (feed dialect limit (reader.step dialect limit dialect.quote) _) _ = _
    rw [opened, feed_escape { reader with mode := .inQuotedField } running rfl bounded, blank,
      List.nil_append]
    simp [feed, step, running]
  · next plain =>
    have ordinary : ∀ point ∈ field, special dialect point = false := by simpa using plain
    by_cases empty : field = []
    · subst empty
      refine ⟨reader.mode, ?_, ?_⟩
      · cases reader
        simp_all [feed]
      · rcases starts with mode | mode
        · exact .inr (.inr (.inr ⟨mode, rfl, mode⟩))
        · exact .inr (.inr (.inl mode))
    · refine ⟨.inField, ?_, .inl rfl⟩
      rw [feed_plain reader ordinary running (starts.imp_right .inl) bounded empty, blank,
        List.nil_append]

/-- A written field with the delimiter after it. -/
theorem feed_field_delimiter {field : List Point} (running : reader.failed = false)
    (starts : reader.mode = .startRecord ∨ reader.mode = .startField) (blank : reader.field = [])
    (within : Within limit field.length) :
    reader.feed dialect limit (writeField dialect field ++ [dialect.delimiter]) =
      { reader with mode := .startField, field := [], fields := reader.fields ++ [field] } := by
  obtain ⟨mode, written, after⟩ := feed_writeField running starts blank within
  obtain ⟨-, carriageReturn, lineFeed, -⟩ := marks_distinct dialect
  rw [feed_append, written]
  show step dialect limit _ dialect.delimiter = _
  rcases after with rfl | rfl | rfl | ⟨rfl, -⟩ <;>
    simp [step, running, carriageReturn, lineFeed, saveField]

/-- A written field with the end of its line after it. -/
theorem feed_field_end {field : List Point} (ending : LineEnd) (running : reader.failed = false)
    (starts : reader.mode = .startField ∨ (reader.mode = .startRecord ∧ field ≠ []))
    (blank : reader.field = []) (within : Within limit field.length) :
    reader.feed dialect limit (writeField dialect field ++ terminator dialect ending) =
      { reader with mode := .startRecord, field := [], fields := [],
                    rows := reader.rows ++ [reader.fields ++ [field]] } := by
  obtain ⟨mode, written, after⟩ := feed_writeField running
    (starts.symm.imp_left And.left) blank within
  obtain ⟨-, -, -, -, -, different⟩ := marks_distinct dialect
  have inside : mode = .inField ∨ mode = .quoteInQuotedField ∨ mode = .startField := by
    rcases after with inField | quoted | start | ⟨-, empty, record⟩
    · exact .inl inField
    · exact .inr (.inl quoted)
    · exact .inr (.inr start)
    · rcases starts with field | ⟨-, filled⟩
      · exact absurd (record.symm.trans field) (by decide)
      · exact absurd empty filled
  rw [feed_append, written]
  cases ending <;> rcases inside with rfl | rfl | rfl <;>
    simp [feed, terminator, step, running, different, saveField, endRow]

/-- The fields of a row with the end of its line after them. -/
theorem feed_joinFields (reader : Reader Point) (ending : LineEnd) {row : Row Point}
    (running : reader.failed = false)
    (starts : reader.mode = .startField ∨ (reader.mode = .startRecord ∧ row ≠ [[]]))
    (blank : reader.field = []) (within : ∀ field ∈ row, Within limit field.length)
    (filled : row ≠ []) :
    reader.feed dialect limit (joinFields dialect row ++ terminator dialect ending) =
      { reader with mode := .startRecord, field := [], fields := [],
                    rows := reader.rows ++ [reader.fields ++ row] } := by
  induction row generalizing reader with
  | nil => exact absurd rfl filled
  | cons field rest inductionHypothesis =>
    have short := within field List.mem_cons_self
    cases rest with
    | nil =>
      exact feed_field_end ending running
        (starts.imp_right fun start => ⟨start.1, by simpa using start.2⟩)
        blank short
    | cons next rest =>
      have split : joinFields dialect (field :: next :: rest) ++ terminator dialect ending =
          (writeField dialect field ++ [dialect.delimiter]) ++
            (joinFields dialect (next :: rest) ++ terminator dialect ending) := by
        simp [joinFields_cons_cons]
      rw [split, feed_append,
        feed_field_delimiter running (starts.symm.imp_left And.left) blank short,
        inductionHypothesis
          { reader with mode := .startField, field := [], fields := reader.fields ++ [field] }
          running (.inl rfl) rfl
          (fun other member => within other (List.mem_cons_of_mem _ member)) (List.cons_ne_nil _ _)]
      simp

/-- A written row is read. -/
theorem feed_writeRow (ending : LineEnd) {row : Row Point} (before : List (Row Point))
    (within : ∀ field ∈ row, Within limit field.length) :
    feed dialect limit { rows := before } (writeRow dialect ending row) =
      { rows := before ++ [row] } := by
  obtain ⟨delimiter, -, -, carriageReturn, lineFeed, different⟩ := marks_distinct dialect
  unfold writeRow
  split
  · next empty =>
    subst empty
    cases ending <;>
      simp [feed, terminator, step, delimiter.symm, carriageReturn, lineFeed, different, saveField,
        endRow]
  · next other =>
    by_cases empty : row = []
    · subst empty
      cases ending <;> simp [feed, joinFields, terminator, step, different, endRow]
    · rw [feed_joinFields { rows := before } ending rfl (.inr ⟨rfl, other⟩) rfl within empty]
      simp

/-- Written rows are read. -/
theorem feed_write (ending : LineEnd) {rows : List (Row Point)} (before : List (Row Point))
    (within : ∀ row ∈ rows, ∀ field ∈ row, Within limit field.length) :
    feed dialect limit { rows := before } (write dialect ending rows) =
      { rows := before ++ rows } := by
  induction rows generalizing before with
  | nil => rw [List.append_nil]; rfl
  | cons row rest inductionHypothesis =>
    have split : write dialect ending (row :: rest) =
        writeRow dialect ending row ++ write dialect ending rest := List.flatMap_cons ..
    rw [split, feed_append, feed_writeRow ending before (within row List.mem_cons_self),
      inductionHypothesis _ fun other member => within other (List.mem_cons_of_mem _ member),
      List.append_assoc, List.singleton_append]

end Reader

/-- Written rows are read back if no field is too long. -/
theorem readAll_write (ending : LineEnd) {rows : List (Row Point)}
    (within : ∀ row ∈ rows, ∀ field ∈ row, Within limit field.length) :
    readAll dialect limit (write dialect ending rows) = { rows := rows } := by
  unfold readAll
  rw [Reader.feed_write ending [] within, List.nil_append]
  rfl

/-- What is written is read back. -/
theorem read_write (ending : LineEnd) (rows : List (Row Point)) :
    read dialect (write dialect ending rows) = some rows := by
  have all : readAll dialect none (write dialect ending rows) = { rows := rows } :=
    readAll_write ending fun _ _ _ _ _ set => absurd set (by simp)
  unfold read
  rw [all]
  rfl

/-! ### Fields that are too long -/

namespace Reader

theorem feed_of_failed (failed : reader.failed = true) (chars : List Point) :
    reader.feed dialect limit chars = reader := by
  induction chars with
  | nil => rfl
  | cons point rest inductionHypothesis =>
    have stays : reader.step dialect limit point = reader := if_pos failed
    show feed dialect limit (reader.step dialect limit point) rest = _
    rw [stays, inductionHypothesis]

omit [DecidableEq Point] in
theorem within_of_addChar {mode : Mode} {point : Point}
    (running : (reader.addChar limit mode point).failed = false) :
    Within limit (reader.field.length + 1) := by
  unfold addChar at running
  split at running
  · exact absurd running (by simp)
  · next room =>
    intro bound set
    by_contra full
    refine room ((Option.any_eq_true _ _).mpr ⟨bound, set, decide_eq_true ?_⟩)
    exact Nat.le_of_lt_succ (Nat.lt_of_not_le full)

/-- A condition on the field, the fields and the rows of a reader. -/
def All (holds : List Point → Prop) (reader : Reader Point) : Prop :=
  holds reader.field ∧ (∀ field ∈ reader.fields, holds field) ∧
    ∀ row ∈ reader.rows, ∀ field ∈ row, holds field

omit [DecidableEq Point] in
theorem All.saveField {holds : List Point → Prop} (empty : holds []) (all : reader.All holds) :
    reader.saveField.All holds := by
  refine ⟨empty, fun field listed => ?_, all.2.2⟩
  rcases List.mem_append.mp listed with before | last
  · exact all.2.1 field before
  · rw [List.mem_singleton.mp last]
    exact all.1

omit [DecidableEq Point] in
theorem All.endRow {holds : List Point → Prop} (all : reader.All holds) :
    reader.endRow.All holds := by
  refine ⟨all.1, fun field listed => absurd listed List.not_mem_nil, fun row listed => ?_⟩
  rcases List.mem_append.mp listed with before | last
  · exact all.2.2 row before
  · rw [List.mem_singleton.mp last]
    exact all.2.1

/-- A step adds its character to the field, or does the same whatever the limit is and leaves the
fields what they are. -/
theorem step_cases (reader : Reader Point) (point : Point) :
    (∃ mode, ∀ limit, reader.step dialect limit point = reader.addChar limit mode point) ∨
      ∃ next, (∀ limit, reader.step dialect limit point = next) ∧
        ∀ holds : List Point → Prop, holds [] → reader.All holds → next.All holds := by
  have stays : ∀ holds : List Point → Prop, holds [] → reader.All holds → reader.All holds :=
    fun _ _ all => all
  unfold step
  by_cases failed : reader.failed = true
  · exact .inr ⟨reader, fun _ => if_pos failed, stays⟩
  simp only [if_neg failed]
  cases mode : reader.mode
  case inQuotedField =>
    by_cases quote : point = dialect.quote
    · simp only [if_pos quote]
      exact .inr ⟨_, fun _ => rfl, fun _ _ all => all⟩
    · simp only [if_neg quote]
      exact .inl ⟨_, fun _ => rfl⟩
  case eatCrnl =>
    by_cases lineFeed : point = dialect.lineFeed
    · simp only [if_pos lineFeed]
      exact .inr ⟨_, fun _ => rfl, fun _ _ all => all.endRow⟩
    · by_cases carriageReturn : point = dialect.carriageReturn
      · simp only [if_neg lineFeed, if_pos carriageReturn]
        exact .inr ⟨_, fun _ => rfl, stays⟩
      · simp only [if_neg lineFeed, if_neg carriageReturn]
        exact .inr ⟨_, fun _ => rfl, fun _ _ all => all⟩
  -- in the other modes a mark ends the field; only a quote means something else in each
  all_goals
    by_cases lineFeed : point = dialect.lineFeed
    · simp only [if_pos lineFeed]
      first
        | exact .inr ⟨_, fun _ => rfl, fun _ _ all => all.endRow⟩
        | exact .inr ⟨_, fun _ => rfl, fun _ empty all => (All.saveField empty all).endRow⟩
    simp only [if_neg lineFeed]
    by_cases carriageReturn : point = dialect.carriageReturn
    · simp only [if_pos carriageReturn]
      first
        | exact .inr ⟨_, fun _ => rfl, fun _ _ all => all⟩
        | exact .inr ⟨_, fun _ => rfl, fun _ empty all => All.saveField empty all⟩
    simp only [if_neg carriageReturn]
    by_cases delimiter : point = dialect.delimiter
    · simp only [if_pos delimiter]
      exact .inr ⟨_, fun _ => rfl, fun _ empty all => All.saveField empty all⟩
    simp only [if_neg delimiter]
    by_cases quote : point = dialect.quote
    · simp only [if_pos quote]
      first
        | exact .inl ⟨_, fun _ => rfl⟩
        | exact .inr ⟨_, fun _ => rfl, fun _ _ all => all⟩
    · simp only [if_neg quote]
      exact .inl ⟨_, fun _ => rfl⟩

/-- A reader that does not fail reads what one without a limit does, and no field is too long. -/
theorem feed_of_running {chars : List Point}
    (running : (reader.feed dialect limit chars).failed = false)
    (bounded : reader.All fun field => Within limit field.length) :
    reader.feed dialect limit chars = reader.feed dialect none chars ∧
      (reader.feed dialect limit chars).All fun field => Within limit field.length := by
  induction chars generalizing reader with
  | nil => exact ⟨rfl, bounded⟩
  | cons point rest inductionHypothesis =>
    have first : (reader.step dialect limit point).failed = false := by
      cases failed : (reader.step dialect limit point).failed with
      | false => rfl
      | true =>
        have stays : reader.feed dialect limit (point :: rest) = reader.step dialect limit point :=
          feed_of_failed failed rest
        rw [stays] at running
        exact failed.symm.trans running
    have next : reader.step dialect limit point = reader.step dialect none point ∧
        (reader.step dialect limit point).All fun field => Within limit field.length := by
      rcases step_cases reader point with ⟨mode, adds⟩ | ⟨after, same, keeps⟩
      · rw [adds] at first
        have within := within_of_addChar first
        rw [adds, adds, addChar_of_within reader mode point within,
          addChar_of_within reader mode point fun _ set => absurd set (by simp)]
        refine ⟨rfl, ?_, bounded.2⟩
        show Within limit (reader.field ++ [point]).length
        rwa [List.length_append]
      · rw [same, same]
        exact ⟨rfl, keeps _ (fun _ _ => Nat.zero_le _) bounded⟩
    obtain ⟨same, all⟩ := inductionHypothesis running next.2
    show feed dialect limit (reader.step dialect limit point) rest =
        feed dialect none (reader.step dialect none point) rest ∧ _
    rw [← next.1]
    exact ⟨same, all⟩

end Reader

/-- Reading what was written fails exactly when a field is too long. -/
theorem readAll_write_running_iff (ending : LineEnd) {rows : List (Row Point)} :
    (readAll dialect limit (write dialect ending rows)).failed = false ↔
      ∀ row ∈ rows, ∀ field ∈ row, Within limit field.length := by
  constructor
  · intro running
    have unfinished : (Reader.feed dialect limit {}
        (write dialect ending rows)).failed = false := by
      unfold readAll Reader.finish at running
      split at running
      · exact running
      · next alive => exact Bool.not_eq_true _ ▸ alive
    have blank : ({} : Reader Point).All fun field => Within limit field.length :=
      ⟨fun _ _ => Nat.zero_le _, fun _ listed => absurd listed List.not_mem_nil,
        fun _ listed => absurd listed List.not_mem_nil⟩
    obtain ⟨same, all⟩ := Reader.feed_of_running unfinished blank
    have written : Reader.feed dialect none {} (write dialect ending rows) = { rows := rows } :=
      Reader.feed_write ending [] fun _ _ _ _ _ set => absurd set (by simp)
    rw [same, written] at all
    exact all.2.2
  · intro within
    rw [readAll_write ending within]

/-! ### Line ends -/

variable (dialect) in
/-- The line ends of a text that is opened with universal newlines. -/
def newlinesFrom : Bool → List Point → List Point
  | _, [] => []
  | after, point :: rest =>
    if point = dialect.carriageReturn then dialect.lineFeed :: newlinesFrom true rest
    else if point = dialect.lineFeed ∧ after = true then newlinesFrom false rest
    else point :: newlinesFrom false rest

variable (dialect) in
/-- A text that is opened with universal newlines. -/
def newlines (chars : List Point) : List Point := newlinesFrom dialect false chars

variable (dialect) in
/-- What is left of a text after its first line. -/
def dropLine : List Point → List Point
  | [] => []
  | point :: rest => if point = dialect.lineFeed then rest else dropLine rest

variable (dialect) in
/-- Does a text end in a carriage return, or is it empty after one? -/
def endsLine (after : Bool) (chars : List Point) : Bool :=
  chars.foldl (fun _ point => decide (point = dialect.carriageReturn)) after

theorem newlinesFrom_append (after : Bool) (first second : List Point) :
    newlinesFrom dialect after (first ++ second) =
      newlinesFrom dialect after first ++
        newlinesFrom dialect (endsLine dialect after first) second := by
  induction first generalizing after with
  | nil => rfl
  | cons point rest inductionHypothesis =>
    have ends : endsLine dialect after (point :: rest) =
        endsLine dialect (decide (point = dialect.carriageReturn)) rest := rfl
    rw [List.cons_append, newlinesFrom, newlinesFrom, ends]
    split
    · next carriageReturn =>
      rw [inductionHypothesis, decide_eq_true carriageReturn, List.cons_append]
    · next other =>
      rw [decide_eq_false other]
      split
      · rw [inductionHypothesis]
      · rw [inductionHypothesis, List.cons_append]

theorem newlinesFrom_plain {chars : List Point}
    (absent : dialect.carriageReturn ∉ chars) : newlines dialect chars = chars := by
  unfold newlines
  induction chars with
  | nil => rfl
  | cons point rest inductionHypothesis =>
    obtain ⟨first, others⟩ := not_or.mp (mt List.mem_cons.mpr absent)
    rw [newlinesFrom, if_neg (Ne.symm first), if_neg (by simp), inductionHypothesis others]

theorem carriageReturn_notMem_newlinesFrom (after : Bool) (chars : List Point) :
    dialect.carriageReturn ∉ newlinesFrom dialect after chars := by
  obtain ⟨-, -, -, -, -, different⟩ := marks_distinct dialect
  induction chars generalizing after with
  | nil => exact List.not_mem_nil
  | cons point rest inductionHypothesis =>
    rw [newlinesFrom]
    split
    · exact List.not_mem_cons_of_ne_of_not_mem different (inductionHypothesis true)
    · next other =>
      split
      · exact inductionHypothesis false
      · exact List.not_mem_cons_of_ne_of_not_mem (Ne.symm other) (inductionHypothesis false)

theorem newlinesFrom_escape (after : Bool) (chars : List Point) :
    newlinesFrom dialect after (escape dialect chars) =
      escape dialect (newlinesFrom dialect after chars) := by
  obtain ⟨-, -, -, carriageReturn, lineFeed, -⟩ := marks_distinct dialect
  induction chars generalizing after with
  | nil => rfl
  | cons point rest inductionHypothesis =>
    by_cases quote : point = dialect.quote
    · subst quote
      simp [escape, newlinesFrom, carriageReturn, lineFeed, inductionHypothesis]
    · rw [escape, if_neg quote, newlinesFrom, newlinesFrom]
      split
      · rw [escape, if_neg lineFeed.symm, inductionHypothesis]
      · split
        · exact inductionHypothesis false
        · rw [escape, if_neg quote, inductionHypothesis]

/-- Translating a field does not change whether it needs quotes. -/
theorem any_special_newlines (field : List Point) :
    (newlines dialect field).any (special dialect) = field.any (special dialect) := by
  have marked : special dialect dialect.lineFeed = true := by simp [special]
  unfold newlines
  induction field with
  | nil => rfl
  | cons point rest inductionHypothesis =>
    rw [newlinesFrom]
    split
    · next carriageReturn =>
      rw [List.any_cons, List.any_cons, marked, carriageReturn]
      simp [special]
    · rw [if_neg (by simp), List.any_cons, List.any_cons, inductionHypothesis]

theorem endsLine_writeField (field : List Point) :
    endsLine dialect false (writeField dialect field) = false := by
  obtain ⟨-, -, -, carriageReturn, -⟩ := marks_distinct dialect
  unfold writeField
  split
  · simp [endsLine, carriageReturn]
  · next plain =>
    rcases List.eq_nil_or_concat field with rfl | ⟨before, last, rfl⟩
    · rfl
    · simp only [endsLine, List.concat_eq_append, List.foldl_append, List.foldl_cons,
        List.foldl_nil, decide_eq_false_iff_not]
      rintro rfl
      exact plain (by simp [special])

theorem newlines_writeField (field : List Point) :
    newlines dialect (writeField dialect field) = writeField dialect (newlines dialect field) := by
  obtain ⟨-, -, -, carriageReturn, lineFeed, -⟩ := marks_distinct dialect
  have quoted : (newlines dialect field).any (special dialect) = _ := any_special_newlines field
  unfold writeField
  rw [quoted]
  split
  · unfold newlines
    rw [List.cons_append, newlinesFrom, if_neg carriageReturn, if_neg (by simp),
      newlinesFrom_append, newlinesFrom_escape]
    simp [newlinesFrom, carriageReturn, lineFeed]
  · rfl

theorem endsLine_append (after : Bool) (first second : List Point) :
    endsLine dialect after (first ++ second) =
      endsLine dialect (endsLine dialect after first) second :=
  List.foldl_append

theorem newlines_joinFields (row : Row Point) :
    newlines dialect (joinFields dialect row) =
        joinFields dialect (row.map (newlines dialect)) ∧
      endsLine dialect false (joinFields dialect row) = false := by
  obtain ⟨-, carriageReturn, lineFeed, -⟩ := marks_distinct dialect
  induction row with
  | nil => exact ⟨rfl, rfl⟩
  | cons field rest inductionHypothesis =>
    cases rest with
    | nil => exact ⟨newlines_writeField field, endsLine_writeField field⟩
    | cons next rest =>
      have delimiter : endsLine dialect false (dialect.delimiter ::
          joinFields dialect (next :: rest)) = false := by
        rw [← inductionHypothesis.2]
        simp [endsLine, carriageReturn]
      constructor
      · have first : newlines dialect (writeField dialect field) = _ := newlines_writeField field
        have others := inductionHypothesis.1
        unfold newlines at first others ⊢
        rw [joinFields_cons_cons, newlinesFrom_append, endsLine_writeField, first, newlinesFrom,
          if_neg carriageReturn, if_neg (by simp), others]
        rfl
      · rw [joinFields_cons_cons, endsLine_append, endsLine_writeField, delimiter]

theorem newlines_eq_nil {field : List Point} : newlines dialect field = [] ↔ field = [] := by
  cases field with
  | nil => exact Iff.rfl
  | cons point rest =>
    unfold newlines
    rw [newlinesFrom]
    split
    · simp
    · simp

/-- Translating a written row translates its fields and the end of its line. -/
theorem newlines_writeRow (row : Row Point) (rest : List Point) :
    newlines dialect (writeRow dialect .crlf row ++ rest) =
      writeRow dialect .lf (row.map (newlines dialect)) ++ newlines dialect rest := by
  obtain ⟨-, -, -, carriageReturn, lineFeed, different⟩ := marks_distinct dialect
  have line : newlinesFrom dialect false (terminator dialect .crlf ++ rest) =
      terminator dialect .lf ++ newlines dialect rest := by
    simp [terminator, newlinesFrom, newlines, different.symm]
  have alone : row.map (newlines dialect) = [[]] ↔ row = [[]] := by
    rw [List.map_eq_singleton_iff]
    constructor
    · rintro ⟨field, rfl, empty⟩
      rw [newlines_eq_nil.mp empty]
    · rintro rfl
      exact ⟨[], rfl, rfl⟩
  unfold writeRow
  by_cases empty : row = [[]]
  · rw [if_pos empty, if_pos (alone.mpr empty), List.append_assoc, List.append_assoc, ← line]
    simp [newlines, newlinesFrom, carriageReturn, lineFeed]
  · rw [if_neg empty, if_neg (mt alone.mp empty), List.append_assoc, List.append_assoc, ← line]
    have fields : newlines dialect (joinFields dialect row) = _ ∧ _ := newlines_joinFields row
    unfold newlines at fields ⊢
    rw [newlinesFrom_append, fields.1, fields.2]

/-- Translating a written file translates its fields and the ends of its lines. -/
theorem newlines_write (rows : List (Row Point)) :
    newlines dialect (write dialect .crlf rows) =
      write dialect .lf (rows.map fun row => row.map (newlines dialect)) := by
  induction rows with
  | nil => rfl
  | cons row rest inductionHypothesis =>
    have split : write dialect .crlf (row :: rest) =
        writeRow dialect .crlf row ++ write dialect .crlf rest := List.flatMap_cons ..
    rw [split, newlines_writeRow, inductionHypothesis]
    rfl

theorem mem_joinFields {row : Row Point} {point : Point} (member : point ∈ joinFields dialect row) :
    point = dialect.delimiter ∨ point = dialect.quote ∨ ∃ field ∈ row, point ∈ field := by
  have escaped (field : List Point) (inside : point ∈ escape dialect field) : point ∈ field := by
    induction field with
    | nil => exact inside
    | cons first rest inductionHypothesis =>
      rw [escape] at inside
      split at inside <;> simp only [List.mem_cons] at inside ⊢ <;> tauto
  have written (field : List Point) (inside : point ∈ writeField dialect field) :
      point = dialect.quote ∨ point ∈ field := by
    unfold writeField at inside
    split at inside
    · simp only [List.mem_append, List.mem_cons, List.not_mem_nil, or_false] at inside
      rcases inside with (quote | inside) | quote
      · exact .inl quote
      · exact .inr (escaped field inside)
      · exact .inl quote
    · exact .inr inside
  induction row with
  | nil => exact absurd member List.not_mem_nil
  | cons field rest inductionHypothesis =>
    have head (inside : point ∈ writeField dialect field) : point = dialect.delimiter ∨
        point = dialect.quote ∨ ∃ other ∈ field :: rest, point ∈ other :=
      .inr ((written field inside).imp_right fun inside => ⟨field, List.mem_cons_self, inside⟩)
    cases rest with
    | nil => exact head member
    | cons next rest =>
      rcases List.mem_append.mp member with inside | after
      · exact head inside
      · rcases List.mem_cons.mp after with delimiter | others
        · exact .inl delimiter
        · rcases inductionHypothesis others with delimiter | quote | ⟨other, listed, inside⟩
          · exact .inl delimiter
          · exact .inr (.inl quote)
          · exact .inr (.inr ⟨other, List.mem_cons_of_mem _ listed, inside⟩)

theorem dropLine_append {line : List Point} (absent : dialect.lineFeed ∉ line)
    (rest : List Point) : dropLine dialect (line ++ dialect.lineFeed :: rest) = rest := by
  induction line with
  | nil => rw [List.nil_append, dropLine, if_pos rfl]
  | cons point line inductionHypothesis =>
    obtain ⟨first, others⟩ := not_or.mp (mt List.mem_cons.mpr absent)
    rw [List.cons_append, dropLine, if_neg (Ne.symm first), inductionHypothesis others]

/-- A row without line feeds is written in one line. -/
theorem dropLine_writeRow {row : Row Point} (flat : ∀ field ∈ row, dialect.lineFeed ∉ field)
    (rest : List Point) : dropLine dialect (writeRow dialect .lf row ++ rest) = rest := by
  obtain ⟨-, -, delimiter, -, quote, -⟩ := marks_distinct dialect
  unfold writeRow terminator
  rw [List.append_assoc, List.singleton_append]
  refine dropLine_append ?_ rest
  split
  · simp [quote.symm]
  · intro member
    rcases mem_joinFields member with same | same | ⟨field, listed, inside⟩
    · exact delimiter same.symm
    · exact quote same.symm
    · exact flat field listed inside

end Back

example : read excel "a,\"b\"\"\n\",\r\n\"\"\r\n\r\n".toList =
    some [["a".toList, "b\"\n".toList, []], [[]], []] := by decide

end Csv
