/-
This file reads an export back. A file of one window has the values of all its
records exactly when the first record has every column that a later one has. The
files of several windows can be put together when the first window has records,
and the columns of every other window are an initial segment of its columns: rows
are written without names, and the header is that of the first file.
-/

import Gyanam.ExportWindows
import Gyanam.IsoText
import Gyanam.Lib.Fallible

namespace Gyanam

open Csv (excel Row)

/-! ### What a file says -/

/-- A field shows a value of a record, or that the record has none. A datetime is shown by its text
with either separator. -/
def Shows (field : CsvText) : Option FluxValue → Prop
  | none => field = []
  | some .none => field = []
  | some (.moment time) => field = momentText 'T' time ∨ field = momentText ' ' time
  | some (.shown text) => field = text

/-- A row, read through a header, is a record: each of its fields shows the value of its column, and
it has a field for every column of the record. -/
structure ReadsAs (header row : Row Char) (record : FluxRecord) : Prop where
  fits : row.length ≤ header.length
  shows : ∀ pair ∈ header.zip row, Shows pair.2 (record.get pair.1)
  whole : ∀ column ∈ record.keys, column ∉ fluxInternalCols →
    ∃ field, (column, field) ∈ header.zip row

/-- A file has one header row, and then a row for each of some records. -/
def HoldsRecords (text : CsvText) (records : List FluxRecord) : Prop :=
  ∃ header rows, Csv.read excel text = some (header :: rows) ∧
    List.Forall₂ (ReadsAs header) rows records

/-- An export ends with a file that has some records, or without one when there are none. -/
def HoldsData (outcome : ExportEnd) (records : List FluxRecord) : Prop :=
  match outcome with
  | .failed => False
  | .empty => records = []
  | .file text => HoldsRecords text records

/-- The export of a range equals its data: the planned windows split the range, and what is exported
are their records. -/
def Exported (start stop : Datetime.Reading) (chunkHours : Int)
    (query : Int × Int → List FluxRecord) : Prop :=
  ∃ windows, planWindows start stop chunkHours = some windows ∧
    Splits start.micros stop.micros windows ∧
      HoldsData (exportMetricsToCsv start stop chunkHours query) (windows.flatMap query)

/-! ### The shape of the records -/

/-- The header of a window. -/
def headerOf (batch : List FluxRecord) : Row Char := exportColumns (batch.headD Table.empty)

/-- The text of a value that is neither none nor a datetime. -/
def shownText (record : FluxRecord) (column : CsvText) : Option CsvText :=
  match record.get column with
  | some (.shown text) => some text
  | _ => none

/-- Every record of a window has only columns that the first one has, and in the columns where the
first one has a datetime it has a datetime or nothing. -/
def AlikeRecords (batch : List FluxRecord) : Prop :=
  ∀ record ∈ batch,
    (∀ column ∈ record.keys, column ∉ fluxInternalCols → column ∈ headerOf batch) ∧
      ∀ column ∈ headerOf batch, isMoment (batch.headD Table.empty) column = true →
        shownText record column = none

/-- The files of some windows can be put together: the first has records if any has, its header
begins with the header of every other, the headers that are dropped take one line each, and nothing
that is kept has a carriage return. -/
structure Mergeable (first : List FluxRecord) (rest : List (List FluxRecord)) : Prop where
  started : first = [] → ∀ batch ∈ rest, batch = []
  headed : ∀ batch ∈ rest, headerOf batch <+: headerOf first
  flat : ∀ batch ∈ rest, ∀ column ∈ headerOf batch, '\n' ∉ column
  plainHeader : ∀ column ∈ headerOf first, '\r' ∉ column
  plainValues : ∀ batch ∈ first :: rest, ∀ record ∈ batch, ∀ column ∈ headerOf batch,
    ∀ text ∈ shownText record column, '\r' ∉ text

/-- The records of the windows of an export fit into one file. -/
def WellShaped : List (List FluxRecord) → Prop
  | [] => True
  | [batch] => AlikeRecords batch
  | first :: second :: rest =>
    (∀ batch ∈ first :: second :: rest, AlikeRecords batch) ∧ Mergeable first (second :: rest)

/-! ### Columns and fields -/

theorem mem_exportColumns {record : FluxRecord} {column : CsvText} :
    column ∈ exportColumns record ↔ column ∈ record.keys ∧ column ∉ fluxInternalCols := by
  rw [exportColumns, List.mem_filter, SortedList.mem_distinct]
  refine and_congr_right fun _ => ?_
  rw [Bool.not_eq_true', List.any_eq_false]
  simp only [decide_eq_true_eq]
  exact ⟨fun apart member => apart column member rfl, fun absent _ member same =>
    absent (same ▸ member)⟩

theorem exportColumns_sorted (record : FluxRecord) : (exportColumns record).SortedLT := by
  have sorted := (SortedList.distinct_sorted record.keys).pairwise
  exact (sorted.sublist List.filter_sublist).sortedLT

theorem shownText_eq_some {record : FluxRecord} {column text : CsvText} :
    shownText record column = some text ↔ record.get column = some (.shown text) := by
  unfold shownText
  cases record.get column with
  | none => simp
  | some value => cases value <;> simp

theorem exportField_eq_none {datetimeCol : Bool} {record : FluxRecord} {column : CsvText} :
    exportField datetimeCol (record.get column) = none ↔
      datetimeCol = true ∧ shownText record column ≠ none := by
  unfold shownText
  cases record.get column with
  | none => simp [exportField]
  | some value => cases value <;> simp [exportField]

/-- A field that is written shows its value. -/
theorem shows_exportField {datetimeCol : Bool} {value : Option FluxValue} {field : CsvText}
    (written : exportField datetimeCol value = some field) : Shows field value := by
  cases value with
  | none => exact (Option.some.inj written).symm
  | some value =>
    cases value with
    | none => exact (Option.some.inj written).symm
    | moment time =>
      obtain rfl := Option.some.inj written
      cases datetimeCol with
      | true => exact .inl rfl
      | false => exact .inr rfl
    | shown text =>
      cases datetimeCol with
      | true => exact absurd written (by simp [exportField])
      | false => exact (Option.some.inj written).symm

theorem carriageReturn_notMem_momentText {separator : Char} (other : separator ≠ '\r')
    (time : Datetime.Reading) : '\r' ∉ momentText separator time := by
  have plain : '\r' ∉ (isoformat time.micros).toList := by
    have noDigit : ∀ width number, '\r' ∉ (padded width number).toList :=
      fun width number => notMem_padded rfl
    rw [isoformat_eq, IsoFields.text]
    split <;> simp [noDigit]
  unfold momentText
  rw [List.mem_append, not_or]
  refine ⟨fun member => ?_, by decide⟩
  obtain ⟨char, inside, same⟩ := List.mem_map.mp member
  split at same
  · exact other same
  · exact plain (same ▸ inside)

/-- A field has no carriage return unless the value it shows has one. -/
theorem plain_of_shows {field : CsvText} {value : Option FluxValue} (shows : Shows field value)
    (plain : ∀ text, value = some (.shown text) → '\r' ∉ text) : '\r' ∉ field := by
  have blank (empty : field = []) : '\r' ∉ field := by
    rw [empty]
    exact List.not_mem_nil
  cases value with
  | none => exact blank shows
  | some value =>
    cases value with
    | none => exact blank shows
    | moment time =>
      have either : field = momentText 'T' time ∨ field = momentText ' ' time := shows
      rcases either with same | same
      · rw [same]
        exact carriageReturn_notMem_momentText (by decide) time
      · rw [same]
        exact carriageReturn_notMem_momentText (by decide) time
    | shown text =>
      have same : field = text := shows
      rw [same]
      exact plain text rfl

/-! ### Rows -/

/-- The field of a column, if it is written. -/
def fieldOf (first record : FluxRecord) (column : CsvText) : CsvText :=
  (exportField (isMoment first column) (record.get column)).getD []

/-- The row of a record in the file of a window. -/
def rowOf (batch : List FluxRecord) (record : FluxRecord) : Row Char :=
  (headerOf batch).map (fieldOf (batch.headD Table.empty) record)

/-- No datetime column has anything but a datetime or nothing. -/
def Printable (batch : List FluxRecord) : Prop :=
  ∀ record ∈ batch, ∀ column ∈ headerOf batch,
    isMoment (batch.headD Table.empty) column = true → shownText record column = none

theorem AlikeRecords.printable {batch : List FluxRecord} (alike : AlikeRecords batch) :
    Printable batch := fun record member => (alike record member).2

theorem exportField_of_printable {batch : List FluxRecord} (printable : Printable batch)
    {record : FluxRecord} (member : record ∈ batch) {column : CsvText}
    (written : column ∈ headerOf batch) :
    exportField (isMoment (batch.headD Table.empty) column) (record.get column) =
      some (fieldOf (batch.headD Table.empty) record column) := by
  unfold fieldOf
  cases field : exportField (isMoment (batch.headD Table.empty) column) (record.get column) with
  | none =>
    obtain ⟨datetimeCol, shown⟩ := exportField_eq_none.mp field
    exact absurd (printable record member column written datetimeCol) shown
  | some field => rfl

/-- The rows of the file of a window, the header included. -/
def fileRows : List FluxRecord → List (Row Char)
  | [] => []
  | batch@(_ :: _) => headerOf batch :: batch.map (rowOf batch)

/-- Streaming succeeds when every value can be printed, and the file has a row for each record. -/
theorem streamWindowOnce_of_printable {batch : List FluxRecord} (printable : Printable batch) :
    streamWindowOnce batch = some (Csv.write excel .crlf (fileRows batch)) := by
  cases batch with
  | nil => rfl
  | cons first rest =>
    have rows := Fallible.mapM_eq_some_map fun record (member : record ∈ first :: rest) =>
      Fallible.mapM_eq_some_map fun column (written : column ∈ exportColumns first) =>
        exportField_of_printable printable member written
    show ((first :: rest).mapM fun record => (exportColumns first).mapM fun column =>
      exportField (isMoment first column) (record.get column)).map _ = _
    exact congrArg (Option.map _) rows

theorem printable_of_streamWindowOnce {batch : List FluxRecord}
    (streamed : streamWindowOnce batch ≠ none) : Printable batch := by
  cases batch with
  | nil => exact fun record member => absurd member List.not_mem_nil
  | cons first rest =>
    intro record member column written datetimeCol
    by_contra shown
    refine streamed (Option.map_eq_none_iff.mpr (Fallible.mapM_eq_none_iff.mpr
      ⟨record, member, Fallible.mapM_eq_none_iff.mpr ⟨column, written, ?_⟩⟩))
    exact exportField_eq_none.mpr ⟨datetimeCol, shown⟩

/-! ### One row -/

theorem zip_of_isPrefix {columns header : Row Char} (headed : columns <+: header)
    (field : CsvText → CsvText) :
    header.zip (columns.map field) = columns.map fun column => (column, field column) := by
  obtain ⟨tail, rfl⟩ := headed
  induction columns with
  | nil => simp
  | cons column rest inductionHypothesis =>
    simp only [List.cons_append, List.map_cons, List.zip_cons_cons, inductionHypothesis]

/-- A written row is read as its record through any header that begins with that of its window. -/
theorem readsAs_of_alike {batch : List FluxRecord} {header : Row Char} {record : FluxRecord}
    (alike : AlikeRecords batch) (member : record ∈ batch) (headed : headerOf batch <+: header) :
    ReadsAs header (rowOf batch record) record := by
  have pairs := zip_of_isPrefix headed (fieldOf (batch.headD Table.empty) record)
  refine ⟨?_, fun pair listed => ?_, fun column owned external => ?_⟩
  · rw [rowOf, List.length_map]
    exact headed.length_le
  · rw [rowOf, pairs] at listed
    obtain ⟨column, written, rfl⟩ := List.mem_map.mp listed
    exact shows_exportField (exportField_of_printable alike.printable member written)
  · rw [rowOf, pairs]
    exact ⟨_, List.mem_map.mpr ⟨column, (alike record member).1 column owned external, rfl⟩⟩

/-- A row has fields for the first columns of a header, one for each. -/
theorem mem_take_of_mem_zip {header row : Row Char} {column field : CsvText}
    (listed : (column, field) ∈ header.zip row) : column ∈ header.take row.length := by
  induction header generalizing row with
  | nil => exact absurd listed (by simp)
  | cons name rest inductionHypothesis =>
    cases row with
    | nil => exact absurd listed (by simp)
    | cons first others =>
      rw [List.length_cons, List.take_succ_cons]
      rcases List.mem_cons.mp listed with same | later
      · exact List.mem_cons.mpr (.inl (congrArg Prod.fst same))
      · exact List.mem_cons_of_mem _ (inductionHypothesis later)

/-- If the first record of a window is read through a header, the header begins with its columns. -/
theorem headed_of_readsAs {first : FluxRecord} {header row : Row Char}
    (sorted : header.SortedLT) (long : row.length = (exportColumns first).length)
    (reads : ReadsAs header row first) : exportColumns first <+: header := by
  have included : exportColumns first ⊆ header.take row.length := by
    intro column written
    obtain ⟨owned, external⟩ := mem_exportColumns.mp written
    obtain ⟨field, listed⟩ := reads.whole column owned external
    exact mem_take_of_mem_zip listed
  have columns := exportColumns_sorted first
  have taken : (header.take row.length).SortedLT :=
    (sorted.pairwise.sublist (List.take_sublist _ _)).sortedLT
  have short : (header.take row.length).length ≤ (exportColumns first).length := by
    rw [List.length_take, long]
    exact Nat.min_le_left _ _
  have perm := (List.subperm_of_subset columns.nodup included).perm_of_length_le short
  rw [columns.eq_of_mem_iff taken fun column => perm.mem_iff]
  exact List.take_prefix _ _

/-- A record whose row is read through a header that begins with the columns of its window has no
other columns. -/
theorem columns_of_readsAs {columns header : Row Char} {field : CsvText → CsvText}
    {record : FluxRecord} (headed : columns <+: header)
    (reads : ReadsAs header (columns.map field) record) {column : CsvText}
    (owned : column ∈ record.keys) (external : column ∉ fluxInternalCols) : column ∈ columns := by
  obtain ⟨text, listed⟩ := reads.whole column owned external
  rw [zip_of_isPrefix headed] at listed
  obtain ⟨other, written, same⟩ := List.mem_map.mp listed
  have named : other = column := congrArg Prod.fst same
  exact named ▸ written

/-- A record whose row has no carriage return has none in its values. -/
theorem plain_of_readsAs {header row : Row Char} {record : FluxRecord}
    (reads : ReadsAs header row record) (plain : ∀ field ∈ row, '\r' ∉ field)
    {column text : CsvText} (external : column ∉ fluxInternalCols)
    (shown : shownText record column = some text) : '\r' ∉ text := by
  have found := shownText_eq_some.mp shown
  obtain ⟨field, listed⟩ := reads.whole column (Table.mem_keys_iff.mpr ⟨_, found⟩) external
  have shows := reads.shows _ listed
  rw [found] at shows
  have same : field = text := shows
  exact same ▸ plain field (List.of_mem_zip listed).2

/-! ### Files -/

theorem holdsRecords_iff {text : CsvText} {header : Row Char} {rows : List (Row Char)}
    {records : List FluxRecord} (read : Csv.read excel text = some (header :: rows)) :
    HoldsRecords text records ↔ List.Forall₂ (ReadsAs header) rows records := by
  constructor
  · rintro ⟨header', rows', read', reads⟩
    obtain ⟨rfl, rfl⟩ := List.cons.inj (Option.some.inj (read.symm.trans read'))
    exact reads
  · exact fun reads => ⟨header, rows, read, reads⟩

/-- The rows of one window among others. -/
theorem forall₂_map_append {Item Other : Type} {related : Other → Item → Prop}
    (render : Item → Other) (batch items : List Item) (others : List Other) :
    List.Forall₂ related (batch.map render ++ others) (batch ++ items) ↔
      (∀ item ∈ batch, related (render item) item) ∧ List.Forall₂ related others items := by
  induction batch with
  | nil => simp
  | cons item rest inductionHypothesis =>
    rw [List.map_cons, List.cons_append, List.cons_append, List.forall₂_cons, inductionHypothesis,
      List.forall_mem_cons, and_assoc]

/-- The rows of all windows. -/
theorem forall₂_flatMap_iff {Item Other : Type} {related : Other → Item → Prop}
    (render : List Item → Item → Other) (batches : List (List Item)) :
    List.Forall₂ related (batches.flatMap fun batch => batch.map (render batch)) batches.flatten ↔
      ∀ batch ∈ batches, ∀ item ∈ batch, related (render batch item) item := by
  induction batches with
  | nil => simp
  | cons batch rest inductionHypothesis =>
    rw [List.flatMap_cons, List.flatten_cons, forall₂_map_append, inductionHypothesis,
      List.forall_mem_cons]

/-- The file of one window has its records exactly when they are alike. -/
theorem holdsRecords_single {batch : List FluxRecord} (printable : Printable batch)
    (filled : batch ≠ []) :
    HoldsRecords (Csv.write excel .crlf (fileRows batch)) batch ↔ AlikeRecords batch := by
  obtain ⟨first, rest, rfl⟩ := List.exists_cons_of_ne_nil filled
  have read : Csv.read excel (Csv.write excel .crlf (fileRows (first :: rest))) =
      some (headerOf (first :: rest) :: (first :: rest).map (rowOf (first :: rest))) :=
    Csv.read_write _ _
  rw [holdsRecords_iff read, List.forall₂_map_left_iff, List.forall₂_same]
  constructor
  · intro reads record member
    refine ⟨fun column owned external => ?_, printable record member⟩
    exact columns_of_readsAs (List.prefix_refl _) (reads record member) owned external
  · exact fun alike record member => readsAs_of_alike alike member (List.prefix_refl _)

/-- A row after its line ends are translated. -/
def translated (row : Row Char) : Row Char := row.map (Csv.newlines excel)

/-- The rows of the file that several windows are put together in. -/
def mergedRows (first : List FluxRecord) (rest : List (List FluxRecord)) : List (Row Char) :=
  (fileRows first ++ rest.flatMap fun batch => batch.map (rowOf batch)).map translated

theorem newlines_eq_self {text : CsvText} (plain : '\r' ∉ text) : Csv.newlines excel text = text :=
  Csv.newlinesFrom_plain plain

theorem translated_eq_self {row : Row Char} (plain : ∀ field ∈ row, '\r' ∉ field) :
    translated row = row :=
  (List.map_congr_left fun field member => newlines_eq_self (plain field member)).trans
    (List.map_id' row)

/-- Chunk files are put together row by row, when the headers that are dropped take one line. -/
theorem concatChunkFiles_eq {first : List FluxRecord} {rest : List (List FluxRecord)}
    (flat : ∀ batch ∈ rest, ∀ column ∈ headerOf batch, '\n' ∉ column ∧ '\r' ∉ column) :
    concatChunkFiles ((first :: rest).map fun batch => Csv.write excel .crlf (fileRows batch)) =
      Csv.write excel .lf (mergedRows first rest) := by
  have dropped : ∀ batch ∈ rest,
      Csv.dropLine excel (Csv.newlines excel (Csv.write excel .crlf (fileRows batch))) =
        Csv.write excel .lf ((batch.map (rowOf batch)).map translated) := by
    intro batch member
    rw [Csv.newlines_write]
    cases batch with
    | nil => rfl
    | cons record records =>
      refine Csv.dropLine_writeRow (fun field listed => ?_) _
      obtain ⟨column, written, rfl⟩ := List.mem_map.mp listed
      obtain ⟨noFeed, noReturn⟩ := flat _ member column written
      rw [newlines_eq_self noReturn]
      exact noFeed
  show Csv.newlines excel _ ++ (rest.map _).flatMap _ = _
  rw [List.flatMap_map, List.flatMap_congr dropped, Csv.newlines_write, mergedRows,
    List.map_append, List.map_flatMap]
  unfold Csv.write
  rw [List.flatMap_append, List.flatMap_assoc]
  rfl

end Gyanam
