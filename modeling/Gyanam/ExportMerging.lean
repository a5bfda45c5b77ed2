/-
This file says when the export of a range equals its data. The windows always
split the range, if none of them leaves the calendar. The file has the records of
the windows when their shapes agree; and when the names of the columns have no
line breaks in them, as no name in the database has, only then.
-/

import Gyanam.ExportReadBack

namespace Gyanam

open Csv (excel Row)

/-! ### The file of several windows -/

/-- No name of a column has a line break in it. -/
def PlainNames (batches : List (List FluxRecord)) : Prop :=
  ∀ batch ∈ batches, ∀ record ∈ batch, ∀ column ∈ record.keys, '\n' ∉ column ∧ '\r' ∉ column

section Merged

variable {first : List FluxRecord} {rest : List (List FluxRecord)}

theorem plain_headerOf {batch : List FluxRecord}
    (named : ∀ record ∈ batch, ∀ column ∈ record.keys, '\n' ∉ column ∧ '\r' ∉ column) :
    ∀ column ∈ headerOf batch, '\n' ∉ column ∧ '\r' ∉ column := by
  intro column written
  cases batch with
  | nil => exact absurd (mem_exportColumns.mp written).1 List.not_mem_nil
  | cons record _ =>
    exact named record List.mem_cons_self column (mem_exportColumns.mp written).1

/-- The records of several windows are in the file exactly when each row is read as its record
through the header of the first. -/
theorem holdsRecords_merged (filled : first ≠ [])
    (plainHeader : ∀ column ∈ headerOf first, '\r' ∉ column) :
    HoldsRecords (Csv.write excel .lf (mergedRows first rest)) (first :: rest).flatten ↔
      ∀ batch ∈ first :: rest, ∀ record ∈ batch,
        ReadsAs (headerOf first) (translated (rowOf batch record)) record := by
  have rows : mergedRows first rest = headerOf first ::
      (first :: rest).flatMap fun batch => batch.map fun record =>
        translated (rowOf batch record) := by
    obtain ⟨record, records, rfl⟩ := List.exists_cons_of_ne_nil filled
    have header := translated_eq_self plainHeader
    simp only [mergedRows, fileRows, List.cons_append, List.map_cons, header, List.flatMap_cons,
      List.map_append, List.map_flatMap, List.map_map, Function.comp_def]
  have read : Csv.read excel (Csv.write excel .lf (mergedRows first rest)) = some (_ :: _) :=
    (Csv.read_write _ _).trans (congrArg some rows)
  rw [holdsRecords_iff read,
    forall₂_flatMap_iff fun batch record => translated (rowOf batch record)]

/-- A window whose records are alike and have no carriage returns has none in its rows. -/
theorem plain_rowOf {batch : List FluxRecord} {record : FluxRecord} (printable : Printable batch)
    (member : record ∈ batch)
    (plain : ∀ column ∈ headerOf batch, ∀ text ∈ shownText record column, '\r' ∉ text) :
    ∀ field ∈ rowOf batch record, '\r' ∉ field := by
  intro field listed
  obtain ⟨column, written, rfl⟩ := List.mem_map.mp listed
  refine plain_of_shows (shows_exportField (exportField_of_printable printable member written))
    fun text shown => plain column written text (shownText_eq_some.mpr shown)

theorem readsAs_of_mergeable (alike : ∀ batch ∈ first :: rest, AlikeRecords batch)
    (mergeable : Mergeable first rest) :
    ∀ batch ∈ first :: rest, ∀ record ∈ batch,
      ReadsAs (headerOf first) (translated (rowOf batch record)) record := by
  intro batch listed record member
  have headed : headerOf batch <+: headerOf first := by
    rcases List.mem_cons.mp listed with rfl | later
    · exact List.prefix_refl _
    · exact mergeable.headed batch later
  rw [translated_eq_self (plain_rowOf (alike batch listed).printable member
    (mergeable.plainValues batch listed record member))]
  exact readsAs_of_alike (alike batch listed) member headed

theorem mergeable_of_readsAs (printable : ∀ batch ∈ first :: rest, Printable batch)
    (named : PlainNames (first :: rest)) (filled : first ≠ [])
    (reads : ∀ batch ∈ first :: rest, ∀ record ∈ batch,
      ReadsAs (headerOf first) (translated (rowOf batch record)) record) :
    (∀ batch ∈ first :: rest, AlikeRecords batch) ∧ Mergeable first rest := by
  have long (batch : List FluxRecord) (record : FluxRecord) :
      (translated (rowOf batch record)).length = (headerOf batch).length := by
    rw [translated, List.length_map, rowOf, List.length_map]
  have headed : ∀ batch ∈ first :: rest, headerOf batch <+: headerOf first := by
    intro batch listed
    cases batch with
    | nil => exact List.nil_prefix
    | cons record records =>
      exact headed_of_readsAs (exportColumns_sorted _) (long _ record)
        (reads _ listed record List.mem_cons_self)
  have columns : ∀ batch ∈ first :: rest, ∀ record ∈ batch, ∀ column ∈ record.keys,
      column ∉ fluxInternalCols → column ∈ headerOf batch := by
    intro batch listed record member column owned external
    have read := reads batch listed record member
    rw [translated, rowOf, List.map_map] at read
    exact columns_of_readsAs (headed batch listed) read owned external
  refine ⟨fun batch listed record member => ⟨columns batch listed record member,
    printable batch listed record member⟩, fun empty => absurd empty filled,
    fun batch listed => headed batch (List.mem_cons_of_mem _ listed),
    fun batch listed column written => ?_, fun column written => ?_,
    fun batch listed record member column written text shown => ?_⟩
  · exact (plain_headerOf (named batch (List.mem_cons_of_mem _ listed)) column written).1
  · exact (plain_headerOf (named first List.mem_cons_self) column written).2
  · refine plain_of_readsAs (reads batch listed record member) (fun field translatedField => ?_)
      (mem_exportColumns.mp written).2 shown
    obtain ⟨field', -, rfl⟩ := List.mem_map.mp translatedField
    exact Csv.carriageReturn_notMem_newlinesFrom false field'

/-- Without a header the first row is taken for one, and a record is missing. -/
theorem not_holdsRecords_of_headless :
    ¬ HoldsRecords (Csv.write excel .lf (mergedRows [] rest)) ([] :: rest).flatten := by
  rintro ⟨header, rows, read, reads⟩
  rw [Csv.read_write] at read
  have counted := congrArg List.length (Option.some.inj read)
  have all : (mergedRows [] rest).length = rest.flatten.length := by
    simp [mergedRows, fileRows, List.length_flatMap, List.length_flatten]
  have same : rows.length = rest.flatten.length := reads.length_eq
  rw [all, List.length_cons, same] at counted
  exact absurd counted (Nat.ne_of_lt (Nat.lt_succ_self _))

end Merged

/-! ### The end of an export -/

theorem exportWindows_of_printable {batches : List (List FluxRecord)}
    (printable : ∀ batch ∈ batches, Printable batch) :
    exportWindows batches =
      if batches.flatten = [] then .empty
      else
        match batches.map fun batch => Csv.write excel .crlf (fileRows batch) with
        | [file] => .file file
        | files => .file (concatChunkFiles files) := by
  unfold exportWindows
  rw [Fallible.mapM_eq_some_map fun batch member =>
    streamWindowOnce_of_printable (printable batch member)]
  have counted : (batches.map List.length).sum = 0 ↔ batches.flatten = [] := by
    rw [← List.length_flatten, List.length_eq_zero_iff]
  exact if_congr counted rfl rfl

theorem printable_of_holdsData {batches : List (List FluxRecord)} {records : List FluxRecord}
    (holds : HoldsData (exportWindows batches) records) :
    ∀ batch ∈ batches, Printable batch := by
  intro batch member
  refine printable_of_streamWindowOnce fun raised => ?_
  have failed : exportWindows batches = .failed := by
    unfold exportWindows
    rw [Fallible.mapM_eq_none_iff.mpr ⟨batch, member, raised⟩]
  rw [failed] at holds
  exact holds

theorem holdsData_of_wellShaped {batches : List (List FluxRecord)} (shaped : WellShaped batches) :
    HoldsData (exportWindows batches) batches.flatten := by
  match batches, shaped with
  | [], _ => exact rfl
  | [batch], alike =>
    have printable : ∀ other ∈ [batch], Printable other := by
      rintro _ (_ | ⟨_, ⟨⟩⟩)
      exact AlikeRecords.printable alike
    rw [exportWindows_of_printable printable]
    split
    · next empty => exact empty
    · next filled =>
      rw [List.flatten_singleton] at filled ⊢
      exact (holdsRecords_single (AlikeRecords.printable alike) filled).mpr alike
  | first :: second :: rest, ⟨alike, mergeable⟩ =>
    rw [exportWindows_of_printable fun batch member => (alike batch member).printable]
    split
    · next empty => exact empty
    · next filled =>
      have started : first ≠ [] := by
        intro empty
        refine filled (List.flatten_eq_nil_iff.mpr fun batch member => ?_)
        rcases List.mem_cons.mp member with rfl | later
        · exact empty
        · exact mergeable.started empty batch later
      have flat : ∀ batch ∈ second :: rest, ∀ column ∈ headerOf batch,
          '\n' ∉ column ∧ '\r' ∉ column := by
        intro batch member column written
        refine ⟨mergeable.flat batch member column written, mergeable.plainHeader column ?_⟩
        exact (mergeable.headed batch member).subset written
      show HoldsRecords (concatChunkFiles ((first :: second :: rest).map fun batch =>
        Csv.write excel .crlf (fileRows batch))) (first :: second :: rest).flatten
      rw [concatChunkFiles_eq flat, holdsRecords_merged started mergeable.plainHeader]
      exact readsAs_of_mergeable alike mergeable

theorem wellShaped_of_holdsData {batches : List (List FluxRecord)} (named : PlainNames batches)
    (holds : HoldsData (exportWindows batches) batches.flatten) : WellShaped batches := by
  have printable := printable_of_holdsData holds
  rw [exportWindows_of_printable printable] at holds
  match batches with
  | [] => trivial
  | [batch] =>
    by_cases empty : batch = []
    · subst empty
      exact fun record member => absurd member List.not_mem_nil
    · rw [List.flatten_singleton, if_neg empty] at holds
      exact (holdsRecords_single (printable batch List.mem_cons_self) empty).mp holds
  | first :: second :: rest =>
    have flat : ∀ batch ∈ second :: rest, ∀ column ∈ headerOf batch,
        '\n' ∉ column ∧ '\r' ∉ column :=
      fun batch member => plain_headerOf (named batch (List.mem_cons_of_mem _ member))
    by_cases nothing : (first :: second :: rest).flatten = []
    · have empty := List.flatten_eq_nil_iff.mp nothing
      have blank : ∀ batch ∈ first :: second :: rest, headerOf batch = [] := by
        intro batch member
        rw [empty batch member]
        rfl
      refine ⟨fun batch member record inside => ?_, fun _ batch member =>
        empty batch (List.mem_cons_of_mem _ member), fun batch member => ?_,
        fun batch member column written => ?_, fun column written => ?_,
        fun batch member record inside => ?_⟩
      · exact absurd inside (empty batch member ▸ List.not_mem_nil)
      · rw [blank batch (List.mem_cons_of_mem _ member)]
        exact List.nil_prefix
      · exact absurd written (blank batch (List.mem_cons_of_mem _ member) ▸ List.not_mem_nil)
      · exact absurd written (blank first List.mem_cons_self ▸ List.not_mem_nil)
      · exact absurd inside (empty batch member ▸ List.not_mem_nil)
    · rw [if_neg nothing] at holds
      have file : HoldsRecords (concatChunkFiles ((first :: second :: rest).map fun batch =>
        Csv.write excel .crlf (fileRows batch))) (first :: second :: rest).flatten := holds
      rw [concatChunkFiles_eq flat] at file
      by_cases started : first = []
      · subst started
        exact absurd file not_holdsRecords_of_headless
      · rw [holdsRecords_merged started fun column written =>
          (plain_headerOf (named first List.mem_cons_self) column written).2] at file
        exact mergeable_of_readsAs printable named started file

/-! ### The export of a range -/

/-- The last chunk of a range ends in the calendar, and the records of the chunks fit into one
file. -/
def ExportFits (start stop : Datetime.Reading) (chunkHours : Int)
    (query : Int × Int → List FluxRecord) : Prop :=
  EndsInCalendar (chunkHours * hourMicros) start.micros stop.micros ∧
    WellShaped ((chunkWindows (chunkHours * hourMicros) start.micros stop.micros).map query)

theorem exported_iff {start stop : Datetime.Reading} {chunkHours : Int}
    {query : Int × Int → List FluxRecord} (before : start.micros < stop.micros)
    (chunked : 0 < chunkHours) :
    Exported start stop chunkHours query ↔
      EndsInCalendar (chunkHours * hourMicros) start.micros stop.micros ∧
        HoldsData (exportWindows ((chunkWindows (chunkHours * hourMicros) start.micros
          stop.micros).map query)) ((chunkWindows (chunkHours * hourMicros) start.micros
            stop.micros).map query).flatten := by
  unfold Exported exportMetricsToCsv
  rw [planWindows_eq before chunked]
  constructor
  · rintro ⟨windows, planned, -, holds⟩
    obtain ⟨fits, same⟩ := Option.ite_none_right_eq_some.mp planned
    obtain rfl := Option.some.inj same
    rw [if_pos fits] at holds
    exact ⟨fits, holds⟩
  · rintro ⟨fits, holds⟩
    refine ⟨_, if_pos fits, splits_chunkWindows (chunk_positive chunked), ?_⟩
    rw [if_pos fits]
    exact holds

/-- The export of several windows. The windows split the range and the file has their records when
no chunk leaves the calendar and the records of the windows fit into one file; and when no name of a
column has a line break in it, only then. -/
theorem multi_window_export (start stop : Datetime.Reading) {chunkHours : Int}
    (query : Int × Int → List FluxRecord) (before : start.micros < stop.micros)
    (chunked : 0 < chunkHours) :
    (ExportFits start stop chunkHours query → Exported start stop chunkHours query) ∧
      ((∀ window, PlainNames [query window]) → Exported start stop chunkHours query →
        ExportFits start stop chunkHours query) := by
  rw [exported_iff before chunked]
  refine ⟨fun fits => ⟨fits.1, holdsData_of_wellShaped fits.2⟩, fun named exported =>
    ⟨exported.1, wellShaped_of_holdsData (fun batch member => ?_) exported.2⟩⟩
  obtain ⟨window, -, rfl⟩ := List.mem_map.mp member
  exact named window _ List.mem_cons_self

instance (batch : List FluxRecord) : Decidable (AlikeRecords batch) :=
  inferInstanceAs (Decidable (∀ record ∈ batch, _ ∧ _))

instance (first : List FluxRecord) (rest : List (List FluxRecord)) :
    Decidable (Mergeable first rest) :=
  decidable_of_iff ((first = [] → ∀ batch ∈ rest, batch = []) ∧
    (∀ batch ∈ rest, headerOf batch <+: headerOf first) ∧
    (∀ batch ∈ rest, ∀ column ∈ headerOf batch, '\n' ∉ column) ∧
    (∀ column ∈ headerOf first, '\r' ∉ column) ∧
    ∀ batch ∈ first :: rest, ∀ record ∈ batch, ∀ column ∈ headerOf batch,
      ∀ text ∈ shownText record column, '\r' ∉ text)
    ⟨fun ⟨started, headed, flat, plainHeader, plainValues⟩ =>
      ⟨started, headed, flat, plainHeader, plainValues⟩,
    fun mergeable => ⟨mergeable.started, mergeable.headed, mergeable.flat, mergeable.plainHeader,
      mergeable.plainValues⟩⟩

instance (batches : List (List FluxRecord)) : Decidable (WellShaped batches) :=
  match batches with
  | [] => isTrue trivial
  | [batch] => inferInstanceAs (Decidable (AlikeRecords batch))
  | first :: second :: rest =>
    inferInstanceAs (Decidable ((∀ batch ∈ first :: second :: rest, AlikeRecords batch) ∧
      Mergeable first (second :: rest)))

/-- Three hours. -/
def threeHours : Datetime.Reading := ⟨10800000000, by decide⟩

/-- A record of one metric in a window that starts at some time. -/
def metricRecord (start time : Datetime.Reading) (value : String) : FluxRecord :=
  ((Table.empty.set "value".toList (.shown value.toList)).set "_time".toList (.moment time)).set
    "_start".toList (.moment start)

/-- A metric with records in the first and the third hour. -/
def twoHourMetric (window : Int × Int) : List FluxRecord :=
  if window.1 = 0 then
    [metricRecord Datetime.Reading.epoch ⟨1800000000, by decide⟩ "1.5"]
  else if window.1 = 7200000000 then
    [metricRecord ⟨7200000000, by decide⟩ ⟨9000000000, by decide⟩ "say \"2\"\n"]
  else []

theorem twoHourMetric_exported :
    Exported Datetime.Reading.epoch threeHours 1 twoHourMetric := by
  have fits : ExportFits Datetime.Reading.epoch threeHours 1 twoHourMetric := by
    unfold ExportFits
    decide +kernel
  exact (multi_window_export Datetime.Reading.epoch threeHours twoHourMetric (by decide)
    (by decide)).1 fits

theorem hour_inCalendar :
    Datetime.minReading ≤ 3600000000 ∧ 3600000000 ≤ Datetime.maxReading := by decide

/-- A metric with records in the second hour only. -/
def lateMetric (window : Int × Int) : List FluxRecord :=
  if window.1 = 3600000000 then
    [metricRecord ⟨3600000000, hour_inCalendar⟩ ⟨5400000000, by decide⟩ "1.5"]
  else []

/-- An empty first window takes the header with it. -/
theorem lateMetric_headless : ¬ Exported Datetime.Reading.epoch threeHours 1 lateMetric := by
  intro exported
  have holds := ((exported_iff (by decide) (by decide)).mp exported).2
  have file : exportWindows ((chunkWindows (1 * hourMicros) Datetime.Reading.epoch.micros
      threeHours.micros).map lateMetric) = .file "1970-01-01T01:30:00+00:00,1.5\n".toList := by
    decide +kernel
  rw [file] at holds
  obtain ⟨header, rows, read, reads⟩ := holds
  have only : Csv.read excel "1970-01-01T01:30:00+00:00,1.5\n".toList =
      some [["1970-01-01T01:30:00+00:00".toList, "1.5".toList]] := by
    decide +kernel
  obtain ⟨-, rfl⟩ := List.cons.inj (Option.some.inj (only.symm.trans read))
  exact absurd reads.length_eq (by decide +kernel)

end Gyanam
