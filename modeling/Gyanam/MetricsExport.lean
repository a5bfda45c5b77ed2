/-
This file models the export of metrics to CSV: how a time range is split into
windows, how the records of one window are streamed into a file, and how the
files of several windows are put together. What the database answers to a query
is a parameter.

A column is written for each column of the first record of a window, and the
values of the others are looked up under it. A chunk file is opened with
universal newlines when it is put behind the others, and its first line is
skipped.
-/

import Gyanam.Lib.Csv
import Gyanam.Lib.Datetime
import Gyanam.Lib.Sorted
import Gyanam.Lib.Table
import Gyanam.ShardManager

namespace Gyanam

open Csv (excel)

/-! ### Records -/

/-- A text of the export. -/
abbrev CsvText := List Char

/-- A value of a record: none, a datetime in UTC, or anything else by what it is printed as. -/
inductive FluxValue where
  | none
  | moment (time : Datetime.Reading)
  | shown (text : CsvText)
  deriving DecidableEq

/-- A record has a value for each of its columns. -/
abbrev FluxRecord := Table CsvText FluxValue

/-- The columns that are never written. -/
def fluxInternalCols : List CsvText := ["_start".toList, "_stop".toList]

/-- The text of a datetime with a separator between its date and its time. -/
def momentText (separator : Char) (time : Datetime.Reading) : CsvText :=
  (isoformat time.micros).toList.map (fun char => if char = 'T' then separator else char) ++
    "+00:00".toList

/-- The columns of a file, which are those of its first record in order. -/
def exportColumns (record : FluxRecord) : List CsvText :=
  (SortedList.distinct record.keys).filter fun column =>
    !fluxInternalCols.any fun internal => decide (column = internal)

/-- Does a record have a datetime in a column? -/
def isMoment (record : FluxRecord) (column : CsvText) : Bool :=
  match record.get column with
  | some (.moment _) => true
  | _ => false

/-- A field of a row. In a datetime column, anything but nothing is asked for its ISO format, and
only a datetime has one. Elsewhere it is printed. -/
def exportField (datetimeCol : Bool) : Option FluxValue → Option CsvText
  | none => some []
  | some .none => some []
  | some (.moment time) => some (momentText (if datetimeCol then 'T' else ' ') time)
  | some (.shown text) => if datetimeCol then none else some text

/-! ### One window -/

/-- Stream the records of one window into a file. A value that has no ISO format raises. -/
def streamWindowOnce : List FluxRecord → Option CsvText
  | [] => some []
  | first :: rest =>
    let columns := exportColumns first
    let row := fun (record : FluxRecord) =>
      columns.mapM fun column => exportField (isMoment first column) (record.get column)
    ((first :: rest).mapM row).map fun rows => Csv.write excel .crlf (columns :: rows)

/-! ### Several windows -/

/-- Concatenate chunk files. The first line of all but the first is skipped. -/
def concatChunkFiles : List CsvText → CsvText
  | [] => []
  | first :: rest =>
    Csv.newlines excel first ++
      rest.flatMap fun part => Csv.dropLine excel (Csv.newlines excel part)

/-- The microseconds of an hour. -/
def hourMicros : Int := 3600000000

/-- The longest duration that can be built, in microseconds. -/
def maxTimedelta : Int := 86399999999999999999

theorem chunk_positive {chunkHours : Int} (chunked : 0 < chunkHours) :
    0 < chunkHours * hourMicros :=
  Int.mul_pos chunked (by decide)

/-- The windows of a range, each but the last as long as the chunks are. A window whose end would
be outside the calendar raises. -/
def planFrom (delta : Int) (positive : 0 < delta) (stop current : Int) :
    Option (List (Int × Int)) :=
  if current < stop then
    if current + delta ≤ Datetime.maxReading then
      (planFrom delta positive stop (min (current + delta) stop)).map fun windows =>
        (current, min (current + delta) stop) :: windows
    else none
  else some []
termination_by (stop - current).toNat
decreasing_by omega

/-- Window planning: chunks of some hours, or the range itself. -/
def planWindows (start stop : Datetime.Reading) (chunkHours : Int) : Option (List (Int × Int)) :=
  if chunked : 0 < chunkHours then
    if chunkHours * hourMicros ≤ maxTimedelta then
      planFrom (chunkHours * hourMicros) (chunk_positive chunked) stop.micros start.micros
    else none
  else some [(start.micros, stop.micros)]

/-- How an export ends: with an error, with no rows and no file, or with a file. -/
inductive ExportEnd where
  | failed
  | empty
  | file (text : CsvText)
  deriving DecidableEq

/-- Export the records of some windows: each window into a file of its own, and a single one into
the final file. -/
def exportWindows (batches : List (List FluxRecord)) : ExportEnd :=
  match batches.mapM streamWindowOnce with
  | none => .failed
  | some files =>
    if (batches.map List.length).sum = 0 then .empty
    else
      match files with
      | [file] => .file file
      | files => .file (concatChunkFiles files)

/-- Export the metrics of a range. -/
def exportMetricsToCsv (start stop : Datetime.Reading) (chunkHours : Int)
    (query : Int × Int → List FluxRecord) : ExportEnd :=
  match planWindows start stop chunkHours with
  | none => .failed
  | some windows => exportWindows (windows.map query)

end Gyanam
