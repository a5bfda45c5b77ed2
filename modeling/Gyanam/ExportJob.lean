/-
This file models an export while it runs: the answer of the database comes record
by record, an attempt at a window may fail on the way and be made again, the chunk
files are put behind each other piece by piece, and the process may be interrupted
or killed between any two of these steps. Three places on the disk count: the final
file, the staging file next to it, and the chunk files in a temporary directory. The
disk may refuse to remove either of the last two: that the staging file stays is
suppressed, that the directory stays ends the export with an exception.

A file that is open has what was given to its writer. What a killed process leaves
of the staging file is a beginning of that.
-/

import Gyanam.Lib.Machine
import Gyanam.Lib.Strings
import Gyanam.MetricsExport

namespace Gyanam

open Csv (excel)

/-! ### Exceptions -/

/-- An exception: the name of its type and its text. -/
structure StreamFault where
  typeName : Json.Text
  message : Json.Text
  deriving DecidableEq

/-- Transient errors worth retrying on. -/
def transientKeywords : List Json.Text :=
  [Json.text "timeout", Json.text "timed out", Json.text "connection", Json.text "broken pipe",
    Json.text "reset", Json.text "eof", Json.text "remote end closed",
    Json.text "service unavailable"]

/-- Does an exception look transient? -/
def looksTransient (exc : StreamFault) : Bool :=
  let msg := Strings.lower (exc.typeName ++ Json.text ": " ++ exc.message)
  transientKeywords.any fun keyword => Strings.contains msg keyword

/-- The longest backoff, in seconds. -/
def retryMaxSeconds : Nat := 60

/-- The base of the backoff after an attempt, in seconds. It is computed as a double, and raises
where the power of two is beyond those. -/
def backoffSeconds (attempt : Nat) : Option Nat :=
  if attempt < 1024 then some (min retryMaxSeconds (2 * 2 ^ attempt)) else none

/-- A value in a datetime column that has no ISO format. The name of its type stands before the
text. -/
def isoformatFault : StreamFault :=
  ⟨Json.text "AttributeError", Json.text "object has no attribute 'isoformat'"⟩

/-! ### Records one after another -/

/-- The columns of a file, each with whether it is a datetime column. -/
def streamColumns (record : FluxRecord) : List (CsvText × Bool) :=
  (exportColumns record).map fun column => (column, isMoment record column)

/-- The row of a record under the columns of a file. -/
def streamRow (columns : List (CsvText × Bool)) (record : FluxRecord) : Option (Csv.Row Char) :=
  columns.mapM fun column => exportField column.2 (record.get column.1)

/-! ### The state of an export -/

/-- What an attempt at a window knows of its rows: the columns of the first record, each with
whether it is a datetime column, and how many rows it has written. -/
structure WindowStream where
  columns : Option (List (CsvText × Bool)) := none
  written : Nat := 0
  deriving DecidableEq

/-- How an export ends: with its file, without rows, with exit code 1, with exit code 130, with an
exception that nothing catches, or killed. -/
inductive ExportOutcome where
  | exported
  | noRows
  | failed
  | interrupted
  | crashed
  | killed
  deriving DecidableEq

/-- Where an export is. While it merges, it has the rest of the chunk file it copies and the chunk
files after that. -/
inductive ExportPhase where
  | querying (attempt : Nat)
  | streaming (attempt : Nat) (stream : WindowStream)
  | sleeping (attempt : Nat)
  | merging (chunk : CsvText) (later : List CsvText)
  | replacing
  | ended (outcome : ExportOutcome)
  deriving DecidableEq

/-- An export with the files it works on: the final file, the staging file, the chunk file of the
window that is streamed, and those that are complete. -/
structure ExportJob where
  phase : ExportPhase
  output : Option CsvText
  part : Option CsvText
  chunk : Option CsvText := none
  chunkFiles : List CsvText := []
  totalWritten : Nat := 0
  deriving DecidableEq

/-- The number of planned windows, the retries that each of them may have, and whether the disk
removes the staging file and the temporary directory when it is told to. -/
structure ExportPlan where
  windows : Nat
  maxRetries : Int
  unlinks : Bool := true
  cleans : Bool := true
  deriving DecidableEq

/-- There is a temporary directory unless one window is planned. Is there one that stays? -/
def ExportPlan.littered (plan : ExportPlan) : Bool := decide (plan.windows ≠ 1) && !plan.cleans

/-- What happens to an export. The database answers a query, sends a record, or has sent all;
something raises; a backoff is over; some of a chunk file is copied, the next one is opened, or the
last one is copied; the staging file replaces the final one; or the process is interrupted or
killed. -/
inductive ExportEvent where
  | answered
  | record (record : FluxRecord)
  | exhausted
  | raised (exc : StreamFault)
  | woke
  | copied (count : Nat)
  | nextChunk
  | merged
  | replaced
  | interrupted
  | killed (onDisk : Nat)

namespace ExportJob

variable (plan : ExportPlan) (job : ExportJob)

/-! ### Parts of a step -/

/-- The file that a window is streamed into: the staging file if there is one window, else a chunk
file. -/
def staged : Option CsvText := if plan.windows = 1 then job.part else job.chunk

/-- Write the file that a window is streamed into. -/
def stage (text : CsvText) : ExportJob :=
  if plan.windows = 1 then { job with part := some text } else { job with chunk := some text }

/-- The temporary directory is removed on every way out, and then the export goes on. If it is not
removed, nothing catches the exception. -/
def cleanup (goesOn : ExportJob → ExportJob) : ExportJob :=
  if plan.littered then { job with phase := .ended .crashed }
  else goesOn { job with chunk := none, chunkFiles := [] }

/-- Remove the staging file. It is suppressed if that fails. -/
def unlink : ExportJob := if plan.unlinks then { job with part := none } else job

/-- Clean up the partial staging file, and exit with code 1. -/
def fail : ExportJob :=
  (job.unlink plan).cleanup plan fun cleaned => { cleaned with phase := .ended .failed }

/-- The first attempt at a window. Without any attempt the retry loop raises. -/
def openWindow : ExportJob :=
  if 0 ≤ plan.maxRetries then { job with phase := .querying 0 } else job.fail plan

/-- An attempt at a window raised: it is made again if retries are left and the exception looks
transient, unless the backoff raises as well. -/
def attemptFailed (attempt : Nat) (exc : StreamFault) : ExportJob :=
  if attempt = plan.maxRetries ∨ looksTransient exc = false then job.fail plan
  else if (backoffSeconds attempt).isNone then job.fail plan
  else { job with phase := .sleeping attempt }

/-- All windows are in the staging file: without rows it is removed, else it is to replace the final
file. -/
def publish : ExportJob :=
  job.cleanup plan fun cleaned =>
    if cleaned.totalWritten = 0 then { cleaned.unlink plan with phase := .ended .noRows }
    else { cleaned with phase := .replacing }

/-- Open the staging file for the chunk files, and the first of them. -/
def openMerge : ExportJob :=
  match job.chunkFiles with
  | [] => { job with part := some [], phase := .merging [] [] }
  | first :: rest =>
    { job with part := some [], phase := .merging (Csv.newlines excel first) rest }

/-- A window is complete. -/
def closeWindow (written : Nat) : ExportJob :=
  if plan.windows = 1 then { job with totalWritten := written }.publish plan
  else
    let closed := { job with
      chunkFiles := job.chunkFiles ++ job.chunk.toList
      chunk := none
      totalWritten := job.totalWritten + written }
    if closed.chunkFiles.length = plan.windows then closed.openMerge else closed.openWindow plan

/-- A record arrives. The first one gives the columns, and the header is written; a value without
ISO format in a datetime column raises after that. -/
def writeRecord (attempt : Nat) (stream : WindowStream) (record : FluxRecord) : ExportJob :=
  let columns := stream.columns.getD (streamColumns record)
  let header := if stream.columns.isNone then Csv.writeRow excel .crlf (columns.map Prod.fst)
    else []
  let text := (job.staged plan).getD [] ++ header
  match streamRow columns record with
  | none => (job.stage plan text).attemptFailed plan attempt isoformatFault
  | some row =>
    { job.stage plan (text ++ Csv.writeRow excel .crlf row) with
      phase := .streaming attempt ⟨some columns, stream.written + 1⟩ }

/-- The export starts with its first window; without windows it has nothing to merge. -/
def begin (output part : Option CsvText) : ExportJob :=
  let job : ExportJob := { phase := .querying 0, output := output, part := part }
  if plan.windows = 0 then job.openMerge else job.openWindow plan

/-! ### The machine -/

/-- One event. An interrupt while the staging file is to replace the final one is caught by nothing,
as is an exception there. -/
def step : ExportEvent → Option ExportJob
  | .answered =>
    match job.phase with
    | .querying attempt => some { job.stage plan [] with phase := .streaming attempt {} }
    | _ => none
  | .record record =>
    match job.phase with
    | .streaming attempt stream => some (job.writeRecord plan attempt stream record)
    | _ => none
  | .exhausted =>
    match job.phase with
    | .streaming _ stream => some (job.closeWindow plan stream.written)
    | _ => none
  | .raised exc =>
    match job.phase with
    | .querying attempt => some (job.attemptFailed plan attempt exc)
    | .streaming attempt _ => some (job.attemptFailed plan attempt exc)
    | .merging _ _ => some (job.fail plan)
    | .replacing => some { job with phase := .ended .crashed }
    | _ => none
  | .woke =>
    match job.phase with
    | .sleeping attempt => some { job with phase := .querying (attempt + 1) }
    | _ => none
  | .copied count =>
    match job.phase with
    | .merging chunk later =>
      some { job with
        part := job.part.map fun text => text ++ chunk.take count
        phase := .merging (chunk.drop count) later }
    | _ => none
  | .nextChunk =>
    match job.phase with
    | .merging [] (next :: later) =>
      some { job with phase := .merging (Csv.dropLine excel (Csv.newlines excel next)) later }
    | _ => none
  | .merged =>
    match job.phase with
    | .merging [] [] => some (job.publish plan)
    | _ => none
  | .replaced =>
    match job.phase with
    | .replacing => some { job with output := job.part, part := none, phase := .ended .exported }
    | _ => none
  | .interrupted =>
    match job.phase with
    | .ended _ => none
    | .replacing => some { job with phase := .ended .crashed }
    | _ => some (job.cleanup plan fun cleaned => { cleaned with phase := .ended .interrupted })
  | .killed onDisk =>
    match job.phase with
    | .ended _ => none
    | _ => some { job with
        part := job.part.map fun text => text.take onDisk
        phase := .ended .killed }

end ExportJob

/-- The machine of an export. -/
def exportMachine (plan : ExportPlan) : Machine ExportJob ExportEvent :=
  ⟨fun job event => job.step plan event⟩

/-! ### What was delivered -/

/-- The records of the windows that are complete, and those of the attempt that is made. An attempt
starts without records, and one that fails has none. -/
def deliver (sent : List (List FluxRecord) × List FluxRecord) :
    ExportEvent → List (List FluxRecord) × List FluxRecord
  | .answered => (sent.1, [])
  | .record record => (sent.1, sent.2 ++ [record])
  | .exhausted => (sent.1 ++ [sent.2], [])
  | .raised _ => (sent.1, [])
  | _ => sent

/-- For each window that is complete, the records that the database sent to its last attempt. -/
def delivered (events : List ExportEvent) : List (List FluxRecord) :=
  (events.foldl deliver ([], [])).1

end Gyanam
