/-
This file models how metrics are extracted from a poll: from its reports, or from
the files of its blob. The files are unpacked and read back one by one. A file
that is not JSON is skipped; any other exception ends the extraction, is logged,
and leaves no metrics.

The unpacker is called with the name of the target in the place of the type of
the content.
-/

import Gyanam.Extractor
import Gyanam.Unpacker

namespace Gyanam

/-- What the extraction of a blob raises. -/
inductive BlobError where
  | unpack (error : UnpackError)
  | poll (error : PollError)

/-- The result of an extraction: the metrics or the exception that is logged, and the files to clean
up. -/
structure Extraction where
  outcome : Except BlobError (List Metric)
  files : List ExtractedFile

/-- The metrics that are returned. -/
def Extraction.metrics (extraction : Extraction) : List Metric :=
  match extraction.outcome with
  | .ok metrics => metrics
  | .error _ => []

/-- The value of a file, or nothing for one that is skipped. -/
def loadFile (recursionLimit : Nat) (directory : Directory) (file : ExtractedFile) :
    Except PollError (Option Json) :=
  match (directory.get file.path).bind Json.decodeUtf8 with
  | none => .ok none
  | some chars =>
    match Json.loads recursionLimit chars with
    | .ok data => .ok (some data)
    | .error .recursion => .error (.json .recursion)
    | .error _ => .ok none

section Extraction

variable (parser : MetricParser) (recursionLimit : Nat) (context : ReportContext)

/-- The metrics of a file. -/
def extractFile (directory : Directory) (file : ExtractedFile) :
    Except PollError (List Metric) := do
  match ← loadFile recursionLimit directory file with
  | none => return []
  | some data =>
    parser.parse data context.host (context.reportTags (.string file.reportType)) context.timestamp

/-- The metrics of some files. -/
def extractFiles (directory : Directory) (files : List ExtractedFile) :
    Except PollError (List Metric) :=
  List.flatten <$> files.mapM (extractFile parser recursionLimit context directory)

/-- The result for a blob that is unpacked. -/
def extractUnpacked (unpacked : Except UnpackError (List ExtractedFile) × Directory) : Extraction :=
  match unpacked with
  | (.error error, _) => ⟨.error (.unpack error), []⟩
  | (.ok files, directory) =>
    ⟨(extractFiles parser recursionLimit context directory files).mapError .poll, files⟩

end Extraction

/-- The result for a poll. -/
def syncExtractMetrics (parser : MetricParser) (readers : BlobReaders)
    (recursionLimit maxBlobSize : Nat)
    (result : PollResult) : Except PollError Extraction := do
  let extraTags ← pollTags result
  match result.data with
  | some data => return ⟨.ok (← extractReports parser result data), []⟩
  | none =>
    if result.content = [] then return ⟨.ok [], []⟩
    else
      let context := ReportContext.mk (Json.text result.targetHost) extraTags result.pollTime
      let unpacking := unpack readers maxBlobSize result.content (Json.text result.targetName)
        (Json.text "unknown")
      return extractUnpacked parser recursionLimit context (unpacking.start Table.empty)

end Gyanam
