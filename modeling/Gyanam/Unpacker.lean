/-
This file models how a blob is unpacked into files. The format is recognised by
its first octets, then by a hint, and what remains is tried as a tar archive and
else kept as it is. The files go into a new directory under names without
slashes; an archive member whose name is taken gets a number.

The readers of the archive formats are parameters, and so are the names that the
file system refuses. Reading is piecewise, and each piece may raise. The
directory is a state that survives exceptions: what an attempt at a tar archive
leaves behind is there when the blob is kept as it is.
-/

import Gyanam.Lib.Attempt
import Gyanam.Lib.Strings
import Gyanam.Lib.Table

namespace Gyanam

open Json (Text)

/-! ### Exceptions -/

/-- The exception of a library call, by the classes that the unpacker tells apart. -/
inductive LibraryError where
  | value
  | tar
  | badGzip
  | os
  | other
  deriving DecidableEq, Repr

/-- What the unpacker raises. -/
inductive UnpackError where
  | blobTooLarge (size limit : Nat)
  | emptyBlob
  | decompressedTooLarge (total : Nat)
  | memberTooLarge (name : Text) (size : Nat)
  | invalidGzip
  | unreadableGzip
  | invalidTar
  | unreadableTar
  | library (error : LibraryError)
  | failed (cause : UnpackError)
  deriving DecidableEq

/-- Whether an exception is a ValueError: all that the unpacker makes itself are. -/
def UnpackError.isValueError : UnpackError → Bool
  | .library error => decide (error = .value)
  | _ => true

/-! ### Files -/

/-- A file that was extracted: its name in the directory of the extraction, the name it had, its
size, and the type of report its metrics are tagged with. -/
structure ExtractedFile where
  path : Text
  originalName : Text
  size : Nat
  reportType : Text

/-- The type of report of a file, by its name. -/
def reportTypeOfName (originalName : Text) : Text :=
  let stem := Strings.stem (Strings.pathName originalName)
  if stem = [] then Json.text "telemetry" else stem

/-- A file whose type of report is not given. -/
def ExtractedFile.of (path originalName : Text) (size : Nat) : ExtractedFile :=
  ⟨path, originalName, size, reportTypeOfName originalName⟩

/-- The directory of an extraction: its files by name. -/
abbrev Directory := Table Text (List UInt8)

/-- What a stream reads, piece by piece, and how it ends. -/
structure Stream where
  chunks : List (List UInt8)
  failure : Option LibraryError := none

/-- A member of a zip archive. -/
structure ZipInfo where
  filename : Text
  opened : Except LibraryError Stream

inductive TarKind where
  | directory
  | regular
  | other
  deriving DecidableEq

/-- A member of a tar archive. -/
structure TarInfo where
  name : Text
  kind : TarKind
  size : Nat
  opened : Except LibraryError Stream

/-- The libraries and the file system: what they make of some octets, the names that cannot be
created, and the name of a new directory with a prefix. -/
structure BlobReaders where
  openZip : List UInt8 → Except LibraryError (List ZipInfo)
  openTar : List UInt8 → Except LibraryError (List TarInfo)
  gunzip : List UInt8 → Stream
  nameError : Text → Option LibraryError
  mkdtemp : Text → Text

/-- An extraction into a directory. -/
abbrev Unpacking := Attempt Directory UnpackError

/-- The most octets that are decompressed. -/
def maxDecompressedSize : Nat := 500 * 1024 * 1024

/-! ### Names in the directory -/

section Names

variable (readers : BlobReaders)

/-- Whether a path exists. The names of the directory itself and of its parent do. A name that is
refused for another reason than an error of the system counts as absent. -/
def pathExists (name : Text) : Unpacking Bool := do
  let refused := readers.nameError name
  if refused = some .os then throw (.library .os)
  let directory ← get
  return decide (name = [] ∨ name = Json.text "." ∨ name = Json.text ".." ∨
    (directory.get name).isSome)

/-- Create a file, empty. -/
def createFile (name : Text) : Unpacking Unit :=
  match readers.nameError name with
  | some error => throw (.library error)
  | none => modify fun directory => directory.set name []

/-- A name with a number before its suffix. -/
def numberedName (stem suffix : Text) (counter : Nat) : Text :=
  stem ++ Json.text "_" ++ Json.text (toString counter) ++ suffix

/-- The first numbered name that is free, if the tries suffice. -/
def freeName (stem suffix : Text) : Nat → Nat → Unpacking Text
  | 0, counter => return numberedName stem suffix counter
  | tries + 1, counter => do
    if ← pathExists readers (numberedName stem suffix counter) then
      freeName stem suffix tries (counter + 1)
    else return numberedName stem suffix counter

/-- The name for a member: its own, or a numbered one made from another name when its own is
taken. One try more than there are files finds a free one. -/
def chooseName (basename numbered : Text) : Unpacking Text := do
  if ← pathExists readers basename then
    let directory ← get
    freeName readers (Strings.stem numbered) (Strings.suffix numbered)
      (directory.rows.length + 1) 1
  else return basename

end Names

/-! ### The formats -/

section Formats

variable (readers : BlobReaders)

/-- Copy a member of a zip archive, counting what is decompressed in all. -/
def copyZip (name : Text) (failure : Option LibraryError) :
    Nat → List UInt8 → List (List UInt8) → Unpacking (Nat × Nat)
  | total, written, [] =>
    match failure with
    | some error => throw (.library error)
    | none => return (total, written.length)
  | total, written, chunk :: rest => do
    if maxDecompressedSize < total + chunk.length then
      modify fun _ => Table.empty
      throw (.decompressedTooLarge (total + chunk.length))
    modify fun directory => directory.set name (written ++ chunk)
    copyZip name failure (total + chunk.length) (written ++ chunk) rest

/-- One member of a zip archive. Directories are skipped, and system files; the empty name has no
last character to look at. -/
def extractZipInfo (directoryName : Text) (done : Nat × List ExtractedFile) (info : ZipInfo) :
    Unpacking (Nat × List ExtractedFile) := do
  match info.filename.getLast? with
  | none => throw (.library .other)
  | some last =>
    if last = Json.point '/'.toNat ∨ Json.text "__MACOSX" <+: info.filename ∨
        Json.text "." <+: info.filename then
      return done
    let basename := Strings.pathName info.filename
    let name ← chooseName readers basename (if basename = [] then directoryName else basename)
    let stream ← Attempt.ofExcept (info.opened.mapError .library)
    createFile readers name
    let (total, size) ← copyZip name stream.failure done.1 [] stream.chunks
    return (total, done.2 ++ [ExtractedFile.of name info.filename size])

/-- The files of a zip archive. -/
def extractZip (directoryName : Text) (content : List UInt8) : Unpacking (List ExtractedFile) := do
  let infos ← Attempt.ofExcept ((readers.openZip content).mapError .library)
  let done ← infos.foldlM (extractZipInfo readers directoryName) (0, [])
  return done.2

/-- Copy a member of a tar archive. -/
def copyTar (name : Text) (stream : Stream) : Unpacking Unit := do
  modify fun directory => directory.set name stream.chunks.flatten
  match stream.failure with
  | some error => throw (.library error)
  | none => return ()

/-- One member of a tar archive. Only regular files are extracted, and no hidden ones. -/
def extractTarInfo (done : Nat × List ExtractedFile) (info : TarInfo) :
    Unpacking (Nat × List ExtractedFile) := do
  if info.kind ≠ .regular then return done
  if maxDecompressedSize < info.size then throw (.memberTooLarge info.name info.size)
  let total := done.1 + info.size
  if maxDecompressedSize < total then throw (.decompressedTooLarge total)
  let basename := Strings.basename info.name
  if basename = [] ∨ Json.text "." <+: basename then return (total, done.2)
  let name ← chooseName readers basename basename
  let stream ← Attempt.ofExcept (info.opened.mapError .library)
  createFile readers name
  copyTar name stream
  return (total, done.2 ++ [ExtractedFile.of name basename info.size])

/-- The ValueError that the exception of a tar archive becomes, if it becomes one. -/
def tarError : UnpackError → UnpackError
  | .library .tar => .invalidTar
  | .library .os => .unreadableTar
  | .library .badGzip => .unreadableTar
  | error => error

/-- The files of a tar archive. -/
def extractTar (content : List UInt8) : Unpacking (List ExtractedFile) :=
  tryCatch (do
    let infos ← Attempt.ofExcept ((readers.openTar content).mapError .library)
    let done ← infos.foldlM (extractTarInfo readers) (0, [])
    return done.2) fun error => throw (tarError error)

/-- The files of a tar archive, or nothing where it raises a ValueError. -/
def tryExtractTarDirect (content : List UInt8) : Unpacking (Option (List ExtractedFile)) :=
  tryCatch (do return some (← extractTar readers content)) fun error =>
    if error.isValueError then return none else throw error

/-- Keep octets as one file: as JSON if they are text. -/
def saveRaw (content : List UInt8) (targetName : Text) : Unpacking (List ExtractedFile) := do
  let extension := if (Json.decodeUtf8 content).isSome then ".json" else ".bin"
  let name := targetName ++ Json.text "_telemetry" ++ Json.text extension
  createFile readers name
  modify fun directory => directory.set name content
  return [ExtractedFile.of name name content.length]

/-- Whether there is the mark of a tar archive. -/
def isTar (content : List UInt8) : Bool :=
  decide (262 ≤ content.length) &&
    decide ((content.drop 257).take 5 = [0x75, 0x73, 0x74, 0x61, 0x72])

/-- Read a compressed stream up to the limit. -/
def gunzipChunks (failure : Option LibraryError) :
    List UInt8 → List (List UInt8) → Except UnpackError (List UInt8)
  | decompressed, [] =>
    match failure with
    | some .badGzip => .error .invalidGzip
    | some .os => .error .unreadableGzip
    | some error => .error (.library error)
    | none => .ok decompressed
  | decompressed, chunk :: rest =>
    if maxDecompressedSize < (decompressed ++ chunk).length then
      .error (.decompressedTooLarge (decompressed ++ chunk).length)
    else gunzipChunks failure (decompressed ++ chunk) rest

/-- The files of a compressed stream: those of the tar archive in it, or one file. -/
def extractGzip (content : List UInt8) (targetName : Text) : Unpacking (List ExtractedFile) := do
  let stream := readers.gunzip content
  let decompressed ← Attempt.ofExcept (gunzipChunks stream.failure [] stream.chunks)
  if isTar decompressed then extractTar readers decompressed
  else saveRaw readers decompressed targetName

/-! ### The blob -/

/-- How a blob is read. -/
inductive BlobFormat where
  | zip
  | gzip
  | tar
  | unknown
  deriving DecidableEq, Repr

/-- The format that the first octets tell. -/
def detectFormat (content : List UInt8) : Option BlobFormat :=
  if content.take 4 = [0x50, 0x4B, 0x03, 0x04] then some .zip
  else if content.take 2 = [0x1F, 0x8B] then some .gzip
  else if isTar content then some .tar
  else none

/-- The format that a hint tells. -/
def hintedFormat (contentType : Text) : BlobFormat :=
  let hint := Strings.lower contentType
  if Strings.contains hint (Json.text "zip") then .zip
  else if Strings.contains hint (Json.text "gzip") ∨ Strings.contains hint (Json.text "gz") then
    .gzip
  else if Strings.contains hint (Json.text "tar") ∨
      Strings.contains hint (Json.text "application/x-tar") then .tar
  else .unknown

/-- A name with other characters than letters, digits, underscores and hyphens replaced, cut; never
empty. -/
def safeTargetName (targetName : Text) : Text :=
  let safe := (targetName.map fun point =>
    if ('a'.toNat ≤ point.val ∧ point.val ≤ 'z'.toNat) ∨
        ('A'.toNat ≤ point.val ∧ point.val ≤ 'Z'.toNat) ∨
        ('0'.toNat ≤ point.val ∧ point.val ≤ '9'.toNat) ∨
        point.val = '_'.toNat ∨ point.val = '-'.toNat then point
    else Json.point '_'.toNat).take 50
  if safe = [] then Json.text "unknown" else safe

/-- The files of a blob in a format. -/
def extractAs (directoryName safeName : Text) (content : List UInt8) :
    BlobFormat → Unpacking (List ExtractedFile)
  | .zip => extractZip readers directoryName content
  | .gzip => extractGzip readers content safeName
  | .tar => extractTar readers content
  | .unknown => do
    match ← tryExtractTarDirect readers content with
    | some files => return files
    | none => saveRaw readers content safeName

/-- Unpack a blob. Whatever raises on the way, the directory is cleaned up. -/
def unpack (maxBlobSize : Nat) (content : List UInt8) (contentType targetName : Text) :
    Unpacking (List ExtractedFile) := do
  if maxBlobSize < content.length then throw (.blobTooLarge content.length maxBlobSize)
  if content.length = 0 then throw .emptyBlob
  let safeName := safeTargetName targetName
  let directoryName := readers.mkdtemp (safeName ++ Json.text "_")
  modify fun _ => Table.empty
  tryCatch
    (extractAs readers directoryName safeName content
      ((detectFormat content).getD (hintedFormat contentType)))
    fun error => do
      modify fun _ => Table.empty
      throw (.failed error)

end Formats

end Gyanam
