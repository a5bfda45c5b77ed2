/-
This file proves how the extraction of a blob ends, format by format. In every
format nothing but direct children of the directory is written. An archive that
is extracted is extracted without loss. And when a tar archive is not, its
members tell why: the name that one of them gets is refused, or one cannot be
read.
-/

import Gyanam.ArchiveExtraction
import Mathlib.Algebra.GroupWithZero.Nat

namespace Gyanam

open Json (Text)

/-! ### How a member fails -/

/-- Why the content of a member cannot be read to its end, if it cannot. -/
def Member.streamFailure (member : Member) : Option LibraryError :=
  match member.opened with
  | .error _ => none
  | .ok stream => stream.failure

/-- How much is decompressed of a member. -/
def Member.decompressed (member : Member) : Nat :=
  match member.opened with
  | .error _ => 0
  | .ok stream => stream.chunks.flatten.length

/-! ### How a zip archive fails -/

section Zip

variable (readers : BlobReaders) (directoryName : Text)

/-- The name for a member of a zip archive where some names are taken. -/
def zipName (taken : List Text) (member : Member) : Text :=
  nextName taken (Strings.pathName member.originalName)
    (numberedBase directoryName member.originalName)

/-- Whether extracting a member raises, when some names are taken and some octets are decompressed:
it has no name, its file is refused, it cannot be read, or it is too much. -/
def memberRaises (taken : List Text) (total : Nat) (member : Member) : Bool :=
  decide (member.originalName = []) ||
    (openFailure readers (Strings.pathName member.originalName)
      (zipName directoryName taken member) member.opened).isSome ||
    member.streamFailure.isSome ||
    decide (maxDecompressedSize < total + member.decompressed)

/-- Whether extracting one of some members raises. -/
def zipRaises (taken : List Text) (total : Nat) : List Member → Bool
  | [] => false
  | member :: rest =>
    memberRaises readers directoryName taken total member ||
      zipRaises (taken ++ [zipName directoryName taken member]) (total + member.decompressed) rest

variable {readers directoryName} {directory : Directory} {done : Nat × List ExtractedFile}
  {info : ZipInfo}

/-- A member that can be read, and is not too much, is copied. -/
theorem copyZip_returns (name : Text) {total : Nat} (written : List UInt8)
    {chunks : List (List UInt8)} (fits : total + chunks.flatten.length ≤ maxDecompressedSize)
    (current : Directory) :
    ∃ size after, (copyZip name none total written chunks).start current =
      (.ok (total + chunks.flatten.length, size), after) := by
  induction chunks generalizing total written current with
  | nil => exact ⟨written.length, current, rfl⟩
  | cons chunk rest inductionHypothesis =>
    rw [List.flatten_cons, List.length_append, ← Nat.add_assoc] at fits ⊢
    have within : ¬ maxDecompressedSize < total + chunk.length := by omega
    rw [copyZip, if_neg within]
    exact inductionHypothesis (written ++ chunk) fits _

/-- One that cannot be read to its end, or is too much, raises. -/
theorem copyZip_raises (name : Text) {failure : Option LibraryError} {total : Nat}
    (written : List UInt8) {chunks : List (List UInt8)} (small : total ≤ maxDecompressedSize)
    (fails : failure.isSome ∨ maxDecompressedSize < total + chunks.flatten.length)
    (current : Directory) :
    ∃ error after, (copyZip name failure total written chunks).start current =
      (.error error, after) := by
  induction chunks generalizing total written current with
  | nil =>
    cases failure with
    | some error => exact ⟨_, current, rfl⟩
    | none =>
      rw [List.flatten_nil, List.length_nil, Nat.add_zero] at fails
      simp [not_lt.mpr small] at fails
  | cons chunk rest inductionHypothesis =>
    rw [copyZip]
    by_cases exceeds : maxDecompressedSize < total + chunk.length
    · rw [if_pos exceeds]
      exact ⟨_, _, rfl⟩
    · rw [if_neg exceeds]
      rw [List.flatten_cons, List.length_append, ← Nat.add_assoc] at fails
      exact inductionHypothesis (written ++ chunk) (not_lt.mp exceeds) fails _

/-- How the extraction of one member ends. -/
theorem extractZipInfo_start (plain : slash ∉ directoryName)
    (sound : SoundDirectory readers directory) (small : done.1 ≤ maxDecompressedSize)
    {member : Member} (eligible : info.member = some member) :
    if memberRaises readers directoryName directory.keys done.1 member then
      ∃ error after, (extractZipInfo readers directoryName done info).start directory =
        (.error error, after)
    else ∃ files after, (extractZipInfo readers directoryName done info).start directory =
        (.ok (done.1 + member.decompressed, files), after) ∧
      SoundDirectory readers after ∧
      after.keys = directory.keys ++ [zipName directoryName directory.keys member] := by
  obtain rfl := ZipInfo.eq_of_member eligible
  by_cases unnamed : info.filename = []
  · rw [if_pos (by simp [memberRaises, unnamed]), extractZipInfo,
      List.getLast?_eq_none_iff.mpr unnamed]
    exact ⟨_, _, rfl⟩
  rw [extractZipInfo_eq eligible unnamed, Attempt.start_bind]
  have chosen : chosenName directory (Strings.pathName info.filename)
      (numberedBase directoryName info.filename) =
        zipName directoryName directory.keys ⟨info.filename, info.opened⟩ :=
    chosenName_eq directory _ _
  cases opening : openFailure readers (Strings.pathName info.filename)
      (zipName directoryName directory.keys ⟨info.filename, info.opened⟩) info.opened with
  | some error =>
    rw [if_pos (by simp [memberRaises, opening]), openMember_fails sound (chosen ▸ opening)]
    exact ⟨_, _, rfl⟩
  | none =>
    obtain ⟨stream, opens, accepted, ran⟩ := openMember_opens sound (chosen ▸ opening)
    rw [ran, chosen]
    rw [chosen] at accepted
    dsimp only
    rw [Attempt.start_bind]
    have raises : memberRaises readers directoryName directory.keys done.1
        ⟨info.filename, info.opened⟩ = true ↔
          stream.failure.isSome ∨ maxDecompressedSize < done.1 + stream.chunks.flatten.length := by
      rw [memberRaises, opening]
      simp [unnamed, Member.streamFailure, Member.decompressed, opens]
    by_cases fails : stream.failure.isSome ∨
        maxDecompressedSize < done.1 + stream.chunks.flatten.length
    · rw [if_pos (raises.mpr fails)]
      obtain ⟨error, after, copied⟩ := copyZip_raises _ [] small fails _
      rw [copied]
      exact ⟨error, after, rfl⟩
    · rw [if_neg (mt raises.mp fails)]
      obtain ⟨whole, fits⟩ := not_or.mp fails
      rw [Bool.not_eq_true, Option.isSome_eq_false_iff, Option.isNone_iff_eq_none] at whole
      have fresh : directory.get
          (zipName directoryName directory.keys ⟨info.filename, info.opened⟩) = none :=
        chosen ▸ get_chosenName directory _ _
      have child : IsChild (zipName directoryName directory.keys ⟨info.filename, info.opened⟩) :=
        chosen ▸ isChild_chosenName directory (slash_notMem_pathName info.filename)
          (slash_notMem_numberedBase plain info.filename)
      have adds := copyZip_ensures directory _ none done.1 [] stream.chunks _ (addsFile_set fresh)
      obtain ⟨size, after, copied⟩ := copyZip_returns
        (zipName directoryName directory.keys ⟨info.filename, info.opened⟩) [] (not_lt.mp fits)
        (directory.set _ [])
      rw [copied] at adds
      rw [whole, copied]
      refine ⟨done.2 ++ [ExtractedFile.of
        (zipName directoryName directory.keys ⟨info.filename, info.opened⟩) info.filename size],
        after, ?_, adds.2.sound sound child accepted, adds.2.keys⟩
      simp only [Member.decompressed, opens]
      rfl

/-- A zip archive is extracted exactly when none of its members raises. -/
theorem zip_start (plain : slash ∉ directoryName) (sound : SoundDirectory readers directory)
    (done : Nat × List ExtractedFile) (small : done.1 ≤ maxDecompressedSize)
    (infos : List ZipInfo) :
    if zipRaises readers directoryName directory.keys done.1 (infos.filterMap ZipInfo.member) then
      ∃ error after, (infos.foldlM (extractZipInfo readers directoryName) done).start directory =
        (.error error, after)
    else ∃ next after, (infos.foldlM (extractZipInfo readers directoryName) done).start directory =
        (.ok next, after) := by
  induction infos generalizing done directory with
  | nil => exact ⟨done, directory, rfl⟩
  | cons info rest inductionHypothesis =>
    rw [List.foldlM_cons, Attempt.start_bind]
    cases eligible : info.member with
    | none =>
      rw [extractZipInfo_skips eligible, List.filterMap_cons_none eligible]
      exact inductionHypothesis sound done small
    | some member =>
      have first := extractZipInfo_start plain sound small eligible
      rw [List.filterMap_cons_some eligible, zipRaises]
      cases raises : memberRaises readers directoryName directory.keys done.1 member with
      | true =>
        rw [raises, if_pos rfl] at first
        obtain ⟨error, after, ran⟩ := first
        rw [ran]
        exact ⟨error, after, rfl⟩
      | false =>
        rw [raises, if_neg Bool.false_ne_true] at first
        obtain ⟨files, after, ran, still, keys⟩ := first
        rw [ran, Bool.false_or, ← keys]
        simp only [memberRaises, Bool.or_eq_false_iff, decide_eq_false_iff_not, not_lt] at raises
        exact inductionHypothesis still (done.1 + member.decompressed, files) raises.2

end Zip

/-! ### How a tar archive fails -/

section Tar

variable (readers : BlobReaders)

/-- How the extraction of a tar archive ends, when some names are taken and some octets counted: the
names that are taken then, and the first exception, if there is one. -/
def tarEnd (taken : List Text) (total : Nat) : List TarInfo → List Text × Option UnpackError
  | [] => (taken, none)
  | info :: rest =>
    match info.limitError total with
    | some error => (taken, some error)
    | none =>
      match info.member with
      | none => tarEnd taken (total + info.counted) rest
      | some member =>
        let name := nextName taken member.originalName member.originalName
        match openFailure readers member.originalName name member.opened with
        | some error => (taken, some (.library error))
        | none =>
          match member.streamFailure with
          | some error => (taken ++ [name], some (.library error))
          | none => tarEnd (taken ++ [name]) (total + info.counted) rest

variable {readers} {directory : Directory} {done : Nat × List ExtractedFile} {info : TarInfo}

/-- A tar archive ends as its members tell. -/
theorem tar_start (sound : SoundDirectory readers directory) (done : Nat × List ExtractedFile)
    (infos : List TarInfo) :
    ∃ after, after.keys = (tarEnd readers directory.keys done.1 infos).1 ∧
      match (tarEnd readers directory.keys done.1 infos).2 with
      | some error => (infos.foldlM (extractTarInfo readers) done).start directory =
          (.error error, after)
      | none => ∃ next, (infos.foldlM (extractTarInfo readers) done).start directory =
          (.ok next, after) := by
  induction infos generalizing done directory with
  | nil => exact ⟨directory, rfl, done, rfl⟩
  | cons info rest inductionHypothesis =>
    have kept := extracts_extractTarInfo readers done info directory sound directory rfl
    rw [List.foldlM_cons, Attempt.start_bind, tarEnd]
    cases limit : info.limitError done.1 with
    | some error =>
      rw [extractTarInfo_exceeds limit]
      exact ⟨directory, rfl, rfl⟩
    | none =>
      rw [extractTarInfo_eq limit] at kept ⊢
      cases eligible : info.member with
      | none => exact inductionHypothesis sound (done.1 + info.counted, done.2)
      | some member =>
        rw [eligible] at kept
        dsimp only at kept ⊢
        rw [Attempt.start_bind] at kept ⊢
        have chosen := chosenName_eq directory member.originalName member.originalName
        cases opening : openFailure readers member.originalName
            (nextName directory.keys member.originalName member.originalName) member.opened with
        | some error =>
          rw [openMember_fails sound (chosen ▸ opening)]
          exact ⟨directory, rfl, rfl⟩
        | none =>
          obtain ⟨stream, opens, accepted, ran⟩ := openMember_opens sound (chosen ▸ opening)
          rw [ran, chosen] at kept ⊢
          dsimp only at kept ⊢
          rw [Attempt.start_bind, copyTar_start] at kept ⊢
          have created : AddsFile directory _ [] (directory.set _ []) :=
            addsFile_set (chosen ▸ get_chosenName directory _ _)
          have keys := (created.set stream.chunks.flatten).keys
          have streaming : member.streamFailure = stream.failure := by
            rw [Member.streamFailure, opens]
          rw [streaming]
          cases failure : stream.failure with
          | some error => exact ⟨_, keys, rfl⟩
          | none =>
            rw [failure] at kept
            rw [← keys]
            exact inductionHypothesis kept.1 (done.1 + info.counted, done.2 ++ [ExtractedFile.of
              (nextName directory.keys member.originalName member.originalName)
              member.originalName info.size])

end Tar

/-! ### The formats -/

/-- The archive that a blob is. -/
inductive Archive where
  | zip (infos : List ZipInfo)
  | tar (infos : List TarInfo)

/-- The eligible members of an archive, in its order. -/
def Archive.members : Archive → List Member
  | .zip infos => infos.filterMap ZipInfo.member
  | .tar infos => infos.filterMap TarInfo.member

/-- An archive within the limits: what is decompressed of a zip archive, and what the regular files
of a tar archive count. -/
def Archive.WithinLimits : Archive → Prop
  | .zip infos =>
    ((infos.filterMap ZipInfo.member).map Member.decompressed).sum ≤ maxDecompressedSize
  | .tar infos => (infos.map TarInfo.counted).sum ≤ maxDecompressedSize

/-- The names of the eligible members of an archive with their contents. -/
def Archive.files (archive : Archive) : List (Text × Option (List UInt8)) :=
  archive.members.map Member.file

section Formats

variable (readers : BlobReaders)

/-- What a blob is to the readers, whatever the unpacker takes it for: a zip archive, or a tar
archive, by itself or compressed by gzip. -/
inductive IsArchive (content : List UInt8) : Archive → Prop
  | zip {infos : List ZipInfo} (opens : readers.openZip content = .ok infos) :
    IsArchive content (.zip infos)
  | tar {infos : List TarInfo} (opens : readers.openTar content = .ok infos) :
    IsArchive content (.tar infos)
  | gzip {decompressed : List UInt8} {infos : List TarInfo}
    (read : gunzipChunks (readers.gunzip content).failure [] (readers.gunzip content).chunks =
      .ok decompressed)
    (opens : readers.openTar decompressed = .ok infos) : IsArchive content (.tar infos)

/-- Whether extracting the members of an archive raises. -/
def Archive.raises (directoryName : Text) : Archive → Bool
  | .zip infos => zipRaises readers directoryName [] 0 (infos.filterMap ZipInfo.member)
  | .tar infos => (tarEnd readers [] 0 infos).2.isSome

/-- Why the extraction of a tar archive raises, if it does, and the names that are taken then. -/
def tarFailure (content : List UInt8) : Option (UnpackError × List Text) :=
  match readers.openTar content with
  | .error error => some (.library error, [])
  | .ok infos =>
    match tarEnd readers [] 0 infos with
    | (left, some error) => some (error, left)
    | (_, none) => none

/-- The octets that are kept as one file in a format, if the blob is not extracted, and the names
that an attempt has taken by then. -/
def keptOctets (content : List UInt8) : BlobFormat → Option (List UInt8 × List Text)
  | .zip => none
  | .tar => none
  | .gzip =>
    match gunzipChunks (readers.gunzip content).failure [] (readers.gunzip content).chunks with
    | .error _ => none
    | .ok decompressed => if isTar decompressed then none else some (decompressed, [])
  | .unknown =>
    match tarFailure readers content with
    | some (error, left) => if (tarError error).isValueError then some (content, left) else none
    | none => none

/-- The archive that some octets are in a format. A compressed stream is one if there is a tar
archive in it. -/
def archiveIn (content : List UInt8) : BlobFormat → Option Archive
  | .zip => (readers.openZip content).toOption.map .zip
  | .gzip =>
    match gunzipChunks (readers.gunzip content).failure [] (readers.gunzip content).chunks with
    | .error _ => none
    | .ok decompressed =>
      if isTar decompressed then (readers.openTar decompressed).toOption.map .tar else none
  | .tar => (readers.openTar content).toOption.map .tar
  | .unknown => (readers.openTar content).toOption.map .tar

/-- The format that a blob is unpacked in. -/
def blobFormat (content : List UInt8) (contentType : Text) : BlobFormat :=
  (detectFormat content).getD (hintedFormat contentType)

/-- The name that a blob is kept under as one file. -/
def rawName (content : List UInt8) (targetName : Text) : Text :=
  targetName ++ Json.text "_telemetry" ++
    Json.text (if (Json.decodeUtf8 content).isSome then ".json" else ".bin")

/-- An extraction from an empty directory that is without loss when it returns, and writes nothing
but direct children in any case. -/
def ExtractsWhole (members : List Member) (action : Unpacking (List ExtractedFile)) : Prop :=
  Attempt.Ensures (fun directory => directory = Table.empty) action
    (fun files directory => LosslessExtraction members files directory ∧
      SoundDirectory readers directory)
    (fun _ directory => SoundDirectory readers directory)

variable {readers} {directoryName safeName : Text} {content : List UInt8}

theorem extractZip_eq {infos : List ZipInfo} (opens : readers.openZip content = .ok infos) :
    extractZip readers directoryName content = (do
      let done ← infos.foldlM (extractZipInfo readers directoryName) (0, [])
      return done.2) := by
  unfold extractZip
  rw [opens]
  rfl

theorem extractZip_whole (plain : slash ∉ directoryName) {infos : List ZipInfo}
    (opens : readers.openZip content = .ok infos) :
    ExtractsWhole readers (infos.filterMap ZipInfo.member)
      (extractZip readers directoryName content) := by
  unfold ExtractsWhole
  rw [extractZip_eq opens]
  exact Attempt.ensures_bind ((extracts_extractZipInfo plain).run infos) fun done =>
    Attempt.ensures_pure fun _ holds => holds

theorem extractTar_eq {infos : List TarInfo} (opens : readers.openTar content = .ok infos) :
    extractTar readers content = tryCatch (do
      let done ← infos.foldlM (extractTarInfo readers) (0, [])
      return done.2) fun error => throw (tarError error) := by
  unfold extractTar
  rw [opens]
  rfl

theorem extractTar_whole {infos : List TarInfo} (opens : readers.openTar content = .ok infos) :
    ExtractsWhole readers (infos.filterMap TarInfo.member) (extractTar readers content) := by
  unfold ExtractsWhole
  rw [extractTar_eq opens]
  refine Attempt.ensures_tryCatch (Attempt.ensures_bind
    ((extracts_extractTarInfo readers).run infos) fun done =>
      Attempt.ensures_pure fun _ holds => holds) fun error => ?_
  exact fun _ sound => sound

/-- How the extraction of a zip archive ends. -/
theorem extractZip_ends (plain : slash ∉ directoryName) {infos : List ZipInfo}
    (opens : readers.openZip content = .ok infos) :
    if (Archive.zip infos).raises readers directoryName then
      ∃ error after, (extractZip readers directoryName content).start Table.empty =
        (.error error, after)
    else ∃ files after, (extractZip readers directoryName content).start Table.empty =
        (.ok files, after) ∧ LosslessExtraction (Archive.zip infos).members files after := by
  have whole := extractZip_whole plain opens Table.empty rfl
  have run : if (Archive.zip infos).raises readers directoryName then _ else _ :=
    zip_start plain (soundDirectory_empty readers) (0, []) (Nat.zero_le _) infos
  rw [extractZip_eq opens] at whole ⊢
  rw [Attempt.start_bind] at whole ⊢
  cases raises : (Archive.zip infos).raises readers directoryName with
  | true =>
    rw [raises, if_pos rfl] at run
    obtain ⟨error, after, ran⟩ := run
    rw [ran]
    exact ⟨error, after, rfl⟩
  | false =>
    rw [raises, if_neg Bool.false_ne_true] at run
    obtain ⟨next, after, ran⟩ := run
    rw [ran] at whole ⊢
    exact ⟨next.2, after, rfl, whole.1⟩

/-- How the extraction of what may be a tar archive ends. -/
theorem extractTar_ends (readers : BlobReaders) (content : List UInt8) :
    match tarFailure readers content with
    | some (error, left) => ∃ after : Directory, after.keys = left ∧
        (extractTar readers content).start Table.empty = (.error (tarError error), after)
    | none => ∃ infos files after, readers.openTar content = .ok infos ∧
        (extractTar readers content).start Table.empty = (.ok files, after) ∧
        LosslessExtraction (Archive.tar infos).members files after := by
  unfold tarFailure
  cases opens : readers.openTar content with
  | error error =>
    refine ⟨Table.empty, rfl, ?_⟩
    rw [extractTar, opens]
    rfl
  | ok infos =>
    have whole := extractTar_whole opens Table.empty rfl
    obtain ⟨after, keys, run⟩ := tar_start (soundDirectory_empty readers) (0, []) infos
    rw [show (Table.empty : Directory).keys = [] from rfl] at keys run
    rw [extractTar_eq opens] at whole ⊢
    rw [Attempt.start_tryCatch, Attempt.start_bind] at whole ⊢
    dsimp only at keys run ⊢
    generalize tarEnd readers [] 0 infos = ended at keys run ⊢
    obtain ⟨left, _ | error⟩ := ended
    · obtain ⟨next, ran⟩ := run
      dsimp only at ran ⊢
      rw [ran] at whole ⊢
      exact ⟨infos, next.2, after, rfl, rfl, whole.1⟩
    · dsimp only at run ⊢
      rw [run]
      exact ⟨after, keys, rfl⟩

/-! ### Keeping a blob as one file -/

theorem slash_notMem_safeTargetName (targetName : Text) :
    slash ∉ safeTargetName targetName := by
  unfold safeTargetName
  dsimp only
  split
  · decide
  · intro member
    obtain ⟨point, _, same⟩ := List.mem_map.mp (List.mem_of_mem_take member)
    split at same
    next safe =>
      subst same
      exact absurd safe (by decide)
    next => exact absurd same (by decide)

theorem isChild_rawName (content : List UInt8) {targetName : Text} (plain : slash ∉ targetName) :
    IsChild (rawName content targetName) := by
  have marked : ∀ name ∈ ownNames, Json.point '_'.toNat ∉ name := by decide
  have suffixes : slash ∉ Json.text ".json" ∧ slash ∉ Json.text ".bin" ∧
      slash ∉ Json.text "_telemetry" := by decide
  constructor
  · intro member
    rw [rawName, List.mem_append, List.mem_append] at member
    rcases member with (inTarget | inMiddle) | inExtension
    · exact plain inTarget
    · exact suffixes.2.2 inMiddle
    · split at inExtension
      · exact suffixes.1 inExtension
      · exact suffixes.2.1 inExtension
  · intro own
    refine marked _ own (List.mem_append_left _ (List.mem_append_right _ ?_))
    decide

theorem saveRaw_eq (content : List UInt8) (targetName : Text) :
    saveRaw readers content targetName = (do
      createFile readers (rawName content targetName)
      modify fun directory => directory.set (rawName content targetName) content
      return [ExtractedFile.of (rawName content targetName) (rawName content targetName)
        content.length]) := rfl

theorem saveRaw_fails {directory : Directory} {targetName : Text} {error : LibraryError}
    (refused : readers.nameError (rawName content targetName) = some error) :
    (saveRaw readers content targetName).start directory =
      (.error (.library error), directory) := by
  rw [saveRaw_eq, Attempt.start_bind, createFile_fails refused]

theorem saveRaw_saves {directory : Directory} {targetName : Text}
    (accepted : readers.nameError (rawName content targetName) = none) :
    (saveRaw readers content targetName).start directory =
      (.ok [ExtractedFile.of (rawName content targetName) (rawName content targetName)
          content.length],
        (directory.set (rawName content targetName) []).set (rawName content targetName)
          content) := by
  rw [saveRaw_eq, Attempt.start_bind, createFile_creates accepted]
  rfl

/-- Keeping a blob as one file leaves a directory sound. -/
theorem saveRaw_sound {targetName : Text} (plain : slash ∉ targetName) :
    Attempt.Ensures (SoundDirectory readers) (saveRaw readers content targetName)
      (fun _ after => SoundDirectory readers after)
      (fun _ after => SoundDirectory readers after) := by
  intro directory sound
  cases refused : readers.nameError (rawName content targetName) with
  | some error =>
    rw [saveRaw_fails refused]
    exact sound
  | none =>
    have child := isChild_rawName content plain
    rw [saveRaw_saves refused]
    exact (sound.set child refused []).set child refused content

/-! ### Extraction in any format -/

theorem extractZip_sound (plain : slash ∉ directoryName) (content : List UInt8) :
    Attempt.Ensures (fun directory => directory = Table.empty)
      (extractZip readers directoryName content)
      (fun _ after => SoundDirectory readers after)
      (fun _ after => SoundDirectory readers after) := by
  cases opens : readers.openZip content with
  | ok infos =>
    exact (extractZip_whole plain opens).imp (fun _ _ both => both.2) fun _ _ sound => sound
  | error error =>
    rintro _ rfl
    rw [extractZip, opens]
    exact soundDirectory_empty readers

theorem extractTar_sound (content : List UInt8) :
    Attempt.Ensures (fun directory => directory = Table.empty) (extractTar readers content)
      (fun _ after => SoundDirectory readers after)
      (fun _ after => SoundDirectory readers after) := by
  cases opens : readers.openTar content with
  | ok infos =>
    exact (extractTar_whole opens).imp (fun _ _ both => both.2) fun _ _ sound => sound
  | error error =>
    rintro _ rfl
    rw [extractTar, opens]
    exact soundDirectory_empty readers

theorem extractGzip_eq (content : List UInt8) (targetName : Text) :
    extractGzip readers content targetName =
      match gunzipChunks (readers.gunzip content).failure [] (readers.gunzip content).chunks with
      | .error error => throw error
      | .ok decompressed =>
        if isTar decompressed then extractTar readers decompressed
        else saveRaw readers decompressed targetName := by
  unfold extractGzip
  dsimp only
  cases gunzipChunks (readers.gunzip content).failure [] (readers.gunzip content).chunks <;> rfl

theorem tryExtractTarDirect_sound (content : List UInt8) :
    Attempt.Ensures (fun directory => directory = Table.empty)
      (tryExtractTarDirect readers content)
      (fun _ after => SoundDirectory readers after)
      (fun _ after => SoundDirectory readers after) := by
  refine Attempt.ensures_tryCatch (Attempt.ensures_bind (extractTar_sound content) fun files =>
    Attempt.ensures_pure fun _ sound => sound) fun error => ?_
  intro after sound
  cases kind : error.isValueError <;> exact sound

/-- In any format, an extraction writes nothing but direct children. -/
theorem extractAs_sound (plain : slash ∉ directoryName) (plainSafe : slash ∉ safeName)
    (content : List UInt8) (format : BlobFormat) :
    Attempt.Ensures (fun directory => directory = Table.empty)
      (extractAs readers directoryName safeName content format)
      (fun _ after => SoundDirectory readers after)
      (fun _ after => SoundDirectory readers after) := by
  cases format with
  | zip => exact extractZip_sound plain content
  | tar => exact extractTar_sound content
  | gzip =>
    rw [extractAs, extractGzip_eq]
    split
    · rintro _ rfl
      exact soundDirectory_empty readers
    next decompressed _ =>
      split
      · exact extractTar_sound decompressed
      · rintro _ rfl
        exact saveRaw_sound plainSafe _ (soundDirectory_empty readers)
  | unknown =>
    refine Attempt.ensures_bind (tryExtractTarDirect_sound content) fun tried => ?_
    cases tried with
    | some files => exact Attempt.ensures_pure fun _ sound => sound
    | none => exact saveRaw_sound plainSafe

end Formats

end Gyanam
