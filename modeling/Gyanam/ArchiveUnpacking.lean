/-
This file proves when the unpacking of an archive is contained and without loss.
An archive is extracted into a new directory below the base directory, and
whatever raises out of the extraction, that directory is removed. What an
extraction returns is without loss for the archive that the blob was taken for.

So an archive is lost when the blob is taken for something else. What a gzip
stream holds is taken for a tar archive by its mark alone, and else kept as one
file. A blob that nothing marks is tried as a tar archive. When that raises what
counts as a ValueError, the blob is taken for no archive, though some of its
members may be there by then, and it is kept as one file beside them.
-/

import Gyanam.ArchiveFormats

namespace Gyanam

open Json (Text)

/-! ### The base directory -/

/-- The base directory: the directories of the extractions, by name. -/
abbrev BaseDirectory := Table Text Directory

/-- Extract into a directory below the base directory. -/
def inDirectory {Value : Type} (directoryName : Text) (action : Unpacking Value) :
    Attempt BaseDirectory UnpackError Value :=
  ExceptT.mk fun base =>
    let ran := action.start ((base.get directoryName).getD Table.empty)
    (ran.1, base.set directoryName ran.2)

section Base

variable (readers : BlobReaders)

/-- Unpack a blob into a new directory below the base directory. Whatever raises on the way, the
directory is removed. -/
def unpackBelow (maxBlobSize : Nat) (content : List UInt8) (contentType targetName : Text) :
    Attempt BaseDirectory UnpackError (List ExtractedFile) := do
  if maxBlobSize < content.length then throw (.blobTooLarge content.length maxBlobSize)
  if content.length = 0 then throw .emptyBlob
  let safeName := safeTargetName targetName
  let directoryName := readers.mkdtemp (safeName ++ Json.text "_")
  modify fun base => base.set directoryName Table.empty
  tryCatch
    (inDirectory directoryName
      (extractAs readers directoryName safeName content (blobFormat content contentType)))
    fun error => do
      modify fun base => base.remove directoryName
      throw (.failed error)

/-- The directory that a blob of a target is unpacked into. -/
def extractionName (targetName : Text) : Text :=
  readers.mkdtemp (safeTargetName targetName ++ Json.text "_")

/-- How an extraction from an empty directory ends. -/
def extractionOf (content : List UInt8) (contentType targetName : Text) :
    Except UnpackError (List ExtractedFile) × Directory :=
  (extractAs readers (extractionName readers targetName) (safeTargetName targetName) content
    (blobFormat content contentType)).start Table.empty

variable {readers} {maxBlobSize : Nat} {content : List UInt8} {contentType targetName : Text}

theorem start_inDirectory {Value : Type} (directoryName : Text) (action : Unpacking Value)
    (base : BaseDirectory) :
    (inDirectory directoryName action).start base =
      ((action.start ((base.get directoryName).getD Table.empty)).1,
        base.set directoryName
          (action.start ((base.get directoryName).getD Table.empty)).2) := rfl

/-- How a blob that is not refused is unpacked. -/
theorem unpackBelow_start (small : content.length ≤ maxBlobSize) (filled : content ≠ [])
    (base : BaseDirectory) :
    (unpackBelow readers maxBlobSize content contentType targetName).start base =
      match extractionOf readers content contentType targetName with
      | (.ok files, directory) =>
        (.ok files, (base.set (extractionName readers targetName) Table.empty).set
          (extractionName readers targetName) directory)
      | (.error error, directory) =>
        (.error (.failed error), ((base.set (extractionName readers targetName) Table.empty).set
          (extractionName readers targetName) directory).remove
            (extractionName readers targetName)) := by
  have created : ((base.set (extractionName readers targetName) Table.empty).get
      (extractionName readers targetName)).getD Table.empty = Table.empty := by
    rw [Table.get_set, if_pos rfl]
    rfl
  have present : content.length ≠ 0 := mt List.length_eq_zero_iff.mp filled
  unfold unpackBelow
  rw [if_neg (not_lt.mpr small), if_neg present]
  dsimp only
  rw [Attempt.start_bind, Attempt.start_modify]
  dsimp only
  rw [Attempt.start_tryCatch, start_inDirectory]
  rw [show readers.mkdtemp (safeTargetName targetName ++ Json.text "_") =
    extractionName readers targetName from rfl, created]
  cases ran : extractionOf readers content contentType targetName with
  | mk outcome directory =>
    rw [show (extractAs readers (extractionName readers targetName) (safeTargetName targetName)
      content (blobFormat content contentType)).start Table.empty = (outcome, directory) from ran]
    cases outcome with
    | ok files => rfl
    | error error => rfl

theorem unpack_start (small : content.length ≤ maxBlobSize) (filled : content ≠ [])
    (directory : Directory) :
    (unpack readers maxBlobSize content contentType targetName).start directory =
      match extractionOf readers content contentType targetName with
      | (.ok files, extracted) => (.ok files, extracted)
      | (.error error, _) => (.error (.failed error), Table.empty) := by
  have present : content.length ≠ 0 := mt List.length_eq_zero_iff.mp filled
  unfold unpack
  rw [if_neg (not_lt.mpr small), if_neg present]
  dsimp only
  rw [Attempt.start_bind, Attempt.start_modify]
  dsimp only
  rw [Attempt.start_tryCatch]
  cases ran : extractionOf readers content contentType targetName with
  | mk outcome extracted =>
    unfold extractionOf extractionName blobFormat at ran
    rw [ran]
    cases outcome with
    | ok files => rfl
    | error error => rfl

/-- Below the base directory a blob is unpacked as it is by itself: with the same outcome, and when
it returns, into a directory with the same files. -/
theorem unpackBelow_eq_unpack (base : BaseDirectory) (directory : Directory) :
    ((unpackBelow readers maxBlobSize content contentType targetName).start base).1 =
        ((unpack readers maxBlobSize content contentType targetName).start directory).1 ∧
      ∀ files extracted,
        (unpack readers maxBlobSize content contentType targetName).start directory =
          (.ok files, extracted) →
        ((unpackBelow readers maxBlobSize content contentType targetName).start base).2.get
          (extractionName readers targetName) = some extracted := by
  by_cases large : maxBlobSize < content.length
  · unfold unpackBelow unpack
    rw [if_pos large, if_pos large]
    exact ⟨rfl, fun _ _ returned => nomatch returned⟩
  · by_cases empty : content = []
    · unfold unpackBelow unpack
      rw [if_neg large, if_neg large, if_pos (List.length_eq_zero_iff.mpr empty),
        if_pos (List.length_eq_zero_iff.mpr empty)]
      exact ⟨rfl, fun _ _ returned => nomatch returned⟩
    · rw [unpackBelow_start (not_lt.mp large) empty, unpack_start (not_lt.mp large) empty]
      cases extractionOf readers content contentType targetName with
      | mk outcome extracted =>
        cases outcome with
        | error error => exact ⟨rfl, fun _ _ returned => nomatch returned⟩
        | ok files =>
          refine ⟨rfl, ?_⟩
          rintro _ _ ⟨⟩
          rw [Table.get_set, if_pos rfl]

/-! ### What is promised -/

variable (readers maxBlobSize content contentType targetName)

/-- The unpacking of an archive is contained and without loss: nothing but direct children of its
directory is written, and nothing in other directories; the loop over numbered names ends, for more
tries change nothing; what is returned has an entry for each eligible member; and when it raises,
the directory is not there. -/
structure UnpacksWhole (base : BaseDirectory) (archive : Archive) : Prop where
  contained : ∀ name ∈ (extractionOf readers content contentType targetName).2.keys, IsChild name
  others : ∀ other, other ≠ extractionName readers targetName →
    ((unpackBelow readers maxBlobSize content contentType targetName).start base).2.get other =
      base.get other
  renamed : ∀ (directory : Directory) (stem suffix : Text) (more : Nat),
    (freeName readers stem suffix (directory.rows.length + 1 + more) 1).start directory =
      (freeName readers stem suffix (directory.rows.length + 1) 1).start directory
  returned : ∀ files after,
    (unpackBelow readers maxBlobSize content contentType targetName).start base =
      (.ok files, after) →
    ∃ directory, after.get (extractionName readers targetName) = some directory ∧
      LosslessExtraction archive.members files directory
  raised : ∀ error after,
    (unpackBelow readers maxBlobSize content contentType targetName).start base =
      (.error error, after) →
    after.get (extractionName readers targetName) = none

/-- A blob is taken for an archive: what is extracted of it, if nothing raises, has the members of
the archive; and it is not kept as one file, unless that is the only member, under its own name. -/
structure TakenFor (archive : Archive) : Prop where
  extracted : ∀ found, archiveIn readers content (blobFormat content contentType) = some found →
    found.raises readers (extractionName readers targetName) = false →
      found.files = archive.files
  kept : ∀ octets left,
    keptOctets readers content (blobFormat content contentType) = some (octets, left) →
    readers.nameError (rawName octets (safeTargetName targetName)) = none →
      archive.files = [(rawName octets (safeTargetName targetName), some octets)] ∧
        ∀ name ∈ left, name = rawName octets (safeTargetName targetName)

variable {readers maxBlobSize content contentType targetName}

theorem extractionOf_sound (plain : slash ∉ extractionName readers targetName)
    (content : List UInt8) (contentType : Text) :
    SoundDirectory readers (extractionOf readers content contentType targetName).2 := by
  have ensured : Attempt.Ensures _ (extractAs readers _ _ _ _) _ _ := extractAs_sound plain
    (slash_notMem_safeTargetName targetName) content (blobFormat content contentType)
  have kept := ensured Table.empty rfl
  unfold extractionOf
  cases ran : (extractAs readers (extractionName readers targetName) (safeTargetName targetName)
      content (blobFormat content contentType)).start Table.empty with
  | mk outcome after =>
    rw [ran] at kept
    cases outcome <;> exact kept

theorem ExtractsWhole.returned {members : List Member} {action : Unpacking (List ExtractedFile)}
    (extracts : ExtractsWhole readers members action) {files : List ExtractedFile}
    {directory : Directory} (ran : action.start Table.empty = (.ok files, directory)) :
    LosslessExtraction members files directory := by
  have holds := extracts Table.empty rfl
  rw [ran] at holds
  exact holds.1

/-- How the extraction of a blob in a format ends: an archive is extracted, the blob is kept as one
file, or the extraction raises. -/
inductive ExtractionEnds (readers : BlobReaders) (directoryName safeName : Text)
    (content : List UInt8)
    (format : BlobFormat) : Except UnpackError (List ExtractedFile) × Directory → Prop
  | extracted {archive : Archive} {files : List ExtractedFile} {after : Directory}
    (found : archiveIn readers content format = some archive)
    (fine : archive.raises readers directoryName = false)
    (unkept : keptOctets readers content format = none)
    (lossless : LosslessExtraction archive.members files after) :
    ExtractionEnds readers directoryName safeName content format (.ok files, after)
  | kept {octets : List UInt8} {after : Directory}
    (failed : ∀ archive, archiveIn readers content format = some archive →
      archive.raises readers directoryName = true)
    (saved : keptOctets readers content format = some (octets, after.keys)) :
    ExtractionEnds readers directoryName safeName content format
      ((saveRaw readers octets safeName).start after)
  | raised {error : UnpackError} {after : Directory}
    (failed : ∀ archive, archiveIn readers content format = some archive →
      archive.raises readers directoryName = true)
    (unkept : keptOctets readers content format = none) :
    ExtractionEnds readers directoryName safeName content format (.error error, after)

theorem toOption_map_eq_some {Error Value Result : Type} {outcome : Except Error Value}
    {make : Value → Result} {result : Result} :
    outcome.toOption.map make = some result ↔
      ∃ value, outcome = .ok value ∧ make value = result := by
  cases outcome <;> simp [Except.toOption]

/-- A tar archive raises exactly when its extraction has a failure. -/
theorem raises_iff_tarFailure {infos : List TarInfo} (opens : readers.openTar content = .ok infos)
    (directoryName : Text) :
    (Archive.tar infos).raises readers directoryName = (tarFailure readers content).isSome := by
  rw [Archive.raises, tarFailure, opens]
  dsimp only
  generalize tarEnd readers [] 0 infos = ended
  obtain ⟨left, _ | error⟩ := ended <;> rfl

/-- What the extraction of a tar archive comes to, in a format that keeps no file. -/
theorem extractTar_extractionEnds {directoryName safeName : Text} {octets : List UInt8}
    {format : BlobFormat}
    (here : archiveIn readers content format = (readers.openTar octets).toOption.map .tar)
    (unkept : keptOctets readers content format = none) :
    ExtractionEnds readers directoryName safeName content format
      ((extractTar readers octets).start Table.empty) := by
  have ended := extractTar_ends readers octets
  cases failure : tarFailure readers octets with
  | none =>
    rw [failure] at ended
    obtain ⟨infos, files, after, opens, ran, lossless⟩ := ended
    have found : archiveIn readers content format = some (.tar infos) := by
      rw [here, opens]
      rfl
    rw [ran]
    refine .extracted found ?_ unkept lossless
    rw [raises_iff_tarFailure opens, failure]
    rfl
  | some failed =>
    rw [failure] at ended
    obtain ⟨after, _, ran⟩ := ended
    rw [ran]
    refine .raised (fun archive found => ?_) unkept
    obtain ⟨infos, opens, rfl⟩ := toOption_map_eq_some.mp (here.symm.trans found)
    rw [raises_iff_tarFailure opens, failure]
    rfl

/-- What an extraction in a format comes to. -/
theorem extractAs_ends {directoryName : Text} (plain : slash ∉ directoryName) (safeName : Text)
    (content : List UInt8) (format : BlobFormat) :
    ExtractionEnds readers directoryName safeName content format
      ((extractAs readers directoryName safeName content format).start Table.empty) := by
  cases format with
  | zip =>
    rw [extractAs]
    cases opens : readers.openZip content with
    | error error =>
      rw [extractZip, opens]
      refine .raised (fun archive found => ?_) rfl
      rw [archiveIn, opens] at found
      cases found
    | ok infos =>
      have here : archiveIn readers content .zip = some (.zip infos) := by
        rw [archiveIn, opens]
        rfl
      have ended := extractZip_ends plain opens
      cases raises : (Archive.zip infos).raises readers directoryName with
      | true =>
        rw [raises, if_pos rfl] at ended
        obtain ⟨error, after, ran⟩ := ended
        rw [ran]
        refine .raised (fun archive found => ?_) rfl
        rwa [← Option.some.inj (here.symm.trans found)]
      | false =>
        rw [raises, if_neg Bool.false_ne_true] at ended
        obtain ⟨files, after, ran, lossless⟩ := ended
        rw [ran]
        exact .extracted here raises rfl lossless
  | tar => exact extractTar_extractionEnds rfl rfl
  | gzip =>
    rw [extractAs, extractGzip_eq]
    cases read : gunzipChunks (readers.gunzip content).failure []
      (readers.gunzip content).chunks with
    | error error =>
      refine .raised (fun archive found => ?_) (by rw [keptOctets, read])
      rw [archiveIn, read] at found
      cases found
    | ok decompressed =>
      dsimp only
      by_cases inside : isTar decompressed
      · rw [if_pos inside]
        refine extractTar_extractionEnds ?_ ?_
        · rw [archiveIn, read]
          exact if_pos inside
        · rw [keptOctets, read]
          exact if_pos inside
      · rw [if_neg inside]
        refine .kept (fun archive found => ?_) ?_
        · rw [archiveIn, read] at found
          dsimp only at found
          rw [if_neg inside] at found
          cases found
        · rw [keptOctets, read]
          exact if_neg inside
  | unknown =>
    have ended := extractTar_ends readers content
    rw [extractAs, tryExtractTarDirect, Attempt.start_bind, Attempt.start_tryCatch,
      Attempt.start_bind]
    cases failure : tarFailure readers content with
    | none =>
      rw [failure] at ended
      obtain ⟨infos, files, after, opens, ran, lossless⟩ := ended
      have found : archiveIn readers content .unknown = some (.tar infos) := by
        rw [archiveIn, opens]
        rfl
      rw [ran]
      refine .extracted found ?_ (by rw [keptOctets, failure]) lossless
      rw [raises_iff_tarFailure opens, failure]
      rfl
    | some failed =>
      obtain ⟨error, left⟩ := failed
      rw [failure] at ended
      obtain ⟨after, keys, ran⟩ := ended
      have raises : ∀ archive, archiveIn readers content .unknown = some archive →
          archive.raises readers directoryName = true := by
        intro archive found
        obtain ⟨infos, opens, rfl⟩ := toOption_map_eq_some.mp found
        rw [raises_iff_tarFailure opens, failure]
        rfl
      rw [ran]
      dsimp only
      cases swallowed : (tarError error).isValueError with
      | true =>
        refine .kept raises ?_
        rw [keptOctets, failure, keys]
        exact if_pos swallowed
      | false =>
        refine .raised raises ?_
        rw [keptOctets, failure]
        exact if_neg (mt swallowed.symm.trans Bool.false_ne_true)

/-- A blob that is kept as one file is without loss for just those members that are that file, in a
directory without others. -/
theorem saveRaw_lossless_iff {members : List Member} {octets : List UInt8} {targetName : Text}
    {after : Directory} :
    LosslessExtraction members
        [ExtractedFile.of (rawName octets targetName) (rawName octets targetName) octets.length]
        ((after.set (rawName octets targetName) []).set (rawName octets targetName) octets) ↔
      members.map Member.file = [(rawName octets targetName, some octets)] ∧
        ∀ name ∈ after.keys, name = rawName octets targetName := by
  generalize rawName octets targetName = name
  have filed : ((after.set name []).set name octets).get name = some octets := by
    rw [Table.get_set, if_pos rfl]
  have keys : ((after.set name []).set name octets).keys = [name] ↔
      ∀ other ∈ after.keys, other = name := by
    have again : name ∈ (after.set name []).keys :=
      Table.mem_keys_iff.mpr ⟨[], by rw [Table.get_set, if_pos rfl]⟩
    rw [Table.keys_set_of_mem again]
    by_cases present : name ∈ after.keys
    · rw [Table.keys_set_of_mem present]
      constructor
      · intro same other member
        exact List.mem_singleton.mp (same ▸ member)
      · intro alone
        refine List.perm_singleton.mp ((List.perm_ext_iff_of_nodup after.nodup_keys
          (List.nodup_singleton name)).mpr fun other => ?_)
        rw [List.mem_singleton]
        exact ⟨alone other, fun same => same ▸ present⟩
    · rw [Table.keys_set_of_absent present, List.append_left_eq_self,
        List.eq_nil_iff_forall_not_mem]
      refine forall_congr' fun other => ⟨fun absent member => absurd member absent, ?_⟩
      intro alone member
      exact present (alone member ▸ member)
  constructor
  · intro lossless
    obtain ⟨same, _⟩ := isKeptAs_iff.mp lossless.entries
    refine ⟨?_, keys.mp lossless.paths⟩
    rw [same, List.map_singleton]
    exact congrArg (fun content => [(name, content)]) filed
  · rintro ⟨same, alone⟩
    refine ⟨isKeptAs_iff.mpr ⟨?_, ?_⟩, keys.mpr alone, List.nodup_singleton _⟩
    · rw [same, List.map_singleton]
      exact congrArg (fun content => [(name, content)]) filed.symm
    · intro file member
      rw [List.mem_singleton.mp member]
      exact Option.isSome_iff_exists.mpr ⟨octets, filed⟩

/-- What an extraction returns is without loss exactly when the blob was taken for the archive. -/
theorem extractionOf_lossless_iff (plain : slash ∉ extractionName readers targetName)
    (content : List UInt8) (contentType : Text) (archive : Archive) :
    (∀ files directory,
      extractionOf readers content contentType targetName = (.ok files, directory) →
        LosslessExtraction archive.members files directory) ↔
      TakenFor readers content contentType targetName archive := by
  have ended : ExtractionEnds readers _ _ _ _ _ :=
    extractAs_ends plain (safeTargetName targetName) content (blobFormat content contentType)
  generalize ran : (extractAs readers (extractionName readers targetName)
    (safeTargetName targetName) content (blobFormat content contentType)).start Table.empty =
      result at ended
  have same : extractionOf readers content contentType targetName = result := ran
  rw [same]
  cases ended with
  | @extracted other files after found fine unkept lossless =>
    constructor
    · intro whole
      refine ⟨fun found' here _ => ?_, fun octets left saved => ?_⟩
      · obtain rfl := Option.some.inj (found.symm.trans here)
        exact lossless.congr.mp (whole files after rfl)
      · cases unkept.symm.trans saved
    · intro taken files' directory returned
      obtain ⟨rfl, rfl⟩ : files = files' ∧ after = directory := by simpa using returned
      exact lossless.congr.mpr (taken.extracted other found fine)
  | @kept octets after failed saved =>
    have only : ∀ {found}, archiveIn readers content (blobFormat content contentType) =
        some found → found.raises readers (extractionName readers targetName) = false →
          found.files = archive.files := by
      intro found here fine
      cases (failed found here).symm.trans fine
    cases refused : readers.nameError (rawName octets (safeTargetName targetName)) with
    | some error =>
      rw [saveRaw_fails refused]
      refine iff_of_true (fun files directory returned => by simp at returned)
        ⟨fun _ => only, fun octets' left saved' accepted => ?_⟩
      obtain ⟨rfl, rfl⟩ := Prod.mk.inj (Option.some.inj (saved.symm.trans saved'))
      cases refused.symm.trans accepted
    | none =>
      rw [saveRaw_saves refused]
      constructor
      · intro whole
        refine ⟨fun _ => only, fun octets' left saved' _ => ?_⟩
        obtain ⟨rfl, rfl⟩ := Prod.mk.inj (Option.some.inj (saved.symm.trans saved'))
        exact saveRaw_lossless_iff.mp (whole _ _ rfl)
      · intro taken files directory returned
        obtain ⟨same, rfl⟩ := Prod.mk.inj returned
        rw [← Except.ok.inj same]
        exact saveRaw_lossless_iff.mpr (taken.kept octets after.keys saved refused)
  | raised failed unkept =>
    refine iff_of_true (fun files directory returned => by simp at returned)
      ⟨fun found here fine => ?_, fun octets left saved => ?_⟩
    · cases (failed found here).symm.trans fine
    · cases unkept.symm.trans saved

/-- What unpacking does to the base directory, by how the extraction ends. -/
theorem unpackBelow_get (readers : BlobReaders) (small : content.length ≤ maxBlobSize)
    (filled : content ≠ []) (contentType targetName : Text) (base : BaseDirectory) :
    ∃ after, (unpackBelow readers maxBlobSize content contentType targetName).start base =
        ((extractionOf readers content contentType targetName).1.mapError .failed, after) ∧
      (∀ other, other ≠ extractionName readers targetName → after.get other = base.get other) ∧
      after.get (extractionName readers targetName) =
        (extractionOf readers content contentType targetName).1.toOption.map fun _ =>
          (extractionOf readers content contentType targetName).2 := by
  rw [unpackBelow_start small filled]
  cases extractionOf readers content contentType targetName with
  | mk outcome directory =>
    cases outcome with
    | ok files =>
      refine ⟨_, rfl, fun other different => ?_, ?_⟩
      · rw [Table.get_set, if_neg different, Table.get_set, if_neg different]
      · rw [Table.get_set, if_pos rfl]
        rfl
    | error error =>
      refine ⟨_, rfl, fun other different => ?_, ?_⟩
      · rw [Table.get_remove, if_neg different, Table.get_set, if_neg different, Table.get_set,
          if_neg different]
      · rw [Table.get_remove, if_pos rfl]
        rfl

/-- What an archive is lost to, if its unpacking is not without loss: the blob is not taken for
it. -/
theorem takenFor_of_unpacksWhole {base : BaseDirectory} {archive : Archive}
    (plain : slash ∉ extractionName readers targetName)
    (small : content.length ≤ maxBlobSize) (filled : content ≠ [])
    (whole : UnpacksWhole readers maxBlobSize content contentType targetName base archive) :
    TakenFor readers content contentType targetName archive := by
  rw [← extractionOf_lossless_iff plain]
  intro files directory ran
  obtain ⟨after, started, _, own⟩ :=
    unpackBelow_get readers small filled contentType targetName base
  rw [ran] at started own
  obtain ⟨found, filed, lossless⟩ := whole.returned files after started
  obtain rfl : directory = found := Option.some.inj (own.symm.trans filed)
  exact lossless

/-- An archive that is marked as one, and that the reader of its format can open, is taken for what
it is. -/
theorem takenFor_of_marked {archive : Archive}
    (marked : blobFormat content contentType ≠ .unknown)
    (opens : archiveIn readers content (blobFormat content contentType) = some archive) :
    TakenFor readers content contentType targetName archive := by
  refine ⟨fun found here _ => ?_, fun octets left saved => ?_⟩
  · rw [Option.some.inj (opens.symm.trans here)]
  · cases format : blobFormat content contentType with
    | zip | tar =>
      rw [format] at saved
      cases saved
    | unknown => exact absurd format marked
    | gzip =>
      rw [format, keptOctets] at saved
      rw [format, archiveIn] at opens
      split at saved
      next => cases saved
      next decompressed read =>
        rw [read] at opens
        dsimp only at opens
        split at saved
        next => cases saved
        next unmarked =>
          rw [if_neg unmarked] at opens
          cases opens

end Base

/-- A tar archive of two members that is compressed by bzip2. -/
def longNamedTar : List UInt8 := [
  0x42, 0x5A, 0x68, 0x39, 0x31, 0x41, 0x59, 0x26, 0x53, 0x59, 0xF6, 0x1C, 0x7C, 0x8C, 0x00, 0x00,
  0x9C, 0x7F, 0x80, 0xCD, 0x80, 0x00, 0x40, 0x40, 0x01, 0xFF, 0x80, 0x40, 0x04, 0x08, 0x10, 0x70,
  0xB9, 0x9E, 0x0A, 0x04, 0x08, 0x20, 0x00, 0x72, 0x19, 0x53, 0x4F, 0x50, 0x06, 0x80, 0x00, 0x64,
  0x32, 0x68, 0x36, 0x92, 0x93, 0xCA, 0x68, 0xD3, 0x40, 0x03, 0xD4, 0xF2, 0x40, 0x0F, 0xD6, 0xCB,
  0x96, 0x2B, 0x02, 0x42, 0x0F, 0xAA, 0xB1, 0x78, 0x84, 0x2D, 0xBB, 0xB3, 0xE0, 0x25, 0x17, 0x3D,
  0x64, 0x85, 0x36, 0x90, 0x94, 0xC0, 0x7A, 0x0F, 0x24, 0x19, 0xB7, 0xDB, 0x82, 0x9A, 0xE7, 0x78,
  0x81, 0x76, 0xAD, 0xB4, 0xA0, 0xA3, 0x95, 0x1D, 0x5B, 0xA2, 0x8A, 0x5D, 0x0C, 0x75, 0x7B, 0x31,
  0xC9, 0x94, 0x8D, 0xA2, 0x2C, 0x71, 0xCD, 0x0A, 0x41, 0x45, 0xAD, 0xD5, 0x4E, 0x1E, 0xBE, 0x4E,
  0x4B, 0xFE, 0x28, 0x78, 0x35, 0x08, 0x05, 0x80, 0x40, 0x5F, 0xE2, 0xEE, 0x48, 0xA7, 0x0A, 0x12,
  0x1E, 0xC3, 0x8F, 0x91, 0x80]

/-- Its members. The name of the second has 256 characters. -/
def longNamedMembers : List TarInfo := [
  ⟨Json.text "a.json", .regular, 2, .ok ⟨[[0x7B, 0x7D]], none⟩⟩,
  ⟨List.replicate 256 (Json.point 'b'.toNat), .regular, 2, .ok ⟨[[0x7B, 0x7D]], none⟩⟩]

/-- Readers that know this archive, on a file system that limits the length of names. -/
def longNamedReaders (limit : Nat) : BlobReaders where
  openZip _ := .error .other
  openTar content := if content = longNamedTar then .ok longNamedMembers else .error .tar
  gunzip _ := ⟨[], some .badGzip⟩
  nameError name := if limit < name.length then some .os else none
  mkdtemp start := start ++ Json.text "k3x9q2_a"

theorem longNamedTar_unmarked : blobFormat longNamedTar [] = .unknown := by decide +kernel

theorem longNamedTar_opens (limit : Nat) :
    (longNamedReaders limit).openTar longNamedTar = .ok longNamedMembers := by
  unfold longNamedReaders
  dsimp only
  rw [if_pos rfl]

theorem longNamedMembers_within : (Archive.tar longNamedMembers).WithinLimits := by
  unfold Archive.WithinLimits
  decide

/-- Where names have at most 255 characters, the archive is kept as one file, beside the member that
was extracted by then. -/
theorem longNamedTar_kept :
    keptOctets (longNamedReaders 255) longNamedTar (blobFormat longNamedTar []) =
      some (longNamedTar, [Json.text "a.json"]) := by
  rw [longNamedTar_unmarked, keptOctets, tarFailure, longNamedTar_opens]
  decide +kernel

end Gyanam
