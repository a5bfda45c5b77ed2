/-
This file proves that an archive is extracted without loss. Of the members of an
archive some are eligible: in a zip archive what is neither a directory nor
hidden, in a tar archive the regular files that are not hidden. Both formats
extract member after member, and what one member does is the same in both: it
raises, or it adds one file under a free name, with the whole content of the
member. By induction over the archive, what is returned has one entry for each
eligible member in their order, and the directory has nothing else.
-/

import Gyanam.ArchiveNames

namespace Gyanam

open Json (Text)

/-! ### Members -/

/-- A member to extract: the name that is recorded for it, and what opening it gives. -/
structure Member where
  originalName : Text
  opened : Except LibraryError Stream

/-- The content of a member that can be read to its end. -/
def Member.content (member : Member) : Option (List UInt8) :=
  match member.opened with
  | .error _ => none
  | .ok stream => if stream.failure = none then some stream.chunks.flatten else none

/-- The name of a member with its content. -/
def Member.file (member : Member) : Text × Option (List UInt8) :=
  (member.originalName, member.content)

/-- The member of a zip archive, unless it is a directory or hidden. -/
def ZipInfo.member (info : ZipInfo) : Option Member :=
  if info.filename.getLast? = some slash ∨ Json.text "__MACOSX" <+: info.filename ∨
      Json.text "." <+: info.filename then none
  else some ⟨info.filename, info.opened⟩

/-- The member of a tar archive, if it is a regular file that is not hidden. -/
def TarInfo.member (info : TarInfo) : Option Member :=
  if info.kind = .regular ∧ Strings.basename info.name ≠ [] ∧
      ¬ Json.text "." <+: Strings.basename info.name then
    some ⟨Strings.basename info.name, info.opened⟩
  else none

/-! ### Directories -/

/-- A directory in which each file is a direct child under a name that the file system accepts. -/
structure SoundDirectory (readers : BlobReaders) (directory : Directory) : Prop where
  children : ∀ name ∈ directory.keys, IsChild name
  accepted : ∀ name ∈ directory.keys, readers.nameError name = none

theorem soundDirectory_empty (readers : BlobReaders) : SoundDirectory readers Table.empty :=
  ⟨fun _ member => absurd member List.not_mem_nil, fun _ member => absurd member List.not_mem_nil⟩

/-- A directory after one more file, under a name that was free. -/
structure AddsFile (directory : Directory) (name : Text) (content : List UInt8)
    (after : Directory) : Prop where
  fresh : directory.get name = none
  keys : after.keys = directory.keys ++ [name]
  added : after.get name = some content
  others : ∀ other, other ≠ name → after.get other = directory.get other

section Directories

variable {readers : BlobReaders} {directory after : Directory} {name : Text}
  {content : List UInt8}

/-- Creating a file adds it. -/
theorem addsFile_set (fresh : directory.get name = none) :
    AddsFile directory name content (directory.set name content) where
  fresh := fresh
  keys := Table.keys_set_of_absent (Table.get_eq_none_iff.mp fresh) content
  added := by rw [Table.get_set, if_pos rfl]
  others other different := by rw [Table.get_set, if_neg different]

/-- Writing to the file that was added leaves the rest alone. -/
theorem AddsFile.set (adds : AddsFile directory name content after) (written : List UInt8) :
    AddsFile directory name written (after.set name written) where
  fresh := adds.fresh
  keys := by
    have member : name ∈ after.keys := by
      rw [adds.keys]
      exact List.mem_append_right _ (List.mem_singleton_self name)
    rw [Table.keys_set_of_mem member, adds.keys]
  added := by rw [Table.get_set, if_pos rfl]
  others other different := by rw [Table.get_set, if_neg different, adds.others other different]

/-- Writing a file under the name of a direct child leaves a directory sound. -/
theorem SoundDirectory.of_keys (sound : SoundDirectory readers directory) (child : IsChild name)
    (accepted : readers.nameError name = none)
    (either : ∀ other ∈ after.keys, other ∈ directory.keys ∨ other = name) :
    SoundDirectory readers after := by
  constructor
  · intro other member
    rcases either other member with old | rfl
    · exact sound.children other old
    · exact child
  · intro other member
    rcases either other member with old | rfl
    · exact sound.accepted other old
    · exact accepted

theorem SoundDirectory.set (sound : SoundDirectory readers directory) (child : IsChild name)
    (accepted : readers.nameError name = none) (content : List UInt8) :
    SoundDirectory readers (directory.set name content) := by
  refine sound.of_keys child accepted fun other member => ?_
  by_cases filed : name ∈ directory.keys
  · rw [Table.keys_set_of_mem filed] at member
    exact .inl member
  · rw [Table.keys_set_of_absent filed] at member
    exact (List.mem_append.mp member).imp_right List.mem_singleton.mp

theorem AddsFile.sound (adds : AddsFile directory name content after)
    (sound : SoundDirectory readers directory) (child : IsChild name)
    (accepted : readers.nameError name = none) : SoundDirectory readers after := by
  refine sound.of_keys child accepted fun other member => ?_
  rw [adds.keys] at member
  exact (List.mem_append.mp member).imp_right List.mem_singleton.mp

/-- What was there before is there still. -/
theorem AddsFile.keeps (adds : AddsFile directory name content after) {other : Text}
    {old : List UInt8} (found : directory.get other = some old) : after.get other = some old := by
  have different : other ≠ name := by
    rintro rfl
    exact Option.some_ne_none old (found.symm.trans adds.fresh)
  rw [adds.others other different, found]

end Directories

/-! ### Archives without loss -/

/-- An entry for a member, whose whole content is in the directory. -/
def Member.IsKeptAs (directory : Directory) (member : Member) (file : ExtractedFile) : Prop :=
  file.originalName = member.originalName ∧
    ∃ content, member.content = some content ∧ directory.get file.path = some content

/-- Some members are extracted: each has its entry, in their order, under a path of its own, and the
directory has no other files. -/
structure LosslessExtraction (members : List Member) (files : List ExtractedFile)
    (directory : Directory) : Prop where
  entries : List.Forall₂ (Member.IsKeptAs directory) members files
  paths : directory.keys = files.map ExtractedFile.path
  distinct : (files.map ExtractedFile.path).Nodup

theorem losslessExtraction_nil : LosslessExtraction [] [] Table.empty := ⟨.nil, rfl, List.nodup_nil⟩

/-- The entries of some members tell their names, and the directory their contents. -/
theorem isKeptAs_iff {members : List Member} {files : List ExtractedFile}
    {directory : Directory} :
    List.Forall₂ (Member.IsKeptAs directory) members files ↔
      members.map Member.file =
          (files.map fun file => (file.originalName, directory.get file.path)) ∧
        ∀ file ∈ files, (directory.get file.path).isSome := by
  induction files generalizing members with
  | nil => simp
  | cons file rest inductionHypothesis =>
    cases members with
    | nil => simp
    | cons member others =>
      have one : member.IsKeptAs directory file ↔
          member.file = (file.originalName, directory.get file.path) ∧
            (directory.get file.path).isSome := by
        rw [Member.IsKeptAs, Member.file, Prod.mk.injEq, Option.isSome_iff_exists]
        constructor
        · rintro ⟨named, content, read, found⟩
          exact ⟨⟨named.symm, read.trans found.symm⟩, content, found⟩
        · rintro ⟨⟨named, read⟩, content, found⟩
          exact ⟨named.symm, content, read.trans found, found⟩
      rw [List.forall₂_cons, inductionHypothesis, one, List.map_cons, List.map_cons,
        List.cons.injEq, List.forall_mem_cons]
      exact and_and_and_comm

/-- The same entries are without loss for just those members that have the same names and
contents. -/
theorem LosslessExtraction.congr {members others : List Member} {files : List ExtractedFile}
    {directory : Directory} (lossless : LosslessExtraction members files directory) :
    LosslessExtraction others files directory ↔
      members.map Member.file = others.map Member.file := by
  obtain ⟨same, found⟩ := isKeptAs_iff.mp lossless.entries
  constructor
  · intro other
    rw [same, (isKeptAs_iff.mp other.entries).1]
  · intro alike
    exact ⟨isKeptAs_iff.mpr ⟨alike.symm.trans same, found⟩, lossless.paths, lossless.distinct⟩

/-- One more member is extracted. -/
theorem LosslessExtraction.snoc {members : List Member} {files : List ExtractedFile}
    {directory after : Directory} {member : Member} {file : ExtractedFile} {content : List UInt8}
    (lossless : LosslessExtraction members files directory)
    (named : file.originalName = member.originalName) (read : member.content = some content)
    (adds : AddsFile directory file.path content after) :
    LosslessExtraction (members ++ [member]) (files ++ [file]) after := by
  have paths : after.keys = (files ++ [file]).map ExtractedFile.path := by
    rw [adds.keys, lossless.paths, List.map_append, List.map_singleton]
  refine ⟨?_, paths, paths ▸ after.nodup_keys⟩
  refine List.rel_append ?_ (.cons ⟨named, content, read, adds.added⟩ .nil)
  refine lossless.entries.imp fun _ _ kept => ?_
  obtain ⟨same, old, whole, found⟩ := kept
  exact ⟨same, old, whole, adds.keeps found⟩

/-- What a step does with a member: nothing when it is not eligible, else it adds a file with its
content and an entry, unless it raises. -/
def Extracts {Info : Type} (readers : BlobReaders) (member : Info → Option Member)
    (step : Nat × List ExtractedFile → Info → Unpacking (Nat × List ExtractedFile)) : Prop :=
  ∀ done info directory, SoundDirectory readers directory →
    Attempt.Ensures (fun before => before = directory) (step done info)
      (fun next after => SoundDirectory readers after ∧
        match member info with
        | none => next.2 = done.2 ∧ after = directory
        | some found => ∃ content file, found.content = some content ∧
            file.originalName = found.originalName ∧ next.2 = done.2 ++ [file] ∧
            AddsFile directory file.path content after)
      (fun _ after => SoundDirectory readers after)

/-- An archive that is extracted step by step is extracted without loss. -/
theorem Extracts.run {Info : Type} {readers : BlobReaders} {member : Info → Option Member}
    {step : Nat × List ExtractedFile → Info → Unpacking (Nat × List ExtractedFile)}
    (extracts : Extracts readers member step) (infos : List Info) :
    Attempt.Ensures (fun directory => directory = Table.empty) (infos.foldlM step (0, []))
      (fun done directory =>
        LosslessExtraction (infos.filterMap member) done.2 directory ∧
          SoundDirectory readers directory)
      (fun _ directory => SoundDirectory readers directory) := by
  have each : ∀ before info done, Attempt.Ensures
      (fun directory =>
        LosslessExtraction (before.filterMap member) done.2 directory ∧
          SoundDirectory readers directory)
      (step done info)
      (fun next directory =>
        LosslessExtraction ((before ++ [info]).filterMap member) next.2 directory ∧
          SoundDirectory readers directory)
      (fun _ directory => SoundDirectory readers directory) := by
    rintro before info done directory ⟨lossless, sound⟩
    refine (extracts done info directory sound).imp ?_ (fun _ _ still => still) directory rfl
    rintro next after ⟨still, stepped⟩
    refine ⟨?_, still⟩
    rw [List.filterMap_append]
    cases eligible : member info with
    | none =>
      rw [eligible] at stepped
      obtain ⟨same, rfl⟩ := stepped
      rw [List.filterMap_cons_none eligible, List.filterMap_nil, List.append_nil, same]
      exact lossless
    | some found =>
      rw [eligible] at stepped
      obtain ⟨content, file, read, named, files, adds⟩ := stepped
      rw [List.filterMap_cons_some eligible, List.filterMap_nil, files]
      exact lossless.snoc named read adds
  intro directory empty
  exact Attempt.ensures_foldlM each [] infos (0, []) directory
    ⟨empty ▸ losslessExtraction_nil, empty ▸ soundDirectory_empty readers⟩

/-! ### Opening a member -/

section Opening

variable (readers : BlobReaders)

/-- What both formats do before they copy: choose a name, open the member, create the file. -/
def openMember (basename numbered : Text) (opened : Except LibraryError Stream) :
    Unpacking (Text × Stream) := do
  let name ← chooseName readers basename numbered
  let stream ← Attempt.ofExcept (opened.mapError .library)
  createFile readers name
  return (name, stream)

/-- Why a member cannot be opened under a name that was chosen for it, if it cannot. -/
def openFailure (basename name : Text) (opened : Except LibraryError Stream) :
    Option LibraryError :=
  if readers.nameError basename = some .os ∨ readers.nameError name = some .os then some .os
  else match opened with
    | .error error => some error
    | .ok _ => readers.nameError name

variable {readers} {directory : Directory}

theorem createFile_fails {name : Text} {error : LibraryError}
    (refused : readers.nameError name = some error) :
    (createFile readers name).start directory = (.error (.library error), directory) := by
  rw [createFile, refused]
  rfl

theorem createFile_creates {name : Text} (accepted : readers.nameError name = none) :
    (createFile readers name).start directory = (.ok (), directory.set name []) := by
  rw [createFile, accepted]
  rfl

theorem openMember_fails (sound : SoundDirectory readers directory) {basename numbered : Text}
    {opened : Except LibraryError Stream} {error : LibraryError}
    (failure : openFailure readers basename (chosenName directory basename numbered) opened =
      some error) :
    (openMember readers basename numbered opened).start directory =
      (.error (.library error), directory) := by
  rw [openMember, Attempt.start_bind, chooseName_start sound.accepted]
  unfold openFailure at failure
  split at failure
  next refused =>
    rw [if_pos refused, ← Option.some.inj failure]
  next accepted =>
    rw [if_neg accepted]
    cases opened with
    | error raised =>
      rw [← Option.some.inj failure]
      rfl
    | ok stream =>
      dsimp only [Except.mapError]
      rw [Attempt.start_bind, Attempt.start_ofExcept]
      dsimp only
      rw [Attempt.start_bind, createFile_fails failure]

theorem openMember_opens (sound : SoundDirectory readers directory) {basename numbered : Text}
    {opened : Except LibraryError Stream}
    (failure : openFailure readers basename (chosenName directory basename numbered) opened =
      none) :
    ∃ stream, opened = .ok stream ∧
      readers.nameError (chosenName directory basename numbered) = none ∧
      (openMember readers basename numbered opened).start directory =
        (.ok (chosenName directory basename numbered, stream),
          directory.set (chosenName directory basename numbered) []) := by
  unfold openFailure at failure
  split at failure
  next => cases failure
  next accepted =>
    cases opened with
    | error raised => cases failure
    | ok stream =>
      refine ⟨stream, rfl, failure, ?_⟩
      rw [openMember, Attempt.start_bind, chooseName_start sound.accepted, if_neg accepted]
      dsimp only [Except.mapError]
      rw [Attempt.start_bind, Attempt.start_ofExcept]
      dsimp only
      rw [Attempt.start_bind, createFile_creates failure]
      rfl

/-- Opening a member creates its file, or leaves the directory as it is. -/
theorem openMember_ensures (sound : SoundDirectory readers directory) (basename numbered : Text)
    (opened : Except LibraryError Stream) :
    Attempt.Ensures (fun before => before = directory)
      (openMember readers basename numbered opened)
      (fun result after => opened = .ok result.2 ∧
        result.1 = chosenName directory basename numbered ∧
        readers.nameError (chosenName directory basename numbered) = none ∧
        AddsFile directory (chosenName directory basename numbered) [] after)
      (fun _ after => after = directory) := by
  rintro _ rfl
  cases failure : openFailure readers basename (chosenName _ basename numbered) opened with
  | some error =>
    rw [openMember_fails sound failure]
  | none =>
    obtain ⟨stream, opens, accepted, ran⟩ := openMember_opens sound failure
    rw [ran]
    exact ⟨opens, rfl, accepted, addsFile_set (get_chosenName _ basename numbered)⟩

/-- A member is extracted by opening it and copying its content, when the copying writes the whole
content or raises, and then leaves no more than a part of it or nothing at all. -/
theorem ensures_opened {Copied : Type} {basename numbered : Text}
    {copy : Text → Stream → Unpacking Copied} (sound : SoundDirectory readers directory)
    (plain : slash ∉ basename) (plainNumbered : slash ∉ numbered)
    (copies : ∀ name stream, Attempt.Ensures (AddsFile directory name []) (copy name stream)
      (fun _ after => stream.failure = none ∧
        AddsFile directory name stream.chunks.flatten after)
      (fun _ after => after = Table.empty ∨ ∃ content, AddsFile directory name content after))
    (found : Member) (files : List ExtractedFile) (total size : Copied → Nat) :
    Attempt.Ensures (fun before => before = directory)
      (do
        let opened ← openMember readers basename numbered found.opened
        let copied ← copy opened.1 opened.2
        return (total copied,
          files ++ [ExtractedFile.of opened.1 found.originalName (size copied)]))
      (fun next after => SoundDirectory readers after ∧
        ∃ content file, found.content = some content ∧ file.originalName = found.originalName ∧
          next.2 = files ++ [file] ∧ AddsFile directory file.path content after)
      (fun _ after => SoundDirectory readers after) := by
  refine Attempt.ensures_bind ((openMember_ensures sound _ _ _).imp (fun _ _ opens => opens) ?_) ?_
  · rintro _ _ rfl
    exact sound
  rintro ⟨name, stream⟩ started ⟨opens, rfl, accepted, adds⟩
  have child : IsChild (chosenName directory basename numbered) :=
    isChild_chosenName directory plain plainNumbered
  refine Attempt.ensures_bind ((copies _ stream).imp (fun _ _ copied => copied) ?_)
    (fun copied => ?_) started adds
  · rintro error after (rfl | ⟨content, partly⟩)
    · exact soundDirectory_empty readers
    · exact partly.sound sound child accepted
  · refine Attempt.ensures_pure ?_
    rintro after ⟨whole, all⟩
    refine ⟨all.sound sound child accepted, stream.chunks.flatten,
      ExtractedFile.of _ found.originalName (size copied), ?_, rfl, rfl, all⟩
    simp only [Member.content, opens, whole, if_true]

end Opening

/-! ### Zip archives -/

section Zip

variable {readers : BlobReaders} {directoryName : Text} {done : Nat × List ExtractedFile}
  {info : ZipInfo}

/-- Copying a member writes its whole content, unless it raises. Then the content is incomplete, or
the directory was cleaned up. -/
theorem copyZip_ensures (directory : Directory) (name : Text) (failure : Option LibraryError)
    (total : Nat) (written : List UInt8) (chunks : List (List UInt8)) :
    Attempt.Ensures (AddsFile directory name written) (copyZip name failure total written chunks)
      (fun _ after => failure = none ∧ AddsFile directory name (written ++ chunks.flatten) after)
      (fun _ after => after = Table.empty ∨ ∃ content, AddsFile directory name content after) := by
  induction chunks generalizing total written with
  | nil =>
    intro current adds
    cases failure with
    | some error => exact .inr ⟨written, adds⟩
    | none =>
      rw [List.flatten_nil, List.append_nil]
      exact ⟨rfl, adds⟩
  | cons chunk rest inductionHypothesis =>
    intro current adds
    rw [copyZip]
    by_cases exceeds : maxDecompressedSize < total + chunk.length
    · rw [if_pos exceeds]
      exact .inl rfl
    · rw [if_neg exceeds, List.flatten_cons, ← List.append_assoc]
      exact inductionHypothesis (total + chunk.length) (written ++ chunk) _ (adds.set _)

theorem extractZipInfo_skips (skipped : info.member = none) :
    extractZipInfo readers directoryName done info = pure done := by
  unfold ZipInfo.member at skipped
  split at skipped
  next condition =>
    unfold extractZipInfo
    cases last : info.filename.getLast? with
    | none =>
      have bare : ¬ (Json.text "__MACOSX" <+: [] ∨ Json.text "." <+: []) := by decide
      rw [last, List.getLast?_eq_none_iff.mp last] at condition
      exact absurd (condition.resolve_left (Option.some_ne_none slash).symm) bare
    | some point =>
      rw [last] at condition
      simp only [Option.some.injEq] at condition
      simp only [condition, if_true]
  next => cases skipped

theorem ZipInfo.eq_of_member {found : Member} (eligible : info.member = some found) :
    found = ⟨info.filename, info.opened⟩ := by
  unfold ZipInfo.member at eligible
  split at eligible
  · cases eligible
  · exact (Option.some.inj eligible).symm

/-- What the numbered names for a member are made from. -/
def numberedBase (directoryName filename : Text) : Text :=
  if Strings.pathName filename = [] then directoryName else Strings.pathName filename

theorem slash_notMem_numberedBase (plain : slash ∉ directoryName) (filename : Text) :
    slash ∉ numberedBase directoryName filename := by
  unfold numberedBase
  split
  · exact plain
  · exact slash_notMem_pathName filename

/-- An eligible member is opened and copied. -/
theorem extractZipInfo_eq {found : Member} (eligible : info.member = some found)
    (named : info.filename ≠ []) :
    extractZipInfo readers directoryName done info = (do
      let opened ← openMember readers (Strings.pathName info.filename)
        (numberedBase directoryName info.filename) info.opened
      let copied ← copyZip opened.1 opened.2.failure done.1 [] opened.2.chunks
      return (copied.1, done.2 ++ [ExtractedFile.of opened.1 info.filename copied.2])) := by
  unfold ZipInfo.member at eligible
  split at eligible
  · cases eligible
  · next kept =>
    unfold extractZipInfo openMember numberedBase
    cases last : info.filename.getLast? with
    | none => exact absurd (List.getLast?_eq_none_iff.mp last) named
    | some point =>
      rw [last] at kept
      simp only [Option.some.injEq] at kept
      simp only [kept, if_false, bind_assoc, pure_bind]

/-- A member of a zip archive is skipped, or extracted with its whole content. -/
theorem extracts_extractZipInfo (plain : slash ∉ directoryName) :
    Extracts readers ZipInfo.member (extractZipInfo readers directoryName) := by
  intro done info directory sound
  cases eligible : info.member with
  | none =>
    rw [extractZipInfo_skips eligible]
    rintro _ rfl
    exact ⟨sound, rfl, rfl⟩
  | some found =>
    obtain rfl := ZipInfo.eq_of_member eligible
    by_cases unnamed : info.filename = []
    · rw [extractZipInfo, List.getLast?_eq_none_iff.mpr unnamed]
      rintro _ rfl
      exact sound
    · rw [extractZipInfo_eq eligible unnamed]
      exact ensures_opened sound (slash_notMem_pathName _)
        (slash_notMem_numberedBase plain info.filename)
        (fun name stream =>
          copyZip_ensures directory name stream.failure done.1 [] stream.chunks)
        ⟨info.filename, info.opened⟩ done.2 Prod.fst Prod.snd

end Zip

/-! ### Tar archives -/

section Tar

variable {readers : BlobReaders} {done : Nat × List ExtractedFile} {info : TarInfo}

/-- The size that a member counts with: only regular files count, hidden ones too. -/
def TarInfo.counted (info : TarInfo) : Nat := if info.kind = .regular then info.size else 0

theorem copyTar_start (name : Text) (stream : Stream) (current : Directory) :
    (copyTar name stream).start current =
      ((match stream.failure with
        | some error => .error (.library error)
        | none => .ok ()), current.set name stream.chunks.flatten) := by
  rw [copyTar, Attempt.start_bind, Attempt.start_modify]
  cases stream.failure <;> rfl

/-- Copying a member writes its whole content, unless it raises. -/
theorem copyTar_ensures (directory : Directory) (name : Text) (stream : Stream) :
    Attempt.Ensures (AddsFile directory name []) (copyTar name stream)
      (fun _ after =>
        stream.failure = none ∧ AddsFile directory name stream.chunks.flatten after)
      (fun _ after => AddsFile directory name stream.chunks.flatten after) := by
  intro current adds
  rw [copyTar_start]
  cases stream.failure with
  | some error => exact adds.set _
  | none => exact ⟨rfl, adds.set _⟩

theorem TarInfo.eq_of_member {found : Member} (eligible : info.member = some found) :
    info.kind = .regular ∧ Strings.basename info.name ∉ ownNames ∧
      found = ⟨Strings.basename info.name, info.opened⟩ := by
  unfold TarInfo.member at eligible
  split at eligible
  next kept =>
    obtain ⟨regular, filled, shown⟩ := kept
    refine ⟨regular, fun own => ?_, (Option.some.inj eligible).symm⟩
    simp only [ownNames, List.mem_cons, List.not_mem_nil, or_false] at own
    rcases own with empty | dot | dots
    · exact filled empty
    · exact shown (dot ▸ List.prefix_rfl)
    · exact shown (dots ▸ by decide)
  next => cases eligible

/-- The limit that a member exceeds after some octets, if it does. Only regular files count. -/
def TarInfo.limitError (total : Nat) (info : TarInfo) : Option UnpackError :=
  if info.kind ≠ .regular then none
  else if maxDecompressedSize < info.size then some (.memberTooLarge info.name info.size)
  else if maxDecompressedSize < total + info.size then
    some (.decompressedTooLarge (total + info.size))
  else none

theorem TarInfo.limitError_eq_none {total : Nat} :
    info.limitError total = none ↔
      (info.kind = .regular → total + info.size ≤ maxDecompressedSize) := by
  unfold limitError
  by_cases regular : info.kind = .regular
  · have alone : total + info.size ≤ maxDecompressedSize → info.size ≤ maxDecompressedSize :=
      (Nat.le_add_left _ _).trans
    simp only [regular, ne_eq, not_true_eq_false, if_false, true_implies]
    split
    next large =>
      exact iff_of_false (by simp) fun within => absurd (alone within) (not_le.mpr large)
    next => simp
  · simp [regular]

theorem extractTarInfo_exceeds {error : UnpackError}
    (exceeds : info.limitError done.1 = some error) :
    extractTarInfo readers done info = throw error := by
  unfold TarInfo.limitError at exceeds
  unfold extractTarInfo
  by_cases regular : info.kind = .regular
  · simp only [regular, ne_eq, not_true_eq_false, if_false] at exceeds ⊢
    split at exceeds
    next large =>
      rw [if_pos large, ← Option.some.inj exceeds]
      rfl
    next small =>
      rw [if_neg small]
      split at exceeds
      next many =>
        rw [if_pos many, ← Option.some.inj exceeds]
        rfl
      next => cases exceeds
  · simp [regular] at exceeds

/-- A member within the limits is skipped, or it is opened and copied. -/
theorem extractTarInfo_eq (within : info.limitError done.1 = none) :
    extractTarInfo readers done info =
      match info.member with
      | none => pure (done.1 + info.counted, done.2)
      | some found => do
        let opened ← openMember readers found.originalName found.originalName found.opened
        copyTar opened.1 opened.2
        return (done.1 + info.counted,
          done.2 ++ [ExtractedFile.of opened.1 found.originalName info.size]) := by
  rw [TarInfo.limitError_eq_none] at within
  unfold extractTarInfo TarInfo.member TarInfo.counted
  by_cases regular : info.kind = .regular
  · have small := within regular
    by_cases hidden : Strings.basename info.name = [] ∨
        Json.text "." <+: Strings.basename info.name
    · have skipped : ¬ (Strings.basename info.name ≠ [] ∧
          ¬ Json.text "." <+: Strings.basename info.name) := by
        rwa [← not_or, not_not]
      simp only [regular, skipped, hidden, if_true, and_false, if_false, not_true_eq_false, ne_eq,
        not_lt.mpr small, not_lt.mpr ((Nat.le_add_left _ _).trans small)]
    · have shown := not_or.mp hidden
      simp only [regular, shown, if_true, and_self, or_self, if_false, not_true_eq_false, ne_eq,
        not_lt.mpr small, not_lt.mpr ((Nat.le_add_left _ _).trans small), not_false_eq_true,
        openMember, bind_assoc, pure_bind]
  · simp only [regular, false_and, if_false, ne_eq, not_false_eq_true, if_true]
    rfl

/-- A member of a tar archive is skipped, or extracted with its whole content. -/
theorem extracts_extractTarInfo (readers : BlobReaders) :
    Extracts readers TarInfo.member (extractTarInfo readers) := by
  intro done info directory sound
  cases limit : info.limitError done.1 with
  | none =>
    rw [extractTarInfo_eq limit]
    cases eligible : info.member with
    | none =>
      rintro _ rfl
      exact ⟨sound, rfl, rfl⟩
    | some found =>
      obtain ⟨_, _, rfl⟩ := TarInfo.eq_of_member eligible
      exact ensures_opened sound (slash_notMem_basename _) (slash_notMem_basename _)
        (fun name stream => (copyTar_ensures directory name stream).imp
          (fun _ _ copied => copied) fun _ _ partly => .inr ⟨_, partly⟩)
        ⟨Strings.basename info.name, info.opened⟩ done.2 (fun _ => done.1 + info.counted)
        (fun _ => info.size)
  | some error =>
    rw [extractTarInfo_exceeds limit]
    rintro _ rfl
    exact sound

end Tar

end Gyanam
