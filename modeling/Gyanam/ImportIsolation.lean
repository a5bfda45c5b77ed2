/-
This file says when an import isolates its bad rows: when it ends with a report
in which every row with a name or a host stands once, the targets it creates are
those of the created rows, and no two of them share a host with each other or with
a target that exists.

An import fails to do so in three ways. The reader may raise between two rows, a
row may be too short to have its name and its host, and a target may be created
although its placement cannot be written, when its row counts as an error and its
host as free.
-/

import Gyanam.HostSpellings
import Gyanam.Lib.FirstClaim

namespace Gyanam

open FirstClaim (Each)
open Json (CodePoint Text)

/-! ### Rows -/

/-- A row with its number in the file. -/
abbrev NumberedRow := ImportRow × Nat

/-- The rows of a file under the internal names of their columns, counted from the one after the
header. Empty ones do not count. -/
def numberedRows (fieldnames : Csv.Row CodePoint) (rows : List (Csv.Row CodePoint)) :
    List NumberedRow :=
  ((rows.filter fun row => decide (row ≠ [])).zipIdx 2).map fun row =>
    (normalizeImportRow (dictRow fieldnames row.1), row.2)

/-- A row is not too short for a column. -/
def reaches (row : ImportRow) (field : TargetField) : Bool := decide (row.get field.key ≠ some none)

/-- A row is not too short to have its name and its host. -/
def hasIdentity (row : ImportRow) : Bool := reaches row .name && reaches row .host

/-- The stripped cell of a row, empty if there is none. -/
def strippedCell (row : ImportRow) (field : TargetField) : Text :=
  Strings.strip ((row.get field.key).join.getD [])

/-- A row has a name or a host. -/
def isNamed (row : ImportRow) : Bool :=
  decide (strippedCell row .name ≠ [] ∨ strippedCell row .host ≠ [])

/-- The host of a row as it is compared. -/
def hostKey (library : HostLibrary) (row : ImportRow) : Text :=
  library.lower (strippedCell row .host)

/-- A row passes all checks. -/
def isTarget (library : HostLibrary) (recursionLimit : Nat) (row : ImportRow) : Bool :=
  (readTarget library recursionLimit row (strippedCell row .name) (strippedCell row .host)).isOk

/-- The columns of a target have room for the placement of a row, if it has one. -/
def isPlaceable (row : ImportRow) : Bool := (placementFromCsvRow row).all Placement.isStorable

/-- If a row passes all checks, its host is new and none of the rows before it passes them with the
same host, then it can be placed. -/
def PlaceableIfFirst (library : HostLibrary) (recursionLimit : Nat) (existing : List Text)
    (before : List NumberedRow) (row : NumberedRow) : Prop :=
  isTarget library recursionLimit row.1 = true →
    hostKey library row.1 ∉ existing.map library.lower →
      (∀ earlier ∈ before, isTarget library recursionLimit earlier.1 = true →
        hostKey library earlier.1 ≠ hostKey library row.1) →
        isPlaceable row.1 = true

/-! ### What an import promises -/

/-- All that an import reports. -/
def Importer.reports (importer : Importer) : List RowLabel :=
  importer.created ++ importer.skipped ++ importer.errors.map Prod.fst

/-- An import isolates its bad rows: every row with a name or a host is reported once, a target is
created for exactly the created rows, and no two of them share a host with each other or with a
target that exists. -/
structure IsolatesRows (library : HostLibrary) (existing : List Text) (rows : List NumberedRow)
    (importer : Importer) : Prop where
  reported : (importer.reports.map RowLabel.row).Perm
    ((rows.filter fun row => isNamed row.1).map Prod.snd)
  created : importer.created.map (fun label => (label.name, label.host)) =
    importer.targets.map fun target => (target.name, target.host)
  distinct : (importer.targets.map fun target => library.lower target.host).Nodup
  fresh : ∀ target ∈ importer.targets, library.lower target.host ∉ existing.map library.lower

/-! ### Steps -/

theorem cellText_eq_ok_iff {row : ImportRow} {field : TargetField} {chars : Text} :
    cellText row field [] = .ok chars ↔
      reaches row field = true ∧ strippedCell row field = chars := by
  unfold cellText reaches strippedCell
  rw [decide_eq_true_eq]
  match row.get field.key with
  | none => simp [Strings.strip, Strings.stripEnd]
  | some none => simp
  | some (some cell) => simp

/-- The names of a target that a row makes. -/
theorem readTarget_hosted {library : HostLibrary} {recursionLimit : Nat} {row : ImportRow}
    {name host : Text} {target : NewTarget}
    (made : readTarget library recursionLimit row name host = .ok target) :
    validateName name = .ok target.name ∧ validateHost library host = .ok target.host := by
  simp only [readTarget, Fallible.bind_eq_ok, Fallible.mapError_eq_ok] at made
  obtain ⟨validName, named, validHost, hosted, made⟩ := made
  -- The checks of the other cells come between these names and the target that is created.
  iterate 19 obtain ⟨_, -, made⟩ := made
  unfold createTarget at made
  split at made
  · obtain rfl := Except.ok.inj made
    exact ⟨named, hosted⟩
  · cases made

theorem isTarget_iff {library : HostLibrary} {recursionLimit : Nat} {row : ImportRow} :
    isTarget library recursionLimit row = true ↔ ∃ target, readTarget library recursionLimit row
      (strippedCell row .name) (strippedCell row .host) = .ok target := by
  unfold isTarget
  cases readTarget library recursionLimit row (strippedCell row .name) (strippedCell row .host) <;>
    simp [Except.isOk, Except.toBool]

/-- A row without a name makes no target. -/
theorem named_of_isTarget {library : HostLibrary} {recursionLimit : Nat} {row : ImportRow}
    (passes : isTarget library recursionLimit row = true) : isNamed row = true := by
  obtain ⟨target, made⟩ := isTarget_iff.mp passes
  refine decide_eq_true (Or.inl fun blank => ?_)
  have named := (readTarget_hosted made).1
  rw [blank] at named
  cases named

theorem not_isTarget_of_blank {library : HostLibrary} {recursionLimit : Nat} {row : ImportRow}
    (noName : strippedCell row .name = []) (noHost : strippedCell row .host = []) :
    ¬ isTarget library recursionLimit row = true := fun passes =>
  (of_decide_eq_true (named_of_isTarget passes)).elim (absurd noName) (absurd noHost)

theorem not_isTarget_of_refused {library : HostLibrary} {recursionLimit : Nat} {row : ImportRow}
    {error : ImportError}
    (refused : readTarget library recursionLimit row (strippedCell row .name)
      (strippedCell row .host) = .error error) :
    ¬ isTarget library recursionLimit row = true := by
  intro passes
  obtain ⟨target, made⟩ := isTarget_iff.mp passes
  cases refused.symm.trans made

/-- The host of a target is compared like that of its row. -/
theorem lower_host_of_readTarget {library : HostLibrary}
    (settled : ∀ chars, library.lower (library.lower chars) = library.lower chars)
    {recursionLimit : Nat} {row : ImportRow} {name : Text} {target : NewTarget}
    (made : readTarget library recursionLimit row name (strippedCell row .host) = .ok target) :
    library.lower target.host = hostKey library row := by
  obtain ⟨-, -, same⟩ := validateHost_eq_ok_iff.mp (readTarget_hosted made).2
  rw [← same, strippedCell, Strings.strip_strip, settled]
  rfl

/-- Import the next row; what it raises stops the import where it is. -/
def importNumbered (library : HostLibrary) (recursionLimit : Nat) (importer : Importer)
    (row : NumberedRow) : Except Importer Importer :=
  match importRow library recursionLimit importer row.2 row.1 with
  | some next => .ok next
  | none => .error importer

theorem importRows_eq (library : HostLibrary) (recursionLimit : Nat)
    (fieldnames : Csv.Row CodePoint) (rows : List (Csv.Row CodePoint)) (importer : Importer) :
    importRows library recursionLimit fieldnames rows importer =
      (numberedRows fieldnames rows).foldlM (importNumbered library recursionLimit) importer := by
  rw [numberedRows, List.foldlM_map]
  rfl

/-- A row with its name and its host takes a step, and any other row raises. -/
theorem importNumbered_cases (library : HostLibrary) (recursionLimit : Nat) (importer : Importer)
    (row : NumberedRow) :
    (hasIdentity row.1 = true ∧ ∃ next,
      importNumbered library recursionLimit importer row = .ok next ∧
        RowStep library recursionLimit importer row.2 row.1 (strippedCell row.1 .name)
          (strippedCell row.1 .host) next) ∨
      (hasIdentity row.1 = false ∧
        importNumbered library recursionLimit importer row = .error importer) := by
  unfold importNumbered
  cases complete : hasIdentity row.1 with
  | true =>
    obtain ⟨named, hosted⟩ := (Bool.and_eq_true_iff ..).mp complete
    obtain ⟨next, imported, step⟩ := importRow_step library recursionLimit importer row.2
      (cellText_eq_ok_iff.mpr ⟨named, rfl⟩) (cellText_eq_ok_iff.mpr ⟨hosted, rfl⟩)
    exact .inl ⟨rfl, next, by rw [imported], step⟩
  | false =>
    refine .inr ⟨rfl, ?_⟩
    have short : importRow library recursionLimit importer row.2 row.1 = none := by
      unfold importRow
      split
      · next name host named hosted =>
        have both := (Bool.and_eq_true_iff ..).mpr
          ⟨(cellText_eq_ok_iff.mp named).1, (cellText_eq_ok_iff.mp hosted).1⟩
        exact Bool.noConfusion (complete.symm.trans both)
      · rfl
    rw [short]

theorem importNumbered_step {library : HostLibrary} {recursionLimit : Nat}
    {importer next : Importer} {row : NumberedRow}
    (imported : importNumbered library recursionLimit importer row = .ok next) :
    RowStep library recursionLimit importer row.2 row.1 (strippedCell row.1 .name)
      (strippedCell row.1 .host) next := by
  obtain ⟨-, other, found, step⟩ | ⟨-, raised⟩ :=
    importNumbered_cases library recursionLimit importer row
  · rwa [Except.ok.inj (imported.symm.trans found)]
  · cases imported.symm.trans raised

/-- Whether a row raises depends on nothing that was imported before. -/
theorem importNumbered_returns_iff (library : HostLibrary) (recursionLimit : Nat)
    (importer : Importer) (row : NumberedRow) :
    (∃ next, importNumbered library recursionLimit importer row = .ok next) ↔
      hasIdentity row.1 = true := by
  obtain ⟨complete, next, found, -⟩ | ⟨short, raised⟩ :=
    importNumbered_cases library recursionLimit importer row
  · exact iff_of_true ⟨next, found⟩ complete
  · rw [raised, short]
    simp

/-! ### Runs -/

section Runs

variable {library : HostLibrary} {recursionLimit : Nat} {existing : List Text}

/-- What holds of an importer after some rows, whatever they are. -/
structure ImportProgress (library : HostLibrary) (recursionLimit : Nat) (existing : List Text)
    (before : List NumberedRow) (importer : Importer) : Prop where
  reported : (importer.reports.map RowLabel.row).Perm
    ((before.filter fun row => isNamed row.1).map Prod.snd)
  kept : existing.map library.lower ⊆ importer.existingHosts
  known : ∀ key ∈ importer.existingHosts, key ∈ existing.map library.lower ∨
    ∃ earlier ∈ before, isTarget library recursionLimit earlier.1 = true ∧
      hostKey library earlier.1 = key

/-- What holds of an importer after some rows that could be placed: the hosts of its targets exist,
each once, and so do those of the rows that pass all checks. -/
structure ImportInOrder (library : HostLibrary) (recursionLimit : Nat) (existing : List Text)
    (before : List NumberedRow) (importer : Importer) : Prop where
  created : importer.created.map (fun label => (label.name, label.host)) =
    importer.targets.map fun target => (target.name, target.host)
  distinct : (importer.targets.map fun target => library.lower target.host).Nodup
  fresh : ∀ target ∈ importer.targets, library.lower target.host ∉ existing.map library.lower
  listed : ∀ target ∈ importer.targets, library.lower target.host ∈ importer.existingHosts
  claimed : ∀ earlier ∈ before, isTarget library recursionLimit earlier.1 = true →
    hostKey library earlier.1 ∈ importer.existingHosts

theorem concat_perm (front back : List Nat) (number : Nat) :
    (front ++ [number] ++ back).Perm (front ++ back ++ [number]) := by
  rw [List.append_assoc, List.append_assoc]
  exact List.perm_append_comm.append_left front

/-- A step reports its row once, if this has a name or a host. -/
theorem reports_step {importer next : Importer} {row : NumberedRow}
    (step : RowStep library recursionLimit importer row.2 row.1 (strippedCell row.1 .name)
      (strippedCell row.1 .host) next) :
    (next.reports.map RowLabel.row).Perm
      (importer.reports.map RowLabel.row ++ if isNamed row.1 then [row.2] else []) := by
  cases step with
  | blank noName noHost =>
    have unnamed : isNamed row.1 = false := by simp [isNamed, noName, noHost]
    rw [unnamed, if_neg Bool.false_ne_true, List.append_nil]
  | skipped named =>
    rw [isNamed, decide_eq_true named, if_pos rfl]
    simpa [Importer.reports] using concat_perm
      (importer.created.map RowLabel.row ++ importer.skipped.map RowLabel.row)
      ((importer.errors.map Prod.fst).map RowLabel.row) row.2
  | refused named =>
    rw [isNamed, decide_eq_true named, if_pos rfl]
    simp [Importer.reports]
  | misplaced named =>
    rw [isNamed, decide_eq_true named, if_pos rfl]
    simp [Importer.reports]
  | created named =>
    rw [isNamed, decide_eq_true named, if_pos rfl]
    simpa [Importer.reports] using concat_perm (importer.created.map RowLabel.row)
      (importer.skipped.map RowLabel.row ++ (importer.errors.map Prod.fst).map RowLabel.row) row.2

theorem ImportProgress.step {before : List NumberedRow} {importer next : Importer}
    {row : NumberedRow}
    (settled : ∀ chars, library.lower (library.lower chars) = library.lower chars)
    (progress : ImportProgress library recursionLimit existing before importer)
    (step : RowStep library recursionLimit importer row.2 row.1 (strippedCell row.1 .name)
      (strippedCell row.1 .host) next) :
    ImportProgress library recursionLimit existing (before ++ [row]) next := by
  have earlier : ∀ key ∈ importer.existingHosts, key ∈ existing.map library.lower ∨
      ∃ earlier ∈ before ++ [row], isTarget library recursionLimit earlier.1 = true ∧
        hostKey library earlier.1 = key := by
    intro key member
    refine (progress.known key member).imp_right fun ⟨earlier, listed, found⟩ => ?_
    exact ⟨earlier, List.mem_append_left _ listed, found⟩
  have reported : (next.reports.map RowLabel.row).Perm
      (((before ++ [row]).filter fun row => isNamed row.1).map Prod.snd) := by
    have rows : ((before ++ [row]).filter fun row => isNamed row.1).map Prod.snd =
        (before.filter fun row => isNamed row.1).map Prod.snd ++
          if isNamed row.1 then [row.2] else [] := by
      rw [List.filter_append, List.map_append, List.filter_singleton]
      cases isNamed row.1 <;> rfl
    rw [rows]
    exact (reports_step step).trans (progress.reported.append_right _)
  cases step with
  | blank => exact ⟨reported, progress.kept, earlier⟩
  | skipped => exact ⟨reported, progress.kept, earlier⟩
  | refused => exact ⟨reported, progress.kept, earlier⟩
  | misplaced => exact ⟨reported, progress.kept, earlier⟩
  | created _ _ made =>
    refine ⟨reported, fun key member => List.mem_cons_of_mem _ (progress.kept member), ?_⟩
    intro key member
    obtain rfl | member := List.mem_cons.mp member
    · exact .inr ⟨row, List.mem_append_right _ (List.mem_singleton_self _),
        isTarget_iff.mpr ⟨_, made⟩, (lower_host_of_readTarget settled made).symm⟩
    · exact earlier key member

/-- A row whose host exists need not be placed, for it is not the first of its host. -/
theorem ImportProgress.placeableIfFirst {before : List NumberedRow} {importer : Importer}
    {row : NumberedRow} (progress : ImportProgress library recursionLimit existing before importer)
    (known : hostKey library row.1 ∈ importer.existingHosts) :
    PlaceableIfFirst library recursionLimit existing before row := by
  intro _ fresh first
  obtain listed | ⟨earlier, listed, passes, same⟩ := progress.known _ known
  · exact absurd listed fresh
  · exact absurd same (first earlier listed passes)

/-- A row whose host is new, after rows that could be placed, is the first of its host. -/
theorem ImportInOrder.placeable {before : List NumberedRow} {importer : Importer}
    {row : NumberedRow}
    (progress : ImportProgress library recursionLimit existing before importer)
    (inOrder : ImportInOrder library recursionLimit existing before importer)
    (passes : isTarget library recursionLimit row.1 = true)
    (fresh : hostKey library row.1 ∉ importer.existingHosts)
    (condition : PlaceableIfFirst library recursionLimit existing before row) :
    isPlaceable row.1 = true :=
  condition passes (fun listed => fresh (progress.kept listed)) fun earlier listed found same =>
    fresh (same ▸ inOrder.claimed earlier listed found)

/-- What is claimed stays claimed. -/
theorem claimed_concat {before : List NumberedRow} {hosts hosts' : List Text} {row : NumberedRow}
    (claimed : ∀ earlier ∈ before, isTarget library recursionLimit earlier.1 = true →
      hostKey library earlier.1 ∈ hosts) (more : hosts ⊆ hosts')
    (last : isTarget library recursionLimit row.1 = true → hostKey library row.1 ∈ hosts') :
    ∀ earlier ∈ before ++ [row], isTarget library recursionLimit earlier.1 = true →
      hostKey library earlier.1 ∈ hosts' := by
  intro earlier listed passes
  obtain listed | listed := List.mem_append.mp listed
  · exact more (claimed earlier listed passes)
  · obtain rfl := List.mem_singleton.mp listed
    exact last passes

theorem ImportInOrder.step {before : List NumberedRow} {importer next : Importer}
    {row : NumberedRow}
    (settled : ∀ chars, library.lower (library.lower chars) = library.lower chars)
    (progress : ImportProgress library recursionLimit existing before importer)
    (inOrder : ImportInOrder library recursionLimit existing before importer)
    (condition : PlaceableIfFirst library recursionLimit existing before row)
    (step : RowStep library recursionLimit importer row.2 row.1 (strippedCell row.1 .name)
      (strippedCell row.1 .host) next) :
    ImportInOrder library recursionLimit existing (before ++ [row]) next := by
  cases step with
  | blank noName noHost =>
    exact { inOrder with
      claimed := claimed_concat inOrder.claimed (List.Subset.refl _) fun passes =>
        absurd passes (not_isTarget_of_blank noName noHost) }
  | skipped _ known =>
    exact { inOrder with
      claimed := claimed_concat inOrder.claimed (List.Subset.refl _) fun _ => known }
  | refused _ _ refused =>
    exact { inOrder with
      claimed := claimed_concat inOrder.claimed (List.Subset.refl _) fun passes =>
        absurd passes (not_isTarget_of_refused refused) }
  | misplaced _ fresh made unplaced =>
    have placeable := inOrder.placeable progress (isTarget_iff.mpr ⟨_, made⟩) fresh condition
    exact Bool.noConfusion (placeable.symm.trans unplaced)
  | @created _ fresh target made _ =>
    have host : library.lower target.host = hostKey library row.1 :=
      lower_host_of_readTarget settled made
    have new : library.lower target.host ∉ importer.existingHosts := host ▸ fresh
    have added (other : NewTarget) (member : other ∈ importer.targets ++ [target]) :
        other ∈ importer.targets ∨ other = target :=
      (List.mem_append.mp member).imp_right List.mem_singleton.mp
    constructor
    · rw [List.map_append, List.map_append, inOrder.created]
      rfl
    · rw [List.map_append, List.map_singleton, ← List.concat_eq_append]
      refine List.Nodup.concat (fun member => ?_) inOrder.distinct
      obtain ⟨other, listed, same⟩ := List.mem_map.mp member
      exact new (same ▸ inOrder.listed other listed)
    · intro other member
      obtain old | rfl := added other member
      · exact inOrder.fresh other old
      · exact fun listed => new (progress.kept listed)
    · intro other member
      obtain old | rfl := added other member
      · exact List.mem_cons_of_mem _ (inOrder.listed other old)
      · exact List.mem_cons_self
    · refine claimed_concat inOrder.claimed (List.subset_cons_self _ _) fun _ => ?_
      rw [host]
      exact List.mem_cons_self

/-- The placement of a row is in order as far as it has to be, or its step leaves a target that is
not reported as created. -/
theorem placeableIfFirst_or_misplaced {before : List NumberedRow} {importer next : Importer}
    {row : NumberedRow} (progress : ImportProgress library recursionLimit existing before importer)
    (step : RowStep library recursionLimit importer row.2 row.1 (strippedCell row.1 .name)
      (strippedCell row.1 .host) next) :
    PlaceableIfFirst library recursionLimit existing before row ∨
      (next.created.length = importer.created.length ∧
        next.targets.length = importer.targets.length + 1) := by
  cases step with
  | blank noName noHost =>
    exact .inl fun passes => absurd passes (not_isTarget_of_blank noName noHost)
  | skipped _ known => exact .inl (progress.placeableIfFirst known)
  | refused _ _ refused =>
    exact .inl fun passes => absurd passes (not_isTarget_of_refused refused)
  | misplaced => exact .inr ⟨rfl, List.length_append⟩
  | created _ _ _ placed => exact .inl fun _ _ _ => placed

/-- A step reports no more created rows than it creates targets. -/
theorem created_step {importer next : Importer} {row : NumberedRow}
    (step : RowStep library recursionLimit importer row.2 row.1 (strippedCell row.1 .name)
      (strippedCell row.1 .host) next) :
    importer.targets.length + next.created.length ≤
      next.targets.length + importer.created.length := by
  cases step with
  | blank => exact Nat.le_refl _
  | skipped => exact Nat.le_refl _
  | refused => exact Nat.le_refl _
  | misplaced =>
    rw [List.length_append, List.length_singleton]
    exact Nat.add_le_add_right (Nat.le_succ _) _
  | created =>
    rw [List.length_append, List.length_append, List.length_singleton, List.length_singleton]
    omega

/-- An importer after some rows: its hosts and its targets are in order when each row that is the
first of its host could be placed, and else it has more targets than it reports. -/
structure ImportedSoFar (library : HostLibrary) (recursionLimit : Nat) (existing : List Text)
    (before : List NumberedRow) (importer : Importer) : Prop where
  progress : ImportProgress library recursionLimit existing before importer
  counted : importer.created.length ≤ importer.targets.length
  inOrder : Each (PlaceableIfFirst library recursionLimit existing) before →
    ImportInOrder library recursionLimit existing before importer
  outOfOrder : ¬ Each (PlaceableIfFirst library recursionLimit existing) before →
    importer.created.length < importer.targets.length

theorem ImportedSoFar.step
    (settled : ∀ chars, library.lower (library.lower chars) = library.lower chars)
    (before : List NumberedRow) (row : NumberedRow) (importer next : Importer)
    (soFar : ImportedSoFar library recursionLimit existing before importer)
    (imported : importNumbered library recursionLimit importer row = .ok next) :
    ImportedSoFar library recursionLimit existing (before ++ [row]) next := by
  have step := importNumbered_step imported
  have counts := created_step step
  have counted := soFar.counted
  refine ⟨soFar.progress.step settled step, by omega, fun each => ?_, fun failed => ?_⟩
  · obtain ⟨each, condition⟩ := FirstClaim.each_concat.mp each
    exact (soFar.inOrder each).step settled soFar.progress condition step
  · by_cases each : Each (PlaceableIfFirst library recursionLimit existing) before
    · obtain condition | ⟨same, grown⟩ := placeableIfFirst_or_misplaced soFar.progress step
      · exact absurd (FirstClaim.each_concat.mpr ⟨each, condition⟩) failed
      · omega
    · have more := soFar.outOfOrder each
      omega

/-- The importer of an import that starts. -/
theorem ImportedSoFar.start (library : HostLibrary) (recursionLimit : Nat) (existing : List Text) :
    ImportedSoFar library recursionLimit existing []
      { existingHosts := existing.map library.lower } where
  progress := ⟨.refl _, List.Subset.refl _, fun _ member => .inl member⟩
  counted := Nat.le_refl 0
  inOrder _ := {
    created := rfl
    distinct := .nil
    fresh := fun _ member => absurd member List.not_mem_nil
    listed := fun _ member => absurd member List.not_mem_nil
    claimed := fun _ member => absurd member List.not_mem_nil }
  outOfOrder failed := absurd (FirstClaim.each_nil _) failed

/-- After all rows of a file, the bad ones are isolated exactly when each row that is the first of
its host could be placed. -/
theorem ImportedSoFar.isolates_iff {rows : List NumberedRow} {importer : Importer}
    (soFar : ImportedSoFar library recursionLimit existing rows importer) :
    IsolatesRows library existing rows importer ↔
      Each (PlaceableIfFirst library recursionLimit existing) rows := by
  constructor
  · intro isolates
    by_contra failed
    have same := congrArg List.length isolates.created
    rw [List.length_map, List.length_map] at same
    exact absurd same (soFar.outOfOrder failed).ne
  · intro each
    have inOrder := soFar.inOrder each
    exact ⟨soFar.progress.reported, inOrder.created, inOrder.distinct, inOrder.fresh⟩

end Runs

/-! ### Files -/

/-- An import of a file with the required columns ends and isolates its bad rows, exactly when the
reader gets through the file, every row has its name and its host, and each row that is the first
valid one of a new host has a placement that can be written, or none. -/
theorem import_isolates_iff {library : HostLibrary}
    (settled : ∀ chars, library.lower (library.lower chars) = library.lower chars)
    (recursionLimit : Nat) (existing : List Text) {filename file : Text}
    {fieldnames : Csv.Row CodePoint} {rows : List (Csv.Row CodePoint)}
    (named : (Json.text ".csv").isSuffixOf (Strings.lower filename) = true)
    (small : utf8Size file ≤ maxCsvSize)
    (header : (Csv.readAll excelPoints (some fieldSizeLimit) (dropByteOrderMark file)).rows =
      fieldnames :: rows)
    (required : missingColumns fieldnames = []) :
    (∃ importer, importTargetsCsv library recursionLimit existing filename file = .done importer ∧
        IsolatesRows library existing (numberedRows fieldnames rows) importer) ↔
      (Csv.readAll excelPoints (some fieldSizeLimit) (dropByteOrderMark file)).failed = false ∧
        (∀ row ∈ numberedRows fieldnames rows, hasIdentity row.1 = true) ∧
          Each (PlaceableIfFirst library recursionLimit existing)
            (numberedRows fieldnames rows) := by
  have filled : fieldnames ≠ [] := by
    rintro rfl
    exact absurd required (by decide)
  have done (importer : Importer) :
      importTargetsCsv library recursionLimit existing filename file = .done importer ↔
        (Csv.readAll excelPoints (some fieldSizeLimit) (dropByteOrderMark file)).failed = false ∧
          (numberedRows fieldnames rows).foldlM (importNumbered library recursionLimit)
            { existingHosts := existing.map library.lower } = .ok importer := by
    rw [importTargetsCsv_eq_done named, header, ← importRows_eq, and_iff_right small]
    refine and_congr_right fun _ => ⟨?_, fun run => ⟨_, _, rfl, filled, required, run⟩⟩
    rintro ⟨_, _, same, -, -, run⟩
    cases same
    exact run
  have isolates (importer : Importer)
      (run : (numberedRows fieldnames rows).foldlM (importNumbered library recursionLimit)
        { existingHosts := existing.map library.lower } = .ok importer) :=
    (Fallible.foldlM_invariant (ImportedSoFar.step settled)
      (ImportedSoFar.start library recursionLimit existing) run).isolates_iff
  have returns := Fallible.foldlM_returns_iff (importNumbered_returns_iff library recursionLimit)
    (numberedRows fieldnames rows) { existingHosts := existing.map library.lower }
  constructor
  · rintro ⟨importer, ended, isolated⟩
    obtain ⟨sound, run⟩ := (done importer).mp ended
    exact ⟨sound, returns.mp ⟨importer, run⟩, (isolates importer run).mp isolated⟩
  · rintro ⟨sound, complete, each⟩
    obtain ⟨importer, run⟩ := returns.mpr complete
    exact ⟨importer, (done importer).mpr ⟨sound, run⟩, (isolates importer run).mpr each⟩

/-- A file with a valid row that has a placement, a row of the same host, and one without a name. -/
def mixedFile : Text :=
  Json.text ("host,name,username,password,loc_rack_u\n" ++
    "10.0.0.1,a,u,p,12\n10.0.0.1,b,u,p,\n10.0.0.2,,,,\n")

/-- The rows of this file. -/
def mixedRows : List NumberedRow :=
  numberedRows (["host", "name", "username", "password", "loc_rack_u"].map Json.text)
    ([["10.0.0.1", "a", "u", "p", "12"], ["10.0.0.1", "b", "u", "p", ""],
      ["10.0.0.2", "", "", "", ""]].map fun row => row.map Json.text)

theorem mixedFile_isolated :
    ∃ importer, importTargetsCsv (systemLibrary Strings.lower) 1000 [] (Json.text "targets.csv")
        mixedFile = .done importer ∧
      IsolatesRows (systemLibrary Strings.lower) [] mixedRows importer := by
  refine (import_isolates_iff Strings.lower_lower 1000 [] (by decide) (by decide +kernel)
    (by decide +kernel) (by decide)).mpr ⟨by decide +kernel, by decide +kernel, ?_⟩
  have placeable : ∀ row ∈ mixedRows, isPlaceable row.1 = true := by decide +kernel
  intro before row after split _ _ _
  have member : row ∈ mixedRows := by
    rw [show mixedRows = before ++ row :: after from split]
    exact List.mem_append_right _ List.mem_cons_self
  exact placeable row member

/-- A file whose only row is too short to have a name. -/
def shortRowFile : Text := Json.text "host,name,username,password\n10.0.0.1\n"

/-- A file with two rows of one host, the first of which has a rack unit that no column has room
for. -/
def farUnitFile : Text :=
  Json.text ("host,name,username,password,loc_rack_u\n" ++
    "10.0.0.1,a,u,p,9223372036854775808\n10.0.0.1,b,u,p,12\n")

/-- An import ends by an exception. -/
def ImportEnd.isRaised : ImportEnd → Bool
  | .raised _ => true
  | _ => false

/-- What an import leaves that ends with a report. -/
def ImportEnd.report : ImportEnd → Option Importer
  | .done importer => some importer
  | _ => none

/-- A short row aborts an import. A row that cannot be placed counts as an error, but its target is
created, and so is another one for its host. -/
theorem badRows_not_isolated :
    (importTargetsCsv (systemLibrary Strings.lower) 1000 [] (Json.text "targets.csv")
        shortRowFile).isRaised = true ∧
      ((importTargetsCsv (systemLibrary Strings.lower) 1000 [] (Json.text "targets.csv")
        farUnitFile).report.map fun importer =>
          (importer.errors.map (fun error => error.1.row), importer.created.map RowLabel.row,
            importer.targets.map fun target => target.host)) =
        some ([2], [3], [Json.text "10.0.0.1", Json.text "10.0.0.1"]) := by
  decide +kernel

end Gyanam
