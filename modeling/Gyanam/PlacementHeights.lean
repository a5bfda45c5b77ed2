/-
This file follows the height of a system over placements and heights that are
written to its row, none of them forced. A placement brings its source along with
its height. A height that is written alone does not: it is guarded by the source
of the row, and leaves that source as it is.

So a height that a BMC reports stands against the names of the system when it is
written together with a placement, or to a row that a BMC has placed before.
Otherwise the next placement by name brings its own height.
-/

import Gyanam.PlacementStore

namespace Gyanam

open Json (Text)
open Precedence (Write)

/-! ### Writes to a row -/

/-- A write to the row of a target that is not forced. -/
inductive PlacementWrite where
  | place (placement : Placement)
  | resize (heightU : Int) (source : Text)

namespace PlacementWrite

/-- The call that makes the write. -/
def call : PlacementWrite → RepositoryCall
  | .place placement => .setTargetLocation placement false
  | .resize heightU source => .setTargetHeight heightU source

/-- The row after a write. -/
def perform (target : PlacedTarget) (write : PlacementWrite) : PlacedTarget :=
  write.call.rewrite target

/-- The row after some writes. -/
def performAll (target : PlacedTarget) (writes : List PlacementWrite) : PlacedTarget :=
  writes.foldl perform target

theorem performAll_append (target : PlacedTarget) (writes later : List PlacementWrite) :
    performAll target (writes ++ later) = performAll (performAll target writes) later :=
  List.foldl_append

theorem performAll_cons (target : PlacedTarget) (write : PlacementWrite)
    (later : List PlacementWrite) :
    performAll target (write :: later) = performAll (write.perform target) later := rfl

/-- The source a write is guarded by. -/
def source : PlacementWrite → Option Text
  | .place placement => placement.source
  | .resize _ source => some source

/-- A write of a rank below the trust in the place of a row leaves the row alone. -/
theorem perform_of_lt {target : PlacedTarget} {write : PlacementWrite}
    (lower : sourceRank write.source < target.trust) : write.perform target = target := by
  cases write with
  | place placement =>
    exact (setLocation_unforced target placement).trans (Write.apply_of_lt lower)
  | resize heightU source =>
    exact (setHeight_eq target heightU source).trans (Write.apply_of_lt lower)

/-- A placement that lands becomes the location of the row. -/
theorem location_of_place {target : PlacedTarget} {placement : Placement}
    (lands : target.trust ≤ sourceRank placement.source) :
    (perform target (.place placement)).location = placement := by
  have landed := setLocation_unforced target placement
  rw [Write.apply, if_pos (show target.trust ≤ placement.write.rank from lands)] at landed
  exact congrArg PlacedTarget.location landed

/-- A height leaves the source of the row, whether it lands or not. -/
theorem source_of_resize (target : PlacedTarget) (heightU : Int) (source : Text) :
    (perform target (.resize heightU source)).location.source = target.location.source := by
  have written := setHeight_eq target heightU source
  rw [Write.apply] at written
  refine (congrArg (fun row => row.location.source) written).trans ?_
  split
  next => rfl
  next => rfl

/-- A write never lowers the trust in the place of a row. -/
theorem trust_le_perform (target : PlacedTarget) (write : PlacementWrite) :
    target.trust ≤ (write.perform target).trust := by
  cases write with
  | place placement =>
    rw [perform, call, RepositoryCall.rewrite, setLocation_unforced]
    exact Write.rank_le_apply (fun _ lands => lands) target
  | resize heightU source =>
    rw [perform, call, RepositoryCall.rewrite, setHeight_eq]
    exact Write.rank_le_apply (fun _ _ => le_refl _) target

/-- Nor do any number of writes. -/
theorem trust_le_performAll (target : PlacedTarget) (writes : List PlacementWrite) :
    target.trust ≤ (performAll target writes).trust := by
  induction writes generalizing target with
  | nil => exact le_refl _
  | cons write later inductionHypothesis =>
    exact (trust_le_perform target write).trans (inductionHypothesis _)

/-! ### Heights that a BMC reports -/

/-- A write brings a height into the row of a target, with the source of a BMC. -/
def ReportsHeight (target : PlacedTarget) (write : PlacementWrite) : Prop :=
  write.source = some (Json.text "redfish") ∧
    target.trust ≤ sourceRank (some (Json.text "redfish")) ∧
    match write with
    | .place placement => placement.heightU.isSome
    | .resize _ _ => True

/-- A placement that a name gives. -/
def FromHostname : PlacementWrite → Prop
  | .place placement => placement.source = some (Json.text "hostname")
  | .resize _ _ => False

/-- Does the row of a target say after a report that a BMC placed it? The report is a placement, or
the row said so before. -/
def RecordsSource (target : PlacedTarget) : PlacementWrite → Prop
  | .place _ => True
  | .resize _ _ => target.location.source = some (Json.text "redfish")

theorem rank_of_fromHostname {named : PlacementWrite} (fromHostname : named.FromHostname) :
    sourceRank named.source = 1 := by
  cases named with
  | place placement =>
    rw [source, show placement.source = _ from fromHostname]
    decide
  | resize heightU source => exact fromHostname.elim

/-- Only a BMC is trusted as much as a BMC. -/
theorem source_of_rank {source : Option Text} (rank : sourceRank source = 2) :
    source = some (Json.text "redfish") := by
  cases source with
  | none => exact absurd rank (by decide)
  | some text =>
    have listed : sourcePrecedence.lookup text = some 2 := by
      rw [sourceRank, Option.getD_some] at rank
      cases found : sourcePrecedence.lookup text with
      | none =>
        rw [found] at rank
        cases rank
      | some value =>
        rw [found] at rank
        exact congrArg some rank
    obtain ⟨before, after, same, _⟩ := List.lookup_eq_some_iff.mp listed
    have member : (text, 2) ∈ sourcePrecedence := same ▸ List.mem_append_right _ (.head _)
    unfold sourcePrecedence at member
    simpa using member

/-- A report that lands leaves a row that is trusted less than a BMC exactly when it does not record
its source. -/
theorem trust_lt_iff {target : PlacedTarget} {report : PlacementWrite}
    (reported : report.ReportsHeight target) :
    (report.perform target).trust < 2 ↔ ¬ report.RecordsSource target := by
  obtain ⟨redfish, lands, _⟩ := reported
  cases report with
  | place placement =>
    have placed : (perform target (.place placement)).trust = 2 := by
      rw [PlacedTarget.trust, location_of_place (by rwa [show placement.source = _ from redfish]),
        show placement.source = _ from redfish]
      decide
    rw [placed]
    exact iff_of_false (lt_irrefl 2) fun records => records trivial
  | resize heightU source =>
    have same : (perform target (.resize heightU source)).trust = target.trust := by
      rw [PlacedTarget.trust, source_of_resize, PlacedTarget.trust]
    rw [same]
    constructor
    · intro low records
      rw [PlacedTarget.trust, show target.location.source = _ from records] at low
      exact absurd low (by decide)
    · intro other
      exact lt_of_le_of_ne lands fun trusted => other (source_of_rank trusted)

/-- A row that is trusted as a BMC is, or more, keeps its place against names, after any number of
writes. -/
theorem performAll_concat_named {target : PlacedTarget} {named : PlacementWrite}
    (trusted : 2 ≤ target.trust) (fromHostname : named.FromHostname)
    (between : List PlacementWrite) :
    performAll target (between ++ [named]) = performAll target between := by
  rw [performAll_append]
  refine perform_of_lt ?_
  rw [rank_of_fromHostname fromHostname]
  exact trusted.trans (trust_le_performAll target between)

end PlacementWrite

open PlacementWrite

/-- In every run of writes, a height that a BMC reports and that lands stands against all later
placements by name, whatever is written in between, exactly when the report records its source. -/
theorem bmc_height_stands_iff (target : PlacedTarget) (before : List PlacementWrite)
    (report : PlacementWrite) (reported : report.ReportsHeight (performAll target before)) :
    (∀ (between : List PlacementWrite) (named : PlacementWrite), named.FromHostname →
      (performAll target (before ++ report :: (between ++ [named]))).location.heightU =
        (performAll target (before ++ report :: between)).location.heightU) ↔
      report.RecordsSource (performAll target before) := by
  have after : ∀ later, performAll target (before ++ report :: later) =
      performAll (report.perform (performAll target before)) later := fun later => by
    rw [performAll_append, performAll_cons]
  constructor
  · intro stands
    by_contra forgotten
    -- The next placement by name lands, with any height it brings.
    have low := (trust_lt_iff reported).mpr forgotten
    set row := report.perform (performAll target before) with row_def
    have lands : row.trust ≤ sourceRank (some (Json.text "hostname")) := by
      rw [show sourceRank (some (Json.text "hostname")) = 1 from by decide]
      exact Nat.le_of_lt_succ low
    have kept : ∀ heightU, some heightU = row.location.heightU := by
      intro heightU
      let named : Placement := { heightU := some heightU, source := some (Json.text "hostname") }
      have same := stands [] (.place named) rfl
      rw [after, after, List.nil_append, performAll_cons] at same
      refine Eq.trans ?_ same
      exact (congrArg Placement.heightU (@location_of_place _ named lands)).symm
    exact absurd ((kept 0).trans (kept 1).symm) (by decide)
  · intro records between named fromHostname
    have trusted : 2 ≤ (report.perform (performAll target before)).trust :=
      not_lt.mp fun low => (trust_lt_iff reported).mp low records
    rw [after, after, performAll_concat_named trusted fromHostname]

/-- A height of eight units, reported with a rack. -/
def reportedPlacement : Placement where
  rack := some (Json.text "B2")
  heightU := some 8
  source := some (Json.text "redfish")

/-- The place that the name of the system gives. -/
def namedPlacement : Placement where
  rack := some (Json.text "g7")
  heightU := some 4
  unitType := some (Json.text "OpenU")
  source := some (Json.text "hostname")

/-- Reported with a rack, the height stands when the name places the system again. -/
theorem reportedPlacement_stands :
    (performAll unplacedTarget ([.place namedPlacement] ++ .place reportedPlacement ::
      ([.resize 6 (Json.text "hostname")] ++ [.place namedPlacement]))).location.heightU =
      some 8 :=
  ((bmc_height_stands_iff unplacedTarget [.place namedPlacement] (.place reportedPlacement)
    ⟨rfl, by decide, rfl⟩).mpr trivial [.resize 6 (Json.text "hostname")] (.place namedPlacement)
    rfl).trans (by decide)

/-- Reported alone, it does not: the name has placed the system before, and does so again. -/
theorem reportedHeight_replaced :
    parseSystemLocation letterAndDigits rackNames unplacedTarget.name unplacedTarget.host =
      some namedPlacement ∧
    ReportsHeight (performAll unplacedTarget [.place namedPlacement])
      (.resize 8 (Json.text "redfish")) ∧
    FromHostname (.place namedPlacement) ∧
    (performAll unplacedTarget
      [.place namedPlacement, .resize 8 (Json.text "redfish")]).location.heightU = some 8 ∧
    (performAll unplacedTarget [.place namedPlacement, .resize 8 (Json.text "redfish"),
      .place namedPlacement]).location.heightU = some 4 :=
  ⟨by decide, ⟨rfl, by decide, trivial⟩, rfl, by decide, by decide⟩

end Gyanam
