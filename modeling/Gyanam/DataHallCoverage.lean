/-
This file proves that the data hall loses no system. The nested view groups the
placed systems by hall, row and rack, and sorting and filling change neither the
groups nor their systems. So every system of a rack is drawn in it or counted
there as one without a seat.

The view can only be built if all labels can be sorted. A label with digits that
are not decimal, such as a superscript, makes it fail for the whole fleet.
-/

import Gyanam.DataHall

namespace Gyanam

open Json (Text)
open Grouping (Groups keys)

/-! ### The groups -/

/-- The place of a system: its hall, row and rack. -/
def SystemView.path (system : SystemView) : Text × Text × Text :=
  (system.hallName, system.rowName, system.rackName)

/-- The racks of a row group its systems. -/
abbrev RackGroups : RackEntries → List SystemView → Prop := Groups SystemView.rackName Eq

/-- The rows of a hall group its systems. -/
abbrev RowGroups : RowEntries → List SystemView → Prop := Groups SystemView.rowName RackGroups

/-- The halls group all systems. -/
abbrev HallGroups : HallEntries → List SystemView → Prop := Groups SystemView.hallName RowGroups

/-- Adding a system keeps the groups. -/
theorem HallGroups.addSystem {halls : HallEntries} {systems : List SystemView}
    (groups : HallGroups halls systems) (system : SystemView) :
    HallGroups (addSystem halls system) (systems ++ [system]) := by
  refine Groups.concat groups (Groups.nil _ _) fun rows members rowGroups => ?_
  refine Groups.concat rowGroups (Groups.nil _ _) fun racks members rackGroups => ?_
  exact Groups.concat rackGroups rfl fun _ _ same => same ▸ rfl

/-- The halls that are built from a list of systems group them. -/
theorem hallGroups_foldl (systems : List SystemView) :
    HallGroups (systems.foldl addSystem []) systems := by
  induction systems using List.reverseRecOn with
  | nil => exact Groups.nil _ _
  | append_singleton systems system inductionHypothesis =>
    rw [List.foldl_append]
    exact inductionHypothesis.addSystem system

/-! ### Sorting and filling -/

section Build

variable {lower : Text → Text} {rackHeight defaultHeight : Int}

/-- Entries are sorted exactly when each label has a key. -/
theorem sortedByLabel_returns_iff (lower : Text → Text) {Value : Type}
    (entries : List (Text × Value)) :
    (∃ sorted, sortedByLabel lower entries = .ok sorted) ↔
      ∀ label ∈ keys entries, Sortable label := by
  simp only [sortedByLabel, Fallible.bind_eq_ok]
  constructor
  · rintro ⟨_, keyed, returned, _⟩ label listed
    obtain ⟨value, member⟩ := Grouping.mem_keys.mp listed
    obtain ⟨_, found⟩ := Fallible.mapM_returns_iff.mp ⟨keyed, returned⟩ _ member
    obtain ⟨key, computed, _⟩ := Fallible.bind_eq_ok.mp found
    exact naturalKey_returns_iff.mp ⟨key, computed⟩
  · intro sortable
    obtain ⟨keyed, returned⟩ : ∃ keyed, entries.mapM (fun entry => do
        let key ← naturalKey lower entry.1
        return (key, entry)) = Except.ok (ε := ValueError) keyed := by
      refine Fallible.mapM_returns_iff.mpr fun entry member => ?_
      obtain ⟨key, computed⟩ := naturalKey_returns_iff.mpr
        (sortable entry.1 (List.mem_map_of_mem member))
      exact ⟨_, Fallible.bind_eq_ok.mpr ⟨key, computed, rfl⟩⟩
    exact ⟨_, keyed, returned, rfl⟩

/-- Sorting only reorders. -/
theorem perm_of_sortedByLabel {Value : Type} {entries sorted : List (Text × Value)}
    (returned : sortedByLabel lower entries = .ok sorted) : sorted.Perm entries := by
  obtain ⟨keyed, computed, same⟩ := Fallible.bind_eq_ok.mp returned
  obtain rfl := Except.ok.inj same
  have items : keyed.map Prod.snd = entries := by
    refine Fallible.map_of_mapM (fun found => ?_) computed
    obtain ⟨_, _, same⟩ := Fallible.bind_eq_ok.mp found
    rw [← Except.ok.inj same]
  exact ((SortedList.byKey_perm _ _).map _).trans (List.Perm.of_eq items)

/-- Entries are sorted and built exactly when their labels can be sorted and each can be built. -/
theorem sortAndBuild_returns_iff {Value View : Type} (lower : Text → Text)
    (build : Text × Value → Except ValueError View) (entries : List (Text × Value)) :
    (∃ views, (sortedByLabel lower entries >>= fun sorted => sorted.mapM build) = .ok views) ↔
      (∀ label ∈ keys entries, Sortable label) ∧
        ∀ entry ∈ entries, ∃ view, build entry = .ok view := by
  rw [← sortedByLabel_returns_iff lower]
  simp only [Fallible.bind_eq_ok]
  constructor
  · rintro ⟨views, sorted, returned, built⟩
    refine ⟨⟨sorted, returned⟩, fun entry member => ?_⟩
    exact Fallible.mapM_returns_iff.mp ⟨views, built⟩ entry
      ((perm_of_sortedByLabel returned).mem_iff.mpr member)
  · rintro ⟨⟨sorted, returned⟩, each⟩
    obtain ⟨views, built⟩ := Fallible.mapM_returns_iff.mpr fun entry member =>
      each entry ((perm_of_sortedByLabel returned).mem_iff.mp member)
    exact ⟨views, sorted, returned, built⟩

/-- What is sorted and built groups the same systems, if each view is over the systems of its
entry. -/
theorem groups_of_sortAndBuild {Value View : Type} {build : Text × Value → Except ValueError View}
    {name : View → Text} {keyOf : SystemView → Text} {collects : Value → List SystemView → Prop}
    {collects' : View → List SystemView → Prop}
    (shows : ∀ {entry view}, build entry = .ok view →
      name view = entry.1 ∧ ∀ members, collects entry.2 members → collects' view members)
    {entries : List (Text × Value)} {views : List View} {systems : List SystemView}
    (groups : Groups keyOf collects entries systems)
    (returned : (sortedByLabel lower entries >>= fun sorted => sorted.mapM build) = .ok views) :
    Groups keyOf collects' (views.map fun view => (name view, view)) systems := by
  obtain ⟨sorted, returned, built⟩ := Fallible.bind_eq_ok.mp returned
  refine (groups.perm (perm_of_sortedByLabel returned)).congr ?_
  rw [List.forall₂_map_right_iff]
  exact (Fallible.forall₂_of_mapM built).imp fun _ _ found => shows found

/-- A filled rack has these systems. -/
def RackView.Holds (rack : RackView) (members : List SystemView) : Prop :=
  rack.systems.map RackSystem.toSystemView = members

/-- The racks of a row have these systems. -/
def RowView.Holds (row : RowView) (members : List SystemView) : Prop :=
  Groups SystemView.rackName RackView.Holds (row.racks.map fun rack => (rack.name, rack)) members

/-- The rows of a hall have these systems. -/
def HallView.Holds (hall : HallView) (members : List SystemView) : Prop :=
  Groups SystemView.rowName RowView.Holds (hall.rows.map fun row => (row.name, row)) members

theorem buildRack_holds (entry : Text × List SystemView) :
    (buildRack rackHeight defaultHeight entry).Holds entry.2 := by
  simp [RackView.Holds, buildRack, Function.comp_def]

theorem holds_of_buildRow {entry : Text × RackEntries} {row : RowView}
    (built : buildRow lower rackHeight defaultHeight entry = .ok row) :
    row.name = entry.1 ∧ ∀ members, RackGroups entry.2 members → row.Holds members := by
  obtain ⟨racks, returned, same⟩ := Fallible.bind_eq_ok.mp built
  obtain rfl := Except.ok.inj same
  refine ⟨rfl, fun members groups => ?_⟩
  refine (groups.perm (perm_of_sortedByLabel returned)).congr ?_
  rw [List.map_map, List.forall₂_map_right_iff, List.forall₂_same]
  exact fun rack _ => ⟨rfl, fun _ same => same ▸ buildRack_holds rack⟩

theorem holds_of_buildHall {entry : Text × RowEntries} {hall : HallView}
    (built : buildHall lower rackHeight defaultHeight entry = .ok hall) :
    hall.name = entry.1 ∧ ∀ members, RowGroups entry.2 members → hall.Holds members := by
  obtain ⟨sorted, returned, rest⟩ := Fallible.bind_eq_ok.mp built
  obtain ⟨rows, each, same⟩ := Fallible.bind_eq_ok.mp rest
  obtain rfl := Except.ok.inj same
  exact ⟨rfl, fun members groups => groups_of_sortAndBuild holds_of_buildRow groups
    (Fallible.bind_eq_ok.mpr ⟨sorted, returned, each⟩)⟩

/-- The halls that are built have the systems of the groups. -/
theorem holds_of_buildHalls {entries : HallEntries} {halls : List HallView}
    {systems : List SystemView} (groups : HallGroups entries systems)
    (built : buildHalls lower rackHeight defaultHeight entries = .ok halls) :
    Groups SystemView.hallName HallView.Holds (halls.map fun hall => (hall.name, hall)) systems :=
  groups_of_sortAndBuild holds_of_buildHall groups built

/-! ### When the halls are built -/

theorem buildRow_returns_iff {entry : Text × RackEntries} :
    (∃ row, buildRow lower rackHeight defaultHeight entry = .ok row) ↔
      ∀ label ∈ keys entry.2, Sortable label := by
  rw [← sortedByLabel_returns_iff lower]
  simp only [buildRow, Fallible.bind_eq_ok]
  constructor
  · rintro ⟨_, racks, returned, _⟩
    exact ⟨racks, returned⟩
  · rintro ⟨racks, returned⟩
    exact ⟨_, racks, returned, rfl⟩

theorem buildHall_returns_iff {entry : Text × RowEntries} :
    (∃ hall, buildHall lower rackHeight defaultHeight entry = .ok hall) ↔
      (∀ label ∈ keys entry.2, Sortable label) ∧
        ∀ row ∈ entry.2, ∀ label ∈ keys row.2, Sortable label := by
  have rows := sortAndBuild_returns_iff lower (buildRow lower rackHeight defaultHeight) entry.2
  simp only [buildRow_returns_iff] at rows
  rw [← rows]
  simp only [buildHall, Fallible.bind_eq_ok]
  constructor
  · rintro ⟨_, sorted, returned, rows, each, _⟩
    exact ⟨rows, sorted, returned, each⟩
  · rintro ⟨rows, sorted, returned, each⟩
    exact ⟨_, sorted, returned, rows, each, rfl⟩

/-- The halls are built exactly when all labels of their systems can be sorted. -/
theorem buildHalls_returns_iff {entries : HallEntries} {systems : List SystemView}
    (groups : HallGroups entries systems) :
    (∃ halls, buildHalls lower rackHeight defaultHeight entries = .ok halls) ↔
      ∀ system ∈ systems, Sortable system.hallName ∧ Sortable system.rowName ∧
        Sortable system.rackName := by
  have built := sortAndBuild_returns_iff lower (buildHall lower rackHeight defaultHeight) entries
  simp only [buildHall_returns_iff] at built
  have inRacks : ∀ (racks : RackEntries) members, RackGroups racks members →
      ((∀ label ∈ keys racks, Sortable label) ↔ ∀ system ∈ members, Sortable system.rackName) :=
    fun _ _ rackGroups => rackGroups.forall_keys
  have inRows : ∀ (rows : RowEntries) members, RowGroups rows members →
      (((∀ label ∈ keys rows, Sortable label) ∧
          ∀ row ∈ rows, ∀ label ∈ keys row.2, Sortable label) ↔
        ∀ system ∈ members, Sortable system.rowName ∧ Sortable system.rackName) := by
    intro rows members rowGroups
    rw [rowGroups.forall_keys, rowGroups.forall_values inRacks]
    simp only [forall_and]
  rw [buildHalls, built, groups.forall_keys, groups.forall_values inRows]
  simp only [forall_and]

end Build

/-! ### The racks of the layout -/

/-- The racks by their places. -/
def placeEntries (halls : List HallView) : List ((Text × Text × Text) × RackView) :=
  (rackPlaces halls).map fun place => ((place.hall, place.row, place.rack.name), place.rack)

theorem placeEntries_eq (halls : List HallView) :
    placeEntries halls = halls.flatMap fun hall => hall.rows.flatMap fun row =>
      row.racks.map fun rack => ((hall.name, row.name, rack.name), rack) := by
  have rows : ∀ (hall : HallView) (parts : RowView → List ((Text × Text × Text) × RackView)),
      (hall.rows.zipIdx.flatMap fun row => parts row.1) = hall.rows.flatMap parts := by
    intro hall parts
    rw [← List.flatMap_map Prod.fst, List.zipIdx_map_fst]
  have racks : ∀ (row : RowView) (entry : RackView → (Text × Text × Text) × RackView),
      (row.racks.zipIdx.map fun rack => entry rack.1) = row.racks.map entry := by
    intro row entry
    rw [← List.zipIdx_map_fst 0 row.racks, List.map_map, List.zipIdx_map_fst]
    rfl
  simp only [placeEntries, rackPlaces, List.map_flatMap, List.map_map, Function.comp_def]
  refine List.flatMap_congr fun hall _ => ?_
  rw [← rows]
  exact List.flatMap_congr fun row _ =>
    racks row.1 fun rack => ((hall.name, row.1.name, rack.name), rack)

/-- The racks group the systems by their places. -/
theorem groups_placeEntries {halls : List HallView} {systems : List SystemView}
    (groups : Groups SystemView.hallName HallView.Holds (halls.map fun hall => (hall.name, hall))
      systems) :
    Groups SystemView.path RackView.Holds (placeEntries halls) systems := by
  have inHall : ∀ (hall : HallView) members, hall.Holds members →
      Groups (fun system => (system.rowName, system.rackName)) RackView.Holds
        (hall.rows.flatMap fun row => row.racks.map fun rack => ((row.name, rack.name), rack))
        members := by
    intro hall members holds
    have inRow : ∀ (row : RowView) members, row.Holds members →
        Groups SystemView.rackName RackView.Holds (row.racks.map fun rack => (rack.name, rack))
          members := fun _ _ holds => holds
    have flat := Groups.flatten holds inRow
    simpa [List.flatMap_map, Function.comp_def] using flat
  have flat := groups.flatten inHall
  rw [placeEntries_eq]
  change Groups (fun system : SystemView => (system.hallName, system.rowName, system.rackName))
    _ _ _
  simpa [List.flatMap_map, List.map_flatMap, Function.comp_def] using flat

/-! ### What the layout shows -/

/-- The ids of the systems of a layout: those that are drawn in racks, those without a seat and
those without a rack. -/
def Layout.shown (layout : Layout) : List TargetId :=
  layout.racks.flatMap (fun rack => rack.systems.map (·.id)) ++ layout.overflow.map (·.id) ++
    layout.unplaced.map (·.id)

/-- The targets that belong in a rack of the layout. -/
def LayoutRack.targets (rack : LayoutRack) (targets : List HallTarget) : List HallTarget :=
  targets.filter fun target =>
    target.placed && decide ((systemView target).path = (rack.hall, rack.row, rack.rack))

/-- A layout that shows every target exactly once and counts right: in each rack the systems without
a seat, and over all racks the targets with and without a place. -/
structure Layout.ShowsAll (layout : Layout) (targets : List HallTarget) : Prop where
  once : ∀ target ∈ targets, layout.shown.count target.id = 1
  known : ∀ id ∈ layout.shown, id ∈ targets.map (·.id)
  overflow : ∀ rack ∈ layout.racks, rack.overflow =
    (layout.overflow.filter fun system => system.id ∈ (rack.targets targets).map (·.id)).length
  total : layout.counts.total = targets.length
  sum : layout.counts.total = layout.counts.placed + layout.counts.unplaced

/-- The drawn systems of a rack and those without a seat are its systems. -/
theorem perm_rack_ids (rack : RackView) (defaultUnitType : Text) (defaultHeight : Int) :
    ((rack.systems.filterMap (layoutSystem defaultUnitType defaultHeight)).map (·.id) ++
      rack.overflow.map (·.id)).Perm (rack.systems.map (·.id)) := by
  have drawn : (rack.systems.filterMap (layoutSystem defaultUnitType defaultHeight)).map (·.id) =
      (rack.systems.filter fun system => system.startU.isSome).map (·.id) := by
    induction rack.systems with
    | nil => rfl
    | cons system rest inductionHypothesis =>
      cases seat : system.startU with
      | none => simp [layoutSystem, seat, inductionHypothesis]
      | some startU => simp [layoutSystem, seat, inductionHypothesis]
  rw [drawn, RackView.overflow, ← List.map_append]
  refine List.Perm.map _ ?_
  simpa using List.filter_append_perm (fun system : RackSystem => system.startU.isSome) rack.systems

section Layout

variable {lower : Text → Text} {targets : List HallTarget} {rackHeight defaultHeight : Int}
  {defaultUnitType : Text}

/-- A layout is made from halls that group the placed targets. -/
theorem of_buildLayout {layout : Layout}
    (built : buildLayout lower targets rackHeight defaultUnitType defaultHeight = .ok layout) :
    ∃ halls : List HallView, Groups SystemView.path RackView.Holds (placeEntries halls)
        ((targets.filter (·.placed)).map systemView) ∧
      layout.racks = (rackPlaces halls).map (layoutRack defaultUnitType defaultHeight) ∧
      layout.overflow = (placeEntries halls).flatMap (fun entry =>
        entry.2.overflow.map (overflowSystem entry.1.1 entry.1.2.1 entry.1.2.2)) ∧
      layout.unplaced = (targets.filter (!·.placed)).map (unplacedSystem ∘ systemView) ∧
      layout.counts.total = targets.length ∧
      layout.counts.placed = (targets.filter (·.placed)).length ∧
      layout.counts.unplaced = (targets.filter (!·.placed)).length := by
  obtain ⟨view, viewed, same⟩ := Fallible.bind_eq_ok.mp built
  obtain ⟨halls, returned, made⟩ := Fallible.bind_eq_ok.mp viewed
  obtain rfl := Except.ok.inj made
  obtain rfl := Except.ok.inj same
  refine ⟨halls, groups_placeEntries (holds_of_buildHalls (hallGroups_foldl _) returned), rfl, ?_,
    by simp, rfl, rfl, rfl⟩
  rw [placeEntries, List.flatMap_map]

/-- The layout is built exactly when the labels of all placed targets can be sorted. -/
theorem buildLayout_returns_iff :
    (∃ layout, buildLayout lower targets rackHeight defaultUnitType defaultHeight = .ok layout) ↔
      ∀ target ∈ targets, target.placed = true → Sortable (systemView target).hallName ∧
        Sortable (systemView target).rowName ∧ Sortable (systemView target).rackName := by
  have halls : (∃ halls, buildHalls lower rackHeight defaultHeight
      (((targets.filter (·.placed)).map systemView).foldl addSystem []) = .ok halls) ↔ _ :=
    buildHalls_returns_iff (hallGroups_foldl _)
  rw [List.forall_mem_map, List.forall_mem_filter] at halls
  rw [← halls]
  simp only [buildLayout, buildView, Fallible.bind_eq_ok]
  constructor
  · rintro ⟨_, _, ⟨halls, returned, _⟩, _⟩
    exact ⟨halls, returned⟩
  · rintro ⟨halls, returned⟩
    exact ⟨_, _, ⟨halls, returned, rfl⟩, rfl⟩

/-- The systems that a layout shows are those of the targets. -/
theorem perm_shown {layout : Layout}
    (built : buildLayout lower targets rackHeight defaultUnitType defaultHeight = .ok layout) :
    layout.shown.Perm (targets.map (·.id)) := by
  obtain ⟨halls, groups, racks, overflow, unplaced, _⟩ := of_buildLayout built
  have seated : layout.racks.flatMap (fun rack => rack.systems.map (·.id)) =
      (placeEntries halls).flatMap fun entry =>
        (entry.2.systems.filterMap (layoutSystem defaultUnitType defaultHeight)).map (·.id) := by
    rw [racks, placeEntries, List.flatMap_map, List.flatMap_map]
    rfl
  have seatless : layout.overflow.map (·.id) =
      (placeEntries halls).flatMap fun entry => entry.2.overflow.map (·.id) := by
    rw [overflow, List.map_flatMap]
    simp only [List.map_map]
    rfl
  have inRacks : ((placeEntries halls).flatMap fun entry => entry.2.systems.map (·.id)).Perm
      ((targets.filter (·.placed)).map (·.id)) := by
    have systems := groups.perm_flatMap fun _ _ holds => holds
    have ids := systems.map (·.id)
    rw [List.map_flatMap, List.map_map] at ids
    simpa [Function.comp_def, systemView] using ids
  have outside : layout.unplaced.map (·.id) = (targets.filter (!·.placed)).map (·.id) := by
    rw [unplaced, List.map_map]
    rfl
  rw [Layout.shown, seated, seatless, outside]
  refine (((List.flatMap_append_perm _ _ _).trans ?_).trans inRacks |>.append_right _).trans ?_
  · exact List.Perm.flatMap_left _ fun entry _ => perm_rack_ids entry.2 _ _
  · rw [← List.map_append]
    exact (List.filter_append_perm _ _).map _

/-- A system in a rack is that of a target that belongs there. -/
theorem exists_target {halls : List HallView}
    (groups : Groups SystemView.path RackView.Holds (placeEntries halls)
      ((targets.filter (·.placed)).map systemView))
    {entry : (Text × Text × Text) × RackView} (listed : entry ∈ placeEntries halls)
    {system : RackSystem} (seated : system ∈ entry.2.systems) :
    ∃ target ∈ targets, target.placed = true ∧ (systemView target).path = entry.1 ∧
      target.id = system.id := by
  have members := groups.collects entry listed
  have member : system.toSystemView ∈ entry.2.systems.map RackSystem.toSystemView :=
    List.mem_map_of_mem seated
  rw [members, List.mem_filter, decide_eq_true_eq] at member
  obtain ⟨target, placed, same⟩ := List.mem_map.mp member.1
  rw [List.mem_filter] at placed
  refine ⟨target, placed.1, placed.2, same ▸ member.2, ?_⟩
  exact congrArg SystemView.id same

/-- A rack counts those of its targets that are in the list of the systems without a seat. -/
theorem overflow_eq (distinct : (targets.map (·.id)).Nodup) {layout : Layout}
    (built : buildLayout lower targets rackHeight defaultUnitType defaultHeight = .ok layout) :
    ∀ rack ∈ layout.racks, rack.overflow =
      (layout.overflow.filter fun system =>
        system.id ∈ (rack.targets targets).map (·.id)).length := by
  obtain ⟨halls, groups, racks, overflow, _⟩ := of_buildLayout built
  intro rack member
  rw [racks] at member
  obtain ⟨place, listed, rfl⟩ := List.mem_map.mp member
  have entry : ((place.hall, place.row, place.rack.name), place.rack) ∈ placeEntries halls :=
    List.mem_map.mpr ⟨place, listed, rfl⟩
  rw [overflow, Grouping.filter_flatMap_eq groups.nodup entry, List.length_map]
  · rfl
  · intro part found
    obtain ⟨system, seatless, rfl⟩ := List.mem_map.mp found
    obtain ⟨target, member, placed, path, same⟩ :=
      exists_target groups entry (List.mem_filter.mp seatless).1
    refine decide_eq_true (List.mem_map.mpr ⟨target, List.mem_filter.mpr ⟨member, ?_⟩, same⟩)
    rw [placed, path]
    exact decide_eq_true rfl
  · intro other listed apart part found
    obtain ⟨system, seatless, rfl⟩ := List.mem_map.mp found
    obtain ⟨target, member, _, path, same⟩ :=
      exists_target groups listed (List.mem_filter.mp seatless).1
    refine decide_eq_false fun inside => ?_
    obtain ⟨there, belongs, sameId⟩ := List.mem_map.mp inside
    rw [LayoutRack.targets, List.mem_filter, Bool.and_eq_true, decide_eq_true_eq] at belongs
    have one : there = target :=
      List.inj_on_of_nodup_map distinct belongs.1 member (sameId.trans same.symm)
    exact apart (path.symm.trans (one ▸ belongs.2.2))

end Layout

/-- Two systems in one rack, of which one is too tall for it, and a system without a rack. -/
def threeTargets : List HallTarget := [
  { id := 1, name := Json.text "a", host := Json.text "10.0.0.1"
    location := { hall := some (Json.text "H9"), rack := some (Json.text "G12")
                  rackU := some 3 } },
  { id := 2, name := Json.text "b", host := Json.text "10.0.0.2"
    location := { hall := some (Json.text "H9"), rack := some (Json.text "G12")
                  heightU := some 60 } },
  { id := 3, name := Json.text "c", host := Json.text "10.0.0.3" }]

/-- A hall whose name is a superscript two. -/
def superscriptHall : List HallTarget := [
  { id := 1, name := Json.text "a", host := Json.text "10.0.0.1"
    location := { hall := some [Json.point 0xB2], rack := some (Json.text "G12") } }]

end Gyanam
