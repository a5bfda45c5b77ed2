/-
This file models the data hall view: the systems with a rack are grouped by hall,
row and rack, each level is sorted by its labels, and the racks are filled. The
layout of the hall is that view without its nesting: the racks with the systems
seated in them, the systems that found no seat, and those without a rack.
-/

import Gyanam.Lib.Grouping
import Gyanam.RackSlots
import Mathlib.Algebra.GroupWithZero.Nat

namespace Gyanam

open Json (Text)
open Grouping (alter)

/-! ### Systems -/

/-- The row of a target, as far as the data hall shows it. -/
structure HallTarget where
  id : TargetId
  name : Text
  host : Text
  lastPollStatus : Option Text := none
  location : Placement := {}
  locationCheck : Option LocationCheck := none
  deriving DecidableEq

/-- Does a target name a rack? -/
def HallTarget.placed (target : HallTarget) : Bool :=
  Strings.strip (target.location.rack.getD []) ≠ []

/-- What the data hall shows of a target. -/
def systemView (target : HallTarget) : SystemView where
  id := target.id
  name := target.name
  host := target.host
  status := (target.lastPollStatus.filter (· ≠ [])).getD (Json.text "pending")
  hall := target.location.hall
  row := target.location.row
  rack := target.location.rack
  rackU := target.location.rackU
  height := target.location.heightU
  unitType := target.location.unitType
  source := target.location.source
  locationCheck := target.locationCheck

namespace SystemView

/-- The hall a system is shown in. -/
def hallName (system : SystemView) : Text :=
  let name := Strings.strip (system.hall.getD [])
  if name ≠ [] then name else unknownHall

/-- The rack a system is shown in. -/
def rackName (system : SystemView) : Text := Strings.strip (system.rack.getD [])

/-- The row a system is shown in. -/
def rowName (system : SystemView) : Text :=
  (deriveRow system.row system.rackName).getD unknownRow

end SystemView

/-! ### The nested view -/

/-- The racks of a row by name, with their systems. -/
abbrev RackEntries := List (Text × List SystemView)

/-- The rows of a hall by name. -/
abbrev RowEntries := List (Text × RackEntries)

/-- The halls by name. -/
abbrev HallEntries := List (Text × RowEntries)

/-- Add a system to its rack, and whatever is missing around it. -/
def addSystem (halls : HallEntries) (system : SystemView) : HallEntries :=
  alter system.hallName []
    (alter system.rowName [] (alter system.rackName [] (· ++ [system]))) halls

/-- A system in a rack, with its resolved bottom unit. -/
structure RackSystem extends SystemView where
  startU : Option Int
  deriving DecidableEq

/-- A unit of a rack. -/
structure RackSlot where
  unit : Int
  system : Option RackSystem
  isStart : Bool
  deriving DecidableEq

structure RackView where
  name : Text
  systems : List RackSystem
  slots : List RackSlot
  deriving DecidableEq

/-- The systems of a rack that found no seat. -/
def RackView.overflow (rack : RackView) : List RackSystem :=
  rack.systems.filter fun system => system.startU.isNone

structure RowView where
  name : Text
  racks : List RackView
  deriving DecidableEq

structure HallView where
  name : Text
  rows : List RowView
  deriving DecidableEq

structure HallStats where
  total : Nat
  placed : Nat
  unplaced : Nat
  halls : Nat
  racks : Nat
  deriving DecidableEq

/-- The nested view, the systems without a rack, and the counts. -/
structure DataHallView where
  halls : List HallView
  unplaced : List SystemView
  stats : HallStats
  deriving DecidableEq

section View

variable (lower : Text → Text) (rackHeight defaultHeight : Int)

/-- Fill a rack. -/
def buildRack (entry : Text × List SystemView) : RackView :=
  let seating := assignSlots entry.2 rackHeight defaultHeight
  let systems := entry.2.zipIdx.map fun numbered =>
    { numbered.1 with startU := (seating.starts.lookup numbered.2).join : RackSystem }
  { name := entry.1
    systems := systems
    slots := (unitsFrom 1 rackHeight).reverse.map fun unit =>
      let system := (seating.occupied.lookup unit).bind fun index => systems[index]?
      { unit := unit
        system := system
        isStart := system.any fun system => system.startU = some unit } }

/-- Sort and fill the racks of a row. -/
def buildRow (entry : Text × RackEntries) : Except ValueError RowView := do
  let racks ← sortedByLabel lower entry.2
  return { name := entry.1, racks := racks.map (buildRack rackHeight defaultHeight) }

/-- Sort the rows of a hall, and build them. -/
def buildHall (entry : Text × RowEntries) : Except ValueError HallView := do
  let rows ← (← sortedByLabel lower entry.2).mapM (buildRow lower rackHeight defaultHeight)
  return { name := entry.1, rows := rows }

/-- Sort the halls, and build them. -/
def buildHalls (entries : HallEntries) : Except ValueError (List HallView) := do
  (← sortedByLabel lower entries).mapM (buildHall lower rackHeight defaultHeight)

/-- Build the nested view, the list of the unplaced systems, and the counts. -/
def buildView (targets : List HallTarget) : Except ValueError DataHallView := do
  let placed := targets.filter (·.placed)
  let unplaced := targets.filter (!·.placed)
  let halls ← buildHalls lower rackHeight defaultHeight
    ((placed.map systemView).foldl addSystem [])
  return {
    halls := halls
    unplaced := unplaced.map systemView
    stats := {
      total := targets.length
      placed := placed.length
      unplaced := unplaced.length
      halls := halls.length
      racks := (halls.map fun hall => (hall.rows.map fun row => row.racks.length).sum).sum } }

end View

/-! ### The layout -/

/-- A system that is drawn in its rack. -/
structure LayoutSystem where
  id : TargetId
  name : Text
  host : Text
  status : Text
  startU : Int
  heightU : Int
  unitType : Text
  locationCheck : Option LocationCheck
  deriving DecidableEq

/-- A rack in the layout, with the number of its systems that are not drawn. -/
structure LayoutRack where
  hall : Text
  row : Text
  rack : Text
  rowIndex : Nat
  rackIndex : Nat
  systems : List LayoutSystem
  overflow : Nat
  deriving DecidableEq

/-- A system that found no seat, with the place it was meant for. -/
structure OverflowSystem where
  id : TargetId
  name : Text
  host : Text
  status : Text
  location : Text
  deriving DecidableEq

/-- A system without a rack. -/
structure UnplacedSystem where
  id : TargetId
  name : Text
  host : Text
  status : Text
  deriving DecidableEq

/-- The layout of the data hall. -/
structure Layout where
  halls : List Text
  racks : List LayoutRack
  unplaced : List UnplacedSystem
  overflow : List OverflowSystem
  rackHeightU : Int
  defaultHeightU : Int
  counts : HallStats
  defaultUnitType : Text
  deriving DecidableEq

/-- A rack in its row and hall. -/
structure RackPlace where
  hall : Text
  row : Text
  rowIndex : Nat
  rackIndex : Nat
  rack : RackView

/-- The racks of all halls, in their order. -/
def rackPlaces (halls : List HallView) : List RackPlace :=
  halls.flatMap fun hall => hall.rows.zipIdx.flatMap fun row => row.1.racks.zipIdx.map fun rack =>
    { hall := hall.name, row := row.1.name, rowIndex := row.2, rackIndex := rack.2, rack := rack.1 }

/-- How a system is drawn, if it has a seat. -/
def layoutSystem (defaultUnitType : Text) (defaultHeight : Int) (system : RackSystem) :
    Option LayoutSystem :=
  system.startU.map fun startU => {
    id := system.id
    name := system.name
    host := system.host
    status := system.status
    startU := startU
    heightU := (nonzero system.height).getD defaultHeight
    unitType := (system.unitType.filter (· ≠ [])).getD defaultUnitType
    locationCheck := system.locationCheck }

/-- A rack in the layout. -/
def layoutRack (defaultUnitType : Text) (defaultHeight : Int) (place : RackPlace) : LayoutRack where
  hall := place.hall
  row := place.row
  rack := place.rack.name
  rowIndex := place.rowIndex
  rackIndex := place.rackIndex
  systems := place.rack.systems.filterMap (layoutSystem defaultUnitType defaultHeight)
  overflow := place.rack.overflow.length

/-- A system without a seat in the layout. -/
def overflowSystem (hall row rack : Text) (system : RackSystem) : OverflowSystem where
  id := system.id
  name := system.name
  host := system.host
  status := system.status
  location := hall ++ Json.text " / " ++ row ++ Json.text " / " ++ rack

/-- A system without a rack in the layout. -/
def unplacedSystem (system : SystemView) : UnplacedSystem where
  id := system.id
  name := system.name
  host := system.host
  status := system.status

/-- Build the layout. -/
def buildLayout (lower : Text → Text) (targets : List HallTarget) (rackHeight : Int)
    (defaultUnitType : Text) (defaultHeight : Int) : Except ValueError Layout := do
  let view ← buildView lower rackHeight defaultHeight targets
  let places := rackPlaces view.halls
  return {
    halls := view.halls.map (·.name)
    racks := places.map (layoutRack defaultUnitType defaultHeight)
    unplaced := view.unplaced.map unplacedSystem
    overflow := places.flatMap fun place =>
      place.rack.overflow.map (overflowSystem place.hall place.row place.rack.name)
    rackHeightU := rackHeight
    defaultHeightU := defaultHeight
    counts := view.stats
    defaultUnitType := defaultUnitType }

end Gyanam
