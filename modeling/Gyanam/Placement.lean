/-
This file models where a system sits in the data hall, and the three places this
is read from: the name of the system (or its host), the location its BMC reports,
and the form an operator fills in. A placement says where it comes from, and each
source has a rank of trust.

What regular expressions match and how a text is lower-cased are parameters, and
so is how Python prints a value that is no text.
-/

import Gyanam.Lib.Strings
import Gyanam.Models

namespace Gyanam

open Json (CodePoint Text)

/-! ### Placements and their sources -/

/-- The source of a system that an operator has cleared. -/
def pinnedSource : Text := Json.text "pinned"

/-- The ranks of trust of the sources. -/
def sourcePrecedence : List (Text × Nat) := [
  (Json.text "hostname", 1),
  (Json.text "redfish", 2),
  (Json.text "manual", 3),
  (pinnedSource, 4)]

/-- The trust rank of a placement source, zero for none and for an unknown one. -/
def sourceRank (source : Option Text) : Nat := (sourcePrecedence.lookup (source.getD [])).getD 0

/-- Where a system sits in the data hall. -/
structure Placement where
  site : Option Text := none
  hall : Option Text := none
  row : Option Text := none
  rack : Option Text := none
  rackU : Option Int := none
  heightU : Option Int := none
  unitType : Option Text := none
  source : Option Text := none
  deriving DecidableEq

namespace Placement

/-- Was any physical coordinate resolved? -/
def hasLocation (placement : Placement) : Bool :=
  [placement.hall, placement.row, placement.rack].any (fun label => label.any (· ≠ [])) ||
    placement.rackU.isSome

end Placement

/-- Whether a placement of a new source may replace one of an existing source. -/
def shouldOverwrite (existingSource newSource : Option Text) : Bool :=
  sourceRank existingSource ≤ sourceRank newSource

/-! ### Names -/

/-- What the library says about names: how a text is lower-cased, the named groups of a pattern that
matches the start of a text, and what a pattern captures of a text it matches as a whole. A pattern
that is no regular expression matches nothing. -/
structure NameLibrary where
  lower : Text → Text
  groups : Text → Text → Option (List (Text × Option Text))
  capture : Text → Text → Option (Option Text)

/-- A rule for the tokens of a name. -/
structure TokenRule where
  field : Text
  pattern : Text

/-- The configuration of placements. -/
structure LocationConfig where
  defaultSystemHeightU : Int := 4
  defaultUnitType : Text := Json.text "OpenU"
  namePatterns : List Text := []
  tokenRules : List TokenRule

/-- The fields that a rule or a group may set. -/
inductive PlacementField where
  | site
  | hall
  | row
  | rack
  | rackU
  | height
  deriving DecidableEq, Repr

/-- The fields by name. -/
def validFields : List (Text × PlacementField) := [
  (Json.text "site", .site),
  (Json.text "hall", .hall),
  (Json.text "row", .row),
  (Json.text "rack", .rack),
  (Json.text "rack_u", .rackU),
  (Json.text "height", .height)]

namespace Placement

/-- Set a field from a captured string, if it is not already set. A number that cannot be read is
not set. -/
def assign (placement : Placement) (field : PlacementField) (raw : Text) : Placement :=
  match field with
  | .site => { placement with site := placement.site.or (some raw) }
  | .hall => { placement with hall := placement.hall.or (some raw) }
  | .row => { placement with row := placement.row.or (some raw) }
  | .rack => { placement with rack := placement.rack.or (some raw) }
  | .rackU => { placement with rackU := placement.rackU.or (Strings.toInt raw) }
  | .height => { placement with heightU := placement.heightU.or (Strings.toInt raw) }

/-- Set a field by its name, if it has one and something was captured. -/
def assignNamed (placement : Placement) (field : Text) (raw : Option Text) : Placement :=
  match validFields.lookup field, raw with
  | some field, some raw => placement.assign field raw
  | _, _ => placement

end Placement

/-- Match the whole host against positional patterns with named groups. -/
def tryNamePatterns (library : NameLibrary) (host : Text) (patterns : List Text) :
    Option Placement :=
  patterns.findSome? fun pattern => do
    let groups ← library.groups pattern host
    let placement := groups.foldl (fun placement group =>
      placement.assignNamed group.1 group.2) ({} : Placement)
    if placement.hasLocation then some placement else none

/-- Does a code point separate the tokens of a name? -/
def isTokenMark (point : CodePoint) : Bool :=
  ['-', '_', '.'].any fun mark => decide (point = Json.point mark.toNat)

/-- Scan the tokens of a host. The first rule for a field that matches a token claims it. -/
def tryTokenRules (library : NameLibrary) (host : Text) (rules : List TokenRule) :
    Option Placement :=
  let tokens := (host.splitOnP isTokenMark).filter (· ≠ [])
  let placement := tokens.foldl (fun placement token =>
    match (rules.filter fun rule => (validFields.lookup rule.field).isSome).findSome? fun rule =>
        (library.capture rule.pattern token).map fun raw => (rule.field, raw) with
    | some (field, raw) => placement.assignNamed field raw
    | none => placement) ({} : Placement)
  if placement.hasLocation then some placement else none

/-- Resolve a placement from a host. A name with dots counts up to the first. -/
def parseHostname (library : NameLibrary) (config : LocationConfig) (host : Text) :
    Option Placement :=
  if Strings.strip host = [] then none
  else
    let short := library.lower ((Strings.strip host).takeWhile (· ≠ Json.point '.'.toNat))
    let found := (tryNamePatterns library short config.namePatterns).or
      (tryTokenRules library short config.tokenRules)
    found.map fun placement =>
      { placement with
        source := some (Json.text "hostname")
        heightU := placement.heightU.or (some config.defaultSystemHeightU)
        unitType := placement.unitType.or (some config.defaultUnitType) }

/-- Resolve a placement from a target's naming, preferring the system name. -/
def parseSystemLocation (library : NameLibrary) (config : LocationConfig) (name host : Text) :
    Option Placement :=
  (parseHostname library config name).or (parseHostname library config host)

/-! ### Reported locations -/

/-- The members of an object. -/
def objectMembers : Json → Option (List (Text × Json))
  | .object members => some members
  | _ => none

/-- A value as a text: a text is one already. -/
def printedText (printed : Json → Text) : Json → Text
  | .string chars => chars
  | value => printed value

/-- A member that counts as true, as a text. -/
def labelOf (printed : Json → Text) (members : List (Text × Json)) (key : Text) : Option Text :=
  ((Json.getMember members key).filter Json.truthy).map (printedText printed)

/-- The rack unit of a reported placement, if it is an integer. -/
def rackOffset (members : List (Text × Json)) : Option Int :=
  match Json.getMember members (Json.text "RackOffset") with
  | some (.int offset) => some offset
  | _ => none

/-- The unit type of a reported placement. -/
def rackOffsetUnits (members : List (Text × Json)) (defaultUnitType : Text) : Text :=
  match Json.getMember members (Json.text "RackOffsetUnits") with
  | some (.string units) =>
    if units = Json.text "EIA_310" ∨ units = Json.text "OpenU" then units else defaultUnitType
  | _ => defaultUnitType

/-- Build a placement from a location of Redfish. -/
def placementFromLocation (printed : Json → Text) (location : Option Json)
    (defaultUnitType : Text) : Placement :=
  match location.bind objectMembers with
  | none => {}
  | some location =>
    let hall := do
      let postal ← (Json.getMember location (Json.text "PostalAddress")).bind objectMembers
      (labelOf printed postal (Json.text "Room")).or (labelOf printed postal (Json.text "Building"))
    match (Json.getMember location (Json.text "Placement")).bind objectMembers with
    | none => { hall := hall }
    | some placement =>
      { hall := hall
        row := labelOf printed placement (Json.text "Row")
        rack := labelOf printed placement (Json.text "Rack")
        rackU := rackOffset placement
        unitType := some (rackOffsetUnits placement defaultUnitType) }

/-- What an inventory says about the place of a system. Its placement is one that a BMC reports. -/
structure Inventory where
  placement : Option Placement
  heightU : Option Int
  reported : ∀ found ∈ placement, found.source = some (Json.text "redfish")

/-- The inventory of a chassis: its location, if there is one, and its height in rack units. -/
def collectInventory (printed : Json → Text) (location : Option Json) (defaultUnitType : Text)
    (heightU : Option Int) : Inventory where
  placement :=
    let placement := placementFromLocation printed location defaultUnitType
    if placement.hasLocation then some { placement with source := some (Json.text "redfish") }
    else none
  heightU := heightU
  reported := by
    intro found reported
    simp only [Option.mem_def] at reported
    split at reported
    next => exact Option.some.inj reported ▸ rfl
    next => cases reported

/-- What comparing two placements says. -/
inductive LocationCheck where
  | agree
  | mismatch
  deriving DecidableEq, Repr

/-- A label for comparison. -/
def normalLabel (library : NameLibrary) (label : Option Text) : Option Text :=
  (some (library.lower (Strings.strip (label.getD [])))).filter (· ≠ [])

/-- Compare the halls and racks of two placements, where both have them. -/
def checkLocation (library : NameLibrary) (namePlacement redfishPlacement : Option Placement) :
    Option LocationCheck := do
  let named ← namePlacement
  let reported ← redfishPlacement
  let pairs := [(named.hall, reported.hall), (named.rack, reported.rack)].filterMap fun pair => do
    return (← normalLabel library pair.1, ← normalLabel library pair.2)
  if pairs = [] then none
  else if pairs.all fun pair => pair.1 = pair.2 then some .agree
  else some .mismatch

/-! ### Forms -/

/-- A refused request. -/
structure HttpError where
  status : Nat
  detail : Text
  deriving DecidableEq

/-- The form an operator places a system with. -/
structure PlacementForm where
  hall : Option Text := none
  row : Option Text := none
  rack : Option Text := none
  rackU : Option Text := none
  height : Option Text := none
  unitType : Option Text := none

/-- A stripped text, if it is not empty. -/
def formText (raw : Option Text) : Option Text :=
  (some (Strings.strip (raw.getD []))).filter (· ≠ [])

/-- A positive integer of a form, if there is one. -/
def optInt (raw : Option Text) : Except HttpError (Option Int) :=
  match formText raw with
  | none => .ok none
  | some raw =>
    match Strings.toInt raw with
    | some value => if value < 1 then .error refused else .ok (some value)
    | none => .error refused
where
  refused : HttpError := ⟨400, Json.text "rack_u and height must be positive integers"⟩

/-- The placement that a form asks for. -/
def PlacementForm.placement (form : PlacementForm) (config : LocationConfig) :
    Except HttpError Placement := do
  let rackU ← optInt form.rackU
  let height ← optInt form.height
  let placement : Placement := {
    hall := formText form.hall
    row := formText form.row
    rack := formText form.rack
    rackU := rackU
    heightU := some (height.getD config.defaultSystemHeightU)
    unitType := some ((formText form.unitType).getD config.defaultUnitType)
    source := some (Json.text "manual") }
  if placement.hasLocation then .ok placement
  else .error ⟨400, Json.text "A rack (or at least one coordinate) is required"⟩

end Gyanam
