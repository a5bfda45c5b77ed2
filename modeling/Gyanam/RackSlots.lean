/-
This file models how a rack of the data hall is labelled and filled. Labels are
ordered so that the numbers in them count as numbers: a label is cut into runs of
decimal digits and of other characters, and a run that consists of digits is read
as an integer. A run of other characters may consist of digits, too, of digits
that are not decimal; then the key cannot be computed.

The systems of a rack are seated one by one: those that name a rack unit first,
from the lowest up, and the others where there is room. No unit of a rack is
given to two systems.
-/

import Gyanam.Lib.Sorted
import Gyanam.Placement
import Mathlib.Data.List.SplitBy
import Mathlib.Data.Sum.Order

namespace Gyanam

open Json (CodePoint Text)

/-! ### Labels -/

/-- The name of the hall of a system that names none. -/
def unknownHall : Text := Json.text "Unassigned Hall"

/-- The name of the row of a rack that belongs to none. -/
def unknownRow : Text := Json.text "Unassigned Row"

/-- A letter of ASCII. -/
def isAsciiLetter (point : CodePoint) : Bool :=
  ('A'.toNat ≤ point.val && point.val ≤ 'Z'.toNat) ||
    ('a'.toNat ≤ point.val && point.val ≤ 'z'.toNat)

/-- The capital of a letter of ASCII. -/
def capital (point : CodePoint) : CodePoint :=
  if 'a'.toNat ≤ point.val then Json.point (point.val - 32) else point

/-- Resolve a rack's row: an explicit one, or else the letters the rack label starts with. -/
def deriveRow (locRow : Option Text) (rackName : Text) : Option Text :=
  let explicit := Strings.strip (locRow.getD [])
  let letters := (Strings.strip rackName).takeWhile isAsciiLetter
  if explicit ≠ [] then some explicit
  else if letters ≠ [] then some (letters.map capital)
  else none

/-- The runs of decimal digits and of other characters of a label. -/
def labelParts (name : Text) : List Text :=
  name.splitBy fun first second =>
    (Strings.decimalDigit first).isSome == (Strings.decimalDigit second).isSome

/-- A part of a label that is no integer, although it consists of digits. -/
structure ValueError where
  part : Text
  deriving DecidableEq

/-- The key of a label: texts and numbers, where texts come first. -/
abbrev LabelKey := List (Text ⊕ₗ Int)

/-- The key of a part of a label. -/
def partKey (lower : Text → Text) (part : Text) : Except ValueError (Text ⊕ₗ Int) :=
  if part.all Strings.isDigit then
    match Strings.toInt part with
    | some number => .ok (Sum.inrₗ number)
    | none => .error ⟨part⟩
  else .ok (Sum.inlₗ (lower part))

/-- Sort key that orders embedded numbers numerically. -/
def naturalKey (lower : Text → Text) (name : Text) : Except ValueError LabelKey :=
  (labelParts name).mapM (partKey lower)

/-- A label whose runs of digits are all decimal, and not too long to be read. -/
def Sortable (name : Text) : Prop :=
  ∀ part ∈ labelParts name, part.all Strings.isDigit = true →
    part.all (fun point => (Strings.decimalDigit point).isSome) = true ∧
      part.length ≤ Json.maxDigits

instance (name : Text) : Decidable (Sortable name) :=
  inferInstanceAs (Decidable (∀ part ∈ labelParts name, _))

/-- Exactly the sortable labels have a key. -/
theorem naturalKey_returns_iff {lower : Text → Text} {name : Text} :
    (∃ key, naturalKey lower name = .ok key) ↔ Sortable name := by
  rw [naturalKey, Fallible.mapM_returns_iff]
  refine forall₂_congr fun part member => ?_
  have filled : part ≠ [] := List.ne_nil_of_mem_splitBy member
  rw [partKey]
  split
  next digits =>
    rw [forall_prop_of_true digits, List.all_eq_true,
      ← Strings.toInt_isSome_iff filled (List.all_eq_true.mp digits)]
    cases Strings.toInt part <;> simp
  next other => simp [other]

/-- Sort entries by their labels. All keys are computed first. -/
def sortedByLabel {Value : Type} (lower : Text → Text) (entries : List (Text × Value)) :
    Except ValueError (List (Text × Value)) := do
  let keyed ← entries.mapM fun entry => do
    let key ← naturalKey lower entry.1
    return (key, entry)
  return (SortedList.byKey Prod.fst keyed).map Prod.snd

/-! ### Systems in a rack -/

/-- What the data hall shows of a system. -/
structure SystemView where
  id : TargetId
  name : Text
  host : Text
  status : Text
  hall : Option Text
  row : Option Text
  rack : Option Text
  rackU : Option Int
  height : Option Int
  unitType : Option Text
  source : Option Text
  locationCheck : Option LocationCheck
  deriving DecidableEq

/-- An integer that is there and not zero. -/
def nonzero (number : Option Int) : Option Int := number.filter (· ≠ 0)

/-- How many rack units a system takes. -/
def SystemView.unitCount (system : SystemView) (defaultHeight : Int) : Int :=
  max 1 ((nonzero system.height).getD defaultHeight)

/-- Some units of a rack, upwards from the first. -/
def unitsFrom (start : Int) (count : Int) : List Int :=
  (List.range count.toNat).map fun (offset : Nat) => start + offset

/-- The units of a rack that are taken, each with the place of its system in the list of the rack,
and the first units of the systems that were seated so far. -/
structure Seating where
  occupied : List (Int × Nat) := []
  starts : List (Nat × Option Int) := []

/-- Seat a system at the first of the units from a given one on where it fits. It is moved down to
fit below the top of the rack. -/
def Seating.place (rackHeight defaultHeight : Int) (seating : Seating)
    (request : (SystemView × Nat) × Int) : Seating :=
  let height := request.1.1.unitCount defaultHeight
  let maxStart := rackHeight - height + 1
  let first := min (max 1 request.2) maxStart
  let fits := fun unit => (unitsFrom unit height).all fun taken =>
    (seating.occupied.lookup taken).isNone
  let found :=
    if rackHeight < height then none
    else (unitsFrom first (maxStart - first + 1)).find? fits
  { occupied := (found.elim [] fun unit =>
      (unitsFrom unit height).map fun taken => (taken, request.1.2)) ++ seating.occupied
    starts := seating.starts ++ [(request.1.2, found)] }

/-- Which system is seated when, and from which unit on: those that name a unit, from the lowest up,
and then the others. -/
def seatingOrder (systems : List SystemView) : List ((SystemView × Nat) × Int) :=
  let numbered := systems.zipIdx
  let explicit := numbered.filterMap fun entry => (nonzero entry.1.rackU).map (entry, ·)
  let floating := numbered.filter fun entry => (nonzero entry.1.rackU).isNone
  SortedList.byKey Prod.snd explicit ++ floating.map (·, 1)

/-- Map the units of a rack to its systems. -/
def assignSlots (systems : List SystemView) (rackHeight defaultHeight : Int) : Seating :=
  (seatingOrder systems).foldl (Seating.place rackHeight defaultHeight) {}

/-! ### Units are given once -/

theorem mem_unitsFrom {start count unit : Int} :
    unit ∈ unitsFrom start count ↔ start ≤ unit ∧ unit < start + count := by
  rw [unitsFrom, List.mem_map]
  constructor
  · rintro ⟨offset, member, rfl⟩
    rw [List.mem_range] at member
    omega
  · rintro ⟨above, below⟩
    exact ⟨(unit - start).toNat, List.mem_range.mpr (by omega), by omega⟩

theorem nodup_unitsFrom (start count : Int) : (unitsFrom start count).Nodup :=
  List.nodup_range.map fun _ _ same => Int.ofNat.inj (Int.add_left_cancel same)

/-- What holds of a rack while it is filled: every unit is taken once and is a unit of the rack, and
a seated system has taken its units, from its first one upwards. -/
structure Seating.Sound (rackHeight : Int) (countOf : Nat → Int) (seating : Seating) : Prop where
  distinct : (seating.occupied.map Prod.fst).Nodup
  inside : ∀ entry ∈ seating.occupied, 1 ≤ entry.1 ∧ entry.1 ≤ rackHeight
  seated : ∀ index start, (index, some start) ∈ seating.starts →
    ∀ unit ∈ unitsFrom start (countOf index), (unit, index) ∈ seating.occupied

/-- A unit that nobody has taken is under no key. -/
theorem notMem_of_lookup_isNone {occupied : List (Int × Nat)} {unit : Int}
    (free : (occupied.lookup unit).isNone = true) : unit ∉ occupied.map Prod.fst := by
  rw [Option.isNone_iff_eq_none, List.lookup_eq_none_iff] at free
  intro taken
  obtain ⟨entry, listed, rfl⟩ := List.mem_map.mp taken
  exact absurd (free entry listed) (by simp)

/-- Seating one system keeps the rack in order. -/
theorem Seating.Sound.place {rackHeight defaultHeight : Int} {countOf : Nat → Int}
    {seating : Seating} (sound : seating.Sound rackHeight countOf)
    {request : (SystemView × Nat) × Int}
    (counted : request.1.1.unitCount defaultHeight = countOf request.1.2) :
    (seating.place rackHeight defaultHeight request).Sound rackHeight countOf := by
  unfold Seating.place
  simp only [counted]
  generalize seatedAt : (if rackHeight < countOf request.1.2 then none else _) = found
  cases found with
  | none =>
    refine ⟨sound.distinct, sound.inside, fun index start member => ?_⟩
    rcases List.mem_append.mp member with old | new
    · exact sound.seated index start old
    · cases List.mem_singleton.mp new
  | some unit =>
    rw [Option.ite_none_left_eq_some] at seatedAt
    obtain ⟨low, searched⟩ := seatedAt
    have reach := mem_unitsFrom.mp (List.mem_of_find?_eq_some searched)
    have fits := List.find?_some searched
    have free := List.all_eq_true.mp fits
    have atLeastOne : 1 ≤ countOf request.1.2 := by
      rw [← counted, SystemView.unitCount]
      exact le_max_left _ _
    constructor
    · rw [Option.elim_some, List.map_append, List.map_map, Function.comp_def, List.map_id']
      refine (nodup_unitsFrom _ _).append sound.distinct fun taken new old => ?_
      exact notMem_of_lookup_isNone (free taken new) old
    · intro entry member
      rw [Option.elim_some] at member
      rcases List.mem_append.mp member with new | old
      · obtain ⟨taken, within, rfl⟩ := List.mem_map.mp new
        have bounds := mem_unitsFrom.mp within
        exact ⟨by omega, by omega⟩
      · exact sound.inside entry old
    · intro index start member taken within
      rw [Option.elim_some]
      rcases List.mem_append.mp member with old | new
      · exact List.mem_append_right _ (sound.seated index start old taken within)
      · cases List.mem_singleton.mp new
        exact List.mem_append_left _ (List.mem_map.mpr ⟨taken, within, rfl⟩)

/-- The requests of a rack are its systems with their places in the list. -/
theorem mem_seatingOrder {systems : List SystemView} {request : (SystemView × Nat) × Int}
    (member : request ∈ seatingOrder systems) : request.1 ∈ systems.zipIdx := by
  rcases List.mem_append.mp member with explicit | floating
  · obtain ⟨entry, listed, named⟩ := List.mem_filterMap.mp (SortedList.mem_byKey.mp explicit)
    obtain ⟨unit, _, rfl⟩ := Option.map_eq_some_iff.mp named
    exact listed
  · obtain ⟨entry, listed, rfl⟩ := List.mem_map.mp floating
    exact (List.mem_filter.mp listed).1

/-- In a filled rack every unit is taken once, and seated systems have the units they need. -/
theorem assignSlots_sound (systems : List SystemView) (rackHeight defaultHeight : Int) :
    (assignSlots systems rackHeight defaultHeight).Sound rackHeight fun index =>
      (systems[index]?.map (·.unitCount defaultHeight)).getD 0 := by
  refine List.foldlRecOn (seatingOrder systems) _ ⟨List.nodup_nil, by simp, by simp⟩ ?_
  intro seating sound request member
  refine sound.place ?_
  rw [List.mem_zipIdx_iff_getElem?.mp (mem_seatingOrder member)]
  rfl

end Gyanam
