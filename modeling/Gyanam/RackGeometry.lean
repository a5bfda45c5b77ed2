/-
This file is about the geometry of a rack after its systems were seated. Seating
one system is told once: it gets no seat, because it is taller than the rack or
because no run of units is free where it looks, or the first free run there. All
else is read off that.

A system looks for its seat only from the unit it asks for upwards. So a system
may be left without a seat although a run is free below that unit.
-/

import Gyanam.RackSlots
import Mathlib.Data.List.Induction

namespace Gyanam

/-! ### Seating one system -/

/-- The unit a system looks from: the one it asks for, moved into the rack. -/
def clampedUnit (rackHeight height unit : Int) : Int :=
  min (max 1 unit) (rackHeight - height + 1)

/-- Are so many units free, upwards from one? -/
def Seating.Free (seating : Seating) (unit height : Int) : Prop :=
  ∀ taken ∈ unitsFrom unit height, taken ∉ seating.occupied.map Prod.fst

instance (seating : Seating) (unit height : Int) : Decidable (seating.Free unit height) :=
  inferInstanceAs (Decidable (∀ taken ∈ unitsFrom unit height, _))

/-- The seat of a system of some height that looks from a unit on. -/
inductive Seat (rackHeight height first : Int) (seating : Seating) : Option Int → Prop
  | tooTall (tall : rackHeight < height) : Seat rackHeight height first seating none
  | noRun (fits : height ≤ rackHeight)
    (taken : ∀ unit, first ≤ unit → unit ≤ rackHeight - height + 1 → ¬ seating.Free unit height) :
    Seat rackHeight height first seating none
  | at_ {unit : Int} (fits : height ≤ rackHeight) (low : first ≤ unit)
    (high : unit ≤ rackHeight - height + 1) (free : seating.Free unit height)
    (least : ∀ lower, first ≤ lower → lower < unit → ¬ seating.Free lower height) :
    Seat rackHeight height first seating (some unit)

/-- A seated system takes its units, and what it got is noted. -/
def Seating.seat (seating : Seating) (height : Int) (index : Nat) (found : Option Int) :
    Seating where
  occupied := (found.elim [] fun unit =>
    (unitsFrom unit height).map fun taken => (taken, index)) ++ seating.occupied
  starts := seating.starts ++ [(index, found)]

theorem free_iff (seating : Seating) (unit height : Int) :
    ((unitsFrom unit height).all fun taken => (seating.occupied.lookup taken).isNone) = true ↔
      seating.Free unit height := by
  rw [List.all_eq_true]
  refine forall₂_congr fun taken _ => ⟨notMem_of_lookup_isNone, fun absent => ?_⟩
  rw [Option.isNone_iff_eq_none, List.lookup_eq_none_iff]
  intro entry member
  rw [bne_iff_ne]
  rintro rfl
  exact absent (List.mem_map_of_mem member)

theorem sorted_unitsFrom (start count : Int) : (unitsFrom start count).Pairwise (· < ·) := by
  rw [unitsFrom, List.pairwise_map]
  refine List.pairwise_lt_range.imp fun below => ?_
  omega

/-- What is found first among some units is the least. -/
theorem least_of_find? {start count unit : Int} {holds : Int → Bool}
    (found : (unitsFrom start count).find? holds = some unit) :
    ∀ lower, start ≤ lower → lower < unit → holds lower = false := by
  obtain ⟨_, before, after, split, fails⟩ := List.find?_eq_some_iff_append.mp found
  intro lower above below
  have reach := mem_unitsFrom.mp (List.mem_of_find?_eq_some found)
  have sorted := sorted_unitsFrom start count
  have member : lower ∈ unitsFrom start count := mem_unitsFrom.mpr ⟨above, below.trans reach.2⟩
  rw [split] at member sorted
  rw [List.pairwise_append, List.pairwise_cons] at sorted
  rcases List.mem_append.mp member with earlier | later
  · simpa using fails lower earlier
  · rcases List.mem_cons.mp later with rfl | beyond
    · exact absurd below (lt_irrefl lower)
    · exact absurd (below.trans (sorted.2.1.1 lower beyond)) (lt_irrefl lower)

/-- What seating a system does. -/
theorem place_cases (rackHeight defaultHeight : Int) (seating : Seating)
    (request : (SystemView × Nat) × Int) :
    ∃ found, Seat rackHeight (request.1.1.unitCount defaultHeight)
        (clampedUnit rackHeight (request.1.1.unitCount defaultHeight) request.2) seating found ∧
      seating.place rackHeight defaultHeight request =
        seating.seat (request.1.1.unitCount defaultHeight) request.1.2 found := by
  refine ⟨_, ?_, rfl⟩
  generalize request.1.1.unitCount defaultHeight = height
  simp only [← clampedUnit.eq_def]
  split
  next tall => exact .tooTall tall
  next fits =>
    rw [not_lt] at fits
    cases searched : (unitsFrom (clampedUnit rackHeight height request.2)
      (rackHeight - height + 1 - clampedUnit rackHeight height request.2 + 1)).find? _ with
    | none =>
      rw [List.find?_eq_none] at searched
      refine .noRun fits fun unit low high free => searched unit ?_ ((free_iff _ _ _).mpr free)
      exact mem_unitsFrom.mpr ⟨low, by omega⟩
    | some unit =>
      have reach := mem_unitsFrom.mp (List.mem_of_find?_eq_some searched)
      have free := List.find?_some searched
      refine .at_ fits reach.1 (by omega) ((free_iff _ _ _).mp free) ?_
      intro lower above below free
      exact absurd ((free_iff _ _ _).mpr free) (by simp [least_of_find? searched lower above below])

/-- A seat is inside the rack. -/
theorem Seat.inside {rackHeight height unit start : Int} {seating : Seating}
    (seat : Seat rackHeight height (clampedUnit rackHeight height unit) seating (some start)) :
    1 ≤ start ∧ start + height ≤ rackHeight + 1 := by
  cases seat with
  | at_ fits low high free least =>
    unfold clampedUnit at low
    omega

/-! ### What a rack holds -/

/-- What the units of a rack say of its systems: a system with a seat has the units upwards from it,
inside the rack, and no other unit is given to it. -/
structure Seating.Exact (rackHeight : Int) (countOf : Nat → Int) (seating : Seating) : Prop where
  inside : ∀ index start, (index, some start) ∈ seating.starts →
    1 ≤ start ∧ start + countOf index ≤ rackHeight + 1
  owned : ∀ unit index, (unit, index) ∈ seating.occupied ↔
    ∃ start, (index, some start) ∈ seating.starts ∧ unit ∈ unitsFrom start (countOf index)

/-- Seating one system keeps the units exact. -/
theorem Seating.Exact.place {rackHeight defaultHeight : Int} {countOf : Nat → Int}
    {seating : Seating} (exact : seating.Exact rackHeight countOf)
    {request : (SystemView × Nat) × Int}
    (counted : request.1.1.unitCount defaultHeight = countOf request.1.2) :
    (seating.place rackHeight defaultHeight request).Exact rackHeight countOf := by
  obtain ⟨found, seat, placed⟩ := place_cases rackHeight defaultHeight seating request
  rw [placed]
  rw [counted] at seat ⊢
  constructor
  · intro index start member
    rcases List.mem_append.mp member with old | new
    · exact exact.inside index start old
    · obtain ⟨rfl, rfl⟩ := Prod.mk.inj (List.mem_singleton.mp new)
      exact seat.inside
  · intro unit index
    rw [Seating.seat, List.mem_append, exact.owned]
    simp only [List.mem_append, List.mem_singleton, Prod.mk.injEq, or_and_right, exists_or]
    rw [or_comm]
    refine or_congr_right ?_
    cases found with
    | none => simp
    | some start =>
      simp only [Option.elim_some, List.mem_map, Prod.mk.injEq, Option.some.injEq]
      constructor
      · rintro ⟨taken, within, rfl, rfl⟩
        exact ⟨start, ⟨rfl, rfl⟩, within⟩
      · rintro ⟨_, ⟨rfl, rfl⟩, within⟩
        exact ⟨unit, within, rfl, rfl⟩

/-- The rack after some systems were seated. -/
def seatedAfter (rackHeight defaultHeight : Int) (requests : List ((SystemView × Nat) × Int)) :
    Seating :=
  requests.foldl (Seating.place rackHeight defaultHeight) {}

theorem starts_seatedAfter (rackHeight defaultHeight : Int)
    (requests : List ((SystemView × Nat) × Int)) :
    (seatedAfter rackHeight defaultHeight requests).starts.map Prod.fst =
      requests.map fun request => request.1.2 := by
  induction requests using List.reverseRecOn with
  | nil => rfl
  | append_singleton requests request inductionHypothesis =>
    rw [seatedAfter, List.foldl_append, List.map_append, ← inductionHypothesis]
    exact List.map_append

/-- What a system got is still noted when the rack is filled. -/
theorem mem_starts_of_split {rackHeight defaultHeight : Int}
    {before : List ((SystemView × Nat) × Int)} (after : List ((SystemView × Nat) × Int))
    {request : (SystemView × Nat) × Int}
    {found : Option Int}
    (placed : (seatedAfter rackHeight defaultHeight before).place rackHeight defaultHeight request =
      (seatedAfter rackHeight defaultHeight before).seat
        (request.1.1.unitCount defaultHeight) request.1.2 found) :
    (request.1.2, found) ∈
      (seatedAfter rackHeight defaultHeight (before ++ request :: after)).starts := by
  have own : (request.1.2, found) ∈
      ((seatedAfter rackHeight defaultHeight before).place rackHeight defaultHeight
        request).starts := by
    rw [placed]
    exact List.mem_append_right _ (List.mem_singleton_self _)
  rw [seatedAfter, List.foldl_append, List.foldl_cons]
  refine List.foldlRecOn (motive := fun seating : Seating => (request.1.2, found) ∈ seating.starts)
    after _ own fun seating member later _ => ?_
  exact List.mem_append_left _ member

/-! ### The order of the systems -/

section Order

variable (systems : List SystemView)

/-- Does the system at a place of the list name a unit? -/
def IsExplicit (index : Nat) : Prop := ∃ system, systems[index]? = some system ∧
  (nonzero system.rackU).isSome = true

/-- Every system is seated once. -/
theorem perm_seatingOrder : ((seatingOrder systems).map Prod.fst).Perm systems.zipIdx := by
  have explicit : ((systems.zipIdx.filterMap fun entry =>
      (nonzero entry.1.rackU).map (entry, ·)).map Prod.fst) =
        systems.zipIdx.filter fun entry => (nonzero entry.1.rackU).isSome := by
    rw [List.map_filterMap, ← List.filterMap_eq_filter]
    refine List.filterMap_congr fun entry _ => ?_
    cases named : nonzero entry.1.rackU <;> simp [Option.guard, named]
  have floating : (systems.zipIdx.filter fun entry => (nonzero entry.1.rackU).isNone) =
      systems.zipIdx.filter fun entry => !(nonzero entry.1.rackU).isSome := by
    refine List.filter_congr fun entry _ => ?_
    cases nonzero entry.1.rackU <;> rfl
  rw [seatingOrder, List.map_append, List.map_map]
  refine (((SortedList.byKey_perm _ _).map Prod.fst).append_right _).trans ?_
  rw [explicit, floating, Function.comp_def, List.map_id']
  exact List.filter_append_perm _ _

theorem perm_indices :
    ((seatingOrder systems).map fun request => request.1.2).Perm (List.range systems.length) := by
  have perm := (perm_seatingOrder systems).map Prod.snd
  rwa [List.map_map, List.zipIdx_map_snd, ← List.range_eq_range'] at perm

variable {systems}

/-- The systems that name a unit come first. -/
theorem explicit_first : (seatingOrder systems).Pairwise fun earlier later =>
    IsExplicit systems later.1.2 → IsExplicit systems earlier.1.2 := by
  rw [seatingOrder, List.pairwise_append]
  have explicit : ∀ request ∈ SortedList.byKey Prod.snd (systems.zipIdx.filterMap fun entry =>
      (nonzero entry.1.rackU).map (entry, ·)), IsExplicit systems request.1.2 := by
    intro request member
    obtain ⟨entry, listed, named⟩ := List.mem_filterMap.mp (SortedList.mem_byKey.mp member)
    obtain ⟨unit, found, rfl⟩ := Option.map_eq_some_iff.mp named
    exact ⟨entry.1, List.mem_zipIdx_iff_getElem?.mp listed, by rw [found]; rfl⟩
  have floating : ∀ request ∈ (systems.zipIdx.filter fun entry =>
      (nonzero entry.1.rackU).isNone).map (·, (1 : Int)), ¬ IsExplicit systems request.1.2 := by
    intro request member
    obtain ⟨entry, kept, rfl⟩ := List.mem_map.mp member
    obtain ⟨listed, unnamed⟩ := List.mem_filter.mp kept
    rintro ⟨system, found, named⟩
    rw [List.mem_zipIdx_iff_getElem?.mp listed] at found
    obtain rfl := Option.some.inj found
    simp [Option.isNone_iff_eq_none.mp unnamed] at named
  refine ⟨?_, ?_, fun earlier first _ _ _ => explicit earlier first⟩
  · exact List.pairwise_of_forall_mem_list fun earlier first _ _ _ => explicit earlier first
  · exact List.pairwise_of_forall_mem_list fun _ _ later last names =>
      absurd names (floating later last)

/-- A system that names a unit is seated from that unit on. -/
theorem mem_seatingOrder_of_explicit {system : SystemView} {index : Nat} {unit : Int}
    (listed : systems[index]? = some system) (named : nonzero system.rackU = some unit) :
    ((system, index), unit) ∈ seatingOrder systems := by
  refine List.mem_append_left _ (SortedList.mem_byKey.mpr (List.mem_filterMap.mpr ?_))
  exact ⟨(system, index), List.mem_zipIdx_iff_getElem?.mpr listed, by rw [named]; rfl⟩

/-- A system is seated from the unit it names on, or from the lowest. -/
theorem unit_of_mem_seatingOrder {request : (SystemView × Nat) × Int}
    (member : request ∈ seatingOrder systems) :
    nonzero request.1.1.rackU = some request.2 ∨ request.2 = 1 := by
  rcases List.mem_append.mp member with explicit | floating
  · obtain ⟨entry, _, named⟩ := List.mem_filterMap.mp (SortedList.mem_byKey.mp explicit)
    obtain ⟨unit, found, rfl⟩ := Option.map_eq_some_iff.mp named
    exact .inl found
  · obtain ⟨entry, _, rfl⟩ := List.mem_map.mp floating
    exact .inr rfl

end Order

/-! ### Layouts -/

/-- The height a system is seated with, by its place in the list. -/
def heightAt (systems : List SystemView) (defaultHeight : Int) (index : Nat) : Int :=
  (systems[index]?.map (·.unitCount defaultHeight)).getD 0

/-- A sound layout of a rack: every system is seated or left without a seat, once; a seated one has
its units inside the rack; the map sends exactly these units to it, and no unit twice; systems that
name a unit come before those that do not; and such a system is at the unit it names, moved into the
rack, when its units upwards from there were free at its turn. -/
structure SoundLayout (systems : List SystemView) (rackHeight defaultHeight : Int)
    (seating : Seating) : Prop where
  resolved : (seating.starts.map Prod.fst).Perm (List.range systems.length)
  inside : ∀ index start, (index, some start) ∈ seating.starts →
    1 ≤ start ∧ start + heightAt systems defaultHeight index - 1 ≤ rackHeight
  sends : ∀ unit index, seating.occupied.lookup unit = some index ↔
    ∃ start, (index, some start) ∈ seating.starts ∧
      start ≤ unit ∧ unit ≤ start + heightAt systems defaultHeight index - 1
  once : (seating.occupied.map Prod.fst).Nodup
  explicitFirst : (seating.starts.map Prod.fst).Pairwise fun earlier later =>
    IsExplicit systems later → IsExplicit systems earlier
  asRequested : ∀ index system unit, systems[index]? = some system →
    nonzero system.rackU = some unit →
      ∃ before after, seatingOrder systems = before ++ ((system, index), unit) :: after ∧
        (system.unitCount defaultHeight ≤ rackHeight →
          (seatedAfter rackHeight defaultHeight before).Free
            (clampedUnit rackHeight (system.unitCount defaultHeight) unit)
            (system.unitCount defaultHeight) →
          (index, some (clampedUnit rackHeight (system.unitCount defaultHeight) unit)) ∈
            seating.starts)

theorem assignSlots_exact (systems : List SystemView) (rackHeight defaultHeight : Int) :
    (assignSlots systems rackHeight defaultHeight).Exact rackHeight
      (heightAt systems defaultHeight) := by
  refine List.foldlRecOn (motive := fun seating : Seating =>
    seating.Exact rackHeight (heightAt systems defaultHeight)) (seatingOrder systems) _
      ⟨by simp, by simp⟩ fun seating exact request member => ?_
  refine exact.place ?_
  rw [heightAt, List.mem_zipIdx_iff_getElem?.mp (mem_seatingOrder member)]
  rfl

/-- A system that looks from a unit on, where its units are free, is seated there. -/
theorem Seat.eq_first {rackHeight height unit : Int} {seating : Seating} {found : Option Int}
    (seat : Seat rackHeight height (clampedUnit rackHeight height unit) seating found)
    (fits : height ≤ rackHeight)
    (free : seating.Free (clampedUnit rackHeight height unit) height) :
    found = some (clampedUnit rackHeight height unit) := by
  cases seat with
  | tooTall tall => omega
  | noRun fits taken => exact absurd free (taken _ (le_refl _) (min_le_right _ _))
  | @at_ start _ low high _ least =>
    rcases low.lt_or_eq with above | same
    · exact absurd free (least _ (le_refl _) above)
    · rw [same]

/-- Every list of systems, whatever heights they and the rack have, gets a sound layout. -/
theorem rack_layout_sound (systems : List SystemView) (rackHeight defaultHeight : Int) :
    SoundLayout systems rackHeight defaultHeight
      (assignSlots systems rackHeight defaultHeight) := by
  have exact := assignSlots_exact systems rackHeight defaultHeight
  have once := (assignSlots_sound systems rackHeight defaultHeight).distinct
  have indices := starts_seatedAfter rackHeight defaultHeight (seatingOrder systems)
  refine ⟨?_, ?_, ?_, once, ?_, ?_⟩
  · exact indices ▸ perm_indices systems
  · intro index start member
    have inside := exact.inside index start member
    omega
  · intro unit index
    have listed : (assignSlots systems rackHeight defaultHeight).occupied.lookup unit = some index ↔
        (unit, index) ∈ (assignSlots systems rackHeight defaultHeight).occupied := by
      exact (Table.mk _ once).get_eq_some_iff
    rw [listed, exact.owned]
    refine exists_congr fun start => and_congr_right fun _ => ?_
    rw [mem_unitsFrom]
    omega
  · rw [show (assignSlots systems rackHeight defaultHeight).starts.map Prod.fst = _ from indices,
      List.pairwise_map]
    exact explicit_first
  · intro index system unit listed named
    obtain ⟨before, after, split⟩ :=
      List.append_of_mem (mem_seatingOrder_of_explicit listed named)
    refine ⟨before, after, split, fun fits free => ?_⟩
    obtain ⟨found, seat, placed⟩ := place_cases rackHeight defaultHeight
      (seatedAfter rackHeight defaultHeight before) ((system, index), unit)
    have noted := mem_starts_of_split after placed
    rw [seat.eq_first fits free, ← split] at noted
    exact noted

/-! ### Systems without a seat -/

/-- A system that found no seat could not have one: it is taller than the rack, or at its turn no
run of its height was free anywhere in the rack. -/
def OverflowsRightly (rackHeight height : Int) (seating : Seating) : Prop :=
  rackHeight < height ∨
    ∀ unit, 1 ≤ unit → unit + height - 1 ≤ rackHeight → ¬ seating.Free unit height

/-- At the turn of a system that fits into the rack, a run of its height is free from a unit below
the one it looks from, but none is from there upwards. -/
def RoomOnlyBelow (rackHeight height unit : Int) (seating : Seating) : Prop :=
  height ≤ rackHeight ∧
    (∃ lower, 1 ≤ lower ∧ lower < clampedUnit rackHeight height unit ∧ seating.Free lower height) ∧
    ∀ higher, clampedUnit rackHeight height unit ≤ higher → higher + height - 1 ≤ rackHeight →
      ¬ seating.Free higher height

/-- A system is left without a seat by mistake exactly when room is only below. -/
theorem Seat.none_rightly_iff {rackHeight height unit : Int} {seating : Seating}
    {found : Option Int}
    (seat : Seat rackHeight height (clampedUnit rackHeight height unit) seating found) :
    (found = none → OverflowsRightly rackHeight height seating) ↔
      ¬ RoomOnlyBelow rackHeight height unit seating := by
  cases seat with
  | tooTall tall => exact iff_of_true (fun _ => .inl tall) fun below => absurd below.1 (by omega)
  | noRun fits taken =>
    constructor
    · rintro rightly ⟨_, ⟨lower, inside, below, free⟩, _⟩
      rcases rightly rfl with tall | nowhere
      · exact absurd fits (by omega)
      · have top := min_le_right (max 1 unit) (rackHeight - height + 1)
        exact nowhere lower inside (by unfold clampedUnit at below; omega) free
    · intro room _
      refine .inr fun lower inside fitting free => room ⟨fits, ⟨lower, inside, ?_, free⟩, ?_⟩
      · by_contra above
        exact taken lower (by omega) (by omega) free
      · exact fun higher low high => taken higher low (by omega)
  | @at_ start _ low high free _ =>
    refine iff_of_true (fun absent => by cases absent) ?_
    rintro ⟨_, _, taken⟩
    exact taken start low (by omega) free

/-- A system that names no unit looks everywhere. -/
theorem not_roomOnlyBelow_floating {rackHeight height : Int} {seating : Seating} :
    ¬ RoomOnlyBelow rackHeight height 1 seating := by
  rintro ⟨_, ⟨lower, inside, below, _⟩, _⟩
  unfold clampedUnit at below
  omega

/-- In every rack, whatever units and heights are asked for, each system without a seat is taller
than the rack or had no free run of its height at its turn, exactly when no system that names a unit
has room only below it at its turn. -/
theorem overflow_only_when_full_iff (systems : List SystemView) (rackHeight defaultHeight : Int) :
    (∀ before request after, seatingOrder systems = before ++ request :: after →
        (request.1.2, none) ∈ (assignSlots systems rackHeight defaultHeight).starts →
          OverflowsRightly rackHeight (request.1.1.unitCount defaultHeight)
            (seatedAfter rackHeight defaultHeight before)) ↔
      ∀ before system index unit after,
        seatingOrder systems = before ++ ((system, index), unit) :: after →
          nonzero system.rackU = some unit →
            ¬ RoomOnlyBelow rackHeight (system.unitCount defaultHeight) unit
              (seatedAfter rackHeight defaultHeight before) := by
  have turn : ∀ before request after, seatingOrder systems = before ++ request :: after →
      (((request.1.2, none) ∈ (assignSlots systems rackHeight defaultHeight).starts →
          OverflowsRightly rackHeight (request.1.1.unitCount defaultHeight)
            (seatedAfter rackHeight defaultHeight before)) ↔
        ¬ RoomOnlyBelow rackHeight (request.1.1.unitCount defaultHeight) request.2
          (seatedAfter rackHeight defaultHeight before)) := by
    intro before request after split
    obtain ⟨found, seat, placed⟩ := place_cases rackHeight defaultHeight
      (seatedAfter rackHeight defaultHeight before) request
    have noted := mem_starts_of_split after placed
    rw [← split] at noted
    have unseated : (request.1.2, none) ∈ (assignSlots systems rackHeight defaultHeight).starts ↔
        found = none := by
      constructor
      · intro member
        have layout := rack_layout_sound systems rackHeight defaultHeight
        have distinct := layout.resolved.nodup_iff.mpr List.nodup_range
        exact congrArg Prod.snd (List.inj_on_of_nodup_map distinct noted member rfl)
      · rintro rfl
        exact noted
    rw [unseated]
    exact seat.none_rightly_iff
  constructor
  · intro rightly before system index unit after split _
    exact (turn before _ after split).mp (rightly before _ after split)
  · intro never before request after split
    refine (turn before request after split).mpr fun below => ?_
    have member : request ∈ seatingOrder systems := by
      rw [split]
      exact List.mem_append_right _ List.mem_cons_self
    rcases unit_of_mem_seatingOrder member with named | floating
    · exact never before _ _ _ after split named below
    · rw [floating] at below
      exact not_roomOnlyBelow_floating below

/-- A system of one unit that names a unit. -/
def oneUnitSystem (id : TargetId) (unit : Int) : SystemView where
  id := id
  name := Json.text "node"
  host := Json.text "10.0.0.1"
  status := Json.text "pending"
  hall := none
  row := none
  rack := some (Json.text "G12")
  rackU := some unit
  height := some 1
  unitType := none
  source := none
  locationCheck := none

/-- Two systems that name the top unit of a rack. -/
def topUnitTwice : List SystemView := [oneUnitSystem 1 4, oneUnitSystem 2 4]

/-- The second one is left without a seat in a rack with three free units. -/
theorem topUnitTwice_overflows :
    ¬ ∀ (systems : List SystemView) (rackHeight defaultHeight : Int), 1 ≤ rackHeight →
      ∀ before request after, seatingOrder systems = before ++ request :: after →
        (request.1.2, none) ∈ (assignSlots systems rackHeight defaultHeight).starts →
          OverflowsRightly rackHeight (request.1.1.unitCount defaultHeight)
            (seatedAfter rackHeight defaultHeight before) := by
  intro claimed
  have rightly := claimed topUnitTwice 4 4 (by decide) [((oneUnitSystem 1 4, 0), 4)]
    ((oneUnitSystem 2 4, 1), 4) [] (by decide) (by decide)
  rcases rightly with tall | nowhere
  · exact absurd tall (by decide)
  · exact nowhere 1 (by decide) (by decide) (by decide)

end Gyanam
