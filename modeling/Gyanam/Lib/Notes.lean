/-
This file writes notes on objects. A note has a key of its own, and a value that
is worked out of the object, if there is anything to note. Notes are written one
after the other.

As long as no note is worked out of what another one wrote, and the object has
none of their keys, the notes are written behind its members. The members stay as
they are, and writing the notes once more changes nothing.
-/

import Gyanam.Lib.Json
import Mathlib.Data.List.Nodup

namespace Notes

open Json (Text getMember setMember)

/-- A note: its key, and what it says of an object. -/
structure Note where
  key : Text
  value : List (Text × Json) → Option Json

/-- Write a note on an object, if it says anything. -/
def Note.write (members : List (Text × Json)) (note : Note) : List (Text × Json) :=
  match note.value members with
  | some value => setMember members note.key value
  | none => members

/-- Write notes, one after the other. -/
def writeAll (notes : List Note) (members : List (Text × Json)) : List (Text × Json) :=
  notes.foldl Note.write members

/-- The members that the notes say of an object. -/
def added (notes : List Note) (members : List (Text × Json)) : List (Text × Json) :=
  notes.filterMap fun note => (note.value members).map fun value => (note.key, value)

/-- The notes have different keys, and none is worked out of what has the key of one. -/
structure Independent (notes : List Note) : Prop where
  distinct : (notes.map Note.key).Nodup
  stable : ∀ note ∈ notes, ∀ members more, (∀ member ∈ more, member.1 ∈ notes.map Note.key) →
    note.value (members ++ more) = note.value members

/-! ### Setting members -/

section Members

variable {Key : Type} [BEq Key] [LawfulBEq Key]

/-- A key that an object does not have is set behind its members. -/
theorem setMember_of_notMem {members : List (Key × Json)} {key : Key} {value : Json}
    (absent : key ∉ members.map Prod.fst) :
    setMember members key value = members ++ [(key, value)] := by
  refine if_neg fun present => ?_
  obtain ⟨member, inside, same⟩ := List.any_eq_true.mp present
  exact absent (List.mem_map.mpr ⟨member, inside, beq_iff_eq.mp same⟩)

/-- Setting a key leaves what other keys have. -/
theorem getMember_setMember_of_ne (members : List (Key × Json)) {key other : Key} (value : Json)
    (different : other ≠ key) :
    getMember (setMember members key value) other = getMember members other := by
  unfold setMember getMember
  split
  next =>
    clear * - different
    induction members with
    | nil => rfl
    | cons member rest inductionHypothesis =>
      rw [List.map_cons, List.lookup_cons, List.lookup_cons]
      by_cases same : member.1 = key
      · rw [if_pos (beq_iff_eq.mpr same), same, beq_false_of_ne different]
        exact inductionHypothesis
      · rw [if_neg (mt beq_iff_eq.mp same), inductionHypothesis]
  next =>
    rw [List.lookup_append, List.lookup_cons, beq_false_of_ne different, List.lookup_nil,
      Option.or_none]

/-- Setting a key that an object has leaves its keys. -/
theorem keys_setMember {members : List (Key × Json)} {key : Key} {old : Json}
    (found : getMember members key = some old) (value : Json) :
    (setMember members key value).map Prod.fst = members.map Prod.fst := by
  obtain ⟨before, after, split, _⟩ := List.lookup_eq_some_iff.mp found
  have present : (members.any fun member => member.1 == key) = true :=
    List.any_eq_true.mpr ⟨(key, old), split ▸ List.mem_append_right before (.head after),
      beq_self_eq_true key⟩
  rw [setMember, if_pos present, List.map_map]
  refine List.map_congr_left fun member _ => ?_
  rw [Function.comp_apply]
  split
  next same => exact (beq_iff_eq.mp same).symm
  next => rfl

/-- An object of different keys returns each of its members. -/
theorem getMember_of_mem {members : List (Key × Json)} (distinct : (members.map Prod.fst).Nodup)
    {key : Key} {value : Json} (member : (key, value) ∈ members) :
    getMember members key = some value := by
  obtain ⟨before, after, rfl⟩ := List.append_of_mem member
  refine List.lookup_eq_some_iff.mpr ⟨before, after, rfl, fun other inside => ?_⟩
  rw [List.map_append, List.map_cons, List.nodup_append] at distinct
  exact bne_iff_ne.mpr fun same =>
    distinct.2.2 _ (List.mem_map.mpr ⟨other, inside, rfl⟩) key (.head _) same.symm

/-- Setting a key to the value it has changes nothing. -/
theorem setMember_eq_self {members : List (Key × Json)} {key : Key} {value : Json}
    (distinct : (members.map Prod.fst).Nodup) (found : getMember members key = some value) :
    setMember members key value = members := by
  obtain ⟨before, after, split, _⟩ := List.lookup_eq_some_iff.mp found
  have member : (key, value) ∈ members := split ▸ List.mem_append_right before (.head after)
  have present : (members.any fun member => member.1 == key) = true :=
    List.any_eq_true.mpr ⟨_, member, beq_self_eq_true key⟩
  rw [setMember, if_pos present]
  refine (List.map_congr_left fun other inside => ?_).trans (List.map_id members)
  split
  next same =>
    rw [beq_iff_eq] at same
    have own : getMember members key = some other.2 :=
      getMember_of_mem distinct (by rw [← same]; exact inside)
    rw [found, Option.some.injEq] at own
    rw [own, ← same]
    rfl
  next => rfl

end Members

/-! ### Writing notes -/

/-- The keys that notes add are theirs. -/
theorem key_of_added {notes : List Note} {members : List (Text × Json)} {member : Text × Json}
    (new : member ∈ added notes members) : member.1 ∈ notes.map Note.key := by
  obtain ⟨note, inside, noted⟩ := List.mem_filterMap.mp new
  obtain ⟨value, _, rfl⟩ := Option.map_eq_some_iff.mp noted
  exact List.mem_map.mpr ⟨note, inside, rfl⟩

/-- One note adds its value, if it has one. -/
theorem added_singleton (note : Note) (members : List (Text × Json)) :
    added [note] members = ((note.value members).map fun value => (note.key, value)).toList := by
  rw [added, List.filterMap_cons]
  cases note.value members with
  | none => rfl
  | some value => rfl

/-- Notes that find an object without their keys are written behind its members. -/
theorem writeAll_eq_append {notes : List Note} (independent : Independent notes)
    {members : List (Text × Json)}
    (fresh : ∀ note ∈ notes, note.key ∉ members.map Prod.fst) :
    writeAll notes members = members ++ added notes members := by
  -- The notes are written from the front; `more` is what those before have added.
  have written : ∀ (rest : List Note) (more : List (Text × Json)),
      (∀ note ∈ rest, note ∈ notes) → (rest.map Note.key).Nodup →
      (∀ member ∈ more, member.1 ∈ notes.map Note.key) →
      (∀ note ∈ rest, note.key ∉ (members ++ more).map Prod.fst) →
      writeAll rest (members ++ more) = members ++ more ++ added rest members := by
    intro rest
    induction rest with
    | nil => exact fun more _ _ _ _ => (List.append_nil _).symm
    | cons note rest inductionHypothesis =>
      intro more within distinct own absent
      have same := independent.stable note (within note (.head _)) members more own
      rw [List.map_cons, List.nodup_cons] at distinct
      have within' := fun other inside => within other (.tail _ inside)
      rw [writeAll, List.foldl_cons, Note.write, same]
      cases noted : note.value members with
      | none =>
        rw [added, List.filterMap_cons_none (by rw [noted]; rfl)]
        exact inductionHypothesis more within' distinct.2 own fun other inside =>
          absent other (.tail _ inside)
      | some value =>
        rw [added, List.filterMap_cons_some (by rw [noted]; rfl)]
        dsimp only
        rw [setMember_of_notMem (absent note (.head _)), List.append_assoc]
        have later := inductionHypothesis (more ++ [(note.key, value)]) within' distinct.2 ?_ ?_
        · rw [writeAll] at later
          rw [later, List.append_assoc, List.append_assoc, List.append_assoc]
          rfl
        · intro member inside
          rcases List.mem_append.mp inside with old | new
          · exact own member old
          · rw [List.mem_singleton.mp new]
            exact List.mem_map.mpr ⟨note, within note (.head _), rfl⟩
        · intro other inside present
          rw [← List.append_assoc, List.map_append, List.mem_append] at present
          rcases present with old | new
          · exact absent other (.tail _ inside) old
          · rw [List.map_cons, List.map_nil, List.mem_singleton] at new
            exact distinct.1 (List.mem_map.mpr ⟨other, inside, new⟩)
  have all := written notes [] (fun _ inside => inside) independent.distinct
    (fun _ none => absurd none List.not_mem_nil) (by rwa [List.append_nil])
  rwa [List.append_nil] at all

/-- The keys stay different. -/
theorem nodup_append_added {notes : List Note} (independent : Independent notes)
    {members : List (Text × Json)} (distinct : (members.map Prod.fst).Nodup)
    (fresh : ∀ note ∈ notes, note.key ∉ members.map Prod.fst) :
    ((members ++ added notes members).map Prod.fst).Nodup := by
  have sub : ((added notes members).map Prod.fst).Sublist (notes.map Note.key) := by
    clear independent distinct fresh
    induction notes with
    | nil => exact List.Sublist.refl []
    | cons note rest inductionHypothesis =>
      cases noted : note.value members with
      | none =>
        rw [added, List.filterMap_cons_none (by rw [noted]; rfl)]
        exact inductionHypothesis.cons _
      | some value =>
        rw [added, List.filterMap_cons_some (by rw [noted]; rfl)]
        exact inductionHypothesis.cons_cons _
  rw [List.map_append, List.nodup_append]
  refine ⟨distinct, independent.distinct.sublist sub, ?_⟩
  rintro key old _ new rfl
  obtain ⟨note, inside, rfl⟩ := List.mem_map.mp (sub.subset new)
  exact fresh note inside old

/-- Writing the notes once more changes nothing. -/
theorem writeAll_again {notes : List Note} (independent : Independent notes)
    {members : List (Text × Json)} (distinct : (members.map Prod.fst).Nodup)
    (fresh : ∀ note ∈ notes, note.key ∉ members.map Prod.fst) :
    writeAll notes (members ++ added notes members) = members ++ added notes members := by
  have unique := nodup_append_added independent distinct fresh
  have kept : ∀ note ∈ notes,
      Note.write (members ++ added notes members) note = members ++ added notes members := by
    intro note inside
    have same := independent.stable note inside members (added notes members) fun _ => key_of_added
    rw [Note.write, same]
    cases noted : note.value members with
    | none => rfl
    | some value =>
      refine setMember_eq_self unique (getMember_of_mem unique ?_)
      refine List.mem_append_right _ (List.mem_filterMap.mpr ⟨note, inside, ?_⟩)
      rw [noted]
      rfl
  clear independent fresh unique distinct
  generalize members ++ added notes members = noted at kept
  rw [writeAll]
  induction notes with
  | nil => rfl
  | cons note rest inductionHypothesis =>
    rw [List.foldl_cons, kept note (.head _)]
    exact inductionHypothesis fun other inside => kept other (.tail _ inside)

/-- A key that is not added is looked up as before. -/
theorem getMember_append {members more : List (Text × Json)} {key : Text}
    (absent : key ∉ more.map Prod.fst) :
    getMember (members ++ more) key = getMember members key := by
  have nowhere : more.lookup key = none := List.lookup_eq_none_iff.mpr fun member inside =>
    bne_iff_ne.mpr fun same => absent (List.mem_map.mpr ⟨member, inside, same.symm⟩)
  rw [getMember, List.lookup_append, nowhere, Option.or_none]
  rfl

end Notes
