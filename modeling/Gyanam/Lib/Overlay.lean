/-
This file lays objects over one another. Each layer overrides the members of the
layers below it, so a key has the value of the highest layer that has the key.
-/

import Gyanam.Lib.Notes

namespace Overlay

open Json (getMember setMember setMembers)

variable {Key : Type} [BEq Key]

/-- An object with layers over it, the lowest first. -/
def overlay (base : List (Key × Json)) (layers : List (List (Key × Json))) : List (Key × Json) :=
  layers.foldl setMembers base

theorem overlay_append (base : List (Key × Json)) (layers : List (List (Key × Json)))
    (layer : List (Key × Json)) :
    overlay base (layers ++ [layer]) = setMembers (overlay base layers) layer :=
  List.foldl_append

/-! ### Distinct keys -/

variable [LawfulBEq Key]

/-- Setting a key leaves the keys of an object distinct. -/
theorem nodup_setMember {members : List (Key × Json)} (distinct : (members.map Prod.fst).Nodup)
    (key : Key) (value : Json) : ((setMember members key value).map Prod.fst).Nodup := by
  cases found : getMember members key with
  | some old => rwa [Notes.keys_setMember found]
  | none =>
    have absent : key ∉ members.map Prod.fst := by
      intro member
      obtain ⟨⟨_, old⟩, inside, rfl⟩ := List.mem_map.mp member
      rw [Notes.getMember_of_mem distinct inside] at found
      cases found
    rw [Notes.setMember_of_notMem absent, List.map_append]
    refine List.nodup_append.mpr ⟨distinct, List.nodup_singleton _, ?_⟩
    rintro other inside last new rfl
    have same : other = key := List.mem_singleton.mp new
    exact absent (same ▸ inside)

/-! ### Looking a key up -/

theorem mem_of_getMember {members : List (Key × Json)} {key : Key} {value : Json}
    (found : getMember members key = some value) : (key, value) ∈ members := by
  obtain ⟨before, after, split, _⟩ := List.lookup_eq_some_iff.mp found
  rw [split]
  exact List.mem_append_right _ List.mem_cons_self

/-- The order of members with distinct keys does not matter for a lookup. -/
theorem getMember_reverse {members : List (Key × Json)}
    (distinct : (members.map Prod.fst).Nodup) (key : Key) :
    getMember members.reverse key = getMember members key := by
  have reversed : (members.reverse.map Prod.fst).Nodup := by
    rw [List.map_reverse]
    exact List.nodup_reverse.mpr distinct
  ext value
  constructor
  · exact fun found =>
      Notes.getMember_of_mem distinct (List.mem_reverse.mp (mem_of_getMember found))
  · exact fun found =>
      Notes.getMember_of_mem reversed (List.mem_reverse.mpr (mem_of_getMember found))

theorem getMember_setMembers (members more : List (Key × Json)) (key : Key) :
    getMember (setMembers members more) key =
      (getMember more.reverse key).or (getMember members key) := by
  induction more generalizing members with
  | nil => rfl
  | cons member rest inductionHypothesis =>
    have step : setMembers members (member :: rest) =
        setMembers (setMember members member.1 member.2) rest := rfl
    rw [step, inductionHypothesis, List.reverse_cons]
    simp only [getMember, List.lookup_append, Option.or_assoc]
    congr 1
    by_cases same : key = member.1
    · rw [same, List.lookup_cons_self, Option.some_or]
      exact Json.getMember_setMember members member.1 member.2
    · rw [List.lookup_cons, beq_false_of_ne same]
      exact Notes.getMember_setMember_of_ne members member.2 same

/-- A key has the value of the highest layer that has it, and that of the base if none has. -/
theorem getMember_overlay {layers : List (List (Key × Json))}
    (distinct : ∀ layer ∈ layers, (layer.map Prod.fst).Nodup) (base : List (Key × Json))
    (key : Key) :
    getMember (overlay base layers) key =
      (layers.reverse.findSome? fun layer => getMember layer key).or (getMember base key) := by
  induction layers generalizing base with
  | nil => rfl
  | cons layer rest inductionHypothesis =>
    obtain ⟨first, others⟩ := List.forall_mem_cons.mp distinct
    have step : overlay base (layer :: rest) = overlay (setMembers base layer) rest := rfl
    rw [step, inductionHypothesis others, getMember_setMembers, getMember_reverse first,
      List.reverse_cons, List.findSome?_append, ← Option.or_assoc]
    congr 2
    rw [List.findSome?_singleton]

end Overlay
