/-
This file proves that the discovery finds exactly the members it looks for. What
a body has is set apart from the walk: all members of all its objects in the
order of the document, each with the place it stands at, which is a path, a
depth and the objects around it. Nothing is cut off there and no tags are passed
on. The walk emits one metric for each member that matches, in that order.

A member matches by its depth, its key and its value. The tags of its metric are
those of the start, overridden by the identifiers of the objects around it from
the outermost to the innermost.
-/

import Gyanam.Lib.Overlay
import Gyanam.NumericConversion

namespace Gyanam

open Json (Text)

/-! ### The members of a body -/

/-- A member of an object of a body: the path and the depth of the object, and the objects around
the member, the outermost first and its own last. -/
structure Placed where
  key : Text
  value : Json
  path : Text
  depth : Nat
  enclosing : List (List (Text × Json))

mutual

/-- All members of the objects of a value, in the order of the document. -/
def placedMembers (path : Text) (depth : Nat) (enclosing : List (List (Text × Json))) :
    Json → List Placed
  | .object members => placedOfMembers path depth (enclosing ++ [members]) members
  | .array items => placedOfItems path depth enclosing 0 items
  | _ => []

/-- The members of an object, each before those of the objects in it. -/
def placedOfMembers (path : Text) (depth : Nat) (enclosing : List (List (Text × Json))) :
    List (Text × Json) → List Placed
  | [] => []
  | (key, value) :: rest =>
    ⟨key, value, path, depth, enclosing⟩ ::
      placedMembers (path ++ Json.text "." ++ key) (depth + 1) enclosing value ++
      placedOfMembers path depth enclosing rest

/-- The members of the objects in the items of an array, from an index on. -/
def placedOfItems (path : Text) (depth : Nat) (enclosing : List (List (Text × Json)))
    (index : Nat) : List Json → List Placed
  | [] => []
  | item :: rest =>
    placedMembers (itemPath path index) (depth + 1) enclosing item ++
      placedOfItems path depth enclosing (index + 1) rest

end

theorem placedOfMembers_eq (path : Text) (depth : Nat) (enclosing : List (List (Text × Json)))
    (members : List (Text × Json)) :
    placedOfMembers path depth enclosing members = members.flatMap fun member =>
      ⟨member.1, member.2, path, depth, enclosing⟩ ::
        placedMembers (path ++ Json.text "." ++ member.1) (depth + 1) enclosing member.2 := by
  induction members with
  | nil => rfl
  | cons member rest inductionHypothesis =>
    rw [placedOfMembers, List.flatMap_cons, inductionHypothesis, List.cons_append]

theorem placedOfItems_eq (path : Text) (depth : Nat) (enclosing : List (List (Text × Json)))
    (index : Nat) (items : List Json) :
    placedOfItems path depth enclosing index items = (items.zipIdx index).flatMap fun item =>
      placedMembers (itemPath path item.2) (depth + 1) enclosing item.1 := by
  induction items generalizing index with
  | nil => rfl
  | cons item rest inductionHypothesis =>
    rw [placedOfItems, List.zipIdx_cons, List.flatMap_cons, inductionHypothesis]

mutual

/-- No member of a value stands above the value. -/
theorem depth_le_of_placed {path : Text} {depth : Nat} {enclosing : List (List (Text × Json))} :
    ∀ {data : Json}, ∀ placed ∈ placedMembers path depth enclosing data, depth ≤ placed.depth
  | .object _ => depth_le_of_placedOfMembers
  | .array _ => depth_le_of_placedOfItems
  | .null | .bool _ | .int _ | .float _ | .string _ => fun _ member => nomatch member

theorem depth_le_of_placedOfMembers {path : Text} {depth : Nat}
    {enclosing : List (List (Text × Json))} : ∀ {members : List (Text × Json)},
      ∀ placed ∈ placedOfMembers path depth enclosing members, depth ≤ placed.depth
  | [] => fun _ member => nomatch member
  | (key, value) :: rest => by
    intro placed member
    rw [placedOfMembers, List.mem_append, List.mem_cons] at member
    rcases member with (rfl | inside) | later
    · exact le_rfl
    · exact (Nat.le_succ _).trans (depth_le_of_placed placed inside)
    · exact depth_le_of_placedOfMembers placed later

theorem depth_le_of_placedOfItems {path : Text} {depth : Nat}
    {enclosing : List (List (Text × Json))} {index : Nat} : ∀ {items : List Json},
      ∀ placed ∈ placedOfItems path depth enclosing index items, depth ≤ placed.depth
  | [] => fun _ member => nomatch member
  | item :: rest => by
    intro placed member
    rw [placedOfItems, List.mem_append] at member
    rcases member with inside | later
    · exact (Nat.le_succ _).trans (depth_le_of_placed placed inside)
    · exact depth_le_of_placedOfItems placed later

end

/-! ### The members that match -/

/-- The tags inside some objects, the outermost first: the identifiers of each object override what
is around it. -/
def enclosingTags (str : Json → Text) (tags : Tags) (enclosing : List (List (Text × Json))) :
    Tags :=
  Overlay.overlay tags (enclosing.map (extractTags str))

/-- The identifiers of an object are distinct tags. -/
theorem nodup_extractTags (str : Json → Text) (object : List (Text × Json)) :
    ((extractTags str object).map Prod.fst).Nodup := by
  unfold extractTags
  refine List.foldlRecOn (motive := fun tags : Tags => (tags.map Prod.fst).Nodup) tagCandidates _
    List.nodup_nil fun tags distinct candidate _ => ?_
  split
  · exact distinct
  · exact Overlay.nodup_setMember distinct (.text candidate.2) _

/-- A tag has the value of the innermost object that has an identifier for it, and the one it starts
with if none has. -/
theorem getMember_enclosingTags (str : Json → Text) (tags : Tags)
    (enclosing : List (List (Text × Json))) (tag : HashKey) :
    Json.getMember (enclosingTags str tags enclosing) tag =
      (enclosing.reverse.findSome? fun object => Json.getMember (extractTags str object) tag).or
        (Json.getMember tags tag) := by
  have distinct : ∀ layer ∈ enclosing.map (extractTags str), (layer.map Prod.fst).Nodup := by
    intro layer member
    obtain ⟨object, _, rfl⟩ := List.mem_map.mp member
    exact nodup_extractTags str object
  rw [enclosingTags, Overlay.getMember_overlay distinct, ← List.map_reverse, List.findSome?_map]
  rfl

section Walk

variable (str : Json → Text) (config : AutoDiscoveryConfig) (timestamp : Time)
  (excludeKeys : List Text) (maxDepth : Int)

/-- A member is looked for: its object is not too deep, its key was not extracted already, some
pattern includes the key, and no pattern excludes it. -/
def Placed.Matches (placed : Placed) : Prop :=
  placed.depth ≤ maxDepth ∧ placed.key ∉ excludeKeys ∧
    (∃ pattern ∈ config.includePatterns, Strings.fnmatch placed.key pattern = true) ∧
    ∀ pattern ∈ config.excludePatterns, Strings.fnmatch placed.key pattern = false

instance (placed : Placed) : Decidable (placed.Matches config excludeKeys maxDepth) :=
  inferInstanceAs (Decidable (_ ∧ _ ∧ _ ∧ _))

/-- The metric of a member with a number. -/
def Placed.metric (tags : Tags) (placed : Placed) (number : Double) : DiscoveredMetric where
  name := keyToMetricName placed.key placed.path
  value := number
  path := placed.path ++ Json.text "." ++ placed.key
  timestamp := timestamp
  metricType := config.defaultType
  tags := enclosingTags str tags placed.enclosing
  unit := []

/-- The metric of a member that matches and has a number. -/
def Placed.found (tags : Tags) (placed : Placed) : Option DiscoveredMetric :=
  if placed.Matches config excludeKeys maxDepth then
    (MetricDiscovery.toNumeric placed.value).map (placed.metric str config timestamp tags)
  else none

theorem shouldInclude_iff (key : Text) :
    shouldInclude config key = true ↔
      (∃ pattern ∈ config.includePatterns, Strings.fnmatch key pattern = true) ∧
        ∀ pattern ∈ config.excludePatterns, Strings.fnmatch key pattern = false := by
  unfold shouldInclude
  by_cases excluded : config.excludePatterns.any (Strings.fnmatch key) = true
  · obtain ⟨pattern, listed, fits⟩ := List.any_eq_true.mp excluded
    rw [if_pos excluded]
    exact iff_of_false Bool.false_ne_true fun both =>
      Bool.false_ne_true ((both.2 pattern listed).symm.trans fits)
  · have free : ∀ pattern ∈ config.excludePatterns, Strings.fnmatch key pattern = false := by
      simpa using excluded
    rw [if_neg excluded, List.any_eq_true, and_iff_left free]

theorem Placed.matches_iff {placed : Placed} (shallow : placed.depth ≤ maxDepth) :
    placed.Matches config excludeKeys maxDepth ↔
      placed.key ∉ excludeKeys ∧ shouldInclude config placed.key = true := by
  rw [Placed.Matches, and_iff_right shallow, ← shouldInclude_iff]

/-- At a depth that is walked, the metric of a leaf is the one that is looked for. -/
theorem leafMetric_eq {placed : Placed} (shallow : placed.depth ≤ maxDepth) (tags : Tags) :
    leafMetric config timestamp excludeKeys placed.key placed.value placed.path
        (enclosingTags str tags placed.enclosing) =
      placed.found str config timestamp excludeKeys maxDepth tags := by
  have condition := Placed.matches_iff config excludeKeys maxDepth shallow
  unfold leafMetric Placed.found
  rw [isNumeric_discovery]
  cases numeric : MetricDiscovery.toNumeric placed.value with
  | none => simp
  | some number =>
    by_cases extracted : placed.key ∈ excludeKeys
    · simp [condition, extracted]
    · by_cases included : shouldInclude config placed.key = true
      · simp [condition, extracted, included, Placed.metric]
      · simp [condition, extracted, included]

/-- What is deeper than the walk goes does not match. -/
theorem found_of_deep {placed : Placed} (deep : maxDepth < placed.depth) (tags : Tags) :
    placed.found str config timestamp excludeKeys maxDepth tags = none :=
  if_neg fun matches_ => absurd matches_.1 (not_le.mpr deep)

theorem found_of_toNumeric {placed : Placed} (tags : Tags)
    (unconverted : MetricDiscovery.toNumeric placed.value = none) :
    placed.found str config timestamp excludeKeys maxDepth tags = none := by
  rw [Placed.found, unconverted, Option.map_none, ite_self]

/-- The walk from a depth on, inside some objects. -/
theorem walkJson_enclosed {levels depth : Nat} (remaining : levels = (maxDepth + 1 - depth).toNat)
    (data : Json) (path : Text) (tags : Tags) (enclosing : List (List (Text × Json))) :
    walkJson str config timestamp excludeKeys levels data path (enclosingTags str tags enclosing) =
      (placedMembers path depth enclosing data).filterMap
        (Placed.found str config timestamp excludeKeys maxDepth tags) := by
  induction levels generalizing depth data path enclosing with
  | zero =>
    rw [walkJson, eq_comm, List.filterMap_eq_nil_iff]
    intro placed member
    have above := depth_le_of_placed placed member
    exact found_of_deep str config timestamp excludeKeys maxDepth (by omega) tags
  | succ levels inductionHypothesis =>
    have deeper : levels = (maxDepth + 1 - (depth + 1 : Nat)).toNat := by omega
    have inward := inductionHypothesis deeper
    cases data with
    | object members =>
      have layered : Json.setMembers (enclosingTags str tags enclosing) (extractTags str members) =
          enclosingTags str tags (enclosing ++ [members]) := by
        rw [enclosingTags, enclosingTags, List.map_append]
        exact (Overlay.overlay_append _ _ _).symm
      rw [placedMembers, placedOfMembers_eq, List.filterMap_flatMap, walkJson, layered]
      refine congrArg (members.flatMap ·) (funext fun member => ?_)
      obtain ⟨key, value⟩ := member
      let placed : Placed := ⟨key, value, path, depth, enclosing ++ [members]⟩
      have leaf := leafMetric_eq str config timestamp excludeKeys maxDepth
        (show placed.depth ≤ maxDepth by show (depth : Int) ≤ maxDepth; omega) tags
      have emitted : (leafMetric config timestamp excludeKeys key value path
            (enclosingTags str tags (enclosing ++ [members]))).toList =
          [placed].filterMap (Placed.found str config timestamp excludeKeys maxDepth tags) := by
        rw [leaf, List.filterMap_cons]
        cases placed.found str config timestamp excludeKeys maxDepth tags <;> rfl
      cases value with
      | object inner =>
        rw [List.filterMap_cons_none (found_of_toNumeric _ _ _ _ _ _ rfl)]
        exact inward _ _ _
      | array items =>
        rw [List.filterMap_cons_none (found_of_toNumeric _ _ _ _ _ _ rfl)]
        exact inward _ _ _
      | null => exact emitted
      | bool value => exact emitted
      | int value => exact emitted
      | float value => exact emitted
      | string value => exact emitted
    | array items =>
      rw [placedMembers, placedOfItems_eq, List.filterMap_flatMap, walkJson]
      exact congrArg (items.zipIdx.flatMap ·) (funext fun item => inward _ _ _)
    | null => rfl
    | bool value => rfl
    | int value => rfl
    | float value => rfl
    | string value => rfl

/-- From any depth on, the walk emits exactly one metric for each member that matches and has a
number, in the order of the document, and no others. -/
theorem walkJson_finds (data : Json) (path : Text) (depth : Nat) (tags : Tags) :
    walkJson str config timestamp excludeKeys (maxDepth + 1 - depth).toNat data path tags =
      (placedMembers path depth [] data).filterMap
        (Placed.found str config timestamp excludeKeys maxDepth tags) :=
  walkJson_enclosed str config timestamp excludeKeys maxDepth rfl data path tags []

end Walk

/-- The metrics that are discovered in a body are those of its members that match. -/
theorem discover_finds (str : Json → Text) (config : AutoDiscoveryConfig)
    (enabled : config.enabled = true) (excludeKeys : List Text) (data : Json) (host : Text)
    (extraTags : Tags) (timestamp : Time) :
    discover str config excludeKeys data host extraTags timestamp =
      (placedMembers (Json.text "$") 0 [] data).filterMap
        (Placed.found str config timestamp excludeKeys
          (if config.maxDepth > 0 then config.maxDepth else fallbackMaxDepth)
          (baseTags host extraTags)) := by
  have levels : ((if config.maxDepth > 0 then config.maxDepth else (fallbackMaxDepth : Int)) + 1 -
      (0 : Nat)).toNat =
        (if config.maxDepth > 0 then config.maxDepth.toNat else fallbackMaxDepth) + 1 := by
    split
    · omega
    · omega
  rw [discover, if_pos enabled, ← walkJson_finds, levels]

end Gyanam
