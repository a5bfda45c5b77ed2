/-
This file builds groups of items under keys. A list of entries is grown item by
item: the value under the key of the item is changed, and a key that is not there
yet is added at the end with a changed default. Values may be groups themselves,
so the notion of groups is relative to what a value is over the items of its key.

Groups of groups flatten to groups under pairs of keys, and the items of all
groups together are the items that were grouped, in another order.
-/

import Mathlib.Data.List.Basic
import Mathlib.Data.List.Nodup
import Mathlib.Data.List.Perm.Basic

namespace Grouping

variable {Item Key Key' Value Value' : Type} [DecidableEq Key] [DecidableEq Key']

/-! ### Entries -/

/-- The keys of some entries. -/
def keys (entries : List (Key × Value)) : List Key := entries.map Prod.fst

omit [DecidableEq Key] in
theorem mem_keys {entries : List (Key × Value)} {key : Key} :
    key ∈ keys entries ↔ ∃ value, (key, value) ∈ entries := by
  simp [keys]

/-- Change the value under a key. A key that is not there yet is added with a changed default. -/
def alter (key : Key) (default : Value) (change : Value → Value) :
    List (Key × Value) → List (Key × Value)
  | [] => [(key, change default)]
  | entry :: rest =>
    if entry.1 = key then (entry.1, change entry.2) :: rest
    else entry :: alter key default change rest

section Alter

variable {key : Key} {default : Value} {change : Value → Value}

theorem mem_keys_alter {entries : List (Key × Value)} {other : Key} :
    other ∈ keys (alter key default change entries) ↔ other ∈ keys entries ∨ other = key := by
  induction entries with
  | nil => simp [alter, keys]
  | cons entry rest inductionHypothesis =>
    rw [alter]
    split
    next same =>
      rw [← same]
      simp only [keys, List.map_cons, List.mem_cons]
      tauto
    next => simpa [keys, or_assoc] using or_congr_right inductionHypothesis

theorem nodup_keys_alter {entries : List (Key × Value)} (distinct : (keys entries).Nodup) :
    (keys (alter key default change entries)).Nodup := by
  induction entries with
  | nil => simp [alter, keys]
  | cons entry rest inductionHypothesis =>
    obtain ⟨absent, later⟩ := List.nodup_cons.mp distinct
    rw [alter]
    split
    next => exact distinct
    next other =>
      refine List.nodup_cons.mpr ⟨fun member => ?_, inductionHypothesis later⟩
      exact (mem_keys_alter.mp member).elim absent other

/-- An entry afterwards is an old one of another key, or the one of the key. -/
theorem of_mem_alter {entries : List (Key × Value)} (distinct : (keys entries).Nodup)
    {entry : Key × Value} (member : entry ∈ alter key default change entries) :
    (entry ∈ entries ∧ entry.1 ≠ key) ∨
      (entry.1 = key ∧ ∃ value, entry.2 = change value ∧
        ((key, value) ∈ entries ∨ key ∉ keys entries ∧ value = default)) := by
  induction entries with
  | nil =>
    obtain rfl := List.mem_singleton.mp member
    exact .inr ⟨rfl, default, rfl, .inr ⟨List.not_mem_nil, rfl⟩⟩
  | cons first rest inductionHypothesis =>
    obtain ⟨absent, later⟩ := List.nodup_cons.mp distinct
    rw [alter] at member
    split at member
    next same =>
      subst same
      rcases List.mem_cons.mp member with rfl | old
      · exact .inr ⟨rfl, first.2, rfl, .inl List.mem_cons_self⟩
      · refine .inl ⟨List.mem_cons_of_mem _ old, fun self => absent ?_⟩
        exact self ▸ List.mem_map_of_mem old
    next other =>
      rcases List.mem_cons.mp member with rfl | old
      · exact .inl ⟨List.mem_cons_self, other⟩
      · rcases inductionHypothesis later old with ⟨old, apart⟩ | ⟨same, value, changed, found⟩
        · exact .inl ⟨List.mem_cons_of_mem _ old, apart⟩
        · refine .inr ⟨same, value, changed, found.imp (List.mem_cons_of_mem _) ?_⟩
          rintro ⟨missing, initial⟩
          refine ⟨fun listed => ?_, initial⟩
          exact (List.mem_cons.mp listed).elim (fun self => other self.symm) missing

end Alter

/-! ### Groups -/

/-- Entries that group items: their keys are distinct and those of the items, and each value is over
the items of its key. -/
structure Groups (keyOf : Item → Key) (collects : Value → List Item → Prop)
    (entries : List (Key × Value)) (items : List Item) : Prop where
  nodup : (keys entries).Nodup
  mem_keys_iff : ∀ key, key ∈ keys entries ↔ ∃ item ∈ items, keyOf item = key
  collects : ∀ entry ∈ entries, collects entry.2 (items.filter fun item => keyOf item = entry.1)

namespace Groups

variable {keyOf : Item → Key} {collects : Value → List Item → Prop} {entries : List (Key × Value)}
  {items : List Item}

theorem nil (keyOf : Item → Key) (collects : Value → List Item → Prop) :
    Groups keyOf collects ([] : List (Key × Value)) [] :=
  ⟨List.nodup_nil, by simp [keys], by simp⟩

/-- One more item changes the value under its key. -/
theorem concat (groups : Groups keyOf collects entries items) {default : Value}
    {change : Value → Value} {item : Item} (initial : collects default [])
    (grows : ∀ value members, collects value members →
      collects (change value) (members ++ [item])) :
    Groups keyOf collects (alter (keyOf item) default change entries) (items ++ [item]) where
  nodup := nodup_keys_alter groups.nodup
  mem_keys_iff key := by
    rw [mem_keys_alter, groups.mem_keys_iff]
    simp [or_and_right, exists_or, eq_comm]
  collects entry member := by
    rw [List.filter_append]
    rcases of_mem_alter groups.nodup member with ⟨old, other⟩ | ⟨same, value, changed, found⟩
    · rw [List.filter_cons_of_neg (by simpa using Ne.symm other), List.filter_nil, List.append_nil]
      exact groups.collects entry old
    · rw [List.filter_cons_of_pos (by simpa using same.symm), List.filter_nil, changed]
      refine grows _ _ ?_
      rw [same]
      rcases found with stored | ⟨missing, rfl⟩
      · exact groups.collects _ stored
      · have none : items.filter (fun item' => keyOf item' = keyOf item) = [] := by
          rw [List.filter_eq_nil_iff]
          intro other listed
          rw [decide_eq_true_eq]
          exact fun self => missing ((groups.mem_keys_iff _).mpr ⟨other, listed, self⟩)
        rw [none]
        exact initial

/-- Groups do not depend on the order of the entries. -/
theorem perm (groups : Groups keyOf collects entries items) {entries' : List (Key × Value)}
    (same : entries'.Perm entries) : Groups keyOf collects entries' items where
  nodup := (same.map Prod.fst).nodup_iff.mpr groups.nodup
  mem_keys_iff key := (same.map Prod.fst).mem_iff.trans (groups.mem_keys_iff key)
  collects entry member := groups.collects entry (same.mem_iff.mp member)

/-- Values may be replaced one by one under the same keys. -/
theorem congr (groups : Groups keyOf collects entries items) {collects' : Value' → List Item → Prop}
    {entries' : List (Key × Value')}
    (same : List.Forall₂ (fun entry entry' => entry'.1 = entry.1 ∧
      ∀ members, collects entry.2 members → collects' entry'.2 members) entries entries') :
    Groups keyOf collects' entries' items := by
  have sameKeys : keys entries' = keys entries := by
    refine List.forall₂_eq_eq_eq ▸ List.forall₂_map_left_iff.mpr (List.forall₂_map_right_iff.mpr ?_)
    exact same.flip.imp fun _ _ both => both.1
  refine ⟨sameKeys ▸ groups.nodup, fun key => sameKeys ▸ groups.mem_keys_iff key, ?_⟩
  have each := groups.collects
  clear groups sameKeys
  induction same with
  | nil => simp
  | @cons entry entry' rest rest' both _ inductionHypothesis =>
    rw [List.forall_mem_cons] at each ⊢
    exact ⟨both.1 ▸ both.2 _ each.1, inductionHypothesis each.2⟩

/-- What holds of all keys is what holds of the key of every item. -/
theorem forall_keys (groups : Groups keyOf collects entries items) {holds : Key → Prop} :
    (∀ key ∈ keys entries, holds key) ↔ ∀ item ∈ items, holds (keyOf item) := by
  constructor
  · exact fun all item member => all _ ((groups.mem_keys_iff _).mpr ⟨item, member, rfl⟩)
  · intro all key listed
    obtain ⟨item, member, rfl⟩ := (groups.mem_keys_iff key).mp listed
    exact all item member

/-- What holds of all values is what holds of every item, if it is so for each value. -/
theorem forall_values (groups : Groups keyOf collects entries items) {holds : Value → Prop}
    {each : Item → Prop}
    (agrees : ∀ value members, collects value members →
      (holds value ↔ ∀ item ∈ members, each item)) :
    (∀ entry ∈ entries, holds entry.2) ↔ ∀ item ∈ items, each item := by
  constructor
  · intro all item member
    obtain ⟨value, listed⟩ := mem_keys.mp ((groups.mem_keys_iff _).mpr ⟨item, member, rfl⟩)
    refine (agrees _ _ (groups.collects _ listed)).mp (all _ listed) item ?_
    exact List.mem_filter.mpr ⟨member, decide_eq_true rfl⟩
  · intro all entry listed
    refine (agrees _ _ (groups.collects _ listed)).mpr fun item member => all item ?_
    exact (List.mem_filter.mp member).1

/-- Groups of groups are groups under the pairs of their keys. -/
theorem flatten (groups : Groups keyOf collects entries items) {keyOf' : Item → Key'}
    {collects' : Value' → List Item → Prop} {inner : Value → List (Key' × Value')}
    (nested : ∀ value members, collects value members →
      Groups keyOf' collects' (inner value) members) :
    Groups (fun item => (keyOf item, keyOf' item)) collects'
      (entries.flatMap fun entry => (inner entry.2).map fun below =>
        ((entry.1, below.1), below.2)) items where
  nodup := by
    have pairs : keys (entries.flatMap fun entry => (inner entry.2).map fun below =>
        ((entry.1, below.1), below.2)) =
        entries.flatMap fun entry => (keys (inner entry.2)).map fun key => (entry.1, key) := by
      simp [keys, List.map_flatMap, Function.comp_def]
    rw [pairs, List.nodup_flatMap]
    constructor
    · intro entry listed
      refine (nested _ _ (groups.collects entry listed)).nodup.map fun first second same => ?_
      exact (Prod.mk.inj same).2
    · refine (List.pairwise_map.mp groups.nodup).imp fun {first second} apart => ?_
      intro pair inFirst inSecond
      obtain ⟨_, _, rfl⟩ := List.mem_map.mp inFirst
      obtain ⟨_, _, same⟩ := List.mem_map.mp inSecond
      exact apart (Prod.mk.inj same).1.symm
  mem_keys_iff pair := by
    obtain ⟨key, key'⟩ := pair
    constructor
    · intro listed
      obtain ⟨value', member⟩ := mem_keys.mp listed
      obtain ⟨entry, listed, inside⟩ := List.mem_flatMap.mp member
      obtain ⟨below, found, same⟩ := List.mem_map.mp inside
      obtain ⟨item, member, same'⟩ :=
        ((nested _ _ (groups.collects entry listed)).mem_keys_iff _).mp
        (List.mem_map_of_mem found)
      rw [List.mem_filter, decide_eq_true_eq] at member
      refine ⟨item, member.1, ?_⟩
      rw [member.2, same']
      exact (Prod.mk.inj same).1
    · rintro ⟨item, member, same⟩
      obtain ⟨rfl, rfl⟩ := Prod.mk.inj same
      obtain ⟨value, listed⟩ := mem_keys.mp ((groups.mem_keys_iff _).mpr ⟨item, member, rfl⟩)
      have inside : item ∈ items.filter fun other => keyOf other = keyOf item :=
        List.mem_filter.mpr ⟨member, decide_eq_true rfl⟩
      obtain ⟨value', found⟩ := mem_keys.mp
        (((nested _ _ (groups.collects _ listed)).mem_keys_iff _).mpr ⟨item, inside, rfl⟩)
      refine mem_keys.mpr ⟨value', List.mem_flatMap.mpr ⟨_, listed, ?_⟩⟩
      exact List.mem_map.mpr ⟨_, found, rfl⟩
  collects pair member := by
    obtain ⟨entry, listed, inside⟩ := List.mem_flatMap.mp member
    obtain ⟨below, found, rfl⟩ := List.mem_map.mp inside
    have both := (nested _ _ (groups.collects entry listed)).collects below found
    rw [List.filter_filter] at both
    simpa [Prod.ext_iff, Bool.and_comm] using both

end Groups

/-! ### All groups together -/

/-- The items of some distinct keys, key by key. -/
theorem perm_flatMap_filter {keyOf : Item → Key} (items : List Item) {keys : List Key}
    (distinct : keys.Nodup) :
    (keys.flatMap fun key => items.filter fun item => keyOf item = key).Perm
      (items.filter fun item => keyOf item ∈ keys) := by
  induction keys with
  | nil => simp
  | cons key rest inductionHypothesis =>
    obtain ⟨absent, later⟩ := List.nodup_cons.mp distinct
    rw [List.flatMap_cons]
    refine ((inductionHypothesis later).append_left _).trans ?_
    have parts := List.filter_append_perm (fun item => decide (keyOf item = key))
      (items.filter fun item => keyOf item ∈ key :: rest)
    rw [List.filter_filter, List.filter_filter] at parts
    refine (List.Perm.of_eq (congrArg₂ _ ?_ ?_)).trans parts
    · refine List.filter_congr fun item _ => ?_
      by_cases same : keyOf item = key
      · simp [same]
      · simp [same]
    · refine List.filter_congr fun item _ => ?_
      by_cases same : keyOf item = key
      · simp [same, absent]
      · simp [same]

/-- The items of all groups are the items that were grouped. -/
theorem Groups.perm_flatMap {keyOf : Item → Key} {collects : Value → List Item → Prop}
    {contents : Value → List Item} (tells : ∀ value members, collects value members →
      contents value = members) {entries : List (Key × Value)} {items : List Item}
    (groups : Groups keyOf collects entries items) :
    (entries.flatMap fun entry => contents entry.2).Perm items := by
  have values : (entries.flatMap fun entry => contents entry.2) =
      (keys entries).flatMap fun key => items.filter fun item => keyOf item = key := by
    rw [keys, List.flatMap_map]
    exact List.flatMap_congr fun entry listed => tells _ _ (groups.collects entry listed)
  have all : items.filter (fun item => keyOf item ∈ keys entries) = items := by
    rw [List.filter_eq_self]
    intro item member
    exact decide_eq_true ((groups.mem_keys_iff _).mpr ⟨item, member, rfl⟩)
  rw [values]
  exact (perm_flatMap_filter items groups.nodup).trans (List.Perm.of_eq all)

omit [DecidableEq Key] in
/-- What only one entry has is found among what all entries have. -/
theorem filter_flatMap_eq {Part : Type} {entries : List (Key × Value)}
    (distinct : (keys entries).Nodup) {parts : Key × Value → List Part} {keep : Part → Bool}
    {entry : Key × Value} (member : entry ∈ entries) (own : ∀ part ∈ parts entry, keep part = true)
    (others : ∀ other ∈ entries, other.1 ≠ entry.1 → ∀ part ∈ parts other, keep part = false) :
    (entries.flatMap parts).filter keep = parts entry := by
  have gone : ∀ {some : List (Key × Value)}, (∀ other ∈ some, other ∈ entries ∧ other.1 ≠ entry.1) →
      (some.flatMap parts).filter keep = [] := by
    intro some apart
    rw [List.filter_eq_nil_iff]
    intro part listed
    obtain ⟨other, inside, has⟩ := List.mem_flatMap.mp listed
    obtain ⟨known, different⟩ := apart other inside
    simp [others other known different part has]
  obtain ⟨before, after, rfl⟩ := List.append_of_mem member
  rw [keys, List.map_append, List.map_cons, List.nodup_middle, ← List.map_append,
    List.nodup_cons] at distinct
  have apart : ∀ other ∈ before ++ after, other ∈ before ++ entry :: after ∧ other.1 ≠ entry.1 := by
    intro other inside
    refine ⟨by simp only [List.mem_append, List.mem_cons] at inside ⊢; tauto, fun same => ?_⟩
    exact distinct.1 (same ▸ List.mem_map_of_mem inside)
  rw [List.flatMap_append, List.flatMap_cons, List.filter_append, List.filter_append,
    gone fun other inside => apart other (List.mem_append_left _ inside),
    gone fun other inside => apart other (List.mem_append_right _ inside),
    List.nil_append, List.append_nil, List.filter_eq_self.mpr own]

end Grouping
