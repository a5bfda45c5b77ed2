/-
This file collects what programs do with sorted lists: the distinct items of a
list in increasing order, the items in the order of a key, and the first item
of that order with a property. The last is a choice by minimal key, and the
lemmas state it that way, so a scan over a sorted list is read once here and
never again. Cutting a list into chunks of bounded size is here too.
-/

import Mathlib.Data.List.Sort
import Mathlib.Data.List.Dedup
import Mathlib.Data.Finset.Card

namespace SortedList

variable {Item Key : Type}

/-! ### The distinct items in increasing order -/

section Distinct

variable [LinearOrder Item]

/-- The distinct items of a list, in increasing order. -/
def distinct (items : List Item) : List Item :=
  items.dedup.insertionSort (· ≤ ·)

@[simp] theorem mem_distinct {items : List Item} {item : Item} :
    item ∈ distinct items ↔ item ∈ items := by
  rw [distinct, List.mem_insertionSort, List.mem_dedup]

theorem distinct_nodup (items : List Item) : (distinct items).Nodup :=
  (List.perm_insertionSort _ _).nodup_iff.mpr items.nodup_dedup

theorem distinct_sorted (items : List Item) : (distinct items).SortedLT :=
  List.sortedLE_insertionSort.sortedLT_of_nodup (distinct_nodup items)

/-- The distinct items depend only on which items occur. -/
theorem distinct_congr {first second : List Item}
    (same : ∀ item, item ∈ first ↔ item ∈ second) : distinct first = distinct second := by
  refine (distinct_sorted first).eq_of_mem_iff (distinct_sorted second) fun item => ?_
  rw [mem_distinct, mem_distinct, same item]

@[simp] theorem toFinset_distinct (items : List Item) :
    (distinct items).toFinset = items.toFinset := by
  ext item
  rw [List.mem_toFinset, List.mem_toFinset, mem_distinct]

end Distinct

/-! ### The items in the order of a key -/

section ByKey

variable [LinearOrder Key]

/-- The items of a list in increasing order of a key; items of equal key keep their order. -/
def byKey (key : Item → Key) (items : List Item) : List Item :=
  items.insertionSort fun first second => key first ≤ key second

@[simp] theorem mem_byKey {key : Item → Key} {items : List Item} {item : Item} :
    item ∈ byKey key items ↔ item ∈ items :=
  List.mem_insertionSort _

theorem byKey_perm (key : Item → Key) (items : List Item) : (byKey key items).Perm items :=
  List.perm_insertionSort _ _

theorem byKey_pairwise (key : Item → Key) (items : List Item) :
    (byKey key items).Pairwise fun first second => key first ≤ key second := by
  have : Std.Total fun first second : Item => key first ≤ key second :=
    ⟨fun first second => le_total (key first) (key second)⟩
  have : IsTrans Item fun first second => key first ≤ key second :=
    ⟨fun _ _ _ => le_trans⟩
  exact List.pairwise_insertionSort _ items

/-- The first item of the key order with a property is one of minimal key. -/
theorem find?_byKey_eq_some {key : Item → Key} {items : List Item} {holds : Item → Bool}
    {item : Item} (found : (byKey key items).find? holds = some item) :
    item ∈ items ∧ holds item ∧ ∀ other ∈ items, key other < key item → holds other = false := by
  obtain ⟨holdsItem, before, after, split, beforeFails⟩ := List.find?_eq_some_iff_append.mp found
  have sorted := byKey_pairwise key items
  rw [split, List.pairwise_append] at sorted
  refine ⟨mem_byKey.mp (List.mem_of_find?_eq_some found), holdsItem, fun other member lower => ?_⟩
  have listed : other ∈ byKey key items := mem_byKey.mpr member
  rw [split, List.mem_append, List.mem_cons] at listed
  rcases listed with early | rfl | late
  · simpa using beforeFails other early
  · exact absurd lower (lt_irrefl _)
  · exact absurd lower (not_lt_of_ge ((List.pairwise_cons.mp sorted.2.1).1 other late))

theorem find?_byKey_eq_none {key : Item → Key} {items : List Item} {holds : Item → Bool} :
    (byKey key items).find? holds = none ↔ ∀ item ∈ items, holds item = false := by
  rw [List.find?_eq_none]
  simp only [mem_byKey, Bool.not_eq_true]

end ByKey

/-! ### The items from the largest key down -/

section Descending

variable [LinearOrder Key]

/-- The items of a list in decreasing order of a key; items of equal key keep their order. -/
def descending (key : Item → Key) (items : List Item) : List Item :=
  items.insertionSort fun first second => key second ≤ key first

theorem descending_pairwise (key : Item → Key) (items : List Item) :
    (descending key items).Pairwise fun first second => key second ≤ key first := by
  have : Std.Total fun first second : Item => key second ≤ key first :=
    ⟨fun first second => le_total (key second) (key first)⟩
  have : IsTrans Item fun first second => key second ≤ key first :=
    ⟨fun _ _ _ later earlier => le_trans earlier later⟩
  exact List.pairwise_insertionSort _ items

theorem descending_perm (key : Item → Key) (items : List Item) :
    (descending key items).Perm items :=
  List.perm_insertionSort _ items

/-- The items of a list can be sorted before or after they are mapped to what the key reads. -/
theorem map_descending {Value : Type} (key : Value → Key) (value : Item → Value)
    (items : List Item) :
    (descending (fun item => key (value item)) items).map value =
      descending key (items.map value) :=
  List.map_insertionSort _ _ value items fun _ _ _ _ => Iff.rfl

/-- The items of one key keep their order. -/
theorem filter_descending (key : Item → Key) (items : List Item) (level : Key) :
    ((descending key items).filter fun item => key item = level) =
      items.filter fun item => key item = level := by
  have alike : (items.filter fun item => key item = level).Pairwise
      fun first second => key second ≤ key first := by
    refine List.pairwise_of_forall_mem_list fun first member second member' => le_of_eq ?_
    rw [of_decide_eq_true (List.mem_filter.mp member).2,
      of_decide_eq_true (List.mem_filter.mp member').2]
  have kept := (List.sublist_insertionSort alike List.filter_sublist).filter
    fun item => decide (key item = level)
  rw [List.filter_filter] at kept
  simp only [Bool.and_self] at kept
  exact (kept.eq_of_length ((descending_perm key items).filter _).length_eq.symm).symm

/-- A list in decreasing order consists of the items above a level, those at it, and those
below. -/
theorem eq_above_at_below {key : Item → Key} {items : List Item}
    (sorted : items.Pairwise fun first second => key second ≤ key first) (level : Key) :
    items = (items.filter fun item => level < key item) ++
      (items.filter fun item => key item = level) ++ items.filter fun item => key item < level := by
  induction items with
  | nil => rfl
  | cons item rest inductionHypothesis =>
    obtain ⟨first, later⟩ := List.pairwise_cons.mp sorted
    have rest' := inductionHypothesis later
    rcases lt_trichotomy (key item) level with below | level_eq | above
    · have under : ∀ other ∈ item :: rest, key other < level :=
        List.forall_mem_cons.mpr ⟨below,
          fun other member => lt_of_le_of_lt (first other member) below⟩
      rw [List.filter_eq_nil_iff.mpr fun other member => by simpa using (under other member).le,
        List.filter_eq_nil_iff.mpr fun other member => by simpa using (under other member).ne,
        List.filter_eq_self.mpr fun other member => by simpa using under other member]
      rfl
    · have none : rest.filter (fun other => level < key other) = [] :=
        List.filter_eq_nil_iff.mpr fun other member => by
          simpa using level_eq ▸ first other member
      rw [none, List.nil_append] at rest'
      simp only [List.filter_cons, level_eq, lt_self_iff_false, decide_true, decide_false, none,
        if_true, Bool.false_eq_true, if_false, List.nil_append, List.cons_append]
      rw [← rest']
    · simp only [List.filter_cons, above, above.ne', not_lt_of_gt above, decide_true, decide_false,
        if_true, Bool.false_eq_true, if_false, List.cons_append]
      rw [← rest']

/-- The items not below a level are those above it and those at it. -/
theorem length_filter_not_below (key : Item → Key) (items : List Item) (level : Key) :
    (items.filter fun item => level ≤ key item).length =
      (items.filter fun item => level < key item).length +
        (items.filter fun item => key item = level).length := by
  induction items with
  | nil => rfl
  | cons item rest inductionHypothesis =>
    rcases lt_trichotomy level (key item) with above | same | below
    · simp [above, above.le, above.ne', inductionHypothesis, Nat.add_right_comm]
    · subst same
      simp [inductionHypothesis, Nat.add_assoc]
    · simp [not_lt_of_gt below, not_le_of_gt below, below.ne, inductionHypothesis]

/-- An item is among the first of the decreasing order when few items are ahead of it: those listed
before it that are not below it, and those listed after it that are above it. -/
theorem mem_take_descending {key : Item → Key} {before after : List Item} {item : Item}
    {count : Nat}
    (few : (before.filter fun other => key item ≤ key other).length +
      (after.filter fun other => key item < key other).length < count) :
    item ∈ (descending key (before ++ item :: after)).take count := by
  have above : ((before ++ item :: after).filter fun other => key item < key other).length +
      (before.filter fun other => key other = key item).length < count := by
    rw [List.filter_append, List.filter_cons_of_neg (by simp), List.length_append]
    rw [length_filter_not_below] at few
    omega
  have split := eq_above_at_below (descending_pairwise key (before ++ item :: after)) (key item)
  rw [filter_descending, List.filter_append, List.filter_cons_of_pos (by simp)] at split
  rw [split, List.append_assoc, List.append_assoc, ← List.append_assoc]
  have ahead : ((descending key (before ++ item :: after)).filter
      fun other => key item < key other).length =
        ((before ++ item :: after).filter fun other => key item < key other).length :=
    ((descending_perm key _).filter _).length_eq
  rw [List.take_append, List.mem_append, List.length_append, ahead, List.cons_append]
  right
  obtain ⟨room, enough⟩ := Nat.exists_eq_add_of_lt above
  rw [enough, Nat.add_assoc, Nat.add_sub_cancel_left, List.take_succ_cons]
  exact List.mem_cons_self

end Descending

/-! ### The sort of a library -/

/-- The sort of a library, largest first, by comparisons that say that the first item is smaller.
It rearranges the items, and where the comparisons are those of a key it is the stable sort by that
key. What it makes of other comparisons depends on its algorithm. -/
structure ReverseSort (Item : Type) where
  sort : (Item → Item → Bool) → List Item → List Item
  perm : ∀ smaller items, (sort smaller items).Perm items
  stable : ∀ smaller items (Key : Type) [LinearOrder Key] (key : Item → Key),
    (∀ first ∈ items, ∀ second ∈ items, smaller first second = true ↔ key first < key second) →
      sort smaller items = descending key items

/-- Insertion is such a sort. -/
def ReverseSort.insertion : ReverseSort Item where
  sort smaller items := items.insertionSort fun first second => smaller first second = false
  perm _ _ := List.perm_insertionSort _ _
  stable smaller items _ _ key compared := by
    have same := List.map_insertionSort (fun first second => smaller first second = false)
      (fun first second => key second ≤ key first) id items fun first member second member' => by
        rw [← Bool.not_eq_true, compared first member second member', not_lt]
        rfl
    rwa [List.map_id, List.map_id] at same

/-! ### Chunks -/

/-- A list cut into consecutive chunks of at most `size` items. -/
def chunks (size : Nat) (items : List Item) : List (List Item) :=
  (List.range ((items.length + size - 1) / size)).map fun index =>
    (items.drop (index * size)).take size

/-- The first chunks of a list, joined, are its first items. -/
theorem flatten_map_chunk (size : Nat) (items : List Item) (count : Nat) :
    ((List.range count).map fun index => (items.drop (index * size)).take size).flatten =
      items.take (count * size) := by
  induction count with
  | zero => simp
  | succ count inductionHypothesis =>
    rw [List.range_succ, List.map_append, List.flatten_append, inductionHypothesis,
      List.map_singleton, List.flatten_singleton, ← List.take_add, Nat.succ_mul]

theorem flatten_chunks {size : Nat} (positive : 0 < size) (items : List Item) :
    (chunks size items).flatten = items := by
  rw [chunks, flatten_map_chunk, List.take_eq_self_iff]
  have rounded := Nat.lt_div_mul_add (a := items.length + size - 1) positive
  omega

end SortedList
