/-
This file cuts a collection into pages, from its largest key down. Where an item
stands is the number of items ahead of it, so the page it is on is read off that
number, and the pages in order are the collection in order.
-/

import Gyanam.Lib.Sorted

namespace Paging

variable {Item Key : Type} [LinearOrder Key] {key : Item → Key} {items : List Item} {item : Item}

/-- At most so many items from an offset on, from the largest key down. -/
def page (key : Item → Key) (offset limit : Nat) (items : List Item) : List Item :=
  ((SortedList.descending key items).drop offset).take limit

/-- How many items are ahead of a key. -/
def ahead (key : Item → Key) (level : Key) (items : List Item) : Nat :=
  (items.filter fun other => level < key other).length

theorem length_page {offset limit : Nat} :
    (page key offset limit items).length = min limit (items.length - offset) := by
  rw [page, List.length_take, List.length_drop, (SortedList.descending_perm key items).length_eq]

/-- The items with one key, where the keys are distinct. -/
theorem filter_key_eq (distinct : (items.map key).Nodup) (member : item ∈ items) :
    (items.filter fun other => key other = key item) = [item] := by
  induction items with
  | nil => cases member
  | cons first rest inductionHypothesis =>
    rw [List.map_cons, List.nodup_cons] at distinct
    rcases List.mem_cons.mp member with rfl | later
    · rw [List.filter_cons_of_pos (by simp), List.filter_eq_nil_iff.mpr]
      intro other listed
      rw [decide_eq_true_eq]
      exact fun same => distinct.1 (List.mem_map.mpr ⟨other, listed, same⟩)
    · have other : key first ≠ key item := fun same =>
        distinct.1 (same ▸ List.mem_map_of_mem later)
      rw [List.filter_cons_of_neg (by simpa using other), inductionHypothesis distinct.2 later]

/-- Items of distinct keys are strictly ordered. -/
theorem descending_strict (distinct : (items.map key).Nodup) :
    (SortedList.descending key items).Pairwise fun first second => key second < key first := by
  have different : (SortedList.descending key items).Pairwise
      fun first second => key first ≠ key second :=
    List.pairwise_map.mp (((SortedList.descending_perm key items).map key).nodup_iff.mpr distinct)
  exact (SortedList.descending_pairwise key items).imp₂
    (fun _ _ below apart => lt_of_le_of_ne below apart.symm) different

/-- An item stands behind those ahead of it. -/
theorem getElem?_descending (distinct : (items.map key).Nodup) (member : item ∈ items) :
    (SortedList.descending key items)[ahead key (key item) items]? = some item := by
  have perm := SortedList.descending_perm key items
  have split := SortedList.eq_above_at_below (SortedList.descending_pairwise key items) (key item)
  rw [SortedList.filter_descending, filter_key_eq distinct member] at split
  have front : ((SortedList.descending key items).filter
      fun other => key item < key other).length = ahead key (key item) items :=
    (perm.filter _).length_eq
  rw [split, ← front, List.append_assoc, List.getElem?_append_right (le_refl _), Nat.sub_self]
  rfl

/-- The page of an item is the one that its place is on. -/
theorem mem_page_iff (distinct : (items.map key).Nodup) (member : item ∈ items)
    {offset limit : Nat} :
    item ∈ page key offset limit items ↔
      offset ≤ ahead key (key item) items ∧ ahead key (key item) items < offset + limit := by
  have place := getElem?_descending distinct member
  have once : (SortedList.descending key items).Nodup :=
    (SortedList.descending_perm key items).nodup_iff.mpr (List.Nodup.of_map key distinct)
  constructor
  · intro shown
    obtain ⟨index, found⟩ := List.mem_iff_getElem?.mp shown
    rw [page, List.getElem?_take] at found
    split at found
    · next short =>
      rw [List.getElem?_drop, ← place] at found
      have here := (List.getElem?_inj (List.getElem?_eq_some_iff.mp place).1 once).mp found.symm
      omega
    · cases found
  · rintro ⟨reached, within⟩
    refine List.mem_iff_getElem?.mpr ⟨ahead key (key item) items - offset, ?_⟩
    rw [page, List.getElem?_take, if_pos (by omega), List.getElem?_drop,
      Nat.add_sub_cancel' reached, place]

/-- A page that is not full is the last: everything is on it or before it. -/
theorem ahead_lt_of_short (member : item ∈ items) {offset limit : Nat}
    (short : (page key offset limit items).length < limit) :
    ahead key (key item) items < offset + limit := by
  have fewer : ahead key (key item) items < items.length := by
    refine List.length_filter_lt_length_iff_exists.mpr ⟨item, member, ?_⟩
    simp
  rw [length_page] at short
  omega

end Paging
