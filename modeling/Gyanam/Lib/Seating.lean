/-
This file is about placing items in bins one after another. Every bin has a
quota; every item has a strict ranking of the bins; the items are taken in
increasing order and each goes to the best-ranked bin that still has room, or
nowhere when all are full.

An assignment is described by what it satisfies and not by the loop that
computes it (`Greedy`), so the results apply to any program that realises it.
They are the quota bound, the number of placed items, and the comparison of two
assignments of the same items where the second has the larger quotas: no bin
loses spare room (`Greedy.load_add_quota_le`), so no item loses its place or
moves to a bin it ranks lower (`Greedy.improves`). A bin that joins is a quota
that grows from zero, so joining and growing are one result.
-/

import Mathlib.Algebra.BigOperators.Group.Finset.Basic
import Mathlib.Algebra.Order.BigOperators.Group.Finset
import Mathlib.Data.Finset.Max

namespace Seating

variable {Item Bin Rank : Type} [DecidableEq Bin]

/-! ### Loads -/

/-- How many of the items are in a bin. -/
def load (items : Finset Item) (owner : Item → Option Bin) (bin : Bin) : Nat :=
  (items.filter fun item => owner item = some bin).card

theorem load_insert [DecidableEq Item] {items : Finset Item} {item : Item} (absent : item ∉ items)
    (owner : Item → Option Bin) (bin : Bin) :
    load (insert item items) owner bin =
      load items owner bin + if owner item = some bin then 1 else 0 := by
  rw [load, Finset.filter_insert]
  split
  · rw [Finset.card_insert_of_notMem fun member => absent (Finset.mem_of_mem_filter _ member)]
    rfl
  · rfl

theorem load_mono {few many : Finset Item} (subset : few ⊆ many) (owner : Item → Option Bin)
    (bin : Bin) : load few owner bin ≤ load many owner bin :=
  Finset.card_le_card (Finset.filter_subset_filter _ subset)

theorem load_congr {items : Finset Item} {first second : Item → Option Bin}
    (same : ∀ item ∈ items, first item = second item) (bin : Bin) :
    load items first bin = load items second bin := by
  refine congrArg Finset.card (Finset.filter_congr fun item member => ?_)
  rw [same item member]

/-- The items placed in some bin of a set are counted bin by bin. -/
theorem sum_load_eq_card [DecidableEq Item] (items : Finset Item) (owner : Item → Option Bin)
    (bins : Finset Bin) :
    ∑ bin ∈ bins, load items owner bin =
      (items.filter fun item => ∃ bin ∈ bins, owner item = some bin).card := by
  simp only [load]
  rw [← Finset.card_biUnion]
  · congr 1
    ext item
    simp only [Finset.mem_biUnion, Finset.mem_filter]
    constructor
    · rintro ⟨bin, member, present, placed⟩
      exact ⟨present, bin, member, placed⟩
    · rintro ⟨present, bin, member, placed⟩
      exact ⟨bin, member, present, placed⟩
  · intro first _ second _ different
    refine Finset.disjoint_left.mpr fun item inFirst inSecond => different ?_
    have left := (Finset.mem_filter.mp inFirst).2
    have right := (Finset.mem_filter.mp inSecond).2
    exact Option.some.inj (left.symm.trans right)

/-! ### The items taken before an item -/

variable [LinearOrder Item]

/-- The items that are taken before an item. -/
def earlier (items : Finset Item) (item : Item) : Finset Item :=
  items.filter fun other => other < item

theorem earlier_subset (items : Finset Item) (item : Item) : earlier items item ⊆ items :=
  Finset.filter_subset _ _

theorem earlier_earlier {items : Finset Item} {item other : Item} (before : other < item) :
    earlier (earlier items item) other = earlier items other := by
  ext candidate
  simp only [earlier, Finset.mem_filter]
  constructor
  · rintro ⟨⟨member, _⟩, lower⟩
    exact ⟨member, lower⟩
  · rintro ⟨member, lower⟩
    exact ⟨⟨member, lower.trans before⟩, lower⟩

theorem earlier_insert_max {items : Finset Item} {item : Item}
    (above : ∀ other ∈ items, other < item) : earlier (insert item items) item = items := by
  rw [earlier, Finset.filter_insert, if_neg (lt_irrefl item)]
  exact Finset.filter_true_of_mem above

theorem earlier_insert_of_mem {items : Finset Item} {item other : Item}
    (above : ∀ candidate ∈ items, candidate < item) (member : other ∈ items) :
    earlier (insert item items) other = earlier items other := by
  rw [earlier, Finset.filter_insert, if_neg (above other member).not_gt]
  rfl

/-! ### Greedy assignments -/

variable [LinearOrder Rank]

/-- Every item is in its best-ranked bin among those with room when it was taken, and an item
without a bin found none. -/
structure Greedy (items : Finset Item) (quota : Bin → Nat) (rank : Item → Bin → Rank)
    (owner : Item → Option Bin) : Prop where
  room : ∀ item ∈ items, ∀ bin, owner item = some bin →
    load (earlier items item) owner bin < quota bin
  best : ∀ item ∈ items, ∀ bin, owner item = some bin → ∀ other,
    rank item other < rank item bin → quota other ≤ load (earlier items item) owner other
  full : ∀ item ∈ items, owner item = none → ∀ bin, quota bin ≤ load (earlier items item) owner bin

namespace Greedy

variable {items : Finset Item} {quota larger : Bin → Nat} {rank : Item → Bin → Rank}
  {owner owner' : Item → Option Bin}

theorem empty (quota : Bin → Nat) (rank : Item → Bin → Rank) (owner : Item → Option Bin) :
    Greedy ∅ quota rank owner where
  room _ member := absurd member (Finset.notMem_empty _)
  best _ member := absurd member (Finset.notMem_empty _)
  full _ member := absurd member (Finset.notMem_empty _)

/-- The items before an item are placed greedily among themselves. -/
theorem restrict (greedy : Greedy items quota rank owner) (item : Item) :
    Greedy (earlier items item) quota rank owner := by
  have below : ∀ other ∈ earlier items item, other ∈ items ∧
      earlier (earlier items item) other = earlier items other := fun other member =>
    ⟨earlier_subset items item member, earlier_earlier (Finset.mem_filter.mp member).2⟩
  refine ⟨fun other member => ?_, fun other member => ?_, fun other member => ?_⟩ <;>
    rw [(below other member).2]
  · exact greedy.room other (below other member).1
  · exact greedy.best other (below other member).1
  · exact greedy.full other (below other member).1

/-- Taking the largest item away leaves a greedy assignment. -/
theorem of_insert_max {item : Item} (above : ∀ other ∈ items, other < item)
    (greedy : Greedy (insert item items) quota rank owner) : Greedy items quota rank owner := by
  have restricted := greedy.restrict item
  rwa [earlier_insert_max above] at restricted

/-- A further item, larger than the others, extends a greedy assignment when it is placed
greedily itself. -/
theorem insert_max {item : Item} (above : ∀ other ∈ items, other < item)
    (greedy : Greedy items quota rank owner)
    (room : ∀ bin, owner item = some bin → load items owner bin < quota bin)
    (best : ∀ bin, owner item = some bin → ∀ other, rank item other < rank item bin →
      quota other ≤ load items owner other)
    (full : owner item = none → ∀ bin, quota bin ≤ load items owner bin) :
    Greedy (insert item items) quota rank owner := by
  refine ⟨fun other member => ?_, fun other member => ?_, fun other member => ?_⟩ <;>
    rcases Finset.mem_insert.mp member with rfl | old
  · rwa [earlier_insert_max above]
  · rw [earlier_insert_of_mem above old]
    exact greedy.room other old
  · rwa [earlier_insert_max above]
  · rw [earlier_insert_of_mem above old]
    exact greedy.best other old
  · rwa [earlier_insert_max above]
  · rw [earlier_insert_of_mem above old]
    exact greedy.full other old

/-- Being greedy depends on the owners of the items only. -/
theorem congr (same : ∀ item ∈ items, owner item = owner' item)
    (greedy : Greedy items quota rank owner) : Greedy items quota rank owner' := by
  have loads : ∀ item bin,
      load (earlier items item) owner bin = load (earlier items item) owner' bin :=
    fun item => load_congr fun other member => same other (earlier_subset items item member)
  refine ⟨fun item member bin placed => ?_, fun item member bin placed other lower => ?_,
    fun item member unplaced bin => ?_⟩ <;> rw [← loads]
  · exact greedy.room item member bin ((same item member).trans placed)
  · exact greedy.best item member bin ((same item member).trans placed) other lower
  · exact greedy.full item member ((same item member).trans unplaced) bin

/-! ### Quotas and totals -/

/-- No bin holds more than its quota. -/
theorem load_le_quota (greedy : Greedy items quota rank owner) (bin : Bin) :
    load items owner bin ≤ quota bin := by
  induction items using Finset.induction_on_max with
  | empty => exact Nat.zero_le _
  | insert item items above inductionHypothesis =>
    have absent : item ∉ items := fun member => lt_irrefl item (above item member)
    rw [load_insert absent]
    split
    · next placed =>
      have room := greedy.room item (Finset.mem_insert_self item items) bin placed
      rwa [earlier_insert_max above] at room
    · exact inductionHypothesis (greedy.of_insert_max above)

/-- A bin that an item found full is full at the end. -/
theorem load_eq_quota (greedy : Greedy items quota rank owner) {item : Item} {bin : Bin}
    (filled : quota bin ≤ load (earlier items item) owner bin) :
    load items owner bin = quota bin :=
  le_antisymm (greedy.load_le_quota bin)
    (filled.trans (load_mono (earlier_subset items item) owner bin))

/-- An unplaced item means that every bin is full. -/
theorem load_eq_quota_of_unplaced (greedy : Greedy items quota rank owner) {item : Item}
    (member : item ∈ items) (unplaced : owner item = none) (bin : Bin) :
    load items owner bin = quota bin :=
  greedy.load_eq_quota (greedy.full item member unplaced bin)

/-- An item lies in a bin with a positive quota. -/
theorem quota_pos (greedy : Greedy items quota rank owner) {item : Item} {bin : Bin}
    (member : item ∈ items) (placed : owner item = some bin) : 0 < quota bin :=
  (Nat.zero_le _).trans_lt (greedy.room item member bin placed)

/-- The loads add up to the number of items or to the sum of the quotas, whichever is less. -/
theorem sum_load (greedy : Greedy items quota rank owner) {bins : Finset Bin}
    (outside : ∀ bin ∉ bins, quota bin = 0) :
    ∑ bin ∈ bins, load items owner bin = min items.card (∑ bin ∈ bins, quota bin) := by
  have inside : ∀ item ∈ items, ∀ bin, owner item = some bin → bin ∈ bins := by
    intro item member bin placed
    by_contra missing
    exact (greedy.quota_pos member placed).ne' (outside bin missing)
  have total := sum_load_eq_card items owner bins
  have bounded : ∑ bin ∈ bins, load items owner bin ≤ ∑ bin ∈ bins, quota bin :=
    Finset.sum_le_sum fun bin _ => greedy.load_le_quota bin
  by_cases unplaced : ∃ item ∈ items, owner item = none
  · obtain ⟨item, member, nowhere⟩ := unplaced
    have filled : ∑ bin ∈ bins, load items owner bin = ∑ bin ∈ bins, quota bin :=
      Finset.sum_congr rfl fun bin _ => greedy.load_eq_quota_of_unplaced member nowhere bin
    have atMost : ∑ bin ∈ bins, load items owner bin ≤ items.card := by
      rw [total]
      exact Finset.card_filter_le _ _
    rw [filled] at atMost ⊢
    exact (min_eq_right atMost).symm
  · have everyone : (items.filter fun item => ∃ bin ∈ bins, owner item = some bin) = items := by
      refine Finset.filter_true_of_mem fun item member => ?_
      obtain ⟨bin, placed⟩ := Option.ne_none_iff_exists'.mp fun nowhere =>
        unplaced ⟨item, member, nowhere⟩
      exact ⟨bin, inside item member bin placed, placed⟩
    rw [everyone] at total
    rw [total] at bounded ⊢
    exact (min_eq_left bounded).symm

/-! ### Two assignments of the same items -/

/-- Larger quotas leave every bin at least as much room. -/
theorem load_add_quota_le (strict : ∀ item, Function.Injective (rank item))
    (grows : ∀ bin, quota bin ≤ larger bin) (small : Greedy items quota rank owner)
    (large : Greedy items larger rank owner') (bin : Bin) :
    load items owner' bin + quota bin ≤ load items owner bin + larger bin := by
  induction items using Finset.induction_on_max generalizing bin with
  | empty => exact Nat.add_le_add_left (grows bin) 0
  | insert item items above inductionHypothesis =>
    have absent : item ∉ items := fun member => lt_irrefl item (above item member)
    have self := Finset.mem_insert_self item items
    have previous := inductionHypothesis (small.of_insert_max above) (large.of_insert_max above)
    have spare := previous bin
    rw [load_insert absent, load_insert absent]
    by_cases moved : owner' item = some bin
    · have largeRoom := large.room item self bin moved
      rw [earlier_insert_max above] at largeRoom
      by_cases tight : load items owner' bin + quota bin = load items owner bin + larger bin
      · -- the bin had room in the first assignment too, so the item cannot have gone elsewhere
        have smallRoom : load items owner bin < quota bin := by omega
        cases placed : owner item with
        | none =>
          have full := small.full item self placed bin
          rw [earlier_insert_max above] at full
          omega
        | some other =>
          by_cases same : other = bin
          · subst same
            rw [if_pos moved, if_pos rfl]
            omega
          · have otherRoom := small.room item self other placed
            rw [earlier_insert_max above] at otherRoom
            have notBetter : ¬ rank item bin < rank item other := by
              intro better
              have full := small.best item self other placed bin better
              rw [earlier_insert_max above] at full
              omega
            have better : rank item other < rank item bin :=
              lt_of_le_of_ne (not_lt.mp notBetter) fun equal => same (strict item equal)
            have full := large.best item self bin moved other better
            rw [earlier_insert_max above] at full
            have spareOther := previous other
            omega
      · split <;> split <;> omega
    · rw [if_neg moved]
      split <;> omega

/-- With larger quotas a placed item stays placed, in a bin it ranks no lower. -/
theorem improves (strict : ∀ item, Function.Injective (rank item))
    (grows : ∀ bin, quota bin ≤ larger bin) (small : Greedy items quota rank owner)
    (large : Greedy items larger rank owner') {item : Item} (member : item ∈ items) {bin : Bin}
    (placed : owner item = some bin) :
    ∃ other, owner' item = some other ∧ rank item other ≤ rank item bin := by
  have spare := load_add_quota_le strict grows (small.restrict item) (large.restrict item) bin
  have room := small.room item member bin placed
  have stillRoom : load (earlier items item) owner' bin < larger bin := by omega
  cases moved : owner' item with
  | none => exact absurd (large.full item member moved bin) (not_le_of_gt stillRoom)
  | some other =>
    refine ⟨other, rfl, not_lt.mp fun worse => ?_⟩
    exact absurd (large.best item member other moved bin worse) (not_le_of_gt stillRoom)

/-! ### Quotas that no bin reaches -/

/-- Where every bin could hold all the items, each item is in its best-ranked bin. -/
theorem rank_le_of_roomy (greedy : Greedy items quota rank owner) {item : Item}
    (member : item ∈ items) {bin other : Bin} (placed : owner item = some bin)
    (roomy : items.card ≤ quota other) : rank item bin ≤ rank item other := by
  refine not_lt.mp fun better => ?_
  have full := greedy.best item member bin placed other better
  have fewer : load (earlier items item) owner other < items.card := by
    refine lt_of_le_of_lt (Finset.card_filter_le _ _) (Finset.card_lt_card ?_)
    refine Finset.ssubset_iff_of_subset (earlier_subset items item) |>.mpr ⟨item, member, ?_⟩
    exact fun self => lt_irrefl item (Finset.mem_filter.mp self).2
  omega

end Greedy

end Seating
