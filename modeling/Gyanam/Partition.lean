/-
This file states what the allocator is for: the result is a capacity-bounded
partition of the targets by rendezvous hashing. A target is with the collector
it ranks first among those that still had room when the targets with smaller
ids were placed, no collector is over the cap, and a target is left out only
when the whole fleet is full.

The second half compares two runs. Adding a collector, or raising the cap, gives
every collector at least the spare room it had, so a target moves only to a
collector it ranks higher; when the cap cannot bind, the only moves are to the
newcomer.
-/

import Gyanam.ShardAlloc
import Mathlib.Algebra.BigOperators.Ring.Finset

namespace Gyanam

/-! ### The fair share covers the fleet -/

theorem le_mul_ceilDiv (numerator : Int) {denominator : Int} (positive : 0 < denominator) :
    numerator ≤ denominator * ceilDiv numerator denominator := by
  have below := Int.ediv_mul_le (-numerator) positive.ne'
  rw [ceilDiv, mul_neg, mul_comm]
  omega

theorem mul_ceilDiv_lt (numerator : Int) {denominator : Int} (positive : 0 < denominator) :
    denominator * ceilDiv numerator denominator < numerator + denominator := by
  have above := Int.lt_ediv_add_one_mul_self (-numerator) positive
  rw [ceilDiv, mul_neg, mul_comm]
  rw [add_mul, one_mul] at above
  omega

/-- The effective cap leaves no target out when the safety ceiling leaves none out. -/
theorem le_mul_effectiveCap {nTargets nLive maxPerShard : Int}
    (enough : nTargets ≤ nLive * maxPerShard) :
    nTargets ≤ nLive * effectiveCap nTargets nLive maxPerShard := by
  unfold effectiveCap
  split
  · exact enough
  · next live =>
    rcases min_choice maxPerShard (ceilDiv nTargets nLive) with ceiling | share
    · rwa [ceiling]
    · rw [share]
      exact le_mul_ceilDiv nTargets (not_le.mp live)

/-! ### The capacity-bounded partition -/

/-- An assignment of targets to live collectors by rendezvous hashing under a cap. -/
structure BoundedPartition (score : Score) (targetIds : List TargetId) (live : List CollectorId)
    (cap : Int) (assigned : Assigned) : Prop where
  /-- The keys are the distinct live collectors. -/
  keys : assigned.keys.Nodup ∧ ∀ cid, cid ∈ assigned.keys ↔ cid ∈ live
  /-- No slice lists a target twice. -/
  nodup : ∀ cid, (slice assigned cid).Nodup
  subset : ∀ cid, ∀ tid ∈ slice assigned cid, tid ∈ targetIds
  disjoint : ∀ tid first second, tid ∈ slice assigned first → tid ∈ slice assigned second →
    first = second
  bounded : ∀ cid, ((slice assigned cid).length : Int) ≤ max cap 0
  /-- As many targets are assigned as there are places for. -/
  total : ((targetIds.toFinset.filter fun tid =>
      ∃ cid ∈ live.toFinset, tid ∈ slice assigned cid).card : Int) =
    min (targetIds.toFinset.card : Int) (max cap 0 * live.toFinset.card)
  /-- A collector ranked above a target's own was full of smaller targets. -/
  preferred : ∀ cid, ∀ tid ∈ slice assigned cid, ∀ other ∈ live,
    ranking score tid other < ranking score tid cid →
      cap ≤ ((slice assigned other).filter fun earlier => decide (earlier < tid)).length
  /-- A target is left out only when every collector is full. -/
  overflow : ∀ tid ∈ targetIds, (∀ cid, tid ∉ slice assigned cid) →
    ∀ cid ∈ live, cap ≤ (slice assigned cid).length

section Allocation

variable (score : Score) (targetIds : List TargetId) (live : List CollectorId) (cap : Int)

theorem allocate_congr {targetIds' : List TargetId} {live' : List CollectorId}
    (sameTargets : ∀ tid, tid ∈ targetIds' ↔ tid ∈ targetIds)
    (sameLive : ∀ cid, cid ∈ live' ↔ cid ∈ live) :
    allocate score targetIds' live' cap = allocate score targetIds live cap := by
  unfold allocate
  simp only [SortedList.distinct_congr sameTargets, SortedList.distinct_congr sameLive]

theorem quota_of_mem {cid : CollectorId} (member : cid ∈ live) :
    (quota live cap cid : Int) = max cap 0 := by
  rw [quota, if_pos member, Int.ofNat_toNat]

theorem quota_le (cid : CollectorId) : (quota live cap cid : Int) ≤ max cap 0 := by
  by_cases member : cid ∈ live
  · rw [quota_of_mem live cap member]
  · rw [quota, if_neg member]
    exact le_max_right cap 0

theorem sum_quota :
    ((∑ cid ∈ live.toFinset, quota live cap cid : Nat) : Int) =
      max cap 0 * live.toFinset.card := by
  rw [Nat.cast_sum, Finset.sum_congr rfl fun cid member =>
    quota_of_mem live cap (List.mem_toFinset.mp member), Finset.sum_const, nsmul_eq_mul, mul_comm]

theorem quota_outside {cid : CollectorId} (absent : cid ∉ live.toFinset) :
    quota live cap cid = 0 := by
  rw [quota, if_neg fun member => absent (List.mem_toFinset.mpr member)]

/-- The smaller targets of a slice are those placed before the target. -/
theorem length_slice_before (tid : TargetId) (cid : CollectorId) :
    ((slice (allocate score targetIds live cap) cid).filter fun earlier =>
        decide (earlier < tid)).length =
      Seating.load (Seating.earlier targetIds.toFinset tid)
        (owner (allocate score targetIds live cap)) cid := by
  rw [slice_allocate, List.filter_filter, ← List.toFinset_card_of_nodup
    ((SortedList.distinct_nodup targetIds).filter _), List.toFinset_filter,
    SortedList.toFinset_distinct, Seating.load, Seating.earlier, Finset.filter_filter]
  simp only [Bool.and_eq_true, decide_eq_true_eq]

/-- The allocator returns a capacity-bounded partition. -/
theorem allocate_bounded :
    BoundedPartition score targetIds live cap (allocate score targetIds live cap) where
  keys := by
    rw [keys_allocate]
    exact ⟨SortedList.distinct_nodup live, fun _ => SortedList.mem_distinct⟩
  nodup cid := by
    rw [slice_allocate]
    exact (SortedList.distinct_nodup targetIds).filter _
  subset cid tid member := ((mem_slice_iff score targetIds live cap).mp member).1
  disjoint tid first second inFirst inSecond := by
    have left := ((mem_slice_iff score targetIds live cap).mp inFirst).2
    have right := ((mem_slice_iff score targetIds live cap).mp inSecond).2
    exact Option.some.inj (left.symm.trans right)
  bounded cid := by
    rw [length_slice]
    refine le_trans ?_ (quota_le live cap cid)
    exact Nat.cast_le.mpr ((allocate_greedy score targetIds live cap).load_le_quota cid)
  total := by
    have counted := (allocate_greedy score targetIds live cap).sum_load
      fun cid => quota_outside live cap
    rw [Seating.sum_load_eq_card] at counted
    rw [← sum_quota, ← Nat.cast_min, ← counted]
    refine congrArg Nat.cast (congrArg Finset.card (Finset.filter_congr fun tid present => ?_))
    refine exists_congr fun cid => and_congr_right fun _ => ?_
    rw [mem_slice_iff, and_iff_right (List.mem_toFinset.mp present)]
  preferred cid tid member other otherLive better := by
    obtain ⟨present, owned⟩ := (mem_slice_iff score targetIds live cap).mp member
    have full := (allocate_greedy score targetIds live cap).best tid
      (List.mem_toFinset.mpr present) cid owned other better
    rw [length_slice_before]
    refine le_trans (le_max_left cap 0) ?_
    rw [← quota_of_mem live cap otherLive]
    exact Nat.cast_le.mpr full
  overflow tid present unassigned cid cidLive := by
    have nowhere : owner (allocate score targetIds live cap) tid = none := by
      rw [Option.eq_none_iff_forall_ne_some]
      exact fun other owned =>
        unassigned other ((mem_slice_iff score targetIds live cap).mpr ⟨present, owned⟩)
    rw [length_slice, (allocate_greedy score targetIds live cap).load_eq_quota_of_unplaced
      (List.mem_toFinset.mpr present) nowhere cid, quota_of_mem live cap cidLive]
    exact le_max_left cap 0

/-- With places for every target, every target has an owner. -/
theorem owner_isSome (enough : (targetIds.toFinset.card : Int) ≤ live.toFinset.card * cap)
    {tid : TargetId} (present : tid ∈ targetIds) :
    ∃ cid ∈ live, owner (allocate score targetIds live cap) tid = some cid := by
  have total := (allocate_bounded score targetIds live cap).total
  have places : (targetIds.toFinset.card : Int) ≤ max cap 0 * live.toFinset.card := by
    refine enough.trans ?_
    rw [mul_comm]
    exact mul_le_mul_of_nonneg_right (le_max_left cap 0) (Nat.cast_nonneg _)
  rw [min_eq_left places, Nat.cast_inj] at total
  have everyone := Finset.filter_card_eq total tid (List.mem_toFinset.mpr present)
  obtain ⟨cid, cidLive, member⟩ := everyone
  exact ⟨cid, List.mem_toFinset.mp cidLive,
    ((mem_slice_iff score targetIds live cap).mp member).2⟩

/-- The allocator is a capacity-bounded partition by rendezvous hashing. It depends only on
the set of targets and the set of live collectors, and with the effective cap of a fleet that
has places enough it assigns every target exactly once. -/
theorem allocate_partition :
    BoundedPartition score targetIds live cap (allocate score targetIds live cap) ∧
      (∀ (targetIds' : List TargetId) (live' : List CollectorId),
        (∀ tid, tid ∈ targetIds' ↔ tid ∈ targetIds) → (∀ cid, cid ∈ live' ↔ cid ∈ live) →
          allocate score targetIds' live' cap = allocate score targetIds live cap) ∧
      ∀ maxPerShard : Int,
        (targetIds.toFinset.card : Int) ≤ live.toFinset.card * maxPerShard →
          ∀ tid ∈ targetIds, ∃! cid, tid ∈ slice (allocate score targetIds live
            (effectiveCap targetIds.toFinset.card live.toFinset.card maxPerShard)) cid := by
  refine ⟨allocate_bounded score targetIds live cap,
    fun _ _ => allocate_congr score targetIds live cap, fun maxPerShard enough tid present => ?_⟩
  set shared := effectiveCap targetIds.toFinset.card live.toFinset.card maxPerShard
  obtain ⟨cid, _, owned⟩ :=
    owner_isSome score targetIds live shared (le_mul_effectiveCap enough) present
  refine ⟨cid, (mem_slice_iff score targetIds live shared).mpr ⟨present, owned⟩, ?_⟩
  intro other member
  exact Option.some.inj (((mem_slice_iff score targetIds live shared).mp member).2.symm.trans owned)

/-- A negative cap is no bound on the size of a slice: the slices are empty. -/
theorem slice_exceeds_negative_cap :
    ¬ ∀ (score : Score) (targetIds : List TargetId) (live : List CollectorId) (cap : Int),
      ∀ cid ∈ live, ((slice (allocate score targetIds live cap) cid).length : Int) ≤ cap := by
  intro claimed
  have impossible := claimed (fun _ _ => 0) [1] ["collector-0"] (-1) "collector-0"
    List.mem_cons_self
  exact absurd impossible (by decide)

end Allocation

/-! ### Two runs of the allocator -/

section Movement

variable (score : Score) (targetIds : List TargetId)

theorem quota_mono {live live' : List CollectorId} {cap cap' : Int}
    (joins : ∀ cid ∈ live, cid ∈ live') (raises : cap ≤ cap') (cid : CollectorId) :
    quota live cap cid ≤ quota live' cap' cid := by
  rw [quota, quota]
  split
  · next member =>
    rw [if_pos (joins cid member)]
    exact Int.toNat_le_toNat raises
  · exact Nat.zero_le _

/-- With more collectors or a higher cap, an assigned target stays assigned, to a collector it
ranks no lower. -/
theorem owner_improves {live live' : List CollectorId} {cap cap' : Int}
    (joins : ∀ cid ∈ live, cid ∈ live') (raises : cap ≤ cap') {tid : TargetId}
    {cid : CollectorId} (owned : owner (allocate score targetIds live cap) tid = some cid) :
    ∃ other, owner (allocate score targetIds live' cap') tid = some other ∧
      ranking score tid other ≤ ranking score tid cid :=
  Seating.Greedy.improves (ranking_injective score) (quota_mono joins raises)
    (allocate_greedy score targetIds live cap) (allocate_greedy score targetIds live' cap')
    (List.mem_toFinset.mpr (mem_of_owner score targetIds live cap owned)) owned

/-- When the cap cannot bind, a target stays where it was unless it goes to a newcomer. -/
theorem owner_of_stays {live live' : List CollectorId} {cap : Int}
    (joins : ∀ cid ∈ live, cid ∈ live') (roomy : (targetIds.toFinset.card : Int) ≤ cap)
    {tid : TargetId} {cid : CollectorId} (stays : cid ∈ live)
    (owned : owner (allocate score targetIds live' cap) tid = some cid) :
    owner (allocate score targetIds live cap) tid = some cid := by
  have present := List.mem_toFinset.mpr (mem_of_owner score targetIds live' cap owned)
  have someTarget : 0 < targetIds.toFinset.card := Finset.card_pos.mpr ⟨tid, present⟩
  have fits : targetIds.toFinset.card ≤ quota live cap cid := by
    rw [quota, if_pos stays]
    omega
  cases before : owner (allocate score targetIds live cap) tid with
  | none =>
    have full := (allocate_greedy score targetIds live cap).load_eq_quota_of_unplaced present
      before cid
    have everyone : targetIds.toFinset.filter
        (fun other => owner (allocate score targetIds live cap) other = some cid) =
        targetIds.toFinset :=
      Finset.eq_of_subset_of_card_le (Finset.filter_subset _ _) (fits.trans full.ge)
    have self := Finset.filter_eq_self.mp everyone tid present
    exact absurd (before.symm.trans self) (by simp)
  | some other =>
    obtain ⟨moved, found, lower⟩ :=
      owner_improves score targetIds joins (le_refl cap) before
    obtain rfl : cid = moved := Option.some.inj (owned.symm.trans found)
    have upper := (allocate_greedy score targetIds live cap).rank_le_of_roomy present before fits
    rw [ranking_injective score tid (le_antisymm lower upper)]

/-- Movement is monotone and minimal. Adding collectors or raising the cap leaves every
assigned target assigned and never moves it down its own ranking; when the cap is at least the
number of targets, adding a collector changes the owner only of targets that move to it, and
removing one changes the owner only of the targets it owned. -/
theorem allocate_movement (cap : Int) (live : List CollectorId) :
    (∀ (live' : List CollectorId) (cap' : Int), (∀ cid ∈ live, cid ∈ live') → cap ≤ cap' →
      ∀ tid cid, owner (allocate score targetIds live cap) tid = some cid →
        ∃ other, owner (allocate score targetIds live' cap') tid = some other ∧
          ranking score tid other ≤ ranking score tid cid) ∧
      ((targetIds.toFinset.card : Int) ≤ cap →
        (∀ newcomer tid,
          owner (allocate score targetIds (newcomer :: live) cap) tid ≠
              owner (allocate score targetIds live cap) tid →
            owner (allocate score targetIds (newcomer :: live) cap) tid = some newcomer) ∧
        ∀ leaver tid,
          owner (allocate score targetIds (live.filter fun cid => cid ≠ leaver) cap) tid ≠
              owner (allocate score targetIds live cap) tid →
            owner (allocate score targetIds live cap) tid = some leaver) := by
  have settled : ∀ {few many : List CollectorId} (special : CollectorId),
      (targetIds.toFinset.card : Int) ≤ cap → (∀ cid ∈ few, cid ∈ many) →
      (∀ cid ∈ many, cid = special ∨ cid ∈ few) → ∀ tid,
      owner (allocate score targetIds many cap) tid ≠ owner (allocate score targetIds few cap) tid →
        owner (allocate score targetIds many cap) tid = some special := by
    intro few many special roomy joins covered tid changed
    cases after : owner (allocate score targetIds many cap) tid with
    | none =>
      cases before : owner (allocate score targetIds few cap) tid with
      | none => exact absurd (after.trans before.symm) changed
      | some cid =>
        obtain ⟨other, found, _⟩ := owner_improves score targetIds joins (le_refl cap) before
        exact absurd (after.symm.trans found) (by simp)
    | some cid =>
      have isLive : cid ∈ many := by
        by_contra absent
        have positive := (allocate_greedy score targetIds many cap).quota_pos
          (List.mem_toFinset.mpr (mem_of_owner score targetIds many cap after)) after
        rw [quota, if_neg absent] at positive
        exact lt_irrefl 0 positive
      rcases covered cid isLive with rfl | stays
      · rfl
      · exact absurd (after.trans (owner_of_stays score targetIds joins roomy stays after).symm)
          changed
  refine ⟨fun live' cap' joins raises tid cid => owner_improves score targetIds joins raises,
    fun roomy => ⟨fun newcomer tid => ?_, fun leaver tid changed => ?_⟩⟩
  · exact settled newcomer roomy (fun cid => List.mem_cons_of_mem newcomer)
      (fun cid => List.mem_cons.mp) tid
  · refine settled leaver roomy (fun cid member => List.mem_of_mem_filter member)
      (fun cid member => ?_) tid changed.symm
    by_cases same : cid = leaver
    · exact Or.inl same
    · exact Or.inr (List.mem_filter.mpr ⟨member, decide_eq_true same⟩)

end Movement

end Gyanam
