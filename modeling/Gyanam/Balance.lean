/-
This file settles how even the slices are. The cap bounds a slice from above
only: with `K` live collectors and `N` targets there are `K * ceil(N / K) - N`
spare places, and nothing stops all of them from falling to one collector. So
two slices can differ by the whole number of spare places and by no more, and
they are within one of each other under every score exactly when there is at
most one spare place.
-/

import Gyanam.Partition

namespace Gyanam

/-! ### Spare places -/

/-- Any two collectors' slices differ in size by at most one. -/
def Balanced (live : List CollectorId) (assigned : Assigned) : Prop :=
  ∀ first ∈ live, ∀ second ∈ live,
    (slice assigned first).length ≤ (slice assigned second).length + 1

instance (live : List CollectorId) (assigned : Assigned) : Decidable (Balanced live assigned) :=
  inferInstanceAs (Decidable (∀ first ∈ live, ∀ second ∈ live,
    (slice assigned first).length ≤ (slice assigned second).length + 1))

/-- The places the fair share leaves empty. -/
def sparePlaces (nTargets nLive : Nat) : Int :=
  nLive * ceilDiv nTargets nLive - nTargets

theorem sparePlaces_eq (nTargets : Nat) {nLive : Nat} (positive : 0 < nLive) :
    sparePlaces nTargets nLive =
      if nTargets % nLive = 0 then 0 else (nLive - nTargets % nLive : Int) := by
  have live : (0 : Int) < nLive := Nat.cast_pos.mpr positive
  have lower := le_mul_ceilDiv nTargets live
  have upper := mul_ceilDiv_lt nTargets live
  have split : (nTargets : Int) = nLive * (nTargets / nLive : Nat) + (nTargets % nLive : Nat) := by
    exact_mod_cast (Nat.div_add_mod nTargets nLive).symm
  have remainder : ((nTargets % nLive : Nat) : Int) < nLive :=
    Nat.cast_lt.mpr (Nat.mod_lt nTargets positive)
  rw [sparePlaces]
  generalize ceilDiv (nTargets : Int) nLive = share at lower upper ⊢
  -- the rounding adds no full share, and adds one share when there is a remainder
  have excess : nLive * (share - (nTargets / nLive : Nat)) = nLive * share - nTargets +
      (nTargets % nLive : Nat) := by
    rw [mul_sub]
    omega
  have notNegative : 0 ≤ share - (nTargets / nLive : Nat) := by
    refine nonneg_of_mul_nonneg_right (b := share - (nTargets / nLive : Nat)) ?_ live
    omega
  have atMostOne : share - (nTargets / nLive : Nat) < 2 := by
    refine lt_of_mul_lt_mul_left (a := (nLive : Int)) ?_ live.le
    omega
  obtain none | one : share - (nTargets / nLive : Nat) = 0 ∨
      share - (nTargets / nLive : Nat) = 1 := by omega
  · rw [none, mul_zero] at excess
    split <;> omega
  · rw [one, mul_one] at excess
    split <;> omega

/-- There is at most one spare place when the collectors divide the targets, or miss by one. -/
theorem sparePlaces_le_one_iff (nTargets : Nat) {nLive : Nat} (positive : 0 < nLive) :
    sparePlaces nTargets nLive ≤ 1 ↔ nTargets % nLive = 0 ∨ nTargets % nLive + 1 = nLive := by
  have remainder := Nat.mod_lt nTargets positive
  rw [sparePlaces_eq nTargets positive]
  split <;> omega

/-! ### How far the slices can be apart -/

section Slices

variable (score : Score) (targetIds : List TargetId) (live : List CollectorId) (cap : Int)

/-- The slices add up to the number of targets when there are places for all. -/
theorem sum_length_slice
    (enough : (targetIds.toFinset.card : Int) ≤ live.toFinset.card * cap) :
    ∑ cid ∈ live.toFinset, ((slice (allocate score targetIds live cap) cid).length : Int) =
      targetIds.toFinset.card := by
  have counted := (allocate_greedy score targetIds live cap).sum_load
    fun cid => quota_outside live cap
  have places : targetIds.toFinset.card ≤ ∑ cid ∈ live.toFinset, quota live cap cid := by
    rw [← Nat.cast_le (α := Int), sum_quota]
    refine enough.trans ?_
    rw [mul_comm]
    exact mul_le_mul_of_nonneg_right (le_max_left cap 0) (Nat.cast_nonneg _)
  rw [min_eq_left places] at counted
  rw [← counted, Nat.cast_sum]
  exact Finset.sum_congr rfl fun cid _ => by rw [length_slice]

theorem length_slice_le (positive : 0 ≤ cap) (cid : CollectorId) :
    ((slice (allocate score targetIds live cap) cid).length : Int) ≤ cap := by
  have bounded := (allocate_bounded score targetIds live cap).bounded cid
  rwa [max_eq_left positive] at bounded

/-- A slice misses the cap by no more than all the empty places. -/
theorem cap_le_length_slice_add
    (enough : (targetIds.toFinset.card : Int) ≤ live.toFinset.card * cap) (positive : 0 ≤ cap)
    {cid : CollectorId} (member : cid ∈ live) :
    cap ≤ (slice (allocate score targetIds live cap) cid).length +
      (live.toFinset.card * cap - targetIds.toFinset.card) := by
  have total := sum_length_slice score targetIds live cap enough
  have isLive : cid ∈ live.toFinset := List.mem_toFinset.mpr member
  rw [← Finset.add_sum_erase _ _ isLive] at total
  have others : ∑ other ∈ live.toFinset.erase cid,
      ((slice (allocate score targetIds live cap) other).length : Int) ≤
        (live.toFinset.erase cid).card * cap := by
    rw [← nsmul_eq_mul]
    exact Finset.sum_le_card_nsmul _ _ _ fun other _ =>
      length_slice_le score targetIds live cap positive other
  rw [Finset.card_erase_of_mem isLive, Nat.cast_sub (Finset.card_pos.mpr ⟨cid, isLive⟩),
    Nat.cast_one, sub_mul, one_mul] at others
  omega

/-- When every target ranks the collectors alike, a nonempty last slice means that all the
others are full. -/
theorem length_slice_of_alike {last other : CollectorId}
    (nonempty : slice (allocate (fun _ _ => 0) targetIds live cap) last ≠ [])
    (member : other ∈ live) (below : other < last) :
    ((slice (allocate (fun _ _ => 0) targetIds live cap) other).length : Int) = max cap 0 := by
  obtain ⟨tid, present⟩ := List.exists_mem_of_ne_nil _ nonempty
  obtain ⟨listed, owned⟩ := (mem_slice_iff _ targetIds live cap).mp present
  have better : ranking (fun _ _ => 0) tid other < ranking (fun _ _ => 0) tid last :=
    Prod.Lex.toLex_lt_toLex.mpr (Or.inr ⟨rfl, below⟩)
  have greedy := allocate_greedy (fun _ _ => 0) targetIds live cap
  rw [length_slice, ← quota_of_mem live cap member]
  exact congrArg Nat.cast (greedy.load_eq_quota
    (greedy.best tid (List.mem_toFinset.mpr listed) last owned other better))

/-- When every target ranks the collectors alike and the last slice is not empty, the last slice
holds what the full others leave. -/
theorem card_eq_of_alike (enough : (targetIds.toFinset.card : Int) ≤ live.toFinset.card * cap)
    (positive : 0 ≤ cap) (someLive : live.toFinset.Nonempty)
    (nonempty : slice (allocate (fun _ _ => 0) targetIds live cap)
      (live.toFinset.max' someLive) ≠ []) :
    (targetIds.toFinset.card : Int) = (slice (allocate (fun _ _ => 0) targetIds live cap)
      (live.toFinset.max' someLive)).length + (live.toFinset.card - 1) * cap := by
  have lastMember := live.toFinset.max'_mem someLive
  have filled : ∑ cid ∈ live.toFinset.erase (live.toFinset.max' someLive),
      ((slice (allocate (fun _ _ => 0) targetIds live cap) cid).length : Int) =
        (live.toFinset.erase (live.toFinset.max' someLive)).card * cap := by
    rw [← nsmul_eq_mul]
    refine Finset.sum_eq_card_nsmul fun cid member => ?_
    have cidLive := Finset.mem_of_mem_erase member
    rw [length_slice_of_alike targetIds live cap nonempty (List.mem_toFinset.mp cidLive)
      (lt_of_le_of_ne (live.toFinset.le_max' cid cidLive) (Finset.ne_of_mem_erase member)),
      max_eq_left positive]
  rw [← sum_length_slice (fun _ _ => 0) targetIds live cap enough,
    ← Finset.add_sum_erase _ _ lastMember, filled, Finset.card_erase_of_mem lastMember,
    Nat.cast_sub (Finset.card_pos.mpr someLive), Nat.cast_one]

/-- When the slices are even and one is empty, there are fewer targets than collectors. -/
theorem card_lt_of_even (enough : (targetIds.toFinset.card : Int) ≤ live.toFinset.card * cap)
    (even : Balanced live (allocate score targetIds live cap)) {last : CollectorId}
    (lastLive : last ∈ live) (empty : slice (allocate score targetIds live cap) last = []) :
    targetIds.toFinset.card < live.toFinset.card := by
  have lastMember : last ∈ live.toFinset := List.mem_toFinset.mpr lastLive
  have single : ∑ cid ∈ live.toFinset.erase last,
      ((slice (allocate score targetIds live cap) cid).length : Int) ≤
        (live.toFinset.erase last).card * 1 := by
    rw [← nsmul_eq_mul]
    refine Finset.sum_le_card_nsmul _ _ _ fun cid member => ?_
    have within :=
      even cid (List.mem_toFinset.mp (Finset.mem_of_mem_erase member)) last lastLive
    rw [empty, List.length_nil] at within
    exact_mod_cast within
  have total := sum_length_slice score targetIds live cap enough
  rw [← Finset.add_sum_erase _ _ lastMember, empty, List.length_nil] at total
  rw [Finset.card_erase_of_mem lastMember] at single
  have someLive : 0 < live.toFinset.card := Finset.card_pos.mpr ⟨last, lastMember⟩
  omega

end Slices

/-! ### The balance of the fair share -/

section FairShare

variable (targetIds : List TargetId) (live : List CollectorId) (maxPerShard : Int)

theorem effectiveCap_eq_ceilDiv {nTargets nLive : Int} {maxPerShard : Int} (positive : 0 < nLive)
    (roomy : ceilDiv nTargets nLive ≤ maxPerShard) :
    effectiveCap nTargets nLive maxPerShard = ceilDiv nTargets nLive := by
  rw [effectiveCap, if_neg (not_le.mpr positive), min_eq_right roomy]

/-- Under the fair share, two slices differ by at most the number of spare places. -/
theorem length_slice_le_add_spare (score : Score) (live : List CollectorId)
    (roomy : ceilDiv targetIds.toFinset.card live.toFinset.card ≤ maxPerShard)
    (first second : CollectorId) (secondLive : second ∈ live) :
    ((slice (allocate score targetIds live
        (effectiveCap targetIds.toFinset.card live.toFinset.card maxPerShard)) first).length :
          Int) ≤
      (slice (allocate score targetIds live
        (effectiveCap targetIds.toFinset.card live.toFinset.card maxPerShard)) second).length +
        sparePlaces targetIds.toFinset.card live.toFinset.card := by
  have positive : (0 : Int) < live.toFinset.card :=
    Nat.cast_pos.mpr (Finset.card_pos.mpr ⟨second, List.mem_toFinset.mpr secondLive⟩)
  rw [effectiveCap_eq_ceilDiv positive roomy]
  have enough := le_mul_ceilDiv targetIds.toFinset.card positive
  have shareNonneg : 0 ≤ ceilDiv targetIds.toFinset.card live.toFinset.card := by
    refine nonneg_of_mul_nonneg_right ((Nat.cast_nonneg _).trans enough) positive
  have atMost := length_slice_le score targetIds live _ shareNonneg first
  have atLeast := cap_le_length_slice_add score targetIds live _ enough shareNonneg secondLive
  rw [sparePlaces]
  omega

/-- The slices of `K` collectors over `N ≥ K * K` targets are within one of each other for
every score exactly when `N` leaves the remainder `0` or `K - 1` modulo `K`, which is to say
when the fair share leaves at most one place empty. -/
theorem balanced_iff (nonempty : live ≠ [])
    (many : live.toFinset.card * live.toFinset.card ≤ targetIds.toFinset.card)
    (roomy : ceilDiv targetIds.toFinset.card live.toFinset.card ≤ maxPerShard) :
    (∀ score : Score, Balanced live (allocate score targetIds live
        (effectiveCap targetIds.toFinset.card live.toFinset.card maxPerShard))) ↔
      targetIds.toFinset.card % live.toFinset.card = 0 ∨
        targetIds.toFinset.card % live.toFinset.card + 1 = live.toFinset.card := by
  have someLive : live.toFinset.Nonempty := List.toFinset_nonempty_iff live |>.mpr nonempty
  have positive : 0 < live.toFinset.card := Finset.card_pos.mpr someLive
  rw [← sparePlaces_le_one_iff _ positive]
  constructor
  · intro balanced
    have even := balanced fun _ _ => 0
    have positive' : (0 : Int) < live.toFinset.card := Nat.cast_pos.mpr positive
    rw [effectiveCap_eq_ceilDiv positive' roomy] at even
    have enough := le_mul_ceilDiv targetIds.toFinset.card positive'
    have upper := mul_ceilDiv_lt targetIds.toFinset.card positive'
    have shareNonneg : 0 ≤ ceilDiv targetIds.toFinset.card live.toFinset.card :=
      nonneg_of_mul_nonneg_right ((Nat.cast_nonneg _).trans enough) positive'
    rw [sparePlaces]
    set share := ceilDiv (targetIds.toFinset.card : Int) live.toFinset.card
    have lastLive := List.mem_toFinset.mp (live.toFinset.max'_mem someLive)
    by_cases empty : slice (allocate (fun _ _ => 0) targetIds live share)
        (live.toFinset.max' someLive) = []
    · have few := card_lt_of_even (fun _ _ => 0) targetIds live share enough even lastLive empty
      exact absurd ((Nat.le_mul_of_pos_left _ positive).trans many) (not_le_of_gt few)
    · have total := card_eq_of_alike targetIds live share enough shareNonneg someLive empty
      rw [sub_mul, one_mul] at total
      by_cases alone : live.toFinset.card = 1
      · rw [alone, Nat.cast_one, one_mul] at upper ⊢
        omega
      · obtain ⟨other, member⟩ : (live.toFinset.erase (live.toFinset.max' someLive)).Nonempty := by
          rw [← Finset.card_pos, Finset.card_erase_of_mem (live.toFinset.max'_mem someLive)]
          omega
        have otherLive := Finset.mem_of_mem_erase member
        have within := even other (List.mem_toFinset.mp otherLive) _ lastLive
        have otherFull := length_slice_of_alike targetIds live share empty
          (List.mem_toFinset.mp otherLive)
          (lt_of_le_of_ne (live.toFinset.le_max' other otherLive) (Finset.ne_of_mem_erase member))
        rw [max_eq_left shareNonneg] at otherFull
        omega
  · intro spare score first _ second secondLive
    have apart := length_slice_le_add_spare targetIds maxPerShard score live roomy first second
      secondLive
    omega

end FairShare

/-! ### Thirteen targets over three collectors -/

/-- The source's weights of the targets `1` to `13` for `collector-0`, `collector-1` and
`collector-2`. -/
def sampleWeights : List (Int × Int × Int) := [
  (16235390544019864032, 11117943297215940273, 11606348276833441660),
  (16885327807252506686, 3154592731853837765, 6232213302294501916),
  (6678738665622175494, 1458752627629198811, 10369714482471031557),
  (13627371208145066499, 3191184760584099606, 2980800375545150519),
  (11438795312574298677, 1191712596039567424, 10461323197368406599),
  (16230327868952857172, 14774601943546321671, 12670442598932632345),
  (15062859591400599496, 439839121874815899, 7415917900033507547),
  (12881135003511280800, 17374689363071633078, 15748475708483025529),
  (10921531142557946346, 4015880891314043725, 4878445772515475643),
  (616389436824143676, 14416455969347278712, 2704299327272702492),
  (12308939793964357460, 5012782570776383055, 10145491508089857348),
  (6532354595396128498, 13576870736826921088, 12691452063759364594),
  (10015493877400933563, 8874789145049605957, 18385471748047883832)]

/-- The source's score on the sample. -/
def sampleScore : Score := fun tid cid =>
  match sampleWeights[(tid - 1).toNat]? with
  | some (first, second, third) =>
    if cid = "collector-0" then first else if cid = "collector-1" then second else third
  | none => 0

def sampleTargets : List TargetId := [1, 2, 3, 4, 5, 6, 7, 8, 9, 10, 11, 12, 13]

def sampleLive : List CollectorId := ["collector-0", "collector-1", "collector-2"]

set_option maxRecDepth 4000 in
/-- On the sample the slices hold five, three and five targets. -/
theorem sample_not_balanced :
    ¬ ∀ (score : Score) (targetIds : List TargetId) (live : List CollectorId)
      (maxPerShard : Int), live ≠ [] →
      live.toFinset.card * live.toFinset.card ≤ targetIds.toFinset.card →
      ceilDiv targetIds.toFinset.card live.toFinset.card ≤ maxPerShard →
      Balanced live (allocate score targetIds live
        (effectiveCap targetIds.toFinset.card live.toFinset.card maxPerShard)) := by
  intro claimed
  have impossible := claimed sampleScore sampleTargets sampleLive 200 (by decide) (by decide)
    (by decide)
  exact absurd impossible (by decide)

/-- Twelve targets over three collectors leave no place empty, so their slices are even. -/
theorem twelve_balanced :
    Balanced sampleLive
      (allocate sampleScore (sampleTargets.take 12) sampleLive (effectiveCap 12 3 200)) :=
  (balanced_iff (sampleTargets.take 12) sampleLive 200 (by decide) (by decide) (by decide)).mpr
    (Or.inl (by decide)) sampleScore

end Gyanam
