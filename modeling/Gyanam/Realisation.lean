/-
This file settles what a round of dynamic passes makes of the allocation. Every
live collector runs one pass, all agree on who is live, and the table starts
empty. Each pass claims its slice, and then its orphan safety net may adopt
targets of a collector that has not run yet. So the round covers every target
within the caps, and it realises the allocation exactly when no collector with
spare capacity runs before one with a slice to claim.
-/

import Gyanam.Balance
import Gyanam.Coverage
import Gyanam.ShardManager

namespace Gyanam

/-! ### Rounds -/

/-- One pass after another; none when a pass does not complete. -/
def runRound (score : Score) (recursionLimit : Nat) :
    Store → List (ShardManager × Readings) → Option Store
  | store, [] => some store
  | store, (manager, readings) :: rest =>
    match manager.reconcileDynamic score recursionLimit store readings with
    | (next, .ok _) => runRound score recursionLimit next rest
    | (_, .error _) => none

/-- The collectors of a round. -/
def collectors (passes : List (ShardManager × Readings)) : List CollectorId :=
  passes.map fun pass => pass.1.id

/-- Every pass of a round finds exactly the collectors `live`. -/
def Agreed (recursionLimit : Nat) (store : Store) (live : List CollectorId)
    (passes : List (ShardManager × Readings)) : Prop :=
  ∀ pass ∈ passes, ∀ found,
    pass.1.liveCollectors recursionLimit store pass.2.stats = .ok found →
      ∀ cid, cid ∈ found ↔ cid ∈ live

/-- The collector that holds a target. -/
def leaseHolder (leases : Leases) (tid : TargetId) : Option CollectorId :=
  (leases.get tid).map ShardLease.collectorId

/-! ### A round is a run of reconciliations -/

section Round

variable (score : Score) (recursionLimit : Nat) (live : List CollectorId) (maxPerShard : Int)

/-- The cap of the agreed fleet. -/
def agreedCap (targets : Table TargetId Target) : Int :=
  effectiveCap (getEnabledTargetIds targets).length live.toFinset.card maxPerShard

/-- The slice of a collector in the agreed fleet. -/
def agreedSlice (targets : Table TargetId Target) (cid : CollectorId) : List TargetId :=
  slice (allocate score (getEnabledTargetIds targets) live (agreedCap live maxPerShard targets)) cid

/-- The reconciliation of one pass in the agreed fleet. -/
def agreedPass (targets : Table TargetId Target) (pass : ShardManager × Readings) : SlicePass where
  collectorId := pass.1.id
  mineIds := agreedSlice score live maxPerShard targets pass.1.id
  cap := agreedCap live maxPerShard targets
  now := pass.2.lease

theorem liveCollectors_congr (manager : ShardManager) {first second : Store}
    (same : first.stats = second.stats) (now : Time) :
    manager.liveCollectors recursionLimit first now =
      manager.liveCollectors recursionLimit second now := by
  rw [ShardManager.liveCollectors, ShardManager.liveCollectors, getCollectorStats,
    getCollectorStats, same]

theorem length_liveCollectors {manager : ShardManager} {store : Store} {now : Time}
    {found : List CollectorId}
    (computed : manager.liveCollectors recursionLimit store now = .ok found) :
    found.length = found.toFinset.card := by
  rw [List.toFinset_card_of_nodup]
  simp only [ShardManager.liveCollectors, bind, Except.bind, pure, Except.pure] at computed
  split at computed
  · simp at computed
  · split at computed
    · simp at computed
    · rw [← Except.ok.inj computed]
      exact SortedList.distinct_nodup _

/-- The reconciliation reads the targets and the leases only. -/
theorem reconcileShardLeases_congr {first second : Store} (targets : first.targets = second.targets)
    (leases : first.leases = second.leases) (collectorId : CollectorId)
    (mineIds : List TargetId) (cap : Int) (leaseTtl now : Time) :
    (reconcileShardLeases first collectorId mineIds cap leaseTtl now).1.leases =
      (reconcileShardLeases second collectorId mineIds cap leaseTtl now).1.leases := by
  rw [reconcileShardLeases, reconcileShardLeases, targets, leases]

theorem runPasses_congr (leaseTtl : Time) (passes : List SlicePass) {first second : Store}
    (targets : first.targets = second.targets) (leases : first.leases = second.leases) :
    (runPasses leaseTtl first passes).leases = (runPasses leaseTtl second passes).leases := by
  induction passes generalizing first second with
  | nil => exact leases
  | cons pass rest inductionHypothesis =>
    exact inductionHypothesis targets (reconcileShardLeases_congr targets leases _ _ _ _ _)

/-- A round of an agreed fleet leaves the leases of a run of reconciliations. -/
theorem runRound_leases {store final : Store} {passes : List (ShardManager × Readings)}
    {leaseTtl : Time} (agreed : Agreed recursionLimit store live passes)
    (configured : ∀ pass ∈ passes,
      pass.1.cfg.maxTargetsPerShard = maxPerShard ∧ pass.1.cfg.leaseTtl = leaseTtl)
    (run : runRound score recursionLimit store passes = some final) :
    final.targets = store.targets ∧
      final.leases = (runPasses leaseTtl store
        (passes.map (agreedPass score live maxPerShard store.targets))).leases := by
  induction passes generalizing store with
  | nil =>
    rw [runRound, Option.some_inj] at run
    rw [← run]
    exact ⟨rfl, rfl⟩
  | cons pass rest inductionHypothesis =>
    obtain ⟨manager, readings⟩ := pass
    obtain ⟨⟨sameMax, sameTtl⟩, laterConfigured⟩ := List.forall_mem_cons.mp configured
    obtain ⟨agreedNow, agreedLater⟩ := List.forall_mem_cons.mp agreed
    rw [runRound] at run
    split at run
    · next next manager' completed =>
      obtain ⟨found, computed, targets, stats, leases⟩ :=
        ShardManager.reconcileDynamic_spec completed
      have same := agreedNow found computed
      have size : (found.length : Int) = live.toFinset.card := by
        rw [length_liveCollectors recursionLimit computed]
        congr 2
        ext cid
        rw [List.mem_toFinset, List.mem_toFinset, same]
      rw [size, allocate_congr score _ _ _ (fun _ => Iff.rfl) same] at leases
      dsimp only at sameMax sameTtl
      rw [sameMax, sameTtl] at leases
      obtain ⟨finalTargets, finalLeases⟩ := inductionHypothesis
        (fun pass member found computed => agreedLater pass member found
          ((liveCollectors_congr recursionLimit pass.1 stats pass.2.stats).symm.trans computed))
        laterConfigured run
      refine ⟨finalTargets.trans targets, finalLeases.trans ?_⟩
      rw [targets]
      exact runPasses_congr leaseTtl _ targets leases
    · simp at run

end Round

/-! ### From an empty table -/

theorem runPasses_since {opening leaseTtl : Time} {store : Store} {passes : List SlicePass}
    (since : ∀ tid row, store.leases.get tid = some row → opening ≤ row.updatedAt)
    (started : ∀ pass ∈ passes, opening ≤ pass.now) :
    ∀ tid row, (runPasses leaseTtl store passes).leases.get tid = some row →
      opening ≤ row.updatedAt := by
  induction passes generalizing store with
  | nil => exact since
  | cons pass rest inductionHypothesis =>
    obtain ⟨startedNow, startedLater⟩ := List.forall_mem_cons.mp started
    refine inductionHypothesis (fun tid row found => ?_) startedLater
    by_cases same : store.leases.get tid = some row
    · exact since tid row same
    · rw [((reconcileShardLeases_pass store _ _ _ _ _).safe.stamped tid row found same).2]
      exact startedNow

/-- With every lease stamped since the opening, the holders are those with a fresh lease. -/
theorem freshHolder_eq_leaseHolder {opening : Time} {leases : Leases}
    (since : ∀ tid row, leases.get tid = some row → opening ≤ row.updatedAt) :
    freshHolder leases opening = leaseHolder leases := by
  funext tid
  rw [freshHolder, leaseHolder]
  cases found : leases.get tid with
  | none => rfl
  | some row => rw [Option.filter_some, if_pos (decide_eq_true (since tid row found))]

theorem countOwned_eq_card {enabled : List TargetId} {leases : Leases} {collectorId : CollectorId}
    (swept : ∀ tid ∉ enabled, leaseHolder leases tid = none) :
    countOwned leases collectorId =
      (Holding.held enabled (leaseHolder leases) collectorId).card := by
  rw [countOwned, Table.count_eq_card_matching]
  congr 1
  ext tid
  rw [Holding.mem_held, Table.mem_matching, leaseHolder, Option.map_eq_some_iff]
  simp only [decide_eq_true_eq]
  refine ⟨fun held => ⟨?_, held⟩, And.right⟩
  by_contra absent
  exact absurd ((Option.map_eq_some_iff.mpr held).symm.trans (swept tid absent)) (by simp)

/-! ### What a round realises -/

/-- A completed round over an empty table: distinct collectors that agree on who is live, each
runs one pass within one lease time, under one configuration with places enough. -/
structure AgreedRound (score : Score) (recursionLimit : Nat) (maxPerShard : Int)
    (leaseTtl opening : Time) (store : Store) (passes : List (ShardManager × Readings))
    (final : Store) : Prop where
  empty : ∀ tid, store.leases.get tid = none
  distinct : (collectors passes).Nodup
  agreed : Agreed recursionLimit store (collectors passes) passes
  configured : ∀ pass ∈ passes,
    pass.1.cfg.maxTargetsPerShard = maxPerShard ∧ pass.1.cfg.leaseTtl = leaseTtl
  inside : ∀ pass ∈ passes, opening ≤ pass.2.lease ∧ pass.2.lease ≤ opening + leaseTtl
  enough : ((getEnabledTargetIds store.targets).length : Int) ≤
    (collectors passes).toFinset.card * maxPerShard
  completed : runRound score recursionLimit store passes = some final

section Realises

variable {score : Score} {recursionLimit : Nat} {maxPerShard : Int} {leaseTtl opening : Time}
  {store final : Store} {passes : List (ShardManager × Readings)}

/-- The reconciliations of a round. -/
def agreedPasses (score : Score) (maxPerShard : Int) (targets : Table TargetId Target)
    (passes : List (ShardManager × Readings)) : List SlicePass :=
  passes.map (agreedPass score (collectors passes) maxPerShard targets)

/-- The validated configuration has a lease time. -/
theorem AgreedRound.positive
    (round : AgreedRound score recursionLimit maxPerShard leaseTtl opening store passes final)
    (nonempty : agreedPasses score maxPerShard store.targets passes ≠ []) : 0 < leaseTtl := by
  obtain ⟨pass, member⟩ := List.exists_mem_of_ne_nil passes fun none => nonempty (by rw [none]; rfl)
  have interval := pass.1.cfg.intervalPositive
  have margin := pass.1.cfg.leaseMargin
  rw [← (round.configured pass member).2]
  linarith

/-- The holders after a round are those of a run of turns that starts with nobody holding. -/
theorem AgreedRound.leaseHolder_eq
    (round : AgreedRound score recursionLimit maxPerShard leaseTtl opening store passes final) :
    leaseHolder final.leases =
      Holding.run (getEnabledTargetIds store.targets) (fun _ => none)
        ((agreedPasses score maxPerShard store.targets passes).map SlicePass.turn) := by
  obtain ⟨_, leases⟩ := runRound_leases score recursionLimit (collectors passes) maxPerShard
    round.agreed round.configured round.completed
  have noLease : ∀ tid row, store.leases.get tid = some row → opening ≤ row.updatedAt :=
    fun tid row found => absurd (found.symm.trans (round.empty tid)) (by simp)
  have inside : ∀ pass ∈ agreedPasses score maxPerShard store.targets passes,
      opening ≤ pass.now ∧ pass.now ≤ opening + leaseTtl := by
    intro pass member
    obtain ⟨own, listed, rfl⟩ := List.mem_map.mp member
    exact round.inside own listed
  have window : Window opening leaseTtl store.leases :=
    fun tid row found => Or.inr (noLease tid row found)
  have nobody : freshHolder store.leases opening = fun _ => none := by
    funext tid
    rw [freshHolder, round.empty tid]
    rfl
  have distinct : ((agreedPasses score maxPerShard store.targets passes).map
      SlicePass.collectorId).Nodup := by
    rw [agreedPasses, List.map_map]
    exact round.distinct
  have unstarted : ∀ pass ∈ agreedPasses score maxPerShard store.targets passes,
      Unstarted opening leaseTtl store.leases pass.collectorId :=
    fun pass _ tid row found => absurd (found.symm.trans (round.empty tid)) (by simp)
  have turns := (window.runPasses round.positive distinct unstarted inside).2
  rw [nobody] at turns
  rw [leases, ← turns]
  refine (freshHolder_eq_leaseHolder ?_).symm
  exact runPasses_since noLease fun pass member => (inside pass member).1

theorem AgreedRound.collectors_eq (score : Score) (maxPerShard : Int)
    (targets : Table TargetId Target) (passes : List (ShardManager × Readings)) :
    ((agreedPasses score maxPerShard targets passes).map SlicePass.turn).map Turn.holder =
      collectors passes := by
  rw [List.map_map, agreedPasses, List.map_map]
  rfl

/-- The fair share has places for every enabled target. -/
theorem AgreedRound.places
    (round : AgreedRound score recursionLimit maxPerShard leaseTtl opening store passes final) :
    ((getEnabledTargetIds store.targets).length : Int) ≤
      (collectors passes).length * agreedCap (collectors passes) maxPerShard store.targets := by
  have size := List.toFinset_card_of_nodup round.distinct
  rw [agreedCap, ← size]
  exact le_mul_effectiveCap round.enough

theorem AgreedRound.capNonneg
    (round : AgreedRound score recursionLimit maxPerShard leaseTtl opening store passes final)
    (nonempty : collectors passes ≠ []) :
    0 ≤ agreedCap (collectors passes) maxPerShard store.targets :=
  nonneg_of_mul_nonneg_right ((Nat.cast_nonneg _).trans round.places)
    (Nat.cast_pos.mpr (List.length_pos_iff.mpr nonempty))

/-- The allocation gives every enabled target to a collector of the round. -/
theorem AgreedRound.owned
    (round : AgreedRound score recursionLimit maxPerShard leaseTtl opening store passes final)
    {tid : TargetId} (present : tid ∈ getEnabledTargetIds store.targets) :
    ∃ cid ∈ collectors passes, owner (allocate score (getEnabledTargetIds store.targets)
      (collectors passes) (agreedCap (collectors passes) maxPerShard store.targets)) tid =
        some cid := by
  refine owner_isSome score _ _ _ ?_ present
  rw [List.toFinset_card_of_nodup (getEnabledTargetIds_nodup store.targets),
    List.toFinset_card_of_nodup round.distinct]
  exact round.places

/-- The shares of the turns are the slices of the allocation. -/
theorem AgreedRound.planned
    (round : AgreedRound score recursionLimit maxPerShard leaseTtl opening store passes final) :
    Holding.Planned (getEnabledTargetIds store.targets)
      (owner (allocate score (getEnabledTargetIds store.targets) (collectors passes)
        (agreedCap (collectors passes) maxPerShard store.targets)))
      ((agreedPasses score maxPerShard store.targets passes).map SlicePass.turn) := by
  have partition := allocate_bounded score (getEnabledTargetIds store.targets) (collectors passes)
    (agreedCap (collectors passes) maxPerShard store.targets)
  have turn_of_mem : ∀ {turn}, turn ∈ (agreedPasses score maxPerShard store.targets passes).map
      SlicePass.turn → ∃ pass ∈ passes,
        turn = (agreedPass score (collectors passes) maxPerShard store.targets pass).turn := by
    intro turn member
    obtain ⟨_, listed, rfl⟩ := List.mem_map.mp member
    obtain ⟨pass, present, rfl⟩ := List.mem_map.mp listed
    exact ⟨pass, present, rfl⟩
  constructor
  · rw [AgreedRound.collectors_eq]
    exact round.distinct
  · intro turn member
    obtain ⟨pass, _, rfl⟩ := turn_of_mem member
    exact partition.nodup pass.1.id
  · intro turn member tid
    obtain ⟨pass, _, rfl⟩ := turn_of_mem member
    exact mem_slice_iff _ _ _ _
  · intro turn member
    obtain ⟨pass, present, rfl⟩ := turn_of_mem member
    have bounded := partition.bounded pass.1.id
    rwa [max_eq_left (round.capNonneg (List.ne_nil_of_mem (List.mem_map.mpr ⟨pass, present, rfl⟩)))]
      at bounded
  · intro tid present
    obtain ⟨cid, _, owned⟩ := round.owned present
    rw [owned]
    simp

/-- Nobody holds a target that is not enabled after a round. -/
theorem AgreedRound.leaseHolder_disabled
    (round : AgreedRound score recursionLimit maxPerShard leaseTtl opening store passes final)
    {tid : TargetId} (disabled : tid ∉ getEnabledTargetIds store.targets) :
    leaseHolder final.leases tid = none := by
  rw [round.leaseHolder_eq]
  exact Holding.run_of_notMem _ disabled rfl

/-- At the start of a round every target is to come. -/
theorem AgreedRound.pending
    (round : AgreedRound score recursionLimit maxPerShard leaseTtl opening store passes final) :
    Holding.Pending (getEnabledTargetIds store.targets)
      (owner (allocate score (getEnabledTargetIds store.targets) (collectors passes)
        (agreedCap (collectors passes) maxPerShard store.targets)))
      ((agreedPasses score maxPerShard store.targets passes).map SlicePass.turn)
      fun _ => none where
  free _ _ _ := rfl
  settled tid present past := by
    obtain ⟨cid, ran, owned⟩ := round.owned present
    obtain ⟨pass, listed, rfl⟩ := List.mem_map.mp ran
    exact absurd ⟨_, List.mem_map.mpr ⟨_, List.mem_map.mpr ⟨pass, listed, rfl⟩, rfl⟩, owned⟩ past

/-- A round covers every enabled target. -/
theorem AgreedRound.covers
    (round : AgreedRound score recursionLimit maxPerShard leaseTtl opening store passes final)
    {tid : TargetId} (present : tid ∈ getEnabledTargetIds store.targets) :
    leaseHolder final.leases tid ≠ none := by
  rw [round.leaseHolder_eq]
  refine Holding.run_covers (getEnabledTargetIds_nodup store.targets) _ ?_ ?_ present
  · rw [AgreedRound.collectors_eq]
    exact round.distinct
  · have caps : ((agreedPasses score maxPerShard store.targets passes).map SlicePass.turn).map
        Turn.cap = List.replicate (collectors passes).length
          (agreedCap (collectors passes) maxPerShard store.targets) := by
      rw [List.map_map, agreedPasses, List.map_map, collectors, List.length_map]
      exact List.map_const'
    rw [caps, List.sum_replicate, nsmul_eq_mul]
    exact round.places

/-- A round keeps every collector within the cap. -/
theorem AgreedRound.bounded
    (round : AgreedRound score recursionLimit maxPerShard leaseTtl opening store passes final)
    {cid : CollectorId} (ran : cid ∈ collectors passes) :
    (countOwned final.leases cid : Int) ≤
      agreedCap (collectors passes) maxPerShard store.targets := by
  rw [countOwned_eq_card fun tid disabled => round.leaseHolder_disabled disabled,
    round.leaseHolder_eq]
  obtain ⟨pass, present, rfl⟩ := List.mem_map.mp ran
  have planned := round.planned
  have listed : (agreedPass score (collectors passes) maxPerShard store.targets pass).turn ∈
      (agreedPasses score maxPerShard store.targets passes).map SlicePass.turn :=
    List.mem_map.mpr ⟨_, List.mem_map.mpr ⟨pass, present, rfl⟩, rfl⟩
  refine Holding.card_held_run_le (getEnabledTargetIds_nodup store.targets) planned.holders
    (fun turn _ => ?_) (fun turn member => ?_) _ listed
  · exact Finset.eq_empty_of_forall_notMem fun tid held =>
      absurd (Holding.mem_held.mp held).2 (by simp)
  · refine le_trans (Int.ofNat_le.mpr ?_) (planned.within turn member)
    exact (Finset.card_le_card Finset.inter_subset_right).trans (List.toFinset_card_le _)

/-- Whoever holds a target after a round took part in it. -/
theorem AgreedRound.ran
    (round : AgreedRound score recursionLimit maxPerShard leaseTtl opening store passes final)
    {tid : TargetId} {cid : CollectorId} (held : leaseHolder final.leases tid = some cid) :
    tid ∈ getEnabledTargetIds store.targets ∧ cid ∈ collectors passes := by
  have present : tid ∈ getEnabledTargetIds store.targets := by
    by_contra disabled
    exact absurd (held.symm.trans (round.leaseHolder_disabled disabled)) (by simp)
  refine ⟨present, ?_⟩
  by_contra absent
  rw [round.leaseHolder_eq] at held
  have different : ∀ turn ∈ (agreedPasses score maxPerShard store.targets passes).map
      SlicePass.turn, cid ≠ turn.holder := by
    intro turn member same
    rw [← AgreedRound.collectors_eq score maxPerShard store.targets passes, same] at absent
    exact absent (List.mem_map_of_mem member)
  have mine := Holding.mem_held.mpr ⟨present, held⟩
  rw [Holding.held_run_of_ne different] at mine
  exact absurd (Holding.mem_held.mp mine).2 (by simp)

/-- What a round of dynamic passes over an empty table makes of the allocation. It leaves exactly
one lease on every enabled target and no others, every one by a collector of the round, and none
of these holds more than the cap. The table is the allocation's assignment exactly when every
collector that runs before one with a nonempty slice has a slice as large as the cap. -/
theorem round_realises_iff
    (round : AgreedRound score recursionLimit maxPerShard leaseTtl opening store passes final) :
    (∀ tid, store.Enabled tid → ∃ cid ∈ collectors passes,
        leaseHolder final.leases tid = some cid) ∧
      (∀ tid cid, leaseHolder final.leases tid = some cid →
        store.Enabled tid ∧ cid ∈ collectors passes) ∧
      (∀ cid ∈ collectors passes, (countOwned final.leases cid : Int) ≤
        agreedCap (collectors passes) maxPerShard store.targets) ∧
      ((∀ cid tid, leaseHolder final.leases tid = some cid ↔
          tid ∈ agreedSlice score (collectors passes) maxPerShard store.targets cid) ↔
        passes.Pairwise fun earlier later =>
          agreedSlice score (collectors passes) maxPerShard store.targets later.1.id ≠ [] →
            ((agreedSlice score (collectors passes) maxPerShard store.targets
              earlier.1.id).length : Int) =
              agreedCap (collectors passes) maxPerShard store.targets) := by
  refine ⟨fun tid enabled => ?_, fun tid cid held => ?_, fun cid => round.bounded, ?_⟩
  · obtain ⟨cid, held⟩ := Option.ne_none_iff_exists'.mp
      (round.covers (mem_getEnabledTargetIds.mpr enabled))
    exact ⟨cid, (round.ran held).2, held⟩
  · obtain ⟨present, ran⟩ := round.ran held
    exact ⟨mem_getEnabledTargetIds.mp present, ran⟩
  · have realises := Holding.run_eq_plan_iff round.planned round.pending
    rw [← round.leaseHolder_eq, Holding.FullFirst, agreedPasses, List.map_map, List.pairwise_map]
      at realises
    refine Iff.trans ⟨fun assigned tid present => ?_, fun assigned cid tid => ?_⟩ realises
    · ext cid
      rw [assigned, agreedSlice, mem_slice_iff, and_iff_right present]
    · rw [agreedSlice, mem_slice_iff]
      by_cases present : tid ∈ getEnabledTargetIds store.targets
      · rw [assigned tid present, and_iff_right present]
      · rw [round.leaseHolder_disabled present]
        simp [present]

end Realises

/-! ### Three targets and two collectors -/

/-- Three enabled targets, and the fresh stats of two collectors. -/
def sampleStore : Store :=
  { Store.ofTargets (Table.ofKeys [1, 2, 3] (by decide) fun _ => sampleTarget) with
    stats := Table.ofKeys ["collector-0", "collector-1"] (by decide) fun _ => { updatedAt := 0 } }

/-- The collector with the larger slice runs first. -/
def sampleRound : List (ShardManager × Readings) :=
  [({ id := "collector-0" }, ⟨0, 0, 0, 0⟩), ({ id := "collector-1" }, ⟨1, 1, 1, 1⟩)]

/-- The collector with the smaller slice runs first. -/
def sampleLateRound : List (ShardManager × Readings) :=
  [({ id := "collector-1" }, ⟨0, 0, 0, 0⟩), ({ id := "collector-0" }, ⟨1, 1, 1, 1⟩)]

set_option maxRecDepth 8000 in
/-- Both rounds are rounds of an agreed fleet with places enough. -/
theorem sample_agreedRound {passes : List (ShardManager × Readings)}
    (sample : passes = sampleRound ∨ passes = sampleLateRound) :
    ∃ final, AgreedRound sampleScore 1000 200 75000000 0 sampleStore passes final := by
  have completed : (runRound sampleScore 1000 sampleStore passes).isSome = true := by
    rcases sample with rfl | rfl <;> decide
  have live : ∀ pass ∈ passes, pass.1.liveCollectors 1000 sampleStore pass.2.stats =
      .ok ["collector-0", "collector-1"] := by
    rcases sample with rfl | rfl <;> decide
  refine ⟨(runRound sampleScore 1000 sampleStore passes).get completed, fun _ => rfl, ?_, ?_, ?_,
    ?_, ?_, (Option.some_get completed).symm⟩
  · rcases sample with rfl | rfl <;> decide
  · intro pass member found computed cid
    rw [← Except.ok.inj ((live pass member).symm.trans computed)]
    rcases sample with rfl | rfl <;> simp [collectors, sampleRound, sampleLateRound, or_comm]
  · rcases sample with rfl | rfl <;> decide
  · rcases sample with rfl | rfl <;> decide
  · rcases sample with rfl | rfl <;> decide

set_option maxRecDepth 8000 in
/-- Run by the collector with the larger slice first, the round realises the allocation. -/
theorem sampleRound_realises :
    ∃ final, runRound sampleScore 1000 sampleStore sampleRound = some final ∧
      ∀ cid tid, leaseHolder final.leases tid = some cid ↔
        tid ∈ agreedSlice sampleScore (collectors sampleRound) 200 sampleStore.targets cid := by
  obtain ⟨final, round⟩ := sample_agreedRound (Or.inl rfl)
  exact ⟨final, round.completed, (round_realises_iff round).2.2.2.mpr (by decide)⟩

set_option maxRecDepth 8000 in
/-- Run by the collector with the smaller slice first, its safety net adopts a target that the
allocation gives to the other one. -/
theorem sampleLateRound_deviates :
    ¬ ∀ (score : Score) (recursionLimit : Nat) (maxPerShard : Int) (leaseTtl opening : Time)
      (store final : Store) (passes : List (ShardManager × Readings)),
      AgreedRound score recursionLimit maxPerShard leaseTtl opening store passes final →
      ∀ cid tid, leaseHolder final.leases tid = some cid ↔
        tid ∈ agreedSlice score (collectors passes) maxPerShard store.targets cid := by
  intro claimed
  obtain ⟨final, round⟩ := sample_agreedRound (Or.inr rfl)
  have assigned := claimed _ _ _ _ _ _ _ _ round "collector-1" 1
  have adopted : (runRound sampleScore 1000 sampleStore sampleLateRound).map
      (fun final => leaseHolder final.leases 1) = some (some "collector-1") := by decide
  rw [round.completed, Option.map_some, Option.some_inj] at adopted
  exact absurd (assigned.mp adopted) (by decide)

end Gyanam
