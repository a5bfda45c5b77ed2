/-
This file settles the orphan safety net of the dynamic reconciliation. Seen
through its fresh leases, the table is a holding of targets by collectors, and a
reconciliation sweeps, claims the slice, and adopts orphans up to what it counts
as its capacity. It counts by `ShardLease.isSince`, which does not see a lease
that the collector stamped exactly one lease time ago at a whole second. When
there is such a lease outside the slice it may adopt one orphan too many.

Otherwise a reconciliation is a turn in the sense of `Gyanam/Lib/Holding.lean`.
Within one lease time of an opening reading nothing that was claimed since goes
stale and nothing older is fresh, so a round of reconciliations is a run of
turns: there no collector holds a fresh lease before its pass.
-/

import Gyanam.LeaseSafety
import Gyanam.Lib.Holding
import Mathlib.Tactic.Linarith

namespace Gyanam

/-! ### The fresh leases as a holding -/

/-- The collector with a fresh lease on a target. -/
def freshHolder (leases : Leases) (stale : Time) : Holding TargetId CollectorId := fun tid =>
  ((leases.get tid).filter fun row => decide (stale ≤ row.updatedAt)).map ShardLease.collectorId

theorem freshHolder_eq_some {leases : Leases} {stale : Time} {tid : TargetId}
    {collectorId : CollectorId} :
    freshHolder leases stale tid = some collectorId ↔
      ∃ row, leases.get tid = some row ∧ row.collectorId = collectorId ∧
        stale ≤ row.updatedAt := by
  simp only [freshHolder, Option.map_eq_some_iff, Option.filter_eq_some_iff, decide_eq_true_eq]
  constructor
  · rintro ⟨row, ⟨found, fresh⟩, mine⟩
    exact ⟨row, found, mine, fresh⟩
  · rintro ⟨row, found, mine, fresh⟩
    exact ⟨row, ⟨found, fresh⟩, mine⟩

/-- Two cutoffs see the same fresh leases when no lease is stamped between them. -/
theorem freshHolder_congr {leases : Leases} {first second : Time}
    (same : ∀ tid row, leases.get tid = some row →
      (first ≤ row.updatedAt ↔ second ≤ row.updatedAt)) :
    freshHolder leases first = freshHolder leases second := by
  funext tid
  cases found : leases.get tid with
  | none => rw [freshHolder, freshHolder, found]; rfl
  | some row => simp only [freshHolder, found, Option.filter_some, same tid row found]

/-- How many leases no older than `stale` a collector holds. -/
def countFresh (leases : Leases) (collectorId : CollectorId) (stale : Time) : Nat :=
  leases.count fun _ row => decide (row.collectorId = collectorId) && decide (stale ≤ row.updatedAt)

theorem countFresh_eq_card {enabled : List TargetId} {leases : Leases}
    {collectorId : CollectorId} {stale : Time}
    (swept : ∀ tid ∉ enabled, freshHolder leases stale tid = none) :
    countFresh leases collectorId stale =
      (Holding.held enabled (freshHolder leases stale) collectorId).card := by
  rw [countFresh, Table.count_eq_card_matching]
  congr 1
  ext tid
  rw [Holding.mem_held, Table.mem_matching, freshHolder_eq_some]
  simp only [Bool.and_eq_true, decide_eq_true_eq]
  refine ⟨fun fresh => ⟨?_, fresh⟩, And.right⟩
  by_contra absent
  exact absurd ((freshHolder_eq_some.mpr fresh).symm.trans (swept tid absent)) (by simp)

/-- A pass leaves nobody holding a disabled target. -/
theorem Pass.freshHolder_disabled {enabled : List TargetId} {collectorId : CollectorId}
    {now cutoff : Time} {before after : Leases}
    (pass : Pass enabled collectorId now cutoff before after) (stale : Time) :
    ∀ tid ∉ enabled, freshHolder after stale tid = none := by
  intro tid absent
  rw [freshHolder, pass.disabled tid absent]
  rfl

theorem unownedOrStale_eq (enabled : List TargetId) (leases : Leases) (stale : Time) (limit : Int) :
    unownedOrStale enabled leases stale limit =
      (Holding.free enabled (freshHolder leases stale)).take limit.toNat := by
  rw [unownedOrStale, Holding.free]
  congr 2
  funext tid
  rw [freshHolder]
  cases leases.get tid with
  | none => rfl
  | some row =>
    by_cases fresh : stale ≤ row.updatedAt
    · simp [fresh, not_lt_of_ge fresh]
    · simp [fresh, not_le.mp fresh]

/-! ### A reconciliation claims and adopts -/

section Turn

variable (enabled : List TargetId) (leases : Leases) (collectorId : CollectorId)
  (mineIds : List TargetId) (cap : Int) {now stale : Time}

theorem freshHolder_claimSlice (notLater : stale ≤ now) :
    freshHolder (claimSlice enabled leases collectorId mineIds now stale) stale =
      Holding.claim enabled (freshHolder leases stale) ⟨collectorId, mineIds, cap⟩ := by
  funext tid
  rw [freshHolder, get_claimSlice, Holding.claim]
  by_cases isEnabled : tid ∈ enabled
  · rw [if_pos isEnabled, if_pos isEnabled, Holding.fill]
    by_cases mine : tid ∈ mineIds
    · rw [if_pos mine, if_pos mine, freshHolder]
      cases leases.get tid with
      | none => simp [claimedLease, notLater]
      | some row =>
        by_cases fresh : stale ≤ row.updatedAt
        · by_cases own : row.collectorId = collectorId <;>
            simp [claimedLease, mayClaim, Option.filter_some, own, fresh, notLater,
              not_lt_of_ge fresh]
        · simp [claimedLease, mayClaim, Option.filter_some, notLater, fresh, not_le.mp fresh]
    · rw [if_neg mine, if_neg mine, Option.or_none, freshHolder]
  · rw [if_neg isEnabled, if_neg isEnabled]
    rfl

theorem freshHolder_adoptOrphans (notLater : stale ≤ now) :
    freshHolder (adoptOrphans enabled leases collectorId cap now stale) stale =
      Holding.adopt enabled (freshHolder leases stale) collectorId
        (cap - countSince leases collectorId stale) := by
  funext tid
  rw [freshHolder, get_adoptOrphans, orphans, unownedOrStale_eq, Holding.adopt, Holding.fill]
  split
  · next member =>
    rw [(Holding.mem_free.mp (List.mem_of_mem_take member)).2]
    simp [notLater]
  · rw [Option.or_none, freshHolder]

/-- A reconciliation claims the slice, and adopts up to the capacity it counts. -/
theorem freshHolder_reconcile (store : Store) {leaseTtl : Time} (notNegative : 0 ≤ leaseTtl)
    (now : Time) :
    freshHolder (reconcileShardLeases store collectorId mineIds cap leaseTtl now).1.leases
        (now - leaseTtl) =
      Holding.adopt (getEnabledTargetIds store.targets)
        (Holding.claim (getEnabledTargetIds store.targets)
          (freshHolder store.leases (now - leaseTtl)) ⟨collectorId, mineIds, cap⟩) collectorId
        (cap - countSince (claimSlice (getEnabledTargetIds store.targets) store.leases collectorId
          mineIds now (now - leaseTtl)) collectorId (now - leaseTtl)) := by
  have notLater : now - leaseTtl ≤ now := sub_le_self now notNegative
  rw [reconcileShardLeases]
  dsimp only
  rw [freshHolder_adoptOrphans _ _ collectorId cap notLater,
    freshHolder_claimSlice _ _ collectorId mineIds cap notLater]

end Turn

/-! ### What a reconciliation counts -/

theorem getEnabledTargetIds_nodup (targets : Table TargetId Target) :
    (getEnabledTargetIds targets).Nodup :=
  SortedList.distinct_nodup _

section Counts

variable (store : Store) (collectorId : CollectorId) (mineIds : List TargetId) (stale : Time)

/-- The targets a collector holds fresh once it has claimed its slice: those it held, and those of
its slice that nobody did. -/
def keptTargets : List TargetId :=
  (getEnabledTargetIds store.targets).filter fun tid =>
    decide (freshHolder store.leases stale tid = some collectorId) ||
      (decide (tid ∈ mineIds) && (freshHolder store.leases stale tid).isNone)

/-- The targets outside the slice that nobody holds fresh. -/
def orphanTargets : List TargetId :=
  (getEnabledTargetIds store.targets).filter fun tid =>
    decide (tid ∉ mineIds) && (freshHolder store.leases stale tid).isNone

/-- The targets outside the slice on which the collector holds a fresh lease that the query for
fresh leases does not see. -/
def unseenTargets : List TargetId :=
  (getEnabledTargetIds store.targets).filter fun tid =>
    decide (tid ∉ mineIds) && (store.leases.get tid).any fun row =>
      decide (row.collectorId = collectorId) && decide (stale ≤ row.updatedAt) &&
        !row.isSince stale

theorem card_held_claim (cap : Int) :
    (Holding.held (getEnabledTargetIds store.targets) (Holding.claim
      (getEnabledTargetIds store.targets) (freshHolder store.leases stale)
      ⟨collectorId, mineIds, cap⟩) collectorId).card =
      (keptTargets store collectorId mineIds stale).length := by
  have nodup : (keptTargets store collectorId mineIds stale).Nodup :=
    (getEnabledTargetIds_nodup store.targets).filter _
  rw [← List.toFinset_card_of_nodup nodup]
  congr 1
  ext tid
  rw [Holding.mem_held, List.mem_toFinset, keptTargets, List.mem_filter]
  refine and_congr_right fun present => ?_
  rw [Holding.claim_eq_some present]
  simp [and_comm]

theorem free_claim (cap : Int) :
    Holding.free (getEnabledTargetIds store.targets) (Holding.claim
      (getEnabledTargetIds store.targets) (freshHolder store.leases stale)
      ⟨collectorId, mineIds, cap⟩) = orphanTargets store mineIds stale := by
  rw [Holding.free, orphanTargets]
  refine List.filter_congr fun tid present => ?_
  rw [Holding.claim, if_pos present, Holding.fill]
  cases freshHolder store.leases stale tid <;> by_cases mine : tid ∈ mineIds <;> simp [mine]

/-- Of the leases a collector holds after its slice, those are unseen that it did not renew. -/
theorem mem_unseenTargets {now : Time} (earlier : stale < now) {tid : TargetId} :
    tid ∈ unseenTargets store collectorId mineIds stale ↔
      ∃ row, (claimSlice (getEnabledTargetIds store.targets) store.leases collectorId mineIds now
        stale).get tid = some row ∧ row.collectorId = collectorId ∧ stale ≤ row.updatedAt ∧
          row.isSince stale = false := by
  rw [unseenTargets, List.mem_filter, get_claimSlice]
  by_cases isEnabled : tid ∈ getEnabledTargetIds store.targets
  · by_cases mine : tid ∈ mineIds
    · rw [if_pos isEnabled, if_pos mine]
      refine iff_of_false (by simp [mine]) ?_
      rintro ⟨row, found, own, _, unseen⟩
      obtain rfl := Option.some.inj found
      rw [claimedLease_of_own own, ShardLease.isSince_of_lt earlier] at unseen
      exact absurd unseen (by simp)
    · cases store.leases.get tid <;> simp [isEnabled, mine, and_assoc]
  · simp [isEnabled]

/-- The count of a reconciliation leaves out exactly the unseen targets. -/
theorem countSince_claimSlice {now : Time} (earlier : stale < now) :
    countSince (claimSlice (getEnabledTargetIds store.targets) store.leases collectorId mineIds now
        stale) collectorId stale + (unseenTargets store collectorId mineIds stale).length =
      (keptTargets store collectorId mineIds stale).length := by
  have nodup : (unseenTargets store collectorId mineIds stale).Nodup :=
    (getEnabledTargetIds_nodup store.targets).filter _
  rw [← card_held_claim store collectorId mineIds stale 0,
    ← freshHolder_claimSlice _ _ _ _ 0 earlier.le, ← countFresh_eq_card
      ((claimSlice_pass _ _ _ _ _ _).freshHolder_disabled _), countSince, countFresh,
    Table.count_eq_card_matching, Table.count_eq_card_matching,
    ← List.toFinset_card_of_nodup nodup, ← Finset.card_union_of_disjoint]
  · congr 1
    ext tid
    rw [Finset.mem_union, List.mem_toFinset, mem_unseenTargets _ _ _ _ earlier, Table.mem_matching,
      Table.mem_matching]
    simp only [Bool.and_eq_true, decide_eq_true_eq]
    constructor
    · rintro (⟨row, found, own, since⟩ | ⟨row, found, own, fresh, _⟩)
      · exact ⟨row, found, own, ShardLease.le_of_isSince since⟩
      · exact ⟨row, found, own, fresh⟩
    · rintro ⟨row, found, own, fresh⟩
      cases since : row.isSince stale with
      | true => exact Or.inl ⟨row, found, own, since⟩
      | false => exact Or.inr ⟨row, found, own, fresh, since⟩
  · rw [Finset.disjoint_left]
    intro tid seen unseen
    rw [List.mem_toFinset, mem_unseenTargets _ _ _ _ earlier] at unseen
    obtain ⟨row, found, chosen⟩ := Table.mem_matching.mp seen
    obtain ⟨other, same, _, _, notSince⟩ := unseen
    rw [← Option.some.inj (found.symm.trans same)] at notSince
    simp [notSince] at chosen

end Counts

/-! ### Rounds of reconciliations within one lease time -/

/-- The arguments of one reconciliation, and its reading of the clock. -/
structure SlicePass where
  collectorId : CollectorId
  mineIds : List TargetId
  cap : Int
  now : Time

/-- What a collector brings to its pass. -/
def SlicePass.turn (pass : SlicePass) : Turn TargetId CollectorId :=
  ⟨pass.collectorId, pass.mineIds, pass.cap⟩

/-- The store after reconciliations in order. -/
def runPasses (leaseTtl : Time) (store : Store) (passes : List SlicePass) : Store :=
  passes.foldl (fun store pass =>
    (reconcileShardLeases store pass.collectorId pass.mineIds pass.cap leaseTtl pass.now).1) store

/-- Every lease is either stale at the opening reading or stamped since. -/
def Window (opening leaseTtl : Time) (leases : Leases) : Prop :=
  ∀ tid row, leases.get tid = some row →
    row.updatedAt < opening - leaseTtl ∨ opening ≤ row.updatedAt

/-- Every cutoff of the window sees what was claimed since its opening. -/
theorem Window.freshHolder_eq {opening leaseTtl : Time} {leases : Leases}
    (window : Window opening leaseTtl leases) {stale : Time} (late : opening - leaseTtl ≤ stale)
    (early : stale ≤ opening) : freshHolder leases stale = freshHolder leases opening := by
  refine freshHolder_congr fun tid row found => ⟨fun fresh => ?_, early.trans⟩
  obtain old | since := window tid row found
  · exact absurd (late.trans fresh) (not_le.mpr old)
  · exact since

theorem Window.reconcile {opening leaseTtl : Time} {store : Store}
    (window : Window opening leaseTtl store.leases) (collectorId : CollectorId)
    (mineIds : List TargetId) (cap : Int) {now : Time} (opened : opening ≤ now) :
    Window opening leaseTtl
      (reconcileShardLeases store collectorId mineIds cap leaseTtl now).1.leases := by
  intro tid row found
  by_cases same : store.leases.get tid = some row
  · exact window tid row same
  · rw [((reconcileShardLeases_pass store collectorId mineIds cap leaseTtl now).safe.stamped tid row
      found same).2]
    exact Or.inr opened

/-- Whatever a collector held at the opening is stale. -/
def Unstarted (opening leaseTtl : Time) (leases : Leases) (collectorId : CollectorId) : Prop :=
  ∀ tid row, leases.get tid = some row → row.collectorId = collectorId →
    row.updatedAt < opening - leaseTtl

/-- The pass of another collector is no start. -/
theorem Unstarted.reconcile {opening leaseTtl : Time} {store : Store} {collectorId : CollectorId}
    (unstarted : Unstarted opening leaseTtl store.leases collectorId) {other : CollectorId}
    (different : collectorId ≠ other) (mineIds : List TargetId) (cap : Int) (now : Time) :
    Unstarted opening leaseTtl
      (reconcileShardLeases store other mineIds cap leaseTtl now).1.leases collectorId := by
  intro tid row found own
  by_cases same : store.leases.get tid = some row
  · exact unstarted tid row same own
  · have theirs := ((reconcileShardLeases_pass store other mineIds cap leaseTtl now).safe.stamped
      tid row found same).1
    exact absurd (own.symm.trans theirs) different

/-- A collector that has not started has nothing its count could miss. -/
theorem Unstarted.unseenTargets_eq_nil {opening leaseTtl stale : Time} {store : Store}
    {collectorId : CollectorId} (unstarted : Unstarted opening leaseTtl store.leases collectorId)
    (late : opening - leaseTtl ≤ stale) (mineIds : List TargetId) :
    unseenTargets store collectorId mineIds stale = [] := by
  rw [unseenTargets, List.filter_eq_nil_iff]
  intro tid _
  cases found : store.leases.get tid with
  | none => simp
  | some row =>
    by_cases own : row.collectorId = collectorId
    · have old := unstarted tid row found own
      simp [not_le.mpr (lt_of_lt_of_le old late)]
    · simp [own]

/-- A reconciliation that counts everything is one turn of the collector over the enabled
targets. -/
theorem freshHolder_reconcile_of_seen {store : Store} {pass : SlicePass} {leaseTtl : Time}
    (positive : 0 < leaseTtl)
    (seen : unseenTargets store pass.collectorId pass.mineIds (pass.now - leaseTtl) = []) :
    freshHolder (reconcileShardLeases store pass.collectorId pass.mineIds pass.cap leaseTtl
        pass.now).1.leases (pass.now - leaseTtl) =
      Holding.take (getEnabledTargetIds store.targets)
        (freshHolder store.leases (pass.now - leaseTtl)) pass.turn := by
  have counted := countSince_claimSlice store pass.collectorId pass.mineIds (pass.now - leaseTtl)
    (sub_lt_self pass.now positive)
  rw [seen, List.length_nil, Nat.add_zero] at counted
  rw [freshHolder_reconcile _ _ _ _ positive.le, counted,
    ← card_held_claim store pass.collectorId pass.mineIds (pass.now - leaseTtl) pass.cap]
  rfl

/-- A round of reconciliations within one lease time, by collectors that have not started, is a
run of turns. -/
theorem Window.runPasses {opening leaseTtl : Time} {store : Store}
    (window : Window opening leaseTtl store.leases) {passes : List SlicePass}
    (positive : passes ≠ [] → 0 < leaseTtl) (distinct : (passes.map SlicePass.collectorId).Nodup)
    (unstarted : ∀ pass ∈ passes, Unstarted opening leaseTtl store.leases pass.collectorId)
    (inside : ∀ pass ∈ passes, opening ≤ pass.now ∧ pass.now ≤ opening + leaseTtl) :
    Window opening leaseTtl (Gyanam.runPasses leaseTtl store passes).leases ∧
      freshHolder (Gyanam.runPasses leaseTtl store passes).leases opening =
        Holding.run (getEnabledTargetIds store.targets) (freshHolder store.leases opening)
          (passes.map SlicePass.turn) := by
  induction passes generalizing store with
  | nil => exact ⟨window, rfl⟩
  | cons pass rest inductionHypothesis =>
    obtain ⟨⟨started, ended⟩, later⟩ := List.forall_mem_cons.mp inside
    obtain ⟨first, others⟩ := List.forall_mem_cons.mp unstarted
    rw [List.map_cons, List.nodup_cons] at distinct
    have next := window.reconcile pass.collectorId pass.mineIds pass.cap started
    have positiveTtl : 0 < leaseTtl := positive (List.cons_ne_nil pass rest)
    obtain ⟨final, turns⟩ := inductionHypothesis next (fun _ => positiveTtl) distinct.2
      (fun other member => (others other member).reconcile
        (fun same => distinct.1 (List.mem_map.mpr ⟨other, member, same⟩)) _ _ _) later
    have late : opening - leaseTtl ≤ pass.now - leaseTtl := by linarith
    have turn := freshHolder_reconcile_of_seen positiveTtl
      (first.unseenTargets_eq_nil late pass.mineIds)
    rw [next.freshHolder_eq (by linarith) (by linarith),
      window.freshHolder_eq (by linarith) (by linarith)] at turn
    refine ⟨final, turns.trans ?_⟩
    rw [turn]
    rfl

/-- With no fresh lease at the opening, the holding is empty. -/
theorem freshHolder_of_stale {opening leaseTtl : Time} (notNegative : 0 ≤ leaseTtl)
    {leases : Leases}
    (noFresh : ∀ tid row, leases.get tid = some row → row.updatedAt < opening - leaseTtl)
    (tid : TargetId) : freshHolder leases opening tid = none := by
  rw [Option.eq_none_iff_forall_ne_some]
  intro collectorId held
  obtain ⟨row, found, _, fresh⟩ := freshHolder_eq_some.mp held
  have old := noFresh tid row found
  linarith

/-! ### Coverage by the safety net -/

/-- The collector holds a fresh lease on the target. -/
def HoldsFresh (leases : Leases) (stale : Time) (collectorId : CollectorId) (tid : TargetId) :
    Prop :=
  ∃ row, leases.get tid = some row ∧ row.collectorId = collectorId ∧ stale ≤ row.updatedAt

/-- What the safety net promises of one pass: when the collector ends below its cap no enabled
target lacks a fresh lease, and adopting orphans does not take it above its cap. A lease is fresh
when it is no older than the lease time. -/
structure SafetyNet (store : Store) (collectorId : CollectorId) (mineIds : List TargetId)
    (cap : Int) (leaseTtl now : Time) : Prop where
  covers : (countFresh (reconcileShardLeases store collectorId mineIds cap leaseTtl now).1.leases
      collectorId (now - leaseTtl) : Int) < cap →
    ∀ tid, store.Enabled tid → ∃ holder, HoldsFresh
      (reconcileShardLeases store collectorId mineIds cap leaseTtl now).1.leases
      (now - leaseTtl) holder tid
  bounded : (countFresh (reconcileShardLeases store collectorId mineIds cap leaseTtl now).1.leases
      collectorId (now - leaseTtl) : Int) ≤
    max (countFresh (claimSlice (getEnabledTargetIds store.targets) store.leases collectorId
      mineIds now (now - leaseTtl)) collectorId (now - leaseTtl) : Int) cap

/-- The pass adopts within the cap: it counts every fresh lease of the collector, or nothing is
left to adopt, or what it counts fills the cap, or the cap has room for all that is left. -/
def AdoptsWithin (store : Store) (collectorId : CollectorId) (mineIds : List TargetId) (cap : Int)
    (stale : Time) : Prop :=
  unseenTargets store collectorId mineIds stale = [] ∨ orphanTargets store mineIds stale = [] ∨
    cap ≤ ((keptTargets store collectorId mineIds stale).length : Int) -
      (unseenTargets store collectorId mineIds stale).length ∨
    ((keptTargets store collectorId mineIds stale).length : Int) +
      (orphanTargets store mineIds stale).length ≤ cap

section Net

variable (store : Store) (collectorId : CollectorId) (mineIds : List TargetId) (cap : Int)
  {leaseTtl : Time} (positive : 0 < leaseTtl) (now : Time)

include positive

/-- The fresh leases after a pass: those kept, and as many orphans as the pass sees places for. -/
theorem countFresh_reconcile :
    countFresh (reconcileShardLeases store collectorId mineIds cap leaseTtl now).1.leases
        collectorId (now - leaseTtl) =
      (keptTargets store collectorId mineIds (now - leaseTtl)).length +
        min (cap - (((keptTargets store collectorId mineIds (now - leaseTtl)).length : Int) -
          (unseenTargets store collectorId mineIds (now - leaseTtl)).length)).toNat
          (orphanTargets store mineIds (now - leaseTtl)).length := by
  have counted := countSince_claimSlice store collectorId mineIds (now - leaseTtl)
    (sub_lt_self now positive)
  have pass := reconcileShardLeases_pass store collectorId mineIds cap leaseTtl now
  rw [countFresh_eq_card (pass.freshHolder_disabled _),
    freshHolder_reconcile _ _ _ _ positive.le,
    Holding.card_held_adopt (getEnabledTargetIds_nodup store.targets), card_held_claim, free_claim]
  omega

theorem countFresh_claimSlice :
    countFresh (claimSlice (getEnabledTargetIds store.targets) store.leases collectorId mineIds now
        (now - leaseTtl)) collectorId (now - leaseTtl) =
      (keptTargets store collectorId mineIds (now - leaseTtl)).length := by
  rw [countFresh_eq_card ((claimSlice_pass _ _ _ _ _ _).freshHolder_disabled _),
    freshHolder_claimSlice _ _ _ _ 0 (sub_le_self now positive.le), card_held_claim]

/-- A collector that ends below its cap has left no orphan, whatever its count missed. -/
theorem reconcile_covers
    (below : (countFresh (reconcileShardLeases store collectorId mineIds cap leaseTtl now).1.leases
      collectorId (now - leaseTtl) : Int) < cap) {tid : TargetId} (enabled : store.Enabled tid) :
    ∃ holder, HoldsFresh (reconcileShardLeases store collectorId mineIds cap leaseTtl now).1.leases
      (now - leaseTtl) holder tid := by
  have counted := countSince_claimSlice store collectorId mineIds (now - leaseTtl)
    (sub_lt_self now positive)
  rw [countFresh_reconcile _ _ _ _ positive] at below
  have covered : freshHolder (reconcileShardLeases store collectorId mineIds cap leaseTtl
      now).1.leases (now - leaseTtl) tid ≠ none := by
    rw [freshHolder_reconcile _ _ _ _ positive.le]
    refine Holding.adopt_covers ?_ (mem_getEnabledTargetIds.mpr enabled)
    rw [free_claim]
    omega
  obtain ⟨holder, held⟩ := Option.ne_none_iff_exists'.mp covered
  exact ⟨holder, freshHolder_eq_some.mp held⟩

theorem safetyNet_iff :
    SafetyNet store collectorId mineIds cap leaseTtl now ↔
      AdoptsWithin store collectorId mineIds cap (now - leaseTtl) := by
  have few : ∀ {tids : List TargetId}, tids = [] ↔ tids.length = 0 := List.length_eq_zero_iff.symm
  have bounded : SafetyNet store collectorId mineIds cap leaseTtl now ↔
      (countFresh (reconcileShardLeases store collectorId mineIds cap leaseTtl now).1.leases
        collectorId (now - leaseTtl) : Int) ≤
      max (countFresh (claimSlice (getEnabledTargetIds store.targets) store.leases collectorId
        mineIds now (now - leaseTtl)) collectorId (now - leaseTtl) : Int) cap :=
    ⟨SafetyNet.bounded, fun within => ⟨fun below tid enabled =>
      reconcile_covers store collectorId mineIds cap positive now below enabled, within⟩⟩
  rw [bounded, countFresh_reconcile _ _ _ _ positive, countFresh_claimSlice _ _ _ positive,
    AdoptsWithin, few, few]
  omega

end Net

/-- The orphan safety net. One pass keeps its promises exactly when it adopts within the cap. And
when every collector of a round reconciles once within one lease time, over a table without fresh
leases, with slices within their caps and caps that add up to the enabled targets, every enabled
target ends with exactly one fresh lease and no collector holds more than its cap. -/
theorem orphan_coverage (store : Store) {leaseTtl : Time} (positive : 0 < leaseTtl) :
    (∀ (collectorId : CollectorId) (mineIds : List TargetId) (cap : Int) (now : Time),
      SafetyNet store collectorId mineIds cap leaseTtl now ↔
        AdoptsWithin store collectorId mineIds cap (now - leaseTtl)) ∧
    ∀ (passes : List SlicePass) (opening closing : Time),
      (∀ tid row, store.leases.get tid = some row → row.updatedAt < opening - leaseTtl) →
      (passes.map SlicePass.collectorId).Nodup →
      (∀ pass ∈ passes, opening ≤ pass.now ∧ pass.now ≤ closing) →
      opening ≤ closing → closing ≤ opening + leaseTtl →
      (∀ pass ∈ passes, (((getEnabledTargetIds store.targets).toFinset ∩
        pass.mineIds.toFinset).card : Int) ≤ pass.cap) →
      ((getEnabledTargetIds store.targets).length : Int) ≤ (passes.map SlicePass.cap).sum →
        (∀ tid, store.Enabled tid → ∃! holder,
          HoldsFresh (runPasses leaseTtl store passes).leases (closing - leaseTtl) holder tid) ∧
        ∀ pass ∈ passes, (countFresh (runPasses leaseTtl store passes).leases pass.collectorId
          (closing - leaseTtl) : Int) ≤ pass.cap := by
  refine ⟨fun collectorId mineIds cap now =>
    safetyNet_iff store collectorId mineIds cap positive now, ?_⟩
  intro passes opening closing noFresh distinct inside opened closed within enough
  have window : Window opening leaseTtl store.leases :=
    fun tid row found => Or.inl (noFresh tid row found)
  have within' : ∀ pass ∈ passes, opening ≤ pass.now ∧ pass.now ≤ opening + leaseTtl :=
    fun pass member => ⟨(inside pass member).1, (inside pass member).2.trans closed⟩
  obtain ⟨final, turns⟩ := window.runPasses (fun _ => positive) distinct
    (fun pass _ tid row found _ => noFresh tid row found) within'
  rw [← final.freshHolder_eq (by linarith : opening - leaseTtl ≤ closing - leaseTtl) (by linarith)]
    at turns
  have empty := freshHolder_of_stale positive.le noFresh
  have distinctTurns : ((passes.map SlicePass.turn).map Turn.holder).Nodup := by
    rwa [List.map_map]
  constructor
  · intro tid enabled
    have covered := Holding.run_covers (getEnabledTargetIds_nodup store.targets)
      (freshHolder store.leases opening) distinctTurns (by rwa [List.map_map])
      (mem_getEnabledTargetIds.mpr enabled)
    rw [← turns] at covered
    obtain ⟨holder, held⟩ := Option.ne_none_iff_exists'.mp covered
    refine ⟨holder, freshHolder_eq_some.mp held, fun other alsoHeld => ?_⟩
    exact Option.some.inj ((freshHolder_eq_some.mpr alsoHeld).symm.trans held)
  · intro pass member
    have nothing : ∀ turn ∈ passes.map SlicePass.turn, Holding.held
        (getEnabledTargetIds store.targets) (freshHolder store.leases opening) turn.holder = ∅ := by
      intro turn _
      refine Finset.eq_empty_of_forall_notMem fun tid held => ?_
      exact absurd ((Holding.mem_held.mp held).2.symm.trans (empty tid)) (by simp)
    rw [countFresh_eq_card fun tid absent => ?_, turns]
    · exact Holding.card_held_run_le (getEnabledTargetIds_nodup store.targets) distinctTurns nothing
        (List.forall_mem_map.mpr within) pass.turn (List.mem_map.mpr ⟨pass, member, rfl⟩)
    · rw [turns]
      exact Holding.run_of_notMem _ absent (empty tid)

/-! ### Two targets and two collectors -/

/-- Two enabled targets. `collector-0` was given the first one at the epoch. -/
def shedStore : Store :=
  { Store.ofTargets (Table.ofKeys [1, 2] (by decide) fun _ => sampleTarget) with
    leases := Table.empty.set 1 ⟨"collector-0", 0, .raw⟩ }

/-- One lease time later to the microsecond, neither target in its slice and a cap of one,
`collector-0` does not count the lease it holds, and adopts the second target as well. -/
theorem shedLease_overfills :
    ¬ ∀ (store : Store) (collectorId : CollectorId) (mineIds : List TargetId) (cap : Int)
      (leaseTtl now : Time), 0 < leaseTtl →
        SafetyNet store collectorId mineIds cap leaseTtl now := by
  intro claimed
  have bounded := (claimed shedStore "collector-0" [] 1 75000000 75000000 (by decide)).bounded
  exact absurd bounded (by decide)

/-- A microsecond earlier it counts the lease and adopts nothing; and from a table without leases
two collectors with the same slice of one target share the two. -/
theorem orphan_coverage_pair :
    SafetyNet shedStore "collector-0" [] 1 75000000 74999999 ∧
    ∀ tid, (Store.ofTargets shedStore.targets).Enabled tid → ∃! holder,
      HoldsFresh (runPasses 75000000 (.ofTargets shedStore.targets)
        [⟨"collector-0", [1], 1, 0⟩, ⟨"collector-1", [1], 1, 5⟩]).leases
          (5 - 75000000) holder tid :=
  ⟨((orphan_coverage shedStore (by decide)).1 "collector-0" [] 1 74999999).mpr
      (Or.inl (by decide)),
    ((orphan_coverage (.ofTargets shedStore.targets) (by decide)).2
      [⟨"collector-0", [1], 1, 0⟩, ⟨"collector-1", [1], 1, 5⟩] 0 5
      (fun tid row found => absurd found (by simp [Store.ofTargets])) (by decide) (by decide)
      (by decide) (by decide) (by decide) (by decide)).1⟩

end Gyanam
