/-
This file models the lease queries of the repository: which target is polled by
which collector, with a heartbeat. Each function is one transaction of the
store, so it is a function from the store before to the store after.

Two claim algorithms share the table. The static one renews everything it holds
and fills up to its cap in the order of the ids. The dynamic one renews its own
slice only, and then adopts targets without a fresh lease while it is below its
cap. `Pass` says what both do to the table: the leases of disabled targets are
gone, the taken targets carry a lease of the acting collector stamped now, and a
taken target had no lease of another collector that is fresh.

The claims are raw statements and so are their guards: both sides of
`updated_at < stale` have one form, and it is the order of the instants. The
heartbeat of the static pass and the queries for `updated_at >= stale` are
mapped; they compare by `ShardLease.isSince`.
-/

import Gyanam.Lib.Lease
import Gyanam.Lib.Sorted
import Gyanam.Models

namespace Gyanam

/-! ### Enabled targets -/

/-- The ids of the enabled targets, in the order of the primary key. -/
def getEnabledTargetIds (targets : Table TargetId Target) : List TargetId :=
  SortedList.distinct ((targets.rows.filter fun entry => entry.2.enabled).map Prod.fst)

theorem mem_getEnabledTargetIds {targets : Table TargetId Target} {tid : TargetId} :
    tid ∈ getEnabledTargetIds targets ↔
      ∃ target, targets.get tid = some target ∧ target.enabled = true := by
  rw [getEnabledTargetIds, SortedList.mem_distinct, List.mem_map]
  constructor
  · rintro ⟨⟨_, target⟩, member, rfl⟩
    obtain ⟨present, enabled⟩ := List.mem_filter.mp member
    exact ⟨target, Table.get_eq_some_iff.mpr present, enabled⟩
  · rintro ⟨target, found, enabled⟩
    exact ⟨(tid, target), List.mem_filter.mpr ⟨Table.get_eq_some_iff.mp found, enabled⟩, rfl⟩

/-! ### The statements of the lease transactions -/

/-- The table of leases. -/
abbrev Leases := Table TargetId ShardLease

/-- Delete the leases whose target is gone or disabled. -/
def sweepLeases (enabled : List TargetId) (leases : Leases) : Leases :=
  leases.deleteWhere fun tid _ => decide (tid ∉ enabled)

/-- Insert a lease for each target, or overwrite the one that is there when it passes the guard. -/
def claimEach (collectorId : CollectorId) (now : Time) (guard : ShardLease → Bool)
    (leases : Leases) (tids : List TargetId) : Leases :=
  tids.foldl (fun claimed tid =>
    claimed.upsert tid ⟨collectorId, now, .raw⟩ guard fun _ => ⟨collectorId, now, .raw⟩) leases

/-- The enabled targets without a lease at least as new as `stale`, by id, at most `limit`. -/
def unownedOrStale (enabled : List TargetId) (leases : Leases) (stale : Time) (limit : Int) :
    List TargetId :=
  (enabled.filter fun tid =>
    (leases.get tid).all fun row => decide (row.updatedAt < stale)).take limit.toNat

/-- How many leases a collector holds. -/
def countOwned (leases : Leases) (collectorId : CollectorId) : Nat :=
  leases.count fun _ row => decide (row.collectorId = collectorId)

/-- How many leases with `updated_at >= stale` a collector holds. -/
def countSince (leases : Leases) (collectorId : CollectorId) (stale : Time) : Nat :=
  leases.count fun _ row => decide (row.collectorId = collectorId) && row.isSince stale

/-! ### The static claim -/

/-- Renew and claim leases for a collector; the number of leases it now holds. The clock is read
twice, once for the stamp and once for the cutoff. -/
def claimShardTargets (store : Store) (collectorId : CollectorId) (maxTargets : Int)
    (leaseTtl now later : Time) : Store × Int :=
  let stale := later - leaseTtl
  let enabled := getEnabledTargetIds store.targets
  let swept := sweepLeases enabled store.leases
  let renewed := swept.updateWhere (fun _ row => decide (row.collectorId = collectorId))
    fun row => { row with updatedAt := now, stampText := .mapped }
  let capacity := maxTargets - countOwned renewed collectorId
  let claimed :=
    if 0 < capacity then
      claimEach collectorId now (fun row => decide (row.updatedAt < stale)) renewed
        (unownedOrStale enabled renewed stale capacity)
    else renewed
  ({ store with leases := claimed }, countOwned claimed collectorId)

/-! ### The dynamic reconciliation -/

/-- The guard of the dynamic claim: the collector's own lease, or a stale one. -/
def mayClaim (collectorId : CollectorId) (stale : Time) (row : ShardLease) : Bool :=
  decide (row.collectorId = collectorId) || decide (row.updatedAt < stale)

/-- The ids of a slice that are still enabled, looked up in chunks of five hundred. -/
def enabledMine (enabled mineIds : List TargetId) : List TargetId :=
  (SortedList.chunks 500 (SortedList.distinct mineIds)).flatMap fun chunk =>
    enabled.filter fun tid => decide (tid ∈ chunk)

/-- Sweep the table and claim a collector's slice. -/
def claimSlice (enabled : List TargetId) (leases : Leases) (collectorId : CollectorId)
    (mineIds : List TargetId) (now stale : Time) : Leases :=
  claimEach collectorId now (mayClaim collectorId stale) (sweepLeases enabled leases)
    (enabledMine enabled mineIds)

/-- The orphan safety net: while the collector is below `cap`, adopt enabled targets without a
fresh lease. -/
def adoptOrphans (enabled : List TargetId) (leases : Leases) (collectorId : CollectorId)
    (cap : Int) (now stale : Time) : Leases :=
  let capacity := cap - countSince leases collectorId stale
  if 0 < capacity then
    claimEach collectorId now (mayClaim collectorId stale) leases
      (unownedOrStale enabled leases stale capacity)
  else leases

/-- Make the lease table match a collector's slice; the number of leases it is now seen to hold. -/
def reconcileShardLeases (store : Store) (collectorId : CollectorId) (mineIds : List TargetId)
    (cap : Int) (leaseTtl now : Time) : Store × Int :=
  let stale := now - leaseTtl
  let enabled := getEnabledTargetIds store.targets
  let claimed := claimSlice enabled store.leases collectorId mineIds now stale
  let adopted := adoptOrphans enabled claimed collectorId cap now stale
  ({ store with leases := adopted }, countSince adopted collectorId stale)

/-! ### Release and reading -/

/-- Drop a collector's leases, its stats row and its heatmap rows. -/
def releaseShardLeases (store : Store) (collectorId : CollectorId) : Store :=
  { store with
    leases := store.leases.deleteWhere fun _ row => decide (row.collectorId = collectorId)
    stats := store.stats.deleteWhere fun key _ => decide (key = collectorId)
    heatmaps := store.heatmaps.deleteWhere fun key _ => decide (key.1 = collectorId) }

/-- The targets a collector holds a fresh lease on. -/
def getOwnedTargets (store : Store) (collectorId : CollectorId) (leaseTtl now : Time)
    (enabledOnly : Bool := true) : List (TargetId × Target) :=
  store.targets.rows.filter fun entry =>
    ((store.leases.get entry.1).any fun row =>
      decide (row.collectorId = collectorId) && row.isSince (now - leaseTtl)) &&
    (!enabledOnly || entry.2.enabled)

/-! ### What each statement does to one lease -/

theorem ShardLease.isSince_iff {row : ShardLease} {stale : Time} :
    row.isSince stale = true ↔ stale < row.updatedAt ∨ (stale = row.updatedAt ∧
      (row.stampText = .mapped ∨ stale % 1000000 ≠ 0)) := by
  simp only [isSince, Bool.or_eq_true, Bool.and_eq_true, decide_eq_true_eq]

theorem ShardLease.le_of_isSince {row : ShardLease} {stale : Time}
    (since : row.isSince stale = true) : stale ≤ row.updatedAt := by
  obtain later | ⟨same, _⟩ := isSince_iff.mp since
  · exact later.le
  · exact same.le

theorem ShardLease.isSince_of_lt {row : ShardLease} {stale : Time}
    (later : stale < row.updatedAt) : row.isSince stale = true :=
  isSince_iff.mpr (Or.inl later)

/-- What is seen as fresh at a cutoff is so at every earlier one. -/
theorem ShardLease.isSince_anti {row : ShardLease} {first second : Time} (earlier : first ≤ second)
    (since : row.isSince second = true) : row.isSince first = true := by
  obtain same | before := earlier.eq_or_lt
  · rwa [same]
  · exact isSince_of_lt (lt_of_lt_of_le before (le_of_isSince since))

theorem get_sweepLeases (enabled : List TargetId) (leases : Leases) (tid : TargetId) :
    (sweepLeases enabled leases).get tid = if tid ∈ enabled then leases.get tid else none := by
  rw [sweepLeases, Table.get_deleteWhere]
  cases leases.get tid <;> simp [Option.filter]

theorem get_releaseShardLeases_eq_some {store : Store} {collectorId : CollectorId} {tid : TargetId}
    {row : ShardLease} :
    (releaseShardLeases store collectorId).leases.get tid = some row ↔
      store.leases.get tid = some row ∧ row.collectorId ≠ collectorId := by
  rw [releaseShardLeases, Table.get_deleteWhere, Option.filter_eq_some_iff]
  simp

/-- The lease of a claimed target: the claimant's, unless the one that is there is guarded. -/
def claimedLease (collectorId : CollectorId) (now : Time) (guard : ShardLease → Bool) :
    Option ShardLease → ShardLease
  | none => ⟨collectorId, now, .raw⟩
  | some row => if guard row then ⟨collectorId, now, .raw⟩ else row

theorem mayClaim_iff {collectorId : CollectorId} {stale : Time} {row : ShardLease} :
    mayClaim collectorId stale row = true ↔
      row.collectorId = collectorId ∨ row.updatedAt < stale := by
  rw [mayClaim, Bool.or_eq_true, decide_eq_true_eq, decide_eq_true_eq]

theorem claimedLease_cases (collectorId : CollectorId) (now : Time) (guard : ShardLease → Bool)
    (held : Option ShardLease) :
    some (claimedLease collectorId now guard held) = held ∨
      (claimedLease collectorId now guard held = ⟨collectorId, now, .raw⟩ ∧
        ∀ row, held = some row → guard row = true) := by
  cases held with
  | none => exact Or.inr ⟨rfl, fun row found => absurd found (by simp)⟩
  | some row =>
    cases passes : guard row with
    | true => exact Or.inr ⟨if_pos passes, fun other found => Option.some.inj found ▸ passes⟩
    | false => exact Or.inl (congrArg some (if_neg (by simp [passes])))

/-- A target that has no lease, or one whose guard passes, is claimed. -/
theorem claimedLease_of_free {collectorId : CollectorId} {now stale : Time}
    {guard : ShardLease → Bool} {held : Option ShardLease}
    (free : ∀ row, held = some row → row.updatedAt < stale)
    (passes : ∀ row : ShardLease, row.updatedAt < stale → guard row = true) :
    claimedLease collectorId now guard held = ⟨collectorId, now, .raw⟩ := by
  cases held with
  | none => rfl
  | some row => exact if_pos (passes row (free row rfl))

/-- A collector that holds a target after claiming it has renewed it. -/
theorem claimedLease_of_own {collectorId : CollectorId} {now stale : Time}
    {held : Option ShardLease}
    (own : (claimedLease collectorId now (mayClaim collectorId stale) held).collectorId =
      collectorId) :
    claimedLease collectorId now (mayClaim collectorId stale) held = ⟨collectorId, now, .raw⟩ := by
  obtain same | ⟨new, _⟩ := claimedLease_cases collectorId now (mayClaim collectorId stale) held
  · rw [← same, claimedLease, if_pos (mayClaim_iff.mpr (Or.inl own))]
  · exact new

theorem get_claimEach (collectorId : CollectorId) (now : Time) (guard : ShardLease → Bool)
    (leases : Leases) (tids : List TargetId) (tid : TargetId) :
    (claimEach collectorId now guard leases tids).get tid =
      if tid ∈ tids then some (claimedLease collectorId now guard (leases.get tid))
      else leases.get tid := by
  induction tids generalizing leases with
  | nil => rfl
  | cons first rest inductionHypothesis =>
    have single :
        (leases.upsert first ⟨collectorId, now, .raw⟩ guard
          fun _ => ⟨collectorId, now, .raw⟩).get tid =
        if tid = first then some (claimedLease collectorId now guard (leases.get tid))
        else leases.get tid := by
      rw [Table.get_upsert]
      by_cases same : tid = first
      · subst same
        rw [if_pos rfl, if_pos rfl]
        cases leases.get tid with
        | none => rfl
        | some row => cases passes : guard row <;> simp [claimedLease, passes]
      · rw [if_neg same, if_neg same]
    have again : ∀ held, claimedLease collectorId now guard
        (some (claimedLease collectorId now guard held)) =
          claimedLease collectorId now guard held := by
      intro held
      cases held with
      | none => exact ite_self _
      | some row => cases passes : guard row <;> simp [claimedLease, passes]
    show (claimEach collectorId now guard _ rest).get tid = _
    rw [inductionHypothesis, single]
    by_cases same : tid = first
    · simp [same, again]
    · simp [same]

theorem mem_enabledMine {enabled mineIds : List TargetId} {tid : TargetId} :
    tid ∈ enabledMine enabled mineIds ↔ tid ∈ enabled ∧ tid ∈ mineIds := by
  have joined : tid ∈ mineIds ↔ ∃ chunk ∈ SortedList.chunks 500 (SortedList.distinct mineIds),
      tid ∈ chunk := by
    rw [← List.mem_flatten, SortedList.flatten_chunks (by decide), SortedList.mem_distinct]
  simp only [enabledMine, List.mem_flatMap, List.mem_filter, decide_eq_true_eq, joined]
  constructor
  · rintro ⟨chunk, listed, isEnabled, member⟩
    exact ⟨isEnabled, chunk, listed, member⟩
  · rintro ⟨isEnabled, chunk, listed, member⟩
    exact ⟨chunk, listed, isEnabled, member⟩

theorem free_of_mem_unownedOrStale {enabled : List TargetId} {leases : Leases} {stale : Time}
    {limit : Int} {tid : TargetId} (member : tid ∈ unownedOrStale enabled leases stale limit) :
    tid ∈ enabled ∧ ∀ row, leases.get tid = some row → row.updatedAt < stale := by
  obtain ⟨isEnabled, free⟩ := List.mem_filter.mp (List.mem_of_mem_take member)
  refine ⟨isEnabled, fun row found => ?_⟩
  rw [found, Option.all_some, decide_eq_true_eq] at free
  exact free

/-! ### What each part of a reconciliation does to one lease -/

section Parts

variable (enabled : List TargetId) (leases : Leases) (collectorId : CollectorId)
  (mineIds : List TargetId) (cap : Int) (now stale : Time)

theorem get_claimSlice (tid : TargetId) :
    (claimSlice enabled leases collectorId mineIds now stale).get tid =
      if tid ∈ enabled then
        if tid ∈ mineIds then
          some (claimedLease collectorId now (mayClaim collectorId stale) (leases.get tid))
        else leases.get tid
      else none := by
  rw [claimSlice, get_claimEach, get_sweepLeases]
  simp only [mem_enabledMine]
  by_cases isEnabled : tid ∈ enabled <;> simp [isEnabled]

/-- The targets a reconciliation adopts. -/
def orphans : List TargetId :=
  unownedOrStale enabled leases stale (cap - countSince leases collectorId stale)

theorem adoptOrphans_eq :
    adoptOrphans enabled leases collectorId cap now stale =
      claimEach collectorId now (mayClaim collectorId stale) leases
        (orphans enabled leases collectorId cap stale) := by
  rw [adoptOrphans, orphans]
  split
  · rfl
  · next full =>
    rw [unownedOrStale, Int.toNat_of_nonpos (not_lt.mp full), List.take_zero]
    rfl

theorem get_adoptOrphans (tid : TargetId) :
    (adoptOrphans enabled leases collectorId cap now stale).get tid =
      if tid ∈ orphans enabled leases collectorId cap stale then some ⟨collectorId, now, .raw⟩
      else leases.get tid := by
  rw [adoptOrphans_eq, get_claimEach]
  split
  · next adopted =>
    rw [claimedLease_of_free (free_of_mem_unownedOrStale adopted).2 fun row old =>
      mayClaim_iff.mpr (Or.inr old)]
  · rfl

end Parts

/-! ### What a pass does to the table -/

/-- A pass by a collector with the stamp `now` and the cutoff `stale`: no disabled target keeps a
lease, and an enabled target keeps its own or gets the collector's, which it may when it had none,
the collector's, or a stale one. -/
structure Pass (enabled : List TargetId) (collectorId : CollectorId) (now stale : Time)
    (before after : Leases) : Prop where
  disabled : ∀ tid ∉ enabled, after.get tid = none
  effect : ∀ tid ∈ enabled, after.get tid = before.get tid ∨
    ∃ stampText, after.get tid = some ⟨collectorId, now, stampText⟩ ∧
      ∀ row, before.get tid = some row → mayClaim collectorId stale row = true

theorem claimSlice_pass (enabled : List TargetId) (leases : Leases) (collectorId : CollectorId)
    (mineIds : List TargetId) (now stale : Time) :
    Pass enabled collectorId now stale leases
      (claimSlice enabled leases collectorId mineIds now stale) where
  disabled tid absent := by rw [get_claimSlice, if_neg absent]
  effect tid isEnabled := by
    rw [get_claimSlice, if_pos isEnabled]
    split
    · obtain same | ⟨new, allowed⟩ :=
        claimedLease_cases collectorId now (mayClaim collectorId stale) (leases.get tid)
      · exact Or.inl same
      · exact Or.inr ⟨.raw, congrArg some new, allowed⟩
    · exact Or.inl rfl

/-- Claiming targets whose leases are stale by now extends a pass. -/
theorem Pass.claimFree {enabled : List TargetId} {collectorId : CollectorId} {now stale : Time}
    {before middle : Leases} (pass : Pass enabled collectorId now stale before middle)
    {guard : ShardLease → Bool}
    (passes : ∀ row : ShardLease, row.updatedAt < stale → guard row = true) {tids : List TargetId}
    (free : ∀ tid ∈ tids, tid ∈ enabled ∧
      ∀ row, middle.get tid = some row → row.updatedAt < stale) :
    Pass enabled collectorId now stale before (claimEach collectorId now guard middle tids) where
  disabled tid absent := by
    rw [get_claimEach, if_neg fun member => absent (free tid member).1, pass.disabled tid absent]
  effect tid isEnabled := by
    rw [get_claimEach]
    split
    · next member =>
      obtain ⟨_, isFree⟩ := free tid member
      refine Or.inr ⟨.raw, by rw [claimedLease_of_free isFree passes], fun row found => ?_⟩
      obtain same | ⟨_, _, allowed⟩ := pass.effect tid isEnabled
      · exact mayClaim_iff.mpr (Or.inr (isFree row (same.trans found)))
      · exact allowed row found
    · exact pass.effect tid isEnabled

/-- A dynamic reconciliation is a pass. -/
theorem reconcileShardLeases_pass (store : Store) (collectorId : CollectorId)
    (mineIds : List TargetId) (cap : Int) (leaseTtl now : Time) :
    Pass (getEnabledTargetIds store.targets) collectorId now (now - leaseTtl) store.leases
      (reconcileShardLeases store collectorId mineIds cap leaseTtl now).1.leases := by
  rw [reconcileShardLeases, adoptOrphans_eq]
  exact (claimSlice_pass _ _ collectorId mineIds now _).claimFree
    (fun row old => mayClaim_iff.mpr (Or.inr old)) fun tid => free_of_mem_unownedOrStale

/-- A reconciliation renews the collector's own leases in its slice. -/
theorem get_reconcile_of_mine (store : Store) {collectorId : CollectorId}
    {mineIds : List TargetId} (cap : Int) (leaseTtl now : Time) {tid : TargetId}
    (isEnabled : tid ∈ getEnabledTargetIds store.targets) (mine : tid ∈ mineIds)
    {row : ShardLease} (held : store.leases.get tid = some row)
    (own : row.collectorId = collectorId) :
    (reconcileShardLeases store collectorId mineIds cap leaseTtl now).1.leases.get tid =
      some ⟨collectorId, now, .raw⟩ := by
  rw [reconcileShardLeases, get_adoptOrphans]
  split
  · rfl
  · rw [get_claimSlice, if_pos isEnabled, if_pos mine, held, claimedLease,
      if_pos (mayClaim_iff.mpr (Or.inl own))]

/-- Renewing every lease a collector holds, after the sweep, is a pass. -/
theorem renewAll_pass (enabled : List TargetId) (leases : Leases) (collectorId : CollectorId)
    (now stale : Time) :
    Pass enabled collectorId now stale leases ((sweepLeases enabled leases).updateWhere
      (fun _ row => decide (row.collectorId = collectorId))
      fun row => { row with updatedAt := now, stampText := .mapped }) where
  disabled tid absent := by
    rw [Table.get_updateWhere, get_sweepLeases, if_neg absent, Option.map_none]
  effect tid isEnabled := by
    rw [Table.get_updateWhere, get_sweepLeases, if_pos isEnabled]
    cases found : leases.get tid with
    | none => exact Or.inl rfl
    | some row =>
      by_cases mine : row.collectorId = collectorId
      · refine Or.inr ⟨.mapped, by simp [mine], fun other same => ?_⟩
        exact mayClaim_iff.mpr (Or.inl (Option.some.inj same ▸ mine))
      · exact Or.inl (by simp [mine])

/-- A static claim is a pass. -/
theorem claimShardTargets_pass (store : Store) (collectorId : CollectorId) (maxTargets : Int)
    (leaseTtl now later : Time) :
    Pass (getEnabledTargetIds store.targets) collectorId now (later - leaseTtl) store.leases
      (claimShardTargets store collectorId maxTargets leaseTtl now later).1.leases := by
  have renewed := renewAll_pass (getEnabledTargetIds store.targets) store.leases collectorId now
    (later - leaseTtl)
  rw [claimShardTargets]
  dsimp only
  split
  · exact renewed.claimFree (fun row old => decide_eq_true old) fun tid =>
      free_of_mem_unownedOrStale
  · exact renewed

end Gyanam
