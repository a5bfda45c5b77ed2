/-
This file settles the safety of the lease table. A fleet is the shared store and
the clock; its events are the passes of both claim algorithms by any collector,
releases, arbitrary edits of the targets, and the passing of time. Each pass is
one transaction. Seen from one target, every event of the fleet acts on its
lease under the discipline of `Gyanam/Lib/Lease.lean`, so a lease is lost only by
release, by the sweep of a target that is not enabled, or by silence.
-/

import Gyanam.Leases

namespace Gyanam

/-! ### One pass -/

/-- The target is configured and enabled. -/
def Store.Enabled (store : Store) (tid : TargetId) : Prop :=
  ∃ target, store.targets.get tid = some target ∧ target.enabled = true

/-- A pass is safe: it leaves the fresh leases of other collectors on enabled targets untouched,
leaves leases on enabled targets only, and whatever it wrote is the collector's, stamped now. -/
structure SafePass (collectorId : CollectorId) (now stale : Time) (before after : Store) :
    Prop where
  untouched : ∀ tid row, before.leases.get tid = some row → row.collectorId ≠ collectorId →
    stale ≤ row.updatedAt → before.Enabled tid → after.leases.get tid = some row
  swept : ∀ tid row, after.leases.get tid = some row → before.Enabled tid
  stamped : ∀ tid row, after.leases.get tid = some row → before.leases.get tid ≠ some row →
    row.collectorId = collectorId ∧ row.updatedAt = now

theorem Pass.safe {collectorId : CollectorId} {now stale : Time} {before after : Store}
    (pass : Pass (getEnabledTargetIds before.targets) collectorId now stale before.leases
      after.leases) : SafePass collectorId now stale before after where
  untouched tid row held other fresh enabled := by
    obtain same | ⟨_, _, allowed⟩ := pass.effect tid (mem_getEnabledTargetIds.mpr enabled)
    · rw [same, held]
    · obtain mine | old := mayClaim_iff.mp (allowed row held)
      · exact absurd mine other
      · exact absurd old (not_lt_of_ge fresh)
  swept tid row held := by
    by_contra disabled
    have gone := pass.disabled tid fun member => disabled (mem_getEnabledTargetIds.mp member)
    exact absurd (held.symm.trans gone) (by simp)
  stamped tid row held changed := by
    by_cases member : tid ∈ getEnabledTargetIds before.targets
    · obtain same | ⟨stampText, new, _⟩ := pass.effect tid member
      · exact absurd (same.symm.trans held) changed
      · rw [Option.some.inj (held.symm.trans new)]
        exact ⟨rfl, rfl⟩
    · exact absurd (held.symm.trans (pass.disabled tid member)) (by simp)

/-! ### The fleet -/

/-- The shared store and the clock. -/
structure Fleet where
  store : Store
  clock : Time

inductive FleetEvent where
  | reconcile (collectorId : CollectorId) (mineIds : List TargetId) (cap : Int) (leaseTtl : Time)
  | claim (collectorId : CollectorId) (maxTargets : Int) (leaseTtl : Time) (delay : Nat)
  | release (collectorId : CollectorId)
  | edit (targets : Table TargetId Target)
  | advance (elapsed : Nat)

/-- One event of the fleet. A static claim reads the clock a second time after a delay. -/
def Fleet.step (fleet : Fleet) : FleetEvent → Option Fleet
  | .reconcile collectorId mineIds cap leaseTtl =>
    some { fleet with
      store := (reconcileShardLeases fleet.store collectorId mineIds cap leaseTtl fleet.clock).1 }
  | .claim collectorId maxTargets leaseTtl delay =>
    some {
      store := (claimShardTargets fleet.store collectorId maxTargets leaseTtl fleet.clock
        (fleet.clock + delay)).1
      clock := fleet.clock + delay }
  | .release collectorId => some { fleet with store := releaseShardLeases fleet.store collectorId }
  | .edit targets => some { fleet with store := { fleet.store with targets := targets } }
  | .advance elapsed => some { fleet with clock := fleet.clock + elapsed }

def fleetMachine : Machine Fleet FleetEvent := ⟨Fleet.step⟩

/-- The row of a lease as a heartbeat lease. -/
def ShardLease.toLease (row : ShardLease) : Lease CollectorId := ⟨row.collectorId, row.updatedAt⟩

/-- The lease of one target. -/
def Fleet.lease (tid : TargetId) (fleet : Fleet) : Option (Lease CollectorId) :=
  (fleet.store.leases.get tid).map ShardLease.toLease

/-- A pass takes leases whose stamp is older than its reading of the clock less the lease time. -/
def Fleet.cutoff (fleet : Fleet) : FleetEvent → Option Time
  | .reconcile _ _ _ leaseTtl => some (fleet.clock - leaseTtl)
  | .claim _ _ leaseTtl delay => some (fleet.clock + delay - leaseTtl)
  | _ => none

/-- The end of a lease that no silence explains: its holder releases it, or its target is not
enabled. -/
def Fleet.Permitted (tid : TargetId) (fleet : Fleet) (event : FleetEvent)
    (lease : Lease CollectorId) : Prop :=
  event = .release lease.holder ∨ ¬ fleet.store.Enabled tid

/-! ### Every event respects the leases -/

theorem Pass.guarded {collectorId : CollectorId} {now stale : Time} {before after : Fleet}
    {event : FleetEvent}
    (pass : Pass (getEnabledTargetIds before.store.targets) collectorId now stale
      before.store.leases after.store.leases) (tid : TargetId) :
    Lease.Guarded collectorId now (some stale) (before.Permitted tid event) (before.lease tid)
      (after.lease tid) where
  stamped lease held := by
    obtain ⟨row, found, rfl⟩ := Option.map_eq_some_iff.mp held
    by_cases same : before.store.leases.get tid = some row
    · exact Or.inl (Option.map_eq_some_iff.mpr ⟨row, same, rfl⟩)
    · obtain ⟨mine, current⟩ := pass.safe.stamped tid row found same
      exact Or.inr (by rw [ShardLease.toLease, mine, current])
  kept lease held := by
    obtain ⟨row, found, rfl⟩ := Option.map_eq_some_iff.mp held
    by_cases member : tid ∈ getEnabledTargetIds before.store.targets
    · obtain same | ⟨_, new, allowed⟩ := pass.effect tid member
      · exact Or.inl ⟨row.toLease, Option.map_eq_some_iff.mpr ⟨row, same.trans found, rfl⟩, rfl⟩
      · obtain mine | old := mayClaim_iff.mp (allowed row found)
        · exact Or.inl ⟨_, Option.map_eq_some_iff.mpr ⟨_, new, rfl⟩, mine.symm⟩
        · exact Or.inr (Or.inl ⟨stale, rfl, old⟩)
    · exact Or.inr (Or.inr (Or.inr fun enabled => member (mem_getEnabledTargetIds.mpr enabled)))

theorem release_guarded (fleet : Fleet) (collectorId : CollectorId) (tid : TargetId) :
    Lease.Guarded collectorId fleet.clock none (fleet.Permitted tid (.release collectorId))
      (fleet.lease tid)
      (Fleet.lease tid { fleet with store := releaseShardLeases fleet.store collectorId }) := by
  have after : Fleet.lease tid { fleet with store := releaseShardLeases fleet.store collectorId } =
      (fleet.lease tid).filter fun lease => decide (lease.holder ≠ collectorId) := by
    simp only [Fleet.lease, releaseShardLeases, Table.get_deleteWhere]
    cases fleet.store.leases.get tid with
    | none => rfl
    | some row =>
      by_cases mine : row.collectorId = collectorId <;>
        simp [Option.filter, ShardLease.toLease, mine]
  constructor
  · intro lease held
    rw [after] at held
    exact Or.inl (Option.eq_some_of_filter_eq_some held)
  · intro lease held
    by_cases mine : lease.holder = collectorId
    · exact Or.inr (Or.inr (Or.inl (by rw [mine])))
    · refine Or.inl ⟨lease, ?_, rfl⟩
      rw [after, held, Option.filter_some, if_pos (decide_eq_true mine)]

/-- The fleet acts on the lease of each target under the discipline of heartbeat leases. -/
def leaseDiscipline (tid : TargetId) : Lease.Discipline fleetMachine (Fleet.lease tid) where
  clock := Fleet.clock
  cutoff := Fleet.cutoff
  permitted := Fleet.Permitted tid
  forward := by
    intro fleet event next step
    cases event <;> obtain rfl := Option.some.inj step <;> simp
  guarded := by
    intro fleet event next step
    cases event <;> obtain rfl := Option.some.inj step
    case reconcile collectorId mineIds cap leaseTtl =>
      exact Or.inr ⟨collectorId, (reconcileShardLeases_pass fleet.store collectorId mineIds cap
        leaseTtl fleet.clock).guarded tid⟩
    case claim collectorId maxTargets leaseTtl delay =>
      exact Or.inr ⟨collectorId, (claimShardTargets_pass fleet.store collectorId maxTargets
        leaseTtl fleet.clock (fleet.clock + delay)).guarded tid⟩
    case release collectorId => exact Or.inr ⟨collectorId, release_guarded fleet collectorId tid⟩
    case edit => exact Or.inl rfl
    case advance => exact Or.inl rfl

/-! ### Lease safety -/

/-- A lease is lost for a reason: the step releases it for its holder, its target is not enabled,
or the step is a pass before whose cutoff lie the lease's stamp and the reading of every pass that
renewed it for its holder since the run began. -/
def Fleet.LossExplained (start : Fleet) (before : List FleetEvent) (state : Fleet)
    (event : FleetEvent) (tid : TargetId) (row : ShardLease) : Prop :=
  event = .release row.collectorId ∨ ¬ state.store.Enabled tid ∨
    ∃ stale, state.cutoff event = some stale ∧ row.updatedAt < stale ∧
      ∀ earlier renewing renewal renewed later,
        fleetMachine.StepOf start before earlier renewing renewal renewed later state →
        ∀ stamped, renewed.store.leases.get tid = some stamped →
          stamped.collectorId = row.collectorId → stamped.updatedAt = renewing.clock →
            renewing.clock < stale

/-- Lease safety. Every pass of either algorithm, by any collector over any table, leaves the
fresh leases of other collectors on enabled targets untouched, leaves leases on enabled targets
only, and stamps what it writes with its own name and the present. Over every run of the fleet, a
target's lease is lost by its holder only at a step that explains the loss. -/
theorem lease_safety :
    (∀ (store : Store) (collectorId : CollectorId) (mineIds : List TargetId) (cap : Int)
      (leaseTtl now : Time), SafePass collectorId now (now - leaseTtl) store
        (reconcileShardLeases store collectorId mineIds cap leaseTtl now).1) ∧
    (∀ (store : Store) (collectorId : CollectorId) (maxTargets : Int) (leaseTtl now later : Time),
      SafePass collectorId now (later - leaseTtl) store
        (claimShardTargets store collectorId maxTargets leaseTtl now later).1) ∧
    ∀ (start final : Fleet) (events : List FleetEvent) (tid : TargetId) (holder : CollectorId),
      fleetMachine.run start events = some final →
      (start.store.leases.get tid).map ShardLease.collectorId = some holder →
      (final.store.leases.get tid).map ShardLease.collectorId ≠ some holder →
        ∃ before state event next after row,
          fleetMachine.StepOf start events before state event next after final ∧
            state.store.leases.get tid = some row ∧ row.collectorId = holder ∧
            start.LossExplained before state event tid row := by
  refine ⟨fun store collectorId mineIds cap leaseTtl now =>
      (reconcileShardLeases_pass store collectorId mineIds cap leaseTtl now).safe,
    fun store collectorId maxTargets leaseTtl now later =>
      (claimShardTargets_pass store collectorId maxTargets leaseTtl now later).safe,
    fun start final events tid holder run held lost => ?_⟩
  obtain ⟨before, state, event, next, after, row, stepOf, found, mine, cause⟩ :=
    Lease.Discipline.row_lost_only_if (fun fleet : Fleet => fleet.store.leases.get tid)
      ShardLease.toLease (leaseDiscipline tid) run held lost
  refine ⟨before, state, event, next, after, row, stepOf, found, mine, ?_⟩
  rcases cause with (released | disabled) | ⟨stale, isCutoff, old, silent⟩
  · exact Or.inl released
  · exact Or.inr (Or.inl disabled)
  · refine Or.inr (Or.inr ⟨stale, isCutoff, old, ?_⟩)
    intro earlier renewing renewal renewed later inside stamped renewedLease own current
    refine silent earlier renewing renewal renewed later stamped inside renewedLease ?_
    rw [ShardLease.toLease, own, current]
    exact congrArg (Lease.mk · renewing.clock) mine

end Gyanam
