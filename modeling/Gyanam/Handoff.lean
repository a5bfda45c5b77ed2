/-
This file is about the handoff of a target between two live collectors. A fleet
runs on a schedule: every live collector reconciles at least once in every claim
interval, with its slice of the allocation over the live set all agree on, and
the clock does not pass the moment a live collector is due.

The handoff is lazy: a collector that loses a target from its slice stops
renewing the lease, keeps polling until the lease is stale, and only then may
the new collector claim it, at its own next pass. From the expiry to that pass
nobody polls the target. The file shows such a run, and that the handoff leaves
no gap in every run in which no lease is left to expire before its holder's next
pass is due.
-/

import Gyanam.Realisation

namespace Gyanam

/-! ### The schedule -/

/-- The store, the clock, the live collectors, and when each last reconciled. -/
structure HandoffFleet where
  store : Store
  clock : Time
  live : List CollectorId
  lastPass : CollectorId → Time

inductive HandoffEvent where
  | pass (collectorId : CollectorId) (cap : Int)
  | join (collectorId : CollectorId)
  | leave (collectorId : CollectorId)
  | advance (elapsed : Nat)

namespace HandoffFleet

variable (score : Score) (cfg : ShardConfig)

/-- The slice of a collector over the live set. -/
def mine (fleet : HandoffFleet) (collectorId : CollectorId) (cap : Int) : List TargetId :=
  slice (allocate score (getEnabledTargetIds fleet.store.targets) fleet.live cap) collectorId

/-- One event. A live collector passes with a cap that leaves a place for every target; one that
joins is due an interval later; one that leaves releases its leases; and time does not pass the
moment a live collector is due. -/
def step (fleet : HandoffFleet) : HandoffEvent → Option HandoffFleet
  | .pass collectorId cap =>
    if collectorId ∈ fleet.live ∧
        ((getEnabledTargetIds fleet.store.targets).length : Int) ≤
          fleet.live.toFinset.card * cap then
      some { fleet with
        store := (reconcileShardLeases fleet.store collectorId (fleet.mine score collectorId cap)
          cap cfg.leaseTtl fleet.clock).1
        lastPass := Function.update fleet.lastPass collectorId fleet.clock }
    else none
  | .join collectorId =>
    if collectorId ∈ fleet.live then none
    else some { fleet with
      live := fleet.live ++ [collectorId]
      lastPass := Function.update fleet.lastPass collectorId fleet.clock }
  | .leave collectorId =>
    some { fleet with
      store := releaseShardLeases fleet.store collectorId
      live := fleet.live.filter fun cid => decide (cid ≠ collectorId) }
  | .advance elapsed =>
    if ∀ cid ∈ fleet.live, fleet.clock + elapsed ≤ fleet.lastPass cid + cfg.claimInterval then
      some { fleet with clock := fleet.clock + elapsed }
    else none

/-- A collector with a fresh lease on the target. -/
def holder (fleet : HandoffFleet) (tid : TargetId) : Option CollectorId :=
  freshHolder fleet.store.leases (fleet.clock - cfg.leaseTtl) tid

/-- Some live collector polls the target. -/
def Covered (fleet : HandoffFleet) (tid : TargetId) : Prop :=
  ∃ cid ∈ fleet.live,
    tid ∈ (getOwnedTargets fleet.store cid cfg.leaseTtl fleet.clock).map Prod.fst

instance (fleet : HandoffFleet) (tid : TargetId) : Decidable (fleet.Covered cfg tid) := by
  unfold Covered
  infer_instance

/-- The fresh leases of a collector that are no longer seen when its next pass is due. -/
def expiring (fleet : HandoffFleet) (collectorId : CollectorId) : List TargetId :=
  (getEnabledTargetIds fleet.store.targets).filter fun tid =>
    (fleet.store.leases.get tid).any fun row =>
      decide (row.collectorId = collectorId ∧ fleet.clock - cfg.leaseTtl ≤ row.updatedAt) &&
        !row.isSince (fleet.clock + cfg.claimInterval - cfg.leaseTtl)

/-- A step lets no lease lapse: a pass keeps in its slice what expires before the next one is due,
and a collector leaves only when it holds no fresh lease. -/
def LetsNothingLapse (fleet : HandoffFleet) : HandoffEvent → Prop
  | .pass collectorId cap =>
    ∀ tid ∈ fleet.expiring cfg collectorId, tid ∈ fleet.mine score collectorId cap
  | .leave collectorId =>
    ∀ tid ∈ getEnabledTargetIds fleet.store.targets, fleet.holder cfg tid ≠ some collectorId
  | _ => True

instance (fleet : HandoffFleet) (event : HandoffEvent) :
    Decidable (fleet.LetsNothingLapse score cfg event) := by
  cases event <;> unfold LetsNothingLapse <;> infer_instance

end HandoffFleet

def handoffMachine (score : Score) (cfg : ShardConfig) : Machine HandoffFleet HandoffEvent :=
  ⟨HandoffFleet.step score cfg⟩

/-- A fleet as it opens, every collector due an interval later. -/
def HandoffFleet.opening (store : Store) (clock : Time) (live : List CollectorId) :
    HandoffFleet :=
  ⟨store, clock, live, fun _ => clock⟩

/-! ### What keeps a lease from lapsing -/

theorem mem_getOwnedTargets {store : Store} {collectorId : CollectorId} {leaseTtl now : Time}
    {tid : TargetId} :
    tid ∈ (getOwnedTargets store collectorId leaseTtl now).map Prod.fst ↔
      store.Enabled tid ∧ ∃ row, store.leases.get tid = some row ∧
        row.collectorId = collectorId ∧ row.isSince (now - leaseTtl) = true := by
  have seen : ((store.leases.get tid).any fun row => decide (row.collectorId = collectorId) &&
      row.isSince (now - leaseTtl)) = true ↔ ∃ row, store.leases.get tid = some row ∧
        row.collectorId = collectorId ∧ row.isSince (now - leaseTtl) = true := by
    cases store.leases.get tid <;> simp
  simp only [← seen, Store.Enabled, List.mem_map, getOwnedTargets, List.mem_filter,
    Bool.not_true, Bool.false_or, Bool.and_eq_true, Prod.exists]
  constructor
  · rintro ⟨_, target, ⟨listed, held, enabled⟩, rfl⟩
    exact ⟨⟨target, Table.get_eq_some_iff.mpr listed, enabled⟩, held⟩
  · rintro ⟨⟨target, found, enabled⟩, held⟩
    exact ⟨tid, target, ⟨Table.get_eq_some_iff.mp found, held, enabled⟩, rfl⟩

namespace HandoffFleet

variable {score : Score} {cfg : ShardConfig}

/-- A lease is a live collector's, and is seen now and when the collector's next pass is due. -/
def Holds (cfg : ShardConfig) (fleet : HandoffFleet) (row : ShardLease) : Prop :=
  row.collectorId ∈ fleet.live ∧ row.isSince (fleet.clock - cfg.leaseTtl) = true ∧
    row.isSince (fleet.lastPass row.collectorId + cfg.claimInterval - cfg.leaseTtl) = true

/-- Every fresh lease on an enabled target holds until its collector's next pass is due. -/
def Secured (cfg : ShardConfig) (fleet : HandoffFleet) : Prop :=
  ∀ tid ∈ getEnabledTargetIds fleet.store.targets, ∀ row,
    fleet.store.leases.get tid = some row → fleet.clock - cfg.leaseTtl ≤ row.updatedAt →
      fleet.Holds cfg row

/-- An enabled target with a fresh lease. -/
def Fresh (cfg : ShardConfig) (tid : TargetId) (fleet : HandoffFleet) : Prop :=
  tid ∈ getEnabledTargetIds fleet.store.targets ∧ (fleet.holder cfg tid).isSome = true

instance (tid : TargetId) (fleet : HandoffFleet) : Decidable (fleet.Fresh cfg tid) := by
  unfold Fresh
  infer_instance

theorem fresh_iff {fleet : HandoffFleet} {tid : TargetId} :
    fleet.Fresh cfg tid ↔ tid ∈ getEnabledTargetIds fleet.store.targets ∧
      ∃ row, fleet.store.leases.get tid = some row ∧
        fleet.clock - cfg.leaseTtl ≤ row.updatedAt := by
  rw [Fresh, holder, Option.isSome_iff_exists]
  simp only [freshHolder_eq_some]
  constructor
  · rintro ⟨isEnabled, _, row, held, _, fresh⟩
    exact ⟨isEnabled, row, held, fresh⟩
  · rintro ⟨isEnabled, row, held, fresh⟩
    exact ⟨isEnabled, row.collectorId, row, held, rfl, fresh⟩

theorem interval_lt_leaseTtl (cfg : ShardConfig) : cfg.claimInterval < cfg.leaseTtl := by
  have positive := cfg.intervalPositive
  have margin := cfg.leaseMargin
  linarith

theorem mem_expiring {fleet : HandoffFleet} {collectorId : CollectorId} {tid : TargetId} :
    tid ∈ fleet.expiring cfg collectorId ↔ tid ∈ getEnabledTargetIds fleet.store.targets ∧
      ∃ row, fleet.store.leases.get tid = some row ∧ row.collectorId = collectorId ∧
        fleet.clock - cfg.leaseTtl ≤ row.updatedAt ∧
        row.isSince (fleet.clock + cfg.claimInterval - cfg.leaseTtl) = false := by
  rw [expiring, List.mem_filter]
  cases fleet.store.leases.get tid <;> simp [and_assoc]

/-- What a collector stamps now holds until its next pass is due. -/
theorem holds_of_stamped {fleet : HandoffFleet} {row : ShardLease}
    (live : row.collectorId ∈ fleet.live) (current : row.updatedAt = fleet.clock)
    (passed : fleet.lastPass row.collectorId = fleet.clock) : fleet.Holds cfg row := by
  have positive := cfg.intervalPositive
  have short := interval_lt_leaseTtl cfg
  refine ⟨live, ShardLease.isSince_of_lt ?_, ShardLease.isSince_of_lt ?_⟩
  · rw [current]
    linarith
  · rw [current, passed]
    linarith

/-- A pass secures what it stamps, and it leaves unstamped only what its collector has time to
renew. -/
theorem Secured.pass {fleet : HandoffFleet} (secured : fleet.Secured cfg)
    {collectorId : CollectorId} {cap : Int} (live : collectorId ∈ fleet.live)
    (lapses : fleet.LetsNothingLapse score cfg (.pass collectorId cap)) :
    Secured cfg { fleet with
      store := (reconcileShardLeases fleet.store collectorId (fleet.mine score collectorId cap)
        cap cfg.leaseTtl fleet.clock).1
      lastPass := Function.update fleet.lastPass collectorId fleet.clock } := by
  intro tid isEnabled row found fresh
  dsimp only at found fresh
  have stamped : row.collectorId = collectorId → row.updatedAt = fleet.clock →
      Holds cfg { fleet with
        store := (reconcileShardLeases fleet.store collectorId (fleet.mine score collectorId cap)
          cap cfg.leaseTtl fleet.clock).1
        lastPass := Function.update fleet.lastPass collectorId fleet.clock } row := by
    rintro rfl current
    exact holds_of_stamped live current (Function.update_self _ _ _)
  by_cases same : fleet.store.leases.get tid = some row
  · obtain ⟨holderLive, seen, due⟩ := secured tid isEnabled row same fresh
    by_cases own : row.collectorId = collectorId
    · by_cases inSlice : tid ∈ fleet.mine score collectorId cap
      · have renewed := get_reconcile_of_mine fleet.store cap cfg.leaseTtl fleet.clock isEnabled
          inSlice same own
        have isNew := Option.some.inj (found.symm.trans renewed)
        exact stamped own (congrArg ShardLease.updatedAt isNew)
      · refine ⟨holderLive, seen, ?_⟩
        dsimp only
        rw [own, Function.update_self]
        by_contra late
        exact inSlice (lapses tid (mem_expiring.mpr
          ⟨isEnabled, row, same, own, fresh, Bool.eq_false_iff.mpr late⟩))
    · refine ⟨holderLive, seen, ?_⟩
      dsimp only
      rw [Function.update_of_ne own]
      exact due
  · obtain ⟨own, current⟩ := (reconcileShardLeases_pass fleet.store collectorId _ cap cfg.leaseTtl
      fleet.clock).safe.stamped tid row found same
    exact stamped own current

/-- Every event that lets nothing lapse keeps the fresh leases secured. -/
theorem Secured.step {fleet next : HandoffFleet} {event : HandoffEvent}
    (secured : fleet.Secured cfg) (lapses : fleet.LetsNothingLapse score cfg event)
    (step : fleet.step score cfg event = some next) : next.Secured cfg := by
  cases event with
  | pass collectorId cap =>
    obtain ⟨⟨live, _⟩, same⟩ := Option.ite_none_right_eq_some.mp step
    rw [← Option.some.inj same]
    exact secured.pass live lapses
  | join collectorId =>
    obtain ⟨absent, same⟩ := Option.ite_none_left_eq_some.mp step
    rw [← Option.some.inj same]
    intro tid isEnabled row found fresh
    obtain ⟨holderLive, seen, due⟩ := secured tid isEnabled row found fresh
    have older : row.collectorId ≠ collectorId := fun own => absent (own ▸ holderLive)
    refine ⟨List.mem_append_left _ holderLive, seen, ?_⟩
    dsimp only
    rw [Function.update_of_ne older]
    exact due
  | leave collectorId =>
    rw [← Option.some.inj step]
    intro tid isEnabled row found fresh
    obtain ⟨held, other⟩ := get_releaseShardLeases_eq_some.mp found
    obtain ⟨holderLive, seen, due⟩ := secured tid isEnabled row held fresh
    exact ⟨List.mem_filter.mpr ⟨holderLive, decide_eq_true other⟩, seen, due⟩
  | advance elapsed =>
    obtain ⟨notPastDue, same⟩ := Option.ite_none_right_eq_some.mp step
    rw [← Option.some.inj same]
    intro tid isEnabled row found fresh
    dsimp only at fresh
    have freshBefore : fleet.clock - cfg.leaseTtl ≤ row.updatedAt := by linarith
    obtain ⟨holderLive, _, due⟩ := secured tid isEnabled row found freshBefore
    have inTime := notPastDue row.collectorId holderLive
    exact ⟨holderLive, ShardLease.isSince_anti (by linarith) due, due⟩

/-- Every event that lets nothing lapse keeps a fresh lease fresh, once all are secured. -/
theorem Fresh.step {fleet next : HandoffFleet} {event : HandoffEvent} {tid : TargetId}
    (secured : fleet.Secured cfg) (isFresh : fleet.Fresh cfg tid)
    (lapses : fleet.LetsNothingLapse score cfg event)
    (step : fleet.step score cfg event = some next) : next.Fresh cfg tid := by
  obtain ⟨isEnabled, row, held, fresh⟩ := fresh_iff.mp isFresh
  rw [fresh_iff]
  cases event with
  | pass collectorId cap =>
    obtain ⟨_, same⟩ := Option.ite_none_right_eq_some.mp step
    rw [← Option.some.inj same]
    refine ⟨isEnabled, ?_⟩
    obtain kept | ⟨_, new, _⟩ := (reconcileShardLeases_pass fleet.store collectorId
      (fleet.mine score collectorId cap) cap cfg.leaseTtl fleet.clock).effect tid isEnabled
    · exact ⟨row, kept.trans held, fresh⟩
    · refine ⟨_, new, ?_⟩
      have positive := cfg.intervalPositive
      have short := interval_lt_leaseTtl cfg
      show fleet.clock - cfg.leaseTtl ≤ fleet.clock
      linarith
  | join collectorId =>
    obtain ⟨_, same⟩ := Option.ite_none_left_eq_some.mp step
    rw [← Option.some.inj same]
    exact ⟨isEnabled, row, held, fresh⟩
  | leave collectorId =>
    rw [← Option.some.inj step]
    refine ⟨isEnabled, row, get_releaseShardLeases_eq_some.mpr ⟨held, fun own => ?_⟩, fresh⟩
    exact lapses tid isEnabled (freshHolder_eq_some.mpr ⟨row, held, own, fresh⟩)
  | advance elapsed =>
    obtain ⟨notPastDue, same⟩ := Option.ite_none_right_eq_some.mp step
    rw [← Option.some.inj same]
    refine ⟨isEnabled, row, held, ?_⟩
    obtain ⟨holderLive, _, due⟩ := secured tid isEnabled row held fresh
    have inTime := notPastDue row.collectorId holderLive
    have seenDue := ShardLease.le_of_isSince due
    show fleet.clock + elapsed - cfg.leaseTtl ≤ row.updatedAt
    linarith

/-- A target with a secured fresh lease is polled. -/
theorem Secured.covered {fleet : HandoffFleet} {tid : TargetId} (secured : fleet.Secured cfg)
    (isFresh : fleet.Fresh cfg tid) : fleet.Covered cfg tid := by
  obtain ⟨isEnabled, row, held, fresh⟩ := fresh_iff.mp isFresh
  obtain ⟨holderLive, seen, _⟩ := secured tid isEnabled row held fresh
  refine ⟨row.collectorId, holderLive, ?_⟩
  rw [mem_getOwnedTargets]
  exact ⟨mem_getEnabledTargetIds.mp isEnabled, row, held, rfl, seen⟩

end HandoffFleet

/-! ### The handoff -/

open HandoffFleet in
/-- In every run whose steps let nothing lapse, a target that has a fresh lease is polled at every
later instant. The run opens with every fresh lease secured, as when there are none. -/
theorem handoff_gap_free (score : Score) (cfg : ShardConfig) {before after : List HandoffEvent}
    {start middle final : HandoffFleet} {tid : TargetId} (secured : start.Secured cfg)
    (throughout : (handoffMachine score cfg).Throughout (LetsNothingLapse score cfg) start
      (before ++ after))
    (reached : (handoffMachine score cfg).run start before = some middle)
    (fresh : middle.Fresh cfg tid)
    (run : (handoffMachine score cfg).run middle after = some final) :
    final.Covered cfg tid := by
  obtain ⟨early, late⟩ := (handoffMachine score cfg).throughout_append throughout reached
  have middleSecured : middle.Secured cfg :=
    (handoffMachine score cfg).run_keeps Secured.step secured early reached
  have keeps : ∀ {state : HandoffFleet} {event next}, state.Secured cfg ∧ state.Fresh cfg tid →
      state.LetsNothingLapse score cfg event → state.step score cfg event = some next →
        next.Secured cfg ∧ next.Fresh cfg tid :=
    fun both lapses step => ⟨both.1.step lapses step, both.2.step both.1 lapses step⟩
  have kept := (handoffMachine score cfg).run_keeps keeps ⟨middleSecured, fresh⟩ late run
  exact kept.1.covered kept.2

/-- A fleet of one target and one collector, before its first pass. -/
def soleFleet (collectorId : CollectorId) : HandoffFleet :=
  .opening (.ofTargets soleTarget) 0 [collectorId]

theorem soleFleet_secured (collectorId : CollectorId) : (soleFleet collectorId).Secured {} := by
  intro tid _ row found
  exact absurd found (by simp [soleFleet, HandoffFleet.opening, Store.ofTargets])

/-- A second collector joins, and the allocation leaves the target where it is. -/
def keptHandoff : List HandoffEvent :=
  [.advance 20000000, .join "collector-1", .pass "collector-0" 1, .pass "collector-1" 1,
    .advance 20000000]

/-- A second collector joins, and the allocation gives it the target. The first sheds the target
at its next pass, and both pass every twenty seconds. -/
def shedHandoff : List HandoffEvent :=
  [.advance 20000000, .pass "collector-1" 1, .join "collector-0", .pass "collector-0" 1,
    .advance 20000000, .pass "collector-1" 1, .pass "collector-0" 1,
    .advance 20000000, .pass "collector-1" 1, .pass "collector-0" 1,
    .advance 20000000, .pass "collector-1" 1, .pass "collector-0" 1, .advance 16000000]

open HandoffFleet in
set_option maxRecDepth 8000 in
/-- In the handoff that leaves the target where it is, it is polled to the end. -/
theorem keptHandoff_covered : ∃ middle final,
    (handoffMachine sampleScore {}).run (soleFleet "collector-0") [.pass "collector-0" 1] =
      some middle ∧
    (handoffMachine sampleScore {}).run middle keptHandoff = some final ∧
    final.Covered {} 1 := by
  have opened : ((handoffMachine sampleScore {}).run (soleFleet "collector-0")
      [.pass "collector-0" 1]).any (fun fleet => decide (fleet.Fresh {} 1)) = true := by decide
  have completed : ((handoffMachine sampleScore {}).run (soleFleet "collector-0")
      ([.pass "collector-0" 1] ++ keptHandoff)).any (fun _ => true) = true := by decide
  obtain ⟨middle, reached, fresh⟩ := (handoffMachine sampleScore {}).exists_of_any opened
  obtain ⟨final, wholeRun, _⟩ := (handoffMachine sampleScore {}).exists_of_any completed
  obtain ⟨other, sameReached, run⟩ := (handoffMachine sampleScore {}).run_append.mp wholeRun
  rw [← Option.some.inj (reached.symm.trans sameReached)] at run
  exact ⟨middle, final, reached, run, handoff_gap_free sampleScore {} (soleFleet_secured _)
    (by decide) reached (of_decide_eq_true fresh) run⟩

open HandoffFleet in
set_option maxRecDepth 8000 in
/-- In the handoff that sheds the target, there is an instant at which nobody polls it, although
no collector leaves: its lease has lapsed, and the collector that the allocation now prefers may
not take it before its own next pass. -/
theorem shedHandoff_gap :
    ¬ ∀ (score : Score) (cfg : ShardConfig) (before after : List HandoffEvent)
      (start middle final : HandoffFleet) (tid : TargetId), start.Secured cfg →
      (∀ cid, HandoffEvent.leave cid ∉ before ++ after) →
      (handoffMachine score cfg).run start before = some middle → middle.Fresh cfg tid →
      (handoffMachine score cfg).run middle after = some final → final.Covered cfg tid := by
  intro claimed
  have opened : ((handoffMachine sampleScore {}).run (soleFleet "collector-1")
      [.pass "collector-1" 1]).any (fun fleet => decide (fleet.Fresh {} 1)) = true := by decide
  have completed : ((handoffMachine sampleScore {}).run (soleFleet "collector-1")
      ([.pass "collector-1" 1] ++ shedHandoff)).any
        (fun fleet => decide ¬ fleet.Covered {} 1) = true := by decide
  obtain ⟨middle, reached, fresh⟩ := (handoffMachine sampleScore {}).exists_of_any opened
  obtain ⟨final, wholeRun, gap⟩ := (handoffMachine sampleScore {}).exists_of_any completed
  obtain ⟨other, sameReached, run⟩ := (handoffMachine sampleScore {}).run_append.mp wholeRun
  rw [← Option.some.inj (reached.symm.trans sameReached)] at run
  exact of_decide_eq_true gap (claimed sampleScore {} _ _ _ middle final 1 (soleFleet_secured _)
    (by simp [shedHandoff]) reached (of_decide_eq_true fresh) run)

end Gyanam
