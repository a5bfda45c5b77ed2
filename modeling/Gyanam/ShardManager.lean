/-
This file models one pass of the shard manager in the dynamic mode. The pass
renews the process's ordinal and ends the process if the ordinal is lost; reads
the live collectors off the published stats, itself included; computes its slice
of the allocation under the fair share; and reconciles the lease table with it.

`reconcileDynamic_spec` says what a completed pass does to the store in terms of
the allocator and the reconciliation, so that later results use it and never
unfold the pass.
-/

import Gyanam.Leases
import Gyanam.Lib.Json
import Gyanam.ShardAlloc
import Gyanam.Slots

namespace Gyanam

/-! ### Configuration -/

inductive Balance where
  | static
  | dynamic
  deriving DecidableEq, Repr

/-- The sharding configuration, with what its validation guarantees. Durations are in
microseconds. -/
structure ShardConfig where
  enabled : Bool := false
  balance : Balance := .dynamic
  maxTargetsPerShard : Int := 200
  claimInterval : Time := 20000000
  leaseTtl : Time := 75000000
  membershipTtl : Time := 75000000
  maxPositive : 0 < maxTargetsPerShard := by decide
  intervalPositive : 0 < claimInterval := by decide
  leaseMargin : 2 * claimInterval ≤ leaseTtl := by decide
  membershipMargin : 2 * claimInterval ≤ membershipTtl := by decide
  membershipWithin : membershipTtl ≤ leaseTtl := by decide

/-! ### Published stats -/

/-- What ends a pass early: the process exits because its ordinal is lost, or an exception. -/
inductive PassError where
  | identityLost
  | recursion
  | type
  deriving DecidableEq, Repr

/-- A number in decimal, padded with zeros. -/
def padded (width : Nat) (value : Nat) : String :=
  String.ofList (List.replicate (width - (toString value).length) '0') ++ toString value

/-- The ISO text of an instant: its civil date, its time of day, and its microseconds when there
are any. -/
def isoformat (instant : Time) : String :=
  let days := instant / 86400000000 + 719468
  let era := days / 146097
  let dayOfEra := days % 146097
  let yearOfEra := (dayOfEra - dayOfEra / 1460 + dayOfEra / 36524 - dayOfEra / 146096) / 365
  let dayOfYear := dayOfEra - (365 * yearOfEra + yearOfEra / 4 - yearOfEra / 100)
  let shifted := (5 * dayOfYear + 2) / 153
  let day := dayOfYear - (153 * shifted + 2) / 5 + 1
  let month := if shifted < 10 then shifted + 3 else shifted - 9
  let year := yearOfEra + era * 400 + if month ≤ 2 then 1 else 0
  let micros := instant % 86400000000
  let seconds := micros / 1000000
  let fraction := micros % 1000000
  padded 4 year.toNat ++ "-" ++ padded 2 month.toNat ++ "-" ++ padded 2 day.toNat ++ "T" ++
    padded 2 (seconds / 3600).toNat ++ ":" ++ padded 2 (seconds / 60 % 60).toNat ++ ":" ++
    padded 2 (seconds % 60).toNat ++
    if fraction = 0 then "" else "." ++ padded 6 fraction.toNat

/-- One row of published stats as a dictionary: the columns, overridden by the published members.
A text that is not JSON counts as no members. -/
def statsRow (recursionLimit : Nat) (collectorId : CollectorId) (row : CollectorStats) :
    Except PassError (List (Json.Text × Json)) :=
  let columns := [
    (Json.text "collector_id", Json.string (Json.text collectorId)),
    (Json.text "owned_targets", Json.int row.ownedTargets),
    (Json.text "updated_at", Json.string (Json.text (isoformat row.updatedAt)))]
  match Json.loads recursionLimit (Json.text row.data) with
  | .ok (.object members) =>
    .ok (members.foldl (fun merged member => Json.setMember merged member.1 member.2) columns)
  | .ok _ => .error .type
  | .error .recursion => .error .recursion
  | .error _ => .ok columns

/-- The fresh rows of published stats. -/
def getCollectorStats (recursionLimit : Nat) (store : Store) (maxAge now : Time) :
    Except PassError (List (List (Json.Text × Json))) :=
  (store.stats.rows.filter fun entry => decide (now - maxAge ≤ entry.2.updatedAt)).mapM
    fun entry => statsRow recursionLimit entry.1 entry.2

/-- A text as an id, if it has no lone surrogates. -/
def textToId (chars : Json.Text) : Option CollectorId :=
  (chars.mapM fun point =>
    if 0xD800 ≤ point.val ∧ point.val < 0xE000 then none else some (Char.ofNat point.val)).map
    String.ofList

/-- The collector id of a row. The ids are sorted as strings. -/
def rowCollectorId (row : List (Json.Text × Json)) : Except PassError CollectorId :=
  match Json.getMember row (Json.text "collector_id") with
  | some (.string chars) =>
    match textToId chars with
    | some collectorId => .ok collectorId
    | none => .error .type
  | _ => .error .type

/-! ### The pass -/

/-- The loop of one collector. -/
structure ShardManager where
  id : CollectorId
  cfg : ShardConfig := {}
  slotToken : Option String := none
  slotOrdinal : Option Nat := none
  underProvisioned : Bool := false

/-- The clock readings of one pass, in the order they are taken. -/
structure Readings where
  slotStamp : Time
  slotCutoff : Time
  stats : Time
  lease : Time

/-- Renew the process's ordinal; whether it is still held. A failing transaction is no loss. -/
def ShardManager.renewSlot (manager : ShardManager) (slots : Slots) (readings : Readings) :
    Slots × Bool :=
  match manager.slotToken, manager.slotOrdinal with
  | some token, some ordinal =>
    match renewCollectorSlot slots token ordinal manager.cfg.leaseTtl readings.slotStamp
      readings.slotCutoff with
    | .ok result => result
    | .error _ => (slots, true)
  | _, _ => (slots, true)

/-- The live collectors: those with fresh stats, and the collector itself, sorted. -/
def ShardManager.liveCollectors (recursionLimit : Nat) (manager : ShardManager) (store : Store)
    (now : Time) : Except PassError (List CollectorId) := do
  let rows ← getCollectorStats recursionLimit store manager.cfg.membershipTtl now
  let published ← rows.mapM rowCollectorId
  return SortedList.distinct (published ++ [manager.id])

/-- Whether the fair share exceeds the safety ceiling. -/
def isUnderProvisioned (nTargets nLive maxPerShard : Int) : Bool :=
  decide (maxPerShard < ceilDiv nTargets (max 1 nLive))

/-- One dynamic pass: the store after it, and the manager and its number of leases if the pass
completes. -/
def ShardManager.reconcileDynamic (score : Score) (recursionLimit : Nat) (manager : ShardManager)
    (store : Store) (readings : Readings) : Store × Except PassError (ShardManager × Int) :=
  let (slots, held) := manager.renewSlot store.slots readings
  let renewed := { store with slots := slots }
  if held = false then (renewed, .error .identityLost)
  else match manager.liveCollectors recursionLimit renewed readings.stats with
    | .error error => (renewed, .error error)
    | .ok live =>
      let targetIds := getEnabledTargetIds renewed.targets
      let cap := effectiveCap targetIds.length live.length manager.cfg.maxTargetsPerShard
      let mine := slice (allocate score targetIds live cap) manager.id
      let (reconciled, owned) := reconcileShardLeases renewed manager.id mine cap
        manager.cfg.leaseTtl readings.lease
      (reconciled, .ok ({ manager with
        underProvisioned := isUnderProvisioned targetIds.length live.length
          manager.cfg.maxTargetsPerShard }, owned))

/-! ### What a completed pass does -/

/-- A completed pass found the live collectors and reconciled the leases with its slice of the
allocation among them; it leaves the targets and the stats as they are. -/
theorem ShardManager.reconcileDynamic_spec {score : Score} {recursionLimit : Nat}
    {manager manager' : ShardManager} {store store' : Store} {readings : Readings} {owned : Int}
    (completed : manager.reconcileDynamic score recursionLimit store readings =
      (store', .ok (manager', owned))) :
    ∃ live, manager.liveCollectors recursionLimit store readings.stats = .ok live ∧
      store'.targets = store.targets ∧ store'.stats = store.stats ∧
      store'.leases = (reconcileShardLeases store manager.id
        (slice (allocate score (getEnabledTargetIds store.targets) live
          (effectiveCap (getEnabledTargetIds store.targets).length live.length
            manager.cfg.maxTargetsPerShard)) manager.id)
        (effectiveCap (getEnabledTargetIds store.targets).length live.length
          manager.cfg.maxTargetsPerShard)
        manager.cfg.leaseTtl readings.lease).1.leases := by
  rw [ShardManager.reconcileDynamic] at completed
  dsimp only at completed
  split at completed
  · simp at completed
  · split at completed
    · simp at completed
    · next live found =>
      obtain ⟨rfl, _⟩ := Prod.mk.inj completed
      exact ⟨live, found, rfl, rfl, rfl⟩

end Gyanam
