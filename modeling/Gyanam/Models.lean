/-
This file is the data model of the collector: the rows of the shared SQLite
store that the modelled functions read and write, under the column names of the
source.

Times are instants in microseconds, the resolution of the source's timestamps.
The store keeps a timestamp as a text and compares texts, which is the order of
the instants as long as one form is used; the leases are stamped in two forms,
see `ShardLease.isSince`. Ids of targets are the integers of the primary key;
ids of collectors are strings, in the order of their code points.
-/

import Gyanam.Lib.Table
import Mathlib.Data.String.Basic

namespace Gyanam

/-! ### Identifiers and times -/

/-- The primary key of a target. -/
abbrev TargetId := Int

/-- The id a collector runs under. -/
abbrev CollectorId := String

/-- An instant, in microseconds. -/
abbrev Time := Int

/-! ### Targets -/

/-- A target system: the columns of `targets` that the modelled functions read or write, with
the column defaults. -/
structure Target where
  name : String
  host : String
  port : Int := 443
  useSsl : Bool := true
  verifySsl : Bool := false
  telemetryEndpoint : String :=
    "/redfish/v1/Systems/UBB/LogServices/DiagLogs/Actions/LogService.CollectDiagnosticData"
  username : String
  encryptedPassword : String
  encryptedToken : Option String := none
  connectionMode : String := "direct"
  enabled : Bool := true
  pollIntervalOverride : Option Int := none
  tags : Option String := none
  metricReportsOverride : Option String := none
  metricDiscoveryMode : String := "auto"
  discoveredReports : Option String := none
  consecutiveFailures : Int := 0
  deriving DecidableEq, Repr

/-- A target with the column defaults. -/
def sampleTarget : Target where
  name := "bmc"
  host := "10.0.0.1"
  username := "root"
  encryptedPassword := "secret"

/-- A table of one enabled target. -/
def soleTarget : Table TargetId Target := Table.ofKeys [1] (by decide) fun _ => sampleTarget

/-! ### Shards -/

/-- The form of a stamp's text. A raw statement binds a whole second without a fraction; a mapped
column always has six digits of it. -/
inductive StampText where
  | raw
  | mapped
  deriving DecidableEq, Repr

/-- Which collector polls a target, and its last heartbeat. -/
structure ShardLease where
  collectorId : CollectorId
  updatedAt : Time
  stampText : StampText
  deriving DecidableEq, Repr

/-- `updated_at >= stale` where `stale` is bound by a mapped column. Of two texts of one instant
the mapped one is the later when the instant is a whole second, since the raw one is its
beginning. -/
def ShardLease.isSince (row : ShardLease) (stale : Time) : Bool :=
  decide (stale < row.updatedAt) || (decide (stale = row.updatedAt) &&
    (decide (row.stampText = .mapped) || decide (stale % 1000000 ≠ 0)))

/-- The process that holds a stable ordinal, and its last heartbeat. -/
structure CollectorSlot where
  token : String
  updatedAt : Time
  deriving DecidableEq, Repr

/-- The table of slots by ordinal. The token is unique in it. -/
structure Slots where
  table : Table Nat CollectorSlot := Table.empty
  unique : ∀ {first second : Nat} {row other : CollectorSlot}, table.get first = some row →
    table.get second = some other → row.token = other.token → first = second := by simp

/-- The health snapshot a collector publishes. Its freshness is the membership heartbeat. -/
structure CollectorStats where
  data : String := "{}"
  ownedTargets : Int := 0
  updatedAt : Time
  deriving DecidableEq, Repr

/-- The heatmap values a collector publishes for one metric. -/
structure HeatmapSnapshot where
  data : String := "{}"
  updatedAt : Time
  deriving DecidableEq, Repr

/-- The tables of the shared store. -/
structure Store where
  targets : Table TargetId Target := Table.empty
  leases : Table TargetId ShardLease := Table.empty
  slots : Slots := {}
  stats : Table CollectorId CollectorStats := Table.empty
  heatmaps : Table (CollectorId × String) HeatmapSnapshot := Table.empty

/-- A store of targets only. -/
def Store.ofTargets (targets : Table TargetId Target) : Store where
  targets := targets

end Gyanam
