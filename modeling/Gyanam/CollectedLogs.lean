/-
This file models the collected diagnostic logs: the policy engine that answers
an alert with a collection, the collectors that carry collections out, and the
records and bundle files they share.

Every process has a collector with locks of its own, on one store and one
directory. A policy collection reads the time of the last one, compares it with
the clock, looks its target up and starts, one after the other. A collection
creates its record, downloads, stores the bundle, marks the record completed,
and then selects, deletes and unlinks what it supersedes. Anything may happen in
between, and which calls raise is for the run to say.
-/

import Gyanam.Alerts
import Gyanam.Lib.Machine
import Gyanam.Models

namespace Gyanam

open Json (Text)

/-! ### The policy -/

/-- The modes of the policy service. Any other text acts as `alertOnly`. -/
inductive OperatingMode where
  | disabled
  | alertOnly
  | enabled
  deriving DecidableEq, Repr

/-- Automated diagnostic-log-collection policy. -/
structure PolicyConfig where
  enabled : Bool := true
  operatingMode : OperatingMode := .enabled
  rearmSeconds : Nat := 7200
  triggerSeverities : List Text := [Json.text "Critical", Json.text "Fatal"]
  triggerMessageIds : List Text := []

namespace PolicyConfig

variable (config : PolicyConfig)

/-- The rearm window, in microseconds. -/
def window : Time := 1000000 * config.rearmSeconds

def severityMatches (casefold : Text → Text) (alert : AlertEvent) : Bool :=
  config.triggerSeverities.any fun severity => decide (casefold severity = casefold alert.severity)

/-- Without an allow-list any message id matches. One that cannot be hashed raises, which also comes
to no collection. -/
def messageIdMatches (alert : AlertEvent) : Bool :=
  config.triggerMessageIds.isEmpty ||
    (match spelled alert.messageId with
      | .ok messageId => config.triggerMessageIds.any fun allowed => decide (allowed = messageId)
      | .error _ => false)

/-- The policy looks into an alert. -/
def considers (casefold : Text → Text) (alert : AlertEvent) : Bool :=
  config.enabled && decide (config.operatingMode ≠ .disabled) &&
    config.severityMatches casefold alert && config.messageIdMatches alert

/-- A policy collection for this target is within the rearm window. The elapsed seconds are a float,
which compares as the microseconds do for windows below 2^33 seconds. -/
def rearmActive (last : Option Time) (now : Time) : Bool :=
  last.any fun last => decide (now - last < config.window)

end PolicyConfig

/-! ### Records and files -/

/-- What initiated a collection. -/
inductive LogTrigger where
  | manual
  | policy
  | bulk
  deriving DecidableEq, Repr

/-- How far the collection of a record is. -/
inductive LogStatus where
  | collecting
  | completed
  | failed
  deriving DecidableEq, Repr

/-- A text with every run of underscores collapsed into one. -/
def collapseUnderscores : List Char → List Char
  | [] => []
  | char :: rest =>
    if char = '_' ∧ rest.head? = some '_' then collapseUnderscores rest
    else char :: collapseUnderscores rest

/-- Sanitize a string for use as a filename component. -/
def sanitizeFilename (name : String) : String :=
  let replaced := name.toList.map fun char =>
    if char.isAlphanum || char = '.' || char = '-' then char else '_'
  let stripped := ((collapseUnderscores replaced).dropWhile (· = '_')).reverse.dropWhile (· = '_')
  if stripped.isEmpty then "target" else String.ofList stripped.reverse

/-- The file of a bundle. Its name is made of the sanitized name of the target and the time of the
start to the microsecond, which has a fixed width. -/
structure BundleFile where
  safeName : String
  startedAt : Time
  deriving DecidableEq, Repr

/-- The primary key of a record. -/
abbrev LogId := Nat

/-- Record of a collected diagnostic log bundle: the columns that the modelled statements read. -/
structure CollectedLog where
  targetId : TargetId
  file : BundleFile
  status : LogStatus
  trigger : LogTrigger
  collectedAt : Time
  deriving DecidableEq, Repr

/-- The current time of the store, in whole seconds. -/
def wholeSeconds (now : Time) : Time := now / 1000000 * 1000000

/-- Most recent policy-triggered collection time for a target, failed ones apart. -/
def lastPolicyCollectionTime (logs : Table LogId CollectedLog) (targetId : TargetId) :
    Option Time :=
  ((logs.rows.map Prod.snd).filter fun log =>
    decide (log.targetId = targetId ∧ log.trigger = .policy ∧ log.status ≠ .failed)).map
      CollectedLog.collectedAt |>.max?

/-- Write the status of a record, if it is there. -/
def updateCollectedLog (logId : LogId) (status : LogStatus) (logs : Table LogId CollectedLog) :
    Table LogId CollectedLog :=
  logs.updateWhere (fun other _ => decide (other = logId)) fun log => { log with status := status }

/-- The completed records of a target other than the one to keep, with their files. -/
def priorTargetLogs (targetId : TargetId) (keepLogId : LogId) (logs : Table LogId CollectedLog) :
    List (LogId × BundleFile) :=
  (logs.rows.filter fun entry => decide (entry.2.targetId = targetId ∧ entry.1 ≠ keepLogId ∧
    entry.2.status = .completed)).map fun entry => (entry.1, entry.2.file)

/-- Delete the records of a list of ids. -/
def deleteLogs (ids : List LogId) (logs : Table LogId CollectedLog) : Table LogId CollectedLog :=
  logs.deleteWhere fun logId _ => decide (logId ∈ ids)

/-! ### Collections -/

/-- What a collection is at. -/
inductive CollectionPhase where
  | started
  | collecting (logId : LogId)
  | written (logId : LogId)
  | completed (logId : LogId)
  | pruning (logId : LogId) (superseded : List (LogId × BundleFile))
  | cleaning (logId : LogId) (files : List BundleFile)
  | finished (logId : LogId)
  | failed
  deriving DecidableEq, Repr

/-- A collection that has started. -/
structure LogCollection (Process : Type) where
  process : Process
  targetId : TargetId
  trigger : LogTrigger
  startedAt : Time
  file : BundleFile
  phase : CollectionPhase := .started

/-- A collection holds the lock of its target. -/
def CollectionPhase.isActive : CollectionPhase → Bool
  | .finished _ | .failed => false
  | _ => true

/-- Files left to unlink, or none. -/
def CollectionPhase.unlink (logId : LogId) : List BundleFile → CollectionPhase
  | [] => .finished logId
  | file :: rest => .cleaning logId (file :: rest)

/-- An alert that the policy looks into: the time of the last policy collection it has read, when it
has read it, and whether it goes on to collect. -/
structure Evaluation (Process : Type) where
  process : Process
  targetId : TargetId
  last : Option Time
  queriedAt : Time
  fires : Bool := false

/-- The collectors, on one store and one directory. -/
structure LogCollectors (Process : Type) where
  clock : Time
  logs : Table LogId CollectedLog := Table.empty
  files : List BundleFile := []
  evaluations : Table Nat (Evaluation Process) := Table.empty
  collections : Table Nat (LogCollection Process) := Table.empty

/-- What a collection does next. -/
inductive CollectionStep where
  | create (logId : LogId)
  | createFails
  | download
  | complete
  | fail (stored : Bool)
  | select
  | delete
  | retryDelete
  | pruneFails
  | deleteFile
  deriving DecidableEq, Repr

/-- What happens. Evaluations and collections are told apart by numbers of the run. -/
inductive CollectorEvent (Process : Type) where
  | tick (now : Time)
  | alert (evaluation : Nat) (process : Process) (alert : AlertEvent)
  | evaluate (evaluation : Nat)
  | evaluationFails (evaluation : Nat)
  | collectSingle (evaluation collection : Nat) (target : Option String)
  | request (collection : Nat) (process : Process) (trigger : LogTrigger) (targetId : TargetId)
      (target : Option String)
  | collection (collection : Nat) (step : CollectionStep)

namespace LogCollectors

variable {Process : Type}

/-- The collectors with a collection at another phase. -/
def enter (state : LogCollectors Process) (id : Nat) (collection : LogCollection Process)
    (phase : CollectionPhase) : LogCollectors Process :=
  { state with collections := state.collections.set id { collection with phase := phase } }

/-- A collection at its next step. -/
def advance (state : LogCollectors Process) (id : Nat) (collection : LogCollection Process) :
    CollectionPhase → CollectionStep → Option (LogCollectors Process)
  | .started, .create logId =>
    if (state.logs.get logId).isSome then none
    else if state.logs.rows.any fun entry => decide (entry.2.file = collection.file) then
      some (state.enter id collection .failed)
    else some ({ state with
      logs := state.logs.set logId {
        targetId := collection.targetId
        file := collection.file
        status := .collecting
        trigger := collection.trigger
        collectedAt := wholeSeconds state.clock } }.enter id collection (.collecting logId))
  | .started, .createFails => some (state.enter id collection .failed)
  | .collecting logId, .download =>
    some ({ state with files := collection.file :: state.files }.enter id collection
      (.written logId))
  | .collecting logId, .fail stored | .written logId, .fail stored =>
    some ({ state with
      logs := if stored then updateCollectedLog logId .failed state.logs else state.logs }.enter id
        collection .failed)
  | .written logId, .complete =>
    some ({ state with logs := updateCollectedLog logId .completed state.logs }.enter id collection
      (.completed logId))
  | .completed logId, .select =>
    match priorTargetLogs collection.targetId logId state.logs with
    | [] => some (state.enter id collection (.finished logId))
    | entry :: rest => some (state.enter id collection (.pruning logId (entry :: rest)))
  | .pruning logId superseded, .delete =>
    some ({ state with logs := deleteLogs (superseded.map Prod.fst) state.logs }.enter id collection
      (.unlink logId (superseded.map Prod.snd)))
  | .pruning logId _, .retryDelete => some (state.enter id collection (.completed logId))
  | .cleaning logId (file :: rest), .deleteFile =>
    some ({ state with files := state.files.filter fun other => decide (other ≠ file) }.enter id
      collection (.unlink logId rest))
  | .completed logId, .pruneFails | .pruning logId _, .pruneFails
  | .cleaning logId _, .pruneFails => some (state.enter id collection (.finished logId))
  | _, _ => none

variable [DecidableEq Process]

/-- The lock of a target is held. -/
def locked (state : LogCollectors Process) (process : Process) (targetId : TargetId) : Bool :=
  state.collections.rows.any fun entry => entry.2.phase.isActive &&
    decide (entry.2.process = process ∧ entry.2.targetId = targetId)

/-- Start a collection, unless its target is not there or locked. -/
def start (state : LogCollectors Process) (id : Nat) (process : Process) (trigger : LogTrigger)
    (targetId : TargetId) : Option String → Option (LogCollectors Process)
  | none => some state
  | some name =>
    if (state.collections.get id).isSome then none
    else if state.locked process targetId then some state
    else some { state with
      collections := state.collections.set id {
        process := process
        targetId := targetId
        trigger := trigger
        startedAt := state.clock
        file := ⟨sanitizeFilename name, state.clock⟩ } }

/-- The collectors without an evaluation. -/
def drop (state : LogCollectors Process) (id : Nat) : LogCollectors Process :=
  { state with evaluations := state.evaluations.remove id }

variable (casefold : Text → Text) (config : PolicyConfig)

/-- One event. -/
def step (state : LogCollectors Process) : CollectorEvent Process → Option (LogCollectors Process)
  | .tick now => some { state with clock := now }
  | .alert id process alert =>
    if (state.evaluations.get id).isSome then none
    else if config.considers casefold alert then
      some { state with
        evaluations := state.evaluations.set id {
          process := process
          targetId := alert.targetId
          last := lastPolicyCollectionTime state.logs alert.targetId
          queriedAt := state.clock } }
    else some state
  | .evaluate id =>
    (state.evaluations.get id).bind fun evaluation =>
      if evaluation.fires then none
      else if config.rearmActive evaluation.last state.clock then some (state.drop id)
      else if config.operatingMode ≠ .enabled then some (state.drop id)
      else some { state with
        evaluations := state.evaluations.set id { evaluation with fires := true } }
  | .evaluationFails id => (state.evaluations.get id).map fun _ => state.drop id
  | .collectSingle id collection target =>
    (state.evaluations.get id).bind fun evaluation =>
      if evaluation.fires then
        (state.drop id).start collection evaluation.process .policy evaluation.targetId target
      else none
  | .request collection process trigger targetId target =>
    if trigger = .policy then none
    else state.start collection process trigger targetId target
  | .collection id step =>
    (state.collections.get id).bind fun collection =>
      state.advance id collection collection.phase step

end LogCollectors

/-- The two processes with a collector. -/
inductive LogProcess where
  | api
  | collector
  deriving DecidableEq, Repr

/-- The collectors and the policy. -/
def collectorMachine {Process : Type} [DecidableEq Process] (casefold : Text → Text)
    (config : PolicyConfig) : Machine (LogCollectors Process) (CollectorEvent Process) :=
  ⟨LogCollectors.step casefold config⟩

end Gyanam
