/-
This file models how poll statuses reach the store. A poll records its status in
a dictionary of pending ones. The writer takes the dictionary every few seconds
and writes it in one transaction, and merges it back when this fails. Stopping
the poller flushes once more, beside whatever the writer is doing, and then
cancels the writer.

The lock around the dictionary is never held across a wait, so recording, taking
and merging back are one step each. Whether a transaction lands, and whether it
has landed when its flush fails or is cancelled, is for the run to say.
-/

import Gyanam.Lib.Machine
import Gyanam.Lib.PerKey
import Gyanam.Poller

namespace Gyanam

/-! ### The statement -/

/-- A status with its error message. -/
abbrev PollEntry := PollStatus × Option PollMessage

/-- The columns of a target that a poll status is written to. -/
structure PollRow where
  lastPollTime : Option Time := none
  lastPollStatus : Option PollStatus := none
  consecutiveFailures : Int := 0
  lastErrorMessage : Option PollMessage := none
  deriving DecidableEq, Repr

/-- A row after a successful poll. -/
def PollRow.succeed (now : Time) (row : PollRow) : PollRow :=
  { row with
    lastPollTime := some now
    lastPollStatus := some .success
    consecutiveFailures := 0
    lastErrorMessage := none }

/-- A row after a failed poll. -/
def PollRow.fail (now : Time) (message : Option PollMessage) (row : PollRow) : PollRow :=
  { row with
    lastPollTime := some now
    lastPollStatus := some .error
    consecutiveFailures := row.consecutiveFailures + 1
    lastErrorMessage := message }

/-- Apply many poll-status updates in a single transaction: those of the successes at once, and
those of the errors one by one. -/
def updatePollStatusBatch (now : Time) (updates : Table TargetId PollEntry)
    (targets : Table TargetId PollRow) : Table TargetId PollRow :=
  let successIds := (updates.rows.filter fun entry => decide (entry.2.1 = .success)).map Prod.fst
  let errorRows := (updates.rows.filter fun entry => decide (entry.2.1 = .error)).map fun entry =>
    (entry.1, entry.2.2)
  errorRows.foldl
    (fun targets row => targets.updateWhere (fun tid _ => decide (tid = row.1)) (.fail now row.2))
    (targets.updateWhere (fun tid _ => decide (tid ∈ successIds)) (.succeed now))

/-! ### The writer -/

/-- What the writer is at. -/
inductive WriterPhase where
  | ended
  | sleeping
  | flushing (updates : Table TargetId PollEntry)

/-- How far the poller is stopped: not at all, waiting for the polls in flight, flushing, or about
to cancel the writer. -/
inductive StopPhase where
  | none
  | draining
  | flushing (updates : Table TargetId PollEntry)
  | flushed

/-- Who flushes. -/
inductive StatusFlusher where
  | writer
  | stop
  deriving DecidableEq, Repr

/-- The poller's statuses and the store. The last recording of each target is kept beside them. -/
structure StatusWriter where
  running : Bool := false
  pendingStatus : Table TargetId PollEntry := Table.empty
  writer : WriterPhase := .ended
  stop : StopPhase := .none
  targets : Table TargetId PollRow := Table.empty
  lastRecorded : Table TargetId PollEntry := Table.empty

/-- What happens. -/
inductive StatusEvent where
  | start
  | record (tid : TargetId) (status : PollStatus) (message : Option PollMessage)
  | wake
  | stop
  | stopFlush
  | commit (flusher : StatusFlusher) (now : Time)
  | fail (flusher : StatusFlusher) (now : Time) (landed : Bool)
  | cancel (now : Time) (landed : Bool)
  deriving DecidableEq, Repr

namespace StatusWriter

/-- The updates a flusher is writing. -/
def updates (state : StatusWriter) : StatusFlusher → Option (Table TargetId PollEntry)
  | .writer =>
    match state.writer with
    | .flushing updates => some updates
    | _ => none
  | .stop =>
    match state.stop with
    | .flushing updates => some updates
    | _ => none

/-- A flusher has returned from its flush. The writer goes on as long as the poller is running. -/
def returned (state : StatusWriter) : StatusFlusher → StatusWriter
  | .writer => { state with writer := if state.running then .sleeping else .ended }
  | .stop => { state with stop := .flushed }

/-- The transaction of a flush, if it lands. -/
def land (state : StatusWriter) (now : Time) (updates : Table TargetId PollEntry) (landed : Bool) :
    StatusWriter :=
  if landed then { state with targets := updatePollStatusBatch now updates state.targets }
  else state

/-- Merge updates back that were not flushed. Newer ones win. -/
def mergeBack (pending updates : Table TargetId PollEntry) : Table TargetId PollEntry :=
  updates.rows.foldl (fun pending entry => pending.upsert entry.1 entry.2 (fun _ => false) id)
    pending

/-- Drain the pending dictionary, if there is anything in it. -/
def drain (state : StatusWriter) (flusher : StatusFlusher) : StatusWriter :=
  if state.pendingStatus.rows.isEmpty then state.returned flusher
  else
    match flusher with
    | .writer =>
      { state with writer := .flushing state.pendingStatus, pendingStatus := Table.empty }
    | .stop => { state with stop := .flushing state.pendingStatus, pendingStatus := Table.empty }

/-- One event. A successful response carries no error message. -/
def step (state : StatusWriter) : StatusEvent → Option StatusWriter
  | .start =>
    match state.running, state.stop, state.writer with
    | false, .none, .ended => some { state with running := true, writer := .sleeping }
    | _, _, _ => none
  | .record tid status message =>
    if status = .success ∧ message ≠ none then none
    else some { state with
      pendingStatus := state.pendingStatus.set tid (status, message)
      lastRecorded := state.lastRecorded.set tid (status, message) }
  | .wake =>
    match state.writer with
    | .sleeping => some (state.drain .writer)
    | _ => none
  | .stop =>
    match state.running, state.stop with
    | true, .none => some { state with running := false, stop := .draining }
    | _, _ => none
  | .stopFlush =>
    match state.stop with
    | .draining => some (state.drain .stop)
    | _ => none
  | .commit flusher now =>
    (state.updates flusher).map fun updates => (state.land now updates true).returned flusher
  | .fail flusher now landed =>
    (state.updates flusher).map fun updates =>
      { (state.land now updates landed).returned flusher with
        pendingStatus := mergeBack state.pendingStatus updates }
  | .cancel now landed =>
    match state.stop with
    | .flushed =>
      match state.updates .writer with
      | none => some { state with writer := .ended, stop := .none }
      | some updates => some { state.land now updates landed with writer := .ended, stop := .none }
    | _ => none

end StatusWriter

/-- The statuses of one poller. -/
def statusMachine : Machine StatusWriter StatusEvent := ⟨StatusWriter.step⟩

end Gyanam
