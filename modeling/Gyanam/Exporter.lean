/-
This file models the exporter that writes points to the time series database.
Producers only append to its buffer; one task, the flush loop, empties the
buffer, cuts it into batches and writes the batches concurrently, and closing
the exporter cancels that task and flushes once more. A batch the server will
never accept is cut in half until the points it refuses stand alone; what failed
for the moment goes back in front of the buffer. The buffer is bounded, and the
oldest points are dropped over the bound.

Points leave the buffer before they are written, so an event is what happens
between two suspensions of a flush, and in between other tasks write, connect or
close. No suspension lies inside the two functions that change a buffer that may
already hold points, so each of them is one step.
-/

import Gyanam.Lib.Machine
import Gyanam.Lib.Sorted
import Mathlib.Data.Int.Order.Basic

namespace Gyanam

/-! ### The exporter -/

/-- The exporter: its buffer and counters, whether it holds a write interface, and how many flushes
in a row had no batch written. -/
structure InfluxDBExporter (Point : Type) where
  buffer : List Point := []
  droppedPoints : Nat := 0
  rejectedPoints : Nat := 0
  connected : Bool := false
  consecutiveBatchFailures : Nat := 0
  deriving DecidableEq, Repr

/-- The absolute ceiling on buffered points, independent of the batch size. -/
def maxBufferAbsolute : Int := 500000

/-- The most points the buffer keeps. The batch size is not checked, so it may be negative. -/
def maxBufferSize (batchSize : Int) : Int := min (batchSize * 200) maxBufferAbsolute

/-- The number of flushes in a row without a written batch that forces a reconnect. -/
def consecutiveFailureReconnectThreshold : Nat := 3

namespace InfluxDBExporter

variable {Point : Type}

/-- Buffer points. Over the bound, the oldest points are dropped. -/
def write (batchSize : Int) (exporter : InfluxDBExporter Point) (points : List Point) :
    InfluxDBExporter Point :=
  let buffer := exporter.buffer ++ points
  let overflow := (buffer.length : Int) - maxBufferSize batchSize
  if 0 < overflow then
    { exporter with
      buffer := buffer.drop overflow.toNat
      droppedPoints := exporter.droppedPoints + overflow.toNat }
  else { exporter with buffer := buffer }

/-- The slice of a list from `-limit` on: its last items for a positive limit, all of them for zero,
and without its first items for a negative one. -/
def sliceFromEnd (limit : Int) (items : List Point) : List Point :=
  if 0 < limit then items.drop (items.length - limit.toNat) else items.drop (-limit).toNat

/-- Put points back in front of the buffer. Over the bound, the oldest points are dropped. -/
def reAddPoints (batchSize : Int) (exporter : InfluxDBExporter Point) (points : List Point) :
    InfluxDBExporter Point :=
  let combined := points ++ exporter.buffer
  let dropped := (combined.length : Int) - maxBufferSize batchSize
  if 0 < dropped then
    { exporter with
      buffer := sliceFromEnd (maxBufferSize batchSize) combined
      droppedPoints := exporter.droppedPoints + dropped.toNat }
  else { exporter with buffer := combined }

end InfluxDBExporter

/-! ### Writing a batch -/

/-- How the server answers a write request: it accepts the request, it fails for the moment, or it
refuses the request for good. -/
inductive WriteOutcome where
  | accepted
  | failed
  | refused
  deriving DecidableEq, Repr

/-- The write of one batch: the pieces that are still to be written, of which the first is with the
server, the points to queue again, and how many points were written. -/
structure BatchTask (Point : Type) where
  pending : List (List Point)
  retryPoints : List Point := []
  writtenPoints : Nat := 0
  deriving DecidableEq, Repr

variable {Point : Type}

/-- The pieces that need a request. An empty one needs none. -/
def writeRequests (pieces : List (List Point)) : List (List Point) :=
  pieces.filter fun piece => !piece.isEmpty

/-- The pieces a refused piece is cut into. A single refused point is given up. -/
def isolateUnprocessable (piece : List Point) : List (List Point) :=
  if piece.length = 1 then []
  else writeRequests [piece.take (piece.length / 2), piece.drop (piece.length / 2)]

/-- Whether an answer gives up a point. -/
def rejects (piece : List Point) (outcome : WriteOutcome) : Bool :=
  decide (outcome = .refused) && piece.length == 1

namespace BatchTask

/-- The task of a batch before its first request. -/
def start (batch : List Point) : BatchTask Point := { pending := writeRequests [batch] }

/-- The task after the answer to its current piece. -/
def answer (task : BatchTask Point) (piece : List Point) (rest : List (List Point)) :
    WriteOutcome → BatchTask Point
  | .accepted =>
    { task with pending := rest, writtenPoints := task.writtenPoints + piece.length }
  | .failed => { task with pending := rest, retryPoints := task.retryPoints ++ piece }
  | .refused => { task with pending := isolateUnprocessable piece ++ rest }

/-- The points a task holds: those to queue again and those still to be written. -/
def held (task : BatchTask Point) : List Point := task.retryPoints ++ task.pending.flatten

end BatchTask

/-! ### A flush -/

/-- Where a flush is suspended: it has taken the points and waits for the connection, its batches
are being written, or it closes a connection that keeps failing. -/
inductive Flush (Point : Type) where
  | connecting (points : List Point)
  | writing (tasks : List (BatchTask Point))
  | resetting
  deriving DecidableEq, Repr

/-- What a suspended flush waits for. -/
inductive FlushEvent where
  | connectionRead
  | answered (index : Nat) (outcome : WriteOutcome)
  | gathered
  | connectionReset
  deriving DecidableEq, Repr

/-- The points cut into batches. A step of zero raises, and a negative one gives no batches. -/
def splitBatches (batchSize : Int) (points : List Point) : Option (List (List Point)) :=
  if batchSize = 0 then none
  else if batchSize < 0 then some []
  else some (SortedList.chunks batchSize.toNat points)

namespace InfluxDBExporter

/-- The end of a flush that tried to write: after too many failures the connection is reset. -/
def resetIfFailing (exporter : InfluxDBExporter Point) :
    InfluxDBExporter Point × Option (Flush Point) :=
  if consecutiveFailureReconnectThreshold ≤ exporter.consecutiveBatchFailures then
    (exporter, some .resetting)
  else (exporter, none)

/-- The flush that has read the connection: it starts the writes of its batches, or puts the points
back when there is no connection or cutting them raised. -/
def startWrites (batchSize : Int) (exporter : InfluxDBExporter Point) (points : List Point) :
    InfluxDBExporter Point × Option (Flush Point) :=
  if exporter.connected then
    match splitBatches batchSize points with
    | some batches => (exporter, some (.writing (batches.map BatchTask.start)))
    | none =>
      resetIfFailing (reAddPoints batchSize
        { exporter with consecutiveBatchFailures := exporter.consecutiveBatchFailures + 1 } points)
  else (exporter.reAddPoints batchSize points, none)

/-- The counter of failed flushes after the results of all batches. -/
def countFailures (exporter : InfluxDBExporter Point) (tasks : List (BatchTask Point)) : Nat :=
  if tasks.any fun task => 0 < task.writtenPoints then 0
  else if (tasks.flatMap BatchTask.retryPoints).isEmpty then exporter.consecutiveBatchFailures
  else exporter.consecutiveBatchFailures + 1

/-- The flush that has all its results: the points of failed batches are queued again, in order. -/
def processResults (batchSize : Int) (exporter : InfluxDBExporter Point)
    (tasks : List (BatchTask Point)) : InfluxDBExporter Point :=
  let failedPoints := tasks.flatMap BatchTask.retryPoints
  let counted := { exporter with consecutiveBatchFailures := exporter.countFailures tasks }
  if failedPoints.isEmpty then counted else counted.reAddPoints batchSize failedPoints

/-- Take note of the answer to a piece. -/
def countRejected (exporter : InfluxDBExporter Point) (piece : List Point)
    (outcome : WriteOutcome) : InfluxDBExporter Point :=
  if rejects piece outcome then
    { exporter with rejectedPoints := exporter.rejectedPoints + 1 }
  else exporter

/-- One step of a flush: what is left of it, if anything. -/
def flushStep (batchSize : Int) (exporter : InfluxDBExporter Point) :
    Flush Point → FlushEvent → Option (InfluxDBExporter Point × Option (Flush Point))
  | .connecting points, .connectionRead => some (exporter.startWrites batchSize points)
  | .writing tasks, .answered index outcome =>
    match tasks[index]? with
    | none => none
    | some task =>
      match task.pending with
      | [] => none
      | piece :: rest =>
        some (exporter.countRejected piece outcome,
          some (.writing (tasks.set index (task.answer piece rest outcome))))
  | .writing tasks, .gathered =>
    if tasks.all fun task => task.pending.isEmpty then
      some (resetIfFailing (exporter.processResults batchSize tasks))
    else none
  | .resetting, .connectionReset =>
    some ({ exporter with connected := false, consecutiveBatchFailures := 0 }, none)
  | _, _ => none

end InfluxDBExporter

/-! ### The tasks of the exporter -/

/-- The flush loop: not started, between two flushes, inside a flush, or ended. -/
inductive FlushLoop (Point : Type) where
  | absent
  | idle
  | flushing (flush : Flush Point)
  | ended
  deriving DecidableEq, Repr

/-- How far closing has come: it has not begun, it waits for the cancelled flush loop, it flushes
what is left, or it has finished. -/
inductive Closing (Point : Type) where
  | working
  | joining
  | flushing (flush : Flush Point)
  | closed
  deriving DecidableEq, Repr

/-- The exporter and the tasks that flush it. -/
structure Exporting (Point : Type) where
  exporter : InfluxDBExporter Point := {}
  flushLoop : FlushLoop Point := .absent
  closing : Closing Point := .working
  deriving DecidableEq, Repr

/-- Who flushes. -/
inductive Flusher where
  | flushLoop
  | close
  deriving DecidableEq, Repr

/-- What happens between two suspensions. A connection attempt ends and starts the flush loop, a
producer writes, the flush loop is woken or has tried to reconnect, a flush goes on, closing begins,
its cancellation reaches the flush loop, or it finds the flush loop ended. -/
inductive ExporterEvent (Point : Type) where
  | connect (succeeded : Bool)
  | write (points : List Point)
  | woken
  | reconnected (succeeded : Bool)
  | flush (flusher : Flusher) (event : FlushEvent)
  | close
  | cancelled
  | joined
  deriving DecidableEq, Repr

namespace Exporting

/-- Whether the flush loop is to go on: closing has not begun. -/
def running (state : Exporting Point) : Bool :=
  match state.closing with
  | .working => true
  | _ => false

/-- The flush a flusher is in. -/
def flushOf (state : Exporting Point) : Flusher → Option (Flush Point)
  | .flushLoop =>
    match state.flushLoop with
    | .flushing flush => some flush
    | _ => none
  | .close =>
    match state.closing with
    | .flushing flush => some flush
    | _ => none

/-- Go on with what a step has left of a flush. A flush loop that is done waits again unless closing
has begun, and closing that is done closes the client. -/
def proceed (state : Exporting Point) (exporter : InfluxDBExporter Point) :
    Flusher → Option (Flush Point) → Exporting Point
  | .flushLoop, some flush => { state with exporter := exporter, flushLoop := .flushing flush }
  | .flushLoop, none =>
    { state with
      exporter := exporter
      flushLoop := if state.running then .idle else .ended }
  | .close, some flush => { state with exporter := exporter, closing := .flushing flush }
  | .close, none =>
    { state with exporter := { exporter with connected := false }, closing := .closed }

/-- Begin a flush: take the points of the buffer, if there are any. -/
def flushBuffer (state : Exporting Point) (flusher : Flusher) : Exporting Point :=
  if state.exporter.buffer.isEmpty then state.proceed state.exporter flusher none
  else
    state.proceed { state.exporter with buffer := [] } flusher
      (some (.connecting state.exporter.buffer))

/-- Set whether the exporter holds a write interface. -/
def setConnected (state : Exporting Point) (connected : Bool) : Exporting Point :=
  { state with exporter := { state.exporter with connected := connected } }

/-- The flush loop runs from the end of a first connection attempt on. -/
def startFlushLoop (state : Exporting Point) : Exporting Point :=
  match state.flushLoop with
  | .absent => { state with flushLoop := .idle }
  | _ => state

/-- One event. A cancelled flush loop ends, and drops what its flush was holding. -/
def step (batchSize : Int) (state : Exporting Point) :
    ExporterEvent Point → Option (Exporting Point)
  | .connect succeeded =>
    if state.running then
      some (state.setConnected (succeeded || state.exporter.connected)).startFlushLoop
    else none
  | .write points => some { state with exporter := state.exporter.write batchSize points }
  | .woken =>
    match state.flushLoop, state.exporter.connected with
    | .idle, true => some (state.flushBuffer .flushLoop)
    | _, _ => none
  | .reconnected succeeded =>
    match state.flushLoop, succeeded with
    | .idle, true => some ((state.setConnected true).flushBuffer .flushLoop)
    | .idle, false => some (state.setConnected false)
    | _, _ => none
  | .flush flusher event =>
    match state.flushOf flusher with
    | some flush =>
      (state.exporter.flushStep batchSize flush event).map fun stepped =>
        state.proceed stepped.1 flusher stepped.2
    | none => none
  | .close =>
    match state.closing, state.flushLoop with
    | .working, .absent => some (state.flushBuffer .close)
    | .working, _ => some { state with closing := .joining }
    | _, _ => none
  | .cancelled =>
    match state.closing, state.flushLoop with
    | .joining, .idle => some { state with flushLoop := .ended }
    | .joining, .flushing _ => some { state with flushLoop := .ended }
    | _, _ => none
  | .joined =>
    match state.closing, state.flushLoop with
    | .joining, .ended => some (state.flushBuffer .close)
    | _, _ => none

end Exporting

end Gyanam
