/-
This file accounts for the points of the exporter. Next to a run it is observed
which points were written, and which left the exporter and how: the server
accepted them, they were rejected one by one, they were dropped over the bound
of the buffer, or they were lost when the flush that held them was cancelled.

The written points are at every moment those that left, those in the buffer and
those a flush holds. The code counts the rejected and the dropped ones, and none
is lost, exactly in the runs in which the flush loop holds no points when its
cancellation reaches it and nothing is written under a negative batch size.
-/

import Gyanam.Exporter
import Mathlib.Algebra.Order.Group.Multiset
import Mathlib.Tactic.Abel

namespace Gyanam

variable {Point : Type}

/-! ### Observing a step -/

/-- The points that left the exporter, by how they left. -/
structure Departed (Point : Type) where
  accepted : List Point := []
  rejected : List Point := []
  dropped : List Point := []
  lost : List Point := []
  deriving DecidableEq, Repr

namespace Departed

/-- What left first, and what left then. -/
def append (first second : Departed Point) : Departed Point where
  accepted := first.accepted ++ second.accepted
  rejected := first.rejected ++ second.rejected
  dropped := first.dropped ++ second.dropped
  lost := first.lost ++ second.lost

/-- All points that left. -/
def total (departed : Departed Point) : Multiset Point :=
  departed.accepted + departed.rejected + departed.dropped + departed.lost

@[simp] theorem append_total (first second : Departed Point) :
    (first.append second).total = first.total + second.total := by
  simp only [append, total, ← Multiset.coe_add]
  abel

@[simp] theorem total_nothing : ({} : Departed Point).total = 0 := rfl

@[simp] theorem total_accepted (points : List Point) :
    ({ accepted := points } : Departed Point).total = points := by
  simp [total]

@[simp] theorem total_rejected (points : List Point) :
    ({ rejected := points } : Departed Point).total = points := by
  simp [total]

@[simp] theorem total_dropped (points : List Point) :
    ({ dropped := points } : Departed Point).total = points := by
  simp [total]

@[simp] theorem total_lost (points : List Point) :
    ({ lost := points } : Departed Point).total = points := by
  simp [total]

end Departed

/-- The points a flush holds. -/
def Flush.held : Flush Point → List Point
  | .connecting points => points
  | .writing tasks => tasks.flatMap BatchTask.held
  | .resetting => []

/-- The points held by what is left of a flush. -/
def heldIn : Option (Flush Point) → List Point
  | some flush => flush.held
  | none => []

namespace InfluxDBExporter

/-- The points a write drops from the front of the buffer. -/
def droppedOnWrite (batchSize : Int) (exporter : InfluxDBExporter Point) (points : List Point) :
    List Point :=
  (exporter.buffer ++ points).take
    ((exporter.buffer ++ points).length - (exporter.write batchSize points).buffer.length)

/-- The points that are dropped when points are put back. -/
def droppedOnReAdd (batchSize : Int) (exporter : InfluxDBExporter Point) (points : List Point) :
    List Point :=
  (points ++ exporter.buffer).take
    ((points ++ exporter.buffer).length - (exporter.reAddPoints batchSize points).buffer.length)

/-- The points that leave with an answer to a piece. -/
def answerDepartures (piece : List Point) : WriteOutcome → Departed Point
  | .accepted => { accepted := piece }
  | .failed => {}
  | .refused => { rejected := if rejects piece .refused then piece else [] }

/-- The points that leave with a step of a flush. -/
def flushDepartures (batchSize : Int) (exporter : InfluxDBExporter Point) :
    Flush Point → FlushEvent → Departed Point
  | .connecting points, .connectionRead =>
    { dropped :=
        if exporter.connected ∧ batchSize ≠ 0 then []
        else exporter.droppedOnReAdd batchSize points }
  | .writing tasks, .answered index outcome =>
    answerDepartures ((tasks[index]?.bind fun task => task.pending.head?).getD []) outcome
  | .writing tasks, .gathered =>
    { dropped :=
        if (tasks.flatMap BatchTask.retryPoints).isEmpty then []
        else exporter.droppedOnReAdd batchSize (tasks.flatMap BatchTask.retryPoints) }
  | _, _ => {}

end InfluxDBExporter

namespace Exporting

/-- The points held by the flush of a flusher. -/
def heldBy (state : Exporting Point) (flusher : Flusher) : List Point :=
  heldIn (state.flushOf flusher)

/-- The points held by the flushes in progress. -/
def held (state : Exporting Point) : List Point := state.heldBy .flushLoop ++ state.heldBy .close

/-- The points an event writes. -/
def writtenBy : ExporterEvent Point → List Point
  | .write points => points
  | _ => []

/-- The points that leave with an event. -/
def departures (batchSize : Int) (state : Exporting Point) : ExporterEvent Point → Departed Point
  | .write points => { dropped := state.exporter.droppedOnWrite batchSize points }
  | .flush flusher event =>
    match state.flushOf flusher with
    | some flush => state.exporter.flushDepartures batchSize flush event
    | none => {}
  | .cancelled => { lost := state.heldBy .flushLoop }
  | _ => {}

end Exporting

/-- The exporter, and the points that were written and that left so far. -/
structure Account (Point : Type) where
  exporting : Exporting Point := {}
  written : List Point := []
  departed : Departed Point := {}
  deriving DecidableEq, Repr

/-- The exporter observed. -/
def accountMachine (batchSize : Int) : Machine (Account Point) (ExporterEvent Point) where
  step account event :=
    (account.exporting.step batchSize event).map fun next =>
      { exporting := next
        written := account.written ++ Exporting.writtenBy event
        departed := account.departed.append (account.exporting.departures batchSize event) }

/-- Every written point is accounted for exactly once: accepted by the server, counted as rejected,
counted as dropped, in the buffer, or held by a flush in progress. -/
structure Accounted (account : Account Point) : Prop where
  partition : account.written.Perm (account.departed.accepted ++ account.departed.rejected ++
    account.departed.dropped ++ account.exporting.exporter.buffer ++ account.exporting.held)
  rejected : account.exporting.exporter.rejectedPoints = account.departed.rejected.length
  dropped : account.exporting.exporter.droppedPoints = account.departed.dropped.length

/-- An event loses track of no point: a cancellation finds the flush loop holding none, and nothing
is written under a negative batch size. -/
def Lossless (batchSize : Int) (state : Exporting Point) : ExporterEvent Point → Prop
  | .cancelled => state.heldBy .flushLoop = []
  | .write _ => 0 ≤ batchSize
  | _ => True

/-! ### The bound of the buffer -/

namespace InfluxDBExporter

theorem take_append_of_suffix {kept items : List Point} (suffix : kept <:+ items) :
    items.take (items.length - kept.length) ++ kept = items := by
  obtain ⟨front, rfl⟩ := suffix
  rw [List.length_append, Nat.add_sub_cancel, List.take_left]

theorem write_suffix (batchSize : Int) (exporter : InfluxDBExporter Point) (points : List Point) :
    (exporter.write batchSize points).buffer <:+ exporter.buffer ++ points := by
  simp only [write]
  split
  · exact List.drop_suffix _ _
  · exact List.suffix_refl _

theorem reAddPoints_suffix (batchSize : Int) (exporter : InfluxDBExporter Point)
    (points : List Point) :
    (exporter.reAddPoints batchSize points).buffer <:+ points ++ exporter.buffer := by
  simp only [reAddPoints]
  split
  · simp only [sliceFromEnd]
    split <;> exact List.drop_suffix _ _
  · exact List.suffix_refl _

/-- How many points more a write counts as dropped than it drops. -/
def overcounted (batchSize : Int) : Nat :=
  if batchSize < 0 then (-maxBufferSize batchSize).toNat else 0

theorem overcounted_eq_zero (batchSize : Int) : overcounted batchSize = 0 ↔ 0 ≤ batchSize := by
  simp only [overcounted, maxBufferSize, maxBufferAbsolute]
  split <;> omega

theorem write_droppedPoints (batchSize : Int) (exporter : InfluxDBExporter Point)
    (points : List Point) :
    (exporter.write batchSize points).droppedPoints = exporter.droppedPoints +
      (exporter.droppedOnWrite batchSize points).length + overcounted batchSize := by
  simp only [droppedOnWrite, List.length_take, write, overcounted]
  split
  · simp only [List.length_drop, maxBufferSize, maxBufferAbsolute] at *
    split <;> omega
  · simp only [maxBufferSize, maxBufferAbsolute] at *
    split <;> omega

theorem reAddPoints_droppedPoints {batchSize : Int} (positive : 0 < batchSize)
    (exporter : InfluxDBExporter Point) (points : List Point) :
    (exporter.reAddPoints batchSize points).droppedPoints =
      exporter.droppedPoints + (exporter.droppedOnReAdd batchSize points).length := by
  have limitPositive : 0 < maxBufferSize batchSize := by
    simp only [maxBufferSize, maxBufferAbsolute]
    omega
  simp only [droppedOnReAdd, List.length_take, reAddPoints, sliceFromEnd, if_pos limitPositive]
  split
  · simp only [List.length_drop]
    omega
  · simp only [Nat.sub_self, Nat.zero_min, Nat.add_zero]

@[simp] theorem write_rejectedPoints (batchSize : Int) (exporter : InfluxDBExporter Point)
    (points : List Point) :
    (exporter.write batchSize points).rejectedPoints = exporter.rejectedPoints := by
  simp only [write]
  split <;> rfl

@[simp] theorem reAddPoints_rejectedPoints (batchSize : Int) (exporter : InfluxDBExporter Point)
    (points : List Point) :
    (exporter.reAddPoints batchSize points).rejectedPoints = exporter.rejectedPoints := by
  simp only [reAddPoints]
  split <;> rfl

/-- Without a positive batch size nothing stays in the buffer. -/
theorem write_buffer_nil {batchSize : Int} (degenerate : batchSize ≤ 0)
    (exporter : InfluxDBExporter Point) (points : List Point) :
    (exporter.write batchSize points).buffer = [] := by
  have limit : maxBufferSize batchSize ≤ 0 := by
    simp only [maxBufferSize, maxBufferAbsolute]
    omega
  simp only [write]
  split
  · exact List.drop_eq_nil_of_le (by omega)
  · show exporter.buffer ++ points = []
    exact List.eq_nil_of_length_eq_zero (by omega)

end InfluxDBExporter

/-! ### The steps of a flush -/

theorem flatten_writeRequests (pieces : List (List Point)) :
    (writeRequests pieces).flatten = pieces.flatten :=
  List.flatten_filter_not_isEmpty

theorem flatten_isolateUnprocessable {piece : List Point} (several : piece.length ≠ 1) :
    (isolateUnprocessable piece).flatten = piece := by
  rw [isolateUnprocessable, if_neg several, flatten_writeRequests, List.flatten_cons,
    List.flatten_singleton, List.take_append_drop]

/-- A task holds on to the points of a piece that its answer does not make leave. -/
theorem BatchTask.held_answer {task : BatchTask Point} {piece : List Point}
    {rest : List (List Point)} (current : task.pending = piece :: rest) (outcome : WriteOutcome) :
    (task.held : Multiset Point) =
      (InfluxDBExporter.answerDepartures piece outcome).total +
        (task.answer piece rest outcome).held := by
  simp only [BatchTask.held, current, List.flatten_cons, ← Multiset.coe_add]
  cases outcome with
  | accepted =>
    simp only [InfluxDBExporter.answerDepartures, BatchTask.answer, Departed.total_accepted]
    abel
  | failed =>
    simp only [InfluxDBExporter.answerDepartures, BatchTask.answer, Departed.total_nothing,
      ← Multiset.coe_add]
    abel
  | refused =>
    simp only [InfluxDBExporter.answerDepartures, BatchTask.answer, Departed.total_rejected]
    by_cases single : piece.length = 1
    · simp only [rejects, isolateUnprocessable, single, decide_true, BEq.rfl, Bool.and_self,
        if_true, List.nil_append]
      abel
    · simp only [rejects, beq_eq_false_iff_ne.mpr single, Bool.and_false,
        Bool.false_eq_true, if_false, Multiset.coe_nil, zero_add, List.flatten_append,
        flatten_isolateUnprocessable single, ← Multiset.coe_add]

/-- What one task of several changes about the points they hold. -/
theorem held_set {tasks : List (BatchTask Point)} {index : Nat} {task changed : BatchTask Point}
    (found : tasks[index]? = some task) {left : Multiset Point}
    (change : (task.held : Multiset Point) = left + changed.held) :
    ((tasks.flatMap BatchTask.held : List Point) : Multiset Point) =
      left + ((tasks.set index changed).flatMap BatchTask.held : List Point) := by
  obtain ⟨within, rfl⟩ := List.getElem?_eq_some_iff.mp found
  have before := (List.getElem_cons_eraseIdx_perm within).symm.flatMap_right BatchTask.held
  have after := (List.set_perm_cons_eraseIdx within changed).flatMap_right BatchTask.held
  rw [Multiset.coe_eq_coe.mpr before, Multiset.coe_eq_coe.mpr after]
  simp only [List.flatMap_cons, ← Multiset.coe_add, change]
  abel

theorem held_start {batchSize : Int} (positive : 0 < batchSize) {points : List Point}
    {batches : List (List Point)} (split : splitBatches batchSize points = some batches) :
    (batches.map BatchTask.start).flatMap BatchTask.held = points := by
  rw [splitBatches, if_neg (by omega), if_neg (by omega), Option.some.injEq] at split
  have started : BatchTask.held ∘ BatchTask.start = (id : List Point → List Point) := by
    funext batch
    simp [BatchTask.held, BatchTask.start, flatten_writeRequests]
  rw [List.flatMap_map, ← split]
  have sizePositive : 0 < batchSize.toNat := by omega
  have flattened := SortedList.flatten_chunks sizePositive points
  rwa [← List.flatMap_id, ← started] at flattened

theorem held_done {tasks : List (BatchTask Point)}
    (done : (tasks.all fun task => task.pending.isEmpty) = true) :
    tasks.flatMap BatchTask.held = tasks.flatMap BatchTask.retryPoints := by
  refine List.flatMap_congr fun task member => ?_
  have emptied := List.all_eq_true.mp done task member
  rw [BatchTask.held, List.isEmpty_iff.mp emptied, List.flatten_nil, List.append_nil]

/-- How the points and the counters move: those that leave, those in the buffer and those that are
held then are those that were in the buffer and those that came in, and the counters count the
rejected and the dropped ones, with an excess. -/
structure Moved (exporter next : InfluxDBExporter Point) (came : Multiset Point)
    (departed : Departed Point) (held : Multiset Point) (excess : Nat) : Prop where
  flow : departed.total + next.buffer + held = exporter.buffer + came
  rejected : next.rejectedPoints = exporter.rejectedPoints + departed.rejected.length
  dropped : next.droppedPoints = exporter.droppedPoints + departed.dropped.length + excess

/-- Points held elsewhere do not matter. -/
theorem Moved.frame {exporter next : InfluxDBExporter Point} {came held : Multiset Point}
    {departed : Departed Point} {excess : Nat}
    (moved : Moved exporter next came departed held excess) (other : Multiset Point) :
    Moved exporter next (came + other) departed (held + other) excess where
  flow := by rw [← add_assoc, moved.flow, add_assoc]
  rejected := moved.rejected
  dropped := moved.dropped

theorem Moved.noneWritten {exporter next : InfluxDBExporter Point} {came held : Multiset Point}
    {departed : Departed Point} {excess : Nat}
    (moved : Moved exporter next came departed held excess) :
    Moved exporter next (came + ([] : List Point)) departed held excess := by
  rwa [Multiset.coe_nil, add_zero]

/-- The connection and the counter of failed flushes do not matter either. -/
theorem Moved.ofFields {exporter next other : InfluxDBExporter Point} {came held : Multiset Point}
    {departed : Departed Point} {excess : Nat}
    (moved : Moved exporter next came departed held excess)
    (buffer : other.buffer = next.buffer) (rejected : other.rejectedPoints = next.rejectedPoints)
    (dropped : other.droppedPoints = next.droppedPoints) :
    Moved exporter other came departed held excess where
  flow := by rw [buffer, moved.flow]
  rejected := by rw [rejected, moved.rejected]
  dropped := by rw [dropped, moved.dropped]

namespace InfluxDBExporter

theorem write_moved (batchSize : Int) (exporter : InfluxDBExporter Point) (points : List Point) :
    Moved exporter (exporter.write batchSize points) points
      { dropped := exporter.droppedOnWrite batchSize points } 0 (overcounted batchSize) where
  flow := by
    rw [Departed.total_dropped, add_zero, Multiset.coe_add, Multiset.coe_add, droppedOnWrite,
      take_append_of_suffix (write_suffix batchSize exporter points)]
  rejected := write_rejectedPoints batchSize exporter points
  dropped := write_droppedPoints batchSize exporter points

theorem reAddPoints_moved {batchSize : Int} (positive : 0 < batchSize)
    (exporter : InfluxDBExporter Point) (points : List Point) :
    Moved exporter (exporter.reAddPoints batchSize points) points
      { dropped := exporter.droppedOnReAdd batchSize points } 0 0 where
  flow := by
    rw [Departed.total_dropped, add_zero, Multiset.coe_add, droppedOnReAdd,
      take_append_of_suffix (reAddPoints_suffix batchSize exporter points), ← Multiset.coe_add,
      add_comm]
  rejected := reAddPoints_rejectedPoints batchSize exporter points
  dropped := reAddPoints_droppedPoints positive exporter points

theorem reAddPoints_failures (batchSize : Int) (exporter : InfluxDBExporter Point)
    (failures : Nat) (points : List Point) :
    reAddPoints batchSize { exporter with consecutiveBatchFailures := failures } points =
      { exporter.reAddPoints batchSize points with consecutiveBatchFailures := failures } := by
  simp only [reAddPoints]
  split <;> rfl

theorem countRejected_moved (exporter : InfluxDBExporter Point) (piece : List Point)
    (outcome : WriteOutcome) {before after : Multiset Point}
    (change : before = (answerDepartures piece outcome).total + after) :
    Moved exporter (exporter.countRejected piece outcome) before (answerDepartures piece outcome)
      after 0 where
  flow := by
    have buffered : (exporter.countRejected piece outcome).buffer = exporter.buffer := by
      rw [countRejected]
      split <;> rfl
    rw [buffered, change]
    abel
  rejected := by
    rw [countRejected]
    cases outcome with
    | refused =>
      simp only [answerDepartures]
      split
      · next given =>
        simp only [rejects, Bool.and_eq_true, beq_iff_eq] at given
        rw [given.2]
      · rfl
    | _ => rfl
  dropped := by
    rw [countRejected]
    cases outcome with
    | refused => split <;> rfl
    | _ => rfl

theorem resetIfFailing_moved {exporter next : InfluxDBExporter Point} {came : Multiset Point}
    {departed : Departed Point} (moved : Moved exporter next came departed 0 0) :
    Moved exporter next.resetIfFailing.1 came departed (heldIn next.resetIfFailing.2) 0 := by
  rw [resetIfFailing]
  split <;> exact moved

theorem processResults_moved {batchSize : Int} (positive : 0 < batchSize)
    (exporter : InfluxDBExporter Point) {tasks : List (BatchTask Point)}
    (done : (tasks.all fun task => task.pending.isEmpty) = true) :
    Moved exporter (exporter.processResults batchSize tasks) (Flush.writing tasks).held
      (exporter.flushDepartures batchSize (.writing tasks) .gathered) 0 0 := by
  rw [Flush.held, held_done done, processResults, flushDepartures]
  by_cases none : (tasks.flatMap BatchTask.retryPoints).isEmpty = true
  · rw [if_pos none, if_pos none, List.isEmpty_iff.mp none]
    exact ⟨by simp, rfl, rfl⟩
  · rw [if_neg none, if_neg none, reAddPoints_failures]
    exact (reAddPoints_moved positive exporter _).ofFields rfl rfl rfl

theorem startWrites_moved {batchSize : Int} (positive : 0 < batchSize)
    (exporter : InfluxDBExporter Point) (points : List Point) :
    Moved exporter (exporter.startWrites batchSize points).1 points
      (exporter.flushDepartures batchSize (.connecting points) .connectionRead)
      (heldIn (exporter.startWrites batchSize points).2) 0 := by
  rw [startWrites, flushDepartures]
  by_cases connected : exporter.connected = true
  · rw [if_pos connected, if_pos ⟨connected, by omega⟩]
    cases split : splitBatches batchSize points with
    | some batches =>
      refine ⟨?_, rfl, rfl⟩
      rw [heldIn, Flush.held, held_start positive split, Departed.total_dropped, Multiset.coe_nil,
        zero_add]
    | none =>
      rw [splitBatches, if_neg (by omega), if_neg (by omega)] at split
      cases split
  · rw [if_neg connected, if_neg fun both => connected both.1]
    exact reAddPoints_moved positive exporter points

/-- What a step of a flush does to the points. -/
theorem flushStep_moved {batchSize : Int} (positive : 0 < batchSize)
    {exporter : InfluxDBExporter Point} {flush : Flush Point} {event : FlushEvent}
    {stepped : InfluxDBExporter Point × Option (Flush Point)}
    (step : exporter.flushStep batchSize flush event = some stepped) :
    Moved exporter stepped.1 flush.held (exporter.flushDepartures batchSize flush event)
      (heldIn stepped.2) 0 := by
  cases flush with
  | connecting points =>
    cases event with
    | connectionRead =>
      cases step
      exact startWrites_moved positive exporter points
    | _ => cases step
  | writing tasks =>
    cases event with
    | answered index outcome =>
      simp only [flushStep] at step
      split at step
      · cases step
      · next task found =>
        split at step
        · cases step
        · next piece rest current =>
          cases step
          simp only [flushDepartures, found, Option.bind_some, current, List.head?_cons,
            Option.getD_some]
          exact countRejected_moved exporter piece outcome
            (held_set found (BatchTask.held_answer current outcome))
    | gathered =>
      simp only [flushStep, Option.ite_none_right_eq_some] at step
      obtain ⟨done, stepped⟩ := step
      cases stepped
      exact resetIfFailing_moved (processResults_moved positive exporter done)
    | _ => cases step
  | resetting =>
    cases event with
    | connectionReset =>
      cases step
      exact ⟨by simp [flushDepartures, Flush.held, heldIn], rfl, rfl⟩
    | _ => cases step

/-- A flush loses nothing by itself. -/
theorem flushDepartures_lost (batchSize : Int) (exporter : InfluxDBExporter Point)
    (flush : Flush Point) (event : FlushEvent) :
    (exporter.flushDepartures batchSize flush event).lost = [] := by
  simp only [flushDepartures]
  split
  · rfl
  · next outcome =>
    cases outcome <;> rfl
  · rfl
  · rfl

end InfluxDBExporter

/-! ### The steps of the exporter -/

/-- The other flusher. -/
def Flusher.other : Flusher → Flusher
  | .flushLoop => .close
  | .close => .flushLoop

namespace Exporting

theorem held_eq (state : Exporting Point) (flusher : Flusher) :
    (state.held : Multiset Point) = state.heldBy flusher + state.heldBy flusher.other := by
  rw [held, ← Multiset.coe_add]
  cases flusher with
  | flushLoop => rfl
  | close => exact add_comm _ _

@[simp] theorem proceed_buffer (state : Exporting Point) (exporter : InfluxDBExporter Point)
    (flusher : Flusher) (flush : Option (Flush Point)) :
    (state.proceed exporter flusher flush).exporter.buffer = exporter.buffer := by
  cases flusher <;> cases flush <;> rfl

@[simp] theorem proceed_rejectedPoints (state : Exporting Point)
    (exporter : InfluxDBExporter Point) (flusher : Flusher) (flush : Option (Flush Point)) :
    (state.proceed exporter flusher flush).exporter.rejectedPoints = exporter.rejectedPoints := by
  cases flusher <;> cases flush <;> rfl

@[simp] theorem proceed_droppedPoints (state : Exporting Point)
    (exporter : InfluxDBExporter Point) (flusher : Flusher) (flush : Option (Flush Point)) :
    (state.proceed exporter flusher flush).exporter.droppedPoints = exporter.droppedPoints := by
  cases flusher <;> cases flush <;> rfl

@[simp] theorem proceed_flushOf (state : Exporting Point) (exporter : InfluxDBExporter Point)
    (flusher : Flusher) (flush : Option (Flush Point)) :
    (state.proceed exporter flusher flush).flushOf flusher = flush := by
  cases flusher with
  | flushLoop =>
    cases flush with
    | some flush => rfl
    | none =>
      simp only [proceed, flushOf]
      cases state.running <;> rfl
  | close => cases flush <;> rfl

@[simp] theorem proceed_flushOf_other (state : Exporting Point)
    (exporter : InfluxDBExporter Point) (flusher : Flusher) (flush : Option (Flush Point)) :
    (state.proceed exporter flusher flush).flushOf flusher.other =
      state.flushOf flusher.other := by
  cases flusher <;> cases flush <;> rfl

theorem proceed_held (state : Exporting Point) (exporter : InfluxDBExporter Point)
    (flusher : Flusher) (flush : Option (Flush Point)) :
    ((state.proceed exporter flusher flush).held : Multiset Point) =
      heldIn flush + state.heldBy flusher.other := by
  rw [held_eq _ flusher, heldBy, heldBy, proceed_flushOf, proceed_flushOf_other, heldBy]

/-- The flusher of a step hands over what the step moves. -/
theorem proceed_moved {state : Exporting Point} {next : InfluxDBExporter Point}
    {flusher : Flusher} {flush : Option (Flush Point)} {departed : Departed Point}
    (moved : Moved state.exporter next (state.heldBy flusher) departed (heldIn flush) 0) :
    Moved state.exporter (state.proceed next flusher flush).exporter state.held departed
      (state.proceed next flusher flush).held 0 := by
  rw [proceed_held, held_eq state flusher]
  exact (moved.frame _).ofFields (by simp) (by simp) (by simp)

/-- A flush begins by taking the points of the buffer. -/
theorem flushBuffer_moved {state : Exporting Point} {flusher : Flusher}
    (between : state.flushOf flusher = none) :
    Moved state.exporter (state.flushBuffer flusher).exporter state.held {}
      (state.flushBuffer flusher).held 0 := by
  have nothing : state.heldBy flusher = [] := by rw [heldBy, between, heldIn]
  rw [flushBuffer]
  split
  · refine proceed_moved ⟨?_, rfl, rfl⟩
    rw [nothing, heldIn, Departed.total_nothing, zero_add]
  · refine proceed_moved ⟨?_, rfl, rfl⟩
    rw [nothing, heldIn, Flush.held, Departed.total_nothing, Multiset.coe_nil, zero_add, zero_add,
      add_zero]

@[simp] theorem setConnected_held (state : Exporting Point) (connected : Bool) :
    (state.setConnected connected).held = state.held := rfl

@[simp] theorem startFlushLoop_exporter (state : Exporting Point) :
    state.startFlushLoop.exporter = state.exporter := by
  rw [startFlushLoop]
  split <;> rfl

@[simp] theorem startFlushLoop_flushOf (state : Exporting Point) (flusher : Flusher) :
    state.startFlushLoop.flushOf flusher = state.flushOf flusher := by
  rw [startFlushLoop]
  split
  · next absent =>
    cases flusher with
    | flushLoop => rw [flushOf, flushOf, absent]
    | close => rfl
  · rfl

@[simp] theorem startFlushLoop_held (state : Exporting Point) :
    state.startFlushLoop.held = state.held := by
  simp only [held, heldBy, startFlushLoop_flushOf]

/-- How many points more an event counts as dropped than it drops. -/
def excess (batchSize : Int) : ExporterEvent Point → Nat
  | .write _ => InfluxDBExporter.overcounted batchSize
  | _ => 0

/-- What holds of the exporter in every run: without a positive batch size there is nothing to
flush, and the flush loop is over once closing flushes. -/
structure Settled (batchSize : Int) (state : Exporting Point) : Prop where
  degenerate : batchSize ≤ 0 →
    state.exporter.buffer = [] ∧ ∀ flusher, state.flushOf flusher = none
  joined : state.closing = .working ∨ state.closing = .joining ∨
    state.flushLoop = .absent ∨ state.flushLoop = .ended

/-- What a step does, by its event and where the tasks stand. -/
inductive Stepped (batchSize : Int) (state : Exporting Point) :
    ExporterEvent Point → Exporting Point → Prop where
  | connect (succeeded : Bool) (working : state.closing = .working) :
    Stepped batchSize state (.connect succeeded)
      (state.setConnected (succeeded || state.exporter.connected)).startFlushLoop
  | write (points : List Point) :
    Stepped batchSize state (.write points)
      { state with exporter := state.exporter.write batchSize points }
  | woken (idle : state.flushLoop = .idle) :
    Stepped batchSize state .woken (state.flushBuffer .flushLoop)
  | reconnected (idle : state.flushLoop = .idle) :
    Stepped batchSize state (.reconnected true)
      ((state.setConnected true).flushBuffer .flushLoop)
  | stayedDisconnected :
    Stepped batchSize state (.reconnected false) (state.setConnected false)
  | flush (flusher : Flusher) (event : FlushEvent) (flush : Flush Point)
      (left : InfluxDBExporter Point × Option (Flush Point))
      (current : state.flushOf flusher = some flush)
      (flushed : state.exporter.flushStep batchSize flush event = some left) :
    Stepped batchSize state (.flush flusher event) (state.proceed left.1 flusher left.2)
  | closeUnstarted (working : state.closing = .working) (absent : state.flushLoop = .absent) :
    Stepped batchSize state .close (state.flushBuffer .close)
  | close (working : state.closing = .working) :
    Stepped batchSize state .close { state with closing := .joining }
  | cancelled : Stepped batchSize state .cancelled { state with flushLoop := .ended }
  | joined (joining : state.closing = .joining) (ended : state.flushLoop = .ended) :
    Stepped batchSize state .joined (state.flushBuffer .close)

theorem stepped {batchSize : Int} {state next : Exporting Point} {event : ExporterEvent Point}
    (step : state.step batchSize event = some next) : Stepped batchSize state event next := by
  cases event with
  | connect succeeded =>
    simp only [Exporting.step, Option.ite_none_right_eq_some, Option.some.injEq] at step
    obtain ⟨running, rfl⟩ := step
    refine .connect succeeded ?_
    rw [Exporting.running] at running
    split at running
    · assumption
    · cases running
  | write points => exact Option.some.inj step ▸ .write points
  | woken =>
    simp only [Exporting.step] at step
    split at step
    · next idle _ => exact Option.some.inj step ▸ .woken idle
    · cases step
  | reconnected succeeded =>
    simp only [Exporting.step] at step
    split at step
    · next idle => exact Option.some.inj step ▸ .reconnected idle
    · exact Option.some.inj step ▸ .stayedDisconnected
    · cases step
  | flush flusher event =>
    simp only [Exporting.step] at step
    split at step
    · next flush current =>
      obtain ⟨left, flushed, rfl⟩ := Option.map_eq_some_iff.mp step
      exact .flush flusher event flush left current flushed
    · cases step
  | close =>
    simp only [Exporting.step] at step
    split at step
    · next working absent => exact Option.some.inj step ▸ .closeUnstarted working absent
    · next working _ => exact Option.some.inj step ▸ .close working
    · cases step
  | cancelled =>
    simp only [Exporting.step] at step
    split at step
    · exact Option.some.inj step ▸ .cancelled
    · exact Option.some.inj step ▸ .cancelled
    · cases step
  | joined =>
    simp only [Exporting.step] at step
    split at step
    · next joining ended => exact Option.some.inj step ▸ .joined joining ended
    · cases step

theorem flushOf_flushLoop_eq_none {state : Exporting Point}
    (outside : state.flushLoop = .absent ∨ state.flushLoop = .idle ∨ state.flushLoop = .ended) :
    state.flushOf .flushLoop = none := by
  rw [flushOf]
  obtain outside | outside | outside := outside <;> rw [outside]

theorem flushOf_close_eq_none {state : Exporting Point}
    (before : state.closing = .working ∨ state.closing = .joining) :
    state.flushOf .close = none := by
  rw [flushOf]
  obtain before | before := before <;> rw [before]

/-- What a step does to the points. -/
theorem Stepped.moved {batchSize : Int} {state next : Exporting Point}
    {event : ExporterEvent Point} (settled : Settled batchSize state)
    (stepped : Stepped batchSize state event next) :
    Moved state.exporter next.exporter (state.held + writtenBy event)
      (state.departures batchSize event) next.held (excess batchSize event) := by
  cases stepped with
  | connect succeeded working =>
    refine Moved.noneWritten ⟨?_, ?_, ?_⟩
    · rw [startFlushLoop_exporter, startFlushLoop_held, setConnected_held]
      exact congrArg₂ _ (zero_add _) rfl
    · rw [startFlushLoop_exporter]
      rfl
    · rw [startFlushLoop_exporter]
      rfl
  | write points =>
    have moved := (state.exporter.write_moved batchSize points).frame state.held
    rw [zero_add, add_comm] at moved
    exact moved
  | woken idle =>
    exact (flushBuffer_moved (flushOf_flushLoop_eq_none (.inr (.inl idle)))).noneWritten
  | reconnected idle =>
    have between : (state.setConnected true).flushOf .flushLoop = none :=
      flushOf_flushLoop_eq_none (.inr (.inl idle))
    have begun := flushBuffer_moved between
    exact Moved.noneWritten ⟨begun.flow, begun.rejected, begun.dropped⟩
  | stayedDisconnected =>
    exact Moved.noneWritten ⟨congrArg₂ _ (zero_add _) rfl, rfl, rfl⟩
  | flush flusher event flush left current flushed =>
    have positive : 0 < batchSize := by
      by_contra degenerate
      have nothing := (settled.degenerate (by omega)).2 flusher
      rw [current] at nothing
      cases nothing
    have moved := InfluxDBExporter.flushStep_moved positive flushed
    have handed : flush.held = state.heldBy flusher := by rw [heldBy, current, heldIn]
    rw [handed] at moved
    rw [departures, current]
    exact (proceed_moved moved).noneWritten
  | closeUnstarted working absent =>
    exact (flushBuffer_moved (flushOf_close_eq_none (.inl working))).noneWritten
  | close working =>
    have none : state.heldBy .close = [] := by
      rw [heldBy, flushOf_close_eq_none (.inl working), heldIn]
    refine Moved.noneWritten ⟨?_, rfl, rfl⟩
    rw [held, held, none]
    exact congrArg₂ _ (zero_add _) rfl
  | cancelled =>
    refine Moved.noneWritten ⟨?_, rfl, rfl⟩
    rw [held_eq state .flushLoop, held_eq _ .flushLoop, departures, Departed.total_lost]
    simp only [heldBy, flushOf, heldIn, Flusher.other, Multiset.coe_nil, zero_add]
    abel
  | joined joining ended =>
    exact (flushBuffer_moved (flushOf_close_eq_none (.inr joining))).noneWritten

theorem flushBuffer_of_nil {state : Exporting Point} (empty : state.exporter.buffer = [])
    (flusher : Flusher) :
    state.flushBuffer flusher = state.proceed state.exporter flusher none := by
  rw [flushBuffer, empty, List.isEmpty_nil, if_pos rfl]

theorem proceed_closing (state : Exporting Point) (exporter : InfluxDBExporter Point)
    (flush : Option (Flush Point)) :
    (state.proceed exporter .flushLoop flush).closing = state.closing := by
  cases flush <;> rfl

theorem proceed_flushLoop (state : Exporting Point) (exporter : InfluxDBExporter Point)
    (flush : Option (Flush Point)) :
    (state.proceed exporter .close flush).flushLoop = state.flushLoop := by
  cases flush <;> rfl

theorem flushBuffer_closing (state : Exporting Point) :
    (state.flushBuffer .flushLoop).closing = state.closing := by
  rw [flushBuffer]
  split <;> exact proceed_closing _ _ _

theorem flushBuffer_flushLoop (state : Exporting Point) :
    (state.flushBuffer .close).flushLoop = state.flushLoop := by
  rw [flushBuffer]
  split <;> exact proceed_flushLoop _ _ _

/-- Without a positive batch size a flush ends before it takes anything. -/
theorem flushBuffer_degenerate {state : Exporting Point}
    (nothing : state.exporter.buffer = [] ∧ ∀ flusher, state.flushOf flusher = none)
    (flusher : Flusher) :
    (state.flushBuffer flusher).exporter.buffer = [] ∧
      ∀ other, (state.flushBuffer flusher).flushOf other = none := by
  rw [flushBuffer_of_nil nothing.1, proceed_buffer]
  refine ⟨nothing.1, fun other => ?_⟩
  by_cases same : other = flusher
  · rw [same, proceed_flushOf]
  · have opposite : other = flusher.other := by
      cases other <;> cases flusher <;> first | rfl | exact absurd rfl same
    rw [opposite, proceed_flushOf_other, nothing.2]

/-- While the flush loop is not over, closing has not come to its flush. -/
theorem Settled.before {batchSize : Int} {state : Exporting Point}
    (settled : Settled batchSize state) (present : state.flushLoop ≠ .absent)
    (going : state.flushLoop ≠ .ended) :
    state.closing = .working ∨ state.closing = .joining := by
  simpa only [present, going, or_false] using settled.joined

theorem Settled.setConnected {batchSize : Int} {state : Exporting Point}
    (settled : Settled batchSize state) (connected : Bool) :
    Settled batchSize (state.setConnected connected) where
  degenerate := settled.degenerate
  joined := settled.joined

/-- The flush loop begins a flush. -/
theorem Settled.beginFlush {batchSize : Int} {state : Exporting Point}
    (settled : Settled batchSize state) (idle : state.flushLoop = .idle) :
    Settled batchSize (state.flushBuffer .flushLoop) where
  degenerate degenerate := flushBuffer_degenerate (settled.degenerate degenerate) _
  joined := by
    rw [flushBuffer_closing]
    exact (settled.before (by simp [idle]) (by simp [idle])).imp id .inl

/-- Closing begins its flush. -/
theorem Settled.beginFinalFlush {batchSize : Int} {state : Exporting Point}
    (settled : Settled batchSize state)
    (outside : state.flushLoop = .absent ∨ state.flushLoop = .ended) :
    Settled batchSize (state.flushBuffer .close) where
  degenerate degenerate := flushBuffer_degenerate (settled.degenerate degenerate) _
  joined := by
    rw [flushBuffer_flushLoop]
    exact .inr (.inr outside)

/-- A flush goes on. -/
theorem Settled.proceed {batchSize : Int} {state : Exporting Point}
    (settled : Settled batchSize state) {flusher : Flusher} {flush : Flush Point}
    (current : state.flushOf flusher = some flush) (exporter : InfluxDBExporter Point)
    (left : Option (Flush Point)) : Settled batchSize (state.proceed exporter flusher left) where
  degenerate degenerate := by
    rw [(settled.degenerate degenerate).2 flusher] at current
    cases current
  joined := by
    cases flusher with
    | flushLoop =>
      rw [proceed_closing]
      refine (settled.before ?_ ?_).imp id .inl
      all_goals
        intro outside
        rw [flushOf, outside] at current
        cases current
    | close =>
      rw [proceed_flushLoop]
      refine .inr (.inr ((settled.joined.resolve_left ?_).resolve_left ?_))
      all_goals
        intro outside
        rw [flushOf, outside] at current
        cases current

/-- What holds of the exporter in every run is kept by every step. -/
theorem Stepped.settled {batchSize : Int} {state next : Exporting Point}
    {event : ExporterEvent Point} (settled : Settled batchSize state)
    (stepped : Stepped batchSize state event next) : Settled batchSize next := by
  cases stepped with
  | connect succeeded working =>
    refine ⟨fun degenerate => ?_, .inl ?_⟩
    · simp only [startFlushLoop_exporter, startFlushLoop_flushOf]
      exact settled.degenerate degenerate
    · rw [startFlushLoop]
      split <;> exact working
  | write points =>
    refine ⟨fun degenerate => ⟨?_, (settled.degenerate degenerate).2⟩, settled.joined⟩
    exact InfluxDBExporter.write_buffer_nil degenerate _ _
  | woken idle => exact settled.beginFlush idle
  | reconnected idle => exact (settled.setConnected true).beginFlush idle
  | stayedDisconnected => exact settled.setConnected false
  | flush flusher event flush left current flushed =>
    exact settled.proceed current left.1 left.2
  | closeUnstarted working absent => exact settled.beginFinalFlush (.inl absent)
  | close working =>
    refine ⟨fun degenerate => ⟨(settled.degenerate degenerate).1, fun flusher => ?_⟩,
      .inr (.inl rfl)⟩
    cases flusher with
    | flushLoop => exact (settled.degenerate degenerate).2 .flushLoop
    | close => rfl
  | cancelled =>
    refine ⟨fun degenerate => ⟨(settled.degenerate degenerate).1, fun flusher => ?_⟩,
      .inr (.inr (.inr rfl))⟩
    cases flusher with
    | flushLoop => rfl
    | close => exact (settled.degenerate degenerate).2 .close
  | joined joining ended => exact settled.beginFinalFlush (.inr ended)

/-- When closing has finished, no flush holds a point. -/
theorem Settled.held_closed {batchSize : Int} {state : Exporting Point}
    (settled : Settled batchSize state) (closed : state.closing = .closed) : state.held = [] := by
  have outside : state.flushLoop = .absent ∨ state.flushLoop = .ended := by
    simpa only [closed, reduceCtorEq, false_or] using settled.joined
  have between : state.flushOf .flushLoop = none :=
    flushOf_flushLoop_eq_none (outside.imp id .inr)
  have done : state.flushOf .close = none := by rw [flushOf, closed]
  rw [held, heldBy, heldBy, between, done]
  rfl

end Exporting

/-! ### The account of a run -/

namespace Account

/-- What holds in every run: all points are somewhere, and the counters never count too little. -/
structure Sound (batchSize : Int) (account : Account Point) : Prop where
  settled : account.exporting.Settled batchSize
  flow : (account.written : Multiset Point) =
    account.departed.total + account.exporting.exporter.buffer + account.exporting.held
  rejected : account.exporting.exporter.rejectedPoints = account.departed.rejected.length
  dropped : account.departed.dropped.length ≤ account.exporting.exporter.droppedPoints

/-- No point was lost, and the dropped ones are counted. -/
structure Clean (account : Account Point) : Prop where
  kept : account.departed.lost = []
  counted : account.exporting.exporter.droppedPoints = account.departed.dropped.length

theorem sound_start (batchSize : Int) : Sound batchSize ({} : Account Point) := by
  refine ⟨⟨fun _ => ⟨rfl, fun flusher => ?_⟩, .inl rfl⟩, rfl, rfl, Nat.le_refl _⟩
  cases flusher <;> rfl

theorem clean_start : Clean ({} : Account Point) := ⟨rfl, rfl⟩

theorem sound_step {batchSize : Int} {account next : Account Point} {event : ExporterEvent Point}
    (sound : Sound batchSize account)
    (step : (accountMachine batchSize).step account event = some next) : Sound batchSize next := by
  obtain ⟨exporting, stepped, rfl⟩ := Option.map_eq_some_iff.mp step
  have moved := (Exporting.stepped stepped).moved sound.settled
  refine ⟨(Exporting.stepped stepped).settled sound.settled, ?_, ?_, ?_⟩
  · rw [Departed.append_total, add_assoc, add_assoc,
      ← add_assoc _ _ (exporting.held : Multiset Point), moved.flow, ← Multiset.coe_add,
      sound.flow]
    abel
  · simp only [Departed.append, List.length_append, moved.rejected, sound.rejected]
  · have enough := sound.dropped
    simp only [Departed.append, List.length_append, moved.dropped]
    omega

end Account

/-- An event loses track of no point exactly when it loses none and counts no drop too many. -/
theorem lossless_iff (batchSize : Int) (state : Exporting Point) (event : ExporterEvent Point) :
    Lossless batchSize state event ↔
      (state.departures batchSize event).lost = [] ∧ Exporting.excess batchSize event = 0 := by
  cases event with
  | write points =>
    rw [Lossless, Exporting.excess, InfluxDBExporter.overcounted_eq_zero]
    exact ⟨fun within => ⟨rfl, within⟩, And.right⟩
  | flush flusher event =>
    refine ⟨fun _ => ⟨?_, rfl⟩, fun _ => trivial⟩
    rw [Exporting.departures]
    split
    · exact InfluxDBExporter.flushDepartures_lost batchSize _ _ _
    · rfl
  | cancelled => exact ⟨fun held => ⟨held, rfl⟩, And.left⟩
  | _ => exact ⟨fun _ => ⟨rfl, rfl⟩, fun _ => trivial⟩

namespace Account

/-- A step leaves the account clean exactly when it was clean and the event is lossless. -/
theorem clean_step {batchSize : Int} {account next : Account Point} {event : ExporterEvent Point}
    (sound : Sound batchSize account)
    (step : (accountMachine batchSize).step account event = some next) :
    Clean next ↔ Clean account ∧ Lossless batchSize account.exporting event := by
  obtain ⟨exporting, stepped, rfl⟩ := Option.map_eq_some_iff.mp step
  have moved := (Exporting.stepped stepped).moved sound.settled
  have enough := sound.dropped
  rw [lossless_iff]
  constructor
  · intro clean
    obtain ⟨before, now⟩ := List.append_eq_nil_iff.mp clean.kept
    have counted := clean.counted
    simp only [Departed.append, List.length_append, moved.dropped] at counted
    exact ⟨⟨before, by omega⟩, now, by omega⟩
  · rintro ⟨clean, now, exactly⟩
    refine ⟨List.append_eq_nil_iff.mpr ⟨clean.kept, now⟩, ?_⟩
    simp only [Departed.append, List.length_append, moved.dropped, clean.counted, exactly,
      Nat.add_zero]

/-- The written points are accounted for exactly when none was lost and the drops are counted. -/
theorem accounted_iff_clean {batchSize : Int} {account : Account Point}
    (sound : Sound batchSize account) : Accounted account ↔ Clean account := by
  constructor
  · intro accounted
    refine ⟨?_, accounted.dropped⟩
    have partition := Multiset.coe_eq_coe.mpr accounted.partition
    simp only [← Multiset.coe_add] at partition
    have flow := sound.flow
    rw [Departed.total, partition] at flow
    refine (Multiset.coe_eq_zero _).mp (add_eq_left.mp (Eq.trans ?_ flow.symm))
    abel
  · intro clean
    refine ⟨Multiset.coe_eq_coe.mp ?_, sound.rejected, clean.counted⟩
    rw [sound.flow, Departed.total, clean.kept, Multiset.coe_nil, add_zero]
    simp only [← Multiset.coe_add]

end Account

/-- In every run of the exporter, with any interleaving of its tasks and any answers of the server,
the written points are accounted for exactly when every event lost track of none. And when closing
has finished, no flush holds a point any more. -/
theorem points_accounted_iff {batchSize : Int} {events : List (ExporterEvent Point)}
    {final : Account Point}
    (run : (accountMachine batchSize).run {} events = some final) :
    (Accounted final ↔
      (accountMachine batchSize).Throughout
        (fun account event => Lossless batchSize account.exporting event) {} events) ∧
      (final.exporting.closing = .closed → final.exporting.held = []) := by
  have sound : Account.Sound batchSize final :=
    (accountMachine batchSize).run_invariant Account.sound_step (Account.sound_start batchSize) run
  refine ⟨?_, sound.settled.held_closed⟩
  rw [Account.accounted_iff_clean sound,
    (accountMachine batchSize).run_iff Account.sound_step Account.clean_step
      (Account.sound_start batchSize) run]
  exact and_iff_right Account.clean_start

/-- Whether an event is lossless can be decided. -/
instance [DecidableEq Point] (batchSize : Int) (state : Exporting Point) :
    (event : ExporterEvent Point) → Decidable (Lossless batchSize state event)
  | .connect _ => isTrue trivial
  | .write _ => inferInstanceAs (Decidable (0 ≤ batchSize))
  | .woken => isTrue trivial
  | .reconnected _ => isTrue trivial
  | .flush _ _ => isTrue trivial
  | .close => isTrue trivial
  | .cancelled => inferInstanceAs (Decidable (state.heldBy .flushLoop = []))
  | .joined => isTrue trivial

/-- A run in which a batch with a point the server refuses is cut, a batch that fails is queued
again while other points are written, and closing comes between two flushes. -/
def quietClose : List (ExporterEvent Nat) :=
  [.connect true, .write [1, 2, 3], .woken, .flush .flushLoop .connectionRead,
    .flush .flushLoop (.answered 0 .refused), .write [4],
    .flush .flushLoop (.answered 1 .failed), .flush .flushLoop (.answered 0 .accepted),
    .flush .flushLoop (.answered 0 .refused), .flush .flushLoop .gathered, .close, .cancelled,
    .joined, .flush .close .connectionRead, .flush .close (.answered 0 .accepted),
    .flush .close .gathered]

/-- The accepted, rejected and buffered points of that run, and where closing stands. -/
theorem quietClose_completes :
    ((accountMachine 2).run {} quietClose).any (fun final =>
      final.exporting.closing == .closed && final.departed.accepted == [1, 3, 4] &&
        final.departed.rejected == [2] && final.exporting.exporter.rejectedPoints == 1) = true := by
  decide +kernel

theorem quietClose_accounted :
    ∃ final, (accountMachine 2).run {} quietClose = some final ∧ Accounted final ∧
      final.exporting.held = [] := by
  obtain ⟨final, run, passes⟩ := (accountMachine 2).exists_of_any quietClose_completes
  simp only [Bool.and_eq_true, beq_iff_eq] at passes
  have settled := points_accounted_iff run
  exact ⟨final, run, settled.1.mpr (by decide +kernel), settled.2 passes.1.1.1⟩

/-- A close that cancels the flush loop while its batch is with the server. -/
def cancelledFlush : List (ExporterEvent Nat) :=
  [.connect true, .write [1, 2], .woken, .flush .flushLoop .connectionRead, .close, .cancelled,
    .joined]

/-- When that close has finished, the points of the write are nowhere. -/
theorem cancelledFlush_completes :
    ((accountMachine 1000).run {} cancelledFlush).any (fun final =>
      final.exporting.closing == .closed && final.written == [1, 2] &&
        (final.departed.accepted ++ final.departed.rejected ++ final.departed.dropped ++
          final.exporting.exporter.buffer ++ final.exporting.held) == []) = true := by
  decide +kernel

theorem cancelledFlush_unaccounted :
    ∃ final, (accountMachine 1000).run {} cancelledFlush = some final ∧
      final.exporting.closing = .closed ∧ final.written = [1, 2] ∧ ¬ Accounted final := by
  obtain ⟨final, run, passes⟩ := (accountMachine 1000).exists_of_any cancelledFlush_completes
  simp only [Bool.and_eq_true, beq_iff_eq] at passes
  obtain ⟨⟨closed, written⟩, nowhere⟩ := passes
  refine ⟨final, run, closed, written, fun accounted => ?_⟩
  have partition := accounted.partition
  rw [nowhere, written] at partition
  exact absurd partition.length_eq (by decide)

end Gyanam
