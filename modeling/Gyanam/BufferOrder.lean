/-
This file follows the order of the points in the exporter's buffer. Every point is
numbered when it arrives; a flush takes the whole buffer away, new points gather
meanwhile, and what failed is put back in front of them. A batch whose write
raises goes back whole, and so does the whole flush if taking note of the results
raises.

What a flush holds for a batch is part of that batch in order, so what it puts
back is in order and older than everything in the buffer. The buffer is in order
at every moment, then, and cutting it from the front drops the oldest points.
-/

import Gyanam.ExporterAccount

namespace Gyanam

variable {Point : Type}

/-! ### Numbered points -/

/-- A point, and how many points arrived before it. -/
abbrev Arrival (Point : Type) := Point × Nat

/-- Points arrive one after the other. -/
def Increasing (arrivals : List (Arrival Point)) : Prop :=
  arrivals.Pairwise fun first second => first.2 < second.2

/-- An event of the exporter, with its points numbered. -/
def ExporterEvent.number (arrived : Nat) : ExporterEvent Point → ExporterEvent (Arrival Point)
  | .connect succeeded => .connect succeeded
  | .write points => .write (points.zipIdx arrived)
  | .woken => .woken
  | .reconnected succeeded => .reconnected succeeded
  | .flush flusher event => .flush flusher event
  | .close => .close
  | .cancelled => .cancelled
  | .joined => .joined

/-! ### The machine -/

/-- The exporter over numbered points, how many points have arrived, and the points that the last
flush took. -/
structure Buffering (Point : Type) where
  exporting : Exporting (Arrival Point) := {}
  arrived : Nat := 0
  taken : List (Arrival Point) := []
  deriving DecidableEq, Repr

/-- What happens: an event of the exporter; or the write of a batch raises, or taking note of the
results of a flush does. -/
inductive BufferEvent (Point : Type) where
  | exporter (event : ExporterEvent Point)
  | batchRaised (flusher : Flusher) (index : Nat)
  | resultsRaised (flusher : Flusher)
  deriving DecidableEq, Repr

/-- The points that a flush has taken and not begun to write. -/
def Flush.connectingPoints : Flush Point → Option (List Point)
  | .connecting points => some points
  | _ => none

namespace Buffering

/-- The buffer. -/
def buffer (state : Buffering Point) : List (Arrival Point) := state.exporting.exporter.buffer

/-- How many points were counted as dropped. -/
def dropped (state : Buffering Point) : Nat := state.exporting.exporter.droppedPoints

/-- The points that the exporter's flush, if it has just begun, has taken; else those taken last. -/
def takenBy (state : Buffering Point) (next : Exporting (Arrival Point)) : List (Arrival Point) :=
  (((next.flushOf .flushLoop).bind Flush.connectingPoints).or
    ((next.flushOf .close).bind Flush.connectingPoints)).getD state.taken

/-- The batches of the flush in progress. -/
def batches (batchSize : Int) (state : Buffering Point) : List (List (Arrival Point)) :=
  SortedList.chunks batchSize.toNat state.taken

/-- One event. -/
def step (batchSize : Int) (state : Buffering Point) :
    BufferEvent Point → Option (Buffering Point)
  | .exporter event =>
    (state.exporting.step batchSize (event.number state.arrived)).map fun next =>
      { exporting := next
        arrived := state.arrived + (Exporting.writtenBy event).length
        taken := state.takenBy next }
  | .batchRaised flusher index =>
    match state.exporting.flushOf flusher, (state.batches batchSize)[index]? with
    | some (.writing tasks), some batch =>
      if (tasks[index]?.any fun task => !task.pending.isEmpty) = true then
        let raised := Flush.writing (tasks.set index { pending := [], retryPoints := batch })
        some { state with
          exporting := state.exporting.proceed state.exporting.exporter flusher (some raised) }
      else none
    | _, _ => none
  | .resultsRaised flusher =>
    match state.exporting.flushOf flusher with
    | some (.writing tasks) =>
      if (tasks.all fun task => task.pending.isEmpty) = true then
        let failures := state.exporting.exporter.consecutiveBatchFailures + 1
        let counted := { state.exporting.exporter with consecutiveBatchFailures := failures }
        let stepped := (counted.reAddPoints batchSize state.taken).resetIfFailing
        some { state with exporting := state.exporting.proceed stepped.1 flusher stepped.2 }
      else none
    | _ => none

end Buffering

def bufferMachine (batchSize : Int) : Machine (Buffering Point) (BufferEvent Point) :=
  ⟨Buffering.step batchSize⟩

/-! ### What is merged -/

namespace InfluxDBExporter

/-- The points that are merged with the buffer at the end of a step of a flush: those it puts back
in front of the buffer. -/
def putBack (batchSize : Int) (exporter : InfluxDBExporter Point) :
    Flush Point → FlushEvent → Option (List Point)
  | .connecting points, .connectionRead =>
    if exporter.connected ∧ batchSize ≠ 0 then none else some points
  | .writing tasks, .gathered =>
    if (tasks.flatMap BatchTask.retryPoints).isEmpty then none
    else some (tasks.flatMap BatchTask.retryPoints)
  | _, _ => none

end InfluxDBExporter

namespace Buffering

/-- The points among which an event drops: those it puts back, the buffer, and those that arrive. -/
def merged (batchSize : Int) (state : Buffering Point) :
    BufferEvent Point → Option (List (Arrival Point))
  | .exporter (.write points) => some (state.buffer ++ points.zipIdx state.arrived)
  | .exporter (.flush flusher event) =>
    ((state.exporting.flushOf flusher).bind fun flush =>
      state.exporting.exporter.putBack batchSize flush event).map (· ++ state.buffer)
  | .resultsRaised _ => some (state.taken ++ state.buffer)
  | _ => none

end Buffering

/-! ### Cutting the buffer -/

namespace InfluxDBExporter

/-- How many of some points are over the bound. -/
def overflow (batchSize : Int) (points : List Point) : Nat :=
  points.length - (maxBufferSize batchSize).toNat

theorem maxBufferSize_pos {batchSize : Int} (positive : 0 < batchSize) :
    0 < maxBufferSize batchSize := by
  simp only [maxBufferSize, maxBufferAbsolute]
  omega

/-- A write keeps the newest points. -/
theorem write_eq {batchSize : Int} (positive : 0 < batchSize) (exporter : InfluxDBExporter Point)
    (points : List Point) :
    exporter.write batchSize points = { exporter with
      buffer := (exporter.buffer ++ points).drop (overflow batchSize (exporter.buffer ++ points))
      droppedPoints :=
        exporter.droppedPoints + overflow batchSize (exporter.buffer ++ points) } := by
  have bound := maxBufferSize_pos positive
  simp only [write]
  split
  · next closing =>
    have same : (((exporter.buffer ++ points).length : Int) - maxBufferSize batchSize).toNat =
        overflow batchSize (exporter.buffer ++ points) := by
      unfold overflow
      omega
    rw [same]
  · next within =>
    have zero : overflow batchSize (exporter.buffer ++ points) = 0 := by
      unfold overflow
      omega
    rw [zero, List.drop_zero, Nat.add_zero]

/-- Putting points back keeps the newest points. -/
theorem reAddPoints_eq {batchSize : Int} (positive : 0 < batchSize)
    (exporter : InfluxDBExporter Point) (points : List Point) :
    exporter.reAddPoints batchSize points = { exporter with
      buffer := (points ++ exporter.buffer).drop (overflow batchSize (points ++ exporter.buffer))
      droppedPoints :=
        exporter.droppedPoints + overflow batchSize (points ++ exporter.buffer) } := by
  have bound := maxBufferSize_pos positive
  simp only [reAddPoints, sliceFromEnd, if_pos bound]
  split
  · next closing =>
    have same : (((points ++ exporter.buffer).length : Int) - maxBufferSize batchSize).toNat =
        overflow batchSize (points ++ exporter.buffer) := by
      unfold overflow
      omega
    rw [same]
    rfl
  · next within =>
    have zero : overflow batchSize (points ++ exporter.buffer) = 0 := by
      unfold overflow
      omega
    rw [zero, List.drop_zero, Nat.add_zero]

end InfluxDBExporter

/-! ### Points in order -/

/-- Points in order of arrival, all of them among the first so many to arrive. -/
structure InOrder (arrived : Nat) (arrivals : List (Arrival Point)) : Prop where
  increasing : Increasing arrivals
  below : ∀ arrival ∈ arrivals, arrival.2 < arrived

namespace InOrder

theorem sublist {arrived : Nat} {arrivals part : List (Arrival Point)}
    (inOrder : InOrder arrived arrivals) (sublist : part.Sublist arrivals) :
    InOrder arrived part :=
  ⟨inOrder.increasing.sublist sublist, fun _ member => inOrder.below _ (sublist.subset member)⟩

/-- The points of a write arrive after all others. -/
theorem append {arrived : Nat} {arrivals : List (Arrival Point)}
    (inOrder : InOrder arrived arrivals) (points : List Point) :
    InOrder (arrived + points.length) (arrivals ++ points.zipIdx arrived) := by
  refine ⟨List.pairwise_append.mpr ⟨inOrder.increasing, ?_, fun first member second new => ?_⟩,
    fun arrival member => ?_⟩
  · refine List.pairwise_iff_getElem.mpr fun first second _ _ before => ?_
    simp only [List.getElem_zipIdx]
    omega
  · have earlier := inOrder.below first member
    have later := (List.mem_zipIdx new).1
    omega
  · obtain old | new := List.mem_append.mp member
    · exact Nat.lt_add_right _ (inOrder.below _ old)
    · exact (List.mem_zipIdx new).2.1

end InOrder

/-! ### What a flush holds -/

/-- What a flush holds is in order, and older than the buffer: it holds all the points it took, or
part of each of their batches. -/
def HoldsPart (batchSize : Int) (state : Buffering Point) : Flush (Arrival Point) → Prop
  | .connecting points =>
    points = state.taken ∧ InOrder state.arrived (state.taken ++ state.buffer)
  | .writing tasks =>
    List.Forall₂ (fun task batch => task.held.Sublist batch) tasks (state.batches batchSize) ∧
      InOrder state.arrived (state.taken ++ state.buffer)
  | .resetting => True

/-- What holds of the buffer in every run. -/
structure Ordered (batchSize : Int) (state : Buffering Point) : Prop where
  settled : state.exporting.Settled batchSize
  bounded : (state.buffer.length : Int) ≤ maxBufferSize batchSize
  inOrder : InOrder state.arrived state.buffer
  holdsPart : ∀ flusher flush, state.exporting.flushOf flusher = some flush →
    HoldsPart batchSize state flush

/-- No two flushes are in progress. -/
theorem Exporting.Settled.alone {batchSize : Int} {state : Exporting Point}
    (settled : Settled batchSize state) {flusher : Flusher} {flush : Flush Point}
    (current : state.flushOf flusher = some flush) : state.flushOf flusher.other = none := by
  have either : state.flushOf .flushLoop = none ∨ state.flushOf .close = none := by
    obtain working | joining | absent | ended := settled.joined
    · exact .inr (flushOf_close_eq_none (.inl working))
    · exact .inr (flushOf_close_eq_none (.inr joining))
    · exact .inl (flushOf_flushLoop_eq_none (.inl absent))
    · exact .inl (flushOf_flushLoop_eq_none (.inr (.inr ended)))
  cases flusher with
  | flushLoop => exact either.resolve_left (by rw [current]; exact Option.some_ne_none _)
  | close => exact either.resolve_right (by rw [current]; exact Option.some_ne_none _)

namespace BatchTask

/-- Before its first request a task holds its batch. -/
theorem held_start_eq (batch : List Point) : (start batch).held = batch := by
  rw [held, start, List.nil_append, flatten_writeRequests]
  exact List.append_nil batch

/-- With every answer a task holds a part of what it held, in the same order. -/
theorem held_answer_sublist {task : BatchTask Point} {piece : List Point}
    {rest : List (List Point)} (pending : task.pending = piece :: rest) (outcome : WriteOutcome) :
    (task.answer piece rest outcome).held.Sublist task.held := by
  rw [held, held, pending, List.flatten_cons]
  cases outcome with
  | accepted =>
    exact (List.Sublist.refl _).append (List.sublist_append_right _ _)
  | failed =>
    rw [answer, List.append_assoc]
  | refused =>
    rw [answer, List.flatten_append]
    refine (List.Sublist.refl _).append (List.Sublist.append ?_ (List.Sublist.refl _))
    by_cases several : piece.length = 1
    · rw [isolateUnprocessable, if_pos several]
      exact List.nil_sublist _
    · rw [flatten_isolateUnprocessable several]

theorem retryPoints_sublist_held (task : BatchTask Point) :
    task.retryPoints.Sublist task.held :=
  List.sublist_append_left _ _

end BatchTask

/-- Lists of which each holds a part of its counterpart make up a part of the whole. -/
theorem flatMap_sublist {Task : Type} {part : Task → List Point} {tasks : List Task}
    {batches : List (List Point)}
    (parts : List.Forall₂ (fun task batch => (part task).Sublist batch) tasks batches) :
    (tasks.flatMap part).Sublist batches.flatten := by
  induction parts with
  | nil => exact List.Sublist.refl _
  | cons head _ inductionHypothesis =>
    rw [List.flatMap_cons, List.flatten_cons]
    exact head.append inductionHypothesis

/-- Changing one task keeps a relation to the batches that the change keeps. -/
theorem forall₂_set {Task Batch : Type} {related : Task → Batch → Prop} {tasks : List Task}
    {batches : List Batch} (pairs : List.Forall₂ related tasks batches) {index : Nat}
    {changed : Task} (keeps : ∀ task batch, tasks[index]? = some task →
      batches[index]? = some batch → related task batch → related changed batch) :
    List.Forall₂ related (tasks.set index changed) batches := by
  induction pairs generalizing index with
  | nil => exact .nil
  | cons head tail inductionHypothesis =>
    cases index with
    | zero => exact .cons (keeps _ _ rfl rfl head) tail
    | succ index => exact .cons head (inductionHypothesis keeps)

/-! ### The steps of a flush -/

namespace Buffering

variable {batchSize : Int} {state : Buffering Point}

theorem flatten_batches (positive : 0 < batchSize) :
    (state.batches batchSize).flatten = state.taken :=
  SortedList.flatten_chunks (by omega) state.taken

/-- What a flush puts back is a part of what it took, and older than the buffer. -/
theorem putBack_inOrder (positive : 0 < batchSize) {flush : Flush (Arrival Point)}
    (holdsPart : HoldsPart batchSize state flush) {event : FlushEvent}
    {points : List (Arrival Point)}
    (putBack : state.exporting.exporter.putBack batchSize flush event = some points) :
    InOrder state.arrived (points ++ state.buffer) := by
  unfold InfluxDBExporter.putBack at putBack
  split at putBack
  · next held =>
    obtain ⟨rfl, inOrder⟩ := holdsPart
    obtain ⟨-, same⟩ := Option.ite_none_left_eq_some.mp putBack
    rwa [← Option.some.inj same]
  · next tasks =>
    obtain ⟨parts, inOrder⟩ := holdsPart
    obtain ⟨-, same⟩ := Option.ite_none_left_eq_some.mp putBack
    refine inOrder.sublist (List.Sublist.append ?_ (List.Sublist.refl _))
    rw [← Option.some.inj same, ← flatten_batches positive]
    exact flatMap_sublist (parts.imp fun task _ part =>
      task.retryPoints_sublist_held.trans part)
  · cases putBack

end Buffering

namespace InfluxDBExporter

/-- A flush either puts points back and holds none afterwards, or leaves the buffer alone. -/
inductive Flushed (batchSize : Int) (exporter : InfluxDBExporter Point) (flush : Flush Point)
    (event : FlushEvent) : InfluxDBExporter Point → Option (Flush Point) → Prop where
  | putBack (points : List Point) (next : InfluxDBExporter Point) (left : Option (Flush Point))
      (put : exporter.putBack batchSize flush event = some points)
      (buffer : next.buffer =
        (points ++ exporter.buffer).drop (overflow batchSize (points ++ exporter.buffer)))
      (dropped : next.droppedPoints =
        exporter.droppedPoints + overflow batchSize (points ++ exporter.buffer))
      (closing : left = none ∨ left = some .resetting) :
    Flushed batchSize exporter flush event next left
  | started (points : List Point) (next : InfluxDBExporter Point)
      (connecting : flush = .connecting points)
      (put : exporter.putBack batchSize flush event = none)
      (buffer : next.buffer = exporter.buffer)
      (dropped : next.droppedPoints = exporter.droppedPoints) :
    Flushed batchSize exporter flush event next
      (some (.writing ((SortedList.chunks batchSize.toNat points).map BatchTask.start)))
  | answered (tasks : List (BatchTask Point)) (index : Nat) (task : BatchTask Point)
      (piece : List Point) (rest : List (List Point)) (outcome : WriteOutcome)
      (next : InfluxDBExporter Point) (writing : flush = .writing tasks)
      (found : tasks[index]? = some task) (pending : task.pending = piece :: rest)
      (put : exporter.putBack batchSize flush event = none)
      (buffer : next.buffer = exporter.buffer)
      (dropped : next.droppedPoints = exporter.droppedPoints) :
    Flushed batchSize exporter flush event next
      (some (.writing (tasks.set index (task.answer piece rest outcome))))
  | ended (next : InfluxDBExporter Point) (left : Option (Flush Point))
      (put : exporter.putBack batchSize flush event = none)
      (buffer : next.buffer = exporter.buffer)
      (dropped : next.droppedPoints = exporter.droppedPoints)
      (closing : left = none ∨ left = some .resetting) :
    Flushed batchSize exporter flush event next left

theorem resetIfFailing_cases (exporter : InfluxDBExporter Point) :
    exporter.resetIfFailing.1 = exporter ∧
      (exporter.resetIfFailing.2 = none ∨ exporter.resetIfFailing.2 = some .resetting) := by
  rw [resetIfFailing]
  split
  · exact ⟨rfl, .inr rfl⟩
  · exact ⟨rfl, .inl rfl⟩

@[simp] theorem countRejected_buffer (exporter : InfluxDBExporter Point) (piece : List Point)
    (outcome : WriteOutcome) : (exporter.countRejected piece outcome).buffer = exporter.buffer := by
  rw [countRejected]
  split <;> rfl

@[simp] theorem countRejected_droppedPoints (exporter : InfluxDBExporter Point)
    (piece : List Point) (outcome : WriteOutcome) :
    (exporter.countRejected piece outcome).droppedPoints = exporter.droppedPoints := by
  rw [countRejected]
  split <;> rfl

theorem flushed {batchSize : Int} (positive : 0 < batchSize) {exporter : InfluxDBExporter Point}
    {flush : Flush Point} {event : FlushEvent}
    {left : InfluxDBExporter Point × Option (Flush Point)}
    (step : exporter.flushStep batchSize flush event = some left) :
    Flushed batchSize exporter flush event left.1 left.2 := by
  unfold flushStep at step
  split at step
  · next points =>
    obtain rfl := Option.some.inj step
    rw [startWrites]
    split
    · next connected =>
      rw [splitBatches, if_neg (by omega), if_neg (by omega)]
      refine .started points _ rfl ?_ rfl rfl
      rw [putBack, if_pos ⟨connected, by omega⟩]
    · next disconnected =>
      refine .putBack points _ _ ?_ ?_ ?_ (.inl rfl)
      · rw [putBack, if_neg fun both => disconnected both.1]
      all_goals rw [reAddPoints_eq positive]
  · next tasks index outcome =>
    split at step
    · cases step
    · next task found =>
      split at step
      · cases step
      · next piece rest pending =>
        obtain rfl := Option.some.inj step
        exact .answered tasks index task piece rest outcome _ rfl found pending rfl
          (countRejected_buffer _ _ _) (countRejected_droppedPoints _ _ _)
  · next tasks =>
    obtain ⟨-, finished⟩ := Option.ite_none_right_eq_some.mp step
    obtain rfl := Option.some.inj finished
    obtain ⟨same, closing⟩ := resetIfFailing_cases (exporter.processResults batchSize tasks)
    rw [same]
    by_cases nothing : (tasks.flatMap BatchTask.retryPoints).isEmpty = true
    · refine .ended _ _ ?_ ?_ ?_ closing
      · rw [putBack, if_pos nothing]
      all_goals rw [processResults, if_pos nothing]
    · refine .putBack (tasks.flatMap BatchTask.retryPoints) _ _ ?_ ?_ ?_ closing
      · rw [putBack, if_neg nothing]
      all_goals rw [processResults, if_neg nothing, reAddPoints_eq positive]
  · obtain rfl := Option.some.inj step
    exact .ended _ _ rfl rfl rfl (.inl rfl)
  · cases step

end InfluxDBExporter

/-! ### The steps of the buffer -/

/-- What becomes of some points when the oldest over the bound are dropped. -/
structure DropsOldest (batchSize : Int) (pool : List (Arrival Point))
    (state next : Buffering Point) : Prop where
  inOrder : Increasing pool
  kept : next.buffer = pool.drop (InfluxDBExporter.overflow batchSize pool)
  counted : next.dropped = state.dropped + InfluxDBExporter.overflow batchSize pool

/-- A step keeps the newest of the points it merges, in order, and counts the others as dropped. A
step that merges none drops none: it leaves the buffer alone or takes it for a flush. -/
def KeepsNewest (batchSize : Int) (state : Buffering Point) (event : BufferEvent Point)
    (next : Buffering Point) : Prop :=
  match state.merged batchSize event with
  | some pool => DropsOldest batchSize pool state next
  | none =>
    next.dropped = state.dropped ∧
      (next.buffer = state.buffer ∨ next.buffer = [] ∧ next.taken = state.buffer)

theorem Flusher.eq_or_eq_other (first second : Flusher) :
    first = second ∨ first = second.other := by
  cases first <;> cases second <;> simp [Flusher.other]

namespace Buffering

variable {batchSize : Int} {state : Buffering Point}

/-- What is left under the bound is within it. -/
theorem length_kept_le (positive : 0 < batchSize) (pool : List Point) :
    ((pool.drop (InfluxDBExporter.overflow batchSize pool)).length : Int) ≤
      maxBufferSize batchSize := by
  have bound := InfluxDBExporter.maxBufferSize_pos positive
  rw [List.length_drop, InfluxDBExporter.overflow]
  omega

theorem holdsPart_congr {next : Buffering Point} (taken : next.taken = state.taken)
    (arrived : next.arrived = state.arrived) (buffer : next.buffer = state.buffer)
    (flush : Flush (Arrival Point)) :
    HoldsPart batchSize next flush ↔ HoldsPart batchSize state flush := by
  cases flush with
  | connecting points => rw [HoldsPart, HoldsPart, taken, arrived, buffer]
  | writing tasks => rw [HoldsPart, HoldsPart, batches, batches, taken, arrived, buffer]
  | resetting => exact Iff.rfl

/-- Of a flush that waits for its connection the points are known. -/
theorem takenBy_of_connecting {next : Exporting (Arrival Point)} {flusher : Flusher}
    {points : List (Arrival Point)} (connecting : next.flushOf flusher = some (.connecting points))
    (alone : next.flushOf flusher.other = none) : state.takenBy next = points := by
  cases flusher with
  | flushLoop =>
    rw [takenBy, connecting]
    rfl
  | close =>
    rw [Flusher.other] at alone
    rw [takenBy, alone, connecting]
    rfl

/-- Without a new flush the points taken last stay the same. -/
theorem takenBy_of_known {next : Exporting (Arrival Point)}
    (known : ∀ flusher points, next.flushOf flusher = some (.connecting points) →
      points = state.taken) : state.takenBy next = state.taken := by
  have same : ∀ flusher points, (next.flushOf flusher).bind Flush.connectingPoints = some points →
      points = state.taken := by
    intro flusher points found
    obtain ⟨flush, current, connecting⟩ := Option.bind_eq_some_iff.mp found
    cases flush with
    | connecting held => exact known flusher points (by rw [current, ← Option.some.inj connecting])
    | writing tasks => cases connecting
    | resetting => cases connecting
  rw [takenBy]
  cases first : (next.flushOf .flushLoop).bind Flush.connectingPoints with
  | some points =>
    rw [Option.some_or, Option.getD_some]
    exact same .flushLoop points first
  | none =>
    rw [Option.none_or]
    cases second : (next.flushOf .close).bind Flush.connectingPoints with
    | some points =>
      rw [Option.getD_some]
      exact same .close points second
    | none => rw [Option.getD_none]

end Buffering

namespace Ordered

variable {batchSize : Int} {state : Buffering Point}

/-- A step that leaves the buffer alone, and every flush in progress with a part of its points. -/
theorem quiet (ordered : Ordered batchSize state) {next : Buffering Point}
    (settled : next.exporting.Settled batchSize) (taken : next.taken = state.taken)
    (arrived : next.arrived = state.arrived) (buffer : next.buffer = state.buffer)
    (holdsPart : ∀ flusher flush, next.exporting.flushOf flusher = some flush →
      HoldsPart batchSize state flush) : Ordered batchSize next := by
  refine ⟨settled, ?_, ?_, fun flusher flush current => ?_⟩
  · rw [buffer]
    exact ordered.bounded
  · rw [arrived, buffer]
    exact ordered.inOrder
  · exact (Buffering.holdsPart_congr taken arrived buffer flush).mpr
      (holdsPart flusher flush current)

/-- Points put back in front of the buffer, at the end of a flush. -/
theorem merge (positive : 0 < batchSize) {next : Buffering Point}
    {pool : List (Arrival Point)} (settled : next.exporting.Settled batchSize)
    (inOrder : InOrder next.arrived pool)
    (buffer : next.buffer = pool.drop (InfluxDBExporter.overflow batchSize pool))
    (holdsPart : ∀ flusher flush, next.exporting.flushOf flusher = some flush →
      HoldsPart batchSize next flush) : Ordered batchSize next := by
  refine ⟨settled, ?_, ?_, holdsPart⟩
  · rw [buffer]
    exact Buffering.length_kept_le positive pool
  · rw [buffer]
    exact inOrder.sublist (List.drop_sublist _ _)

/-- A write of points. -/
theorem write (positive : 0 < batchSize) (ordered : Ordered batchSize state)
    (points : List Point) {next : Buffering Point}
    (settled : next.exporting.Settled batchSize) (taken : next.taken = state.taken)
    (arrived : next.arrived = state.arrived + points.length)
    (buffer : next.buffer = (state.buffer ++ points.zipIdx state.arrived).drop
      (InfluxDBExporter.overflow batchSize (state.buffer ++ points.zipIdx state.arrived)))
    (same : ∀ flusher, next.exporting.flushOf flusher = state.exporting.flushOf flusher) :
    Ordered batchSize next := by
  refine merge positive settled ?_ buffer fun flusher flush current => ?_
  · rw [arrived]
    exact ordered.inOrder.append points
  · have before := ordered.holdsPart flusher flush (by rw [← same, current])
    have later : InOrder state.arrived (state.taken ++ state.buffer) →
        InOrder next.arrived (next.taken ++ next.buffer) := by
      intro inOrder
      have appended := inOrder.append points
      rw [List.append_assoc] at appended
      rw [arrived, taken, buffer]
      exact appended.sublist ((List.Sublist.refl _).append (List.drop_sublist _ _))
    cases flush with
    | connecting held => exact ⟨by rw [taken, before.1], later before.2⟩
    | writing tasks =>
      refine ⟨?_, later before.2⟩
      rw [Buffering.batches, taken]
      exact before.1
    | resetting => trivial

/-- A flush begins: it takes the buffer. -/
theorem begun (positive : 0 < batchSize) (ordered : Ordered batchSize state)
    {base : Exporting (Arrival Point)} {flusher : Flusher}
    (buffer : base.exporter.buffer = state.buffer) (idle : ∀ flusher, base.flushOf flusher = none)
    (settled : (base.flushBuffer flusher).Settled batchSize) :
    Ordered batchSize { state with
      exporting := base.flushBuffer flusher
      taken := state.takenBy (base.flushBuffer flusher) } ∧
    ((base.flushBuffer flusher).exporter.buffer = state.buffer ∨
      (base.flushBuffer flusher).exporter.buffer = [] ∧
        state.takenBy (base.flushBuffer flusher) = state.buffer) := by
  have others : ∀ exporter flush other, other ≠ flusher →
      (base.proceed exporter flusher flush).flushOf other = none := by
    intro exporter flush other different
    rw [(other.eq_or_eq_other flusher).resolve_left different, Exporting.proceed_flushOf_other,
      idle]
  have bound := InfluxDBExporter.maxBufferSize_pos positive
  by_cases empty : base.exporter.buffer.isEmpty = true
  · have idleThen : ∀ other, (base.flushBuffer flusher).flushOf other = none := by
      intro other
      rw [Exporting.flushBuffer, if_pos empty]
      by_cases same : other = flusher
      · rw [same, Exporting.proceed_flushOf]
      · exact others _ _ other same
    have kept : (base.flushBuffer flusher).exporter.buffer = state.buffer := by
      rw [Exporting.flushBuffer, if_pos empty, Exporting.proceed_buffer, buffer]
    refine ⟨ordered.quiet settled (Buffering.takenBy_of_known fun other points connecting => ?_)
      rfl kept fun other flush current => ?_, .inl kept⟩
    · rw [idleThen] at connecting
      cases connecting
    · rw [idleThen] at current
      cases current
  · have began : base.flushBuffer flusher = base.proceed { base.exporter with buffer := [] } flusher
        (some (.connecting state.buffer)) := by
      rw [Exporting.flushBuffer, if_neg empty, buffer]
    have current : (base.flushBuffer flusher).flushOf flusher =
        some (.connecting state.buffer) := by
      rw [began, Exporting.proceed_flushOf]
    have alone : (base.flushBuffer flusher).flushOf flusher.other = none := by
      rw [began, Exporting.proceed_flushOf_other, idle]
    have taken : state.takenBy (base.flushBuffer flusher) = state.buffer :=
      Buffering.takenBy_of_connecting current alone
    have emptied : (base.flushBuffer flusher).exporter.buffer = [] := by
      rw [began, Exporting.proceed_buffer]
    refine ⟨⟨settled, ?_, ?_, fun other flush found => ?_⟩, .inr ⟨emptied, taken⟩⟩
    · simp only [Buffering.buffer, emptied, List.length_nil]
      omega
    · simp only [Buffering.buffer, emptied]
      exact ordered.inOrder.sublist (List.nil_sublist _)
    · obtain rfl | rfl := other.eq_or_eq_other flusher
      · rw [current] at found
        obtain rfl := Option.some.inj found
        refine ⟨taken.symm, ?_⟩
        simp only [Buffering.buffer, emptied, taken, List.append_nil]
        exact ordered.inOrder
      · rw [alone] at found
        cases found

/-- While a flush goes on, no other one is in progress. -/
theorem proceed_current (ordered : Ordered batchSize state) {flusher other : Flusher}
    {flush later : Flush (Arrival Point)} (current : state.exporting.flushOf flusher = some flush)
    {exporter : InfluxDBExporter (Arrival Point)} {left : Option (Flush (Arrival Point))}
    (found : (state.exporting.proceed exporter flusher left).flushOf other = some later) :
    left = some later := by
  obtain rfl | rfl := other.eq_or_eq_other flusher
  · rwa [Exporting.proceed_flushOf] at found
  · rw [Exporting.proceed_flushOf_other, ordered.settled.alone current] at found
    cases found

/-- A flush that goes on takes nothing new. -/
theorem takenBy_proceed (ordered : Ordered batchSize state) {flusher : Flusher}
    {flush : Flush (Arrival Point)} (current : state.exporting.flushOf flusher = some flush)
    {exporter : InfluxDBExporter (Arrival Point)} {left : Option (Flush (Arrival Point))}
    (begun : ∀ points, left ≠ some (.connecting points)) :
    state.takenBy (state.exporting.proceed exporter flusher left) = state.taken := by
  refine Buffering.takenBy_of_known fun other points connecting => ?_
  exact absurd (ordered.proceed_current current connecting) (begun points)

/-- A flush goes on, and nothing is put back. -/
theorem proceed (ordered : Ordered batchSize state) {flusher : Flusher}
    {flush : Flush (Arrival Point)} (current : state.exporting.flushOf flusher = some flush)
    {next : Buffering Point} {exporter : InfluxDBExporter (Arrival Point)}
    {left : Option (Flush (Arrival Point))}
    (exporting : next.exporting = state.exporting.proceed exporter flusher left)
    (taken : next.taken = state.taken) (arrived : next.arrived = state.arrived)
    (buffer : exporter.buffer = state.buffer)
    (holdsPart : ∀ later, left = some later → HoldsPart batchSize state later) :
    Ordered batchSize next := by
  refine ordered.quiet ?_ taken arrived ?_ fun other later found => ?_
  · rw [exporting]
    exact ordered.settled.proceed current exporter left
  · rw [Buffering.buffer, exporting, Exporting.proceed_buffer, buffer]
  · rw [exporting] at found
    exact holdsPart later (ordered.proceed_current current found)

/-- A flush ends, and some of its points are put back. -/
theorem proceed_putBack (positive : 0 < batchSize) (ordered : Ordered batchSize state)
    {flusher : Flusher} {flush : Flush (Arrival Point)}
    (current : state.exporting.flushOf flusher = some flush)
    {next : Buffering Point} {exporter : InfluxDBExporter (Arrival Point)}
    {left : Option (Flush (Arrival Point))} {pool : List (Arrival Point)}
    (exporting : next.exporting = state.exporting.proceed exporter flusher left)
    (arrived : next.arrived = state.arrived) (inOrder : InOrder state.arrived pool)
    (buffer : exporter.buffer = pool.drop (InfluxDBExporter.overflow batchSize pool))
    (dropped : exporter.droppedPoints =
      state.dropped + InfluxDBExporter.overflow batchSize pool)
    (closing : left = none ∨ left = some .resetting) :
    Ordered batchSize next ∧ DropsOldest batchSize pool state next := by
  have kept : next.buffer = pool.drop (InfluxDBExporter.overflow batchSize pool) := by
    rw [Buffering.buffer, exporting, Exporting.proceed_buffer, buffer]
  refine ⟨merge positive ?_ ?_ kept fun other later found => ?_, inOrder.increasing, kept, ?_⟩
  · rw [exporting]
    exact ordered.settled.proceed current exporter left
  · rw [arrived]
    exact inOrder
  · rw [exporting] at found
    have same := ordered.proceed_current current found
    obtain closing | closing := closing
    · rw [closing] at same
      cases same
    · rw [closing] at same
      obtain rfl := Option.some.inj same
      trivial
  · rw [Buffering.dropped, exporting, Exporting.proceed_droppedPoints, dropped]

/-- A step of a flush. -/
theorem flush_step (positive : 0 < batchSize) (ordered : Ordered batchSize state)
    {flusher : Flusher} {event : FlushEvent} {flush : Flush (Arrival Point)}
    (current : state.exporting.flushOf flusher = some flush)
    {exporter : InfluxDBExporter (Arrival Point)} {left : Option (Flush (Arrival Point))}
    (flushed : state.exporting.exporter.Flushed batchSize flush event exporter left)
    {next : Buffering Point}
    (exporting : next.exporting = state.exporting.proceed exporter flusher left)
    (arrived : next.arrived = state.arrived)
    (taken : next.taken = state.takenBy next.exporting) :
    Ordered batchSize next ∧
      KeepsNewest batchSize state (.exporter (.flush flusher event)) next := by
  have holdsPart := ordered.holdsPart flusher flush current
  have merged : state.merged batchSize (.exporter (.flush flusher event)) =
      (state.exporting.exporter.putBack batchSize flush event).map (· ++ state.buffer) := by
    rw [Buffering.merged, current, Option.bind_some]
  have known : (∀ points, left ≠ some (.connecting points)) → next.taken = state.taken := by
    intro begun
    rw [taken, exporting]
    exact ordered.takenBy_proceed current begun
  have unchanged : exporter.buffer = state.buffer → exporter.droppedPoints = state.dropped →
      next.dropped = state.dropped ∧
        (next.buffer = state.buffer ∨ next.buffer = [] ∧ next.taken = state.buffer) := by
    intro buffer dropped
    rw [Buffering.dropped, Buffering.buffer, exporting, Exporting.proceed_droppedPoints,
      Exporting.proceed_buffer]
    exact ⟨dropped, .inl buffer⟩
  rw [KeepsNewest, merged]
  cases flushed with
  | putBack points _ _ put buffer dropped closing =>
    rw [put, Option.map_some]
    exact ordered.proceed_putBack positive current exporting arrived
      (Buffering.putBack_inOrder positive holdsPart put) buffer dropped closing
  | started points _ connecting put buffer dropped =>
    rw [put, Option.map_none]
    refine ⟨ordered.proceed current exporting (known fun _ => by simp) arrived buffer
      fun later same => ?_, unchanged buffer dropped⟩
    rw [connecting] at holdsPart
    obtain rfl := Option.some.inj same
    refine ⟨?_, holdsPart.2⟩
    rw [Buffering.batches, ← holdsPart.1, List.forall₂_map_left_iff, List.forall₂_same]
    intro batch _
    rw [BatchTask.held_start_eq]
  | answered tasks index task piece rest outcome _ writing found pending put buffer dropped =>
    rw [put, Option.map_none]
    refine ⟨ordered.proceed current exporting (known fun _ => by simp) arrived buffer
      fun later same => ?_, unchanged buffer dropped⟩
    rw [writing] at holdsPart
    obtain rfl := Option.some.inj same
    refine ⟨forall₂_set holdsPart.1 fun other batch same _ part => ?_, holdsPart.2⟩
    obtain rfl := Option.some.inj (found.symm.trans same)
    exact (BatchTask.held_answer_sublist pending outcome).trans part
  | ended _ _ put buffer dropped closing =>
    rw [put, Option.map_none]
    refine ⟨ordered.proceed current exporting (known fun points => ?_) arrived buffer
      fun later same => ?_, unchanged buffer dropped⟩
    · obtain closing | closing := closing
      all_goals simp [closing]
    · obtain closing | closing := closing
      all_goals
        rw [closing] at same
        cases same
      trivial

/-- A batch whose write raises goes back whole. -/
theorem batchRaised_step (ordered : Ordered batchSize state) {flusher : Flusher}
    {tasks : List (BatchTask (Arrival Point))}
    (current : state.exporting.flushOf flusher = some (.writing tasks)) {index : Nat}
    {batch : List (Arrival Point)} (found : (state.batches batchSize)[index]? = some batch) :
    Ordered batchSize { state with
      exporting := state.exporting.proceed state.exporting.exporter flusher
        (some (.writing (tasks.set index { pending := [], retryPoints := batch }))) } := by
  refine ordered.proceed current rfl rfl rfl rfl fun later same => ?_
  have holdsPart := ordered.holdsPart flusher _ current
  obtain rfl := Option.some.inj same
  refine ⟨forall₂_set holdsPart.1 fun _ other _ same _ => ?_, holdsPart.2⟩
  obtain rfl := Option.some.inj (found.symm.trans same)
  rw [BatchTask.held, List.flatten_nil, List.append_nil]

/-- If taking note of the results raises, the flush goes back whole. -/
theorem resultsRaised_step (positive : 0 < batchSize) (ordered : Ordered batchSize state)
    {flusher : Flusher} {tasks : List (BatchTask (Arrival Point))}
    (current : state.exporting.flushOf flusher = some (.writing tasks))
    {exporter : InfluxDBExporter (Arrival Point)} (buffer : exporter.buffer = state.buffer)
    (dropped : exporter.droppedPoints = state.dropped) :
    Ordered batchSize { state with
        exporting := state.exporting.proceed
          (exporter.reAddPoints batchSize state.taken).resetIfFailing.1 flusher
          (exporter.reAddPoints batchSize state.taken).resetIfFailing.2 } ∧
      DropsOldest batchSize (state.taken ++ state.buffer) state { state with
        exporting := state.exporting.proceed
          (exporter.reAddPoints batchSize state.taken).resetIfFailing.1 flusher
          (exporter.reAddPoints batchSize state.taken).resetIfFailing.2 } := by
  obtain ⟨same, closing⟩ :=
    InfluxDBExporter.resetIfFailing_cases (exporter.reAddPoints batchSize state.taken)
  refine ordered.proceed_putBack positive current rfl rfl
    (ordered.holdsPart flusher _ current).2 ?_ ?_ closing
  · rw [same, InfluxDBExporter.reAddPoints_eq positive, buffer]
  · rw [same, InfluxDBExporter.reAddPoints_eq positive, buffer, dropped]

/-- A step outside of every flush: what is in progress was so before. -/
theorem outside_step (ordered : Ordered batchSize state) {next : Exporting (Arrival Point)}
    (settled : next.Settled batchSize) (buffer : next.exporter.buffer = state.buffer)
    (kept : ∀ flusher flush, next.flushOf flusher = some flush →
      state.exporting.flushOf flusher = some flush) :
    Ordered batchSize { state with exporting := next, taken := state.takenBy next } := by
  refine ordered.quiet settled (Buffering.takenBy_of_known fun flusher points connecting => ?_)
    rfl buffer fun flusher flush current => ordered.holdsPart flusher flush (kept _ _ current)
  exact (ordered.holdsPart flusher _ (kept _ _ connecting)).1

/-- A step that begins a flush. -/
theorem begun_step (positive : 0 < batchSize) (ordered : Ordered batchSize state)
    {base : Exporting (Arrival Point)} {flusher : Flusher}
    (buffer : base.exporter.buffer = state.buffer)
    (dropped : base.exporter.droppedPoints = state.dropped)
    (outside : base.flushLoop = .absent ∨ base.flushLoop = .idle ∨ base.flushLoop = .ended)
    (before : base.closing = .working ∨ base.closing = .joining)
    (settled : (base.flushBuffer flusher).Settled batchSize) {event : BufferEvent Point}
    (merged : state.merged batchSize event = none) :
    Ordered batchSize { state with
        exporting := base.flushBuffer flusher
        taken := state.takenBy (base.flushBuffer flusher) } ∧
      KeepsNewest batchSize state event { state with
        exporting := base.flushBuffer flusher
        taken := state.takenBy (base.flushBuffer flusher) } := by
  have idle : ∀ flusher, base.flushOf flusher = none := by
    intro flusher
    cases flusher with
    | flushLoop => exact Exporting.flushOf_flushLoop_eq_none outside
    | close => exact Exporting.flushOf_close_eq_none before
  obtain ⟨begun, taken⟩ := ordered.begun positive buffer idle settled
  refine ⟨begun, ?_⟩
  rw [KeepsNewest, merged]
  refine ⟨?_, taken⟩
  rw [Buffering.dropped, Exporting.flushBuffer]
  split <;> rw [Exporting.proceed_droppedPoints, ← dropped]

/-- An event of the exporter. -/
theorem exporter_step (positive : 0 < batchSize) (ordered : Ordered batchSize state)
    {event : ExporterEvent Point} {next : Exporting (Arrival Point)}
    (stepped : state.exporting.Stepped batchSize (event.number state.arrived) next) :
    Ordered batchSize
        { exporting := next
          arrived := state.arrived + (Exporting.writtenBy event).length
          taken := state.takenBy next } ∧
      KeepsNewest batchSize state (.exporter event)
        { exporting := next
          arrived := state.arrived + (Exporting.writtenBy event).length
          taken := state.takenBy next } := by
  have settled := stepped.settled ordered.settled
  cases event with
  | connect succeeded =>
    cases stepped with
    | connect _ working =>
      have exporter := Exporting.startFlushLoop_exporter
        (state.exporting.setConnected (succeeded || state.exporting.exporter.connected))
      refine ⟨ordered.outside_step settled (by rw [exporter]; rfl) fun flusher flush current => ?_,
        ?_, .inl ?_⟩
      · rwa [Exporting.startFlushLoop_flushOf] at current
      · rw [Buffering.dropped, exporter]
        rfl
      · rw [Buffering.buffer, exporter]
        rfl
  | write points =>
    cases stepped with
    | write _ =>
      have written := InfluxDBExporter.write_eq positive state.exporting.exporter
        (points.zipIdx state.arrived)
      have taken : state.takenBy { state.exporting with
          exporter := state.exporting.exporter.write batchSize (points.zipIdx state.arrived) } =
            state.taken :=
        Buffering.takenBy_of_known fun flusher held connecting =>
          (ordered.holdsPart flusher _ connecting).1
      refine ⟨ordered.write positive points settled taken rfl ?_ fun _ => rfl,
        (ordered.inOrder.append points).increasing, ?_, ?_⟩
      · rw [Buffering.buffer, written]
        rfl
      · rw [Buffering.buffer, written]
        rfl
      · rw [Buffering.dropped, written]
        rfl
  | woken =>
    cases stepped with
    | woken idle =>
      exact ordered.begun_step positive rfl rfl (.inr (.inl idle))
        (ordered.settled.before (by simp [idle]) (by simp [idle])) settled rfl
  | reconnected succeeded =>
    cases stepped with
    | reconnected idle =>
      have buffer : (state.exporting.setConnected true).exporter.buffer = state.buffer := rfl
      exact ordered.begun_step positive buffer rfl (.inr (.inl idle))
        (ordered.settled.before (by simp [idle]) (by simp [idle])) settled rfl
    | stayedDisconnected =>
      exact ⟨ordered.outside_step settled rfl fun _ _ current => current, rfl, .inl rfl⟩
  | flush flusher event =>
    cases stepped with
    | flush _ _ flush left current flushed =>
      exact ordered.flush_step positive current (InfluxDBExporter.flushed positive flushed)
        rfl rfl rfl
  | close =>
    cases stepped with
    | closeUnstarted working absent =>
      exact ordered.begun_step positive rfl rfl (.inl absent) (.inl working) settled rfl
    | close working =>
      refine ⟨ordered.outside_step settled rfl fun flusher flush current => ?_, rfl, .inl rfl⟩
      cases flusher with
      | flushLoop => exact current
      | close => cases current
  | cancelled =>
    cases stepped with
    | cancelled =>
      refine ⟨ordered.outside_step settled rfl fun flusher flush current => ?_, rfl, .inl rfl⟩
      cases flusher with
      | flushLoop => cases current
      | close => exact current
  | joined =>
    cases stepped with
    | joined joining ended =>
      exact ordered.begun_step positive rfl rfl (.inr (.inr ended)) (.inr joining) settled rfl

theorem step (positive : 0 < batchSize) (ordered : Ordered batchSize state)
    {event : BufferEvent Point} {next : Buffering Point}
    (step : (bufferMachine batchSize).step state event = some next) :
    Ordered batchSize next ∧ KeepsNewest batchSize state event next := by
  cases event with
  | exporter event =>
    obtain ⟨exporting, stepped, rfl⟩ := Option.map_eq_some_iff.mp step
    exact ordered.exporter_step positive (Exporting.stepped stepped)
  | batchRaised flusher index =>
    simp only [bufferMachine, Buffering.step] at step
    split at step
    · next tasks batch current found =>
      obtain ⟨-, same⟩ := Option.ite_none_right_eq_some.mp step
      obtain rfl := Option.some.inj same
      refine ⟨ordered.batchRaised_step current found, ?_, .inl ?_⟩
      · rw [Buffering.dropped, Exporting.proceed_droppedPoints, Buffering.dropped]
      · rw [Buffering.buffer, Exporting.proceed_buffer, Buffering.buffer]
    · cases step
  | resultsRaised flusher =>
    simp only [bufferMachine, Buffering.step] at step
    split at step
    · next tasks current =>
      obtain ⟨-, same⟩ := Option.ite_none_right_eq_some.mp step
      obtain rfl := Option.some.inj same
      exact ordered.resultsRaised_step positive current rfl rfl
    · cases step

theorem start (positive : 0 < batchSize) : Ordered batchSize ({} : Buffering Point) := by
  have bound := InfluxDBExporter.maxBufferSize_pos positive
  refine ⟨(Account.sound_start batchSize).settled, ?_, ⟨.nil, fun _ member => ?_⟩,
    fun flusher flush current => ?_⟩
  · exact (Int.natCast_zero).trans_le bound.le
  · cases member
  · cases flusher <;> cases current

end Ordered

/-! ### The buffer in a run -/

/-- In every run of the exporter, with any interleaving of writes and flushes and any failures, the
buffer stays within its bound and in order of arrival. And every step keeps the newest of the points
it merges, which are in order of arrival too, and counts exactly the others as dropped. -/
theorem newest_points_kept {batchSize : Int} (positive : 0 < batchSize)
    {events : List (BufferEvent Point)} {state : Buffering Point}
    (run : (bufferMachine batchSize).run {} events = some state) :
    (state.buffer.length : Int) ≤ maxBufferSize batchSize ∧ Increasing state.buffer ∧
      ∀ event next, (bufferMachine batchSize).step state event = some next →
        KeepsNewest batchSize state event next := by
  have ordered : Ordered batchSize state :=
    (bufferMachine batchSize).run_invariant (fun before step => (before.step positive step).1)
      (Ordered.start positive) run
  exact ⟨ordered.bounded, ordered.inOrder.increasing,
    fun event next step => (ordered.step positive step).2⟩

/-- Two hundred points are taken for a flush that finds no connection, and one more arrives before
they are put back. -/
def crowded : List (BufferEvent Nat) :=
  [.exporter (.write (List.range 200)), .exporter .close, .exporter (.write [200]),
    .exporter (.flush .close .connectionRead)]

/-- With batches of one point the buffer is full then, and one point was dropped. -/
theorem crowded_completes :
    ((bufferMachine 1).run {} crowded).any (fun state =>
      state.buffer.map Prod.fst == List.range' 1 200 && state.dropped == 1) = true := by
  decide +kernel

theorem crowded_newest_points :
    ∃ state, (bufferMachine 1).run {} crowded = some state ∧
      ((state.buffer.length : Int) ≤ maxBufferSize 1 ∧ Increasing state.buffer ∧
        ∀ event next, (bufferMachine 1).step state event = some next →
          KeepsNewest 1 state event next) ∧
      state.buffer.map Prod.fst = List.range' 1 200 ∧ state.dropped = 1 := by
  obtain ⟨state, run, passes⟩ := (bufferMachine 1).exists_of_any crowded_completes
  simp only [Bool.and_eq_true, beq_iff_eq] at passes
  exact ⟨state, run, newest_points_kept (by decide) run, passes⟩

end Gyanam
