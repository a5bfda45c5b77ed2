/-
This file follows the write of one batch through the two functions that call each
other: one sends a request for the points it is given, the other cuts points that
were refused for good in half and has both halves written. Which error of a
request is a refusal for good is read off its status and its text.

If the server refuses exactly the requests with a bad point, the write gives each
point of the batch one of three fates, whatever else fails: it was accepted in
one request, it was given up as a bad one, or it goes back to the queue. The
worklist of a flush, which answers one piece at a time, takes the same course.
-/

import Gyanam.Exporter
import Gyanam.Lib.Strings

namespace Gyanam

open Json (Text)

variable {Point : Type}

/-! ### Answers -/

/-- How a write request ends: the server takes it, it times out, or it raises an error, which may
have a status and has a text. -/
inductive WriteAnswer where
  | written
  | timeout
  | raised (status : Option Int) (error : Text)
  deriving DecidableEq, Repr

/-- Whether an error says that the points will never be taken. -/
def isUnprocessable (status : Option Int) (errText : Text) : Bool :=
  decide (status ∈ [some 400, some 422]) ||
    ["unprocessable", "unable to parse", "partial write", "not finite"].any fun phrase =>
      Strings.contains errText (Json.text phrase)

/-- What an answer means for the points of the request. -/
def WriteAnswer.outcome : WriteAnswer → WriteOutcome
  | .written => .accepted
  | .timeout => .failed
  | .raised status error =>
    if isUnprocessable status (Strings.lower error) then .refused else .failed

/-- A server answers a request by how many came before it, and by its points. -/
abbrev WriteServer (Point : Type) := Nat → List Point → WriteAnswer

/-! ### The two functions -/

/-- A request that was made: its points, and what became of it. -/
abbrev WriteRequest (Point : Type) := List Point × WriteOutcome

/-- The exporter while a batch is written, and the requests made so far. -/
structure Submission (Point : Type) where
  exporter : InfluxDBExporter Point := {}
  requests : List (WriteRequest Point) := []
  deriving DecidableEq, Repr

/-- What the write of a batch returns: the points to queue again, and how many were written. -/
structure BatchResult (Point : Type) where
  retryPoints : List Point := []
  writtenPoints : Nat := 0
  deriving DecidableEq, Repr

/-- The results of two halves, in order. -/
def BatchResult.append (left right : BatchResult Point) : BatchResult Point where
  retryPoints := left.retryPoints ++ right.retryPoints
  writtenPoints := left.writtenPoints + right.writtenPoints

namespace Submission

/-- A point is given up. -/
def reject (submission : Submission Point) : Submission Point :=
  { submission with exporter :=
      { submission.exporter with rejectedPoints := submission.exporter.rejectedPoints + 1 } }

/-- A request is made. -/
def request (submission : Submission Point) (batch : List Point) (outcome : WriteOutcome) :
    Submission Point :=
  { submission with requests := submission.requests ++ [(batch, outcome)] }

mutual

/-- Write a batch. What is refused for good is cut. -/
def writeOrBisect (server : WriteServer Point) (submission : Submission Point)
    (batch : List Point) : BatchResult Point × Submission Point :=
  if batch = [] then ({}, submission)
  else
    let outcome := (server submission.requests.length batch).outcome
    match outcome with
    | .accepted => ({ writtenPoints := batch.length }, submission.request batch outcome)
    | .failed => ({ retryPoints := batch }, submission.request batch outcome)
    | .refused => isolateUnprocessable server (submission.request batch outcome) batch
termination_by if batch.length = 0 then 0 else 2 * batch.length + 1
decreasing_by
  have filled : batch.length ≠ 0 := by simpa using ‹¬ batch = []›
  simp only [filled, if_false]
  omega

/-- Cut a refused batch in half and write the halves. A single refused point is given up. -/
def isolateUnprocessable (server : WriteServer Point) (submission : Submission Point)
    (batch : List Point) : BatchResult Point × Submission Point :=
  if batch.length = 1 then ({}, submission.reject)
  else
    let mid := batch.length / 2
    let left := writeOrBisect server submission (batch.take mid)
    let right := writeOrBisect server left.2 (batch.drop mid)
    (left.1.append right.1, right.2)
termination_by if batch.length = 0 then 1 else 2 * batch.length
decreasing_by
  all_goals
    simp only [List.length_take, List.length_drop]
    split <;> split <;> omega

end

end Submission

/-! ### Fates -/

/-- What becomes of a point of a batch. -/
inductive PointFate where
  | accepted
  | rejected
  | queued
  deriving DecidableEq, Repr

/-- The points with a fate, in order. -/
def ofFate (fate : PointFate) (fated : List (Point × PointFate)) : List Point :=
  (fated.filter fun entry => entry.2 = fate).map Prod.fst

/-- Every point of a batch has the same fate. -/
def allOf (fate : PointFate) (batch : List Point) : List (Point × PointFate) :=
  batch.map fun point => (point, fate)

@[simp] theorem ofFate_nil (fate : PointFate) :
    ofFate fate ([] : List (Point × PointFate)) = [] := rfl

@[simp] theorem ofFate_append (fate : PointFate) (left right : List (Point × PointFate)) :
    ofFate fate (left ++ right) = ofFate fate left ++ ofFate fate right := by
  simp [ofFate]

@[simp] theorem ofFate_allOf (fate other : PointFate) (batch : List Point) :
    ofFate fate (allOf other batch) = if other = fate then batch else [] := by
  unfold ofFate allOf
  split
  · next same => simp [same, List.filter_map, Function.comp_def]
  · next different => simp [different]

@[simp] theorem map_fst_allOf (fate : PointFate) (batch : List Point) :
    (allOf fate batch).map Prod.fst = batch := by
  simp [allOf, Function.comp_def]

/-- The points of the accepted requests, in the order of the requests. -/
def acceptedIn (requests : List (WriteRequest Point)) : List Point :=
  (requests.filter fun request => request.2 = .accepted).flatMap Prod.fst

/-- The points that were given up, in the order of the requests. -/
def rejectedIn (requests : List (WriteRequest Point)) : List Point :=
  (requests.filter fun request => rejects request.1 request.2).flatMap Prod.fst

@[simp] theorem acceptedIn_append (first second : List (WriteRequest Point)) :
    acceptedIn (first ++ second) = acceptedIn first ++ acceptedIn second := by
  simp [acceptedIn]

@[simp] theorem rejectedIn_append (first second : List (WriteRequest Point)) :
    rejectedIn (first ++ second) = rejectedIn first ++ rejectedIn second := by
  simp [rejectedIn]

/-- The server refuses exactly the requests with a bad point. -/
def RefusesBad (bad : Point → Prop) (server : WriteServer Point) : Prop :=
  ∀ count batch, (server count batch).outcome = .refused ↔ ∃ point ∈ batch, bad point

/-- What the write of a batch has done: it made some requests, and gave each point of the batch a
fate. -/
structure Isolates (bad : Point → Prop) (before : Submission Point) (batch : List Point)
    (written : BatchResult Point × Submission Point) (made : List (WriteRequest Point))
    (fated : List (Point × PointFate)) : Prop where
  requests : written.2.requests = before.requests ++ made
  whole : fated.map Prod.fst = batch
  accepted : acceptedIn made = ofFate .accepted fated
  rejected : rejectedIn made = ofFate .rejected fated
  queued : written.1.retryPoints = ofFate .queued fated
  exporter : written.2.exporter = { before.exporter with
    rejectedPoints := before.exporter.rejectedPoints + (ofFate .rejected fated).length }
  counted : written.1.writtenPoints = (ofFate .accepted fated).length
  onlyBad : ∀ point ∈ ofFate .rejected fated, bad point
  noneBad : ∀ point ∈ ofFate .accepted fated, ¬ bad point
  bounded : made.length ≤ 2 * batch.length - 1
  quiet : (∀ request ∈ made, request.2 ≠ .failed) → ofFate .queued fated = []

/-- A refused batch of several points is isolated when its halves are. -/
theorem Isolates.halves {bad : Point → Prop} {before : Submission Point}
    {batch left right : List Point} (whole : left ++ right = batch)
    {leftResult rightResult : BatchResult Point × Submission Point}
    {leftMade rightMade : List (WriteRequest Point)}
    {leftFated rightFated : List (Point × PointFate)}
    (leftFilled : left ≠ []) (rightFilled : right ≠ [])
    (first : Isolates bad (before.request batch .refused) left leftResult leftMade leftFated)
    (second : Isolates bad leftResult.2 right rightResult rightMade rightFated) :
    Isolates bad before batch (leftResult.1.append rightResult.1, rightResult.2)
      ((batch, .refused) :: (leftMade ++ rightMade)) (leftFated ++ rightFated) := by
  subst whole
  have leftSome := List.length_pos_of_ne_nil leftFilled
  have rightSome := List.length_pos_of_ne_nil rightFilled
  have several : rejects (left ++ right) .refused = false := by
    have long : ¬ left.length + right.length = 1 := by omega
    simp [rejects, long]
  have split : ((left ++ right, WriteOutcome.refused) :: (leftMade ++ rightMade)) =
      [(left ++ right, .refused)] ++ (leftMade ++ rightMade) := rfl
  refine ⟨?_, ?_, ?_, ?_, ?_, ?_, ?_, ?_, ?_, ?_, ?_⟩
  · rw [second.requests, first.requests, Submission.request]
    simp
  · rw [List.map_append, first.whole, second.whole]
  · rw [split, acceptedIn_append, acceptedIn_append, first.accepted, second.accepted,
      ofFate_append]
    rfl
  · rw [split, rejectedIn_append, rejectedIn_append, first.rejected, second.rejected,
      ofFate_append]
    simp [rejectedIn, several]
  · rw [BatchResult.append, first.queued, second.queued, ofFate_append]
  · rw [second.exporter, first.exporter, ofFate_append, List.length_append, Submission.request]
    simp [Nat.add_assoc]
  · rw [BatchResult.append, first.counted, second.counted, ofFate_append, List.length_append]
  · rw [ofFate_append]
    exact List.forall_mem_append.mpr ⟨first.onlyBad, second.onlyBad⟩
  · rw [ofFate_append]
    exact List.forall_mem_append.mpr ⟨first.noneBad, second.noneBad⟩
  · have leftBound := first.bounded
    have rightBound := second.bounded
    simp only [List.length_cons, List.length_append]
    omega
  · intro steady
    obtain ⟨-, later⟩ := List.forall_mem_cons.mp steady
    obtain ⟨leftSteady, rightSteady⟩ := List.forall_mem_append.mp later
    rw [ofFate_append, first.quiet leftSteady, second.quiet rightSteady, List.append_nil]

/-- The halves of a batch of several points are shorter than the batch. -/
theorem halves_length_lt {batch : List Point} (filled : batch ≠ []) (several : batch.length ≠ 1) :
    (batch.take (batch.length / 2)).length < batch.length ∧
      (batch.drop (batch.length / 2)).length < batch.length := by
  have pos := List.length_pos_of_ne_nil filled
  rw [List.length_take, List.length_drop]
  omega

/-- The write of a batch isolates its bad points. The induction is on the length of the batch, and a
refused batch is the only one that is cut. -/
theorem writeOrBisect_isolates {bad : Point → Prop} {server : WriteServer Point}
    (refuses : RefusesBad bad server) (before : Submission Point) (batch : List Point) :
    ∃ made fated, Isolates bad before batch (before.writeOrBisect server batch) made fated := by
  induction size : batch.length using Nat.strong_induction_on generalizing before batch with
  | _ length inductionHypothesis =>
    subst size
    rw [Submission.writeOrBisect]
    split
    · next empty =>
      subst empty
      exact ⟨[], [], by simp, rfl, rfl, rfl, rfl, rfl, rfl, by simp, by simp, by simp, by simp⟩
    · next filled =>
      have pos := List.length_pos_of_ne_nil filled
      dsimp only
      split
      · next outcome =>
        have noBad : ¬ ∃ point ∈ batch, bad point := by
          rw [← refuses before.requests.length batch, outcome]
          simp
        refine ⟨[(batch, .accepted)], allOf .accepted batch, ?_, ?_, ?_, ?_, ?_, ?_, ?_, ?_, ?_, ?_,
          ?_⟩ <;> simp [Submission.request, acceptedIn, rejectedIn, rejects, outcome]
        · exact fun point member isBad => noBad ⟨point, member, isBad⟩
        · omega
      · next outcome =>
        refine ⟨[(batch, .failed)], allOf .queued batch, ?_, ?_, ?_, ?_, ?_, ?_, ?_, ?_, ?_, ?_,
          ?_⟩ <;> simp [Submission.request, acceptedIn, rejectedIn, rejects, outcome]
        omega
      · next outcome =>
        rw [Submission.isolateUnprocessable, outcome]
        split
        · next single =>
          obtain ⟨point, rfl⟩ := List.length_eq_one_iff.mp single
          obtain ⟨same, listed, isBad⟩ := (refuses before.requests.length [point]).mp outcome
          obtain rfl := List.mem_singleton.mp listed
          refine ⟨[([same], .refused)], allOf .rejected [same], ?_, ?_, ?_, ?_, ?_, ?_, ?_, ?_, ?_,
            ?_, ?_⟩ <;>
              simp [Submission.request, Submission.reject, acceptedIn, rejectedIn, rejects, isBad]
        · next several =>
          have halves := halves_length_lt filled several
          obtain ⟨leftMade, leftFated, first⟩ := inductionHypothesis _ halves.1
            (before.request batch .refused) _ rfl
          obtain ⟨rightMade, rightFated, second⟩ := inductionHypothesis _ halves.2
            ((before.request batch .refused).writeOrBisect server
              (batch.take (batch.length / 2))).2 _ rfl
          refine ⟨_, _, Isolates.halves (List.take_append_drop _ _) ?_ ?_ first second⟩
          · refine List.ne_nil_of_length_pos ?_
            rw [List.length_take]
            omega
          · refine List.ne_nil_of_length_pos ?_
            rw [List.length_drop]
            omega

theorem mem_ofFate {fated : List (Point × PointFate)} {entry : Point × PointFate}
    (member : entry ∈ fated) : entry.1 ∈ ofFate entry.2 fated :=
  List.mem_map.mpr ⟨entry, List.mem_filter.mpr ⟨member, decide_eq_true rfl⟩, rfl⟩

/-- When no point goes back to the queue, the fate of a point is read off whether it is bad. -/
theorem ofFate_of_quiet {bad : Point → Prop} [DecidablePred bad]
    {fated : List (Point × PointFate)} (quiet : ofFate .queued fated = [])
    (onlyBad : ∀ point ∈ ofFate .rejected fated, bad point)
    (noneBad : ∀ point ∈ ofFate .accepted fated, ¬ bad point) :
    ofFate .rejected fated = (fated.map Prod.fst).filter (fun point => bad point) ∧
      ofFate .accepted fated = (fated.map Prod.fst).filter (fun point => ¬ bad point) := by
  have fates : ∀ entry ∈ fated, (entry.2 = .rejected ↔ bad entry.1) ∧
      (entry.2 = .accepted ↔ ¬ bad entry.1) := by
    intro entry member
    have inFate := mem_ofFate member
    cases fate : entry.2 with
    | accepted => simp [noneBad entry.1 (fate ▸ inFate)]
    | rejected => simp [onlyBad entry.1 (fate ▸ inFate)]
    | queued => exact absurd (quiet ▸ fate ▸ inFate) List.not_mem_nil
  constructor
  · rw [ofFate, List.filter_map]
    exact congrArg _ (List.filter_congr fun entry member =>
      decide_eq_decide.mpr (fates entry member).1)
  · rw [ofFate, List.filter_map]
    exact congrArg _ (List.filter_congr fun entry member =>
      decide_eq_decide.mpr (fates entry member).2)

/-- If the server refuses exactly the requests with a bad point, the write of a batch gives each
point one fate: it was accepted in one request, it was given up and counted as a bad one, or it goes
back to the queue, in order. If no request failed for the moment, the bad points are exactly those
given up, and all others were accepted. -/
theorem bad_points_isolated {bad : Point → Prop} [DecidablePred bad] {server : WriteServer Point}
    (refuses : RefusesBad bad server) (before : Submission Point) (batch : List Point) :
    ∃ made fated, Isolates bad before batch (before.writeOrBisect server batch) made fated ∧
      ((∀ request ∈ made, request.2 ≠ .failed) →
        (before.writeOrBisect server batch).1.retryPoints = [] ∧
          rejectedIn made = batch.filter (fun point => bad point) ∧
            acceptedIn made = batch.filter (fun point => ¬ bad point)) := by
  obtain ⟨made, fated, isolates⟩ := writeOrBisect_isolates refuses before batch
  refine ⟨made, fated, isolates, fun steady => ?_⟩
  have quiet := isolates.quiet steady
  obtain ⟨rejected, accepted⟩ := ofFate_of_quiet quiet isolates.onlyBad isolates.noneBad
  rw [isolates.queued, isolates.rejected, isolates.accepted, ← isolates.whole]
  exact ⟨quiet, rejected, accepted⟩

/-- A server that refuses what has a negative value in it, and times out every third request
otherwise. -/
def sampleServer : WriteServer Int := fun count batch =>
  if batch.any fun value => decide (value < 0) then
    .raised (some 400) (Json.text "unable to parse")
  else if count % 3 = 2 then .timeout
  else .written

theorem sampleServer_refuses : RefusesBad (fun value => value < 0) sampleServer := by
  intro count batch
  unfold sampleServer
  split
  · next bad => exact iff_of_true (by decide) (by simpa using bad)
  · next good =>
    have noBad : ¬ ∃ value ∈ batch, value < 0 := by simpa using good
    split
    · exact iff_of_false (by decide) noBad
    · exact iff_of_false (by decide) noBad

/-- Of five points the fourth is given up, the last is accepted, and the others go back. -/
theorem sampleBatch_isolated : ∃ made fated,
    Isolates (fun value : Int => value < 0) {} [5, 6, 7, -8, 9]
        (Submission.writeOrBisect sampleServer {} [5, 6, 7, -8, 9]) made fated ∧
      ((∀ request ∈ made, request.2 ≠ .failed) →
        (Submission.writeOrBisect sampleServer {} [5, 6, 7, -8, 9]).1.retryPoints = [] ∧
          rejectedIn made = [-8] ∧ acceptedIn made = [5, 6, 7, 9]) :=
  bad_points_isolated sampleServer_refuses {} [5, 6, 7, -8, 9]

/-! ### The worklist of a flush -/

/-- A task of a flush is answered by requests for its pieces, one after the other. -/
inductive BatchTask.Follows : BatchTask Point → List (WriteRequest Point) → BatchTask Point → Prop
  | done (task : BatchTask Point) : Follows task [] task
  | next {piece : List Point} {rest : List (List Point)} {task final : BatchTask Point}
      {outcome : WriteOutcome} {later : List (WriteRequest Point)}
      (pending : task.pending = piece :: rest)
      (follows : Follows (task.answer piece rest outcome) later final) :
      Follows task ((piece, outcome) :: later) final

theorem BatchTask.Follows.append {task middle final : BatchTask Point}
    {first second : List (WriteRequest Point)} (before : task.Follows first middle)
    (after : middle.Follows second final) : task.Follows (first ++ second) final := by
  induction before with
  | done => exact after
  | next pending _ inductionHypothesis => exact .next pending (inductionHypothesis after)

/-- The task of a batch that is answered like the write of the batch ends with the same points to
queue again and the same number of written ones, whatever the server answers. -/
theorem writeOrBisect_follows (server : WriteServer Point) (before : Submission Point)
    (batch : List Point) (rest : List (List Point)) (retryPoints : List Point)
    (writtenPoints : Nat) :
    ∃ made, (before.writeOrBisect server batch).2.requests = before.requests ++ made ∧
      BatchTask.Follows ⟨writeRequests [batch] ++ rest, retryPoints, writtenPoints⟩ made
        ⟨rest, retryPoints ++ (before.writeOrBisect server batch).1.retryPoints,
          writtenPoints + (before.writeOrBisect server batch).1.writtenPoints⟩ := by
  induction size : batch.length using Nat.strong_induction_on
    generalizing before batch rest retryPoints writtenPoints with
  | _ length inductionHypothesis =>
    subst size
    rw [Submission.writeOrBisect]
    split
    · next empty =>
      subst empty
      refine ⟨[], by simp, ?_⟩
      rw [List.append_nil, Nat.add_zero]
      exact .done _
    · next filled =>
      have pos := List.length_pos_of_ne_nil filled
      have pieces : writeRequests [batch] = [batch] := by
        simp [writeRequests, filled]
      rw [pieces]
      dsimp only
      split
      · next outcome =>
        refine ⟨[(batch, .accepted)], by simp [Submission.request, outcome], .next rfl ?_⟩
        rw [List.append_nil]
        exact .done _
      · next outcome =>
        refine ⟨[(batch, .failed)], by simp [Submission.request, outcome], .next rfl ?_⟩
        exact .done _
      · next outcome =>
        rw [Submission.isolateUnprocessable, outcome]
        split
        · next single =>
          refine ⟨[(batch, .refused)], by simp [Submission.request, Submission.reject],
            .next rfl ?_⟩
          rw [BatchTask.answer, isolateUnprocessable, if_pos single, List.append_nil]
          exact .done _
        · next several =>
          have halves := halves_length_lt filled several
          let mid := batch.length / 2
          let left := (before.request batch .refused).writeOrBisect server (batch.take mid)
          obtain ⟨leftMade, leftRequests, first⟩ := inductionHypothesis _ halves.1
            (before.request batch .refused) _ (writeRequests [batch.drop mid] ++ rest)
            retryPoints writtenPoints rfl
          obtain ⟨rightMade, rightRequests, second⟩ := inductionHypothesis _ halves.2 left.2 _ rest
            (retryPoints ++ left.1.retryPoints) (writtenPoints + left.1.writtenPoints) rfl
          refine ⟨(batch, .refused) :: (leftMade ++ rightMade), ?_, .next rfl ?_⟩
          · rw [rightRequests, leftRequests, Submission.request]
            simp
          · have cut : isolateUnprocessable batch ++ rest =
                writeRequests [batch.take mid] ++ (writeRequests [batch.drop mid] ++ rest) := by
              rw [isolateUnprocessable, if_neg several, ← List.append_assoc]
              exact congrArg (· ++ rest) (List.filter_append [_] [_])
            rw [List.append_assoc, Nat.add_assoc] at second
            show BatchTask.Follows ⟨isolateUnprocessable batch ++ rest, retryPoints, writtenPoints⟩
              _ _
            rw [cut]
            exact first.append second

end Gyanam
