/-
This file follows the results of the polls from the queue of the poller to the
task that extracts them. A call takes results off the queue until it has waited
for one in vain, and only then hands over what it took. So a call returns when
the results pause for longer than it waits, and the task extracts what it took
exactly then. A stream that keeps coming is taken off the queue for good and
never extracted.

A result is known by when it is put on the queue. Between two of its waits a
call does not suspend, so the next wait begins when the last result is taken.
-/

import Mathlib.Algebra.Order.Ring.Rat
import Mathlib.Tactic.Linarith

namespace Gyanam

variable {Result : Type}

/-! ### The queue over time -/

/-- A result put on the queue: when, and whether a timer that is due at the same moment fires
first. -/
structure QueuePut (Result : Type) where
  result : Result
  time : ℚ
  timerFirst : Bool := false
  deriving DecidableEq, Repr

/-- Whether a result is there before a timer fires. -/
def QueuePut.Before (put : QueuePut Result) (deadline : ℚ) : Prop :=
  put.time < deadline ∨ put.time = deadline ∧ put.timerFirst = false

instance (put : QueuePut Result) (deadline : ℚ) : Decidable (put.Before deadline) :=
  inferInstanceAs (Decidable (_ ∨ _))

/-- The results put on the queue, one after the other; there may be a last one. -/
def Feed (Result : Type) := Nat → Option (QueuePut Result)

namespace Feed

/-- The first results of a feed. -/
def results (feed : Feed Result) (count : Nat) : List Result :=
  (List.range count).filterMap fun index => (feed index).map QueuePut.result

/-- Wait for the result at a position, from a moment on: the result, and when it is taken. A wait
without a positive timeout is over before it looks at the queue. -/
def waitFor (feed : Feed Result) (timeout : ℚ) (position : Nat) (now : ℚ) :
    Option (Result × ℚ) :=
  if timeout ≤ 0 then none
  else
    match feed position with
    | some put =>
      if put.Before (now + timeout) then some (put.result, max now put.time) else none
    | none => none

end Feed

/-- What a call returns: the results it took, the position it has reached, and the time. -/
structure Returned (Result : Type) where
  results : List Result
  position : Nat
  time : ℚ
  deriving DecidableEq, Repr

/-- Take results until one does not come within the timeout. The call may not be over after a number
of waits. -/
def getResults (feed : Feed Result) (timeout : ℚ) :
    (waits : Nat) → (position : Nat) → (now : ℚ) → (results : List Result) →
      Option (Returned Result)
  | 0, _, _, _ => none
  | waits + 1, position, now, results =>
    match feed.waitFor timeout position now with
    | some (result, time) =>
      getResults feed timeout waits (position + 1) time (results ++ [result])
    | none => some ⟨results, position, now + max 0 timeout⟩

/-! ### The task -/

/-- The task between two calls: the results that were taken off the queue for it, the time, the
results it extracted, and whether it has ended. -/
structure ResultProcessor (Result : Type) where
  position : Nat := 0
  time : ℚ
  extracted : List Result := []
  ended : Bool := false
  deriving DecidableEq, Repr

namespace ResultProcessor

/-- One round of the task: a call of one second, and the extraction of what it returned. When it
returned nothing and the stop event is set, the task ends. -/
inductive Round (feed : Feed Result) (task : ResultProcessor Result) :
    ResultProcessor Result → Prop where
  | returned (waits : Nat) (returned : Returned Result) (extraction : ℚ) (stopEvent : Bool)
      (going : task.ended = false)
      (call : getResults feed 1 waits task.position task.time [] = some returned)
      (forward : 0 ≤ extraction) :
    Round feed task
      { position := returned.position
        time := returned.time + extraction
        extracted := task.extracted ++ returned.results
        ended := returned.results.isEmpty && stopEvent }

/-- The states of the task between two calls. -/
inductive Reached (feed : Feed Result) : ResultProcessor Result → Prop where
  | start (time : ℚ) : Reached feed { time := time }
  | round {task next : ResultProcessor Result} (reached : Reached feed task)
      (round : Round feed task next) : Reached feed next

end ResultProcessor

/-! ### Pauses -/

namespace Feed

/-- When the wait for a later result begins, if those before it were taken: when the last of them
was there. -/
def waitStart (feed : Feed Result) (position : Nat) (now : ℚ) : Nat → ℚ
  | 0 => now
  | count + 1 =>
    (feed (position + count)).elim (feed.waitStart position now count) fun put =>
      max (feed.waitStart position now count) put.time

/-- After some of the results to come, the next one is not there within the timeout. -/
def PausesAfter (feed : Feed Result) (timeout : ℚ) (position : Nat) (now : ℚ) (count : Nat) :
    Prop :=
  ∀ put, feed (position + count) = some put →
    ¬ put.Before (feed.waitStart position now count + timeout)

/-- The results to come pause: one of them is not there within the timeout of the one before, or
there is a last one. A call without a positive timeout needs no pause. -/
def Pauses (feed : Feed Result) (timeout : ℚ) (position : Nat) (now : ℚ) : Prop :=
  timeout ≤ 0 ∨ ∃ count, feed.PausesAfter timeout position now count

/-- The waits after the first are those that begin with the first result. -/
theorem waitStart_succ (feed : Feed Result) {position : Nat} {put : QueuePut Result}
    (first : feed position = some put) (now : ℚ) (count : Nat) :
    feed.waitStart position now (count + 1) =
      feed.waitStart (position + 1) (max now put.time) count := by
  induction count with
  | zero => simp only [waitStart, Nat.add_zero, first, Option.elim_some]
  | succ count inductionHypothesis =>
    rw [waitStart, inductionHypothesis, waitStart, Nat.add_right_comm position 1 count,
      Nat.add_assoc]

theorem pausesAfter_succ (feed : Feed Result) {timeout : ℚ} {position : Nat}
    {put : QueuePut Result} (first : feed position = some put) (now : ℚ) (count : Nat) :
    feed.PausesAfter timeout position now (count + 1) ↔
      feed.PausesAfter timeout (position + 1) (max now put.time) count := by
  rw [PausesAfter, PausesAfter, feed.waitStart_succ first, Nat.add_right_comm position 1 count,
    Nat.add_assoc]

/-- A wait is in vain exactly when the results pause there. -/
theorem waitFor_eq_none_iff (feed : Feed Result) {timeout : ℚ} (positive : 0 < timeout)
    (position : Nat) (now : ℚ) :
    feed.waitFor timeout position now = none ↔ feed.PausesAfter timeout position now 0 := by
  rw [waitFor, if_neg (not_le.mpr positive), PausesAfter, Nat.add_zero, waitStart]
  cases feed position with
  | none => simp
  | some put => simp

theorem waitFor_eq_some {feed : Feed Result} {timeout : ℚ} {position : Nat} {now time : ℚ}
    {result : Result} (found : feed.waitFor timeout position now = some (result, time)) :
    ∃ put, feed position = some put ∧ result = put.result ∧ time = max now put.time := by
  rw [waitFor] at found
  split at found
  · cases found
  · split at found
    · next put first =>
      obtain ⟨-, same⟩ := Option.ite_none_right_eq_some.mp found
      obtain ⟨rfl, rfl⟩ := Prod.mk.inj (Option.some.inj same)
      exact ⟨put, first, rfl, rfl⟩
    · cases found

theorem results_succ (feed : Feed Result) {position : Nat} {put : QueuePut Result}
    (next : feed position = some put) :
    feed.results (position + 1) = feed.results position ++ [put.result] := by
  rw [results, List.range_succ, List.filterMap_append, ← results, List.filterMap_cons, next]
  rfl

end Feed

/-! ### A call -/

/-- A call returns within a number of waits exactly when the results pause before. -/
theorem getResults_isSome_iff (feed : Feed Result) {timeout : ℚ} (positive : 0 < timeout)
    (waits position : Nat) (now : ℚ) (results : List Result) :
    (getResults feed timeout waits position now results).isSome ↔
      ∃ count < waits, feed.PausesAfter timeout position now count := by
  induction waits generalizing position now results with
  | zero => simp [getResults]
  | succ waits inductionHypothesis =>
    rw [getResults]
    split
    · next result time found =>
      obtain ⟨put, first, -, rfl⟩ := Feed.waitFor_eq_some found
      have goesOn : ¬ feed.PausesAfter timeout position now 0 := by
        rw [← feed.waitFor_eq_none_iff positive, found]
        exact Option.some_ne_none _
      rw [inductionHypothesis]
      constructor
      · rintro ⟨count, within, pauses⟩
        exact ⟨count + 1, Nat.succ_lt_succ within,
          (feed.pausesAfter_succ first now count).mpr pauses⟩
      · rintro ⟨count, within, pauses⟩
        cases count with
        | zero => exact absurd pauses goesOn
        | succ count =>
          exact ⟨count, Nat.lt_of_succ_lt_succ within,
            (feed.pausesAfter_succ first now count).mp pauses⟩
    · next inVain =>
      exact iff_of_true rfl
        ⟨0, Nat.succ_pos waits, (feed.waitFor_eq_none_iff positive position now).mp inVain⟩

/-- A call returns exactly when the results pause. -/
theorem getResults_returns_iff (feed : Feed Result) (timeout : ℚ) (position : Nat) (now : ℚ)
    (results : List Result) :
    (∃ waits returned, getResults feed timeout waits position now results = some returned) ↔
      feed.Pauses timeout position now := by
  by_cases positive : 0 < timeout
  · rw [Feed.Pauses, or_iff_right (not_le.mpr positive)]
    constructor
    · rintro ⟨waits, returned, call⟩
      obtain ⟨count, -, pauses⟩ := (getResults_isSome_iff feed positive waits position now
        results).mp (Option.isSome_of_eq_some call)
      exact ⟨count, pauses⟩
    · rintro ⟨count, pauses⟩
      exact ⟨count + 1, Option.isSome_iff_exists.mp
        ((getResults_isSome_iff feed positive (count + 1) position now results).mpr
          ⟨count, Nat.lt_succ_self count, pauses⟩)⟩
  · have noTime : timeout ≤ 0 := not_lt.mp positive
    refine iff_of_true ⟨1, ⟨results, position, now + max 0 timeout⟩, ?_⟩ (.inl noTime)
    rw [getResults, Feed.waitFor, if_pos noTime]

/-- A call returns all results it took off the queue, in order. -/
theorem getResults_results {feed : Feed Result} {timeout : ℚ} {waits position : Nat} {now : ℚ}
    {results before : List Result} {returned : Returned Result}
    (call : getResults feed timeout waits position now results = some returned)
    (taken : before ++ results = feed.results position) :
    before ++ returned.results = feed.results returned.position := by
  induction waits generalizing position now results with
  | zero => cases call
  | succ waits inductionHypothesis =>
    rw [getResults] at call
    split at call
    · next result time found =>
      obtain ⟨put, first, rfl, -⟩ := Feed.waitFor_eq_some found
      refine inductionHypothesis call ?_
      rw [feed.results_succ first, ← taken, List.append_assoc]
    · obtain rfl := Option.some.inj call
      exact taken

/-! ### The task over time -/

/-- Between two calls the task has extracted every result that was taken off the queue. -/
theorem ResultProcessor.Reached.extracted {feed : Feed Result} {task : ResultProcessor Result}
    (reached : Reached feed task) : task.extracted = feed.results task.position := by
  induction reached with
  | start time => rfl
  | round reached round inductionHypothesis =>
    cases round with
    | returned waits returned extraction stopEvent going call forward =>
      exact getResults_results call (by rw [List.append_nil, inductionHypothesis])

/-- A call returns after finitely many waits exactly when the results to come pause for longer than
it waits. The task has extracted everything it dequeued whenever a call has returned, and what its
next call dequeues is extracted exactly when the results pause for longer than a second. -/
theorem results_handed_over_iff (feed : Feed Result) :
    (∀ timeout position now,
      (∃ waits returned, getResults feed timeout waits position now [] = some returned) ↔
        feed.Pauses timeout position now) ∧
    ∀ task, ResultProcessor.Reached feed task →
      task.extracted = feed.results task.position ∧
        (task.ended = false →
          ((∃ next, ResultProcessor.Round feed task next) ↔
            feed.Pauses 1 task.position task.time)) := by
  refine ⟨fun timeout position now => getResults_returns_iff feed timeout position now [],
    fun task reached => ⟨reached.extracted, fun going => ?_⟩⟩
  rw [← getResults_returns_iff feed 1 task.position task.time []]
  constructor
  · rintro ⟨next, round⟩
    cases round with
    | returned waits returned extraction stopEvent going call forward =>
      exact ⟨waits, returned, call⟩
  · rintro ⟨waits, returned, call⟩
    exact ⟨_, .returned waits returned 0 false going call le_rfl⟩

/-- Two results arrive half a second apart, and then none. -/
def burst : Feed Nat := fun index =>
  if index < 2 then some { result := index, time := (index + 1) / 2 } else none

theorem burst_pauses : burst.Pauses 1 0 0 :=
  .inr ⟨2, fun put found => by simp [burst] at found⟩

/-- Both are handed over. -/
theorem burst_handed_over :
    (∃ waits returned, getResults burst 1 waits 0 0 [] = some returned) ∧
      ∃ next, ResultProcessor.Round burst { time := 0 } next :=
  ⟨((results_handed_over_iff burst).1 1 0 0).mpr burst_pauses,
    (((results_handed_over_iff burst).2 _ (.start 0)).2 rfl).mpr burst_pauses⟩

/-- A result arrives every half second. -/
def steady : Feed Nat := fun index => some { result := index, time := (index + 1) / 2 }

theorem steady_waitStart (count : Nat) : steady.waitStart 0 0 count = count / 2 := by
  induction count with
  | zero => simp [Feed.waitStart]
  | succ count inductionHypothesis =>
    rw [Feed.waitStart, inductionHypothesis, Nat.zero_add, steady, Option.elim_some, Nat.cast_succ]
    exact max_eq_right (by linarith)

/-- A call that waits for a second never returns then, and the task extracts nothing. -/
theorem steady_never_handed_over :
    (∀ waits, getResults steady 1 waits 0 0 [] = none) ∧
      ∀ next, ¬ ResultProcessor.Round steady { time := 0 } next := by
  have never : ¬ ∃ waits returned, getResults steady 1 waits 0 0 [] = some returned := by
    rw [getResults_returns_iff]
    rintro (noTime | ⟨count, pauses⟩)
    · exact absurd noTime (by decide)
    · refine pauses _ rfl (.inl ?_)
      rw [steady_waitStart, Nat.zero_add]
      linarith
  refine ⟨fun waits => Option.eq_none_iff_forall_not_mem.mpr fun returned call => ?_,
    fun next round => ?_⟩
  · exact never ⟨waits, returned, call⟩
  · cases round with
    | returned waits returned extraction stopEvent going call forward =>
      exact never ⟨waits, returned, call⟩

end Gyanam
