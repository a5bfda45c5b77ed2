/-
This file models the rate limiter of the alert manager. It keeps a queue of times
for each target: a call drops the times of its target that are older than a
minute, and is allowed when fewer than the limit are left. The queues of other
targets are not looked at.

So what happens to one target is a limiter over a sliding window of its own, and
the limit holds in every minute, not only in those that end at a call.
-/

import Gyanam.Lib.PerKey
import Gyanam.Lib.SlidingWindow
import Gyanam.Models
import Mathlib.Algebra.Order.Group.Int

namespace Gyanam

open SlidingWindow (Limiter admitted)

/-! ### The limiter -/

/-- A minute, in microseconds. -/
def minute : Time := 60000000

/-- A limiter of so many alerts a minute: the times of allowed alerts by target. -/
structure RateLimiter (maxAlerts : Nat) where
  windows : TargetId → List Time := fun _ => []

/-- Check if an alert of a target should be allowed now. -/
def RateLimiter.allow {maxAlerts : Nat} (limiter : RateLimiter maxAlerts) (targetId : TargetId)
    (now : Time) : Bool × RateLimiter maxAlerts :=
  let window := SlidingWindow.evict (now - minute) (limiter.windows targetId)
  if window.length < maxAlerts then
    (true, { windows := Function.update limiter.windows targetId (window ++ [now]) })
  else (false, { windows := Function.update limiter.windows targetId window })

/-- A call of the limiter. -/
structure AllowCall where
  targetId : TargetId
  now : Time
  deriving DecidableEq, Repr

/-- A limiter, with the calls so far and their answers. -/
abbrev AnsweredCalls (maxAlerts : Nat) := RateLimiter maxAlerts × List (AllowCall × Bool)

/-- Answer one more call. -/
def answerCall {maxAlerts : Nat} (answered : AnsweredCalls maxAlerts) (call : AllowCall) :
    AnsweredCalls maxAlerts :=
  let (allowed, limiter) := answered.1.allow call.targetId call.now
  (limiter, answered.2 ++ [(call, allowed)])

/-- The answers to some calls of a new limiter. -/
def answers (maxAlerts : Nat) (calls : List AllowCall) : List (AllowCall × Bool) :=
  (calls.foldl answerCall (({} : RateLimiter maxAlerts), [])).2

/-- The calls for a target among some calls. -/
def callsFor (targetId : TargetId) (calls : List AllowCall) : List AllowCall :=
  calls.filter fun call => decide (call.targetId = targetId)

/-- The answers to the calls for a target, with the times of the calls. -/
def answersFor (targetId : TargetId) (answered : List (AllowCall × Bool)) : List (Time × Bool) :=
  (answered.filter fun entry => decide (entry.1.targetId = targetId)).map fun entry =>
    (entry.1.now, entry.2)

/-- The times at which a target was allowed an alert. -/
def allowedTimes (targetId : TargetId) (answered : List (AllowCall × Bool)) : List Time :=
  admitted (answersFor targetId answered)

/-! ### One target -/

section Targets

variable {maxAlerts : Nat}

/-- What the limiter knows of a target, and what it has answered for it. -/
def limiterOf (answered : AnsweredCalls maxAlerts) (targetId : TargetId) : Limiter Time where
  window := answered.1.windows targetId
  answered := answersFor targetId answered.2

theorem answersFor_append (targetId : TargetId) (first second : List (AllowCall × Bool)) :
    answersFor targetId (first ++ second) =
      answersFor targetId first ++ answersFor targetId second := by
  rw [answersFor, List.filter_append, List.map_append]
  rfl

/-- A call acts on its target alone, and there as one limiter over a sliding window. -/
theorem answerCall_actsOn : ActsOn limiterOf (@answerCall maxAlerts) (·.targetId)
    fun call limiter => limiter.ask maxAlerts minute call.now := by
  refine ActsOn.intro (fun answered call => ?_) fun answered call other different => ?_
  · have own (allowed : Bool) : answersFor call.targetId (answered.2 ++ [(call, allowed)]) =
        answersFor call.targetId answered.2 ++ [(call.now, allowed)] := by
      rw [answersFor_append]
      simp [answersFor]
    unfold limiterOf answerCall RateLimiter.allow Limiter.ask
    by_cases free : (SlidingWindow.evict (call.now - minute)
        (answered.1.windows call.targetId)).length < maxAlerts
    · simp only [if_pos free, own, Function.update_self]
    · simp only [if_neg free, own, Function.update_self]
  · have foreign (allowed : Bool) : answersFor other (answered.2 ++ [(call, allowed)]) =
        answersFor other answered.2 := by
      rw [answersFor_append]
      simp [answersFor, Ne.symm different]
    unfold limiterOf answerCall RateLimiter.allow
    by_cases free : (SlidingWindow.evict (call.now - minute)
        (answered.1.windows call.targetId)).length < maxAlerts
    · simp only [if_pos free, foreign, Function.update_of_ne different]
    · simp only [if_neg free, foreign, Function.update_of_ne different]

/-- The answers for a target are those of one limiter that is asked at the times of its calls. -/
theorem answersFor_answers (calls : List AllowCall) (targetId : TargetId) :
    answersFor targetId (answers maxAlerts calls) =
      (SlidingWindow.asked maxAlerts minute
        ((callsFor targetId calls).map (·.now))).answered := by
  have view := answerCall_actsOn.view_foldl calls (({} : RateLimiter maxAlerts), []) targetId
  rw [SlidingWindow.asked, List.foldl_map]
  exact congrArg Limiter.answered view

theorem callsFor_ordered {calls : List AllowCall}
    (ordered : calls.Pairwise fun first second => first.now ≤ second.now) (targetId : TargetId) :
    ((callsFor targetId calls).map (·.now)).Pairwise (· ≤ ·) :=
  List.pairwise_map.mpr (ordered.sublist List.filter_sublist)

end Targets

/-- Over any calls whose times never fall, for any targets: in every minute, its ends included, a
target is allowed at most the limit; a call is refused exactly when the limit of earlier calls for
its target was allowed within the minute before it; and the answers for a target are those it would
get if no other target were there. -/
theorem rate_limiter_exact (maxAlerts : Nat) (calls : List AllowCall)
    (ordered : calls.Pairwise fun first second => first.now ≤ second.now) :
    (∀ targetId start, ((allowedTimes targetId (answers maxAlerts calls)).filter fun time =>
        decide (start ≤ time) && decide (time ≤ start + minute)).length ≤ maxAlerts) ∧
      (∀ earlier call allowed later,
        answers maxAlerts calls = earlier ++ (call, allowed) :: later →
          (allowed = false ↔ ((allowedTimes call.targetId earlier).filter fun time =>
            decide (call.now - minute ≤ time)).length = maxAlerts)) ∧
      ∀ targetId, answersFor targetId (answers maxAlerts calls) =
        answersFor targetId (answers maxAlerts (callsFor targetId calls)) := by
  refine ⟨fun targetId start => ?_, fun earlier call allowed later split => ?_, fun targetId => ?_⟩
  · rw [allowedTimes, answersFor_answers]
    exact SlidingWindow.interval_bound _ _ (callsFor_ordered ordered targetId) start
  · have own : answersFor call.targetId (answers maxAlerts calls) =
        answersFor call.targetId earlier ++
          (call.now, allowed) :: answersFor call.targetId later := by
      rw [split, ← List.singleton_append, answersFor_append, answersFor_append]
      simp [answersFor]
    rw [answersFor_answers] at own
    exact SlidingWindow.refused_iff (callsFor_ordered ordered call.targetId) own
  · rw [answersFor_answers, answersFor_answers, callsFor, callsFor, List.filter_filter]
    simp only [Bool.and_self]

/-- Calls for two targets. One of them asks again half a minute later, a minute later, and just
after that. -/
def burstCalls : List AllowCall :=
  [⟨1, 0⟩, ⟨2, 0⟩, ⟨1, 30000000⟩, ⟨1, minute⟩, ⟨1, minute + 1⟩]

theorem burstCalls_exact :
    (answers 1 burstCalls).map Prod.snd = [true, true, false, false, true] ∧
      ∀ start, ((allowedTimes 1 (answers 1 burstCalls)).filter fun time =>
        decide (start ≤ time) && decide (time ≤ start + minute)).length ≤ 1 :=
  ⟨by decide, (rate_limiter_exact 1 burstCalls (by decide)).1 1⟩

end Gyanam
