/-
This file builds limits over sliding windows. Calls come at times that never
fall. A call is admitted when fewer than so many calls were admitted within a
span before it, the ends of the span included. The limiter keeps a queue of the
times it admitted and drops those that are too old from its front.

What it keeps is exactly what was admitted and still counts. So the limit holds
in every interval of that length, wherever it starts, and a call is refused only
when the span before it is full.
-/

import Mathlib.Algebra.Order.Group.Defs
import Mathlib.Data.List.Basic
import Mathlib.Data.List.Induction

namespace SlidingWindow

variable {Time : Type}

/-- A limiter: the times it keeps, and the calls so far with their answers. -/
structure Limiter (Time : Type) where
  window : List Time := []
  answered : List (Time × Bool) := []

/-- The times of the calls that were admitted. -/
def admitted (answered : List (Time × Bool)) : List Time :=
  (answered.filter Prod.snd).map Prod.fst

theorem admitted_append (first second : List (Time × Bool)) :
    admitted (first ++ second) = admitted first ++ admitted second := by
  rw [admitted, List.filter_append, List.map_append]
  rfl

variable [LinearOrder Time]

/-- The times kept at a cutoff: old ones are dropped from the front. -/
def evict (cutoff : Time) (window : List Time) : List Time :=
  window.dropWhile fun time => decide (time < cutoff)

/-- From a sorted queue the front drops exactly what is too old. -/
theorem evict_eq_filter {window : List Time} (sorted : window.Pairwise (· ≤ ·)) (cutoff : Time) :
    evict cutoff window = window.filter fun time => decide (cutoff ≤ time) := by
  unfold evict
  induction window with
  | nil => rfl
  | cons first rest inductionHypothesis =>
    rw [List.pairwise_cons] at sorted
    by_cases old : first < cutoff
    · rw [List.dropWhile_cons_of_pos (by simpa using old), inductionHypothesis sorted.2,
        List.filter_cons_of_neg (by simpa using old)]
    · rw [List.dropWhile_cons_of_neg (by simpa using old), List.filter_eq_self.mpr]
      intro time member
      rw [not_lt] at old
      rcases List.mem_cons.mp member with rfl | later
      · exact decide_eq_true old
      · exact decide_eq_true (old.trans (sorted.1 time later))

section Limits

variable [AddCommGroup Time] (limit : Nat) (span : Time)

/-- One call. -/
def Limiter.ask (limiter : Limiter Time) (now : Time) : Limiter Time :=
  let kept := evict (now - span) limiter.window
  if kept.length < limit then ⟨kept ++ [now], limiter.answered ++ [(now, true)]⟩
  else ⟨kept, limiter.answered ++ [(now, false)]⟩

/-- Some calls, from the start. -/
def asked (calls : List Time) : Limiter Time := calls.foldl (Limiter.ask limit span) {}

/-- How many calls were admitted from a time on. -/
def countSince (start : Time) (answered : List (Time × Bool)) : Nat :=
  ((admitted answered).filter fun time => decide (start ≤ time)).length

variable {limit span}

theorem asked_concat (calls : List Time) (now : Time) :
    asked limit span (calls ++ [now]) = (asked limit span calls).ask limit span now := by
  rw [asked, List.foldl_append]
  rfl

theorem answered_ask (limiter : Limiter Time) (now : Time) :
    (limiter.ask limit span now).answered = limiter.answered ++
      [(now, decide ((evict (now - span) limiter.window).length < limit))] := by
  unfold Limiter.ask
  by_cases free : (evict (now - span) limiter.window).length < limit
  · simp only [if_pos free, decide_eq_true free]
  · simp only [if_neg free, decide_eq_false free]

variable (limit span) in
/-- Every call is answered. -/
theorem map_fst_answered (calls : List Time) :
    (asked limit span calls).answered.map Prod.fst = calls := by
  induction calls using List.reverseRecOn with
  | nil => rfl
  | append_singleton calls now inductionHypothesis =>
    rw [asked_concat, answered_ask, List.map_append, inductionHypothesis]
    rfl

theorem mem_of_mem_admitted {calls : List Time} {time : Time}
    (member : time ∈ admitted (asked limit span calls).answered) : time ∈ calls := by
  obtain ⟨entry, listed, rfl⟩ := List.mem_map.mp member
  rw [← map_fst_answered limit span calls]
  exact List.mem_map_of_mem (List.mem_filter.mp listed).1

variable (limit span) in
/-- The times of admitted calls never fall. -/
theorem admitted_sorted {calls : List Time} (ordered : calls.Pairwise (· ≤ ·)) :
    (admitted (asked limit span calls).answered).Pairwise (· ≤ ·) := by
  rw [← map_fst_answered limit span calls] at ordered
  exact ordered.sublist (List.filter_sublist.map Prod.fst)

variable [IsOrderedAddMonoid Time]

/-- At any time from the last call on, the limiter has kept what was admitted and still counts. -/
theorem evict_window {calls : List Time} (ordered : calls.Pairwise (· ≤ ·)) {now : Time}
    (latest : ∀ call ∈ calls, call ≤ now) :
    evict (now - span) (asked limit span calls).window =
      (admitted (asked limit span calls).answered).filter fun time =>
        decide (now - span ≤ time) := by
  induction calls using List.reverseRecOn generalizing now with
  | nil => rfl
  | append_singleton calls last inductionHypothesis =>
    rw [List.pairwise_append] at ordered
    have before : ∀ call ∈ calls, call ≤ last := fun call member =>
      ordered.2.2 call member last (List.mem_singleton_self last)
    have reached : last - span ≤ now - span := by
      rw [sub_le_sub_iff_right]
      exact latest last (List.mem_append_right _ (List.mem_singleton_self last))
    have kept := inductionHypothesis ordered.1 before
    -- What still counts now has counted at the last call.
    have older : ((admitted (asked limit span calls).answered).filter fun time =>
        decide (last - span ≤ time)).filter (fun time => decide (now - span ≤ time)) =
          (admitted (asked limit span calls).answered).filter fun time =>
            decide (now - span ≤ time) := by
      rw [List.filter_filter]
      refine List.filter_congr fun time _ => ?_
      rw [← Bool.decide_and, decide_eq_decide, and_iff_left_iff_imp]
      exact reached.trans
    have sorted := admitted_sorted limit span ordered.1
    rw [asked_concat, answered_ask, admitted_append, Limiter.ask]
    by_cases free : (evict (last - span) (asked limit span calls).window).length < limit
    · simp only [if_pos free, decide_eq_true free]
      rw [evict_eq_filter, List.filter_append, List.filter_append, kept, older]
      · rfl
      · rw [kept, List.pairwise_append]
        refine ⟨sorted.sublist List.filter_sublist, List.pairwise_singleton _ _, ?_⟩
        intro time member other single
        rw [List.mem_singleton.mp single]
        exact before time (mem_of_mem_admitted (List.mem_filter.mp member).1)
    · simp only [if_neg free, decide_eq_false free]
      rw [evict_eq_filter (kept ▸ sorted.sublist List.filter_sublist), kept, older,
        List.filter_append]
      exact (List.append_nil _).symm

/-- A call is admitted exactly when fewer calls than the limit were admitted in the span before
it. -/
theorem answer_eq {calls : List Time} (ordered : calls.Pairwise (· ≤ ·))
    {earlier later : List (Time × Bool)} {now : Time} {admits : Bool}
    (split : (asked limit span calls).answered = earlier ++ (now, admits) :: later) :
    admits = decide (countSince (now - span) earlier < limit) := by
  induction calls using List.reverseRecOn generalizing later with
  | nil => exact absurd split.symm (by simp [asked])
  | append_singleton calls last inductionHypothesis =>
    rw [List.pairwise_append] at ordered
    rw [asked_concat, answered_ask] at split
    rcases List.eq_nil_or_concat later with rfl | ⟨front, final, rfl⟩
    · obtain ⟨same, answer⟩ := List.append_inj' split rfl
      obtain ⟨rfl, rfl⟩ := Prod.mk.inj (List.singleton_inj.mp answer)
      have before : ∀ call ∈ calls, call ≤ last := fun call member =>
        ordered.2.2 call member last (List.mem_singleton_self last)
      rw [evict_window ordered.1 before, same]
      rfl
    · rw [List.concat_eq_append, ← List.cons_append, ← List.append_assoc] at split
      exact inductionHypothesis ordered.1 (List.append_inj' split rfl).1

variable (limit span) in
/-- In every interval of the length of the span at most the limit of calls is admitted. -/
theorem interval_bound {calls : List Time} (ordered : calls.Pairwise (· ≤ ·)) (start : Time) :
    ((admitted (asked limit span calls).answered).filter fun time =>
      decide (start ≤ time) && decide (time ≤ start + span)).length ≤ limit := by
  induction calls using List.reverseRecOn with
  | nil => exact Nat.zero_le _
  | append_singleton calls last inductionHypothesis =>
    have earlier := ordered
    rw [List.pairwise_append] at earlier
    have bound := inductionHypothesis earlier.1
    rw [asked_concat, answered_ask, admitted_append, List.filter_append, List.length_append]
    by_cases free : (evict (last - span) (asked limit span calls).window).length < limit
    · have before : ∀ call ∈ calls, call ≤ last := fun call member =>
        earlier.2.2 call member last (List.mem_singleton_self last)
      rw [decide_eq_true free]
      by_cases inside : last ≤ start + span
      · -- The calls of the interval that were admitted before all count at this one.
        have counting : ((admitted (asked limit span calls).answered).filter fun time =>
            decide (start ≤ time) && decide (time ≤ start + span)).length ≤
              (evict (last - span) (asked limit span calls).window).length := by
          rw [evict_window earlier.1 before]
          refine (List.monotone_filter_right _ fun time within => ?_).length_le
          rw [Bool.and_eq_true, decide_eq_true_eq] at within
          exact decide_eq_true ((sub_le_iff_le_add.mpr inside).trans within.1)
        have single : ((admitted [(last, true)]).filter fun time =>
            decide (start ≤ time) && decide (time ≤ start + span)).length ≤ 1 :=
          List.length_filter_le _ _
        omega
      · have outside : ((admitted [(last, true)]).filter fun time =>
            decide (start ≤ time) && decide (time ≤ start + span)) = [] := by
          simp [admitted, inside]
        rw [outside]
        exact bound
    · rw [decide_eq_false free]
      exact bound

/-- A call is refused exactly when the limit of calls was admitted in the span before it. -/
theorem refused_iff {calls : List Time} (ordered : calls.Pairwise (· ≤ ·))
    {earlier later : List (Time × Bool)} {now : Time} {admits : Bool}
    (split : (asked limit span calls).answered = earlier ++ (now, admits) :: later) :
    admits = false ↔ countSince (now - span) earlier = limit := by
  have before : ∀ time ∈ admitted earlier, time ≤ now := by
    intro time member
    obtain ⟨entry, listed, rfl⟩ := List.mem_map.mp member
    have times := map_fst_answered limit span calls
    rw [split, List.map_append, List.map_cons] at times
    rw [← times, List.pairwise_append] at ordered
    exact ordered.2.2 entry.1 (List.mem_map_of_mem (List.mem_filter.mp listed).1) now
      List.mem_cons_self
  have interval : countSince (now - span) earlier =
      ((admitted earlier).filter fun time =>
        decide (now - span ≤ time) && decide (time ≤ now - span + span)).length := by
    refine congrArg List.length (List.filter_congr fun time member => ?_)
    rw [sub_add_cancel, decide_eq_true (before time member), Bool.and_true]
  have bound := interval_bound limit span ordered (now - span)
  rw [split, admitted_append, List.filter_append, List.length_append, ← interval] at bound
  rw [answer_eq ordered split, decide_eq_false_iff_not]
  omega

end Limits

end SlidingWindow
