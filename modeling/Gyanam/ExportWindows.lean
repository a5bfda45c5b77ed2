/-
This file says which windows an export plans: chunk after chunk from the start
of the range, the last one cut off at its end. They follow one another without a
gap or an overlap, so every instant of the range falls in exactly one of them.
Planning raises exactly when the end of a chunk, before it is cut off, lies
outside the calendar.
-/

import Gyanam.MetricsExport
import Mathlib.Data.List.Chain

namespace Gyanam

open Datetime (maxReading minReading)

/-! ### The windows of a range -/

/-- The number of chunks that a range needs. -/
def windowCount (delta start stop : Int) : Nat := ((stop - start + delta - 1) / delta).toNat

/-- A chunk of a range. -/
def chunkWindow (delta start stop : Int) (index : Nat) : Int × Int :=
  (start + index * delta, min (start + index * delta + delta) stop)

/-- The chunks of a range. -/
def chunkWindows (delta start stop : Int) : List (Int × Int) :=
  (List.range (windowCount delta start stop)).map (chunkWindow delta start stop)

theorem windowCount_of_ge {delta start stop : Int} (positive : 0 < delta) (done : stop ≤ start) :
    windowCount delta start stop = 0 := by
  refine Int.toNat_eq_zero.mpr (Int.lt_add_one_iff.mp ?_)
  exact Int.ediv_lt_of_lt_mul positive (by omega)

theorem windowCount_succ {delta start stop : Int} (positive : 0 < delta) (before : start < stop) :
    windowCount delta start stop = windowCount delta (min (start + delta) stop) stop + 1 := by
  have shift : stop - start + delta - 1 = stop - (start + delta) + delta - 1 + 1 * delta := by omega
  have quotient : (stop - start + delta - 1) / delta =
      (stop - (start + delta) + delta - 1) / delta + 1 := by
    rw [shift, Int.add_mul_ediv_right _ _ (by omega)]
  rcases Int.lt_or_le (start + delta) stop with inside | past
  · rw [Int.min_eq_left (by omega)]
    unfold windowCount
    have next : 0 ≤ (stop - (start + delta) + delta - 1) / delta :=
      Int.ediv_nonneg (by omega) (by omega)
    rw [quotient]
    omega
  · rw [Int.min_eq_right past, windowCount_of_ge positive (Int.le_refl stop)]
    unfold windowCount
    rw [quotient, Int.ediv_eq_zero_of_lt (by omega) (by omega)]
    rfl

/-- The first chunk, and the chunks of what is left. -/
theorem chunkWindows_succ {delta start stop : Int} (positive : 0 < delta) (before : start < stop) :
    chunkWindows delta start stop =
      (start, min (start + delta) stop) ::
        chunkWindows delta (min (start + delta) stop) stop := by
  unfold chunkWindows
  rw [windowCount_succ positive before, List.range_succ_eq_map, List.map_cons, List.map_map]
  refine congrArg₂ List.cons (by simp [chunkWindow]) ?_
  rcases Int.lt_or_le (start + delta) stop with inside | past
  · rw [Int.min_eq_left (by omega)]
    refine List.map_congr_left fun index _ => ?_
    have next : start + ((index + 1 : Nat) : Int) * delta = start + delta + index * delta := by
      rw [Int.natCast_add, Int.add_mul]
      omega
    simp only [Function.comp, chunkWindow, Nat.succ_eq_add_one, next]
  · rw [Int.min_eq_right past, windowCount_of_ge positive (Int.le_refl stop)]
    rfl

theorem chunkWindows_of_ge {delta start stop : Int} (positive : 0 < delta) (done : stop ≤ start) :
    chunkWindows delta start stop = [] := by
  rw [chunkWindows, windowCount_of_ge positive done]
  rfl

/-! ### Planning -/

/-- The last chunk of a range ends in the calendar, before it is cut off. -/
def EndsInCalendar (delta start stop : Int) : Prop :=
  start + windowCount delta start stop * delta ≤ maxReading

instance (delta start stop : Int) : Decidable (EndsInCalendar delta start stop) :=
  inferInstanceAs (Decidable (_ ≤ _))

theorem endsInCalendar_succ {delta start stop : Int} (positive : 0 < delta)
    (before : start < stop) (inCalendar : stop ≤ maxReading) :
    EndsInCalendar delta start stop ↔ start + delta ≤ maxReading ∧
      EndsInCalendar delta (min (start + delta) stop) stop := by
  unfold EndsInCalendar
  rw [windowCount_succ positive before]
  rcases Int.lt_or_le (start + delta) stop with inside | past
  · rw [Int.min_eq_left (by omega), Int.natCast_add, Int.add_mul]
    constructor
    · intro fits
      exact ⟨by omega, by omega⟩
    · rintro ⟨_, fits⟩
      omega
  · rw [Int.min_eq_right past, windowCount_of_ge positive (Int.le_refl stop)]
    simp only [Nat.zero_add, Int.natCast_one, Int.one_mul, Int.natCast_zero, Int.zero_mul,
      Int.add_zero]
    exact ⟨fun fits => ⟨fits, inCalendar⟩, And.left⟩

/-- Planning from an instant on gives the chunks of what is left, or raises. -/
theorem planFrom_eq {delta stop : Int} (positive : 0 < delta) (inCalendar : stop ≤ maxReading)
    (current : Int) (notPast : current ≤ stop) :
    planFrom delta positive stop current =
      if EndsInCalendar delta current stop then some (chunkWindows delta current stop)
      else none := by
  fun_induction planFrom delta positive stop current with
  | case1 current before fits inductionHypothesis =>
    rw [inductionHypothesis (Int.min_le_right _ _), chunkWindows_succ positive before]
    have ends := endsInCalendar_succ positive before inCalendar
    by_cases rest : EndsInCalendar delta (min (current + delta) stop) stop
    · rw [if_pos rest, if_pos (ends.mpr ⟨fits, rest⟩), Option.map_some]
    · rw [if_neg rest, if_neg fun all => rest (ends.mp all).2, Option.map_none]
  | case2 current before overflows =>
    have ends := endsInCalendar_succ positive before inCalendar
    rw [if_neg fun all => overflows (ends.mp all).1]
  | case3 current after =>
    have done : stop ≤ current := Int.not_lt.mp after
    rw [chunkWindows_of_ge positive done, if_pos]
    unfold EndsInCalendar
    rw [windowCount_of_ge positive done]
    simp only [Int.natCast_zero, Int.zero_mul, Int.add_zero]
    exact notPast.trans inCalendar

/-- Planning gives the chunks of the range, or raises. -/
theorem planWindows_eq {start stop : Datetime.Reading} {chunkHours : Int}
    (before : start.micros < stop.micros) (chunked : 0 < chunkHours) :
    planWindows start stop chunkHours =
      if EndsInCalendar (chunkHours * hourMicros) start.micros stop.micros then
        some (chunkWindows (chunkHours * hourMicros) start.micros stop.micros)
      else none := by
  have positive := chunk_positive chunked
  unfold planWindows
  rw [dif_pos chunked]
  split
  · exact planFrom_eq positive stop.inCalendar.2 start.micros (Int.le_of_lt before)
  · next long =>
    have ends := endsInCalendar_succ positive before stop.inCalendar.2
    refine (if_neg fun fits => long ?_).symm
    have first := (ends.mp fits).1
    have lower := start.inCalendar.1
    unfold maxReading at first
    unfold minReading at lower
    unfold maxTimedelta
    omega

/-! ### What the windows cover -/

/-- Windows that split a range: each begins where the one before it ends, no two overlap, and the
instants in them are those of the range. -/
structure Splits (start stop : Int) (windows : List (Int × Int)) : Prop where
  consecutive : windows.IsChain fun earlier later => earlier.2 = later.1
  disjoint : windows.Pairwise fun earlier later => earlier.2 ≤ later.1
  covers : ∀ time, (∃ window ∈ windows, window.1 ≤ time ∧ time < window.2) ↔
    start ≤ time ∧ time < stop

theorem chunkWindows_head (delta start stop : Int) :
    ∀ window ∈ (chunkWindows delta start stop).head?, window.1 = start := by
  intro window first
  unfold chunkWindows at first
  cases count : windowCount delta start stop with
  | zero => simp [count] at first
  | succ count' =>
    rw [count, List.range_succ_eq_map] at first
    obtain rfl := Option.some.inj first
    simp [chunkWindow]

theorem chunkWindows_ge {delta start stop : Int} (positive : 0 < delta) :
    ∀ window ∈ chunkWindows delta start stop, start ≤ window.1 := by
  intro window member
  obtain ⟨index, -, rfl⟩ := List.mem_map.mp member
  have further : 0 ≤ (index : Int) * delta := Int.mul_nonneg (by omega) (by omega)
  show start ≤ start + (index : Int) * delta
  omega

/-- The chunks of a range split it. -/
theorem splits_chunkWindows {delta start stop : Int} (positive : 0 < delta) :
    Splits start stop (chunkWindows delta start stop) := by
  have ended {start : Int} (done : stop ≤ start) :
      Splits start stop (chunkWindows delta start stop) := by
    rw [chunkWindows_of_ge positive done]
    refine ⟨.nil, .nil, fun time => ?_⟩
    simp only [List.not_mem_nil, false_and, exists_false, false_iff]
    omega
  -- by the chunks that are left
  induction count : windowCount delta start stop generalizing start with
  | zero =>
    rcases Int.lt_or_le start stop with before | done
    · exact absurd ((windowCount_succ positive before).symm.trans count) (by omega)
    · exact ended done
  | succ remaining inductionHypothesis =>
    rcases Int.lt_or_le start stop with before | done
    · rw [windowCount_succ positive before] at count
      have rest := inductionHypothesis (Nat.succ.inj count)
      rw [chunkWindows_succ positive before]
      refine ⟨?_, List.pairwise_cons.mpr ⟨chunkWindows_ge positive, rest.disjoint⟩, fun time => ?_⟩
      · refine rest.consecutive.cons fun window first => ?_
        exact (chunkWindows_head _ _ _ window first).symm
      · have covers := rest.covers time
        simp only [List.mem_cons, exists_eq_or_imp, covers]
        omega
    · exact ended done

end Gyanam
