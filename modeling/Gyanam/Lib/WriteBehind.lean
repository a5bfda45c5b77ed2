/-
This file is about write-behind buffers. Values are recorded under keys and wait;
a flusher takes all that waits, writes it to the store in one transaction, and
gives it back when this fails. What waits is newer than what is being written,
and that is newer than what is stored, as long as no two flushers write one key
at a time and none is stopped before it has written.

The last recording of each key is kept beside the buffer. No operation reads it.
-/

import Mathlib.Logic.Function.Basic
import Mathlib.Data.Option.Basic

/-- A buffer before a store: what waits, what each flusher is writing, what is stored under the keys
that the store has, and the last recordings. -/
@[ext] structure WriteBehind (Flusher Key Value : Type) where
  pending : Key → Option Value
  flight : Flusher → Key → Option Value
  present : Key → Bool
  stored : Key → Option Value
  last : Key → Option Value

namespace WriteBehind

variable {Flusher Key Value : Type}

/-! ### Operations -/

/-- Record a value. -/
def record [DecidableEq Key] (buffer : WriteBehind Flusher Key Value) (key : Key) (value : Value) :
    WriteBehind Flusher Key Value :=
  { buffer with
    pending := Function.update buffer.pending key (some value)
    last := Function.update buffer.last key (some value) }

/-- What a flusher writes reaches the store. -/
def land (buffer : WriteBehind Flusher Key Value) (flusher : Flusher) :
    WriteBehind Flusher Key Value :=
  { buffer with
    stored := fun key =>
      if buffer.present key then (buffer.flight flusher key).or (buffer.stored key)
      else buffer.stored key }

theorem stored_land {buffer : WriteBehind Flusher Key Value} {flusher : Flusher} {key : Key}
    {value : Value} (flies : buffer.flight flusher key = some value)
    (there : buffer.present key = true) : (buffer.land flusher).stored key = some value := by
  have landed : (buffer.land flusher).stored key =
      (buffer.flight flusher key).or (buffer.stored key) := if_pos there
  rw [landed, flies, Option.some_or]

section Flushers

variable [DecidableEq Flusher] (buffer : WriteBehind Flusher Key Value) (flusher : Flusher)

/-- A flusher takes all that waits. -/
def take : WriteBehind Flusher Key Value :=
  { buffer with
    pending := fun _ => none
    flight := Function.update buffer.flight flusher buffer.pending }

/-- A flusher is done. -/
def clear : WriteBehind Flusher Key Value :=
  { buffer with flight := Function.update buffer.flight flusher fun _ => none }

/-- A flusher gives back what it has taken, where nothing else waits. -/
def giveBack : WriteBehind Flusher Key Value :=
  { buffer with
    pending := fun key => (buffer.pending key).or (buffer.flight flusher key)
    flight := Function.update buffer.flight flusher fun _ => none }

theorem flight_take (other : Flusher) (key : Key) :
    (buffer.take flusher).flight other key =
      if other = flusher then buffer.pending key else buffer.flight other key := by
  by_cases own : other = flusher <;> simp [take, own]

theorem flight_clear (other : Flusher) (key : Key) :
    (buffer.clear flusher).flight other key =
      if other = flusher then none else buffer.flight other key := by
  by_cases own : other = flusher <;> simp [clear, own]

/-- A flusher that writes nothing is done already. -/
theorem clear_of_idle (idle : ∀ key, buffer.flight flusher key = none) :
    buffer.clear flusher = buffer := by
  refine WriteBehind.ext rfl ?_ rfl rfl rfl
  funext other key
  rw [flight_clear]
  split
  · next own => rw [own, idle]
  · rfl

theorem flight_giveBack (other : Flusher) (key : Key) :
    (buffer.giveBack flusher).flight other key =
      if other = flusher then none else buffer.flight other key :=
  buffer.flight_clear flusher other key

end Flushers

theorem pending_record [DecidableEq Key] (buffer : WriteBehind Flusher Key Value) (key other : Key)
    (value : Value) :
    (buffer.record key value).pending other =
      if other = key then some value else buffer.pending other :=
  Function.update_apply _ _ _ _

theorem last_record [DecidableEq Key] (buffer : WriteBehind Flusher Key Value) (key other : Key)
    (value : Value) :
    (buffer.record key value).last other =
      if other = key then some value else buffer.last other :=
  Function.update_apply _ _ _ _

/-! ### What is carried -/

/-- Whatever waits or is being written meets a condition. -/
structure Carries (buffer : WriteBehind Flusher Key Value) (meets : Value → Prop) : Prop where
  pending : ∀ {key value}, buffer.pending key = some value → meets value
  flight : ∀ {flusher key value}, buffer.flight flusher key = some value → meets value

namespace Carries

variable {buffer : WriteBehind Flusher Key Value} {meets : Value → Prop}

theorem record [DecidableEq Key] (carries : buffer.Carries meets) (key : Key) {value : Value}
    (met : meets value) : (buffer.record key value).Carries meets where
  pending := by
    intro other found waits
    rw [pending_record] at waits
    split at waits
    · exact Option.some.inj waits ▸ met
    · exact carries.pending waits
  flight := carries.flight

theorem land (carries : buffer.Carries meets) (flusher : Flusher) :
    (buffer.land flusher).Carries meets :=
  ⟨carries.pending, carries.flight⟩

variable [DecidableEq Flusher]

theorem take (carries : buffer.Carries meets) (flusher : Flusher) :
    (buffer.take flusher).Carries meets where
  pending := fun waits => absurd waits (by simp [WriteBehind.take])
  flight := by
    intro other key value flies
    rw [flight_take] at flies
    split at flies
    · exact carries.pending flies
    · exact carries.flight flies

theorem clear (carries : buffer.Carries meets) (flusher : Flusher) :
    (buffer.clear flusher).Carries meets where
  pending := carries.pending
  flight := by
    intro other key value flies
    rw [flight_clear] at flies
    split at flies
    · exact absurd flies (by simp)
    · exact carries.flight flies

theorem giveBack (carries : buffer.Carries meets) (flusher : Flusher) :
    (buffer.giveBack flusher).Carries meets where
  pending := by
    intro key value waits
    rcases Option.or_eq_some_iff.mp waits with before | ⟨_, flies⟩
    · exact carries.pending before
    · exact carries.flight flies
  flight := (carries.clear flusher).flight

end Carries

/-! ### The order of recordings -/

/-- No key is written by two flushers, what waits is the last recording, so is what is written where
nothing waits, and what is stored where nothing is written either. -/
structure Ordered (buffer : WriteBehind Flusher Key Value) : Prop where
  apart : ∀ {first second key}, (buffer.flight first key).isSome →
    (buffer.flight second key).isSome → first = second
  waiting : ∀ {key value}, buffer.pending key = some value → buffer.last key = some value
  written : ∀ {flusher key value}, buffer.pending key = none →
    buffer.flight flusher key = some value → buffer.last key = some value
  settled : ∀ {key value}, buffer.pending key = none →
    (∀ flusher, buffer.flight flusher key = none) → buffer.present key = true →
      buffer.last key = some value → buffer.stored key = some value

namespace Ordered

variable {buffer : WriteBehind Flusher Key Value}

theorem record [DecidableEq Key] (ordered : buffer.Ordered) (key : Key) (value : Value) :
    (buffer.record key value).Ordered where
  apart := ordered.apart
  waiting := by
    intro other found waits
    rw [pending_record] at waits
    rw [last_record]
    split at waits
    · next same => rw [if_pos same, waits]
    · next different => rw [if_neg different, ordered.waiting waits]
  written := by
    intro flusher other found waits flies
    rw [pending_record] at waits
    rw [last_record]
    split at waits
    · exact absurd waits (by simp)
    · next different => rw [if_neg different, ordered.written waits flies]
  settled := by
    intro other found waits flies there recorded
    rw [pending_record] at waits
    rw [last_record] at recorded
    split at waits
    · exact absurd waits (by simp)
    · next different =>
      rw [if_neg different] at recorded
      exact ordered.settled waits flies there recorded

theorem land (ordered : buffer.Ordered) (flusher : Flusher) : (buffer.land flusher).Ordered where
  apart := ordered.apart
  waiting := ordered.waiting
  written := ordered.written
  settled := by
    intro key value waits flies there recorded
    have unwritten : buffer.flight flusher key = none := flies flusher
    have landed : (buffer.land flusher).stored key =
        (buffer.flight flusher key).or (buffer.stored key) := if_pos there
    rw [landed, unwritten, Option.none_or]
    exact ordered.settled waits flies there recorded

variable [DecidableEq Flusher] {flusher : Flusher}

/-- A flusher may take what waits when none of it is being written. -/
theorem take (ordered : buffer.Ordered)
    (unwritten : ∀ key, (buffer.pending key).isSome → ∀ other, buffer.flight other key = none)
    (idle : ∀ key, buffer.flight flusher key = none) : (buffer.take flusher).Ordered where
  apart := by
    intro first second key flies flies'
    rw [flight_take] at flies flies'
    split at flies
    · next own =>
      split at flies'
      · next own' => exact own.trans own'.symm
      · rw [unwritten key flies] at flies'
        exact absurd flies' (by simp)
    · split at flies'
      · rw [unwritten key flies'] at flies
        exact absurd flies (by simp)
      · exact ordered.apart flies flies'
  waiting := fun waits => absurd waits (by simp [WriteBehind.take])
  written := by
    intro other key value _ flies
    rw [flight_take] at flies
    split at flies
    · exact ordered.waiting flies
    · refine ordered.written ?_ flies
      rw [← Option.not_isSome_iff_eq_none]
      intro waits
      exact absurd (flies.symm.trans (unwritten key waits other)) (by simp)
  settled := by
    intro key value _ flies there recorded
    have unpending := flies flusher
    rw [flight_take, if_pos rfl] at unpending
    refine ordered.settled unpending (fun other => ?_) there recorded
    by_cases own : other = flusher
    · rw [own, idle key]
    · have others := flies other
      rwa [flight_take, if_neg own] at others

/-- A flusher may be done when what it writes is stored. -/
theorem clear (ordered : buffer.Ordered)
    (landed : ∀ key value, buffer.flight flusher key = some value → buffer.present key = true →
      buffer.stored key = some value) : (buffer.clear flusher).Ordered where
  apart := by
    intro first second key flies flies'
    rw [flight_clear] at flies flies'
    split at flies
    · exact absurd flies (by simp)
    · split at flies'
      · exact absurd flies' (by simp)
      · exact ordered.apart flies flies'
  waiting := ordered.waiting
  written := by
    intro other key value waits flies
    rw [flight_clear] at flies
    split at flies
    · exact absurd flies (by simp)
    · exact ordered.written waits flies
  settled := by
    intro key value waits flies there recorded
    cases own : buffer.flight flusher key with
    | none =>
      refine ordered.settled waits (fun other => ?_) there recorded
      by_cases same : other = flusher
      · rw [same, own]
      · have others := flies other
        rwa [flight_clear, if_neg same] at others
    | some written =>
      have last := ordered.written waits own
      rw [← Option.some.inj (last.symm.trans recorded)]
      exact landed key written own there

/-- A flusher may give back what it has taken. -/
theorem giveBack (ordered : buffer.Ordered) : (buffer.giveBack flusher).Ordered where
  apart := by
    intro first second key flies flies'
    rw [flight_giveBack] at flies flies'
    split at flies
    · exact absurd flies (by simp)
    · split at flies'
      · exact absurd flies' (by simp)
      · exact ordered.apart flies flies'
  waiting := by
    intro key value waits
    rcases Option.or_eq_some_iff.mp waits with before | ⟨before, flies⟩
    · exact ordered.waiting before
    · exact ordered.written before flies
  written := by
    intro other key value waits flies
    rw [flight_giveBack] at flies
    split at flies
    · exact absurd flies (by simp)
    · exact ordered.written (Option.or_eq_none_iff.mp waits).1 flies
  settled := by
    intro key value waits flies there recorded
    obtain ⟨unpending, unwritten⟩ := Option.or_eq_none_iff.mp waits
    refine ordered.settled unpending (fun other => ?_) there recorded
    by_cases own : other = flusher
    · rw [own, unwritten]
    · have others := flies other
      rwa [flight_giveBack, if_neg own] at others

end Ordered

end WriteBehind
