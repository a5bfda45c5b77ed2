/-
This file states the discipline of heartbeat leases. A lease names its holder
and carries the stamp of the holder's last heartbeat. Whoever acts on a lease
may stamp it with their own name and the present reading, may take it from its
holder when the stamp is older than a cutoff, and may end it for a reason the
system permits; they leave every other lease as it is.

When every step of a machine acts on a lease in this way, a run takes the lease
from its holder only for a permitted reason or after the holder's silence: at the
step that takes it, the holder's every renewal is older than the cutoff.
-/

import Gyanam.Lib.Machine
import Mathlib.Algebra.Order.Ring.Int
import Mathlib.Tactic.Common

/-- Who holds a resource, and the stamp of their last heartbeat. -/
structure Lease (Holder : Type) where
  holder : Holder
  stamp : Int
  deriving DecidableEq, Repr

namespace Lease

variable {Holder : Type}

/-! ### One action on one lease -/

/-- The actor `me` acts on a lease at the reading `now`: the result is the old lease or one
stamped by the actor, and the holder changes only when the stamp is older than the cutoff, if
there is one, or the end of the lease is permitted. -/
structure Guarded (me : Holder) (now : Int) (cutoff : Option Int) (permitted : Lease Holder → Prop)
    (before after : Option (Lease Holder)) : Prop where
  stamped : ∀ lease, after = some lease → before = some lease ∨ lease = ⟨me, now⟩
  kept : ∀ lease, before = some lease →
    (∃ renewed, after = some renewed ∧ renewed.holder = lease.holder) ∨
      (∃ limit, cutoff = some limit ∧ lease.stamp < limit) ∨ permitted lease

/-! ### Runs of guarded actions -/

/-- A machine that acts on one lease under the discipline: the reading of its clock, the
cutoff of a step, and the leases whose end a step permits. -/
structure Discipline {State Event : Type} (machine : Machine State Event)
    (view : State → Option (Lease Holder)) where
  clock : State → Int
  cutoff : State → Event → Option Int
  permitted : State → Event → Lease Holder → Prop
  forward : ∀ {state event next}, machine.step state event = some next → clock state ≤ clock next
  guarded : ∀ {state event next}, machine.step state event = some next →
    view next = view state ∨ ∃ me, Guarded me (clock state) (cutoff state event)
      (permitted state event) (view state) (view next)

namespace Discipline

variable {State Event : Type} {machine : Machine State Event}
  {view : State → Option (Lease Holder)} (discipline : Discipline machine view)

/-- The clock has reached a reading, and the lease is not one of the holder's older than it. -/
def Since (holder : Holder) (reading : Int) (state : State) : Prop :=
  reading ≤ discipline.clock state ∧
    ∀ lease, view state = some lease → lease.holder = holder → reading ≤ lease.stamp

theorem since_step {state next : State} {event : Event} {holder : Holder} {reading : Int}
    (since : discipline.Since holder reading state) (step : machine.step state event = some next) :
    discipline.Since holder reading next := by
  refine ⟨since.1.trans (discipline.forward step), fun lease present mine => ?_⟩
  obtain same | ⟨me, guarded⟩ := discipline.guarded step
  · exact since.2 lease (same ▸ present) mine
  · obtain old | rfl := guarded.stamped lease present
    · exact since.2 lease old mine
    · exact since.1

/-- From a renewal on, the stamps of its holder are no older than it. -/
theorem since_run {events : List Event} {start final : State} {holder : Holder} {reading : Int}
    (since : discipline.Since holder reading start) (run : machine.run start events = some final) :
    discipline.Since holder reading final :=
  machine.run_invariant (fun before step => discipline.since_step before step) since run

/-- A run takes a lease from its holder at a step that permits it, or at a step before whose
cutoff lie the stamp of the lease and every earlier renewal by its holder. -/
theorem lost_only_if {events : List Event} {start final : State} {holder : Holder}
    (run : machine.run start events = some final)
    (held : (view start).map Lease.holder = some holder)
    (lost : (view final).map Lease.holder ≠ some holder) :
    ∃ before state event next after lease,
      machine.StepOf start events before state event next after final ∧
        view state = some lease ∧ lease.holder = holder ∧
        (discipline.permitted state event lease ∨
          ∃ limit, discipline.cutoff state event = some limit ∧ lease.stamp < limit ∧
            ∀ earlier renewing renewal renewed later,
              machine.StepOf start before earlier renewing renewal renewed later state →
              view renewed = some ⟨holder, discipline.clock renewing⟩ →
                discipline.clock renewing < limit) := by
  obtain ⟨before, state, event, next, after, stepOf, holds, changed⟩ :=
    machine.exists_loss (fun state => (view state).map Lease.holder = some holder) run held lost
  obtain ⟨lease, present, mine⟩ := Option.map_eq_some_iff.mp holds
  refine ⟨before, state, event, next, after, lease, stepOf, present, mine, ?_⟩
  obtain same | ⟨me, guarded⟩ := discipline.guarded stepOf.step
  · exact absurd (by rw [same]; exact holds) changed
  · obtain ⟨renewed, stays, sameHolder⟩ | ⟨limit, isCutoff, stale⟩ | permitted :=
      guarded.kept lease present
    · exact absurd (by rw [stays, Option.map_some, sameHolder, mine]) changed
    · refine Or.inr ⟨limit, isCutoff, stale,
        fun earlier renewing renewal renewed later inside stamped => ?_⟩
      have since : discipline.Since holder (discipline.clock renewing) renewed := by
        refine ⟨discipline.forward inside.step, fun other found _ => ?_⟩
        rw [← Option.some.inj (stamped.symm.trans found)]
      exact lt_of_le_of_lt ((discipline.since_run since inside.rest).2 lease present mine) stale
    · exact Or.inl permitted

/-- The same for a table whose rows are leases in other words. -/
theorem row_lost_only_if {Row : Type} (rows : State → Option Row) (toLease : Row → Lease Holder)
    (discipline : Discipline machine fun state => (rows state).map toLease) {events : List Event}
    {start final : State} {holder : Holder} (run : machine.run start events = some final)
    (held : (rows start).map (fun row => (toLease row).holder) = some holder)
    (lost : (rows final).map (fun row => (toLease row).holder) ≠ some holder) :
    ∃ before state event next after row,
      machine.StepOf start events before state event next after final ∧
        rows state = some row ∧ (toLease row).holder = holder ∧
        (discipline.permitted state event (toLease row) ∨
          ∃ limit, discipline.cutoff state event = some limit ∧ (toLease row).stamp < limit ∧
            ∀ earlier renewing renewal renewed later stamped,
              machine.StepOf start before earlier renewing renewal renewed later state →
              rows renewed = some stamped → toLease stamped = ⟨holder, discipline.clock renewing⟩ →
                discipline.clock renewing < limit) := by
  have view : ∀ state, ((rows state).map toLease).map Lease.holder =
      (rows state).map fun row => (toLease row).holder := fun state => Option.map_map _ _ _
  rw [← view] at held lost
  obtain ⟨before, state, event, next, after, lease, stepOf, present, mine, cause⟩ :=
    discipline.lost_only_if run held lost
  obtain ⟨row, found, rfl⟩ := Option.map_eq_some_iff.mp present
  refine ⟨before, state, event, next, after, row, stepOf, found, mine, cause.imp_right ?_⟩
  rintro ⟨limit, isCutoff, stale, silent⟩
  refine ⟨limit, isCutoff, stale, fun earlier renewing renewal renewed later row inside => ?_⟩
  exact fun filed stamped => silent earlier renewing renewal renewed later inside
    (by rw [filed, Option.map_some, stamped])

end Discipline

end Lease
