/-
This file builds machines: a state, events, and a step that may refuse an event.
A run takes a list of events in order and fails if one of them is refused. Three
rules read properties of runs off properties of steps. The invariant rule
carries a property through a run whose steps all meet a condition, and the exact
rule says when that condition is also needed. The change rule finds the step of
a run at which a property of the state is lost.
-/

import Mathlib.Data.Option.Basic
import Mathlib.Order.Basic

/-- A deterministic machine; a step returns nothing when it refuses the event. -/
structure Machine (State Event : Type) where
  step : State → Event → Option State

namespace Machine

variable {State Event : Type} (machine : Machine State Event)

/-! ### Runs -/

/-- The state after a list of events. -/
def run : State → List Event → Option State
  | state, [] => some state
  | state, event :: rest => (machine.step state event).bind fun next => run next rest

@[simp] theorem run_nil (state : State) : machine.run state [] = some state := rfl

theorem run_cons {state final : State} {event : Event} {rest : List Event} :
    machine.run state (event :: rest) = some final ↔
      ∃ next, machine.step state event = some next ∧ machine.run next rest = some final := by
  rw [run, Option.bind_eq_some_iff]

theorem run_append {state final : State} {first second : List Event} :
    machine.run state (first ++ second) = some final ↔
      ∃ middle, machine.run state first = some middle ∧
        machine.run middle second = some final := by
  induction first generalizing state with
  | nil => simp
  | cons event rest inductionHypothesis =>
    rw [List.cons_append, run_cons]
    simp only [inductionHypothesis, run_cons]
    constructor
    · rintro ⟨next, step, middle, before, after⟩
      exact ⟨middle, ⟨next, step, before⟩, after⟩
    · rintro ⟨middle, ⟨next, step, before⟩, after⟩
      exact ⟨next, step, middle, before, after⟩

/-- A run that is tried out completes in a state that passes the trial. -/
theorem exists_of_any {passes : State → Bool} {start : State} {events : List Event}
    (tried : (machine.run start events).any passes = true) :
    ∃ final, machine.run start events = some final ∧ passes final = true := by
  cases completed : machine.run start events with
  | none => simp [completed] at tried
  | some final => exact ⟨final, rfl, by simpa [completed] using tried⟩

/-! ### Invariants -/

/-- Every step of a run meets a condition on the state before it and its event. -/
def Throughout (condition : State → Event → Prop) : State → List Event → Prop
  | _, [] => True
  | state, event :: rest =>
    condition state event ∧
      ∀ next, machine.step state event = some next → Throughout condition next rest

/-- Whether every step meets a decidable condition is decided along the run. -/
def decideThroughout {condition : State → Event → Prop}
    (decides : ∀ state event, Decidable (condition state event)) :
    (events : List Event) → (state : State) → Decidable (machine.Throughout condition state events)
  | [], _ => isTrue trivial
  | event :: rest, state =>
    match found : machine.step state event with
    | none =>
      have := decides state event
      decidable_of_iff (condition state event)
        ⟨fun meets => ⟨meets, fun _ step => absurd (found.symm.trans step) (by simp)⟩, And.left⟩
    | some next =>
      have := decides state event
      have := decideThroughout decides rest next
      decidable_of_iff (condition state event ∧ machine.Throughout condition next rest)
        ⟨fun meets => ⟨meets.1, fun _ step => Option.some.inj (found.symm.trans step) ▸ meets.2⟩,
          fun meets => ⟨meets.1, meets.2 next found⟩⟩

instance {condition : State → Event → Prop}
    [decides : ∀ state event, Decidable (condition state event)] (state : State)
    (events : List Event) : Decidable (machine.Throughout condition state events) :=
  machine.decideThroughout decides events state

/-- The steps of a run in two parts meet a condition when those of both parts do. -/
theorem throughout_append {condition : State → Event → Prop} {first second : List Event}
    {start middle : State} (throughout : machine.Throughout condition start (first ++ second))
    (run : machine.run start first = some middle) :
    machine.Throughout condition start first ∧ machine.Throughout condition middle second := by
  induction first generalizing start with
  | nil =>
    rw [run_nil] at run
    exact ⟨trivial, Option.some.inj run ▸ throughout⟩
  | cons event rest inductionHypothesis =>
    obtain ⟨next, step, later⟩ := machine.run_cons.mp run
    obtain ⟨before, after⟩ := inductionHypothesis (throughout.2 next step) later
    refine ⟨⟨throughout.1, fun other sameStep => ?_⟩, after⟩
    rwa [← Option.some.inj (step.symm.trans sameStep)]

/-- A property kept by the steps that meet a condition is kept by the runs whose steps all do. -/
theorem run_keeps {condition : State → Event → Prop} {holds : State → Prop}
    (keeps : ∀ {state event next}, holds state → condition state event →
      machine.step state event = some next → holds next)
    {events : List Event} {start final : State} (initial : holds start)
    (throughout : machine.Throughout condition start events)
    (run : machine.run start events = some final) : holds final := by
  induction events generalizing start with
  | nil =>
    rw [run_nil] at run
    rwa [← Option.some.inj run]
  | cons event rest inductionHypothesis =>
    obtain ⟨next, step, later⟩ := machine.run_cons.mp run
    exact inductionHypothesis (keeps initial throughout.1 step) (throughout.2 next step) later

theorem throughout_true (start : State) (events : List Event) :
    machine.Throughout (fun _ _ => True) start events := by
  induction events generalizing start with
  | nil => trivial
  | cons event rest inductionHypothesis =>
    exact ⟨trivial, fun next _ => inductionHypothesis next⟩

/-- The steps of a run meet a condition on the event alone when all its events do. -/
theorem throughout_of_forall {condition : Event → Prop} {events : List Event}
    (meets : ∀ event ∈ events, condition event) (start : State) :
    machine.Throughout (fun _ event => condition event) start events := by
  induction events generalizing start with
  | nil => trivial
  | cons event rest inductionHypothesis =>
    rw [List.forall_mem_cons] at meets
    exact ⟨meets.1, fun next _ => inductionHypothesis meets.2 next⟩

/-- Steps that all meet each of two conditions meet both. -/
theorem throughout_and {condition other : State → Event → Prop} {start : State}
    {events : List Event} (first : machine.Throughout condition start events)
    (second : machine.Throughout other start events) :
    machine.Throughout (fun state event => condition state event ∧ other state event) start
      events := by
  induction events generalizing start with
  | nil => trivial
  | cons event rest inductionHypothesis =>
    exact ⟨⟨first.1, second.1⟩, fun next step =>
      inductionHypothesis (first.2 next step) (second.2 next step)⟩

/-- Steps that all meet one condition all meet another one, if it follows where an invariant of such
steps holds. -/
theorem throughout_mono {invariant : State → Prop} {condition other : State → Event → Prop}
    (keeps : ∀ {state event next}, invariant state → condition state event →
      machine.step state event = some next → invariant next)
    (gives : ∀ {state event}, invariant state → condition state event → other state event)
    {events : List Event} {start : State} (initial : invariant start)
    (throughout : machine.Throughout condition start events) :
    machine.Throughout other start events := by
  induction events generalizing start with
  | nil => trivial
  | cons event rest inductionHypothesis =>
    refine ⟨gives initial throughout.1, fun next step => ?_⟩
    exact inductionHypothesis (keeps initial throughout.1 step) (throughout.2 next step)

/-- The invariant rule: a property kept by every step is kept by every run. -/
theorem run_invariant {holds : State → Prop}
    (keeps : ∀ {state event next}, holds state → machine.step state event = some next → holds next)
    {events : List Event} {start final : State} (initial : holds start)
    (run : machine.run start events = some final) : holds final :=
  machine.run_keeps (fun before _ step => keeps before step)
    initial (machine.throughout_true start events) run

/-- The exact rule: a property that a step leaves in place exactly when it meets a condition holds
at the end of a run exactly when it held at the start and every step met the condition. -/
theorem run_iff {condition : State → Event → Prop} {invariant holds : State → Prop}
    (keeps : ∀ {state event next}, invariant state → machine.step state event = some next →
      invariant next)
    (exactly : ∀ {state event next}, invariant state → machine.step state event = some next →
      (holds next ↔ holds state ∧ condition state event))
    {events : List Event} {start final : State} (initial : invariant start)
    (run : machine.run start events = some final) :
    holds final ↔ holds start ∧ machine.Throughout condition start events := by
  induction events generalizing start with
  | nil =>
    rw [run_nil] at run
    rw [← Option.some.inj run]
    exact ⟨fun held => ⟨held, trivial⟩, And.left⟩
  | cons event rest inductionHypothesis =>
    obtain ⟨next, step, later⟩ := machine.run_cons.mp run
    rw [inductionHypothesis (keeps initial step) later, exactly initial step, and_assoc]
    refine and_congr_right fun _ => and_congr_right fun _ => ⟨fun after other same => ?_, ?_⟩
    · rwa [← Option.some.inj (step.symm.trans same)]
    · intro throughout
      exact throughout next step

/-! ### The step at which a property is lost -/

/-- A step inside a run: the events before it, its event, and the states on its two sides. -/
structure StepOf (start : State) (events : List Event) (before : List Event) (state : State)
    (event : Event) (next : State) (after : List Event) (final : State) : Prop where
  split : events = before ++ event :: after
  reached : machine.run start before = some state
  step : machine.step state event = some next
  rest : machine.run next after = some final

/-- The change rule: a property that holds at the start of a run and not at its end is lost at
one of its steps. -/
theorem exists_loss (holds : State → Prop) {events : List Event} {start final : State}
    (run : machine.run start events = some final) (initial : holds start)
    (lost : ¬ holds final) :
    ∃ before state event next after,
      machine.StepOf start events before state event next after final ∧
        holds state ∧ ¬ holds next := by
  induction events generalizing start with
  | nil =>
    rw [run_nil] at run
    exact absurd (Option.some.inj run ▸ initial) lost
  | cons event rest inductionHypothesis =>
    obtain ⟨next, step, later⟩ := machine.run_cons.mp run
    by_cases kept : holds next
    · obtain ⟨before, state, event', next', after, stepOf, held, changed⟩ :=
        inductionHypothesis later kept
      refine ⟨event :: before, state, event', next', after, ⟨?_, ?_, stepOf.step, stepOf.rest⟩,
        held, changed⟩
      · rw [stepOf.split, List.cons_append]
      · exact machine.run_cons.mpr ⟨next, step, stepOf.reached⟩
    · exact ⟨[], start, event, next, rest, ⟨rfl, rfl, step, later⟩, initial, kept⟩

end Machine
