/-
This file builds computations that may raise an exception and whose effects stay
when they do, as in a language with try blocks. An attempt takes a state and
returns a value or an exception, and the state in either case. `start` runs an
attempt; its equations follow the computation. `Keeps` is the frame rule: a view
of the state that no part of a computation touches is the same after it, whether
the computation returned or raised. `Ensures` is a triple with a postcondition
for each way out, and its rule for a fold carries an invariant of the items done.
-/

import Mathlib.Tactic.Common

/-- A computation that may raise, over a state that survives the exception. -/
abbrev Attempt (State Error Value : Type) := ExceptT Error (StateM State) Value

namespace Attempt

variable {State Error Value Result View : Type}

/-- The outcome of an attempt and the state after it. -/
def start (action : Attempt State Error Value) (state : State) : Except Error Value × State :=
  action.run.run state

/-- The value of a pure computation, or its exception. -/
def ofExcept (outcome : Except Error Value) : Attempt State Error Value := ExceptT.mk (pure outcome)

/-! ### How attempts run -/

@[simp] theorem start_pure (value : Value) (state : State) :
    (pure value : Attempt State Error Value).start state = (.ok value, state) := rfl

@[simp] theorem start_throw (error : Error) (state : State) :
    (throw error : Attempt State Error Value).start state = (.error error, state) := rfl

@[simp] theorem start_get (state : State) :
    (get : Attempt State Error State).start state = (.ok state, state) := rfl

@[simp] theorem start_modify (change : State → State) (state : State) :
    (modify change : Attempt State Error Unit).start state = (.ok (), change state) := rfl

@[simp] theorem start_ofExcept (outcome : Except Error Value) (state : State) :
    (ofExcept outcome : Attempt State Error Value).start state = (outcome, state) := rfl

theorem start_bind (action : Attempt State Error Value)
    (next : Value → Attempt State Error Result) (state : State) :
    (action >>= next).start state =
      match action.start state with
      | (.ok value, after) => (next value).start after
      | (.error error, after) => (.error error, after) := by
  have ran : action.run.run state = action.start state := rfl
  show (action >>= next).run.run state = _
  rw [ExceptT.run_bind, StateT.run_bind, ran]
  cases action.start state with
  | mk outcome after => cases outcome <;> rfl

theorem start_tryCatch (action : Attempt State Error Value)
    (handler : Error → Attempt State Error Value) (state : State) :
    (tryCatch action handler).start state =
      match action.start state with
      | (.ok value, after) => (.ok value, after)
      | (.error error, after) => (handler error).start after := by
  have ran : action.run.run state = action.start state := rfl
  show (tryCatch action handler).run.run state = _
  rw [ExceptT.run_tryCatch, StateT.run_bind, ran]
  cases action.start state with
  | mk outcome after => cases outcome <;> rfl

/-! ### What an attempt leaves alone -/

/-- The attempt leaves a view of the state as it was. -/
def Keeps (view : State → View) (action : Attempt State Error Value) : Prop :=
  ∀ state, view (action.start state).2 = view state

theorem keeps_pure (view : State → View) (value : Value) :
    Keeps view (pure value : Attempt State Error Value) := fun _ => rfl

theorem keeps_ofExcept (view : State → View) (outcome : Except Error Value) :
    Keeps view (ofExcept outcome : Attempt State Error Value) := fun _ => rfl

theorem keeps_modify {view : State → View} {change : State → State}
    (same : ∀ state, view (change state) = view state) :
    Keeps view (modify change : Attempt State Error Unit) := same

theorem keeps_bind {view : State → View} {action : Attempt State Error Value}
    {next : Value → Attempt State Error Result} (first : Keeps view action)
    (second : ∀ value, Keeps view (next value)) : Keeps view (action >>= next) := by
  intro state
  have kept := first state
  rw [start_bind]
  cases ran : action.start state with
  | mk outcome after =>
    rw [ran] at kept
    cases outcome with
    | ok value => exact (second value after).trans kept
    | error error => exact kept

/-! ### What an attempt ensures -/

/-- From a state with a precondition, what is returned has one postcondition, with the state after
it, and what is raised has the other. -/
def Ensures (before : State → Prop) (action : Attempt State Error Value)
    (returned : Value → State → Prop) (raised : Error → State → Prop) : Prop :=
  ∀ state, before state →
    match action.start state with
    | (.ok value, after) => returned value after
    | (.error error, after) => raised error after

theorem ensures_pure {before : State → Prop} {value : Value} {returned : Value → State → Prop}
    {raised : Error → State → Prop} (holds : ∀ state, before state → returned value state) :
    Ensures before (pure value : Attempt State Error Value) returned raised := holds

theorem ensures_bind {before : State → Prop} {action : Attempt State Error Value}
    {next : Value → Attempt State Error Result} {between : Value → State → Prop}
    {returned : Result → State → Prop} {raised : Error → State → Prop}
    (first : Ensures before action between raised)
    (second : ∀ value, Ensures (between value) (next value) returned raised) :
    Ensures before (action >>= next) returned raised := by
  intro state holds
  have reached := first state holds
  rw [start_bind]
  cases ran : action.start state with
  | mk outcome after =>
    rw [ran] at reached
    cases outcome with
    | ok value => exact second value after reached
    | error error => exact reached

theorem ensures_tryCatch {before : State → Prop} {action : Attempt State Error Value}
    {handler : Error → Attempt State Error Value} {returned : Value → State → Prop}
    {between raised : Error → State → Prop} (first : Ensures before action returned between)
    (second : ∀ error, Ensures (between error) (handler error) returned raised) :
    Ensures before (tryCatch action handler) returned raised := by
  intro state holds
  have reached := first state holds
  rw [start_tryCatch]
  cases ran : action.start state with
  | mk outcome after =>
    rw [ran] at reached
    cases outcome with
    | ok value => exact reached
    | error error => exact second error after reached

theorem Ensures.imp {before : State → Prop} {action : Attempt State Error Value}
    {returned returned' : Value → State → Prop} {raised raised' : Error → State → Prop}
    (ensures : Ensures before action returned raised)
    (returns : ∀ value state, returned value state → returned' value state)
    (raises : ∀ error state, raised error state → raised' error state) :
    Ensures before action returned' raised' := by
  intro state holds
  have reached := ensures state holds
  cases ran : action.start state with
  | mk outcome after =>
    rw [ran] at reached
    cases outcome with
    | ok value => exact returns value after reached
    | error error => exact raises error after reached

/-- An invariant of the items done and the value so far holds at the end of a fold. -/
theorem ensures_foldlM {Item : Type} {step : Value → Item → Attempt State Error Value}
    {holds : List Item → Value → State → Prop} {raised : Error → State → Prop}
    (each : ∀ before item value,
      Ensures (holds before value) (step value item) (holds (before ++ [item])) raised)
    (before items : List Item) (value : Value) :
    Ensures (holds before value) (items.foldlM step value) (holds (before ++ items)) raised := by
  induction items generalizing before value with
  | nil =>
    rw [List.append_nil]
    exact ensures_pure fun _ reached => reached
  | cons item rest inductionHypothesis =>
    rw [List.foldlM_cons]
    refine ensures_bind (each before item value) fun next => ?_
    rw [List.append_cons before item rest]
    exact inductionHypothesis (before ++ [item]) next

end Attempt
