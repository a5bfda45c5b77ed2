/-
This file runs loops over a tape. A turn of the loop reads the next input, and
either goes on in a new state or stops with a result. What the loop reads is a
part of the tape at its front, and what lies behind the input it stopped at does
not matter. All inputs before that one let it go on, each in the state that those
before it left.
-/

import Mathlib.Data.List.Basic

namespace Tape

variable {State Input Result : Type}

/-- What a turn of a loop comes to. -/
inductive Turn (State Result : Type) where
  | continues (state : State)
  | stops (result : Result)

/-- What a loop has read of its tape, and its result. It has none as long as it goes on. -/
structure Reading (Input Result : Type) where
  read : List Input
  result : Option Result

variable (turn : State → Input → Turn State Result)

/-- The loop, from a state. -/
def run : State → List Input → Reading Input Result
  | _, [] => ⟨[], none⟩
  | state, input :: rest =>
    match turn state input with
    | .stops result => ⟨[input], some result⟩
    | .continues next =>
      let later := run next rest
      ⟨input :: later.read, later.result⟩

/-- The state after inputs that all let the loop go on. -/
def advance : State → List Input → Option State
  | state, [] => some state
  | state, input :: rest =>
    match turn state input with
    | .stops _ => none
    | .continues next => advance next rest

variable {turn}

theorem run_of_stops {state : State} {input : Input} {result : Result}
    (stops : turn state input = .stops result) (rest : List Input) :
    run turn state (input :: rest) = ⟨[input], some result⟩ := by
  rw [run, stops]

theorem run_of_continues {state next : State} {input : Input}
    (continues : turn state input = .continues next) (rest : List Input) :
    run turn state (input :: rest) =
      ⟨input :: (run turn next rest).read, (run turn next rest).result⟩ := by
  rw [run, continues]

theorem advance_of_continues {state next : State} {input : Input}
    (continues : turn state input = .continues next) (rest : List Input) :
    advance turn state (input :: rest) = advance turn next rest := by
  rw [advance, continues]

theorem advance_concat {state last : State} {inputs : List Input} {input : Input} :
    advance turn state (inputs ++ [input]) = some last ↔
      ∃ before, advance turn state inputs = some before ∧ turn before input = .continues last := by
  induction inputs generalizing state with
  | nil =>
    rw [List.nil_append, advance]
    cases turned : turn state input with
    | stops result => simp [advance, turned]
    | continues next => simp [advance, turned]
  | cons head rest inductionHypothesis =>
    rw [List.cons_append, advance, advance]
    cases turned : turn state head with
    | stops result => simp
    | continues next => exact inductionHypothesis

/-- A loop with a result stopped at the last input it read, and went on at all before. -/
theorem exists_stop {state : State} {tape : List Input} {result : Result}
    (stopped : (run turn state tape).result = some result) :
    ∃ before input last, (run turn state tape).read = before ++ [input] ∧
      advance turn state before = some last ∧ turn last input = .stops result := by
  induction tape generalizing state with
  | nil => cases stopped
  | cons input rest inductionHypothesis =>
    cases turned : turn state input with
    | stops result' =>
      rw [run_of_stops turned] at stopped ⊢
      obtain rfl := Option.some.inj stopped
      exact ⟨[], input, state, rfl, rfl, turned⟩
    | continues next =>
      rw [run_of_continues turned] at stopped ⊢
      obtain ⟨before, input', last, read, advanced, stops⟩ := inductionHypothesis stopped
      exact ⟨input :: before, input', last, congrArg (input :: ·) read,
        (advance_of_continues turned before).trans advanced, stops⟩

/-- What is read is at the front of the tape. -/
theorem read_prefix (state : State) (tape : List Input) : (run turn state tape).read <+: tape := by
  induction tape generalizing state with
  | nil => exact List.prefix_rfl
  | cons input rest inductionHypothesis =>
    cases turned : turn state input with
    | stops result =>
      rw [run_of_stops turned]
      exact ⟨rest, rfl⟩
    | continues next =>
      rw [run_of_continues turned]
      exact List.cons_prefix_cons.mpr ⟨rfl, inductionHypothesis next⟩

/-- A loop has a result when the tape holds an input that stops it in every state. -/
theorem result_isSome_of_mem {state : State} {tape : List Input} {input : Input}
    (member : input ∈ tape) (stops : ∀ state, ∃ result, turn state input = .stops result) :
    (run turn state tape).result.isSome := by
  induction tape generalizing state with
  | nil => cases member
  | cons head rest inductionHypothesis =>
    cases turned : turn state head with
    | stops result =>
      rw [run_of_stops turned]
      rfl
    | continues next =>
      rw [run_of_continues turned]
      rcases List.mem_cons.mp member with rfl | later
      · obtain ⟨result, stopped⟩ := stops state
        rw [turned] at stopped
        cases stopped
      · exact inductionHypothesis later

/-- All but the last input that is read let the loop go on. -/
theorem exists_advance_of_read {state : State} {tape front later : List Input} {input : Input}
    (read : (run turn state tape).read = front ++ input :: later) :
    ∃ last, advance turn state front = some last ∧
      (later ≠ [] → ∃ next, turn last input = .continues next) := by
  induction front generalizing state tape with
  | nil =>
    refine ⟨state, rfl, fun more => ?_⟩
    cases tape with
    | nil => cases read
    | cons head rest =>
      cases turned : turn state head with
      | stops result =>
        rw [run_of_stops turned] at read
        obtain ⟨rfl, rfl⟩ := List.cons.inj read
        exact absurd rfl more
      | continues next =>
        rw [run_of_continues turned] at read
        obtain ⟨rfl, _⟩ := List.cons.inj read
        exact ⟨next, turned⟩
  | cons first front inductionHypothesis =>
    cases tape with
    | nil => cases read
    | cons head rest =>
      cases turned : turn state head with
      | stops result =>
        rw [run_of_stops turned, List.cons_append] at read
        exact absurd (List.cons.inj read).2.symm (List.append_ne_nil_of_right_ne_nil _ (by simp))
      | continues next =>
        rw [run_of_continues turned, List.cons_append] at read
        obtain ⟨rfl, behind⟩ := List.cons.inj read
        obtain ⟨last, advanced, goes⟩ := inductionHypothesis behind
        exact ⟨last, (advance_of_continues turned front).trans advanced, goes⟩

end Tape
