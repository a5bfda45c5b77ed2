/-
This file builds dialogues: clients that put one request at a time to a server
and go on with what it answers. The server has a state, and where it may answer
in more than one way it is given a choice. A dialogue runs alone, or several
clients take turns with one server, each beginning a new dialogue when its last
one is done.

`Ensures` is the rule of dialogues that share a server. Between two requests the
others may change the state, within a relation; the dialogue itself makes changes
of its own kind only, and ends with a postcondition that the others cannot undo.
The team rule puts the clients together: where each tolerates what the others
do, an invariant of all their changes holds whatever the turns are. A server that
records what is said is a special case, so what a dialogue asks of an arbitrary
server is read off the same rule.
-/

import Mathlib.Logic.Function.Basic
import Mathlib.Logic.Relation
import Gyanam.Lib.Machine

open Relation (ReflTransGen)

/-- A client that puts requests to a server, one at a time, and ends with a value. -/
inductive Dialogue (Request Response Value : Type) where
  | done (value : Value)
  | ask (request : Request) (next : Response → Dialogue Request Response Value)

namespace Dialogue

variable {Request Response Value Result State Choice : Type}

/-- Go on with the value of a dialogue. -/
def bind : Dialogue Request Response Value → (Value → Dialogue Request Response Result) →
    Dialogue Request Response Result
  | done value, next => next value
  | ask request answered, next => ask request fun response => (answered response).bind next

/-- Change the value of a dialogue. -/
def map (change : Value → Result) (dialogue : Dialogue Request Response Value) :
    Dialogue Request Response Result :=
  dialogue.bind fun value => done (change value)

section Server

variable (serve : Choice → State → Request → State × Response)

/-! ### A dialogue alone with a server -/

/-- The state of the server after a dialogue alone with it, and the value of the dialogue. -/
def converse : Dialogue Request Response Value → State → (Nat → Choice) → State × Value
  | done value, state, _ => (state, value)
  | ask request next, state, choices =>
    converse (next (serve (choices 0) state request).2) (serve (choices 0) state request).1
      fun turn => choices (turn + 1)

/-! ### What a dialogue ensures -/

/-- Whatever the others do between its requests, a dialogue makes changes of its own kind only, and
what holds when it is done holds until its client begins the next one. -/
def Ensures (others own : State → State → Prop) (holds : Value → State → Prop) :
    Dialogue Request Response Value → State → Prop
  | done value, state => ∀ later, ReflTransGen others state later → holds value later
  | ask request next, state => ∀ later, ReflTransGen others state later → ∀ choice,
      own later (serve choice later request).1 ∧
        Ensures others own holds (next (serve choice later request).2)
          (serve choice later request).1

variable {serve} {others own : State → State → Prop}

theorem ensures_ask {holds : Value → State → Prop} {request : Request}
    {next : Response → Dialogue Request Response Value} {state : State}
    (answered : ∀ later, ReflTransGen others state later → ∀ choice,
      own later (serve choice later request).1 ∧
        Ensures serve others own holds (next (serve choice later request).2)
          (serve choice later request).1) :
    Ensures serve others own holds (ask request next) state := answered

/-- The others may change the state before a dialogue goes on. -/
theorem Ensures.later {holds : Value → State → Prop}
    {dialogue : Dialogue Request Response Value} {state after : State}
    (ensures : Ensures serve others own holds dialogue state)
    (changed : ReflTransGen others state after) :
    Ensures serve others own holds dialogue after := by
  cases dialogue with
  | done value => exact fun later more => ensures later (changed.trans more)
  | ask request next => exact fun later more => ensures later (changed.trans more)

theorem Ensures.imp {holds holds' : Value → State → Prop}
    {dialogue : Dialogue Request Response Value} {state : State}
    (ensures : Ensures serve others own holds dialogue state)
    (implies : ∀ value state, holds value state → holds' value state) :
    Ensures serve others own holds' dialogue state := by
  induction dialogue generalizing state with
  | done value => exact fun later changed => implies value later (ensures later changed)
  | ask request next inductionHypothesis =>
    intro later changed choice
    obtain ⟨kind, rest⟩ := ensures later changed choice
    exact ⟨kind, inductionHypothesis _ rest⟩

theorem ensures_bind {holds : Result → State → Prop}
    {dialogue : Dialogue Request Response Value}
    {next : Value → Dialogue Request Response Result} {state : State}
    (ensures : Ensures serve others own
      (fun value state => Ensures serve others own holds (next value) state) dialogue state) :
    Ensures serve others own holds (dialogue.bind next) state := by
  induction dialogue generalizing state with
  | done value => exact ensures state .refl
  | ask request answered inductionHypothesis =>
    intro later changed choice
    obtain ⟨kind, rest⟩ := ensures later changed choice
    exact ⟨kind, inductionHypothesis _ rest⟩

theorem ensures_map {holds : Result → State → Prop} {change : Value → Result}
    {dialogue : Dialogue Request Response Value} {state : State}
    (ensures : Ensures serve others own (fun value => holds (change value)) dialogue state) :
    Ensures serve others own holds (dialogue.map change) state := by
  induction dialogue generalizing state with
  | done value => exact ensures
  | ask request answered inductionHypothesis =>
    intro later changed choice
    obtain ⟨kind, rest⟩ := ensures later changed choice
    exact ⟨kind, inductionHypothesis _ rest⟩

/-- A dialogue that is alone with its server ends with its postcondition, and keeps what its
changes keep. -/
theorem Ensures.converse {invariant : State → Prop} {holds : Value → State → Prop}
    {dialogue : Dialogue Request Response Value} {state : State}
    (ensures : Ensures serve others own holds dialogue state)
    (keeps : ∀ {before after}, invariant before → own before after → invariant after)
    (initial : invariant state) (choices : Nat → Choice) :
    let ended := dialogue.converse serve state choices
    invariant ended.1 ∧ holds ended.2 ended.1 := by
  induction dialogue generalizing state choices with
  | done value => exact ⟨initial, ensures state .refl⟩
  | ask request next inductionHypothesis =>
    obtain ⟨kind, rest⟩ := ensures state .refl (choices 0)
    exact inductionHypothesis _ rest (keeps initial kind) _

/-! ### A dialogue that nobody disturbs -/

theorem eq_of_undisturbed {state later : State}
    (changed : ReflTransGen (fun _ _ => False) state later) : later = state := by
  rcases changed.cases_head with same | ⟨_, step, _⟩
  · exact same.symm
  · exact step.elim

variable (serve) in
/-- A dialogue that nobody disturbs ends with a postcondition, whatever the server chooses. -/
def Achieves (holds : Value → State → Prop) (dialogue : Dialogue Request Response Value)
    (state : State) : Prop :=
  Ensures serve (fun _ _ => False) (fun _ _ => True) holds dialogue state

theorem achieves_done {holds : Value → State → Prop} {value : Value} {state : State}
    (holding : holds value state) : Achieves serve holds (done value) state := by
  intro later changed
  rw [eq_of_undisturbed changed]
  exact holding

theorem achieves_ask {holds : Value → State → Prop} {request : Request}
    {next : Response → Dialogue Request Response Value} {state : State}
    (answered : ∀ choice, Achieves serve holds (next (serve choice state request).2)
      (serve choice state request).1) : Achieves serve holds (ask request next) state := by
  intro later changed choice
  rw [eq_of_undisturbed changed]
  exact ⟨trivial, answered choice⟩

theorem Achieves.imp {holds holds' : Value → State → Prop}
    {dialogue : Dialogue Request Response Value} {state : State}
    (achieves : Achieves serve holds dialogue state)
    (implies : ∀ value state, holds value state → holds' value state) :
    Achieves serve holds' dialogue state := Ensures.imp achieves implies

theorem achieves_bind {holds : Result → State → Prop}
    {dialogue : Dialogue Request Response Value}
    {next : Value → Dialogue Request Response Result} {state : State}
    (achieves : Achieves serve (fun value state => Achieves serve holds (next value) state)
      dialogue state) : Achieves serve holds (dialogue.bind next) state := ensures_bind achieves

theorem achieves_map {holds : Result → State → Prop} {change : Value → Result}
    {dialogue : Dialogue Request Response Value} {state : State}
    (achieves : Achieves serve (fun value => holds (change value)) dialogue state) :
    Achieves serve holds (dialogue.map change) state := ensures_map achieves

theorem Achieves.converse {holds : Value → State → Prop}
    {dialogue : Dialogue Request Response Value} {state : State}
    (achieves : Achieves serve holds dialogue state) (choices : Nat → Choice) :
    holds (dialogue.converse serve state choices).2 (dialogue.converse serve state choices).1 :=
  And.right <| Ensures.converse achieves (fun _ _ => trivial) trivial choices

end Server

/-! ### Several clients of one server -/

/-- A server and its clients. A client whose dialogue is done rests, and remembers its value. -/
structure Team (Client State Request Response Value : Type) where
  state : State
  talks : Client → Dialogue Request Response Value

/-- What happens in a team: a client that rests begins a task, or the request of a client that does
not rest is answered. -/
inductive TeamEvent (Client Task Choice : Type) where
  | begin (client : Client) (task : Task)
  | turn (client : Client) (choice : Choice)

section Team

variable {Client Task : Type} [DecidableEq Client]
  (serve : Choice → State → Request → State × Response)
  (program : Client → Value → Task → Dialogue Request Response Value)

/-- A team at work. -/
def teamwork :
    Machine (Team Client State Request Response Value) (TeamEvent Client Task Choice) where
  step team
    | .begin client task =>
      match team.talks client with
      | done value =>
        some { team with talks := Function.update team.talks client (program client value task) }
      | ask _ _ => none
    | .turn client choice =>
      match team.talks client with
      | done _ => none
      | ask request next =>
        some {
          state := (serve choice team.state request).1
          talks := Function.update team.talks client
            (next (serve choice team.state request).2) }

/-- An invariant of the server holds, and every client will ensure what it has to. -/
structure Agrees (invariant : State → Prop) (others own : Client → State → State → Prop)
    (remembers : Client → Value → State → Prop)
    (team : Team Client State Request Response Value) : Prop where
  holds : invariant team.state
  ensures : ∀ client, Ensures serve (others client) (own client) (remembers client)
    (team.talks client) team.state

/-- What a team rests on: the changes of one client are tolerated by the others, they keep the
invariant, and a task ensures them from wherever it may begin. -/
structure Protocol (invariant : State → Prop) (others own : Client → State → State → Prop)
    (remembers : Client → Value → State → Prop) : Prop where
  tolerates : ∀ {client other before after}, client ≠ other → invariant before →
    own other before after → others client before after
  keeps : ∀ {client before after}, invariant before → own client before after → invariant after
  begins : ∀ {client value state} task, invariant state → remembers client value state →
    Ensures serve (others client) (own client) (remembers client) (program client value task) state

variable {serve program} {invariant : State → Prop} {others own : Client → State → State → Prop}
  {remembers : Client → Value → State → Prop}

/-- One event of a team that follows a protocol. -/
theorem Protocol.step (protocol : Protocol serve program invariant others own remembers)
    {team next : Team Client State Request Response Value}
    {event : TeamEvent Client Task Choice}
    (agrees : Agrees serve invariant others own remembers team)
    (step : (teamwork serve program).step team event = some next) :
    Agrees serve invariant others own remembers next := by
  cases event with
  | begin client task =>
    simp only [teamwork] at step
    have ensures := agrees.ensures client
    cases talk : team.talks client with
    | ask request answered => simp [talk] at step
    | done value =>
      rw [talk] at step ensures
      obtain rfl := Option.some.inj step
      refine ⟨agrees.holds, fun other => ?_⟩
      show Ensures _ _ _ _ (Function.update team.talks client _ other) team.state
      by_cases same : other = client
      · rw [same, Function.update_self]
        exact protocol.begins task agrees.holds (ensures team.state .refl)
      · rw [Function.update_of_ne same]
        exact agrees.ensures other
  | turn client choice =>
    simp only [teamwork] at step
    have ensures := agrees.ensures client
    cases talk : team.talks client with
    | done value => simp [talk] at step
    | ask request answered =>
      rw [talk] at step ensures
      obtain rfl := Option.some.inj step
      obtain ⟨kind, rest⟩ := ensures team.state .refl choice
      refine ⟨protocol.keeps agrees.holds kind, fun other => ?_⟩
      show Ensures _ _ _ _ (Function.update team.talks client _ other) _
      by_cases same : other = client
      · rw [same, Function.update_self]
        exact rest
      · rw [Function.update_of_ne same]
        exact (agrees.ensures other).later
          (.single (protocol.tolerates same agrees.holds kind))

/-- The team rule: whatever the turns are, the invariant holds and every client ensures its part. -/
theorem Protocol.run (protocol : Protocol serve program invariant others own remembers)
    {team final : Team Client State Request Response Value}
    {events : List (TeamEvent Client Task Choice)}
    (agrees : Agrees serve invariant others own remembers team)
    (run : (teamwork serve program).run team events = some final) :
    Agrees serve invariant others own remembers final :=
  (teamwork serve program).run_invariant (fun before step => protocol.step before step) agrees run

end Team

/-! ### A server that records -/

/-- A server that answers anything, and records what is said. -/
def recorded (response : Response) (past : List (Request × Response)) (request : Request) :
    List (Request × Response) × Response :=
  (past ++ [(request, response)], response)

/-- What is said in a dialogue, and its value, when it is answered some responses in turn. -/
def transcript (dialogue : Dialogue Request Response Value) (responses : Nat → Response) :
    List (Request × Response) × Value :=
  dialogue.converse recorded [] responses

/-- Every request of what is said is allowed after what was said before it. -/
def Proper (allowed : List (Request × Response) → Request → Prop)
    (said : List (Request × Response)) : Prop :=
  ∀ before request response after, said = before ++ (request, response) :: after →
    allowed before request

/-- One more exchange, with a request that is allowed. -/
def Adding (allowed : List (Request × Response) → Request → Prop)
    (past said : List (Request × Response)) : Prop :=
  ∃ request response, said = past ++ [(request, response)] ∧ allowed past request

theorem proper_nil (allowed : List (Request × Response) → Request → Prop) : Proper allowed [] := by
  intro before request response after split
  simp at split

theorem Proper.add {allowed : List (Request × Response) → Request → Prop}
    {past said : List (Request × Response)} (proper : Proper allowed past)
    (adding : Adding allowed past said) : Proper allowed said := by
  obtain ⟨request, response, rfl, allows⟩ := adding
  intro before request' response' after split
  rcases List.eq_nil_or_concat after with rfl | ⟨front, last, rfl⟩
  · obtain ⟨rfl, last⟩ := List.append_inj' split rfl
    obtain ⟨rfl, rfl⟩ := Prod.mk.inj (List.cons.inj last).1
    exact allows
  · rw [List.concat_eq_append, ← List.cons_append, ← List.append_assoc] at split
    exact proper before request' response' front (List.append_inj' split rfl).1

/-- After what was said, a dialogue has only requests that are allowed, and ends with a
postcondition, whatever it is answered. -/
def Speaks (allowed : List (Request × Response) → Request → Prop)
    (holds : Value → List (Request × Response) → Prop)
    (dialogue : Dialogue Request Response Value) (past : List (Request × Response)) : Prop :=
  Ensures recorded (fun _ _ => False) (Adding allowed) holds dialogue past

section Speaks

variable {allowed : List (Request × Response) → Request → Prop}

theorem speaks_done {holds : Value → List (Request × Response) → Prop} {value : Value}
    {past : List (Request × Response)} (holding : holds value past) :
    Speaks allowed holds (done value) past := by
  intro said changed
  rw [eq_of_undisturbed changed]
  exact holding

theorem speaks_ask {holds : Value → List (Request × Response) → Prop} {request : Request}
    {next : Response → Dialogue Request Response Value} {past : List (Request × Response)}
    (allows : allowed past request)
    (answered : ∀ response, Speaks allowed holds (next response) (past ++ [(request, response)])) :
    Speaks allowed holds (ask request next) past := by
  intro said changed response
  rw [eq_of_undisturbed changed]
  exact ⟨⟨request, response, rfl, allows⟩, answered response⟩

theorem Speaks.imp {holds holds' : Value → List (Request × Response) → Prop}
    {dialogue : Dialogue Request Response Value} {past : List (Request × Response)}
    (speaks : Speaks allowed holds dialogue past)
    (implies : ∀ value said, holds value said → holds' value said) :
    Speaks allowed holds' dialogue past := Ensures.imp speaks implies

theorem speaks_bind {holds : Result → List (Request × Response) → Prop}
    {dialogue : Dialogue Request Response Value}
    {next : Value → Dialogue Request Response Result} {past : List (Request × Response)}
    (speaks : Speaks allowed (fun value said => Speaks allowed holds (next value) said)
      dialogue past) :
    Speaks allowed holds (dialogue.bind next) past := ensures_bind speaks

theorem speaks_map {holds : Result → List (Request × Response) → Prop} {change : Value → Result}
    {dialogue : Dialogue Request Response Value} {past : List (Request × Response)}
    (speaks : Speaks allowed (fun value => holds (change value)) dialogue past) :
    Speaks allowed holds (dialogue.map change) past := ensures_map speaks

/-- What is said is proper, whatever the answers are. -/
theorem Speaks.transcript {holds : Value → List (Request × Response) → Prop}
    {dialogue : Dialogue Request Response Value} (speaks : Speaks allowed holds dialogue [])
    (responses : Nat → Response) :
    Proper allowed (dialogue.transcript responses).1 ∧
      holds (dialogue.transcript responses).2 (dialogue.transcript responses).1 :=
  Ensures.converse speaks Proper.add (proper_nil allowed) responses

end Speaks

end Dialogue
