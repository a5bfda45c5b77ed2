/-
This file models the high-water mark of one log: the row that remembers up to
when its entries have been read. A call of `set_log_cursor` reads the row,
compares it with its own value and commits, and in between other calls commit
theirs, from this collector or from another one. The isolation is that of
read-committed transactions: a read sees the last commit, and an update writes
the row whatever was committed since. A call that loses the race for the first
insert reads the row again and compares once more.

So a call can write over a larger value that was committed after its read. The
file shows such a run, and that the mark only rises, up to the largest value
passed, in every run in which no call is overtaken by a larger one.
-/

import Gyanam.Lib.Machine
import Gyanam.Timestamps
import Mathlib.Data.Int.ConditionallyCompleteOrder

namespace Gyanam

open Datetime (Reading)

/-! ### Calls -/

/-- The row of a log. -/
structure LogCursor where
  lastCreated : Option Reading
  deriving DecidableEq

/-- Whether a value moves the mark of a row forward. -/
def LogCursor.advancedBy (row : LogCursor) (value : Reading) : Bool :=
  match row.lastCreated with
  | none => true
  | some old => old.micros < value.micros

/-- Where a call stands: it has still to read, or it has read the row, or that there is none. -/
inductive CursorStage where
  | waiting
  | compared (existing : Option LogCursor)
  deriving DecidableEq

/-- What a call is about to commit. -/
inductive CursorWrite where
  | nothing
  | update
  | insert
  deriving DecidableEq

/-- A call in flight. It retries when its insert met a row. The values that other calls committed
since it read are written down next to it. -/
structure CursorCall where
  value : Reading
  retry : Bool := false
  stage : CursorStage := .waiting
  since : List Reading := []
  deriving DecidableEq

/-- What a call commits, given what it read. -/
def CursorCall.write (call : CursorCall) (existing : Option LogCursor) : CursorWrite :=
  match existing with
  | some row => if row.advancedBy call.value then .update else .nothing
  | none => if call.retry then .nothing else .insert

/-- Whether a call is about to commit an update, and another call has committed a larger value since
it read. -/
def CursorCall.overtaken (call : CursorCall) : Bool :=
  match call.stage with
  | .waiting => false
  | .compared existing =>
    decide (call.write existing = .update) &&
      call.since.any fun value => decide (call.value.micros < value.micros)

/-- A commit of another call. -/
def CursorCall.notice (value : Reading) (call : CursorCall) : CursorCall :=
  { call with since := call.since ++ [value] }

/-! ### The machine -/

/-- The row, the calls in flight, and the values passed so far. -/
structure CursorStore where
  row : Option LogCursor
  calls : List CursorCall := []
  passed : List Reading := []
  deriving DecidableEq

inductive CursorEvent where
  | setLogCursor (lastCreated : Datetime)
  | read (index : Nat)
  | commit (index : Nat)
  deriving DecidableEq

namespace CursorStore

/-- The row gets the value of a call, and the call returns. -/
def store (cursor : CursorStore) (index : Nat) (call : CursorCall) : CursorStore :=
  { cursor with
    row := some { lastCreated := some call.value }
    calls := (cursor.calls.eraseIdx index).map (.notice call.value) }

/-- One event. A call whose value cannot be normalised raises before it reads. -/
def step (cursor : CursorStore) : CursorEvent → Option CursorStore
  | .setLogCursor lastCreated =>
    match toNaiveUtc (some lastCreated) with
    | .ok (some value) =>
      some { cursor with
        calls := cursor.calls ++ [{ value := value }]
        passed := cursor.passed ++ [value] }
    | _ => some cursor
  | .read index => do
    let call ← cursor.calls[index]?
    match call.stage with
    | .waiting =>
      some { cursor with
        calls := cursor.calls.set index
          { call with stage := .compared cursor.row, since := [] } }
    | .compared _ => none
  | .commit index => do
    let call ← cursor.calls[index]?
    match call.stage with
    | .waiting => none
    | .compared existing =>
      match call.write existing with
      | .nothing => some { cursor with calls := cursor.calls.eraseIdx index }
      | .update => some (cursor.store index call)
      | .insert =>
        match cursor.row with
        | none => some (cursor.store index call)
        | some _ =>
          some { cursor with
            calls := cursor.calls.set index { call with retry := true, stage := .waiting } }

/-- The mark, below every value when there is none. -/
def level (row : Option LogCursor) : WithBot Int :=
  (row.bind LogCursor.lastCreated).map Reading.micros

/-- A call that commits an update has not been overtaken. -/
def NotOvertaken (cursor : CursorStore) : CursorEvent → Prop
  | .commit index => ∀ call ∈ cursor.calls[index]?, call.overtaken = false
  | _ => True

instance (cursor : CursorStore) (event : CursorEvent) :
    Decidable (cursor.NotOvertaken event) := by
  cases event <;> unfold NotOvertaken <;> infer_instance

end CursorStore

def cursorMachine : Machine CursorStore CursorEvent := ⟨CursorStore.step⟩

namespace CursorStore

/-! ### What a step does -/

/-- A row that a value moves forward is below it, and any other row is not. -/
theorem level_lt_iff (row : LogCursor) (value : Reading) :
    level (some row) < (value.micros : WithBot Int) ↔ row.advancedBy value = true := by
  obtain ⟨lastCreated⟩ := row
  cases lastCreated with
  | none => exact ⟨fun _ => rfl, fun _ => WithBot.bot_lt_coe value.micros⟩
  | some old =>
    show ((old.micros : WithBot Int) < value.micros) ↔ _
    rw [WithBot.coe_lt_coe, LogCursor.advancedBy, decide_eq_true_eq]

/-- A call of a list is the one at an index, or it stays when that one is removed. -/
theorem mem_eraseIdx_or {calls : List CursorCall} {index : Nat} {call other : CursorCall}
    (found : calls[index]? = some call) (member : other ∈ calls) :
    other = call ∨ other ∈ calls.eraseIdx index := by
  obtain ⟨within, rfl⟩ := List.getElem?_eq_some_iff.mp found
  obtain ⟨place, inside, rfl⟩ := List.getElem_of_mem member
  by_cases same : place = index
  · exact .inl (by simp only [same])
  · exact .inr (List.mem_eraseIdx_iff_getElem.mpr ⟨place, inside, same, rfl⟩)

/-- What a step does: a call begins or raises, reads, returns without a write, commits its value, or
finds that the row exists. -/
inductive Stepped (cursor : CursorStore) : CursorEvent → CursorStore → Prop where
  | began (lastCreated : Datetime) (value : Reading) :
    Stepped cursor (.setLogCursor lastCreated) { cursor with
      calls := cursor.calls ++ [{ value := value }]
      passed := cursor.passed ++ [value] }
  | raised (lastCreated : Datetime) : Stepped cursor (.setLogCursor lastCreated) cursor
  | read (index : Nat) (call : CursorCall) (found : cursor.calls[index]? = some call) :
    Stepped cursor (.read index) { cursor with
      calls := cursor.calls.set index { call with stage := .compared cursor.row, since := [] } }
  | returned (index : Nat) (call : CursorCall) (existing : Option LogCursor)
      (found : cursor.calls[index]? = some call) (compared : call.stage = .compared existing)
      (writes : call.write existing = .nothing) :
    Stepped cursor (.commit index) { cursor with calls := cursor.calls.eraseIdx index }
  | updated (index : Nat) (call : CursorCall) (existing : Option LogCursor)
      (found : cursor.calls[index]? = some call) (compared : call.stage = .compared existing)
      (writes : call.write existing = .update) :
    Stepped cursor (.commit index) (cursor.store index call)
  | inserted (index : Nat) (call : CursorCall) (existing : Option LogCursor)
      (found : cursor.calls[index]? = some call) (compared : call.stage = .compared existing)
      (writes : call.write existing = .insert) (absent : cursor.row = none) :
    Stepped cursor (.commit index) (cursor.store index call)
  | collided (index : Nat) (call : CursorCall) (existing : Option LogCursor)
      (found : cursor.calls[index]? = some call) (compared : call.stage = .compared existing)
      (writes : call.write existing = .insert) (present : cursor.row.isSome = true) :
    Stepped cursor (.commit index) { cursor with
      calls := cursor.calls.set index { call with retry := true, stage := .waiting } }

theorem stepped {cursor next : CursorStore} {event : CursorEvent}
    (step : cursor.step event = some next) : Stepped cursor event next := by
  cases event with
  | setLogCursor lastCreated =>
    simp only [CursorStore.step] at step
    split at step
    · next value _ => exact Option.some.inj step ▸ .began lastCreated value
    · exact Option.some.inj step ▸ .raised lastCreated
  | read index =>
    obtain ⟨call, found, later⟩ := Option.bind_eq_some_iff.mp step
    split at later
    · exact Option.some.inj later ▸ .read index call found
    · simp at later
  | commit index =>
    obtain ⟨call, found, later⟩ := Option.bind_eq_some_iff.mp step
    split at later
    · simp at later
    · next existing compared =>
      split at later
      · next writes =>
        exact Option.some.inj later ▸ .returned index call existing found compared writes
      · next writes =>
        exact Option.some.inj later ▸ .updated index call existing found compared writes
      · next writes =>
        split at later
        · next absent =>
          exact Option.some.inj later ▸ .inserted index call existing found compared writes absent
        · next row present =>
          exact Option.some.inj later ▸
            .collided index call existing found compared writes (by rw [present]; rfl)

/-! ### The mark over a run -/

/-- What holds while no call is overtaken. The mark is the initial one or a value passed, and not
below the initial one; a value passed has been reached, or its call is in flight; what a call read
is at most the mark, and if the mark is something else, another call has committed it since; what
was committed since is at most the mark; and a call that retries reads a row. -/
structure Sound (initial : WithBot Int) (cursor : CursorStore) : Prop where
  initialLe : initial ≤ level cursor.row
  source : level cursor.row = initial ∨
    ∃ value ∈ cursor.passed, level cursor.row = (value.micros : WithBot Int)
  reached : ∀ value ∈ cursor.passed, (value.micros : WithBot Int) ≤ level cursor.row ∨
    ∃ call ∈ cursor.calls, call.value = value
  passing : ∀ call ∈ cursor.calls, call.value ∈ cursor.passed
  read : ∀ call ∈ cursor.calls, ∀ existing, call.stage = .compared existing →
    level existing ≤ level cursor.row ∧
      (level cursor.row = level existing ∨
        ∃ value ∈ call.since, level cursor.row = (value.micros : WithBot Int))
  since : ∀ call ∈ cursor.calls, ∀ value ∈ call.since,
    (value.micros : WithBot Int) ≤ level cursor.row
  retried : ∀ call ∈ cursor.calls, call.retry = true → cursor.row.isSome = true ∧
    ∀ existing, call.stage = .compared existing → existing.isSome = true

theorem sound_start (row : Option LogCursor) : Sound (level row) { row := row } where
  initialLe := le_rfl
  source := .inl rfl
  reached := by simp
  passing := by simp
  read := by simp
  since := by simp
  retried := by simp

/-- A call that is not overtaken commits a value above what it read, and not below the mark. -/
theorem Sound.level_le_of_update {initial : WithBot Int} {cursor : CursorStore}
    (sound : cursor.Sound initial) {call : CursorCall} (member : call ∈ cursor.calls)
    {existing : Option LogCursor} (compared : call.stage = .compared existing)
    (writes : call.write existing = .update) (ahead : call.overtaken = false) :
    level cursor.row ≤ (call.value.micros : WithBot Int) := by
  have below : level existing < (call.value.micros : WithBot Int) := by
    cases existing with
    | none => exact WithBot.bot_lt_coe _
    | some row =>
      rw [level_lt_iff]
      by_contra behind
      rw [CursorCall.write] at writes
      simp [behind] at writes
  obtain ⟨_, same | ⟨value, later, same⟩⟩ := sound.read call member existing compared
  · rw [same]
    exact below.le
  · rw [CursorCall.overtaken, compared] at ahead
    simp only [writes, decide_true, Bool.true_and, List.any_eq_false, decide_eq_true_eq,
      not_lt] at ahead
    rw [same, WithBot.coe_le_coe]
    exact ahead value later

/-- A call returns: what holds of the calls in flight holds of the others. -/
theorem Sound.returned {initial : WithBot Int} {cursor : CursorStore}
    (sound : cursor.Sound initial) {index : Nat} {call : CursorCall}
    (found : cursor.calls[index]? = some call)
    (reached : (call.value.micros : WithBot Int) ≤ level cursor.row) :
    Sound initial { cursor with calls := cursor.calls.eraseIdx index } where
  initialLe := sound.initialLe
  source := sound.source
  reached value passed := by
    rcases sound.reached value passed with below | ⟨other, member, rfl⟩
    · exact .inl below
    · rcases mem_eraseIdx_or found member with rfl | stays
      · exact .inl reached
      · exact .inr ⟨other, stays, rfl⟩
  passing other member := sound.passing other (List.mem_of_mem_eraseIdx member)
  read other member := sound.read other (List.mem_of_mem_eraseIdx member)
  since other member := sound.since other (List.mem_of_mem_eraseIdx member)
  retried other member := sound.retried other (List.mem_of_mem_eraseIdx member)

/-- A call commits a value that is not below the mark. -/
theorem Sound.store {initial : WithBot Int} {cursor : CursorStore}
    (sound : cursor.Sound initial) {index : Nat} {call : CursorCall}
    (found : cursor.calls[index]? = some call)
    (rises : level cursor.row ≤ (call.value.micros : WithBot Int)) :
    Sound initial (cursor.store index call) where
  initialLe := sound.initialLe.trans rises
  source := .inr ⟨call.value, sound.passing call (List.mem_of_getElem? found), rfl⟩
  reached value passed := by
    rcases sound.reached value passed with below | ⟨other, member, rfl⟩
    · exact .inl (below.trans rises)
    · rcases mem_eraseIdx_or found member with rfl | stays
      · exact .inl le_rfl
      · exact .inr ⟨other.notice call.value, List.mem_map_of_mem stays, rfl⟩
  passing other member := by
    obtain ⟨before, stays, rfl⟩ := List.mem_map.mp member
    exact sound.passing before (List.mem_of_mem_eraseIdx stays)
  read other member existing compared := by
    obtain ⟨before, stays, rfl⟩ := List.mem_map.mp member
    obtain ⟨below, _⟩ := sound.read before (List.mem_of_mem_eraseIdx stays) existing compared
    exact ⟨below.trans rises, .inr ⟨call.value, by simp [CursorCall.notice], rfl⟩⟩
  since other member value later := by
    obtain ⟨before, stays, rfl⟩ := List.mem_map.mp member
    rcases List.mem_append.mp later with early | last
    · exact (sound.since before (List.mem_of_mem_eraseIdx stays) value early).trans rises
    · rw [List.mem_singleton.mp last]
      exact le_rfl
  retried other member retry := by
    obtain ⟨before, stays, rfl⟩ := List.mem_map.mp member
    exact ⟨rfl, (sound.retried before (List.mem_of_mem_eraseIdx stays) retry).2⟩

/-- A call in flight moves on, with the value it had. -/
theorem Sound.move {initial : WithBot Int} {cursor : CursorStore}
    (sound : cursor.Sound initial) {index : Nat} {call moved : CursorCall}
    (found : cursor.calls[index]? = some call) (value : moved.value = call.value)
    (read : ∀ existing, moved.stage = .compared existing → existing = cursor.row)
    (since : moved.since ⊆ call.since)
    (retried : moved.retry = true → cursor.row.isSome = true) :
    Sound initial { cursor with calls := cursor.calls.set index moved } where
  initialLe := sound.initialLe
  source := sound.source
  reached other passed := by
    rcases sound.reached other passed with below | ⟨before, member, rfl⟩
    · exact .inl below
    · obtain ⟨place, within, rfl⟩ := List.getElem_of_mem member
      by_cases same : place = index
      · subst same
        rw [List.getElem?_eq_getElem within, Option.some.injEq] at found
        exact .inr ⟨moved, List.mem_set within moved, by rw [value, found]⟩
      · refine .inr ⟨cursor.calls[place], List.mem_iff_getElem.mpr ⟨place, ?_, ?_⟩, rfl⟩
        · rwa [List.length_set]
        · rw [List.getElem_set_ne (Ne.symm same)]
  passing other member := by
    rcases List.mem_or_eq_of_mem_set member with before | rfl
    · exact sound.passing other before
    · rw [value]
      exact sound.passing call (List.mem_of_getElem? found)
  read other member existing compared := by
    rcases List.mem_or_eq_of_mem_set member with before | rfl
    · exact sound.read other before existing compared
    · rw [read existing compared]
      exact ⟨le_rfl, .inl rfl⟩
  since other member noted later := by
    rcases List.mem_or_eq_of_mem_set member with before | rfl
    · exact sound.since other before noted later
    · exact sound.since call (List.mem_of_getElem? found) noted (since later)
  retried other member retry := by
    rcases List.mem_or_eq_of_mem_set member with before | rfl
    · exact sound.retried other before retry
    · exact ⟨retried retry, fun existing compared => read existing compared ▸ retried retry⟩

/-- A call that returns without a write has not moved the mark forward. -/
theorem Sound.reached_of_nothing {initial : WithBot Int} {cursor : CursorStore}
    (sound : cursor.Sound initial) {call : CursorCall} (member : call ∈ cursor.calls)
    {existing : Option LogCursor} (compared : call.stage = .compared existing)
    (writes : call.write existing = .nothing) :
    (call.value.micros : WithBot Int) ≤ level cursor.row := by
  cases existing with
  | none =>
    by_cases retry : call.retry = true
    · simpa using (sound.retried call member retry).2 none compared
    · simp [CursorCall.write, retry] at writes
  | some row =>
    have behind : ¬ row.advancedBy call.value = true := by
      intro advanced
      simp [CursorCall.write, advanced] at writes
    rw [← level_lt_iff, not_lt] at behind
    exact behind.trans (sound.read call member _ compared).1

/-- A step in which no call is overtaken keeps the mark sound, and does not lower it. -/
theorem Sound.step {initial : WithBot Int} {cursor next : CursorStore} {event : CursorEvent}
    (sound : cursor.Sound initial) (ahead : cursor.NotOvertaken event)
    (step : cursorMachine.step cursor event = some next) :
    next.Sound initial ∧ level cursor.row ≤ level next.row := by
  cases stepped step with
  | began lastCreated value =>
    refine ⟨⟨sound.initialLe, ?_, ?_, ?_, ?_, ?_, ?_⟩, le_rfl⟩
    · rcases sound.source with same | ⟨other, member, same⟩
      · exact .inl same
      · exact .inr ⟨other, List.mem_append_left _ member, same⟩
    · intro other member
      rcases List.mem_append.mp member with before | new
      · rcases sound.reached other before with below | ⟨call, inFlight, same⟩
        · exact .inl below
        · exact .inr ⟨call, List.mem_append_left _ inFlight, same⟩
      · rw [List.mem_singleton] at new
        exact .inr ⟨{ value := value }, List.mem_append_right _ (List.mem_singleton_self _),
          new.symm⟩
    · intro call member
      rcases List.mem_append.mp member with before | new
      · exact List.mem_append_left _ (sound.passing call before)
      · rw [List.mem_singleton.mp new]
        exact List.mem_append_right _ (List.mem_singleton_self _)
    · intro call member
      rcases List.mem_append.mp member with before | new
      · exact sound.read call before
      · rw [List.mem_singleton.mp new]
        simp
    · intro call member
      rcases List.mem_append.mp member with before | new
      · exact sound.since call before
      · rw [List.mem_singleton.mp new]
        simp
    · intro call member
      rcases List.mem_append.mp member with before | new
      · exact sound.retried call before
      · rw [List.mem_singleton.mp new]
        simp
  | raised lastCreated => exact ⟨sound, le_rfl⟩
  | read index call found =>
    refine ⟨sound.move found rfl ?_ (List.nil_subset _) fun retry => ?_, le_rfl⟩
    · intro existing compared
      exact (CursorStage.compared.inj compared).symm
    · exact (sound.retried call (List.mem_of_getElem? found) retry).1
  | returned index call existing found compared writes =>
    exact ⟨sound.returned found
      (sound.reached_of_nothing (List.mem_of_getElem? found) compared writes), le_rfl⟩
  | updated index call existing found compared writes =>
    have rises := sound.level_le_of_update (List.mem_of_getElem? found) compared writes
      (ahead call found)
    exact ⟨sound.store found rises, rises⟩
  | inserted index call existing found compared writes absent =>
    have rises : level cursor.row ≤ (call.value.micros : WithBot Int) := by
      rw [absent]
      exact bot_le
    exact ⟨sound.store found rises, rises⟩
  | collided index call existing found compared writes present =>
    exact ⟨sound.move found rfl (fun existing compared => by simp at compared)
      (List.Subset.refl _) fun _ => present, le_rfl⟩

/-- The mark is not lowered by an event. -/
def Rises (cursor : CursorStore) (event : CursorEvent) : Prop :=
  ∀ next, cursorMachine.step cursor event = some next → level cursor.row ≤ level next.row

theorem not_overtaken_of_write {call : CursorCall} {existing : Option LogCursor}
    (compared : call.stage = .compared existing) (writes : call.write existing ≠ .update) :
    call.overtaken = false := by
  rw [CursorCall.overtaken, compared]
  simp [writes]

/-- A step that does not lower the mark commits no call that has been overtaken. -/
theorem Sound.notOvertaken_of_rises {initial : WithBot Int} {cursor next : CursorStore}
    {event : CursorEvent} (sound : cursor.Sound initial) (rises : cursor.Rises event)
    (step : cursorMachine.step cursor event = some next) : cursor.NotOvertaken event := by
  have risen := rises next step
  cases stepped step with
  | began lastCreated value => trivial
  | raised lastCreated => trivial
  | read index call found => trivial
  | returned index call existing found compared writes =>
    intro other same
    obtain rfl := Option.some.inj (found.symm.trans same)
    exact not_overtaken_of_write compared (by simp [writes])
  | updated index call existing found compared writes =>
    intro other same
    obtain rfl := Option.some.inj (found.symm.trans same)
    simp only [CursorCall.overtaken, compared, Bool.and_eq_false_iff, List.any_eq_false,
      decide_eq_true_eq, not_lt]
    refine .inr fun value later => ?_
    have noted := sound.since call (List.mem_of_getElem? found) value later
    exact WithBot.coe_le_coe.mp (noted.trans risen)
  | inserted index call existing found compared writes absent =>
    intro other same
    obtain rfl := Option.some.inj (found.symm.trans same)
    exact not_overtaken_of_write compared (by simp [writes])
  | collided index call existing found compared writes present =>
    intro other same
    obtain rfl := Option.some.inj (found.symm.trans same)
    exact not_overtaken_of_write compared (by simp [writes])

/-- Along a run the mark is never lowered exactly when no call is overtaken. -/
theorem Sound.throughout_iff {initial : WithBot Int} {cursor final : CursorStore}
    {events : List CursorEvent} (sound : cursor.Sound initial)
    (run : cursorMachine.run cursor events = some final) :
    cursorMachine.Throughout Rises cursor events ↔
      cursorMachine.Throughout NotOvertaken cursor events := by
  induction events generalizing cursor with
  | nil => exact Iff.rfl
  | cons event rest inductionHypothesis =>
    obtain ⟨next, step, later⟩ := cursorMachine.run_cons.mp run
    have stepIff : cursor.Rises event ↔ cursor.NotOvertaken event := by
      refine ⟨fun rises => sound.notOvertaken_of_rises rises step, fun ahead other stepOther => ?_⟩
      exact (sound.step ahead stepOther).2
    simp only [Machine.Throughout, stepIff]
    refine and_congr_right fun ahead => forall_congr' fun other => imp_congr_right
      fun stepOther => ?_
    obtain rfl := Option.some.inj (step.symm.trans stepOther)
    exact inductionHypothesis (sound.step ahead step).1 later

end CursorStore

/-- The largest of some values, or a level below which none of them lies. -/
def topLevel (initial : WithBot Int) (values : List Reading) : WithBot Int :=
  values.foldr (fun value top => max (value.micros : WithBot Int) top) initial

theorem topLevel_le_iff {initial bound : WithBot Int} {values : List Reading} :
    topLevel initial values ≤ bound ↔
      initial ≤ bound ∧ ∀ value ∈ values, (value.micros : WithBot Int) ≤ bound := by
  induction values with
  | nil => simp [topLevel]
  | cons value rest inductionHypothesis =>
    rw [topLevel, List.foldr_cons, ← topLevel, max_le_iff, inductionHypothesis]
    simp only [List.forall_mem_cons]
    tauto

namespace CursorStore

/-- When every call has returned, the mark is the largest of the values passed and the initial
one. -/
theorem Sound.level_eq {initial : WithBot Int} {cursor : CursorStore}
    (sound : cursor.Sound initial) (returned : cursor.calls = []) :
    level cursor.row = topLevel initial cursor.passed := by
  refine le_antisymm ?_ (topLevel_le_iff.mpr ⟨sound.initialLe, fun value passed => ?_⟩)
  · obtain ⟨initialBound, valueBound⟩ :=
      topLevel_le_iff.mp (le_refl (topLevel initial cursor.passed))
    rcases sound.source with same | ⟨value, passed, same⟩
    · rwa [same]
    · rw [same]
      exact valueBound value passed
  · rcases sound.reached value passed with below | ⟨call, inFlight, _⟩
    · exact below
    · rw [returned] at inFlight
      simp at inFlight

end CursorStore

/-- In a run of calls on one log, from any row, the mark is never lowered and ends at the largest
value passed exactly when no call commits an update after another call has committed a larger value
since its read. -/
theorem log_cursor_rises_iff (row : Option LogCursor) (events : List CursorEvent)
    (final : CursorStore) (run : cursorMachine.run { row := row } events = some final) :
    (cursorMachine.Throughout CursorStore.Rises { row := row } events ∧
      (final.calls = [] →
        CursorStore.level final.row = topLevel (CursorStore.level row) final.passed)) ↔
      cursorMachine.Throughout CursorStore.NotOvertaken { row := row } events := by
  have sound := CursorStore.sound_start row
  rw [sound.throughout_iff run, and_iff_left_iff_imp]
  intro throughout returned
  have kept := cursorMachine.run_keeps
    (fun {_ _ _} held ahead step => (CursorStore.Sound.step held ahead step).1)
    sound throughout run
  exact kept.level_eq returned

/-- A datetime in UTC, some microseconds into 1970. -/
def inUtc (micros : Nat) (within : (micros : Int) ≤ Datetime.maxReading := by decide) :
    Datetime where
  reading := ⟨micros, (by decide : Datetime.minReading ≤ 0).trans (Int.natCast_nonneg micros),
    within⟩
  offset := some .utc

/-- Two calls on one log, with their reads and commits in some order. -/
def twoCalls (order : List CursorEvent) : List CursorEvent :=
  [.setLogCursor (inUtc 10), .setLogCursor (inUtc 20)] ++ order

/-- A row that remembers the start of 1970. -/
def epochRow : LogCursor where
  lastCreated := some Reading.epoch

/-- Two calls one after the other leave the larger value. -/
theorem consecutiveCalls_rise : ∃ final,
    cursorMachine.run { row := some epochRow }
        (twoCalls [.read 0, .commit 0, .read 0, .commit 0]) = some final ∧
      cursorMachine.Throughout CursorStore.Rises { row := some epochRow }
        (twoCalls [.read 0, .commit 0, .read 0, .commit 0]) ∧
      (final.calls = [] → CursorStore.level final.row =
        topLevel (CursorStore.level (some epochRow)) final.passed) := by
  have completes : (cursorMachine.run { row := some epochRow }
      (twoCalls [.read 0, .commit 0, .read 0, .commit 0])).any (fun _ => true) = true := by decide
  obtain ⟨final, run, _⟩ := cursorMachine.exists_of_any completes
  exact ⟨final, run, (log_cursor_rises_iff (some epochRow) _ final run).mpr (by decide)⟩

/-- When both calls read before either commits, the smaller value may be written last. -/
theorem overtakenCall_lowers :
    ¬ ∀ (row : Option LogCursor) (events : List CursorEvent) (final : CursorStore),
      cursorMachine.run { row := row } events = some final →
        cursorMachine.Throughout CursorStore.Rises { row := row } events ∧
          (final.calls = [] →
            CursorStore.level final.row = topLevel (CursorStore.level row) final.passed) := by
  intro claimed
  have lowers : (cursorMachine.run { row := some epochRow }
      (twoCalls [.read 0, .read 1, .commit 1, .commit 0])).any (fun final =>
        decide (final.calls = [] ∧ final.row = (some { lastCreated := some (inUtc 10).reading }) ∧
          final.passed = [(inUtc 10).reading, (inUtc 20).reading])) = true := by decide
  obtain ⟨final, run, ended⟩ := cursorMachine.exists_of_any lowers
  obtain ⟨returned, row, passed⟩ := of_decide_eq_true ended
  have top := (claimed (some epochRow) _ final run).2 returned
  rw [row, passed] at top
  exact absurd top (by decide)

end Gyanam
