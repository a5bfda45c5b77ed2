/-
This file collects when a computation that may raise returns: a sequence of two,
one whose exception is renamed, and one for each item of a list.
-/

import Mathlib.Data.List.Basic
import Mathlib.Data.List.Forall2

namespace Fallible

variable {Error Error' Item Result Value : Type}

theorem bind_eq_ok {first : Except Error Value} {next : Value → Except Error Result}
    {result : Result} :
    (first >>= next) = .ok result ↔ ∃ value, first = .ok value ∧ next value = .ok result := by
  cases first with
  | error error => simp [bind, Except.bind]
  | ok value => simp [bind, Except.bind]

theorem mapError_eq_ok {rename : Error → Error'} {first : Except Error Value} {value : Value} :
    first.mapError rename = .ok value ↔ first = .ok value := by
  cases first <;> simp [Except.mapError]

/-- Something is returned for a list exactly when something is for each item. -/
theorem mapM_returns_iff {act : Item → Except Error Value} {items : List Item} :
    (∃ values, items.mapM act = .ok values) ↔ ∀ item ∈ items, ∃ value, act item = .ok value := by
  induction items with
  | nil => simp [pure, Except.pure]
  | cons item rest inductionHypothesis =>
    rw [List.forall_mem_cons, ← inductionHypothesis]
    simp only [List.mapM_cons, bind_eq_ok, pure, Except.pure, Except.ok.injEq]
    constructor
    · rintro ⟨_, value, found, values, later, _⟩
      exact ⟨⟨value, found⟩, values, later⟩
    · rintro ⟨⟨value, found⟩, values, later⟩
      exact ⟨_, value, found, values, later, rfl⟩

/-- What is returned for a list, when it is known for each item. -/
theorem mapM_eq_map {act : Item → Except Error Value} {value : Item → Value} {items : List Item}
    (each : ∀ item ∈ items, act item = .ok (value item)) :
    items.mapM act = .ok (items.map value) := by
  induction items with
  | nil => rfl
  | cons item rest inductionHypothesis =>
    obtain ⟨first, later⟩ := List.forall_mem_cons.mp each
    rw [List.mapM_cons, first, inductionHypothesis later]
    rfl

/-- What is returned for a list is returned for its items. -/
theorem mem_of_mapM {act : Item → Except Error Value} {items : List Item} {values : List Value}
    (returned : items.mapM act = .ok values) {value : Value} (member : value ∈ values) :
    ∃ item ∈ items, act item = .ok value := by
  induction items generalizing values with
  | nil =>
    cases returned
    cases member
  | cons item rest inductionHypothesis =>
    simp only [List.mapM_cons, bind_eq_ok, pure, Except.pure, Except.ok.injEq] at returned
    obtain ⟨first, found, later, rested, rfl⟩ := returned
    obtain rfl | member := List.mem_cons.mp member
    · exact ⟨item, List.mem_cons_self, found⟩
    · obtain ⟨owner, listed, same⟩ := inductionHypothesis rested member
      exact ⟨owner, List.mem_cons_of_mem _ listed, same⟩

/-- What is returned for a list is what is returned for its items, in their order. -/
theorem forall₂_of_mapM {act : Item → Except Error Value} {items : List Item} {values : List Value}
    (returned : items.mapM act = .ok values) :
    List.Forall₂ (fun item value => act item = .ok value) items values := by
  induction items generalizing values with
  | nil =>
    cases returned
    exact .nil
  | cons item rest inductionHypothesis =>
    simp only [List.mapM_cons, bind_eq_ok, pure, Except.pure, Except.ok.injEq] at returned
    obtain ⟨first, found, later, rested, rfl⟩ := returned
    exact .cons found (inductionHypothesis rested)

/-- A view of what is returned that shows the item shows the items of a list. -/
theorem map_of_mapM {act : Item → Except Error Value} {view : Value → Item}
    (shows : ∀ {item value}, act item = .ok value → view value = item) {items : List Item}
    {values : List Value} (returned : items.mapM act = .ok values) : values.map view = items := by
  have each := forall₂_of_mapM returned
  clear returned
  induction each with
  | nil => rfl
  | cons found _ inductionHypothesis => rw [List.map_cons, shows found, inductionHypothesis]

/-- What is returned for a list, when it is known for each item, of a computation without a
message. -/
theorem mapM_eq_some_map {act : Item → Option Value} {value : Item → Value} {items : List Item}
    (each : ∀ item ∈ items, act item = some (value item)) :
    items.mapM act = some (items.map value) := by
  induction items with
  | nil => rfl
  | cons item rest inductionHypothesis =>
    obtain ⟨first, others⟩ := List.forall_mem_cons.mp each
    rw [List.mapM_cons, first, inductionHypothesis others]
    rfl

/-- What is returned for a list is what is returned for its items, in their order, of a computation
without a message. -/
theorem mapM_eq_some_iff {act : Item → Option Value} {items : List Item} {values : List Value} :
    items.mapM act = some values ↔
      List.Forall₂ (fun item value => act item = some value) items values := by
  induction items generalizing values with
  | nil => simp [pure, eq_comm]
  | cons item rest inductionHypothesis =>
    rw [List.mapM_cons, List.forall₂_cons_left_iff]
    constructor
    · intro returned
      obtain ⟨first, found, returned⟩ := Option.bind_eq_some_iff.mp returned
      obtain ⟨later, rested, same⟩ := Option.bind_eq_some_iff.mp returned
      exact ⟨first, later, found, inductionHypothesis.mp rested, (Option.some.inj same).symm⟩
    · rintro ⟨first, later, found, rested, rfl⟩
      rw [found, inductionHypothesis.mpr rested]
      rfl
/-- Nothing is returned for a list exactly when nothing is for one of its items. -/
theorem mapM_eq_none_iff {act : Item → Option Value} {items : List Item} :
    items.mapM act = none ↔ ∃ item ∈ items, act item = none := by
  induction items with
  | nil => simp [pure]
  | cons item rest inductionHypothesis =>
    rw [List.mapM_cons, List.exists_mem_cons_iff, ← inductionHypothesis]
    cases act item with
    | none => simp
    | some value =>
      cases rest.mapM act <;> simp

/-- What each item keeps, of the items before it and of the value so far, holds at the end of a
fold. -/
theorem foldlM_invariant {step : Value → Item → Except Error Value}
    {holds : List Item → Value → Prop}
    (keeps : ∀ before item value next, holds before value → step value item = .ok next →
      holds (before ++ [item]) next)
    {before items : List Item} {value result : Value} (start : holds before value)
    (folded : items.foldlM step value = .ok result) : holds (before ++ items) result := by
  induction items generalizing before value with
  | nil =>
    obtain rfl := Except.ok.inj folded
    rw [List.append_nil]
    exact start
  | cons item rest inductionHypothesis =>
    rw [List.foldlM_cons, bind_eq_ok] at folded
    obtain ⟨next, stepped, folded⟩ := folded
    have result := inductionHypothesis (keeps before item value next start stepped) folded
    rwa [List.append_assoc, List.singleton_append] at result

/-- A fold returns exactly when no item fails, if that does not depend on the value so far. -/
theorem foldlM_returns_iff {step : Value → Item → Except Error Value} {passes : Item → Prop}
    (each : ∀ value item, (∃ next, step value item = .ok next) ↔ passes item) (items : List Item)
    (value : Value) :
    (∃ result, items.foldlM step value = .ok result) ↔ ∀ item ∈ items, passes item := by
  induction items generalizing value with
  | nil => simp [pure, Except.pure]
  | cons item rest inductionHypothesis =>
    rw [List.forall_mem_cons, ← each value item]
    simp only [List.foldlM_cons, bind_eq_ok]
    constructor
    · rintro ⟨result, next, stepped, folded⟩
      exact ⟨⟨next, stepped⟩, (inductionHypothesis next).mp ⟨result, folded⟩⟩
    · rintro ⟨⟨next, stepped⟩, others⟩
      obtain ⟨result, folded⟩ := (inductionHypothesis next).mpr others
      exact ⟨result, next, stepped, folded⟩
end Fallible
