/-
This file builds tokens that carry a mark of their payload behind a separator. A
token is read from its end, so the payload may have separators in it and the
mark may not. A payload with a last part of its own is read the same way. A
signer makes the mark, and refuses some payloads; what it verifies is exactly
what it signed, and a token tells its payload.
-/

import Mathlib.Data.List.Basic
import Mathlib.Data.Option.Basic

/-! ### The last separator -/

namespace LastSeparator

variable {Symbol : Type} [DecidableEq Symbol] {separator : Symbol}

/-- What stands before the last separator of a text, and what stands behind it. -/
def splitLast (separator : Symbol) : List Symbol → Option (List Symbol × List Symbol)
  | [] => none
  | symbol :: rest =>
    match splitLast separator rest with
    | some (front, back) => some (symbol :: front, back)
    | none => if symbol = separator then some ([], rest) else none

theorem splitLast_eq_none {chars : List Symbol} :
    splitLast separator chars = none ↔ separator ∉ chars := by
  induction chars with
  | nil => simp [splitLast]
  | cons symbol rest inductionHypothesis =>
    rw [splitLast, List.mem_cons, not_or, ← inductionHypothesis]
    cases splitLast separator rest with
    | some parts => simp
    | none => simp [eq_comm]

/-- The separator that is found is the last one. -/
theorem splitLast_eq_some {chars front back : List Symbol} :
    splitLast separator chars = some (front, back) ↔
      chars = front ++ separator :: back ∧ separator ∉ back := by
  induction chars generalizing front back with
  | nil => simp [splitLast]
  | cons symbol rest inductionHypothesis =>
    rw [splitLast]
    cases found : splitLast separator rest with
    | some parts =>
      obtain ⟨front', back'⟩ := parts
      obtain ⟨split, clean⟩ := inductionHypothesis.mp found
      simp only [Option.some.injEq, Prod.mk.injEq]
      constructor
      · rintro ⟨rfl, rfl⟩
        exact ⟨congrArg (symbol :: ·) split, clean⟩
      · rintro ⟨same, cleanBack⟩
        cases front with
        | nil =>
          rw [List.nil_append, List.cons.injEq] at same
          have inside : separator ∈ rest := split ▸ List.mem_append_right _ List.mem_cons_self
          exact absurd (same.2 ▸ inside) cleanBack
        | cons first others =>
          rw [List.cons_append, List.cons.injEq] at same
          have again := inductionHypothesis.mpr ⟨same.2, cleanBack⟩
          rw [found, Option.some.injEq, Prod.mk.injEq] at again
          exact ⟨congrArg₂ List.cons same.1 again.1, again.2⟩
    | none =>
      have absent := splitLast_eq_none.mp found
      constructor
      · intro here
        split_ifs at here with mark
        obtain ⟨rfl, rfl⟩ := Prod.mk.inj (Option.some.inj here)
        exact ⟨congrArg (· :: rest) mark, absent⟩
      · rintro ⟨same, cleanBack⟩
        cases front with
        | nil =>
          rw [List.nil_append, List.cons.injEq] at same
          rw [if_pos same.1, same.2]
        | cons first others =>
          rw [List.cons_append, List.cons.injEq] at same
          exact absurd (same.2 ▸ List.mem_append_right _ List.mem_cons_self) absent

/-- A text with a last separator tells both parts. -/
theorem append_inj {front front' back back' : List Symbol} (clean : separator ∉ back)
    (clean' : separator ∉ back')
    (same : front ++ separator :: back = front' ++ separator :: back') :
    front = front' ∧ back = back' := by
  have found : splitLast separator (front' ++ separator :: back') = some (front, back) :=
    splitLast_eq_some.mpr ⟨same.symm, clean⟩
  rw [splitLast_eq_some.mpr ⟨rfl, clean'⟩, Option.some.injEq, Prod.mk.injEq] at found
  exact ⟨found.1.symm, found.2.symm⟩

/-! ### Splitting from the end -/

/-- The parts of a text around at most so many separators, the last ones. -/
def rsplit (separator : Symbol) : Nat → List Symbol → List (List Symbol)
  | 0, chars => [chars]
  | count + 1, chars =>
    match splitLast separator chars with
    | some (front, back) => rsplit separator count front ++ [back]
    | none => [chars]

/-- The three parts around the last two separators. -/
theorem rsplit_two_eq {chars front middle back : List Symbol} :
    rsplit separator 2 chars = [front, middle, back] ↔
      chars = (front ++ separator :: middle) ++ separator :: back ∧ separator ∉ middle ∧
        separator ∉ back := by
  simp only [rsplit]
  constructor
  · intro parts
    split at parts
    · next rest last split =>
      obtain ⟨rfl, cleanLast⟩ := splitLast_eq_some.mp split
      split at parts
      · next first second split' =>
        obtain ⟨rfl, cleanSecond⟩ := splitLast_eq_some.mp split'
        cases parts
        exact ⟨rfl, cleanSecond, cleanLast⟩
      · cases parts
    · cases parts
  · rintro ⟨rfl, cleanMiddle, cleanBack⟩
    simp only [splitLast_eq_some.mpr ⟨rfl, cleanBack⟩, splitLast_eq_some.mpr ⟨rfl, cleanMiddle⟩]
    rfl

end LastSeparator

/-! ### Signers -/

/-- A signer: the mark of each payload it does not refuse has no separator in it. -/
structure Signer (Symbol : Type) where
  separator : Symbol
  mark : List Symbol → Option (List Symbol)
  separator_notMem : ∀ {payload found}, mark payload = some found → separator ∉ found

namespace Signer

open LastSeparator

variable {Symbol : Type} [DecidableEq Symbol] (signer : Signer Symbol)

/-- A payload with its mark. -/
def sign (payload : List Symbol) : Option (List Symbol) :=
  (signer.mark payload).map fun found => payload ++ signer.separator :: found

/-- The payload of a token whose mark is right. -/
def verify (token : List Symbol) : Option (List Symbol) := do
  let (payload, found) ← splitLast signer.separator token
  if signer.mark payload = some found then return payload else none

/-- Exactly what was signed is verified. -/
theorem verify_eq_some {token payload : List Symbol} :
    signer.verify token = some payload ↔ signer.sign payload = some token := by
  simp only [verify, sign, Option.bind_eq_bind, Option.bind_eq_some_iff, Option.map_eq_some_iff,
    Prod.exists]
  constructor
  · rintro ⟨front, back, split, found⟩
    split_ifs at found with right
    obtain rfl := Option.some.inj found
    exact ⟨back, right, (splitLast_eq_some.mp split).1.symm⟩
  · rintro ⟨found, marked, rfl⟩
    refine ⟨payload, found, splitLast_eq_some.mpr ⟨rfl, signer.separator_notMem marked⟩, ?_⟩
    rw [if_pos marked]
    rfl

/-- A token tells its payload. -/
theorem sign_inj {first second token : List Symbol} (signed : signer.sign first = some token)
    (signed' : signer.sign second = some token) : first = second :=
  Option.some.inj ((signer.verify_eq_some.mpr signed).symm.trans
    (signer.verify_eq_some.mpr signed'))

end Signer
