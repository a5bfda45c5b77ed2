/-
This file finds a free name. Candidates are numbered, and the first one that is
not taken is looked for. When the candidates are distinct, one try more than
there are taken names is enough.
-/

import Mathlib.Data.List.Nodup
import Mathlib.Data.List.Perm.Subperm

namespace FirstFree

variable {Name : Type} {taken : List Name} {candidate : Nat → Name}

/-! ### Free candidates -/

/-- Of distinct candidates, one more than there are taken names, one is free. -/
theorem exists_free (distinct : Function.Injective candidate) (taken : List Name) (start : Nat) :
    ∃ offset < taken.length + 1, candidate (start + offset) ∉ taken := by
  by_contra none
  push Not at none
  have shifted : Function.Injective fun offset => candidate (start + offset) :=
    fun _ _ same => Nat.add_left_cancel (distinct same)
  have inside : (List.range (taken.length + 1)).map (fun offset => candidate (start + offset)) ⊆
      taken := by
    intro name member
    obtain ⟨offset, small, rfl⟩ := List.mem_map.mp member
    exact none offset (List.mem_range.mp small)
  have few := (List.subperm_of_subset (List.nodup_range.map shifted) inside).length_le
  rw [List.length_map, List.length_range] at few
  omega

/-- When the first candidate is taken, one of the others is free. -/
theorem free_of_taken {tries start : Nat} (here : candidate start ∈ taken)
    (free : ∃ offset < tries + 1, candidate (start + offset) ∉ taken) :
    ∃ offset < tries, candidate (start + 1 + offset) ∉ taken := by
  obtain ⟨offset, small, absent⟩ := free
  cases offset with
  | zero => exact absurd here absent
  | succ offset => exact ⟨offset, by omega, by rwa [Nat.add_assoc, Nat.add_comm 1]⟩

/-! ### The search -/

variable [DecidableEq Name]

/-- The number of the first candidate that is not taken, from a number on. When the tries are used
up the next number is taken without a look. -/
def firstFree (taken : List Name) (candidate : Nat → Name) : Nat → Nat → Nat
  | 0, number => number
  | tries + 1, number =>
    if candidate number ∈ taken then firstFree taken candidate tries (number + 1) else number

/-- With enough tries a free candidate is found. -/
theorem firstFree_notMem {tries start : Nat}
    (free : ∃ offset < tries, candidate (start + offset) ∉ taken) :
    candidate (firstFree taken candidate tries start) ∉ taken := by
  induction tries generalizing start with
  | zero =>
    obtain ⟨offset, none, _⟩ := free
    exact absurd none (Nat.not_lt_zero offset)
  | succ tries inductionHypothesis =>
    unfold firstFree
    split
    next here => exact inductionHypothesis (free_of_taken here free)
    next here => exact here

end FirstFree
