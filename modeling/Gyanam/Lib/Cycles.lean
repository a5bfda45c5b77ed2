/-
This file cuts a sequence of items into cycles. Two neighbours may lie apart, and
a cycle ends where they do. The current cycle is what came since the most recent
gap, all of the items when there was none.
-/

import Mathlib.Data.List.Basic
import Mathlib.Data.List.Induction

namespace Cycles

variable {Item : Type} (apart : Item → Item → Bool)

/-- The next item joins the cycle, or starts a new one after a gap. -/
def extend (cycle : List Item) (item : Item) : List Item :=
  if cycle.getLast?.any fun last => apart last item then [item] else cycle ++ [item]

/-- The items since the most recent gap. -/
def current (items : List Item) : List Item := items.foldl (extend apart) []

variable {apart}

theorem current_concat (items : List Item) (item : Item) :
    current apart (items ++ [item]) = extend apart (current apart items) item := by
  rw [current, List.foldl_append]
  rfl

/-- The last item is in the current cycle. -/
theorem getLast?_current (items : List Item) :
    (current apart items).getLast? = items.getLast? := by
  induction items using List.reverseRecOn with
  | nil => rfl
  | append_singleton items item _ =>
    rw [current_concat, extend]
    split
    · simp
    · simp

/-- The current cycle ends the sequence. -/
theorem current_suffix (items : List Item) : current apart items <:+ items := by
  induction items using List.reverseRecOn with
  | nil => exact List.suffix_refl []
  | append_singleton items item inductionHypothesis =>
    rw [current_concat, extend]
    split
    · exact List.suffix_append items [item]
    · obtain ⟨before, same⟩ := inductionHypothesis
      exact ⟨before, by rw [← List.append_assoc, same]⟩

end Cycles
