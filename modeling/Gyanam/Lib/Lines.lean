/-
This file builds the lines of a text as Python's `splitlines` has them. Besides
line feeds and carriage returns, other separators end a line there. A text that
was put together from lines is split into them again, but each line is split
further at the separators in it.
-/

import Gyanam.Lib.Json
import Mathlib.Data.List.Basic

namespace Lines

open Json (CodePoint Text)

/-! ### Boundaries -/

def lineFeed : CodePoint := Json.point 0xA

def carriageReturn : CodePoint := Json.point 0xD

/-- The separators that end a line besides line feeds and carriage returns. -/
def isSeparator (point : CodePoint) : Bool :=
  point.val ∈ [0xB, 0xC, 0x1C, 0x1D, 0x1E, 0x85, 0x2028, 0x2029]

/-- Does a code point end a line? -/
def isBoundary (point : CodePoint) : Bool :=
  decide (point = lineFeed) || decide (point = carriageReturn) || isSeparator point

/-- A text on one line, up to separators. -/
def OnOneLine (chars : Text) : Prop := lineFeed ∉ chars ∧ carriageReturn ∉ chars

instance (chars : Text) : Decidable (OnOneLine chars) :=
  inferInstanceAs (Decidable (_ ∧ _))

/-- The lines of what follows a part of a line. After a carriage return a line feed ends no second
line. -/
def splitFrom (afterReturn : Bool) (current : Text) : Text → List Text
  | [] => if current = [] then [] else [current]
  | point :: rest =>
    if afterReturn && decide (point = lineFeed) then splitFrom false current rest
    else if isBoundary point then current :: splitFrom (decide (point = carriageReturn)) [] rest
    else splitFrom false (current ++ [point]) rest

/-- The lines of a text. -/
def splitLines (chars : Text) : List Text := splitFrom false [] chars

/-- Lines have no boundaries in them. -/
theorem isBoundary_of_mem_splitFrom {afterReturn : Bool} {current chars line : Text}
    (plain : ∀ point ∈ current, isBoundary point = false)
    (member : line ∈ splitFrom afterReturn current chars) :
    ∀ point ∈ line, isBoundary point = false := by
  induction chars generalizing afterReturn current with
  | nil =>
    rw [splitFrom] at member
    split at member
    next => cases member
    next => exact List.mem_singleton.mp member ▸ plain
  | cons point rest inductionHypothesis =>
    rw [splitFrom] at member
    split at member
    next => exact inductionHypothesis plain member
    next =>
      split at member
      next =>
        rcases List.mem_cons.mp member with rfl | later
        · exact plain
        · exact inductionHypothesis (by simp) later
      next inside =>
        refine inductionHypothesis (fun other listed => ?_) member
        rcases List.mem_append.mp listed with old | new
        · exact plain other old
        · rw [List.mem_singleton.mp new]
          exact Bool.eq_false_iff.mpr inside

theorem isBoundary_of_mem_splitLines {chars line : Text} (member : line ∈ splitLines chars) :
    ∀ point ∈ line, isBoundary point = false :=
  isBoundary_of_mem_splitFrom (by simp) member

/-! ### Texts put together from lines -/

theorem modifyHead_nil_append {Item : Type} (parts : List (List Item)) :
    parts.modifyHead ([] ++ ·) = parts := by
  cases parts <;> rfl

/-- How a line ends. -/
inductive Ending where
  | lf
  | cr
  | crlf
  deriving DecidableEq, Repr

/-- The text of a line ending. -/
def Ending.text : Ending → Text
  | .lf => [lineFeed]
  | .cr => [carriageReturn]
  | .crlf => [carriageReturn, lineFeed]

/-- Does a line ending end with a carriage return? -/
def Ending.endsWithReturn (ending : Ending) : Bool := decide (ending = .cr)

/-- A line is split at its separators, and then the rest of the text is. -/
theorem splitFrom_line (ending : Ending) {line : Text} (onOneLine : OnOneLine line)
    (current rest : Text) :
    splitFrom false current (line ++ (ending.text ++ rest)) =
      (line.splitOnP isSeparator).modifyHead (current ++ ·) ++
        splitFrom ending.endsWithReturn [] rest := by
  induction line generalizing current with
  | nil =>
    rw [List.splitOnP_nil, List.nil_append]
    cases ending <;>
      simp [Ending.text, Ending.endsWithReturn, splitFrom, isBoundary, lineFeed, carriageReturn,
        Json.point]
  | cons point line inductionHypothesis =>
    obtain ⟨noFeed, noReturn⟩ := onOneLine
    rw [List.mem_cons, not_or] at noFeed noReturn
    have later : OnOneLine line := ⟨noFeed.2, noReturn.2⟩
    have boundary : isBoundary point = isSeparator point := by
      simp [isBoundary, Ne.symm noFeed.1, Ne.symm noReturn.1]
    rw [List.cons_append, splitFrom, Bool.false_and, if_neg Bool.false_ne_true, boundary,
      List.splitOnP_cons_eq_if_modifyHead]
    split
    next separator =>
      rw [decide_eq_false (Ne.symm noReturn.1), inductionHypothesis later, modifyHead_nil_append]
      simp
    next =>
      rw [inductionHypothesis later, List.modifyHead_modifyHead]
      simp [Function.comp_def]

/-- After a carriage return, a text that starts with no line feed is split as always. -/
theorem splitFrom_afterReturn {chars : Text} (noFeed : chars.head? ≠ some lineFeed) :
    splitFrom true [] chars = splitFrom false [] chars := by
  cases chars with
  | nil => rfl
  | cons point rest =>
    have other : point ≠ lineFeed := fun same => noFeed (same ▸ rfl)
    rw [splitFrom, splitFrom, Bool.true_and, decide_eq_false other, Bool.false_and]

/-- A text put together from lines is split into them, and each at its separators. -/
theorem splitLines_flatMap (ending : Ending) {lines : List Text}
    (onOneLine : ∀ line ∈ lines, OnOneLine line) :
    splitLines (lines.flatMap fun line => line ++ ending.text) =
      lines.flatMap fun line => line.splitOnP isSeparator := by
  have after : ∀ afterReturn, (afterReturn = true → ending = .cr) →
      splitFrom afterReturn [] (lines.flatMap fun line => line ++ ending.text) =
        lines.flatMap fun line => line.splitOnP isSeparator := by
    induction lines with
    | nil => exact fun _ _ => rfl
    | cons line rest inductionHypothesis =>
      obtain ⟨first, others⟩ := List.forall_mem_cons.mp onOneLine
      intro afterReturn ends
      have start : splitFrom afterReturn []
            ((line :: rest).flatMap fun line => line ++ ending.text) =
          splitFrom false [] ((line :: rest).flatMap fun line => line ++ ending.text) := by
        cases afterReturn with
        | false => rfl
        | true =>
          refine splitFrom_afterReturn ?_
          rw [ends rfl, List.flatMap_cons]
          cases line with
          | nil => simp [Ending.text, carriageReturn, lineFeed, Json.point]
          | cons point _ =>
            intro same
            exact first.1 (Option.some.inj same ▸ List.mem_cons_self)
      rw [start, List.flatMap_cons, List.append_assoc, splitFrom_line ending first,
        inductionHypothesis others ending.endsWithReturn fun ends => of_decide_eq_true ends,
        List.flatMap_cons, modifyHead_nil_append]
  exact after false nofun

/-- What is in a part of a text is in the text. -/
theorem mem_of_mem_splitOnP {Item : Type} {separates : Item → Bool} {items part : List Item}
    (listed : part ∈ items.splitOnP separates) {item : Item} (member : item ∈ part) :
    item ∈ items := by
  induction items generalizing part with
  | nil =>
    rw [List.splitOnP_nil, List.mem_singleton] at listed
    exact absurd (listed ▸ member) List.not_mem_nil
  | cons first rest inductionHypothesis =>
    rw [List.splitOnP_cons_eq_if_modifyHead] at listed
    split at listed
    next =>
      rcases List.mem_cons.mp listed with rfl | later
      · cases member
      · exact List.mem_cons_of_mem _ (inductionHypothesis later member)
    next =>
      obtain ⟨head, tail, parts⟩ := List.exists_cons_of_ne_nil (List.splitOnP_ne_nil separates rest)
      rw [parts, List.modifyHead_cons] at listed
      rcases List.mem_cons.mp listed with rfl | later
      · rcases List.mem_cons.mp member with rfl | inside
        · exact List.mem_cons_self
        · refine List.mem_cons_of_mem _ (inductionHypothesis ?_ inside)
          exact parts ▸ List.mem_cons_self
      · refine List.mem_cons_of_mem _ (inductionHypothesis ?_ member)
        exact parts ▸ List.mem_cons_of_mem _ later

/-- A part of a text has no separators in it. -/
theorem separates_of_mem_splitOnP {Item : Type} {separates : Item → Bool} {items part : List Item}
    (listed : part ∈ items.splitOnP separates) : ∀ item ∈ part, separates item = false := by
  induction items generalizing part with
  | nil =>
    rw [List.splitOnP_nil, List.mem_singleton] at listed
    simp [listed]
  | cons first rest inductionHypothesis =>
    rw [List.splitOnP_cons_eq_if_modifyHead] at listed
    split at listed
    next =>
      rcases List.mem_cons.mp listed with rfl | later
      · simp
      · exact inductionHypothesis later
    next inside =>
      obtain ⟨head, tail, parts⟩ := List.exists_cons_of_ne_nil (List.splitOnP_ne_nil separates rest)
      rw [parts, List.modifyHead_cons] at listed
      rcases List.mem_cons.mp listed with rfl | later
      · rw [List.forall_mem_cons]
        exact ⟨Bool.eq_false_iff.mpr inside, inductionHypothesis (parts ▸ List.mem_cons_self)⟩
      · exact inductionHypothesis (parts ▸ List.mem_cons_of_mem _ later)

/-- What no separator is in front of a text belongs to its first part. -/
theorem splitOnP_append {Item : Type} {separates : Item → Bool} {front : List Item}
    (plain : ∀ item ∈ front, separates item = false) (items : List Item) :
    (front ++ items).splitOnP separates =
      (items.splitOnP separates).modifyHead (front ++ ·) := by
  induction front with
  | nil => exact (modifyHead_nil_append _).symm
  | cons first rest inductionHypothesis =>
    obtain ⟨head, tail⟩ := List.forall_mem_cons.mp plain
    rw [List.cons_append, List.splitOnP_cons_eq_if_modifyHead, head, if_neg Bool.false_ne_true,
      inductionHypothesis tail, List.modifyHead_modifyHead]
    rfl

/-- What holds of the parts and of what stands between them holds of the whole. -/
theorem forall_mem_intercalate {Item : Type} {Holds : Item → Prop} {separator : List Item}
    {parts : List (List Item)} (between : ∀ item ∈ separator, Holds item)
    (all : ∀ part ∈ parts, ∀ item ∈ part, Holds item) :
    ∀ item ∈ List.intercalate separator parts, Holds item := by
  induction parts with
  | nil => simp
  | cons first rest inductionHypothesis =>
    obtain ⟨own, others⟩ := List.forall_mem_cons.mp all
    cases rest with
    | nil => simpa using own
    | cons second later =>
      rw [List.intercalate_cons_cons, List.forall_mem_append, List.forall_mem_append]
      exact ⟨⟨own, between⟩, inductionHypothesis others⟩

end Lines
