/-
This file proves what names the members of an archive get. Whatever path a member
has, its file is a direct child of the directory: the name has no slash, and it is
neither empty nor one of the names of the directory itself and of its parent. The
name is free, so no file is overwritten. The loop over numbered names ends, for
among one more of them than there are files one is free.
-/

import Gyanam.Lib.FirstFree
import Gyanam.Unpacker

namespace Gyanam

open Json (Text CodePoint)

/-- What separates the parts of a path. -/
abbrev slash : CodePoint := Json.point '/'.toNat

/-- The names of the directory itself and of its parent. -/
def ownNames : List Text := [[], Json.text ".", Json.text ".."]

/-- A name of a file that is a direct child of the directory. -/
def IsChild (name : Text) : Prop := slash ∉ name ∧ name ∉ ownNames

/-- The names that exist already. -/
def existing (directory : Directory) : List Text := ownNames ++ directory.keys

/-! ### Names without slashes -/

theorem slash_notMem_basename (path : Text) : slash ∉ Strings.basename path := by
  intro member
  rw [Strings.basename, List.mem_reverse] at member
  have other := List.mem_takeWhile_imp member
  exact of_decide_eq_true other rfl

theorem slash_notMem_pathName (path : Text) : slash ∉ Strings.pathName path := by
  unfold Strings.pathName
  cases last : ((Strings.split slash path).filter fun part =>
      decide (part ≠ [] ∧ part ≠ Json.text ".")).getLast? with
  | none => exact List.not_mem_nil
  | some part =>
    exact Strings.notMem_of_mem_split (List.mem_of_mem_filter (List.mem_of_getLast? last))

theorem slash_notMem_stem {name : Text} (plain : slash ∉ name) : slash ∉ Strings.stem name :=
  fun member => plain (List.mem_of_mem_take member)

theorem slash_notMem_suffix {name : Text} (plain : slash ∉ name) : slash ∉ Strings.suffix name :=
  fun member => plain (List.mem_of_mem_drop member)

/-! ### Numbered names -/

/-- The digits of a number as characters of a text. -/
theorem text_toString (number : Nat) :
    Json.text (toString number) = (Nat.toDigits 10 number).map fun char =>
      Json.point char.toNat := by
  rw [Json.text, Nat.toString_eq_repr, Nat.toList_repr]

theorem slash_notMem_numbered {stem suffix : Text} (plainStem : slash ∉ stem)
    (plainSuffix : slash ∉ suffix) (counter : Nat) :
    slash ∉ numberedName stem suffix counter := by
  have digits : ∀ digit < 10, Json.point (Nat.digitChar digit).toNat ≠ slash := by decide
  intro member
  rw [numberedName, text_toString] at member
  simp only [List.mem_append, List.mem_map] at member
  rcases member with ((inStem | mark) | ⟨char, inside, same⟩) | inSuffix
  · exact plainStem inStem
  · exact absurd mark (by decide)
  · obtain ⟨digit, small, rfl⟩ := Strings.digitChar_of_mem_toDigits inside
    exact digits digit small same
  · exact plainSuffix inSuffix

/-- A numbered name has an underscore, and none of the directory's own names has. -/
theorem numberedName_notMem_ownNames (stem suffix : Text) (counter : Nat) :
    numberedName stem suffix counter ∉ ownNames := by
  have plain : ∀ name ∈ ownNames, Json.point '_'.toNat ∉ name := by decide
  have mark : Json.point '_'.toNat ∈ numberedName stem suffix counter :=
    List.mem_append_left _ (List.mem_append_left _ (List.mem_append_right _ (by decide)))
  exact fun own => plain _ own mark

theorem numberedName_injective (stem suffix : Text) :
    Function.Injective (numberedName stem suffix) := by
  intro first second same
  have digits := List.append_cancel_left (List.append_cancel_right same)
  rw [text_toString, text_toString] at digits
  have chars := List.map_injective_iff.mpr Strings.point_toNat_injective digits
  rw [← Nat.ofDigitChars_ten_toDigits (n := first), chars, Nat.ofDigitChars_ten_toDigits]

/-! ### The name for a member -/

section Names

variable {readers : BlobReaders} {directory : Directory}

theorem mem_existing {name : Text} :
    name ∈ existing directory ↔
      name = [] ∨ name = Json.text "." ∨ name = Json.text ".." ∨ (directory.get name).isSome := by
  have filed : (directory.get name).isSome = true ↔ name ∈ directory.keys := by
    rw [Option.isSome_iff_exists, Table.mem_keys_iff]
  rw [filed, existing, List.mem_append, ownNames]
  simp only [List.mem_cons, List.not_mem_nil, or_false, or_assoc]

theorem pathExists_start (name : Text) :
    (pathExists readers name).start directory =
      if readers.nameError name = some .os then (.error (.library .os), directory)
      else (.ok (decide (name ∈ existing directory)), directory) := by
  unfold pathExists
  by_cases refused : readers.nameError name = some .os
  · rw [if_pos refused]
    simp only [refused]
    rfl
  · rw [if_neg refused, decide_eq_decide.mpr mem_existing]
    simp only [refused]
    rfl

/-- Among one more numbered names than there are files, one is free. -/
theorem exists_free_numbered (directory : Directory) (stem suffix : Text) :
    ∃ offset < directory.rows.length + 1,
      numberedName stem suffix (1 + offset) ∉ directory.keys := by
  have size : directory.keys.length = directory.rows.length := List.length_map _
  rw [← size]
  exact FirstFree.exists_free (numberedName_injective stem suffix) directory.keys 1

theorem numberedName_mem_existing {stem suffix : Text} {counter : Nat} :
    numberedName stem suffix counter ∈ existing directory ↔
      numberedName stem suffix counter ∈ directory.keys := by
  rw [existing, List.mem_append]
  exact or_iff_right (numberedName_notMem_ownNames stem suffix counter)

/-- Where a free name comes within the tries, more tries change nothing. -/
theorem freeName_add {stem suffix : Text} {tries counter : Nat}
    (free : ∃ offset < tries, numberedName stem suffix (counter + offset) ∉ directory.keys)
    (more : Nat) :
    (freeName readers stem suffix (tries + more) counter).start directory =
      (freeName readers stem suffix tries counter).start directory := by
  induction tries generalizing counter with
  | zero =>
    obtain ⟨offset, none, _⟩ := free
    exact absurd none (Nat.not_lt_zero offset)
  | succ tries inductionHypothesis =>
    rw [Nat.add_right_comm, freeName, freeName, Attempt.start_bind, Attempt.start_bind,
      pathExists_start]
    by_cases refused : readers.nameError (numberedName stem suffix counter) = some .os
    · rw [if_pos refused]
    · rw [if_neg refused]
      by_cases taken : numberedName stem suffix counter ∈ existing directory
      · have later := FirstFree.free_of_taken (numberedName_mem_existing.mp taken) free
        simp only [taken, decide_true, if_true]
        exact inductionHypothesis later
      · simp only [taken, decide_false, Bool.false_eq_true, if_false]

/-- What the loop over numbered names comes to: the first free one, unless the file system refuses
it. The files there are were not refused. -/
theorem freeName_start (accepted : ∀ name ∈ directory.keys, readers.nameError name = none)
    {stem suffix : Text} {tries counter : Nat}
    (free : ∃ offset < tries, numberedName stem suffix (counter + offset) ∉ directory.keys)
    {name : Text}
    (chosen : numberedName stem suffix (FirstFree.firstFree directory.keys
      (numberedName stem suffix) tries counter) = name) :
    (freeName readers stem suffix tries counter).start directory =
      if readers.nameError name = some .os then (.error (.library .os), directory)
      else (.ok name, directory) := by
  induction tries generalizing counter with
  | zero =>
    obtain ⟨offset, none, _⟩ := free
    exact absurd none (Nat.not_lt_zero offset)
  | succ tries inductionHypothesis =>
    rw [freeName, Attempt.start_bind, pathExists_start]
    rw [FirstFree.firstFree] at chosen
    by_cases taken : numberedName stem suffix counter ∈ directory.keys
    · rw [if_pos taken] at chosen
      have known := numberedName_mem_existing.mpr taken
      rw [accepted _ taken, if_neg (Option.some_ne_none _).symm]
      simp only [known, decide_true, if_true]
      exact inductionHypothesis (FirstFree.free_of_taken taken free) chosen
    · rw [if_neg taken] at chosen
      subst chosen
      have unknown := mt numberedName_mem_existing.mp taken
      by_cases refused : readers.nameError (numberedName stem suffix counter) = some .os
      · rw [if_pos refused, if_pos refused]
      · rw [if_neg refused, if_neg refused]
        simp only [unknown, decide_false, Bool.false_eq_true, if_false]
        rfl

/-- The name for a member: its own if it does not exist, else the first numbered one that is
free. -/
def chosenName (directory : Directory) (basename numbered : Text) : Text :=
  if basename ∈ existing directory then
    numberedName (Strings.stem numbered) (Strings.suffix numbered)
      (FirstFree.firstFree directory.keys
        (numberedName (Strings.stem numbered) (Strings.suffix numbered))
        (directory.rows.length + 1) 1)
  else basename

theorem chooseName_start (accepted : ∀ name ∈ directory.keys, readers.nameError name = none)
    (basename numbered : Text) :
    (chooseName readers basename numbered).start directory =
      if readers.nameError basename = some .os ∨
          readers.nameError (chosenName directory basename numbered) = some .os then
        (.error (.library .os), directory)
      else (.ok (chosenName directory basename numbered), directory) := by
  rw [chooseName, Attempt.start_bind, pathExists_start, chosenName]
  by_cases refused : readers.nameError basename = some .os
  · rw [if_pos refused, if_pos (Or.inl refused)]
  · by_cases present : basename ∈ existing directory
    · simp only [present, refused, decide_true, if_true, if_false, false_or]
      rw [Attempt.start_bind, Attempt.start_get]
      exact freeName_start accepted (exists_free_numbered directory _ _) rfl
    · simp only [present, decide_false, Bool.false_eq_true, if_false, refused, or_self]
      rfl

/-- The chosen name is not there yet. -/
theorem chosenName_notMem (directory : Directory) (basename numbered : Text) :
    chosenName directory basename numbered ∉ existing directory := by
  unfold chosenName
  split
  · exact mt numberedName_mem_existing.mp
      (FirstFree.firstFree_notMem (exists_free_numbered directory _ _))
  · assumption

/-- Made from names without slashes, the chosen name is one of a direct child. -/
theorem isChild_chosenName (directory : Directory) {basename numbered : Text}
    (plain : slash ∉ basename) (plainNumbered : slash ∉ numbered) :
    IsChild (chosenName directory basename numbered) := by
  refine ⟨?_, fun own => chosenName_notMem directory basename numbered
    (List.mem_append_left _ own)⟩
  unfold chosenName
  split
  · exact slash_notMem_numbered (slash_notMem_stem plainNumbered)
      (slash_notMem_suffix plainNumbered) _
  · exact plain

theorem get_chosenName (directory : Directory) (basename numbered : Text) :
    directory.get (chosenName directory basename numbered) = none :=
  Table.get_eq_none_iff.mpr fun filed =>
    chosenName_notMem directory basename numbered (List.mem_append_right _ filed)

/-- The name for a member where some names are taken. -/
def nextName (taken : List Text) (basename numbered : Text) : Text :=
  if basename ∈ ownNames ++ taken then
    numberedName (Strings.stem numbered) (Strings.suffix numbered)
      (FirstFree.firstFree taken
        (numberedName (Strings.stem numbered) (Strings.suffix numbered)) (taken.length + 1) 1)
  else basename

/-- Only the names of the files matter. -/
theorem chosenName_eq (directory : Directory) (basename numbered : Text) :
    chosenName directory basename numbered = nextName directory.keys basename numbered := by
  have size : directory.keys.length = directory.rows.length := List.length_map _
  rw [chosenName, nextName, size]
  rfl

end Names

end Gyanam
