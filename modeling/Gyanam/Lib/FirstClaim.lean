/-
This file builds the claiming of keys by the first who has them. Entries may have
a key. Groups of entries come one after the other, and an entry of a group is
fresh when no group before has an entry of its key; entries without a key are
always fresh. In a single list, the first item of each key is kept, and so are
the entries that have none.

What a group claims and what it had to claim are the same keys, so the keys that
are taken are those of all groups so far.
-/

import Mathlib.Data.List.Nodup
import Mathlib.Data.List.Pairwise

namespace FirstClaim

variable {Item Entry Key : Type}

/-! ### Groups of entries -/

/-- The keys of some entries. -/
def keys (keyOf : Entry → Option Key) (entries : List Entry) : List Key := entries.filterMap keyOf

theorem mem_keys {keyOf : Entry → Option Key} {entries : List Entry} {key : Key} :
    key ∈ keys keyOf entries ↔ ∃ entry ∈ entries, keyOf entry = some key :=
  List.mem_filterMap

theorem keys_cons (keyOf : Entry → Option Key) (entry : Entry) (rest : List Entry) :
    keys keyOf (entry :: rest) = keys keyOf [entry] ++ keys keyOf rest := by
  rw [keys, keys, keys, ← List.filterMap_append, List.singleton_append]

variable [DecidableEq Key]

/-- The entries whose key, if they have one, is not taken. -/
def fresh (keyOf : Entry → Option Key) (taken : List Key) (entries : List Entry) : List Entry :=
  entries.filter fun entry => (keyOf entry).all fun key => decide (key ∉ taken)

variable {keyOf : Entry → Option Key}

theorem mem_fresh {taken : List Key} {entries : List Entry} {entry : Entry} :
    entry ∈ fresh keyOf taken entries ↔
      entry ∈ entries ∧ ∀ key, keyOf entry = some key → key ∉ taken := by
  rw [fresh, List.mem_filter, Option.all_eq_true]
  simp only [decide_eq_true_eq]

/-- What is fresh depends only on which keys are taken. -/
theorem fresh_congr {taken taken' : List Key} {entries : List Entry}
    (same : ∀ key ∈ keys keyOf entries, key ∈ taken ↔ key ∈ taken') :
    fresh keyOf taken entries = fresh keyOf taken' entries := by
  refine List.filter_congr fun entry member => ?_
  cases found : keyOf entry with
  | none => rfl
  | some key =>
    simp only [Option.all_some, same key (mem_keys.mpr ⟨entry, member, found⟩)]

/-- If the same entries are fresh, the keys of the group are taken alike. -/
theorem mem_iff_of_fresh_eq {taken taken' : List Key} {entries : List Entry}
    (same : fresh keyOf taken entries = fresh keyOf taken' entries) {key : Key}
    (member : key ∈ keys keyOf entries) : key ∈ taken ↔ key ∈ taken' := by
  obtain ⟨entry, listed, found⟩ := mem_keys.mp member
  have alike : entry ∈ fresh keyOf taken entries ↔ entry ∈ fresh keyOf taken' entries := by
    rw [same]
  simp only [mem_fresh, listed, found, Option.some.injEq, forall_eq', true_and] at alike
  exact not_iff_not.mp alike

/-- The fewer keys are taken, the more is fresh. -/
theorem fresh_subset {taken taken' : List Key} {entries : List Entry} (fewer : taken ⊆ taken') :
    fresh keyOf taken' entries ⊆ fresh keyOf taken entries := fun entry member => by
  rw [mem_fresh] at member ⊢
  exact ⟨member.1, fun key found old => member.2 key found (fewer old)⟩

/-- A group that claims its fresh keys leaves all its keys taken. -/
theorem mem_append_keys_fresh {taken : List Key} {entries : List Entry} {key : Key} :
    key ∈ taken ++ keys keyOf (fresh keyOf taken entries) ↔
      key ∈ taken ∨ key ∈ keys keyOf entries := by
  rw [List.mem_append]
  constructor
  · rintro (old | claimed)
    · exact .inl old
    · obtain ⟨entry, listed, found⟩ := mem_keys.mp claimed
      exact .inr (mem_keys.mpr ⟨entry, (mem_fresh.mp listed).1, found⟩)
  · rintro (old | owned)
    · exact .inl old
    · by_cases old : key ∈ taken
      · exact .inl old
      · obtain ⟨entry, listed, found⟩ := mem_keys.mp owned
        refine .inr (mem_keys.mpr ⟨entry, mem_fresh.mpr ⟨listed, fun other same => ?_⟩, found⟩)
        rw [found, Option.some.injEq] at same
        exact same ▸ old

/-! ### Items with the items before them -/

/-- What holds of each item of a list with the items before it. -/
def Each (holds : List Item → Item → Prop) (items : List Item) : Prop :=
  ∀ before item after, items = before ++ item :: after → holds before item

theorem each_nil (holds : List Item → Item → Prop) : Each holds [] :=
  fun _ _ _ split => absurd split.symm (by simp)

theorem each_cons {holds : List Item → Item → Prop} {first : Item} {rest : List Item} :
    Each holds (first :: rest) ↔
      holds [] first ∧ Each (fun before item => holds (first :: before) item) rest := by
  constructor
  · intro each
    exact ⟨each [] first rest rfl, fun before item after split =>
      each (first :: before) item after (congrArg (first :: ·) split)⟩
  · rintro ⟨head, tail⟩ before item after split
    cases before with
    | nil =>
      obtain ⟨rfl, -⟩ := List.cons.inj split
      exact head
    | cons other before =>
      obtain ⟨rfl, later⟩ := List.cons.inj split
      exact tail before item after later

theorem each_concat {holds : List Item → Item → Prop} {items : List Item} {last : Item} :
    Each holds (items ++ [last]) ↔ Each holds items ∧ holds items last := by
  constructor
  · intro each
    refine ⟨fun before item after split => ?_, each items last [] rfl⟩
    exact each before item (after ++ [last]) (by rw [split, List.append_assoc, List.cons_append])
  · rintro ⟨each, holds⟩ before item after split
    rcases List.eq_nil_or_concat after with rfl | ⟨after, other, rfl⟩
    · obtain ⟨rfl, same⟩ := List.append_inj' split rfl
      obtain rfl := List.singleton_inj.mp same
      exact holds
    · rw [List.concat_eq_append, ← List.cons_append, ← List.append_assoc] at split
      obtain ⟨rfl, -⟩ := List.append_inj' split rfl
      exact each before item after rfl
/-- If something holds of an item, there is a first such item. -/
theorem exists_first {holds : Item → Prop} [DecidablePred holds] {items : List Item} {owner : Item}
    (member : owner ∈ items) (held : holds owner) :
    ∃ before item after, items = before ++ item :: after ∧ holds item ∧
      ∀ earlier ∈ before, ¬ holds earlier := by
  cases found : items.find? fun item => decide (holds item) with
  | none => exact absurd (decide_eq_true held) (List.find?_eq_none.mp found owner member)
  | some item =>
    obtain ⟨here, before, after, split, others⟩ := List.find?_eq_some_iff_append.mp found
    exact ⟨before, item, after, split, of_decide_eq_true here, fun earlier listed =>
      of_decide_eq_false ((Bool.not_eq_true' _).mp (others earlier listed))⟩

/-! ### The first item of each key -/

/-- The first item of each key, in order. -/
def firsts (key : Item → Key) : List Item → List Item
  | [] => []
  | item :: rest => item :: (firsts key rest).filter fun other => decide (key other ≠ key item)

/-- The first items of keys that are not taken. -/
theorem filter_firsts_cons (key : Item → Key) (taken : Key → Prop) [DecidablePred taken]
    (item : Item) (rest : List Item) :
    (firsts key (item :: rest)).filter (fun other => decide (¬ taken (key other))) =
      if taken (key item) then (firsts key rest).filter fun other => decide (¬ taken (key other))
      else item :: (firsts key rest).filter fun other =>
        decide (¬ (taken (key other) ∨ key other = key item)) := by
  rw [firsts, List.filter_cons, List.filter_filter]
  by_cases old : taken (key item)
  · rw [if_neg (by simpa using old), if_pos old]
    refine List.filter_congr fun other _ => ?_
    rw [← Bool.decide_and, decide_eq_decide]
    exact and_iff_left_of_imp fun free same => free (same ▸ old)
  · rw [if_pos (decide_eq_true old), if_neg old]
    refine congrArg (item :: ·) (List.filter_congr fun other _ => ?_)
    rw [← Bool.decide_and, decide_eq_decide, not_or]

theorem firsts_sublist (key : Item → Key) (items : List Item) :
    (firsts key items).Sublist items := by
  induction items with
  | nil => exact List.Sublist.refl _
  | cons item rest inductionHypothesis =>
    exact (List.filter_sublist.trans inductionHypothesis).cons_cons item

theorem firsts_nodup (key : Item → Key) (items : List Item) :
    ((firsts key items).map key).Nodup := by
  induction items with
  | nil => exact List.nodup_nil
  | cons item rest inductionHypothesis =>
    rw [firsts, List.map_cons, List.nodup_cons]
    refine ⟨?_, inductionHypothesis.sublist (List.filter_sublist.map key)⟩
    rw [List.mem_map]
    rintro ⟨other, member, same⟩
    exact of_decide_eq_true (List.mem_filter.mp member).2 same

/-- Every key keeps an item. -/
theorem mem_map_firsts {key : Item → Key} {items : List Item} {value : Key} :
    value ∈ (firsts key items).map key ↔ value ∈ items.map key := by
  induction items with
  | nil => rfl
  | cons item rest inductionHypothesis =>
    rw [firsts, List.map_cons, List.map_cons, List.mem_cons, List.mem_cons]
    by_cases same : value = key item
    · simp [same]
    · rw [or_iff_right same, or_iff_right same, ← inductionHypothesis, List.mem_map, List.mem_map]
      refine exists_congr fun other => ?_
      rw [List.mem_filter, and_assoc]
      refine and_congr_right fun _ => and_iff_right_of_imp fun found => ?_
      exact decide_eq_true (found ▸ same)

/-- An item that no earlier one shares its key with is kept. -/
theorem mem_firsts {key : Item → Key} {before after : List Item} {item : Item}
    (first : ∀ earlier ∈ before, key earlier ≠ key item) :
    item ∈ firsts key (before ++ item :: after) := by
  induction before with
  | nil => exact List.mem_cons_self
  | cons earlier rest inductionHypothesis =>
    obtain ⟨head, tail⟩ := List.forall_mem_cons.mp first
    exact List.mem_cons_of_mem _ (List.mem_filter.mpr
      ⟨inductionHypothesis tail, decide_eq_true head.symm⟩)

/-! ### The first entry of each key, and the entries without one -/

theorem fresh_append (taken : List Key) (first second : List Entry) :
    fresh keyOf taken (first ++ second) = fresh keyOf taken first ++ fresh keyOf taken second :=
  List.filter_append ..

/-- What is fresh beside some keys and beside others is fresh beside all of them. -/
theorem fresh_fresh (first second : List Key) (entries : List Entry) :
    fresh keyOf first (fresh keyOf second entries) = fresh keyOf (first ++ second) entries := by
  rw [fresh, fresh, fresh, List.filter_filter]
  refine List.filter_congr fun entry _ => ?_
  cases keyOf entry with
  | none => rfl
  | some key => simp only [Option.all_some, List.mem_append, not_or, Bool.decide_and]

theorem mem_keys_fresh {taken : List Key} {entries : List Entry} {key : Key} :
    key ∈ keys keyOf (fresh keyOf taken entries) ↔ key ∈ keys keyOf entries ∧ key ∉ taken := by
  rw [mem_keys, mem_keys]
  constructor
  · rintro ⟨entry, member, found⟩
    obtain ⟨listed, free⟩ := mem_fresh.mp member
    exact ⟨⟨entry, listed, found⟩, free key found⟩
  · rintro ⟨⟨entry, listed, found⟩, free⟩
    refine ⟨entry, mem_fresh.mpr ⟨listed, fun other same => ?_⟩, found⟩
    rwa [← Option.some.inj (found.symm.trans same)]

/-- The entries without a key and the first entry of each key, in order. -/
def claimed (keyOf : Entry → Option Key) : List Entry → List Entry
  | [] => []
  | entry :: rest => entry :: fresh keyOf (keys keyOf [entry]) (claimed keyOf rest)

/-- Of entries that come later, those are kept whose key is not taken then. -/
theorem claimed_append (first second : List Entry) :
    claimed keyOf (first ++ second) =
      claimed keyOf first ++ fresh keyOf (keys keyOf first) (claimed keyOf second) := by
  induction first with
  | nil =>
    refine (List.filter_eq_self.mpr fun entry _ => ?_).symm
    cases keyOf entry <;> simp [keys]
  | cons entry rest inductionHypothesis =>
    rw [List.cons_append, claimed, inductionHypothesis, fresh_append, fresh_fresh, ← keys_cons,
      claimed, List.cons_append]

/-- A last entry is kept when its key, if it has one, is not taken. -/
theorem claimed_concat_of_fresh {entries : List Entry} {entry : Entry}
    (free : ∀ key, keyOf entry = some key → key ∉ keys keyOf entries) :
    claimed keyOf (entries ++ [entry]) = claimed keyOf entries ++ [entry] := by
  rw [claimed_append, claimed, claimed]
  refine congrArg (claimed keyOf entries ++ ·) (List.filter_eq_self.mpr ?_)
  intro other member
  obtain rfl := List.mem_singleton.mp member
  exact Option.all_eq_true _ _ |>.mpr fun key found => decide_eq_true (free key found)

/-- A last entry is not kept when its key is taken. -/
theorem claimed_concat_of_taken {entries : List Entry} {entry : Entry} {key : Key}
    (found : keyOf entry = some key) (taken : key ∈ keys keyOf entries) :
    claimed keyOf (entries ++ [entry]) = claimed keyOf entries := by
  rw [claimed_append, claimed, claimed]
  refine List.append_right_eq_self.mpr (List.filter_eq_nil_iff.mpr ?_)
  intro other member
  obtain rfl := List.mem_singleton.mp member
  rw [found, Option.all_some, decide_eq_true_eq]
  exact not_not.mpr taken

/-- Every key keeps an entry. -/
theorem mem_keys_claimed {entries : List Entry} {key : Key} :
    key ∈ keys keyOf (claimed keyOf entries) ↔ key ∈ keys keyOf entries := by
  induction entries with
  | nil => exact Iff.rfl
  | cons entry rest inductionHypothesis =>
    rw [claimed, keys_cons, List.mem_append, mem_keys_fresh, inductionHypothesis,
      keys_cons keyOf entry rest, List.mem_append]
    refine ⟨Or.imp id And.left, fun either => ?_⟩
    by_cases taken : key ∈ keys keyOf [entry]
    · exact .inl taken
    · exact .inr ⟨either.resolve_left taken, taken⟩

/-- No key is kept twice. -/
theorem claimed_nodup (entries : List Entry) : (keys keyOf (claimed keyOf entries)).Nodup := by
  induction entries with
  | nil => exact List.nodup_nil
  | cons entry rest inductionHypothesis =>
    rw [claimed, keys_cons]
    refine List.nodup_append'.mpr ⟨?_, ?_, fun key taken later => ?_⟩
    · rw [keys, List.filterMap_cons, List.filterMap_nil]
      cases keyOf entry with
      | none => exact List.nodup_nil
      | some key => exact List.nodup_singleton key
    · exact inductionHypothesis.sublist (List.filter_sublist.filterMap _)
    · exact (mem_keys_fresh.mp later).2 taken

/-- Every entry is kept, or another one of its key. -/
theorem mem_claimed {entries : List Entry} {entry : Entry} (member : entry ∈ entries) :
    entry ∈ claimed keyOf entries ∨
      ∃ key, keyOf entry = some key ∧ ∃ kept ∈ claimed keyOf entries, keyOf kept = some key := by
  induction entries with
  | nil => cases member
  | cons first rest inductionHypothesis =>
    cases found : keyOf entry with
    | some key =>
      exact .inr ⟨key, rfl, mem_keys.mp
        (mem_keys_claimed.mpr (mem_keys.mpr ⟨entry, member, found⟩))⟩
    | none =>
      rw [claimed, List.mem_cons]
      obtain same | later := List.mem_cons.mp member
      · exact .inl (.inl same)
      · obtain kept | ⟨key, keyed, -⟩ := inductionHypothesis later
        · refine .inl (.inr (mem_fresh.mpr ⟨kept, fun key keyed => ?_⟩))
          rw [found] at keyed
          cases keyed
        · rw [found] at keyed
          cases keyed

end FirstClaim
