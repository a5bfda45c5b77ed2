/-
This file builds keyed tables: finitely many rows, each filed under its own
primary key. The rows are a list and the uniqueness of the keys is a field, so a
table with two rows of one key cannot be built. The operations are those of a
relational store and of an insertion-ordered dictionary: look a key up, delete
the rows with a property, rewrite the rows with a property, insert or update on
conflict, and count.

A program's statements are read back through `get`, the lookup of one key, and
through `matching`, the set of keys whose row has a property. Every operation
has one lemma for each of the two views, and a count is the size of a `matching`
set, so a proof about a program never opens the list of rows.
-/

import Mathlib.Data.Finset.Card
import Mathlib.Data.Finset.Option
import Mathlib.Data.List.Nodup
import Mathlib.Data.List.Dedup

/-- Rows filed under distinct keys. -/
structure Table (Key Row : Type) where
  rows : List (Key × Row)
  nodup : (rows.map Prod.fst).Nodup

namespace Table

variable {Key Row : Type}

/-! ### Tables and their keys -/

/-- The table without rows. -/
def empty : Table Key Row := ⟨[], List.nodup_nil⟩

instance : Inhabited (Table Key Row) := ⟨empty⟩

/-- The keys of a table, in the order of its rows. -/
def keys (table : Table Key Row) : List Key := table.rows.map Prod.fst

theorem nodup_keys (table : Table Key Row) : table.keys.Nodup := table.nodup

/-- The table with one row for each key of a list of distinct keys. -/
def ofKeys (keys : List Key) (distinct : keys.Nodup) (row : Key → Row) : Table Key Row where
  rows := keys.map fun key => (key, row key)
  nodup := by simpa [List.map_map, Function.comp_def] using distinct

@[simp] theorem keys_ofKeys (keys : List Key) (distinct : keys.Nodup) (row : Key → Row) :
    (ofKeys keys distinct row).keys = keys := by
  simp [Table.keys, ofKeys, Function.comp_def]

/-- Delete the rows with a property. -/
def deleteWhere (table : Table Key Row) (gone : Key → Row → Bool) : Table Key Row where
  rows := table.rows.filter fun entry => !gone entry.1 entry.2
  nodup := table.nodup.sublist (List.filter_sublist.map Prod.fst)

/-- Rewrite the rows with a property in place. -/
def updateWhere (table : Table Key Row) (chosen : Key → Row → Bool) (rewrite : Row → Row) :
    Table Key Row where
  rows := table.rows.map fun entry =>
    (entry.1, if chosen entry.1 entry.2 then rewrite entry.2 else entry.2)
  nodup := by simpa [List.map_map, Function.comp_def] using table.nodup

@[simp] theorem keys_updateWhere (table : Table Key Row) (chosen : Key → Row → Bool)
    (rewrite : Row → Row) : (table.updateWhere chosen rewrite).keys = table.keys := by
  simp [keys, updateWhere, Function.comp_def]

/-- How many rows have a property. -/
def count (table : Table Key Row) (chosen : Key → Row → Bool) : Nat :=
  (table.rows.filter fun entry => chosen entry.1 entry.2).length

section Lookup

variable [DecidableEq Key]

/-- The row of a key. -/
def get (table : Table Key Row) (key : Key) : Option Row := table.rows.lookup key

theorem mem_rows_of_get {table : Table Key Row} {key : Key} {row : Row}
    (found : table.get key = some row) : (key, row) ∈ table.rows := by
  obtain ⟨before, after, split, _⟩ := List.lookup_eq_some_iff.mp found
  rw [split]
  exact List.mem_append_right _ List.mem_cons_self

/-- A row list of distinct keys returns each of its rows. -/
theorem lookup_of_mem {rows : List (Key × Row)} (distinct : (rows.map Prod.fst).Nodup)
    {key : Key} {row : Row} (member : (key, row) ∈ rows) : rows.lookup key = some row := by
  induction rows with
  | nil => exact absurd member List.not_mem_nil
  | cons entry rest inductionHypothesis =>
    rw [List.map_cons, List.nodup_cons] at distinct
    rcases List.mem_cons.mp member with rfl | later
    · rw [List.lookup_cons_self]
    · have other : (key == entry.1) = false := by
        rw [beq_eq_false_iff_ne]
        intro same
        exact distinct.1 (List.mem_map.mpr ⟨(key, row), later, same⟩)
      rw [List.lookup_cons, other]
      exact inductionHypothesis distinct.2 later

theorem get_eq_some_iff {table : Table Key Row} {key : Key} {row : Row} :
    table.get key = some row ↔ (key, row) ∈ table.rows :=
  ⟨mem_rows_of_get, lookup_of_mem table.nodup⟩

theorem get_eq_none_iff {table : Table Key Row} {key : Key} :
    table.get key = none ↔ key ∉ table.keys := by
  rw [Option.eq_none_iff_forall_ne_some, keys, List.mem_map]
  constructor
  · rintro absent ⟨⟨_, row⟩, member, rfl⟩
    exact absent row (get_eq_some_iff.mpr member)
  · intro absent row found
    exact absent ⟨(key, row), mem_rows_of_get found, rfl⟩

theorem mem_keys_iff {table : Table Key Row} {key : Key} :
    key ∈ table.keys ↔ ∃ row, table.get key = some row := by
  rw [← not_iff_not, ← get_eq_none_iff, Option.eq_none_iff_forall_ne_some, not_exists]

@[simp] theorem get_empty (key : Key) : (empty : Table Key Row).get key = none := rfl

theorem get_ofKeys {keys : List Key} (distinct : keys.Nodup) (row : Key → Row) {key : Key}
    (member : key ∈ keys) : (ofKeys keys distinct row).get key = some (row key) :=
  get_eq_some_iff.mpr (List.mem_map.mpr ⟨key, member, rfl⟩)

/-! ### Looking up after an operation -/

/-- A deletion keeps the row of a key when the row lacks the property. -/
theorem get_deleteWhere (table : Table Key Row) (gone : Key → Row → Bool) (key : Key) :
    (table.deleteWhere gone).get key = (table.get key).filter fun row => !gone key row := by
  ext row
  rw [Option.filter_eq_some_iff, get_eq_some_iff, get_eq_some_iff]
  exact List.mem_filter

theorem get_updateWhere (table : Table Key Row) (chosen : Key → Row → Bool) (rewrite : Row → Row)
    (key : Key) :
    (table.updateWhere chosen rewrite).get key =
      (table.get key).map fun row => if chosen key row then rewrite row else row := by
  ext row
  rw [Option.map_eq_some_iff, get_eq_some_iff, updateWhere]
  simp only [List.mem_map, Prod.mk.injEq, Prod.exists, get_eq_some_iff]
  constructor
  · rintro ⟨_, old, member, rfl, rfl⟩
    exact ⟨old, member, rfl⟩
  · rintro ⟨old, member, rfl⟩
    exact ⟨key, old, member, rfl, rfl⟩

theorem get_updateWhere_eq_none_iff {table : Table Key Row} {chosen : Key → Row → Bool}
    {rewrite : Row → Row} {key : Key} :
    (table.updateWhere chosen rewrite).get key = none ↔ table.get key = none := by
  rw [get_updateWhere, Option.map_eq_none_iff]

/-! ### Insertion -/

/-- File a row under a key that has none. -/
def insertNew (table : Table Key Row) (key : Key) (row : Row) (absent : table.get key = none) :
    Table Key Row where
  rows := table.rows ++ [(key, row)]
  nodup := by
    rw [List.map_append, List.nodup_append]
    refine ⟨table.nodup, List.nodup_singleton _, ?_⟩
    intro old member new fresh same
    rw [List.map_singleton, List.mem_singleton] at fresh
    rw [same, fresh] at member
    exact get_eq_none_iff.mp absent member

theorem get_insertNew (table : Table Key Row) (key : Key) (row : Row)
    (absent : table.get key = none) (other : Key) :
    (table.insertNew key row absent).get other =
      if other = key then some row else table.get other := by
  ext value
  rw [get_eq_some_iff, insertNew, List.mem_append, List.mem_singleton, Prod.mk.injEq]
  split
  · next same =>
    subst same
    rw [← get_eq_some_iff, absent]
    simp [eq_comm]
  · next different =>
    rw [get_eq_some_iff]
    simp [different]

/-- Insert a row, or rewrite the row that is there when it passes the guard. -/
def upsert (table : Table Key Row) (key : Key) (row : Row) (guard : Row → Bool)
    (rewrite : Row → Row) : Table Key Row :=
  if absent : table.get key = none then table.insertNew key row absent
  else table.updateWhere (fun other old => decide (other = key) && guard old) rewrite

theorem get_upsert (table : Table Key Row) (key : Key) (row : Row) (guard : Row → Bool)
    (rewrite : Row → Row) (other : Key) :
    (table.upsert key row guard rewrite).get other =
      if other = key then
        match table.get key with
        | none => some row
        | some old => if guard old then some (rewrite old) else some old
      else table.get other := by
  unfold upsert
  split
  · next absent =>
    rw [get_insertNew, absent]
  · next present =>
    rw [get_updateWhere]
    by_cases same : other = key
    · subst same
      obtain ⟨old, found⟩ := Option.ne_none_iff_exists'.mp present
      rw [if_pos rfl, found, Option.map_some]
      cases passes : guard old <;> simp [passes]
    · rw [if_neg same]
      cases table.get other <;> simp [same]

/-- File a row under a key, in place of the one that is there. -/
def set (table : Table Key Row) (key : Key) (row : Row) : Table Key Row :=
  table.upsert key row (fun _ => true) fun _ => row

theorem get_set (table : Table Key Row) (key : Key) (row : Row) (other : Key) :
    (table.set key row).get other = if other = key then some row else table.get other := by
  rw [set, get_upsert]
  cases table.get key <;> rfl

theorem rows_set_of_absent {table : Table Key Row} {key : Key} (absent : key ∉ table.keys)
    (row : Row) : (table.set key row).rows = table.rows ++ [(key, row)] := by
  unfold set upsert
  rw [dif_pos (get_eq_none_iff.mpr absent)]
  rfl

theorem keys_set_of_absent {table : Table Key Row} {key : Key} (absent : key ∉ table.keys)
    (row : Row) : (table.set key row).keys = table.keys ++ [key] := by
  rw [keys, rows_set_of_absent absent, List.map_append]
  rfl

theorem keys_set_of_mem {table : Table Key Row} {key : Key} (member : key ∈ table.keys)
    (row : Row) : (table.set key row).keys = table.keys := by
  unfold set upsert
  rw [dif_neg (mt get_eq_none_iff.mp (not_not_intro member)), keys_updateWhere]

/-- Rows that are filed one after the other under keys of their own stand in that order. -/
theorem rows_foldl_set {entries : List (Key × Row)} (table : Table Key Row)
    (distinct : (table.keys ++ entries.map Prod.fst).Nodup) :
    (entries.foldl (fun table entry => table.set entry.1 entry.2) table).rows =
      table.rows ++ entries := by
  induction entries generalizing table with
  | nil => rw [List.foldl_nil, List.append_nil]
  | cons entry rest inductionHypothesis =>
    rw [List.map_cons, List.append_cons] at distinct
    have fresh : entry.1 ∉ table.keys := by
      have keys := (List.nodup_append.mp distinct).1
      rw [List.nodup_append] at keys
      exact fun filed => keys.2.2 entry.1 filed entry.1 (List.mem_singleton.mpr rfl) rfl
    have keys := keys_set_of_absent fresh entry.2
    rw [List.foldl_cons, inductionHypothesis _ (keys ▸ distinct), rows_set_of_absent fresh,
      List.append_assoc]
    rfl

/-- Of a key that some entries have, the row is theirs after they were filed. -/
theorem get_foldl_set {entries : List (Key × Row)} (table : Table Key Row)
    (distinct : (entries.map Prod.fst).Nodup) (key : Key) :
    (entries.foldl (fun table entry => table.set entry.1 entry.2) table).get key =
      (entries.lookup key).or (table.get key) := by
  induction entries generalizing table with
  | nil => rfl
  | cons entry rest inductionHypothesis =>
    rw [List.map_cons, List.nodup_cons] at distinct
    rw [List.foldl_cons, inductionHypothesis _ distinct.2, get_set, List.lookup_cons]
    by_cases same : key = entry.1
    · have later : rest.lookup key = none := by
        rw [List.lookup_eq_none_iff]
        intro other member
        rw [bne_iff_ne]
        exact fun alike => distinct.1 (List.mem_map.mpr ⟨other, member, alike.symm.trans same⟩)
      rw [if_pos same, later, Option.none_or, same, beq_self_eq_true]
      rfl
    · rw [if_neg same, beq_eq_false_iff_ne.mpr same]

/-- What was filed last under a key of its own is found there. -/
theorem get_foldl_set_of_mem {Entry : Type} {entries : List Entry} (table : Table Key Row)
    {key : Entry → Key} (row : Entry → Row) (distinct : (entries.map key).Nodup) {entry : Entry}
    (member : entry ∈ entries) :
    (entries.foldl (fun table entry => table.set (key entry) (row entry)) table).get (key entry) =
      some (row entry) := by
  have keys : ((entries.map fun entry => (key entry, row entry)).map Prod.fst).Nodup := by
    simpa [Function.comp_def] using distinct
  have filed := get_foldl_set table keys (key entry)
  rw [List.foldl_map, lookup_of_mem keys (List.mem_map.mpr ⟨entry, member, rfl⟩),
    Option.some_or] at filed
  exact filed

/-- Under another key nothing changes. -/
theorem get_foldl_set_of_notMem {Entry : Type} {entries : List Entry} (table : Table Key Row)
    {key : Entry → Key} (row : Entry → Row) {other : Key} (absent : other ∉ entries.map key) :
    (entries.foldl (fun table entry => table.set (key entry) (row entry)) table).get other =
      table.get other := by
  induction entries generalizing table with
  | nil => rfl
  | cons entry rest inductionHypothesis =>
    rw [List.map_cons, List.mem_cons, not_or] at absent
    rw [List.foldl_cons, inductionHypothesis _ absent.2, get_set, if_neg absent.1]

/-- Remove the row of a key. -/
def remove (table : Table Key Row) (key : Key) : Table Key Row :=
  table.deleteWhere fun other _ => decide (other = key)

theorem get_remove (table : Table Key Row) (key other : Key) :
    (table.remove key).get other = if other = key then none else table.get other := by
  rw [remove, get_deleteWhere]
  by_cases same : other = key
  · subst same
    cases table.get other <;> simp
  · cases table.get other <;> simp [same]

/-! ### The keys whose row has a property -/

/-- The keys whose row has a property. -/
def matching (table : Table Key Row) (chosen : Key → Row → Bool) : Finset Key :=
  ((table.rows.filter fun entry => chosen entry.1 entry.2).map Prod.fst).toFinset

@[simp] theorem mem_matching {table : Table Key Row} {chosen : Key → Row → Bool} {key : Key} :
    key ∈ table.matching chosen ↔ ∃ row, table.get key = some row ∧ chosen key row := by
  simp only [matching, List.mem_toFinset, List.mem_map, List.mem_filter, Prod.exists,
    get_eq_some_iff]
  constructor
  · rintro ⟨_, row, ⟨member, holds⟩, rfl⟩
    exact ⟨row, member, holds⟩
  · rintro ⟨row, member, holds⟩
    exact ⟨key, row, ⟨member, holds⟩, rfl⟩

/-- A count is the size of the set of matching keys. -/
theorem count_eq_card_matching (table : Table Key Row) (chosen : Key → Row → Bool) :
    table.count chosen = (table.matching chosen).card := by
  rw [matching, List.toFinset_card_of_nodup, List.length_map, count]
  exact table.nodup.sublist (List.filter_sublist.map Prod.fst)

end Lookup

end Table
