/-
This file builds tables with a unique index on a nullable column: rows that have
a key have distinct ones, and rows without a key conflict with nothing. Rows are
only added, at the end, so what a table held it holds for good.

A writer admits one row at a time and is refused when the key is taken. Two
writers on one table are the rows of one absorbed between the rows of the other.
-/

import Mathlib.Data.List.Nodup

/-- Rows whose keys, where they have one, are distinct. -/
structure UniqueIndex {Key Row : Type} (keyOf : Row → Option Key) where
  rows : List Row
  nodup : (rows.filterMap keyOf).Nodup

namespace UniqueIndex

variable {Key Row : Type} {keyOf : Row → Option Key}

/-- The keys of a table. -/
def keys (table : UniqueIndex keyOf) : List Key := table.rows.filterMap keyOf

/-- The table without rows. -/
def empty : UniqueIndex keyOf := ⟨[], List.nodup_nil⟩

theorem mem_keys_of_append {table grown : UniqueIndex keyOf} {rows : List Row}
    (added : grown.rows = table.rows ++ rows) {key : Key} :
    key ∈ grown.keys ↔ key ∈ table.keys ∨ key ∈ rows.filterMap keyOf := by
  rw [keys, added, List.filterMap_append, List.mem_append, keys]

variable [DecidableEq Key]

/-- A key of a table is the key of exactly one of its rows. -/
theorem length_filter_eq_one (table : UniqueIndex keyOf) {key : Key} (member : key ∈ table.keys) :
    (table.rows.filter fun row => keyOf row = some key).length = 1 := by
  have counted : ∀ rows : List Row,
      (rows.filter fun row => keyOf row = some key).length = (rows.filterMap keyOf).count key := by
    intro rows
    induction rows with
    | nil => rfl
    | cons row rest inductionHypothesis =>
      cases found : keyOf row with
      | none => simp [found, inductionHypothesis]
      | some other => by_cases same : other = key <;> simp [found, same, inductionHypothesis]
  rw [counted]
  exact List.count_eq_one_of_mem table.nodup member

/-! ### Admitting a row -/

/-- Add a row, unless its key is taken. -/
def tryAdd (table : UniqueIndex keyOf) (row : Row) : Option (UniqueIndex keyOf) :=
  match keyed : keyOf row with
  | none => some ⟨table.rows ++ [row], by simpa [keyed] using table.nodup⟩
  | some key =>
    if taken : key ∈ table.keys then none
    else some ⟨table.rows ++ [row], by
      rw [List.filterMap_append, List.filterMap_cons_some keyed, List.filterMap_nil,
        ← List.concat_eq_append]
      exact table.nodup.concat taken⟩

theorem rows_tryAdd {table admitted : UniqueIndex keyOf} {row : Row}
    (added : table.tryAdd row = some admitted) : admitted.rows = table.rows ++ [row] := by
  unfold tryAdd at added
  split at added
  · rw [← Option.some.inj added]
  · split at added
    · exact absurd added (by simp)
    · rw [← Option.some.inj added]

theorem tryAdd_eq_none {table : UniqueIndex keyOf} {row : Row} :
    table.tryAdd row = none ↔ ∃ key ∈ table.keys, keyOf row = some key := by
  unfold tryAdd
  split
  · next keyed => simp [keyed]
  · next key keyed =>
    split
    · next taken => exact ⟨fun _ => ⟨key, taken, keyed⟩, fun _ => rfl⟩
    · next untaken =>
      refine iff_of_false (by simp) ?_
      rintro ⟨other, member, same⟩
      rw [keyed, Option.some.injEq] at same
      rw [same] at untaken
      exact untaken member

theorem mem_keys_tryAdd {table admitted : UniqueIndex keyOf} {row : Row}
    (added : table.tryAdd row = some admitted) {key : Key} :
    key ∈ admitted.keys ↔ key ∈ table.keys ∨ keyOf row = some key := by
  rw [mem_keys_of_append (rows_tryAdd added)]
  simp

/-! ### Another writer -/

/-- The table after another writer has tried to add some rows. -/
def absorb (table : UniqueIndex keyOf) (rows : List Row) : UniqueIndex keyOf :=
  rows.foldl (fun table row => (table.tryAdd row).getD table) table

theorem absorb_cons (table : UniqueIndex keyOf) (row : Row) (rest : List Row) :
    table.absorb (row :: rest) = ((table.tryAdd row).getD table).absorb rest := rfl

/-- Another writer only adds rows, and only its own. -/
theorem rows_absorb (table : UniqueIndex keyOf) (rows : List Row) :
    ∃ taken : List Row, (∀ row ∈ taken, row ∈ rows) ∧
      (table.absorb rows).rows = table.rows ++ taken := by
  induction rows generalizing table with
  | nil => exact ⟨[], by simp, (List.append_nil _).symm⟩
  | cons row rest inductionHypothesis =>
    obtain ⟨taken, own, grown⟩ := inductionHypothesis ((table.tryAdd row).getD table)
    rw [← absorb_cons] at grown
    cases added : table.tryAdd row with
    | none =>
      rw [added, Option.getD_none] at grown
      exact ⟨taken, fun other member => List.mem_cons_of_mem _ (own other member), grown⟩
    | some admitted =>
      rw [added, Option.getD_some, rows_tryAdd added, List.append_assoc] at grown
      refine ⟨row :: taken, ?_, grown⟩
      intro other member
      rcases List.mem_cons.mp member with rfl | later
      · exact List.mem_cons_self
      · exact List.mem_cons_of_mem _ (own other later)

/-- Whatever another writer tries to add is there afterwards, by it or from before. -/
theorem mem_keys_absorb {table : UniqueIndex keyOf} {rows : List Row} {key : Key} :
    key ∈ (table.absorb rows).keys ↔ key ∈ table.keys ∨ key ∈ rows.filterMap keyOf := by
  induction rows generalizing table with
  | nil => simp [absorb]
  | cons row rest inductionHypothesis =>
    have step : key ∈ ((table.tryAdd row).getD table).keys ↔
        key ∈ table.keys ∨ keyOf row = some key := by
      cases added : table.tryAdd row with
      | none =>
        obtain ⟨taken, member, keyed⟩ := tryAdd_eq_none.mp added
        rw [Option.getD_none, keyed, Option.some.injEq]
        constructor
        · exact .inl
        · rintro (old | rfl)
          · exact old
          · exact member
      | some admitted => exact mem_keys_tryAdd added
    rw [absorb_cons, inductionHypothesis, step, or_assoc, List.mem_filterMap, List.mem_filterMap]
    simp only [List.mem_cons, exists_eq_or_imp]

end UniqueIndex
