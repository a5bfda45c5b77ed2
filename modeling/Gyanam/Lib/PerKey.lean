/-
This file is about loops that treat the keys of a collection one by one. The
state has a view at every key, and the body of the loop acts on the view at the
key of its item and on no other. What such a loop does to the view at a key is
what the items of that key do, whatever other items come between them. A loop
over items of distinct keys acts once on the view at each of their keys, in
whatever order they come.
-/

import Gyanam.Lib.Table

/-- A loop body acts on the key of its item: it changes the view there by an action, and the views
at the other keys not at all. -/
def ActsOn {State Item Key View : Type} [DecidableEq Key] (view : State → Key → View)
    (body : State → Item → State) (key : Item → Key) (act : Item → View → View) : Prop :=
  ∀ state item other, view (body state item) other =
    if other = key item then act item (view state other) else view state other

namespace ActsOn

variable {State Item Key View : Type} [DecidableEq Key] {view : State → Key → View}

section Items

variable {body : State → Item → State} {key : Item → Key} {act : Item → View → View}

theorem intro
    (own : ∀ state item, view (body state item) (key item) = act item (view state (key item)))
    (others : ∀ state item other, other ≠ key item →
      view (body state item) other = view state other) : ActsOn view body key act := by
  intro state item other
  split
  · next same => rw [same, own]
  · next different => exact others state item other different

/-- What a loop makes of the view at a key is what its items of that key make of it, in their
order. -/
theorem view_foldl (acts : ActsOn view body key act) (items : List Item) (state : State)
    (other : Key) :
    view (items.foldl body state) other =
      (items.filter fun item => decide (key item = other)).foldl (fun seen item => act item seen)
        (view state other) := by
  induction items generalizing state with
  | nil => rfl
  | cons item rest inductionHypothesis =>
    rw [List.foldl_cons, inductionHypothesis, acts]
    by_cases same : key item = other
    · rw [if_pos same.symm, List.filter_cons_of_pos (by simpa using same), List.foldl_cons]
    · rw [if_neg (Ne.symm same), List.filter_cons_of_neg (by simpa using same)]

/-- A loop leaves the view at a key that none of its items has. -/
theorem foldl_of_not_mem (acts : ActsOn view body key act) {items : List Item} {other : Key}
    (absent : other ∉ items.map key) (state : State) :
    view (items.foldl body state) other = view state other := by
  induction items generalizing state with
  | nil => rfl
  | cons item rest inductionHypothesis =>
    rw [List.map_cons, List.mem_cons, not_or] at absent
    rw [List.foldl_cons, inductionHypothesis absent.2, acts, if_neg absent.1]

/-- A loop over items of distinct keys acts once on the view at the key of each. -/
theorem foldl_of_mem (acts : ActsOn view body key act) {items : List Item}
    (distinct : (items.map key).Nodup) {item : Item} (member : item ∈ items) (state : State) :
    view (items.foldl body state) (key item) = act item (view state (key item)) := by
  induction items generalizing state with
  | nil => exact absurd member List.not_mem_nil
  | cons head rest inductionHypothesis =>
    rw [List.map_cons, List.nodup_cons] at distinct
    rw [List.foldl_cons]
    rcases List.mem_cons.mp member with rfl | later
    · rw [acts.foldl_of_not_mem distinct.1, acts, if_pos rfl]
    · have different : key item ≠ key head := by
        intro same
        exact distinct.1 (same ▸ List.mem_map_of_mem later)
      rw [inductionHypothesis distinct.2 later, acts, if_neg different]

end Items

/-- A loop over distinct keys. -/
theorem foldl_keys {body : State → Key → State} {act : Key → View → View}
    (acts : ActsOn view body id act) {keys : List Key} (distinct : keys.Nodup) (state : State)
    (key : Key) :
    view (keys.foldl body state) key =
      if key ∈ keys then act key (view state key) else view state key := by
  have distinct' : (keys.map id).Nodup := by rwa [List.map_id]
  split
  · next member => exact acts.foldl_of_mem distinct' member state
  · next absent =>
    refine acts.foldl_of_not_mem ?_ state
    rwa [List.map_id]

/-- A loop over those of distinct keys that have a property. -/
theorem foldl_filter {body : State → Key → State} {act : Key → View → View}
    (acts : ActsOn view body id act) {keys : List Key} (distinct : keys.Nodup)
    (chosen : Key → Bool) (state : State) (key : Key) :
    view ((keys.filter chosen).foldl body state) key =
      if key ∈ keys ∧ chosen key = true then act key (view state key) else view state key := by
  rw [acts.foldl_keys (distinct.sublist List.filter_sublist)]
  simp only [List.mem_filter]

/-- A loop over the rows of a table. -/
theorem foldl_rows {Row : Type} {body : State → Key × Row → State}
    {act : Key × Row → View → View} (acts : ActsOn view body Prod.fst act)
    (table : Table Key Row) (state : State) (key : Key) :
    view (table.rows.foldl body state) key =
      match table.get key with
      | some row => act (key, row) (view state key)
      | none => view state key := by
  cases found : table.get key with
  | none => exact acts.foldl_of_not_mem (Table.get_eq_none_iff.mp found) state
  | some row => exact acts.foldl_of_mem table.nodup (Table.mem_rows_of_get found) state

end ActsOn
