/-
This file models how a batch of alerts is written to the database. The rows of a
batch are built first, one for each key, and those whose key is in the table are
left out. The rest is inserted at once; when a row collides, every row is tried
on its own instead, and one that collides again is skipped. Another writer may
add rows before every one of these inserts.

The file says exactly when a call is a union: when the batch, afterwards, has
every key in the table. It is not one when the event that a key was first seen
on has no row, or a row without a message, which is skipped like a collision.
-/

import Gyanam.Alerts
import Gyanam.Lib.Sorted
import Gyanam.Lib.UniqueIndex
import Mathlib.Data.List.Infix
import Mathlib.Data.List.Perm.Basic

namespace Gyanam

open Json (Text)

variable {Key : Type}

/-! ### Rows -/

/-- A stored alert, as far as the batch writes it. -/
structure AlertRow (Key : Type) where
  targetId : TargetId
  targetName : Text
  targetBmc : Text
  severity : Text
  message : Json
  messageId : Json
  eventType : Json
  originOfCondition : Json
  eventTimestamp : Option Datetime.Reading
  receivedAt : Datetime.Reading
  occurredAt : Datetime.Reading
  dedupKey : Option Key
  rawData : Option (List (Text × Json))
  cperStatus : Option Text

/-- The alerts, under the unique index of their keys. -/
abbrev AlertTable (Key : Type) := UniqueIndex fun row : AlertRow Key => row.dedupKey

/-- What an insert raises: a violated constraint, or any other exception of the driver. -/
inductive StoreError where
  | integrity
  | refused
  deriving DecidableEq, Repr

/-- The columns that must not be null and may be given a null. -/
def AlertRow.filled (row : AlertRow Key) : Bool :=
  match row.message, row.eventType with
  | .null, _ => false
  | _, .null => false
  | _, _ => true

/-! ### Building the rows -/

section Build

variable (str : Json → Text)

/-- Whether a text mentions CPER in any case. Only letters of ASCII lower to its letters. -/
def mentionsCper (chars : Text) : Bool :=
  decide (Json.text "cper" <:+: chars.map fun point =>
    if 'A'.toNat ≤ point.val ∧ point.val ≤ 'Z'.toNat then Json.point (point.val + 32) else point)

/-- Whether the raw event refers to a CPER attachment that can be fetched. -/
def cperEligible : Option (List (Text × Json)) → Bool
  | none => false
  | some raw =>
    let field := fun name => (Json.getMember raw (Json.text name)).getD .null
    let spelled := fun name => if (field name).truthy then str (field name) else []
    (field "AdditionalDataURI").truthy &&
      (mentionsCper (spelled "DiagnosticDataType") || mentionsCper (spelled "Resolution"))

variable (clock : AlertEvent → Datetime.Reading)

/-- The row of an event whose key is known. -/
def prepareRow (key : Key) (event : AlertEvent) : Except AlertError (AlertRow Key) := do
  let eventTs ← (toNaiveUtc event.eventTimestamp).mapError .timestamp
  let arrival ← (toNaiveUtc event.receivedAt).mapError .timestamp
  let received := arrival.getD (clock event)
  let rawEvent := event.raw.filter fun raw => !raw.isEmpty
  return {
    targetId := event.targetId
    targetName := event.targetName
    targetBmc := event.targetBmc
    severity := event.severity
    message := event.message
    messageId := event.messageId
    eventType := event.eventType
    originOfCondition := event.originOfCondition
    eventTimestamp := eventTs
    receivedAt := received
    occurredAt := eventTs.getD received
    dedupKey := some key
    rawData := rawEvent
    cperStatus := if cperEligible str rawEvent then some (Json.text "pending") else none }

theorem dedupKey_prepareRow {key : Key} {event : AlertEvent} {row : AlertRow Key}
    (prepared : prepareRow str clock key event = .ok row) : row.dedupKey = some key := by
  rw [prepareRow] at prepared
  cases eventTs : toNaiveUtc event.eventTimestamp with
  | error error =>
    rw [eventTs] at prepared
    cases prepared
  | ok eventTs' =>
    cases arrival : toNaiveUtc event.receivedAt with
    | error error =>
      rw [eventTs, arrival] at prepared
      cases prepared
    | ok arrival' =>
      rw [eventTs, arrival] at prepared
      rw [← Except.ok.inj prepared]

variable [DecidableEq Key] (sha256 : ByteArray → Key)

/-- The rows of a batch, without the keys seen before. An event that cannot be prepared is left
out, but its key counts as seen. -/
def buildRows (seen : List Key) : List AlertEvent → List (AlertRow Key)
  | [] => []
  | event :: rest =>
    match computeAlertDedupKey sha256 event with
    | .error _ => buildRows seen rest
    | .ok key =>
      if key ∈ seen then buildRows seen rest
      else match prepareRow str clock key event with
        | .error _ => buildRows (key :: seen) rest
        | .ok row => row :: buildRows (key :: seen) rest

/-- An event has a key. -/
def hasKey (key : Key) (event : AlertEvent) : Bool :=
  (computeAlertDedupKey sha256 event).toOption = some key

/-- An event that is prepared without an exception, and its key. -/
def Preparable (key : Key) (event : AlertEvent) : Prop :=
  hasKey sha256 key event ∧ ∃ row, prepareRow str clock key event = .ok row

/-- The row of a key is that of the first event with the key. -/
def RowOf (alerts : List AlertEvent) (key : Key) (row : AlertRow Key) : Prop :=
  ∃ event, alerts.find? (hasKey sha256 key) = some event ∧ prepareRow str clock key event = .ok row

variable {str clock sha256}

theorem hasKey_of_ok {key other : Key} {event : AlertEvent}
    (found : computeAlertDedupKey sha256 event = .ok key) :
    hasKey sha256 other event = decide (key = other) := by
  rw [hasKey, found]
  simp [Except.toOption]

theorem hasKey_of_error {key : Key} {event : AlertEvent} {error : AlertError}
    (failed : computeAlertDedupKey sha256 event = .error error) :
    hasKey sha256 key event = false := by
  rw [hasKey, failed]
  rfl

theorem rowOf_cons {event : AlertEvent} {rest : List AlertEvent} {key : Key} {row : AlertRow Key} :
    RowOf str clock sha256 (event :: rest) key row ↔
      if hasKey sha256 key event then prepareRow str clock key event = .ok row
      else RowOf str clock sha256 rest key row := by
  rw [RowOf, List.find?_cons]
  cases hasKey sha256 key event <;> simp [RowOf]

theorem RowOf.dedupKey {alerts : List AlertEvent} {key : Key} {row : AlertRow Key}
    (made : RowOf str clock sha256 alerts key row) : row.dedupKey = some key := by
  obtain ⟨event, _, prepared⟩ := made
  exact dedupKey_prepareRow str clock prepared

theorem RowOf.event {alerts : List AlertEvent} {key : Key} {row : AlertRow Key}
    (made : RowOf str clock sha256 alerts key row) :
    ∃ event ∈ alerts, hasKey sha256 key event ∧ prepareRow str clock key event = .ok row := by
  obtain ⟨event, found, prepared⟩ := made
  exact ⟨event, List.mem_of_find?_eq_some found, List.find?_some found, prepared⟩

/-- The rows that are built are those of the keys not seen before. -/
theorem mem_buildRows {seen : List Key} {alerts : List AlertEvent} {row : AlertRow Key} :
    row ∈ buildRows str clock sha256 seen alerts ↔
      ∃ key ∉ seen, RowOf str clock sha256 alerts key row := by
  induction alerts generalizing seen with
  | nil => simp [buildRows, RowOf]
  | cons event rest inductionHypothesis =>
    simp only [rowOf_cons]
    cases found : computeAlertDedupKey sha256 event with
    | error error =>
      simp only [buildRows, found, hasKey_of_error found, inductionHypothesis]
      rfl
    | ok key =>
      have split : ∀ other, other ∉ key :: seen ↔ other ∉ seen ∧ ¬ key = other := by
        intro other
        rw [List.mem_cons, not_or, and_comm, eq_comm]
      simp only [buildRows, found, hasKey_of_ok found, decide_eq_true_eq]
      by_cases old : key ∈ seen
      · rw [if_pos old, inductionHypothesis]
        refine exists_congr fun other => and_congr_right fun new => ?_
        rw [if_neg]
        rintro rfl
        exact new old
      · rw [if_neg old]
        cases prepared : prepareRow str clock key event with
        | error error =>
          simp only [inductionHypothesis, split]
          refine exists_congr fun other => ?_
          by_cases same : key = other
          · subst same
            simp [prepared]
          · simp [same]
        | ok made =>
          rw [List.mem_cons, inductionHypothesis]
          simp only [split]
          constructor
          · rintro (rfl | ⟨other, ⟨new, different⟩, later⟩)
            · exact ⟨key, old, by rw [if_pos rfl, prepared]⟩
            · exact ⟨other, new, by rwa [if_neg different]⟩
          · rintro ⟨other, new, made'⟩
            by_cases same : key = other
            · subst same
              rw [if_pos rfl, prepared] at made'
              exact .inl (Except.ok.inj made').symm
            · rw [if_neg same] at made'
              exact .inr ⟨other, ⟨new, same⟩, made'⟩

/-- No two rows have one key. -/
theorem nodup_buildRows (seen : List Key) (alerts : List AlertEvent) :
    ((buildRows str clock sha256 seen alerts).filterMap AlertRow.dedupKey).Nodup := by
  induction alerts generalizing seen with
  | nil => exact List.nodup_nil
  | cons event rest inductionHypothesis =>
    rw [buildRows]
    split
    · exact inductionHypothesis seen
    · next key _ =>
      split
      · exact inductionHypothesis seen
      · split
        · exact inductionHypothesis (key :: seen)
        · next row prepared =>
          rw [List.filterMap_cons_some (dedupKey_prepareRow str clock prepared), List.nodup_cons]
          refine ⟨?_, inductionHypothesis (key :: seen)⟩
          rw [List.mem_filterMap]
          rintro ⟨other, later, keyed⟩
          obtain ⟨otherKey, new, made⟩ := mem_buildRows.mp later
          rw [made.dedupKey, Option.some.injEq] at keyed
          exact new (keyed ▸ List.mem_cons_self)

end Build

/-! ### Inserting the rows -/

section Insert

variable [DecidableEq Key] (refuses : AlertRow Key → Bool)

/-- Insert a row. The driver refuses values it cannot bind; after that, the columns and the index
are checked. -/
def insertRow (table : AlertTable Key) (row : AlertRow Key) : Except StoreError (AlertTable Key) :=
  if refuses row then .error .refused
  else if row.filled then
    match table.tryAdd row with
    | some admitted => .ok admitted
    | none => .error .integrity
  else .error .integrity

/-- What a call leaves and returns. The rows that it inserted are kept for the statements. -/
structure Ingest (Key : Type) where
  table : AlertTable Key
  inserted : List (AlertRow Key)
  result : Except StoreError Nat

/-- The rows that another writer tries to add before the rows are inserted at once, or before the
row of a key is inserted on its own. -/
abbrev Racer (Key : Type) := Option Key → List (AlertRow Key)

/-- Insert row by row, and skip the rows that violate a constraint. -/
def insertEach (racer : Racer Key) :
    List (AlertRow Key) → AlertTable Key → List (AlertRow Key) → Nat → Ingest Key
  | [], table, done, inserted => ⟨table, done, .ok inserted⟩
  | row :: rest, table, done, inserted =>
    let raced := table.absorb (racer row.dedupKey)
    match insertRow refuses raced row with
    | .ok admitted => insertEach racer rest admitted (done ++ [row]) (inserted + 1)
    | .error .integrity => insertEach racer rest raced done inserted
    | .error .refused => ⟨raced, done, .error .refused⟩

/-- Insert rows in one transaction, and row by row when that violates a constraint. -/
def insertRows (racer : Racer Key) (newRows : List (AlertRow Key)) (table : AlertTable Key) :
    Ingest Key :=
  let raced := table.absorb (racer none)
  match newRows.foldlM (insertRow refuses) raced with
  | .ok admitted => ⟨admitted, newRows, .ok newRows.length⟩
  | .error .integrity => insertEach refuses racer newRows raced [] 0
  | .error .refused => ⟨raced, [], .error .refused⟩

/-- The rows whose key is not in the table. The keys are looked up in chunks of bounded size. -/
def newRows (table : AlertTable Key) (rows : List (AlertRow Key)) : List (AlertRow Key) :=
  let candidateKeys := rows.filterMap fun row => row.dedupKey
  let existing := (SortedList.chunks 500 candidateKeys).flatMap fun chunk =>
    table.keys.filter fun key => decide (key ∈ chunk)
  rows.filter fun row => row.dedupKey.all fun key => decide (key ∉ existing)

/-- Persist a batch of alerts, skipping duplicates. -/
def createAlertsBatch (str : Json → Text) (clock : AlertEvent → Datetime.Reading)
    (sha256 : ByteArray → Key) (racer : Racer Key) (alerts : List AlertEvent)
    (table : AlertTable Key) : Ingest Key :=
  if alerts.isEmpty then ⟨table, [], .ok 0⟩
  else
    let rows := buildRows str clock sha256 [] alerts
    if rows.isEmpty then ⟨table, [], .ok 0⟩
    else
      let fresh := newRows table rows
      if fresh.isEmpty then ⟨table, [], .ok 0⟩
      else insertRows refuses racer fresh table

variable {refuses}

/-! ### Inserting, step by step -/

/-- What inserting one row does: the driver refuses it, a constraint does, or it is added. -/
theorem insertRow_cases (refuses : AlertRow Key → Bool) (table : AlertTable Key)
    (row : AlertRow Key) :
    (refuses row = true ∧ insertRow refuses table row = .error .refused) ∨
    (refuses row = false ∧ (row.filled = false ∨ table.tryAdd row = none) ∧
      insertRow refuses table row = .error .integrity) ∨
    (refuses row = false ∧ row.filled = true ∧ ∃ admitted, table.tryAdd row = some admitted ∧
      insertRow refuses table row = .ok admitted) := by
  cases refused : refuses row with
  | true => exact .inl ⟨rfl, by simp [insertRow, refused]⟩
  | false =>
    cases filled : row.filled with
    | false => exact .inr (.inl ⟨rfl, .inl rfl, by simp [insertRow, refused, filled]⟩)
    | true =>
      cases added : table.tryAdd row with
      | none => exact .inr (.inl ⟨rfl, .inr rfl, by simp [insertRow, refused, filled, added]⟩)
      | some admitted =>
        exact .inr (.inr ⟨rfl, rfl, admitted, rfl, by simp [insertRow, refused, filled, added]⟩)

variable {racer : Racer Key}

/-- A table grew out of another by rows of the racer and the rows that were inserted. -/
structure Grown (racer : Racer Key) (start table : AlertTable Key)
    (inserted : List (AlertRow Key)) : Prop where
  kept : start.rows <+: table.rows
  added : ∃ raced : List (AlertRow Key), (∀ row ∈ raced, ∃ moment, row ∈ racer moment) ∧
    table.rows.Perm (start.rows ++ raced ++ inserted)

omit [DecidableEq Key] in
theorem Grown.refl (racer : Racer Key) (table : AlertTable Key) : Grown racer table table [] :=
  ⟨List.prefix_rfl, [], by simp, by simp⟩

theorem Grown.absorb {start table : AlertTable Key} {inserted : List (AlertRow Key)}
    (grown : Grown racer start table inserted) (moment : Option Key) :
    Grown racer start (table.absorb (racer moment)) inserted := by
  obtain ⟨taken, own, rows⟩ := table.rows_absorb (racer moment)
  obtain ⟨raced, foreign, added⟩ := grown.added
  refine ⟨?_, raced ++ taken, ?_, ?_⟩
  · rw [rows]
    exact grown.kept.trans (List.prefix_append _ _)
  · intro row member
    rcases List.mem_append.mp member with early | late
    · exact foreign row early
    · exact ⟨moment, own row late⟩
  · rw [rows]
    refine (added.append_right taken).trans ?_
    simp only [List.append_assoc]
    exact (List.perm_append_comm.append_left raced).append_left start.rows

omit [DecidableEq Key] in
theorem Grown.append {start table admitted : AlertTable Key}
    {inserted newRows : List (AlertRow Key)} (grown : Grown racer start table inserted)
    (rows : admitted.rows = table.rows ++ newRows) :
    Grown racer start admitted (inserted ++ newRows) := by
  obtain ⟨raced, foreign, added⟩ := grown.added
  refine ⟨?_, raced, foreign, ?_⟩
  · rw [rows]
    exact grown.kept.trans (List.prefix_append _ _)
  · rw [rows, ← List.append_assoc]
    exact added.append_right newRows

/-! ### Row by row -/

theorem insertEach_grown {start table : AlertTable Key} {rows done : List (AlertRow Key)}
    {inserted : Nat} (grown : Grown racer start table done) :
    Grown racer start (insertEach refuses racer rows table done inserted).table
      (insertEach refuses racer rows table done inserted).inserted := by
  induction rows generalizing table done inserted with
  | nil => exact grown
  | cons row rest inductionHypothesis =>
    have raced := grown.absorb row.dedupKey
    rcases insertRow_cases refuses (table.absorb (racer row.dedupKey)) row with
      ⟨_, outcome⟩ | ⟨_, _, outcome⟩ | ⟨_, _, admitted, added, outcome⟩
    · simp only [insertEach, outcome]
      exact raced
    · simp only [insertEach, outcome]
      exact inductionHypothesis raced
    · simp only [insertEach, outcome]
      exact inductionHypothesis (raced.append (UniqueIndex.rows_tryAdd added))

theorem mem_insertEach {table : AlertTable Key} {rows done : List (AlertRow Key)} {inserted : Nat}
    {row : AlertRow Key}
    (member : row ∈ (insertEach refuses racer rows table done inserted).inserted) :
    row ∈ done ∨ row ∈ rows := by
  induction rows generalizing table done inserted with
  | nil => exact .inl member
  | cons head rest inductionHypothesis =>
    rcases insertRow_cases refuses (table.absorb (racer head.dedupKey)) head with
      ⟨_, outcome⟩ | ⟨_, _, outcome⟩ | ⟨_, _, admitted, _, outcome⟩
    · simp only [insertEach, outcome] at member
      exact .inl member
    · simp only [insertEach, outcome] at member
      exact (inductionHypothesis member).imp_right (List.mem_cons_of_mem head)
    · simp only [insertEach, outcome] at member
      rcases inductionHypothesis member with early | late
      · rw [List.mem_append, List.mem_singleton] at early
        rcases early with old | rfl
        · exact .inl old
        · exact .inr List.mem_cons_self
      · exact .inr (List.mem_cons_of_mem head late)

/-- The count is that of the inserted rows, unless the driver refuses a row. -/
theorem insertEach_result {table : AlertTable Key} {rows done : List (AlertRow Key)}
    {inserted : Nat} (counted : inserted = done.length) :
    (insertEach refuses racer rows table done inserted).result =
      if rows.any refuses then .error .refused
      else .ok (insertEach refuses racer rows table done inserted).inserted.length := by
  induction rows generalizing table done inserted with
  | nil => rw [counted]; rfl
  | cons row rest inductionHypothesis =>
    rcases insertRow_cases refuses (table.absorb (racer row.dedupKey)) row with
      ⟨refused, outcome⟩ | ⟨taken, _, outcome⟩ | ⟨taken, _, admitted, _, outcome⟩
    · simp [insertEach, outcome, refused]
    · simp only [insertEach, outcome, List.any_cons, taken, Bool.false_or]
      exact inductionHypothesis counted
    · simp only [insertEach, outcome, List.any_cons, taken, Bool.false_or]
      exact inductionHypothesis (by rw [counted, List.length_append, List.length_singleton])

/-- Row by row, every row that the columns take ends up in the table. -/
theorem mem_keys_insertEach {table : AlertTable Key} {rows done : List (AlertRow Key)}
    {inserted : Nat} (taken : rows.any refuses = false) {key : Key} :
    key ∈ (insertEach refuses racer rows table done inserted).table.keys ↔
      key ∈ table.keys ∨ ∃ row ∈ rows,
        key ∈ (racer row.dedupKey).filterMap AlertRow.dedupKey ∨
          row.filled = true ∧ row.dedupKey = some key := by
  induction rows generalizing table done inserted with
  | nil => simp [insertEach]
  | cons row rest inductionHypothesis =>
    rw [List.any_cons, Bool.or_eq_false_iff] at taken
    simp only [List.mem_cons, exists_eq_or_imp]
    rcases insertRow_cases refuses (table.absorb (racer row.dedupKey)) row with
      ⟨refused, _⟩ | ⟨_, kept, outcome⟩ | ⟨_, filled, admitted, added, outcome⟩
    · rw [taken.1] at refused
      exact Bool.noConfusion refused
    · simp only [insertEach, outcome]
      have present : row.filled = true ∧ row.dedupKey = some key →
          key ∈ (table.absorb (racer row.dedupKey)).keys := by
        rintro ⟨filled, keyed⟩
        rcases kept with unfilled | collides
        · rw [filled] at unfilled
          exact Bool.noConfusion unfilled
        · obtain ⟨other, member, keyed'⟩ := UniqueIndex.tryAdd_eq_none.mp collides
          rw [keyed, Option.some.injEq] at keyed'
          exact keyed' ▸ member
      rw [inductionHypothesis taken.2, ← or_assoc, ← or_assoc, ← UniqueIndex.mem_keys_absorb,
        or_iff_left_of_imp present]
    · simp only [insertEach, outcome]
      rw [inductionHypothesis taken.2, UniqueIndex.mem_keys_tryAdd added,
        UniqueIndex.mem_keys_absorb]
      simp only [filled, true_and, or_assoc]

/-! ### All at once, and then row by row -/

/-- Rows that are inserted at once are all taken. -/
theorem foldlM_insertRow_ok {rows : List (AlertRow Key)} {table admitted : AlertTable Key}
    (outcome : rows.foldlM (insertRow refuses) table = .ok admitted) :
    rows.any refuses = false ∧ admitted.rows = table.rows ++ rows := by
  induction rows generalizing table with
  | nil => exact ⟨rfl, by rw [← Except.ok.inj outcome, List.append_nil]⟩
  | cons row rest inductionHypothesis =>
    rw [List.foldlM_cons] at outcome
    rcases insertRow_cases refuses table row with
      ⟨_, first⟩ | ⟨_, _, first⟩ | ⟨taken, _, next, added, first⟩
    · rw [first] at outcome
      cases outcome
    · rw [first] at outcome
      cases outcome
    · rw [first] at outcome
      obtain ⟨restTaken, rows⟩ := inductionHypothesis outcome
      refine ⟨by rw [List.any_cons, taken, restTaken, Bool.or_false], ?_⟩
      rw [rows, UniqueIndex.rows_tryAdd added, List.append_assoc]
      rfl

/-- Rows of distinct keys are inserted at once exactly when each is taken on its own. -/
theorem foldlM_insertRow_ok_iff {rows : List (AlertRow Key)} {table : AlertTable Key}
    (distinct : (rows.filterMap AlertRow.dedupKey).Nodup) (taken : rows.any refuses = false) :
    (∃ admitted, rows.foldlM (insertRow refuses) table = .ok admitted) ↔
      ∀ row ∈ rows, row.filled = true ∧ ∀ key, row.dedupKey = some key → key ∉ table.keys := by
  induction rows generalizing table with
  | nil => simp [pure, Except.pure]
  | cons row rest inductionHypothesis =>
    rw [List.any_cons, Bool.or_eq_false_iff] at taken
    rw [List.foldlM_cons, List.forall_mem_cons]
    rcases insertRow_cases refuses table row with
      ⟨refused, _⟩ | ⟨_, kept, first⟩ | ⟨_, filled, next, added, first⟩
    · rw [taken.1] at refused
      exact Bool.noConfusion refused
    · rw [first]
      refine iff_of_false (by simp [bind, Except.bind]) ?_
      rintro ⟨⟨filled, free⟩, _⟩
      rcases kept with unfilled | collides
      · rw [filled] at unfilled
        exact Bool.noConfusion unfilled
      · obtain ⟨key, member, keyed⟩ := UniqueIndex.tryAdd_eq_none.mp collides
        exact free key keyed member
    · have free : ∀ key, row.dedupKey = some key → key ∉ table.keys := by
        intro key keyed member
        have taken' := UniqueIndex.tryAdd_eq_none.mpr ⟨key, member, keyed⟩
        rw [added] at taken'
        exact Option.some_ne_none _ taken'
      have later : (rest.filterMap AlertRow.dedupKey).Nodup :=
        distinct.sublist ((List.sublist_cons_self row rest).filterMap _)
      rw [first]
      refine (inductionHypothesis later taken.2).trans ?_
      rw [and_iff_right ⟨filled, free⟩]
      refine forall₂_congr fun other member => and_congr_right fun _ => ?_
      refine forall₂_congr fun key keyed => not_congr ?_
      rw [UniqueIndex.mem_keys_tryAdd added, or_iff_left]
      intro same
      rw [List.filterMap_cons_some same, List.nodup_cons] at distinct
      exact distinct.1 (List.mem_filterMap.mpr ⟨other, member, keyed⟩)

theorem foldlM_insertRow_refused {rows : List (AlertRow Key)} {table : AlertTable Key}
    (outcome : rows.foldlM (insertRow refuses) table = .error .refused) :
    rows.any refuses = true := by
  induction rows generalizing table with
  | nil => cases outcome
  | cons row rest inductionHypothesis =>
    rw [List.foldlM_cons] at outcome
    rw [List.any_cons, Bool.or_eq_true]
    rcases insertRow_cases refuses table row with
      ⟨refused, _⟩ | ⟨_, _, first⟩ | ⟨_, _, next, _, first⟩
    · exact .inl refused
    · rw [first] at outcome
      cases outcome
    · rw [first] at outcome
      exact .inr (inductionHypothesis outcome)

/-- The three ways of inserting rows: at once, row by row, or up to a refused row. -/
theorem insertRows_cases (refuses : AlertRow Key → Bool) (racer : Racer Key)
    (rows : List (AlertRow Key)) (table : AlertTable Key) :
    (∃ admitted, rows.foldlM (insertRow refuses) (table.absorb (racer none)) = .ok admitted ∧
      insertRows refuses racer rows table = ⟨admitted, rows, .ok rows.length⟩) ∨
    ((∀ admitted, rows.foldlM (insertRow refuses) (table.absorb (racer none)) ≠ .ok admitted) ∧
      insertRows refuses racer rows table =
        insertEach refuses racer rows (table.absorb (racer none)) [] 0) ∨
    (rows.any refuses = true ∧
      insertRows refuses racer rows table =
        ⟨table.absorb (racer none), [], .error .refused⟩) := by
  cases outcome : rows.foldlM (insertRow refuses) (table.absorb (racer none)) with
  | ok admitted => exact .inl ⟨admitted, rfl, by simp only [insertRows, outcome]⟩
  | error error =>
    cases error with
    | integrity => exact .inr (.inl ⟨by simp, by simp only [insertRows, outcome]⟩)
    | refused =>
      exact .inr (.inr ⟨foldlM_insertRow_refused outcome, by simp only [insertRows, outcome]⟩)

theorem insertRows_grown (rows : List (AlertRow Key)) (table : AlertTable Key) :
    Grown racer table (insertRows refuses racer rows table).table
      (insertRows refuses racer rows table).inserted := by
  have raced := (Grown.refl racer table).absorb none
  rcases insertRows_cases refuses racer rows table with
    ⟨admitted, outcome, same⟩ | ⟨_, same⟩ | ⟨_, same⟩
  · rw [same]
    exact raced.append (foldlM_insertRow_ok outcome).2
  · rw [same]
    exact insertEach_grown raced
  · rw [same]
    exact raced

theorem mem_insertRows {rows : List (AlertRow Key)} {table : AlertTable Key} {row : AlertRow Key}
    (member : row ∈ (insertRows refuses racer rows table).inserted) : row ∈ rows := by
  rcases insertRows_cases refuses racer rows table with
    ⟨admitted, _, same⟩ | ⟨_, same⟩ | ⟨_, same⟩
  · rwa [same] at member
  · rw [same] at member
    exact (mem_insertEach member).resolve_left List.not_mem_nil
  · rw [same] at member
    exact absurd member List.not_mem_nil

theorem insertRows_result (rows : List (AlertRow Key)) (table : AlertTable Key) :
    (insertRows refuses racer rows table).result =
      if rows.any refuses then .error .refused
      else .ok (insertRows refuses racer rows table).inserted.length := by
  rcases insertRows_cases refuses racer rows table with
    ⟨admitted, outcome, same⟩ | ⟨_, same⟩ | ⟨refused, same⟩
  · rw [same, if_neg (by simp [(foldlM_insertRow_ok outcome).1])]
  · rw [same]
    exact insertEach_result rfl
  · rw [same, if_pos refused]

/-- A row is contested that the columns do not take, or whose key another writer adds first. -/
def Contested (racer : Racer Key) (row : AlertRow Key) : Prop :=
  row.filled = false ∨ ∃ key, row.dedupKey = some key ∧
    key ∈ (racer none).filterMap AlertRow.dedupKey

/-- New rows that are each taken on their own, after another writer, are not contested. -/
theorem not_contested_iff {rows : List (AlertRow Key)} {table : AlertTable Key}
    (new : ∀ row ∈ rows, ∀ key, row.dedupKey = some key → key ∉ table.keys) :
    (∀ row ∈ rows, row.filled = true ∧
      ∀ key, row.dedupKey = some key → key ∉ (table.absorb (racer none)).keys) ↔
        ¬ ∃ row ∈ rows, Contested racer row := by
  rw [not_exists]
  refine forall_congr' fun row => ?_
  rw [not_and]
  refine forall_congr' fun member => ?_
  rw [Contested, not_or, Bool.not_eq_false, not_exists]
  refine and_congr_right fun _ => forall_congr' fun other => ?_
  rw [not_and]
  refine forall_congr' fun keyed => ?_
  rw [UniqueIndex.mem_keys_absorb, not_or, and_iff_right (new row member other keyed)]

/-- The keys after new rows are inserted. Other writers get a second chance when one is
contested. -/
theorem mem_keys_insertRows {rows : List (AlertRow Key)} {table : AlertTable Key}
    (distinct : (rows.filterMap AlertRow.dedupKey).Nodup) (taken : rows.any refuses = false)
    (new : ∀ row ∈ rows, ∀ key, row.dedupKey = some key → key ∉ table.keys) {key : Key} :
    key ∈ (insertRows refuses racer rows table).table.keys ↔
      key ∈ table.keys ∨ key ∈ (racer none).filterMap AlertRow.dedupKey ∨
        (∃ row ∈ rows, row.filled = true ∧ row.dedupKey = some key) ∨
        (∃ row ∈ rows, Contested racer row) ∧
          ∃ row ∈ rows, key ∈ (racer row.dedupKey).filterMap AlertRow.dedupKey := by
  have atOnce : (∃ admitted, rows.foldlM (insertRow refuses) (table.absorb (racer none)) =
      .ok admitted) ↔ _ := foldlM_insertRow_ok_iff distinct taken
  rw [not_contested_iff new] at atOnce
  rcases insertRows_cases refuses racer rows table with
    ⟨admitted, outcome, same⟩ | ⟨failed, same⟩ | ⟨refused, _⟩
  · have quiet := atOnce.mp ⟨admitted, outcome⟩
    have filled := (not_contested_iff new).mpr quiet
    rw [same, ← or_assoc, ← UniqueIndex.mem_keys_absorb,
      UniqueIndex.mem_keys_of_append (foldlM_insertRow_ok outcome).2, List.mem_filterMap]
    refine or_congr_right (Iff.trans ?_ (or_iff_left (not_and_of_not_left _ quiet)).symm)
    refine exists_congr fun row => and_congr_right fun member => ?_
    rw [and_iff_right (filled row member).1]
  · have contested : ∃ row ∈ rows, Contested racer row := by
      by_contra quiet
      obtain ⟨admitted, outcome⟩ := atOnce.mpr quiet
      exact failed admitted outcome
    rw [same, mem_keys_insertEach taken, UniqueIndex.mem_keys_absorb, and_iff_right contested,
      or_assoc]
    refine or_congr_right (or_congr_right ?_)
    rw [or_comm, ← exists_or]
    refine exists_congr fun row => ?_
    rw [← and_or_left]
  · rw [taken] at refused
    exact Bool.noConfusion refused

/-! ### The new rows -/

theorem mem_newRows {table : AlertTable Key} {rows : List (AlertRow Key)} {row : AlertRow Key} :
    row ∈ newRows table rows ↔
      row ∈ rows ∧ ∀ key, row.dedupKey = some key → key ∉ table.keys := by
  rw [newRows, List.mem_filter]
  refine and_congr_right fun member => ?_
  rw [Option.all_eq_true]
  refine forall₂_congr fun key keyed => ?_
  rw [decide_eq_true_eq, not_iff_not, List.mem_flatMap]
  constructor
  · rintro ⟨chunk, _, found⟩
    exact (List.mem_filter.mp found).1
  · intro stored
    have candidate : key ∈ (SortedList.chunks 500
        (rows.filterMap fun row => row.dedupKey)).flatten := by
      rw [SortedList.flatten_chunks (by decide)]
      exact List.mem_filterMap.mpr ⟨row, member, keyed⟩
    obtain ⟨chunk, listed, inside⟩ := List.mem_flatten.mp candidate
    exact ⟨chunk, listed, List.mem_filter.mpr ⟨stored, decide_eq_true inside⟩⟩

end Insert

/-! ### When a call is a union -/

section Batch

variable [DecidableEq Key] (refuses : AlertRow Key → Bool) (str : Json → Text)
  (clock : AlertEvent → Datetime.Reading) (sha256 : ByteArray → Key)

/-- The row of a key that is not in the table. -/
def NewRow (alerts : List AlertEvent) (table : AlertTable Key) (key : Key)
    (row : AlertRow Key) : Prop :=
  RowOf str clock sha256 alerts key row ∧ key ∉ table.keys

/-- The keys that another writer tries to add at a moment. -/
def Racer.keys (racer : Racer Key) (moment : Option Key) : List Key :=
  (racer moment).filterMap fun row => row.dedupKey

/-- Another writer adds a key while a call waits: before new rows are inserted at once, or, when
one of them is contested, before one is inserted on its own. -/
def Raced (racer : Racer Key) (alerts : List AlertEvent) (table : AlertTable Key)
    (key : Key) : Prop :=
  (∃ other row, NewRow str clock sha256 alerts table other row) ∧
    (key ∈ racer.keys none ∨
      (∃ other row, NewRow str clock sha256 alerts table other row ∧ Contested racer row) ∧
        ∃ other row, NewRow str clock sha256 alerts table other row ∧ key ∈ racer.keys (some other))

/-- A call is a union: it returns how many rows it inserted, the key of every event that can be
prepared is there once, and the table has grown by the rows of events and by rows of others. -/
structure Unites (racer : Racer Key) (alerts : List AlertEvent) (table : AlertTable Key)
    (outcome : Ingest Key) : Prop where
  returned : outcome.result = .ok outcome.inserted.length
  present : ∀ event ∈ alerts, ∀ key, Preparable str clock sha256 key event →
    (outcome.table.rows.filter fun row => row.dedupKey = some key).length = 1
  grown : Grown racer table outcome.table outcome.inserted
  own : ∀ row ∈ outcome.inserted, ∃ event ∈ alerts, ∃ key, hasKey sha256 key event ∧
    prepareRow str clock key event = .ok row

/-- The driver takes every new row, and every missing key of an event that can be prepared is the
key of a row without forbidden nulls, or added by another writer. -/
structure Settled (racer : Racer Key) (alerts : List AlertEvent) (table : AlertTable Key) :
    Prop where
  bound : ∀ key row, NewRow str clock sha256 alerts table key row → refuses row = false
  present : ∀ event ∈ alerts, ∀ key, Preparable str clock sha256 key event → key ∉ table.keys →
    (∃ row, RowOf str clock sha256 alerts key row ∧ row.filled = true) ∨
      Raced str clock sha256 racer alerts table key

variable {refuses str clock sha256} {racer : Racer Key} {alerts : List AlertEvent}
  {table : AlertTable Key}

theorem mem_newRows_buildRows {row : AlertRow Key} :
    row ∈ newRows table (buildRows str clock sha256 [] alerts) ↔
      ∃ key, NewRow str clock sha256 alerts table key row := by
  rw [mem_newRows, mem_buildRows]
  constructor
  · rintro ⟨⟨key, _, made⟩, new⟩
    exact ⟨key, made, new key made.dedupKey⟩
  · rintro ⟨key, made, new⟩
    refine ⟨⟨key, List.not_mem_nil, made⟩, fun other keyed => ?_⟩
    rw [made.dedupKey, Option.some.injEq] at keyed
    exact keyed ▸ new

theorem exists_mem_newRows {holds : AlertRow Key → Prop} :
    (∃ row ∈ newRows table (buildRows str clock sha256 [] alerts), holds row) ↔
      ∃ key row, NewRow str clock sha256 alerts table key row ∧ holds row := by
  rw [exists_comm]
  refine exists_congr fun row => ?_
  rw [mem_newRows_buildRows, ← exists_and_right]

/-- A call that has nothing new to insert does not wait. -/
theorem createAlertsBatch_eq :
    createAlertsBatch refuses str clock sha256 racer alerts table =
      if newRows table (buildRows str clock sha256 [] alerts) = [] then ⟨table, [], .ok 0⟩
      else insertRows refuses racer
        (newRows table (buildRows str clock sha256 [] alerts)) table := by
  rw [createAlertsBatch]
  cases alerts with
  | nil => rfl
  | cons event rest =>
    cases rows : buildRows str clock sha256 [] (event :: rest) with
    | nil => rfl
    | cons row more => simp [List.isEmpty_iff]

theorem createAlertsBatch_grown :
    Grown racer table (createAlertsBatch refuses str clock sha256 racer alerts table).table
      (createAlertsBatch refuses str clock sha256 racer alerts table).inserted := by
  rw [createAlertsBatch_eq]
  split
  · exact Grown.refl racer table
  · exact insertRows_grown _ table

theorem mem_createAlertsBatch {row : AlertRow Key}
    (member : row ∈ (createAlertsBatch refuses str clock sha256 racer alerts table).inserted) :
    ∃ key, NewRow str clock sha256 alerts table key row := by
  rw [createAlertsBatch_eq] at member
  split at member
  · exact absurd member List.not_mem_nil
  · exact mem_newRows_buildRows.mp (mem_insertRows member)

theorem any_refuses_newRows :
    (newRows table (buildRows str clock sha256 [] alerts)).any refuses = false ↔
      ∀ key row, NewRow str clock sha256 alerts table key row → refuses row = false := by
  rw [List.any_eq_false]
  simp only [mem_newRows_buildRows, Bool.not_eq_true, forall_exists_index]
  exact forall_comm

/-- A call fails exactly when the driver refuses a new row. -/
theorem createAlertsBatch_result :
    (createAlertsBatch refuses str clock sha256 racer alerts table).result =
        .ok (createAlertsBatch refuses str clock sha256 racer alerts table).inserted.length ↔
      ∀ key row, NewRow str clock sha256 alerts table key row → refuses row = false := by
  rw [← any_refuses_newRows, createAlertsBatch_eq]
  split
  · next nothing => simp [nothing]
  · rw [insertRows_result]
    cases (newRows table (buildRows str clock sha256 [] alerts)).any refuses <;> simp

/-- The keys after a call: those from before, those of rows that the columns take, and those that
another writer adds. -/
theorem mem_keys_createAlertsBatch
    (bound : ∀ key row, NewRow str clock sha256 alerts table key row → refuses row = false)
    {key : Key} :
    key ∈ (createAlertsBatch refuses str clock sha256 racer alerts table).table.keys ↔
      key ∈ table.keys ∨
        (∃ row, NewRow str clock sha256 alerts table key row ∧ row.filled = true) ∨
        Raced str clock sha256 racer alerts table key := by
  rw [createAlertsBatch_eq]
  by_cases nothing : newRows table (buildRows str clock sha256 [] alerts) = []
  · have noRow : ∀ other row, ¬ NewRow str clock sha256 alerts table other row := by
      intro other row new
      have member := mem_newRows_buildRows.mpr ⟨other, new⟩
      rw [nothing] at member
      exact List.not_mem_nil member
    rw [if_pos nothing]
    simp [Raced, noRow]
  · have someRow : ∃ other row, NewRow str clock sha256 alerts table other row := by
      obtain ⟨row, member⟩ := List.exists_mem_of_ne_nil _ nothing
      obtain ⟨other, new⟩ := mem_newRows_buildRows.mp member
      exact ⟨other, row, new⟩
    have distinct : ((newRows table (buildRows str clock sha256 [] alerts)).filterMap
        AlertRow.dedupKey).Nodup :=
      (nodup_buildRows [] alerts).sublist (List.filter_sublist.filterMap _)
    have filled : (∃ row ∈ newRows table (buildRows str clock sha256 [] alerts),
        row.filled = true ∧ row.dedupKey = some key) ↔
          ∃ row, NewRow str clock sha256 alerts table key row ∧ row.filled = true := by
      rw [exists_mem_newRows]
      constructor
      · rintro ⟨other, row, new, filled, keyed⟩
        rw [new.1.dedupKey, Option.some.injEq] at keyed
        exact ⟨row, keyed ▸ new, filled⟩
      · rintro ⟨row, new, filled⟩
        exact ⟨key, row, new, filled, new.1.dedupKey⟩
    have raced : (∃ row ∈ newRows table (buildRows str clock sha256 [] alerts),
        key ∈ (racer row.dedupKey).filterMap AlertRow.dedupKey) ↔
          ∃ other row, NewRow str clock sha256 alerts table other row ∧
            key ∈ racer.keys (some other) := by
      rw [exists_mem_newRows]
      refine exists₂_congr fun other row => and_congr_right fun new => ?_
      rw [new.1.dedupKey]
      rfl
    rw [if_neg nothing, mem_keys_insertRows distinct (any_refuses_newRows.mpr bound)
      fun row member => (mem_newRows.mp member).2]
    rw [filled, raced, exists_mem_newRows, Raced, and_iff_right someRow]
    exact or_congr_right or_left_comm

/-- A call is a union exactly when its rows and the other writer settle every key. -/
theorem unites_iff_settled :
    Unites str clock sha256 racer alerts table
        (createAlertsBatch refuses str clock sha256 racer alerts table) ↔
      Settled refuses str clock sha256 racer alerts table := by
  constructor
  · rintro ⟨returned, present, _, _⟩
    have bound := createAlertsBatch_result.mp returned
    refine ⟨bound, fun event member key preparable missing => ?_⟩
    have stored : key ∈
        (createAlertsBatch refuses str clock sha256 racer alerts table).table.keys := by
      have once := present event member key preparable
      obtain ⟨row, listed⟩ := List.exists_mem_of_length_pos (once ▸ Nat.one_pos)
      obtain ⟨listed, keyed⟩ := List.mem_filter.mp listed
      exact List.mem_filterMap.mpr ⟨row, listed, of_decide_eq_true keyed⟩
    rcases (mem_keys_createAlertsBatch bound).mp stored with old | ⟨row, new, filled⟩ | raced
    · exact absurd old missing
    · exact .inl ⟨row, new.1, filled⟩
    · exact .inr raced
  · rintro ⟨bound, present⟩
    refine ⟨createAlertsBatch_result.mpr bound, fun event member key preparable => ?_,
      createAlertsBatch_grown, fun row member => ?_⟩
    · refine UniqueIndex.length_filter_eq_one _ ((mem_keys_createAlertsBatch bound).mpr ?_)
      by_cases old : key ∈ table.keys
      · exact .inl old
      · refine .inr ((present event member key preparable old).imp_left ?_)
        rintro ⟨row, made, filled⟩
        exact ⟨row, ⟨made, old⟩, filled⟩
    · obtain ⟨key, made, _⟩ := mem_createAlertsBatch member
      obtain ⟨event, listed, keyed, prepared⟩ := made.event
      exact ⟨event, listed, key, keyed, prepared⟩

/-! ### Batches in a row -/

/-- A batch whose events are all stored inserts nothing. -/
theorem createAlertsBatch_of_stored
    (stored : ∀ event ∈ alerts, ∀ key, Preparable str clock sha256 key event → key ∈ table.keys) :
    createAlertsBatch refuses str clock sha256 racer alerts table = ⟨table, [], .ok 0⟩ := by
  rw [createAlertsBatch_eq, if_pos]
  rw [List.eq_nil_iff_forall_not_mem]
  intro row member
  obtain ⟨key, made, missing⟩ := mem_newRows_buildRows.mp member
  obtain ⟨event, listed, keyed, prepared⟩ := made.event
  exact missing (stored event listed key ⟨keyed, row, prepared⟩)

/-- No other writer. -/
def Racer.quiet : Racer Key := fun _ => []

variable (refuses str clock sha256)

/-- The table after several batches, without another writer. -/
def ingest (table : AlertTable Key) (batches : List (List AlertEvent)) : AlertTable Key :=
  batches.foldl (fun table alerts =>
    (createAlertsBatch refuses str clock sha256 Racer.quiet alerts table).table) table

/-- Every one of several batches is settled when its turn comes. -/
def EachSettled (table : AlertTable Key) : List (List AlertEvent) → Prop
  | [] => True
  | alerts :: rest =>
    Settled refuses str clock sha256 Racer.quiet alerts table ∧
      EachSettled (createAlertsBatch refuses str clock sha256 Racer.quiet alerts table).table rest

variable {refuses str clock sha256}

theorem not_raced_quiet {key : Key} :
    ¬ Raced str clock sha256 Racer.quiet alerts table key := by
  rintro ⟨_, early | ⟨_, _, _, _, late⟩⟩
  · exact List.not_mem_nil early
  · exact List.not_mem_nil late

/-- The keys after settled batches are the keys from before and those of the events. -/
theorem mem_keys_ingest {batches : List (List AlertEvent)}
    (settled : EachSettled refuses str clock sha256 table batches) {key : Key} :
    key ∈ (ingest refuses str clock sha256 table batches).keys ↔
      key ∈ table.keys ∨
        ∃ alerts ∈ batches, ∃ event ∈ alerts, Preparable str clock sha256 key event := by
  induction batches generalizing table with
  | nil => simp [ingest]
  | cons alerts rest inductionHypothesis =>
    obtain ⟨first, later⟩ := settled
    have once : key ∈
        (createAlertsBatch refuses str clock sha256 Racer.quiet alerts table).table.keys ↔
        key ∈ table.keys ∨ ∃ event ∈ alerts, Preparable str clock sha256 key event := by
      rw [mem_keys_createAlertsBatch first.bound, or_iff_left not_raced_quiet]
      by_cases old : key ∈ table.keys
      · simp [old]
      · refine or_congr_right ⟨?_, ?_⟩
        · rintro ⟨row, new, _⟩
          obtain ⟨event, listed, keyed, prepared⟩ := new.1.event
          exact ⟨event, listed, keyed, row, prepared⟩
        · rintro ⟨event, listed, preparable⟩
          obtain ⟨row, made, filled⟩ :=
            (first.present event listed key preparable old).resolve_right not_raced_quiet
          exact ⟨row, ⟨made, old⟩, filled⟩
    refine (inductionHypothesis later).trans ?_
    rw [once, or_assoc, List.exists_mem_cons_iff]

/-- Alert ingest is a union exactly when it is settled: the driver takes the new rows, and the
first event with a missing key has a row whose message and type are not null, or another writer
adds the key. A batch that is stored already inserts nothing, and the order of settled batches
does not matter for the keys. -/
theorem create_alerts_batch_unites_iff (refuses : AlertRow Key → Bool) (str : Json → Text)
    (clock : AlertEvent → Datetime.Reading) (sha256 : ByteArray → Key) :
    (∀ (racer : Racer Key) (alerts : List AlertEvent) (table : AlertTable Key),
      Unites str clock sha256 racer alerts table
          (createAlertsBatch refuses str clock sha256 racer alerts table) ↔
        Settled refuses str clock sha256 racer alerts table) ∧
    (∀ (racer : Racer Key) (alerts : List AlertEvent) (table : AlertTable Key),
      (∀ event ∈ alerts, ∀ key, Preparable str clock sha256 key event → key ∈ table.keys) →
        createAlertsBatch refuses str clock sha256 racer alerts table = ⟨table, [], .ok 0⟩) ∧
    (∀ (table : AlertTable Key) (batches batches' : List (List AlertEvent)),
      batches.Perm batches' → EachSettled refuses str clock sha256 table batches →
        EachSettled refuses str clock sha256 table batches' →
          ∀ key, key ∈ (ingest refuses str clock sha256 table batches).keys ↔
            key ∈ (ingest refuses str clock sha256 table batches').keys) := by
  refine ⟨fun racer alerts table => unites_iff_settled,
    fun racer alerts table stored => createAlertsBatch_of_stored stored, ?_⟩
  intro table batches batches' reordered settled settled' key
  rw [mem_keys_ingest settled, mem_keys_ingest settled']
  simp only [reordered.mem_iff]

end Batch

/-- The arguments of a call on a new table: the keys are the octets of the texts. -/
def sampleIngest (message : Json) : Ingest (Array UInt8) :=
  createAlertsBatch (fun _ => false) (fun _ => []) (fun _ => Datetime.Reading.epoch) ByteArray.data
    Racer.quiet [sampleAlert message (some naiveMidnight)] UniqueIndex.empty

/-- An event with a message is stored. -/
theorem storedAlert_unites :
    Unites (fun _ => []) (fun _ => Datetime.Reading.epoch) ByteArray.data Racer.quiet
      [sampleAlert (.string (Json.text "hot")) (some naiveMidnight)] UniqueIndex.empty
      (sampleIngest (.string (Json.text "hot"))) := by
  refine ((create_alerts_batch_unites_iff (fun _ => false) (fun _ => [])
    (fun _ => Datetime.Reading.epoch) ByteArray.data).1 Racer.quiet _ UniqueIndex.empty).mpr
      ⟨fun _ _ _ => rfl, fun event member key preparable _ => .inl ?_⟩
  obtain ⟨keyed, row, prepared⟩ := preparable
  rw [List.mem_singleton.mp member] at keyed prepared
  refine ⟨row, ⟨_, by rw [List.find?_cons, keyed], prepared⟩, ?_⟩
  rw [← Except.ok.inj prepared]
  rfl

/-- An event of a stream whose message is null has a key, but its row is skipped like a
collision. -/
theorem nullMessage_not_stored :
    ¬ ∀ (Key : Type) [DecidableEq Key] (refuses : AlertRow Key → Bool) (str : Json → Text)
        (clock : AlertEvent → Datetime.Reading) (sha256 : ByteArray → Key) (racer : Racer Key)
        (alerts : List AlertEvent) (table : AlertTable Key),
      Unites str clock sha256 racer alerts table
        (createAlertsBatch refuses str clock sha256 racer alerts table) := by
  intro claimed
  have united := claimed (Array UInt8) (fun _ => false) (fun _ => [])
    (fun _ => Datetime.Reading.epoch) ByteArray.data Racer.quiet
    [sampleAlert .null (some naiveMidnight)] UniqueIndex.empty
  have preparable : Preparable (fun _ => []) (fun _ => Datetime.Reading.epoch) ByteArray.data
      (encode (joinParts [Json.text "1", [], Json.text "1970-01-01T00:00:00", []])).data
      (sampleAlert .null (some naiveMidnight)) := ⟨by decide, _, rfl⟩
  have once := united.present _ List.mem_cons_self _ preparable
  exact absurd once (by decide)

end Gyanam
