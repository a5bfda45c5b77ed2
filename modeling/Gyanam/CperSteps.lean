/-
This file says what the statements of the CPER queue do to a row, what a step of
it does, and what a worker may rely on: as long as no worker reads rows that
another one holds, the rows in its hand are in the store as it has read them.
-/

import Gyanam.CperQueue

namespace Gyanam

/-! ### Results -/

namespace PendingCper

variable {maxAttempts : Nat} {answers : EnrichAnswers} {row : PendingCper}

/-- What a result says: it is final, or a failed attempt that counts. -/
def Ends (maxAttempts : Nat) (row : PendingCper) (result : CperResult) : Prop :=
  result.id = row.id ∧
    (result.incrementAttempt = false ∧ result.status.isFinal = true ∨
      result.incrementAttempt = true ∧
        (result.status = .pending → row.attempts + 1 < maxAttempts))

theorem ends_failed {terminal : CperStatus} (given : terminal ≠ .pending) :
    row.Ends maxAttempts (row.failed maxAttempts terminal) := by
  refine ⟨rfl, .inr ⟨rfl, fun waits => ?_⟩⟩
  rw [failed] at waits
  split at waits
  · exact absurd waits given
  · omega

theorem ends_final {status : CperStatus} (final : status.isFinal = true) :
    row.Ends maxAttempts { id := row.id, status := status } :=
  ⟨rfl, .inl ⟨rfl, final⟩⟩

theorem ends_summarized {decoded : Json} {result : CperResult}
    (summary : row.summarized answers decoded = some result) : row.Ends maxAttempts result := by
  obtain ⟨_, _, rfl⟩ := Option.map_eq_some_iff.mp summary
  exact ⟨rfl, .inl ⟨rfl, rfl⟩⟩

theorem ends_fetch {result : CperResult}
    (fetched : (row.fetch maxAttempts answers).result = some result) :
    row.Ends maxAttempts result := by
  unfold fetch at fetched
  split at fetched
  · rw [← Option.some.inj fetched]
    exact ends_final rfl
  · split at fetched
    · exact absurd fetched (by simp)
    · rw [← Option.some.inj fetched]
      exact ends_final rfl
    · simp only at fetched
      split at fetched
      · rw [← Option.some.inj fetched]
        exact ends_final rfl
      · rw [← Option.some.inj fetched]
        exact ends_failed (by decide)
      · exact absurd fetched (by simp)
      · rw [← Option.some.inj fetched]
        exact ends_failed (by decide)
      · exact ends_summarized fetched

theorem ends_enrichOne {result : CperResult}
    (enriched : (row.enrichOne maxAttempts answers).result = some result) :
    row.Ends maxAttempts result := by
  unfold enrichOne at enriched
  split at enriched
  · split at enriched
    · exact absurd enriched (by simp)
    · exact ends_fetch enriched
    · split at enriched
      · exact ends_summarized enriched
      · exact ends_fetch enriched
  · exact ends_fetch enriched

/-- Every enrichment that runs has a result, and it is final or counts. -/
theorem ends_guarded : row.Ends maxAttempts (row.guarded maxAttempts answers) := by
  unfold guarded
  cases enriched : (row.enrichOne maxAttempts answers).result with
  | none => exact ends_failed (by decide)
  | some result => exact ends_enrichOne enriched

end PendingCper

/-! ### The rows after a statement -/

theorem setCperResult_actsOn (now : Time) (lands : AlertId → Bool) :
    ActsOn (fun (alerts : Table AlertId CperAlert) id => alerts.get id) (setCperResult now lands)
      CperResult.id fun result before =>
        if lands result.id then before.map (CperAlert.record now result) else before := by
  refine .intro (fun alerts result => ?_) fun alerts result other different => ?_
  · cases landed : lands result.id <;> simp [setCperResult, landed, Table.get_updateWhere]
  · cases landed : lands result.id <;>
      simp [setCperResult, landed, Table.get_updateWhere, different]

section Batch

variable {maxAttempts : Nat} {answers : AlertId → Option EnrichAnswers} {rows : List PendingCper}

theorem mem_enrichBatch {result : CperResult} :
    result ∈ enrichBatch maxAttempts answers rows ↔
      ∃ row ∈ rows, ∃ answer, answers row.id = some answer ∧
        row.guarded maxAttempts answer = result := by
  simp only [enrichBatch, List.mem_filterMap, Option.map_eq_some_iff]

theorem nodup_enrichBatch (distinct : (rows.map PendingCper.id).Nodup) :
    ((enrichBatch maxAttempts answers rows).map CperResult.id).Nodup := by
  refine distinct.sublist ?_
  unfold enrichBatch
  induction rows with
  | nil => exact List.Sublist.slnil
  | cons row rest inductionHypothesis =>
    have later := inductionHypothesis (List.nodup_cons.mp distinct).2
    cases answered : answers row.id with
    | none =>
      rw [List.filterMap_cons_none (by rw [answered]; rfl)]
      exact later.cons row.id
    | some answer =>
      rw [List.filterMap_cons_some (by rw [answered]; rfl), List.map_cons, List.map_cons,
        PendingCper.ends_guarded.1]
      exact later.cons_cons row.id

variable (alerts : Table AlertId CperAlert) (now : Time) (lands : AlertId → Bool)

/-- A row whose enrichment ran has its result stored, if the write lands. -/
theorem get_persist_of_answer (distinct : (rows.map PendingCper.id).Nodup) {row : PendingCper}
    (held : row ∈ rows) {answer : EnrichAnswers} (answered : answers row.id = some answer) :
    (setCperResultsBatch now lands (enrichBatch maxAttempts answers rows) alerts).get row.id =
      if lands row.id then
        (alerts.get row.id).map (CperAlert.record now (row.guarded maxAttempts answer))
      else alerts.get row.id := by
  have same : (row.guarded maxAttempts answer).id = row.id := PendingCper.ends_guarded.1
  have member : row.guarded maxAttempts answer ∈ enrichBatch maxAttempts answers rows :=
    mem_enrichBatch.mpr ⟨row, held, answer, answered, rfl⟩
  have stored := (setCperResult_actsOn now lands).foldl_of_mem (nodup_enrichBatch distinct) member
    alerts
  rwa [same] at stored

/-- The other rows stay. -/
theorem get_persist_of_not (id : AlertId)
    (absent : ∀ row ∈ rows, row.id = id → answers id = none) :
    (setCperResultsBatch now lands (enrichBatch maxAttempts answers rows) alerts).get id =
      alerts.get id := by
  refine (setCperResult_actsOn now lands).foldl_of_not_mem ?_ alerts
  intro found
  obtain ⟨result, member, rfl⟩ := List.mem_map.mp found
  obtain ⟨row, held, answer, answered, rfl⟩ := mem_enrichBatch.mp member
  rw [PendingCper.ends_guarded.1] at absent
  rw [absent row held rfl] at answered
  exact absurd answered (by simp)

end Batch

/-! ### What a step does -/

section Enter

variable {Worker : Type} [DecidableEq Worker] (queue : CperQueue Worker) (worker : Worker)

@[simp] theorem phases_enter_self (phase : CperPhase) :
    (queue.enter worker phase).phases worker = phase := by
  simp [CperQueue.enter]

theorem phases_enter_of_ne {other : Worker} (different : other ≠ worker) (phase : CperPhase) :
    (queue.enter worker phase).phases other = queue.phases other := by
  simp [CperQueue.enter, different]

/-- A worker that comes back to its phase leaves the queue as it was. -/
theorem enter_back (phase : CperPhase) :
    (queue.enter worker phase).enter worker (queue.phases worker) = queue := by
  simp [CperQueue.enter]

end Enter

/-- The steps of the queue, each with its guard. -/
inductive Moves {Worker : Type} [DecidableEq Worker] (settings : CperSettings)
    (queue : CperQueue Worker) : CperEvent Worker → CperQueue Worker → Prop where
  | insert {id : AlertId} {targetId : TargetId} {occurredAt : Time} {uri : Option String}
      {eligible : Bool} (fresh : queue.alerts.get id = none) :
      Moves settings queue (.insert id targetId occurredAt uri eligible) { queue with
        alerts := queue.alerts.set id {
          targetId := targetId
          occurredAt := occurredAt
          uri := uri
          cperStatus := if eligible then some .pending else none } }
  | requeueRead {worker : Worker} {now : Time} {ids : List AlertId}
      (idle : queue.phases worker = .idle)
      (page : isPage (settings.isStale now) attemptedBefore settings.batchSize queue.alerts ids =
        true) :
      Moves settings queue (.requeueRead worker now ids) (queue.enter worker (.requeuing ids))
  | requeueWrite {worker : Worker} {ids : List AlertId}
      (phase : queue.phases worker = .requeuing ids) :
      Moves settings queue (.requeueWrite worker)
        ({ queue with alerts := requeue ids queue.alerts }.enter worker .idle)
  | requeueFails {worker : Worker} {ids : List AlertId}
      (phase : queue.phases worker = .requeuing ids) :
      Moves settings queue (.requeueFails worker) (queue.enter worker .idle)
  | finalize :
      Moves settings queue .finalize
        { queue with alerts := finalizeExhausted settings queue.alerts }
  | select {worker : Worker} {now : Time} {ids : List AlertId}
      (idle : queue.phases worker = .idle)
      (page : isPage (settings.isPending now)
        (fun first second => decide (first.occurredAt ≤ second.occurredAt)) settings.batchSize
        queue.alerts ids = true) :
      Moves settings queue (.select worker now ids)
        (queue.enter worker (.enriching (queue.pendingRows ids)))
  | persist {worker : Worker} {now : Time} {answers : AlertId → Option EnrichAnswers}
      {lands : AlertId → Bool} {rows : List PendingCper}
      (phase : queue.phases worker = .enriching rows) :
      Moves settings queue (.persist worker now answers lands)
        ({ queue with
          alerts := setCperResultsBatch now lands (enrichBatch settings.maxAttempts answers rows)
            queue.alerts }.enter worker .idle)

theorem moves_of_step {Worker : Type} [DecidableEq Worker] {settings : CperSettings}
    {queue next : CperQueue Worker} {event : CperEvent Worker}
    (step : queue.step settings event = some next) : Moves settings queue event next := by
  cases event <;> simp only [CperQueue.step] at step
  case insert id targetId occurredAt uri eligible =>
    split at step
    · exact absurd step (by simp)
    · next fresh =>
      obtain rfl := Option.some.inj step
      exact .insert (Option.not_isSome_iff_eq_none.mp fresh)
  case finalize =>
    obtain rfl := Option.some.inj step
    exact .finalize
  case requeueRead =>
    split at step
    · next idle =>
      split at step
      · next page =>
        obtain rfl := Option.some.inj step
        exact .requeueRead idle page.2
      · exact absurd step (by simp)
    · exact absurd step (by simp)
  case select =>
    split at step
    · next idle =>
      split at step
      · next page =>
        obtain rfl := Option.some.inj step
        exact .select idle page
      · exact absurd step (by simp)
    · exact absurd step (by simp)
  all_goals
    split at step
    · next phase =>
      obtain rfl := Option.some.inj step
      first
        | exact .requeueWrite phase
        | exact .requeueFails phase
        | exact .persist phase
    · exact absurd step (by simp)

/-! ### Rows in hand -/

/-- The ids a worker has read and not written yet. -/
def CperPhase.ids : CperPhase → List AlertId
  | .idle => []
  | .requeuing ids => ids
  | .enriching rows => rows.map PendingCper.id

/-- The rows a worker has read are as it has read them. -/
def CperPhase.Steady (settings : CperSettings) (alerts : Table AlertId CperAlert) :
    CperPhase → Prop
  | .idle => True
  | .requeuing ids => ∀ id ∈ ids, ∃ alert, alerts.get id = some alert ∧
      alert.cperStatus = some .fetchFailed
  | .enriching rows => ∀ row ∈ rows, ∃ alert, alerts.get row.id = some alert ∧
      alert.cperStatus = some .pending ∧ alert.cperAttempts = row.attempts ∧
      row.attempts < settings.maxAttempts

theorem CperPhase.Steady.congr {settings : CperSettings} {alerts later : Table AlertId CperAlert}
    {phase : CperPhase} (steady : phase.Steady settings alerts)
    (same : ∀ id ∈ phase.ids, later.get id = alerts.get id) : phase.Steady settings later := by
  cases phase with
  | idle => trivial
  | requeuing ids =>
    intro id member
    rw [same id member]
    exact steady id member
  | enriching rows =>
    intro row member
    rw [same row.id (List.mem_map_of_mem member)]
    exact steady row member

theorem page_spec {chosen : CperAlert → Bool} {before : CperAlert → CperAlert → Bool} {limit : Nat}
    {alerts : Table AlertId CperAlert} {ids : List AlertId}
    (page : isPage chosen before limit alerts ids = true) :
    ids.Nodup ∧ ∀ id ∈ ids, ∃ alert, alerts.get id = some alert ∧ chosen alert = true := by
  simp only [isPage, Bool.and_eq_true, decide_eq_true_eq, List.all_eq_true] at page
  refine ⟨page.1.1.1.1, fun id member => ?_⟩
  exact (Option.any_eq_true _ _).mp (page.1.1.1.2 id member)

section Hands

variable {Worker : Type}

theorem mem_pendingRows {queue : CperQueue Worker} {ids : List AlertId} {row : PendingCper} :
    row ∈ queue.pendingRows ids ↔
      ∃ id ∈ ids, ∃ alert, queue.alerts.get id = some alert ∧ alert.describe id = row := by
  simp only [CperQueue.pendingRows, List.mem_filterMap, Option.map_eq_some_iff]

theorem ids_pendingRows (queue : CperQueue Worker) (ids : List AlertId) :
    ((queue.pendingRows ids).map PendingCper.id).Sublist ids := by
  unfold CperQueue.pendingRows
  induction ids with
  | nil => exact List.Sublist.slnil
  | cons id rest inductionHypothesis =>
    cases found : queue.alerts.get id with
    | none =>
      rw [List.filterMap_cons_none (by rw [found]; rfl)]
      exact inductionHypothesis.cons id
    | some alert =>
      rw [List.filterMap_cons_some (by rw [found]; rfl), List.map_cons]
      exact inductionHypothesis.cons_cons id

/-- No worker holds a row twice. -/
def CperQueue.Distinct (queue : CperQueue Worker) : Prop :=
  ∀ worker, (queue.phases worker).ids.Nodup

/-- A worker reads no row that another one holds. -/
def Exclusive (queue : CperQueue Worker) : CperEvent Worker → Prop
  | .requeueRead worker _ ids | .select worker _ ids =>
    ∀ other, other ≠ worker → ids.Disjoint (queue.phases other).ids
  | _ => True

/-- Every worker's rows are as it has read them, and no row is held by two workers. -/
structure InHand (settings : CperSettings) (queue : CperQueue Worker) : Prop where
  steady : ∀ worker, (queue.phases worker).Steady settings queue.alerts
  apart : ∀ worker other, other ≠ worker →
    (queue.phases worker).ids.Disjoint (queue.phases other).ids

variable {settings : CperSettings} {queue : CperQueue Worker}

/-- A step of one worker leaves the rows of the others in hand. -/
theorem InHand.enter [DecidableEq Worker] (inHand : InHand settings queue)
    {alerts : Table AlertId CperAlert} {worker : Worker} {phase : CperPhase}
    (steady : phase.Steady settings alerts)
    (apart : ∀ other, other ≠ worker → phase.ids.Disjoint (queue.phases other).ids)
    (same : ∀ other, other ≠ worker → ∀ id ∈ (queue.phases other).ids,
      alerts.get id = queue.alerts.get id) :
    InHand settings ({ queue with alerts := alerts }.enter worker phase) where
  steady := by
    intro other
    by_cases own : other = worker
    · rw [own, phases_enter_self]
      exact steady
    · rw [phases_enter_of_ne _ _ own]
      exact (inHand.steady other).congr (same other own)
  apart := by
    intro first second different
    by_cases firstOwn : first = worker
    · have secondOther : second ≠ worker := fun own => different (own.trans firstOwn.symm)
      rw [firstOwn, phases_enter_self, phases_enter_of_ne _ _ secondOther]
      exact apart second secondOther
    · rw [phases_enter_of_ne _ _ firstOwn]
      by_cases secondOwn : second = worker
      · rw [secondOwn, phases_enter_self]
        exact (apart first firstOwn).symm
      · rw [phases_enter_of_ne _ _ secondOwn]
        exact inHand.apart first second different

/-- A step of no worker leaves the rows in hand if it leaves them as they are. -/
theorem InHand.keep (inHand : InHand settings queue) {alerts : Table AlertId CperAlert}
    (same : ∀ worker, ∀ id ∈ (queue.phases worker).ids, alerts.get id = queue.alerts.get id) :
    InHand settings { queue with alerts := alerts } where
  steady := fun worker => (inHand.steady worker).congr (same worker)
  apart := inHand.apart

/-- A row in hand is in the store, pending with attempts left, or failed. -/
theorem InHand.stored (inHand : InHand settings queue) {worker : Worker} {id : AlertId}
    (held : id ∈ (queue.phases worker).ids) :
    ∃ alert, queue.alerts.get id = some alert ∧
      (alert.cperStatus = some .pending ∧ alert.cperAttempts < settings.maxAttempts ∨
        alert.cperStatus = some .fetchFailed) := by
  have steady := inHand.steady worker
  cases phase : queue.phases worker with
  | idle => simp [phase, CperPhase.ids] at held
  | requeuing ids =>
    rw [phase] at held steady
    obtain ⟨alert, found, failed⟩ := steady id held
    exact ⟨alert, found, .inr failed⟩
  | enriching rows =>
    rw [phase] at held steady
    obtain ⟨row, member, rfl⟩ := List.mem_map.mp held
    obtain ⟨alert, found, pending, attempts, left⟩ := steady row member
    exact ⟨alert, found, .inl ⟨pending, attempts ▸ left⟩⟩

theorem InHand.step [DecidableEq Worker] {event : CperEvent Worker} {next : CperQueue Worker}
    (inHand : InHand settings queue) (exclusive : Exclusive queue event)
    (step : queue.step settings event = some next) : InHand settings next := by
  cases moves_of_step step with
  | @insert id targetId occurredAt uri eligible fresh =>
    refine inHand.keep fun worker other held => ?_
    obtain ⟨alert, found, _⟩ := inHand.stored held
    rw [Table.get_set, if_neg]
    rintro rfl
    exact absurd (fresh.symm.trans found) (by simp)
  | requeueRead idle page =>
    refine inHand.enter (fun id member => ?_) exclusive fun _ _ _ _ => rfl
    obtain ⟨alert, found, stale⟩ := (page_spec page).2 id member
    simp only [CperSettings.isStale, Bool.and_eq_true, decide_eq_true_eq] at stale
    exact ⟨alert, found, stale.1⟩
  | @requeueWrite worker ids phase =>
    refine inHand.enter trivial (fun _ _ => List.disjoint_nil_left _) ?_
    intro other different id held
    have apart := inHand.apart worker other different
    rw [phase] at apart
    have unread : id ∉ ids := fun member => apart member held
    rw [requeue, Table.get_updateWhere]
    simp [unread]
  | requeueFails phase =>
    exact inHand.enter trivial (fun _ _ => List.disjoint_nil_left _) fun _ _ _ _ => rfl
  | finalize =>
    refine inHand.keep fun worker id held => ?_
    obtain ⟨alert, found, status⟩ := inHand.stored held
    rw [finalizeExhausted, Table.get_updateWhere, found]
    rcases status with ⟨pending, left⟩ | failed
    · simp [pending, Nat.not_le.mpr left]
    · simp [failed]
  | @select worker now ids idle page =>
    refine inHand.enter (fun row member => ?_) (fun other different => ?_) fun _ _ _ _ => rfl
    · obtain ⟨id, read, alert, found, rfl⟩ := mem_pendingRows.mp member
      obtain ⟨other, found', pending⟩ := (page_spec page).2 id read
      obtain rfl := Option.some.inj (found.symm.trans found')
      simp only [CperSettings.isPending, Bool.and_eq_true, decide_eq_true_eq] at pending
      exact ⟨alert, found, pending.1.1, rfl, pending.1.2⟩
    · have apart : ids.Disjoint (queue.phases other).ids := exclusive other different
      exact fun id member => apart ((ids_pendingRows queue ids).subset member)
  | @persist worker now answers lands rows phase =>
    refine inHand.enter trivial (fun _ _ => List.disjoint_nil_left _) ?_
    intro other different id held
    have apart := inHand.apart worker other different
    rw [phase] at apart
    refine get_persist_of_not _ _ _ _ fun row member same => ?_
    exact absurd held (apart (same ▸ List.mem_map_of_mem member))

end Hands

end Gyanam
