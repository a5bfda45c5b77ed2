/-
This file follows the CPER queue over runs. A worker writes its results by id
and a requeue updates by id, and neither looks at the status of the row again.
So a status is final as long as nobody reads a row that somebody else holds, and
not beyond: what a second worker has selected it also writes.

The attempts of a row are counted in the row, by the same write that stores the
result. A result that does not reach the store is not counted either.
-/

import Gyanam.CperSteps

namespace Gyanam

/-! ### Final statuses -/

section Final

variable {Worker : Type} (settings : CperSettings)

/-- The event is the update of a requeue. -/
def CperEvent.IsRequeue : CperEvent Worker → Prop
  | .requeueWrite _ => True
  | _ => False

/-- A row keeps a final status, and leaves a failed fetch for pending only, by a requeue only. -/
structure LawfulChange (requeued : Prop) (before after : CperAlert) : Prop where
  final : ∀ status, before.cperStatus = some status → status.isFinal = true →
    after.cperStatus = some status
  failed : before.cperStatus = some .fetchFailed →
    after.cperStatus = some .fetchFailed ∨ requeued ∧ after.cperStatus = some .pending

theorem LawfulChange.same (requeued : Prop) (alert : CperAlert) :
    LawfulChange requeued alert alert :=
  ⟨fun _ status _ => status, fun failed => .inl failed⟩

/-- No row has more attempts than allowed. -/
def CperQueue.Bounded (queue : CperQueue Worker) : Prop :=
  ∀ id alert, queue.alerts.get id = some alert → alert.cperAttempts ≤ settings.maxAttempts

/-- A step changes every row lawfully and leaves its attempts bounded. -/
def LawfulStep [DecidableEq Worker] (queue : CperQueue Worker) (event : CperEvent Worker) : Prop :=
  ∀ next, queue.step settings event = some next →
    (∀ id before, queue.alerts.get id = some before →
      ∃ after, next.alerts.get id = some after ∧ LawfulChange event.IsRequeue before after) ∧
    next.Bounded settings

/-- What is written meets a row it may be written to: a requeue meets no final status, and a result
meets a pending row or one of its own status, with attempts left if it counts. -/
def InTime (queue : CperQueue Worker) : CperEvent Worker → Prop
  | .requeueWrite worker =>
    ∀ ids, queue.phases worker = .requeuing ids → ∀ id ∈ ids, ∀ alert,
      queue.alerts.get id = some alert → ∀ status, alert.cperStatus = some status →
        status.isFinal = false
  | .persist worker _ answers lands =>
    ∀ rows, queue.phases worker = .enriching rows → ∀ row ∈ rows, ∀ answer,
      answers row.id = some answer → lands row.id = true → ∀ alert,
        queue.alerts.get row.id = some alert →
          (∀ status, alert.cperStatus = some status → status ≠ .pending →
            (row.guarded settings.maxAttempts answer).status = status) ∧
          ((row.guarded settings.maxAttempts answer).incrementAttempt = true →
            alert.cperAttempts < settings.maxAttempts)
  | _ => True

variable {settings}

theorem distinct_step [DecidableEq Worker] {queue next : CperQueue Worker}
    {event : CperEvent Worker} (distinct : queue.Distinct)
    (step : queue.step settings event = some next) : next.Distinct := by
  have entered {alerts : Table AlertId CperAlert} (worker : Worker) {phase : CperPhase}
      (nodup : phase.ids.Nodup) :
      ({ queue with alerts := alerts }.enter worker phase).Distinct := by
    intro other
    by_cases own : other = worker
    · rw [own, phases_enter_self]
      exact nodup
    · rw [phases_enter_of_ne _ _ own]
      exact distinct other
  cases moves_of_step step with
  | insert fresh => exact distinct
  | requeueRead idle page => exact entered _ (page_spec page).1
  | requeueWrite phase => exact entered _ List.nodup_nil
  | requeueFails phase => exact entered _ List.nodup_nil
  | finalize => exact distinct
  | select idle page => exact entered _ ((page_spec page).1.sublist (ids_pendingRows queue _))
  | persist phase => exact entered _ List.nodup_nil

/-- A row after a batch was written: unchanged, or with the result of an enrichment that landed. -/
theorem get_persist_cases {rows : List PendingCper} (distinct : (rows.map PendingCper.id).Nodup)
    (alerts : Table AlertId CperAlert) (now : Time) (answers : AlertId → Option EnrichAnswers)
    (lands : AlertId → Bool) (id : AlertId) :
    (setCperResultsBatch now lands (enrichBatch settings.maxAttempts answers rows) alerts).get id =
        alerts.get id ∨
      ∃ row ∈ rows, ∃ answer, row.id = id ∧ answers row.id = some answer ∧ lands row.id = true ∧
        (setCperResultsBatch now lands (enrichBatch settings.maxAttempts answers rows)
          alerts).get id = (alerts.get id).map
            (CperAlert.record now (row.guarded settings.maxAttempts answer)) := by
  by_cases enriched : ∃ row ∈ rows, row.id = id ∧ (answers id).isSome = true
  · obtain ⟨row, held, rfl, some⟩ := enriched
    obtain ⟨answer, answered⟩ := Option.isSome_iff_exists.mp some
    have stored : (setCperResultsBatch now lands (enrichBatch settings.maxAttempts answers rows)
      alerts).get row.id = _ := get_persist_of_answer alerts now lands distinct held answered
    cases landed : lands row.id with
    | false => exact .inl (by rw [stored, landed, if_neg Bool.false_ne_true])
    | true =>
      exact .inr ⟨row, held, answer, rfl, answered, landed, by rw [stored, landed, if_pos rfl]⟩
  · refine .inl (get_persist_of_not alerts now lands id fun row held same => ?_)
    rw [← Option.not_isSome_iff_eq_none]
    exact fun some => enriched ⟨row, held, same, some⟩

/-- A row after a step: rewritten lawfully, with its attempts bounded. -/
def LawfulAt (settings : CperSettings) (requeued : Prop) (before after : Option CperAlert) : Prop :=
  ∃ rewrite : CperAlert → CperAlert, after = before.map rewrite ∧
    ∀ alert, before = some alert → LawfulChange requeued alert (rewrite alert) ∧
      (rewrite alert).cperAttempts ≤ settings.maxAttempts

theorem LawfulAt.same {queue : CperQueue Worker} (bounded : queue.Bounded settings)
    (requeued : Prop) (id : AlertId) :
    LawfulAt settings requeued (queue.alerts.get id) (queue.alerts.get id) :=
  ⟨fun alert => alert, Option.map_id'.symm, fun alert found =>
    ⟨.same requeued alert, bounded id alert found⟩⟩

theorem lawful_of_rows {requeued : Prop} {queue next : CperQueue Worker}
    (rows : ∀ id, LawfulAt settings requeued (queue.alerts.get id) (next.alerts.get id)) :
    (∀ id before, queue.alerts.get id = some before →
      ∃ after, next.alerts.get id = some after ∧ LawfulChange requeued before after) ∧
    next.Bounded settings := by
  refine ⟨fun id before found => ?_, fun id after found => ?_⟩
  · obtain ⟨rewrite, stored, lawful⟩ := rows id
    rw [found] at stored
    exact ⟨rewrite before, stored, (lawful before found).1⟩
  · obtain ⟨rewrite, stored, lawful⟩ := rows id
    obtain ⟨before, was, rfl⟩ := Option.map_eq_some_iff.mp (stored.symm.trans found)
    exact (lawful before was).2

theorem lawfulAt_requeue {queue : CperQueue Worker} (bounded : queue.Bounded settings)
    {ids : List AlertId} {id : AlertId}
    (unsettled : id ∈ ids → ∀ alert, queue.alerts.get id = some alert →
      ∀ status, alert.cperStatus = some status → status.isFinal = false) :
    LawfulAt settings True (queue.alerts.get id) ((requeue ids queue.alerts).get id) := by
  by_cases chosen : id ∈ ids
  · refine ⟨fun alert => { alert with cperStatus := some .pending, cperAttempts := 0 }, ?_,
      fun alert found => ⟨⟨fun status current final => ?_, fun _ => .inr ⟨trivial, rfl⟩⟩,
        Nat.zero_le _⟩⟩
    · simp [requeue, Table.get_updateWhere, chosen]
    · exact absurd ((unsettled chosen alert found status current).symm.trans final) (by simp)
  · have same : (requeue ids queue.alerts).get id = queue.alerts.get id := by
      simp [requeue, Table.get_updateWhere, chosen]
    rw [same]
    exact .same bounded True id

theorem lawfulAt_finalize {queue : CperQueue Worker} (bounded : queue.Bounded settings)
    (id : AlertId) :
    LawfulAt settings False (queue.alerts.get id)
      ((finalizeExhausted settings queue.alerts).get id) := by
  refine ⟨_, Table.get_updateWhere _ _ _ id, fun alert found => ?_⟩
  have bound := bounded id alert found
  show LawfulChange False alert (ite _ _ _) ∧ (ite _ _ _ : CperAlert).cperAttempts ≤ _
  split
  · next chosen =>
    rw [Bool.and_eq_true, decide_eq_true_eq] at chosen
    refine ⟨⟨fun status current final => ?_, fun _ => .inl rfl⟩, bound⟩
    rw [Option.some.inj (current.symm.trans chosen.1)] at final
    exact absurd final (by decide)
  · exact ⟨.same False alert, bound⟩

theorem lawfulAt_record {before : Option CperAlert} (now : Time) {result : CperResult}
    (own : ∀ alert, before = some alert → ∀ status, alert.cperStatus = some status →
      status ≠ .pending → result.status = status)
    (counts : ∀ alert, before = some alert → result.incrementAttempt = true →
      alert.cperAttempts < settings.maxAttempts)
    (bounded : ∀ alert, before = some alert → alert.cperAttempts ≤ settings.maxAttempts) :
    LawfulAt settings False before (before.map (CperAlert.record now result)) := by
  refine ⟨_, rfl, fun alert found => ⟨⟨fun status current final => ?_, fun failed => ?_⟩, ?_⟩⟩
  · have waits : status ≠ .pending := by
      rintro rfl
      exact absurd final (by decide)
    exact congrArg some (own alert found status current waits)
  · exact .inl (congrArg some (own alert found .fetchFailed failed (by decide)))
  · show ite _ _ _ ≤ _
    split
    · next counted => exact counts alert found counted
    · exact bounded alert found

theorem lawful_of_inTime [DecidableEq Worker] {queue : CperQueue Worker} {event : CperEvent Worker}
    (distinct : queue.Distinct) (bounded : queue.Bounded settings)
    (inTime : InTime settings queue event) : LawfulStep settings queue event := by
  intro next step
  cases moves_of_step step with
  | @insert id targetId occurredAt uri eligible fresh =>
    refine ⟨fun other before found => ⟨before, ?_, .same _ before⟩, fun other after found => ?_⟩
    · rw [Table.get_set, if_neg, found]
      rintro rfl
      exact absurd (fresh.symm.trans found) (by simp)
    · rw [Table.get_set] at found
      split at found
      · rw [← Option.some.inj found]
        exact Nat.zero_le _
      · exact bounded other after found
  | requeueRead idle page => exact lawful_of_rows fun id => .same bounded _ id
  | @requeueWrite worker ids phase =>
    exact lawful_of_rows fun id => lawfulAt_requeue bounded fun chosen => inTime ids phase id chosen
  | requeueFails phase => exact lawful_of_rows fun id => .same bounded _ id
  | finalize => exact lawful_of_rows (lawfulAt_finalize bounded)
  | select idle page => exact lawful_of_rows fun id => .same bounded _ id
  | @persist worker now answers lands rows phase =>
    have nodup := distinct worker
    rw [phase] at nodup
    refine lawful_of_rows fun id => ?_
    show LawfulAt settings False (queue.alerts.get id) ((setCperResultsBatch now lands
      (enrichBatch settings.maxAttempts answers rows) queue.alerts).get id)
    rcases get_persist_cases nodup queue.alerts now answers lands id with
      same | ⟨row, held, answer, rfl, answered, landed, stored⟩
    · rw [same]
      exact .same bounded _ id
    · rw [stored]
      have meets := inTime rows phase row held answer answered landed
      exact lawfulAt_record now (fun alert found => (meets alert found).1)
        (fun alert found => (meets alert found).2) (bounded row.id)

theorem inTime_of_lawful [DecidableEq Worker] {queue : CperQueue Worker} {event : CperEvent Worker}
    (distinct : queue.Distinct) (lawful : LawfulStep settings queue event) :
    InTime settings queue event := by
  cases event with
  | requeueWrite worker =>
    intro ids phase id chosen alert found status current
    rw [← Bool.not_eq_true]
    intro final
    have step : queue.step settings (.requeueWrite worker) =
        some ({ queue with alerts := requeue ids queue.alerts }.enter worker .idle) := by
      rw [CperQueue.step, phase]
    obtain ⟨after, stored, change⟩ := (lawful _ step).1 id alert found
    have requeued : (requeue ids queue.alerts).get id =
        some { alert with cperStatus := some .pending, cperAttempts := 0 } := by
      simp [requeue, Table.get_updateWhere, chosen, found]
    have kept := change.final status current final
    rw [← Option.some.inj (requeued.symm.trans stored)] at kept
    rw [← Option.some.inj kept] at final
    exact absurd final (by decide)
  | persist worker now answers lands =>
    intro rows phase row held answer answered landed alert found
    have nodup := distinct worker
    rw [phase] at nodup
    have step : queue.step settings (.persist worker now answers lands) = some ({ queue with
        alerts := setCperResultsBatch now lands (enrichBatch settings.maxAttempts answers rows)
          queue.alerts }.enter worker .idle) := by
      rw [CperQueue.step, phase]
    have recorded : (setCperResultsBatch now lands (enrichBatch settings.maxAttempts answers rows)
        queue.alerts).get row.id =
          some (alert.record now (row.guarded settings.maxAttempts answer)) := by
      rw [get_persist_of_answer _ _ _ nodup held answered, if_pos landed, found]
      rfl
    obtain ⟨changes, bounded⟩ := lawful _ step
    refine ⟨fun status current waits => ?_, fun counted => ?_⟩
    · obtain ⟨after, stored, change⟩ := changes row.id alert found
      obtain rfl := Option.some.inj (recorded.symm.trans stored)
      cases final : status.isFinal with
      | true => exact Option.some.inj (change.final status current final)
      | false =>
        have failed : status = .fetchFailed := by
          cases status <;> first | rfl | contradiction
        rw [failed] at current ⊢
        rcases change.failed current with same | ⟨requeued, _⟩
        · exact Option.some.inj same
        · exact requeued.elim
    · have bound : (ite _ _ _ : Nat) ≤ settings.maxAttempts := bounded row.id _ recorded
      rw [if_pos counted] at bound
      exact bound
  | insert _ _ _ _ _ => trivial
  | requeueRead _ _ _ => trivial
  | requeueFails _ => trivial
  | finalize => trivial
  | select _ _ _ => trivial

/-! ### Runs -/

/-- No worker holds a row twice, and no row has more attempts than allowed. -/
structure CperQueue.Sound (settings : CperSettings) (queue : CperQueue Worker) : Prop where
  distinct : queue.Distinct
  bounded : queue.Bounded settings

theorem CperQueue.sound_empty (settings : CperSettings) :
    ({ alerts := Table.empty } : CperQueue Worker).Sound settings :=
  ⟨fun _ => List.nodup_nil, fun _ _ found => absurd found (by simp)⟩

theorem CperQueue.Sound.step [DecidableEq Worker] {queue next : CperQueue Worker}
    {event : CperEvent Worker} (sound : queue.Sound settings) (inTime : InTime settings queue event)
    (step : queue.step settings event = some next) : next.Sound settings :=
  ⟨distinct_step sound.distinct step,
    (lawful_of_inTime sound.distinct sound.bounded inTime next step).2⟩

/-- Rows in hand are written in time. -/
theorem InHand.inTime {queue : CperQueue Worker} {event : CperEvent Worker}
    (inHand : InHand settings queue) : InTime settings queue event := by
  cases event with
  | requeueWrite worker =>
    intro ids phase id chosen alert found status current
    have steady := inHand.steady worker
    rw [phase] at steady
    obtain ⟨other, stored, failed⟩ := steady id chosen
    rw [Option.some.inj (found.symm.trans stored)] at current
    rw [Option.some.inj (current.symm.trans failed)]
    rfl
  | persist worker now answers lands =>
    intro rows phase row held answer answered landed alert found
    have steady := inHand.steady worker
    rw [phase] at steady
    obtain ⟨other, stored, pending, attempts, left⟩ := steady row held
    obtain rfl := Option.some.inj (found.symm.trans stored)
    refine ⟨fun status current waits => ?_, fun _ => attempts ▸ left⟩
    exact absurd (Option.some.inj (current.symm.trans pending)) waits
  | insert _ _ _ _ _ => trivial
  | requeueRead _ _ _ => trivial
  | requeueFails _ => trivial
  | finalize => trivial
  | select _ _ _ => trivial

/-- A sound queue with its rows in hand. -/
structure CperQueue.Held (settings : CperSettings) (queue : CperQueue Worker) : Prop where
  sound : queue.Sound settings
  inHand : InHand settings queue

theorem CperQueue.held_empty (settings : CperSettings) :
    ({ alerts := Table.empty } : CperQueue Worker).Held settings :=
  ⟨CperQueue.sound_empty settings, ⟨fun _ => trivial, fun _ _ _ => List.disjoint_nil_left _⟩⟩

theorem CperQueue.Held.step [DecidableEq Worker] {queue next : CperQueue Worker}
    {event : CperEvent Worker} (held : queue.Held settings) (exclusive : Exclusive queue event)
    (step : queue.step settings event = some next) : next.Held settings :=
  ⟨held.sound.step held.inHand.inTime step, held.inHand.step exclusive step⟩

variable [DecidableEq Worker]

/-- In every run, and at each of its steps, final statuses stay, failed fetches leave for pending by
a requeue only and attempts stay bounded, exactly when every requeue and every result meets a row it
may be written to. -/
theorem final_statuses_iff (settings : CperSettings) (events : List (CperEvent Worker)) :
    (cperMachine settings).Throughout (LawfulStep settings) { alerts := Table.empty } events ↔
      (cperMachine settings).Throughout (InTime settings) { alerts := Table.empty } events := by
  constructor
  · exact (cperMachine settings).throughout_mono
      (fun distinct _ step => distinct_step distinct step)
      (fun distinct lawful => inTime_of_lawful distinct lawful)
      (CperQueue.sound_empty settings).distinct
  · exact (cperMachine settings).throughout_mono (fun sound inTime step => sound.step inTime step)
      (fun sound inTime => lawful_of_inTime sound.distinct sound.bounded inTime)
      (CperQueue.sound_empty settings)

/-- Workers that never read what another one holds keep final statuses. -/
theorem exclusive_final_statuses (settings : CperSettings) (events : List (CperEvent Worker))
    (exclusive : (cperMachine settings).Throughout Exclusive { alerts := Table.empty } events) :
    (cperMachine settings).Throughout (LawfulStep settings) { alerts := Table.empty } events := by
  refine (cperMachine settings).throughout_mono
    (fun held exclusive step => held.step exclusive step) (fun held _ => ?_)
    (CperQueue.held_empty settings) exclusive
  exact lawful_of_inTime held.sound.distinct held.sound.bounded held.inHand.inTime

end Final

/-! ### Two workers with one row -/

/-- A fetch of an attachment that decodes. -/
def decodedFetch : EnrichAnswers where
  fetched := .data (some (some (.bool true)))
  summarize := fun decoded => some (decoded, "memory error")

/-- A fetch of an attachment that fails. -/
def timedOutFetch : EnrichAnswers where
  fetched := .failed
  summarize := fun _ => none

/-- Two workers select a new alert. The first one decodes it, and the second one then stores that
its own fetch failed. -/
def sharedAlert : List (CperEvent Bool) := [
  .insert 1 1 0 (some "/cper") true,
  .select false 0 [1],
  .select true 0 [1],
  .persist false 0 (fun _ => some decodedFetch) fun _ => true,
  .persist true 0 (fun _ => some timedOutFetch) fun _ => true]

theorem sharedAlert_decoded_overwritten :
    ¬ (cperMachine {}).Throughout (LawfulStep {}) { alerts := Table.empty } sharedAlert := by
  intro throughout
  have lawful := (((throughout.2 _ rfl).2 _ rfl).2 _ rfl).2 _ rfl |>.1
  obtain ⟨after, stored, change⟩ := (lawful _ rfl).1 1 _ rfl
  have kept : after.cperStatus = some .decoded := change.final .decoded rfl rfl
  have status : after.cperStatus = some .pending := by
    rw [← Option.some.inj stored]
    rfl
  exact absurd (kept.symm.trans status) (by decide)

end Gyanam
