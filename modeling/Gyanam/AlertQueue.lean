/-
This file models the way of an alert from its subscriber to the store: the
bounded queue of the alert manager, and the loop that takes alerts off the queue
into a batch and writes the batch when it is full or old enough. A failed write
keeps the batch, cut to its newest alerts, for the next attempt. Between two
suspensions of the loop other tasks enqueue alerts, stop the manager or cancel
the loop, so an event is what happens between two suspensions.

A run is observed next to the code: which alerts were accepted, and which left
the batch, in what order and how. The accounting of the file says that accepted
alerts leave in the order of their arrival, and what has not left is in the batch
or in the queue.
-/

import Gyanam.Lib.Machine
import Gyanam.Models

namespace Gyanam

/-! ### The manager -/

/-- The batching part of the alert configuration, with what its validation guarantees. The
interval is in microseconds. -/
structure BatchConfig where
  batchSize : Nat := 100
  batchInterval : Time := 5000000
  maxQueueSize : Nat := 10000
  sizePositive : 0 < batchSize := by decide
  intervalPositive : 0 < batchInterval := by decide
  queuePositive : 0 < maxQueueSize := by decide

/-- Where the batch loop stands: it waits for an alert, it writes the batch or sleeps after a failed
write, both with the clock reading of the iteration, it writes what is left on its way out, or it
has returned. -/
inductive BatchPhase where
  | waiting
  | writing (now : Time)
  | sleeping (now : Time)
  | closing
  | returned
  deriving DecidableEq, Repr

/-- How the custom callback of an alert ends, if there is one. -/
inductive CallbackOutcome where
  | completed
  | queueFull
  | raised
  deriving DecidableEq, Repr

/-- The alert manager: its queue and counters, and the variables of its batch loop. When the loop
has returned, the batch is what its last write failed to store. -/
structure AlertManager (Alert : Type) where
  alertQueue : List Alert := []
  alertsReceived : Nat := 0
  alertsWritten : Nat := 0
  alertsDropped : Nat := 0
  running : Bool := true
  phase : BatchPhase := .waiting
  batch : List Alert := []
  lastWrite : Time
  deriving DecidableEq, Repr

/-- What happens between two suspensions. The loop resumes with an alert or without one, and reads
the clock; its write succeeds with a number of new rows, or fails; its sleep ends. Or another task
enqueues an alert, drops one at the rate limit, stops the manager, or cancels the loop. -/
inductive BatchEvent (Alert : Type) where
  | enqueue (alert : Alert) (callback : CallbackOutcome)
  | rateLimited
  | received (now : Time)
  | timeout (now : Time)
  | written (count : Nat)
  | failed
  | slept
  | stop
  | cancelled
  deriving DecidableEq, Repr

namespace AlertManager

variable {Alert : Type}

/-- Add an alert to the queue. A callback that reports a full queue is taken for the queue. -/
def enqueue (cfg : BatchConfig) (manager : AlertManager Alert) (alert : Alert)
    (callback : CallbackOutcome) : AlertManager Alert :=
  if manager.alertQueue.length < cfg.maxQueueSize then
    { manager with
      alertQueue := manager.alertQueue ++ [alert]
      alertsReceived := manager.alertsReceived + 1
      alertsDropped := manager.alertsDropped + if callback = .queueFull then 1 else 0 }
  else { manager with alertsDropped := manager.alertsDropped + 1 }

/-- Leave the loop: what is left is written, if there is anything. -/
def leave (manager : AlertManager Alert) : AlertManager Alert :=
  { manager with phase := if manager.batch = [] then .returned else .closing }

/-- The head of the loop. -/
def iterate (manager : AlertManager Alert) : AlertManager Alert :=
  if manager.running then { manager with phase := .waiting } else manager.leave

/-- Whether the batch is full, or not empty and old enough. -/
def shouldWrite (cfg : BatchConfig) (manager : AlertManager Alert) (now : Time) : Bool :=
  decide (cfg.batchSize ≤ manager.batch.length) ||
    (!manager.batch.isEmpty && decide (cfg.batchInterval ≤ now - manager.lastWrite))

/-- The iteration after the wait: write the batch or go on. -/
def consider (cfg : BatchConfig) (manager : AlertManager Alert) (now : Time) :
    AlertManager Alert :=
  if manager.shouldWrite cfg now then { manager with phase := .writing now } else manager.iterate

/-- The most alerts a batch keeps after a failed write. -/
def batchCap (cfg : BatchConfig) : Nat := max (cfg.batchSize * 5) cfg.batchSize

/-- How many alerts of the batch are over the cap. -/
def overflow (cfg : BatchConfig) (manager : AlertManager Alert) : Nat :=
  manager.batch.length - batchCap cfg

/-- Keep the newest alerts of the batch, and count the others as dropped. -/
def keepNewest (cfg : BatchConfig) (manager : AlertManager Alert) : AlertManager Alert :=
  { manager with
    batch := manager.batch.drop (manager.overflow cfg)
    alertsDropped := manager.alertsDropped + manager.overflow cfg }

/-- One event. A cancellation that finds an alert already taken off the queue delivers the alert
instead, and one of the last write ends the loop at once. -/
def step (cfg : BatchConfig) (manager : AlertManager Alert) :
    BatchEvent Alert → Option (AlertManager Alert)
  | .enqueue alert callback => some (manager.enqueue cfg alert callback)
  | .rateLimited => some { manager with alertsDropped := manager.alertsDropped + 1 }
  | .received now =>
    match manager.phase, manager.alertQueue with
    | .waiting, alert :: rest =>
      some (consider cfg { manager with
        alertQueue := rest
        batch := manager.batch ++ [alert] } now)
    | _, _ => none
  | .timeout now =>
    if manager.phase = .waiting then some (manager.consider cfg now) else none
  | .written count =>
    match manager.phase with
    | .writing now =>
      some (iterate { manager with
        batch := []
        alertsWritten := manager.alertsWritten + count
        lastWrite := now })
    | .closing =>
      some { manager with
        batch := []
        alertsWritten := manager.alertsWritten + count
        phase := .returned }
    | _ => none
  | .failed =>
    match manager.phase with
    | .writing now => some { manager.keepNewest cfg with phase := .sleeping now }
    | .closing => some { manager with phase := .returned }
    | _ => none
  | .slept =>
    match manager.phase with
    | .sleeping now => some (iterate { manager with lastWrite := now })
    | _ => none
  | .stop => some { manager with running := false }
  | .cancelled =>
    match manager.phase with
    | .closing => some { manager with phase := .returned }
    | .returned => none
    | _ => some manager.leave

/-! ### Observing a step -/

/-- How an alert leaves the batch: stored by a successful write, or cut from an over-full batch. -/
inductive Departure where
  | stored
  | cut
  deriving DecidableEq, Repr

/-- The alerts a step accepts. -/
def acceptedBy (cfg : BatchConfig) (manager : AlertManager Alert) : BatchEvent Alert → List Alert
  | .enqueue alert _ => if manager.alertQueue.length < cfg.maxQueueSize then [alert] else []
  | _ => []

/-- How many drops a step counts on the way into the queue. -/
def turnedAway (cfg : BatchConfig) (manager : AlertManager Alert) : BatchEvent Alert → Nat
  | .enqueue _ callback =>
    if manager.alertQueue.length < cfg.maxQueueSize then
      if callback = .queueFull then 1 else 0
    else 1
  | .rateLimited => 1
  | _ => 0

/-- The alerts that leave the batch in a step: all of them in a successful write, the oldest ones
over the cap after a failed write. -/
def departures (cfg : BatchConfig) (manager : AlertManager Alert) :
    BatchEvent Alert → List (Departure × Alert)
  | .written _ => manager.batch.map fun alert => (.stored, alert)
  | .failed =>
    match manager.phase with
    | .writing _ => (manager.batch.take (manager.overflow cfg)).map fun alert => (.cut, alert)
    | _ => []
  | _ => []

/-- The alerts that were cut, among those that left. -/
def cutOf (departed : List (Departure × Alert)) : List (Departure × Alert) :=
  departed.filter fun departure => departure.1 = .cut

@[simp] theorem cutOf_stored (alerts : List Alert) :
    cutOf (alerts.map fun alert => (Departure.stored, alert)) = [] := by
  rw [cutOf, List.filter_map, List.filter_eq_nil_iff.mpr (by simp), List.map_nil]

@[simp] theorem cutOf_cut (alerts : List Alert) :
    cutOf (alerts.map fun alert => (Departure.cut, alert)) =
      alerts.map fun alert => (Departure.cut, alert) := by
  rw [cutOf, List.filter_map, List.filter_eq_self.mpr (by simp)]

/-- Whether an event completes an iteration of the loop, given the manager before and after. -/
def endsIteration (manager next : AlertManager Alert) : BatchEvent Alert → Bool
  | .received now => next.phase ≠ .writing now
  | .timeout now => next.phase ≠ .writing now
  | .written _ => manager.phase ≠ .closing
  | .slept => true
  | _ => false

/-! ### What a step does to the alerts -/

@[simp] theorem leave_batch (manager : AlertManager Alert) : manager.leave.batch = manager.batch :=
  rfl

@[simp] theorem leave_alertQueue (manager : AlertManager Alert) :
    manager.leave.alertQueue = manager.alertQueue := rfl

@[simp] theorem leave_alertsDropped (manager : AlertManager Alert) :
    manager.leave.alertsDropped = manager.alertsDropped := rfl

@[simp] theorem iterate_batch (manager : AlertManager Alert) :
    manager.iterate.batch = manager.batch := by
  rw [iterate]
  split <;> rfl

@[simp] theorem iterate_alertQueue (manager : AlertManager Alert) :
    manager.iterate.alertQueue = manager.alertQueue := by
  rw [iterate]
  split <;> rfl

@[simp] theorem iterate_alertsDropped (manager : AlertManager Alert) :
    manager.iterate.alertsDropped = manager.alertsDropped := by
  rw [iterate]
  split <;> rfl

@[simp] theorem consider_batch (cfg : BatchConfig) (manager : AlertManager Alert) (now : Time) :
    (manager.consider cfg now).batch = manager.batch := by
  rw [consider]
  split
  · rfl
  · rw [iterate_batch]

@[simp] theorem consider_alertQueue (cfg : BatchConfig) (manager : AlertManager Alert)
    (now : Time) : (manager.consider cfg now).alertQueue = manager.alertQueue := by
  rw [consider]
  split
  · rfl
  · rw [iterate_alertQueue]

@[simp] theorem consider_alertsDropped (cfg : BatchConfig) (manager : AlertManager Alert)
    (now : Time) : (manager.consider cfg now).alertsDropped = manager.alertsDropped := by
  rw [consider]
  split
  · rfl
  · rw [iterate_alertsDropped]

/-- An iteration that goes on without a write has a batch that is not full. -/
theorem consider_small {cfg : BatchConfig} {manager : AlertManager Alert} {now : Time}
    (unwritten : (manager.consider cfg now).phase ≠ .writing now) :
    manager.batch.length < cfg.batchSize := by
  rw [consider] at unwritten
  split at unwritten
  · exact absurd rfl unwritten
  · next kept =>
    rw [shouldWrite] at kept
    simp only [Bool.or_eq_true, decide_eq_true_eq, not_or, not_le] at kept
    exact kept.1

theorem batchCap_eq (cfg : BatchConfig) : batchCap cfg = 5 * cfg.batchSize := by
  rw [batchCap]
  omega

theorem keepNewest_batch_le (cfg : BatchConfig) (manager : AlertManager Alert) :
    (manager.keepNewest cfg).batch.length ≤ 5 * cfg.batchSize := by
  rw [keepNewest, ← batchCap_eq]
  simp only [overflow, List.length_drop]
  omega

/-- What a step does, by its event and where the loop stands. -/
inductive Stepped (cfg : BatchConfig) (manager : AlertManager Alert) :
    BatchEvent Alert → AlertManager Alert → Prop where
  | enqueue (alert : Alert) (callback : CallbackOutcome) :
    Stepped cfg manager (.enqueue alert callback) (manager.enqueue cfg alert callback)
  | rateLimited :
    Stepped cfg manager .rateLimited
      { manager with alertsDropped := manager.alertsDropped + 1 }
  | received (now : Time) (alert : Alert) (rest : List Alert)
      (queued : manager.alertQueue = alert :: rest) :
    Stepped cfg manager (.received now) (consider cfg { manager with
      alertQueue := rest
      batch := manager.batch ++ [alert] } now)
  | timeout (now : Time) : Stepped cfg manager (.timeout now) (manager.consider cfg now)
  | written (count : Nat) (now : Time) (writing : manager.phase = .writing now) :
    Stepped cfg manager (.written count) (iterate { manager with
      batch := []
      alertsWritten := manager.alertsWritten + count
      lastWrite := now })
  | lastWritten (count : Nat) (closing : manager.phase = .closing) :
    Stepped cfg manager (.written count) { manager with
      batch := []
      alertsWritten := manager.alertsWritten + count
      phase := .returned }
  | failed (now : Time) (writing : manager.phase = .writing now) :
    Stepped cfg manager .failed { manager.keepNewest cfg with phase := .sleeping now }
  | lastFailed (closing : manager.phase = .closing) :
    Stepped cfg manager .failed { manager with phase := .returned }
  | slept (now : Time) (sleeping : manager.phase = .sleeping now) :
    Stepped cfg manager .slept (iterate { manager with lastWrite := now })
  | stop : Stepped cfg manager .stop { manager with running := false }
  | cancelled : Stepped cfg manager .cancelled manager.leave
  | lastCancelled : Stepped cfg manager .cancelled { manager with phase := .returned }

theorem stepped {cfg : BatchConfig} {manager next : AlertManager Alert}
    {event : BatchEvent Alert} (step : manager.step cfg event = some next) :
    Stepped cfg manager event next := by
  cases event with
  | enqueue alert callback => exact Option.some.inj step ▸ .enqueue alert callback
  | rateLimited => exact Option.some.inj step ▸ .rateLimited
  | received now =>
    simp only [AlertManager.step] at step
    split at step
    · next alert rest _ queued => exact Option.some.inj step ▸ .received now alert rest queued
    · simp at step
  | timeout now =>
    simp only [AlertManager.step, Option.ite_none_right_eq_some, Option.some.injEq] at step
    exact step.2 ▸ .timeout now
  | written count =>
    simp only [AlertManager.step] at step
    split at step
    · next now writing => exact Option.some.inj step ▸ .written count now writing
    · next closing => exact Option.some.inj step ▸ .lastWritten count closing
    · simp at step
  | failed =>
    simp only [AlertManager.step] at step
    split at step
    · next now writing => exact Option.some.inj step ▸ .failed now writing
    · next closing => exact Option.some.inj step ▸ .lastFailed closing
    · simp at step
  | slept =>
    simp only [AlertManager.step] at step
    split at step
    · next now sleeping => exact Option.some.inj step ▸ .slept now sleeping
    · simp at step
  | stop => exact Option.some.inj step ▸ .stop
  | cancelled =>
    simp only [AlertManager.step] at step
    split at step
    · exact Option.some.inj step ▸ .lastCancelled
    · simp at step
    · exact Option.some.inj step ▸ .cancelled

/-- The alerts of the batch and the queue flow through a step in order: those that leave come
first, and the accepted ones last. -/
theorem Stepped.flow {cfg : BatchConfig} {manager next : AlertManager Alert}
    {event : BatchEvent Alert} (stepped : Stepped cfg manager event next) :
    (manager.departures cfg event).map Prod.snd ++ next.batch ++ next.alertQueue =
      manager.batch ++ manager.alertQueue ++ manager.acceptedBy cfg event := by
  cases stepped with
  | enqueue alert callback =>
    simp only [AlertManager.enqueue, acceptedBy, departures]
    split <;> simp
  | received now alert rest queued => simp [departures, acceptedBy, queued]
  | written count now writing => simp [departures, acceptedBy, Function.comp_def]
  | lastWritten count closing => simp [departures, acceptedBy, Function.comp_def]
  | failed now writing =>
    simp [departures, acceptedBy, writing, keepNewest, Function.comp_def]
  | lastFailed closing => simp [departures, acceptedBy, closing]
  | _ => simp [departures, acceptedBy]

/-- A step counts as dropped what it turns away and what it cuts. -/
theorem Stepped.counted {cfg : BatchConfig} {manager next : AlertManager Alert}
    {event : BatchEvent Alert} (stepped : Stepped cfg manager event next) :
    next.alertsDropped = manager.alertsDropped + manager.turnedAway cfg event +
      (cutOf (manager.departures cfg event)).length := by
  cases stepped with
  | enqueue alert callback =>
    simp only [AlertManager.enqueue, turnedAway, departures, cutOf]
    split <;> simp
  | written count now writing => simp [departures, turnedAway]
  | lastWritten count closing => simp [departures, turnedAway]
  | failed now writing =>
    have within : manager.overflow cfg ≤ manager.batch.length := Nat.sub_le _ _
    simp only [departures, turnedAway, writing, keepNewest, cutOf_cut, List.length_map,
      List.length_take, Nat.min_eq_left within, Nat.add_zero]
  | lastFailed closing => simp [departures, turnedAway, cutOf, closing]
  | _ => simp [departures, turnedAway, cutOf]

/-- A sleeping loop has a batch within the cap. -/
def CutAsleep (cfg : BatchConfig) (manager : AlertManager Alert) : Prop :=
  ∀ now, manager.phase = .sleeping now → manager.batch.length ≤ 5 * cfg.batchSize

theorem leave_not_sleeping (manager : AlertManager Alert) (now : Time) :
    manager.leave.phase ≠ .sleeping now := by
  rw [leave]
  split <;> simp

theorem iterate_not_sleeping (manager : AlertManager Alert) (now : Time) :
    manager.iterate.phase ≠ .sleeping now := by
  rw [iterate]
  split
  · simp
  · exact leave_not_sleeping manager now

theorem consider_not_sleeping (cfg : BatchConfig) (manager : AlertManager Alert)
    (now later : Time) : (manager.consider cfg now).phase ≠ .sleeping later := by
  rw [consider]
  split
  · simp
  · exact iterate_not_sleeping manager later

theorem Stepped.cutAsleep {cfg : BatchConfig} {manager next : AlertManager Alert}
    {event : BatchEvent Alert} (stepped : Stepped cfg manager event next)
    (cutAsleep : manager.CutAsleep cfg) : next.CutAsleep cfg := by
  intro now sleeping
  cases stepped with
  | enqueue alert callback =>
    rw [AlertManager.enqueue] at sleeping ⊢
    split at sleeping
    · next room =>
      rw [if_pos room]
      exact cutAsleep now sleeping
    · next full =>
      rw [if_neg full]
      exact cutAsleep now sleeping
  | rateLimited => exact cutAsleep now sleeping
  | stop => exact cutAsleep now sleeping
  | received reading alert rest queued => exact absurd sleeping (consider_not_sleeping _ _ _ _)
  | timeout reading => exact absurd sleeping (consider_not_sleeping _ _ _ _)
  | written count reading writing => exact absurd sleeping (iterate_not_sleeping _ _)
  | slept reading asleep => exact absurd sleeping (iterate_not_sleeping _ _)
  | failed reading writing => exact keepNewest_batch_le cfg manager
  | cancelled => exact absurd sleeping (leave_not_sleeping _ _)
  | lastWritten count closing => simp at sleeping
  | lastFailed closing => simp at sleeping
  | lastCancelled => simp at sleeping

/-- After an iteration the batch is within the cap. -/
theorem Stepped.batch_le {cfg : BatchConfig} {manager next : AlertManager Alert}
    {event : BatchEvent Alert} (stepped : Stepped cfg manager event next)
    (cutAsleep : manager.CutAsleep cfg) (ends : manager.endsIteration next event = true) :
    next.batch.length ≤ 5 * cfg.batchSize := by
  cases stepped with
  | received now alert rest queued =>
    have small := consider_small (of_decide_eq_true ends)
    rw [consider_batch]
    omega
  | timeout now =>
    have small := consider_small (of_decide_eq_true ends)
    rw [consider_batch]
    omega
  | written count now writing => simp
  | slept now sleeping =>
    rw [iterate_batch]
    exact cutAsleep now sleeping
  | lastWritten count closing => simp [endsIteration, closing] at ends
  | _ => simp [endsIteration] at ends

end AlertManager

/-! ### Observing a run -/

/-- A run so far: the manager, the alerts that were accepted and those that left the batch, both in
order, the drops counted on the way into the queue, and the sizes of the batch after each
iteration. -/
structure AlertRun (Alert : Type) where
  manager : AlertManager Alert
  accepted : List Alert := []
  departed : List (AlertManager.Departure × Alert) := []
  turnedAway : Nat := 0
  sizes : List Nat := []

/-- A manager that has just started its loop. -/
def AlertRun.start {Alert : Type} (now : Time) : AlertRun Alert where
  manager := { lastWrite := now }

namespace AlertRun

variable {Alert : Type}

/-- Make an event and write down what it does. -/
def step (cfg : BatchConfig) (run : AlertRun Alert) (event : BatchEvent Alert) :
    Option (AlertRun Alert) := do
  let next ← run.manager.step cfg event
  return {
    manager := next
    accepted := run.accepted ++ run.manager.acceptedBy cfg event
    departed := run.departed ++ run.manager.departures cfg event
    turnedAway := run.turnedAway + run.manager.turnedAway cfg event
    sizes := if run.manager.endsIteration next event then run.sizes ++ [next.batch.length]
      else run.sizes }

end AlertRun

def alertMachine (Alert : Type) (cfg : BatchConfig) :
    Machine (AlertRun Alert) (BatchEvent Alert) := ⟨AlertRun.step cfg⟩

namespace AlertRun

variable {Alert : Type}

/-- The accounts of a run. The alerts that left, those of the batch and those of the queue are the
accepted ones, in the order of their arrival; the counter of drops has counted the alerts that were
cut, next to those that never got into the queue; and after every iteration the batch is within five
times its nominal size. -/
structure Accounted (cfg : BatchConfig) (run : AlertRun Alert) : Prop where
  inOrder : run.departed.map Prod.snd ++ run.manager.batch ++ run.manager.alertQueue = run.accepted
  counted : run.manager.alertsDropped =
    run.turnedAway + (AlertManager.cutOf run.departed).length
  bounded : ∀ size ∈ run.sizes, size ≤ 5 * cfg.batchSize

theorem accounted_start (cfg : BatchConfig) (now : Time) :
    (start now : AlertRun Alert).Accounted cfg :=
  ⟨rfl, rfl, by simp [start]⟩

/-- A step keeps the accounts, and the batch of a sleeping loop within the cap. -/
theorem step_accounted {cfg : BatchConfig} {run next : AlertRun Alert} {event : BatchEvent Alert}
    (before : run.Accounted cfg ∧ run.manager.CutAsleep cfg)
    (step : (alertMachine Alert cfg).step run event = some next) :
    next.Accounted cfg ∧ next.manager.CutAsleep cfg := by
  obtain ⟨accounted, cutAsleep⟩ := before
  obtain ⟨manager, made, written⟩ := Option.bind_eq_some_iff.mp step
  obtain rfl := Option.some.inj written
  have stepped := AlertManager.stepped made
  refine ⟨⟨?_, ?_, ?_⟩, stepped.cutAsleep cutAsleep⟩
  · rw [List.map_append, ← accounted.inOrder, List.append_assoc, List.append_assoc,
      ← List.append_assoc _ manager.batch, stepped.flow]
    simp only [List.append_assoc]
  · rw [stepped.counted, accounted.counted]
    simp only [AlertManager.cutOf, List.filter_append, List.length_append]
    omega
  · intro size member
    by_cases ends : run.manager.endsIteration manager event = true
    · rw [if_pos ends, List.mem_append, List.mem_singleton] at member
      rcases member with early | rfl
      · exact accounted.bounded size early
      · exact stepped.batch_le cutAsleep ends
    · rw [if_neg ends] at member
      exact accounted.bounded size member

end AlertRun

/-- The accounts of the alert queue hold in every run. -/
theorem alert_queue_accounting {Alert : Type} (cfg : BatchConfig) (now : Time)
    (events : List (BatchEvent Alert)) (final : AlertRun Alert)
    (run : (alertMachine Alert cfg).run (.start now) events = some final) :
    final.Accounted cfg := by
  have kept := (alertMachine Alert cfg).run_invariant AlertRun.step_accounted
    ⟨AlertRun.accounted_start cfg now, fun _ sleeping => by simp [AlertRun.start] at sleeping⟩ run
  exact kept.1

/-- Batches of one alert. -/
def singleAlerts : BatchConfig where
  batchSize := 1

/-- Six alerts arrive, and the store fails each time the loop has taken one of them. -/
def failingStore : List (BatchEvent Nat) :=
  (List.range 6).map (fun alert => .enqueue alert .completed) ++
    (List.range 6).flatMap fun _ => [.received 0, .failed, .slept]

set_option maxRecDepth 8000 in
/-- The sixth failure cuts the oldest alert. -/
theorem failingStore_accounted : ∃ final,
    (alertMachine Nat singleAlerts).run (.start 0) failingStore = some final ∧
      final.departed = [(.cut, 0)] ∧ final.Accounted singleAlerts := by
  have cuts : ((alertMachine Nat singleAlerts).run (.start 0) failingStore).any
      (fun final => decide (final.departed = [(.cut, 0)])) = true := by decide
  obtain ⟨final, run, cut⟩ := (alertMachine Nat singleAlerts).exists_of_any cuts
  exact ⟨final, run, of_decide_eq_true cut,
    alert_queue_accounting singleAlerts 0 failingStore final run⟩

end Gyanam
