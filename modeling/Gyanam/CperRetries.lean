/-
This file counts what one worker does to a row between two requeues: the rounds
in which it enriched the row, and those in which it fetched or decoded anew. The
row counts its failed attempts itself, in the write that stores the result. When
these writes land, a row is pending only while it has counted every round. When
they do not, nothing of the row changes, and it is selected again for ever.
-/

import Gyanam.CperRuns

namespace Gyanam

/-! ### Counting -/

/-- The rows a worker is enriching. -/
def CperPhase.rows : CperPhase → List PendingCper
  | .enriching rows => rows
  | _ => []

/-- The store and its only worker, with the rounds and the tries of each row since its last
requeue. -/
structure CountedQueue where
  queue : CperQueue Unit
  rounds : AlertId → Nat := fun _ => 0
  tries : AlertId → Nat := fun _ => 0

section Counting

variable (settings : CperSettings)

/-- Whether the enrichment of a row runs. -/
def isRound (answers : AlertId → Option EnrichAnswers) (row : PendingCper) : Bool :=
  (answers row.id).isSome

/-- Whether the enrichment of a row fetches or decodes anew. -/
def isTry (answers : AlertId → Option EnrichAnswers) (row : PendingCper) : Bool :=
  (answers row.id).any fun answer => (row.enrichOne settings.maxAttempts answer).tried

/-- How often a row of the worker's batch has a property. -/
def inBatch (rows : List PendingCper) (chosen : PendingCper → Bool) (id : AlertId) : Nat :=
  rows.countP fun row => decide (row.id = id) && chosen row

/-- One event, counted. -/
def CountedQueue.step (counted : CountedQueue) (event : CperEvent Unit) : Option CountedQueue :=
  (counted.queue.step settings event).map fun next =>
    match event with
    | .requeueWrite worker => {
        queue := next
        rounds := fun id =>
          if id ∈ (counted.queue.phases worker).ids then 0 else counted.rounds id
        tries := fun id =>
          if id ∈ (counted.queue.phases worker).ids then 0 else counted.tries id }
    | .persist worker _ answers _ => {
        queue := next
        rounds := fun id => counted.rounds id +
          inBatch (counted.queue.phases worker).rows (isRound answers) id
        tries := fun id => counted.tries id +
          inBatch (counted.queue.phases worker).rows (isTry settings answers) id }
    | _ => { counted with queue := next }

/-- The only worker on a store, counted. -/
def countingMachine : Machine CountedQueue (CperEvent Unit) := ⟨CountedQueue.step settings⟩

end Counting

/-- The result of every enrichment that ran reaches the store. -/
def Stored (counted : CountedQueue) : CperEvent Unit → Prop
  | .persist worker _ answers lands =>
    ∀ row ∈ (counted.queue.phases worker).rows, isRound answers row = true → lands row.id = true
  | _ => True

/-! ### Accounts -/

/-- Every round of a pending row is counted in the row, and no row has more rounds than allowed. -/
structure CountedQueue.Accounted (settings : CperSettings) (counted : CountedQueue) : Prop where
  held : counted.queue.Held settings
  tried : ∀ id, counted.tries id ≤ counted.rounds id
  bounded : ∀ id, counted.rounds id ≤ settings.maxAttempts
  absent : ∀ id, counted.queue.alerts.get id = none → counted.rounds id = 0
  pending : ∀ id alert, counted.queue.alerts.get id = some alert →
    alert.cperStatus = some .pending → counted.rounds id ≤ alert.cperAttempts

theorem inBatch_mono {rows : List PendingCper} {chosen other : PendingCper → Bool}
    (le : ∀ row, chosen row = true → other row = true) (id : AlertId) :
    inBatch rows chosen id ≤ inBatch rows other id := by
  refine List.countP_mono_left fun row _ both => ?_
  rw [Bool.and_eq_true] at both ⊢
  exact ⟨both.1, le row both.2⟩

theorem inBatch_le_one {rows : List PendingCper} (distinct : (rows.map PendingCper.id).Nodup)
    (chosen : PendingCper → Bool) (id : AlertId) : inBatch rows chosen id ≤ 1 := by
  have all : inBatch rows (fun _ => true) id = (rows.map PendingCper.id).count id := by
    rw [inBatch, List.count, List.countP_map]
    exact List.countP_congr fun row _ => by simp
  calc inBatch rows chosen id
      ≤ inBatch rows (fun _ => true) id := inBatch_mono (fun _ _ => rfl) id
    _ = (rows.map PendingCper.id).count id := all
    _ ≤ 1 := List.nodup_iff_count_le_one.mp distinct id

theorem inBatch_pos {rows : List PendingCper} {chosen : PendingCper → Bool} {id : AlertId}
    (some : inBatch rows chosen id ≠ 0) : ∃ row ∈ rows, row.id = id ∧ chosen row = true := by
  obtain ⟨row, member, both⟩ := List.countP_pos_iff.mp (Nat.pos_of_ne_zero some)
  rw [Bool.and_eq_true, decide_eq_true_eq] at both
  exact ⟨row, member, both⟩

theorem exclusive_of_sole (queue : CperQueue Unit) (event : CperEvent Unit) :
    Exclusive queue event := by
  cases event with
  | requeueRead _ _ _ => exact fun other different => absurd (Subsingleton.elim _ _) different
  | select _ _ _ => exact fun other different => absurd (Subsingleton.elim _ _) different
  | _ => trivial

section Steps

variable {settings : CperSettings} {counted next : CountedQueue}

/-- A batch whose results land counts each of its rounds. -/
theorem accounted_persist (accounted : counted.Accounted settings) {worker : Unit} (now : Time)
    {answers : AlertId → Option EnrichAnswers} {lands : AlertId → Bool} {rows : List PendingCper}
    (phase : counted.queue.phases worker = .enriching rows)
    (stored : ∀ row ∈ rows, isRound answers row = true → lands row.id = true) (id : AlertId) :
    counted.rounds id + inBatch rows (isRound answers) id ≤ settings.maxAttempts ∧
      ∀ alert, (setCperResultsBatch now lands (enrichBatch settings.maxAttempts answers rows)
          counted.queue.alerts).get id = some alert → alert.cperStatus = some .pending →
        counted.rounds id + inBatch rows (isRound answers) id ≤ alert.cperAttempts := by
  have nodup := accounted.held.sound.distinct worker
  have steady := accounted.held.inHand.steady worker
  rw [phase] at nodup steady
  by_cases round : inBatch rows (isRound answers) id = 0
  · rw [round, Nat.add_zero]
    refine ⟨accounted.bounded id, fun alert found pending => ?_⟩
    rw [get_persist_of_not] at found
    · exact accounted.pending id alert found pending
    · intro row member same
      rw [← Option.not_isSome_iff_eq_none, ← same]
      intro ran
      refine absurd round (Nat.pos_iff_ne_zero.mp (List.countP_pos_iff.mpr ⟨row, member, ?_⟩))
      rw [Bool.and_eq_true, decide_eq_true_eq]
      exact ⟨same, ran⟩
  · obtain ⟨row, member, rfl, ran⟩ := inBatch_pos round
    obtain ⟨answer, answered⟩ := Option.isSome_iff_exists.mp ran
    obtain ⟨before, found, waits, attempts, left⟩ := steady row member
    have once := inBatch_le_one nodup (isRound answers) row.id
    have counts := accounted.pending row.id before found waits
    refine ⟨by omega, fun alert after pending => ?_⟩
    rw [get_persist_of_answer _ _ _ nodup member answered, if_pos (stored row member ran), found,
      Option.map_some] at after
    obtain rfl := Option.some.inj after
    have ends : row.Ends settings.maxAttempts (row.guarded settings.maxAttempts answer) :=
      PendingCper.ends_guarded
    rcases ends.2 with ⟨_, final⟩ | ⟨counted, _⟩
    · rw [Option.some.inj pending] at final
      exact absurd final (by decide)
    · show _ ≤ ite _ _ _
      rw [if_pos counted]
      omega

/-- A new row has no rounds. -/
theorem accounted_insert (accounted : counted.Accounted settings) {id : AlertId}
    (fresh : counted.queue.alerts.get id = none) {row : CperAlert} {other : AlertId}
    {alert : CperAlert} (found : (counted.queue.alerts.set id row).get other = some alert)
    (pending : alert.cperStatus = some .pending) :
    counted.rounds other ≤ alert.cperAttempts := by
  rw [Table.get_set] at found
  split at found
  · next same =>
    rw [same, accounted.absent id fresh]
    exact Nat.zero_le _
  · exact accounted.pending other alert found pending

/-- A row that is not requeued keeps its rounds and its attempts. -/
theorem accounted_requeue (accounted : counted.Accounted settings) {ids : List AlertId}
    {id : AlertId} (kept : id ∉ ids) {alert : CperAlert}
    (found : (requeue ids counted.queue.alerts).get id = some alert)
    (pending : alert.cperStatus = some .pending) : counted.rounds id ≤ alert.cperAttempts := by
  have same : (requeue ids counted.queue.alerts).get id = counted.queue.alerts.get id := by
    simp [requeue, Table.get_updateWhere, kept]
  exact accounted.pending id alert (same.symm.trans found) pending

/-- A row that is still pending was not finalized. -/
theorem accounted_finalize (accounted : counted.Accounted settings) {id : AlertId}
    {alert : CperAlert}
    (found : (finalizeExhausted settings counted.queue.alerts).get id = some alert)
    (pending : alert.cperStatus = some .pending) : counted.rounds id ≤ alert.cperAttempts := by
  obtain ⟨before, was, rewritten⟩ := Option.map_eq_some_iff.mp
    ((Table.get_updateWhere _ _ _ id).symm.trans found)
  split at rewritten
  · rw [← rewritten] at pending
    exact absurd pending (by simp)
  · rw [← rewritten] at pending ⊢
    exact accounted.pending id before was pending

/-- A row that is absent after a batch was absent before, and had no round in it. -/
theorem absent_of_persist (accounted : counted.Accounted settings) {worker : Unit} (now : Time)
    {answers : AlertId → Option EnrichAnswers} {lands : AlertId → Bool} {rows : List PendingCper}
    (phase : counted.queue.phases worker = .enriching rows) {id : AlertId}
    (absent : (setCperResultsBatch now lands (enrichBatch settings.maxAttempts answers rows)
      counted.queue.alerts).get id = none) :
    counted.queue.alerts.get id = none ∧ inBatch rows (isRound answers) id = 0 := by
  have steady := accounted.held.inHand.steady worker
  have nodup := accounted.held.sound.distinct worker
  rw [phase] at steady nodup
  have before : counted.queue.alerts.get id = none := by
    rcases get_persist_cases nodup counted.queue.alerts now answers lands id with
      same | ⟨_, _, _, _, _, _, recorded⟩
    · exact same.symm.trans absent
    · exact Option.map_eq_none_iff.mp (recorded.symm.trans absent)
  refine ⟨before, ?_⟩
  by_contra some
  obtain ⟨row, member, rfl, _⟩ := inBatch_pos some
  obtain ⟨alert, found, _⟩ := steady row member
  exact absurd (before.symm.trans found) (by simp)

theorem isRound_of_isTry {answers : AlertId → Option EnrichAnswers} {row : PendingCper}
    (tried : isTry settings answers row = true) : isRound answers row = true := by
  obtain ⟨answer, answered, _⟩ := (Option.any_eq_true _ _).mp tried
  rw [isRound, answered]
  rfl

theorem CountedQueue.Accounted.step {event : CperEvent Unit}
    (accounted : counted.Accounted settings) (stored : Stored counted event)
    (step : counted.step settings event = some next) : next.Accounted settings := by
  obtain ⟨queue, moved, rfl⟩ := Option.map_eq_some_iff.mp step
  have held := accounted.held.step (exclusive_of_sole _ _) moved
  cases moves_of_step moved with
  | @insert id targetId occurredAt uri eligible fresh =>
    refine ⟨held, accounted.tried, accounted.bounded, fun other absent => ?_,
      fun other alert found pending => accounted_insert accounted fresh found pending⟩
    rw [Table.get_set] at absent
    split at absent
    · exact absurd absent (by simp)
    · exact accounted.absent other absent
  | requeueRead idle page =>
    exact ⟨held, accounted.tried, accounted.bounded, accounted.absent, accounted.pending⟩
  | @requeueWrite worker ids phase =>
    have known : (counted.queue.phases worker).ids = ids := by rw [phase]; rfl
    refine ⟨held, fun id => ?_, fun id => ?_, fun id absent => ?_, fun id alert found pending => ?_⟩
    · show ite _ _ _ ≤ ite _ _ _
      split
      · exact Nat.le_refl 0
      · exact accounted.tried id
    · show ite _ _ _ ≤ _
      split
      · exact Nat.zero_le _
      · exact accounted.bounded id
    · show ite _ _ _ = 0
      split
      · rfl
      · exact accounted.absent id (Table.get_updateWhere_eq_none_iff.mp absent)
    · show ite _ _ _ ≤ _
      split
      · exact Nat.zero_le _
      · next kept =>
        rw [known] at kept
        exact accounted_requeue accounted kept found pending
  | requeueFails phase =>
    exact ⟨held, accounted.tried, accounted.bounded, accounted.absent, accounted.pending⟩
  | finalize =>
    exact ⟨held, accounted.tried, accounted.bounded,
      fun id absent => accounted.absent id (Table.get_updateWhere_eq_none_iff.mp absent),
      fun id alert found pending => accounted_finalize accounted found pending⟩
  | select idle page =>
    exact ⟨held, accounted.tried, accounted.bounded, accounted.absent, accounted.pending⟩
  | @persist worker now answers lands rows phase =>
    have known : (counted.queue.phases worker).rows = rows := by rw [phase]; rfl
    have landed : ∀ row ∈ rows, isRound answers row = true → lands row.id = true := by
      rw [← known]
      exact stored
    have accounts (id : AlertId) := accounted_persist accounted now phase landed id
    show CountedQueue.Accounted settings ⟨_, fun id => _ + inBatch (_ : CperPhase).rows _ id,
      fun id => _ + inBatch (_ : CperPhase).rows _ id⟩
    rw [known]
    refine ⟨held, fun id => ?_, fun id => (accounts id).1, fun id absent => ?_,
      fun id => (accounts id).2⟩
    · exact Nat.add_le_add (accounted.tried id) (inBatch_mono (fun _ => isRound_of_isTry) id)
    · obtain ⟨before, none⟩ := absent_of_persist accounted now phase absent
      show _ + _ = 0
      rw [accounted.absent id before, none]

end Steps

/-! ### Runs of the only worker -/

/-- An empty store and its worker. -/
def CountedQueue.start : CountedQueue where
  queue := { alerts := Table.empty }

theorem CountedQueue.accounted_start (settings : CperSettings) :
    CountedQueue.start.Accounted settings where
  held := CperQueue.held_empty settings
  tried := fun _ => Nat.le_refl 0
  bounded := fun _ => Nat.zero_le _
  absent := fun _ _ => rfl
  pending := fun _ _ _ _ => Nat.zero_le _

/-- In every run in which the result of every enrichment reaches the store, a row is enriched at
most as often between two requeues as it has attempts, and so fetched or decoded anew. -/
theorem retries_bounded (settings : CperSettings) {events : List (CperEvent Unit)}
    {final : CountedQueue}
    (stored : (countingMachine settings).Throughout Stored CountedQueue.start events)
    (run : (countingMachine settings).run CountedQueue.start events = some final) (id : AlertId) :
    final.tries id ≤ settings.maxAttempts ∧ final.rounds id ≤ settings.maxAttempts := by
  have accounted : final.Accounted settings := (countingMachine settings).run_keeps
    (fun accounted stored step => accounted.step stored step)
    (CountedQueue.accounted_start settings) stored run
  exact ⟨(accounted.tried id).trans (accounted.bounded id), accounted.bounded id⟩

instance (counted : CountedQueue) (event : CperEvent Unit) : Decidable (Stored counted event) :=
  match event with
  | .persist worker _ answers lands => inferInstanceAs (Decidable
      (∀ row ∈ (counted.queue.phases worker).rows, isRound answers row = true →
        lands row.id = true))
  | .insert _ _ _ _ _ => isTrue trivial
  | .requeueRead _ _ _ => isTrue trivial
  | .requeueWrite _ => isTrue trivial
  | .requeueFails _ => isTrue trivial
  | .finalize => isTrue trivial
  | .select _ _ _ => isTrue trivial

/-- A fetch that fails. -/
def failedFetch : EnrichAnswers where
  fetched := .failed
  summarize := fun _ => none

/-- A worker finds a new alert and fails to fetch its attachment, a number of times. -/
def failingRounds (lands : Bool) (rounds : Nat) : List (CperEvent Unit) :=
  .insert 1 1 0 (some "/cper") true ::
    (List.replicate rounds [.select () 0 [1],
      .persist () 0 (fun _ => some failedFetch) fun _ => lands]).flatten

theorem storedFailure_bounded :
    ∃ final, (countingMachine {}).run CountedQueue.start (failingRounds true 1) = some final ∧
      final.tries 1 ≤ 3 ∧ final.rounds 1 ≤ 3 := by
  have stored : (countingMachine {}).Throughout Stored CountedQueue.start
      (failingRounds true 1) := by decide
  exact ⟨_, rfl, retries_bounded {} stored rfl 1⟩

/-- A row whose result never reaches the store is fetched beyond its attempts. -/
theorem unstoredFailure_unbounded :
    ∃ final, (countingMachine {}).run CountedQueue.start (failingRounds false 4) = some final ∧
      ¬ final.tries 1 ≤ 3 :=
  ⟨_, rfl, by decide⟩

/-- A batch that does not reach the store leaves it. -/
theorem setCperResultsBatch_lost (now : Time) (results : List CperResult)
    (alerts : Table AlertId CperAlert) :
    setCperResultsBatch now (fun _ => false) results alerts = alerts := by
  induction results with
  | nil => rfl
  | cons result rest inductionHypothesis => exact inductionHypothesis

/-- The account after a cycle. -/
def CountedQueue.afterCycle (settings : CperSettings) (counted : CountedQueue)
    (rows : List PendingCper) (answers : AlertId → Option EnrichAnswers) : CountedQueue where
  queue := counted.queue
  rounds := fun id => counted.rounds id + inBatch rows (isRound answers) id
  tries := fun id => counted.tries id + inBatch rows (isTry settings answers) id

section Lost

variable (settings : CperSettings) {now : Time} {ids : List AlertId}
  (answers : AlertId → Option EnrichAnswers)

/-- A cycle whose results do not reach the store leaves the queue, and counts its rounds. -/
theorem lostCycle {counted : CountedQueue} (idle : counted.queue.phases () = .idle)
    (page : isPage (settings.isPending now)
      (fun first second => decide (first.occurredAt ≤ second.occurredAt)) settings.batchSize
      counted.queue.alerts ids = true) :
    (countingMachine settings).run counted
        [.select () now ids, .persist () now answers fun _ => false] =
      some (counted.afterCycle settings (counted.queue.pendingRows ids) answers) := by
  have selected : counted.queue.step settings (.select () now ids) =
      some (counted.queue.enter () (.enriching (counted.queue.pendingRows ids))) := by
    simp only [CperQueue.step, idle, page, if_true]
  have persisted : (counted.queue.enter () (.enriching (counted.queue.pendingRows ids))).step
      settings (.persist () now answers fun _ => false) = some counted.queue := by
    rw [CperQueue.step, phases_enter_self]
    simp only [setCperResultsBatch_lost]
    exact congrArg some (idle ▸ enter_back counted.queue () _)
  have first : (countingMachine settings).step counted (.select () now ids) = some { counted with
      queue := counted.queue.enter () (.enriching (counted.queue.pendingRows ids)) } := by
    show (counted.queue.step settings _).map _ = _
    rw [selected]
    rfl
  have second : (countingMachine settings).step { counted with
      queue := counted.queue.enter () (.enriching (counted.queue.pendingRows ids)) }
        (.persist () now answers fun _ => false) =
      some (counted.afterCycle settings (counted.queue.pendingRows ids) answers) := by
    simp only [countingMachine, CountedQueue.step, persisted, Option.map_some, phases_enter_self,
      CperPhase.rows]
    rfl
  rw [Machine.run, first, Option.bind_some, Machine.run, second, Option.bind_some,
    Machine.run_nil]

/-- A row that a cycle tries and does not store is tried without end: with each further cycle once
more, while the queue stays as it is. -/
theorem lostCycles_unbounded {counted : CountedQueue} (idle : counted.queue.phases () = .idle)
    (page : isPage (settings.isPending now)
      (fun first second => decide (first.occurredAt ≤ second.occurredAt)) settings.batchSize
      counted.queue.alerts ids = true) (cycles : Nat) :
    ∃ final, (countingMachine settings).run counted (List.replicate cycles
        [.select () now ids, .persist () now answers fun _ => false]).flatten = some final ∧
      final.queue = counted.queue ∧ ∀ id, final.tries id = counted.tries id +
        cycles * inBatch (counted.queue.pendingRows ids) (isTry settings answers) id := by
  induction cycles generalizing counted with
  | zero => exact ⟨counted, rfl, rfl, fun id => by rw [Nat.zero_mul, Nat.add_zero]⟩
  | succ cycles inductionHypothesis =>
    have cycle := lostCycle settings answers idle page
    have later := @inductionHypothesis
      (counted.afterCycle settings (counted.queue.pendingRows ids) answers) idle page
    obtain ⟨final, run, same, counts⟩ := later
    refine ⟨final, ?_, same, fun id => ?_⟩
    · rw [List.replicate_succ, List.flatten_cons]
      exact (countingMachine settings).run_append.mpr ⟨_, cycle, run⟩
    · rw [counts id, Nat.succ_mul, Nat.add_comm (cycles * _), ← Nat.add_assoc]
      rfl

end Lost

end Gyanam
