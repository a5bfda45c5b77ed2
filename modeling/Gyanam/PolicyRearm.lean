/-
This file follows the rearm window of the policy over runs. The window is read
off the records: a policy collection is held off by the record of an earlier one
that is less than a window old. So the window is kept as long as every policy
collection has its record until the window has passed. It is not kept otherwise,
and the record goes early: any later collection of the target, whoever asked for
it, prunes it.
-/

import Gyanam.LogSteps

namespace Gyanam

open Json (Text)

variable {Process : Type}

/-! ### Spacing -/

/-- A policy collection that has not failed. -/
def LogCollection.Stands (collection : LogCollection Process) : Prop :=
  collection.trigger = .policy ∧ collection.phase ≠ .failed

instance (collection : LogCollection Process) : Decidable collection.Stands :=
  inferInstanceAs (Decidable (_ ∧ _))

variable (config : PolicyConfig)

/-- A collection started less than a window ago. -/
def LogCollectors.Recent (state : LogCollectors Process) (collection : LogCollection Process) :
    Prop :=
  state.clock < collection.startedAt + config.window

instance (state : LogCollectors Process) (collection : LogCollection Process) :
    Decidable (state.Recent config collection) :=
  inferInstanceAs (Decidable (_ < _))

/-- Two policy collections of one target that have not failed started a window apart. -/
def LogCollectors.Spaced (state : LogCollectors Process) : Prop :=
  ∀ first second earlier later, first ≠ second → state.collections.get first = some earlier →
    state.collections.get second = some later → earlier.Stands → later.Stands →
      earlier.targetId = later.targetId → earlier.startedAt ≤ later.startedAt →
        earlier.startedAt + config.window ≤ later.startedAt

/-- The policy collections of a target that have not failed meet a condition. -/
def LogCollectors.Standing (state : LogCollectors Process) (targetId : TargetId)
    (holds : LogCollection Process → Prop) : Prop :=
  ∀ entry ∈ state.collections.rows, entry.2.Stands → entry.2.targetId = targetId → holds entry.2

/-- The rearm window is read in time: the clock does not go back; no alert reads the last collection
while one has started and has no record, and none starts a collection when another one has started
since it read; no check falls into the fraction of a second that the record of a collection is
older than its start; and no record is deleted that is still collecting or of a policy collection
that started less than a window ago. -/
def LogCollectors.ReadsInTime (state : LogCollectors Process) : CollectorEvent Process → Prop
  | .tick now => state.clock ≤ now
  | .alert _ _ alert => state.Standing alert.targetId fun collection =>
      collection.phase ≠ .started
  | .evaluate id => ∀ evaluation ∈ state.evaluations.get id,
      state.Standing evaluation.targetId fun collection =>
        state.Recent config collection → ∀ logId ∈ collection.phase.record,
          ∀ log ∈ state.logs.get logId, state.clock < log.collectedAt + config.window
  | .collectSingle id _ _ => ∀ evaluation ∈ state.evaluations.get id,
      state.Standing evaluation.targetId fun collection =>
        collection.startedAt < evaluation.queriedAt
  | .collection id .delete => ∀ collection ∈ state.collections.get id,
      ∀ entry ∈ collection.phase.superseded,
        (∀ log ∈ state.logs.get entry.1, log.status = .completed) ∧
        ∀ other ∈ state.collections.rows, other.2.Stands → other.2.phase.record = some entry.1 →
          ¬ state.Recent config other.2
  | _ => True

/-! ### The invariant -/

/-- A collection relies on its record: it is about to write to it, or it is one that has to hold off
others. -/
def LogCollectors.Relies (state : LogCollectors Process) (collection : LogCollection Process)
    (logId : LogId) : Prop :=
  collection.phase.record = some logId ∧
    (collection.phase.isOpen = true ∨ collection.Stands ∧ state.Recent config collection)

/-- The record is that of the collection. -/
def CollectedLog.RecordOf (log : CollectedLog) (collection : LogCollection Process) : Prop :=
  log.targetId = collection.targetId ∧ log.trigger = collection.trigger ∧
    log.status = collection.phase.status

/-- Nothing is later than the clock, the records that are relied on are there and each belongs to
one collection, and an evaluation goes on only if no collection it knows of is recent. -/
structure LogCollectors.Timed (state : LogCollectors Process) : Prop where
  started : ∀ {id collection}, state.collections.get id = some collection →
    collection.startedAt ≤ state.clock
  queried : ∀ {id evaluation}, state.evaluations.get id = some evaluation →
    evaluation.queriedAt ≤ state.clock
  recorded : ∀ {id collection logId}, state.collections.get id = some collection →
    state.Relies config collection logId →
      ∃ log, state.logs.get logId = some log ∧ log.RecordOf collection
  apart : ∀ {first second earlier later logId}, state.collections.get first = some earlier →
    state.collections.get second = some later → state.Relies config earlier logId →
      state.Relies config later logId → first = second
  known : ∀ {id evaluation other collection}, state.evaluations.get id = some evaluation →
    state.collections.get other = some collection → collection.Stands →
      collection.targetId = evaluation.targetId → collection.startedAt < evaluation.queriedAt →
        state.Recent config collection → evaluation.fires = false ∧
          ∃ logId ∈ collection.phase.record, ∃ log ∈ state.logs.get logId,
            ∃ last ∈ evaluation.last, log.collectedAt ≤ last
  spaced : state.Spaced config

namespace LogCollectors.Timed

variable {config} {state : LogCollectors Process} {id : Nat} {collection : LogCollection Process}
  {step : CollectionStep} {logs : Table LogId CollectedLog} {files : List BundleFile}
  {phase : CollectionPhase}

/-- No record is deleted that is relied on. -/
theorem not_deleted (timed : state.Timed config)
    (inTime : state.ReadsInTime config (.collection id .delete))
    (found : state.collections.get id = some collection) {other : Nat}
    {relying : LogCollection Process} {logId : LogId}
    (present : state.collections.get other = some relying)
    (relies : state.Relies config relying logId) :
    logId ∉ collection.phase.superseded.map Prod.fst := by
  intro gone
  obtain ⟨entry, member, rfl⟩ := List.mem_map.mp gone
  have condition := inTime collection found entry member
  obtain ⟨log, stored, recordOf⟩ := timed.recorded present relies
  have completed := (condition.1 log stored).symm.trans recordOf.2.2
  rcases relies.2 with opened | ⟨stands, recent⟩
  · rw [CollectionPhase.status] at completed
    split at completed
    · next done => exact absurd opened (by simp [CollectionPhase.not_isOpen_of_isDone done])
    · exact absurd completed (by decide)
  · exact condition.2 _ (Table.get_eq_some_iff.mp present) stands relies.1 recent

/-- A step of one collection leaves the records that others rely on. -/
theorem log_other (timed : state.Timed config)
    (inTime : state.ReadsInTime config (.collection id step))
    (found : state.collections.get id = some collection)
    (advances : Advances state collection collection.phase step logs files phase) {other : Nat}
    (different : other ≠ id) {relying : LogCollection Process} {logId : LogId}
    (present : state.collections.get other = some relying)
    (relies : state.Relies config relying logId) : logs.get logId = state.logs.get logId := by
  obtain ⟨log, stored, _⟩ := timed.recorded present relies
  rcases advances.log_after stored with same | ⟨opened, own⟩ | ⟨rfl, gone⟩
  · rw [same, stored]
  · exact absurd (timed.apart present found relies ⟨own, .inl opened⟩) different
  · exact absurd gone (timed.not_deleted inTime found present relies)

/-- A step of a collection leaves the record it relies on, with the status of its next phase. -/
theorem log_own (timed : state.Timed config)
    (inTime : state.ReadsInTime config (.collection id step))
    (found : state.collections.get id = some collection)
    (advances : Advances state collection collection.phase step logs files phase)
    (unfailed : phase ≠ .failed) {logId : LogId} (relies : state.Relies config collection logId)
    {log : CollectedLog} (stored : state.logs.get logId = some log)
    (recordOf : log.RecordOf collection) :
    logs.get logId = some { log with status := phase.status } := by
  have kept := fun deletes : step = .delete =>
    timed.not_deleted (deletes ▸ inTime) found found relies
  have own := relies.1
  have status := recordOf.2.2
  generalize current : collection.phase = before at advances kept own status
  have unchanged (next : CollectionPhase) (same : next.isDone = before.isDone) :
      state.logs.get logId = some { log with status := next.status } := by
    rw [CollectionPhase.status, same, ← CollectionPhase.status, ← status, stored]
  cases advances with
  | create fresh => exact absurd own (by simp [CollectionPhase.record])
  | refuse => exact absurd rfl unfailed
  | fail opened own => exact absurd rfl unfailed
  | complete =>
    obtain rfl := Option.some.inj own
    rw [get_updateCollectedLog, if_pos rfl, stored]
    rfl
  | delete =>
    rw [get_deleteLogs, ← unchanged _ (CollectionPhase.isDone_unlink _ _)]
    exact if_neg (kept rfl)
  | deleteFile => exact unchanged _ (CollectionPhase.isDone_unlink _ _)
  | pruneFails done own => exact unchanged _ done.symm
  | download => exact unchanged _ rfl
  | selectNone none => exact unchanged _ rfl
  | select => exact unchanged _ rfl
  | retryDelete => exact unchanged _ rfl

/-- Before a step of a collection: whatever stands afterwards stood before. -/
theorem stands_before {state : LogCollectors Process} {other : Nat}
    {after : LogCollection Process} (found : state.collections.get id = some collection)
    (advances : Advances state collection collection.phase step logs files phase)
    (present : ({ state with logs := logs, files := files }.enter id collection
      phase).collections.get other = some after) (stands : after.Stands) :
    ∃ before, state.collections.get other = some before ∧ before.Stands ∧
      before.targetId = after.targetId ∧ before.startedAt = after.startedAt := by
  rcases enter_cases present with ⟨rfl, rfl⟩ | ⟨_, same⟩
  · exact ⟨collection, found, ⟨stands.1, advances.ne_failed⟩, rfl, rfl⟩
  · exact ⟨after, same, stands, rfl, rfl⟩

/-- Before a step of a collection: what relies on a record relied on it before, or has just created
it. -/
theorem relies_before (found : state.collections.get id = some collection)
    (advances : Advances state collection collection.phase step logs files phase) {other : Nat}
    {after : LogCollection Process} {logId : LogId}
    (present : ({ state with logs := logs, files := files }.enter id collection
      phase).collections.get other = some after)
    (relies : LogCollectors.Relies config
      ({ state with logs := logs, files := files }.enter id collection phase) after logId) :
    (other = id ∧ step = .create logId ∧ collection.phase = .started ∧
        phase = .collecting logId) ∨
      ∃ before, state.collections.get other = some before ∧ state.Relies config before logId := by
  rcases enter_cases present with ⟨rfl, rfl⟩ | ⟨_, same⟩
  · rcases advances.record_cases relies.1 with ⟨created, started, collecting⟩ | ⟨own, opened⟩
    · exact .inl ⟨rfl, created, started, collecting⟩
    · refine .inr ⟨collection, found, own, relies.2.imp opened fun standing => ?_⟩
      exact ⟨⟨standing.1.1, advances.ne_failed⟩, standing.2⟩
  · exact .inr ⟨after, same, relies⟩

/-- A step of a collection keeps the invariant. -/
theorem advance (timed : state.Timed config)
    (inTime : state.ReadsInTime config (.collection id step))
    (found : state.collections.get id = some collection)
    (advances : Advances state collection collection.phase step logs files phase) :
    LogCollectors.Timed config
      ({ state with logs := logs, files := files }.enter id collection phase) where
  started := by
    intro other after present
    rcases enter_cases present with ⟨rfl, rfl⟩ | ⟨_, same⟩
    · have before : collection.startedAt ≤ state.clock := timed.started found
      exact before
    · exact timed.started same
  queried := timed.queried
  recorded := by
    intro other after logId present relies
    rcases relies_before found advances present relies with
      ⟨rfl, rfl, start, rfl⟩ | ⟨before, was, relied⟩
    · rw [start] at advances
      obtain ⟨_, rfl⟩ := advances.created
      refine ⟨_, (Table.get_set _ _ _ _).trans (if_pos rfl), ?_⟩
      rw [get_enter, if_pos rfl] at present
      rw [← Option.some.inj present]
      exact ⟨rfl, rfl, rfl⟩
    · obtain ⟨log, stored, recordOf⟩ := timed.recorded was relied
      rcases enter_cases present with ⟨rfl, rfl⟩ | ⟨different, same⟩
      · obtain rfl := Option.some.inj (was.symm.trans found)
        have unfailed : phase ≠ .failed := by
          rintro rfl
          exact absurd relies.1 (by simp [CollectionPhase.record])
        exact ⟨_, timed.log_own inTime found advances unfailed relied stored recordOf,
          recordOf.1, recordOf.2.1, rfl⟩
      · obtain rfl := Option.some.inj (was.symm.trans same)
        refine ⟨log, ?_, recordOf⟩
        exact (timed.log_other inTime found advances different was relied).trans stored
  apart := by
    intro first second earlier later logId present present' relies relies'
    have lone {other : Nat} {before : LogCollection Process}
        (fresh : state.logs.get logId = none) (was : state.collections.get other = some before)
        (relied : state.Relies config before logId) : False := by
      obtain ⟨log, stored, _⟩ := timed.recorded was relied
      exact absurd (fresh.symm.trans stored) (by simp)
    rcases relies_before found advances present relies with
      ⟨rfl, rfl, start, rfl⟩ | ⟨before, was, relied⟩
    · rw [start] at advances
      rcases relies_before found (start ▸ advances) present' relies' with
        ⟨rfl, _⟩ | ⟨before, was, relied⟩
      · rfl
      · exact (lone advances.created.1 was relied).elim
    · rcases relies_before found advances present' relies' with
        ⟨rfl, rfl, start, rfl⟩ | ⟨before', was', relied'⟩
      · rw [start] at advances
        exact (lone advances.created.1 was relied).elim
      · exact timed.apart was was' relied relied'
  known := by
    intro other evaluation number after asked present stands own early recent
    obtain ⟨before, was, stood, target, start⟩ := stands_before found advances present stands
    rw [← target] at own
    rw [← start] at early
    have lately : state.Recent config before := by
      rw [LogCollectors.Recent, start]
      exact recent
    obtain ⟨unfired, logId, recorded, log, stored, last, read, le⟩ :=
      timed.known asked was stood own early lately
    have relied : state.Relies config before logId := ⟨recorded, .inr ⟨stood, lately⟩⟩
    refine ⟨unfired, logId, ?_⟩
    rcases enter_cases present with ⟨rfl, rfl⟩ | ⟨different, same⟩
    · obtain rfl := Option.some.inj (was.symm.trans found)
      obtain ⟨log', stored', recordOf⟩ := timed.recorded was relied
      obtain rfl := Option.some.inj (stored.symm.trans stored')
      exact ⟨advances.record_eq stands.2 recorded, _,
        timed.log_own inTime found advances stands.2 relied stored recordOf, last, read, le⟩
    · obtain rfl := Option.some.inj (was.symm.trans same)
      exact ⟨recorded, log,
        (timed.log_other inTime found advances different was relied).trans stored, last, read, le⟩
  spaced := by
    intro first second earlier later different present present' stands stands' own ordered
    obtain ⟨before, was, stood, target, start⟩ := stands_before found advances present stands
    obtain ⟨before', was', stood', target', start'⟩ :=
      stands_before found advances present' stands'
    rw [← start, ← start'] at ordered ⊢
    exact timed.spaced first second before before' different was was' stood stood'
      (target.trans (own.trans target'.symm)) ordered

/-- The clock goes on. -/
theorem tick (timed : state.Timed config) {now : Time} (forward : state.clock ≤ now) :
    LogCollectors.Timed config { state with clock := now } where
  started := fun found => (timed.started found).trans forward
  queried := fun found => (timed.queried found).trans forward
  recorded := fun found relies => timed.recorded found
    ⟨relies.1, relies.2.imp_right fun standing => ⟨standing.1, forward.trans_lt standing.2⟩⟩
  apart := fun found found' relies relies' => timed.apart found found'
    ⟨relies.1, relies.2.imp_right fun standing => ⟨standing.1, forward.trans_lt standing.2⟩⟩
    ⟨relies'.1, relies'.2.imp_right fun standing => ⟨standing.1, forward.trans_lt standing.2⟩⟩
  known := fun asked found stands own early recent =>
    timed.known asked found stands own early (forward.trans_lt recent)
  spaced := timed.spaced

/-- The invariant does not depend on evaluations that are gone, and new ones have to know what is
recent. -/
theorem evaluations (timed : state.Timed config) (evaluations : Table Nat (Evaluation Process))
    (queried : ∀ {id evaluation}, evaluations.get id = some evaluation →
      evaluation.queriedAt ≤ state.clock)
    (known : ∀ {id evaluation other collection}, evaluations.get id = some evaluation →
      state.collections.get other = some collection → collection.Stands →
        collection.targetId = evaluation.targetId → collection.startedAt < evaluation.queriedAt →
          state.Recent config collection → evaluation.fires = false ∧
            ∃ logId ∈ collection.phase.record, ∃ log ∈ state.logs.get logId,
              ∃ last ∈ evaluation.last, log.collectedAt ≤ last) :
    LogCollectors.Timed config { state with evaluations := evaluations } where
  started := timed.started
  queried := queried
  recorded := timed.recorded
  apart := timed.apart
  known := known
  spaced := timed.spaced

theorem drop (timed : state.Timed config) (id : Nat) : (state.drop id).Timed config := by
  have kept {other : Nat} {evaluation : Evaluation Process}
      (found : (state.evaluations.remove id).get other = some evaluation) :
      state.evaluations.get other = some evaluation := by
    rw [Table.get_remove] at found
    split at found
    · exact absurd found (by simp)
    · exact found
  exact timed.evaluations (state.evaluations.remove id) (fun found => timed.queried (kept found))
    fun found => timed.known (kept found)

/-- A query sees the record of every policy collection that has one. -/
theorem query (timed : state.Timed config) (id : Nat) (process : Process) (targetId : TargetId)
    (recorded : state.Standing targetId fun collection => collection.phase ≠ .started) :
    LogCollectors.Timed config { state with
      evaluations := state.evaluations.set id {
        process := process
        targetId := targetId
        last := lastPolicyCollectionTime state.logs targetId
        queriedAt := state.clock } } := by
  refine timed.evaluations _ (fun {other evaluation} found => ?_)
    fun {other evaluation number collection} found present stands own early recent => ?_
  · rw [Table.get_set] at found
    split at found
    · rw [← Option.some.inj found]
    · exact timed.queried found
  · rw [Table.get_set] at found
    split at found
    · obtain rfl := Option.some.inj found
      have begun := recorded _ (Table.get_eq_some_iff.mp present) stands own
      obtain ⟨logId, record⟩ : ∃ logId, collection.phase.record = some logId := by
        cases phase : collection.phase with
        | started => exact absurd phase begun
        | failed => exact absurd phase stands.2
        | collecting logId => exact ⟨logId, rfl⟩
        | written logId => exact ⟨logId, rfl⟩
        | completed logId => exact ⟨logId, rfl⟩
        | pruning logId superseded => exact ⟨logId, rfl⟩
        | cleaning logId files => exact ⟨logId, rfl⟩
        | finished logId => exact ⟨logId, rfl⟩
      obtain ⟨log, stored, recordOf⟩ :=
        timed.recorded present ⟨record, .inr ⟨stands, recent⟩⟩
      have unfailed : log.status ≠ .failed := by
        rw [recordOf.2.2, CollectionPhase.status]
        split <;> decide
      obtain ⟨last, read, le⟩ := le_lastPolicyCollectionTime logId stored
        (recordOf.2.1.trans stands.1) unfailed
      rw [recordOf.1, own] at read
      exact ⟨rfl, logId, record, log, stored, last, read, le⟩
    · exact timed.known found present stands own early recent

/-- An evaluation that goes on knows of no recent collection. -/
theorem fire (timed : state.Timed config) {evaluation : Evaluation Process}
    (found : state.evaluations.get id = some evaluation)
    (due : config.rearmActive evaluation.last state.clock = false)
    (inTime : state.ReadsInTime config (.evaluate id)) :
    LogCollectors.Timed config { state with
      evaluations := state.evaluations.set id { evaluation with fires := true } } := by
  refine timed.evaluations _ (fun {other current} asked => ?_)
    fun {other current number collection} asked present stands own early recent => ?_
  · rw [Table.get_set] at asked
    split at asked
    · rw [← Option.some.inj asked]
      have before : evaluation.queriedAt ≤ state.clock := timed.queried found
      exact before
    · exact timed.queried asked
  · rw [Table.get_set] at asked
    split at asked
    · obtain rfl := Option.some.inj asked
      obtain ⟨_, logId, record, log, stored, last, read, le⟩ :=
        timed.known found present stands own early recent
      have held := inTime evaluation found _ (Table.get_eq_some_iff.mp present) stands own recent
        logId record log stored
      rw [read, PolicyConfig.rearmActive, Option.any_some, decide_eq_false_iff_not] at due
      exact absurd (sub_lt_iff_lt_add'.mpr (held.trans_le (add_le_add_left le _))) due
    · exact timed.known asked present stands own early recent

/-- A collection that starts when those of its kind are a window old. -/
theorem begin (timed : state.Timed config) (id : Nat) (process : Process) (trigger : LogTrigger)
    (targetId : TargetId) (name : String)
    (due : trigger = .policy → state.Standing targetId fun collection =>
      collection.startedAt + config.window ≤ state.clock) :
    LogCollectors.Timed config { state with
      collections := state.collections.set id (.begin state process trigger targetId name) } := by
  have cases_get {other : Nat} {found : LogCollection Process}
      (present : (state.collections.set id
        (.begin state process trigger targetId name)).get other = some found) :
      other = id ∧ found = .begin state process trigger targetId name ∨
        state.collections.get other = some found := by
    rw [Table.get_set] at present
    split at present
    · next same => exact .inl ⟨same, (Option.some.inj present).symm⟩
    · exact .inr present
  have unrecorded {logId : LogId} :
      (LogCollection.begin state process trigger targetId name).phase.record ≠ some logId := nofun
  refine ⟨fun present => ?_, timed.queried, fun present relies => ?_,
    fun present present' relies relies' => ?_, fun asked present stands own early recent => ?_, ?_⟩
  · rcases cases_get present with ⟨_, rfl⟩ | before
    · exact le_refl state.clock
    · exact timed.started before
  · rcases cases_get present with ⟨_, rfl⟩ | before
    · exact absurd relies.1 unrecorded
    · exact timed.recorded before relies
  · rcases cases_get present with ⟨_, rfl⟩ | before
    · exact absurd relies.1 unrecorded
    · rcases cases_get present' with ⟨_, rfl⟩ | before'
      · exact absurd relies'.1 unrecorded
      · exact timed.apart before before' relies relies'
  · rcases cases_get present with ⟨_, rfl⟩ | before
    · exact absurd early (timed.queried asked).not_gt
    · exact timed.known asked before stands own early recent
  · intro first second earlier later different present present' stands stands' own ordered
    rcases cases_get present with ⟨rfl, rfl⟩ | before
    · rcases cases_get present' with ⟨rfl, _⟩ | before'
      · exact absurd rfl different
      · have past := due stands.1 _ (Table.get_eq_some_iff.mp before') stands' own.symm
        exact (add_le_add_left ordered _).trans (past.trans ordered)
    · rcases cases_get present' with ⟨rfl, rfl⟩ | before'
      · exact due stands'.1 _ (Table.get_eq_some_iff.mp before) stands own
      · exact timed.spaced first second earlier later different before before' stands stands' own
          ordered

end LogCollectors.Timed

/-! ### Runs -/

/-- Steps that read the window in time keep the invariant. -/
theorem LogCollectors.Timed.step [DecidableEq Process] {casefold : Text → Text}
    {config : PolicyConfig} {state next : LogCollectors Process} {event : CollectorEvent Process}
    (timed : state.Timed config) (inTime : state.ReadsInTime config event)
    (step : state.step casefold config event = some next) : next.Timed config := by
  cases logMoves_of_step step with
  | tick => exact timed.tick inTime
  | idle => exact timed
  | query considered => exact timed.query _ _ _ inTime
  | drop => exact timed.drop _
  | fire found unfired due => exact timed.fire found due inTime
  | @collect id collection evaluation name found fires fresh =>
    refine (timed.begin collection evaluation.process .policy evaluation.targetId name
      fun _ => ?_).drop id
    intro entry member stands own
    have early := inTime evaluation found entry member stands own
    rw [← not_lt]
    intro recent
    have unfired := (timed.known found (Table.get_eq_some_iff.mpr member) stands own early
      recent).1
    exact absurd (unfired.symm.trans fires) (by simp)
  | request asked fresh => exact timed.begin _ _ _ _ _ fun policy => absurd policy asked
  | advance found advances => exact timed.advance inTime found advances

theorem LogCollectors.timed_start (now : Time) :
    LogCollectors.Timed config ({ clock := now } : LogCollectors Process) where
  started := fun found => absurd found (by simp)
  queried := fun found => absurd found (by simp)
  recorded := fun found => absurd found (by simp)
  apart := fun found => absurd found (by simp)
  known := fun found => absurd found (by simp)
  spaced := fun _ _ _ _ _ found => absurd found (by simp)

/-- The rearm window. In every run in which the window is read in time, two policy collections of
one target that have not failed started a window apart. -/
theorem rearm_window_kept [DecidableEq Process] (casefold : Text → Text) (now : Time)
    {events : List (CollectorEvent Process)} {final : LogCollectors Process}
    (inTime : (collectorMachine casefold config).Throughout
      (LogCollectors.ReadsInTime config) { clock := now } events)
    (run : (collectorMachine casefold config).run { clock := now } events = some final) :
    final.Spaced config :=
  ((collectorMachine casefold config).run_keeps
    (fun timed inTime step => LogCollectors.Timed.step timed inTime step)
    (LogCollectors.timed_start config now) inTime run).spaced

instance (state : LogCollectors Process) (event : CollectorEvent Process) :
    Decidable (state.ReadsInTime config event) :=
  match event with
  | .tick now => inferInstanceAs (Decidable (state.clock ≤ now))
  | .alert _ _ alert => inferInstanceAs (Decidable (∀ entry ∈ state.collections.rows,
      entry.2.Stands → entry.2.targetId = alert.targetId → entry.2.phase ≠ .started))
  | .evaluate id => inferInstanceAs (Decidable (∀ evaluation ∈ state.evaluations.get id,
      ∀ entry ∈ state.collections.rows, entry.2.Stands → entry.2.targetId = evaluation.targetId →
        state.Recent config entry.2 → ∀ logId ∈ entry.2.phase.record,
          ∀ log ∈ state.logs.get logId, state.clock < log.collectedAt + config.window))
  | .collectSingle id _ _ => inferInstanceAs (Decidable (∀ evaluation ∈ state.evaluations.get id,
      ∀ entry ∈ state.collections.rows, entry.2.Stands → entry.2.targetId = evaluation.targetId →
        entry.2.startedAt < evaluation.queriedAt))
  | .collection id .delete => inferInstanceAs (Decidable (∀ collection ∈ state.collections.get id,
      ∀ entry ∈ collection.phase.superseded,
        (∀ log ∈ state.logs.get entry.1, log.status = .completed) ∧
        ∀ other ∈ state.collections.rows, other.2.Stands → other.2.phase.record = some entry.1 →
          ¬ state.Recent config other.2))
  | .evaluationFails _ => isTrue trivial
  | .request _ _ _ _ _ => isTrue trivial
  | .collection _ (.create _) => isTrue trivial
  | .collection _ .createFails => isTrue trivial
  | .collection _ .download => isTrue trivial
  | .collection _ .complete => isTrue trivial
  | .collection _ (.fail _) => isTrue trivial
  | .collection _ .select => isTrue trivial
  | .collection _ .retryDelete => isTrue trivial
  | .collection _ .pruneFails => isTrue trivial
  | .collection _ .deleteFile => isTrue trivial

/-- A critical alert that starts a policy collection, up to its completion. -/
def policyCollection (number logId : Nat) : List (CollectorEvent LogProcess) :=
  [.alert number .collector (sampleAlert .null none), .evaluate number,
    .collectSingle number number (some "bmc"), .collection number (.create logId),
    .collection number .download, .collection number .complete, .collection number .select]

/-- A manual collection of the same target, with the pruning of one record. -/
def manualCollection (number logId : Nat) : List (CollectorEvent LogProcess) :=
  [.request number .api .manual 1 (some "bmc"), .collection number (.create logId),
    .collection number .download, .collection number .complete, .collection number .select,
    .collection number .delete, .collection number .deleteFile]

/-- Two alerts a window apart. -/
def spacedAlerts : List (CollectorEvent LogProcess) :=
  policyCollection 1 1 ++ .tick 7200000000 :: policyCollection 2 2

theorem spacedAlerts_spaced : ∃ final : LogCollectors LogProcess,
    (collectorMachine Strings.lower {}).run { clock := 0 } spacedAlerts = some final ∧
      final.Spaced {} := by
  have inTime : (collectorMachine Strings.lower {}).Throughout
      (LogCollectors.ReadsInTime {}) ({ clock := 0 } : LogCollectors LogProcess) spacedAlerts := by
    decide +kernel
  exact ⟨_, rfl, rearm_window_kept {} Strings.lower 0 inTime rfl⟩

/-- Two alerts ten seconds apart, with a manual collection between them. -/
def alertsAroundManual : List (CollectorEvent LogProcess) :=
  policyCollection 1 1 ++ .tick 5000000 :: manualCollection 2 2 ++
    .tick 10000000 :: policyCollection 3 3

/-- A manual collection prunes the record that holds off the policy. -/
theorem prunedRecord_rearms : ∃ final : LogCollectors LogProcess,
    (collectorMachine Strings.lower {}).run { clock := 0 } alertsAroundManual = some final ∧
      ¬ final.Spaced {} := by
  refine ⟨_, rfl, fun spaced => ?_⟩
  have apart := spaced 1 3 _ _ (by decide) rfl rfl (by decide) (by decide) rfl (by decide)
  exact absurd apart (by decide)

end Gyanam
