/-
This file says what a step of the log collectors does: which part of the state it
touches, how a collection goes from one phase to the next, and what the
statements on the records do to a record.
-/

import Gyanam.CollectedLogs

namespace Gyanam

open Json (Text)

/-! ### Phases -/

namespace CollectionPhase

/-- The record of a phase. -/
def record : CollectionPhase → Option LogId
  | .started | .failed => none
  | .collecting logId | .written logId | .completed logId | .pruning logId _ | .cleaning logId _
  | .finished logId => some logId

/-- The collection has its record and is not completed. -/
def isOpen : CollectionPhase → Bool
  | .collecting _ | .written _ => true
  | _ => false

/-- The collection has completed. -/
def isDone : CollectionPhase → Bool
  | .completed _ | .pruning _ _ | .cleaning _ _ | .finished _ => true
  | _ => false

/-- The records a phase is about to delete, with their files. -/
def superseded : CollectionPhase → List (LogId × BundleFile)
  | .pruning _ superseded => superseded
  | _ => []

/-- The files a phase is about to unlink. -/
def unlinking : CollectionPhase → List BundleFile
  | .cleaning _ files => files
  | _ => []

/-- The status of the record. -/
def status (phase : CollectionPhase) : LogStatus := if phase.isDone then .completed else .collecting

@[simp] theorem record_unlink (logId : LogId) (files : List BundleFile) :
    (unlink logId files).record = some logId := by
  cases files <;> rfl

@[simp] theorem isDone_unlink (logId : LogId) (files : List BundleFile) :
    (unlink logId files).isDone = true := by
  cases files <;> rfl

@[simp] theorem isOpen_unlink (logId : LogId) (files : List BundleFile) :
    (unlink logId files).isOpen = false := by
  cases files <;> rfl

@[simp] theorem superseded_unlink (logId : LogId) (files : List BundleFile) :
    (unlink logId files).superseded = [] := by
  cases files <;> rfl

@[simp] theorem unlinking_unlink (logId : LogId) (files : List BundleFile) :
    (unlink logId files).unlinking = files := by
  cases files <;> rfl

theorem isDone_of_superseded {phase : CollectionPhase} {entry : LogId × BundleFile}
    (chosen : entry ∈ phase.superseded) : phase.isDone = true := by
  cases phase with
  | pruning logId superseded => rfl
  | _ => exact absurd chosen List.not_mem_nil

theorem not_isOpen_of_isDone {phase : CollectionPhase} (done : phase.isDone = true) :
    phase.isOpen = false := by
  cases phase <;> simp_all [isDone, isOpen]

end CollectionPhase

/-! ### Records -/

section Records

variable (logs : Table LogId CollectedLog) (logId other : LogId)

theorem get_updateCollectedLog (status : LogStatus) :
    (updateCollectedLog logId status logs).get other =
      if other = logId then (logs.get other).map fun log => { log with status := status }
      else logs.get other := by
  rw [updateCollectedLog, Table.get_updateWhere]
  by_cases same : other = logId <;> simp [same]

theorem get_deleteLogs (ids : List LogId) :
    (deleteLogs ids logs).get other = if other ∈ ids then none else logs.get other := by
  rw [deleteLogs, Table.get_deleteWhere]
  by_cases gone : other ∈ ids
  · rw [if_pos gone]
    cases logs.get other <;> simp [gone]
  · rw [if_neg gone]
    cases logs.get other <;> simp [gone]

variable {logs}

theorem mem_priorTargetLogs {targetId : TargetId} {keepLogId : LogId} {entry : LogId × BundleFile} :
    entry ∈ priorTargetLogs targetId keepLogId logs ↔
      ∃ log, logs.get entry.1 = some log ∧ log.file = entry.2 ∧ log.targetId = targetId ∧
        entry.1 ≠ keepLogId ∧ log.status = .completed := by
  simp only [priorTargetLogs, List.mem_map, List.mem_filter, decide_eq_true_eq, Prod.exists,
    Table.get_eq_some_iff]
  constructor
  · rintro ⟨logId, log, ⟨member, own, different, completed⟩, rfl⟩
    exact ⟨log, member, rfl, own, different, completed⟩
  · rintro ⟨log, member, file, own, different, completed⟩
    exact ⟨entry.1, log, ⟨member, own, different, completed⟩, by rw [file]⟩

/-- The last policy collection is no earlier than the record of any that did not fail. -/
theorem le_lastPolicyCollectionTime {log : CollectedLog} (found : logs.get logId = some log)
    (policy : log.trigger = .policy) (unfailed : log.status ≠ .failed) :
    ∃ last, lastPolicyCollectionTime logs log.targetId = some last ∧ log.collectedAt ≤ last := by
  have member : log.collectedAt ∈ ((logs.rows.map Prod.snd).filter fun other =>
      decide (other.targetId = log.targetId ∧ other.trigger = .policy ∧
        other.status ≠ .failed)).map CollectedLog.collectedAt := by
    refine List.mem_map_of_mem (List.mem_filter.mpr ⟨?_, ?_⟩)
    · exact List.mem_map.mpr ⟨(logId, log), Table.get_eq_some_iff.mp found, rfl⟩
    · exact decide_eq_true ⟨rfl, policy, unfailed⟩
  cases latest : lastPolicyCollectionTime logs log.targetId with
  | none =>
    rw [lastPolicyCollectionTime, List.max?_eq_none_iff] at latest
    rw [latest] at member
    exact absurd member List.not_mem_nil
  | some last =>
    rw [lastPolicyCollectionTime] at latest
    exact ⟨last, rfl, (List.max?_eq_some_iff.mp latest).2 _ member⟩

end Records

/-! ### What a step does -/

variable {Process : Type}

/-- The steps of a collection from one phase to the next, and what they do to the records and
files. -/
inductive Advances (state : LogCollectors Process) (collection : LogCollection Process) :
    CollectionPhase → CollectionStep → Table LogId CollectedLog → List BundleFile →
      CollectionPhase → Prop where
  | create {logId : LogId} (fresh : state.logs.get logId = none) :
      Advances state collection .started (.create logId)
        (state.logs.set logId {
          targetId := collection.targetId
          file := collection.file
          status := .collecting
          trigger := collection.trigger
          collectedAt := wholeSeconds state.clock }) state.files (.collecting logId)
  | refuse {step : CollectionStep} :
      Advances state collection .started step state.logs state.files .failed
  | download {logId : LogId} :
      Advances state collection (.collecting logId) .download state.logs
        (collection.file :: state.files) (.written logId)
  | fail {phase : CollectionPhase} {logId : LogId} {stored : Bool} (opened : phase.isOpen = true)
      (own : phase.record = some logId) :
      Advances state collection phase (.fail stored)
        (if stored then updateCollectedLog logId .failed state.logs else state.logs) state.files
        .failed
  | complete {logId : LogId} :
      Advances state collection (.written logId) .complete
        (updateCollectedLog logId .completed state.logs) state.files (.completed logId)
  | selectNone {logId : LogId}
      (none : priorTargetLogs collection.targetId logId state.logs = []) :
      Advances state collection (.completed logId) .select state.logs state.files (.finished logId)
  | select {logId : LogId} :
      Advances state collection (.completed logId) .select state.logs state.files
        (.pruning logId (priorTargetLogs collection.targetId logId state.logs))
  | delete {logId : LogId} {superseded : List (LogId × BundleFile)} :
      Advances state collection (.pruning logId superseded) .delete
        (deleteLogs (superseded.map Prod.fst) state.logs) state.files
        (.unlink logId (superseded.map Prod.snd))
  | retryDelete {logId : LogId} {superseded : List (LogId × BundleFile)} :
      Advances state collection (.pruning logId superseded) .retryDelete state.logs state.files
        (.completed logId)
  | pruneFails {phase : CollectionPhase} {logId : LogId} (done : phase.isDone = true)
      (own : phase.record = some logId) :
      Advances state collection phase .pruneFails state.logs state.files (.finished logId)
  | deleteFile {logId : LogId} {file : BundleFile} {rest : List BundleFile} :
      Advances state collection (.cleaning logId (file :: rest)) .deleteFile state.logs
        (state.files.filter fun other => decide (other ≠ file)) (.unlink logId rest)

theorem advances_of_advance {state next : LogCollectors Process} {id : Nat}
    {collection : LogCollection Process} {phase : CollectionPhase} {step : CollectionStep}
    (advance : state.advance id collection phase step = some next) :
    ∃ logs files phase', Advances state collection phase step logs files phase' ∧
      next = { state with logs := logs, files := files }.enter id collection phase' := by
  unfold LogCollectors.advance at advance
  split at advance
  · split at advance
    · exact absurd advance (by simp)
    · next fresh =>
      split at advance
      · exact ⟨_, _, _, .refuse, (Option.some.inj advance).symm⟩
      · exact ⟨_, _, _, .create (Option.not_isSome_iff_eq_none.mp fresh),
          (Option.some.inj advance).symm⟩
  · exact ⟨_, _, _, .refuse, (Option.some.inj advance).symm⟩
  · exact ⟨_, _, _, .download, (Option.some.inj advance).symm⟩
  · exact ⟨_, _, _, .fail rfl rfl, (Option.some.inj advance).symm⟩
  · exact ⟨_, _, _, .fail rfl rfl, (Option.some.inj advance).symm⟩
  · exact ⟨_, _, _, .complete, (Option.some.inj advance).symm⟩
  · split at advance
    · next none => exact ⟨_, _, _, .selectNone none, (Option.some.inj advance).symm⟩
    · next some =>
      refine ⟨_, _, _, .select, ?_⟩
      rw [some]
      exact (Option.some.inj advance).symm
  · exact ⟨_, _, _, .delete, (Option.some.inj advance).symm⟩
  · exact ⟨_, _, _, .retryDelete, (Option.some.inj advance).symm⟩
  · exact ⟨_, _, _, .deleteFile, (Option.some.inj advance).symm⟩
  · exact ⟨_, _, _, .pruneFails rfl rfl, (Option.some.inj advance).symm⟩
  · exact ⟨_, _, _, .pruneFails rfl rfl, (Option.some.inj advance).symm⟩
  · exact ⟨_, _, _, .pruneFails rfl rfl, (Option.some.inj advance).symm⟩
  · exact absurd advance (by simp)

/-- A collection that starts. -/
def LogCollection.begin (state : LogCollectors Process) (process : Process) (trigger : LogTrigger)
    (targetId : TargetId) (name : String) : LogCollection Process where
  process := process
  targetId := targetId
  trigger := trigger
  startedAt := state.clock
  file := ⟨sanitizeFilename name, state.clock⟩

/-- The events of the collectors, each with its guard. -/
inductive LogMoves [DecidableEq Process] (casefold : Text → Text) (config : PolicyConfig)
    (state : LogCollectors Process) : CollectorEvent Process → LogCollectors Process → Prop where
  | tick {now : Time} : LogMoves casefold config state (.tick now) { state with clock := now }
  | idle {event : CollectorEvent Process} : LogMoves casefold config state event state
  | query {id : Nat} {process : Process} {alert : AlertEvent}
      (considered : config.considers casefold alert = true) :
      LogMoves casefold config state (.alert id process alert) { state with
        evaluations := state.evaluations.set id {
          process := process
          targetId := alert.targetId
          last := lastPolicyCollectionTime state.logs alert.targetId
          queriedAt := state.clock } }
  | drop {event : CollectorEvent Process} {id : Nat} :
      LogMoves casefold config state event (state.drop id)
  | fire {id : Nat} {evaluation : Evaluation Process}
      (found : state.evaluations.get id = some evaluation) (unfired : evaluation.fires = false)
      (due : config.rearmActive evaluation.last state.clock = false) :
      LogMoves casefold config state (.evaluate id) { state with
        evaluations := state.evaluations.set id { evaluation with fires := true } }
  | collect {id collection : Nat} {evaluation : Evaluation Process} {name : String}
      (found : state.evaluations.get id = some evaluation) (fires : evaluation.fires = true)
      (fresh : state.collections.get collection = none) :
      LogMoves casefold config state (.collectSingle id collection (some name)) { state.drop id with
        collections := state.collections.set collection
          (.begin state evaluation.process .policy evaluation.targetId name) }
  | request {collection : Nat} {process : Process} {trigger : LogTrigger} {targetId : TargetId}
      {name : String} (asked : trigger ≠ .policy)
      (fresh : state.collections.get collection = none) :
      LogMoves casefold config state (.request collection process trigger targetId (some name))
        { state with
          collections := state.collections.set collection
            (.begin state process trigger targetId name) }
  | advance {id : Nat} {collection : LogCollection Process} {step : CollectionStep}
      {logs : Table LogId CollectedLog} {files : List BundleFile} {phase : CollectionPhase}
      (found : state.collections.get id = some collection)
      (advances : Advances state collection collection.phase step logs files phase) :
      LogMoves casefold config state (.collection id step)
        ({ state with logs := logs, files := files }.enter id collection phase)

section Steps

variable [DecidableEq Process] {casefold : Text → Text} {config : PolicyConfig}

/-- A start that is not refused leaves all as it was or adds a collection. -/
theorem start_cases {state next : LogCollectors Process} {id : Nat} {process : Process}
    {trigger : LogTrigger} {targetId : TargetId} {target : Option String}
    (started : state.start id process trigger targetId target = some next) :
    next = state ∨ ∃ name, target = some name ∧ state.collections.get id = none ∧
      next = { state with
        collections := state.collections.set id (.begin state process trigger targetId name) } := by
  cases target with
  | none => exact .inl (Option.some.inj started).symm
  | some name =>
    rw [LogCollectors.start] at started
    split at started
    · exact absurd started (by simp)
    · next fresh =>
      split at started
      · exact .inl (Option.some.inj started).symm
      · exact .inr ⟨name, rfl, Option.not_isSome_iff_eq_none.mp fresh,
          (Option.some.inj started).symm⟩

theorem logMoves_of_step {state next : LogCollectors Process} {event : CollectorEvent Process}
    (step : state.step casefold config event = some next) :
    LogMoves casefold config state event next := by
  cases event <;> simp only [LogCollectors.step] at step
  case tick now =>
    obtain rfl := Option.some.inj step
    exact .tick
  case alert id process alert =>
    split at step
    · exact absurd step (by simp)
    · split at step
      · next considered =>
        obtain rfl := Option.some.inj step
        exact .query considered
      · obtain rfl := Option.some.inj step
        exact .idle
  case evaluate id =>
    obtain ⟨evaluation, found, step⟩ := Option.bind_eq_some_iff.mp step
    split at step
    · exact absurd step (by simp)
    · next unfired =>
      split at step
      · obtain rfl := Option.some.inj step
        exact .drop
      · next due =>
        split at step
        · obtain rfl := Option.some.inj step
          exact .drop
        · obtain rfl := Option.some.inj step
          exact .fire found (Bool.eq_false_iff.mpr unfired) (Bool.eq_false_iff.mpr due)
  case evaluationFails id =>
    obtain ⟨_, _, rfl⟩ := Option.map_eq_some_iff.mp step
    exact .drop
  case collectSingle id collection target =>
    obtain ⟨evaluation, found, step⟩ := Option.bind_eq_some_iff.mp step
    split at step
    · next fires =>
      rcases start_cases step with rfl | ⟨name, rfl, fresh, rfl⟩
      · exact .drop
      · exact .collect found fires fresh
    · exact absurd step (by simp)
  case request collection process trigger targetId target =>
    split at step
    · exact absurd step (by simp)
    · next asked =>
      rcases start_cases step with rfl | ⟨name, rfl, fresh, rfl⟩
      · exact .idle
      · exact .request asked fresh
  case collection id step' =>
    obtain ⟨collection, found, step⟩ := Option.bind_eq_some_iff.mp step
    obtain ⟨logs, files, phase, advances, rfl⟩ := advances_of_advance step
    exact .advance found advances

end Steps

/-! ### Collections after a step -/

theorem get_enter (state : LogCollectors Process) (id other : Nat)
    (collection : LogCollection Process) (phase : CollectionPhase) :
    (state.enter id collection phase).collections.get other =
      if other = id then some { collection with phase := phase }
      else state.collections.get other := by
  rw [LogCollectors.enter, Table.get_set]

/-- A collection that another one's step leaves, or its own new phase. -/
theorem enter_cases {state : LogCollectors Process} {id other : Nat}
    {collection found : LogCollection Process} {phase : CollectionPhase}
    (got : (state.enter id collection phase).collections.get other = some found) :
    other = id ∧ found = { collection with phase := phase } ∨
      other ≠ id ∧ state.collections.get other = some found := by
  rw [get_enter] at got
  split at got
  · next same => exact .inl ⟨same, (Option.some.inj got).symm⟩
  · next different => exact .inr ⟨different, got⟩

section Advances

variable {state : LogCollectors Process} {collection : LogCollection Process}
  {phase next : CollectionPhase} {step : CollectionStep} {logs : Table LogId CollectedLog}
  {files : List BundleFile}

/-- A failed collection takes no further step. -/
theorem Advances.ne_failed (advances : Advances state collection phase step logs files next) :
    phase ≠ .failed := by
  rintro rfl
  cases advances with
  | fail opened own => exact absurd opened (by decide)
  | pruneFails done own => exact absurd done (by decide)

/-- A collection keeps its record until it fails. -/
theorem Advances.record_eq (advances : Advances state collection phase step logs files next)
    (unfailed : next ≠ .failed) {logId : LogId} (own : phase.record = some logId) :
    next.record = some logId := by
  cases advances with
  | create fresh => exact absurd own (by simp [CollectionPhase.record])
  | refuse => exact absurd rfl unfailed
  | download => exact own
  | fail opened own => exact absurd rfl unfailed
  | complete => exact own
  | selectNone none => exact own
  | select => exact own
  | delete => rw [CollectionPhase.record_unlink]; exact own
  | retryDelete => exact own
  | pruneFails done own' => rw [← own, own']; rfl
  | deleteFile => rw [CollectionPhase.record_unlink]; exact own

/-- A collection with a record has just created it or had it before, and is no less completed. -/
theorem Advances.record_cases (advances : Advances state collection phase step logs files next)
    {logId : LogId} (own : next.record = some logId) :
    (step = .create logId ∧ phase = .started ∧ next = .collecting logId) ∨
      (phase.record = some logId ∧ (next.isOpen = true → phase.isOpen = true)) := by
  cases advances with
  | create fresh =>
    obtain rfl := Option.some.inj own
    exact .inl ⟨rfl, rfl, rfl⟩
  | refuse => exact absurd own (by simp [CollectionPhase.record])
  | download => exact .inr ⟨own, fun _ => rfl⟩
  | fail opened own' => exact absurd own (by simp [CollectionPhase.record])
  | complete => exact .inr ⟨own, fun opened => absurd opened (by simp [CollectionPhase.isOpen])⟩
  | selectNone none =>
    exact .inr ⟨own, fun opened => absurd opened (by simp [CollectionPhase.isOpen])⟩
  | select => exact .inr ⟨own, fun opened => absurd opened (by simp [CollectionPhase.isOpen])⟩
  | delete =>
    rw [CollectionPhase.record_unlink] at own
    exact .inr ⟨own, fun opened => absurd opened (by simp)⟩
  | retryDelete => exact .inr ⟨own, fun opened => absurd opened (by simp [CollectionPhase.isOpen])⟩
  | pruneFails done own' =>
    exact .inr ⟨own'.trans own, fun opened => absurd opened (by simp [CollectionPhase.isOpen])⟩
  | deleteFile =>
    rw [CollectionPhase.record_unlink] at own
    exact .inr ⟨own, fun opened => absurd opened (by simp)⟩

/-- A collection that has just created its record has one as the code creates it. -/
theorem Advances.created {logId : LogId}
    (advances : Advances state collection phase (.create logId) logs files (.collecting logId)) :
    state.logs.get logId = none ∧ logs = state.logs.set logId {
      targetId := collection.targetId
      file := collection.file
      status := .collecting
      trigger := collection.trigger
      collectedAt := wholeSeconds state.clock } := by
  cases advances with
  | create fresh => exact ⟨fresh, rfl⟩

/-- A record stays as it is, unless its collection writes to it or a step deletes it. -/
theorem Advances.log_after (advances : Advances state collection phase step logs files next)
    {logId : LogId} {log : CollectedLog} (stored : state.logs.get logId = some log) :
    logs.get logId = some log ∨ (phase.isOpen = true ∧ phase.record = some logId) ∨
      (step = .delete ∧ logId ∈ phase.superseded.map Prod.fst) := by
  cases advances with
  | @create written fresh =>
    refine .inl ?_
    rw [Table.get_set, if_neg, stored]
    rintro rfl
    exact absurd (fresh.symm.trans stored) (by simp)
  | @fail _ written landed opened own =>
    by_cases same : written = logId
    · exact .inr (.inl ⟨opened, same ▸ own⟩)
    · refine .inl ?_
      cases landed with
      | false => exact stored
      | true => rw [if_pos rfl, get_updateCollectedLog, if_neg (Ne.symm same), stored]
  | @complete written =>
    by_cases same : written = logId
    · exact .inr (.inl ⟨rfl, congrArg some same⟩)
    · refine .inl ?_
      rw [get_updateCollectedLog, if_neg (Ne.symm same), stored]
  | @delete written superseded =>
    by_cases gone : logId ∈ superseded.map Prod.fst
    · exact .inr (.inr ⟨rfl, gone⟩)
    · refine .inl ?_
      rw [get_deleteLogs, if_neg gone, stored]
  | refuse => exact .inl stored
  | download => exact .inl stored
  | selectNone none => exact .inl stored
  | select => exact .inl stored
  | retryDelete => exact .inl stored
  | pruneFails done own => exact .inl stored
  | deleteFile => exact .inl stored

/-- A record after a step was there before as it is, has just been created, or had its status
written. -/
theorem Advances.log_before (advances : Advances state collection phase step logs files next)
    {logId : LogId} {log : CollectedLog} (stored : logs.get logId = some log) :
    state.logs.get logId = some log ∨
      (next = .collecting logId ∧ log.file = collection.file ∧ log.targetId = collection.targetId ∧
        log.status = .collecting) ∨
      ∃ before, state.logs.get logId = some before ∧ phase.isOpen = true ∧
        phase.record = some logId ∧ log.file = before.file ∧ log.targetId = before.targetId ∧
          (next = .failed ∧ log.status = .failed ∨
            phase = .written logId ∧ next = .completed logId ∧ files = state.files ∧
              log.status = .completed) := by
  cases advances with
  | create fresh =>
    rw [Table.get_set] at stored
    split at stored
    · next same =>
      rw [← Option.some.inj stored, same]
      exact .inr (.inl ⟨rfl, rfl, rfl, rfl⟩)
    · exact .inl stored
  | @fail _ written landed opened own =>
    cases landed with
    | false => exact .inl stored
    | true =>
      rw [if_pos rfl, get_updateCollectedLog] at stored
      split at stored
      · next same =>
        obtain ⟨before, was, rfl⟩ := Option.map_eq_some_iff.mp stored
        exact .inr (.inr ⟨before, was, opened, same ▸ own, rfl, rfl, .inl ⟨rfl, rfl⟩⟩)
      · exact .inl stored
  | complete =>
    rw [get_updateCollectedLog] at stored
    split at stored
    · next same =>
      subst same
      obtain ⟨before, was, rfl⟩ := Option.map_eq_some_iff.mp stored
      exact .inr (.inr ⟨before, was, rfl, rfl, rfl, rfl, .inr ⟨rfl, rfl, rfl, rfl⟩⟩)
    · exact .inl stored
  | delete =>
    rw [get_deleteLogs] at stored
    split at stored
    · exact absurd stored (by simp)
    · exact .inl stored
  | refuse => exact .inl stored
  | download => exact .inl stored
  | selectNone none => exact .inl stored
  | select => exact .inl stored
  | retryDelete => exact .inl stored
  | pruneFails done own => exact .inl stored
  | deleteFile => exact .inl stored

/-- A collection with an open record has just created it, or the records are as they were. -/
theorem Advances.opened_cases (advances : Advances state collection phase step logs files next)
    (opened : next.isOpen = true) {logId : LogId} (own : next.record = some logId) :
    (∃ log, logs.get logId = some log ∧ log.file = collection.file) ∨
      (logs = state.logs ∧ phase.isOpen = true ∧ phase.record = some logId) := by
  cases advances with
  | create fresh =>
    obtain rfl := Option.some.inj own
    exact .inl ⟨_, (Table.get_set _ _ _ _).trans (if_pos rfl), rfl⟩
  | download => exact .inr ⟨rfl, rfl, own⟩
  | refuse => exact absurd opened (by decide)
  | fail opened' own' => exact absurd opened (by decide)
  | complete => exact absurd opened (by simp [CollectionPhase.isOpen])
  | selectNone none => exact absurd opened (by simp [CollectionPhase.isOpen])
  | select => exact absurd opened (by simp [CollectionPhase.isOpen])
  | delete => exact absurd opened (by simp)
  | retryDelete => exact absurd opened (by simp [CollectionPhase.isOpen])
  | pruneFails done own' => exact absurd opened (by simp [CollectionPhase.isOpen])
  | deleteFile => exact absurd opened (by simp)

/-- A completed collection was so before, or has just marked its record. -/
theorem Advances.done_cases (advances : Advances state collection phase step logs files next)
    (done : next.isDone = true) : phase.isDone = true ∨
      ∃ logId, phase = .written logId ∧ next = .completed logId ∧
        logs = updateCollectedLog logId .completed state.logs := by
  cases advances with
  | complete => exact .inr ⟨_, rfl, rfl, rfl⟩
  | create fresh => exact absurd done (by simp [CollectionPhase.isDone])
  | refuse => exact absurd done (by decide)
  | download => exact absurd done (by simp [CollectionPhase.isDone])
  | fail opened own => exact absurd done (by decide)
  | selectNone none => exact .inl rfl
  | select => exact .inl rfl
  | delete => exact .inl rfl
  | retryDelete => exact .inl rfl
  | pruneFails doneBefore own => exact .inl doneBefore
  | deleteFile => exact .inl rfl

/-- What is about to be deleted has just been selected. -/
theorem Advances.superseded_cases (advances : Advances state collection phase step logs files next)
    {entry : LogId × BundleFile} (chosen : entry ∈ next.superseded) :
    ∃ logId, next.record = some logId ∧
      entry ∈ priorTargetLogs collection.targetId logId state.logs := by
  cases advances with
  | select => exact ⟨_, rfl, chosen⟩
  | delete => exact absurd chosen (by simp)
  | deleteFile => exact absurd chosen (by simp)
  | create fresh => exact absurd chosen List.not_mem_nil
  | refuse => exact absurd chosen List.not_mem_nil
  | download => exact absurd chosen List.not_mem_nil
  | fail opened own => exact absurd chosen List.not_mem_nil
  | complete => exact absurd chosen List.not_mem_nil
  | selectNone none => exact absurd chosen List.not_mem_nil
  | retryDelete => exact absurd chosen List.not_mem_nil
  | pruneFails done own => exact absurd chosen List.not_mem_nil

/-- What is about to be unlinked was so before, or its records have just been deleted. -/
theorem Advances.unlinking_cases (advances : Advances state collection phase step logs files next)
    {file : BundleFile} (gone : file ∈ next.unlinking) :
    file ∈ phase.unlinking ∨ step = .delete ∧
      logs = deleteLogs (phase.superseded.map Prod.fst) state.logs ∧
        ∃ entry ∈ phase.superseded, entry.2 = file := by
  cases advances with
  | delete =>
    rw [CollectionPhase.unlinking_unlink] at gone
    obtain ⟨entry, member, same⟩ := List.mem_map.mp gone
    exact .inr ⟨rfl, rfl, entry, member, same⟩
  | deleteFile =>
    rw [CollectionPhase.unlinking_unlink] at gone
    exact .inl (List.mem_cons_of_mem _ gone)
  | create fresh => exact absurd gone List.not_mem_nil
  | refuse => exact absurd gone List.not_mem_nil
  | download => exact absurd gone List.not_mem_nil
  | fail opened own => exact absurd gone List.not_mem_nil
  | complete => exact absurd gone List.not_mem_nil
  | selectNone none => exact absurd gone List.not_mem_nil
  | select => exact absurd gone List.not_mem_nil
  | retryDelete => exact absurd gone List.not_mem_nil
  | pruneFails done own => exact absurd gone List.not_mem_nil

/-- A collection that has written its bundle has just done so. -/
theorem Advances.downloaded (advances : Advances state collection phase step logs files next)
    {logId : LogId} (written : next = .written logId) : collection.file ∈ files := by
  have opened : next.isOpen = true := by
    rw [written]
    rfl
  cases advances with
  | download => exact List.mem_cons_self
  | create fresh => exact nomatch written
  | refuse => exact nomatch written
  | fail opened' own => exact nomatch written
  | complete => exact nomatch written
  | selectNone none => exact nomatch written
  | select => exact nomatch written
  | delete => exact absurd opened (by simp)
  | retryDelete => exact nomatch written
  | pruneFails done own => exact nomatch written
  | deleteFile => exact absurd opened (by simp)

/-- A file stays, unless it is unlinked. -/
theorem Advances.file_after (advances : Advances state collection phase step logs files next)
    {file : BundleFile} (there : file ∈ state.files) : file ∈ files ∨ file ∈ phase.unlinking := by
  cases advances with
  | download => exact .inl (List.mem_cons_of_mem _ there)
  | @deleteFile logId gone rest =>
    by_cases same : file = gone
    · exact .inr (same ▸ List.mem_cons_self)
    · exact .inl (List.mem_filter.mpr ⟨there, decide_eq_true same⟩)
  | create fresh => exact .inl there
  | refuse => exact .inl there
  | fail opened own => exact .inl there
  | complete => exact .inl there
  | selectNone none => exact .inl there
  | select => exact .inl there
  | delete => exact .inl there
  | retryDelete => exact .inl there
  | pruneFails done own => exact .inl there

/-- A completed collection stays completed. -/
theorem Advances.isDone_next (advances : Advances state collection phase step logs files next)
    (done : phase.isDone = true) : next.isDone = true := by
  cases advances with
  | create fresh => exact absurd done (by decide)
  | refuse => exact absurd done (by decide)
  | download => exact absurd done (by simp [CollectionPhase.isDone])
  | fail opened own =>
    cases phase <;> simp [CollectionPhase.isDone, CollectionPhase.isOpen] at done opened
  | complete => rfl
  | selectNone none => rfl
  | select => rfl
  | delete => exact CollectionPhase.isDone_unlink _ _
  | retryDelete => rfl
  | pruneFails done own => rfl
  | deleteFile => exact CollectionPhase.isDone_unlink _ _

end Advances

end Gyanam
