/-
This file follows the pruning of superseded logs over runs. A collection that has
completed selects the other completed records of its target and deletes them. So
every completed record is deleted in favour of another one, and the last one
stays, as long as whoever deletes is still on record itself. Two collections
that have both completed delete each other otherwise.
-/

import Gyanam.LogSteps

namespace Gyanam

open Json (Text)

variable {Process : Type}

/-! ### Retention -/

/-- A completed record. -/
def HasCompleted (logs : Table LogId CollectedLog) (logId : LogId) (log : CollectedLog) : Prop :=
  logs.get logId = some log ∧ log.status = .completed

/-- Every target that a collection has completed for has a completed record with its file. -/
def LogCollectors.KeepsBundles (state : LogCollectors Process) : Prop :=
  ∀ {id collection}, state.collections.get id = some collection →
    collection.phase.isDone = true →
      ∃ logId log, HasCompleted state.logs logId log ∧ log.targetId = collection.targetId ∧
        log.file ∈ state.files

/-- Every target that a collection has completed for has a completed record with its file, and only
one when all its collections are finished. -/
structure LogCollectors.Retains (state : LogCollectors Process) : Prop where
  kept : state.KeepsBundles
  sole : ∀ {targetId}, (∀ id collection, state.collections.get id = some collection →
      collection.targetId = targetId → collection.phase.isActive = false) →
    ∀ {first second earlier later}, HasCompleted state.logs first earlier →
      HasCompleted state.logs second later → earlier.targetId = targetId →
        later.targetId = targetId → first = second

/-- A collection prunes in favour of its own record: it gets a file name of its own when it starts,
its record is still there when it deletes others, and what it deletes is what it has selected. -/
def LogCollectors.PrunesForOwn (state : LogCollectors Process) : CollectorEvent Process → Prop
  | .collectSingle _ _ (some name) | .request _ _ _ _ (some name) =>
    ∀ entry ∈ state.collections.rows, entry.2.file ≠ ⟨sanitizeFilename name, state.clock⟩
  | .collection id .delete => ∀ collection ∈ state.collections.get id,
      (∃ logId ∈ collection.phase.record, ∃ log ∈ state.logs.get logId,
        log.file = collection.file) ∧
      ∀ entry ∈ collection.phase.superseded, ∀ log ∈ state.logs.get entry.1, log.file = entry.2
  | _ => True

/-- No pruning fails before the records are deleted. -/
def LogCollectors.PrunesAll (state : LogCollectors Process) : CollectorEvent Process → Prop
  | .collection id .pruneFails => ∀ collection ∈ state.collections.get id,
      collection.phase.unlinking ≠ []
  | _ => True

/-! ### The invariant -/

/-- A collection is to delete one of two records in favour of the other. -/
def CollectionPhase.Covers (phase : CollectionPhase) (first second : LogId) : Prop :=
  (∃ logId, phase = .completed logId ∧ (logId = first ∨ logId = second)) ∨
    ∃ logId superseded, phase = .pruning logId superseded ∧
      (logId = first ∧ second ∈ superseded.map Prod.fst ∨
        logId = second ∧ first ∈ superseded.map Prod.fst)

/-- Of two completed records of a target one is about to be deleted. -/
def LogCollectors.Covered (state : LogCollectors Process) : Prop :=
  ∀ first second earlier later, HasCompleted state.logs first earlier →
    HasCompleted state.logs second later → earlier.targetId = later.targetId → first ≠ second →
      ∃ id collection, state.collections.get id = some collection ∧
        collection.targetId = earlier.targetId ∧ collection.phase.Covers first second

/-- Every record has one collection, and the other way round while it is under way, and the files of
completed records are there and nobody is about to unlink them. -/
structure LogCollectors.Filed (state : LogCollectors Process) : Prop where
  distinct : ∀ {first second earlier later}, state.collections.get first = some earlier →
    state.collections.get second = some later → earlier.file = later.file → first = second
  opened : ∀ {id collection logId}, state.collections.get id = some collection →
    collection.phase.isOpen = true → collection.phase.record = some logId →
      ∃ log, state.logs.get logId = some log ∧ log.file = collection.file
  owned : ∀ {logId log}, state.logs.get logId = some log →
    ∃ id collection, state.collections.get id = some collection ∧ collection.file = log.file ∧
      collection.targetId = log.targetId ∧
        (collection.phase = .failed ∧ log.status ≠ .completed ∨
          collection.phase.record = some logId ∧ log.status = collection.phase.status)
  written : ∀ {id collection logId}, state.collections.get id = some collection →
    collection.phase = .written logId → collection.file ∈ state.files
  present : ∀ {logId log}, HasCompleted state.logs logId log → log.file ∈ state.files
  selected : ∀ {id collection entry}, state.collections.get id = some collection →
    entry ∈ collection.phase.superseded → collection.phase.record ≠ some entry.1 ∧
      ∃ other done, state.collections.get other = some done ∧ done.file = entry.2 ∧
        done.targetId = collection.targetId ∧ done.phase.isDone = true ∧
          done.phase.record = some entry.1
  unlinked : ∀ {id collection file}, state.collections.get id = some collection →
    file ∈ collection.phase.unlinking →
      (∃ other done, state.collections.get other = some done ∧ done.file = file ∧
        done.phase.isDone = true) ∧
      ∀ {logId log}, HasCompleted state.logs logId log → log.file ≠ file
  retained : ∀ {id collection}, state.collections.get id = some collection →
    collection.phase.isDone = true →
      ∃ logId log, HasCompleted state.logs logId log ∧ log.targetId = collection.targetId

namespace LogCollectors.Filed

variable {state : LogCollectors Process}

theorem keepsBundles (filed : state.Filed) : state.KeepsBundles := by
  intro id collection found done
  obtain ⟨logId, log, completed, own⟩ := filed.retained found done
  exact ⟨logId, log, completed, own, filed.present completed⟩

theorem retains (filed : state.Filed) (covered : state.Covered) : state.Retains where
  kept := filed.keepsBundles
  sole := by
    intro targetId inactive first second earlier later completed completed' own own'
    by_contra different
    obtain ⟨id, collection, found, same, covers⟩ :=
      covered _ _ _ _ completed completed' (own.trans own'.symm) different
    have ended := inactive id collection found (same.trans own)
    rcases covers with ⟨logId, phase, _⟩ | ⟨logId, superseded, phase, _⟩
    · rw [phase] at ended
      exact absurd ended (by simp [CollectionPhase.isActive])
    · rw [phase] at ended
      exact absurd ended (by simp [CollectionPhase.isActive])

/-- The collection of a completed record has completed, and is the only one with its file. -/
theorem owner (filed : state.Filed) {logId : LogId} {log : CollectedLog}
    (completed : HasCompleted state.logs logId log) :
    ∃ id collection, state.collections.get id = some collection ∧ collection.file = log.file ∧
      collection.targetId = log.targetId ∧ collection.phase.isDone = true ∧
        collection.phase.record = some logId := by
  obtain ⟨id, collection, found, file, target, failed | ⟨record, status⟩⟩ :=
    filed.owned completed.1
  · exact absurd completed.2 failed.2
  · refine ⟨id, collection, found, file, target, ?_, record⟩
    rw [completed.2, CollectionPhase.status] at status
    split at status
    · next done => exact done
    · exact absurd status (by decide)

/-- The record of a collection that has its file. -/
theorem own_log (filed : state.Filed) {id : Nat} {collection : LogCollection Process}
    (found : state.collections.get id = some collection) {logId : LogId} {log : CollectedLog}
    (stored : state.logs.get logId = some log) (file : log.file = collection.file) :
    log.targetId = collection.targetId ∧
      (collection.phase ≠ .failed → log.status = collection.phase.status) := by
  obtain ⟨other, owner, present, same, target, claim⟩ := filed.owned stored
  obtain rfl := filed.distinct present found (same.trans file)
  obtain rfl := Option.some.inj (present.symm.trans found)
  exact ⟨target.symm, fun unfailed =>
    claim.elim (fun failed => absurd failed.1 unfailed) And.right⟩

section Advance

variable {id : Nat} {collection : LogCollection Process} {step : CollectionStep}
  {logs : Table LogId CollectedLog} {files : List BundleFile} {phase : CollectionPhase}

/-- The collectors after the step of a collection. -/
abbrev advanced (state : LogCollectors Process) (id : Nat) (collection : LogCollection Process)
    (logs : Table LogId CollectedLog) (files : List BundleFile) (phase : CollectionPhase) :
    LogCollectors Process :=
  { state with logs := logs, files := files }.enter id collection phase

theorem get_before (found : state.collections.get id = some collection) {other : Nat}
    {after : LogCollection Process}
    (present : (advanced state id collection logs files phase).collections.get other =
      some after) :
    ∃ before, state.collections.get other = some before ∧ before.file = after.file ∧
      before.targetId = after.targetId := by
  rcases enter_cases present with ⟨rfl, rfl⟩ | ⟨_, same⟩
  · exact ⟨collection, found, rfl, rfl⟩
  · exact ⟨after, same, rfl, rfl⟩

/-- A completed collection stays so, with its record. -/
theorem done_after (found : state.collections.get id = some collection)
    (advances : Advances state collection collection.phase step logs files phase) {other : Nat}
    {before : LogCollection Process} (present : state.collections.get other = some before)
    (done : before.phase.isDone = true) :
    ∃ after, (advanced state id collection logs files phase).collections.get other = some after ∧
      after.file = before.file ∧ after.targetId = before.targetId ∧ after.phase.isDone = true ∧
        ∀ logId, before.phase.record = some logId → after.phase.record = some logId := by
  by_cases same : other = id
  · subst same
    obtain rfl := Option.some.inj (present.symm.trans found)
    have doneAfter := advances.isDone_next done
    refine ⟨{ before with phase := phase }, ?_, rfl, rfl, doneAfter, fun logId own => ?_⟩
    · rw [get_enter, if_pos rfl]
    · refine advances.record_eq (fun failed => ?_) own
      rw [failed] at doneAfter
      exact absurd doneAfter (by decide)
  · refine ⟨before, ?_, rfl, rfl, done, fun logId own => own⟩
    rw [get_enter, if_neg same]
    exact present

/-- A completed record after a step was there before, or is that of the collection. -/
theorem completed_before (filed : state.Filed)
    (found : state.collections.get id = some collection)
    (advances : Advances state collection collection.phase step logs files phase) {logId : LogId}
    {log : CollectedLog} (completed : HasCompleted logs logId log) :
    HasCompleted state.logs logId log ∨
      collection.phase = .written logId ∧ phase = .completed logId ∧ files = state.files ∧
        log.file = collection.file ∧ log.targetId = collection.targetId := by
  obtain ⟨stored, status⟩ := completed
  rcases advances.log_before stored with same | ⟨_, _, _, collecting⟩ |
    ⟨before, was, opened, own, file, target, written⟩
  · exact .inl ⟨same, status⟩
  · exact absurd (status.symm.trans collecting) (by decide)
  · rcases written with ⟨_, failed⟩ | ⟨written, completed, unchanged, _⟩
    · exact absurd (status.symm.trans failed) (by decide)
    · obtain ⟨log', there, same⟩ := filed.opened found opened own
      obtain rfl := Option.some.inj (there.symm.trans was)
      exact .inr ⟨written, completed, unchanged, file.trans same,
        target.trans (filed.own_log found there same).1⟩

/-- A completed record stays, unless the step deletes it. -/
theorem completed_after (filed : state.Filed)
    (found : state.collections.get id = some collection)
    (advances : Advances state collection collection.phase step logs files phase) {logId : LogId}
    {log : CollectedLog} (completed : HasCompleted state.logs logId log) :
    HasCompleted logs logId log ∨
      step = .delete ∧ logId ∈ collection.phase.superseded.map Prod.fst := by
  obtain ⟨stored, status⟩ := completed
  rcases advances.log_after stored with same | ⟨opened, own⟩ | deleted
  · exact .inl ⟨same, status⟩
  · obtain ⟨log', there, file⟩ := filed.opened found opened own
    obtain rfl := Option.some.inj (stored.symm.trans there)
    have written := (filed.own_log found stored file).2 advances.ne_failed
    rw [status, CollectionPhase.status] at written
    split at written
    · next done => exact absurd opened (by simp [CollectionPhase.not_isOpen_of_isDone done])
    · exact absurd written (by decide)
  · exact .inr deleted

theorem distinct_after (filed : state.Filed) (found : state.collections.get id = some collection)
    {first second : Nat} {earlier later : LogCollection Process}
    (present : (advanced state id collection logs files phase).collections.get first =
      some earlier)
    (present' : (advanced state id collection logs files phase).collections.get second =
      some later) (same : earlier.file = later.file) : first = second := by
  obtain ⟨before, was, file, _⟩ := get_before found present
  obtain ⟨before', was', file', _⟩ := get_before found present'
  exact filed.distinct was was' (file.trans (same.trans file'.symm))

/-- No open record is deleted. -/
theorem opened_after (filed : state.Filed) (own : state.PrunesForOwn (.collection id step))
    (found : state.collections.get id = some collection)
    (advances : Advances state collection collection.phase step logs files phase) {other : Nat}
    {after : LogCollection Process} {logId : LogId}
    (present : (advanced state id collection logs files phase).collections.get other = some after)
    (opened : after.phase.isOpen = true) (record : after.phase.record = some logId) :
    ∃ log, logs.get logId = some log ∧ log.file = after.file := by
  rcases enter_cases present with ⟨rfl, rfl⟩ | ⟨different, same⟩
  · rcases advances.opened_cases opened record with created | ⟨rfl, openedBefore, recordBefore⟩
    · exact created
    · obtain ⟨log, stored, file⟩ := filed.opened found openedBefore recordBefore
      exact ⟨log, stored, file⟩
  · obtain ⟨log, stored, file⟩ := filed.opened same opened record
    rcases advances.log_after stored with kept | ⟨openedBefore, recordBefore⟩ | ⟨rfl, gone⟩
    · exact ⟨log, kept, file⟩
    · obtain ⟨log', stored', file'⟩ := filed.opened found openedBefore recordBefore
      obtain rfl := Option.some.inj (stored.symm.trans stored')
      exact absurd (filed.distinct same found (file.symm.trans file')) different
    · obtain ⟨entry, member, rfl⟩ := List.mem_map.mp gone
      obtain ⟨_, number, done, there, chosen, _, ended, _⟩ := filed.selected found member
      have selected := (own collection found).2 entry member log stored
      obtain rfl := filed.distinct there same (chosen.trans (selected.symm.trans file))
      obtain rfl := Option.some.inj (there.symm.trans same)
      exact absurd opened (by simp [CollectionPhase.not_isOpen_of_isDone ended])

theorem owned_after (filed : state.Filed) (found : state.collections.get id = some collection)
    (advances : Advances state collection collection.phase step logs files phase) {logId : LogId}
    {log : CollectedLog} (stored : logs.get logId = some log) :
    ∃ other after, (advanced state id collection logs files phase).collections.get other =
      some after ∧ after.file = log.file ∧ after.targetId = log.targetId ∧
        (after.phase = .failed ∧ log.status ≠ .completed ∨
          after.phase.record = some logId ∧ log.status = after.phase.status) := by
  have itself : (advanced state id collection logs files phase).collections.get id =
      some { collection with phase := phase } := by
    rw [get_enter, if_pos rfl]
  rcases advances.log_before stored with same | ⟨rfl, file, target, status⟩ |
    ⟨before, was, opened, record, file, target, written⟩
  · obtain ⟨other, owner, present, file, target, claim⟩ := filed.owned same
    by_cases own : other = id
    · subst own
      obtain rfl := Option.some.inj (present.symm.trans found)
      refine ⟨other, _, itself, file, target, ?_⟩
      obtain ⟨record, status⟩ := claim.resolve_left fun failed => advances.ne_failed failed.1
      by_cases failed : phase = .failed
      · refine .inl ⟨failed, ?_⟩
        rw [status, CollectionPhase.status]
        split
        · next done =>
          have doneAfter := advances.isDone_next done
          rw [failed] at doneAfter
          exact absurd doneAfter (by decide)
        · decide
      · refine .inr ⟨advances.record_eq failed record, ?_⟩
        cases done : phase.isDone with
        | false =>
          have undone : ¬ owner.phase.isDone = true := fun doneBefore =>
            absurd (advances.isDone_next doneBefore) (by simp [done])
          rw [status, CollectionPhase.status, if_neg undone, CollectionPhase.status, done]
          rfl
        | true =>
          rw [CollectionPhase.status, if_pos done]
          rcases advances.done_cases done with doneBefore | ⟨written, writes, _, rfl⟩
          · rw [status, CollectionPhase.status, if_pos doneBefore]
          · rw [writes] at record
            obtain rfl := Option.some.inj record
            rw [get_updateCollectedLog, if_pos rfl, same] at stored
            rw [← Option.some.inj stored]
    · refine ⟨other, owner, ?_, file, target, claim⟩
      rw [get_enter, if_neg own]
      exact present
  · exact ⟨id, _, itself, file.symm, target.symm, .inr ⟨rfl, status⟩⟩
  · obtain ⟨log', there, same⟩ := filed.opened found opened record
    obtain rfl := Option.some.inj (there.symm.trans was)
    refine ⟨id, _, itself, same.symm.trans file.symm,
      (filed.own_log found there same).1.symm.trans target.symm, ?_⟩
    rcases written with ⟨rfl, failed⟩ | ⟨_, rfl, _, completed⟩
    · refine .inl ⟨rfl, ?_⟩
      rw [failed]
      decide
    · exact .inr ⟨rfl, completed⟩

theorem written_after (filed : state.Filed) (found : state.collections.get id = some collection)
    (advances : Advances state collection collection.phase step logs files phase) {other : Nat}
    {after : LogCollection Process} {logId : LogId}
    (present : (advanced state id collection logs files phase).collections.get other = some after)
    (written : after.phase = .written logId) : after.file ∈ files := by
  rcases enter_cases present with ⟨rfl, rfl⟩ | ⟨_, same⟩
  · exact advances.downloaded written
  · rcases advances.file_after (filed.written same written) with there | gone
    · exact there
    · obtain ⟨number, done, there, file, ended⟩ := (filed.unlinked found gone).1
      obtain rfl := filed.distinct there same file
      obtain rfl := Option.some.inj (there.symm.trans same)
      rw [written] at ended
      exact absurd ended (by simp [CollectionPhase.isDone])

theorem present_after (filed : state.Filed) (found : state.collections.get id = some collection)
    (advances : Advances state collection collection.phase step logs files phase) {logId : LogId}
    {log : CollectedLog} (completed : HasCompleted logs logId log) : log.file ∈ files := by
  rcases filed.completed_before found advances completed with before | ⟨written, _, same, file, _⟩
  · rcases advances.file_after (filed.present before) with there | gone
    · exact there
    · exact absurd rfl ((filed.unlinked found gone).2 before)
  · rw [same, file]
    exact filed.written found written

theorem selected_after (filed : state.Filed) (found : state.collections.get id = some collection)
    (advances : Advances state collection collection.phase step logs files phase) {other : Nat}
    {after : LogCollection Process} {entry : LogId × BundleFile}
    (present : (advanced state id collection logs files phase).collections.get other = some after)
    (chosen : entry ∈ after.phase.superseded) : after.phase.record ≠ some entry.1 ∧
      ∃ number done, (advanced state id collection logs files phase).collections.get number =
        some done ∧ done.file = entry.2 ∧ done.targetId = after.targetId ∧
          done.phase.isDone = true ∧ done.phase.record = some entry.1 := by
  obtain ⟨different, number, done, there, file, target, ended, record⟩ :
      after.phase.record ≠ some entry.1 ∧ ∃ number done,
        state.collections.get number = some done ∧ done.file = entry.2 ∧
          done.targetId = after.targetId ∧ done.phase.isDone = true ∧
            done.phase.record = some entry.1 := by
    rcases enter_cases present with ⟨rfl, rfl⟩ | ⟨_, same⟩
    · obtain ⟨logId, own, member⟩ := advances.superseded_cases chosen
      obtain ⟨log, stored, file, target, different, status⟩ := mem_priorTargetLogs.mp member
      obtain ⟨number, done, there, same, targets, ended, record⟩ := filed.owner ⟨stored, status⟩
      refine ⟨fun equal => different ?_, number, done, there, same.trans file,
        targets.trans target, ended, record⟩
      exact Option.some.inj (equal.symm.trans own)
    · exact filed.selected same chosen
  obtain ⟨later, present', file', target', ended', record'⟩ := done_after found advances there ended
  exact ⟨different, number, later, present', file'.trans file, target'.trans target, ended',
    record' _ record⟩

theorem unlinked_after (filed : state.Filed) (found : state.collections.get id = some collection)
    (advances : Advances state collection collection.phase step logs files phase) {other : Nat}
    {after : LogCollection Process} {file : BundleFile}
    (present : (advanced state id collection logs files phase).collections.get other = some after)
    (gone : file ∈ after.phase.unlinking) :
    (∃ number done, (advanced state id collection logs files phase).collections.get number =
      some done ∧ done.file = file ∧ done.phase.isDone = true) ∧
      ∀ {logId log}, HasCompleted logs logId log → log.file ≠ file := by
  have later {number : Nat} {done : LogCollection Process}
      (there : state.collections.get number = some done) (ended : done.phase.isDone = true) :
      ∃ later, (advanced state id collection logs files phase).collections.get number =
        some later ∧ later.file = done.file ∧ later.phase.isDone = true := by
    obtain ⟨later, present', same, _, ended', _⟩ := done_after found advances there ended
    exact ⟨later, present', same, ended'⟩
  have kept {number : Nat} {unlinker : LogCollection Process}
      (there : state.collections.get number = some unlinker)
      (goes : file ∈ unlinker.phase.unlinking) :
      (∃ number done, (advanced state id collection logs files phase).collections.get number =
        some done ∧ done.file = file ∧ done.phase.isDone = true) ∧
        ∀ {logId log}, HasCompleted logs logId log → log.file ≠ file := by
    obtain ⟨⟨number, done, ends, same, ended⟩, others⟩ := filed.unlinked there goes
    obtain ⟨after, present', same', ended'⟩ := later ends ended
    refine ⟨⟨number, after, present', same'.trans same, ended'⟩, fun completed equal => ?_⟩
    rcases filed.completed_before found advances completed with before |
      ⟨written, _, _, file', _⟩
    · exact others before equal
    · obtain rfl := filed.distinct ends found (same.trans (equal.symm.trans file'))
      obtain rfl := Option.some.inj (ends.symm.trans found)
      rw [written] at ended
      exact absurd ended (by simp [CollectionPhase.isDone])
  rcases enter_cases present with ⟨rfl, rfl⟩ | ⟨_, same⟩
  · rcases advances.unlinking_cases gone with before | ⟨_, rfl, entry, member, rfl⟩
    · exact kept found before
    · obtain ⟨_, number, done, there, file, _, ended, record⟩ := filed.selected found member
      obtain ⟨after, present', same', ended'⟩ := later there ended
      refine ⟨⟨number, after, present', same'.trans file, ended'⟩, fun completed equal => ?_⟩
      rcases filed.completed_before found advances completed with before |
        ⟨_, completes, _⟩
      · obtain ⟨owner, owning, there', same, _, _, record'⟩ := filed.owner before
        obtain rfl := filed.distinct there' there (same.trans (equal.trans file.symm))
        obtain rfl := Option.some.inj (there'.symm.trans there)
        have removed := completed.1
        rw [get_deleteLogs, if_pos] at removed
        · exact absurd removed (by simp)
        · rw [← Option.some.inj (record.symm.trans record')]
          exact List.mem_map_of_mem member
      · rw [completes] at gone
        exact absurd gone List.not_mem_nil
  · exact kept same gone

/-- A target with a completed record keeps one: whoever deletes it has one of its own. -/
theorem completed_kept (filed : state.Filed) (own : state.PrunesForOwn (.collection id step))
    (found : state.collections.get id = some collection)
    (advances : Advances state collection collection.phase step logs files phase) {logId : LogId}
    {log : CollectedLog} (completed : HasCompleted state.logs logId log) :
    ∃ kept other, HasCompleted logs kept other ∧ other.targetId = log.targetId := by
  rcases filed.completed_after found advances completed with after | ⟨rfl, gone⟩
  · exact ⟨logId, log, after, rfl⟩
  · obtain ⟨entry, member, rfl⟩ := List.mem_map.mp gone
    obtain ⟨ownId, record, ownLog, stored, file⟩ := (own collection found).1
    have done := CollectionPhase.isDone_of_superseded member
    obtain ⟨ownTarget, ownStatus⟩ := filed.own_log found stored file
    have ownCompleted : HasCompleted state.logs ownId ownLog := by
      refine ⟨stored, (ownStatus advances.ne_failed).trans ?_⟩
      rw [CollectionPhase.status, if_pos done]
    have target : log.targetId = collection.targetId := by
      obtain ⟨_, number, owner, there, chosen, target, _⟩ := filed.selected found member
      obtain ⟨other, owner', there', same, target', _⟩ := filed.owner completed
      have selected := (own collection found).2 entry member log completed.1
      obtain rfl := filed.distinct there there' (chosen.trans (selected.symm.trans same.symm))
      obtain rfl := Option.some.inj (there.symm.trans there')
      exact target'.symm.trans target
    rcases filed.completed_after found advances ownCompleted with after | ⟨_, ownGone⟩
    · exact ⟨ownId, ownLog, after, ownTarget.trans target.symm⟩
    · obtain ⟨entry', member', same⟩ := List.mem_map.mp ownGone
      exact absurd (same ▸ record) (filed.selected found member').1

theorem retained_after (filed : state.Filed) (own : state.PrunesForOwn (.collection id step))
    (found : state.collections.get id = some collection)
    (advances : Advances state collection collection.phase step logs files phase) {other : Nat}
    {after : LogCollection Process}
    (present : (advanced state id collection logs files phase).collections.get other = some after)
    (done : after.phase.isDone = true) :
    ∃ logId log, HasCompleted logs logId log ∧ log.targetId = after.targetId := by
  have kept {number : Nat} {before : LogCollection Process}
      (there : state.collections.get number = some before) (ended : before.phase.isDone = true) :
      ∃ logId log, HasCompleted logs logId log ∧ log.targetId = before.targetId := by
    obtain ⟨logId, log, completed, target⟩ := filed.retained there ended
    obtain ⟨kept, other, stays, same⟩ := filed.completed_kept own found advances completed
    exact ⟨kept, other, stays, same.trans target⟩
  rcases enter_cases present with ⟨rfl, rfl⟩ | ⟨_, same⟩
  · rcases advances.done_cases done with before | ⟨logId, written, _, rfl⟩
    · have stays := kept found before
      exact stays
    · obtain ⟨log, stored, file⟩ := filed.opened found (by rw [written]; rfl) (by rw [written]; rfl)
      refine ⟨logId, { log with status := .completed }, ⟨?_, rfl⟩,
        (filed.own_log found stored file).1⟩
      rw [get_updateCollectedLog, if_pos rfl, stored]
      rfl
  · exact kept same done

/-- Of two completed records one stays about to be deleted, until it is. -/
theorem covers_after (all : state.PrunesAll (.collection id step))
    (found : state.collections.get id = some collection)
    (advances : Advances state collection collection.phase step logs files phase)
    {first second : LogId} {earlier later : CollectedLog}
    (completed : HasCompleted state.logs first earlier)
    (completed' : HasCompleted state.logs second later)
    (stays : HasCompleted logs first earlier) (stays' : HasCompleted logs second later)
    (target : collection.targetId = earlier.targetId) (same : earlier.targetId = later.targetId)
    (different : first ≠ second) (covers : collection.phase.Covers first second) :
    phase.Covers first second := by
  have prunes (fails : step = .pruneFails) : collection.phase.unlinking ≠ [] := by
    subst fails
    exact all collection found
  rcases covers with ⟨logId, current, which⟩ | ⟨logId, superseded, current, which⟩
  · rw [current] at advances prunes
    have chosen : first = logId ∧ second ∈ (priorTargetLogs collection.targetId logId
        state.logs).map Prod.fst ∨ second = logId ∧ first ∈ (priorTargetLogs collection.targetId
          logId state.logs).map Prod.fst := by
      rcases which with rfl | rfl
      · refine .inl ⟨rfl, List.mem_map.mpr ⟨(second, later.file), ?_, rfl⟩⟩
        exact mem_priorTargetLogs.mpr ⟨later, completed'.1, rfl, same.symm.trans target.symm,
          different.symm, completed'.2⟩
      · refine .inr ⟨rfl, List.mem_map.mpr ⟨(first, earlier.file), ?_, rfl⟩⟩
        exact mem_priorTargetLogs.mpr ⟨earlier, completed.1, rfl, target.symm, different,
          completed.2⟩
    cases advances with
    | fail opened own' => exact absurd opened (by simp [CollectionPhase.isOpen])
    | selectNone none =>
      rw [none] at chosen
      simp at chosen
    | select =>
      exact .inr ⟨logId, _, rfl, chosen.imp (fun own => ⟨own.1.symm, own.2⟩)
        fun own => ⟨own.1.symm, own.2⟩⟩
    | pruneFails done own' => exact absurd rfl (prunes rfl)
  · rw [current] at advances prunes
    cases advances with
    | fail opened own' => exact absurd opened (by simp [CollectionPhase.isOpen])
    | delete =>
      have removed {gone : LogId} {log : CollectedLog} (member : gone ∈ superseded.map Prod.fst)
          (there : HasCompleted (deleteLogs (superseded.map Prod.fst) state.logs) gone log) :
          False := by
        have stored := there.1
        rw [get_deleteLogs, if_pos member] at stored
        exact absurd stored (by simp)
      rcases which with ⟨_, gone⟩ | ⟨_, gone⟩
      · exact (removed gone stays').elim
      · exact (removed gone stays).elim
    | retryDelete => exact .inl ⟨logId, rfl, which.imp And.left And.left⟩
    | pruneFails done own' => exact absurd rfl (prunes rfl)

theorem covered_after (filed : state.Filed) (covered : state.Covered)
    (all : state.PrunesAll (.collection id step))
    (found : state.collections.get id = some collection)
    (advances : Advances state collection collection.phase step logs files phase) :
    (advanced state id collection logs files phase).Covered := by
  intro first second earlier later stays stays' same different
  have itself : (advanced state id collection logs files phase).collections.get id =
      some { collection with phase := phase } := by
    rw [get_enter, if_pos rfl]
  rcases filed.completed_before found advances stays with completed |
    ⟨_, phase, _, _, target⟩
  · rcases filed.completed_before found advances stays' with completed' |
      ⟨_, phase, _, _, target⟩
    · obtain ⟨other, cover, there, target, covers⟩ :=
        covered _ _ _ _ completed completed' same different
      by_cases own' : other = id
      · subst own'
        obtain rfl := Option.some.inj (there.symm.trans found)
        exact ⟨other, _, itself, target, covers_after all found advances completed completed' stays
          stays' target same different covers⟩
      · refine ⟨other, cover, ?_, target, covers⟩
        rw [get_enter, if_neg own']
        exact there
    · exact ⟨id, _, itself, target.symm.trans same.symm, .inl ⟨second, phase, .inr rfl⟩⟩
  · exact ⟨id, _, itself, target.symm, .inl ⟨first, phase, .inl rfl⟩⟩

/-- A step of a collection that prunes for its own record keeps the invariant. -/
theorem advance (filed : state.Filed) (own : state.PrunesForOwn (.collection id step))
    (found : state.collections.get id = some collection)
    (advances : Advances state collection collection.phase step logs files phase) :
    (advanced state id collection logs files phase).Filed where
  distinct := filed.distinct_after found
  opened := filed.opened_after own found advances
  owned := filed.owned_after found advances
  written := filed.written_after found advances
  present := filed.present_after found advances
  selected := filed.selected_after found advances
  unlinked := filed.unlinked_after found advances
  retained := filed.retained_after own found advances

end Advance

/-- The invariant is about the records, the files and the collections. -/
theorem frame (filed : state.Filed) (clock : Time) (evaluations : Table Nat (Evaluation Process)) :
    LogCollectors.Filed { state with clock := clock, evaluations := evaluations } where
  distinct := filed.distinct
  opened := filed.opened
  owned := filed.owned
  written := filed.written
  present := filed.present
  selected := filed.selected
  unlinked := filed.unlinked
  retained := filed.retained

/-- A collection may start under a file name of its own. -/
theorem begin (filed : state.Filed) (id : Nat) (process : Process) (trigger : LogTrigger)
    (targetId : TargetId) (name : String) (fresh : state.collections.get id = none)
    (unused : ∀ entry ∈ state.collections.rows,
      entry.2.file ≠ ⟨sanitizeFilename name, state.clock⟩) :
    LogCollectors.Filed { state with
      collections := state.collections.set id (.begin state process trigger targetId name) } := by
  have there {other : Nat} {collection : LogCollection Process}
      (present : state.collections.get other = some collection) :
      (state.collections.set id (.begin state process trigger targetId name)).get other =
        some collection := by
    rw [Table.get_set, if_neg, present]
    rintro rfl
    exact absurd (fresh.symm.trans present) (by simp)
  have get_cases {other : Nat} {collection : LogCollection Process}
      (present : (state.collections.set id
        (.begin state process trigger targetId name)).get other = some collection) :
      other = id ∧ collection = .begin state process trigger targetId name ∨
        state.collections.get other = some collection := by
    rw [Table.get_set] at present
    split at present
    · next same => exact .inl ⟨same, (Option.some.inj present).symm⟩
    · exact .inr present
  have started : (LogCollection.begin state process trigger targetId name).phase = .started := rfl
  refine ⟨fun present present' same => ?_, fun present opened record => ?_, fun stored => ?_,
    fun present written => ?_, filed.present, fun present chosen => ?_, fun present gone => ?_,
    fun present done => ?_⟩
  · rcases get_cases present with ⟨rfl, rfl⟩ | before
    · rcases get_cases present' with ⟨rfl, _⟩ | before'
      · rfl
      · exact absurd same.symm (unused _ (Table.get_eq_some_iff.mp before'))
    · rcases get_cases present' with ⟨rfl, rfl⟩ | before'
      · exact absurd same (unused _ (Table.get_eq_some_iff.mp before))
      · exact filed.distinct before before' same
  · rcases get_cases present with ⟨_, rfl⟩ | before
    · exact nomatch opened
    · exact filed.opened before opened record
  · obtain ⟨other, owner, present, rest⟩ := filed.owned stored
    exact ⟨other, owner, there present, rest⟩
  · rcases get_cases present with ⟨_, rfl⟩ | before
    · exact nomatch written
    · exact filed.written before written
  · rcases get_cases present with ⟨_, rfl⟩ | before
    · exact absurd chosen List.not_mem_nil
    · obtain ⟨different, other, done, present, rest⟩ := filed.selected before chosen
      exact ⟨different, other, done, there present, rest⟩
  · rcases get_cases present with ⟨_, rfl⟩ | before
    · exact absurd gone List.not_mem_nil
    · obtain ⟨⟨other, done, present, rest⟩, others⟩ := filed.unlinked before gone
      exact ⟨⟨other, done, there present, rest⟩, others⟩
  · rcases get_cases present with ⟨_, rfl⟩ | before
    · exact nomatch done
    · exact filed.retained before done

/-- A collection that starts covers nothing. -/
theorem covered_begin (covered : state.Covered) (id : Nat) (process : Process)
    (trigger : LogTrigger)
    (targetId : TargetId) (name : String) (fresh : state.collections.get id = none) :
    LogCollectors.Covered { state with
      collections := state.collections.set id (.begin state process trigger targetId name) } := by
  intro first second earlier later completed completed' same different
  obtain ⟨other, cover, present, rest⟩ := covered _ _ _ _ completed completed' same different
  refine ⟨other, cover, ?_, rest⟩
  show (state.collections.set id _).get other = some cover
  rw [Table.get_set, if_neg, present]
  rintro rfl
  exact absurd (fresh.symm.trans present) (by simp)

/-- Steps that prune for the own record keep the invariant. -/
theorem step [DecidableEq Process] {casefold : Text → Text} {config : PolicyConfig}
    {event : CollectorEvent Process} {next : LogCollectors Process} (filed : state.Filed)
    (own : state.PrunesForOwn event) (step : state.step casefold config event = some next) :
    next.Filed := by
  cases logMoves_of_step step with
  | tick => exact filed.frame _ _
  | idle => exact filed
  | query considered => exact filed.frame _ _
  | drop => exact filed.frame _ _
  | fire found unfired due => exact filed.frame _ _
  | @collect id collection evaluation name found fires fresh =>
    exact (filed.begin collection evaluation.process .policy evaluation.targetId name fresh
      own).frame state.clock (state.evaluations.remove id)
  | request asked fresh => exact filed.begin _ _ _ _ _ fresh own
  | advance found advances => exact filed.advance own found advances

/-- Steps that delete what they have selected leave one of two completed records to be deleted. -/
theorem covered_step [DecidableEq Process] {casefold : Text → Text} {config : PolicyConfig}
    {event : CollectorEvent Process} {next : LogCollectors Process} (filed : state.Filed)
    (covered : state.Covered) (all : state.PrunesAll event)
    (step : state.step casefold config event = some next) : next.Covered := by
  cases logMoves_of_step step with
  | tick => exact covered
  | idle => exact covered
  | query considered => exact covered
  | drop => exact covered
  | fire found unfired due => exact covered
  | collect found fires fresh => exact covered_begin covered _ _ _ _ _ fresh
  | request asked fresh => exact covered_begin covered _ _ _ _ _ fresh
  | advance found advances => exact filed.covered_after covered all found advances

end LogCollectors.Filed

/-! ### Runs -/

theorem LogCollectors.filed_start (now : Time) :
    ({ clock := now } : LogCollectors Process).Filed where
  distinct := fun found => absurd found (by simp)
  opened := fun found => absurd found (by simp)
  owned := fun stored => absurd stored (by simp)
  written := fun found => absurd found (by simp)
  present := fun completed => absurd completed.1 (by simp)
  selected := fun found => absurd found (by simp)
  unlinked := fun found => absurd found (by simp)
  retained := fun found => absurd found (by simp)

theorem LogCollectors.covered_start (now : Time) :
    ({ clock := now } : LogCollectors Process).Covered :=
  fun _ _ _ _ completed => absurd completed.1 (by simp)

/-- The last bundle. In every run in which collections prune for their own records, a target that a
collection has completed for has a completed record with its file, and, if no pruning fails before
it has deleted the records, only one when all its collections are finished. -/
theorem last_bundle_retained [DecidableEq Process] (casefold : Text → Text) (config : PolicyConfig)
    (now : Time) {events : List (CollectorEvent Process)} {final : LogCollectors Process}
    (own : (collectorMachine casefold config).Throughout LogCollectors.PrunesForOwn
      { clock := now } events)
    (run : (collectorMachine casefold config).run { clock := now } events = some final) :
    final.KeepsBundles ∧
      ((collectorMachine casefold config).Throughout LogCollectors.PrunesAll { clock := now }
        events → final.Retains) := by
  have filed := (collectorMachine casefold config).run_keeps
    (fun filed own step => LogCollectors.Filed.step filed own step)
    (LogCollectors.filed_start now) own run
  refine ⟨filed.keepsBundles, fun all => filed.retains ?_⟩
  let holds (state : LogCollectors Process) : Prop := state.Filed ∧ state.Covered
  have kept : holds final := (collectorMachine casefold config).run_keeps
    (fun before meets step =>
      ⟨before.1.step meets.1 step, before.1.covered_step before.2 meets.2 step⟩)
    ⟨LogCollectors.filed_start now, LogCollectors.covered_start now⟩
    ((collectorMachine casefold config).throughout_and own all) run
  exact kept.2

instance (state : LogCollectors Process) (event : CollectorEvent Process) :
    Decidable (state.PrunesForOwn event) :=
  match event with
  | .collectSingle _ _ (some name) | .request _ _ _ _ (some name) =>
    inferInstanceAs (Decidable (∀ entry ∈ state.collections.rows,
      entry.2.file ≠ ⟨sanitizeFilename name, state.clock⟩))
  | .collection id .delete => inferInstanceAs (Decidable (∀ collection ∈ state.collections.get id,
      (∃ logId ∈ collection.phase.record, ∃ log ∈ state.logs.get logId,
        log.file = collection.file) ∧
      ∀ entry ∈ collection.phase.superseded, ∀ log ∈ state.logs.get entry.1, log.file = entry.2))
  | .collection _ .pruneFails => isTrue trivial
  | .collectSingle _ _ none => isTrue trivial
  | .request _ _ _ _ none => isTrue trivial
  | .tick _ => isTrue trivial
  | .alert _ _ _ => isTrue trivial
  | .evaluate _ => isTrue trivial
  | .evaluationFails _ => isTrue trivial
  | .collection _ (.create _) => isTrue trivial
  | .collection _ .createFails => isTrue trivial
  | .collection _ .download => isTrue trivial
  | .collection _ .complete => isTrue trivial
  | .collection _ (.fail _) => isTrue trivial
  | .collection _ .select => isTrue trivial
  | .collection _ .retryDelete => isTrue trivial
  | .collection _ .deleteFile => isTrue trivial

instance (state : LogCollectors Process) (event : CollectorEvent Process) :
    Decidable (state.PrunesAll event) :=
  match event with
  | .collection id .pruneFails => inferInstanceAs (Decidable
      (∀ collection ∈ state.collections.get id, collection.phase.unlinking ≠ []))
  | .collectSingle _ _ _ => isTrue trivial
  | .request _ _ _ _ _ => isTrue trivial
  | .tick _ => isTrue trivial
  | .alert _ _ _ => isTrue trivial
  | .evaluate _ => isTrue trivial
  | .evaluationFails _ => isTrue trivial
  | .collection _ (.create _) => isTrue trivial
  | .collection _ .createFails => isTrue trivial
  | .collection _ .download => isTrue trivial
  | .collection _ .complete => isTrue trivial
  | .collection _ (.fail _) => isTrue trivial
  | .collection _ .select => isTrue trivial
  | .collection _ .delete => isTrue trivial
  | .collection _ .retryDelete => isTrue trivial
  | .collection _ .deleteFile => isTrue trivial

/-- A collection up to its completion. -/
def completion (process : LogProcess) (number : Nat) : List (CollectorEvent LogProcess) :=
  [.request number process .manual 1 (some "bmc"), .collection number (.create number),
    .collection number .download, .collection number .complete]

/-- The pruning of one record. -/
def pruning (number : Nat) : List (CollectorEvent LogProcess) :=
  [.collection number .select, .collection number .delete, .collection number .deleteFile]

/-- Two collections of one target, one after the other. -/
def collectionsInTurn : List (CollectorEvent LogProcess) :=
  completion .api 1 ++ .collection 1 .select :: .tick 1 :: completion .collector 2 ++ pruning 2

theorem collectionsInTurn_retain : ∃ final,
    (collectorMachine Strings.lower {}).run { clock := 0 } collectionsInTurn = some final ∧
      final.Retains := by
  have own : (collectorMachine Strings.lower {}).Throughout LogCollectors.PrunesForOwn
      ({ clock := 0 } : LogCollectors LogProcess) collectionsInTurn := by
    decide +kernel
  have all : (collectorMachine Strings.lower {}).Throughout LogCollectors.PrunesAll
      ({ clock := 0 } : LogCollectors LogProcess) collectionsInTurn := by
    decide +kernel
  exact ⟨_, rfl, (last_bundle_retained Strings.lower {} 0 own rfl).2 all⟩

/-- Two collections of one target that complete before either prunes. -/
def collectionsTogether : List (CollectorEvent LogProcess) :=
  completion .api 1 ++ .tick 1 :: completion .collector 2 ++ pruning 1 ++ pruning 2

/-- Each of two collections deletes the record of the other, and no bundle is left. -/
theorem mutualPruning_loses : ∃ final : LogCollectors LogProcess,
    (collectorMachine Strings.lower {}).run { clock := 0 } collectionsTogether = some final ∧
      ¬ final.Retains := by
  refine ⟨_, rfl, fun retains => ?_⟩
  obtain ⟨logId, log, completed, _⟩ := retains.kept (show _ = some _ from Table.get_eq_some_iff.mpr
    List.mem_cons_self) rfl
  exact absurd (Table.mem_rows_of_get completed.1) List.not_mem_nil

end Gyanam
