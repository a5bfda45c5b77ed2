/-
This file follows poll statuses into the store. The pending dictionary is a
write-behind buffer with two flushers: the writer, and the flush of a stop. As
long as no flush takes a target that the other one is writing, and the writer is
not cancelled before its flush lands, the store gets the last recording of every
target. Nothing in the poller sees to either.
-/

import Gyanam.Lib.WriteBehind
import Gyanam.StatusWriter

namespace Gyanam

/-! ### What a batch writes -/

/-- The status and message of a row that was polled. -/
def PollRow.entry (row : PollRow) : Option PollEntry :=
  row.lastPollStatus.map fun status => (status, row.lastErrorMessage)

/-- A row after an update. -/
def PollRow.write (now : Time) (row : PollRow) : PollEntry → PollRow
  | (.success, _) => row.succeed now
  | (.error, message) => row.fail now message

/-- A success carries no error message. -/
def Truthful (entry : PollEntry) : Prop := entry.1 = .success → entry.2 = none

theorem entry_write (now : Time) (row : PollRow) {entry : PollEntry} (truthful : Truthful entry) :
    (row.write now entry).entry = some entry := by
  obtain ⟨status, message⟩ := entry
  cases status with
  | success =>
    have silent : message = none := truthful rfl
    rw [silent]
    rfl
  | error => rfl

section Batch

variable (now : Time) (updates : Table TargetId PollEntry) (targets : Table TargetId PollRow)

theorem mem_errorRows {tid : TargetId} {message : Option PollMessage} :
    (tid, message) ∈ ((updates.rows.filter fun entry => decide (entry.2.1 = .error)).map
      fun entry => (entry.1, entry.2.2)) ↔ updates.get tid = some (.error, message) := by
  rw [Table.get_eq_some_iff, List.mem_map]
  constructor
  · rintro ⟨⟨other, status, text⟩, member, same⟩
    obtain ⟨found, error⟩ := List.mem_filter.mp member
    obtain ⟨rfl, rfl⟩ := Prod.mk.inj same
    rw [decide_eq_true_eq] at error
    rwa [← error]
  · intro found
    exact ⟨(tid, .error, message), List.mem_filter.mpr ⟨found, rfl⟩, rfl⟩

theorem mem_successIds {tid : TargetId} :
    tid ∈ ((updates.rows.filter fun entry => decide (entry.2.1 = .success)).map Prod.fst) ↔
      ∃ message, updates.get tid = some (.success, message) := by
  simp only [List.mem_map, List.mem_filter, Prod.exists, Table.get_eq_some_iff, decide_eq_true_eq]
  constructor
  · rintro ⟨_, status, message, ⟨found, rfl⟩, rfl⟩
    exact ⟨message, found⟩
  · rintro ⟨message, found⟩
    exact ⟨tid, .success, message, ⟨found, rfl⟩, rfl⟩

/-- A batch writes each of its targets once, and no other. -/
theorem get_updatePollStatusBatch (tid : TargetId) :
    (updatePollStatusBatch now updates targets).get tid =
      match updates.get tid with
      | none => targets.get tid
      | some entry => (targets.get tid).map fun row => row.write now entry := by
  have acts : ActsOn (fun (targets : Table TargetId PollRow) tid => targets.get tid)
      (fun targets (row : TargetId × Option PollMessage) =>
        targets.updateWhere (fun tid _ => decide (tid = row.1)) (.fail now row.2))
      Prod.fst fun row before => before.map (.fail now row.2) := by
    refine .intro (fun targets row => ?_) fun targets row other different => ?_
    · simp [Table.get_updateWhere]
    · simp [Table.get_updateWhere, different]
  have distinct : (((updates.rows.filter fun entry => decide (entry.2.1 = .error)).map
      fun entry => (entry.1, entry.2.2)).map Prod.fst).Nodup := by
    rw [List.map_map]
    exact updates.nodup.sublist (List.filter_sublist.map Prod.fst)
  have untouched (absent : ∀ message, updates.get tid ≠ some (.error, message)) :
      tid ∉ ((updates.rows.filter fun entry => decide (entry.2.1 = .error)).map
        fun entry => (entry.1, entry.2.2)).map Prod.fst := by
    intro member
    obtain ⟨row, found, rfl⟩ := List.mem_map.mp member
    exact absent row.2 ((mem_errorRows updates).mp found)
  unfold updatePollStatusBatch
  cases found : updates.get tid with
  | none =>
    have unlisted : ¬ ∃ message, updates.get tid = some (.success, message) := by
      rintro ⟨message, same⟩
      exact absurd (found.symm.trans same) (by simp)
    rw [acts.foldl_of_not_mem (untouched fun _ => by simp [found]), Table.get_updateWhere]
    simp [mem_successIds, unlisted]
  | some entry =>
    obtain ⟨status, message⟩ := entry
    cases status with
    | success =>
      rw [acts.foldl_of_not_mem (untouched fun _ => by simp [found]), Table.get_updateWhere]
      have listed : ∃ message, updates.get tid = some (.success, message) := ⟨message, found⟩
      simp only [mem_successIds, listed, decide_true]
      rfl
    | error =>
      have unlisted : ¬ ∃ message, updates.get tid = some (.success, message) := by
        rintro ⟨message, same⟩
        exact absurd (found.symm.trans same) (by simp)
      rw [acts.foldl_of_mem distinct ((mem_errorRows updates).mpr found), Table.get_updateWhere]
      simp only [mem_successIds, unlisted, decide_false]
      cases targets.get tid <;> rfl

end Batch

/-! ### The buffer -/

namespace StatusWriter

/-- The write-behind buffer of the statuses. -/
def toBuffer (state : StatusWriter) : WriteBehind StatusFlusher TargetId PollEntry where
  pending := state.pendingStatus.get
  flight := fun flusher tid => (state.updates flusher).bind fun updates => updates.get tid
  present := fun tid => (state.targets.get tid).isSome
  stored := fun tid => (state.targets.get tid).bind PollRow.entry
  last := state.lastRecorded.get

variable {state : StatusWriter}

theorem updates_returned (state : StatusWriter) (flusher other : StatusFlusher) :
    (state.returned flusher).updates other =
      if other = flusher then none else state.updates other := by
  cases flusher with
  | writer =>
    cases other with
    | writer => cases running : state.running <;> simp [returned, updates, running]
    | stop => rfl
  | stop => cases other <;> rfl

theorem flight_eq (state : StatusWriter) {flusher : StatusFlusher}
    {updates : Table TargetId PollEntry} (flies : state.updates flusher = some updates) :
    state.toBuffer.flight flusher = updates.get := by
  funext tid
  show (state.updates flusher).bind _ = _
  rw [flies]
  rfl

theorem flight_of_idle (state : StatusWriter) {flusher : StatusFlusher}
    (idle : state.updates flusher = none) (tid : TargetId) :
    state.toBuffer.flight flusher tid = none := by
  show (state.updates flusher).bind _ = _
  rw [idle]
  rfl

theorem get_mergeBack (pending updates : Table TargetId PollEntry) (tid : TargetId) :
    (mergeBack pending updates).get tid = (pending.get tid).or (updates.get tid) := by
  have acts : ActsOn (fun (pending : Table TargetId PollEntry) tid => pending.get tid)
      (fun pending (entry : TargetId × PollEntry) =>
        pending.upsert entry.1 entry.2 (fun _ => false) id)
      Prod.fst fun entry before => before.or (some entry.2) := by
    intro pending entry other
    simp only [Table.get_upsert]
    split
    · next same =>
      rw [same]
      cases pending.get entry.1 <;> rfl
    · rfl
  unfold mergeBack
  cases found : updates.get tid with
  | none =>
    rw [Option.or_none]
    exact acts.foldl_of_not_mem (Table.get_eq_none_iff.mp found) pending
  | some entry => exact acts.foldl_of_mem updates.nodup (Table.get_eq_some_iff.mp found) pending

theorem toBuffer_record (state : StatusWriter) (tid : TargetId) (entry : PollEntry) :
    toBuffer { state with
      pendingStatus := state.pendingStatus.set tid entry
      lastRecorded := state.lastRecorded.set tid entry } = state.toBuffer.record tid entry := by
  have set (table : Table TargetId PollEntry) :
      (table.set tid entry).get = Function.update table.get tid (some entry) := by
    funext other
    rw [Table.get_set, Function.update_apply]
  unfold toBuffer WriteBehind.record
  rw [set, set]
  rfl

theorem toBuffer_returned (state : StatusWriter) (flusher : StatusFlusher) :
    (state.returned flusher).toBuffer = state.toBuffer.clear flusher := by
  have flight : (state.returned flusher).toBuffer.flight =
      (state.toBuffer.clear flusher).flight := by
    funext other tid
    rw [WriteBehind.flight_clear]
    show ((state.returned flusher).updates other).bind _ = _
    rw [updates_returned]
    split <;> rfl
  cases flusher with
  | writer => exact WriteBehind.ext rfl flight rfl rfl rfl
  | stop => exact WriteBehind.ext rfl flight rfl rfl rfl

/-- A flusher that drains takes all that waits, or nothing waits. -/
theorem toBuffer_drain (state : StatusWriter) {flusher : StatusFlusher}
    (idle : state.updates flusher = none) :
    (state.drain flusher).toBuffer = state.toBuffer ∨
      (state.drain flusher).toBuffer = state.toBuffer.take flusher := by
  unfold drain
  split
  · rw [toBuffer_returned]
    exact .inl (WriteBehind.clear_of_idle _ _ (state.flight_of_idle idle))
  · cases flusher with
    | writer =>
      refine .inr (WriteBehind.ext rfl ?_ rfl rfl rfl)
      funext other tid
      rw [WriteBehind.flight_take]
      cases other <;> rfl
    | stop =>
      refine .inr (WriteBehind.ext rfl ?_ rfl rfl rfl)
      funext other tid
      rw [WriteBehind.flight_take]
      cases other <;> rfl

/-- The transaction of a flush writes what is in flight. -/
theorem toBuffer_land (truthful : state.toBuffer.Carries Truthful) (now : Time)
    {flusher : StatusFlusher}
    {updates : Table TargetId PollEntry} (flies : state.updates flusher = some updates) :
    (state.land now updates true).toBuffer = state.toBuffer.land flusher := by
  refine WriteBehind.ext rfl rfl ?_ ?_ rfl
  · funext tid
    show ((updatePollStatusBatch now updates state.targets).get tid).isSome = _
    rw [get_updatePollStatusBatch]
    cases updates.get tid with
    | none => rfl
    | some entry => exact Option.isSome_map
  · funext tid
    show ((updatePollStatusBatch now updates state.targets).get tid).bind PollRow.entry =
      if (state.targets.get tid).isSome then
        (state.toBuffer.flight flusher tid).or ((state.targets.get tid).bind PollRow.entry)
      else (state.targets.get tid).bind PollRow.entry
    rw [get_updatePollStatusBatch, state.flight_eq flies]
    cases found : updates.get tid with
    | none =>
      rw [Option.none_or, ite_self]
    | some entry =>
      cases state.targets.get tid with
      | none => rfl
      | some row =>
        exact entry_write now row
          (truthful.flight ((congrFun (state.flight_eq flies) tid).trans found))

theorem toBuffer_mergeBack (state : StatusWriter) {flusher : StatusFlusher}
    {updates : Table TargetId PollEntry} (flies : state.updates flusher = some updates) :
    toBuffer { state.returned flusher with
      pendingStatus := mergeBack state.pendingStatus updates } =
        state.toBuffer.giveBack flusher := by
  have returned := state.toBuffer_returned flusher
  have pending : (mergeBack state.pendingStatus updates).get =
      (state.toBuffer.giveBack flusher).pending := by
    funext tid
    rw [get_mergeBack, ← state.flight_eq flies]
    rfl
  have flight := congrArg WriteBehind.flight returned
  have present := congrArg WriteBehind.present returned
  have stored := congrArg WriteBehind.stored returned
  have last := congrArg WriteBehind.last returned
  exact WriteBehind.ext pending flight present stored last

/-! ### Order -/

/-- No flush takes a target that the other one is writing, and the writer is not cancelled before
its flush has landed. -/
def InOrder (state : StatusWriter) : StatusEvent → Prop
  | .wake => ∀ updates ∈ state.updates .stop, ∀ tid ∈ updates.keys,
      tid ∉ state.pendingStatus.keys
  | .stopFlush => ∀ updates ∈ state.updates .writer, ∀ tid ∈ updates.keys,
      tid ∉ state.pendingStatus.keys
  | .cancel _ landed => landed = true ∨ state.updates .writer = none
  | _ => True

/-- What is pending is the most recent recording; and the status and message that the store has of a
target are those of the most recent recording when none is pending or in flight. -/
structure Latest (state : StatusWriter) : Prop where
  pending : ∀ tid entry, state.pendingStatus.get tid = some entry →
    state.lastRecorded.get tid = some entry
  stored : ∀ tid entry row, state.pendingStatus.get tid = none →
    (∀ flusher, ∀ updates ∈ state.updates flusher, updates.get tid = none) →
      state.lastRecorded.get tid = some entry → state.targets.get tid = some row →
        row.lastPollStatus = some entry.1 ∧ row.lastErrorMessage = entry.2

/-- The buffer is in order, and no success that it carries has an error message. -/
structure Sound (state : StatusWriter) : Prop where
  ordered : state.toBuffer.Ordered
  truthful : state.toBuffer.Carries Truthful

theorem Sound.latest (sound : state.Sound) : state.Latest where
  pending := fun _ _ waits => sound.ordered.waiting waits
  stored := by
    intro tid entry row waits flies recorded found
    have unwritten (flusher : StatusFlusher) : state.toBuffer.flight flusher tid = none := by
      cases writing : state.updates flusher with
      | none => exact state.flight_of_idle writing tid
      | some updates =>
        rw [state.flight_eq writing]
        exact flies flusher updates writing
    have stored := sound.ordered.settled waits unwritten (Option.isSome_iff_exists.mpr ⟨row, found⟩)
      recorded
    obtain ⟨row', found', polled⟩ := Option.bind_eq_some_iff.mp stored
    obtain rfl := Option.some.inj (found.symm.trans found')
    obtain ⟨status, polled', rfl⟩ := Option.map_eq_some_iff.mp polled
    exact ⟨polled', rfl⟩

/-- A flusher takes what the other one is not writing. -/
theorem Sound.drain (sound : state.Sound) {flusher : StatusFlusher}
    (idle : state.updates flusher = none)
    (apart : ∀ other, other ≠ flusher → ∀ updates ∈ state.updates other, ∀ tid ∈ updates.keys,
      tid ∉ state.pendingStatus.keys) : (state.drain flusher).Sound := by
  rcases state.toBuffer_drain idle with same | taken
  · exact ⟨same ▸ sound.ordered, same ▸ sound.truthful⟩
  · refine ⟨taken ▸ sound.ordered.take (fun tid waits other => ?_) (state.flight_of_idle idle),
      taken ▸ sound.truthful.take flusher⟩
    by_cases own : other = flusher
    · rw [own, state.flight_of_idle idle]
    · cases flies : state.updates other with
      | none => exact state.flight_of_idle flies tid
      | some updates =>
        rw [state.flight_eq flies, Table.get_eq_none_iff]
        intro written
        refine apart other own updates flies tid written (Table.mem_keys_iff.mpr ?_)
        exact Option.isSome_iff_exists.mp waits

/-- A flush that lands, or does not. -/
theorem Sound.land (sound : state.Sound) (now : Time) (landed : Bool) {flusher : StatusFlusher}
    {updates : Table TargetId PollEntry} (flies : state.updates flusher = some updates) :
    (state.land now updates landed).Sound := by
  cases landed with
  | false => exact sound
  | true =>
    have written := toBuffer_land sound.truthful now flies
    exact ⟨written ▸ sound.ordered.land flusher, written ▸ sound.truthful.land flusher⟩

theorem updates_land (state : StatusWriter) (now : Time) (updates : Table TargetId PollEntry)
    (landed : Bool) (flusher : StatusFlusher) :
    (state.land now updates landed).updates flusher = state.updates flusher := by
  cases landed <;> rfl

/-- A flusher whose flush has landed is done. -/
theorem Sound.clear (sound : state.Sound) (now : Time) {flusher : StatusFlusher}
    {updates : Table TargetId PollEntry} (flies : state.updates flusher = some updates) :
    ((state.land now updates true).returned flusher).Sound := by
  have landed := sound.land now true flies
  have written := toBuffer_land sound.truthful now flies
  have done := toBuffer_returned (state.land now updates true) flusher
  refine ⟨done ▸ landed.ordered.clear fun tid entry flight there => ?_,
    done ▸ landed.truthful.clear flusher⟩
  rw [written] at flight there ⊢
  exact WriteBehind.stored_land flight there

/-- Cancelling the writer drops what it is writing. -/
theorem toBuffer_cancel (state : StatusWriter) (flushed : state.stop = .flushed) :
    toBuffer { state with writer := .ended, stop := .none } = state.toBuffer.clear .writer := by
  refine WriteBehind.ext rfl ?_ rfl rfl rfl
  funext other tid
  rw [WriteBehind.flight_clear]
  cases other with
  | writer => rfl
  | stop =>
    have idle : state.updates .stop = none := by
      unfold updates
      rw [flushed]
    exact (state.flight_of_idle idle tid).symm

theorem Sound.step {event : StatusEvent} {next : StatusWriter} (sound : state.Sound)
    (inOrder : state.InOrder event) (step : state.step event = some next) : next.Sound := by
  have unchanged {other : StatusWriter} (same : other.toBuffer = state.toBuffer) : other.Sound :=
    ⟨same ▸ sound.ordered, same ▸ sound.truthful⟩
  cases event <;> simp only [StatusWriter.step] at step
  case start =>
    split at step
    · next halted ended =>
      obtain rfl := Option.some.inj step
      refine unchanged (WriteBehind.ext rfl ?_ rfl rfl rfl)
      funext flusher tid
      cases flusher with
      | writer => exact (state.flight_of_idle (by simp [updates, ended]) tid).symm
      | stop => rfl
    · exact absurd step (by simp)
  case record tid status message =>
    split at step
    · exact absurd step (by simp)
    · next silent =>
      obtain rfl := Option.some.inj step
      have recorded := state.toBuffer_record tid (status, message)
      refine ⟨recorded ▸ sound.ordered.record tid (status, message),
        recorded ▸ sound.truthful.record tid fun success => ?_⟩
      by_contra spoken
      exact silent ⟨success, spoken⟩
  case wake =>
    split at step
    · next sleeping =>
      obtain rfl := Option.some.inj step
      refine sound.drain (by simp [updates, sleeping]) fun other different => ?_
      cases other with
      | writer => exact absurd rfl different
      | stop => exact inOrder
    · exact absurd step (by simp)
  case stop =>
    split at step
    · next going =>
      obtain rfl := Option.some.inj step
      refine unchanged (WriteBehind.ext rfl ?_ rfl rfl rfl)
      funext flusher tid
      cases flusher with
      | writer => rfl
      | stop => exact (state.flight_of_idle (by simp [updates, going]) tid).symm
    · exact absurd step (by simp)
  case stopFlush =>
    split at step
    · next draining =>
      obtain rfl := Option.some.inj step
      refine sound.drain (by simp [updates, draining]) fun other different => ?_
      cases other with
      | writer => exact inOrder
      | stop => exact absurd rfl different
    · exact absurd step (by simp)
  case commit flusher now =>
    obtain ⟨updates, flies, rfl⟩ := Option.map_eq_some_iff.mp step
    exact sound.clear now flies
  case fail flusher now landed =>
    obtain ⟨updates, flies, rfl⟩ := Option.map_eq_some_iff.mp step
    have after := sound.land now landed flies
    have merged := (state.land now updates landed).toBuffer_mergeBack
      ((state.updates_land now updates landed flusher).trans flies)
    have pending : (state.land now updates landed).pendingStatus = state.pendingStatus := by
      cases landed <;> rfl
    rw [pending] at merged
    exact ⟨merged ▸ after.ordered.giveBack, merged ▸ after.truthful.giveBack flusher⟩
  case cancel now landed =>
    split at step
    · next flushed =>
      split at step
      · next idle =>
        obtain rfl := Option.some.inj step
        refine unchanged ?_
        rw [state.toBuffer_cancel flushed]
        exact WriteBehind.clear_of_idle _ _ (state.flight_of_idle idle)
      · next updates flies =>
        obtain rfl := Option.some.inj step
        obtain rfl := inOrder.resolve_right (by simp [flies])
        have cancelled := (state.land now updates true).toBuffer_cancel flushed
        have cleared := sound.clear now flies
        have returned := (state.land now updates true).toBuffer_returned .writer
        rw [← returned] at cancelled
        exact ⟨cancelled ▸ cleared.ordered, cancelled ▸ cleared.truthful⟩
    · exact absurd step (by simp)

/-! ### Runs -/

theorem sound_start (targets : Table TargetId PollRow) :
    ({ targets := targets } : StatusWriter).Sound := by
  have idle (flusher : StatusFlusher) (tid : TargetId) :
      ({ targets := targets } : StatusWriter).toBuffer.flight flusher tid = none := by
    cases flusher <;> rfl
  refine ⟨⟨fun flies => ?_, fun waits => ?_, fun _ flies => ?_, fun _ _ _ recorded => ?_⟩,
    ⟨fun waits => ?_, fun flies => ?_⟩⟩
  · exact absurd flies (by simp [idle])
  · exact absurd waits (Option.some_ne_none _).symm
  · exact absurd ((idle _ _).symm.trans flies) (Option.some_ne_none _).symm
  · exact absurd recorded (Option.some_ne_none _).symm
  · exact absurd waits (Option.some_ne_none _).symm
  · exact absurd ((idle _ _).symm.trans flies) (Option.some_ne_none _).symm

end StatusWriter

/-- The last recording wins. In every run in which no flush takes a target that the other one is
writing, and the writer is not cancelled before its flush lands, what is pending is the last
recording, and the store has the last recording of a target when none is pending or in flight. -/
theorem poll_status_latest (targets : Table TargetId PollRow) {events : List StatusEvent}
    {final : StatusWriter}
    (inOrder : statusMachine.Throughout StatusWriter.InOrder { targets := targets } events)
    (run : statusMachine.run { targets := targets } events = some final) : final.Latest :=
  (statusMachine.run_keeps StatusWriter.Sound.step (StatusWriter.sound_start targets) inOrder
    run).latest

instance (state : StatusWriter) (event : StatusEvent) : Decidable (state.InOrder event) :=
  match event with
  | .wake => inferInstanceAs (Decidable (∀ updates ∈ state.updates .stop, ∀ tid ∈ updates.keys,
      tid ∉ state.pendingStatus.keys))
  | .stopFlush => inferInstanceAs (Decidable (∀ updates ∈ state.updates .writer,
      ∀ tid ∈ updates.keys, tid ∉ state.pendingStatus.keys))
  | .cancel _ landed =>
    match flies : state.updates .writer with
    | none => isTrue (.inr flies)
    | some _ => decidable_of_iff (landed = true) (by simp [StatusWriter.InOrder, flies])
  | .start => isTrue trivial
  | .record _ _ _ => isTrue trivial
  | .stop => isTrue trivial
  | .commit _ _ => isTrue trivial
  | .fail _ _ _ => isTrue trivial

/-- A target that was never polled. -/
def unpolled : Table TargetId PollRow := Table.empty.set 1 {}

/-- A failed poll whose flush fails once, then a successful one. -/
def flushesInTurn : List StatusEvent :=
  [.start, .record 1 .error (some (.text "Timeout")), .wake, .record 1 .success none,
    .fail .writer 5 false, .wake, .commit .writer 10, .stop, .stopFlush, .cancel 12 false]

theorem flushesInTurn_latest : ∃ final,
    statusMachine.run { targets := unpolled } flushesInTurn = some final ∧ final.Latest := by
  have inOrder : statusMachine.Throughout StatusWriter.InOrder { targets := unpolled }
      flushesInTurn := by
    decide +kernel
  exact ⟨_, rfl, poll_status_latest unpolled inOrder rfl⟩

/-- A failed poll that the writer is flushing when a successful one is recorded and the poller is
stopped. -/
def flushesTogether : List StatusEvent :=
  [.start, .record 1 .error (some (.text "Timeout")), .wake, .record 1 .success none, .stop,
    .stopFlush, .commit .stop 5, .commit .writer 5, .cancel 6 false]

/-- The flush of the stop lands first, and the older one of the writer over it. -/
theorem olderFlush_overwrites : ∃ final,
    statusMachine.run { targets := unpolled } flushesTogether = some final ∧ ¬ final.Latest := by
  refine ⟨_, rfl, fun latest => ?_⟩
  have stored := latest.stored 1 (.success, none)
    { lastPollTime := some 5, lastPollStatus := some .error, consecutiveFailures := 1,
      lastErrorMessage := some (.text "Timeout") } rfl
    (fun flusher updates flies => by cases flusher <;> cases flies) rfl rfl
  exact absurd stored.1 (by decide)

end Gyanam
