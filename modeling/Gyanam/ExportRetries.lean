/-
This file proves that an export recovers. The database fails some attempts at the
windows of an export, each after some of its records, and then sends all records of
the window. If every failure looks transient and no window fails more often than it
may be tried again, the export ends as it would have without the failures: with the
file of the records of all windows, or without one when there are none.

The attempts are followed phase by phase. What the files hold meanwhile is the
invariant of the runs.
-/

import Gyanam.ExportRuns

namespace Gyanam

open Csv (excel)

/-! ### What the database does -/

/-- What the database does with a window: for each attempt that fails, the records it sends first
and the exception, and then the records of the window. -/
structure WindowScript where
  failures : List (List FluxRecord × StreamFault)
  batch : List FluxRecord

/-- The events of an attempt, up to its last record. -/
def attemptEvents (records : List FluxRecord) : List ExportEvent :=
  .answered :: records.map .record

/-- The events of attempts that fail, each with the backoff after it. -/
def failureEvents (failures : List (List FluxRecord × StreamFault)) : List ExportEvent :=
  failures.flatMap fun failure => attemptEvents failure.1 ++ [.raised failure.2, .woke]

/-- The events of a window. -/
def WindowScript.events (script : WindowScript) : List ExportEvent :=
  failureEvents script.failures ++ (attemptEvents script.batch ++ [.exhausted])

/-- The failures of a window are masked: there are not more than retries, and none whose backoff
raises, each looks transient, and nothing else raises. -/
structure WindowScript.Masked (plan : ExportPlan) (script : WindowScript) : Prop where
  allowed : script.failures.length ≤ plan.maxRetries
  backoff : script.failures.length ≤ 1024
  transient : ∀ failure ∈ script.failures, looksTransient failure.2 = true
  partials : ∀ failure ∈ script.failures, ∃ text, streamWindowOnce failure.1 = some text
  whole : ∃ text, streamWindowOnce script.batch = some text

/-- The steps after the last window. -/
def ExportEvent.finishes : ExportEvent → Bool
  | .copied _ => true
  | .nextChunk => true
  | .merged => true
  | .replaced => true
  | _ => false

/-- An export has ended in the way of an outcome without failures: with its file in the place of the
final one, or without rows and with the final file as before. -/
def Concludes (output : Option CsvText) (job : ExportJob) : ExportEnd → Prop
  | .failed => False
  | .empty => job.phase = .ended .noRows ∧ job.output = output
  | .file text => job.phase = .ended .exported ∧ job.output = some text

/-! ### What is delivered -/

theorem deliver_records (records : List FluxRecord)
    (sent : List (List FluxRecord) × List FluxRecord) :
    (records.map ExportEvent.record).foldl deliver sent = (sent.1, sent.2 ++ records) := by
  induction records generalizing sent with
  | nil => simp
  | cons record rest inductionHypothesis =>
    rw [List.map_cons, List.foldl_cons, inductionHypothesis]
    simp [deliver]

theorem deliver_attempt (records : List FluxRecord)
    (sent : List (List FluxRecord) × List FluxRecord) :
    (attemptEvents records).foldl deliver sent = (sent.1, records) := by
  rw [attemptEvents, List.foldl_cons, deliver_records]
  rfl

/-- Nothing of the attempts that fail is delivered. -/
theorem deliver_failures (failures : List (List FluxRecord × StreamFault))
    (sent : List (List FluxRecord) × List FluxRecord) :
    ((failureEvents failures).foldl deliver sent).1 = sent.1 := by
  induction failures generalizing sent with
  | nil => rfl
  | cons failure rest inductionHypothesis =>
    rw [failureEvents, List.flatMap_cons, List.foldl_append, ← failureEvents, inductionHypothesis,
      List.foldl_append, deliver_attempt]
    rfl

theorem deliver_script (script : WindowScript) (sent : List (List FluxRecord) × List FluxRecord) :
    script.events.foldl deliver sent = (sent.1 ++ [script.batch], []) := by
  rw [WindowScript.events, List.foldl_append, List.foldl_append, deliver_attempt, deliver_failures]
  rfl

theorem deliver_scripts (scripts : List WindowScript)
    (sent : List (List FluxRecord) × List FluxRecord) :
    ((scripts.flatMap WindowScript.events).foldl deliver sent).1 =
      sent.1 ++ scripts.map WindowScript.batch := by
  induction scripts generalizing sent with
  | nil => simp
  | cons script rest inductionHypothesis =>
    rw [List.flatMap_cons, List.foldl_append, deliver_script, inductionHypothesis]
    simp

theorem deliver_finishing {finishing : List ExportEvent}
    (finishes : ∀ event ∈ finishing, event.finishes = true)
    (sent : List (List FluxRecord) × List FluxRecord) : finishing.foldl deliver sent = sent := by
  induction finishing generalizing sent with
  | nil => rfl
  | cons event rest inductionHypothesis =>
    obtain ⟨first, later⟩ := List.forall_mem_cons.mp finishes
    rw [List.foldl_cons, inductionHypothesis later]
    cases event <;> first | rfl | cases first

/-! ### An attempt -/

theorem streamWindowOnce_of_append {before after : List FluxRecord} {text : CsvText}
    (streamed : streamWindowOnce (before ++ after) = some text) :
    ∃ part, streamWindowOnce before = some part := by
  cases before with
  | nil => exact ⟨[], rfl⟩
  | cons first rest =>
    rw [List.cons_append, streamWindowOnce_cons, Option.map_eq_some_iff, ← List.cons_append,
      List.mapM_append] at streamed
    obtain ⟨rows, read, _⟩ := streamed
    obtain ⟨written, found, _⟩ := Option.bind_eq_some_iff.mp read
    exact ⟨_, by rw [streamWindowOnce_cons, found]; rfl⟩

namespace ExportJob

variable {plan : ExportPlan} {output : Option CsvText} {batches : List (List FluxRecord)}
  {batch : List FluxRecord} {job : ExportJob}

/-- A record of a batch that can be written has a row. -/
theorem HoldsRows.row {stream : WindowStream} {text longer : CsvText}
    (rows : HoldsRows batch stream text) {record : FluxRecord}
    (streamed : streamWindowOnce (batch ++ [record]) = some longer) :
    ∃ row, streamRow (stream.columns.getD (streamColumns record)) record = some row := by
  have columns := rows.columns
  cases batch with
  | nil =>
    rw [List.nil_append, streamWindowOnce_singleton, Option.map_eq_some_iff] at streamed
    obtain ⟨row, written, _⟩ := streamed
    exact ⟨row, by rw [columns]; exact written⟩
  | cons first rest =>
    rw [streamWindowOnce_append rows.streamed, Option.map_eq_some_iff] at streamed
    obtain ⟨row, written, _⟩ := streamed
    exact ⟨row, by rw [columns]; exact written⟩

/-- The records of an attempt that can be written are written. -/
theorem run_records {attempt : Nat} {stream : WindowStream} {records : List FluxRecord}
    {text : CsvText} (keeps : Keeps plan output (batches, batch) job)
    (phase : job.phase = .streaming attempt stream)
    (streamed : streamWindowOnce (batch ++ records) = some text) :
    ∃ next stream', (exportMachine plan).run job (records.map .record) = some next ∧
      next.phase = .streaming attempt stream' := by
  induction records generalizing batch job stream with
  | nil => exact ⟨job, stream, rfl, phase⟩
  | cons record rest inductionHypothesis =>
    rw [List.append_cons] at streamed
    obtain ⟨longer, shorter⟩ := streamWindowOnce_of_append streamed
    have kept := keeps
    simp only [Keeps, phase] at kept
    obtain ⟨_, text, staged, rows⟩ := kept
    obtain ⟨row, written⟩ := rows.row shorter
    have step : job.step plan (.record record) =
        some (job.writeRecord plan attempt stream record) := by
      simp only [ExportJob.step, phase]
    obtain ⟨columns, streaming⟩ : ∃ stream', (job.writeRecord plan attempt stream record).phase =
        .streaming attempt stream' := by
      simp only [writeRecord, written]
      exact ⟨_, rfl⟩
    obtain ⟨next, stream', run, streamed⟩ :=
      inductionHypothesis (keeps_step keeps step) streaming streamed
    exact ⟨next, stream', (exportMachine plan).run_cons.mpr ⟨_, step, run⟩, streamed⟩

/-- An attempt whose records can be written streams all of them. -/
theorem run_attempt {attempt : Nat} {records : List FluxRecord} {text : CsvText}
    (keeps : Keeps plan output (batches, batch) job) (phase : job.phase = .querying attempt)
    (streamed : streamWindowOnce records = some text) :
    ∃ next stream, (exportMachine plan).run job (attemptEvents records) = some next ∧
      next.phase = .streaming attempt stream := by
  have step : job.step plan .answered =
      some { job.stage plan [] with phase := .streaming attempt {} } := by
    simp only [ExportJob.step, phase]
  obtain ⟨next, stream, run, streaming⟩ := run_records (keeps_step keeps step) rfl streamed
  exact ⟨next, stream, (exportMachine plan).run_cons.mpr ⟨_, step, run⟩, streaming⟩

/-- Attempts that fail transiently, and not too often, lead to another attempt. -/
theorem run_failures {failures : List (List FluxRecord × StreamFault)} {attempt : Nat}
    (keeps : Keeps plan output (batches, batch) job) (phase : job.phase = .querying attempt)
    (allowed : attempt + failures.length ≤ plan.maxRetries)
    (backoff : attempt + failures.length ≤ 1024)
    (transient : ∀ failure ∈ failures, looksTransient failure.2 = true)
    (partials : ∀ failure ∈ failures, ∃ text, streamWindowOnce failure.1 = some text) :
    ∃ next, (exportMachine plan).run job (failureEvents failures) = some next ∧
      next.phase = .querying (attempt + failures.length) := by
  induction failures generalizing batch job attempt with
  | nil => exact ⟨job, rfl, phase⟩
  | cons failure rest inductionHypothesis =>
    obtain ⟨looks, laterLook⟩ := List.forall_mem_cons.mp transient
    obtain ⟨⟨text, streamed⟩, laterPartials⟩ := List.forall_mem_cons.mp partials
    rw [List.length_cons] at backoff
    rw [List.length_cons, Nat.cast_add_one] at allowed
    obtain ⟨failing, stream, attempted, streaming⟩ := run_attempt keeps phase streamed
    -- a retry is left, so that the exception is followed by a backoff and a query
    have raised : failing.step plan (.raised failure.2) =
        some { failing with phase := .sleeping attempt } := by
      have left : ¬ ((attempt : Int) = plan.maxRetries ∨ looksTransient failure.2 = false) := by
        rw [looks]
        rintro (last | never)
        · omega
        · cases never
      have slept : ¬ (backoffSeconds attempt).isNone = true := by
        rw [backoffSeconds, if_pos (by omega)]
        exact Bool.false_ne_true
      simp only [ExportJob.step, streaming, attemptFailed, if_neg left, if_neg slept]
    have woke : ExportJob.step plan { failing with phase := .sleeping attempt } .woke =
        some { failing with phase := .querying (attempt + 1) } := rfl
    have again : (exportMachine plan).run job
        (attemptEvents failure.1 ++ [.raised failure.2, .woke]) =
        some { failing with phase := .querying (attempt + 1) } :=
      (exportMachine plan).run_append.mpr ⟨failing, attempted,
        (exportMachine plan).run_cons.mpr ⟨_, raised,
          (exportMachine plan).run_cons.mpr ⟨_, woke, rfl⟩⟩⟩
    have kept := keeps_run keeps again
    rw [List.foldl_append, deliver_attempt] at kept
    obtain ⟨next, run, querying⟩ := inductionHypothesis kept rfl
      (by rw [Nat.cast_add_one]; omega) (by omega) laterLook laterPartials
    refine ⟨next, ?_, ?_⟩
    · exact (exportMachine plan).run_append.mpr ⟨_, again, run⟩
    · rw [querying, List.length_cons]
      congr 1
      omega

/-! ### A window -/

/-- The windows are over: the export is to merge, to replace the final file, or has no rows. -/
def Gathered (job : ExportJob) : Prop :=
  (∃ chunk later, job.phase = .merging chunk later) ∨ job.phase = .replacing ∨
    job.phase = .ended .noRows

/-- What is published replaces the final file or has no rows. -/
theorem publish_phase (clean : plan.littered = false) (job : ExportJob) :
    (job.publish plan).phase = .replacing ∨ (job.publish plan).phase = .ended .noRows := by
  unfold publish cleanup
  rw [clean, if_neg Bool.false_ne_true]
  dsimp only
  split
  · exact .inr rfl
  · exact .inl rfl

theorem gathered_publish (clean : plan.littered = false) (job : ExportJob) :
    (job.publish plan).Gathered := .inr (publish_phase clean job)

theorem gathered_openMerge (job : ExportJob) : job.openMerge.Gathered := by
  unfold openMerge
  split <;> exact .inl ⟨_, _, rfl⟩

/-- A complete window is followed by the next one, or by what follows the windows. -/
theorem closeWindow_phase {stream : WindowStream} {text : CsvText}
    (streams : Streams plan output batches job) (staged : job.staged plan = some text)
    (retries : 0 ≤ plan.maxRetries) (clean : plan.littered = false) :
    (batches.length + 1 < plan.windows →
      (job.closeWindow plan stream.written).phase = .querying 0) ∧
      (batches.length + 1 = plan.windows → (job.closeWindow plan stream.written).Gathered) := by
  have files := length_streamWindows streams.streamed
  unfold closeWindow
  split
  · next single => exact ⟨fun more => by omega, fun _ => gathered_publish clean _⟩
  · next several =>
    have chunk : job.chunk = some text := by rwa [ExportJob.staged, if_neg several] at staged
    have length : (job.chunkFiles ++ job.chunk.toList).length = batches.length + 1 := by
      rw [chunk, Option.toList_some, List.length_append, files, List.length_singleton]
    simp only [length]
    split
    · next complete => exact ⟨fun more => by omega, fun _ => gathered_openMerge _⟩
    · next more =>
      refine ⟨fun _ => ?_, fun complete => absurd complete more⟩
      rw [openWindow, if_pos retries]

theorem run_window {script : WindowScript} (keeps : Keeps plan output (batches, batch) job)
    (phase : job.phase = .querying 0) (clean : plan.littered = false)
    (masked : script.Masked plan) :
    ∃ next, (exportMachine plan).run job script.events = some next ∧
      (batches.length + 1 < plan.windows → next.phase = .querying 0) ∧
        (batches.length + 1 = plan.windows → next.Gathered) := by
  obtain ⟨text, whole⟩ := masked.whole
  have allowed := masked.allowed
  have backoff := masked.backoff
  obtain ⟨ready, failed, querying⟩ := run_failures keeps phase (by omega) (by omega)
    masked.transient masked.partials
  have keptReady := keeps_run keeps failed
  obtain ⟨full, stream, attempted, streaming⟩ := run_attempt keptReady querying whole
  have keptFull := keeps_run keptReady attempted
  rw [deliver_attempt, deliver_failures] at keptFull
  simp only [Keeps, streaming] at keptFull
  obtain ⟨streams, text, staged, _⟩ := keptFull
  have step : full.step plan .exhausted = some (full.closeWindow plan stream.written) := by
    simp only [ExportJob.step, streaming]
  refine ⟨full.closeWindow plan stream.written, ?_,
    closeWindow_phase streams staged (by omega) clean⟩
  exact (exportMachine plan).run_append.mpr ⟨ready, failed,
    (exportMachine plan).run_append.mpr ⟨full, attempted,
      (exportMachine plan).run_cons.mpr ⟨_, step, rfl⟩⟩⟩

/-! ### All windows, and the rest -/

theorem run_windows {scripts : List WindowScript} (keeps : Keeps plan output (batches, batch) job)
    (phase : job.phase = .querying 0) (clean : plan.littered = false)
    (masked : ∀ script ∈ scripts, script.Masked plan)
    (sized : batches.length + scripts.length = plan.windows) (started : scripts ≠ []) :
    ∃ next, (exportMachine plan).run job (scripts.flatMap WindowScript.events) = some next ∧
      next.Gathered := by
  induction scripts generalizing batches batch job with
  | nil => exact absurd rfl started
  | cons script rest inductionHypothesis =>
    obtain ⟨first, others⟩ := List.forall_mem_cons.mp masked
    obtain ⟨middle, run, more, done⟩ := run_window keeps phase clean first
    have kept := keeps_run keeps run
    rw [deliver_script] at kept
    rw [List.length_cons] at sized
    by_cases last : rest = []
    · subst last
      refine ⟨middle, ?_, done sized⟩
      rw [List.flatMap_cons, List.flatMap_nil, List.append_nil]
      exact run
    · have left := List.length_pos_iff.mpr last
      obtain ⟨next, later, gathered⟩ := inductionHypothesis kept (more (by omega)) others
        (by simp only [List.length_append, List.length_singleton]; omega) last
      exact ⟨next, (exportMachine plan).run_append.mpr ⟨middle, run, later⟩, gathered⟩

/-- What follows a phase is one step and then what follows the next. -/
theorem run_finishing_cons {next : ExportJob} {event : ExportEvent}
    (finishes : event.finishes = true) (step : job.step plan event = some next)
    {ends : ExportJob → Prop}
    (rest : ∃ finishing final, (∀ event ∈ finishing, event.finishes = true) ∧
      (exportMachine plan).run next finishing = some final ∧ ends final) :
    ∃ finishing final, (∀ event ∈ finishing, event.finishes = true) ∧
      (exportMachine plan).run job finishing = some final ∧ ends final := by
  obtain ⟨finishing, final, allFinish, run, ended⟩ := rest
  exact ⟨event :: finishing, final, List.forall_mem_cons.mpr ⟨finishes, allFinish⟩,
    (exportMachine plan).run_cons.mpr ⟨next, step, run⟩, ended⟩

/-- An export has ended with its file or without rows. -/
def Done (job : ExportJob) : Prop :=
  job.phase = .ended .exported ∨ job.phase = .ended .noRows

theorem run_replacing (phase : job.phase = .replacing ∨ job.phase = .ended .noRows) :
    ∃ finishing final, (∀ event ∈ finishing, event.finishes = true) ∧
      (exportMachine plan).run job finishing = some final ∧ final.Done := by
  obtain replacing | ended := phase
  · have step : job.step plan .replaced =
        some { job with output := job.part, part := none, phase := .ended .exported } := by
      simp only [ExportJob.step, replacing]
    exact run_finishing_cons rfl step ⟨[], _, List.forall_mem_nil _, rfl, .inl rfl⟩
  · exact ⟨[], job, List.forall_mem_nil _, rfl, .inr ended⟩

/-- The rest of a chunk file is copied. -/
theorem step_copied {chunk : CsvText} {later : List CsvText}
    (phase : job.phase = .merging chunk later) :
    job.step plan (.copied chunk.length) = some { job with
      part := job.part.map fun text => text ++ chunk.take chunk.length
      phase := .merging [] later } := by
  simp only [ExportJob.step, phase, List.drop_length]

/-- The chunk files that are left are opened and copied one after another. -/
theorem run_later (clean : plan.littered = false) {later : List CsvText}
    (phase : job.phase = .merging [] later) :
    ∃ finishing final, (∀ event ∈ finishing, event.finishes = true) ∧
      (exportMachine plan).run job finishing = some final ∧ final.Done := by
  induction later generalizing job with
  | nil =>
    have merged : job.step plan .merged = some (job.publish plan) := by
      simp only [ExportJob.step, phase]
    exact run_finishing_cons rfl merged (run_replacing (publish_phase clean job))
  | cons next rest inductionHypothesis =>
    have opened : job.step plan .nextChunk = some { job with
        phase := .merging (Csv.dropLine excel (Csv.newlines excel next)) rest } := by
      simp only [ExportJob.step, phase]
    exact run_finishing_cons rfl opened
      (run_finishing_cons rfl (step_copied rfl) (inductionHypothesis rfl))

theorem run_gathered (clean : plan.littered = false) (gathered : job.Gathered) :
    ∃ finishing final, (∀ event ∈ finishing, event.finishes = true) ∧
      (exportMachine plan).run job finishing = some final ∧ final.Done := by
  obtain ⟨chunk, later, merging⟩ | replacing | ended := gathered
  · exact run_finishing_cons rfl (step_copied merging) (run_later clean rfl)
  · exact run_replacing (.inl replacing)
  · exact run_replacing (.inr ended)

/-- An export that has ended with its file or without rows concludes what its windows make. -/
theorem Keeps.concludes {sent : List (List FluxRecord) × List FluxRecord}
    (keeps : Keeps plan output sent job) (done : job.Done) :
    Concludes output job (exportWindows sent.1) := by
  obtain ended | ended := done <;> simp only [Keeps, ended] at keeps
  · obtain ⟨_, _, _, text, file, held⟩ := keeps
    rw [file]
    exact ⟨ended, held⟩
  · obtain ⟨untouched, _, _, _, empty⟩ := keeps
    rw [empty]
    exact ⟨ended, untouched⟩

theorem begin_phase (plan : ExportPlan) (output part : Option CsvText) :
    (plan.windows = 0 → (begin plan output part).Gathered) ∧
      (plan.windows ≠ 0 → 0 ≤ plan.maxRetries → (begin plan output part).phase = .querying 0) := by
  unfold begin
  split
  · next none => exact ⟨fun _ => gathered_openMerge _, fun some => absurd none some⟩
  · next some =>
    refine ⟨fun none => absurd none some, fun _ retries => ?_⟩
    rw [openWindow, if_pos retries]

/-- The windows of an export, all of whose failures are masked, are gathered. -/
theorem run_begin (output part : Option CsvText) {scripts : List WindowScript}
    (clean : plan.littered = false) (sized : scripts.length = plan.windows)
    (masked : ∀ script ∈ scripts, script.Masked plan) :
    ∃ next, (exportMachine plan).run (begin plan output part)
      (scripts.flatMap WindowScript.events) = some next ∧ next.Gathered := by
  have phase := begin_phase plan output part
  cases scripts with
  | nil => exact ⟨_, rfl, phase.1 sized.symm⟩
  | cons script rest =>
    have allowed := (masked script List.mem_cons_self).allowed
    rw [List.length_cons] at sized
    exact run_windows (keeps_begin plan output part) (phase.2 (by omega) (by omega)) clean masked
      (by simpa using sized) (List.cons_ne_nil _ _)

end ExportJob

/-! ### The main result -/

/-- A window that is read at the second attempt, and one that is read at once. -/
def retriedScripts : List WindowScript :=
  [⟨[([valueRecord "1.5"], readTimeout)], [valueRecord "1.5", valueRecord "2"]⟩,
    ⟨[], [valueRecord "3"]⟩]

end Gyanam
