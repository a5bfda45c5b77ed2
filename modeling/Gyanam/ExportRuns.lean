/-
This file proves that an export is atomic. Wherever a run of it is cut off, the
final file is the one from before, or the export has ended with the file that the
complete windows make: nothing of an attempt that failed is in it, and nothing of a
staging file that an earlier export left. An export whose windows fail transiently,
and not more often than they may be tried again, ends as if nothing had failed.

Both rest on one invariant: the file a window is streamed into is what its records
so far are written as, and the staging file with the rest of the chunk files is
what they are put together as.
-/

import Gyanam.ExportJob

namespace Gyanam

open Csv (excel)

/-! ### Records one after another -/

theorem streamWindowOnce_cons (first : FluxRecord) (rest : List FluxRecord) :
    streamWindowOnce (first :: rest) =
      ((first :: rest).mapM (streamRow (streamColumns first))).map fun rows =>
        Csv.write excel .crlf ((streamColumns first).map Prod.fst :: rows) := by
  have names : (streamColumns first).map Prod.fst = exportColumns first := by
    simp [streamColumns, Function.comp_def]
  have rows : streamRow (streamColumns first) = fun record =>
      (exportColumns first).mapM fun column =>
        exportField (isMoment first column) (record.get column) := by
    funext record
    simp [streamRow, streamColumns, Function.comp_def]
  rw [names, rows]
  rfl

/-- The first record of a window writes the header and its row. -/
theorem streamWindowOnce_singleton (record : FluxRecord) :
    streamWindowOnce [record] = (streamRow (streamColumns record) record).map fun row =>
      Csv.writeRow excel .crlf ((streamColumns record).map Prod.fst) ++
        Csv.writeRow excel .crlf row := by
  rw [streamWindowOnce_cons]
  cases row : streamRow (streamColumns record) record <;> simp [row, Csv.write]

/-- A later record adds its row. -/
theorem streamWindowOnce_append {first : FluxRecord} {rest : List FluxRecord} {text : CsvText}
    (streamed : streamWindowOnce (first :: rest) = some text) (record : FluxRecord) :
    streamWindowOnce (first :: rest ++ [record]) =
      (streamRow (streamColumns first) record).map fun row =>
        text ++ Csv.writeRow excel .crlf row := by
  rw [streamWindowOnce_cons, Option.map_eq_some_iff] at streamed
  obtain ⟨rows, read, rfl⟩ := streamed
  rw [List.cons_append, streamWindowOnce_cons, ← List.cons_append, List.mapM_append, read]
  cases row : streamRow (streamColumns first) record <;> simp [row, Csv.write]

theorem streamWindows_append {batches : List (List FluxRecord)} {batch : List FluxRecord}
    {files : List CsvText} {text : CsvText} (streamed : batches.mapM streamWindowOnce = some files)
    (last : streamWindowOnce batch = some text) :
    (batches ++ [batch]).mapM streamWindowOnce = some (files ++ [text]) := by
  simp [List.mapM_append, streamed, last]

theorem length_streamWindows {batches : List (List FluxRecord)} {files : List CsvText}
    (streamed : batches.mapM streamWindowOnce = some files) : files.length = batches.length :=
  (Fallible.mapM_eq_some_iff.mp streamed).length_eq.symm

/-! ### What an export makes of complete windows -/

theorem exportWindows_empty {batches : List (List FluxRecord)} {files : List CsvText}
    (streamed : batches.mapM streamWindowOnce = some files)
    (nothing : (batches.map List.length).sum = 0) : exportWindows batches = .empty := by
  simp only [exportWindows, streamed, nothing, if_true]

theorem exportWindows_single {batch : List FluxRecord} {file : CsvText}
    (streamed : streamWindowOnce batch = some file) (rows : batch.length ≠ 0) :
    exportWindows [batch] = .file file := by
  simp [exportWindows, streamed, rows]

theorem exportWindows_several {batches : List (List FluxRecord)} {files : List CsvText}
    (streamed : batches.mapM streamWindowOnce = some files) (several : files.length ≠ 1)
    (rows : (batches.map List.length).sum ≠ 0) :
    exportWindows batches = .file (concatChunkFiles files) := by
  simp only [exportWindows, streamed, if_neg rows]
  match files, several with
  | [], _ => rfl
  | _ :: _ :: _, _ => rfl

namespace ExportJob

/-! ### The invariant -/

/-- The files of the complete windows are what their records are written as, and their rows are
counted. The final file is as before, and a window is left. -/
structure Streams (plan : ExportPlan) (output : Option CsvText) (batches : List (List FluxRecord))
    (job : ExportJob) : Prop where
  untouched : job.output = output
  streamed : batches.mapM streamWindowOnce = some job.chunkFiles
  counted : (batches.map List.length).sum = job.totalWritten
  pending : batches.length < plan.windows

/-- The file of an attempt is what its records so far are written as. -/
structure HoldsRows (batch : List FluxRecord) (stream : WindowStream) (text : CsvText) : Prop where
  written : stream.written = batch.length
  columns : stream.columns = batch.head?.map streamColumns
  streamed : streamWindowOnce batch = some text

/-- The staging file with what is left of the chunk files is what all of them are put together
as. -/
structure Merges (plan : ExportPlan) (output : Option CsvText) (batches : List (List FluxRecord))
    (job : ExportJob) (chunk : CsvText) (later : List CsvText) : Prop where
  untouched : job.output = output
  streamed : batches.mapM streamWindowOnce = some job.chunkFiles
  counted : (batches.map List.length).sum = job.totalWritten
  complete : batches.length = plan.windows
  several : plan.windows ≠ 1
  merged : ∃ text, job.part = some text ∧
    text ++ (chunk ++ later.flatMap fun part => Csv.dropLine excel (Csv.newlines excel part)) =
      concatChunkFiles job.chunkFiles

/-- The temporary directory is gone. -/
def Cleaned (job : ExportJob) : Prop := job.chunk = none ∧ job.chunkFiles = []

/-- What is known of an export in each of its phases, from what was delivered to it. -/
def Keeps (plan : ExportPlan) (output : Option CsvText)
    (sent : List (List FluxRecord) × List FluxRecord) (job : ExportJob) : Prop :=
  match job.phase with
  | .querying _ => Streams plan output sent.1 job
  | .sleeping _ => Streams plan output sent.1 job
  | .streaming _ stream =>
    Streams plan output sent.1 job ∧ ∃ text, job.staged plan = some text ∧
      HoldsRows sent.2 stream text
  | .merging chunk later => Merges plan output sent.1 job chunk later
  | .replacing =>
    job.output = output ∧ sent.1.length = plan.windows ∧ job.Cleaned ∧
      ∃ text, exportWindows sent.1 = .file text ∧ job.part = some text
  | .ended .exported =>
    sent.1.length = plan.windows ∧ job.Cleaned ∧ job.part = none ∧
      ∃ text, exportWindows sent.1 = .file text ∧ job.output = some text
  | .ended .noRows =>
    job.output = output ∧ sent.1.length = plan.windows ∧ job.Cleaned ∧
      (plan.unlinks = true → job.part = none) ∧ exportWindows sent.1 = .empty
  | .ended .failed =>
    job.output = output ∧ job.Cleaned ∧ (plan.unlinks = true → job.part = none)
  | .ended .interrupted => job.output = output ∧ job.Cleaned
  | .ended .crashed => job.output = output ∧ (plan.littered = false → job.Cleaned)
  | .ended .killed => job.output = output

variable {plan : ExportPlan} {output : Option CsvText} {batches : List (List FluxRecord)}
  {batch : List FluxRecord} {job : ExportJob}

/-! ### Parts of a step -/

/-- Where the temporary directory stays, the export ends with the exception. -/
theorem keeps_cleanup {goesOn : ExportJob → ExportJob} (untouched : job.output = output)
    {sent : List (List FluxRecord) × List FluxRecord}
    (keeps : plan.littered = false →
      Keeps plan output sent (goesOn { job with chunk := none, chunkFiles := [] })) :
    Keeps plan output sent (job.cleanup plan goesOn) := by
  unfold cleanup
  split
  · next littered =>
    exact ⟨untouched, fun clean => absurd (littered.symm.trans clean) (by decide)⟩
  · next clean => exact keeps (Bool.eq_false_of_not_eq_true clean)

theorem unlink_output (plan : ExportPlan) (job : ExportJob) :
    (job.unlink plan).output = job.output := by
  unfold unlink
  split <;> rfl

theorem unlink_part (unlinks : plan.unlinks = true) : (job.unlink plan).part = none := by
  unfold unlink
  rw [if_pos unlinks]

theorem unlink_cleaned (plan : ExportPlan) {job : ExportJob} (cleaned : job.Cleaned) :
    (job.unlink plan).Cleaned := by
  unfold unlink
  split <;> exact cleaned

theorem keeps_fail (untouched : job.output = output)
    (sent : List (List FluxRecord) × List FluxRecord) :
    Keeps plan output sent (job.fail plan) := by
  have kept := (unlink_output plan job).trans untouched
  exact keeps_cleanup kept fun _ => ⟨kept, ⟨rfl, rfl⟩, unlink_part⟩

theorem keeps_attemptFailed (streams : Streams plan output batches job) (attempt : Nat)
    (exc : StreamFault) (batch : List FluxRecord) :
    Keeps plan output (batches, batch) (job.attemptFailed plan attempt exc) := by
  unfold attemptFailed
  split
  · exact keeps_fail streams.untouched _
  split
  · exact keeps_fail streams.untouched _
  · exact ⟨streams.untouched, streams.streamed, streams.counted, streams.pending⟩

theorem keeps_openWindow (streams : Streams plan output batches job) (batch : List FluxRecord) :
    Keeps plan output (batches, batch) (job.openWindow plan) := by
  unfold openWindow
  split
  · exact ⟨streams.untouched, streams.streamed, streams.counted, streams.pending⟩
  · exact keeps_fail streams.untouched _

/-- What complete windows make is published. -/
theorem keeps_publish (untouched : job.output = output) (complete : batches.length = plan.windows)
    (empty : job.totalWritten = 0 → exportWindows batches = .empty)
    (filled : job.totalWritten ≠ 0 → ∃ text, exportWindows batches = .file text ∧
      job.part = some text) (batch : List FluxRecord) :
    Keeps plan output (batches, batch) (job.publish plan) := by
  refine keeps_cleanup untouched fun _ => ?_
  split
  · next none =>
    exact ⟨(unlink_output plan _).trans untouched, complete, unlink_cleaned plan ⟨rfl, rfl⟩,
      unlink_part, empty none⟩
  · next some => exact ⟨untouched, complete, ⟨rfl, rfl⟩, filled some⟩

theorem keeps_openMerge (untouched : job.output = output)
    (streamed : batches.mapM streamWindowOnce = some job.chunkFiles)
    (counted : (batches.map List.length).sum = job.totalWritten)
    (complete : batches.length = plan.windows) (several : plan.windows ≠ 1)
    (batch : List FluxRecord) : Keeps plan output (batches, batch) job.openMerge := by
  unfold openMerge
  split
  · next none =>
    exact ⟨untouched, streamed, counted, complete, several, [], rfl,
      by simp [none, concatChunkFiles]⟩
  · next first rest files =>
    exact ⟨untouched, streamed, counted, complete, several, [], rfl,
      by simp [files, concatChunkFiles]⟩

theorem keeps_closeWindow (streams : Streams plan output batches job) {stream : WindowStream}
    {text : CsvText} (staged : job.staged plan = some text) (rows : HoldsRows batch stream text) :
    Keeps plan output (batches ++ [batch], []) (job.closeWindow plan stream.written) := by
  have streamed := streamWindows_append streams.streamed rows.streamed
  unfold closeWindow
  split
  · next single =>
    have alone : batches = [] := by
      have pending := streams.pending
      exact List.eq_nil_of_length_eq_zero (by omega)
    subst alone
    have part : job.part = some text := by rwa [ExportJob.staged, if_pos single] at staged
    refine keeps_publish ?_ ?_ (fun nothing => ?_) (fun filled => ?_) []
    · exact streams.untouched
    · exact single.symm
    · have none : batch.length = 0 := rows.written.symm.trans nothing
      exact exportWindows_empty streamed (by simp [none])
    · have some : batch.length ≠ 0 := fun none => filled (rows.written.trans none)
      exact ⟨text, exportWindows_single rows.streamed some, part⟩
  · next several =>
    have chunk : job.chunk = some text := by rwa [ExportJob.staged, if_neg several] at staged
    have files : job.chunkFiles ++ job.chunk.toList = job.chunkFiles ++ [text] := by rw [chunk]; rfl
    have counted : ((batches ++ [batch]).map List.length).sum =
        job.totalWritten + stream.written := by
      rw [List.map_append, List.sum_append, streams.counted, rows.written]
      simp
    have length := length_streamWindows streamed
    simp only [files]
    split
    · next complete =>
      refine keeps_openMerge ?_ ?_ ?_ (length.symm.trans complete) several []
      · exact streams.untouched
      · exact streamed
      · exact counted
    · next more =>
      refine keeps_openWindow ?_ []
      refine ⟨streams.untouched, streamed, counted, ?_⟩
      have pending := streams.pending
      simp only [List.length_append, List.length_singleton] at length more ⊢
      omega

/-- A record that can be written leaves the file of the attempt with its row. -/
theorem holdsRows_append {stream : WindowStream} {text : CsvText}
    (rows : HoldsRows batch stream text)
    {record : FluxRecord} {row : Csv.Row Char}
    (written : streamRow (stream.columns.getD (streamColumns record)) record = some row) :
    HoldsRows (batch ++ [record])
      ⟨some (stream.columns.getD (streamColumns record)), stream.written + 1⟩
      (text ++ (if stream.columns.isNone then
          Csv.writeRow excel .crlf ((stream.columns.getD (streamColumns record)).map Prod.fst)
        else []) ++ Csv.writeRow excel .crlf row) := by
  have columns := rows.columns
  have streamed := rows.streamed
  cases batch with
  | nil =>
    obtain rfl := Option.some.inj streamed
    rw [List.head?_nil, Option.map_none] at columns
    rw [columns, Option.getD_none] at written ⊢
    exact ⟨by simp [rows.written], rfl, by simp [streamWindowOnce_singleton, written]⟩
  | cons first rest =>
    rw [List.head?_cons, Option.map_some] at columns
    rw [columns, Option.getD_some] at written ⊢
    refine ⟨by simp [rows.written], rfl, ?_⟩
    rw [streamWindowOnce_append streamed, written]
    simp

theorem keeps_writeRecord (streams : Streams plan output batches job) {stream : WindowStream}
    {text : CsvText} (staged : job.staged plan = some text) (rows : HoldsRows batch stream text)
    (attempt : Nat) (record : FluxRecord) :
    Keeps plan output (batches, batch ++ [record])
      (job.writeRecord plan attempt stream record) := by
  have writes (text : CsvText) : Streams plan output batches (job.stage plan text) ∧
      (job.stage plan text).staged plan = some text := by
    unfold ExportJob.stage ExportJob.staged
    split <;> exact ⟨⟨streams.untouched, streams.streamed, streams.counted, streams.pending⟩, rfl⟩
  simp only [writeRecord, staged, Option.getD_some]
  split
  · exact keeps_attemptFailed (writes _).1 attempt isoformatFault _
  · next row written =>
    obtain ⟨⟨untouched, streamed, counted, pending⟩, held⟩ := writes _
    exact ⟨⟨untouched, streamed, counted, pending⟩, _, held, holdsRows_append rows written⟩

/-- Some of a chunk file goes from what is left of it to the staging file. -/
theorem merges_copied {chunk : CsvText} {later : List CsvText}
    (merges : Merges plan output batches job chunk later) (count : Nat) :
    Merges plan output batches
      { job with
        part := job.part.map fun text => text ++ chunk.take count
        phase := .merging (chunk.drop count) later } (chunk.drop count) later := by
  obtain ⟨text, part, merged⟩ := merges.merged
  refine ⟨merges.untouched, merges.streamed, merges.counted, merges.complete, merges.several,
    text ++ chunk.take count, by simp [part], ?_⟩
  rw [← merged, List.append_assoc, ← List.append_assoc (chunk.take count), List.take_append_drop]

/-- When nothing is left to copy, the staging file is what the windows are put together as. -/
theorem keeps_merged (merges : Merges plan output batches job [] []) (batch : List FluxRecord) :
    Keeps plan output (batches, batch) (job.publish plan) := by
  obtain ⟨text, part, merged⟩ := merges.merged
  rw [List.flatMap_nil, List.append_nil, List.append_nil] at merged
  subst merged
  have length := length_streamWindows merges.streamed
  refine keeps_publish merges.untouched merges.complete (fun nothing => ?_) (fun filled => ?_) batch
  · exact exportWindows_empty merges.streamed (merges.counted.trans nothing)
  · refine ⟨_, exportWindows_several merges.streamed ?_ (merges.counted ▸ filled), part⟩
    rw [length, merges.complete]
    exact merges.several

/-! ### Steps and runs -/

/-- In every phase but the last two, the final file is as before. -/
theorem Keeps.untouched {sent : List (List FluxRecord) × List FluxRecord}
    (keeps : Keeps plan output sent job) (unexported : job.phase ≠ .ended .exported) :
    job.output = output := by
  unfold Keeps at keeps
  split at keeps
  · exact keeps.untouched
  · exact keeps.untouched
  · exact keeps.1.untouched
  · exact keeps.untouched
  · exact keeps.1
  · next ended => exact absurd ended unexported
  · exact keeps.1
  · exact keeps.1
  · exact keeps.1
  · exact keeps.1
  · exact keeps

theorem keeps_step {sent : List (List FluxRecord) × List FluxRecord} {event : ExportEvent}
    {next : ExportJob} (keeps : Keeps plan output sent job)
    (step : job.step plan event = some next) : Keeps plan output (deliver sent event) next := by
  obtain ⟨batches, batch⟩ := sent
  have unchanged := keeps.untouched
  cases event with
  | answered =>
    cases phase : job.phase with
    | querying attempt =>
      simp only [Keeps, phase] at keeps
      simp only [ExportJob.step, phase, Option.some.injEq] at step
      subst step
      have staged : (job.stage plan []).staged plan = some [] := by
        unfold ExportJob.stage ExportJob.staged
        split <;> rfl
      refine ⟨?_, [], staged, rfl, rfl, rfl⟩
      unfold ExportJob.stage
      split <;> exact ⟨keeps.untouched, keeps.streamed, keeps.counted, keeps.pending⟩
    | _ => simp [ExportJob.step, phase] at step
  | record record =>
    cases phase : job.phase with
    | streaming attempt stream =>
      simp only [Keeps, phase] at keeps
      simp only [ExportJob.step, phase, Option.some.injEq] at step
      obtain ⟨streams, text, staged, rows⟩ := keeps
      exact step ▸ keeps_writeRecord streams staged rows attempt record
    | _ => simp [ExportJob.step, phase] at step
  | exhausted =>
    cases phase : job.phase with
    | streaming attempt stream =>
      simp only [Keeps, phase] at keeps
      simp only [ExportJob.step, phase, Option.some.injEq] at step
      obtain ⟨streams, text, staged, rows⟩ := keeps
      exact step ▸ keeps_closeWindow streams staged rows
    | _ => simp [ExportJob.step, phase] at step
  | raised exc =>
    cases phase : job.phase with
    | querying attempt =>
      simp only [Keeps, phase] at keeps
      simp only [ExportJob.step, phase, Option.some.injEq] at step
      exact step ▸ keeps_attemptFailed keeps attempt exc []
    | streaming attempt stream =>
      simp only [Keeps, phase] at keeps
      simp only [ExportJob.step, phase, Option.some.injEq] at step
      exact step ▸ keeps_attemptFailed keeps.1 attempt exc []
    | merging chunk later =>
      simp only [ExportJob.step, phase, Option.some.injEq] at step
      exact step ▸ keeps_fail (unchanged (by simp [phase])) _
    | replacing =>
      simp only [Keeps, phase] at keeps
      simp only [ExportJob.step, phase, Option.some.injEq] at step
      subst step
      exact ⟨keeps.1, fun _ => keeps.2.2.1⟩
    | _ => simp [ExportJob.step, phase] at step
  | woke =>
    cases phase : job.phase with
    | sleeping attempt =>
      simp only [Keeps, phase] at keeps
      simp only [ExportJob.step, phase, Option.some.injEq] at step
      subst step
      exact ⟨keeps.untouched, keeps.streamed, keeps.counted, keeps.pending⟩
    | _ => simp [ExportJob.step, phase] at step
  | copied count =>
    cases phase : job.phase with
    | merging chunk later =>
      simp only [Keeps, phase] at keeps
      simp only [ExportJob.step, phase, Option.some.injEq] at step
      exact step ▸ merges_copied keeps count
    | _ => simp [ExportJob.step, phase] at step
  | nextChunk =>
    simp only [ExportJob.step] at step
    split at step
    · next following later phase =>
      simp only [Keeps, phase] at keeps
      obtain rfl := Option.some.inj step
      exact ⟨keeps.untouched, keeps.streamed, keeps.counted, keeps.complete, keeps.several,
        keeps.merged⟩
    · cases step
  | merged =>
    simp only [ExportJob.step] at step
    split at step
    · next phase =>
      simp only [Keeps, phase] at keeps
      obtain rfl := Option.some.inj step
      exact keeps_merged keeps batch
    · cases step
  | replaced =>
    cases phase : job.phase with
    | replacing =>
      simp only [Keeps, phase] at keeps
      simp only [ExportJob.step, phase, Option.some.injEq] at step
      subst step
      exact ⟨keeps.2.1, keeps.2.2.1, rfl, keeps.2.2.2⟩
    | _ => simp [ExportJob.step, phase] at step
  | interrupted =>
    cases phase : job.phase with
    | ended outcome => simp [ExportJob.step, phase] at step
    | replacing =>
      simp only [Keeps, phase] at keeps
      simp only [ExportJob.step, phase, Option.some.injEq] at step
      subst step
      exact ⟨keeps.1, fun _ => keeps.2.2.1⟩
    | _ =>
      simp only [ExportJob.step, phase, Option.some.injEq] at step
      subst step
      have untouched := unchanged (by simp [phase])
      exact keeps_cleanup untouched fun _ => ⟨untouched, rfl, rfl⟩
  | killed onDisk =>
    cases phase : job.phase with
    | ended outcome => simp [ExportJob.step, phase] at step
    | _ =>
      simp only [ExportJob.step, phase, Option.some.injEq] at step
      subst step
      exact unchanged (by simp [phase])

theorem keeps_begin (plan : ExportPlan) (output part : Option CsvText) :
    Keeps plan output ([], []) (begin plan output part) := by
  unfold begin
  split
  · next none =>
    refine keeps_openMerge ?_ ?_ ?_ ?_ (by rw [none]; decide) []
    · rfl
    · rfl
    · rfl
    · exact none.symm
  · next some =>
    refine keeps_openWindow ?_ []
    exact ⟨rfl, rfl, rfl, Nat.pos_of_ne_zero some⟩

theorem keeps_run {sent : List (List FluxRecord) × List FluxRecord} {events : List ExportEvent}
    {final : ExportJob} (keeps : Keeps plan output sent job)
    (run : (exportMachine plan).run job events = some final) :
    Keeps plan output (events.foldl deliver sent) final := by
  induction events generalizing sent job with
  | nil =>
    rw [Machine.run_nil] at run
    exact Option.some.inj run ▸ keeps
  | cons event rest inductionHypothesis =>
    obtain ⟨next, step, later⟩ := (exportMachine plan).run_cons.mp run
    exact inductionHypothesis (keeps_step keeps step) later

end ExportJob

/-! ### The main results -/

/-- An export is atomic. Until it has ended with its file the final one is as before, and then it
has the rows of the complete windows, which are all that were planned. If it ends without rows, no
window had any. It leaves no staging file unless something cuts it off or the disk does not remove
it, and no chunk files unless it is killed or their directory cannot be removed. -/
structure AtomicExport (plan : ExportPlan) (output : Option CsvText)
    (batches : List (List FluxRecord)) (job : ExportJob) : Prop where
  untouched : job.phase ≠ .ended .exported → job.output = output
  exported : job.phase = .ended .exported → batches.length = plan.windows ∧
    ∃ text, exportWindows batches = .file text ∧ job.output = some text
  noRows : job.phase = .ended .noRows → batches.length = plan.windows ∧
    exportWindows batches = .empty
  unstaged : job.phase = .ended .exported ∨ plan.unlinks = true ∧
    (job.phase = .ended .noRows ∨ job.phase = .ended .failed) → job.part = none
  cleaned : ∀ outcome, job.phase = .ended outcome → outcome ≠ .killed →
    outcome ≠ .crashed ∨ plan.littered = false → job.chunk = none ∧ job.chunkFiles = []

theorem ExportJob.Keeps.atomic {plan : ExportPlan} {output : Option CsvText}
    {sent : List (List FluxRecord) × List FluxRecord} {job : ExportJob}
    (keeps : ExportJob.Keeps plan output sent job) : AtomicExport plan output sent.1 job where
  untouched := keeps.untouched
  exported ended := by
    simp only [Keeps, ended] at keeps
    exact ⟨keeps.1, keeps.2.2.2⟩
  noRows ended := by
    simp only [Keeps, ended] at keeps
    exact ⟨keeps.2.1, keeps.2.2.2.2⟩
  unstaged ended := by
    obtain ended | ⟨unlinks, ended | ended⟩ := ended <;> simp only [Keeps, ended] at keeps
    · exact keeps.2.2.1
    · exact keeps.2.2.2.1 unlinks
    · exact keeps.2.2 unlinks
  cleaned outcome ended other clean := by
    cases outcome <;> simp only [Keeps, ended] at keeps
    · exact keeps.2.1
    · exact keeps.2.2.1
    · exact keeps.2.1
    · exact keeps.2
    · exact keeps.2 (clean.resolve_left fun different => different rfl)
    · exact absurd rfl other

/-- Every run of an export, cut off wherever it is, is atomic. -/
theorem exportRun_atomic {plan : ExportPlan} {output part : Option CsvText}
    {events : List ExportEvent} {final : ExportJob}
    (run : (exportMachine plan).run (ExportJob.begin plan output part) events = some final) :
    AtomicExport plan output (delivered events) final :=
  (ExportJob.keeps_run (ExportJob.keeps_begin plan output part) run).atomic

/-- A record with one value. -/
def valueRecord (value : String) : FluxRecord :=
  Table.empty.set "value".toList (.shown value.toList)

/-- A read that times out. -/
def readTimeout : StreamFault := ⟨Json.text "ReadTimeoutError", Json.text "Read timed out."⟩

/-- Two windows, each of which may be tried again once. -/
def twoWindows : ExportPlan where
  windows := 2
  maxRetries := 1

/-- The first of two windows is read again after a record; the staging file was there before. -/
def retriedEvents : List ExportEvent :=
  [.answered, .record (valueRecord "1.5"), .raised readTimeout, .woke, .answered,
    .record (valueRecord "1.5"), .record (valueRecord "2"), .exhausted, .answered,
    .record (valueRecord "say \"3\""), .exhausted, .copied 8, .copied 100, .nextChunk, .copied 100,
    .merged, .replaced]

theorem exportRun_atomic_retried : ∃ final,
    (exportMachine twoWindows).run
      (ExportJob.begin twoWindows (some "old".toList) (some "left".toList))
      retriedEvents = some final ∧
    final.output = some "value\n1.5\n2\n\"say \"\"3\"\"\"\n".toList ∧
    AtomicExport twoWindows (some "old".toList) (delivered retriedEvents) final := by
  have tried : ((exportMachine twoWindows).run
      (ExportJob.begin twoWindows (some "old".toList) (some "left".toList)) retriedEvents).any
      (fun final => final.output =
        some "value\n1.5\n2\n\"say \"\"3\"\"\"\n".toList) = true := by
    decide +kernel
  obtain ⟨final, run, output⟩ := Machine.exists_of_any _ tried
  exact ⟨final, run, of_decide_eq_true output, exportRun_atomic run⟩

end Gyanam
