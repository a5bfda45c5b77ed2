/-
This file models the queue of CPER records: the columns of the alert store that
say how far the decoding of an alert is, the enrichment worker that fetches and
decodes, and the statements by which it selects rows, stores results, finalizes
and requeues.

Several collectors run a worker each on one store. A worker reads the rows it is
going to enrich in one transaction and stores their results in a later one; a
requeue reads its ids in one statement and updates them in the next. What the
BMC and the decoder answer, and which result writes reach the store, is for the
run to say.
-/

import Gyanam.Lib.Json
import Gyanam.Lib.Machine
import Gyanam.Lib.PerKey
import Gyanam.Models

namespace Gyanam

/-! ### Rows -/

/-- The primary key of an alert. -/
abbrev AlertId := Int

/-- How far the decoding of an alert is. -/
inductive CperStatus where
  | pending
  | decoded
  | noData
  | unavailable
  | fetchFailed
  | decodeFailed
  deriving DecidableEq, Repr

/-- A status that is never left. -/
def CperStatus.isFinal : CperStatus → Bool
  | .decoded | .noData | .unavailable | .decodeFailed => true
  | .pending | .fetchFailed => false

/-- The columns of an alert that the worker reads or writes. -/
structure CperAlert where
  targetId : TargetId
  occurredAt : Time
  uri : Option String
  cperStatus : Option CperStatus
  refinedMessage : Option String := none
  cperDecoded : Option Json := none
  cperAttempts : Nat := 0
  cperAttemptedAt : Option Time := none

/-- Lightweight descriptor of an alert awaiting CPER decode. -/
structure PendingCper where
  id : AlertId
  targetId : TargetId
  uri : Option String
  attempts : Nat
  hasDecoded : Bool

/-- The descriptor of a row. -/
def CperAlert.describe (id : AlertId) (alert : CperAlert) : PendingCper where
  id := id
  targetId := alert.targetId
  uri := alert.uri
  attempts := alert.cperAttempts
  hasDecoded := alert.cperDecoded.isSome

/-- The options of the worker. Times are in microseconds. -/
structure CperSettings where
  batchSize : Nat := 20
  maxAttempts : Nat := 3
  attemptCooldown : Nat := 60000000
  retryFailedInterval : Nat := 21600000000

/-! ### Enrichment -/

/-- The outcome of an enrichment, to be stored. -/
structure CperResult where
  id : AlertId
  status : CperStatus
  refinedMessage : Option String := none
  decoded : Option Json := none
  incrementAttempt : Bool := false

/-- What a fetch comes to: the attachment, with what the decoder makes of it (nothing at all if it
raises), a BMC that no longer has it, or any other failure. -/
inductive CperFetch where
  | data (decoded : Option (Option Json))
  | gone
  | failed

/-- What an enrichment meets. Where nothing is given, the call raises. -/
structure EnrichAnswers where
  stored : Option (Option Json) := some none
  hasTarget : Option Bool := some true
  fetched : CperFetch
  summarize : Json → Option (Json × String)

/-- An enrichment: whether it fetched or decoded anew, and its outcome if it did not raise. -/
structure Enrichment where
  tried : Bool
  result : Option CperResult

namespace PendingCper

variable (maxAttempts : Nat) (answers : EnrichAnswers) (row : PendingCper)

/-- A failed attempt: it counts, and is the last one when the attempts are used up. -/
def failed (terminal : CperStatus) : CperResult where
  id := row.id
  status := if maxAttempts ≤ row.attempts + 1 then terminal else .pending
  incrementAttempt := true

/-- Decode the vendor sections of a record and summarize it. -/
def summarized (decoded : Json) : Option CperResult :=
  (answers.summarize decoded).map fun (enriched, refined) => {
    id := row.id
    status := .decoded
    refinedMessage := some refined
    decoded := some enriched }

/-- Fetch the attachment and decode it. -/
def fetch : Enrichment :=
  if row.uri.getD "" = "" then ⟨false, some { id := row.id, status := .noData }⟩
  else
    match answers.hasTarget with
    | none => ⟨false, none⟩
    | some false => ⟨false, some { id := row.id, status := .unavailable }⟩
    | some true => {
        tried := true
        result :=
          match answers.fetched with
          | .gone => some { id := row.id, status := .unavailable }
          | .failed => some (row.failed maxAttempts .fetchFailed)
          | .data none => none
          | .data (some none) => some (row.failed maxAttempts .decodeFailed)
          | .data (some (some decoded)) => row.summarized answers decoded }

/-- Decode one alert's CPER: re-summarize the record if the row has one, else fetch. -/
def enrichOne : Enrichment :=
  if row.hasDecoded then
    match answers.stored with
    | none => ⟨false, none⟩
    | some none => row.fetch maxAttempts answers
    | some (some decoded) =>
      if decoded.truthy then ⟨true, row.summarized answers decoded⟩
      else row.fetch maxAttempts answers
  else row.fetch maxAttempts answers

/-- The outcome of an enrichment, with a crash turned into a failed attempt. -/
def guarded : CperResult :=
  ((row.enrichOne maxAttempts answers).result).getD (row.failed maxAttempts .decodeFailed)

end PendingCper

/-- A batch: the outcome of each row whose turn came while the worker was running. -/
def enrichBatch (maxAttempts : Nat) (answers : AlertId → Option EnrichAnswers)
    (rows : List PendingCper) : List CperResult :=
  rows.filterMap fun row => (answers row.id).map (row.guarded maxAttempts)

/-! ### Statements -/

/-- Store a result in a row. -/
def CperAlert.record (now : Time) (result : CperResult) (alert : CperAlert) : CperAlert :=
  { alert with
    cperStatus := some result.status
    cperAttemptedAt := some now
    refinedMessage := result.refinedMessage.or alert.refinedMessage
    cperDecoded := result.decoded.or alert.cperDecoded
    cperAttempts :=
      if result.incrementAttempt then alert.cperAttempts + 1 else alert.cperAttempts }

/-- Write one result in its own savepoint. -/
def setCperResult (now : Time) (lands : AlertId → Bool) (alerts : Table AlertId CperAlert)
    (result : CperResult) : Table AlertId CperAlert :=
  if lands result.id then
    alerts.updateWhere (fun id _ => decide (id = result.id)) (CperAlert.record now result)
  else alerts

/-- Persist a batch of CPER decode outcomes, isolating per-row failures. -/
def setCperResultsBatch (now : Time) (lands : AlertId → Bool) (results : List CperResult)
    (alerts : Table AlertId CperAlert) : Table AlertId CperAlert :=
  results.foldl (setCperResult now lands) alerts

/-- A row awaits CPER decoding. -/
def CperSettings.isPending (settings : CperSettings) (now : Time) (alert : CperAlert) : Bool :=
  decide (alert.cperStatus = some .pending) &&
    decide (alert.cperAttempts < settings.maxAttempts) &&
    (decide (settings.attemptCooldown = 0) ||
      alert.cperAttemptedAt.all fun attempted =>
        decide (attempted < now - settings.attemptCooldown))

/-- A failed row is to be tried again. -/
def CperSettings.isStale (settings : CperSettings) (now : Time) (alert : CperAlert) : Bool :=
  decide (alert.cperStatus = some .fetchFailed) &&
    alert.cperAttemptedAt.all fun attempted =>
      decide (attempted < now - settings.retryFailedInterval)

/-- Attempted earlier, or not at all. -/
def attemptedBefore (first second : CperAlert) : Bool :=
  match first.cperAttemptedAt, second.cperAttemptedAt with
  | none, _ => true
  | some _, none => false
  | some earlier, some later => decide (earlier ≤ later)

/-- A list of ids is an answer of a query for the first rows with a property in an order: it has as
many as there are, up to the limit, in the order, and none of the others comes before them. -/
def isPage (chosen : CperAlert → Bool) (before : CperAlert → CperAlert → Bool) (limit : Nat)
    (alerts : Table AlertId CperAlert) (ids : List AlertId) : Bool :=
  let precedes := fun first second => (alerts.get first).any fun alert =>
    (alerts.get second).any fun other => before alert other
  decide ids.Nodup &&
    (ids.all fun id => (alerts.get id).any chosen) &&
    decide (ids.length = min limit (alerts.count fun _ alert => chosen alert)) &&
    decide (ids.Pairwise fun first second => precedes first second = true) &&
    alerts.keys.all fun other => decide (other ∈ ids) || !(alerts.get other).any chosen ||
      ids.all fun id => precedes id other

/-- Move the pending rows that have exhausted their retries to a terminal state. -/
def finalizeExhausted (settings : CperSettings) (alerts : Table AlertId CperAlert) :
    Table AlertId CperAlert :=
  alerts.updateWhere
    (fun _ alert => decide (alert.cperStatus = some .pending) &&
      decide (settings.maxAttempts ≤ alert.cperAttempts))
    fun alert => { alert with cperStatus := some .fetchFailed }

/-- Requeue the rows of a list of ids. -/
def requeue (ids : List AlertId) (alerts : Table AlertId CperAlert) : Table AlertId CperAlert :=
  alerts.updateWhere (fun id _ => decide (id ∈ ids)) fun alert =>
    { alert with cperStatus := some .pending, cperAttempts := 0 }

/-! ### The machine -/

/-- What a worker is at: nothing, a requeue whose ids it has read, or the rows it has selected. -/
inductive CperPhase where
  | idle
  | requeuing (ids : List AlertId)
  | enriching (rows : List PendingCper)

/-- The store and the workers on it. -/
structure CperQueue (Worker : Type) where
  alerts : Table AlertId CperAlert
  phases : Worker → CperPhase := fun _ => .idle

/-- What happens on the store. -/
inductive CperEvent (Worker : Type) where
  | insert (id : AlertId) (targetId : TargetId) (occurredAt : Time) (uri : Option String)
      (eligible : Bool)
  | requeueRead (worker : Worker) (now : Time) (ids : List AlertId)
  | requeueWrite (worker : Worker)
  | requeueFails (worker : Worker)
  | finalize
  | select (worker : Worker) (now : Time) (ids : List AlertId)
  | persist (worker : Worker) (now : Time) (answers : AlertId → Option EnrichAnswers)
      (lands : AlertId → Bool)

namespace CperQueue

variable {Worker : Type}

/-- The selected rows of a list of ids. -/
def pendingRows (queue : CperQueue Worker) (ids : List AlertId) : List PendingCper :=
  ids.filterMap fun id => (queue.alerts.get id).map (CperAlert.describe id)

variable [DecidableEq Worker] (settings : CperSettings)

/-- The queue with a worker at another phase. -/
def enter (queue : CperQueue Worker) (worker : Worker) (phase : CperPhase) : CperQueue Worker :=
  { queue with phases := Function.update queue.phases worker phase }

/-- One event. -/
def step (queue : CperQueue Worker) : CperEvent Worker → Option (CperQueue Worker)
  | .insert id targetId occurredAt uri eligible =>
    if (queue.alerts.get id).isSome then none
    else some { queue with
      alerts := queue.alerts.set id {
        targetId := targetId
        occurredAt := occurredAt
        uri := uri
        cperStatus := if eligible then some .pending else none } }
  | .requeueRead worker now ids =>
    match queue.phases worker with
    | .idle =>
      if settings.retryFailedInterval ≠ 0 ∧
          isPage (settings.isStale now) attemptedBefore settings.batchSize queue.alerts ids then
        some (queue.enter worker (.requeuing ids))
      else none
    | _ => none
  | .requeueWrite worker =>
    match queue.phases worker with
    | .requeuing ids =>
      some ({ queue with alerts := requeue ids queue.alerts }.enter worker .idle)
    | _ => none
  | .requeueFails worker =>
    match queue.phases worker with
    | .requeuing _ => some (queue.enter worker .idle)
    | _ => none
  | .finalize => some { queue with alerts := finalizeExhausted settings queue.alerts }
  | .select worker now ids =>
    match queue.phases worker with
    | .idle =>
      if isPage (settings.isPending now)
          (fun first second => decide (first.occurredAt ≤ second.occurredAt))
          settings.batchSize queue.alerts ids then
        some (queue.enter worker (.enriching (queue.pendingRows ids)))
      else none
    | _ => none
  | .persist worker now answers lands =>
    match queue.phases worker with
    | .enriching rows =>
      some ({ queue with
        alerts := setCperResultsBatch now lands (enrichBatch settings.maxAttempts answers rows)
          queue.alerts }.enter worker .idle)
    | _ => none

end CperQueue

/-- The workers on one store. -/
def cperMachine {Worker : Type} [DecidableEq Worker] (settings : CperSettings) :
    Machine (CperQueue Worker) (CperEvent Worker) :=
  ⟨CperQueue.step settings⟩

end Gyanam
