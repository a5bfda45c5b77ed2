/-
This file models one poll of a target: what the poller reads from the row, the
client it takes from its cache or connects, the reports it fetches, the fallback
to a collection task, and the handler around all of it; and what the runner of a
poll records. The client, the cipher and the repository are parameters that may
return or raise anything.

The parts of a poll that may raise run in `Attempt`, whose state holds the
poller and the local variable that the handler reads. The handler builds a
result from that variable, so it returns exactly when the variable was bound
before the exception.
-/

import Gyanam.Lib.Attempt
import Gyanam.RedfishClient

namespace Gyanam

/-! ### The poller -/

/-- The message of a result: a text, or the text of an exception. -/
inductive PollMessage where
  | text (message : String)
  | raised (error : PollError)
  deriving DecidableEq, Repr

inductive CollectionMethod where
  | get
  | task
  deriving DecidableEq, Repr

/-- The result of a poll. -/
structure PollResult where
  targetId : TargetId
  targetName : String
  targetHost : String
  success : Bool
  content : List UInt8 := []
  contentType : String := ""
  errorMessage : Option PollMessage
  pollTime : Time
  duration : Time
  targetTags : Json
  data : Option (List (Json × Json)) := none
  collectionMethod : CollectionMethod := .task
  reportsSucceeded : Nat := 0
  reportsExpected : Nat := 0

inductive PollStatus where
  | success
  | error
  deriving DecidableEq, Repr

/-- The most results the queue holds. -/
def resultQueueSize : Nat := 1000

/-- The fields of the poller that a poll reads or writes. Intervals are in seconds. -/
structure RedfishPoller where
  pollInterval : Int := 300
  collectEndpoint : Option String := none
  collectBody : Option Json := none
  metricReports : List MetricReportConfig := []
  circuitBreakerThreshold : Int := 5
  circuitBreakerRecheckMultiplier : Int := 6
  resultQueue : List PollResult := []
  nextPollTime : Table TargetId Time := Table.empty
  pendingStatus : Table TargetId (PollStatus × Option PollMessage) := Table.empty
  clients : Table TargetId RedfishClient := Table.empty
  pollsCompleted : Nat := 0
  lastCompletedMonotonic : Option Time := none
  pollsDroppedQueueFull : Nat := 0
  clientCacheHits : Nat := 0
  clientCacheMisses : Nat := 0

/-- What surrounds a poll: the cipher, the client's calls, the repository, the clock and the random
numbers. The calls for reports are told apart by their position. -/
structure PollWorld where
  decrypt : String → Except PollError String
  connect : RedfishClient → Except PollError Unit
  getMetricReport : RedfishClient → Nat → Json → Except PollError RedfishResponse
  collectDiagnosticData : RedfishClient → Option String → Option Json →
    Except PollError RedfishResponse
  getTarget : TargetId → Except PollError (Option Target)
  startTime : Time := 0
  endTime : Time := 0
  completedAt : Time := 0
  rescheduledAt : Time := 0
  uniform : Time → Time → Time := fun low _ => low

/-- The poller, and the tags of the target once they are bound. -/
structure PollState where
  poller : RedfishPoller
  targetTags : Option Json := none

/-! ### The client cache -/

/-- Change the poller. -/
def modifyPoller (change : RedfishPoller → RedfishPoller) : Attempt PollState PollError Unit :=
  modify fun state => { state with poller := change state.poller }

/-- The connected client of a target, cached or new; none when a new one does not connect. -/
def getClient (world : PollWorld) (tid : TargetId) (target : Target) (password : String)
    (token : Option String) : Attempt PollState PollError (Option RedfishClient) := do
  let state ← get
  match state.poller.clients.get tid with
  | some cached =>
    modifyPoller fun poller => { poller with clientCacheHits := poller.clientCacheHits + 1 }
    return some cached
  | none =>
    modifyPoller fun poller => { poller with clientCacheMisses := poller.clientCacheMisses + 1 }
    let client := RedfishClient.forTarget target password token
    match world.connect client with
    | .error _ => return none
    | .ok _ =>
      modifyPoller fun poller => { poller with clients := poller.clients.set tid client }
      return some client

/-- Close and evict the cached client of a target. -/
def closeClient (tid : TargetId) : Attempt PollState PollError Unit :=
  modifyPoller fun poller => { poller with clients := poller.clients.remove tid }

/-! ### Fetching -/

/-- A field of a report entry: the attribute of a configured report, else the item of a
dictionary. -/
def reportField (column : MetricReportConfig → Json.Text) (key : String) :
    Report → Except PollError Json
  | .config cfg => .ok (.string (column cfg))
  | .decoded (.object members) =>
    match Json.getMember members (Json.text key) with
    | some value => .ok value
    | none => .error .key
  | .decoded _ => .error .type

/-- Fetch a single report: its type, its value and the response, or none. -/
def fetchReport (recursionLimit : Nat) (world : PollWorld) (client : RedfishClient) (index : Nat)
    (report : Report) : Except PollError (Option (Json × Json × RedfishResponse)) := do
  let uri ← reportField MetricReportConfig.uri "uri" report
  let reportType ← reportField MetricReportConfig.reportType "report_type" report
  let response ← world.getMetricReport client index uri
  if response.success then
    match Json.loadsOctets recursionLimit response.content with
    | .ok data => return some (reportType, data, response)
    | .error .malformed => return none
    | .error .encoding => return none
    | .error error => throw (.json error)
  else return none

/-- What a poll collected. -/
structure Collection where
  response : RedfishResponse
  data : Option (List (Json × Json)) := none
  method : CollectionMethod := .task
  reportsSucceeded : Nat := 0
  reportsExpected : Nat := 0

/-- Fetch all reports; those that fail or raise are left out. When none is left, start a
collection task. -/
def collect (recursionLimit : Nat) (world : PollWorld) (poller : RedfishPoller) (target : Target)
    (client : RedfishClient) (reports : ReportSet) : Except PollError Collection := do
  let entries ← if reports.truthy then reports.entries else pure []
  let fetched := entries.zipIdx.filterMap fun entry =>
    match fetchReport recursionLimit world client entry.2 entry.1 with
    | .ok found => found
    | .error _ => none
  match fetched.getLast? with
  | some (_, _, response) =>
    return {
      response := response
      data := some (fetched.map fun report => (report.1, report.2.1))
      method := .get
      reportsSucceeded := fetched.length
      reportsExpected := entries.length }
  | none =>
    let endpoint := if target.telemetryEndpoint = "" then poller.collectEndpoint
      else some target.telemetryEndpoint
    let response ← world.collectDiagnosticData client endpoint poller.collectBody
    return { response := response, reportsExpected := entries.length }

/-! ### One poll -/

/-- The result of a poll that failed. -/
def failedResult (world : PollWorld) (tid : TargetId) (target : Target) (message : PollMessage)
    (targetTags : Json) : PollResult where
  targetId := tid
  targetName := target.name
  targetHost := target.host
  success := false
  errorMessage := some message
  pollTime := world.startTime
  duration := world.endTime - world.startTime
  targetTags := targetTags

/-- The result of a poll that collected a response. What was decoded replaces the raw octets. -/
def collectedResult (world : PollWorld) (tid : TargetId) (target : Target)
    (collection : Collection) (targetTags : Json) : PollResult where
  targetId := tid
  targetName := target.name
  targetHost := target.host
  success := collection.response.success
  content := if collection.data.isSome then [] else collection.response.content
  contentType := if collection.data.isSome then "" else collection.response.contentType
  errorMessage := collection.response.errorMessage.map .text
  pollTime := world.startTime
  duration := world.endTime - world.startTime
  targetTags := targetTags
  data := collection.data
  collectionMethod := collection.method
  reportsSucceeded := collection.reportsSucceeded
  reportsExpected := collection.reportsExpected

/-- The part of a poll after the tags are bound. -/
def pollTagged (recursionLimit : Nat) (world : PollWorld) (tid : TargetId) (target : Target)
    (targetTags : Json) : Attempt PollState PollError PollResult := do
  let state ← get
  let reports ← Attempt.ofExcept
    (resolveMetricReports recursionLimit target state.poller.metricReports)
  let password ← Attempt.ofExcept (decryptPassword world.decrypt target)
  let token ← Attempt.ofExcept (decryptToken world.decrypt target)
  match ← getClient world tid target password token with
  | none =>
    return failedResult world tid target (.text "Failed to establish Redfish client connection")
      targetTags
  | some client =>
    let collection ← Attempt.ofExcept
      (collect recursionLimit world state.poller target client reports)
    if collection.response.success = false then closeClient tid
    return collectedResult world tid target collection targetTags

/-- The body of the try block. -/
def pollBody (recursionLimit : Nat) (world : PollWorld) (tid : TargetId) (target : Target) :
    Attempt PollState PollError PollResult := do
  let targetTags ← Attempt.ofExcept (getTargetTags recursionLimit target)
  modify fun state => { state with targetTags := some targetTags }
  pollTagged recursionLimit world tid target targetTags

/-- The local variable `target_tags`. -/
def readTargetTags : Attempt PollState PollError Json := do
  match (← get).targetTags with
  | some targetTags => return targetTags
  | none => throw (.unboundLocal "target_tags")

/-- The handler: evict the client, and build a result from the tags. -/
def pollHandler (world : PollWorld) (tid : TargetId) (target : Target) (error : PollError) :
    Attempt PollState PollError PollResult := do
  closeClient tid
  let targetTags ← readTargetTags
  return failedResult world tid target (.raised error) targetTags

/-- Poll a single target. -/
def pollTarget (recursionLimit : Nat) (world : PollWorld) (tid : TargetId) (target : Target) :
    Attempt PollState PollError PollResult :=
  tryCatch (pollBody recursionLimit world tid target) (pollHandler world tid target)

/-! ### The run of a poll -/

/-- The effective poll interval of a target, longer once the circuit breaker trips. -/
def RedfishPoller.getTargetInterval (poller : RedfishPoller) (target : Target)
    (pollSucceeded : Bool) : Int :=
  let baseInterval := match target.pollIntervalOverride with
    | some interval => if 0 < interval then interval else poller.pollInterval
    | none => poller.pollInterval
  let effectiveFailures := if pollSucceeded then 0 else target.consecutiveFailures + 1
  if poller.circuitBreakerThreshold ≤ effectiveFailures then
    baseInterval * poller.circuitBreakerRecheckMultiplier
  else baseInterval

/-- Queue a result, or drop it when the queue is full. -/
def RedfishPoller.putResult (poller : RedfishPoller) (result : PollResult) : RedfishPoller :=
  if poller.resultQueue.length < resultQueueSize then
    { poller with resultQueue := poller.resultQueue ++ [result] }
  else { poller with pollsDroppedQueueFull := poller.pollsDroppedQueueFull + 1 }

def PollResult.status (result : PollResult) : PollStatus :=
  if result.success then .success else .error

/-- When a failed target is due again: after its failure interval, with two percent of jitter. -/
def RedfishPoller.retryTime (poller : RedfishPoller) (world : PollWorld) (fresh : Target) : Time :=
  let interval := poller.getTargetInterval fresh false
  world.rescheduledAt + interval * 1000000 + world.uniform (-interval * 20000) (interval * 20000)

/-- Execute a single poll, queue its result, record its status, and reschedule it if it failed. -/
def RedfishPoller.runPoll (recursionLimit : Nat) (world : PollWorld) (tid : TargetId)
    (target : Target) (poller : RedfishPoller) : RedfishPoller :=
  let (outcome, state) := (pollTarget recursionLimit world tid target).start ⟨poller, none⟩
  let completed := { state.poller with
    pollsCompleted := state.poller.pollsCompleted + 1
    lastCompletedMonotonic := some world.completedAt }
  match outcome with
  | .error _ => completed
  | .ok result =>
    let queued := completed.putResult result
    let recorded := { queued with
      pendingStatus := queued.pendingStatus.set tid (result.status, result.errorMessage) }
    if result.success then recorded
    else match world.getTarget tid with
      | .ok (some fresh) => { recorded with
          nextPollTime := recorded.nextPollTime.set tid (recorded.retryTime world fresh) }
      | _ => recorded

end Gyanam
