/-
This file models the collection of diagnostic data from a BMC. A request starts
the collection, and the BMC answers with the URI of a task. The task is polled
until it ends, an attachment of it is downloaded, and the task is deleted. The
exchanges with the BMC are recorded: each request with what came of it.

A task is deleted exactly once, at the end, whatever has happened before, and the
deletion does not change the result. How Python prints a value that is no text
is a parameter. So is what a response reads as JSON. The client stays connected
while it collects.
-/

import Gyanam.Lib.Tape
import Gyanam.Placement

namespace Gyanam

open Json (Text)

/-! ### Exchanges with a BMC -/

/-- A response: its status, two of its headers, its content, this as JSON if it is JSON, and as
text. -/
structure HttpResponse where
  statusCode : Nat
  location : Option Text := none
  contentType : Option Text := none
  content : List UInt8 := []
  json : Option Json := none
  text : Text := []

/-- What comes of a request. The errors are those of the network, which may be a timeout, and
others, which a URL that cannot be requested raises. -/
inductive HttpOutcome where
  | response (response : HttpResponse)
  | requestError (isTimeout : Bool) (message : Text)
  | otherError (message : Text)

/-- A request and what came of it. A status is asked for at a time. -/
inductive Exchange where
  | initiate (url : Text) (body : Json) (outcome : HttpOutcome)
  | status (url : Text) (now : Time) (outcome : HttpOutcome)
  | attachment (url : Text) (outcome : HttpOutcome)
  | delete (url : Text) (outcome : HttpOutcome)

/-- What a collection raises. -/
inductive CollectError where
  | notConnected
  | attribute
  | http (message : Text)
  deriving DecidableEq, Repr

/-- The response of a collection. Its message may be one of the BMC, which need not be a text. -/
structure DiagnosticResponse where
  success : Bool
  statusCode : Nat
  content : List UInt8 := []
  contentType : Text := []
  errorMessage : Json := .null

/-- What a client is configured with. -/
structure DiagnosticClient where
  baseUrl : Text
  connected : Bool
  taskTimeout : Time
  cleanupTaskOnSuccess : Bool

/-- The URL of a URI: a path is on the BMC. -/
def DiagnosticClient.url (client : DiagnosticClient) (uri : Text) : Text :=
  if Json.text "/" <+: uri then client.baseUrl ++ uri else uri

/-- One value, or another where it counts as false. -/
def firstTruthy (first second : Json) : Json := if first.truthy then first else second

/-- A member of an object, or null. -/
def memberOrNull (fields : List (Text × Json)) (key : String) : Json :=
  (Json.getMember fields (Json.text key)).getD .null

/-- The message of an error that a body reports, or a default if it reports none. Looking for it
fails where the body is no JSON, or where what is called an error has no members. -/
def reportedError (json : Option Json) (default : Json) : Option Json :=
  match json with
  | some (.object fields) =>
    match Json.getMember fields (Json.text "error") with
    | none => some default
    | some (.object error) => some ((Json.getMember error (Json.text "message")).getD default)
    | some _ => none
  | some (.array items) =>
    let isError : Json → Bool
      | .string chars => chars = Json.text "error"
      | _ => false
    if items.any isError then none else some default
  | some (.string chars) =>
    if Strings.contains chars (Json.text "error") then none else some default
  | _ => none

/-- The message for a status. -/
def httpMessage (statusCode : Nat) : Json :=
  .string (Json.text "HTTP " ++ Strings.decimal statusCode)

/-! ### Initiation -/

/-- What an initiation leaves: the task URI, which is null if there is none, and the status and the
message that the client keeps. -/
structure Initiation where
  taskUri : Json := .null
  lastStatus : Nat := 0
  lastError : Json := .null

/-- The task URI in a body, or the header's where there is none. -/
def bodyTaskUri (location : Json) : Option Json → Json
  | some (.object fields) =>
    match firstTruthy (memberOrNull fields "@odata.id") (memberOrNull fields "Id") with
    | .string uri =>
      if uri ≠ [] ∧ ¬ Json.text "/" <+: uri then
        .string (Json.text "/redfish/v1/TaskService/Tasks/" ++ uri)
      else .string uri
    | uri => uri
  | _ => location

/-- Initiate diagnostic data collection. -/
def initiateCollection : HttpOutcome → Except CollectError Initiation
  | .response response =>
    if response.statusCode = 202 then
      let location := (response.location.map Json.string).getD .null
      let uri := if location.truthy then location else bodyTaskUri location response.json
      .ok { taskUri := uri, lastStatus := 202 }
    else if response.statusCode = 200 ∨ response.statusCode = 201 then
      let uri : Json :=
        match response.json with
        | some (.object fields) => memberOrNull fields "@odata.id"
        | _ => .null
      .ok { taskUri := uri, lastStatus := response.statusCode }
    else
      let message := httpMessage response.statusCode
      .ok {
        lastStatus := response.statusCode
        lastError := (reportedError response.json message).getD message }
  | .requestError _ _ => .ok {}
  | .otherError message => .error (.http message)

/-! ### Polling -/

/-- Redfish Task states. -/
inductive TaskState where
  | new
  | starting
  | running
  | suspended
  | interrupted
  | pending
  | stopping
  | completed
  | killed
  | exception
  | service
  | cancelling
  | cancelled
  deriving DecidableEq, Repr

/-- The names of the states. -/
def taskStates : List (String × TaskState) := [
  ("New", .new),
  ("Starting", .starting),
  ("Running", .running),
  ("Suspended", .suspended),
  ("Interrupted", .interrupted),
  ("Pending", .pending),
  ("Stopping", .stopping),
  ("Completed", .completed),
  ("Killed", .killed),
  ("Exception", .exception),
  ("Service", .service),
  ("Cancelling", .cancelling),
  ("Cancelled", .cancelled)]

namespace TaskState

/-- The name of a state. -/
def value (state : TaskState) : Text :=
  Json.text (((taskStates.find? fun named => named.2 = state).map Prod.fst).getD "")

/-- The state of a name. An unknown one counts as running. -/
def ofJson : Json → TaskState
  | .string chars =>
    ((taskStates.find? fun named => Json.text named.1 = chars).map Prod.snd).getD .running
  | _ => .running

/-- Has a task in the state ended? -/
def isTerminal (state : TaskState) : Bool :=
  state ∈ [completed, killed, exception, cancelled]

end TaskState

/-- Status of a Redfish task. What the BMC reports need not be of the types it should be. -/
structure TaskStatus where
  taskId : Json
  taskUri : Text
  state : TaskState
  percentComplete : Json
  message : Json
  resultLocation : Json

/-- The message of a task. -/
def taskMessage (fields : List (Text × Json)) : Option Json :=
  match Json.getMember fields (Json.text "TaskStatus") with
  | some message => some message
  | none =>
    match Json.getMember fields (Json.text "Messages") with
    | none => some (.string [])
    | some (.array (.object first :: _)) =>
      some ((Json.getMember first (Json.text "Message")).getD (.string []))
    | some (.array []) => some (.string [])
    | some (.string []) => some (.string [])
    | some (.object []) => some (.string [])
    | some _ => none

/-- What a header line says after its first colon. -/
def headerValue (header : Text) : Option Json :=
  match header.dropWhile (· ≠ Json.point ':'.toNat) with
  | _ :: value => some (.string (Strings.strip value))
  | [] => none

/-- The location among some headers, null if there is none. -/
def headerLocation : List Json → Option Json
  | [] => some .null
  | .string header :: rest =>
    if Json.text "location:" <+: Strings.lower header then headerValue header
    else headerLocation rest
  | .object header :: rest =>
    match Json.getMember header (Json.text "Location") with
    | some location => some location
    | none => headerLocation rest
  | _ :: rest => headerLocation rest

/-- The headers of the payload of a task. -/
def payloadHeaders (fields : List (Text × Json)) : Option (List Json) :=
  match Json.getMember fields (Json.text "Payload") with
  | none => some []
  | some (.object payload) =>
    Json.iterated ((Json.getMember payload (Json.text "HttpHeaders")).getD (.array []))
  | some _ => none

/-- Read the status of a task from the body of a response, if it can be read. -/
def readTaskStatus (taskUri : Text) : Option Json → Option TaskStatus
  | some (.object fields) => do
    let state := TaskState.ofJson
      ((Json.getMember fields (Json.text "TaskState")).getD (.string (Json.text "Unknown")))
    let message ← taskMessage fields
    let location ← headerLocation (← payloadHeaders fields)
    return {
      taskId := (Json.getMember fields (Json.text "Id")).getD (.string [])
      taskUri := taskUri
      state := state
      percentComplete := (Json.getMember fields (Json.text "PercentComplete")).getD (.int 0)
      message := message
      resultLocation := firstTruthy location
        (firstTruthy (memberOrNull fields "TaskMonitor") (memberOrNull fields "@odata.id")) }
  | _ => none

/-- A turn of polling: when it starts, and what comes of its request. -/
structure Poll where
  now : Time
  outcome : HttpOutcome

/-- How many errors in a row end the polling. -/
def maxConsecutiveErrors : Nat := 3

/-- A turn of polling, after some errors in a row. The result of polling is a status, or none. -/
def pollTurn (client : DiagnosticClient) (taskUri : Text) (startTime : Time)
    (consecutiveErrors : Nat) (poll : Poll) : Tape.Turn Nat (Option TaskStatus) :=
  if poll.now - startTime < client.taskTimeout then
    match poll.outcome with
    | .response response =>
      if response.statusCode ≠ 200 then .stops none
      else
        match readTaskStatus taskUri response.json with
        | none => .stops none
        | some status => if status.state.isTerminal then .stops (some status) else .continues 0
    | .requestError _ _ =>
      if maxConsecutiveErrors ≤ consecutiveErrors + 1 then .stops none
      else .continues (consecutiveErrors + 1)
    | .otherError _ => .stops none
  else .stops none

/-- The exchanges of a turn: none after the timeout. -/
def pollExchange (client : DiagnosticClient) (taskUri : Text) (startTime : Time) (poll : Poll) :
    Option Exchange :=
  if poll.now - startTime < client.taskTimeout then
    some (.status (client.url taskUri) poll.now poll.outcome)
  else none

/-- Poll task status until complete or timeout. There is no result while the task is polled. -/
def waitForTask (client : DiagnosticClient) (taskUri : Text) (startTime : Time)
    (polls : List Poll) : List Exchange × Option (Option TaskStatus) :=
  let reading := Tape.run (pollTurn client taskUri startTime) 0 polls
  (reading.read.filterMap (pollExchange client taskUri startTime), reading.result)

/-! ### The attachment -/

/-- Determine the attachment download URI from task status. -/
def getAttachmentUri (status : TaskStatus) : Except CollectError Text :=
  if status.resultLocation.truthy then
    match status.resultLocation with
    | .string location =>
      if Json.text "/attachment" <:+ location then .ok location
      else .ok (location ++ Json.text "/attachment")
    | _ => .error .attribute
  else .ok (status.taskUri ++ Json.text "/attachment")

/-- Download the attachment blob. -/
def downloadAttachment : HttpOutcome → Except CollectError DiagnosticResponse
  | .response response =>
    let contentType := response.contentType.getD (Json.text "application/octet-stream")
    if response.statusCode = 200 then
      .ok {
        success := true
        statusCode := 200
        content := response.content
        contentType := contentType }
    else
      let message := httpMessage response.statusCode
      let fallback := if response.text ≠ [] then .string (response.text.take 200) else message
      .ok {
        success := false
        statusCode := response.statusCode
        contentType := contentType
        errorMessage := (reportedError response.json message).getD fallback }
  | .requestError isTimeout message =>
    let errorMessage :=
      if isTimeout then Json.text "Attachment download timed out"
      else Json.text "Attachment download failed: " ++ message
    .ok { success := false, statusCode := 0, errorMessage := .string errorMessage }
  | .otherError message => .error (.http message)

/-! ### Cleanup -/

/-- Delete a completed task: the exchange, and whether it is deleted. -/
def deleteTask (client : DiagnosticClient) (taskUri : Text) (outcome : HttpOutcome) :
    List Exchange × Except CollectError Bool :=
  if client.connected then
    let deleted : Except CollectError Bool :=
      match outcome with
      | .response response => .ok (response.statusCode ∈ [200, 202, 204, 404, 405])
      | .requestError _ _ => .ok false
      | .otherError message => .error (.http message)
    ([.delete (client.url taskUri) outcome], deleted)
  else ([], .ok false)

/-! ### Collection -/

/-- What a BMC answers in one collection, and when. -/
structure BmcAnswers where
  initiate : HttpOutcome
  startTime : Time
  polls : List Poll
  download : HttpOutcome
  delete : HttpOutcome

/-- The exchanges of a collection, and its result. There is none while it is going on. -/
structure DiagnosticCollection where
  exchanges : List Exchange
  result : Option (Except CollectError DiagnosticResponse)

/-- A response without content. -/
def failedResponse (message : Text) : DiagnosticResponse :=
  { success := false, statusCode := 0, errorMessage := .string message }

/-- Download the attachment of a task that has ended. -/
def collectAttachment (printed : Json → Text) (client : DiagnosticClient)
    (download : HttpOutcome) : Option TaskStatus →
    List Exchange × Except CollectError DiagnosticResponse
  | none => ([], .ok (failedResponse (Json.text "Task polling failed or timed out")))
  | some status =>
    if status.state ≠ .completed then
      ([], .ok (failedResponse (Json.text "Task failed with state: " ++ status.state.value ++
        Json.text " - " ++ printedText printed status.message)))
    else
      match getAttachmentUri status with
      | .error error => ([], .error error)
      | .ok uri => ([.attachment (client.url uri) download], downloadAttachment download)

/-- Clean up the task, whatever the result. What the deletion comes to is dropped. -/
def cleanUp (client : DiagnosticClient) (taskUri : Text) (outcome : HttpOutcome) :
    List Exchange :=
  if client.cleanupTaskOnSuccess then (deleteTask client taskUri outcome).1 else []

/-- Collect the data of a task, and clean up. -/
def collectTask (printed : Json → Text) (client : DiagnosticClient) (answers : BmcAnswers)
    (taskUri : Text) : DiagnosticCollection :=
  match waitForTask client taskUri answers.startTime answers.polls with
  | (exchanges, none) => ⟨exchanges, none⟩
  | (exchanges, some status) =>
    let (downloads, result) := collectAttachment printed client answers.download status
    ⟨exchanges ++ downloads ++ cleanUp client taskUri answers.delete, some result⟩

/-- The response to a collection that did not start. -/
def notInitiated (initiation : Initiation) : DiagnosticResponse where
  success := false
  statusCode := initiation.lastStatus
  errorMessage := firstTruthy initiation.lastError
    (.string (Json.text "Failed to initiate data collection task"))

/-- The exchange that starts a collection. -/
def initiateExchange (client : DiagnosticClient) (endpoint : Text) (body : Json)
    (outcome : HttpOutcome) : Exchange :=
  .initiate (client.baseUrl ++ endpoint) body outcome

/-- Collect diagnostic data using the task-based workflow. A task URI that is no text raises as soon
as it is asked for its first character, also when the task is to be deleted. -/
def collectDiagnosticData (printed : Json → Text) (client : DiagnosticClient) (endpoint : Text)
    (body : Json) (answers : BmcAnswers) : DiagnosticCollection :=
  if client.connected then
    let initiate := initiateExchange client endpoint body answers.initiate
    match initiateCollection answers.initiate with
    | .error error => ⟨[initiate], some (.error error)⟩
    | .ok initiation =>
      if initiation.taskUri.truthy then
        match initiation.taskUri with
        | .string uri =>
          let collection := collectTask printed client answers uri
          ⟨initiate :: collection.exchanges, collection.result⟩
        | _ => ⟨[initiate], some (.error .attribute)⟩
      else ⟨[initiate], some (.ok (notInitiated initiation))⟩
  else ⟨[], some (.error .notConnected)⟩

/-! ### Polling -/

namespace HttpOutcome

/-- An error of the network. -/
def IsNetworkError : HttpOutcome → Prop
  | .requestError _ _ => True
  | _ => False

/-- A response that says that a task is in a state. -/
def Reports (outcome : HttpOutcome) (state : String) : Prop :=
  ∃ response fields, outcome = .response response ∧ response.statusCode = 200 ∧
    response.json = some (.object fields) ∧
    Json.getMember fields (Json.text "TaskState") = some (.string (Json.text state))

/-- An outcome that ends the polling by itself: a status other than 200, or a state in which a task
has ended. -/
def EndsPolling (outcome : HttpOutcome) : Prop :=
  (∃ response, outcome = .response response ∧ response.statusCode ≠ 200) ∨
    ∃ state ∈ ["Completed", "Killed", "Exception", "Cancelled"], outcome.Reports state

end HttpOutcome

/-- Only the name of the state is read as completed. -/
theorem TaskState.ofJson_eq_completed {value : Json} (completed : ofJson value = .completed) :
    value = .string (Json.text "Completed") := by
  cases value with
  | string chars =>
    rw [ofJson] at completed
    cases found : taskStates.find? fun named => Json.text named.1 = chars with
    | none =>
      rw [found] at completed
      cases completed
    | some named =>
      rw [found] at completed
      have only : ∀ named ∈ taskStates, named.2 = .completed → named.1 = "Completed" := by decide
      have name := only named (List.mem_of_find?_eq_some found) completed
      have same := List.find?_some found
      rw [decide_eq_true_eq] at same
      rw [← same, name]
  | _ => cases completed

theorem TaskState.isTerminal_ofJson :
    ∀ state ∈ ["Completed", "Killed", "Exception", "Cancelled"],
      (ofJson (.string (Json.text state))).isTerminal = true := by
  decide

/-- A status that is read is that of the task, in the state that the body names. -/
theorem exists_fields_of_readTaskStatus {taskUri : Text} {json : Option Json} {status : TaskStatus}
    (read : readTaskStatus taskUri json = some status) :
    ∃ fields, json = some (.object fields) ∧ status.taskUri = taskUri ∧
      status.state = TaskState.ofJson
        ((Json.getMember fields (Json.text "TaskState")).getD (.string (Json.text "Unknown"))) := by
  unfold readTaskStatus at read
  split at read
  next fields =>
    obtain ⟨message, _, read⟩ := Option.bind_eq_some_iff.mp read
    obtain ⟨headers, _, read⟩ := Option.bind_eq_some_iff.mp read
    obtain ⟨location, _, read⟩ := Option.bind_eq_some_iff.mp read
    obtain rfl := Option.some.inj read
    exact ⟨fields, rfl, rfl, rfl⟩
  next => cases read

section Polling

variable {client : DiagnosticClient} {taskUri : Text} {startTime : Time}

/-- Is a turn before the timeout? -/
def Poll.InTime (client : DiagnosticClient) (startTime : Time) (poll : Poll) : Prop :=
  poll.now - startTime < client.taskTimeout

instance (poll : Poll) : Decidable (poll.InTime client startTime) :=
  inferInstanceAs (Decidable (poll.now - startTime < client.taskTimeout))

/-- A turn after the timeout stops the polling. -/
theorem pollTurn_of_expired {poll : Poll} (expired : ¬ poll.InTime client startTime)
    (errors : Nat) : pollTurn client taskUri startTime errors poll = .stops none := if_neg expired

/-- A turn that stops with a status got it before the timeout, and the task has ended. -/
theorem stops_some {errors : Nat} {poll : Poll} {status : TaskStatus}
    (stops : pollTurn client taskUri startTime errors poll = .stops (some status)) :
    poll.InTime client startTime ∧ ∃ response, poll.outcome = .response response ∧
      response.statusCode = 200 ∧ readTaskStatus taskUri response.json = some status := by
  unfold pollTurn at stops
  split at stops
  next inTime =>
    refine ⟨inTime, ?_⟩
    split at stops
    next response found =>
      split at stops
      next => cases stops
      next ok =>
        split at stops
        next => cases stops
        next status' read =>
          split at stops
          next =>
            cases stops
            exact ⟨response, found, not_not.mp ok, read⟩
          next => cases stops
    next => split at stops <;> cases stops
    next => cases stops
  next => cases stops

/-- A turn that lets the polling go on is before the timeout. It counts an error, as long as there
are not enough of them, or finds a task that has not ended. -/
theorem continues_cases {errors next : Nat} {poll : Poll}
    (continues : pollTurn client taskUri startTime errors poll = .continues next) :
    poll.InTime client startTime ∧
      ((poll.outcome.IsNetworkError ∧ next = errors + 1 ∧ next < maxConsecutiveErrors) ∨
        ∃ response status, poll.outcome = .response response ∧ response.statusCode = 200 ∧
          readTaskStatus taskUri response.json = some status ∧
          status.state.isTerminal = false ∧ next = 0) := by
  unfold pollTurn at continues
  split at continues
  next inTime =>
    refine ⟨inTime, ?_⟩
    split at continues
    next response found =>
      split at continues
      next => cases continues
      next ok =>
        split at continues
        next => cases continues
        next status read =>
          split at continues
          next => cases continues
          next going =>
            cases continues
            exact .inr ⟨response, status, found, not_not.mp ok, read,
              Bool.eq_false_of_not_eq_true going, rfl⟩
    next isTimeout message found =>
      split at continues
      next => cases continues
      next few =>
        cases continues
        exact .inl ⟨by rw [found]; trivial, rfl, not_le.mp few⟩
    next => cases continues
  next => cases continues

/-- An error of the network that lets the polling go on is counted, and is not the last that is
tolerated. -/
theorem counted_of_continues {errors next : Nat} {poll : Poll}
    (network : poll.outcome.IsNetworkError)
    (continues : pollTurn client taskUri startTime errors poll = .continues next) :
    next = errors + 1 ∧ next < maxConsecutiveErrors := by
  rcases (continues_cases continues).2 with ⟨_, counted⟩ | ⟨response, _, found, _⟩
  · exact counted
  · rw [found] at network
    exact network.elim

/-- An outcome that ends the polling does not let it go on. -/
theorem not_continues_of_endsPolling {errors next : Nat} {poll : Poll}
    (ends : poll.outcome.EndsPolling) :
    pollTurn client taskUri startTime errors poll ≠ .continues next := by
  intro continues
  rcases (continues_cases continues).2 with
    ⟨network, _⟩ | ⟨response, status, found, ok, read, going, _⟩
  · rcases ends with ⟨response, found, _⟩ | ⟨_, _, response, _, found, _⟩
    · rw [found] at network
      exact network
    · rw [found] at network
      exact network
  · rcases ends with
      ⟨response', found', bad⟩ | ⟨state, terminal, response', fields, found', _, json, named⟩
    · cases found.symm.trans found'
      exact bad ok
    · cases found.symm.trans found'
      obtain ⟨fields', json', _, state'⟩ := exists_fields_of_readTaskStatus read
      cases json.symm.trans json'
      rw [named, Option.getD_some] at state'
      rw [state', TaskState.isTerminal_ofJson state terminal] at going
      cases going

/-- The polls of a run of polling that asked for a status. -/
def madePolls (client : DiagnosticClient) (taskUri : Text) (startTime : Time)
    (polls : List Poll) : List Poll :=
  (Tape.run (pollTurn client taskUri startTime) 0 polls).read.filter
    fun poll => decide (poll.InTime client startTime)

theorem fst_waitForTask (polls : List Poll) :
    (waitForTask client taskUri startTime polls).1 =
      (madePolls client taskUri startTime polls).map fun poll =>
        .status (client.url taskUri) poll.now poll.outcome := by
  rw [waitForTask, madePolls, ← List.filterMap_eq_map, List.filterMap_filter]
  refine List.filterMap_congr fun poll _ => ?_
  by_cases inTime : poll.InTime client startTime
  · rw [if_pos (decide_eq_true inTime)]
    exact if_pos inTime
  · rw [if_neg (by simpa using inTime)]
    exact if_neg inTime

/-- Of a list in which all but the last item pass, those that pass are at the front. -/
theorem filter_prefix_of_passes {Item : Type} {passes : Item → Bool} {items : List Item}
    (pass : ∀ front item later, items = front ++ item :: later → later ≠ [] →
      passes item = true) : items.filter passes <+: items := by
  rcases List.eq_nil_or_concat items with rfl | ⟨front, last, rfl⟩
  · exact List.prefix_rfl
  · have all : front.filter passes = front := by
      refine List.filter_eq_self.mpr fun item member => ?_
      obtain ⟨before, after, rfl⟩ := List.append_of_mem member
      exact pass before item (after ++ [last]) (by simp) (by simp)
    rw [List.concat_eq_append, List.filter_append, all, List.filter_singleton]
    cases passes last with
    | true => exact List.prefix_rfl
    | false => exact (List.prefix_append_right_inj front).mpr List.nil_prefix

theorem madePolls_initial (polls : List Poll) :
    madePolls client taskUri startTime polls <+:
      (Tape.run (pollTurn client taskUri startTime) 0 polls).read := by
  refine filter_prefix_of_passes fun front poll later read more => ?_
  obtain ⟨_, _, goes⟩ := Tape.exists_advance_of_read read
  obtain ⟨_, continues⟩ := goes more
  exact decide_eq_true (continues_cases continues).1

/-- The polls before one that is made let the polling go on, and so does this one if it is not the
last. -/
theorem exists_advance_of_made {polls front later : List Poll} {poll : Poll}
    (made : madePolls client taskUri startTime polls = front ++ poll :: later) :
    ∃ errors, Tape.advance (pollTurn client taskUri startTime) 0 front = some errors ∧
      (later ≠ [] → ∃ next, pollTurn client taskUri startTime errors poll = .continues next) := by
  obtain ⟨rest, read⟩ := @madePolls_initial client taskUri startTime polls
  rw [made, List.append_assoc, List.cons_append] at read
  obtain ⟨errors, advanced, goes⟩ := Tape.exists_advance_of_read read.symm
  exact ⟨errors, advanced, fun more => goes (List.append_ne_nil_of_left_ne_nil more _)⟩

end Polling

/-- What ends the polling of a task, as seen by the polls that are made: each is before the timeout,
and none follows an outcome that ends the polling, a third error of the network in a row, or a turn
after the timeout. -/
structure PollsEnd (client : DiagnosticClient) (startTime : Time) (polls made : List Poll) :
    Prop where
  inTime : ∀ poll ∈ made, poll.now - startTime < client.taskTimeout
  afterEnd : ∀ front poll later, made = front ++ poll :: later → poll.outcome.EndsPolling →
    later = []
  afterErrors : ∀ front first second third later,
    made = front ++ first :: second :: third :: later → first.outcome.IsNetworkError →
    second.outcome.IsNetworkError → third.outcome.IsNetworkError → later = []
  afterTimeout : ∀ front poll later, polls = front ++ poll :: later →
    client.taskTimeout ≤ poll.now - startTime → made.length ≤ front.length

theorem pollsEnd_madePolls (client : DiagnosticClient) (taskUri : Text) (startTime : Time)
    (polls : List Poll) :
    PollsEnd client startTime polls (madePolls client taskUri startTime polls) where
  inTime poll member := of_decide_eq_true (List.mem_filter.mp member).2
  afterEnd front poll later made ends := by
    by_contra more
    obtain ⟨errors, _, goes⟩ := exists_advance_of_made made
    obtain ⟨next, continues⟩ := goes more
    exact not_continues_of_endsPolling ends continues
  afterErrors front first second third later made error error' error'' := by
    by_contra more
    have split : madePolls client taskUri startTime polls =
        (front ++ [first] ++ [second]) ++ third :: later := by
      rw [made, List.append_assoc, List.append_assoc]
      rfl
    obtain ⟨errors, advanced, goes⟩ := exists_advance_of_made split
    obtain ⟨errors', advanced', continues'⟩ := Tape.advance_concat.mp advanced
    obtain ⟨errors'', _, continues''⟩ := Tape.advance_concat.mp advanced'
    obtain ⟨next, continues⟩ := goes more
    have one := (counted_of_continues error continues'').1
    have two := (counted_of_continues error' continues').1
    have three := counted_of_continues error'' continues
    rw [maxConsecutiveErrors] at three
    omega
  afterTimeout front poll later split expired := by
    by_contra longer
    have read := (@madePolls_initial client taskUri startTime polls).trans
      (Tape.read_prefix 0 polls)
    have upTo : front ++ [poll] <+: polls := ⟨later, by rw [split, List.append_assoc]; rfl⟩
    have within : front ++ [poll] <+: madePolls client taskUri startTime polls :=
      List.prefix_of_prefix_length_le upTo read (by
        rw [List.length_append, List.length_singleton]
        exact not_le.mp longer)
    have member := within.subset (List.mem_append_right front (.head _))
    exact not_lt.mpr expired (of_decide_eq_true (List.mem_filter.mp member).2)

/-- The polling has a result once a turn comes after the timeout. -/
theorem isSome_waitForTask {client : DiagnosticClient} {taskUri : Text} {startTime : Time}
    {polls : List Poll} {poll : Poll} (member : poll ∈ polls)
    (expired : client.taskTimeout ≤ poll.now - startTime) :
    (waitForTask client taskUri startTime polls).2.isSome :=
  Tape.result_isSome_of_mem member fun errors =>
    ⟨none, pollTurn_of_expired (not_lt.mpr expired) errors⟩

/-- A status that the polling returns is of its task, and was read from the last poll. -/
theorem getLast_of_waitForTask {client : DiagnosticClient} {taskUri : Text} {startTime : Time}
    {polls : List Poll} {status : TaskStatus}
    (returned : (waitForTask client taskUri startTime polls).2 = some (some status)) :
    ∃ poll response, (madePolls client taskUri startTime polls).getLast? = some poll ∧
      poll.outcome = .response response ∧ response.statusCode = 200 ∧
      readTaskStatus taskUri response.json = some status := by
  obtain ⟨before, poll, errors, read, _, stops⟩ := Tape.exists_stop returned
  obtain ⟨inTime, response, found, ok, status⟩ := stops_some stops
  refine ⟨poll, response, ?_, found, ok, status⟩
  rw [madePolls, read, List.filter_append, List.filter_singleton, decide_eq_true inTime]
  exact List.getLast?_concat

/-! ### Collections -/

/-- A completed status was read from an outcome that says so. -/
theorem reports_completed {taskUri : Text} {outcome : HttpOutcome} {response : HttpResponse}
    {status : TaskStatus} (found : outcome = .response response) (ok : response.statusCode = 200)
    (read : readTaskStatus taskUri response.json = some status)
    (completed : status.state = .completed) : outcome.Reports "Completed" := by
  obtain ⟨fields, json, _, state⟩ := exists_fields_of_readTaskStatus read
  refine ⟨response, fields, found, ok, json, ?_⟩
  have named := TaskState.ofJson_eq_completed (state.symm.trans completed)
  cases member : Json.getMember fields (Json.text "TaskState") with
  | none =>
    rw [member, Option.getD_none] at named
    exact absurd (Json.string.inj named) (by decide)
  | some value =>
    rw [member, Option.getD_some] at named
    rw [named]

/-- Only a download with status 200 succeeds, and it returns what was downloaded. -/
theorem response_of_downloadAttachment {outcome : HttpOutcome} {response : DiagnosticResponse}
    (downloaded : downloadAttachment outcome = .ok response) (success : response.success = true) :
    ∃ download, outcome = .response download ∧ download.statusCode = 200 ∧
      response.content = download.content := by
  cases outcome with
  | response download =>
    rw [downloadAttachment] at downloaded
    dsimp only at downloaded
    split at downloaded
    next ok =>
      obtain rfl := Except.ok.inj downloaded
      exact ⟨download, rfl, ok, rfl⟩
    next =>
      obtain rfl := Except.ok.inj downloaded
      cases success
  | requestError isTimeout message =>
    obtain rfl := Except.ok.inj downloaded
    cases success
  | otherError message => cases downloaded

/-- The attachment is asked for at most once, for a completed task, and a result that succeeds is
its download. -/
theorem collectAttachment_spec (printed : Json → Text) (client : DiagnosticClient)
    (download : HttpOutcome) (status : Option TaskStatus) :
    ((collectAttachment printed client download status).1 = [] ∧
      ∀ response, (collectAttachment printed client download status).2 = .ok response →
        response.success = false) ∨
    ∃ found uri, status = some found ∧ found.state = .completed ∧
      collectAttachment printed client download status =
        ([.attachment (client.url uri) download], downloadAttachment download) := by
  cases status with
  | none =>
    refine .inl ⟨rfl, fun response failed => ?_⟩
    obtain rfl := Except.ok.inj failed
    rfl
  | some found =>
    by_cases completed : found.state = .completed
    · cases located : getAttachmentUri found with
      | error error =>
        rw [collectAttachment, if_neg (not_not.mpr completed), located]
        exact .inl ⟨rfl, fun response failed => by cases failed⟩
      | ok uri =>
        rw [collectAttachment, if_neg (not_not.mpr completed), located]
        exact .inr ⟨found, uri, rfl, completed, rfl⟩
    · rw [collectAttachment, if_pos completed]
      refine .inl ⟨rfl, fun response failed => ?_⟩
      obtain rfl := Except.ok.inj failed
      rfl

/-- The answer to the initiation holds the URI of a task. -/
def HttpOutcome.ObtainsTask (outcome : HttpOutcome) (taskUri : Text) : Prop :=
  taskUri ≠ [] ∧ ∃ initiation, initiateCollection outcome = .ok initiation ∧
    initiation.taskUri = .string taskUri

theorem collectDiagnosticData_of_obtainsTask {printed : Json → Text} {client : DiagnosticClient}
    {endpoint : Text} {body : Json} {answers : BmcAnswers} {taskUri : Text}
    (connected : client.connected = true) (obtains : answers.initiate.ObtainsTask taskUri) :
    collectDiagnosticData printed client endpoint body answers =
      ⟨initiateExchange client endpoint body answers.initiate ::
        (collectTask printed client answers taskUri).exchanges,
        (collectTask printed client answers taskUri).result⟩ := by
  obtain ⟨filled, initiation, initiated, named⟩ := obtains
  have truthy : (Json.string taskUri).truthy = true := by
    cases taskUri with
    | nil => exact absurd rfl filled
    | cons point rest => rfl
  rw [collectDiagnosticData, if_pos connected, initiated]
  dsimp only
  rw [named, if_pos truthy]

/-- A collection that obtains no task exchanges nothing more, and does not succeed. -/
theorem collectDiagnosticData_of_not_obtainsTask {printed : Json → Text}
    {client : DiagnosticClient} {endpoint : Text} {body : Json} {answers : BmcAnswers}
    (connected : client.connected = true)
    (obtains : ∀ taskUri, ¬ answers.initiate.ObtainsTask taskUri) :
    ∃ result, collectDiagnosticData printed client endpoint body answers =
        ⟨[initiateExchange client endpoint body answers.initiate], some result⟩ ∧
      ∀ response, result = .ok response → response.success = false := by
  rw [collectDiagnosticData, if_pos connected]
  cases initiated : initiateCollection answers.initiate with
  | error error => exact ⟨_, rfl, fun response failed => by cases failed⟩
  | ok initiation =>
    dsimp only
    by_cases truthy : initiation.taskUri.truthy = true
    · rw [if_pos truthy]
      split
      next uri named =>
        refine absurd ⟨?_, initiation, initiated, named⟩ (obtains uri)
        rintro rfl
        rw [named] at truthy
        cases truthy
      next => exact ⟨_, rfl, fun response failed => by cases failed⟩
    · rw [if_neg truthy]
      refine ⟨_, rfl, fun response failed => ?_⟩
      obtain rfl := Except.ok.inj failed
      rfl

/-- What a collection that has ended has exchanged about its task: the polls, at most one download,
which follows a poll that says that the task is completed, and one deletion. A result that succeeds
is what was downloaded. -/
structure CleanedUp (client : DiagnosticClient) (initiate : Exchange) (answers : BmcAnswers)
    (taskUri : Text) (made : List Poll) (collection : DiagnosticCollection)
    (downloads : List Exchange) : Prop where
  ended : collection.result.isSome
  exchanges : collection.exchanges = initiate ::
    (made.map (fun poll => Exchange.status (client.url taskUri) poll.now poll.outcome) ++
      downloads ++ [.delete (client.url taskUri) answers.delete])
  downloaded : downloads = [] ∨ ∃ uri poll,
    downloads = [.attachment (client.url uri) answers.download] ∧ made.getLast? = some poll ∧
      poll.outcome.Reports "Completed"
  succeeds : ∀ response, collection.result = some (.ok response) → response.success = true →
    downloads ≠ [] ∧ ∃ download, answers.download = .response download ∧
      download.statusCode = 200 ∧ response.content = download.content

section Collections

variable {printed : Json → Text} {client : DiagnosticClient} {answers : BmcAnswers}
  {taskUri : Text}

/-- A collection of a task goes on as long as the task is polled. -/
theorem collectTask_of_polling
    (polling : (waitForTask client taskUri answers.startTime answers.polls).2 = none) :
    collectTask printed client answers taskUri =
      ⟨(waitForTask client taskUri answers.startTime answers.polls).1, none⟩ := by
  rw [collectTask]
  generalize waitForTask client taskUri answers.startTime answers.polls = waited at polling ⊢
  obtain ⟨exchanges, result⟩ := waited
  obtain rfl : result = none := polling
  rfl

/-- A collection of a task ends when the polling does. -/
theorem collectTask_of_polled {status : Option TaskStatus}
    (polled : (waitForTask client taskUri answers.startTime answers.polls).2 = some status) :
    collectTask printed client answers taskUri =
      ⟨(waitForTask client taskUri answers.startTime answers.polls).1 ++
        (collectAttachment printed client answers.download status).1 ++
        cleanUp client taskUri answers.delete,
        some (collectAttachment printed client answers.download status).2⟩ := by
  rw [collectTask]
  generalize waitForTask client taskUri answers.startTime answers.polls = waited at polled ⊢
  obtain ⟨exchanges, result⟩ := waited
  obtain rfl : result = some status := polled
  rfl

/-- The result does not depend on what the deletion comes to. -/
theorem result_collectTask (outcome : HttpOutcome) :
    (collectTask printed client { answers with delete := outcome } taskUri).result =
      (collectTask printed client answers taskUri).result := by
  cases polled : (waitForTask client taskUri answers.startTime answers.polls).2 with
  | none =>
    have other := @collectTask_of_polling printed client { answers with delete := outcome } taskUri
      polled
    rw [other, collectTask_of_polling polled]
  | some status =>
    have other := @collectTask_of_polled printed client { answers with delete := outcome } taskUri _
      polled
    rw [other, collectTask_of_polled polled]

/-- A collection that has ended has cleaned up. -/
theorem exists_cleanedUp {collection : DiagnosticCollection} {initiate : Exchange}
    (connected : client.connected = true) (cleanup : client.cleanupTaskOnSuccess = true)
    {status : Option TaskStatus}
    (polled : (waitForTask client taskUri answers.startTime answers.polls).2 = some status)
    (exchanges : collection.exchanges =
      initiate :: (collectTask printed client answers taskUri).exchanges)
    (result : collection.result = (collectTask printed client answers taskUri).result) :
    ∃ downloads, CleanedUp client initiate answers taskUri
      (madePolls client taskUri answers.startTime answers.polls) collection downloads := by
  rw [collectTask_of_polled polled] at exchanges result
  have cleaned : cleanUp client taskUri answers.delete =
      [.delete (client.url taskUri) answers.delete] := by
    unfold cleanUp deleteTask
    rw [if_pos cleanup, if_pos connected]
  rw [fst_waitForTask, cleaned] at exchanges
  refine ⟨_, ⟨result ▸ rfl, exchanges, ?_, ?_⟩⟩
  · rcases collectAttachment_spec printed client answers.download status with
      ⟨empty, _⟩ | ⟨found, uri, rfl, completed, collected⟩
    · exact .inl empty
    · obtain ⟨poll, response, last, answered, ok, read⟩ := getLast_of_waitForTask polled
      exact .inr ⟨uri, poll, congrArg Prod.fst collected, last,
        reports_completed answered ok read completed⟩
  · intro response returned success
    have collected := Option.some.inj (result.symm.trans returned)
    rcases collectAttachment_spec printed client answers.download status with
      ⟨_, fails⟩ | ⟨found, uri, rfl, completed, same⟩
    · rw [fails response collected] at success
      cases success
    · rw [same] at collected ⊢
      exact ⟨List.cons_ne_nil _ _, response_of_downloadAttachment collected success⟩

end Collections

/-- Whatever the BMC answers, and whichever errors occur, a collection that obtains a task polls it
until one of the ends of polling, and at the latest until the timeout. When the collection ends, it
has deleted the task exactly once, after everything else, and has asked for an attachment only after
a poll that saw the task completed. Its result is a success only if the attachment was downloaded,
and it is the same whatever the deletion comes to. -/
theorem diagnostic_task_cleaned_up (printed : Json → Text) (client : DiagnosticClient)
    (endpoint : Text) (body : Json) (answers : BmcAnswers) (taskUri : Text)
    (connected : client.connected = true) (cleanup : client.cleanupTaskOnSuccess = true)
    (obtains : answers.initiate.ObtainsTask taskUri) :
    ∃ made, PollsEnd client answers.startTime answers.polls made ∧
      (((collectDiagnosticData printed client endpoint body answers).result = none ∧
          (collectDiagnosticData printed client endpoint body answers).exchanges =
            initiateExchange client endpoint body answers.initiate ::
              made.map fun poll => .status (client.url taskUri) poll.now poll.outcome) ∨
        ∃ downloads, CleanedUp client (initiateExchange client endpoint body answers.initiate)
          answers taskUri made (collectDiagnosticData printed client endpoint body answers)
          downloads) ∧
      ((∃ poll ∈ answers.polls, client.taskTimeout ≤ poll.now - answers.startTime) →
        (collectDiagnosticData printed client endpoint body answers).result.isSome) ∧
      ∀ outcome, (collectDiagnosticData printed client endpoint body
          { answers with delete := outcome }).result =
        (collectDiagnosticData printed client endpoint body answers).result := by
  have started : ∀ answers : BmcAnswers, answers.initiate.ObtainsTask taskUri →
      collectDiagnosticData printed client endpoint body answers = _ :=
    fun _ obtains => collectDiagnosticData_of_obtainsTask connected obtains
  refine ⟨madePolls client taskUri answers.startTime answers.polls,
    pollsEnd_madePolls client taskUri answers.startTime answers.polls, ?_, ?_, ?_⟩
  · rw [started answers obtains]
    cases polled : (waitForTask client taskUri answers.startTime answers.polls).2 with
    | none =>
      left
      rw [collectTask_of_polling polled]
      exact ⟨rfl, congrArg (_ :: ·) (fst_waitForTask _)⟩
    | some status =>
      exact .inr (exists_cleanedUp connected cleanup polled rfl rfl)
  · rintro ⟨poll, member, expired⟩
    obtain ⟨status, polled⟩ := Option.isSome_iff_exists.mp
      (@isSome_waitForTask client taskUri _ _ _ member expired)
    rw [started answers obtains, collectTask_of_polled polled]
    rfl
  · intro outcome
    rw [started answers obtains, started { answers with delete := outcome } obtains]
    exact result_collectTask outcome

/-- A client with the default timeout. -/
def defaultClient : DiagnosticClient where
  baseUrl := Json.text "https://10.0.0.7"
  connected := true
  taskTimeout := 300000000
  cleanupTaskOnSuccess := true

/-- A response of a task that is running. -/
def runningTask : HttpOutcome :=
  .response {
    statusCode := 200
    json := some (.object [(Json.text "TaskState", .string (Json.text "Running"))]) }

/-- A task that does not end in time, and cannot be deleted either. -/
def slowTask : BmcAnswers where
  initiate := .response {
    statusCode := 202
    location := some (Json.text "/redfish/v1/TaskService/Tasks/1") }
  startTime := 0
  polls := [⟨0, runningTask⟩, ⟨150000000, .requestError true []⟩, ⟨300000000, runningTask⟩]
  download := .otherError []
  delete := .otherError []

/-- That collection ends, and has asked for the deletion. -/
theorem slowTask_cleanedUp :
    ∃ made downloads, CleanedUp defaultClient
      (initiateExchange defaultClient (Json.text "/collect") .null slowTask.initiate) slowTask
      (Json.text "/redfish/v1/TaskService/Tasks/1") made
      (collectDiagnosticData (fun _ => []) defaultClient (Json.text "/collect") .null slowTask)
      downloads := by
  obtain ⟨made, _, shape, ends, _⟩ := diagnostic_task_cleaned_up (fun _ => []) defaultClient
    (Json.text "/collect") .null slowTask (Json.text "/redfish/v1/TaskService/Tasks/1") rfl rfl
    ⟨by decide, _, rfl, rfl⟩
  have ended := ends ⟨⟨300000000, runningTask⟩, by simp [slowTask], by decide⟩
  rcases shape with ⟨going, _⟩ | ⟨downloads, cleanedUp⟩
  · rw [going] at ended
    cases ended
  · exact ⟨made, downloads, cleanedUp⟩

end Gyanam
