/-
This file models the webhook subscription of one target at its BMC: what the
subscriber asks, one request after the other, and what it makes of each answer.
A start first reconciles the subscriptions that are tagged for the target. The
ones that point elsewhere are deleted, and one that points here is adopted; only
where none is adopted a subscription is created.

An answer is anything. What raises inside a request or while an answer is read
is caught by the function around it, which then returns what it has: after an
exception a reconciliation counts as one that adopted nothing, although its
handle may be set.
-/

import Gyanam.DiagnosticTasks
import Gyanam.Lib.Dialogue
import Gyanam.Subscriptions

namespace Gyanam

open Json (Text)

/-! ### Requests and subscribers -/

/-- A request to a BMC. -/
inductive BmcRequest where
  | get (url : Text)
  | post (url : Text) (body : Json)
  | delete (url : Text)

/-- What a subscriber says to its BMC before it has a value. -/
abbrev BmcDialogue (Value : Type) := Dialogue BmcRequest HttpOutcome Value

/-- Manages webhook-based alert subscriptions for a single target. -/
structure WebhookSubscriber where
  targetId : TargetId
  baseUrl : Text
  webhookUrl : Text
  eventTypes : List Text := [Json.text "Alert", Json.text "StatusChange"]

/-- The subscription that a subscriber holds: its ID, null if it has none, and its URL, empty if
there is none. -/
structure WebhookHandle where
  subscriptionId : Json := .null
  subscriptionUrl : Text := []

/-- The path of the subscriptions of a BMC. -/
def subscriptionsPath : Text := Json.text "/redfish/v1/EventService/Subscriptions"

/-- The last part of a path. Behind a slash at its end it is empty. -/
def lastPart (path : Text) : Text :=
  (Strings.split (Json.point '/'.toNat) path).getLast?.getD []

/-- Is a value this text? -/
def isText (chars : Text) : Json → Bool
  | .string other => other = chars
  | _ => false

/-- The members that a collection lists, if they can be looped over. -/
def collectionMembers : Option Json → Option (List Json)
  | some (.object fields) =>
    Json.iterated ((Json.getMember fields (Json.text "Members")).getD (.array []))
  | _ => none

namespace WebhookSubscriber

variable (printed : Json → Text) (subscriber : WebhookSubscriber)

/-- The subscriber of a target for events that the BMC posts under a base URL. -/
def forTarget (bmcUrl webhookBaseUrl : Text) (targetId : TargetId) : WebhookSubscriber where
  targetId := targetId
  baseUrl := bmcUrl
  webhookUrl := webhookBaseUrl ++ Json.text "/" ++ Strings.decimal targetId

/-- The tag of the subscriptions of the target. -/
def context : Text := Json.text "target_" ++ Strings.decimal subscriber.targetId

/-- The URL of the subscriptions of the BMC. -/
def collectionUrl : Text := subscriber.baseUrl ++ subscriptionsPath

/-- What a subscription is created with. -/
def subscriptionPayload : Json := .object [
  (Json.text "Destination", .string subscriber.webhookUrl),
  (Json.text "Protocol", .string (Json.text "Redfish")),
  (Json.text "EventTypes", .array (subscriber.eventTypes.map .string)),
  (Json.text "Context", .string subscriber.context)]

/-! ### Reconciliation -/

/-- What a reconciliation makes of a member of the collection. -/
inductive Finding where
  | foreign
  | own (uri : Text)
  | orphan (uri : Text)
  | raises

/-- Read the details of a member. Its URI is split once its tag is known to be ours. -/
def finding (odata : Json) : HttpOutcome → Finding
  | .response detail =>
    if detail.statusCode ≠ 200 then .foreign
    else
      match detail.json with
      | some (.object data) =>
        if isText subscriber.context (memberOrNull data "Context") then
          match odata with
          | .string uri =>
            if isText subscriber.webhookUrl (memberOrNull data "Destination") then .own uri
            else .orphan uri
          | _ => .raises
        else .foreign
      | _ => .raises
  | _ => .raises

/-- The handle of a subscription with some URI. -/
def handleOf (uri : Text) : WebhookHandle where
  subscriptionId := .string (lastPart uri)
  subscriptionUrl := subscriber.baseUrl ++ uri

/-- Reconcile the members one by one: delete the orphans, and adopt the first that is ours. -/
def reconcileMembers : WebhookHandle → Bool → List Json → BmcDialogue (WebhookHandle × Bool)
  | handle, adopted, [] => .done (handle, adopted)
  | handle, adopted, .object member :: rest =>
    let odata := memberOrNull member "@odata.id"
    if odata.truthy then
      .ask (.get (subscriber.baseUrl ++ printedText printed odata)) fun detail =>
        match subscriber.finding odata detail with
        | .foreign => reconcileMembers handle adopted rest
        | .own uri =>
          -- The first match is adopted, and the scan goes on for the orphans behind it.
          if adopted then reconcileMembers handle true rest
          else reconcileMembers (subscriber.handleOf uri) true rest
        | .orphan uri =>
          .ask (.delete (subscriber.baseUrl ++ uri)) fun _ => reconcileMembers handle adopted rest
        | .raises => .done (handle, false)
    else reconcileMembers handle adopted rest
  | handle, _, _ :: _ => .done (handle, false)

/-- Reconcile BMC subscriptions for this target, matched by our Context. -/
def reconcileByContext : BmcDialogue (WebhookHandle × Bool) :=
  .ask (.get subscriber.collectionUrl) fun
    | .response response =>
      if response.statusCode ≠ 200 then .done ({}, false)
      else
        match collectionMembers response.json with
        | some members => subscriber.reconcileMembers printed {} false members
        | none => .done ({}, false)
    | _ => .done ({}, false)

/-! ### Creation -/

/-- Try to find the subscription matching our webhook URL among some members. A member without a
URI is asked for under the text of None. -/
def findMembers (handle : WebhookHandle) : List Json → BmcDialogue WebhookHandle
  | [] => .done handle
  | .object member :: rest =>
    match (Json.getMember member (Json.text "@odata.id")).getD (.string []) with
    | .string chars =>
      let uri := printedText printed (memberOrNull member "@odata.id")
      .ask (.get (subscriber.baseUrl ++ uri)) fun
        | .response detail =>
          if detail.statusCode ≠ 200 then findMembers handle rest
          else
            match detail.json with
            | some (.object data) =>
              if isText subscriber.webhookUrl (memberOrNull data "Destination") then
                .done { subscriber.handleOf uri with
                  subscriptionId := .string (lastPart chars) }
              else findMembers handle rest
            | _ => .done handle
        | _ => .done handle
    | _ => .done handle
  | _ :: _ => .done handle

/-- Try to find existing subscription matching our webhook URL. -/
def findExistingSubscription (handle : WebhookHandle) : BmcDialogue WebhookHandle :=
  .ask (.get subscriber.collectionUrl) fun
    | .response response =>
      if response.statusCode ≠ 200 then .done handle
      else
        match collectionMembers response.json with
        | some members => subscriber.findMembers printed handle members
        | none => .done handle
    | _ => .done handle

/-- A failure that is retried, or not. -/
def failed (failureType : SubscriptionFailureType) : SubscriptionResult :=
  { success := false, failureType := some failureType }

/-- The texts of a rejection that no retry helps. -/
def permanentErrors : List Text := [
  Json.text "PropertyValueFormatError",
  Json.text "PropertyValueNotInList",
  Json.text "PropertyUnknown"]

/-- Is a rejected subscription rejected for good? A BMC never reaches localhost. -/
def isPermanent (errorText : Text) : Bool :=
  permanentErrors.any (Strings.contains errorText) ||
    Strings.contains subscriber.webhookUrl (Json.text "localhost")

/-- Is there an ID? -/
def isSubscribed (handle : WebhookHandle) : Bool :=
  match handle.subscriptionId with
  | .null => false
  | _ => true

/-- Create webhook subscription on the BMC. -/
def createSubscription (handle : WebhookHandle) :
    BmcDialogue (WebhookHandle × SubscriptionResult) :=
  .ask (.post subscriber.collectionUrl subscriber.subscriptionPayload) fun
    | .response response =>
      if response.statusCode ∈ [200, 201] then
        match response.json with
        | some (.object data) =>
          let id := memberOrNull data "Id"
          let url := response.location.getD
            (subscriber.collectionUrl ++ Json.text "/" ++ printedText printed id)
          .done ({ subscriptionId := id, subscriptionUrl := url }, { success := true })
        | _ => .done (handle, failed .temporary)
      else if response.statusCode = 409 then
        (subscriber.findExistingSubscription printed handle).map fun found =>
          (found, if isSubscribed found then { success := true } else failed .temporary)
      else if response.statusCode = 400 then
        .done (handle,
          failed (if subscriber.isPermanent response.text then .permanent else .temporary))
      else if response.statusCode ∈ [501, 405] then .done (handle, failed .permanent)
      else .done (handle, failed .temporary)
    | _ => .done (handle, failed .temporary)

/-! ### The tasks of the alert manager -/

/-- What a start comes to: a subscription is adopted, or one is to be created. -/
inductive WebhookStart where
  | adopted
  | created (result : SubscriptionResult)

/-- Start webhook-based alert subscription: reconcile, and create one if none is adopted. -/
def startSubscription : BmcDialogue (WebhookHandle × WebhookStart) :=
  (subscriber.reconcileByContext printed).bind fun (handle, adopted) =>
    if adopted then .done (handle, .adopted)
    else (subscriber.createSubscription printed handle).map fun (handle, result) =>
      (handle, .created result)

/-- What a pass over the targets is told of a start. -/
def WebhookStart.answers (start : WebhookStart) (answers : SubscriptionAnswers) :
    SubscriptionAnswers :=
  match start with
  | .adopted => { answers with reconciled := some true }
  | .created result => { answers with reconciled := some false, created := some result }

/-- Delete webhook subscription from the BMC. -/
def deleteSubscription (handle : WebhookHandle) : BmcDialogue (WebhookHandle × Bool) :=
  if handle.subscriptionUrl = [] then .done (handle, false)
  else .ask (.delete handle.subscriptionUrl) fun
    | .response response =>
      if response.statusCode ∈ [200, 204, 404] then .done ({}, true) else .done (handle, false)
    | _ => .done (handle, false)

/-- Verify subscription still exists on BMC. -/
def verifySubscription (handle : WebhookHandle) : BmcDialogue Bool :=
  if handle.subscriptionUrl = [] then .done false
  else .ask (.get handle.subscriptionUrl) fun
    | .response response => .done (response.statusCode = 200)
    | _ => .done false

/-- What the alert manager does with the subscription of a target. -/
inductive WebhookTask where
  | start
  | stop
  | check

/-- The handle that the alert manager files after a start, if it files one. -/
def WebhookStart.filed (handle : WebhookHandle) : WebhookStart → Option WebhookHandle
  | .adopted => some handle
  | .created result => if result.success then some handle else none

/-- A task of the alert manager. A subscriber is started anew, one that is stopped is let go
whatever its BMC answers, and one that is gone on the BMC is stopped. -/
def perform (filed : Option WebhookHandle) : WebhookTask → BmcDialogue (Option WebhookHandle)
  | .start => (subscriber.startSubscription printed).map fun (handle, start) => start.filed handle
  | .stop =>
    match filed with
    | none => .done none
    | some handle => (deleteSubscription handle).map fun _ => none
  | .check =>
    match filed with
    | none => .done none
    | some handle =>
      (verifySubscription handle).bind fun alive =>
        if alive then .done (some handle) else (deleteSubscription handle).map fun _ => none

end WebhookSubscriber

end Gyanam
