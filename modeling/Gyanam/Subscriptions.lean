/-
This file models the alert subscriptions of the alert manager: the maps that
`_refresh_subscriptions` keeps, and one pass of it. A pass harvests the streams
that failed for good, finds the targets whose configuration changed, tears down
what is gone or changed, retries the failed targets whose cooldown elapsed,
starts what is missing, and checks the webhook subscriptions against their BMCs.

Passes follow each other, and what they meet is theirs to take: the active
targets, the state of each stream, the clocks, and what each BMC answers. The
digest that a fingerprint is made by is a parameter.
-/

import Gyanam.Lib.Table
import Gyanam.RedfishClient

namespace Gyanam

/-! ### Targets and their fingerprints -/

/-- A target with the columns of its alert subscription. -/
structure AlertTarget extends Target where
  enableAlertSubscription : Bool := true
  alertSseEndpoint : Option String := none
  deriving DecidableEq, Repr

/-- The connection-relevant parts of a target. -/
def connectionParts (target : AlertTarget) : List String := [
  target.baseUrl,
  target.username,
  target.encryptedPassword,
  target.alertSseEndpoint.getD "",
  if target.verifySsl then "True" else "False",
  target.connectionMode]

/-- Hash of the connection-relevant config for change detection. -/
def targetFingerprint {Print : Type} (digest : String → Print) (target : AlertTarget) : Print :=
  digest ("\x1f".intercalate (connectionParts target))

/-! ### The maps -/

/-- The kind of a subscription. -/
inductive SubscriptionKind where
  | sse
  | webhook
  deriving DecidableEq, Repr

/-- When a permanently failed target is retried. Never is `datetime.max`. -/
inductive RetryAt where
  | time (value : Time)
  | never
  deriving DecidableEq, Repr

/-- The subscription maps of an alert manager. A subscriber is known by the row it was made from. -/
structure Subscriptions (Print : Type) where
  subscribers : Table TargetId AlertTarget := Table.empty
  webhookSubscribers : Table TargetId AlertTarget := Table.empty
  subscriptionTypes : Table TargetId SubscriptionKind := Table.empty
  permanentlyFailed : Table TargetId RetryAt := Table.empty
  subFingerprints : Table TargetId Print := Table.empty
  webhookVerifiedAt : Table TargetId Time := Table.empty

/-- The options of the alert manager that a pass reads. The cooldown of a permanent failure is
absent when `permanent_failure_retry_hours` is 0. -/
structure SubscriptionSettings where
  forceWebhookMode : Bool := false
  enableWebhookFallback : Bool := true
  permanentFailureRetry : Option Nat := some 21600000000
  webhookVerifyInterval : Time := 300000000

/-- The end of the cooldown of a failure. -/
def SubscriptionSettings.retryAt (settings : SubscriptionSettings) (now : Time) : RetryAt :=
  match settings.permanentFailureRetry with
  | some cooldown => .time (now + cooldown)
  | none => .never

/-- Whether a failed target is retried by now. -/
def SubscriptionSettings.isDue (settings : SubscriptionSettings) (now : Time) : RetryAt → Bool
  | .time value => settings.permanentFailureRetry.isSome && decide (value ≤ now)
  | .never => false

/-! ### What a pass meets -/

/-- What the capability check says of the event stream of a BMC. -/
inductive SseSupport where
  | supported
  | notSupported
  | broken
  | unknown
  deriving DecidableEq, Repr

/-- Types of webhook subscription failures. -/
inductive SubscriptionFailureType where
  | temporary
  | permanent
  deriving DecidableEq, Repr

/-- Result of webhook subscription attempt. -/
structure SubscriptionResult where
  success : Bool
  failureType : Option SubscriptionFailureType := none
  deriving DecidableEq, Repr

/-- What an attempt to subscribe a target meets. Where nothing is given, the call raises. -/
structure SubscriptionAnswers where
  decrypts : Bool := true
  sseSupport : Option SseSupport := some .supported
  sseStarts : Bool := true
  reconciled : Option Bool := some false
  created : Option SubscriptionResult := some { success := true }
  failedAt : Time := 0

/-- What one pass meets: the active targets, which streams it finds failed for good, the clock at
its steps, what the BMCs answer, and which webhook subscriptions they still have. -/
structure RefreshPass where
  targets : Table TargetId AlertTarget
  failing : TargetId → Bool := fun _ => false
  harvestedAt : TargetId → Time := fun _ => 0
  now : Time := 0
  answers : TargetId → SubscriptionAnswers := fun _ => {}
  verifyNow : Time := 0
  alive : TargetId → Bool := fun _ => true
  verifiedAt : TargetId → Time := fun _ => 0

/-- The active targets with alert subscription enabled. -/
def RefreshPass.alertTargets (pass : RefreshPass) : Table TargetId AlertTarget :=
  pass.targets.deleteWhere fun _ target => !target.enableAlertSubscription

/-! ### Starting a subscription -/

namespace Subscriptions

variable {Print : Type} (digest : String → Print) (settings : SubscriptionSettings)

/-- The ids of both SSE and webhook subscribers. -/
def currentIds (subs : Subscriptions Print) : List TargetId :=
  (subs.subscribers.keys ++ subs.webhookSubscribers.keys).dedup

/-- Start SSE-based alert subscription. -/
def startSse (answers : SubscriptionAnswers) (subs : Subscriptions Print) (tid : TargetId)
    (target : AlertTarget) : Subscriptions Print :=
  if answers.sseStarts then
    { subs with
      subscribers := subs.subscribers.set tid target
      subscriptionTypes := subs.subscriptionTypes.set tid .sse }
  else subs

/-- File a webhook subscriber. -/
def addWebhook (subs : Subscriptions Print) (tid : TargetId) (target : AlertTarget) :
    Subscriptions Print :=
  { subs with
    webhookSubscribers := subs.webhookSubscribers.set tid target
    subscriptionTypes := subs.subscriptionTypes.set tid .webhook }

/-- Start webhook-based alert subscription. -/
def startWebhook (answers : SubscriptionAnswers) (subs : Subscriptions Print) (tid : TargetId)
    (target : AlertTarget) : Subscriptions Print :=
  match answers.reconciled, answers.created with
  | none, _ => subs
  | some true, _ => subs.addWebhook tid target
  | some false, none => subs
  | some false, some result =>
    if result.success then subs.addWebhook tid target
    else if result.failureType = some .permanent then
      { subs with
        permanentlyFailed :=
          subs.permanentlyFailed.set tid (settings.retryAt answers.failedAt) }
    else subs

/-- Start alert subscription for a single target with SSE/webhook fallback. -/
def startSubscription (answers : SubscriptionAnswers) (subs : Subscriptions Print)
    (tid : TargetId) (target : AlertTarget) : Subscriptions Print :=
  if (subs.permanentlyFailed.get tid).isSome then subs
  else if !answers.decrypts then subs
  else if settings.forceWebhookMode then
    if settings.enableWebhookFallback then startWebhook settings answers subs tid target else subs
  else
    match answers.sseSupport with
    | none => subs
    | some .supported => startSse answers subs tid target
    | some _ =>
      if settings.enableWebhookFallback then startWebhook settings answers subs tid target
      else subs

/-! ### The steps of a pass -/

/-- Harvest a subscriber that permanently failed mid-stream. -/
def harvestOne (pass : RefreshPass) (subs : Subscriptions Print) (tid : TargetId) :
    Subscriptions Print :=
  if pass.failing tid then
    { subs with
      subscribers := subs.subscribers.remove tid
      subscriptionTypes := subs.subscriptionTypes.remove tid
      permanentlyFailed :=
        if (subs.permanentlyFailed.get tid).isSome then subs.permanentlyFailed
        else subs.permanentlyFailed.set tid (settings.retryAt (pass.harvestedAt tid)) }
  else subs

/-- Harvest the subscribers that permanently failed mid-stream. -/
def harvest (pass : RefreshPass) (subs : Subscriptions Print) : Subscriptions Print :=
  subs.subscribers.keys.foldl (harvestOne settings pass) subs

/-- Whether the configuration of a subscribed target changed while it stayed present. -/
def isChanged [DecidableEq Print] (targets : Table TargetId AlertTarget)
    (subs : Subscriptions Print) (tid : TargetId) : Bool :=
  decide (tid ∈ subs.currentIds) && (targets.get tid).any fun target =>
    subs.subFingerprints.get tid ≠ some (targetFingerprint digest target)

/-- Whether a permanently failed target has another fingerprint than the one on record. -/
def isFixed [DecidableEq Print] (targets : Table TargetId AlertTarget)
    (subs : Subscriptions Print) (tid : TargetId) : Bool :=
  (subs.permanentlyFailed.get tid).isSome && (targets.get tid).any fun target =>
    (subs.subFingerprints.get tid).any fun print => print ≠ targetFingerprint digest target

/-- Clear the failure mark of a target. -/
def clearMark (subs : Subscriptions Print) (tid : TargetId) : Subscriptions Print :=
  { subs with permanentlyFailed := subs.permanentlyFailed.remove tid }

/-- Stop the subscription of a removed, disabled or changed target. -/
def removeOne (targets : Table TargetId AlertTarget) (changed : TargetId → Bool)
    (subs : Subscriptions Print) (tid : TargetId) : Subscriptions Print :=
  { subs with
    subscribers := subs.subscribers.remove tid
    webhookSubscribers := subs.webhookSubscribers.remove tid
    subscriptionTypes := subs.subscriptionTypes.remove tid
    subFingerprints := subs.subFingerprints.remove tid
    permanentlyFailed :=
      if (targets.get tid).isNone || changed tid then subs.permanentlyFailed.remove tid
      else subs.permanentlyFailed }

/-- Clear the marks of the targets whose cooldown has elapsed. -/
def retryDue (pass : RefreshPass) (subs : Subscriptions Print) : Subscriptions Print :=
  (subs.permanentlyFailed.keys.filter fun tid =>
    (subs.permanentlyFailed.get tid).any (settings.isDue pass.now)).foldl clearMark subs

/-- The maps after some of the starts of a pass, and the targets it attempted to subscribe. -/
structure Started (Print : Type) where
  subs : Subscriptions Print
  attempted : List TargetId := []

/-- Start the subscription of a target if it is to be added, and record its fingerprint if the
subscription was established. -/
def startOne (pass : RefreshPass) (toAdd : TargetId → Bool) (started : Started Print)
    (entry : TargetId × AlertTarget) : Started Print :=
  if toAdd entry.1 then
    let subs := startSubscription settings (pass.answers entry.1) started.subs entry.1 entry.2
    { subs :=
        if entry.1 ∈ subs.currentIds then
          { subs with
            subFingerprints :=
              subs.subFingerprints.set entry.1 (targetFingerprint digest entry.2) }
        else subs
      attempted :=
        if (started.subs.permanentlyFailed.get entry.1).isSome then started.attempted
        else started.attempted ++ [entry.1] }
  else started

/-- Seed the time at which a webhook subscription was last seen alive. -/
def seedVerified (pass : RefreshPass) (subs : Subscriptions Print) (tid : TargetId) :
    Subscriptions Print :=
  if (subs.webhookVerifiedAt.get tid).isNone then
    { subs with webhookVerifiedAt := subs.webhookVerifiedAt.set tid pass.verifyNow }
  else subs

/-- Check a webhook subscription against its BMC, and drop it if it is gone. -/
def checkOne (pass : RefreshPass) (subs : Subscriptions Print) (tid : TargetId) :
    Subscriptions Print :=
  if (subs.webhookSubscribers.get tid).isNone then subs
  else if pass.alive tid then
    { subs with webhookVerifiedAt := subs.webhookVerifiedAt.set tid (pass.verifiedAt tid) }
  else
    { subs with
      webhookSubscribers := subs.webhookSubscribers.remove tid
      subscriptionTypes := subs.subscriptionTypes.remove tid
      subFingerprints := subs.subFingerprints.remove tid
      webhookVerifiedAt := subs.webhookVerifiedAt.remove tid }

/-- Re-verify webhook subscriptions against their BMCs; drop dead ones. -/
def verifyWebhooks (pass : RefreshPass) (subs : Subscriptions Print) : Subscriptions Print :=
  let tids := subs.webhookSubscribers.keys
  let due := tids.filter fun tid => (subs.webhookVerifiedAt.get tid).any fun last =>
    decide (settings.webhookVerifyInterval ≤ pass.verifyNow - last)
  due.foldl (checkOne pass) (tids.foldl (seedVerified pass) subs)

/-! ### A pass -/

/-- Sync alert subscriptions with current target configuration. -/
def refresh [DecidableEq Print] (pass : RefreshPass) (subs : Subscriptions Print) :
    Started Print :=
  let targets := pass.alertTargets
  let harvested := harvest settings pass subs
  let changed := isChanged digest targets harvested
  let fixed := (harvested.permanentlyFailed.keys.filter
    (isFixed digest targets harvested)).foldl clearMark harvested
  let removed := (harvested.currentIds.filter fun tid =>
    (targets.get tid).isNone || changed tid).foldl (removeOne targets changed) fixed
  let retried := retryDue settings pass removed
  let toAdd := fun tid => (decide (tid ∉ harvested.currentIds) || changed tid) &&
    (retried.permanentlyFailed.get tid).isNone
  let started := targets.rows.foldl (startOne digest settings pass toAdd) { subs := retried }
  { started with subs := verifyWebhooks settings pass started.subs }

end Subscriptions

end Gyanam
