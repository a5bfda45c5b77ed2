/-
This file models the loop that keeps the alert stream of a target open. It
connects and reads events until the stream fails or ends. Errors that no retry
helps with stop the loop, others make it wait, longer after each failure, and
after hours of failures it cools down.

The loop also starts over when a stream ends without an error, and then it does
not wait. The file says at which steps of a run an attempt to connect directly
follows another one: where a stream ends that brought an event or stayed open
for half a minute, and where a cooldown is over as soon as it is entered.
-/

import Gyanam.Lib.Machine
import Gyanam.SseFraming
import Gyanam.SubscriptionStatus
import Mathlib.Data.List.Chain
import Mathlib.Data.List.GetD

namespace Gyanam

open Json (Text)

/-! ### Errors -/

/-- The classes of exceptions that are told apart. The timeout of asyncio is an `OSError`. -/
inductive ErrorClass where
  | httpStatusError (status : Nat)
  | runtimeError
  | connectError
  | osError
  | timeoutException
  | other
  deriving DecidableEq, Repr

/-- An exception: its class, the name of its type, and its text. -/
structure StreamError where
  errorClass : ErrorClass
  typeName : Text
  text : Text
  deriving DecidableEq

/-- Classification of stream errors: don't retry, or retry with backoff. -/
inductive ErrorCategory where
  | permanent
  | transient
  deriving DecidableEq, Repr

/-- What a status says that no retry helps with. -/
def statusReason : Nat → Option Text
  | 401 => some (Json.text "Authentication failed (401 Unauthorized)")
  | 403 => some (Json.text "Access forbidden (403)")
  | 404 => some (Json.text "SSE endpoint not found (404) - BMC does not support SSE")
  | 405 => some (Json.text "SSE not supported (405 Method Not Allowed)")
  | 501 => some (Json.text "SSE not implemented by BMC (501)")
  | _ => none

/-- What the status of an error says, or the status that the text of an error names. -/
def StreamError.httpReason (error : StreamError) (errorStr : Text) : Option Text :=
  match error.errorClass with
  | .httpStatusError status => statusReason status
  | .runtimeError =>
    if Strings.contains errorStr (Json.text "http") then
      ([401, 403, 404, 405, 501].find? fun status =>
        Strings.contains errorStr (Json.text "http " ++ Strings.decimal (status : Nat))).bind
          statusReason
    else none
  | _ => none

/-- Classify an error as permanent or transient, by its class, its text, and the failures before
it. -/
def classifyError (consecutiveFailures : Nat) (error : StreamError) : ErrorCategory × Text :=
  let errorStr := Strings.lower error.text
  let mentions (words : String) : Bool := Strings.contains errorStr (Json.text words)
  match error.httpReason errorStr with
  | some reason => (.permanent, reason)
  | none =>
    if mentions "connection refused" || mentions "cannot connect" then
      if 10 < consecutiveFailures then
        (.permanent, Json.text
          "Connection refused for extended period - BMC may be offline or firewalled")
      else (.transient, Json.text "Connection refused (BMC may be restarting)")
    else if error.errorClass = .connectError ∨ error.errorClass = .osError then
      if 10 < consecutiveFailures then
        (.permanent, Json.text
          "Connection failures for extended period - network issue or BMC offline")
      else (.transient, Json.text "Network connection error")
    else if (mentions "certificate" || mentions "ssl" || error.errorClass = .connectError) &&
        mentions "certificate verify failed" then
      (.permanent, Json.text "SSL certificate validation failed (set verify_ssl=false to ignore)")
    else if mentions "closed after" && mentions "without sending events" then
      (.permanent, Json.text "Invalid SSE endpoint (stream closes immediately)")
    else if error.errorClass = .timeoutException then
      if 15 < consecutiveFailures then
        (.permanent, Json.text "Persistent timeout - BMC not responding")
      else (.transient, Json.text "Connection timeout")
    else if mentions "network unreachable" || mentions "no route to host" then
      if 5 < consecutiveFailures then
        (.permanent, Json.text "Network unreachable - routing issue")
      else (.transient, Json.text "Network unreachable")
    else if mentions "connection reset" || mentions "broken pipe" then
      (.transient, Json.text "Connection reset by BMC")
    else
      (.transient, Json.text "Unexpected error: " ++ error.typeName ++ Json.text ": " ++ error.text)

/-- The error of an answer with another status than 200. -/
def connectionRefusal (status : Nat) (errorPreview : Text) : StreamError where
  errorClass := .runtimeError
  typeName := Json.text "RuntimeError"
  text := Json.text "SSE connection failed: HTTP " ++ Strings.decimal (status : Nat) ++
    Json.text " " ++ errorPreview

/-- The error of a stream that ends at once without an event. -/
def closedEarly (elapsed : Rat) : StreamError where
  errorClass := .runtimeError
  typeName := Json.text "RuntimeError"
  text := Json.text "SSE stream closed after " ++ Strings.fixedTenths elapsed ++ Json.text
    "s without sending events (possible invalid endpoint or BMC doesn't support SSE)"

/-! ### Time -/

/-- The seconds between two readings of the clock, which counts microseconds. -/
def secondsBetween (start now : Int) : Double := Double.ofRatio (now - start) 1000000

/-- The hours between two readings of the clock. -/
def hoursBetween (start now : Int) : Double :=
  match secondsBetween start now with
  | .finite seconds => Double.ofRatio seconds.num (seconds.den * 3600)
  | seconds => seconds

/-- Exponential backoff: half a minute, up to two hours. -/
def backoffDelays : List Nat := [30, 60, 120, 300, 600, 1800, 3600, 7200]

/-- A random delay for each base delay, at most a fifth below or above it. -/
structure Jitter where
  spread : Nat → Nat
  within : ∀ base ∈ backoffDelays, 4 * base ≤ 5 * spread base ∧ 5 * spread base ≤ 6 * base

/-- The base delay after a number of failures. -/
def backoffBase : Nat → Nat
  | 0 => 30
  | failures + 1 => backoffDelays.getD (min failures (backoffDelays.length - 1)) 30

/-- Calculate exponential backoff delay based on failure count. -/
def calculateBackoffDelay (consecutiveFailures : Nat) (jitter : Jitter) : Nat :=
  jitter.spread (backoffBase consecutiveFailures)

/-- The readings of the clock while an error is handled, in their order, and the jitter. -/
structure ErrorReadings where
  failed : Int
  checked : Int
  entered : Int
  retried : Int
  looked : Int
  jitter : Jitter

/-! ### The subscriber -/

/-- What the loop does, and where it was started. -/
inductive LoopAct where
  | started
  | attempt
  | sleep (seconds : Nat)
  deriving DecidableEq, Repr

/-- Where the loop waits. -/
inductive LoopStage where
  | ended
  | starting
  | connecting
  | streaming (connectTime : Int)
  | sleeping
  deriving DecidableEq, Repr

/-- How long failures are retried, and how long a cooldown takes. -/
structure RetryLimits where
  maxRetryDurationHours : Double := .finite 24
  cooldownDurationHours : Double := .finite 6
  degradedThresholdHours : Double := .finite 1

/-- A subscriber, with what its loop has done so far. -/
structure AlertSubscriber where
  running : Bool := false
  consecutiveFailures : Nat := 0
  firstFailureTime : Option Int := none
  cooldownStartTime : Option Int := none
  state : SubscriptionState := .stopped
  failureReason : Option Text := none
  nextRetryTime : Option Int := none
  stage : LoopStage := .ended
  acts : List LoopAct := []
  deriving DecidableEq

namespace AlertSubscriber

/-- Start the subscription. -/
def start (subscriber : AlertSubscriber) : AlertSubscriber :=
  if subscriber.running then subscriber
  else
    { subscriber with
      running := true
      state := .reconnecting
      stage := .starting
      acts := subscriber.acts ++ [.started] }

/-- Stop the subscription. The loop is cancelled where it waits. -/
def stop (subscriber : AlertSubscriber) : AlertSubscriber :=
  { subscriber with running := false, state := .stopped, stage := .ended }

/-- Reset failure tracking. -/
def resetFailures (subscriber : AlertSubscriber) : AlertSubscriber :=
  { subscriber with
    consecutiveFailures := 0
    firstFailureTime := none
    cooldownStartTime := none
    failureReason := none
    nextRetryTime := none }

/-- Manually resume a failed subscription. -/
def resume (subscriber : AlertSubscriber) : AlertSubscriber :=
  if subscriber.running then { subscriber.resetFailures with state := .reconnecting }
  else subscriber.resetFailures.start

/-- Attempt connection. -/
def attemptConnection (subscriber : AlertSubscriber) : AlertSubscriber :=
  { subscriber with stage := .connecting, acts := subscriber.acts ++ [.attempt] }

/-- Wait for some seconds. -/
def sleep (subscriber : AlertSubscriber) (seconds : Nat) : AlertSubscriber :=
  { subscriber with stage := .sleeping, acts := subscriber.acts ++ [.sleep seconds] }

/-- The start of an iteration of the loop: a cooldown is checked every minute. -/
def subscribeLoop (limits : RetryLimits) (subscriber : AlertSubscriber) (now : Int) :
    AlertSubscriber :=
  if subscriber.running then
    match subscriber.cooldownStartTime with
    | some start =>
      if (hoursBetween start now).lt limits.cooldownDurationHours then
        sleep { subscriber with state := .onCooldown } 60
      else
        attemptConnection { subscriber with
          cooldownStartTime := none
          firstFailureTime := none
          consecutiveFailures := 0
          state := .reconnecting }
    | none => subscriber.attemptConnection
  else { subscriber with stage := .ended }

/-- The time of the first failure, when one more is tracked. -/
def failingSince (subscriber : AlertSubscriber) (now : Int) : Option Int :=
  if subscriber.consecutiveFailures = 0 then some now else subscriber.firstFailureTime

/-- Track a failure and its reason. -/
def trackFailure (subscriber : AlertSubscriber) (reason : Text) (now : Int) : AlertSubscriber :=
  { subscriber with
    firstFailureTime := subscriber.failingSince now
    consecutiveFailures := subscriber.consecutiveFailures + 1
    failureReason := some reason }

/-- Wait before the next attempt. -/
def backOff (subscriber : AlertSubscriber) (readings : ErrorReadings) : AlertSubscriber :=
  let delay := calculateBackoffDelay subscriber.consecutiveFailures readings.jitter
  sleep { subscriber with nextRetryTime := some (readings.retried + delay * 1000000) } delay

/-- Handle an error of the connection or of the stream. -/
def handleError (limits : RetryLimits) (subscriber : AlertSubscriber) (error : StreamError)
    (readings : ErrorReadings) : AlertSubscriber :=
  let classified := classifyError subscriber.consecutiveFailures error
  let failed := subscriber.trackFailure classified.2 readings.failed
  match classified.1 with
  | .permanent => { failed with state := .failedPermanent, running := false, stage := .ended }
  | .transient =>
    match failed.firstFailureTime with
    | none => failed.backOff readings
    | some first =>
      let elapsedHours := hoursBetween first readings.checked
      if limits.maxRetryDurationHours.le elapsedHours then
        subscribeLoop limits
          { failed with cooldownStartTime := some readings.entered, state := .onCooldown }
          readings.looked
      else
        backOff { failed with
          state :=
            if limits.degradedThresholdHours.le elapsedHours then .degraded else .reconnecting }
          readings

/-- Connection successful. -/
def connected (subscriber : AlertSubscriber) (now : Int) : AlertSubscriber :=
  { subscriber with
    consecutiveFailures := 0
    firstFailureTime := none
    failureReason := none
    nextRetryTime := none
    state := .connected
    stage := .streaming now }

end AlertSubscriber

/-- How many events the lines of a stream bring. -/
def eventCount (lines : List Text) : Nat :=
  let ignore : Text → Attempt Unit Unit Unit := fun _ => pure ()
  (Listener.listen ignore lines ()).handed.length

/-- Events count whatever processes them, and also if that fails. -/
theorem length_handed_listen {State Error : Type} (process : Text → Attempt State Error Unit)
    (lines : List Text) (start : State) :
    (Listener.listen process lines start).handed.length = eventCount lines :=
  congrArg List.length (Listener.handed_listen process _ lines start ())

/-- The seconds after which a stream ended, if it ended within 30 seconds and without an event.
Readings of the clock are never so far apart that their distance is not finite. -/
def closesEarly (connectTime ended : Int) (lines : List Text) : Option Rat :=
  match secondsBetween connectTime ended with
  | .finite elapsed => if elapsed < 30 ∧ eventCount lines = 0 then some elapsed else none
  | _ => none

/-- The end of a stream. One that ends early is an error, and any other starts the loop over. -/
def AlertSubscriber.closeStream (limits : RetryLimits) (subscriber : AlertSubscriber)
    (connectTime ended : Int) (lines : List Text) (readings : ErrorReadings) : AlertSubscriber :=
  match closesEarly connectTime ended lines with
  | some elapsed => subscriber.handleError limits (closedEarly elapsed) readings
  | none => subscriber.subscribeLoop limits readings.looked

/-! ### Runs -/

/-- What happens to a subscriber: it is started, stopped or resumed, its loop goes on after a wait,
and a connection attempt or a stream takes its course. -/
inductive SubscriberEvent where
  | start
  | stop
  | resume
  | wakes (now : Int)
  | raises (error : StreamError) (readings : ErrorReadings)
  | refused (status : Nat) (errorPreview : Text) (readings : ErrorReadings)
  | connects (now : Int)
  | closes (lines : List Text) (ended : Int) (readings : ErrorReadings)

/-- The subscriber with its target. -/
def subscriberMachine (limits : RetryLimits) : Machine AlertSubscriber SubscriberEvent where
  step subscriber event :=
    match event, subscriber.stage with
    | .start, _ => some subscriber.start
    | .stop, _ => some subscriber.stop
    | .resume, _ => some subscriber.resume
    | .wakes now, .starting => some (subscriber.subscribeLoop limits now)
    | .wakes now, .sleeping => some (subscriber.subscribeLoop limits now)
    | .raises error readings, .connecting => some (subscriber.handleError limits error readings)
    | .raises error readings, .streaming _ => some (subscriber.handleError limits error readings)
    | .refused status errorPreview readings, .connecting =>
      if status = 200 then none
      else some (subscriber.handleError limits (connectionRefusal status errorPreview) readings)
    | .connects now, .connecting => some (subscriber.connected now)
    | .closes lines ended readings, .streaming connectTime =>
      some (subscriber.closeStream limits connectTime ended lines readings)
    | _, _ => none

/-! ### A stream that ends early -/

/-- Whether a word occurs in the text around the number in the error of a stream that ends early. -/
def occursInClosedEarly (word : Text) : Bool :=
  Strings.contains (Json.text "sse stream closed after ") word ||
    Strings.contains (Json.text
      "s without sending events (possible invalid endpoint or bmc doesn't support sse)") word

/-- A word without digits occurs in the error only there. -/
theorem contains_closedEarly (elapsed : Rat) {word : Text} (filled : word ≠ [])
    (plain : word.all (fun point => !Strings.isDecimalMark point) = true) :
    Strings.contains (Strings.lower (closedEarly elapsed).text) word =
      occursInClosedEarly word := by
  have front : Strings.lower (Json.text "SSE stream closed after ") =
      Json.text "sse stream closed after " := by decide
  have back : Strings.lower (Json.text
        "s without sending events (possible invalid endpoint or BMC doesn't support SSE)") =
      Json.text
        "s without sending events (possible invalid endpoint or bmc doesn't support sse)" := by
    decide
  have marks : ∀ mark ∈ Strings.fixedTenths elapsed, Strings.isDecimalMark mark = true :=
    fun mark member => Strings.isDecimalMark_of_mem_fixedTenths member
  have number : Strings.fixedTenths elapsed ≠ [] := by simp [Strings.fixedTenths, Json.text]
  have absent : ∀ mark ∈ Strings.fixedTenths elapsed, mark ∉ word := by
    intro mark member listed
    have other := List.all_eq_true.mp plain mark listed
    rw [marks mark member, Bool.not_true] at other
    exact Bool.false_ne_true other
  rw [closedEarly, Strings.lower_append, Strings.lower_append, front, back,
    Strings.lower_marks marks, Strings.contains_append_marks filled number absent,
    occursInClosedEarly]

/-- No retry helps with a stream that ends early. -/
theorem classifyError_closedEarly (consecutiveFailures : Nat) (elapsed : Rat) :
    classifyError consecutiveFailures (closedEarly elapsed) =
      (.permanent, Json.text "Invalid SSE endpoint (stream closes immediately)") := by
  have occurs : ∀ words ∈ ["http", "connection refused", "cannot connect",
      "certificate verify failed", "closed after", "without sending events"],
      Strings.contains (Strings.lower (closedEarly elapsed).text) (Json.text words) =
        occursInClosedEarly (Json.text words) := by
    intro words listed
    have plain : Json.text words ≠ [] ∧
        (Json.text words).all (fun point => !Strings.isDecimalMark point) = true := by
      revert words
      decide
    exact contains_closedEarly elapsed plain.1 plain.2
  simp only [List.forall_mem_cons] at occurs
  obtain ⟨http, refused, cannot, verify, closed, without, -⟩ := occurs
  -- What is tried before does not occur in the error.
  have noHttp := http.trans (show occursInClosedEarly (Json.text "http") = false by decide)
  have noRefusal := refused.trans
    (show occursInClosedEarly (Json.text "connection refused") = false by decide)
  have noConnect := cannot.trans
    (show occursInClosedEarly (Json.text "cannot connect") = false by decide)
  have noCertificate := verify.trans
    (show occursInClosedEarly (Json.text "certificate verify failed") = false by decide)
  have isClosed := closed.trans
    (show occursInClosedEarly (Json.text "closed after") = true by decide)
  have isSilent := without.trans
    (show occursInClosedEarly (Json.text "without sending events") = true by decide)
  have runtime : (closedEarly elapsed).errorClass = .runtimeError := rfl
  have noStatus : (closedEarly elapsed).httpReason (Strings.lower (closedEarly elapsed).text) =
      none := by
    simp only [StreamError.httpReason, runtime, noHttp, Bool.false_eq_true, if_false]
  simp [classifyError, noStatus, noRefusal, noConnect, noCertificate, isClosed, isSilent, runtime]

/-! ### Attempts without a wait between them -/

/-- An attempt may follow a wait, or a start by hand. -/
def LoopAct.Rests : LoopAct → Prop
  | .started => True
  | .attempt => False
  | .sleep seconds => 0 < seconds

/-- Between two attempts there is a wait, or the loop was started again. -/
def Spaced (acts : List LoopAct) : Prop :=
  acts.IsChain fun first second => second = .attempt → first.Rests

/-- An error is one failure too many, so a cooldown is entered. -/
def entersCooldown (limits : RetryLimits) (subscriber : AlertSubscriber) (error : StreamError)
    (readings : ErrorReadings) : Bool :=
  decide ((classifyError subscriber.consecutiveFailures error).1 = .transient) &&
    (subscriber.failingSince readings.failed).any fun first =>
      limits.maxRetryDurationHours.le (hoursBetween first readings.checked)

/-- A cooldown that is entered with an error is over when it is looked at first. -/
def cooldownOver (limits : RetryLimits) (subscriber : AlertSubscriber) (error : StreamError)
    (readings : ErrorReadings) : Bool :=
  entersCooldown limits subscriber error readings &&
    !(hoursBetween readings.entered readings.looked).lt limits.cooldownDurationHours

/-- A stream ends early or with an error, and no cooldown is over when it is entered. -/
def restsAfter (limits : RetryLimits) (subscriber : AlertSubscriber) : SubscriberEvent → Bool
  | .raises error readings => !cooldownOver limits subscriber error readings
  | .refused status errorPreview readings =>
    !cooldownOver limits subscriber (connectionRefusal status errorPreview) readings
  | .closes lines ended _ =>
    match subscriber.stage with
    | .streaming connectTime => (closesEarly connectTime ended lines).isSome
    | _ => true
  | _ => true

/-- The last act at each stage of the loop. -/
def LoopStage.Follows : LoopStage → Option LoopAct → Prop
  | .ended, _ => True
  | .starting, last => last = some .started
  | .connecting, last => last = some .attempt
  | .streaming _, last => last = some .attempt
  | .sleeping, last => ∃ seconds, 0 < seconds ∧ last = some (.sleep seconds)

/-- Whether a connection is attempted or open. -/
def LoopStage.isOpen : LoopStage → Bool
  | .connecting => true
  | .streaming _ => true
  | _ => false

/-- What holds of a subscriber wherever its loop waits. -/
structure AlertSubscriber.Sound (subscriber : AlertSubscriber) : Prop where
  running : subscriber.running = true ↔ subscriber.stage ≠ .ended
  follows : subscriber.stage.Follows subscriber.acts.getLast?
  cooldown : subscriber.stage.isOpen = true → subscriber.cooldownStartTime = none

theorem spaced_append {acts : List LoopAct} {act : LoopAct} :
    Spaced (acts ++ [act]) ↔
      Spaced acts ∧ (act = .attempt → ∀ last ∈ acts.getLast?, last.Rests) := by
  rw [Spaced, List.isChain_append]
  simp only [List.isChain_singleton, true_and, List.head?_cons, Option.mem_some_iff,
    forall_eq']
  exact and_congr_right fun _ => ⟨fun rests same last listed => rests last listed same,
    fun rests last listed same => rests same last listed⟩

namespace AlertSubscriber

theorem sound_attemptConnection {subscriber : AlertSubscriber}
    (running : subscriber.running = true) (cooldown : subscriber.cooldownStartTime = none) :
    subscriber.attemptConnection.Sound where
  running := iff_of_true running nofun
  follows := List.getLast?_concat
  cooldown := fun _ => cooldown

theorem sound_sleep {subscriber : AlertSubscriber} (running : subscriber.running = true)
    {seconds : Nat} (positive : 0 < seconds) : (subscriber.sleep seconds).Sound where
  running := iff_of_true running nofun
  follows := ⟨seconds, positive, List.getLast?_concat⟩
  cooldown := nofun

theorem sound_subscribeLoop (limits : RetryLimits) {subscriber : AlertSubscriber}
    (running : subscriber.running = true) (now : Int) :
    (subscriber.subscribeLoop limits now).Sound := by
  rw [subscribeLoop, if_pos running]
  split
  next =>
    split
    next =>
      refine sound_sleep ?_ (show 0 < 60 by decide)
      exact running
    next =>
      refine sound_attemptConnection ?_ rfl
      exact running
  next none => exact sound_attemptConnection running none

/-- The loop attempts to connect unless it cools down. -/
theorem spaced_subscribeLoop (limits : RetryLimits) {subscriber : AlertSubscriber}
    (running : subscriber.running = true) (now : Int) :
    Spaced (subscriber.subscribeLoop limits now).acts ↔
      Spaced subscriber.acts ∧
        ((subscriber.cooldownStartTime.any fun start =>
            (hoursBetween start now).lt limits.cooldownDurationHours) = false →
          ∀ last ∈ subscriber.acts.getLast?, last.Rests) := by
  rw [subscribeLoop, if_pos running]
  cases cooldown : subscriber.cooldownStartTime with
  | none => simp [attemptConnection, spaced_append]
  | some start =>
    by_cases cooling : (hoursBetween start now).lt limits.cooldownDurationHours = true
    · simp [cooling, sleep, spaced_append]
    · simp [cooling, attemptConnection, spaced_append]

/-- The base delay is one of the delays. -/
theorem backoffBase_mem (failures : Nat) : backoffBase failures ∈ backoffDelays := by
  cases failures with
  | zero => decide
  | succ failures =>
    have short : min failures (backoffDelays.length - 1) < backoffDelays.length :=
      lt_of_le_of_lt (Nat.min_le_right _ _) (by decide)
    rw [backoffBase, List.getD_eq_getElem _ _ short]
    exact List.getElem_mem short

/-- No delay is shorter than 24 seconds. -/
theorem calculateBackoffDelay_pos (consecutiveFailures : Nat) (jitter : Jitter) :
    24 ≤ calculateBackoffDelay consecutiveFailures jitter := by
  have listed := backoffBase_mem consecutiveFailures
  have long : ∀ base ∈ backoffDelays, 30 ≤ base := by decide
  have least := long _ listed
  have near := (jitter.within _ listed).1
  rw [calculateBackoffDelay]
  omega

theorem sound_backOff {subscriber : AlertSubscriber} (running : subscriber.running = true)
    (readings : ErrorReadings) : (subscriber.backOff readings).Sound := by
  refine sound_sleep ?_ (lt_of_lt_of_le (by decide) (calculateBackoffDelay_pos _ _))
  exact running

theorem spaced_backOff (subscriber : AlertSubscriber) (readings : ErrorReadings) :
    Spaced (subscriber.backOff readings).acts ↔ Spaced subscriber.acts := by
  simp [backOff, sleep, spaced_append]

theorem sound_handleError (limits : RetryLimits) {subscriber : AlertSubscriber}
    (running : subscriber.running = true) (error : StreamError) (readings : ErrorReadings) :
    (subscriber.handleError limits error readings).Sound := by
  simp only [handleError]
  split
  next => exact ⟨iff_of_false nofun (fun waits => waits rfl), trivial, nofun⟩
  next =>
    split
    next =>
      refine sound_backOff ?_ readings
      exact running
    next =>
      split
      next =>
        refine sound_subscribeLoop limits ?_ readings.looked
        exact running
      next =>
        refine sound_backOff ?_ readings
        exact running

/-- After an error the loop waits, unless it enters a cooldown that is over. -/
theorem spaced_handleError (limits : RetryLimits) {subscriber : AlertSubscriber}
    (running : subscriber.running = true) (attempted : subscriber.acts.getLast? = some .attempt)
    (error : StreamError) (readings : ErrorReadings) :
    Spaced (subscriber.handleError limits error readings).acts ↔
      Spaced subscriber.acts ∧ cooldownOver limits subscriber error readings = false := by
  simp only [handleError, cooldownOver, entersCooldown]
  cases category : (classifyError subscriber.consecutiveFailures error).1 with
  | permanent => simp [trackFailure]
  | transient =>
    cases since : subscriber.failingSince readings.failed with
    | none => simp [trackFailure, since, spaced_backOff]
    | some first =>
      cases exceeded : limits.maxRetryDurationHours.le (hoursBetween first readings.checked) with
      | false => simp [trackFailure, since, exceeded, spaced_backOff]
      | true =>
        simp [trackFailure, since, exceeded, spaced_subscribeLoop limits, running, attempted,
          LoopAct.Rests]

/-- A stream that ends early stops the loop. -/
theorem acts_handleError_closedEarly (limits : RetryLimits) (subscriber : AlertSubscriber)
    (elapsed : Rat) (readings : ErrorReadings) :
    (subscriber.handleError limits (closedEarly elapsed) readings).acts = subscriber.acts := by
  simp only [handleError, classifyError_closedEarly]
  rfl

theorem sound_closeStream (limits : RetryLimits) {subscriber : AlertSubscriber}
    (running : subscriber.running = true) (connectTime ended : Int) (lines : List Text)
    (readings : ErrorReadings) :
    (subscriber.closeStream limits connectTime ended lines readings).Sound := by
  rw [closeStream]
  split
  next elapsed _ => exact sound_handleError limits running (closedEarly elapsed) readings
  next => exact sound_subscribeLoop limits running readings.looked

/-- After a stream that does not end early the loop attempts to connect at once. -/
theorem spaced_closeStream (limits : RetryLimits) {subscriber : AlertSubscriber}
    (running : subscriber.running = true) (attempted : subscriber.acts.getLast? = some .attempt)
    (cooldown : subscriber.cooldownStartTime = none) (connectTime ended : Int) (lines : List Text)
    (readings : ErrorReadings) :
    Spaced (subscriber.closeStream limits connectTime ended lines readings).acts ↔
      Spaced subscriber.acts ∧ (closesEarly connectTime ended lines).isSome = true := by
  rw [closeStream]
  cases closesEarly connectTime ended lines with
  | none => simp [spaced_subscribeLoop limits running, cooldown, attempted, LoopAct.Rests]
  | some elapsed => simp [acts_handleError_closedEarly]

theorem sound_start {subscriber : AlertSubscriber} (sound : subscriber.Sound) :
    subscriber.start.Sound := by
  rw [start]
  split
  next => exact sound
  next => exact ⟨iff_of_true rfl nofun, List.getLast?_concat, nofun⟩

theorem spaced_start (subscriber : AlertSubscriber) :
    Spaced subscriber.start.acts ↔ Spaced subscriber.acts := by
  rw [start]
  split
  next => rfl
  next => simp [spaced_append]

theorem sound_resume {subscriber : AlertSubscriber} (sound : subscriber.Sound) :
    subscriber.resume.Sound := by
  rw [resume]
  split
  next => exact ⟨sound.running, sound.follows, fun _ => rfl⟩
  next => exact sound_start ⟨sound.running, sound.follows, fun _ => rfl⟩

theorem spaced_resume (subscriber : AlertSubscriber) :
    Spaced subscriber.resume.acts ↔ Spaced subscriber.acts := by
  rw [resume]
  split
  next => rfl
  next => exact spaced_start subscriber.resetFailures

end AlertSubscriber

/-- What a step does: the subscriber stays sound, and its attempts stay apart if there is a rest
after the step, and only then. -/
def StepSpaces (limits : RetryLimits) (subscriber : AlertSubscriber) (event : SubscriberEvent)
    (next : AlertSubscriber) : Prop :=
  next.Sound ∧
    (Spaced next.acts ↔ Spaced subscriber.acts ∧ restsAfter limits subscriber event = true)

namespace AlertSubscriber

/-- The loop goes on after a wait or a start. -/
theorem stepSpaces_wakes (limits : RetryLimits) {subscriber : AlertSubscriber}
    (running : subscriber.running = true)
    (rested : ∀ last ∈ subscriber.acts.getLast?, last.Rests) (now : Int) :
    StepSpaces limits subscriber (.wakes now) (subscriber.subscribeLoop limits now) := by
  refine ⟨sound_subscribeLoop limits running now, ?_⟩
  rw [spaced_subscribeLoop limits running]
  exact and_congr_right fun _ => iff_of_true (fun _ => rested) rfl

theorem stepSpaces_raises (limits : RetryLimits) {subscriber : AlertSubscriber}
    (running : subscriber.running = true) (attempted : subscriber.acts.getLast? = some .attempt)
    (error : StreamError) (readings : ErrorReadings) :
    StepSpaces limits subscriber (.raises error readings)
      (subscriber.handleError limits error readings) := by
  refine ⟨sound_handleError limits running error readings, ?_⟩
  rw [spaced_handleError limits running attempted, restsAfter, Bool.not_eq_true']

theorem stepSpaces_refused (limits : RetryLimits) {subscriber : AlertSubscriber}
    (running : subscriber.running = true) (attempted : subscriber.acts.getLast? = some .attempt)
    (status : Nat) (errorPreview : Text) (readings : ErrorReadings) :
    StepSpaces limits subscriber (.refused status errorPreview readings)
      (subscriber.handleError limits (connectionRefusal status errorPreview) readings) := by
  refine ⟨sound_handleError limits running _ readings, ?_⟩
  rw [spaced_handleError limits running attempted, restsAfter, Bool.not_eq_true']

theorem stepSpaces_closes (limits : RetryLimits) {subscriber : AlertSubscriber}
    (running : subscriber.running = true) (attempted : subscriber.acts.getLast? = some .attempt)
    (cooldown : subscriber.cooldownStartTime = none) {connectTime : Int}
    (stage : subscriber.stage = .streaming connectTime) (lines : List Text) (ended : Int)
    (readings : ErrorReadings) :
    StepSpaces limits subscriber (.closes lines ended readings)
      (subscriber.closeStream limits connectTime ended lines readings) := by
  refine ⟨sound_closeStream limits running connectTime ended lines readings, ?_⟩
  simp only [restsAfter, stage]
  exact spaced_closeStream limits running attempted cooldown connectTime ended lines readings

end AlertSubscriber

theorem stepSpaces (limits : RetryLimits) {subscriber next : AlertSubscriber}
    {event : SubscriberEvent} (sound : subscriber.Sound)
    (step : (subscriberMachine limits).step subscriber event = some next) :
    StepSpaces limits subscriber event next := by
  have ⟨runs, follows, cooldown⟩ := sound
  simp only [subscriberMachine] at step
  split at step
  next =>
    obtain rfl := Option.some.inj step
    exact ⟨AlertSubscriber.sound_start sound,
      (AlertSubscriber.spaced_start subscriber).trans (and_iff_left rfl).symm⟩
  next =>
    obtain rfl := Option.some.inj step
    exact ⟨⟨iff_of_false nofun fun waits => waits rfl, trivial, nofun⟩, (and_iff_left rfl).symm⟩
  next =>
    obtain rfl := Option.some.inj step
    exact ⟨AlertSubscriber.sound_resume sound,
      (AlertSubscriber.spaced_resume subscriber).trans (and_iff_left rfl).symm⟩
  next now stage =>
    rw [stage] at runs follows
    obtain rfl := Option.some.inj step
    refine AlertSubscriber.stepSpaces_wakes limits (runs.mpr nofun) (fun last listed => ?_) now
    cases follows.symm.trans listed
    trivial
  next now stage =>
    rw [stage] at runs follows
    obtain rfl := Option.some.inj step
    obtain ⟨seconds, positive, slept⟩ := follows
    refine AlertSubscriber.stepSpaces_wakes limits (runs.mpr nofun) (fun last listed => ?_) now
    cases slept.symm.trans listed
    exact positive
  next error readings stage =>
    rw [stage] at runs follows
    obtain rfl := Option.some.inj step
    exact AlertSubscriber.stepSpaces_raises limits (runs.mpr nofun) follows error readings
  next error readings connectTime stage =>
    rw [stage] at runs follows
    obtain rfl := Option.some.inj step
    exact AlertSubscriber.stepSpaces_raises limits (runs.mpr nofun) follows error readings
  next status errorPreview readings stage =>
    rw [stage] at runs follows
    split at step
    next => cases step
    next =>
      obtain rfl := Option.some.inj step
      exact AlertSubscriber.stepSpaces_refused limits (runs.mpr nofun) follows status errorPreview
        readings
  next now stage =>
    rw [stage] at runs follows cooldown
    obtain rfl := Option.some.inj step
    exact ⟨⟨iff_of_true (runs.mpr nofun) nofun, follows, fun _ => cooldown rfl⟩,
      (and_iff_left rfl).symm⟩
  next lines ended readings connectTime stage =>
    have running := runs.mpr (by rw [stage]; nofun)
    rw [stage] at follows cooldown
    obtain rfl := Option.some.inj step
    exact AlertSubscriber.stepSpaces_closes limits running follows (cooldown rfl) stage lines ended
      readings
  next => cases step

/-- In every run, whatever happens to the connections and streams, an attempt to connect follows a
wait or a start if and only if each stream ends early or with an error, and no cooldown is over when
it is entered. -/
theorem reconnects_spaced_iff (limits : RetryLimits) {events : List SubscriberEvent}
    {final : AlertSubscriber} (run : (subscriberMachine limits).run {} events = some final) :
    Spaced final.acts ↔
      (subscriberMachine limits).Throughout
        (fun subscriber event => restsAfter limits subscriber event = true) {} events := by
  have initial : AlertSubscriber.Sound {} :=
    ⟨iff_of_false nofun fun waits => waits rfl, trivial, nofun⟩
  let spaced : AlertSubscriber → Prop := fun subscriber => Spaced subscriber.acts
  have exactly : spaced final ↔ spaced {} ∧ (subscriberMachine limits).Throughout
      (fun subscriber event => restsAfter limits subscriber event = true) {} events :=
    (subscriberMachine limits).run_iff (fun sound step => (stepSpaces limits sound step).1)
      (fun sound step => (stepSpaces limits sound step).2) initial run
  exact exactly.trans (and_iff_right List.isChain_nil)

/-- Every delay is its base delay. -/
def steadyJitter : Jitter where
  spread := id
  within := by decide

/-- The readings of a clock that stands still. -/
def readingsAt (now : Int) : ErrorReadings where
  failed := now
  checked := now
  entered := now
  retried := now
  looked := now
  jitter := steadyJitter

/-- A target that refuses a connection, and then closes the stream as soon as it is open. -/
def restartingTarget : List SubscriberEvent := [
  .start, .wakes 0,
  .raises ⟨.connectError, Json.text "ConnectError", Json.text "Connection refused"⟩
    (readingsAt 1000000),
  .wakes 31000000, .connects 32000000, .closes [] 32000000 (readingsAt 32000000)]

/-- It is left alone for half a minute, and then for good. -/
theorem restartingTarget_spaced :
    ∃ final, (subscriberMachine {}).run {} restartingTarget = some final ∧
      final.state = .failedPermanent ∧ Spaced final.acts := by
  obtain ⟨final, run, failed⟩ := (subscriberMachine {}).exists_of_any
    (show ((subscriberMachine {}).run {} restartingTarget).any
      (fun final => decide (final.state = .failedPermanent)) = true by decide)
  exact ⟨final, run, of_decide_eq_true failed,
    (reconnects_spaced_iff {} run).mpr (by decide)⟩

/-- A target that sends one event over each connection. -/
def briefTarget : List SubscriberEvent := [
  .start, .wakes 0, .connects 1000000,
  .closes [Json.text "data: []", []] 2000000 (readingsAt 2000000)]

/-- It is connected to again without a wait. -/
theorem briefTarget_not_spaced :
    ¬∀ (limits : RetryLimits) (events : List SubscriberEvent) (final : AlertSubscriber),
      (subscriberMachine limits).run {} events = some final → Spaced final.acts := by
  intro always
  obtain ⟨final, run, again⟩ := (subscriberMachine {}).exists_of_any
    (show ((subscriberMachine {}).run {} briefTarget).any
      (fun final => decide (final.acts = [.started, .attempt, .attempt])) = true by
        decide +kernel)
  have spaced := always {} briefTarget final run
  rw [of_decide_eq_true again, Spaced, List.isChain_cons_cons, List.isChain_cons_cons] at spaced
  exact spaced.2.1 rfl

end Gyanam
