/-
This file models how an event payload of a BMC becomes alerts, on the two ways
it can come in: over a stream, where a subscriber hands every alert to its
callback as soon as it is built, and by a webhook, where all alerts of the
payload are returned together. Both filter by event type and by severity, with
the same defaults, and read the same fields.

The loops differ in two things. Over a stream an element that is no dictionary
raises, and the elements behind it are lost; by a webhook it is skipped. And a
timestamp that raises ends the stream's loop behind the alerts delivered so far,
while the webhook returns none of them. Apart from that the alerts are the same.
-/

import Gyanam.BaselinePull

namespace Gyanam

open Json (Text)

/-! ### Subscribers -/

/-- What handling a payload raises: a value of the wrong type or without an attribute, or a
timestamp. -/
inductive EventError where
  | type
  | attribute
  | timestamp (error : TimestampError)
  deriving DecidableEq, Repr

/-- What a subscriber knows of its target, and which events it lets through. -/
structure EventSource where
  targetId : TargetId
  targetName : Text
  targetBmc : Text
  eventTypes : List Text
  severities : List Text

/-- A configured list, or a default where it is missing or empty. -/
def orDefault (configured : Option (List Text)) (default : List Text) : List Text :=
  match configured with
  | some (first :: rest) => first :: rest
  | _ => default

/-- A subscriber of either kind. -/
def EventSource.ofConfig (targetId : TargetId) (targetName targetBmc : Text)
    (eventTypes severities : Option (List Text)) : EventSource where
  targetId := targetId
  targetName := targetName
  targetBmc := targetBmc
  eventTypes := orDefault eventTypes [Json.text "Alert", Json.text "StatusChange"]
  severities := orDefault severities [Json.text "Warning", Json.text "Critical"]

/-- What the two ways in rely on: the texts of values, and case folding. -/
structure TextLibrary where
  str : Json → Text
  casefold : Text → Text

/-! ### An event -/

/-- The type of an event, empty where there is none. -/
def eventTypeOf (event : LogEntry) : Json := pyOr (event.field "EventType") (.string [])

/-- Whether a value is one of some texts. -/
def isAmong (value : Json) (texts : List Text) : Bool :=
  match value with
  | .string chars => decide (chars ∈ texts)
  | _ => false

/-- Whether an event is let through. A type is only looked at where there is one. -/
def isWanted (library : TextLibrary) (source : EventSource) (event : LogEntry) : Bool :=
  let eventType := eventTypeOf event
  let (severity, present) := normalizeSeverity library.str event
  !(eventType.truthy && !source.eventTypes.isEmpty && !isAmong eventType source.eventTypes) &&
    severityAllowed library.casefold severity present (some source.severities)

/-- Where an event comes from. -/
def originOf (event : LogEntry) : Json :=
  match (Json.getMember event (Json.text "OriginOfCondition")).getD (.object []) with
  | .object fields => LogEntry.field fields "@odata.id"
  | .string chars => .string chars
  | _ => .null

/-- The alert of an event whose timestamp was read. -/
def alertFor (library : TextLibrary) (source : EventSource) (event : LogEntry)
    (eventTs : Option Datetime) (receivedAt : Option Datetime) : AlertEvent where
  targetId := source.targetId
  targetName := source.targetName
  targetBmc := source.targetBmc
  severity := (normalizeSeverity library.str event).1
  message := (Json.getMember event (Json.text "Message")).getD (.string [])
  messageId := event.field "MessageId"
  eventType := pyOr (eventTypeOf event) (.string (Json.text "Alert"))
  originOfCondition := originOf event
  eventTimestamp := eventTs
  receivedAt := receivedAt
  raw := some event

/-- The alert of an event. -/
def alertOfEvent (library : TextLibrary) (source : EventSource) (event : LogEntry)
    (receivedAt : Datetime) : Except EventError AlertEvent :=
  match parseRedfishTimestamp (event.field "EventTimestamp") with
  | .ok eventTs => .ok (alertFor library source event eventTs (some receivedAt))
  | .error error => .error (.timestamp error)

/-! ### Over a stream -/

/-- What a payload comes to over a stream: the alerts handed to the callback, and whether it went
through. What the callback raises is caught. -/
structure Delivery where
  delivered : List AlertEvent
  outcome : Except EventError Unit

/-- Hand over the alerts of some elements, one after the other. -/
def deliverEvents (library : TextLibrary) (source : EventSource) (clock : Nat → Datetime) :
    List Json → List AlertEvent → Delivery
  | [], delivered => ⟨delivered, .ok ()⟩
  | .object event :: rest, delivered =>
    if isWanted library source event then
      match alertOfEvent library source event (clock delivered.length) with
      | .ok alert => deliverEvents library source clock rest (delivered ++ [alert])
      | .error error => ⟨delivered, .error error⟩
    else deliverEvents library source clock rest delivered
  | _ :: _, delivered => ⟨delivered, .error .attribute⟩

/-- Process the decoded data of a stream event. -/
def processEventData (library : TextLibrary) (source : EventSource) (clock : Nat → Datetime)
    (data : Json) : Delivery :=
  match data with
  | .object fields =>
    match entries ((Json.getMember fields (Json.text "Events")).getD (.array [])) with
    | .ok events => deliverEvents library source clock events []
    | .error _ => ⟨[], .error .type⟩
  | _ => ⟨[], .error .attribute⟩

/-! ### By a webhook -/

/-- Gather the alerts of some elements. -/
def parseEvents (library : TextLibrary) (source : EventSource) (clock : Nat → Datetime) :
    List Json → List AlertEvent → Except EventError (List AlertEvent)
  | [], alerts => .ok alerts
  | .object event :: rest, alerts =>
    if isWanted library source event then
      match alertOfEvent library source event (clock alerts.length) with
      | .ok alert => parseEvents library source clock rest (alerts ++ [alert])
      | .error error => .error error
    else parseEvents library source clock rest alerts
  | _ :: rest, alerts => parseEvents library source clock rest alerts

/-- Parse a payload. One without a list of events may be an event itself. -/
def parseWebhookEvent (library : TextLibrary) (source : EventSource) (clock : Nat → Datetime)
    (eventData : LogEntry) : Except EventError (List AlertEvent) :=
  let events := match eventData.field "Events" with
    | .array events => events
    | _ =>
      if (eventData.field "MessageId").truthy || (eventData.field "Message").truthy then
        [.object eventData]
      else []
  parseEvents library source clock events []

/-! ### The events that are let through -/

/-- Whether an element is a dictionary. -/
def isObject : Json → Bool
  | .object _ => true
  | _ => false

/-- The timestamp of an event can be read: an offset that it says is less than a day. -/
def TimeReadable (event : LogEntry) : Prop := WholeOffset (event.field "EventTimestamp")

section Ingestion

variable (library : TextLibrary) (source : EventSource)

/-- The events among some elements that are let through. -/
def wantedEvents (elements : List Json) : List LogEntry :=
  elements.filterMap fun
    | .object event => if isWanted library source event then some event else none
    | _ => none

/-- The alert of an event, apart from when it was received. -/
def plainAlert (event : LogEntry) : AlertEvent :=
  alertFor library source event
    ((parseRedfishTimestamp (event.field "EventTimestamp")).toOption.join) none

/-- An alert without the time it was received. -/
def withoutReceipt (alert : AlertEvent) : AlertEvent := { alert with receivedAt := none }

variable {library source}

@[simp] theorem wantedEvents_nil : wantedEvents library source [] = [] := rfl

theorem wantedEvents_object (event : LogEntry) (rest : List Json) :
    wantedEvents library source (.object event :: rest) =
      if isWanted library source event then event :: wantedEvents library source rest
      else wantedEvents library source rest := by
  rw [wantedEvents, List.filterMap_cons]
  by_cases wanted : isWanted library source event = true
  · simp only [if_pos wanted]
    rfl
  · simp only [if_neg wanted]
    rfl

theorem wantedEvents_append (first second : List Json) :
    wantedEvents library source (first ++ second) =
      wantedEvents library source first ++ wantedEvents library source second :=
  List.filterMap_append

/-- A timestamp that can be read makes an alert. -/
theorem alertOfEvent_of_readable {event : LogEntry} (readable : TimeReadable event)
    (receivedAt : Datetime) :
    ∃ alert, alertOfEvent library source event receivedAt = .ok alert ∧
      withoutReceipt alert = plainAlert library source event := by
  obtain ⟨time, parsed⟩ := (parseRedfishTimestamp_returns _).mpr readable
  rw [alertOfEvent, plainAlert, parsed]
  exact ⟨_, rfl, rfl⟩

theorem alertOfEvent_of_not_readable {event : LogEntry} (raises : ¬ TimeReadable event)
    (receivedAt : Datetime) :
    ∃ error, alertOfEvent library source event receivedAt = .error error := by
  rw [TimeReadable, ← parseRedfishTimestamp_returns] at raises
  rw [alertOfEvent]
  cases parsed : parseRedfishTimestamp (event.field "EventTimestamp") with
  | ok time => exact absurd ⟨time, parsed⟩ raises
  | error error => exact ⟨_, rfl⟩

/-- A webhook returns the alerts of all events that are let through, if their timestamps can be
read. -/
theorem parseEvents_of_readable (clock : Nat → Datetime) {elements : List Json}
    (readable : ∀ event ∈ wantedEvents library source elements, TimeReadable event)
    (alerts : List AlertEvent) :
    ∃ added, parseEvents library source clock elements alerts = .ok (alerts ++ added) ∧
      added.map withoutReceipt =
        (wantedEvents library source elements).map (plainAlert library source) := by
  induction elements generalizing alerts with
  | nil => exact ⟨[], by rw [parseEvents, List.append_nil], rfl⟩
  | cons element rest inductionHypothesis =>
    cases element with
    | object event =>
      rw [wantedEvents_object] at readable ⊢
      rw [parseEvents]
      by_cases wanted : isWanted library source event = true
      · rw [if_pos wanted] at readable ⊢
        rw [if_pos wanted]
        obtain ⟨alert, built, same⟩ := alertOfEvent_of_readable
          (readable event List.mem_cons_self) (clock alerts.length)
        obtain ⟨added, parsed, others⟩ := inductionHypothesis
          (fun other member => readable other (List.mem_cons_of_mem _ member)) (alerts ++ [alert])
        refine ⟨alert :: added, ?_, ?_⟩
        · rw [built]
          dsimp only
          rw [parsed, List.append_assoc, List.singleton_append]
        · rw [List.map_cons, List.map_cons, same, others]
      · rw [if_neg wanted] at readable ⊢
        rw [if_neg wanted]
        exact inductionHypothesis readable alerts
    | _ => exact inductionHypothesis readable alerts

/-- With one timestamp that raises a webhook returns nothing. -/
theorem readable_of_parseEvents {clock : Nat → Datetime} {elements : List Json}
    {alerts returned : List AlertEvent}
    (parsed : parseEvents library source clock elements alerts = .ok returned) :
    ∀ event ∈ wantedEvents library source elements, TimeReadable event := by
  induction elements generalizing alerts with
  | nil => exact fun _ member => absurd member List.not_mem_nil
  | cons element rest inductionHypothesis =>
    cases element with
    | object event =>
      rw [wantedEvents_object]
      rw [parseEvents] at parsed
      by_cases wanted : isWanted library source event = true
      · rw [if_pos wanted] at parsed ⊢
        have readable : TimeReadable event := by
          by_contra raises
          have raised : ∃ error,
              alertOfEvent library source event (clock alerts.length) = .error error :=
            alertOfEvent_of_not_readable raises (clock alerts.length)
          obtain ⟨error, raised⟩ := raised
          rw [raised] at parsed
          cases parsed
        obtain ⟨alert, built, -⟩ := alertOfEvent_of_readable readable (clock alerts.length)
        rw [built] at parsed
        exact List.forall_mem_cons.mpr ⟨readable, inductionHypothesis parsed⟩
      · rw [if_neg wanted] at parsed ⊢
        exact inductionHypothesis parsed
    | _ => exact inductionHypothesis parsed

/-- Over a stream the alerts of the events before the first element that is no dictionary are
delivered, if their timestamps can be read. -/
theorem deliverEvents_of_readable (clock : Nat → Datetime) {elements : List Json}
    (readable : ∀ event ∈ wantedEvents library source elements, TimeReadable event)
    (delivered : List AlertEvent) :
    ((deliverEvents library source clock elements delivered).delivered).map withoutReceipt =
      delivered.map withoutReceipt ++
        (wantedEvents library source (elements.takeWhile isObject)).map
          (plainAlert library source) := by
  induction elements generalizing delivered with
  | nil => exact (List.append_nil _).symm
  | cons element rest inductionHypothesis =>
    cases element with
    | object event =>
      rw [wantedEvents_object] at readable
      rw [List.takeWhile_cons_of_pos rfl, wantedEvents_object, deliverEvents]
      by_cases wanted : isWanted library source event = true
      · rw [if_pos wanted] at readable ⊢
        rw [if_pos wanted]
        obtain ⟨alert, built, same⟩ := alertOfEvent_of_readable
          (readable event List.mem_cons_self) (clock delivered.length)
        rw [built]
        dsimp only
        rw [inductionHypothesis fun other member => readable other (List.mem_cons_of_mem _ member),
          List.map_append, List.map_singleton, same, List.map_cons, List.append_assoc,
          List.singleton_append]
      · rw [if_neg wanted] at readable ⊢
        rw [if_neg wanted]
        exact inductionHypothesis readable delivered
    | _ => exact (List.append_nil _).symm

/-! ### The two ways in -/

/-- The two ways in agree on a payload: a webhook returns the alerts of all events that are let
through, and a stream delivers the same ones, apart from when they are received. -/
def Agree (library : TextLibrary) (source : EventSource) (streamClock webhookClock : Nat → Datetime)
    (payload : LogEntry) (elements : List Json) : Prop :=
  ∃ alerts, parseWebhookEvent library source webhookClock payload = .ok alerts ∧
    alerts.map AlertEvent.raw = (wantedEvents library source elements).map some ∧
    ((processEventData library source streamClock (.object payload)).delivered).map
      withoutReceipt = alerts.map withoutReceipt

end Ingestion

/-- For every configuration and every payload with a list of events, the two ways in agree exactly
when the timestamps of all events that are let through can be read, and no event is let through
behind an element that is no dictionary. -/
theorem ingestion_agrees_iff (library : TextLibrary) (targetId : TargetId)
    (targetName targetBmc : Text) (eventTypes severities : Option (List Text))
    (streamClock webhookClock : Nat → Datetime) (payload : LogEntry) (elements : List Json)
    (listed : Json.getMember payload (Json.text "Events") = some (.array elements)) :
    let source := EventSource.ofConfig targetId targetName targetBmc eventTypes severities
    Agree library source streamClock webhookClock payload elements ↔
      (∀ event ∈ wantedEvents library source elements, TimeReadable event) ∧
        wantedEvents library source (elements.dropWhile isObject) = [] := by
  intro source
  have webhook : parseWebhookEvent library source webhookClock payload =
      parseEvents library source webhookClock elements [] := by
    rw [parseWebhookEvent, LogEntry.field, listed]
    rfl
  have stream : processEventData library source streamClock (.object payload) =
      deliverEvents library source streamClock elements [] := by
    rw [processEventData, listed]
    rfl
  rw [Agree, webhook, stream]
  have parts : wantedEvents library source elements =
      wantedEvents library source (elements.takeWhile isObject) ++
        wantedEvents library source (elements.dropWhile isObject) := by
    rw [← wantedEvents_append, List.takeWhile_append_dropWhile]
  constructor
  · rintro ⟨alerts, parsed, -, same⟩
    have readable := readable_of_parseEvents parsed
    refine ⟨readable, ?_⟩
    obtain ⟨added, again, plain⟩ := parseEvents_of_readable webhookClock readable []
    obtain rfl := Except.ok.inj (parsed.symm.trans again)
    rw [deliverEvents_of_readable streamClock readable, List.map_nil, List.nil_append,
      plain] at same
    have lengths := congrArg List.length same
    rw [List.length_map, List.length_map, parts, List.length_append] at lengths
    exact List.eq_nil_of_length_eq_zero (by omega)
  · rintro ⟨readable, none⟩
    obtain ⟨added, parsed, plain⟩ := parseEvents_of_readable webhookClock readable []
    refine ⟨added, parsed, ?_, ?_⟩
    · have raws := congrArg (List.map AlertEvent.raw) plain
      rwa [List.map_map, List.map_map] at raws
    · rw [deliverEvents_of_readable streamClock readable, plain, parts, none, List.append_nil]
      rfl

/-- Texts as they are, and case folding of the letters they consist of. -/
def plainLibrary : TextLibrary where
  str
    | .string chars => chars
    | _ => []
  casefold := casefold

/-- A subscriber with the default filters. -/
def sampleSource : EventSource :=
  EventSource.ofConfig 1 (Json.text "node") (Json.text "node") none none

/-- An event without a type or a timestamp. -/
def criticalEvent : LogEntry :=
  [(Json.text "MessageSeverity", .string (Json.text "Critical")),
    (Json.text "Message", .string (Json.text "Fan failed"))]

/-- A payload with some elements. -/
def eventPayload (elements : List Json) : LogEntry := [(Json.text "Events", .array elements)]

/-- A clock that stands still at the start of 1970, in UTC. -/
def stillClock : Nat → Datetime := fun _ =>
  { reading := Datetime.Reading.epoch, offset := some .utc }

theorem wantedEvents_critical :
    wantedEvents plainLibrary sampleSource [.object criticalEvent] = [criticalEvent] := rfl

theorem criticalEvent_agrees :
    Agree plainLibrary sampleSource stillClock stillClock (eventPayload [.object criticalEvent])
      [.object criticalEvent] := by
  refine (ingestion_agrees_iff plainLibrary 1 (Json.text "node") (Json.text "node") none none
    stillClock stillClock (eventPayload [.object criticalEvent]) [.object criticalEvent] rfl).mpr
    ⟨fun event member => ?_, rfl⟩
  have listed : event ∈ wantedEvents plainLibrary sampleSource [.object criticalEvent] := member
  rw [wantedEvents_critical, List.mem_singleton] at listed
  rw [listed]
  trivial

/-- Behind a text the same event is returned by a webhook and not delivered over a stream. -/
theorem textElement_disagrees :
    ¬ Agree plainLibrary sampleSource stillClock stillClock
      (eventPayload [.string (Json.text "x"), .object criticalEvent])
      [.string (Json.text "x"), .object criticalEvent] := by
  rintro ⟨alerts, -, raws, same⟩
  have nothing : alerts = [] := List.map_eq_nil_iff.mp same.symm
  have wanted : wantedEvents plainLibrary sampleSource
      [.string (Json.text "x"), .object criticalEvent] = [criticalEvent] := wantedEvents_critical
  rw [nothing, wanted] at raws
  cases raws

end Gyanam
