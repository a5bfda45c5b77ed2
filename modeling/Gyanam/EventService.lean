/-
This file says what webhook subscriptions rely on in a BMC, which is a parameter of
the model. Of a BMC we see how it serves a request, the subscriptions it has, the
URIs that subscriptions have had and the URI that a URL reaches. What is assumed
has names of its own: that questions about the subscriptions are answered, that
what is asked is carried out, that no more than that is changed, and that a URI is
not used again.

A BMC may give the URL of a new subscription as a path only. It is taken as it is,
and reaches nothing.
-/

import Gyanam.Alerts
import Gyanam.Lib.Table
import Gyanam.WebhookSubscriber

namespace Gyanam

open Json (Text)

/-! ### The service -/

/-- A subscription as a BMC keeps it. -/
structure EventDestination where
  context : Json
  destination : Json

/-- What is known of a BMC. Its subscriptions are filed under their URIs, in the order in which they
are listed, and a choice is what a request leaves to it. -/
structure EventService (State Choice : Type) where
  serve : Choice → State → BmcRequest → State × HttpOutcome
  subscriptions : State → Table Text EventDestination
  Issued : State → Text → Prop
  reached : Text → Option Text

/-- A response with an object. -/
def ShowsObject (outcome : HttpOutcome) (fields : List (Text × Json)) : Prop :=
  ∃ response, outcome = .response response ∧ response.statusCode = 200 ∧
    response.json = some (.object fields)

/-- A member of a collection is a link to a URI. -/
def IsLink (uri : Text) (member : Json) : Prop :=
  ∃ fields, member = .object fields ∧
    Json.getMember fields (Json.text "@odata.id") = some (.string uri)

namespace EventService

variable {State Choice : Type} (bmc : EventService State Choice)

/-- The subscription with a URI. -/
def get (state : State) (uri : Text) : Option EventDestination :=
  (bmc.subscriptions state).get uri

/-- Nothing is changed. -/
def Unchanged (before after : State) : Prop := ∀ uri, bmc.get after uri = bmc.get before uri

/-- A subscription is new, and nothing else is changed. -/
def Adds (before after : State) (uri : Text) (entry : EventDestination) : Prop :=
  bmc.get before uri = none ∧
    ∀ other, bmc.get after other = if other = uri then some entry else bmc.get before other

/-- A subscription is gone, and nothing else is changed. -/
def Removes (before after : State) (uri : Text) : Prop :=
  ∀ other, bmc.get after other = if other = uri then none else bmc.get before other

/-- An answer names a URI: with its Location, as far as that reaches anything, or without one with
the ID in its body. -/
def Names (response : HttpResponse) (data : List (Text × Json)) (uri : Text) : Prop :=
  match response.location with
  | some location => ∀ other, bmc.reached location = some other → other = uri
  | none => ∃ id, memberOrNull data "Id" = .string id ∧
      uri = subscriptionsPath ++ Json.text "/" ++ id

/-! ### What is relied on -/

variable (baseUrl : Text)

/-- Questions about the subscriptions are answered, and change nothing. All of them are in one
listing. -/
structure AnswersQuestions : Prop where
  reaches : ∀ uri, bmc.reached (baseUrl ++ uri) = some uri
  filled : ∀ state, [] ∉ (bmc.subscriptions state).keys
  unchanged : ∀ choice state url,
    bmc.Unchanged state (bmc.serve choice state (.get url)).1
  lists : ∀ choice state, ∃ fields members,
    ShowsObject (bmc.serve choice state (.get (baseUrl ++ subscriptionsPath))).2 fields ∧
      Json.getMember fields (Json.text "Members") = some (.array members) ∧
      List.Forall₂ IsLink (bmc.subscriptions state).keys members
  details : ∀ choice state uri entry, bmc.get state uri = some entry → ∃ fields,
    ShowsObject (bmc.serve choice state (.get (baseUrl ++ uri))).2 fields ∧
      memberOrNull fields "Context" = entry.context ∧
      memberOrNull fields "Destination" = entry.destination

/-- What is asked is carried out. A subscription is created as it is described, under a URI that
none has, and answered with its representation. -/
structure CarriesOut : Prop where
  creates : ∀ choice state fields, ∃ response data uri,
    let served := bmc.serve choice state (.post (baseUrl ++ subscriptionsPath) (.object fields))
    served.2 = .response response ∧ response.statusCode ∈ [200, 201] ∧
      response.json = some (.object data) ∧ bmc.Names response data uri ∧
      bmc.Adds state served.1 uri
        ⟨memberOrNull fields "Context", memberOrNull fields "Destination"⟩
  deletes : ∀ choice state uri entry, bmc.get state uri = some entry →
    bmc.Removes state (bmc.serve choice state (.delete (baseUrl ++ uri))).1 uri

/-- No more is changed than what is asked, whether it is carried out or not and whatever is
answered. Only what was created is said to be created, and of a subscription that is gone there are
no details. -/
structure ChangesOnlyAsked : Prop where
  nowhere : bmc.reached [] = none
  issued : ∀ state uri entry, bmc.get state uri = some entry → bmc.Issued state uri
  issues : ∀ choice state request uri, bmc.Issued state uri →
    bmc.Issued (bmc.serve choice state request).1 uri
  gone : ∀ choice state uri, bmc.Issued state uri → bmc.get state uri = none →
    ∃ response, (bmc.serve choice state (.get (baseUrl ++ uri))).2 = .response response ∧
      response.statusCode ≠ 200
  posts : ∀ choice state fields,
    let served := bmc.serve choice state (.post (baseUrl ++ subscriptionsPath) (.object fields))
    bmc.Unchanged state served.1 ∨ ∃ uri, bmc.Adds state served.1 uri
      ⟨memberOrNull fields "Context", memberOrNull fields "Destination"⟩
  created : ∀ choice state fields response,
    let served := bmc.serve choice state (.post (baseUrl ++ subscriptionsPath) (.object fields))
    served.2 = .response response → response.statusCode ∈ [200, 201] → ∃ uri,
      bmc.Adds state served.1 uri
        ⟨memberOrNull fields "Context", memberOrNull fields "Destination"⟩ ∧
      ∀ data, response.json = some (.object data) → bmc.Names response data uri
  deletes : ∀ choice state url,
    bmc.Unchanged state (bmc.serve choice state (.delete url)).1 ∨
      ∃ uri, bmc.reached url = some uri ∧
        bmc.Removes state (bmc.serve choice state (.delete url)).1 uri

/-- The URI of a subscription is not used for another one when it is gone. -/
def NeverReuses : Prop :=
  ∀ choice state request uri, bmc.Issued state uri → bmc.get state uri = none →
    bmc.get (bmc.serve choice state request).1 uri = none

variable {bmc baseUrl}

theorem Unchanged.trans {first second third : State} (before : bmc.Unchanged first second)
    (after : bmc.Unchanged second third) : bmc.Unchanged first third :=
  fun uri => (after uri).trans (before uri)

theorem Adds.get_self {before after : State} {uri : Text} {entry : EventDestination}
    (adds : bmc.Adds before after uri entry) : bmc.get after uri = some entry := by
  rw [adds.2, if_pos rfl]

/-- What is there after a creation is new, or was there. -/
theorem Adds.cases {before after : State} {uri other : Text} {entry found : EventDestination}
    (adds : bmc.Adds before after uri entry) (present : bmc.get after other = some found) :
    bmc.get before other = some found ∨ other = uri ∧ found = entry := by
  rw [adds.2] at present
  split at present
  · next same => exact .inr ⟨same, (Option.some.inj present).symm⟩
  · exact .inl present

/-- What was there is there after a creation. -/
theorem Adds.keeps {before after : State} {uri other : Text} {entry found : EventDestination}
    (adds : bmc.Adds before after uri entry) (present : bmc.get before other = some found) :
    bmc.get after other = some found := by
  rw [adds.2, if_neg]
  · exact present
  · rintro rfl
    cases adds.1.symm.trans present

theorem Removes.of_some {before after : State} {uri other : Text} {found : EventDestination}
    (removes : bmc.Removes before after uri) (present : bmc.get after other = some found) :
    bmc.get before other = some found := by
  rw [removes] at present
  split at present
  · cases present
  · exact present

/-- A Location with the base URL names a URI. -/
theorem names_of_location {response : HttpResponse} {data : List (Text × Json)} {uri : Text}
    (answers : bmc.AnswersQuestions baseUrl) (located : response.location = some (baseUrl ++ uri)) :
    bmc.Names response data uri := by
  unfold Names
  rw [located]
  intro other reached
  exact (Option.some.inj ((answers.reaches uri).symm.trans reached)).symm

/-- The URL that an answer gives reaches the subscription it names, or nothing. -/
theorem Names.eq_of_reached {response : HttpResponse} {data : List (Text × Json)}
    {printed : Json → Text} {uri other : Text} (names : bmc.Names response data uri)
    (answers : bmc.AnswersQuestions baseUrl)
    (reached : bmc.reached (response.location.getD (baseUrl ++ subscriptionsPath ++
      Json.text "/" ++ printedText printed (memberOrNull data "Id"))) = some other) :
    other = uri := by
  unfold Names at names
  cases location : response.location with
  | some url =>
    rw [location] at names reached
    exact names other reached
  | none =>
    rw [location] at names reached
    obtain ⟨id, named, rfl⟩ := names
    rw [named, Option.getD_none, List.append_assoc, List.append_assoc, answers.reaches] at reached
    rw [← Option.some.inj reached, List.append_assoc]
    rfl

end EventService

/-! ### What a subscriber reads and creates -/

namespace WebhookSubscriber

variable {subscriber : WebhookSubscriber}

/-- What a subscriber finds where details are shown. -/
theorem finding_of_showsObject {outcome : HttpOutcome} {fields : List (Text × Json)}
    {entry : EventDestination} (uri : Text) (shows : ShowsObject outcome fields)
    (context : memberOrNull fields "Context" = entry.context)
    (destination : memberOrNull fields "Destination" = entry.destination) :
    subscriber.finding (.string uri) outcome =
      if isText subscriber.context entry.context = true then
        if isText subscriber.webhookUrl entry.destination = true then .own uri else .orphan uri
      else .foreign := by
  obtain ⟨response, rfl, okay, body⟩ := shows
  unfold finding
  simp only [okay, body, ne_eq, not_true_eq_false, if_false, context, destination]

theorem finding_of_status {response : HttpResponse} (odata : Json)
    (status : response.statusCode ≠ 200) :
    subscriber.finding odata (.response response) = .foreign := if_pos status

/-- The subscription that we create. -/
def entry (subscriber : WebhookSubscriber) : EventDestination :=
  ⟨.string subscriber.context, .string subscriber.webhookUrl⟩

/-- The payload describes it. -/
theorem subscriptionPayload_entry (subscriber : WebhookSubscriber) :
    ∃ fields, subscriber.subscriptionPayload = .object fields ∧
      (⟨memberOrNull fields "Context", memberOrNull fields "Destination"⟩ : EventDestination) =
        subscriber.entry :=
  ⟨_, rfl, rfl⟩

/-- A member of a listing is asked for under its URI. -/
theorem link_read {uri : Text} {member : Json} (link : IsLink uri member) (filled : uri ≠ []) :
    ∃ fields, member = .object fields ∧ memberOrNull fields "@odata.id" = .string uri ∧
      (Json.string uri).truthy = true := by
  obtain ⟨fields, rfl, found⟩ := link
  refine ⟨fields, rfl, ?_, ?_⟩
  · rw [memberOrNull, found, Option.getD_some]
  · simp [Json.truthy, filled]

theorem collectionMembers_of_getMember {fields : List (Text × Json)} {members : List Json}
    (found : Json.getMember fields (Json.text "Members") = some (.array members)) :
    collectionMembers (some (.object fields)) = some members := by
  rw [collectionMembers, found, Option.getD_some]
  rfl

end WebhookSubscriber

/-! ### A BMC that numbers its subscriptions -/

/-- The URI of the subscription with some number. -/
def numberedUri (number : Nat) : Text :=
  subscriptionsPath ++ Json.text "/" ++ Strings.decimal number

/-- Subscriptions with numbers, each used once. -/
structure NumberedSubscriptions where
  table : Table Text EventDestination
  next : Nat
  numbered : ∀ uri ∈ table.keys, ∃ number < next, uri = numberedUri number

/-- A request to change something fails: it may still be carried out, and what the client sees does
not say that something was created. -/
structure WriteFault where
  carriedOut : Bool
  outcome : HttpOutcome
  notCreated : ∀ response, outcome = .response response → response.statusCode ∉ [200, 201]

/-- The URI behind a base URL. -/
def uriBehind (baseUrl url : Text) : Option Text :=
  if baseUrl.isPrefixOf url then some (url.drop baseUrl.length) else none

namespace NumberedSubscriptions

/-- No subscription. -/
def initial : NumberedSubscriptions where
  table := Table.empty
  next := 0
  numbered := nofun

/-- Create a subscription. -/
def add (state : NumberedSubscriptions) (entry : EventDestination) : NumberedSubscriptions where
  table := state.table.set (numberedUri state.next) entry
  next := state.next + 1
  numbered := by
    intro uri member
    obtain ⟨other, found⟩ := Table.mem_keys_iff.mp member
    rw [Table.get_set] at found
    split at found
    · next same => exact ⟨state.next, Nat.lt_succ_self _, same⟩
    · obtain ⟨number, earlier, named⟩ :=
        state.numbered uri (Table.mem_keys_iff.mpr ⟨other, found⟩)
      exact ⟨number, Nat.lt_succ_of_lt earlier, named⟩

/-- Delete a subscription. -/
def remove (state : NumberedSubscriptions) (uri : Text) : NumberedSubscriptions where
  table := state.table.remove uri
  next := state.next
  numbered := by
    intro other member
    obtain ⟨entry, found⟩ := Table.mem_keys_iff.mp member
    rw [Table.get_remove] at found
    split at found
    · cases found
    · exact state.numbered other (Table.mem_keys_iff.mpr ⟨entry, found⟩)

/-- The answer with a status and an object. -/
def objectResponse (statusCode : Nat) (fields : List (Text × Json)) : HttpOutcome :=
  .response { statusCode := statusCode, json := some (.object fields) }

/-- The listing of the collection. -/
def listing (state : NumberedSubscriptions) : List Json :=
  state.table.keys.map fun uri => .object [(Json.text "@odata.id", .string uri)]

/-- The answer to a creation. The Location is a URL with a base. -/
def createdResponse (baseUrl : Text) (number : Nat) : HttpOutcome := .response {
  statusCode := 201
  location := some (baseUrl ++ numberedUri number)
  json := some (.object [(Json.text "Id", .string (Strings.decimal number))]) }

/-- Change something, or fail with a fault. -/
def change (fault : Option WriteFault) (state changed : NumberedSubscriptions)
    (answer : HttpOutcome) : NumberedSubscriptions × HttpOutcome :=
  match fault with
  | none => (changed, answer)
  | some fault => (if fault.carriedOut then changed else state, fault.outcome)

/-- Serve a request. -/
def serve (baseUrl : Text) (fault : Option WriteFault) (state : NumberedSubscriptions) :
    BmcRequest → NumberedSubscriptions × HttpOutcome
  | .get url =>
    if url = baseUrl ++ subscriptionsPath then
      (state, objectResponse 200 [(Json.text "Members", .array state.listing)])
    else
      match (uriBehind baseUrl url).bind state.table.get with
      | some entry => (state, objectResponse 200 [
          (Json.text "Context", entry.context),
          (Json.text "Destination", entry.destination)])
      | none => (state, .response { statusCode := 404 })
  | .post url (.object fields) =>
    if url = baseUrl ++ subscriptionsPath then
      change fault state
        (state.add ⟨memberOrNull fields "Context", memberOrNull fields "Destination"⟩)
        (createdResponse baseUrl state.next)
    else (state, .response { statusCode := 404 })
  | .post _ _ => (state, .response { statusCode := 400 })
  | .delete url =>
    match (uriBehind baseUrl url).filter fun uri => (state.table.get uri).isSome with
    | some uri => change fault state (state.remove uri) (.response { statusCode := 204 })
    | none => (state, .response { statusCode := 404 })

/-- The BMC at a base URL. -/
def service (baseUrl : Text) : EventService NumberedSubscriptions (Option WriteFault) where
  serve := serve baseUrl
  subscriptions := table
  Issued state uri := ∃ number < state.next, uri = numberedUri number
  reached := uriBehind baseUrl

/-- The BMC without faults. -/
def faultless (baseUrl : Text) : EventService NumberedSubscriptions Unit :=
  { service baseUrl with serve := fun _ => serve baseUrl none }

/-! ### It behaves as it is relied on -/

theorem uriBehind_append (baseUrl uri : Text) : uriBehind baseUrl (baseUrl ++ uri) = some uri := by
  unfold uriBehind
  rw [if_pos (List.isPrefixOf_iff_prefix.mpr (List.prefix_append ..)), List.drop_left]

theorem uriBehind_eq_some {baseUrl url uri : Text} (behind : uriBehind baseUrl url = some uri) :
    url = baseUrl ++ uri := by
  unfold uriBehind at behind
  split at behind
  · next front =>
    obtain ⟨rest, rfl⟩ := List.isPrefixOf_iff_prefix.mp front
    rw [← Option.some.inj behind, List.drop_left]
  · cases behind

theorem numberedUri_inj {first second : Nat} (same : numberedUri first = numberedUri second) :
    first = second := by
  have decimals := List.append_cancel_left same
  exact Int.ofNat.inj
    (decimal_inj (List.map_injective_iff.mpr Strings.point_toNat_injective decimals))

theorem numberedUri_ne_path (number : Nat) : numberedUri number ≠ subscriptionsPath := by
  intro same
  have lengths := congrArg List.length same
  simp [numberedUri, Json.text] at lengths

/-- What there is has a URI of its own kind. -/
theorem ne_path_of_get {state : NumberedSubscriptions} {uri : Text} {entry : EventDestination}
    (found : state.table.get uri = some entry) : uri ≠ subscriptionsPath := by
  obtain ⟨number, _, rfl⟩ := state.numbered uri (Table.mem_keys_iff.mpr ⟨entry, found⟩)
  exact numberedUri_ne_path number

/-- The answer to a question about a URI that is not the collection. -/
theorem serve_get (baseUrl : Text) {uri : Text} (fault : Option WriteFault)
    (state : NumberedSubscriptions) (different : uri ≠ subscriptionsPath) :
    serve baseUrl fault state (.get (baseUrl ++ uri)) =
      match state.table.get uri with
      | some entry => (state, objectResponse 200 [
          (Json.text "Context", entry.context),
          (Json.text "Destination", entry.destination)])
      | none => (state, .response { statusCode := 404 }) := by
  unfold serve
  dsimp only
  rw [if_neg (different ∘ List.append_cancel_left), uriBehind_append, Option.bind_some]

theorem answersQuestions (baseUrl : Text) : (service baseUrl).AnswersQuestions baseUrl where
  reaches := uriBehind_append baseUrl
  filled state member := by
    obtain ⟨number, _, same⟩ := state.numbered [] member
    exact absurd (List.append_eq_nil_iff.mp (List.append_eq_nil_iff.mp same.symm).1).1 (by decide)
  unchanged fault state url uri := by
    have same : (serve baseUrl fault state (.get url)).1 = state := by
      unfold serve
      dsimp only
      split
      · rfl
      · split <;> rfl
    show (serve baseUrl fault state (.get url)).1.table.get uri = state.table.get uri
    rw [same]
  lists fault state := by
    refine ⟨_, state.listing, ⟨_, congrArg Prod.snd (if_pos rfl), rfl, rfl⟩, rfl, ?_⟩
    rw [listing, List.forall₂_map_right_iff]
    exact List.forall₂_same.mpr fun uri _ => ⟨_, rfl, rfl⟩
  details fault state uri entry found := by
    have answer := serve_get baseUrl fault state (ne_path_of_get found)
    rw [show state.table.get uri = some entry from found] at answer
    exact ⟨_, ⟨_, congrArg Prod.snd answer, rfl, rfl⟩, rfl, rfl⟩

/-- A change is made or not. -/
theorem change_cases (fault : Option WriteFault) (state changed : NumberedSubscriptions)
    (answer : HttpOutcome) :
    (change fault state changed answer).1 = state ∨
      (change fault state changed answer).1 = changed := by
  cases fault with
  | none => exact .inr rfl
  | some fault =>
    unfold change
    dsimp only
    split
    · exact .inr rfl
    · exact .inl rfl

theorem serve_post (baseUrl : Text) (fault : Option WriteFault) (state : NumberedSubscriptions)
    (fields : List (Text × Json)) :
    serve baseUrl fault state (.post (baseUrl ++ subscriptionsPath) (.object fields)) =
      change fault state
        (state.add ⟨memberOrNull fields "Context", memberOrNull fields "Destination"⟩)
        (createdResponse baseUrl state.next) := if_pos rfl

/-- A creation finds its URI free. -/
theorem adds_add (baseUrl : Text) (state : NumberedSubscriptions) (entry : EventDestination) :
    (service baseUrl).Adds state (state.add entry) (numberedUri state.next) entry := by
  refine ⟨Table.get_eq_none_iff.mpr fun member => ?_, fun other => Table.get_set ..⟩
  obtain ⟨number, earlier, same⟩ := state.numbered _ member
  have numbers := numberedUri_inj same
  omega

/-- Numbers are used in their order. -/
theorem next_le_serve (baseUrl : Text) (fault : Option WriteFault) (state : NumberedSubscriptions)
    (request : BmcRequest) : state.next ≤ (serve baseUrl fault state request).1.next := by
  have changed {after : NumberedSubscriptions} (answer : HttpOutcome)
      (later : state.next ≤ after.next) :
        state.next ≤ (change fault state after answer).1.next := by
    rcases change_cases fault state after answer with same | same
    · rw [same]
    · rwa [same]
  unfold serve
  split
  · split
    · exact le_refl _
    · split <;> exact le_refl _
  · split
    · exact changed _ (Nat.le_succ _)
    · exact le_refl _
  · exact le_refl _
  · split
    · exact changed _ (le_refl _)
    · exact le_refl _

theorem changesOnlyAsked {baseUrl : Text} (filled : baseUrl ≠ []) :
    (service baseUrl).ChangesOnlyAsked baseUrl where
  nowhere := by
    cases behind : uriBehind baseUrl [] with
    | none => exact behind
    | some uri => exact absurd (List.append_eq_nil_iff.mp (uriBehind_eq_some behind).symm).1 filled
  issued state uri entry found := state.numbered uri (Table.mem_keys_iff.mpr ⟨entry, found⟩)
  issues fault state request uri issued := by
    obtain ⟨number, earlier, rfl⟩ := issued
    exact ⟨number, Nat.lt_of_lt_of_le earlier (next_le_serve baseUrl fault state request), rfl⟩
  gone fault state uri issued absent := by
    obtain ⟨number, _, rfl⟩ := issued
    have answer := serve_get baseUrl fault state (numberedUri_ne_path number)
    rw [show state.table.get (numberedUri number) = none from absent] at answer
    exact ⟨_, congrArg Prod.snd answer, by simp⟩
  posts fault state fields := by
    have served := serve_post baseUrl fault state fields
    have adds := adds_add baseUrl state
      ⟨memberOrNull fields "Context", memberOrNull fields "Destination"⟩
    show (service baseUrl).Unchanged state (serve baseUrl fault state _).1 ∨
      ∃ uri, (service baseUrl).Adds state (serve baseUrl fault state _).1 uri _
    rw [served]
    rcases change_cases fault state (state.add _) (createdResponse baseUrl state.next) with
      same | same
    · rw [same]
      exact .inl fun uri => rfl
    · rw [same]
      exact .inr ⟨_, adds⟩
  created fault state fields response := by
    have served := serve_post baseUrl fault state fields
    have adds := adds_add baseUrl state
      ⟨memberOrNull fields "Context", memberOrNull fields "Destination"⟩
    show (serve baseUrl fault state _).2 = _ → _ → ∃ uri,
      (service baseUrl).Adds state (serve baseUrl fault state _).1 uri _ ∧ _
    rw [served]
    intro answer okay
    cases fault with
    | none =>
      obtain rfl := HttpOutcome.response.inj answer
      exact ⟨_, adds, fun data _ => EventService.names_of_location (answersQuestions baseUrl) rfl⟩
    | some fault => exact absurd okay (fault.notCreated response answer)
  deletes fault state url := by
    show (service baseUrl).Unchanged state (serve baseUrl fault state (.delete url)).1 ∨
      ∃ uri, uriBehind baseUrl url = some uri ∧
        (service baseUrl).Removes state (serve baseUrl fault state (.delete url)).1 uri
    unfold serve
    dsimp only
    split
    · next uri found =>
      have behind := (Option.filter_eq_some_iff.mp found).1
      rcases change_cases fault state (state.remove uri) (.response { statusCode := 204 }) with
        same | same
      · rw [same]
        exact .inl fun uri => rfl
      · rw [same]
        exact .inr ⟨uri, behind, fun other => Table.get_remove ..⟩
    · exact .inl fun uri => rfl

/-- What a request adds has a new number. -/
theorem neverReuses (baseUrl : Text) : (service baseUrl).NeverReuses := by
  rintro fault state request uri ⟨number, earlier, rfl⟩ absent
  have different : numberedUri number ≠ numberedUri state.next := by
    intro same
    have numbers := numberedUri_inj same
    omega
  have changed {after : NumberedSubscriptions} (answer : HttpOutcome)
      (stays : after.table.get (numberedUri number) = none) :
      (change fault state after answer).1.table.get (numberedUri number) = none := by
    rcases change_cases fault state after answer with same | same
    · rw [same]
      exact absent
    · rwa [same]
  show (serve baseUrl fault state request).1.table.get (numberedUri number) = none
  unfold serve
  split
  · split
    · exact absent
    · split <;> exact absent
  · split
    · refine changed _ ?_
      show (state.table.set _ _).get _ = none
      rw [Table.get_set, if_neg different]
      exact absent
    · exact absent
  · exact absent
  · split
    · refine changed _ ?_
      show (state.table.remove _).get _ = none
      rw [Table.get_remove]
      split
      · rfl
      · exact absent
    · exact absent

theorem faultless_answersQuestions (baseUrl : Text) :
    (faultless baseUrl).AnswersQuestions baseUrl where
  reaches := (answersQuestions baseUrl).reaches
  filled := (answersQuestions baseUrl).filled
  unchanged _ := (answersQuestions baseUrl).unchanged none
  lists _ := (answersQuestions baseUrl).lists none
  details _ := (answersQuestions baseUrl).details none

theorem faultless_carriesOut (baseUrl : Text) : (faultless baseUrl).CarriesOut baseUrl where
  creates _ state fields := by
    refine ⟨_, _, numberedUri state.next, congrArg Prod.snd (serve_post baseUrl none state fields),
      by simp, rfl, EventService.names_of_location (faultless_answersQuestions baseUrl) rfl, ?_⟩
    have served := congrArg Prod.fst (serve_post baseUrl none state fields)
    show (service baseUrl).Adds state (serve baseUrl none state _).1 _ _
    rw [served]
    exact adds_add baseUrl state _
  deletes _ state uri entry found := by
    show (service baseUrl).Removes state (serve baseUrl none state _).1 uri
    have present : state.table.get uri = some entry := found
    unfold serve
    dsimp only
    rw [uriBehind_append, Option.filter_some, present, Option.isSome_some, if_pos rfl]
    exact fun other => Table.get_remove ..

end NumberedSubscriptions

end Gyanam
