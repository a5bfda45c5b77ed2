/-
This file proves what the start of a webhook subscription asks of a BMC, whatever
the BMC answers. A subscription is deleted only if its details were read just
before, carry the tag of the target and point elsewhere. At most one
subscription is created, after all deletions, and with the tag and the
destination of the subscriber. None is created where one was adopted, and where
the answers can be read none is created beside one that was seen to be ours.

The last part needs its condition. An answer that cannot be read ends the
reconciliation, and what it has adopted by then is not returned as adopted.
-/

import Gyanam.WebhookSubscriber

namespace Gyanam

open Json (Text)
open Dialogue (Speaks speaks_done speaks_ask speaks_bind speaks_map)

/-- A request to a BMC with its answer. -/
abbrev BmcExchange := BmcRequest × HttpOutcome

/-- Does a request create a subscription? -/
def BmcRequest.isPost : BmcRequest → Bool
  | .post _ _ => true
  | _ => false

/-- The details of a subscription in an answer, if it has some. -/
def detailsOf : HttpOutcome → Option (List (Text × Json))
  | .response detail =>
    if detail.statusCode = 200 then detail.json.bind objectMembers else none
  | _ => none

namespace WebhookSubscriber

variable (printed : Json → Text) (subscriber : WebhookSubscriber)

/-! ### What is read in an answer -/

/-- The details carry the tag of the target. -/
def IsTagged (outcome : HttpOutcome) : Prop :=
  ∃ data, detailsOf outcome = some data ∧
    isText subscriber.context (memberOrNull data "Context") = true

/-- The subscription points here. -/
def PointsHere (outcome : HttpOutcome) : Prop :=
  ∃ data, detailsOf outcome = some data ∧
    isText subscriber.webhookUrl (memberOrNull data "Destination") = true

/-- Details were asked for, and are those of a subscription of ours. -/
def ShowsOurs (exchange : BmcExchange) : Prop :=
  (∃ url, exchange.1 = .get url) ∧
    subscriber.IsTagged exchange.2 ∧ subscriber.PointsHere exchange.2

/-- A member of the collection is an object, and its URI a text if it has one. -/
def IsListed (member : Json) : Prop :=
  ∃ fields, member = .object fields ∧
    ((memberOrNull fields "@odata.id").truthy = true →
      ∃ uri, memberOrNull fields "@odata.id" = .string uri)

/-- An answer is a response, with an object where details are given. -/
def IsReadable (outcome : HttpOutcome) : Prop :=
  ∃ detail, outcome = .response detail ∧
    (detail.statusCode = 200 → ∃ data, detail.json = some (.object data))

/-- The listing that was asked for first can be gone through, and all answers behind it can be
read. -/
def IsLegible (said : List BmcExchange) : Prop :=
  (∀ request response members, said.head? = some (request, .response response) →
      collectionMembers response.json = some members → ∀ member ∈ members, IsListed member) ∧
    ∀ exchange ∈ said.tail, (∃ url, exchange.1 = .get url) → IsReadable exchange.2

/-! ### What may be asked -/

/-- What a start may ask after what was said. -/
def MayAsk (said : List BmcExchange) : BmcRequest → Prop
  | .get _ => True
  | .delete url =>
    (∀ exchange ∈ said, exchange.1.isPost = false) ∧
      ∃ outcome, said.getLast? = some (.get url, outcome) ∧
        subscriber.IsTagged outcome ∧ ¬ subscriber.PointsHere outcome
  | .post url body =>
    url = subscriber.collectionUrl ∧ body = subscriber.subscriptionPayload ∧
      (∀ exchange ∈ said, exchange.1.isPost = false) ∧
      (IsLegible said → ∀ exchange ∈ said.tail, ¬ subscriber.ShowsOurs exchange)

/-- What was said when a start comes to its end. -/
def StartSaid (value : WebhookHandle × WebhookStart) (said : List BmcExchange) : Prop :=
  match value.2 with
  | .adopted =>
    (∀ exchange ∈ said, exchange.1.isPost = false) ∧
      ∃ uri outcome, (.get (subscriber.baseUrl ++ uri), outcome) ∈ said.tail ∧
        subscriber.ShowsOurs (.get (subscriber.baseUrl ++ uri), outcome) ∧
        value.1 = subscriber.handleOf uri
  | .created _ => (said.filter fun exchange => exchange.1.isPost).length = 1

variable {printed subscriber}

/-! ### The readings of a reconciliation -/

/-- Details without an object cannot be read. -/
theorem not_isReadable {detail : HttpResponse} (okay : detail.statusCode = 200)
    (object : ∀ data, detail.json ≠ some (.object data)) : ¬ IsReadable (.response detail) := by
  rintro ⟨_, same, reads⟩
  obtain rfl := HttpOutcome.response.inj same
  obtain ⟨data, body⟩ := reads okay
  exact object data body

/-- What each finding tells of the answer. -/
theorem finding_spec (odata : Json) (outcome : HttpOutcome) :
    match subscriber.finding odata outcome with
    | .foreign => ¬ subscriber.IsTagged outcome
    | .own uri =>
      odata = .string uri ∧ subscriber.IsTagged outcome ∧ subscriber.PointsHere outcome
    | .orphan uri =>
      odata = .string uri ∧ subscriber.IsTagged outcome ∧ ¬ subscriber.PointsHere outcome
    | .raises => ¬ IsReadable outcome ∨ ∀ uri, odata ≠ .string uri := by
  cases outcome with
  | requestError isTimeout message =>
    refine .inl ?_
    rintro ⟨_, same, _⟩
    cases same
  | otherError message =>
    refine .inl ?_
    rintro ⟨_, same, _⟩
    cases same
  | response detail =>
    by_cases okay : detail.statusCode = 200
    · cases body : detail.json with
      | none =>
        simp only [finding, okay, body, ne_eq, not_true_eq_false, if_false]
        exact .inl (not_isReadable okay fun data => by simp [body])
      | some value =>
        cases value with
        | object data =>
          have details : detailsOf (.response detail) = some data := by
            simp [detailsOf, okay, body, objectMembers]
          simp only [finding, okay, body, ne_eq, not_true_eq_false, if_false]
          by_cases tagged : isText subscriber.context (memberOrNull data "Context") = true
          · rw [if_pos tagged]
            have isTagged : subscriber.IsTagged (.response detail) := ⟨data, details, tagged⟩
            cases odata with
            | string uri =>
              by_cases here :
                  isText subscriber.webhookUrl (memberOrNull data "Destination") = true
              · simp only [here, if_true]
                exact ⟨trivial, isTagged, data, details, here⟩
              · simp only [here, if_false, Bool.false_eq_true]
                refine ⟨trivial, isTagged, ?_⟩
                rintro ⟨data', details', pointing⟩
                refine here ?_
                rwa [Option.some.inj (details.symm.trans details')]
            | _ =>
              refine .inr fun uri same => ?_
              cases same
          · rw [if_neg tagged]
            rintro ⟨data', details', tag⟩
            exact tagged (by rwa [Option.some.inj (details.symm.trans details')])
        | _ =>
          simp only [finding, okay, body, ne_eq, not_true_eq_false, if_false]
          exact .inl (not_isReadable okay fun data => by simp [body])
    · simp only [finding, okay, ne_eq, not_false_eq_true, if_true]
      rintro ⟨data, details, _⟩
      simp [detailsOf, okay] at details

/-! ### The reconciliation -/

/-- What was said up to some point of a reconciliation. -/
structure Scanned (subscriber : WebhookSubscriber) (handle : WebhookHandle) (adopted : Bool)
    (said : List BmcExchange) : Prop where
  filled : said ≠ []
  posts : ∀ exchange ∈ said, exchange.1.isPost = false
  adopts : adopted = true → ∃ uri outcome,
    (.get (subscriber.baseUrl ++ uri), outcome) ∈ said.tail ∧
      subscriber.ShowsOurs (.get (subscriber.baseUrl ++ uri), outcome) ∧
      handle = subscriber.handleOf uri
  fresh : adopted = false → IsLegible said →
    ∀ exchange ∈ said.tail, ¬ subscriber.ShowsOurs exchange

/-- The members that are left are members of the listing. -/
def Remaining (said : List BmcExchange) (rest : List Json) : Prop :=
  ∃ request response members, said.head? = some (request, .response response) ∧
    collectionMembers response.json = some members ∧ ∀ member ∈ rest, member ∈ members

theorem Remaining.next {said : List BmcExchange} {member : Json} {rest : List Json}
    (remaining : Remaining said (member :: rest)) : Remaining said rest := by
  obtain ⟨request, response, members, first, listing, among⟩ := remaining
  exact ⟨request, response, members, first, listing,
    fun other later => among other (List.mem_cons_of_mem _ later)⟩

theorem Remaining.add {said : List BmcExchange} {rest : List Json}
    (remaining : Remaining said rest) (more : List BmcExchange) :
    Remaining (said ++ more) rest := by
  obtain ⟨request, response, members, first, listing, among⟩ := remaining
  refine ⟨request, response, members, ?_, listing, among⟩
  rw [List.head?_append, first, Option.some_or]

theorem Remaining.isListed {said : List BmcExchange} {member : Json} {rest : List Json}
    (remaining : Remaining said (member :: rest)) (legible : IsLegible said) :
    IsListed member := by
  obtain ⟨request, response, members, first, listing, among⟩ := remaining
  exact legible.1 request response members first listing member (among member List.mem_cons_self)

theorem IsLegible.before {said : List BmcExchange} {exchange : BmcExchange} (filled : said ≠ [])
    (legible : IsLegible (said ++ [exchange])) : IsLegible said := by
  obtain ⟨first, rest, rfl⟩ := List.exists_cons_of_ne_nil filled
  refine ⟨legible.1, fun other later => legible.2 other ?_⟩
  exact List.mem_append_left _ later

theorem IsLegible.last {said : List BmcExchange} {url : Text} {outcome : HttpOutcome}
    (filled : said ≠ []) (legible : IsLegible (said ++ [(.get url, outcome)])) :
    IsReadable outcome := by
  obtain ⟨first, rest, rfl⟩ := List.exists_cons_of_ne_nil filled
  exact legible.2 (.get url, outcome) (List.mem_append_right _ List.mem_cons_self) ⟨url, rfl⟩

theorem mem_tail_append {said : List BmcExchange} (filled : said ≠ [])
    {exchange other : BmcExchange} :
    other ∈ (said ++ [exchange]).tail ↔ other ∈ said.tail ∨ other = exchange := by
  obtain ⟨first, rest, rfl⟩ := List.exists_cons_of_ne_nil filled
  simp

theorem not_isPost_append {said : List BmcExchange} {exchange : BmcExchange}
    (posts : ∀ other ∈ said, other.1.isPost = false) (plain : exchange.1.isPost = false) :
    ∀ other ∈ said ++ [exchange], other.1.isPost = false := by
  intro other member
  rcases List.mem_append.mp member with earlier | last
  · exact posts other earlier
  · rwa [List.mem_singleton.mp last]

/-- One more exchange that shows no subscription of ours. -/
theorem Scanned.add {handle : WebhookHandle} {adopted : Bool} {said : List BmcExchange}
    {exchange : BmcExchange} (scanned : Scanned subscriber handle adopted said)
    (plain : exchange.1.isPost = false)
    (other : adopted = false → ¬ subscriber.ShowsOurs exchange) :
    Scanned subscriber handle adopted (said ++ [exchange]) where
  filled := by simp
  posts := not_isPost_append scanned.posts plain
  adopts := by
    intro adopts
    obtain ⟨uri, outcome, member, shows, found⟩ := scanned.adopts adopts
    exact ⟨uri, outcome, (mem_tail_append scanned.filled).mpr (.inl member), shows, found⟩
  fresh := by
    intro fresh legible shown member
    rcases (mem_tail_append scanned.filled).mp member with earlier | rfl
    · exact scanned.fresh fresh (legible.before scanned.filled) shown earlier
    · exact other fresh

/-- After an answer that cannot be read nothing counts as adopted. -/
theorem scanned_of_illegible {said : List BmcExchange} (handle : WebhookHandle)
    (filled : said ≠ []) (posts : ∀ exchange ∈ said, exchange.1.isPost = false)
    (illegible : ¬ IsLegible said) : Scanned subscriber handle false said where
  filled := filled
  posts := posts
  adopts := nofun
  fresh := fun _ legible => absurd legible illegible

theorem speaks_reconcileMembers {members : List Json} {handle : WebhookHandle} {adopted : Bool}
    {said : List BmcExchange} (scanned : Scanned subscriber handle adopted said)
    (remaining : Remaining said members) :
    Speaks subscriber.MayAsk (fun value => Scanned subscriber value.1 value.2)
      (subscriber.reconcileMembers printed handle adopted members) said := by
  induction members generalizing handle adopted said with
  | nil => exact speaks_done scanned
  | cons member rest inductionHypothesis =>
    cases member with
    | object fields =>
      unfold reconcileMembers
      dsimp only
      split
      · next truthy =>
        refine speaks_ask trivial fun outcome => ?_
        have spec := subscriber.finding_spec (memberOrNull fields "@odata.id") outcome
        have left := remaining.next.add [(.get (subscriber.baseUrl ++
          printedText printed (memberOrNull fields "@odata.id")), outcome)]
        cases found : subscriber.finding (memberOrNull fields "@odata.id") outcome with
        | foreign =>
          rw [found] at spec
          exact inductionHypothesis (scanned.add rfl fun _ shows => spec shows.2.1) left
        | own uri =>
          rw [found] at spec
          obtain ⟨text, tagged, here⟩ := spec
          rw [text] at left ⊢
          cases adopted with
          | true => exact inductionHypothesis (scanned.add rfl nofun) left
          | false =>
            have found : Scanned subscriber (subscriber.handleOf uri) true
                (said ++ [(.get (subscriber.baseUrl ++ uri), outcome)]) := {
              filled := by simp
              posts := not_isPost_append scanned.posts rfl
              adopts := fun _ => ⟨uri, outcome, (mem_tail_append scanned.filled).mpr (.inr rfl),
                ⟨⟨_, rfl⟩, tagged, here⟩, rfl⟩
              fresh := nofun }
            exact inductionHypothesis found left
        | orphan uri =>
          rw [found] at spec
          obtain ⟨text, tagged, elsewhere⟩ := spec
          rw [text] at left ⊢
          have shown : Scanned subscriber handle adopted
              (said ++ [(.get (subscriber.baseUrl ++ uri), outcome)]) :=
            scanned.add rfl fun _ shows => elsewhere shows.2.2
          refine speaks_ask ⟨shown.posts, outcome, List.getLast?_concat .., tagged, elsewhere⟩
            fun deleted => ?_
          refine inductionHypothesis (shown.add rfl fun _ shows => ?_) (left.add _)
          obtain ⟨⟨_, request⟩, _⟩ := shows
          cases request
        | raises =>
          rw [found] at spec
          refine speaks_done (scanned_of_illegible _ (by simp)
            (not_isPost_append scanned.posts rfl) fun legible => ?_)
          rcases spec with unreadable | untextual
          · exact unreadable (legible.last scanned.filled)
          · obtain ⟨fields', object, textual⟩ :=
              remaining.isListed (legible.before scanned.filled)
            obtain rfl := Json.object.inj object
            obtain ⟨uri, text⟩ := textual truthy
            exact untextual uri text
      · exact inductionHypothesis scanned remaining.next
    | _ =>
      refine speaks_done (scanned_of_illegible _ scanned.filled scanned.posts fun legible => ?_)
      obtain ⟨fields, object, _⟩ := remaining.isListed legible
      cases object

theorem speaks_reconcileByContext :
    Speaks subscriber.MayAsk (fun value => Scanned subscriber value.1 value.2)
      (subscriber.reconcileByContext printed) [] := by
  refine speaks_ask trivial fun outcome => ?_
  -- Nothing but the listing was asked for so far.
  have first (adopted : Bool) (nothing : adopted = false) :
      Scanned subscriber {} adopted [(.get subscriber.collectionUrl, outcome)] := {
    filled := by simp
    posts := by simp [BmcRequest.isPost]
    adopts := fun adopts => by simp [nothing] at adopts
    fresh := by simp }
  cases outcome with
  | requestError isTimeout message => exact speaks_done (first false rfl)
  | otherError message => exact speaks_done (first false rfl)
  | response response =>
    dsimp only
    split
    · exact speaks_done (first false rfl)
    · split
      · next members listing =>
        exact speaks_reconcileMembers (first false rfl)
          ⟨_, response, members, rfl, listing, fun _ member => member⟩
      · exact speaks_done (first false rfl)

/-! ### The creation -/

/-- A subscription was created, and only one. -/
def Created (said : List BmcExchange) : Prop :=
  (said.filter fun exchange => exchange.1.isPost).length = 1

theorem Created.add {said : List BmcExchange} (created : Created said) (url : Text)
    (outcome : HttpOutcome) : Created (said ++ [(.get url, outcome)]) := by
  unfold Created
  rw [List.filter_append, List.length_append, created]
  rfl

theorem speaks_findMembers {members : List Json} {handle : WebhookHandle}
    {said : List BmcExchange} (created : Created said) :
    Speaks subscriber.MayAsk (fun _ => Created) (subscriber.findMembers printed handle members)
      said := by
  induction members generalizing said with
  | nil => exact speaks_done created
  | cons member rest inductionHypothesis =>
    cases member with
    | object fields =>
      unfold findMembers
      split
      · refine speaks_ask trivial fun outcome => ?_
        have added := created.add (subscriber.baseUrl ++
          printedText printed (memberOrNull fields "@odata.id")) outcome
        cases outcome with
        | requestError isTimeout message => exact speaks_done added
        | otherError message => exact speaks_done added
        | response detail =>
          dsimp only
          split
          · exact inductionHypothesis added
          · split
            · split
              · exact speaks_done added
              · exact inductionHypothesis added
            · exact speaks_done added
      · exact speaks_done created
    | _ => exact speaks_done created

theorem speaks_findExistingSubscription {handle : WebhookHandle} {said : List BmcExchange}
    (created : Created said) :
    Speaks subscriber.MayAsk (fun _ => Created)
      (subscriber.findExistingSubscription printed handle) said := by
  refine speaks_ask trivial fun outcome => ?_
  have added := created.add subscriber.collectionUrl outcome
  cases outcome with
  | requestError isTimeout message => exact speaks_done added
  | otherError message => exact speaks_done added
  | response response =>
    dsimp only
    split
    · exact speaks_done added
    · split
      · exact speaks_findMembers added
      · exact speaks_done added

theorem speaks_createSubscription {handle : WebhookHandle} {said : List BmcExchange}
    (scanned : Scanned subscriber handle false said) :
    Speaks subscriber.MayAsk (fun _ => Created) (subscriber.createSubscription printed handle)
      said := by
  refine speaks_ask ⟨rfl, rfl, scanned.posts, scanned.fresh rfl⟩ fun outcome => ?_
  have created : Created (said ++
      [(.post subscriber.collectionUrl subscriber.subscriptionPayload, outcome)]) := by
    have none : said.filter (fun exchange => exchange.1.isPost) = [] := by
      rw [List.filter_eq_nil_iff]
      exact fun exchange member => by simp [scanned.posts exchange member]
    unfold Created
    rw [List.filter_append, none]
    rfl
  cases outcome with
  | requestError isTimeout message => exact speaks_done created
  | otherError message => exact speaks_done created
  | response response =>
    dsimp only
    split
    · split <;> exact speaks_done created
    · split
      · exact speaks_map (speaks_findExistingSubscription created)
      · split
        · exact speaks_done created
        · split <;> exact speaks_done created

/-! ### The start -/

theorem speaks_startSubscription :
    Speaks subscriber.MayAsk subscriber.StartSaid (subscriber.startSubscription printed) [] := by
  refine speaks_bind (speaks_reconcileByContext.imp fun value said scanned => ?_)
  obtain ⟨handle, adopted⟩ := value
  cases adopted with
  | true => exact speaks_done ⟨scanned.posts, scanned.adopts rfl⟩
  | false => exact speaks_map (speaks_createSubscription scanned)

/-- Whatever a BMC answers, each request of a start is one that it may make, and a start that adopts
a subscription creates none, while any other creates one. -/
theorem startSubscription_asks (printed : Json → Text) (subscriber : WebhookSubscriber)
    (answers : Nat → HttpOutcome) :
    let start := (subscriber.startSubscription printed).transcript answers
    Dialogue.Proper subscriber.MayAsk start.1 ∧ subscriber.StartSaid start.2 start.1 :=
  speaks_startSubscription.transcript answers

end WebhookSubscriber

end Gyanam
