/-
This file proves the protocol by which collectors keep their webhook
subscriptions at a BMC. Several collectors share it, and their requests are
answered in any order, so what a collector has listed may be gone or joined by
others when it asks for the details. Requests that change something may fail.

Under all of this no subscription is ever doubled: of one target and one
destination there is at most one, since a collector creates its own only when
none was there in the whole of its scan, and nobody else can create it. And no
subscription is deleted that is not a collector's to delete. Where the BMC does
not use a URI again, a collector also never holds on to that of another one.
-/

import Gyanam.EventService
import Gyanam.Lib.SignedToken

namespace Gyanam

open Json (Text)
open Dialogue (Ensures ensures_ask ensures_bind ensures_map Protocol teamwork)
open Relation (ReflTransGen)

/-! ### What collectors do to the service -/

namespace WebhookSubscriber

variable {State Choice : Type} (bmc : EventService State Choice) (known : EventDestination → Prop)
  (subscriber : WebhookSubscriber)

/-- A subscription of ours: it has our tag and our destination. -/
def Owns (entry : EventDestination) : Prop :=
  isText subscriber.context entry.context = true ∧
    isText subscriber.webhookUrl entry.destination = true

/-- A subscription that we may delete: it has our tag or our destination. -/
def Touches (entry : EventDestination) : Prop :=
  isText subscriber.context entry.context = true ∨
    isText subscriber.webhookUrl entry.destination = true

instance (entry : EventDestination) : Decidable (subscriber.Owns entry) :=
  inferInstanceAs (Decidable (_ ∧ _))

/-- There is no subscription of ours. -/
def HasNone (service : State) : Prop :=
  ∀ uri entry, bmc.get service uri = some entry → ¬ subscriber.Owns entry

/-- What the others may do: what they add is known, and no subscription of ours appears. -/
structure Tolerated (before after : State) : Prop where
  issued : ∀ uri, bmc.Issued before uri → bmc.Issued after uri
  old : bmc.NeverReuses → ∀ uri entry, bmc.Issued before uri → bmc.get after uri = some entry →
    bmc.get before uri = some entry
  known : ∀ uri entry, bmc.get after uri = some entry →
    bmc.get before uri = some entry ∨ known entry
  ours : ∀ uri entry, bmc.get after uri = some entry → subscriber.Owns entry →
    bmc.get before uri = some entry

/-- What we do: a subscription is added only if it is ours and there was none, and one is removed
only if it is known. -/
structure OwnChange (before after : State) : Prop where
  issued : ∀ uri, bmc.Issued before uri → bmc.Issued after uri
  old : bmc.NeverReuses → ∀ uri entry, bmc.Issued before uri → bmc.get after uri = some entry →
    bmc.get before uri = some entry
  adds : ∃ created, ∀ uri entry, bmc.get after uri = some entry →
    bmc.get before uri = some entry ∨
      uri = created ∧ subscriber.Owns entry ∧ subscriber.HasNone bmc before
  removes : ∀ uri entry, bmc.get before uri = some entry →
    bmc.get after uri = some entry ∨ known entry

/-- What the URL of a handle reaches has our destination, or is gone. -/
def Refers (handle : WebhookHandle) (service : State) : Prop :=
  ∀ uri, bmc.reached handle.subscriptionUrl = some uri → ∀ entry, bmc.get service uri = some entry →
    isText subscriber.webhookUrl entry.destination = true

/-- What a collector has filed refers to its own. -/
def Remembers (filed : Option WebhookHandle) (service : State) : Prop :=
  ∀ handle, filed = some handle → subscriber.Refers bmc handle service

/-- A handle of ours: its URL reaches a URI that some subscription has had. What is there is known,
and refers to us if no URI is used again. -/
structure IsHeld (handle : WebhookHandle) (service : State) : Prop where
  issued : ∀ uri, bmc.reached handle.subscriptionUrl = some uri → bmc.Issued service uri
  known : ∀ uri, bmc.reached handle.subscriptionUrl = some uri → ∀ entry,
    bmc.get service uri = some entry → known entry
  refers : bmc.NeverReuses → subscriber.Refers bmc handle service

/-- Whatever a collector has filed is held. -/
def Holds (filed : Option WebhookHandle) (service : State) : Prop :=
  ∀ handle, filed = some handle → subscriber.IsHeld bmc known handle service

/-- A subscriber at a BMC that others use as well. What it may delete is known. -/
structure Shares : Prop where
  answers : bmc.AnswersQuestions subscriber.baseUrl
  asked : bmc.ChangesOnlyAsked subscriber.baseUrl
  knows : ∀ entry, subscriber.Touches entry → known entry

variable {bmc known subscriber}

theorem Tolerated.refl (service : State) : subscriber.Tolerated bmc known service service :=
  ⟨fun _ issued => issued, fun _ _ _ _ found => found, fun _ _ found => .inl found,
    fun _ _ found _ => found⟩

theorem Tolerated.trans {first second third : State}
    (before : subscriber.Tolerated bmc known first second)
    (after : subscriber.Tolerated bmc known second third) :
    subscriber.Tolerated bmc known first third where
  issued uri issued := after.issued uri (before.issued uri issued)
  old once uri entry issued found :=
    before.old once uri entry issued (after.old once uri entry (before.issued uri issued) found)
  known uri entry found := by
    rcases after.known uri entry found with earlier | isKnown
    · exact before.known uri entry earlier
    · exact .inr isKnown
  ours uri entry found owns :=
    before.ours uri entry (after.ours uri entry found owns) owns

/-- Whatever the others do in a while is tolerated as one change. -/
theorem tolerated_of_changes {before after : State}
    (changes : ReflTransGen (subscriber.Tolerated bmc known) before after) :
    subscriber.Tolerated bmc known before after := by
  induction changes with
  | refl => exact .refl before
  | tail _ change inductionHypothesis => exact inductionHypothesis.trans change

theorem HasNone.later {before after : State} (none : subscriber.HasNone bmc before)
    (tolerated : subscriber.Tolerated bmc known before after) : subscriber.HasNone bmc after :=
  fun uri entry found owns => none uri entry (tolerated.ours uri entry found owns) owns

theorem IsHeld.later {handle : WebhookHandle} {before after : State}
    (held : subscriber.IsHeld bmc known handle before)
    (tolerated : subscriber.Tolerated bmc known before after) :
    subscriber.IsHeld bmc known handle after where
  issued uri reached := tolerated.issued uri (held.issued uri reached)
  known uri reached entry found := by
    rcases tolerated.known uri entry found with earlier | isKnown
    · exact held.known uri reached entry earlier
    · exact isKnown
  refers once uri reached entry found :=
    held.refers once uri reached entry
      (tolerated.old once uri entry (held.issued uri reached) found)

/-- What we do ourselves leaves our handle ours. -/
theorem IsHeld.own {handle : WebhookHandle} {before after : State}
    (shares : subscriber.Shares bmc known) (held : subscriber.IsHeld bmc known handle before)
    (change : subscriber.OwnChange bmc known before after) :
    subscriber.IsHeld bmc known handle after where
  issued uri reached := change.issued uri (held.issued uri reached)
  known uri reached entry found := by
    obtain ⟨_, adds⟩ := change.adds
    rcases adds uri entry found with earlier | ⟨_, owns, _⟩
    · exact held.known uri reached entry earlier
    · exact shares.knows entry (.inl owns.1)
  refers once uri reached entry found := by
    obtain ⟨_, adds⟩ := change.adds
    rcases adds uri entry found with earlier | ⟨_, owns, _⟩
    · exact held.refers once uri reached entry earlier
    · exact owns.2

theorem isHeld_empty (shares : subscriber.Shares bmc known) (service : State) :
    subscriber.IsHeld bmc known {} service := by
  have nowhere {uri : Text} : bmc.reached ({} : WebhookHandle).subscriptionUrl ≠ some uri := by
    rw [show bmc.reached ({} : WebhookHandle).subscriptionUrl = none from shares.asked.nowhere]
    simp
  exact ⟨fun _ reached => absurd reached nowhere, fun _ reached => absurd reached nowhere,
    fun _ _ reached => absurd reached nowhere⟩

/-- The handle of a subscription with our destination. -/
theorem isHeld_of_destination {handle : WebhookHandle} {service : State} {uri : Text}
    {entry : EventDestination} (shares : subscriber.Shares bmc known)
    (found : bmc.get service uri = some entry)
    (points : isText subscriber.webhookUrl entry.destination = true)
    (reaches : ∀ other, bmc.reached handle.subscriptionUrl = some other → other = uri) :
    subscriber.IsHeld bmc known handle service where
  issued other reached := by
    rw [reaches other reached]
    exact shares.asked.issued service uri entry found
  known other reached entry' found' := by
    rw [reaches other reached, found] at found'
    exact shares.knows entry' (.inr (Option.some.inj found' ▸ points))
  refers _ other reached entry' found' := by
    rw [reaches other reached, found] at found'
    exact Option.some.inj found' ▸ points

theorem isHeld_handleOf {service : State} {uri : Text} {entry : EventDestination}
    (shares : subscriber.Shares bmc known) (found : bmc.get service uri = some entry)
    (points : isText subscriber.webhookUrl entry.destination = true) {id : Json} :
    subscriber.IsHeld bmc known ⟨id, subscriber.baseUrl ++ uri⟩ service := by
  refine isHeld_of_destination shares found points fun other reached => ?_
  rw [shares.answers.reaches] at reached
  exact (Option.some.inj reached).symm

/-! ### Requests -/

theorem ownChange_unchanged {before after : State} (unchanged : bmc.Unchanged before after)
    (issued : ∀ uri, bmc.Issued before uri → bmc.Issued after uri) :
    subscriber.OwnChange bmc known before after where
  issued := issued
  old _ uri _ _ found := (unchanged uri).symm.trans found
  adds := ⟨[], fun uri _ found => .inl ((unchanged uri).symm.trans found)⟩
  removes uri _ found := .inl ((unchanged uri).trans found)

theorem tolerated_unchanged {before after : State} (unchanged : bmc.Unchanged before after)
    (issued : ∀ uri, bmc.Issued before uri → bmc.Issued after uri) :
    subscriber.Tolerated bmc known before after where
  issued := issued
  old _ uri _ _ found := (unchanged uri).symm.trans found
  known uri _ found := .inl ((unchanged uri).symm.trans found)
  ours uri _ found _ := (unchanged uri).symm.trans found

/-- Our subscription may be created where there is none of ours. -/
theorem ownChange_creation (shares : subscriber.Shares bmc known) {service : State}
    (none : subscriber.HasNone bmc service) (choice : Choice) :
    subscriber.OwnChange bmc known service (bmc.serve choice service
      (.post subscriber.collectionUrl subscriber.subscriptionPayload)).1 := by
  obtain ⟨fields, payload, entry⟩ := subscriber.subscriptionPayload_entry
  have issued := shares.asked.issues choice service
    (.post subscriber.collectionUrl subscriber.subscriptionPayload)
  have posts := shares.asked.posts choice service fields
  rw [entry] at posts
  rw [payload] at issued ⊢
  rcases posts with unchanged | ⟨uri, adds⟩
  · exact ownChange_unchanged unchanged issued
  · have owns : subscriber.Owns subscriber.entry := by simp [Owns, WebhookSubscriber.entry, isText]
    refine ⟨issued, fun once other entry' earlier found => ?_, ⟨uri, fun other entry' found => ?_⟩,
      fun other entry' found => .inl (adds.keeps found)⟩
    · rcases adds.cases found with old | ⟨rfl, rfl⟩
      · exact old
      · have absent := once choice service (.post subscriber.collectionUrl (.object fields)) other
          earlier adds.1
        cases absent.symm.trans found
    · rcases adds.cases found with old | ⟨rfl, rfl⟩
      · exact .inl old
      · exact .inr ⟨rfl, owns, none⟩

/-- A deletion adds nothing. -/
theorem of_some_deletion (shares : subscriber.Shares bmc known) {service : State} {choice : Choice}
    {url uri : Text} {entry : EventDestination}
    (found : bmc.get (bmc.serve choice service (.delete url)).1 uri = some entry) :
    bmc.get service uri = some entry := by
  rcases shares.asked.deletes choice service url with unchanged | ⟨_, _, removes⟩
  · exact (unchanged uri).symm.trans found
  · exact removes.of_some found

/-- What is known may be deleted, whatever comes of it. -/
theorem ownChange_deletion (shares : subscriber.Shares bmc known) {service : State}
    (choice : Choice) {url : Text}
    (isKnown : ∀ uri, bmc.reached url = some uri → ∀ entry, bmc.get service uri = some entry →
      known entry) :
    subscriber.OwnChange bmc known service (bmc.serve choice service (.delete url)).1 where
  issued := shares.asked.issues choice service (.delete url)
  old _ _ _ _ found := of_some_deletion shares found
  adds := ⟨[], fun _ _ found => .inl (of_some_deletion shares found)⟩
  removes uri entry found := by
    rcases shares.asked.deletes choice service url with unchanged | ⟨other, reached, removes⟩
    · exact .inl ((unchanged uri).trans found)
    · by_cases same : uri = other
      · exact .inr (isKnown uri (same ▸ reached) entry found)
      · rw [removes, if_neg same]
        exact .inl found

theorem tolerated_deletion (shares : subscriber.Shares bmc known) (service : State)
    (choice : Choice) (url : Text) :
    subscriber.Tolerated bmc known service (bmc.serve choice service (.delete url)).1 where
  issued := shares.asked.issues choice service (.delete url)
  old _ _ _ _ found := of_some_deletion shares found
  known _ _ found := .inl (of_some_deletion shares found)
  ours _ _ found _ := of_some_deletion shares found

/-! ### What the tasks ensure -/

section Tasks

variable (bmc known subscriber)

/-- What a dialogue of ours ensures while others use the service. -/
abbrev EnsuresShared {Value : Type} (holds : Value → State → Prop)
    (dialogue : BmcDialogue Value) (service : State) : Prop :=
  Ensures bmc.serve (subscriber.Tolerated bmc known) (subscriber.OwnChange bmc known) holds
    dialogue service

end Tasks

theorem ensures_done {Value : Type} {holds : Value → State → Prop} {value : Value}
    {service : State}
    (holding : ∀ later, subscriber.Tolerated bmc known service later → holds value later) :
    EnsuresShared bmc known subscriber holds (.done value) service :=
  fun later changes => holding later (tolerated_of_changes changes)

/-- A question changes nothing. -/
theorem ensures_get {Value : Type} {holds : Value → State → Prop} {url : Text}
    {next : HttpOutcome → BmcDialogue Value} {service : State}
    (shares : subscriber.Shares bmc known)
    (answered : ∀ later choice,
      bmc.Unchanged later (bmc.serve choice later (.get url)).1 →
      subscriber.Tolerated bmc known service later →
      subscriber.Tolerated bmc known service (bmc.serve choice later (.get url)).1 →
      EnsuresShared bmc known subscriber holds (next (bmc.serve choice later (.get url)).2)
        (bmc.serve choice later (.get url)).1) :
    EnsuresShared bmc known subscriber holds (.ask (.get url) next) service := by
  refine ensures_ask fun later changes choice => ?_
  have unchanged := shares.answers.unchanged choice later url
  have issued := shares.asked.issues choice later (.get url)
  have tolerated := tolerated_of_changes changes
  exact ⟨ownChange_unchanged unchanged issued, answered later choice unchanged tolerated
    (tolerated.trans (tolerated_unchanged unchanged issued))⟩

/-- A question about a member of a listing: its URI was issued, as the later ones are afterwards,
and a handle that is held stays so. -/
theorem ensures_getMember {Value : Type} {holds : Value → State → Prop} {printed : Json → Text}
    {uri : Text} {rest : List Text} {handle : WebhookHandle}
    {next : HttpOutcome → BmcDialogue Value} {service : State}
    (shares : subscriber.Shares bmc known)
    (issued : ∀ other ∈ uri :: rest, bmc.Issued service other)
    (held : subscriber.IsHeld bmc known handle service)
    (answered : ∀ later choice after, bmc.Issued later uri → bmc.Unchanged later after →
      subscriber.Tolerated bmc known service after → subscriber.IsHeld bmc known handle after →
      (∀ other ∈ rest, bmc.Issued after other) →
      EnsuresShared bmc known subscriber holds
        (next (bmc.serve choice later (.get (subscriber.baseUrl ++ uri))).2) after) :
    EnsuresShared bmc known subscriber holds
      (.ask (.get (subscriber.baseUrl ++ printedText printed (.string uri))) next) service :=
  ensures_get shares fun later choice unchanged tolerated toleratedAfter =>
    answered later choice _ (tolerated.issued uri (issued uri List.mem_cons_self)) unchanged
      toleratedAfter (held.later toleratedAfter) fun other later =>
        toleratedAfter.issued other (issued other (List.mem_cons_of_mem _ later))

/-- A scan of the collection: while nothing is adopted, each subscription of ours is still to
come. -/
theorem ensures_reconcileMembers {printed : Json → Text} {uris : List Text} {members : List Json}
    {handle : WebhookHandle} {adopted : Bool} {service : State}
    (shares : subscriber.Shares bmc known) (links : List.Forall₂ IsLink uris members)
    (filled : [] ∉ uris) (issued : ∀ uri ∈ uris, bmc.Issued service uri)
    (toCome : adopted = false → ∀ uri entry, bmc.get service uri = some entry →
      subscriber.Owns entry → uri ∈ uris)
    (held : subscriber.IsHeld bmc known handle service) :
    EnsuresShared bmc known subscriber
      (fun value service => (value.2 = false → subscriber.HasNone bmc service) ∧
        subscriber.IsHeld bmc known value.1 service)
      (subscriber.reconcileMembers printed handle adopted members) service := by
  induction links generalizing handle adopted service with
  | nil =>
    refine ensures_done fun later tolerated => ⟨fun nothing uri entry found owns => ?_,
      held.later tolerated⟩
    have before := tolerated.ours uri entry found owns
    exact List.not_mem_nil (toCome nothing uri entry before owns)
  | @cons uri member rest members link _ inductionHypothesis =>
    rw [List.mem_cons, not_or] at filled
    obtain ⟨fields, rfl, odata, truthy⟩ := link_read link (Ne.symm filled.1)
    unfold reconcileMembers
    dsimp only
    rw [odata, if_pos truthy]
    refine ensures_getMember shares issued held fun later choice after issuedThen unchanged
      toleratedAfter heldAfter issuedAfter => ?_
    -- What is ours and not this one is still to come.
    have restToCome (nothing : adopted = false)
        (notThis : ∀ entry, bmc.get later uri = some entry → ¬ subscriber.Owns entry) (other : Text)
        (entry : EventDestination) (found : bmc.get after other = some entry)
        (owns : subscriber.Owns entry) : other ∈ rest := by
      rcases List.mem_cons.mp (toCome nothing other entry
        (toleratedAfter.ours other entry found owns) owns) with rfl | member
      · exact absurd owns (notThis entry ((unchanged other).symm.trans found))
      · exact member
    cases found : bmc.get later uri with
    | none =>
      obtain ⟨response, answer, status⟩ := shares.asked.gone choice later uri issuedThen found
      rw [answer, finding_of_status _ status]
      refine inductionHypothesis filled.2 issuedAfter (fun nothing => restToCome nothing ?_)
        heldAfter
      intro entry present
      cases found.symm.trans present
    | some entry =>
      obtain ⟨details, shows, context, destination⟩ :=
        shares.answers.details choice later uri entry found
      rw [finding_of_showsObject uri shows context destination]
      by_cases tagged : isText subscriber.context entry.context = true
      · by_cases here : isText subscriber.webhookUrl entry.destination = true
        · rw [if_pos tagged, if_pos here]
          cases adopted with
          | true => exact inductionHypothesis filled.2 issuedAfter nofun heldAfter
          | false =>
            exact inductionHypothesis filled.2 issuedAfter nofun
              (isHeld_handleOf shares ((unchanged uri).trans found) here)
        · rw [if_pos tagged, if_neg here]
          refine ensures_ask fun deleting changes deletion => ?_
          have afterwards := tolerated_of_changes changes
          have gone := afterwards.trans (tolerated_deletion shares deleting deletion
            (subscriber.baseUrl ++ uri))
          refine ⟨ownChange_deletion shares deletion fun other reached entry' present => ?_, ?_⟩
          · -- What is deleted is what was read, or it came in its place and is known as well.
            rw [shares.answers.reaches] at reached
            obtain rfl := Option.some.inj reached
            rcases afterwards.known uri entry' present with read | isKnown
            · rw [← Option.some.inj (found.symm.trans ((unchanged uri).symm.trans read))]
              exact shares.knows entry (.inl tagged)
            · exact isKnown
          refine inductionHypothesis filled.2
            (fun other later => gone.issued other (issuedAfter other later)) (fun nothing => ?_)
            (heldAfter.later gone)
          intro other entry' present owns
          refine restToCome nothing (fun entry'' read owned => here ?_) other entry'
            (gone.ours other entry' present owns) owns
          rw [Option.some.inj (found.symm.trans read)]
          exact owned.2
      · rw [if_neg tagged]
        refine inductionHypothesis filled.2 issuedAfter
          (fun nothing => restToCome nothing ?_) heldAfter
        intro entry' present owns
        exact tagged (Option.some.inj (found.symm.trans present) ▸ owns.1)

/-- A reconciliation that adopts nothing ends where there is no subscription of ours. -/
theorem ensures_reconcileByContext {printed : Json → Text} (shares : subscriber.Shares bmc known)
    (service : State) :
    EnsuresShared bmc known subscriber
      (fun value service => (value.2 = false → subscriber.HasNone bmc service) ∧
        subscriber.IsHeld bmc known value.1 service)
      (subscriber.reconcileByContext printed) service := by
  refine ensures_get shares fun later choice unchanged _ _ => ?_
  obtain ⟨fields, members, ⟨response, answer, okay, body⟩, listed, links⟩ :=
    shares.answers.lists choice later
  unfold collectionUrl at unchanged ⊢
  rw [answer]
  dsimp only
  rw [if_neg (not_not_intro okay), body, collectionMembers_of_getMember listed]
  have present {uri : Text} {entry : EventDestination} (found : bmc.get (bmc.serve choice later
      (.get (subscriber.baseUrl ++ subscriptionsPath))).1 uri = some entry) :
      uri ∈ (bmc.subscriptions later).keys :=
    Table.mem_keys_iff.mpr ⟨entry, (unchanged uri).symm.trans found⟩
  refine ensures_reconcileMembers shares links (shares.answers.filled later)
    (fun uri member => ?_) (fun _ uri entry found _ => present found) (isHeld_empty shares _)
  obtain ⟨entry, found⟩ := Table.mem_keys_iff.mp member
  exact shares.asked.issued _ uri entry ((unchanged uri).trans found)

/-- A search for our destination changes nothing. -/
theorem ensures_findMembers {printed : Json → Text} {uris : List Text} {members : List Json}
    {handle : WebhookHandle} {service : State} (shares : subscriber.Shares bmc known)
    (links : List.Forall₂ IsLink uris members)
    (issued : ∀ uri ∈ uris, bmc.Issued service uri)
    (held : subscriber.IsHeld bmc known handle service) :
    EnsuresShared bmc known subscriber (subscriber.IsHeld bmc known)
      (subscriber.findMembers printed handle members) service := by
  induction links generalizing service with
  | nil => exact ensures_done fun later tolerated => held.later tolerated
  | @cons uri member rest members link _ inductionHypothesis =>
    obtain ⟨fields, rfl, linked⟩ := link
    unfold findMembers
    rw [memberOrNull, linked, Option.getD_some, Option.getD_some]
    refine ensures_getMember shares issued held fun later choice after issuedThen unchanged
      toleratedAfter heldAfter issuedAfter => ?_
    cases found : bmc.get later uri with
    | none =>
      obtain ⟨response, answer, status⟩ := shares.asked.gone choice later uri issuedThen found
      rw [answer]
      dsimp only
      rw [if_pos status]
      exact inductionHypothesis issuedAfter heldAfter
    | some entry =>
      obtain ⟨details, ⟨response, answer, okay, body⟩, _, destination⟩ :=
        shares.answers.details choice later uri entry found
      rw [answer]
      dsimp only
      rw [if_neg (not_not_intro okay), body]
      dsimp only
      rw [destination]
      split
      · next here =>
        exact ensures_done fun more tolerates =>
          (isHeld_handleOf shares ((unchanged uri).trans found) here).later tolerates
      · exact inductionHypothesis issuedAfter heldAfter

theorem ensures_findExistingSubscription {printed : Json → Text} {handle : WebhookHandle}
    {service : State} (shares : subscriber.Shares bmc known)
    (held : subscriber.IsHeld bmc known handle service) :
    EnsuresShared bmc known subscriber (subscriber.IsHeld bmc known)
      (subscriber.findExistingSubscription printed handle) service := by
  refine ensures_get shares fun later choice unchanged _ toleratedAfter => ?_
  obtain ⟨fields, members, ⟨response, answer, okay, body⟩, listed, links⟩ :=
    shares.answers.lists choice later
  unfold collectionUrl at unchanged toleratedAfter ⊢
  rw [answer]
  dsimp only
  rw [if_neg (not_not_intro okay), body, collectionMembers_of_getMember listed]
  refine ensures_findMembers shares links (fun uri member => ?_) (held.later toleratedAfter)
  obtain ⟨entry, found⟩ := Table.mem_keys_iff.mp member
  exact shares.asked.issued _ uri entry ((unchanged uri).trans found)

/-- Where there is no subscription of ours, at most one is created. -/
theorem ensures_createSubscription {printed : Json → Text} {handle : WebhookHandle}
    {service : State} (shares : subscriber.Shares bmc known)
    (none : subscriber.HasNone bmc service)
    (held : subscriber.IsHeld bmc known handle service) :
    EnsuresShared bmc known subscriber (fun value => subscriber.IsHeld bmc known value.1)
      (subscriber.createSubscription printed handle) service := by
  refine ensures_ask fun later changes choice => ?_
  have tolerated := tolerated_of_changes changes
  have creation := ownChange_creation shares (none.later tolerated) choice
  refine ⟨creation, ?_⟩
  have heldAfter := (held.later tolerated).own shares creation
  have kept (result : SubscriptionResult) :
      EnsuresShared bmc known subscriber (fun value => subscriber.IsHeld bmc known value.1)
        (.done (handle, result)) (bmc.serve choice later
          (.post subscriber.collectionUrl subscriber.subscriptionPayload)).1 :=
    ensures_done fun final tolerates => heldAfter.later tolerates
  cases answer : (bmc.serve choice later
    (.post subscriber.collectionUrl subscriber.subscriptionPayload)).2 with
  | requestError isTimeout message => exact kept _
  | otherError message => exact kept _
  | response response =>
    dsimp only
    split
    · next okay =>
      cases body : response.json with
      | none => exact kept _
      | some value =>
        cases value with
        | object data =>
          obtain ⟨fields, payload, entry⟩ := subscriber.subscriptionPayload_entry
          rw [payload] at answer ⊢
          obtain ⟨uri, adds, names⟩ := shares.asked.created choice later fields response answer okay
          rw [entry] at adds
          have points : isText subscriber.webhookUrl subscriber.entry.destination = true := by
            simp [WebhookSubscriber.entry, isText]
          refine ensures_done fun final tolerates => IsHeld.later ?_ tolerates
          exact isHeld_of_destination shares adds.get_self points fun other reached =>
            (names data body).eq_of_reached shares.answers reached
        | _ => exact kept _
    · split
      · exact ensures_map (ensures_findExistingSubscription shares heldAfter)
      · split
        · exact kept _
        · split <;> exact kept _

theorem ensures_deleteSubscription {handle : WebhookHandle} {service : State}
    (shares : subscriber.Shares bmc known) (held : subscriber.IsHeld bmc known handle service) :
    EnsuresShared bmc known subscriber (fun _ _ => True) (deleteSubscription handle) service := by
  unfold deleteSubscription
  split
  · exact ensures_done fun _ _ => trivial
  · refine ensures_ask fun later changes choice => ⟨ownChange_deletion shares choice ?_, ?_⟩
    · exact (held.later (tolerated_of_changes changes)).known
    · split
      · split <;> exact ensures_done fun _ _ => trivial
      · exact ensures_done fun _ _ => trivial

/-- Every task of the alert manager follows the protocol. -/
theorem ensures_perform {printed : Json → Text} {filed : Option WebhookHandle} {service : State}
    (shares : subscriber.Shares bmc known) (holds : subscriber.Holds bmc known filed service)
    (task : WebhookTask) :
    EnsuresShared bmc known subscriber (subscriber.Holds bmc known)
      (subscriber.perform printed filed task) service := by
  have nothing (service : State) : subscriber.Holds bmc known none service := nofun
  cases task with
  | start =>
    refine ensures_map (ensures_bind ?_)
    refine (ensures_reconcileByContext shares service).imp fun value later ⟨absent, held⟩ => ?_
    obtain ⟨handle, adopted⟩ := value
    cases adopted with
    | true =>
      refine ensures_done fun final tolerated filing same => ?_
      obtain rfl := Option.some.inj same
      exact held.later tolerated
    | false =>
      refine ensures_map ((ensures_createSubscription shares (absent rfl) held).imp ?_)
      intro value final held filing same
      have files : (if value.2.success then some value.1 else none) = some filing := same
      split at files
      · obtain rfl := Option.some.inj files
        exact held
      · cases files
  | stop =>
    cases filed with
    | none => exact ensures_done fun later _ => nothing later
    | some handle =>
      exact ensures_map ((ensures_deleteSubscription shares (holds handle rfl)).imp
        fun _ later _ => nothing later)
  | check =>
    cases filed with
    | none => exact ensures_done fun later _ => nothing later
    | some handle =>
      have held := holds handle rfl
      have answered (alive : Bool) {later : State}
          (tolerated : subscriber.Tolerated bmc known service later) :
          EnsuresShared bmc known subscriber (subscriber.Holds bmc known)
            (if alive then .done (some handle)
              else (deleteSubscription handle).map fun _ => none) later := by
        cases alive with
        | true =>
          refine ensures_done fun final tolerates filing same => ?_
          obtain rfl := Option.some.inj same
          exact (held.later tolerated).later tolerates
        | false =>
          exact ensures_map ((ensures_deleteSubscription shares (held.later tolerated)).imp
            fun _ final _ => nothing final)
      refine ensures_bind ?_
      unfold verifySubscription
      split
      · exact ensures_done fun later tolerated => answered false tolerated
      · refine ensures_get shares fun later choice _ _ toleratedAfter => ?_
        split
        · exact ensures_done fun final tolerates => answered _ (toleratedAfter.trans tolerates)
        · exact ensures_done fun final tolerates => answered false (toleratedAfter.trans tolerates)

/-! ### Destinations -/

theorem slash_notMem_decimal (number : Int) : Json.point '/'.toNat ∉ Strings.decimal number := by
  intro member
  obtain ⟨char, inside, same⟩ := List.mem_map.mp member
  obtain rfl := Strings.point_toNat_injective same
  rw [Strings.toList_decimal] at inside
  split at inside
  · exact notMem_toDigits rfl _ inside
  · rcases List.mem_cons.mp inside with mark | later
    · cases mark
    · exact notMem_toDigits rfl _ later

/-- The destination tells the base URL and the target. -/
theorem webhookUrl_forTarget_inj {bmcUrl base base' : Text} {tid tid' : TargetId}
    (same : (forTarget bmcUrl base tid).webhookUrl = (forTarget bmcUrl base' tid').webhookUrl) :
    base = base' ∧ tid = tid' := by
  have slash (front back : Text) :
      front ++ Json.text "/" ++ back = front ++ Json.point '/'.toNat :: back := by
    rw [List.append_assoc]
    rfl
  simp only [forTarget, slash] at same
  obtain ⟨bases, decimals⟩ :=
    LastSeparator.append_inj (slash_notMem_decimal tid) (slash_notMem_decimal tid') same
  refine ⟨bases, decimal_inj ?_⟩
  exact List.map_injective_iff.mpr Strings.point_toNat_injective decimals

theorem eq_of_isText {chars other : Text} {value : Json} (first : isText chars value = true)
    (second : isText other value = true) : chars = other := by
  cases value with
  | string text =>
    simp only [isText, decide_eq_true_eq] at first second
    rw [← first, second]
  | _ => cases first

variable (bmc) in
/-- There are no two subscriptions of ours. -/
def HasAtMostOne (subscriber : WebhookSubscriber) (service : State) : Prop :=
  ∀ uri other entry entry', bmc.get service uri = some entry →
    bmc.get service other = some entry' → subscriber.Owns entry → subscriber.Owns entry' →
    uri = other

/-- Our own change does not double our subscription. -/
theorem HasAtMostOne.change {before after : State}
    (atMostOne : subscriber.HasAtMostOne bmc before)
    (change : subscriber.OwnChange bmc known before after) : subscriber.HasAtMostOne bmc after := by
  obtain ⟨_, adds⟩ := change.adds
  intro uri other entry entry' found found' owns owns'
  rcases adds uri entry found with old | ⟨new, _, absent⟩
  · rcases adds other entry' found' with old' | ⟨_, _, absent⟩
    · exact atMostOne uri other entry entry' old old' owns owns'
    · exact absurd owns (absent uri entry old)
  · rcases adds other entry' found' with old' | ⟨new', _, _⟩
    · exact absurd owns' (absent other entry' old')
    · rw [new, new']

/-- What the others do does not double it. -/
theorem HasAtMostOne.later {before after : State}
    (atMostOne : subscriber.HasAtMostOne bmc before)
    (tolerated : subscriber.Tolerated bmc known before after) :
    subscriber.HasAtMostOne bmc after :=
  fun uri other entry entry' found found' owns owns' =>
    atMostOne uri other entry entry' (tolerated.ours uri entry found owns)
      (tolerated.ours other entry' found' owns') owns owns'

/-- A change of one subscriber is tolerated by one with another destination. -/
theorem OwnChange.tolerated {other : WebhookSubscriber} {before after : State}
    (different : subscriber.webhookUrl ≠ other.webhookUrl)
    (knows : ∀ entry, other.Touches entry → known entry)
    (change : other.OwnChange bmc known before after) :
    subscriber.Tolerated bmc known before after where
  issued := change.issued
  old := change.old
  known := by
    obtain ⟨_, adds⟩ := change.adds
    intro uri entry found
    rcases adds uri entry found with old | ⟨_, owns, _⟩
    · exact .inl old
    · exact .inr (knows entry (.inl owns.1))
  ours := by
    obtain ⟨_, adds⟩ := change.adds
    intro uri entry found owns
    rcases adds uri entry found with old | ⟨_, owns', _⟩
    · exact old
    · exact absurd (eq_of_isText owns.2 owns'.2) different

end WebhookSubscriber

/-! ### The fleet -/

/-- Collectors that keep subscriptions at one BMC. Each has a base URL of its own, which the BMC
posts to. A BMC may be known as several targets. -/
structure WebhookFleet (Collector : Type) where
  bmcUrl : Text
  webhookBaseUrl : Collector → Text
  distinct : Function.Injective webhookBaseUrl

namespace WebhookFleet

open WebhookSubscriber

variable {Collector State Choice : Type} (fleet : WebhookFleet Collector)

/-- The subscriber of a collector for a target. -/
def subscriber (client : Collector × TargetId) : WebhookSubscriber :=
  .forTarget fleet.bmcUrl (fleet.webhookBaseUrl client.1) client.2

/-- A subscription with the tag of a target or the destination of a collector. -/
def Knows (entry : EventDestination) : Prop := ∃ client, (fleet.subscriber client).Touches entry

variable {fleet}

theorem webhookUrl_ne {client other : Collector × TargetId} (different : client ≠ other) :
    (fleet.subscriber client).webhookUrl ≠ (fleet.subscriber other).webhookUrl := by
  intro same
  obtain ⟨bases, targets⟩ := webhookUrl_forTarget_inj same
  exact different (Prod.ext (fleet.distinct bases) targets)

variable (fleet) in
/-- Of no target and destination there are two subscriptions, and none is gone of those that were
there at first and have neither the tag of a target nor the destination of a collector. -/
structure Orderly (bmc : EventService State Choice) (initial service : State) : Prop where
  atMostOne : ∀ client, (fleet.subscriber client).HasAtMostOne bmc service
  foreign : ∀ uri entry, bmc.get initial uri = some entry → ¬ fleet.Knows entry →
    bmc.get service uri = some entry

variable [DecidableEq Collector]

variable (fleet) in
/-- The collectors at work at their BMC. -/
def atWork (printed : Json → Text) (bmc : EventService State Choice) :
    Machine (Dialogue.Team (Collector × TargetId) State BmcRequest HttpOutcome
        (Option WebhookHandle))
      (Dialogue.TeamEvent (Collector × TargetId) WebhookTask Choice) :=
  teamwork bmc.serve fun client => (fleet.subscriber client).perform printed

theorem protocol {bmc : EventService State Choice} (printed : Json → Text)
    (answers : bmc.AnswersQuestions fleet.bmcUrl) (asked : bmc.ChangesOnlyAsked fleet.bmcUrl)
    (initial : State) :
    Protocol bmc.serve (fun client => (fleet.subscriber client).perform printed)
      (fleet.Orderly bmc initial)
      (fun client => (fleet.subscriber client).Tolerated bmc fleet.Knows)
      (fun client => (fleet.subscriber client).OwnChange bmc fleet.Knows)
      (fun client => (fleet.subscriber client).Holds bmc fleet.Knows) where
  tolerates {client other _ _} different _ change :=
    change.tolerated (webhookUrl_ne different) fun _ touches => ⟨other, touches⟩
  keeps {client before after} orderly change := by
    refine ⟨fun other => ?_, fun uri entry first foreign => ?_⟩
    · by_cases same : other = client
      · rw [same]
        exact (orderly.atMostOne client).change change
      · exact (orderly.atMostOne other).later
          (change.tolerated (webhookUrl_ne same) fun _ touches => ⟨client, touches⟩)
    · rcases change.removes uri entry (orderly.foreign uri entry first foreign) with
        kept | known
      · exact kept
      · exact absurd known foreign
  begins {client _ _} task _ holds :=
    ensures_perform ⟨answers, asked, fun _ touches => ⟨client, touches⟩⟩ holds task

/-- In whatever order the requests of the collectors are answered, and whatever becomes of the ones
that change something, no subscription is doubled and no foreign one is deleted. Where no URI is
used again, what a collector at rest has filed has its own destination, as long as it is there. -/
theorem atWork_orderly {printed : Json → Text} {bmc : EventService State Choice} {service : State}
    {events : List (Dialogue.TeamEvent (Collector × TargetId) WebhookTask Choice)}
    {final : Dialogue.Team (Collector × TargetId) State BmcRequest HttpOutcome
      (Option WebhookHandle)}
    (answers : bmc.AnswersQuestions fleet.bmcUrl) (asked : bmc.ChangesOnlyAsked fleet.bmcUrl)
    (single : ∀ client, (fleet.subscriber client).HasAtMostOne bmc service)
    (run : (fleet.atWork printed bmc).run ⟨service, fun _ => .done none⟩ events = some final) :
    fleet.Orderly bmc service final.state ∧
      (bmc.NeverReuses → ∀ client filed, final.talks client = .done filed →
        (fleet.subscriber client).Remembers bmc filed final.state) := by
  have agrees : Dialogue.Agrees bmc.serve (fleet.Orderly bmc service)
      (fun client => (fleet.subscriber client).Tolerated bmc fleet.Knows)
      (fun client => (fleet.subscriber client).OwnChange bmc fleet.Knows)
      (fun client => (fleet.subscriber client).Holds bmc fleet.Knows)
      (⟨service, fun _ => .done none⟩ : Dialogue.Team (Collector × TargetId) State
        BmcRequest HttpOutcome (Option WebhookHandle)) :=
    ⟨⟨single, fun _ _ first _ => first⟩, fun _ => ensures_done fun _ _ => nofun⟩
  have ended := (protocol printed answers asked service).run agrees run
  refine ⟨ended.holds, fun once client filed rests handle same => ?_⟩
  have ensures := ended.ensures client
  rw [rests] at ensures
  exact (ensures final.state .refl handle same).refers once

/-- Two collectors whose requests take turns. The answer to a creation is lost, and the next start
adopts what was created. -/
def lostCreation :
    List (Dialogue.TeamEvent (Bool × TargetId) WebhookTask (Option WriteFault)) := [
  .begin (true, 1) .start,
  .begin (false, 1) .start,
  .turn (true, 1) none,
  .turn (false, 1) none,
  .turn (true, 1) (some ⟨true, .requestError true [], nofun⟩),
  .turn (false, 1) none,
  .begin (true, 1) .start,
  .turn (true, 1) none,
  .turn (true, 1) none]

def twoCollectors : WebhookFleet Bool where
  bmcUrl := Json.text "https://bmc"
  webhookBaseUrl first := if first then Json.text "http://a" else Json.text "http://b"
  distinct := by decide

theorem atWork_orderly_lostCreation : ∃ final,
    (twoCollectors.atWork (fun _ => []) (NumberedSubscriptions.service twoCollectors.bmcUrl)).run
        ⟨NumberedSubscriptions.initial, fun _ => .done none⟩ lostCreation = some final ∧
      final.state.table.rows.length = 2 ∧
      twoCollectors.Orderly (NumberedSubscriptions.service twoCollectors.bmcUrl)
        NumberedSubscriptions.initial
        final.state ∧
      ∀ client filed, final.talks client = .done filed →
        (twoCollectors.subscriber client).Remembers
          (NumberedSubscriptions.service twoCollectors.bmcUrl) filed final.state := by
  have tried : ((twoCollectors.atWork (fun _ => [])
      (NumberedSubscriptions.service twoCollectors.bmcUrl)).run
      ⟨NumberedSubscriptions.initial, fun _ => .done none⟩ lostCreation).any
        (fun final => decide (final.state.table.rows.length = 2)) = true := by decide
  obtain ⟨final, completed, rows⟩ := Machine.exists_of_any _ tried
  have orderly := atWork_orderly (NumberedSubscriptions.answersQuestions _)
    (NumberedSubscriptions.changesOnlyAsked (by decide)) (fun client => ?_) completed
  · exact ⟨final, completed, of_decide_eq_true rows, orderly.1,
      orderly.2 (NumberedSubscriptions.neverReuses _)⟩
  · intro uri other entry entry' found
    cases found

end WebhookFleet

end Gyanam
