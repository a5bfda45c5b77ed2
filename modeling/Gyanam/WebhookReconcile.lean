/-
This file proves what the start of a webhook subscription does to a BMC that does
what it is asked. Afterwards the subscriptions with the tag of the target are
exactly those with our destination. If there were some, they are the ones that
were there, and the first of them is adopted; if there was none, one is created.
All other subscriptions are as they were.
-/

import Mathlib.Data.List.Find
import Gyanam.EventService

namespace Gyanam

open Json (Text)
open Dialogue (Achieves achieves_done achieves_ask achieves_bind achieves_map)

namespace WebhookSubscriber

variable {State Choice : Type} {bmc : EventService State Choice} {subscriber : WebhookSubscriber}
  {printed : Json → Text}

section Ours

variable (subscriber)

/-- A subscription with our tag and our destination. -/
def isOurs (entry : EventDestination) : Bool :=
  isText subscriber.context entry.context && isText subscriber.webhookUrl entry.destination

/-- A subscription with our tag that points elsewhere. -/
def isOrphan (entry : EventDestination) : Bool :=
  isText subscriber.context entry.context && !isText subscriber.webhookUrl entry.destination

variable (bmc)

/-- The orphans are deleted, and nothing else. -/
def Reconciles (before after : State) : Prop :=
  ∀ uri, bmc.get after uri = (bmc.get before uri).filter fun entry => !subscriber.isOrphan entry

/-- A scan deletes the orphans with some URIs, and adopts the first subscription of ours among
them. -/
structure ScanEnds (uris : List Text) (handle : WebhookHandle) (adopted : Bool) (before : State)
    (value : WebhookHandle × Bool) (after : State) : Prop where
  listed : ∀ uri ∈ uris, bmc.get after uri =
    (bmc.get before uri).filter fun entry => !subscriber.isOrphan entry
  others : ∀ uri, uri ∉ uris → bmc.get after uri = bmc.get before uri
  value : value =
    if adopted then (handle, true)
    else match uris.find? fun uri => (bmc.get before uri).any subscriber.isOurs with
      | some uri => (subscriber.handleOf uri, true)
      | none => (handle, false)

end Ours

/-! ### The scan -/

theorem scanEnds_nil (handle : WebhookHandle) (adopted : Bool) (state : State) :
    ScanEnds bmc subscriber [] handle adopted state (handle, adopted) state where
  listed uri member := absurd member List.not_mem_nil
  others uri _ := rfl
  value := by cases adopted <;> rfl

/-- One more URI before those of a scan: what happens to it, and what is adopted with it. -/
theorem ScanEnds.cons {uri : Text} {rest : List Text} {handle kept : WebhookHandle}
    {adopted found : Bool} {before between after : State} {entry : EventDestination}
    {value : WebhookHandle × Bool} (distinct : uri ∉ rest)
    (ends : ScanEnds bmc subscriber rest kept found between value after)
    (present : bmc.get before uri = some entry)
    (here : bmc.get between uri = (some entry).filter fun entry => !subscriber.isOrphan entry)
    (others : ∀ other, other ≠ uri → bmc.get between other = bmc.get before other)
    (adopts : (kept, found) = if adopted then (handle, true)
      else if subscriber.isOurs entry then (subscriber.handleOf uri, true) else (handle, false)) :
    ScanEnds bmc subscriber (uri :: rest) handle adopted before value after where
  listed other member := by
    rcases List.mem_cons.mp member with rfl | later
    · rw [ends.others other distinct, here, present]
    · rw [ends.listed other later, others other (ne_of_mem_of_not_mem later distinct)]
  others other absent := by
    rw [List.mem_cons, not_or] at absent
    rw [ends.others other absent.2, others other absent.1]
  value := by
    have search : rest.find? (fun other => (bmc.get between other).any subscriber.isOurs) =
        rest.find? fun other => (bmc.get before other).any subscriber.isOurs :=
      List.find?_congr fun other later => by
        rw [others other (ne_of_mem_of_not_mem later distinct)]
    rw [ends.value, search, List.find?_cons, present, Option.any_some]
    cases adopted with
    | true =>
      obtain ⟨rfl, rfl⟩ := Prod.mk.inj adopts
      rfl
    | false =>
      cases ours : subscriber.isOurs entry with
      | true =>
        rw [ours] at adopts
        obtain ⟨rfl, rfl⟩ := Prod.mk.inj adopts
        rfl
      | false =>
        rw [ours] at adopts
        obtain ⟨rfl, rfl⟩ := Prod.mk.inj adopts
        rfl

theorem achieves_reconcileMembers (answers : bmc.AnswersQuestions subscriber.baseUrl)
    (obeys : bmc.CarriesOut subscriber.baseUrl) {uris : List Text} {members : List Json}
    (links : List.Forall₂ IsLink uris members) (distinct : uris.Nodup) (filled : [] ∉ uris)
    (handle : WebhookHandle) (adopted : Bool) (state : State)
    (present : ∀ uri ∈ uris, ∃ entry, bmc.get state uri = some entry) :
    Achieves bmc.serve (ScanEnds bmc subscriber uris handle adopted state)
      (subscriber.reconcileMembers printed handle adopted members) state := by
  induction links generalizing handle adopted state with
  | nil => exact achieves_done (scanEnds_nil handle adopted state)
  | @cons uri member rest members link _ inductionHypothesis =>
    rw [List.nodup_cons] at distinct
    rw [List.mem_cons, not_or] at filled
    obtain ⟨fields, rfl, odata, truthy⟩ := link_read link (Ne.symm filled.1)
    obtain ⟨entry, found⟩ := present uri List.mem_cons_self
    unfold reconcileMembers
    dsimp only
    rw [odata, if_pos truthy]
    refine achieves_ask fun choice => ?_
    have unchanged := answers.unchanged choice state (subscriber.baseUrl ++ uri)
    obtain ⟨details, shows, context, destination⟩ := answers.details choice state uri entry found
    have url : subscriber.baseUrl ++ printedText printed (.string uri) =
        subscriber.baseUrl ++ uri := rfl
    rw [url, finding_of_showsObject uri shows context destination]
    -- A member that is not deleted: the scan goes on, perhaps with it.
    have goesOn (kept : WebhookHandle) (found' : Bool) (stays : subscriber.isOrphan entry = false)
        (adopts : (kept, found') = if adopted then (handle, true)
          else if subscriber.isOurs entry then (subscriber.handleOf uri, true)
          else (handle, false)) :
        Achieves bmc.serve (ScanEnds bmc subscriber (uri :: rest) handle adopted state)
          (subscriber.reconcileMembers printed kept found' members)
          (bmc.serve choice state (.get (subscriber.baseUrl ++ uri))).1 := by
      refine (inductionHypothesis distinct.2 filled.2 kept found' _ fun other later => ?_).imp
        fun value after ends =>
          ends.cons distinct.1 found ?_ (fun other _ => unchanged other) adopts
      · rw [unchanged other]
        exact present other (List.mem_cons_of_mem _ later)
      · rw [unchanged uri, found, Option.filter_some, stays]
        rfl
    by_cases tagged : isText subscriber.context entry.context = true
    · by_cases here : isText subscriber.webhookUrl entry.destination = true
      · rw [if_pos tagged, if_pos here]
        have ours : subscriber.isOurs entry = true := by simp [isOurs, tagged, here]
        have stays : subscriber.isOrphan entry = false := by simp [isOrphan, here]
        cases adopted with
        | true => exact goesOn handle true stays rfl
        | false => exact goesOn (subscriber.handleOf uri) true stays (by simp [ours])
      · rw [if_pos tagged, if_neg here]
        have gone : subscriber.isOrphan entry = true := by simp [isOrphan, tagged, here]
        have foreign : subscriber.isOurs entry = false := by simp [isOurs, here]
        refine achieves_ask fun deletion => ?_
        have removes := obeys.deletes deletion _ uri entry ((unchanged uri).trans found)
        have others (other : Text) (different : other ≠ uri) :
            bmc.get (bmc.serve deletion (bmc.serve choice state
              (.get (subscriber.baseUrl ++ uri))).1
              (.delete (subscriber.baseUrl ++ uri))).1 other = bmc.get state other := by
          rw [removes, if_neg different, unchanged]
        refine (inductionHypothesis distinct.2 filled.2 handle adopted _ fun other later => ?_).imp
          fun value after ends => ends.cons distinct.1 found ?_ others ?_
        · rw [others other (ne_of_mem_of_not_mem later distinct.1)]
          exact present other (List.mem_cons_of_mem _ later)
        · rw [removes, if_pos rfl, Option.filter_some, gone]
          rfl
        · cases adopted <;> simp [foreign]
    · rw [if_neg tagged]
      have foreign : subscriber.isOurs entry = false := by simp [isOurs, tagged]
      have stays : subscriber.isOrphan entry = false := by simp [isOrphan, tagged]
      refine goesOn handle adopted stays ?_
      cases adopted <;> simp [foreign]

/-- A reconciliation deletes all orphans, and adopts the first subscription of ours. -/
theorem achieves_reconcileByContext (answers : bmc.AnswersQuestions subscriber.baseUrl)
    (obeys : bmc.CarriesOut subscriber.baseUrl) (state : State) :
    Achieves bmc.serve (fun value after =>
        subscriber.Reconciles bmc state after ∧
          value = match (bmc.subscriptions state).rows.find? fun row => subscriber.isOurs row.2 with
            | some row => (subscriber.handleOf row.1, true)
            | none => ({}, false))
      (subscriber.reconcileByContext printed) state := by
  refine achieves_ask fun choice => ?_
  obtain ⟨fields, members, ⟨response, served, okay, body⟩, listed, links⟩ :=
    answers.lists choice state
  have unchanged := answers.unchanged choice state (subscriber.baseUrl ++ subscriptionsPath)
  unfold collectionUrl
  rw [served]
  dsimp only
  rw [if_neg (not_not_intro okay), body, collectionMembers_of_getMember listed]
  refine (achieves_reconcileMembers answers obeys links (bmc.subscriptions state).nodup_keys
    (answers.filled state) {} false _ fun uri member => ?_).imp fun value after ends => ⟨?_, ?_⟩
  · rw [unchanged uri]
    exact Table.mem_keys_iff.mp member
  · intro uri
    by_cases member : uri ∈ (bmc.subscriptions state).keys
    · rw [ends.listed uri member, unchanged uri]
    · have absent : bmc.get state uri = none := Table.get_eq_none_iff.mpr member
      rw [ends.others uri member, unchanged uri, absent, Option.filter_none]
  · have search : (bmc.subscriptions state).keys.find? (fun uri =>
        (bmc.get (bmc.serve choice state
          (.get (subscriber.baseUrl ++ subscriptionsPath))).1 uri).any subscriber.isOurs) =
        ((bmc.subscriptions state).rows.find? fun row => subscriber.isOurs row.2).map
          Prod.fst := by
      unfold Table.keys
      rw [List.find?_map]
      refine congrArg _ (List.find?_congr fun row member => ?_)
      have stored : bmc.get state row.1 = some row.2 := Table.get_eq_some_iff.mpr member
      rw [Function.comp_apply, unchanged row.1, stored, Option.any_some]
    rw [ends.value, if_neg Bool.false_ne_true, search]
    cases (bmc.subscriptions state).rows.find? fun row => subscriber.isOurs row.2 <;> rfl

/-! ### The start -/

variable (subscriber bmc) in
/-- After a creation there is one subscription more, which is ours, and its handle reaches that one
or nothing. -/
def Creates (before : State) (value : WebhookHandle × SubscriptionResult) (after : State) : Prop :=
  value.2 = { success := true } ∧ ∃ uri, bmc.Adds before after uri subscriber.entry ∧
    ∀ other, bmc.reached value.1.subscriptionUrl = some other → other = uri

theorem achieves_createSubscription (answers : bmc.AnswersQuestions subscriber.baseUrl)
    (obeys : bmc.CarriesOut subscriber.baseUrl) (handle : WebhookHandle) (state : State) :
    Achieves bmc.serve (subscriber.Creates bmc state)
      (subscriber.createSubscription printed handle) state := by
  refine achieves_ask fun choice => ?_
  obtain ⟨fields, payload, entry⟩ := subscriber.subscriptionPayload_entry
  obtain ⟨response, data, uri, served, okay, body, names, adds⟩ :=
    obeys.creates choice state fields
  unfold collectionUrl
  rw [payload, served]
  dsimp only
  rw [if_pos okay, body]
  rw [entry] at adds
  exact achieves_done ⟨rfl, uri, adds, fun other reached => names.eq_of_reached answers reached⟩

variable (subscriber bmc) in
/-- What a start comes to. The orphans are deleted. If there were subscriptions of ours, the first
of them is adopted, and if there was none, one is created. -/
def StartEnds (before : State) (value : WebhookHandle × WebhookStart) (after : State) : Prop :=
  match (bmc.subscriptions before).rows.find? fun row => subscriber.isOurs row.2 with
  | some row =>
    subscriber.Reconciles bmc before after ∧ value = (subscriber.handleOf row.1, .adopted)
  | none =>
    ∃ result reconciled, subscriber.Reconciles bmc before reconciled ∧
      subscriber.Creates bmc reconciled (value.1, result) after ∧ value.2 = .created result

/-- A start deletes the orphans, adopts the first subscription of ours, or creates one if there is
none, and nothing else changes. The alert manager files the target with it. -/
theorem startSubscription_exact {printed : Json → Text} {subscriber : WebhookSubscriber}
    {State Choice Print : Type} {bmc : EventService State Choice}
    (answers : bmc.AnswersQuestions subscriber.baseUrl)
    (obeys : bmc.CarriesOut subscriber.baseUrl) (service : State) (choices : Nat → Choice)
    (settings : SubscriptionSettings) (other : SubscriptionAnswers)
    (subs : Subscriptions Print) (target : AlertTarget) :
    let ended := (subscriber.startSubscription printed).converse bmc.serve service choices
    subscriber.StartEnds bmc service ended.2 ended.1 ∧
      Subscriptions.startWebhook settings (ended.2.2.answers other) subs subscriber.targetId
        target = subs.addWebhook subscriber.targetId target := by
  have achieves : Achieves bmc.serve (fun value after =>
      subscriber.StartEnds bmc service value after ∧
      Subscriptions.startWebhook settings (value.2.answers other) subs subscriber.targetId
        target = subs.addWebhook subscriber.targetId target)
      (subscriber.startSubscription printed) service := by
    refine achieves_bind ((achieves_reconcileByContext answers obeys service).imp
      fun value reconciled ⟨reconciles, adopts⟩ => ?_)
    obtain ⟨handle, adopted⟩ := value
    unfold StartEnds
    cases search : (bmc.subscriptions service).rows.find? fun row => subscriber.isOurs row.2 with
    | some row =>
      rw [search] at adopts
      obtain ⟨rfl, rfl⟩ := Prod.mk.inj adopts
      exact achieves_done ⟨⟨reconciles, rfl⟩, rfl⟩
    | none =>
      rw [search] at adopts
      obtain ⟨rfl, rfl⟩ := Prod.mk.inj adopts
      refine achieves_map ((achieves_createSubscription answers obeys {} reconciled).imp ?_)
      rintro ⟨handle, result⟩ after creates
      obtain rfl : result = { success := true } := creates.1
      exact ⟨⟨_, reconciled, reconciles, creates, rfl⟩, rfl⟩
  exact achieves.converse choices

/-- The subscriber of a collector for its first target. -/
def firstSubscriber : WebhookSubscriber :=
  .forTarget (Json.text "https://bmc") (Json.text "http://a") 1

/-- A BMC with a subscription of the target that points elsewhere, and one of somebody else. -/
def orphanedSubscriptions : NumberedSubscriptions :=
  (NumberedSubscriptions.initial.add
    ⟨.string (Json.text "target_1"), .string (Json.text "http://b/1")⟩).add
      ⟨.string (Json.text "rack"), .string (Json.text "http://c")⟩

theorem startSubscription_exact_orphan :
    let ended := (firstSubscriber.startSubscription (fun _ => [])).converse
      (NumberedSubscriptions.faultless firstSubscriber.baseUrl).serve orphanedSubscriptions
      (fun _ => ())
    ended.1.table.keys = [numberedUri 1, numberedUri 2] ∧
      firstSubscriber.StartEnds (NumberedSubscriptions.faultless firstSubscriber.baseUrl)
        orphanedSubscriptions ended.2 ended.1 ∧
      Subscriptions.startWebhook {} (ended.2.2.answers {}) ({} : Subscriptions Unit) 1
          { toTarget := sampleTarget } =
        ({} : Subscriptions Unit).addWebhook 1 { toTarget := sampleTarget } :=
  ⟨by decide, startSubscription_exact (NumberedSubscriptions.faultless_answersQuestions _)
    (NumberedSubscriptions.faultless_carriesOut _) orphanedSubscriptions (fun _ => ()) {} {} {}
    { toTarget := sampleTarget }⟩

end WebhookSubscriber

end Gyanam
