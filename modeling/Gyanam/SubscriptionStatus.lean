/-
This file models how the alert subscriptions of the fleet are reported. A
collector publishes what its alert manager says of its subscribers; the API
merges what the collectors published, or asks the collector where none has, and
counts the targets with alerts by the state of their subscriber.

An entry of a stream has a state, and an entry of a webhook has none: it says
whether it is subscribed instead. The count looks at the state only, so a target
whose webhook is live counts as failed, unless an entry of a connected stream is
found for it. The merge keeps the last entry of a target, which is the webhook's
where there are two, and the answer of the collector lists streams first.
-/

import Gyanam.Subscriptions

namespace Gyanam

/-! ### The alert manager -/

/-- Enhanced subscription states for better monitoring. -/
inductive SubscriptionState where
  | connected
  | reconnecting
  | degraded
  | onCooldown
  | failedPermanent
  | stopped
  deriving DecidableEq, Repr

/-- What the status is read from: whether alerts are enabled, the states of the stream subscribers,
and the subscription ids of the webhook subscribers. -/
structure SubscriberMaps where
  enabled : Bool := true
  subscribers : Table TargetId SubscriptionState := Table.empty
  webhookSubscribers : Table TargetId (Option String) := Table.empty

/-- The entry of a subscriber, next to its target. A stream has a state; a webhook has a
subscription id or none. -/
structure SubscriberStats where
  subscriptionType : SubscriptionKind
  state : Option SubscriptionState := none
  isSubscribed : Option Bool := none
  subscriptionId : Option String := none
  deriving DecidableEq, Repr

/-- The statistics of an alert manager that the status is made from. -/
structure AlertStats where
  enabled : Bool
  subscribers : List (TargetId × SubscriberStats)
  deriving DecidableEq, Repr

/-- The entry of a stream. -/
def streamStats (state : SubscriptionState) : SubscriberStats where
  subscriptionType := .sse
  state := some state

/-- The entry of a webhook. -/
def webhookStats (subscriptionId : Option String) : SubscriberStats where
  subscriptionType := .webhook
  isSubscribed := some subscriptionId.isSome
  subscriptionId := subscriptionId

/-- Get alert manager statistics. -/
def getStats (manager : SubscriberMaps) : AlertStats where
  enabled := manager.enabled
  subscribers :=
    manager.subscribers.rows.map (fun entry => (entry.1, streamStats entry.2)) ++
      manager.webhookSubscribers.rows.map (fun entry => (entry.1, webhookStats entry.2))

/-! ### What the API reads -/

/-- What a collector publishes: nothing while alerts are disabled. -/
def publishedStats (manager : SubscriberMaps) : Option AlertStats :=
  if manager.enabled then some (getStats manager) else none

/-- What a collector answers when it is asked. -/
def managerStatsAnswer (manager : SubscriberMaps) : AlertStats :=
  if manager.enabled then getStats manager else { enabled := false, subscribers := [] }

/-- Merge what the collectors published, from the oldest to the newest. The newest entry of a target
wins. Nothing is merged before a collector has published statistics. -/
def aggregateCollectorStats (rows : List (Option AlertStats)) : Option AlertStats :=
  let subscribers := (rows.flatMap fun row => (row.map AlertStats.subscribers).getD []).foldl
    (fun table entry => table.set entry.1 entry.2) Table.empty
  if rows.any Option.isSome then some { enabled := true, subscribers := subscribers.rows }
  else none

/-- The statistics that the status is made from: the merged ones, or the answer of the collector, if
there is one. -/
def managerStats (rows : List (Option AlertStats)) (answer : Option AlertStats) :
    Option AlertStats :=
  (aggregateCollectorStats rows).or answer

/-! ### The summary -/

/-- How many targets with alerts there are, and how their subscriptions stand. -/
structure SubscriptionSummary where
  totalTargets : Nat := 0
  active : Nat := 0
  disconnected : Nat := 0
  failed : Nat := 0
  deriving DecidableEq, Repr

/-- Count a target by the state of its entry. One without a state counts as stopped, and so does a
target without an entry. -/
def SubscriptionSummary.add (summary : SubscriptionSummary) (info : Option SubscriberStats) :
    SubscriptionSummary :=
  match info.bind SubscriberStats.state with
  | some .connected => { summary with active := summary.active + 1 }
  | some .reconnecting => { summary with disconnected := summary.disconnected + 1 }
  | some .degraded => { summary with disconnected := summary.disconnected + 1 }
  | _ => { summary with failed := summary.failed + 1 }

/-- The targets that alerts are subscribed for. -/
def alertTargets (targets : Table TargetId AlertTarget) : List TargetId :=
  (targets.rows.filter fun entry =>
    entry.2.enableAlertSubscription && entry.2.enabled).map Prod.fst

/-- The summary of the subscription status. -/
def subscriptionSummary (stats : Option AlertStats) (targets : Table TargetId AlertTarget) :
    SubscriptionSummary :=
  match stats with
  | none => {}
  | some stats =>
    if stats.enabled then
      (alertTargets targets).foldl (fun summary target =>
        summary.add (stats.subscribers.lookup target))
        { totalTargets := (alertTargets targets).length }
    else {}

/-! ### Live subscriptions -/

/-- A target has a connected stream. -/
def Streaming (manager : SubscriberMaps) (target : TargetId) : Prop :=
  manager.subscribers.get target = some .connected

/-- A target has a webhook that is subscribed. -/
def Hooked (manager : SubscriberMaps) (target : TargetId) : Prop :=
  (manager.webhookSubscribers.get target).join.isSome = true

/-- A target has a live subscription. -/
def Live (manager : SubscriberMaps) (target : TargetId) : Prop :=
  Streaming manager target ∨ Hooked manager target

instance (manager : SubscriberMaps) (target : TargetId) : Decidable (Live manager target) :=
  inferInstanceAs (Decidable (_ = _ ∨ _ = _))

/-- A summary reflects the live subscriptions: it counts as active the targets that have one, and
every target is counted once. -/
structure Reflects (manager : SubscriberMaps) (targets : Table TargetId AlertTarget)
    (summary : SubscriptionSummary) : Prop where
  active : summary.active = (alertTargets targets).countP fun target => Live manager target
  total : summary.active + summary.disconnected + summary.failed = (alertTargets targets).length

/-! ### Counting -/

/-- Whether a target counts as active. -/
def countsActive (subscribers : List (TargetId × SubscriberStats)) (target : TargetId) : Prop :=
  (subscribers.lookup target).bind SubscriberStats.state = some .connected

instance (subscribers : List (TargetId × SubscriberStats)) (target : TargetId) :
    Decidable (countsActive subscribers target) :=
  inferInstanceAs (Decidable (_ = _))

theorem SubscriptionSummary.add_counts (summary : SubscriptionSummary)
    (info : Option SubscriberStats) :
    (summary.add info).active = summary.active +
        (if info.bind SubscriberStats.state = some .connected then 1 else 0) ∧
      (summary.add info).active + (summary.add info).disconnected + (summary.add info).failed =
        summary.active + summary.disconnected + summary.failed + 1 := by
  rw [add]
  split
  · next connected =>
    rw [connected, if_pos rfl]
    exact ⟨rfl, by dsimp only; omega⟩
  · next reconnecting =>
    rw [reconnecting, if_neg (by decide)]
    exact ⟨rfl, by dsimp only; omega⟩
  · next degraded =>
    rw [degraded, if_neg (by decide)]
    exact ⟨rfl, by dsimp only; omega⟩
  · next other _ _ =>
    rw [if_neg other]
    exact ⟨rfl, by dsimp only; omega⟩

/-- Every target is counted once, as active where its entry is connected. -/
theorem foldl_add_counts (subscribers : List (TargetId × SubscriberStats))
    (targets : List TargetId) (summary : SubscriptionSummary) :
    (targets.foldl (fun summary target => summary.add (subscribers.lookup target)) summary).active =
        summary.active + targets.countP (fun target => countsActive subscribers target) ∧
      (targets.foldl (fun summary target => summary.add (subscribers.lookup target)) summary).active
          + (targets.foldl (fun summary target => summary.add (subscribers.lookup target))
            summary).disconnected
          + (targets.foldl (fun summary target => summary.add (subscribers.lookup target))
            summary).failed =
        summary.active + summary.disconnected + summary.failed + targets.length := by
  induction targets generalizing summary with
  | nil => exact ⟨rfl, rfl⟩
  | cons target rest inductionHypothesis =>
    obtain ⟨active, total⟩ := summary.add_counts (subscribers.lookup target)
    obtain ⟨restActive, restTotal⟩ :=
      inductionHypothesis (summary.add (subscribers.lookup target))
    rw [List.foldl_cons, List.countP_cons, List.length_cons]
    refine ⟨?_, by omega⟩
    have counted : (if decide (countsActive subscribers target) = true then 1 else 0) =
        if (subscribers.lookup target).bind SubscriberStats.state = some .connected then 1
        else 0 := by
      by_cases connected : countsActive subscribers target
      · rw [if_pos (decide_eq_true connected)]
        exact (if_pos connected).symm
      · rw [if_neg (by rwa [decide_eq_true_eq])]
        exact (if_neg connected).symm
    rw [restActive, active, counted]
    omega

/-- Of two properties, one stronger than the other, equally many items have both exactly when every
item with the weaker has the stronger. -/
theorem countP_eq_iff {Item : Type} {stronger weaker : Item → Prop} [DecidablePred stronger]
    [DecidablePred weaker] {items : List Item}
    (gives : ∀ item ∈ items, stronger item → weaker item) :
    items.countP (fun item => stronger item) = items.countP (fun item => weaker item) ↔
      ∀ item ∈ items, weaker item → stronger item := by
  induction items with
  | nil => simp
  | cons item rest inductionHypothesis =>
    obtain ⟨first, others⟩ := List.forall_mem_cons.mp gives
    have fewer : rest.countP (fun item => stronger item) ≤
        rest.countP (fun item => weaker item) :=
      List.countP_mono_left fun other member holds =>
        decide_eq_true (others other member (of_decide_eq_true holds))
    rw [List.forall_mem_cons, ← inductionHypothesis others, List.countP_cons, List.countP_cons]
    simp only [decide_eq_true_eq]
    by_cases strong : stronger item
    · simp [strong, first strong]
    · by_cases weak : weaker item
      · simp only [strong, weak, if_false, if_true, imp_false, not_true, false_and, iff_false]
        omega
      · simp [strong, weak]

/-! ### The entry of a target -/

theorem lookup_map_snd {Row Image : Type} (image : Row → Image) (rows : List (TargetId × Row))
    (key : TargetId) :
    (rows.map fun entry => (entry.1, image entry.2)).lookup key =
      (rows.lookup key).map image := by
  induction rows with
  | nil => rfl
  | cons entry rest inductionHypothesis =>
    rw [List.map_cons, List.lookup_cons, List.lookup_cons, inductionHypothesis]
    split <;> rfl

/-- The collector lists streams first. -/
theorem lookup_getStats (manager : SubscriberMaps) (target : TargetId) :
    (getStats manager).subscribers.lookup target =
      ((manager.subscribers.get target).map streamStats).or
        ((manager.webhookSubscribers.get target).map webhookStats) := by
  rw [getStats, List.lookup_append, lookup_map_snd, lookup_map_snd]
  rfl

/-- The merge keeps webhooks over streams. -/
theorem lookup_published {manager : SubscriberMaps} (enabled : manager.enabled = true) :
    ∃ stats, aggregateCollectorStats [publishedStats manager] = some stats ∧
      stats.enabled = true ∧ ∀ target, stats.subscribers.lookup target =
        ((manager.webhookSubscribers.get target).map webhookStats).or
          ((manager.subscribers.get target).map streamStats) := by
  rw [publishedStats, if_pos enabled]
  refine ⟨_, rfl, rfl, fun target => ?_⟩
  simp only [List.flatMap_singleton, Option.map_some, Option.getD_some, getStats,
    List.foldl_append]
  have distinct : ∀ {Row : Type} (table : Table TargetId Row) (image : Row → SubscriberStats),
      ((table.rows.map fun entry => (entry.1, image entry.2)).map Prod.fst).Nodup := by
    intro Row table image
    rw [List.map_map]
    exact table.nodup
  refine (Table.get_foldl_set _ (distinct _ _) target).trans ?_
  rw [Table.get_foldl_set _ (distinct _ _), Table.get_empty, Option.or_none, lookup_map_snd,
    lookup_map_snd]
  rfl

/-- A summary that counts no target as active that has no live subscription reflects the live ones
exactly when it counts all of them. -/
theorem reflects_iff {manager : SubscriberMaps} {targets : Table TargetId AlertTarget}
    {stats : AlertStats} (enabled : stats.enabled = true)
    (sound : ∀ target, countsActive stats.subscribers target → Live manager target) :
    Reflects manager targets (subscriptionSummary (some stats) targets) ↔
      ∀ target ∈ alertTargets targets, Live manager target →
        countsActive stats.subscribers target := by
  have counts := foldl_add_counts stats.subscribers (alertTargets targets)
    { totalTargets := (alertTargets targets).length }
  simp only [Nat.zero_add] at counts
  rw [← countP_eq_iff fun target _ => sound target, ← counts.1, subscriptionSummary, if_pos enabled]
  exact ⟨Reflects.active, fun active => ⟨active, counts.2⟩⟩

/-- With the published statistics of the collector the summary reflects the live subscriptions
exactly when no target with alerts and a live subscription has a webhook; with the answer of the
collector, exactly when every target with alerts and a live webhook has a connected stream. -/
theorem subscription_status_iff (manager : SubscriberMaps) (enabled : manager.enabled = true)
    (targets : Table TargetId AlertTarget) :
    (∀ answer, Reflects manager targets
        (subscriptionSummary (managerStats [publishedStats manager] answer) targets) ↔
      ∀ target ∈ alertTargets targets, Live manager target →
        manager.webhookSubscribers.get target = none) ∧
    ∀ rows, (∀ row ∈ rows, row = none) →
      (Reflects manager targets (subscriptionSummary
          (managerStats rows (some (managerStatsAnswer manager))) targets) ↔
        ∀ target ∈ alertTargets targets, Hooked manager target → Streaming manager target) := by
  constructor
  · intro answer
    obtain ⟨stats, merged, statsEnabled, entry⟩ := lookup_published enabled
    have active : ∀ target, countsActive stats.subscribers target ↔
        manager.webhookSubscribers.get target = none ∧ Streaming manager target := by
      intro target
      rw [countsActive, entry, Streaming]
      cases manager.webhookSubscribers.get target with
      | none => cases manager.subscribers.get target <;> simp [streamStats]
      | some webhook => simp [webhookStats]
    rw [managerStats, merged, Option.some_or,
      reflects_iff statsEnabled fun target counted => .inl ((active target).mp counted).2]
    refine forall₂_congr fun target _ => forall_congr' fun live => ?_
    rw [active]
    refine ⟨And.left, fun unhooked => ⟨unhooked, live.resolve_right fun hooked => ?_⟩⟩
    rw [Hooked, unhooked] at hooked
    cases hooked
  · intro rows unpublished
    have none : aggregateCollectorStats rows = none := by
      rw [aggregateCollectorStats]
      refine if_neg fun some => ?_
      obtain ⟨row, member, present⟩ := List.any_eq_true.mp some
      rw [unpublished row member] at present
      cases present
    have active : ∀ target, countsActive (getStats manager).subscribers target ↔
        Streaming manager target := by
      intro target
      rw [countsActive, lookup_getStats, Streaming]
      cases manager.subscribers.get target with
      | none => cases manager.webhookSubscribers.get target <;> simp [webhookStats]
      | some state => simp [streamStats]
    rw [managerStats, none, Option.none_or, managerStatsAnswer, if_pos enabled,
      reflects_iff enabled fun target counted => .inl ((active target).mp counted)]
    refine forall₂_congr fun target _ => ?_
    rw [active, Live]
    exact ⟨fun all hooked => all (.inr hooked), fun hooked live => live.elim id hooked⟩

theorem sole_nodup : [(1 : TargetId)].Nodup := List.nodup_singleton 1

/-- One enabled target with alerts. -/
def soleAlertTarget : Table TargetId AlertTarget :=
  Table.ofKeys [1] sole_nodup fun _ => { toTarget := sampleTarget }

/-- A manager with a connected stream of that target. -/
def streamManager : SubscriberMaps where
  subscribers := Table.ofKeys [1] sole_nodup fun _ => .connected

/-- A manager with a live webhook of that target. -/
def webhookManager : SubscriberMaps where
  webhookSubscribers := Table.ofKeys [1] sole_nodup fun _ => some "7"

/-- The stream counts as active. -/
theorem streamManager_reflected :
    Reflects streamManager soleAlertTarget
        (subscriptionSummary (managerStats [publishedStats streamManager] none) soleAlertTarget) ∧
      Reflects streamManager soleAlertTarget (subscriptionSummary
        (managerStats [] (some (managerStatsAnswer streamManager))) soleAlertTarget) :=
  ⟨((subscription_status_iff streamManager rfl soleAlertTarget).1 none).mpr fun _ _ _ => rfl,
    ((subscription_status_iff streamManager rfl soleAlertTarget).2 [] (by simp)).mpr
      fun _ _ hooked => by cases hooked⟩

/-- The webhook counts as failed. -/
theorem webhookManager_not_reflected :
    subscriptionSummary (managerStats [publishedStats webhookManager] none) soleAlertTarget =
        { totalTargets := 1, failed := 1 } ∧
      ¬ Reflects webhookManager soleAlertTarget
        (subscriptionSummary (managerStats [publishedStats webhookManager] none)
          soleAlertTarget) ∧
      ¬ Reflects webhookManager soleAlertTarget (subscriptionSummary
        (managerStats [] (some (managerStatsAnswer webhookManager))) soleAlertTarget) :=
  ⟨by decide +kernel, fun reflects => absurd reflects.active (by decide +kernel),
    fun reflects => absurd reflects.active (by decide +kernel)⟩

end Gyanam
