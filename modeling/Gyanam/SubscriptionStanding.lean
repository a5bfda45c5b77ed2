/-
This file looks at a pass from the side of one target. Its standing is what the
six maps hold under its id, and a pass moves it without looking at any other
target: the pass over the maps refines a pass over a single standing. The books
of the alert manager are then kept because every standing is kept in order.
-/

import Gyanam.Lib.Machine
import Gyanam.Lib.PerKey
import Gyanam.Subscriptions

namespace Gyanam

/-! ### The standing of a target -/

/-- What the maps hold for one target. -/
structure Standing (Print : Type) where
  sse : Option AlertTarget := none
  webhook : Option AlertTarget := none
  kind : Option SubscriptionKind := none
  retryAt : Option RetryAt := none
  print : Option Print := none
  verifiedAt : Option Time := none

/-- The standing of a target in the maps. -/
def Subscriptions.standing {Print : Type} (subs : Subscriptions Print) (tid : TargetId) :
    Standing Print where
  sse := subs.subscribers.get tid
  webhook := subs.webhookSubscribers.get tid
  kind := subs.subscriptionTypes.get tid
  retryAt := subs.permanentlyFailed.get tid
  print := subs.subFingerprints.get tid
  verifiedAt := subs.webhookVerifiedAt.get tid

namespace Standing

variable {Print : Type} (digest : String → Print) (settings : SubscriptionSettings)

/-- The target is subscribed in one way or the other. -/
def isCurrent (standing : Standing Print) : Bool := standing.sse.isSome || standing.webhook.isSome

/-! ### The steps of a pass on one standing -/

/-- Harvest a stream that failed for good. -/
def harvest (failing : Bool) (now : Time) (standing : Standing Print) : Standing Print :=
  if standing.sse.isSome && failing then
    { standing with
      sse := none
      kind := none
      retryAt := standing.retryAt.or (some (settings.retryAt now)) }
  else standing

/-- The subscription was made from another configuration than that of the row. -/
def isChanged [DecidableEq Print] (row : Option AlertTarget) (standing : Standing Print) : Bool :=
  standing.isCurrent && row.any fun target =>
    standing.print ≠ some (targetFingerprint digest target)

/-- The target is marked, and the fingerprint on record is another than that of the row. -/
def isFixed [DecidableEq Print] (row : Option AlertTarget) (standing : Standing Print) : Bool :=
  standing.retryAt.isSome && row.any fun target =>
    standing.print.any fun print => print ≠ targetFingerprint digest target

/-- Clear the mark if a condition holds. -/
def clearIf (condition : Bool) (standing : Standing Print) : Standing Print :=
  if condition then { standing with retryAt := none } else standing

/-- Tear the subscription down if a condition holds. -/
def leaveIf (condition : Bool) (standing : Standing Print) : Standing Print :=
  if condition then { verifiedAt := standing.verifiedAt } else standing

/-- Clear the mark of a target whose row was fixed, and tear the subscription down of a target that
is gone or changed. -/
def tearDown [DecidableEq Print] (row : Option AlertTarget) (standing : Standing Print) :
    Standing Print :=
  (standing.clearIf (standing.isFixed digest row)).leaveIf
    (standing.isCurrent && (row.isNone || standing.isChanged digest row))

/-- Clear a mark whose cooldown has elapsed. -/
def retryDue (now : Time) (standing : Standing Print) : Standing Print :=
  standing.clearIf (standing.retryAt.any (settings.isDue now))

/-- A target with a webhook subscription. -/
def withWebhook (target : AlertTarget) (standing : Standing Print) : Standing Print :=
  { standing with webhook := some target, kind := some .webhook }

/-- Start a webhook subscription. -/
def startWebhook (answers : SubscriptionAnswers) (target : AlertTarget)
    (standing : Standing Print) : Standing Print :=
  match answers.reconciled, answers.created with
  | none, _ => standing
  | some true, _ => standing.withWebhook target
  | some false, none => standing
  | some false, some result =>
    if result.success then standing.withWebhook target
    else if result.failureType = some .permanent then
      { standing with retryAt := some (settings.retryAt answers.failedAt) }
    else standing

/-- Start a subscription. -/
def start (answers : SubscriptionAnswers) (target : AlertTarget) (standing : Standing Print) :
    Standing Print :=
  if standing.retryAt.isSome then standing
  else if !answers.decrypts then standing
  else if settings.forceWebhookMode then
    if settings.enableWebhookFallback then startWebhook settings answers target standing
    else standing
  else
    match answers.sseSupport with
    | none => standing
    | some .supported =>
      if answers.sseStarts then { standing with sse := some target, kind := some .sse }
      else standing
    | some _ =>
      if settings.enableWebhookFallback then startWebhook settings answers target standing
      else standing

/-- Record the fingerprint of a row if the target is subscribed. -/
def record (target : AlertTarget) (standing : Standing Print) : Standing Print :=
  if standing.isCurrent then
    { standing with print := some (targetFingerprint digest target) }
  else standing

/-- Seed the time a webhook subscription was last seen alive. -/
def seed (now : Time) (standing : Standing Print) : Standing Print :=
  if standing.webhook.isSome && standing.verifiedAt.isNone then
    { standing with verifiedAt := some now }
  else standing

/-- Check a webhook subscription. -/
def check (alive : Bool) (now : Time) (standing : Standing Print) : Standing Print :=
  if standing.webhook.isNone then standing
  else if alive then { standing with verifiedAt := some now }
  else { standing with webhook := none, kind := none, print := none, verifiedAt := none }

/-- Re-verify a webhook subscription whose check is due. -/
def verify (pass : RefreshPass) (tid : TargetId) (standing : Standing Print) : Standing Print :=
  let due := standing.webhook.isSome && standing.verifiedAt.any fun last =>
    decide (settings.webhookVerifyInterval ≤ pass.verifyNow - last)
  let seeded := standing.seed pass.verifyNow
  if due then seeded.check (pass.alive tid) (pass.verifiedAt tid) else seeded

/-- The start of a pass on one target, and whether the target was attempted. -/
def startIf (condition : Bool) (answers : SubscriptionAnswers) (row : Option AlertTarget)
    (standing : Standing Print) : Standing Print × Bool :=
  match row with
  | some target =>
    if condition && standing.retryAt.isNone then
      ((standing.start settings answers target).record digest target, true)
    else (standing, false)
  | none => (standing, false)

/-- A pass on one target, and whether it attempted to subscribe the target. -/
def refresh [DecidableEq Print] (pass : RefreshPass) (tid : TargetId)
    (standing : Standing Print) : Standing Print × Bool :=
  let row := pass.alertTargets.get tid
  let harvested := standing.harvest settings (pass.failing tid) (pass.harvestedAt tid)
  let retried := (harvested.tearDown digest row).retryDue settings pass.now
  let started := retried.startIf digest settings
    (!harvested.isCurrent || harvested.isChanged digest row) (pass.answers tid) row
  (started.1.verify settings pass tid, started.2)

end Standing

/-! ### The pass over the maps refines the pass over a standing -/

namespace Subscriptions

variable {Print : Type} (digest : String → Print) (settings : SubscriptionSettings)

@[simp] theorem mem_currentIds {subs : Subscriptions Print} {tid : TargetId} :
    tid ∈ subs.currentIds ↔ (subs.standing tid).isCurrent = true := by
  simp only [currentIds, List.mem_dedup, List.mem_append, Table.mem_keys_iff, Standing.isCurrent,
    standing, Bool.or_eq_true, Option.isSome_iff_exists]

theorem nodup_currentIds (subs : Subscriptions Print) : subs.currentIds.Nodup :=
  List.nodup_dedup _

/-! ### Loop bodies -/

theorem harvestOne_actsOn (pass : RefreshPass) :
    ActsOn (@standing Print) (harvestOne settings pass) id fun tid before =>
      if pass.failing tid then
        { before with
          sse := none
          kind := none
          retryAt := before.retryAt.or (some (settings.retryAt (pass.harvestedAt tid))) }
      else before := by
  refine .intro (fun subs tid => ?_) fun subs tid other different => ?_
  · cases failing : pass.failing tid <;> cases found : subs.permanentlyFailed.get tid <;>
      simp [harvestOne, standing, Table.get_remove, Table.get_set, failing, found]
  · cases failing : pass.failing tid <;> cases found : subs.permanentlyFailed.get tid <;>
      simp [harvestOne, standing, Table.get_remove, Table.get_set, failing, found,
        show other ≠ tid from different]

theorem clearMark_actsOn :
    ActsOn (@standing Print) clearMark id fun _ before => before.clearIf true := by
  refine .intro (fun subs tid => ?_) fun subs tid other different => ?_
  · simp [clearMark, standing, Standing.clearIf, Table.get_remove]
  · simp [clearMark, standing, Table.get_remove, show other ≠ tid from different]

theorem removeOne_actsOn (targets : Table TargetId AlertTarget) (changed : TargetId → Bool) :
    ActsOn (@standing Print) (removeOne targets changed) id fun tid before =>
      if (targets.get tid).isNone || changed tid then before.leaveIf true
      else { before.leaveIf true with retryAt := before.retryAt } := by
  refine .intro (fun subs tid => ?_) fun subs tid other different => ?_
  · cases gone : (targets.get tid).isNone || changed tid <;>
      simp [removeOne, standing, Standing.leaveIf, Table.get_remove, gone]
  · cases gone : (targets.get tid).isNone || changed tid <;>
      simp [removeOne, standing, Table.get_remove, gone, show other ≠ tid from different]

theorem seedVerified_actsOn (pass : RefreshPass) :
    ActsOn (@standing Print) (seedVerified pass) id fun _ before =>
      { before with verifiedAt := before.verifiedAt.or (some pass.verifyNow) } := by
  refine .intro (fun subs tid => ?_) fun subs tid other different => ?_
  · cases seen : subs.webhookVerifiedAt.get tid <;>
      simp [seedVerified, standing, Table.get_set, seen]
  · cases seen : subs.webhookVerifiedAt.get tid <;>
      simp [seedVerified, standing, Table.get_set, seen, show other ≠ tid from different]

theorem checkOne_actsOn (pass : RefreshPass) :
    ActsOn (@standing Print) (checkOne pass) id fun tid before =>
      before.check (pass.alive tid) (pass.verifiedAt tid) := by
  refine .intro (fun subs tid => ?_) fun subs tid other different => ?_
  · cases found : subs.webhookSubscribers.get tid <;> cases alive : pass.alive tid <;>
      simp [checkOne, standing, Standing.check, Table.get_set, Table.get_remove, found, alive]
  · cases found : subs.webhookSubscribers.get tid <;> cases alive : pass.alive tid <;>
      simp [checkOne, standing, Table.get_set, Table.get_remove, found, alive,
        show other ≠ tid from different]

/-! ### Starting -/

theorem standing_addWebhook (subs : Subscriptions Print) (tid : TargetId) (target : AlertTarget) :
    (subs.addWebhook tid target).standing tid = (subs.standing tid).withWebhook target := by
  simp [addWebhook, standing, Standing.withWebhook, Table.get_set]

theorem standing_startWebhook (answers : SubscriptionAnswers) (subs : Subscriptions Print)
    (tid : TargetId) (target : AlertTarget) :
    (startWebhook settings answers subs tid target).standing tid =
      (subs.standing tid).startWebhook settings answers target := by
  unfold startWebhook Standing.startWebhook
  cases answers.reconciled with
  | none => rfl
  | some adopted =>
    cases adopted with
    | true => exact standing_addWebhook subs tid target
    | false =>
      cases answers.created with
      | none => rfl
      | some result =>
        show (ite _ _ (ite _ _ _) : Subscriptions Print).standing tid = ite _ _ (ite _ _ _)
        split
        · exact standing_addWebhook subs tid target
        · split
          · simp [standing, Table.get_set]
          · rfl

theorem standing_startSubscription (answers : SubscriptionAnswers) (subs : Subscriptions Print)
    (tid : TargetId) (target : AlertTarget) :
    (startSubscription settings answers subs tid target).standing tid =
      (subs.standing tid).start settings answers target := by
  unfold startSubscription Standing.start
  rw [show (subs.standing tid).retryAt = subs.permanentlyFailed.get tid from rfl]
  have webhook : (if settings.enableWebhookFallback then
      startWebhook settings answers subs tid target else subs).standing tid =
        if settings.enableWebhookFallback then
          (subs.standing tid).startWebhook settings answers target else subs.standing tid := by
    split
    · exact standing_startWebhook settings answers subs tid target
    · rfl
  split
  · rfl
  · split
    · rfl
    · split
      · exact webhook
      · cases answers.sseSupport with
        | none => rfl
        | some support =>
          cases support with
          | supported => cases starts : answers.sseStarts <;>
              simp [startSse, standing, Table.get_set, starts]
          | notSupported => exact webhook
          | broken => exact webhook
          | unknown => exact webhook

section Other

variable {tid other : TargetId} (different : other ≠ tid)

include different

theorem standing_addWebhook_other (subs : Subscriptions Print) (target : AlertTarget) :
    (subs.addWebhook tid target).standing other = subs.standing other := by
  simp [addWebhook, standing, Table.get_set, different]

theorem standing_startWebhook_other (answers : SubscriptionAnswers) (subs : Subscriptions Print)
    (target : AlertTarget) :
    (startWebhook settings answers subs tid target).standing other = subs.standing other := by
  unfold startWebhook
  split
  · rfl
  · exact standing_addWebhook_other different subs target
  · rfl
  · split
    · exact standing_addWebhook_other different subs target
    · split
      · simp [standing, Table.get_set, different]
      · rfl

/-- An attempt to subscribe a target touches no other target. -/
theorem standing_startSubscription_other (answers : SubscriptionAnswers)
    (subs : Subscriptions Print) (target : AlertTarget) :
    (startSubscription settings answers subs tid target).standing other =
      subs.standing other := by
  have webhook : (if settings.enableWebhookFallback then
      startWebhook settings answers subs tid target else subs).standing other =
        subs.standing other := by
    split
    · exact standing_startWebhook_other settings different answers subs target
    · rfl
  unfold startSubscription
  split
  · rfl
  · split
    · rfl
    · split
      · exact webhook
      · split
        · rfl
        · cases starts : answers.sseStarts <;>
            simp [startSse, standing, Table.get_set, starts, different]
        · exact webhook

end Other

/-- The standing of a target after some of the starts, and whether it was attempted. -/
def Started.view (started : Started Print) (tid : TargetId) : Standing Print × Bool :=
  (started.subs.standing tid, decide (tid ∈ started.attempted))

theorem startOne_actsOn (pass : RefreshPass) (toAdd : TargetId → Bool) :
    ActsOn (@Started.view Print) (startOne digest settings pass toAdd) Prod.fst
      fun entry before =>
        if toAdd entry.1 then
          ((before.1.start settings (pass.answers entry.1) entry.2).record digest entry.2,
            before.2 || before.1.retryAt.isNone)
        else before := by
  refine .intro (fun started entry => ?_) fun started entry other different => ?_
  · unfold startOne
    cases toAdd entry.1 with
    | false => rfl
    | true =>
      have own := standing_startSubscription settings (pass.answers entry.1)
        started.subs entry.1 entry.2
      refine Prod.ext ?_ ?_
      · simp only [if_true, Started.view, Standing.record, ← own]
        split
        · next current =>
          rw [mem_currentIds] at current
          rw [if_pos current]
          simp [standing, Table.get_set]
        · next current =>
          rw [mem_currentIds] at current
          rw [if_neg current]
      · have marked : (started.subs.standing entry.1).retryAt =
          started.subs.permanentlyFailed.get entry.1 := rfl
        simp only [if_true, Started.view, marked]
        cases started.subs.permanentlyFailed.get entry.1 <;> simp
  · unfold startOne
    cases toAdd entry.1 with
    | false => rfl
    | true =>
      have same := standing_startSubscription_other settings different
        (pass.answers entry.1) started.subs entry.2
      refine Prod.ext ?_ ?_
      · simp only [if_true, Started.view, ← same]
        split
        · simp [standing, Table.get_set, different]
        · rfl
      · simp only [if_true, Started.view]
        split <;> simp [different]

/-! ### Whole loops -/

theorem mem_subscribers {subs : Subscriptions Print} {tid : TargetId} :
    tid ∈ subs.subscribers.keys ↔ (subs.standing tid).sse.isSome = true := by
  rw [Table.mem_keys_iff, Option.isSome_iff_exists]
  rfl

theorem mem_webhookSubscribers {subs : Subscriptions Print} {tid : TargetId} :
    tid ∈ subs.webhookSubscribers.keys ↔ (subs.standing tid).webhook.isSome = true := by
  rw [Table.mem_keys_iff, Option.isSome_iff_exists]
  rfl

theorem mem_permanentlyFailed {subs : Subscriptions Print} {tid : TargetId} :
    tid ∈ subs.permanentlyFailed.keys ↔ (subs.standing tid).retryAt.isSome = true := by
  rw [Table.mem_keys_iff, Option.isSome_iff_exists]
  rfl

theorem standing_harvest (pass : RefreshPass) (subs : Subscriptions Print) (tid : TargetId) :
    (harvest settings pass subs).standing tid =
      (subs.standing tid).harvest settings (pass.failing tid) (pass.harvestedAt tid) := by
  rw [harvest, (harvestOne_actsOn settings pass).foldl_keys subs.subscribers.nodup_keys]
  simp only [mem_subscribers, Standing.harvest, Bool.and_eq_true, ite_and]

theorem isChanged_eq [DecidableEq Print] (targets : Table TargetId AlertTarget)
    (subs : Subscriptions Print) (tid : TargetId) :
    isChanged digest targets subs tid = (subs.standing tid).isChanged digest (targets.get tid) := by
  rw [isChanged, Standing.isChanged]
  simp only [mem_currentIds, Bool.decide_eq_true]
  rfl

theorem standing_clearFixed [DecidableEq Print] (targets : Table TargetId AlertTarget)
    (subs : Subscriptions Print) (tid : TargetId) :
    ((subs.permanentlyFailed.keys.filter (isFixed digest targets subs)).foldl clearMark
      subs).standing tid =
      (subs.standing tid).clearIf ((subs.standing tid).isFixed digest (targets.get tid)) := by
  rw [clearMark_actsOn.foldl_filter subs.permanentlyFailed.nodup_keys,
    show isFixed digest targets subs tid =
      (subs.standing tid).isFixed digest (targets.get tid) from rfl]
  simp only [mem_permanentlyFailed]
  cases fixed : (subs.standing tid).isFixed digest (targets.get tid) with
  | false => simp [Standing.clearIf]
  | true =>
    have marked : (subs.standing tid).retryAt.isSome = true := by
      rw [Standing.isFixed, Bool.and_eq_true] at fixed
      exact fixed.1
    rw [if_pos ⟨marked, rfl⟩]

theorem standing_retryDue (pass : RefreshPass) (subs : Subscriptions Print) (tid : TargetId) :
    (retryDue settings pass subs).standing tid =
      (subs.standing tid).retryDue settings pass.now := by
  rw [retryDue, clearMark_actsOn.foldl_filter subs.permanentlyFailed.nodup_keys,
    show subs.permanentlyFailed.get tid = (subs.standing tid).retryAt from rfl]
  simp only [mem_permanentlyFailed]
  cases marked : (subs.standing tid).retryAt <;>
    simp [Standing.retryDue, Standing.clearIf, marked]

theorem standing_remove (targets : Table TargetId AlertTarget) (changed : TargetId → Bool)
    (current : List TargetId) (distinct : current.Nodup) (subs : Subscriptions Print)
    (tid : TargetId) :
    ((current.filter fun tid => (targets.get tid).isNone || changed tid).foldl
      (removeOne targets changed) subs).standing tid =
      (subs.standing tid).leaveIf
        (decide (tid ∈ current) && ((targets.get tid).isNone || changed tid)) := by
  rw [(removeOne_actsOn targets changed).foldl_filter distinct]
  cases gone : (targets.get tid).isNone || changed tid <;> by_cases member : tid ∈ current <;>
    simp [Standing.leaveIf, member]

theorem standing_verifyWebhooks (pass : RefreshPass) (subs : Subscriptions Print)
    (tid : TargetId) :
    (verifyWebhooks settings pass subs).standing tid =
      (subs.standing tid).verify settings pass tid := by
  simp only [verifyWebhooks]
  rw [(checkOne_actsOn pass).foldl_filter subs.webhookSubscribers.nodup_keys,
    (seedVerified_actsOn pass).foldl_keys subs.webhookSubscribers.nodup_keys,
    show subs.webhookVerifiedAt.get tid = (subs.standing tid).verifiedAt from rfl,
    Standing.verify]
  simp only [mem_webhookSubscribers, Standing.seed]
  rcases subs.standing tid with ⟨_, _ | _, _, _, _, _ | _⟩ <;> simp

theorem view_starts (pass : RefreshPass) (targets : Table TargetId AlertTarget)
    (chosen : TargetId → Bool) (subs : Subscriptions Print) (tid : TargetId) :
    (targets.rows.foldl (startOne digest settings pass fun tid =>
      chosen tid && (subs.permanentlyFailed.get tid).isNone) { subs := subs }).view tid =
      (subs.standing tid).startIf digest settings (chosen tid) (pass.answers tid)
        (targets.get tid) := by
  rw [(startOne_actsOn digest settings pass _).foldl_rows]
  have begun : ({ subs := subs } : Started Print).view tid = (subs.standing tid, false) := rfl
  rw [begun]
  cases targets.get tid with
  | none => rfl
  | some target =>
    simp only [show subs.permanentlyFailed.get tid = (subs.standing tid).retryAt from rfl]
    cases unmarked : (subs.standing tid).retryAt.isNone <;> cases chosen tid <;>
      simp [Standing.startIf, unmarked]

/-! ### The pass -/

/-- The refinement: a pass over the maps moves every standing by a pass over it alone. -/
theorem view_refresh [DecidableEq Print] (pass : RefreshPass) (subs : Subscriptions Print)
    (tid : TargetId) :
    (refresh digest settings pass subs).view tid =
      (subs.standing tid).refresh digest settings pass tid := by
  have starts (harvested retried : Subscriptions Print) :=
    view_starts digest settings pass pass.alertTargets
      (fun tid => decide (tid ∉ harvested.currentIds) ||
        isChanged digest pass.alertTargets harvested tid) retried tid
  have flags : ∀ current : Bool, decide (¬ current = true) = !current := by decide
  refine Prod.ext ((standing_verifyWebhooks settings pass _ tid).trans
    (congrArg (Standing.verify settings pass tid) ((congrArg Prod.fst (starts _ _)).trans ?_)))
    ((congrArg Prod.snd (starts _ _)).trans ?_)
  all_goals
    rw [standing_retryDue, standing_remove _ _ _ (nodup_currentIds _), standing_clearFixed]
    simp only [isChanged_eq, mem_currentIds, standing_harvest, flags, Bool.decide_eq_true]
    rfl

end Subscriptions

/-! ### Standings in order -/

namespace Standing

variable {Print : Type} {digest : String → Print} {settings : SubscriptionSettings}

/-- A standing without contradiction: one subscription at most, under its kind, and no mark beside
it. -/
structure Consistent (standing : Standing Print) : Prop where
  exclusive : standing.sse = none ∨ standing.webhook = none
  unmarked : standing.isCurrent = true → standing.retryAt = none
  kind : standing.kind = if standing.sse.isSome then some .sse
    else if standing.webhook.isSome then some .webhook else none

/-- A subscription is recorded under the fingerprint of a row. -/
def Recorded (digest : String → Print) (row : Option AlertTarget) (standing : Standing Print) :
    Prop :=
  standing.isCurrent = true →
    ∃ target, row = some target ∧ standing.print = some (targetFingerprint digest target)

theorem Consistent.harvest {standing : Standing Print} (consistent : standing.Consistent)
    (failing : Bool) (now : Time) : (standing.harvest settings failing now).Consistent := by
  unfold Standing.harvest
  split
  · next harvested =>
    have exclusive := consistent.exclusive
    rw [Bool.and_eq_true, Option.isSome_iff_ne_none] at harvested
    have noWebhook : standing.webhook = none := exclusive.resolve_left harvested.1
    refine ⟨.inl rfl, fun current => ?_, ?_⟩
    · simp [isCurrent, noWebhook] at current
    · simp [noWebhook]
  · exact consistent

theorem Consistent.clearIf {standing : Standing Print} (consistent : standing.Consistent)
    (condition : Bool) : (standing.clearIf condition).Consistent := by
  unfold Standing.clearIf
  split
  · exact ⟨consistent.exclusive, fun _ => rfl, consistent.kind⟩
  · exact consistent

theorem Consistent.leaveIf {standing : Standing Print} (consistent : standing.Consistent)
    (condition : Bool) : (standing.leaveIf condition).Consistent := by
  unfold Standing.leaveIf
  split
  · exact ⟨.inl rfl, fun _ => rfl, rfl⟩
  · exact consistent

/-- A target without subscription has an empty standing but for its mark and its fingerprint. -/
theorem Consistent.absent {standing : Standing Print} (consistent : standing.Consistent)
    (absent : standing.isCurrent = false) :
    standing.sse = none ∧ standing.webhook = none ∧ standing.kind = none := by
  rw [isCurrent, Bool.or_eq_false_iff, Option.isSome_eq_false_iff, Option.isSome_eq_false_iff,
    Option.isNone_iff_eq_none, Option.isNone_iff_eq_none] at absent
  refine ⟨absent.1, absent.2, ?_⟩
  rw [consistent.kind, absent.1, absent.2]
  rfl

theorem Consistent.startWebhook {standing : Standing Print} (consistent : standing.Consistent)
    (absent : standing.isCurrent = false) (unmarked : standing.retryAt = none)
    (answers : SubscriptionAnswers) (target : AlertTarget) :
    (standing.startWebhook settings answers target).Consistent := by
  obtain ⟨noSse, noWebhook, noKind⟩ := consistent.absent absent
  have subscribed : (standing.withWebhook target).Consistent :=
    ⟨.inl noSse, fun _ => unmarked, by simp [withWebhook, noSse]⟩
  unfold Standing.startWebhook
  split
  · exact consistent
  · exact subscribed
  · exact consistent
  · split
    · exact subscribed
    · split
      · exact ⟨.inl noSse, fun current => absurd current (by simp [isCurrent, noSse, noWebhook]),
          consistent.kind⟩
      · exact consistent

theorem Consistent.start {standing : Standing Print} (consistent : standing.Consistent)
    (absent : standing.isCurrent = false) (answers : SubscriptionAnswers) (target : AlertTarget) :
    (standing.start settings answers target).Consistent := by
  obtain ⟨noSse, noWebhook, noKind⟩ := consistent.absent absent
  unfold Standing.start
  split
  · exact consistent
  · next unmarked =>
    rw [Option.not_isSome_iff_eq_none] at unmarked
    have webhook : (standing.startWebhook settings answers target).Consistent :=
      consistent.startWebhook absent unmarked answers target
    repeat' split
    all_goals first
      | exact consistent
      | exact webhook
      | exact ⟨.inr noWebhook, fun _ => unmarked, rfl⟩

theorem Consistent.record {standing : Standing Print} (consistent : standing.Consistent)
    (target : AlertTarget) : (standing.record digest target).Consistent := by
  unfold Standing.record
  split
  · exact ⟨consistent.exclusive, consistent.unmarked, consistent.kind⟩
  · exact consistent

theorem recorded_record (standing : Standing Print) (target : AlertTarget) :
    Recorded digest (some target) (standing.record digest target) := by
  unfold Standing.record
  split
  · exact fun _ => ⟨target, rfl, rfl⟩
  · next absent => exact fun current => absurd current absent

/-- The starts of a pass keep a standing consistent, and recorded under the row. -/
theorem Consistent.startIf (settings : SubscriptionSettings) {standing : Standing Print}
    (consistent : standing.Consistent) {row : Option AlertTarget}
    (recorded : Recorded digest row standing) {condition : Bool}
    (absent : condition = true → standing.isCurrent = false) (answers : SubscriptionAnswers) :
    (standing.startIf digest settings condition answers row).1.Consistent ∧
      Recorded digest row (standing.startIf digest settings condition answers row).1 := by
  cases row with
  | none => exact ⟨consistent, recorded⟩
  | some target =>
    unfold Standing.startIf
    show (ite _ _ _ : Standing Print × Bool).1.Consistent ∧
      Recorded digest _ (ite _ _ _ : Standing Print × Bool).1
    split
    · next chosen =>
      rw [Bool.and_eq_true] at chosen
      exact ⟨(consistent.start (absent chosen.1) answers target).record target,
        recorded_record _ target⟩
    · exact ⟨consistent, recorded⟩

/-- A verification either dates the check of a subscription or drops a webhook subscription. -/
theorem verify_cases (settings : SubscriptionSettings) (standing : Standing Print)
    (pass : RefreshPass) (tid : TargetId) :
    (∃ last, standing.verify settings pass tid = { standing with verifiedAt := last }) ∨
      standing.webhook.isSome = true ∧ standing.verify settings pass tid =
        { standing with webhook := none, kind := none, print := none, verifiedAt := none } := by
  have seeded : ∃ last, standing.seed pass.verifyNow = { standing with verifiedAt := last } := by
    unfold Standing.seed
    split
    · exact ⟨_, rfl⟩
    · exact ⟨standing.verifiedAt, rfl⟩
  obtain ⟨last, seeded⟩ := seeded
  simp only [Standing.verify, seeded]
  split
  · next due =>
    rw [Bool.and_eq_true] at due
    unfold Standing.check
    split
    · exact .inl ⟨last, rfl⟩
    · split
      · exact .inl ⟨_, rfl⟩
      · exact .inr ⟨due.1, rfl⟩
  · exact .inl ⟨last, rfl⟩

theorem Consistent.verify {standing : Standing Print} (consistent : standing.Consistent)
    {row : Option AlertTarget} (recorded : Recorded digest row standing) (pass : RefreshPass)
    (tid : TargetId) :
    (standing.verify settings pass tid).Consistent ∧
      Recorded digest row (standing.verify settings pass tid) := by
  rcases verify_cases settings standing pass tid with ⟨last, dated⟩ | ⟨hook, dropped⟩
  · rw [dated]
    exact ⟨⟨consistent.exclusive, consistent.unmarked, consistent.kind⟩, recorded⟩
  · rw [dropped]
    have noSse : standing.sse = none :=
      consistent.exclusive.resolve_right (Option.isSome_iff_ne_none.mp hook)
    refine ⟨⟨.inr rfl, fun current => ?_, by simp [noSse]⟩, fun current => ?_⟩
    · simp [isCurrent, noSse] at current
    · simp [isCurrent, noSse] at current

@[simp] theorem isCurrent_clearIf (condition : Bool) (standing : Standing Print) :
    (standing.clearIf condition).isCurrent = standing.isCurrent := by
  unfold Standing.clearIf
  split <;> rfl

@[simp] theorem print_clearIf (condition : Bool) (standing : Standing Print) :
    (standing.clearIf condition).print = standing.print := by
  unfold Standing.clearIf
  split <;> rfl

theorem isCurrent_leaveIf (condition : Bool) (standing : Standing Print) :
    (standing.leaveIf condition).isCurrent = (standing.isCurrent && !condition) := by
  cases condition with
  | true => rw [Bool.not_true, Bool.and_false]; rfl
  | false => rw [Bool.not_false, Bool.and_true]; rfl

/-- What the teardown leaves subscribed was subscribed from the row as it is. -/
theorem recorded_tearDown [DecidableEq Print] (row : Option AlertTarget)
    (standing : Standing Print) : Recorded digest row (standing.tearDown digest row) := by
  intro current
  rw [tearDown, isCurrent_leaveIf, isCurrent_clearIf, Bool.and_eq_true,
    Bool.not_eq_true'] at current
  obtain ⟨current, stays⟩ := current
  rw [tearDown, leaveIf, stays, if_neg Bool.false_ne_true, print_clearIf]
  rw [isChanged, current, Bool.true_and, Bool.true_and, Bool.or_eq_false_iff] at stays
  cases row with
  | none => exact absurd stays.1 (by simp)
  | some target => exact ⟨target, rfl, by simpa using stays.2⟩

/-- A target to be added is not subscribed any more when the teardown is done. -/
theorem tearDown_absent [DecidableEq Print] {row : Option AlertTarget} {standing : Standing Print}
    (added : (!standing.isCurrent || standing.isChanged digest row) = true) :
    (standing.tearDown digest row).isCurrent = false := by
  rw [tearDown, isCurrent_leaveIf, isCurrent_clearIf]
  cases current : standing.isCurrent with
  | false => rfl
  | true =>
    rw [current, Bool.not_true, Bool.false_or] at added
    rw [added, Bool.or_true]
    rfl

/-- A pass keeps a standing consistent, and leaves its subscription recorded under the row. -/
theorem Consistent.refresh [DecidableEq Print] {standing : Standing Print}
    (consistent : standing.Consistent) (pass : RefreshPass) (tid : TargetId) :
    (standing.refresh digest settings pass tid).1.Consistent ∧
      Recorded digest (pass.alertTargets.get tid)
        (standing.refresh digest settings pass tid).1 := by
  have harvested : (standing.harvest settings (pass.failing tid)
      (pass.harvestedAt tid)).Consistent := consistent.harvest _ _
  unfold Standing.refresh
  generalize standing.harvest settings (pass.failing tid) (pass.harvestedAt tid) = before at *
  generalize pass.alertTargets.get tid = row
  have retried : ((before.tearDown digest row).retryDue settings pass.now).Consistent :=
    ((harvested.clearIf _).leaveIf _).clearIf _
  have recorded : Recorded digest row
      ((before.tearDown digest row).retryDue settings pass.now) := by
    unfold Standing.retryDue
    rw [Recorded, isCurrent_clearIf, print_clearIf]
    exact recorded_tearDown row before
  have absent (added : (!before.isCurrent || before.isChanged digest row) = true) :
      ((before.tearDown digest row).retryDue settings pass.now).isCurrent = false := by
    rw [Standing.retryDue, isCurrent_clearIf]
    exact tearDown_absent added
  have started := retried.startIf settings recorded absent (pass.answers tid)
  exact started.1.verify started.2 pass tid

/-! ### Marks and attempts -/

theorem retryAt_verify (settings : SubscriptionSettings) (standing : Standing Print)
    (pass : RefreshPass) (tid : TargetId) :
    (standing.verify settings pass tid).retryAt = standing.retryAt := by
  rcases verify_cases settings standing pass tid with ⟨last, dated⟩ | ⟨_, dropped⟩
  · rw [dated]
  · rw [dropped]

@[simp] theorem print_harvest (failing : Bool) (now : Time) (standing : Standing Print) :
    (standing.harvest settings failing now).print = standing.print := by
  unfold Standing.harvest
  split <;> rfl

section Refresh

variable [DecidableEq Print] {standing : Standing Print} {pass : RefreshPass} {tid : TargetId}

/-- A target that is not wanted keeps its mark until the cooldown has elapsed. -/
theorem Consistent.retryAt_refresh (consistent : standing.Consistent)
    (unwanted : pass.alertTargets.get tid = none) :
    (standing.refresh digest settings pass tid).1.retryAt =
      (standing.harvest settings (pass.failing tid) (pass.harvestedAt tid)).retryAt.filter
        fun retry => !settings.isDue pass.now retry := by
  have harvested : (standing.harvest settings (pass.failing tid)
      (pass.harvestedAt tid)).Consistent := consistent.harvest _ _
  unfold Standing.refresh
  generalize standing.harvest settings (pass.failing tid) (pass.harvestedAt tid) = before at *
  have torn : (before.tearDown digest none).retryAt = before.retryAt := by
    unfold Standing.tearDown Standing.leaveIf
    split
    · next current =>
      rw [Bool.and_eq_true] at current
      exact (harvested.unmarked current.1).symm
    · simp [isFixed, Standing.clearIf]
  rw [retryAt_verify, unwanted]
  show ((before.tearDown digest none).retryDue settings pass.now).retryAt = _
  rw [Standing.retryDue, Standing.clearIf, torn]
  cases marked : before.retryAt with
  | none => simp [torn, marked]
  | some retry => cases due : settings.isDue pass.now retry <;> 
      simp [torn, marked, due, Option.filter_some]

/-- A pass attempts a wanted target when nothing stands in the way at its turn. -/
theorem refresh_snd {target : AlertTarget} (wanted : pass.alertTargets.get tid = some target) :
    let before := standing.harvest settings (pass.failing tid) (pass.harvestedAt tid)
    (standing.refresh digest settings pass tid).2 =
      ((!before.isCurrent || before.isChanged digest (some target)) &&
        ((before.tearDown digest (some target)).retryDue settings pass.now).retryAt.isNone) := by
  intro before
  simp only [Standing.refresh, wanted, Standing.startIf]
  split
  · next chosen => exact chosen.symm
  · next refused => exact (Bool.not_eq_true _ ▸ refused : _ = false).symm

/-- A target without subscription is attempted when the pass clears its mark or finds none. -/
theorem attempted_iff_of_absent {target : AlertTarget}
    (wanted : pass.alertTargets.get tid = some target)
    (absent : (standing.harvest settings (pass.failing tid)
      (pass.harvestedAt tid)).isCurrent = false) :
    (standing.refresh digest settings pass tid).2 = true ↔
      ∀ retry, (standing.harvest settings (pass.failing tid) (pass.harvestedAt tid)).retryAt =
        some retry →
          (∃ print, standing.print = some print ∧ print ≠ targetFingerprint digest target) ∨
            settings.isDue pass.now retry = true := by
  have samePrint : (standing.harvest settings (pass.failing tid) (pass.harvestedAt tid)).print =
      standing.print := print_harvest _ _ _
  rw [refresh_snd wanted, absent, ← samePrint]
  generalize standing.harvest settings (pass.failing tid) (pass.harvestedAt tid) = before at *
  have torn : before.tearDown digest (some target) =
      before.clearIf (before.isFixed digest (some target)) := by
    rw [tearDown, absent, Bool.false_and]
    rfl
  rw [Bool.not_false, Bool.true_or, Bool.true_and, torn]
  cases marked : before.retryAt with
  | none => simp [Standing.retryDue, Standing.clearIf, isFixed, marked]
  | some retry =>
    cases recorded : before.print with
    | none =>
      cases due : settings.isDue pass.now retry <;>
        simp [Standing.retryDue, Standing.clearIf, isFixed, marked, recorded, due]
    | some print =>
      by_cases same : print = targetFingerprint digest target <;>
        cases due : settings.isDue pass.now retry <;>
          simp [Standing.retryDue, Standing.clearIf, isFixed, marked, recorded, due, same]

end Refresh

end Standing

end Gyanam
