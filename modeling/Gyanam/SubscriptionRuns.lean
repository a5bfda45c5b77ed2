/-
This file follows the alert manager over runs of passes. Every pass leaves its
books in order. Its failure marks are another matter. A mark is cleared when the
row of its target gets another fingerprint than the one on record, but a target
that never got a subscription has none on record. And a mark is cleared when the
target is no longer wanted, but only if the target is subscribed, which a marked
one is not.
-/

import Gyanam.SubscriptionStanding

namespace Gyanam

/-! ### The machine -/

/-- The maps after some passes, and the active targets of the last one. -/
structure Watch (Print : Type) where
  subs : Subscriptions Print := {}
  targets : Table TargetId AlertTarget := Table.empty

section Runs

variable {Print : Type} [DecidableEq Print] (digest : String → Print)
  (settings : SubscriptionSettings)

/-- One pass. -/
def Watch.step (watch : Watch Print) (pass : RefreshPass) : Watch Print where
  subs := (Subscriptions.refresh digest settings pass watch.subs).subs
  targets := pass.targets

/-- The passes of one alert manager. -/
def refreshMachine : Machine (Watch Print) RefreshPass where
  step watch pass := some (watch.step digest settings pass)

end Runs

/-- The active targets with alert subscription enabled, as of the last pass. -/
def Watch.alertTargets {Print : Type} (watch : Watch Print) : Table TargetId AlertTarget :=
  watch.targets.deleteWhere fun _ target => !target.enableAlertSubscription

/-! ### The books -/

/-- The books of an alert manager over the active targets: the two kinds of subscribers are
disjoint, every subscribed target is active with alerts enabled and on record under the fingerprint
of its row, none is marked, and the types are those of the subscribers. -/
structure Subscriptions.Kept {Print : Type} (digest : String → Print)
    (targets : Table TargetId AlertTarget) (subs : Subscriptions Print) : Prop where
  disjoint : ∀ tid ∈ subs.subscribers.keys, tid ∉ subs.webhookSubscribers.keys
  present : ∀ tid ∈ subs.currentIds, ∃ target, targets.get tid = some target ∧
    target.enableAlertSubscription = true ∧
    subs.subFingerprints.get tid = some (targetFingerprint digest target)
  unmarked : ∀ tid ∈ subs.currentIds, tid ∉ subs.permanentlyFailed.keys
  types : ∀ tid kind, subs.subscriptionTypes.get tid = some kind ↔
    kind = .sse ∧ tid ∈ subs.subscribers.keys ∨ kind = .webhook ∧ tid ∈ subs.webhookSubscribers.keys

theorem get_alertTargets {targets : Table TargetId AlertTarget} {tid : TargetId}
    {target : AlertTarget} :
    (targets.deleteWhere fun _ target => !target.enableAlertSubscription).get tid = some target ↔
      targets.get tid = some target ∧ target.enableAlertSubscription = true := by
  rw [Table.get_deleteWhere, Option.filter_eq_some_iff, Bool.not_not]

namespace Subscriptions

variable {Print : Type} {digest : String → Print}

/-- The books are kept when every standing is in order. -/
theorem kept_of_standings {targets : Table TargetId AlertTarget} {subs : Subscriptions Print}
    (consistent : ∀ tid, (subs.standing tid).Consistent)
    (recorded : ∀ tid, (subs.standing tid).Recorded digest
      ((targets.deleteWhere fun _ target => !target.enableAlertSubscription).get tid)) :
    subs.Kept digest targets where
  disjoint := by
    intro tid streamed hooked
    rw [mem_subscribers, Option.isSome_iff_ne_none] at streamed
    rw [mem_webhookSubscribers, Option.isSome_iff_ne_none] at hooked
    exact (consistent tid).exclusive.elim streamed hooked
  present := by
    intro tid current
    obtain ⟨target, found, print⟩ := recorded tid (mem_currentIds.mp current)
    rw [get_alertTargets] at found
    exact ⟨target, found.1, found.2, print⟩
  unmarked := by
    intro tid current marked
    rw [mem_permanentlyFailed, (consistent tid).unmarked (mem_currentIds.mp current)] at marked
    exact absurd marked (by simp)
  types := by
    intro tid kind
    obtain ⟨exclusive, _, kindIs⟩ := consistent tid
    rw [mem_subscribers, mem_webhookSubscribers,
      show subs.subscriptionTypes.get tid = (subs.standing tid).kind from rfl, kindIs]
    generalize subs.standing tid = standing at exclusive
    rcases standing with ⟨_ | _, _ | _, _, _, _, _⟩ <;> cases kind <;> simp_all

end Subscriptions

/-! ### Standings over passes -/

section Standings

variable {Print : Type} (digest : String → Print) (settings : SubscriptionSettings)

/-- Every standing is in order with the last pass. -/
def Watch.Settled (watch : Watch Print) : Prop :=
  ∀ tid, (watch.subs.standing tid).Consistent ∧
    (watch.subs.standing tid).Recorded digest (watch.alertTargets.get tid)

/-- Every standing is in order, and the marked targets are among the wanted ones. -/
structure Watch.Confined (watch : Watch Print) : Prop where
  settled : watch.Settled digest
  present : ∀ tid ∈ watch.subs.permanentlyFailed.keys, tid ∈ watch.alertTargets.keys

theorem settled_empty : ({} : Watch Print).Settled digest := by
  intro tid
  refine ⟨⟨.inl rfl, fun _ => rfl, rfl⟩, fun current => ?_⟩
  exact absurd current (by simp [Standing.isCurrent, Subscriptions.standing])

/-- When a target is retried that is marked by the time a pass has harvested the failed streams: it
was marked before, or its stream is harvested. -/
def Subscriptions.markOf (subs : Subscriptions Print) (pass : RefreshPass) (tid : TargetId) :
    Option RetryAt :=
  match subs.permanentlyFailed.get tid with
  | some retry => some retry
  | none =>
    if tid ∈ subs.subscribers.keys ∧ pass.failing tid = true then
      some (settings.retryAt (pass.harvestedAt tid))
    else none

theorem markOf_eq (subs : Subscriptions Print) (pass : RefreshPass) (tid : TargetId) :
    subs.markOf settings pass tid = ((subs.standing tid).harvest settings (pass.failing tid)
      (pass.harvestedAt tid)).retryAt := by
  rw [Subscriptions.markOf, Standing.harvest,
    show subs.permanentlyFailed.get tid = (subs.standing tid).retryAt from rfl]
  simp only [Subscriptions.mem_subscribers, Bool.and_eq_true]
  by_cases harvested : (subs.standing tid).sse.isSome = true ∧ pass.failing tid = true
  · cases (subs.standing tid).retryAt <;> simp [harvested]
  · cases marked : (subs.standing tid).retryAt <;> simp [harvested, marked]

/-- A marked target is not subscribed. -/
theorem Watch.Settled.absent {watch : Watch Print} (settled : watch.Settled digest)
    {pass : RefreshPass} {tid : TargetId} {retry : RetryAt}
    (marked : watch.subs.markOf settings pass tid = some retry) :
    ((watch.subs.standing tid).harvest settings (pass.failing tid)
      (pass.harvestedAt tid)).isCurrent = false := by
  rw [markOf_eq] at marked
  have harvested : ((watch.subs.standing tid).harvest settings (pass.failing tid)
      (pass.harvestedAt tid)).Consistent := (settled tid).1.harvest _ _
  rw [← Bool.not_eq_true]
  intro current
  rw [harvested.unmarked current] at marked
  exact absurd marked (by simp)

/-- By the time of a pass the cooldown has elapsed for every marked target that is not wanted. -/
def CooledDown (watch : Watch Print) (pass : RefreshPass) : Prop :=
  ∀ tid retry, watch.subs.markOf settings pass tid = some retry →
    tid ∉ pass.alertTargets.keys → settings.isDue pass.now retry = true

end Standings

section Passes

variable {Print : Type} [DecidableEq Print] {digest : String → Print}
  {settings : SubscriptionSettings}

theorem Watch.Settled.step {watch : Watch Print} (settled : watch.Settled digest)
    (settings : SubscriptionSettings)
    (pass : RefreshPass) : (watch.step digest settings pass).Settled digest := by
  intro tid
  have standing : ((watch.step digest settings pass).subs.standing tid) =
      ((watch.subs.standing tid).refresh digest settings pass tid).1 :=
    congrArg Prod.fst (Subscriptions.view_refresh digest settings pass watch.subs tid)
  rw [standing]
  exact (settled tid).1.refresh pass tid

theorem settled_next {watch next : Watch Print} {pass : RefreshPass}
    (settled : watch.Settled digest)
    (step : (refreshMachine digest settings).step watch pass = some next) :
    next.Settled digest := by
  rw [← Option.some.inj step]
  exact settled.step settings pass

theorem mem_attempted {watch : Watch Print} {pass : RefreshPass} {tid : TargetId} :
    tid ∈ (Subscriptions.refresh digest settings pass watch.subs).attempted ↔
      ((watch.subs.standing tid).refresh digest settings pass tid).2 = true := by
  rw [← Subscriptions.view_refresh]
  exact (decide_eq_true_iff).symm

end Passes

/-! ### A run -/

/-- Options without automatic retry of permanent failures. -/
def withoutRetry : SubscriptionSettings where
  permanentFailureRetry := none

/-- A target whose stored password is not the one of its BMC. -/
def lockedTarget : AlertTarget where
  toTarget := sampleTarget

/-- The target with the password of its BMC. -/
def unlockedTarget : AlertTarget where
  toTarget := { sampleTarget with encryptedPassword := "renewed" }

/-- A pass over one target; the BMC has no event stream and refuses a webhook for good. -/
def refusedPass (target : AlertTarget) : RefreshPass where
  targets := Table.empty.set 1 target
  answers := fun _ => {
    sseSupport := some .notSupported
    created := some { success := false, failureType := some .permanent } }

/-- A pass without targets. -/
def emptyPass : RefreshPass where
  targets := Table.empty

/-! ### Every pass leaves the books in order -/

section Runs

variable {Print : Type} [DecidableEq Print] (digest : String → Print)
  (settings : SubscriptionSettings)

/-- After every pass of every run the books are kept: whatever targets are active, whatever rows
were edited, whichever streams failed, and whatever the BMCs answered. -/
theorem refresh_keeps_books (passes : List RefreshPass) :
    (refreshMachine digest settings).Throughout (fun watch pass =>
      (Subscriptions.refresh digest settings pass watch.subs).subs.Kept digest pass.targets)
      {} passes := by
  refine (refreshMachine digest settings).throughout_mono
    (fun settled _ step => settled_next settled step) (fun settled _ => ?_)
    (settled_empty digest) ((refreshMachine digest settings).throughout_true _ _)
  have after := settled.step settings
  exact Subscriptions.kept_of_standings (fun tid => (after _ tid).1) fun tid => (after _ tid).2

/-! ### Marks of absent targets -/

/-- After a pass every marked target is active with alerts enabled. -/
def MarksPresent (watch : Watch Print) (pass : RefreshPass) : Prop :=
  ∀ tid ∈ (Subscriptions.refresh digest settings pass watch.subs).subs.permanentlyFailed.keys,
    tid ∈ pass.alertTargets.keys

/-- A pass attempts every wanted target that the pass before did not find wanted. -/
def ReturnsAttempted (watch : Watch Print) (pass : RefreshPass) : Prop :=
  ∀ tid ∈ pass.alertTargets.keys, tid ∉ watch.alertTargets.keys →
    tid ∈ (Subscriptions.refresh digest settings pass watch.subs).attempted

theorem marksPresent_iff {watch : Watch Print} (settled : watch.Settled digest)
    (pass : RefreshPass) :
    MarksPresent digest settings watch pass ↔ CooledDown settings watch pass := by
  have after {tid : TargetId} (unwanted : pass.alertTargets.get tid = none) :
      ((Subscriptions.refresh digest settings pass watch.subs).subs.standing tid).retryAt =
        (watch.subs.markOf settings pass tid).filter fun retry =>
          !settings.isDue pass.now retry := by
    rw [markOf_eq, ← (settled tid).1.retryAt_refresh unwanted, ← Subscriptions.view_refresh]
    rfl
  constructor
  · intro present tid retry marked unwanted
    rw [← Bool.not_eq_false]
    intro waiting
    refine unwanted (present tid ?_)
    rw [Subscriptions.mem_permanentlyFailed, after (Table.get_eq_none_iff.mpr unwanted), marked,
      Option.filter_some, waiting]
    rfl
  · intro cooled tid left
    by_contra unwanted
    rw [Subscriptions.mem_permanentlyFailed, after (Table.get_eq_none_iff.mpr unwanted)] at left
    cases marked : watch.subs.markOf settings pass tid with
    | none => simp [marked] at left
    | some retry => simp [marked, Option.filter_some, cooled tid retry marked unwanted] at left

/-- A target that was not wanted is neither subscribed nor marked, so a pass that finds it wanted
attempts it. -/
theorem returnsAttempted {watch : Watch Print} (confined : watch.Confined digest)
    (pass : RefreshPass) : ReturnsAttempted digest settings watch pass := by
  obtain ⟨settled, present⟩ := confined
  intro tid wanted fresh
  obtain ⟨target, found⟩ := Table.mem_keys_iff.mp wanted
  have absent : (watch.subs.standing tid).isCurrent = false := by
    rw [← Bool.not_eq_true]
    intro current
    obtain ⟨old, stored, _⟩ := (settled tid).2 current
    exact fresh (Table.mem_keys_iff.mpr ⟨old, stored⟩)
  have unmarked : (watch.subs.standing tid).retryAt = none := by
    rw [← Option.not_isSome_iff_eq_none, ← Subscriptions.mem_permanentlyFailed]
    exact fun marked => fresh (present tid marked)
  have kept : (watch.subs.standing tid).harvest settings (pass.failing tid)
      (pass.harvestedAt tid) = watch.subs.standing tid := by
    rw [Standing.harvest, ((settled tid).1.absent absent).1]
    rfl
  rw [mem_attempted, Standing.attempted_iff_of_absent found (by rw [kept, absent]), kept, unmarked]
  exact fun retry marked => absurd marked (by simp)

/-- Failure marks are confined to wanted targets, and a target that comes back is attempted, after
every pass of a run exactly when no pass finds a marked target unwanted before its cooldown has
elapsed. -/
theorem marks_confined_iff (passes : List RefreshPass) :
    (refreshMachine digest settings).Throughout (fun watch pass =>
      MarksPresent digest settings watch pass ∧ ReturnsAttempted digest settings watch pass)
      {} passes ↔
    (refreshMachine digest settings).Throughout (CooledDown settings) {} passes := by
  constructor
  · refine (refreshMachine digest settings).throughout_mono
      (fun settled _ step => settled_next settled step) (fun settled both => ?_)
      (settled_empty digest)
    exact (marksPresent_iff digest settings settled _).mp both.1
  · have initial : ({} : Watch Print).Confined digest :=
      ⟨settled_empty digest, fun tid member => absurd member List.not_mem_nil⟩
    refine (refreshMachine digest settings).throughout_mono (fun confined cooled step => ?_)
      (fun confined cooled => ?_) initial
    · have present := (marksPresent_iff digest settings confined.settled _).mpr cooled
      refine ⟨settled_next confined.settled step, ?_⟩
      rw [← Option.some.inj step]
      exact present
    · exact ⟨(marksPresent_iff digest settings confined.settled _).mpr cooled,
        returnsAttempted digest settings confined _⟩

/-- A target that was refused and is then disabled stays marked, and is passed over when it comes
back. -/
theorem disabledTarget_stays_marked :
    ¬ (refreshMachine id withoutRetry).Throughout (fun watch pass =>
      MarksPresent id withoutRetry watch pass ∧ ReturnsAttempted id withoutRetry watch pass)
      {} [refusedPass lockedTarget, emptyPass, refusedPass lockedTarget] := by
  intro throughout
  have returns := (((throughout.2 _ rfl).2 _ rfl).1).2 1 (by decide) (by decide)
  exact absurd returns (by decide)

/-! ### Marks of fixed targets -/

/-- A pass attempts every marked target whose connection-relevant configuration has changed since
the last pass. -/
def FixesAttempted (watch : Watch Print) (pass : RefreshPass) : Prop :=
  ∀ tid old new, watch.alertTargets.get tid = some old → pass.alertTargets.get tid = some new →
    connectionParts old ≠ connectionParts new →
    (watch.subs.markOf settings pass tid).isSome = true →
    tid ∈ (Subscriptions.refresh digest settings pass watch.subs).attempted

/-- Where the configuration of a marked target has changed since the last pass, the fingerprint on
record is another than that of its row, or the cooldown has elapsed. -/
def FixesSeen (watch : Watch Print) (pass : RefreshPass) : Prop :=
  ∀ tid old new, watch.alertTargets.get tid = some old → pass.alertTargets.get tid = some new →
    connectionParts old ≠ connectionParts new →
    ∀ retry, watch.subs.markOf settings pass tid = some retry →
      (∃ print, watch.subs.subFingerprints.get tid = some print ∧
        print ≠ targetFingerprint digest new) ∨ settings.isDue pass.now retry = true

theorem fixesAttempted_iff {watch : Watch Print} (settled : watch.Settled digest)
    (pass : RefreshPass) :
    FixesAttempted digest settings watch pass ↔ FixesSeen digest settings watch pass := by
  refine forall_congr' fun tid => forall_congr' fun old => forall_congr' fun new =>
    forall_congr' fun _ => forall_congr' fun found => forall_congr' fun _ => ?_
  rw [mem_attempted]
  cases marked : watch.subs.markOf settings pass tid with
  | none => simp
  | some retry =>
    have absent := settled.absent digest settings marked
    rw [Standing.attempted_iff_of_absent found absent, ← markOf_eq, marked]
    simp only [Option.isSome_some, true_implies]
    rfl

/-- Every pass of a run attempts the marked targets whose configuration has changed exactly when at
every pass the fingerprint on record for such a target, which there must be, is another than that of
its row, or its cooldown has elapsed. -/
theorem fixes_attempted_iff (passes : List RefreshPass) :
    (refreshMachine digest settings).Throughout (FixesAttempted digest settings) {} passes ↔
      (refreshMachine digest settings).Throughout (FixesSeen digest settings) {} passes := by
  constructor
  · exact (refreshMachine digest settings).throughout_mono
      (fun settled _ step => settled_next settled step)
      (fun settled attempted => (fixesAttempted_iff digest settings settled _).mp attempted)
      (settled_empty digest)
  · exact (refreshMachine digest settings).throughout_mono
      (fun settled _ step => settled_next settled step)
      (fun settled seen => (fixesAttempted_iff digest settings settled _).mpr seen)
      (settled_empty digest)

/-- A target that was refused at its first attempt is passed over when its password is renewed. -/
theorem renewedPassword_unseen :
    ¬ (refreshMachine id withoutRetry).Throughout (FixesAttempted id withoutRetry) {}
      [refusedPass lockedTarget, refusedPass unlockedTarget] := by
  intro throughout
  have attempted := (throughout.2 _ rfl).1 1 lockedTarget unlockedTarget rfl rfl
    (by decide) (by decide)
  exact absurd attempted (by decide)

end Runs

end Gyanam
