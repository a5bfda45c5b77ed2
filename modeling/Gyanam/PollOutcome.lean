/-
This file settles when a poll has an outcome. The handler of a poll reads the
tags of the target, which are bound by the first statement of the try block. So
whatever raises after it reaches the handler with the tags bound, and the poll
returns a result that its runner records. When that first statement itself
raises, the handler raises in turn, and the runner records nothing.
-/

import Gyanam.Poller

namespace Gyanam

/-! ### What a poll leaves alone -/

/-- The poller apart from its client cache. -/
def RedfishPoller.apartFromClients (poller : RedfishPoller) : RedfishPoller :=
  { poller with clients := Table.empty, clientCacheHits := 0, clientCacheMisses := 0 }

/-- What no call of a poll touches: the tags once bound, and the poller apart from its cache. -/
def PollState.frame (state : PollState) : Option Json × RedfishPoller :=
  (state.targetTags, state.poller.apartFromClients)

section Frame

variable (recursionLimit : Nat) (world : PollWorld) (tid : TargetId) (target : Target)

theorem modifyPoller_keeps {change : RedfishPoller → RedfishPoller}
    (same : ∀ poller, (change poller).apartFromClients = poller.apartFromClients) :
    (modifyPoller change).Keeps PollState.frame :=
  Attempt.keeps_modify fun state => congrArg (Prod.mk state.targetTags) (same state.poller)

theorem getClient_keeps (password : String) (token : Option String) :
    (getClient world tid target password token).Keeps PollState.frame := by
  unfold getClient
  refine Attempt.keeps_bind (fun _ => rfl) fun state => ?_
  cases state.poller.clients.get tid with
  | some cached =>
    exact Attempt.keeps_bind (modifyPoller_keeps fun _ => rfl) fun _ => Attempt.keeps_pure _ _
  | none =>
    refine Attempt.keeps_bind (modifyPoller_keeps fun _ => rfl) fun _ => ?_
    dsimp only
    split
    · exact Attempt.keeps_pure _ _
    · exact Attempt.keeps_bind (modifyPoller_keeps fun _ => rfl) fun _ => Attempt.keeps_pure _ _

theorem pollTagged_keeps (targetTags : Json) :
    (pollTagged recursionLimit world tid target targetTags).Keeps PollState.frame := by
  unfold pollTagged
  refine Attempt.keeps_bind (fun _ => rfl) fun state => ?_
  refine Attempt.keeps_bind (Attempt.keeps_ofExcept _ _) fun reports => ?_
  refine Attempt.keeps_bind (Attempt.keeps_ofExcept _ _) fun password => ?_
  refine Attempt.keeps_bind (Attempt.keeps_ofExcept _ _) fun token => ?_
  refine Attempt.keeps_bind (getClient_keeps world tid target password token) fun found => ?_
  cases found with
  | none => exact Attempt.keeps_pure _ _
  | some client =>
    refine Attempt.keeps_bind (Attempt.keeps_ofExcept _ _) fun collection => ?_
    dsimp only
    split
    · exact Attempt.keeps_bind (modifyPoller_keeps fun _ => rfl) fun _ => Attempt.keeps_pure _ _
    · exact Attempt.keeps_pure _ _

/-- With the tags bound, the handler returns a failed result. -/
theorem start_pollHandler {state : PollState} {targetTags : Json}
    (bound : state.targetTags = some targetTags) (error : PollError) :
    ∃ closed, (pollHandler world tid target error).start state =
        (.ok (failedResult world tid target (.raised error) targetTags), closed) ∧
      closed.frame = state.frame := by
  unfold pollHandler readTargetTags closeClient modifyPoller
  simp only [Attempt.start_bind, Attempt.start_modify, Attempt.start_get, bound,
    Attempt.start_pure]
  exact ⟨_, rfl, congrArg (fun tags => (tags, state.poller.apartFromClients)) bound.symm⟩

/-- When the tags decode, a poll returns a result, and it changes nothing of the poller but its
client cache. -/
theorem pollTarget_of_tags {targetTags : Json}
    (decoded : getTargetTags recursionLimit target = .ok targetTags) (poller : RedfishPoller) :
    ∃ result state, (pollTarget recursionLimit world tid target).start ⟨poller, none⟩ =
        (.ok result, state) ∧
      state.poller.apartFromClients = poller.apartFromClients := by
  have kept := pollTagged_keeps recursionLimit world tid target targetTags
    ⟨poller, some targetTags⟩
  have body : (pollBody recursionLimit world tid target).start ⟨poller, none⟩ =
      (pollTagged recursionLimit world tid target targetTags).start ⟨poller, some targetTags⟩ := by
    unfold pollBody
    rw [Attempt.start_bind, Attempt.start_ofExcept, decoded]
    dsimp only
    rw [Attempt.start_bind, Attempt.start_modify]
  rw [pollTarget, Attempt.start_tryCatch, body]
  cases ran : (pollTagged recursionLimit world tid target targetTags).start
      ⟨poller, some targetTags⟩ with
  | mk outcome after =>
    rw [ran] at kept
    have bound : after.targetTags = some targetTags := congrArg Prod.fst kept
    cases outcome with
    | ok result => exact ⟨result, after, rfl, congrArg Prod.snd kept⟩
    | error error =>
      obtain ⟨closed, handled, same⟩ := start_pollHandler world tid target bound error
      exact ⟨_, closed, handled, congrArg Prod.snd (same.trans kept)⟩

/-- When the tags do not decode, a poll raises: the handler reads the tags unbound. -/
theorem pollTarget_of_error {error : PollError}
    (notDecoded : getTargetTags recursionLimit target = .error error) (poller : RedfishPoller) :
    ((pollTarget recursionLimit world tid target).start ⟨poller, none⟩).1 =
      .error (.unboundLocal "target_tags") := by
  unfold pollTarget pollBody pollHandler readTargetTags closeClient modifyPoller
  simp only [Attempt.start_tryCatch, Attempt.start_bind, Attempt.start_ofExcept, notDecoded,
    Attempt.start_modify, Attempt.start_get, Attempt.start_throw]

end Frame

/-! ### The outcome of a poll -/

/-- A poll has an outcome: it returns a result; its run records the status of the result; and when
the poll failed, the run reschedules the target, as its row is read again, with the failure
interval. A row that is gone has no schedule. -/
def HasOutcome (recursionLimit : Nat) (world : PollWorld) (tid : TargetId) (target : Target)
    (poller : RedfishPoller) : Prop :=
  ∃ result state,
    (pollTarget recursionLimit world tid target).start ⟨poller, none⟩ = (.ok result, state) ∧
    (poller.runPoll recursionLimit world tid target).pendingStatus.get tid =
      some (result.status, result.errorMessage) ∧
    (result.success = false → ∀ fresh, world.getTarget tid = .ok (some fresh) →
      (poller.runPoll recursionLimit world tid target).nextPollTime.get tid =
        some (poller.retryTime world fresh))

/-- The retry time depends on nothing a poll changes. -/
theorem retryTime_congr {poller other : RedfishPoller}
    (same : poller.apartFromClients = other.apartFromClients) (world : PollWorld)
    (fresh : Target) : poller.retryTime world fresh = other.retryTime world fresh := by
  show poller.apartFromClients.retryTime world fresh = other.apartFromClients.retryTime world fresh
  rw [same]

/-- Queueing a result changes only the queue and the count of dropped results. -/
theorem putResult_cases (poller : RedfishPoller) (result : PollResult) :
    ∃ queue dropped, poller.putResult result =
      { poller with resultQueue := queue, pollsDroppedQueueFull := dropped } := by
  unfold RedfishPoller.putResult
  split
  · exact ⟨_, _, rfl⟩
  · exact ⟨_, _, rfl⟩

/-- A poll has an outcome, whatever the cipher, the client and the repository do, exactly when the
tags of its target are empty or decode. -/
theorem poll_outcome_iff (recursionLimit : Nat) (world : PollWorld) (tid : TargetId)
    (target : Target) (poller : RedfishPoller) :
    HasOutcome recursionLimit world tid target poller ↔
      ∃ targetTags, getTargetTags recursionLimit target = .ok targetTags := by
  constructor
  · rintro ⟨result, state, returned, _⟩
    cases decoded : getTargetTags recursionLimit target with
    | ok targetTags => exact ⟨targetTags, rfl⟩
    | error error =>
      have raised := pollTarget_of_error recursionLimit world tid target decoded poller
      rw [returned] at raised
      exact absurd raised (by simp)
  · rintro ⟨targetTags, decoded⟩
    obtain ⟨result, state, returned, same⟩ :=
      pollTarget_of_tags recursionLimit world tid target decoded poller
    obtain ⟨queue, dropped, queued⟩ := putResult_cases { state.poller with
      pollsCompleted := state.poller.pollsCompleted + 1
      lastCompletedMonotonic := some world.completedAt } result
    refine ⟨result, state, returned, ?_, ?_⟩
    · unfold RedfishPoller.runPoll
      rw [returned]
      dsimp only
      rw [queued]
      split
      · exact (Table.get_set _ _ _ _).trans (if_pos rfl)
      · split <;> exact (Table.get_set _ _ _ _).trans (if_pos rfl)
    · intro failed fresh found
      unfold RedfishPoller.runPoll
      rw [returned]
      dsimp only
      rw [queued, failed, found]
      exact ((Table.get_set _ _ _ _).trans (if_pos rfl)).trans
        (congrArg some (retryTime_congr same world fresh))

/-- A target whose tags are an opening brace. -/
def braceTarget : Target := { sampleTarget with tags := some "\x7b" }

/-- Every call succeeds. -/
def fairWorld : PollWorld where
  decrypt encrypted := .ok encrypted
  connect _ := .ok ()
  getMetricReport _ _ _ := .ok { success := true, content := [0x5B, 0x5D] }
  collectDiagnosticData _ _ _ := .ok { success := true }
  getTarget _ := .ok (some braceTarget)

/-- The poll of that target has no outcome, although every call it could make succeeds. -/
theorem braceTarget_no_outcome :
    ¬ ∀ (recursionLimit : Nat) (world : PollWorld) (tid : TargetId) (target : Target)
      (poller : RedfishPoller), HasOutcome recursionLimit world tid target poller := by
  intro claimed
  obtain ⟨result, state, returned, _⟩ := claimed 1000 fairWorld 1 braceTarget {}
  have notDecoded : getTargetTags 1000 braceTarget = .error (.json .malformed) := rfl
  have raised := pollTarget_of_error 1000 fairWorld 1 braceTarget notDecoded {}
  rw [returned] at raised
  exact absurd raised (by simp)

end Gyanam
