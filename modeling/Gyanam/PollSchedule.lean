/-
This file models when targets are polled. The poller keeps a time for each
target. A pass of its loop starts the polls that are due and moves their times
ahead before it starts them; a target without a time is given one, and the times
of targets that are no longer active are dropped. A poll that fails moves the
time of its target again when it ends. Passes and polls overlap: a poll may take
longer than its interval, and the rows of the targets may change meanwhile.

Two things are proved of every run. Two polls of a target that stays active are
never started closer to each other than the interval less its jitter. And after
every pass each active target is in flight or has a time ahead, which is at most
an interval away, so that none is forgotten.

The clock and the random numbers are in microseconds and come with the events.
The random numbers are within the bounds they are asked for.
-/

import Mathlib.Tactic.Linarith
import Gyanam.Lib.Machine
import Gyanam.PollOutcome

namespace Gyanam

/-! ### A pass -/

/-- A source of random numbers between two bounds. -/
abbrev Uniform := Time → Time → Time

/-- What a pass meets: the active targets, the clock, and the random numbers for each target. -/
structure SchedulePass where
  targets : Table TargetId Target
  now : Time
  randomStart : TargetId → Uniform := fun _ low _ => low
  jitter : TargetId → Uniform := fun _ low _ => low

/-- Microseconds of a number of seconds. -/
def seconds (count : Int) : Time := count * 1000000

/-- A poller at work, with its polls in flight. The row a poll works on is there until its run has
ended, the entry until the callback takes it out. -/
structure Pacing where
  poller : RedfishPoller
  running : Bool := false
  inflight : Table TargetId (Option Target) := Table.empty
  clock : Time := 0

namespace RedfishPoller

variable (poller : RedfishPoller) (pass : SchedulePass)

/-- The first time of a target among several that are spread over the poll interval. -/
def staggered (randomStart jitter : Time) (count index : Nat) (target : Target) : Time :=
  let interval := poller.getTargetInterval target true
  let stagger := index * seconds poller.pollInterval / count
  pass.now + max 0 ((randomStart + stagger) % seconds interval + jitter)

/-- Schedule newly added targets with stagger to maintain load distribution. -/
def scheduleNewTargets (newTargets : List (TargetId × Target)) : RedfishPoller :=
  { poller with
    nextPollTime := newTargets.zipIdx.foldl (fun times entry =>
      let (tid, target) := entry.1
      let interval := poller.getTargetInterval target true
      times.set tid (poller.staggered pass
        (pass.randomStart tid 0 (interval * 100000))
        (pass.jitter tid (-interval * 10000) (interval * 10000))
        newTargets.length entry.2 target)) poller.nextPollTime }

/-- Initialize staggered poll schedule for all targets. -/
def initializeStaggeredSchedule : RedfishPoller :=
  let pollTargets := pass.targets.rows.filter fun row => row.2.connectionMode ≠ "sse"
  { poller with
    nextPollTime := pollTargets.zipIdx.foldl (fun times entry =>
      let (tid, target) := entry.1
      if (times.get tid).isSome then times
      else
        let interval := poller.getTargetInterval target true
        times.set tid (poller.staggered pass 0
          (pass.jitter tid (-interval * 10000) (interval * 10000))
          pollTargets.length entry.2 target)) poller.nextPollTime }

/-- The next time of a target whose poll is started by a pass. -/
def dueAgain (tid : TargetId) (target : Target) : Time :=
  let interval := poller.getTargetInterval target true
  pass.now + seconds interval + pass.jitter tid (-interval * 20000) (interval * 20000)

end RedfishPoller

namespace Pacing

variable (pacing : Pacing) (pass : SchedulePass)

/-- The targets that a pass may start: those that are polled, and whose last poll is not in
flight. -/
def idleTargets : List (TargetId × Target) :=
  pass.targets.rows.filter fun row =>
    row.2.connectionMode ≠ "sse" && (pacing.inflight.get row.1).isNone

/-- The targets that have no time yet. -/
def newTargets : List (TargetId × Target) :=
  (pacing.idleTargets pass).filter fun row => (pacing.poller.nextPollTime.get row.1).isNone

/-- The targets whose time has come. -/
def dueTargets : List (TargetId × Target) :=
  (pacing.idleTargets pass).filter fun row =>
    (pacing.poller.nextPollTime.get row.1).any fun next => next ≤ pass.now

/-- Fire off poll tasks for targets that are due. -/
def scheduleDuePolls : Pacing :=
  if pass.targets.rows = [] then pacing
  else
    let due := pacing.dueTargets pass
    let scheduled := pacing.poller.scheduleNewTargets pass (pacing.newTargets pass)
    let active := scheduled.nextPollTime.deleteWhere fun tid _ => (pass.targets.get tid).isNone
    { pacing with
      poller := { pacing.poller with
        nextPollTime := due.foldl (fun times row =>
          times.set row.1 (pacing.poller.dueAgain pass row.1 row.2)) active }
      inflight := due.foldl (fun polls row => polls.set row.1 (some row.2)) pacing.inflight }

/-! ### The machine -/

/-- What happens to a poller: it is started or stopped, its loop makes a pass, the run of a poll
ends, or the callback of one that has ended is called. -/
inductive Event where
  | start (pass : SchedulePass)
  | stop
  | pass (pass : SchedulePass)
  | finish (tid : TargetId) (world : PollWorld)
  | released (tid : TargetId)

/-- One event. The clock does not go back. -/
def step (recursionLimit : Nat) (pacing : Pacing) : Event → Option Pacing
  | .start pass =>
    if pacing.running = false ∧ pacing.clock ≤ pass.now then
      some { pacing with
        running := true
        clock := pass.now
        poller := pacing.poller.initializeStaggeredSchedule pass }
    else none
  | .stop => some { pacing with running := false }
  | .pass pass =>
    if pacing.running = true ∧ pacing.clock ≤ pass.now then
      some { pacing.scheduleDuePolls pass with clock := pass.now }
    else none
  | .finish tid world =>
    match pacing.inflight.get tid with
    | some (some target) =>
      if pacing.clock ≤ world.rescheduledAt then
        some { pacing with
          poller := pacing.poller.runPoll recursionLimit world tid target
          inflight := pacing.inflight.set tid none
          clock := world.rescheduledAt }
      else none
    | _ => none
  | .released tid =>
    match pacing.inflight.get tid with
    | some none => some { pacing with inflight := pacing.inflight.remove tid }
    | _ => none

/-- A poller at work. -/
def machine (recursionLimit : Nat) : Machine Pacing Event := ⟨step recursionLimit⟩

end Pacing

/-! ### What a poll does to the schedule -/

section Run

variable (recursionLimit : Nat) (world : PollWorld) (tid : TargetId) (target : Target)

/-- A poll changes nothing of the poller but its client cache, whatever comes of it. -/
theorem pollTarget_apartFromClients (poller : RedfishPoller) :
    ((pollTarget recursionLimit world tid target).start
      ⟨poller, none⟩).2.poller.apartFromClients = poller.apartFromClients := by
  cases decoded : getTargetTags recursionLimit target with
  | ok targetTags =>
    obtain ⟨result, state, returned, same⟩ :=
      pollTarget_of_tags recursionLimit world tid target decoded poller
    rw [returned]
    exact same
  | error error =>
    unfold pollTarget pollBody pollHandler readTargetTags closeClient modifyPoller
    simp only [Attempt.start_tryCatch, Attempt.start_bind, Attempt.start_ofExcept, decoded,
      Attempt.start_modify, Attempt.start_get, Attempt.start_throw]
    rfl

/-- The intervals depend on nothing a poll changes. -/
theorem getTargetInterval_congr {poller other : RedfishPoller}
    (same : poller.apartFromClients = other.apartFromClients) :
    poller.getTargetInterval = other.getTargetInterval := by
  funext row succeeded
  show poller.apartFromClients.getTargetInterval row succeeded =
    other.apartFromClients.getTargetInterval row succeeded
  rw [same]

/-- The run of a poll keeps the intervals. -/
theorem getTargetInterval_runPoll (poller : RedfishPoller) :
    (poller.runPoll recursionLimit world tid target).getTargetInterval =
      poller.getTargetInterval := by
  have kept := getTargetInterval_congr
    (pollTarget_apartFromClients recursionLimit world tid target poller)
  rw [← kept]
  unfold RedfishPoller.runPoll
  cases (pollTarget recursionLimit world tid target).start ⟨poller, none⟩ with
  | mk outcome state =>
    cases outcome with
    | error error => rfl
    | ok result =>
      dsimp only
      obtain ⟨queue, dropped, queued⟩ := putResult_cases { state.poller with
        pollsCompleted := state.poller.pollsCompleted + 1
        lastCompletedMonotonic := some world.completedAt } result
      rw [queued]
      split
      · rfl
      · split <;> rfl

/-- The run of a poll leaves the times alone, or moves that of its target as its row says. -/
theorem nextPollTime_runPoll (poller : RedfishPoller) :
    (poller.runPoll recursionLimit world tid target).nextPollTime = poller.nextPollTime ∨
      ∃ fresh, world.getTarget tid = .ok (some fresh) ∧
        (poller.runPoll recursionLimit world tid target).nextPollTime =
          poller.nextPollTime.set tid (poller.retryTime world fresh) := by
  have same := pollTarget_apartFromClients recursionLimit world tid target poller
  have times := congrArg RedfishPoller.nextPollTime same
  have retry := fun fresh => retryTime_congr same world fresh
  unfold RedfishPoller.runPoll
  revert times retry
  cases (pollTarget recursionLimit world tid target).start ⟨poller, none⟩ with
  | mk outcome state =>
    intro times retry
    have kept : state.poller.nextPollTime = poller.nextPollTime := times
    cases outcome with
    | error error => exact .inl kept
    | ok result =>
      dsimp only
      obtain ⟨queue, dropped, queued⟩ := putResult_cases { state.poller with
        pollsCompleted := state.poller.pollsCompleted + 1
        lastCompletedMonotonic := some world.completedAt } result
      rw [queued]
      split
      · exact .inl kept
      · cases found : world.getTarget tid with
        | error error => exact .inl kept
        | ok row =>
          cases row with
          | none => exact .inl kept
          | some fresh =>
            refine .inr ⟨fresh, rfl, ?_⟩
            show state.poller.nextPollTime.set tid _ = _
            rw [kept]
            exact congrArg _ (retry fresh)

end Run

/-! ### The bounds of one step -/

/-- A source of random numbers keeps to the bounds it is asked for. -/
def IsFair (uniform : Uniform) : Prop :=
  ∀ low high, low ≤ high → low ≤ uniform low high ∧ uniform low high ≤ high

namespace RedfishPoller

variable (poller : RedfishPoller) (pass : SchedulePass)

theorem dueAgain_bounds {tid : TargetId} {target : Target} (fair : IsFair (pass.jitter tid))
    (positive : 0 ≤ poller.getTargetInterval target true) :
    pass.now + poller.getTargetInterval target true * 980000 ≤ poller.dueAgain pass tid target ∧
      poller.dueAgain pass tid target ≤
        pass.now + poller.getTargetInterval target true * 1020000 := by
  obtain ⟨lower, upper⟩ := fair (-poller.getTargetInterval target true * 20000)
    (poller.getTargetInterval target true * 20000) (by linarith)
  unfold dueAgain seconds
  dsimp only
  constructor <;> linarith

theorem retryTime_bounds {world : PollWorld} {fresh : Target} (fair : IsFair world.uniform)
    (positive : 0 ≤ poller.getTargetInterval fresh false) :
    world.rescheduledAt + poller.getTargetInterval fresh false * 980000 ≤
        poller.retryTime world fresh ∧
      poller.retryTime world fresh ≤
        world.rescheduledAt + poller.getTargetInterval fresh false * 1020000 := by
  obtain ⟨lower, upper⟩ := fair (-poller.getTargetInterval fresh false * 20000)
    (poller.getTargetInterval fresh false * 20000) (by linarith)
  unfold retryTime
  dsimp only
  constructor <;> linarith

theorem staggered_bounds {tid : TargetId} {target : Target} (randomStart : Time)
    (fair : IsFair (pass.jitter tid)) (positive : 0 < poller.getTargetInterval target true)
    (count index : Nat) :
    let interval := poller.getTargetInterval target true
    let first := poller.staggered pass randomStart
      (pass.jitter tid (-interval * 10000) (interval * 10000)) count index target
    pass.now ≤ first ∧ first ≤ pass.now + interval * 1020000 := by
  obtain ⟨_, upper⟩ := fair (-poller.getTargetInterval target true * 10000)
    (poller.getTargetInterval target true * 10000) (by linarith)
  have below := Int.emod_lt_of_pos
    (randomStart + index * seconds poller.pollInterval / count)
    (show 0 < seconds (poller.getTargetInterval target true) by unfold seconds; linarith)
  dsimp only
  unfold staggered
  dsimp only
  unfold seconds at below ⊢
  dsimp only [Time] at below upper ⊢
  constructor <;> omega

/-- A new target has a first time. -/
theorem get_scheduleNewTargets {newTargets : List (TargetId × Target)}
    (distinct : (newTargets.map Prod.fst).Nodup) {tid : TargetId} {target : Target}
    (member : (tid, target) ∈ newTargets) :
    ∃ index, (poller.scheduleNewTargets pass newTargets).nextPollTime.get tid =
      some (poller.staggered pass
        (pass.randomStart tid 0 (poller.getTargetInterval target true * 100000))
        (pass.jitter tid (-poller.getTargetInterval target true * 10000)
          (poller.getTargetInterval target true * 10000)) newTargets.length index target) := by
  obtain ⟨index, inside, found⟩ := List.mem_iff_getElem.mp member
  have listed : ((tid, target), index) ∈ newTargets.zipIdx := by
    rw [List.mem_zipIdx_iff_getElem?, List.getElem?_eq_getElem inside, found]
  have keys : (newTargets.zipIdx.map fun entry => entry.1.1).Nodup := by
    have firsts : newTargets.zipIdx.map (fun entry => entry.1.1) = newTargets.map Prod.fst := by
      rw [← Function.comp_def Prod.fst Prod.fst, ← List.map_map, List.zipIdx_map_fst]
    rwa [firsts]
  exact ⟨index, Table.get_foldl_set_of_mem poller.nextPollTime _ keys listed⟩

/-- The others keep theirs. -/
theorem get_scheduleNewTargets_of_notMem {newTargets : List (TargetId × Target)} {tid : TargetId}
    (absent : tid ∉ newTargets.map Prod.fst) :
    (poller.scheduleNewTargets pass newTargets).nextPollTime.get tid =
      poller.nextPollTime.get tid := by
  have notListed : tid ∉ newTargets.zipIdx.map fun entry => entry.1.1 := by
    rwa [← Function.comp_def Prod.fst Prod.fst, ← List.map_map, List.zipIdx_map_fst]
  exact Table.get_foldl_set_of_notMem poller.nextPollTime _ notListed

end RedfishPoller

namespace Pacing

variable {recursionLimit : Nat} {pacing : Pacing} {pass : SchedulePass} {tid : TargetId}
  {target : Target}

/-! ### What a pass does -/

theorem mem_idleTargets :
    (tid, target) ∈ pacing.idleTargets pass ↔ pass.targets.get tid = some target ∧
      target.connectionMode ≠ "sse" ∧ pacing.inflight.get tid = none := by
  simp [idleTargets, Table.get_eq_some_iff]

theorem mem_newTargets :
    (tid, target) ∈ pacing.newTargets pass ↔ (tid, target) ∈ pacing.idleTargets pass ∧
      pacing.poller.nextPollTime.get tid = none := by
  simp [newTargets]

theorem mem_dueTargets :
    (tid, target) ∈ pacing.dueTargets pass ↔ (tid, target) ∈ pacing.idleTargets pass ∧
      ∃ next, pacing.poller.nextPollTime.get tid = some next ∧ next ≤ pass.now := by
  simp [dueTargets, Option.any_eq_true]

theorem nodup_newTargets : ((pacing.newTargets pass).map Prod.fst).Nodup :=
  pass.targets.nodup.sublist
    ((List.filter_sublist.trans List.filter_sublist).map Prod.fst)

theorem nodup_dueTargets : ((pacing.dueTargets pass).map Prod.fst).Nodup :=
  pass.targets.nodup.sublist
    ((List.filter_sublist.trans List.filter_sublist).map Prod.fst)

/-- A target that is due is in flight after the pass, and due again later. -/
theorem scheduleDuePolls_of_due (due : (tid, target) ∈ pacing.dueTargets pass) :
    (pacing.scheduleDuePolls pass).poller.nextPollTime.get tid =
        some (pacing.poller.dueAgain pass tid target) ∧
      (pacing.scheduleDuePolls pass).inflight.get tid = some (some target) := by
  have present : pass.targets.rows ≠ [] := by
    intro empty
    have active := (mem_idleTargets.mp (mem_dueTargets.mp due).1).1
    rw [Table.get_eq_some_iff, empty] at active
    exact absurd active List.not_mem_nil
  unfold scheduleDuePolls
  rw [if_neg present]
  exact ⟨Table.get_foldl_set_of_mem _ _ nodup_dueTargets due,
    Table.get_foldl_set_of_mem _ _ nodup_dueTargets due⟩

/-- The time of a target that is not due is kept, given or dropped. -/
theorem scheduleDuePolls_of_notDue (absent : tid ∉ (pacing.dueTargets pass).map Prod.fst)
    (present : pass.targets.rows ≠ []) :
    (pacing.scheduleDuePolls pass).poller.nextPollTime.get tid =
        (if (pass.targets.get tid).isNone then none
          else (pacing.poller.scheduleNewTargets pass
            (pacing.newTargets pass)).nextPollTime.get tid) ∧
      (pacing.scheduleDuePolls pass).inflight.get tid = pacing.inflight.get tid := by
  unfold scheduleDuePolls
  rw [if_neg present]
  refine ⟨(Table.get_foldl_set_of_notMem _ _ absent).trans ?_,
    Table.get_foldl_set_of_notMem _ _ absent⟩
  rw [Table.get_deleteWhere]
  cases (pacing.poller.scheduleNewTargets pass (pacing.newTargets pass)).nextPollTime.get tid <;>
    cases (pass.targets.get tid).isNone <;> rfl

/-- A pass without active targets does nothing. -/
theorem scheduleDuePolls_of_empty (empty : pass.targets.rows = []) :
    pacing.scheduleDuePolls pass = pacing := if_pos empty

/-- The intervals stay as they are. -/
theorem getTargetInterval_scheduleDuePolls :
    (pacing.scheduleDuePolls pass).poller.getTargetInterval = pacing.poller.getTargetInterval := by
  unfold scheduleDuePolls
  split <;> rfl

/-- The first schedule of a start keeps the times that are there. -/
theorem initializeStaggeredSchedule_keeps {next : Time}
    (filed : pacing.poller.nextPollTime.get tid = some next) :
    (pacing.poller.initializeStaggeredSchedule pass).nextPollTime.get tid = some next := by
  unfold RedfishPoller.initializeStaggeredSchedule
  dsimp only
  generalize (pass.targets.rows.filter fun row => row.2.connectionMode ≠ "sse").length = count
  generalize (pass.targets.rows.filter fun row => row.2.connectionMode ≠ "sse").zipIdx = entries
  revert filed
  generalize pacing.poller.nextPollTime = times
  intro filed
  induction entries generalizing times with
  | nil => exact filed
  | cons entry rest inductionHypothesis =>
    rw [List.foldl_cons]
    refine inductionHypothesis _ ?_
    split
    · exact filed
    · next absent =>
      rw [Table.get_set, if_neg]
      · exact filed
      · rintro rfl
        exact absent (by rw [filed]; rfl)

/-! ### What a step can do -/

theorem start_cases {next : Pacing}
    (step : (machine recursionLimit).step pacing (.start pass) = some next) :
    pacing.clock ≤ pass.now ∧ next = { pacing with
      running := true
      clock := pass.now
      poller := pacing.poller.initializeStaggeredSchedule pass } := by
  obtain ⟨⟨_, advances⟩, same⟩ := Option.ite_none_right_eq_some.mp step
  exact ⟨advances, (Option.some.inj same).symm⟩

theorem pass_cases {next : Pacing}
    (step : (machine recursionLimit).step pacing (.pass pass) = some next) :
    pacing.clock ≤ pass.now ∧ next = { pacing.scheduleDuePolls pass with clock := pass.now } := by
  obtain ⟨⟨_, advances⟩, same⟩ := Option.ite_none_right_eq_some.mp step
  exact ⟨advances, (Option.some.inj same).symm⟩

theorem finish_cases {next : Pacing} {world : PollWorld}
    (step : (machine recursionLimit).step pacing (.finish tid world) = some next) :
    ∃ target, pacing.inflight.get tid = some (some target) ∧
      pacing.clock ≤ world.rescheduledAt ∧ next = { pacing with
        poller := pacing.poller.runPoll recursionLimit world tid target
        inflight := pacing.inflight.set tid none
        clock := world.rescheduledAt } := by
  simp only [machine, Pacing.step] at step
  split at step
  · next target flying =>
    obtain ⟨advances, same⟩ := Option.ite_none_right_eq_some.mp step
    exact ⟨target, flying, advances, (Option.some.inj same).symm⟩
  · cases step

theorem released_cases {next : Pacing}
    (step : (machine recursionLimit).step pacing (.released tid) = some next) :
    next = { pacing with inflight := pacing.inflight.remove tid } := by
  simp only [machine, Pacing.step] at step
  split at step
  · exact (Option.some.inj step).symm
  · cases step

/-- No event changes the intervals. -/
theorem getTargetInterval_step {event : Event} {next : Pacing}
    (step : (machine recursionLimit).step pacing event = some next) :
    next.poller.getTargetInterval = pacing.poller.getTargetInterval := by
  cases event with
  | start pass =>
    obtain ⟨_, rfl⟩ := start_cases step
    rfl
  | stop =>
    obtain rfl := Option.some.inj step
    rfl
  | pass pass =>
    obtain ⟨_, rfl⟩ := pass_cases step
    exact getTargetInterval_scheduleDuePolls
  | finish other world =>
    obtain ⟨target, _, _, rfl⟩ := finish_cases step
    exact getTargetInterval_runPoll recursionLimit world other target pacing.poller
  | released other =>
    obtain rfl := released_cases step
    rfl

/-! ### Spacing -/

/-- The interval of a target by its row and whether its last poll succeeded. -/
abbrev Intervals := Target → Bool → Int

/-- The target waits until a time that is a minimum behind an instant. -/
structure Waits (intervals : Intervals) (tid : TargetId) (since : Time) (minimum : Int)
    (pacing : Pacing) : Prop where
  intervals : pacing.poller.getTargetInterval = intervals
  clock : since ≤ pacing.clock
  waits : ∃ next, pacing.poller.nextPollTime.get tid = some next ∧
    since + minimum * 980000 ≤ next

/-- The intervals of a target are not below a minimum wherever its row is read, and it is active in
each pass that sees active targets. -/
def IsPaced (intervals : Intervals) (minimum : Int) (tid : TargetId) : Event → Prop
  | .pass pass =>
    (pass.targets.rows = [] ∨ ∃ target, pass.targets.get tid = some target) ∧
      IsFair (pass.jitter tid) ∧
      ∀ target, pass.targets.get tid = some target → minimum ≤ intervals target true
  | .finish other world =>
    other = tid → IsFair world.uniform ∧ ∀ fresh, world.getTarget tid = .ok (some fresh) →
      minimum ≤ intervals fresh false
  | _ => True

theorem Waits.step {intervals : Intervals} {since : Time} {minimum : Int} {event : Event}
    {next : Pacing} (positive : 0 ≤ minimum) (waits : Waits intervals tid since minimum pacing)
    (paced : IsPaced intervals minimum tid event)
    (step : (machine recursionLimit).step pacing event = some next) :
    Waits intervals tid since minimum next := by
  obtain ⟨rfl, clock, filed, stored, later⟩ := waits
  suffices later : since ≤ next.clock ∧ ∃ filed, next.poller.nextPollTime.get tid = some filed ∧
      since + minimum * 980000 ≤ filed from ⟨getTargetInterval_step step, later.1, later.2⟩
  cases event with
  | start pass =>
    obtain ⟨advances, rfl⟩ := start_cases step
    exact ⟨clock.trans advances, filed, initializeStaggeredSchedule_keeps stored, later⟩
  | stop =>
    obtain rfl := Option.some.inj step
    exact ⟨clock, filed, stored, later⟩
  | pass pass =>
    obtain ⟨advances, rfl⟩ := pass_cases step
    refine ⟨clock.trans advances, ?_⟩
    obtain ⟨active, fair, bounded⟩ := paced
    show ∃ next, (pacing.scheduleDuePolls pass).poller.nextPollTime.get tid = some next ∧ _
    by_cases due : tid ∈ (pacing.dueTargets pass).map Prod.fst
    · obtain ⟨⟨_, target⟩, member, rfl⟩ := List.mem_map.mp due
      have listed := (mem_idleTargets.mp (mem_dueTargets.mp member).1).1
      have lower := bounded target listed
      refine ⟨_, (scheduleDuePolls_of_due member).1, ?_⟩
      have bounds := RedfishPoller.dueAgain_bounds pacing.poller pass fair (positive.trans lower)
      linarith [bounds.1, clock.trans advances]
    · rcases active with empty | ⟨target, listed⟩
      · rw [scheduleDuePolls_of_empty empty]
        exact ⟨filed, stored, later⟩
      · have present : pass.targets.rows ≠ [] := by
          intro empty
          rw [Table.get_eq_some_iff, empty] at listed
          exact absurd listed List.not_mem_nil
        have notNew : tid ∉ (pacing.newTargets pass).map Prod.fst := by
          intro new
          obtain ⟨⟨_, row⟩, member, rfl⟩ := List.mem_map.mp new
          rw [(mem_newTargets.mp member).2] at stored
          cases stored
        refine ⟨filed, ?_, later⟩
        rw [(scheduleDuePolls_of_notDue due present).1, listed, if_neg (by simp),
          RedfishPoller.get_scheduleNewTargets_of_notMem _ pass notNew]
        exact stored
  | finish other world =>
    obtain ⟨target, _, advances, rfl⟩ := finish_cases step
    refine ⟨clock.trans advances, ?_⟩
    show ∃ next, (pacing.poller.runPoll recursionLimit world other target).nextPollTime.get tid =
      some next ∧ _
    rcases nextPollTime_runPoll recursionLimit world other target pacing.poller with
      same | ⟨fresh, found, moved⟩
    · exact ⟨filed, by rw [same]; exact stored, later⟩
    · rw [moved, Table.get_set]
      by_cases same : tid = other
      · obtain ⟨fair, bounded⟩ := paced same.symm
        have lower := bounded fresh (same ▸ found)
        have bounds := RedfishPoller.retryTime_bounds pacing.poller fair (positive.trans lower)
        rw [if_pos same]
        exact ⟨_, rfl, by linarith [bounds.1, clock.trans advances]⟩
      · rw [if_neg same]
        exact ⟨filed, stored, later⟩
  | released other =>
    obtain rfl := released_cases step
    exact ⟨clock, filed, stored, later⟩

/-- In a run in which a target stays active and its intervals do not fall below a minimum, a pass
that starts a poll of it is at least that interval less its jitter after the last one that did. -/
theorem polls_spaced {minimum : Int} (positive : 0 ≤ minimum) {start before : Pacing}
    {first second : SchedulePass} {between : List Event} {tid : TargetId}
    (started : tid ∈ (start.dueTargets first).map Prod.fst)
    (run : (machine recursionLimit).run start (.pass first :: between) = some before)
    (paced : ∀ event ∈ .pass first :: between,
      IsPaced start.poller.getTargetInterval minimum tid event)
    (again : tid ∈ (before.dueTargets second).map Prod.fst) :
    first.now + minimum * 980000 ≤ second.now := by
  obtain ⟨next, step, rest⟩ := (machine recursionLimit).run_cons.mp run
  rw [List.forall_mem_cons] at paced
  have first_waits : Waits start.poller.getTargetInterval tid first.now minimum next := by
    have intervals := getTargetInterval_step step
    obtain ⟨⟨_, target⟩, member, rfl⟩ := List.mem_map.mp started
    obtain ⟨_, rfl⟩ := pass_cases step
    obtain ⟨_, fair, bounded⟩ := paced.1
    have lower := bounded target (mem_idleTargets.mp (mem_dueTargets.mp member).1).1
    have bounds := RedfishPoller.dueAgain_bounds start.poller first fair (positive.trans lower)
    refine ⟨intervals, le_refl _, _, (scheduleDuePolls_of_due member).1, ?_⟩
    linarith [bounds.1]
  have waits : Waits start.poller.getTargetInterval tid first.now minimum before :=
    (machine recursionLimit).run_keeps (fun held met stepped => held.step positive met stepped)
      first_waits ((machine recursionLimit).throughout_of_forall paced.2 next) rest
  obtain ⟨⟨_, target⟩, member, rfl⟩ := List.mem_map.mp again
  obtain ⟨_, due, filed, reached⟩ := mem_dueTargets.mp member
  obtain ⟨time, stored, later⟩ := waits.waits
  rw [Option.some.inj (stored.symm.trans filed)] at later
  exact later.trans reached

/-- A pass over the sole target, with the least of all random numbers. -/
def solePass (now : Time) : SchedulePass := { targets := soleTarget, now := now }

/-- Everything raises but the read of the row. -/
def failingWorld : PollWorld where
  decrypt _ := .error .key
  connect _ := .error .key
  getMetricReport _ _ _ := .error .key
  collectDiagnosticData _ _ _ := .error .key
  getTarget _ := .ok (some sampleTarget)
  rescheduledAt := 2000000

/-- The sole target is due, and its poll fails after two seconds. -/
def solePacing : Pacing where
  poller := { nextPollTime := Table.empty.set 1 0 }
  running := true

def failedPoll : List Event := [.pass (solePass 0), .finish 1 failingWorld, .released 1]

theorem isFair_low : IsFair fun low _ => low := fun _ _ ordered => ⟨le_refl _, ordered⟩

theorem polls_spaced_failedPoll : ∃ before,
    (machine 1000).run solePacing failedPoll = some before ∧
      1 ∈ (before.dueTargets (solePass 296000000)).map Prod.fst ∧
      (solePass 0).now + 300 * 980000 ≤ (solePass 296000000).now := by
  have tried : ((machine 1000).run solePacing failedPoll).any (fun before =>
      decide (1 ∈ (before.dueTargets (solePass 296000000)).map Prod.fst)) = true := by decide
  obtain ⟨before, completed, due⟩ := Machine.exists_of_any _ tried
  have again := of_decide_eq_true due
  refine ⟨before, completed, again, polls_spaced (by decide) (by decide) completed ?_ again⟩
  intro event member
  rcases List.mem_cons.mp member with rfl | member
  · refine ⟨.inr ⟨sampleTarget, rfl⟩, isFair_low, fun target active => ?_⟩
    obtain rfl := Option.some.inj active
    decide
  · rcases List.mem_cons.mp member with rfl | member
    · refine fun _ => ⟨isFair_low, fun fresh found => ?_⟩
      obtain rfl : sampleTarget = fresh := by simpa [failingWorld] using found
      decide
    · obtain rfl := List.mem_singleton.mp member
      trivial

/-! ### No target is forgotten -/

/-- No target waits longer than the longest interval with its jitter. -/
structure IsWithin (intervals : Intervals) (longest : Int) (pacing : Pacing) : Prop where
  intervals : pacing.poller.getTargetInterval = intervals
  within : ∀ tid next, pacing.poller.nextPollTime.get tid = some next →
    next ≤ pacing.clock + longest * 1020000

/-- The intervals are positive and not above a longest one wherever a row is read. -/
def IsBounded (intervals : Intervals) (longest : Int) : Event → Prop
  | .start pass | .pass pass =>
    ∀ tid, IsFair (pass.jitter tid) ∧ ∀ target, pass.targets.get tid = some target →
      0 < intervals target true ∧ intervals target true ≤ longest
  | .finish tid world =>
    IsFair world.uniform ∧ ∀ fresh, world.getTarget tid = .ok (some fresh) →
      0 < intervals fresh false ∧ intervals fresh false ≤ longest
  | _ => True

/-- The first schedule of a start is within the longest interval. -/
theorem initializeStaggeredSchedule_within {longest : Int}
    (within : IsWithin pacing.poller.getTargetInterval longest pacing)
    (advances : pacing.clock ≤ pass.now)
    (bounded : IsBounded pacing.poller.getTargetInterval longest (.start pass)) {next : Time}
    (filed : (pacing.poller.initializeStaggeredSchedule pass).nextPollTime.get tid = some next) :
    next ≤ pass.now + longest * 1020000 := by
  unfold RedfishPoller.initializeStaggeredSchedule at filed
  dsimp only at filed
  have listed : ∀ entry ∈
      (pass.targets.rows.filter fun row => row.2.connectionMode ≠ "sse").zipIdx,
      pass.targets.get entry.1.1 = some entry.1.2 := by
    intro entry member
    have row := List.fst_mem_of_mem_zipIdx member
    exact Table.get_eq_some_iff.mpr (List.mem_of_mem_filter row)
  have before : ∀ tid next, pacing.poller.nextPollTime.get tid = some next →
      next ≤ pass.now + longest * 1020000 := by
    intro other time stored
    linarith [within.within other time stored]
  revert filed listed before
  generalize (pass.targets.rows.filter fun row => row.2.connectionMode ≠ "sse").length = count
  generalize (pass.targets.rows.filter fun row => row.2.connectionMode ≠ "sse").zipIdx = entries
  generalize pacing.poller.nextPollTime = times
  intro filed listed before
  induction entries generalizing times with
  | nil => exact before tid next filed
  | cons entry rest inductionHypothesis =>
    rw [List.foldl_cons] at filed
    refine inductionHypothesis _ filed (fun other member =>
      listed other (List.mem_cons_of_mem _ member)) fun other time stored => ?_
    split at stored
    · exact before other time stored
    · rw [Table.get_set] at stored
      split at stored
      · obtain rfl := Option.some.inj stored
        obtain ⟨fair, bounds⟩ := bounded entry.1.1
        obtain ⟨positive, upper⟩ := bounds entry.1.2 (listed entry List.mem_cons_self)
        have first := RedfishPoller.staggered_bounds pacing.poller pass 0 fair
          positive count entry.2
        linarith [first.2]
      · exact before other time stored

/-- What a pass leaves in the schedule: what was there, or a time for a row that it read. -/
theorem get_scheduleDuePolls {next : Time}
    (filed : (pacing.scheduleDuePolls pass).poller.nextPollTime.get tid = some next) :
    pacing.poller.nextPollTime.get tid = some next ∨
      ∃ target, pass.targets.get tid = some target ∧
        (next = pacing.poller.dueAgain pass tid target ∨
          ∃ randomStart count index, next = pacing.poller.staggered pass randomStart
            (pass.jitter tid (-pacing.poller.getTargetInterval target true * 10000)
              (pacing.poller.getTargetInterval target true * 10000)) count index target) := by
  by_cases empty : pass.targets.rows = []
  · rw [scheduleDuePolls_of_empty empty] at filed
    exact .inl filed
  · by_cases due : tid ∈ (pacing.dueTargets pass).map Prod.fst
    · obtain ⟨⟨_, target⟩, member, rfl⟩ := List.mem_map.mp due
      rw [(scheduleDuePolls_of_due member).1] at filed
      exact .inr ⟨target, (mem_idleTargets.mp (mem_dueTargets.mp member).1).1,
        .inl (Option.some.inj filed).symm⟩
    · rw [(scheduleDuePolls_of_notDue due empty).1] at filed
      split at filed
      · cases filed
      · by_cases new : tid ∈ (pacing.newTargets pass).map Prod.fst
        · obtain ⟨⟨_, target⟩, member, rfl⟩ := List.mem_map.mp new
          obtain ⟨index, first⟩ :=
            RedfishPoller.get_scheduleNewTargets pacing.poller pass
              nodup_newTargets member
          rw [first] at filed
          exact .inr ⟨target, (mem_idleTargets.mp (mem_newTargets.mp member).1).1,
            .inr ⟨_, _, index, (Option.some.inj filed).symm⟩⟩
        · rw [RedfishPoller.get_scheduleNewTargets_of_notMem _ pass new] at filed
          exact .inl filed

theorem IsWithin.step {intervals : Intervals} {longest : Int} {event : Event} {next : Pacing}
    (within : IsWithin intervals longest pacing) (bounded : IsBounded intervals longest event)
    (step : (machine recursionLimit).step pacing event = some next) :
    IsWithin intervals longest next := by
  obtain ⟨rfl, earlier⟩ := within
  refine ⟨getTargetInterval_step step, ?_⟩
  cases event with
  | start pass =>
    obtain ⟨advances, rfl⟩ := start_cases step
    exact fun tid time filed =>
      initializeStaggeredSchedule_within ⟨rfl, earlier⟩ advances bounded filed
  | stop =>
    obtain rfl := Option.some.inj step
    exact earlier
  | pass pass =>
    obtain ⟨advances, rfl⟩ := pass_cases step
    intro tid time filed
    show time ≤ pass.now + longest * 1020000
    rcases get_scheduleDuePolls filed with old | ⟨target, listed, new⟩
    · linarith [earlier tid time old]
    · obtain ⟨fair, bounds⟩ := bounded tid
      obtain ⟨positive, upper⟩ := bounds target listed
      rcases new with rfl | ⟨randomStart, count, index, rfl⟩
      · have again := RedfishPoller.dueAgain_bounds pacing.poller pass fair positive.le
        linarith [again.2]
      · have first := RedfishPoller.staggered_bounds pacing.poller pass randomStart fair positive
          count index
        linarith [first.2]
  | finish other world =>
    obtain ⟨target, _, advances, rfl⟩ := finish_cases step
    obtain ⟨fair, bounds⟩ := bounded
    intro tid time filed
    show time ≤ world.rescheduledAt + longest * 1020000
    have filed : (pacing.poller.runPoll recursionLimit world other target).nextPollTime.get tid =
      some time := filed
    rcases nextPollTime_runPoll recursionLimit world other target pacing.poller with
      same | ⟨fresh, found, moved⟩
    · rw [same] at filed
      linarith [earlier tid time filed]
    · rw [moved, Table.get_set] at filed
      split at filed
      · obtain rfl := Option.some.inj filed
        obtain ⟨positive, upper⟩ := bounds fresh found
        have retry := RedfishPoller.retryTime_bounds pacing.poller fair positive.le
        linarith [retry.2]
      · linarith [earlier tid time filed]
  | released other =>
    obtain rfl := released_cases step
    exact earlier

/-- After every pass of a run each active target that is polled is in flight, or it has a time that
has not passed and is no farther ahead than the longest interval with its jitter. -/
theorem pass_forgets_none {longest : Int} {start final : Pacing} {events : List Event}
    {pass : SchedulePass}
    (within : IsWithin start.poller.getTargetInterval longest start)
    (run : (machine recursionLimit).run start (events ++ [.pass pass]) = some final)
    (bounded : ∀ event ∈ events ++ [.pass pass],
      IsBounded start.poller.getTargetInterval longest event)
    {tid : TargetId} {target : Target} (active : pass.targets.get tid = some target)
    (polled : target.connectionMode ≠ "sse") :
    (final.inflight.get tid).isSome ∨
      ∃ next, final.poller.nextPollTime.get tid = some next ∧
        pass.now ≤ next ∧ next ≤ pass.now + longest * 1020000 := by
  have ended := (machine recursionLimit).run_keeps
    (fun held met stepped => IsWithin.step held met stepped) within
    ((machine recursionLimit).throughout_of_forall bounded start) run
  obtain ⟨before, reached, last⟩ := (machine recursionLimit).run_append.mp run
  obtain ⟨_, step, done⟩ := (machine recursionLimit).run_cons.mp last
  obtain rfl := Option.some.inj done
  obtain ⟨_, rfl⟩ := pass_cases step
  have met := bounded (.pass pass) (List.mem_append_right _ List.mem_cons_self)
  rw [← ended.intervals] at met
  have same : (before.scheduleDuePolls pass).poller.getTargetInterval =
      before.poller.getTargetInterval := getTargetInterval_scheduleDuePolls
  show ((before.scheduleDuePolls pass).inflight.get tid).isSome ∨
    ∃ next, (before.scheduleDuePolls pass).poller.nextPollTime.get tid = some next ∧ _
  have present : pass.targets.rows ≠ [] := by
    intro empty
    rw [Table.get_eq_some_iff, empty] at active
    exact absurd active List.not_mem_nil
  by_cases due : tid ∈ (before.dueTargets pass).map Prod.fst
  · obtain ⟨⟨_, row⟩, member, rfl⟩ := List.mem_map.mp due
    exact .inl (by rw [(scheduleDuePolls_of_due member).2]; rfl)
  · obtain ⟨schedule, flights⟩ := scheduleDuePolls_of_notDue due present
    cases flying : before.inflight.get tid with
    | some poll => exact .inl (by rw [flights, flying]; rfl)
    | none =>
      have idle : (tid, target) ∈ before.idleTargets pass :=
        mem_idleTargets.mpr ⟨active, polled, flying⟩
      rw [active, if_neg (by simp)] at schedule
      right
      cases filed : before.poller.nextPollTime.get tid with
      | none =>
        obtain ⟨index, first⟩ :=
          RedfishPoller.get_scheduleNewTargets before.poller pass
            nodup_newTargets (mem_newTargets.mpr ⟨idle, filed⟩)
        obtain ⟨fair, bounds⟩ := met tid
        have positive := (bounds target active).1
        rw [same] at positive
        refine ⟨_, schedule.trans first, ?_, ended.within tid _ (schedule.trans first)⟩
        exact (RedfishPoller.staggered_bounds before.poller pass _ fair positive _ index).1
      | some next =>
        have notNew : tid ∉ (before.newTargets pass).map Prod.fst := by
          intro new
          obtain ⟨⟨_, row⟩, member, rfl⟩ := List.mem_map.mp new
          cases filed.symm.trans (mem_newTargets.mp member).2
        have kept := schedule.trans
          ((RedfishPoller.get_scheduleNewTargets_of_notMem _ pass notNew).trans filed)
        refine ⟨next, kept, ?_, ended.within tid next kept⟩
        by_contra passed
        exact due (List.mem_map.mpr ⟨(tid, target),
          mem_dueTargets.mpr ⟨idle, next, filed, (not_le.mp passed).le⟩, rfl⟩)

/-- A poller starts without a schedule and polls its target, whose poll fails and is put off. -/
def putOff : List Event :=
  [.start (solePass 0), .pass (solePass 1000000), .finish 1 failingWorld, .released 1]

/-- The sole target's interval is five minutes wherever a pass reads it. -/
theorem solePass_bounded (now : Time) (tid : TargetId) :
    IsFair ((solePass now).jitter tid) ∧ ∀ target,
      (solePass now).targets.get tid = some target →
        0 < ({} : RedfishPoller).getTargetInterval target true ∧
          ({} : RedfishPoller).getTargetInterval target true ≤ 300 := by
  refine ⟨isFair_low, fun target active => ?_⟩
  have listed := Table.get_eq_some_iff.mp active
  obtain ⟨_, rfl⟩ := Prod.mk.inj (List.mem_singleton.mp listed)
  decide

theorem pass_forgets_none_putOff : ∃ final,
    (machine 1000).run { poller := {} } (putOff ++ [.pass (solePass 5000000)]) = some final ∧
      final.inflight.get 1 = none ∧
      ((final.inflight.get 1).isSome ∨
        ∃ next, final.poller.nextPollTime.get 1 = some next ∧
          5000000 ≤ next ∧ next ≤ 5000000 + 300 * 1020000) := by
  have tried : ((machine 1000).run { poller := {} }
      (putOff ++ [.pass (solePass 5000000)])).any
        (fun final => (final.inflight.get 1).isNone) = true := by decide
  obtain ⟨final, completed, ended⟩ := Machine.exists_of_any _ tried
  refine ⟨final, completed, Option.isNone_iff_eq_none.mp ended,
    pass_forgets_none ⟨rfl, fun _ _ filed => by cases filed⟩ completed ?_
      (show soleTarget.get 1 = some sampleTarget from rfl) (by decide)⟩
  intro event member
  rcases List.mem_append.mp member with earlier | last
  · rcases List.mem_cons.mp earlier with rfl | earlier
    · exact solePass_bounded 0
    rcases List.mem_cons.mp earlier with rfl | earlier
    · exact solePass_bounded 1000000
    rcases List.mem_cons.mp earlier with rfl | earlier
    · refine ⟨isFair_low, fun fresh found => ?_⟩
      obtain rfl : sampleTarget = fresh := by simpa [failingWorld] using found
      decide
    · obtain rfl := List.mem_singleton.mp earlier
      trivial
  · obtain rfl := List.mem_singleton.mp last
    exact solePass_bounded 5000000

end Pacing

end Gyanam
