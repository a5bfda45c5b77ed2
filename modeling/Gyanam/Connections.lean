/-
This file settles which connection a poll uses. The poller keeps one connected
client for each target and reuses it across polls; a failed poll evicts it, and
so does a scheduling pass that no longer sees the target among the active ones.
Meanwhile the rows of the targets are edited by the API, which is another
process. A state holds the rows, the cache, the rows that were read for a poll
not started yet, the polls in flight and the evictions under way, and an event is
what happens between two suspensions: the scheduler and the polls are concurrent
tasks. A lock lets one poll of a target connect at a time; the machine allows any
number.

Nothing evicts the client of a row that was edited, so the next poll may fetch
from the host the target had before. The file shows such a run, and that every
poll fetches through a client its current row describes in every run in which an
edit of a connection meets no cached client of its target, no poll of it and no
row read for one.
-/

import Gyanam.Lib.Machine
import Gyanam.Poller

namespace Gyanam

/-! ### Polls in flight -/

/-- Where a poll stands: it has a copy of its row, connects a new client, or fetches. -/
inductive PollStage where
  | started
  | connecting (client : RedfishClient)
  | fetching (client : RedfishClient)
  deriving DecidableEq, Repr

/-- A poll in flight, with the copy of the row it works on. -/
structure ActivePoll where
  tid : TargetId
  target : Target
  manual : Bool
  stage : PollStage := .started
  deriving DecidableEq, Repr

/-- The client of a poll, connected or not. -/
def ActivePoll.client (poll : ActivePoll) : Option RedfishClient :=
  match poll.stage with
  | .started => none
  | .connecting client => some client
  | .fetching client => some client

/-! ### The machine -/

/-- The rows, the client cache, the rows read by the scheduling pass under way, those read by
manual polls that have not started, the polls in flight, and the evictions under way. -/
structure Polling where
  targets : Table TargetId Target
  clients : Table TargetId RedfishClient := Table.empty
  scheduling : Option (List (TargetId × Target)) := none
  requested : List (TargetId × Target) := []
  polls : List ActivePoll := []
  evictionTasks : List TargetId := []

inductive PollingEvent where
  | updateTarget (tid : TargetId) (target : Target)
  | getActiveTargets (active : List TargetId)
  | scheduleDuePolls (due : List TargetId)
  | getTarget (tid : TargetId)
  | pollSingle (index : Nat)
  | getClient (index : Nat)
  | connected (index : Nat) (success : Bool)
  | finished (index : Nat) (success : Bool)
  | evicted (tid : TargetId)

namespace Polling

variable (decrypt : String → Except PollError String)

/-- Read the row of a target. -/
def read (polling : Polling) (tid : TargetId) : Option (TargetId × Target) :=
  (polling.targets.get tid).map (Prod.mk tid)

/-- The rows that were read for polls not started yet. -/
def copies (polling : Polling) : List (TargetId × Target) :=
  polling.scheduling.getD [] ++ polling.requested

/-- Poll a target with the row that was read. -/
def begin (manual : Bool) (row : TargetId × Target) : ActivePoll where
  tid := row.1
  target := row.2
  manual := manual

/-- The targets may be the active ones: they are configured and enabled. -/
def mayBeActive (polling : Polling) (active : List TargetId) : Bool :=
  active.all fun tid => (polling.targets.get tid).any fun target => target.enabled

/-- The rows that were read may be due: they are polled, and no scheduled poll of their targets is
in flight. -/
def mayBeDue (polling : Polling) (rows : List (TargetId × Target)) : Bool :=
  rows.all fun row => decide (row.2.connectionMode ≠ "sse") &&
    polling.polls.all fun poll => poll.manual || decide (poll.tid ≠ row.1)

/-- Move the poll at a position to another stage. -/
def moveTo (polling : Polling) (index : Nat) (poll : ActivePoll) (stage : PollStage) : Polling :=
  { polling with polls := polling.polls.set index { poll with stage := stage } }

/-- End the poll at a position, and evict the client of its target if asked to. -/
def endPoll (polling : Polling) (index : Nat) (poll : ActivePoll) (evict : Bool) : Polling :=
  { polling with
    polls := polling.polls.eraseIdx index
    clients := if evict then polling.clients.remove poll.tid else polling.clients }

/-- One event. Which targets are active and which of them are due is up to the leases and the
clock. A pass reads the active rows, and acts on them when the query has returned; without active
targets it does nothing. Before it fetches, a poll takes the cached client or connects one from its
copy of the row; it may fail there and while it fetches. -/
def step (polling : Polling) : PollingEvent → Option Polling
  | .updateTarget tid target =>
    if (polling.targets.get tid).isSome then
      some { polling with targets := polling.targets.set tid target }
    else none
  | .getActiveTargets active =>
    if polling.scheduling = none ∧ polling.mayBeActive active = true ∧ active.Nodup then
      some { polling with scheduling := some (active.filterMap polling.read) }
    else none
  | .scheduleDuePolls due => do
    let rows ← polling.scheduling
    let dueRows := rows.filter fun row => decide (row.1 ∈ due)
    if rows = [] then some { polling with scheduling := none }
    else if polling.mayBeDue dueRows = true then
      some { polling with
        scheduling := none
        evictionTasks := polling.evictionTasks ++
          polling.clients.keys.filter fun tid => decide (tid ∉ rows.map Prod.fst)
        polls := polling.polls ++ dueRows.map (begin false) }
    else none
  | .getTarget tid =>
    (polling.read tid).map fun row => { polling with requested := polling.requested ++ [row] }
  | .pollSingle index =>
    polling.requested[index]?.map fun row => { polling with
      requested := polling.requested.eraseIdx index
      polls := polling.polls ++ [begin true row] }
  | .getClient index => do
    let poll ← polling.polls[index]?
    if poll.stage = .started then
      let client ← RedfishClient.ofTarget decrypt poll.target
      match polling.clients.get poll.tid with
      | some cached => some (polling.moveTo index poll (.fetching cached))
      | none => some (polling.moveTo index poll (.connecting client))
    else none
  | .connected index success => do
    let poll ← polling.polls[index]?
    match poll.stage with
    | .connecting client =>
      if success then
        some { polling.moveTo index poll (.fetching client) with
          clients := polling.clients.set poll.tid client }
      else some (polling.endPoll index poll false)
    | _ => none
  | .finished index success => do
    let poll ← polling.polls[index]?
    match poll.stage with
    | .started => if success then none else some (polling.endPoll index poll true)
    | .connecting _ => none
    | .fetching _ => some (polling.endPoll index poll (!success))
  | .evicted tid =>
    if tid ∈ polling.evictionTasks then
      some { polling with
        clients := polling.clients.remove tid
        evictionTasks := polling.evictionTasks.erase tid }
    else none

/-! ### Connections -/

/-- The connection a row describes: the client, and the host its results are labelled with. -/
def connection (target : Target) : Option RedfishClient × String :=
  (RedfishClient.ofTarget decrypt target, target.host)

/-- A poll that fetches does so through the client that the current row of its target describes,
and labels its result with the host of that row. -/
def fetchesCurrent (polling : Polling) (poll : ActivePoll) : Bool :=
  match poll.stage, polling.targets.get poll.tid with
  | .fetching client, some target =>
    decide (connection decrypt target = (some client, poll.target.host))
  | _, _ => true

/-- Every poll in flight fetches through a current connection. -/
def Current (polling : Polling) : Prop :=
  ∀ poll ∈ polling.polls, polling.fetchesCurrent decrypt poll = true

instance (polling : Polling) : Decidable (polling.Current decrypt) := by
  unfold Current
  infer_instance

/-- A client of the target is cached, a poll of it is in flight, or its row was read for one. -/
def Occupied (polling : Polling) (tid : TargetId) : Prop :=
  (polling.clients.get tid).isSome = true ∨ (∃ poll ∈ polling.polls, poll.tid = tid) ∨
    ∃ row ∈ polling.copies, row.1 = tid

instance (polling : Polling) (tid : TargetId) : Decidable (polling.Occupied tid) := by
  unfold Occupied
  infer_instance

/-- An edit that changes the connection of a row meets no cached client, no poll of it and no copy
read for one. -/
def EditsQuietly (polling : Polling) : PollingEvent → Prop
  | .updateTarget tid target =>
    (polling.targets.get tid).map (connection decrypt) = some (connection decrypt target) ∨
      ¬ polling.Occupied tid
  | _ => True

instance (polling : Polling) (event : PollingEvent) :
    Decidable (polling.EditsQuietly decrypt event) := by
  cases event <;> unfold EditsQuietly <;> infer_instance

end Polling

def pollingMachine (decrypt : String → Except PollError String) : Machine Polling PollingEvent :=
  ⟨Polling.step decrypt⟩

namespace Polling

variable {decrypt : String → Except PollError String}

/-! ### Sound polls -/

/-- The row of a target describes a client. -/
def Describes (decrypt : String → Except PollError String) (targets : Table TargetId Target)
    (tid : TargetId) (client : RedfishClient) : Prop :=
  ∃ target, targets.get tid = some target ∧ RedfishClient.ofTarget decrypt target = some client

/-- A copy of a row describes the connection the row does. -/
def Copied (decrypt : String → Except PollError String) (targets : Table TargetId Target)
    (row : TargetId × Target) : Prop :=
  ∃ target, targets.get row.1 = some target ∧ connection decrypt target = connection decrypt row.2

/-- The copy of a poll describes the connection of the row, and so does its client. -/
structure SoundPoll (decrypt : String → Except PollError String)
    (targets : Table TargetId Target) (poll : ActivePoll) : Prop where
  copied : Copied decrypt targets (poll.tid, poll.target)
  described : ∀ client, poll.client = some client → Describes decrypt targets poll.tid client

/-- The rows describe every cached client and every copy, and every poll in flight is sound. -/
structure Sound (decrypt : String → Except PollError String) (polling : Polling) : Prop where
  cached : ∀ tid client, polling.clients.get tid = some client →
    Describes decrypt polling.targets tid client
  copies : ∀ row ∈ polling.copies, Copied decrypt polling.targets row
  polls : ∀ poll ∈ polling.polls, SoundPoll decrypt polling.targets poll

/-- A sound poll fetches through a current connection. -/
theorem Sound.current {polling : Polling} (sound : polling.Sound decrypt) :
    polling.Current decrypt := by
  intro poll inFlight
  obtain ⟨⟨target, found, same⟩, described⟩ := sound.polls poll inFlight
  unfold fetchesCurrent
  rw [found]
  cases stage : poll.stage with
  | started => rfl
  | connecting client => rfl
  | fetching client =>
    obtain ⟨row, sameRow, client'⟩ := described client (by rw [ActivePoll.client, stage])
    rw [found] at sameRow
    have sameHost : target.host = poll.target.host := congrArg Prod.snd same
    refine decide_eq_true (Prod.ext ?_ sameHost)
    rw [connection, Option.some.inj sameRow, client']

theorem SoundPoll.describes_ofTarget {targets : Table TargetId Target} {poll : ActivePoll}
    (sound : SoundPoll decrypt targets poll) {client : RedfishClient}
    (built : RedfishClient.ofTarget decrypt poll.target = some client) :
    Describes decrypt targets poll.tid client := by
  obtain ⟨target, found, same⟩ := sound.copied
  exact ⟨target, found, (congrArg Prod.fst same).trans built⟩

/-- A sound poll moves soundly to a stage with a client its row describes. -/
theorem SoundPoll.moveTo {targets : Table TargetId Target} {poll : ActivePoll}
    (sound : SoundPoll decrypt targets poll) {stage : PollStage} {client : RedfishClient}
    (moved : ({ poll with stage := stage } : ActivePoll).client = some client)
    (described : Describes decrypt targets poll.tid client) :
    SoundPoll decrypt targets { poll with stage := stage } where
  copied := sound.copied
  described other same := by
    rw [moved] at same
    exact Option.some.inj same ▸ described

/-- A row that is read is a copy. -/
theorem copied_of_read {polling : Polling} {tid : TargetId} {row : TargetId × Target}
    (isRead : polling.read tid = some row) : Copied decrypt polling.targets row := by
  obtain ⟨target, found, rfl⟩ := Option.map_eq_some_iff.mp isRead
  exact ⟨target, found, rfl⟩

/-- A poll that starts with a copy is sound. -/
theorem Copied.begin {targets : Table TargetId Target} {row : TargetId × Target}
    (copied : Copied decrypt targets row) (manual : Bool) :
    SoundPoll decrypt targets (Polling.begin manual row) :=
  ⟨copied, fun _ none => absurd none (by simp [ActivePoll.client, Polling.begin])⟩

/-! ### Every event keeps the polls sound -/

/-- An event that edits no row, caches what the rows describe, reads copies, and adds sound
polls. -/
theorem Sound.extend {polling next : Polling} (sound : polling.Sound decrypt)
    (sameTargets : next.targets = polling.targets)
    (cached : ∀ tid client, next.clients.get tid = some client →
      polling.clients.get tid = some client ∨ Describes decrypt polling.targets tid client)
    (copies : ∀ row ∈ next.copies, row ∈ polling.copies ∨ Copied decrypt polling.targets row)
    (polls : ∀ poll ∈ next.polls, poll ∈ polling.polls ∨
      SoundPoll decrypt polling.targets poll) : next.Sound decrypt where
  cached tid client found := by
    rw [sameTargets]
    exact (cached tid client found).elim (sound.cached tid client) id
  copies row isCopy := by
    rw [sameTargets]
    exact (copies row isCopy).elim (sound.copies row) id
  polls poll inFlight := by
    rw [sameTargets]
    exact (polls poll inFlight).elim (sound.polls poll) id

theorem Sound.moveTo {polling : Polling} (sound : polling.Sound decrypt) {index : Nat}
    {poll : ActivePoll} (found : polling.polls[index]? = some poll) {stage : PollStage}
    {client : RedfishClient}
    (moved : ({ poll with stage := stage } : ActivePoll).client = some client)
    (described : Describes decrypt polling.targets poll.tid client) :
    (polling.moveTo index poll stage).Sound decrypt := by
  refine sound.extend rfl (fun _ _ => Or.inl) (fun _ => Or.inl) fun other inFlight => ?_
  obtain old | rfl := List.mem_or_eq_of_mem_set inFlight
  · exact Or.inl old
  · exact Or.inr ((sound.polls poll (List.mem_of_getElem? found)).moveTo moved described)

theorem Sound.cacheClient {polling : Polling} (sound : polling.Sound decrypt) {tid : TargetId}
    {client : RedfishClient} (described : Describes decrypt polling.targets tid client) :
    Sound decrypt { polling with clients := polling.clients.set tid client } := by
  refine sound.extend rfl (fun other found isCached => ?_) (fun _ => Or.inl) fun _ => Or.inl
  rw [Table.get_set] at isCached
  split at isCached
  · next same =>
    rw [same, ← Option.some.inj isCached]
    exact Or.inr described
  · exact Or.inl isCached

theorem get_remove_eq_some {clients : Table TargetId RedfishClient} {tid other : TargetId}
    {client : RedfishClient} (found : (clients.remove tid).get other = some client) :
    clients.get other = some client := by
  rw [Table.get_remove] at found
  exact (Option.ite_none_left_eq_some.mp found).2

theorem Sound.endPoll {polling : Polling} (sound : polling.Sound decrypt) (index : Nat)
    (poll : ActivePoll) (evict : Bool) : (polling.endPoll index poll evict).Sound decrypt := by
  refine sound.extend rfl (fun tid client found => Or.inl ?_) (fun _ => Or.inl)
    fun other inFlight => Or.inl (List.mem_of_mem_eraseIdx inFlight)
  cases evict with
  | true => exact get_remove_eq_some found
  | false => exact found

/-- A quiet edit keeps what the rows describe, of every target with a client or a poll. -/
theorem Sound.updateTarget {polling : Polling} (sound : polling.Sound decrypt) {tid : TargetId}
    {target : Target} (quiet : polling.EditsQuietly decrypt (.updateTarget tid target)) :
    Sound decrypt { polling with targets := polling.targets.set tid target } := by
  have kept : ∀ other old, polling.targets.get other = some old → polling.Occupied other →
      ∃ new, (polling.targets.set tid target).get other = some new ∧
        connection decrypt new = connection decrypt old := by
    intro other old found occupied
    rw [Table.get_set]
    by_cases edited : other = tid
    · subst edited
      rw [if_pos rfl]
      refine ⟨target, rfl, ?_⟩
      obtain same | free := quiet
      · rw [found, Option.map_some] at same
        exact (Option.some.inj same).symm
      · exact absurd occupied free
    · exact ⟨old, (if_neg edited).trans found, rfl⟩
  have describes : ∀ other client, polling.Occupied other →
      Describes decrypt polling.targets other client →
      Describes decrypt (polling.targets.set tid target) other client := by
    intro other client occupied described
    obtain ⟨old, found, built⟩ := described
    obtain ⟨new, foundNew, same⟩ := kept other old found occupied
    exact ⟨new, foundNew, (congrArg Prod.fst same).trans built⟩
  have copied : ∀ row : TargetId × Target, polling.Occupied row.1 →
      Copied decrypt polling.targets row →
      Copied decrypt (polling.targets.set tid target) row := by
    rintro row occupied ⟨old, found, copied⟩
    obtain ⟨new, foundNew, same⟩ := kept row.1 old found occupied
    exact ⟨new, foundNew, same.trans copied⟩
  constructor
  · intro other client isCached
    have occupied : polling.Occupied other := Or.inl (by rw [isCached]; rfl)
    exact describes other client occupied (sound.cached other client isCached)
  · intro row isCopy
    exact copied row (Or.inr (Or.inr ⟨row, isCopy, rfl⟩)) (sound.copies row isCopy)
  · intro poll inFlight
    have occupied : polling.Occupied poll.tid := Or.inr (Or.inl ⟨poll, inFlight, rfl⟩)
    obtain ⟨isCopy, described⟩ := sound.polls poll inFlight
    exact ⟨copied _ occupied isCopy, fun client isClient =>
      describes poll.tid client occupied (described client isClient)⟩

/-- Every event that edits quietly keeps the polls sound. -/
theorem Sound.step {polling next : Polling} {event : PollingEvent} (sound : polling.Sound decrypt)
    (quiet : polling.EditsQuietly decrypt event) (step : polling.step decrypt event = some next) :
    next.Sound decrypt := by
  cases event with
  | updateTarget tid target =>
    obtain ⟨_, same⟩ := Option.ite_none_right_eq_some.mp step
    exact Option.some.inj same ▸ sound.updateTarget quiet
  | getActiveTargets active =>
    obtain ⟨⟨idle, _⟩, same⟩ := Option.ite_none_right_eq_some.mp step
    rw [← Option.some.inj same]
    refine sound.extend rfl (fun _ _ => Or.inl) (fun row isCopy => ?_) fun _ => Or.inl
    obtain isNew | old := List.mem_append.mp isCopy
    · obtain ⟨tid, _, isRead⟩ := List.mem_filterMap.mp isNew
      exact Or.inr (copied_of_read isRead)
    · exact Or.inl (List.mem_append_right _ old)
  | scheduleDuePolls due =>
    obtain ⟨rows, underWay, step⟩ := Option.bind_eq_some_iff.mp step
    have ofPass : ∀ {row}, row ∈ rows → row ∈ polling.copies := by
      intro row member
      rw [Polling.copies, underWay]
      exact List.mem_append_left _ member
    by_cases idle : rows = []
    · rw [if_pos idle] at step
      rw [← Option.some.inj step]
      exact sound.extend rfl (fun _ _ => Or.inl)
        (fun row isCopy => Or.inl (List.mem_append_right _ isCopy)) fun _ => Or.inl
    · rw [if_neg idle] at step
      obtain ⟨_, same⟩ := Option.ite_none_right_eq_some.mp step
      rw [← Option.some.inj same]
      refine sound.extend rfl (fun _ _ => Or.inl)
        (fun row isCopy => Or.inl (List.mem_append_right _ isCopy)) fun poll inFlight => ?_
      obtain old | isNew := List.mem_append.mp inFlight
      · exact Or.inl old
      · obtain ⟨row, member, rfl⟩ := List.mem_map.mp isNew
        exact Or.inr ((sound.copies row (ofPass (List.mem_filter.mp member).1)).begin false)
  | getTarget tid =>
    obtain ⟨row, isRead, same⟩ := Option.map_eq_some_iff.mp step
    rw [← same]
    refine sound.extend rfl (fun _ _ => Or.inl) (fun other isCopy => ?_) fun _ => Or.inl
    rw [Polling.copies, ← List.append_assoc, List.mem_append, List.mem_singleton] at isCopy
    obtain old | rfl := isCopy
    · exact Or.inl old
    · exact Or.inr (copied_of_read isRead)
  | pollSingle index =>
    obtain ⟨row, requested, same⟩ := Option.map_eq_some_iff.mp step
    rw [← same]
    refine sound.extend rfl (fun _ _ => Or.inl) (fun other isCopy => Or.inl ?_)
      fun poll inFlight => ?_
    · obtain ofPass | waiting := List.mem_append.mp isCopy
      · exact List.mem_append_left _ ofPass
      · exact List.mem_append_right _ (List.mem_of_mem_eraseIdx waiting)
    · obtain old | isNew := List.mem_append.mp inFlight
      · exact Or.inl old
      · rw [List.mem_singleton.mp isNew]
        have isCopy : row ∈ polling.copies :=
          List.mem_append_right _ (List.mem_of_getElem? requested)
        exact Or.inr ((sound.copies row isCopy).begin true)
  | getClient index =>
    obtain ⟨poll, found, step⟩ := Option.bind_eq_some_iff.mp step
    obtain ⟨_, step⟩ := Option.ite_none_right_eq_some.mp step
    obtain ⟨client, built, step⟩ := Option.bind_eq_some_iff.mp step
    cases lookup : polling.clients.get poll.tid with
    | some cached =>
      rw [lookup] at step
      rw [← Option.some.inj step]
      exact sound.moveTo found rfl (sound.cached poll.tid cached lookup)
    | none =>
      rw [lookup] at step
      rw [← Option.some.inj step]
      exact sound.moveTo found rfl
        ((sound.polls poll (List.mem_of_getElem? found)).describes_ofTarget built)
  | connected index success =>
    obtain ⟨poll, found, step⟩ := Option.bind_eq_some_iff.mp step
    cases stage : poll.stage with
    | connecting client =>
      rw [stage] at step
      have described := (sound.polls poll (List.mem_of_getElem? found)).described client
        (by rw [ActivePoll.client, stage])
      cases success with
      | true =>
        rw [← Option.some.inj step]
        have moved : (polling.moveTo index poll (.fetching client)).Sound decrypt :=
          sound.moveTo found rfl described
        exact moved.cacheClient described
      | false =>
        rw [← Option.some.inj step]
        exact sound.endPoll index poll false
    | started => simp [stage] at step
    | fetching client => simp [stage] at step
  | finished index success =>
    obtain ⟨poll, found, step⟩ := Option.bind_eq_some_iff.mp step
    cases stage : poll.stage with
    | started =>
      rw [stage] at step
      obtain ⟨_, same⟩ := Option.ite_none_left_eq_some.mp step
      exact Option.some.inj same ▸ sound.endPoll index poll true
    | connecting client => simp [stage] at step
    | fetching client =>
      rw [stage] at step
      exact Option.some.inj step ▸ sound.endPoll index poll (!success)
  | evicted tid =>
    obtain ⟨_, same⟩ := Option.ite_none_right_eq_some.mp step
    rw [← Option.some.inj same]
    exact sound.extend rfl (fun _ _ found => Or.inl (get_remove_eq_some found)) (fun _ => Or.inl)
      fun _ => Or.inl

end Polling

/-! ### The events of a client lookup -/

/-- What a lookup returns and leaves in the cache: the cached client, a new one that connected, or
nothing. -/
theorem getClient_cases {world : PollWorld} {tid : TargetId} {target : Target} {password : String}
    {token : Option String} {state after : PollState} {found : Option RedfishClient}
    (returned : (getClient world tid target password token).start state = (.ok found, after)) :
    (∃ cached, state.poller.clients.get tid = some cached ∧ found = some cached ∧
        after.poller.clients = state.poller.clients) ∨
      (state.poller.clients.get tid = none ∧
        ((found = none ∧ after.poller.clients = state.poller.clients) ∨
          (found = some (.forTarget target password token) ∧ after.poller.clients =
            state.poller.clients.set tid (.forTarget target password token)))) := by
  unfold getClient modifyPoller at returned
  rw [Attempt.start_bind, Attempt.start_get] at returned
  dsimp only at returned
  cases lookup : state.poller.clients.get tid with
  | some cached =>
    simp only [lookup, Attempt.start_bind, Attempt.start_modify, Attempt.start_pure,
      Prod.mk.injEq, Except.ok.injEq] at returned
    obtain ⟨rfl, rfl⟩ := returned
    exact Or.inl ⟨cached, rfl, rfl, rfl⟩
  | none =>
    refine Or.inr ⟨rfl, ?_⟩
    cases connects : world.connect (.forTarget target password token) with
    | error error =>
      simp only [lookup, connects, Attempt.start_bind, Attempt.start_modify, Attempt.start_pure,
        Prod.mk.injEq, Except.ok.injEq] at returned
      obtain ⟨rfl, rfl⟩ := returned
      exact Or.inl ⟨rfl, rfl⟩
    | ok _ =>
      simp only [lookup, connects, Attempt.start_bind, Attempt.start_modify, Attempt.start_pure,
        Prod.mk.injEq, Except.ok.injEq] at returned
      obtain ⟨rfl, rfl⟩ := returned
      exact Or.inr ⟨rfl, rfl⟩

/-- The lookup of a client without interruption is a run of the machine: it leaves the same cache,
and the poll fetches through the client that was returned, or is over when there is none. -/
theorem getClient_run {world : PollWorld} {polling : Polling} {state after : PollState}
    {index : Nat} {poll : ActivePoll} {password : String} {token : Option String}
    {found : Option RedfishClient} (inFlight : polling.polls[index]? = some poll)
    (started : poll.stage = .started) (sameCache : state.poller.clients = polling.clients)
    (decrypted : decryptPassword world.decrypt poll.target = .ok password)
    (decryptedToken : decryptToken world.decrypt poll.target = .ok token)
    (returned : (getClient world poll.tid poll.target password token).start state =
      (.ok found, after)) :
    ∃ events final, (pollingMachine world.decrypt).run polling events = some final ∧
      final.clients = after.poller.clients ∧
      final.polls = match found with
        | some client => polling.polls.set index { poll with stage := .fetching client }
        | none => polling.polls.eraseIdx index := by
  have built : RedfishClient.ofTarget world.decrypt poll.target =
      some (.forTarget poll.target password token) := by
    rw [RedfishClient.ofTarget, decrypted, decryptedToken]
  have within : index < polling.polls.length := (List.getElem?_eq_some_iff.mp inFlight).1
  obtain ⟨cached, hit, rfl, kept⟩ | ⟨absent, outcome⟩ := getClient_cases returned
  · rw [sameCache] at hit kept
    refine ⟨[.getClient index], polling.moveTo index poll (.fetching cached), ?_, kept.symm, rfl⟩
    simp [Machine.run, pollingMachine, Polling.step, inFlight, started, built, hit]
  · rw [sameCache] at absent outcome
    have connecting : (pollingMachine world.decrypt).step polling (.getClient index) = some
        (polling.moveTo index poll (.connecting (.forTarget poll.target password token))) := by
      simp [pollingMachine, Polling.step, inFlight, started, built, absent]
    have waiting : (polling.moveTo index poll
        (.connecting (.forTarget poll.target password token))).polls[index]? =
          some { poll with stage := .connecting (.forTarget poll.target password token) } :=
      List.getElem?_set_self within
    obtain ⟨rfl, kept⟩ | ⟨rfl, filed⟩ := outcome
    · refine ⟨[.getClient index, .connected index false], (polling.moveTo index poll
        (.connecting (.forTarget poll.target password token))).endPoll index
          { poll with stage := .connecting (.forTarget poll.target password token) } false,
        ?_, kept.symm, ?_⟩
      · rw [Machine.run_cons]
        refine ⟨_, connecting, ?_⟩
        simp [Machine.run, pollingMachine, Polling.step, waiting]
      · exact List.eraseIdx_set_eq
    · refine ⟨[.getClient index, .connected index true], { (polling.moveTo index poll
        (.connecting (.forTarget poll.target password token))).moveTo index
          { poll with stage := .connecting (.forTarget poll.target password token) }
          (.fetching (.forTarget poll.target password token)) with
            clients := polling.clients.set poll.tid (.forTarget poll.target password token) },
        ?_, filed.symm, ?_⟩
      · rw [Machine.run_cons]
        refine ⟨_, connecting, ?_⟩
        simp only [Machine.run, pollingMachine, Polling.step, waiting]
        rfl
      · exact List.set_set _

/-! ### Current connections -/

/-- In every run in which an edit of a connection meets no cached client of its target, no poll of
it and no row read for one, every poll fetches through the client that the current row describes,
under its host. The poller opens without clients and polls. -/
theorem connections_current (decrypt : String → Except PollError String)
    (targets : Table TargetId Target) {events : List PollingEvent} {final : Polling}
    (quiet : (pollingMachine decrypt).Throughout (Polling.EditsQuietly decrypt)
      { targets := targets } events)
    (run : (pollingMachine decrypt).run { targets := targets } events = some final) :
    final.Current decrypt := by
  have opening : Polling.Sound decrypt { targets := targets } :=
    ⟨fun _ _ found => absurd found (by simp),
      fun _ isCopy => absurd isCopy (by simp [Polling.copies]),
      fun _ inFlight => absurd inFlight (by simp)⟩
  exact ((pollingMachine decrypt).run_keeps Polling.Sound.step opening quiet run).current

/-- A poll of the only target, a change of its host, and another poll. -/
def movedTarget (firstPollSucceeds : Bool) : List PollingEvent :=
  [.getActiveTargets [1], .scheduleDuePolls [1], .getClient 0, .connected 0 true,
    .finished 0 firstPollSucceeds, .updateTarget 1 { sampleTarget with host := "10.0.0.2" },
    .getActiveTargets [1], .scheduleDuePolls [1], .getClient 0]

set_option maxRecDepth 8000 in
/-- When the first poll fails, its client is evicted before the host changes, and the second poll
connects to the new host. -/
theorem movedTarget_current : ∃ final,
    (pollingMachine .ok).run { targets := soleTarget }
      (movedTarget false ++ [.connected 0 true]) = some final ∧ final.Current .ok := by
  obtain ⟨final, run, _⟩ := (pollingMachine .ok).exists_of_any (by decide :
    ((pollingMachine .ok).run { targets := soleTarget }
      (movedTarget false ++ [.connected 0 true])).any (fun _ => true) = true)
  exact ⟨final, run, connections_current .ok soleTarget (by decide) run⟩

set_option maxRecDepth 8000 in
/-- When the first poll succeeds, the second one fetches from the host the target had before. -/
theorem movedTarget_stale :
    ¬ ∀ (decrypt : String → Except PollError String) (targets : Table TargetId Target)
      (events : List PollingEvent) (final : Polling),
      (pollingMachine decrypt).run { targets := targets } events = some final →
      final.Current decrypt := by
  intro claimed
  have stale : ((pollingMachine .ok).run { targets := soleTarget } (movedTarget true)).any
      (fun final => decide ¬ final.Current .ok) = true := by decide
  obtain ⟨final, run, notCurrent⟩ := (pollingMachine .ok).exists_of_any stale
  exact of_decide_eq_true notCurrent (claimed .ok soleTarget _ final run)

end Gyanam
