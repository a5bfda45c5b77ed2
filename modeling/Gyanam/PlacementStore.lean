/-
This file follows the placements of a fleet. Operations that nobody asked for
place systems by their names and by what their BMCs report: they are seeded when
a target is created, resolved again over all targets, and applied with each
inventory. Each of them is a list of calls of the repository, a request of an
operator is one call, and the calls of all of them interleave. A call reads its
row, checks the source it finds there, and commits the columns it has changed;
in between, other calls commit theirs, from this process or from another one.

A call of an automated operation carries a source below those of an operator, and
is never forced. So it leaves alone what it finds placed or cleared by an
operator, but not what an operator has placed or cleared since it looked.
-/

import Gyanam.Lib.Datetime
import Gyanam.Lib.Machine
import Gyanam.Lib.Precedence
import Gyanam.Lib.Sorted
import Gyanam.Lib.Table
import Gyanam.Placement

namespace Gyanam

open Json (Text)
open Datetime (Reading)

/-! ### Calls of the repository -/

/-- The columns of an inventory. -/
structure StoredInventory where
  source : Option Text := none
  locationCheck : Option LocationCheck := none
  updatedAt : Option Reading := none
  deriving DecidableEq

/-- The row of a target, as far as placements go. The location is the eight columns. -/
structure PlacedTarget where
  name : Text
  host : Text
  location : Placement := {}
  inventory : StoredInventory := {}
  deriving DecidableEq

namespace PlacedTarget

/-- Persist a system's physical placement, honouring source precedence unless forced. -/
def setLocation (target : PlacedTarget) (placement : Placement) (force : Bool) : PlacedTarget :=
  if !force && !shouldOverwrite target.location.source placement.source then target
  else { target with location := placement }

/-- Update only the rack-unit height, honouring placement precedence. -/
def setHeight (target : PlacedTarget) (heightU : Int) (source : Text) : PlacedTarget :=
  if !shouldOverwrite target.location.source (some source) then target
  else { target with location := { target.location with heightU := some heightU } }

/-- Remove a system's placement, and pin it. -/
def clearLocation (target : PlacedTarget) : PlacedTarget :=
  { target with location := { source := some pinnedSource } }

end PlacedTarget

/-- A call of the repository. -/
inductive RepositoryCall where
  | setTargetLocation (placement : Placement) (force : Bool)
  | setTargetInventory (stored : StoredInventory)
  | setTargetHeight (heightU : Int) (source : Text)
  | clearTargetLocation

/-- What a call makes of the row of its target. -/
def RepositoryCall.rewrite (target : PlacedTarget) : RepositoryCall → PlacedTarget
  | .setTargetLocation placement force => target.setLocation placement force
  | .setTargetInventory stored => { target with inventory := stored }
  | .setTargetHeight heightU source => target.setHeight heightU source
  | .clearTargetLocation => target.clearLocation

/-! ### Commits -/

/-- A column after a commit. Only a column that was set to another value than was read is
written. -/
def flushColumn {Value : Type} [DecidableEq Value] (read set current : Value) : Value :=
  if set = read then current else set

/-- The columns of a location after a commit. -/
def Placement.flush (read set current : Placement) : Placement where
  site := flushColumn read.site set.site current.site
  hall := flushColumn read.hall set.hall current.hall
  row := flushColumn read.row set.row current.row
  rack := flushColumn read.rack set.rack current.rack
  rackU := flushColumn read.rackU set.rackU current.rackU
  heightU := flushColumn read.heightU set.heightU current.heightU
  unitType := flushColumn read.unitType set.unitType current.unitType
  source := flushColumn read.source set.source current.source

/-- The columns of an inventory after a commit. -/
def StoredInventory.flush (read set current : StoredInventory) : StoredInventory where
  source := flushColumn read.source set.source current.source
  locationCheck := flushColumn read.locationCheck set.locationCheck current.locationCheck
  updatedAt := flushColumn read.updatedAt set.updatedAt current.updatedAt

/-- A row after a commit. -/
def PlacedTarget.flush (read set current : PlacedTarget) : PlacedTarget :=
  { current with
    location := read.location.flush set.location current.location
    inventory := read.inventory.flush set.inventory current.inventory }

@[simp] theorem flushColumn_same {Value : Type} [DecidableEq Value] (read current : Value) :
    flushColumn read read current = current := if_pos rfl

@[simp] theorem flushColumn_read {Value : Type} [DecidableEq Value] (read set : Value) :
    flushColumn read set read = set := by
  rw [flushColumn]
  split
  next same => exact same.symm
  next => rfl

/-- Columns that nobody else has written become what was set. -/
@[simp] theorem StoredInventory.flush_read (read set : StoredInventory) :
    read.flush set read = set := by simp [flush]

/-- A location that was not set is not written. -/
@[simp] theorem Placement.flush_same (read current : Placement) :
    read.flush read current = current := by simp [flush]

/-- A location that nobody else has written becomes what was set. -/
@[simp] theorem Placement.flush_read (read set : Placement) : read.flush set read = set := by
  simp [flush]

/-! ### Operations -/

/-- A source of placements that no operator gives. -/
def IsAutomatic (source : Option Text) : Prop :=
  source = some (Json.text "hostname") ∨ source = some (Json.text "redfish")

/-- A call that is not forced, with a source that no operator gives. -/
def RepositoryCall.Automated : RepositoryCall → Prop
  | .setTargetLocation placement force => IsAutomatic placement.source ∧ force = false
  | .setTargetInventory _ => True
  | .setTargetHeight _ source => IsAutomatic (some source)
  | .clearTargetLocation => False

/-- On whose behalf calls are made. -/
inductive Caller where
  | automation
  | operator
  deriving DecidableEq

/-- What is left of an operation, and the row that the first of its calls has read. -/
structure Operation where
  caller : Caller
  calls : List (TargetId × RepositoryCall)
  seen : Option PlacedTarget := none
  automated : caller = .automation → ∀ call ∈ calls, call.2.Automated

/-- A call that has read its row, and has still to commit. -/
structure PendingCall where
  caller : Caller
  targetId : TargetId
  call : RepositoryCall
  seen : PlacedTarget
  automated : caller = .automation → call.Automated

namespace Operation

/-- The request of an operator. -/
def request (targetId : TargetId) (call : RepositoryCall) : Operation where
  caller := .operator
  calls := [(targetId, call)]
  automated := by
    intro other
    cases other

/-- The operation after its first call. -/
def next (operation : Operation) : Operation where
  caller := operation.caller
  calls := operation.calls.tail
  automated same call member := operation.automated same call (List.mem_of_mem_tail member)

/-- The first call of an operation, if it has read. -/
def pending : Operation → Option PendingCall
  | ⟨caller, (targetId, call) :: _, some seen, automated⟩ => some {
      caller := caller
      targetId := targetId
      call := call
      seen := seen
      automated := fun same => automated same _ (.head _) }
  | _ => none

end Operation

/-- The rows after a call has committed. One for a target that is gone writes nothing. -/
def PendingCall.commit (pending : PendingCall) (targets : Table TargetId PlacedTarget) :
    Table TargetId PlacedTarget :=
  targets.updateWhere (fun key _ => key = pending.targetId)
    (pending.seen.flush (pending.call.rewrite pending.seen))

/-- A name gives a placement of its own source. -/
theorem source_of_parseSystemLocation {library : NameLibrary} {config : LocationConfig}
    {name host : Text} {placement : Placement}
    (parsed : parseSystemLocation library config name host = some placement) :
    placement.source = some (Json.text "hostname") := by
  have ofHost : ∀ {text : Text}, parseHostname library config text = some placement →
      placement.source = some (Json.text "hostname") := by
    intro text parsed
    unfold parseHostname at parsed
    split at parsed
    next => cases parsed
    next =>
      obtain ⟨_, _, same⟩ := Option.map_eq_some_iff.mp parsed
      rw [← same]
  rw [parseSystemLocation, Option.or_eq_some_iff] at parsed
  rcases parsed with byName | ⟨_, byHost⟩
  · exact ofHost byName
  · exact ofHost byHost

section Operations

variable (library : NameLibrary) (config : LocationConfig)

/-- The call that places a target by its name, if this gives a place. -/
def hostnameCall (targetId : TargetId) (name host : Text) : Option (TargetId × RepositoryCall) :=
  (parseSystemLocation library config name host).map fun placement =>
    (targetId, .setTargetLocation placement false)

theorem automated_of_hostnameCall {targetId : TargetId} {name host : Text}
    {call : TargetId × RepositoryCall}
    (made : hostnameCall library config targetId name host = some call) : call.2.Automated := by
  obtain ⟨placement, parsed, rfl⟩ := Option.map_eq_some_iff.mp made
  exact ⟨.inl (source_of_parseSystemLocation parsed), rfl⟩

/-- Derive the placement of a target that was just created. -/
def seedLocation (targetId : TargetId) (name host : Text) : Operation where
  caller := .automation
  calls := (hostnameCall library config targetId name host).toList
  automated _ _ member := automated_of_hostnameCall library config (Option.mem_toList.mp member)

/-- Re-derive the placements of all targets, in the order of their names. -/
def resolvePlacements (targets : Table TargetId PlacedTarget) : Operation where
  caller := .automation
  calls := (SortedList.byKey (fun row => row.2.name) targets.rows).filterMap fun row =>
    hostnameCall library config row.1 row.2.name row.2.host
  automated _ _ member :=
    have ⟨_, _, made⟩ := List.mem_filterMap.mp member
    automated_of_hostnameCall library config made

/-- The call that places a target as its BMC reports, or else stores its height. A height of zero
counts as none. -/
def inventoryCall (inventory : Inventory) : Option RepositoryCall :=
  let heightU := inventory.heightU.filter (· ≠ 0)
  match inventory.placement with
  | some placement =>
    some (.setTargetLocation { placement with heightU := heightU.or placement.heightU } false)
  | none => heightU.map fun heightU => .setTargetHeight heightU (Json.text "redfish")

theorem automated_of_inventoryCall {inventory : Inventory} {call : RepositoryCall}
    (made : inventoryCall inventory = some call) : call.Automated := by
  unfold inventoryCall at made
  cases found : inventory.placement with
  | some placement =>
    rw [found, Option.some.injEq] at made
    rw [← made]
    exact ⟨.inr (inventory.reported placement found), rfl⟩
  | none =>
    rw [found, Option.map_eq_some_iff] at made
    obtain ⟨_, _, rfl⟩ := made
    exact .inr rfl

/-- Persist a collected inventory, and the placement or the height it reports. The name and the host
are those of the row that was read before. -/
def applyInventory (targetId : TargetId) (name host : Text) (inventory : Inventory)
    (now : Reading) : Operation where
  caller := .automation
  calls :=
    let namePlacement := parseSystemLocation library config name host
    let stored : StoredInventory := {
      source := some (Json.text "redfish")
      locationCheck := checkLocation library namePlacement inventory.placement
      updatedAt := some now }
    (targetId, .setTargetInventory stored) ::
      ((inventoryCall inventory).map fun call => (targetId, call)).toList
  automated _ call member := by
    rcases List.mem_cons.mp member with rfl | later
    · exact trivial
    · obtain ⟨made, found, rfl⟩ := Option.map_eq_some_iff.mp (Option.mem_toList.mp later)
      exact automated_of_inventoryCall found

end Operations

/-! ### The machine -/

/-- The targets, and the operations in flight. -/
structure PlacementStore where
  targets : Table TargetId PlacedTarget
  operations : List Operation := []

/-- What happens. An inventory comes with the location and the height that the BMC reports, and with
the name and the host of the row that was read before. -/
inductive PlacementEvent where
  | createTarget (targetId : TargetId) (name host : Text)
  | resolvePlacements
  | applyInventory (targetId : TargetId) (name host : Text) (location : Option Json)
      (heightU : Option Int) (now : Reading)
  | setPlacement (targetId : TargetId) (form : PlacementForm)
  | clearPlacement (targetId : TargetId)
  | read (index : Nat)
  | commit (index : Nat)
  | locked (index : Nat)
  | abandon (index : Nat)

namespace PlacementStore

/-- An operation starts. -/
def start (store : PlacementStore) (operation : Operation) : PlacementStore :=
  { store with operations := store.operations ++ [operation] }

/-- An operation in flight becomes another one. -/
def put (store : PlacementStore) (index : Nat) (operation : Operation) : PlacementStore :=
  { store with operations := store.operations.set index operation }

/-- The call of an operation that is about to commit. -/
def pending (store : PlacementStore) (index : Nat) : Option PendingCall :=
  store.operations[index]?.bind Operation.pending

section Machine

variable (library : NameLibrary) (config : LocationConfig) (printed : Json → Text)

/-- One event. A new target has an id that no target has, and no place. A form that is refused makes
no call. A call whose target is gone returns; one that finds the database locked is made again; and
an operation may end before its last call. -/
def step (store : PlacementStore) : PlacementEvent → Option PlacementStore
  | .createTarget targetId name host =>
    if (store.targets.get targetId).isSome then none
    else
      let created := { store with
        targets := store.targets.set targetId { name := name, host := host } }
      some (created.start (seedLocation library config targetId name host))
  | .resolvePlacements => some (store.start (Gyanam.resolvePlacements library config store.targets))
  | .applyInventory targetId name host location heightU now =>
    let inventory := collectInventory printed location config.defaultUnitType heightU
    some (store.start (Gyanam.applyInventory library config targetId name host inventory now))
  | .setPlacement targetId form =>
    match form.placement config with
    | .ok placement => some (store.start (.request targetId (.setTargetLocation placement true)))
    | .error _ => some store
  | .clearPlacement targetId => some (store.start (.request targetId .clearTargetLocation))
  | .read index => do
    let operation ← store.operations[index]?
    match operation.calls, operation.seen with
    | (targetId, _) :: _, none =>
      match store.targets.get targetId with
      | some row => some (store.put index { operation with seen := some row })
      | none => some (store.put index operation.next)
    | _, _ => none
  | .commit index => do
    let operation ← store.operations[index]?
    let pending ← operation.pending
    some { store.put index operation.next with targets := pending.commit store.targets }
  | .locked index => do
    let operation ← store.operations[index]?
    some (store.put index { operation with seen := none })
  | .abandon index => some { store with operations := store.operations.eraseIdx index }

end Machine

/-- Does an event write what an operator has asked for a target? -/
def OperatorWrites (targetId : TargetId) (store : PlacementStore) : PlacementEvent → Prop
  | .commit index =>
    ∃ pending ∈ store.pending index, pending.targetId = targetId ∧ pending.caller = .operator
  | _ => False

instance (targetId : TargetId) (store : PlacementStore) (event : PlacementEvent) :
    Decidable (store.OperatorWrites targetId event) := by
  unfold OperatorWrites
  split <;> infer_instance

end PlacementStore

/-- The placements of a fleet over time. -/
def placementMachine (library : NameLibrary) (config : LocationConfig) (printed : Json → Text) :
    Machine PlacementStore PlacementEvent where
  step := PlacementStore.step library config printed

/-! ### What a call does -/

/-- The trust in the place of a target. -/
def PlacedTarget.trust (target : PlacedTarget) : Nat := sourceRank target.location.source

/-- Has an operator placed the system, or cleared it? -/
def PlacedTarget.Operators (target : PlacedTarget) : Prop :=
  target.location.source = some (Json.text "manual") ∨ target.location.source = some pinnedSource

instance (target : PlacedTarget) : Decidable target.Operators :=
  inferInstanceAs (Decidable (_ ∨ _))

/-- A call commits to a row that nobody has written in its way: for an automated call, no operator
has placed or cleared the system since the call read the row; for one of an operator, the location
is still as it was read. -/
def PendingCall.Uncrossed (pending : PendingCall) (row : PlacedTarget) : Prop :=
  match pending.caller with
  | .automation => row.Operators → pending.seen.Operators
  | .operator => row.location = pending.seen.location

instance (pending : PendingCall) (row : PlacedTarget) : Decidable (pending.Uncrossed row) := by
  unfold PendingCall.Uncrossed
  split <;> infer_instance

/-- A call that commits for a target is not crossed by another. -/
def PlacementStore.Uncrossed (targetId : TargetId) (store : PlacementStore) :
    PlacementEvent → Prop
  | .commit index =>
    ∀ pending ∈ store.pending index, pending.targetId = targetId →
      ∀ row ∈ store.targets.get targetId, pending.Uncrossed row
  | _ => True

instance (targetId : TargetId) (store : PlacementStore) (event : PlacementEvent) :
    Decidable (store.Uncrossed targetId event) := by
  unfold PlacementStore.Uncrossed
  split <;> infer_instance

/-- A source that no operator gives ranks below both that operators give. -/
theorem sourceRank_lt_trust {source : Option Text} (automatic : IsAutomatic source)
    {target : PlacedTarget} (operators : target.Operators) : sourceRank source < target.trust := by
  unfold PlacedTarget.trust
  rcases automatic with rfl | rfl <;> rcases operators with manual | pinned
  · rw [manual]; decide
  · rw [pinned]; decide
  · rw [manual]; decide
  · rw [pinned]; decide

open Precedence (Write)

/-- A placement as a guarded write. -/
def Placement.write (placement : Placement) : Write PlacedTarget Nat where
  rank := sourceRank placement.source
  change target := { target with location := placement }

/-- A height as a guarded write. It leaves the source as it is. -/
def heightWrite (heightU : Int) (source : Text) : Write PlacedTarget Nat where
  rank := sourceRank (some source)
  change target := { target with location := { target.location with heightU := some heightU } }

theorem setLocation_unforced (target : PlacedTarget) (placement : Placement) :
    target.setLocation placement false = placement.write.apply PlacedTarget.trust target := by
  by_cases lands : target.trust ≤ placement.write.rank
  · have overwrites : shouldOverwrite target.location.source placement.source = true :=
      decide_eq_true lands
    rw [Write.apply, if_pos lands, PlacedTarget.setLocation, overwrites]
    rfl
  · have keeps : shouldOverwrite target.location.source placement.source = false :=
      decide_eq_false lands
    rw [Write.apply, if_neg lands, PlacedTarget.setLocation, keeps]
    rfl

theorem setHeight_eq (target : PlacedTarget) (heightU : Int) (source : Text) :
    target.setHeight heightU source =
      (heightWrite heightU source).apply PlacedTarget.trust target := by
  by_cases lands : target.trust ≤ (heightWrite heightU source).rank
  · have overwrites : shouldOverwrite target.location.source (some source) = true :=
      decide_eq_true lands
    rw [Write.apply, if_pos lands, PlacedTarget.setHeight, overwrites]
    rfl
  · have keeps : shouldOverwrite target.location.source (some source) = false :=
      decide_eq_false lands
    rw [Write.apply, if_neg lands, PlacedTarget.setHeight, keeps]
    rfl

/-- An automated call leaves a place alone that an operator gave. -/
theorem RepositoryCall.Automated.location_eq {call : RepositoryCall} (automated : call.Automated)
    {target : PlacedTarget} (operators : target.Operators) :
    (call.rewrite target).location = target.location := by
  cases call with
  | setTargetLocation placement force =>
    obtain ⟨automatic, rfl⟩ := automated
    rw [rewrite, setLocation_unforced, Write.apply_of_lt (sourceRank_lt_trust automatic operators)]
  | setTargetInventory stored => rfl
  | setTargetHeight heightU source =>
    rw [rewrite, setHeight_eq, Write.apply_of_lt (sourceRank_lt_trust automated operators)]
  | clearTargetLocation => exact automated.elim

/-- A commit writes the row of its target, and no other. -/
theorem PendingCall.get_commit (pending : PendingCall) (targets : Table TargetId PlacedTarget)
    (targetId : TargetId) :
    (pending.commit targets).get targetId =
      (targets.get targetId).map fun row =>
        if targetId = pending.targetId then
          pending.seen.flush (pending.call.rewrite pending.seen) row
        else row := by
  rw [commit, Table.get_updateWhere]
  simp

/-- A call that commits to the row as it read it rewrites it. -/
theorem PendingCall.get_commit_alone (pending : PendingCall)
    {targets : Table TargetId PlacedTarget}
    (alone : targets.get pending.targetId = some pending.seen) :
    (pending.commit targets).get pending.targetId =
      some (pending.call.rewrite pending.seen) := by
  rw [get_commit, alone, Option.map_some, if_pos rfl, PlacedTarget.flush]
  cases pending.call with
  | setTargetLocation placement force =>
    simp only [RepositoryCall.rewrite, PlacedTarget.setLocation]
    split <;> simp
  | setTargetInventory stored => simp [RepositoryCall.rewrite]
  | setTargetHeight heightU source =>
    simp only [RepositoryCall.rewrite, PlacedTarget.setHeight]
    split <;> simp
  | clearTargetLocation => simp [RepositoryCall.rewrite, PlacedTarget.clearLocation]

/-- An automated call that is not crossed leaves a place alone that an operator gave. -/
theorem PendingCall.location_flush {pending : PendingCall}
    (automatic : pending.caller = .automation)
    {row : PlacedTarget} (uncrossed : pending.Uncrossed row) (operators : row.Operators) :
    (pending.seen.flush (pending.call.rewrite pending.seen) row).location = row.location := by
  rw [Uncrossed, automatic] at uncrossed
  have refused := (pending.automated automatic).location_eq (uncrossed operators)
  rw [PlacedTarget.flush, refused, Placement.flush_same]

/-- Only an operator clears. -/
theorem PendingCall.caller_of_clear {pending : PendingCall}
    (clears : pending.call = .clearTargetLocation) : pending.caller = .operator := by
  cases caller : pending.caller with
  | operator => rfl
  | automation =>
    have automated := pending.automated caller
    rw [clears] at automated
    exact automated.elim

/-! ### What a step does -/

namespace PlacementStore

variable {library : NameLibrary} {config : LocationConfig} {printed : Json → Text}

/-- What an event makes of the rows: it leaves them, adds one, or commits a call. -/
inductive Rewrites (store : PlacementStore) :
    PlacementEvent → Table TargetId PlacedTarget → Prop
  | leaves (event : PlacementEvent) : Rewrites store event store.targets
  | adds {targetId : TargetId} {name host : Text} (fresh : store.targets.get targetId = none) :
    Rewrites store (.createTarget targetId name host)
      (store.targets.set targetId { name := name, host := host })
  | commits (index : Nat) {pending : PendingCall} (found : store.pending index = some pending) :
    Rewrites store (.commit index) (pending.commit store.targets)

/-- A commit writes what the call in progress has set. -/
theorem targets_of_commit {store next : PlacementStore} {index : Nat}
    (step : store.step library config printed (.commit index) = some next) :
    ∃ pending, store.pending index = some pending ∧
      next.targets = pending.commit store.targets := by
  obtain ⟨operation, found, made⟩ := Option.bind_eq_some_iff.mp step
  obtain ⟨pending, read, same⟩ := Option.bind_eq_some_iff.mp made
  obtain rfl := Option.some.inj same
  exact ⟨pending, by rw [PlacementStore.pending, found, Option.bind_some, read], rfl⟩

/-- Every step does one of these things. -/
theorem rewrites_of_step {store next : PlacementStore} {event : PlacementEvent}
    (step : store.step library config printed event = some next) :
    Rewrites store event next.targets := by
  cases event with
  | createTarget targetId name host =>
    simp only [PlacementStore.step, Option.ite_none_left_eq_some, Option.some.injEq] at step
    obtain ⟨absent, rfl⟩ := step
    exact .adds (Option.not_isSome_iff_eq_none.mp absent)
  | setPlacement targetId form =>
    simp only [PlacementStore.step] at step
    split at step
    all_goals
      obtain rfl := Option.some.inj step
      exact .leaves _
  | resolvePlacements | applyInventory | clearPlacement | abandon =>
    obtain rfl := Option.some.inj step
    exact .leaves _
  | read index =>
    obtain ⟨operation, _, made⟩ := Option.bind_eq_some_iff.mp step
    split at made
    next =>
      split at made
      all_goals
        obtain rfl := Option.some.inj made
        exact .leaves _
    next => cases made
  | commit index =>
    obtain ⟨pending, committing, written⟩ := targets_of_commit step
    exact written ▸ .commits index committing
  | locked index =>
    obtain ⟨operation, _, made⟩ := Option.bind_eq_some_iff.mp step
    obtain rfl := Option.some.inj made
    exact .leaves _

/-- A target has a place that an operator gave it, or has been cleared. -/
def Holds (targetId : TargetId) (place : Placement) (store : PlacementStore) : Prop :=
  ∃ row, store.targets.get targetId = some row ∧ row.location = place ∧ row.Operators

/-- A step that writes for no operator and is not crossed keeps such a place. -/
theorem holds_step {targetId : TargetId} {place : Placement} {store next : PlacementStore}
    {event : PlacementEvent} (holds : store.Holds targetId place)
    (untouched : ¬ store.OperatorWrites targetId event) (uncrossed : store.Uncrossed targetId event)
    (step : store.step library config printed event = some next) : next.Holds targetId place := by
  obtain ⟨row, found, same, operators⟩ := holds
  have rewrites := rewrites_of_step step
  unfold Holds
  generalize next.targets = targets at rewrites ⊢
  cases rewrites with
  | leaves => exact ⟨row, found, same, operators⟩
  | @adds created name host fresh =>
    have other : targetId ≠ created := by
      rintro rfl
      rw [fresh] at found
      cases found
    exact ⟨row, by rw [Table.get_set, if_neg other, found], same, operators⟩
  | @commits index pending committing =>
    rw [PendingCall.get_commit, found]
    refine ⟨_, rfl, ?_⟩
    by_cases here : targetId = pending.targetId
    · simp only [if_pos here, PlacedTarget.Operators]
      have automatic : pending.caller = .automation := by
        cases caller : pending.caller with
        | automation => rfl
        | operator => exact absurd ⟨pending, committing, here.symm, caller⟩ untouched
      have meets := uncrossed pending committing here.symm row found
      rw [PendingCall.location_flush automatic meets operators]
      exact ⟨same, operators⟩
    · simp only [if_neg here]
      exact ⟨same, operators⟩

/-- Clearing a target, uncrossed, pins it without a place. -/
theorem holds_of_clear {targetId : TargetId} {store next : PlacementStore} {index : Nat}
    {row : PlacedTarget} {pending : PendingCall} (found : store.targets.get targetId = some row)
    (committing : store.pending index = some pending) (here : pending.targetId = targetId)
    (clears : pending.call = .clearTargetLocation)
    (uncrossed : store.Uncrossed targetId (.commit index))
    (step : store.step library config printed (.commit index) = some next) :
    next.Holds targetId { source := some pinnedSource } := by
  have alone : row.location = pending.seen.location := by
    have meets := uncrossed pending committing here row found
    rwa [PendingCall.Uncrossed, PendingCall.caller_of_clear clears] at meets
  obtain ⟨other, committing', written⟩ := targets_of_commit step
  obtain rfl := Option.some.inj (committing.symm.trans committing')
  rw [Holds, written, PendingCall.get_commit, found]
  refine ⟨_, rfl, ?_⟩
  simp only [if_pos here.symm, PlacedTarget.Operators, PlacedTarget.flush, alone, clears,
    Placement.flush_read]
  exact ⟨rfl, .inr rfl⟩

end PlacementStore

/-! ### What no operation changes -/

/-- In every run in which no call for a target is crossed, whatever operations start, interleave and
end in it, a target that an operator has placed or cleared keeps all its columns of the location
until the next write of an operator. In particular a target that was cleared stays without a
place. -/
theorem operator_placement_kept (library : NameLibrary) (config : LocationConfig)
    (printed : Json → Text) (targetId : TargetId) (store final : PlacementStore)
    (events : List PlacementEvent)
    (run : (placementMachine library config printed).run store events = some final)
    (meets : (placementMachine library config printed).Throughout
      (fun state event =>
        ¬ state.OperatorWrites targetId event ∧ state.Uncrossed targetId event) store events) :
    (∀ row, store.targets.get targetId = some row → row.Operators →
      ∃ later, final.targets.get targetId = some later ∧ later.location = row.location) ∧
    (∀ (earlier : PlacementStore) index row, ∀ pending ∈ earlier.pending index,
      earlier.targets.get targetId = some row → pending.targetId = targetId →
      pending.call = .clearTargetLocation → earlier.Uncrossed targetId (.commit index) →
      earlier.step library config printed (.commit index) = some store →
      ∃ later, final.targets.get targetId = some later ∧
        later.location = { source := some pinnedSource }) := by
  have kept : ∀ {place : Placement}, store.Holds targetId place → final.Holds targetId place := by
    intro place holds
    exact (placementMachine library config printed).run_keeps
      (fun before meets step => PlacementStore.holds_step before meets.1 meets.2 step)
      holds meets run
  constructor
  · intro row found operators
    obtain ⟨later, found, same, _⟩ := kept ⟨row, found, rfl, operators⟩
    exact ⟨later, found, same⟩
  · intro earlier index row pending committing found here clears alone step
    obtain ⟨later, found, same, _⟩ :=
      kept (PlacementStore.holds_of_clear found committing here clears alone step)
    exact ⟨later, found, same⟩

/-- A library whose patterns are a letter followed by digits. -/
def letterAndDigits : NameLibrary where
  lower := Strings.lower
  groups _ _ := none
  capture pattern token :=
    match token with
    | letter :: digits =>
      if pattern = letter :: Json.text "[0-9]+" ∧ digits ≠ [] ∧
          digits.all (fun digit => digit.val < 0x80 && (Strings.decimalDigit digit).isSome) then
        some (some token)
      else none
    | [] => none

/-- Racks are named by a g and digits. -/
def rackNames : LocationConfig where
  tokenRules := [{ field := Json.text "rack", pattern := Json.text "g[0-9]+" }]

/-- A system that is placed by an operator, away from where its name puts it. -/
def relocatedTarget : PlacedTarget where
  name := Json.text "node-g7"
  host := Json.text "10.0.0.7"
  location := { rack := some (Json.text "A1"), source := some (Json.text "manual") }

/-- What the BMC of that system reports of its place. -/
def reportedElsewhere : Json := .object [
  (Json.text "Placement", .object [(Json.text "Rack", .string (Json.text "B2"))])]

/-- A value is printed as nothing. -/
def printNothing : Json → Text := fun _ => []

/-- The fleets of the examples. -/
def sampleFleet : Machine PlacementStore PlacementEvent :=
  placementMachine letterAndDigits rackNames printNothing

/-- An inventory of that system is applied, with a rack and a height. -/
def reportsElsewhere : PlacementEvent :=
  .applyInventory 1 relocatedTarget.name relocatedTarget.host (some reportedElsewhere) (some 4)
    Reading.epoch

/-- The events of that system: its place is resolved again while an inventory of it is applied. -/
def resolvedAgain : List PlacementEvent := [
  .resolvePlacements, reportsElsewhere,
  .read 1, .read 0, .commit 1, .read 1, .commit 0, .locked 1, .read 1, .commit 1]

theorem relocatedTarget_kept :
    ∃ final, sampleFleet.run { targets := Table.empty.set 1 relocatedTarget } resolvedAgain =
        some final ∧
      ∃ later, final.targets.get 1 = some later ∧ later.location = relocatedTarget.location := by
  obtain ⟨final, run, _⟩ := sampleFleet.exists_of_any
    (by decide : (sampleFleet.run { targets := Table.empty.set 1 relocatedTarget }
      resolvedAgain).any (fun _ => true) = true)
  exact ⟨final, run, (operator_placement_kept _ _ _ 1 _ final _ run (by decide)).1
    relocatedTarget (by decide) (.inl (by decide))⟩

/-- A system that nobody has placed. -/
def unplacedTarget : PlacedTarget where
  name := Json.text "node-g7"
  host := Json.text "10.0.0.7"

/-- An operator places that system while a call of an inventory has read its row and not yet
committed: it is placed where the BMC says. -/
def placedMeanwhile : List PlacementEvent := [
  reportsElsewhere, .read 0, .commit 0, .read 0,
  .setPlacement 1 { rack := some (Json.text "A1") }, .read 1, .commit 1]

/-- The call of the inventory then commits what it has set. -/
theorem placedTarget_moved :
    ¬ ∀ (library : NameLibrary) (config : LocationConfig) (printed : Json → Text)
        (targetId : TargetId) (start store final : PlacementStore)
        (before events : List PlacementEvent),
      start.operations = [] →
      (placementMachine library config printed).run start before = some store →
      (placementMachine library config printed).run store events = some final →
      (placementMachine library config printed).Throughout
        (fun state event => ¬ state.OperatorWrites targetId event) store events →
      ∀ row, store.targets.get targetId = some row → row.Operators →
        ∃ later, final.targets.get targetId = some later ∧ later.location = row.location := by
  intro claimed
  obtain ⟨later, found, same⟩ := claimed letterAndDigits rackNames printNothing 1
    { targets := Table.empty.set 1 unplacedTarget } _ _ placedMeanwhile [.commit 0] rfl rfl rfl
    (by decide) _ rfl (.inl rfl)
  obtain rfl := Option.some.inj found
  exact absurd (congrArg Placement.rack same) (by decide)

end Gyanam
