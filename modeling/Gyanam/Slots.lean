/-
This file models the stable ordinals of the dynamic mode. A process claims the
least ordinal without a fresh holder, keeps it by renewing that very ordinal, and
gives it up on release. Both the claim and the renewal first reap the slots whose
heartbeat is stale, in the same transaction.

The token of a slot is unique in the store, so an insertion can fail. The file
shows that it never does when every process renews only the ordinal it was
given, and that ordinals are then identities: nobody holds two, and a process
loses its ordinal only by release or by silence, after which its renewals are
refused while the new holder is alive.
-/

import Gyanam.Lib.Lease
import Gyanam.Models
import Mathlib.Data.Finset.Card
import Mathlib.Data.Finset.Range
import Mathlib.Order.Bounds.Basic

namespace Gyanam

/-! ### Statements on the slot table -/

/-- The store refuses a row: its key or its unique token is taken. -/
inductive IntegrityError where
  | unique
  deriving DecidableEq, Repr

namespace Slots

/-- The slot of an ordinal. -/
def get (slots : Slots) (ordinal : Nat) : Option CollectorSlot := slots.table.get ordinal

/-- Delete the slots with a property. -/
def deleteWhere (slots : Slots) (gone : CollectorSlot → Bool) : Slots where
  table := slots.table.deleteWhere fun _ row => gone row
  unique held alsoHeld := by
    rw [Table.get_deleteWhere] at held alsoHeld
    exact slots.unique (Option.eq_some_of_filter_eq_some held)
      (Option.eq_some_of_filter_eq_some alsoHeld)

/-- Move the heartbeat of one ordinal. -/
def touch (slots : Slots) (ordinal : Nat) (now : Time) : Slots where
  table := slots.table.updateWhere (fun key _ => decide (key = ordinal))
    fun row => { row with updatedAt := now }
  unique held alsoHeld same := by
    rw [Table.get_updateWhere, Option.map_eq_some_iff] at held alsoHeld
    obtain ⟨row, found, rfl⟩ := held
    obtain ⟨other, alsoFound, rfl⟩ := alsoHeld
    refine slots.unique found alsoFound ?_
    simpa only [apply_ite CollectorSlot.token, ite_self] using same

/-- The ordinal a token holds. -/
def ordinalOf (slots : Slots) (token : String) : Option Nat :=
  (slots.table.rows.find? fun entry => decide (entry.2.token = token)).map Prod.fst

theorem ordinalOf_eq_none {slots : Slots} {token : String} :
    slots.ordinalOf token = none ↔
      ∀ ordinal row, slots.get ordinal = some row → row.token ≠ token := by
  rw [ordinalOf, Option.map_eq_none_iff, List.find?_eq_none]
  simp only [decide_eq_true_eq, Prod.forall, get, Table.get_eq_some_iff]

theorem get_of_ordinalOf {slots : Slots} {token : String} {ordinal : Nat}
    (found : slots.ordinalOf token = some ordinal) :
    ∃ row, slots.get ordinal = some row ∧ row.token = token := by
  obtain ⟨⟨key, row⟩, first, rfl⟩ := Option.map_eq_some_iff.mp found
  have holds := List.find?_some first
  exact ⟨row, Table.get_eq_some_iff.mpr (List.mem_of_find?_eq_some first), by simpa using holds⟩

/-- Insert a slot, unless its ordinal or its token is taken. -/
def add (slots : Slots) (ordinal : Nat) (row : CollectorSlot) : Except IntegrityError Slots :=
  if absent : slots.table.get ordinal = none then
    if fresh : slots.ordinalOf row.token = none then
      .ok {
        table := slots.table.insertNew ordinal row absent
        unique := by
          intro first second held other present alsoPresent same
          have others := ordinalOf_eq_none.mp fresh
          rw [Table.get_insertNew] at present alsoPresent
          split at present <;> split at alsoPresent
          · simp_all
          · obtain rfl := Option.some.inj present
            exact absurd same.symm (others second other alsoPresent)
          · obtain rfl := Option.some.inj alsoPresent
            exact absurd same (others first held present)
          · exact slots.unique present alsoPresent same }
    else .error .unique
  else .error .unique

theorem get_deleteWhere (slots : Slots) (gone : CollectorSlot → Bool) (ordinal : Nat) :
    (slots.deleteWhere gone).get ordinal = (slots.get ordinal).filter fun row => !gone row :=
  Table.get_deleteWhere _ _ _

theorem get_touch (slots : Slots) (ordinal : Nat) (now : Time) (other : Nat) :
    (slots.touch ordinal now).get other =
      if other = ordinal then (slots.get other).map fun row => { row with updatedAt := now }
      else slots.get other := by
  refine (Table.get_updateWhere _ _ _ _).trans ?_
  by_cases same : other = ordinal <;> simp [same, get]

/-- Inserting succeeds when the ordinal and the token are free. -/
theorem add_eq_ok {slots : Slots} {ordinal : Nat} {row : CollectorSlot}
    (absent : slots.get ordinal = none) (fresh : slots.ordinalOf row.token = none) :
    ∃ added, slots.add ordinal row = .ok added ∧
      ∀ other, added.get other = if other = ordinal then some row else slots.get other := by
  rw [add, dif_pos (show slots.table.get ordinal = none from absent), dif_pos fresh]
  exact ⟨_, rfl, Table.get_insertNew slots.table ordinal row absent⟩

/-- Delete the slots whose heartbeat is older than `stale`. -/
def reap (slots : Slots) (stale : Time) : Slots :=
  slots.deleteWhere fun row => decide (row.updatedAt < stale)

theorem get_reap_eq_some {slots : Slots} {stale : Time} {ordinal : Nat} {row : CollectorSlot} :
    (slots.reap stale).get ordinal = some row ↔
      slots.get ordinal = some row ∧ stale ≤ row.updatedAt := by
  rw [reap, get_deleteWhere, Option.filter_eq_some_iff]
  simp

end Slots

/-! ### The slot transactions -/

/-- The least ordinal that is not taken: the search upwards from zero ends within as many steps
as ordinals are taken. -/
def lowestFree (taken : List Nat) : Nat :=
  ((List.range (taken.length + 1)).find? fun ordinal => decide (ordinal ∉ taken)).getD taken.length

/-- Claim or renew an ordinal for a process. The clock is read twice, once for the stamp and once
for the cutoff. -/
def claimCollectorSlot (slots : Slots) (token : String) (leaseTtl now later : Time) :
    Except IntegrityError (Slots × Nat) :=
  let reaped := slots.reap (later - leaseTtl)
  match reaped.ordinalOf token with
  | some ordinal => .ok (reaped.touch ordinal now, ordinal)
  | none =>
    let ordinal := lowestFree reaped.table.keys
    (reaped.add ordinal ⟨token, now⟩).map fun added => (added, ordinal)

/-- Re-assert one ordinal for a process; whether the process still holds it. -/
def renewCollectorSlot (slots : Slots) (token : String) (ordinal : Nat)
    (leaseTtl now later : Time) : Except IntegrityError (Slots × Bool) :=
  let reaped := slots.reap (later - leaseTtl)
  match reaped.get ordinal with
  | none => (reaped.add ordinal ⟨token, now⟩).map fun added => (added, true)
  | some row =>
    if row.token = token then .ok (reaped.touch ordinal now, true)
    else .ok (reaped, false)

/-- Give up a process's ordinal. -/
def releaseCollectorSlot (slots : Slots) (token : String) : Slots :=
  slots.deleteWhere fun row => decide (row.token = token)

/-- The search for an ordinal finds the least one that is not taken. -/
theorem lowestFree_isLeast (taken : List Nat) :
    IsLeast {ordinal | ordinal ∉ taken} (lowestFree taken) := by
  rw [lowestFree]
  cases found : (List.range (taken.length + 1)).find? fun ordinal => decide (ordinal ∉ taken) with
  | none =>
    have all : Finset.range (taken.length + 1) ⊆ taken.toFinset := by
      intro ordinal member
      have tried := List.find?_eq_none.mp found ordinal
        (List.mem_range.mpr (Finset.mem_range.mp member))
      simpa using tried
    have many := (Finset.card_le_card all).trans (List.toFinset_card_le taken)
    rw [Finset.card_range] at many
    exact absurd many (Nat.not_succ_le_self _)
  | some ordinal =>
    obtain ⟨isFree, _, earlier⟩ := List.find?_range_eq_some.mp found
    refine ⟨by simpa using isFree, fun other otherFree => not_lt.mp fun below => ?_⟩
    have taken := earlier other below
    simp only [Bool.not_eq_true', decide_eq_false_iff_not, not_not] at taken
    exact otherFree taken

/-! ### What the transactions do -/

/-- A transaction stamps one ordinal for a token and reaps the stale slots among the others. It
may, because no other token is fresh there. -/
structure Stamps (token : String) (now stale : Time) (ordinal : Nat) (before after : Slots) :
    Prop where
  get : ∀ other row, after.get other = some row ↔
    if other = ordinal then row = ⟨token, now⟩
    else before.get other = some row ∧ stale ≤ row.updatedAt
  mine : ∀ row, before.get ordinal = some row → stale ≤ row.updatedAt → row.token = token

theorem stamps_touch {slots : Slots} {token : String} {now stale : Time} {ordinal : Nat}
    {row : CollectorSlot} (found : (slots.reap stale).get ordinal = some row)
    (own : row.token = token) :
    Stamps token now stale ordinal slots ((slots.reap stale).touch ordinal now) where
  get other row := by
    rw [Slots.get_touch]
    split
    · next same =>
      subst same
      rw [found, Option.map_some, ← own]
      exact ⟨fun held => (Option.some.inj held).symm, fun held => held ▸ rfl⟩
    · exact Slots.get_reap_eq_some
  mine other held fresh := by
    have reaped := Slots.get_reap_eq_some.mpr ⟨held, fresh⟩
    rw [← Option.some.inj (found.symm.trans reaped), own]

theorem stamps_add {slots : Slots} {token : String} {stale : Time} {ordinal : Nat} (now : Time)
    (absent : (slots.reap stale).get ordinal = none)
    (fresh : (slots.reap stale).ordinalOf token = none) :
    ∃ after, (slots.reap stale).add ordinal ⟨token, now⟩ = .ok after ∧
      Stamps token now stale ordinal slots after := by
  obtain ⟨after, added, get⟩ : ∃ after, (slots.reap stale).add ordinal ⟨token, now⟩ = .ok after ∧
      ∀ other, after.get other = if other = ordinal then some ⟨token, now⟩
        else (slots.reap stale).get other := Slots.add_eq_ok absent fresh
  refine ⟨after, added, fun other row => ?_, fun row held isFresh => ?_⟩
  · rw [get]
    split
    · exact ⟨fun held => (Option.some.inj held).symm, fun held => held ▸ rfl⟩
    · exact Slots.get_reap_eq_some
  · exact absurd ((Slots.get_reap_eq_some.mpr ⟨held, isFresh⟩).symm.trans absent) (by simp)

theorem slots_get_eq_none {slots : Slots} {stale : Time} {ordinal : Nat} :
    (slots.reap stale).get ordinal = none ↔
      ∀ row, slots.get ordinal = some row → row.updatedAt < stale := by
  rw [Option.eq_none_iff_forall_ne_some]
  simp only [ne_eq, Slots.get_reap_eq_some, not_and, not_le]

/-- What a claim returns: the token's own live ordinal, or else the least ordinal without a fresh
holder. -/
def ClaimedOrdinal (slots : Slots) (token : String) (stale : Time) (ordinal : Nat) : Prop :=
  (∃ row, slots.get ordinal = some row ∧ row.token = token ∧ stale ≤ row.updatedAt) ∨
    ((∀ other row, slots.get other = some row → stale ≤ row.updatedAt → row.token ≠ token) ∧
      IsLeast {other | ∀ row, slots.get other = some row → row.updatedAt < stale} ordinal)

/-- A claim always succeeds. -/
theorem claimCollectorSlot_spec (slots : Slots) (token : String) (leaseTtl now later : Time) :
    ∃ after ordinal, claimCollectorSlot slots token leaseTtl now later = .ok (after, ordinal) ∧
      Stamps token now (later - leaseTtl) ordinal slots after ∧
      ClaimedOrdinal slots token (later - leaseTtl) ordinal := by
  rw [claimCollectorSlot]
  dsimp only
  cases found : (slots.reap (later - leaseTtl)).ordinalOf token with
  | some ordinal =>
    obtain ⟨row, held, own⟩ := Slots.get_of_ordinalOf found
    obtain ⟨present, fresh⟩ := Slots.get_reap_eq_some.mp held
    exact ⟨_, ordinal, rfl, stamps_touch held own, Or.inl ⟨row, present, own, fresh⟩⟩
  | none =>
    have least := lowestFree_isLeast (slots.reap (later - leaseTtl)).table.keys
    have isFree : ∀ ordinal, ordinal ∉ (slots.reap (later - leaseTtl)).table.keys ↔
        ∀ row, slots.get ordinal = some row → row.updatedAt < later - leaseTtl := fun ordinal =>
      Table.get_eq_none_iff.symm.trans slots_get_eq_none
    simp only [isFree] at least
    obtain ⟨after, added, stamps⟩ := stamps_add now (slots_get_eq_none.mpr least.1) found
    refine ⟨after, _, by rw [added]; rfl, stamps, Or.inr ⟨fun other row held fresh => ?_, least⟩⟩
    exact Slots.ordinalOf_eq_none.mp found other row (Slots.get_reap_eq_some.mpr ⟨held, fresh⟩)

/-- A renewal is refused while another token is fresh on the ordinal. -/
theorem renewCollectorSlot_refused {slots : Slots} {token : String} {ordinal : Nat}
    {leaseTtl later : Time} (now : Time) {row : CollectorSlot}
    (held : slots.get ordinal = some row) (other : row.token ≠ token)
    (fresh : later - leaseTtl ≤ row.updatedAt) :
    renewCollectorSlot slots token ordinal leaseTtl now later =
      .ok (slots.reap (later - leaseTtl), false) := by
  rw [renewCollectorSlot]
  rw [Slots.get_reap_eq_some.mpr ⟨held, fresh⟩]
  exact if_neg other

/-- A renewal fails on a unique token, stamps the ordinal, or only reaps. -/
theorem renewCollectorSlot_cases (slots : Slots) (token : String) (ordinal : Nat)
    (leaseTtl now later : Time) :
    renewCollectorSlot slots token ordinal leaseTtl now later = .error .unique ∨
      (∃ after, renewCollectorSlot slots token ordinal leaseTtl now later = .ok (after, true) ∧
        Stamps token now (later - leaseTtl) ordinal slots after) ∨
      renewCollectorSlot slots token ordinal leaseTtl now later =
        .ok (slots.reap (later - leaseTtl), false) := by
  rw [renewCollectorSlot]
  cases found : (slots.reap (later - leaseTtl)).get ordinal with
  | none =>
    by_cases fresh : (slots.reap (later - leaseTtl)).ordinalOf token = none
    · obtain ⟨after, added, stamps⟩ := stamps_add now found fresh
      exact Or.inr (Or.inl ⟨after, by rw [added]; rfl, stamps⟩)
    · have refused : (slots.reap (later - leaseTtl)).add ordinal ⟨token, now⟩ = .error .unique := by
        rw [Slots.add, dif_pos (show (slots.reap (later - leaseTtl)).table.get ordinal = none from
          found), dif_neg fresh]
      exact Or.inl (by rw [refused]; rfl)
  | some row =>
    by_cases own : row.token = token
    · exact Or.inr (Or.inl ⟨_, if_pos own, stamps_touch found own⟩)
    · exact Or.inr (Or.inr (if_neg own))

/-- A renewal succeeds unless it is refused, when the token is fresh on no other ordinal. -/
theorem renewCollectorSlot_granted {slots : Slots} {token : String} {ordinal : Nat}
    {leaseTtl later : Time} (now : Time)
    (only : ∀ other row, slots.get other = some row → row.token = token → other = ordinal)
    (mine : ∀ row, slots.get ordinal = some row → later - leaseTtl ≤ row.updatedAt →
      row.token = token) :
    ∃ after, renewCollectorSlot slots token ordinal leaseTtl now later = .ok (after, true) ∧
      Stamps token now (later - leaseTtl) ordinal slots after := by
  rw [renewCollectorSlot]
  cases found : (slots.reap (later - leaseTtl)).get ordinal with
  | none =>
    have fresh : (slots.reap (later - leaseTtl)).ordinalOf token = none := by
      refine Slots.ordinalOf_eq_none.mpr fun other row held own => ?_
      obtain rfl := only other row (Slots.get_reap_eq_some.mp held).1 own
      exact absurd (held.symm.trans found) (by simp)
    obtain ⟨after, added, stamps⟩ := stamps_add now found fresh
    exact ⟨after, by rw [added]; rfl, stamps⟩
  | some row =>
    obtain ⟨held, fresh⟩ := Slots.get_reap_eq_some.mp found
    have own := mine row held fresh
    exact ⟨_, if_pos own, stamps_touch found own⟩

/-! ### Processes -/

/-- The slots, the clock, and the ordinal each process was last given. -/
structure SlotFleet where
  slots : Slots := {}
  clock : Time
  granted : String → Option Nat := fun _ => none

inductive SlotEvent where
  | claim (token : String) (delay : Nat)
  | renew (token : String) (delay : Nat)
  | release (token : String)
  | advance (elapsed : Nat)

/-- One event. A process renews the ordinal it was given; a transaction that fails leaves the
slots as they are. -/
def SlotFleet.step (leaseTtl : Time) (fleet : SlotFleet) : SlotEvent → Option SlotFleet
  | .claim token delay =>
    match claimCollectorSlot fleet.slots token leaseTtl fleet.clock (fleet.clock + delay) with
    | .ok (slots, ordinal) =>
      some ⟨slots, fleet.clock + delay, Function.update fleet.granted token (some ordinal)⟩
    | .error _ => some { fleet with clock := fleet.clock + delay }
  | .renew token delay =>
    (fleet.granted token).bind fun ordinal =>
      match renewCollectorSlot fleet.slots token ordinal leaseTtl fleet.clock
        (fleet.clock + delay) with
      | .ok (slots, _) => some { fleet with slots := slots, clock := fleet.clock + delay }
      | .error _ => some { fleet with clock := fleet.clock + delay }
  | .release token => some { fleet with slots := releaseCollectorSlot fleet.slots token }
  | .advance elapsed => some { fleet with clock := fleet.clock + elapsed }

def slotMachine (leaseTtl : Time) : Machine SlotFleet SlotEvent := ⟨SlotFleet.step leaseTtl⟩

/-- Every slot is held by the process it was given to. -/
def SlotFleet.Rightful (fleet : SlotFleet) : Prop :=
  ∀ ordinal row, fleet.slots.get ordinal = some row → fleet.granted row.token = some ordinal

theorem renewal_of_rightful {fleet : SlotFleet} (rightful : fleet.Rightful) {token : String}
    {ordinal : Nat} (given : fleet.granted token = some ordinal) (leaseTtl later : Time) :
    (∃ row, fleet.slots.get ordinal = some row ∧ row.token ≠ token ∧
        later - leaseTtl ≤ row.updatedAt ∧
        renewCollectorSlot fleet.slots token ordinal leaseTtl fleet.clock later =
          .ok (fleet.slots.reap (later - leaseTtl), false)) ∨
      ∃ after, renewCollectorSlot fleet.slots token ordinal leaseTtl fleet.clock later =
          .ok (after, true) ∧
        Stamps token fleet.clock (later - leaseTtl) ordinal fleet.slots after := by
  by_cases taken : ∃ row, fleet.slots.get ordinal = some row ∧ row.token ≠ token ∧
      later - leaseTtl ≤ row.updatedAt
  · obtain ⟨row, held, other, fresh⟩ := taken
    exact Or.inl ⟨row, held, other, fresh, renewCollectorSlot_refused _ held other fresh⟩
  · refine Or.inr (renewCollectorSlot_granted _ (fun other row held own => ?_)
      fun row held fresh => ?_)
    · exact Option.some.inj ((own ▸ rightful other row held).symm.trans given)
    · by_contra other
      exact taken ⟨row, held, other, fresh⟩

/-- Stamping an ordinal for the process it is given to keeps every slot rightful. -/
theorem Stamps.rightful {fleet : SlotFleet} (rightful : fleet.Rightful) {token : String}
    {now stale : Time} {ordinal : Nat} {after : Slots}
    (stamps : Stamps token now stale ordinal fleet.slots after)
    {granted : String → Option Nat} (given : granted token = some ordinal)
    (others : ∀ other, other ≠ token → granted other = fleet.granted other) :
    ∀ other row, after.get other = some row → granted row.token = some other := by
  intro other row held
  have was := (stamps.get other row).mp held
  split at was
  · next same => rw [was, same, given]
  · next different =>
    obtain ⟨present, fresh⟩ := was
    by_cases own : row.token = token
    · have stamped := (stamps.get ordinal ⟨token, now⟩).mpr (by rw [if_pos rfl])
      exact absurd (after.unique held stamped own) different
    · rw [others _ own, rightful other row present]

/-- Every step keeps the slots with the processes they were given to. -/
theorem rightful_step (leaseTtl : Time) {fleet next : SlotFleet} {event : SlotEvent}
    (rightful : fleet.Rightful) (step : (slotMachine leaseTtl).step fleet event = some next) :
    next.Rightful := by
  cases event with
  | claim token delay =>
    obtain ⟨after, ordinal, claimed, stamps, _⟩ := claimCollectorSlot_spec fleet.slots token
      leaseTtl fleet.clock (fleet.clock + delay)
    simp only [slotMachine, SlotFleet.step, claimed, Option.some.injEq] at step
    subst step
    exact stamps.rightful rightful (Function.update_self _ _ _)
      fun other different => Function.update_of_ne different _ _
  | renew token delay =>
    obtain ⟨ordinal, given, step⟩ := Option.bind_eq_some_iff.mp step
    rcases renewal_of_rightful rightful given leaseTtl (fleet.clock + delay) with
      ⟨_, _, _, _, refused⟩ | ⟨after, renewed, stamps⟩
    · simp only [refused, Option.some.injEq] at step
      subst step
      exact fun other row held => rightful other row (Slots.get_reap_eq_some.mp held).1
    · simp only [renewed, Option.some.injEq] at step
      subst step
      exact stamps.rightful rightful given fun _ _ => rfl
  | release token =>
    obtain rfl := Option.some.inj step
    intro other row held
    rw [releaseCollectorSlot, Slots.get_deleteWhere] at held
    exact rightful other row (Option.eq_some_of_filter_eq_some held)
  | advance elapsed =>
    obtain rfl := Option.some.inj step
    exact rightful

/-! ### Every event respects the slots -/

/-- A slot as a heartbeat lease. -/
def CollectorSlot.toLease (row : CollectorSlot) : Lease String := ⟨row.token, row.updatedAt⟩

/-- The lease of one ordinal. -/
def SlotFleet.lease (ordinal : Nat) (fleet : SlotFleet) : Option (Lease String) :=
  (fleet.slots.get ordinal).map CollectorSlot.toLease

/-- Claims and renewals reap the slots older than their second reading less the lease time. -/
def SlotFleet.cutoff (leaseTtl : Time) (fleet : SlotFleet) : SlotEvent → Option Time
  | .claim _ delay => some (fleet.clock + delay - leaseTtl)
  | .renew _ delay => some (fleet.clock + delay - leaseTtl)
  | _ => none

theorem Stamps.guarded {token : String} {now stale : Time} {ordinal : Nat} {before after : Slots}
    (stamps : Stamps token now stale ordinal before after) (permitted : Lease String → Prop)
    (other : Nat) :
    Lease.Guarded token now (some stale) permitted ((before.get other).map CollectorSlot.toLease)
      ((after.get other).map CollectorSlot.toLease) where
  stamped lease held := by
    obtain ⟨row, found, rfl⟩ := Option.map_eq_some_iff.mp held
    have was := (stamps.get other row).mp found
    split at was
    · exact Or.inr (congrArg CollectorSlot.toLease was)
    · exact Or.inl (Option.map_eq_some_iff.mpr ⟨row, was.1, rfl⟩)
  kept lease held := by
    obtain ⟨row, found, rfl⟩ := Option.map_eq_some_iff.mp held
    by_cases fresh : stale ≤ row.updatedAt
    · by_cases same : other = ordinal
      · subst same
        have stamped := (stamps.get other ⟨token, now⟩).mpr (by rw [if_pos rfl])
        exact Or.inl ⟨_, Option.map_eq_some_iff.mpr ⟨_, stamped, rfl⟩,
          (stamps.mine row found fresh).symm⟩
      · have stays := (stamps.get other row).mpr (by rw [if_neg same]; exact ⟨found, fresh⟩)
        exact Or.inl ⟨_, Option.map_eq_some_iff.mpr ⟨row, stays, rfl⟩, rfl⟩
    · exact Or.inr (Or.inl ⟨stale, rfl, not_le.mp fresh⟩)

/-- Only deleting slots, each of which is stale or may be deleted, follows the discipline. -/
theorem guarded_of_deleteWhere (token : String) (now : Time) {cutoff : Option Time}
    {permitted : Lease String → Prop} (slots : Slots) (gone : CollectorSlot → Bool)
    (allowed : ∀ row, gone row = true →
      (∃ limit, cutoff = some limit ∧ row.updatedAt < limit) ∨ permitted row.toLease)
    (ordinal : Nat) :
    Lease.Guarded token now cutoff permitted ((slots.get ordinal).map CollectorSlot.toLease)
      (((slots.deleteWhere gone).get ordinal).map CollectorSlot.toLease) where
  stamped lease held := by
    obtain ⟨row, found, rfl⟩ := Option.map_eq_some_iff.mp held
    rw [Slots.get_deleteWhere] at found
    exact Or.inl (Option.map_eq_some_iff.mpr ⟨row, Option.eq_some_of_filter_eq_some found, rfl⟩)
  kept lease held := by
    obtain ⟨row, found, rfl⟩ := Option.map_eq_some_iff.mp held
    cases deleted : gone row with
    | true => exact Or.inr (allowed row deleted)
    | false =>
      refine Or.inl ⟨row.toLease, Option.map_eq_some_iff.mpr ⟨row, ?_, rfl⟩, rfl⟩
      rw [Slots.get_deleteWhere, found, Option.filter_some, deleted]
      rfl

/-- The processes act on the lease of each ordinal under the discipline of heartbeat leases. -/
def slotDiscipline (leaseTtl : Time) (ordinal : Nat) :
    Lease.Discipline (slotMachine leaseTtl) (SlotFleet.lease ordinal) where
  clock := SlotFleet.clock
  cutoff := SlotFleet.cutoff leaseTtl
  permitted _ event lease := event = .release lease.holder
  forward := by
    intro fleet event next step
    cases event with
    | claim token delay =>
      obtain ⟨after, ordinal, claimed, _⟩ := claimCollectorSlot_spec fleet.slots token
        leaseTtl fleet.clock (fleet.clock + delay)
      simp only [slotMachine, SlotFleet.step, claimed, Option.some.injEq] at step
      subst step
      simp
    | renew token delay =>
      obtain ⟨ordinal, _, step⟩ := Option.bind_eq_some_iff.mp step
      split at step <;> obtain rfl := Option.some.inj step <;> simp
    | release token => obtain rfl := Option.some.inj step; rfl
    | advance elapsed => obtain rfl := Option.some.inj step; simp
  guarded := by
    intro fleet event next step
    cases event with
    | claim token delay =>
      obtain ⟨after, claimedOrdinal, claimed, stamps, _⟩ := claimCollectorSlot_spec fleet.slots
        token leaseTtl fleet.clock (fleet.clock + delay)
      simp only [slotMachine, SlotFleet.step, claimed, Option.some.injEq] at step
      subst step
      exact Or.inr ⟨token, stamps.guarded _ ordinal⟩
    | renew token delay =>
      obtain ⟨given, _, step⟩ := Option.bind_eq_some_iff.mp step
      rcases renewCollectorSlot_cases fleet.slots token given leaseTtl fleet.clock
        (fleet.clock + delay) with failed | ⟨after, renewed, stamps⟩ | refused
      · simp only [failed, Option.some.injEq] at step
        subst step
        exact Or.inl rfl
      · simp only [renewed, Option.some.injEq] at step
        subst step
        exact Or.inr ⟨token, stamps.guarded _ ordinal⟩
      · simp only [refused, Option.some.injEq] at step
        subst step
        refine Or.inr
          ⟨token, guarded_of_deleteWhere token _ fleet.slots _ (fun row old => ?_) ordinal⟩
        exact Or.inl ⟨_, rfl, of_decide_eq_true old⟩
    | release token =>
      obtain rfl := Option.some.inj step
      refine Or.inr
        ⟨token, guarded_of_deleteWhere token _ fleet.slots _ (fun row own => ?_) ordinal⟩
      exact Or.inr (congrArg SlotEvent.release (of_decide_eq_true own).symm)
    | advance elapsed =>
      obtain rfl := Option.some.inj step
      exact Or.inl rfl

/-! ### Stable identities -/

/-- An ordinal is lost for a reason: the step releases it for its holder, or the step is a claim
or a renewal before whose cutoff lie the slot's heartbeat and the reading of every claim and
renewal that stamped the ordinal for its holder since the run began. -/
def SlotFleet.LossExplained (leaseTtl : Time) (start : SlotFleet) (before : List SlotEvent)
    (state : SlotFleet) (event : SlotEvent) (ordinal : Nat) (row : CollectorSlot) : Prop :=
  event = .release row.token ∨
    ∃ stale, state.cutoff leaseTtl event = some stale ∧ row.updatedAt < stale ∧
      ∀ earlier renewing renewal renewed later,
        (slotMachine leaseTtl).StepOf start before earlier renewing renewal renewed later state →
        renewed.slots.get ordinal = some ⟨row.token, renewing.clock⟩ → renewing.clock < stale

/-- Stable ordinals. In every state that processes reach from empty slots, two slots are of one
token only if they are one; a claim succeeds and returns the token's own live ordinal or else the
least one without a fresh holder; and a renewal by a process of the ordinal it was given succeeds,
and is refused exactly while another token is fresh on it. Over every run, a process loses its
ordinal only at a step that explains the loss. -/
theorem stable_ordinals (leaseTtl : Time) :
    (∀ (opening : Time) (events : List SlotEvent) (fleet : SlotFleet),
      (slotMachine leaseTtl).run { clock := opening } events = some fleet →
        (∀ first second row other, fleet.slots.get first = some row →
          fleet.slots.get second = some other → (row.token = other.token ↔ first = second)) ∧
        (∀ (token : String) (later : Time), ∃ after ordinal,
          claimCollectorSlot fleet.slots token leaseTtl fleet.clock later = .ok (after, ordinal) ∧
            after.get ordinal = some ⟨token, fleet.clock⟩ ∧
            ClaimedOrdinal fleet.slots token (later - leaseTtl) ordinal) ∧
        ∀ (token : String) (ordinal : Nat) (later : Time), fleet.granted token = some ordinal →
          ∃ after held,
            renewCollectorSlot fleet.slots token ordinal leaseTtl fleet.clock later =
              .ok (after, held) ∧
            (held = false ↔ ∃ row, fleet.slots.get ordinal = some row ∧ row.token ≠ token ∧
              later - leaseTtl ≤ row.updatedAt)) ∧
    ∀ (start final : SlotFleet) (events : List SlotEvent) (ordinal : Nat) (token : String),
      (slotMachine leaseTtl).run start events = some final →
      (start.slots.get ordinal).map CollectorSlot.token = some token →
      (final.slots.get ordinal).map CollectorSlot.token ≠ some token →
        ∃ before state event next after row,
          (slotMachine leaseTtl).StepOf start events before state event next after final ∧
            state.slots.get ordinal = some row ∧ row.token = token ∧
            start.LossExplained leaseTtl before state event ordinal row := by
  constructor
  · intro opening events fleet run
    have rightful : fleet.Rightful := Machine.run_invariant _ (rightful_step leaseTtl)
      (fun ordinal row held => absurd held (by simp [Slots.get])) run
    refine ⟨fun first second row other held alsoHeld =>
      ⟨fleet.slots.unique held alsoHeld, ?_⟩, fun token later => ?_,
      fun token ordinal later given => ?_⟩
    · rintro rfl
      rw [Option.some.inj (held.symm.trans alsoHeld)]
    · obtain ⟨after, ordinal, claimed, stamps, least⟩ := claimCollectorSlot_spec fleet.slots token
        leaseTtl fleet.clock later
      exact ⟨after, ordinal, claimed, (stamps.get ordinal _).mpr (by rw [if_pos rfl]), least⟩
    · rcases renewal_of_rightful rightful given leaseTtl later with
        ⟨row, held, other, fresh, refused⟩ | ⟨after, renewed, stamps⟩
      · exact ⟨_, false, refused, iff_of_true rfl ⟨row, held, other, fresh⟩⟩
      · refine ⟨after, true, renewed, iff_of_false (by simp) ?_⟩
        rintro ⟨row, held, other, fresh⟩
        exact other (stamps.mine row held fresh)
  · intro start final events ordinal token run held lost
    obtain ⟨before, state, event, next, after, row, stepOf, found, mine, cause⟩ :=
      Lease.Discipline.row_lost_only_if (fun fleet : SlotFleet => fleet.slots.get ordinal)
        CollectorSlot.toLease (slotDiscipline leaseTtl ordinal) run held lost
    refine ⟨before, state, event, next, after, row, stepOf, found, mine, ?_⟩
    rcases cause with released | ⟨stale, isCutoff, old, silent⟩
    · exact Or.inl released
    · refine Or.inr ⟨stale, isCutoff, old, ?_⟩
      intro earlier renewing renewal renewed later inside stamped
      exact silent earlier renewing renewal renewed later _ inside stamped
        (congrArg (Lease.mk · renewing.clock) mine)

end Gyanam
