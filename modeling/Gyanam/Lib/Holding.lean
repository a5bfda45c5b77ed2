/-
This file is about holders who take turns at claiming items. A turn lets go of
nothing that is held: the holder first claims what is free among its own share,
and then, while it holds fewer than its cap, adopts free items in their order.

Two results are about whole runs of turns. When the caps add up to the number of
items, every item is held after everyone's turn, whatever the shares. When the
shares are a plan for the items, the run realises the plan exactly when nobody
with spare capacity takes a turn before somebody with a share.
-/

import Mathlib.Algebra.BigOperators.Ring.Finset
import Mathlib.Algebra.Order.BigOperators.Group.List
import Mathlib.Algebra.Order.Ring.Int
import Mathlib.Data.Finset.Card
import Mathlib.Tactic.Common

/-- Who holds each item. -/
abbrev Holding (Item Holder : Type) := Item → Option Holder

/-- What a holder brings to its turn. -/
structure Turn (Item Holder : Type) where
  holder : Holder
  share : List Item
  cap : Int

namespace Holding

/-! ### One turn -/

section Definitions

variable {Item Holder : Type}

/-- The items nobody holds, in their order. -/
def free (items : List Item) (holding : Holding Item Holder) : List Item :=
  items.filter fun item => (holding item).isNone

theorem mem_free {items : List Item} {holding : Holding Item Holder} {item : Item} :
    item ∈ free items holding ↔ item ∈ items ∧ holding item = none := by
  rw [free, List.mem_filter, Option.isNone_iff_eq_none]

variable [DecidableEq Item]

/-- Give the chosen items that nobody holds to a holder. -/
def fill (holding : Holding Item Holder) (holder : Holder) (chosen : List Item) :
    Holding Item Holder := fun item =>
  (holding item).or (if item ∈ chosen then some holder else none)

theorem fill_eq_some {holding : Holding Item Holder} {holder other : Holder}
    {chosen : List Item} {item : Item} :
    holding.fill holder chosen item = some other ↔
      holding item = some other ∨ (holding item = none ∧ item ∈ chosen ∧ other = holder) := by
  rw [fill]
  cases holding item with
  | none => by_cases member : item ∈ chosen <;> simp [member, eq_comm]
  | some current => simp

theorem fill_of_held {holding : Holding Item Holder} {holder other : Holder} {chosen : List Item}
    {item : Item} (isHeld : holding item = some other) :
    holding.fill holder chosen item = some other :=
  fill_eq_some.mpr (Or.inl isHeld)

/-- The holder claims what is free in its share. -/
def claim (items : List Item) (holding : Holding Item Holder) (turn : Turn Item Holder) :
    Holding Item Holder := fun item =>
  if item ∈ items then holding.fill turn.holder turn.share item else none

theorem claim_eq_some {items : List Item} {holding : Holding Item Holder}
    {turn : Turn Item Holder} {item : Item} (present : item ∈ items) {other : Holder} :
    claim items holding turn item = some other ↔
      holding item = some other ∨
        (holding item = none ∧ item ∈ turn.share ∧ other = turn.holder) := by
  rw [claim, if_pos present, fill_eq_some]

/-- Give the first free items to a holder, at most `limit`. -/
def adopt (items : List Item) (holding : Holding Item Holder) (holder : Holder) (limit : Int) :
    Holding Item Holder :=
  holding.fill holder ((free items holding).take limit.toNat)

/-- With a limit for everything that is free, nothing is left free. -/
theorem adopt_covers {items : List Item} {holding : Holding Item Holder} {holder : Holder}
    {limit : Int} (all : (free items holding).length ≤ limit.toNat) {item : Item}
    (present : item ∈ items) : adopt items holding holder limit item ≠ none := by
  rw [adopt, List.take_of_length_le all]
  cases before : holding item with
  | some other => rw [fill_of_held before]; simp
  | none =>
    rw [fill_eq_some.mpr (Or.inr ⟨before, mem_free.mpr ⟨present, before⟩, rfl⟩)]
    simp

variable [DecidableEq Holder]

/-- The items one holder holds. -/
def held (items : List Item) (holding : Holding Item Holder) (holder : Holder) : Finset Item :=
  items.toFinset.filter fun item => holding item = some holder

theorem mem_held {items : List Item} {holding : Holding Item Holder} {holder : Holder}
    {item : Item} :
    item ∈ held items holding holder ↔ item ∈ items ∧ holding item = some holder := by
  rw [held, Finset.mem_filter, List.mem_toFinset]

/-- The free items the holder has capacity for. -/
def adopted (items : List Item) (holding : Holding Item Holder) (turn : Turn Item Holder) :
    List Item :=
  (free items holding).take (turn.cap - (held items holding turn.holder).card).toNat

theorem mem_adopted {items : List Item} {holding : Holding Item Holder} {turn : Turn Item Holder}
    {item : Item} (member : item ∈ adopted items holding turn) :
    item ∈ items ∧ holding item = none :=
  mem_free.mp (List.mem_of_mem_take member)

/-- One turn: claim, then adopt. -/
def take (items : List Item) (holding : Holding Item Holder) (turn : Turn Item Holder) :
    Holding Item Holder :=
  (claim items holding turn).fill turn.holder (adopted items (claim items holding turn) turn)

/-- Turns in order. -/
def run (items : List Item) (holding : Holding Item Holder) (turns : List (Turn Item Holder)) :
    Holding Item Holder :=
  turns.foldl (take items) holding

end Definitions

variable {Item Holder : Type} [DecidableEq Item] [DecidableEq Holder]

/-! ### What a turn gives and keeps -/

/-- What is held stays with its holder. -/
theorem take_of_held {items : List Item} {holding : Holding Item Holder}
    {turn : Turn Item Holder} {item : Item} (present : item ∈ items) {other : Holder}
    (isHeld : holding item = some other) : take items holding turn item = some other :=
  fill_of_held ((claim_eq_some present).mpr (Or.inl isHeld))

/-- Only the holder whose turn it is gains anything. -/
theorem held_of_take {items : List Item} {holding : Holding Item Holder}
    {turn : Turn Item Holder} {item : Item} (present : item ∈ items) {other : Holder}
    (isHeld : take items holding turn item = some other) (different : other ≠ turn.holder) :
    holding item = some other := by
  obtain claimed | ⟨_, _, same⟩ := fill_eq_some.mp isHeld
  · obtain before | ⟨_, _, same⟩ := (claim_eq_some present).mp claimed
    · exact before
    · exact absurd same different
  · exact absurd same different

theorem held_take_of_ne {items : List Item} {holding : Holding Item Holder}
    {turn : Turn Item Holder} {other : Holder} (different : other ≠ turn.holder) :
    held items (take items holding turn) other = held items holding other := by
  ext item
  rw [mem_held, mem_held]
  exact and_congr_right fun present =>
    ⟨fun isHeld => held_of_take present isHeld different, take_of_held present⟩

/-- Adopting gives a holder as many items as are free, up to the limit. -/
theorem card_held_adopt {items : List Item} (distinct : items.Nodup)
    (holding : Holding Item Holder) (holder : Holder) (limit : Int) :
    (held items (adopt items holding holder limit) holder).card =
      (held items holding holder).card + min limit.toNat (free items holding).length := by
  have nodup : ((free items holding).take limit.toNat).Nodup :=
    (distinct.filter _).sublist (List.take_sublist _ _)
  have isFree : ∀ {item}, item ∈ (free items holding).take limit.toNat →
      item ∈ items ∧ holding item = none := fun member => mem_free.mp (List.mem_of_mem_take member)
  rw [← List.length_take, ← List.toFinset_card_of_nodup nodup, ← Finset.card_union_of_disjoint]
  · congr 1
    ext item
    rw [Finset.mem_union, mem_held, mem_held, List.mem_toFinset, adopt, fill_eq_some]
    constructor
    · rintro ⟨present, before | ⟨_, member, _⟩⟩
      · exact Or.inl ⟨present, before⟩
      · exact Or.inr member
    · rintro (⟨present, before⟩ | member)
      · exact ⟨present, Or.inl before⟩
      · exact ⟨(isFree member).1, Or.inr ⟨(isFree member).2, member, rfl⟩⟩
  · rw [Finset.disjoint_left]
    intro item before member
    exact absurd ((mem_held.mp before).2.symm.trans (isFree (List.mem_toFinset.mp member)).2)
      (by simp)

/-- A turn claims, and adopts up to the cap. -/
theorem take_eq_adopt (items : List Item) (holding : Holding Item Holder)
    (turn : Turn Item Holder) :
    take items holding turn = adopt items (claim items holding turn) turn.holder
      (turn.cap - (held items (claim items holding turn) turn.holder).card) := rfl

/-- Adopting never takes a holder above its cap. -/
theorem card_held_take_le {items : List Item} (distinct : items.Nodup)
    (holding : Holding Item Holder) (turn : Turn Item Holder) :
    ((held items (take items holding turn) turn.holder).card : Int) ≤
      max ((held items (claim items holding turn) turn.holder).card : Int) turn.cap := by
  rw [take_eq_adopt, card_held_adopt distinct]
  omega

/-- A holder that is below its cap after its turn has left nothing free. -/
theorem covered_of_lt_cap {items : List Item} (distinct : items.Nodup)
    {holding : Holding Item Holder} {turn : Turn Item Holder}
    (below : ((held items (take items holding turn) turn.holder).card : Int) < turn.cap)
    {item : Item} (present : item ∈ items) : take items holding turn item ≠ none := by
  rw [take_eq_adopt, card_held_adopt distinct] at below
  rw [take_eq_adopt]
  exact adopt_covers (by omega) present

/-- A holder that holds nothing claims at most its share. -/
theorem card_held_claim_le {items : List Item} {holding : Holding Item Holder}
    {turn : Turn Item Holder} (nothing : held items holding turn.holder = ∅) :
    (held items (claim items holding turn) turn.holder).card ≤
      (items.toFinset ∩ turn.share.toFinset).card := by
  refine Finset.card_le_card fun item member => ?_
  obtain ⟨present, claimed⟩ := mem_held.mp member
  obtain before | ⟨_, inShare, _⟩ := (claim_eq_some present).mp claimed
  · have impossible := mem_held.mpr ⟨present, before⟩
    rw [nothing] at impossible
    exact absurd impossible (Finset.notMem_empty item)
  · exact Finset.mem_inter.mpr ⟨List.mem_toFinset.mpr present, List.mem_toFinset.mpr inShare⟩

/-! ### Coverage -/

theorem run_of_held {items : List Item} {holding : Holding Item Holder}
    (turns : List (Turn Item Holder)) {item : Item} (present : item ∈ items) {other : Holder}
    (isHeld : holding item = some other) : run items holding turns item = some other := by
  induction turns generalizing holding with
  | nil => exact isHeld
  | cons turn rest inductionHypothesis => exact inductionHypothesis (take_of_held present isHeld)

theorem held_run_of_ne {items : List Item} {holding : Holding Item Holder}
    {turns : List (Turn Item Holder)} {other : Holder}
    (different : ∀ turn ∈ turns, other ≠ turn.holder) :
    held items (run items holding turns) other = held items holding other := by
  induction turns generalizing holding with
  | nil => rfl
  | cons turn rest inductionHypothesis =>
    rw [List.forall_mem_cons] at different
    exact (inductionHypothesis different.2).trans (held_take_of_ne different.1)

/-- Nobody holds anything but the items. -/
theorem run_of_notMem {items : List Item} {holding : Holding Item Holder}
    (turns : List (Turn Item Holder)) {item : Item} (absent : item ∉ items)
    (unheld : holding item = none) : run items holding turns item = none := by
  induction turns generalizing holding with
  | nil => exact unheld
  | cons turn rest inductionHypothesis =>
    refine inductionHypothesis ?_
    have notAdopted : item ∉ adopted items (claim items holding turn) turn :=
      fun member => absent (mem_adopted member).1
    rw [take, fill, claim, if_neg absent, if_neg notAdopted, Option.none_or]

/-- After everyone's turn, everyone is full or nothing is free. -/
theorem full_or_covered {items : List Item} (distinct : items.Nodup)
    (holding : Holding Item Holder) (turns : List (Turn Item Holder)) :
    (∀ turn ∈ turns, turn.cap ≤ ((held items (run items holding turns) turn.holder).card : Int)) ∨
      ∀ item ∈ items, run items holding turns item ≠ none := by
  induction turns generalizing holding with
  | nil => exact Or.inl fun turn member => absurd member List.not_mem_nil
  | cons turn rest inductionHypothesis =>
    obtain full | covered := inductionHypothesis (take items holding turn)
    · by_cases reached : turn.cap ≤ ((held items (take items holding turn) turn.holder).card : Int)
      · refine Or.inl fun other member => ?_
        obtain rfl | later := List.mem_cons.mp member
        · refine reached.trans (Int.ofNat_le.mpr (Finset.card_le_card fun item isHeld => ?_))
          obtain ⟨present, owned⟩ := mem_held.mp isHeld
          exact mem_held.mpr ⟨present, run_of_held rest present owned⟩
        · exact full other later
      · refine Or.inr fun item present => ?_
        obtain ⟨other, owned⟩ := Option.ne_none_iff_exists'.mp
          (covered_of_lt_cap distinct (not_le.mp reached) present)
        show run items (take items holding turn) rest item ≠ none
        rw [run_of_held rest present owned]
        simp
    · exact Or.inr covered

/-- When the caps of distinct holders add up to the number of items, everything is held after
everyone's turn. -/
theorem run_covers {items : List Item} (distinct : items.Nodup) (holding : Holding Item Holder)
    {turns : List (Turn Item Holder)} (holders : (turns.map Turn.holder).Nodup)
    (enough : (items.length : Int) ≤ (turns.map Turn.cap).sum) {item : Item}
    (present : item ∈ items) : run items holding turns item ≠ none := by
  obtain full | covered := full_or_covered distinct holding turns
  · set final := run items holding turns
    have disjoint : ((turns.map Turn.holder).toFinset : Set Holder).PairwiseDisjoint
        (held items final) := by
      intro first _ second _ different
      rw [Function.onFun, Finset.disjoint_left]
      intro other inFirst inSecond
      exact different (Option.some.inj
        ((mem_held.mp inFirst).2.symm.trans (mem_held.mp inSecond).2))
    have loads : (turns.map Turn.cap).sum ≤
        (((turns.map Turn.holder).toFinset.biUnion (held items final)).card : Int) := by
      rw [Finset.card_biUnion disjoint, Nat.cast_sum, List.sum_toFinset _ holders, List.map_map]
      exact List.sum_le_sum full
    have everything : (turns.map Turn.holder).toFinset.biUnion (held items final) =
        items.toFinset := by
      refine Finset.eq_of_subset_of_card_le
        (Finset.biUnion_subset.mpr fun _ _ => Finset.filter_subset _ _) ?_
      rw [List.toFinset_card_of_nodup distinct]
      exact Int.ofNat_le.mp (enough.trans loads)
    have member := List.mem_toFinset.mpr present
    rw [← everything, Finset.mem_biUnion] at member
    obtain ⟨other, _, isHeld⟩ := member
    rw [(mem_held.mp isHeld).2]
    simp
  · exact covered item present

/-- Holders that start with nothing and have shares within their caps end within their caps. -/
theorem card_held_run_le {items : List Item} (distinct : items.Nodup)
    {holding : Holding Item Holder} {turns : List (Turn Item Holder)}
    (holders : (turns.map Turn.holder).Nodup)
    (nothing : ∀ turn ∈ turns, held items holding turn.holder = ∅)
    (within : ∀ turn ∈ turns, ((items.toFinset ∩ turn.share.toFinset).card : Int) ≤ turn.cap) :
    ∀ turn ∈ turns,
      ((held items (run items holding turns) turn.holder).card : Int) ≤ turn.cap := by
  induction turns generalizing holding with
  | nil => exact fun turn member => absurd member List.not_mem_nil
  | cons turn rest inductionHypothesis =>
    rw [List.map_cons, List.nodup_cons] at holders
    rw [List.forall_mem_cons] at nothing within ⊢
    have others : ∀ other ∈ rest, other.holder ≠ turn.holder := fun other member same =>
      holders.1 (List.mem_map.mpr ⟨other, member, same⟩)
    constructor
    · show ((held items (run items (take items holding turn) rest) turn.holder).card : Int) ≤ _
      rw [held_run_of_ne fun other member => (others other member).symm]
      refine (card_held_take_le distinct holding turn).trans (max_le ?_ le_rfl)
      exact (Int.ofNat_le.mpr (card_held_claim_le nothing.1)).trans within.1
    · refine inductionHypothesis holders.2 (fun other member => ?_) within.2
      rw [held_take_of_ne (others other member)]
      exact nothing.2 other member

/-! ### Realising a plan -/

section Plan

variable {Item Holder : Type}

/-- Whoever takes a turn before somebody with a share has a share as large as its cap. -/
def FullFirst (turns : List (Turn Item Holder)) : Prop :=
  turns.Pairwise fun earlier later =>
    later.share ≠ [] → (earlier.share.length : Int) = earlier.cap

/-- The shares of the turns to come are the items planned for their holders. -/
structure Planned (items : List Item) (plan : Holding Item Holder)
    (turns : List (Turn Item Holder)) : Prop where
  holders : (turns.map Turn.holder).Nodup
  nodup : ∀ turn ∈ turns, turn.share.Nodup
  share : ∀ turn ∈ turns, ∀ item,
    item ∈ turn.share ↔ item ∈ items ∧ plan item = some turn.holder
  within : ∀ turn ∈ turns, (turn.share.length : Int) ≤ turn.cap
  complete : ∀ item ∈ items, plan item ≠ none

/-- The planned holder is among those whose turn is to come. -/
def ToCome (turns : List (Turn Item Holder)) (holder : Option Holder) : Prop :=
  ∃ turn ∈ turns, holder = some turn.holder

theorem toCome_cons {turn : Turn Item Holder} {rest : List (Turn Item Holder)}
    {holder : Option Holder} :
    ToCome (turn :: rest) holder ↔ holder = some turn.holder ∨ ToCome rest holder := by
  simp only [ToCome, List.mem_cons, exists_eq_or_imp]

/-- The items planned for the turns to come are free, and the others are where the plan wants
them. -/
structure Pending (items : List Item) (plan : Holding Item Holder)
    (turns : List (Turn Item Holder)) (holding : Holding Item Holder) : Prop where
  free : ∀ item ∈ items, ToCome turns (plan item) → holding item = none
  settled : ∀ item ∈ items, ¬ ToCome turns (plan item) → holding item = plan item

theorem Planned.tail {items : List Item} {plan : Holding Item Holder} {turn : Turn Item Holder}
    {rest : List (Turn Item Holder)} (planned : Planned items plan (turn :: rest)) :
    Planned items plan rest where
  holders := (List.nodup_cons.mp (List.map_cons ▸ planned.holders)).2
  nodup other member := planned.nodup other (List.mem_cons_of_mem turn member)
  share other member := planned.share other (List.mem_cons_of_mem turn member)
  within other member := planned.within other (List.mem_cons_of_mem turn member)
  complete := planned.complete

theorem Planned.not_toCome {items : List Item} {plan : Holding Item Holder}
    {turn : Turn Item Holder} {rest : List (Turn Item Holder)}
    (planned : Planned items plan (turn :: rest)) : ¬ ToCome rest (some turn.holder) := by
  rintro ⟨other, later, same⟩
  have fresh := (List.nodup_cons.mp (List.map_cons ▸ planned.holders)).1
  exact fresh (List.mem_map.mpr ⟨other, later, (Option.some.inj same).symm⟩)

end Plan

/-- Claiming its share, a holder takes exactly what is planned for it. -/
theorem Pending.claim {items : List Item} {plan : Holding Item Holder} {turn : Turn Item Holder}
    {rest : List (Turn Item Holder)} {holding : Holding Item Holder}
    (pending : Pending items plan (turn :: rest) holding)
    (planned : Planned items plan (turn :: rest)) :
    Pending items plan rest (claim items holding turn) := by
  have inShare := planned.share turn List.mem_cons_self
  constructor
  · intro item present later
    have other : plan item ≠ some turn.holder := fun own => planned.not_toCome (own ▸ later)
    rw [Holding.claim, if_pos present, fill,
      if_neg fun member => other ((inShare item).mp member).2, Option.or_none,
      pending.free item present (toCome_cons.mpr (Or.inr later))]
  · intro item present past
    rw [Holding.claim, if_pos present, fill]
    by_cases own : plan item = some turn.holder
    · rw [pending.free item present (toCome_cons.mpr (Or.inl own)),
        if_pos ((inShare item).mpr ⟨present, own⟩), Option.none_or, own]
    · rw [if_neg fun member => own ((inShare item).mp member).2, Option.or_none]
      exact pending.settled item present fun later => (toCome_cons.mp later).elim own past

theorem held_claim_eq {items : List Item} {plan : Holding Item Holder} {turn : Turn Item Holder}
    {rest : List (Turn Item Holder)} {holding : Holding Item Holder}
    (pending : Pending items plan (turn :: rest) holding)
    (planned : Planned items plan (turn :: rest)) :
    held items (claim items holding turn) turn.holder = turn.share.toFinset := by
  have claimed := pending.claim planned
  ext item
  rw [mem_held, List.mem_toFinset, planned.share turn List.mem_cons_self]
  refine and_congr_right fun present => ⟨fun isHeld => ?_, fun own => ?_⟩
  · by_cases later : ToCome rest (plan item)
    · exact absurd (isHeld.symm.trans (claimed.free item present later)) (by simp)
    · exact (claimed.settled item present later).symm.trans isHeld
  · rw [claimed.settled item present (own ▸ planned.not_toCome), own]

/-- A turn that adopts something does not lead to the plan. -/
theorem Pending.spoiled {items : List Item} {plan : Holding Item Holder} {turn : Turn Item Holder}
    {rest : List (Turn Item Holder)} {holding : Holding Item Holder}
    (pending : Pending items plan (turn :: rest) holding)
    (planned : Planned items plan (turn :: rest)) {item : Item}
    (member : item ∈ adopted items (Holding.claim items holding turn) turn) :
    item ∈ items ∧ run items holding (turn :: rest) item ≠ plan item := by
  obtain ⟨present, isFree⟩ := mem_adopted member
  have taken : take items holding turn item = some turn.holder :=
    fill_eq_some.mpr (Or.inr ⟨isFree, member, rfl⟩)
  refine ⟨present, fun same => ?_⟩
  have final : run items holding (turn :: rest) item = some turn.holder :=
    run_of_held rest present taken
  have own : plan item = some turn.holder := same.symm.trans final
  have settled := (pending.claim planned).settled item present (own ▸ planned.not_toCome)
  exact absurd (own.symm.trans (settled.symm.trans isFree)) (by simp)

/-- A holder adopts nothing exactly when it is full or nobody after it has a share. -/
theorem adopted_eq_nil_iff {items : List Item} {plan : Holding Item Holder}
    {turn : Turn Item Holder} {rest : List (Turn Item Holder)} {holding : Holding Item Holder}
    (pending : Pending items plan (turn :: rest) holding)
    (planned : Planned items plan (turn :: rest)) :
    adopted items (Holding.claim items holding turn) turn = [] ↔
      ∀ later ∈ rest, later.share ≠ [] → (turn.share.length : Int) = turn.cap := by
  have claimed := pending.claim planned
  have load : (held items (Holding.claim items holding turn) turn.holder).card =
      turn.share.length := by
    rw [held_claim_eq pending planned,
      List.toFinset_card_of_nodup (planned.nodup turn List.mem_cons_self)]
  have capacity := planned.within turn List.mem_cons_self
  rw [adopted, load, List.take_eq_nil_iff]
  constructor
  · rintro (full | nothing) later member nonempty
    · omega
    · obtain ⟨item, inShare⟩ := List.exists_mem_of_ne_nil _ nonempty
      obtain ⟨present, own⟩ := (planned.tail.share later member item).mp inShare
      have isFree := mem_free.mpr ⟨present, claimed.free item present ⟨later, member, own⟩⟩
      rw [nothing] at isFree
      exact absurd isFree List.not_mem_nil
  · intro full
    by_cases nothing : free items (Holding.claim items holding turn) = []
    · exact Or.inr nothing
    · obtain ⟨item, isFree⟩ := List.exists_mem_of_ne_nil _ nothing
      obtain ⟨present, unheld⟩ := mem_free.mp isFree
      by_cases toCome : ToCome rest (plan item)
      · obtain ⟨later, member, own⟩ := toCome
        have reached := full later member
          (List.ne_nil_of_mem ((planned.tail.share later member item).mpr ⟨present, own⟩))
        exact Or.inl (by omega)
      · exact absurd ((claimed.settled item present toCome).symm.trans unheld)
          (planned.complete item present)

/-- Over planned shares, the run realises the plan exactly when full shares come first. -/
theorem run_eq_plan_iff {items : List Item} {plan : Holding Item Holder}
    {turns : List (Turn Item Holder)} {holding : Holding Item Holder}
    (planned : Planned items plan turns) (pending : Pending items plan turns holding) :
    (∀ item ∈ items, run items holding turns item = plan item) ↔ FullFirst turns := by
  induction turns generalizing holding with
  | nil =>
    refine ⟨fun _ => List.Pairwise.nil, fun _ item present => pending.settled item present ?_⟩
    rintro ⟨turn, member, _⟩
    exact absurd member List.not_mem_nil
  | cons turn rest inductionHypothesis =>
    rw [FullFirst, List.pairwise_cons, ← adopted_eq_nil_iff pending planned]
    by_cases idle : adopted items (Holding.claim items holding turn) turn = []
    · have same : take items holding turn = claim items holding turn := by
        funext item
        rw [take, idle, fill, if_neg List.not_mem_nil, Option.or_none]
      have shown := inductionHypothesis planned.tail (same ▸ pending.claim planned)
      exact shown.trans ⟨fun full => ⟨idle, full⟩, And.right⟩
    · obtain ⟨item, member⟩ := List.exists_mem_of_ne_nil _ idle
      obtain ⟨present, different⟩ := pending.spoiled planned member
      exact ⟨fun realises => absurd (realises item present) different,
        fun full => absurd full.1 idle⟩

end Holding
