/-
This file models the pure allocator of the dynamic sharding mode: every live
collector runs it over the same target ids and the same live set, and takes its
own slice of the result.

Each target goes to its highest-scoring collector that is still under the cap.
The allocator is a greedy seating in the sense of `Gyanam/Lib/Seating.lean`: the
targets are taken in increasing order, the quota of every live collector is the
cap, and a target ranks the collectors by `(-score, id)`. `allocate_greedy` is
that refinement, and the results about the allocator are read off it.
-/

import Gyanam.Lib.Sorted
import Gyanam.Lib.Seating
import Gyanam.Models
import Mathlib.Data.Prod.Lex
import Mathlib.Data.Rat.Floor

namespace Gyanam

/-! ### The allocator -/

/-- A weight of every pair of a target and a collector. The source hashes the pair; no result
here depends on which weights are used. -/
abbrev Score := TargetId → CollectorId → Int

/-- The exact ceiling of a quotient, `math.ceil(n / k)`. -/
def ceilDiv (numerator denominator : Int) : Int := -(-numerator / denominator)

theorem ceilDiv_eq_ceil (numerator : Int) (denominator : Nat) :
    ceilDiv numerator denominator = ⌈(numerator : ℚ) / (denominator : ℚ)⌉ :=
  (Rat.ceil_intCast_div_natCast numerator denominator).symm

/-- The bound on one collector's slice in one pass: the fair share, under the safety ceiling. -/
def effectiveCap (nTargets nLive maxPerShard : Int) : Int :=
  if nLive ≤ 0 then maxPerShard else min maxPerShard (ceilDiv nTargets nLive)

/-- The key a target sorts the collectors by: highest score first, the id breaks ties. -/
def ranking (score : Score) (tid : TargetId) (cid : CollectorId) : Int ×ₗ CollectorId :=
  toLex (-score tid cid, cid)

/-- The targets assigned to each collector, in the order they were assigned. -/
abbrev Assigned := Table CollectorId (List TargetId)

/-- The targets assigned to one collector. -/
def slice (assigned : Assigned) (cid : CollectorId) : List TargetId :=
  (assigned.get cid).getD []

/-- The first-ranked collector under the cap, if there is one. -/
def firstOpen (score : Score) (live : List CollectorId) (cap : Int) (assigned : Assigned)
    (tid : TargetId) : Option CollectorId :=
  (SortedList.byKey (ranking score tid) live).find?
    fun cid => decide (((slice assigned cid).length : Int) < cap)

/-- Append a target to its first-ranked collector under the cap, if there is one. -/
def place (score : Score) (live : List CollectorId) (cap : Int) (assigned : Assigned)
    (tid : TargetId) : Assigned :=
  match firstOpen score live cap assigned tid with
  | some cid => assigned.updateWhere (fun key _ => decide (key = cid)) fun held => held ++ [tid]
  | none => assigned

/-- Assign each target to a live collector by its ranking, bounded by `cap`. -/
def allocate (score : Score) (targetIds : List TargetId) (live : List CollectorId) (cap : Int) :
    Assigned :=
  let live' := SortedList.distinct live
  let assigned := Table.ofKeys live' (SortedList.distinct_nodup live) fun _ => []
  if live' = [] ∨ cap ≤ 0 then assigned
  else (SortedList.distinct targetIds).foldl (place score live' cap) assigned

/-- The collector a target is assigned to. -/
def owner (assigned : Assigned) (tid : TargetId) : Option CollectorId :=
  assigned.keys.find? fun cid => decide (tid ∈ slice assigned cid)

/-- The places of a collector: the cap when it is live, none otherwise. -/
def quota (live : List CollectorId) (cap : Int) (cid : CollectorId) : Nat :=
  if cid ∈ live then cap.toNat else 0

/-! ### Single steps -/

theorem ranking_injective (score : Score) (tid : TargetId) :
    Function.Injective (ranking score tid) := by
  intro first second same
  exact congrArg (fun key => (ofLex key).2) same

theorem quota_congr {first second : List CollectorId}
    (same : ∀ cid, cid ∈ first ↔ cid ∈ second) (cap : Int) :
    quota first cap = quota second cap := by
  funext cid
  simp only [quota, same cid]

theorem slice_ofKeys (live : List CollectorId) (distinct : live.Nodup) (cid : CollectorId) :
    slice (Table.ofKeys live distinct fun _ => []) cid = [] := by
  by_cases member : cid ∈ live
  · rw [slice, Table.get_ofKeys distinct _ member, Option.getD_some]
  · have absent : (Table.ofKeys live distinct fun _ => ([] : List TargetId)).get cid = none := by
      rw [Table.get_eq_none_iff, Table.keys_ofKeys]
      exact member
    rw [slice, absent, Option.getD_none]

theorem slice_of_notMem_keys {assigned : Assigned} {cid : CollectorId}
    (absent : cid ∉ assigned.keys) : slice assigned cid = [] := by
  rw [slice, Table.get_eq_none_iff.mpr absent, Option.getD_none]

/-- Appending to one collector's targets leaves the others' as they were. -/
theorem slice_append (assigned : Assigned) {cid : CollectorId} (live : cid ∈ assigned.keys)
    (tid : TargetId) (other : CollectorId) :
    slice (assigned.updateWhere (fun key _ => decide (key = cid)) fun held => held ++ [tid])
        other =
      if other = cid then slice assigned other ++ [tid] else slice assigned other := by
  rw [slice, Table.get_updateWhere]
  by_cases same : other = cid
  · subst same
    obtain ⟨held, found⟩ := Table.mem_keys_iff.mp live
    simp [slice, found]
  · cases found : assigned.get other <;> simp [slice, found, same]

/-! ### The loop realises a greedy seating -/

theorem keys_place (score : Score) (live : List CollectorId) (cap : Int) (assigned : Assigned)
    (tid : TargetId) : (place score live cap assigned tid).keys = assigned.keys := by
  unfold place
  split
  · exact Table.keys_updateWhere _ _ _
  · rfl

/-- Placing a target appends it to the slice of the first open collector, if there is one. -/
theorem slice_place (score : Score) {live : List CollectorId} (cap : Int) {assigned : Assigned}
    (keys : assigned.keys = live) (tid : TargetId) (cid : CollectorId) :
    slice (place score live cap assigned tid) cid = slice assigned cid ++
      if firstOpen score live cap assigned tid = some cid then [tid] else [] := by
  unfold place
  split
  · next chosen found =>
    have chosenLive : chosen ∈ assigned.keys := by
      rw [keys]
      exact (SortedList.find?_byKey_eq_some found).1
    rw [slice_append assigned chosenLive, found]
    by_cases same : cid = chosen
    · simp [same]
    · simp [same, Ne.symm same]
  · next notFound => simp [notFound]

/-- What the loop has established after the targets `done`: the slices are those of some greedy
seating of these targets. -/
structure Realises (score : Score) (live : List CollectorId) (cap : Int) (done : List TargetId)
    (assigned : Assigned) (choice : TargetId → Option CollectorId) : Prop where
  keys : assigned.keys = live
  slices : ∀ cid, slice assigned cid = done.filter fun tid => decide (choice tid = some cid)
  greedy : Seating.Greedy done.toFinset (quota live cap) (ranking score) choice

theorem length_filter_eq_load {done : List TargetId} (distinct : done.Nodup)
    (choice : TargetId → Option CollectorId) (cid : CollectorId) :
    (done.filter fun tid => decide (choice tid = some cid)).length =
      Seating.load done.toFinset choice cid := by
  rw [← List.toFinset_card_of_nodup (distinct.filter _), List.toFinset_filter, Seating.load]
  simp only [decide_eq_true_eq]

theorem Realises.load_eq {score : Score} {live : List CollectorId} {cap : Int}
    {done : List TargetId} {assigned : Assigned} {choice : TargetId → Option CollectorId}
    (realises : Realises score live cap done assigned choice) (distinct : done.Nodup)
    (cid : CollectorId) :
    Seating.load done.toFinset choice cid = (slice assigned cid).length := by
  rw [realises.slices, length_filter_eq_load distinct]

/-- Placing one further target, larger than those before it, extends the seating. -/
theorem Realises.place {score : Score} {live : List CollectorId} {cap : Int}
    {done : List TargetId} {assigned : Assigned} {choice : TargetId → Option CollectorId}
    (realises : Realises score live cap done assigned choice) (distinct : done.Nodup)
    {tid : TargetId} (above : ∀ other ∈ done, other < tid) :
    ∃ extended, Realises score live cap (done ++ [tid]) (place score live cap assigned tid)
      extended := by
  have absent : tid ∉ done := fun member => lt_irrefl tid (above tid member)
  set extended := Function.update choice tid (firstOpen score live cap assigned tid)
  have self : extended tid = firstOpen score live cap assigned tid := Function.update_self _ _ _
  have old : ∀ other ∈ done, extended other = choice other := by
    intro other member
    refine Function.update_of_ne ?_ _ _
    rintro rfl
    exact absent member
  have filtered : ∀ cid, (done.filter fun other => decide (extended other = some cid)) =
      done.filter fun other => decide (choice other = some cid) := fun cid =>
    List.filter_congr fun other member => by rw [old other member]
  have loads : ∀ cid, Seating.load done.toFinset extended cid = (slice assigned cid).length := by
    intro cid
    rw [← realises.load_eq distinct]
    exact Seating.load_congr (fun other member => old other (List.mem_toFinset.mp member)) cid
  have greedy : Seating.Greedy done.toFinset (quota live cap) (ranking score) extended :=
    realises.greedy.congr fun other member => (old other (List.mem_toFinset.mp member)).symm
  have members : (done ++ [tid]).toFinset = insert tid done.toFinset := by
    rw [List.toFinset_append, List.toFinset_cons, List.toFinset_nil, insert_empty_eq,
      Finset.union_comm]
    rfl
  refine ⟨extended, ⟨?_, fun cid => ?_, ?_⟩⟩
  · rw [keys_place, realises.keys]
  · rw [slice_place score cap realises.keys, realises.slices cid, List.filter_append, filtered,
      List.filter_cons, List.filter_nil, self]
    simp only [decide_eq_true_eq]
  · rw [members]
    refine greedy.insert_max (fun other member => above other (List.mem_toFinset.mp member))
      (fun cid placed => ?_) (fun cid placed other better => ?_) (fun nowhere cid => ?_)
    · obtain ⟨member, room, _⟩ := SortedList.find?_byKey_eq_some (self.symm.trans placed)
      rw [decide_eq_true_eq] at room
      rw [loads, quota, if_pos member]
      omega
    · obtain ⟨_, _, first⟩ := SortedList.find?_byKey_eq_some (self.symm.trans placed)
      rw [loads, quota]
      split
      · next member =>
        have filled := first other member better
        rw [decide_eq_false_iff_not] at filled
        omega
      · exact Nat.zero_le _
    · have none := SortedList.find?_byKey_eq_none.mp (self.symm.trans nowhere)
      rw [loads, quota]
      split
      · next member =>
        have filled := none cid member
        rw [decide_eq_false_iff_not] at filled
        omega
      · exact Nat.zero_le _

/-- The loop over the remaining targets extends the seating to all of them. -/
theorem Realises.foldl {score : Score} {live : List CollectorId} {cap : Int}
    (rest : List TargetId) {done : List TargetId} {assigned : Assigned}
    {choice : TargetId → Option CollectorId}
    (realises : Realises score live cap done assigned choice)
    (sorted : (done ++ rest).Pairwise (· < ·)) :
    ∃ extended, Realises score live cap (done ++ rest) (rest.foldl (Gyanam.place score live cap)
      assigned) extended := by
  induction rest generalizing done assigned choice with
  | nil => exact ⟨choice, by simpa using realises⟩
  | cons tid rest inductionHypothesis =>
    have pairwise := List.pairwise_append.mp sorted
    obtain ⟨next, step⟩ := realises.place (pairwise.1.imp ne_of_lt)
      fun other member => pairwise.2.2 other member tid List.mem_cons_self
    obtain ⟨final, run⟩ := inductionHypothesis step (by simpa using sorted)
    exact ⟨final, by simpa using run⟩

/-- Before the first target nothing is placed. -/
theorem realises_initial (score : Score) (live : List CollectorId) (cap : Int)
    (distinct : live.Nodup) :
    Realises score live cap [] (Table.ofKeys live distinct fun _ => []) fun _ => none where
  keys := Table.keys_ofKeys live distinct _
  slices cid := by rw [slice_ofKeys, List.filter_nil]
  greedy := by
    rw [List.toFinset_nil]
    exact Seating.Greedy.empty _ _ _

/-- The allocator realises a greedy seating of the distinct targets. -/
theorem allocate_realises (score : Score) (targetIds : List TargetId) (live : List CollectorId)
    (cap : Int) :
    ∃ choice, Realises score (SortedList.distinct live) cap (SortedList.distinct targetIds)
      (allocate score targetIds live cap) choice := by
  unfold allocate
  dsimp only
  split
  · next noRoom =>
    have noQuota : ∀ cid, quota (SortedList.distinct live) cap cid = 0 := by
      intro cid
      rw [quota]
      split
      · next member =>
        rcases noRoom with none | nonpositive
        · exact absurd member (by rw [none]; exact List.not_mem_nil)
        · exact Int.toNat_of_nonpos nonpositive
      · rfl
    refine ⟨fun _ => none, Table.keys_ofKeys _ _ _, fun cid => ?_, ?_⟩
    · rw [slice_ofKeys]
      simp
    · refine ⟨fun _ _ _ placed => absurd placed (by simp),
        fun _ _ _ placed => absurd placed (by simp), fun tid _ _ cid => ?_⟩
      rw [noQuota]
      exact Nat.zero_le _
  · exact (realises_initial score (SortedList.distinct live) cap
      (SortedList.distinct_nodup live)).foldl (SortedList.distinct targetIds)
      (SortedList.distinct_sorted targetIds).pairwise

/-! ### What the allocator returns -/

section Returned

variable (score : Score) (targetIds : List TargetId) (live : List CollectorId) (cap : Int)

@[simp] theorem keys_allocate :
    (allocate score targetIds live cap).keys = SortedList.distinct live := by
  obtain ⟨_, realises⟩ := allocate_realises score targetIds live cap
  exact realises.keys

/-- The slices are the distinct targets, split by owner. -/
theorem slice_allocate (cid : CollectorId) :
    slice (allocate score targetIds live cap) cid =
      (SortedList.distinct targetIds).filter fun tid =>
        decide (owner (allocate score targetIds live cap) tid = some cid) := by
  obtain ⟨choice, realises⟩ := allocate_realises score targetIds live cap
  have member : ∀ tid cid, tid ∈ slice (allocate score targetIds live cap) cid ↔
      tid ∈ targetIds ∧ choice tid = some cid := by
    intro tid cid
    rw [realises.slices, List.mem_filter, SortedList.mem_distinct, decide_eq_true_eq]
  have owned : ∀ tid ∈ targetIds, owner (allocate score targetIds live cap) tid = choice tid := by
    intro tid present
    cases chosen : choice tid with
    | none =>
      rw [owner, List.find?_eq_none]
      intro other _
      rw [decide_eq_true_eq, member tid other, chosen]
      exact fun impossible => absurd impossible.2 (by simp)
    | some cid =>
      have holds : tid ∈ slice (allocate score targetIds live cap) cid :=
        (member tid cid).mpr ⟨present, chosen⟩
      cases found : owner (allocate score targetIds live cap) tid with
      | none =>
        rw [owner, List.find?_eq_none] at found
        have listed : cid ∈ (allocate score targetIds live cap).keys := by
          by_contra absent
          rw [slice_of_notMem_keys absent] at holds
          exact List.not_mem_nil holds
        exact absurd (decide_eq_true holds) (found cid listed)
      | some other =>
        rw [owner] at found
        have otherHolds : tid ∈ slice (allocate score targetIds live cap) other := by
          simpa using List.find?_some found
        rw [← chosen, ((member tid other).mp otherHolds).2]
  rw [realises.slices]
  refine List.filter_congr fun tid present => ?_
  rw [owned tid (SortedList.mem_distinct.mp present)]

/-- A target is in the slice of its owner and in no other. -/
theorem mem_slice_iff {tid : TargetId} {cid : CollectorId} :
    tid ∈ slice (allocate score targetIds live cap) cid ↔
      tid ∈ targetIds ∧ owner (allocate score targetIds live cap) tid = some cid := by
  conv_lhs => rw [slice_allocate]
  rw [List.mem_filter, SortedList.mem_distinct, decide_eq_true_eq]

/-- Only targets of the list have an owner. -/
theorem mem_of_owner {tid : TargetId} {cid : CollectorId}
    (owned : owner (allocate score targetIds live cap) tid = some cid) : tid ∈ targetIds := by
  have holds : tid ∈ slice (allocate score targetIds live cap) cid := by
    rw [owner] at owned
    simpa using List.find?_some owned
  exact ((mem_slice_iff score targetIds live cap).mp holds).1

/-- The allocator is a greedy seating: every target takes, in the order of the ids, the
collector it ranks first among those under the cap. -/
theorem allocate_greedy :
    Seating.Greedy targetIds.toFinset (quota live cap) (ranking score)
      (owner (allocate score targetIds live cap)) := by
  obtain ⟨choice, realises⟩ := allocate_realises score targetIds live cap
  have greedy := realises.greedy
  rw [SortedList.toFinset_distinct,
    quota_congr (fun _ => SortedList.mem_distinct) cap] at greedy
  refine greedy.congr fun tid present => ?_
  rw [List.mem_toFinset] at present
  refine Option.ext fun cid => ?_
  have same : tid ∈ slice (allocate score targetIds live cap) cid ↔ _ :=
    mem_slice_iff score targetIds live cap
  rw [realises.slices, List.mem_filter, SortedList.mem_distinct, decide_eq_true_eq] at same
  constructor
  · exact fun chosen => (same.mp ⟨present, chosen⟩).2
  · exact fun owned => (same.mpr ⟨present, owned⟩).2

theorem length_slice (cid : CollectorId) :
    (slice (allocate score targetIds live cap) cid).length =
      Seating.load targetIds.toFinset (owner (allocate score targetIds live cap)) cid := by
  rw [slice_allocate, length_filter_eq_load (SortedList.distinct_nodup targetIds),
    SortedList.toFinset_distinct]

end Returned

end Gyanam
