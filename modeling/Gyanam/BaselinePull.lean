/-
This file says when a pull of a collection passes on what it should. Ordering the
members reads the time of every member, and the loop reads it again and
normalises it, so a time that is no instant of the calendar ends the pull at the
latest when its member is looked at. The members after it are not passed on.

So a pull passes on every eligible member exactly when each member can be ordered
and none that cannot be read comes before an eligible one, or when no member is
eligible at all.
-/

import Gyanam.Lib.Fallible
import Gyanam.LogBaseline

namespace Gyanam

open Json (Text)
open Datetime (Reading)

/-! ### Values that do not raise -/

/-- A value raises nothing when it is read as a timestamp: an offset that it says is less than a
day. -/
def WholeOffset : Json → Prop
  | .string chars => ∀ shown ∈ denoted chars,
      -Datetime.dayMicros < shown.2 ∧ shown.2 < Datetime.dayMicros
  | _ => True

/-- A value raises nothing when it is read as a timestamp and normalised. -/
def Timely : Json → Prop
  | .string chars => Convertible chars
  | _ => True

/-- A value is no timestamp. -/
def Untimed : Json → Prop
  | .string chars => denoted chars = none
  | _ => True

/-- A value can be used as a reference. -/
def IsReference (value : Json) : Prop := value.truthy = true → ∃ chars, value = .string chars

/-- The reading in UTC of a value that is a timestamp of the calendar. -/
def timeOf : Json → Option Reading
  | .string chars => (denoted chars).bind fun shown =>
      if within : InCalendar shown then some (utcReading shown within) else none
  | _ => none

theorem parseRedfishTimestamp_returns (value : Json) :
    (∃ parsed, parseRedfishTimestamp value = .ok parsed) ↔ WholeOffset value := by
  cases value with
  | string chars =>
    rw [parseRedfishTimestamp_string, parseTimestampText_eq, WholeOffset]
    cases denoted chars with
    | none => simp
    | some shown =>
      simp only [Option.mem_some_iff, forall_eq']
      by_cases day : -Datetime.dayMicros < shown.2 ∧ shown.2 < Datetime.dayMicros
      · simp [Datetime.Offset.ofMicros, day]
      · simp [Datetime.Offset.ofMicros, day]
  | _ => simp [parseRedfishTimestamp, WholeOffset]

theorem parseRedfishTimestamp_eq_none (value : Json) :
    parseRedfishTimestamp value = .ok none ↔ Untimed value := by
  cases value with
  | string chars =>
    rw [parseRedfishTimestamp_string, parseTimestampText_eq, Untimed]
    cases denoted chars with
    | none => simp
    | some shown => cases found : Datetime.Offset.ofMicros shown.2 <;> simp [found]
  | _ => simp [parseRedfishTimestamp, Untimed]

/-- Reading a time gives its reading in UTC, unless it is outside the calendar. -/
theorem readTime_eq_ok {value : Json} {time : Option Reading} :
    readTime value = .ok time ↔ Timely value ∧ timeOf value = time := by
  cases value with
  | string chars =>
    rw [readTime, Fallible.mapError_eq_ok, normalise_eq, Timely, Convertible, timeOf]
    cases denoted chars with
    | none => simp
    | some shown =>
      simp only [Option.mem_some_iff, forall_eq', Option.bind_some]
      by_cases within : InCalendar shown
      · simp [within]
      · simp [within]
  | _ => simp [readTime, parseRedfishTimestamp, toNaiveUtc, Timely, timeOf, bind, Except.bind,
      Except.mapError]

/-! ### Members that do not raise -/

/-- A member can be ordered: its time does not raise, and where it has none, its reference is a
text. -/
structure Orderable (member : LogEntry) : Prop where
  time : WholeOffset (member.field "Created")
  reference : Untimed (member.field "Created") → IsReference (member.field "@odata.id")

/-- A value can be used as an entry: it is searched for content, and if it has any, it is a
dictionary whose time does not raise. -/
def Usable (entry : Json) : Prop :=
  ∃ content, hasContent entry = .ok content ∧
    (content = true → ∃ fields, entry = .object fields ∧ Timely (LogEntry.field fields "Created"))

/-- A member can be looked at: its time does not raise, and unless it is skipped, it stands for an
entry that can be used. -/
structure Readable (settings : PullSettings) (world : PullWorld) (cursor : Option Reading)
    (member : LogEntry) : Prop where
  time : Timely (member.field "Created")
  entry : isSkipped world cursor (timeOf (member.field "Created")) member = false →
    ∃ entry, entryOf settings world member = .ok entry ∧ Usable entry

theorem sortKey_returns {member : LogEntry} :
    (∃ key, sortKey member = .ok key) ↔ Orderable member := by
  have offset := parseRedfishTimestamp_returns (member.field "Created")
  have untimed := parseRedfishTimestamp_eq_none (member.field "Created")
  rw [sortKey]
  cases parsed : parseRedfishTimestamp (member.field "Created") with
  | error error =>
    rw [parsed] at offset
    refine iff_of_false (by simp [Except.mapError, bind, Except.bind]) fun orderable => ?_
    obtain ⟨_, returned⟩ := offset.mpr orderable.time
    cases returned
  | ok ts =>
    have whole := offset.mp ⟨ts, parsed⟩
    cases ts with
    | some ts =>
      refine iff_of_true ⟨⟨2, timestampOf ts⟩, rfl⟩ ⟨whole, fun none => ?_⟩
      rw [untimed.mpr none] at parsed
      cases parsed
    | none =>
      have orderable : Orderable member ↔ IsReference (member.field "@odata.id") :=
        ⟨fun orderable => orderable.reference (untimed.mp parsed),
          fun text => ⟨whole, fun _ => text⟩⟩
      rw [orderable]
      simp only [Except.mapError, bind, Except.bind]
      cases oid : member.field "@odata.id" with
      | string chars =>
        refine iff_of_true ?_ fun _ => ⟨chars, rfl⟩
        simp only
        split
        · split <;> exact ⟨_, rfl⟩
        · exact ⟨_, rfl⟩
      | null | bool | int | float | array | object =>
        simp only [IsReference, reduceCtorEq, exists_false, imp_false, Bool.not_eq_true]
        split
        · next truthy => exact iff_of_false (by simp) (by simp [truthy])
        · next falsy => exact iff_of_true ⟨_, rfl⟩ (by simpa using falsy)

theorem orderMembersNewestFirst_returns {sort : MemberSort} {members : List LogEntry}
    {maxEntries : Nat} :
    (∃ kept, orderMembersNewestFirst sort members maxEntries = .ok kept) ↔
      ∀ member ∈ members, Orderable member := by
  have keyed : (∃ keys, (members.mapM fun member => do return (← sortKey member, member)) =
      Except.ok keys) ↔ ∀ member ∈ members, Orderable member := by
    rw [Fallible.mapM_returns_iff]
    refine forall₂_congr fun member _ => ?_
    rw [← sortKey_returns]
    cases sortKey member <;> simp [bind, Except.bind, pure, Except.pure]
  rw [← keyed]
  simp only [orderMembersNewestFirst, Fallible.bind_eq_ok]
  constructor
  · rintro ⟨_, keys, found, _⟩
    exact ⟨keys, found⟩
  · rintro ⟨keys, found⟩
    exact ⟨_, keys, found, rfl⟩

theorem considerEntry_returns {settings : PullSettings} {world : PullWorld}
    {cursor : Option Reading} {member : LogEntry} {entry : Json} :
    (∃ considered, considerEntry settings world cursor member entry = .ok considered) ↔
      Usable entry := by
  unfold considerEntry Usable
  cases found : hasContent entry with
  | error error => simp [bind, Except.bind]
  | ok content =>
    cases content with
    | false => simp [bind, Except.bind, pure, Except.pure]
    | true =>
      cases entry with
      | object fields =>
        simp only [bind, Except.bind, Except.ok.injEq, exists_eq_left', Json.object.injEq,
          true_implies, Bool.not_true, Bool.false_eq_true, if_false]
        cases time : readTime (LogEntry.field fields "Created") with
        | error error =>
          refine iff_of_false (by simp) fun timely => ?_
          rw [readTime_eq_ok.mpr ⟨timely, rfl⟩] at time
          cases time
        | ok eventTs =>
          refine iff_of_true ?_ (readTime_eq_ok.mp time).1
          simp only
          split
          · exact ⟨_, rfl⟩
          · split <;> exact ⟨_, rfl⟩
      | null | bool | int | float | string | array => simp [bind, Except.bind]

/-- Looking at a member returns exactly when the member is readable. -/
theorem considerMember_returns {settings : PullSettings} {world : PullWorld}
    {cursor : Option Reading} {member : LogEntry} :
    (∃ considered, considerMember settings world cursor member = .ok considered) ↔
      Readable settings world cursor member := by
  rw [considerMember]
  cases time : readTime (member.field "Created") with
  | error error =>
    refine iff_of_false (by simp [bind, Except.bind]) fun readable => ?_
    rw [readTime_eq_ok.mpr ⟨readable.time, rfl⟩] at time
    cases time
  | ok memberTs =>
    obtain ⟨timely, rfl⟩ := readTime_eq_ok.mp time
    simp only [bind, Except.bind]
    cases skipped : isSkipped world cursor (timeOf (member.field "Created")) member with
    | true =>
      refine iff_of_true ⟨.skipped, rfl⟩ ⟨timely, fun examined => ?_⟩
      rw [skipped] at examined
      exact Bool.noConfusion examined
    | false =>
      have examined : Readable settings world cursor member ↔
          ∃ entry, entryOf settings world member = .ok entry ∧ Usable entry :=
        ⟨fun readable => readable.entry skipped, fun entry => ⟨timely, fun _ => entry⟩⟩
      rw [examined]
      rw [if_neg Bool.false_ne_true]
      cases entryOf settings world member with
      | error error => simp
      | ok entry =>
        simp only [Except.ok.injEq, exists_eq_left']
        exact considerEntry_returns

/-! ### The members of a collection -/

/-- The alert of a member that is eligible: one that is neither skipped nor filtered out. -/
def alertOf (settings : PullSettings) (world : PullWorld) (cursor : Option Reading)
    (member : LogEntry) : Option AlertEvent :=
  match considerMember settings world cursor member with
  | .ok (.passed _ alert) => some alert
  | _ => none

/-- A pull that returns has passed on the alerts of the eligible members, in their order. -/
theorem pullMembers_passed {settings : PullSettings} {world : PullWorld}
    {callback : AlertEvent → Bool} {cursor : Option Reading} {members : List LogEntry}
    (readable : ∀ member ∈ members, Readable settings world cursor member)
    {passed : List AlertEvent} {emitted : Nat} {newest : Option Reading} :
    (pullMembers settings world callback cursor members passed emitted newest).passed =
      passed ++ members.filterMap (alertOf settings world cursor) := by
  induction members generalizing passed emitted newest with
  | nil => exact (List.append_nil passed).symm
  | cons member rest inductionHypothesis =>
    obtain ⟨first, later⟩ := List.forall_mem_cons.mp readable
    obtain ⟨outcome, considered⟩ := considerMember_returns.mpr first
    cases outcome with
    | skipped | filtered eventTs =>
      have none : alertOf settings world cursor member = none := by rw [alertOf, considered]
      rw [List.filterMap_cons_none none]
      simp only [pullMembers, considered]
      exact inductionHypothesis later
    | passed eventTs alert =>
      have some : alertOf settings world cursor member = some alert := by rw [alertOf, considered]
      rw [List.filterMap_cons_some some]
      simp only [pullMembers, considered]
      rw [inductionHypothesis later, List.append_assoc, List.singleton_append]

/-- A member is eligible: looked at, it is passed on. -/
def Eligible (settings : PullSettings) (world : PullWorld) (cursor : Option Reading)
    (member : LogEntry) : Prop :=
  (alertOf settings world cursor member).isSome = true

theorem filterMap_alertOf_eq_nil {settings : PullSettings} {world : PullWorld}
    {cursor : Option Reading} {members : List LogEntry} :
    members.filterMap (alertOf settings world cursor) = [] ↔
      ∀ member ∈ members, ¬ Eligible settings world cursor member := by
  rw [List.filterMap_eq_nil_iff]
  refine forall₂_congr fun member _ => ?_
  rw [Eligible, Bool.not_eq_true, Option.isSome_eq_false_iff, Option.isNone_iff_eq_none]

/-- A member that cannot be read is not eligible. -/
theorem alertOf_of_unreadable {settings : PullSettings} {world : PullWorld}
    {cursor : Option Reading} {member : LogEntry}
    (unreadable : ¬ Readable settings world cursor member) :
    alertOf settings world cursor member = none := by
  rw [alertOf]
  split
  · next considered => exact absurd (considerMember_returns.mp ⟨_, considered⟩) unreadable
  · rfl

/-- The loop passes on every eligible member exactly when none of them comes after one that cannot
be read. -/
theorem pullMembers_passed_iff {settings : PullSettings} {world : PullWorld}
    {callback : AlertEvent → Bool} {cursor : Option Reading} {members : List LogEntry}
    {passed : List AlertEvent} {emitted : Nat} {newest : Option Reading} :
    (pullMembers settings world callback cursor members passed emitted newest).passed =
        passed ++ members.filterMap (alertOf settings world cursor) ↔
      members.Pairwise fun earlier later =>
        Eligible settings world cursor later → Readable settings world cursor earlier := by
  induction members generalizing passed emitted newest with
  | nil => simp [pullMembers]
  | cons member rest inductionHypothesis =>
    rw [List.pairwise_cons]
    by_cases readable : Readable settings world cursor member
    · rw [and_iff_right fun _ _ _ => readable]
      obtain ⟨outcome, considered⟩ := considerMember_returns.mpr readable
      cases outcome with
      | skipped | filtered eventTs =>
        have none : alertOf settings world cursor member = none := by rw [alertOf, considered]
        rw [List.filterMap_cons_none none]
        simp only [pullMembers, considered]
        exact inductionHypothesis
      | passed eventTs alert =>
        have some : alertOf settings world cursor member = some alert := by rw [alertOf, considered]
        rw [List.filterMap_cons_some some, List.append_cons]
        simp only [pullMembers, considered]
        exact inductionHypothesis
    · have ends : (pullMembers settings world callback cursor (member :: rest) passed emitted
          newest).passed = passed := by
        cases considered : considerMember settings world cursor member with
        | error error => simp [pullMembers, considered]
        | ok outcome => exact absurd (considerMember_returns.mp ⟨outcome, considered⟩) readable
      rw [ends, List.filterMap_cons_none (alertOf_of_unreadable readable),
        List.self_eq_append_right, filterMap_alertOf_eq_nil]
      constructor
      · intro noneEligible
        refine ⟨fun later listed eligible => absurd eligible (noneEligible later listed), ?_⟩
        exact List.pairwise_of_forall_mem_list fun _ _ later listed eligible =>
          absurd eligible (noneEligible later listed)
      · rintro ⟨before, -⟩ later listed eligible
        exact readable (before later listed eligible)

/-- The key of a member; one that cannot be ordered counts as one with no time and no reference. -/
def rankOf (member : LogEntry) : SortKey := (sortKey member).toOption.getD ⟨0, .finite 0⟩

/-- The members that a pull should keep: the newest ones, newest first. -/
def keptMembers (settings : PullSettings) (world : PullWorld) (members : List LogEntry) :
    List LogEntry :=
  newestOf world.sort (members.map fun member => (rankOf member, member)) settings.maxEntries

/-- When all members can be ordered, the code keeps those. -/
theorem orderMembersNewestFirst_eq {settings : PullSettings} {world : PullWorld}
    {members : List LogEntry} (orderable : ∀ member ∈ members, Orderable member) :
    orderMembersNewestFirst world.sort members settings.maxEntries =
      .ok (keptMembers settings world members) := by
  have keyed : (members.mapM fun member => do return (← sortKey member, member)) =
      Except.ok (members.map fun member => (rankOf member, member)) := by
    refine Fallible.mapM_eq_map fun member listed => ?_
    obtain ⟨key, found⟩ := sortKey_returns.mpr (orderable member listed)
    rw [rankOf, found]
    rfl
  rw [orderMembersNewestFirst, keyed]
  rfl

/-- A pull passes on the alerts of all eligible members among those it keeps. -/
def PassesEligible (settings : PullSettings) (world : PullWorld) (mark : Option Reading)
    (members : List LogEntry) (pull : Pull) : Prop :=
  pull.passed = (keptMembers settings world members).filterMap (alertOf settings world mark)

/-- Nothing stands in the way of an eligible member: every member can be ordered, and none that is
kept before an eligible one raises when it is read; or no kept member is eligible. -/
def Unblocked (settings : PullSettings) (world : PullWorld) (mark : Option Reading)
    (members : List LogEntry) : Prop :=
  ((∀ member ∈ members, Orderable member) ∧
    (keptMembers settings world members).Pairwise fun earlier later =>
      Eligible settings world mark later → Readable settings world mark earlier) ∨
  ∀ member ∈ keptMembers settings world members, ¬ Eligible settings world mark member

/-- A text does not raise exactly when what it says, if anything, is in the calendar. A pull passes
on every eligible member exactly when nothing stands in the way of one: a time that raises where it
is read, a reference that is no text, or an entry that is no dictionary. -/
theorem timestamps_pass_iff (settings : PullSettings) (world : PullWorld)
    (callback : AlertEvent → Bool) (entriesUri : Json) (cursor : Option Datetime) :
    (∀ chars : Text, Normalises chars ↔ Convertible chars) ∧
    ∀ (mark : Option Reading) (members : List LogEntry) (truncated : Bool),
      toNaiveUtc cursor = .ok mark →
      collectMembers world.get settings.baseUrl entriesUri settings.maxEntries =
        .ok (members, truncated) →
      (PassesEligible settings world mark members
          (pullCollection settings world callback entriesUri cursor) ↔
        Unblocked settings world mark members) := by
  refine ⟨normalises_iff, ?_⟩
  intro mark members truncated normalised collected
  rw [PassesEligible, Unblocked, pullCollection, collected]
  by_cases orderable : ∀ member ∈ members, Orderable member
  · rw [and_iff_right orderable]
    have covers : (∀ member ∈ keptMembers settings world members,
        ¬ Eligible settings world mark member) →
        (keptMembers settings world members).Pairwise fun earlier later =>
          Eligible settings world mark later → Readable settings world mark earlier :=
      fun noneEligible => List.pairwise_of_forall_mem_list fun _ _ later listed eligible =>
        absurd eligible (noneEligible later listed)
    rw [or_iff_left_of_imp covers]
    cases members with
    | nil => simp [keptMembers, newestOf, List.perm_nil.mp (world.sort.perm _ [])]
    | cons member rest =>
      simp only [List.isEmpty_cons, Bool.false_eq_true, if_false,
        orderMembersNewestFirst_eq orderable, normalised]
      have loop : (pullMembers settings world callback mark
          (keptMembers settings world (member :: rest)) [] 0 none).passed =
            [] ++ (keptMembers settings world (member :: rest)).filterMap
              (alertOf settings world mark) ↔ _ := pullMembers_passed_iff
      rwa [List.nil_append] at loop
  · rw [or_iff_right fun both => orderable both.1, ← filterMap_alertOf_eq_nil]
    cases members with
    | nil => exact absurd (fun member listed => absurd listed List.not_mem_nil) orderable
    | cons member rest =>
      cases ordered : orderMembersNewestFirst world.sort (member :: rest) settings.maxEntries with
      | ok kept => exact absurd (orderMembersNewestFirst_returns.mp ⟨kept, ordered⟩) orderable
      | error error =>
        simp only [List.isEmpty_cons, Bool.false_eq_true, if_false, ordered]
        exact eq_comm

/-- A critical entry with a time, listed in full. -/
def sampleEntry (message created : String) : LogEntry := [
  (Json.text "Message", .string (Json.text message)),
  (Json.text "Severity", .string (Json.text "Critical")),
  (Json.text "Created", .string (Json.text created))]

/-- A pull of all severities from one target. -/
def sampleSettings (maxEntries : Nat) : PullSettings where
  targetId := 1
  targetName := Json.text "bmc"
  targetBmc := Json.text "10.0.0.1"
  baseUrl := Json.text "https://10.0.0.1"
  severities := none
  maxEntries := maxEntries

/-- A BMC that lists some members on one page. -/
def sampleWorld (members : List LogEntry) : PullWorld where
  get _ := some (.object [(Json.text "Members", .array (members.map .object))])
  isKnown _ := false
  clock _ := { reading := Reading.epoch, offset := some .utc }
  str
    | .string chars => chars
    | _ => []
  casefold := casefold
  sort := .insertion

/-- A good entry, and one whose time leaves the calendar in UTC. -/
def earlyListing : List LogEntry :=
  [sampleEntry "hot" "2026-1-5T10:00:00+05:00", sampleEntry "cold" "0001-01-01T00:00:00+01:00"]

theorem earlyListing_orderable : ∀ member ∈ earlyListing, Orderable member := by
  have whole : ∀ created ∈ ["2026-1-5T10:00:00+05:00", "0001-01-01T00:00:00+01:00"],
      ∀ shown ∈ denoted (Json.text created),
        -Datetime.dayMicros < shown.2 ∧ shown.2 < Datetime.dayMicros := by decide
  have reference : ∀ message created,
      IsReference ((sampleEntry message created).field "@odata.id") := by
    intro message created truthy
    cases truthy
  refine List.forall_mem_cons.mpr ⟨⟨whole _ List.mem_cons_self, fun _ => reference _ _⟩, ?_⟩
  refine List.forall_mem_singleton.mpr ⟨whole _ (List.mem_cons_of_mem _ List.mem_cons_self), ?_⟩
  exact fun _ => reference _ _

/-- The good entry is the newer one. -/
theorem keptMembers_earlyListing :
    keptMembers (sampleSettings 200) (sampleWorld earlyListing) earlyListing = earlyListing := by
  obtain ⟨first, isFirst⟩ := sortKey_returns.mpr (earlyListing_orderable _ List.mem_cons_self)
  obtain ⟨second, isSecond⟩ := sortKey_returns.mpr
    (earlyListing_orderable _ (List.mem_cons_of_mem _ List.mem_cons_self))
  have newer : ∀ key ∈ (sortKey (sampleEntry "hot" "2026-1-5T10:00:00+05:00")).toOption,
      ∀ other ∈ (sortKey (sampleEntry "cold" "0001-01-01T00:00:00+01:00")).toOption,
        key.lt other = false := by decide +kernel
  rw [isFirst, isSecond] at newer
  have after : first.lt second = false := newer first rfl second rfl
  simp [keptMembers, earlyListing, newestOf, rankOf, isFirst, isSecond, Except.toOption,
    sampleWorld, SortedList.ReverseSort.insertion, after, sampleSettings]

/-- An entry that raises comes after the good one, which is passed on. -/
theorem aheadEntry_passes :
    PassesEligible (sampleSettings 200) (sampleWorld earlyListing) none earlyListing
      (pullCollection (sampleSettings 200) (sampleWorld earlyListing) (fun _ => true)
        (.string (Json.text "/log")) none) := by
  refine ((timestamps_pass_iff (sampleSettings 200) _ (fun _ => true)
    (.string (Json.text "/log")) none).2 none earlyListing false rfl rfl).mpr
      (.inl ⟨earlyListing_orderable, ?_⟩)
  rw [keptMembers_earlyListing, earlyListing, List.pairwise_pair]
  intro eligible
  cases eligible

/-- An offset of more than a day raises, and blocks the other member of its collection. -/
theorem farOffset_blocks :
    ¬ ((∀ chars : Text, Normalises chars) ∧
      ∀ (settings : PullSettings) (world : PullWorld) (callback : AlertEvent → Bool)
        (entriesUri : Json) (cursor : Option Datetime) (mark : Option Reading)
        (members : List LogEntry) (truncated : Bool), toNaiveUtc cursor = .ok mark →
        collectMembers world.get settings.baseUrl entriesUri settings.maxEntries =
          .ok (members, truncated) →
        PassesEligible settings world mark members
          (pullCollection settings world callback entriesUri cursor)) := by
  rintro ⟨-, claimed⟩
  have passes := claimed (sampleSettings 200)
    (sampleWorld [sampleEntry "hot" "2026-1-5T10:00:00+25:00",
      sampleEntry "cold" "2026-01-05T10:00:00Z"])
    (fun _ => true) (.string (Json.text "/log")) none none
    [sampleEntry "hot" "2026-1-5T10:00:00+25:00", sampleEntry "cold" "2026-01-05T10:00:00Z"] false
    rfl rfl
  cases passes

end Gyanam
