/-
This file follows one log over a run of pulls. Entries are only appended, each
with all its fields and a time that is no earlier than those before it; every
pull lists the whole log, in some order, and leaves its cursor to the next one.

An entry is passed on by the first pull that lists it, provided it is not cut.
The cut keeps the newest entries, but among entries of one time it keeps those
listed first. So in a log that is listed oldest first a new entry may be cut in
favour of an old one of the same time, and is then never passed on.
-/

import Gyanam.BaselinePull
import Gyanam.Lib.DoubleOrder
import Gyanam.Lib.Machine
import Gyanam.Lib.Sorted
import Gyanam.LogCursor

namespace Gyanam

open Json (Text)
open Datetime (Reading)

/-! ### One pull and its cursor -/

/-- The row of a log after a call of `set_log_cursor` on its own. -/
def storeCursor (row : Option LogCursor) (value : Reading) : LogCursor :=
  match row with
  | some row => if row.advancedBy value then { lastCreated := some value } else row
  | none => { lastCreated := some value }

/-- A call that no other call interferes with leaves that row. -/
theorem storeCursor_alone (row : Option LogCursor) (value : Reading) :
    cursorMachine.run { row := row }
        [.setLogCursor { reading := value }, .read 0, .commit 0] =
      some { row := some (storeCursor row value), passed := [value] } := by
  cases row with
  | none => rfl
  | some old =>
    cases advanced : old.advancedBy value <;>
      simp [cursorMachine, Machine.run, CursorStore.step, CursorStore.store, CursorCall.write,
        toNaiveUtc, storeCursor, advanced]

/-- Pull a collection from its cursor on, and move the cursor to the newest time seen. -/
def pullLog (settings : PullSettings) (world : PullWorld) (callback : AlertEvent → Bool)
    (entriesUri : Json) (row : Option LogCursor) : Pull × Option LogCursor :=
  let cursor := (row.bind LogCursor.lastCreated).map fun reading => { reading := reading }
  let pull := pullCollection settings world callback entriesUri cursor
  (pull, match pull.outcome with
    | .ok (_, some newest) => some (storeCursor row newest)
    | _ => row)

/-! ### The machine -/

/-- A log with its pulls: the entries listed by some pull, those appended since the last one, the
cursor, and the alerts passed on. -/
structure PulledLog where
  pulled : List LogEntry := []
  fresh : List LogEntry := []
  row : Option LogCursor := none
  passed : List AlertEvent := []

/-- What happens to a log. A pull comes with the answers of the BMC at the time. -/
inductive LogEvent where
  | append (entry : LogEntry)
  | pull (get : Text → Option Json) (isKnown : Json → Bool) (clock : LogEntry → Datetime)
      (callback : AlertEvent → Bool)

/-- The time of an entry. -/
def LogEntry.created (entry : LogEntry) : Option Reading := timeOf (entry.field "Created")

/-- An entry may be appended to a log: it has all its fields and a time, and no entry of the log is
later. -/
def mayFollow (log : List LogEntry) (entry : LogEntry) : Bool :=
  isComplete entry && entry.created.any fun time =>
    log.all fun old => old.created.all fun earlier => decide (earlier.micros ≤ time.micros)

section Runs

variable (settings : PullSettings) (entriesUri : Json) (str : Json → Text)
  (casefold : Text → Text) (sort : MemberSort)

/-- One event. -/
def PulledLog.step (log : PulledLog) : LogEvent → Option PulledLog
  | .append entry =>
    if mayFollow (log.pulled ++ log.fresh) entry then
      some { log with fresh := log.fresh ++ [entry] }
    else none
  | .pull get isKnown clock callback =>
    let (pull, row) := pullLog settings ⟨get, isKnown, clock, str, casefold, sort⟩ callback
      entriesUri log.row
    some {
      pulled := log.pulled ++ log.fresh
      fresh := []
      row := row
      passed := log.passed ++ pull.passed }

/-- The pulls of one log. -/
def pullMachine : Machine PulledLog LogEvent :=
  ⟨PulledLog.step settings entriesUri str casefold sort⟩

/-- The key by which an entry is ordered: the double next to its time. -/
def LogEntry.stamp (entry : LogEntry) : Double :=
  match entry.created with
  | some time => Double.ofRatio time.micros 1000000
  | none => .nan

/-- How many entries of a listing are ahead of one: those before it that are not older, and those
after it that are newer. -/
def ahead (before : List LogEntry) (entry : LogEntry) (after : List LogEntry) : Nat :=
  (before.filter fun other => !other.stamp.lt entry.stamp).length +
    (after.filter fun other => entry.stamp.lt other.stamp).length

/-- A pull lists the whole log on the pages it reads, and not too many entries were appended since
the last one. -/
def Regular (log : PulledLog) : LogEvent → Prop
  | .append _ => True
  | .pull get _ _ _ =>
    log.fresh.length ≤ settings.maxEntries ∧
      ∃ listing, collectMembers get settings.baseUrl entriesUri settings.maxEntries =
        .ok (listing, false) ∧ listing.Perm (log.pulled ++ log.fresh)

/-- A pull cuts no entry appended since the last one: few entries are ahead of it in the listing. -/
def Uncut (log : PulledLog) : LogEvent → Prop
  | .append _ => True
  | .pull get _ _ _ =>
    ∀ listing, collectMembers get settings.baseUrl entriesUri settings.maxEntries =
      .ok (listing, false) → ∀ entry ∈ log.fresh, ∃ before after,
        listing = before ++ entry :: after ∧ ahead before entry after < settings.maxEntries

/-- An entry was passed on, with its fields, its time, and itself as the raw event. -/
def PassedOn (log : PulledLog) (entry : LogEntry) : Prop :=
  ∃ world : PullWorld, world.str = str ∧
    alertOfEntry settings world entry entry entry.created ∈ log.passed

/-- The severity of an entry is let through. -/
def IsAllowed (entry : LogEntry) : Prop :=
  severityAllowed casefold (normalizeSeverity str entry).1 (normalizeSeverity str entry).2
    settings.severities = true

end Runs

/-! ### Entries of a log -/

/-- An entry with all its fields and a time. -/
structure Logged (entry : LogEntry) (time : Reading) : Prop where
  complete : isComplete entry = true
  created : entry.created = some time

theorem timely_of_timeOf {value : Json} {time : Reading} (timed : timeOf value = some time) :
    Timely value := by
  cases value with
  | string chars =>
    rw [timeOf] at timed
    obtain ⟨shown, said, found⟩ := Option.bind_eq_some_iff.mp timed
    split at found
    · next within =>
      intro other said'
      rw [said, Option.mem_some_iff] at said'
      exact said' ▸ within
    · cases found
  | _ => trivial

/-- An entry with a time is ordered by the double next to it. -/
theorem sortKey_of_created {entry : LogEntry} {time : Reading}
    (created : entry.created = some time) : sortKey entry = .ok ⟨2, entry.stamp⟩ := by
  rw [sortKey, LogEntry.stamp, created]
  unfold LogEntry.created at created
  cases value : entry.field "Created" with
  | string chars =>
    rw [value, timeOf] at created
    obtain ⟨shown, said, found⟩ := Option.bind_eq_some_iff.mp created
    split at found
    · next within =>
      rw [parseRedfishTimestamp_string, parseTimestampText_eq, said]
      simp only [Datetime.Offset.ofMicros, dif_pos within.1]
      rw [← Option.some.inj found]
      rfl
    · cases found
  | _ =>
    rw [value] at created
    cases created

theorem stamp_ne_nan {entry : LogEntry} {time : Reading} (created : entry.created = some time) :
    entry.stamp ≠ .nan := by
  rw [LogEntry.stamp, created]
  exact Double.ofRatio_ne_nan _ _

/-- The newest entries of a listing, newest first. -/
def newestEntries (members : List LogEntry) (maxEntries : Nat) : List LogEntry :=
  (SortedList.descending (fun member => member.stamp.level) members).take maxEntries

theorem mem_of_mem_newestEntries {members : List LogEntry} {maxEntries : Nat} {entry : LogEntry}
    (member : entry ∈ newestEntries members maxEntries) : entry ∈ members :=
  (SortedList.descending_perm _ _).mem_iff.mp (List.mem_of_mem_take member)

/-- Entries with times are ordered by them, newest first. -/
theorem orderMembersNewestFirst_of_created {sort : MemberSort} {members : List LogEntry}
    {maxEntries : Nat} (timed : ∀ member ∈ members, ∃ time, member.created = some time) :
    orderMembersNewestFirst sort members maxEntries = .ok (newestEntries members maxEntries) := by
  have keyed : (members.mapM fun member => do return (← sortKey member, member)) =
      Except.ok (members.map fun member => (⟨2, member.stamp⟩, member)) := by
    refine Fallible.mapM_eq_map fun member listed => ?_
    obtain ⟨time, created⟩ := timed member listed
    rw [sortKey_of_created created]
    rfl
  rw [orderMembersNewestFirst, keyed]
  -- the keys are those of the entries' times, so the library sorts by them
  have compared : ∀ first ∈ members.map fun member => ((⟨2, member.stamp⟩ : SortKey), member),
      ∀ second ∈ members.map fun member => ((⟨2, member.stamp⟩ : SortKey), member),
        first.1.lt second.1 = true ↔ first.2.stamp.level < second.2.stamp.level := by
    intro _ listed _ listed'
    obtain ⟨first, member, rfl⟩ := List.mem_map.mp listed
    obtain ⟨second, member', rfl⟩ := List.mem_map.mp listed'
    obtain ⟨time, created⟩ := timed first member
    obtain ⟨time', created'⟩ := timed second member'
    rw [SortKey.lt, if_pos rfl]
    exact Double.lt_iff_level (stamp_ne_nan created) (stamp_ne_nan created')
  have sorted : (sort.sort (fun first second => first.1.lt second.1)
      (members.map fun member => ((⟨2, member.stamp⟩ : SortKey), member))).map Prod.snd =
        SortedList.descending (fun member => member.stamp.level) members := by
    rw [sort.stable _ _ _ (fun entry => entry.2.stamp.level) compared]
    rw [SortedList.map_descending (fun member : LogEntry => member.stamp.level) Prod.snd]
    rw [List.map_map]
    exact congrArg (SortedList.descending _) (List.map_id members)
  exact congrArg (fun entries => Except.ok (List.take maxEntries entries)) sorted

/-- An entry that few others are ahead of is kept. -/
theorem mem_kept {before after : List LogEntry} {entry : LogEntry} {maxEntries : Nat}
    (timed : ∀ member ∈ before ++ entry :: after, ∃ time, member.created = some time)
    (few : ahead before entry after < maxEntries) :
    entry ∈ newestEntries (before ++ entry :: after) maxEntries := by
  obtain ⟨time, created⟩ := timed entry (by simp)
  refine SortedList.mem_take_descending (lt_of_eq_of_lt ?_ few)
  rw [ahead]
  congr 2
  · refine List.filter_congr fun other listed => ?_
    obtain ⟨time', created'⟩ := timed other (List.mem_append_left _ listed)
    rw [Bool.eq_iff_iff, Bool.not_eq_true', ← Bool.not_eq_true,
      Double.lt_iff_level (stamp_ne_nan created') (stamp_ne_nan created), not_lt,
      decide_eq_true_eq]
  · refine List.filter_congr fun other listed => ?_
    obtain ⟨time', created'⟩ := timed other (by simp [listed])
    rw [Bool.eq_iff_iff, Double.lt_iff_level (stamp_ne_nan created) (stamp_ne_nan created'),
      decide_eq_true_eq]

/-! ### Pulling a log -/

section Pulling

variable {settings : PullSettings} {world : PullWorld} {callback : AlertEvent → Bool}
  {cursor : Option Reading}

theorem readTime_of_created {entry : LogEntry} {time : Reading}
    (created : entry.created = some time) :
    readTime (entry.field "Created") = .ok (some time) :=
  readTime_eq_ok.mpr ⟨timely_of_timeOf created, created⟩

theorem hasContent_of_complete {entry : LogEntry} (complete : isComplete entry = true) :
    hasContent (.object entry) = .ok true := by
  have message : (Json.getMember entry (Json.text "Message")).isSome = true :=
    List.all_eq_true.mp complete "Message" (by simp)
  simp [hasContent, containsName, message, bind, Except.bind, pure, Except.pure]

/-- An entry is skipped when it is older than the cursor, and otherwise passed on if its severity is
let through. -/
theorem considerMember_of_logged {entry : LogEntry} {time : Reading} (logged : Logged entry time) :
    considerMember settings world cursor entry =
      .ok (if isOlder cursor (some time) then .skipped
        else if severityAllowed world.casefold (normalizeSeverity world.str entry).1
          (normalizeSeverity world.str entry).2 settings.severities then
          .passed (some time) (alertOfEntry settings world entry entry (some time))
        else .filtered (some time)) := by
  unfold considerMember
  rw [readTime_of_created logged.created]
  have stands : entryOf settings world entry = .ok (.object entry) := by
    rw [entryOf, logged.complete]
    rfl
  cases older : isOlder cursor (some time) with
  | true => simp [isSkipped, older, bind, Except.bind, pure, Except.pure]
  | false =>
    simp only [isSkipped, older, stands, considerEntry, hasContent_of_complete logged.complete,
      readTime_of_created logged.created, bind, Except.bind, Option.isNone_some, Bool.false_and,
      Bool.or_self, Bool.false_eq_true, Bool.not_true, if_false]
    split <;> rfl

/-- A pull of a log looks at the kept entries, newest first. -/
theorem pullCollection_of_logged {entriesUri : Json} {listing : List LogEntry} {truncated : Bool}
    (collected : collectMembers world.get settings.baseUrl entriesUri settings.maxEntries =
      .ok (listing, truncated))
    (timed : ∀ member ∈ listing, ∃ time, member.created = some time) :
    pullCollection settings world callback entriesUri
        (cursor.map fun reading => { reading := reading }) =
      pullMembers settings world callback cursor (newestEntries listing settings.maxEntries) [] 0
        none := by
  have normalised : toNaiveUtc (cursor.map fun reading => { reading := reading }) = .ok cursor := by
    cases cursor <;> rfl
  rw [pullCollection, collected]
  cases listing with
  | nil => simp [newestEntries, SortedList.descending, pullMembers]
  | cons member rest =>
    simp only [List.isEmpty_cons, Bool.false_eq_true, if_false,
      orderMembersNewestFirst_of_created timed, normalised]

/-- The newest time of a pull is that of an entry it looked at. -/
theorem pullMembers_newest {members : List LogEntry}
    (logged : ∀ member ∈ members, ∃ time, Logged member time) {passed : List AlertEvent}
    {emitted count : Nat} {newest : Option Reading} {mark : Reading}
    (returned : (pullMembers settings world callback cursor members passed emitted newest).outcome =
      .ok (count, some mark)) :
    newest = some mark ∨ ∃ member ∈ members, member.created = some mark := by
  induction members generalizing passed emitted newest with
  | nil =>
    simp only [pullMembers, Except.ok.injEq, Prod.mk.injEq] at returned
    exact .inl returned.2
  | cons member rest inductionHypothesis =>
    obtain ⟨⟨time, first⟩, later⟩ := List.forall_mem_cons.mp logged
    have newer : newerOf newest (some time) = newest ∨ newerOf newest (some time) = some time := by
      cases newest with
      | none => exact .inr rfl
      | some old =>
        rw [newerOf]
        split
        · exact .inr rfl
        · exact .inl rfl
    have extend : (∃ other ∈ rest, other.created = some mark) →
        ∃ other ∈ member :: rest, other.created = some mark := by
      intro found
      obtain ⟨other, listed, created⟩ := found
      exact ⟨other, List.mem_cons_of_mem _ listed, created⟩
    have stepped : newerOf newest (some time) = some mark →
        newest = some mark ∨ ∃ other ∈ member :: rest, other.created = some mark := by
      intro same
      rcases newer with old | new
      · exact .inl (old ▸ same)
      · exact .inr ⟨member, List.mem_cons_self, first.created.trans (new ▸ same)⟩
    rw [pullMembers, considerMember_of_logged first] at returned
    cases older : isOlder cursor (some time) with
    | true =>
      rw [older] at returned
      exact (inductionHypothesis later returned).imp_right extend
    | false =>
      cases allowed : severityAllowed world.casefold (normalizeSeverity world.str member).1
        (normalizeSeverity world.str member).2 settings.severities with
      | true | false =>
        rw [older, allowed] at returned
        rcases inductionHypothesis later returned with same | other
        · exact stepped same
        · exact .inr (extend other)

end Pulling

/-! ### What a run keeps -/

section Runs

variable {settings : PullSettings} {entriesUri : Json} {str : Json → Text}
  {casefold : Text → Text} {sort : MemberSort}

/-- A log in a run: its entries have times that do not decrease, the cursor is the time of an
entry that was pulled, and the entries that were pulled are passed on. -/
structure PulledLog.Sound (settings : PullSettings) (str : Json → Text) (casefold : Text → Text)
    (log : PulledLog) : Prop where
  logged : ∀ entry ∈ log.pulled ++ log.fresh, ∃ time, Logged entry time
  ordered : ∀ old ∈ log.pulled, ∀ new ∈ log.fresh, ∀ earlier time, old.created = some earlier →
    new.created = some time → earlier.micros ≤ time.micros
  marked : ∀ mark, log.row.bind LogCursor.lastCreated = some mark →
    ∃ entry ∈ log.pulled, entry.created = some mark
  delivered : ∀ entry ∈ log.pulled, IsAllowed settings str casefold entry →
    PassedOn settings str log entry

theorem sound_empty : PulledLog.Sound settings str casefold {} where
  logged := by simp
  ordered := by simp
  marked := by simp
  delivered := by simp

theorem PulledLog.Sound.append {log : PulledLog} (sound : log.Sound settings str casefold)
    {entry : LogEntry} (follows : mayFollow (log.pulled ++ log.fresh) entry = true) :
    PulledLog.Sound settings str casefold { log with fresh := log.fresh ++ [entry] } := by
  rw [mayFollow, Bool.and_eq_true, Option.any_eq_true] at follows
  obtain ⟨complete, time, created, latest⟩ := follows
  refine ⟨?_, ?_, sound.marked, sound.delivered⟩
  · intro other member
    rw [← List.append_assoc] at member
    rcases List.mem_append.mp member with old | new
    · exact sound.logged other old
    · rw [List.mem_singleton.mp new]
      exact ⟨time, complete, created⟩
  · intro old pulled new member earlier time' createdOld createdNew
    rcases List.mem_append.mp member with fresh | added
    · exact sound.ordered old pulled new fresh earlier time' createdOld createdNew
    · rw [List.mem_singleton.mp added, created, Option.some.injEq] at createdNew
      have bounded := List.all_eq_true.mp latest old (List.mem_append_left _ pulled)
      rw [createdOld, Option.all_some, decide_eq_true_eq] at bounded
      exact createdNew ▸ bounded

/-- The cursor after a pull is the cursor from before, or the newest time of the pull. -/
theorem pullLog_marked {world : PullWorld} {callback : AlertEvent → Bool} {row : Option LogCursor}
    {mark : Reading}
    (marked : (pullLog settings world callback entriesUri row).2.bind LogCursor.lastCreated =
      some mark) :
    row.bind LogCursor.lastCreated = some mark ∨
      ∃ count, (pullLog settings world callback entriesUri row).1.outcome =
        .ok (count, some mark) := by
  simp only [pullLog] at marked ⊢
  split at marked
  · next count newest outcome =>
    rw [outcome]
    cases row with
    | none => exact .inr ⟨count, by rw [← marked]; rfl⟩
    | some old =>
      rw [Option.bind_some, storeCursor] at marked
      split at marked
      · exact .inr ⟨count, by rw [← marked]⟩
      · exact .inl marked
  · exact .inl marked

/-- A pull of a log passes on every allowed entry that is kept and not older than the cursor. -/
theorem passed_of_kept {world : PullWorld} {callback : AlertEvent → Bool}
    {cursor : Option Reading} {kept : List LogEntry}
    (logged : ∀ entry ∈ kept, ∃ time, Logged entry time) {entry : LogEntry} {time : Reading}
    (member : entry ∈ kept) (created : entry.created = some time)
    (current : isOlder cursor (some time) = false)
    (allowed : IsAllowed settings world.str world.casefold entry) :
    alertOfEntry settings world entry entry entry.created ∈
      (pullMembers settings world callback cursor kept [] 0 none).passed := by
  have readable : ∀ other ∈ kept, Readable settings world cursor other := by
    intro other listed
    obtain ⟨time', logged'⟩ := logged other listed
    exact considerMember_returns.mp ⟨_, considerMember_of_logged logged'⟩
  rw [pullMembers_passed readable, List.nil_append]
  refine List.mem_filterMap.mpr ⟨entry, member, ?_⟩
  obtain ⟨time', logged'⟩ := logged entry member
  rw [alertOf, considerMember_of_logged ⟨logged'.complete, created⟩, current, created]
  rw [IsAllowed] at allowed
  rw [if_neg Bool.false_ne_true, if_pos allowed]

theorem PulledLog.Sound.pull {log : PulledLog} (sound : log.Sound settings str casefold)
    {get : Text → Option Json} {isKnown : Json → Bool} {clock : LogEntry → Datetime}
    {callback : AlertEvent → Bool}
    (regular : Regular settings entriesUri log (.pull get isKnown clock callback))
    (uncut : Uncut settings entriesUri log (.pull get isKnown clock callback)) {next : PulledLog}
    (step : log.step settings entriesUri str casefold sort (.pull get isKnown clock callback) =
      some next) : next.Sound settings str casefold := by
  obtain ⟨_, listing, collected, reordered⟩ := regular
  have logged : ∀ entry ∈ listing, ∃ time, Logged entry time := fun entry member =>
    sound.logged entry (reordered.mem_iff.mp member)
  have timed : ∀ entry ∈ listing, ∃ time, entry.created = some time := by
    intro entry member
    obtain ⟨time, logged'⟩ := logged entry member
    exact ⟨time, logged'.created⟩
  rw [← Option.some.inj step]
  have pulls : (pullLog settings ⟨get, isKnown, clock, str, casefold, sort⟩ callback entriesUri
      log.row).1 = _ := pullCollection_of_logged collected timed
  have loggedKept : ∀ entry ∈ newestEntries listing settings.maxEntries,
      ∃ time, Logged entry time :=
    fun entry member => logged entry (mem_of_mem_newestEntries member)
  refine ⟨?_, by simp, ?_, ?_⟩
  · intro entry member
    rw [List.append_nil] at member
    exact sound.logged entry member
  · intro mark marked
    rcases pullLog_marked marked with old | ⟨count, outcome⟩
    · obtain ⟨entry, member, created⟩ := sound.marked mark old
      exact ⟨entry, List.mem_append_left _ member, created⟩
    · rw [pulls] at outcome
      rcases pullMembers_newest loggedKept outcome with impossible | ⟨entry, member, created⟩
      · cases impossible
      · exact ⟨entry, reordered.mem_iff.mp (mem_of_mem_newestEntries member), created⟩
  · intro entry member allowed
    rcases List.mem_append.mp member with old | new
    · obtain ⟨world, sameStr, passed⟩ := sound.delivered entry old allowed
      exact ⟨world, sameStr, List.mem_append_left _ passed⟩
    · refine ⟨⟨get, isKnown, clock, str, casefold, sort⟩, rfl, List.mem_append_right _ ?_⟩
      rw [pullCollection_of_logged collected timed]
      obtain ⟨before, after, rfl, few⟩ := uncut listing collected entry new
      obtain ⟨time, created⟩ := timed entry (by simp)
      have current : isOlder (log.row.bind LogCursor.lastCreated) (some time) = false := by
        cases found : log.row.bind LogCursor.lastCreated with
        | none => rfl
        | some mark =>
          obtain ⟨old, pulled, createdOld⟩ := sound.marked mark found
          have bounded := sound.ordered old pulled entry new mark time createdOld created
          simpa [isOlder] using bounded
      exact passed_of_kept loggedKept (mem_kept timed few) created current allowed

theorem PulledLog.Sound.step {log next : PulledLog} {event : LogEvent}
    (sound : log.Sound settings str casefold)
    (meets : Regular settings entriesUri log event ∧ Uncut settings entriesUri log event)
    (step : log.step settings entriesUri str casefold sort event = some next) :
    next.Sound settings str casefold := by
  cases event with
  | append entry =>
    rw [PulledLog.step] at step
    split at step
    · next follows =>
      rw [← Option.some.inj step]
      exact sound.append follows
    · cases step
  | pull get isKnown clock callback => exact sound.pull meets.1 meets.2 step

/-- In a run of pulls that list the whole log and cut no entry appended since the previous pull,
every entry that a pull lists is passed on, if its severity is let through. -/
theorem baseline_pulls_complete (settings : PullSettings) (entriesUri : Json) (str : Json → Text)
    (casefold : Text → Text) (sort : MemberSort) (events : List LogEvent) (final : PulledLog)
    (run : (pullMachine settings entriesUri str casefold sort).run {} events = some final)
    (meets : (pullMachine settings entriesUri str casefold sort).Throughout
      (fun log event => Regular settings entriesUri log event ∧ Uncut settings entriesUri log event)
      {} events) :
    ∀ entry ∈ final.pulled, IsAllowed settings str casefold entry →
      PassedOn settings str final entry := by
  have sound : final.Sound settings str casefold :=
    (pullMachine settings entriesUri str casefold sort).run_keeps
      (fun before meets step => before.step meets step) sound_empty meets run
  exact sound.delivered

end Runs

/-- A pull of a log that lists some entries. -/
def samplePull (listing : List LogEntry) : LogEvent :=
  .pull (sampleWorld listing).get (fun _ => false) (sampleWorld []).clock fun _ => true

/-- The first entry of a log. -/
def firstEntry : LogEntry := sampleEntry "hot" "2026-01-05T10:00:00Z"

/-- The second entry of a log. -/
def secondEntry (created : String) : LogEntry := sampleEntry "cold" created

/-- Two entries, each followed by a pull that lists the whole log, oldest first. -/
def sampleRun (created : String) : List LogEvent := [
  .append firstEntry, samplePull [firstEntry],
  .append (secondEntry created), samplePull [firstEntry, secondEntry created]]

/-- The pulls of a log that keep one entry each. -/
def sampleMachine : Machine PulledLog LogEvent :=
  pullMachine (sampleSettings 1) (.string (Json.text "/log")) (sampleWorld []).str
    casefold .insertion

/-- The log after the two pulls. -/
def sampleLog (created : String) : PulledLog :=
  (sampleMachine.run {} (sampleRun created)).getD {}

theorem sampleRun_throughout {condition : PulledLog → LogEvent → Prop} {created : String}
    (appends : ∀ log entry, condition log (.append entry))
    (pulls : condition { fresh := [firstEntry] } (samplePull [firstEntry]))
    (pullsAgain : ∀ row passed, condition ⟨[firstEntry], [secondEntry created], row, passed⟩
      (samplePull [firstEntry, secondEntry created])) :
    sampleMachine.Throughout condition {} (sampleRun created) := by
  refine ⟨appends _ _, fun log step => ?_⟩
  obtain rfl : _ = log := Option.some.inj step
  refine ⟨pulls, fun log step => ?_⟩
  obtain rfl : _ = log := Option.some.inj step
  refine ⟨appends _ _, fun log step => ?_⟩
  simp only [sampleMachine, pullMachine, PulledLog.step] at step
  split at step
  · obtain rfl : _ = log := Option.some.inj step
    exact ⟨pullsAgain _ _, fun _ _ => trivial⟩
  · cases step

theorem sampleRun_regular (created : String) :
    sampleMachine.Throughout (Regular (sampleSettings 1) (.string (Json.text "/log"))) {}
      (sampleRun created) :=
  sampleRun_throughout (fun _ _ => trivial) ⟨le_rfl, [firstEntry], rfl, .refl _⟩
    fun _ _ => ⟨le_rfl, [firstEntry, secondEntry created], rfl, .refl _⟩

/-- A later entry is passed on by the second pull. -/
theorem laterEntry_passedOn :
    PassedOn (sampleSettings 1) (sampleWorld []).str
      (sampleLog "2026-01-05T10:00:01Z")
      (secondEntry "2026-01-05T10:00:01Z") := by
  refine baseline_pulls_complete (sampleSettings 1) (.string (Json.text "/log"))
    (sampleWorld []).str casefold .insertion (sampleRun "2026-01-05T10:00:01Z")
    (sampleLog "2026-01-05T10:00:01Z") rfl ?_ _
    (List.mem_cons_of_mem _ List.mem_cons_self) rfl
  refine sampleRun_throughout (fun _ _ => ⟨trivial, trivial⟩) ⟨⟨le_rfl, _, rfl, .refl _⟩, ?_⟩
    fun _ _ => ⟨⟨le_rfl, _, rfl, .refl _⟩, ?_⟩
  · intro listing collected entry fresh
    rw [← (Prod.mk.inj (Except.ok.inj collected)).1, List.mem_singleton.mp fresh]
    exact ⟨[], [], rfl, by decide⟩
  · intro listing collected entry fresh
    rw [← (Prod.mk.inj (Except.ok.inj collected)).1, List.mem_singleton.mp fresh]
    exact ⟨[firstEntry], [], rfl, by decide +kernel⟩

/-- Whether the message of an alert is that of the first entry. -/
def saysHot (alert : AlertEvent) : Bool :=
  match alert.message with
  | .string chars => decide (chars = Json.text "hot")
  | _ => false

/-- An entry of the same time as the one before it is cut by the pull that lists it first, and by
every later one; it is not passed on. -/
theorem tiedEntry_lost :
    ¬ ∀ (settings : PullSettings) (entriesUri : Json) (str : Json → Text)
        (casefold : Text → Text) (sort : MemberSort) (events : List LogEvent) (final : PulledLog),
      (pullMachine settings entriesUri str casefold sort).run {} events = some final →
      (pullMachine settings entriesUri str casefold sort).Throughout
        (Regular settings entriesUri) {}
        events →
      ∀ entry ∈ final.pulled, IsAllowed settings str casefold entry →
        PassedOn settings str final entry := by
  intro claimed
  obtain ⟨world, _, passed⟩ := claimed (sampleSettings 1) (.string (Json.text "/log"))
    (sampleWorld []).str casefold .insertion (sampleRun "2026-01-05T10:00:00Z")
    (sampleLog "2026-01-05T10:00:00Z") rfl (sampleRun_regular _)
    (secondEntry "2026-01-05T10:00:00Z") (List.mem_cons_of_mem _ List.mem_cons_self) rfl
  have hot : ∀ alert ∈ (sampleLog "2026-01-05T10:00:00Z").passed, saysHot alert = true :=
    List.all_eq_true.mp (by decide +kernel)
  exact absurd (hot _ passed) (show ¬ decide (Json.text "cold" = Json.text "hot") = true by decide)

end Gyanam
