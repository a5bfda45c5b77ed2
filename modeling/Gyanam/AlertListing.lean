/-
This file follows a program that fetches the list of alerts part by part, from
larger and larger offsets, while the store goes on: alerts arrive, the worker
enriches them, a retention purges old ones, and the window moves with the clock.

What arrives pushes other alerts back, so the program may see an alert twice. It
misses none that is in the window all along, unless the purge takes an alert
that is listed before it: how far back an alert stands never falls behind the
offset of the next part.
-/

import Gyanam.AlertPages
import Gyanam.Lib.Machine

namespace Gyanam

open Json (Text)

variable {Key : Type}

/-! ### A program and a store -/

/-- A store at a time, and what a program has of its list: the offset of the next part, the entries
so far, and whether a part was not full. -/
structure AlertListing (Key : Type) where
  board : AlertBoard Key
  now : Datetime.Reading
  offset : Nat := 0
  entries : List Json := []
  finished : Bool := false

/-- What happens while a program lists the alerts. -/
inductive AlertListingEvent (Key : Type) where
  /-- An alert is stored under a number that is free. -/
  | arrive (id : AlertId) (row : AlertRow Key)
  /-- The worker writes how far the decoding of an alert is. -/
  | enrich (id : AlertId) (cperStatus : Option Text)
  /-- A chunk of alerts that were received before a cutoff is deleted. -/
  | purge (ids : List AlertId) (cutoff : Datetime.Reading)
  | later (now : Datetime.Reading)
  /-- The program fetches the next part. -/
  | fetch

/-- Does a chunk of a purge take an alert? -/
def purged (ids : List AlertId) (cutoff : Datetime.Reading) (id : AlertId) (row : AlertRow Key) :
    Bool :=
  ids.contains id && decide (row.receivedAt.micros < cutoff.micros)

/-- The program takes a part. A request that fails leaves it where it is. -/
def AlertListing.take (listing : AlertListing Key) (limit : Nat) :
    Except WindowError (List Json) → AlertListing Key
  | .ok part =>
    { listing with
      offset := listing.offset + limit, entries := listing.entries ++ part
      finished := listing.finished || decide (part.length < limit) }
  | .error _ => listing

def alertListingStep (texts : TextSearch) (params : ListParams) (listing : AlertListing Key) :
    AlertListingEvent Key → Option (AlertListing Key)
  | .arrive id row =>
    if absent : listing.board.get id = none then
      some { listing with board := listing.board.insertNew id row absent }
    else none
  | .enrich id cperStatus =>
    some { listing with
      board := listing.board.updateWhere (fun other _ => decide (other = id)) fun row =>
        { row with cperStatus := cperStatus } }
  | .purge ids cutoff =>
    some { listing with board := listing.board.deleteWhere (purged ids cutoff) }
  | .later now =>
    if listing.now.micros ≤ now.micros then some { listing with now := now } else none
  | .fetch =>
    some (listing.take params.limit
      (listAlertsApi texts listing.now params listing.offset listing.board))

/-- The runs of a program that lists alerts. -/
def alertListing (texts : TextSearch) (params : ListParams) :
    Machine (AlertListing Key) (AlertListingEvent Key) where
  step := alertListingStep texts params

/-! ### Where an alert stands -/

section Standing

variable (texts : TextSearch) (params : ListParams) (alert : AlertId × AlertRow Key)

/-- Does the filter of the list select an alert, whatever its time? -/
def ListParams.selects (entry : AlertId × AlertRow Key) : Bool :=
  (params.filters none).selects texts entry.2

/-- An alert is in the window of a time. -/
def InWindow (now : Datetime.Reading) : Prop :=
  params.hours = 0 ∨ now.micros - params.hours * 3600000000 ≤ alert.2.occurredAt.micros

/-- How many of the alerts that the filter selects are listed before an alert. -/
def alertsAhead (board : AlertBoard Key) : Nat :=
  Paging.ahead alertOrder (alertOrder alert) (board.rows.filter (params.selects texts))

/-- A purge takes nothing that is listed before an alert, and not the alert. -/
def PurgesBehind (listing : AlertListing Key) : AlertListingEvent Key → Prop
  | .purge ids cutoff => ∀ entry ∈ listing.board.rows, purged ids cutoff entry.1 entry.2 = true →
      params.selects texts entry = true → alertOrder entry < alertOrder alert
  | _ => True

/-- A stored row is that of an alert, up to how far it is decoded. -/
def IsRowOf (row : AlertRow Key) : Prop :=
  row = { alert.2 with cperStatus := row.cperStatus }

/-- The alert is stored. It is among the entries, or it is on the next part or behind it. -/
structure Awaits (listing : AlertListing Key) : Prop where
  stored : ∃ row, listing.board.get alert.1 = some row ∧ IsRowOf alert row
  listed : alertEntry alert ∈ listing.entries ∨
    listing.finished = false ∧ listing.offset ≤ alertsAhead texts params alert listing.board

end Standing

variable {texts : TextSearch} {params : ListParams} {alert : AlertId × AlertRow Key}

theorem IsRowOf.same {row : AlertRow Key} (own : IsRowOf alert row) (texts : TextSearch)
    (params : ListParams) :
    alertOrder (alert.1, row) = alertOrder alert ∧
      params.selects texts (alert.1, row) = params.selects texts alert ∧
        alertEntry (alert.1, row) = alertEntry alert := by
  rw [IsRowOf] at own
  rw [own]
  exact ⟨rfl, rfl, rfl⟩

/-! ### Steps of the store -/

theorem alertOrder_le {entry other : AlertId × AlertRow Key}
    (before : alertOrder entry < alertOrder other) :
    entry.2.occurredAt.micros ≤ other.2.occurredAt.micros := by
  rcases Prod.Lex.toLex_lt_toLex.mp before with earlier | ⟨same, -⟩
  · exact earlier.le
  · exact same.le

theorem alertsAhead_arrive {board : AlertBoard Key} {id : AlertId} {row : AlertRow Key}
    (absent : board.get id = none) :
    alertsAhead texts params alert board ≤
      alertsAhead texts params alert (board.insertNew id row absent) := by
  rw [alertsAhead, alertsAhead, Table.insertNew, List.filter_append, Paging.ahead, Paging.ahead,
    List.filter_append, List.length_append]
  exact Nat.le_add_right _ _

theorem alertsAhead_enrich (board : AlertBoard Key) (id : AlertId) (cperStatus : Option Text) :
    alertsAhead texts params alert (board.updateWhere (fun other _ => decide (other = id))
      fun row => { row with cperStatus := cperStatus }) =
        alertsAhead texts params alert board := by
  simp only [alertsAhead, Paging.ahead, List.filter_filter, Table.updateWhere]
  rw [List.filter_map, List.length_map]
  refine congrArg List.length (List.filter_congr fun entry _ => ?_)
  simp only [Function.comp_apply]
  split <;> rfl

theorem alertsAhead_purge {board : AlertBoard Key} {gone : AlertId → AlertRow Key → Bool}
    (behind : ∀ entry ∈ board.rows, gone entry.1 entry.2 = true →
      params.selects texts entry = true → alertOrder entry < alertOrder alert) :
    alertsAhead texts params alert (board.deleteWhere gone) =
      alertsAhead texts params alert board := by
  simp only [alertsAhead, Paging.ahead, List.filter_filter, Table.deleteWhere]
  refine congrArg List.length (List.filter_congr fun entry member => ?_)
  cases taken : gone entry.1 entry.2 with
  | false => simp
  | true =>
    cases selected : params.selects texts entry with
    | false => simp
    | true => simp [not_lt_of_gt (behind entry member taken selected)]

/-! ### Parts -/

theorem all_since_of_inWindow {now : Datetime.Reading} {since : Option Datetime.Reading}
    (inWindow : InWindow params alert now) (window : windowStart now params.hours = .ok since) :
    ∀ start ∈ since, start.micros ≤ alert.2.occurredAt.micros := by
  rintro start rfl
  rw [windowStart] at window
  split at window
  · cases window
  · next hours =>
    split at window
    · next start' found =>
      cases window
      rw [Datetime.Reading.ofMicros] at found
      split at found
      · cases found
        exact inWindow.resolve_left hours
      · cases found
    · cases window

theorem mem_matchingAlerts {filters : AlertFilters} {board : AlertBoard Key}
    {entry : AlertId × AlertRow Key} :
    entry ∈ matchingAlerts texts filters board ↔
      entry ∈ board.rows ∧ filters.selects texts entry.2 = true ∧
        ∀ start ∈ filters.since, start.micros ≤ entry.2.occurredAt.micros := by
  simp only [matchingAlerts, List.mem_filter, alertFilters, Bool.and_eq_true,
    Option.all_eq_true, decide_eq_true_eq, Option.mem_def]

/-- The start of the window is behind an alert in it, so it takes nothing that is listed before. -/
theorem ahead_matchingAlerts {board : AlertBoard Key} {since : Option Datetime.Reading}
    (open_window : ∀ start ∈ since, start.micros ≤ alert.2.occurredAt.micros) :
    Paging.ahead alertOrder (alertOrder alert)
        (matchingAlerts texts (params.filters since) board) =
      alertsAhead texts params alert board := by
  simp only [Paging.ahead, alertsAhead, matchingAlerts, List.filter_filter]
  refine congrArg List.length (List.filter_congr fun entry _ => ?_)
  by_cases before : alertOrder alert < alertOrder entry
  · have within : (since.all fun start => decide (start.micros ≤ entry.2.occurredAt.micros)) =
        true := by
      rw [Option.all_eq_true]
      intro start opens
      exact decide_eq_true ((open_window start opens).trans (alertOrder_le before))
    have same : (params.filters since).selects texts entry.2 = params.selects texts entry := rfl
    rw [alertFilters, same]
    simp [before, ListParams.filters, within]
  · simp [before]

/-- A part that an alert is not on is before it, and full. -/
theorem Awaits.fetch {listing : AlertListing Key} (awaits : Awaits texts params alert listing)
    (selected : params.selects texts alert = true)
    (inWindow : InWindow params alert listing.now) :
    Awaits texts params alert (listing.take params.limit
      (listAlertsApi texts listing.now params listing.offset listing.board)) := by
  cases window : windowStart listing.now params.hours with
  | error error =>
    have failed : listAlertsApi texts listing.now params listing.offset listing.board =
        .error error := by
      rw [listAlertsApi, window]
      rfl
    rw [failed]
    exact awaits
  | ok since =>
    have answered : listAlertsApi texts listing.now params listing.offset listing.board =
        .ok ((getAlerts texts (params.filters since) params.limit listing.offset
          listing.board).map alertEntry) := by
      rw [listAlertsApi, window]
      rfl
    rw [answered]
    refine ⟨awaits.stored, ?_⟩
    rcases awaits.listed with already | ⟨unfinished, ahead⟩
    · exact .inl (List.mem_append_left _ already)
    obtain ⟨row, stored, own⟩ := awaits.stored
    obtain ⟨order, selects, entry⟩ := own.same texts params
    have opens := all_since_of_inWindow inWindow window
    have member : (alert.1, row) ∈ matchingAlerts texts (params.filters since) listing.board := by
      refine mem_matchingAlerts.mpr ⟨Table.mem_rows_of_get stored, selects.trans selected, ?_⟩
      rw [own]
      exact opens
    have place : Paging.ahead alertOrder (alertOrder (alert.1, row))
        (matchingAlerts texts (params.filters since) listing.board) =
          alertsAhead texts params alert listing.board := by
      rw [order]
      exact ahead_matchingAlerts opens
    by_cases shown : (alert.1, row) ∈
        getAlerts texts (params.filters since) params.limit listing.offset listing.board
    · exact .inl (List.mem_append_right _ (entry ▸ List.mem_map_of_mem shown))
    · right
      have missed := (Paging.mem_page_iff (nodup_alertOrder texts _ _) member).not.mp shown
      rw [place] at missed
      refine ⟨?_,
        show listing.offset + params.limit ≤ alertsAhead texts params alert listing.board by omega⟩
      show (listing.finished || _) = false
      rw [unfinished, Bool.false_or, decide_eq_false_iff_not, List.length_map]
      intro short
      have last := Paging.ahead_lt_of_short member short
      rw [place] at last
      exact missed ⟨ahead, last⟩

/-! ### Runs -/

/-- An alert that is in the window and that no purge takes is awaited on. -/
theorem Awaits.step {listing next : AlertListing Key} {event : AlertListingEvent Key}
    (selected : params.selects texts alert = true)
    (holds : InWindow params alert listing.now → Awaits texts params alert listing)
    (behind : PurgesBehind texts params alert listing event)
    (step : (alertListing texts params).step listing event = some next) :
    InWindow params alert next.now → Awaits texts params alert next := by
  intro inWindow
  cases event with
  | arrive id row =>
    simp only [alertListing, alertListingStep] at step
    split at step
    · next absent =>
      obtain rfl := Option.some.inj step
      obtain ⟨⟨own, stored, same⟩, listed⟩ := holds inWindow
      refine ⟨⟨own, ?_, same⟩, listed.imp_right fun waits =>
        ⟨waits.1, waits.2.trans (alertsAhead_arrive absent)⟩⟩
      rw [Table.get_insertNew, if_neg, stored]
      rintro rfl
      cases stored.symm.trans absent
    · cases step
  | enrich id cperStatus =>
    obtain rfl := Option.some.inj step
    obtain ⟨⟨own, stored, same⟩, listed⟩ := holds inWindow
    refine ⟨⟨_, (Table.get_updateWhere ..).trans (congrArg _ stored), ?_⟩, ?_⟩
    · rw [IsRowOf] at same ⊢
      split
      · rw [same]
      · exact same
    · rwa [alertsAhead_enrich]
  | purge ids cutoff =>
    obtain rfl := Option.some.inj step
    obtain ⟨⟨own, stored, same⟩, listed⟩ := holds inWindow
    refine ⟨⟨own, ?_, same⟩, ?_⟩
    · rw [Table.get_deleteWhere, stored, Option.filter_eq_some_iff, Bool.not_eq_true']
      refine ⟨rfl, Bool.eq_false_iff.mpr fun taken => ?_⟩
      obtain ⟨order, selects, -⟩ := same.same texts params
      have before := behind _ (Table.mem_rows_of_get stored) taken (selects.trans selected)
      exact lt_irrefl _ (order ▸ before)
    · rwa [alertsAhead_purge behind]
  | later now =>
    simp only [alertListing, alertListingStep] at step
    split at step
    · next forward =>
      obtain rfl := Option.some.inj step
      have earlier : InWindow params alert listing.now :=
        inWindow.imp_right (sub_le_sub_right forward _).trans
      exact ⟨(holds earlier).stored, (holds earlier).listed⟩
    · cases step
  | fetch =>
    obtain rfl := Option.some.inj step
    have unmoved : InWindow params alert listing.now := by
      cases answer : listAlertsApi texts listing.now params listing.offset listing.board <;>
        · rw [answer] at inWindow
          exact inWindow
    exact (holds unmoved).fetch selected unmoved

/-- A program that fetches parts until one is not full misses no alert that was stored when it
began, that its filter selects and that is in the window all along, whatever arrives and whatever is
enriched in between, as long as no purge takes an alert that is listed before it. -/
theorem alertListing_misses_none {start final : AlertListing Key}
    {events : List (AlertListingEvent Key)} (stored : start.board.get alert.1 = some alert.2)
    (selected : params.selects texts alert = true) (unread : start.offset = 0)
    (unfinished : start.finished = false)
    (behind : (alertListing texts params).Throughout (PurgesBehind texts params alert) start events)
    (run : (alertListing texts params).run start events = some final)
    (inWindow : InWindow params alert final.now) (finished : final.finished = true) :
    alertEntry alert ∈ final.entries := by
  have initial : InWindow params alert start.now → Awaits texts params alert start := fun _ =>
    ⟨⟨alert.2, stored, rfl⟩, .inr ⟨unfinished, unread ▸ Nat.zero_le _⟩⟩
  have awaits := (alertListing texts params).run_keeps (Awaits.step selected) initial behind run
    inWindow
  rcases awaits.listed with listed | ⟨open_list, -⟩
  · exact listed
  · cases finished.symm.trans open_list

instance decidePurgesBehind (texts : TextSearch) (params : ListParams)
    (alert : AlertId × AlertRow Key) (listing : AlertListing Key) :
    (event : AlertListingEvent Key) → Decidable (PurgesBehind texts params alert listing event)
  | .purge ids cutoff => inferInstanceAs (Decidable (∀ entry ∈ listing.board.rows,
      purged ids cutoff entry.1 entry.2 = true → params.selects texts entry = true →
        alertOrder entry < alertOrder alert))
  | .arrive _ _ | .enrich _ _ | .later _ | .fetch => isTrue trivial

/-- The second alert of four. -/
def secondAlert : AlertId × AlertRow Unit := (2, minuteAlert "Critical" 1)

/-- Three parts of two entries each, while an alert arrives, the first one is purged, and an hour
passes. -/
def minuteListing : List (AlertListingEvent Unit) := [
  .fetch,
  .arrive 5 (minuteAlert "Critical" 4),
  .enrich 2 (some (Json.text "decoded")),
  .purge [1, 4] (minuteReading 1),
  .fetch,
  .later (minuteReading 61),
  .fetch]

/-- The second alert of those is not missed, although the arrival pushes it to another part. -/
theorem alertListing_misses_none_second :
    ∃ final, (alertListing noSearch { hours := 1, limit := 2 }).run
        { board := minuteBoard, now := minuteReading 5 } minuteListing = some final ∧
      alertEntry secondAlert ∈ final.entries := by
  obtain ⟨final, run, passes⟩ := (alertListing noSearch { hours := 1, limit := 2 }).exists_of_any
    (show ((alertListing noSearch { hours := 1, limit := 2 }).run
      { board := minuteBoard, now := minuteReading 5 } minuteListing).any
        (fun final => final.finished && decide (final.now.micros = 1700003660000000)) = true by
      decide +kernel)
  rw [Bool.and_eq_true, decide_eq_true_eq] at passes
  refine ⟨final, run, alertListing_misses_none rfl (by decide +kernel) rfl rfl (by decide +kernel)
    run (.inr ?_) passes.1⟩
  rw [passes.2]
  decide

end Gyanam
