/-
This file models how stored alerts are looked at: the filters of a query, the
order of a list, the counts, the page of the alerts in the browser, and the list
that programs fetch from an offset on. The order is by the time an alert
occurred, the latest first, and then by its number.

The page counts the alerts in one transaction and reads a part of them in a
later one. At rest the two agree, and the pages are the alerts of the filter,
each on exactly one of them.
-/

import Gyanam.AlertStore
import Gyanam.CperQueue
import Gyanam.Lib.Paging
import Gyanam.ShardManager
import Mathlib.Data.Prod.Lex

namespace Gyanam

open Json (Text)

variable {Key : Type}

/-! ### Queries -/

/-- The alerts that are stored, under their numbers. -/
abbrev AlertBoard (Key : Type) := Table AlertId (AlertRow Key)

/-- How texts are searched: how a search is lowered, how the database lowers a column, and whether a
text is like a pattern. -/
structure TextSearch where
  lowered : Text → Text
  storedLower : Text → Text
  like : Text → Text → Bool

/-- The filters of a query; an empty text or list filters nothing. -/
structure AlertFilters where
  targetId : Option TargetId := none
  severity : Option Text := none
  since : Option Datetime.Reading := none
  severityIn : List Text := []
  severityNotIn : List Text := []
  search : Option Text := none

/-- The message of a stored alert. -/
def AlertRow.messageText (row : AlertRow Key) : Text :=
  match row.message with
  | .string chars => chars
  | _ => []

/-- Does an alert have a search in its target, its BMC or its message? -/
def AlertRow.mentions (texts : TextSearch) (search : Text) (row : AlertRow Key) : Bool :=
  let pattern := Json.text "%" ++ texts.lowered search ++ Json.text "%"
  [row.targetName, row.targetBmc, row.messageText].any fun column =>
    texts.like (texts.storedLower column) pattern

/-- Apply the shared filter predicates but that of time. -/
def AlertFilters.selects (texts : TextSearch) (filters : AlertFilters)
    (row : AlertRow Key) : Bool :=
  (filters.targetId.all fun targetId => row.targetId = targetId) &&
    ((filters.severity.filter (· ≠ [])).all fun severity => row.severity = severity) &&
    (filters.severityIn.isEmpty || filters.severityIn.contains row.severity) &&
    (filters.severityNotIn.isEmpty || !filters.severityNotIn.contains row.severity) &&
    ((filters.search.filter (· ≠ [])).all fun search => row.mentions texts search)

/-- Apply the shared filter predicates. -/
def alertFilters (texts : TextSearch) (filters : AlertFilters) (row : AlertRow Key) : Bool :=
  filters.selects texts row &&
    filters.since.all fun since => since.micros ≤ row.occurredAt.micros

/-- What alerts are ordered by. -/
def alertOrder (entry : AlertId × AlertRow Key) : Int ×ₗ AlertId :=
  toLex (entry.2.occurredAt.micros, entry.1)

/-- The alerts of a filter, in the order they are stored. -/
def matchingAlerts (texts : TextSearch) (filters : AlertFilters) (board : AlertBoard Key) :
    List (AlertId × AlertRow Key) :=
  board.rows.filter fun entry => alertFilters texts filters entry.2

/-- Get alerts with optional filtering, latest-first by occurrence time. -/
def getAlerts (texts : TextSearch) (filters : AlertFilters) (limit offset : Nat)
    (board : AlertBoard Key) : List (AlertId × AlertRow Key) :=
  Paging.page alertOrder offset limit (matchingAlerts texts filters board)

/-- Count alerts per severity in one grouped query. -/
def countAlertsGroupedBySeverity (texts : TextSearch) (filters : AlertFilters)
    (board : AlertBoard Key) : Table Text Nat :=
  let severities := (matchingAlerts texts filters board).map fun entry => entry.2.severity
  Table.ofKeys severities.dedup severities.nodup_dedup fun severity => severities.count severity

/-! ### Windows of time -/

/-- A date that no calendar has. -/
inductive WindowError where
  | overflow
  deriving DecidableEq

/-- The start of a window of so many hours; no hours are all time. -/
def windowStart (now : Datetime.Reading) (hours : Nat) :
    Except WindowError (Option Datetime.Reading) :=
  if hours = 0 then .ok none
  else match Datetime.Reading.ofMicros (now.micros - hours * 3600000000) with
    | some start => .ok (some start)
    | none => .error .overflow

/-! ### The list of a program -/

/-- Serialize a stored datetime as an explicit-UTC ISO string. -/
def isoUtc : Option Datetime.Reading → Json
  | none => .null
  | some reading => .string (Json.text (isoformat reading.micros ++ "+00:00"))

/-- The entry of an alert in the list. -/
def alertEntry (entry : AlertId × AlertRow Key) : Json :=
  .object [
    (Json.text "id", .int entry.1),
    (Json.text "target_id", .int entry.2.targetId),
    (Json.text "target_name", .string entry.2.targetName),
    (Json.text "target_bmc", .string entry.2.targetBmc),
    (Json.text "severity", .string entry.2.severity),
    (Json.text "message", entry.2.message),
    (Json.text "message_id", entry.2.messageId),
    (Json.text "event_type", entry.2.eventType),
    (Json.text "origin_of_condition", entry.2.originOfCondition),
    (Json.text "event_timestamp", isoUtc entry.2.eventTimestamp),
    (Json.text "received_at", isoUtc (some entry.2.receivedAt)),
    (Json.text "raw_data", (entry.2.rawData.map Json.object).getD .null)]

/-- What a program asks for; the bounds are checked before. -/
structure ListParams where
  targetId : Option TargetId := none
  severity : Option Text := none
  hours : Nat := 168
  limit : Nat := 100
  bounded : 1 ≤ limit ∧ limit ≤ 1000 := by decide

/-- The filters of a program's list. -/
def ListParams.filters (params : ListParams) (since : Option Datetime.Reading) : AlertFilters where
  targetId := params.targetId
  severity := params.severity
  since := since

/-- Get alerts with optional filtering, from an offset on. -/
def listAlertsApi (texts : TextSearch) (now : Datetime.Reading) (params : ListParams)
    (offset : Nat) (board : AlertBoard Key) : Except WindowError (List Json) := do
  let since ← windowStart now params.hours
  return (getAlerts texts (params.filters since) params.limit offset board).map alertEntry

/-! ### The page of a browser -/

/-- How many alerts a page shows. -/
def pageSize : Nat := 100

/-- What a browser asks for; pages count from 1. -/
structure PageParams where
  hours : Nat := 168
  page : Nat := 1
  severity : Option Text := none
  targetId : Option Text := none
  q : Option Text := none
  positive : 1 ≤ page := by decide

/-- What the page shows. -/
structure AlertsView (Key : Type) where
  alerts : List (AlertId × AlertRow Key)
  windowCritical : Nat
  windowWarning : Nat
  selectedHours : Nat
  total : Nat
  page : Nat
  totalPages : Nat
  pageStart : Nat
  pageEnd : Nat
  fSeverity : Text
  fTargetId : Text
  fQ : Text
  alertStoreError : Bool

/-- The number in the form's field for a target, if it is one. -/
def coerceTargetId (raw : Option Text) : Option TargetId :=
  (raw.filter fun chars => Strings.strip chars ≠ []).bind Strings.toInt

namespace PageParams

variable (params : PageParams)

/-- The filters of the counts. -/
def base (since : Option Datetime.Reading) : AlertFilters where
  since := since
  targetId := coerceTargetId params.targetId
  search := params.q.filter (· ≠ [])

/-- The severity that the list is narrowed to. -/
def onlySeverity : Option Text :=
  params.severity.filter fun severity =>
    severity = Json.text "Critical" ∨ severity = Json.text "Warning"

/-- The filters of the list. -/
def filters (since : Option Datetime.Reading) : AlertFilters :=
  match params.onlySeverity with
  | some severity => { params.base since with severity := some severity }
  | none =>
    { params.base since with severityIn := [Json.text "Critical", Json.text "Warning"] }

/-- How many alerts the list has in all. -/
def total (windowCritical windowWarning : Nat) : Nat :=
  match params.onlySeverity with
  | some severity => if severity = Json.text "Critical" then windowCritical else windowWarning
  | none => windowCritical + windowWarning

/-- The view of some alerts from an offset on. -/
def view (windowCritical windowWarning total page totalPages offset : Nat)
    (alerts : List (AlertId × AlertRow Key)) : AlertsView Key where
  alerts := alerts
  windowCritical := windowCritical
  windowWarning := windowWarning
  selectedHours := params.hours
  total := total
  page := page
  totalPages := totalPages
  pageStart := if total = 0 then 0 else offset + 1
  pageEnd := offset + alerts.length
  fSeverity := params.severity.getD []
  fTargetId := ((coerceTargetId params.targetId).map Strings.decimal).getD []
  fQ := params.q.getD []
  alertStoreError := false

end PageParams

/-- How many pages so many alerts fill; there is always one. -/
def pagesFor (total : Nat) : Nat :=
  if total = 0 then 1 else max 1 ((total + (pageSize - 1)) / pageSize)

/-- Render the alerts page with server-side filtering and pagination. The alerts are counted first
and read later; nothing stands for a store that raises. -/
def alertsPage (texts : TextSearch) (now : Datetime.Reading) (params : PageParams)
    (counted listed : Option (AlertBoard Key)) : Except WindowError (AlertsView Key) := do
  let since ← windowStart now params.hours
  match counted, listed with
  | some counted, some listed =>
    let bySev := countAlertsGroupedBySeverity texts (params.base since) counted
    let windowCritical := (bySev.get (Json.text "Critical")).getD 0
    let windowWarning := (bySev.get (Json.text "Warning")).getD 0
    let total := params.total windowCritical windowWarning
    let totalPages := pagesFor total
    let page := min params.page totalPages
    let offset := (page - 1) * pageSize
    let alerts := getAlerts texts (params.filters since) pageSize offset listed
    return params.view windowCritical windowWarning total page totalPages offset alerts
  | _, _ => return { params.view 0 0 0 1 1 0 [] with alertStoreError := true }

/-- No two alerts have the same place in the order. -/
theorem nodup_alertOrder (texts : TextSearch) (filters : AlertFilters) (board : AlertBoard Key) :
    ((matchingAlerts texts filters board).map alertOrder).Nodup := by
  have numbers : ((board.rows.map alertOrder).map fun place => (ofLex place).2).Nodup := by
    rw [List.map_map]
    exact board.nodup
  exact numbers.of_map.sublist (List.filter_sublist.map alertOrder)

/-! ### Counts -/

theorem countAlertsGroupedBySeverity_get (texts : TextSearch) (filters : AlertFilters)
    (board : AlertBoard Key) (severity : Text) :
    ((countAlertsGroupedBySeverity texts filters board).get severity).getD 0 =
      ((matchingAlerts texts filters board).filter fun entry =>
        entry.2.severity = severity).length := by
  have counted : ((matchingAlerts texts filters board).map fun entry => entry.2.severity).count
      severity = ((matchingAlerts texts filters board).filter fun entry =>
        entry.2.severity = severity).length := by
    rw [List.count_eq_countP, List.countP_map, List.countP_eq_length_filter]
    refine congrArg List.length (List.filter_congr fun entry _ => ?_)
    exact Bool.eq_iff_iff.mpr (by simp)
  rw [← counted, countAlertsGroupedBySeverity]
  by_cases listed : severity ∈ (matchingAlerts texts filters board).map fun entry =>
      entry.2.severity
  · rw [Table.get_ofKeys _ _ (List.mem_dedup.mpr listed), Option.getD_some]
  · rw [Table.get_eq_none_iff.mpr (by simpa using listed), Option.getD_none,
      List.count_eq_zero_of_not_mem listed]

/-- Is a severity in the scope of the list? -/
def PageParams.shows (params : PageParams) (severity : Text) : Bool :=
  match params.onlySeverity with
  | some only => decide (severity = only)
  | none => decide (severity = Json.text "Critical") || decide (severity = Json.text "Warning")

/-- The alerts of the list are those of the window with a severity in scope. -/
theorem matchingAlerts_filters (texts : TextSearch) (params : PageParams)
    (since : Option Datetime.Reading) (board : AlertBoard Key) :
    matchingAlerts texts (params.filters since) board =
      (matchingAlerts texts (params.base since) board).filter fun entry =>
        params.shows entry.2.severity := by
  rw [matchingAlerts, matchingAlerts, List.filter_filter]
  refine List.filter_congr fun entry _ => ?_
  rw [PageParams.filters, PageParams.shows]
  cases only : params.onlySeverity with
  | some severity =>
    have filled : severity ≠ [] := by
      obtain ⟨-, scope⟩ := Option.filter_eq_some_iff.mp only
      rintro rfl
      exact absurd scope (by decide)
    simp [alertFilters, AlertFilters.selects, PageParams.base, filled, Bool.and_comm,
      Bool.and_left_comm, Bool.and_assoc]
  | none =>
    simp [alertFilters, AlertFilters.selects, PageParams.base, Bool.and_comm, Bool.and_left_comm,
      Bool.and_assoc]

theorem length_filter_or {Item : Type} {first second : Item → Bool} (items : List Item)
    (apart : ∀ item, first item = true → second item = false) :
    (items.filter fun item => first item || second item).length =
      (items.filter first).length + (items.filter second).length := by
  induction items with
  | nil => rfl
  | cons item rest inductionHypothesis =>
    cases one : first item with
    | true => simp [one, apart item one, inductionHypothesis, Nat.add_right_comm]
    | false => cases two : second item <;> simp [one, two, inductionHypothesis, Nat.add_assoc]

/-- The total of the list is the number of its alerts. -/
theorem total_eq_length (texts : TextSearch) (params : PageParams)
    (since : Option Datetime.Reading) (board : AlertBoard Key) :
    params.total
        (((countAlertsGroupedBySeverity texts (params.base since) board).get
          (Json.text "Critical")).getD 0)
        (((countAlertsGroupedBySeverity texts (params.base since) board).get
          (Json.text "Warning")).getD 0) =
      (matchingAlerts texts (params.filters since) board).length := by
  rw [matchingAlerts_filters, PageParams.total, countAlertsGroupedBySeverity_get,
    countAlertsGroupedBySeverity_get]
  simp only [PageParams.shows]
  cases only : params.onlySeverity with
  | some severity =>
    obtain ⟨-, scope⟩ := Option.filter_eq_some_iff.mp only
    rcases of_decide_eq_true scope with rfl | rfl
    · exact if_pos rfl
    · exact if_neg (by decide)
  | none =>
    refine (length_filter_or _ fun entry critical => ?_).symm
    rw [of_decide_eq_true critical]
    decide

/-! ### The pages at rest -/

/-- The request for a page; the first has index 0. -/
def PageParams.ofIndex (params : PageParams) (index : Nat) : PageParams :=
  { params with page := index + 1, positive := Nat.le_add_left 1 index }

/-- The alerts of a filter in the order of the list. -/
def orderedAlerts (texts : TextSearch) (params : PageParams) (since : Option Datetime.Reading)
    (board : AlertBoard Key) : List (AlertId × AlertRow Key) :=
  SortedList.descending alertOrder (matchingAlerts texts (params.filters since) board)

/-- What a page shows of a store at rest. -/
def PageOf (alerts : List (AlertId × AlertRow Key)) (index : Nat) (view : AlertsView Key) : Prop :=
  view.total = alerts.length ∧ view.totalPages = pagesFor alerts.length ∧
    view.page = min (index + 1) view.totalPages ∧
    view.alerts = (alerts.drop ((view.page - 1) * pageSize)).take pageSize ∧
    view.pageEnd = (view.page - 1) * pageSize + view.alerts.length ∧ view.alertStoreError = false

theorem alertsPage_at_rest {texts : TextSearch} {now : Datetime.Reading} {params : PageParams}
    {since : Option Datetime.Reading} (window : windowStart now params.hours = .ok since)
    (board : AlertBoard Key) (index : Nat) :
    ∃ view, alertsPage texts now (params.ofIndex index) (some board) (some board) = .ok view ∧
      PageOf (orderedAlerts texts params since board) index view := by
  have total := total_eq_length texts params since board
  have size : (orderedAlerts texts params since board).length =
      (matchingAlerts texts (params.filters since) board).length :=
    (SortedList.descending_perm _ _).length_eq
  rw [alertsPage]
  simp only [PageParams.ofIndex, window, bind, Except.bind]
  refine ⟨_, rfl, ?_⟩
  rw [← size] at total
  refine ⟨total, congrArg pagesFor total, rfl, ?_, rfl, rfl⟩
  rfl

/-- The alerts that a page shows. -/
def shownOn (texts : TextSearch) (now : Datetime.Reading) (params : PageParams)
    (board : AlertBoard Key) (index : Nat) : List (AlertId × AlertRow Key) :=
  match alertsPage texts now (params.ofIndex index) (some board) (some board) with
  | .ok view => view.alerts
  | .error _ => []

/-- A page that there is shows its hundred of the alerts. -/
theorem shownOn_eq {texts : TextSearch} {now : Datetime.Reading} {params : PageParams}
    {since : Option Datetime.Reading} (window : windowStart now params.hours = .ok since)
    (board : AlertBoard Key) {index : Nat}
    (there : index < pagesFor (orderedAlerts texts params since board).length) :
    shownOn texts now params board index =
      ((orderedAlerts texts params since board).drop (index * pageSize)).take pageSize := by
  obtain ⟨view, shown, -, pages, page, alerts, -⟩ := alertsPage_at_rest window board index
  rw [pages, min_eq_left there] at page
  rw [shownOn, shown]
  simp only [alerts, page, Nat.add_sub_cancel]

/-- At rest the page agrees with its counts: whatever page is asked for, the total is the number of
the alerts of the filter and the page is one that there is, the last one where it is asked for one
behind it. The pages in order are all these alerts, the latest first, each once. -/
theorem alertsPage_pages {texts : TextSearch} {now : Datetime.Reading} {params : PageParams}
    {since : Option Datetime.Reading} (window : windowStart now params.hours = .ok since)
    (board : AlertBoard Key) :
    (∀ index, ∃ view,
        alertsPage texts now (params.ofIndex index) (some board) (some board) = .ok view ∧
          PageOf (orderedAlerts texts params since board) index view) ∧
      (List.range (pagesFor (orderedAlerts texts params since board).length)).flatMap
          (shownOn texts now params board) = orderedAlerts texts params since board ∧
      (orderedAlerts texts params since board).Perm
        (board.rows.filter fun entry => alertFilters texts (params.filters since) entry.2) ∧
      (orderedAlerts texts params since board).Pairwise
        fun earlier later => alertOrder later < alertOrder earlier := by
  refine ⟨alertsPage_at_rest window board, ?_, SortedList.descending_perm _ _, ?_⟩
  · have each : (List.range (pagesFor (orderedAlerts texts params since board).length)).map
        (shownOn texts now params board) =
          (List.range (pagesFor (orderedAlerts texts params since board).length)).map fun index =>
            ((orderedAlerts texts params since board).drop (index * pageSize)).take pageSize :=
      List.map_congr_left fun index member => shownOn_eq window board (List.mem_range.mp member)
    rw [List.flatMap_def, each, SortedList.flatten_map_chunk]
    refine List.take_of_length_le ?_
    rw [pagesFor, pageSize]
    split
    · omega
    · omega
  · exact Paging.descending_strict (nodup_alertOrder texts _ board)

theorem minute_inCalendar (minute : Nat) :
    Datetime.minReading ≤ 1700000000000000 + 60000000 * ((minute % 1000 : Nat) : Int) ∧
      1700000000000000 + 60000000 * ((minute % 1000 : Nat) : Int) ≤ Datetime.maxReading := by
  rw [Datetime.minReading, Datetime.maxReading]
  omega

/-- So many minutes, below a thousand, after a point in 2023. -/
def minuteReading (minute : Nat) : Datetime.Reading where
  micros := 1700000000000000 + 60000000 * ((minute % 1000 : Nat) : Int)
  inCalendar := minute_inCalendar minute

/-- An alert that occurred then, and was received then. -/
def minuteAlert (severity : String) (minute : Nat) : AlertRow Unit where
  targetId := 1
  targetName := Json.text "node-1"
  targetBmc := Json.text "bmc-1"
  severity := Json.text severity
  message := .string (Json.text "Fan failed")
  messageId := .null
  eventType := .string (Json.text "Alert")
  originOfCondition := .null
  eventTimestamp := none
  receivedAt := minuteReading minute
  occurredAt := minuteReading minute
  dedupKey := none
  rawData := none
  cperStatus := none

/-- Four alerts, of which one is out of scope. -/
def minuteBoard : AlertBoard Unit where
  rows := [
    (1, minuteAlert "Critical" 0),
    (2, minuteAlert "Critical" 1),
    (3, minuteAlert "OK" 2),
    (4, minuteAlert "Warning" 3)]
  nodup := by decide

/-- A search that finds nothing. -/
def noSearch : TextSearch := ⟨id, id, fun _ _ => false⟩

/-- One alert a minute for two hundred minutes, by turns critical and a warning. -/
def busyBoard : AlertBoard Unit where
  rows := (List.range' 1 200).map fun (minute : Nat) =>
    (minute, minuteAlert (if minute % 2 = 0 then "Critical" else "Warning") minute)
  nodup := by
    rw [List.map_map]
    exact List.Nodup.map Nat.cast_injective List.nodup_range'

/-- The alerts of the last two hours are on two pages. -/
theorem alertsPage_pages_busy :
    pagesFor (orderedAlerts noSearch { hours := 2 } (some (minuteReading 80))
        busyBoard).length = 2 ∧
      (∀ index, ∃ view,
        alertsPage noSearch (minuteReading 200) (PageParams.ofIndex { hours := 2 } index)
            (some busyBoard) (some busyBoard) = .ok view ∧
          PageOf (orderedAlerts noSearch { hours := 2 } (some (minuteReading 80)) busyBoard)
            index view) ∧
      (List.range (pagesFor
          (orderedAlerts noSearch { hours := 2 } (some (minuteReading 80))
            busyBoard).length)).flatMap
          (shownOn noSearch (minuteReading 200) { hours := 2 } busyBoard) =
        orderedAlerts noSearch { hours := 2 } (some (minuteReading 80)) busyBoard ∧
      (orderedAlerts noSearch { hours := 2 } (some (minuteReading 80)) busyBoard).Perm
        (busyBoard.rows.filter fun entry =>
          alertFilters noSearch (PageParams.filters { hours := 2 } (some (minuteReading 80)))
            entry.2) ∧
      (orderedAlerts noSearch { hours := 2 } (some (minuteReading 80)) busyBoard).Pairwise
        fun earlier later => alertOrder later < alertOrder earlier := by
  refine ⟨?_, alertsPage_pages rfl busyBoard⟩
  rw [orderedAlerts, (SortedList.descending_perm _ _).length_eq]
  decide +kernel

end Gyanam
