/-
This file proves that specific reports win over reports of everything. The union
of the discovered and the default reports keeps the first report of each URI, and
the reports of everything come last. Among the reports of a poll, each property
is extracted from the first report that has it. A property of a specific report
is therefore extracted from no report of everything.
-/

import Gyanam.Extraction

namespace Gyanam

/-! ### The union of the reports -/

/-- Whether a value is a text or falsy. -/
def textOrFalsy : Json → Bool
  | .string _ => true
  | value => !value.truthy

/-- A report whose URI and type are texts, where it has them. -/
def Report.Typed (report : Report) : Prop :=
  textOrFalsy (uriOf report) = true ∧ textOrFalsy (reportTypeOf report) = true

/-- The text of a value, empty for anything else. -/
def textOf : Json → Json.Text
  | .string chars => chars
  | _ => []

/-- Whether a report is a report of everything, by its texts. -/
def Report.aggregate (report : Report) : Bool :=
  let reportType := casefold (textOf (reportTypeOf report))
  decide (reportType = Json.text "all" ∨ reportType = Json.text "comprehensive" ∨
    Json.text "/all" <:+ casefold (textOf (uriOf report)))

/-- The URI of a report, empty where it has none. -/
def Report.uri (report : Report) : Json.Text := textOf (uriOf report)

/-- All reports, the discovered ones first. -/
def allReports (discovered : List Json) (defaults : List MetricReportConfig) : List Report :=
  discovered.map .decoded ++ defaults.map .config

/-- The first report of each URI. -/
def distinctReports (reports : List Report) : List Report :=
  FirstClaim.firsts Report.uri (reports.filter fun report => decide (report.uri ≠ []))

theorem truthy_of_textOrFalsy {value : Json} (typed : textOrFalsy value = true) :
    value.truthy = decide (textOf value ≠ []) := by
  cases value with
  | string chars => cases chars <;> rfl
  | null => rfl
  | bool | int | float | array | object =>
    rw [textOrFalsy, Bool.not_eq_true'] at typed
    · exact typed
    · exact fun _ absurdity => Json.noConfusion absurdity

theorem eq_string_of_textOf {value : Json} (some : textOf value ≠ []) :
    value = .string (textOf value) := by
  cases value with
  | string chars => rfl
  | null | bool | int | float | array | object => exact absurd rfl some

theorem foldedOrEmpty_of_text {value : Json} (typed : textOrFalsy value = true) :
    foldedOrEmpty value = .ok (casefold (textOf value)) := by
  unfold foldedOrEmpty
  rw [truthy_of_textOrFalsy typed]
  by_cases empty : textOf value = []
  · rw [if_neg (by simpa using empty), empty]
    rfl
  · rw [if_pos (decide_eq_true empty), eq_string_of_textOf empty]
    rfl

theorem isAggregate_of_typed {report : Report} (typed : report.Typed) :
    isAggregate report = .ok report.aggregate := by
  unfold isAggregate Report.aggregate
  rw [foldedOrEmpty_of_text typed.1, foldedOrEmpty_of_text typed.2]
  show (if _ then Except.ok true else Except.ok (decide _)) = Except.ok _
  split
  · rename_i named
    simp only [← or_assoc, named, true_or, decide_true]
  · rename_i other
    simp only [← or_assoc, other, false_or]

theorem keepNew_cons {report : Report} (typed : report.Typed) (seen : List HashKey)
    (rest : List Report) :
    keepNew seen (report :: rest) =
      if report.uri = [] ∨ HashKey.text report.uri ∈ seen then keepNew seen rest
      else (report :: ·) <$> keepNew (seen ++ [.text report.uri]) rest := by
  have uri : textOf (uriOf report) = report.uri := rfl
  rw [keepNew, truthy_of_textOrFalsy typed.1, uri]
  by_cases absent : report.uri = []
  · rw [if_neg (by simpa using absent), if_pos (.inl absent)]
  · rw [if_pos (decide_eq_true absent), eq_string_of_textOf absent, uri]
    show (if HashKey.text report.uri ∈ seen then keepNew seen rest
      else keepNew (seen ++ [.text report.uri]) rest >>= fun kept => .ok (report :: kept)) = _
    by_cases old : HashKey.text report.uri ∈ seen
    · rw [if_pos old, if_pos (.inr old)]
    · rw [if_neg old, if_neg (not_or.mpr ⟨absent, old⟩)]
      cases keepNew (seen ++ [.text report.uri]) rest <;> rfl

/-- The entries that are new are the first ones of their URIs, less what is seen. -/
theorem keepNew_of_typed {reports : List Report} (typed : ∀ report ∈ reports, report.Typed)
    (seen : List HashKey) :
    keepNew seen reports =
      .ok ((distinctReports reports).filter fun report =>
        decide (¬ HashKey.text report.uri ∈ seen)) := by
  induction reports generalizing seen with
  | nil => rfl
  | cons report rest inductionHypothesis =>
    obtain ⟨head, tail⟩ := List.forall_mem_cons.mp typed
    rw [keepNew_cons head, distinctReports, List.filter_cons, inductionHypothesis tail,
      inductionHypothesis tail]
    by_cases absent : report.uri = []
    · rw [if_pos (.inl absent), if_neg (by simpa using absent)]
      rfl
    · rw [if_pos (decide_eq_true absent), FirstClaim.filter_firsts_cons Report.uri
        (fun uri => HashKey.text uri ∈ seen), ← distinctReports]
      by_cases old : HashKey.text report.uri ∈ seen
      · rw [if_pos (.inr old), if_pos old]
      · rw [if_neg (not_or.mpr ⟨absent, old⟩), if_neg old]
        refine congrArg (fun kept => Except.ok (report :: kept))
          (List.filter_congr fun other _ => ?_)
        simp only [List.mem_append, List.mem_singleton, HashKey.text.injEq]

theorem sortBy_of_typed {reports : List Report} (typed : ∀ report ∈ reports, report.Typed) :
    sortBy isAggregate reports =
      .ok ((reports.filter fun report => !report.aggregate) ++
        reports.filter Report.aggregate) := by
  have keyed : (reports.mapM fun report => do return (← isAggregate report, report)) =
      .ok (reports.map fun report => (report.aggregate, report)) :=
    Fallible.mapM_eq_map fun report member => by
      rw [isAggregate_of_typed (typed report member)]; rfl
  rw [sortBy, keyed]
  show Except.ok _ = Except.ok _
  simp only [List.filter_map, List.map_append, List.map_map, Function.comp_def, List.map_id']

/-- The union keeps the first report of each URI, the reports of everything last. -/
theorem mergeReports_of_typed {discovered : List Json} (defaults : List MetricReportConfig)
    (typed : ∀ value ∈ discovered, (Report.decoded value).Typed) :
    mergeReports (.array discovered) defaults =
      .ok (((distinctReports (allReports discovered defaults)).filter fun report =>
          !report.aggregate) ++
        (distinctReports (allReports discovered defaults)).filter Report.aggregate) := by
  have all : ∀ report ∈ allReports discovered defaults, report.Typed := fun report member => by
    obtain decoded | configured := List.mem_append.mp member
    · obtain ⟨value, listed, rfl⟩ := List.mem_map.mp decoded
      exact typed value listed
    · obtain ⟨cfg, -, rfl⟩ := List.mem_map.mp configured
      exact ⟨rfl, rfl⟩
  have kept : ∀ report ∈ distinctReports (allReports discovered defaults), report.Typed :=
    fun report member => all report (List.mem_filter.mp
      ((FirstClaim.firsts_sublist _ _).subset member)).1
  show (keepNew [] (allReports discovered defaults) >>= sortBy isAggregate) = _
  rw [keepNew_of_typed all]
  simp only [List.not_mem_nil, not_false_eq_true, decide_true, List.filter_true]
  exact sortBy_of_typed kept

/-- What the union of two lists of reports is: the first report of each URI, in order, except that
the reports of everything come last. -/
structure UnionOf (discovered : List Json) (defaults : List MetricReportConfig)
    (merged : List Report) : Prop where
  ordered : merged =
    ((distinctReports (allReports discovered defaults)).filter fun report => !report.aggregate) ++
      (distinctReports (allReports discovered defaults)).filter Report.aggregate
  once : (merged.map Report.uri).Nodup
  covered : ∀ uri, uri ∈ merged.map Report.uri ↔
    uri ≠ [] ∧ uri ∈ (allReports discovered defaults).map Report.uri
  first : ∀ before report after, allReports discovered defaults = before ++ report :: after →
    report.uri ≠ [] → (∀ earlier ∈ before, earlier.uri ≠ report.uri) → report ∈ merged

theorem mem_map_uri_distinctReports {reports : List Report} {uri : Json.Text} :
    uri ∈ (distinctReports reports).map Report.uri ↔ uri ≠ [] ∧ uri ∈ reports.map Report.uri := by
  rw [distinctReports, FirstClaim.mem_map_firsts, List.mem_map, List.mem_map]
  constructor
  · rintro ⟨report, member, rfl⟩
    obtain ⟨listed, named⟩ := List.mem_filter.mp member
    exact ⟨of_decide_eq_true named, report, listed, rfl⟩
  · rintro ⟨named, report, listed, rfl⟩
    exact ⟨report, List.mem_filter.mpr ⟨listed, decide_eq_true named⟩, rfl⟩

theorem mem_distinctReports {before after : List Report} {report : Report}
    (named : report.uri ≠ []) (fresh : ∀ earlier ∈ before, earlier.uri ≠ report.uri) :
    report ∈ distinctReports (before ++ report :: after) := by
  rw [distinctReports, List.filter_append, List.filter_cons, if_pos (decide_eq_true named)]
  exact FirstClaim.mem_firsts fun earlier member => fresh earlier (List.mem_filter.mp member).1

/-- Putting the reports of everything last only reorders. -/
theorem aggregates_last_perm (reports : List Report) :
    ((reports.filter fun report => !report.aggregate) ++ reports.filter Report.aggregate).Perm
      reports :=
  List.perm_append_comm.trans (List.filter_append_perm Report.aggregate reports)

theorem unionOf_distinctReports (discovered : List Json) (defaults : List MetricReportConfig) :
    UnionOf discovered defaults
      (((distinctReports (allReports discovered defaults)).filter fun report =>
          !report.aggregate) ++
        (distinctReports (allReports discovered defaults)).filter Report.aggregate) where
  ordered := rfl
  once := ((aggregates_last_perm _).map Report.uri).nodup_iff.mpr (FirstClaim.firsts_nodup _ _)
  covered uri := by
    rw [((aggregates_last_perm _).map Report.uri).mem_iff, mem_map_uri_distinctReports]
  first before report after split named fresh := by
    rw [(aggregates_last_perm _).mem_iff, split]
    exact mem_distinctReports named fresh

/-! ### The first report of a property -/

/-- A report that was fetched, as the extraction takes it. -/
def asData (report : Report × Json) : Json × Json := (reportTypeOf report.1, report.2)

/-- What is extracted from reports that were fetched. Each report passes the entries whose property
no report before it has, in their order; each property is passed in some report; and a report of
everything passes no property of a specific report. -/
structure FirstReportWins (parser : MetricParser) (context : ReportContext)
    (fetched : List (Report × Json)) : Prop where
  passed : ∀ before report after, fetched = before ++ report :: after →
    ∃ members values, readReport report.2 = .ok (members, values) ∧
      (processReports parser context [] (fetched.map asData))[before.length]? =
        some (emitReport parser context (reportTypeOf report.1) members
          (values.filter fun entry => entry.1.all fun property =>
            decide (∀ earlier ∈ before, property ∉ propertiesOf (asData earlier))))
  complete : ∀ owner ∈ fetched, ∀ property ∈ propertiesOf (asData owner),
    ∃ before report after, fetched = before ++ report :: after ∧
      property ∈ propertiesOf (asData report) ∧
      ∀ earlier ∈ before, property ∉ propertiesOf (asData earlier)
  specific : ∀ before report after, fetched = before ++ report :: after →
    report.1.aggregate = true → ∀ single ∈ fetched, single.1.aggregate = false →
      ∀ property ∈ propertiesOf (asData single),
        ∃ earlier ∈ before, property ∈ propertiesOf (asData earlier)

theorem passedEntries_map_asData (before : List (Report × Json)) (report : Json × Json) :
    passedEntries (before.map asData) report =
      (entriesOf report).filter fun entry => entry.1.all fun property =>
        decide (∀ earlier ∈ before, property ∉ propertiesOf (asData earlier)) := by
  refine List.filter_congr fun entry _ => ?_
  cases entry.1 with
  | none => rfl
  | some property =>
    rw [Option.all_some, Option.all_some, decide_eq_decide]
    simp only [allProperties, List.mem_flatMap, List.mem_map, exists_exists_and_eq_and, not_exists,
      not_and]

/-- A report that can be read passes the entries whose property no report before it has. -/
theorem processReports_passed (parser : MetricParser) (context : ReportContext)
    {before after : List (Report × Json)} {report : Report × Json}
    {members : List (Json.Text × Json)} {values : List ReportEntry}
    (read : readReport report.2 = .ok (members, values)) :
    (processReports parser context [] ((before ++ report :: after).map asData))[before.length]? =
      some (emitReport parser context (reportTypeOf report.1) members
        (values.filter fun entry => entry.1.all fun property =>
          decide (∀ earlier ∈ before, property ∉ propertiesOf (asData earlier)))) := by
  have readData : readReport (asData report).2 = .ok (members, values) := read
  have values : entriesOf (asData report) = values := by rw [entriesOf, readData]
  rw [List.map_append, List.map_cons, ← List.length_map asData, processReports_at, outcomeAfter,
    passedEntries_map_asData, values, readData]
  rfl

/-- Before a report of everything come all the specific ones. -/
theorem specific_before {reports before after : List (Report × Json)} {report : Report × Json}
    {merged : List Report}
    (listed : (reports.map Prod.fst).Sublist
      ((merged.filter fun report => !report.aggregate) ++ merged.filter Report.aggregate))
    (split : reports = before ++ report :: after) (everything : report.1.aggregate = true)
    {single : Report × Json} (member : single ∈ reports) (specific : single.1.aggregate = false) :
    single ∈ before := by
  have ordered : ((merged.filter fun report => !report.aggregate) ++
      merged.filter Report.aggregate).Pairwise
        fun first second => first.aggregate = true → second.aggregate = true := by
    refine List.pairwise_append.mpr ⟨?_, ?_, fun first firstly second secondly _ =>
      (List.mem_filter.mp secondly).2⟩
    · refine List.pairwise_of_forall_mem_list fun first firstly second _ aggregate => ?_
      have single := (List.mem_filter.mp firstly).2
      rw [aggregate] at single
      cases single
    · exact List.pairwise_of_forall_mem_list fun _ _ second secondly _ =>
        (List.mem_filter.mp secondly).2
  have kept := ordered.sublist listed
  rw [split, List.map_append, List.map_cons, List.pairwise_append, List.pairwise_cons] at kept
  rw [split, List.mem_append, List.mem_cons] at member
  obtain earlier | rfl | later := member
  · exact earlier
  · rw [everything] at specific
    cases specific
  · rw [kept.2.1.1 single.1 (List.mem_map_of_mem later) everything] at specific
    cases specific

/-- Specific reports win over reports of everything. -/
theorem specific_reports_win (parser : MetricParser) (context : ReportContext)
    (discovered : List Json) (defaults : List MetricReportConfig)
    (typed : ∀ value ∈ discovered, (Report.decoded value).Typed) :
    ∃ merged, mergeReports (.array discovered) defaults = .ok merged ∧
      UnionOf discovered defaults merged ∧
      ∀ fetched : List (Report × Json), (fetched.map Prod.fst).Sublist merged →
        (∀ report ∈ fetched, ∃ read, readReport report.2 = .ok read) →
        FirstReportWins parser context fetched := by
  refine ⟨_, mergeReports_of_typed defaults typed, unionOf_distinctReports discovered defaults,
    fun fetched listed readable => ⟨?_, ?_, ?_⟩⟩
  · intro before report after split
    obtain ⟨⟨members, values⟩, read⟩ := readable report (by rw [split]; simp)
    rw [split]
    exact ⟨members, values, read, processReports_passed parser context read⟩
  · intro owner member property owned
    exact FirstClaim.exists_first member owned
  · intro before report after split everything single member specific property owned
    exact ⟨single, specific_before listed split everything member specific, owned⟩

/-- A discovered report. -/
def listedReport (uri reportType : String) : Json :=
  .object [(Json.text "uri", .string (Json.text uri)),
    (Json.text "report_type", .string (Json.text reportType))]

/-- A body with one entry. -/
def oneEntryBody : Json :=
  .object [(metricValues, .array [
    .object [(Json.text "MetricProperty", .string (Json.text "/p"))]])]

/-- A report of everything is discovered before a specific one, and also a default. The specific one
comes first, and has the property of both. -/
theorem sampleReports_win :
    ∃ merged, mergeReports
        (.array [listedReport "/r/all" "all", listedReport "/r/power" "power"])
        [⟨Json.text "/r/all", Json.text "all"⟩] = .ok merged ∧
      merged.map Report.uri = [Json.text "/r/power", Json.text "/r/all"] ∧
      FirstReportWins ⟨fun _ _ _ _ => .ok [], fun _ _ _ _ => .ok []⟩ ⟨Json.text "bmc", [], 0⟩
        [(.decoded (listedReport "/r/power" "power"), oneEntryBody),
          (.decoded (listedReport "/r/all" "all"), oneEntryBody)] := by
  obtain ⟨merged, returned, union, wins⟩ := specific_reports_win
    ⟨fun _ _ _ _ => .ok [], fun _ _ _ _ => .ok []⟩ ⟨Json.text "bmc", [], 0⟩
    [listedReport "/r/all" "all", listedReport "/r/power" "power"]
    [⟨Json.text "/r/all", Json.text "all"⟩] (by simp [Report.Typed]; decide)
  have listed : merged = [.decoded (listedReport "/r/power" "power"),
      .decoded (listedReport "/r/all" "all")] := union.ordered.trans rfl
  refine ⟨merged, returned, by rw [listed]; rfl, wins _ ?_ ?_⟩
  · rw [listed]
    exact List.Sublist.refl _
  · intro report member
    obtain rfl | rfl : report = _ ∨ report = _ := by simpa using member
    · exact ⟨_, rfl⟩
    · exact ⟨_, rfl⟩

end Gyanam
