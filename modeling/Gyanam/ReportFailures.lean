/-
This file settles what a failed report costs. A report that the extractor raises
on has claimed its properties already, so the later reports give nothing for
them. Without the failed report they would: the reports that succeed keep their
metrics only if each property that they share with an earlier report is also one
of an earlier report that succeeds.
-/

import Gyanam.Extractor

namespace Gyanam

/-! ### Failures -/

/-- The extractor raises on a body with some tags exactly where a pattern of failures says. -/
def MetricParser.FailsOn (parser : MetricParser) (context : ReportContext)
    (fails : Json → Tags → Bool) : Prop :=
  ∀ data tags, (∃ error, parser.extract data context.host tags context.timestamp = .error error) ↔
    fails data tags = true

/-- Whether a report fails when it comes after other reports. -/
def reportFails (context : ReportContext) (fails : Json → Tags → Bool)
    (before : List (Json × Json)) (report : Json × Json) : Bool :=
  match readReport report.2 with
  | .error _ => true
  | .ok (members, _) =>
    !(passedEntries before report).isEmpty &&
      fails (withEntries members (passedEntries before report)) (context.reportTags report.1)

/-- The reports that do not fail, when all come after other reports. -/
def survivorsAfter (context : ReportContext) (fails : Json → Tags → Bool) :
    List (Json × Json) → List (Json × Json) → List (Json × Json)
  | _, [] => []
  | before, report :: rest =>
    if reportFails context fails before report then
      survivorsAfter context fails (before ++ [report]) rest
    else report :: survivorsAfter context fails (before ++ [report]) rest

/-- The reports of a list that do not fail. -/
def survivors (context : ReportContext) (fails : Json → Tags → Bool)
    (reports : List (Json × Json)) : List (Json × Json) :=
  survivorsAfter context fails [] reports

/-! ### The run without the failed reports -/

/-- The reports that succeed, each with its metrics. -/
def succeededOf (reports : List (Json × Json)) (outcomes : List (Except PollError (List Metric))) :
    List ((Json × Json) × List Metric) :=
  (reports.zip outcomes).filterMap fun entry =>
    match entry.2 with
    | .ok metrics => some (entry.1, metrics)
    | .error _ => none

/-- The reports of a run that succeed, each with its metrics. -/
def succeeded (parser : MetricParser) (context : ReportContext) (reports : List (Json × Json)) :
    List ((Json × Json) × List Metric) :=
  succeededOf reports (processReports parser context [] reports)

/-- The reports that succeed give the same metrics in a run without the failed ones. -/
def FailuresIsolated (parser : MetricParser) (context : ReportContext)
    (reports : List (Json × Json)) : Prop :=
  (processReports parser context [] ((succeeded parser context reports).map Prod.fst)).map
      metricsOf =
    (succeeded parser context reports).map Prod.snd

/-- What a report that succeeds shares with a failed one before it, it also shares with a successful
one before it. A report with nothing left to extract, and on which the extractor would raise without
the failed reports, gives nothing either way. -/
def Unspoiled (context : ReportContext) (fails : Json → Tags → Bool)
    (reports : List (Json × Json)) : Prop :=
  ∀ before report after, reports = before ++ report :: after →
    reportFails context fails before report = false →
      (∀ key ∈ propertiesOf report, key ∈ allProperties before →
        key ∈ allProperties (survivors context fails before)) ∨
      passedEntries before report = [] ∧
        reportFails context fails (survivors context fails before) report = true

section Survivors

variable {parser : MetricParser} {context : ReportContext} {fails : Json → Tags → Bool}

theorem parse_raises_iff (pattern : parser.FailsOn context fails) (data : Json) (tags : Tags) :
    (∃ error, parser.parse data context.host tags context.timestamp = .error error) ↔
      fails data tags = true := by
  rw [← pattern data tags, MetricParser.parse]
  cases parser.extract data context.host tags context.timestamp with
  | error error => exact Iff.rfl
  | ok extracted =>
    cases parser.discover data context.host tags context.timestamp <;>
      simp [bind, Except.bind, pure, Except.pure]

/-- A report fails where the pattern says. -/
theorem outcomeAfter_raises_iff (pattern : parser.FailsOn context fails)
    (before : List (Json × Json)) (report : Json × Json) :
    (∃ error, outcomeAfter parser context before report = .error error) ↔
      reportFails context fails before report = true := by
  unfold outcomeAfter reportFails
  cases readReport report.2 with
  | error error => exact iff_of_true ⟨error, rfl⟩ rfl
  | ok read =>
    show (∃ error, emitReport parser context report.1 read.1 (passedEntries before report) =
      .error error) ↔ _
    unfold emitReport
    cases empty : (passedEntries before report).isEmpty with
    | true => simp
    | false => simpa [empty] using parse_raises_iff pattern _ _

theorem outcomeAfter_ok (pattern : parser.FailsOn context fails) {before : List (Json × Json)}
    {report : Json × Json} (survives : reportFails context fails before report = false) :
    outcomeAfter parser context before report =
      .ok (metricsOf (outcomeAfter parser context before report)) := by
  cases outcome : outcomeAfter parser context before report with
  | ok metrics => rfl
  | error error =>
    rw [(outcomeAfter_raises_iff pattern before report).mp ⟨error, outcome⟩] at survives
    cases survives

theorem metricsOf_outcomeAfter_of_fails (pattern : parser.FailsOn context fails)
    {before : List (Json × Json)} {report : Json × Json}
    (failed : reportFails context fails before report = true) :
    metricsOf (outcomeAfter parser context before report) = [] := by
  obtain ⟨error, raised⟩ := (outcomeAfter_raises_iff pattern before report).mpr failed
  rw [raised]
  rfl

theorem metricsOf_of_nothingLeft {before : List (Json × Json)} {report : Json × Json}
    (nothing : passedEntries before report = []) :
    metricsOf (outcomeAfter parser context before report) = [] := by
  unfold outcomeAfter
  rw [nothing]
  cases readReport report.2 <;> rfl

theorem succeededOf_cons (pattern : parser.FailsOn context fails) (before : List (Json × Json))
    (report : Json × Json) (rest : List (Json × Json)) :
    succeededOf (report :: rest) (outcomesAfter parser context before (report :: rest)) =
      if reportFails context fails before report then
        succeededOf rest (outcomesAfter parser context (before ++ [report]) rest)
      else (report, metricsOf (outcomeAfter parser context before report)) ::
        succeededOf rest (outcomesAfter parser context (before ++ [report]) rest) := by
  unfold succeededOf
  rw [outcomesAfter, List.zip_cons_cons, List.filterMap_cons]
  cases failed : reportFails context fails before report with
  | true =>
    obtain ⟨error, raised⟩ := (outcomeAfter_raises_iff pattern before report).mpr failed
    simp [raised]
  | false =>
    rw [outcomeAfter_ok pattern failed]
    rfl

/-- The reports that succeed are the survivors of the pattern. -/
theorem map_fst_succeededOf (pattern : parser.FailsOn context fails)
    (before reports : List (Json × Json)) :
    (succeededOf reports (outcomesAfter parser context before reports)).map Prod.fst =
      survivorsAfter context fails before reports := by
  induction reports generalizing before with
  | nil => rfl
  | cons report rest inductionHypothesis =>
    rw [succeededOf_cons pattern, survivorsAfter]
    split
    · exact inductionHypothesis _
    · rw [List.map_cons, inductionHypothesis]

/-- A report that succeeds gives the same metrics after the reports before it and after the
survivors of these. -/
def Agrees (parser : MetricParser) (context : ReportContext) (fails : Json → Tags → Bool)
    (before kept earlier : List (Json × Json)) (report : Json × Json) : Prop :=
  reportFails context fails (before ++ earlier) report = false →
    metricsOf (outcomeAfter parser context (kept ++ survivorsAfter context fails before earlier)
        report) =
      metricsOf (outcomeAfter parser context (before ++ earlier) report)

theorem agrees_cons (before kept : List (Json × Json)) (first : Json × Json) :
    (fun earlier => Agrees parser context fails before kept (first :: earlier)) =
      Agrees parser context fails (before ++ [first])
        (if reportFails context fails before first then kept else kept ++ [first]) := by
  funext earlier report
  unfold Agrees
  rw [survivorsAfter, List.append_cons before first earlier]
  split
  · rfl
  · rw [List.append_cons kept first]

/-- The runs agree exactly when they do for each report. -/
theorem outcomes_eq_iff (pattern : parser.FailsOn context fails)
    (before kept reports : List (Json × Json)) :
    (outcomesAfter parser context kept (survivorsAfter context fails before reports)).map
      metricsOf =
        (succeededOf reports (outcomesAfter parser context before reports)).map Prod.snd ↔
      FirstClaim.Each (Agrees parser context fails before kept) reports := by
  induction reports generalizing before kept with
  | nil => exact iff_of_true rfl (FirstClaim.each_nil _)
  | cons report rest inductionHypothesis =>
    rw [succeededOf_cons pattern, FirstClaim.each_cons, agrees_cons, survivorsAfter, Agrees,
      survivorsAfter, List.append_nil, List.append_nil]
    cases failed : reportFails context fails before report with
    | true =>
      rw [if_pos rfl, if_pos rfl, if_pos rfl, inductionHypothesis]
      exact (and_iff_right fun survives => absurd survives (by simp)).symm
    | false =>
      rw [if_neg Bool.false_ne_true, if_neg Bool.false_ne_true, if_neg Bool.false_ne_true,
        outcomesAfter, List.map_cons, List.map_cons, List.cons.injEq, inductionHypothesis]
      exact and_congr_left fun _ => (true_imp_iff.symm.trans (by simp))

/-- What survives is among the reports. -/
theorem survivorsAfter_subset (before reports : List (Json × Json)) :
    survivorsAfter context fails before reports ⊆ reports := by
  induction reports generalizing before with
  | nil => exact List.Subset.refl _
  | cons report rest inductionHypothesis =>
    rw [survivorsAfter]
    split
    · exact List.subset_cons_of_subset _ (inductionHypothesis _)
    · exact List.cons_subset_cons _ (inductionHypothesis _)

theorem allProperties_survivors_subset (before : List (Json × Json)) :
    allProperties (survivors context fails before) ⊆ allProperties before := fun key member => by
  obtain ⟨report, survived, owned⟩ := List.mem_flatMap.mp member
  exact List.mem_flatMap.mpr ⟨report, survivorsAfter_subset [] before survived, owned⟩

end Survivors

/-! ### Parsers with the same failures -/

/-- The entries of a report are determined by the body they make. -/
theorem withEntries_inj {report : Json × Json} {members : List (Json.Text × Json)}
    {first second : List ReportEntry} (ofFirst : first ⊆ entriesOf report)
    (ofSecond : second ⊆ entriesOf report)
    (same : withEntries members first = withEntries members second) : first = second := by
  have values : first.map Prod.snd = second.map Prod.snd := by
    have found := congrArg (Json.getMember · metricValues) (Json.object.inj same)
    simpa only [Json.getMember_setMember, Option.some.injEq, Json.array.injEq] using found
  have reread : ∀ left : List ReportEntry, left ⊆ entriesOf report →
      (left.map Prod.snd).map readEntry = left.map fun entry => .ok (some entry) := by
    intro left listed
    rw [List.map_map]
    exact List.map_congr_left fun entry member => readEntry_of_mem (listed member)
  have alike := congrArg (List.map readEntry) values
  rw [reread first ofFirst, reread second ofSecond] at alike
  exact List.map_injective_iff.mpr (fun left right same => by simpa using same) alike

/-- The one metric that is found. -/
def foundMetric : Metric := ⟨[], .nan, 0, [], [], []⟩

open Classical in
/-- A parser with given failures that finds a metric in one body only. -/
noncomputable def foundOnlyIn (fails : Json → Tags → Bool) (body : Json) : MetricParser where
  extract data _ tags _ :=
    if fails data tags then .error .type else if data = body then .ok [foundMetric] else .ok []
  discover _ _ _ _ := .ok []

variable {context : ReportContext} {fails : Json → Tags → Bool} {body : Json}

open Classical in
theorem foundOnlyIn_failsOn : (foundOnlyIn fails body).FailsOn context fails := by
  intro data tags
  show (∃ error, (if fails data tags then Except.error PollError.type
    else if data = body then Except.ok [foundMetric] else Except.ok []) = Except.error error) ↔ _
  by_cases failed : fails data tags = true
  · rw [if_pos failed]
    exact iff_of_true ⟨_, rfl⟩ failed
  · rw [if_neg failed]
    refine iff_of_false (fun raised => ?_) failed
    obtain ⟨error, raised⟩ := raised
    split at raised <;> cases raised

/-- A report that does not fail gives the metric exactly when it passes on that body. -/
theorem metricsOf_foundOnlyIn {before : List (Json × Json)} {report : Json × Json}
    {members : List (Json.Text × Json)} {values : List ReportEntry}
    (read : readReport report.2 = .ok (members, values))
    (survives : reportFails context fails before report = false) :
    foundMetric ∈ metricsOf (outcomeAfter (foundOnlyIn fails body) context before report) ↔
      passedEntries before report ≠ [] ∧
        withEntries members (passedEntries before report) = body := by
  unfold reportFails at survives
  unfold outcomeAfter
  rw [read] at survives ⊢
  show foundMetric ∈ metricsOf (emitReport _ context report.1 members _) ↔ _
  cases left : passedEntries before report with
  | nil => exact iff_of_false List.not_mem_nil fun both => both.1 rfl
  | cons entry rest =>
    rw [left] at survives
    have quiet : fails (withEntries members (entry :: rest))
        (context.reportTags report.1) = false :=
      survives
    rw [emitReport, if_neg (by simp), MetricParser.parse, foundOnlyIn]
    simp only [quiet]
    by_cases here : withEntries members (entry :: rest) = body
    · simp [here, bind, Except.bind, pure, Except.pure, metricsOf]
    · simp [here, bind, Except.bind, pure, Except.pure, metricsOf]

theorem passedEntries_subset (before : List (Json × Json)) (report : Json × Json) :
    passedEntries before report ⊆ entriesOf report :=
  fun _ member => (FirstClaim.mem_fresh.mp member).1

/-- The same entries pass after fewer reports exactly when no property is freed. -/
theorem passedEntries_eq_iff {before kept : List (Json × Json)} {report : Json × Json}
    (fewer : allProperties kept ⊆ allProperties before) :
    passedEntries kept report = passedEntries before report ↔
      ∀ key ∈ propertiesOf report, key ∈ allProperties before → key ∈ allProperties kept := by
  constructor
  · intro same key owned claimed
    exact (FirstClaim.mem_iff_of_fresh_eq same owned).mpr claimed
  · intro held
    exact FirstClaim.fresh_congr fun key owned => ⟨fun claimed => fewer claimed, held key owned⟩

/-- A report that succeeds gives the same after fewer reports, whatever the parser finds, exactly
when no property is freed, or when it gives nothing and fails on what is freed. -/
theorem alike_iff {before kept : List (Json × Json)} {report : Json × Json}
    (fewer : allProperties kept ⊆ allProperties before)
    (survives : reportFails context fails before report = false) :
    (∀ parser : MetricParser, parser.FailsOn context fails →
        metricsOf (outcomeAfter parser context kept report) =
          metricsOf (outcomeAfter parser context before report)) ↔
      (∀ key ∈ propertiesOf report, key ∈ allProperties before → key ∈ allProperties kept) ∨
      passedEntries before report = [] ∧ reportFails context fails kept report = true := by
  rw [← passedEntries_eq_iff fewer]
  constructor
  · intro alike
    by_cases same : passedEntries kept report = passedEntries before report
    · exact .inl same
    obtain ⟨members, values, read⟩ : ∃ members values,
        readReport report.2 = .ok (members, values) := by
      unfold reportFails at survives
      cases read : readReport report.2 with
      | error error => simp [read] at survives
      | ok result => exact ⟨result.1, result.2, rfl⟩
    have freed : passedEntries before report ⊆ passedEntries kept report :=
      FirstClaim.fresh_subset fewer
    have some : passedEntries kept report ≠ [] := fun none => same (by
      rw [none] at freed ⊢
      exact (List.subset_nil.mp freed).symm)
    cases failed : reportFails context fails kept report with
    | true =>
      refine .inr ⟨?_, rfl⟩
      by_contra left
      have found := (metricsOf_foundOnlyIn read survives).mpr ⟨left, rfl⟩
      rw [← alike _ foundOnlyIn_failsOn, metricsOf_outcomeAfter_of_fails foundOnlyIn_failsOn failed]
        at found
      cases found
    | false =>
      have found := (metricsOf_foundOnlyIn read failed).mpr ⟨some, rfl⟩
      rw [alike _ foundOnlyIn_failsOn, metricsOf_foundOnlyIn read survives] at found
      exact absurd (withEntries_inj (passedEntries_subset _ _)
        (passedEntries_subset _ _) found.2).symm
        same
  · rintro (same | ⟨nothing, failed⟩) parser pattern
    · unfold outcomeAfter
      rw [same]
    · rw [metricsOf_outcomeAfter_of_fails pattern failed, metricsOf_of_nothingLeft nothing]

/-! ### What a failed report costs -/

/-- Whatever the metrics are, failures cost only the reports that fail exactly when no report is
spoiled. -/
theorem failures_isolated_iff (context : ReportContext) (fails : Json → Tags → Bool)
    (reports : List (Json × Json)) :
    (∀ parser : MetricParser, parser.FailsOn context fails →
      FailuresIsolated parser context reports) ↔ Unspoiled context fails reports := by
  have isolated : ∀ parser : MetricParser, parser.FailsOn context fails →
      (FailuresIsolated parser context reports ↔
        FirstClaim.Each (Agrees parser context fails [] []) reports) := by
    intro parser pattern
    rw [← outcomes_eq_iff pattern, FailuresIsolated, succeeded, processReports_eq,
      processReports_eq, map_fst_succeededOf pattern]
  constructor
  · intro all before report after split survives
    refine (alike_iff (allProperties_survivors_subset before) survives).mp fun parser pattern => ?_
    exact (isolated parser pattern).mp (all parser pattern) before report after split survives
  · intro unspoiled parser pattern
    rw [isolated parser pattern]
    intro before report after split survives
    exact (alike_iff (allProperties_survivors_subset before) survives).mpr
      (unspoiled before report after split survives) parser pattern

/-! ### A failed report that costs another -/

/-- Whether the property of an entry is not below a text. The comparison raises for a property that
is none, such as null. -/
def fromSlash : Json → Except PollError Bool
  | .object members =>
    match Json.getMember members (Json.text "MetricProperty") with
    | some (.string property) =>
      .ok (!property.lex (Json.text "/") fun first second => decide (first.val < second.val))
    | some _ => .error .type
    | none => .ok false
  | _ => .ok false

/-- The search of `$.MetricValues[?(@.MetricProperty >= '/')]`. -/
def findFromSlash : Json → Except PollError (List Json)
  | .object members =>
    match Json.getMember members metricValues with
    | some (.array values) => values.filterM fromSlash
    | _ => .ok []
  | _ => .ok []

/-- One schema, of the values whose property is not below a text. -/
def fromSlashConfig : SchemaConfig where
  schemas := [{
    pathPattern := Json.text "$.MetricValues[?(@.MetricProperty >= '/')]"
    fields := [{
      jsonKey := Json.text "MetricValue"
      metricName := Json.text "power"
      type := Json.text "gauge"
      unit := Json.text "W" }]
    tagsFrom := [] }]
  autoDiscovery := ⟨false, [], [], Json.text "gauge", 50⟩

/-- The parser of that schema. -/
def sampleParser : MetricParser :=
  metricParser (fun _ => .ok (some findFromSlash)) (fun _ => []) fromSlashConfig

/-- An entry with a property and a value. -/
def valueEntry (property : Json) : Json :=
  .object [(Json.text "MetricProperty", property), (Json.text "MetricValue", .int 5)]

/-- A report with entries. -/
def sampleReport (reportType : String) (entries : List Json) : Json × Json :=
  (.string (Json.text reportType), .object [(metricValues, .array entries)])

/-- Two reports with one property; the first has an entry whose property is null as well. -/
def spoilingReports : List (Json × Json) := [
  sampleReport "all" [valueEntry (.string (Json.text "/power")), valueEntry .null],
  sampleReport "power" [valueEntry (.string (Json.text "/power"))]]

/-- The first report fails, and the second, which succeeds, gives nothing. Without the first report
the second gives its metric. -/
theorem spoilingReports_not_isolated :
    ¬ FailuresIsolated sampleParser ⟨Json.text "bmc", [], 0⟩ spoilingReports := by
  intro isolated
  exact absurd (congrArg (List.map List.length) isolated) (by decide +kernel)

end Gyanam
