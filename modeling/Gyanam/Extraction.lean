/-
This file models how metrics are extracted from the reports of a poll. The
reports are taken in order. A report claims the properties of its entries before
its metrics are extracted, and entries whose property is claimed already are left
out. Whatever a report raises costs the metrics of that report; what it has
claimed stays claimed.

The parser of the metrics is a parameter here: what it finds in a body, and that
it may raise.
-/

import Gyanam.Lib.Fallible
import Gyanam.Lib.FirstClaim
import Gyanam.Poller

namespace Gyanam

/-! ### Metrics -/

/-- Tags by name, in the order of their first occurrence. A stored tag may have a name that is no
text. -/
abbrev Tags := List (HashKey × Json)

/-- A metric ready for export. -/
structure Metric where
  name : Json.Text
  value : Double
  timestamp : Time
  tags : Tags
  metricType : Json.Text
  unit : Json.Text

/-- What the extractor and the discovery find in a body, for a host, some tags and a time. -/
structure MetricParser where
  extract : Json → Json.Text → Tags → Time → Except PollError (List Metric)
  discover : Json → Json.Text → Tags → Time → Except PollError (List Metric)

/-- The metrics of a body. An exception of the discovery costs only what it would find. -/
def MetricParser.parse (parser : MetricParser) (data : Json) (host : Json.Text) (tags : Tags)
    (timestamp : Time) : Except PollError (List Metric) := do
  let extracted ← parser.extract data host tags timestamp
  match parser.discover data host tags timestamp with
  | .ok discovered => return extracted ++ discovered
  | .error _ => return extracted

/-! ### Reports -/

/-- The name of the entries of a report. -/
def metricValues : Json.Text := Json.text "MetricValues"

/-- An entry of a report, and the property it claims if it has one. -/
abbrev ReportEntry := Option HashKey × Json

/-- The property of an entry; a falsy one counts as none. -/
def propertyKey (members : List (Json.Text × Json)) : Except PollError (Option HashKey) :=
  match Json.getMember members (Json.text "MetricProperty") with
  | none => .ok none
  | some property => if property.truthy then some <$> hashKey property else .ok none

/-- An entry of a report; what is no dictionary is skipped. -/
def readEntry : Json → Except PollError (Option ReportEntry)
  | .object members => do return some (← propertyKey members, .object members)
  | _ => .ok none

/-- The members of the body of a report, and its entries. -/
def readReport : Json → Except PollError (List (Json.Text × Json) × List ReportEntry)
  | .object members =>
    match (Json.getMember members metricValues).getD (.array []) with
    | .array values => do return (members, (← values.mapM readEntry).filterMap id)
    | _ => .error .type
  | _ => .error .type

/-- The body of a report with other entries. -/
def withEntries (members : List (Json.Text × Json)) (unique : List ReportEntry) : Json :=
  .object (Json.setMember members metricValues (.array (unique.map Prod.snd)))

/-- What the reports of a poll share. -/
structure ReportContext where
  host : Json.Text
  extraTags : Tags
  timestamp : Time

/-- The tags of a report. -/
def ReportContext.reportTags (context : ReportContext) (reportType : Json) : Tags :=
  Json.setMember context.extraTags (.text (Json.text "report_type")) reportType

section Reports

variable (parser : MetricParser) (context : ReportContext)

/-- The metrics of the entries that are left of a report. -/
def emitReport (reportType : Json) (members : List (Json.Text × Json))
    (unique : List ReportEntry) : Except PollError (List Metric) :=
  if unique.isEmpty then .ok []
  else parser.parse (withEntries members unique) context.host (context.reportTags reportType)
    context.timestamp

/-- One report: what it gives, and the properties that are claimed after it. -/
def processReport (seenProperties : List HashKey) (report : Json × Json) :
    Except PollError (List Metric) × List HashKey :=
  match readReport report.2 with
  | .error error => (.error error, seenProperties)
  | .ok (members, values) =>
    let unique := FirstClaim.fresh Prod.fst seenProperties values
    (emitReport parser context report.1 members unique,
      seenProperties ++ FirstClaim.keys Prod.fst unique)

/-- What each report gives. -/
def processReports : List HashKey → List (Json × Json) → List (Except PollError (List Metric))
  | _, [] => []
  | seenProperties, report :: rest =>
    (processReport parser context seenProperties report).1 ::
      processReports (processReport parser context seenProperties report).2 rest

end Reports

/-- The metrics of a report; one that raises has none. -/
def metricsOf : Except PollError (List Metric) → List Metric
  | .ok metrics => metrics
  | .error _ => []

/-- An element that a dictionary is updated with: a pair of a key and a value. A text of two
characters and an object of two keys are such pairs. -/
def readPair (element : Json) : Except PollError (HashKey × Json) := do
  match ← entries element with
  | [key, value] => return (← hashKey key, value)
  | _ => throw .value

/-- What a dictionary is updated with: the members of another one, or pairs. -/
def updatePairs : Json → Except PollError Tags
  | .object members => .ok (members.map fun member => (.text member.1, member.2))
  | stored => do (← entries stored).mapM readPair

/-- The tags of a target: its name, and the tags stored for it. -/
def targetTagsOf (name : String) (stored : Json) : Except PollError Tags :=
  let nameTag := [(HashKey.text (Json.text "target_name"), Json.string (Json.text name))]
  if stored.truthy then Json.setMembers nameTag <$> updatePairs stored else .ok nameTag

/-- The tags of a poll. -/
def pollTags (result : PollResult) : Except PollError Tags :=
  targetTagsOf result.targetName result.targetTags

/-- The metrics of the reports of a poll. -/
def extractReports (parser : MetricParser) (result : PollResult) (data : List (Json × Json)) :
    Except PollError (List Metric) := do
  let extraTags ← pollTags result
  let context := ReportContext.mk (Json.text result.targetHost) extraTags result.pollTime
  return (processReports parser context [] data).flatMap metricsOf

/-! ### What a report has to claim -/

/-- The entries of a report; one that cannot be read has none. -/
def entriesOf (report : Json × Json) : List ReportEntry :=
  match readReport report.2 with
  | .ok (_, values) => values
  | .error _ => []

/-- The properties of the entries of a report. -/
def propertiesOf (report : Json × Json) : List HashKey :=
  FirstClaim.keys Prod.fst (entriesOf report)

/-- The properties of some reports. -/
def allProperties (reports : List (Json × Json)) : List HashKey := reports.flatMap propertiesOf

/-- The entries of a report whose property no report before it has. -/
def passedEntries (before : List (Json × Json)) (report : Json × Json) : List ReportEntry :=
  FirstClaim.fresh Prod.fst (allProperties before) (entriesOf report)

/-- What a report gives when it comes after other reports. -/
def outcomeAfter (parser : MetricParser) (context : ReportContext) (before : List (Json × Json))
    (report : Json × Json) : Except PollError (List Metric) :=
  match readReport report.2 with
  | .error error => .error error
  | .ok (members, _) => emitReport parser context report.1 members (passedEntries before report)

/-! ### What a report is read as -/

theorem readEntry_eq_some {value : Json} {entry : ReportEntry}
    (read : readEntry value = .ok (some entry)) : entry.2 = value := by
  cases value with
  | object members =>
    rw [readEntry, Fallible.bind_eq_ok] at read
    obtain ⟨key, -, same⟩ := read
    cases same
    rfl
  | null | bool | int | float | string | array => cases read

theorem readReport_eq_ok {body : Json} {members : List (Json.Text × Json)}
    {values : List ReportEntry} (read : readReport body = .ok (members, values)) :
    body = .object members ∧ ∃ items found,
      (Json.getMember members metricValues).getD (.array []) = .array items ∧
      items.mapM readEntry = .ok found ∧ values = found.filterMap id := by
  unfold readReport at read
  split at read
  · split at read
    · rename_i listed
      rw [Fallible.bind_eq_ok] at read
      obtain ⟨found, each, same⟩ := read
      cases same
      exact ⟨rfl, _, found, listed, each, rfl⟩
    · cases read
  · cases read

/-- An entry is what its value is read as. -/
theorem readEntry_of_mem {report : Json × Json} {entry : ReportEntry}
    (member : entry ∈ entriesOf report) : readEntry entry.2 = .ok (some entry) := by
  unfold entriesOf at member
  cases read : readReport report.2 with
  | error error =>
    rw [read] at member
    cases member
  | ok result =>
    rw [read] at member
    obtain ⟨-, items, found, -, each, same⟩ := readReport_eq_ok read
    have listed : entry ∈ found.filterMap id := same ▸ member
    rw [List.mem_filterMap] at listed
    obtain ⟨_, among, rfl⟩ := listed
    obtain ⟨value, -, readAs⟩ := Fallible.mem_of_mapM each among
    rw [readEntry_eq_some readAs, readAs]

section Runs

variable {parser : MetricParser} {context : ReportContext}

/-- A report leaves its properties claimed, whatever comes of it. -/
theorem mem_processReport {seenProperties : List HashKey} {report : Json × Json} {key : HashKey} :
    key ∈ (processReport parser context seenProperties report).2 ↔
      key ∈ seenProperties ∨ key ∈ propertiesOf report := by
  unfold processReport propertiesOf entriesOf
  cases readReport report.2 with
  | error error => exact (or_iff_left List.not_mem_nil).symm
  | ok read => exact FirstClaim.mem_append_keys_fresh

theorem processReport_outcome {seenProperties : List HashKey} {before : List (Json × Json)}
    (same : ∀ key, key ∈ seenProperties ↔ key ∈ allProperties before) (report : Json × Json) :
    (processReport parser context seenProperties report).1 =
      outcomeAfter parser context before report := by
  unfold processReport outcomeAfter passedEntries entriesOf
  cases readReport report.2 with
  | error error => rfl
  | ok read =>
    show emitReport parser context report.1 read.1
        (FirstClaim.fresh Prod.fst seenProperties read.2) =
      emitReport parser context report.1 read.1
        (FirstClaim.fresh Prod.fst (allProperties before) read.2)
    rw [FirstClaim.fresh_congr fun key _ => same key]

/-- What each of some reports gives when they come after other reports. -/
def outcomesAfter (parser : MetricParser) (context : ReportContext) :
    List (Json × Json) → List (Json × Json) → List (Except PollError (List Metric))
  | _, [] => []
  | before, report :: rest =>
    outcomeAfter parser context before report ::
      outcomesAfter parser context (before ++ [report]) rest

/-- The claims of a run are the properties of the reports so far. -/
theorem processReports_eq_outcomesAfter {seenProperties : List HashKey}
    {before : List (Json × Json)} (same : ∀ key, key ∈ seenProperties ↔ key ∈ allProperties before)
    (reports : List (Json × Json)) :
    processReports parser context seenProperties reports =
      outcomesAfter parser context before reports := by
  induction reports generalizing seenProperties before with
  | nil => rfl
  | cons report rest inductionHypothesis =>
    have next : ∀ key, key ∈ (processReport parser context seenProperties report).2 ↔
        key ∈ allProperties (before ++ [report]) := fun key => by
      rw [mem_processReport, same key, allProperties, allProperties, List.flatMap_append,
        List.mem_append, List.flatMap_singleton]
    rw [processReports, outcomesAfter, processReport_outcome same, inductionHypothesis next]

theorem processReports_eq (reports : List (Json × Json)) :
    processReports parser context [] reports = outcomesAfter parser context [] reports :=
  processReports_eq_outcomesAfter (fun key => (Iff.rfl : key ∈ [] ↔ key ∈ allProperties [])) reports

theorem outcomesAfter_append (before first second : List (Json × Json)) :
    outcomesAfter parser context before (first ++ second) =
      outcomesAfter parser context before first ++
        outcomesAfter parser context (before ++ first) second := by
  induction first generalizing before with
  | nil => rw [List.nil_append, List.append_nil]; rfl
  | cons report rest inductionHypothesis =>
    rw [List.cons_append, outcomesAfter, outcomesAfter, inductionHypothesis, List.append_assoc]
    rfl

theorem length_outcomesAfter (before reports : List (Json × Json)) :
    (outcomesAfter parser context before reports).length = reports.length := by
  induction reports generalizing before with
  | nil => rfl
  | cons report rest inductionHypothesis =>
    rw [outcomesAfter, List.length_cons, List.length_cons, inductionHypothesis]

/-- What a report of a list gives. -/
theorem processReports_at (before : List (Json × Json)) (report : Json × Json)
    (after : List (Json × Json)) :
    (processReports parser context [] (before ++ report :: after))[before.length]? =
      some (outcomeAfter parser context before report) := by
  rw [processReports_eq, outcomesAfter_append, List.nil_append,
    List.getElem?_append_right (length_outcomesAfter _ _).le, length_outcomesAfter, Nat.sub_self]
  rfl

end Runs

end Gyanam
