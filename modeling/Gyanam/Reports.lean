/-
This file models how the repository decides which reports to fetch from a
target. The lists are stored as JSON, so every entry may be any value, and each
way in which a value does not behave like a report is an exception: a text that
does not decode, a value that is not iterable, a URI that cannot be hashed, a
report type that is not a string.
-/

import Gyanam.Lib.Json
import Gyanam.Models

namespace Gyanam

/-! ### Exceptions -/

/-- What the code of a poll raises: an exception of the decoder, of an operation on a value of the
wrong type, of a missing key, or of a local variable read before it is bound; or the exception of a
library call, with its message. -/
inductive PollError where
  | json (error : Json.DecodeError)
  | type
  | attribute
  | key
  | value
  | unboundLocal (name : String)
  | raised (message : String)
  deriving DecidableEq, Repr

/-! ### Stored columns -/

/-- The value of a JSON column, or a default where the column is empty. -/
def loadsColumn (recursionLimit : Nat) (default : Json) : Option String → Except PollError Json
  | none => .ok default
  | some "" => .ok default
  | some column => (Json.loads recursionLimit (Json.text column)).mapError .json

/-- The tags of a target. -/
def getTargetTags (recursionLimit : Nat) (target : Target) : Except PollError Json :=
  loadsColumn recursionLimit (.object []) target.tags

/-- The override of a target's reports, or null. -/
def getTargetMetricReports (recursionLimit : Nat) (target : Target) : Except PollError Json :=
  loadsColumn recursionLimit .null target.metricReportsOverride

/-- The reports discovered on a target in the "auto" mode, or null. -/
def getDiscoveredMetricReports (recursionLimit : Nat) (target : Target) : Except PollError Json :=
  if target.metricDiscoveryMode ≠ "auto" then .ok .null
  else loadsColumn recursionLimit .null target.discoveredReports

/-! ### Reports -/

/-- A configured report. -/
structure MetricReportConfig where
  uri : Json.Text
  reportType : Json.Text

/-- An entry of a list of reports. -/
inductive Report where
  | config (cfg : MetricReportConfig)
  | decoded (value : Json)

/-- The URI of an entry, null where it has none. -/
def uriOf : Report → Json
  | .config cfg => .string cfg.uri
  | .decoded (.object members) => (Json.getMember members (Json.text "uri")).getD .null
  | .decoded _ => .null

/-- The type of an entry; an entry that is neither a dictionary nor configured has an empty one. -/
def reportTypeOf : Report → Json
  | .config cfg => .string cfg.reportType
  | .decoded (.object members) => (Json.getMember members (Json.text "report_type")).getD .null
  | .decoded _ => .string []

/-- Case folding onto single ASCII letters: the capitals, the long s and the Kelvin sign. Whatever
else folding changes, the result occurs in none of the words compared below. -/
def casefold (chars : Json.Text) : Json.Text :=
  chars.map fun point =>
    if 'A'.toNat ≤ point.val ∧ point.val ≤ 'Z'.toNat then Json.point (point.val + 32)
    else if point.val = 0x17F then Json.point 's'.toNat
    else if point.val = 0x212A then Json.point 'k'.toNat
    else point

/-- The folded text of a value, where a falsy one counts as empty. -/
def foldedOrEmpty (value : Json) : Except PollError Json.Text :=
  if value.truthy then
    match value with
    | .string chars => .ok (casefold chars)
    | _ => .error .attribute
  else .ok []

/-- Whether an entry is a report of everything. The URI is looked at only when the type does not
say so. -/
def isAggregate (report : Report) : Except PollError Bool := do
  let reportType ← foldedOrEmpty (reportTypeOf report)
  if reportType = Json.text "all" ∨ reportType = Json.text "comprehensive" then return true
  let uri ← foldedOrEmpty (uriOf report)
  return decide (Json.text "/all" <:+ uri)

/-! ### The union of two lists -/

/-- What the interpreter compares when it looks a value up in a set. -/
inductive HashKey where
  | null
  | text (value : Json.Text)
  | number (value : Rat)
  | infinite (negative : Bool)
  | nan
  deriving DecidableEq

/-- Numbers of all types are one; arrays and objects have no hash. -/
def hashKey : Json → Except PollError HashKey
  | .null => .ok .null
  | .bool value => .ok (.number (if value then 1 else 0))
  | .int value => .ok (.number value)
  | .float (.finite value) => .ok (.number value)
  | .float (.infinite negative) => .ok (.infinite negative)
  | .float .nan => .ok .nan
  | .string value => .ok (.text value)
  | .array _ => .error .type
  | .object _ => .error .type

/-- What a value iterates over. -/
def entries : Json → Except PollError (List Json)
  | .string chars => .ok (chars.map fun point => .string [point])
  | .array items => .ok items
  | .object members => .ok (members.map fun member => .string member.1)
  | _ => .error .type

/-- The entries with a URI that is new. -/
def keepNew : List HashKey → List Report → Except PollError (List Report)
  | _, [] => .ok []
  | seen, report :: rest =>
    if (uriOf report).truthy then do
      let key ← hashKey (uriOf report)
      if key ∈ seen then keepNew seen rest
      else return report :: (← keepNew (seen ++ [key]) rest)
    else keepNew seen rest

/-- Sort by a key that may raise: the entries whose key is false, then the others. -/
def sortBy (key : Report → Except PollError Bool) (reports : List Report) :
    Except PollError (List Report) := do
  let keyed ← reports.mapM fun report => do return (← key report, report)
  return ((keyed.filter fun entry => !entry.1) ++ keyed.filter fun entry => entry.1).map Prod.snd

/-- Union two lists of reports by URI, keeping the reports of everything last. -/
def mergeReports (discovered : Json) (defaults : List MetricReportConfig) :
    Except PollError (List Report) := do
  let found ← entries discovered
  let merged ← keepNew [] (found.map .decoded ++ defaults.map .config)
  sortBy isAggregate merged

/-- The reports to fetch: a decoded value as it is, or a list of reports. -/
inductive ReportSet where
  | decoded (value : Json)
  | listed (reports : List Report)

/-- The reports the poller should fetch: the override, or the union of the discovered ones and the
defaults. -/
def resolveMetricReports (recursionLimit : Nat) (target : Target)
    (globalDefault : List MetricReportConfig) : Except PollError ReportSet := do
  let override ← getTargetMetricReports recursionLimit target
  if override.truthy then return .decoded override
  let discovered ← getDiscoveredMetricReports recursionLimit target
  if discovered.truthy then return .listed (← mergeReports discovered globalDefault)
  else return .listed (globalDefault.map .config)

/-- Whether there are reports to fetch. -/
def ReportSet.truthy : ReportSet → Bool
  | .decoded value => value.truthy
  | .listed reports => !reports.isEmpty

/-- What a set of reports iterates over. -/
def ReportSet.entries : ReportSet → Except PollError (List Report)
  | .decoded value => do return (← Gyanam.entries value).map .decoded
  | .listed reports => .ok reports

end Gyanam
