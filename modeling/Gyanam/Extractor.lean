/-
This file models the extraction of metrics by schemas and by discovery. A schema
names a place in a body by a JSONPath pattern, and the fields and tags to take
there. The discovery walks the whole body to a depth and takes the members whose
keys match some patterns. The JSONPath library and the text of a value are
parameters: a pattern that is not valid is skipped, and both the compilation and
the search may raise.
-/

import Gyanam.Extraction
import Gyanam.Lib.Strings

namespace Gyanam

open Json (Text)

/-! ### Numbers -/

/-- The words for one. -/
def onWords : List Text := ["true", "yes", "on", "enabled", "ok", "healthy"].map Json.text

/-- The words for zero. -/
def offWords : List Text := ["false", "no", "off", "disabled", "error", "unhealthy"].map Json.text

/-- A double, unless it is infinite or not a number. -/
def finiteOnly : Double → Option Double
  | .finite value => some (.finite value)
  | _ => none

/-- The number a value is taken for. An integer too large for a double is none. -/
def MetricExtractor.toNumeric : Json → Option Double
  | .null => none
  | .bool value => some (.finite (if value then 1 else 0))
  | .int value => finiteOnly (Double.ofRatio value 1)
  | .float value => finiteOnly value
  | .string chars =>
    match Strings.toFloat chars with
    | some value => finiteOnly value
    | none =>
      if onWords.contains (Strings.lower chars) then some (.finite 1)
      else if offWords.contains (Strings.lower chars) then some (.finite 0)
      else none
  | .array _ => none
  | .object _ => none

/-- The number a value is taken for by the discovery. -/
def MetricDiscovery.toNumeric : Json → Option Double
  | .bool value => some (.finite (if value then 1 else 0))
  | .int value => finiteOnly (Double.ofRatio value 1)
  | .float value => finiteOnly value
  | .string chars =>
    match Strings.toFloat chars with
    | some value => finiteOnly value
    | none =>
      if onWords.contains (Strings.lower chars) then some (.finite 1)
      else if offWords.contains (Strings.lower chars) then some (.finite 0)
      else none
  | _ => none

/-- Whether a value can be taken for a number. -/
def MetricDiscovery.isNumeric : Json → Bool
  | .bool _ => true
  | .int value => (finiteOnly (Double.ofRatio value 1)).isSome
  | .float value => (finiteOnly value).isSome
  | .string chars =>
    match Strings.toFloat chars with
    | some value => (finiteOnly value).isSome
    | none => (onWords ++ offWords).contains (Strings.lower chars)
  | _ => false

/-! ### Schemas -/

/-- A field to extract. -/
structure FieldDefinition where
  jsonKey : Text
  metricName : Text
  type : Text
  unit : Text

/-- A tag to extract. -/
structure TagDefinition where
  jsonKey : Text
  tagName : Text

/-- What to extract where. -/
structure MetricSchema where
  pathPattern : Text
  fields : List FieldDefinition
  tagsFrom : List TagDefinition

/-- What the discovery takes. -/
structure AutoDiscoveryConfig where
  enabled : Bool
  includePatterns : List Text
  excludePatterns : List Text
  defaultType : Text
  maxDepth : Int

structure SchemaConfig where
  schemas : List MetricSchema
  autoDiscovery : AutoDiscoveryConfig

/-- The JSONPath library: the search of a pattern, none for a pattern that is not valid. -/
abbrev JsonPath := Text → Except PollError (Option (Json → Except PollError (List Json)))

/-- The tags that metrics start from. -/
def baseTags (host : Text) (extraTags : Tags) : Tags :=
  Json.setMembers [(.text (Json.text "host"), .string host)] extraTags

/-! ### The extractor -/

section Extractor

variable (jsonpath : JsonPath) (str : Json → Text)

/-- The tags of a match: those of the schema that are there and are not null. -/
def matchTags (tagsFrom : List TagDefinition) (members : List (Text × Json)) (tags : Tags) : Tags :=
  tagsFrom.foldl (fun tags tagDef =>
    match Json.getMember members tagDef.jsonKey with
    | none => tags
    | some .null => tags
    | some value => Json.setMember tags (.text tagDef.tagName) (.string (str value))) tags

/-- The metric of a field of a match, if the field is there and is a number. -/
def fieldMetric (members : List (Text × Json)) (timestamp : Time) (tags : Tags)
    (fieldDef : FieldDefinition) : Option Metric := do
  let value ← MetricExtractor.toNumeric (← Json.getMember members fieldDef.jsonKey)
  return ⟨fieldDef.metricName, value, timestamp, tags, fieldDef.type, fieldDef.unit⟩

/-- The metrics of a match; only dictionaries have any. -/
def matchMetrics (schema : MetricSchema) (timestamp : Time) (tags : Tags) : Json → List Metric
  | .object members =>
    schema.fields.filterMap
      (fieldMetric members timestamp (matchTags str schema.tagsFrom members tags))
  | _ => []

/-- The metrics of a schema. -/
def extractWithSchema (data : Json) (schema : MetricSchema) (timestamp : Time) (tags : Tags) :
    Except PollError (List Metric) := do
  match ← jsonpath schema.pathPattern with
  | none => return []
  | some find => return (← find data).flatMap (matchMetrics str schema timestamp tags)

/-- The metrics of all schemas. -/
def extractFromData (schemas : List MetricSchema) (data : Json) (host : Text) (extraTags : Tags)
    (timestamp : Time) : Except PollError (List Metric) :=
  List.flatten <$> schemas.mapM fun schema =>
    extractWithSchema jsonpath str data schema timestamp (baseTags host extraTags)

end Extractor

/-! ### The discovery -/

/-- A metric that was discovered at a path. -/
structure DiscoveredMetric where
  name : Text
  value : Double
  path : Text
  timestamp : Time
  metricType : Text
  tags : Tags
  unit : Text

/-- The keys of identifiers, and their tags. -/
def tagCandidates : List (Text × Text) :=
  [("id", "id"), ("ID", "id"), ("Id", "id"), ("name", "name"), ("Name", "name"),
    ("GPUID", "gpu_id"), ("GpuId", "gpu_id"), ("gpu_id", "gpu_id"), ("DeviceId", "device_id"),
    ("device_id", "device_id"), ("Index", "index"), ("index", "index")].map
      fun candidate => (Json.text candidate.1, Json.text candidate.2)

/-- The text of an identifier: neither null nor an array or a dictionary is one. -/
def identifierText (str : Json → Text) : Json → Option Text
  | .null => none
  | .array _ => none
  | .object _ => none
  | value => some (str value)

/-- The tags of a dictionary. -/
def extractTags (str : Json → Text) (data : List (Text × Json)) : Tags :=
  tagCandidates.foldl (fun tags candidate =>
    match (Json.getMember data candidate.1).bind (identifierText str) with
    | none => tags
    | some value => Json.setMember tags (.text candidate.2) (.string value)) []

/-- Whether the patterns include a key. -/
def shouldInclude (config : AutoDiscoveryConfig) (key : Text) : Bool :=
  if config.excludePatterns.any (Strings.fnmatch key) then false
  else config.includePatterns.any (Strings.fnmatch key)

/-- Whether a character is a lower-case ASCII letter or a digit. -/
def isAlnum (point : Json.CodePoint) : Bool :=
  ('a'.toNat ≤ point.val && point.val ≤ 'z'.toNat) ||
    ('0'.toNat ≤ point.val && point.val ≤ '9'.toNat)

def underscore : Json.CodePoint := Json.point '_'.toNat

/-- An underscore before each capital that is not at the start. -/
def separateWords (chars : Text) : Text :=
  chars.take 1 ++ (chars.drop 1).flatMap fun point =>
    if 'A'.toNat ≤ point.val ∧ point.val ≤ 'Z'.toNat then [underscore, point] else [point]

/-- One underscore for each run of them. -/
def joinUnderscores : Text → Text
  | first :: second :: rest =>
    if first = underscore ∧ second = underscore then joinUnderscores (second :: rest)
    else first :: joinUnderscores (second :: rest)
  | short => short

/-- A text without the array indices in it; what is read of an index so far is held back. -/
def dropIndices : Option Text → Text → Text
  | none, [] => []
  | none, point :: rest =>
    if point = Json.point '['.toNat then dropIndices (some [point]) rest
    else point :: dropIndices none rest
  | some held, [] => held
  | some held, point :: rest =>
    if (Strings.decimalDigit point).isSome then dropIndices (some (held ++ [point])) rest
    else if point = Json.point ']'.toNat ∧ 1 < held.length then dropIndices none rest
    else if point = Json.point '['.toNat then held ++ dropIndices (some [point]) rest
    else held ++ point :: dropIndices none rest

/-- The parts of a path that say nothing. -/
def plainParts : List Text := ["", "telemetry", "data", "values", "items"].map Json.text

/-- A part of a path as it occurs in a name. -/
def pathPart (part : Text) : Text := (dropIndices none (Strings.lower part)).filter isAlnum

/-- The name of a key in snake case. -/
def snakeName (key : Text) : Text :=
  let clean := (Strings.lower (separateWords key)).map fun point =>
    if isAlnum point then point else underscore
  Strings.stripEnd (· = underscore) ((joinUnderscores clean).dropWhile (· = underscore))

/-- The name of the metric at a key: the last part of the path that says something comes before the
name of the key. -/
def keyToMetricName (key path : Text) : Text :=
  let parts := (Strings.split (Json.point '.'.toNat) path).dropLast.reverse.map pathPart
  match parts.find? fun part => !plainParts.contains part with
  | some part => Json.text "discovered_" ++ part ++ [underscore] ++ snakeName key
  | none => Json.text "discovered_" ++ snakeName key

section Discovery

variable (str : Json → Text) (config : AutoDiscoveryConfig) (timestamp : Time)
  (excludeKeys : List Text)

/-- The metric of a member that is neither a dictionary nor an array. -/
def leafMetric (key : Text) (value : Json) (path : Text) (tags : Tags) :
    Option DiscoveredMetric :=
  if MetricDiscovery.isNumeric value then
    if excludeKeys.contains key then none
    else if shouldInclude config key then
      (MetricDiscovery.toNumeric value).map fun numeric =>
        ⟨keyToMetricName key path, numeric, path ++ Json.text "." ++ key, timestamp,
          config.defaultType, tags, []⟩
    else none
  else none

/-- The path of an item of an array. -/
def itemPath (path : Text) (index : Nat) : Text :=
  path ++ Json.text "[" ++ Json.text (toString index) ++ Json.text "]"

/-- Walk a value, to as many levels as remain. -/
def walkJson : Nat → Json → Text → Tags → List DiscoveredMetric
  | 0, _, _, _ => []
  | remaining + 1, .object members, path, tags =>
    members.flatMap fun member =>
      match member.2 with
      | .object _ | .array _ =>
        walkJson remaining member.2 (path ++ Json.text "." ++ member.1)
          (Json.setMembers tags (extractTags str members))
      | value =>
        (leafMetric config timestamp excludeKeys member.1 value path
          (Json.setMembers tags (extractTags str members))).toList
  | remaining + 1, .array items, path, tags =>
    items.zipIdx.flatMap fun item => walkJson remaining item.1 (itemPath path item.2) tags
  | _ + 1, _, _, _ => []

end Discovery

/-- The depth of the discovery where none is configured. -/
def fallbackMaxDepth : Nat := 50

/-- The metrics that are discovered in a body. The depth of the body itself is zero. -/
def discover (str : Json → Text) (config : AutoDiscoveryConfig) (excludeKeys : List Text)
    (data : Json) (host : Text) (extraTags : Tags) (timestamp : Time) : List DiscoveredMetric :=
  if config.enabled then
    let maxDepth := if config.maxDepth > 0 then config.maxDepth.toNat else fallbackMaxDepth
    walkJson str config timestamp excludeKeys (maxDepth + 1) data (Json.text "$")
      (baseTags host extraTags)
  else []

/-! ### The parser -/

/-- A discovered metric, for export. -/
def DiscoveredMetric.toMetric (metric : DiscoveredMetric) : Metric :=
  ⟨metric.name, metric.value, metric.timestamp, metric.tags, metric.metricType, metric.unit⟩

/-- The keys that the schemas extract. -/
def schemaKeys (schemas : List MetricSchema) : List Text :=
  schemas.flatMap fun schema => schema.fields.map FieldDefinition.jsonKey

/-- The parser of a configuration. -/
def metricParser (jsonpath : JsonPath) (str : Json → Text) (config : SchemaConfig) :
    MetricParser where
  extract := extractFromData jsonpath str config.schemas
  discover data host tags timestamp :=
    .ok ((discover str config.autoDiscovery (schemaKeys config.schemas) data host tags
      timestamp).map DiscoveredMetric.toMetric)

end Gyanam
