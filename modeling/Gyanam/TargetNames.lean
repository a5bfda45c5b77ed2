/-
This file settles when the extraction of a blob depends on the name of the
target. The name is the hint that the unpacker falls back on for a blob it does
not recognise. Two names then read the same octets in two formats, and one of
these, gzip, reads nothing without its mark. So the name does not matter for the
blobs that are recognised, and for those that give nothing in any format.

Tags go through the parser of a configuration as they are: metrics under two
names differ only in the tag of the name.
-/

import Gyanam.BlobExtraction

namespace Gyanam

open Json (Text)

/-! ### Tags that differ in one value -/

/-- The tag of the name of the target. -/
def nameTag : HashKey := .text (Json.text "target_name")

/-- The tag of the type of a report. -/
def reportTypeTag : HashKey := .text (Json.text "report_type")

/-- Two tags of one key with one value, unless the key is that of the name. -/
def TagAlike (first second : HashKey × Json) : Prop :=
  first.1 = second.1 ∧ (first.1 ≠ nameTag → first.2 = second.2)

/-- Tags with the same keys and the same values, except for the name. -/
abbrev TagsAlike (first second : Tags) : Prop := List.Forall₂ TagAlike first second

theorem any_key_of_alike {first second : Tags} (alike : TagsAlike first second) (key : HashKey) :
    (first.any fun tag => tag.1 == key) = second.any fun tag => tag.1 == key := by
  induction alike with
  | nil => rfl
  | cons head _ inductionHypothesis =>
    rw [List.any_cons, List.any_cons, inductionHypothesis, head.1]

theorem setMember_alike {first second : Tags} (alike : TagsAlike first second) {key : HashKey}
    {value value' : Json} (same : key ≠ nameTag → value = value') :
    TagsAlike (Json.setMember first key value) (Json.setMember second key value') := by
  unfold Json.setMember
  rw [any_key_of_alike alike key]
  split
  · refine List.forall₂_map_left_iff.mpr (List.forall₂_map_right_iff.mpr ?_)
    refine alike.imp fun tag tag' each => ?_
    rw [each.1]
    split
    · exact ⟨rfl, same⟩
    · exact each
  · exact List.rel_append alike (.cons ⟨rfl, same⟩ .nil)

theorem setMembers_alike {first second more more' : Tags} (alike : TagsAlike first second)
    (moreAlike : TagsAlike more more') :
    TagsAlike (Json.setMembers first more) (Json.setMembers second more') := by
  unfold Json.setMembers
  induction moreAlike generalizing first second with
  | nil => exact alike
  | cons head _ inductionHypothesis =>
    rw [List.foldl_cons, List.foldl_cons, ← head.1]
    exact inductionHypothesis (setMember_alike alike head.2)

theorem tagsAlike_refl (tags : Tags) : TagsAlike tags tags :=
  List.forall₂_same.mpr fun _ _ => ⟨rfl, fun _ => rfl⟩

/-! ### Metrics without the name -/

/-- The tags that do not tell the name of the target, or of a file that is named for it. -/
def namelessTags (tags : Tags) : Tags :=
  tags.filter fun tag => decide (tag.1 ≠ nameTag ∧ tag.1 ≠ reportTypeTag)

/-- A metric without the tags that may tell the name of the target. -/
def Metric.nameless (metric : Metric) : Metric := { metric with tags := namelessTags metric.tags }

/-- What is observed of some metrics, or of a failure. -/
def namelessOf {Error : Type} : Except Error (List Metric) → Option (List Metric)
  | .ok metrics => some (metrics.map Metric.nameless)
  | .error _ => none

theorem namelessTags_of_alike {first second : Tags} (alike : TagsAlike first second) :
    namelessTags first = namelessTags second := by
  unfold namelessTags
  induction alike with
  | nil => rfl
  | @cons tag tag' _ _ head _ inductionHypothesis =>
    rw [List.filter_cons, List.filter_cons, inductionHypothesis, head.1]
    by_cases kept : tag'.1 ≠ nameTag ∧ tag'.1 ≠ reportTypeTag
    · rw [if_pos (decide_eq_true kept), if_pos (decide_eq_true kept),
        Prod.ext head.1 (head.2 (head.1 ▸ kept.1))]
    · rw [if_neg (by simpa using kept), if_neg (by simpa using kept)]

theorem nameless_of_alike (metric : Metric) {tags tags' : Tags} (alike : TagsAlike tags tags') :
    ({ metric with tags := tags } : Metric).nameless =
      ({ metric with tags := tags' } : Metric).nameless := by
  unfold Metric.nameless
  rw [namelessTags_of_alike alike]

theorem namelessOf_mapError {Error Error' : Type} (rename : Error → Error')
    (outcome : Except Error (List Metric)) :
    namelessOf (outcome.mapError rename) = namelessOf outcome := by
  cases outcome <;> rfl

/-- What a parser gives does not depend on the value of the tag of the name, other than in that
tag. -/
def MetricParser.Nameless (parser : MetricParser) : Prop :=
  ∀ data host tags tags' timestamp, TagsAlike tags tags' →
    namelessOf (parser.parse data host tags timestamp) =
      namelessOf (parser.parse data host tags' timestamp)

theorem namelessOf_parse (parser : MetricParser) (data : Json) (host : Text) (tags : Tags)
    (timestamp : Time) :
    namelessOf (parser.parse data host tags timestamp) =
      (namelessOf (parser.extract data host tags timestamp)).map
        (· ++ (namelessOf (parser.discover data host tags timestamp)).getD []) := by
  unfold MetricParser.parse
  cases parser.extract data host tags timestamp with
  | error error => rfl
  | ok extracted =>
    cases parser.discover data host tags timestamp with
    | error error => exact congrArg some (List.append_nil _).symm
    | ok discovered => exact congrArg some List.map_append

/-! ### The parser of a configuration -/

section Parser

variable {jsonpath : JsonPath} {str : Json → Text} {tags tags' : Tags}

theorem baseTags_alike (host : Text) (alike : TagsAlike tags tags') :
    TagsAlike (baseTags host tags) (baseTags host tags') :=
  setMembers_alike (tagsAlike_refl _) alike

theorem matchTags_alike (tagsFrom : List TagDefinition) (members : List (Text × Json))
    (alike : TagsAlike tags tags') :
    TagsAlike (matchTags str tagsFrom members tags) (matchTags str tagsFrom members tags') := by
  unfold matchTags
  induction tagsFrom generalizing tags tags' with
  | nil => exact alike
  | cons tagDef rest inductionHypothesis =>
    rw [List.foldl_cons, List.foldl_cons]
    apply inductionHypothesis
    split
    · exact alike
    · exact alike
    · exact setMember_alike alike fun _ => rfl

theorem matchMetrics_alike (schema : MetricSchema) (timestamp : Time)
    (alike : TagsAlike tags tags') (value : Json) :
    (matchMetrics str schema timestamp tags value).map Metric.nameless =
      (matchMetrics str schema timestamp tags' value).map Metric.nameless := by
  cases value with
  | object members =>
    unfold matchMetrics
    rw [List.map_filterMap, List.map_filterMap]
    refine List.filterMap_congr fun fieldDef _ => ?_
    unfold fieldMetric
    cases Json.getMember members fieldDef.jsonKey with
    | none => rfl
    | some raw =>
      cases numeric : MetricExtractor.toNumeric raw with
      | none => simp [numeric]
      | some number =>
        simp only [Option.bind_eq_bind, Option.bind_some, numeric, Option.pure_def, Option.map_some,
          Option.some.injEq]
        exact nameless_of_alike ⟨_, _, _, [], _, _⟩ (matchTags_alike _ _ alike)
  | null | bool | int | float | string | array => rfl

theorem extractWithSchema_alike (data : Json) (schema : MetricSchema) (timestamp : Time)
    (alike : TagsAlike tags tags') :
    namelessOf (extractWithSchema jsonpath str data schema timestamp tags) =
      namelessOf (extractWithSchema jsonpath str data schema timestamp tags') := by
  unfold extractWithSchema
  cases jsonpath schema.pathPattern with
  | error error => rfl
  | ok compiled =>
    cases compiled with
    | none => rfl
    | some find =>
      cases found : find data with
      | error error => simp [found, bind, Except.bind, namelessOf]
      | ok values =>
        simp only [found, bind, Except.bind, pure, Except.pure, namelessOf, List.map_flatMap]
        rw [funext (matchMetrics_alike schema timestamp alike)]

theorem namelessOf_mapM_cons {Item : Type} (act : Item → Except PollError (List Metric))
    (item : Item) (rest : List Item) :
    namelessOf (List.flatten <$> (item :: rest).mapM act) =
      (namelessOf (act item)).bind fun first =>
        (namelessOf (List.flatten <$> rest.mapM act)).map (first ++ ·) := by
  rw [List.mapM_cons]
  cases head : act item with
  | error error => rfl
  | ok metrics =>
    cases tail : rest.mapM act with
    | error error => rfl
    | ok others =>
      show some ((metrics :: others).flatten.map Metric.nameless) = some _
      rw [List.flatten_cons, List.map_append]

/-- Lists of metrics are observed alike when their parts are. -/
theorem namelessOf_mapM {Item : Type} {items : List Item}
    {first second : Item → Except PollError (List Metric)}
    (same : ∀ item ∈ items, namelessOf (first item) = namelessOf (second item)) :
    namelessOf (List.flatten <$> items.mapM first) =
      namelessOf (List.flatten <$> items.mapM second) := by
  induction items with
  | nil => rfl
  | cons item rest inductionHypothesis =>
    obtain ⟨head, tail⟩ := List.forall_mem_cons.mp same
    rw [namelessOf_mapM_cons, namelessOf_mapM_cons, head, inductionHypothesis tail]

theorem extractFromData_alike (schemas : List MetricSchema) (data : Json) (host : Text)
    (timestamp : Time) (alike : TagsAlike tags tags') :
    namelessOf (extractFromData jsonpath str schemas data host tags timestamp) =
      namelessOf (extractFromData jsonpath str schemas data host tags' timestamp) :=
  namelessOf_mapM fun schema _ =>
    extractWithSchema_alike data schema timestamp (baseTags_alike host alike)

/-- What is observed of a discovered metric. -/
def DiscoveredMetric.nameless (metric : DiscoveredMetric) : Metric := metric.toMetric.nameless

theorem leafMetric_alike (config : AutoDiscoveryConfig) (timestamp : Time)
    (excludeKeys : List Text) (key : Text) (value : Json) (path : Text)
    (alike : TagsAlike tags tags') :
    (leafMetric config timestamp excludeKeys key value path tags).map DiscoveredMetric.nameless =
      (leafMetric config timestamp excludeKeys key value path tags').map
        DiscoveredMetric.nameless := by
  unfold leafMetric
  split
  · split
    · rfl
    · split
      · rw [Option.map_map, Option.map_map]
        refine congrArg (Option.map · (MetricDiscovery.toNumeric value)) (funext fun numeric => ?_)
        exact nameless_of_alike ⟨_, _, _, [], _, _⟩ alike
      · rfl
  · rfl

theorem walkJson_alike (config : AutoDiscoveryConfig) (timestamp : Time) (excludeKeys : List Text)
    (remaining : Nat) (data : Json) (path : Text) (alike : TagsAlike tags tags') :
    (walkJson str config timestamp excludeKeys remaining data path tags).map
        DiscoveredMetric.nameless =
      (walkJson str config timestamp excludeKeys remaining data path tags').map
        DiscoveredMetric.nameless := by
  induction remaining generalizing data path tags tags' with
  | zero => rfl
  | succ remaining inductionHypothesis =>
    cases data with
    | object members =>
      have merged := setMembers_alike alike (tagsAlike_refl (extractTags str members))
      rw [walkJson, walkJson, List.map_flatMap, List.map_flatMap]
      refine congrArg (List.flatMap · members) (funext fun member => ?_)
      cases member.2 with
      | object inner => exact inductionHypothesis _ _ merged
      | array inner => exact inductionHypothesis _ _ merged
      | null | bool | int | float | string =>
        simp only [← Option.toList_map, leafMetric_alike config timestamp excludeKeys _ _ _ merged]
    | array items =>
      rw [walkJson, walkJson, List.map_flatMap, List.map_flatMap]
      exact congrArg (List.flatMap · items.zipIdx)
        (funext fun item => inductionHypothesis _ _ alike)
    | null | bool | int | float | string => rfl

theorem discover_alike (config : AutoDiscoveryConfig) (excludeKeys : List Text) (data : Json)
    (host : Text) (timestamp : Time) (alike : TagsAlike tags tags') :
    ((discover str config excludeKeys data host tags timestamp).map
        DiscoveredMetric.toMetric).map Metric.nameless =
      ((discover str config excludeKeys data host tags' timestamp).map
        DiscoveredMetric.toMetric).map Metric.nameless := by
  rw [List.map_map, List.map_map]
  unfold discover
  split
  · exact walkJson_alike _ _ _ _ _ _ (baseTags_alike host alike)
  · rfl

/-- The parser of a configuration passes tags through. -/
theorem metricParser_nameless (jsonpath : JsonPath) (str : Json → Text) (config : SchemaConfig) :
    (metricParser jsonpath str config).Nameless := by
  intro data host tags tags' timestamp alike
  have extracted :
      namelessOf ((metricParser jsonpath str config).extract data host tags timestamp) =
      namelessOf ((metricParser jsonpath str config).extract data host tags' timestamp) :=
    extractFromData_alike config.schemas data host timestamp alike
  have discovered : namelessOf ((metricParser jsonpath str config).discover data host tags
        timestamp) =
      namelessOf ((metricParser jsonpath str config).discover data host tags' timestamp) :=
    congrArg some (discover_alike _ _ data host timestamp alike)
  rw [namelessOf_parse, namelessOf_parse, extracted, discovered]

end Parser

/-! ### A poll under another name -/

/-- The result of a poll of a target of another name. -/
def PollResult.named (result : PollResult) (name : String) : PollResult :=
  { result with targetName := name }

/-- What is observed of an extraction. -/
def observedOf : Except PollError Extraction → Option (List Metric)
  | .ok extraction => namelessOf extraction.outcome
  | .error _ => none

/-- The extraction gives the same whatever the target is called: the metrics, apart from the tags
that may tell the name, or a failure. -/
def NameBlind (parser : MetricParser) (readers : BlobReaders) (recursionLimit maxBlobSize : Nat)
    (result : PollResult) : Prop :=
  ∀ first second : String,
    observedOf (syncExtractMetrics parser readers recursionLimit maxBlobSize (result.named first)) =
      observedOf (syncExtractMetrics parser readers recursionLimit maxBlobSize
        (result.named second))

/-- The stored tags are merged under every name or under none. -/
theorem targetTagsOf_alike (stored : Json) (first : String) :
    (∀ name, ∃ error, targetTagsOf name stored = .error error) ∨
    ∃ tags, targetTagsOf first stored = .ok tags ∧
      ∀ name, ∃ tags', targetTagsOf name stored = .ok tags' ∧ TagsAlike tags' tags := by
  have alike : ∀ name : String, TagsAlike [(nameTag, .string (Json.text name))]
      [(nameTag, .string (Json.text first))] := fun name =>
    .cons ⟨rfl, fun other => absurd rfl other⟩ .nil
  unfold targetTagsOf
  cases stored.truthy with
  | true =>
    cases updatePairs stored with
    | ok pairs =>
      exact .inr ⟨_, rfl, fun name => ⟨_, rfl, setMembers_alike (alike name) (tagsAlike_refl _)⟩⟩
    | error error => exact .inl fun name => ⟨error, rfl⟩
  | false => exact .inr ⟨_, rfl, fun name => ⟨_, rfl, alike name⟩⟩

section Blob

variable {parser : MetricParser} {readers : BlobReaders} {recursionLimit maxBlobSize : Nat}

theorem extractFiles_alike (transparent : parser.Nameless) (host : Text) (timestamp : Time)
    {tags tags' : Tags} (alike : TagsAlike tags tags') (directory : Directory)
    (files : List ExtractedFile) :
    namelessOf (extractFiles parser recursionLimit ⟨host, tags, timestamp⟩ directory files) =
      namelessOf (extractFiles parser recursionLimit ⟨host, tags', timestamp⟩ directory files) := by
  refine namelessOf_mapM fun file _ => ?_
  unfold extractFile
  cases loadFile recursionLimit directory file with
  | error error => rfl
  | ok loaded =>
    cases loaded with
    | none => rfl
    | some data => exact transparent _ _ _ _ _ (setMember_alike alike fun _ => rfl)

/-- What a blob gives in a format. -/
def blobOutcome (parser : MetricParser) (readers : BlobReaders) (recursionLimit : Nat)
    (context : ReportContext) (content : List UInt8) (format : BlobFormat) :
    Except BlobError (List Metric) :=
  (extractUnpacked parser recursionLimit context
    ((extractAs readers (readers.mkdtemp (Json.text "unknown_")) (Json.text "unknown") content
      format).start Table.empty)).outcome

theorem blobOutcome_alike (transparent : parser.Nameless) (host : Text) (timestamp : Time)
    {tags tags' : Tags} (alike : TagsAlike tags tags') (content : List UInt8)
    (format : BlobFormat) :
    namelessOf (blobOutcome parser readers recursionLimit ⟨host, tags, timestamp⟩ content format) =
      namelessOf
        (blobOutcome parser readers recursionLimit ⟨host, tags', timestamp⟩ content format) := by
  unfold blobOutcome extractUnpacked
  cases (extractAs readers (readers.mkdtemp (Json.text "unknown_")) (Json.text "unknown") content
      format).start Table.empty with
  | mk unpacked directory =>
    cases unpacked with
    | error error => rfl
    | ok files =>
      show namelessOf ((extractFiles _ _ _ directory files).mapError _) =
        namelessOf ((extractFiles _ _ _ directory files).mapError _)
      rw [namelessOf_mapError, namelessOf_mapError]
      exact extractFiles_alike transparent host timestamp alike directory files

/-- A blob that is neither empty nor too large is read in the format that it has, or else the
hint. -/
theorem extractUnpacked_unpack (context : ReportContext) {content : List UInt8} (hint : Text)
    (some : content ≠ []) (fits : content.length ≤ maxBlobSize) :
    namelessOf (extractUnpacked parser recursionLimit context
      ((unpack readers maxBlobSize content hint (Json.text "unknown")).start Table.empty)).outcome =
    namelessOf (blobOutcome parser readers recursionLimit context content
      ((detectFormat content).getD (hintedFormat hint))) := by
  have safe : safeTargetName (Json.text "unknown") = Json.text "unknown" := by decide
  have directory : Json.text "unknown" ++ Json.text "_" = Json.text "unknown_" := by decide
  have positive : ¬ content.length = 0 := fun empty => some (List.length_eq_zero_iff.mp empty)
  unfold unpack blobOutcome
  rw [if_neg (not_lt.mpr fits), if_neg positive, safe]
  simp only [Attempt.start_bind, Attempt.start_modify, Attempt.start_tryCatch, directory]
  cases (extractAs readers (readers.mkdtemp (Json.text "unknown_")) (Json.text "unknown") content
      ((detectFormat content).getD (hintedFormat hint))).start Table.empty with
  | mk unpacked after => cases unpacked <;> rfl

theorem unpack_tooLarge (content : List UInt8) (hint : Text)
    (large : maxBlobSize < content.length) :
    (unpack readers maxBlobSize content hint (Json.text "unknown")).start Table.empty =
      (.error (.blobTooLarge content.length maxBlobSize), Table.empty) := by
  unfold unpack
  rw [if_pos large]
  rfl

/-- What is observed of a poll whose tags are merged. -/
theorem observedOf_named (readers : BlobReaders) (recursionLimit maxBlobSize : Nat)
    (transparent : parser.Nameless) {result : PollResult} (noReports : result.data = none)
    {tags : Tags} {name : String}
    (merged : ∃ tags', targetTagsOf name result.targetTags = .ok tags' ∧ TagsAlike tags' tags) :
    observedOf (syncExtractMetrics parser readers recursionLimit maxBlobSize (result.named name)) =
      if result.content = [] then some []
      else if maxBlobSize < result.content.length then none
      else namelessOf (blobOutcome parser readers recursionLimit
        ⟨Json.text result.targetHost, tags, result.pollTime⟩ result.content
        ((detectFormat result.content).getD (hintedFormat (Json.text name)))) := by
  obtain ⟨tags', found, alike⟩ := merged
  have tagged : pollTags (result.named name) = .ok tags' := found
  have noReports' : (result.named name).data = none := noReports
  unfold syncExtractMetrics
  rw [tagged]
  simp only [bind, Except.bind, noReports']
  show observedOf (if result.content = [] then Except.ok _ else Except.ok _) = _
  split
  · rfl
  · rename_i nonempty
    show namelessOf (Extraction.outcome _) = _
    split
    · rename_i large
      exact congrArg (fun unpacked => namelessOf (extractUnpacked parser recursionLimit _
        unpacked).outcome) (unpack_tooLarge result.content (Json.text name) large)
    · rename_i fits
      refine Eq.trans (extractUnpacked_unpack _ _ nonempty (not_lt.mp fits)) ?_
      exact blobOutcome_alike transparent _ _ alike _ _

/-- Where the stored tags cannot be merged, every name fails. -/
theorem observedOf_refused {result : PollResult} {name : String} {error : PollError}
    (refused : targetTagsOf name result.targetTags = .error error) :
    observedOf (syncExtractMetrics parser readers recursionLimit maxBlobSize (result.named name)) =
      none := by
  have tagged : pollTags (result.named name) = .error error := refused
  unfold syncExtractMetrics
  rw [tagged]
  rfl

end Blob

/-! ### When the name does not matter -/

/-- A blob can be read in a format, and the extraction from its files goes through. -/
def Extractable (parser : MetricParser) (readers : BlobReaders) (recursionLimit : Nat)
    (context : ReportContext) (content : List UInt8) (format : BlobFormat) : Prop :=
  ∃ files directory metrics,
    (extractAs readers (readers.mkdtemp (Json.text "unknown_")) (Json.text "unknown") content
      format).start Table.empty = (.ok files, directory) ∧
    extractFiles parser recursionLimit context directory files = .ok metrics

section NameBlind

variable {parser : MetricParser} {readers : BlobReaders} {recursionLimit maxBlobSize : Nat}

theorem namelessOf_blobOutcome_eq_none {context : ReportContext} {content : List UInt8}
    {format : BlobFormat} :
    namelessOf (blobOutcome parser readers recursionLimit context content format) = none ↔
      ¬ Extractable parser readers recursionLimit context content format := by
  unfold blobOutcome Extractable
  cases (extractAs readers (readers.mkdtemp (Json.text "unknown_")) (Json.text "unknown") content
      format).start Table.empty with
  | mk unpacked directory =>
    cases unpacked with
    | error error => simp [extractUnpacked, namelessOf]
    | ok files =>
      cases extracted : extractFiles parser recursionLimit context directory files with
      | error error => simp [extractUnpacked, extracted, Except.mapError, namelessOf]
      | ok metrics => simp [extractUnpacked, extracted, Except.mapError, namelessOf]

/-- A blob without the mark of gzip cannot be read as such. -/
theorem not_extractable_gzip {context : ReportContext} {content : List UInt8}
    (unmarked : readers.gunzip content = ⟨[], some .badGzip⟩) :
    ¬ Extractable parser readers recursionLimit context content .gzip := by
  rintro ⟨files, directory, metrics, unpacked, -⟩
  simp only [extractAs, extractGzip, unmarked, gunzipChunks, Attempt.start_bind,
    Attempt.start_ofExcept] at unpacked
  cases unpacked

theorem unmarked_of_detectFormat {content : List UInt8} (unknown : detectFormat content = none) :
    content.take 2 ≠ [0x1F, 0x8B] := by
  intro marked
  unfold detectFormat at unknown
  split at unknown
  · cases unknown
  · cases unknown

theorem hinted_gz : hintedFormat (Json.text "gz") = .gzip := by decide

theorem hinted_zip : hintedFormat (Json.text "zip") = .zip := by decide

theorem hinted_node : hintedFormat (Json.text "node") = .unknown := by decide

/-- A tar archive that can be extracted is extracted without a hint, too. -/
theorem extractable_unknown_of_tar {context : ReportContext} {content : List UInt8}
    (extractable : Extractable parser readers recursionLimit context content .tar) :
    Extractable parser readers recursionLimit context content .unknown := by
  obtain ⟨files, directory, metrics, unpacked, extracted⟩ := extractable
  refine ⟨files, directory, metrics, ?_, extracted⟩
  have asTar : (extractTar readers content).start Table.empty = (.ok files, directory) := unpacked
  simp only [extractAs, tryExtractTarDirect, Attempt.start_bind, Attempt.start_tryCatch, asTar,
    Attempt.start_pure]

/-- A blob that can be extracted neither as a zip archive nor without a hint gives nothing with any
hint. -/
theorem namelessOf_blobOutcome_of_fails {context : ReportContext} {content : List UInt8}
    (unmarked : readers.gunzip content = ⟨[], some .badGzip⟩)
    (fails : ∀ format ∈ [BlobFormat.zip, BlobFormat.unknown],
      ¬ Extractable parser readers recursionLimit context content format) (format : BlobFormat) :
    namelessOf (blobOutcome parser readers recursionLimit context content format) = none := by
  rw [namelessOf_blobOutcome_eq_none]
  cases format with
  | zip => exact fails .zip (by simp)
  | gzip => exact not_extractable_gzip unmarked
  | tar =>
    exact fun extractable => fails .unknown (by simp) (extractable_unknown_of_tar extractable)
  | unknown => exact fails .unknown (by simp)

/-- Under a name, content without a mark is read by the hint of the name. -/
def HintDecides (parser : MetricParser) (readers : BlobReaders) (recursionLimit maxBlobSize : Nat)
    (context : ReportContext) (result : PollResult) : Prop :=
  ∀ name, observedOf (syncExtractMetrics parser readers recursionLimit maxBlobSize
      (result.named name)) =
    namelessOf (blobOutcome parser readers recursionLimit context result.content
      (hintedFormat (Json.text name)))

/-- If then the name does not matter, nothing can be extracted: nothing is with the hint of gzip. -/
theorem not_extractable_of_nameBlind {context : ReportContext} {result : PollResult}
    (decides : HintDecides parser readers recursionLimit maxBlobSize context result)
    (unmarked : readers.gunzip result.content = ⟨[], some .badGzip⟩)
    (blind : NameBlind parser readers recursionLimit maxBlobSize result) :
    ∀ format ∈ [BlobFormat.zip, BlobFormat.unknown],
      ¬ Extractable parser readers recursionLimit context result.content format := by
  have fails : ∀ name, namelessOf (blobOutcome parser readers recursionLimit context
      result.content (hintedFormat (Json.text name))) = none := fun name => by
    rw [← decides name, blind name "gz", decides "gz", hinted_gz,
      namelessOf_blobOutcome_eq_none.mpr (not_extractable_gzip unmarked)]
  intro other listed
  obtain rfl | rfl : other = .zip ∨ other = .unknown := by simpa using listed
  · exact namelessOf_blobOutcome_eq_none.mp (hinted_zip ▸ fails "zip")
  · exact namelessOf_blobOutcome_eq_none.mp (hinted_node ▸ fails "node")

/-- If nothing can be extracted, the name does not matter. -/
theorem nameBlind_of_not_extractable {context : ReportContext} {result : PollResult}
    (decides : HintDecides parser readers recursionLimit maxBlobSize context result)
    (unmarked : readers.gunzip result.content = ⟨[], some .badGzip⟩)
    (fails : ∀ format ∈ [BlobFormat.zip, BlobFormat.unknown],
      ¬ Extractable parser readers recursionLimit context result.content format) :
    NameBlind parser readers recursionLimit maxBlobSize result := by
  intro first second
  rw [decides first, decides second, namelessOf_blobOutcome_of_fails unmarked fails,
    namelessOf_blobOutcome_of_fails unmarked fails]

end NameBlind

/-- The name of the target does not matter exactly for a blob that is empty, too large, or
recognised by its first octets, and for one that cannot be extracted as a zip archive nor without
a hint. -/
theorem name_blind_iff (jsonpath : JsonPath) (str : Json → Text) (config : SchemaConfig)
    (readers : BlobReaders) (recursionLimit maxBlobSize : Nat)
    (marked : ∀ content, content ≠ [] → content.take 2 ≠ [0x1F, 0x8B] →
      readers.gunzip content = ⟨[], some .badGzip⟩)
    (result : PollResult) (noReports : result.data = none) :
    NameBlind (metricParser jsonpath str config) readers recursionLimit maxBlobSize result ↔
      result.content = [] ∨ maxBlobSize < result.content.length ∨
      (detectFormat result.content).isSome ∨
      ∀ tags, pollTags result = .ok tags → ∀ format ∈ [BlobFormat.zip, BlobFormat.unknown],
        ¬ Extractable (metricParser jsonpath str config) readers recursionLimit
          ⟨Json.text result.targetHost, tags, result.pollTime⟩ result.content format := by
  have transparent := metricParser_nameless jsonpath str config
  obtain refused | ⟨tags, found, merged⟩ := targetTagsOf_alike result.targetTags result.targetName
  · refine iff_of_true (fun first second => ?_) (.inr (.inr (.inr fun tags found => ?_)))
    · obtain ⟨error, raised⟩ := refused first
      obtain ⟨error', raised'⟩ := refused second
      rw [observedOf_refused raised, observedOf_refused raised']
    · obtain ⟨error, raised⟩ := refused result.targetName
      exact absurd (found.symm.trans raised) (by simp)
  have observed := fun name => observedOf_named readers recursionLimit maxBlobSize transparent
    noReports (merged name)
  have tagged : pollTags result = .ok tags := found
  by_cases empty : result.content = []
  · refine iff_of_true (fun first second => ?_) (.inl empty)
    rw [observed, observed, if_pos empty, if_pos empty]
  by_cases large : maxBlobSize < result.content.length
  · refine iff_of_true (fun first second => ?_) (.inr (.inl large))
    rw [observed, observed, if_pos large, if_pos large]
  cases format : detectFormat result.content with
  | some known =>
    refine iff_of_true (fun first second => ?_) (.inr (.inr (.inl rfl)))
    rw [observed, observed, format, Option.getD_some, Option.getD_some]
  | none =>
    have decides : HintDecides (metricParser jsonpath str config) readers recursionLimit
        maxBlobSize ⟨Json.text result.targetHost, tags, result.pollTime⟩ result := fun name => by
      rw [observed, if_neg empty, if_neg large, format, Option.getD_none]
    have unmarked := marked result.content empty (unmarked_of_detectFormat format)
    constructor
    · intro blind
      refine .inr (.inr (.inr fun tags' found' => ?_))
      obtain rfl : tags = tags' := Except.ok.inj (tagged.symm.trans found')
      exact not_extractable_of_nameBlind decides unmarked blind
    · rintro (nothing | tooLarge | known | fails)
      · exact absurd nothing empty
      · exact absurd tooLarge large
      · cases known
      · exact nameBlind_of_not_extractable decides unmarked (fails tags tagged)

/-! ### A name that hides a blob -/

/-- Libraries that read neither zip nor tar archives, as they do with octets that are none. -/
def sampleReaders : BlobReaders where
  openZip _ := .error .other
  openTar _ := .error .tar
  gunzip content :=
    if content = [] then ⟨[], none⟩
    else if content.take 2 = [0x1F, 0x8B] then ⟨[], some .other⟩
    else ⟨[], some .badGzip⟩
  nameError _ := none
  mkdtemp before := before ++ Json.text "1"

/-- Every number is discovered. -/
def sampleConfig : SchemaConfig where
  schemas := []
  autoDiscovery := ⟨true, [Json.text "*"], [], Json.text "gauge", 50⟩

/-- A poll that gives a blob. -/
def blobResult (content : List UInt8) : PollResult where
  targetId := 1
  targetName := "node-1"
  targetHost := "10.0.0.1"
  success := true
  content := content
  errorMessage := none
  pollTime := 0
  duration := 0
  targetTags := .null

/-- The octets of a dictionary with one member, whose value is true. -/
def rawBlob : List UInt8 := "\x7b\x22On\x22: true\x7d".toList.map fun char => char.toNat.toUInt8

/-- The start of a zip archive that is cut off is recognised, and fails under every name. -/
theorem truncatedZip_nameBlind :
    NameBlind (metricParser (fun _ => .ok none) (fun _ => []) sampleConfig) sampleReaders 1000
      104857600 (blobResult [0x50, 0x4B, 0x03, 0x04]) :=
  (name_blind_iff (fun _ => .ok none) (fun _ => []) sampleConfig sampleReaders 1000 104857600
    (fun content nonempty unmarked => by
      show (if _ then _ else _) = _
      rw [if_neg nonempty, if_neg unmarked])
    (blobResult [0x50, 0x4B, 0x03, 0x04]) rfl).mpr (.inr (.inr (.inl rfl)))

/-- The metric of a raw blob is found for "node-1". For "target-1", whose name has "tar" in it, the
blob is read as a tar archive, and there is none. -/
theorem rawBlob_not_nameBlind :
    ¬ NameBlind (metricParser (fun _ => .ok none) (fun _ => []) sampleConfig) sampleReaders 1000
      104857600 (blobResult rawBlob) := by
  intro blind
  exact absurd (congrArg Option.isSome (blind "node-1" "target-1")) (by decide +kernel)

end Gyanam
