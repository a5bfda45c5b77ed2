/-
This file proves when an export that is imported again recreates its targets. The
operator fills in the passwords, and the importer undoes what the exporter did to
each field: the names of the columns, the quotes, the texts of numbers and truth
values. A target that fails a check of the importer, or whose blank cell stands
for a default, does not come back as it was.
-/

import Gyanam.TargetsImport

namespace Gyanam

open Json (CodePoint Text)

/-! ### Targets that come back -/

/-- The texts of a target. -/
def TargetSettings.texts (target : TargetSettings Text) : List Text :=
  [target.name, target.host, target.telemetryEndpoint, target.username, target.connectionMode] ++
    target.tags.toList ++ target.sseEndpoint.toList

/-- A target whose name, host and port are valid, and that has no space around its texts. -/
structure ValidTarget (library : HostLibrary) (target : TargetSettings Text) : Prop where
  named : ∃ name, validateName target.name = .ok name
  hosted : ∃ host, validateHost library target.host = .ok host
  ported : 1 ≤ target.port ∧ target.port ≤ 65535
  trimmed : ∀ chars ∈ target.texts, Strings.strip chars = chars

/-- A target with other tags. -/
def TargetSettings.withTags {Tags Tags' : Type} (target : TargetSettings Tags)
    (tags : Option Tags') : TargetSettings Tags' :=
  { name := target.name
    host := target.host
    port := target.port
    useSsl := target.useSsl
    verifySsl := target.verifySsl
    telemetryEndpoint := target.telemetryEndpoint
    username := target.username
    enabled := target.enabled
    pollIntervalOverride := target.pollIntervalOverride
    tags := tags
    connectionMode := target.connectionMode
    sseEndpoint := target.sseEndpoint }

/-- A target has the settings of another, its tags as JSON. -/
structure Recreates (recursionLimit : Nat) (target : TargetSettings Text) (created : NewTarget) :
    Prop where
  settings : created.toTargetSettings = target.withTags created.tags
  tags : Option.Rel (fun raw value => Json.loads recursionLimit raw = .ok value) target.tags
    created.tags

/-- An export with its passwords filled in recreates one target for each row. -/
def RoundTrips (library : HostLibrary) (recursionLimit : Nat) (filename : Text)
    (targets : List (TargetSettings Text)) (passwords : List Text) : Prop :=
  ∃ file importer, fillPasswords passwords (exportTargetsCsv targets) = some file ∧
    importTargetsCsv library recursionLimit [] filename file = .done importer ∧
      List.Forall₂ (Recreates recursionLimit) targets importer.targets

/-- The characters that make a spreadsheet take a text for a formula. -/
def isFormulaMark (point : CodePoint) : Bool := isOneOf ['=', '+', '-', '@', '\t', '\r'] point

/-- The library leaves such a character at the start of a text when it lower-cases the text, and no
IP address starts with one. -/
structure HostLibrary.Lawful (library : HostLibrary) : Prop where
  lower_mark : ∀ mark rest, isFormulaMark mark = true →
    library.lower (mark :: rest) = mark :: library.lower rest
  address_mark : ∀ mark rest, isFormulaMark mark = true → library.ipAddress (mark :: rest) = none

/-- A target that an import can make as it is. -/
structure Restorable (library : HostLibrary) (recursionLimit : Nat)
    (target : TargetSettings Text) : Prop where
  safe : ∀ chars ∈ target.texts, csvSafe chars = chars
  lowered : library.lower target.host = target.host
  endpoint : target.telemetryEndpoint ≠ []
  user : target.username ≠ []
  mode : target.connectionMode ∈ ["direct", "sse"].map Json.text
  stream : target.sseEndpoint ≠ some []
  storable : target.pollIntervalOverride.all isStorable = true
  tagged : ∀ raw ∈ target.tags, ∃ value,
    Json.loads recursionLimit raw = .ok value ∧ value.truthy = true

/-! ### What is read in the cells -/

/-- What is read in the cells of a target. -/
def readCell (target : TargetSettings Text) (password : Text) (field : TargetField) : Text :=
  Strings.strip (filledCell target password field)

theorem mem_texts {target : TargetSettings Text} {chars : Text} :
    chars ∈ target.texts ↔ ∃ field, target.attribute field = .text chars := by
  have optional (value : Option Text) :
      (value.map AttributeValue.text).getD .none = .text chars ↔ value = some chars := by
    cases value <;> simp
  constructor
  · intro listed
    simp only [TargetSettings.texts, List.cons_append, List.nil_append, List.mem_cons,
      List.mem_append, Option.mem_toList] at listed
    obtain rfl | rfl | rfl | rfl | rfl | tags | stream := listed
    · exact ⟨.name, rfl⟩
    · exact ⟨.host, rfl⟩
    · exact ⟨.telemetryEndpoint, rfl⟩
    · exact ⟨.username, rfl⟩
    · exact ⟨.connectionMode, rfl⟩
    · exact ⟨.tags, (optional _).mpr tags⟩
    · exact ⟨.sseEndpoint, (optional _).mpr stream⟩
  · rintro ⟨field, written⟩
    unfold TargetSettings.texts
    cases field with
    | name | host | telemetryEndpoint | username | connectionMode =>
      cases written
      simp
    | tags | sseEndpoint => simp [(optional _).mp written]
    | pollIntervalOverride =>
      cases interval : target.pollIntervalOverride <;>
        simp [TargetSettings.attribute, interval] at written
    | port | useSsl | verifySsl | password | token | enabled => cases written

theorem csvSafe_of_mark {mark : CodePoint} (rest : Text) (marked : isFormulaMark mark = true) :
    csvSafe (mark :: rest) = Json.point '\''.toNat :: mark :: rest :=
  if_pos marked

/-- A text is left alone, or it starts with a mark and gets an apostrophe. -/
theorem csvSafe_cases (chars : Text) : csvSafe chars = chars ∨
    ∃ mark rest, chars = mark :: rest ∧ isFormulaMark mark = true := by
  cases chars with
  | nil => exact .inl rfl
  | cons mark rest =>
    cases marked : isFormulaMark mark with
    | true => exact .inr ⟨mark, rest, rfl, marked⟩
    | false => exact .inl (if_neg (by simpa [isFormulaMark] using marked))

/-- Nothing is stripped from the cell of a text without space around it. -/
theorem strip_csvSafe {chars : Text} (trimmed : Strings.strip chars = chars) :
    Strings.strip (csvSafe chars) = csvSafe chars := by
  rcases csvSafe_cases chars with same | ⟨mark, rest, rfl, marked⟩
  · rw [same, trimmed]
  · rw [csvSafe_of_mark rest marked]
    exact Strings.strip_cons (by decide) trimmed (List.cons_ne_nil _ _)

theorem strip_cell {value : AttributeValue}
    (trimmed : ∀ chars, value = .text chars → Strings.strip chars = chars) :
    Strings.strip value.cell = value.cell := by
  cases value with
  | none => rfl
  | text value => exact strip_csvSafe (trimmed value rfl)
  | bool value => cases value <;> decide
  | int value => exact Strings.strip_decimal value

/-- The cells that are not filled in hold the attributes. -/
theorem readCell_eq {target : TargetSettings Text} (password : Text) {field : TargetField}
    (trimmed : ∀ chars ∈ target.texts, Strings.strip chars = chars)
    (other : field ≠ .password) :
    readCell target password field = (target.attribute field).cell := by
  unfold readCell filledCell
  rw [if_neg other]
  split
  · next blank =>
    obtain rfl : field = .token := by
      cases field <;> simp_all [exportBlankFields]
    rfl
  · exact strip_cell fun chars written => trimmed chars (mem_texts.mpr ⟨field, written⟩)

/-! ### Fields that come back -/

theorem validateName_returns {name result : Text} (valid : validateName name = .ok result) :
    result = Strings.strip name := by
  unfold validateName at valid
  split at valid
  · cases valid
  · split at valid
    · cases valid
    · split at valid
      · exact (Except.ok.inj valid).symm
      · cases valid

theorem validateHost_returns {library : HostLibrary} {host result : Text}
    (valid : validateHost library host = .ok result) :
    result = library.lower (Strings.strip host) :=
  (validateHost_eq_ok_iff.mp valid).2.2.symm

theorem flag_read (value : Bool) :
    ((["true", "1", "yes"].map Json.text).any fun yes =>
      decide (Strings.lower (AttributeValue.bool value).cell = yes)) = value := by
  cases value <;> decide

theorem read_optional (value : Option Text) :
    ((value.map AttributeValue.text).getD .none).cell = csvSafe (value.getD []) := by
  cases value <;> rfl

theorem csvSafe_ne_nil {chars : Text} : csvSafe chars ≠ [] ↔ chars ≠ [] := by
  rcases csvSafe_cases chars with same | ⟨mark, rest, rfl, marked⟩
  · rw [same]
  · rw [csvSafe_of_mark rest marked]
    exact iff_of_true (List.cons_ne_nil _ _) (List.cons_ne_nil _ _)

/-- A text that a default replaces when it is empty comes back when it is not empty, and safe. -/
theorem orElse_csvSafe {chars default : Text} (filled : default ≠ []) :
    orElse (csvSafe chars) default = chars ↔ chars ≠ [] ∧ csvSafe chars = chars := by
  unfold orElse
  split
  · next empty =>
    have none : chars = [] := not_not.mp (mt csvSafe_ne_nil.mpr (not_not_intro empty))
    simp [none, filled]
  · next other => exact ⟨fun same => ⟨csvSafe_ne_nil.mp other, same⟩, And.right⟩

theorem orNone_csvSafe {value : Option Text} : orNone (csvSafe (value.getD [])) = value ↔
    value ≠ some [] ∧ ∀ chars ∈ value, csvSafe chars = chars := by
  cases value with
  | none => simp [orNone, csvSafe]
  | some chars =>
    by_cases empty : csvSafe chars = []
    · have none : chars = [] := not_not.mp (mt csvSafe_ne_nil.mpr (not_not_intro empty))
      simp [orNone, none]
    · simp [orNone, empty, csvSafe_ne_nil.mp empty]

/-- No JSON starts with an apostrophe. -/
theorem loads_apostrophe (recursionLimit : Nat) (rest : Text) :
    Json.loads recursionLimit (Json.point '\''.toNat :: rest) = .error .malformed := rfl

/-- A text of tags comes back as its JSON when it is safe, and its value is not false. -/
theorem tags_come_back {recursionLimit : Nat} {raw : Option Text} :
    (∃ tags, ((orNone (csvSafe (raw.getD []))).mapM fun chars =>
        (Json.loads recursionLimit chars).mapError ImportError.json) = .ok tags ∧
      Option.Rel (fun chars value => Json.loads recursionLimit chars = .ok value) raw
        (tags.filter Json.truthy)) ↔
      ∀ chars ∈ raw, csvSafe chars = chars ∧
        ∃ value, Json.loads recursionLimit chars = .ok value ∧ value.truthy = true := by
  cases raw with
  | none => exact iff_of_true ⟨none, rfl, .none⟩ (by simp)
  | some chars =>
    have only : (∀ other ∈ some chars, csvSafe other = other ∧
        ∃ value, Json.loads recursionLimit other = .ok value ∧ value.truthy = true) ↔
          csvSafe chars = chars ∧
            ∃ value, Json.loads recursionLimit chars = .ok value ∧ value.truthy = true :=
      ⟨fun each => each chars rfl, fun found other same => Option.some.inj same ▸ found⟩
    rw [only]
    constructor
    · rintro ⟨tags, read, same⟩
      cases kept : tags.filter Json.truthy with
      | none =>
        rw [kept] at same
        cases same
      | some value =>
        rw [kept] at same
        cases same with
        | some loaded =>
          refine ⟨?_, value, loaded, (Option.filter_eq_some_iff.mp kept).2⟩
          rcases csvSafe_cases chars with safe | ⟨mark, rest, rfl, marked⟩
          · exact safe
          · rw [Option.getD_some, csvSafe_of_mark rest marked, orNone,
              if_neg (List.cons_ne_nil _ _), Option.mapM_some, loads_apostrophe] at read
            cases read
    · rintro ⟨safe, value, loaded, truthy⟩
      have filled : chars ≠ [] := by
        rintro rfl
        cases loaded
      refine ⟨some value, ?_, ?_⟩
      · rw [Option.getD_some, safe, orNone, if_neg filled, Option.mapM_some, loaded]
        rfl
      · rw [Option.filter_some_pos truthy]
        exact .some loaded

theorem natAbs_lt_of_isStorable {number : Int} (storable : isStorable number = true) :
    number.natAbs < 10 ^ 19 := by
  simp only [isStorable, Bool.and_eq_true, decide_eq_true_eq] at storable
  omega

theorem readInt_decimal {number : Int} (bounded : number.natAbs < 10 ^ 19) :
    readInt (Strings.decimal number) = .ok number :=
  readInt_eq_ok.mpr (Strings.toInt_decimal
    (Nat.lt_of_lt_of_le bounded (Nat.pow_le_pow_right (by decide) (by decide))))

theorem decimal_ne_nil {number : Int} (bounded : number.natAbs < 10 ^ 19) :
    Strings.decimal number ≠ [] :=
  List.ne_nil_of_length_pos (Strings.length_decimal (by decide) bounded).1

theorem interval_comes_back {interval : Option Int} (storable : interval.all isStorable = true) :
    (orNone ((interval.map AttributeValue.int).getD .none).cell).mapM readInt = .ok interval := by
  cases interval with
  | none => rfl
  | some number =>
    have bounded := natAbs_lt_of_isStorable storable
    rw [Option.map_some, Option.getD_some, AttributeValue.cell, orNone,
      if_neg (decimal_ne_nil bounded), Option.mapM_some, readInt_decimal bounded]
    rfl

/-! ### A row -/

theorem isAlphanumeric_of_mark {mark : CodePoint} (marked : isFormulaMark mark = true) :
    isAlphanumeric mark = false := by
  simp only [isFormulaMark, isOneOf, List.any_cons, List.any_nil, Bool.or_false, Bool.or_eq_true,
    decide_eq_true_eq] at marked
  obtain rfl | rfl | rfl | rfl | rfl | rfl := marked <;> decide

/-- A valid name is no formula. -/
theorem csvSafe_name {name result : Text} (valid : validateName name = .ok result)
    (trimmed : Strings.strip name = name) : csvSafe name = name := by
  rcases csvSafe_cases name with safe | ⟨mark, rest, rfl, marked⟩
  · exact safe
  · exfalso
    unfold validateName at valid
    rw [trimmed] at valid
    split at valid
    · cases valid
    · split at valid
      · cases valid
      · split at valid
        · next shaped =>
          have starts : isAlphanumeric mark = true := shaped.1
          exact absurd starts (by simp [isAlphanumeric_of_mark marked])
        · cases valid

/-- No hostname starts with such a character: it is a dash, or in no label. -/
theorem isHostname_of_mark {mark : CodePoint} (rest : Text) (marked : isFormulaMark mark = true) :
    isHostname (mark :: rest) = false := by
  have noDot : mark ≠ Json.point '.'.toNat := by
    rintro rfl
    exact absurd marked (by decide)
  obtain ⟨label, labels, parts⟩ : ∃ label labels,
      Strings.split (Json.point '.'.toNat) (mark :: rest) = (mark :: label) :: labels := by
    rw [Strings.split, if_neg noDot]
    split
    · exact ⟨_, _, rfl⟩
    · exact ⟨_, _, rfl⟩
  cases dash : isOneOf ['-'] mark with
  | true => simp [isHostname, dash]
  | false =>
    have bad : isHostLabel (mark :: label) = false := by
      simp [isHostLabel, isAlphanumeric_of_mark marked, dash]
    unfold isHostname
    rw [parts]
    simp [bad]

/-- A valid host is no formula. -/
theorem csvSafe_host {library : HostLibrary} (lawful : library.Lawful) {host result : Text}
    (valid : validateHost library host = .ok result) (trimmed : Strings.strip host = host) :
    csvSafe host = host := by
  rcases csvSafe_cases host with safe | ⟨mark, rest, rfl, marked⟩
  · exact safe
  · exfalso
    obtain ⟨-, accepted, -⟩ := validateHost_eq_ok_iff.mp valid
    rw [trimmed, lawful.lower_mark mark rest marked, acceptsHost,
      lawful.address_mark mark _ marked, isHostname_of_mark _ marked] at accepted
    simp at accepted

/-- What holds of all texts of a target holds of each. -/
theorem forall_texts {target : TargetSettings Text} {holds : Text → Prop} :
    (∀ chars ∈ target.texts, holds chars) ↔
      holds target.name ∧ holds target.host ∧ holds target.telemetryEndpoint ∧
        holds target.username ∧ holds target.connectionMode ∧
          (∀ chars ∈ target.tags, holds chars) ∧ ∀ chars ∈ target.sseEndpoint, holds chars := by
  simp [TargetSettings.texts, or_imp, forall_and]

/-- What is read in the cells of a target: the names as they are, other texts with the apostrophe
of a formula, numbers and truth values as their texts. -/
structure ReadsBack (target : TargetSettings Text) (cells : TargetField → Text) : Prop where
  name : cells .name = target.name
  host : cells .host = target.host
  port : cells .port = Strings.decimal target.port
  useSsl : cells .useSsl = (AttributeValue.bool target.useSsl).cell
  verifySsl : cells .verifySsl = (AttributeValue.bool target.verifySsl).cell
  enabled : cells .enabled = (AttributeValue.bool target.enabled).cell
  telemetryEndpoint : cells .telemetryEndpoint = csvSafe target.telemetryEndpoint
  username : cells .username = csvSafe target.username
  pollIntervalOverride : cells .pollIntervalOverride =
    ((target.pollIntervalOverride.map AttributeValue.int).getD .none).cell
  tags : cells .tags = csvSafe (target.tags.getD [])
  connectionMode : cells .connectionMode = csvSafe target.connectionMode
  sseEndpoint : cells .sseEndpoint = csvSafe (target.sseEndpoint.getD [])

/-- The names of a valid target are no formulas. -/
theorem ValidTarget.safe {library : HostLibrary} {target : TargetSettings Text}
    (valid : ValidTarget library target) (lawful : library.Lawful) :
    csvSafe target.name = target.name ∧ csvSafe target.host = target.host := by
  obtain ⟨name, named⟩ := valid.named
  obtain ⟨host, hosted⟩ := valid.hosted
  obtain ⟨trimmedName, trimmedHost, -⟩ := forall_texts.mp valid.trimmed
  exact ⟨csvSafe_name named trimmedName, csvSafe_host lawful hosted trimmedHost⟩

theorem ValidTarget.readsBack {library : HostLibrary} {target : TargetSettings Text}
    (valid : ValidTarget library target) (lawful : library.Lawful) (password : Text) :
    ReadsBack target (readCell target password) := by
  have read {field : TargetField} (other : field ≠ .password) :=
    readCell_eq password valid.trimmed other
  obtain ⟨safeName, safeHost⟩ := valid.safe lawful
  exact {
    name := (read (by decide)).trans safeName
    host := (read (by decide)).trans safeHost
    port := read (by decide)
    useSsl := read (by decide)
    verifySsl := read (by decide)
    enabled := read (by decide)
    telemetryEndpoint := read (by decide)
    username := read (by decide)
    pollIntervalOverride := read (by decide)
    tags := (read (by decide)).trans (read_optional _)
    connectionMode := read (by decide)
    sseEndpoint := (read (by decide)).trans (read_optional _) }

/-- A valid target that a row makes again is restorable. -/
theorem restorable_of_recreates {library : HostLibrary} (lawful : library.Lawful)
    {recursionLimit : Nat} {target : TargetSettings Text} {cells : TargetField → Text}
    {created : NewTarget} (valid : ValidTarget library target) (reads : ReadsBack target cells)
    (passes : Passes library recursionLimit cells target.name target.host created)
    (recreates : Recreates recursionLimit target created) :
    Restorable library recursionLimit target := by
  obtain ⟨tags, tagged, made⟩ := passes.tagged
  have settings := recreates.settings
  have same := recreates.tags
  rw [made] at settings same
  simp only [madeTarget, TargetSettings.withTags, TargetSettings.mk.injEq, reads.telemetryEndpoint,
    reads.username, reads.connectionMode, reads.sseEndpoint] at settings same
  obtain ⟨-, sameHost, -, -, -, endpoint, user, -, interval, -, mode, stream⟩ := settings
  rw [reads.tags] at tagged
  have kept := tags_come_back.mp ⟨tags, tagged, same⟩
  obtain ⟨filledEndpoint, safeEndpoint⟩ := (orElse_csvSafe (by decide)).mp endpoint
  obtain ⟨-, safeMode⟩ := (orElse_csvSafe (by decide)).mp mode
  obtain ⟨filledStream, safeStream⟩ := orNone_csvSafe.mp stream
  obtain ⟨safeName, safeHost⟩ := valid.safe lawful
  obtain ⟨-, trimmed, -⟩ := forall_texts.mp valid.trimmed
  have userPassed := passes.user
  have modePassed := passes.mode
  have storable := passes.storable
  rw [reads.username, user] at userPassed
  rw [reads.connectionMode, mode] at modePassed
  rw [interval] at storable
  exact {
    safe := forall_texts.mpr ⟨safeName, safeHost, safeEndpoint, user, safeMode,
      fun raw listed => (kept raw listed).1, safeStream⟩
    lowered := by rw [← trimmed, ← validateHost_returns passes.hosted, trimmed, sameHost]
    endpoint := filledEndpoint
    user := userPassed
    mode := modePassed
    stream := filledStream
    storable := storable
    tagged := fun raw listed => (kept raw listed).2 }

/-- The settings that a row of a restorable target makes. -/
theorem Restorable.madeTarget_eq {library : HostLibrary} {recursionLimit : Nat}
    {target : TargetSettings Text} {cells : TargetField → Text}
    (restorable : Restorable library recursionLimit target) (reads : ReadsBack target cells)
    (tags : Option Json) :
    (madeTarget cells target.name target.host target.port target.pollIntervalOverride
      tags).toTargetSettings = target.withTags (tags.filter Json.truthy) := by
  obtain ⟨-, -, safeEndpoint, safeUser, safeMode, -, safeStream⟩ :=
    forall_texts.mp restorable.safe
  have endpoint : orElse (csvSafe target.telemetryEndpoint) defaultTelemetryEndpoint =
      target.telemetryEndpoint :=
    (orElse_csvSafe (by decide)).mpr ⟨restorable.endpoint, safeEndpoint⟩
  have mode : orElse (csvSafe target.connectionMode) (Json.text "direct") =
      target.connectionMode := by
    refine (orElse_csvSafe (by decide)).mpr ⟨fun empty => ?_, safeMode⟩
    exact absurd (empty ▸ restorable.mode) (by decide)
  have stream : orNone (csvSafe (target.sseEndpoint.getD [])) = target.sseEndpoint :=
    orNone_csvSafe.mpr ⟨restorable.stream, safeStream⟩
  simp only [madeTarget, TargetSettings.withTags, reads.useSsl, reads.verifySsl, reads.enabled,
    reads.telemetryEndpoint, reads.username, reads.connectionMode, reads.sseEndpoint, flag_read,
    endpoint, safeUser, mode, stream]

/-- The row of a restorable target makes it again. -/
theorem recreates_of_restorable {library : HostLibrary} {recursionLimit : Nat}
    {target : TargetSettings Text} {cells : TargetField → Text}
    (valid : ValidTarget library target) (reads : ReadsBack target cells)
    (secret : cells .password ≠ []) (restorable : Restorable library recursionLimit target) :
    ∃ created, Passes library recursionLimit cells target.name target.host created ∧
      Recreates recursionLimit target created := by
  obtain ⟨name, named⟩ := valid.named
  obtain ⟨host, hosted⟩ := valid.hosted
  obtain ⟨trimmedName, trimmedHost, -⟩ := forall_texts.mp valid.trimmed
  obtain ⟨-, -, -, safeUser, -, safeTags, -⟩ := forall_texts.mp restorable.safe
  obtain ⟨tags, tagged, same⟩ := tags_come_back.mpr fun raw listed =>
    ⟨safeTags raw listed, restorable.tagged raw listed⟩
  have settings := restorable.madeTarget_eq reads tags
  have bounded : target.port.natAbs < 10 ^ 19 := by
    have inRange := valid.ported
    omega
  refine ⟨madeTarget cells target.name target.host target.port target.pollIntervalOverride tags,
    { named := ?_, hosted := ?_, ported := ?_, inRange := valid.ported, mode := ?_, user := ?_,
      secret := secret, interval := ?_, storable := restorable.storable,
      tagged := ⟨tags, reads.tags ▸ tagged, rfl⟩ },
    { settings := settings, tags := same }⟩
  · rw [named, validateName_returns named, trimmedName]
    rfl
  · rw [hosted, validateHost_returns hosted, trimmedHost, restorable.lowered]
    rfl
  · rw [reads.port, orElse, if_neg (decimal_ne_nil bounded)]
    exact readInt_eq_ok.mp (readInt_decimal bounded)
  · have mode : orElse (cells .connectionMode) (Json.text "direct") = target.connectionMode :=
      congrArg TargetSettings.connectionMode settings
    rw [mode]
    exact restorable.mode
  · rw [reads.username, safeUser]
    exact restorable.user
  · rw [reads.pollIntervalOverride]
    exact interval_comes_back restorable.storable

/-- The importer makes a valid target again exactly when it is restorable. -/
theorem recreates_iff {library : HostLibrary} (lawful : library.Lawful) {recursionLimit : Nat}
    {target : TargetSettings Text} {password : Text} (valid : ValidTarget library target)
    (secret : Strings.strip password ≠ []) :
    (∃ created, Passes library recursionLimit (readCell target password)
      (readCell target password .name) (readCell target password .host) created ∧
        Recreates recursionLimit target created) ↔ Restorable library recursionLimit target := by
  have reads := valid.readsBack lawful password
  rw [reads.name, reads.host]
  exact ⟨fun ⟨_, passes, recreates⟩ => restorable_of_recreates lawful valid reads passes recreates,
    recreates_of_restorable valid reads secret⟩

/-! ### Rows one after the other -/

/-- A target with the password that is filled in for it. -/
abbrev Entry := TargetSettings Text × Text

/-- A row of an entry may make a target. -/
def Makes (library : HostLibrary) (recursionLimit : Nat) (entry : Entry) (created : NewTarget) :
    Prop :=
  Passes library recursionLimit (readCell entry.1 entry.2) (readCell entry.1 entry.2 .name)
    (readCell entry.1 entry.2 .host) created

theorem importNext_eq_ok {library : HostLibrary} {recursionLimit : Nat}
    {fieldnames row : Csv.Row CodePoint} {importer next : Importer} {number : Nat}
    (imported : importRow library recursionLimit importer number
      (normalizeImportRow (dictRow fieldnames row)) = some next) :
    importNext library recursionLimit fieldnames importer (row, number) = .ok next := by
  unfold importNext
  rw [imported]

/-- A row of an entry takes a step. -/
theorem importNext_step (library : HostLibrary) (recursionLimit : Nat) (entry : Entry)
    (importer : Importer) (number : Nat) :
    ∃ next, importNext library recursionLimit exportHeaders importer
        (filledRow entry.1 entry.2, number) = .ok next ∧
      RowStep library recursionLimit importer number
        (normalizeImportRow (dictRow exportHeaders (filledRow entry.1 entry.2)))
        (readCell entry.1 entry.2 .name) (readCell entry.1 entry.2 .host) next := by
  have reads := cellText_filledRow entry.1 entry.2
  obtain ⟨next, imported, step⟩ := importRow_step library recursionLimit importer number
    (reads .name []) (reads .host [])
  exact ⟨next, importNext_eq_ok imported, step⟩

/-- A row makes at most one target. -/
theorem importNext_entry {library : HostLibrary} {recursionLimit : Nat} (entry : Entry)
    (importer : Importer) (number : Nat) :
    ∃ next, importNext library recursionLimit exportHeaders importer
        (filledRow entry.1 entry.2, number) = .ok next ∧
      (next.targets = importer.targets ∨
        ∃ created, next.targets = importer.targets ++ [created] ∧
          Makes library recursionLimit entry created) := by
  have reads := cellText_filledRow entry.1 entry.2
  obtain ⟨next, imported, step⟩ :=
    importNext_step library recursionLimit entry importer number
  refine ⟨next, imported, ?_⟩
  cases step with
  | blank => exact .inl rfl
  | skipped => exact .inl rfl
  | refused => exact .inl rfl
  | misplaced _ _ made => exact .inr ⟨_, rfl, (readTarget_eq_ok reads).mp made⟩
  | created _ _ made => exact .inr ⟨_, rfl, (readTarget_eq_ok reads).mp made⟩

/-- A row whose host is new makes its target. -/
theorem importNext_creates {library : HostLibrary} {recursionLimit : Nat} {entry : Entry}
    {importer : Importer} {created : NewTarget} (number : Nat)
    (named : readCell entry.1 entry.2 .name ≠ [])
    (fresh : library.lower (readCell entry.1 entry.2 .host) ∉ importer.existingHosts)
    (makes : Makes library recursionLimit entry created) :
    ∃ next, importNext library recursionLimit exportHeaders importer
        (filledRow entry.1 entry.2, number) = .ok next ∧
      next.targets = importer.targets ++ [created] ∧
        next.existingHosts = library.lower created.host :: importer.existingHosts := by
  have made : readTarget library recursionLimit
      (normalizeImportRow (dictRow exportHeaders (filledRow entry.1 entry.2)))
      (readCell entry.1 entry.2 .name) (readCell entry.1 entry.2 .host) = .ok created :=
    (readTarget_eq_ok (cellText_filledRow entry.1 entry.2)).mpr makes
  obtain ⟨next, imported, step⟩ :=
    importNext_step library recursionLimit entry importer number
  refine ⟨next, imported, ?_⟩
  cases step with
  | blank noName => exact absurd noName named
  | skipped _ known => exact absurd known fresh
  | refused _ _ refused => exact absurd (refused.symm.trans made) (by simp)
  | misplaced _ _ _ unplaced =>
    rw [placementFromCsvRow_filledRow] at unplaced
    cases unplaced
  | created _ _ made' =>
    obtain rfl := Except.ok.inj (made'.symm.trans made)
    exact ⟨rfl, rfl⟩

/-- An import of rows makes at most one target for each, and if it is one for each, each row has
made its own. -/
theorem importRows_bounded (library : HostLibrary) (recursionLimit : Nat) (entries : List Entry)
    (start : Nat) (importer : Importer) :
    ∃ last added, ((entries.map fun entry => filledRow entry.1 entry.2).zipIdx start).foldlM
        (importNext library recursionLimit exportHeaders) importer = .ok last ∧
      last.targets = importer.targets ++ added ∧ added.length ≤ entries.length ∧
        (added.length = entries.length →
          List.Forall₂ (Makes library recursionLimit) entries added) := by
  induction entries generalizing start importer with
  | nil => exact ⟨importer, [], rfl, (List.append_nil _).symm, Nat.le_refl 0, fun _ => .nil⟩
  | cons entry rest inductionHypothesis =>
    obtain ⟨next, imported, made⟩ := importNext_entry entry importer start
    obtain ⟨last, added, run, targets, bound, each⟩ := inductionHypothesis (start + 1) next
    have whole : (((entry :: rest).map fun entry => filledRow entry.1 entry.2).zipIdx start).foldlM
        (importNext library recursionLimit exportHeaders) importer = .ok last := by
      rw [List.map_cons, List.zipIdx_cons, List.foldlM_cons, imported]
      exact run
    obtain same | ⟨created, grown, makes⟩ := made
    · refine ⟨last, added, whole, by rw [targets, same], ?_, fun full => ?_⟩
      · rw [List.length_cons]
        omega
      · rw [List.length_cons] at full
        omega
    · refine ⟨last, created :: added, whole, ?_, Nat.succ_le_succ bound, fun full => ?_⟩
      · rw [targets, grown, List.append_assoc, List.singleton_append]
      · exact .cons makes (each (Nat.succ.inj full))

/-- Rows that are restorable, with hosts of their own, all make their targets again. -/
theorem importRows_recreates (library : HostLibrary) (recursionLimit : Nat) {entries : List Entry}
    (named : ∀ entry ∈ entries, readCell entry.1 entry.2 .name ≠ [])
    (hosted : ∀ entry ∈ entries, library.lower (readCell entry.1 entry.2 .host) = entry.1.host)
    (lowered : ∀ entry ∈ entries, library.lower entry.1.host = entry.1.host)
    (distinct : (entries.map fun entry => entry.1.host).Nodup)
    (each : ∀ entry ∈ entries, ∃ created, Makes library recursionLimit entry created ∧
      Recreates recursionLimit entry.1 created)
    (start : Nat) (importer : Importer)
    (fresh : ∀ entry ∈ entries, entry.1.host ∉ importer.existingHosts) :
    ∃ last added, ((entries.map fun entry => filledRow entry.1 entry.2).zipIdx start).foldlM
        (importNext library recursionLimit exportHeaders) importer = .ok last ∧
      last.targets = importer.targets ++ added ∧
        List.Forall₂ (fun entry created => Recreates recursionLimit entry.1 created) entries
          added := by
  induction entries generalizing start importer with
  | nil => exact ⟨importer, [], rfl, (List.append_nil _).symm, .nil⟩
  | cons entry rest inductionHypothesis =>
    rw [List.map_cons, List.nodup_cons] at distinct
    rw [List.forall_mem_cons] at named hosted lowered each fresh
    obtain ⟨created, makes, recreates⟩ := each.1
    obtain ⟨next, imported, grown, hosts⟩ := importNext_creates start named.1
      (by rw [hosted.1]; exact fresh.1) makes
    have host : created.host = entry.1.host :=
      congrArg (fun settings : TargetSettings Json => settings.host) recreates.settings
    obtain ⟨last, added, run, targets, all⟩ := inductionHypothesis named.2 hosted.2 lowered.2
      distinct.2 each.2 (start + 1) next (by
        intro other member
        rw [hosts, host, lowered.1, List.mem_cons, not_or]
        exact ⟨fun same => distinct.1 (List.mem_map.mpr ⟨other, member, same⟩),
          fresh.2 other member⟩)
    refine ⟨last, created :: added, ?_, ?_, .cons recreates all⟩
    · rw [List.map_cons, List.zipIdx_cons, List.foldlM_cons, imported]
      exact run
    · rw [targets, grown, List.append_assoc, List.singleton_append]

/-! ### Files -/

/-- An exported file with its passwords filled in. -/
def filledFile (targets : List (TargetSettings Text)) (passwords : List Text) : Text :=
  Csv.write excelPoints .crlf (exportHeaders :: targets.zipWith filledRow passwords)

/-- A file that the importer reads to its end: it is not too large, and no cell is too long. -/
structure Fits (targets : List (TargetSettings Text)) (passwords : List Text) : Prop where
  size : utf8Size (filledFile targets passwords) ≤ maxCsvSize
  cells : ∀ row ∈ targets.zipWith filledRow passwords, ∀ cell ∈ row, cell.length ≤ fieldSizeLimit

theorem dropByteOrderMark_filledFile (targets : List (TargetSettings Text))
    (passwords : List Text) :
    dropByteOrderMark (filledFile targets passwords) = filledFile targets passwords := by
  obtain ⟨rest, written⟩ : ∃ rest,
      Csv.writeRow excelPoints .crlf exportHeaders = Json.point 'h'.toNat :: rest := ⟨_, rfl⟩
  unfold filledFile Csv.write
  rw [List.flatMap_cons, written, List.cons_append, dropByteOrderMark, if_neg (by decide)]

theorem headers_short : ∀ header ∈ exportHeaders, header.length ≤ fieldSizeLimit := by
  decide

/-- An import of a filled file reports exactly when the file fits and its rows are imported. -/
theorem import_filledFile_eq_done {library : HostLibrary} {recursionLimit : Nat} {filename : Text}
    {targets : List (TargetSettings Text)} {passwords : List Text} {importer : Importer}
    (csv : (Json.text ".csv").isSuffixOf (Strings.lower filename) = true) :
    importTargetsCsv library recursionLimit [] filename (filledFile targets passwords) =
        .done importer ↔
      Fits targets passwords ∧
        (((targets.zip passwords).map fun entry => filledRow entry.1 entry.2).zipIdx 2).foldlM
          (importNext library recursionLimit exportHeaders) { existingHosts := [] } =
            .ok importer := by
  have rowsEq : targets.zipWith filledRow passwords =
      (targets.zip passwords).map fun entry => filledRow entry.1 entry.2 := by
    rw [List.zip, List.map_zipWith]
  have kept : (targets.zipWith filledRow passwords).filter (fun row => decide (row ≠ [])) =
      targets.zipWith filledRow passwords := by
    refine List.filter_eq_self.mpr fun row listed => ?_
    rw [rowsEq] at listed
    obtain ⟨entry, -, rfl⟩ := List.mem_map.mp listed
    exact decide_eq_true (List.cons_ne_nil _ _)
  have running : (Csv.readAll excelPoints (some fieldSizeLimit)
      (filledFile targets passwords)).failed = false ↔
        ∀ row ∈ targets.zipWith filledRow passwords, ∀ cell ∈ row,
          cell.length ≤ fieldSizeLimit := by
    rw [filledFile, Csv.readAll_write_running_iff, List.forall_mem_cons]
    simp only [Csv.Within, Option.mem_def, Option.some.injEq, forall_eq']
    exact and_iff_right headers_short
  rw [importTargetsCsv_eq_done csv, dropByteOrderMark_filledFile, running]
  constructor
  · rintro ⟨size, cells, fieldnames, rows, read, -, -, imported⟩
    have all : ∀ row ∈ exportHeaders :: targets.zipWith filledRow passwords, ∀ cell ∈ row,
        Csv.Within (some fieldSizeLimit) cell.length := by
      simp only [Csv.Within, Option.mem_def, Option.some.injEq, forall_eq']
      exact List.forall_mem_cons.mpr ⟨headers_short, cells⟩
    rw [filledFile, Csv.readAll_write .crlf all] at read
    obtain ⟨rfl, rfl⟩ := List.cons.inj read
    rw [importRows, kept, rowsEq] at imported
    exact ⟨⟨size, cells⟩, imported⟩
  · rintro ⟨⟨size, cells⟩, imported⟩
    have all : ∀ row ∈ exportHeaders :: targets.zipWith filledRow passwords, ∀ cell ∈ row,
        Csv.Within (some fieldSizeLimit) cell.length := by
      simp only [Csv.Within, Option.mem_def, Option.some.injEq, forall_eq']
      exact List.forall_mem_cons.mpr ⟨headers_short, cells⟩
    refine ⟨size, cells, exportHeaders, targets.zipWith filledRow passwords, ?_, by decide,
      by decide, ?_⟩
    · rw [filledFile, Csv.readAll_write .crlf all]
    · rw [importRows, kept, rowsEq]
      exact imported

/-! ### Round trips -/

theorem exists_of_forall₂ {Item Value : Type} {first second : Item → Value → Prop}
    {items : List Item} {values : List Value} (all : List.Forall₂ first items values)
    (all' : List.Forall₂ second items values) {item : Item} (listed : item ∈ items) :
    ∃ value, first item value ∧ second item value := by
  induction all with
  | nil => cases listed
  | cons holds _ inductionHypothesis =>
    cases all' with
    | cons holds' rest =>
      rcases List.mem_cons.mp listed with rfl | later
      · exact ⟨_, holds, holds'⟩
      · exact inductionHypothesis rest later

section RoundTrip

variable {library : HostLibrary} {recursionLimit : Nat} {filename : Text}
  {targets : List (TargetSettings Text)} {passwords : List Text}

/-- The targets of an export that comes back are restorable, and its file fits. -/
theorem RoundTrips.restorable (lawful : library.Lawful)
    (csv : (Json.text ".csv").isSuffixOf (Strings.lower filename) = true)
    (valid : ∀ target ∈ targets, ValidTarget library target)
    (filled : passwords.length = targets.length)
    (secret : ∀ password ∈ passwords, Strings.strip password ≠ [])
    (returned : RoundTrips library recursionLimit filename targets passwords) :
    (∀ target ∈ targets, Restorable library recursionLimit target) ∧ Fits targets passwords := by
  have firsts : (targets.zip passwords).map Prod.fst = targets := List.map_fst_zip (by omega)
  obtain ⟨file, importer, found, done, each⟩ := returned
  obtain rfl := Option.some.inj ((fillPasswords_export targets passwords).symm.trans found)
  obtain ⟨fits, imported⟩ := (import_filledFile_eq_done csv).mp done
  obtain ⟨last, added, run, grown, -, own⟩ := importRows_bounded library recursionLimit
    (targets.zip passwords) 2 { existingHosts := [] }
  obtain rfl := Except.ok.inj (run.symm.trans imported)
  rw [List.nil_append] at grown
  rw [grown] at each
  have made := own (by
    rw [← each.length_eq, List.length_zip]
    omega)
  rw [← firsts, List.forall₂_map_left_iff] at each
  refine ⟨fun target listed => ?_, fits⟩
  rw [← firsts] at listed
  obtain ⟨entry, member, rfl⟩ := List.mem_map.mp listed
  obtain ⟨created, makes, recreates⟩ := exists_of_forall₂ made each member
  exact (recreates_iff lawful (valid entry.1 (List.of_mem_zip member).1)
    (secret entry.2 (List.of_mem_zip member).2)).mp ⟨created, makes, recreates⟩

/-- Restorable targets in a file that fits come back. -/
theorem roundTrips_of_restorable (lawful : library.Lawful)
    (csv : (Json.text ".csv").isSuffixOf (Strings.lower filename) = true)
    (valid : ∀ target ∈ targets, ValidTarget library target)
    (distinct : (targets.map fun target => target.host).Nodup)
    (filled : passwords.length = targets.length)
    (secret : ∀ password ∈ passwords, Strings.strip password ≠ [])
    (restorable : ∀ target ∈ targets, Restorable library recursionLimit target)
    (fits : Fits targets passwords) :
    RoundTrips library recursionLimit filename targets passwords := by
  have firsts : (targets.zip passwords).map Prod.fst = targets := List.map_fst_zip (by omega)
  have cells {entry : Entry} (listed : entry ∈ targets.zip passwords) {field : TargetField}
      (other : field ≠ .password) :=
    readCell_eq entry.2 (valid entry.1 (List.of_mem_zip listed).1).trimmed other
  have own {entry : Entry} (listed : entry ∈ targets.zip passwords) :=
    restorable entry.1 (List.of_mem_zip listed).1
  have host {entry : Entry} (listed : entry ∈ targets.zip passwords) :
      readCell entry.1 entry.2 .host = entry.1.host :=
    (cells listed (by decide)).trans
      ((own listed).safe entry.1.host (by simp [TargetSettings.texts]))
  have hosts : ((targets.zip passwords).map fun entry => entry.1.host).Nodup := by
    have same : (targets.zip passwords).map (fun entry => entry.1.host) =
        ((targets.zip passwords).map Prod.fst).map fun target => target.host := by
      rw [List.map_map]
      rfl
    rw [same, firsts]
    exact distinct
  have named : ∀ entry ∈ targets.zip passwords, readCell entry.1 entry.2 .name ≠ [] := by
    intro entry listed
    rw [cells listed (by decide)]
    obtain ⟨name, named⟩ := (valid entry.1 (List.of_mem_zip listed).1).named
    intro empty
    have blank : entry.1.name = [] := not_not.mp (mt csvSafe_ne_nil.mpr (not_not_intro empty))
    rw [blank] at named
    cases named
  obtain ⟨last, added, run, grown, each⟩ := importRows_recreates library recursionLimit named
    (fun entry listed => by rw [host listed, (own listed).lowered])
    (fun entry listed => (own listed).lowered) hosts
    (fun entry listed => (recreates_iff lawful (valid entry.1 (List.of_mem_zip listed).1)
      (secret entry.2 (List.of_mem_zip listed).2)).mpr (own listed)) 2
    { existingHosts := [] } (fun _ _ => List.not_mem_nil)
  refine ⟨_, last, fillPasswords_export targets passwords,
    (import_filledFile_eq_done csv).mpr ⟨fits, run⟩, ?_⟩
  rw [grown, List.nil_append, ← firsts, List.forall₂_map_left_iff]
  exact each

/-- An export comes back exactly when its file fits and each of its targets is restorable. -/
theorem round_trips_iff (lawful : library.Lawful)
    (csv : (Json.text ".csv").isSuffixOf (Strings.lower filename) = true)
    (valid : ∀ target ∈ targets, ValidTarget library target)
    (distinct : (targets.map fun target => target.host).Nodup)
    (filled : passwords.length = targets.length)
    (secret : ∀ password ∈ passwords, Strings.strip password ≠ []) :
    RoundTrips library recursionLimit filename targets passwords ↔
      (∀ target ∈ targets, Restorable library recursionLimit target) ∧ Fits targets passwords :=
  ⟨RoundTrips.restorable lawful csv valid filled secret, fun both =>
    roundTrips_of_restorable lawful csv valid distinct filled secret both.1 both.2⟩

end RoundTrip

/-! ### Two targets -/

/-- A library that lower-cases ASCII and knows no IP address. -/
def asciiLibrary : HostLibrary := ⟨Strings.lower, fun _ => none⟩

theorem asciiLibrary_lawful : asciiLibrary.Lawful where
  lower_mark mark rest marked := by
    simp only [isFormulaMark, isOneOf, List.any_cons, List.any_nil, Bool.or_false, Bool.or_eq_true,
      decide_eq_true_eq] at marked
    obtain rfl | rfl | rfl | rfl | rfl | rfl := marked <;> rfl
  address_mark _ _ _ := rfl

/-- A target with a user name. -/
def namedTarget (username : String) : TargetSettings Text where
  name := Json.text "node-1"
  host := Json.text "bmc-1"
  port := 443
  useSsl := true
  verifySsl := false
  telemetryEndpoint := defaultTelemetryEndpoint
  username := Json.text username
  enabled := true
  pollIntervalOverride := some 30
  tags := some (Json.text "\x7b\"hall\": \"A\"\x7d")
  connectionMode := Json.text "direct"
  sseEndpoint := none

theorem namedTarget_valid {username : String}
    (trimmed : Strings.strip (Json.text username) = Json.text username) :
    ValidTarget asciiLibrary (namedTarget username) where
  named := ⟨Json.text "node-1",
    show validateName (Json.text "node-1") = .ok (Json.text "node-1") by decide⟩
  hosted := ⟨Json.text "bmc-1",
    show validateHost asciiLibrary (Json.text "bmc-1") = .ok (Json.text "bmc-1") by decide⟩
  ported := show (1 : Int) ≤ 443 ∧ (443 : Int) ≤ 65535 by decide
  trimmed := by
    intro chars listed
    simp only [TargetSettings.texts, namedTarget, List.cons_append, List.nil_append,
      List.mem_cons, Option.toList_some, Option.toList_none, List.append_nil, List.not_mem_nil,
      or_false] at listed
    obtain rfl | rfl | rfl | rfl | rfl | rfl := listed
    · decide
    · decide
    · decide
    · exact trimmed
    · decide
    · decide

/-- An ordinary target comes back. -/
theorem adminTarget_round_trips :
    RoundTrips asciiLibrary 1000 (Json.text "targets.csv") [namedTarget "admin"]
      [Json.text "secret"] := by
  refine (round_trips_iff asciiLibrary_lawful (by decide)
    (List.forall_mem_singleton.mpr (namedTarget_valid (by decide))) (by decide) rfl
    (by decide)).mpr ⟨List.forall_mem_singleton.mpr ⟨by decide, by decide, by decide, by decide,
      by decide, by decide, by decide, ?_⟩, by decide +kernel, by decide +kernel⟩
  intro raw tagged
  cases tagged
  exact ⟨_, rfl, rfl⟩

/-- A target whose user name starts like a formula does not come back: the apostrophe that the
exporter puts before it stays. -/
theorem plusTarget_not_round_trips :
    ¬ RoundTrips asciiLibrary 1000 (Json.text "targets.csv") [namedTarget "+svc"]
      [Json.text "secret"] := by
  intro returned
  have restorable := (returned.restorable asciiLibrary_lawful (by decide)
    (List.forall_mem_singleton.mpr (namedTarget_valid (by decide))) rfl (by decide)).1 _
    List.mem_cons_self
  exact absurd (restorable.safe (Json.text "+svc") (by decide)) (by decide)

end Gyanam
