/-
This file follows the row of a target through an import. The cells of an exported
row are found again under the internal names of their columns, whatever is in
them, and a row makes a target exactly when each of its checks passes. Any row
that has a name and a host takes one of five steps.
-/

import Gyanam.Lib.Fallible
import Gyanam.TargetsCsv

namespace Gyanam

open Json (CodePoint Text)

/-! ### Filled rows -/

/-- The cell of a field after the passwords are filled in. -/
def filledCell (target : TargetSettings Text) (password : Text) (field : TargetField) : Text :=
  if field = .password then password
  else if exportBlankFields.any fun blank => decide (field = blank) then []
  else (target.attribute field).cell

/-- The row of a target after the passwords are filled in. -/
def filledRow (target : TargetSettings Text) (password : Text) : Csv.Row CodePoint :=
  exportFields.map fun column => filledCell target password column.2

theorem password_header : ∀ column ∈ exportFields,
    column.1 = TargetField.password.key ↔ column.2 = .password := by
  decide

/-- The file of an export with the passwords filled in. -/
theorem fillPasswords_export (targets : List (TargetSettings Text)) (passwords : List Text) :
    fillPasswords passwords (exportTargetsCsv targets) =
      some (Csv.write excelPoints .crlf
        (exportHeaders :: targets.zipWith filledRow passwords)) := by
  have filled (target : TargetSettings Text) (password : Text) :
      exportHeaders.zipWith (fun name cell =>
        if name = TargetField.password.key then password else cell) (exportRow target) =
          filledRow target password := by
    unfold exportHeaders exportRow filledRow
    rw [List.zipWith_map, List.zipWith_self]
    refine List.map_congr_left fun column member => ?_
    unfold filledCell
    simp only [password_header column member]
  unfold fillPasswords exportTargetsCsv
  rw [Csv.read_write]
  simp only [Option.map_some, List.zipWith_map_left, filled]

/-! ### Hosts -/

/-- The check of a host that is stripped and in lower case. -/
def acceptsHost (library : HostLibrary) (host : Text) : Bool :=
  !(blockedHosts.any fun blocked => decide (host = blocked)) &&
    ((library.ipAddress host = some false) || (library.ipAddress host).isNone && isHostname host)

theorem validateHost_eq_ok_iff {library : HostLibrary} {host result : Text} :
    validateHost library host = .ok result ↔
      Strings.strip host ≠ [] ∧ acceptsHost library (library.lower (Strings.strip host)) = true ∧
        library.lower (Strings.strip host) = result := by
  rw [validateHost, acceptsHost]
  by_cases empty : Strings.strip host = []
  · simp [empty]
  · rw [if_neg empty]
    dsimp only
    cases blockedHosts.any fun blocked => decide (library.lower (Strings.strip host) = blocked) with
    | true => simp
    | false =>
      match library.ipAddress (library.lower (Strings.strip host)) with
      | some true => simp
      | some false => simp [empty]
      | none =>
        cases isHostname (library.lower (Strings.strip host)) <;> simp [empty]

/-! ### Cells -/

theorem exportHeaders_nodup : exportHeaders.Nodup := by
  decide

theorem normalizeImportHeader_exported : ∀ column ∈ exportFields,
    normalizeImportHeader column.1 = column.2.key := by
  decide

theorem exportKeys_nodup : (exportFields.map fun column => column.2.key).Nodup := by
  decide

theorem exists_header (field : TargetField) : ∃ header, (header, field) ∈ exportFields := by
  have listed : field ∈ exportFields.map Prod.snd := by
    cases field <;> decide
  obtain ⟨column, member, rfl⟩ := List.mem_map.mp listed
  exact ⟨column.1, member⟩

/-- The cells of a filled row by the internal names of their columns. -/
theorem rows_normalizeImportRow (target : TargetSettings Text) (password : Text) :
    (normalizeImportRow (dictRow exportHeaders (filledRow target password))).rows =
      exportFields.map fun column =>
        (column.2.key, some (filledCell target password column.2)) := by
  have entries : (exportHeaders.zipIdx.map fun column =>
      (column.1, (filledRow target password)[column.2]?)) =
        exportFields.map fun column => (column.1, some (filledCell target password column.2)) := rfl
  have dict : (dictRow exportHeaders (filledRow target password)).rows =
      exportFields.map fun column => (column.1, some (filledCell target password column.2)) := by
    have filed := Table.rows_foldl_set (Table.empty : ImportRow)
      (show ([] ++ (exportFields.map fun column : Text × TargetField =>
        (column.1, some (filledCell target password column.2))).map Prod.fst).Nodup by
          rw [List.map_map]
          exact exportHeaders_nodup)
    rw [← entries, List.foldl_map] at filed
    rw [← entries]
    exact filed
  have named : ((dictRow exportHeaders (filledRow target password)).rows.map fun entry =>
      (normalizeImportHeader entry.1, entry.2)) =
        exportFields.map fun column =>
          (column.2.key, some (filledCell target password column.2)) := by
    rw [dict, List.map_map]
    refine List.map_congr_left fun column member => ?_
    rw [Function.comp, normalizeImportHeader_exported column member]
  have keys : (exportFields.map fun column : Text × TargetField =>
      (column.2.key, some (filledCell target password column.2))).map Prod.fst =
        exportFields.map fun column => column.2.key := by
    rw [List.map_map]
    rfl
  have filed := Table.rows_foldl_set (Table.empty : ImportRow)
    (show ([] ++ (exportFields.map fun column : Text × TargetField =>
      (column.2.key, some (filledCell target password column.2))).map Prod.fst).Nodup by
        rw [List.nil_append, keys]
        exact exportKeys_nodup)
  rw [← named, List.foldl_map] at filed
  exact filed.trans ((List.nil_append _).trans named)

/-- Every field of a filled row has its cell. -/
theorem cellText_filledRow (target : TargetSettings Text) (password : Text) (field : TargetField)
    (default : Text) :
    cellText (normalizeImportRow (dictRow exportHeaders (filledRow target password))) field
      default = .ok (Strings.strip (filledCell target password field)) := by
  obtain ⟨header, listed⟩ := exists_header field
  have found : (normalizeImportRow (dictRow exportHeaders (filledRow target password))).get
      field.key = some (some (filledCell target password field)) := by
    rw [Table.get_eq_some_iff, rows_normalizeImportRow]
    exact List.mem_map.mpr ⟨_, listed, rfl⟩
  unfold cellText
  rw [found]

/-- A filled row has no placement. -/
theorem placementFromCsvRow_filledRow (target : TargetSettings Text) (password : Text) :
    placementFromCsvRow (normalizeImportRow (dictRow exportHeaders (filledRow target password))) =
      none := by
  have unlisted : ∀ key ∈ ["loc_site", "loc_hall", "loc_row", "loc_rack", "loc_rack_u",
      "loc_rack_u_height", "loc_unit_type"],
      ∀ column ∈ exportFields, column.2.key ≠ Json.text key := by
    decide
  have blank (key : String) (listed : key ∈ ["loc_site", "loc_hall", "loc_row", "loc_rack",
      "loc_rack_u", "loc_rack_u_height", "loc_unit_type"]) :
      locationCell (normalizeImportRow (dictRow exportHeaders (filledRow target password))) key =
        none := by
    have missing : (normalizeImportRow (dictRow exportHeaders (filledRow target password))).get
        (Json.text key) = none := by
      refine Table.get_eq_none_iff.mpr fun member => ?_
      rw [Table.keys, rows_normalizeImportRow, List.map_map] at member
      obtain ⟨column, present, same⟩ := List.mem_map.mp member
      exact unlisted key listed column present same
    rw [locationCell, missing]
    rfl
  unfold placementFromCsvRow
  rw [blank "loc_rack_u" (by decide), blank "loc_rack_u_height" (by decide),
    blank "loc_site" (by decide), blank "loc_hall" (by decide), blank "loc_row" (by decide),
    blank "loc_rack" (by decide), blank "loc_unit_type" (by decide)]
  rfl

/-! ### What a row makes -/

/-- The target that a row makes, from what is read in its cells. -/
def madeTarget (cells : TargetField → Text) (name host : Text) (port : Int)
    (pollIntervalOverride : Option Int) (tags : Option Json) : NewTarget :=
  let flag := fun field => (["true", "1", "yes"].map Json.text).any fun yes =>
    decide (Strings.lower (cells field) = yes)
  { name := name
    host := host
    port := port
    useSsl := flag .useSsl
    verifySsl := flag .verifySsl
    telemetryEndpoint := orElse (cells .telemetryEndpoint) defaultTelemetryEndpoint
    username := cells .username
    password := cells .password
    token := orNone (cells .token)
    enabled := flag .enabled
    pollIntervalOverride := pollIntervalOverride
    tags := tags.filter Json.truthy
    connectionMode := orElse (cells .connectionMode) (Json.text "direct")
    sseEndpoint := orNone (cells .sseEndpoint) }

/-- The checks of a row. -/
structure Passes (library : HostLibrary) (recursionLimit : Nat) (cells : TargetField → Text)
    (name host : Text) (created : NewTarget) : Prop where
  named : validateName name = .ok created.name
  hosted : validateHost library host = .ok created.host
  ported : Strings.toInt (orElse (cells .port) (Json.text "443")) = some created.port
  inRange : 1 ≤ created.port ∧ created.port ≤ 65535
  mode : orElse (cells .connectionMode) (Json.text "direct") ∈ ["direct", "sse"].map Json.text
  user : cells .username ≠ []
  secret : cells .password ≠ []
  interval : (orNone (cells .pollIntervalOverride)).mapM readInt = .ok created.pollIntervalOverride
  storable : created.pollIntervalOverride.all isStorable = true
  tagged : ∃ tags, ((orNone (cells .tags)).mapM fun raw =>
    (Json.loads recursionLimit raw).mapError ImportError.json) = .ok tags ∧
      created = madeTarget cells created.name created.host created.port
        created.pollIntervalOverride tags

theorem require_eq_ok {holds : Bool} {message : Text} {result : Unit} :
    require holds message = .ok result ↔ holds = true := by
  cases holds <;> simp [require]

theorem readInt_eq_ok {chars : Text} {number : Int} :
    readInt chars = .ok number ↔ Strings.toInt chars = some number := by
  unfold readInt
  cases Strings.toInt chars <;> simp

/-- A row makes a target exactly when it passes each check. -/
theorem readTarget_eq_ok {library : HostLibrary} {recursionLimit : Nat} {row : ImportRow}
    {cells : TargetField → Text} {name host : Text} {created : NewTarget}
    (reads : ∀ field default, cellText row field default = .ok (cells field)) :
    readTarget library recursionLimit row name host = .ok created ↔
      Passes library recursionLimit cells name host created := by
  simp only [readTarget, cellFlag, reads, Except.map, Fallible.bind_eq_ok, Fallible.mapError_eq_ok,
    require_eq_ok, readInt_eq_ok, Except.ok.injEq, exists_eq_left', exists_const,
    Bool.and_eq_true, decide_eq_true_eq, createTarget]
  constructor
  · rintro ⟨validName, named, validHost, hosted, port, ported, inRange, mode, user, secret,
      interval, scheduled, tags, tagged, stored⟩
    split at stored
    · rename_i storable
      cases stored
      obtain ⟨permitted, member, same⟩ := List.any_eq_true.mp mode
      exact ⟨named, hosted, ported, inRange, (of_decide_eq_true same) ▸ member, user, secret,
        scheduled, storable, tags, tagged, rfl⟩
    · cases stored
  · rintro ⟨named, hosted, ported, inRange, mode, user, secret, scheduled, storable, tags, tagged,
      made⟩
    refine ⟨_, named, _, hosted, _, ported, inRange,
      List.any_eq_true.mpr ⟨_, mode, decide_eq_true rfl⟩, user, secret, _, scheduled, tags, tagged,
      ?_⟩
    rw [if_pos storable, made]
    rfl

/-! ### What a row does -/

/-- What a row with a name and a host does to an importer: nothing if both are blank, else one of
four things. -/
inductive RowStep (library : HostLibrary) (recursionLimit : Nat) (importer : Importer)
    (rowNum : Nat) (row : ImportRow) (name host : Text) : Importer → Prop where
  | blank (noName : name = []) (noHost : host = []) :
    RowStep library recursionLimit importer rowNum row name host importer
  | skipped (named : name ≠ [] ∨ host ≠ [])
      (known : library.lower host ∈ importer.existingHosts) :
    RowStep library recursionLimit importer rowNum row name host
      { importer with skipped := importer.skipped ++ [⟨rowNum, name, host⟩] }
  | refused (named : name ≠ [] ∨ host ≠ []) (fresh : library.lower host ∉ importer.existingHosts)
      {error : ImportError}
      (refused : readTarget library recursionLimit row name host = .error error) :
    RowStep library recursionLimit importer rowNum row name host
      { importer with errors := importer.errors ++ [(⟨rowNum, name, host⟩, error)] }
  | misplaced (named : name ≠ [] ∨ host ≠ []) (fresh : library.lower host ∉ importer.existingHosts)
      {target : NewTarget} (made : readTarget library recursionLimit row name host = .ok target)
      (unplaced : (placementFromCsvRow row).all Placement.isStorable = false) :
    RowStep library recursionLimit importer rowNum row name host
      { importer with
        targets := importer.targets ++ [target]
        errors := importer.errors ++ [(⟨rowNum, name, host⟩, .overflow)] }
  | created (named : name ≠ [] ∨ host ≠ []) (fresh : library.lower host ∉ importer.existingHosts)
      {target : NewTarget} (made : readTarget library recursionLimit row name host = .ok target)
      (placed : (placementFromCsvRow row).all Placement.isStorable = true) :
    RowStep library recursionLimit importer rowNum row name host
      { importer with
        existingHosts := library.lower target.host :: importer.existingHosts
        targets := importer.targets ++ [target]
        placements := importer.placements ++
          (placementFromCsvRow row).toList.map fun placement => (rowNum, placement)
        created := importer.created ++ [⟨rowNum, target.name, target.host⟩] }

theorem importNewRow_step (library : HostLibrary) (recursionLimit : Nat) {importer : Importer}
    (rowNum : Nat) (row : ImportRow) {name host : Text} (named : name ≠ [] ∨ host ≠ [])
    (fresh : library.lower host ∉ importer.existingHosts) :
    RowStep library recursionLimit importer rowNum row name host
      (importNewRow library recursionLimit importer rowNum row name host) := by
  unfold importNewRow
  cases made : readTarget library recursionLimit row name host with
  | error error => exact .refused named fresh made
  | ok target =>
    dsimp only
    rw [setCsvPlacement]
    cases placed : (placementFromCsvRow row).all Placement.isStorable with
    | false => exact .misplaced named fresh made placed
    | true => exact .created named fresh made placed

/-- A row with a name and a host takes a step. -/
theorem importRow_step (library : HostLibrary) (recursionLimit : Nat) (importer : Importer)
    (rowNum : Nat) {row : ImportRow} {name host : Text} (named : cellText row .name [] = .ok name)
    (hosted : cellText row .host [] = .ok host) :
    ∃ next, importRow library recursionLimit importer rowNum row = some next ∧
      RowStep library recursionLimit importer rowNum row name host next := by
  unfold importRow
  rw [named, hosted]
  dsimp only
  by_cases blank : name = [] ∧ host = []
  · rw [if_pos blank]
    exact ⟨importer, rfl, .blank blank.1 blank.2⟩
  · have filled : name ≠ [] ∨ host ≠ [] := not_and_or.mp blank
    rw [if_neg blank]
    by_cases known : library.lower host ∈ importer.existingHosts
    · rw [if_pos (List.any_eq_true.mpr ⟨_, known, decide_eq_true rfl⟩)]
      exact ⟨_, rfl, .skipped filled known⟩
    · rw [if_neg fun listed => by
        obtain ⟨existing, member, same⟩ := List.any_eq_true.mp listed
        exact known (of_decide_eq_true same ▸ member)]
      exact ⟨_, rfl, importNewRow_step library recursionLimit rowNum row filled known⟩

/-! ### Whole files -/

/-- An import reports exactly when the file is small enough, the reader gets through it, and its
rows are imported. -/
theorem importTargetsCsv_eq_done {library : HostLibrary} {recursionLimit : Nat}
    {existing : List Text} {filename file : Text} {importer : Importer}
    (named : (Json.text ".csv").isSuffixOf (Strings.lower filename) = true) :
    importTargetsCsv library recursionLimit existing filename file = .done importer ↔
      utf8Size file ≤ maxCsvSize ∧
        (Csv.readAll excelPoints (some fieldSizeLimit) (dropByteOrderMark file)).failed = false ∧
          ∃ fieldnames rows,
            (Csv.readAll excelPoints (some fieldSizeLimit) (dropByteOrderMark file)).rows =
              fieldnames :: rows ∧ fieldnames ≠ [] ∧ missingColumns fieldnames = [] ∧
                importRows library recursionLimit fieldnames rows
                  { existingHosts := existing.map library.lower } = .ok importer := by
  unfold importTargetsCsv
  rw [if_neg (not_not_intro named)]
  generalize Csv.readAll excelPoints (some fieldSizeLimit) (dropByteOrderMark file) = reader
  by_cases large : maxCsvSize < utf8Size file
  · rw [if_pos large]
    exact iff_of_false (by simp) fun small => absurd small.1 (by omega)
  rw [if_neg large]
  dsimp only
  rw [and_iff_right (Nat.not_lt.mp large)]
  cases reader.rows with
  | nil => cases reader.failed <;> simp
  | cons fieldnames rows =>
    have only : (∃ fieldnames' rows', fieldnames :: rows = fieldnames' :: rows' ∧
        fieldnames' ≠ [] ∧ missingColumns fieldnames' = [] ∧
          importRows library recursionLimit fieldnames' rows'
            { existingHosts := existing.map library.lower } = .ok importer) ↔
        fieldnames ≠ [] ∧ missingColumns fieldnames = [] ∧
          importRows library recursionLimit fieldnames rows
            { existingHosts := existing.map library.lower } = .ok importer := by
      constructor
      · rintro ⟨_, _, same, holds⟩
        cases same
        exact holds
      · exact fun holds => ⟨_, _, rfl, holds⟩
    rw [only]
    dsimp only
    by_cases empty : fieldnames = []
    · simp [empty]
    by_cases full : missingColumns fieldnames = []
    · rw [if_neg empty, if_neg (not_not_intro full), and_iff_right empty, and_iff_right full]
      cases importRows library recursionLimit fieldnames rows
        { existingHosts := existing.map library.lower } <;>
          cases reader.failed <;> simp
    · simp [empty, full]

end Gyanam
