/-
This file models how targets are exported to CSV and imported from it. The
exporter writes one row for each target under headers for operators, leaves the
credentials blank, and puts an apostrophe before texts that a spreadsheet would
take for formulas. The importer accepts these headers and the internal names,
validates each row, and creates a target from it or reports why not.

Files are given by their texts; a text of the database has no lone surrogates, so
encoding it and decoding it again changes nothing. How texts beyond ASCII are
lower-cased, and which texts are IP addresses, is a parameter. The placement that
is derived from the name of a new target is left out: whatever goes wrong with it
is ignored, and a placement in the row replaces it.
-/

import Gyanam.Lib.Csv
import Gyanam.Lib.Strings
import Gyanam.Lib.Table
import Gyanam.Placement
import Mathlib.Algebra.GroupWithZero.Nat

namespace Gyanam

open Json (CodePoint Text)

/-! ### Targets -/

/-- The default of a target's endpoint. -/
def defaultTelemetryEndpoint : Text :=
  Json.text "/redfish/v1/Systems/UBB/LogServices/DiagLogs/Actions/LogService.CollectDiagnosticData"

/-- The settings of a target that are exported. The tags are a JSON text or what one means. -/
structure TargetSettings (Tags : Type) where
  name : Text
  host : Text
  port : Int
  useSsl : Bool
  verifySsl : Bool
  telemetryEndpoint : Text
  username : Text
  enabled : Bool
  pollIntervalOverride : Option Int
  tags : Option Tags
  connectionMode : Text
  sseEndpoint : Option Text

/-- A target that is created. Its tags are stored as the JSON text of a value. -/
structure NewTarget extends TargetSettings Json where
  password : Text
  token : Option Text

/-- What the library says about hosts: how a text is lower-cased, and for an IP address whether it
is a loopback. -/
structure HostLibrary where
  lower : Text → Text
  ipAddress : Text → Option Bool

/-! ### Validation -/

/-- A letter or a digit of ASCII. -/
def isAlphanumeric (point : CodePoint) : Bool :=
  ('0'.toNat ≤ point.val && point.val ≤ '9'.toNat) ||
    ('A'.toNat ≤ point.val && point.val ≤ 'Z'.toNat) ||
      ('a'.toNat ≤ point.val && point.val ≤ 'z'.toNat)

/-- Is a code point one of some characters? -/
def isOneOf (marks : List Char) (point : CodePoint) : Bool :=
  marks.any fun mark => decide (point = Json.point mark.toNat)

/-- Validate a display name. -/
def validateName (name : Text) : Except Text Text :=
  if Strings.strip name = [] then .error (Json.text "Name cannot be empty")
  else if 255 < (Strings.strip name).length then
    .error (Json.text "Name must be 255 characters or fewer")
  else if (Strings.strip name).head?.any isAlphanumeric ∧ (Strings.strip name).all fun point =>
      isAlphanumeric point || isOneOf [' ', '_', '.', '-'] point then
    .ok (Strings.strip name)
  else .error (Json.text ("Name must start with a letter or digit and contain only " ++
    "letters, digits, spaces, hyphens, underscores, or dots"))

/-- The hosts that are not polled. -/
def blockedHosts : List Text :=
  ["localhost", "127.0.0.1", "::1", "0.0.0.0"].map Json.text

/-- A label of a hostname. -/
def isHostLabel (label : Text) : Bool :=
  decide (1 ≤ label.length) && decide (label.length ≤ 63) &&
    label.all (fun point => isAlphanumeric point || isOneOf ['-'] point) &&
      !label.getLast?.any (isOneOf ['-'])

/-- A hostname. -/
def isHostname (host : Text) : Bool :=
  decide (1 ≤ host.length) && decide (host.length ≤ 253) && !host.head?.any (isOneOf ['-']) &&
    (Strings.split (Json.point '.'.toNat) host).all isHostLabel

/-- Validate a host. -/
def validateHost (library : HostLibrary) (host : Text) : Except Text Text :=
  if Strings.strip host = [] then .error (Json.text "Host cannot be empty")
  else
    let host := library.lower (Strings.strip host)
    if blockedHosts.any fun blocked => decide (host = blocked) then
      .error (Json.text "Host '" ++ host ++
        Json.text "' is not allowed (localhost/loopback addresses are blocked)")
    else
      match library.ipAddress host with
      | some true => .error (Json.text "Loopback addresses are not allowed")
      | some false => .ok host
      | none =>
        if isHostname host then .ok host
        else .error (Json.text "Invalid hostname format: '" ++ host ++
          Json.text "'. Must be a valid hostname or IP address.")

/-! ### Columns -/

/-- The fields of a target that have a column. -/
inductive TargetField where
  | name
  | host
  | port
  | useSsl
  | verifySsl
  | telemetryEndpoint
  | username
  | password
  | token
  | enabled
  | pollIntervalOverride
  | tags
  | connectionMode
  | sseEndpoint
  deriving DecidableEq, Repr

/-- The internal name of a field. -/
def TargetField.key : TargetField → Text
  | .name => Json.text "name"
  | .host => Json.text "host"
  | .port => Json.text "port"
  | .useSsl => Json.text "use_ssl"
  | .verifySsl => Json.text "verify_ssl"
  | .telemetryEndpoint => Json.text "telemetry_endpoint"
  | .username => Json.text "username"
  | .password => Json.text "password"
  | .token => Json.text "token"
  | .enabled => Json.text "enabled"
  | .pollIntervalOverride => Json.text "poll_interval_override"
  | .tags => Json.text "tags"
  | .connectionMode => Json.text "connection_mode"
  | .sseEndpoint => Json.text "sse_endpoint"

/-- The column headers of an export and their fields. -/
def exportFields : List (Text × TargetField) := [
  (Json.text "host name", .name),
  (Json.text "bmc address", .host),
  (Json.text "port", .port),
  (Json.text "use_ssl", .useSsl),
  (Json.text "verify_ssl", .verifySsl),
  (Json.text "telemetry_endpoint", .telemetryEndpoint),
  (Json.text "username", .username),
  (Json.text "password", .password),
  (Json.text "token", .token),
  (Json.text "enabled", .enabled),
  (Json.text "poll_interval_override", .pollIntervalOverride),
  (Json.text "tags", .tags),
  (Json.text "connection_mode", .connectionMode),
  (Json.text "sse_endpoint", .sseEndpoint)]

/-- The headers of an export. -/
def exportHeaders : List Text := exportFields.map Prod.fst

/-- Credentials are never written out. -/
def exportBlankFields : List TargetField := [.password, .token]

/-- Import accepts the headers of an export and older names. -/
def importColumnAliases : List (Text × Text) := [
  (Json.text "host name", Json.text "name"),
  (Json.text "hostname", Json.text "name"),
  (Json.text "host_name", Json.text "name"),
  (Json.text "name", Json.text "name"),
  (Json.text "bmc address", Json.text "host"),
  (Json.text "bmc_address", Json.text "host"),
  (Json.text "bmc", Json.text "host"),
  (Json.text "host", Json.text "host")]

/-- The columns that an import file must have, and how an export calls them. -/
def importRequiredColumns : List (Text × Text) := [
  (Json.text "host", Json.text "bmc address"),
  (Json.text "name", Json.text "host name")]

/-- The internal name of a header. -/
def normalizeImportHeader (header : Text) : Text :=
  let key := Strings.lower (Strings.strip header)
  (importColumnAliases.lookup key).getD key

/-! ### Export -/

/-- The characters of the excel dialect. -/
def excelPoints : Csv.Dialect CodePoint where
  delimiter := Json.point ','.toNat
  quote := Json.point '\x22'.toNat
  carriageReturn := Json.point '\r'.toNat
  lineFeed := Json.point '\n'.toNat
  distinct := by decide

/-- Put an apostrophe before what a spreadsheet would take for a formula. -/
def csvSafe (value : Text) : Text :=
  if value.head?.any (isOneOf ['=', '+', '-', '@', '\t', '\r']) then
    Json.point '\''.toNat :: value
  else value

/-- An attribute of a target: none, a text, a truth value or an integer. -/
inductive AttributeValue where
  | none
  | text (value : Text)
  | bool (value : Bool)
  | int (value : Int)

/-- The attributes of a target by field. It has none for its credentials in the clear. -/
def TargetSettings.attribute (target : TargetSettings Text) : TargetField → AttributeValue
  | .name => .text target.name
  | .host => .text target.host
  | .port => .int target.port
  | .useSsl => .bool target.useSsl
  | .verifySsl => .bool target.verifySsl
  | .telemetryEndpoint => .text target.telemetryEndpoint
  | .username => .text target.username
  | .password => .none
  | .token => .none
  | .enabled => .bool target.enabled
  | .pollIntervalOverride => (target.pollIntervalOverride.map AttributeValue.int).getD .none
  | .tags => (target.tags.map AttributeValue.text).getD .none
  | .connectionMode => .text target.connectionMode
  | .sseEndpoint => (target.sseEndpoint.map AttributeValue.text).getD .none

/-- The cell of an attribute. -/
def AttributeValue.cell : AttributeValue → Text
  | .none => []
  | .text value => csvSafe value
  | .bool value => Json.text (if value then "True" else "False")
  | .int value => Strings.decimal value

/-- The row of a target. -/
def exportRow (target : TargetSettings Text) : Csv.Row CodePoint :=
  exportFields.map fun column =>
    if exportBlankFields.any fun blank => decide (column.2 = blank) then []
    else (target.attribute column.2).cell

/-- Export targets as CSV. -/
def exportTargetsCsv (targets : List (TargetSettings Text)) : Text :=
  Csv.write excelPoints .crlf (exportHeaders :: targets.map exportRow)

/-- The operator puts passwords into the rows of an exported file. -/
def fillPasswords (passwords : List Text) (file : Text) : Option Text :=
  (Csv.read excelPoints file).map fun rows =>
    match rows with
    | [] => []
    | header :: rows =>
      Csv.write excelPoints .crlf (header :: rows.zipWith (fun row password =>
        header.zipWith (fun name cell =>
          if name = TargetField.password.key then password else cell) row) passwords)

/-! ### Import -/

/-- What makes a row fail: a check of the importer, a literal that is no integer, a text that is not
JSON, a cell that the row is too short for, or an integer that the store has no room for. -/
inductive ImportError where
  | value (message : Text)
  | integer (literal : Text)
  | json (error : Json.DecodeError)
  | attribute
  | overflow

/-- A row of a file by the names of its columns. A cell that the row is too short for is none. -/
abbrev ImportRow := Table Text (Option Text)

/-- A row as a dictionary. -/
def dictRow (fieldnames row : Csv.Row CodePoint) : ImportRow :=
  fieldnames.zipIdx.foldl (fun cells column => cells.set column.1 row[column.2]?) Table.empty

/-- A row with the internal names of its columns. -/
def normalizeImportRow (row : ImportRow) : ImportRow :=
  row.rows.foldl (fun cells entry => cells.set (normalizeImportHeader entry.1) entry.2) Table.empty

/-- The stripped cell of a field, or a default when the file has no such column. -/
def cellText (row : ImportRow) (field : TargetField) (default : Text) : Except ImportError Text :=
  match row.get field.key with
  | none => .ok default
  | some none => .error .attribute
  | some (some cell) => .ok (Strings.strip cell)

/-- A text, or another one when it is empty. -/
def orElse (chars default : Text) : Text := if chars = [] then default else chars

/-- A text, or none when it is empty. -/
def orNone (chars : Text) : Option Text := if chars = [] then none else some chars

/-- The truth value of a cell. -/
def cellFlag (row : ImportRow) (field : TargetField) (default : Text) : Except ImportError Bool :=
  (cellText row field default).map fun cell =>
    (["true", "1", "yes"].map Json.text).any fun yes => decide (Strings.lower cell = yes)

/-- The integer of a text. -/
def readInt (chars : Text) : Except ImportError Int :=
  match Strings.toInt chars with
  | some number => .ok number
  | none => .error (.integer chars)

/-- A check of the importer. -/
def require (holds : Bool) (message : Text) : Except ImportError Unit :=
  if holds then .ok () else .error (.value message)

/-- An integer that a column has room for. -/
def isStorable (number : Int) : Bool := decide (-2 ^ 63 ≤ number) && decide (number < 2 ^ 63)

/-- Create a target. Tags that are false are not stored. -/
def createTarget (target : NewTarget) : Except ImportError NewTarget :=
  if target.pollIntervalOverride.all isStorable then
    .ok { target with tags := target.tags.filter Json.truthy }
  else .error .overflow

/-- Validate and parse the fields of a row, and create the target. -/
def readTarget (library : HostLibrary) (recursionLimit : Nat) (row : ImportRow)
    (name host : Text) : Except ImportError NewTarget := do
  let validatedName ← (validateName name).mapError .value
  let validatedHost ← (validateHost library host).mapError .value
  let port ← readInt (orElse (← cellText row .port (Json.text "443")) (Json.text "443"))
  require (decide (1 ≤ port) && decide (port ≤ 65535))
    (Json.text "Port must be between 1 and 65535")
  let useSsl ← cellFlag row .useSsl (Json.text "True")
  let verifySsl ← cellFlag row .verifySsl (Json.text "False")
  let enabled ← cellFlag row .enabled (Json.text "True")
  let telemetryEndpoint ← cellText row .telemetryEndpoint []
  let mode ← cellText row .connectionMode (Json.text "direct")
  let connectionMode := orElse mode (Json.text "direct")
  require ((["direct", "sse"].map Json.text).any fun mode => decide (connectionMode = mode))
    (Json.text "Invalid connection_mode: " ++ connectionMode)
  let username ← cellText row .username []
  let password ← cellText row .password []
  require (decide (username ≠ [])) (Json.text "Username is required for direct connection mode")
  require (decide (password ≠ [])) (Json.text "Password is required for direct connection mode")
  let token ← cellText row .token []
  let pollIntervalRaw ← cellText row .pollIntervalOverride []
  let pollIntervalOverride ← (orNone pollIntervalRaw).mapM readInt
  let tagsRaw ← cellText row .tags []
  let tags ← (orNone tagsRaw).mapM fun raw => (Json.loads recursionLimit raw).mapError .json
  let sseEndpoint ← cellText row .sseEndpoint []
  createTarget {
    name := validatedName
    host := validatedHost
    port := port
    useSsl := useSsl
    verifySsl := verifySsl
    telemetryEndpoint := orElse telemetryEndpoint defaultTelemetryEndpoint
    username := username
    password := password
    token := orNone token
    enabled := enabled
    pollIntervalOverride := pollIntervalOverride
    tags := tags
    connectionMode := connectionMode
    sseEndpoint := orNone sseEndpoint }

/-- The stripped cell of a column, none when it is blank or missing. -/
def locationCell (row : ImportRow) (key : String) : Option Text :=
  orNone (Strings.strip ((row.get (Json.text key)).join.getD []))

/-- Build a manual placement from the location columns of a row, none if they are blank or a number
among them is none. -/
def placementFromCsvRow (row : ImportRow) : Option Placement := do
  let rackU ← (locationCell row "loc_rack_u").mapM Strings.toInt
  let heightU ← (locationCell row "loc_rack_u_height").mapM Strings.toInt
  let placement : Placement := {
    site := locationCell row "loc_site"
    hall := locationCell row "loc_hall"
    row := locationCell row "loc_row"
    rack := locationCell row "loc_rack"
    rackU := rackU
    heightU := heightU
    unitType := locationCell row "loc_unit_type"
    source := some (Json.text "manual") }
  if placement.hasLocation then some placement else none

/-- The columns of a target have room for a placement. -/
def Placement.isStorable (placement : Placement) : Bool :=
  placement.rackU.all Gyanam.isStorable && placement.heightU.all Gyanam.isStorable

/-- Write the placement of a row to a new target. An operator's replaces any that was derived. -/
def setCsvPlacement (placement : Option Placement) : Except ImportError Unit :=
  if placement.all Placement.isStorable then .ok () else .error .overflow

/-- The number, the name and the host of a row. -/
structure RowLabel where
  row : Nat
  name : Text
  host : Text

/-- The importer: the hosts that exist in lower case, the targets it has created, the placements it
has written to those of some rows, and its report. -/
structure Importer where
  existingHosts : List Text
  targets : List NewTarget := []
  placements : List (Nat × Placement) := []
  created : List RowLabel := []
  skipped : List RowLabel := []
  errors : List (RowLabel × ImportError) := []

/-- Import a row whose host is new, and catch what it raises. A target stays when its placement
cannot be written, but its row counts as an error. -/
def importNewRow (library : HostLibrary) (recursionLimit : Nat) (importer : Importer)
    (rowNum : Nat) (row : ImportRow) (name host : Text) : Importer :=
  match readTarget library recursionLimit row name host with
  | .error error => { importer with
      errors := importer.errors ++ [(⟨rowNum, name, host⟩, error)] }
  | .ok target =>
    match setCsvPlacement (placementFromCsvRow row) with
    | .error error => { importer with
        targets := importer.targets ++ [target]
        errors := importer.errors ++ [(⟨rowNum, name, host⟩, error)] }
    | .ok () => { importer with
        existingHosts := library.lower target.host :: importer.existingHosts
        targets := importer.targets ++ [target]
        placements := importer.placements ++
          (placementFromCsvRow row).toList.map fun placement => (rowNum, placement)
        created := importer.created ++ [⟨rowNum, target.name, target.host⟩] }

/-- Import one row. A row that is too short to have a name and a host raises. -/
def importRow (library : HostLibrary) (recursionLimit : Nat) (importer : Importer) (rowNum : Nat)
    (row : ImportRow) : Option Importer :=
  match cellText row .name [], cellText row .host [] with
  | .ok name, .ok host =>
    if name = [] ∧ host = [] then some importer
    else if importer.existingHosts.any fun existing => decide (library.lower host = existing) then
      some { importer with skipped := importer.skipped ++ [⟨rowNum, name, host⟩] }
    else some (importNewRow library recursionLimit importer rowNum row name host)
  | _, _ => none

/-- How an import ends: refused with a message, by an exception, or with a report. -/
inductive ImportEnd where
  | refused (detail : Text)
  | raised (importer : Importer)
  | done (importer : Importer)

/-- The most octets a file may have. -/
def maxCsvSize : Nat := 5 * 1024 * 1024

/-- The most characters a field may have. -/
def fieldSizeLimit : Nat := 131072

/-- The octets of a code point in UTF-8. -/
def utf8Width (point : CodePoint) : Nat :=
  if point.val < 0x80 then 1 else if point.val < 0x800 then 2
  else if point.val < 0x10000 then 3 else 4

/-- The octets of a text in UTF-8. -/
def utf8Size (chars : Text) : Nat := (chars.map utf8Width).sum

/-- A text without the mark that some editors put at its start. -/
def dropByteOrderMark : Text → Text
  | [] => []
  | first :: rest => if first = Json.point 0xFEFF then rest else first :: rest

/-- Import the next row of a file; what it raises stops the import where it is. -/
def importNext (library : HostLibrary) (recursionLimit : Nat) (fieldnames : Csv.Row CodePoint)
    (importer : Importer) (row : Csv.Row CodePoint × Nat) : Except Importer Importer :=
  match importRow library recursionLimit importer row.2
    (normalizeImportRow (dictRow fieldnames row.1)) with
  | some next => .ok next
  | none => .error importer

/-- Import the rows of a file, counted from the one after the header. Empty ones do not count. -/
def importRows (library : HostLibrary) (recursionLimit : Nat) (fieldnames : Csv.Row CodePoint)
    (rows : List (Csv.Row CodePoint)) (importer : Importer) : Except Importer Importer :=
  ((rows.filter fun row => decide (row ≠ [])).zipIdx 2).foldlM
    (importNext library recursionLimit fieldnames) importer

/-- The required columns that a file lacks, as an export calls them. -/
def missingColumns (fieldnames : Csv.Row CodePoint) : List Text :=
  (importRequiredColumns.filter fun column => !fieldnames.any fun name =>
    decide (normalizeImportHeader name = column.1)).map Prod.snd

/-- Import targets from CSV, beside the hosts that exist. -/
def importTargetsCsv (library : HostLibrary) (recursionLimit : Nat) (existing : List Text)
    (filename file : Text) : ImportEnd :=
  if ¬ (Json.text ".csv").isSuffixOf (Strings.lower filename) then
    .refused (Json.text "Please upload a .csv file")
  else if maxCsvSize < utf8Size file then .refused (Json.text "CSV file too large (max 5MB)")
  else
    let reader := Csv.readAll excelPoints (some fieldSizeLimit) (dropByteOrderMark file)
    let importer := { existingHosts := existing.map library.lower }
    match reader.rows with
    | [] =>
      if reader.failed then .raised importer
      else .refused (Json.text "CSV file is empty or has no header row")
    | fieldnames :: rows =>
      if fieldnames = [] then .refused (Json.text "CSV file is empty or has no header row")
      else if missingColumns fieldnames ≠ [] then
        .refused (Json.text "CSV missing required columns: " ++
          List.intercalate (Json.text ", ") (missingColumns fieldnames))
      else
        match importRows library recursionLimit fieldnames rows importer with
        | .error importer => .raised importer
        | .ok importer => if reader.failed then .raised importer else .done importer

end Gyanam
