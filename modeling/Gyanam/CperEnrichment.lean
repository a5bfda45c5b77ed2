/-
This file models how a decoded CPER record is enriched. Some of its identifiers
spell a text, a timestamp may be implausible, and the vendor sections are blobs
that the decoder of the record leaves as they are. What is made of all this is
written into the record, under keys that the record does not have.

Enriching adds these keys and changes nothing else, and a section is decoded from
its own payload, as its own descriptor says. Enriching once more changes nothing.
How Python prints a value that is no text is a parameter.
-/

import Gyanam.AmdSections
import Gyanam.CperQueue
import Gyanam.Lib.Notes
import Gyanam.Placement

namespace Gyanam

open Json (CodePoint Text getMember setMember)

/-! ### Decoded sections as JSON -/

/-- An object of some members. -/
def objectOf (members : List (String × Json)) : Json :=
  .object (members.map fun member => (Json.text member.1, member.2))

/-- A literal as a value. -/
def literalJson (literal : String) : Json := .string (Json.text literal)

/-- A number as a value. -/
def natJson (number : Nat) : Json := .int number

/-- A member that is left out if there is nothing to show. -/
def shownIf (key : String) (value : Option Json) : List (String × Json) :=
  (value.map fun value => (key, value)).toList

def McaStatus.toJson (status : McaStatus) : Json :=
  objectOf [
    ("raw", .string status.raw),
    ("val", .bool status.val),
    ("overflow", .bool status.overflow),
    ("uc", .bool status.uc),
    ("en", .bool status.en),
    ("miscv", .bool status.miscv),
    ("addrv", .bool status.addrv),
    ("pcc", .bool status.pcc),
    ("errcoreid_valid", .bool status.errcoreidValid),
    ("tcc", .bool status.tcc),
    ("syndv", .bool status.syndv),
    ("cecc", .bool status.cecc),
    ("uecc", .bool status.uecc),
    ("deferred", .bool status.deferred),
    ("poison", .bool status.poison),
    ("scrub", .bool status.scrub),
    ("errcoreid", natJson status.errcoreid),
    ("addr_lsb", natJson status.addrLsb),
    ("error_code", natJson status.errorCode),
    ("error_code_ext", natJson status.errorCodeExt)]

def Misc0.toJson (misc0 : Misc0) : Json :=
  objectOf [
    ("raw", .string misc0.raw),
    ("valid", .bool misc0.valid),
    ("overflow", .bool misc0.overflow),
    ("error_count", natJson misc0.errorCount)]

def Synd.toJson (synd : Synd) : Json :=
  objectOf [("raw", .string synd.raw), ("error_information", natJson synd.errorInformation)]

def UmcLocation.toJson (location : UmcLocation) : Json :=
  objectOf [
    ("socket_id", natJson location.socketId),
    ("aid_die_id", natJson location.aidDieId),
    ("channel", natJson location.channel),
    ("umc_instance", natJson location.umcInstance),
    ("note", literalJson "bank/row/column require live SMU address translation (not in CPER)")]

def McaIpid.toJson (ipid : McaIpid) : Json :=
  objectOf ([
    ("raw", .string ipid.raw),
    ("mca_type", .string ipid.mcaType),
    ("instance_id_hi", .string ipid.instanceIdHi),
    ("hardware_id", .string ipid.hardwareId),
    ("instance_id_lo", .string ipid.instanceIdLo)] ++
    shownIf "ip_block" (ipid.ipBlock.map literalJson) ++
    shownIf "ip_block_source" (ipid.ipBlock.map fun _ =>
      literalJson "best-effort (MI300/smu_v13_0_6 mapping)") ++
    shownIf "umc_location" (ipid.umcLocation.map UmcLocation.toJson))

def AddressEntry.toJson (entry : AddressEntry) : Json :=
  objectOf ([("raw", .string entry.raw), ("address_valid", .bool entry.addressValid)] ++
    shownIf "valid_address" (entry.validAddress.map Json.string))

def RegisterValue.toJson : RegisterValue → Json
  | .status shown => shown.toJson
  | .ipid shown => shown.toJson
  | .misc0 shown => shown.toJson
  | .synd shown => shown.toJson
  | .raw chars => .string chars
  | .address shown => shown.toJson

def Registers.toJson (registers : Registers) : Json :=
  objectOf (registers.map fun shown => (shown.1.name, shown.2.toJson))

/-- The members for the fields that fatal and runtime sections share. -/
def CommonErrorFields.members (common : CommonErrorFields) : List (String × Json) :=
  [("error_class", literalJson common.errorClass.name),
    ("description", .string common.description),
    ("sub_block_error_code", objectOf (
      ("from_status_errorcode", natJson common.subBlockErrorCode.fromStatusErrorcode) ::
        shownIf "from_synd_errorinformation"
          (common.subBlockErrorCode.fromSyndErrorinformation.map natJson)))] ++
    shownIf "error_code_ext_meaning" (common.errorCodeExtMeaning.map literalJson)

def MsCheck.toJson (check : MsCheck) : Json :=
  objectOf [
    ("err_type_valid", .bool check.errTypeValid),
    ("pcc_valid", .bool check.pccValid),
    ("uncorr_valid", .bool check.uncorrValid),
    ("precise_ip_valid", .bool check.preciseIpValid),
    ("restartable_ip_valid", .bool check.restartableIpValid),
    ("overflow_valid", .bool check.overflowValid),
    ("err_type", natJson check.errType),
    ("pcc", .bool check.pcc),
    ("uncorrected", .bool check.uncorrected),
    ("precise_ip", .bool check.preciseIp),
    ("restartable_ip", .bool check.restartableIp),
    ("overflow", .bool check.overflow)]

def BootCrashdump.toJson (boot : BootCrashdump) : Json :=
  objectOf [
    ("kind", literalJson "boot_crashdump"),
    ("firmware_id", .string boot.firmwareId),
    ("reg_ctx_type", natJson boot.regCtxType),
    ("reg_arr_size", natJson boot.regArrSize),
    ("oam_messages", .array (boot.oamMessages.map Json.string))]

def FatalCrashdump.toJson (fatal : FatalCrashdump) : Json :=
  objectOf ([("kind", literalJson "fatal_crashdump"), ("firmware_id", .string fatal.firmwareId)] ++
    fatal.common.members ++ [("registers", fatal.registers.toJson)])

def RuntimeNonstandard.toJson (runtime : RuntimeNonstandard) : Json :=
  objectOf ([("kind", literalJson "runtime_nonstandard"),
      ("firmware_id", .string runtime.firmwareId)] ++
    runtime.common.members ++ [
      ("error_type", .string runtime.errorType),
      ("apic_id", .string runtime.apicId),
      ("ms_check", runtime.msCheck.toJson),
      ("registers", runtime.registers.toJson),
      ("context", objectOf [
        ("reg_ctx_type", natJson runtime.context.regCtxType),
        ("reg_arr_size", natJson runtime.context.regArrSize),
        ("msr_addr", .string runtime.context.msrAddr),
        ("mm_reg_addr", .string runtime.context.mmRegAddr)]),
      ("identifiers", objectOf [
        ("target_addr_id", .string runtime.identifiers.targetAddrId),
        ("req_id", .string runtime.identifiers.reqId),
        ("resp_id", .string runtime.identifiers.respId),
        ("instr_ptr", .string runtime.identifiers.instrPtr)]),
      ("valid_bits", objectOf [
        ("hdr", .string runtime.hdrValid),
        ("info", .string runtime.infoValid)])])

/-- A decoded section, as it is stored. -/
def AmdSection.toJson : AmdSection → Json
  | .decodeError message => objectOf [("decode_error", .string message)]
  | .boot decoded => decoded.toJson
  | .fatal decoded => decoded.toJson
  | .runtime decoded => decoded.toJson

/-! ### Identifiers that spell a text -/

/-- A blank between the octets of a hexadecimal text. -/
def isHexBlank (point : CodePoint) : Bool :=
  (0x09 ≤ point.val && point.val ≤ 0x0D) || point.val = 0x20

/-- The octets that pairs of hexadecimal digits spell. Blanks may stand between the pairs. -/
def fromHex : Text → Option (List UInt8)
  | [] => some []
  | [last] => if isHexBlank last then some [] else none
  | first :: second :: rest =>
    if isHexBlank first then fromHex (second :: rest)
    else do
      let high ← Hex.digitValue first
      let low ← Hex.digitValue second
      return UInt8.ofNat (16 * high + low) :: (← fromHex rest)

/-- A printable character of ASCII. -/
def isPrintable (octet : UInt8) : Bool := 0x20 ≤ octet && octet < 0x7F

/-- Interpret a GUID as ASCII, if enough of its octets are printable. -/
def guidText (guid : Text) : Option Text := do
  let raw ← fromHex (guid.filter (· ≠ Json.point '-'.toNat))
  let printable := raw.filter isPrintable
  if printable.length < max 4 (raw.length * 3 / 4) then none
  else
    let text := Strings.strip (printable.map fun octet => Json.point octet.toNat)
    if text = [] then none else some text

/-- What enriching a record raises: a value that lacks a method, or one that is no list. -/
inductive EnrichError where
  | attribute
  | type
  deriving DecidableEq, Repr

/-- Interpret a value as a GUID in ASCII. -/
def guidAsAscii (value : Option Json) : Except EnrichError (Option Text) :=
  match value.filter Json.truthy with
  | none => .ok none
  | some (.string guid) => .ok (guidText guid)
  | some _ => .error .attribute

/-- Note the text of an identifier next to it, if it spells one. -/
def addAscii (members : List (Text × Json)) (key : String) :
    Except EnrichError (List (Text × Json)) := do
  match ← guidAsAscii (getMember members (Json.text key)) with
  | some text => return setMember members (Json.text (key ++ "_ascii")) (.string text)
  | none => return members

/-! ### Payloads -/

/-- The value of a character of base64. -/
def base64Value (point : CodePoint) : Option Nat :=
  if 'A'.toNat ≤ point.val ∧ point.val ≤ 'Z'.toNat then some (point.val - 'A'.toNat)
  else if 'a'.toNat ≤ point.val ∧ point.val ≤ 'z'.toNat then some (point.val - 'a'.toNat + 26)
  else if '0'.toNat ≤ point.val ∧ point.val ≤ '9'.toNat then some (point.val - '0'.toNat + 52)
  else if point.val = '+'.toNat then some 62
  else if point.val = '/'.toNat then some 63
  else none

/-- Decode base64, from a place in a group of four characters, the bits that are left over, and the
pads in a row. Other characters are skipped, and enough pads end the text. -/
def decodeGroups (place left pads : Nat) : Text → Option (List UInt8)
  | [] => if place = 0 then some [] else none
  | point :: rest =>
    if point.val = '='.toNat then
      if 2 ≤ place then
        if 4 ≤ place + (pads + 1) then some [] else decodeGroups place left (pads + 1) rest
      else decodeGroups place left pads rest
    else
      match base64Value point with
      | none => decodeGroups place left pads rest
      | some value =>
        match place with
        | 0 => decodeGroups 1 value 0 rest
        | 1 => (decodeGroups 2 (value &&& 0x0F) 0 rest).map fun octets =>
          UInt8.ofNat ((left <<< 2) ||| (value >>> 4)) :: octets
        | 2 => (decodeGroups 3 (value &&& 0x03) 0 rest).map fun octets =>
          UInt8.ofNat ((left <<< 4) ||| (value >>> 2)) :: octets
        | _ => (decodeGroups 0 0 0 rest).map fun octets =>
          UInt8.ofNat ((left <<< 6) ||| value) :: octets

/-- Decode a text of base64. One that is not ASCII is refused. -/
def b64decode (chars : Text) : Option (List UInt8) :=
  if chars.all fun point => point.val < 0x80 then decodeGroups 0 0 0 chars else none

/-- The keys of a section that do not hold what was reported. -/
def ownSectionKeys : List Text := [Json.text "message", Json.text "amd"]

/-- The octets of a section: those of the first member that may hold them. -/
def payloadOctets (sec : List (Text × Json)) : Option (List UInt8) := do
  let payload ← (sec.find? fun member => member.1 ∉ ownSectionKeys).map Prod.snd
  match (← (← objectMembers payload).lookup (Json.text "data")) with
  | .string chars => if chars = [] then none else b64decode chars
  | _ => none

/-! ### Enrichment -/

/-- The items of a value that may be missing. -/
def listed (value : Option Json) : List Json :=
  ((value.filter Json.truthy).bind Json.iterated).getD []

/-- A timestamp that no clock that was set would give. -/
def isImplausible (timestamp : Text) : Bool :=
  timestamp.take 2 ∈ ["15", "16", "17", "18", "19"].map Json.text ||
    (Json.text "0").isPrefixOf timestamp

/-- Flag an unset or implausible timestamp. -/
def noteTimestamp (printed : Json → Text) (header : List (Text × Json)) : List (Text × Json) :=
  let timestamp := (getMember header (Json.text "timestamp")).filter Json.truthy
  if isImplausible ((timestamp.map (printedText printed)).getD []) then
    setMember header (Json.text "timestamp_note")
      (literalJson "unset/implausible (BMC did not populate a valid time)")
  else header

/-- Enrich the header of a record. -/
def enrichHeader (printed : Json → Text) : Json → Except EnrichError Json
  | .object header => do
    let header ← addAscii header "platformID"
    let header ← addAscii header "creatorID"
    return .object (noteTimestamp printed header)
  | header => .ok header

/-- Enrich a descriptor. -/
def enrichDescriptor : Json → Except EnrichError Json
  | .object desc => do return .object (← addAscii desc "fruID")
  | desc => .ok desc

/-- The section type that a descriptor names, in small letters. -/
def sectionGuid (desc : Option Json) : Except EnrichError Text :=
  match desc with
  | none => .ok []
  | some (.object desc) =>
    match (getMember desc (Json.text "sectionType")).filter Json.truthy with
    | none => .ok []
    | some (.object sectionType) =>
      match (getMember sectionType (Json.text "data")).filter Json.truthy with
      | none => .ok []
      | some (.string guid) => .ok (Strings.lower guid)
      | some _ => .error .attribute
    | some _ => .error .attribute
  | some _ => .error .attribute

/-- What the payload of a section decodes to, as a section of a type. -/
def decodedPayload (guid : Text) (sec : List (Text × Json)) : Option Json :=
  if isAmdSection guid then
    ((payloadOctets sec).bind (decodeAmdSection guid)).map AmdSection.toJson
  else none

/-- Enrich a section by its descriptor, if it has one. -/
def enrichSection (desc : Option Json) : Json → Except EnrichError Json
  | .object sec => do
    match decodedPayload (← sectionGuid desc) sec with
    | some decoded => return .object (setMember sec (Json.text "amd") decoded)
    | none => return .object sec
  | sec => .ok sec

/-- Enrich the items of a list in its place. What is no list has no items to enrich. -/
def enrichItems (enrich : Nat → Json → Except EnrichError Json) : Json → Except EnrichError Json
  | .array items => do return .array (← items.zipIdx.mapM fun item => enrich item.2 item.1)
  | value =>
    if value.truthy = true ∧ value.iterated.isNone then .error .type else .ok value

/-- Enrich a member in its place, if it is there. -/
def updateMember (record : List (Text × Json)) (key : String)
    (enrich : Json → Except EnrichError Json) : Except EnrichError (List (Text × Json)) :=
  match getMember record (Json.text key) with
  | some value => do return setMember record (Json.text key) (← enrich value)
  | none => .ok record

/-- Attach the texts of identifiers and the decoded vendor sections to a record. -/
def enrichAmdSections (printed : Json → Text) : Json → Except EnrichError Json
  | .object record => do
    let record ← updateMember record "header" (enrichHeader printed)
    let record ← updateMember record "sectionDescriptors"
      (enrichItems fun _ desc => enrichDescriptor desc)
    let descriptors := listed (getMember record (Json.text "sectionDescriptors"))
    let record ← updateMember record "sections"
      (enrichItems fun index sec => enrichSection descriptors[index]? sec)
    return .object record
  | decoded => .ok decoded

/-! ### Notes on the parts of a record -/

open Notes (Note Independent)

/-- The text of an identifier, as a note. -/
def asciiNote (key : String) : Note where
  key := Json.text (key ++ "_ascii")
  value members :=
    match getMember members (Json.text key) with
    | some (.string guid) => (guidText guid).map Json.string
    | _ => none

/-- The flag of a timestamp, as a note. -/
def timestampNote (printed : Json → Text) : Note where
  key := Json.text "timestamp_note"
  value header :=
    let timestamp := (getMember header (Json.text "timestamp")).filter Json.truthy
    if isImplausible ((timestamp.map (printedText printed)).getD []) then
      some (literalJson "unset/implausible (BMC did not populate a valid time)")
    else none

/-- The notes on a header. -/
def headerNotes (printed : Json → Text) : List Note :=
  [asciiNote "platformID", asciiNote "creatorID", timestampNote printed]

/-- The notes on a descriptor. -/
def descriptorNotes : List Note := [asciiNote "fruID"]

/-- The note on a section of a type. -/
def sectionNotes (guid : Text) : List Note := [⟨Json.text "amd", decodedPayload guid⟩]

/-- An object with notes on it. -/
def noted (notes : List Note) : Json → Json
  | .object members => .object (Notes.writeAll notes members)
  | value => value

/-- A member that no note has the key of is read the same behind added members. -/
theorem getMember_append_own {notes : List Note} {members more : List (Text × Json)} {key : String}
    (foreign : Json.text key ∉ notes.map Note.key)
    (own : ∀ member ∈ more, member.1 ∈ notes.map Note.key) :
    getMember (members ++ more) (Json.text key) = getMember members (Json.text key) := by
  refine Notes.getMember_append fun inside => ?_
  obtain ⟨member, present, same⟩ := List.mem_map.mp inside
  exact foreign (same ▸ own member present)

theorem independent_headerNotes (printed : Json → Text) : Independent (headerNotes printed) where
  distinct := by
    have keys : (headerNotes printed).map Note.key = [Json.text "platformID_ascii",
      Json.text "creatorID_ascii", Json.text "timestamp_note"] := rfl
    rw [keys]
    decide
  stable note member members more own := by
    have read : ∀ key ∈ ["platformID", "creatorID", "timestamp"],
        getMember (members ++ more) (Json.text key) = getMember members (Json.text key) := by
      intro key source
      refine getMember_append_own ?_ own
      have foreign : ∀ key ∈ ["platformID", "creatorID", "timestamp"], Json.text key ∉
          [Json.text "platformID_ascii", Json.text "creatorID_ascii",
            Json.text "timestamp_note"] := by decide
      exact foreign key source
    simp only [headerNotes, List.mem_cons, List.not_mem_nil, or_false] at member
    rcases member with rfl | rfl | rfl
    · simp only [asciiNote, read "platformID" (by simp)]
    · simp only [asciiNote, read "creatorID" (by simp)]
    · simp only [timestampNote, read "timestamp" (by simp)]

theorem independent_descriptorNotes : Independent descriptorNotes where
  distinct := List.nodup_singleton _
  stable note member members more own := by
    rw [List.mem_singleton.mp member]
    have read := @getMember_append_own descriptorNotes members more "fruID" (by decide) own
    simp only [asciiNote, read]

/-- What a section reports is found in front of what is added to it. -/
theorem payloadOctets_append {sec more : List (Text × Json)}
    (own : ∀ member ∈ more, member.1 ∈ ownSectionKeys) :
    payloadOctets (sec ++ more) = payloadOctets sec := by
  have none : (more.find? fun member => member.1 ∉ ownSectionKeys) = none :=
    List.find?_eq_none.mpr fun member inside => by simpa using own member inside
  rw [payloadOctets, List.find?_append, none, Option.or_none]
  rfl

theorem independent_sectionNotes (guid : Text) : Independent (sectionNotes guid) where
  distinct := List.nodup_singleton _
  stable note member members more own := by
    rw [List.mem_singleton.mp member]
    have own' : ∀ member ∈ more, member.1 ∈ ownSectionKeys := fun member inside =>
      .tail _ (own member inside)
    simp only [decodedPayload, payloadOctets_append own']

/-! ### The shape of a record -/

/-- A value that is an object has texts, if anything, under some keys. -/
def HasTexts (keys : List String) (value : Json) : Prop :=
  ∀ members, value = .object members → ∀ key ∈ keys, ∀ found,
    getMember members (Json.text key) = some found → ∃ chars, found = .string chars

/-- A value that is an object has different keys, and none of those of some notes. -/
def IsFresh (keys : List Text) (value : Json) : Prop :=
  ∀ members, value = .object members →
    (members.map Prod.fst).Nodup ∧ ∀ key ∈ keys, key ∉ members.map Prod.fst

/-- The keys that are written into a header. -/
def ownHeaderKeys : List Text :=
  [Json.text "platformID_ascii", Json.text "creatorID_ascii", Json.text "timestamp_note"]

/-- The keys that are written into a descriptor. -/
def ownDescriptorKeys : List Text := [Json.text "fruID_ascii"]

/-- The keys that are written into a section. -/
def ownKeys : List Text := [Json.text "amd"]

/-- A descriptor is an object whose section type, if it has one, is an object that names a GUID. -/
structure DescriptorShape (desc : Json) : Prop where
  isObject : ∃ members, desc = .object members
  texts : HasTexts ["fruID"] desc
  fresh : IsFresh ownDescriptorKeys desc
  sectionType : ∀ members, desc = .object members → ∀ found,
    getMember members (Json.text "sectionType") = some found →
      (∃ members, found = .object members) ∧ HasTexts ["data"] found

/-- A record as libcper gives it. What the sections hold is not restricted, but for the key under
which they are decoded. -/
structure LibcperShape (record : List (Text × Json)) : Prop where
  distinct : (record.map Prod.fst).Nodup
  header : ∀ found, getMember record (Json.text "header") = some found →
    HasTexts ["platformID", "creatorID"] found ∧ IsFresh ownHeaderKeys found
  descriptors : ∀ found, getMember record (Json.text "sectionDescriptors") = some found →
    ∃ items, found = .array items ∧ ∀ desc ∈ items, DescriptorShape desc
  sections : ∀ found, getMember record (Json.text "sections") = some found →
    ∃ items, found = .array items ∧ ∀ sec ∈ items, IsFresh ownKeys sec

/-- The type a descriptor gives a section, and none if it gives none. -/
def guidOf (desc : Option Json) : Text := ((sectionGuid desc).toOption).getD []

/-! ### Enriching the parts -/

theorem guidAsAscii_string (chars : Text) :
    guidAsAscii (some (.string chars)) = .ok (guidText chars) := by
  cases chars with
  | nil =>
    have empty : guidText [] = none := by decide
    rw [empty]
    rfl
  | cons first rest => rfl

theorem addAscii_eq_write {members : List (Text × Json)} {key : String}
    (texts : ∀ found, getMember members (Json.text key) = some found →
      ∃ chars, found = .string chars) :
    addAscii members key = .ok ((asciiNote key).write members) := by
  rw [addAscii, Note.write, asciiNote]
  dsimp only
  cases found : getMember members (Json.text key) with
  | none => rfl
  | some value =>
    obtain ⟨chars, rfl⟩ := texts value found
    rw [guidAsAscii_string]
    dsimp only [bind, Except.bind]
    cases guidText chars with
    | none => rfl
    | some text => rfl

theorem noteTimestamp_eq_write (printed : Json → Text) (header : List (Text × Json)) :
    noteTimestamp printed header = (timestampNote printed).write header := by
  rw [noteTimestamp, Note.write, timestampNote]
  dsimp only
  split
  next => rfl
  next => rfl

/-- A header is enriched by its notes. -/
theorem enrichHeader_eq (printed : Json → Text) {header : Json}
    (texts : HasTexts ["platformID", "creatorID"] header) :
    enrichHeader printed header = .ok (noted (headerNotes printed) header) := by
  cases header with
  | object members =>
    have ofMembers := texts members rfl
    have first := addAscii_eq_write (ofMembers "platformID" (.head _))
    have kept : getMember ((asciiNote "platformID").write members) (Json.text "creatorID") =
        getMember members (Json.text "creatorID") := by
      rw [Note.write]
      split
      next => exact Notes.getMember_setMember_of_ne _ _ (by decide)
      next => rfl
    have second := @addAscii_eq_write ((asciiNote "platformID").write members) "creatorID" (by
      rw [kept]
      exact ofMembers "creatorID" (.tail _ (.head _)))
    rw [enrichHeader, first]
    dsimp only [bind, Except.bind]
    rw [second]
    dsimp only [pure, Except.pure]
    rw [noteTimestamp_eq_write]
    rfl
  | _ => rfl

/-- A descriptor is enriched by its notes. -/
theorem enrichDescriptor_eq {desc : Json} (texts : HasTexts ["fruID"] desc) :
    enrichDescriptor desc = .ok (noted descriptorNotes desc) := by
  cases desc with
  | object members =>
    rw [enrichDescriptor, addAscii_eq_write (texts members rfl "fruID" (.head _))]
    rfl
  | _ => rfl

/-- A section is enriched by its note, if the type of its descriptor can be read. -/
theorem enrichSection_eq {desc : Option Json} {guid : Text} (named : sectionGuid desc = .ok guid)
    (sec : Json) : enrichSection desc sec = .ok (noted (sectionNotes guid) sec) := by
  cases sec with
  | object members =>
    rw [enrichSection, named]
    dsimp only [bind, Except.bind, noted, Notes.writeAll, sectionNotes, List.foldl_cons,
      List.foldl_nil, Note.write]
    cases decodedPayload guid members with
    | none => rfl
    | some decoded => rfl
  | _ => rfl

/-! ### What notes change -/

/-- A value is as it was, or an object with some members added behind its own, each under one of
some keys. -/
def Extends (keys : List Text) (before after : Json) : Prop :=
  after = before ∨ ∃ members more, before = .object members ∧
    after = .object (members ++ more) ∧ ∀ member ∈ more, member.1 ∈ keys

section Noted

variable {notes : List Note} (independent : Independent notes) {value : Json}
  (fresh : IsFresh (notes.map Note.key) value)

include independent fresh

/-- A fresh object keeps its members, and the notes are behind them. -/
theorem noted_object {members : List (Text × Json)} (same : value = .object members) :
    noted notes value = .object (members ++ Notes.added notes members) := by
  obtain rfl := same
  refine congrArg Json.object (Notes.writeAll_eq_append independent fun note inside => ?_)
  exact (fresh members rfl).2 note.key (List.mem_map.mpr ⟨note, inside, rfl⟩)

theorem extends_noted : Extends (notes.map Note.key) value (noted notes value) := by
  cases found : value with
  | object members =>
    refine .inr ⟨members, Notes.added notes members, rfl, ?_, fun _ => Notes.key_of_added⟩
    exact found ▸ noted_object independent fresh found
  | _ => exact .inl rfl

/-- Notes that are written once more change nothing. -/
theorem noted_again : noted notes (noted notes value) = noted notes value := by
  cases found : value with
  | object members =>
    have once := noted_object independent fresh found
    rw [found] at once
    rw [once]
    refine congrArg Json.object (Notes.writeAll_again independent (fresh members found).1 ?_)
    exact fun note inside =>
      (fresh members found).2 note.key (List.mem_map.mpr ⟨note, inside, rfl⟩)
  | _ => rfl

/-- What has no key of a note is read as before. -/
theorem getMember_noted {members after : List (Text × Json)} {key : String}
    (same : value = .object members) (written : noted notes value = .object after)
    (foreign : Json.text key ∉ notes.map Note.key) :
    getMember after (Json.text key) = getMember members (Json.text key) := by
  rw [noted_object independent fresh same] at written
  obtain rfl := Json.object.inj written
  exact getMember_append_own foreign fun _ => Notes.key_of_added

/-- Texts under other keys stay texts. -/
theorem hasTexts_noted {keys : List String} (texts : HasTexts keys value)
    (foreign : ∀ key ∈ keys, Json.text key ∉ notes.map Note.key) :
    HasTexts keys (noted notes value) := by
  intro after written key inside found present
  cases same : value with
  | object members =>
    rw [getMember_noted independent fresh same written (foreign key inside)] at present
    exact texts members same key inside found present
  | _ =>
    rw [same] at written
    cases written

end Noted

/-! ### Section types -/

theorem sectionGuid_eq {desc : Json} (shape : DescriptorShape desc) :
    sectionGuid (some desc) = .ok (guidOf (some desc)) := by
  have returns : ∃ guid, sectionGuid (some desc) = .ok guid := by
    obtain ⟨members, rfl⟩ := shape.isObject
    rw [sectionGuid]
    cases found : (getMember members (Json.text "sectionType")).filter Json.truthy with
    | none => exact ⟨_, rfl⟩
    | some sectionType =>
      obtain ⟨⟨inner, rfl⟩, texts⟩ := shape.sectionType members rfl sectionType
        (Option.filter_eq_some_iff.mp found).1
      dsimp only
      cases named : (getMember inner (Json.text "data")).filter Json.truthy with
      | none => exact ⟨_, rfl⟩
      | some value =>
        obtain ⟨chars, rfl⟩ := texts inner rfl "data" (.head _) value
          (Option.filter_eq_some_iff.mp named).1
        exact ⟨_, rfl⟩
  obtain ⟨guid, named⟩ := returns
  rw [guidOf, named]
  rfl

/-- The notes on a descriptor do not change the type it names. -/
theorem sectionGuid_noted {desc : Json} (shape : DescriptorShape desc) :
    sectionGuid (some (noted descriptorNotes desc)) = sectionGuid (some desc) := by
  obtain ⟨members, rfl⟩ := shape.isObject
  have written : noted descriptorNotes (.object members) = .object _ := rfl
  have kept := @getMember_noted _ independent_descriptorNotes _ shape.fresh _ _ "sectionType" rfl
    written (by decide)
  rw [written, sectionGuid, sectionGuid, kept]

/-! ### Enriching a record -/

/-- A record with a member changed in its place. -/
def updated (record : List (Text × Json)) (key : String) (change : Json → Json) :
    List (Text × Json) :=
  match getMember record (Json.text key) with
  | some value => setMember record (Json.text key) (change value)
  | none => record

theorem updateMember_eq {record : List (Text × Json)} {key : String}
    {enrich : Json → Except EnrichError Json} {change : Json → Json}
    (each : ∀ value, getMember record (Json.text key) = some value →
      enrich value = .ok (change value)) :
    updateMember record key enrich = .ok (updated record key change) := by
  rw [updateMember, updated]
  cases found : getMember record (Json.text key) with
  | none => rfl
  | some value =>
    dsimp only
    rw [each value found]
    rfl

theorem getMember_updated (record : List (Text × Json)) (key : String) (change : Json → Json)
    (other : Text) :
    getMember (updated record key change) other =
      if other = Json.text key then (getMember record other).map change
      else getMember record other := by
  unfold updated
  split
  next value found =>
    split
    next same => rw [same, found, Json.getMember_setMember, Option.map_some]
    next different => exact Notes.getMember_setMember_of_ne _ _ different
  next absent =>
    split
    next same => rw [same, absent, Option.map_none]
    next => rfl

theorem keys_updated (record : List (Text × Json)) (key : String) (change : Json → Json) :
    (updated record key change).map Prod.fst = record.map Prod.fst := by
  unfold updated
  split
  next value found => exact Notes.keys_setMember found _
  next => rfl

/-- A change that leaves what is there leaves the record. -/
theorem updated_eq_self {record : List (Text × Json)} {key : String} {change : Json → Json}
    (distinct : (record.map Prod.fst).Nodup)
    (same : ∀ value, getMember record (Json.text key) = some value → change value = value) :
    updated record key change = record := by
  unfold updated
  split
  next value found =>
    rw [same value found]
    exact Notes.setMember_eq_self distinct found
  next => rfl

/-- The items of a list with notes on them. -/
def notedItems (notes : Nat → List Note) : Json → Json
  | .array items => .array (items.mapIdx fun index item => noted (notes index) item)
  | value => value

theorem enrichItems_eq {enrich : Nat → Json → Except EnrichError Json} {notes : Nat → List Note}
    {items : List Json}
    (each : ∀ index item, items[index]? = some item →
      enrich index item = .ok (noted (notes index) item)) :
    enrichItems enrich (.array items) = .ok (notedItems notes (.array items)) := by
  have all : items.zipIdx.mapM (fun item => enrich item.2 item.1) =
      .ok (items.zipIdx.map fun item => noted (notes item.2) item.1) :=
    Fallible.mapM_eq_map fun item inside =>
      each item.2 item.1 (List.mk_mem_zipIdx_iff_getElem?.mp inside)
  rw [enrichItems, all, notedItems, List.mapIdx_eq_zipIdx_map]
  rfl

/-- Notes that are written on items once more change nothing. -/
theorem notedItems_again {notes : Nat → List Note} {items : List Json}
    (again : ∀ index item, items[index]? = some item →
      noted (notes index) (noted (notes index) item) = noted (notes index) item) :
    notedItems notes (notedItems notes (.array items)) = notedItems notes (.array items) := by
  refine congrArg Json.array (List.ext_getElem? fun index => ?_)
  rw [List.getElem?_mapIdx, List.getElem?_mapIdx]
  cases found : items[index]? with
  | none => rfl
  | some item => exact congrArg some (again index item found)

theorem mapIdx_of_const {Item Value : Type} (value : Item → Value) (items : List Item) :
    (items.mapIdx fun _ item => value item) = items.map value := by
  refine List.ext_getElem? fun index => ?_
  rw [List.getElem?_mapIdx, List.getElem?_map]

theorem listed_array (items : List Json) : listed (some (.array items)) = items := by
  cases items with
  | nil => rfl
  | cons first rest => rfl

/-- The descriptors of a record. -/
def descriptorsOf (record : List (Text × Json)) : List Json :=
  listed (getMember record (Json.text "sectionDescriptors"))

/-- A record with the notes on its header and its descriptors. -/
def describedRecord (printed : Json → Text) (record : List (Text × Json)) : List (Text × Json) :=
  updated (updated record "header" (noted (headerNotes printed))) "sectionDescriptors"
    (notedItems fun _ => descriptorNotes)

/-- A record with all notes, where its sections have some types. -/
def enrichedRecord (printed : Json → Text) (guids : Nat → Text) (record : List (Text × Json)) :
    List (Text × Json) :=
  updated (describedRecord printed record) "sections"
    (notedItems fun index => sectionNotes (guids index))

/-- Nothing in a record keeps it from being enriched, and its descriptors give its sections some
types. -/
structure EnrichedReading (record : List (Text × Json)) (guids : Nat → Text) : Prop where
  header : ∀ found, getMember record (Json.text "header") = some found →
    HasTexts ["platformID", "creatorID"] found
  descriptors : ∀ found, getMember record (Json.text "sectionDescriptors") = some found →
    ∃ items, found = .array items ∧ ∀ desc ∈ items, HasTexts ["fruID"] desc
  guids : ∀ (printed : Json → Text) index,
    sectionGuid (descriptorsOf (describedRecord printed record))[index]? = .ok (guids index)
  sections : ∀ found, getMember record (Json.text "sections") = some found →
    ∃ items, found = .array items

theorem getMember_describedRecord (printed : Json → Text) (record : List (Text × Json)) :
    getMember (describedRecord printed record) (Json.text "sectionDescriptors") =
      (getMember record (Json.text "sectionDescriptors")).map
        (notedItems fun _ => descriptorNotes) := by
  rw [describedRecord, getMember_updated, if_pos rfl, getMember_updated, if_neg (by decide)]

theorem getMember_describedRecord_other (printed : Json → Text) (record : List (Text × Json))
    {key : Text} (noHeader : key ≠ Json.text "header")
    (noDescriptors : key ≠ Json.text "sectionDescriptors") :
    getMember (describedRecord printed record) key = getMember record key := by
  rw [describedRecord, getMember_updated, if_neg noDescriptors, getMember_updated, if_neg noHeader]

/-- A record that can be enriched gets its notes. -/
theorem enrichAmdSections_eq (printed : Json → Text) {record : List (Text × Json)}
    {guids : Nat → Text} (readable : EnrichedReading record guids) :
    enrichAmdSections printed (.object record) =
      .ok (.object (enrichedRecord printed guids record)) := by
  have header := updateMember_eq fun value found =>
    enrichHeader_eq printed (readable.header value found)
  have descriptors : updateMember (updated record "header" (noted (headerNotes printed)))
      "sectionDescriptors" (enrichItems fun _ desc => enrichDescriptor desc) =
        .ok (describedRecord printed record) := by
    refine updateMember_eq fun value found => ?_
    rw [getMember_updated, if_neg (by decide)] at found
    obtain ⟨items, rfl, texts⟩ := readable.descriptors value found
    exact enrichItems_eq fun index item present =>
      enrichDescriptor_eq (texts item (List.mem_of_getElem? present))
  have sections : updateMember (describedRecord printed record) "sections"
      (enrichItems fun index sec =>
        enrichSection (descriptorsOf (describedRecord printed record))[index]? sec) =
        .ok (enrichedRecord printed guids record) := by
    refine updateMember_eq fun value found => ?_
    rw [getMember_describedRecord_other printed record (by decide) (by decide)] at found
    obtain ⟨items, rfl⟩ := readable.sections value found
    exact enrichItems_eq fun index item _ => enrichSection_eq (readable.guids printed index) item
  rw [enrichAmdSections, header]
  dsimp only [bind, Except.bind]
  rw [descriptors]
  dsimp only
  rw [descriptorsOf] at sections
  rw [sections]
  rfl

/-! ### Records as libcper gives them -/

namespace LibcperShape

variable {record : List (Text × Json)} (shape : LibcperShape record) (printed : Json → Text)

/-- The types that the descriptors of a record give its sections. -/
def guids (record : List (Text × Json)) (index : Nat) : Text :=
  guidOf (descriptorsOf record)[index]?

include shape

/-- The descriptors of a record are all of the shape. -/
theorem descriptorShape {index : Nat} {desc : Json}
    (found : (descriptorsOf record)[index]? = some desc) : DescriptorShape desc := by
  rw [descriptorsOf] at found
  cases present : getMember record (Json.text "sectionDescriptors") with
  | none =>
    rw [present] at found
    cases found
  | some value =>
    obtain ⟨items, rfl, each⟩ := shape.descriptors value present
    rw [present, listed_array] at found
    exact each desc (List.mem_of_getElem? found)

theorem descriptorsOf_describedRecord :
    descriptorsOf (describedRecord printed record) =
      (descriptorsOf record).map (noted descriptorNotes) := by
  rw [descriptorsOf, getMember_describedRecord, descriptorsOf]
  cases present : getMember record (Json.text "sectionDescriptors") with
  | none => rfl
  | some value =>
    obtain ⟨items, rfl, _⟩ := shape.descriptors value present
    rw [Option.map_some, notedItems, listed_array, listed_array, mapIdx_of_const]

/-- Neither the notes on the descriptors nor those that are written once more change the types they
name. -/
theorem sectionGuid_described (index : Nat) :
    sectionGuid ((descriptorsOf record).map (noted descriptorNotes))[index]? =
      .ok (guids record index) := by
  rw [List.getElem?_map, guids]
  cases found : (descriptorsOf record)[index]? with
  | none => rfl
  | some desc =>
    have described := shape.descriptorShape found
    rw [Option.map_some, sectionGuid_noted described, sectionGuid_eq described]

theorem readable : EnrichedReading record (guids record) where
  header found present := (shape.header found present).1
  descriptors found present := by
    obtain ⟨items, rfl, each⟩ := shape.descriptors found present
    exact ⟨items, rfl, fun desc inside => (each desc inside).texts⟩
  guids printed index := by
    rw [shape.descriptorsOf_describedRecord printed]
    exact shape.sectionGuid_described index
  sections found present := by
    obtain ⟨items, rfl, _⟩ := shape.sections found present
    exact ⟨items, rfl⟩

/-- Notes on the descriptors that are written once more change nothing. -/
theorem noted_descriptors_again {found : Json}
    (present : getMember record (Json.text "sectionDescriptors") = some found) :
    notedItems (fun _ => descriptorNotes) (notedItems (fun _ => descriptorNotes) found) =
      notedItems (fun _ => descriptorNotes) found := by
  obtain ⟨items, rfl, each⟩ := shape.descriptors found present
  exact notedItems_again fun index item inside => noted_again independent_descriptorNotes
    (each item (List.mem_of_getElem? inside)).fresh

omit shape

/-- What an enriched record has: its header, its descriptors and its sections with their notes, and
everything else as before. -/
theorem getMember_enriched (key : Text) :
    getMember (enrichedRecord printed (guids record) record) key =
      if key = Json.text "sections" then
        (getMember record key).map (notedItems fun index => sectionNotes (guids record index))
      else if key = Json.text "sectionDescriptors" then
        (getMember record key).map (notedItems fun _ => descriptorNotes)
      else if key = Json.text "header" then
        (getMember record key).map (noted (headerNotes printed))
      else getMember record key := by
  rw [enrichedRecord, getMember_updated]
  by_cases sections : key = Json.text "sections"
  · rw [if_pos sections, if_pos sections, sections,
      getMember_describedRecord_other printed record (by decide) (by decide)]
  · rw [if_neg sections, if_neg sections, describedRecord, getMember_updated]
    by_cases descriptors : key = Json.text "sectionDescriptors"
    · rw [if_pos descriptors, if_pos descriptors, getMember_updated, descriptors,
        if_neg (by decide)]
    · rw [if_neg descriptors, if_neg descriptors, getMember_updated]

theorem keys_enriched : (enrichedRecord printed (guids record) record).map Prod.fst =
    record.map Prod.fst := by
  rw [enrichedRecord, keys_updated, describedRecord, keys_updated, keys_updated]

include shape

/-- The notes on the header are written once more without a change. -/
theorem noted_header_again {found : Json}
    (present : getMember record (Json.text "header") = some found) :
    noted (headerNotes printed) (noted (headerNotes printed) found) =
      noted (headerNotes printed) found :=
  noted_again (independent_headerNotes printed) (shape.header found present).2

/-- So are those on the sections. -/
theorem noted_sections_again {found : Json}
    (present : getMember record (Json.text "sections") = some found) :
    notedItems (fun index => sectionNotes (guids record index))
        (notedItems (fun index => sectionNotes (guids record index)) found) =
      notedItems (fun index => sectionNotes (guids record index)) found := by
  obtain ⟨items, rfl, each⟩ := shape.sections found present
  exact notedItems_again fun index item inside => noted_again (independent_sectionNotes _)
    (each item (List.mem_of_getElem? inside))

/-- An enriched record can be enriched, with the same types of its sections. -/
theorem readable_enriched :
    EnrichedReading (enrichedRecord printed (guids record) record) (guids record) where
  header found present := by
    rw [getMember_enriched, if_neg (by decide), if_neg (by decide), if_pos rfl] at present
    obtain ⟨value, original, rfl⟩ := Option.map_eq_some_iff.mp present
    have foreign : ∀ key ∈ ["platformID", "creatorID"], Json.text key ∉ ownHeaderKeys := by decide
    exact hasTexts_noted (independent_headerNotes printed) (shape.header value original).2
      (shape.header value original).1 foreign
  descriptors found present := by
    rw [getMember_enriched, if_neg (by decide), if_pos rfl] at present
    obtain ⟨value, original, rfl⟩ := Option.map_eq_some_iff.mp present
    obtain ⟨items, rfl, each⟩ := shape.descriptors value original
    refine ⟨_, rfl, fun desc inside => ?_⟩
    obtain ⟨index, within, rfl⟩ := List.mem_mapIdx.mp inside
    have described := each items[index] (List.getElem_mem within)
    exact hasTexts_noted independent_descriptorNotes described.fresh described.texts (by decide)
  guids printed' index := by
    have same : descriptorsOf (describedRecord printed'
        (enrichedRecord printed (guids record) record)) =
          descriptorsOf (describedRecord printed record) := by
      rw [descriptorsOf, descriptorsOf, getMember_describedRecord, getMember_describedRecord,
        getMember_enriched, if_neg (by decide), if_pos rfl]
      cases present : getMember record (Json.text "sectionDescriptors") with
      | none => rfl
      | some value =>
        rw [Option.map_some, Option.map_some, shape.noted_descriptors_again present]
    rw [same]
    exact shape.readable.guids printed index
  sections found present := by
    rw [getMember_enriched, if_pos rfl] at present
    obtain ⟨value, original, rfl⟩ := Option.map_eq_some_iff.mp present
    obtain ⟨items, rfl, _⟩ := shape.sections value original
    exact ⟨_, rfl⟩

/-- Enriching an enriched record leaves it as it is. -/
theorem enrichedRecord_again :
    enrichedRecord printed (guids record) (enrichedRecord printed (guids record) record) =
      enrichedRecord printed (guids record) record := by
  have distinct : ((enrichedRecord printed (guids record) record).map Prod.fst).Nodup := by
    rw [keys_enriched]
    exact shape.distinct
  have header : updated (enrichedRecord printed (guids record) record) "header"
      (noted (headerNotes printed)) = enrichedRecord printed (guids record) record := by
    refine updated_eq_self distinct fun found present => ?_
    rw [getMember_enriched, if_neg (by decide), if_neg (by decide), if_pos rfl] at present
    obtain ⟨value, original, rfl⟩ := Option.map_eq_some_iff.mp present
    exact shape.noted_header_again printed original
  have descriptors : updated (enrichedRecord printed (guids record) record) "sectionDescriptors"
      (notedItems fun _ => descriptorNotes) = enrichedRecord printed (guids record) record := by
    refine updated_eq_self distinct fun found present => ?_
    rw [getMember_enriched, if_neg (by decide), if_pos rfl] at present
    obtain ⟨value, original, rfl⟩ := Option.map_eq_some_iff.mp present
    exact shape.noted_descriptors_again original
  have described : describedRecord printed (enrichedRecord printed (guids record) record) =
      enrichedRecord printed (guids record) record := by
    rw [describedRecord, header, descriptors]
  refine Eq.trans (congrArg (fun record' => updated record' "sections" _) described) ?_
  refine updated_eq_self distinct fun found present => ?_
  rw [getMember_enriched, if_pos rfl] at present
  obtain ⟨value, original, rfl⟩ := Option.map_eq_some_iff.mp present
  exact shape.noted_sections_again original

theorem enrichAmdSections_again :
    enrichAmdSections printed (.object (enrichedRecord printed (guids record) record)) =
      .ok (.object (enrichedRecord printed (guids record) record)) := by
  rw [enrichAmdSections_eq printed (shape.readable_enriched printed),
    shape.enrichedRecord_again printed]

end LibcperShape

/-- So the worker stores a record that it has enriched before as it is. -/
theorem summarized_enriched (printed : Json → Text) (refine : Json → Option String)
    (answers : EnrichAnswers) (row : PendingCper) {record enriched : List (Text × Json)}
    (shape : LibcperShape record)
    (summarize : answers.summarize = fun decoded =>
      (enrichAmdSections printed decoded).toOption.bind fun enriched =>
        (refine enriched).map fun refined => (enriched, refined))
    (once : enrichAmdSections printed (.object record) = .ok (.object enriched)) :
    ∀ result ∈ row.summarized answers (.object enriched),
      result.decoded = some (.object enriched) := by
  rw [enrichAmdSections_eq printed shape.readable] at once
  obtain rfl := Json.object.inj (Except.ok.inj once)
  intro result summarized
  rw [PendingCper.summarized, summarize] at summarized
  dsimp only at summarized
  rw [shape.enrichAmdSections_again printed, Except.toOption, Option.bind_some, Option.mem_def,
    Option.map_eq_some_iff] at summarized
  obtain ⟨⟨_, refined⟩, found, rfl⟩ := summarized
  obtain ⟨_, _, same⟩ := Option.map_eq_some_iff.mp found
  exact congrArg some (Prod.ext_iff.mp same).1.symm

/-! ### What enriching adds -/

/-- A section with what its payload decodes to behind its members, if it decodes. -/
def withDecoded (guid : Text) : Json → Json
  | .object sec =>
    match decodedPayload guid sec with
    | some decoded => .object (sec ++ [(Json.text "amd", decoded)])
    | none => .object sec
  | sec => sec

/-- The note on a section is what its payload decodes to. -/
theorem noted_section {guid : Text} {sec : Json} (fresh : IsFresh ownKeys sec) :
    noted (sectionNotes guid) sec = withDecoded guid sec := by
  cases sec with
  | object members =>
    rw [noted_object (independent_sectionNotes guid) fresh rfl, withDecoded, sectionNotes,
      Notes.added_singleton]
    dsimp only
    cases decodedPayload guid members with
    | none => exact congrArg Json.object (List.append_nil members)
    | some decoded => rfl
  | _ => rfl

/-- What enriching does to a record: its keys stay, and so does everything outside the header, the
descriptors and the sections. The header and the descriptors only get members under keys of ours,
and a section gets what its own payload decodes to, as a section of the type its own descriptor
names. -/
structure OnlyAdds (record enriched : List (Text × Json)) : Prop where
  keys : enriched.map Prod.fst = record.map Prod.fst
  others : ∀ key ∉ ["header", "sectionDescriptors", "sections"].map Json.text,
    getMember enriched key = getMember record key
  header : ∀ found, getMember record (Json.text "header") = some found →
    ∃ after, getMember enriched (Json.text "header") = some after ∧
      Extends ownHeaderKeys found after
  descriptors : ∀ items, getMember record (Json.text "sectionDescriptors") = some (.array items) →
    ∃ after, getMember enriched (Json.text "sectionDescriptors") = some (.array after) ∧
      List.Forall₂ (Extends ownDescriptorKeys) items after
  sections : ∀ items, getMember record (Json.text "sections") = some (.array items) →
    getMember enriched (Json.text "sections") = some (.array (items.mapIdx fun index sec =>
      withDecoded (guidOf (descriptorsOf record)[index]?) sec))

/-- Enriching a record of any number of descriptors and sections, whatever these name and hold, only
adds the keys of ours to it, and enriching it once more changes nothing. -/
theorem enrichment_idempotent_additive (printed : Json → Text) (record : List (Text × Json))
    (shape : LibcperShape record) :
    ∃ enriched, enrichAmdSections printed (.object record) = .ok (.object enriched) ∧
      enrichAmdSections printed (.object enriched) = .ok (.object enriched) ∧
      OnlyAdds record enriched := by
  refine ⟨_, enrichAmdSections_eq printed shape.readable, shape.enrichAmdSections_again printed,
    LibcperShape.keys_enriched printed, ?_, ?_, ?_, ?_⟩
  · intro key other
    simp only [List.map_cons, List.map_nil, List.mem_cons, List.not_mem_nil, or_false,
      not_or] at other
    rw [LibcperShape.getMember_enriched, if_neg other.2.2, if_neg other.2.1, if_neg other.1]
  · intro found present
    refine ⟨noted (headerNotes printed) found, ?_, ?_⟩
    · rw [LibcperShape.getMember_enriched, if_neg (by decide), if_neg (by decide), if_pos rfl,
        present, Option.map_some]
    · exact extends_noted (independent_headerNotes printed) (shape.header found present).2
  · intro items present
    obtain ⟨_, same, each⟩ := shape.descriptors _ present
    obtain rfl := Json.array.inj same
    refine ⟨items.map (noted descriptorNotes), ?_, ?_⟩
    · rw [LibcperShape.getMember_enriched, if_neg (by decide), if_pos rfl, present,
        Option.map_some, notedItems, mapIdx_of_const]
    · exact List.forall₂_map_right_iff.mpr (List.forall₂_same.mpr fun desc inside =>
        extends_noted independent_descriptorNotes (each desc inside).fresh)
  · intro items present
    obtain ⟨_, same, each⟩ := shape.sections _ present
    obtain rfl := Json.array.inj same
    rw [LibcperShape.getMember_enriched, if_pos rfl, present, Option.map_some, notedItems]
    refine congrArg (fun items => some (Json.array items)) (List.ext_getElem? fun index => ?_)
    rw [List.getElem?_mapIdx, List.getElem?_mapIdx]
    cases inside : items[index]? with
    | none => rfl
    | some sec => exact congrArg some (noted_section (each sec (List.mem_of_getElem? inside)))

/-- A record with two sections, of which one has a descriptor. Its payload is too short. -/
def plainRecord : List (Text × Json) := [
  (Json.text "header", objectOf [
    ("platformID", literalJson "31313131-3230-472d-3339-3330362d3030")]),
  (Json.text "sectionDescriptors", .array [objectOf [
    ("sectionType", objectOf [("data", .string amdCrashdump)])]]),
  (Json.text "sections", .array [
    objectOf [("Unknown", objectOf [("data", literalJson "AAAA")])],
    objectOf [("message", literalJson "A PCIe Error occurred")]])]

theorem plainRecord_shape : LibcperShape plainRecord where
  distinct := by decide
  header found present := by
    obtain rfl := Option.some.inj present
    refine ⟨?_, ?_⟩
    · rintro members same key inside value present
      obtain rfl := Json.object.inj same
      simp only [List.mem_cons, List.not_mem_nil, or_false] at inside
      rcases inside with rfl | rfl
      · exact ⟨_, (Option.some.inj present).symm⟩
      · cases present
    · rintro members same
      obtain rfl := Json.object.inj same
      exact ⟨by decide, by decide⟩
  descriptors found present := by
    obtain rfl := Option.some.inj present
    refine ⟨_, rfl, fun desc inside => ?_⟩
    rw [List.mem_singleton.mp inside]
    refine ⟨⟨_, rfl⟩, ?_, ?_, ?_⟩
    · rintro members same key inside value present
      obtain rfl := Json.object.inj same
      rw [List.mem_singleton.mp inside] at present
      cases present
    · rintro members same
      obtain rfl := Json.object.inj same
      exact ⟨by decide, by decide⟩
    · rintro members same value present
      obtain rfl := Json.object.inj same
      obtain rfl := Option.some.inj present
      refine ⟨⟨_, rfl⟩, ?_⟩
      rintro members same key inside value present
      obtain rfl := Json.object.inj same
      rw [List.mem_singleton.mp inside] at present
      exact ⟨_, (Option.some.inj present).symm⟩
  sections found present := by
    obtain rfl := Option.some.inj present
    refine ⟨_, rfl, fun sec inside => ?_⟩
    simp only [List.mem_cons, List.not_mem_nil, or_false] at inside
    rcases inside with rfl | rfl
    · rintro members same
      obtain rfl := Json.object.inj same
      exact ⟨by decide, by decide⟩
    · rintro members same
      obtain rfl := Json.object.inj same
      exact ⟨by decide, by decide⟩

theorem plainRecord_enriched :
    ∃ enriched, enrichAmdSections (fun _ => []) (.object plainRecord) = .ok (.object enriched) ∧
      enrichAmdSections (fun _ => []) (.object enriched) = .ok (.object enriched) ∧
      OnlyAdds plainRecord enriched :=
  enrichment_idempotent_additive (fun _ => []) plainRecord plainRecord_shape

end Gyanam
