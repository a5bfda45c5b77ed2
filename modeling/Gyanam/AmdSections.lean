/-
This file models how the vendor sections of a CPER record are decoded. A section
is a record of octets. Its type and its length say which layout it has: the dump
of a crash at boot, that of a fatal error, or a nonstandard error at runtime. The
last two carry the registers of the bank that reports the error, the fatal one as
eight halves, and the nonstandard one as a dump that is indexed by register.

The two layouts decode alike: what is said about an error depends on four of its
registers only, and not on the layout that carried them, or on its other octets.
-/

import Gyanam.Lib.Hex
import Gyanam.Lib.LittleEndian
import Gyanam.Lib.Table

namespace Gyanam

open Json (CodePoint Text)

/-! ### Section types and layouts -/

def amdCrashdump : Text := Json.text "32ac0c78-2623-48f6-b0d0-7365725fd6ae"

def amdGpuNonstandardError : Text := Json.text "32ac0c78-2623-48f6-81a2-ac691780551d"

/-- Whether a section type is one that is decoded here. -/
def isAmdSection (guid : Text) : Bool :=
  guid ≠ [] && Strings.lower guid ∈ [amdCrashdump, amdGpuNonstandardError]

/-- The length of the header of a crash dump. -/
def hdrLen : Nat := 128

/-- The length of the dump of a crash at boot. -/
def bootLen : Nat := 208

/-- The length of the dump of a fatal error. -/
def fatalLen : Nat := 176

/-- The least length of a nonstandard error. -/
def nonstdLen : Nat := 272

/-- Where the firmware is named. -/
def fwIdOff : Nat := 16

def fwIdLen : Nat := 48

/-- Where the registers begin, in all layouts. -/
def registersOff : Nat := 144

/-- How many halves of registers a dump holds. -/
def cperAcaRegCount : Nat := 32

/-- The registers that have a name. -/
inductive AcaRegister where
  | ctl
  | status
  | addr
  | misc0
  | config
  | ipid
  | synd
  | destat
  | deaddr
  | ctlMask
  deriving DecidableEq, Repr

/-- The registers by their index in a dump. -/
def acaRegNames : List (Nat × AcaRegister) := [
  (0, .ctl),
  (1, .status),
  (2, .addr),
  (3, .misc0),
  (4, .config),
  (5, .ipid),
  (6, .synd),
  (8, .destat),
  (9, .deaddr),
  (10, .ctlMask)]

/-- The name of a register. -/
def AcaRegister.name : AcaRegister → String
  | ctl => "CTL"
  | status => "STATUS"
  | addr => "ADDR"
  | misc0 => "MISC0"
  | config => "CONFIG"
  | ipid => "IPID"
  | synd => "SYND"
  | destat => "DESTAT"
  | deaddr => "DEADDR"
  | ctlMask => "CTL_MASK"

/-- Best-effort IP block names, by hardware id and type. -/
def ipidIpBlock : List ((Nat × Nat) × String) := [
  ((0x96, 0x0), "UMC (HBM memory)"),
  ((0x01, 0x1), "SMU (GFX/SDMA/MMHUB/VCN/JPEG family)"),
  ((0x01, 0x2), "MP5"),
  ((0x50, 0x0), "PCS_XGMI (xGMI link)")]

/-! ### Registers -/

/-- The bits of a number from one to another. -/
def field (value hi lo : Nat) : Nat := (value >>> lo) &&& ((1 <<< (hi - lo + 1)) - 1)

/-- Is a bit set? -/
def flag (value index : Nat) : Bool := field value index index ≠ 0

/-- A decoded status register. -/
structure McaStatus where
  raw : Text
  val : Bool
  overflow : Bool
  uc : Bool
  en : Bool
  miscv : Bool
  addrv : Bool
  pcc : Bool
  errcoreidValid : Bool
  tcc : Bool
  syndv : Bool
  cecc : Bool
  uecc : Bool
  deferred : Bool
  poison : Bool
  scrub : Bool
  errcoreid : Nat
  addrLsb : Nat
  errorCode : Nat
  errorCodeExt : Nat
  deriving DecidableEq, Repr

/-- Decode a status register. -/
def decodeMcaStatus (status : Nat) : McaStatus where
  raw := Hex.literal 16 status
  val := flag status 63
  overflow := flag status 62
  uc := flag status 61
  en := flag status 60
  miscv := flag status 59
  addrv := flag status 58
  pcc := flag status 57
  errcoreidValid := flag status 56
  tcc := flag status 55
  syndv := flag status 53
  cecc := flag status 46
  uecc := flag status 45
  deferred := flag status 44
  poison := flag status 43
  scrub := flag status 40
  errcoreid := field status 37 32
  addrLsb := field status 29 24
  errorCode := field status 15 0
  errorCodeExt := field status 21 16

/-- A decoded register of counts. -/
structure Misc0 where
  raw : Text
  valid : Bool
  overflow : Bool
  errorCount : Nat
  deriving DecidableEq, Repr

/-- Decode a register of counts. -/
def decodeMisc0 (misc0 : Nat) : Misc0 where
  raw := Hex.literal 16 misc0
  valid := flag misc0 63
  overflow := flag misc0 48
  errorCount := field misc0 43 32

/-- A decoded syndrome. -/
structure Synd where
  raw : Text
  errorInformation : Nat
  deriving DecidableEq, Repr

/-- Decode a syndrome. -/
def decodeSynd (synd : Nat) : Synd where
  raw := Hex.literal 16 synd
  errorInformation := field synd 17 0

/-- Where an error of the memory is. -/
structure UmcLocation where
  socketId : Nat
  aidDieId : Nat
  channel : Nat
  umcInstance : Nat
  deriving DecidableEq, Repr

/-- Decode where an error of the memory is. -/
def decodeUmcLocation (ipid : Nat) : UmcLocation :=
  let instLo := field ipid 31 0
  let instHi := field ipid 47 44
  { socketId := ((instLo &&& 0x1) <<< 2) ||| (instHi &&& 0x03)
    aidDieId := (instHi >>> 2) &&& 0x03
    channel := ((instLo >>> 20) &&& 0x1) * 4 + ((instLo >>> 12) &&& 0xF)
    umcInstance := (instLo >>> 21) &&& 0x7 }

/-- A decoded identity of a bank. -/
structure McaIpid where
  raw : Text
  mcaType : Text
  instanceIdHi : Text
  hardwareId : Text
  instanceIdLo : Text
  ipBlock : Option String
  umcLocation : Option UmcLocation
  deriving DecidableEq, Repr

/-- Decode the identity of a bank. That of memory holds the location. -/
def decodeMcaIpid (ipid : Nat) : McaIpid :=
  let hwid := field ipid 43 32
  let mcatype := field ipid 63 48
  { raw := Hex.literal 16 ipid
    mcaType := Hex.literal 4 mcatype
    instanceIdHi := Hex.literal 0 (field ipid 47 44)
    hardwareId := Hex.literal 3 hwid
    instanceIdLo := Hex.literal 8 (field ipid 31 0)
    ipBlock := ipidIpBlock.lookup (hwid, mcatype)
    umcLocation := if (hwid, mcatype) = (0x96, 0x0) then some (decodeUmcLocation ipid) else none }

/-- An address that is annotated. -/
structure AddressEntry where
  raw : Text
  addressValid : Bool
  validAddress : Option Text
  deriving DecidableEq, Repr

/-- What is shown of a register. -/
inductive RegisterValue where
  | status (status : McaStatus)
  | ipid (ipid : McaIpid)
  | misc0 (misc0 : Misc0)
  | synd (synd : Synd)
  | raw (chars : Text)
  | address (entry : AddressEntry)
  deriving DecidableEq, Repr

/-- Some registers, in the order they are shown in. -/
abbrev Registers := List (AcaRegister × RegisterValue)

/-- Set a register that is shown already. -/
def Registers.set (registers : Registers) (register : AcaRegister) (value : RegisterValue) :
    Registers :=
  registers.map fun shown => if shown.1 = register then (register, value) else shown

/-- Annotate an address by the status it is paired with. The low bits that are not part of the
address are masked off. -/
def annotateAddress (registers : Registers) (pair : AcaRegister × AcaRegister) : Registers :=
  match registers.lookup pair.1, registers.lookup pair.2 with
  | some (.raw rawHex), some (.status status) =>
    match Hex.read rawHex with
    | none => registers
    | some raw =>
      let valid := Nat.ldiff raw ((1 <<< status.addrLsb) - 1)
      registers.set pair.1 (.address {
        raw := rawHex
        addressValid := status.addrv
        validAddress := if status.addrv then some (Hex.literal 16 valid) else none })
  | _, _ => registers

/-- Turn the texts of the addresses into annotated ones. -/
def annotateAddresses (registers : Registers) : Registers :=
  [(AcaRegister.addr, AcaRegister.status), (.deaddr, .destat)].foldl annotateAddress registers

/-- Decode a register by its name. -/
def decodeRegister (value : Nat) : AcaRegister → RegisterValue
  | .status => .status (decodeMcaStatus value)
  | .destat => .status (decodeMcaStatus value)
  | .ipid => .ipid (decodeMcaIpid value)
  | .misc0 => .misc0 (decodeMisc0 value)
  | .synd => .synd (decodeSynd value)
  | _ => .raw (Hex.literal 16 value)

/-- Name and decode the registers in a dump of halves. -/
def decodeRegisters (regs : List Nat) : Registers :=
  let u64 index := regs.getD (2 * index) 0 ||| (regs.getD (2 * index + 1) 0 <<< 32)
  let within := acaRegNames.filter fun named => named.1 < regs.length / 2
  annotateAddresses (within.map fun named => (named.2, decodeRegister (u64 named.1) named.2))

/-! ### Descriptions -/

/-- How bad an error is. -/
inductive McaErrorClass where
  | invalid
  | uncorrectable
  | deferred
  | corrected
  | informational
  deriving DecidableEq, Repr

def McaErrorClass.name : McaErrorClass → String
  | invalid => "Invalid"
  | uncorrectable => "Uncorrectable"
  | deferred => "Deferred"
  | corrected => "Corrected"
  | informational => "Informational"

/-- The class of a status that logs an error. -/
def McaStatus.errorClass (status : McaStatus) : McaErrorClass :=
  if status.uc || status.uecc then .uncorrectable
  else if status.deferred || status.poison then .deferred
  else if status.cecc then .corrected
  else .informational

/-- How a description begins. -/
def McaStatus.lead (status : McaStatus) : Text :=
  if status.uecc then Json.text "Uncorrectable ECC error"
  else if status.cecc then Json.text "Correctable ECC error"
  else if status.scrub then Json.text (status.errorClass.name ++ " scrub error")
  else Json.text (status.errorClass.name ++ " error")

/-- Where an error is, as far as the bank says. -/
def McaIpid.whereText (ipid : Option McaIpid) : Text :=
  let block := ((ipid.bind fun ipid => ipid.ipBlock).map Json.text).getD
    (Json.text "IP hwid " ++ (ipid.map fun ipid => ipid.hardwareId).getD (Json.text "?"))
  match ipid.bind fun ipid => ipid.umcLocation with
  | none => block
  | some loc =>
    block ++ Json.text " — socket " ++ Strings.decimal loc.socketId ++
      Json.text ", AID " ++ Strings.decimal loc.aidDieId ++
      Json.text ", channel " ++ Strings.decimal loc.channel ++
      Json.text ", UMC instance " ++ Strings.decimal loc.umcInstance

/-- What else a status says of an error. -/
def McaStatus.extra (status : McaStatus) : List Text :=
  [(status.poison, "poisoned data"),
    (status.deferred, "deferred"),
    (status.pcc, "processor context corrupt"),
    (status.overflow, "error-counter overflow")].filterMap fun said =>
      if said.1 then some (Json.text said.2) else none

/-- Turn the status and the bank into an error class and a sentence. -/
def describeError (status : Option McaStatus) (ipid : Option McaIpid) : McaErrorClass × Text :=
  match status.filter fun status => status.val with
  | none => (.invalid, Json.text "No valid error logged.")
  | some status =>
    let parts := (status.lead ++ Json.text " on " ++ McaIpid.whereText ipid) ::
      if status.extra ≠ [] then
        [Json.text "(" ++ (Json.text ", ").intercalate status.extra ++ Json.text ")"]
      else []
    (status.errorClass, (Json.text " ").intercalate parts ++ Json.text ".")

/-- The codes of the part of a block that reports an error. -/
structure SubBlockErrorCode where
  fromStatusErrorcode : Nat
  fromSyndErrorinformation : Option Nat
  deriving DecidableEq, Repr

/-- What is derived of an error, whatever layout it came in. -/
structure CommonErrorFields where
  errorClass : McaErrorClass
  description : Text
  subBlockErrorCode : SubBlockErrorCode
  errorCodeExtMeaning : Option String
  deriving DecidableEq, Repr

/-- The fields that fatal and runtime sections share. -/
def commonErrorFields (status : Option McaStatus) (ipid : Option McaIpid) (syndHex : Text) :
    CommonErrorFields :=
  let described := describeError status ipid
  let ip := ((ipid.bind fun ipid => ipid.ipBlock).map Json.text).getD []
  let meanings : List (Nat × String) :=
    [(0, "uncorrectable"), (9, "uncorrectable"), (6, "correctable")]
  { errorClass := described.1
    description := described.2
    subBlockErrorCode := {
      fromStatusErrorcode := ((status.map fun status => status.errorCode).getD 0) &&& 0xFF
      fromSyndErrorinformation :=
        (Hex.read syndHex).map fun synd => (synd &&& ((1 <<< 18) - 1)) &&& 0xFF }
    errorCodeExtMeaning :=
      if Json.text "UMC" <+: ip then status.bind fun status => meanings.lookup status.errorCodeExt
      else none }

/-! ### Sections -/

/-- The text before the first octet of zero. What is not ASCII is replaced. -/
def cstr (buf : List UInt8) : Text :=
  Strings.strip ((buf.takeWhile (· ≠ 0)).map fun octet =>
    Json.point (if octet < 0x80 then octet.toNat else 0xFFFD))

/-- The firmware that a section names. -/
def firmwareId (raw : List UInt8) : Text := cstr ((raw.drop fwIdOff).take fwIdLen)

/-- The digits of some octets. -/
def hexOctets (octets : List UInt8) : Text := octets.flatMap fun octet => Hex.digits 2 octet.toNat

/-- Render sixteen octets as a GUID. Its first three parts are little-endian. -/
def guidStr (octets : List UInt8) : Text :=
  if octets.length < 16 then []
  else
    Hex.digits 8 (LittleEndian.read 4 octets 0) ++ Json.text "-" ++
      Hex.digits 4 (LittleEndian.read 2 octets 4) ++ Json.text "-" ++
      Hex.digits 4 (LittleEndian.read 2 octets 6) ++ Json.text "-" ++
      hexOctets ((octets.drop 8).take 2) ++ Json.text "-" ++ hexOctets (octets.drop 10)

/-- The dump of a crash at boot. -/
structure BootCrashdump where
  firmwareId : Text
  regCtxType : Nat
  regArrSize : Nat
  oamMessages : List Text

/-- The dump of a fatal error. -/
structure FatalCrashdump where
  firmwareId : Text
  common : CommonErrorFields
  registers : Registers

/-- The bits of a check of a machine. -/
structure MsCheck where
  errTypeValid : Bool
  pccValid : Bool
  uncorrValid : Bool
  preciseIpValid : Bool
  restartableIpValid : Bool
  overflowValid : Bool
  errType : Nat
  pcc : Bool
  uncorrected : Bool
  preciseIp : Bool
  restartableIp : Bool
  overflow : Bool

/-- Decode the bits of a check of a machine. -/
def decodeMsCheck (msChk : Nat) : MsCheck where
  errTypeValid := flag msChk 0
  pccValid := flag msChk 1
  uncorrValid := flag msChk 2
  preciseIpValid := flag msChk 3
  restartableIpValid := flag msChk 4
  overflowValid := flag msChk 5
  errType := field msChk 17 16
  pcc := flag msChk 18
  uncorrected := flag msChk 19
  preciseIp := flag msChk 20
  restartableIp := flag msChk 21
  overflow := flag msChk 22

/-- What a dump of registers says about itself. -/
structure RegisterContext where
  regCtxType : Nat
  regArrSize : Nat
  msrAddr : Text
  mmRegAddr : Text

/-- The identifiers of an error at runtime. -/
structure ErrorIdentifiers where
  targetAddrId : Text
  reqId : Text
  respId : Text
  instrPtr : Text

/-- A nonstandard error at runtime. -/
structure RuntimeNonstandard where
  firmwareId : Text
  common : CommonErrorFields
  errorType : Text
  apicId : Text
  msCheck : MsCheck
  registers : Registers
  context : RegisterContext
  identifiers : ErrorIdentifiers
  hdrValid : Text
  infoValid : Text

/-- A decoded section, or why it cannot be decoded. -/
inductive AmdSection where
  | decodeError (message : Text)
  | boot (decoded : BootCrashdump)
  | fatal (decoded : FatalCrashdump)
  | runtime (decoded : RuntimeNonstandard)

/-- The message for a section that is too short. -/
def tooShort (kind : String) (length expected : Nat) : AmdSection :=
  .decodeError (Json.text (kind ++ " section ") ++ Strings.decimal length ++
    Json.text "B < expected " ++ Strings.decimal expected ++ Json.text "B")

/-- A boot section holds messages. Those that are zero are left out. -/
def decodeBoot (raw : List UInt8) : AmdSection :=
  if raw.length < bootLen then tooShort "boot" raw.length bootLen
  else
    let messages := LittleEndian.readArray 8 8 raw registersOff
    .boot {
      firmwareId := firmwareId raw
      regCtxType := LittleEndian.read 2 raw hdrLen
      regArrSize := LittleEndian.read 2 raw (hdrLen + 2)
      oamMessages := (messages.filter (· ≠ 0)).map (Hex.literal 16) }

/-- A fatal section holds four registers, each as a low and a high half. -/
def decodeFatal (raw : List UInt8) : AmdSection :=
  if raw.length < fatalLen then tooShort "fatal" raw.length fatalLen
  else
    let half index := LittleEndian.read 4 raw (registersOff + 4 * index)
    let status := half 0 ||| (half 1 <<< 32)
    let addr := half 2 ||| (half 3 <<< 32)
    let ipid := half 4 ||| (half 5 <<< 32)
    let synd := half 6 ||| (half 7 <<< 32)
    let statusD := decodeMcaStatus status
    let ipidD := decodeMcaIpid ipid
    let registers := annotateAddresses [
      (.status, .status statusD),
      (.addr, .raw (Hex.literal 16 addr)),
      (.ipid, .ipid ipidD),
      (.synd, .synd (decodeSynd synd))]
    .fatal {
      firmwareId := firmwareId raw
      common := commonErrorFields (some statusD) (some ipidD) (Hex.literal 16 synd)
      registers := registers }

/-- A nonstandard section holds a dump of the registers, in halves. -/
def decodeNonstd (raw : List UInt8) : AmdSection :=
  if raw.length < nonstdLen then tooShort "nonstd" raw.length nonstdLen
  else
    let wide offset := LittleEndian.read 8 raw offset
    let registers := decodeRegisters (LittleEndian.readArray 4 cperAcaRegCount raw registersOff)
    let status := match registers.lookup .status with
      | some (.status status) => some status
      | _ => none
    let ipid := match registers.lookup .ipid with
      | some (.ipid ipid) => some ipid
      | _ => none
    let syndHex := match registers.lookup .synd with
      | some (.synd synd) => synd.raw
      | _ => Json.text "0x0000000000000000"
    .runtime {
      firmwareId := firmwareId raw
      common := commonErrorFields status ipid syndHex
      errorType := guidStr ((raw.drop 64).take 16)
      apicId := Hex.literal 16 (wide 8)
      msCheck := decodeMsCheck (wide 88)
      registers := registers
      context := {
        regCtxType := LittleEndian.read 2 raw 128
        regArrSize := LittleEndian.read 2 raw 130
        msrAddr := Hex.literal 8 (LittleEndian.read 4 raw 132)
        mmRegAddr := Hex.literal 16 (wide 136) }
      identifiers := {
        targetAddrId := Hex.literal 16 (wide 96)
        reqId := Hex.literal 16 (wide 104)
        respId := Hex.literal 16 (wide 112)
        instrPtr := Hex.literal 16 (wide 120) }
      hdrValid := Hex.literal 16 (wide 0)
      infoValid := Hex.literal 16 (wide 80) }

/-- Decode a vendor section, if it is one. A crash dump of the length of a fatal one is fatal. -/
def decodeAmdSection (guid : Text) (raw : List UInt8) : Option AmdSection :=
  if ¬ isAmdSection guid ∨ raw = [] then none
  else if Strings.lower guid = amdGpuNonstandardError then some (decodeNonstd raw)
  else if raw.length = fatalLen then some (decodeFatal raw)
  else if bootLen ≤ raw.length then some (decodeBoot raw)
  else some (.decodeError (Json.text "crashdump section " ++ Strings.decimal raw.length ++
    Json.text "B matches no known layout"))

/-! ### Looking registers up -/

theorem Registers.lookup_set (registers : Registers) (register name : AcaRegister)
    (value : RegisterValue) :
    (registers.set register value).lookup name =
      if name = register then (registers.lookup name).map fun _ => value
      else registers.lookup name := by
  induction registers with
  | nil => simp [Registers.set]
  | cons shown rest inductionHypothesis =>
    obtain ⟨key, old⟩ := shown
    rw [Registers.set] at inductionHypothesis ⊢
    rw [List.map_cons, List.lookup_cons]
    by_cases same : key = register
    · subst same
      by_cases asked : name = key
      · simp [asked]
      · rw [if_neg asked] at inductionHypothesis ⊢
        rw [if_pos rfl, beq_false_of_ne asked, List.lookup_cons, beq_false_of_ne asked]
        exact inductionHypothesis
    · rw [if_neg same, List.lookup_cons]
      by_cases asked : name = key
      · subst asked
        simp [same]
      · simp [beq_false_of_ne asked, inductionHypothesis]

/-- The annotated address of a register by the status it is paired with. -/
def addressEntry (address : Nat) (status : McaStatus) : AddressEntry where
  raw := Hex.literal 16 address
  addressValid := status.addrv
  validAddress :=
    if status.addrv then
      some (Hex.literal 16 (Nat.ldiff address ((1 <<< status.addrLsb) - 1)))
    else none

theorem lookup_annotateAddress_other (registers : Registers) {pair : AcaRegister × AcaRegister}
    {name : AcaRegister} (other : name ≠ pair.1) :
    (annotateAddress registers pair).lookup name = registers.lookup name := by
  unfold annotateAddress
  split
  next =>
    split
    next => rfl
    next => rw [Registers.lookup_set, if_neg other]
  next => rfl

theorem lookup_annotateAddress {registers : Registers} (pair : AcaRegister × AcaRegister)
    {address : Nat} {status : McaStatus}
    (shown : registers.lookup pair.1 = some (.raw (Hex.literal 16 address)))
    (paired : registers.lookup pair.2 = some (.status status)) :
    (annotateAddress registers pair).lookup pair.1 =
      some (.address (addressEntry address status)) := by
  unfold annotateAddress
  rw [shown, paired]
  dsimp only
  rw [Hex.read_literal]
  dsimp only
  rw [Registers.lookup_set, if_pos rfl, shown]
  rfl

/-- Annotating leaves all registers alone but the addresses. -/
theorem lookup_annotateAddresses_other (registers : Registers) {name : AcaRegister}
    (other : name ∉ [AcaRegister.addr, .deaddr]) :
    (annotateAddresses registers).lookup name = registers.lookup name := by
  rw [List.mem_cons, List.mem_singleton, not_or] at other
  rw [annotateAddresses, List.foldl_cons, List.foldl_cons, List.foldl_nil,
    lookup_annotateAddress_other _ other.2, lookup_annotateAddress_other _ other.1]

theorem lookup_annotateAddresses_addr {registers : Registers} {address : Nat} {status : McaStatus}
    (shown : registers.lookup .addr = some (.raw (Hex.literal 16 address)))
    (paired : registers.lookup .status = some (.status status)) :
    (annotateAddresses registers).lookup .addr = some (.address (addressEntry address status)) := by
  rw [annotateAddresses, List.foldl_cons, List.foldl_cons, List.foldl_nil,
    lookup_annotateAddress_other _ (by decide)]
  exact lookup_annotateAddress (.addr, .status) shown paired

/-! ### The registers that both layouts carry -/

/-- The registers that a fatal section carries. -/
def carriedRegisters : List AcaRegister := [.status, .addr, .ipid, .synd]

/-- Their values. -/
structure ErrorRegisters where
  status : UInt64
  addr : UInt64
  ipid : UInt64
  synd : UInt64

namespace ErrorRegisters

variable (registers : ErrorRegisters)

/-- A fatal section carries the values, one behind the other. -/
structure InFatal (raw : List UInt8) : Prop where
  length : raw.length = 176
  status : LittleEndian.Holds 8 raw 144 registers.status.toNat
  addr : LittleEndian.Holds 8 raw 152 registers.addr.toNat
  ipid : LittleEndian.Holds 8 raw 160 registers.ipid.toNat
  synd : LittleEndian.Holds 8 raw 168 registers.synd.toNat

/-- A nonstandard section carries the values, each at the index of its register. -/
structure InNonstd (raw : List UInt8) : Prop where
  length : 272 ≤ raw.length
  status : LittleEndian.Holds 8 raw (144 + 8 * 1) registers.status.toNat
  addr : LittleEndian.Holds 8 raw (144 + 8 * 2) registers.addr.toNat
  ipid : LittleEndian.Holds 8 raw (144 + 8 * 5) registers.ipid.toNat
  synd : LittleEndian.Holds 8 raw (144 + 8 * 6) registers.synd.toNat

/-- What is shown of a register, in either layout. -/
def shown : AcaRegister → Option RegisterValue
  | .status => some (.status (decodeMcaStatus registers.status.toNat))
  | .addr =>
    some (.address (addressEntry registers.addr.toNat (decodeMcaStatus registers.status.toNat)))
  | .ipid => some (.ipid (decodeMcaIpid registers.ipid.toNat))
  | .synd => some (.synd (decodeSynd registers.synd.toNat))
  | _ => none

/-- What is derived of the values, in either layout. -/
def common : CommonErrorFields :=
  commonErrorFields (some (decodeMcaStatus registers.status.toNat))
    (some (decodeMcaIpid registers.ipid.toNat)) (Hex.literal 16 registers.synd.toNat)

end ErrorRegisters

/-- Two halves in a row are a register. -/
theorem register_eq_read {raw : List UInt8} {value : UInt64} {offset : Nat}
    (holds : LittleEndian.Holds 8 raw offset value.toNat) :
    LittleEndian.read 4 raw offset ||| (LittleEndian.read 4 raw (offset + 4) <<< 32) =
      value.toNat := by
  have within := LittleEndian.length_of_holds holds (by decide)
  rw [show (32 : Nat) = 8 * 4 from rfl, LittleEndian.halves_eq_read (by omega)]
  exact LittleEndian.read_of_holds holds value.toNat_lt

/-- Whoever holds the four registers shows the same of them once the addresses are annotated. -/
theorem lookup_shown {shown : Registers} {registers : ErrorRegisters} {name : AcaRegister}
    (status : shown.lookup .status = some (.status (decodeMcaStatus registers.status.toNat)))
    (addr : shown.lookup .addr = some (.raw (Hex.literal 16 registers.addr.toNat)))
    (ipid : shown.lookup .ipid = some (.ipid (decodeMcaIpid registers.ipid.toNat)))
    (synd : shown.lookup .synd = some (.synd (decodeSynd registers.synd.toNat)))
    (carried : name ∈ carriedRegisters) :
    (annotateAddresses shown).lookup name = registers.shown name := by
  simp only [carriedRegisters, List.mem_cons, List.not_mem_nil, or_false] at carried
  rcases carried with rfl | rfl | rfl | rfl
  · rw [lookup_annotateAddresses_other _ (by decide), status]
    rfl
  · rw [lookup_annotateAddresses_addr addr status]
    rfl
  · rw [lookup_annotateAddresses_other _ (by decide), ipid]
    rfl
  · rw [lookup_annotateAddresses_other _ (by decide), synd]
    rfl

/-- What a fatal section shows and derives of the registers it carries. -/
theorem exists_decodeFatal {registers : ErrorRegisters} {raw : List UInt8}
    (carries : registers.InFatal raw) :
    ∃ decoded, decodeFatal raw = .fatal decoded ∧ decoded.common = registers.common ∧
      ∀ name ∈ carriedRegisters, decoded.registers.lookup name = registers.shown name := by
  have status := register_eq_read carries.status
  have addr := register_eq_read carries.addr
  have ipid := register_eq_read carries.ipid
  have synd := register_eq_read carries.synd
  have whole : ¬ raw.length < fatalLen := by
    rw [carries.length]
    decide
  rw [decodeFatal, if_neg whole]
  simp only [registersOff, Nat.reduceMul, Nat.reduceAdd] at status addr ipid synd ⊢
  rw [status, addr, ipid, synd]
  exact ⟨_, rfl, rfl, fun name carried => lookup_shown rfl rfl rfl rfl carried⟩

/-- A dump of all halves shows all registers that have a name. -/
theorem decodeRegisters_eq {regs : List Nat} (length : regs.length = cperAcaRegCount) :
    decodeRegisters regs = annotateAddresses (acaRegNames.map fun named =>
      (named.2, decodeRegister
        (regs.getD (2 * named.1) 0 ||| (regs.getD (2 * named.1 + 1) 0 <<< 32)) named.2)) := by
  have within : (acaRegNames.filter fun named => named.1 < regs.length / 2) = acaRegNames := by
    rw [length]
    decide
  rw [decodeRegisters, within]

theorem getD_readArray {raw : List UInt8} {offset index : Nat} (inside : index < cperAcaRegCount) :
    (LittleEndian.readArray 4 cperAcaRegCount raw offset).getD index 0 =
      LittleEndian.read 4 raw (offset + 4 * index) := by
  rw [List.getD_eq_getElem _ _ (by simpa [LittleEndian.readArray] using inside)]
  simp [LittleEndian.readArray]

/-- The registers of a nonstandard section, before the addresses are annotated. -/
def dumpedRegisters (raw : List UInt8) : Registers :=
  let regs := LittleEndian.readArray 4 cperAcaRegCount raw registersOff
  acaRegNames.map fun named =>
    (named.2, decodeRegister
      (regs.getD (2 * named.1) 0 ||| (regs.getD (2 * named.1 + 1) 0 <<< 32)) named.2)

/-- A register that is dumped at its index is shown by its name. -/
theorem lookup_dumpedRegisters {raw : List UInt8} {index : Nat} {name : AcaRegister}
    {value : UInt64} (named : (index, name) ∈ acaRegNames)
    (holds : LittleEndian.Holds 8 raw (144 + 8 * index) value.toNat) :
    (dumpedRegisters raw).lookup name = some (decodeRegister value.toNat name) := by
  have inside : ∀ named ∈ acaRegNames, 2 * named.1 + 1 < cperAcaRegCount := by decide
  have within := inside _ named
  have halves := register_eq_read holds
  have distinct : ((dumpedRegisters raw).map Prod.fst).Nodup := by
    rw [dumpedRegisters, List.map_map]
    exact (by decide : (acaRegNames.map Prod.snd).Nodup)
  refine Table.lookup_of_mem distinct (List.mem_map.mpr ⟨_, named, ?_⟩)
  rw [getD_readArray (Nat.lt_of_succ_lt within), getD_readArray within, registersOff,
    show 144 + 4 * (2 * index) = 144 + 8 * index by omega,
    show 144 + 4 * (2 * index + 1) = 144 + 8 * index + 4 by omega, halves]

/-- What a nonstandard section shows and derives of the registers it carries. -/
theorem exists_decodeNonstd {registers : ErrorRegisters} {raw : List UInt8}
    (carries : registers.InNonstd raw) :
    ∃ decoded, decodeNonstd raw = .runtime decoded ∧ decoded.common = registers.common ∧
      ∀ name ∈ carriedRegisters, decoded.registers.lookup name = registers.shown name := by
  have status := lookup_dumpedRegisters (by decide : (1, AcaRegister.status) ∈ acaRegNames)
    carries.status
  have addr := lookup_dumpedRegisters (by decide : (2, AcaRegister.addr) ∈ acaRegNames)
    carries.addr
  have ipid := lookup_dumpedRegisters (by decide : (5, AcaRegister.ipid) ∈ acaRegNames)
    carries.ipid
  have synd := lookup_dumpedRegisters (by decide : (6, AcaRegister.synd) ∈ acaRegNames)
    carries.synd
  have length : (LittleEndian.readArray 4 cperAcaRegCount raw registersOff).length =
      cperAcaRegCount := by
    rw [LittleEndian.readArray, List.length_map, List.length_range]
  have decoded : decodeRegisters (LittleEndian.readArray 4 cperAcaRegCount raw registersOff) =
      annotateAddresses (dumpedRegisters raw) := decodeRegisters_eq length
  have whole : ¬ raw.length < nonstdLen := not_lt.mpr carries.length
  rw [decodeNonstd, if_neg whole, decoded]
  refine ⟨_, rfl, ?_, fun name carried => lookup_shown status addr ipid synd carried⟩
  dsimp only
  rw [lookup_annotateAddresses_other _ (by decide), status,
    lookup_annotateAddresses_other _ (by decide), ipid,
    lookup_annotateAddresses_other _ (by decide), synd]
  rfl

/-! ### Decoding alike -/

/-- A section type that is decoded here is known by its small letters. -/
theorem isAmdSection_of_lower {guid : Text}
    (known : Strings.lower guid ∈ [amdCrashdump, amdGpuNonstandardError]) :
    isAmdSection guid = true := by
  refine Bool.and_eq_true_iff.mpr ⟨decide_eq_true ?_, decide_eq_true known⟩
  rintro rfl
  exact absurd known (by decide)

theorem decodeAmdSection_of_crashdump {guid : Text} {raw : List UInt8}
    (crashdump : Strings.lower guid = amdCrashdump) (length : raw.length = fatalLen) :
    decodeAmdSection guid raw = some (decodeFatal raw) := by
  have amd : isAmdSection guid = true := isAmdSection_of_lower (crashdump ▸ .head _)
  have filled : raw ≠ [] := by
    rintro rfl
    cases length
  have known : ¬ (¬ isAmdSection guid = true ∨ raw = []) := not_or.mpr ⟨not_not.mpr amd, filled⟩
  rw [decodeAmdSection, if_neg known, crashdump, if_neg (by decide), if_pos length]

theorem decodeAmdSection_of_nonstandard {guid : Text} {raw : List UInt8}
    (nonstandard : Strings.lower guid = amdGpuNonstandardError) (filled : raw ≠ []) :
    decodeAmdSection guid raw = some (decodeNonstd raw) := by
  have amd : isAmdSection guid = true := isAmdSection_of_lower (nonstandard ▸ .tail _ (.head _))
  have known : ¬ (¬ isAmdSection guid = true ∨ raw = []) := not_or.mpr ⟨not_not.mpr amd, filled⟩
  rw [decodeAmdSection, if_neg known, if_pos nonstandard]

/-- Whatever registers a fatal and a nonstandard section carry, and whatever their other octets are,
both show the same of these registers and derive the same of them: the class, the description, the
codes and the meaning of the extended code. Where the status says that the address is valid, the
address that is shown as valid is the largest multiple of the power of two that the status names,
among those that do not exceed the address. -/
theorem fatal_runtime_decode_alike (registers : ErrorRegisters) (fatalGuid nonstdGuid : Text)
    (fatal nonstd : List UInt8) (crashdump : Strings.lower fatalGuid = amdCrashdump)
    (nonstandard : Strings.lower nonstdGuid = amdGpuNonstandardError)
    (inFatal : registers.InFatal fatal) (inNonstd : registers.InNonstd nonstd) :
    ∃ fatalDump runtime, decodeAmdSection fatalGuid fatal = some (.fatal fatalDump) ∧
      decodeAmdSection nonstdGuid nonstd = some (.runtime runtime) ∧
      (∀ name ∈ carriedRegisters,
        (fatalDump.registers.lookup name).isSome ∧
          fatalDump.registers.lookup name = runtime.registers.lookup name) ∧
      fatalDump.common = runtime.common ∧
      ((decodeMcaStatus registers.status.toNat).addrv = true →
        ∃ entry valid, fatalDump.registers.lookup .addr = some (.address entry) ∧
          entry.validAddress = some (Hex.literal 16 valid) ∧
          IsGreatest {multiple |
            2 ^ (decodeMcaStatus registers.status.toNat).addrLsb ∣ multiple ∧
              multiple ≤ registers.addr.toNat} valid) := by
  obtain ⟨fatalDump, decoded, common, shown⟩ := exists_decodeFatal inFatal
  obtain ⟨runtime, decoded', common', shown'⟩ := exists_decodeNonstd inNonstd
  refine ⟨fatalDump, runtime, ?_, ?_, ?_, common.trans common'.symm, ?_⟩
  · rw [decodeAmdSection_of_crashdump crashdump inFatal.length, decoded]
  · have filled : nonstd ≠ [] := by
      rintro rfl
      exact absurd inNonstd.length (by decide)
    rw [decodeAmdSection_of_nonstandard nonstandard filled, decoded']
  · intro name carried
    rw [shown name carried, shown' name carried]
    refine ⟨?_, rfl⟩
    simp only [carriedRegisters, List.mem_cons, List.not_mem_nil, or_false] at carried
    rcases carried with rfl | rfl | rfl | rfl <;> rfl
  · intro valid
    refine ⟨_, _, shown .addr (by decide), if_pos valid, ?_⟩
    rw [Nat.one_shiftLeft]
    exact Hex.isGreatest_ldiff_mask _ _

/-- An uncorrected error of the memory, at an address whose low six bits do not count. -/
def memoryError : ErrorRegisters where
  status := 0xA400000006000000
  addr := 0x12345
  ipid := 0x0000009600000000
  synd := 0x1F

/-- A fatal section that carries it. -/
def fatalMemoryError : List UInt8 :=
  List.replicate 144 0 ++ LittleEndian.encode 8 memoryError.status.toNat ++
    LittleEndian.encode 8 memoryError.addr.toNat ++
    LittleEndian.encode 8 memoryError.ipid.toNat ++ LittleEndian.encode 8 memoryError.synd.toNat

/-- A nonstandard section that carries it, in a dump of registers that are set otherwise. -/
def runtimeMemoryError : List UInt8 :=
  List.replicate 152 7 ++ LittleEndian.encode 8 memoryError.status.toNat ++
    LittleEndian.encode 8 memoryError.addr.toNat ++ List.replicate 16 7 ++
    LittleEndian.encode 8 memoryError.ipid.toNat ++
    LittleEndian.encode 8 memoryError.synd.toNat ++ List.replicate 72 7

/-- Both sections are decoded alike, and show the address without its low bits. -/
theorem memoryError_alike :
    ∃ fatalDump runtime, decodeAmdSection amdCrashdump fatalMemoryError = some (.fatal fatalDump) ∧
      decodeAmdSection amdGpuNonstandardError runtimeMemoryError = some (.runtime runtime) ∧
      fatalDump.common = runtime.common ∧
      ∃ entry valid, fatalDump.registers.lookup .addr = some (.address entry) ∧
        entry.validAddress = some (Hex.literal 16 valid) ∧
        IsGreatest {multiple | 2 ^ 6 ∣ multiple ∧ multiple ≤ 0x12345} valid := by
  obtain ⟨fatalDump, runtime, decoded, decoded', _, common, valid⟩ :=
    fatal_runtime_decode_alike memoryError amdCrashdump amdGpuNonstandardError fatalMemoryError
      runtimeMemoryError (by decide) (by decide)
      ⟨rfl, by decide +kernel, by decide +kernel, by decide +kernel, by decide +kernel⟩
      ⟨by decide +kernel, by decide +kernel, by decide +kernel, by decide +kernel,
        by decide +kernel⟩
  exact ⟨fatalDump, runtime, decoded, decoded', common, valid (by decide)⟩

end Gyanam
