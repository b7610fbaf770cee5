import SummitUsbgadget.FunctionFs.Descriptors
import SummitUsbgadget.Lib.Columns

/-!
# Descriptors from the interfaces of a function

`ffs_descs` of a custom function: it walks the interfaces once, gives numbers to interfaces and
endpoints, collects the names in a table of strings and makes the descriptors for three speeds. A
map of Rust is an `AList` here; its order has no meaning.
-/

set_option autoImplicit false

namespace SummitUsbgadget.FunctionFs

open SummitUsbgadget.Lib

/-! ## The builder -/

/-- Names by language. -/
abbrev Names := Row Language String

/-- The table of strings, which has a list for each language. -/
abbrev StringTable := Columns Language String

structure Class where
  class_ : UInt8
  subClass : UInt8
  protocol : UInt8
  deriving DecidableEq, Repr

inductive SyncType where
  | noSync
  | async
  | adaptive
  | sync
  deriving DecidableEq, Repr

def SyncType.toAttributes : SyncType → UInt8
  | .noSync => (0b00 : UInt8) <<< 2
  | .async => (0b01 : UInt8) <<< 2
  | .adaptive => (0b10 : UInt8) <<< 2
  | .sync => (0b11 : UInt8) <<< 2

inductive UsageType where
  | data
  | feedback
  | implicitFeedback
  deriving DecidableEq, Repr

def UsageType.toAttributes : UsageType → UInt8
  | .data => (0b00 : UInt8) <<< 4
  | .feedback => (0b01 : UInt8) <<< 4
  | .implicitFeedback => (0b10 : UInt8) <<< 4

inductive TransferType where
  | control
  | isochronous (syncType : SyncType) (usageType : UsageType)
  | bulk
  | interrupt
  deriving DecidableEq, Repr

def TransferType.toAttributes : TransferType → UInt8
  | .control => 0b00
  | .isochronous syncType usageType => 0b01 ||| syncType.toAttributes ||| usageType.toAttributes
  | .bulk => 0b10
  | .interrupt => 0b11

structure Endpoint where
  direction : Direction
  queueLen : UInt32
  transfer : TransferType
  maxPacketSizeHs : UInt16
  maxPacketSizeSs : UInt16
  maxBurstSs : UInt8
  bytesPerIntervalSs : UInt16
  interval : UInt8
  audio : Option AudioEndpointDesc
  deriving DecidableEq, Repr

/-- `Association`; `addr` stands for the allocation that its copies share. -/
structure Association where
  addr : Nat
  functionClass : Class
  name : Names

/-- `PartialEq for Association`. -/
def Association.eq (a b : Association) : Bool :=
  a.addr == b.addr && a.functionClass == b.functionClass &&
    decide (a.name.entries.Perm b.name.entries)

inductive OsRegValue where
  | sz (s : String)
  | expandSz (s : String)
  | binary (s : Bytes)
  | dwordLe (v : UInt32)
  | dwordBe (v : UInt32)
  | link (s : String)
  | multiSz (ss : List String)
  deriving DecidableEq, Repr

def OsRegValue.asType : OsRegValue → UInt32
  | .sz _ => 1
  | .expandSz _ => 2
  | .binary _ => 3
  | .dwordLe _ => 4
  | .dwordBe _ => 5
  | .link _ => 6
  | .multiSz _ => 7

def OsRegValue.asBytes : OsRegValue → Bytes
  | .sz s | .expandSz s | .link s => utf8Bytes s ++ [0]
  | .binary s => s
  | .dwordLe v => leBytes 4 v.toNat
  | .dwordBe v => (leBytes 4 v.toNat).reverse
  | .multiSz ss => ss.flatMap fun s => utf8Bytes s ++ [0]

/-- A property of an interface, and its `as_os_ext_prop`. -/
structure OsProp where
  name : String
  value : OsRegValue
  deriving DecidableEq, Repr

def OsProp.asOsExtProp (p : OsProp) : OsExtProp :=
  ⟨p.value.asType, p.name.push (Char.ofNat 0), p.value.asBytes⟩

structure OsCompat where
  compatibleId : Vector UInt8 8
  subCompatibleId : Vector UInt8 8

structure Interface where
  interfaceClass : Class
  name : Names
  endpoints : List Endpoint
  association : Option Association
  osExtCompat : List OsCompat
  osExtProps : List OsProp
  customDescs : List CustomDesc

structure CustomBuilder where
  interfaces : List Interface
  allCtrlRecipient : Bool
  config0Setup : Bool

/-! ## How functions are described -/

/-- `Language::default`. -/
def Language.default : Language := .known 0x0409

/-- `Endpoint::custom`; the length of the queue comes with the direction. -/
def Endpoint.custom (direction : Direction) (queueLen : UInt32) (transfer : TransferType) :
    Endpoint where
  direction := direction
  queueLen := queueLen
  transfer := transfer
  maxPacketSizeHs := 512
  maxPacketSizeSs := 1024
  maxBurstSs := 0
  bytesPerIntervalSs := 0
  interval := match direction with
    | .deviceToHost => 0
    | .hostToDevice => 1
  audio := none

def Endpoint.bulk (direction : Direction) (queueLen : UInt32) : Endpoint :=
  .custom direction queueLen .bulk

namespace Interface

def new (interfaceClass : Class) (name : String) : Interface where
  interfaceClass := interfaceClass
  name := AList.singleton Language.default name
  endpoints := []
  association := none
  osExtCompat := []
  osExtProps := []
  customDescs := []

def withEndpoint (ep : Endpoint) (intf : Interface) : Interface :=
  { intf with endpoints := intf.endpoints ++ [ep] }

def withAssociation (a : Association) (intf : Interface) : Interface :=
  { intf with association := some a }

def withOsExtCompat (c : OsCompat) (intf : Interface) : Interface :=
  { intf with osExtCompat := intf.osExtCompat ++ [c] }

def withCustomDesc (d : CustomDesc) (intf : Interface) : Interface :=
  { intf with customDescs := intf.customDescs ++ [d] }

end Interface

/-- `Custom::builder`. -/
def CustomBuilder.new : CustomBuilder := ⟨[], false, false⟩

def CustomBuilder.withInterface (intf : Interface) (b : CustomBuilder) : CustomBuilder :=
  { b with interfaces := b.interfaces ++ [intf] }

/-- `OsExtCompat::winusb`. -/
def OsCompat.winusb : OsCompat := ⟨#v[87, 73, 78, 85, 83, 66, 0, 0], Vector.replicate 8 0⟩

/-- `DfuDesc`. -/
structure DfuDesc where
  canDownload : Bool
  canUpload : Bool
  manifestTolerant : Bool
  willDetach : Bool
  detachTimeoutMs : UInt16
  transferSize : UInt16
  dfuVersion : UInt8 × UInt8
  deriving DecidableEq, Repr

/-- `From<DfuDesc> for CustomDesc`. -/
def DfuDesc.toCustomDesc (dfu : DfuDesc) : CustomDesc :=
  let attrs := dfu.canDownload.toUInt8 ||| (dfu.canUpload.toUInt8 <<< 1) |||
    (dfu.manifestTolerant.toUInt8 <<< 2) ||| (dfu.willDetach.toUInt8 <<< 3)
  let bcd := dfu.dfuVersion.1.toUInt16 <<< 8 ||| dfu.dfuVersion.2.toUInt16 <<< 4
  ⟨0x21, [attrs] ++ leBytes 2 dfu.detachTimeoutMs.toNat ++ leBytes 2 dfu.transferSize.toNat ++
    leBytes 2 bcd.toNat⟩

/-! ## Strings -/

/-- `add_strings`: the index of the string, and the table with it. All languages have the same
number of strings, so it does not matter which of them is asked for it. -/
def addStrings (strs : Names) (strings : StringTable) : Except IoError (UInt8 × StringTable) :=
  let strCnt := strings.height
  if strCnt + 1 < 256 then .ok (UInt8.ofNat (strCnt + 1), Columns.addRow "" strs strings)
  else .error (.new .invalidInput "too many strings")

/-! ## The loop -/

/-- The variables of `ffs_descs`. -/
structure Build where
  strings : StringTable
  fsDescrs : List Desc
  hsDescrs : List Desc
  ssDescrs : List Desc
  osDescrs : List OsDesc
  endpointNum : Nat
  assocs : List (Association × InterfaceAssocDesc)

namespace Build

def new : Build := ⟨∅, [], [], [], [], 0, []⟩

/-- The same descriptor for all speeds. -/
def pushAll (d : Desc) (s : Build) : Build :=
  { s with
    fsDescrs := s.fsDescrs ++ [d]
    hsDescrs := s.hsDescrs ++ [d]
    ssDescrs := s.ssDescrs ++ [d] }

/-- The descriptor of an endpoint with a number, for a speed. -/
def endpointDesc (ep : Endpoint) (num : Nat) (maxPacketSize : UInt16) : EndpointDesc where
  endpointAddress :=
    match ep.direction with
    | .deviceToHost => UInt8.ofNat num ||| 0x80
    | .hostToDevice => UInt8.ofNat num ||| 0x00
  attributes := ep.transfer.toAttributes
  maxPacketSize := maxPacketSize
  interval := ep.interval
  audio := ep.audio

def ssComp (ep : Endpoint) : SsEndpointComp := ⟨ep.maxBurstSs, 0, ep.bytesPerIntervalSs⟩

def tooManyEndpoints : IoError := .new .invalidInput "too many endpoints"

/-- One endpoint. -/
def endpoint (s : Build) (ep : Endpoint) : Except IoError Build :=
  let num := s.endpointNum + 1
  if num ≥ 0x80 then .error tooManyEndpoints
  else
    .ok { s with
      endpointNum := num
      fsDescrs := s.fsDescrs ++ [.endpoint (endpointDesc ep num 0)]
      hsDescrs := s.hsDescrs ++ [.endpoint (endpointDesc ep num ep.maxPacketSizeHs)]
      ssDescrs := s.ssDescrs ++ [.endpoint (endpointDesc ep num ep.maxPacketSizeSs),
        .ssEndpointComp (ssComp ep)] }

/-- The descriptor of an association that is met for the first time. -/
def newAssoc (number : UInt8) (a : Association) (nameIdx : UInt8) : InterfaceAssocDesc :=
  ⟨number, 0, a.functionClass.class_, a.functionClass.subClass, a.functionClass.protocol, nameIdx⟩

/-- The entry of an association, which is made if there is none. -/
def assocEntry (number : UInt8) (a : Association) (s : Build) :
    Except IoError (InterfaceAssocDesc × Build) :=
  match s.assocs.find? fun e => e.1.eq a with
  | some e => .ok (e.2, s)
  | none => do
      let (nameIdx, strings) ← addStrings a.name s.strings
      let iad := newAssoc number a nameIdx
      pure (iad, { s with strings := strings, assocs := s.assocs ++ [(a, iad)] })

def countInterface (a : Association) (s : Build) : Build :=
  { s with assocs := s.assocs.map fun e =>
      if e.1.eq a then (e.1, { e.2 with interfaceCount := e.2.interfaceCount + 1 }) else e }

/-- The association of an interface. The check adds the interface's number where the number of
interfaces so far was meant. -/
def association (number : UInt8) (s : Build) : Option Association → Except IoError Build
  | none => .ok s
  | some a => do
      let (iad, s) ← s.assocEntry number a
      if iad.firstInterface + number ≠ number then
        .error (.new .invalidInput "associated interfaces must be adjacent")
      else pure (s.countInterface a)

/-- The OS descriptors of an interface. -/
def osDescs (number : UInt8) (intf : Interface) : List OsDesc :=
  (if intf.osExtCompat.isEmpty then []
    else [⟨number, .extCompat (intf.osExtCompat.map fun oe =>
      ⟨number, oe.compatibleId, oe.subCompatibleId⟩)⟩]) ++
  if intf.osExtProps.isEmpty then []
  else [⟨number, .extProp (intf.osExtProps.map OsProp.asOsExtProp)⟩]

def interfaceDesc (number : UInt8) (intf : Interface) (nameIdx : UInt8) : InterfaceDesc where
  interfaceNumber := number
  alternateSetting := 0
  numEndpoints := UInt8.ofNat intf.endpoints.length
  interfaceClass := intf.interfaceClass.class_
  interfaceSubClass := intf.interfaceClass.subClass
  interfaceProtocol := intf.interfaceClass.protocol
  nameIdx := nameIdx

/-- The body of the loop, once the numbers fit. -/
def placeInterface (number : UInt8) (intf : Interface) (s : Build) : Except IoError Build := do
  let (nameIdx, strings) ← addStrings intf.name s.strings
  let s := { s with strings := strings }.pushAll (.interface (interfaceDesc number intf nameIdx))
  let s := intf.customDescs.foldl (fun s d => s.pushAll (.custom d)) s
  let s ← intf.endpoints.foldlM endpoint s
  let s ← s.association number intf.association
  pure { s with osDescrs := s.osDescrs ++ osDescs number intf }

/-- One interface, with its position. -/
def interface (s : Build) (x : Interface × Nat) : Except IoError Build :=
  if x.2 ≥ 256 then .error (.new .invalidInput "too many interfaces")
  else if x.1.endpoints.length ≥ 256 then .error tooManyEndpoints
  else s.placeInterface (UInt8.ofNat x.2) x.1

end Build

/-- `Flags::ALL_CTRL_RECIP` and `Flags::CONFIG0_SETUP`. -/
def CustomBuilder.flags (b : CustomBuilder) : UInt32 :=
  (if b.allCtrlRecipient then 64 else 0) ||| (if b.config0Setup then 128 else 0)

/-- `CustomBuilder::ffs_descs`. -/
def CustomBuilder.ffsDescs (b : CustomBuilder) : Except IoError (Descs × StringTable) := do
  let s ← b.interfaces.zipIdx.foldlM Build.interface Build.new
  let s := s.assocs.foldl (fun s e => s.pushAll (.interfaceAssoc e.2)) s
  pure (⟨b.flags, none, s.fsDescrs, s.hsDescrs, s.ssDescrs, s.osDescrs⟩, s.strings)

/-- An error of `ffs.rs` as an I/O error. -/
def orIoError {α : Type} : Except DescError α → Except IoError α
  | .ok a => .ok a
  | .error err => .error err.toIoError

/-! ## Initialization -/

/-- What the files of a mounted FunctionFS answer. -/
structure Files where
  openEp0 : Except IoError Unit
  /-- A write to endpoint zero, after the messages that it has got. -/
  writeEp0 : List Bytes → Bytes → Except IoError Nat
  /-- `EndpointIo::new` for a name and the length of a queue. -/
  endpointIo : String → UInt32 → Except IoError Unit

/-- What `init` has done: the messages that endpoint zero has got, and the files with the endpoints
that they were handed to. -/
structure Initialized where
  written : List Bytes
  opened : List (String × Endpoint)

def writeMessage (files : Files) (before : List Bytes) (data : Bytes) (short : String) :
    Except IoError (List Bytes) := do
  let n ← files.writeEp0 before data
  if n ≠ data.length then .error (.new .unexpectedEof short) else pure (before ++ [data])

/-- The name of the file of an endpoint. -/
def epPath (num : Nat) : String := "ep" ++ toString num

/-- Opens the file of the next endpoint. -/
def openEndpoint (files : Files) (acc : Nat × List (String × Endpoint)) (ep : Endpoint) :
    Except IoError (Nat × List (String × Endpoint)) := do
  let endpointNum := acc.1 + 1
  let _ ← files.endpointIo (epPath endpointNum) ep.queueLen
  pure (endpointNum, acc.2 ++ [(epPath endpointNum, ep)])

/-- `CustomFunction::init`, unless `ffs_no_init` is set. -/
def CustomBuilder.init (b : CustomBuilder) (linux : Option (Nat × Nat))
    (walk : StringTable → List (Language × List String)) (files : Files) :
    Except IoError Initialized := do
  let (descs, strs) ← b.ffsDescs
  let _ ← files.openEp0
  let descsData ← orIoError (descs.toBytes linux)
  let written ← writeMessage files [] descsData "short descriptor write"
  let strsData ← orIoError (stringsToBytes (walk strs))
  let written ← writeMessage files written strsData "short strings write"
  let opened ← b.interfaces.foldlM
    (fun acc intf => intf.endpoints.foldlM (openEndpoint files) acc) (0, [])
  pure ⟨written, opened.2⟩

end SummitUsbgadget.FunctionFs
