import SummitUsbgadget.Base

/-!
# DFU wire protocol

Request codes, device states and status codes of DFU 1.1 with their wire values, and the
`DFU_GETSTATUS` response.
-/

set_option autoImplicit false

namespace SummitUsbgadget.DfuFunction

namespace Request

def detach : UInt8 := 0
def dnload : UInt8 := 1
def upload : UInt8 := 2
def getStatus : UInt8 := 3
def clrStatus : UInt8 := 4
def getState : UInt8 := 5
def abort : UInt8 := 6

end Request

/-- DFU device states. -/
inductive State where
  | appIdle
  | appDetach
  | dfuIdle
  | dnloadSync
  | dnBusy
  | dnloadIdle
  | manifestSync
  | manifest
  | manifestWaitReset
  | uploadIdle
  | error
  deriving DecidableEq, Repr

/-- The wire value of a state. -/
def State.toByte : State → UInt8
  | .appIdle => 0
  | .appDetach => 1
  | .dfuIdle => 2
  | .dnloadSync => 3
  | .dnBusy => 4
  | .dnloadIdle => 5
  | .manifestSync => 6
  | .manifest => 7
  | .manifestWaitReset => 8
  | .uploadIdle => 9
  | .error => 10

/-- DFU status codes. -/
inductive Status where
  | ok
  | errTarget
  | errFile
  | errWrite
  | errErase
  | errCheckErased
  | errProg
  | errVerify
  | errAddress
  | errNotDone
  | errFirmware
  | errVendor
  | errUsbr
  | errPor
  | errUnknown
  | errStalledPkt
  deriving DecidableEq, Repr

/-- The wire value of a status code. -/
def Status.toByte : Status → UInt8
  | .ok => 0x00
  | .errTarget => 0x01
  | .errFile => 0x02
  | .errWrite => 0x03
  | .errErase => 0x04
  | .errCheckErased => 0x05
  | .errProg => 0x06
  | .errVerify => 0x07
  | .errAddress => 0x08
  | .errNotDone => 0x09
  | .errFirmware => 0x0a
  | .errVendor => 0x0b
  | .errUsbr => 0x0c
  | .errPor => 0x0d
  | .errUnknown => 0x0e
  | .errStalledPkt => 0x0f

/-- The `DFU_GETSTATUS` response. -/
structure GetStatus where
  status : Status
  pollTimeoutMs : UInt32
  state : State
  stringIndex : UInt8
  deriving DecidableEq, Repr

/-- The six bytes on the wire; the poll timeout is a 24-bit little-endian number. -/
def GetStatus.toBytes (g : GetStatus) : Bytes :=
  [g.status.toByte, g.pollTimeoutMs.toUInt8, (g.pollTimeoutMs >>> 8).toUInt8,
    (g.pollTimeoutMs >>> 16).toUInt8, g.state.toByte, g.stringIndex]

/-- A control request as it arrives on endpoint zero. -/
structure CtrlReq where
  requestType : UInt8
  request : UInt8
  value : UInt16
  index : UInt16
  length : UInt16
  deriving DecidableEq, Repr

/-- A class request directed at an interface. -/
def isDfuRequest (req : CtrlReq) : Bool :=
  req.requestType &&& 0x60 == 0x20 && req.requestType &&& 0x1f == 0x01

/-- A `DFU_DNLOAD` request with a data stage. -/
def CtrlReq.announcesBlock (req : CtrlReq) : Prop :=
  req.request = Request.dnload ∧ req.length ≠ 0

instance (req : CtrlReq) : Decidable req.announcesBlock :=
  inferInstanceAs (Decidable (req.request = Request.dnload ∧ req.length ≠ 0))

end SummitUsbgadget.DfuFunction
