import SummitUsbgadget.Base
import SummitUsbgadget.Lib.Text

/-!
# The SWUpdate IPC protocol

Status codes, the acknowledgement of a progress connection and the install request of the
`swupdate-ipc` crate, and the errors of its clients.
-/

set_option autoImplicit false

namespace SummitUsbgadget.SwupdateIpc

/-- `RecoveryStatus`. -/
inductive RecoveryStatus where
  | idle
  | start
  | run
  | success
  | failure
  | download
  | done
  | subprocess
  | progress
  deriving DecidableEq, Repr

/-- `decode_recovery_status`; a code that it does not know is an error. -/
def decodeRecoveryStatus (raw : Nat) : Except Nat RecoveryStatus :=
  match raw with
  | 0 => .ok .idle
  | 1 => .ok .start
  | 2 => .ok .run
  | 3 => .ok .success
  | 4 => .ok .failure
  | 5 => .ok .download
  | 6 => .ok .done
  | 7 => .ok .subprocess
  | 8 => .ok .progress
  | other => .error other

/-- `RecoveryStatus::is_terminal`. -/
def RecoveryStatus.isTerminal (status : RecoveryStatus) : Bool :=
  status = .success || status = .failure

/-! ## Errors -/

/-- `{:#010x}`. -/
def hex8 (n : Nat) : String :=
  let digits := Nat.toDigits 16 n
  "0x" ++ String.ofList (List.replicate (8 - digits.length) '0' ++ digits)

/-- `swupdate_ipc::Error`, as far as an install builds it. -/
inductive Error where
  | io (err : IoError)
  | nack
  | incompatibleProgressVersion (version : Nat)
  | invalidProgressAck
  | closed
  | invalidArgument (text : String)
  | timeout
  | progressConnectTimeout
  | installFailed
  deriving DecidableEq, Repr

/-- The display text of an error. -/
def Error.text : Error → String
  | .io err => "SWUpdate IPC I/O error: " ++ err.text
  | .nack => "SWUpdate rejected the request (NACK)"
  | .incompatibleProgressVersion version =>
      "incompatible SWUpdate progress API version: " ++ hex8 version
  | .invalidProgressAck => "invalid SWUpdate progress connect acknowledgement"
  | .closed => "SWUpdate closed the connection"
  | .invalidArgument text => "invalid argument: " ++ text
  | .timeout => "timed out waiting for SWUpdate install result"
  | .progressConnectTimeout => "timed out connecting to SWUpdate progress socket"
  | .installFailed => "SWUpdate reported installation failure"

/-- The error of a read that would have to wait. -/
def wouldBlockError : IoError :=
  ⟨.wouldBlock, some errnoAgain, "Resource temporarily unavailable (os error 11)"⟩

/-! ## Progress connections -/

def progressApiMajor : Nat := 2

/-- `ProgressConnectAck`. -/
structure ProgressConnectAck where
  apiversion : Nat
  magic : Bytes
  deriving DecidableEq, Repr

namespace ProgressConnectAck

def isMajorCompatible (ack : ProgressConnectAck) : Bool :=
  ack.apiversion / 2 ^ 16 % 2 ^ 16 = progressApiMajor

/-- The magic field, up to its first NUL, is `ACK`. -/
def hasValidMagic (ack : ProgressConnectAck) : Bool :=
  ack.magic.takeWhile (· ≠ 0) = [0x41, 0x43, 0x4b]

/-- The part of `wait_for_progress_ack` behind the read. -/
def validate (ack : ProgressConnectAck) : Except Error Unit :=
  if !ack.isMajorCompatible then .error (.incompatibleProgressVersion ack.apiversion)
  else if !ack.hasValidMagic then .error .invalidProgressAck
  else .ok ()

end ProgressConnectAck

/-! ## Install requests -/

inductive InstallSource where
  | unknown
  | webserver
  | suricatta
  | downloader
  | «local»
  | chunksDownloader
  deriving DecidableEq, Repr

/-- `SourceType`. -/
inductive SourceType where
  | unknown
  | webserver
  | suricatta
  | downloader
  | «local»
  | chunksDownloader
  deriving DecidableEq, Repr

/-- `SourceType::from`. -/
def SourceType.from : InstallSource → SourceType
  | .unknown => .unknown
  | .webserver => .webserver
  | .suricatta => .suricatta
  | .downloader => .downloader
  | .local => .local
  | .chunksDownloader => .chunksDownloader

inductive InstallMode where
  | default
  | dryRun
  | install
  deriving DecidableEq, Repr

/-- `RunType`. -/
inductive RunType where
  | default
  | dryRun
  | install
  deriving DecidableEq, Repr

/-- `RunType::from`. -/
def RunType.from : InstallMode → RunType
  | .default => .default
  | .dryRun => .dryRun
  | .install => .install

/-- `InstallRequest`. -/
structure InstallRequest where
  softwareSet : String
  runningMode : String
  source : InstallSource
  mode : InstallMode
  disableStoreSwu : Bool
  deriving DecidableEq, Repr

/-- `SwupdateRequest`, less the fields that stay zero. -/
structure SwupdateRequest where
  apiversion : Nat
  source : SourceType
  dryRun : RunType
  softwareSet : Bytes
  runningMode : Bytes
  disableStoreSwu : Bool
  deriving DecidableEq, Repr

def swupdateApiVersion : Nat := 1

/-- `write_c_string`: the string, its NUL and what the buffer held behind that. -/
def writeCString (dst : Bytes) (value : String) : Except Error Bytes :=
  let bytes := Lib.utf8Bytes value
  if dst.length ≤ bytes.length then
    .error (.invalidArgument "string does not fit in the fixed C buffer")
  else .ok (bytes ++ 0 :: dst.drop (bytes.length + 1))

/-- `SwupdateRequest::prepare`: the two string fields are 256 zeros. -/
def SwupdateRequest.prepare : SwupdateRequest :=
  ⟨swupdateApiVersion, .unknown, .default, List.replicate 256 0, List.replicate 256 0, false⟩

/-- `SwupdateRequest::try_from`. -/
def SwupdateRequest.tryFrom (request : InstallRequest) : Except Error SwupdateRequest := do
  let raw := prepare
  let softwareSet ← writeCString raw.softwareSet request.softwareSet
  let runningMode ← writeCString raw.runningMode request.runningMode
  return { raw with
    source := .from request.source
    dryRun := .from request.mode
    disableStoreSwu := request.disableStoreSwu
    softwareSet := softwareSet
    runningMode := runningMode }

def ipcMagic : Nat := 335880193

/-- `MsgType::REQ_INSTALL` and `MsgType::ACK`. -/
def msgTypeReqInstall : Int := 0

@[inherit_doc msgTypeReqInstall] def msgTypeAck : Int := 1

/-- `IpcMessage`, with the install request that its payload holds. -/
structure IpcMessage where
  magic : Nat
  type : Int
  installRequest : Option SwupdateRequest
  deriving DecidableEq, Repr

def IpcMessage.hasType (message : IpcMessage) (type : Int) : Bool := message.type = type

/-- `InstallRequest::encode`. -/
@[irreducible] def InstallRequest.encode (request : InstallRequest) : Except Error IpcMessage := do
  let raw ← SwupdateRequest.tryFrom request
  return ⟨ipcMagic, msgTypeReqInstall, some raw⟩

end SummitUsbgadget.SwupdateIpc
