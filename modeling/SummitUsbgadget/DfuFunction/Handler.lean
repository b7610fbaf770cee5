import SummitUsbgadget.Lib.Crc32
import SummitUsbgadget.Swupdate.Session
import SummitUsbgadget.DfuFunction.Protocol

/-!
# The DFU state machine

The handler of `handler.rs` and its event dispatch of `gadget.rs`. A request looks at the
SWUpdate session at most three times: when `poll` retries the held block, when `poll` asks for the
verdict, and when the request itself submits a chunk. `Moments` holds the view at each of the
three, so the drain task and the status task may do anything in between.

The source keeps the session in an `Option` that every assignment fills; the model keeps the
session itself. `Dfu.retired` is a ghost field: the sessions that were replaced, oldest first.
-/

set_option autoImplicit false

namespace SummitUsbgadget.DfuFunction

open SummitUsbgadget.Lib (Crc32.Hasher)
open SummitUsbgadget.Swupdate

def dfuSuffixLen : Nat := 16
def dnloadBusyPollTimeoutMs : UInt32 := 100
def manifestPollTimeoutMs : UInt32 := 100
def transferIdleTimeoutMs : Nat := 5000

/-- Source served to the host in response to `DFU_UPLOAD`. -/
inductive UploadSource where
  | data (data : Bytes)
  deriving DecidableEq, Repr

structure DfuConfig where
  download : SwupdateParams
  upload : Option UploadSource
  transferSize : UInt16
  pollTimeoutMs : UInt32
  deriving DecidableEq, Repr

/-- Payload of a device-to-host request. -/
inductive InReply where
  | status (response : GetStatus)
  | state (state : State)
  | data (data : Bytes)
  deriving DecidableEq, Repr

/-- The bytes sent to the host. -/
def InReply.asSlice : InReply → Bytes
  | .status response => response.toBytes
  | .state st => [st.toByte]
  | .data bytes => bytes

/-- What one request sees of the session's surroundings. -/
structure Moments where
  push : View
  verdict : View
  submit : View

/-- The same view throughout. -/
def Moments.always (v : View) : Moments := ⟨v, v, v⟩

/-- The DFU state machine and active firmware sink. -/
structure Dfu where
  transferSize : UInt16
  pollTimeoutMs : UInt32
  download : SwupdateParams
  downloadTail : Bytes
  downloadCrc : Crc32.Hasher
  upload : Option UploadSource
  sink : Session
  pending : Option Bytes
  state : State
  status : Status
  retired : List Session

/-- Length of the part of `total` buffered bytes before the suffix window. -/
def flushableLen (total : Nat) : Option Nat :=
  if total > dfuSuffixLen then some (total - dfuSuffixLen) else none

/-- `u32::from_le_bytes` of four bytes. -/
def u32FromLeBytes : Bytes → UInt32
  | [a, b, c, d] => a.toUInt32 ||| b.toUInt32 <<< 8 ||| c.toUInt32 <<< 16 ||| d.toUInt32 <<< 24
  | _ => 0

/-- The held back tail is a DFU suffix for the bytes that `prefixCrc` has seen and itself. -/
def hasValidDfuSuffix (prefixCrc : Crc32.Hasher) (buf : Bytes) : Bool :=
  if buf.length ≠ dfuSuffixLen || (buf.drop 8).take 3 ≠ [0x55, 0x46, 0x44] ||
      (buf[11]?.map UInt8.toNat) ≠ some dfuSuffixLen then false
  else
    let crc := ~~~ (prefixCrc.update (buf.take (dfuSuffixLen - 4))).finalize
    let expected := u32FromLeBytes (buf.drop (dfuSuffixLen - 4))
    crc == expected

namespace Dfu

def new (config : DfuConfig) : Dfu where
  transferSize := config.transferSize
  pollTimeoutMs := config.pollTimeoutMs
  download := config.download
  downloadTail := []
  downloadCrc := Crc32.Hasher.new
  upload := config.upload
  sink := Session.new config.download config.transferSize.toNat
  pending := none
  state := .dfuIdle
  status := .ok
  retired := []

/-- Stores a new session in place of the current one. -/
def replaceSink (d : Dfu) : Dfu :=
  { d with
    sink := Session.new d.download d.transferSize.toNat
    retired := d.retired ++ [d.sink] }

/-- The body that `abort_transfer` and `reset_on_idle_timeout` share. -/
def teardown (d : Dfu) : Dfu :=
  { { d with sink := d.sink.abort }.replaceSink with
    pending := none
    status := .ok
    state := .dfuIdle
    downloadTail := []
    downloadCrc := Crc32.Hasher.new }

def abortTransfer (d : Dfu) : Dfu := d.teardown

def resetOnIdleTimeout (d : Dfu) : Dfu := d.teardown

/-- Idle timeout of the endpoint-zero loop, in milliseconds. -/
def dfuIdleTimeout (d : Dfu) : Option Nat :=
  if d.state ≠ .dfuIdle then some transferIdleTimeoutMs else none

/-- Transitions to the error state. -/
def fault (status : Status) (d : Dfu) : Dfu := { d with status := status, state := .error }

def abortWithFault (status : Status) (d : Dfu) : Dfu := d.abortTransfer.fault status

/-- The transfer is in its manifestation phase. -/
def isFinishing (d : Dfu) : Bool := d.state == .manifest || d.state == .manifestSync

/-- The end of `push_pending`: with nothing held during manifestation, EOF is signalled. -/
def eofIfManifesting (d : Dfu) : Dfu :=
  if d.state = .manifest then { d with sink := d.sink.eof } else d

/-- Pushes the held block into the queue; `true` while a block is still held. -/
def pushPending (v : View) (d : Dfu) : Except IoError Bool × Dfu :=
  match d.pending with
  | none => (.ok false, d.eofIfManifesting)
  | some chunk =>
      -- taken out first, so an error from `try_send` loses the block
      let d := { d with pending := none }
      match d.sink.trySend v chunk with
      | (.error err, sink) => (.error err, { d with sink := sink })
      | (.ok (.full chunk), sink) => (.ok true, { d with sink := sink, pending := some chunk })
      | (.ok (.ok _), sink) => (.ok false, { d with sink := sink }.eofIfManifesting)
      -- SWUpdate has stopped reading; the verdict says why
      | (.ok .closed, sink) => (.ok false, { d with sink := sink }.eofIfManifesting)

/-- Submits a chunk; a chunk that arrives while one is held aborts the transfer. -/
def submitChunk (v : View) (chunk : Bytes) (d : Dfu) : Except IoError Unit × Dfu :=
  if d.pending.isSome then (.ok (), d.abortWithFault .errStalledPkt)
  else
    match { d with pending := some chunk }.pushPending v with
    | (.error err, d) => (.error err, d)
    | (.ok _, d) => (.ok (), d)

/-- The part of `poll` after the push: acts on the verdict, if there is one to look at. -/
def observe (v : View) (d : Dfu) : Dfu :=
  if d.state == .manifest || d.sink.isOpen then
    let d' := { d with sink := (d.sink.tryFinished v).2 }
    match (d.sink.tryFinished v).1 with
    | some (.error _) =>
        { d' with downloadCrc := Crc32.Hasher.new, pending := none }.replaceSink.fault .errVerify
    | some (.ok ()) =>
        -- a success before manifestation stays cached in the session
        if d.state == .manifest then
          { { d' with downloadCrc := Crc32.Hasher.new, pending := none }.replaceSink with
            status := .ok
            state := .manifestSync }
        else d'
    | none => d'
  else d

/-- Retries the held block and observes SWUpdate's verdict. -/
def poll (m : Moments) (d : Dfu) : Except IoError Unit × Dfu :=
  match d.pushPending m.push with
  | (.error err, d) => (.error err, d)
  | (.ok _, d) => (.ok (), d.observe m.verdict)

/-- Manifestation after a zero-length `DFU_DNLOAD`. -/
def manifest (m : Moments) (d : Dfu) : Except IoError Unit × Dfu :=
  let tail := d.downloadTail
  let d := { d with status := .ok, state := .manifest, downloadTail := [] }
  if tail.isEmpty || hasValidDfuSuffix d.downloadCrc tail then
    -- nothing of the tail is firmware: only what is held goes out
    match d.pushPending m.submit with
    | (.error err, d) => (.error err, d)
    | (.ok _, d) => (.ok (), d)
  else d.submitChunk m.submit tail

/-- Builds the `DFU_GETSTATUS` response and advances the synchronous states. -/
def getStatus (d : Dfu) : GetStatus × Dfu :=
  let state : State :=
    match d.state with
    | .dnloadSync | .dnBusy => if d.pending.isSome then .dnBusy else .dnloadIdle
    | .manifestSync => .dfuIdle
    | other => other
  let pollTimeoutMs : UInt32 :=
    match state with
    | .dnloadIdle => 0
    | .dnBusy => dnloadBusyPollTimeoutMs
    | .manifest | .manifestSync => manifestPollTimeoutMs
    | _ => d.pollTimeoutMs
  (⟨d.status, pollTimeoutMs, state, 0⟩, { d with state := state })

/-- Serves one `DFU_UPLOAD` block; a short block ends the upload. -/
def uploadBlock (req : CtrlReq) (d : Dfu) : Except IoError InReply × Dfu :=
  let transferSize := d.transferSize.toNat
  let offset := req.value.toNat * transferSize
  match d.upload with
  | none => (.error (IoError.new .notFound "no DFU upload source configured"), d)
  | some (.data data) =>
      let start := min offset data.length
      let stop := min (start + transferSize) data.length
      let buf := (data.drop start).take (stop - start)
      let state : State := if buf.length < transferSize then .dfuIdle else .uploadIdle
      (.ok (.data buf), { d with state := state })

/-- Host-to-device requests without a data block. -/
def handleOut (m : Moments) (req : CtrlReq) (d : Dfu) : Except IoError Unit × Dfu :=
  match d.poll m with
  | (.error err, d) => (.error err, d)
  | (.ok (), d) =>
      if req.request = Request.detach then (.ok (), { d with state := .appDetach })
      else if req.request = Request.dnload then d.manifest m
      else if req.request = Request.clrStatus then
        if d.state = .error || d.isFinishing then (.ok (), d.abortTransfer)
        else
          -- the session is kept as it is, held block included
          (.ok (), { d with
            status := .ok
            state := .dfuIdle
            downloadTail := []
            downloadCrc := Crc32.Hasher.new })
      else if req.request = Request.abort then (.ok (), d.abortTransfer)
      else (.error (IoError.new .invalidInput "unsupported DFU request"), d.fault .errStalledPkt)

/-- Device-to-host requests. -/
def handleIn (m : Moments) (req : CtrlReq) (d : Dfu) : Except IoError InReply × Dfu :=
  match d.poll m with
  | (.error err, d) => (.error err, d)
  | (.ok (), d) =>
      if req.request = Request.getStatus then (.ok (.status d.getStatus.1), d.getStatus.2)
      else if req.request = Request.getState then (.ok (.state d.state), d)
      else if req.request = Request.upload then d.uploadBlock req
      else (.error (IoError.new .invalidInput "unsupported DFU request"), d.fault .errStalledPkt)

/-- Takes a received block: the tail is put in front of it, all but the suffix window goes out as
one chunk. -/
def acceptBlock (v : View) (block : Bytes) (d : Dfu) : Except IoError Unit × Dfu :=
  let buf := d.downloadTail ++ block
  let d := { d with state := .dnloadSync, status := .ok }
  match flushableLen buf.length with
  | none => (.ok (), { d with downloadTail := buf })
  | some flush =>
      { d with
        downloadTail := buf.drop flush
        downloadCrc := d.downloadCrc.update (buf.take flush) }.submitChunk v (buf.take flush)

/-- Receives a `DFU_DNLOAD` block of announced length `len`; `stage` is what reading the data
stage of the request gave, never more than `len` bytes. -/
def receiveDnloadBlock (m : Moments) (len : Nat) (stage : Except IoError Bytes) (d : Dfu) :
    Except IoError Unit × Dfu :=
  match d.poll m with
  | (.error err, d) => (.error err, d)
  | (.ok (), d) =>
      if d.isFinishing then (.error (IoError.other "manifestation in progress"), d)
      else
        match stage with
        | .error err => (.error err, d)
        | .ok data => d.acceptBlock m.submit (data.take len)

end Dfu

/-! ## Event dispatch -/

/-- What the endpoint-zero loop hands to the handler. A host-to-device request carries the outcome
of its data stage. -/
inductive Event where
  | setupHostToDevice (req : CtrlReq) (stage : Except IoError Bytes)
  | setupDeviceToHost (req : CtrlReq)
  | enable
  | disable
  | unbind
  | other
  | idleTimeout
  | transportClosed

/-- A transport that closed during a request resets the transfer. -/
def Dfu.resetIfClosed : Except IoError Unit × Dfu → Except IoError Unit × Dfu
  | (.ok (), d) => (.ok (), d)
  | (.error err, d) =>
      if isClosedTransportError err then (.ok (), d.resetOnIdleTimeout) else (.error err, d)

/-- A host-to-device setup request. -/
def Dfu.setupOut (m : Moments) (req : CtrlReq) (stage : Except IoError Bytes) (d : Dfu) :
    Except IoError Unit × Dfu :=
  if !isDfuRequest req then (.ok (), d)
  else if req.announcesBlock then resetIfClosed (d.receiveDnloadBlock m req.length.toNat stage)
  else
    match stage with
    | .error err => resetIfClosed (.error err, d)
    | .ok _ => d.handleOut m req

/-- A device-to-host setup request; a request of another class gets an empty answer. -/
def Dfu.setupIn (m : Moments) (req : CtrlReq) (d : Dfu) : Except IoError InReply × Dfu :=
  if !isDfuRequest req then (.ok (.data []), d) else d.handleIn m req

/-- One event and what it sees. -/
structure Input where
  event : Event
  moments : Moments

/-- The handler after one event. Errors are logged by the loop and change nothing more; the idle
timeout can only elapse while it is armed. -/
def Dfu.step (d : Dfu) (i : Input) : Dfu :=
  match i.event with
  | .setupHostToDevice req stage => (d.setupOut i.moments req stage).2
  | .setupDeviceToHost req => (d.setupIn i.moments req).2
  | .enable => d
  | .disable => d.resetOnIdleTimeout
  | .unbind => d.resetOnIdleTimeout
  | .other => d
  | .idleTimeout => if d.dfuIdleTimeout.isSome then d.resetOnIdleTimeout else d
  | .transportClosed => d.resetOnIdleTimeout

/-! ## Requests as a host sends them -/

def getStatusRequest : CtrlReq := ⟨0xa1, Request.getStatus, 0, 0, 6⟩

namespace Event

/-- A data block with number `num`. -/
def dnload (num : UInt16) (block : Bytes) : Event :=
  .setupHostToDevice ⟨0x21, Request.dnload, num, 0, UInt16.ofNat block.length⟩ (.ok block)

/-- The zero-length `DFU_DNLOAD` after the last block. -/
def manifest (num : UInt16) : Event :=
  .setupHostToDevice ⟨0x21, Request.dnload, num, 0, 0⟩ (.ok [])

def clrStatus : Event := .setupHostToDevice ⟨0x21, Request.clrStatus, 0, 0, 0⟩ (.ok [])

def abort : Event := .setupHostToDevice ⟨0x21, Request.abort, 0, 0, 0⟩ (.ok [])

def getStatus : Event := .setupDeviceToHost getStatusRequest

def upload (num length : UInt16) : Event :=
  .setupDeviceToHost ⟨0xa1, Request.upload, num, 0, length⟩

end Event

end SummitUsbgadget.DfuFunction
