import SummitUsbgadget.Swupdate.Async
import SummitUsbgadget.Fastboot.Proto

/-!
# The fastboot-usb state machine

The state of `state.rs` and everything that `transfer_step` does with it, as coroutines: a query
is put wherever the source waits, and where it looks at something that changes on its own. The
connected loop drops a coroutine that waits when the `enabled` signal changes, so the state stored
at a query is the state that survives.

`FastbootUsbState.sent`, `parsed` and `retired` are ghost fields: the replies handed to the bulk-IN
endpoint, the byte strings handed to the command parser and the sessions that were replaced. The
source keeps the session in an `Option` that every assignment fills; the model keeps the session.
-/

set_option autoImplicit false

namespace SummitUsbgadget.FastbootUsb

open SummitUsbgadget.Lib
open SummitUsbgadget.Swupdate
open SummitUsbgadget.Fastboot

/-- `RECV_BUFFER_SIZE`. -/
def recvBufferSize : Nat := 16 * 1024

/-- `FastbootUsbState`. The receive endpoint is the length that its read in flight was wanted
with. -/
structure FastbootUsbState where
  rxMaxPacketSize : Nat
  rxMaxPacketSizeDefault : Nat
  reading : Option Nat
  downloadParams : SwupdateParams
  download : Session
  fastbootUsbSessionOpen : Bool
  serial : Bytes
  downloadSize : Nat
  downloadedSize : Nat
  fastbootPendingFlash : Bool
  finishPending : Bool
  pendingFailReply : Option Bytes
  gadgetTornDown : Bool
  sent : List Sent
  parsed : List Bytes
  retired : List Session

/-- Outcome of waiting for the read in flight: it completed, or the stall timeout elapsed and the
read is still in flight. -/
inductive Fetched where
  | completed (result : Except IoError Bytes)
  | stalled

/-- What a coroutine asks for. -/
inductive Query where
  /-- A look at the session's surroundings. -/
  | look
  /-- A free slot in the session's queue. -/
  | slot
  /-- The end of the status task. -/
  | join
  /-- The end of the aborted status task. -/
  | reap
  /-- The completion of the read in flight. -/
  | fetch
  /-- The completion of the read in flight, or the stall timeout. -/
  | fetchTimeout
  /-- Space on the bulk-IN endpoint, and the submission of a reply. -/
  | reply (data : Bytes)
  /-- A buffer of full size from the session, `SwupdateSession::buffer`: the capacity it has. -/
  | buffer
  /-- The submission of a read into a buffer of that capacity. -/
  | submit (capacity : Nat)
  /-- The packet size that was negotiated. -/
  | packetSize
  /-- The system information. -/
  | system
  deriving DecidableEq, Repr

@[reducible] def Query.Answer : Query → Type
  | .look => View
  | .slot => Bool
  | .join => Joined
  | .reap => Unit
  | .fetch => Except IoError Bytes
  | .fetchTimeout => Fetched
  | .reply _ => Except IoError Unit
  | .buffer => Nat
  | .submit _ => Except IoError Unit
  | .packetSize => Option Nat
  | .system => SystemInfo

/-- The query may have to wait. -/
def Query.suspends : Query → Bool
  | .slot | .join | .reap | .fetch | .fetchTimeout | .reply _ => true
  | .look | .buffer | .submit _ | .packetSize | .system => false

/-- The answers to one coroutine. -/
abbrev Answers := Oracle Query Query.Answer

abbrev Async (α : Type) := Program FastbootUsbState Query Query.Answer α

/-- Puts a query. -/
def ask (q : Query) : Async q.Answer := Program.ask q

instance : HasSession FastbootUsbState where
  session s := s.download
  setSession d s := { s with download := d }
  session_setSession _ _ := rfl
  setSession_setSession _ _ _ := rfl
  setSession_session _ := rfl

instance : AnswersSession Query Query.Answer where
  query
    | .look => .look
    | .slot => .slot
    | .join => .join
    | .reap => .reap
  answer
    | .look => fun v => v
    | .slot => fun accepted => accepted
    | .join => fun joined => joined
    | .reap => fun u => u

/-! ## Replies and resets -/

/-- `send_static`, and `send_async` for other replies. -/
def sendStatic (data : Bytes) : Async (Except IoError Unit) := do
  let result ← ask (.reply data)
  Program.update fun s => { s with sent := s.sent ++ [⟨data, result.isOk⟩] }
  pure result

/-- A reply whose outcome is ignored. -/
def reply (data : Bytes) : Async Unit := do
  let _ ← sendStatic data
  pure ()

namespace FastbootUsbState

def new (params : SwupdateParams) (serial : Bytes) (rxMaxPacketSizeDefault : Nat) :
    FastbootUsbState where
  rxMaxPacketSize := rxMaxPacketSizeDefault
  rxMaxPacketSizeDefault := rxMaxPacketSizeDefault
  reading := none
  downloadParams := params
  download := Session.new params recvBufferSize
  fastbootUsbSessionOpen := false
  serial := serial
  downloadSize := 0
  downloadedSize := 0
  fastbootPendingFlash := false
  finishPending := false
  pendingFailReply := none
  gadgetTornDown := false
  sent := []
  parsed := []
  retired := []

/-- `reset_state`. -/
def fresh (s : FastbootUsbState) : FastbootUsbState :=
  { s with
    download := Session.new s.downloadParams recvBufferSize
    fastbootUsbSessionOpen := false
    downloadSize := 0
    downloadedSize := 0
    fastbootPendingFlash := false
    finishPending := false
    pendingFailReply := none
    retired := s.retired ++ [s.download] }

def remainingDownloadBytes (s : FastbootUsbState) : Nat := s.downloadSize - s.downloadedSize

def downloadActive (s : FastbootUsbState) : Bool := s.downloadedSize < s.downloadSize

/-- A download, flash or finish is in flight. -/
def inFlight (s : FastbootUsbState) : Bool :=
  s.downloadActive || s.fastbootPendingFlash || s.finishPending

/-- Length of the next read: a full buffer, or the rest of the download rounded up to packets. -/
def recvCapacity (s : FastbootUsbState) : Nat :=
  if !s.downloadActive then recvBufferSize
  else
    -- the controller takes OUT reads of whole packets only
    let remaining := min (max s.remainingDownloadBytes 1) recvBufferSize
    let mps := max s.rxMaxPacketSize 1
    (remaining + mps - 1) / mps * mps

end FastbootUsbState

def resetState : Async Unit := Program.update FastbootUsbState.fresh

/-- Marks the download as failed; the rest of it is drained and discarded. -/
def failDownload (failReply : Bytes) : Async Unit := do
  abort
  Program.update fun s => { s with pendingFailReply := some failReply }

/-- Quiesces the bulk path and resets; the reply is best effort. -/
def reset (resetReply : Option Bytes) : Async Unit := do
  -- the read is cancelled before the first wait
  Program.update fun s => { s with reading := none }
  abort
  resetState
  match resetReply with
  | some data => reply data
  | none => pure ()

end SummitUsbgadget.FastbootUsb
