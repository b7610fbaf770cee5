import SummitUsbgadget.FastbootTcp.Transport

/-!
# A fastboot session over TCP

The command handlers, the data phase and the command loop of `session.rs`. A handler returns an
error exactly if the connection is to be dropped; failures of a command are replies.
-/

set_option autoImplicit false

namespace SummitUsbgadget.FastbootTcp

open SummitUsbgadget.Lib
open SummitUsbgadget.Swupdate
open SummitUsbgadget.Fastboot

namespace TcpFastbootSession

def new (params : SwupdateParams) (serial : Bytes) : TcpFastbootSession where
  params := params
  serial := serial
  sink := Session.new params recvBufferSize
  fastbootUsbSessionOpen := false
  fastbootPendingFlash := false
  remaining := 0
  frameRemaining := 0
  sent := []
  retired := []

/-- `reset_after_finish`. -/
def resetAfterFinish (s : TcpFastbootSession) : TcpFastbootSession :=
  { s with
    sink := Session.new s.params recvBufferSize
    fastbootUsbSessionOpen := false
    fastbootPendingFlash := false
    retired := s.retired ++ [s.sink] }

end TcpFastbootSession

/-! ## The data phase -/

/-- The frame that the next bytes belong to: a new header is read at the end of a frame. -/
def nextFrame : Async (Except IoError Unit) := do
  let left ← Program.read fun s => s.frameRemaining
  if left = 0 then
    Program.attempt readHeader fun
      | none => pure (.error (IoError.new .unexpectedEof "connection closed mid-download"))
      | some len => do
          Program.update fun s => { s with frameRemaining := len }
          pure (.ok ())
  else pure (.ok ())

/-- `FastbootDownloadSource::read_block`. -/
def readBlock : Async (Except IoError (Option Bytes)) := do
  let remaining ← Program.read fun s => s.remaining
  if remaining = 0 then pure (.ok none)
  else
    Program.attempt nextFrame fun _ => do
      let want ← Program.read fun s => min (min s.frameRemaining s.remaining) recvBufferSize
      Program.attempt (readInto want) fun data =>
        if data = [] then
          pure (.error (IoError.new .unexpectedEof "connection closed mid-download"))
        else do
          Program.update fun s => { s with
            frameRemaining := s.frameRemaining - data.length
            remaining := s.remaining - data.length }
          pure (.ok (some data))

/-- The loop of `stream_download`. Every turn but one consumes a byte of the payload, so one turn
more than there are bytes suffices. -/
def streamLoop : Nat → Bool → Async (Except IoError Unit)
  | 0, _ => pure (.ok ())
  | n + 1, forwarding => do
      let remaining ← Program.read fun s => s.remaining
      if remaining = 0 then pure (.ok ())
      else if !forwarding then Program.attempt readBlock fun _ => streamLoop n forwarding
      else
        Program.attempt (pumpToSwupdate readBlock (remaining + 1)) fun
          | .inputClosed => pure (.ok ())
          -- done early: the peer still has to get rid of the rest
          | .swupdateFinished (.ok ()) => streamLoop n false
          | .swupdateFinished (.error err) => do
              let _ ← sendPacket Reply.failEpipe
              abort
              pure (.error err)

/-- Reads the payload, feeds it to SWUpdate and acknowledges the data phase. -/
def streamDownload (total : Nat) : Async (Except IoError Unit) := do
  Program.update fun s => { s with remaining := total, frameRemaining := 0 }
  Program.attempt (streamLoop (total + 1) true) fun _ => sendPacket Reply.okay

/-! ## The commands -/

def handleWopen : Async (Except IoError Unit) := do
  let opened ← openSession
  match opened with
  | .error _ => sendPacket Reply.failOpen
  | .ok () => do
      Program.update fun s =>
        { s with
          fastbootUsbSessionOpen := true
          fastbootPendingFlash := false }
      sendPacket Reply.okay

def handleGetvar (arg : Bytes) : Async (Except IoError Unit) := do
  let info : SystemInfo ← ask .system
  let serial ← Program.read fun s => s.serial
  match fastbootGetvarReply arg serial info with
  | some data => sendPacket data
  | none => sendPacket Reply.failCmd

/-- Both targets send the same text. -/
def handleFetch (_target : FetchTarget) : Async (Except IoError Unit) := do
  let info : SystemInfo ← ask .system
  Program.attempt (sendPacket (dataHeader info.json.length)) fun _ =>
    Program.attempt (sendPacket info.json) fun _ => sendPacket Reply.okay

/-- Opens the session unless it counts as open. -/
def ensureBegun : Async (Except IoError Unit) := do
  let isOpen ← Program.read fun s => s.sink.isOpen
  if isOpen then pure (.ok ()) else openSession

def handleDownload (len : Nat) (kind : DownloadKind) : Async (Except IoError Unit) := do
  let begun ← ensureBegun
  match begun with
  | .error _ => sendPacket Reply.failOpen
  | .ok () =>
      Program.attempt (sendPacket (dataHeader len)) fun _ => do
        Program.update fun s => { s with
          fastbootPendingFlash := fastbootDownload kind s.fastbootUsbSessionOpen }
        if len = 0 then sendPacket Reply.okay else streamDownload len

/-- Closes the feed, waits for the verdict and starts afresh. -/
def finishDownload : Async (Except IoError Unit) := do
  let isOpen ← Program.read fun s => s.sink.isOpen
  if !isOpen then do
    -- refused without a look at the cached verdict
    Program.update fun s => { s with fastbootPendingFlash := false }
    sendPacket Reply.failClose
  else do
    onSession fun d => ((), d.eof)
    let verdict ← finished
    Program.update TcpFastbootSession.resetAfterFinish
    match verdict with
    | .ok () => sendPacket Reply.okay
    | .error _ => sendPacket Reply.failClose

def handleFlash : Async (Except IoError Unit) := do
  let pendingFlash ← Program.read fun s => s.fastbootPendingFlash
  if !pendingFlash then sendPacket Reply.failFlash
  else Program.attempt (sendPacket Reply.infoWaitSwupdate) fun _ => finishDownload

/-- One command; what follows it in its packet is ignored. -/
def dispatch (cmd : Bytes) : Async (Except IoError Unit) :=
  match parseCommand cmd with
  | none => sendPacket Reply.failCmd
  | some (command, _) =>
      match command with
      | .wOpen => handleWopen
      | .getVar arg => handleGetvar arg
      | .fetch target => handleFetch target
      | .fetchUnknownPart => sendPacket Reply.failUnknownPart
      | .download len kind => handleDownload len kind
      | .flash => handleFlash
      | .close => finishDownload
      | .unsupported => sendPacket Reply.failCmd

/-! ## The session -/

/-- `command_loop`, for at most `n` commands. -/
def commandLoop : Nat → Async (Except IoError Unit)
  | 0 => pure (.ok ())
  | n + 1 =>
      Program.attempt recvCommand fun
        | none => pure (.ok ())
        | some frame => Program.attempt (dispatch frame) fun _ => commandLoop n

/-- `TcpFastbootSession::run`, for at most `n` commands: an error of the command loop aborts the
session, and the connection is shut down either way. -/
def TcpFastbootSession.run (n : Nat) : Async (Except IoError Unit) :=
  Program.attempt handshake fun _ => do
    let result ← commandLoop n
    match result with
    | .ok () => ask .shutdown
    | .error err => do
        abort
        let _ ← ask .shutdown
        pure (.error err)

end SummitUsbgadget.FastbootTcp
