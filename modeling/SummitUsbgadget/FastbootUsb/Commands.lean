import SummitUsbgadget.FastbootUsb.State

/-!
# The fastboot-usb commands

The handlers of `commands.rs`. Each returns whether the command was carried out; only then may
bytes behind it be the beginning of its data phase.
-/

set_option autoImplicit false

namespace SummitUsbgadget.FastbootUsb

open SummitUsbgadget.Lib
open SummitUsbgadget.Swupdate
open SummitUsbgadget.Fastboot

def sendDataHeader (len : Nat) : Async (Except IoError Unit) := sendStatic (dataHeader len)

def beginDownloadCommand : Async Bool := do
  let opened ← openSession
  match opened with
  | .error _ => do
      reply Reply.failOpen
      pure false
  | .ok () => pure true

/-- Closes the feed; the connected loop then waits for the verdict. -/
def startFinishDownloadCommand : Async Bool := do
  let isOpen ← Program.read fun s => s.download.isOpen
  if !isOpen then do
    reply Reply.failClose
    pure false
  else do
    onSession fun d => ((), d.eof)
    Program.update fun s => { s with finishPending := true }
    pure true

def handleWopenCommand : Async Bool := do
  let begun ← beginDownloadCommand
  if !begun then pure false
  else do
    Program.update fun s => { s with fastbootUsbSessionOpen := true, fastbootPendingFlash := false }
    reply Reply.okay
    pure true

/-- Header and payload are separate bulk transfers; both targets send the same text. -/
def handleFetchCommand (_target : FetchTarget) : Async Bool := do
  let info : SystemInfo ← ask .system
  let header ← sendDataHeader info.json.length
  match header with
  | .error _ => pure false
  | .ok () => do
      let payload ← sendStatic info.json
      match payload with
      | .error _ => pure false
      | .ok () => do
          reply Reply.okay
          pure true

/-- Opens the session unless it counts as open. -/
def ensureBegun : Async Bool := do
  let isOpen ← Program.read fun s => s.download.isOpen
  if isOpen then pure true else beginDownloadCommand

def startDownloadTransfer (len : Nat) (kind : DownloadKind) : Async Bool := do
  let begun ← ensureBegun
  if !begun then pure false
  else do
    let header ← sendDataHeader len
    match header with
    | .error _ => do
        reset none
        pure false
    | .ok () => do
        -- only now, after the header went out, is the data phase under way
        Program.update fun s => { s with
          downloadSize := len
          downloadedSize := 0
          fastbootPendingFlash := fastbootDownload kind s.fastbootUsbSessionOpen }
        if len = 0 then do
          reply Reply.okay
          pure true
        else pure true

def finishFlashDownload : Async Bool := do
  let pendingFlash ← Program.read fun s => s.fastbootPendingFlash
  let active ← Program.read fun s => s.downloadActive
  if !pendingFlash then do
    reply Reply.failFlash
    pure false
  else if active then do
    reply Reply.failBadsize
    pure false
  else do
    reply Reply.infoWaitSwupdate
    let begun ← startFinishDownloadCommand
    if !begun then do
      Program.update fun s => { s with fastbootPendingFlash := false }
      pure false
    else pure true

def handleCloseCommand : Async Bool := startFinishDownloadCommand

def handleGetVar (arg : Bytes) : Async Bool := do
  let info : SystemInfo ← ask .system
  let serial ← Program.read fun s => s.serial
  match fastbootGetvarReply arg serial info with
  | some data => do
      reply data
      pure true
  | none => do
      reply Reply.failCmd
      pure false

/-- A command that is answered with a failure only. -/
def refuse (data : Bytes) : Async Bool := do
  reply data
  pure false

/-- The command's own handler. -/
def dispatch : ParsedCommand → Async Bool
  | .wOpen => handleWopenCommand
  | .getVar arg => handleGetVar arg
  | .fetch target => handleFetchCommand target
  | .fetchUnknownPart => refuse Reply.failUnknownPart
  | .download len kind => startDownloadTransfer len kind
  | .flash => finishFlashDownload
  | .close => handleCloseCommand
  | .unsupported => refuse Reply.failCmd

/-- Parses and carries out one command; returns also what is left of the chunk. -/
def handleCommandChunk (chunk : Bytes) : Async (Bool × Bytes) := do
  Program.update fun s => { s with parsed := s.parsed ++ [chunk] }
  match parseCommand chunk with
  | none => pure (false, chunk)
  | some (command, consumed) => do
      let handled ← dispatch command
      pure (handled, chunk.drop consumed)

end SummitUsbgadget.FastbootUsb
