import SummitUsbgadget.FastbootUsb.Commands

/-!
# Receive completions and the connected loop

The rest of `state.rs`: what happens to a receive completion, one transfer step, and one iteration
of the connected loop. An iteration has two parts: the part before the select, which always runs to
its end, and the select itself, in which the transfer step either ends or is dropped because the
`enabled` signal changed while it waited.
-/

set_option autoImplicit false

namespace SummitUsbgadget.FastbootUsb

open SummitUsbgadget.Lib
open SummitUsbgadget.Swupdate
open SummitUsbgadget.Fastboot

/-- Hands a block to the session; a full queue is waited for. -/
def feedBlock (chunk : Bytes) : Async (Except IoError Unit) := do
  let tried ← trySend chunk
  match tried with
  | .error err => pure (.error err)
  | .ok (.ok _) => pure (.ok ())
  -- SWUpdate has stopped reading; the verdict will say whether that was a failure
  | .ok .closed => pure (.ok ())
  | .ok (.full item) => do
      let sent ← send item
      match sent with
      | .error err => pure (.error err)
      | .ok _ => pure (.ok ())

/-- The reply to a write that failed with `err`. -/
def writeFailReply (err : IoError) : Bytes :=
  if err.kind = .notConnected then Reply.failNotopen else Reply.failEpipe

/-- Bytes that arrive after SWUpdate failed are counted and discarded up to the boundary. -/
def drainChunk (failReply : Bytes) (len : Nat) : Async Unit := do
  Program.update fun s => { s with downloadedSize := s.downloadedSize + len }
  let active ← Program.read fun s => s.downloadActive
  if active then pure ()
  else do
    reply failReply
    resetState

/-- Writes one chunk into the active download. -/
def handleDownloadChunk (chunk : Bytes) : Async Bool := do
  if chunk = [] then pure true
  else do
    let failed ← Program.read fun s => s.pendingFailReply
    match failed with
    | some failReply => do
        drainChunk failReply chunk.length
        pure true
    | none => do
        let outcome ← feedBlock chunk
        Program.update fun s => { s with downloadedSize := s.downloadedSize + chunk.length }
        match outcome with
        | .ok () => do
            let active ← Program.read fun s => s.downloadActive
            if active then pure true
            else do
              reply Reply.okay
              pure true
        | .error err => do
            failDownload (writeFailReply err)
            let active ← Program.read fun s => s.downloadActive
            if active then pure true
            else do
              reply (writeFailReply err)
              resetState
              pure true

/-- Routes a chunk: to the command parser, or to the download up to its boundary. What follows the
boundary goes to the download again. -/
def handleRxChunk (chunk : Bytes) : Async Bool := do
  let active ← Program.read fun s => s.downloadActive
  if !active then do
    let (handled, rest) ← handleCommandChunk chunk
    let active ← Program.read fun s => s.downloadActive
    if handled && active && !rest.isEmpty then handleDownloadChunk rest
    else pure true
  else do
    let remaining ← Program.read fun s => s.remainingDownloadBytes
    if chunk.length > remaining then do
      let keep ← handleDownloadChunk (chunk.take remaining)
      if !keep then pure false
      else do
        let active ← Program.read fun s => s.downloadActive
        -- bytes behind the boundary are not parsed as a command
        if active then pure true
        else handleDownloadChunk (chunk.drop remaining)
    else handleDownloadChunk chunk

/-- Routes a receive completion; `none` stands for an empty receive queue. -/
def onRecv (data : Except IoError (Option Bytes)) : Async Bool :=
  match data with
  | .ok (some chunk) => handleRxChunk chunk
  | .ok none => pure true
  | .error err =>
      if err.kind = .timedOut then do
        let inFlight ← Program.read fun s => s.inFlight
        if inFlight then do
          reset (some Reply.failBadsize)
          pure false
        else pure true
      else if isClosedTransportError err then do
        Program.update fun s => { s with gadgetTornDown := true }
        reset none
        pure false
      else do
        reset (some Reply.failBadsize)
        pure false

/-- Waits for the read in flight; during a download only until the stall timeout. -/
def fetchCompletion : Async (Except IoError (Option Bytes)) := do
  let reading ← Program.read fun s => s.reading
  let active ← Program.read fun s => s.downloadActive
  if reading.isNone then pure (.ok none)
  else if active then do
    let fetched : Fetched ← ask .fetchTimeout
    match fetched with
    | .completed result => do
        Program.update fun s => { s with reading := none }
        pure (result.map some)
    | .stalled =>
        -- the read stays in flight
        pure (.error (IoError.new .timedOut "timed out waiting for fastboot-usb download data"))
  else do
    let result : Except IoError Bytes ← ask .fetch
    Program.update fun s => { s with reading := none }
    pure (result.map some)

/-- One step of the transfer state machine; `false` after a hard failure. -/
def transferStep : Async Bool := do
  let finishing ← Program.read fun s => s.finishPending
  if finishing then do
    let status ← finished
    resetState
    match status with
    | .ok () => do
        reply Reply.okay
        pure true
    | .error _ => do
        reply Reply.failClose
        pure true
  else do
    let data ← fetchCompletion
    onRecv data

/-! ## The connected loop -/

/-- The capacity of the buffer for the next read: the session lends one of full size, and a shorter
one is new. -/
def recvBuffer : Async Nat := do
  let capacity ← Program.read fun s => s.recvCapacity
  if capacity ≥ recvBufferSize then ask .buffer else pure capacity

/-- Submits a read unless one is in flight. -/
def submitRecv : Async Unit := do
  let reading ← Program.read fun s => s.reading
  if reading.isSome then pure ()
  else do
    let capacity ← recvBuffer
    let submitted : Except IoError Unit ← ask (.submit capacity)
    match submitted with
    | .ok () =>
        Program.update fun s => { s with reading := some (min s.recvCapacity recvBufferSize) }
    | .error err =>
        if isClosedTransportError err then
          Program.update fun s => { s with gadgetTornDown := true }
        else pure ()

/-- The look at the verdict during a download. -/
def checkVerdict : Async Unit := do
  let watching ← Program.read fun s =>
    !s.finishPending && s.downloadActive && s.pendingFailReply.isNone && s.download.isOpen
  if watching then do
    let verdict ← tryFinished
    match verdict with
    | some (.error _) => failDownload Reply.failEpipe
    | _ => pure ()
  else pure ()

/-- The part of an iteration before the select; `false` if the endpoint turned out closed. -/
def prime : Async Bool := do
  checkVerdict
  submitRecv
  let torn ← Program.read fun s => s.gadgetTornDown
  if torn then do
    reset none
    pure false
  else pure true

/-- The transfer arm of the select is enabled. -/
def FastbootUsbState.ready (s : FastbootUsbState) : Bool := s.reading.isSome || s.finishPending

/-- The first touch of the bulk endpoint in a connected phase. -/
def enterConnected : Async Unit := do
  let mps : Option Nat ← ask .packetSize
  Program.update fun s => { s with
    gadgetTornDown := false
    rxMaxPacketSize := mps.getD s.rxMaxPacketSizeDefault }

/-- How a select ends: the transfer step ran to its end, or the `enabled` signal changed, which the
select looks at first. That may be before the transfer step was polled at all, or after it got
`answers` answers and waits for the next one. The new value is `none` when the control loop is
gone. -/
inductive Select where
  | transfer
  | changed (answers : Option Nat) (value : Option Bool)

/-- One iteration of the connected loop: what its three parts are answered, and how its select
ends. -/
structure Iteration where
  top : Answers
  step : Answers
  arm : Answers
  select : Select

/-- The state that a dropped transfer step leaves. A step can only be dropped where it waits. -/
def dropTransfer (answers : Option Nat) (o : Answers) (s : FastbootUsbState) : FastbootUsbState :=
  match answers with
  | none => s
  | some n =>
      match (transferStep s).waiting n o with
      | some (s', q) => if q.suspends then s' else s
      | none => s

/-- One iteration; the first component tells whether the loop goes on. -/
def iterate (s : FastbootUsbState) (i : Iteration) : Bool × FastbootUsbState :=
  let primed := prime.exec s i.top
  if !primed.1 then (false, primed.2.1)
  else
    match i.select with
    | .transfer =>
        if primed.2.1.ready then
          ((transferStep.exec primed.2.1 i.step).1, (transferStep.exec primed.2.1 i.step).2.1)
        else (true, primed.2.1)
    | .changed answers value =>
        let left :=
          if primed.2.1.ready then dropTransfer answers i.step primed.2.1 else primed.2.1
        if value = some true then (true, left)
        else (false, ((reset none).exec left i.arm).2.1)

/-- The connected loop: nothing happens any more once it was left. -/
def serve (c : Bool × FastbootUsbState) (i : Iteration) : Bool × FastbootUsbState :=
  if c.1 then iterate c.2 i else c

end SummitUsbgadget.FastbootUsb
