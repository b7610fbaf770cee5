import SummitUsbgadget.Lib.BytesMut
import SummitUsbgadget.Lib.Fifo
import SummitUsbgadget.Lib.Zoom
import SummitUsbgadget.FastbootUsb.Serve

/-!
# Where the receive buffers go

The rest of the model follows the bytes of a read; here the buffers they come in are followed too. A
read is as long as the capacity of its buffer, and a buffer that went through the session comes back
with what is left of it: cut behind a command header or at the end of a download, and filled as far
as the read got. `Buffered` has the functions of `state.rs` and `commands.rs` with their buffers;
forgetting the buffers gives the functions of the model (`Buffered.erases_transferStep` and its
siblings).
-/

set_option autoImplicit false

namespace SummitUsbgadget.Swupdate

open SummitUsbgadget.Lib

/-- `SwupdateSession::buffer`: a buffer that came back, or a new one. What it lacks is reserved
before it is cleared. -/
def lentBuffer (capacity extra : Nat) (recycled : Option (BytesMut UInt8)) : BytesMut UInt8 :=
  let buf := recycled.getD (.withCapacity capacity)
  let buf := if buf.capacity < capacity then buf.reserve (capacity - buf.capacity) extra else buf
  buf.clear

/-- The channels of a transfer. How many blocks the queue takes shows in the answers that the
session gets. -/
structure Lane where
  queue : List (BytesMut UInt8)
  recycle : Fifo (BytesMut UInt8)

namespace Lane

def spawn (capacity : Nat) : Lane := ⟨[], .empty capacity⟩

def push (buf : BytesMut UInt8) (lane : Lane) : Lane := { lane with queue := lane.queue ++ [buf] }

/-- One round of `drain_data`: the oldest block is written, and its buffer goes back if the session
still holds the receiver and there is room. -/
def drain (recycles : Bool) (lane : Lane) : Lane :=
  match lane.queue with
  | [] => lane
  | buf :: queue =>
      ⟨queue, if recycles then lane.recycle.push buf else lane.recycle⟩

/-- The oldest buffer that came back is taken. -/
def take (lane : Lane) : Lane :=
  match lane.recycle.pop with
  | none => lane
  | some (_, recycle) => { lane with recycle := recycle }

end Lane

end SummitUsbgadget.Swupdate

namespace SummitUsbgadget.FastbootUsb

open SummitUsbgadget.Lib
open SummitUsbgadget.Swupdate
open SummitUsbgadget.Fastboot

/-- The function with its buffers: the capacity of the buffer in flight, and the channels of every
transfer, by the number of its session and its own. -/
structure Depot where
  usb : FastbootUsbState
  room : Nat
  lanes : Nat → Nat → Lane

namespace Depot

def new (params : SwupdateParams) (serial : Bytes) (rxMaxPacketSizeDefault : Nat) : Depot where
  usb := .new params serial rxMaxPacketSizeDefault
  room := 0
  lanes _ _ := .spawn (queueCapacity recvBufferSize)

/-- Changes the channels of transfer `k` of session `n`. -/
def onLane (n k : Nat) (f : Lane → Lane) (w : Depot) : Depot :=
  { w with lanes := fun n' k' => if n' = n ∧ k' = k then f (w.lanes n' k') else w.lanes n' k' }

/-- The number of the session in use. -/
def current (w : Depot) : Nat := w.usb.retired.length

/-- The buffer that the session would lend next. -/
def recycled (w : Depot) : Option (BytesMut UInt8) :=
  w.usb.download.recycleRx.bind fun k => (w.lanes w.current k).recycle.items.head?

/-- `recv_buffer`: a full-size buffer is lent, a shorter one is new. -/
def recvBuffer (extra : Nat) (w : Depot) : BytesMut UInt8 :=
  if w.usb.recvCapacity ≥ recvBufferSize then lentBuffer recvBufferSize extra w.recycled
  else .withCapacity w.usb.recvCapacity

/-- The lent buffer leaves its channel. -/
def takeRecycled (w : Depot) : Depot :=
  match w.usb.download.recycleRx with
  | none => w
  | some k => w.onLane w.current k Lane.take

/-- The transfer that took a block since the session was `before`. -/
def fedTo (before : Session) (w : Depot) : Option Nat :=
  (w.usb.download.history.drop before.history.length).findSome? fun e =>
    match e with
    | .fed k _ => some k
    | _ => none

/-- The buffer follows its block. -/
def stock (buf : BytesMut UInt8) (before w : Depot) : Depot :=
  match w.fedTo before.usb.download with
  | none => w
  | some k => w.onLane w.current k (Lane.push buf)

end Depot

namespace Buffered

abbrev Async (α : Type) := Program Depot Query Query.Answer α

def usb : Part Depot FastbootUsbState := ⟨Depot.usb, fun s w => { w with usb := s }, fun _ _ => rfl⟩

/-- A coroutine that has nothing to do with buffers. -/
def plain {α : Type} (p : FastbootUsb.Async α) : Async α := p.zoom usb

def feedBlock (chunk : BytesMut UInt8) : Async (Except IoError Unit) :=
  Program.zoomThen usb (FastbootUsb.feedBlock chunk.data) (Depot.stock chunk)

/-- What `handle_download_chunk` does once the chunk was fed. -/
def concludeChunk (len : Nat) (outcome : Except IoError Unit) : FastbootUsb.Async Bool := do
  Program.update fun s => { s with downloadedSize := s.downloadedSize + len }
  match outcome with
  | .ok () => do
      let active ← Program.read fun s => s.downloadActive
      if active then pure true
      else do
        reply Reply.okay
        pure true
  | .error err => do
      failDownload (writeFailReply err)
      let active ← Program.read fun s => s.downloadActive
      if active then pure true
      else do
        reply (writeFailReply err)
        resetState
        pure true

def handleDownloadChunk (chunk : BytesMut UInt8) : Async Bool := do
  if chunk.data = [] then pure true
  else do
    let failed ← Program.read fun w => w.usb.pendingFailReply
    match failed with
    | some failReply => do
        plain (drainChunk failReply chunk.len)
        pure true
    | none => do
        let outcome ← feedBlock chunk
        plain (concludeChunk chunk.len outcome)

/-- The header is split off; the chunk keeps what follows. -/
def handleCommandChunk (chunk : BytesMut UInt8) : Async (Bool × BytesMut UInt8) := do
  plain (Program.update fun s => { s with parsed := s.parsed ++ [chunk.data] })
  match parseCommand chunk.data with
  | none => pure (false, chunk)
  | some (command, consumed) => do
      let handled ← plain (dispatch command)
      pure (handled, chunk.back consumed)

def handleRxChunk (chunk : BytesMut UInt8) : Async Bool := do
  let active ← Program.read fun w => w.usb.downloadActive
  if !active then do
    let (handled, rest) ← handleCommandChunk chunk
    let active ← Program.read fun w => w.usb.downloadActive
    if handled && active && !rest.data.isEmpty then handleDownloadChunk rest
    else pure true
  else do
    let remaining ← Program.read fun w => w.usb.remainingDownloadBytes
    if chunk.len > remaining then do
      let keep ← handleDownloadChunk (chunk.front remaining)
      if !keep then pure false
      else do
        let active ← Program.read fun w => w.usb.downloadActive
        if active then pure true
        else handleDownloadChunk (chunk.back remaining)
    else handleDownloadChunk chunk

def onRecv (data : Except IoError (Option (BytesMut UInt8))) : Async Bool :=
  match data with
  | .ok (some chunk) => handleRxChunk chunk
  | .ok none => pure true
  | .error err => plain (FastbootUsb.onRecv (.error err))

/-- The read completes in the buffer that was submitted with it. -/
def fetchCompletion : Async (Except IoError (Option (BytesMut UInt8))) := do
  let result ← plain FastbootUsb.fetchCompletion
  let room ← Program.read fun w => w.room
  pure (result.map (Option.map (BytesMut.filled room)))

/-- What `transfer_step` does while the verdict is awaited. -/
def awaitVerdict : FastbootUsb.Async Bool := do
  let status ← finished
  resetState
  match status with
  | .ok () => do
      reply Reply.okay
      pure true
  | .error _ => do
      reply Reply.failClose
      pure true

def transferStep : Async Bool := do
  let finishing ← Program.read fun w => w.usb.finishPending
  if finishing then plain awaitVerdict
  else do
    let data ← fetchCompletion
    onRecv data

/-- The buffer of the next read is taken: its capacity is the answer of the surroundings. -/
def recvBuffer : Async Nat := do
  let capacity ← Program.read fun w => w.usb.recvCapacity
  if capacity ≥ recvBufferSize then do
    let lent : Nat ← Program.ask Query.buffer
    Program.update Depot.takeRecycled
    pure lent
  else pure capacity

/-- What `submit_recv` does with the outcome of `try_recv`. -/
def submittedRead (submitted : Except IoError Unit) : FastbootUsb.Async Unit :=
  match submitted with
  | .ok () =>
      Program.update fun s => { s with reading := some (min s.recvCapacity recvBufferSize) }
  | .error err =>
      if isClosedTransportError err then
        Program.update fun s => { s with gadgetTornDown := true }
      else pure ()

def submitRecv : Async Unit := do
  let reading ← Program.read fun w => w.usb.reading
  if reading.isSome then pure ()
  else do
    let capacity ← recvBuffer
    Program.update fun w => { w with room := capacity }
    let submitted : Except IoError Unit ← Program.ask (Query.submit capacity)
    plain (submittedRead submitted)

def prime : Async Bool := do
  plain checkVerdict
  submitRecv
  let torn ← Program.read fun w => w.usb.gadgetTornDown
  if torn then do
    plain (reset none)
    pure false
  else pure true

/-! ## The loops -/

/-- The state that a dropped transfer step leaves. -/
def dropTransfer (answers : Option Nat) (o : Answers) (w : Depot) : Depot :=
  match answers with
  | none => w
  | some n =>
      match (transferStep w).waiting n o with
      | some (w', q) => if q.suspends then w' else w
      | none => w

def iterate (w : Depot) (i : Iteration) : Bool × Depot :=
  let primed := prime.exec w i.top
  if !primed.1 then (false, primed.2.1)
  else
    match i.select with
    | .transfer =>
        if primed.2.1.usb.ready then
          ((transferStep.exec primed.2.1 i.step).1, (transferStep.exec primed.2.1 i.step).2.1)
        else (true, primed.2.1)
    | .changed answers value =>
        let left :=
          if primed.2.1.usb.ready then dropTransfer answers i.step primed.2.1 else primed.2.1
        if value = some true then (true, left)
        else (false, ((plain (reset none)).exec left i.arm).2.1)

end Buffered

namespace Depot

/-- What happens next: `serve_connected` begins, the connected loop goes round once, or the drain of
transfer `k` of session `n` does. The allocator leaves `extra` bytes more than it has to. -/
inductive Input where
  | connect (o : Answers)
  | iterate (i : Iteration) (extra : Nat)
  | drain (n k : Nat)

/-- The function when it submits its next read: the look at the verdict comes first. -/
def submitting (i : Iteration) (w : Depot) : Depot :=
  { w with usb := (checkVerdict.exec w.usb i.top).2.1 }

/-- The answers with the buffer that is there. -/
def lending (i : Iteration) (extra : Nat) (w : Depot) : Iteration :=
  { i with
    top := fun n q =>
      match q with
      | .buffer => ((w.submitting i).recvBuffer extra).capacity
      | q => i.top n q }

/-- One round of the drain. -/
def drain (n k : Nat) (w : Depot) : Depot :=
  w.onLane n k (Lane.drain (n = w.current ∧ w.usb.download.recycleRx = some k))

/-- The first component tells whether the connected loop runs. -/
def step (c : Bool × Depot) : Input → Bool × Depot
  | .connect o => if c.1 then c else (true, ((Buffered.plain enterConnected).exec c.2 o).2.1)
  | .iterate i extra => if c.1 then Buffered.iterate c.2 (c.2.lending i extra) else c
  | .drain n k => (c.1, c.2.drain n k)

end Depot

end SummitUsbgadget.FastbootUsb
