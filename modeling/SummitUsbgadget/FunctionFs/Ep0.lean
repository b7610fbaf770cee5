import SummitUsbgadget.DfuFunction.Protocol
import SummitUsbgadget.Lib.Hoare

/-!
# Endpoint zero of a custom function

`Custom` reads events from endpoint zero and hands a control request out as a `CtrlSender` or a
`CtrlReceiver`. `setup_event` remembers the request that has not been answered: whoever answers it
clears it, and a sender or receiver that is dropped before stalls the endpoint, which FunctionFS
does on an operation in the wrong direction. `serve` is the loop that all functions share; what a
function makes of an event is its `EventHandler`.

The programs ask where the source makes a system call or waits. `Served` is the state that they
have, the field of `Custom` and the handler.
-/

set_option autoImplicit false

namespace SummitUsbgadget.FunctionFs

open SummitUsbgadget.Lib
open SummitUsbgadget.DfuFunction (CtrlReq)

/-- `EL2HLT`, the error number of FunctionFS for a stalled endpoint zero. -/
def errnoL2hlt : Nat := 51

inductive Direction where
  | deviceToHost
  | hostToDevice
  deriving DecidableEq, Repr

/-- The direction bit of a request. -/
def direction (req : CtrlReq) : Direction :=
  if req.requestType &&& 0x80 ≠ 0 then .deviceToHost else .hostToDevice

/-! ## Events -/

/-- `read_u16::<LE>`. -/
def u16FromLeBytes (lo hi : UInt8) : UInt16 := UInt16.ofNat (lo.toNat + 256 * hi.toNat)

/-- `CtrlReq::parse`, of the eight bytes of an event. A shorter slice would be a panic. -/
def parseCtrlReq (data : Vector UInt8 8) : CtrlReq :=
  ⟨data[0], data[1], u16FromLeBytes data[2] data[3], u16FromLeBytes data[4] data[5],
    u16FromLeBytes data[6] data[7]⟩

/-- `ffs::Event`. -/
structure RawEvent where
  data : Vector UInt8 8
  eventType : UInt8
  deriving DecidableEq, Repr

/-- `ffs::Event::SIZE`. -/
def RawEvent.size : Nat := 12

/-- `ffs::Event::parse`, of a buffer that was filled. -/
def RawEvent.parse (buf : Bytes) (hsize : buf.length = RawEvent.size) : RawEvent where
  data := ⟨(buf.take 8).toArray, by simp [hsize, RawEvent.size]⟩
  eventType := buf.get ⟨8, hsize.symm ▸ (by decide : 8 < RawEvent.size)⟩

/-! `ffs::event`. -/

namespace EventType

def bind : UInt8 := 0
def unbind : UInt8 := 1
def enable : UInt8 := 2
def disable : UInt8 := 3
def setup : UInt8 := 4
def suspend : UInt8 := 5
def resume : UInt8 := 6

end EventType

/-- `Event`; a request stands for the sender or the receiver that it is handed out with. -/
inductive Event where
  | bind
  | unbind
  | enable
  | disable
  | suspend
  | resume
  | setupHostToDevice (req : CtrlReq)
  | setupDeviceToHost (req : CtrlReq)
  | unknown (eventType : UInt8)
  deriving DecidableEq, Repr

/-- `Event::from_ffs`. -/
def Event.fromFfs (raw : RawEvent) : Event :=
  if raw.eventType = EventType.bind then .bind
  else if raw.eventType = EventType.unbind then .unbind
  else if raw.eventType = EventType.enable then .enable
  else if raw.eventType = EventType.disable then .disable
  else if raw.eventType = EventType.suspend then .suspend
  else if raw.eventType = EventType.resume then .resume
  else if raw.eventType = EventType.setup then
    let req := parseCtrlReq raw.data
    match direction req with
    | .deviceToHost => .setupDeviceToHost req
    | .hostToDevice => .setupHostToDevice req
  else .unknown raw.eventType

/-- What `from_ffs` leaves in `setup_event`. -/
def Event.setupEvent (before : Option Direction) : Event → Option Direction
  | .setupDeviceToHost _ => some .deviceToHost
  | .setupHostToDevice _ => some .hostToDevice
  | _ => before

/-! ## Programs on endpoint zero -/

/-- What a program asks for. -/
inductive Query where
  /-- The file of endpoint zero; it goes with the gadget. -/
  | ep0
  | read (len : Nat)
  | write (data : Bytes)
  /-- Endpoint zero is readable. -/
  | readable
  /-- The same, for a number of milliseconds at most. -/
  | readableWithin (limit : Nat)
  /-- What the handler sees of its surroundings. -/
  | look
  deriving DecidableEq, Repr

/-- The answers; `V` is what a handler sees. A wait that has a limit may elapse. -/
@[reducible] def Query.Answer (V : Type) : Query → Type
  | .ep0 => Except IoError Unit
  | .read _ => Except IoError Bytes
  | .write _ => Except IoError Nat
  | .readable => Except IoError Unit
  | .readableWithin _ => Option (Except IoError Unit)
  | .look => V

/-- `setup_event` of `Custom`, and the handler. -/
structure Served (H : Type) where
  setupEvent : Option Direction
  handler : H

abbrev Async (H V α : Type) := Program (Served H) Query (Query.Answer V) α

section Programs

variable {H V : Type}

/-- Puts a query. -/
def ask (q : Query) : Async H V (Query.Answer V q) := Program.ask q

/-- `Custom::ep0`. -/
def ep0 : Async H V (Except IoError Unit) := ask .ep0

def setSetupEvent (d : Option Direction) : Async H V Unit :=
  Program.update fun s => { s with setupEvent := d }

/-- An operation in the wrong direction: it stalls the endpoint, and the error that says so is
expected. -/
def stall : Direction → Async H V (Except IoError Unit)
  | .deviceToHost => do
      let read : Except IoError Bytes ← ask (.read 1)
      match read with
      | .ok _ => pure (.ok ())
      | .error err => pure (if err.rawOsError = some errnoL2hlt then .ok () else .error err)
  | .hostToDevice => do
      let written : Except IoError Nat ← ask (.write [0])
      match written with
      | .ok _ => pure (.ok ())
      | .error err => pure (if err.rawOsError = some errnoL2hlt then .ok () else .error err)

/-- `Custom::clear_prev_event`: a request that was forgotten is stalled. -/
def clearPrevEvent : Async H V (Except IoError Unit) :=
  Program.attempt ep0 fun _ => do
    let prev ← Program.read fun s => s.setupEvent
    setSetupEvent none
    match prev with
    | some d => stall d
    | none => pure (.ok ())

/-- `Custom::read_event`. -/
def readEvent : Async H V (Except IoError Event) :=
  Program.attempt ep0 fun _ =>
    Program.attempt (ask (.read RawEvent.size)) fun buf =>
      if hsize : buf.length = RawEvent.size then do
        let event := Event.fromFfs (RawEvent.parse buf hsize)
        Program.update fun s => { s with setupEvent := event.setupEvent s.setupEvent }
        pure (.ok event)
      else pure (.error (IoError.new .invalidData "invalid event size"))

/-- The error of a wait that has elapsed. -/
def endpointZeroIdle : IoError := IoError.new .timedOut "endpoint zero idle"

/-- `Custom::wait_event`, and the limit that `serve` sets to it. -/
def waitEvent (limit : Option Nat) : Async H V (Except IoError Unit) :=
  Program.attempt ep0 fun _ =>
    match limit with
    | none => ask .readable
    | some ms => do
        let ready : Option (Except IoError Unit) ← ask (.readableWithin ms)
        pure (ready.getD (.error endpointZeroIdle))

/-- `Ep0Events::next`. Only the wait can be cut off by the limit, and it changes nothing. -/
def next (limit : Option Nat) : Async H V (Except IoError Event) :=
  Program.attempt clearPrevEvent fun _ =>
    Program.attempt (waitEvent limit) fun _ => readEvent

/-! ## Senders and receivers -/

/-- `do_halt` of a sender or of a receiver. -/
def doHalt (d : Direction) : Async H V (Except IoError Unit) :=
  Program.attempt ep0 fun _ =>
    Program.attempt (stall d) fun _ => do
      setSetupEvent none
      pure (.ok ())

/-- `Drop` of a sender or of a receiver. -/
def dropRequest (d : Direction) : Async H V Unit := do
  let setupEvent ← Program.read fun s => s.setupEvent
  if setupEvent.isSome then do
    let _ ← doHalt d
    pure ()
  else pure ()

/-- `CtrlSender::send_async`; the sender is dropped at its end. -/
def sendAsync (data : Bytes) : Async H V (Except IoError Nat) := do
  let sent ← Program.attempt ep0 fun _ => do
    setSetupEvent none
    ask (.write data)
  dropRequest .deviceToHost
  pure sent

/-- `CtrlReceiver::recv_async` into a buffer of `len` bytes; the receiver is dropped at its end. -/
def recvAsync (len : Nat) : Async H V (Except IoError Bytes) := do
  let received ← Program.attempt ep0 fun _ => do
    setSetupEvent none
    let data : Except IoError Bytes ← ask (.read len)
    pure (data.map (List.take len))
  dropRequest .hostToDevice
  pure received

/-- `CtrlReceiver::recv_all_async`. -/
def recvAllAsync (req : CtrlReq) : Async H V (Except IoError Bytes) := recvAsync req.length.toNat

/-! ## The loop -/

/-- `EventHandler`. -/
structure EventHandler (H V : Type) where
  idleTimeout : H → Option Nat
  handleEvent : Event → Async H V (Except IoError Unit)
  onIdleTimeout : H → H
  onTransportClosed : H → H

def updateHandler (f : H → H) : Async H V Unit :=
  Program.update fun s => { s with handler := f s.handler }

/-- A part of a handler that asks for nothing. -/
def act {α : Type} (f : H → α × H) : Async H V α := do
  let r ← Program.read fun s => f s.handler
  updateHandler fun _ => r.2
  pure r.1

/-- `Ep0Events::new`: the loop runs if endpoint zero is there. -/
def start : Async H V Bool := do
  let file : Except IoError Unit ← ep0
  pure file.isOk

/-- What the loop does with an error of `Ep0Events::next`; it ends when endpoint zero is gone. -/
def onError (h : EventHandler H V) (err : IoError) : Async H V Bool :=
  if isTornDownTransportError err then do
    updateHandler h.onTransportClosed
    pure false
  else if isSetupSupersededError err then pure true
  else if err.kind = .timedOut then do
    updateHandler h.onIdleTimeout
    pure true
  else pure true

/-- One round of `serve`; errors of the handler are logged. -/
def serveStep (h : EventHandler H V) : Async H V Bool := do
  let limit ← Program.read fun s => h.idleTimeout s.handler
  let step ← next limit
  match step with
  | .ok event => do
      let _ ← h.handleEvent event
      pure true
  | .error err => onError h err

end Programs

end SummitUsbgadget.FunctionFs
