import SummitUsbgadget.Base
import SummitUsbgadget.Lib.BytesMut
import SummitUsbgadget.Lib.Keyed
import SummitUsbgadget.Lib.Machine

/-!
# The AIO driver of an endpoint

`aio/mod.rs`: the owner of a `Driver` submits operations to the kernel and takes their completions
from a channel; a thread keeps the operations, with the buffers that the kernel writes to, until
they are complete. Owner, thread and kernel run side by side. Every action that one of them takes
without looking at shared state twice is one `Act`, so a list of actions is one interleaving. What
the kernel answers is part of the action, and an action that its actor cannot take now changes
nothing.

The owner is where it can be seen by the others: `submit` sends `Insert` before `io_submit`, and
writes to the eventfd after it. The last fields of `World` are ghosts.
-/

set_option autoImplicit false

namespace SummitUsbgadget.Aio

open SummitUsbgadget.Lib

/-! ## Operations and their results -/

/-- `Buffer`. -/
inductive Buffer where
  | write (data : Bytes)
  | read (buf : BytesMut UInt8)

/-- `Buffer::size`, the length or the capacity. -/
def Buffer.size : Buffer → Nat
  | .write data => data.length
  | .read buf => buf.capacity

/-- `Op`: the control block and the buffer that it points to. -/
structure Op where
  /-- `iocb.data`, the id. -/
  data : Nat
  opcode : Nat
  fildes : Nat
  buf : Buffer

/-- What the kernel says of an operation: the two results, and what it has written to a read
buffer. -/
structure Report where
  res : Int
  res2 : Int
  memory : Bytes
  deriving DecidableEq, Repr

/-- `IoEvent`, with the memory that came with it. -/
structure IoEvent where
  data : Nat
  report : Report
  deriving DecidableEq, Repr

/-- `CompletedOp`. -/
structure CompletedOp where
  id : Nat
  res : Int
  res2 : Int
  result : Except IoError Buffer

/-- The kind that `io::Error` gives to an error number. -/
def kindOfErrno (errno : Nat) : ErrorKind :=
  if errno = 107 then .notConnected
  else if errno = 32 then .brokenPipe
  else if errno = 4 then .interrupted
  else if errno = errnoAgain then .wouldBlock
  else if errno = 110 then .timedOut
  else if errno = 22 then .invalidInput
  else if errno = 2 then .notFound
  else .other

/-- `io::Error::from_raw_os_error`. -/
def fromRawOsError (errno : Nat) : IoError :=
  ⟨kindOfErrno errno, some errno, s!"os error {errno}"⟩

/-- `i32::MAX`. -/
def i32Max : Nat := 2147483647

/-- `assume_init`: a read buffer has the length that the kernel reports. -/
def Buffer.assumeInit (memory : Bytes) : Buffer → Buffer
  | .write data => .write data
  | .read buf => .read (BytesMut.filled buf.capacity memory)

/-- `Op::complete`; `none` is the failed assertion that the event belongs to the operation. -/
def Op.complete (op : Op) (event : IoEvent) : Option CompletedOp :=
  if event.data = op.data then
    some {
      id := event.data
      res := event.report.res
      res2 := event.report.res2
      result :=
        if 0 ≤ event.report.res then .ok (op.buf.assumeInit event.report.memory)
        else .error (fromRawOsError (min event.report.res.natAbs i32Max)) }
  else none

/-- The kernel transfers no more than the control block says, which is the size of the buffer, and
writes to read buffers only. -/
def Op.fits (op : Op) (r : Report) : Bool :=
  r.res < 0 || decide (r.res ≤ op.buf.size) &&
    match op.buf with
    | .write _ => r.memory.isEmpty
    | .read _ => decide ((r.memory.length : Int) = r.res)

/-! ## The state -/

/-- `Cmd`. -/
inductive Cmd where
  | insert (op : Op)
  | remove (id : Nat)
  | cancel (id : Nat)
  | cancelAll

/-- Where the owner of the driver is. -/
inductive Owner where
  | idle
  /-- In `submit`: `Insert` is sent, `io_submit` comes next. -/
  | inserted (op : Op)
  /-- In `submit`: the kernel did not accept the operation, `Remove` comes next. -/
  | refused (id : Nat) (err : IoError)
  /-- The eventfd is written next; `submit` then returns its answer. -/
  | signalling (answer : Option (Except IoError Nat))
  /-- In `wait_completed`: a look at the channel comes next. -/
  | polling
  /-- In `wait_completed`, waiting to be notified. -/
  | awaiting
  /-- In `drop`: `CancelAll` is sent, the eventfd is written next. -/
  | dropping
  /-- In `drop`: the channels are closed next. -/
  | closing
  | gone

/-- Where the thread is in its loop. -/
inductive Place where
  | waiting
  | commands
  /-- In `CancelAll`, with the operations that it has not looked at. -/
  | cancelling (todo : List Nat)
  | fetching
  | events
  | exited
  | panicked
  deriving DecidableEq, Repr

structure World where
  -- `Driver`
  nextId : Nat
  space : Nat
  queueLength : Nat
  owner : Owner
  -- between the owner and the thread
  cmds : List Cmd
  done : List CompletedOp
  permit : Bool
  eventfd : Nat
  -- the thread
  place : Place
  /-- A completion was sent and the waiter is notified next. -/
  owes : Bool
  active : List Op
  eventQueue : List IoEvent
  -- the kernel's AIO context
  outstanding : List Op
  ring : List IoEvent
  /-- Events in the ring for which the eventfd was not written yet. -/
  unsignalled : Nat
  -- what happened so far
  /-- The operations that `submit` has given an id. -/
  offered : List Op
  /-- The operations that the kernel has accepted. -/
  accepted : List Op
  /-- The answers of `submit`. -/
  answers : List (Except IoError Nat)
  /-- The events that were put into the ring. -/
  posted : List IoEvent
  /-- The events that the thread has found the operation for. -/
  harvested : List IoEvent
  /-- The ids of the operations that `io_cancel` has ended. -/
  cancelled : List Nat
  /-- The completions that the thread has sent. -/
  delivered : List CompletedOp
  /-- The completions that the owner has received. -/
  retrieved : List CompletedOp

namespace World

/-- `Driver::new`, with the thread at the start of its loop. -/
def new (queueLength : Nat) : World where
  nextId := 0
  space := queueLength
  queueLength := queueLength
  owner := .idle
  cmds := []
  done := []
  permit := false
  eventfd := 0
  place := .waiting
  owes := false
  active := []
  eventQueue := []
  outstanding := []
  ring := []
  unsignalled := 0
  offered := []
  accepted := []
  answers := []
  posted := []
  harvested := []
  cancelled := []
  delivered := []
  retrieved := []

def isFull (s : World) : Bool := s.space == 0

def isEmpty (s : World) : Bool := s.space == s.queueLength

/-- The owner's ends of the channels are open. -/
def connected (s : World) : Bool :=
  match s.owner with
  | .gone => false
  | _ => true

/-! ## The owner -/

/-- `submit` up to the command. -/
def submit (opcode fildes : Nat) (buf : Buffer) (s : World) : World :=
  if s.isFull then
    { s with answers := s.answers ++ [.error (.new .wouldBlock "no AIO queue space available")] }
  else
    let op : Op := ⟨s.nextId, opcode, fildes, buf⟩
    { s with
      nextId := (s.nextId + 1) % UInt64.size
      cmds := s.cmds ++ [.insert op]
      owner := .inserted op
      offered := s.offered ++ [op] }

/-- `io_submit`: the number of accepted operations, or the error. -/
def ioSubmit (op : Op) (answer : Except IoError Nat) (s : World) : World :=
  match answer with
  | .ok 1 =>
      { s with
        space := s.space - 1
        owner := .signalling (some (.ok op.data))
        outstanding := s.outstanding ++ [op]
        accepted := s.accepted ++ [op] }
  | .ok _ => { s with owner := .refused op.data (.new .wouldBlock "AIO request not accepted") }
  | .error err => { s with owner := .refused op.data err }

/-- The command that takes a refused operation back. -/
def sendRemove (id : Nat) (err : IoError) (s : World) : World :=
  { s with cmds := s.cmds ++ [.remove id], owner := .signalling (some (.error err)) }

/-- `cancel` and `cancel_all` up to the command. -/
def sendCancel (cmd : Cmd) (s : World) : World :=
  { s with cmds := s.cmds ++ [cmd], owner := .signalling none }

/-- The write to the eventfd, at the end of `submit`, `cancel` and `cancel_all`. -/
def signal (answer : Option (Except IoError Nat)) (s : World) : World :=
  { s with eventfd := s.eventfd + 1, owner := .idle, answers := s.answers ++ answer.toList }

/-- A completion is taken from the channel. -/
def receive (c : CompletedOp) (rest : List CompletedOp) (s : World) : World :=
  { s with
    done := rest
    space := s.space + 1
    owner := .idle
    retrieved := s.retrieved ++ [c] }

/-- `try_completed`. -/
def tryCompleted (s : World) : World :=
  match s.done with
  | [] => s
  | c :: rest => s.receive c rest

/-- `completed` and `completed_timeout`, which wait for a completion if one is due. -/
def completed (s : World) : World :=
  if s.isEmpty then s else s.tryCompleted

/-- The look at the channel in the loop of `wait_completed`. -/
def poll (s : World) : World :=
  match s.done with
  | [] => { s with owner := .awaiting }
  | c :: rest => s.receive c rest

/-! ## The thread -/

/-- A completion is sent to the owner; a channel that is closed takes nothing. -/
def send (c : CompletedOp) (s : World) : World :=
  { s with
    done := if s.connected then s.done ++ [c] else s.done
    owes := true
    delivered := s.delivered ++ [c] }

/-- The operation is complete; the thread ends if the event is not its own. -/
def finish (op : Op) (event : IoEvent) (s : World) : World :=
  match op.complete event with
  | some c => s.send c
  | none => { s with place := .panicked }

/-- `io_cancel` for one operation. The kernel ends an operation that it still has, or declines. -/
def cancelOne (id : Nat) (answer : Option Report) (s : World) : World :=
  match pull Op.data id s.active, pull Op.data id s.outstanding, answer with
  | some (op, active), some (taken, outstanding), some r =>
      if taken.fits r then
        ({ s with
          active := active
          outstanding := outstanding
          cancelled := s.cancelled ++ [id] }).finish op ⟨id, r⟩
      else s
  | _, _, _ => s

/-- One round of the loop over the commands. -/
def command (answer : Option Report) (s : World) : World :=
  match s.cmds with
  | [] =>
      if !s.connected && s.active.isEmpty then { s with place := .exited }
      else { s with place := .fetching }
  | .insert op :: cmds =>
      match pull Op.data op.data s.active with
      | some _ => { s with cmds := cmds, place := .panicked }
      | none => { s with cmds := cmds, active := op :: s.active }
  | .remove id :: cmds =>
      match pull Op.data id s.active with
      | some (_, active) => { s with cmds := cmds, active := active }
      | none => { s with cmds := cmds, place := .panicked }
  | .cancel id :: cmds => ({ s with cmds := cmds }).cancelOne id answer
  | .cancelAll :: cmds => { s with cmds := cmds, place := .cancelling (s.active.map Op.data) }

/-- One operation of `CancelAll`; the order of a hash map is any order. -/
def cancelNext (id : Nat) (answer : Option Report) (todo : List Nat) (s : World) : World :=
  if id ∈ todo then ({ s with place := .cancelling (todo.erase id) }).cancelOne id answer
  else s

/-- `io_getevents`, for up to 16 events. -/
def getevents (s : World) : World :=
  if s.ring.isEmpty then { s with place := .events }
  else { s with eventQueue := s.eventQueue ++ s.ring.take 16, ring := s.ring.drop 16 }

/-- One round of the loop over the events: it ends at an event whose operation is not known yet. -/
def event (s : World) : World :=
  match s.eventQueue with
  | [] => { s with place := .waiting }
  | e :: rest =>
      match pull Op.data e.data s.active with
      | none => { s with place := .waiting }
      | some (op, active) =>
          ({ s with
            active := active
            eventQueue := rest
            harvested := s.harvested ++ [e] }).finish op e

/-! ## The kernel -/

/-- An operation ends: its event is put into the ring. -/
def complete (id : Nat) (r : Report) (s : World) : World :=
  match pull Op.data id s.outstanding with
  | some (op, outstanding) =>
      if op.fits r then
        { s with
          outstanding := outstanding
          ring := s.ring ++ [⟨id, r⟩]
          unsignalled := s.unsignalled + 1
          posted := s.posted ++ [⟨id, r⟩] }
      else s
  | none => s

end World

/-! ## Interleavings -/

/-- The actions of owner, thread and kernel. -/
inductive Act where
  -- the owner
  | submit (opcode fildes : Nat) (buf : Buffer)
  | ioSubmit (answer : Except IoError Nat)
  | sendRemove
  | cancel (id : Nat)
  | cancelAll
  | signal
  | tryCompleted
  | completed
  | waitCompleted
  | poll
  | notified
  /-- The future of `wait_completed` is dropped. -/
  | abandon
  | drop
  | dropSignal
  | close
  -- the thread
  | wake
  | command (answer : Option Report)
  | cancelNext (id : Nat) (answer : Option Report)
  | cancelEnd
  | notify
  | getevents
  | event
  -- the kernel
  | complete (id : Nat) (r : Report)
  | signalled

open World

/-- One action. -/
def step (s : World) : Act → World
  | .submit opcode fildes buf =>
      match s.owner with
      | .idle => s.submit opcode fildes buf
      | _ => s
  | .ioSubmit answer =>
      match s.owner with
      | .inserted op => s.ioSubmit op answer
      | _ => s
  | .sendRemove =>
      match s.owner with
      | .refused id err => s.sendRemove id err
      | _ => s
  | .cancel id =>
      match s.owner with
      | .idle => s.sendCancel (.cancel id)
      | _ => s
  | .cancelAll =>
      match s.owner with
      | .idle => s.sendCancel .cancelAll
      | _ => s
  | .signal =>
      match s.owner with
      | .signalling answer => s.signal answer
      | _ => s
  | .tryCompleted =>
      match s.owner with
      | .idle => s.tryCompleted
      | _ => s
  | .completed =>
      match s.owner with
      | .idle => s.completed
      | _ => s
  | .waitCompleted =>
      match s.owner with
      | .idle => if s.isEmpty then s else { s with owner := .polling }
      | _ => s
  | .poll =>
      match s.owner with
      | .polling => s.poll
      | _ => s
  | .notified =>
      match s.owner, s.permit with
      | .awaiting, true => { s with owner := .polling, permit := false }
      | _, _ => s
  | .abandon =>
      match s.owner with
      | .awaiting => { s with owner := .idle }
      | _ => s
  | .drop =>
      match s.owner with
      | .idle => { s with cmds := s.cmds ++ [.cancelAll], owner := .dropping }
      | _ => s
  | .dropSignal =>
      match s.owner with
      | .dropping => { s with eventfd := s.eventfd + 1, owner := .closing }
      | _ => s
  | .close =>
      match s.owner with
      | .closing => { s with owner := .gone, done := [] }
      | _ => s
  | .wake =>
      match s.place with
      | .waiting => if 0 < s.eventfd then { s with eventfd := 0, place := .commands } else s
      | _ => s
  | .command answer =>
      match s.place, s.owes with
      | .commands, false => s.command answer
      | _, _ => s
  | .cancelNext id answer =>
      match s.place, s.owes with
      | .cancelling todo, false => s.cancelNext id answer todo
      | _, _ => s
  | .cancelEnd =>
      match s.place, s.owes with
      | .cancelling [], false => { s with place := .commands }
      | _, _ => s
  | .notify => if s.owes then { s with owes := false, permit := true } else s
  | .getevents =>
      match s.place with
      | .fetching => s.getevents
      | _ => s
  | .event =>
      match s.place, s.owes with
      | .events, false => s.event
      | _, _ => s
  | .complete id r => s.complete id r
  | .signalled =>
      if 0 < s.unsignalled then
        { s with unsignalled := s.unsignalled - 1, eventfd := s.eventfd + 1 }
      else s

/-- Everything that an action can do. -/
inductive Moves (s : World) : World → Prop
  | stay : Moves s s
  | submit (opcode fildes : Nat) (buf : Buffer) (howner : s.owner = .idle) :
      Moves s (s.submit opcode fildes buf)
  | ioSubmit (op : Op) (answer : Except IoError Nat) (howner : s.owner = .inserted op) :
      Moves s (s.ioSubmit op answer)
  | sendRemove (id : Nat) (err : IoError) (howner : s.owner = .refused id err) :
      Moves s (s.sendRemove id err)
  | cancel (id : Nat) (howner : s.owner = .idle) : Moves s (s.sendCancel (.cancel id))
  | cancelAll (howner : s.owner = .idle) : Moves s (s.sendCancel .cancelAll)
  | signal (answer : Option (Except IoError Nat)) (howner : s.owner = .signalling answer) :
      Moves s (s.signal answer)
  | receive (c : CompletedOp) (rest : List CompletedOp)
      (howner : s.owner = .idle ∨ s.owner = .polling)
      (hdone : s.done = c :: rest) : Moves s (s.receive c rest)
  | waitCompleted (howner : s.owner = .idle) : Moves s { s with owner := .polling }
  | park (howner : s.owner = .polling) (hdone : s.done = []) : Moves s { s with owner := .awaiting }
  | notified (howner : s.owner = .awaiting) (hpermit : s.permit = true) :
      Moves s { s with owner := .polling, permit := false }
  | abandon (howner : s.owner = .awaiting) : Moves s { s with owner := .idle }
  | drop (howner : s.owner = .idle) :
      Moves s { s with cmds := s.cmds ++ [.cancelAll], owner := .dropping }
  | dropSignal (howner : s.owner = .dropping) :
      Moves s { s with eventfd := s.eventfd + 1, owner := .closing }
  | close (howner : s.owner = .closing) : Moves s { s with owner := .gone, done := [] }
  | wake (hplace : s.place = .waiting) (heventfd : 0 < s.eventfd) :
      Moves s { s with eventfd := 0, place := .commands }
  | command (answer : Option Report) (hplace : s.place = .commands) (howes : s.owes = false) :
      Moves s (s.command answer)
  | cancelNext (id : Nat) (answer : Option Report) (todo : List Nat)
      (hplace : s.place = .cancelling todo) (howes : s.owes = false) :
      Moves s (s.cancelNext id answer todo)
  | cancelEnd (hplace : s.place = .cancelling []) (howes : s.owes = false) :
      Moves s { s with place := .commands }
  | notify (howes : s.owes = true) : Moves s { s with owes := false, permit := true }
  | getevents (hplace : s.place = .fetching) : Moves s s.getevents
  | event (hplace : s.place = .events) (howes : s.owes = false) : Moves s s.event
  | complete (id : Nat) (r : Report) : Moves s (s.complete id r)
  | signalled (h : 0 < s.unsignalled) :
      Moves s { s with unsignalled := s.unsignalled - 1, eventfd := s.eventfd + 1 }

theorem moves_tryCompleted {s : World} (howner : s.owner = .idle) : Moves s s.tryCompleted := by
  unfold World.tryCompleted
  split
  · exact .stay
  · next c rest hdone => exact .receive c rest (.inl howner) hdone

theorem moves_step (s : World) (act : Act) : Moves s (step s act) := by
  cases act with
  | submit opcode fildes buf =>
      simp only [step]
      split
      · exact .submit _ _ _ ‹_›
      · exact .stay
  | ioSubmit answer =>
      simp only [step]
      split
      · exact .ioSubmit _ _ ‹_›
      · exact .stay
  | sendRemove =>
      simp only [step]
      split
      · exact .sendRemove _ _ ‹_›
      · exact .stay
  | cancel id =>
      simp only [step]
      split
      · exact .cancel _ ‹_›
      · exact .stay
  | cancelAll =>
      simp only [step]
      split
      · exact .cancelAll ‹_›
      · exact .stay
  | signal =>
      simp only [step]
      split
      · exact .signal _ ‹_›
      · exact .stay
  | tryCompleted =>
      simp only [step]
      split
      · exact moves_tryCompleted ‹_›
      · exact .stay
  | completed =>
      simp only [step, World.completed]
      split
      · split
        · exact .stay
        · exact moves_tryCompleted ‹_›
      · exact .stay
  | waitCompleted =>
      simp only [step]
      split
      · split
        · exact .stay
        · exact .waitCompleted ‹_›
      · exact .stay
  | poll =>
      simp only [step]
      split
      · next howner =>
          unfold World.poll
          split
          · exact .park howner ‹_›
          · exact .receive _ _ (.inr howner) ‹_›
      · exact .stay
  | notified =>
      simp only [step]
      split
      · exact .notified ‹_› ‹_›
      · exact .stay
  | abandon =>
      simp only [step]
      split
      · exact .abandon ‹_›
      · exact .stay
  | drop =>
      simp only [step]
      split
      · exact .drop ‹_›
      · exact .stay
  | dropSignal =>
      simp only [step]
      split
      · exact .dropSignal ‹_›
      · exact .stay
  | close =>
      simp only [step]
      split
      · exact .close ‹_›
      · exact .stay
  | wake =>
      simp only [step]
      split
      · split
        · exact .wake ‹_› ‹_›
        · exact .stay
      · exact .stay
  | command answer =>
      simp only [step]
      split
      · exact .command _ ‹_› ‹_›
      · exact .stay
  | cancelNext id answer =>
      simp only [step]
      split
      · exact .cancelNext _ _ _ ‹_› ‹_›
      · exact .stay
  | cancelEnd =>
      simp only [step]
      split
      · exact .cancelEnd ‹_› ‹_›
      · exact .stay
  | notify =>
      simp only [step]
      split
      · exact .notify ‹_›
      · exact .stay
  | getevents =>
      simp only [step]
      split
      · exact .getevents ‹_›
      · exact .stay
  | event =>
      simp only [step]
      split
      · exact .event ‹_› ‹_›
      · exact .stay
  | complete id r => exact .complete id r
  | signalled =>
      simp only [step]
      split
      · exact .signalled ‹_›
      · exact .stay

end SummitUsbgadget.Aio
