import SummitUsbgadget.Base

/-!
# The SWUpdate session

`SwupdateSession` owns one transfer into SWUpdate: a sender into the bounded block queue, the
handle of the status task and the cached verdict. The queue, the status task and the
process-wide restart flag change on their own; every operation therefore takes the `View` it
has of them at the moment it runs. A theorem over all views covers every schedule of the drain
task, the status task and the other sessions.

`Session.history` is a ghost field: it lists what the session did to the outside, in order.
-/

set_option autoImplicit false

namespace SummitUsbgadget.Swupdate

/-- `BootRootfsInfo`, less the hardware part number, which no session operation reads. -/
structure BootRootfsInfo where
  rootDevType : String
  currentSide : String
  deriving DecidableEq, Repr

namespace BootRootfsInfo

def isRunningOnSd (info : BootRootfsInfo) : Bool := info.rootDevType == "SD"

def isRunningOnInitramfs (info : BootRootfsInfo) : Bool := info.rootDevType == "initramfs"

def isSingleSlot (info : BootRootfsInfo) : Bool :=
  info.isRunningOnSd || info.isRunningOnInitramfs

def usePipeMode (info : BootRootfsInfo) : Bool := info.isSingleSlot

/-- The running side, when it is one of the two known sides. -/
def currentSideOption (info : BootRootfsInfo) : Option String :=
  if info.currentSide = "a" ∨ info.currentSide = "b" then some info.currentSide else none

end BootRootfsInfo

/-- The side that is not running; an unknown side counts as `a`. -/
def inactiveSide (currentSide : Option String) : String :=
  if currentSide.getD "a" = "a" then "b" else "a"

/-- `SwupdateParams`; the timeout is in seconds. -/
structure SwupdateParams where
  softwareSet : Option String
  imageMode : Option String
  dryRun : Bool
  disableStoreSwu : Bool
  timeout : Nat
  deriving DecidableEq, Repr

/-- `SwupdateParams::default`. -/
def SwupdateParams.default : SwupdateParams := ⟨none, none, false, true, 600⟩

inductive EffectiveUpdateType where
  | complete
  | slot (runningMode : String)
  deriving DecidableEq, Repr

namespace EffectiveUpdateType

/-- A single-slot boot gets a complete update; otherwise the inactive slot is written. -/
def resolve (params : SwupdateParams) (info : BootRootfsInfo) : EffectiveUpdateType :=
  if info.isRunningOnSd || info.isRunningOnInitramfs then .complete
  else .slot (params.imageMode.getD "full" ++ "-" ++ inactiveSide info.currentSideOption)

def isComplete : EffectiveUpdateType → Bool
  | .complete => true
  | .slot _ => false

/-- The mode string handed to the backend. -/
def runningMode : EffectiveUpdateType → String
  | .complete => "complete"
  | .slot mode => mode

end EffectiveUpdateType

def targetQueueBytes : Nat := 2 * 1024 * 1024

/-- Blocks allowed in the queue, at least two. -/
def queueCapacity (blockSize : Nat) : Nat :=
  max ((targetQueueBytes + max blockSize 1 - 1) / max blockSize 1) 2

/-- Result of feeding a block into the queue. -/
inductive Feed where
  | ok (len : Nat)
  | full (item : Bytes)
  | closed
  deriving DecidableEq, Repr

/-- The queue as a sender meets it: room for a block, no room, or no receiver any more. -/
inductive QueueView where
  | room
  | full
  | closed
  deriving DecidableEq, Repr

/-- Outcome of joining the status task: its own result, or the text of a `JoinError`. -/
inductive Joined where
  | done (result : Except IoError Unit)
  | panicked (text : String)

/-- What one operation can see of the world outside the session: `RESTART_PENDING`, the boot
information, the queue of the current transfer and its status task, `none` while it runs. -/
structure View where
  restartPending : Bool
  bootInfo : BootRootfsInfo
  queue : QueueView
  task : Option Joined

/-- The backend that `stream::spawn` is asked for. -/
structure BackendSpec where
  usePipe : Bool
  runningMode : String
  capacity : Nat
  deriving DecidableEq, Repr

/-- What a session did to the outside. Transfers of one session are numbered from `0`.
A block answered `Feed::Ok` is `fed`, one answered `Feed::Closed` is `discarded`. -/
inductive SessionEvent where
  | spawned (transfer : Nat) (spec : BackendSpec)
  | fed (transfer : Nat) (block : Bytes)
  | discarded (block : Bytes)
  | eof (transfer : Nat)
  | aborted
  | restartTask (updateType : EffectiveUpdateType)
  deriving DecidableEq, Repr

/-- `SwupdateSession`. The sender, the recycle receiver and the status handle are named by the
number of the transfer they belong to; `spawns` counts the transfers and `history` records what
was done with them. -/
structure Session where
  params : SwupdateParams
  maxBlockSize : Nat
  updateType : Option EffectiveUpdateType
  tx : Option Nat
  recycleRx : Option Nat
  status : Option Nat
  terminal : Option (Except String Unit)
  spawns : Nat
  history : List SessionEvent

/-- The error of a session that must not open any more. -/
def restartPendingError : IoError :=
  IoError.other "restart pending after successful SWUpdate; rejecting new update"

/-- `restart::reject_if_restart_pending`. -/
def rejectIfRestartPending (restartPending : Bool) : Except IoError Unit :=
  if restartPending then .error restartPendingError else .ok ()

namespace Session

def new (params : SwupdateParams) (maxBlockSize : Nat) : Session where
  params := params
  maxBlockSize := maxBlockSize
  updateType := none
  tx := none
  recycleRx := none
  status := none
  terminal := none
  spawns := 0
  history := []

/-- A transfer is active: feeding, or awaiting its verdict. -/
def isOpen (s : Session) : Bool := s.tx.isSome || s.status.isSome

/-- Appends to the ghost history. -/
def record (s : Session) (e : SessionEvent) : Session := { s with history := s.history ++ [e] }

/-- The part of `open` behind the gates: resolve the update type, spawn the tasks of a new
transfer and keep its handles. -/
def spawn (v : View) (s : Session) : Session :=
  let updateType := EffectiveUpdateType.resolve s.params v.bootInfo
  let spec : BackendSpec :=
    ⟨v.bootInfo.usePipeMode, updateType.runningMode, queueCapacity s.maxBlockSize⟩
  { s with
    updateType := some updateType
    tx := some s.spawns
    recycleRx := some s.spawns
    status := some s.spawns
    spawns := s.spawns + 1
    history := s.history ++ [.spawned s.spawns spec] }

/-- `SwupdateSession::open`. -/
def openSession (v : View) (s : Session) : Except IoError Unit × Session :=
  if s.isOpen then (.ok (), s)
  else
    -- the verdict of the transfer before is forgotten even if this one is rejected
    let s := { s with terminal := none }
    match rejectIfRestartPending v.restartPending with
    | .error err => (.error err, s)
    | .ok () => (.ok (), s.spawn v)

/-- Opens lazily, unless a transfer is active or its verdict is still cached. -/
def ensureOpen (v : View) (s : Session) : Except IoError Unit × Session :=
  if s.tx.isSome || s.status.isSome || s.terminal.isSome then (.ok (), s)
  else s.openSession v

/-! ## Feed side -/

/-- The outcome of putting `item` into the queue of the sender, once the queue has shown
itself as `q`. A sender that finds no receiver is dropped. -/
def offer (q : QueueView) (item : Bytes) (s : Session) : Feed × Session :=
  match s.tx with
  | none => (.closed, s.record (.discarded item))
  | some transfer =>
      match q with
      | .room => (.ok item.length, s.record (.fed transfer item))
      | .full => (.full item, s)
      | .closed => (.closed, { s with tx := none }.record (.discarded item))

/-- `SwupdateSession::try_send`. -/
def trySend (v : View) (item : Bytes) (s : Session) : Except IoError Feed × Session :=
  match s.ensureOpen v with
  | (.error err, s) => (.error err, s)
  | (.ok (), s) => ((.ok (s.offer v.queue item).1), (s.offer v.queue item).2)

/-- `SwupdateSession::send` resolved: `accepted` tells whether the awaited slot came before the
receiver went away. -/
def send (v : View) (accepted : Bool) (item : Bytes) (s : Session) :
    Except IoError Feed × Session :=
  match s.ensureOpen v with
  | (.error err, s) => (.error err, s)
  | (.ok (), s) =>
      let q := if accepted then QueueView.room else QueueView.closed
      (.ok (s.offer q item).1, (s.offer q item).2)

/-- `SwupdateSession::eof`: drops the sender. -/
def eof (s : Session) : Session :=
  match s.tx with
  | none => s
  | some transfer => { s with tx := none }.record (.eof transfer)

/-! ## Status side -/

/-- `SwupdateSession::mark_complete`: caches the success and spawns the restart task. -/
def markComplete (s : Session) : Session :=
  let s := { s with terminal := some (.ok ()) }
  match s.updateType with
  | some updateType => s.record (.restartTask updateType)
  -- `open` resolves the update type before there is a status task to settle
  | none => s

/-- `SwupdateSession::settle`: folds the outcome of the status task into the cached verdict. -/
def settle (joined : Joined) (s : Session) : Except IoError Unit × Session :=
  match joined with
  | .done (.ok ()) => (.ok (), s.markComplete)
  | .done (.error err) => (.error err, { s with terminal := some (.error err.text) })
  | .panicked text =>
      let err := IoError.other ("SWUpdate status task failed: " ++ text)
      (.error err, { s with terminal := some (.error err.text) })

/-- `SwupdateSession::poll_status`; `none` is `Poll::Pending`. -/
def pollStatus (v : View) (s : Session) : Option (Except IoError Unit) × Session :=
  match s.terminal with
  | some (.ok ()) => (some (.ok ()), s)
  | some (.error text) => (some (.error (IoError.other text)), s)
  | none =>
      match s.status with
      | none => (some (.error (IoError.new .notConnected "no update in progress")), s)
      | some _ =>
          match v.task with
          | none => (none, s)
          | some joined =>
              -- the handle is taken before the outcome is folded in; the sender stays
              let s := { s with status := none }
              (some (s.settle joined).1, (s.settle joined).2)

/-- `SwupdateSession::try_finished`. -/
def tryFinished (v : View) (s : Session) : Option (Except IoError Unit) × Session :=
  s.pollStatus v

/-- `SwupdateSession::abort`: every handle goes, and the cached verdict with them. -/
def abort (s : Session) : Session :=
  { s with
    tx := none
    recycleRx := none
    status := none
    terminal := none
    history := s.history ++ [.aborted] }

end Session

end SummitUsbgadget.Swupdate
