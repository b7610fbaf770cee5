import SummitUsbgadget.Lib.Machine
import SummitUsbgadget.SwupdateIpc.Proto
import SummitUsbgadget.Swupdate.Stream

/-!
# The status task over IPC

`ipc::begin` waits for the daemon to acknowledge the install. Only then does the status task spawn
the drain and open the progress connection on which it waits for the verdict. The daemon is on its
own from the acknowledgement on, and its progress socket broadcasts to the clients that are
connected at that moment; it never repeats anything.

`Install` is the status task, the tasks of its transfer and the daemon, and `Install.step` is one
step of any of them. `verdict_not_missed_iff` says which runs bring the verdict to the status task:
those in which the daemon had accepted the progress connection before. `verdict_missed` is a run in
which it had not, and the status task waits for its timeout.
-/

set_option autoImplicit false

namespace SummitUsbgadget.Swupdate

open SummitUsbgadget.Lib SummitUsbgadget.SwupdateIpc

/-- `Errno::CONNABORTED`. -/
def errnoConnaborted : Nat := 103

def normalizeIpcError (err : SwupdateIpc.Error) (context : String) : IoError :=
  match err with
  | .io ioErr =>
      if ioErr.rawOsError = some errnoShutdown ∨ ioErr.rawOsError = some errnoConnaborted then
        IoError.new .notConnected ioErr.text
      else IoError.other ("SWUpdate " ++ context ++ " failed: " ++ err.text)
  | .closed => IoError.new .notConnected err.text
  | other => IoError.other ("SWUpdate " ++ context ++ " failed: " ++ other.text)

/-- The request of `ipc::begin`. -/
def installRequest (params : SwupdateParams) (runningMode : String) : InstallRequest where
  softwareSet := params.softwareSet.getD "stable"
  runningMode := runningMode
  source := .local
  mode := if params.dryRun then .dryRun else .install
  disableStoreSwu := params.disableStoreSwu

/-- How the status task ended: `begin` failed, or `await_progress_result_with` returned. -/
inductive StatusEnd where
  | start (err : SwupdateIpc.Error)
  | wait (result : Except SwupdateIpc.Error Unit)
  deriving DecidableEq

def StatusEnd.result : StatusEnd → Except IoError Unit
  | .start err => .error (IoError.other ("SWUpdate inst_start failed: " ++ err.text))
  | .wait (.ok ()) => .ok ()
  | .wait (.error err) => .error (normalizeIpcError err "wait")

/-- Where the status task stands. -/
inductive Stage where
  /-- The request is not on the control connection yet. -/
  | requesting
  /-- `begin` reads the reply. -/
  | replyPending
  /-- `progress_connect` is about to try, or sleeps between two attempts. -/
  | connecting
  | sleeping
  /-- `wait_for_progress_ack`. -/
  | ackPending
  /-- `ProgressConn::receive`. -/
  | receiving
  | ended (e : StatusEnd)
  deriving DecidableEq

/-- `await_progress_result_with` runs under its timeout. -/
def Stage.timed : Stage → Bool
  | .connecting | .sleeping | .ackPending | .receiving => true
  | _ => false

/-- There is no progress connection yet. -/
def Stage.unconnected : Stage → Bool
  | .requesting | .replyPending | .connecting | .sleeping => true
  | _ => false

/-- What the daemon writes to a progress connection: the acknowledgement, then the frames, of which
the client looks at the status code. -/
inductive Progress where
  | ack (ack : ProgressConnectAck)
  | frame (status : Nat)

def Progress.isFrame : Progress → Bool
  | .ack _ => false
  | .frame _ => true

/-- The frame is the verdict. -/
def Progress.terminal : Progress → Bool
  | .ack _ => false
  | .frame status =>
      match decodeRecoveryStatus status with
      | .ok status => status.isTerminal
      | .error _ => false

/-- The progress connection of the status task, with what waits in it to be read. -/
inductive Link where
  | none
  /-- The client is connected, but the daemon has not accepted it. -/
  | queued
  | up (inbox : List Progress)
  /-- The daemon has dropped it. -/
  | down (inbox : List Progress)

namespace Link

/-- The daemon has the connection on its list. -/
def isUp : Link → Bool
  | .up _ => true
  | _ => false

/-- A read would return at once, with an item or with the end of the connection. -/
def readable : Link → Bool
  | .none | .queued | .up [] => false
  | .up (_ :: _) | .down _ => true

/-- The daemon sends a frame to the connections on its list. -/
def deliver (status : Nat) : Link → Link
  | .up inbox => .up (inbox ++ [.frame status])
  | link => link

/-- The verdict waits to be read. -/
def holdsVerdict : Link → Bool
  | .up inbox => inbox.any Progress.terminal
  | _ => false

end Link

/-- A transfer over IPC and the daemon. `delivered` tells whether the verdict went to the progress
connection of this transfer. -/
structure Install where
  request : InstallRequest
  transfer : Transfer
  handles : Handles
  stage : Stage
  /-- What the daemon answered to the request. -/
  reply : Option (Except SwupdateIpc.Error IpcMessage)
  link : Link
  /-- The terminal frame that the daemon has emitted. -/
  verdict : Option Nat
  delivered : Bool

namespace Install

/-- What happens next. -/
inductive Input where
  -- the session: a block goes into the queue, or ends of the transfer are dropped
  | feed (block : Bytes)
  | release (kept : Handles)
  -- the drain and its writer
  | drain (e : Transfer.Event)
  -- the status task
  | request (written : Except IoError Unit)
  | readReply
  | connect (ok late : Bool)
  | wake
  | read
  | ackTimeout
  /-- The timeout of `await_progress_result_with` is over and the task is polled; `exhausted` if it
  has used up its budget for this poll. -/
  | deadline (exhausted : Bool)
  -- the daemon
  | answer (reply : Except SwupdateIpc.Error IpcMessage)
  | accept (ack : ProgressConnectAck)
  | broadcast (status : Nat)
  | drop

def new (params : SwupdateParams) (runningMode : String) (capacity : Nat) : Install where
  request := installRequest params runningMode
  transfer := .spawn capacity
  handles := ⟨true, true, true⟩
  stage := .requesting
  reply := none
  link := .none
  verdict := none
  delivered := false

/-- The daemon has acknowledged the install. -/
def acknowledged (w : Install) : Bool :=
  match w.reply with
  | some (.ok message) => message.hasType msgTypeAck
  | _ => false

/-- `begin` fails: the status task returns, and the receiver of the queue goes with it. -/
def failStart (err : SwupdateIpc.Error) (w : Install) : Install :=
  let e := StatusEnd.start err
  { w with
    stage := .ended e
    transfer := w.transfer.step w.handles
      (.connectFailed (IoError.other ("SWUpdate inst_start failed: " ++ err.text))) }

/-- `await_progress_result_with` returns; the connection is dropped with it. -/
def finishWait (result : Except SwupdateIpc.Error Unit) (w : Install) : Install :=
  let e := StatusEnd.wait result
  { w with
    stage := .ended e
    link := .none
    transfer := w.transfer.step w.handles (.statusReady (.done e.result)) }

/-- `inst_start_request`, up to the reply. -/
def sendRequest (written : Except IoError Unit) (w : Install) : Install :=
  match w.stage with
  | .requesting =>
      match w.request.encode, written with
      | .error err, _ => w.failStart err
      | .ok _, .error err => w.failStart (.io err)
      | .ok _, .ok () => { w with stage := .replyPending }
  | _ => w

/-- The end of `inst_start_request`; the status task then spawns the drain. -/
def readReply (w : Install) : Install :=
  match w.stage, w.reply with
  | .replyPending, some (.error err) => w.failStart err
  | .replyPending, some (.ok message) =>
      if message.hasType msgTypeAck then
        { w with stage := .connecting, transfer := w.transfer.step w.handles .connected }
      else w.failStart .nack
  | _, _ => w

/-- One attempt of `progress_connect`; `late` if its own deadline is over. -/
def connect (ok late : Bool) (w : Install) : Install :=
  match w.stage with
  | .connecting =>
      if ok then { w with stage := .ackPending, link := .queued }
      else if late then w.finishWait (.error .progressConnectTimeout)
      else { w with stage := .sleeping }
  | _ => w

def wake (w : Install) : Install :=
  match w.stage with
  | .sleeping => { w with stage := .connecting }
  | _ => w

/-- A frame, in the loop of `await_progress_result_with`. -/
def onFrame (status : Nat) (w : Install) : Install :=
  match decodeRecoveryStatus status with
  | .ok .success => w.finishWait (.ok ())
  | .ok .failure => w.finishWait (.error .installFailed)
  | _ => w

/-- An item that was read. -/
def onItem (item : Progress) (w : Install) : Install :=
  match w.stage, item with
  | .ackPending, .ack ack =>
      match ack.validate with
      | .ok () => { w with stage := .receiving }
      | .error err => w.finishWait (.error err)
  | .receiving, .frame status => w.onFrame status
  | _, _ => w

/-- The status task reads from its progress connection. -/
def read (w : Install) : Install :=
  match w.link with
  | .up (item :: inbox) => { w with link := .up inbox }.onItem item
  | .down (item :: inbox) => { w with link := .down inbox }.onItem item
  | .down [] =>
      match w.stage with
      | .ackPending => w.finishWait (.error .closed)
      -- the loop connects again
      | .receiving => { w with stage := .connecting, link := .none }
      | _ => w
  | _ => w

/-- The timeout of `wait_for_progress_ack` is over; the read has its turn first. -/
def ackTimeout (w : Install) : Install :=
  match w.stage with
  | .ackPending => if w.link.readable then w else w.finishWait (.error .invalidProgressAck)
  | _ => w

/-- The timeout of the whole wait is over. The future has its turn first, so it is cut off only if
nothing can be read, or if it has used up its budget. -/
def deadline (exhausted : Bool) (w : Install) : Install :=
  if w.stage.timed && (exhausted || !w.link.readable) then w.finishWait (.error .timeout) else w

/-- The daemon answers the request, once. -/
def answer (reply : Except SwupdateIpc.Error IpcMessage) (w : Install) : Install :=
  match w.stage, w.reply with
  | .replyPending, none => { w with reply := some reply }
  | _, _ => w

def accept (ack : ProgressConnectAck) (w : Install) : Install :=
  match w.link with
  | .queued => { w with link := .up [.ack ack] }
  | _ => w

/-- The daemon may emit the frame: the verdict comes once, after the acknowledgement. -/
def mayEmit (status : Nat) (w : Install) : Bool :=
  !(Progress.frame status).terminal || (w.acknowledged && w.verdict.isNone)

/-- The frame goes to the connections that are up at this moment. -/
def broadcast (status : Nat) (w : Install) : Install :=
  if w.mayEmit status then
    if (Progress.frame status).terminal then
      { w with link := w.link.deliver status, verdict := some status, delivered := w.link.isUp }
    else { w with link := w.link.deliver status }
  else w

def drop (w : Install) : Install :=
  match w.link with
  | .queued => { w with link := .down [] }
  | .up inbox => { w with link := .down inbox }
  | _ => w

/-- The session keeps a part of the ends it holds. -/
def release (kept : Handles) (w : Install) : Install :=
  { w with handles :=
      ⟨w.handles.tx && kept.tx, w.handles.recycleRx && kept.recycleRx,
        w.handles.status && kept.status⟩ }

def feed (block : Bytes) (w : Install) : Install :=
  if w.handles.tx && w.transfer.queueView = .room then { w with transfer := w.transfer.push block }
  else w

/-- A step of `drain_data`. -/
def drain (e : Transfer.Event) (w : Install) : Install :=
  match e with
  | .recv | .write _ | .writeError | .shutdown =>
      { w with transfer := w.transfer.step w.handles e }
  | _ => w

def step (w : Install) : Input → Install
  | .feed block => w.feed block
  | .release kept => w.release kept
  | .drain e => w.drain e
  | .request written => w.sendRequest written
  | .readReply => w.readReply
  | .connect ok late => w.connect ok late
  | .wake => w.wake
  | .read => w.read
  | .ackTimeout => w.ackTimeout
  | .deadline exhausted => w.deadline exhausted
  | .answer reply => w.answer reply
  | .accept ack => w.accept ack
  | .broadcast status => w.broadcast status
  | .drop => w.drop

/-! ## Verdicts that are caught -/

/-- What the run needs: the daemon emits the verdict only while the progress connection is up, and
the status task is not cut off by its timeout while the verdict waits to be read. -/
def InTime (w : Install) : Input → Prop
  | .broadcast status =>
      (Progress.frame status).terminal = true → w.mayEmit status = true → w.link.isUp = true
  | .deadline exhausted =>
      w.stage.timed = true → w.link.holdsVerdict = true → exhausted = false
  | _ => True

instance (w : Install) : (i : Input) → Decidable (w.InTime i)
  | .broadcast _ => inferInstanceAs (Decidable (_ → _ → _))
  | .deadline _ => inferInstanceAs (Decidable (_ → _ → _))
  | .feed _ | .release _ | .drain _ | .request _ | .readReply | .connect _ _ | .wake | .read
  | .ackTimeout | .answer _ | .accept _ | .drop => .isTrue trivial

/-- Where a run stands that has met `InTime` so far and whose connection was never dropped. -/
inductive OnTime (w : Install) : Prop
  | unconnected (hstage : w.stage.unconnected = true) (hlink : w.link = .none)
      (hverdict : w.verdict = none)
  | queued (hstage : w.stage = .ackPending) (hlink : w.link = .queued)
      (hverdict : w.verdict = none)
  | ackPending {ack : ProgressConnectAck} {inbox : List Progress} (hstage : w.stage = .ackPending)
      (hlink : w.link = .up (.ack ack :: inbox)) (hframes : ∀ item ∈ inbox, item.isFrame = true)
      (hverdict : w.verdict.isSome = true → w.delivered = true ∧ inbox.any Progress.terminal = true)
  | receiving {inbox : List Progress} (hstage : w.stage = .receiving) (hlink : w.link = .up inbox)
      (hframes : ∀ item ∈ inbox, item.isFrame = true)
      (hverdict : w.verdict.isSome = true → w.delivered = true ∧ inbox.any Progress.terminal = true)
  | ended {e : StatusEnd} (hstage : w.stage = .ended e) (hlink : w.link = .none)
      (hverdict : w.verdict.isSome = true → w.delivered = true ∧ e ≠ .wait (.error .timeout))

theorem onTime_new (params : SwupdateParams) (runningMode : String) (capacity : Nat) :
    OnTime (new params runningMode capacity) :=
  .unconnected rfl rfl rfl

/-- Only the stage, the connection and the verdict count. -/
theorem OnTime.congr {w w' : Install} (h : OnTime w) (hstage : w'.stage = w.stage)
    (hlink : w'.link = w.link) (hverdict : w'.verdict = w.verdict)
    (hdelivered : w'.delivered = w.delivered) : OnTime w' := by
  cases h with
  | unconnected h1 h2 h3 =>
      exact .unconnected (by rw [hstage]; exact h1) (hlink.trans h2) (hverdict.trans h3)
  | queued h1 h2 h3 => exact .queued (hstage.trans h1) (hlink.trans h2) (hverdict.trans h3)
  | ackPending h1 h2 h3 h4 =>
      exact .ackPending (hstage.trans h1) (hlink.trans h2) h3
        (by rw [hverdict, hdelivered]; exact h4)
  | receiving h1 h2 h3 h4 =>
      exact .receiving (hstage.trans h1) (hlink.trans h2) h3
        (by rw [hverdict, hdelivered]; exact h4)
  | ended h1 h2 h3 =>
      exact .ended (hstage.trans h1) (hlink.trans h2) (by rw [hverdict, hdelivered]; exact h3)

/-- A wait that ends before the verdict, or with another result than the timeout. -/
theorem onTime_finishWait {w : Install} {result : Except SwupdateIpc.Error Unit}
    (h : w.verdict.isSome = true → w.delivered = true ∧ result ≠ .error .timeout) :
    OnTime (w.finishWait result) := by
  refine .ended rfl rfl fun hv => ?_
  obtain ⟨hd, hr⟩ := h hv
  refine ⟨hd, fun he => hr ?_⟩
  injection he

theorem OnTime.of_unconnected {w : Install} (h : OnTime w) (hs : w.stage.unconnected = true) :
    w.link = .none ∧ w.verdict = none := by
  cases h with
  | unconnected _ hlink hverdict => exact ⟨hlink, hverdict⟩
  | queued hstage | ackPending hstage | receiving hstage | ended hstage =>
      rw [hstage] at hs
      cases hs

theorem onTime_failStart {w : Install} (err : SwupdateIpc.Error) (hlink : w.link = .none)
    (hverdict : w.verdict = none) : OnTime (w.failStart err) :=
  .ended rfl hlink fun hv => by
    rw [show (w.failStart err).verdict = w.verdict from rfl, hverdict] at hv
    cases hv

theorem onTime_sendRequest (written : Except IoError Unit) {w : Install} (h : OnTime w) :
    OnTime (w.sendRequest written) := by
  unfold sendRequest
  split
  · next hs =>
      obtain ⟨hlink, hverdict⟩ := h.of_unconnected (by rw [hs]; rfl)
      split
      · exact onTime_failStart _ hlink hverdict
      · exact onTime_failStart _ hlink hverdict
      · exact .unconnected rfl hlink hverdict
  · exact h

theorem onTime_readReply {w : Install} (h : OnTime w) : OnTime w.readReply := by
  unfold readReply
  split
  · next hs _ =>
      obtain ⟨hlink, hverdict⟩ := h.of_unconnected (by rw [hs]; rfl)
      exact onTime_failStart _ hlink hverdict
  · next hs _ =>
      obtain ⟨hlink, hverdict⟩ := h.of_unconnected (by rw [hs]; rfl)
      split
      · exact .unconnected rfl hlink hverdict
      · exact onTime_failStart _ hlink hverdict
  · exact h

theorem onTime_connect (ok late : Bool) {w : Install} (h : OnTime w) :
    OnTime (w.connect ok late) := by
  unfold connect
  split
  · next hs =>
      obtain ⟨hlink, hverdict⟩ := h.of_unconnected (by rw [hs]; rfl)
      split
      · exact .queued rfl rfl hverdict
      split
      · exact onTime_finishWait fun hv => by simp [hverdict] at hv
      · exact .unconnected rfl hlink hverdict
  · exact h

theorem onTime_wake {w : Install} (h : OnTime w) : OnTime w.wake := by
  unfold wake
  split
  · next hs =>
      obtain ⟨hlink, hverdict⟩ := h.of_unconnected (by rw [hs]; rfl)
      exact .unconnected rfl hlink hverdict
  · exact h

/-- A frame that does not end the wait is not the verdict. -/
theorem onFrame_cases (status : Nat) (w : Install) :
    (∃ result, result ≠ .error .timeout ∧ w.onFrame status = w.finishWait result) ∨
      ((Progress.frame status).terminal = false ∧ w.onFrame status = w) := by
  unfold onFrame
  split
  · exact Or.inl ⟨.ok (), nofun, rfl⟩
  · exact Or.inl ⟨.error .installFailed, nofun, rfl⟩
  · next hno1 hno2 =>
      refine Or.inr ⟨?_, rfl⟩
      cases hdecode : decodeRecoveryStatus status with
      | error raw => simp [Progress.terminal, hdecode]
      | ok code =>
          cases code with
          | success => exact absurd hdecode (hno1 ·)
          | failure => exact absurd hdecode (hno2 ·)
          | _ => simp [Progress.terminal, hdecode, RecoveryStatus.isTerminal]

theorem onTime_read {w : Install} (h : OnTime w) : OnTime w.read := by
  cases h with
  | unconnected hstage hlink hverdict =>
      rw [show w.read = w by simp [read, hlink]]
      exact .unconnected hstage hlink hverdict
  | queued hstage hlink hverdict =>
      rw [show w.read = w by simp [read, hlink]]
      exact .queued hstage hlink hverdict
  | ended hstage hlink hverdict =>
      rw [show w.read = w by simp [read, hlink]]
      exact .ended hstage hlink hverdict
  | @ackPending ack inbox hstage hlink hframes hverdict =>
      have hread : w.read = { w with link := .up inbox }.onItem (.ack ack) := by simp [read, hlink]
      rw [hread]
      simp only [onItem, hstage]
      split
      · exact .receiving rfl rfl hframes hverdict
      · next err herr =>
          refine onTime_finishWait fun hv => ⟨(hverdict hv).1, ?_⟩
          rintro heq
          cases heq
          unfold ProgressConnectAck.validate at herr
          split at herr
          · cases herr
          split at herr <;> cases herr
  | @receiving inbox hstage hlink hframes hverdict =>
      cases inbox with
      | nil =>
          rw [show w.read = w by simp [read, hlink]]
          exact .receiving hstage hlink hframes hverdict
      | cons item inbox =>
          have hitem := hframes item (by simp)
          have hrest : ∀ item ∈ inbox, item.isFrame = true := fun i hi => hframes i (by simp [hi])
          have hread : w.read = { w with link := .up inbox }.onItem item := by simp [read, hlink]
          rw [hread]
          cases item with
          | ack ack => cases hitem
          | frame status =>
              have hon : { w with link := .up inbox }.onItem (.frame status) =
                  { w with link := .up inbox }.onFrame status := by simp only [onItem, hstage]
              rw [hon]
              rcases onFrame_cases status { w with link := .up inbox } with
                ⟨result, hresult, heq⟩ | ⟨hterm, heq⟩
              · rw [heq]
                exact onTime_finishWait fun hv => ⟨(hverdict hv).1, hresult⟩
              · -- the verdict, if it was there, is still behind the frame that was read
                rw [heq]
                refine .receiving hstage rfl hrest fun hv => ?_
                simpa [hterm] using hverdict hv

theorem onTime_ackTimeout {w : Install} (h : OnTime w) : OnTime w.ackTimeout := by
  unfold ackTimeout
  split
  · next hs =>
      split
      · exact h
      · next hread =>
          refine onTime_finishWait fun hv => ?_
          -- nothing can be read, so the daemon has not accepted the connection yet
          cases h with
          | unconnected hstage _ hverdict | queued hstage _ hverdict => simp [hverdict] at hv
          | ackPending hstage hlink => simp [hlink, Link.readable] at hread
          | receiving hstage | ended hstage => rw [hs] at hstage; cases hstage
  · exact h

theorem onTime_deadline {exhausted : Bool} {w : Install} (h : OnTime w)
    (hi : w.InTime (.deadline exhausted)) : OnTime (w.deadline exhausted) := by
  unfold deadline
  split
  · next hcut =>
      simp only [Bool.and_eq_true, Bool.or_eq_true, Bool.not_eq_true'] at hcut
      obtain ⟨htimed, hcut⟩ := hcut
      refine onTime_finishWait fun hv => ?_
      -- a verdict would wait in the connection, where it can be read
      have hlost : ∀ inbox, w.link = .up inbox → inbox.any Progress.terminal = true → False := by
        intro inbox hlink hterm
        rcases hcut with hex | hread
        · rw [hi htimed (by rw [hlink]; exact hterm)] at hex
          cases hex
        · cases inbox with
          | nil => cases hterm
          | cons item inbox => simp [hlink, Link.readable] at hread
      cases h with
      | unconnected _ _ hverdict | queued _ _ hverdict => simp [hverdict] at hv
      | ackPending _ hlink _ hverdict =>
          exact (hlost _ hlink (by simpa using Or.inr (hverdict hv).2)).elim
      | receiving _ hlink _ hverdict => exact (hlost _ hlink (hverdict hv).2).elim
      | ended hstage => rw [hstage] at htimed; cases htimed
  · exact h

theorem onTime_answer (reply : Except SwupdateIpc.Error IpcMessage) {w : Install} (h : OnTime w) :
    OnTime (w.answer reply) := by
  unfold answer
  split
  · exact h.congr rfl rfl rfl rfl
  · exact h

theorem onTime_accept (ack : ProgressConnectAck) {w : Install} (h : OnTime w) :
    OnTime (w.accept ack) := by
  unfold accept
  split
  · next hl =>
      cases h with
      | queued hstage _ hverdict =>
          exact .ackPending hstage rfl (by simp) fun hv => by simp [hverdict] at hv
      | unconnected _ hlink | ackPending _ hlink | receiving _ hlink | ended _ hlink =>
          rw [hl] at hlink
          cases hlink
  · exact h

/-- The inbox after a broadcast holds the verdict if it did before, or if it was just emitted. -/
theorem broadcast_up {status : Nat} {w : Install} {inbox : List Progress}
    (hlink : w.link = .up inbox)
    (hverdict : w.verdict.isSome = true → w.delivered = true ∧ inbox.any Progress.terminal = true) :
    w.broadcast status = w ∨
      ((w.broadcast status).stage = w.stage ∧
        (w.broadcast status).link = .up (inbox ++ [.frame status]) ∧
        ((w.broadcast status).verdict.isSome = true → (w.broadcast status).delivered = true ∧
          (inbox ++ [Progress.frame status]).any Progress.terminal = true)) := by
  unfold broadcast
  split
  · right
    split
    · next hterm =>
        exact ⟨rfl, by simp [hlink, Link.deliver], fun _ => by simp [hlink, Link.isUp, hterm]⟩
    · refine ⟨rfl, by simp [hlink, Link.deliver], fun hv => ?_⟩
      obtain ⟨hd, hany⟩ := hverdict hv
      exact ⟨hd, by rw [List.any_append, hany]; rfl⟩
  · exact Or.inl rfl

theorem isFrame_append {inbox : List Progress} (status : Nat)
    (h : ∀ item ∈ inbox, item.isFrame = true) :
    ∀ item ∈ inbox ++ [Progress.frame status], item.isFrame = true := by
  intro item hitem
  rcases List.mem_append.1 hitem with hmem | hmem
  · exact h item hmem
  · rw [List.mem_singleton.1 hmem]
    rfl

/-- While the connection is not up, the daemon emits no verdict and nothing is delivered. -/
theorem broadcast_not_up {status : Nat} {w : Install} (hi : w.InTime (.broadcast status))
    (hlink : w.link.isUp = false) : w.broadcast status = w := by
  unfold broadcast
  split
  · next hmay =>
      have hterm : (Progress.frame status).terminal = false := by
        by_contra hterm
        have hup := hi (by simpa using hterm) hmay
        rw [hlink] at hup
        cases hup
      have hdeliver : w.link.deliver status = w.link := by
        cases hw : w.link with
        | up inbox => rw [hw] at hlink; cases hlink
        | _ => rfl
      simp [hterm, hdeliver]
  · rfl

theorem onTime_broadcast {status : Nat} {w : Install} (h : OnTime w)
    (hi : w.InTime (.broadcast status)) : OnTime (w.broadcast status) := by
  cases h with
  | unconnected hstage hlink hverdict =>
      rw [broadcast_not_up hi (by rw [hlink]; rfl)]
      exact .unconnected hstage hlink hverdict
  | queued hstage hlink hverdict =>
      rw [broadcast_not_up hi (by rw [hlink]; rfl)]
      exact .queued hstage hlink hverdict
  | ended hstage hlink hverdict =>
      rw [broadcast_not_up hi (by rw [hlink]; rfl)]
      exact .ended hstage hlink hverdict
  | @ackPending ack inbox hstage hlink hframes hverdict =>
      have hverdict' : w.verdict.isSome = true →
          w.delivered = true ∧ (Progress.ack ack :: inbox).any Progress.terminal = true :=
        fun hv => ⟨(hverdict hv).1, by simp [Progress.terminal, (hverdict hv).2]⟩
      rcases broadcast_up hlink hverdict' with heq | ⟨hs, hl, hv⟩
      · rw [heq]
        exact .ackPending hstage hlink hframes hverdict
      · exact .ackPending (hs.trans hstage) hl (isFrame_append status hframes) hv
  | @receiving inbox hstage hlink hframes hverdict =>
      rcases broadcast_up hlink hverdict with heq | ⟨hs, hl, hv⟩
      · rw [heq]
        exact .receiving hstage hlink hframes hverdict
      · exact .receiving (hs.trans hstage) hl (isFrame_append status hframes) hv

theorem onTime_step (w : Install) (i : Input) (h : OnTime w)
    (hi : i ≠ .drop ∧ w.InTime i) : OnTime (w.step i) := by
  obtain ⟨hdrop, hi⟩ := hi
  cases i with
  | feed block =>
      simp only [step, feed]
      split
      · exact h.congr rfl rfl rfl rfl
      · exact h
  | release kept => exact h.congr rfl rfl rfl rfl
  | drain e =>
      simp only [step, drain]
      split
      case h_5 => exact h
      all_goals
        refine h.congr ?_ ?_ ?_ ?_ <;> rfl
  | request written => exact onTime_sendRequest written h
  | readReply => exact onTime_readReply h
  | connect ok late => exact onTime_connect ok late h
  | wake => exact onTime_wake h
  | read => exact onTime_read h
  | ackTimeout => exact onTime_ackTimeout h
  | deadline exhausted => exact onTime_deadline h hi
  | answer reply => exact onTime_answer reply h
  | accept ack => exact onTime_accept ack h
  | broadcast status => exact onTime_broadcast h hi
  | drop => exact absurd rfl hdrop

/-! ## Verdicts that are missed -/

/-- The verdict was emitted and not delivered, or the status task has run into its timeout. -/
def Missed (w : Install) : Prop :=
  (w.verdict.isSome = true ∧ w.delivered = false) ∨ w.stage = .ended (.wait (.error .timeout))

/-- A status task that has ended does nothing any more. -/
theorem stage_step_of_ended {w : Install} {e : StatusEnd} (h : w.stage = .ended e) (i : Input) :
    (w.step i).stage = .ended e := by
  cases i with
  | feed block =>
      simp only [step, feed]
      split <;> exact h
  | release kept => exact h
  | drain e' =>
      simp only [step, drain]
      split <;> exact h
  | request written => simp [step, sendRequest, h]
  | readReply => simp [step, readReply, h]
  | connect ok late => simp [step, connect, h]
  | wake => simp [step, wake, h]
  | read =>
      simp only [step, read]
      split <;> simp [onItem, h]
  | ackTimeout => simp [step, ackTimeout, h]
  | deadline exhausted => simp [step, deadline, h, Stage.timed]
  | answer reply => simp [step, answer, h]
  | accept ack =>
      simp only [step, accept]
      split <;> exact h
  | broadcast status =>
      simp only [step, broadcast]
      split
      · split <;> exact h
      · exact h
  | drop =>
      simp only [step, drop]
      split <;> exact h

/-- Nothing but a broadcast changes what is known of the verdict. -/
theorem verdict_step {w : Install} {i : Input} (hi : ∀ status, i ≠ .broadcast status) :
    (w.step i).verdict = w.verdict ∧ (w.step i).delivered = w.delivered := by
  cases i with
  | broadcast status => exact absurd rfl (hi status)
  | release kept => exact ⟨rfl, rfl⟩
  | _ =>
      -- whatever branch the step takes, the two fields stay
      simp only [step, feed, drain, sendRequest, readReply, connect, wake, read, onItem,
        onFrame, ackTimeout, deadline, answer, accept, drop]
      repeat' split
      all_goals exact ⟨rfl, rfl⟩

theorem broadcast_of_verdict {w : Install} (h : w.verdict.isSome = true) (status : Nat) :
    (w.broadcast status).verdict = w.verdict ∧ (w.broadcast status).delivered = w.delivered := by
  unfold broadcast
  split
  · next hmay =>
      have hterm : (Progress.frame status).terminal = false := by
        have hno : w.verdict.isNone = false := by simpa using h
        simpa [mayEmit, hno] using hmay
      rw [if_neg (by simp [hterm])]
      exact ⟨rfl, rfl⟩
  · exact ⟨rfl, rfl⟩

theorem missed_step (w : Install) (i : Input) (h : Missed w) : Missed (w.step i) := by
  rcases h with ⟨hv, hd⟩ | hstage
  · left
    have hkeep : (w.step i).verdict = w.verdict ∧ (w.step i).delivered = w.delivered := by
      cases i with
      | broadcast status => exact broadcast_of_verdict hv status
      | _ => exact verdict_step nofun
    rw [hkeep.1, hkeep.2]
    exact ⟨hv, hd⟩
  · exact Or.inr (stage_step_of_ended hstage i)

/-- A step that is not in time misses the verdict. -/
theorem missed_of_not_inTime (w : Install) (i : Input) (h : ¬ w.InTime i) : Missed (w.step i) := by
  cases i with
  | broadcast status =>
      simp only [InTime, Classical.not_imp] at h
      obtain ⟨hterm, hmay, hup⟩ := h
      left
      simp only [step, broadcast, hmay, hterm, if_true]
      exact ⟨rfl, by simpa using hup⟩
  | deadline exhausted =>
      simp only [InTime, Classical.not_imp] at h
      obtain ⟨htimed, -, hex⟩ := h
      right
      have hcut : (w.stage.timed && (exhausted || !w.link.readable)) = true := by
        simp [htimed, show exhausted = true by simpa using hex]
      simp only [step, deadline, hcut, if_true]
      rfl
  | _ => exact absurd trivial h

/-- In every run in which the progress connection is never dropped and the daemon has emitted the
verdict: the verdict was delivered to this connection and the status task has not run into its
timeout, exactly if the daemon had accepted the connection before it emitted the verdict and the
task was not cut off while the verdict waited to be read. -/
theorem verdict_not_missed_iff (params : SwupdateParams) (runningMode : String) (capacity : Nat)
    (is : List Input) (hdrop : .drop ∉ is)
    (hverdict : (run step (new params runningMode capacity) is).verdict.isSome = true) :
    ((run step (new params runningMode capacity) is).delivered = true ∧
        (run step (new params runningMode capacity) is).stage ≠
          .ended (.wait (.error .timeout))) ↔
      Along step InTime (new params runningMode capacity) is := by
  constructor
  · rintro ⟨hd, hstage⟩
    refine along_of_run missed_step missed_of_not_inTime ?_
    rintro (⟨-, hno⟩ | hend)
    · rw [hd] at hno
      cases hno
    · exact hstage hend
  · intro halong
    have hkept : Along step (fun w i => i ≠ .drop ∧ w.InTime i)
        (new params runningMode capacity) is :=
      halong.and_mem fun i hi hd => hdrop (hd ▸ hi)
    have hontime : OnTime (run step (new params runningMode capacity) is) :=
      run_invariant onTime_step (onTime_new params runningMode capacity) hkept
    generalize run step (new params runningMode capacity) is = w at hontime hverdict
    cases hontime with
    | unconnected _ _ hno | queued _ _ hno =>
        rw [hno] at hverdict
        cases hverdict
    | ackPending hstage _ _ hv | receiving hstage _ _ hv =>
        exact ⟨(hv hverdict).1, by rw [hstage]; nofun⟩
    | ended hstage _ hv =>
        obtain ⟨hd, he⟩ := hv hverdict
        refine ⟨hd, fun heq => he ?_⟩
        rw [hstage] at heq
        injection heq

/-- An acknowledgement of the daemon's own version. -/
def progressAck : ProgressConnectAck := ⟨131072, [0x41, 0x43, 0x4b, 0]⟩

/-- The install is acknowledged. -/
def started : List Input :=
  [.feed [1, 2, 3], .request (.ok ()), .answer (.ok ⟨ipcMagic, msgTypeAck, none⟩), .readReply]

/-- A daemon that fails on the first bytes, after the progress connection is up. -/
def failsLate : List Input :=
  started ++ [.drain .recv, .connect true false, .accept progressAck, .read, .drain (.write 3),
    .broadcast 4, .read]

/-- The status task is told of the failure. -/
theorem verdict_not_missed_iff_failsLate :
    (run step (new .default "full-b" 128) failsLate).delivered = true ∧
      (run step (new .default "full-b" 128) failsLate).stage ≠ .ended
        (.wait (.error .timeout)) := by
  have hdrop : Input.drop ∉ failsLate := by simp [failsLate, started]
  refine (verdict_not_missed_iff .default "full-b" 128 failsLate hdrop ?_).2 ?_ <;> decide +kernel

/-- The same daemon, failing before the status task has connected. -/
def failsEarly : List Input :=
  started ++ [.drain .recv, .drain (.write 3), .broadcast 4, .connect true false,
    .accept progressAck, .read, .deadline false]

/-- The verdict is lost, and the status task waits for its timeout. -/
theorem verdict_missed :
    (run step (new .default "full-b" 128) failsEarly).verdict = some 4 ∧
      (run step (new .default "full-b" 128) failsEarly).delivered = false ∧
      (run step (new .default "full-b" 128) failsEarly).stage =
        .ended (.wait (.error .timeout)) := by
  decide +kernel

end Install

end SummitUsbgadget.Swupdate
