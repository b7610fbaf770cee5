import SummitUsbgadget.Lib.Watch
import SummitUsbgadget.FastbootUsb.Serve

/-!
# Fastboot-usb as a whole

The control loop and the data loop side by side, with the device controller below them. The host
configures the function and takes the configuration away; the controller queues an event for
endpoint zero and shuts the bulk endpoint down, which completes the read in flight. The control loop
publishes what it reads from endpoint zero on the `enabled` channel. The data loop is wherever its
coroutine is: it waits in `wait_for_enabled`, or runs one of the parts of `serve_connected`.

A step of the whole is one event of the host, one event read by the control loop, one completion, or
one turn of the data loop up to its next query. Connections are numbered by the configurations of
the host. The last five fields of `Link` are ghosts. `turned` says once what a turn may do.
-/

set_option autoImplicit false

namespace SummitUsbgadget.FastbootUsb

open SummitUsbgadget.Lib
open SummitUsbgadget.Swupdate
open SummitUsbgadget.Fastboot

/-- The events of endpoint zero, as far as `handle_event` tells them apart. -/
inductive ControlEvent where
  | enable
  | disable
  | unbind
  | other
  deriving DecidableEq, Repr

/-- `FastbootControl::handle_event`: the value that is published, if any. -/
def handleEvent : ControlEvent → Option Bool
  | .enable => some true
  | .disable => some false
  | .unbind => some false
  | .other => none

/-- An event in the queue of endpoint zero, with the last connection at that time. -/
structure Queued where
  event : ControlEvent
  connection : Nat
  deriving DecidableEq, Repr

/-- A coroutine of the data loop that is under way. -/
abbrev Task (α : Type) := Coroutine FastbootUsbState Query Query.Answer α

/-- Where the data loop is. -/
inductive DataLoop where
  /-- In `wait_for_enabled`. -/
  | waiting (acceptCurrent : Bool) (usb : FastbootUsbState)
  /-- At the beginning of `serve_connected`. -/
  | entering (task : Task Unit)
  /-- In the part of an iteration before the select. -/
  | priming (task : Task Bool)
  /-- At the select, before the transfer step was polled. -/
  | selecting (usb : FastbootUsbState)
  /-- In the select, with the transfer step under way. -/
  | transferring (task : Task Bool)
  /-- In the reset of the arm that was told of the end. -/
  | leaving (task : Task Unit)
  /-- Dropped, because the control loop has ended. -/
  | ended (usb : FastbootUsbState)

namespace DataLoop

def usb : DataLoop → FastbootUsbState
  | .waiting _ usb => usb
  | .entering task => task.state
  | .priming task => task.state
  | .selecting usb => usb
  | .transferring task => task.state
  | .leaving task => task.state
  | .ended usb => usb

/-- Parked in `wait_for_enabled` until the next notification. -/
def parked : DataLoop → Bool
  | .waiting acceptCurrent _ => !acceptCurrent
  | _ => false

/-- The select polls the `enabled` channel before anything else happens. -/
def atSelect : DataLoop → Bool
  | .selecting _ => true
  | .transferring (.ask _ q _) => q.suspends
  | _ => false

end DataLoop

/-- How far the host and the control loop have come. -/
@[ext]
structure Mark where
  /-- The last connection of the host. -/
  connection : Nat
  /-- How many times `false` was published. -/
  disables : Nat
  deriving DecidableEq, Repr

/-- Something that passed over a bulk endpoint: how far things were when the connected phase was
entered, and how far when it happened. -/
structure Exchange where
  entered : Mark
  current : Mark
  deriving DecidableEq, Repr

/-- The whole. `completion` is the completion of the read in flight that nobody has fetched. -/
structure Link where
  connection : Nat
  configured : Bool
  completion : Option (Except IoError Bytes)
  events : List Queued
  enabled : Watch Bool
  loop : DataLoop
  /-- The connection of the last `Enable` that was published. -/
  announced : Nat
  /-- The connection in which the data loop last touched the bulk-OUT endpoint. -/
  used : Nat
  /-- How many times `false` was published. -/
  disables : Nat
  /-- How far things were when the connected phase was entered. -/
  entered : Mark
  /-- The completions that were fetched and the replies that were handed over. -/
  exchanges : List Exchange

/-- What happens next. -/
inductive Input where
  /-- The host does something; the controller may discard the events that are still queued. -/
  | host (event : ControlEvent) (discard : Bool)
  /-- The read in flight completes. -/
  | complete (result : Except IoError Bytes)
  /-- The control loop reads an event. -/
  | control
  /-- The data loop gets a turn; its query is answered by `answers` unless the controller does. -/
  | turn (answers : (q : Query) → q.Answer)
  /-- The control loop ends, and the data loop is dropped. -/
  | stop

/-- `ESHUTDOWN` from a bulk endpoint. -/
def shutdownError : IoError := ⟨.other, some errnoShutdown, "endpoint shut down"⟩

namespace Link

def new (params : SwupdateParams) (serial : Bytes) (rxMaxPacketSizeDefault : Nat) : Link where
  connection := 0
  configured := false
  completion := none
  events := []
  enabled := Watch.channel false
  loop := .waiting true (FastbootUsbState.new params serial rxMaxPacketSizeDefault)
  announced := 0
  used := 0
  disables := 0
  entered := ⟨0, 0⟩
  exchanges := []

/-- How far things are. -/
def mark (w : Link) : Mark := ⟨w.connection, w.disables⟩

/-! ## The device controller -/

/-- A read is in flight that has not completed. -/
def inFlight (w : Link) : Bool := w.loop.usb.reading.isSome && w.completion.isNone

/-- The bulk endpoint is shut down: the read in flight completes with `ESHUTDOWN`. -/
def shutDown (w : Link) : Link :=
  if w.inFlight then { w with completion := some (.error shutdownError) } else w

/-- Queues an event for endpoint zero. -/
def queue (event : ControlEvent) (discard : Bool) (w : Link) : Link :=
  { w with events := (if discard then [] else w.events) ++ [⟨event, w.connection⟩] }

/-- The host acts. A function that is configured again is shut down first. -/
def host (event : ControlEvent) (discard : Bool) (w : Link) : Link :=
  match event with
  | .enable =>
      { w.shutDown with connection := w.connection + 1, configured := true }.queue .enable discard
  | .disable => { w.shutDown with configured := false }.queue .disable discard
  | .unbind => { w.shutDown with configured := false }.queue .unbind discard
  | .other => w.queue .other discard

/-- The read in flight completes; only a configured endpoint transfers anything. -/
def complete (result : Except IoError Bytes) (w : Link) : Link :=
  if w.configured && w.inFlight then { w with completion := some result } else w

/-- The answer to a query of the data loop: `none` as long as it has to wait. -/
def answer (answers : (q : Query) → q.Answer) (w : Link) : (q : Query) → Option q.Answer
  | .fetch => w.completion
  | .fetchTimeout =>
      match w.completion with
      | some result => some (.completed result)
      | none =>
          match answers .fetchTimeout with
          | .completed _ => none
          | .stalled => some .stalled
  | .submit capacity =>
      some (if w.configured then answers (.submit capacity) else .error shutdownError)
  | q => some (answers q)

/-- The exchange that takes place now. -/
def exchange (w : Link) : Link :=
  { w with exchanges := w.exchanges ++ [⟨w.entered, w.mark⟩] }

/-- What the answer to a query does to the endpoints. -/
def answered (q : Query) (w : Link) : Link :=
  match q with
  | .fetch => { w.exchange with completion := none }
  | .fetchTimeout => { w.exchange with completion := none }
  | .reply _ => w.exchange
  | .submit _ => { w with completion := none, used := w.connection }
  | .packetSize => { w with used := w.connection }
  | _ => w

/-! ## The control loop -/

/-- Publishes a value that an event of `connection` stands for. -/
def publish (connection : Nat) (value : Bool) (w : Link) : Link :=
  { w with
    enabled := w.enabled.send value
    announced := if value then connection else w.announced
    disables := if value then w.disables else w.disables + 1 }

/-- The control loop reads the next event, if there is one, and handles it. -/
def control (w : Link) : Link :=
  match w.events with
  | [] => w
  | queued :: rest =>
      match handleEvent queued.event with
      | none => { w with events := rest }
      | some value => { w with events := rest }.publish queued.connection value

/-! ## The data loop -/

/-- `serve_connected` begins. -/
def enter (usb : FastbootUsbState) (w : Link) : Link :=
  { w with
    enabled := w.enabled.markSeen
    loop := .entering (enterConnected usb)
    used := w.connection
    entered := w.mark }

/-- The notification arm of the select; what the transfer step had left is `usb`. -/
def notified (usb : FastbootUsbState) (w : Link) : Link :=
  { w with
    enabled := w.enabled.markSeen
    loop := if w.enabled.value then .priming (prime usb) else .leaving (reset none usb) }

/-- Goes on with the answer to a query, as soon as there is one. -/
def resume {α : Type} (answers : (q : Query) → q.Answer) (next : Task α → DataLoop) (q : Query)
    (k : q.Answer → Task α) (w : Link) : Link :=
  match w.answer answers q with
  | none => w
  | some r => { w.answered q with loop := next (k r) }

/-- One turn of `data_loop`. -/
def turn (answers : (q : Query) → q.Answer) (w : Link) : Link :=
  match w.loop with
  | .waiting acceptCurrent usb =>
      if acceptCurrent || w.enabled.pending then
        if w.enabled.value then w.enter usb
        else { w with enabled := w.enabled.markSeen, loop := .waiting false usb }
      else w
  | .entering (.done usb _) => { w with loop := .priming (prime usb) }
  | .entering (.ask _ q k) => w.resume answers .entering q k
  | .priming (.done usb serving) =>
      { w with loop := if serving then .selecting usb else .waiting false usb }
  | .priming (.ask _ q k) => w.resume answers .priming q k
  | .selecting usb =>
      if w.enabled.pending then w.notified usb
      else if usb.ready then { w with loop := .transferring (transferStep usb) }
      else w
  | .transferring (.done usb keepServing) =>
      { w with loop := if keepServing then .priming (prime usb) else .waiting false usb }
  | .transferring (.ask usb q k) =>
      if q.suspends && w.enabled.pending then w.notified usb
      else w.resume answers .transferring q k
  | .leaving (.done usb _) => { w with loop := .waiting false usb }
  | .leaving (.ask _ q k) => w.resume answers .leaving q k
  | .ended _ => w

def step (w : Link) : Input → Link
  | .host event discard => w.host event discard
  | .complete result => w.complete result
  | .control => w.control
  | .turn answers => w.turn answers
  | .stop => { w with loop := .ended w.loop.usb }

end Link

/-! ## What a turn of the data loop may do -/

/-- The moves of the data loop that put no query. -/
inductive DataLoop.Follows : DataLoop → DataLoop → Prop where
  | connected (usb : FastbootUsbState) (u : Unit) :
      Follows (.entering (.done usb u)) (.priming (prime usb))
  | primed (usb : FastbootUsbState) : Follows (.priming (.done usb true)) (.selecting usb)
  | closed (usb : FastbootUsbState) : Follows (.priming (.done usb false)) (.waiting false usb)
  | polled (usb : FastbootUsbState) (hready : usb.ready = true) :
      Follows (.selecting usb) (.transferring (transferStep usb))
  | kept (usb : FastbootUsbState) :
      Follows (.transferring (.done usb true)) (.priming (prime usb))
  | failed (usb : FastbootUsbState) :
      Follows (.transferring (.done usb false)) (.waiting false usb)
  | left (usb : FastbootUsbState) (u : Unit) :
      Follows (.leaving (.done usb u)) (.waiting false usb)

/-- The data loop goes on with an answer to the query. -/
inductive DataLoop.Resumes : DataLoop → Query → DataLoop → Prop where
  | entering (usb : FastbootUsbState) (q : Query) (k : q.Answer → Task Unit) (r : q.Answer) :
      Resumes (.entering (.ask usb q k)) q (.entering (k r))
  | priming (usb : FastbootUsbState) (q : Query) (k : q.Answer → Task Bool) (r : q.Answer) :
      Resumes (.priming (.ask usb q k)) q (.priming (k r))
  | transferring (usb : FastbootUsbState) (q : Query) (k : q.Answer → Task Bool) (r : q.Answer) :
      Resumes (.transferring (.ask usb q k)) q (.transferring (k r))
  | leaving (usb : FastbootUsbState) (q : Query) (k : q.Answer → Task Unit) (r : q.Answer) :
      Resumes (.leaving (.ask usb q k)) q (.leaving (k r))

namespace Link

/-- Everything a turn of the data loop can lead to. -/
inductive Turned (w : Link) : Link → Prop where
  | idle : Turned w w
  | enters (acceptCurrent : Bool) (usb : FastbootUsbState)
      (hloop : w.loop = .waiting acceptCurrent usb) (hvalue : w.enabled.value = true) :
      Turned w (w.enter usb)
  | parks (acceptCurrent : Bool) (usb : FastbootUsbState)
      (hloop : w.loop = .waiting acceptCurrent usb) (hvalue : w.enabled.value = false) :
      Turned w { w with enabled := w.enabled.markSeen, loop := .waiting false usb }
  | notified (hselect : w.loop.atSelect = true) (hpending : w.enabled.pending = true) :
      Turned w (w.notified w.loop.usb)
  | follows (l : DataLoop) (h : w.loop.Follows l) : Turned w { w with loop := l }
  | resumes (q : Query) (l : DataLoop) (h : w.loop.Resumes q l)
      (hselect : w.loop.atSelect = true → w.enabled.pending = false) :
      Turned w { w.answered q with loop := l }

theorem turned_resume {α : Type} (answers : (q : Query) → q.Answer) (next : Task α → DataLoop)
    (q : Query) (k : q.Answer → Task α) (w : Link)
    (h : ∀ r, w.loop.Resumes q (next (k r)))
    (hselect : w.loop.atSelect = true → w.enabled.pending = false) :
    Turned w (w.resume answers next q k) := by
  unfold resume
  split
  · exact .idle
  · next r hr => exact .resumes q _ (h r) hselect

theorem turned (answers : (q : Query) → q.Answer) (w : Link) : Turned w (w.turn answers) := by
  unfold turn
  split
  · next acceptCurrent usb hloop =>
      split
      · split
        · next hvalue => exact .enters acceptCurrent usb hloop hvalue
        · next hvalue => exact .parks acceptCurrent usb hloop (Bool.eq_false_iff.2 hvalue)
      · exact .idle
  · next usb u hloop => exact .follows _ (by rw [hloop]; exact .connected usb u)
  · next usb q k hloop =>
      refine turned_resume answers _ q k w (fun r => ?_) fun hselect => ?_
      · rw [hloop]
        exact .entering usb q k r
      · rw [hloop] at hselect
        cases hselect
  · next usb serving hloop =>
      refine .follows _ ?_
      rw [hloop]
      cases serving with
      | true => exact .primed usb
      | false => exact .closed usb
  · next usb q k hloop =>
      refine turned_resume answers _ q k w (fun r => ?_) fun hselect => ?_
      · rw [hloop]
        exact .priming usb q k r
      · rw [hloop] at hselect
        cases hselect
  · next usb hloop =>
      have husb : w.loop.usb = usb := by rw [hloop]; rfl
      split
      · next hpending =>
          rw [← husb]
          exact .notified (by rw [hloop]; rfl) hpending
      · split
        · next hready => exact .follows _ (by rw [hloop]; exact .polled usb hready)
        · exact .idle
  · next usb keepServing hloop =>
      refine .follows _ ?_
      rw [hloop]
      cases keepServing with
      | true => exact .kept usb
      | false => exact .failed usb
  · next usb q k hloop =>
      have husb : w.loop.usb = usb := by rw [hloop]; rfl
      have hselect : w.loop.atSelect = q.suspends := by rw [hloop]; rfl
      split
      · next hdrop =>
          obtain ⟨hsuspends, hpending⟩ := Bool.and_eq_true_iff.1 hdrop
          rw [← husb]
          exact .notified (hselect.trans hsuspends) hpending
      · next hkeep =>
          refine turned_resume answers _ q k w (fun r => ?_) fun hat => ?_
          · rw [hloop]
            exact .transferring usb q k r
          · rw [hselect] at hat
            simpa [hat] using hkeep
  · next usb u hloop => exact .follows _ (by rw [hloop]; exact .left usb u)
  · next usb q k hloop =>
      refine turned_resume answers _ q k w (fun r => ?_) fun hselect => ?_
      · rw [hloop]
        exact .leaving usb q k r
      · rw [hloop] at hselect
        cases hselect
  · exact .idle

/-! ## What the others leave alone -/

theorem shutDown_eq (w : Link) :
    ∃ completion, w.shutDown = { w with completion := completion } := by
  unfold shutDown
  split
  · exact ⟨_, rfl⟩
  · exact ⟨w.completion, rfl⟩

theorem complete_eq (result : Except IoError Bytes) (w : Link) :
    ∃ completion, w.complete result = { w with completion := completion } := by
  unfold complete
  split
  · exact ⟨_, rfl⟩
  · exact ⟨w.completion, rfl⟩

/-- An answer leaves the control side alone. -/
theorem answered_frame (q : Query) (w : Link) :
    (w.answered q).connection = w.connection ∧ (w.answered q).events = w.events ∧
      (w.answered q).enabled = w.enabled ∧ (w.answered q).announced = w.announced := by
  cases q <;> exact ⟨rfl, rfl, rfl, rfl⟩

theorem answered_used (q : Query) (w : Link) :
    (w.answered q).used = w.used ∨ (w.answered q).used = w.connection := by
  cases q with
  | submit capacity => exact Or.inr rfl
  | packetSize => exact Or.inr rfl
  | _ => exact Or.inl rfl

theorem answered_entered (q : Query) (w : Link) :
    (w.answered q).entered = w.entered ∧ (w.answered q).disables = w.disables := by
  cases q <;> exact ⟨rfl, rfl⟩

/-- The host leaves the data loop where it is. -/
theorem loop_host (event : ControlEvent) (discard : Bool) (w : Link) :
    (w.host event discard).loop = w.loop := by
  obtain ⟨completion, hshut⟩ := w.shutDown_eq
  unfold host
  rw [hshut]
  cases event <;> rfl

theorem loop_control (w : Link) : w.control.loop = w.loop := by
  unfold control
  split
  · rfl
  · split <;> rfl

end Link

end SummitUsbgadget.FastbootUsb
