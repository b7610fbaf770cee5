import SummitUsbgadget.FunctionFs.Serve
import SummitUsbgadget.DfuFunction.Step

/-!
# The DFU function on its endpoint zero

`handle_event` of `gadget.rs` as a program of endpoint zero: it polls, reads the data stage or not,
answers or lets the request go. `Dfu.step` is told what came of the data stage and forgets about the
answer. Here they are put together: `Dfu.protocol` says which input of `Dfu.step` an event of
endpoint zero is, and `Exchanged` what the host gets for a request that the handler meets in a
state. The loop follows it, round by round. The reply that was made for a request is sent for that
request or for none; a handler that fails stalls it.
-/

set_option autoImplicit false

namespace SummitUsbgadget.DfuFunction

open SummitUsbgadget.Lib
open SummitUsbgadget.Swupdate
open SummitUsbgadget.FunctionFs
open SummitUsbgadget.FunctionFs.Kernel (gadgetRemoved)

namespace Served

/-- What the handler asks for and answers. -/
abbrev Async (α : Type) := FunctionFs.Async Dfu Moments α

/-- `Dfu::receive_dnload_block`. The receiver goes with the function, so every error lets the
request go. -/
def receiveDnloadBlock (m : Moments) (req : CtrlReq) : Async (Except IoError Unit) := do
  let polled ← act fun d => d.poll m
  match polled with
  | .error err => do
      dropRequest .hostToDevice
      pure (.error err)
  | .ok () => do
      let finishing ← Program.read fun s => s.handler.isFinishing
      if finishing then do
        dropRequest .hostToDevice
        pure (.error (IoError.other "manifestation in progress"))
      else
        Program.attempt (recvAsync req.length.toNat) fun data => act fun d =>
          d.acceptBlock m.submit data

/-- A transport that is closed resets the transfer. -/
def resetIfClosed : Except IoError Unit → Async (Except IoError Unit)
  | .ok () => pure (.ok ())
  | .error err => act fun d => Dfu.resetIfClosed (.error err, d)

/-- `Event::SetupHostToDevice`. -/
def setupOut (req : CtrlReq) : Async (Except IoError Unit) := do
  let m : Moments ← ask .look
  if !isDfuRequest req then do
    let _ ← recvAllAsync req
    pure (.ok ())
  else if req.announcesBlock then do
    let received ← receiveDnloadBlock m req
    resetIfClosed received
  else do
    let drained ← recvAllAsync req
    match drained with
    | .error err => resetIfClosed (.error err)
    | .ok _ => act fun d => d.handleOut m req

/-- `Event::SetupDeviceToHost`. -/
def setupIn (req : CtrlReq) : Async (Except IoError Unit) := do
  let m : Moments ← ask .look
  if !isDfuRequest req then do
    let _ ← sendAsync []
    pure (.ok ())
  else do
    let response ← act fun d => d.handleIn m req
    match response with
    | .error err => do
        dropRequest .deviceToHost
        pure (.error err)
    | .ok reply => do
        let sent ← sendAsync reply.asSlice
        match sent with
        | .ok _ => pure (.ok ())
        | .error err => pure (if isClosedTransportError err then .ok () else .error err)

/-- `Dfu::handle_event`. -/
def handleEvent : FunctionFs.Event → Async (Except IoError Unit)
  | .setupHostToDevice req => setupOut req
  | .setupDeviceToHost req => setupIn req
  | .disable | .unbind => do
      updateHandler Dfu.resetOnIdleTimeout
      pure (.ok ())
  | _ => pure (.ok ())

/-- `impl EventHandler for Dfu`. -/
def handler : EventHandler Dfu Moments where
  idleTimeout := Dfu.dfuIdleTimeout
  handleEvent := handleEvent
  onIdleTimeout := Dfu.resetOnIdleTimeout
  onTransportClosed := Dfu.resetOnIdleTimeout

end Served

/-! ## What the host gets -/

/-- The data stage of the request is read: it is no block, or the handler takes one. -/
def Dfu.ReadsStage (d : Dfu) (m : Moments) (req : CtrlReq) : Prop :=
  isDfuRequest req = true → req.announcesBlock → (d.poll m).1 = .ok () ∧
    (d.poll m).2.isFinishing = false

/-- What a request to the handler `d` comes to. -/
inductive Exchanged (d : Dfu) (req : CtrlReq) : Input → Option Settlement → Prop where
  /-- The handler sees of the data stage what was read, and nothing of it is answered. -/
  | read {stage : Except IoError Bytes} {m : Moments} {st : Option Settlement}
      (hd : direction req = .hostToDevice) (hr : d.ReadsStage m req)
      (h : Got req.length.toNat stage st) : Exchanged d req ⟨.setupHostToDevice req stage, m⟩ st
  | refused {stage : Except IoError Bytes} {m : Moments} {st : Option Settlement}
      (hd : direction req = .hostToDevice) (hr : ¬ d.ReadsStage m req) (h : Dropped st) :
      Exchanged d req ⟨.setupHostToDevice req stage, m⟩ st
  /-- The reply is the one of `Dfu.step` in the state in which the request was met. -/
  | replied {m : Moments} {reply : InReply} {sent : Except IoError Nat} {st : Option Settlement}
      (hd : direction req = .deviceToHost) (hr : (d.setupIn m req).1 = .ok reply)
      (h : Sent reply.asSlice sent st) : Exchanged d req ⟨.setupDeviceToHost req, m⟩ st
  | stalled {m : Moments} {err : IoError} {st : Option Settlement}
      (hd : direction req = .deviceToHost) (hr : (d.setupIn m req).1 = .error err)
      (h : Dropped st) : Exchanged d req ⟨.setupDeviceToHost req, m⟩ st

/-- For an event that looks at nothing. -/
def unseen : Moments := .always ⟨false, ⟨"", ""⟩, .room, none⟩

/-- An event that is no setup. -/
def Event.ofType (eventType : UInt8) : Event :=
  if eventType = EventType.enable then .enable
  else if eventType = EventType.disable then .disable
  else if eventType = EventType.unbind then .unbind
  else .other

/-- What the function is meant to do. A wait without a limit that still times out resets the
transfer like a disconnect. -/
def Dfu.protocol : FunctionFs.Protocol Dfu Input where
  step := Dfu.step
  event eventType := ⟨.ofType eventType, unseen⟩
  idle d := ⟨if d.dfuIdleTimeout.isSome then .idleTimeout else .disable, unseen⟩
  closed := ⟨.transportClosed, unseen⟩
  request := Exchanged

section Requests

variable {req : CtrlReq} {rs : List Report} {ss : List Settlement} {d : Dfu}

/-- The handler has met `req` in the state `d` and is through with it. -/
def Met (req : CtrlReq) (rs : List Report) (ss : List Settlement) (d : Dfu)
    (s : FunctionFs.Served Dfu) (k : Kernel Moments) : Prop :=
  ∃ i st, Exchanged d req i st ∧ Settled req rs ss st (d.step i) s k

theorem triple_look :
    Program.Triple Kernel.handle (Engaged (V := Moments) req rs ss d) (ask .look)
      fun _ s k => Engaged req rs ss d s k :=
  triple_ask fun _ _ h => ⟨h.setupEvent, h.handler, h.pending, h.heard, h.settled⟩

theorem triple_setupIn (hd : direction req = .deviceToHost) :
    Program.Triple Kernel.handle (Engaged req rs ss d) (Served.setupIn req) fun _ s k =>
      Met req rs ss d s k := by
  refine Program.triple_bind triple_look fun m => ?_
  refine Program.triple_ite (fun hno => ?_) fun hyes => ?_
  · -- another class: an empty answer, and the handler is left alone
    have hreply : d.setupIn m req = (.ok (.data []), d) := if_pos hno
    refine Program.triple_bind (triple_sendAsync hd []) fun sent => Program.triple_pure ?_
    rintro s k ⟨st, hsent, h⟩
    refine ⟨⟨.setupDeviceToHost req, m⟩, st, .replied hd (congrArg Prod.fst hreply) hsent, ?_⟩
    show Settled req rs ss st (d.setupIn m req).2 s k
    rw [hreply]
    exact h
  · have hreply : d.setupIn m req = d.handleIn m req := if_neg hyes
    have hstep : d.step ⟨.setupDeviceToHost req, m⟩ = (d.handleIn m req).2 :=
      congrArg Prod.snd hreply
    refine Program.triple_bind triple_act_engaged fun response => Program.triple_intro ?_
    rintro s k ⟨rfl, h⟩
    refine ⟨_, h, ?_⟩
    cases hresponse : (d.handleIn m req).1 with
    | error err =>
        refine Program.triple_bind (triple_dropRequest hd) fun _ => Program.triple_pure ?_
        rintro s k ⟨st, hdropped, h⟩
        have herr : (d.setupIn m req).1 = .error err := by rw [hreply, hresponse]
        refine ⟨⟨.setupDeviceToHost req, m⟩, st, .stalled hd herr hdropped, ?_⟩
        rw [hstep]
        exact h
    | ok reply =>
        refine Program.triple_bind (triple_sendAsync hd reply.asSlice) fun sent => ?_
        rintro s k ⟨st, hsent, h⟩
        have hmet : Met req rs ss d s k := by
          refine ⟨⟨.setupDeviceToHost req, m⟩, st, .replied hd ?_ hsent, ?_⟩
          · rw [hreply, hresponse]
          · rw [hstep]
            exact h
        cases sent with
        | ok n => exact hmet
        | error err => exact hmet

theorem receiveDnloadBlock_of_error {m : Moments} {len : Nat} {err : IoError}
    (stage : Except IoError Bytes) (he : (d.poll m).1 = .error err) :
    d.receiveDnloadBlock m len stage = (.error err, (d.poll m).2) := by
  unfold Dfu.receiveDnloadBlock
  generalize d.poll m = r at he ⊢
  obtain ⟨res, d₁⟩ := r
  cases he
  rfl

theorem receiveDnloadBlock_of_finishing {m : Moments} {len : Nat} (stage : Except IoError Bytes)
    (hok : (d.poll m).1 = .ok ()) (hf : (d.poll m).2.isFinishing = true) :
    d.receiveDnloadBlock m len stage =
      (.error (IoError.other "manifestation in progress"), (d.poll m).2) := by
  unfold Dfu.receiveDnloadBlock
  generalize d.poll m = r at hok hf ⊢
  obtain ⟨res, d₁⟩ := r
  cases hok
  exact if_pos hf

theorem receiveDnloadBlock_of_reads {m : Moments} {len : Nat} (stage : Except IoError Bytes)
    (hok : (d.poll m).1 = .ok ()) (hf : (d.poll m).2.isFinishing = false) :
    d.receiveDnloadBlock m len stage =
      match stage with
      | .error err => (.error err, (d.poll m).2)
      | .ok data => (d.poll m).2.acceptBlock m.submit (data.take len) := by
  unfold Dfu.receiveDnloadBlock
  generalize d.poll m = r at hok hf ⊢
  obtain ⟨res, d₁⟩ := r
  cases hok
  exact if_neg (Bool.eq_false_iff.1 hf)

/-- What `receive_dnload_block` makes of the request. -/
def Received (m : Moments) (req : CtrlReq) (rs : List Report) (ss : List Settlement) (d : Dfu)
    (r : Except IoError Unit) (s : FunctionFs.Served Dfu) (k : Kernel Moments) : Prop :=
  ∃ stage st, Exchanged d req ⟨.setupHostToDevice req stage, m⟩ st ∧
    r = (d.receiveDnloadBlock m req.length.toNat stage).1 ∧
    Settled req rs ss st (d.receiveDnloadBlock m req.length.toNat stage).2 s k

/-- The receiver is dropped with the data stage unread. -/
theorem triple_refuse (hd : direction req = .hostToDevice) (hdfu : isDfuRequest req = true)
    (hb : req.announcesBlock) {m : Moments} {err : IoError}
    (hr : d.receiveDnloadBlock m req.length.toNat (.ok []) = (.error err, (d.poll m).2))
    (hno : ¬ ((d.poll m).1 = .ok () ∧ (d.poll m).2.isFinishing = false)) :
    Program.Triple Kernel.handle (Engaged (V := Moments) req rs ss (d.poll m).2)
      (do
        dropRequest .hostToDevice
        pure (.error err)) (Received m req rs ss d) := by
  refine Program.triple_bind (triple_dropRequest hd) fun _ => Program.triple_pure ?_
  rintro s k ⟨st, hdropped, h⟩
  refine ⟨.ok [], st, .refused hd (fun hreads => hno (hreads hdfu hb)) hdropped, ?_, ?_⟩
  · rw [hr]
  · rw [hr]
    exact h

/-- The data stage is read, and the block taken. -/
theorem triple_take (hd : direction req = .hostToDevice) {m : Moments} (hok : (d.poll m).1 = .ok ())
    (hf : (d.poll m).2.isFinishing = false) :
    Program.Triple Kernel.handle (Engaged (V := Moments) req rs ss (d.poll m).2)
      (Program.attempt (recvAsync req.length.toNat) fun data => act fun d =>
        d.acceptBlock m.submit data)
      (Received m req rs ss d) := by
  have hreads : d.ReadsStage m req := fun _ _ => ⟨hok, hf⟩
  refine Program.triple_attempt (triple_recvAsync hd req.length.toNat) ?_ fun data => ?_
  · rintro err s k ⟨st, hgot, h⟩
    have heq : d.receiveDnloadBlock m req.length.toNat (.error err) = (.error err, (d.poll m).2) :=
      receiveDnloadBlock_of_reads (.error err) hok hf
    refine ⟨.error err, st, .read hd hreads hgot, ?_, ?_⟩
    · rw [heq]
    · rw [heq]
      exact h
  · refine Program.triple_intro ?_
    rintro s k ⟨st, hgot, h⟩
    have hlen : data.length ≤ req.length.toNat := by
      cases hgot with
      | received _ hlen => exact hlen
    have heq : d.receiveDnloadBlock m req.length.toNat (.ok data) =
        (d.poll m).2.acceptBlock m.submit data := by
      rw [receiveDnloadBlock_of_reads (.ok data) hok hf]
      show (d.poll m).2.acceptBlock m.submit (data.take req.length.toNat) = _
      rw [List.take_of_length_le hlen]
    refine ⟨_, h, Program.triple_conseq triple_act_settled (fun _ _ h => h) ?_⟩
    rintro r s k ⟨hr, h⟩
    refine ⟨.ok data, st, .read hd hreads hgot, ?_, ?_⟩
    · rw [heq]
      exact hr
    · rw [heq]
      exact h

theorem triple_receiveDnloadBlock (hd : direction req = .hostToDevice)
    (hdfu : isDfuRequest req = true) (hb : req.announcesBlock) (m : Moments) :
    Program.Triple Kernel.handle (Engaged req rs ss d) (Served.receiveDnloadBlock m req)
      (Received m req rs ss d) := by
  refine Program.triple_bind triple_act_engaged fun polled => Program.triple_intro ?_
  rintro s k ⟨rfl, h⟩
  refine ⟨_, h, ?_⟩
  cases hpoll : (d.poll m).1 with
  | error err =>
      exact triple_refuse hd hdfu hb (receiveDnloadBlock_of_error _ hpoll)
        fun hreads => nomatch hpoll.symm.trans hreads.1
  | ok _ =>
      refine Program.triple_read fun finishing => Program.triple_intro ?_
      rintro s k ⟨h, rfl⟩
      refine ⟨_, h, ?_⟩
      rw [h.handler]
      refine Program.triple_ite (fun hf => ?_) fun hf =>
        triple_take hd hpoll (Bool.eq_false_iff.2 hf)
      exact triple_refuse hd hdfu hb (receiveDnloadBlock_of_finishing _ hpoll hf)
        fun hreads => Bool.false_ne_true (hreads.2.symm.trans hf)

theorem triple_resetIfClosed {st : Option Settlement} (r : Except IoError Unit) :
    Program.Triple Kernel.handle (Settled (V := Moments) req rs ss st d) (Served.resetIfClosed r)
      fun _ s k => Settled req rs ss st (Dfu.resetIfClosed (r, d)).2 s k := by
  cases r with
  | ok _ => exact Program.triple_pure fun _ _ h => h
  | error err =>
      intro s k h
      exact (triple_act_settled (f := fun d => Dfu.resetIfClosed (.error err, d)) s k h).2

/-- What `setup_out` does with a request of the class, once its data is read. -/
theorem setupOut_of_dfu {m : Moments} (hyes : ¬ (!isDfuRequest req) = true)
    (stage : Except IoError Bytes) :
    d.setupOut m req stage =
      if req.announcesBlock then Dfu.resetIfClosed (d.receiveDnloadBlock m req.length.toNat stage)
      else
        match stage with
        | .error err => Dfu.resetIfClosed (.error err, d)
        | .ok _ => d.handleOut m req :=
  if_neg hyes

/-- A request of another class: the data is thrown away, and the handler is left alone. -/
theorem triple_setupOut_foreign (hd : direction req = .hostToDevice)
    (hno : (!isDfuRequest req) = true) (m : Moments) :
    Program.Triple Kernel.handle (Engaged (V := Moments) req rs ss d)
      (do
        let _ ← recvAllAsync req
        pure (.ok ()) : Served.Async (Except IoError Unit))
      fun _ s k => Met req rs ss d s k := by
  have hreads : d.ReadsStage m req := fun hdfu => by
    rw [hdfu] at hno
    cases hno
  refine Program.triple_bind (triple_recvAsync hd req.length.toNat) fun stage =>
    Program.triple_pure ?_
  rintro s k ⟨st, hgot, h⟩
  have hsame : d.setupOut m req stage = (.ok (), d) := if_pos hno
  refine ⟨⟨.setupHostToDevice req stage, m⟩, st, .read hd hreads hgot, ?_⟩
  show Settled req rs ss st (d.setupOut m req stage).2 s k
  rw [hsame]
  exact h

/-- A data block. -/
theorem triple_setupOut_block (hd : direction req = .hostToDevice)
    (hyes : ¬ (!isDfuRequest req) = true) (hb : req.announcesBlock) (m : Moments) :
    Program.Triple Kernel.handle (Engaged (V := Moments) req rs ss d)
      (do
        let received ← Served.receiveDnloadBlock m req
        Served.resetIfClosed received)
      fun _ s k => Met req rs ss d s k := by
  have hdfu : isDfuRequest req = true := by simpa using hyes
  refine Program.triple_bind (triple_receiveDnloadBlock hd hdfu hb m) fun r =>
    Program.triple_intro ?_
  rintro s k ⟨stage, st, hj, rfl, h⟩
  refine ⟨_, h, Program.triple_conseq (triple_resetIfClosed _) (fun _ _ h => h) ?_⟩
  intro _ s k h
  refine ⟨⟨.setupHostToDevice req stage, m⟩, st, hj, ?_⟩
  show Settled req rs ss st (d.setupOut m req stage).2 s k
  rw [setupOut_of_dfu hyes, if_pos hb]
  exact h

/-- Any other request of the class, after its data was read to the end. -/
theorem triple_setupOut_plain (hd : direction req = .hostToDevice)
    (hyes : ¬ (!isDfuRequest req) = true) (hb : ¬ req.announcesBlock) (m : Moments) :
    Program.Triple Kernel.handle (Engaged (V := Moments) req rs ss d)
      (do
        let drained ← recvAllAsync req
        match drained with
        | .error err => Served.resetIfClosed (.error err)
        | .ok _ => act fun d => d.handleOut m req)
      fun _ s k => Met req rs ss d s k := by
  have hreads : d.ReadsStage m req := fun _ h => absurd h hb
  refine Program.triple_bind (triple_recvAsync hd req.length.toNat) fun drained =>
    Program.triple_intro ?_
  rintro s k ⟨st, hgot, h⟩
  refine ⟨_, h, ?_⟩
  have hmet : ∀ s k, Settled req rs ss st (d.setupOut m req drained).2 s k →
      Met req rs ss d s k :=
    fun s k h => ⟨⟨.setupHostToDevice req drained, m⟩, st, .read hd hreads hgot, h⟩
  rw [setupOut_of_dfu hyes, if_neg hb] at hmet
  cases drained with
  | error err =>
      exact Program.triple_conseq (triple_resetIfClosed _) (fun _ _ h => h)
        fun _ s k h => hmet s k h
  | ok data =>
      exact Program.triple_conseq triple_act_settled (fun _ _ h => h) fun _ s k h => hmet s k h.2

theorem triple_setupOut (hd : direction req = .hostToDevice) :
    Program.Triple Kernel.handle (Engaged req rs ss d) (Served.setupOut req)
      fun _ s k => Met req rs ss d s k := by
  refine Program.triple_bind triple_look fun m => ?_
  refine Program.triple_ite (fun hno => triple_setupOut_foreign hd hno m) fun hyes => ?_
  exact Program.triple_ite (fun hb => triple_setupOut_block hd hyes hb m)
    fun hb => triple_setupOut_plain hd hyes hb m

end Requests

/-- An event that is no setup is a step of the handler, and is not polled for. -/
theorem triple_plain {rs : List Report} {ss : List Settlement} {d : Dfu} (req : CtrlReq)
    {eventType : UInt8} (ht : eventType ≠ EventType.setup) :
    Program.Triple Kernel.handle (Idle (V := Moments) rs ss d)
      (Served.handleEvent (.announced req eventType))
      fun _ s k => Idle rs ss (d.step ⟨.ofType eventType, unseen⟩) s k := by
  have hsame : ∀ e : Event, d.step ⟨e, unseen⟩ = d →
      Program.Triple Kernel.handle (Idle (V := Moments) rs ss d)
        (pure (.ok ()) : Served.Async (Except IoError Unit))
        fun _ s k => Idle rs ss (d.step ⟨e, unseen⟩) s k := by
    intro e hstep
    rw [hstep]
    exact Program.triple_pure fun s k h => h
  have hreset : ∀ e : Event, d.step ⟨e, unseen⟩ = d.resetOnIdleTimeout →
      Program.Triple Kernel.handle (Idle (V := Moments) rs ss d)
        (do
          updateHandler Dfu.resetOnIdleTimeout
          pure (.ok ()) : Served.Async (Except IoError Unit))
        fun _ s k => Idle rs ss (d.step ⟨e, unseen⟩) s k := by
    intro e hstep s k h
    rw [hstep]
    exact ⟨congrArg Dfu.resetOnIdleTimeout h.handler, h.heard, h.settled, h.pending⟩
  have hplain := FunctionFs.Event.plain_announced req ht
  generalize FunctionFs.Event.announced req eventType = e at hplain ⊢
  cases hplain with
  | enable => exact hsame .enable rfl
  | disable => exact hreset .disable rfl
  | unbind => exact hreset .unbind rfl
  | other hen hdis hun h =>
      have hother : Event.ofType eventType = .other := by
        unfold Event.ofType
        rw [if_neg hen, if_neg hdis, if_neg hun]
      rw [hother]
      rcases h with rfl | rfl | rfl | rfl <;> exact hsame .other rfl

/-- The handler follows the protocol, and is through with every request. -/
theorem settles : Settles Served.handler Dfu.protocol where
  setup req rs ss d := by
    show Program.Triple Kernel.handle (Engaged req rs ss d) (Served.handleEvent (.setup req))
      fun _ s k => Met req rs ss d s k
    cases hd : direction req with
    | deviceToHost =>
        have hevent : FunctionFs.Event.setup req = .setupDeviceToHost req := by
          unfold FunctionFs.Event.setup
          rw [hd]
        rw [hevent]
        exact triple_setupIn hd
    | hostToDevice =>
        have hevent : FunctionFs.Event.setup req = .setupHostToDevice req := by
          unfold FunctionFs.Event.setup
          rw [hd]
        rw [hevent]
        exact triple_setupOut hd
  plain req _ ht _ _ _ := triple_plain req ht
  idle d := by
    show d.resetOnIdleTimeout =
      d.step ⟨if d.dfuIdleTimeout.isSome then .idleTimeout else .disable, unseen⟩
    cases harmed : d.dfuIdleTimeout.isSome with
    | true => exact (if_pos harmed).symm
    | false => rfl
  closed _ := rfl

/-- The DFU function on its endpoint zero, whatever the host and the gadget do. Every round of the
loop adds one entry to the log: what endpoint zero has told, the step of `Dfu.step` for it, and for
a request the answer that the handler made for it in the state in which it met it. The entries have
everything that endpoint zero has told, in order, so the handler is where a run of `Dfu.step` over
the events takes it. No request waits between two events. None but the last before the gadget was
removed is left without an answer, and then the next round is the end of the loop. -/
theorem dfu_serve_settles (config : DfuConfig) (turns : Nat → Turn Moments) :
    ∃ log, Logs Served.handler Dfu.protocol (Dfu.new config) turns log :=
  exists_logs settles (Dfu.new config) turns

end SummitUsbgadget.DfuFunction
