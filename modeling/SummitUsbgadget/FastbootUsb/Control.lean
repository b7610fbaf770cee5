import SummitUsbgadget.FunctionFs.Serve
import SummitUsbgadget.FastbootUsb.Link

/-!
# The control loop of fastboot

`FastbootControl` on its endpoint zero. It publishes on the `enabled` channel, and it has nothing to
say to a control request: one from the host is read to its end, one to the host gets an empty
answer. `Link.control` has this loop as one step per event that `handle_event` tells apart; here it
is the loop of `functionfs.rs` over the rules of endpoint zero.
-/

set_option autoImplicit false

namespace SummitUsbgadget.FastbootUsb

open SummitUsbgadget.Lib
open SummitUsbgadget.FunctionFs
open SummitUsbgadget.DfuFunction (CtrlReq)

namespace Control

/-- `FastbootControl::handle_event` as a program. -/
def handle : Event → FunctionFs.Async (Watch Bool) Unit (Except IoError Unit)
  | .enable => do
      updateHandler (Watch.send true)
      pure (.ok ())
  | .disable | .unbind => do
      updateHandler (Watch.send false)
      pure (.ok ())
  | .setupHostToDevice req => do
      let _ ← recvAllAsync req
      pure (.ok ())
  | .setupDeviceToHost _ => do
      let _ ← sendAsync []
      pure (.ok ())
  | _ => pure (.ok ())

/-- `impl EventHandler for FastbootControl`, with the hooks that the trait has by default. -/
def handler : EventHandler (Watch Bool) Unit where
  idleTimeout _ := none
  handleEvent := handle
  onIdleTimeout := id
  onTransportClosed := id

/-- What an event does to the channel. -/
def step (enabled : Watch Bool) (e : ControlEvent) : Watch Bool :=
  match handleEvent e with
  | some value => enabled.send value
  | none => enabled

/-- A request changes nothing; its data is read, or it is answered with nothing. -/
inductive Exchanged (req : CtrlReq) : ControlEvent → Option Settlement → Prop where
  | read {stage : Except IoError Bytes} {st : Option Settlement}
      (hd : direction req = .hostToDevice) (h : Got req.length.toNat stage st) :
      Exchanged req .other st
  | answered {sent : Except IoError Nat} {st : Option Settlement}
      (hd : direction req = .deviceToHost) (h : Sent [] sent st) : Exchanged req .other st

/-- An event that is no setup. -/
def ofType (eventType : UInt8) : ControlEvent :=
  if eventType = EventType.enable then .enable
  else if eventType = EventType.disable then .disable
  else if eventType = EventType.unbind then .unbind
  else .other

/-- What the control loop is meant to do; it has no hooks. -/
def protocol : FunctionFs.Protocol (Watch Bool) ControlEvent where
  step := step
  event := ofType
  idle _ := .other
  closed := .other
  request _ := Exchanged

section Requests

variable {req : CtrlReq} {rs : List Report} {ss : List Settlement} {enabled : Watch Bool}

theorem triple_setup :
    Program.Triple Kernel.handle (Engaged (V := Unit) req rs ss enabled) (handle (.setup req))
      fun _ s k => ∃ i st, Exchanged req i st ∧ Settled req rs ss st (step enabled i) s k := by
  unfold Event.setup
  cases hd : direction req with
  | hostToDevice =>
      refine Program.triple_bind (triple_recvAsync hd req.length.toNat) fun stage =>
        Program.triple_pure ?_
      rintro s k ⟨st, hgot, h⟩
      exact ⟨.other, st, .read hd hgot, h⟩
  | deviceToHost =>
      refine Program.triple_bind (triple_sendAsync hd []) fun sent => Program.triple_pure ?_
      rintro s k ⟨st, hsent, h⟩
      exact ⟨.other, st, .answered hd hsent, h⟩

theorem triple_publish {e : ControlEvent} {value : Bool} (he : handleEvent e = some value) :
    Program.Triple Kernel.handle (Idle (V := Unit) rs ss enabled)
      (do
        updateHandler (Watch.send value)
        pure (.ok ()) : FunctionFs.Async (Watch Bool) Unit (Except IoError Unit))
      fun _ s k => Idle rs ss (step enabled e) s k := by
  intro s k h
  have hstep : step enabled e = enabled.send value := by
    unfold step
    rw [he]
  rw [hstep]
  exact ⟨congrArg (Watch.send value) h.handler, h.heard, h.settled, h.pending⟩

theorem triple_plain (req : CtrlReq) {eventType : UInt8} (ht : eventType ≠ EventType.setup) :
    Program.Triple Kernel.handle (Idle (V := Unit) rs ss enabled)
      (handle (.announced req eventType))
      fun _ s k => Idle rs ss (step enabled (ofType eventType)) s k := by
  have hplain := Event.plain_announced req ht
  generalize Event.announced req eventType = e at hplain ⊢
  cases hplain with
  | enable => exact triple_publish (e := .enable) rfl
  | disable => exact triple_publish (e := .disable) rfl
  | unbind => exact triple_publish (e := .unbind) rfl
  | other hen hdis hun h =>
      have hother : ofType eventType = .other := by
        unfold ofType
        rw [if_neg hen, if_neg hdis, if_neg hun]
      rw [hother]
      rcases h with rfl | rfl | rfl | rfl <;> exact Program.triple_pure fun _ _ h => h

end Requests

theorem settles : Settles handler protocol where
  setup _ _ _ _ := triple_setup
  plain req _ ht _ _ _ := triple_plain req ht
  idle _ := rfl
  closed _ := rfl

/-- What `Enable`, `Disable` and `Unbind` say of the connection. -/
def published : Report → Option Bool
  | .event _ eventType =>
      if eventType = EventType.enable then some true
      else if eventType = EventType.disable ∨ eventType = EventType.unbind then some false
      else none
  | .failure _ => none

theorem handleEvent_ofType (req : CtrlReq) (eventType : UInt8) :
    handleEvent (ofType eventType) = published (.event req eventType) := by
  by_cases hen : eventType = EventType.enable
  · subst hen
    rfl
  by_cases hdis : eventType = EventType.disable
  · subst hdis
    rfl
  by_cases hun : eventType = EventType.unbind
  · subst hun
    rfl
  simp [ofType, published, hen, hdis, hun, handleEvent]

/-- What a round publishes. -/
def publishedBy (e : Entry ControlEvent) : Option Bool := e.told.bind published

/-- A round publishes what it was told. -/
theorem apply_of_justifies {enabled : Watch Bool} {e : Entry ControlEvent}
    (h : protocol.Justifies enabled e) :
    protocol.apply enabled e =
      match publishedBy e with
      | some value => enabled.send value
      | none => enabled := by
  cases h with
  | request h =>
      cases h with
      | read hd h => rfl
      | answered hd h => rfl
  | plain ht =>
      rename_i req eventType
      show step enabled (ofType eventType) = match published (.event req eventType) with
        | some value => enabled.send value
        | none => enabled
      rw [← handleEvent_ofType]
      rfl
  | closed h => rfl
  | idle hc hs ht => rfl
  | passed hc h => rfl
  | removed => rfl

/-- The channel has the last value that was published. -/
theorem value_run {enabled : Watch Bool} {es : List (Entry ControlEvent)}
    (h : Along protocol.apply protocol.Justifies enabled es) :
    (run protocol.apply enabled es).value =
      ((es.filterMap publishedBy).getLast?).getD enabled.value := by
  induction es generalizing enabled with
  | nil => rfl
  | cons e es ih =>
      rw [run_cons, ih h.2, apply_of_justifies h.1]
      cases he : publishedBy e with
      | none => rw [List.filterMap_cons_none he]
      | some value =>
          rw [List.filterMap_cons_some he, List.getLast?_cons]
          rfl

end Control

/-- The control loop of fastboot: every request that was read has been read to its end or answered
with nothing before the next event, and the data loop is told what the last `Enable`, `Disable` or
`Unbind` said that was read from endpoint zero. -/
theorem fastboot_control_settles (turns : Nat → Turn Unit) :
    (∃ log, Logs Control.handler Control.protocol (Watch.channel false) turns log) ∧
      ∀ n, let x := FunctionFs.serve Control.handler (Watch.channel false) turns n
        x.served.handler.value =
          ((x.kernel.heard.filterMap Control.published).getLast?).getD false := by
  obtain ⟨log, hlogs⟩ := exists_logs Control.settles (Watch.channel false) turns
  refine ⟨⟨log, hlogs⟩, fun n => ?_⟩
  have hlog := hlogs.each n
  dsimp only
  rw [hlog.idle.handler, hlog.idle.heard, List.filterMap_filterMap]
  exact Control.value_run hlog.justified

end SummitUsbgadget.FastbootUsb
