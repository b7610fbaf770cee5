import SummitUsbgadget.FunctionFs.Ep0

/-!
# FunctionFS behind endpoint zero

What `functionfs.rs` and `ffs.rs` say of the other side: a setup that was read waits for its data
stage; an operation in its direction is the data stage, one in the other direction stalls it
(`EL2HLT`); once the host has sent a newer setup, the next operation fails with `EIDRM` and touches
nothing else. `Kernel` is a state machine with these rules, and everything that is not determined by
them is in its `turns`. One thing is assumed: a data stage that fails is over, like one that
succeeds. FunctionFS keeps a setup waiting if the transfer could not be queued or a signal has
interrupted the wait.

`heard` and `settled` are ghosts: what endpoint zero has told the loop, events as well as failures,
and what became of the setups among the events, in order. `Engaged` and `Settled` are the states of
a request that a handler works on, and `Idle` is the state between two events. Each operation of a
sender or a receiver has one triple over them.
-/

set_option autoImplicit false

namespace SummitUsbgadget.FunctionFs

open SummitUsbgadget.Lib
open SummitUsbgadget.DfuFunction (CtrlReq)

/-! ## The format of an event -/

def u16ToLeBytes (n : UInt16) : Bytes := [UInt8.ofNat n.toNat, UInt8.ofNat (n.toNat / 256)]

/-- The eight bytes of a setup packet. -/
def encodeCtrlReq (req : CtrlReq) : Vector UInt8 8 :=
  ⟨(req.requestType :: req.request ::
    (u16ToLeBytes req.value ++ u16ToLeBytes req.index ++ u16ToLeBytes req.length)).toArray, rfl⟩

/-- `usb_functionfs_event`: the setup packet, the type and three bytes of padding. -/
def encodeEvent (req : CtrlReq) (eventType : UInt8) : Bytes :=
  (encodeCtrlReq req).toList ++ [eventType, 0, 0, 0]

theorem u16_round_trip (n : UInt16) :
    u16FromLeBytes (UInt8.ofNat n.toNat) (UInt8.ofNat (n.toNat / 256)) = n := by
  have hn : n.toNat < 65536 := n.toNat_lt
  apply UInt16.toNat_inj.1
  simp only [u16FromLeBytes, UInt8.toNat_ofNat', UInt16.toNat_ofNat']
  omega

theorem parseCtrlReq_encode (req : CtrlReq) : parseCtrlReq (encodeCtrlReq req) = req := by
  have hparse : parseCtrlReq (encodeCtrlReq req) = ⟨req.requestType, req.request,
      u16FromLeBytes (UInt8.ofNat req.value.toNat) (UInt8.ofNat (req.value.toNat / 256)),
      u16FromLeBytes (UInt8.ofNat req.index.toNat) (UInt8.ofNat (req.index.toNat / 256)),
      u16FromLeBytes (UInt8.ofNat req.length.toNat) (UInt8.ofNat (req.length.toNat / 256))⟩ := rfl
  rw [hparse, u16_round_trip, u16_round_trip, u16_round_trip]

theorem length_encodeEvent (req : CtrlReq) (eventType : UInt8) :
    (encodeEvent req eventType).length = RawEvent.size := rfl

/-- An event with these bytes in front. -/
def Event.announced (req : CtrlReq) (eventType : UInt8) : Event :=
  Event.fromFfs ⟨encodeCtrlReq req, eventType⟩

/-- The event of a setup. -/
def Event.setup (req : CtrlReq) : Event :=
  match direction req with
  | .deviceToHost => .setupDeviceToHost req
  | .hostToDevice => .setupHostToDevice req

theorem Event.setupEvent_setup (req : CtrlReq) (before : Option Direction) :
    (Event.setup req).setupEvent before = some (direction req) := by
  unfold Event.setup
  cases direction req with
  | deviceToHost => rfl
  | hostToDevice => rfl

/-- A setup arrives as it was sent. -/
theorem Event.announced_setup (req : CtrlReq) :
    Event.announced req EventType.setup = .setup req := by
  show (match direction (parseCtrlReq (encodeCtrlReq req)) with
    | .deviceToHost => Event.setupDeviceToHost (parseCtrlReq (encodeCtrlReq req))
    | .hostToDevice => .setupHostToDevice (parseCtrlReq (encodeCtrlReq req))) = _
  rw [parseCtrlReq_encode]
  rfl

/-- What an event is that is no setup, by its type. -/
inductive Event.Plain : UInt8 → Event → Prop where
  | enable : Plain EventType.enable .enable
  | disable : Plain EventType.disable .disable
  | unbind : Plain EventType.unbind .unbind
  | other {eventType : UInt8} {e : Event} (hen : eventType ≠ EventType.enable)
      (hdis : eventType ≠ EventType.disable) (hun : eventType ≠ EventType.unbind)
      (h : e = .bind ∨ e = .suspend ∨ e = .resume ∨ e = .unknown eventType) : Plain eventType e

/-- Nothing else is taken for a setup, and nothing is refused. -/
theorem Event.plain_announced (req : CtrlReq) {eventType : UInt8}
    (ht : eventType ≠ EventType.setup) : Event.Plain eventType (.announced req eventType) := by
  by_cases hen : eventType = EventType.enable
  · subst hen
    exact .enable
  by_cases hdis : eventType = EventType.disable
  · subst hdis
    exact .disable
  by_cases hun : eventType = EventType.unbind
  · subst hun
    exact .unbind
  refine .other hen hdis hun ?_
  simp only [Event.announced, Event.fromFfs, if_neg ht, if_neg hen, if_neg hdis, if_neg hun]
  split
  · exact Or.inl rfl
  split
  · exact Or.inr (Or.inl rfl)
  split
  · exact Or.inr (Or.inr (Or.inl rfl))
  · exact Or.inr (Or.inr (Or.inr rfl))

/-! ## The other side of endpoint zero -/

/-- What became of a setup. -/
inductive Settlement where
  /-- These bytes were written for the host. -/
  | answered (data : Bytes)
  /-- These bytes came from the host. -/
  | received (data : Bytes)
  | stalled
  /-- The host had sent a newer setup. -/
  | superseded
  /-- The data stage failed. -/
  | failed (err : IoError)

/-- What endpoint zero tells a loop that waits: an event, with the packet of a setup in front or
anything else there, or why none has come. -/
inductive Report where
  | event (req : CtrlReq) (eventType : UInt8)
  | failure (err : IoError)

/-- What happens until the next query is answered, as far as the rules leave it open. -/
structure Turn (V : Type) where
  /-- The gadget is removed. -/
  removes : Bool
  /-- The host sends a newer setup. -/
  supersedes : Bool
  ready : Option (Except IoError Unit)
  event : Except IoError (CtrlReq × UInt8)
  outStage : Except IoError Bytes
  inStage : Except IoError Nat
  view : V

structure Kernel (V : Type) where
  removed : Bool
  /-- The setup that waits for its data stage. -/
  pending : Option CtrlReq
  heard : List Report
  settled : List Settlement
  turns : Nat → Turn V

namespace Kernel

variable {V : Type}

def new (turns : Nat → Turn V) : Kernel V := ⟨false, none, [], [], turns⟩

def turn (k : Kernel V) : Turn V := k.turns 0

def advance (k : Kernel V) : Kernel V := { k with turns := fun n => k.turns (n + 1) }

def settle (k : Kernel V) (st : Settlement) : Kernel V :=
  { k with pending := none, settled := k.settled ++ [st] }

def hear (k : Kernel V) (r : Report) : Kernel V := { k with heard := k.heard ++ [r] }

def osError (errno : Nat) : IoError := ⟨.other, some errno, s!"os error {errno}"⟩

/-- `EINVAL`. -/
def invalidInput : IoError := ⟨.invalidInput, some 22, "os error 22"⟩

/-- The error of an endpoint zero whose gadget is gone. -/
def gadgetRemoved : IoError := IoError.new .brokenPipe "USB gadget was removed"

/-- An event is read, if the buffer holds one. -/
def readEvent (k : Kernel V) (len : Nat) : Except IoError Bytes × Kernel V :=
  if len < RawEvent.size then (.error invalidInput, k.hear (.failure invalidInput))
  else
    match k.turn.event with
    | .error err => (.error err, k.hear (.failure err))
    | .ok (req, eventType) =>
        (.ok (encodeEvent req eventType),
          { k.hear (.event req eventType) with
            pending := if eventType = EventType.setup then some req else none })

def read (k : Kernel V) (len : Nat) : Except IoError Bytes × Kernel V :=
  match k.pending with
  | none => k.readEvent len
  | some req =>
      if k.turn.supersedes then (.error (osError errnoIdrm), k.settle .superseded)
      else
        match direction req with
        | .deviceToHost => (.error (osError errnoL2hlt), k.settle .stalled)
        | .hostToDevice =>
            match k.turn.outStage with
            | .ok data => (.ok (data.take len), k.settle (.received (data.take len)))
            | .error err => (.error err, k.settle (.failed err))

def write (k : Kernel V) (data : Bytes) : Except IoError Nat × Kernel V :=
  match k.pending with
  -- `ESRCH`
  | none => (.error (osError 3), k.hear (.failure (osError 3)))
  | some req =>
      if k.turn.supersedes then (.error (osError errnoIdrm), k.settle .superseded)
      else
        match direction req with
        | .hostToDevice => (.error (osError errnoL2hlt), k.settle .stalled)
        | .deviceToHost =>
            match k.turn.inStage with
            | .ok n => (.ok n, k.settle (.answered data))
            | .error err => (.error err, k.settle (.failed err))

/-- The end of a wait for endpoint zero. -/
def waited (k : Kernel V) : Except IoError Unit → Kernel V
  | .ok () => k
  | .error err => k.hear (.failure err)

/-- The file of endpoint zero. A gadget that is removed does not come back. -/
def file (k : Kernel V) : Except IoError Unit × Kernel V :=
  if k.removed || k.turn.removes then (.error gadgetRemoved, { k with removed := true })
  else (.ok (), k)

theorem file_cases (k : Kernel V) :
    k.file = (.error gadgetRemoved, { k with removed := true }) ∨
      (k.removed = false ∧ k.file = (.ok (), k)) := by
  unfold file
  cases hr : k.removed with
  | true => exact Or.inl rfl
  | false =>
      cases k.turn.removes with
      | true => exact Or.inl rfl
      | false => exact Or.inr ⟨rfl, rfl⟩

/-- A read while a setup waits for its data stage. -/
theorem read_of_pending {k : Kernel V} {req : CtrlReq} (h : k.pending = some req) (len : Nat) :
    k.read len = (.error (osError errnoIdrm), k.settle .superseded) ∨
      (direction req = .deviceToHost ∧
        k.read len = (.error (osError errnoL2hlt), k.settle .stalled)) ∨
      (direction req = .hostToDevice ∧ ∃ data : Bytes, k.read len =
        (.ok (data.take len), k.settle (.received (data.take len)))) ∨
      (direction req = .hostToDevice ∧
        ∃ err, k.read len = (.error err, k.settle (.failed err))) := by
  unfold read
  rw [h]
  simp only
  cases k.turn.supersedes with
  | true => exact Or.inl rfl
  | false =>
      refine Or.inr ?_
      cases direction req with
      | deviceToHost => exact Or.inl ⟨rfl, rfl⟩
      | hostToDevice =>
          cases k.turn.outStage with
          | ok data => exact Or.inr (Or.inl ⟨rfl, data, rfl⟩)
          | error err => exact Or.inr (Or.inr ⟨rfl, err, rfl⟩)

/-- A write while a setup waits for its data stage. -/
theorem write_of_pending {k : Kernel V} {req : CtrlReq} (h : k.pending = some req) (data : Bytes) :
    k.write data = (.error (osError errnoIdrm), k.settle .superseded) ∨
      (direction req = .hostToDevice ∧
        k.write data = (.error (osError errnoL2hlt), k.settle .stalled)) ∨
      (direction req = .deviceToHost ∧ ∃ n, k.write data = (.ok n, k.settle (.answered data))) ∨
      (direction req = .deviceToHost ∧
        ∃ err, k.write data = (.error err, k.settle (.failed err))) := by
  unfold write
  rw [h]
  simp only
  cases k.turn.supersedes with
  | true => exact Or.inl rfl
  | false =>
      refine Or.inr ?_
      cases direction req with
      | hostToDevice => exact Or.inl ⟨rfl, rfl⟩
      | deviceToHost =>
          cases k.turn.inStage with
          | ok n => exact Or.inr (Or.inl ⟨rfl, n, rfl⟩)
          | error err => exact Or.inr (Or.inr ⟨rfl, err, rfl⟩)

/-- A read stalls a setup that wants data sent, unless the host has sent another one. -/
theorem read_of_deviceToHost {k : Kernel V} {req : CtrlReq} (h : k.pending = some req)
    (hd : direction req = .deviceToHost) (len : Nat) :
    k.read len = (.error (osError errnoIdrm), k.settle .superseded) ∨
      k.read len = (.error (osError errnoL2hlt), k.settle .stalled) := by
  rcases read_of_pending h len with he | ⟨-, he⟩ | ⟨hd', -⟩ | ⟨hd', -⟩
  · exact Or.inl he
  · exact Or.inr he
  · exact absurd (hd.symm.trans hd') (by simp)
  · exact absurd (hd.symm.trans hd') (by simp)

/-- A write stalls a setup that sends data. -/
theorem write_of_hostToDevice {k : Kernel V} {req : CtrlReq} (h : k.pending = some req)
    (hd : direction req = .hostToDevice) (data : Bytes) :
    k.write data = (.error (osError errnoIdrm), k.settle .superseded) ∨
      k.write data = (.error (osError errnoL2hlt), k.settle .stalled) := by
  rcases write_of_pending h data with he | ⟨-, he⟩ | ⟨hd', -⟩ | ⟨hd', -⟩
  · exact Or.inl he
  · exact Or.inr he
  · exact absurd (hd.symm.trans hd') (by simp)
  · exact absurd (hd.symm.trans hd') (by simp)

/-- The answer to a query, and the state after it. -/
def handle : Handler (Kernel V) Query (Query.Answer V) := fun k q =>
  match q with
  | .ep0 => (k.file.1, k.file.2.advance)
  | .read len => ((k.read len).1, (k.read len).2.advance)
  | .write data => ((k.write data).1, (k.write data).2.advance)
  | .readable => (k.turn.ready.getD (.ok ()), (k.waited (k.turn.ready.getD (.ok ()))).advance)
  | .readableWithin _ =>
      (k.turn.ready, (k.waited (k.turn.ready.getD (.error endpointZeroIdle))).advance)
  | .look => (k.turn.view, k.advance)

end Kernel

/-! ## A request that is worked on -/

section Requests

variable {H V : Type}

/-- The handler `d` has been given `req`, and nobody has answered it. -/
structure Engaged (req : CtrlReq) (rs : List Report) (ss : List Settlement) (d : H) (s : Served H)
    (k : Kernel V) : Prop where
  setupEvent : s.setupEvent = some (direction req)
  handler : s.handler = d
  pending : k.pending = some req
  heard : k.heard = rs ++ [.event req EventType.setup]
  settled : k.settled = ss

/-- The handler is through with `req`. It was settled, once, unless the gadget was removed
before. -/
structure Settled (req : CtrlReq) (rs : List Report) (ss : List Settlement) (st : Option Settlement)
    (d : H) (s : Served H) (k : Kernel V) : Prop where
  handler : s.handler = d
  heard : k.heard = rs ++ [.event req EventType.setup]
  settled : k.settled = ss ++ st.toList
  pending : st.isSome → k.pending = none
  removed : st = none → k.removed = true

/-- No request is worked on, and none waits. -/
structure Idle (rs : List Report) (ss : List Settlement) (d : H) (s : Served H)
    (k : Kernel V) : Prop where
  handler : s.handler = d
  heard : k.heard = rs
  settled : k.settled = ss
  pending : k.removed = true ∨ k.pending = none

variable {req : CtrlReq} {rs : List Report} {ss : List Settlement} {d : H}

/-- What was heard before is in `rs`, and what became of the requests in it is in `ss`. -/
theorem Engaged.settle {s s' : Served H} {k : Kernel V} (h : Engaged req rs ss d s k)
    (st : Settlement) (hs : s'.handler = s.handler) :
    Settled req rs ss (some st) d s' (k.settle st).advance where
  handler := hs.trans h.handler
  heard := h.heard
  settled := congrArg (· ++ [st]) h.settled
  pending _ := rfl
  removed := nofun

theorem Engaged.remove {s : Served H} {k : Kernel V} (h : Engaged req rs ss d s k)
    (hr : k.removed = true) : Settled req rs ss none d s k where
  handler := h.handler
  heard := h.heard
  settled := by
    rw [h.settled]
    exact (List.append_nil ss).symm
  pending := nofun
  removed _ := hr

open Kernel

/-- A query, by what the kernel answers. -/
theorem triple_ask {P : Served H → Kernel V → Prop} {q : Query}
    {R : Query.Answer V q → Served H → Kernel V → Prop}
    (h : ∀ s k, P s k → R (handle k q).1 s (handle k q).2) : Program.Triple handle P (ask q) R := h

/-- A part of the handler that asks for nothing. -/
theorem triple_act {α : Type} {f : H → α × H} {P : Served H → Kernel V → Prop}
    {R : α → Served H → Kernel V → Prop}
    (h : ∀ s k, P s k → R (f s.handler).1 { s with handler := (f s.handler).2 } k) :
    Program.Triple handle P (act f) R := h

/-- The same while a request is worked on. -/
theorem triple_act_engaged {α : Type} {f : H → α × H} :
    Program.Triple handle (Engaged (V := V) req rs ss d) (act f) fun a s k =>
      a = (f d).1 ∧ Engaged req rs ss (f d).2 s k := by
  refine triple_act fun s k h => ?_
  rw [h.handler]
  exact ⟨rfl, h.setupEvent, rfl, h.pending, h.heard, h.settled⟩

/-- The same once the request is settled. -/
theorem triple_act_settled {α : Type} {st : Option Settlement} {f : H → α × H} :
    Program.Triple handle (Settled (V := V) req rs ss st d) (act f) fun a s k =>
      a = (f d).1 ∧ Settled req rs ss st (f d).2 s k := by
  refine triple_act fun s k h => ?_
  rw [h.handler]
  exact ⟨rfl, rfl, h.heard, h.settled, h.pending, h.removed⟩

/-- The file is there, or the gadget is gone and stays so. -/
theorem triple_ep0 :
    Program.Triple handle (Engaged (V := V) req rs ss d) ep0 fun r s k =>
      Engaged req rs ss d s k ∧ (r = .ok () ∨ (r = .error gadgetRemoved ∧ k.removed = true)) := by
  refine triple_ask fun s k h => ?_
  show Engaged req rs ss d s k.file.2.advance ∧
    (k.file.1 = .ok () ∨ (k.file.1 = .error gadgetRemoved ∧ k.file.2.advance.removed = true))
  rcases k.file_cases with hf | ⟨-, hf⟩
  · rw [hf]
    exact ⟨⟨h.setupEvent, h.handler, h.pending, h.heard, h.settled⟩, Or.inr ⟨rfl, rfl⟩⟩
  · rw [hf]
    exact ⟨⟨h.setupEvent, h.handler, h.pending, h.heard, h.settled⟩, Or.inl rfl⟩

/-- What is done with the file, as long as it is there. -/
theorem triple_with_ep0 {α : Type} {f : Unit → Async H V (Except IoError α)}
    {R : Except IoError α → Served H → Kernel V → Prop}
    (hf : Program.Triple handle (Engaged req rs ss d) (f ()) R)
    (hgone : ∀ s k, Engaged req rs ss d s k → k.removed = true → R (.error gadgetRemoved) s k) :
    Program.Triple handle (Engaged req rs ss d) (Program.attempt ep0 f) R := by
  refine Program.triple_attempt triple_ep0 ?_ fun _ => ?_
  · rintro err s k ⟨h, hr | ⟨hr, hremoved⟩⟩
    · cases hr
    · cases hr
      exact hgone s k h hremoved
  · exact Program.triple_conseq hf (fun s k h => h.1) fun _ _ _ h => h

/-- The read or the write of a stall, as the kernel answers it. -/
def Refused (req : CtrlReq) (rs : List Report) (ss : List Settlement) (d : H) {α : Type}
    (r : Except IoError α) (s : Served H) (k : Kernel V) : Prop :=
  (r = .error (osError errnoL2hlt) ∧ Settled req rs ss (some .stalled) d s k) ∨
    (r = .error (osError errnoIdrm) ∧ Settled req rs ss (some .superseded) d s k)

theorem Engaged.refused {α : Type} {s : Served H} {k : Kernel V} (h : Engaged req rs ss d s k)
    {res : Except IoError α × Kernel V}
    (hres : res = (.error (osError errnoIdrm), k.settle .superseded) ∨
      res = (.error (osError errnoL2hlt), k.settle .stalled)) :
    Refused req rs ss d res.1 s res.2.advance := by
  rcases hres with rfl | rfl
  · exact Or.inr ⟨rfl, h.settle .superseded rfl⟩
  · exact Or.inl ⟨rfl, h.settle .stalled rfl⟩

/-- A stall ends the request; the error says whether the host had sent another one before. -/
theorem triple_stall :
    Program.Triple handle (Engaged (V := V) req rs ss d) (stall (direction req)) fun r s k =>
      (r = .ok () ∧ Settled req rs ss (some .stalled) d s k) ∨
        (r = .error (osError errnoIdrm) ∧ Settled req rs ss (some .superseded) d s k) := by
  cases hd : direction req with
  | deviceToHost =>
      have hread : Program.Triple handle (Engaged (V := V) req rs ss d) (ask (.read 1))
          (Refused req rs ss d) :=
        triple_ask fun s k h => h.refused (read_of_deviceToHost h.pending hd 1)
      refine Program.triple_bind hread fun r => ?_
      rintro s k (⟨rfl, h⟩ | ⟨rfl, h⟩)
      · exact Or.inl ⟨rfl, h⟩
      · exact Or.inr ⟨rfl, h⟩
  | hostToDevice =>
      have hwrite : Program.Triple handle (Engaged (V := V) req rs ss d) (ask (.write [0]))
          (Refused req rs ss d) :=
        triple_ask fun s k h => h.refused (write_of_hostToDevice h.pending hd [0])
      refine Program.triple_bind hwrite fun r => ?_
      rintro s k (⟨rfl, h⟩ | ⟨rfl, h⟩)
      · exact Or.inl ⟨rfl, h⟩
      · exact Or.inr ⟨rfl, h⟩

/-- A request that is dropped is stalled, unless it is too late for that. -/
def Dropped (st : Option Settlement) : Prop := st = some .stalled ∨
    st = some .superseded ∨ st = none

theorem triple_dropRequest {dir : Direction} (hd : direction req = dir) :
    Program.Triple handle (Engaged (V := V) req rs ss d) (dropRequest dir) fun _ s k =>
      ∃ st, Dropped st ∧ Settled req rs ss st d s k := by
  subst hd
  have hhalt : Program.Triple handle (Engaged (V := V) req rs ss d) (doHalt (direction req))
      fun _ s k => ∃ st, Dropped st ∧ Settled req rs ss st d s k := by
    refine triple_with_ep0 ?_ fun s k h hr => ⟨none, Or.inr (Or.inr rfl), h.remove hr⟩
    refine Program.triple_attempt triple_stall ?_ fun _ => ?_
    · rintro err s k (⟨hr, -⟩ | ⟨-, h⟩)
      · cases hr
      · exact ⟨_, Or.inr (Or.inl rfl), h⟩
    · rintro s k (⟨-, h⟩ | ⟨hr, -⟩)
      · exact ⟨_, Or.inl rfl, h.handler, h.heard, h.settled, h.pending, h.removed⟩
      · cases hr
  refine Program.triple_read fun setupEvent => ?_
  refine Program.triple_ite (fun _ => ?_) fun hnone => ?_
  · exact Program.triple_bind (Program.triple_conseq hhalt (fun s k h => h.1) fun _ _ _ h => h)
      fun _ => Program.triple_pure fun _ _ h => h
  · rintro s k ⟨h, hs⟩
    rw [h.setupEvent] at hs
    rw [← hs] at hnone
    exact absurd rfl hnone

/-- After the request was answered there is nothing to drop. -/
theorem triple_dropRequest_answered {dir : Direction} {R : Served H → Kernel V → Prop} :
    Program.Triple handle (fun s k => R s k ∧ s.setupEvent = none) (dropRequest dir)
      fun _ s k => R s k := by
  refine Program.triple_read fun setupEvent => ?_
  refine Program.triple_ite (fun hsome => ?_) fun _ => Program.triple_pure fun s k h => h.1.1
  rintro s k ⟨⟨-, hnone⟩, hs⟩
  rw [hnone] at hs
  rw [← hs] at hsome
  cases hsome

/-- What became of a request that `data` was sent for. -/
inductive Sent (data : Bytes) : Except IoError Nat → Option Settlement → Prop where
  | answered (n : Nat) : Sent data (.ok n) (some (.answered data))
  | superseded : Sent data (.error (osError errnoIdrm)) (some .superseded)
  | failed (err : IoError) : Sent data (.error err) (some (.failed err))
  | removed : Sent data (.error gadgetRemoved) none

/-- What became of a request whose data was read into a buffer of `len` bytes. -/
inductive Got (len : Nat) : Except IoError Bytes → Option Settlement → Prop where
  | received (data : Bytes) (hlen : data.length ≤ len) : Got len (.ok data) (some (.received data))
  | superseded : Got len (.error (osError errnoIdrm)) (some .superseded)
  | failed (err : IoError) : Got len (.error err) (some (.failed err))
  | removed : Got len (.error gadgetRemoved) none

/-- With the gadget gone there is no endpoint to stall. -/
theorem triple_dropRequest_removed {dir : Direction} :
    Program.Triple handle (fun s k => Engaged (V := V) req rs ss d s k ∧ k.removed = true)
      (dropRequest dir) fun _ s k => Settled req rs ss none d s k := by
  have hhalt : Program.Triple handle
      (fun s k => Engaged (V := V) req rs ss d s k ∧ k.removed = true)
      (doHalt dir) fun _ s k => Settled req rs ss none d s k := by
    have hep0 : Program.Triple handle
        (fun s k => Engaged (V := V) req rs ss d s k ∧ k.removed = true)
        ep0 fun r s k => r = .error gadgetRemoved ∧ Settled req rs ss none d s k := by
      refine triple_ask fun s k ⟨h, hr⟩ => ?_
      have hfile : k.file = (.error gadgetRemoved, { k with removed := true }) := by
        unfold Kernel.file
        rw [hr]
        rfl
      show k.file.1 = _ ∧ Settled req rs ss none d s k.file.2.advance
      rw [hfile]
      exact ⟨rfl, h.handler, h.heard, (h.remove hr).settled, nofun, fun _ => rfl⟩
    refine Program.triple_attempt hep0 (fun err s k h => h.2) fun _ => ?_
    rintro s k ⟨hr, -⟩
    cases hr
  refine Program.triple_read fun setupEvent => ?_
  refine Program.triple_ite (fun _ => ?_) fun _ => ?_
  · exact Program.triple_bind (Program.triple_conseq hhalt (fun s k h => h.1) fun _ _ _ h => h)
      fun _ => Program.triple_pure fun _ _ h => h
  · exact Program.triple_pure fun s k h => h.1.1.remove h.1.2

/-- A sender or a receiver that has done its operation, with the result `r`, is dropped: it stalls
nothing. If it could not do it, the gadget is gone. -/
theorem triple_after {α : Type} {dir : Direction} {r : Except IoError α}
    {R : Except IoError α → Option Settlement → Prop} (hgone : R (.error gadgetRemoved) none) :
    Program.Triple handle
      (fun s k =>
        (r = .error gadgetRemoved ∧ k.removed = true ∧ Engaged (V := V) req rs ss d s k) ∨
          ((∃ st, R r st ∧ Settled req rs ss st d s k) ∧ s.setupEvent = none))
      (do
        dropRequest dir
        pure r)
      fun r s k => ∃ st, R r st ∧ Settled req rs ss st d s k := by
  refine Program.triple_intro fun s k h => ?_
  rcases h with ⟨rfl, hr, h⟩ | h
  · refine ⟨_, ⟨h, hr⟩, Program.triple_bind triple_dropRequest_removed fun _ => ?_⟩
    exact Program.triple_pure fun _ _ h => ⟨none, hgone, h⟩
  · exact ⟨_, h, Program.triple_bind triple_dropRequest_answered fun _ =>
      Program.triple_pure fun _ _ h => h⟩

/-- The answer of a handler goes to the request that it was made for, or to none. -/
theorem triple_sendAsync (hd : direction req = .deviceToHost) (data : Bytes) :
    Program.Triple handle (Engaged (V := V) req rs ss d) (sendAsync data) fun r s k =>
      ∃ st, Sent data r st ∧ Settled req rs ss st d s k := by
  refine Program.triple_bind ?_ fun r => triple_after .removed
  refine triple_with_ep0 ?_ fun s k h hr => Or.inl ⟨rfl, hr, h⟩
  intro s k h
  show _ ∨ ((∃ st, Sent data (k.write data).1 st ∧
    Settled req rs ss st d { s with setupEvent := none } (k.write data).2.advance) ∧ none = none)
  refine Or.inr ⟨?_, rfl⟩
  rcases write_of_pending h.pending data with he | ⟨hd', -⟩ | ⟨-, n, he⟩ | ⟨-, err, he⟩
  · rw [he]
    exact ⟨_, .superseded, h.settle .superseded rfl⟩
  · exact absurd (hd.symm.trans hd') (by simp)
  · rw [he]
    exact ⟨_, .answered n, h.settle (.answered data) rfl⟩
  · rw [he]
    exact ⟨_, .failed err, h.settle (.failed err) rfl⟩

/-- The data that a handler gets is that of its request. -/
theorem triple_recvAsync (hd : direction req = .hostToDevice) (len : Nat) :
    Program.Triple handle (Engaged (V := V) req rs ss d) (recvAsync len) fun r s k =>
      ∃ st, Got len r st ∧ Settled req rs ss st d s k := by
  refine Program.triple_bind ?_ fun r => triple_after .removed
  refine triple_with_ep0 ?_ fun s k h hr => Or.inl ⟨rfl, hr, h⟩
  intro s k h
  show _ ∨ ((∃ st, Got len ((k.read len).1.map (List.take len)) st ∧
    Settled req rs ss st d { s with setupEvent := none } (k.read len).2.advance) ∧ none = none)
  refine Or.inr ⟨?_, rfl⟩
  rcases read_of_pending h.pending len with he | ⟨hd', -⟩ | ⟨-, data, he⟩ | ⟨-, err, he⟩
  · rw [he]
    exact ⟨_, .superseded, h.settle .superseded rfl⟩
  · exact absurd (hd.symm.trans hd') (by simp)
  · rw [he]
    have htake : (Except.ok (data.take len) : Except IoError Bytes).map (List.take len) =
        .ok (data.take len) := by
      show Except.ok ((data.take len).take len) = _
      rw [List.take_take, Nat.min_self]
    rw [htake]
    exact ⟨_, .received (data.take len) (List.length_take_le len data),
      h.settle (.received (data.take len)) rfl⟩
  · rw [he]
    exact ⟨_, .failed err, h.settle (.failed err) rfl⟩

end Requests

end SummitUsbgadget.FunctionFs
