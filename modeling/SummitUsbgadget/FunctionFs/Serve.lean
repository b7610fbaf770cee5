import SummitUsbgadget.Lib.Machine
import SummitUsbgadget.FunctionFs.Kernel

/-!
# The endpoint-zero loop

`serve` over an endpoint zero that keeps the rules of FunctionFS, whatever the host does and
whenever the gadget is removed. `Protocol` says what a function is meant to do with what endpoint
zero tells it, and `Settles` that a handler does so and is through with a request when it returns.
Then a run of the loop has a log (`Log`) with one entry per round: what endpoint zero has told the
loop in that round, the step that the handler has made for it, and what became of the request. The
entries are those of `heard`, so no event is passed over and no step is made without one, and every
round adds its entry to the log of the rounds before it (`Logs`).

Between two events no request waits. The one request that may go without an answer is the last one
before the gadget was removed.
-/

set_option autoImplicit false

namespace SummitUsbgadget.FunctionFs

open SummitUsbgadget.Lib
open SummitUsbgadget.DfuFunction (CtrlReq)
open Kernel

section Next

variable {H V : Type} {rs : List Report} {ss : List Settlement} {d : H}

/-! ## The next event -/

/-- No request waits, also none that a removed gadget has left. -/
structure Vacant (rs : List Report) (ss : List Settlement) (d : H) (s : Served H) (k : Kernel V) :
    Prop where
  handler : s.handler = d
  heard : k.heard = rs
  settled : k.settled = ss
  pending : k.pending = none

theorem Vacant.idle {s : Served H} {k : Kernel V} (h : Vacant rs ss d s k) : Idle rs ss d s k :=
  ⟨h.handler, h.heard, h.settled, Or.inr h.pending⟩

/-- No event has come: endpoint zero has told why, or it is gone. -/
inductive Missed (rs : List Report) (ss : List Settlement) (d : H) (s : Served H) (k : Kernel V) :
    IoError → Prop where
  | failed {err : IoError} (h : Idle (rs ++ [.failure err]) ss d s k) : Missed rs ss d s k err
  | removed (hr : k.removed = true) (h : Idle rs ss d s k) : Missed rs ss d s k gadgetRemoved

/-- A failure that endpoint zero tells while nothing waits. -/
theorem Vacant.missed {s s' : Served H} {k : Kernel V} (h : Vacant rs ss d s k) (err : IoError)
    (hsame : s'.handler = s.handler) : Missed rs ss d s' (k.hear (.failure err)).advance err :=
  .failed ⟨hsame.trans h.handler, congrArg (· ++ [Report.failure err]) h.heard, h.settled,
    Or.inr h.pending⟩

/-- While the file is there, a request that waited would have been settled. -/
theorem triple_ep0_idle {C : Served H → Prop} :
    Program.Triple handle (fun s k => Idle (V := V) rs ss d s k ∧ C s) ep0 fun r s k =>
      (r = .ok () ∧ Vacant rs ss d s k ∧ C s) ∨ ∃ err, r = .error err ∧ Missed rs ss d s k err := by
  refine triple_ask fun s k ⟨h, hC⟩ => ?_
  show (k.file.1 = .ok () ∧ Vacant rs ss d s k.file.2.advance ∧ C s) ∨
    ∃ err, k.file.1 = .error err ∧ Missed rs ss d s k.file.2.advance err
  rcases k.file_cases with hf | ⟨hr, hf⟩
  · rw [hf]
    exact Or.inr ⟨_, rfl, .removed rfl ⟨h.handler, h.heard, h.settled, Or.inl rfl⟩⟩
  · rw [hf]
    rcases h.pending with hremoved | hpending
    · exact absurd (hr.symm.trans hremoved) (by simp)
    · exact Or.inl ⟨rfl, ⟨h.handler, h.heard, h.settled, hpending⟩, hC⟩

/-- What is done between two events with the file, as long as it is there. -/
theorem triple_idle_with_ep0 {α : Type} {C : Served H → Prop}
    {f : Unit → Async H V (Except IoError α)} {R : Except IoError α → Served H → Kernel V → Prop}
    (hf : Program.Triple handle (fun s k => Vacant rs ss d s k ∧ C s) (f ()) R)
    (hmissed : ∀ err s k, Missed rs ss d s k err → R (.error err) s k) :
    Program.Triple handle (fun s k => Idle rs ss d s k ∧ C s) (Program.attempt ep0 f) R := by
  refine Program.triple_attempt triple_ep0_idle ?_ fun _ => ?_
  · rintro err s k (⟨hr, -⟩ | ⟨err', hr, h⟩)
    · cases hr
    · cases hr
      exact hmissed err s k h
  · refine Program.triple_conseq hf ?_ fun _ _ _ h => h
    rintro s k (⟨-, h⟩ | ⟨err, hr, -⟩)
    · exact h
    · cases hr

/-- With no request there is nothing to stall, and endpoint zero says so. -/
theorem triple_stall_vacant (dir : Direction) :
    Program.Triple handle (Vacant (V := V) rs ss d) (stall dir) fun r s k =>
      ∃ err, r = .error err ∧ Missed rs ss d s k err := by
  cases dir with
  | deviceToHost =>
      have hread : Program.Triple handle (Vacant (V := V) rs ss d) (ask (.read 1)) fun r s k =>
          r = .error invalidInput ∧ Missed rs ss d s k invalidInput := by
        refine triple_ask fun s k h => ?_
        show (k.read 1).1 = _ ∧ Missed rs ss d s (k.read 1).2.advance _
        have hshort : k.read 1 = (.error invalidInput, k.hear (.failure invalidInput)) := by
          unfold Kernel.read
          rw [h.pending]
          rfl
        rw [hshort]
        exact ⟨rfl, h.missed invalidInput rfl⟩
      refine Program.triple_bind hread fun r => ?_
      rintro s k ⟨rfl, h⟩
      exact ⟨invalidInput, rfl, h⟩
  | hostToDevice =>
      have hwrite : Program.Triple handle (Vacant (V := V) rs ss d) (ask (.write [0])) fun r s k =>
          r = .error (osError 3) ∧ Missed rs ss d s k (osError 3) := by
        refine triple_ask fun s k h => ?_
        show (k.write [0]).1 = _ ∧ Missed rs ss d s (k.write [0]).2.advance _
        have hnone : k.write [0] = (.error (osError 3), k.hear (.failure (osError 3))) := by
          unfold Kernel.write
          rw [h.pending]
        rw [hnone]
        exact ⟨rfl, h.missed (osError 3) rfl⟩
      refine Program.triple_bind hwrite fun r => ?_
      rintro s k ⟨rfl, h⟩
      exact ⟨osError 3, rfl, h⟩

/-- How far the loop has got on its way to an event. -/
inductive Waited (rs : List Report) (ss : List Settlement) (d : H) (s : Served H) (k : Kernel V) :
    Except IoError Unit → Prop where
  | ready (h : Idle rs ss d s k) (hs : s.setupEvent = none) : Waited rs ss d s k (.ok ())
  | missed {err : IoError} (h : Missed rs ss d s k err) : Waited rs ss d s k (.error err)

theorem triple_clearPrevEvent :
    Program.Triple handle (Idle (V := V) rs ss d) clearPrevEvent fun r s k =>
      Waited rs ss d s k r := by
  refine Program.triple_conseq (P := fun s k => Idle rs ss d s k ∧ True) ?_
    (fun s k h => ⟨h, trivial⟩) fun _ _ _ h => h
  refine triple_idle_with_ep0 ?_ fun err s k h => .missed h
  refine Program.triple_read fun prev => ?_
  rintro s k ⟨⟨h, -⟩, -⟩
  have hvacant : Vacant rs ss d { s with setupEvent := none } k :=
    ⟨h.handler, h.heard, h.settled, h.pending⟩
  cases prev with
  | none => exact .ready hvacant.idle rfl
  | some dir =>
      -- a request that was forgotten by both sides
      obtain ⟨err, hr, hmissed⟩ := triple_stall_vacant dir _ k hvacant
      have hwaited : Waited rs ss d _ _ (.error err) := .missed hmissed
      rw [← hr] at hwaited
      exact hwaited

theorem triple_waitEvent (limit : Option Nat) :
    Program.Triple handle (fun s k => Idle (V := V) rs ss d s k ∧ s.setupEvent = none)
      (waitEvent limit) fun r s k => Waited rs ss d s k r := by
  have hwaited : ∀ (r : Except IoError Unit) (s : Served H) (k : Kernel V), Vacant rs ss d s k →
      s.setupEvent = none → Waited rs ss d s (k.waited r).advance r := by
    intro r s k h hs
    cases r with
    | ok _ => exact .ready ⟨h.handler, h.heard, h.settled, Or.inr h.pending⟩ hs
    | error err => exact .missed (h.missed err rfl)
  refine triple_idle_with_ep0 ?_ fun err s k h => .missed h
  cases limit with
  | none => exact triple_ask fun s k ⟨h, hs⟩ => hwaited _ s k h hs
  | some ms =>
      refine Program.triple_bind (M := fun r s k =>
        Waited rs ss d s k (r.getD (.error endpointZeroIdle))) ?_ fun r =>
          Program.triple_pure fun _ _ h => h
      exact triple_ask fun s k ⟨h, hs⟩ => hwaited _ s k h hs

/-- What the loop has in hand when it has waited for an event. -/
inductive Arrived (rs : List Report) (ss : List Settlement) (d : H) (s : Served H) (k : Kernel V) :
    Except IoError Event → Prop where
  | setup {req : CtrlReq} (h : Engaged req rs ss d s k) : Arrived rs ss d s k (.ok (.setup req))
  | plain {req : CtrlReq} {eventType : UInt8} (ht : eventType ≠ EventType.setup)
      (h : Idle (rs ++ [.event req eventType]) ss d s k) :
      Arrived rs ss d s k (.ok (.announced req eventType))
  | missed {err : IoError} (h : Missed rs ss d s k err) : Arrived rs ss d s k (.error err)

/-- The bytes of an event, by what the kernel has read for them. -/
inductive Fetched (rs : List Report) (ss : List Settlement) (d : H) (s : Served H) (k : Kernel V) :
    Except IoError Bytes → Prop where
  | event {req : CtrlReq} {eventType : UInt8} (hr : k.heard = rs ++ [.event req eventType])
      (hp : k.pending = if eventType = EventType.setup then some req else none)
      (hs : k.settled = ss) (hd : s.handler = d) :
      Fetched rs ss d s k (.ok (encodeEvent req eventType))
  | missed {err : IoError} (h : Missed rs ss d s k err) : Fetched rs ss d s k (.error err)

theorem triple_fetch :
    Program.Triple handle (fun s k => Vacant (V := V) rs ss d s k ∧ s.setupEvent = none)
      (ask (.read RawEvent.size)) fun r s k => Fetched rs ss d s k r ∧ s.setupEvent = none := by
  refine triple_ask fun s k ⟨h, hs⟩ => ⟨?_, hs⟩
  show Fetched rs ss d s (k.read RawEvent.size).2.advance (k.read RawEvent.size).1
  have hread : k.read RawEvent.size = k.readEvent RawEvent.size := by
    unfold Kernel.read
    rw [h.pending]
  rw [hread]
  unfold Kernel.readEvent
  rw [if_neg (Nat.lt_irrefl _)]
  cases k.turn.event with
  | error err => exact .missed (h.missed err rfl)
  | ok sent =>
      obtain ⟨req, eventType⟩ := sent
      exact .event (congrArg (· ++ [Report.event req eventType]) h.heard) rfl h.settled h.handler

theorem triple_readEvent :
    Program.Triple handle (fun s k => Idle (V := V) rs ss d s k ∧ s.setupEvent = none)
      FunctionFs.readEvent fun r s k => Arrived rs ss d s k r := by
  refine triple_idle_with_ep0 ?_ fun err s k h => .missed h
  refine Program.triple_attempt triple_fetch ?_ fun buf => ?_
  · rintro err s k ⟨hf, -⟩
    cases hf with
    | missed h => exact .missed h
  · rintro s k ⟨hf, hs⟩
    cases hf with
    | event hr hp hsettled hd =>
        rename_i req eventType
        rw [dif_pos (length_encodeEvent req eventType)]
        show Arrived rs ss d
          { s with setupEvent := (Event.announced req eventType).setupEvent s.setupEvent } k
          (.ok (.announced req eventType))
        by_cases ht : eventType = EventType.setup
        · subst ht
          rw [Event.announced_setup]
          exact .setup ⟨Event.setupEvent_setup req _, hd, hp, hr, hsettled⟩
        · rw [if_neg ht] at hp
          exact .plain ht ⟨hd, hr, hsettled, Or.inr hp⟩

/-- An event is read only when no request waits, and a setup that is read is handed out. -/
theorem triple_next (limit : Option Nat) :
    Program.Triple handle (Idle (V := V) rs ss d) (next limit) fun r s k =>
      Arrived rs ss d s k r := by
  have hmissed : ∀ err (s : Served H) (k : Kernel V), Waited rs ss d s k (.error err) →
      Arrived rs ss d s k (.error err) := by
    intro err s k h
    cases h with
    | missed h => exact .missed h
  have hready : ∀ (s : Served H) (k : Kernel V), Waited rs ss d s k (.ok ()) →
      Idle rs ss d s k ∧ s.setupEvent = none := by
    intro s k h
    cases h with
    | ready h hs => exact ⟨h, hs⟩
  refine Program.triple_attempt triple_clearPrevEvent hmissed fun _ => ?_
  refine Program.triple_attempt (M := fun r s k => Waited rs ss d s k r) ?_ hmissed fun _ => ?_
  · exact Program.triple_conseq (triple_waitEvent limit) hready fun _ _ _ h => h
  · exact Program.triple_conseq triple_readEvent hready fun _ _ _ h => h

/-- With the gadget gone there is no next event. -/
theorem triple_next_removed (limit : Option Nat) :
    Program.Triple handle (fun s k => Idle (V := V) rs ss d s k ∧ k.removed = true) (next limit)
      fun r s k => r = .error gadgetRemoved ∧ Idle rs ss d s k ∧ k.removed = true := by
  have hep0 : Program.Triple handle (fun s k => Idle (V := V) rs ss d s k ∧ k.removed = true) ep0
      fun r s k => r = .error gadgetRemoved ∧ Idle rs ss d s k ∧ k.removed = true := by
    refine triple_ask fun s k ⟨h, hr⟩ => ?_
    show k.file.1 = _ ∧ Idle rs ss d s k.file.2.advance ∧ k.file.2.removed = true
    rcases k.file_cases with hf | ⟨hr', -⟩
    · rw [hf]
      exact ⟨rfl, ⟨h.handler, h.heard, h.settled, Or.inl rfl⟩, rfl⟩
    · exact absurd (hr'.symm.trans hr) (by simp)
  refine Program.triple_attempt (M := fun r s k => r = .error gadgetRemoved ∧ Idle rs ss d s k ∧
    k.removed = true) ?_ (fun err s k h => ?_) fun _ => ?_
  · refine Program.triple_attempt hep0 (fun err s k h => ?_) fun _ => ?_
    · obtain ⟨he, h⟩ := h
      cases he
      exact ⟨rfl, h⟩
    · rintro s k ⟨he, -⟩
      cases he
  · obtain ⟨he, h⟩ := h
    cases he
    exact ⟨rfl, h⟩
  · rintro s k ⟨he, -⟩
    cases he

end Next

/-! ## The loop -/

/-- The loop between two events. -/
structure Loop (H V : Type) where
  goesOn : Bool
  served : Served H
  kernel : Kernel V

def Loop.of {H V : Type} (r : Bool × Served H × Kernel V) : Loop H V := ⟨r.1, r.2.1, r.2.2⟩

/-- One round; a loop that has ended stays as it is. -/
def Loop.round {H V : Type} (h : EventHandler H V) (x : Loop H V) : Loop H V :=
  if x.goesOn then .of (Program.execIn handle (serveStep h) x.served x.kernel) else x

/-- `serve` after `n` rounds. -/
def serve {H V : Type} (h : EventHandler H V) (d : H) (turns : Nat → Turn V) : Nat → Loop H V
  | 0 => .of (Program.execIn handle start ⟨none, d⟩ (.new turns))
  | n + 1 => (serve h d turns n).round h

/-! ## What a function is meant to do -/

/-- What a round has done: what endpoint zero has told, or nothing if it is gone; the step that the
handler has made for it; and what became of the request. -/
structure Entry (I : Type) where
  told : Option Report
  input : Option I
  settlement : Option Settlement

/-- The request that an entry is about. -/
def Entry.request {I : Type} (e : Entry I) : Option CtrlReq :=
  match e.told with
  | some (.event req eventType) => if eventType = EventType.setup then some req else none
  | _ => none

/-- A request without an answer. -/
def Entry.Lost {I : Type} (e : Entry I) : Prop := e.request.isSome = true ∧ e.settlement = none

/-- A function as a state machine: its inputs for the events, for a wait that has timed out and for
an endpoint zero that is gone, and what may become of a request that it meets in a state. -/
structure Protocol (H I : Type) where
  step : H → I → H
  event : UInt8 → I
  idle : H → I
  closed : I
  request : H → CtrlReq → I → Option Settlement → Prop

namespace Protocol

variable {H I : Type}

/-- The step of an entry. -/
def apply (p : Protocol H I) (d : H) (e : Entry I) : H :=
  match e.input with
  | some i => p.step d i
  | none => d

/-- What a round does, by what endpoint zero has told it. -/
inductive Justifies (p : Protocol H I) (d : H) : Entry I → Prop where
  | request {req : CtrlReq} {i : I} {st : Option Settlement} (h : p.request d req i st) :
      Justifies p d ⟨some (.event req EventType.setup), some i, st⟩
  | plain {req : CtrlReq} {eventType : UInt8} (ht : eventType ≠ EventType.setup) :
      Justifies p d ⟨some (.event req eventType), some (p.event eventType), none⟩
  /-- The endpoint was torn down. -/
  | closed {err : IoError} (h : isTornDownTransportError err = true) :
      Justifies p d ⟨some (.failure err), some p.closed, none⟩
  | idle {err : IoError} (hc : isTornDownTransportError err = false)
      (hs : isSetupSupersededError err = false) (ht : err.kind = .timedOut) :
      Justifies p d ⟨some (.failure err), some (p.idle d), none⟩
  /-- Every other failure is passed over. -/
  | passed {err : IoError} (hc : isTornDownTransportError err = false)
      (h : isSetupSupersededError err = true ∨ err.kind ≠ .timedOut) :
      Justifies p d ⟨some (.failure err), none, none⟩
  /-- The gadget was removed. -/
  | removed : Justifies p d ⟨none, some p.closed, none⟩

end Protocol

/-- The handler follows the protocol, and when it returns it is through with its request. -/
structure Settles {H V I : Type} (h : EventHandler H V) (p : Protocol H I) : Prop where
  setup : ∀ req rs ss d, Program.Triple handle (Engaged req rs ss d) (h.handleEvent (.setup req))
    fun _ s k => ∃ i st, p.request d req i st ∧ Settled req rs ss st (p.step d i) s k
  plain : ∀ req eventType, eventType ≠ EventType.setup → ∀ rs ss d,
    Program.Triple handle (Idle rs ss d) (h.handleEvent (.announced req eventType))
      fun _ s k => Idle rs ss (p.step d (p.event eventType)) s k
  idle : ∀ d, h.onIdleTimeout d = p.step d (p.idle d)
  closed : ∀ d, h.onTransportClosed d = p.step d p.closed

/-! ## Logs -/

/-- What the rounds so far have done, in order. -/
structure Log {H V I : Type} (p : Protocol H I) (d₀ : H) (es : List (Entry I)) (s : Served H)
    (k : Kernel V) : Prop where
  /-- The handler is where the entries take it, and they are all that endpoint zero has told and all
  that has become of the requests. -/
  idle : Idle (es.filterMap Entry.told) (es.filterMap Entry.settlement) (run p.apply d₀ es) s k
  justified : Along p.apply p.Justifies d₀ es
  /-- Only with the gadget gone can a request be without an answer. -/
  complete : k.removed = false → ∀ e ∈ es, ¬ e.Lost
  /-- It is then the last one. -/
  last : es.Pairwise fun e e' => e.Lost → e'.told = none
  gone : ∀ e ∈ es, e.told = none → k.removed = true

namespace Log

variable {H V I : Type} {p : Protocol H I} {d₀ : H} {es : List (Entry I)} {s s' : Served H}
  {k k' : Kernel V}

theorem filterMap_concat {β : Type} (f : Entry I → Option β) (es : List (Entry I)) (e : Entry I) :
    (es ++ [e]).filterMap f = es.filterMap f ++ (f e).toList := by
  rw [List.filterMap_append]
  cases hf : f e with
  | none => simp [hf]
  | some b => simp [hf]

theorem nil (h : Idle [] [] d₀ s k) : Log p d₀ [] s k where
  idle := h
  justified := trivial
  complete _ _ hmem := absurd hmem List.not_mem_nil
  last := .nil
  gone _ hmem := absurd hmem List.not_mem_nil

/-- One more entry. With the gadget gone it is the removal; else nothing was lost so far. -/
theorem snoc (h : Log p d₀ es s k) {e : Entry I} (hJ : p.Justifies s.handler e)
    (hidle : Idle (es.filterMap Entry.told ++ e.told.toList)
      (es.filterMap Entry.settlement ++ e.settlement.toList) (p.apply s.handler e) s' k')
    (hcomplete : k'.removed = false → ¬ e.Lost) (hgone : e.told = none → k'.removed = true)
    (hbefore : k.removed = false ∨ (e.told = none ∧ k'.removed = true)) :
    Log p d₀ (es ++ [e]) s' k' where
  idle := by
    rw [filterMap_concat, filterMap_concat, run_concat, ← h.idle.handler]
    exact hidle
  justified := by
    rw [along_append, ← h.idle.handler]
    exact ⟨h.justified, hJ, trivial⟩
  complete := by
    intro hr e' he'
    have hr₀ : k.removed = false := hbefore.resolve_right fun hend =>
      Bool.false_ne_true (hr.symm.trans hend.2)
    rcases List.mem_append.1 he' with hmem | hmem
    · exact h.complete hr₀ e' hmem
    · rw [List.mem_singleton.1 hmem]
      exact hcomplete hr
  last := by
    rw [List.pairwise_append]
    refine ⟨h.last, List.pairwise_singleton _ _, ?_⟩
    intro e₁ h₁ e₂ h₂ hlost
    rw [List.mem_singleton.1 h₂]
    rcases hbefore with hr₀ | ⟨hnone, -⟩
    · exact absurd hlost (h.complete hr₀ e₁ h₁)
    · exact hnone
  gone := by
    intro e' he' hnone
    rcases List.mem_append.1 he' with hmem | hmem
    · have hr := h.gone e' hmem hnone
      rcases hbefore with hr₀ | ⟨-, hend⟩
      · exact absurd (hr₀.symm.trans hr) (by simp)
      · exact hend
    · rw [List.mem_singleton.1 hmem] at hnone
      exact hgone hnone

/-- A round that had no request. -/
theorem snoc_told (h : Log p d₀ es s k) (hr : k.removed = false) {r : Report} {i : Option I}
    (hJ : p.Justifies s.handler ⟨some r, i, none⟩)
    (hnone : (Entry.mk (some r) i none).request = none)
    (hidle : Idle (es.filterMap Entry.told ++ [r]) (es.filterMap Entry.settlement)
      (p.apply s.handler ⟨some r, i, none⟩) s' k') :
    Log p d₀ (es ++ [⟨some r, i, none⟩]) s' k' := by
  refine h.snoc hJ ?_ (fun _ hlost => ?_) nofun (Or.inl hr)
  · show Idle _ (_ ++ []) _ s' k'
    rw [List.append_nil]
    exact hidle
  · have hreq := hlost.1
    rw [hnone] at hreq
    cases hreq

/-- A round that has met the end of the gadget. -/
theorem snoc_removed (h : Log p d₀ es s k) (hr : k'.removed = true)
    (hidle : Idle (es.filterMap Entry.told) (es.filterMap Entry.settlement)
      (p.step s.handler p.closed) s' k') :
    Log p d₀ (es ++ [⟨none, some p.closed, none⟩]) s' k' := by
  refine h.snoc .removed ?_ (fun hf => absurd (hr.symm.trans hf) (by simp)) (fun _ => hr)
    (Or.inr ⟨rfl, hr⟩)
  show Idle (_ ++ []) (_ ++ []) _ s' k'
  rw [List.append_nil, List.append_nil]
  exact hidle

/-- A round that had a request. -/
theorem of_settled (h : Log p d₀ es s k) (hr : k.removed = false) {i : I} {req : CtrlReq}
    {st : Option Settlement} (hrequest : p.request s.handler req i st)
    (hs : Settled req (es.filterMap Entry.told) (es.filterMap Entry.settlement) st
      (p.step s.handler i) s' k') :
    Log p d₀ (es ++ [⟨some (.event req EventType.setup), some i, st⟩]) s' k' := by
  have hpending : k'.removed = true ∨ k'.pending = none := by
    cases st with
    | none => exact Or.inl (hs.removed rfl)
    | some st => exact Or.inr (hs.pending rfl)
  refine h.snoc (.request hrequest)
    ⟨hs.handler, hs.heard, hs.settled, hpending⟩ ?_ nofun (Or.inl hr)
  rintro hr' ⟨-, hnone⟩
  exact Bool.false_ne_true (hr'.symm.trans (hs.removed hnone))

end Log

section Run

variable {H V I : Type} {h : EventHandler H V} {p : Protocol H I} {d₀ : H} {es : List (Entry I)}

/-- The log has got one more entry. -/
def Grown (p : Protocol H I) (d₀ : H) (es : List (Entry I)) (s : Served H) (k : Kernel V) : Prop :=
  ∃ e, Log p d₀ (es ++ [e]) s k

/-- A hook of the handler. -/
theorem triple_updateHandler {rs : List Report} {ss : List Settlement} {d : H} (f : H → H)
    (goesOn : Bool) {C : Kernel V → Prop} :
    Program.Triple handle (fun s k => Idle (V := V) rs ss d s k ∧ C k)
      (do
        updateHandler f
        pure goesOn) fun _ s k => Idle rs ss (f d) s k ∧ C k :=
  fun _ _ ⟨hidle, hC⟩ => ⟨⟨congrArg f hidle.handler, hidle.heard, hidle.settled, hidle.pending⟩, hC⟩

/-- A failure is at most a step of the handler. -/
theorem triple_onError (hh : Settles h p) {s₀ : Served H} {k₀ : Kernel V}
    (hlog : Log p d₀ es s₀ k₀) (hr : k₀.removed = false) (err : IoError) :
    Program.Triple handle
      (fun s k => Idle (V := V) (es.filterMap Entry.told ++ [.failure err])
        (es.filterMap Entry.settlement) s₀.handler s k ∧ True)
      (onError h err) fun _ s k => Grown p d₀ es s k := by
  have hpass : (isTornDownTransportError err = false) →
      (isSetupSupersededError err = true ∨ err.kind ≠ .timedOut) →
      Program.Triple handle
        (fun s k => Idle (V := V) (es.filterMap Entry.told ++ [.failure err])
          (es.filterMap Entry.settlement) s₀.handler s k ∧ True)
        (pure true : Async H V Bool) fun _ s k => Grown p d₀ es s k := fun hc hother =>
    Program.triple_pure fun s k hidle => ⟨_, hlog.snoc_told hr (.passed hc hother) rfl hidle.1⟩
  refine Program.triple_ite (fun hc => ?_) fun hc => ?_
  · refine Program.triple_conseq (triple_updateHandler h.onTransportClosed false)
      (fun _ _ hidle => hidle) fun _ s k hidle => ⟨_, hlog.snoc_told hr (.closed hc) rfl ?_⟩
    rw [hh.closed] at hidle
    exact hidle.1
  have hc : isTornDownTransportError err = false := Bool.eq_false_iff.2 hc
  refine Program.triple_ite (fun hs => hpass hc (Or.inl hs)) fun hs => ?_
  have hs : isSetupSupersededError err = false := Bool.eq_false_iff.2 hs
  refine Program.triple_ite (fun ht => ?_) fun ht => hpass hc (Or.inr ht)
  refine Program.triple_conseq (triple_updateHandler h.onIdleTimeout true)
    (fun _ _ hidle => hidle) fun _ s k hidle => ⟨_, hlog.snoc_told hr (.idle hc hs ht) rfl ?_⟩
  rw [hh.idle] at hidle
  exact hidle.1

/-- So is the removal. -/
theorem triple_onError_removed (hh : Settles h p) {s₀ : Served H} {k₀ : Kernel V}
    (hlog : Log p d₀ es s₀ k₀) :
    Program.Triple handle
      (fun s k => Idle (V := V) (es.filterMap Entry.told) (es.filterMap Entry.settlement)
        s₀.handler s k ∧ k.removed = true)
      (onError h gadgetRemoved) fun _ s k => Grown p d₀ es s k := by
  refine Program.triple_conseq (triple_updateHandler h.onTransportClosed false)
    (fun _ _ hidle => hidle) fun _ s k hidle => ⟨_, hlog.snoc_removed hidle.2 ?_⟩
  rw [hh.closed] at hidle
  exact hidle.1

/-- The handler gets its event. -/
theorem triple_handleEvent (hh : Settles h p) {s₀ : Served H} {k₀ : Kernel V}
    (hlog : Log p d₀ es s₀ k₀) (hr : k₀.removed = false) (event : Event) :
    Program.Triple handle
      (fun s k => Arrived (V := V) (es.filterMap Entry.told) (es.filterMap Entry.settlement)
        s₀.handler s k (.ok event))
      (h.handleEvent event) fun _ s k => Grown p d₀ es s k := by
  refine Program.triple_intro fun s k harrived => ?_
  cases harrived with
  | setup hengaged =>
      refine ⟨_, hengaged, Program.triple_conseq (hh.setup _ _ _ _) (fun _ _ h => h) ?_⟩
      rintro _ s k ⟨i, st, hrequest, hsettled⟩
      exact ⟨_, hlog.of_settled hr hrequest hsettled⟩
  | plain ht hidle =>
      refine ⟨_, hidle, Program.triple_conseq (hh.plain _ _ ht _ _ _) (fun _ _ h => h) ?_⟩
      intro _ s k hidle'
      exact ⟨_, hlog.snoc_told hr (.plain ht) (if_neg ht) hidle'⟩

/-- A round adds its entry to the log. -/
theorem triple_serveStep (hh : Settles h p) {s₀ : Served H} {k₀ : Kernel V}
    (hlog : Log p d₀ es s₀ k₀) :
    Program.Triple handle (fun s k => s = s₀ ∧ k = k₀) (serveStep h)
      fun _ s k => Grown p d₀ es s k := by
  have hidle : Idle (es.filterMap Entry.told) (es.filterMap Entry.settlement) s₀.handler s₀ k₀ :=
    ⟨rfl, hlog.idle.heard, hlog.idle.settled, hlog.idle.pending⟩
  refine Program.triple_read fun limit => ?_
  cases hr : k₀.removed with
  | true =>
      have hnext : Program.Triple handle
          (fun s k => (s = s₀ ∧ k = k₀) ∧ h.idleTimeout s.handler = limit) (next limit)
          fun r s k => r = .error gadgetRemoved ∧ Idle (es.filterMap Entry.told)
            (es.filterMap Entry.settlement) s₀.handler s k ∧ k.removed = true := by
        rintro s k ⟨⟨rfl, rfl⟩, -⟩
        exact triple_next_removed limit s k ⟨hidle, hr⟩
      refine Program.triple_bind hnext fun r => Program.triple_intro ?_
      rintro s k ⟨rfl, hgone⟩
      exact ⟨_, hgone, triple_onError_removed hh hlog⟩
  | false =>
      have hnext : Program.Triple handle
          (fun s k => (s = s₀ ∧ k = k₀) ∧ h.idleTimeout s.handler = limit) (next limit)
          fun r s k => Arrived (es.filterMap Entry.told) (es.filterMap Entry.settlement)
            s₀.handler s k r := by
        rintro s k ⟨⟨rfl, rfl⟩, -⟩
        exact triple_next limit s k hidle
      refine Program.triple_bind hnext fun r => ?_
      cases r with
      | error err =>
          refine Program.triple_intro fun s k harrived => ?_
          cases harrived with
          | missed hmissed =>
              cases hmissed with
              | failed hidle => exact ⟨_, ⟨hidle, trivial⟩, triple_onError hh hlog hr err⟩
              | removed hremoved hidle =>
                  exact ⟨_, ⟨hidle, hremoved⟩, triple_onError_removed hh hlog⟩
      | ok event =>
          exact Program.triple_bind (triple_handleEvent hh hlog hr event) fun _ =>
            Program.triple_pure fun _ _ h => h

theorem triple_start :
    Program.Triple handle (fun s k => s = ⟨none, d₀⟩ ∧ k.pending = none ∧ k.heard = [] ∧
        k.settled = []) start
      fun _ s k => Log (V := V) p d₀ [] s k := by
  have hep0 : Program.Triple handle (fun s k => s = ⟨none, d₀⟩ ∧ k.pending = none ∧ k.heard = [] ∧
      k.settled = []) ep0 fun _ s k => Idle (V := V) [] [] d₀ s k := by
    rintro s k ⟨rfl, hp, hr, hs⟩
    show Idle [] [] d₀ ⟨none, d₀⟩ k.file.2.advance
    rcases k.file_cases with hf | ⟨-, hf⟩
    · rw [hf]
      exact ⟨rfl, hr, hs, Or.inl rfl⟩
    · rw [hf]
      exact ⟨rfl, hr, hs, Or.inr hp⟩
  exact Program.triple_bind hep0 fun _ => Program.triple_pure fun s k h => .nil h

/-- With the gadget gone the loop ends in the next round. -/
theorem goesOn_round_of_removed {x : Loop H V} (hlog : Log p d₀ es x.served x.kernel)
    (hr : x.kernel.removed = true) : (x.round h).goesOn = false := by
  have hstep : Program.Triple handle (fun s k => s = x.served ∧ k = x.kernel) (serveStep h)
      fun goesOn _ _ => goesOn = false := by
    refine Program.triple_read fun limit => ?_
    have hnext : Program.Triple handle
        (fun s k => (s = x.served ∧ k = x.kernel) ∧ h.idleTimeout s.handler = limit) (next limit)
        fun r _ _ => r = .error gadgetRemoved := by
      rintro s k ⟨⟨rfl, rfl⟩, -⟩
      exact (triple_next_removed limit _ _ ⟨hlog.idle, hr⟩).1
    refine Program.triple_bind hnext fun r => ?_
    rintro s k rfl
    rfl
  unfold Loop.round
  split
  · exact hstep _ _ ⟨rfl, rfl⟩
  · next hends => exact Bool.eq_false_iff.2 hends

/-- The logs of the rounds of a loop: each goes on where the one before it ends, by one entry as
long as the loop goes on. -/
structure Logs (h : EventHandler H V) (p : Protocol H I) (d₀ : H) (turns : Nat → Turn V)
    (log : Nat → List (Entry I)) : Prop where
  each : ∀ n, Log p d₀ (log n) (serve h d₀ turns n).served (serve h d₀ turns n).kernel
  grows : ∀ n, (serve h d₀ turns n).goesOn = true → ∃ e, log (n + 1) = log n ++ [e]
  rests : ∀ n, (serve h d₀ turns n).goesOn = false → log (n + 1) = log n
  /-- With the gadget gone the loop ends in the next round. -/
  ends : ∀ n, (serve h d₀ turns n).kernel.removed = true →
    (serve h d₀ turns (n + 1)).goesOn = false

/-- A loop over a handler that settles its requests has logs. -/
theorem exists_logs (hh : Settles h p) (d₀ : H) (turns : Nat → Turn V) :
    ∃ log, Logs h p d₀ turns log := by
  have hstart : Log p d₀ [] (serve h d₀ turns 0).served (serve h d₀ turns 0).kernel :=
    triple_start _ _ ⟨rfl, rfl, rfl, rfl⟩
  obtain ⟨log, hlog⟩ := exists_chain
    (P := fun n es => Log p d₀ es (serve h d₀ turns n).served (serve h d₀ turns n).kernel)
    (R := fun n es es' => ((serve h d₀ turns n).goesOn = true → ∃ e, es' = es ++ [e]) ∧
      ((serve h d₀ turns n).goesOn = false → es' = es)) ⟨[], hstart⟩ fun n es hes => by
    rw [serve, Loop.round]
    cases hgoes : (serve h d₀ turns n).goesOn with
    | true =>
        obtain ⟨e, he⟩ := triple_serveStep hh hes _ _ ⟨rfl, rfl⟩
        exact ⟨es ++ [e], he, fun _ => ⟨e, rfl⟩, nofun⟩
    | false => exact ⟨es, hes, nofun, fun _ => rfl⟩
  exact ⟨log, fun n => (hlog n).1, fun n => (hlog n).2.1, fun n => (hlog n).2.2,
    fun n => goesOn_round_of_removed (hlog n).1⟩

end Run

end SummitUsbgadget.FunctionFs
