import SummitUsbgadget.FastbootUsb.Isolation
import SummitUsbgadget.FastbootUsb.Refinement

/-!
# The state between two connected phases

`serve_connected` is left in six places, in four functions. All of them have run `reset` to its end,
whatever the connected phase started from (`served_cleaned`). So outside the connected phases the
session fields are those of a new state, and the session that was in use at the exit was aborted:
for every run of the connected loop, and for the data loop in every interleaving with the host and
the control loop (`clean_outside_connected`).
-/

set_option autoImplicit false

namespace SummitUsbgadget.FastbootUsb

open SummitUsbgadget.Lib
open SummitUsbgadget.Lib.Program
open SummitUsbgadget.Swupdate
open SummitUsbgadget.Fastboot

/-- The session that was replaced last was aborted. -/
def Aborted (s : FastbootUsbState) : Prop := ∃ d : Session, s.retired.getLast? = some d.abort

/-- The session fields are fresh, and the session before was aborted. -/
structure Cleaned (s : FastbootUsbState) : Prop where
  fresh : Fresh s
  aborted : Aborted s

theorem fresh_cleaned {s : FastbootUsbState} (h : ∃ d : Session, s.download = d.abort) :
    Cleaned s.fresh := by
  obtain ⟨d, hd⟩ := h
  refine ⟨fresh_fresh s, d, ?_⟩
  change (s.retired ++ [s.download]).getLast? = _
  rw [List.getLast?_concat, hd]

/-- The reset aborts the session in use before it replaces it; the reply comes after. -/
theorem reset_cleaned {P : Query → Prop} (hreap : P .reap) (resetReply : Option Bytes)
    (hreply : ∀ data ∈ resetReply, P (.reply data)) :
    (reset resetReply).Meets P fun s _ => Cleaned s := by
  refine meets_then (meets_update fun _ => trivial) fun _ => ?_
  refine meets_bind (meets_abort_session hreap) fun _ s hs => ?_
  have hcleaned := fresh_cleaned hs
  cases resetReply with
  | none => exact hcleaned
  | some data =>
      obtain ⟨⟨h1, h2, h3, h4, h5, h6, h7⟩, haborted⟩ := hcleaned
      exact ⟨hreply data rfl, fun _ => ⟨⟨h1, h2, h3, h4, h5, h6, h7⟩, haborted⟩⟩

/-! ## Every way out -/

/-- An iteration that leaves the connected loop has reset it. -/
theorem iterate_cleaned {s s' : FastbootUsbState} {i : Iteration} (h : iterate s i = (false, s')) :
    Cleaned s' := by
  have hprime := (prime_meets (reset_cleaned trivial none nofun)).exec s i.top
  unfold iterate at h
  generalize exec prime s i.top = r at h hprime
  obtain ⟨serving, primed, o⟩ := r
  cases serving with
  | false =>
      -- the endpoint was closed while the read was submitted
      obtain ⟨-, rfl⟩ := Prod.mk.inj h
      exact hprime rfl
  | true =>
      cases hselect : i.select with
      | transfer =>
          have hstep := (transferStep_meets (R := Cleaned) fun resetReply =>
            reset_cleaned trivial resetReply fun _ _ => trivial).exec primed i.step
          rw [hselect] at h
          dsimp only at h
          by_cases hready : primed.ready = true
          · rw [if_pos hready] at h
            obtain ⟨hkeep, rfl⟩ := Prod.mk.inj h
            exact hstep hkeep
          · rw [if_neg hready] at h
            cases h
      | changed answers value =>
          -- the function was disabled, or the control loop is gone
          rw [hselect] at h
          dsimp only at h
          generalize (if primed.ready then dropTransfer answers i.step primed
            else primed) = left at h
          have hreset := (reset_cleaned (P := fun _ => True) trivial none nofun).exec left i.arm
          by_cases hvalue : value = some true
          · rw [if_pos hvalue] at h
            cases h
          · rw [if_neg hvalue] at h
            obtain ⟨-, rfl⟩ := Prod.mk.inj h
            exact hreset

/-- However the connected loop was entered and whatever it met, it is left only after a reset. -/
theorem served_cleaned {s : FastbootUsbState} (h : Served (false, s)) : Cleaned s := by
  obtain ⟨s₀, is, his⟩ := h
  have hrun : (run serve (true, s₀) is).1 = false → Cleaned (run serve (true, s₀) is).2 := by
    refine run_invariant_of_step (I := fun c : Bool × FastbootUsbState =>
      c.1 = false → Cleaned c.2) ?_ is nofun
    rintro ⟨serving, t⟩ i ht hend
    cases serving with
    | true => exact iterate_cleaned (Prod.ext hend rfl)
    | false => exact ht rfl
  rw [his] at hrun
  exact hrun rfl

/-! ## The data loop -/

/-- The states of `data_loop` outside `serve_connected`: the one it starts with, and what a
connected phase leaves when it ends. -/
inductive Outside (usb₀ : FastbootUsbState) : FastbootUsbState → Prop where
  | start : Outside usb₀ usb₀
  | left {s s' : FastbootUsbState} (h : Outside usb₀ s) (entry : Answers) (is : List Iteration)
      (hend : run serve (true, (exec enterConnected s entry).2.1) is = (false, s')) :
      Outside usb₀ s'

/-- What holds of a state outside the connected phases. -/
structure Clean (usb₀ s : FastbootUsbState) : Prop where
  fresh : Fresh s
  closed : s.download.isOpen = false
  aborted : s = usb₀ ∨ Aborted s

theorem Cleaned.clean {s : FastbootUsbState} (h : Cleaned s) (usb₀ : FastbootUsbState) :
    Clean usb₀ s := by
  refine ⟨h.fresh, ?_, Or.inr h.aborted⟩
  rw [h.fresh.download]
  rfl

theorem clean_new (params : SwupdateParams) (serial : Bytes) (rxMaxPacketSizeDefault : Nat) :
    Clean (FastbootUsbState.new params serial rxMaxPacketSizeDefault)
      (FastbootUsbState.new params serial rxMaxPacketSizeDefault) :=
  ⟨⟨rfl, rfl, rfl, rfl, rfl, rfl, rfl⟩, rfl, Or.inl rfl⟩

/-- Outside the connected phases the state is clean: in every run of the data loop, whatever its
queries are answered and however its selects end, and wherever it is parked in an interleaving with
the host, the device controller and the control loop. -/
theorem clean_outside_connected (params : SwupdateParams) (serial : Bytes)
    (rxMaxPacketSizeDefault : Nat) :
    (∀ s, Outside (FastbootUsbState.new params serial rxMaxPacketSizeDefault) s →
      Clean (FastbootUsbState.new params serial rxMaxPacketSizeDefault) s) ∧
      ∀ (is : List Input) (acceptCurrent : Bool) (usb : FastbootUsbState),
        (run Link.step (Link.new params serial rxMaxPacketSizeDefault) is).loop =
          .waiting acceptCurrent usb →
        Clean (FastbootUsbState.new params serial rxMaxPacketSizeDefault) usb := by
  constructor
  · intro s hs
    cases hs with
    | start => exact clean_new params serial rxMaxPacketSizeDefault
    | left h entry is hend => exact (served_cleaned ⟨_, is, hend⟩).clean _
  · intro is acceptCurrent usb hloop
    have hserves := Link.data_loop_serves params serial rxMaxPacketSizeDefault is
    rw [hloop] at hserves
    rcases hserves with rfl | hserved
    · exact clean_new params serial rxMaxPacketSizeDefault
    · exact (served_cleaned hserved).clean _

/-- A session is opened, and then the control loop is gone. -/
def opensAndEnds : List Iteration :=
  [⟨quiet, fun n q => match q with
      | .fetch => .ok (bytes "WOpen:update")
      | q => quiet n q, quiet, .transfer⟩,
    ⟨quiet, quiet, quiet, .changed none none⟩]

/-- A session is opened, and then the function is disabled. -/
def opensAndDisables : List Input :=
  connect ++ receives (bytes "WOpen:update") 8 ++ [.host .disable false, .control] ++
    List.replicate 4 quietTurn

theorem clean_outside_connected_opened :
    Clean (FastbootUsbState.new SwupdateParams.default [] 512)
        (run serve (true, (exec enterConnected (FastbootUsbState.new SwupdateParams.default [] 512)
          quiet).2.1) opensAndEnds).2 ∧
      ∃ acceptCurrent usb,
        (run Link.step (Link.new SwupdateParams.default [] 512) opensAndDisables).loop =
          .waiting acceptCurrent usb ∧
        Clean (FastbootUsbState.new SwupdateParams.default [] 512) usb := by
  obtain ⟨hphases, hlink⟩ := clean_outside_connected SwupdateParams.default [] 512
  constructor
  · have hend : (run serve (true, (exec enterConnected
        (FastbootUsbState.new SwupdateParams.default [] 512) quiet).2.1) opensAndEnds).1 = false :=
          by decide +kernel
    exact hphases _ (.left .start quiet opensAndEnds (Prod.ext hend rfl))
  · have hparked : (run Link.step (Link.new SwupdateParams.default [] 512)
        opensAndDisables).loop.parked = true := by decide +kernel
    cases hloop : (run Link.step (Link.new SwupdateParams.default [] 512)
      opensAndDisables).loop with
    | waiting acceptCurrent usb =>
        exact ⟨acceptCurrent, usb, rfl, hlink opensAndDisables acceptCurrent usb hloop⟩
    | _ =>
        rw [hloop] at hparked
        cases hparked

end SummitUsbgadget.FastbootUsb
