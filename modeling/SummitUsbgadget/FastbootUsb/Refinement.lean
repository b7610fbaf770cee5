import SummitUsbgadget.Lib.Machine
import SummitUsbgadget.FastbootUsb.DataPhase
import SummitUsbgadget.FastbootUsb.Link

/-!
# The whole refines the connected loop

The results about completions and data phases are about `serve`, in which an iteration of the
connected loop is one step. In the whole an iteration is spread over many turns, with the host and
the control loop in between. `data_loop_serves` shows that nothing new comes of that: wherever the
data loop is in any interleaving, it is on the way through an iteration of a run of `serve`.
-/

set_option autoImplicit false

namespace SummitUsbgadget.FastbootUsb

open SummitUsbgadget.Lib
open SummitUsbgadget.Lib.Program
open SummitUsbgadget.Swupdate

/-- The connected loop, entered in some state, can come to `c`. -/
def Served (c : Bool × FastbootUsbState) : Prop :=
  ∃ (s : FastbootUsbState) (is : List Iteration), run serve (true, s) is = c

theorem served_enter (s : FastbootUsbState) : Served (true, s) := ⟨s, [], rfl⟩

theorem Served.iterate {s : FastbootUsbState} (h : Served (true, s)) (i : Iteration) :
    Served (iterate s i) := by
  obtain ⟨s₀, is, his⟩ := h
  refine ⟨s₀, is ++ [i], ?_⟩
  rw [run_concat, his]
  rfl

/-- The part of an iteration before the select has led to `usb`. -/
def Primed (usb : FastbootUsbState) : Prop :=
  ∃ (s : FastbootUsbState) (top : Answers), Served (true, s) ∧ (exec prime s top).1 = true ∧
    (exec prime s top).2.1 = usb

namespace Primed

variable {usb : FastbootUsbState}

/-- The transfer step has ended. -/
theorem transfer (h : Primed usb) (hready : usb.ready = true) {usb' : FastbootUsbState}
    {keepServing : Bool} (hstep : (transferStep usb).Reaches (.done usb' keepServing)) :
    Served (keepServing, usb') := by
  obtain ⟨s, top, hserved, hprime, hst⟩ := h
  obtain ⟨step, hkeep, husb⟩ := exec_of_reaches quiet hstep
  have hi := hserved.iterate ⟨top, step, top, .transfer⟩
  have heq : iterate s ⟨top, step, top, .transfer⟩ = (keepServing, usb') := by
    unfold iterate
    dsimp only
    rw [hprime, hst, hready, hkeep, husb]
    rfl
  rw [heq] at hi
  exact hi

/-- The state in which the notification arm finds the transfer step. -/
def Left (usb left : FastbootUsbState) : Prop :=
  ∃ (answers : Option Nat) (step : Answers),
    (if usb.ready then dropTransfer answers step usb else usb) = left

theorem left_unpolled (usb : FastbootUsbState) : Left usb usb := by
  refine ⟨none, quiet, ?_⟩
  split
  · rfl
  · rfl

theorem left_waiting (hready : usb.ready = true) {left : FastbootUsbState} {q : Query}
    {k : q.Answer → Task Bool} (hq : q.suspends = true)
    (hstep : (transferStep usb).Reaches (.ask left q k)) : Left usb left := by
  obtain ⟨n, step, -, hwaiting⟩ := hstep.answers (quiet : Answers)
  have hw : (transferStep usb).waiting n step = some (left, q) := hwaiting 0
  refine ⟨some n, step, ?_⟩
  rw [if_pos hready]
  unfold dropTransfer
  dsimp only
  rw [hw]
  dsimp only
  rw [if_pos hq]

/-- The notification is taken for a spurious one. -/
theorem spurious (h : Primed usb) {left : FastbootUsbState} (hleft : Left usb left) :
    Served (true, left) := by
  obtain ⟨s, top, hserved, hprime, hst⟩ := h
  obtain ⟨answers, step, hleft⟩ := hleft
  have hi := hserved.iterate ⟨top, step, top, .changed answers (some true)⟩
  have heq : FastbootUsb.iterate s ⟨top, step, top, .changed answers (some true)⟩ =
      (true, left) := by
    unfold FastbootUsb.iterate
    dsimp only
    rw [hprime, hst, hleft]
    rfl
  rw [heq] at hi
  exact hi

/-- The connected loop is told of the end and resets. -/
theorem told (h : Primed usb) {left : FastbootUsbState} (hleft : Left usb left)
    {usb' : FastbootUsbState} {u : Unit} (hreset : (reset none left).Reaches (.done usb' u)) :
    Served (false, usb') := by
  obtain ⟨s, top, hserved, hprime, hst⟩ := h
  obtain ⟨answers, step, hleft⟩ := hleft
  obtain ⟨arm, -, husb⟩ := exec_of_reaches quiet hreset
  have hi := hserved.iterate ⟨top, step, arm, .changed answers (some false)⟩
  have heq : FastbootUsb.iterate s ⟨top, step, arm, .changed answers (some false)⟩ =
      (false, usb') := by
    unfold FastbootUsb.iterate
    dsimp only
    rw [hprime, hst, hleft, husb]
    rfl
  rw [heq] at hi
  exact hi

end Primed

/-- The endpoint turned out closed. -/
theorem Served.closed {s : FastbootUsbState} (h : Served (true, s)) {usb : FastbootUsbState}
    (hprime : (prime s).Reaches (.done usb false)) : Served (false, usb) := by
  obtain ⟨top, hserving, husb⟩ := exec_of_reaches quiet hprime
  have hi := h.iterate ⟨top, top, top, .transfer⟩
  have heq : FastbootUsb.iterate s ⟨top, top, top, .transfer⟩ = (false, usb) := by
    unfold FastbootUsb.iterate
    dsimp only
    rw [hserving, husb]
    rfl
  rw [heq] at hi
  exact hi

/-! ## Where the data loop is -/

/-- The data loop, started with `usb₀`, is on the way through an iteration of the connected loop, or
has left one. -/
def DataLoop.Serves (usb₀ : FastbootUsbState) : DataLoop → Prop
  | .waiting _ usb => usb = usb₀ ∨ Served (false, usb)
  | .entering _ => True
  | .priming task => ∃ s, Served (true, s) ∧ (prime s).Reaches task
  | .selecting usb => Primed usb
  | .transferring task =>
      ∃ usb, Primed usb ∧ usb.ready = true ∧ (transferStep usb).Reaches task
  | .leaving task =>
      ∃ usb left, Primed usb ∧ Primed.Left usb left ∧ (reset none left).Reaches task
  | .ended _ => True

namespace DataLoop.Serves

variable {usb₀ : FastbootUsbState} {l l' : DataLoop}

theorem follows (h : l.Serves usb₀) (hl : l.Follows l') : l'.Serves usb₀ := by
  cases hl with
  | connected usb u => exact ⟨usb, served_enter usb, .refl⟩
  | primed usb =>
      obtain ⟨s, hserved, hprime⟩ := h
      obtain ⟨top, hserving, husb⟩ := exec_of_reaches quiet hprime
      exact ⟨s, top, hserved, hserving, husb⟩
  | closed usb =>
      obtain ⟨s, hserved, hprime⟩ := h
      exact .inr (hserved.closed hprime)
  | polled usb hready => exact ⟨usb, h, hready, .refl⟩
  | kept usb =>
      obtain ⟨start, hprimed, hready, hstep⟩ := h
      exact ⟨usb, hprimed.transfer hready hstep, .refl⟩
  | failed usb =>
      obtain ⟨start, hprimed, hready, hstep⟩ := h
      exact .inr (hprimed.transfer hready hstep)
  | left usb u =>
      obtain ⟨start, left, hprimed, hleft, hreset⟩ := h
      exact .inr (hprimed.told hleft hreset)

theorem resumes (h : l.Serves usb₀) {q : Query} (hl : l.Resumes q l') : l'.Serves usb₀ := by
  cases hl with
  | entering usb q k r => trivial
  | priming usb q k r =>
      obtain ⟨s, hserved, hprime⟩ := h
      exact ⟨s, hserved, hprime.resume r⟩
  | transferring usb q k r =>
      obtain ⟨start, hprimed, hready, hstep⟩ := h
      exact ⟨start, hprimed, hready, hstep.resume r⟩
  | leaving usb q k r =>
      obtain ⟨start, left, hprimed, hleft, hreset⟩ := h
      exact ⟨start, left, hprimed, hleft, hreset.resume r⟩

/-- A data loop in its select has what the notification arm will find. -/
theorem atSelect (h : l.Serves usb₀) (hselect : l.atSelect = true) :
    ∃ usb, Primed usb ∧ Primed.Left usb l.usb := by
  cases l with
  | selecting usb => exact ⟨usb, h, Primed.left_unpolled usb⟩
  | transferring task =>
      obtain ⟨usb, hprimed, hready, hstep⟩ := h
      cases task with
      | done usb' keepServing => cases hselect
      | ask left q k => exact ⟨usb, hprimed, Primed.left_waiting hready hselect hstep⟩
  | waiting acceptCurrent usb => cases hselect
  | entering task => cases hselect
  | priming task => cases hselect
  | leaving task => cases hselect
  | ended usb => cases hselect

end DataLoop.Serves

/-! ## Every interleaving -/

namespace Link

variable {usb₀ : FastbootUsbState}

theorem serves_turn {w : Link} (h : w.loop.Serves usb₀) (answers : (q : Query) → q.Answer) :
    (w.turn answers).loop.Serves usb₀ := by
  have hturned := w.turned answers
  generalize w.turn answers = w' at hturned ⊢
  cases hturned with
  | idle => exact h
  | enters acceptCurrent usb hloop hvalue => trivial
  | parks acceptCurrent usb hloop hvalue =>
      rw [hloop] at h
      exact h
  | notified hselect hpending =>
      obtain ⟨usb, hprimed, hleft⟩ := h.atSelect hselect
      -- The published value decides between the next iteration and the reset.
      unfold Link.notified
      by_cases hvalue : w.enabled.value = true
      · rw [if_pos hvalue]
        exact ⟨w.loop.usb, hprimed.spurious hleft, .refl⟩
      · rw [if_neg hvalue]
        exact ⟨usb, w.loop.usb, hprimed, hleft, .refl⟩
  | follows l hl => exact h.follows hl
  | resumes q l hl hselect => exact h.resumes hl

theorem serves_step (w : Link) (i : Input) (h : w.loop.Serves usb₀) :
    (w.step i).loop.Serves usb₀ := by
  cases i with
  | host event discard =>
      change (w.host event discard).loop.Serves usb₀
      rw [loop_host]
      exact h
  | complete result =>
      change (w.complete result).loop.Serves usb₀
      obtain ⟨completion, hst⟩ := w.complete_eq result
      rw [hst]
      exact h
  | control =>
      change w.control.loop.Serves usb₀
      rw [loop_control]
      exact h
  | turn answers => exact serves_turn h answers
  | stop => trivial

/-- Whatever the host, the control loop and the controller do in between, the data loop is on the
way through an iteration of a run of the connected loop. -/
theorem data_loop_serves (params : SwupdateParams) (serial : Bytes) (rxMaxPacketSizeDefault : Nat)
    (is : List Input) :
    (run step (new params serial rxMaxPacketSizeDefault) is).loop.Serves
      (FastbootUsbState.new params serial rxMaxPacketSizeDefault) :=
  run_invariant_of_step (I := fun w : Link => w.loop.Serves
    (FastbootUsbState.new params serial rxMaxPacketSizeDefault)) serves_step is (.inl rfl)

end Link

end SummitUsbgadget.FastbootUsb
