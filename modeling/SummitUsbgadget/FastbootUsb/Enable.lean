import SummitUsbgadget.Lib.Machine
import SummitUsbgadget.FastbootUsb.DataPhase
import SummitUsbgadget.FastbootUsb.Link

/-!
# No Enable is lost

The data loop parks in `wait_for_enabled` after every connected phase and waits for a notification
it has not seen. `Lost` is the state in which that wait never ends although the function is enabled.
The select of the connected phase is the one place where a notification is consumed and dropped:
one that reads `true` is taken for a spurious one. `enable_not_lost` shows that nothing is lost
unless such a notification announces a connection that the bulk endpoint has not been used in;
`enable_lost_by_reconnect` is a run in which it does.
-/

set_option autoImplicit false

namespace SummitUsbgadget.FastbootUsb

open SummitUsbgadget.Lib
open SummitUsbgadget.Swupdate

namespace Link

/-! ## The result -/

/-- The data loop is parked with nothing left to wake it, although the last word of the control loop
is an `Enable`, of a later connection than the one whose bulk endpoint the data loop has used. -/
def Lost (w : Link) : Prop :=
  w.loop.parked = true ∧ w.enabled.pending = false ∧ w.enabled.value = true ∧ w.used < w.announced

instance (w : Link) : Decidable w.Lost := by
  unfold Lost
  infer_instance

/-- A notification that the select reads as `true` announces no connection that the bulk endpoint
was not used in. -/
def Heeds (w : Link) : Input → Prop
  | .turn _ => w.loop.atSelect = true → w.enabled.pending = true → w.enabled.value = true →
      w.announced ≤ w.used
  | _ => True

instance (w : Link) (i : Input) : Decidable (w.Heeds i) := by
  cases i <;> unfold Heeds <;> infer_instance

/-- An `Enable` that the data loop has seen is one of a connection that it has used. -/
structure Heard (w : Link) : Prop where
  queued : ∀ e ∈ w.events, e.connection ≤ w.connection
  announced : w.announced ≤ w.connection
  used : w.enabled.pending = false → w.enabled.value = true → w.announced ≤ w.used

theorem heard_new (params : SwupdateParams) (serial : Bytes) (rxMaxPacketSizeDefault : Nat) :
    Heard (new params serial rxMaxPacketSizeDefault) :=
  ⟨by simp [new], Nat.le_refl 0, fun _ _ => Nat.le_refl 0⟩

theorem Heard.queue {w : Link} (h : Heard w) (event : ControlEvent) (discard : Bool) :
    Heard (w.queue event discard) := by
  refine ⟨fun e he => ?_, h.announced, h.used⟩
  rcases List.mem_append.1 he with hold | hnew
  · cases discard with
    | true => simp at hold
    | false => exact h.queued e hold
  · rw [List.mem_singleton.1 hnew]
    exact Nat.le_refl _

theorem Heard.host {w : Link} (h : Heard w) (event : ControlEvent) (discard : Bool) :
    Heard (w.host event discard) := by
  obtain ⟨completion, hshut⟩ := w.shutDown_eq
  unfold Link.host
  rw [hshut]
  cases event with
  | enable =>
      apply Heard.queue
      refine ⟨fun e he => ?_, ?_, h.used⟩
      · exact Nat.le_succ_of_le (h.queued e he)
      · exact Nat.le_succ_of_le h.announced
  | disable =>
      apply Heard.queue
      exact ⟨h.queued, h.announced, h.used⟩
  | unbind =>
      apply Heard.queue
      exact ⟨h.queued, h.announced, h.used⟩
  | other => exact h.queue _ _

theorem Heard.control {w : Link} (h : Heard w) : Heard w.control := by
  unfold Link.control
  split
  · exact h
  · next queued rest hevents =>
      have hrest : ∀ e ∈ rest, e.connection ≤ w.connection := by
        intro e he
        exact h.queued e (by rw [hevents]; exact List.mem_cons_of_mem _ he)
      have hhead : queued.connection ≤ w.connection :=
        h.queued queued (by rw [hevents]; exact List.mem_cons_self)
      split
      · exact ⟨hrest, h.announced, h.used⟩
      · -- the new version has not been seen
        next value hvalue =>
          refine ⟨hrest, ?_, fun hseen => ?_⟩
          · cases value with
            | true => exact hhead
            | false => exact h.announced
          · rw [publish, Watch.pending_send] at hseen
            cases hseen

theorem Heard.turn {w : Link} (h : Heard w) (answers : (q : Query) → q.Answer)
    (hheeds : w.Heeds (.turn answers)) : Heard (w.turn answers) := by
  have hturned := w.turned answers
  generalize w.turn answers = w' at hturned ⊢
  cases hturned with
  | idle => exact h
  | enters acceptCurrent usb hloop hvalue =>
      exact ⟨h.queued, h.announced, fun _ _ => h.announced⟩
  | parks acceptCurrent usb hloop hvalue =>
      refine ⟨h.queued, h.announced, fun _ htrue => ?_⟩
      rw [Watch.value_markSeen, hvalue] at htrue
      cases htrue
  | notified hselect hpending =>
      exact ⟨h.queued, h.announced, fun _ htrue => hheeds hselect hpending htrue⟩
  | follows l hfollows => exact ⟨h.queued, h.announced, h.used⟩
  | resumes q l hresumes hselect =>
      obtain ⟨hconn, hevents, henabled, hann⟩ := w.answered_frame q
      refine ⟨?_, ?_, ?_⟩
      · rw [hconn, hevents]
        exact h.queued
      · rw [hconn, hann]
        exact h.announced
      · rw [henabled, hann]
        intro hseen htrue
        rcases w.answered_used q with hsame | hnow
        · rw [hsame]
          exact h.used hseen htrue
        · rw [hnow]
          exact h.announced

theorem Heard.step {w : Link} (h : Heard w) {i : Input} (hheeds : w.Heeds i) :
    Heard (w.step i) := by
  cases i with
  | host event discard => exact h.host event discard
  | complete result =>
      obtain ⟨completion, hst⟩ := w.complete_eq result
      change Heard (w.complete result)
      rw [hst]
      exact ⟨h.queued, h.announced, h.used⟩
  | control => exact h.control
  | turn answers => exact h.turn answers hheeds
  | stop => exact ⟨h.queued, h.announced, h.used⟩

theorem Heard.run {w : Link} (h : Heard w) {is : List Input} (hall : Along Link.step Heeds w is) :
    Heard (Lib.run Link.step w is) :=
  run_invariant (I := Heard) (fun _ _ hw hi => Heard.step hw hi) h hall

end Link

/-- No interleaving loses an `Enable`, unless the select takes the notification of a new connection
for a spurious one. -/
theorem enable_not_lost (params : SwupdateParams) (serial : Bytes) (rxMaxPacketSizeDefault : Nat)
    (is : List Input)
    (h : Along Link.step Link.Heeds (Link.new params serial rxMaxPacketSizeDefault) is) :
    ¬ (run Link.step (Link.new params serial rxMaxPacketSizeDefault) is).Lost := by
  rintro ⟨-, hseen, hvalue, hlost⟩
  have hused := ((Link.heard_new params serial rxMaxPacketSizeDefault).run h).used hseen hvalue
  omega

/-- A turn in quiet surroundings. -/
def quietTurn : Input := .turn (quiet 0)

/-- The function is enabled and the data loop waits for the first command. -/
def connect : List Input := [.host .enable false, .control] ++ List.replicate 7 quietTurn

/-- The data loop meets the end of the connection and enters the next one. -/
theorem enable_not_lost_disabled :
    Along Link.step Link.Heeds (Link.new SwupdateParams.default [] 512)
        (connect ++ [.host .disable false, .control, quietTurn, quietTurn, .host .enable false,
          .control]) ∧
      ¬ (run Link.step (Link.new SwupdateParams.default [] 512)
        (connect ++ [.host .disable false, .control, quietTurn, quietTurn, .host .enable false,
          .control])).Lost := by
  have h : Along Link.step Link.Heeds (Link.new SwupdateParams.default [] 512)
      (connect ++ [.host .disable false, .control, quietTurn, quietTurn, .host .enable false,
        .control]) := by
    decide +kernel
  exact ⟨h, enable_not_lost SwupdateParams.default [] 512 _ h⟩

/-- A reconnect that is over before the data loop looks: the select takes the `Enable` for a
spurious notification, then the old read completes with `ESHUTDOWN` and the data loop parks. -/
theorem enable_lost_by_reconnect :
    (run Link.step (Link.new SwupdateParams.default [] 512)
      (connect ++ [.host .disable false, .host .enable false, .control, .control] ++
        List.replicate 6 quietTurn)).Lost := by
  decide +kernel

end SummitUsbgadget.FastbootUsb
