import SummitUsbgadget.FastbootUsb.Enable

/-!
# Connections are isolated

What passes over the bulk endpoints belongs to a connected phase, and every connected phase starts
from fresh session fields and without a read in flight. `connections_isolated` shows that nothing
passes in a connected phase that belongs to an earlier connection of the host, as long as the select
learns of the end of a connection before it goes on in the next one. There are two ways in which it
does not: the select takes a notification that covers a `Disable` for a spurious one, or the control
loop has not read the events of the host yet; `verdict_sent_after_reconnect` has a run for each.

The argument has two parts. Every way out of `serve_connected` has reset the session fields and
cancelled the read, which is a property of the coroutines (`prime_meets`, `transferStep_meets`). And
the select looks at the `enabled` channel before the transfer step goes on, so the transfer step
makes no progress after a `Disable` was published.
-/

set_option autoImplicit false

namespace SummitUsbgadget.FastbootUsb

open SummitUsbgadget.Lib
open SummitUsbgadget.Lib.Program
open SummitUsbgadget.Swupdate
open SummitUsbgadget.Fastboot

/-! ## The ways out of a connected phase -/

/-- A query by which nothing passes over the bulk endpoints. -/
def Query.Silent : Query → Prop
  | .fetch => False
  | .fetchTimeout => False
  | .reply _ => False
  | _ => True

/-- Nothing of a connection is left: the session fields are fresh, and no read is in flight. -/
structure Cleared (s : FastbootUsbState) : Prop where
  fresh : Fresh s
  reading : s.reading = none

/-- The connected phase goes on, or nothing of it is left. -/
def EndsCleared (s : FastbootUsbState) (keepServing : Bool) : Prop :=
  keepServing = false → Cleared s

section Reset

variable {P : Query → Prop}

/-- Aborting the session submits no read. -/
theorem abort_reading (hreap : P .reap) {s : FastbootUsbState} (h : s.reading = none) :
    (abort s : Task Unit).Meets P fun s _ => s.reading = none := by
  change Coroutine.Meets P _ ((if s.download.status.isSome then _ else _ : Async Unit) _)
  split
  · exact ⟨hreap, fun _ => h⟩
  · exact h

theorem reset_meets (hreap : P .reap) (resetReply : Option Bytes)
    (hreply : ∀ data ∈ resetReply, P (.reply data)) :
    (reset resetReply).Meets P fun s _ => Cleared s := by
  refine meets_bind (M := fun s _ => s.reading = none) (meets_update fun _ => rfl) fun _ s hs => ?_
  refine Coroutine.Meets.bind (abort_reading hreap hs) fun _ s hs => ?_
  cases resetReply with
  | none => exact ⟨fresh_fresh s, hs⟩
  | some data => exact ⟨hreply data rfl, fun _ => ⟨⟨rfl, rfl, rfl, rfl, rfl, rfl, rfl⟩, hs⟩⟩

end Reset

theorem enterConnected_meets : enterConnected.Meets Query.Silent fun _ _ => True :=
  meets_then (meets_ask (q := Query.packetSize) trivial fun _ _ => trivial) fun _ =>
    meets_update fun _ => trivial

theorem checkVerdict_meets {P : Query → Prop} (hlook : P .look) (hreap : P .reap) :
    checkVerdict.Meets P fun _ _ => True := by
  refine meets_then (meets_read fun _ => trivial) fun _ =>
    meets_ite ?_ (meets_pure fun _ => trivial)
  refine meets_then (meets_then (meets_askSession hlook) fun _ => meets_act fun _ => trivial)
    fun verdict => ?_
  rcases verdict with - | (err | u)
  · exact meets_pure fun _ => trivial
  · exact meets_then (meets_abort hreap) fun _ => meets_update fun _ => trivial
  · exact meets_pure fun _ => trivial

theorem recvBuffer_meets : recvBuffer.Meets Query.Silent fun _ _ => True :=
  meets_then (meets_read fun _ => trivial) fun _ =>
    meets_ite (meets_ask (q := Query.buffer) trivial fun _ _ => trivial)
      (meets_pure fun _ => trivial)

section Exits

variable {R : FastbootUsbState → Prop}

/-- Before the select nothing passes; a phase that ends here has been reset. -/
theorem prime_meets (hreset : (reset none).Meets Query.Silent fun s _ => R s) :
    prime.Meets Query.Silent fun s keepServing => keepServing = false → R s := by
  refine meets_then ?_ fun _ => meets_then ?_ fun _ => meets_then (meets_read fun _ => trivial) ?_
  -- the look at the verdict, the submission of the read, and the check of the endpoint
  · exact checkVerdict_meets trivial trivial
  · refine meets_then (meets_read fun _ => trivial) fun _ =>
      meets_ite (meets_pure fun _ => trivial) ?_
    refine meets_then recvBuffer_meets fun capacity => ?_
    refine meets_then (meets_ask (q := Query.submit capacity) trivial fun _ _ => trivial)
      fun submitted => ?_
    cases submitted with
    | ok u => exact meets_update fun _ => trivial
    | error err =>
        exact meets_ite (meets_update fun _ => trivial) (meets_pure fun _ => trivial)
  · intro torn
    refine meets_ite (meets_bind hreset fun _ s h => ?_) ?_
    · exact fun _ => h
    · exact meets_pure fun _ hfalse => by cases hfalse

/-- The step keeps serving. -/
def Serving (_ : FastbootUsbState) (keepServing : Bool) : Prop := keepServing = true

theorem serving_true (s : FastbootUsbState) : Serving s true := rfl

theorem handleDownloadChunk_meets (chunk : Bytes) :
    (handleDownloadChunk chunk).Meets (fun _ => True) Serving := by
  refine meets_ite (meets_pure serving_true) (meets_then meets_true fun failed => ?_)
  cases failed with
  | some failReply => exact meets_then meets_true fun _ => meets_pure serving_true
  | none =>
      refine meets_then meets_true fun outcome => meets_then meets_true fun _ => ?_
      cases outcome with
      | ok u =>
          refine meets_then meets_true fun _ => meets_ite (meets_pure serving_true) ?_
          exact meets_then meets_true fun _ => meets_pure serving_true
      | error err =>
          refine meets_then meets_true fun _ => meets_then meets_true fun _ =>
            meets_ite (meets_pure serving_true) ?_
          exact meets_then meets_true fun _ => meets_then meets_true fun _ =>
            meets_pure serving_true

theorem handleRxChunk_meets (chunk : Bytes) :
    (handleRxChunk chunk).Meets (fun _ => True) Serving := by
  refine meets_then meets_true fun active => meets_ite ?_ ?_
  · refine meets_then meets_true fun command => meets_then meets_true fun _ => ?_
    exact meets_ite (handleDownloadChunk_meets _) (meets_pure serving_true)
  · refine meets_then meets_true fun remaining => meets_ite ?_ (handleDownloadChunk_meets _)
    refine meets_bind (handleDownloadChunk_meets _) fun keep s hkeep => ?_
    rw [show keep = true from hkeep]
    refine meets_then meets_true (fun _ => ?_) s
    exact meets_ite (meets_pure serving_true) (handleDownloadChunk_meets _)

/-- Every completion that ends the connected phase has reset it. -/
theorem onRecv_meets (hreset : ∀ resetReply, (reset resetReply).Meets (fun _ => True)
    fun s _ => R s)
    (data : Except IoError (Option Bytes)) :
    (onRecv data).Meets (fun _ => True) fun s keepServing => keepServing = false → R s := by
  have hkeep : ∀ s : FastbootUsbState, true = false → R s := fun s hfalse => by cases hfalse
  have hend : ∀ resetReply, (reset resetReply >>= fun _ => Pure.pure false : Async Bool).Meets
      (fun _ => True) fun s keepServing => keepServing = false → R s := by
    intro resetReply
    exact meets_bind (hreset resetReply) fun _ s h _ => h
  rcases data with err | (- | chunk)
  · -- a stall outside any transfer keeps serving; every other error resets
    refine meets_ite (meets_then meets_true fun _ => meets_ite (hend _) (meets_pure hkeep)) ?_
    exact meets_ite (meets_then meets_true fun _ => hend _) (hend _)
  · exact meets_pure hkeep
  · intro s
    refine (handleRxChunk_meets chunk s).mono fun s keep htrue hfalse => ?_
    exact absurd (htrue.symm.trans hfalse) (by simp)

theorem transferStep_meets
    (hreset : ∀ resetReply, (reset resetReply).Meets (fun _ => True) fun s _ => R s) :
    transferStep.Meets (fun _ => True) fun s keepServing => keepServing = false → R s := by
  refine meets_then meets_true fun finishing => meets_ite ?_ ?_
  · refine meets_then meets_true fun status => meets_then meets_true fun _ => ?_
    have hend : ∀ data, (reply data >>= fun _ => Pure.pure true : Async Bool).Meets
        (fun _ => True) fun s keepServing => keepServing = false → R s := fun data =>
      meets_then meets_true fun _ => meets_pure fun _ hfalse => by cases hfalse
    cases status with
    | ok u => exact hend _
    | error err => exact hend _
  · exact meets_then meets_true (onRecv_meets hreset)

end Exits

/-! ## The invariant -/

/-- What the data loop will do from where it is. -/
def DataLoop.Disciplined : DataLoop → Prop
  | .waiting _ usb => Cleared usb
  | .entering task => task.Meets Query.Silent fun _ _ => True
  | .priming task => task.Meets Query.Silent EndsCleared
  | .selecting _ => True
  | .transferring task => task.Meets (fun _ => True) EndsCleared
  | .leaving task => task.Meets Query.Silent fun s _ => Cleared s
  | .ended _ => True

/-- In a connected phase that may still go on. -/
def DataLoop.connected : DataLoop → Bool
  | .entering _ => true
  | .priming _ => true
  | .selecting _ => true
  | .transferring _ => true
  | _ => false

theorem DataLoop.Follows.disciplined {l l' : DataLoop} (h : l.Follows l') (hl : l.Disciplined) :
    l'.Disciplined ∧ (l'.connected = true → l.connected = true) := by
  cases h with
  | connected usb u => exact ⟨prime_meets (reset_meets trivial none nofun) usb, fun _ => rfl⟩
  | primed usb => exact ⟨trivial, fun _ => rfl⟩
  | closed usb => exact ⟨hl rfl, fun hc => by cases hc⟩
  | polled usb hready => exact ⟨transferStep_meets
      (fun r => reset_meets trivial r fun _ _ => trivial) usb, fun _ => rfl⟩
  | kept usb => exact ⟨prime_meets (reset_meets trivial none nofun) usb, fun _ => rfl⟩
  | failed usb => exact ⟨hl rfl, fun hc => by cases hc⟩
  | left usb u => exact ⟨hl, fun hc => by cases hc⟩

/-- Only the transfer step puts a query by which something passes, and such a query waits. -/
theorem DataLoop.Resumes.disciplined {l l' : DataLoop} {q : Query} (h : l.Resumes q l')
    (hl : l.Disciplined) :
    l'.Disciplined ∧ (l'.connected = l.connected) ∧
      (¬ q.Silent → l.connected = true ∧ l.atSelect = true) := by
  cases h with
  | entering usb q k r => exact ⟨hl.2 r, rfl, fun hloud => absurd hl.1 hloud⟩
  | priming usb q k r => exact ⟨hl.2 r, rfl, fun hloud => absurd hl.1 hloud⟩
  | leaving usb q k r => exact ⟨hl.2 r, rfl, fun hloud => absurd hl.1 hloud⟩
  | transferring usb q k r =>
      -- the queries by which something passes are all among those that wait
      refine ⟨hl.2 r, rfl, fun hloud => ⟨rfl, ?_⟩⟩
      cases q with
      | fetch => rfl
      | fetchTimeout => rfl
      | reply data => rfl
      | _ => exact absurd trivial hloud

namespace Link

/-- The select is told that the function is disabled. -/
def told (w : Link) : Prop := w.enabled.pending = true ∧ w.enabled.value = false

instance (w : Link) : Decidable w.told := inferInstanceAs (Decidable (_ ∧ _))

/-- A select that is not told goes on in the connection that it belongs to: the host has made no
other one since the connected phase was entered, and a notification covers no `Disable`. -/
def Covers (w : Link) : Input → Prop
  | .turn _ => w.loop.atSelect = true → w.told ∨
      (w.entered.connection = w.connection ∧
        (w.enabled.pending = true → w.entered.disables = w.disables))
  | _ => True

instance (w : Link) : (i : Input) → Decidable (w.Covers i)
  | .turn _ => inferInstanceAs (Decidable (_ → _ ∨ (_ ∧ (_ → _))))
  | .host _ _ | .complete _ | .control | .stop => .isTrue trivial

/-- Outside the connected phases nothing of a connection is left, and whatever passed over the bulk
endpoints did so in a connected phase that was entered in the same connection of the host, and after
the last `Disable` that was published. -/
structure Isolated (w : Link) : Prop where
  cleared : ∀ acceptCurrent usb, w.loop = .waiting acceptCurrent usb → Cleared usb
  exchanges : ∀ x ∈ w.exchanges, x.entered = x.current

/-- The invariant: a connected phase with nothing left to see was entered after the last
`Disable`. -/
structure Separate (w : Link) : Prop where
  disciplined : w.loop.Disciplined
  entered : w.loop.connected = true → w.enabled.pending = false → w.entered.disables = w.disables
  exchanges : ∀ x ∈ w.exchanges, x.entered = x.current

theorem separate_new (params : SwupdateParams) (serial : Bytes) (rxMaxPacketSizeDefault : Nat) :
    Separate (new params serial rxMaxPacketSizeDefault) :=
  ⟨⟨⟨rfl, rfl, rfl, rfl, rfl, rfl, rfl⟩, rfl⟩, fun hc => (by cases hc), by simp [new]⟩

theorem Separate.isolated {w : Link} (h : Separate w) : Isolated w := by
  refine ⟨fun acceptCurrent usb hloop => ?_, h.exchanges⟩
  have hd := h.disciplined
  rw [hloop] at hd
  exact hd

theorem Separate.host {w : Link} (h : Separate w) (event : ControlEvent) (discard : Bool) :
    Separate (w.host event discard) := by
  obtain ⟨completion, hshut⟩ := w.shutDown_eq
  unfold Link.host
  rw [hshut]
  cases event <;> exact ⟨h.disciplined, h.entered, h.exchanges⟩

theorem Separate.control {w : Link} (h : Separate w) : Separate w.control := by
  unfold Link.control
  split
  · exact h
  · split
    · exact ⟨h.disciplined, h.entered, h.exchanges⟩
    · refine ⟨h.disciplined, fun _ hseen => ?_, h.exchanges⟩
      rw [publish, Watch.pending_send] at hseen
      cases hseen

/-- An answer lets something pass, or it does not. -/
theorem answered_exchanges (q : Query) (w : Link) :
    (w.answered q).exchanges = w.exchanges ∨
      ¬ q.Silent ∧ (w.answered q).exchanges = w.exchanges ++ [⟨w.entered, w.mark⟩] := by
  cases q with
  | fetch => exact Or.inr ⟨id, rfl⟩
  | fetchTimeout => exact Or.inr ⟨id, rfl⟩
  | reply data => exact Or.inr ⟨id, rfl⟩
  | _ => exact Or.inl rfl

theorem Separate.resumes {w : Link} (h : Separate w) {q : Query} {l : DataLoop}
    (hresumes : w.loop.Resumes q l)
    (hselect : w.loop.atSelect = true → w.enabled.pending = false)
    (hsame : w.loop.atSelect = true → w.told ∨ w.entered.connection = w.connection) :
    Separate { w.answered q with loop := l } := by
  obtain ⟨hdisc, hconnected, hloud⟩ := hresumes.disciplined h.disciplined
  obtain ⟨-, -, henabled, -⟩ := w.answered_frame q
  obtain ⟨hentered, hdisables⟩ := w.answered_entered q
  refine ⟨hdisc, ?_, ?_⟩
  · rw [henabled, hentered, hdisables, hconnected]
    exact h.entered
  · rcases w.answered_exchanges q with hquiet | ⟨hq, hadd⟩
    · rw [hquiet]
      exact h.exchanges
    · -- something passes: the select has just found the channel without news
      obtain ⟨hin, hat⟩ := hloud hq
      have hconnection : w.entered.connection = w.connection := by
        refine (hsame hat).resolve_left fun htold => ?_
        cases htold.1.symm.trans (hselect hat)
      have hnow : w.entered = w.mark := Mark.ext hconnection (h.entered hin (hselect hat))
      rw [hadd]
      intro x hx
      rcases List.mem_append.1 hx with hold | hnew
      · exact h.exchanges x hold
      · rw [List.mem_singleton.1 hnew]
        exact hnow

theorem Separate.turn {w : Link} (h : Separate w) (answers : (q : Query) → q.Answer)
    (hcovers : w.Covers (.turn answers)) : Separate (w.turn answers) := by
  have hturned := w.turned answers
  generalize w.turn answers = w' at hturned ⊢
  cases hturned with
  | idle => exact h
  | enters acceptCurrent usb hloop hvalue =>
      exact ⟨enterConnected_meets usb, fun _ _ => rfl, h.exchanges⟩
  | parks acceptCurrent usb hloop hvalue =>
      exact ⟨h.isolated.cleared acceptCurrent usb hloop, fun hc => (by cases hc), h.exchanges⟩
  | notified hselect hpending =>
      unfold Link.notified
      cases hvalue : w.enabled.value with
      | true =>
          have hcovered : w.entered.disables = w.disables := by
            rcases hcovers hselect with htold | ⟨-, hcovered⟩
            · cases hvalue.symm.trans htold.2
            · exact hcovered hpending
          exact ⟨prime_meets (reset_meets trivial none nofun) _, fun _ _ => hcovered, h.exchanges⟩
      | false =>
          exact ⟨reset_meets trivial none nofun _, fun hc => (by cases hc), h.exchanges⟩
  | follows l hfollows =>
      obtain ⟨hdisc, hconnected⟩ := hfollows.disciplined h.disciplined
      exact ⟨hdisc, fun hc => h.entered (hconnected hc), h.exchanges⟩
  | resumes q l hresumes hselect =>
      exact h.resumes hresumes hselect fun hat => (hcovers hat).imp_right And.left

theorem Separate.step {w : Link} (h : Separate w) {i : Input} (hcovers : w.Covers i) :
    Separate (w.step i) := by
  cases i with
  | host event discard => exact h.host event discard
  | complete result =>
      obtain ⟨completion, hst⟩ := w.complete_eq result
      change Separate (w.complete result)
      rw [hst]
      exact ⟨h.disciplined, h.entered, h.exchanges⟩
  | control => exact h.control
  | turn answers => exact h.turn answers hcovers
  | stop => exact ⟨trivial, fun hc => (by cases hc), h.exchanges⟩

theorem Separate.run {w : Link} (h : Separate w) {is : List Input}
    (hall : Along Link.step Covers w is) : Separate (Lib.run Link.step w is) :=
  run_invariant (I := Separate) (fun _ _ hw hi => Separate.step hw hi) h hall

end Link

/-- In every interleaving connections are isolated from each other, unless the select goes on in a
new connection of the host without having been told of the end of the old one. -/
theorem connections_isolated (params : SwupdateParams) (serial : Bytes)
    (rxMaxPacketSizeDefault : Nat) (is : List Input)
    (h : Along Link.step Link.Covers (Link.new params serial rxMaxPacketSizeDefault) is) :
    (run Link.step (Link.new params serial rxMaxPacketSizeDefault) is).Isolated :=
  ((Link.separate_new params serial rxMaxPacketSizeDefault).run h).isolated

/-- A completion with the command, and turns of the data loop after it. -/
def receives (command : Bytes) (turns : Nat) : List Input :=
  .complete (.ok command) :: List.replicate turns quietTurn

/-- A session is opened, the function is disabled and enabled again. -/
def reopened : List Input :=
  connect ++ receives (bytes "WOpen:update") 8 ++ [.host .disable false, .control] ++
    List.replicate 4 quietTurn ++ [.host .enable false, .control] ++ List.replicate 7 quietTurn

theorem connections_isolated_reopened :
    Along Link.step Link.Covers (Link.new SwupdateParams.default [] 512) reopened ∧
      (run Link.step (Link.new SwupdateParams.default [] 512) reopened).Isolated := by
  have h : Along Link.step Link.Covers (Link.new SwupdateParams.default [] 512) reopened := by
    decide +kernel
  exact ⟨h, connections_isolated SwupdateParams.default [] 512 reopened h⟩

/-- The verdict of an install is outstanding. -/
def finishing : List Input :=
  connect ++ receives (bytes "WOpen:update") 8 ++ receives (bytes "Close") 5

/-- A reconnect that is over before the data loop looks. -/
def reconnect : List Input := [.host .disable false, .host .enable false, .control, .control]

/-- The verdict of a finish that was pending at a reconnect is sent on the new connection: if the
select takes the notification for a spurious one, and also if the control loop has not read the
events of the reconnect, or the `Disable` was discarded. And a session that was opened before a
reconnect is still open when the first command after it is fetched, if the reply to the open command
was waiting for space at that time. -/
theorem verdict_sent_after_reconnect :
    (∀ between ∈ [reconnect, [.host .disable false, .host .enable false],
        [.host .disable false, .host .enable true]],
      (run Link.step (Link.new SwupdateParams.default [] 512)
          (finishing ++ between ++ List.replicate 5 quietTurn)).exchanges.getLast?.map
            (fun x => (x.entered.connection, x.current.connection)) = some (1, 2) ∧
        lastReply (run Link.step (Link.new SwupdateParams.default [] 512)
          (finishing ++ between ++ List.replicate 5 quietTurn)).loop.usb.sent = some Reply.okay) ∧
      ((run Link.step (Link.new SwupdateParams.default [] 512)
          (connect ++ receives (bytes "WOpen:update") 2 ++ reconnect ++
            List.replicate 5 quietTurn ++ receives (bytes "Close") 1)).exchanges.getLast? =
          some ⟨⟨1, 0⟩, ⟨2, 1⟩⟩ ∧
        (run Link.step (Link.new SwupdateParams.default [] 512)
          (connect ++ receives (bytes "WOpen:update") 2 ++ reconnect ++
            List.replicate 5 quietTurn)).loop.usb.download.isOpen = true) := by
  decide +kernel

end SummitUsbgadget.FastbootUsb
