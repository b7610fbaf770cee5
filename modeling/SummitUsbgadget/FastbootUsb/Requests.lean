import SummitUsbgadget.Fastboot.Device
import SummitUsbgadget.FastbootUsb.Finish

/-!
# fastboot-usb follows the device

A request over the bulk endpoints: a completion with the command, the completions of its data phase,
and the iteration that waits for the verdict if the command asked for it. A command leaves the
connected loop in one of three states (`Leaves`): it is carried out, its data phase is to come, or
the verdict is. `request_carries` puts these together: a request takes the state of a device to that
of the device after its own step.
-/

set_option autoImplicit false

namespace SummitUsbgadget.FastbootUsb

open SummitUsbgadget.Lib
open SummitUsbgadget.Lib.Program
open SummitUsbgadget.Swupdate
open SummitUsbgadget.Fastboot

/-- How a request arrives: what the iteration with the command is answered, the completions of the
data phase, and the iteration that may have to wait for the verdict. -/
structure Delivery where
  top : Answers
  step : Answers
  packets : List Packet
  verdict : Iteration

/-- The completion with the command. -/
def Delivery.command (v : Delivery) (r : Request) : Packet := ⟨r.command, v.top, v.step⟩

/-- The connected loop from the command to the last reply to it. -/
def request (c : Bool × FastbootUsbState) (r : Request) (v : Delivery) : Bool × FastbootUsbState :=
  let received := run serve c ((v.command r :: v.packets).map Packet.iteration)
  if received.2.finishPending then serve received v.verdict else received

/-- What the host sees of the state is what it sees of the device. -/
structure Shows (d : Device) (s : FastbootUsbState) : Prop where
  serial : s.serial = d.serial
  fastbootUsbSessionOpen : s.fastbootUsbSessionOpen = d.fastbootUsbSessionOpen
  fastbootPendingFlash : s.fastbootPendingFlash = d.fastbootPendingFlash
  sent : s.sent.map Sent.data = d.sent
  gadgetTornDown : s.gadgetTornDown = false
  pendingFailReply : s.pendingFailReply = none

/-- The state is that of the device between two requests. -/
structure Carries (d : Device) (s : FastbootUsbState) : Prop extends Shows d s where
  session : Mirrors d.transfer s.download
  idle : s.downloadActive = false
  finishPending : s.finishPending = false

/-- A data phase of `len` bytes is to come. -/
structure Receiving (d : Device) (len : Nat) (s : FastbootUsbState) : Prop extends Shows d s where
  session : Mirrors d.transfer s.download
  announced : Announced len s

/-- The feed is closed and the verdict is to come. -/
structure Closing (outcome : Joined) (d : Device) (s : FastbootUsbState) : Prop extends
    Shows d s where
  session : Awaits outcome s.download
  finishPending : s.finishPending = true

/-- The endpoint takes every reply. -/
def Query.Replied : (q : Query) → q.Answer → Prop
  | .reply _, result => result = .ok ()
  | _, _ => True

/-- What a command is answered: a session that has to be opened looks at the restart flag. -/
structure Opening (r : Request) (o : Answers) : Prop where
  restartPending : (o 0 .look).restartPending = r.restartPending
  system : o 0 .system = r.info
  replied : o.All Query.Replied

/-- What a command leaves: it is carried out, its data phase is to come, or the verdict is. -/
inductive Leaves (r : Request) (d : Device) (command : ParsedCommand) (s : FastbootUsbState) : Prop
  | done (hlen : d.dataLength r command = 0) (h : Carries (d.carryOut r command) s)
  | receiving (d' : Device) (hlen : d.dataLength r command ≠ 0)
      (htransfer : d'.transfer = some (d.transfer.getD r.outcome))
      (heq : d.carryOut r command = d'.reply [Reply.okay])
      (h : Receiving d' (d.dataLength r command) s)
  | closing (d' : Device) (outcome : Joined) (hlen : d.dataLength r command = 0)
      (hopen : d.transfer = some outcome) (htransfer : d'.transfer = some outcome)
      (heq : d.carryOut r command = d'.finish) (h : Closing outcome d' s)

section Commands

variable {d : Device} {r : Request} {s : FastbootUsbState} {o : Answers}

theorem Shows.replied (h : Shows d s) (data : Bytes) (accepted : Bool) :
    Shows (d.reply [data]) (s.replied data accepted) := by
  obtain ⟨hserial, hopen, hpending, hsent, htorn, hfail⟩ := h
  refine ⟨hserial, hopen, hpending, ?_, htorn, hfail⟩
  change (s.sent ++ [Sent.mk data _]).map Sent.data = d.sent ++ [data]
  rw [List.map_append, hsent]
  rfl

theorem Carries.replied (h : Carries d s) (data : Bytes) (accepted : Bool) :
    Carries (d.reply [data]) (s.replied data accepted) :=
  ⟨h.toShows.replied data accepted, h.session, h.idle, h.finishPending⟩

/-- The read in flight and the ledger of the parser are no part of it. -/
theorem Carries.aside (h : Carries d s) (reading : Option Nat) (parsed : List Bytes) :
    Carries d { s with reading := reading, parsed := parsed } := by
  obtain ⟨⟨hserial, hopen, hpending, hsent, htorn, hfail⟩, hsession, hidle, hfin⟩ := h
  exact ⟨⟨hserial, hopen, hpending, hsent, htorn, hfail⟩, hsession, hidle, hfin⟩

theorem exec_reply_pure (s : FastbootUsbState) (o : Answers) (data : Bytes) (handled : Bool) :
    exec (reply data >>= fun _ => (Pure.pure handled : Async Bool)) s o =
      (handled, s.replied data (Except.isOk (o 0 (.reply data))), o.rest) := rfl

/-! ## Commands without a data phase -/

theorem refuse_carries (h : Carries d s) (data : Bytes) (o : Answers) :
    Carries (d.reply [data]) (exec (refuse data) s o).2.1 := by
  unfold refuse
  rw [exec_reply_pure]
  exact h.replied data _

theorem handleGetVar_carries (h : Carries d s) (ho : Opening r o) (arg : Bytes) :
    Carries (d.carryOut r (.getVar arg)) (exec (handleGetVar arg) s o).2.1 := by
  change Carries (d.reply [(fastbootGetvarReply arg d.serial r.info).getD Reply.failCmd]) _
  unfold handleGetVar
  rw [exec_query_bind, ho.system, exec_read_bind, h.serial]
  cases fastbootGetvarReply arg d.serial r.info with
  | some data =>
      dsimp only
      rw [exec_reply_pure]
      exact h.replied data _
  | none =>
      dsimp only
      rw [exec_reply_pure]
      exact h.replied Reply.failCmd _

theorem handleFetchCommand_carries (h : Carries d s) (ho : Opening r o) (target : FetchTarget) :
    Carries (d.carryOut r (.fetch target)) (exec (handleFetchCommand target) s o).2.1 := by
  have hthree : d.carryOut r (.fetch target) =
      ((d.reply [dataHeader r.info.json.length]).reply [r.info.json]).reply [Reply.okay] := by
    simp [Device.carryOut, Device.reply]
  rw [hthree]
  unfold handleFetchCommand sendDataHeader
  rw [exec_query_bind, ho.system, exec_bind, exec_sendStatic, ho.replied.rest 0 (.reply _)]
  dsimp only
  rw [exec_bind, exec_sendStatic, ho.replied.rest.rest 0 (.reply _)]
  dsimp only
  rw [exec_reply_pure]
  exact ((h.replied _ _).replied _ _).replied _ _

/-! ## Beginning a transfer -/

/-- What comes of beginning a transfer. -/
def Begun (r : Request) (d : Device) (begun : Bool) (s : FastbootUsbState) : Prop :=
  match d.begun r with
  | none => begun = false ∧ Carries (d.reply [Reply.failOpen]) s
  | some d' => begun = true ∧ Carries d' s

theorem beginDownloadCommand_begun (h : Carries d s) (ho : Opening r o) :
    Begun r d (exec beginDownloadCommand s o).1 (exec beginDownloadCommand s o).2.1 := by
  have hopened := h.session.openSession ho.restartPending
  unfold beginDownloadCommand Begun
  rw [exec_bind, exec_openSession]
  simp only [session_eq, setSession_eq, answered_look]
  generalize s.download.openSession (o 0 .look) = opened at hopened ⊢
  obtain ⟨res, x⟩ := opened
  obtain ⟨⟨hserial, hopen, hpending, hsent, htorn, hfail⟩, -, hidle, hfin⟩ := h
  cases hbegun : d.begun r with
  | none =>
      rw [hbegun] at hopened
      obtain ⟨⟨err, herr⟩, hsession⟩ := hopened
      dsimp only at herr hsession ⊢
      subst herr
      rw [exec_reply_pure]
      refine ⟨rfl, Carries.replied ?_ _ _⟩
      exact ⟨⟨hserial, hopen, hpending, hsent, htorn, hfail⟩, hsession, hidle, hfin⟩
  | some d' =>
      rw [hbegun] at hopened
      obtain ⟨hok, hsession⟩ := hopened
      dsimp only at hok hsession ⊢
      subst hok
      -- the device has got a transfer, and is the same otherwise
      obtain rfl := Device.begun_some hbegun
      exact ⟨rfl, ⟨hserial, hopen, hpending, hsent, htorn, hfail⟩, hsession, hidle, hfin⟩

theorem ensureBegun_begun (h : Carries d s) (ho : Opening r o) :
    Begun r d (exec ensureBegun s o).1 (exec ensureBegun s o).2.1 := by
  unfold ensureBegun
  rw [exec_read_bind, h.session.isOpen]
  cases htransfer : d.transfer with
  | some outcome =>
      have hsome : d.transfer.isSome := by simp [htransfer]
      unfold Begun
      rw [Device.begun_of_transfer hsome]
      exact ⟨rfl, h⟩
  | none => exact beginDownloadCommand_begun h ho

theorem handleWopenCommand_carries (h : Carries d s) (ho : Opening r o) :
    Carries (d.carryOut r .wOpen) (exec handleWopenCommand s o).2.1 := by
  have hbegin := beginDownloadCommand_begun h ho
  unfold Begun at hbegin
  unfold handleWopenCommand
  rw [exec_bind]
  generalize exec beginDownloadCommand s o = res at hbegin ⊢
  obtain ⟨begun, t, o'⟩ := res
  cases hbegun : d.begun r with
  | none =>
      rw [hbegun] at hbegin
      obtain ⟨rfl, ht⟩ := hbegin
      rw [Device.carryOut_wOpen_refused hbegun]
      exact ht
  | some d' =>
      rw [hbegun] at hbegin
      obtain ⟨rfl, ⟨⟨hserial, -, -, hsent, htorn, hfail⟩, hsession, hidle, hfin⟩⟩ := hbegin
      rw [Device.carryOut_wOpen hbegun]
      dsimp only
      rw [if_neg (by simp), exec_update_bind, exec_reply_pure]
      refine Carries.replied ?_ _ _
      exact ⟨⟨hserial, rfl, rfl, hsent, htorn, hfail⟩, hsession, hidle, hfin⟩

theorem startDownloadTransfer_leaves (h : Carries d s) (ho : Opening r o) (len : Nat)
    (kind : DownloadKind) :
    Leaves r d (.download len kind) (exec (startDownloadTransfer len kind) s o).2.1 := by
  have hbegin := ensureBegun_begun h ho
  have hreplied := all_exec s ensureBegun ho.replied
  unfold Begun at hbegin
  unfold startDownloadTransfer sendDataHeader
  rw [exec_bind]
  generalize exec ensureBegun s o = res at hbegin hreplied ⊢
  obtain ⟨begun, t, o'⟩ := res
  cases hbegun : d.begun r with
  | none =>
      rw [hbegun] at hbegin
      obtain ⟨rfl, ht⟩ := hbegin
      refine .done (by simp [Device.dataLength, hbegun]) ?_
      rw [Device.carryOut_download_refused hbegun]
      exact ht
  | some d' =>
      rw [hbegun] at hbegin
      obtain ⟨rfl, ht⟩ := hbegin
      have htransfer : d'.transfer = some (d.transfer.getD r.outcome) := by
        rw [Device.begun_some hbegun]
      have hsize : d.dataLength r (.download len kind) = len := by simp [Device.dataLength, hbegun]
      have hcarry := Device.carryOut_download hbegun len kind
      obtain ⟨⟨hserial, hopen, -, hsent, htorn, hfail⟩, hsession, -, hfin⟩ :=
        ht.replied (dataHeader len) true
      dsimp only at hreplied ⊢
      rw [if_neg (by simp), exec_bind, exec_sendStatic, hreplied 0 (.reply _)]
      dsimp only
      rw [exec_update_bind]
      by_cases hzero : len = 0
      · -- an empty data phase is over at once
        refine .done (hsize.trans hzero) ?_
        rw [hcarry, if_pos hzero, exec_reply_pure]
        refine Carries.replied ?_ _ _
        refine ⟨⟨hserial, hopen, ?_, hsent, htorn, hfail⟩, hsession, ?_, hfin⟩
        · change fastbootDownload kind t.fastbootUsbSessionOpen = _
          rw [ht.fastbootUsbSessionOpen]
        · simp [FastbootUsbState.downloadActive, hzero]
      · refine .receiving _ (by rw [hsize]; exact hzero) ?_ hcarry ?_
        · exact htransfer
        · rw [hsize, if_neg hzero]
          refine ⟨⟨hserial, hopen, ?_, hsent, htorn, hfail⟩, hsession,
            ⟨rfl, hfin, htorn⟩, rfl, hfail⟩
          change fastbootDownload kind t.fastbootUsbSessionOpen = _
          rw [ht.fastbootUsbSessionOpen]

/-! ## Finishing a transfer -/

/-- The finish of a transfer: refused at once, or the verdict is waited for. -/
theorem startFinishDownloadCommand_closing (h : Carries d s) (o : Answers) :
    match d.transfer with
    | none => (exec startFinishDownloadCommand s o).1 = false ∧
        Carries (d.reply [Reply.failClose]) (exec startFinishDownloadCommand s o).2.1
    | some outcome => (exec startFinishDownloadCommand s o).1 = true ∧
        Closing outcome d (exec startFinishDownloadCommand s o).2.1 := by
  unfold startFinishDownloadCommand
  rw [exec_read_bind, h.session.isOpen]
  cases htransfer : d.transfer with
  | none =>
      dsimp only
      rw [if_pos (by simp), exec_reply_pure]
      exact ⟨rfl, h.replied _ _⟩
  | some outcome =>
      obtain ⟨⟨hserial, hopen, hpending, hsent, htorn, hfail⟩, hsession, -, -⟩ := h
      rw [htransfer] at hsession
      dsimp only
      rw [if_neg (by simp), exec_onSession_bind, exec_update_bind]
      refine ⟨rfl, ⟨hserial, hopen, hpending, hsent, htorn, hfail⟩, ?_, rfl⟩
      exact hsession.2.congr (Session.status_eof _) (Session.terminal_eof _)

/-- A refused `Close` leaves the pending flash alone, of which there is none without a transfer. -/
theorem handleCloseCommand_leaves (h : Carries d s) (hproper : d.Proper) (o : Answers) :
    Leaves r d .close (exec handleCloseCommand s o).2.1 := by
  have hfinish := startFinishDownloadCommand_closing h o
  change Leaves r d .close (exec startFinishDownloadCommand s o).2.1
  cases htransfer : d.transfer with
  | none =>
      rw [htransfer] at hfinish
      refine .done rfl ?_
      change Carries d.finish _
      rw [Device.finish_of_none htransfer, ← hproper.pendingFlash_eq_false htransfer]
      exact hfinish.2
  | some outcome =>
      rw [htransfer] at hfinish
      exact .closing d outcome rfl htransfer htransfer rfl hfinish.2

theorem finishFlashDownload_leaves (h : Carries d s) (hproper : d.Proper) (o : Answers) :
    Leaves r d .flash (exec finishFlashDownload s o).2.1 := by
  unfold finishFlashDownload
  rw [exec_read_bind, exec_read_bind, h.fastbootPendingFlash, h.idle]
  cases hflash : d.fastbootPendingFlash with
  | false =>
      refine .done rfl ?_
      rw [Device.carryOut_flash_refused hflash, if_pos (by simp), exec_reply_pure]
      exact h.replied _ _
  | true =>
      -- a flash is pending, so there is a transfer to finish
      obtain ⟨outcome, htransfer⟩ := Option.isSome_iff_exists.1 (hproper hflash)
      rw [if_neg (by simp), if_neg (by simp), exec_bind, exec_reply]
      dsimp only
      rw [exec_bind]
      have hfinish := startFinishDownloadCommand_closing
        (h.replied Reply.infoWaitSwupdate
          (Except.isOk (o 0 (.reply Reply.infoWaitSwupdate)))) o.rest
      change match d.transfer with | none => _ | some outcome => _ at hfinish
      rw [htransfer] at hfinish
      obtain ⟨hbegun, hclosing⟩ := hfinish
      rw [hbegun, if_neg (by simp)]
      exact .closing (d.reply [Reply.infoWaitSwupdate]) outcome rfl htransfer htransfer
        (Device.carryOut_flash hflash) hclosing

/-! ## A command -/

theorem dispatch_leaves (h : Carries d s) (hproper : d.Proper) (ho : Opening r o)
    (command : ParsedCommand) : Leaves r d command (exec (dispatch command) s o).2.1 := by
  cases command with
  | download len kind => exact startDownloadTransfer_leaves h ho len kind
  | wOpen => exact .done rfl (handleWopenCommand_carries h ho)
  | getVar arg => exact .done rfl (handleGetVar_carries h ho arg)
  | fetch target => exact .done rfl (handleFetchCommand_carries h ho target)
  | fetchUnknownPart => exact .done rfl (refuse_carries h _ o)
  | flash => exact finishFlashDownload_leaves h hproper o
  | close => exact handleCloseCommand_leaves h hproper o
  | unsupported => exact .done rfl (refuse_carries h _ o)

/-- Nothing follows the command, so nothing goes to the download. -/
theorem exec_handleRxChunk_command {chunk : Bytes} {command : ParsedCommand} (s : FastbootUsbState)
    (o : Answers) (hidle : s.downloadActive = false)
    (hparse : parseCommand chunk = some (command, chunk.length)) :
    (exec (handleRxChunk chunk) s o).1 = true ∧
      (exec (handleRxChunk chunk) s o).2.1 =
        (exec (dispatch command) { s with parsed := s.parsed ++ [chunk] } o).2.1 := by
  generalize hres : exec (dispatch command) { s with parsed := s.parsed ++ [chunk] } o = res
  have hcommand : exec (handleCommandChunk chunk) s o = ((res.1, []), res.2.1, res.2.2) := by
    unfold handleCommandChunk
    rw [exec_update_bind, hparse]
    dsimp only
    rw [exec_bind, hres, List.drop_length]
    rfl
  unfold handleRxChunk
  rw [exec_read_bind, if_pos (by simp [hidle]), exec_bind, hcommand]
  dsimp only
  rw [exec_read_bind, if_neg (by simp)]
  exact ⟨rfl, rfl⟩

/-- The iteration that receives the command. -/
theorem iterate_command (h : Carries d s) (hproper : d.Proper) (p : Packet)
    (ho : Opening r p.iteration.step.rest) {command : ParsedCommand}
    (hparse : parseCommand p.chunk = some (command, p.chunk.length)) :
    (iterate s p.iteration).1 = true ∧ Leaves r d command (iterate s p.iteration).2 := by
  -- outside a data phase the loop does not look at the verdict
  have hidle : { (exec checkVerdict s p.iteration.top).2.1 with reading := none } =
      { s with reading := none } := by
    rw [exec_checkVerdict_idle s _ (.inl h.idle)]
  rw [iterate_completion s p hidle h.finishPending h.gadgetTornDown]
  obtain ⟨hkeep, hst⟩ := exec_handleRxChunk_command { s with reading := none } p.iteration.step.rest
    h.idle hparse
  refine ⟨hkeep, ?_⟩
  dsimp only
  rw [hst]
  exact dispatch_leaves (h.aside none _) hproper ho command

end Commands

/-! ## The data phase -/

/-- SWUpdate reads on while the packet is handled. -/
def Packet.Steady (outcome : Joined) (p : Packet) : Prop :=
  Fastboot.Steady outcome p.top ∧ Fastboot.Steady outcome p.step

/-- The packets are a data phase of `len` bytes: one comes as long as bytes are missing. -/
structure Complete (len : Nat) (ps : List Packet) : Prop where
  total : (payload ps).length = len
  missing : ∀ qs, qs <+: ps → qs ≠ ps → (payload qs).length < len

theorem Complete.eq_nil {ps : List Packet} (h : Complete 0 ps) : ps = [] := by
  by_contra hne
  exact Nat.not_lt_zero _ (h.missing [] List.nil_prefix (Ne.symm hne))

/-- Packets that are not empty are a data phase of the length of their payload. -/
theorem complete_of_ne_nil {ps : List Packet} (h : ∀ p ∈ ps, p.chunk ≠ []) :
    Complete (payload ps).length ps := by
  refine ⟨rfl, ?_⟩
  rintro qs ⟨rest, rfl⟩ hne
  cases rest with
  | nil => exact absurd (List.append_nil qs).symm hne
  | cons p rest =>
      have hp : 0 < p.chunk.length := List.length_pos_iff.2 (h p (by simp))
      simp only [payload_append, payload_cons, List.length_append]
      omega

/-- A block that the queue takes, at once or when there is room again. -/
theorem pushBlock_room {outcome : Joined} {x : Session} (h : Mirrors (some outcome) x) {v : View}
    (hv : v.queue ≠ .closed) (w : View) (item : Bytes) :
    pushBlock v w true item x = (.ok (), (x.offer .room item).2) := by
  obtain ⟨k, hk⟩ := Option.isSome_iff_exists.1 h.1
  have hopen : ∀ v, x.ensureOpen v = (.ok (), x) := by
    intro v
    simp [Session.ensureOpen, hk]
  cases hq : v.queue with
  | room => simp [pushBlock, Session.trySend, hopen, hq, Session.offer, hk]
  | full => simp [pushBlock, Session.trySend, Session.send, hopen, hq, Session.offer, hk]
  | closed => exact absurd hq hv

namespace Phase

/-- A data phase without a failure, on the session of a transfer. -/
def Fed (outcome : Joined) (ph : Phase) : Prop :=
  ph.failed = none ∧ Mirrors (some outcome) ph.download

theorem Fed.watch {outcome : Joined} {ph : Phase} (h : ph.Fed outcome) {v : View}
    (hv : Calm outcome v) : (ph.watch v).Fed outcome := by
  obtain ⟨hseen, hsession⟩ := h.2.tryFinished hv
  rcases watch_of_unfailing hseen with heq | heq
  · rw [heq]
    exact h
  · rw [heq]
    exact ⟨rfl, hsession⟩

theorem Fed.push {outcome : Joined} {ph : Phase} (h : ph.Fed outcome) {v : View}
    (hv : v.queue ≠ .closed) (w : View) (chunk : Bytes) : (ph.push v w true chunk).Fed outcome := by
  unfold Phase.push
  rw [h.1]
  dsimp only
  split
  · exact h
  · rw [pushBlock_room h.2 hv]
    exact ⟨rfl, (h.2.offer chunk).2⟩

theorem Fed.take {outcome : Joined} {ph : Phase} (h : ph.Fed outcome) {p : Packet}
    (hp : p.Steady outcome) : (ph.take p).Fed outcome := by
  have hslot : p.step 3 .slot = true := hp.2.slot 3
  unfold Phase.take
  rw [hslot]
  exact (h.watch (hp.1.calm 0)).push (hp.2.calm 1).1 _ _

end Phase

/-- A complete data phase is acknowledged. -/
theorem receive_carries {d : Device} {len : Nat} {s : FastbootUsbState} (h : Receiving d len s)
    {outcome : Joined} (htransfer : d.transfer = some outcome) (hlen : len ≠ 0) {ps : List Packet}
    (hps : Complete len ps) (hsteady : ∀ p ∈ ps, p.Steady outcome) :
    ∃ t, receive s ps = (true, t) ∧ Carries (d.reply [Reply.okay]) t := by
  obtain ⟨⟨hserial, hopen, hpending, hsent, htorn, hfail⟩, hsession, hannounced⟩ := h
  rw [htransfer] at hsession
  have hfed : (phaseAfter s ps).Fed outcome :=
    run_invariant (P := fun _ p => p.Steady outcome) (fun _ _ hph hp => hph.take hp)
      ⟨hfail, hsession⟩ (along_of_forall_mem hsteady)
  rcases List.eq_nil_or_concat' ps with rfl | ⟨qs, p, rfl⟩
  · exact absurd hps.total.symm hlen
  · -- the last packet is the one that reaches the boundary
    have hmissing := hps.missing qs (List.prefix_append qs [p]) (by simp)
    obtain ⟨accepted, hst⟩ := receive_acknowledged hannounced hmissing hps.total hfed.1
    refine ⟨_, hst, Carries.replied ?_ _ _⟩
    refine ⟨⟨hserial, hopen, hpending, hsent, htorn, hfed.1⟩, ?_, ?_, hannounced.notFinishing⟩
    · rw [htransfer]
      exact hfed.2
    · rw [downloadActive_eq_false_iff]
      exact Nat.le_of_eq hannounced.size

/-! ## The verdict -/

/-- An iteration that waits for the verdict. -/
structure Awaited (outcome : Joined) (j : Iteration) : Prop where
  select : j.select = .transfer
  submitted : j.top.All Query.Submitted
  joined : j.step 0 .join = outcome

theorem iterate_closing {outcome : Joined} {d : Device} {s : FastbootUsbState}
    (h : Closing outcome d s) (htransfer : d.transfer = some outcome) {j : Iteration}
    (hj : Awaited outcome j) :
    (iterate s j).1 = true ∧ Carries d.finish (iterate s j).2 := by
  rw [iterate_finishing s hj.select hj.submitted h.finishPending h.gadgetTornDown]
  obtain ⟨hverdict, x, hst⟩ := exec_finished_awaits s.armed j.step h.session hj.joined
  unfold transferStep
  rw [exec_read_bind, if_pos (by exact h.finishPending), exec_bind]
  generalize exec (finished : Async _) s.armed j.step = res at hverdict hst ⊢
  obtain ⟨verdict, t, o⟩ := res
  dsimp only at hverdict hst ⊢
  subst hst
  rw [Device.finish_of_some htransfer, ← hverdict]
  unfold resetState
  obtain ⟨hserial, -, -, hsent, htorn, -⟩ := h.toShows
  rw [exec_update_bind]
  cases verdict with
  | ok u =>
      dsimp only
      rw [exec_reply_pure]
      refine ⟨rfl, Carries.replied ?_ _ _⟩
      exact ⟨⟨hserial, rfl, rfl, hsent, htorn, rfl⟩, mirrors_new _ _, rfl, rfl⟩
  | error err =>
      dsimp only
      rw [exec_reply_pure]
      refine ⟨rfl, Carries.replied ?_ _ _⟩
      exact ⟨⟨hserial, rfl, rfl, hsent, htorn, rfl⟩, mirrors_new _ _, rfl, rfl⟩

/-! ## A request -/

/-- A delivery of the request to the device: the data phase is complete, and SWUpdate reads on and
gives its verdict. -/
structure Arrives (d : Device) (r : Request) (v : Delivery) : Prop where
  command : Opening r v.step.rest
  packets : ∀ p ∈ v.packets, p.Steady (d.transfer.getD r.outcome)
  complete : ∀ command consumed, parseCommand r.command = some (command, consumed) →
    Complete (d.dataLength r command) v.packets
  verdict : Awaited (d.transfer.getD r.outcome) v.verdict

/-- The connected loop follows the device, and goes on. -/
theorem request_carries {d : Device} {s : FastbootUsbState} (h : Carries d s) (hproper : d.Proper)
    {r : Request} {v : Delivery} (hv : Arrives d r v) {command : ParsedCommand}
    (hparse : parseCommand r.command = some (command, r.command.length)) :
    (request (true, s) r v).1 = true ∧ Carries (d.step r) (request (true, s) r v).2 := by
  have hstep : d.step r = d.carryOut r command := by simp [Device.step, hparse]
  have hcomplete := hv.complete command _ hparse
  obtain ⟨hkeep, hleaves⟩ := iterate_command h hproper (v.command r) hv.command hparse
  have hreceived : run serve (true, s) ((v.command r :: v.packets).map Packet.iteration) =
      receive (iterate s (v.command r).iteration).2 v.packets := by
    change run serve (iterate s (v.command r).iteration) _ = _
    unfold receive
    rw [← hkeep]
  unfold request
  rw [hstep]
  dsimp only
  rw [hreceived]
  generalize (iterate s (v.command r).iteration).2 = t at hleaves ⊢
  have hnothing : receive t [] = (true, t) := rfl
  cases hleaves with
  | done hlen hcarries =>
      rw [hlen] at hcomplete
      rw [hcomplete.eq_nil, hnothing, if_neg (by simp [hcarries.finishPending])]
      exact ⟨rfl, hcarries⟩
  | receiving d' hlen htransfer heq hreceiving =>
      obtain ⟨t', hst, hcarries⟩ := receive_carries hreceiving htransfer hlen hcomplete hv.packets
      rw [hst, heq, if_neg (by simp [hcarries.finishPending])]
      exact ⟨rfl, hcarries⟩
  | closing d' outcome hlen hopen htransfer heq hclosing =>
      -- the command asked for the verdict, so one more iteration answers it
      rw [hlen] at hcomplete
      have hverdict := hv.verdict
      rw [hopen, Option.getD_some] at hverdict
      rw [hcomplete.eq_nil, hnothing, heq, if_pos hclosing.finishPending]
      exact iterate_closing hclosing htransfer hverdict

theorem carries_new (params : SwupdateParams) (serial : Bytes) (rxMaxPacketSizeDefault : Nat) :
    Carries (Device.new serial) (FastbootUsbState.new params serial rxMaxPacketSizeDefault) :=
  ⟨⟨rfl, rfl, rfl, rfl, rfl, rfl⟩, mirrors_new _ _, rfl, rfl⟩

end SummitUsbgadget.FastbootUsb
