import SummitUsbgadget.Swupdate.Verdict
import SummitUsbgadget.FastbootUsb.DataPhase

/-!
# The finish of a fastboot-usb transfer

A data phase that SWUpdate does not fail, and the `flash` or `Close` behind it. The session of the
data phase is followed to its boundary (`receive_traced`); whether the finish waits for the verdict
or is refused depends on what is left of it (`finish_lastReply`).
-/

set_option autoImplicit false

namespace SummitUsbgadget.FastbootUsb

open SummitUsbgadget.Lib
open SummitUsbgadget.Lib.Program
open SummitUsbgadget.Swupdate
open SummitUsbgadget.Fastboot

/-- No look at the verdict shows a failure. -/
def Query.Unfailing : (q : Query) → q.Answer → Prop
  | .look, v => ¬ v.reportsFailure
  | _, _ => True

/-- SWUpdate does not fail while the packet is handled. -/
def Packet.Unfailing (p : Packet) : Prop :=
  p.top.All Query.Unfailing ∧ p.step.All Query.Unfailing

namespace Phase

/-- A data phase without a failure, on a session that has come from `d`. -/
def Traced (d : Session) (ph : Phase) : Prop := ph.failed = none ∧ d.Traced ph.download

theorem Traced.watch {d : Session} {ph : Phase} (h : ph.Traced d) {v : View}
    (hv : ¬ v.reportsFailure) : (ph.watch v).Traced d := by
  obtain ⟨hseen, htraced⟩ := h.2.tryFinished hv
  rcases watch_of_unfailing hseen with heq | heq
  · rw [heq]
    exact h
  · rw [heq]
    exact ⟨rfl, htraced⟩

theorem Traced.push {d : Session} {ph : Phase} (h : ph.Traced d) (v w : View) (accepted : Bool)
    (chunk : Bytes) : (ph.push v w accepted chunk).Traced d := by
  unfold Phase.push
  rw [h.1]
  dsimp only
  split
  · exact h
  · rcases pushBlock_cases v w accepted chunk ph.download with ⟨hvac, -, -⟩ | ⟨q, hq, heq⟩
    · exact absurd hvac h.2.underway.not_vacant
    · -- the session is not vacant, so the block does not open it
      rw [heq, Session.engaged, h.2.underway.ensureOpen]
      exact ⟨rfl, h.2.offer hq chunk⟩

theorem Traced.take {d : Session} {ph : Phase} (h : ph.Traced d) {p : Packet}
    (hp : p.Unfailing) : (ph.take p).Traced d :=
  (h.watch (hp.1 0 .look)).push _ _ _ _

end Phase

section Finish

variable {len : Nat} {s : FastbootUsbState}

theorem phaseAfter_traced (h : Announced len s) (hunder : s.download.Underway) {ps : List Packet}
    (hps : ∀ p ∈ ps, p.Unfailing) : (phaseAfter s ps).Traced s.download := by
  unfold phaseAfter
  induction ps using List.reverseRecOn with
  | nil => exact ⟨h.unfailed, Session.traced_refl hunder⟩
  | append_singleton ps p ih =>
      rw [run_concat]
      have hrest := ih fun q hq => hps q (List.mem_append_left _ hq)
      exact hrest.take (hps p (by simp))

/-- A data phase that SWUpdate does not fail is acknowledged, and the session has been followed. -/
theorem receive_traced (h : Announced len s) (hunder : s.download.Underway) {ps : List Packet}
    {p : Packet} (hps : (payload ps).length < len) (hp : (payload (ps ++ [p])).length = len)
    (hunf : ∀ q ∈ ps ++ [p], q.Unfailing) :
    ∃ d accepted, s.download.Traced d ∧ receive s (ps ++ [p]) = (true,
      { s with reading := none, download := d, downloadedSize := len }.replied Reply.okay
        accepted) := by
  obtain ⟨hf, htraced⟩ := phaseAfter_traced h hunder hunf
  obtain ⟨accepted, hst⟩ := receive_acknowledged h hps hp hf
  refine ⟨_, accepted, htraced, ?_⟩
  rw [hst]
  simp only [FastbootUsbState.at, hf, FastbootUsbState.replied, h.unfailed]

end Finish

/-! ## The finishing command -/

/-- What a finishing command in `s` may lead to: the feed is closed and the verdict is waited for,
or the finish is refused. -/
structure Finishes (s t : FastbootUsbState) : Prop where
  active : t.downloadActive = s.downloadActive
  tornDown : t.gadgetTornDown = s.gadgetTornDown
  waits : s.download.isOpen = true → t.finishPending = true ∧ t.download = s.download.eof
  refused : s.download.isOpen = false →
    t.finishPending = s.finishPending ∧ lastReply t.sent = some Reply.failClose

theorem startFinishDownloadCommand_finishes (s : FastbootUsbState) (o : Answers) :
    (exec startFinishDownloadCommand s o).1 = s.download.isOpen ∧
      Finishes s (exec startFinishDownloadCommand s o).2.1 := by
  unfold startFinishDownloadCommand
  rw [exec_read_bind]
  cases hopen : s.download.isOpen with
  | true =>
      rw [if_neg (by simp), exec_onSession_bind]
      exact ⟨rfl, rfl, rfl, fun _ => ⟨rfl, rfl⟩, by simp [hopen]⟩
  | false =>
      rw [if_pos Bool.not_false, exec_bind, exec_reply]
      exact ⟨rfl, rfl, rfl, by simp [hopen], fun _ => ⟨rfl, lastReply_concat _ _ _⟩⟩

theorem finishFlashDownload_finishes (s : FastbootUsbState) (o : Answers)
    (hpending : s.fastbootPendingFlash = true) (hact : s.downloadActive = false) :
    Finishes s (exec finishFlashDownload s o).2.1 := by
  unfold finishFlashDownload
  rw [exec_read_bind, exec_read_bind, if_neg (by simp [hpending]), if_neg (by simp [hact]),
    exec_bind, exec_reply]
  generalize Except.isOk (o 0 (.reply Reply.infoWaitSwupdate)) = accepted
  obtain ⟨hres, hfin⟩ := startFinishDownloadCommand_finishes
    (s.replied Reply.infoWaitSwupdate accepted) o.rest
  dsimp only
  rw [exec_bind, hres]
  generalize exec startFinishDownloadCommand (s.replied Reply.infoWaitSwupdate accepted) o.rest = r
    at hfin ⊢
  obtain ⟨_, t, o'⟩ := r
  obtain ⟨hactive, htorn, hwaits, hrefused⟩ := hfin
  -- the `INFO` in front leaves the session alone
  cases hopen : s.download.isOpen with
  | true =>
      have h : (s.replied Reply.infoWaitSwupdate accepted).download.isOpen = true := hopen
      rw [if_neg (by simp [h])]
      exact ⟨hactive, htorn, hwaits, hrefused⟩
  | false =>
      have h : (s.replied Reply.infoWaitSwupdate accepted).download.isOpen = false := hopen
      rw [if_pos (by simp [h])]
      exact ⟨hactive, htorn, by simp [hopen], hrefused⟩

/-- A finishing command outside a data phase. -/
theorem handleRxChunk_finishes (s : FastbootUsbState) (o : Answers) {chunk : Bytes}
    (hact : s.downloadActive = false) (hcmd : Finishing s.fastbootPendingFlash chunk) :
    (exec (handleRxChunk chunk) s o).1 = true ∧
      Finishes s (exec (handleRxChunk chunk) s o).2.1 := by
  have hcommand : Finishes s (exec (handleCommandChunk chunk) s o).2.1 := by
    unfold handleCommandChunk
    rw [exec_update_bind]
    obtain ⟨consumed, hclose | ⟨hpending, hflash⟩⟩ := hcmd
    · rw [hclose]
      dsimp only
      rw [exec_bind]
      obtain ⟨-, hactive, htorn, hwaits, hrefused⟩ := startFinishDownloadCommand_finishes
        { s with parsed := s.parsed ++ [chunk] } o
      exact ⟨hactive, htorn, hwaits, hrefused⟩
    · rw [hflash]
      dsimp only
      rw [exec_bind]
      obtain ⟨hactive, htorn, hwaits, hrefused⟩ := finishFlashDownload_finishes
        { s with parsed := s.parsed ++ [chunk] } o hpending hact
      exact ⟨hactive, htorn, hwaits, hrefused⟩
  unfold handleRxChunk
  rw [exec_read_bind, if_pos (by simp [hact]), exec_bind]
  generalize exec (handleCommandChunk chunk) s o = r at hcommand ⊢
  obtain ⟨⟨handled, rest⟩, t, o'⟩ := r
  dsimp only at hcommand ⊢
  rw [exec_read_bind, if_neg (by simp [hcommand.active, hact])]
  exact ⟨rfl, hcommand⟩

/-! ## The verdict -/

/-- An iteration that waits for the verdict of a transfer that succeeds. -/
structure Concludes (j : Iteration) : Prop where
  select : j.select = .transfer
  submitted : j.top.All Query.Submitted
  joined : j.step 0 .join = .done (.ok ())

/-- With a finish pending an iteration is the transfer step: the verdict is left to it. -/
theorem iterate_finishing (s : FastbootUsbState) {j : Iteration} (hselect : j.select = .transfer)
    (hsubmitted : j.top.All Query.Submitted) (hfin : s.finishPending = true)
    (htorn : s.gadgetTornDown = false) :
    iterate s j =
      ((exec transferStep s.armed j.step).1, (exec transferStep s.armed j.step).2.1) := by
  have hidle : (exec checkVerdict s j.top).2.1 = s := by
    unfold checkVerdict
    rw [exec_read_bind, if_neg (by simp [hfin])]
    rfl
  rcases exec_prime s hsubmitted hidle with ⟨-, hprime, hstate⟩ | ⟨hclosed, -, -⟩
  · unfold iterate
    dsimp only
    rw [hprime, hselect]
    change (if (exec prime s j.top).2.1.ready = true then _ else _) = _
    rw [hstate, if_pos (by simp [FastbootUsbState.ready, FastbootUsbState.armed])]
  · exact absurd (hclosed.symm.trans htorn) (by simp)

theorem iterate_concludes (s : FastbootUsbState) {j : Iteration} (hj : Concludes j)
    (hfin : s.finishPending = true) (htorn : s.gadgetTornDown = false)
    (hunder : s.download.Underway) :
    lastReply (iterate s j).2.sent = some Reply.okay := by
  rw [iterate_finishing s hj.select hj.submitted hfin htorn]
  unfold transferStep
  rw [exec_read_bind, if_pos (by exact hfin), exec_bind]
  obtain ⟨hverdict, -⟩ := exec_finished s.armed j.step hunder hj.joined
  generalize exec (finished : Async _) s.armed j.step = res at hverdict ⊢
  obtain ⟨verdict, t, o⟩ := res
  obtain rfl : verdict = .ok () := hverdict
  exact lastReply_concat _ _ _

/-- The state in which the answer to the finishing command is known: at once if it was refused,
otherwise after the iteration that waits for the verdict. -/
def answeredBy (s : FastbootUsbState) (j : Iteration) : FastbootUsbState :=
  if s.finishPending then (iterate s j).2 else s

/-- The finish of a transfer that does not fail is answered by what is left of the session. -/
theorem finish_lastReply {s : FastbootUsbState} {f : Packet} {j : Iteration}
    (hfin : s.finishPending = false) (htorn : s.gadgetTornDown = false)
    (hact : s.downloadActive = false) (hcmd : Finishing s.fastbootPendingFlash f.chunk)
    (hunder : s.download.Underway) (hj : Concludes j) :
    lastReply (answeredBy (iterate s f.iteration).2 j).sent =
      some (if s.download.isOpen then Reply.okay else Reply.failClose) := by
  have hidle : { (exec checkVerdict s f.iteration.top).2.1 with reading := none } =
      { s with reading := none } := by
    rw [exec_checkVerdict_idle s _ (.inl hact)]
  rw [iterate_completion s f hidle hfin htorn]
  obtain ⟨-, hactive, htorn', hwaits, hrefused⟩ := handleRxChunk_finishes { s with reading := none }
    f.iteration.step.rest hact hcmd
  generalize exec (handleRxChunk f.chunk) { s with reading := none } f.iteration.step.rest = r
    at hactive htorn' hwaits hrefused ⊢
  obtain ⟨_, t, o'⟩ := r
  dsimp only at htorn' hwaits hrefused ⊢
  unfold answeredBy
  cases hopen : s.download.isOpen with
  | true =>
      obtain ⟨hpending, hd⟩ := hwaits hopen
      rw [if_pos hpending]
      refine iterate_concludes t hj hpending (htorn'.trans htorn) ?_
      rw [hd]
      exact hunder.eof
  | false =>
      -- refused at once: there is nothing left to wait for
      obtain ⟨hpending, hlast⟩ := hrefused hopen
      rw [if_neg (by rw [hpending, hfin]; simp)]
      exact hlast

end SummitUsbgadget.FastbootUsb
