import SummitUsbgadget.Swupdate.Feed
import SummitUsbgadget.FastbootUsb.Serve

/-!
# What the coroutines of fastboot-usb do

One lemma for each coroutine that is used by others: the state it leaves, whatever it is answered.
The results about whole completions and about the connected loop use these.
-/

set_option autoImplicit false

namespace SummitUsbgadget.FastbootUsb

open SummitUsbgadget.Lib
open SummitUsbgadget.Lib.Program
open SummitUsbgadget.Swupdate
open SummitUsbgadget.Fastboot

variable (s : FastbootUsbState) (o : Answers)

@[simp] theorem exec_query_bind {β : Type} (q : Query) (g : q.Answer → Async β) :
    exec (ask q >>= g) s o = exec (g (o 0 q)) s o.rest := rfl

@[simp] theorem session_eq : HasSession.session s = s.download := rfl

@[simp] theorem setSession_eq (d : Session) :
    HasSession.setSession d s = { s with download := d } := rfl

@[simp] theorem answered_look (n : Nat) : answered o n .look = o n .look := rfl

@[simp] theorem answered_slot (n : Nat) : answered o n .slot = o n .slot := rfl

/-! ## Replies and resets -/

/-- The state after a reply was handed to the endpoint. -/
def FastbootUsbState.replied (data : Bytes) (accepted : Bool) (s : FastbootUsbState) :
    FastbootUsbState :=
  { s with sent := s.sent ++ [⟨data, accepted⟩] }

theorem exec_sendStatic (data : Bytes) :
    exec (sendStatic data) s o =
      (o 0 (.reply data), s.replied data (Except.isOk (o 0 (.reply data))), o.rest) := rfl

theorem exec_reply (data : Bytes) :
    exec (reply data) s o =
      ((), s.replied data (Except.isOk (o 0 (.reply data))), o.rest) := rfl

theorem exec_failDownload (failReply : Bytes) :
    (exec (failDownload failReply) s o).2.1 =
      { s with download := s.download.abort, pendingFailReply := some failReply } := by
  unfold failDownload
  rw [exec_bind, exec_abort]
  rfl

theorem exec_reset_none :
    (exec (reset none) s o).2.1 =
      { s with reading := none, download := s.download.abort }.fresh := by
  unfold reset resetState
  rw [exec_update_bind, exec_bind, exec_abort]
  rfl

/-! ## Feeding -/

/-- What `feedBlock` does with the session: `try_send`, and `send` after `Feed::Full`. -/
def pushBlock (v w : View) (accepted : Bool) (item : Bytes) (d : Session) :
    Except IoError Unit × Session :=
  match d.trySend v item with
  | (.error err, d) => (.error err, d)
  | (.ok (.full item), d) =>
      match d.send w accepted item with
      | (.error err, d) => (.error err, d)
      | (.ok _, d) => (.ok (), d)
  | (.ok _, d) => (.ok (), d)

theorem exec_feedBlock (chunk : Bytes) :
    (exec (feedBlock chunk) s o).1 =
        (pushBlock (o 0 .look) (o 1 .look) (o 2 .slot) chunk s.download).1 ∧
      (exec (feedBlock chunk) s o).2.1 =
        { s with
          download := (pushBlock (o 0 .look) (o 1 .look) (o 2 .slot) chunk s.download).2 } := by
  unfold feedBlock pushBlock
  rw [exec_bind, exec_trySend]
  simp only [session_eq, setSession_eq, answered_look]
  generalize s.download.trySend (o 0 .look) chunk = r
  obtain ⟨res, d⟩ := r
  cases res with
  | error err => exact ⟨rfl, rfl⟩
  | ok feed =>
      cases feed with
      | ok n => exact ⟨rfl, rfl⟩
      | closed => exact ⟨rfl, rfl⟩
      | full item =>
          -- the second look and the awaited slot are the answers after the first look
          obtain ⟨hres, hst⟩ := exec_send { s with download := d } o.rest item
          simp only [session_eq, setSession_eq, answered_look, answered_slot] at hres hst
          simp only [exec_bind]
          rw [hst, hres]
          change _ = (match d.send (o 1 .look) (o 2 .slot) item with
            | (.error err, d) => ((.error err : Except IoError Unit), d)
            | (.ok _, d) => (.ok (), d)).1 ∧ _
          generalize hsend : d.send (o 1 .look) (o 2 .slot) item = r'
          have hsend' : d.send (o.rest 0 .look) (o.rest 1 .slot) item = r' := hsend
          simp only [hsend']
          obtain ⟨res', d'⟩ := r'
          cases res' with
          | error err => exact ⟨rfl, rfl⟩
          | ok feed => exact ⟨rfl, rfl⟩

/-- A block is rejected only if a vacant session must not open; otherwise it is offered to a queue
that has room or is closed. -/
theorem pushBlock_cases (v w : View) (accepted : Bool) (item : Bytes) (d : Session) :
    (d.Vacant ∧ v.restartPending = true ∧
        pushBlock v w accepted item d = (.error restartPendingError, d)) ∨
      ∃ q, q ≠ QueueView.full ∧
        pushBlock v w accepted item d = (.ok (), ((d.engaged v).offer q item).2) := by
  unfold pushBlock
  rcases Session.trySend_eq_offer v item d with ⟨hvac, hr, heq⟩ | heq
  · rw [heq]
    exact Or.inl ⟨hvac, hr, rfl⟩
  · right
    rw [heq]
    rcases Session.offer_cases v.queue item (d.engaged v) with
      ⟨htx, ho⟩ | ⟨k, -, hq, ho⟩ | ⟨k, htx, -, ho⟩ | ⟨k, -, hq, ho⟩
    · exact ⟨.room, by decide, by simp [Session.offer, htx]⟩
    · exact ⟨v.queue, by simp [hq], by rw [ho]⟩
    · -- the queue was full: the session has a sender, so the second call finds it open
      have hopen : (d.engaged v).ensureOpen w = (.ok (), d.engaged v) := by
        simp [Session.ensureOpen, htx]
      refine ⟨if accepted then .room else .closed, by cases accepted <;> decide, ?_⟩
      rw [ho]
      simp [Session.send, hopen]
    · exact ⟨v.queue, by simp [hq], by rw [ho]⟩

/-! ## A chunk of a data phase -/

theorem downloadActive_iff : s.downloadActive = true ↔ s.downloadedSize < s.downloadSize := by
  simp [FastbootUsbState.downloadActive]

theorem downloadActive_eq_false_iff :
    s.downloadActive = false ↔ s.downloadSize ≤ s.downloadedSize := by
  simp [FastbootUsbState.downloadActive]

/-- The session of a data phase, and the reply that is due at its end once SWUpdate has failed. -/
structure Phase where
  download : Session
  failed : Option Bytes

namespace Phase

/-- The look at the verdict before a completion. -/
def watch (v : View) (ph : Phase) : Phase :=
  if ph.failed.isNone && ph.download.isOpen then
    match ph.download.tryFinished v with
    | (some (.error _), d) => ⟨d.abort, some Reply.failEpipe⟩
    | (_, d) => ⟨d, none⟩
  else ph

/-- A chunk goes to the session until SWUpdate has failed. -/
def push (v w : View) (accepted : Bool) (chunk : Bytes) (ph : Phase) : Phase :=
  match ph.failed with
  | some _ => ph
  | none =>
      if chunk = [] then ph
      else
        match pushBlock v w accepted chunk ph.download with
        | (.ok (), d) => ⟨d, none⟩
        | (.error err, d) => ⟨d.abort, some (writeFailReply err)⟩

end Phase

namespace FastbootUsbState

def phase (s : FastbootUsbState) : Phase := ⟨s.download, s.pendingFailReply⟩

/-- The data phase is at `ph`, and `n` more bytes have been consumed. -/
def advance (ph : Phase) (n : Nat) (s : FastbootUsbState) : FastbootUsbState :=
  { s with
    download := ph.download
    pendingFailReply := ph.failed
    downloadedSize := s.downloadedSize + n }

/-- The end of a data phase: its reply, and a fresh session after a failure. -/
def conclude (accepted : Bool) (s : FastbootUsbState) : FastbootUsbState :=
  match s.pendingFailReply with
  | none => s.replied Reply.okay accepted
  | some failReply => (s.replied failReply accepted).fresh

end FastbootUsbState

theorem exec_drainChunk (failReply : Bytes) (n : Nat) (h : s.pendingFailReply = some failReply) :
    ∃ accepted, (exec (drainChunk failReply n) s o).2.1 =
      if (s.advance s.phase n).downloadActive then s.advance s.phase n
      else (s.advance s.phase n).conclude accepted := by
  have hs : s.advance s.phase n = { s with downloadedSize := s.downloadedSize + n } := rfl
  rw [hs]
  unfold drainChunk
  simp only [exec_update_bind, exec_read_bind, exec_ite]
  split
  · exact ⟨true, rfl⟩
  · refine ⟨Except.isOk (o 0 (.reply failReply)), ?_⟩
    rw [exec_bind, exec_reply]
    simp only [FastbootUsbState.conclude, h]
    rfl

/-- The chunk is counted and goes to the session, or is discarded; the last one is answered. -/
theorem exec_handleDownloadChunk {chunk : Bytes} (hne : chunk ≠ []) {ph : Phase}
    (hph : s.phase.push (o 0 .look) (o 1 .look) (o 2 .slot) chunk = ph) :
    ∃ accepted, (exec (handleDownloadChunk chunk) s o).1 = true ∧
      (exec (handleDownloadChunk chunk) s o).2.1 =
        if (s.advance ph chunk.length).downloadActive then s.advance ph chunk.length
        else (s.advance ph chunk.length).conclude accepted := by
  unfold handleDownloadChunk
  rw [if_neg hne, exec_read_bind]
  cases hfail : s.pendingFailReply with
  | some failReply =>
      -- SWUpdate has failed before: the chunk is only counted
      have hs : s.phase = ph := by
        rw [← hph]
        simp [Phase.push, FastbootUsbState.phase, hfail]
      obtain ⟨accepted, hst⟩ := exec_drainChunk s o failReply chunk.length hfail
      refine ⟨accepted, ?_⟩
      rw [← hs, exec_bind, hst]
      exact ⟨rfl, rfl⟩
  | none =>
      obtain ⟨hres, hst⟩ := exec_feedBlock s o chunk
      dsimp only
      rw [exec_bind, exec_update_bind, hst, hres]
      generalize (exec (feedBlock chunk) s o).2.2 = o'
      generalize hpush : pushBlock (o 0 .look) (o 1 .look) (o 2 .slot) chunk s.download = r
      obtain ⟨res, d⟩ := r
      cases res with
      | ok u =>
          have hs : ph = ⟨d, none⟩ := by
            rw [← hph]
            simp [Phase.push, FastbootUsbState.phase, hfail, hne, hpush]
          have ht : s.advance ph chunk.length =
              { s with download := d, downloadedSize := s.downloadedSize + chunk.length } := by
            simp [hs, FastbootUsbState.advance, hfail]
          rw [ht]
          simp only [exec_read_bind, exec_ite]
          split
          · exact ⟨true, rfl, rfl⟩
          · refine ⟨Except.isOk (o' 0 (.reply Reply.okay)), ?_⟩
            rw [exec_bind, exec_reply]
            simp [FastbootUsbState.conclude, hfail]
      | error err =>
          have hs : ph = ⟨d.abort, some (writeFailReply err)⟩ := by
            rw [← hph]
            simp [Phase.push, FastbootUsbState.phase, hfail, hne, hpush]
          have ht : s.advance ph chunk.length =
              { s with
                download := d.abort
                pendingFailReply := some (writeFailReply err)
                downloadedSize := s.downloadedSize + chunk.length } := by
            simp [hs, FastbootUsbState.advance]
          rw [ht]
          dsimp only
          rw [exec_bind, exec_failDownload]
          generalize (exec (failDownload (writeFailReply err)) _ o').2.2 = o''
          simp only [exec_read_bind, exec_ite]
          split
          · exact ⟨true, rfl, rfl⟩
          · refine ⟨Except.isOk (o'' 0 (.reply (writeFailReply err))), ?_⟩
            rw [exec_bind, exec_reply]
            simp [FastbootUsbState.conclude, resetState]

/-! ## One iteration with a completion -/

/-- Outside the data phases, and while a verdict is awaited, there is no look at it. -/
theorem exec_checkVerdict_idle (h : s.downloadActive = false ∨ s.finishPending = true) :
    exec checkVerdict s o = ((), s, o) := by
  have hunwatched : ¬ (!s.finishPending && s.downloadActive && s.pendingFailReply.isNone &&
      s.download.isOpen) = true := by
    rcases h with h | h
    · simp [h]
    · simp [h]
  unfold checkVerdict
  rw [exec_read_bind, if_neg hunwatched]
  rfl

/-- During a data phase the look at the verdict moves the phase. -/
theorem exec_checkVerdict_active (hfin : s.finishPending = false) (h : s.downloadActive = true) :
    (exec checkVerdict s o).2.1 = s.advance (s.phase.watch (o 0 .look)) 0 := by
  unfold checkVerdict Phase.watch
  rw [exec_read_bind]
  by_cases hw : s.pendingFailReply.isNone && s.download.isOpen
  · -- both conditions on the loop's part hold in a data phase, so the session decides
    have hnone : s.pendingFailReply = none := by
      simp only [Bool.and_eq_true, Option.isNone_iff_eq_none] at hw
      exact hw.1
    rw [if_pos (by simpa [hfin, h] using hw), if_pos (by exact hw), exec_bind]
    rw [exec_tryFinished]
    simp only [FastbootUsbState.phase, session_eq, setSession_eq, answered_look]
    generalize s.download.tryFinished (o 0 .look) = r
    obtain ⟨verdict, d⟩ := r
    have hs : { s with download := d } = s.advance ⟨d, none⟩ 0 := by
      rw [← hnone]
      rfl
    rcases verdict with - | (err | u)
    · exact hs
    · exact exec_failDownload _ _ _
    · exact hs
  · rw [if_neg (by simpa [hfin, h] using hw), if_neg (by exact hw)]
    rfl

/-- The endpoint takes every read that is submitted. -/
def Query.Submitted : (q : Query) → q.Answer → Prop
  | .submit _, result => result = .ok ()
  | _, _ => True

/-- A read is in flight: the one that was, or one that was submitted. -/
def FastbootUsbState.armed (s : FastbootUsbState) : FastbootUsbState :=
  { s with reading := some (s.reading.getD (min s.recvCapacity recvBufferSize)) }

/-- Taking a buffer leaves the state alone. -/
theorem exec_recvBuffer :
    (exec recvBuffer s o).1 =
        (if s.recvCapacity ≥ recvBufferSize then o 0 .buffer else s.recvCapacity) ∧
      (exec recvBuffer s o).2.1 = s := by
  unfold recvBuffer
  rw [exec_read_bind, exec_ite]
  split
  · exact ⟨rfl, rfl⟩
  · exact ⟨rfl, rfl⟩

theorem exec_submitRecv {o : Answers} (h : o.All Query.Submitted) :
    (exec submitRecv s o).2.1 = s.armed := by
  unfold submitRecv FastbootUsbState.armed
  rw [exec_read_bind]
  cases hr : s.reading with
  | some capacity =>
      rw [if_pos (by simp), Option.getD_some, ← hr]
      rfl
  | none =>
      obtain ⟨-, hst⟩ := exec_recvBuffer s o
      have hall := all_exec s recvBuffer h
      rw [if_neg (by simp), exec_bind]
      generalize exec recvBuffer s o = r at hst hall ⊢
      obtain ⟨capacity, t, o'⟩ := r
      obtain rfl : t = s := hst
      rw [exec_query_bind, hall 0 (.submit _)]
      rfl

/-- The part before the select: the look at the verdict, and a read in flight. -/
theorem exec_prime {o : Answers} (h : o.All Query.Submitted) {t : FastbootUsbState}
    (ht : (exec checkVerdict s o).2.1 = t) :
    (t.gadgetTornDown = false ∧ (exec prime s o).1 = true ∧ (exec prime s o).2.1 = t.armed) ∨
      (t.gadgetTornDown = true ∧ (exec prime s o).1 = false ∧
        (exec prime s o).2.1 = { t with reading := none, download := t.download.abort }.fresh) := by
  have hsub := exec_submitRecv t (all_exec s checkVerdict h)
  unfold prime
  rw [exec_bind, exec_bind, ht, hsub, exec_read_bind]
  by_cases htorn : t.gadgetTornDown = true
  · rw [if_pos (by exact htorn), exec_bind, exec_reset_none]
    exact Or.inr ⟨htorn, rfl, rfl⟩
  · rw [if_neg (by exact htorn)]
    exact Or.inl ⟨Bool.eq_false_iff.2 htorn, rfl, rfl⟩

/-- The step receives `chunk`. -/
def Delivers (chunk : Bytes) (o : Answers) : Prop :=
  o 0 .fetch = .ok chunk ∧ o 0 .fetchTimeout = .completed (.ok chunk)

theorem exec_transferStep {chunk : Bytes} {o : Answers} (h : Delivers chunk o)
    (hfin : s.finishPending = false) (hread : s.reading.isSome) :
    exec transferStep s o = exec (handleRxChunk chunk) { s with reading := none } o.rest := by
  unfold transferStep fetchCompletion
  rw [exec_read_bind, if_neg (by simp [hfin]), exec_bind, exec_read_bind, exec_read_bind,
    if_neg (by simpa [Option.isSome_iff_ne_none] using hread)]
  by_cases hact : s.downloadActive = true
  · rw [if_pos hact, exec_query_bind, h.2]
    rfl
  · rw [if_neg hact, exec_query_bind, h.1]
    rfl

end SummitUsbgadget.FastbootUsb
