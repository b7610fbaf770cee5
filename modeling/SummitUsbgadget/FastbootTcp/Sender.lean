import SummitUsbgadget.FastbootTcp.Stream

/-!
# A fastboot session over TCP between two commands

A block that is answered with `Feed::Closed` takes the sender of the session, but the pump then
waits for the verdict and takes the status handle as well. So between two commands a session that
counts as open has its sender (`sender_of_isOpen`), whatever the queue and the status task have
done.
-/

set_option autoImplicit false

namespace SummitUsbgadget.FastbootTcp

open SummitUsbgadget.Lib
open SummitUsbgadget.Lib.Program
open SummitUsbgadget.Swupdate
open SummitUsbgadget.Fastboot
open HasSession

/-- The status handle outlives neither the sender nor the verdict. -/
structure Paired (d : Session) : Prop where
  sender : d.tx = none → d.status = none
  verdict : d.terminal.isSome → d.status = none

theorem paired_of_status {d : Session} (h : d.status = none) : Paired d := ⟨fun _ => h, fun _ => h⟩

theorem Paired.sender_of_isOpen {d : Session} (h : Paired d) (hopen : d.isOpen = true) :
    d.tx.isSome := by
  by_contra hnone
  have htx : d.tx = none := by simpa using hnone
  simp [Session.isOpen, htx, h.sender htx] at hopen

/-- `open` keeps that; a session that it leaves with success counts as open. -/
theorem Paired.openSession {d : Session} (h : Paired d) (v : View) :
    Paired (d.openSession v).2 ∧ ((d.openSession v).1 = .ok () → (d.openSession v).2.isOpen) := by
  rcases Session.openSession_cases v d with ⟨hopen, heq⟩ | ⟨hclosed, -, heq⟩ | ⟨-, -, heq⟩
  · rw [heq]
    exact ⟨h, fun _ => hopen⟩
  · rw [heq]
    obtain ⟨-, hst⟩ := (Session.isOpen_eq_false_iff d).1 hclosed
    exact ⟨paired_of_status hst, fun hok => (by cases hok)⟩
  · rw [heq]
    refine ⟨⟨fun hnone => ?_, fun hsome => ?_⟩, fun _ => rfl⟩
    · cases hnone
    · cases hsome

theorem Paired.tryFinished {d : Session} (h : Paired d) (v : View) :
    Paired (d.tryFinished v).2 := by
  unfold Session.tryFinished
  exact Session.pollStatus_keeps h (fun _ => paired_of_status (Session.settle_facts _ _).2.1) v

/-- Whatever the verdict is, the status handle is gone after it was waited for. -/
theorem finished_status (s : TcpFastbootSession) (o : Answers)
    (h : s.sink.terminal.isSome → s.sink.status = none) :
    (exec (finished : Async _) s o).2.1.sink.status = none := by
  rcases cachedVerdict_cases s.sink with ⟨hc, -, -⟩ | ⟨result, hc, hgone⟩
  · rw [exec_finished_of_waiting s o hc]
    exact (Session.settle_facts _ _).2.1
  · rw [exec_finished_of_cached s o hc]
    rcases hgone with hterm | hst
    · exact h hterm
    · exact hst

/-! ## The pump -/

/-- The look at the verdict leaves the sender where it is. -/
theorem peekVerdict_paired (s : TcpFastbootSession) (o : Answers) (h : Paired s.sink)
    (htx : s.sink.tx.isSome) :
    Paired (exec (peekVerdict : Async _) s o).2.1.sink ∧
      (exec (peekVerdict : Async _) s o).2.1.sink.tx.isSome := by
  have hopen : (session s).isOpen = true := by
    change s.sink.isOpen = true
    simp [Session.isOpen, htx]
  obtain ⟨hkept, -, -⟩ := Session.pollStatus_facts (answered o 0 .look) s.sink
  rw [exec_peekVerdict s o hopen]
  refine ⟨h.tryFinished _, ?_⟩
  change (s.sink.pollStatus (answered o 0 .look)).2.tx.isSome
  rw [hkept]
  exact htx

/-- The pump leaves the sender, or neither handle. -/
theorem pumpToSwupdate_paired {n : Nat} {s : TcpFastbootSession} {o : Answers}
    (h : Paired s.sink) (htx : s.sink.tx.isSome) {e : PumpEnd}
    (hok : (exec (pumpToSwupdate readBlock n) s o).1 = .ok e) :
    Paired (exec (pumpToSwupdate readBlock n) s o).2.1.sink := by
  -- a block that finds the queue closed takes the sender; the wait for the verdict then takes the
  -- status handle, so the pair is out of step only in between
  have spec : PumpSpec readBlock (fun _ => True)
      (fun _ t => Paired t.sink ∧ t.sink.tx.isSome) (fun _ t => Paired t.sink ∧ t.sink.tx.isSome)
      (fun t => t.sink.terminal.isSome → t.sink.status = none) (fun _ t => Paired t.sink) :=
    { answers := fun _ _ _ => trivial
      exhausted := fun t ht => ht.1
      input := by
        intro k t o _ ht _
        have hsame : (exec readBlock t o).2.1.sink = t.sink := readBlock_sink.exec t o
        rw [hsame]
        exact ht.1
      block := by
        intro k t o data _ ht _
        have hsame : (exec readBlock t o).2.1.sink = t.sink := readBlock_sink.exec t o
        rw [hsame]
        exact ht
      seen := fun k t o _ _ ht _ => (peekVerdict_paired t o ht.1 ht.2).1
      unseen := fun k t o _ ht _ => peekVerdict_paired t o ht.1 ht.2
      fed := by
        intro k t o data feed _ ht hfeed hne
        obtain ⟨q, hq, hres, hst⟩ := exec_send_offer t o data ht.2
        obtain ⟨hstatus, hterm⟩ := Session.offer_frame q data t.sink
        rcases Session.offer_sender hq data ht.2 with ⟨-, hsender⟩ | hclosed
        · rw [hst]
          refine ⟨⟨fun hgone => ?_, fun hsome => ?_⟩, hsender⟩
          · rw [show (t.sink.offer q data).2.tx = none from hgone] at hsender
            cases hsender
          · change (t.sink.offer q data).2.status = none
            rw [hstatus]
            exact ht.1.verdict (hterm ▸ hsome)
        · rw [hres] at hfeed
          exact absurd ((Except.ok.inj hfeed).symm.trans hclosed) hne
      closed := by
        intro k t o data _ ht _ hsome
        obtain ⟨q, -, -, hst⟩ := exec_send_offer t o data ht.2
        obtain ⟨hstatus, hterm⟩ := Session.offer_frame q data t.sink
        rw [hst] at hsome ⊢
        change (t.sink.offer q data).2.status = none
        rw [hstatus]
        exact ht.1.verdict (hterm ▸ hsome)
      verdict := fun t o _ ht => paired_of_status (finished_status t o ht) }
  exact spec.exec trivial ⟨h, htx⟩ hok

/-! ## The commands -/

theorem streamLoop_paired {n : Nat} {s : TcpFastbootSession} {o : Answers} (h : Paired s.sink)
    (htx : s.sink.tx.isSome) (hok : (exec (streamLoop n true) s o).1 = .ok ()) :
    Paired (exec (streamLoop n true) s o).2.1.sink := by
  have spec : StreamSpec (fun _ => True)
      (fun _ forwarding t => Paired t.sink ∧ (forwarding = true → t.sink.tx.isSome))
      fun t => Paired t.sink :=
    { answers := fun _ _ _ => trivial
      ended := fun _ _ t ht _ => ht.1
      discarded := by
        intro k t o block _ ht _ _
        have hsame : (exec readBlock t o).2.1.sink = t.sink := readBlock_sink.exec t o
        rw [hsame]
        exact ⟨ht.1, by simp⟩
      input := fun k t o _ ht hin => pumpToSwupdate_paired ht.1 (ht.2 rfl) hin
      verdict := fun k t o _ ht hseen => ⟨pumpToSwupdate_paired ht.1 (ht.2 rfl) hseen, by simp⟩ }
  exact spec.exec trivial ⟨h, fun _ => htx⟩ hok

theorem streamDownload_paired {total : Nat} {s : TcpFastbootSession} {o : Answers}
    (h : Paired s.sink) (htx : s.sink.tx.isSome)
    (hok : (exec (streamDownload total) s o).1 = .ok ()) :
    Paired (exec (streamDownload total) s o).2.1.sink := by
  obtain ⟨t, hloop, ht, -, hsink⟩ := streamDownload_ok hok
  rw [hsink, ← ht]
  exact streamLoop_paired h htx hloop

/-- The reply to a command leaves the session alone. -/
theorem sendPacket_sink (data : Bytes) (s : TcpFastbootSession) (o : Answers) :
    (exec (sendPacket data) s o).2.1.sink = s.sink :=
  (keeps_sendPacket (fun _ _ => rfl) data).exec s o

theorem handleWopen_paired (s : TcpFastbootSession) (o : Answers) (h : Paired s.sink) :
    Paired (exec handleWopen s o).2.1.sink := by
  have hopened : Paired (exec (openSession : Async _) s o).2.1.sink :=
    (h.openSession (answered o 0 .look)).1
  unfold handleWopen
  rw [exec_bind]
  generalize exec (openSession : Async _) s o = r at hopened ⊢
  obtain ⟨res, s', o'⟩ := r
  cases res with
  | error err =>
      dsimp only
      rw [sendPacket_sink]
      exact hopened
  | ok u =>
      dsimp only
      rw [exec_update_bind, sendPacket_sink]
      exact hopened

/-- A session that was made ready for a download has its sender. -/
theorem ensureBegun_paired (s : TcpFastbootSession) (o : Answers) (h : Paired s.sink) :
    Paired (exec ensureBegun s o).2.1.sink ∧
      ((exec ensureBegun s o).1 = .ok () → (exec ensureBegun s o).2.1.sink.tx.isSome) := by
  unfold ensureBegun
  rw [exec_read_bind]
  by_cases hopen : s.sink.isOpen = true
  · rw [if_pos hopen]
    exact ⟨h, fun _ => h.sender_of_isOpen hopen⟩
  · rw [if_neg hopen, exec_openSession]
    obtain ⟨hpaired, hopened⟩ := h.openSession (answered o 0 .look)
    exact ⟨hpaired, fun hok => hpaired.sender_of_isOpen (hopened hok)⟩

theorem handleDownload_paired (len : Nat) (kind : DownloadKind) (s : TcpFastbootSession)
    (o : Answers) (h : Paired s.sink) (hok : (exec (handleDownload len kind) s o).1 = .ok ()) :
    Paired (exec (handleDownload len kind) s o).2.1.sink := by
  obtain ⟨hbegun, hsender⟩ := ensureBegun_paired s o h
  unfold handleDownload at hok ⊢
  rw [exec_bind] at hok ⊢
  generalize exec ensureBegun s o = r at hok hbegun hsender ⊢
  obtain ⟨res, s', o'⟩ := r
  cases res with
  | error err =>
      dsimp only
      rw [sendPacket_sink]
      exact hbegun
  | ok u =>
      have htx := hsender rfl
      have hsame := sendPacket_sink (dataHeader len) s' o'
      dsimp only at hok hbegun htx ⊢
      rw [exec_attempt] at hok ⊢
      generalize exec (sendPacket (dataHeader len)) s' o' = r at hok hsame ⊢
      obtain ⟨res, s'', o''⟩ := r
      dsimp only at hsame
      rw [← hsame] at hbegun htx
      cases res with
      | error err => cases hok
      | ok u =>
          dsimp only at hok ⊢
          rw [exec_update_bind] at hok ⊢
          by_cases hlen : len = 0
          · rw [if_pos hlen, sendPacket_sink]
            exact hbegun
          · rw [if_neg hlen] at hok ⊢
            exact streamDownload_paired hbegun htx hok

theorem finishDownload_paired (s : TcpFastbootSession) (o : Answers) (h : Paired s.sink) :
    Paired (exec finishDownload s o).2.1.sink := by
  unfold finishDownload
  rw [exec_read_bind]
  cases hopen : s.sink.isOpen with
  | false =>
      rw [if_pos Bool.not_false, exec_update_bind, sendPacket_sink]
      exact h
  | true =>
      rw [if_neg (by simp), exec_onSession_bind, exec_bind, exec_update_bind]
      have hnew : ∀ t : TcpFastbootSession, Paired t.resetAfterFinish.sink := fun t =>
        paired_of_status rfl
      generalize exec (finished : Async _) _ o = r
      obtain ⟨verdict, s', o'⟩ := r
      cases verdict with
      | ok u =>
          dsimp only
          rw [sendPacket_sink]
          exact hnew s'
      | error err =>
          dsimp only
          rw [sendPacket_sink]
          exact hnew s'

theorem handleFlash_paired (s : TcpFastbootSession) (o : Answers) (h : Paired s.sink) :
    Paired (exec handleFlash s o).2.1.sink := by
  unfold handleFlash
  rw [exec_read_bind]
  cases s.fastbootPendingFlash with
  | false =>
      rw [if_pos Bool.not_false, sendPacket_sink]
      exact h
  | true =>
      have hsame := sendPacket_sink Reply.infoWaitSwupdate s o
      rw [if_neg (by simp), exec_attempt]
      generalize exec (sendPacket Reply.infoWaitSwupdate) s o = r at hsame ⊢
      obtain ⟨res, s', o'⟩ := r
      dsimp only at hsame
      rw [← hsame] at h
      cases res with
      | error err => exact h
      | ok u => exact finishDownload_paired s' o' h

section Keeps

variable {γ : Type} {f : TcpFastbootSession → γ} (hf : ∀ s sent, f { s with sent := sent } = f s)

include hf

theorem keeps_handleGetvar (arg : Bytes) : Keeps f (handleGetvar arg) := by
  refine keeps_bind (keeps_ask Query.system) fun info => keeps_bind (keeps_read _) fun serial => ?_
  cases fastbootGetvarReply arg serial info with
  | some data => exact keeps_sendPacket hf _
  | none => exact keeps_sendPacket hf _

theorem keeps_handleFetch (target : FetchTarget) : Keeps f (handleFetch target) :=
  keeps_bind (keeps_ask Query.system) fun _ =>
    keeps_attempt (keeps_sendPacket hf _) fun _ =>
      keeps_attempt (keeps_sendPacket hf _) fun _ => keeps_sendPacket hf _

end Keeps

/-- A command that does not end the connection. -/
theorem dispatch_paired (cmd : Bytes) (s : TcpFastbootSession) (o : Answers) (h : Paired s.sink)
    (hok : (exec (dispatch cmd) s o).1 = .ok ()) : Paired (exec (dispatch cmd) s o).2.1.sink := by
  have hreply : ∀ data, Paired (exec (sendPacket data) s o).2.1.sink := by
    intro data
    rw [sendPacket_sink]
    exact h
  unfold dispatch at hok ⊢
  cases hcmd : parseCommand cmd with
  | none => exact hreply _
  | some found =>
      obtain ⟨command, consumed⟩ := found
      rw [hcmd] at hok
      cases command with
      | wOpen => exact handleWopen_paired s o h
      | getVar arg =>
          have hsame : (exec (handleGetvar arg) s o).2.1.sink = s.sink :=
            (keeps_handleGetvar (fun _ _ => rfl) arg).exec s o
          exact hsame.symm ▸ h
      | fetch target =>
          have hsame : (exec (handleFetch target) s o).2.1.sink = s.sink :=
            (keeps_handleFetch (fun _ _ => rfl) target).exec s o
          exact hsame.symm ▸ h
      | fetchUnknownPart => exact hreply _
      | download len kind => exact handleDownload_paired len kind s o h hok
      | flash => exact handleFlash_paired s o h
      | close => exact finishDownload_paired s o h
      | unsupported => exact hreply _

theorem keeps_recvCommand {γ : Type} {f : TcpFastbootSession → γ} : Keeps f recvCommand := by
  refine keeps_attempt keeps_readHeader fun len => ?_
  cases len with
  | none => exact keeps_pure _
  | some n =>
      refine keeps_ite (keeps_pure _) (keeps_attempt ?_ fun _ => keeps_pure _)
      exact keeps_attempt (keeps_fill n n []) fun _ => keeps_ite (keeps_pure _) (keeps_pure _)

/-- Any number of commands of a connection that goes on. -/
theorem commandLoop_paired (n : Nat) (s : TcpFastbootSession) (o : Answers) (h : Paired s.sink)
    (hok : (exec (commandLoop n) s o).1 = .ok ()) : Paired (exec (commandLoop n) s o).2.1.sink := by
  induction n generalizing s o with
  | zero => exact h
  | succ n ih =>
      have hsame : (exec recvCommand s o).2.1.sink = s.sink := keeps_recvCommand.exec s o
      unfold commandLoop at hok ⊢
      rw [exec_attempt] at hok ⊢
      generalize exec recvCommand s o = r at hok hsame ⊢
      obtain ⟨res, s', o'⟩ := r
      dsimp only at hsame
      rw [← hsame] at h
      rcases res with err | (- | cmd)
      · cases hok
      · exact h
      · have hdispatch := dispatch_paired cmd s' o' h
        dsimp only at hok ⊢
        rw [exec_attempt] at hok ⊢
        generalize exec (dispatch cmd) s' o' = r at hok hdispatch ⊢
        obtain ⟨res, s'', o''⟩ := r
        cases res with
        | error err => cases hok
        | ok u => exact ih s'' o'' (hdispatch rfl) hok

/-- Between two commands a session that counts as open has its sender. -/
theorem sender_of_isOpen (params : SwupdateParams) (serial : Bytes) (n : Nat) (o : Answers)
    (hok : (exec (commandLoop n) (TcpFastbootSession.new params serial) o).1 = .ok ())
    (hopen : (exec (commandLoop n) (TcpFastbootSession.new params serial) o).2.1.sink.isOpen) :
    (exec (commandLoop n) (TcpFastbootSession.new params serial) o).2.1.sink.tx.isSome :=
  (commandLoop_paired n _ o (paired_of_status rfl) hok).sender_of_isOpen hopen

end SummitUsbgadget.FastbootTcp
