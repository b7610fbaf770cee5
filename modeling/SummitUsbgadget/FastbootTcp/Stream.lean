import SummitUsbgadget.Swupdate.Verdict
import SummitUsbgadget.FastbootTcp.Session

/-!
# The data phase of fastboot over TCP

`stream_download` acknowledges exactly the payload that was announced (`streamDownload_remaining`).
While SWUpdate does not fail it leaves the session with its sender, or without both handles: a
block that is answered with `Feed::Closed` makes the pump wait for the verdict as well
(`exec_streamDownload`). The finish that follows is answered by what is left of the session
(`dispatch_lastReply`).
-/

set_option autoImplicit false

namespace SummitUsbgadget.FastbootTcp

open SummitUsbgadget.Lib
open SummitUsbgadget.Lib.Program
open SummitUsbgadget.Swupdate
open SummitUsbgadget.Fastboot

/-- SWUpdate does not fail, and the peer takes every packet. -/
def Query.Favourable : (q : Query) → q.Answer → Prop
  | .session .look, v => ¬ v.reportsFailure
  | .session .join, joined => joined = .done (.ok ())
  | .write _, result => result = .ok ()
  | _, _ => True

/-! ## Reading leaves the session alone -/

section Keeps

variable {γ : Type} {f : TcpFastbootSession → γ}

theorem keeps_readInto (want : Nat) : Keeps f (readInto want) :=
  keeps_bind (keeps_ask (Query.read want)) fun _ => keeps_pure _

theorem keeps_fill (want n : Nat) (buf : Bytes) : Keeps f (fill want n buf) := by
  induction n generalizing buf with
  | zero => exact keeps_pure _
  | succ n ih =>
      refine keeps_ite (keeps_pure _) (keeps_attempt (keeps_readInto _) fun data => ?_)
      exact keeps_ite (keeps_pure _) (ih _)

theorem keeps_readHeader : Keeps f readHeader :=
  keeps_attempt (keeps_fill 8 8 []) fun _ =>
    keeps_ite (keeps_pure _) (keeps_ite (keeps_pure _) (keeps_pure _))

theorem keeps_nextFrame (hf : ∀ s n, f { s with frameRemaining := n } = f s) :
    Keeps f nextFrame := by
  refine keeps_bind (keeps_read _) fun _ =>
    keeps_ite (keeps_attempt keeps_readHeader fun len => ?_) (keeps_pure _)
  cases len with
  | none => exact keeps_pure _
  | some n => exact keeps_bind (keeps_update fun s => hf s n) fun _ => keeps_pure _

/-- The data source changes its counters only. -/
theorem keeps_readBlock (hf : ∀ s m n, f { s with remaining := m, frameRemaining := n } = f s) :
    Keeps f readBlock := by
  refine keeps_bind (keeps_read _) fun _ => keeps_ite (keeps_pure _) ?_
  refine keeps_attempt (keeps_nextFrame fun s n => hf s s.remaining n) fun _ =>
    keeps_bind (keeps_read _) fun _ => ?_
  refine keeps_attempt (keeps_readInto _) fun _ => ?_
  exact keeps_ite (keeps_pure _) (keeps_bind (keeps_update fun s => hf s _ _) fun _ => keeps_pure _)

end Keeps

/-- The data source leaves the session alone. -/
theorem readBlock_sink : Keeps TcpFastbootSession.sink readBlock := keeps_readBlock fun _ _ _ => rfl

/-! ## The payload is read to its end -/

/-- A block takes its bytes off what remains. -/
theorem readBlock_consumes (s : TcpFastbootSession) (o : Answers) :
    Consumes TcpFastbootSession.remaining s (exec readBlock s o).2.1 (exec readBlock s o).1 := by
  unfold readBlock
  rw [exec_read_bind]
  by_cases hzero : s.remaining = 0
  · rw [if_pos hzero]
    exact hzero
  · rw [if_neg hzero, exec_attempt]
    have hframe : (exec nextFrame s o).2.1.remaining = s.remaining :=
      (keeps_nextFrame fun _ _ => rfl).exec s o
    generalize exec nextFrame s o = r at hframe ⊢
    obtain ⟨res, s', o'⟩ := r
    cases res with
    | error err => trivial
    | ok u =>
        dsimp only at hframe ⊢
        rw [exec_read_bind, exec_attempt]
        have hread : (exec (readInto (min (min s'.frameRemaining s'.remaining) recvBufferSize)) s'
            o').2.1.remaining = s'.remaining := (keeps_readInto _).exec s' o'
        -- neither the header nor the read itself touches the counter
        generalize exec (readInto (min
          (min s'.frameRemaining s'.remaining) recvBufferSize)) s' o' = r
          at hread ⊢
        obtain ⟨got, s'', o''⟩ := r
        cases got with
        | error err => trivial
        | ok data =>
            dsimp only at hread ⊢
            by_cases hdata : data = []
            · rw [if_pos hdata]
              trivial
            · rw [if_neg hdata, exec_update_bind]
              have hlen := List.length_pos_iff.2 hdata
              change s''.remaining - data.length < s.remaining
              omega

/-- What has to be shown of the parts of `stream_download`'s loop for a result about the whole:
`I n forwarding` holds before a turn with `n` turns to go, and `E` at a good end. Of the answers `O`
is assumed. -/
structure StreamSpec (O : Answers → Prop) (I : Nat → Bool → TcpFastbootSession → Prop)
    (E : TcpFastbootSession → Prop) : Prop where
  answers : ∀ o k, O o → O fun n => o (n + k)
  ended : ∀ n forwarding s, I n forwarding s → n = 0 ∨ s.remaining = 0 → E s
  discarded : ∀ n s o block, O o → I (n + 1) false s → s.remaining ≠ 0 →
    (exec readBlock s o).1 = .ok block → I n false (exec readBlock s o).2.1
  input : ∀ n s o, O o → I (n + 1) true s →
    (exec (pumpToSwupdate readBlock (s.remaining + 1)) s o).1 = .ok .inputClosed →
    E (exec (pumpToSwupdate readBlock (s.remaining + 1)) s o).2.1
  verdict : ∀ n s o, O o → I (n + 1) true s →
    (exec (pumpToSwupdate readBlock (s.remaining + 1)) s o).1 =
      .ok (.swupdateFinished (.ok ())) →
    I n false (exec (pumpToSwupdate readBlock (s.remaining + 1)) s o).2.1

/-- The rule for the loop, by induction on its turns. -/
theorem StreamSpec.exec {O : Answers → Prop} {I : Nat → Bool → TcpFastbootSession → Prop}
    {E : TcpFastbootSession → Prop} (spec : StreamSpec O I E) {n : Nat} {forwarding : Bool}
    {s : TcpFastbootSession} {o : Answers} (ho : O o) (h : I n forwarding s)
    (hok : (Program.exec (streamLoop n forwarding) s o).1 = .ok ()) :
    E (Program.exec (streamLoop n forwarding) s o).2.1 := by
  induction n generalizing forwarding s o with
  | zero => exact spec.ended 0 forwarding s h (Or.inl rfl)
  | succ n ih =>
      unfold streamLoop at hok ⊢
      rw [exec_read_bind] at hok ⊢
      by_cases hzero : s.remaining = 0
      · rw [if_pos hzero]
        exact spec.ended _ forwarding s h (Or.inr hzero)
      · rw [if_neg hzero] at hok ⊢
        cases forwarding with
        | false =>
            -- the verdict is in: the rest of the payload is read and thrown away
            have hnext := fun block => spec.discarded n s o block ho h hzero
            have ho' := answers_exec s spec.answers readBlock ho
            rw [if_pos Bool.not_false, exec_attempt] at hok ⊢
            generalize Program.exec readBlock s o = r at hok hnext ho' ⊢
            obtain ⟨res, s', o'⟩ := r
            cases res with
            | error err => cases hok
            | ok block => exact ih ho' (hnext block rfl) hok
        | true =>
            have hinput := spec.input n s o ho h
            have hverdict := spec.verdict n s o ho h
            have ho' := answers_exec s spec.answers (pumpToSwupdate readBlock (s.remaining + 1)) ho
            rw [if_neg (by simp), exec_attempt] at hok ⊢
            generalize Program.exec (pumpToSwupdate readBlock (s.remaining + 1)) s o = r
              at hok hinput hverdict ho' ⊢
            obtain ⟨res, s', o'⟩ := r
            rcases res with err | (- | (err | u))
            · cases hok
            · exact hinput rfl
            · -- a failed update ends the connection
              dsimp only at hok
              rw [exec_bind, exec_bind] at hok
              cases hok
            · exact ih ho' (hverdict rfl) hok

/-- What the loop leaves after it ended well: no byte is missing. -/
theorem streamLoop_remaining {n : Nat} {s : TcpFastbootSession} {o : Answers}
    (hn : s.remaining < n) (hok : (exec (streamLoop n true) s o).1 = .ok ()) :
    (exec (streamLoop n true) s o).2.1.remaining = 0 := by
  have hpump : ∀ (t : TcpFastbootSession) (o : Answers) e,
      (exec (pumpToSwupdate readBlock (t.remaining + 1)) t o).1 = .ok e →
      Pumps TcpFastbootSession.remaining t.remaining e
        (exec (pumpToSwupdate readBlock (t.remaining + 1)) t o).2.1 := by
    intro t o e hok
    exact pumpToSwupdate_pumps (fun _ _ => rfl) readBlock_consumes (Nat.lt_succ_self _) hok
  -- before every turn there are more turns than bytes
  have spec : StreamSpec (fun _ => True) (fun k _ t => t.remaining < k) fun t => t.remaining = 0 :=
    { answers := fun _ _ _ => trivial
      ended := by
        intro k forwarding t ht hend
        omega
      discarded := by
        intro k t o block _ ht hzero hblock
        have hc := readBlock_consumes t o
        rw [hblock] at hc
        cases block with
        | none =>
            have hend : (exec readBlock t o).2.1.remaining = 0 := hc
            omega
        | some data =>
            have hless : (exec readBlock t o).2.1.remaining < t.remaining := hc
            omega
      input := fun k t o _ _ hin => hpump t o _ hin
      verdict := by
        intro k t o _ ht hseen
        have hless : (exec (pumpToSwupdate readBlock (t.remaining + 1)) t o).2.1.remaining <
            t.remaining := hpump t o _ hseen
        omega }
  exact spec.exec trivial hn hok

theorem keeps_sendPacket {γ : Type} {f : TcpFastbootSession → γ}
    (hf : ∀ s sent, f { s with sent := sent } = f s) (data : Bytes) : Keeps f (sendPacket data) :=
  keeps_bind (keeps_ask (Query.write _)) fun _ =>
    keeps_bind (keeps_update fun s => hf s _) fun _ => keeps_pure _

/-- A data phase that was acknowledged: the loop has ended well, and only the reply came after. -/
theorem streamDownload_ok {total : Nat} {s : TcpFastbootSession} {o : Answers}
    (hok : (exec (streamDownload total) s o).1 = .ok ()) :
    ∃ t, (exec (streamLoop (total + 1) true)
        { s with remaining := total, frameRemaining := 0 } o).1 = .ok () ∧
      (exec (streamLoop (total + 1) true)
        { s with remaining := total, frameRemaining := 0 } o).2.1 = t ∧
      (exec (streamDownload total) s o).2.1.remaining = t.remaining ∧
      (exec (streamDownload total) s o).2.1.sink = t.sink := by
  unfold streamDownload at hok ⊢
  rw [exec_update_bind, exec_attempt] at hok ⊢
  generalize exec (streamLoop (total + 1) true) _ o = r at hok ⊢
  obtain ⟨res, s', o'⟩ := r
  cases res with
  | error err => cases hok
  | ok u => exact ⟨s', rfl, rfl, rfl, rfl⟩

/-- A data phase that was acknowledged has been read to its end. -/
theorem streamDownload_remaining (total : Nat) (s : TcpFastbootSession) (o : Answers)
    (hok : (exec (streamDownload total) s o).1 = .ok ()) :
    (exec (streamDownload total) s o).2.1.remaining = 0 := by
  obtain ⟨t, hloop, ht, hremaining, -⟩ := streamDownload_ok hok
  rw [hremaining, ← ht]
  exact streamLoop_remaining (Nat.lt_succ_self _) hloop

/-! ## The session after the data phase -/

/-- The session has come from `d` without a failure; if its sender is gone, so is its status
handle. -/
def Drained (d d' : Session) : Prop := Session.Traced d d' ∧ (d'.tx = none → d'.status = none)

theorem drained_of_sender {d d' : Session} (h : Session.Traced d d') (htx : d'.tx.isSome) :
    Drained d d' := by
  refine ⟨h, fun hnone => ?_⟩
  rw [hnone] at htx
  cases htx

/-- Such a session counts as open exactly if no block was answered with `Feed::Closed`. -/
theorem Drained.isOpen_iff {d d' : Session} (h : Drained d d') :
    d'.isOpen = true ↔ ¬ Session.closedSince d d' := by
  rw [← h.1.closed, ← not_iff_not, Bool.not_eq_true, Session.isOpen_eq_false_iff, not_not]
  exact ⟨fun hgone => hgone.1, fun hnone => ⟨hnone, h.2 hnone⟩⟩

theorem Query.succeeds_of_favourable {o : Answers} (h : o.All Query.Favourable) : Succeeds o :=
  fun n => ⟨h n (.session .look), h n (.session .join)⟩

theorem exec_streamLoop {d : Session} {n : Nat} {s : TcpFastbootSession} {o : Answers}
    (ho : Succeeds o) (h : Drained d s.sink) (htx : s.sink.tx.isSome)
    (hok : (exec (streamLoop n true) s o).1 = .ok ()) :
    Drained d (exec (streamLoop n true) s o).2.1.sink := by
  -- the sender is needed only as long as blocks are forwarded
  have spec : StreamSpec Succeeds
      (fun _ forwarding t => Drained d t.sink ∧ (forwarding = true → t.sink.tx.isSome))
      fun t => Drained d t.sink :=
    { answers := fun o k ho n => ho (n + k)
      ended := fun _ _ t ht _ => ht.1
      discarded := by
        intro k t o block _ ht _ _
        have hsame : (exec readBlock t o).2.1.sink = t.sink := readBlock_sink.exec t o
        rw [hsame]
        exact ⟨ht.1, by simp⟩
      input := by
        intro k t o ho ht hin
        obtain ⟨htraced, hsender⟩ := exec_pumpToSwupdate readBlock_sink ho ht.1.1 (ht.2 rfl) hin
        exact drained_of_sender htraced hsender
      verdict := by
        intro k t o ho ht hseen
        have hend := exec_pumpToSwupdate readBlock_sink ho ht.1.1 (ht.2 rfl) hseen
        exact ⟨hend, by simp⟩ }
  exact spec.exec ho ⟨h, fun _ => htx⟩ hok

/-- A data phase that was acknowledged, on a session with its sender. -/
theorem exec_streamDownload (total : Nat) (s : TcpFastbootSession) {o : Answers}
    (ho : o.All Query.Favourable) (h : s.sink.Underway) (htx : s.sink.tx.isSome)
    (hok : (exec (streamDownload total) s o).1 = .ok ()) :
    Drained s.sink (exec (streamDownload total) s o).2.1.sink := by
  obtain ⟨t, hloop, ht, -, hsink⟩ := streamDownload_ok hok
  rw [hsink, ← ht]
  exact exec_streamLoop (Query.succeeds_of_favourable ho)
    (drained_of_sender (Session.traced_refl h) htx) htx hloop

/-! ## The finish -/

theorem sendPacket_lastReply (data : Bytes) (s : TcpFastbootSession) (o : Answers) :
    lastReply (exec (sendPacket data) s o).2.1.sent = some data :=
  lastReply_concat _ _ _

/-- The finish of a transfer that does not fail is answered by what is left of the session. -/
theorem finishDownload_lastReply (s : TcpFastbootSession) {o : Answers}
    (ho : o.All Query.Favourable) (h : s.sink.Underway) :
    lastReply (exec finishDownload s o).2.1.sent =
      some (if s.sink.isOpen then Reply.okay else Reply.failClose) := by
  unfold finishDownload
  rw [exec_read_bind]
  cases hopen : s.sink.isOpen with
  | false =>
      rw [if_pos Bool.not_false, exec_update_bind]
      exact sendPacket_lastReply _ _ _
  | true =>
      rw [if_neg (by simp), exec_onSession_bind, exec_bind]
      have hunder : (HasSession.session (HasSession.setSession s.sink.eof s)).Underway := by
        rw [HasSession.session_setSession]
        exact h.eof
      obtain ⟨hverdict, -⟩ := exec_finished (HasSession.setSession s.sink.eof s) o hunder
        (ho 0 (.session .join))
      generalize exec finished (HasSession.setSession s.sink.eof s) o = res at hverdict ⊢
      obtain ⟨verdict, t, o'⟩ := res
      obtain rfl : verdict = .ok () := hverdict
      dsimp only
      rw [exec_update_bind]
      exact sendPacket_lastReply _ _ _

/-- The command that finishes a transfer which does not fail: its last reply. -/
theorem dispatch_lastReply (s : TcpFastbootSession) {o : Answers} (ho : o.All Query.Favourable)
    (h : s.sink.Underway) {cmd : Bytes} (hcmd : Finishing s.fastbootPendingFlash cmd) :
    lastReply (exec (dispatch cmd) s o).2.1.sent =
      some (if s.sink.isOpen then Reply.okay else Reply.failClose) := by
  obtain ⟨consumed, hclose | ⟨hpending, hflash⟩⟩ := hcmd
  · unfold dispatch
    rw [hclose]
    exact finishDownload_lastReply s ho h
  · unfold dispatch
    rw [hflash]
    dsimp only
    unfold handleFlash
    rw [exec_read_bind, if_neg (by simp [hpending]), exec_attempt]
    -- `flash` sends an `INFO` first, which leaves the session alone
    have hsame : (exec (sendPacket Reply.infoWaitSwupdate) s o).2.1.sink = s.sink :=
      (keeps_sendPacket (fun _ _ => rfl) _).exec s o
    have hsent : (exec (sendPacket Reply.infoWaitSwupdate) s o).1 = .ok () := ho 0 (.write _)
    rw [hsent, ← hsame]
    exact finishDownload_lastReply _ (all_exec s _ ho) (by rw [hsame]; exact h)

end SummitUsbgadget.FastbootTcp
