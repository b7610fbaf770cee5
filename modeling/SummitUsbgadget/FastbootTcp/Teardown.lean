import SummitUsbgadget.FastbootTcp.Sender

/-!
# What a fastboot session over TCP leaves behind

A status task that is neither joined nor aborted runs on when the session that holds its handle is
dropped. The sessions that are replaced between two commands have all been waited for
(`commandLoop_retired`), and an error of the command loop aborts the last one. A client that closes
the connection between two frames ends the loop without an error: what `run` leaves then is the
session as it is (`nothing_left_behind_iff`).
-/

set_option autoImplicit false

namespace SummitUsbgadget.FastbootTcp

open SummitUsbgadget.Lib
open SummitUsbgadget.Lib.Program
open SummitUsbgadget.Swupdate
open SummitUsbgadget.Fastboot
open HasSession

/-- The status task of the session's transfer is joined or aborted, if there ever was one. -/
def Attended (d : Session) : Prop := d.status = none

instance (d : Session) : Decidable (Attended d) := inferInstanceAs (Decidable (d.status = none))

/-- Every transfer of the session, and of those that it replaced, is attended to. -/
def NothingLeft (s : TcpFastbootSession) : Prop := ∀ d ∈ s.retired ++ [s.sink], Attended d

instance (s : TcpFastbootSession) : Decidable (NothingLeft s) :=
  inferInstanceAs (Decidable (∀ d ∈ s.retired ++ [s.sink], Attended d))

theorem nothingLeft_iff (s : TcpFastbootSession) :
    NothingLeft s ↔ (∀ d ∈ s.retired, Attended d) ∧ Attended s.sink := by
  simp [NothingLeft, or_imp, forall_and]

/-! ## The sessions that were replaced -/

section Keeps

variable {γ : Type} {f : TcpFastbootSession → γ}

/-- The part of the state that a data phase has no business with. -/
structure Aside (f : TcpFastbootSession → γ) : Prop where
  sink : ∀ d s, f (setSession d s) = f s
  counters : ∀ s m n, f { s with remaining := m, frameRemaining := n } = f s
  sent : ∀ s sent, f { s with sent := sent } = f s

theorem keeps_streamLoop (hf : Aside f) (n : Nat) (forwarding : Bool) :
    Keeps f (streamLoop n forwarding) := by
  have hread := keeps_readBlock hf.counters
  induction n generalizing forwarding with
  | zero => exact keeps_pure _
  | succ n ih =>
      refine keeps_bind (keeps_read _) fun remaining => keeps_ite (keeps_pure _) (keeps_ite ?_ ?_)
      · exact keeps_attempt hread fun _ => ih forwarding
      · refine keeps_attempt (keeps_pumpToSwupdate hf.sink hread _) fun e => ?_
        match e with
        | .inputClosed => exact keeps_pure _
        | .swupdateFinished (.ok ()) => exact ih false
        | .swupdateFinished (.error err) =>
            exact keeps_bind (keeps_sendPacket hf.sent _) fun _ =>
              keeps_bind (keeps_abort hf.sink) fun _ => keeps_pure _

theorem keeps_streamDownload (hf : Aside f) (total : Nat) : Keeps f (streamDownload total) :=
  keeps_bind (keeps_update fun s => hf.counters s _ _) fun _ =>
    keeps_attempt (keeps_streamLoop hf _ _) fun _ => keeps_sendPacket hf.sent _

theorem keeps_ensureBegun (hf : Aside f) : Keeps f ensureBegun :=
  keeps_bind (keeps_read _) fun _ => keeps_ite (keeps_pure _) (keeps_openSession hf.sink)

end Keeps

theorem aside_retired : Aside TcpFastbootSession.retired :=
  ⟨fun _ _ => rfl, fun _ _ _ => rfl, fun _ _ => rfl⟩

theorem handleWopen_retired : Keeps TcpFastbootSession.retired handleWopen := by
  refine keeps_bind (keeps_openSession aside_retired.sink) fun opened => ?_
  cases opened with
  | error err => exact keeps_sendPacket aside_retired.sent _
  | ok u => exact keeps_bind (keeps_update fun _ => rfl) fun _ =>
      keeps_sendPacket aside_retired.sent _

theorem handleDownload_retired (len : Nat) (kind : DownloadKind) :
    Keeps TcpFastbootSession.retired (handleDownload len kind) := by
  refine keeps_bind (keeps_ensureBegun aside_retired) fun begun => ?_
  cases begun with
  | error err => exact keeps_sendPacket aside_retired.sent _
  | ok u =>
      refine keeps_attempt (keeps_sendPacket aside_retired.sent _) fun _ =>
        keeps_bind (keeps_update fun _ => rfl) fun _ => keeps_ite ?_ ?_
      · exact keeps_sendPacket aside_retired.sent _
      · exact keeps_streamDownload aside_retired _

/-- The finish replaces the session only after it has waited for the verdict. -/
theorem finishDownload_retired (s : TcpFastbootSession) (o : Answers) (h : Paired s.sink)
    (hretired : ∀ d ∈ s.retired, Attended d) :
    ∀ d ∈ (exec finishDownload s o).2.1.retired, Attended d := by
  have hreply : ∀ (data : Bytes) (t : TcpFastbootSession) (o : Answers),
      (exec (sendPacket data) t o).2.1.retired = t.retired := fun data t o =>
    (keeps_sendPacket aside_retired.sent data).exec t o
  unfold finishDownload
  rw [exec_read_bind]
  cases hopen : s.sink.isOpen with
  | false =>
      rw [if_pos Bool.not_false, exec_update_bind, hreply]
      exact hretired
  | true =>
      rw [if_neg (by simp), exec_onSession_bind, exec_bind, exec_update_bind]
      have hstatus :
          (exec (finished : Async _) (setSession s.sink.eof s) o).2.1.sink.status = none := by
        refine finished_status (setSession s.sink.eof s) o ?_
        change s.sink.eof.terminal.isSome → s.sink.eof.status = none
        rw [Session.terminal_eof, Session.status_eof]
        exact h.verdict
      have hkept : (exec (finished : Async _) (setSession s.sink.eof s) o).2.1.retired
          = s.retired :=
        (keeps_finished aside_retired.sink).exec (setSession s.sink.eof s) o
      change ∀ d ∈ (exec _ (exec (finished : Async _)
        (setSession s.sink.eof s) o).2.1.resetAfterFinish _).2.1.retired, Attended d
      generalize exec (finished : Async _) (setSession s.sink.eof s) o = r at hstatus hkept ⊢
      obtain ⟨verdict, s', o'⟩ := r
      have hnew : ∀ d ∈ s'.resetAfterFinish.retired, Attended d := by
        intro d hd
        rcases List.mem_append.1 hd with hd | hd
        · exact hretired d (hkept ▸ hd)
        · rw [List.mem_singleton.1 hd]
          exact hstatus
      cases verdict with
      | ok u =>
          dsimp only
          rw [hreply]
          exact hnew
      | error err =>
          dsimp only
          rw [hreply]
          exact hnew

theorem handleFlash_retired (s : TcpFastbootSession) (o : Answers) (h : Paired s.sink)
    (hretired : ∀ d ∈ s.retired, Attended d) :
    ∀ d ∈ (exec handleFlash s o).2.1.retired, Attended d := by
  have hreply : ∀ data : Bytes, (exec (sendPacket data) s o).2.1.retired = s.retired := fun data =>
    (keeps_sendPacket aside_retired.sent data).exec s o
  unfold handleFlash
  rw [exec_read_bind]
  cases s.fastbootPendingFlash with
  | false =>
      rw [if_pos Bool.not_false, hreply]
      exact hretired
  | true =>
      have hsame := sendPacket_sink Reply.infoWaitSwupdate s o
      have hkept := hreply Reply.infoWaitSwupdate
      rw [if_neg (by simp), exec_attempt]
      generalize exec (sendPacket Reply.infoWaitSwupdate) s o = r at hsame hkept ⊢
      obtain ⟨res, s', o'⟩ := r
      dsimp only at hsame hkept
      rw [← hsame] at h
      rw [← hkept] at hretired
      cases res with
      | error err => exact hretired
      | ok u => exact finishDownload_retired s' o' h hretired

/-- No command replaces a session whose transfer is not attended to. -/
theorem dispatch_retired (cmd : Bytes) (s : TcpFastbootSession) (o : Answers) (h : Paired s.sink)
    (hretired : ∀ d ∈ s.retired, Attended d) :
    ∀ d ∈ (exec (dispatch cmd) s o).2.1.retired, Attended d := by
  have hkept : ∀ p : Async (Except IoError Unit), Keeps TcpFastbootSession.retired p →
      ∀ d ∈ (exec p s o).2.1.retired, Attended d := by
    intro p hp
    rw [hp.exec s o]
    exact hretired
  unfold dispatch
  cases hcmd : parseCommand cmd with
  | none => exact hkept _ (keeps_sendPacket aside_retired.sent _)
  | some found =>
      obtain ⟨command, consumed⟩ := found
      cases command with
      | wOpen => exact hkept _ handleWopen_retired
      | getVar arg => exact hkept _ (keeps_handleGetvar aside_retired.sent arg)
      | fetch target => exact hkept _ (keeps_handleFetch aside_retired.sent target)
      | fetchUnknownPart => exact hkept _ (keeps_sendPacket aside_retired.sent _)
      | download len kind => exact hkept _ (handleDownload_retired len kind)
      | flash => exact handleFlash_retired s o h hretired
      | close => exact finishDownload_retired s o h hretired
      | unsupported => exact hkept _ (keeps_sendPacket aside_retired.sent _)

/-- Any number of commands, however the last one ends. -/
theorem commandLoop_retired (n : Nat) (s : TcpFastbootSession) (o : Answers) (h : Paired s.sink)
    (hretired : ∀ d ∈ s.retired, Attended d) :
    ∀ d ∈ (exec (commandLoop n) s o).2.1.retired, Attended d := by
  induction n generalizing s o with
  | zero => exact hretired
  | succ n ih =>
      have hsame : (exec recvCommand s o).2.1 = s := keeps_recvCommand.exec (f := id) s o
      unfold commandLoop
      rw [exec_attempt]
      generalize exec recvCommand s o = r at hsame ⊢
      obtain ⟨res, s', o'⟩ := r
      obtain rfl : s' = s := hsame
      rcases res with err | (- | cmd)
      · exact hretired
      · exact hretired
      · have hpaired := dispatch_paired cmd s' o' h
        have hdispatch := dispatch_retired cmd s' o' h hretired
        dsimp only
        rw [exec_attempt]
        generalize exec (dispatch cmd) s' o' = r at hpaired hdispatch ⊢
        obtain ⟨res, s'', o''⟩ := r
        cases res with
        | error err => exact hdispatch
        | ok u => exact ih s'' o'' (hpaired rfl) hdispatch

/-! ## The end of a session -/

/-- How the command loop ends within `n` commands: with the session at which the client closed the
connection between two frames, or with an error; `none` if the client is still there. -/
def ending : Nat → TcpFastbootSession → Answers → Option (Except IoError TcpFastbootSession)
  | 0, _, _ => none
  | n + 1, s, o =>
      match exec recvCommand s o with
      | (.error err, _, _) => some (.error err)
      | (.ok none, s', _) => some (.ok s')
      | (.ok (some cmd), s', o') =>
          match exec (dispatch cmd) s' o' with
          | (.error err, _, _) => some (.error err)
          | (.ok (), s'', o'') => ending n s'' o''

/-- The loop returns what it ends with. -/
theorem exec_commandLoop {n : Nat} {s : TcpFastbootSession} {o : Answers}
    {e : Except IoError TcpFastbootSession} (h : ending n s o = some e) :
    (exec (commandLoop n) s o).1 = e.map (fun _ => ()) ∧
      ∀ s', e = .ok s' → (exec (commandLoop n) s o).2.1 = s' := by
  induction n generalizing s o with
  | zero => cases h
  | succ n ih =>
      unfold ending at h
      unfold commandLoop
      rw [exec_attempt]
      generalize exec recvCommand s o = r at h ⊢
      obtain ⟨res, s', o'⟩ := r
      rcases res with err | (- | cmd)
      · obtain rfl := Option.some.inj h
        exact ⟨rfl, fun _ heq => by cases heq⟩
      · obtain rfl := Option.some.inj h
        exact ⟨rfl, fun _ heq => Except.ok.inj heq⟩
      · dsimp only at h ⊢
        rw [exec_attempt]
        generalize exec (dispatch cmd) s' o' = r at h ⊢
        obtain ⟨res, s'', o''⟩ := r
        cases res with
        | error err =>
            obtain rfl := Option.some.inj h
            exact ⟨rfl, fun _ heq => by cases heq⟩
        | ok u => exact ih h

theorem keeps_handshake {γ : Type} {f : TcpFastbootSession → γ} : Keeps f handshake := by
  refine keeps_attempt (keeps_ask (Query.write _)) fun _ => keeps_attempt ?_ fun buf => ?_
  · exact keeps_attempt (keeps_fill 4 4 []) fun _ => keeps_ite (keeps_pure _) (keeps_pure _)
  · refine keeps_ite (keeps_pure _) ?_
    cases parseVersion (buf.drop 2) with
    | none => exact keeps_pure _
    | some version => exact keeps_ite (keeps_pure _) (keeps_pure _)

/-- What `run` leaves after a handshake: what the loop left, or that with its session aborted. -/
theorem exec_run {n : Nat} {s : TcpFastbootSession} {o : Answers}
    (hshake : (exec handshake s o).1 = .ok ()) :
    (exec (TcpFastbootSession.run n) s o).2.1 =
      match (exec (commandLoop n) s (exec handshake s o).2.2).1 with
      | .ok () => (exec (commandLoop n) s (exec handshake s o).2.2).2.1
      | .error _ =>
          setSession (exec (commandLoop n) s (exec handshake s o).2.2).2.1.sink.abort
            (exec (commandLoop n) s (exec handshake s o).2.2).2.1 := by
  have hsame : (exec handshake s o).2.1 = s := keeps_handshake.exec (f := id) s o
  unfold TcpFastbootSession.run
  rw [exec_attempt, hshake, hsame]
  dsimp only
  rw [exec_bind]
  generalize exec (commandLoop n) s (exec handshake s o).2.2 = r
  obtain ⟨res, s', o'⟩ := r
  cases res with
  | ok u => rfl
  | error err =>
      dsimp only
      rw [exec_bind, exec_bind]
      exact exec_abort s' o'

/-- For every client that completes the handshake: when `run` returns, no status task is left
running, unless the client closed the connection between two frames while a transfer had no
verdict. -/
theorem nothing_left_behind_iff (params : SwupdateParams) (serial : Bytes) (n : Nat) (o : Answers)
    (hshake : (exec handshake (TcpFastbootSession.new params serial) o).1 = .ok ())
    {e : Except IoError TcpFastbootSession}
    (hend : ending n (TcpFastbootSession.new params serial)
      (exec handshake (TcpFastbootSession.new params serial) o).2.2 = some e) :
    NothingLeft (exec (TcpFastbootSession.run n) (TcpFastbootSession.new params serial) o).2.1 ↔
      ∀ s, e = .ok s → Attended s.sink := by
  have hnew : ∀ d ∈ (TcpFastbootSession.new params serial).retired, Attended d := by
    intro d hd
    cases hd
  have hretired := commandLoop_retired n (TcpFastbootSession.new params serial)
    (exec handshake (TcpFastbootSession.new params serial) o).2.2 (paired_of_status rfl) hnew
  obtain ⟨hres, hleft⟩ := exec_commandLoop hend
  rw [exec_run hshake, hres, nothingLeft_iff]
  cases e with
  | error err =>
      -- the abort takes the handle of the last transfer
      exact ⟨fun _ s heq => (by cases heq), fun _ => ⟨hretired, rfl⟩⟩
  | ok s =>
      have hs := hleft s rfl
      rw [hs] at hretired
      dsimp only [Except.map]
      rw [hs]
      constructor
      · rintro ⟨-, hattended⟩ s' heq
        rw [← Except.ok.inj heq]
        exact hattended
      · exact fun h => ⟨hretired, h s rfl⟩

/-- A peer that opens a session, sends `more` and closes the connection. -/
def hangsUp (more : Bytes) : Answers := fun n q =>
  match q with
  | .session .look => ⟨false, ⟨"MMC", "a"⟩, .room, none⟩
  | .session .slot => true
  | .session .join => .done (.ok ())
  | .session .reap => ()
  | .read _ => .ok (match n with
      | 1 => bytes "FB01"
      | 2 => toBeBytes 6
      | 3 => bytes "WOpen:"
      | 6 => more
      | _ => [])
  | .write _ => .ok ()
  | .shutdown => .ok ()
  | .system => ⟨[], [], ⟨"MMC", "a"⟩⟩

/-- The connection breaks in the middle of a header. -/
theorem nothing_left_behind_iff_truncated :
    NothingLeft (exec (TcpFastbootSession.run 2) (TcpFastbootSession.new SwupdateParams.default [])
      (hangsUp [0, 0])).2.1 := by
  have hfails : (ending 2 (TcpFastbootSession.new SwupdateParams.default [])
      (exec handshake (TcpFastbootSession.new SwupdateParams.default []) (hangsUp [0, 0])).2.2).map
        Except.isOk = some false := by
    decide +kernel
  obtain ⟨e, hend, hno⟩ := Option.map_eq_some_iff.1 hfails
  have hshake : (exec handshake (TcpFastbootSession.new SwupdateParams.default [])
      (hangsUp [0, 0])).1 = .ok () := by
    decide +kernel
  have hiff := nothing_left_behind_iff SwupdateParams.default [] 2 (hangsUp [0, 0]) hshake hend
  apply hiff.2
  intro s hok
  rw [hok] at hno
  cases hno

/-- The client opens a session and closes the connection behind the command: `run` returns without
an error, and the status task of the transfer runs on. -/
theorem status_task_left_running :
    (exec handshake (TcpFastbootSession.new SwupdateParams.default []) (hangsUp [])).1 = .ok () ∧
      (ending 2 (TcpFastbootSession.new SwupdateParams.default [])
        (exec handshake (TcpFastbootSession.new SwupdateParams.default [])
          (hangsUp [])).2.2).isSome ∧
      (exec (TcpFastbootSession.run 2) (TcpFastbootSession.new SwupdateParams.default [])
        (hangsUp [])).1 = .ok () ∧
      ¬ NothingLeft (exec (TcpFastbootSession.run 2)
        (TcpFastbootSession.new SwupdateParams.default []) (hangsUp [])).2.1 := by
  decide +kernel

end SummitUsbgadget.FastbootTcp
