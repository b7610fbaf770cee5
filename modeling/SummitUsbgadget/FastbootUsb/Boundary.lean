import SummitUsbgadget.Swupdate.Live
import SummitUsbgadget.FastbootUsb.DataPhase

/-!
# The boundary of a data phase

A `download` command and the completions that bring its payload, cut in any way: the first one may
hold payload behind the header, and the last one may go on behind the payload. `Framed` says what
the data phase should come to; `framed_iff` says when it does. Bytes behind the boundary are never
taken for commands: behind the header they are handed to the session without a bound, and a later
completion that crosses the boundary is cut there, but its second half goes to the session again.
-/

set_option autoImplicit false

namespace SummitUsbgadget.FastbootUsb

open SummitUsbgadget.Lib
open SummitUsbgadget.Lib.Program
open SummitUsbgadget.Swupdate
open SummitUsbgadget.Fastboot

/-- All bytes ever handed to a session. -/
def FastbootUsbState.handedBytes (s : FastbootUsbState) : Bytes :=
  (s.retired.map Session.handedBytes).flatten ++ s.download.handedBytes

theorem handedBytes_fresh (s : FastbootUsbState) : s.fresh.handedBytes = s.handedBytes := by
  simp [FastbootUsbState.handedBytes, FastbootUsbState.fresh]

theorem handedBytes_conclude (accepted : Bool) (s : FastbootUsbState) :
    (s.conclude accepted).handedBytes = s.handedBytes := by
  unfold FastbootUsbState.conclude
  cases s.pendingFailReply with
  | none => rfl
  | some failReply =>
      dsimp only
      rw [handedBytes_fresh]
      rfl

theorem sent_conclude (accepted : Bool) (s : FastbootUsbState) :
    ∃ data, (s.conclude accepted).sent = s.sent ++ [⟨data, accepted⟩] := by
  unfold FastbootUsbState.conclude
  cases s.pendingFailReply with
  | none => exact ⟨_, rfl⟩
  | some failReply => exact ⟨_, rfl⟩

theorem parsed_conclude (accepted : Bool) (s : FastbootUsbState) :
    (s.conclude accepted).parsed = s.parsed := by
  unfold FastbootUsbState.conclude
  cases s.pendingFailReply <;> rfl

/-! ## The download command -/

section Command

variable (s : FastbootUsbState) (o : Answers)

theorem exec_ensureBegun (h : (exec ensureBegun s o).1 = true) :
    ∃ d, d.handedBytes = s.download.handedBytes ∧
      (exec ensureBegun s o).2.1 = { s with download := d } := by
  unfold ensureBegun beginDownloadCommand at h ⊢
  rw [exec_read_bind] at h ⊢
  by_cases hopen : s.download.isOpen = true
  · rw [if_pos hopen]
    exact ⟨s.download, rfl, rfl⟩
  · rw [if_neg hopen] at h ⊢
    rw [exec_bind, exec_openSession] at h ⊢
    simp only [session_eq, setSession_eq, answered_look] at h ⊢
    rcases Session.openSession_cases (o 0 .look) s.download with
      ⟨hyes, -⟩ | ⟨-, -, heq⟩ | ⟨-, -, heq⟩
    · exact absurd hyes hopen
    · -- a rejected `open` is answered with a failure, and the command is not carried out
      rw [heq] at h
      exact absurd h (by simp [exec_bind])
    · rw [heq]
      refine ⟨{ s.download with terminal := none }.spawn (o 0 .look), ?_, rfl⟩
      rw [Session.handedBytes_spawn]
      rfl

/-- The command was carried out: the header went out and the data phase is set up. -/
theorem exec_startDownloadTransfer {len : Nat} {kind : DownloadKind}
    (h : (exec (startDownloadTransfer len kind) s o).1 = true) :
    ∃ d accepted, d.handedBytes = s.download.handedBytes ∧
      (exec (startDownloadTransfer len kind) s o).2.1 =
        { s with
          download := d
          downloadSize := len
          downloadedSize := 0
          fastbootPendingFlash := fastbootDownload kind s.fastbootUsbSessionOpen
          sent := s.sent ++ ⟨dataHeader len, true⟩ ::
            if len = 0 then [⟨Reply.okay, accepted⟩] else [] } := by
  unfold startDownloadTransfer sendDataHeader at h ⊢
  rw [exec_bind] at h ⊢
  cases hbegun : (exec ensureBegun s o).1 with
  | false =>
      rw [hbegun] at h
      cases h
  | true =>
      obtain ⟨d, hd, hst⟩ := exec_ensureBegun s o hbegun
      rw [hbegun, hst] at h
      rw [hst]
      generalize (exec ensureBegun s o).2.2 = o' at h ⊢
      simp only [Bool.not_true, Bool.false_eq_true, if_false] at h ⊢
      rw [exec_bind, exec_sendStatic] at h ⊢
      cases hheader : o' 0 (.reply (dataHeader len)) with
      | error err =>
          -- the header did not go out: everything is reset
          rw [hheader] at h
          simp [exec_bind] at h
      | ok u =>
          by_cases hlen : len = 0
          · refine ⟨d, Except.isOk (o'.rest 0 (.reply Reply.okay)), hd, ?_⟩
            dsimp only
            rw [exec_update_bind, if_pos hlen, if_pos hlen, exec_bind, exec_reply]
            simp [FastbootUsbState.replied, Except.isOk, Except.toBool]
          · refine ⟨d, true, hd, ?_⟩
            dsimp only
            rw [exec_update_bind, if_neg hlen, if_neg hlen]
            rfl

end Command

/-! ## Only the front of a completion is parsed -/

theorem keeps_sendStatic (data : Bytes) : Keeps FastbootUsbState.parsed (sendStatic data) :=
  keeps_bind (keeps_ask _) fun _ => keeps_bind (keeps_update fun _ => rfl) fun _ => keeps_pure _

theorem keeps_reply (data : Bytes) : Keeps FastbootUsbState.parsed (reply data) :=
  keeps_bind (keeps_sendStatic data) fun _ => keeps_pure _

theorem keeps_answer {α : Type} (data : Bytes) (a : α) :
    Keeps FastbootUsbState.parsed (reply data >>= fun _ => Pure.pure a) :=
  keeps_bind (keeps_reply data) fun _ => keeps_pure _

theorem keeps_reset_none : Keeps FastbootUsbState.parsed (reset none) :=
  keeps_bind (keeps_update fun _ => rfl) fun _ => keeps_bind (keeps_abort fun _ _ => rfl) fun _ =>
    keeps_bind (keeps_update fun _ => rfl) fun _ => keeps_pure _

theorem keeps_beginDownloadCommand : Keeps FastbootUsbState.parsed beginDownloadCommand := by
  refine keeps_bind (keeps_openSession fun _ _ => rfl) fun opened => ?_
  cases opened with
  | error err => exact keeps_answer _ _
  | ok u => exact keeps_pure _

theorem keeps_startFinishDownloadCommand :
    Keeps FastbootUsbState.parsed startFinishDownloadCommand := by
  refine keeps_bind (keeps_read _) fun _ => keeps_ite (keeps_answer _ _) ?_
  exact keeps_bind (keeps_onSession (fun _ _ => rfl) _) fun _ =>
    keeps_bind (keeps_update fun _ => rfl) fun _ => keeps_pure _

theorem keeps_startDownloadTransfer (len : Nat) (kind : DownloadKind) :
    Keeps FastbootUsbState.parsed (startDownloadTransfer len kind) := by
  refine keeps_bind (keeps_bind (keeps_read _) fun _ =>
    keeps_ite (keeps_pure _) keeps_beginDownloadCommand) fun _ => keeps_ite (keeps_pure _) ?_
  refine keeps_bind (keeps_sendStatic _) fun header => ?_
  cases header with
  | error err => exact keeps_bind keeps_reset_none fun _ => keeps_pure _
  | ok u =>
      exact keeps_bind (keeps_update fun _ => rfl) fun _ =>
        keeps_ite (keeps_answer _ _) (keeps_pure _)

theorem keeps_handleFetchCommand (target : FetchTarget) :
    Keeps FastbootUsbState.parsed (handleFetchCommand target) := by
  refine keeps_bind (keeps_ask Query.system) fun _ =>
    keeps_bind (keeps_sendStatic _) fun header => ?_
  cases header with
  | error err => exact keeps_pure _
  | ok u =>
      refine keeps_bind (keeps_sendStatic _) fun sent => ?_
      cases sent with
      | error err => exact keeps_pure _
      | ok u => exact keeps_answer _ _

/-- No command handler parses anything. -/
theorem keeps_dispatch (command : ParsedCommand) :
    Keeps FastbootUsbState.parsed (dispatch command) := by
  cases command with
  | wOpen =>
      exact keeps_bind keeps_beginDownloadCommand fun _ => keeps_ite (keeps_pure _)
        (keeps_bind (keeps_update fun _ => rfl) fun _ => keeps_answer _ _)
  | getVar arg =>
      refine keeps_bind (keeps_ask Query.system) fun info =>
        keeps_bind (keeps_read _) fun serial => ?_
      cases fastbootGetvarReply arg serial info with
      | some data => exact keeps_answer _ _
      | none => exact keeps_answer _ _
  | fetch target => exact keeps_handleFetchCommand target
  | fetchUnknownPart => exact keeps_answer _ _
  | download len kind => exact keeps_startDownloadTransfer len kind
  | flash =>
      refine keeps_bind (keeps_read _) fun _ => keeps_bind (keeps_read _) fun _ =>
        keeps_ite (keeps_answer _ _) (keeps_ite (keeps_answer _ _) ?_)
      exact keeps_bind (keeps_reply _) fun _ => keeps_bind keeps_startFinishDownloadCommand fun _ =>
        keeps_ite (keeps_bind (keeps_update fun _ => rfl) fun _ => keeps_pure _) (keeps_pure _)
  | close => exact keeps_startFinishDownloadCommand
  | unsupported => exact keeps_answer _ _

theorem parsed_handleDownloadChunk (chunk : Bytes) (s : FastbootUsbState) (o : Answers) :
    (exec (handleDownloadChunk chunk) s o).2.1.parsed = s.parsed := by
  by_cases hne : chunk = []
  · simp [handleDownloadChunk, hne]
  · obtain ⟨accepted, -, hst⟩ := exec_handleDownloadChunk s o hne rfl
    rw [hst]
    split
    · rfl
    · rw [parsed_conclude]
      rfl

/-- Outside a data phase a completion goes to the command parser as a whole. -/
theorem parsed_handleRxChunk (chunk : Bytes) {s : FastbootUsbState} (o : Answers)
    (h : s.downloadActive = false) :
    (exec (handleRxChunk chunk) s o).2.1.parsed = s.parsed ++ [chunk] := by
  have hcmd : (exec (handleCommandChunk chunk) s o).2.1.parsed = s.parsed ++ [chunk] := by
    unfold handleCommandChunk
    rw [exec_update_bind]
    cases parseCommand chunk with
    | none => rfl
    | some found =>
        dsimp only
        rw [exec_bind]
        exact (keeps_dispatch found.1).exec _ _
  unfold handleRxChunk
  rw [exec_read_bind, if_pos (by simp [h]), exec_bind]
  dsimp only
  rw [exec_read_bind, exec_ite]
  split
  · rw [parsed_handleDownloadChunk, hcmd]
  · exact hcmd

/-- Between commands. -/
structure Idle (s : FastbootUsbState) : Prop where
  inactive : s.downloadActive = false
  notFinishing : s.finishPending = false
  unfailed : s.pendingFailReply = none
  notTornDown : s.gadgetTornDown = false

/-- A `download` command at the front of a packet, carried out in `s`: whether it was, and the state
and the answers that are left for what follows it in the packet. -/
def announce (s : FastbootUsbState) (len : Nat) (kind : DownloadKind) (p : Packet) :
    Bool × FastbootUsbState × Answers :=
  exec (startDownloadTransfer len kind) { s with reading := none, parsed := s.parsed ++ [p.chunk] }
    p.iteration.step.rest

/-- The packet starts with a `download` command of `n` bytes, and the device answers it with
`DATA`. -/
structure Header (s : FastbootUsbState) (len : Nat) (kind : DownloadKind) (n : Nat)
    (p : Packet) : Prop where
  command : parseCommand p.chunk = some (.download len kind, n)
  carriedOut : (announce s len kind p).1 = true

/-- The bytes behind the command. -/
def behind (n : Nat) (p : Packet) (ps : List Packet) : Bytes := p.chunk.drop n ++ payload ps

/-- The phase of the data phase after the header and the packets. -/
def phaseBehind (s : FastbootUsbState) (len : Nat) (kind : DownloadKind) (n : Nat) (p : Packet)
    (ps : List Packet) : Phase :=
  let o := (announce s len kind p).2.2
  run Phase.take ((announce s len kind p).2.1.phase.push (o 0 .look) (o 1 .look) (o 2 .slot)
    (p.chunk.drop n)) ps

section Announced

variable {s : FastbootUsbState} {len n : Nat} {kind : DownloadKind} {p : Packet}

/-- What the command leaves. -/
structure Entered (s : FastbootUsbState) (len : Nat) (p : Packet) (t : FastbootUsbState) :
    Prop extends InDataPhase len t where
  received : t.downloadedSize = 0
  reading : t.reading = none
  unfailed : t.pendingFailReply = none
  handed : t.download.handedBytes = s.download.handedBytes
  retired : t.retired = s.retired
  parsed : t.parsed = s.parsed ++ [p.chunk]
  sent : ∃ accepted, t.sent = s.sent ++ ⟨dataHeader len, true⟩ ::
    if len = 0 then [⟨Reply.okay, accepted⟩] else []

theorem Header.entered (h : Header s len kind n p) (hs : Idle s) :
    Entered s len p (announce s len kind p).2.1 := by
  obtain ⟨d, accepted, hd, hst⟩ := exec_startDownloadTransfer _ _ h.carriedOut
  have hst' : (announce s len kind p).2.1 = _ := hst
  rw [hst']
  exact ⟨⟨rfl, hs.notFinishing, hs.notTornDown⟩, rfl, rfl, hs.unfailed, hd, rfl, rfl, accepted, rfl⟩

/-- The iteration that receives the header: the command, then what follows it in the packet. -/
theorem iterate_header (h : Header s len kind n p) (hs : Idle s) :
    iterate s p.iteration =
      if (announce s len kind p).2.1.downloadActive && !(p.chunk.drop n).isEmpty then
        ((exec (handleDownloadChunk (p.chunk.drop n)) (announce s len kind p).2.1
            (announce s len kind p).2.2).1,
          (exec (handleDownloadChunk (p.chunk.drop n)) (announce s len kind p).2.1
            (announce s len kind p).2.2).2.1)
      else (true, (announce s len kind p).2.1) := by
  have hiter := iterate_completion s p (t := { s with reading := none })
    (by rw [exec_checkVerdict_idle s _ (.inl hs.inactive)]) hs.notFinishing hs.notTornDown
  have hcmd : exec (handleCommandChunk p.chunk) { s with reading := none } p.iteration.step.rest =
      ((true, p.chunk.drop n), (announce s len kind p).2) := by
    rw [← h.carriedOut]
    unfold handleCommandChunk
    rw [exec_update_bind, h.command]
    dsimp only
    rw [exec_bind]
    rfl
  unfold handleRxChunk at hiter
  rw [exec_read_bind, if_pos (by simpa [FastbootUsbState.downloadActive] using hs.inactive),
    exec_bind, hcmd] at hiter
  dsimp only at hiter
  rw [exec_read_bind, Bool.true_and, exec_ite] at hiter
  rw [hiter]
  split
  · rfl
  · rfl

/-- The first packet of a data phase that is not empty. -/
theorem iterate_header_phase (h : Header s len kind n p) (hs : Idle s) (hlen : 0 < len)
    {t : FastbootUsbState}
    (ht : t = (announce s len kind p).2.1.at (phaseBehind s len kind n p [])
      (behind n p []).length) :
    ∃ accepted, iterate s p.iteration =
      (true, if t.downloadActive then t else t.conclude accepted) := by
  have he := h.entered hs
  have hbehind : behind n p [] = p.chunk.drop n := by simp [behind]
  have hactive : (announce s len kind p).2.1.downloadActive = true := by
    simpa [FastbootUsbState.downloadActive, he.received, he.size] using hlen
  rw [iterate_header h hs, hactive]
  rw [hbehind] at ht
  by_cases hne : p.chunk.drop n = []
  · -- the command came alone
    have hphase : phaseBehind s len kind n p [] = (announce s len kind p).2.1.phase := by
      rw [phaseBehind, hne, run_nil, Phase.push_nil]
    have ht' : t = (announce s len kind p).2.1 := by
      rw [ht, hphase, hne]
      simp [FastbootUsbState.at, FastbootUsbState.phase, ← he.received, ← he.reading]
    refine ⟨true, ?_⟩
    rw [if_neg (by simp [hne]), ht', if_pos hactive]
  · -- what follows it is payload, all of it
    obtain ⟨accepted, hkeep, hst⟩ := exec_handleDownloadChunk (announce s len kind p).2.1
      (announce s len kind p).2.2 hne rfl
    refine ⟨accepted, ?_⟩
    have ht' : t = (announce s len kind p).2.1.advance (phaseBehind s len kind n p [])
        (p.chunk.drop n).length := by
      rw [ht]
      simp [FastbootUsbState.at, FastbootUsbState.advance, he.received, he.reading]
    rw [if_pos (by simp [hne]), hkeep, hst, ht']
    rfl

theorem receive_cons (p : Packet) (ps : List Packet) {t : FastbootUsbState}
    (h : iterate s p.iteration = (true, t)) : receive s (p :: ps) = receive t ps := by
  unfold receive
  rw [List.map_cons, run_cons, ← h]
  rfl

theorem phaseBehind_append (ps qs : List Packet) :
    phaseBehind s len kind n p (ps ++ qs) = run Phase.take (phaseBehind s len kind n p ps) qs := by
  unfold phaseBehind
  rw [run_append]

/-- The state after the first packet, if it leaves payload to come. -/
def first (s : FastbootUsbState) (len : Nat) (kind : DownloadKind) (n : Nat) (p : Packet) :
    FastbootUsbState :=
  (announce s len kind p).2.1.at (phaseBehind s len kind n p []) (behind n p []).length

theorem first_received (ps : List Packet) :
    (first s len kind n p).downloadedSize + (payload ps).length = (behind n p ps).length := by
  simp [first, FastbootUsbState.at, behind]

theorem phaseAfter_first (ps : List Packet) :
    phaseAfter (first s len kind n p) ps = phaseBehind s len kind n p ps := rfl

theorem receive_first (h : Header s len kind n p) (hs : Idle s)
    (hlen : (behind n p []).length < len) (ps : List Packet) :
    InDataPhase len (first s len kind n p) ∧
      receive s (p :: ps) = receive (first s len kind n p) ps := by
  have he := h.entered hs
  obtain ⟨accepted, hiter⟩ := iterate_header_phase h hs (by omega) rfl
  rw [if_pos (by simpa [FastbootUsbState.downloadActive, FastbootUsbState.at, he.size]
    using hlen)] at hiter
  exact ⟨⟨he.size, he.notFinishing, he.notTornDown⟩, receive_cons p ps hiter⟩

theorem behind_length_le (ps qs : List Packet) :
    (behind n p ps).length ≤ (behind n p (ps ++ qs)).length := by
  simp [behind]

/-- Before the boundary. -/
theorem receive_behind (h : Header s len kind n p) (hs : Idle s) {ps : List Packet}
    (hlen : (behind n p ps).length < len) :
    ∃ reading, receive s (p :: ps) =
      (true, { (announce s len kind p).2.1.at (phaseBehind s len kind n p ps)
        (behind n p ps).length with reading := reading }) := by
  have hfirst : (behind n p []).length < len :=
    Nat.lt_of_le_of_lt (behind_length_le [] ps) hlen
  obtain ⟨hin, hrec⟩ := receive_first h hs hfirst ps
  rw [hrec]
  obtain ⟨reading, hst⟩ := receive_phase hin ps (by rw [first_received]; exact hlen)
  rw [first_received, phaseAfter_first] at hst
  exact ⟨reading, hst⟩

/-- At the boundary, if no later packet crosses it. The first one may: what follows the header is
not clamped. -/
theorem receive_boundary (h : Header s len kind n p) (hs : Idle s) {ps : List Packet}
    (hlen : 0 < len) (htotal : len ≤ (behind n p ps).length)
    (hmin : ∀ qs q, ps = qs ++ [q] → (behind n p qs).length < len)
    (hexact : ps ≠ [] → (behind n p ps).length = len) :
    ∃ accepted, receive s (p :: ps) =
      (true, ((announce s len kind p).2.1.at (phaseBehind s len kind n p ps)
        (behind n p ps).length).conclude accepted) := by
  have he := h.entered hs
  rcases List.eq_nil_or_concat' ps with rfl | ⟨qs, q, rfl⟩
  · obtain ⟨accepted, hiter⟩ := iterate_header_phase h hs hlen rfl
    rw [if_neg (by simpa [FastbootUsbState.downloadActive, FastbootUsbState.at, he.size]
      using htotal)] at hiter
    exact ⟨accepted, receive_cons p [] hiter⟩
  · have hqs := hmin qs q rfl
    obtain ⟨hin, hrec⟩ := receive_first h hs
      (Nat.lt_of_le_of_lt (behind_length_le [] qs) hqs) (qs ++ [q])
    have hlast := hexact (by simp)
    obtain ⟨accepted, hst⟩ := receive_end hin qs q
      (by rw [first_received]; exact hqs) (by rw [first_received]; exact hlast)
    rw [hrec, hst, phaseAfter_first, hlast]
    exact ⟨accepted, rfl⟩

theorem phaseBehind_nil_cases (he : Entered s len p (announce s len kind p).2.1) :
    (∃ failReply, (phaseBehind s len kind n p []).failed = some failReply ∧
        (phaseBehind s len kind n p []).download.handedBytes = s.download.handedBytes) ∨
      ((phaseBehind s len kind n p []).failed = none ∧
        (phaseBehind s len kind n p []).download.handedBytes =
          s.download.handedBytes ++ p.chunk.drop n) := by
  have hpush := Phase.push_cases ((announce s len kind p).2.2 0 .look)
    ((announce s len kind p).2.2 1 .look) ((announce s len kind p).2.2 2 .slot) (p.chunk.drop n)
    (announce s len kind p).2.1.phase
  have hhanded : (announce s len kind p).2.1.phase.download.handedBytes =
      s.download.handedBytes := he.handed
  rw [hhanded] at hpush
  rcases hpush with ⟨failReply, hf, hb⟩ | ⟨hf, -, hb⟩
  · exact Or.inl ⟨failReply, hf, hb⟩
  · exact Or.inr ⟨hf, hb⟩

/-- The bytes handed on, if SWUpdate did not fail: all that came behind the header. -/
theorem phaseBehind_unfailed (he : Entered s len p (announce s len kind p).2.1)
    {ps : List Packet} (hf : (phaseBehind s len kind n p ps).failed = none) :
    (phaseBehind s len kind n p ps).download.handedBytes =
      s.download.handedBytes ++ behind n p ps := by
  have hsplit : phaseBehind s len kind n p ps = run Phase.take (phaseBehind s len kind n p []) ps :=
    phaseBehind_append [] ps
  rw [hsplit] at hf ⊢
  rcases phaseBehind_nil_cases (n := n) he with ⟨failReply, hfail, -⟩ | ⟨-, hnil⟩
  · rw [Phase.unfailed_of_run hf] at hfail
    cases hfail
  · rw [Phase.run_unfailed hf, hnil, behind, List.append_assoc]

/-- After a failure the last packet is missing from the bytes handed on. -/
theorem phaseBehind_failed (he : Entered s len p (announce s len kind p).2.1) {ps : List Packet}
    {failReply : Bytes} (hf : (phaseBehind s len kind n p ps).failed = some failReply)
    (hlen : 0 < len) (hmin : ∀ qs q, ps = qs ++ [q] → (behind n p qs).length < len) :
    (phaseBehind s len kind n p ps).download.handedBytes.length <
      s.download.handedBytes.length + len := by
  have hnil : (phaseBehind s len kind n p []).download.handedBytes.length ≤
      s.download.handedBytes.length + (p.chunk.drop n).length := by
    rcases phaseBehind_nil_cases (n := n) he with ⟨-, -, hb⟩ | ⟨-, hb⟩
    · simp [hb]
    · simp [hb]
  rcases List.eq_nil_or_concat' ps with rfl | ⟨qs, q, rfl⟩
  · -- the packet with the header is the last one: nothing was handed on
    rcases phaseBehind_nil_cases (n := n) he with ⟨-, -, hb⟩ | ⟨hnone, -⟩
    · rw [hb]
      omega
    · rw [hnone] at hf
      cases hf
  · -- the packets before the last one fall short of the announced length
    have hqs := hmin qs q rfl
    rw [phaseBehind_append] at hf ⊢
    rw [run_cons, run_nil] at hf ⊢
    rw [Phase.take_failed hf]
    have hle := Phase.run_handed_le (phaseBehind s len kind n p []) qs
    rw [← phaseBehind_append, List.nil_append] at hle
    simp only [behind, List.length_append] at hqs
    omega

end Announced

/-! ## A packet that crosses the boundary -/

theorem downloadActive_conclude (accepted : Bool) {s : FastbootUsbState}
    (h : s.downloadActive = false) : (s.conclude accepted).downloadActive = false := by
  unfold FastbootUsbState.conclude
  cases s.pendingFailReply with
  | none => exact h
  | some failReply => rfl

/-- Bytes for a data phase that is over are answered like its last ones. -/
theorem exec_handleDownloadChunk_over {s : FastbootUsbState} (o : Answers) (chunk : Bytes)
    (hne : chunk ≠ []) (h : s.downloadSize ≤ s.downloadedSize + chunk.length) :
    ∃ reply, (exec (handleDownloadChunk chunk) s o).1 = true ∧
      (exec (handleDownloadChunk chunk) s o).2.1.sent = s.sent ++ [reply] ∧
      (exec (handleDownloadChunk chunk) s o).2.1.downloadActive = false := by
  obtain ⟨accepted, hkeep, hst⟩ := exec_handleDownloadChunk s o hne rfl
  have hover : ∀ ph, (s.advance ph chunk.length).downloadActive = false := by
    intro ph
    exact (downloadActive_eq_false_iff _).2 h
  rw [hover, if_neg (by simp)] at hst
  obtain ⟨data, hsent⟩ := sent_conclude accepted
    (s.advance (s.phase.push (o 0 .look) (o 1 .look) (o 2 .slot) chunk) chunk.length)
  rw [hst, hsent]
  exact ⟨_, hkeep, rfl, downloadActive_conclude accepted (hover _)⟩

/-- A packet that crosses the boundary is answered twice. -/
theorem iterate_crossing (s : FastbootUsbState) (p : Packet) (hfin : s.finishPending = false)
    (htorn : s.gadgetTornDown = false) (hact : s.downloadActive = true)
    (hlen : s.remainingDownloadBytes < p.chunk.length) :
    ∃ x y, (iterate s p.iteration).2.sent = s.sent ++ [x, y] := by
  have hiter := iterate_completion s p
    (t := s.at (s.phase.watch (p.top 0 .look)) s.downloadedSize)
    (by rw [exec_checkVerdict_active s p.iteration.top hfin hact]; rfl) hfin htorn
  rw [hiter]
  generalize p.iteration.step.rest = o
  generalize ht : s.at (s.phase.watch (p.top 0 .look)) s.downloadedSize = t
  have hsent : t.sent = s.sent := by rw [← ht]; rfl
  have hrem : t.remainingDownloadBytes = s.remainingDownloadBytes := by rw [← ht]; rfl
  have hact' : t.downloadActive = true := by rw [← ht]; exact hact
  rw [← hrem] at hlen
  have hpos : 0 < t.remainingDownloadBytes :=
    Nat.sub_pos_of_lt ((downloadActive_iff t).1 hact')
  unfold handleRxChunk
  rw [exec_read_bind, if_neg (by simp [hact']), exec_read_bind, if_pos hlen, exec_bind]
  -- the part up to the boundary
  obtain ⟨x, hkeep, hx, hover⟩ := exec_handleDownloadChunk_over (s := t) o
    (p.chunk.take t.remainingDownloadBytes)
    (by
      rw [← List.length_pos_iff, List.length_take]
      omega)
    (by
      rw [List.length_take]
      unfold FastbootUsbState.remainingDownloadBytes at hlen ⊢
      omega)
  rw [hkeep, if_neg (by simp), exec_read_bind, hover, if_neg (by simp)]
  -- and the rest
  obtain ⟨y, -, hy, -⟩ := exec_handleDownloadChunk_over
    (exec (handleDownloadChunk (p.chunk.take t.remainingDownloadBytes)) t o).2.2
    (p.chunk.drop t.remainingDownloadBytes)
    (by
      rw [← List.length_pos_iff, List.length_drop]
      omega)
    (Nat.le_trans ((downloadActive_eq_false_iff _).1 hover) (Nat.le_add_right _ _))
  exact ⟨x, y, by rw [hy, hx, hsent, List.append_assoc]; rfl⟩

/-- The same at the end of a data phase: the reply to the header and two more. -/
theorem receive_crossing {s : FastbootUsbState} {len n : Nat} {kind : DownloadKind} {p : Packet}
    (h : Header s len kind n p) (hs : Idle s) {qs : List Packet} {q : Packet}
    (hqs : (behind n p qs).length < len) (hq : len < (behind n p (qs ++ [q])).length) :
    ∃ x y, (receive s (p :: (qs ++ [q]))).2.sent =
      s.sent ++ [⟨dataHeader len, true⟩, x, y] := by
  have he := h.entered hs
  obtain ⟨reading, hst⟩ := receive_behind h hs hqs
  have hlast : receive s (p :: (qs ++ [q])) = serve (receive s (p :: qs)) q.iteration :=
    receive_concat s (p :: qs) q
  rw [hlast, hst]
  obtain ⟨accepted, hsent⟩ := he.sent
  obtain ⟨x, y, hxy⟩ := iterate_crossing { (announce s len kind p).2.1.at
    (phaseBehind s len kind n p qs) (behind n p qs).length with reading := reading } q
    he.notFinishing he.notTornDown
    ((downloadActive_iff _).2 (by simpa [FastbootUsbState.at, he.size] using hqs))
    (by
      simp only [FastbootUsbState.remainingDownloadBytes, FastbootUsbState.at, he.size]
      simp only [behind, payload_append, payload_cons, payload_nil, List.length_append,
        List.append_nil] at hq hqs ⊢
      omega)
  refine ⟨x, y, ?_⟩
  have hsent' : (announce s len kind p).2.1.sent = s.sent ++ [⟨dataHeader len, true⟩] := by
    rw [hsent, if_neg (by omega)]
  calc (serve (true, _) q.iteration).2.sent = _ := hxy
    _ = (announce s len kind p).2.1.sent ++ [x, y] := rfl
    _ = s.sent ++ [⟨dataHeader len, true⟩, x, y] := by rw [hsent', List.append_assoc]; rfl

/-! ## The data phase as a whole -/

/-- What a data phase of `len` bytes should come to, if `p` brings its header of `n` bytes and `ps`
the rest up to the boundary: the session gets the payload and nothing else, the count stays within
the announced length, there is one reply, and what follows the boundary goes to the command parser,
in the last packet and after it. -/
structure Framed (s : FastbootUsbState) (len n : Nat) (p : Packet) (ps : List Packet) : Prop where
  handed : (receive s (p :: ps)).2.handedBytes = s.handedBytes ++ (behind n p ps).take len
  counted : ∀ qs, qs <+: ps →
    (receive s (p :: qs)).2.downloadedSize ≤ (receive s (p :: qs)).2.downloadSize
  answered : ∃ reply, (receive s (p :: ps)).2.sent =
    s.sent ++ [⟨dataHeader len, true⟩, reply]
  commands : (receive s (p :: ps)).2.parsed = s.parsed ++ p.chunk ::
    if (behind n p ps).drop len = [] then [] else [(behind n p ps).drop len]
  next : ∀ q, (receive s (p :: (ps ++ [q]))).2.parsed =
    (receive s (p :: ps)).2.parsed ++ [q.chunk]

theorem parsed_receive_next {s t : FastbootUsbState} {ps : List Packet}
    (hst : receive s ps = (true, t)) (ht : Idle t) (q : Packet) :
    (receive s (ps ++ [q])).2.parsed = (receive s ps).2.parsed ++ [q.chunk] := by
  have hiter := iterate_completion t q (t := { t with reading := none })
    (by rw [exec_checkVerdict_idle t _ (.inl ht.inactive)]) ht.notFinishing ht.notTornDown
  rw [receive_concat, hst]
  change (iterate t q.iteration).2.parsed = t.parsed ++ [q.chunk]
  rw [hiter]
  exact parsed_handleRxChunk q.chunk _ ht.inactive

section Framed

variable {s : FastbootUsbState} {len n : Nat} {kind : DownloadKind} {p : Packet}
  {ps : List Packet} (hs : Idle s) (h : Header s len kind n p)

include hs h

theorem counted_before {qs : List Packet} (hqs : (behind n p qs).length < len) :
    (receive s (p :: qs)).2.downloadedSize ≤ (receive s (p :: qs)).2.downloadSize := by
  have he := h.entered hs
  obtain ⟨reading, hst⟩ := receive_behind h hs hqs
  rw [hst]
  simp only [FastbootUsbState.at, he.size]
  omega

/-- A data phase without payload is over with its command. -/
theorem receive_empty (hlen : len = 0) :
    receive s [p] = (true, (announce s len kind p).2.1) := by
  have he := h.entered hs
  refine receive_cons p [] ?_
  have hover : (announce s len kind p).2.1.downloadActive = false := by
    rw [downloadActive_eq_false_iff, he.size, hlen]
    exact Nat.zero_le _
  rw [iterate_header h hs, hover, if_neg (by simp)]

theorem framed_empty_iff (hlen : len = 0) : Framed s len n p [] ↔ behind n p [] = [] := by
  have he := h.entered hs
  have hst := receive_empty hs h hlen
  have hhanded : (announce s len kind p).2.1.handedBytes = s.handedBytes := by
    simp [FastbootUsbState.handedBytes, he.handed, he.retired]
  constructor
  · intro hf
    have hc := hf.commands
    rw [hst, he.parsed, List.append_cancel_left_eq] at hc
    by_contra hne
    rw [hlen, List.drop_zero, if_neg hne] at hc
    simp at hc
  · intro hb
    obtain ⟨accepted, hsent⟩ := he.sent
    rw [if_pos hlen] at hsent
    refine ⟨?_, ?_, ?_, ?_, ?_⟩
    · rw [hst, hhanded, hlen, List.take_zero, List.append_nil]
    · intro qs hqs
      rw [List.prefix_nil.1 hqs, hst]
      simp [he.received]
    · exact ⟨_, by rw [hst]; exact hsent⟩
    · rw [hst, he.parsed, hb]
      simp
    · intro q
      refine parsed_receive_next hst ⟨?_, he.notFinishing, he.unfailed, he.notTornDown⟩ q
      rw [downloadActive_eq_false_iff, he.size, hlen]
      exact Nat.zero_le _

/-- A data phase that no later packet crosses. -/
theorem framed_of_exact_iff (hlen : 0 < len) (htotal : len ≤ (behind n p ps).length)
    (hmin : ∀ qs q, ps = qs ++ [q] → (behind n p qs).length < len)
    (hexact : ps ≠ [] → (behind n p ps).length = len) :
    Framed s len n p ps ↔
      (behind n p ps).length = len ∧ (phaseBehind s len kind n p ps).failed = none := by
  have he := h.entered hs
  obtain ⟨accepted, hst⟩ := receive_boundary h hs hlen htotal hmin hexact
  have hhanded : (receive s (p :: ps)).2.handedBytes =
      (s.retired.map Session.handedBytes).flatten ++
        (phaseBehind s len kind n p ps).download.handedBytes := by
    rw [hst, handedBytes_conclude]
    simp [FastbootUsbState.handedBytes, FastbootUsbState.at, he.retired]
  have hheader : (announce s len kind p).2.1.sent = s.sent ++ [⟨dataHeader len, true⟩] := by
    obtain ⟨_, hsent⟩ := he.sent
    rw [hsent, if_neg (by omega)]
  constructor
  · intro hf
    have hb := hf.handed
    rw [hhanded, FastbootUsbState.handedBytes, List.append_assoc,
      List.append_cancel_left_eq] at hb
    cases hfail : (phaseBehind s len kind n p ps).failed with
    | some failReply =>
        -- too few bytes were handed on
        have hlt := phaseBehind_failed he hfail hlen hmin
        rw [hb, List.length_append, List.length_take] at hlt
        omega
    | none =>
        -- everything was handed on, so nothing may lie behind the boundary
        rw [phaseBehind_unfailed he hfail, List.append_cancel_left_eq] at hb
        have hlength := congrArg List.length hb
        rw [List.length_take] at hlength
        exact ⟨by omega, rfl⟩
  · rintro ⟨hlength, hfail⟩
    have hconc : ((announce s len kind p).2.1.at (phaseBehind s len kind n p ps)
        (behind n p ps).length).conclude accepted =
          ((announce s len kind p).2.1.at (phaseBehind s len kind n p ps) len).replied Reply.okay
            accepted := by
      simp [FastbootUsbState.conclude, FastbootUsbState.at, hfail, hlength]
    rw [hconc] at hst
    refine ⟨?_, ?_, ?_, ?_, ?_⟩
    · rw [hhanded, phaseBehind_unfailed he hfail, List.take_of_length_le (by omega)]
      simp [FastbootUsbState.handedBytes]
    · rintro qs ⟨rs, rfl⟩
      rcases List.eq_nil_or_concat' rs with rfl | ⟨rs', r, rfl⟩
      · rw [List.append_nil] at hst
        rw [hst]
        exact Nat.le_of_eq he.size.symm
      · refine counted_before hs h (Nat.lt_of_le_of_lt (behind_length_le qs rs') ?_)
        exact hmin (qs ++ rs') r (by simp)
    · rw [hst]
      exact ⟨⟨Reply.okay, accepted⟩, by
        simp [FastbootUsbState.replied, FastbootUsbState.at, hheader]⟩
    · rw [hst, List.drop_of_length_le (by omega), if_pos rfl]
      exact he.parsed
    · intro q
      refine parsed_receive_next hst ⟨?_, he.notFinishing, hfail, he.notTornDown⟩ q
      rw [downloadActive_eq_false_iff]
      exact Nat.le_of_eq he.size

/-- A data phase ends at its boundary exactly if the packet that brings its last byte ends there,
unless SWUpdate fails in it. -/
theorem framed_iff (htotal : len ≤ (behind n p ps).length)
    (hmin : ∀ qs q, ps = qs ++ [q] → (behind n p qs).length < len) :
    Framed s len n p ps ↔
      (behind n p ps).length = len ∧ (phaseBehind s len kind n p ps).failed = none := by
  have he := h.entered hs
  rcases Nat.eq_zero_or_pos len with hlen | hlen
  · -- the command has no payload, so it came alone
    have hps : ps = [] := by
      rcases List.eq_nil_or_concat' ps with hnil | ⟨qs, q, heq⟩
      · exact hnil
      · exact absurd (hmin qs q heq) (by omega)
    subst hps
    rw [framed_empty_iff hs h hlen, hlen, List.length_eq_zero_iff]
    constructor
    · intro hb
      have hdrop : p.chunk.drop n = [] := by simpa [behind] using hb
      refine ⟨hb, ?_⟩
      rw [phaseBehind, hdrop, run_nil, Phase.push_nil, ← hlen]
      exact he.unfailed
    · exact fun hb => hb.1
  · by_cases hcross : ps ≠ [] ∧ len < (behind n p ps).length
    · obtain ⟨hne, hlt⟩ := hcross
      rcases List.eq_nil_or_concat' ps with hnil | ⟨qs, q, rfl⟩
      · exact absurd hnil hne
      · -- a later packet that crosses the boundary is answered twice
        constructor
        · intro hf
          obtain ⟨x, y, hxy⟩ := receive_crossing h hs (hmin qs q rfl) hlt
          obtain ⟨z, hz⟩ := hf.answered
          rw [hxy, List.append_cancel_left_eq] at hz
          simp at hz
        · rintro ⟨heq, -⟩
          omega
    · refine framed_of_exact_iff hs h hlen htotal hmin ?_
      intro hne
      have hle : ¬ len < (behind n p ps).length := fun hlt => hcross ⟨hne, hlt⟩
      omega

end Framed

/-- A function that has just been enabled. -/
def connected : FastbootUsbState := FastbootUsbState.new SwupdateParams.default [] 512

/-- A `download` command for one byte, alone in its packet. -/
def oneByteHeader : Packet := ⟨bytes "download:00000001", quiet, quiet⟩

theorem idle_connected : Idle connected := ⟨rfl, rfl, rfl, rfl⟩

theorem header_oneByteHeader : Header connected 1 .plain 17 oneByteHeader :=
  ⟨by decide +kernel, by decide +kernel⟩

/-- The one byte arrives in a packet of its own. -/
theorem framed_iff_single : Framed connected 1 17 oneByteHeader [⟨[0xaa], quiet, quiet⟩] := by
  refine (framed_iff idle_connected header_oneByteHeader (by decide +kernel) ?_).2
    ⟨by decide +kernel, by decide +kernel⟩
  intro qs q hq
  have hnil : qs = [] := by
    have hlength := congrArg List.length hq
    simp only [List.length_append, List.length_cons, List.length_nil] at hlength
    exact List.length_eq_zero_iff.1 (by omega)
  rw [hnil]
  decide +kernel

/-- The one byte arrives together with the first byte of the next command, which is handed to the
session as well and answered with a second `OKAY`. -/
theorem crossing_packet_forwarded :
    Idle connected ∧ Header connected 1 .plain 17 oneByteHeader ∧
      (receive connected [oneByteHeader, ⟨[0xaa, 0x43], quiet, quiet⟩]).2.handedBytes =
        [0xaa, 0x43] ∧
      (receive connected [oneByteHeader, ⟨[0xaa, 0x43], quiet, quiet⟩]).2.sent =
        [⟨dataHeader 1, true⟩, ⟨Reply.okay, true⟩, ⟨Reply.okay, true⟩] ∧
      ¬ Framed connected 1 17 oneByteHeader [⟨[0xaa, 0x43], quiet, quiet⟩] := by
  refine ⟨idle_connected, header_oneByteHeader, by decide +kernel, by decide +kernel, ?_⟩
  intro hf
  have hhanded := hf.handed
  revert hhanded
  decide +kernel

end SummitUsbgadget.FastbootUsb
