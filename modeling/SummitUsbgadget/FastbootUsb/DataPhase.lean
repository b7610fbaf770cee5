import Mathlib.Data.List.Induction
import SummitUsbgadget.Lib.Machine
import SummitUsbgadget.FastbootUsb.Spec

/-!
# The data phase of fastboot-usb

Receive completions of a data phase, one after the other. `Phase` tells the story of a data phase
without the connected loop: the session, and the reply that is due once SWUpdate has failed; a
failed phase takes no byte any more. `iterate_packet` shows that an iteration of the loop follows
it, and `receive_phase` that a whole run does. `data_phase_framed` is the result for completions
that stay within the announced length.
-/

set_option autoImplicit false

namespace SummitUsbgadget.FastbootUsb

open SummitUsbgadget.Lib
open SummitUsbgadget.Lib.Program
open SummitUsbgadget.Swupdate
open SummitUsbgadget.Fastboot

/-- A receive completion: its bytes, and what the iteration that receives it is answered
otherwise. -/
structure Packet where
  chunk : Bytes
  top : Answers
  step : Answers

namespace Packet

/-- The answers before the select: the read is taken. -/
def primeAnswers (p : Packet) : Answers := fun n q =>
  match q with
  | .submit _ => .ok ()
  | q => p.top n q

/-- The answers to the transfer step: the first one is the completion. -/
def stepAnswers (p : Packet) : Answers := fun n q =>
  match n, q with
  | 0, .fetch => .ok p.chunk
  | 0, .fetchTimeout => .completed (.ok p.chunk)
  | n, q => p.step n q

def iteration (p : Packet) : Iteration where
  top := p.primeAnswers
  step := p.stepAnswers
  arm := p.top
  select := .transfer

theorem submitted (p : Packet) : p.iteration.top.All Query.Submitted := by
  intro n q
  cases q with
  | submit capacity => rfl
  | _ => trivial

theorem delivers (p : Packet) : Delivers p.chunk p.iteration.step := ⟨rfl, rfl⟩

end Packet

/-- The payload of the packets. -/
def payload (ps : List Packet) : Bytes := (ps.map Packet.chunk).flatten

@[simp] theorem payload_nil : payload [] = [] := rfl

@[simp] theorem payload_cons (p : Packet) (ps : List Packet) :
    payload (p :: ps) = p.chunk ++ payload ps := by
  simp [payload]

@[simp] theorem payload_append (ps qs : List Packet) :
    payload (ps ++ qs) = payload ps ++ payload qs := by
  simp [payload]

/-- The connected loop after the packets. -/
def receive (s : FastbootUsbState) (ps : List Packet) : Bool × FastbootUsbState :=
  run serve (true, s) (ps.map Packet.iteration)

theorem receive_concat (s : FastbootUsbState) (ps : List Packet) (p : Packet) :
    receive s (ps ++ [p]) = serve (receive s ps) p.iteration := by
  simp [receive]

/-! ## Phases -/

namespace Phase

/-- One packet: the look at the verdict, then the chunk. -/
def take (ph : Phase) (p : Packet) : Phase :=
  (ph.watch (p.top 0 .look)).push (p.step 1 .look) (p.step 2 .look) (p.step 3 .slot) p.chunk

theorem watch_of_failed {ph : Phase} {failReply : Bytes} (h : ph.failed = some failReply)
    (v : View) : ph.watch v = ph := by
  simp [watch, h]

/-- A look that shows no failure keeps the phase, or the session has seen the verdict. -/
theorem watch_of_unfailing {ph : Phase} {v : View} (h : (ph.download.tryFinished v).1 = none ∨
    (ph.download.tryFinished v).1 = some (.ok ())) :
    ph.watch v = ph ∨ ph.watch v = ⟨(ph.download.tryFinished v).2, none⟩ := by
  unfold watch
  split
  · generalize ph.download.tryFinished v = r at h
    obtain ⟨verdict, d⟩ := r
    dsimp only at h
    rcases h with rfl | rfl
    · exact Or.inr rfl
    · exact Or.inr rfl
  · exact Or.inl rfl

theorem push_of_failed {ph : Phase} {failReply : Bytes} (h : ph.failed = some failReply)
    (v w : View) (accepted : Bool) (chunk : Bytes) : ph.push v w accepted chunk = ph := by
  simp [push, h]

theorem push_nil (v w : View) (accepted : Bool) (ph : Phase) : ph.push v w accepted [] = ph := by
  unfold push
  cases ph.failed <;> rfl

/-- After a failure neither the session nor the reply changes. -/
theorem take_of_failed {ph : Phase} {failReply : Bytes} (h : ph.failed = some failReply)
    (p : Packet) : ph.take p = ph := by
  unfold take
  rw [watch_of_failed h, push_of_failed h]

theorem run_of_failed {ph : Phase} {failReply : Bytes} (h : ph.failed = some failReply)
    (ps : List Packet) : run take ph ps = ph := by
  induction ps with
  | nil => rfl
  | cons p ps ih => rw [run_cons, take_of_failed h, ih]

theorem watch_handed (v : View) (ph : Phase) :
    (ph.watch v).download.handedBytes = ph.download.handedBytes := by
  obtain ⟨-, -, hhanded⟩ := Session.pollStatus_facts v ph.download
  unfold watch Session.tryFinished
  split
  · generalize ph.download.pollStatus v = r at hhanded
    obtain ⟨verdict, d⟩ := r
    rcases verdict with - | (err | u)
    · exact hhanded
    · simpa using hhanded
    · exact hhanded
  · rfl

/-- A phase that has not failed has handed on every chunk it took. -/
theorem push_cases (v w : View) (accepted : Bool) (chunk : Bytes) (ph : Phase) :
    (∃ failReply, (ph.push v w accepted chunk).failed = some failReply ∧
        (ph.push v w accepted chunk).download.handedBytes = ph.download.handedBytes) ∨
      ((ph.push v w accepted chunk).failed = none ∧ ph.failed = none ∧
        (ph.push v w accepted chunk).download.handedBytes = ph.download.handedBytes ++ chunk) := by
  cases hf : ph.failed with
  | some failReply =>
      rw [push_of_failed hf]
      exact Or.inl ⟨failReply, hf, rfl⟩
  | none =>
      by_cases hne : chunk = []
      · rw [hne, push_nil]
        exact Or.inr ⟨hf, rfl, by simp⟩
      · unfold push
        simp only [hf, hne, if_false]
        rcases pushBlock_cases v w accepted chunk ph.download with ⟨-, -, heq⟩ | ⟨q, hq, heq⟩
        · rw [heq]
          exact Or.inl ⟨_, rfl, Session.handedBytes_abort _⟩
        · rw [heq]
          refine Or.inr ⟨rfl, trivial, ?_⟩
          rw [Session.offer_handed hq, Session.handedBytes_engaged]

theorem watch_unfailed {v : View} {ph : Phase} (h : (ph.watch v).failed = none) :
    ph.failed = none := by
  cases hf : ph.failed with
  | none => rfl
  | some failReply =>
      rw [watch_of_failed hf, hf] at h
      cases h

/-- The bytes handed on by a phase that has not failed. -/
theorem take_unfailed {ph : Phase} {p : Packet} (h : (ph.take p).failed = none) :
    ph.failed = none ∧ (ph.take p).download.handedBytes = ph.download.handedBytes ++ p.chunk := by
  rcases push_cases (p.step 1 .look) (p.step 2 .look) (p.step 3 .slot) p.chunk
    (ph.watch (p.top 0 .look)) with ⟨failReply, hf, -⟩ | ⟨-, hf, hhanded⟩
  · rw [take, hf] at h
    cases h
  · rw [watch_handed] at hhanded
    exact ⟨watch_unfailed hf, hhanded⟩

/-- A packet that meets or makes a failure is not handed on. -/
theorem take_failed {ph : Phase} {p : Packet} {failReply : Bytes}
    (h : (ph.take p).failed = some failReply) :
    (ph.take p).download.handedBytes = ph.download.handedBytes := by
  rcases push_cases (p.step 1 .look) (p.step 2 .look) (p.step 3 .slot) p.chunk
    (ph.watch (p.top 0 .look)) with ⟨-, -, hhanded⟩ | ⟨hf, -, -⟩
  · rw [watch_handed] at hhanded
    exact hhanded
  · rw [take, hf] at h
    cases h

theorem run_handed_le (ph : Phase) (ps : List Packet) :
    (run take ph ps).download.handedBytes.length ≤
      ph.download.handedBytes.length + (payload ps).length := by
  induction ps generalizing ph with
  | nil => simp
  | cons p ps ih =>
      have hstep : (ph.take p).download.handedBytes.length ≤
          ph.download.handedBytes.length + p.chunk.length := by
        cases hf : (ph.take p).failed with
        | none => simp [(take_unfailed hf).2]
        | some failReply => simp [take_failed hf]
      have hrest := ih (ph.take p)
      simp only [run_cons, payload_cons, List.length_append]
      omega

theorem unfailed_of_run {ph : Phase} {ps : List Packet} (h : (run take ph ps).failed = none) :
    ph.failed = none := by
  cases hf : ph.failed with
  | none => rfl
  | some failReply =>
      rw [run_of_failed hf, hf] at h
      cases h

theorem run_unfailed {ph : Phase} {ps : List Packet} (h : (run take ph ps).failed = none) :
    (run take ph ps).download.handedBytes = ph.download.handedBytes ++ payload ps := by
  -- from the last packet backwards: a phase that has not failed had not failed before it
  induction ps using List.reverseRecOn with
  | nil => simp
  | append_singleton ps p ih =>
      rw [run_concat] at h ⊢
      obtain ⟨hf, hhanded⟩ := take_unfailed h
      rw [hhanded, ih hf]
      simp

end Phase

/-! ## The connected loop follows the phase -/

section Loop

variable (s : FastbootUsbState)

theorem exec_handleRxChunk_within {chunk : Bytes} (o : Answers) (hact : s.downloadActive = true)
    (hlen : chunk.length ≤ s.remainingDownloadBytes) :
    exec (handleRxChunk chunk) s o = exec (handleDownloadChunk chunk) s o := by
  unfold handleRxChunk
  rw [exec_read_bind, if_neg (by simp [hact]), exec_read_bind, if_neg (by omega)]

/-- The state of a data phase that has come to `ph` with `n` bytes consumed. -/
def FastbootUsbState.at (ph : Phase) (n : Nat) (s : FastbootUsbState) : FastbootUsbState :=
  { s with
    reading := none
    download := ph.download
    pendingFailReply := ph.failed
    downloadedSize := n }

/-- An iteration that receives a completion: the look at the verdict, then the chunk. -/
theorem iterate_completion (p : Packet) {t : FastbootUsbState}
    (ht : { (exec checkVerdict s p.iteration.top).2.1 with reading := none } = t)
    (hfin : t.finishPending = false) (htorn : t.gadgetTornDown = false) :
    iterate s p.iteration =
      ((exec (handleRxChunk p.chunk) t p.iteration.step.rest).1,
        (exec (handleRxChunk p.chunk) t p.iteration.step.rest).2.1) := by
  subst ht
  -- the read is taken, so the select has a completion to wait for
  rcases exec_prime s p.submitted rfl with ⟨-, hprime, hstate⟩ | ⟨hclosed, -, -⟩
  · have hstep := exec_transferStep (exec prime s p.iteration.top).2.1 p.delivers
      (by rw [hstate]; exact hfin) (by rw [hstate]; rfl)
    have hready : (exec prime s p.iteration.top).2.1.ready = true := by
      rw [hstate]
      rfl
    unfold iterate
    dsimp only
    rw [hprime]
    change (if (exec prime s p.iteration.top).2.1.ready = true then _ else _) = _
    rw [if_pos hready, hstep, hstate]
    rfl
  · exact absurd (hclosed.symm.trans htorn) (by simp)

/-- An iteration that receives a chunk of the data phase moves the phase. -/
theorem iterate_packet (p : Packet) (hfin : s.finishPending = false)
    (htorn : s.gadgetTornDown = false) (hact : s.downloadActive = true)
    (hlen : p.chunk.length ≤ s.remainingDownloadBytes) {t : FastbootUsbState}
    (ht : t = s.at (s.phase.take p) (s.downloadedSize + p.chunk.length)) :
    ∃ accepted, iterate s p.iteration =
      (true, if t.downloadActive then t else t.conclude accepted) := by
  have hiter := iterate_completion s p
    (t := s.at (s.phase.watch (p.top 0 .look)) s.downloadedSize)
    (by rw [exec_checkVerdict_active s p.iteration.top hfin hact]; rfl) hfin htorn
  rw [exec_handleRxChunk_within (s.at (s.phase.watch (p.top 0 .look)) s.downloadedSize) _ hact
    hlen] at hiter
  by_cases hne : p.chunk = []
  · -- a zero-length packet: only the look at the verdict counts
    have hs : t = s.at (s.phase.watch (p.top 0 .look)) s.downloadedSize := by
      rw [ht, Phase.take, hne, Phase.push_nil]
      rfl
    refine ⟨true, ?_⟩
    rw [if_pos (by rw [hs]; exact hact), hiter, hne, hs]
    rfl
  · obtain ⟨accepted, hkeep, hst⟩ := exec_handleDownloadChunk
      (s.at (s.phase.watch (p.top 0 .look)) s.downloadedSize) p.iteration.step.rest hne rfl
    refine ⟨accepted, ?_⟩
    rw [hiter, hkeep, hst, ht]
    rfl

end Loop

/-- A data phase of `len` bytes is under way. -/
structure InDataPhase (len : Nat) (s : FastbootUsbState) : Prop where
  size : s.downloadSize = len
  notFinishing : s.finishPending = false
  notTornDown : s.gadgetTornDown = false

/-- A data phase of `len` bytes has been announced and none of them has arrived. -/
structure Announced (len : Nat) (s : FastbootUsbState) : Prop extends InDataPhase len s where
  received : s.downloadedSize = 0
  unfailed : s.pendingFailReply = none

/-- The phase of a data phase that starts in `s`, after the packets. -/
def phaseAfter (s : FastbootUsbState) (ps : List Packet) : Phase := run Phase.take s.phase ps

/-- The session fields are those of a new `FastbootUsbState`. -/
structure Fresh (s : FastbootUsbState) : Prop where
  download : s.download = Session.new s.downloadParams recvBufferSize
  fastbootUsbSessionOpen : s.fastbootUsbSessionOpen = false
  downloadSize : s.downloadSize = 0
  downloadedSize : s.downloadedSize = 0
  fastbootPendingFlash : s.fastbootPendingFlash = false
  finishPending : s.finishPending = false
  pendingFailReply : s.pendingFailReply = none

theorem fresh_fresh (s : FastbootUsbState) : Fresh s.fresh :=
  ⟨rfl, rfl, rfl, rfl, rfl, rfl, rfl⟩

section Run

variable {len : Nat} {s : FastbootUsbState}

/-- One more packet within the announced length. -/
theorem receive_next (h : InDataPhase len s) {ps : List Packet} {p : Packet}
    {reading : Option Nat}
    (hst : receive s ps = (true, { s.at (phaseAfter s ps)
      (s.downloadedSize + (payload ps).length) with reading := reading }))
    (hps : s.downloadedSize + (payload ps).length < len)
    (hp : s.downloadedSize + (payload (ps ++ [p])).length ≤ len) {t : FastbootUsbState}
    (ht : t = s.at (phaseAfter s (ps ++ [p]))
      (s.downloadedSize + (payload (ps ++ [p])).length)) :
    ∃ accepted, receive s (ps ++ [p]) =
      (true, if t.downloadActive then t else t.conclude accepted) := by
  simp only [payload_append, payload_cons, payload_nil, List.append_nil, List.length_append]
    at hp ht
  rw [receive_concat, hst]
  refine iterate_packet { s.at (phaseAfter s ps) (s.downloadedSize + (payload ps).length) with
    reading := reading } p h.notFinishing h.notTornDown ?_ ?_ ?_
  · simpa [FastbootUsbState.downloadActive, FastbootUsbState.at, h.size] using hps
  · simp only [FastbootUsbState.remainingDownloadBytes, FastbootUsbState.at, h.size]
    omega
  · rw [ht, ← Nat.add_assoc]
    simp [phaseAfter, FastbootUsbState.at, FastbootUsbState.phase]

/-- Before the boundary the loop is where the phase is. -/
theorem receive_phase (h : InDataPhase len s) (ps : List Packet)
    (hlen : s.downloadedSize + (payload ps).length < len) :
    ∃ reading, receive s ps = (true, { s.at (phaseAfter s ps)
      (s.downloadedSize + (payload ps).length) with reading := reading }) := by
  induction ps using List.reverseRecOn with
  | nil => exact ⟨s.reading, rfl⟩
  | append_singleton ps p ih =>
      have hps : s.downloadedSize + (payload ps).length < len := by
        simp only [payload_append, List.length_append] at hlen
        omega
      obtain ⟨reading, hst⟩ := ih hps
      obtain ⟨accepted, hnext⟩ := receive_next h hst hps (Nat.le_of_lt hlen) rfl
      rw [if_pos (by simpa [FastbootUsbState.downloadActive, FastbootUsbState.at, h.size]
        using hlen)] at hnext
      exact ⟨none, hnext⟩

/-- At the boundary the data phase is concluded. -/
theorem receive_end (h : InDataPhase len s) (ps : List Packet) (p : Packet)
    (hps : s.downloadedSize + (payload ps).length < len)
    (hp : s.downloadedSize + (payload (ps ++ [p])).length = len) :
    ∃ accepted, receive s (ps ++ [p]) =
      (true, (s.at (phaseAfter s (ps ++ [p])) len).conclude accepted) := by
  obtain ⟨reading, hst⟩ := receive_phase h ps hps
  obtain ⟨accepted, hnext⟩ := receive_next h hst hps (Nat.le_of_eq hp) rfl
  rw [hp, if_neg (by simp [FastbootUsbState.downloadActive, FastbootUsbState.at, h.size])] at hnext
  exact ⟨accepted, hnext⟩

/-- A data phase without a failure is acknowledged at the boundary. -/
theorem receive_acknowledged (h : Announced len s) {ps : List Packet} {p : Packet}
    (hps : (payload ps).length < len) (hp : (payload (ps ++ [p])).length = len)
    (hf : (phaseAfter s (ps ++ [p])).failed = none) :
    ∃ accepted, receive s (ps ++ [p]) =
      (true, (s.at (phaseAfter s (ps ++ [p])) len).replied Reply.okay accepted) := by
  have hzero : ∀ n, s.downloadedSize + n = n := by
    intro n
    rw [h.received, Nat.zero_add]
  obtain ⟨accepted, hst⟩ := receive_end h.toInDataPhase ps p (by rw [hzero]; exact hps)
    (by rw [hzero]; exact hp)
  refine ⟨accepted, ?_⟩
  rw [hst]
  simp [FastbootUsbState.conclude, FastbootUsbState.at, hf]

/-- A data phase whose completions stay within the announced length. Until the last byte has
arrived every byte is counted, nothing is answered and nothing goes to the command parser; the
phase tells what the session has been handed. With the last byte the one reply is sent: `OKAY`, or
the failure chosen when SWUpdate failed, and then the session fields are fresh. From the failure on
the session is not touched. -/
theorem data_phase_framed (h : Announced len s) (ps : List Packet) (p : Packet)
    (hps : (payload ps).length < len) (hp : (payload (ps ++ [p])).length = len) :
    (∀ qs, qs <+: ps → ∃ t, receive s qs = (true, t) ∧ t.phase = phaseAfter s qs ∧
        t.downloadSize = len ∧ t.downloadedSize = (payload qs).length ∧ t.sent = s.sent ∧
        t.parsed = s.parsed ∧ t.retired = s.retired) ∧
      (∃ t accepted, receive s (ps ++ [p]) = (true, t) ∧ t.parsed = s.parsed ∧
        match (phaseAfter s (ps ++ [p])).failed with
        | none =>
            t.sent = s.sent ++ [⟨Reply.okay, accepted⟩] ∧ t.downloadSize = len ∧
              t.downloadedSize = len ∧ t.retired = s.retired ∧
              t.download.handedBytes = s.download.handedBytes ++ payload (ps ++ [p])
        | some failReply =>
            t.sent = s.sent ++ [⟨failReply, accepted⟩] ∧ Fresh t ∧
              t.retired = s.retired ++ [(phaseAfter s (ps ++ [p])).download]) ∧
      (∀ qs, (phaseAfter s qs).failed = none →
        (phaseAfter s qs).download.handedBytes = s.download.handedBytes ++ payload qs) ∧
      ∀ qs rs failReply, (phaseAfter s qs).failed = some failReply →
        phaseAfter s (qs ++ rs) = phaseAfter s qs := by
  have hzero : ∀ n, s.downloadedSize + n = n := by
    intro n
    rw [h.received, Nat.zero_add]
  refine ⟨?_, ?_, ?_, ?_⟩
  · rintro qs ⟨rs, rfl⟩
    have hqs : (payload qs).length < len := by
      simp only [payload_append, List.length_append] at hps
      omega
    obtain ⟨reading, hst⟩ := receive_phase h.toInDataPhase qs (by rw [hzero]; exact hqs)
    exact ⟨_, hst, rfl, h.size, hzero _, rfl, rfl, rfl⟩
  · -- the boundary: what the phase says about a failure decides the reply
    obtain ⟨accepted, hst⟩ := receive_end h.toInDataPhase ps p (by rw [hzero]; exact hps)
      (by rw [hzero]; exact hp)
    refine ⟨_, accepted, hst, ?_⟩
    cases hf : (phaseAfter s (ps ++ [p])).failed with
    | none =>
        have hconc : (s.at (phaseAfter s (ps ++ [p])) len).conclude accepted =
            (s.at (phaseAfter s (ps ++ [p])) len).replied Reply.okay accepted := by
          simp [FastbootUsbState.conclude, FastbootUsbState.at, hf]
        rw [hconc]
        exact ⟨rfl, rfl, h.size, rfl, rfl, Phase.run_unfailed hf⟩
    | some failReply =>
        have hconc : (s.at (phaseAfter s (ps ++ [p])) len).conclude accepted =
            ((s.at (phaseAfter s (ps ++ [p])) len).replied failReply accepted).fresh := by
          simp [FastbootUsbState.conclude, FastbootUsbState.at, hf]
        rw [hconc]
        exact ⟨rfl, rfl, fresh_fresh _, rfl⟩
  · intro qs hf
    exact Phase.run_unfailed hf
  · intro qs rs failReply hf
    unfold phaseAfter
    rw [run_append]
    exact Phase.run_of_failed hf rs

end Run

/-- Surroundings in which nothing goes wrong and SWUpdate is still at work. -/
def quiet : Answers := fun _ q =>
  match q with
  | .look => ⟨false, ⟨"MMC", "a"⟩, .room, none⟩
  | .slot => true
  | .join => .done (.ok ())
  | .reap => ()
  | .fetch => .ok []
  | .fetchTimeout => .stalled
  | .reply _ => .ok ()
  | .buffer => recvBufferSize
  | .submit _ => .ok ()
  | .packetSize => some 512
  | .system => ⟨[], [], ⟨"MMC", "a"⟩⟩

/-- The same, but SWUpdate has failed. -/
def failing : Answers := fun n q =>
  match q with
  | .look => { quiet 0 .look with task := some (.done (.error (IoError.other "install failed"))) }
  | q => quiet n q

/-- A data phase of `len` bytes on an open session. -/
def announcing (len : Nat) : FastbootUsbState :=
  { FastbootUsbState.new SwupdateParams.default [] 512 with
    downloadSize := len
    download := (Session.new SwupdateParams.default recvBufferSize).spawn (quiet 0 .look) }

/-- SWUpdate fails after the first of two bytes. -/
theorem data_phase_framed_failure :
    Announced 2 (announcing 2) ∧ ∃ t accepted,
      receive (announcing 2) [⟨[1], quiet, quiet⟩, ⟨[2], failing, quiet⟩] = (true, t) ∧
        t.parsed = [] ∧ t.sent = [⟨Reply.failEpipe, accepted⟩] ∧ Fresh t := by
  have h : Announced 2 (announcing 2) := ⟨⟨rfl, rfl, rfl⟩, rfl, rfl⟩
  obtain ⟨-, ⟨t, accepted, hst, hparsed, hend⟩, -, -⟩ :=
    data_phase_framed h [⟨[1], quiet, quiet⟩] ⟨[2], failing, quiet⟩ (by decide) (by decide)
  exact ⟨h, t, accepted, hst, hparsed, hend.1, hend.2.1⟩

end SummitUsbgadget.FastbootUsb
