import SummitUsbgadget.DfuFunction.Isolation

/-!
# What becomes of the received bytes

The host takes an answer `OK` in `dfuDNLOAD-IDLE` to mean that its blocks are on their way. A
`Ledger` keeps the books on a transfer: which bytes came in data blocks, which chunks were lost, and
which suffixes manifestation left out. It does not look at what the handler returns: a chunk is lost
when a session has to be opened for it while a restart is pending (`Dfu.Loses`). A transfer ends
when its session is replaced, or with a `CLRSTATUS`.

What the handler has passed on or still holds (`Dfu.kept`) is what was there when the transfer began
and what came since, short of exactly the losses (`Booked`). The books balance after every event, so
a block that was lost is missing from what the host is told is accepted (`dnload_idle_honest_iff`).
-/

set_option autoImplicit false

namespace SummitUsbgadget.DfuFunction

open SummitUsbgadget.Lib
open SummitUsbgadget.Swupdate

/-- What the handler handed to its session, holds for it, and keeps back as the tail. -/
def Dfu.kept (d : Dfu) : Bytes := d.sink.handedBytes ++ (d.pendingBytes ++ d.downloadTail)

/-- The part of the tail and a block that goes out as a chunk. -/
def Dfu.chunkOf (d : Dfu) (block : Bytes) : Bytes :=
  (d.downloadTail ++ block).take ((d.downloadTail ++ block).length - dfuSuffixLen)

/-- What a submission of `chunk` offers to the session. While a block is held that is nothing: the
transfer is aborted. -/
def Dfu.submitted (chunk : Bytes) (d : Dfu) : Bytes := if d.pending = none then chunk else []

/-- There are bytes to pass on and no session that takes them, and a restart is pending. -/
def Dfu.Loses (v : View) (chunk : Bytes) (d : Dfu) : Prop :=
  chunk ≠ [] ∧ d.sink.Vacant ∧ v.restartPending = true

instance (v : View) (chunk : Bytes) (d : Dfu) : Decidable (d.Loses v chunk) := by
  unfold Dfu.Loses Session.Vacant
  infer_instance

/-- The books on a transfer: what was kept when it began, the bytes of the data blocks received
since, the chunks that no session could be opened for, and the suffixes that were left out. -/
structure Ledger where
  base : Bytes
  received : Bytes
  failed : List Bytes
  stripped : Bytes

namespace Ledger

/-- A transfer that begins with the handler `d`. -/
def start (d : Dfu) : Ledger := ⟨d.kept, [], [], []⟩

def lose (chunk : Bytes) (l : Ledger) : Ledger := { l with failed := l.failed ++ [chunk] }

def receive (block : Bytes) (l : Ledger) : Ledger := { l with received := l.received ++ block }

def strip (suffix : Bytes) (l : Ledger) : Ledger := { l with stripped := l.stripped ++ suffix }

/-- From `d` to `d'`; a session that was replaced ends the transfer. -/
def pass (d d' : Dfu) (l : Ledger) : Ledger :=
  if d'.retired.length = d.retired.length then l else start d'

/-- From `d` to `d'` by an operation that offers `chunk` to the session of `d`. -/
def offer (v : View) (chunk : Bytes) (d d' : Dfu) (l : Ledger) : Ledger :=
  if d.Loses v chunk then l.lose chunk else l.pass d d'

/-- What a request does to the polled handler `d`, which it leaves as `d'`. -/
def dispatch (m : Moments) (d d' : Dfu) (l : Ledger) : Event → Ledger
  | .setupHostToDevice req (.ok data) =>
      if req.announcesBlock then
        if d.isFinishing = true then l
        else
          (l.receive (data.take req.length.toNat)).offer m.submit
            (d.submitted (d.chunkOf (data.take req.length.toNat))) d d'
      else if req.request = Request.dnload then
        if d.downloadTail = [] ∨ hasValidDfuSuffix d.downloadCrc d.downloadTail = true then
          (l.strip d.downloadTail).offer m.submit d.pendingBytes d d'
        else l.offer m.submit (d.submitted d.downloadTail) d d'
      else if req.request = Request.clrStatus then start d'
      else l.pass d d'
  | _ => l.pass d d'

/-- What an event does to the handler `d`, which it leaves as `d'`. -/
def next (m : Moments) (d d' : Dfu) (l : Ledger) (e : Event) : Ledger :=
  if e.polls then
    -- the event goes no further when the poll before it loses the held block
    if d.Loses m.push d.pendingBytes then l.lose d.pendingBytes
    else (l.pass d (d.poll m).2).dispatch m (d.poll m).2 d' e
  else l.pass d d'

end Ledger

/-- The handler and the books on its transfer. -/
structure Audit where
  device : Dfu
  ledger : Ledger

def Audit.step (a : Audit) (i : Input) : Audit :=
  ⟨a.device.step i, a.ledger.next i.moments a.device (a.device.step i) i.event⟩

def Audit.new (config : DfuConfig) : Audit := ⟨Dfu.new config, Ledger.start (Dfu.new config)⟩

/-- The books do not change what the handler does. -/
theorem device_run (a : Audit) (inputs : List Input) :
    (run Audit.step a inputs).device = run Dfu.step a.device inputs := by
  induction inputs generalizing a with
  | nil => rfl
  | cons i inputs ih => exact ih (a.step i)

/-! ## Books that balance -/

/-- What is kept is what there was and what was received, less what was lost or left out. -/
structure Booked (l : Ledger) (d : Dfu) : Prop where
  count : d.kept.length + (l.failed.flatten.length + l.stripped.length) =
    l.base.length + l.received.length
  order : l.failed = [] → l.stripped = [] → d.kept = l.base ++ l.received
  failed : ∀ chunk ∈ l.failed, chunk ≠ []

namespace Booked

variable {l : Ledger} {d d' : Dfu}

theorem start (d : Dfu) : Booked (Ledger.start d) d where
  count := rfl
  order := fun _ _ => (List.append_nil _).symm
  failed := nofun

theorem of_kept (h : Booked l d) (hk : d'.kept = d.kept) : Booked l d' where
  count := by
    rw [hk]
    exact h.count
  order := fun hf hs => hk.trans (h.order hf hs)
  failed := h.failed

/-- Either the books are still those of the transfer, or a new one begins. -/
theorem pass (h : d'.retired.length = d.retired.length → Booked l d') :
    Booked (l.pass d d') d' := by
  unfold Ledger.pass
  by_cases hr : d'.retired.length = d.retired.length
  · rw [if_pos hr]
    exact h hr
  · rw [if_neg hr]
    exact start d'

theorem receive (h : Booked l d) {block : Bytes} (hk : d'.kept = d.kept ++ block) :
    Booked (l.receive block) d' := by
  constructor
  · have hcount := h.count
    rw [hk]
    simp only [Ledger.receive, List.length_append]
    omega
  · intro hf hs
    rw [hk, h.order hf hs, List.append_assoc]
    rfl
  · exact h.failed

theorem lose (h : Booked l d) {chunk front back : Bytes} (hne : chunk ≠ [])
    (hk : d.kept = front ++ (chunk ++ back)) (hk' : d'.kept = front ++ back) :
    Booked (l.lose chunk) d' := by
  constructor
  · have hcount := h.count
    rw [hk] at hcount
    rw [hk']
    simp only [Ledger.lose, List.length_append, List.flatten_append, List.flatten_singleton]
      at hcount ⊢
    omega
  · intro hf
    exact absurd hf (List.concat_ne_nil chunk l.failed)
  · intro c hc
    rcases List.mem_append.1 hc with hc | hc
    · exact h.failed c hc
    · rw [List.mem_singleton.1 hc]
      exact hne

theorem strip (h : Booked l d) {suffix : Bytes} (hk : d.kept = d'.kept ++ suffix) :
    Booked (l.strip suffix) d' := by
  constructor
  · have hcount := h.count
    rw [hk] at hcount
    simp only [Ledger.strip, List.length_append] at hcount ⊢
    omega
  · intro hf hs
    obtain ⟨hnone, rfl⟩ := List.append_eq_nil_iff.1 hs
    rw [List.append_nil] at hk
    exact hk.symm.trans (h.order hf hnone)
  · exact h.failed

end Booked

/-! ## The parts of a request -/

/-- A held block has bytes, and `dfuDNLOAD-IDLE` holds none. -/
structure Steady (d : Dfu) : Prop where
  pending : ∀ chunk, d.pending = some chunk → chunk ≠ []
  idle : d.state = .dnloadIdle → d.pending = none

namespace Dfu

theorem kept_eofIfManifesting (d : Dfu) : d.eofIfManifesting.kept = d.kept := by
  rcases eofIfManifesting_eq d with h | ⟨-, h⟩
  · rw [h]
  · rw [h, kept, kept]
    exact congrArg (· ++ _) (Session.handedBytes_eof d.sink)

theorem trySend_of_loses {v : View} {chunk : Bytes} {d : Dfu} (h : d.Loses v chunk) (item : Bytes) :
    d.sink.trySend v item = (.error restartPendingError, d.sink) := by
  unfold Session.trySend
  rw [Session.ensureOpen_of_vacant h.2.1, if_pos h.2.2]

/-- A push that loses the held block fails. -/
theorem pushPending_of_loses {v : View} {d : Dfu} (h : d.Loses v d.pendingBytes) :
    d.pushPending v = (.error restartPendingError, { d with pending := none }) := by
  cases hp : d.pending with
  | none => exact absurd (pendingBytes_of_none hp) h.1
  | some chunk =>
      unfold pushPending
      rw [hp]
      simp only
      rw [trySend_of_loses h]

/-- Any other push keeps everything. -/
theorem pushPending_kept {v : View} {d : Dfu} (hs : ∀ chunk, d.pending = some chunk → chunk ≠ [])
    (h : ¬ d.Loses v d.pendingBytes) :
    (∃ held, (d.pushPending v).1 = .ok held) ∧ (d.pushPending v).2.kept = d.kept := by
  cases hp : d.pending with
  | none =>
      rw [pushPending_of_none v hp]
      exact ⟨⟨false, rfl⟩, kept_eofIfManifesting d⟩
  | some chunk =>
      have hbytes : d.kept = d.sink.handedBytes ++ (chunk ++ d.downloadTail) := by
        rw [kept, pendingBytes_of_some hp]
      rcases pushPending_of_some v hp with
        ⟨err, sink, hs', he⟩ | ⟨c, sink, hs', he⟩ | ⟨feed, sink, hs', htaken, he⟩
      · -- an offer never fails, so the block would be lost
        rcases Session.trySend_eq_offer v chunk d.sink with ⟨hvac, hr, -⟩ | hoffer
        · refine absurd ⟨?_, hvac, hr⟩ h
          rw [pendingBytes_of_some hp]
          exact hs chunk hp
        · rw [hs'] at hoffer
          cases hoffer
      · -- the block comes back as it is
        obtain ⟨rfl, hh⟩ := Session.trySend_handed_full hs'
        refine ⟨⟨true, by rw [he]⟩, ?_⟩
        rw [he, hbytes]
        exact congrArg (· ++ (c ++ d.downloadTail)) hh
      · have hh := Session.trySend_handed_taken hs' htaken
        refine ⟨⟨false, by rw [he]⟩, ?_⟩
        rw [he, kept_eofIfManifesting, hbytes, ← List.append_assoc]
        exact congrArg (· ++ d.downloadTail) hh

/-- A look at the verdict keeps everything, unless it replaces the session. -/
theorem observe_kept (v : View) {d : Dfu}
    (h : (d.observe v).retired.length = d.retired.length) : (d.observe v).kept = d.kept := by
  rcases observe_cases v d with ⟨-, ho⟩ | ⟨-, -, ho⟩ | ⟨-, -, ho⟩ | ⟨-, -, ho⟩
  · rw [ho]
  · rw [ho] at h
    simp [failed, replaceSink, fault] at h
  · rw [ho] at h
    simp [manifested, replaceSink] at h
  · rw [ho, kept, kept]
    exact congrArg (· ++ _) (Session.pollStatus_facts v d.sink).2.2

end Dfu

namespace Booked

variable {l : Ledger} {d d' : Dfu}

theorem pushPending_lost (h : Booked l d) {v : View} (hl : d.Loses v d.pendingBytes) :
    Booked (l.lose d.pendingBytes) (d.pushPending v).2 := by
  rw [Dfu.pushPending_of_loses hl]
  exact h.lose hl.1 rfl rfl

/-- The push, on behalf of an operation that began with `d₀`. -/
theorem pushPending (h : Booked l d) (hs : ∀ chunk, d.pending = some chunk → chunk ≠ []) (v : View)
    {d₀ : Dfu} (hsink : d₀.sink = d.sink) :
    Booked (l.offer v d.pendingBytes d₀ (d.pushPending v).2) (d.pushPending v).2 := by
  have hloses : d₀.Loses v d.pendingBytes ↔ d.Loses v d.pendingBytes := by
    unfold Dfu.Loses
    rw [hsink]
  unfold Ledger.offer
  by_cases hl : d.Loses v d.pendingBytes
  · rw [if_pos (hloses.2 hl)]
    exact h.pushPending_lost hl
  · rw [if_neg fun hl₀ => hl (hloses.1 hl₀)]
    exact pass fun _ => h.of_kept (Dfu.pushPending_kept hs hl).2

/-- A poll that loses the held block fails and ends there. -/
theorem poll_lost (h : Booked l d) {m : Moments} (hl : d.Loses m.push d.pendingBytes) :
    (d.poll m).1 = .error restartPendingError ∧ Booked (l.lose d.pendingBytes) (d.poll m).2 := by
  have hpush := h.pushPending_lost hl
  unfold Dfu.poll
  rw [Dfu.pushPending_of_loses hl] at hpush ⊢
  exact ⟨rfl, hpush⟩

theorem poll (h : Booked l d) (hs : Steady d) {m : Moments} (hl : ¬ d.Loses m.push d.pendingBytes) :
    (d.poll m).1 = .ok () ∧ Booked (l.pass d (d.poll m).2) (d.poll m).2 := by
  obtain ⟨⟨held, hok⟩, hkept⟩ := Dfu.pushPending_kept hs.pending hl
  obtain ⟨sink, pending, hframe⟩ := Dfu.pushPending_frame m.push d
  have hretired : (d.pushPending m.push).2.retired = d.retired := by rw [hframe]
  rcases Dfu.poll_cases m d with ⟨err, herr, -⟩ | ⟨held, -, he⟩
  · rw [hok] at herr
    cases herr
  · rw [he]
    refine ⟨rfl, pass fun hr => ?_⟩
    rw [← hretired] at hr
    exact (h.of_kept hkept).of_kept (Dfu.observe_kept m.verdict hr)

/-- A chunk is submitted by an operation that began with `d₀`. -/
theorem submitChunk {chunk : Bytes} (d₀ : Dfu) (hr : d₀.retired = d.retired)
    (hp₀ : d₀.pending = d.pending) (hsink : d₀.sink = d.sink) (hne : chunk ≠ [])
    (h : d.pending = none → Booked l { d with pending := some chunk }) (v : View) :
    Booked (l.offer v (d₀.submitted chunk) d₀ (d.submitChunk v chunk).2)
      (d.submitChunk v chunk).2 := by
  unfold Dfu.submitted
  rw [hp₀]
  cases hp : d.pending with
  | some held =>
      -- the transfer is aborted, and the books begin anew
      rw [Dfu.submitChunk_of_some v chunk (by simp [hp]), if_neg nofun]
      have hkeeps : ¬ d₀.Loses v [] := fun hl => hl.1 rfl
      rw [Ledger.offer, if_neg hkeeps]
      refine pass fun hlen => ?_
      simp [Dfu.abortWithFault, Dfu.abortTransfer, Dfu.teardown, Dfu.replaceSink, Dfu.fault, hr]
        at hlen
  | none =>
      rw [Dfu.submitChunk_of_none v chunk hp, if_pos rfl]
      refine (h hp).pushPending ?_ v hsink
      rintro c hc
      cases hc
      exact hne

theorem acceptBlock (h : Booked l d) (v : View) (block : Bytes) :
    Booked ((l.receive block).offer v (d.submitted (d.chunkOf block)) d (d.acceptBlock v block).2)
      (d.acceptBlock v block).2 := by
  by_cases hlen : (d.downloadTail ++ block).length ≤ dfuSuffixLen
  · have hnone : d.submitted (d.chunkOf block) = [] := by
      rw [Dfu.submitted, Dfu.chunkOf, Nat.sub_eq_zero_of_le hlen, List.take_zero, ite_self]
    have hkeeps : ¬ d.Loses v (d.submitted (d.chunkOf block)) := fun hl => hl.1 hnone
    rw [Dfu.acceptBlock_of_short v hlen, Ledger.offer, if_neg hkeeps]
    refine pass fun _ => h.receive ?_
    simp only [Dfu.kept, List.append_assoc]
    rfl
  · rw [Dfu.acceptBlock_of_long v (by omega)]
    have hne : d.chunkOf block ≠ [] := by
      rw [← List.length_pos_iff, Dfu.chunkOf, List.length_take]
      omega
    refine submitChunk d (by rfl) (by rfl) (by rfl) hne (fun hp => h.receive ?_) v
    have hnone : d.pending = none := hp
    have hsplit : d.chunkOf block ++
        (d.downloadTail ++ block).drop ((d.downloadTail ++ block).length - dfuSuffixLen) =
        d.downloadTail ++ block := List.take_append_drop _ _
    have hbytes : d.kept ++ block = d.sink.handedBytes ++ (d.downloadTail ++ block) := by
      rw [Dfu.kept, Dfu.pendingBytes_of_none hnone, List.nil_append, List.append_assoc]
    rw [hbytes]
    exact congrArg (d.sink.handedBytes ++ ·) hsplit

theorem manifest (h : Booked l d) (hs : Steady d) (m : Moments) :
    Booked
      (if d.downloadTail = [] ∨ hasValidDfuSuffix d.downloadCrc d.downloadTail = true then
        (l.strip d.downloadTail).offer m.submit d.pendingBytes d (d.manifest m).2
      else l.offer m.submit (d.submitted d.downloadTail) d (d.manifest m).2) (d.manifest m).2 := by
  by_cases hsuffix : d.downloadTail = [] ∨ hasValidDfuSuffix d.downloadCrc d.downloadTail = true
  · rw [if_pos hsuffix, Dfu.manifest_of_suffix m hsuffix]
    have hstrip : Booked (l.strip d.downloadTail) d.manifesting := by
      refine h.strip ?_
      simp [Dfu.kept, Dfu.manifesting, Dfu.pendingBytes]
    exact hstrip.pushPending hs.pending m.submit rfl
  · rw [if_neg hsuffix, Dfu.manifest_of_tail m hsuffix]
    refine submitChunk d (by rfl) (by rfl) (by rfl) (not_or.1 hsuffix).1
      (fun hp => h.of_kept ?_) m.submit
    have hnone : d.pending = none := hp
    simp [Dfu.kept, Dfu.manifesting, Dfu.pendingBytes, hnone]

end Booked

/-! ## Whole requests -/

namespace Steady

variable {d : Dfu}

theorem of_none {d' : Dfu} (h : d'.pending = none) : Steady d' where
  pending := by
    rw [h]
    nofun
  idle := fun _ => h

/-- In every other state only the held block matters. -/
theorem of_state {d' : Dfu} (h : Steady d) (hp : d'.pending = d.pending)
    (hs : d'.state ≠ .dnloadIdle) : Steady d' where
  pending := by
    rw [hp]
    exact h.pending
  idle := fun hidle => absurd hidle hs

theorem pushPending (h : Steady d) (v : View) : Steady (d.pushPending v).2 := by
  cases hp : d.pending with
  | none =>
      obtain ⟨sink, hframe⟩ := Dfu.eofIfManifesting_frame d
      rw [Dfu.pushPending_of_none v hp, hframe]
      exact of_none hp
  | some chunk =>
      have hstate : d.state ≠ .dnloadIdle := by
        intro hidle
        rw [h.idle hidle] at hp
        cases hp
      rcases Dfu.pushPending_of_some v hp with
        ⟨err, sink, -, he⟩ | ⟨c, sink, hs, he⟩ | ⟨feed, sink, -, -, he⟩
      · rw [he]
        exact of_none rfl
      · obtain ⟨rfl, -⟩ := Session.trySend_handed_full hs
        rw [he]
        exact h.of_state hp.symm hstate
      · obtain ⟨sink', hframe⟩ := Dfu.eofIfManifesting_frame
            { d with sink := sink, pending := none }
        rw [he, hframe]
        exact of_none rfl

theorem poll (h : Steady d) (m : Moments) : Steady (d.poll m).2 := by
  have hpush := h.pushPending m.push
  rcases Dfu.poll_cases m d with ⟨err, -, he⟩ | ⟨held, -, he⟩
  · rw [he]
    exact hpush
  · rw [he]
    rcases Dfu.observe_cases m.verdict (d.pushPending m.push).2 with
      ⟨-, ho⟩ | ⟨-, -, ho⟩ | ⟨-, -, ho⟩ | ⟨-, -, ho⟩
    · rw [ho]
      exact hpush
    · rw [ho]
      exact of_none rfl
    · rw [ho]
      exact of_none rfl
    · rw [ho]
      exact ⟨hpush.pending, hpush.idle⟩

theorem submitChunk {chunk : Bytes} (hne : chunk ≠ []) (hs : d.state ≠ .dnloadIdle) (v : View) :
    Steady (d.submitChunk v chunk).2 := by
  cases hp : d.pending with
  | some held =>
      rw [Dfu.submitChunk_of_some v chunk (by simp [hp])]
      exact of_none rfl
  | none =>
      rw [Dfu.submitChunk_of_none v chunk hp]
      have hheld : Steady { d with pending := some chunk } := by
        refine ⟨fun c hc => ?_, fun hidle => absurd hidle hs⟩
        cases hc
        exact hne
      exact hheld.pushPending v

theorem acceptBlock (h : Steady d) (v : View) (block : Bytes) :
    Steady (d.acceptBlock v block).2 := by
  by_cases hlen : (d.downloadTail ++ block).length ≤ dfuSuffixLen
  · rw [Dfu.acceptBlock_of_short v hlen]
    exact h.of_state rfl State.noConfusion
  · rw [Dfu.acceptBlock_of_long v (by omega)]
    refine submitChunk ?_ State.noConfusion v
    rw [← List.length_pos_iff, List.length_take]
    omega

theorem manifest (h : Steady d) (m : Moments) : Steady (d.manifest m).2 := by
  by_cases hsuffix : d.downloadTail = [] ∨ hasValidDfuSuffix d.downloadCrc d.downloadTail = true
  · rw [Dfu.manifest_of_suffix m hsuffix]
    have hmanifesting : Steady d.manifesting := h.of_state rfl State.noConfusion
    exact hmanifesting.pushPending m.submit
  · rw [Dfu.manifest_of_tail m hsuffix]
    exact submitChunk (not_or.1 hsuffix).1 State.noConfusion m.submit

/-- `GETSTATUS` enters `dfuDNLOAD-IDLE` only with nothing held. -/
theorem getStatus (h : Steady d) : Steady d.getStatus.2 := by
  refine ⟨h.pending, fun hidle => ?_⟩
  change d.pending = none
  have hstate : d.getStatus.2.state = .dnloadIdle := hidle
  unfold Dfu.getStatus at hstate
  cases hs : d.state with
  | dnloadIdle => exact h.idle hs
  | dnloadSync | dnBusy =>
      simp only [hs] at hstate
      split at hstate
      · cases hstate
      · rename_i hnone
        exact Option.not_isSome_iff_eq_none.1 hnone
  | _ =>
      simp only [hs] at hstate
      cases hstate

theorem step {i : Input} (h : Steady d) : Steady (d.step i) := by
  have hto := Dfu.stepTo_step d i
  generalize i.event = e at hto
  generalize d.step i = d' at hto ⊢
  cases hto with
  | ignored => exact h
  | tornDown => exact of_none rfl
  | pollFailed => exact h.poll _
  | dispatched hp ho hd =>
      have h₁ := h.poll i.moments
      cases hd with
      | finishing => exact h₁
      | stageClosed => exact of_none rfl
      | stageFailed => exact h₁
      | block => exact h₁.acceptBlock _ _
      | detach => exact h₁.of_state rfl State.noConfusion
      | manifest => exact h₁.manifest _
      | clrAbort => exact of_none rfl
      | clrStatus => exact h₁.of_state rfl State.noConfusion
      | abort => exact of_none rfl
      | unsupportedOut => exact h₁.of_state rfl State.noConfusion
      | getStatus => exact h₁.getStatus
      | getState => exact h₁
      | noUpload => exact h₁
      | @upload req =>
          rcases Dfu.uploadBlock_eq req (d.poll i.moments).2 with he | ⟨-, he⟩ | he
          · rw [he]
            exact h₁
          · rw [he]
            exact h₁.of_state rfl State.noConfusion
          · rw [he]
            exact h₁.of_state rfl State.noConfusion
      | unsupportedIn => exact h₁.of_state rfl State.noConfusion

end Steady

theorem Event.not_polls_of_tearsDown {e : Event} {armed : Bool} (h : e.tearsDown armed) :
    ¬ e.polls := by
  cases e with
  | setupHostToDevice req stage =>
      cases stage with
      | ok data => exact h.elim
      | error err => exact fun hp => h.2.1 hp.2
  | setupDeviceToHost req => exact h.elim
  | _ => exact id

namespace Ledger

variable {l : Ledger} {m : Moments} {d d' : Dfu} {req : CtrlReq} {data : Bytes}

theorem dispatch_finishing (hb : req.announcesBlock) (hf : d.isFinishing = true) :
    l.dispatch m d d' (.setupHostToDevice req (.ok data)) = l :=
  (if_pos hb).trans (if_pos hf)

theorem dispatch_block (hb : req.announcesBlock) (hf : d.isFinishing = false) :
    l.dispatch m d d' (.setupHostToDevice req (.ok data)) =
      (l.receive (data.take req.length.toNat)).offer m.submit
        (d.submitted (d.chunkOf (data.take req.length.toNat))) d d' :=
  (if_pos hb).trans (if_neg (by simp [hf]))

theorem dispatch_manifest (hr : req.request = Request.dnload) (hl : req.length = 0) :
    l.dispatch m d d' (.setupHostToDevice req (.ok data)) =
      if d.downloadTail = [] ∨ hasValidDfuSuffix d.downloadCrc d.downloadTail = true then
        (l.strip d.downloadTail).offer m.submit d.pendingBytes d d'
      else l.offer m.submit (d.submitted d.downloadTail) d d' :=
  (if_neg fun hb => hb.2 hl).trans (if_pos hr)

theorem dispatch_clrStatus (hr : req.request = Request.clrStatus) :
    l.dispatch m d d' (.setupHostToDevice req (.ok data)) = start d' := by
  have hne : req.request ≠ Request.dnload := by
    rw [hr]
    decide
  exact (if_neg fun hb => hne hb.1).trans ((if_neg hne).trans (if_pos hr))

theorem dispatch_other (h1 : req.request ≠ Request.dnload) (h2 : req.request ≠ Request.clrStatus) :
    l.dispatch m d d' (.setupHostToDevice req (.ok data)) = l.pass d d' :=
  (if_neg fun hb => h1 hb.1).trans ((if_neg h1).trans (if_neg h2))

end Ledger

namespace Booked

variable {l : Ledger} {d d' : Dfu}

/-- A request that leaves the bytes and the session alone. -/
theorem pass_same (h : Booked l d) (hk : d'.kept = d.kept) : Booked (l.pass d d') d' :=
  pass fun _ => h.of_kept hk

theorem teardown (d : Dfu) : Booked (l.pass d d.teardown) d.teardown := by
  refine pass fun hlen => ?_
  simp [Dfu.teardown, Dfu.replaceSink] at hlen

theorem dispatch (h : Booked l d) (hs : Steady d) {m : Moments} {e : Event}
    (hd : Dispatch m d e d') : Booked (l.dispatch m d d' e) d' := by
  cases hd with
  | @finishing req stage hb hf =>
      cases stage with
      | ok data =>
          rw [Ledger.dispatch_finishing hb hf]
          exact h
      | error err => exact h.pass_same rfl
  | stageClosed => exact teardown d
  | stageFailed => exact h.pass_same rfl
  | block hb hf =>
      rw [Ledger.dispatch_block hb hf]
      exact h.acceptBlock m.submit _
  | detach hr =>
      rw [Ledger.dispatch_other (by rw [hr]; decide) (by rw [hr]; decide)]
      exact h.pass_same rfl
  | manifest hr hl =>
      rw [Ledger.dispatch_manifest hr hl]
      exact h.manifest hs m
  | clrAbort hr =>
      rw [Ledger.dispatch_clrStatus hr]
      exact start _
  | clrStatus hr =>
      rw [Ledger.dispatch_clrStatus hr]
      exact start _
  | abort hr =>
      rw [Ledger.dispatch_other (by rw [hr]; decide) (by rw [hr]; decide)]
      exact teardown d
  | unsupportedOut hr =>
      simp only [List.mem_cons, List.not_mem_nil, or_false, not_or] at hr
      rw [Ledger.dispatch_other hr.2.1 hr.2.2.1]
      exact h.pass_same rfl
  | getStatus => exact h.pass_same rfl
  | getState => exact h.pass_same rfl
  | noUpload => exact h.pass_same rfl
  | @upload req =>
      obtain ⟨state, he⟩ := Dfu.uploadBlock_frame req d
      rw [he]
      exact h.pass_same rfl
  | unsupportedIn => exact h.pass_same rfl

/-- The books balance after every event. -/
theorem step (h : Booked l d) (hs : Steady d) (i : Input) :
    Booked (l.next i.moments d (d.step i) i.event) (d.step i) := by
  have hto := Dfu.stepTo_step d i
  generalize i.event = e at hto
  generalize d.step i = d' at hto ⊢
  unfold Ledger.next
  cases hto with
  | ignored hp ht =>
      rw [if_neg hp]
      exact h.pass_same rfl
  | tornDown ht =>
      rw [if_neg (Event.not_polls_of_tearsDown ht)]
      exact teardown d
  | pollFailed hp he =>
      rw [if_pos hp]
      by_cases hl : d.Loses i.moments.push d.pendingBytes
      · rw [if_pos hl]
        exact (h.poll_lost hl).2
      · rw [(h.poll hs hl).1] at he
        cases he
  | dispatched hp ho hd =>
      rw [if_pos hp]
      by_cases hl : d.Loses i.moments.push d.pendingBytes
      · rw [(h.poll_lost hl).1] at ho
        cases ho
      · rw [if_neg hl]
        exact (h.poll hs hl).2.dispatch (hs.poll i.moments) hd

end Booked

/-- The handler and the books after a run. -/
def audit (config : DfuConfig) (inputs : List Input) : Audit :=
  run Audit.step (Audit.new config) inputs

/-- The books balance in every run. -/
theorem booked_audit (config : DfuConfig) (inputs : List Input) :
    Booked (audit config inputs).ledger (audit config inputs).device ∧
      Steady (audit config inputs).device := by
  refine run_invariant_of_step (I := fun a : Audit => Booked a.ledger a.device ∧ Steady a.device)
    ?_ inputs ⟨Booked.start _, Steady.of_none rfl⟩
  rintro a i ⟨hbooked, hsteady⟩
  exact ⟨hbooked.step hsteady i, hsteady.step⟩

/-! ## What the host is told -/

/-- The state that a status reply names is the state of the handler. -/
theorem state_of_status {d : Dfu} {m : Moments} {req : CtrlReq} {r : GetStatus}
    (h : (d.setupIn m req).1 = .ok (.status r)) : (d.setupIn m req).2.state = r.state := by
  unfold Dfu.setupIn Dfu.handleIn at h ⊢
  cases hd : isDfuRequest req with
  | false =>
      rw [hd, if_pos (by decide)] at h
      cases h
  | true =>
      rw [hd, if_neg (by decide)] at h
      rw [if_neg (by decide)]
      generalize d.poll m = p at h ⊢
      obtain ⟨err | ⟨⟩, d₁⟩ := p
      · cases h
      · by_cases h1 : req.request = Request.getStatus
        · simp only [if_pos h1] at h ⊢
          cases h
          rfl
        · simp only [if_neg h1] at h
          by_cases h2 : req.request = Request.getState
          · simp only [if_pos h2] at h
            cases h
          · simp only [if_neg h2] at h
            by_cases h3 : req.request = Request.upload
            · simp only [if_pos h3] at h
              unfold Dfu.uploadBlock at h
              cases hu : d₁.upload with
              | none =>
                  rw [hu] at h
                  cases h
              | some source =>
                  rw [hu] at h
                  cases h
            · simp only [if_neg h3] at h
              cases h

/-- Every byte received since the transfer began is in the tail or was handed to the session; a
chunk that no session could be opened for is still held, or the handler is in the error state. -/
structure Honest (l : Ledger) (d : Dfu) : Prop where
  accounted : d.sink.handedBytes ++ d.downloadTail = l.base ++ l.received
  failed : ∀ chunk ∈ l.failed, d.pending = some chunk ∨ d.state = .error

/-- After every run, a reply that names `dfuDNLOAD-IDLE` is honest if since the transfer began no
session had to be opened while a restart was pending and no suffix was left out, and in no other
case. -/
theorem dnload_idle_honest_iff (config : DfuConfig) (inputs : List Input) (m : Moments)
    (req : CtrlReq) (r : GetStatus)
    (hreply : ((audit config inputs).device.setupIn m req).1 = .ok (.status r))
    (hidle : r.state = .dnloadIdle) :
    Honest (audit config (inputs ++ [⟨.setupDeviceToHost req, m⟩])).ledger
        (audit config (inputs ++ [⟨.setupDeviceToHost req, m⟩])).device ↔
      (audit config (inputs ++ [⟨.setupDeviceToHost req, m⟩])).ledger.failed = [] ∧
        (audit config (inputs ++ [⟨.setupDeviceToHost req, m⟩])).ledger.stripped = [] := by
  have hstate : (audit config (inputs ++ [⟨.setupDeviceToHost req, m⟩])).device.state =
      .dnloadIdle := by
    unfold audit
    rw [run_concat]
    exact (state_of_status hreply).trans hidle
  obtain ⟨hbooked, hsteady⟩ := booked_audit config (inputs ++ [⟨.setupDeviceToHost req, m⟩])
  generalize audit config (inputs ++ [⟨.setupDeviceToHost req, m⟩]) = a at hstate hbooked hsteady ⊢
  have hpending := hsteady.idle hstate
  have hkept : a.device.kept = a.device.sink.handedBytes ++ a.device.downloadTail := by
    rw [Dfu.kept, Dfu.pendingBytes_of_none hpending, List.nil_append]
  constructor
  · rintro ⟨haccounted, hfailed⟩
    have hnone : a.ledger.failed = [] := by
      refine List.eq_nil_iff_forall_not_mem.2 fun chunk hchunk => ?_
      rcases hfailed chunk hchunk with hheld | herror
      · rw [hpending] at hheld
        cases hheld
      · rw [hstate] at herror
        cases herror
    refine ⟨hnone, ?_⟩
    -- nothing is missing, so nothing was left out
    have hcount := hbooked.count
    rw [hkept, haccounted, List.length_append, hnone] at hcount
    simp only [List.flatten_nil, List.length_nil] at hcount
    exact List.length_eq_zero_iff.1 (by omega)
  · rintro ⟨hfailed, hstripped⟩
    refine ⟨?_, ?_⟩
    · rw [← hkept]
      exact hbooked.order hfailed hstripped
    · rw [hfailed]
      nofun

/-- A session that can be opened, and takes every block. -/
def openable : Moments := .always ⟨false, ⟨"MMC", "a"⟩, .room, none⟩

/-- A restart is pending. -/
def restarting : Moments := .always ⟨true, ⟨"MMC", "a"⟩, .room, none⟩

def plainConfig : DfuConfig := ⟨SwupdateParams.default, none, 64, 0⟩

def twentyBytes : Bytes := [1, 2, 3, 4, 5, 6, 7, 8, 9, 10, 11, 12, 13, 14, 15, 16, 17, 18, 19, 20]

theorem dnload_idle_honest_iff_accepted :
    Honest
      (audit plainConfig [⟨.dnload 0 twentyBytes, openable⟩, ⟨.getStatus, openable⟩]).ledger
      (audit plainConfig [⟨.dnload 0 twentyBytes, openable⟩, ⟨.getStatus, openable⟩]).device :=
  (dnload_idle_honest_iff plainConfig [⟨.dnload 0 twentyBytes, openable⟩] openable getStatusRequest
    ⟨.ok, 0, .dnloadIdle, 0⟩ (by decide +kernel) rfl).2 ⟨by decide +kernel, by decide +kernel⟩

/-- With a restart pending, four bytes of a block are lost and the host is told that it was
taken. -/
theorem dropped_block_accepted :
    ((audit plainConfig [⟨.dnload 0 twentyBytes, restarting⟩]).device.setupIn restarting
        getStatusRequest).1 = .ok (.status ⟨.ok, 0, .dnloadIdle, 0⟩) ∧
      (audit plainConfig [⟨.dnload 0 twentyBytes, restarting⟩]).ledger.received = twentyBytes ∧
      (audit plainConfig [⟨.dnload 0 twentyBytes, restarting⟩]).ledger.failed = [[1, 2, 3, 4]] ∧
      (audit plainConfig [⟨.dnload 0 twentyBytes, restarting⟩]).device.pending = none ∧
      (audit plainConfig [⟨.dnload 0 twentyBytes, restarting⟩]).device.sink.handedBytes = [] ∧
      (audit plainConfig [⟨.dnload 0 twentyBytes, restarting⟩]).device.downloadTail =
        twentyBytes.drop 4 := by
  refine ⟨by decide +kernel, by decide +kernel, by decide +kernel, by decide +kernel,
    by decide +kernel, by decide +kernel⟩

end SummitUsbgadget.DfuFunction
