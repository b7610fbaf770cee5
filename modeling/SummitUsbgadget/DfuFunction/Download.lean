import SummitUsbgadget.DfuFunction.Receive
import SummitUsbgadget.DfuFunction.Step

/-!
# A host downloads an image

The conversation of a host with the device: the host sends a block, polls `GETSTATUS` while the
device reports `dfuDNBUSY`, sends the next one, and after the last block sends a zero-length
`DNLOAD` and polls until the device is idle again. `download_byte_exact` shows, for every image
and every split into blocks, and for every pattern in which the sink takes blocks or is full, that
the host never sees an error and that one session gets exactly the payload, with EOF after it; and
that this point is reached if the sink does not stay full and reports success after EOF.
-/

set_option autoImplicit false

namespace SummitUsbgadget.DfuFunction

open SummitUsbgadget.Lib
open SummitUsbgadget.Swupdate

/-- A non-empty data block; its length is announced in sixteen bits. -/
structure Block where
  num : UInt16
  data : Bytes
  nonempty : data ≠ []
  fits : data.length < 2 ^ 16
  deriving DecidableEq

/-- The bytes of a list of blocks. -/
def image (blocks : List Block) : Bytes := (blocks.map Block.data).flatten

/-- Where the host is: about to send the rest, waiting for a block to be taken, waiting for the
end of manifestation, finished, or given up. -/
inductive Host where
  | ready (rest : List Block)
  | polling (rest : List Block)
  | manifesting
  | done
  | failed
  deriving DecidableEq

structure Talk where
  host : Host
  device : Dfu

/-- The status that the device reports. -/
def Dfu.report (m : Moments) (d : Dfu) : Option GetStatus :=
  match (d.setupIn m getStatusRequest).1 with
  | .ok (.status response) => some response
  | _ => none

/-- What the host does next after the status report `r`, while blocks are left. -/
def Host.afterBlock (rest : List Block) (r : Option GetStatus) : Host :=
  match r with
  | some ⟨.ok, _, .dnBusy, _⟩ => .polling rest
  | some ⟨.ok, _, .dnloadIdle, _⟩ => .ready rest
  | _ => .failed

/-- What the host does next after the status report `r` during manifestation. -/
def Host.afterManifest (r : Option GetStatus) : Host :=
  match r with
  | some ⟨.ok, _, .manifest, _⟩ => .manifesting
  | some ⟨.ok, _, .dfuIdle, _⟩ => .done
  | _ => .failed

/-- One request of the host; `num` is the number of the zero-length block. -/
def Talk.step (num : UInt16) (c : Talk) (m : Moments) : Talk :=
  match c.host with
  | .ready (block :: rest) =>
      ⟨.polling rest, c.device.step ⟨.dnload block.num block.data, m⟩⟩
  | .ready [] => ⟨.manifesting, c.device.step ⟨.manifest num, m⟩⟩
  | .polling rest =>
      ⟨.afterBlock rest (c.device.report m), c.device.step ⟨.getStatus, m⟩⟩
  | .manifesting => ⟨.afterManifest (c.device.report m), c.device.step ⟨.getStatus, m⟩⟩
  | .done => c
  | .failed => c

/-- The sink before and after EOF: it takes blocks or is full until EOF, and the verdict, given
only after EOF, is success. -/
structure SinkFair (c : Talk) (m : Moments) : Prop where
  accepting : c.device.sink.ended = false → m.push.Accepting ∧ m.submit.Accepting
  verdict : m.verdict.task = none ∨
    ((c.device.pushPending m.push).2.sink.ended = true ∧
      m.verdict.task = some (.done (.ok ())))

/-! ## The requests of the host -/

theorem isDfuRequest_of_out {req : CtrlReq} (h : req.requestType = 0x21) :
    isDfuRequest req = true := by
  unfold isDfuRequest
  rw [h]
  decide

namespace Dfu

theorem step_dnload {d : Dfu} {m : Moments} (block : Block) (hok : (d.poll m).1 = .ok ())
    (hf : (d.poll m).2.isFinishing = false) :
    d.step ⟨.dnload block.num block.data, m⟩ =
      ((d.poll m).2.acceptBlock m.submit block.data).2 := by
  have hlen : (UInt16.ofNat block.data.length).toNat = block.data.length :=
    UInt16.toNat_ofNat_of_lt' block.fits
  have hpos : block.data.length ≠ 0 := by
    rw [ne_eq, List.length_eq_zero_iff]
    exact block.nonempty
  have hann : (⟨0x21, Request.dnload, block.num, 0, UInt16.ofNat block.data.length⟩ :
      CtrlReq).announcesBlock := by
    refine ⟨rfl, fun h0 => hpos ?_⟩
    have h0' := congrArg UInt16.toNat h0
    rw [hlen] at h0'
    exact h0'
  show (d.setupOut m _ _).2 = _
  unfold setupOut
  rw [if_neg (by simp [isDfuRequest_of_out]), if_pos hann]
  have hrecv : d.receiveDnloadBlock m (UInt16.ofNat block.data.length).toNat (.ok block.data) =
      (d.poll m).2.acceptBlock m.submit block.data := by
    unfold receiveDnloadBlock
    rw [hlen]
    generalize d.poll m = r at hok hf
    obtain ⟨res, d'⟩ := r
    cases hok
    simp only
    rw [if_neg (by simp [hf]), List.take_length]
  rw [hrecv]
  exact resetIfClosed_snd (acceptBlock_result _ _ _)

theorem step_manifest {d : Dfu} {m : Moments} (num : UInt16) (hok : (d.poll m).1 = .ok ()) :
    d.step ⟨.manifest num, m⟩ = ((d.poll m).2.manifest m).2 := by
  have hann : ¬ (⟨0x21, Request.dnload, num, 0, 0⟩ : CtrlReq).announcesBlock := fun h => h.2 rfl
  show (d.setupOut m _ _).2 = _
  unfold setupOut
  rw [if_neg (by simp [isDfuRequest_of_out]), if_neg hann]
  show (d.handleOut m _).2 = _
  unfold handleOut
  generalize d.poll m = r at hok
  obtain ⟨res, d'⟩ := r
  cases hok
  rfl

theorem step_getStatus {d : Dfu} {m : Moments} (hok : (d.poll m).1 = .ok ()) :
    d.report m = some (d.poll m).2.getStatus.1 ∧
      d.step ⟨.getStatus, m⟩ = (d.poll m).2.getStatus.2 := by
  have hin : d.setupIn m getStatusRequest =
      (.ok (.status (d.poll m).2.getStatus.1), (d.poll m).2.getStatus.2) := by
    unfold setupIn
    rw [if_neg (by decide)]
    unfold handleIn
    generalize d.poll m = r at hok
    obtain ⟨res, d'⟩ := r
    cases hok
    rfl
  constructor
  · unfold report
    rw [hin]
  · show (d.setupIn m getStatusRequest).2 = _
    rw [hin]

end Dfu

/-! ## The conversation -/

/-- What holds of the device at each stage of the host. -/
def Talk.Sound (whole : Bytes) (c : Talk) : Prop :=
  match c.host with
  | .ready rest => ∃ received body chunks, whole = received ++ image rest ∧
      Receiving received body chunks c.device ∧ c.device.pending = none ∧
      (c.device.state = .dfuIdle ∨ c.device.state = .dnloadIdle)
  | .polling rest => ∃ received body chunks, whole = received ++ image rest ∧
      Receiving received body chunks c.device ∧
      (c.device.state = .dnloadSync ∨ c.device.state = .dnBusy)
  | .manifesting => ∃ chunks, Manifesting whole chunks c.device
  | .done => Installed whole c.device ∧ c.device.state = .dfuIdle
  | .failed => False

/-- Before EOF the sink accepts and gives no verdict. -/
theorem SinkFair.of_receiving {c : Talk} {m : Moments} {received body : Bytes}
    {chunks : List Bytes} (hfair : SinkFair c m) (h : Receiving received body chunks c.device)
    (hst : c.device.state ≠ .manifest) :
    m.push.Accepting ∧ m.submit.Accepting ∧ m.verdict.task = none := by
  obtain ⟨hpush, hsubmit⟩ := hfair.accepting h.sink.not_ended
  obtain ⟨chunks', held, -, hr, -, -⟩ := h.pushPending hpush hst
  refine ⟨hpush, hsubmit, ?_⟩
  rcases hfair.verdict with ht | ⟨hend, -⟩
  · exact ht
  · rw [hr.sink.not_ended] at hend
    cases hend

namespace Talk.Sound

variable {whole : Bytes} {num : UInt16} {d : Dfu} {m : Moments}

theorem start (config : DfuConfig) (blocks : List Block) :
    Talk.Sound (image blocks) ⟨.ready blocks, Dfu.new config⟩ :=
  ⟨[], [], [], rfl, Dfu.receiving_new config, rfl, Or.inl rfl⟩

theorem ready_poll {rest : List Block} (h : Talk.Sound whole ⟨.ready rest, d⟩)
    (hfair : SinkFair ⟨.ready rest, d⟩ m) :
    ∃ received body chunks, whole = received ++ image rest ∧ (d.poll m).1 = .ok () ∧
      Receiving received body chunks (d.poll m).2 ∧ (d.poll m).2.pending = none ∧
      (d.poll m).2.isFinishing = false ∧ m.submit.Accepting := by
  obtain ⟨received, body, chunks, hw, hr, hp, hst⟩ := h
  have hne : d.state ≠ .manifest := by
    rintro he
    have hst' : d.state = .dfuIdle ∨ d.state = .dnloadIdle := hst
    simp [he] at hst'
  obtain ⟨hpush, hsubmit, htask⟩ := hfair.of_receiving hr hne
  obtain ⟨chunks', hok, hr', hs, hp'⟩ := hr.poll hpush htask hne
  refine ⟨received, body, chunks', hw, hok, hr', hp' (Or.inl hp), ?_, hsubmit⟩
  unfold Dfu.isFinishing
  rw [hs]
  rcases hst with hst | hst
  · have hst' : d.state = .dfuIdle := hst
    rw [hst']
    rfl
  · have hst' : d.state = .dnloadIdle := hst
    rw [hst']
    rfl

theorem step_block {block : Block} {rest : List Block}
    (h : Talk.Sound whole ⟨.ready (block :: rest), d⟩)
    (hfair : SinkFair ⟨.ready (block :: rest), d⟩ m) :
    Talk.Sound whole (Talk.step num ⟨.ready (block :: rest), d⟩ m) := by
  obtain ⟨received, body, chunks, hw, hok, hr, hp, hf, hsubmit⟩ := ready_poll h hfair
  obtain ⟨body', chunks', hr', hs⟩ := hr.acceptBlock hsubmit hp block.data
  have hstep : Talk.step num ⟨.ready (block :: rest), d⟩ m =
      ⟨.polling rest, ((d.poll m).2.acceptBlock m.submit block.data).2⟩ := by
    rw [← Dfu.step_dnload block hok hf]
    rfl
  rw [hstep]
  refine ⟨received ++ block.data, body', chunks', ?_, hr', Or.inl hs⟩
  rw [hw]
  simp [image]

theorem step_last (hne : payload whole ≠ []) (h : Talk.Sound whole ⟨.ready [], d⟩)
    (hfair : SinkFair ⟨.ready [], d⟩ m) :
    Talk.Sound whole (Talk.step num ⟨.ready [], d⟩ m) := by
  obtain ⟨received, body, chunks, hw, hok, hr, hp, -, hsubmit⟩ := ready_poll h hfair
  have hall : whole = received := by simpa [image] using hw
  subst hall
  obtain ⟨chunks', hm⟩ := Manifesting.of_receiving hr hsubmit hp hne
  have hstep : Talk.step num ⟨.ready [], d⟩ m = ⟨.manifesting, ((d.poll m).2.manifest m).2⟩ := by
    rw [← Dfu.step_manifest num hok]
    rfl
  rw [hstep]
  exact ⟨chunks', hm⟩

/-- A poll while a block is being taken: the host goes on as soon as nothing is held. -/
theorem step_polling {rest : List Block} (h : Talk.Sound whole ⟨.polling rest, d⟩)
    (hfair : SinkFair ⟨.polling rest, d⟩ m) :
    Talk.Sound whole (Talk.step num ⟨.polling rest, d⟩ m) ∧
      ((Talk.step num ⟨.polling rest, d⟩ m).host = .ready rest ∨
        ((Talk.step num ⟨.polling rest, d⟩ m).host = .polling rest ∧ m.push.queue ≠ .room)) := by
  obtain ⟨received, body, chunks, hw, hr, hst⟩ := h
  have hst : d.state = .dnloadSync ∨ d.state = .dnBusy := hst
  have hne : d.state ≠ .manifest := by
    intro he
    simp [he] at hst
  obtain ⟨hpush, -, htask⟩ := hfair.of_receiving hr hne
  obtain ⟨chunks', hok, hr', hs, hp'⟩ := hr.poll hpush htask hne
  obtain ⟨hrep, hstep⟩ := Dfu.step_getStatus hok
  have hmid : (d.poll m).2.state = .dnloadSync ∨ (d.poll m).2.state = .dnBusy := by
    rw [hs]
    exact hst
  unfold Talk.step
  simp only
  rw [hrep, hstep]
  generalize (d.poll m).2 = d' at hr' hp' hmid
  cases hpend : d'.pending with
  | none =>
      have hstate : d'.getStatus.2 = { d' with state := .dnloadIdle } := by
        rcases hmid with hmid | hmid <;> simp [Dfu.getStatus, hmid, hpend]
      have hreport : Host.afterBlock rest (some d'.getStatus.1) = .ready rest := by
        rcases hmid with hmid | hmid <;>
          simp [Dfu.getStatus, hmid, hpend, Host.afterBlock, hr'.status]
      rw [hstate, hreport]
      exact ⟨⟨received, body, chunks', hw, hr'.of_state _, hpend, Or.inr rfl⟩, Or.inl rfl⟩
  | some chunk =>
      have hstate : d'.getStatus.2 = { d' with state := .dnBusy } := by
        rcases hmid with hmid | hmid <;> simp [Dfu.getStatus, hmid, hpend]
      have hreport : Host.afterBlock rest (some d'.getStatus.1) = .polling rest := by
        rcases hmid with hmid | hmid <;>
          simp [Dfu.getStatus, hmid, hpend, Host.afterBlock, hr'.status]
      rw [hstate, hreport]
      refine ⟨⟨received, body, chunks', hw, hr'.of_state _, Or.inr rfl⟩, Or.inr ⟨rfl, ?_⟩⟩
      intro hroom
      rw [hp' (Or.inr hroom)] at hpend
      cases hpend

/-- A poll during manifestation: the host is done once success was reported after EOF. -/
theorem step_manifesting (h : Talk.Sound whole ⟨.manifesting, d⟩)
    (hfair : SinkFair ⟨.manifesting, d⟩ m) :
    Talk.Sound whole (Talk.step num ⟨.manifesting, d⟩ m) ∧
      ((Talk.step num ⟨.manifesting, d⟩ m).host = .done ∨
        ((Talk.step num ⟨.manifesting, d⟩ m).host = .manifesting ∧ m.verdict.task = none ∧
          (d.sink.ended = true ∨ m.push.queue = .room →
            (Talk.step num ⟨.manifesting, d⟩ m).device.sink.ended = true))) := by
  obtain ⟨chunks, hm⟩ := h
  obtain ⟨chunks', held, hpush, hm', hp'⟩ :=
    hm.pushPending (v := m.push) fun hend => (hfair.accepting hend).1
  have hok : d.poll m = (.ok (), (d.pushPending m.push).2.observe m.verdict) := by
    rcases Dfu.poll_cases m d with ⟨err, herr, -⟩ | ⟨-, -, he⟩
    · rw [hpush] at herr
      cases herr
    · exact he
  obtain ⟨hrep, hstep⟩ := Dfu.step_getStatus (d := d) (m := m) (by rw [hok])
  unfold Talk.step
  simp only
  rw [hrep, hstep, hok]
  simp only
  rcases hfair.verdict with hnone | ⟨hend, hsucc⟩
  · -- no verdict yet: the report is still `dfuMANIFEST`
    rw [hm'.observe_of_running hnone]
    have hsame : (d.pushPending m.push).2.getStatus.2 = (d.pushPending m.push).2 := by
      simp only [Dfu.getStatus, hm'.state]
      rw [← hm'.state]
    have hreport : Host.afterManifest (some (d.pushPending m.push).2.getStatus.1) =
        .manifesting := by
      simp [Dfu.getStatus, hm'.state, Host.afterManifest, hm'.status]
    rw [hsame, hreport]
    refine ⟨⟨chunks', hm'⟩, Or.inr ⟨rfl, hnone, ?_⟩⟩
    -- once nothing is held, EOF has been signalled
    intro hready
    have hgone : (d.pushPending m.push).2.pending = none := by
      refine hp' ?_
      rcases hready with hend | hroom
      · rcases hm.sink with ⟨-, hs⟩ | ⟨hn, -⟩
        · rw [hs.not_ended] at hend
          cases hend
        · exact Or.inl hn
      · exact Or.inr hroom
    rcases hm'.sink with ⟨hsome, -⟩ | ⟨-, hs⟩
    · rw [hgone] at hsome
      cases hsome
    · exact hs.ended
  · -- success: `GETSTATUS` itself takes the device from `dfuMANIFEST-SYNC` to `dfuIDLE`
    obtain ⟨hinst, hsync⟩ := hm'.observe_of_success hend hsucc
    generalize (d.pushPending m.push).2.observe m.verdict = d' at hinst hsync
    have hidle : d'.getStatus.2 = { d' with state := .dfuIdle } := by
      simp [Dfu.getStatus, hsync]
    have hreport : Host.afterManifest (some d'.getStatus.1) = .done := by
      simp [Dfu.getStatus, hsync, Host.afterManifest, hinst.status]
    rw [hidle, hreport]
    exact ⟨⟨⟨hinst.status, hinst.pending, hinst.sink, hinst.transfer⟩, rfl⟩, Or.inl rfl⟩

theorem step (hne : payload whole ≠ []) {c : Talk} (h : Talk.Sound whole c)
    (hfair : SinkFair c m) : Talk.Sound whole (c.step num m) := by
  obtain ⟨host, d⟩ := c
  cases host with
  | ready rest =>
      cases rest with
      | nil => exact step_last hne h hfair
      | cons block rest => exact step_block h hfair
  | polling rest => exact (step_polling h hfair).1
  | manifesting => exact (step_manifesting h hfair).1
  | done => exact h
  | failed => exact h

end Talk.Sound

/-! ## Progress -/

section Progress

variable {num : UInt16} {config : DfuConfig} {blocks : List Block} {schedule : Nat → Moments}

/-- The conversation after `n` requests. -/
def talk (num : UInt16) (config : DfuConfig) (blocks : List Block) (schedule : Nat → Moments) :
    Nat → Talk :=
  states (Talk.step num) ⟨.ready blocks, Dfu.new config⟩ schedule

theorem talk_sound (num : UInt16) (config : DfuConfig) (hne : payload (image blocks) ≠ [])
    (hfair : ∀ n, SinkFair (talk num config blocks schedule n) (schedule n)) (n : Nat) :
    Talk.Sound (image blocks) (talk num config blocks schedule n) :=
  states_invariant (Talk.Sound.start config blocks) (fun k h => h.step hne (hfair k)) n

/-- A block that is being taken is taken when there is room. -/
theorem polling_leads_to_ready
    (hsound : ∀ n, Talk.Sound (image blocks) (talk num config blocks schedule n))
    (hfair : ∀ n, SinkFair (talk num config blocks schedule n) (schedule n))
    (hroom : ∀ n, ∃ k, n ≤ k ∧ (schedule k).push.queue = .room) (rest : List Block) {n : Nat}
    (h : (talk num config blocks schedule n).host = .polling rest) :
    ∃ k, n < k ∧ (talk num config blocks schedule k).host = .ready rest := by
  have hnext : ∀ n, (talk num config blocks schedule n).host = .polling rest →
      (talk num config blocks schedule (n + 1)).host = .ready rest ∨
        ((talk num config blocks schedule (n + 1)).host = .polling rest ∧
          (schedule n).push.queue ≠ .room) := by
    intro n hn
    have hs := hsound n
    have hf := hfair n
    show (Talk.step num (talk num config blocks schedule n) (schedule n)).host = _ ∨
      (Talk.step num (talk num config blocks schedule n) (schedule n)).host = _ ∧ _
    generalize talk num config blocks schedule n = c at hn hs hf
    obtain ⟨host, d⟩ := c
    subst hn
    exact (Talk.Sound.step_polling hs hf).2
  refine leads_to (A := fun n => (talk num config blocks schedule n).host = .polling rest)
    (F := fun n => (schedule n).push.queue = .room) ?_ ?_ (fun n _ => hroom n) h
  · intro n hn
    rcases hnext n hn with hr | ⟨hp, -⟩
    · exact Or.inr hr
    · exact Or.inl hp
  · intro n hn hq
    rcases hnext n hn with hr | ⟨-, hnr⟩
    · exact hr
    · exact absurd hq hnr

/-- Manifestation ends: EOF is signalled when there is room, and success comes after EOF. -/
theorem manifesting_leads_to_done
    (hsound : ∀ n, Talk.Sound (image blocks) (talk num config blocks schedule n))
    (hfair : ∀ n, SinkFair (talk num config blocks schedule n) (schedule n))
    (hroom : ∀ n, ∃ k, n ≤ k ∧ (schedule k).push.queue = .room)
    (hsucc : ∀ n, (talk num config blocks schedule n).device.sink.ended = true →
      ∃ k, n ≤ k ∧ (schedule k).verdict.task = some (.done (.ok ()))) {n : Nat}
    (h : (talk num config blocks schedule n).host = .manifesting) :
    ∃ k, n < k ∧ (talk num config blocks schedule k).host = .done := by
  have hnext : ∀ n, (talk num config blocks schedule n).host = .manifesting →
      (talk num config blocks schedule (n + 1)).host = .done ∨
        ((talk num config blocks schedule (n + 1)).host = .manifesting ∧
          (schedule n).verdict.task = none ∧
          ((talk num config blocks schedule n).device.sink.ended = true ∨
              (schedule n).push.queue = .room →
            (talk num config blocks schedule (n + 1)).device.sink.ended = true)) := by
    intro n hn
    have hs := hsound n
    have hf := hfair n
    show (Talk.step num (talk num config blocks schedule n) (schedule n)).host = _ ∨
      (Talk.step num (talk num config blocks schedule n) (schedule n)).host = _ ∧ _ ∧
        (_ → (Talk.step num (talk num config blocks schedule n) (schedule n)).device.sink.ended =
          true)
    generalize talk num config blocks schedule n = c at hn hs hf
    obtain ⟨host, d⟩ := c
    subst hn
    exact (Talk.Sound.step_manifesting hs hf).2
  -- first until EOF, which waits for room, then from EOF to the verdict
  have heof : ∃ k, n < k ∧ ((talk num config blocks schedule k).host = .done ∨
      ((talk num config blocks schedule k).host = .manifesting ∧
        (talk num config blocks schedule k).device.sink.ended = true)) := by
    refine leads_to (A := fun n => (talk num config blocks schedule n).host = .manifesting)
      (F := fun n => (schedule n).push.queue = .room) ?_ ?_ (fun n _ => hroom n) h
    · intro n hn
      rcases hnext n hn with hd | ⟨hm, -, -⟩
      · exact Or.inr (Or.inl hd)
      · exact Or.inl hm
    · intro n hn hq
      rcases hnext n hn with hd | ⟨hm, -, he⟩
      · exact Or.inl hd
      · exact Or.inr ⟨hm, he (Or.inr hq)⟩
  obtain ⟨k, hnk, hd | hended⟩ := heof
  · exact ⟨k, hnk, hd⟩
  · obtain ⟨j, hkj, hd⟩ : ∃ j, k < j ∧ (talk num config blocks schedule j).host = .done := by
      refine leads_to
        (A := fun n => (talk num config blocks schedule n).host = .manifesting ∧
          (talk num config blocks schedule n).device.sink.ended = true)
        (F := fun n => (schedule n).verdict.task = some (.done (.ok ()))) ?_ ?_
        (fun n hn => hsucc n hn.2) hended
      · intro n hn
        rcases hnext n hn.1 with hd | ⟨hm, -, he⟩
        · exact Or.inr hd
        · exact Or.inl ⟨hm, he (Or.inl hn.2)⟩
      · intro n hn ht
        rcases hnext n hn.1 with hd | ⟨-, hnone, -⟩
        · exact hd
        · rw [ht] at hnone
          cases hnone
    exact ⟨j, by omega, hd⟩

/-- The host gets through all blocks, by induction on those that are left. -/
theorem ready_leads_to_done
    (hsound : ∀ n, Talk.Sound (image blocks) (talk num config blocks schedule n))
    (hfair : ∀ n, SinkFair (talk num config blocks schedule n) (schedule n))
    (hroom : ∀ n, ∃ k, n ≤ k ∧ (schedule k).push.queue = .room)
    (hsucc : ∀ n, (talk num config blocks schedule n).device.sink.ended = true →
      ∃ k, n ≤ k ∧ (schedule k).verdict.task = some (.done (.ok ()))) (rest : List Block)
    {n : Nat} (h : (talk num config blocks schedule n).host = .ready rest) :
    ∃ k, (talk num config blocks schedule k).host = .done := by
  have hnext : talk num config blocks schedule (n + 1) =
      Talk.step num (talk num config blocks schedule n) (schedule n) := rfl
  induction rest generalizing n with
  | nil =>
      have hm : (talk num config blocks schedule (n + 1)).host = .manifesting := by
        rw [hnext]
        simp [Talk.step, h]
      obtain ⟨k, -, hd⟩ := manifesting_leads_to_done hsound hfair hroom hsucc hm
      exact ⟨k, hd⟩
  | cons block rest ih =>
      have hp : (talk num config blocks schedule (n + 1)).host = .polling rest := by
        rw [hnext]
        simp [Talk.step, h]
      obtain ⟨k, -, hr⟩ := polling_leads_to_ready hsound hfair hroom rest hp
      exact ih hr rfl

end Progress

/-- What the host can rely on at every moment of the conversation. -/
structure Talk.Exact (whole : Bytes) (m : Moments) (c : Talk) : Prop where
  notFailed : c.host ≠ .failed
  status : c.device.status = .ok
  free : ∀ rest, c.host = .ready rest → (c.device.poll m).2.pending = none
  single : c.host ≠ .done → c.device.retired = []
  installed : c.host = .done → c.device.state = .dfuIdle ∧ Installed whole c.device

theorem Talk.Sound.exact {whole : Bytes} {m : Moments} {c : Talk} (h : Talk.Sound whole c)
    (hfair : SinkFair c m) : Talk.Exact whole m c := by
  obtain ⟨host, d⟩ := c
  cases host with
  | ready rest =>
      obtain ⟨-, -, -, -, -, -, hp, -, -⟩ := Talk.Sound.ready_poll h hfair
      obtain ⟨received, body, chunks, -, hr, -, -⟩ := h
      refine ⟨by simp, hr.status, fun _ _ => hp, fun _ => hr.retired, ?_⟩
      intro hd
      cases hd
  | polling rest =>
      obtain ⟨received, body, chunks, -, hr, -⟩ := h
      refine ⟨by simp, hr.status, ?_, fun _ => hr.retired, ?_⟩
      · intro rest' hd
        cases hd
      · intro hd
        cases hd
  | manifesting =>
      obtain ⟨chunks, hm⟩ := h
      refine ⟨by simp, hm.status, ?_, fun _ => hm.retired, ?_⟩
      · intro rest' hd
        cases hd
      · intro hd
        cases hd
  | done =>
      obtain ⟨hi, hs⟩ := h
      refine ⟨by simp, hi.status, ?_, fun hd => absurd rfl hd, fun _ => ⟨hs, hi⟩⟩
      intro rest' hd
      cases hd
  | failed => exact h.elim

/-- A download is byte-exact for every image with a payload and every split into blocks. At every
moment the host has seen no error, a chunk that is submitted finds nothing held, and only one
session is in use; when the host is done, that session was handed exactly the payload and then
EOF, and the device is idle. The host is done at some moment, if there is room again and again and
success is reported after EOF. -/
theorem download_byte_exact (num : UInt16) (config : DfuConfig) (blocks : List Block)
    (schedule : Nat → Moments) (hne : payload (image blocks) ≠ [])
    (hfair : ∀ n, SinkFair (talk num config blocks schedule n) (schedule n)) :
    (∀ n, Talk.Exact (image blocks) (schedule n) (talk num config blocks schedule n)) ∧
      ((∀ n, ∃ k, n ≤ k ∧ (schedule k).push.queue = .room) →
        (∀ n, (talk num config blocks schedule n).device.sink.ended = true →
          ∃ k, n ≤ k ∧ (schedule k).verdict.task = some (.done (.ok ()))) →
        ∃ n, (talk num config blocks schedule n).host = .done) := by
  have hsound := talk_sound num config hne hfair
  refine ⟨fun n => (hsound n).exact (hfair n), ?_⟩
  intro hroom hsucc
  have hstart : (talk num config blocks schedule 0).host = .ready blocks := rfl
  exact ready_leads_to_done hsound hfair hroom hsucc blocks hstart

/-- Three bytes in one block, with room at once and success after EOF. -/
theorem download_byte_exact_short :
    let quiet : View := ⟨false, ⟨"mmc", "a"⟩, .room, none⟩
    let accepted : View := ⟨false, ⟨"mmc", "a"⟩, .room, some (.done (.ok ()))⟩
    let schedule : Nat → Moments := fun n =>
      if n = 3 then ⟨quiet, accepted, quiet⟩ else ⟨quiet, quiet, quiet⟩
    let config : DfuConfig := ⟨.default, none, 64, 10⟩
    let blocks : List Block := [⟨0, [1, 2, 3], by decide, by decide⟩]
    payload (image blocks) = [1, 2, 3] ∧
      (∀ n, SinkFair (talk 1 config blocks schedule n) (schedule n)) ∧
      (talk 1 config blocks schedule 4).host = .done ∧
      Installed (image blocks) (talk 1 config blocks schedule 4).device := by
  intro quiet accepted schedule config blocks
  have hpay : payload (image blocks) = [1, 2, 3] := by decide +kernel
  have hq : quiet.Accepting := ⟨rfl, by decide⟩
  have hfair : ∀ n, SinkFair (talk 1 config blocks schedule n) (schedule n) := by
    intro n
    by_cases hn : n = 3
    · subst hn
      exact ⟨fun _ => ⟨hq, hq⟩, Or.inr ⟨by decide +kernel, rfl⟩⟩
    · have hs : schedule n = ⟨quiet, quiet, quiet⟩ := if_neg hn
      rw [hs]
      exact ⟨fun _ => ⟨hq, hq⟩, Or.inl rfl⟩
  have hdone : (talk 1 config blocks schedule 4).host = .done := by decide +kernel
  have hexact := download_byte_exact 1 config blocks schedule (by rw [hpay]; decide) hfair
  exact ⟨hpay, hfair, hdone, ((hexact.1 4).installed hdone).2⟩

end SummitUsbgadget.DfuFunction
