import SummitUsbgadget.Swupdate.Transfer
import SummitUsbgadget.DfuFunction.Spec

/-!
# The device during a download

What the handler holds after it has received some bytes of an image: all but the last sixteen went
into the CRC and are with the session or in the held block (`Receiving`). After the zero-length
`DNLOAD` the payload, the image without a valid DFU suffix, is with the session or in the held
block, and EOF follows the last of it (`Manifesting`).
-/

set_option autoImplicit false

namespace SummitUsbgadget.DfuFunction

open SummitUsbgadget.Lib
open SummitUsbgadget.Swupdate

/-! ## The DFU suffix of an image -/

/-- The last sixteen bytes of the image are a DFU suffix for it. -/
def isSuffixed (image : Bytes) : Bool :=
  let suffix := image.drop (image.length - 16)
  decide (16 ≤ image.length) && (suffix.drop 8).take 3 == [0x55, 0x46, 0x44] &&
    suffix[11]? == some 16 &&
    u32FromLeBytes (suffix.drop 12) == ~~~ Crc32.hash (image.take (image.length - 4))

/-- What is to be installed. -/
def payload (image : Bytes) : Bytes :=
  if isSuffixed image then image.take (image.length - 16) else image

/-- The incremental check of the held back tail is the check of the whole image. -/
theorem hasValidDfuSuffix_eq {body tail : Bytes} (hw : tail.length ≤ dfuSuffixLen)
    (hf : body = [] ∨ tail.length = dfuSuffixLen) :
    hasValidDfuSuffix (Crc32.Hasher.new.update body) tail = isSuffixed (body ++ tail) := by
  have h16 : dfuSuffixLen = 16 := rfl
  by_cases hlen : tail.length = dfuSuffixLen
  · have hdrop : (body ++ tail).drop ((body ++ tail).length - 16) = tail := by
      have hb : (body ++ tail).length - 16 = body.length := by
        rw [List.length_append]
        omega
      rw [hb, List.drop_left]
    have htake : (body ++ tail).take ((body ++ tail).length - 4) = body ++ tail.take 12 := by
      have hb : (body ++ tail).length - 4 = body.length + 12 := by
        rw [List.length_append]
        omega
      rw [hb, List.take_length_add_append]
    have hge : 16 ≤ (body ++ tail).length := by
      rw [List.length_append]
      omega
    have hcrc : ((Crc32.Hasher.new.update body).update (tail.take 12)).finalize =
        Crc32.hash (body ++ tail.take 12) := Crc32.finalize_update_new _ _
    unfold isSuffixed hasValidDfuSuffix
    simp only [hdrop, htake, hge, hlen, h16, hcrc]
    -- the length byte is compared as a number by the one and as a byte by the other
    cases h11 : tail[11]? with
    | none => simp
    | some byte =>
        have hbyte : byte.toNat = 16 ↔ byte = 16 := by
          constructor
          · intro hb
            exact UInt8.toNat_inj.1 hb
          · rintro rfl
            rfl
        by_cases hu : (tail.drop 8).take 3 = [0x55, 0x46, 0x44]
        · by_cases hb : byte = 16
          · subst hb
            simp [hu, eq_comm]
          · simp [hu, hb, hbyte]
        · simp [hu]
  · have hbody : body = [] := hf.resolve_right hlen
    subst hbody
    have hlt : ¬ 16 ≤ tail.length := by omega
    unfold isSuffixed hasValidDfuSuffix
    simp [hlen, hlt]

theorem payload_of_suffixed {body tail : Bytes} (hs : isSuffixed (body ++ tail) = true)
    (hl : tail.length = dfuSuffixLen) : payload (body ++ tail) = body := by
  have h16 : dfuSuffixLen = 16 := rfl
  have hb : (body ++ tail).length - 16 = body.length := by
    rw [List.length_append]
    omega
  unfold payload
  rw [if_pos hs, hb, List.take_left]

theorem payload_of_not_suffixed {image : Bytes} (hs : isSuffixed image = false) :
    payload image = image := by
  unfold payload
  rw [if_neg (by simp [hs])]

theorem length_of_suffixed {image : Bytes} (hs : isSuffixed image = true) :
    16 ≤ image.length := by
  unfold isSuffixed at hs
  simp only [Bool.and_eq_true, decide_eq_true_eq] at hs
  exact hs.1.1.1

/-! ## Receiving -/

/-- `received` bytes of an image have arrived: `body` went into the CRC, the tail is held back,
and the session has taken `chunks`, all of `body` but the held block. -/
structure Receiving (received body : Bytes) (chunks : List Bytes) (d : Dfu) : Prop where
  split : received = body ++ d.downloadTail
  window : d.downloadTail.length ≤ dfuSuffixLen
  full : body = [] ∨ d.downloadTail.length = dfuSuffixLen
  crc : d.downloadCrc = Crc32.Hasher.new.update body
  handed : chunks.flatten ++ d.pendingBytes = body
  sink : d.sink.Feeding chunks
  status : d.status = .ok
  retired : d.retired = []

namespace Dfu

theorem receiving_new (config : DfuConfig) : Receiving [] [] [] (new config) where
  split := rfl
  window := Nat.zero_le _
  full := Or.inl rfl
  crc := (Crc32.Hasher.update_nil _).symm
  handed := rfl
  sink := Or.inl ⟨_, _, rfl, rfl⟩
  status := rfl
  retired := rfl

/-- The push of a held block to an accepting sink. -/
theorem pushPending_of_accepting {v : View} {d : Dfu} {chunk : Bytes} {chunks : List Bytes}
    (hv : v.Accepting) (hp : d.pending = some chunk) (hs : d.sink.Feeding chunks) :
    (v.queue = .room ∧ ∃ sink, sink.Streaming (chunks ++ [chunk]) ∧
        d.pushPending v =
          (.ok false, { d with sink := sink, pending := none }.eofIfManifesting)) ∨
      (v.queue = .full ∧ ∃ sink, sink.Streaming chunks ∧
        d.pushPending v = (.ok true, { d with sink := sink, pending := some chunk })) := by
  unfold pushPending
  rw [hp]
  simp only
  rcases Session.trySend_of_feeding chunk hv hs with ⟨hq, s', he, hst⟩ | ⟨hq, s', he, hst⟩
  · rw [he]
    exact Or.inl ⟨hq, s', hst, rfl⟩
  · rw [he]
    exact Or.inr ⟨hq, s', hst, rfl⟩

end Dfu

namespace Receiving

open Dfu

variable {received body : Bytes} {chunks : List Bytes} {d : Dfu}

/-- The state is no part of the invariant. -/
theorem of_state (h : Receiving received body chunks d) (s : State) :
    Receiving received body chunks { d with state := s } :=
  ⟨h.split, h.window, h.full, h.crc, h.handed, h.sink, h.status, h.retired⟩

theorem body_of_held (h : Receiving received body chunks d) {chunk : Bytes}
    (hp : d.pending = some chunk) : chunks.flatten ++ chunk = body := by
  rw [← h.handed, pendingBytes_of_some hp]

theorem body_of_free (h : Receiving received body chunks d) (hp : d.pending = none) :
    chunks.flatten = body := by
  rw [← h.handed, pendingBytes_of_none hp, List.append_nil]

/-- The push either moves the held block to the session or keeps it. -/
theorem pushPending (h : Receiving received body chunks d) {v : View} (hv : v.Accepting)
    (hst : d.state ≠ .manifest) :
    ∃ chunks' held, (d.pushPending v).1 = .ok held ∧
      Receiving received body chunks' (d.pushPending v).2 ∧
      (d.pushPending v).2.state = d.state ∧
      (d.pending = none ∨ v.queue = .room → (d.pushPending v).2.pending = none) := by
  cases hp : d.pending with
  | none =>
      rw [pushPending_of_none v hp, eofIfManifesting_of_ne hst]
      exact ⟨chunks, false, rfl, h, rfl, fun _ => hp⟩
  | some chunk =>
      have hbody := h.body_of_held hp
      rcases pushPending_of_accepting hv hp h.sink with
        ⟨-, sink, hs, he⟩ | ⟨hq, sink, hs, he⟩
      · have hst' : { d with sink := sink, pending := none }.state ≠ .manifest := hst
        rw [he, eofIfManifesting_of_ne hst']
        refine ⟨chunks ++ [chunk], false, rfl, ?_, rfl, fun _ => rfl⟩
        refine ⟨h.split, h.window, h.full, h.crc, ?_, Or.inr hs, h.status, h.retired⟩
        simpa [pendingBytes] using hbody
      · rw [he]
        refine ⟨chunks, true, rfl, ?_, rfl, ?_⟩
        · exact ⟨h.split, h.window, h.full, h.crc, hbody, Or.inr hs, h.status, h.retired⟩
        · rintro (hn | hr)
          · cases hn
          · rw [hq] at hr
            cases hr

/-- While the status task runs, the look at the verdict changes nothing. -/
theorem observe (h : Receiving received body chunks d) {v : View} (hv : v.task = none)
    (hst : d.state ≠ .manifest) : d.observe v = d := by
  rcases observe_cases v d with ⟨-, he⟩ | ⟨hw, ⟨err, hr⟩, -⟩ | ⟨hm, -, -⟩ | ⟨hw, -, he⟩
  · exact he
  · exfalso
    rcases h.sink with ⟨params, n, hn, -⟩ | hs
    · simp [watching, hst, hn, Session.isOpen, Session.new] at hw
    · rw [Session.pollStatus_of_running hv hs.status hs.terminal] at hr
      cases hr
  · exact absurd hm hst
  · rw [he]
    rcases h.sink with ⟨params, n, hn, -⟩ | hs
    · simp [watching, hst, hn, Session.isOpen, Session.new] at hw
    · rw [Session.pollStatus_of_running hv hs.status hs.terminal]

theorem poll (h : Receiving received body chunks d) {m : Moments} (hv : m.push.Accepting)
    (ht : m.verdict.task = none) (hst : d.state ≠ .manifest) :
    ∃ chunks', (d.poll m).1 = .ok () ∧ Receiving received body chunks' (d.poll m).2 ∧
      (d.poll m).2.state = d.state ∧
      (d.pending = none ∨ m.push.queue = .room → (d.poll m).2.pending = none) := by
  obtain ⟨chunks', held, hok, hr, hs, hp⟩ := h.pushPending hv hst
  have hobs := hr.observe ht (by rw [hs]; exact hst)
  rcases poll_cases m d with ⟨err, herr, -⟩ | ⟨-, -, he⟩
  · rw [hok] at herr
    cases herr
  · rw [he, hobs]
    exact ⟨chunks', rfl, hr, hs, hp⟩

/-- A chunk cut off between the body and the tail, submitted while nothing is held. -/
theorem submitChunk {v : View} {chunk : Bytes} (hv : v.Accepting) (hp : d.pending = none)
    (hst : d.state ≠ .manifest)
    (h : Receiving received body chunks { d with pending := some chunk }) :
    ∃ chunks', Receiving received body chunks' (d.submitChunk v chunk).2 ∧
      (d.submitChunk v chunk).2.state = d.state := by
  obtain ⟨chunks', held, -, hr, hs, -⟩ := h.pushPending hv hst
  rw [submitChunk_of_none v chunk hp]
  exact ⟨chunks', hr, hs⟩

theorem acceptBlock (h : Receiving received body chunks d) {v : View} (hv : v.Accepting)
    (hp : d.pending = none) (block : Bytes) :
    ∃ body' chunks', Receiving (received ++ block) body' chunks' (d.acceptBlock v block).2 ∧
      (d.acceptBlock v block).2.state = .dnloadSync := by
  have hbody := h.body_of_free hp
  by_cases hlen : (d.downloadTail ++ block).length ≤ dfuSuffixLen
  · rw [acceptBlock_of_short v hlen]
    refine ⟨body, chunks, ?_, rfl⟩
    refine ⟨?_, hlen, ?_, h.crc, h.handed, h.sink, rfl, h.retired⟩
    · rw [h.split, List.append_assoc]
    · -- a full window has no room for another byte, so the block is empty or nothing was cut off
      rcases h.full with hb | hf
      · exact Or.inl hb
      · refine Or.inr ?_
        rw [List.length_append] at hlen ⊢
        omega
  · -- the window is full afterwards, and what was in front of it is one chunk
    rw [acceptBlock_of_long v (by omega)]
    generalize hn : (d.downloadTail ++ block).length - dfuSuffixLen = n
    have hheld : Receiving (received ++ block) (body ++ (d.downloadTail ++ block).take n) chunks
        { d with
          state := .dnloadSync
          status := .ok
          downloadTail := (d.downloadTail ++ block).drop n
          downloadCrc := d.downloadCrc.update ((d.downloadTail ++ block).take n)
          pending := some ((d.downloadTail ++ block).take n) } := by
      refine ⟨?_, ?_, Or.inr ?_, ?_, ?_, h.sink, rfl, h.retired⟩
      · show received ++ block =
          body ++ (d.downloadTail ++ block).take n ++ (d.downloadTail ++ block).drop n
        rw [h.split, List.append_assoc, List.append_assoc, List.take_append_drop]
      · show ((d.downloadTail ++ block).drop n).length ≤ dfuSuffixLen
        rw [List.length_drop]
        omega
      · show ((d.downloadTail ++ block).drop n).length = dfuSuffixLen
        rw [List.length_drop]
        omega
      · show d.downloadCrc.update _ = _
        rw [h.crc, Crc32.Hasher.update_update]
      · show chunks.flatten ++ (d.downloadTail ++ block).take n = _
        rw [hbody]
    exact ⟨_, submitChunk hv hp (by simp) hheld⟩

/-- The check of the tail is the check of everything that was received. -/
theorem validSuffix_eq (h : Receiving received body chunks d) :
    hasValidDfuSuffix d.downloadCrc d.downloadTail = isSuffixed received := by
  have hsuf := hasValidDfuSuffix_eq h.window h.full
  rw [← h.crc, ← h.split] at hsuf
  exact hsuf

/-- If nothing but a suffix is held back, the body is the payload. -/
theorem payload_eq_body (h : Receiving received body chunks d)
    (hcond : d.downloadTail = [] ∨ hasValidDfuSuffix d.downloadCrc d.downloadTail = true) :
    payload received = body := by
  rcases hcond with htail | hvalid
  · have hrec : received = body := by rw [h.split, htail, List.append_nil]
    cases hs : isSuffixed received with
    | false => rw [payload_of_not_suffixed hs, hrec]
    | true =>
        -- sixteen bytes are there, so the window cannot be empty
        exfalso
        have hlen := length_of_suffixed hs
        rcases h.full with hb | hf
        · rw [hrec, hb] at hlen
          cases hlen
        · rw [htail] at hf
          cases hf
  · rw [h.validSuffix_eq] at hvalid
    have hfull : d.downloadTail.length = dfuSuffixLen := by
      have h16 : dfuSuffixLen = 16 := rfl
      have hlen := length_of_suffixed hvalid
      rw [h.split, List.length_append] at hlen
      have hw := h.window
      rcases h.full with hb | hf
      · rw [hb, List.length_nil] at hlen
        omega
      · exact hf
    rw [h.split] at hvalid ⊢
    exact payload_of_suffixed hvalid hfull

end Receiving

/-! ## Manifestation -/

/-- The session has taken `chunks` of the payload, and the rest is held or EOF was signalled. -/
structure Manifesting (image : Bytes) (chunks : List Bytes) (d : Dfu) : Prop where
  state : d.state = .manifest
  status : d.status = .ok
  retired : d.retired = []
  handed : chunks.flatten ++ d.pendingBytes = payload image
  sink : (d.pending.isSome ∧ d.sink.Streaming chunks) ∨ (d.pending = none ∧ d.sink.Ended chunks)

/-- The payload went to one session, as `chunks` with EOF after them, and the session was
replaced by one that is unused. -/
structure Installed (image : Bytes) (d : Dfu) : Prop where
  status : d.status = .ok
  pending : d.pending = none
  sink : d.sink = Session.new d.download d.transferSize.toNat
  transfer : ∃ (session : Session) (chunks : List Bytes) (spec : BackendSpec)
      (updateType : EffectiveUpdateType), d.retired = [session] ∧
    session.history = .spawned 0 spec :: chunks.map (.fed 0) ++ [.eof 0, .restartTask updateType] ∧
    chunks.flatten = payload image

namespace Manifesting

open Dfu

variable {image : Bytes} {chunks : List Bytes} {d : Dfu}

/-- With the last chunk taken, EOF follows at once. -/
theorem of_streaming (hstate : d.state = .manifest) (hstatus : d.status = .ok)
    (hret : d.retired = []) (hp : d.pending = none) (hall : chunks.flatten = payload image)
    (hs : d.sink.Streaming chunks) : Manifesting image chunks d.eofIfManifesting := by
  rw [eofIfManifesting_of_manifest hstate]
  refine ⟨hstate, hstatus, hret, ?_, Or.inr ⟨hp, Session.ended_eof hs⟩⟩
  simpa [pendingBytes, hp] using hall

/-- The push of the last held chunk. -/
theorem of_pushPending {v : View} {chunk : Bytes} (hv : v.Accepting)
    (hstate : d.state = .manifest) (hstatus : d.status = .ok) (hret : d.retired = [])
    (hp : d.pending = some chunk) (hall : chunks.flatten ++ chunk = payload image)
    (hs : d.sink.Feeding chunks) :
    ∃ chunks' held, (d.pushPending v).1 = .ok held ∧
      Manifesting image chunks' (d.pushPending v).2 ∧
      (v.queue = .room → (d.pushPending v).2.pending = none) := by
  rcases pushPending_of_accepting hv hp hs with ⟨-, sink, hsink, he⟩ | ⟨hq, sink, hsink, he⟩
  · rw [he]
    have hm : Manifesting image (chunks ++ [chunk])
        { d with sink := sink, pending := none }.eofIfManifesting :=
      of_streaming hstate hstatus hret rfl (by simpa using hall) hsink
    refine ⟨chunks ++ [chunk], false, rfl, hm, fun _ => ?_⟩
    rcases hm.sink with ⟨hsome, -⟩ | ⟨hnone, -⟩
    · obtain ⟨sink', hfr⟩ := eofIfManifesting_frame { d with sink := sink, pending := none }
      rw [hfr] at hsome
      cases hsome
    · exact hnone
  · rw [he]
    refine ⟨chunks, true, rfl, ?_, ?_⟩
    · exact ⟨hstate, hstatus, hret, hall, Or.inl ⟨rfl, hsink⟩⟩
    · intro hr
      rw [hq] at hr
      cases hr

theorem pushPending (h : Manifesting image chunks d) {v : View}
    (hv : d.sink.ended = false → v.Accepting) :
    ∃ chunks' held, (d.pushPending v).1 = .ok held ∧
      Manifesting image chunks' (d.pushPending v).2 ∧
      (d.pending = none ∨ v.queue = .room → (d.pushPending v).2.pending = none) := by
  rcases h.sink with ⟨hsome, hs⟩ | ⟨hp, hs⟩
  · obtain ⟨chunk, hp⟩ := Option.isSome_iff_exists.1 hsome
    have hall : chunks.flatten ++ chunk = payload image := by
      rw [← h.handed, pendingBytes_of_some hp]
    obtain ⟨chunks', held, hok, hm, hroom⟩ := of_pushPending (hv hs.not_ended) h.state h.status
      h.retired hp hall (Or.inr hs)
    refine ⟨chunks', held, hok, hm, ?_⟩
    rintro (hn | hr)
    · rw [hn] at hp
      cases hp
    · exact hroom hr
  · -- EOF is idempotent: the sender is gone already
    have heof : d.sink.eof = d.sink := Session.eof_of_none hs.tx
    have he : d.pushPending v = (.ok false, d) := by
      rw [pushPending_of_none v hp, eofIfManifesting_of_manifest h.state, heof]
    rw [he]
    exact ⟨chunks, false, rfl, h, fun _ => hp⟩

/-- While the status task runs, the look at the verdict changes nothing. -/
theorem observe_of_running (h : Manifesting image chunks d) {v : View} (hv : v.task = none) :
    d.observe v = d := by
  have hst : d.sink.status = some 0 ∧ d.sink.terminal = none := by
    rcases h.sink with ⟨-, hs⟩ | ⟨-, hs⟩
    · exact ⟨hs.status, hs.terminal⟩
    · exact ⟨hs.status, hs.terminal⟩
  have hpoll := Session.pollStatus_of_running hv hst.1 hst.2
  rcases observe_cases v d with ⟨-, he⟩ | ⟨-, ⟨err, hr⟩, -⟩ | ⟨-, hr, -⟩ | ⟨-, -, he⟩
  · exact he
  · rw [hpoll] at hr
    cases hr
  · rw [hpoll] at hr
    cases hr
  · rw [he, hpoll]

/-- The success verdict after EOF. -/
theorem observe_of_success (h : Manifesting image chunks d) {v : View}
    (hend : d.sink.ended = true) (hv : v.task = some (.done (.ok ()))) :
    Installed image (d.observe v) ∧ (d.observe v).state = .manifestSync := by
  rcases h.sink with ⟨-, hs⟩ | ⟨hp, hs⟩
  · rw [hs.not_ended] at hend
    cases hend
  · obtain ⟨hok, spec, u, hh⟩ := Session.pollStatus_of_success hs hv
    have hall : chunks.flatten = payload image := by
      rw [← h.handed, pendingBytes_of_none hp, List.append_nil]
    rcases observe_cases v d with ⟨hw, -⟩ | ⟨-, ⟨err, hr⟩, -⟩ | ⟨-, -, he⟩ | ⟨-, hr, -⟩
    · simp [watching, h.state] at hw
    · rw [hok] at hr
      cases hr
    · rw [he]
      refine ⟨⟨rfl, rfl, rfl, (d.sink.pollStatus v).2, chunks, spec, u, ?_, hh, hall⟩, rfl⟩
      show d.retired ++ [(d.sink.pollStatus v).2] = _
      rw [h.retired, List.nil_append]
    · rcases hr with hr | ⟨hne, -⟩
      · rw [hok] at hr
        cases hr
      · exact absurd h.state hne

/-- The zero-length `DNLOAD` after the last block. -/
theorem of_receiving {received body : Bytes} (h : Receiving received body chunks d)
    {m : Moments} (hv : m.submit.Accepting) (hp : d.pending = none)
    (hne : payload received ≠ []) :
    ∃ chunks', Manifesting received chunks' (d.manifest m).2 := by
  have hbody := h.body_of_free hp
  rcases manifest_cases m d with ⟨hcond, he⟩ | ⟨⟨-, hinv⟩, he⟩
  · have hpay := h.payload_eq_body hcond
    -- a payload has bytes, so a transfer is open for EOF to end
    have hs : d.sink.Streaming chunks := by
      rcases h.sink with ⟨params, n, -, hnil⟩ | hs
      · exfalso
        rw [hnil] at hbody
        rw [← hbody] at hpay
        exact hne hpay
      · exact hs
    rw [he, pushPending_of_none m.submit (by exact hp)]
    exact ⟨chunks, of_streaming
      (d := { d with status := .ok, state := .manifest, downloadTail := [] }) rfl rfl h.retired hp
      (hbody.trans hpay.symm) hs⟩
  · -- the tail belongs to the payload and is its last chunk
    rw [h.validSuffix_eq] at hinv
    rw [he, submitChunk_of_none m.submit d.downloadTail (by exact hp)]
    have hall : chunks.flatten ++ d.downloadTail = payload received := by
      rw [payload_of_not_suffixed hinv, hbody, ← h.split]
    obtain ⟨chunks', -, -, hm, -⟩ := of_pushPending
      (d := { d with
        status := .ok
        state := .manifest
        downloadTail := []
        pending := some d.downloadTail }) hv rfl rfl h.retired rfl hall h.sink
    exact ⟨chunks', hm⟩

end Manifesting

end SummitUsbgadget.DfuFunction
