import SummitUsbgadget.Swupdate.Feed
import SummitUsbgadget.DfuFunction.Handler

/-!
# What the parts of a DFU request do

One inversion lemma for each part that every request goes through: the push of the held block,
the look at the verdict, and the poll made of both. The results about whole requests use these
and never unfold the parts.
-/

set_option autoImplicit false

namespace SummitUsbgadget.DfuFunction

open SummitUsbgadget.Lib (Crc32.Hasher)
open SummitUsbgadget.Swupdate

namespace Dfu

/-- All chunks any session of this handler has accepted, in order. -/
def fedBytes (d : Dfu) : Bytes := (d.retired.map Session.fedBytes).flatten ++ d.sink.fedBytes

/-- The bytes of the held block. -/
def pendingBytes (d : Dfu) : Bytes := d.pending.getD []

theorem pendingBytes_of_none {d : Dfu} (h : d.pending = none) : d.pendingBytes = [] := by
  rw [pendingBytes, h]
  rfl

theorem pendingBytes_of_some {d : Dfu} {chunk : Bytes} (h : d.pending = some chunk) :
    d.pendingBytes = chunk := by
  rw [pendingBytes, h]
  rfl

theorem eofIfManifesting_eq (d : Dfu) :
    d.eofIfManifesting = d ∨
      (d.state = .manifest ∧ d.eofIfManifesting = { d with sink := d.sink.eof }) := by
  unfold eofIfManifesting
  by_cases h : d.state = .manifest
  · exact Or.inr ⟨h, if_pos h⟩
  · exact Or.inl (if_neg h)

theorem eofIfManifesting_of_ne {d : Dfu} (h : d.state ≠ .manifest) : d.eofIfManifesting = d :=
  if_neg h

theorem eofIfManifesting_of_manifest {d : Dfu} (h : d.state = .manifest) :
    d.eofIfManifesting = { d with sink := d.sink.eof } :=
  if_pos h

theorem eofIfManifesting_frame (d : Dfu) :
    ∃ sink, d.eofIfManifesting = { d with sink := sink } := by
  rcases eofIfManifesting_eq d with h | ⟨-, h⟩
  · exact ⟨d.sink, h⟩
  · exact ⟨d.sink.eof, h⟩

theorem pushPending_of_none (v : View) {d : Dfu} (h : d.pending = none) :
    d.pushPending v = (.ok false, d.eofIfManifesting) := by
  unfold pushPending
  rw [h]

/-- What the push of a held block does: it is lost with an error, kept while the queue is full,
or gone, accepted or discarded. -/
theorem pushPending_of_some (v : View) {d : Dfu} {chunk : Bytes} (h : d.pending = some chunk) :
    (∃ err sink, d.sink.trySend v chunk = (.error err, sink) ∧
        d.pushPending v = (.error err, { d with sink := sink, pending := none })) ∨
      (∃ c sink, d.sink.trySend v chunk = (.ok (.full c), sink) ∧
        d.pushPending v = (.ok true, { d with sink := sink, pending := some c })) ∨
      (∃ feed sink, d.sink.trySend v chunk = (.ok feed, sink) ∧ (∀ c, feed ≠ .full c) ∧
        d.pushPending v =
          (.ok false, { d with sink := sink, pending := none }.eofIfManifesting)) := by
  unfold pushPending
  rw [h]
  simp only
  generalize d.sink.trySend v chunk = r
  obtain ⟨res, sink⟩ := r
  cases res with
  | error err => exact Or.inl ⟨err, sink, rfl, rfl⟩
  | ok feed =>
      cases feed with
      | full c => exact Or.inr (Or.inl ⟨c, sink, rfl, rfl⟩)
      | ok n => exact Or.inr (Or.inr ⟨.ok n, sink, rfl, nofun, rfl⟩)
      | closed => exact Or.inr (Or.inr ⟨.closed, sink, rfl, nofun, rfl⟩)

/-- The push touches the sink and the held block only. -/
theorem pushPending_frame (v : View) (d : Dfu) :
    ∃ sink pending, (d.pushPending v).2 = { d with sink := sink, pending := pending } := by
  cases hp : d.pending with
  | none =>
      obtain ⟨sink, h⟩ := eofIfManifesting_frame d
      refine ⟨sink, none, ?_⟩
      rw [pushPending_of_none v hp, h, hp]
  | some chunk =>
      rcases pushPending_of_some v hp with
        ⟨err, sink, -, h⟩ | ⟨c, sink, -, h⟩ | ⟨feed, sink, -, -, h⟩
      · exact ⟨sink, none, by rw [h]⟩
      · exact ⟨sink, some c, by rw [h]⟩
      · obtain ⟨sink', h'⟩ := eofIfManifesting_frame { d with sink := sink, pending := none }
        exact ⟨sink', none, by rw [h, h']⟩

/-- A push fails only because the session must not open. -/
theorem pushPending_result (v : View) (d : Dfu) :
    (∃ held, (d.pushPending v).1 = .ok held) ∨
      (d.pushPending v).1 = .error restartPendingError := by
  cases hp : d.pending with
  | none =>
      rw [pushPending_of_none v hp]
      exact Or.inl ⟨false, rfl⟩
  | some chunk =>
      rcases pushPending_of_some v hp with
        ⟨err, sink, hsend, h⟩ | ⟨c, sink, -, h⟩ | ⟨feed, sink, -, -, h⟩
      · rw [h]
        -- an offer never fails, so the session could not be opened
        rcases Session.trySend_eq_offer v chunk d.sink with ⟨-, -, hs⟩ | hs
        · rw [hs] at hsend
          cases hsend
          exact Or.inr rfl
        · rw [hs] at hsend
          cases hsend
      · rw [h]
        exact Or.inl ⟨true, rfl⟩
      · rw [h]
        exact Or.inl ⟨false, rfl⟩

/-- The verdict is looked at: during manifestation, or while the session is open. -/
def watching (d : Dfu) : Bool := d.state == .manifest || d.sink.isOpen

/-- The handler after a failure verdict that left the session as `sink`. -/
def failed (sink : Session) (d : Dfu) : Dfu :=
  { d with
    sink := sink
    downloadCrc := Crc32.Hasher.new
    pending := none }.replaceSink.fault .errVerify

/-- The handler after the success verdict of a manifestation. -/
def manifested (sink : Session) (d : Dfu) : Dfu :=
  { { d with
      sink := sink
      downloadCrc := Crc32.Hasher.new
      pending := none }.replaceSink with
    status := .ok
    state := .manifestSync }

/-- What looking at the verdict does. -/
theorem observe_cases (v : View) (d : Dfu) :
    (d.watching = false ∧ d.observe v = d) ∨
      (d.watching = true ∧ (∃ err, (d.sink.pollStatus v).1 = some (.error err)) ∧
        d.observe v = d.failed (d.sink.pollStatus v).2) ∨
      (d.state = .manifest ∧ (d.sink.pollStatus v).1 = some (.ok ()) ∧
        d.observe v = d.manifested (d.sink.pollStatus v).2) ∨
      (d.watching = true ∧
        ((d.sink.pollStatus v).1 = none ∨
          (d.state ≠ .manifest ∧ (d.sink.pollStatus v).1 = some (.ok ()))) ∧
        d.observe v = { d with sink := (d.sink.pollStatus v).2 }) := by
  unfold observe watching Session.tryFinished
  by_cases hg : (d.state == .manifest || d.sink.isOpen) = true
  · rw [if_pos hg]
    generalize d.sink.pollStatus v = r
    obtain ⟨res, sink⟩ := r
    cases res with
    | none => exact Or.inr (Or.inr (Or.inr ⟨hg, Or.inl rfl, rfl⟩))
    | some verdict =>
        cases verdict with
        | error err => exact Or.inr (Or.inl ⟨hg, ⟨err, rfl⟩, rfl⟩)
        | ok u =>
            -- success counts during manifestation only
            by_cases hm : d.state = .manifest
            · exact Or.inr (Or.inr (Or.inl ⟨hm, rfl, by simp [hm, manifested]⟩))
            · exact Or.inr (Or.inr (Or.inr ⟨hg, Or.inr ⟨hm, rfl⟩, by simp [hm]⟩))
  · rw [if_neg hg]
    exact Or.inl ⟨by simpa using hg, rfl⟩

/-- The poll stops at a failed push; otherwise it looks at the verdict. -/
theorem poll_cases (m : Moments) (d : Dfu) :
    (∃ err, (d.pushPending m.push).1 = .error err ∧
        d.poll m = (.error err, (d.pushPending m.push).2)) ∨
      (∃ held, (d.pushPending m.push).1 = .ok held ∧
        d.poll m = (.ok (), (d.pushPending m.push).2.observe m.verdict)) := by
  unfold poll
  generalize d.pushPending m.push = r
  obtain ⟨res, d'⟩ := r
  cases res with
  | error err => exact Or.inl ⟨err, rfl, rfl⟩
  | ok held => exact Or.inr ⟨held, rfl, rfl⟩

theorem poll_result (m : Moments) (d : Dfu) :
    (d.poll m).1 = .ok () ∨ (d.poll m).1 = .error restartPendingError := by
  rcases poll_cases m d with ⟨err, herr, heq⟩ | ⟨held, -, heq⟩
  · rw [heq]
    rcases pushPending_result m.push d with ⟨held, hok⟩ | h
    · rw [herr] at hok
      cases hok
    · rw [herr] at h
      cases h
      exact Or.inr rfl
  · rw [heq]
    exact Or.inl rfl

theorem submitChunk_of_some (v : View) (chunk : Bytes) {d : Dfu} (h : d.pending.isSome) :
    d.submitChunk v chunk = (.ok (), d.abortWithFault .errStalledPkt) := by
  unfold submitChunk
  rw [if_pos h]

/-- A chunk submitted while nothing is held is held and pushed at once. -/
theorem submitChunk_of_none (v : View) (chunk : Bytes) {d : Dfu} (h : d.pending = none) :
    d.submitChunk v chunk =
      (({ d with pending := some chunk }.pushPending v).1.map fun _ => (),
        ({ d with pending := some chunk }.pushPending v).2) := by
  unfold submitChunk
  rw [if_neg (by simp [h])]
  generalize { d with pending := some chunk }.pushPending v = r
  obtain ⟨res, d'⟩ := r
  cases res with
  | error err => rfl
  | ok held => rfl

theorem submitChunk_result (v : View) (chunk : Bytes) (d : Dfu) :
    (d.submitChunk v chunk).1 = .ok () ∨
      (d.submitChunk v chunk).1 = .error restartPendingError := by
  cases hp : d.pending with
  | some c =>
      rw [submitChunk_of_some v chunk (by simp [hp])]
      exact Or.inl rfl
  | none =>
      rw [submitChunk_of_none v chunk hp]
      rcases pushPending_result v { d with pending := some chunk } with ⟨held, h⟩ | h
      · rw [h]
        exact Or.inl rfl
      · rw [h]
        exact Or.inr rfl

/-- A block that fits the suffix window together with the tail only becomes the tail. -/
theorem acceptBlock_of_short (v : View) {block : Bytes} {d : Dfu}
    (h : (d.downloadTail ++ block).length ≤ dfuSuffixLen) :
    d.acceptBlock v block = (.ok (), { d with
      state := .dnloadSync
      status := .ok
      downloadTail := d.downloadTail ++ block }) := by
  have hf : flushableLen (d.downloadTail ++ block).length = none := if_neg (by omega)
  unfold acceptBlock
  simp only [hf]

/-- Any other block sends out everything before the suffix window. -/
theorem acceptBlock_of_long (v : View) {block : Bytes} {d : Dfu}
    (h : dfuSuffixLen < (d.downloadTail ++ block).length) :
    d.acceptBlock v block =
      { d with
        state := .dnloadSync
        status := .ok
        downloadTail := (d.downloadTail ++ block).drop
          ((d.downloadTail ++ block).length - dfuSuffixLen)
        downloadCrc := d.downloadCrc.update ((d.downloadTail ++ block).take
          ((d.downloadTail ++ block).length - dfuSuffixLen)) }.submitChunk v
        ((d.downloadTail ++ block).take ((d.downloadTail ++ block).length - dfuSuffixLen)) := by
  have hf : flushableLen (d.downloadTail ++ block).length =
      some ((d.downloadTail ++ block).length - dfuSuffixLen) := if_pos h
  unfold acceptBlock
  simp only [hf]

theorem acceptBlock_result (v : View) (block : Bytes) (d : Dfu) :
    (d.acceptBlock v block).1 = .ok () ∨
      (d.acceptBlock v block).1 = .error restartPendingError := by
  by_cases h : (d.downloadTail ++ block).length ≤ dfuSuffixLen
  · rw [acceptBlock_of_short v h]
    exact Or.inl rfl
  · rw [acceptBlock_of_long v (by omega)]
    exact submitChunk_result v _ _

/-- The handler at the beginning of its manifestation. -/
def manifesting (d : Dfu) : Dfu := { d with status := .ok, state := .manifest, downloadTail := [] }

/-- With an empty tail, or a valid suffix in it, manifestation only pushes. -/
theorem manifest_of_suffix (m : Moments) {d : Dfu}
    (h : d.downloadTail = [] ∨ hasValidDfuSuffix d.downloadCrc d.downloadTail = true) :
    d.manifest m = ((d.manifesting.pushPending m.submit).1.map fun _ => (),
      (d.manifesting.pushPending m.submit).2) := by
  unfold manifest manifesting
  simp only
  rw [if_pos (by simpa using h)]
  generalize { d with status := .ok, state := .manifest, downloadTail := [] }.pushPending
    m.submit = r
  obtain ⟨res, d'⟩ := r
  cases res with
  | error err => rfl
  | ok held => rfl

/-- Any other tail is the last chunk. -/
theorem manifest_of_tail (m : Moments) {d : Dfu}
    (h : ¬ (d.downloadTail = [] ∨ hasValidDfuSuffix d.downloadCrc d.downloadTail = true)) :
    d.manifest m = d.manifesting.submitChunk m.submit d.downloadTail := by
  unfold manifest manifesting
  simp only
  rw [if_neg (by simpa using h)]

/-- Manifestation only pushes when the tail is empty or a valid suffix; otherwise the tail is the
last chunk. -/
theorem manifest_cases (m : Moments) (d : Dfu) :
    ((d.downloadTail = [] ∨ hasValidDfuSuffix d.downloadCrc d.downloadTail = true) ∧
        (d.manifest m).2 = ({ d with
          status := .ok
          state := .manifest
          downloadTail := [] }.pushPending m.submit).2) ∨
      ((d.downloadTail ≠ [] ∧ hasValidDfuSuffix d.downloadCrc d.downloadTail = false) ∧
        (d.manifest m).2 = ({ d with
          status := .ok
          state := .manifest
          downloadTail := [] }.submitChunk m.submit d.downloadTail).2) := by
  by_cases h : d.downloadTail = [] ∨ hasValidDfuSuffix d.downloadCrc d.downloadTail = true
  · exact Or.inl ⟨h, congrArg Prod.snd (manifest_of_suffix m h)⟩
  · obtain ⟨hne, hinvalid⟩ := not_or.1 h
    exact Or.inr ⟨⟨hne, by simpa using hinvalid⟩, congrArg Prod.snd (manifest_of_tail m h)⟩

/-- The upload block that `req` asks for is shorter than a full block. -/
def endsUpload (d : Dfu) (req : CtrlReq) : Prop :=
  match d.upload with
  | none => False
  | some (.data data) =>
      data.length < req.value.toNat * d.transferSize.toNat + d.transferSize.toNat

theorem uploadBlock_eq (req : CtrlReq) (d : Dfu) :
    (d.uploadBlock req).2 = d ∨
      (d.endsUpload req ∧ (d.uploadBlock req).2 = { d with state := .dfuIdle }) ∨
      (d.uploadBlock req).2 = { d with state := .uploadIdle } := by
  unfold uploadBlock endsUpload
  cases hu : d.upload with
  | none => exact Or.inl rfl
  | some source =>
      obtain ⟨data⟩ := source
      simp only
      -- the block is short exactly if the data ends before the block does
      split
      · rename_i hlen
        simp only [List.length_take, List.length_drop] at hlen
        exact Or.inr (Or.inl ⟨by omega, rfl⟩)
      · exact Or.inr (Or.inr rfl)

/-- An upload block touches the state only. -/
theorem uploadBlock_frame (req : CtrlReq) (d : Dfu) :
    ∃ state, (d.uploadBlock req).2 = { d with state := state } := by
  rcases uploadBlock_eq req d with he | ⟨-, he⟩ | he
  · exact ⟨d.state, he⟩
  · exact ⟨.dfuIdle, he⟩
  · exact ⟨.uploadIdle, he⟩

/-- The poll never enters `dfuIDLE`, and leaves the error state and the manifestation only for
each other. -/
theorem poll_state (m : Moments) (d : Dfu) :
    (d.poll m).2.state = d.state ∨ (d.poll m).2.state = .error ∨
      (d.state = .manifest ∧ (d.poll m).2.state = .manifestSync) := by
  obtain ⟨sink, pending, hfr⟩ := pushPending_frame m.push d
  have hst : (d.pushPending m.push).2.state = d.state := by rw [hfr]
  rcases poll_cases m d with ⟨err, -, he⟩ | ⟨held, -, he⟩
  · rw [he]
    exact Or.inl hst
  · rw [he]
    rcases observe_cases m.verdict (d.pushPending m.push).2 with
      ⟨-, ho⟩ | ⟨-, -, ho⟩ | ⟨hm, -, ho⟩ | ⟨-, -, ho⟩
    · rw [ho]
      exact Or.inl hst
    · rw [ho]
      exact Or.inr (Or.inl rfl)
    · rw [ho]
      exact Or.inr (Or.inr ⟨hst ▸ hm, rfl⟩)
    · rw [ho]
      exact Or.inl hst

/-- The poll keeps the configuration. -/
theorem poll_config (m : Moments) (d : Dfu) :
    (d.poll m).2.upload = d.upload ∧ (d.poll m).2.transferSize = d.transferSize := by
  obtain ⟨sink, pending, hfr⟩ := pushPending_frame m.push d
  rcases poll_cases m d with ⟨err, -, he⟩ | ⟨held, -, he⟩
  · rw [he, hfr]
    exact ⟨rfl, rfl⟩
  · rw [he]
    rcases observe_cases m.verdict (d.pushPending m.push).2 with
      ⟨-, ho⟩ | ⟨-, -, ho⟩ | ⟨-, -, ho⟩ | ⟨-, -, ho⟩
    · rw [ho, hfr]
      exact ⟨rfl, rfl⟩
    · rw [ho, hfr]
      exact ⟨rfl, rfl⟩
    · rw [ho, hfr]
      exact ⟨rfl, rfl⟩
    · rw [ho, hfr]
      exact ⟨rfl, rfl⟩

end Dfu

end SummitUsbgadget.DfuFunction
