import SummitUsbgadget.Lib.Machine
import SummitUsbgadget.DfuFunction.Spec

/-!
# What an event can do to the handler

`StepTo` lists, once, everything that one event can do: it leaves the handler alone, tears the
transfer down, or is a request that polls and is then dispatched on the polled state
(`Dispatch`). Every invariant of the handler is a case analysis over these two relations.
`SinkInvariant.step` is the rule for what holds of the handler's session whatever happens.
-/

set_option autoImplicit false

namespace SummitUsbgadget.DfuFunction

open SummitUsbgadget.Lib (Crc32.Hasher)
open SummitUsbgadget.Swupdate

/-- What `CLRSTATUS` does outside the error and manifestation states. -/
def Dfu.clearStatus (d : Dfu) : Dfu :=
  { d with
    status := .ok
    state := .dfuIdle
    downloadTail := []
    downloadCrc := Crc32.Hasher.new }

/-- What a request does to the polled handler `d`. -/
inductive Dispatch (m : Moments) (d : Dfu) : Event → Dfu → Prop where
  | finishing {req stage} (hb : req.announcesBlock) (hf : d.isFinishing = true) :
      Dispatch m d (.setupHostToDevice req stage) d
  | stageClosed {req err} (hb : req.announcesBlock) (hf : d.isFinishing = false)
      (hc : isClosedTransportError err = true) :
      Dispatch m d (.setupHostToDevice req (.error err)) d.teardown
  | stageFailed {req err} (hb : req.announcesBlock) (hf : d.isFinishing = false)
      (hc : isClosedTransportError err = false) :
      Dispatch m d (.setupHostToDevice req (.error err)) d
  | block {req data} (hb : req.announcesBlock) (hf : d.isFinishing = false) :
      Dispatch m d (.setupHostToDevice req (.ok data))
        (d.acceptBlock m.submit (data.take req.length.toNat)).2
  | detach {req data} (hr : req.request = Request.detach) :
      Dispatch m d (.setupHostToDevice req (.ok data)) { d with state := .appDetach }
  | manifest {req data} (hr : req.request = Request.dnload) (hl : req.length = 0) :
      Dispatch m d (.setupHostToDevice req (.ok data)) (d.manifest m).2
  | clrAbort {req data} (hr : req.request = Request.clrStatus)
      (hs : d.state = .error ∨ d.isFinishing = true) :
      Dispatch m d (.setupHostToDevice req (.ok data)) d.teardown
  | clrStatus {req data} (hr : req.request = Request.clrStatus) (hs : d.state ≠ .error)
      (hf : d.isFinishing = false) :
      Dispatch m d (.setupHostToDevice req (.ok data)) d.clearStatus
  | abort {req data} (hr : req.request = Request.abort) :
      Dispatch m d (.setupHostToDevice req (.ok data)) d.teardown
  | unsupportedOut {req data} (hr : req.request ∉ [Request.detach, Request.dnload,
      Request.clrStatus, Request.abort]) :
      Dispatch m d (.setupHostToDevice req (.ok data)) (d.fault .errStalledPkt)
  | getStatus {req} (hr : req.request = Request.getStatus) :
      Dispatch m d (.setupDeviceToHost req) d.getStatus.2
  | getState {req} (hr : req.request = Request.getState) :
      Dispatch m d (.setupDeviceToHost req) d
  | noUpload {req} (hr : req.request = Request.upload) (hu : d.upload = none) :
      Dispatch m d (.setupDeviceToHost req) d
  | upload {req} (hr : req.request = Request.upload) (hu : d.upload.isSome) :
      Dispatch m d (.setupDeviceToHost req) (d.uploadBlock req).2
  | unsupportedIn {req} (hr : req.request ∉ [Request.getStatus, Request.getState,
      Request.upload]) :
      Dispatch m d (.setupDeviceToHost req) (d.fault .errStalledPkt)

/-- The request polls before anything else. A host-to-device request without a data block is
drained first, so it polls only if that worked. -/
def Event.polls : Event → Prop
  | .setupHostToDevice req (.ok _) => isDfuRequest req = true
  | .setupHostToDevice req (.error _) => isDfuRequest req = true ∧ req.announcesBlock
  | .setupDeviceToHost req => isDfuRequest req = true
  | _ => False

instance : (e : Event) → Decidable e.polls
  | .setupHostToDevice req (.ok _) => inferInstanceAs (Decidable (isDfuRequest req = true))
  | .setupHostToDevice req (.error _) =>
      inferInstanceAs (Decidable (isDfuRequest req = true ∧ req.announcesBlock))
  | .setupDeviceToHost req => inferInstanceAs (Decidable (isDfuRequest req = true))
  | .enable | .disable | .unbind | .other | .idleTimeout | .transportClosed => .isFalse id

/-- The transport goes away, or the host goes quiet. -/
def Event.tearsDown (armed : Bool) : Event → Prop
  | .disable | .unbind | .transportClosed => True
  | .idleTimeout => armed = true
  | .setupHostToDevice req (.error err) =>
      isDfuRequest req = true ∧ ¬ req.announcesBlock ∧ isClosedTransportError err = true
  | _ => False

/-- What an event does to the handler `d`. -/
inductive StepTo (m : Moments) (d : Dfu) : Event → Dfu → Prop where
  | ignored {e} (hp : ¬ e.polls) (ht : ¬ e.tearsDown d.dfuIdleTimeout.isSome) : StepTo m d e d
  | tornDown {e} (ht : e.tearsDown d.dfuIdleTimeout.isSome) : StepTo m d e d.teardown
  | pollFailed {e} (hp : e.polls) (he : (d.poll m).1 = .error restartPendingError) :
      StepTo m d e (d.poll m).2
  | dispatched {e d'} (hp : e.polls) (ho : (d.poll m).1 = .ok ())
      (hd : Dispatch m (d.poll m).2 e d') : StepTo m d e d'

namespace Dfu

theorem isClosedTransportError_restartPendingError :
    isClosedTransportError restartPendingError = false := by decide

theorem resetIfClosed_of_closed {err : IoError} (h : isClosedTransportError err = true) (d : Dfu) :
    resetIfClosed (.error err, d) = (.ok (), d.teardown) :=
  if_pos h

theorem resetIfClosed_of_other {err : IoError} (h : isClosedTransportError err = false)
    (d : Dfu) : resetIfClosed (.error err, d) = (.error err, d) :=
  if_neg (by simp [h])

/-- The errors of the session are no transport errors. -/
theorem resetIfClosed_snd {r : Except IoError Unit × Dfu}
    (h : r.1 = .ok () ∨ r.1 = .error restartPendingError) : (resetIfClosed r).2 = r.2 := by
  obtain ⟨res, d⟩ := r
  rcases h with h | h
  · cases h
    rfl
  · cases h
    rw [resetIfClosed_of_other isClosedTransportError_restartPendingError]

/-- A request with a data block: poll, then dispatch. -/
theorem stepTo_block {m : Moments} {d : Dfu} {req : CtrlReq} {stage : Except IoError Bytes}
    (hd : isDfuRequest req = true) (hb : req.announcesBlock) :
    StepTo m d (.setupHostToDevice req stage) (d.setupOut m req stage).2 := by
  have hpolls : (Event.setupHostToDevice req stage).polls := by
    cases stage with
    | ok data => exact hd
    | error err => exact ⟨hd, hb⟩
  unfold setupOut receiveDnloadBlock
  rw [if_neg (by simp [hd]), if_pos hb]
  -- the poll stops the request only with the error of a session that must not open
  rcases poll_result m d with hok | herr
  · refine .dispatched hpolls hok ?_
    generalize d.poll m = r at hok ⊢
    obtain ⟨res, d₁⟩ := r
    cases hok
    simp only
    cases hf : d₁.isFinishing with
    | true =>
        -- the data stage is not even read
        rw [if_pos rfl, resetIfClosed_of_other (by decide)]
        exact .finishing hb hf
    | false =>
        rw [if_neg (by simp)]
        cases stage with
        | error err =>
            cases hc : isClosedTransportError err with
            | true =>
                rw [resetIfClosed_of_closed hc]
                exact .stageClosed hb hf hc
            | false =>
                rw [resetIfClosed_of_other hc]
                exact .stageFailed hb hf hc
        | ok data =>
            rw [resetIfClosed_snd (acceptBlock_result m.submit _ d₁)]
            exact .block hb hf
  · have hpf := StepTo.pollFailed hpolls herr
    generalize d.poll m = r at herr hpf ⊢
    obtain ⟨res, d₁⟩ := r
    cases herr
    rw [resetIfClosed_of_other isClosedTransportError_restartPendingError]
    exact hpf

/-- A host-to-device request without a data block that was drained. -/
theorem stepTo_handleOut {m : Moments} {d : Dfu} {req : CtrlReq} {data : Bytes}
    (hd : isDfuRequest req = true) (hb : ¬ req.announcesBlock) :
    StepTo m d (.setupHostToDevice req (.ok data)) (d.handleOut m req).2 := by
  unfold handleOut
  rcases poll_result m d with hok | herr
  · refine .dispatched hd hok ?_
    generalize d.poll m = r at hok ⊢
    obtain ⟨res, d₁⟩ := r
    cases hok
    simp only
    by_cases h1 : req.request = Request.detach
    · rw [if_pos h1]
      exact .detach h1
    rw [if_neg h1]
    by_cases h2 : req.request = Request.dnload
    · rw [if_pos h2]
      exact .manifest h2 (by_contra fun hl => hb ⟨h2, hl⟩)
    rw [if_neg h2]
    by_cases h3 : req.request = Request.clrStatus
    · rw [if_pos h3]
      by_cases hs : d₁.state = .error ∨ d₁.isFinishing = true
      · rw [if_pos (by simpa using hs)]
        exact .clrAbort h3 hs
      · rw [if_neg (by simpa using hs)]
        obtain ⟨hs1, hs2⟩ := not_or.1 hs
        exact .clrStatus h3 hs1 (by simpa using hs2)
    rw [if_neg h3]
    by_cases h4 : req.request = Request.abort
    · rw [if_pos h4]
      exact .abort h4
    · rw [if_neg h4]
      exact .unsupportedOut (by simp [h1, h2, h3, h4])
  · have hpf := StepTo.pollFailed (e := .setupHostToDevice req (.ok data)) hd herr
    generalize d.poll m = r at herr hpf ⊢
    obtain ⟨res, d₁⟩ := r
    cases herr
    exact hpf

theorem stepTo_handleIn {m : Moments} {d : Dfu} {req : CtrlReq} (hd : isDfuRequest req = true) :
    StepTo m d (.setupDeviceToHost req) (d.handleIn m req).2 := by
  unfold handleIn
  rcases poll_result m d with hok | herr
  · refine .dispatched hd hok ?_
    generalize d.poll m = r at hok ⊢
    obtain ⟨res, d₁⟩ := r
    cases hok
    simp only
    by_cases h1 : req.request = Request.getStatus
    · rw [if_pos h1]
      exact .getStatus h1
    rw [if_neg h1]
    by_cases h2 : req.request = Request.getState
    · rw [if_pos h2]
      exact .getState h2
    rw [if_neg h2]
    by_cases h3 : req.request = Request.upload
    · rw [if_pos h3]
      cases hu : d₁.upload with
      | none =>
          have heq : (d₁.uploadBlock req).2 = d₁ := by
            unfold uploadBlock
            rw [hu]
          rw [heq]
          exact .noUpload h3 hu
      | some source => exact .upload h3 (by simp [hu])
    · rw [if_neg h3]
      exact .unsupportedIn (by simp [h1, h2, h3])
  · have hpf := StepTo.pollFailed (e := .setupDeviceToHost req) hd herr
    generalize d.poll m = r at herr hpf ⊢
    obtain ⟨res, d₁⟩ := r
    cases herr
    exact hpf

/-- `StepTo` covers every event. -/
theorem stepTo_step (d : Dfu) (i : Input) : StepTo i.moments d i.event (d.step i) := by
  obtain ⟨e, m⟩ := i
  cases e with
  | setupHostToDevice req stage =>
      show StepTo m d _ (d.setupOut m req stage).2
      cases hd : isDfuRequest req with
      | false =>
          have heq : d.setupOut m req stage = (.ok (), d) := by simp [setupOut, hd]
          rw [heq]
          refine .ignored ?_ ?_
          · cases stage <;> simp [Event.polls, hd]
          · cases stage <;> simp [Event.tearsDown, hd]
      | true =>
          by_cases hb : req.announcesBlock
          · exact stepTo_block hd hb
          · cases stage with
            | ok data =>
                have heq : d.setupOut m req (.ok data) = d.handleOut m req := by
                  simp [setupOut, hd, hb]
                rw [heq]
                exact stepTo_handleOut hd hb
            | error err =>
                -- draining the request failed, so the handler has not been asked
                have heq : d.setupOut m req (.error err) = resetIfClosed (.error err, d) := by
                  simp [setupOut, hd, hb]
                rw [heq]
                cases hc : isClosedTransportError err with
                | true =>
                    rw [resetIfClosed_of_closed hc]
                    exact .tornDown ⟨hd, hb, hc⟩
                | false =>
                    rw [resetIfClosed_of_other hc]
                    exact .ignored (fun h => hb h.2) (by simp [Event.tearsDown, hc])
  | setupDeviceToHost req =>
      show StepTo m d _ (d.setupIn m req).2
      unfold setupIn
      cases hd : isDfuRequest req with
      | false =>
          rw [if_pos (by rfl)]
          exact .ignored (by simp [Event.polls, hd]) (by simp [Event.tearsDown])
      | true =>
          rw [if_neg (by simp)]
          exact stepTo_handleIn hd
  | enable => exact .ignored id id
  | disable => exact .tornDown trivial
  | unbind => exact .tornDown trivial
  | other => exact .ignored id id
  | transportClosed => exact .tornDown trivial
  | idleTimeout =>
      show StepTo m d _ (if d.dfuIdleTimeout.isSome then d.resetOnIdleTimeout else d)
      by_cases h : d.dfuIdleTimeout.isSome = true
      · rw [if_pos h]
        exact .tornDown h
      · rw [if_neg h]
        exact .ignored id h

end Dfu

/-! ## Invariants of the session -/

/-- A property of sessions that a new session has and that sending, EOF and a look at the verdict
that finds no failure keep. A session that failed is replaced, so nothing is asked of it. -/
structure SinkInvariant (P : Session → Prop) : Prop where
  new : ∀ params n, P (Session.new params n)
  trySend : ∀ v item s, P s → P (s.trySend v item).2
  eof : ∀ s, P s → P s.eof
  pollStatus : ∀ v s, P s → (∀ err, (s.pollStatus v).1 ≠ some (.error err)) →
    P (s.pollStatus v).2

namespace SinkInvariant

variable {P : Session → Prop} {d : Dfu}

theorem eofIfManifesting (hP : SinkInvariant P) (h : P d.sink) : P d.eofIfManifesting.sink := by
  rcases Dfu.eofIfManifesting_eq d with he | ⟨-, he⟩
  · rw [he]
    exact h
  · rw [he]
    exact hP.eof _ h

theorem pushPending (hP : SinkInvariant P) (v : View) (h : P d.sink) :
    P (d.pushPending v).2.sink := by
  cases hp : d.pending with
  | none =>
      rw [Dfu.pushPending_of_none v hp]
      exact hP.eofIfManifesting h
  | some chunk =>
      have hsent := hP.trySend v chunk d.sink h
      rcases Dfu.pushPending_of_some v hp with
        ⟨err, sink, hs, he⟩ | ⟨c, sink, hs, he⟩ | ⟨feed, sink, hs, -, he⟩
      · rw [he]
        rw [hs] at hsent
        exact hsent
      · rw [he]
        rw [hs] at hsent
        exact hsent
      · rw [he]
        rw [hs] at hsent
        exact hP.eofIfManifesting hsent

theorem observe (hP : SinkInvariant P) (v : View) (h : P d.sink) : P (d.observe v).sink := by
  rcases Dfu.observe_cases v d with ⟨-, he⟩ | ⟨-, -, he⟩ | ⟨-, -, he⟩ | ⟨-, hr, he⟩
  · rw [he]
    exact h
  · rw [he]
    exact hP.new _ _
  · rw [he]
    exact hP.new _ _
  · rw [he]
    refine hP.pollStatus v _ h ?_
    intro err herr
    rcases hr with hr | ⟨-, hr⟩
    · rw [hr] at herr
      cases herr
    · rw [hr] at herr
      cases herr

theorem poll (hP : SinkInvariant P) (m : Moments) (h : P d.sink) : P (d.poll m).2.sink := by
  rcases Dfu.poll_cases m d with ⟨err, -, he⟩ | ⟨held, -, he⟩
  · rw [he]
    exact hP.pushPending m.push h
  · rw [he]
    exact hP.observe m.verdict (hP.pushPending m.push h)

theorem submitChunk (hP : SinkInvariant P) (v : View) (chunk : Bytes) (h : P d.sink) :
    P (d.submitChunk v chunk).2.sink := by
  cases hp : d.pending with
  | some held =>
      rw [Dfu.submitChunk_of_some v chunk (by simp [hp])]
      exact hP.new _ _
  | none =>
      rw [Dfu.submitChunk_of_none v chunk hp]
      have hheld : P { d with pending := some chunk }.sink := h
      exact hP.pushPending v hheld

theorem acceptBlock (hP : SinkInvariant P) (v : View) (block : Bytes) (h : P d.sink) :
    P (d.acceptBlock v block).2.sink := by
  by_cases hlen : (d.downloadTail ++ block).length ≤ dfuSuffixLen
  · rw [Dfu.acceptBlock_of_short v hlen]
    exact h
  · rw [Dfu.acceptBlock_of_long v (by omega)]
    exact hP.submitChunk v _ h

theorem manifest (hP : SinkInvariant P) (m : Moments) (h : P d.sink) :
    P (d.manifest m).2.sink := by
  have hcleared : P { d with status := .ok, state := .manifest, downloadTail := [] }.sink := h
  rcases Dfu.manifest_cases m d with ⟨-, he⟩ | ⟨-, he⟩
  · rw [he]
    exact hP.pushPending m.submit hcleared
  · rw [he]
    exact hP.submitChunk m.submit _ hcleared

theorem step (hP : SinkInvariant P) (d : Dfu) (i : Input) (h : P d.sink) : P (d.step i).sink := by
  have hto := Dfu.stepTo_step d i
  generalize i.event = e at hto
  generalize d.step i = d' at hto ⊢
  cases hto with
  | ignored => exact h
  | tornDown => exact hP.new _ _
  | pollFailed => exact hP.poll _ h
  | dispatched hp ho hd =>
      have h₁ := hP.poll i.moments h
      cases hd with
      | finishing => exact h₁
      | stageClosed => exact hP.new _ _
      | stageFailed => exact h₁
      | block => exact hP.acceptBlock _ _ h₁
      | detach => exact h₁
      | manifest => exact hP.manifest _ h₁
      | clrAbort => exact hP.new _ _
      | clrStatus => exact h₁
      | abort => exact hP.new _ _
      | unsupportedOut => exact h₁
      | getStatus => exact h₁
      | getState => exact h₁
      | noUpload => exact h₁
      | @upload req =>
          obtain ⟨state, he⟩ := Dfu.uploadBlock_frame req (d.poll i.moments).2
          rw [he]
          exact h₁
      | unsupportedIn => exact h₁

end SinkInvariant

end SummitUsbgadget.DfuFunction
