import SummitUsbgadget.DfuFunction.Isolation

/-!
# Faults of the DFU handler

A fault is released by `CLRSTATUS`, `ABORT`, the idle timeout or the end of the transport. Every
other request goes through the same code as without a fault: a data block and a zero-length
`DNLOAD` set the status back to OK and feed a new session, `DETACH` and `UPLOAD` leave the error
state, an unsupported request overwrites the code. `fault_kept` shows that a fault stands until it
is released in every run in which no such request meets a fault, or a failure that the request's
own poll is about to see.
-/

set_option autoImplicit false

namespace SummitUsbgadget.DfuFunction

open SummitUsbgadget.Lib
open SummitUsbgadget.Swupdate

/-! ## Releases and failures -/

/-- The events that may end a fault. -/
def Event.releases : Event → Prop
  | .setupHostToDevice req (.ok _) =>
      isDfuRequest req = true ∧
        (req.request = Request.clrStatus ∨ req.request = Request.abort)
  | .setupHostToDevice req (.error err) =>
      isDfuRequest req = true ∧ isClosedTransportError err = true
  | .disable | .unbind | .transportClosed | .idleTimeout => True
  | _ => False

theorem Event.releases_of_tearsDown {e : Event} {armed : Bool} (h : e.tearsDown armed) :
    e.releases := by
  cases e with
  | setupHostToDevice req stage =>
      cases stage with
      | ok data => exact h.elim
      | error err => exact ⟨h.1, h.2.2⟩
  | setupDeviceToHost req => exact h
  | idleTimeout => exact trivial
  | enable | other => exact h
  | disable | unbind | transportClosed => exact trivial

/-- A `DFU_DNLOAD`, with a data block or without. -/
def Event.downloads : Event → Prop
  | .setupHostToDevice req _ => isDfuRequest req = true ∧ req.request = Request.dnload
  | _ => False

/-- A request that polls now meets a failure: that of a transfer in progress, or that of a
manifestation without any transfer. -/
def Dfu.failureDue (v : View) (d : Dfu) : Prop :=
  ((d.sink.isOpen = true ∨ d.pending.isSome) ∧ v.reportsFailure) ∨
    (d.state = .manifest ∧ d.sink.Vacant ∧ d.pending = none)

/-- Requests that only report, and blocks whose data stage fails while nothing is held. -/
def Event.harmless (d : Dfu) : Event → Prop
  | .setupDeviceToHost req =>
      req.request = Request.getStatus ∨ req.request = Request.getState ∨
        (req.request = Request.upload ∧ d.upload = none)
  | .setupHostToDevice _ (.error _) => d.pending = none
  | _ => False

/-- While a fault stands, or a failure is due, only harmless requests come in between; and no
failure is due on top of a fault with another code. -/
def FaultSafe (d : Dfu) (i : Input) : Prop :=
  i.event.polls → ¬ i.event.releases →
    (d.state = .error ∨ d.failureDue i.moments.verdict → i.event.harmless d) ∧
      (d.state = .error → d.failureDue i.moments.verdict → d.status = .errVerify)

/-- What all sessions so far have of something. -/
def Dfu.collected (f : Session → Bytes) (d : Dfu) : Bytes := (d.retired.map f).flatten ++ f d.sink

/-- The bytes that sessions were handed, whether they took them or not. -/
def Dfu.handedBytes (d : Dfu) : Bytes := d.collected Session.handedBytes

/-- What one step owes to a fault: one that stands is kept, one that the step's own poll raises is
kept, and a `DNLOAD` that finds or raises one hands no byte to any session. -/
structure FaultKept (d : Dfu) (i : Input) : Prop where
  standing : ¬ i.event.releases → d.state = .error →
    (d.step i).state = .error ∧ (d.step i).status = d.status
  raised : ¬ i.event.releases → i.event.polls → (d.poll i.moments).2.state = .error →
    (d.step i).state = .error ∧ (d.step i).status = (d.poll i.moments).2.status
  silent : ¬ i.event.releases → i.event.downloads →
    d.state = .error ∨ (d.poll i.moments).2.state = .error →
      (d.step i).handedBytes = d.handedBytes ∧ (d.step i).fedBytes = d.fedBytes

/-! ## What the poll does to a faulted handler -/

theorem unfailed_invariant : SinkInvariant Session.Unfailed where
  new := Session.unfailed_new
  trySend := fun v item _ h => Session.unfailed_trySend v item h
  eof := fun _ h => Session.unfailed_eof h
  pollStatus := fun v _ h hr => Session.unfailed_pollStatus v h hr

namespace Dfu

/-- Bytes that only a send adds to. -/
structure SentOnly (f : Session → Bytes) : Prop where
  new : ∀ params n, f (Session.new params n) = []
  pollStatus : ∀ v s, f (s.pollStatus v).2 = f s
  eof : ∀ s, f s.eof = f s

theorem sentOnly_handed : SentOnly Session.handedBytes where
  new _ _ := rfl
  pollStatus v s := (Session.pollStatus_facts v s).2.2
  eof := Session.handedBytes_eof

theorem sentOnly_fed : SentOnly Session.fedBytes where
  new _ _ := rfl
  pollStatus v s := (Session.pollStatus_facts v s).2.1
  eof := Session.fedBytes_eof

variable {f : Session → Bytes}

/-- A look at the verdict sends nothing, also if it replaces the session. -/
theorem collected_observe (hf : SentOnly f) (v : View) (d : Dfu) :
    (d.observe v).collected f = d.collected f := by
  have hpoll := hf.pollStatus v d.sink
  have hreplaced : ∀ d' : Dfu, d'.retired = d.retired ++ [(d.sink.pollStatus v).2] →
      f d'.sink = [] → d'.collected f = d.collected f := by
    intro d' hr hs
    simp [collected, hr, hs, hpoll]
  rcases observe_cases v d with ⟨-, he⟩ | ⟨-, -, he⟩ | ⟨-, -, he⟩ | ⟨-, -, he⟩
  · rw [he]
  · rw [he]
    exact hreplaced _ rfl (hf.new _ _)
  · rw [he]
    exact hreplaced _ rfl (hf.new _ _)
  · rw [he]
    simp [collected, hpoll]

/-- Nor does a poll of a handler that holds nothing. -/
theorem collected_poll_of_none (hf : SentOnly f) (m : Moments) {d : Dfu} (hp : d.pending = none) :
    (d.poll m).2.collected f = d.collected f := by
  have hpush : (d.pushPending m.push).2.collected f = d.collected f := by
    rw [pushPending_of_none m.push hp]
    rcases eofIfManifesting_eq d with he | ⟨-, he⟩
    · rw [he]
    · rw [he]
      simp [collected, hf.eof]
  rcases poll_cases m d with ⟨err, -, he⟩ | ⟨held, -, he⟩
  · rw [he]
    exact hpush
  · rw [he]
    exact (collected_observe hf _ _).trans hpush

/-- What the push leaves of the session, seen from the state before it. -/
theorem pushPending_engages (v : View) (d : Dfu) (ho : (d.pushPending v).2.sink.isOpen = true) :
    d.sink.isOpen = true ∨ d.pending.isSome := by
  cases hp : d.pending with
  | some chunk => exact Or.inr rfl
  | none =>
      refine Or.inl ?_
      rw [pushPending_of_none v hp] at ho
      rcases eofIfManifesting_eq d with he | ⟨-, he⟩
      · rw [he] at ho
        exact ho
      · rw [he] at ho
        have hst : d.sink.status.isSome := by simpa [Session.isOpen] using ho
        simp [Session.isOpen, hst]

/-- EOF changes neither the status handle nor the cached verdict. -/
theorem vacant_of_eofIfManifesting {d : Dfu} (ha : d.sink.Accountable)
    (hv : d.eofIfManifesting.sink.Vacant) : d.sink.Vacant := by
  rcases eofIfManifesting_eq d with he | ⟨-, he⟩
  · rw [he] at hv
    exact hv
  · rw [he] at hv
    refine ha.vacant_iff.2 ?_
    simpa using hv.2

theorem pushPending_vacant {v : View} {d : Dfu} {held : Bool} (ha : d.sink.Accountable)
    (hok : (d.pushPending v).1 = .ok held) (hv : (d.pushPending v).2.sink.Vacant) :
    d.sink.Vacant ∧ d.pending = none := by
  cases hp : d.pending with
  | none =>
      rw [pushPending_of_none v hp] at hv
      exact ⟨vacant_of_eofIfManifesting ha hv, rfl⟩
  | some chunk =>
      -- a send that was not rejected has opened the session
      exfalso
      have hsent := Session.accountable_trySend v chunk ha
      rcases pushPending_of_some v hp with
        ⟨err, sink, hs, he⟩ | ⟨c, sink, hs, he⟩ | ⟨feed, sink, hs, -, he⟩
      · rw [he] at hok
        cases hok
      · rw [he] at hv
        refine Session.trySend_not_vacant ha (by rw [hs]) ?_
        rw [hs]
        exact hv
      · rw [he] at hv
        rw [hs] at hsent
        refine Session.trySend_not_vacant ha (by rw [hs]) ?_
        rw [hs]
        exact vacant_of_eofIfManifesting (d := { d with sink := sink, pending := none }) hsent hv

/-- The poll raises a fault only when a failure is due. -/
theorem poll_verdict (m : Moments) {d : Dfu} (ha : d.sink.Accountable) (hu : d.sink.Unfailed) :
    ((d.poll m).2.state = d.state ∧ (d.poll m).2.status = d.status) ∨
      (d.failureDue m.verdict ∧ (d.poll m).2.state = .error ∧
        (d.poll m).2.status = .errVerify) ∨
      (d.state = .manifest ∧ (d.poll m).2.state = .manifestSync) := by
  obtain ⟨sink, pending, hfr⟩ := pushPending_frame m.push d
  have hst : (d.pushPending m.push).2.state = d.state := by rw [hfr]
  have hstatus : (d.pushPending m.push).2.status = d.status := by rw [hfr]
  have ha₂ := accountable_invariant.pushPending m.push ha
  have hu₂ := unfailed_invariant.pushPending m.push hu
  rcases poll_cases m d with ⟨err, -, he⟩ | ⟨held, hok, he⟩
  · rw [he]
    exact Or.inl ⟨hst, hstatus⟩
  · rw [he]
    rcases observe_cases m.verdict (d.pushPending m.push).2 with
      ⟨-, ho⟩ | ⟨hw, ⟨err, hr⟩, ho⟩ | ⟨hm, -, ho⟩ | ⟨-, -, ho⟩
    · rw [ho]
      exact Or.inl ⟨hst, hstatus⟩
    · rw [ho]
      refine Or.inr (Or.inl ⟨?_, rfl, rfl⟩)
      rcases Session.pollStatus_failure hu₂ hr with ⟨hsome, hfail⟩ | hnone
      · -- the status task has failed
        have hopen : (d.pushPending m.push).2.sink.isOpen = true := by
          simp [Session.isOpen, hsome]
        exact Or.inl ⟨pushPending_engages m.push d hopen, hfail⟩
      · -- there is no transfer, and only a manifestation looks at the verdict then
        have hvac := ha₂.vacant_iff.2 hnone
        have hno : (d.pushPending m.push).2.sink.isOpen = false := by
          simp [Session.isOpen, hvac.1, hvac.2.1]
        have hm : d.state = .manifest := by
          simpa [watching, hno, hst] using hw
        obtain ⟨hv, hp⟩ := pushPending_vacant ha hok hvac
        exact Or.inr ⟨hm, hv, hp⟩
    · rw [ho]
      exact Or.inr (Or.inr ⟨hst ▸ hm, rfl⟩)
    · rw [ho]
      exact Or.inl ⟨hst, hstatus⟩

/-- A polled handler that is in the error state was so before, or a failure was due; and its
status is the one from before unless a failure was due. -/
theorem poll_error {m : Moments} {d : Dfu} (ha : d.sink.Accountable) (hu : d.sink.Unfailed)
    (he : (d.poll m).2.state = .error) : d.state = .error ∨ d.failureDue m.verdict := by
  rcases poll_verdict m ha hu with ⟨hs, -⟩ | ⟨hd, -, -⟩ | ⟨-, hs⟩
  · rw [hs] at he
    exact Or.inl he
  · exact Or.inr hd
  · rw [hs] at he
    cases he

/-- The poll keeps a fault, if no failure is due on top of one with another code. -/
theorem poll_keeps_fault {m : Moments} {d : Dfu} (ha : d.sink.Accountable)
    (hu : d.sink.Unfailed) (he : d.state = .error)
    (hcode : d.failureDue m.verdict → d.status = .errVerify) :
    (d.poll m).2.state = .error ∧ (d.poll m).2.status = d.status := by
  rcases poll_verdict m ha hu with ⟨hs, hc⟩ | ⟨hd, hs, hc⟩ | ⟨hm, -⟩
  · exact ⟨hs.trans he, hc⟩
  · exact ⟨hs, hc.trans (hcode hd).symm⟩
  · rw [he] at hm
    cases hm

theorem getStatus_of_error {d : Dfu} (h : d.state = .error) : d.getStatus.2 = d := by
  unfold getStatus
  simp only [h]
  rw [← h]

/-- A harmless request leaves a polled handler in the error state as the poll left it. -/
theorem step_of_harmless {d : Dfu} {i : Input} (hpolls : i.event.polls)
    (hrel : ¬ i.event.releases) (hharm : i.event.harmless d)
    (he : (d.poll i.moments).2.state = .error) : d.step i = (d.poll i.moments).2 := by
  have hto := stepTo_step d i
  obtain ⟨e, m⟩ := i
  generalize d.step ⟨e, m⟩ = d' at hto ⊢
  cases hto with
  | ignored hp => exact absurd hpolls hp
  | tornDown ht => exact absurd (Event.releases_of_tearsDown ht) hrel
  | pollFailed => rfl
  | dispatched hp ho hd =>
      cases hd with
      | finishing => rfl
      | stageClosed hb hf hc => exact absurd ⟨hp.1, hc⟩ hrel
      | stageFailed => rfl
      | block => exact hharm.elim
      | detach => exact hharm.elim
      | manifest => exact hharm.elim
      | clrAbort => exact hharm.elim
      | clrStatus => exact hharm.elim
      | abort => exact hharm.elim
      | unsupportedOut => exact hharm.elim
      | getStatus => exact getStatus_of_error he
      | getState => rfl
      | noUpload => rfl
      | upload hr hu =>
          exfalso
          obtain ⟨hup, -⟩ := poll_config m d
          rcases hharm with h | h | ⟨-, h⟩
          · rw [hr] at h
            cases h
          · rw [hr] at h
            cases h
          · rw [hup, h] at hu
            cases hu
      | unsupportedIn hr =>
          exfalso
          rcases hharm with h | h | ⟨h, -⟩
          · simp [h] at hr
          · simp [h] at hr
          · simp [h] at hr

end Dfu

/-! ## Steps and runs -/

/-- An event that neither polls nor releases a fault changes nothing. -/
theorem Dfu.step_of_not_polls {d : Dfu} {i : Input} (hp : ¬ i.event.polls)
    (hr : ¬ i.event.releases) : d.step i = d := by
  have hto := stepTo_step d i
  generalize d.step i = d' at hto ⊢
  cases hto with
  | ignored => rfl
  | tornDown ht => exact absurd (Event.releases_of_tearsDown ht) hr
  | pollFailed h => exact absurd h hp
  | dispatched h => exact absurd h hp

/-- A harmless `DNLOAD` is one whose data stage fails while nothing is held. -/
theorem Event.pending_of_harmless {d : Dfu} {e : Event} (hd : e.downloads) (hh : e.harmless d) :
    d.pending = none := by
  cases e with
  | setupHostToDevice req stage =>
      cases stage with
      | ok data => exact hh.elim
      | error err => exact hh
  | setupDeviceToHost req => exact hd.elim
  | enable | disable | unbind | other | transportClosed | idleTimeout => exact hd.elim

theorem faultKept_of_safe {d : Dfu} {i : Input} (ha : d.sink.Accountable) (hu : d.sink.Unfailed)
    (hsafe : FaultSafe d i) : FaultKept d i where
  standing := by
    intro hrel he
    by_cases hp : i.event.polls
    · obtain ⟨hharm, hcode⟩ := hsafe hp hrel
      have hpoll := Dfu.poll_keeps_fault ha hu he (hcode he)
      rw [Dfu.step_of_harmless hp hrel (hharm (Or.inl he)) hpoll.1]
      exact hpoll
    · rw [Dfu.step_of_not_polls hp hrel]
      exact ⟨he, rfl⟩
  raised := by
    intro hrel hp he
    have hharm := (hsafe hp hrel).1 (Dfu.poll_error ha hu he)
    rw [Dfu.step_of_harmless hp hrel hharm he]
    exact ⟨he, rfl⟩
  silent := by
    intro hrel hd he
    by_cases hp : i.event.polls
    · obtain ⟨hharm, hcode⟩ := hsafe hp hrel
      have hpoll : (d.poll i.moments).2.state = .error := by
        rcases he with he | he
        · exact (Dfu.poll_keeps_fault ha hu he (hcode he)).1
        · exact he
      have hh := hharm (Dfu.poll_error ha hu hpoll)
      rw [Dfu.step_of_harmless hp hrel hh hpoll]
      have hnone := Event.pending_of_harmless hd hh
      exact ⟨Dfu.collected_poll_of_none Dfu.sentOnly_handed _ hnone,
        Dfu.collected_poll_of_none Dfu.sentOnly_fed _ hnone⟩
    · rw [Dfu.step_of_not_polls hp hrel]
      exact ⟨rfl, rfl⟩

/-- A fault stands over any number of steps that keep it. -/
theorem fault_stands {d : Dfu} {is : List Input} (hkept : Along Dfu.step FaultKept d is)
    (hrel : ∀ i ∈ is, ¬ i.event.releases) (he : d.state = .error) :
    (run Dfu.step d is).state = .error ∧ (run Dfu.step d is).status = d.status := by
  induction is generalizing d with
  | nil => exact ⟨he, rfl⟩
  | cons i is ih =>
      obtain ⟨hs, hc⟩ := hkept.1.standing (hrel i (by simp)) he
      obtain ⟨hs', hc'⟩ := ih hkept.2 (fun j hj => hrel j (by simp [hj])) hs
      exact ⟨hs', hc'.trans hc⟩

/-- In every run whose steps meet `FaultSafe`, each step keeps the fault it finds or raises, and
a fault stands with its code until an event releases it. -/
theorem fault_kept (config : DfuConfig) (inputs : List Input)
    (hsafe : Along Dfu.step FaultSafe (Dfu.new config) inputs) :
    Along Dfu.step FaultKept (Dfu.new config) inputs ∧
      ∀ before between : List Input, before ++ between <+: inputs →
        (run Dfu.step (Dfu.new config) before).state = .error →
        (∀ i ∈ between, ¬ i.event.releases) →
        (run Dfu.step (Dfu.new config) (before ++ between)).state = .error ∧
          (run Dfu.step (Dfu.new config) (before ++ between)).status =
            (run Dfu.step (Dfu.new config) before).status := by
  have hkept : Along Dfu.step FaultKept (Dfu.new config) inputs := by
    refine hsafe.imp_of_invariant (I := fun d => d.sink.Accountable ∧ d.sink.Unfailed) ?_ ?_ ?_
    · intro d i h
      exact ⟨accountable_invariant.step d i h.1, unfailed_invariant.step d i h.2⟩
    · intro d i h hs
      exact faultKept_of_safe h.1 h.2 hs
    · exact ⟨Session.accountable_new _ _, Session.unfailed_new _ _⟩
  refine ⟨hkept, ?_⟩
  rintro before between ⟨rest, rfl⟩ he hrel
  rw [run_append]
  have hmid := ((along_append Dfu.step _ _ _).1 ((along_append Dfu.step _ _ _).1 hkept).1).2
  exact fault_stands hmid hrel he

/-- A failure that `GETSTATUS` sees, reported again by another one, and cleared. -/
theorem fault_kept_reported :
    let quiet : View := ⟨false, ⟨"mmc", "a"⟩, .room, none⟩
    let failing : View := ⟨false, ⟨"mmc", "a"⟩, .room, some (.done (.error (.other "bad image")))⟩
    let config : DfuConfig := ⟨.default, none, 64, 10⟩
    let inputs : List Input := [⟨.dnload 0 (List.replicate 18 1), ⟨quiet, quiet, quiet⟩⟩,
      ⟨.getStatus, ⟨quiet, failing, quiet⟩⟩, ⟨.getStatus, ⟨quiet, quiet, quiet⟩⟩]
    Along Dfu.step FaultSafe (Dfu.new config) inputs ∧
      (run Dfu.step (Dfu.new config) inputs).state = .error ∧
      (run Dfu.step (Dfu.new config) inputs).status =
        (run Dfu.step (Dfu.new config) (inputs.take 2)).status := by
  intro quiet failing config inputs
  have hsafe : Along Dfu.step FaultSafe (Dfu.new config) inputs := by
    refine ⟨?_, ?_, ?_, trivial⟩
    · intro _ _
      refine ⟨?_, fun h => absurd h (by decide)⟩
      rintro (h | ⟨-, h⟩ | ⟨h, -⟩)
      · exact absurd h (by decide)
      · exact h.elim
      · exact absurd h (by decide)
    · intro _ _
      exact ⟨fun _ => Or.inl rfl, fun h => absurd h (by decide +kernel)⟩
    · intro _ _
      refine ⟨fun _ => Or.inl rfl, ?_⟩
      rintro - (⟨-, h⟩ | ⟨h, -⟩)
      · exact h.elim
      · exact absurd h (by decide +kernel)
  refine ⟨hsafe, (fault_kept config inputs hsafe).2 (inputs.take 2) (inputs.drop 2) ?_ ?_ ?_⟩
  · exact List.prefix_refl _
  · decide +kernel
  · intro i hi
    rw [List.mem_singleton.1 hi]
    exact id

/-- A data block whose own poll sees the failure: the status is OK again and a new session takes
the block's bytes. And a zero-length `DNLOAD` after a failure that was reported: the handler
manifests. -/
theorem fault_swallowed_by_dnload :
    let quiet : View := ⟨false, ⟨"mmc", "a"⟩, .room, none⟩
    let failing : View := ⟨false, ⟨"mmc", "a"⟩, .room, some (.done (.error (.other "bad image")))⟩
    let config : DfuConfig := ⟨.default, none, 64, 10⟩
    let first : Input := ⟨.dnload 0 (List.replicate 18 1), ⟨quiet, quiet, quiet⟩⟩
    let d := run Dfu.step (Dfu.new config) [first]
    let block : Input := ⟨.dnload 1 (List.replicate 18 2), ⟨quiet, failing, quiet⟩⟩
    let faulted := run Dfu.step (Dfu.new config) [first, ⟨.getStatus, ⟨quiet, failing, quiet⟩⟩]
    let last : Input := ⟨.manifest 2, ⟨quiet, quiet, quiet⟩⟩
    ((d.poll block.moments).2.state = .error ∧ (d.poll block.moments).2.status = .errVerify ∧
        (d.step block).state = .dnloadSync ∧ (d.step block).status = .ok ∧
        d.fedBytes.length < (d.step block).fedBytes.length ∧ ¬ FaultKept d block) ∧
      (faulted.state = .error ∧ (faulted.step last).state = .manifest ∧
        (faulted.step last).status = .ok ∧ ¬ FaultKept faulted last) := by
  intro quiet failing config first d block faulted last
  have hraised : (d.poll block.moments).2.state = .error := by decide +kernel
  have hsync : (d.step block).state = .dnloadSync := by decide +kernel
  have hfault : faulted.state = .error := by decide +kernel
  have hmanifest : (faulted.step last).state = .manifest := by decide +kernel
  refine ⟨⟨hraised, ?_, hsync, ?_, ?_, ?_⟩, hfault, hmanifest, ?_, ?_⟩
  · decide +kernel
  · decide +kernel
  · decide +kernel
  · intro h
    have hs := (h.raised (fun hr => absurd hr.2 (by decide)) rfl hraised).1
    rw [hsync] at hs
    cases hs
  · decide +kernel
  · intro h
    have hs := (h.standing (fun hr => absurd hr.2 (by decide)) hfault).1
    rw [hmanifest] at hs
    cases hs

end SummitUsbgadget.DfuFunction
