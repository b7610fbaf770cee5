import SummitUsbgadget.Swupdate.Serving
import SummitUsbgadget.DfuFunction.Buffering

/-!
# The handler drives its session as a producer does

The pipeline of a session knows calls and steps of tasks; the handler knows requests. `Hands` says
that each part of a request is a list of calls of the pipeline, or leaves the handler with a new
session. So the session of the device and its transfers are, in every run, in a state that the
pipeline reaches by calls and by the tasks of that run (`device_refines_pipeline`), and what holds
of all runs of the pipeline holds of the device, whatever the host sends (`device_writes_fed`).
-/

set_option autoImplicit false

namespace SummitUsbgadget.DfuFunction

open SummitUsbgadget.Lib
open SummitUsbgadget.Swupdate

/-! ## The parts of a request -/

/-- What one part of a request does while the session of `d` stands in `w`: it makes calls, or it
replaces the session by a new one. -/
structure Hands (w : Pipeline) (d d' : Dfu) : Prop where
  download : d'.download = d.download
  transferSize : d'.transferSize = d.transferSize
  sink : (d'.retired = d.retired ∧ w.Follows d'.sink) ∨
    (d.retired.length < d'.retired.length ∧
      d'.sink = Session.new d.download d.transferSize.toNat)

namespace Hands

variable {w : Pipeline} {d d' : Dfu}

/-- A change of what the session does not see. -/
theorem of_same (hw : w.session = d.sink) (hl : d'.download = d.download)
    (ht : d'.transferSize = d.transferSize) (hr : d'.retired = d.retired)
    (hs : d'.sink = d.sink) : Hands w d d' := by
  refine ⟨hl, ht, Or.inl ⟨hr, ?_⟩⟩
  rw [hs, ← hw]
  exact .refl w

/-- The source of a part may differ in what the session does not see. -/
theorem of_source {d₀ : Dfu} (h : Hands w d d') (hl : d.download = d₀.download)
    (ht : d.transferSize = d₀.transferSize) (hr : d.retired = d₀.retired) : Hands w d₀ d' := by
  refine ⟨h.download.trans hl, h.transferSize.trans ht, ?_⟩
  rw [← hl, ← ht, ← hr]
  exact h.sink

theorem teardown (w : Pipeline) (d : Dfu) : Hands w d d.teardown := by
  refine ⟨rfl, rfl, Or.inr ⟨?_, rfl⟩⟩
  show d.retired.length < (d.retired ++ [d.sink.abort]).length
  rw [List.length_append]
  exact Nat.lt_succ_self _

theorem eofIfManifesting (hw : w.session = d.sink) : Hands w d d.eofIfManifesting := by
  rcases Dfu.eofIfManifesting_eq d with he | ⟨-, he⟩
  · rw [he]
    exact of_same hw rfl rfl rfl rfl
  · rw [he]
    refine ⟨rfl, rfl, Or.inl ⟨rfl, ?_⟩⟩
    show w.Follows d.sink.eof
    rw [← hw]
    exact .eof w

/-- The held block is sent, and EOF follows it during manifestation. -/
theorem pushPending (hw : w.session = d.sink) (v : View) :
    Hands w d (d.pushPending (w.view v)).2 := by
  cases hp : d.pending with
  | none =>
      rw [Dfu.pushPending_of_none _ hp]
      exact eofIfManifesting hw
  | some chunk =>
      have hsend := Pipeline.Follows.trySend w v chunk
      rw [hw] at hsend
      rcases Dfu.pushPending_of_some (w.view v) hp with
        ⟨err, sink, hs, he⟩ | ⟨c, sink, hs, he⟩ | ⟨feed, sink, hs, -, he⟩
      · rw [hs] at hsend
        rw [he]
        exact ⟨rfl, rfl, Or.inl ⟨rfl, hsend⟩⟩
      · rw [hs] at hsend
        rw [he]
        exact ⟨rfl, rfl, Or.inl ⟨rfl, hsend⟩⟩
      · rw [hs] at hsend
        rw [he]
        -- a second call, which sees what the first one has left
        have heof : Hands (w.served sink) { d with sink := sink, pending := none }
            { d with sink := sink, pending := none }.eofIfManifesting := eofIfManifesting rfl
        refine ⟨heof.download, heof.transferSize, ?_⟩
        rcases heof.sink with ⟨hr, hf⟩ | hnew
        · exact Or.inl ⟨hr, hsend.trans hf⟩
        · exact Or.inr hnew

theorem observe (hw : w.session = d.sink) (v : View) : Hands w d (d.observe (w.view v)) := by
  have hpoll := Pipeline.Follows.pollStatus w v
  rw [hw] at hpoll
  have hlen : d.retired.length < (d.retired ++ [(d.sink.pollStatus (w.view v)).2]).length := by
    rw [List.length_append]
    exact Nat.lt_succ_self _
  rcases Dfu.observe_cases (w.view v) d with ⟨-, he⟩ | ⟨-, -, he⟩ | ⟨-, -, he⟩ | ⟨-, -, he⟩
  · rw [he]
    exact of_same hw rfl rfl rfl rfl
  · rw [he]
    exact ⟨rfl, rfl, Or.inr ⟨hlen, rfl⟩⟩
  · rw [he]
    exact ⟨rfl, rfl, Or.inr ⟨hlen, rfl⟩⟩
  · rw [he]
    exact ⟨rfl, rfl, Or.inl ⟨rfl, hpoll⟩⟩

theorem submitChunk (hw : w.session = d.sink) (v : View) (chunk : Bytes) :
    Hands w d (d.submitChunk (w.view v) chunk).2 := by
  cases hp : d.pending with
  | some held =>
      rw [Dfu.submitChunk_of_some (w.view v) chunk (by simp [hp])]
      have ht := teardown w d
      exact ⟨ht.download, ht.transferSize, ht.sink⟩
  | none =>
      rw [Dfu.submitChunk_of_none (w.view v) chunk hp]
      exact (pushPending (d := { d with pending := some chunk }) hw v).of_source rfl rfl rfl

theorem acceptBlock (hw : w.session = d.sink) (v : View) (block : Bytes) :
    Hands w d (d.acceptBlock (w.view v) block).2 := by
  by_cases hlen : (d.downloadTail ++ block).length ≤ dfuSuffixLen
  · rw [Dfu.acceptBlock_of_short (w.view v) hlen]
    exact of_same hw rfl rfl rfl rfl
  · rw [Dfu.acceptBlock_of_long (w.view v) (by omega)]
    refine (submitChunk ?_ v _).of_source rfl rfl rfl
    exact hw

theorem manifest (hw : w.session = d.sink) {m : Moments} {v : View} (hm : m.submit = w.view v) :
    Hands w d (d.manifest m).2 := by
  rcases Dfu.manifest_cases m d with ⟨-, he⟩ | ⟨-, he⟩
  · rw [he, hm]
    refine (pushPending ?_ v).of_source rfl rfl rfl
    exact hw
  · rw [he, hm]
    refine (submitChunk ?_ v _).of_source rfl rfl rfl
    exact hw

theorem dispatch (hw : w.session = d.sink) {m : Moments} {v : View} (hm : m.submit = w.view v)
    {e : Event} (hd : Dispatch m d e d') : Hands w d d' := by
  have hsame : ∀ state status, Hands w d { d with state := state, status := status } :=
    fun _ _ => of_same hw rfl rfl rfl rfl
  cases hd with
  | finishing => exact hsame _ _
  | stageClosed => exact teardown w d
  | stageFailed => exact hsame _ _
  | block =>
      rw [hm]
      exact acceptBlock hw v _
  | detach => exact hsame _ _
  | manifest => exact manifest hw hm
  | clrAbort => exact teardown w d
  | clrStatus => exact of_same hw rfl rfl rfl rfl
  | abort => exact teardown w d
  | unsupportedOut => exact hsame _ _
  | getStatus => exact hsame _ _
  | getState => exact hsame _ _
  | noUpload => exact hsame _ _
  | @upload req =>
      obtain ⟨state, he⟩ := Dfu.uploadBlock_frame req d
      rw [he]
      exact hsame state d.status
  | unsupportedIn => exact hsame _ _

/-- The poll after the push: the handler looks at the verdict, or the push has failed. -/
theorem poll {m : Moments} (hw : w.session = (d.pushPending m.push).2.sink) {v : View}
    (hm : m.verdict = w.view v) : Hands w (d.pushPending m.push).2 (d.poll m).2 := by
  rcases Dfu.poll_cases m d with ⟨err, -, he⟩ | ⟨held, -, he⟩
  · rw [he]
    exact of_same hw rfl rfl rfl rfl
  · rw [he, hm]
    exact observe hw v

end Hands

/-! ## Runs of the device -/

namespace Device

/-- The second part of a request that polls: it looks at the verdict. -/
theorem hands_looks (w : Device) (around : Moments) (bv : Tasks) :
    Hands ((w.pushed around).tasks bv).pipeline ((w.pushed around).tasks bv).dfu
      (w.dfu.poll ⟨(w.looks around bv).1, (w.looks around bv).2, (w.looks around bv).2⟩).2 := by
  have hdfu : ((w.pushed around).tasks bv).dfu =
      (w.dfu.pushPending (w.pipeline.view around.push)).2 := by
    rw [dfu_tasks, dfu_pushed]
  rw [hdfu]
  refine Hands.poll (m := ⟨w.pipeline.view around.push, _, _⟩) ?_ rfl
  exact congrArg Dfu.sink hdfu

/-- The third part: the polled handler is asked. -/
theorem hands_polled {e : Event} (hp : e.polls) (w : Device) (around : Moments) (bv bs : Tasks) :
    Hands (w.polled around bv bs).pipeline (w.polled around bv bs).dfu
      (w.dfu.step ⟨e, w.moments around bv bs⟩) := by
  have hw : (w.polled around bv bs).pipeline.session =
      (w.dfu.poll (w.moments around bv bs)).2.sink :=
    congrArg Dfu.sink (dfu_polled w around bv bs)
  rw [dfu_polled]
  have hto := Dfu.stepTo_step w.dfu ⟨e, w.moments around bv bs⟩
  generalize w.dfu.step ⟨e, w.moments around bv bs⟩ = d at hto ⊢
  cases hto with
  | ignored hnp => exact absurd hp hnp
  | tornDown ht => exact absurd hp (Event.not_polls_of_tearsDown ht)
  | pollFailed => exact .of_same hw rfl rfl rfl rfl
  | dispatched _ _ hd => exact .dispatch hw rfl hd

/-- The tasks that run with an input. -/
def Input.tasks : Input → Tasks
  | .task k e => [(k, e)]
  | .event _ _ beforeVerdict beforeSubmit => beforeVerdict ++ beforeSubmit

/-- The pipeline of a device that was configured so. -/
def abstract (config : DfuConfig) : Pipeline :=
  .new (queueCapacity config.transferSize.toNat) config.download config.transferSize.toNat

/-- The session and its transfers are in a state that the pipeline reaches by calls and by some of
the tasks `ts`. -/
structure Refines (config : DfuConfig) (ts : Tasks) (w : Device) : Prop where
  download : w.dfu.download = config.download
  transferSize : w.dfu.transferSize = config.transferSize
  reached : ∃ ps : List Pipeline.Input, w.pipeline = run Pipeline.step (abstract config) ps ∧
    ∀ k e, Pipeline.Input.backend k e ∈ ps → (k, e) ∈ ts

namespace Refines

variable {config : DfuConfig} {ts : Tasks} {w : Device}

theorem new (config : DfuConfig) : Refines config [] (Device.new config) :=
  ⟨rfl, rfl, [], rfl, nofun⟩

theorem mono (h : Refines config ts w) {ts' : Tasks} (hts : ts ⊆ ts') : Refines config ts' w := by
  obtain ⟨ps, hps, hmem⟩ := h.reached
  exact ⟨h.download, h.transferSize, ps, hps, fun k e he => hts (hmem k e he)⟩

theorem task (h : Refines config ts w) {k : Nat} {e : Transfer.Event} (hmem : (k, e) ∈ ts) :
    Refines config ts (w.task k e) := by
  obtain ⟨ps, hps, hbackend⟩ := h.reached
  refine ⟨h.download, h.transferSize, ps ++ [.backend k e], ?_, fun j f hf => ?_⟩
  · rw [run_concat, ← hps]
    show (w.task k e).pipeline = w.pipeline.backend k e
    unfold Pipeline.backend
    split
    · next hk =>
        show Pipeline.mk _ (Pipeline.backend w.pipeline k e).transfers = _
        unfold Pipeline.backend
        rw [if_pos hk]
        rfl
    · next hk =>
        show Pipeline.mk _ (Pipeline.backend w.pipeline k e).transfers = _
        unfold Pipeline.backend
        rw [if_neg hk]
        rfl
  · rcases List.mem_append.1 hf with hf | hf
    · exact hbackend j f hf
    · cases List.mem_singleton.1 hf
      exact hmem

theorem tasks (h : Refines config ts w) {es : Tasks} (hes : es ⊆ ts) :
    Refines config ts (w.tasks es) := by
  induction es generalizing w with
  | nil => exact h
  | cons i es ih =>
      have hi : (i.1, i.2) ∈ ts := hes List.mem_cons_self
      exact ih (h.task hi) fun j hj => hes (List.mem_cons_of_mem i hj)

/-- A part of a request adds its calls, or begins a new pipeline. -/
theorem become (h : Refines config ts w) {d : Dfu} (hd : Hands w.pipeline w.dfu d) :
    Refines config ts (w.become d) := by
  have hdownload : d.download = config.download := hd.download.trans h.download
  have hsize : d.transferSize = config.transferSize := hd.transferSize.trans h.transferSize
  unfold Device.become
  rcases hd.sink with ⟨hr, hf⟩ | ⟨hr, hnew⟩
  · rw [if_pos (congrArg _ hr)]
    obtain ⟨ps, hps, hbackend⟩ := h.reached
    obtain ⟨ops, hops⟩ := hf.calls
    refine ⟨hdownload, hsize, ps ++ ops.map .call, ?_, fun k e he => ?_⟩
    · rw [run_append, ← hps, hops]
      rfl
    · rcases List.mem_append.1 he with he | he
      · exact hbackend k e he
      · obtain ⟨op, -, hop⟩ := List.mem_map.1 he
        cases hop
  · rw [if_neg (Nat.ne_of_gt hr)]
    refine ⟨hdownload, hsize, [], ?_, nofun⟩
    show Pipeline.mk d.sink (fun _ => .spawn (queueCapacity d.sink.maxBlockSize)) = _
    rw [hnew, h.download, h.transferSize]
    rfl

theorem polled (h : Refines config ts w) (around : Moments) {bv bs : Tasks} (hbv : bv ⊆ ts)
    (hbs : bs ⊆ ts) : Refines config ts (w.polled around bv bs) := by
  have hpushed : Refines config ts ((w.pushed around).tasks bv) :=
    (h.become (.pushPending rfl around.push)).tasks hbv
  exact (hpushed.become (hands_looks w around bv)).tasks hbs

theorem event (h : Refines config ts w) (e : Event) (around : Moments) {bv bs : Tasks}
    (hbv : bv ⊆ ts) (hbs : bs ⊆ ts) : Refines config ts (w.event e around bv bs) := by
  unfold Device.event
  by_cases hp : e.polls
  · rw [if_pos hp]
    exact (h.polled around hbv hbs).become (hands_polled hp w around bv bs)
  · rw [if_neg hp]
    refine h.become ?_
    have hto := Dfu.stepTo_step w.dfu ⟨e, around⟩
    generalize w.dfu.step ⟨e, around⟩ = d at hto ⊢
    cases hto with
    | ignored => exact .of_same rfl rfl rfl rfl rfl
    | tornDown => exact .teardown _ w.dfu
    | pollFailed hp' => exact absurd hp' hp
    | dispatched hp' => exact absurd hp' hp

theorem step (h : Refines config ts w) {i : Input} (hi : i.tasks ⊆ ts) :
    Refines config ts (w.step i) := by
  cases i with
  | task k e => exact h.task (hi List.mem_cons_self)
  | event e around bv bs =>
      exact h.event e around (fun _ hx => hi (List.mem_append_left _ hx))
        fun _ hx => hi (List.mem_append_right _ hx)

theorem run (config : DfuConfig) (is : List Input) :
    Refines config (is.flatMap Input.tasks) (Lib.run Device.step (Device.new config) is) := by
  refine run_invariant (P := fun _ i => i.tasks ⊆ is.flatMap Input.tasks)
    (fun w i h hi => h.step hi) ((new config).mono (List.nil_subset _)) ?_
  exact along_of_forall_mem fun i hi _ hx => List.mem_flatMap.2 ⟨i, hi, hx⟩

end Refines

end Device

/-- In every run of the device, under any host and any schedule of the tasks, the session with its
transfers is a state of the pipeline: one that the calls of a producer and tasks of that run lead
to. -/
theorem device_refines_pipeline (config : DfuConfig) (is : List Device.Input) :
    ∃ ps : List Pipeline.Input,
      (run Device.step (Device.new config) is).pipeline =
          run Pipeline.step (Device.abstract config) ps ∧
        ∀ k e, Pipeline.Input.backend k e ∈ ps → (k, e) ∈ is.flatMap Device.Input.tasks :=
  (Device.Refines.run config is).reached

/-- The queues of the device hold what its session was fed. -/
theorem Device.tracks_run (config : DfuConfig) (is : List Device.Input) :
    Pipeline.Tracks (run Device.step (Device.new config) is).pipeline := by
  obtain ⟨ps, hps, -⟩ := (Device.Refines.run config is).reached
  rw [hps]
  exact Pipeline.tracks_run _ _ _ ps

/-- Whatever the host sends and whenever the tasks run: what the writer of a transfer has taken is a
prefix of what the handler passed on to it. If no write of the run fails, a drain that has returned
has written all of it and has closed the writer once, behind the last byte. -/
theorem device_writes_fed (config : DfuConfig) (is : List Device.Input) (k : Nat) :
    let w := run Device.step (Device.new config) is
    (w.transfers k).written <+: w.dfu.sink.fedTo k ∧
      ((∀ t ∈ is.flatMap Device.Input.tasks, t.2.failsWriter = false) →
        (w.transfers k).drain.returned = true →
          (w.transfers k).written = w.dfu.sink.fedTo k ∧
            (w.transfers k).shutdowns = [(w.transfers k).written.length]) := by
  intro w
  have htracks : Pipeline.Tracks w.pipeline := Device.tracks_run config is
  have hfed : w.dfu.sink.fedTo k = (w.transfers k).queue.pushed.flatten := htracks.fed k
  rw [hfed]
  refine ⟨(htracks.sound k).written_initial, fun hok hret => ?_⟩
  -- the run of the pipeline has no failing write either
  obtain ⟨ps, hps, hmem⟩ := (Device.Refines.run config is).reached
  have hfails : ∀ p ∈ ps, p.failsWriter k = false := by
    intro p hp
    cases p with
    | call op => rfl
    | buffer => rfl
    | backend j e =>
        have hfine : e.failsWriter = false := hok (j, e) (hmem j e hp)
        show (decide (j = k) && e.failsWriter) = false
        rw [hfine, Bool.and_false]
  have hshort : (w.transfers k).drain.stoppedShort = false := by
    have hrun : ((run Pipeline.step (Device.abstract config) ps).transfers k).drain.stoppedShort =
        false :=
      run_invariant (I := fun w => (w.transfers k).drain.stoppedShort = false)
        (fun w i h hi => Pipeline.stoppedShort_step w i k h hi) rfl (along_of_forall_mem hfails)
    rw [← hps] at hrun
    exact hrun
  exact (htracks.sound k).finished (Drain.finished_of_returned hret hshort)

/-- A block of twenty bytes and the end of the image; the writer takes what it is given. -/
def twentyDrained : List Device.Input :=
  [.event (.dnload 0 twentyBytes) openable [] [],
    .event (.manifest 1) openable [] [(0, .connected)], .task 0 .recv, .task 0 (.write 4),
      .task 0 .recv, .task 0 (.write 9), .task 0 (.write 9),
    .task 0 .recv, .task 0 .shutdown]

theorem device_writes_fed_twenty :
    ((run Device.step (Device.new plainConfig) twentyDrained).transfers 0).written = twentyBytes ∧
      ((run Device.step (Device.new plainConfig) twentyDrained).transfers 0).shutdowns = [20] := by
  have hok : ∀ t ∈ twentyDrained.flatMap Device.Input.tasks, t.2.failsWriter = false := by decide
  have hall := (device_writes_fed plainConfig twentyDrained 0).2 hok (by decide +kernel)
  have hfed : (run Device.step (Device.new plainConfig) twentyDrained).dfu.sink.fedTo 0 =
      twentyBytes := by
    decide +kernel
  rw [hfed] at hall
  refine ⟨hall.1, ?_⟩
  rw [hall.2, hall.1]
  rfl

end SummitUsbgadget.DfuFunction
