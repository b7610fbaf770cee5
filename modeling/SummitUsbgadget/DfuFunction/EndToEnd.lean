import SummitUsbgadget.DfuFunction.Refinement

/-!
# From the host to the writer

A host downloads an image to a device whose session, tasks and backend run beside it. `Line` is the
whole of it: the host's conversation, the device, and with each request the tasks that run before it
and between its looks. A backend is in order (`Round.Healthy`) if it accepts the connection, takes
what is written and reports success, and that only after its input was closed. Then the sink that
the handler sees is fair, and `download_end_to_end` is about the bytes at the far end: at every
moment the writer has a prefix of the payload, and when the host is told that the device is idle
again it has had all of it and was closed once.
-/

set_option autoImplicit false

namespace SummitUsbgadget.DfuFunction

open SummitUsbgadget.Lib
open SummitUsbgadget.Swupdate

/-! ## The device beside a backend that is in order -/

namespace Device

/-- The device after the look at the verdict. -/
def observed (w : Device) (around : Moments) (beforeVerdict : Tasks) : Device :=
  let (push, verdict) := w.looks around beforeVerdict
  ((w.pushed around).tasks beforeVerdict).become (w.dfu.poll ⟨push, verdict, verdict⟩).2

theorem dfu_observed (w : Device) (around : Moments) (bv bs : Tasks) :
    (w.observed around bv).dfu = (w.dfu.poll (w.moments around bv bs)).2 :=
  dfu_become _ _

/-- Every one of the tasks finds the backend in order. -/
def Healthy (w : Device) (es : Tasks) : Prop :=
  Along (fun w i => w.task i.1 i.2) (fun w i => i.2.Healthy (w.transfers i.1)) w es

/-- The queues are those of the session, and the first transfer is in order. -/
structure Hale (w : Device) : Prop where
  tracks : Pipeline.Tracks w.pipeline
  transfer : (w.transfers 0).Hale

namespace Hale

variable {w : Device} {chunks : List Bytes}

theorem new (config : DfuConfig) : Hale (Device.new config) :=
  ⟨Pipeline.tracks_new _ _ _, .spawn _⟩

theorem task (h : Hale w) (hp : w.dfu.sink.Phase chunks) {k : Nat} {e : Transfer.Event}
    (he : e.Healthy (w.transfers k)) : Hale (w.task k e) := by
  have hw : (w.task k e).pipeline = w.pipeline.backend k e := by
    show Pipeline.mk w.dfu.sink (w.pipeline.backend k e).transfers = _
    unfold Pipeline.backend
    split <;> rfl
  refine ⟨?_, ?_⟩
  · rw [hw]
    exact Pipeline.tracks_backend k e h.tracks
  · show ((w.pipeline.backend k e).transfers 0).Hale
    unfold Pipeline.backend
    split
    · next hk =>
        show (Function.update w.transfers k ((w.transfers k).step (w.pipeline.handles k) e) 0).Hale
        by_cases h0 : 0 = k
        · subst h0
          rw [Function.update_self]
          refine h.transfer.step ?_ he
          rcases hp.status with hs | hs
          · have hk' : 0 < w.dfu.sink.spawns := hk
            omega
          · exact decide_eq_true hs
        · rw [Function.update_of_ne h0]
          exact h.transfer
    · exact h.transfer

theorem tasks (h : Hale w) (hp : w.dfu.sink.Phase chunks) {es : Tasks} (hes : w.Healthy es) :
    Hale (w.tasks es) := by
  induction es generalizing w with
  | nil => exact h
  | cons i es ih => exact ih (h.task hp hes.1) hp hes.2

theorem become (h : Hale w) {d : Dfu} (hd : Hands w.pipeline w.dfu d) : Hale (w.become d) := by
  unfold Device.become
  rcases hd.sink with ⟨hr, hf⟩ | ⟨hr, hnew⟩
  · rw [if_pos (congrArg _ hr)]
    refine ⟨?_, ?_⟩
    · obtain ⟨ops, hops⟩ := hf.calls
      have hrun : Pipeline.Tracks (run Pipeline.step w.pipeline (ops.map .call)) :=
        run_invariant_of_step Pipeline.tracks_step _ h.tracks
      rw [hops] at hrun
      exact hrun
    · obtain ⟨queue, hq⟩ :=
        Pipeline.foldl_absorb_frame (w.dfu.sink.since d.sink) w.transfers 0
      show ((w.dfu.sink.since d.sink).foldl Pipeline.absorb w.transfers 0).Hale
      rw [hq]
      exact h.transfer.of_queue queue
  · rw [if_neg (Nat.ne_of_gt hr)]
    refine ⟨?_, .spawn _⟩
    show Pipeline.Tracks ⟨d.sink, fun _ => .spawn (queueCapacity d.sink.maxBlockSize)⟩
    rw [hnew]
    exact Pipeline.tracks_new _ _ _

/-! ## What the handler sees -/

/-- While blocks are fed, the transfer that they go to is the first one. -/
theorem target_eq (hf : w.dfu.sink.Feeding chunks) : w.pipeline.target = 0 := by
  show w.dfu.sink.tx.getD w.dfu.sink.spawns = 0
  rcases hf with ⟨params, n, hs, -⟩ | hs
  · rw [hs]
    rfl
  · rw [hs.tx]
    rfl

/-- The drain sees no end of the queue before EOF. -/
theorem not_finished (h : Hale w) (hf : w.dfu.sink.Feeding chunks) :
    (w.transfers 0).drain ≠ .finished := by
  intro hfin
  have hend := h.tracks.pastEnd_target
  rw [target_eq hf] at hend
  have hpast : (w.transfers 0).drain.pastEnd = true := by
    rw [hfin]
    rfl
  exact absurd (hpast.symm.trans hend) (by simp)

theorem accepting (h : Hale w) (hf : w.dfu.sink.Feeding chunks) {v : View}
    (hv : v.restartPending = false) : (w.pipeline.view v).Accepting := by
  refine ⟨hv, ?_⟩
  show (w.transfers w.pipeline.target).queueView ≠ .closed
  rw [target_eq hf]
  have hopen : (w.transfers 0).drain.receiverOpen = true :=
    h.transfer.drain.resolve_right (h.not_finished hf)
  unfold Transfer.queueView
  rw [if_pos hopen]
  split
  · exact nofun
  · exact nofun

theorem task_of_feeding (h : Hale w) (hf : w.dfu.sink.Feeding chunks) (v : View) :
    (w.pipeline.view v).task = none := by
  show (w.dfu.sink.status.bind fun k => (w.transfers k).status) = none
  rcases hf with ⟨params, n, hs, -⟩ | hs
  · rw [hs]
    rfl
  · rw [hs.status]
    exact h.transfer.running (h.not_finished (Or.inr hs))

/-- After EOF there is no verdict yet, or it is a success and the writer was closed. -/
theorem task_of_ended (h : Hale w) (he : w.dfu.sink.Ended chunks) (v : View) :
    (w.pipeline.view v).task = (w.transfers 0).status ∧
      ((w.pipeline.view v).task = none ∨
        ((w.pipeline.view v).task = some (.done (.ok ())) ∧
          (w.transfers 0).drain = .finished)) := by
  have htask : (w.pipeline.view v).task = (w.transfers 0).status := by
    show (w.dfu.sink.status.bind fun k => (w.transfers k).status) = _
    rw [he.status]
    rfl
  rw [htask]
  exact ⟨rfl, h.transfer.status⟩

/-- What the first writer has is a prefix of what its session was fed, and all of it once it is
closed. -/
theorem written (h : Hale w) (hp : w.dfu.sink.Phase chunks) :
    (w.transfers 0).written <+: chunks.flatten ∧
      ((w.transfers 0).drain = .finished →
        (w.transfers 0).written = chunks.flatten ∧
          (w.transfers 0).shutdowns = [chunks.flatten.length]) := by
  have hfed : chunks.flatten = (w.transfers 0).queue.pushed.flatten :=
    hp.fedTo_eq.symm.trans (h.tracks.fed 0)
  rw [hfed]
  refine ⟨(h.tracks.sound 0).written_initial, fun hfin => ?_⟩
  obtain ⟨hall, hclosed⟩ := (h.tracks.sound 0).finished hfin
  exact ⟨hall, hclosed.trans (congrArg (fun bytes => [List.length bytes]) hall)⟩

end Hale

end Device

/-! ## The conversation with everything beside it -/

/-- What runs with one request of the host. Of `around` the restart flag and the boot information
count. -/
structure Round where
  before : Device.Tasks
  around : Moments
  beforeVerdict : Device.Tasks
  beforeSubmit : Device.Tasks

namespace Device

/-- The device when a request arrives. -/
def met (w : Device) (r : Round) : Device := w.tasks r.before

def request (w : Device) (e : Event) (r : Round) : Device :=
  (w.met r).event e r.around r.beforeVerdict r.beforeSubmit

/-- What the request sees. -/
def seen (w : Device) (r : Round) : Moments :=
  (w.met r).moments r.around r.beforeVerdict r.beforeSubmit

/-- The device at the look at the verdict. -/
def judged (w : Device) (r : Round) : Device := ((w.met r).pushed r.around).tasks r.beforeVerdict

@[simp] theorem dfu_met (w : Device) (r : Round) : (w.met r).dfu = w.dfu := dfu_tasks w r.before

theorem dfu_judged (w : Device) (r : Round) :
    (w.judged r).dfu = (w.dfu.pushPending (w.seen r).push).2 := by
  unfold judged
  rw [dfu_tasks, dfu_pushed, dfu_met]
  rfl

theorem dfu_request {e : Event} (he : e.polls) (w : Device) (r : Round) :
    (w.request e r).dfu = w.dfu.step ⟨e, w.seen r⟩ := by
  unfold request event
  rw [if_pos he, dfu_become, dfu_met]
  rfl

end Device

/-- The tasks that run with the request find the backend in order, and no restart is pending. -/
structure Round.Healthy (r : Round) (w : Device) : Prop where
  before : w.Healthy r.before
  verdict : ((w.met r).pushed r.around).Healthy r.beforeVerdict
  submit : ((w.met r).observed r.around r.beforeVerdict).Healthy r.beforeSubmit
  push : r.around.push.restartPending = false
  restart : r.around.submit.restartPending = false

/-- The host, the device, and the first transfer as the last look at the verdict found it. A session
that is done with is replaced, so `last` is where its end can be seen. -/
structure Line where
  host : Host
  device : Device
  last : Transfer

namespace Line

def new (config : DfuConfig) (blocks : List Block) : Line :=
  ⟨.ready blocks, Device.new config, (Device.new config).transfers 0⟩

/-- One request of the host; `num` is the number of the zero-length block. -/
def step (num : UInt16) (c : Line) (r : Round) : Line :=
  let last := (c.device.judged r).transfers 0
  match c.host with
  | .ready (block :: rest) =>
      ⟨.polling rest, c.device.request (.dnload block.num block.data) r, last⟩
  | .ready [] => ⟨.manifesting, c.device.request (.manifest num) r, last⟩
  | .polling rest =>
      ⟨.afterBlock rest (c.device.dfu.report (c.device.seen r)),
        c.device.request .getStatus r, last⟩
  | .manifesting =>
      ⟨.afterManifest (c.device.dfu.report (c.device.seen r)), c.device.request .getStatus r, last⟩
  | .done => c
  | .failed => c

/-- The conversation without what runs beside it. -/
def talk (c : Line) : Talk := ⟨c.host, c.device.dfu⟩

/-- What a request of the conversation sees. `GETSTATUS` submits nothing, so its third look is left
out. -/
def look (c : Line) (r : Round) : Moments :=
  match c.host with
  | .ready _ => c.device.seen r
  | _ => { c.device.seen r with submit := (c.device.seen r).push }

theorem talk_step (num : UInt16) (c : Line) (r : Round) :
    (c.step num r).talk = c.talk.step num (c.look r) := by
  obtain ⟨host, w, last⟩ := c
  cases host with
  | ready rest =>
      cases rest with
      | nil =>
          have hdfu := Device.dfu_request (e := .manifest num) (isDfuRequest_of_out rfl) w r
          exact congrArg (Talk.mk Host.manifesting) hdfu
      | cons block rest =>
          have hdfu := Device.dfu_request (e := .dnload block.num block.data)
            (isDfuRequest_of_out rfl) w r
          exact congrArg (Talk.mk (Host.polling rest)) hdfu
  | polling rest =>
      have hdfu := Device.dfu_request (e := .getStatus) rfl w r
      exact congrArg (Talk.mk _) hdfu
  | manifesting =>
      have hdfu := Device.dfu_request (e := .getStatus) rfl w r
      exact congrArg (Talk.mk _) hdfu
  | done => rfl
  | failed => rfl

end Line

/-! ## How far the session is with the payload -/

/-- The session was fed a part of the payload, from its beginning. -/
def Carries (whole : Bytes) (s : Session) : Prop :=
  ∃ chunks, s.Phase chunks ∧ chunks.flatten <+: payload whole

theorem carries_new (whole : Bytes) (params : SwupdateParams) (n : Nat) :
    Carries whole (Session.new params n) :=
  ⟨[], .feeding (Or.inl ⟨params, n, rfl, rfl⟩), List.nil_prefix⟩

/-- What was cut off before the window belongs to the payload, whatever still comes. -/
theorem Receiving.body_prefix {received body more : Bytes} {chunks : List Bytes} {d : Dfu}
    (h : Receiving received body chunks d) : body <+: payload (received ++ more) := by
  have hbody : body <+: received ++ more := by
    rw [h.split, List.append_assoc]
    exact List.prefix_append ..
  unfold payload
  split
  · refine List.prefix_take_iff.2 ⟨hbody, ?_⟩
    rw [h.split]
    simp only [List.length_append]
    have h16 : dfuSuffixLen = 16 := rfl
    rcases h.full with hnil | hfull
    · rw [hnil]
      exact Nat.zero_le _
    · omega
  · exact hbody

theorem Receiving.carries {received body more : Bytes} {chunks : List Bytes} {d : Dfu}
    (h : Receiving received body chunks d) : Carries (received ++ more) d.sink := by
  refine ⟨chunks, .feeding h.sink, List.IsPrefix.trans ?_ h.body_prefix⟩
  rw [← h.handed]
  exact List.prefix_append ..

theorem Manifesting.carries {whole : Bytes} {chunks : List Bytes} {d : Dfu}
    (h : Manifesting whole chunks d) : Carries whole d.sink := by
  have hpre : chunks.flatten <+: payload whole := by
    rw [← h.handed]
    exact List.prefix_append ..
  rcases h.sink with ⟨-, hs⟩ | ⟨-, hs⟩
  · exact ⟨chunks, .feeding (Or.inr hs), hpre⟩
  · exact ⟨chunks, .ended hs, hpre⟩

/-- A handler that is done holds nothing and looks at nothing. -/
theorem Installed.poll {whole : Bytes} {d : Dfu} (h : Installed whole d) (hs : d.state = .dfuIdle)
    (m : Moments) : (d.pushPending m.push).2 = d ∧ d.poll m = (.ok (), d) := by
  have hne : d.state ≠ .manifest := by simp [hs]
  have hpush : d.pushPending m.push = (.ok false, d) := by
    rw [Dfu.pushPending_of_none m.push h.pending, Dfu.eofIfManifesting_of_ne hne]
  have hwatch : d.watching = false := by
    unfold Dfu.watching
    rw [h.sink, hs]
    rfl
  refine ⟨by rw [hpush], ?_⟩
  rcases Dfu.poll_cases m d with ⟨err, herr, -⟩ | ⟨-, -, he⟩
  · rw [hpush] at herr
    cases herr
  · rw [he, hpush]
    rcases Dfu.observe_cases m.verdict d with ⟨-, ho⟩ | ⟨hw, -, -⟩ | ⟨hm, -, -⟩ | ⟨hw, -, -⟩
    · rw [ho]
    · rw [hwatch] at hw
      cases hw
    · exact absurd hm hne
    · rw [hwatch] at hw
      cases hw

namespace Talk.Sound

variable {whole : Bytes} {c : Talk} {m : Moments}

theorem carries (h : Talk.Sound whole c) : Carries whole c.device.sink := by
  obtain ⟨host, d⟩ := c
  cases host with
  | ready rest =>
      obtain ⟨received, body, chunks, rfl, hr, -, -⟩ := h
      exact hr.carries
  | polling rest =>
      obtain ⟨received, body, chunks, rfl, hr, -⟩ := h
      exact hr.carries
  | manifesting =>
      obtain ⟨chunks, hm⟩ := h
      exact hm.carries
  | done =>
      show Carries whole d.sink
      rw [h.1.sink]
      exact carries_new whole _ _
  | failed => exact h.elim

/-- The handler is not at manifestation while the host sends blocks. -/
theorem not_manifest {rest : List Block} {d : Dfu}
    (h : Talk.Sound whole ⟨.ready rest, d⟩ ∨ Talk.Sound whole ⟨.polling rest, d⟩) :
    ∃ received body chunks, whole = received ++ image rest ∧ Receiving received body chunks d ∧
      d.state ≠ .manifest := by
  rcases h with ⟨received, body, chunks, hw, hr, -, hst⟩ | ⟨received, body, chunks, hw, hr, hst⟩
  · have hst : d.state = .dfuIdle ∨ d.state = .dnloadIdle := hst
    exact ⟨received, body, chunks, hw, hr, by rcases hst with hst | hst <;> simp [hst]⟩
  · have hst : d.state = .dnloadSync ∨ d.state = .dnBusy := hst
    exact ⟨received, body, chunks, hw, hr, by rcases hst with hst | hst <;> simp [hst]⟩

theorem carries_pushed (h : Talk.Sound whole c)
    (hpush : c.device.sink.ended = false → m.push.Accepting) :
    Carries whole (c.device.pushPending m.push).2.sink := by
  obtain ⟨host, d⟩ := c
  have hreceiving : ∀ {rest : List Block}, (∃ received body chunks, whole = received ++ image rest ∧
      Receiving received body chunks d ∧ d.state ≠ .manifest) →
      Carries whole (d.pushPending m.push).2.sink := by
    rintro rest ⟨received, body, chunks, rfl, hr, hne⟩
    obtain ⟨chunks', -, -, hr', -, -⟩ := hr.pushPending (hpush hr.sink.not_ended) hne
    exact hr'.carries
  cases host with
  | ready rest => exact hreceiving (not_manifest (Or.inl h))
  | polling rest => exact hreceiving (not_manifest (Or.inr h))
  | manifesting =>
      obtain ⟨chunks, hm⟩ := h
      obtain ⟨chunks', -, -, hm', -⟩ := hm.pushPending hpush
      exact hm'.carries
  | done =>
      show Carries whole (d.pushPending m.push).2.sink
      rw [(h.1.poll h.2 m).1, h.1.sink]
      exact carries_new whole _ _
  | failed => exact h.elim

theorem carries_polled (h : Talk.Sound whole c)
    (hpush : c.device.sink.ended = false → m.push.Accepting)
    (hverdict : m.verdict.task = none ∨ ((c.device.pushPending m.push).2.sink.ended = true ∧
      m.verdict.task = some (.done (.ok ())))) :
    Carries whole (c.device.poll m).2.sink := by
  obtain ⟨host, d⟩ := c
  have hreceiving : ∀ {rest : List Block}, (∃ received body chunks, whole = received ++ image rest ∧
      Receiving received body chunks d ∧ d.state ≠ .manifest) →
      Carries whole (d.poll m).2.sink := by
    rintro rest ⟨received, body, chunks, rfl, hr, hne⟩
    have haccept := hpush hr.sink.not_ended
    obtain ⟨chunks', -, -, hr', -, -⟩ := hr.pushPending haccept hne
    have htask : m.verdict.task = none := by
      rcases hverdict with ht | ⟨hend, -⟩
      · exact ht
      · exact absurd (hr'.sink.not_ended.symm.trans hend) (by simp)
    obtain ⟨chunks'', -, hr'', -, -⟩ := hr.poll haccept htask hne
    exact hr''.carries
  cases host with
  | ready rest => exact hreceiving (not_manifest (Or.inl h))
  | polling rest => exact hreceiving (not_manifest (Or.inr h))
  | manifesting =>
      obtain ⟨chunks, hm⟩ := h
      obtain ⟨chunks', held, hok, hm', -⟩ := hm.pushPending hpush
      have hpoll : d.poll m = (.ok (), (d.pushPending m.push).2.observe m.verdict) := by
        rcases Dfu.poll_cases m d with ⟨err, herr, -⟩ | ⟨-, -, he⟩
        · rw [hok] at herr
          cases herr
        · exact he
      show Carries whole (d.poll m).2.sink
      rw [hpoll]
      rcases hverdict with hnone | ⟨hend, hsucc⟩
      · rw [hm'.observe_of_running hnone]
        exact hm'.carries
      · rw [(hm'.observe_of_success hend hsucc).1.sink]
        exact carries_new whole _ _
  | done =>
      show Carries whole (d.poll m).2.sink
      rw [(h.1.poll h.2 m).2]
      show Carries whole d.sink
      rw [h.1.sink]
      exact carries_new whole _ _
  | failed => exact h.elim

/-- While there is no verdict, the report is still `dfuMANIFEST`. -/
theorem manifesting_of_running (num : UInt16) {d : Dfu} (h : Talk.Sound whole ⟨.manifesting, d⟩)
    (hpush : d.sink.ended = false → m.push.Accepting) (hnone : m.verdict.task = none) :
    (Talk.step num ⟨.manifesting, d⟩ m).host = .manifesting := by
  obtain ⟨chunks, hm⟩ := h
  obtain ⟨chunks', held, hok, hm', -⟩ := hm.pushPending hpush
  have hpoll : d.poll m = (.ok (), (d.pushPending m.push).2) := by
    rcases Dfu.poll_cases m d with ⟨err, herr, -⟩ | ⟨-, -, he⟩
    · exact absurd (hok.symm.trans herr) (by simp)
    · rw [he, hm'.observe_of_running hnone]
  obtain ⟨hrep, -⟩ := Dfu.step_getStatus (d := d) (m := m) (by rw [hpoll])
  show Host.afterManifest (d.report m) = .manifesting
  rw [hrep, hpoll]
  simp [Dfu.getStatus, hm'.state, Host.afterManifest, hm'.status]

end Talk.Sound

/-! ## One request -/

namespace Line

/-- The conversation goes on as it should, the backend is in order, and a host that is done has seen
the end of a writer that got the payload. -/
structure Sound (whole : Bytes) (c : Line) : Prop where
  talk : c.talk.Sound whole
  hale : c.device.Hale
  installed : c.host = .done →
    c.last.written = payload whole ∧ c.last.shutdowns = [(payload whole).length]

namespace Sound

variable {whole : Bytes} {c : Line} {r : Round}

theorem met (h : Sound whole c) (hr : r.Healthy c.device) : (c.device.met r).Hale := by
  obtain ⟨chunks, hp, -⟩ := h.talk.carries
  exact h.hale.tasks hp hr.before

/-- Before EOF the handler sees a sink that takes blocks. -/
theorem push_accepting (h : Sound whole c) (hr : r.Healthy c.device)
    (hend : c.device.dfu.sink.ended = false) : (c.device.seen r).push.Accepting := by
  obtain ⟨chunks, hp, -⟩ := h.talk.carries
  cases hp with
  | feeding hf =>
      have hfeeding : (c.device.met r).dfu.sink.Feeding chunks := by
        rw [Device.dfu_met]
        exact hf
      exact (h.met hr).accepting hfeeding hr.push
  | ended he => exact absurd (hend.symm.trans he.ended) (by simp)

theorem judged (h : Sound whole c) (hr : r.Healthy c.device) :
    (c.device.judged r).Hale ∧ Carries whole (c.device.judged r).dfu.sink := by
  have hcarries : Carries whole (c.device.judged r).dfu.sink := by
    rw [Device.dfu_judged]
    exact h.talk.carries_pushed (m := c.device.seen r) (h.push_accepting hr)
  refine ⟨?_, hcarries⟩
  have hpushed : ((c.device.met r).pushed r.around).Hale :=
    (h.met hr).become (.pushPending rfl r.around.push)
  obtain ⟨chunks, hp, -⟩ := hcarries
  have hdfu : (c.device.judged r).dfu = ((c.device.met r).pushed r.around).dfu :=
    Device.dfu_tasks _ r.beforeVerdict
  rw [hdfu] at hp
  exact hpushed.tasks hp hr.verdict

/-- The handler sees no verdict, or a success after EOF, when the writer has been closed. -/
theorem verdict (h : Sound whole c) (hr : r.Healthy c.device) :
    (c.device.seen r).verdict.task = none ∨
      ((c.device.dfu.pushPending (c.device.seen r).push).2.sink.ended = true ∧
        (c.device.seen r).verdict.task = some (.done (.ok ())) ∧
        ((c.device.judged r).transfers 0).drain = .finished) := by
  obtain ⟨hale, chunks, hp, -⟩ := h.judged hr
  have hview : (c.device.seen r).verdict = (c.device.judged r).pipeline.view r.around.verdict := rfl
  rw [hview]
  cases hp with
  | feeding hf => exact Or.inl (hale.task_of_feeding hf _)
  | ended he =>
      rcases (hale.task_of_ended he r.around.verdict).2 with hn | ⟨hok, hfin⟩
      · exact Or.inl hn
      · refine Or.inr ⟨?_, hok, hfin⟩
        rw [← Device.dfu_judged]
        exact he.ended

theorem verdict_fair (h : Sound whole c) (hr : r.Healthy c.device) :
    (c.device.seen r).verdict.task = none ∨
      ((c.device.dfu.pushPending (c.device.seen r).push).2.sink.ended = true ∧
        (c.device.seen r).verdict.task = some (.done (.ok ()))) := by
  rcases h.verdict hr with hn | ⟨hend, hok, -⟩
  · exact Or.inl hn
  · exact Or.inr ⟨hend, hok⟩

theorem polled (h : Sound whole c) (hr : r.Healthy c.device) :
    ((c.device.met r).polled r.around r.beforeVerdict r.beforeSubmit).Hale := by
  have hobserved : ((c.device.met r).observed r.around r.beforeVerdict).Hale :=
    (h.judged hr).1.become (Device.hands_looks (c.device.met r) r.around r.beforeVerdict)
  obtain ⟨chunks, hp, -⟩ :=
    h.talk.carries_polled (m := c.device.seen r) (h.push_accepting hr) (h.verdict_fair hr)
  have hphase : ((c.device.met r).observed r.around r.beforeVerdict).dfu.sink.Phase chunks := by
    rw [Device.dfu_observed (c.device.met r) r.around r.beforeVerdict r.beforeSubmit,
      Device.dfu_met]
    exact hp
  exact hobserved.tasks hphase hr.submit

/-- The next block that the host sends finds a queue with a receiver. -/
theorem submit_accepting {rest : List Block} (h : Sound whole c) (hr : r.Healthy c.device)
    (hhost : c.host = .ready rest) : (c.device.seen r).submit.Accepting := by
  obtain ⟨host, w, last⟩ := c
  cases hhost
  obtain ⟨received, body, chunks, rfl, hrec, hne⟩ := Talk.Sound.not_manifest (Or.inl h.talk)
  have haccept := h.push_accepting hr hrec.sink.not_ended
  obtain ⟨chunks', -, -, hpushed, -, -⟩ := hrec.pushPending haccept hne
  have htask : (w.seen r).verdict.task = none := by
    rcases h.verdict hr with hn | ⟨hend, -, -⟩
    · exact hn
    · exact absurd (hpushed.sink.not_ended.symm.trans hend) (by simp)
  obtain ⟨chunks'', -, hpolled, -, -⟩ := hrec.poll haccept htask hne
  have hfeeding : ((w.met r).polled r.around r.beforeVerdict r.beforeSubmit).dfu.sink.Feeding
      chunks'' := by
    rw [Device.dfu_polled, Device.dfu_met]
    exact hpolled.sink
  exact (h.polled hr).accepting hfeeding hr.restart

/-- A backend that is in order makes a fair sink. -/
theorem fair (h : Sound whole c) (hr : r.Healthy c.device) : SinkFair c.talk (c.look r) := by
  have hpush := h.push_accepting hr
  have hverdict := h.verdict_fair hr
  obtain ⟨host, w, last⟩ := c
  cases host with
  | ready rest =>
      exact ⟨fun hend => ⟨hpush hend, h.submit_accepting hr rfl⟩, hverdict⟩
  | _ => exact ⟨fun hend => ⟨hpush hend, hpush hend⟩, hverdict⟩

/-- The host is told that the device is idle only after the writer has had everything. -/
theorem last (num : UInt16) (h : Sound whole c) (hr : r.Healthy c.device)
    (hhost : c.host = .manifesting) (hdone : (c.step num r).host = .done) :
    (c.step num r).last.written = payload whole ∧
      (c.step num r).last.shutdowns = [(payload whole).length] := by
  have hverdict := h.verdict hr
  have hpush := h.push_accepting hr
  obtain ⟨hale, -⟩ := h.judged hr
  have hstep := talk_step num c r
  obtain ⟨host, w, last⟩ := c
  cases hhost
  show ((w.judged r).transfers 0).written = _ ∧ ((w.judged r).transfers 0).shutdowns = _
  have hend : (w.dfu.pushPending (w.seen r).push).2.sink.ended = true ∧
      ((w.judged r).transfers 0).drain = .finished := by
    rcases hverdict with hnone | ⟨hend, -, hfin⟩
    · have hman := Talk.Sound.manifesting_of_running num h.talk
        (m := Line.look ⟨.manifesting, w, last⟩ r) hpush hnone
      have heq := congrArg Talk.host hstep
      exact absurd (hdone.symm.trans (heq.trans hman)) (by simp)
    · exact ⟨hend, hfin⟩
  -- EOF follows the last chunk, so the chunks are the payload
  obtain ⟨chunks, hman⟩ := h.talk
  obtain ⟨chunks', held, -, hman', -⟩ := hman.pushPending (v := (w.seen r).push) hpush
  rcases hman'.sink with ⟨-, hs⟩ | ⟨hp, hs⟩
  · exact absurd (hs.not_ended.symm.trans hend.1) (by simp)
  · have hall : chunks'.flatten = payload whole := by
      rw [← hman'.handed, Dfu.pendingBytes_of_none hp, List.append_nil]
    have hended : (w.judged r).dfu.sink.Ended chunks' := by
      rw [Device.dfu_judged]
      exact hs
    rw [← hall]
    exact (hale.written (.ended hended)).2 hend.2

theorem step (hne : payload whole ≠ []) (num : UInt16) (h : Sound whole c)
    (hr : r.Healthy c.device) : Sound whole (c.step num r) := by
  have htalk : (c.step num r).talk.Sound whole := by
    rw [talk_step]
    exact h.talk.step hne (h.fair hr)
  have hrequest : ∀ e : Event, e.polls → (c.device.request e r).Hale := by
    intro e he
    unfold Device.request Device.event
    rw [if_pos he]
    exact (h.polled hr).become (Device.hands_polled he (c.device.met r) _ _ _)
  have hlast := h.last num hr
  obtain ⟨host, w, last⟩ := c
  cases host with
  | ready rest =>
      cases rest with
      | nil => exact ⟨htalk, hrequest _ (isDfuRequest_of_out rfl), nofun⟩
      | cons block rest => exact ⟨htalk, hrequest _ (isDfuRequest_of_out rfl), nofun⟩
  | polling rest =>
      refine ⟨htalk, hrequest .getStatus rfl, fun hdone => ?_⟩
      rcases (@Talk.Sound.step_polling _ num _ _ rest h.talk (h.fair hr)).2 with hh | ⟨hh, -⟩
      · have heq := congrArg Talk.host (talk_step num ⟨.polling rest, w, last⟩ r)
        exact absurd (hdone.symm.trans (heq.trans hh)) (by simp)
      · have heq := congrArg Talk.host (talk_step num ⟨.polling rest, w, last⟩ r)
        exact absurd (hdone.symm.trans (heq.trans hh)) (by simp)
  | manifesting => exact ⟨htalk, hrequest .getStatus rfl, hlast rfl⟩
  | done => exact h
  | failed => exact h

/-- The writer has a prefix of the payload. -/
theorem written (h : Sound whole c) : (c.device.transfers 0).written <+: payload whole := by
  obtain ⟨chunks, hp, hpre⟩ := h.talk.carries
  exact (h.hale.written hp).1.trans hpre

end Sound

end Line

/-! ## The whole conversation -/

section Conversation

variable {num : UInt16} {config : DfuConfig} {blocks : List Block} {rounds : Nat → Round}

/-- The line after `n` requests. -/
def line (num : UInt16) (config : DfuConfig) (blocks : List Block)
    (rounds : Nat → Round) : Nat → Line :=
  states (Line.step num) (Line.new config blocks) rounds

theorem line_sound (hne : payload (image blocks) ≠ [])
    (hhealthy : ∀ n, (rounds n).Healthy (line num config blocks rounds n).device) (n : Nat) :
    Line.Sound (image blocks) (line num config blocks rounds n) := by
  refine states_invariant ?_ (fun k h => h.step hne num (hhealthy k)) n
  exact ⟨Talk.Sound.start config blocks, .new config, nofun⟩

/-- The line without what runs beside it is a conversation with a handler that is told what it
sees. -/
theorem talk_line (n : Nat) :
    (line num config blocks rounds n).talk =
      talk num config blocks (fun k => (line num config blocks rounds k).look (rounds k)) n := by
  induction n with
  | zero => rfl
  | succ n ih =>
      show (Line.step num (line num config blocks rounds n) (rounds n)).talk = _
      rw [Line.talk_step, ih]
      rfl

end Conversation

/-- What holds of a download at every moment, from the host to the writer. -/
structure Line.Delivers (whole : Bytes) (c : Line) : Prop where
  notFailed : c.host ≠ .failed
  status : c.device.dfu.status = .ok
  written : (c.device.transfers 0).written <+: payload whole
  installed : c.host = .done →
    c.device.dfu.state = .dfuIdle ∧ c.last.written = payload whole ∧
      c.last.shutdowns = [(payload whole).length]

theorem Line.Sound.delivers {whole : Bytes} {c : Line} (h : Line.Sound whole c) :
    Line.Delivers whole c := by
  have hwritten := h.written
  have hinstalled := h.installed
  have htalk := h.talk
  obtain ⟨host, w, last⟩ := c
  cases host with
  | ready rest =>
      obtain ⟨received, body, chunks, -, hr, -, -⟩ := htalk
      exact ⟨nofun, hr.status, hwritten, nofun⟩
  | polling rest =>
      obtain ⟨received, body, chunks, -, hr, -⟩ := htalk
      exact ⟨nofun, hr.status, hwritten, nofun⟩
  | manifesting =>
      obtain ⟨chunks, hm⟩ := htalk
      exact ⟨nofun, hm.status, hwritten, nofun⟩
  | done => exact ⟨nofun, htalk.1.status, hwritten, fun hd => ⟨htalk.2, hinstalled hd⟩⟩
  | failed => exact htalk.elim

/-- A download from the host to the writer, with a backend that is in order: for every image with a
payload, every split into blocks and every schedule of the tasks between and within the requests,
the host sees no error, the writer has a prefix of the payload at every moment, and when the host is
done it has had the payload and was closed once, behind it. The host is done at some moment, if
requests keep finding room in the queue, and a verdict after EOF. -/
theorem download_end_to_end (num : UInt16) (config : DfuConfig) (blocks : List Block)
    (rounds : Nat → Round) (hne : payload (image blocks) ≠ [])
    (hhealthy : ∀ n, (rounds n).Healthy (line num config blocks rounds n).device) :
    (∀ n, Line.Delivers (image blocks) (line num config blocks rounds n)) ∧
      ((∀ n, ∃ k, n ≤ k ∧ ((line num config blocks rounds k).device.seen
        (rounds k)).push.queue = .room) →
          (∀ n, (line num config blocks rounds n).device.dfu.sink.ended = true → ∃ k, n ≤ k ∧
          ((line num config blocks rounds k).device.seen (rounds k)).verdict.task.isSome) →
        ∃ n, (line num config blocks rounds n).host = .done) := by
  have hsound : ∀ n, Line.Sound (image blocks) (line num config blocks rounds n) :=
    line_sound hne hhealthy
  refine ⟨fun n => (hsound n).delivers, fun hroom hverdict => ?_⟩
  -- the conversation sees a fair sink, so it ends
  generalize hl : line num config blocks rounds = l at hsound hhealthy hroom hverdict
  have htalk : ∀ n, (l n).talk = talk num config blocks (fun k => (l k).look (rounds k)) n := by
    rw [← hl]
    exact talk_line
  have hpush : ∀ k, ((l k).look (rounds k)).push = ((l k).device.seen (rounds k)).push := by
    intro k
    unfold Line.look
    split <;> rfl
  have hlook : ∀ k, ((l k).look (rounds k)).verdict = ((l k).device.seen (rounds k)).verdict := by
    intro k
    unfold Line.look
    split <;> rfl
  have hdone : ∃ k, (talk num config blocks (fun k => (l k).look (rounds k)) k).host = .done := by
    refine ready_leads_to_done (n := 0) (fun n => htalk n ▸ (hsound n).talk)
      (fun n => htalk n ▸ (hsound n).fair (hhealthy n)) (fun n => ?_)
        (fun n hended => ?_) blocks rfl
    · obtain ⟨k, hnk, hk⟩ := hroom n
      exact ⟨k, hnk, (congrArg View.queue (hpush k)).trans hk⟩
    · rw [← htalk n] at hended
      obtain ⟨k, hnk, hk⟩ := hverdict n hended
      refine ⟨k, hnk, (congrArg View.task (hlook k)).trans ?_⟩
      rcases (hsound k).verdict_fair (hhealthy k) with hn | ⟨-, hok⟩
      · rw [hn] at hk
        cases hk
      · exact hok
  obtain ⟨k, hk⟩ := hdone
  refine ⟨k, ?_⟩
  rw [← htalk k] at hk
  exact hk

/-- Nothing runs with a request but, before the fourth one, the tasks of the transfer, to their
end. -/
def threeRounds (n : Nat) : Round where
  before := if n = 3 then [(0, .connected), (0, .recv), (0, .write 2), (0, .write 1), (0, .recv),
    (0, .shutdown), (0, .statusReady (.done (.ok ())))] else []
  around := openable
  beforeVerdict := []
  beforeSubmit := []

def threeBytes : List Block := [⟨0, [1, 2, 3], by decide, by decide⟩]

theorem download_end_to_end_three :
    (∀ n, (threeRounds n).Healthy (line 1 plainConfig threeBytes threeRounds n).device) ∧
      (line 1 plainConfig threeBytes threeRounds 4).host = .done ∧
      (line 1 plainConfig threeBytes threeRounds 4).last.written = [1, 2, 3] ∧
      (line 1 plainConfig threeBytes threeRounds 4).last.shutdowns = [3] := by
  have hpay : payload (image threeBytes) = [1, 2, 3] := by decide +kernel
  have hhealthy : ∀ n, (threeRounds n).Healthy
      (line 1 plainConfig threeBytes threeRounds n).device := by
    intro n
    refine ⟨?_, trivial, trivial, rfl, rfl⟩
    by_cases hn : n = 3
    · subst hn
      exact ⟨rfl, rfl, rfl, rfl, rfl, rfl, ⟨rfl, by decide +kernel⟩, trivial⟩
    · have hnone : (threeRounds n).before = [] := if_neg hn
      rw [hnone]
      exact trivial
  have hdone : (line 1 plainConfig threeBytes threeRounds 4).host = .done := by decide +kernel
  have hall := (download_end_to_end 1 plainConfig threeBytes threeRounds
      (by rw [hpay]; decide) hhealthy).1 4
  have hlast := (hall.installed hdone).2
  rw [hpay] at hlast
  exact ⟨hhealthy, hdone, hlast⟩

end SummitUsbgadget.DfuFunction
