import Mathlib.Algebra.Order.BigOperators.Group.List
import Mathlib.Algebra.Order.Group.Nat
import SummitUsbgadget.Swupdate.Growth
import SummitUsbgadget.DfuFunction.Ledger
import SummitUsbgadget.DfuFunction.Download
import SummitUsbgadget.DfuFunction.Device

/-!
# How much a download buffers

The queue of a session holds a number of blocks that is computed from the transfer size, and nothing
compares the blocks of the host with the transfer size. `Serves` says what one part of a request can
do if no block is longer than `n` bytes, `Loaded` is the invariant of the device under such hosts,
and `flooded` is the host that fills every buffer.
-/

set_option autoImplicit false

namespace SummitUsbgadget.DfuFunction

open SummitUsbgadget.Lib
open SummitUsbgadget.Swupdate

/-- The data of the event has at most `n` bytes: a data block, or the tail that a manifestation
submits. A tail has at most `dfuSuffixLen` bytes, so the second part matters for smaller `n`
only. -/
def Event.Fits (n : Nat) (d : Dfu) : Event → Prop
  | .setupHostToDevice req (.ok data) =>
      if req.announcesBlock then (data.take req.length.toNat).length ≤ n
      else req.request = Request.dnload → d.downloadTail.length ≤ n
  | _ => True

/-- The condition looks at the handler's tail only. -/
theorem Event.Fits.of_tail {n : Nat} {d d' : Dfu} {e : Event} (h : e.Fits n d)
    (ht : d'.downloadTail = d.downloadTail) : e.Fits n d' := by
  unfold Event.Fits at h ⊢
  rw [ht]
  exact h

/-- A step by which the host sends no more than `n` bytes at once. -/
def Device.Fits (n : Nat) (w : Device) : Device.Input → Prop
  | .task _ _ => True
  | .event e _ _ _ => e.Fits n w.dfu

/-! ## What the parts of a request add -/

/-- The tail is within the suffix window, the held block within `n` bytes. -/
structure Small (n : Nat) (d : Dfu) : Prop where
  tail : d.downloadTail.length ≤ dfuSuffixLen
  pending : ∀ chunk, d.pending = some chunk → chunk.length ≤ n

theorem Small.of_none {n : Nat} {d : Dfu} (ht : d.downloadTail.length ≤ dfuSuffixLen)
    (hp : d.pending = none) : Small n d := by
  refine ⟨ht, fun chunk hc => ?_⟩
  rw [hp] at hc
  cases hc

/-- What one part of a request does: it goes on with the session and feeds no block of more than `n`
bytes, or it replaces the session; and it leaves little behind. -/
structure Serves (n : Nat) (d d' : Dfu) : Prop extends Small n d' where
  transferSize : d'.transferSize = d.transferSize
  sink : (d'.retired = d.retired ∧ Session.Grows n d.sink d'.sink) ∨
    (d.retired.length < d'.retired.length ∧ d'.sink.maxBlockSize = d.transferSize.toNat)

namespace Serves

variable {n : Nat} {d d' d'' : Dfu}

/-- A change of what `Serves` does not look at. -/
theorem of_same (h : Small n d') (ht : d'.transferSize = d.transferSize)
    (hr : d'.retired = d.retired) (hs : d'.sink = d.sink) : Serves n d d' :=
  ⟨h, ht, Or.inl ⟨hr, hs ▸ .refl n d.sink⟩⟩

theorem of_grows (h : Small n d') (ht : d'.transferSize = d.transferSize)
    (hr : d'.retired = d.retired) (hs : Session.Grows n d.sink d'.sink) : Serves n d d' :=
  ⟨h, ht, Or.inl ⟨hr, hs⟩⟩

theorem trans (h : Serves n d d') (h' : Serves n d' d'') : Serves n d d'' := by
  refine ⟨h'.toSmall, h'.transferSize.trans h.transferSize, ?_⟩
  rcases h.sink with ⟨hr, hg⟩ | ⟨hr, hmax⟩
  · rcases h'.sink with ⟨hr', hg'⟩ | ⟨hr', hmax'⟩
    · exact Or.inl ⟨hr'.trans hr, hg.trans hg'⟩
    · exact Or.inr ⟨hr ▸ hr', h.transferSize ▸ hmax'⟩
  · rcases h'.sink with ⟨hr', hg'⟩ | ⟨hr', hmax'⟩
    · exact Or.inr ⟨hr' ▸ hr, hg'.maxBlockSize.trans hmax⟩
    · exact Or.inr ⟨Nat.lt_trans hr hr', h.transferSize ▸ hmax'⟩

/-- The source of a part may differ in what `Serves` does not look at. -/
theorem of_source (h : Serves n d' d'') (ht : d'.transferSize = d.transferSize)
    (hr : d'.retired = d.retired) (hs : d'.sink = d.sink) : Serves n d d'' := by
  refine ⟨h.toSmall, h.transferSize.trans ht, ?_⟩
  rw [← ht, ← hr, ← hs]
  exact h.sink

theorem teardown (n : Nat) (d : Dfu) : Serves n d d.teardown := by
  refine ⟨.of_none (Nat.zero_le _) rfl, rfl, Or.inr ⟨?_, rfl⟩⟩
  simp [Dfu.teardown, Dfu.replaceSink]

theorem eofIfManifesting (h : Small n d) : Serves n d d.eofIfManifesting := by
  rcases Dfu.eofIfManifesting_eq d with he | ⟨-, he⟩
  · rw [he]
    exact of_same h rfl rfl rfl
  · rw [he]
    exact of_grows ⟨h.tail, h.pending⟩ rfl rfl (Session.grows_eof n d.sink)

theorem pushPending (h : Small n d) (v : View) : Serves n d (d.pushPending v).2 := by
  cases hp : d.pending with
  | none =>
      rw [Dfu.pushPending_of_none v hp]
      exact eofIfManifesting h
  | some chunk =>
      have hg := Session.grows_trySend v (h.pending chunk hp) d.sink
      rcases Dfu.pushPending_of_some v hp with
        ⟨err, sink, hs, he⟩ | ⟨c, sink, hs, he⟩ | ⟨feed, sink, hs, -, he⟩
      · rw [he]
        rw [hs] at hg
        exact of_grows (.of_none h.tail rfl) rfl rfl hg
      · -- the block comes back as it was
        have hc := (Session.trySend_full (congrArg Prod.fst hs)).1
        rw [he]
        rw [hs] at hg
        refine of_grows ⟨h.tail, fun held hheld => ?_⟩ rfl rfl hg
        cases hheld
        rw [hc]
        exact h.pending chunk hp
      · rw [he]
        rw [hs] at hg
        have hsent : Serves n d { d with sink := sink, pending := none } :=
          of_grows (.of_none h.tail rfl) rfl rfl hg
        exact hsent.trans (eofIfManifesting hsent.toSmall)

theorem observe (h : Small n d) (v : View) : Serves n d (d.observe v) := by
  rcases Dfu.observe_cases v d with ⟨-, he⟩ | ⟨-, -, he⟩ | ⟨-, -, he⟩ | ⟨-, -, he⟩
  · rw [he]
    exact of_same h rfl rfl rfl
  · rw [he]
    refine ⟨.of_none h.tail rfl, rfl, Or.inr ⟨?_, rfl⟩⟩
    simp [Dfu.failed, Dfu.replaceSink, Dfu.fault]
  · rw [he]
    refine ⟨.of_none h.tail rfl, rfl, Or.inr ⟨?_, rfl⟩⟩
    simp [Dfu.manifested, Dfu.replaceSink]
  · rw [he]
    exact of_grows ⟨h.tail, h.pending⟩ rfl rfl (Session.grows_pollStatus n v d.sink)

theorem submitChunk (h : Small n d) (v : View) {chunk : Bytes} (hn : chunk.length ≤ n) :
    Serves n d (d.submitChunk v chunk).2 := by
  cases hp : d.pending with
  | some held =>
      rw [Dfu.submitChunk_of_some v chunk (by simp [hp])]
      have ht := teardown n d
      exact ⟨⟨ht.tail, ht.pending⟩, rfl, ht.sink⟩
  | none =>
      rw [Dfu.submitChunk_of_none v chunk hp]
      have hheld : Small n { d with pending := some chunk } := by
        refine ⟨h.tail, fun c hc => ?_⟩
        cases hc
        exact hn
      exact (pushPending hheld v).of_source rfl rfl rfl

/-- A block pushes as many bytes out of the suffix window as it has too many. -/
theorem acceptBlock (h : Small n d) (v : View) {block : Bytes} (hn : block.length ≤ n) :
    Serves n d (d.acceptBlock v block).2 := by
  have htail := h.tail
  by_cases hlen : (d.downloadTail ++ block).length ≤ dfuSuffixLen
  · rw [Dfu.acceptBlock_of_short v hlen]
    exact of_same ⟨hlen, h.pending⟩ rfl rfl rfl
  · rw [Dfu.acceptBlock_of_long v (by omega)]
    refine (submitChunk ?_ v ?_).of_source rfl rfl rfl
    · refine ⟨?_, h.pending⟩
      show (List.drop _ _).length ≤ _
      rw [List.length_drop]
      omega
    · rw [List.length_take, List.length_append]
      omega

theorem manifest (h : Small n d) (m : Moments) (hn : d.downloadTail.length ≤ n) :
    Serves n d (d.manifest m).2 := by
  have hcleared : Small n { d with status := .ok, state := .manifest, downloadTail := [] } :=
    ⟨Nat.zero_le _, h.pending⟩
  rcases Dfu.manifest_cases m d with ⟨-, he⟩ | ⟨-, he⟩
  · rw [he]
    exact (pushPending hcleared m.submit).of_source rfl rfl rfl
  · rw [he]
    exact (submitChunk hcleared m.submit hn).of_source rfl rfl rfl

theorem dispatch (h : Small n d) {m : Moments} {e : Event} (hd : Dispatch m d e d')
    (hf : e.Fits n d) : Serves n d d' := by
  have hsame : ∀ state status, Serves n d { d with state := state, status := status } :=
    fun _ _ => of_same ⟨h.tail, h.pending⟩ rfl rfl rfl
  cases hd with
  | finishing => exact hsame _ _
  | stageClosed => exact teardown n d
  | stageFailed => exact hsame _ _
  | @block req data hb hfin =>
      have hblock : (data.take req.length.toNat).length ≤ n := Eq.mp (if_pos hb) hf
      exact acceptBlock h m.submit hblock
  | detach => exact hsame _ _
  | @manifest req data hr hl =>
      have hnb : ¬ req.announcesBlock := fun hb => hb.2 hl
      have hmanifest : req.request = Request.dnload → d.downloadTail.length ≤ n :=
        Eq.mp (if_neg hnb) hf
      exact manifest h m (hmanifest hr)
  | clrAbort => exact teardown n d
  | clrStatus => exact of_same ⟨Nat.zero_le _, h.pending⟩ rfl rfl rfl
  | abort => exact teardown n d
  | unsupportedOut => exact hsame _ _
  | getStatus => exact hsame _ _
  | getState => exact hsame _ _
  | noUpload => exact hsame _ _
  | @upload req =>
      obtain ⟨state, he⟩ := Dfu.uploadBlock_frame req d
      rw [he]
      exact hsame state d.status
  | unsupportedIn => exact hsame _ _

end Serves

/-! ## The device under hosts whose blocks fit -/

theorem single_sinkInvariant : SinkInvariant Session.Single where
  new _ _ := Or.inl rfl
  trySend v item _ h := Session.single_trySend v item h
  eof _ h := Session.single_eof h
  pollStatus v _ h _ := Session.single_pollStatus v h

theorem consistent_sinkInvariant : SinkInvariant Session.Consistent where
  new := Session.consistent_new
  trySend v item _ h := Session.consistent_trySend v item h
  eof _ h := Session.consistent_eof h
  pollStatus v _ h _ := Session.consistent_pollStatus v h

theorem Dfu.poll_downloadTail (m : Moments) (d : Dfu) :
    (d.poll m).2.downloadTail = d.downloadTail := by
  obtain ⟨sink, pending, hfr⟩ := pushPending_frame m.push d
  rcases poll_cases m d with ⟨err, -, he⟩ | ⟨held, -, he⟩
  · rw [he, hfr]
  · rw [he]
    rcases observe_cases m.verdict (d.pushPending m.push).2 with
      ⟨-, ho⟩ | ⟨-, -, ho⟩ | ⟨-, -, ho⟩ | ⟨-, -, ho⟩
    · rw [ho, hfr]
    · rw [ho, hfr]
      rfl
    · rw [ho, hfr]
      rfl
    · rw [ho, hfr]

theorem Serves.poll {n : Nat} {d : Dfu} (h : Small n d) (m : Moments) :
    Serves n (d.pushPending m.push).2 (d.poll m).2 := by
  have hpush := (Serves.pushPending h m.push).toSmall
  rcases Dfu.poll_cases m d with ⟨err, -, he⟩ | ⟨held, -, he⟩
  · rw [he]
    exact .of_same hpush rfl rfl rfl
  · rw [he]
    exact .observe hpush m.verdict

namespace Device

@[simp] theorem dfu_become (w : Device) (d : Dfu) : (w.become d).dfu = d := by
  unfold become
  split <;> rfl

@[simp] theorem dfu_tasks (w : Device) (es : Tasks) : (w.tasks es).dfu = w.dfu := by
  induction es generalizing w with
  | nil => rfl
  | cons i es ih => exact ih (w.task i.1 i.2)

@[simp] theorem dfu_pushed (w : Device) (around : Moments) :
    (w.pushed around).dfu = (w.dfu.pushPending (w.pipeline.view around.push)).2 :=
  dfu_become w _

/-- The poll does not look at what is submitted after it. -/
theorem dfu_polled (w : Device) (around : Moments) (bv bs : Tasks) :
    (w.polled around bv bs).dfu = (w.dfu.poll (w.moments around bv bs)).2 :=
  (dfu_tasks _ bs).trans (dfu_become _ _)

/-- Whatever an event sees, the handler makes its step. -/
theorem event_dfu (w : Device) (e : Event) (around : Moments) (bv bs : Tasks) :
    ∃ m, (w.event e around bv bs).dfu = w.dfu.step ⟨e, m⟩ := by
  unfold event
  split
  · exact ⟨_, dfu_become _ _⟩
  · exact ⟨_, dfu_become _ _⟩

/-- Every queue has the capacity of the transfer size and holds no block of more than `n` bytes. -/
structure Loaded (n : Nat) (size : Nat) (w : Device) : Prop where
  small : Small n w.dfu
  transferSize : w.dfu.transferSize.toNat = size
  maxBlockSize : w.dfu.sink.maxBlockSize = size
  capacity : ∀ k, (w.transfers k).queue.capacity = queueCapacity size
  blocks : ∀ k, ∀ block ∈ (w.transfers k).queue.items, block.length ≤ n

namespace Loaded

variable {n size : Nat} {w : Device}

theorem new (n : Nat) (config : DfuConfig) :
    Loaded n config.transferSize.toNat (Device.new config) where
  small := .of_none (Nat.zero_le _) rfl
  transferSize := rfl
  maxBlockSize := rfl
  capacity _ := rfl
  blocks _ _ hmem := by cases hmem

/-- What the session was fed goes into its queues. -/
theorem absorb {es : List SessionEvent} (hes : ∀ k block, .fed k block ∈ es → block.length ≤ n)
    {transfers : Nat → Transfer}
    (hc : ∀ k, (transfers k).queue.capacity = queueCapacity size)
    (hb : ∀ k, ∀ block ∈ (transfers k).queue.items, block.length ≤ n) :
    (∀ k, (es.foldl Pipeline.absorb transfers k).queue.capacity = queueCapacity size) ∧
      ∀ k, ∀ block ∈ (es.foldl Pipeline.absorb transfers k).queue.items, block.length ≤ n := by
  induction es generalizing transfers with
  | nil => exact ⟨hc, hb⟩
  | cons e es ih =>
      refine ih (fun k block hmem => hes k block (List.mem_cons_of_mem e hmem)) ?_ ?_
      · intro k
        cases e with
        | fed j block =>
            show (Function.update transfers j _ k).queue.capacity = _
            by_cases hk : k = j
            · subst hk
              rw [Function.update_self, Transfer.push, Fifo.capacity_push]
              exact hc k
            · rw [Function.update_of_ne hk]
              exact hc k
        | _ => exact hc k
      · intro k
        cases e with
        | fed j block =>
            show ∀ b ∈ (Function.update transfers j _ k).queue.items, b.length ≤ n
            by_cases hk : k = j
            · subst hk
              rw [Function.update_self]
              intro b hmem
              rcases Fifo.mem_items_push hmem with hold | hnew
              · exact hb k b hold
              · rw [hnew]
                exact hes k block List.mem_cons_self
            · rw [Function.update_of_ne hk]
              exact hb k
        | _ => exact hb k

theorem become (h : Loaded n size w) {d : Dfu} (hd : Serves n w.dfu d) :
    Loaded n size (w.become d) := by
  have hsize : d.transferSize.toNat = size := (congrArg _ hd.transferSize).trans h.transferSize
  unfold Device.become
  rcases hd.sink with ⟨hr, hg⟩ | ⟨hr, hmax⟩
  · rw [if_pos (congrArg _ hr)]
    obtain ⟨es, hes, hn⟩ := hg.events
    have hsince : w.dfu.sink.since d.sink = es := by
      rw [Session.since, hes, List.drop_left]
    rw [hsince]
    obtain ⟨hc, hb⟩ := absorb hn h.capacity h.blocks
    exact ⟨hd.toSmall, hsize, hg.maxBlockSize.trans h.maxBlockSize, hc, hb⟩
  · rw [if_neg (Nat.ne_of_gt hr)]
    have hnew : d.sink.maxBlockSize = size := hmax.trans h.transferSize
    refine ⟨hd.toSmall, hsize, hnew, fun k => ?_, fun k block hmem => ?_⟩
    · show queueCapacity d.sink.maxBlockSize = _
      rw [hnew]
    · cases hmem

/-- The tasks only take blocks out of the queues. -/
theorem task (h : Loaded n size w) (k : Nat) (e : Transfer.Event) :
    Loaded n size (w.task k e) := by
  have hqueue : ∀ j, (w.pipeline.backend k e).transfers j = w.transfers j ∨
      ∃ hs : Handles, Transfer.Moves hs (w.transfers j) e
        ((w.pipeline.backend k e).transfers j) := by
    intro j
    unfold Pipeline.backend
    split
    · by_cases hj : j = k
      · subst hj
        refine Or.inr ⟨w.pipeline.handles j, ?_⟩
        show Transfer.Moves _ _ _
          (Function.update w.transfers j ((w.transfers j).step (w.pipeline.handles j) e) j)
        rw [Function.update_self]
        exact Transfer.step_moves _ _ _
      · exact Or.inl (Function.update_of_ne hj _ _)
    · exact Or.inl rfl
  have hfifo : ∀ j, ((w.pipeline.backend k e).transfers j).queue.capacity = queueCapacity size ∧
      ∀ block ∈ ((w.pipeline.backend k e).transfers j).queue.items, block.length ≤ n := by
    intro j
    rcases hqueue j with hsame | ⟨hs, hmoves⟩
    · rw [hsame]
      exact ⟨h.capacity j, h.blocks j⟩
    · generalize (w.pipeline.backend k e).transfers j = t at hmoves
      cases hmoves with
      | received hd hpop =>
          refine ⟨(Fifo.capacity_pop hpop).trans (h.capacity j), fun block hmem => ?_⟩
          refine h.blocks j block ?_
          rw [(Fifo.pop_eq_some hpop).1]
          exact List.mem_cons_of_mem _ hmem
      | _ => exact ⟨h.capacity j, h.blocks j⟩
  exact ⟨h.small, h.transferSize, h.maxBlockSize, fun j => (hfifo j).1, fun j => (hfifo j).2⟩

theorem tasks (h : Loaded n size w) (es : Tasks) : Loaded n size (w.tasks es) := by
  induction es generalizing w with
  | nil => exact h
  | cons i es ih => exact ih (h.task i.1 i.2)

theorem polled (h : Loaded n size w) (around : Moments) (bv bs : Tasks) :
    Loaded n size (w.polled around bv bs) := by
  have hpush : Loaded n size ((w.pushed around).tasks bv) :=
    (h.become (.pushPending h.small _)).tasks bv
  refine (hpush.become ?_).tasks bs
  rw [dfu_tasks, dfu_pushed]
  exact .poll h.small ⟨_, _, _⟩

theorem event (h : Loaded n size w) {e : Event} (hf : e.Fits n w.dfu) (around : Moments)
    (bv bs : Tasks) : Loaded n size (w.event e around bv bs) := by
  unfold Device.event
  by_cases hp : e.polls
  · rw [if_pos hp]
    have hpolled := h.polled around bv bs
    refine hpolled.become ?_
    have hsmall := hpolled.small
    rw [dfu_polled] at hsmall ⊢
    have hto := Dfu.stepTo_step w.dfu ⟨e, w.moments around bv bs⟩
    generalize w.dfu.step ⟨e, w.moments around bv bs⟩ = d at hto ⊢
    cases hto with
    | ignored hnp => exact absurd hp hnp
    | tornDown ht => exact absurd hp (Event.not_polls_of_tearsDown ht)
    | pollFailed => exact .of_same hsmall rfl rfl rfl
    | dispatched _ _ hd =>
        exact .dispatch hsmall hd (hf.of_tail (Dfu.poll_downloadTail _ w.dfu))
  · rw [if_neg hp]
    refine h.become ?_
    have hto := Dfu.stepTo_step w.dfu ⟨e, around⟩
    generalize w.dfu.step ⟨e, around⟩ = d at hto ⊢
    cases hto with
    | ignored => exact .of_same h.small rfl rfl rfl
    | tornDown => exact .teardown n w.dfu
    | pollFailed hp' => exact absurd hp' hp
    | dispatched hp' => exact absurd hp' hp

theorem step (h : Loaded n size w) {i : Input} (hi : w.Fits n i) : Loaded n size (w.step i) := by
  cases i with
  | task k e => exact h.task k e
  | event e around bv bs => exact h.event hi around bv bs

end Loaded

theorem sink_step {P : Session → Prop} (hP : SinkInvariant P) (w : Device) (i : Input)
    (h : P w.dfu.sink) : P (w.step i).dfu.sink := by
  cases i with
  | task k e => exact h
  | event e around bv bs =>
      obtain ⟨m, he⟩ := event_dfu w e around bv bs
      show P (w.event e around bv bs).dfu.sink
      rw [he]
      exact hP.step w.dfu ⟨e, m⟩ h

/-- A session has one queue. -/
theorem queued_eq (w : Device) (h : w.dfu.sink.Single) :
    w.queued = [] ∨ w.queued = (w.transfers 0).queue.items := by
  have hle := h.spawns_le
  unfold queued
  rcases Nat.le_one_iff_eq_zero_or_eq_one.1 hle with h0 | h1
  · rw [h0]
    exact Or.inl rfl
  · rw [h1]
    simp only [List.range_one, List.flatMap_cons, List.flatMap_nil, List.append_nil]
    split
    · exact Or.inr rfl
    · exact Or.inl rfl

theorem length_flatten_le {n : Nat} {blocks : List Bytes} (h : ∀ block ∈ blocks, block.length ≤ n) :
    blocks.flatten.length ≤ blocks.length * n := by
  rw [List.length_flatten]
  have hsum := List.sum_le_card_nsmul (blocks.map List.length) n (by simpa using h)
  simpa using hsum

/-- What a device under such hosts holds. -/
theorem Loaded.bounds {n size : Nat} {w : Device} (h : Loaded n size w)
    (hs : w.dfu.sink.Single) :
    w.queued.length ≤ queueCapacity size ∧
      w.heldBytes ≤ (queueCapacity size + 1) * n + dfuSuffixLen := by
  have hqueue : w.queued.length ≤ queueCapacity size ∧ ∀ block ∈ w.queued, block.length ≤ n := by
    rcases queued_eq w hs with hq | hq
    · rw [hq]
      exact ⟨Nat.zero_le _, by simp⟩
    · rw [hq, ← h.capacity 0]
      exact ⟨(w.transfers 0).queue.bounded, h.blocks 0⟩
  have hpending : (w.dfu.pending.getD []).length ≤ n := by
    cases hp : w.dfu.pending with
    | none => exact Nat.zero_le n
    | some chunk => exact h.small.pending chunk hp
  refine ⟨hqueue.1, ?_⟩
  calc w.heldBytes
      ≤ w.queued.length * n + n + dfuSuffixLen :=
        Nat.add_le_add (Nat.add_le_add (length_flatten_le hqueue.2) hpending) h.small.tail
    _ ≤ queueCapacity size * n + n + dfuSuffixLen :=
        Nat.add_le_add_right (Nat.add_le_add_right (Nat.mul_le_mul_right n hqueue.1) n) _
    _ = (queueCapacity size + 1) * n + dfuSuffixLen := by rw [Nat.succ_mul]

/-! ## The host that fills every buffer -/

/-- A data block, while no task moves. -/
def sends (block : Block) : Input := .event (.dnload block.num block.data) openable [] []

/-- Nothing has been drained: the queue holds all that the session was fed of `received`. -/
structure Filling (capacity : Nat) (received : Bytes) (chunks : List Bytes) (w : Device) :
    Prop where
  receiving : ∃ body, Receiving received body chunks w.dfu
  consistent : w.dfu.sink.Consistent
  state : w.dfu.isFinishing = false
  drain : (w.transfers 0).drain = .connecting
  running : (w.transfers 0).status = none
  capacity : (w.transfers 0).queue.capacity = capacity
  items : (w.transfers 0).queue.items = chunks

theorem become_self (w : Device) : w.become w.dfu = w := by
  unfold become Session.since
  rw [if_pos rfl, List.drop_length]
  rfl

/-- A chunk goes into the queue, or, if that is full, it is held. -/
theorem submitChunk_sink {d : Dfu} {chunks : List Bytes} (hs : d.sink.Feeding chunks)
    (hp : d.pending = none) (hst : d.state ≠ .manifest) {v : View} (hv : v.Accepting)
    (chunk : Bytes) :
    (v.queue = .room ∧ (d.submitChunk v chunk).2.sink.Streaming (chunks ++ [chunk]) ∧
        (d.submitChunk v chunk).2.pending = none) ∨
      (v.queue = .full ∧ (d.submitChunk v chunk).2.sink.Streaming chunks) := by
  rw [Dfu.submitChunk_of_none v chunk hp]
  have hheld : { d with pending := some chunk }.pending = some chunk := rfl
  rcases Dfu.pushPending_of_accepting hv hheld hs with ⟨hq, sink, hsink, he⟩ | ⟨hq, sink, hsink, he⟩
  · have hst' : { d with sink := sink, pending := none }.state ≠ .manifest := hst
    rw [he]
    show _ ∧ (Dfu.eofIfManifesting
        { d with sink := sink, pending := none }).sink.Streaming _ ∧ _ ∨ _
    rw [Dfu.eofIfManifesting_of_ne hst']
    exact Or.inl ⟨hq, hsink, rfl⟩
  · rw [he]
    exact Or.inr ⟨hq, hsink⟩

/-- Where a block goes: into the suffix window, or a chunk is submitted for it. -/
theorem acceptBlock_sink {d : Dfu} {chunks : List Bytes} (hs : d.sink.Feeding chunks)
    (hp : d.pending = none) {v : View} (hv : v.Accepting) (block : Bytes) :
    ((d.acceptBlock v block).2.sink = d.sink ∧ (d.acceptBlock v block).2.pending = none) ∨
      (dfuSuffixLen < (d.downloadTail ++ block).length ∧
        ((v.queue = .room ∧ (d.acceptBlock v block).2.pending = none ∧
            ∃ chunk, (d.acceptBlock v block).2.sink.Streaming (chunks ++ [chunk])) ∨
          (v.queue = .full ∧ (d.acceptBlock v block).2.sink.Streaming chunks))) := by
  by_cases hlen : (d.downloadTail ++ block).length ≤ dfuSuffixLen
  · rw [Dfu.acceptBlock_of_short v hlen]
    exact Or.inl ⟨rfl, hp⟩
  · have hlong : dfuSuffixLen < (d.downloadTail ++ block).length := by omega
    refine Or.inr ⟨hlong, ?_⟩
    rw [Dfu.acceptBlock_of_long v hlong]
    generalize (d.downloadTail ++ block).take _ = chunk
    generalize d.downloadCrc.update chunk = crc
    generalize (d.downloadTail ++ block).drop _ = tail
    rcases submitChunk_sink (d := { d with
        state := .dnloadSync
        status := .ok
        downloadTail := tail
        downloadCrc := crc }) hs hp State.noConfusion hv chunk with
      ⟨hq, hsink, hnone⟩ | ⟨hq, hsink⟩
    · exact Or.inl ⟨hq, hnone, chunk, hsink⟩
    · exact Or.inr ⟨hq, hsink⟩

namespace Filling

variable {capacity : Nat} {received : Bytes} {chunks : List Bytes} {w : Device}

theorem new (config : DfuConfig) :
    Filling (queueCapacity config.transferSize.toNat) [] [] (Device.new config) where
  receiving := ⟨[], Dfu.receiving_new config⟩
  consistent := Session.consistent_new _ _
  state := rfl
  drain := rfl
  running := rfl
  capacity := rfl
  items := rfl

theorem state_ne (h : Filling capacity received chunks w) : w.dfu.state ≠ .manifest := by
  intro hst
  have hf := h.state
  rw [Dfu.isFinishing, hst] at hf
  cases hf

/-- What is received is held somewhere. -/
theorem heldBytes (h : Filling capacity received chunks w) : w.heldBytes = received.length := by
  obtain ⟨body, hr⟩ := h.receiving
  have hqueued : w.queued = chunks := by
    unfold queued
    rcases hr.sink with ⟨params, n, hnew, hnil⟩ | hs
    · rw [hnew, hnil]
      rfl
    · rw [← h.consistent.tx_last 0 hs.tx, List.range_one, List.flatMap_singleton, h.drain, h.items]
      rfl
  rw [Device.heldBytes, hqueued, hr.split, ← hr.handed, List.length_append, List.length_append]
  rfl

/-- The request sees the first transfer: its receiver is there and its status task runs. -/
theorem view (h : Filling capacity received chunks w) {v : View} (hv : v.restartPending = false) :
    (w.pipeline.view v).Accepting ∧ (w.pipeline.view v).task = none ∧
      (w.pipeline.view v).queue = if chunks.length < capacity then .room else .full := by
  obtain ⟨body, hr⟩ := h.receiving
  have htarget : w.pipeline.target = 0 ∧
      (w.dfu.sink.status = none ∨ w.dfu.sink.status = some 0) := by
    show w.dfu.sink.tx.getD w.dfu.sink.spawns = 0 ∧ _
    rcases hr.sink with ⟨params, n, hnew, -⟩ | hs
    · rw [hnew]
      exact ⟨rfl, Or.inl rfl⟩
    · rw [hs.tx, hs.status]
      exact ⟨rfl, Or.inr rfl⟩
  have hqueue : (w.pipeline.view v).queue = if chunks.length < capacity then .room else .full := by
    show (w.transfers w.pipeline.target).queueView = _
    rw [htarget.1, Transfer.queueView, h.drain, Fifo.hasRoom, h.items, h.capacity]
    simp [Drain.receiverOpen]
  refine ⟨⟨hv, ?_⟩, ?_, hqueue⟩
  · rw [hqueue]
    split <;> simp
  · show (w.dfu.sink.status.bind fun k => (w.transfers k).status) = none
    rcases htarget.2 with hst | hst
    · rw [hst]
      rfl
    · rw [hst]
      exact h.running

/-- With nothing held the poll does nothing, and the block is taken at once. -/
theorem step_sends (h : Filling capacity received chunks w) (hp : w.dfu.pending = none)
    (block : Block) :
    w.step (sends block) =
      w.become (w.dfu.acceptBlock (w.pipeline.view openable.submit) block.data).2 := by
  obtain ⟨body, hr⟩ := h.receiving
  have hpush : ∀ v, w.dfu.pushPending v = (.ok false, w.dfu) := by
    intro v
    rw [Dfu.pushPending_of_none v hp, Dfu.eofIfManifesting_of_ne h.state_ne]
  have hpushed : w.pushed openable = w := by
    rw [pushed, hpush]
    exact become_self w
  have htask : (w.looks openable []).2.task = none := by
    show ((w.pushed openable).pipeline.view openable.verdict).task = none
    rw [hpushed]
    exact (h.view rfl).2.1
  have hpoll : ∀ v, w.dfu.poll ⟨(w.looks openable []).1, (w.looks openable []).2, v⟩ =
      (.ok (), w.dfu) := by
    intro v
    rw [Dfu.poll, hpush]
    show (_, w.dfu.observe _) = _
    rw [hr.observe htask h.state_ne]
  have hpolled : w.polled openable [] [] = w := by
    show (w.pushed openable).become (w.dfu.poll ⟨(w.looks openable []).1,
      (w.looks openable []).2, (w.looks openable []).2⟩).2 = w
    rw [hpoll, hpushed]
    exact become_self w
  show w.event _ openable [] [] = _
  have hpolls : (Event.dnload block.num block.data).polls := isDfuRequest_of_out rfl
  rw [event, if_pos hpolls, hpolled]
  have hm : w.moments openable [] [] =
      ⟨(w.looks openable []).1, (w.looks openable []).2, w.pipeline.view openable.submit⟩ := by
    rw [moments, hpolled]
  have hok := hpoll (w.pipeline.view openable.submit)
  rw [hm, Dfu.step_dnload block (by rw [hok]) (by rw [hok]; exact h.state), hok]

/-- A chunk goes to the end of a queue that is not full. -/
theorem queue_push (h : Filling capacity received chunks w) (hlt : chunks.length < capacity)
    (chunk : Bytes) :
    ((w.transfers 0).push chunk).queue.items = chunks ++ [chunk] ∧
      ((w.transfers 0).push chunk).queue.capacity = capacity := by
  have hroom : (w.transfers 0).queue.hasRoom = true := by
    rw [Fifo.hasRoom, h.items, h.capacity]
    exact decide_eq_true hlt
  constructor
  · rw [Transfer.push, Fifo.items_push hroom, h.items]
  · exact (Fifo.capacity_push chunk _).trans h.capacity

/-- A block moves at most one chunk into the queue, none while the suffix window takes all, and is
held only if the queue is full. -/
theorem step (h : Filling capacity received chunks w) (hp : w.dfu.pending = none) (block : Block) :
    ∃ chunks', Filling capacity (received ++ block.data) chunks' (w.step (sends block)) ∧
      (chunks.length < capacity → (w.step (sends block)).dfu.pending = none) ∧
      chunks'.length ≤ chunks.length + 1 ∧
      ((received ++ block.data).length ≤ dfuSuffixLen →
        chunks' = chunks ∧ (w.step (sends block)).dfu.pending = none) := by
  obtain ⟨body, hr⟩ := h.receiving
  have hcons := sink_step consistent_sinkInvariant w (sends block) h.consistent
  obtain ⟨hacc, -, hqueue⟩ := h.view (v := openable.submit) rfl
  rw [h.step_sends hp block] at hcons ⊢
  generalize w.pipeline.view openable.submit = v at hacc hqueue hcons ⊢
  obtain ⟨body', chunks', hr', hstate⟩ := hr.acceptBlock hacc hp block.data
  have hfin : (w.dfu.acceptBlock v block.data).2.isFinishing = false := by
    rw [Dfu.isFinishing, hstate]
    rfl
  have hretired : (w.dfu.acceptBlock v block.data).2.retired.length = w.dfu.retired.length := by
    rw [hr.retired, hr'.retired]
  -- what the session has taken is what the queue gets
  have hbecome : w.become (w.dfu.acceptBlock v block.data).2 =
      ⟨(w.dfu.acceptBlock v block.data).2,
        (w.dfu.sink.since (w.dfu.acceptBlock v block.data).2.sink).foldl Pipeline.absorb
          w.transfers⟩ := if_pos hretired
  rw [hbecome] at hcons ⊢
  have hshort : (received ++ block.data).length ≤ dfuSuffixLen →
      (w.dfu.downloadTail ++ block.data).length ≤ dfuSuffixLen := by
    intro hle
    rw [hr.split, List.append_assoc, List.length_append] at hle
    omega
  rcases acceptBlock_sink hr.sink hp hacc block.data with
    ⟨hsink, hnone⟩ | ⟨hlong, ⟨hroom, hnone, chunk, hsink⟩ | ⟨hfull, hsink⟩⟩
  · -- all of it stays in the suffix window
    have hchunks : chunks' = chunks := Session.Feeding.unique hr'.sink (hsink ▸ hr.sink)
    have hnew : w.dfu.sink.since (w.dfu.acceptBlock v block.data).2.sink = [] := by
      rw [hsink, Session.since, List.drop_length]
    rw [hnew]
    refine ⟨chunks, ?_, fun _ => hnone, by omega, fun _ => ⟨rfl, hnone⟩⟩
    exact ⟨⟨body', hchunks ▸ hr'⟩, hcons, hfin, h.drain, h.running, h.capacity, h.items⟩
  · -- one chunk moves on into the queue
    have hchunks : chunks' = chunks ++ [chunk] := Session.Feeding.unique hr'.sink (Or.inr hsink)
    have hlt : chunks.length < capacity := by
      by_contra hnot
      rw [hqueue, if_neg hnot] at hroom
      cases hroom
    obtain ⟨hitems, hcap⟩ := h.queue_push hlt chunk
    have hnew : (w.dfu.sink.since (w.dfu.acceptBlock v block.data).2.sink).foldl Pipeline.absorb
        w.transfers = Function.update w.transfers 0 ((w.transfers 0).push chunk) :=
      hr.sink.absorb hsink w.transfers
    rw [hnew]
    refine ⟨chunks ++ [chunk], ?_, fun _ => hnone, by simp, fun hle => ?_⟩
    · exact ⟨⟨body', hchunks ▸ hr'⟩, hcons, hfin, h.drain, h.running, hcap, hitems⟩
    · exact absurd (hshort hle) (Nat.not_le_of_lt hlong)
  · -- the queue is full, and the chunk is held
    have hchunks : chunks' = chunks := Session.Feeding.unique hr'.sink (Or.inr hsink)
    have hnew : (w.dfu.sink.since (w.dfu.acceptBlock v block.data).2.sink).foldl Pipeline.absorb
        w.transfers = w.transfers :=
      hr.sink.absorb ((List.append_nil chunks).symm ▸ hsink) w.transfers
    rw [hnew]
    refine ⟨chunks, ?_, fun hlt => ?_, by omega, fun hle => ?_⟩
    · exact ⟨⟨body', hchunks ▸ hr'⟩, hcons, hfin, h.drain, h.running, h.capacity, h.items⟩
    · rw [hqueue, if_pos hlt] at hfull
      cases hfull
    · exact absurd (hshort hle) (Nat.not_le_of_lt hlong)

/-- Blocks that fit into the suffix window together stay in it. -/
theorem run_window (h : Filling capacity received chunks w) (hp : w.dfu.pending = none)
    (blocks : List Block) (hle : (received ++ image blocks).length ≤ dfuSuffixLen) :
    Filling capacity (received ++ image blocks) chunks
        (Lib.run Device.step w (blocks.map sends)) ∧
      (Lib.run Device.step w (blocks.map sends)).dfu.pending = none := by
  induction blocks generalizing received w with
  | nil =>
      rw [image, List.map_nil, List.flatten_nil, List.append_nil]
      exact ⟨h, hp⟩
  | cons block blocks ih =>
      have himage : received ++ image (block :: blocks) =
          received ++ block.data ++ image blocks := by
        simp [image]
      rw [himage] at hle ⊢
      obtain ⟨chunks', hnext, -, -, hwindow⟩ := h.step hp block
      have hfirst : (received ++ block.data).length ≤ dfuSuffixLen := by
        rw [List.length_append] at hle
        omega
      obtain ⟨hsame, hnone⟩ := hwindow hfirst
      rw [hsame] at hnext
      exact ih hnext hnone hle

/-- As many blocks as the queue has room for leave nothing held. -/
theorem run (h : Filling capacity received chunks w) (hp : w.dfu.pending = none)
    (blocks : List Block) (hle : chunks.length + blocks.length ≤ capacity) :
    ∃ chunks', Filling capacity (received ++ image blocks) chunks'
        (Lib.run Device.step w (blocks.map sends)) ∧
      (Lib.run Device.step w (blocks.map sends)).dfu.pending = none := by
  induction blocks generalizing received chunks w with
  | nil =>
      rw [image, List.map_nil, List.flatten_nil, List.append_nil]
      exact ⟨chunks, h, hp⟩
  | cons block blocks ih =>
      have himage : received ++ image (block :: blocks) =
          received ++ block.data ++ image blocks := by
        simp [image]
      rw [himage]
      rw [List.length_cons] at hle
      obtain ⟨chunks', hnext, hnone, hgrown, -⟩ := h.step hp block
      exact ih hnext (hnone (by omega)) (by omega)

end Filling

/-- A byte for each place of the suffix window. -/
def window : List Block := List.replicate dfuSuffixLen ⟨0, [0], List.cons_ne_nil 0 [], by decide⟩

/-- A block of `n` bytes. -/
def zeros (n : Nat) (hpos : 0 < n) (hlt : n < 2 ^ 16) : Block where
  num := 0
  data := List.replicate n 0
  nonempty := by simpa [List.replicate_eq_nil_iff] using Nat.ne_of_gt hpos
  fits := by simpa using hlt

theorem length_zeros {n : Nat} (hpos : 0 < n) (hlt : n < 2 ^ 16) :
    (zeros n hpos hlt).data.length = n :=
  List.length_replicate

/-- A host that fills the suffix window, the queue and `pending`. -/
def flood (config : DfuConfig) (block : Block) : List Input :=
  (window ++ List.replicate (queueCapacity config.transferSize.toNat + 1) block).map sends

theorem image_replicate (n : Nat) (block : Block) :
    (image (List.replicate n block)).length = n * block.data.length := by
  simp [image]

theorem heldBytes_flood (config : DfuConfig) (block : Block) :
    (run Device.step (Device.new config) (flood config block)).heldBytes =
      (queueCapacity config.transferSize.toNat + 1) * block.data.length + dfuSuffixLen := by
  have hwindow : (image window).length = dfuSuffixLen := image_replicate dfuSuffixLen _
  obtain ⟨h₁, hp₁⟩ := (Filling.new config).run_window rfl window (Nat.le_of_eq hwindow)
  obtain ⟨chunks₂, h₂, hp₂⟩ := h₁.run hp₁
    (List.replicate (queueCapacity config.transferSize.toNat) block) (by simp)
  obtain ⟨chunks₃, h₃, -⟩ := h₂.step hp₂ block
  have hrun : run Device.step (Device.new config) (flood config block) =
      (run Device.step (run Device.step (Device.new config) (window.map sends))
        ((List.replicate (queueCapacity config.transferSize.toNat) block).map sends)).step
          (sends block) := by
    rw [flood, List.replicate_succ', List.map_append, List.map_append, run_append, run_append]
    rfl
  rw [hrun, h₃.heldBytes]
  simp only [List.nil_append, List.length_append, image_replicate, hwindow, Nat.succ_mul]
  omega

theorem fits_sends {n : Nat} {block : Block} (h : block.data.length ≤ n) (w : Device) :
    w.Fits n (sends block) := by
  show ite _ _ _
  split
  · rw [List.length_take]
    omega
  · next hnot =>
      -- a block that is not empty announces its length
      refine absurd ⟨rfl, fun hzero => ?_⟩ hnot
      have hlen := congrArg UInt16.toNat hzero
      rw [UInt16.toNat_ofNat_of_lt' block.fits] at hlen
      exact block.nonempty (List.length_eq_zero_iff.1 hlen)

theorem along_flood (config : DfuConfig) {n : Nat} (hpos : 0 < n) (block : Block)
    (h : block.data.length ≤ n) (w : Device) :
    Along Device.step (Device.Fits n) w (flood config block) := by
  have hall : ∀ i ∈ flood config block, ∀ w : Device, w.Fits n i := by
    intro i hi w
    obtain ⟨b, hb, rfl⟩ := List.mem_map.1 hi
    rcases List.mem_append.1 hb with hb | hb
    · rw [List.eq_of_mem_replicate hb]
      exact fits_sends hpos w
    · rw [List.eq_of_mem_replicate hb]
      exact fits_sends h w
  exact (along_of_forall_mem hall).imp_of_invariant (I := fun _ => True) (fun _ _ _ => trivial)
    (fun w _ _ hi => hi w) trivial

/-! ## The bound -/

/-- The queue holds no more blocks than its capacity, and the buffers no more bytes than the target
for the queue, a block beyond it, a held block and the suffix window. -/
structure Buffered (config : DfuConfig) (w : Device) : Prop where
  blocks : w.queued.length ≤ queueCapacity config.transferSize.toNat
  bytes : w.heldBytes ≤
    max (targetQueueBytes + config.transferSize.toNat) (2 * config.transferSize.toNat) +
      config.transferSize.toNat + dfuSuffixLen

/-- A run in which the host sends no more than `n` bytes at once, with a queue that is small enough
for blocks of that size. -/
theorem buffered_of_fits {config : DfuConfig} {n : Nat}
    (hn : (queueCapacity config.transferSize.toNat + 1) * n ≤
      max (targetQueueBytes + config.transferSize.toNat) (2 * config.transferSize.toNat) +
        config.transferSize.toNat)
    {inputs : List Input} (h : Along Device.step (Device.Fits n) (Device.new config) inputs) :
    Buffered config (run Device.step (Device.new config) inputs) := by
  have hloaded : Loaded n config.transferSize.toNat (run Device.step (Device.new config) inputs) :=
    run_invariant (fun _ _ hl hf => hl.step hf) (.new n config) h
  have hsingle : (run Device.step (Device.new config) inputs).dfu.sink.Single :=
    run_invariant_of_step (I := fun w : Device => w.dfu.sink.Single)
      (sink_step single_sinkInvariant) inputs (Or.inl rfl)
  obtain ⟨hblocks, hbytes⟩ := hloaded.bounds hsingle
  exact ⟨hblocks, hbytes.trans (Nat.add_le_add_right hn _)⟩

/-- The capacity is rounded up, and it is at least two. -/
theorem queueCapacity_mul_le (size : Nat) :
    queueCapacity size * size ≤ max (targetQueueBytes + size) (2 * size) := by
  rcases Nat.eq_zero_or_pos size with hzero | hpos
  · rw [hzero]
    exact Nat.zero_le _
  · have hdiv := Nat.div_mul_le_self (targetQueueBytes + size - 1) size
    have hmax : max size 1 = size := Nat.max_eq_left hpos
    rw [queueCapacity, hmax]
    rcases Nat.le_total ((targetQueueBytes + size - 1) / size) 2 with hle | hle
    · rw [Nat.max_eq_right hle]
      exact Nat.le_max_right _ _
    · rw [Nat.max_eq_left hle]
      refine (hdiv.trans ?_).trans (Nat.le_max_left _ _)
      exact Nat.sub_le _ 1

/-- Blocks of at most the transfer size are within the bound. -/
theorem buffered_of_transferSize (config : DfuConfig) {inputs : List Input}
    (h : Along Device.step (Device.Fits config.transferSize.toNat) (Device.new config) inputs) :
    Buffered config (run Device.step (Device.new config) inputs) := by
  refine buffered_of_fits ?_ h
  rw [Nat.succ_mul]
  exact Nat.add_le_add_right (queueCapacity_mul_le _) _

end Device

/-- Whatever the tasks do, the buffers of a device stay within the bound for every host that sends
no more than `longest` bytes at once, exactly if the queue was sized for blocks of that length. -/
theorem buffering_bounded_iff (config : DfuConfig) (longest : UInt16) :
    (∀ inputs, Along Device.step (Device.Fits longest.toNat) (Device.new config) inputs →
        Device.Buffered config (run Device.step (Device.new config) inputs)) ↔
      (queueCapacity config.transferSize.toNat + 1) * longest.toNat ≤
        max (targetQueueBytes + config.transferSize.toNat) (2 * config.transferSize.toNat) +
          config.transferSize.toNat := by
  refine ⟨fun hall => ?_, fun hn inputs h => Device.buffered_of_fits hn h⟩
  rcases Nat.eq_zero_or_pos longest.toNat with hzero | hpos
  · rw [hzero]
    exact Nat.zero_le _
  · -- the host that fills every buffer with blocks of that length
    have hlen := Device.length_zeros hpos longest.toNat_lt
    have hfits := Device.along_flood config hpos (Device.zeros _ hpos longest.toNat_lt)
      (Nat.le_of_eq hlen) (Device.new config)
    have hbytes := (hall _ hfits).bytes
    rw [Device.heldBytes_flood, hlen] at hbytes
    exact Nat.le_of_add_le_add_right hbytes

/-- The configuration of the documentation. -/
def documentedConfig : DfuConfig := ⟨SwupdateParams.default, none, 4096, 10⟩

/-- The longest block that a request can announce. -/
def longestBlock : Block := Device.zeros 65535 (by decide) (by decide)

/-- With a transfer size of 4096 bytes, a host that sends blocks of 65535 bytes fills the 512 places
of the queue with sixteen times the bytes they were meant for. -/
theorem flood_exceeds_bound :
    ¬ Device.Buffered documentedConfig
      (run Device.step (Device.new documentedConfig)
        (Device.flood documentedConfig longestBlock)) := by
  intro h
  have hbytes := h.bytes
  have hlen : longestBlock.data.length = 65535 := Device.length_zeros _ _
  have hcap : queueCapacity documentedConfig.transferSize.toNat = 512 := by decide
  have hsize : documentedConfig.transferSize.toNat = 4096 := rfl
  rw [Device.heldBytes_flood, hlen, hcap, hsize] at hbytes
  exact absurd hbytes (by decide)

end SummitUsbgadget.DfuFunction
