import Mathlib.Logic.Function.Basic
import SummitUsbgadget.Swupdate.Feed
import SummitUsbgadget.Swupdate.Stream

/-!
# From the session to the backend

The session, the status tasks and the drains run on their own, and an aborted transfer may still be
draining while the next one is fed. `Pipeline` is a session with all its transfers; its inputs are
the calls of the producer and what the tasks and the backends do, in any order.
`blocks_reach_backend` is about every run of it: what a writer has taken is a prefix of the blocks
answered `Feed::Ok`, and all of them once the drain has returned without a write error.
-/

set_option autoImplicit false

namespace SummitUsbgadget.Swupdate

open SummitUsbgadget.Lib

/-! ## What a call does to the queues -/

/-- The event puts a block into a queue. -/
def SessionEvent.isFed : SessionEvent → Bool
  | .fed _ _ => true
  | _ => false

/-- The block that the event puts into the queue of transfer `k`. -/
def SessionEvent.fedBlockTo (k : Nat) : SessionEvent → Bytes
  | .fed transfer block => if transfer = k then block else []
  | _ => []

namespace Session

/-- The bytes of the blocks answered `Feed::Ok` by transfer `k`, in order. -/
def fedTo (k : Nat) (s : Session) : Bytes := (s.history.map (SessionEvent.fedBlockTo k)).flatten

/-- From `s` to `t` no block was fed, and a sender that is there belongs to the transfer that was
fed before, or to one that is new. -/
structure Quiet (s t : Session) : Prop where
  events : ∃ es, t.history = s.history ++ es ∧ ∀ e ∈ es, e.isFed = false
  spawns : s.spawns ≤ t.spawns
  tx : ∀ k, t.tx = some k → k = s.tx.getD s.spawns

theorem Quiet.refl (s : Session) : Quiet s s :=
  ⟨⟨[], by simp⟩, Nat.le_refl _, fun k hk => by simp [hk]⟩

theorem Quiet.record {s t : Session} (h : Quiet s t) {e : SessionEvent} (he : e.isFed = false) :
    Quiet s (t.record e) := by
  obtain ⟨⟨es, hes, hfed⟩, hsp, htx⟩ := h
  refine ⟨⟨es ++ [e], by simp [Session.record, hes], fun e' he' => ?_⟩, hsp, htx⟩
  rcases List.mem_append.1 he' with hmem | hmem
  · exact hfed e' hmem
  · rw [List.mem_singleton.1 hmem]
    exact he

theorem Quiet.dropTx {s t : Session} (h : Quiet s t) : Quiet s { t with tx := none } :=
  ⟨h.events, h.spawns, fun k hk => by cases hk⟩

theorem quiet_spawn (v : View) {s : Session} (htx : s.tx = none) : Quiet s (s.spawn v) where
  events := ⟨_, rfl, by simp [SessionEvent.isFed]⟩
  spawns := Nat.le_succ _
  tx k hk := by
    simp only [spawn, Option.some.injEq] at hk
    simp [htx, hk]

theorem quiet_openSession (v : View) (s : Session) : Quiet s (s.openSession v).2 := by
  rcases openSession_cases v s with ⟨-, heq⟩ | ⟨ho, -, heq⟩ | ⟨ho, -, heq⟩
  · rw [heq]
    exact .refl s
  · rw [heq]
    exact ⟨⟨[], by simp⟩, Nat.le_refl _, fun k hk => by simp [show s.tx = some k from hk]⟩
  · rw [heq]
    obtain ⟨h1, h2, h3⟩ := quiet_spawn v (s := { s with terminal := none })
      ((isOpen_eq_false_iff s).1 ho).1
    exact ⟨h1, h2, h3⟩

theorem quiet_engaged (v : View) (s : Session) : Quiet s (s.engaged v) := by
  rcases engaged_cases v s with heq | ⟨hvac, heq⟩
  · rw [heq]
    exact .refl s
  · rw [heq]
    exact quiet_spawn v hvac.1

theorem quiet_pollStatus (v : View) (s : Session) : Quiet s (s.pollStatus v).2 := by
  refine pollStatus_keeps (.refl s) (fun joined => ?_) v
  obtain ⟨htx, -, hsp, -⟩ := settle_facts joined { s with status := none }
  refine ⟨?_, Nat.le_of_eq hsp.symm, fun k hk => ?_⟩
  · unfold settle markComplete
    cases joined with
    | panicked text => exact ⟨[], by simp⟩
    | done result =>
        cases result with
        | error err => exact ⟨[], by simp⟩
        | ok u =>
            cases s.updateType with
            | none => exact ⟨[], by simp⟩
            | some updateType =>
                exact ⟨[.restartTask updateType], by simp [record, SessionEvent.isFed]⟩
  · rw [htx] at hk
    simp [show s.tx = some k from hk]

theorem quiet_eof (s : Session) : Quiet s s.eof :=
  eof_keeps (.refl s) fun _ _ => (Quiet.refl s).dropTx.record rfl

theorem quiet_abort (s : Session) : Quiet s s.abort :=
  ⟨⟨[.aborted], rfl, by simp [SessionEvent.isFed]⟩, Nat.le_refl _, fun k hk => by cases hk⟩

/-- A block that is offered goes into the queue of the sender, or none is fed. -/
theorem quiet_or_fed_offer {s t : Session} (h : Quiet s t) (q : QueueView) (item : Bytes) :
    Quiet s (t.offer q item).2 ∨
      ∃ k, t.tx = some k ∧ q = .room ∧ (t.offer q item).2 = t.record (.fed k item) := by
  rcases offer_cases q item t with ⟨-, heq⟩ | ⟨k, hk, hq, heq⟩ | ⟨k, -, -, heq⟩ | ⟨k, -, -, heq⟩
  · rw [heq]
    exact Or.inl (h.record rfl)
  · rw [heq]
    exact Or.inr ⟨k, hk, hq, rfl⟩
  · rw [heq]
    exact Or.inl h
  · rw [heq]
    exact Or.inl (h.dropTx.record rfl)

theorem quiet_or_fed_trySend (v : View) (item : Bytes) (s : Session) :
    Quiet s (s.trySend v item).2 ∨
      ∃ t k, Quiet s t ∧ t.tx = some k ∧ v.queue = .room ∧
        (s.trySend v item).2 = t.record (.fed k item) := by
  rcases trySend_eq_offer v item s with ⟨-, -, heq⟩ | heq
  · rw [heq]
    exact Or.inl (.refl s)
  · rw [heq]
    have heng := quiet_engaged v s
    rcases quiet_or_fed_offer heng v.queue item with hq | ⟨k, hk, hroom, heq'⟩
    · exact Or.inl hq
    · exact Or.inr ⟨s.engaged v, k, heng, hk, hroom, heq'⟩

/-- A block that finds the queue full comes back as it was, and none is fed. -/
theorem trySend_full {v : View} {item block : Bytes} {s : Session}
    (h : (s.trySend v item).1 = .ok (.full block)) :
    block = item ∧ Quiet s (s.trySend v item).2 := by
  rcases trySend_eq_offer v item s with ⟨-, -, heq⟩ | heq
  · rw [heq] at h
    cases h
  · rw [heq] at h ⊢
    rcases offer_cases v.queue item (s.engaged v) with
      ⟨-, ho⟩ | ⟨k, -, -, ho⟩ | ⟨k, -, -, ho⟩ | ⟨k, -, -, ho⟩
    · rw [ho] at h
      cases h
    · rw [ho] at h
      cases h
    · rw [ho] at h ⊢
      cases h
      exact ⟨rfl, quiet_engaged v s⟩
    · rw [ho] at h
      cases h

/-- The call sends a block and meets a queue with room for it. -/
def Op.meetsRoom : Op → Bool
  | .trySend v _ => v.queue = .room
  | .send _ accepted _ => accepted
  | _ => false

/-- A call feeds no block, or it feeds one to the queue that it saw with room for it. -/
theorem apply_quiet_or_fed (s : Session) (op : Op) :
    Quiet s (s.apply op) ∨
      ∃ t k item, Quiet s t ∧ t.tx = some k ∧ op.meetsRoom = true ∧
        s.apply op = t.record (.fed k item) := by
  cases op with
  | «open» v => exact Or.inl (quiet_openSession v s)
  | trySend v item =>
      rcases quiet_or_fed_trySend v item s with hq | ⟨t, k, ht, hk, hroom, heq⟩
      · exact Or.inl hq
      · exact Or.inr ⟨t, k, item, ht, hk, by simp [Op.meetsRoom, hroom], heq⟩
  | send v accepted item =>
      simp only [apply, send_eq_trySend]
      rcases quiet_or_fed_trySend { v with queue :=
        if accepted then .room else .closed } item s with
        hq | ⟨t, k, ht, hk, hroom, heq⟩
      · exact Or.inl hq
      · exact Or.inr ⟨t, k, item, ht, hk, by cases accepted <;> simp_all [Op.meetsRoom], heq⟩
  | eof => exact Or.inl (quiet_eof s)
  | finished v => exact Or.inl (quiet_pollStatus v s)
  | tryFinished v => exact Or.inl (quiet_pollStatus v s)
  | abort => exact Or.inl (quiet_abort s)

theorem Quiet.since_eq {s t : Session} (h : Quiet s t) : ∀ e ∈ s.since t, e.isFed = false := by
  obtain ⟨⟨es, hes, hfed⟩, -, -⟩ := h
  simpa [since, hes] using hfed

theorem Quiet.since_record {s t : Session} (h : Quiet s t) (e : SessionEvent) :
    s.since (t.record e) = s.since t ++ [e] := by
  obtain ⟨⟨es, hes, -⟩, -, -⟩ := h
  simp [since, Session.record, hes, List.append_assoc]

theorem Quiet.fedTo_eq {s t : Session} (h : Quiet s t) (k : Nat) : t.fedTo k = s.fedTo k := by
  obtain ⟨⟨es, hes, hfed⟩, -, -⟩ := h
  have hnil : (es.map (SessionEvent.fedBlockTo k)).flatten = [] := by
    rw [List.flatten_eq_nil_iff]
    intro block hblock
    obtain ⟨e, he, rfl⟩ := List.mem_map.1 hblock
    have hno := hfed e he
    cases e with
    | fed j block => cases hno
    | _ => rfl
  rw [fedTo, hes, List.map_append, List.flatten_append, hnil, List.append_nil]
  rfl

theorem fedTo_record (k : Nat) (s : Session) (e : SessionEvent) :
    (s.record e).fedTo k = s.fedTo k ++ e.fedBlockTo k := by
  simp [fedTo, record]

end Session

/-! ## A session with all its transfers -/

/-- A session and its transfers, by their number; those from `session.spawns` on do not exist
yet. -/
structure Pipeline where
  session : Session
  transfers : Nat → Transfer

namespace Pipeline

/-- What happens next: a call of the producer, or a step of the tasks of transfer `k`. -/
inductive Input where
  | call (op : Session.Op)
  | buffer
  | backend (k : Nat) (e : Transfer.Event)

def new (capacity : Nat) (params : SwupdateParams) (maxBlockSize : Nat) : Pipeline where
  session := Session.new params maxBlockSize
  transfers _ := .spawn capacity

/-- The transfer that a block is sent to: the one of the sender, or the next one. -/
def target (w : Pipeline) : Nat := w.session.tx.getD w.session.spawns

/-- What a call sees: the queue it sends to and the status task it waits for. -/
def view (w : Pipeline) (v : View) : View :=
  { v with
    queue := (w.transfers w.target).queueView
    task := w.session.status.bind fun k => (w.transfers k).status }

/-- The call with what it sees; a `send` is resolved by a queue with room or without receiver. -/
def seen (w : Pipeline) (op : Session.Op) : Session.Op :=
  match op.mapView w.view with
  | .send v _ item => .send v (v.queue = .room) item
  | op => op

/-- The call waits for a slot in the queue. -/
def waits (w : Pipeline) : Session.Op → Bool
  | .send _ _ _ => (w.transfers w.target).queueView = .full
  | _ => false

/-- What an event of the session does to the queues. -/
def absorb (transfers : Nat → Transfer) : SessionEvent → Nat → Transfer
  | .fed k block => Function.update transfers k ((transfers k).push block)
  | _ => transfers

def call (w : Pipeline) (op : Session.Op) : Pipeline :=
  if w.waits op then w
  else
    let d := w.session.apply (w.seen op)
    ⟨d, (w.session.since d).foldl absorb w.transfers⟩

/-- `SwupdateSession::buffer`: a buffer that came back, cleared, or a new one. -/
def buffer (w : Pipeline) : Bytes × Pipeline :=
  match w.session.recycleRx with
  | none => ([], w)
  | some k =>
      match (w.transfers k).recycle.pop with
      | none => ([], w)
      | some (_, recycle) =>
          ([], { w with
            transfers := Function.update w.transfers k { w.transfers k with recycle := recycle } })

/-- The ends of transfer `k` that the session holds. -/
def handles (w : Pipeline) (k : Nat) : Handles :=
  ⟨w.session.tx = some k, w.session.recycleRx = some k, w.session.status = some k⟩

def backend (w : Pipeline) (k : Nat) (e : Transfer.Event) : Pipeline :=
  if k < w.session.spawns then
    { w with transfers := Function.update w.transfers k ((w.transfers k).step (w.handles k) e) }
  else w

def step (w : Pipeline) : Input → Pipeline
  | .call op => w.call op
  | .buffer => w.buffer.2
  | .backend k e => w.backend k e

/-- The queues hold what the session fed, in order, and what the drains took from them was
written. -/
structure Tracks (w : Pipeline) : Prop where
  sound : ∀ k, (w.transfers k).Sound
  fed : ∀ k, w.session.fedTo k = (w.transfers k).queue.pushed.flatten
  ended : ∀ k, (w.transfers k).drain.pastEnd = true → w.session.tx ≠ some k
  unspawned : ∀ k, w.session.spawns ≤ k → (w.transfers k).drain = .connecting

theorem tracks_new (capacity : Nat) (params : SwupdateParams) (n : Nat) :
    Tracks (new capacity params n) where
  sound _ := Transfer.sound_spawn capacity
  fed _ := rfl
  ended _ h := by cases h
  unspawned _ _ := rfl

theorem Tracks.pastEnd_target {w : Pipeline} (h : Tracks w) :
    (w.transfers w.target).drain.pastEnd = false := by
  cases htx : w.session.tx with
  | some k =>
      have htarget : w.target = k := by simp [target, htx]
      rw [htarget]
      by_contra hend
      exact h.ended k (by simpa using hend) htx
  | none =>
      have htarget : w.target = w.session.spawns := by simp [target, htx]
      rw [htarget, h.unspawned _ (Nat.le_refl _)]
      rfl

/-- The session moves on without feeding anything. -/
theorem Tracks.quiet {w : Pipeline} (h : Tracks w) {d : Session} (hq : w.session.Quiet d) :
    Tracks ⟨d, w.transfers⟩ where
  sound := h.sound
  fed k := (hq.fedTo_eq k).trans (h.fed k)
  ended k hend htx := by
    have hk : k = w.target := hq.tx k htx
    rw [hk, h.pastEnd_target] at hend
    cases hend
  unspawned k hk := h.unspawned k (Nat.le_trans hq.spawns hk)

theorem foldl_absorb {es : List SessionEvent} (h : ∀ e ∈ es, e.isFed = false)
    (transfers : Nat → Transfer) : es.foldl absorb transfers = transfers := by
  induction es with
  | nil => rfl
  | cons e es ih =>
      have he : absorb transfers e = transfers := by
        have hno := h e (by simp)
        cases e with
        | fed k block => cases hno
        | _ => rfl
      rw [List.foldl_cons, he]
      exact ih fun e' he' => h e' (by simp [he'])

theorem queueView_eq_room {t : Transfer} (h : t.queueView = .room) : t.queue.hasRoom = true := by
  unfold Transfer.queueView at h
  by_contra hno
  simp only [hno] at h
  split at h <;> cases h

/-- A call that meets room has seen it in the queue that it sends to. -/
theorem hasRoom_of_seen {w : Pipeline} {op : Session.Op} (h : (w.seen op).meetsRoom = true) :
    (w.transfers w.target).queue.hasRoom = true := by
  cases op with
  | trySend v item =>
      apply queueView_eq_room
      simpa [seen, Session.Op.mapView, Session.Op.meetsRoom, view] using h
  | send v accepted item =>
      apply queueView_eq_room
      simpa [seen, Session.Op.mapView, Session.Op.meetsRoom, view] using h
  | _ => cases h

/-- One transfer moves on, and the session does with its record at most. -/
theorem Tracks.update {w : Pipeline} (h : Tracks w) {d : Session} {j : Nat} {t : Transfer}
    (hsound : t.Sound) (hfed : d.fedTo j = t.queue.pushed.flatten)
    (hother : ∀ k, k ≠ j → d.fedTo k = w.session.fedTo k) (htx : d.tx = w.session.tx)
    (hspawns : d.spawns = w.session.spawns)
    (hend : t.drain.pastEnd = true → w.session.tx ≠ some j)
    (hnew : w.session.spawns ≤ j → t.drain = .connecting) :
    Tracks ⟨d, Function.update w.transfers j t⟩ := by
  refine ⟨fun k => ?_, fun k => ?_, fun k => ?_, fun k => ?_⟩
  · by_cases hk : k = j
    · subst hk
      simpa using hsound
    · simpa [hk] using h.sound k
  · by_cases hk : k = j
    · subst hk
      simpa using hfed
    · simpa [hk, hother k hk] using h.fed k
  · by_cases hk : k = j
    · subst hk
      simpa [htx] using hend
    · simpa [hk, htx] using h.ended k
  · by_cases hk : k = j
    · subst hk
      simpa [hspawns] using hnew
    · simpa [hk, hspawns] using h.unspawned k

theorem tracks_call {w : Pipeline} (op : Session.Op) (h : Tracks w) : Tracks (w.call op) := by
  unfold call
  split
  · exact h
  rcases Session.apply_quiet_or_fed w.session (w.seen op) with
    hq | ⟨d, k, item, hq, hk, hroom, heq⟩
  · simp only [foldl_absorb hq.since_eq]
    exact h.quiet hq
  · -- the block goes into the queue of the transfer that the session sends to
    have hd := h.quiet hq
    have hroom' := hasRoom_of_seen hroom
    have hend := h.pastEnd_target
    rw [← show k = w.target from hq.tx k hk] at hroom' hend
    simp only [heq, hq.since_record, List.foldl_append, foldl_absorb hq.since_eq, List.foldl_cons,
      List.foldl_nil, absorb]
    refine hd.update (Transfer.sound_push item (h.sound k) hend) ?_ (fun j hj => ?_) rfl rfl
      (fun hpast => absurd (hend.symm.trans hpast) (by simp)) (hd.unspawned k)
    · rw [Session.fedTo_record, hd.fed k]
      simp [SessionEvent.fedBlockTo, Transfer.push, Fifo.pushed_push hroom']
    · rw [Session.fedTo_record]
      simp [SessionEvent.fedBlockTo, Ne.symm hj]

theorem tracks_buffer {w : Pipeline} (h : Tracks w) : Tracks w.buffer.2 := by
  unfold buffer
  split
  · exact h
  · next k _ =>
      split
      · exact h
      · obtain ⟨h1, h2, h3⟩ := h.sound k
        exact h.update ⟨h1, h2, h3⟩ (h.fed k) (fun _ _ => rfl) rfl rfl (h.ended k) (h.unspawned k)

theorem tracks_backend {w : Pipeline} (k : Nat) (e : Transfer.Event) (h : Tracks w) :
    Tracks (w.backend k e) := by
  unfold backend
  split
  · next hk =>
      refine h.update ((Transfer.step_moves _ _ e).sound (h.sound k)) ?_ (fun _ _ => rfl) rfl rfl
        (fun hend => ?_) (fun hle => absurd hk (Nat.not_lt.2 hle))
      · rw [(Transfer.step_moves _ _ e).pushed]
        exact h.fed k
      · rcases (Transfer.step_moves _ _ e).pastEnd hend with hpast | htx
        · exact h.ended k hpast
        · simpa [handles] using htx
  · exact h

theorem tracks_step (w : Pipeline) (i : Input) (h : Tracks w) : Tracks (w.step i) := by
  cases i with
  | call op => exact tracks_call op h
  | buffer => exact tracks_buffer h
  | backend k e => exact tracks_backend k e h

theorem tracks_run (capacity : Nat) (params : SwupdateParams) (n : Nat) (is : List Input) :
    Tracks (run step (new capacity params n) is) :=
  run_invariant_of_step tracks_step is (tracks_new capacity params n)

/-! ## Write errors -/

/-- The writer of transfer `k` fails. -/
def Input.failsWriter (k : Nat) : Input → Bool
  | .backend j e => j = k && e.failsWriter
  | _ => false

theorem drain_foldl_absorb (es : List SessionEvent) (transfers : Nat → Transfer) (k : Nat) :
    (es.foldl absorb transfers k).drain = (transfers k).drain := by
  induction es generalizing transfers with
  | nil => rfl
  | cons e es ih =>
      rw [List.foldl_cons, ih]
      cases e with
      | fed j block =>
          by_cases hk : k = j
          · subst hk
            simp [absorb, Transfer.push]
          · simp [absorb, hk]
      | _ => rfl

/-- Without a write error, no step stops the drain short. -/
theorem stoppedShort_step (w : Pipeline) (i : Input) (k : Nat)
    (h : (w.transfers k).drain.stoppedShort = false) (hi : i.failsWriter k = false) :
    ((w.step i).transfers k).drain.stoppedShort = false := by
  cases i with
  | call op =>
      simp only [step, call]
      split
      · exact h
      · rw [drain_foldl_absorb]
        exact h
  | buffer =>
      simp only [step, buffer]
      split
      · exact h
      · next j _ =>
          split
          · exact h
          · by_cases hk : k = j
            · subst hk
              simpa using h
            · simpa [hk] using h
  | backend j e =>
      simp only [step, backend]
      split
      · by_cases hk : k = j
        · subst hk
          simpa using (Transfer.step_moves _ _ e).stoppedShort
            (by simpa [Input.failsWriter] using hi) h
        · simpa [hk] using h
      · exact h

/-- In every run, and for each of the transfers: what the writer has taken is a prefix of the blocks
answered `Feed::Ok`; a block answered `Feed::Full` is the block that was sent, and no queue changes;
and once the drain has returned without a write error, the writer has taken all the blocks and was
shut down once, after the last byte. -/
theorem blocks_reach_backend (capacity : Nat) (params : SwupdateParams) (n : Nat)
    (is : List Input) (k : Nat) :
    let w := run step (new capacity params n) is
    (w.transfers k).written <+: w.session.fedTo k ∧
      (∀ v item block, (w.session.trySend (w.view v) item).1 = .ok (.full block) →
        block = item ∧ (w.call (.trySend v item)).transfers = w.transfers ∧
          (w.call (.trySend v item)).session.fedTo k = w.session.fedTo k) ∧
      ((∀ i ∈ is, i.failsWriter k = false) → (w.transfers k).drain.returned = true →
        (w.transfers k).written = w.session.fedTo k ∧
          (w.transfers k).shutdowns = [(w.transfers k).written.length]) := by
  intro w
  have htracks : Tracks w := tracks_run capacity params n is
  rw [htracks.fed k]
  refine ⟨(htracks.sound k).written_initial, fun v item block hfull => ?_, fun hok hret => ?_⟩
  · obtain ⟨hblock, hquiet⟩ := Session.trySend_full hfull
    have hcall : w.call (.trySend v item) =
        ⟨(w.session.trySend (w.view v) item).2, w.transfers⟩ := by
      simp only [call, waits, seen, Session.Op.mapView, Session.apply, foldl_absorb hquiet.since_eq]
      rfl
    rw [hcall, hquiet.fedTo_eq k, htracks.fed k]
    exact ⟨hblock, rfl, rfl⟩
  · have hrun : (w.transfers k).drain.stoppedShort = false :=
      run_invariant (I := fun w => (w.transfers k).drain.stoppedShort = false)
        (fun w i h hi => stoppedShort_step w i k h hi) rfl (along_of_forall_mem hok)
    exact (htracks.sound k).finished (Drain.finished_of_returned hret hrun)

/-- A producer of two blocks, a queue with room for one, and a writer that takes a byte at a time.
The second block is answered `Feed::Full` and sent again. -/
def twoBlocks : List Input :=
  let v : View := ⟨false, ⟨"MMC", "a"⟩, .room, none⟩
  [.call (.trySend v [1, 2]), .call (.trySend v [3]), .backend 0 .connected, .backend 0 .recv,
    .call (.trySend v [3]), .call .eof, .backend 0 (.write 1), .backend 0 (.write 1),
    .backend 0 .recv, .backend 0 (.write 1), .backend 0 .recv, .backend 0 .shutdown]

/-- The three bytes arrive, and the writer is shut down behind them. -/
theorem blocks_reach_backend_twoBlocks :
    ((run step (new 1 .default 16384) twoBlocks).transfers 0).written = [1, 2, 3] ∧
      ((run step (new 1 .default 16384) twoBlocks).transfers 0).shutdowns = [3] := by
  have hok : ∀ i ∈ twoBlocks, i.failsWriter 0 = false := by
    intro i hi
    simp only [twoBlocks, List.mem_cons, List.not_mem_nil, or_false] at hi
    rcases hi with rfl | rfl | rfl | rfl | rfl | rfl | rfl | rfl | rfl | rfl | rfl | rfl <;> rfl
  obtain ⟨hwritten, hshutdowns⟩ := (blocks_reach_backend 1 .default 16384 twoBlocks 0).2.2 hok rfl
  refine ⟨hwritten, ?_⟩
  rw [hshutdowns, hwritten]
  rfl

end Pipeline

end SummitUsbgadget.Swupdate
