import SummitUsbgadget.Swupdate.Transfer
import SummitUsbgadget.Swupdate.Pipeline

/-!
# A session that is driven in parts, and a backend that is in order

A handler does not run as one call of the pipeline: a request of it makes several calls, and the
queues are given what the session was fed when the part is over. `Follows` says that such a part is
a list of calls, each of which sees the pipeline that the calls before it have left.

`Transfer.Event.Healthy` is what a backend that is in order does, `Transfer.Hale` what follows for a
transfer: the drain stays at work until it has closed the writer, and a verdict is a success that
comes after that.
-/

set_option autoImplicit false

namespace SummitUsbgadget.Swupdate

open SummitUsbgadget.Lib

namespace Session

/-- What happened from `s` to `u`, by way of `t`. -/
theorem since_trans {s t u : Session} (hst : s.history <+: t.history)
    (htu : t.history <+: u.history) : s.since u = s.since t ++ t.since u := by
  obtain ⟨es, hes⟩ := hst
  obtain ⟨fs, hfs⟩ := htu
  unfold since
  rw [← hfs, List.drop_left, ← hes, List.drop_left, List.append_assoc, List.drop_left]

theorem Quiet.history_prefix {s t : Session} (h : Quiet s t) : s.history <+: t.history := by
  obtain ⟨es, hes, -⟩ := h.events
  exact ⟨es, hes.symm⟩

theorem history_apply (s : Session) (op : Op) : s.history <+: (s.apply op).history := by
  rcases apply_quiet_or_fed s op with hq | ⟨t, k, item, hq, -, -, heq⟩
  · exact hq.history_prefix
  · rw [heq]
    exact hq.history_prefix.trans (List.prefix_append ..)

end Session

namespace Pipeline

/-- The pipeline once its session has become `d`: the queues get what it was fed. -/
def served (w : Pipeline) (d : Session) : Pipeline :=
  ⟨d, (w.session.since d).foldl absorb w.transfers⟩

/-- The session becomes `d` by calls, each of which sees what those before it have left. -/
structure Follows (w : Pipeline) (d : Session) : Prop where
  history : w.session.history <+: d.history
  calls : ∃ ops : List Session.Op, run step w (ops.map .call) = w.served d

namespace Follows

variable {w : Pipeline} {d e : Session}

theorem refl (w : Pipeline) : Follows w w.session := by
  refine ⟨List.prefix_refl _, [], ?_⟩
  show w = ⟨w.session, (w.session.history.drop w.session.history.length).foldl absorb w.transfers⟩
  rw [List.drop_length]
  rfl

theorem trans (h : Follows w d) (h' : Follows (w.served d) e) : Follows w e := by
  obtain ⟨hd, ops, hops⟩ := h
  obtain ⟨he, ops', hops'⟩ := h'
  refine ⟨hd.trans he, ops ++ ops', ?_⟩
  rw [List.map_append, run_append, hops, hops']
  show Pipeline.mk e _ = Pipeline.mk e _
  rw [Session.since_trans hd he, List.foldl_append]
  rfl

/-- A call that does not wait. -/
theorem call (op : Session.Op) (h : w.waits op = false) :
    Follows w (w.session.apply (w.seen op)) := by
  refine ⟨Session.history_apply _ _, [op], ?_⟩
  show w.call op = _
  unfold Pipeline.call
  rw [if_neg (by simp [h])]
  rfl

theorem trySend (w : Pipeline) (v : View) (item : Bytes) :
    Follows w (w.session.trySend (w.view v) item).2 :=
  call (.trySend v item) rfl

theorem eof (w : Pipeline) : Follows w w.session.eof :=
  call .eof rfl

theorem pollStatus (w : Pipeline) (v : View) : Follows w (w.session.pollStatus (w.view v)).2 :=
  call (.tryFinished v) rfl

end Follows

end Pipeline

/-! ## A backend that is in order -/

/-- The queue of a transfer is all that a fed block changes. -/
theorem Pipeline.foldl_absorb_frame (es : List SessionEvent)
    (transfers : Nat → Transfer) (k : Nat) :
    ∃ queue, es.foldl absorb transfers k = { transfers k with queue := queue } := by
  induction es generalizing transfers with
  | nil => exact ⟨_, rfl⟩
  | cons e es ih =>
      obtain ⟨queue, hq⟩ := ih (absorb transfers e)
      rw [List.foldl_cons, hq]
      cases e with
      | fed j block =>
          by_cases hk : k = j
          · subst hk
            refine ⟨queue, ?_⟩
            simp [absorb, Transfer.push]
          · exact ⟨queue, by simp [absorb, hk]⟩
      | _ => exact ⟨queue, rfl⟩

namespace Session

theorem fedTo_of_history {s : Session} {chunks : List Bytes} {spec : BackendSpec}
    {rest : List SessionEvent} (h : s.history = .spawned 0 spec :: chunks.map (.fed 0) ++ rest)
    (hrest : ∀ e ∈ rest, e.isFed = false) : s.fedTo 0 = chunks.flatten := by
  have hquiet : Quiet ⟨s.params, s.maxBlockSize, s.updateType, none, s.recycleRx,
      s.status, s.terminal, s.spawns, .spawned 0 spec :: chunks.map (.fed 0)⟩
        { s with tx := none } :=
    ⟨⟨rest, h, hrest⟩, Nat.le_refl _, nofun⟩
  have hfed := hquiet.fedTo_eq 0
  refine (show s.fedTo 0 = { s with tx := none }.fedTo 0 from rfl).trans (hfed.trans ?_)
  simp [fedTo, SessionEvent.fedBlockTo, Function.comp_def]

/-- A new session, one that streams, or one whose EOF was signalled. -/
inductive Phase (chunks : List Bytes) (s : Session) : Prop where
  | feeding (h : s.Feeding chunks)
  | ended (h : s.Ended chunks)

theorem Phase.fedTo_eq {chunks : List Bytes} {s : Session} (h : Phase chunks s) :
    s.fedTo 0 = chunks.flatten := by
  cases h with
  | feeding h =>
      rcases h with ⟨params, n, rfl, rfl⟩ | h
      · rfl
      · obtain ⟨spec, hh⟩ := h.history
        have hall : s.history = .spawned 0 spec :: chunks.map (.fed 0) ++ [] := by
          rw [hh, List.append_nil]
        exact fedTo_of_history hall nofun
  | ended h =>
      obtain ⟨spec, hh⟩ := h.history
      exact fedTo_of_history hh (by simp [SessionEvent.isFed])

/-- A session that has a transfer has a hold on its status task. -/
theorem Phase.status {chunks : List Bytes} {s : Session} (h : Phase chunks s) :
    s.spawns = 0 ∨ s.status = some 0 := by
  cases h with
  | feeding h =>
      rcases h with ⟨params, n, rfl, -⟩ | h
      · exact Or.inl rfl
      · exact Or.inr h.status
  | ended h => exact Or.inr h.status

end Session

/-- The drain is at work, or it has closed the writer. -/
def Drain.Working (d : Drain) : Prop := d.receiverOpen = true ∨ d = .finished

/-- The backend does not refuse the connection, takes some of what is written, and its verdict is a
success that follows the end of its input. -/
def Transfer.Event.Healthy (t : Transfer) : Transfer.Event → Prop
  | .connectFailed _ => False
  | .statusReady joined => joined = .done (.ok ()) ∧ t.drain = .finished
  | e => e.failsWriter = false

/-- A transfer of a backend that is in order. -/
structure Transfer.Hale (t : Transfer) : Prop where
  drain : t.drain.Working
  status : t.status = none ∨ (t.status = some (.done (.ok ())) ∧ t.drain = .finished)

namespace Transfer.Hale

variable {t : Transfer}

theorem spawn (capacity : Nat) : Hale (.spawn capacity) := ⟨Or.inl rfl, Or.inl rfl⟩

theorem of_queue (h : Hale t) (queue : Lib.Fifo Bytes) : Hale { t with queue := queue } :=
  ⟨h.drain, h.status⟩

/-- The verdict of a drain that is at work has not come. -/
theorem running (h : Hale t) (hd : t.drain ≠ .finished) : t.status = none := by
  rcases h.status with hs | ⟨-, hf⟩
  · exact hs
  · exact absurd hf hd

/-- A drain that moves on. -/
theorem of_drain (h : Hale t) {t' : Transfer} (hd : t.drain ≠ .finished) (hs : t'.status = t.status)
    (hw : t'.drain.Working) : Hale t' :=
  ⟨hw, Or.inl (hs.trans (h.running hd))⟩

/-- The drain is not finished and a step takes it on. -/
theorem step (h : Hale t) {hs : Handles} (hstatus : hs.status = true) {e : Transfer.Event}
    (he : e.Healthy t) : Hale (t.step hs e) := by
  unfold Transfer.step
  split
  · next hd => exact h.of_drain (by simp [hd]) rfl (Or.inl rfl)
  · exact absurd he id
  · -- the task is aborted only if its handle was
    rw [hstatus, if_pos rfl]
    exact h
  · exact h
  · exact h
  · next joined _ _ =>
      obtain ⟨hj, hf⟩ := he
      refine ⟨h.drain, Or.inr ⟨?_, hf⟩⟩
      rcases h.status with hn | ⟨hok, -⟩
      · show some (t.status.getD joined) = _
        rw [hn, hj]
        rfl
      · show some (t.status.getD joined) = _
        rw [hok]
        rfl
  · next hd =>
      unfold Transfer.recv
      split
      · exact h.of_drain (by simp [hd]) rfl (Or.inl rfl)
      · split
        · exact h
        · exact h.of_drain (by simp [hd]) rfl (Or.inl rfl)
  · next n buf rest hd =>
      have hn : n ≠ 0 := by
        have hok : decide (n = 0) = false := he
        exact of_decide_eq_false hok
      have hrun : t.drain ≠ .finished := by simp [hd]
      unfold Transfer.write
      split
      · exact h.of_drain hrun rfl (Or.inl rfl)
      · simp only
        split
        · exact h.of_drain hrun rfl (Or.inl rfl)
        · exact h.of_drain hrun rfl (Or.inl rfl)
  · cases he
  · next hd => exact h.of_drain (by simp [hd]) rfl (Or.inr rfl)
  · exact h

end Transfer.Hale

end SummitUsbgadget.Swupdate
