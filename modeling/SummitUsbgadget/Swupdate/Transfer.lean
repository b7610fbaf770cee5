import SummitUsbgadget.Swupdate.Feed

/-!
# One transfer, from the first block to the verdict

A session whose queue keeps its receiver goes through three phases: new, streaming the blocks it
was given, and ended with EOF signalled after the last of them. The lemmas say what each operation
does to a session in a given phase.
-/

set_option autoImplicit false

namespace SummitUsbgadget.Swupdate

/-- A sink that takes blocks: no restart is pending, and the receiver is still there. -/
structure View.Accepting (v : View) : Prop where
  restart : v.restartPending = false
  queue : v.queue ≠ .closed

namespace Session

/-- The first transfer of the session is open and has taken `chunks`. -/
structure Streaming (s : Session) (chunks : List Bytes) : Prop where
  tx : s.tx = some 0
  status : s.status = some 0
  terminal : s.terminal = none
  updateType : ∃ u, s.updateType = some u
  history : ∃ spec, s.history = .spawned 0 spec :: chunks.map (.fed 0)

/-- EOF was signalled after `chunks`, and the verdict is still to come. -/
structure Ended (s : Session) (chunks : List Bytes) : Prop where
  tx : s.tx = none
  status : s.status = some 0
  terminal : s.terminal = none
  updateType : ∃ u, s.updateType = some u
  history : ∃ spec, s.history = .spawned 0 spec :: chunks.map (.fed 0) ++ [.eof 0]

/-- EOF was signalled for some transfer of the session. -/
def ended (s : Session) : Bool :=
  s.history.any fun e => match e with
    | .eof _ => true
    | _ => false

/-- A new session, or one that streams. -/
def Feeding (s : Session) (chunks : List Bytes) : Prop :=
  (∃ params n, s = new params n ∧ chunks = []) ∨ Streaming s chunks

theorem Streaming.not_ended {s : Session} {chunks : List Bytes} (h : Streaming s chunks) :
    s.ended = false := by
  obtain ⟨spec, hh⟩ := h.history
  simp [ended, hh]

theorem Ended.ended {s : Session} {chunks : List Bytes} (h : Ended s chunks) :
    s.ended = true := by
  obtain ⟨spec, hh⟩ := h.history
  simp [Session.ended, hh]

theorem Feeding.not_ended {s : Session} {chunks : List Bytes} (h : Feeding s chunks) :
    s.ended = false := by
  rcases h with ⟨params, n, rfl, -⟩ | h
  · rfl
  · exact h.not_ended

/-- The first send on a new session opens the first transfer. -/
theorem streaming_spawn (v : View) (params : SwupdateParams) (n : Nat) :
    Streaming ((new params n).spawn v) [] where
  tx := rfl
  status := rfl
  terminal := rfl
  updateType := ⟨_, rfl⟩
  history := ⟨_, rfl⟩

theorem engaged_of_feeding {v : View} {s : Session} {chunks : List Bytes}
    (hv : v.Accepting) (h : Feeding s chunks) :
    s.ensureOpen v = (.ok (), s.engaged v) ∧ Streaming (s.engaged v) chunks := by
  unfold engaged
  rcases ensureOpen_cases v s with ⟨hn, he⟩ | ⟨-, hr, -⟩ | ⟨hvac, -, he⟩
  · -- only a streaming session is not vacant, and it is sent to as it is
    rcases h with ⟨params, n, rfl, -⟩ | h
    · exact absurd (vacant_new params n) hn
    · rw [he]
      exact ⟨rfl, h⟩
  · rw [hv.restart] at hr
    cases hr
  · -- the first block opens the transfer
    rcases h with ⟨params, n, rfl, rfl⟩ | h
    · rw [he]
      exact ⟨rfl, streaming_spawn v params n⟩
    · exact absurd (hvac.1.symm.trans h.tx) (by simp)

/-- A block sent to an accepting sink is taken or refused as `Full`. -/
theorem trySend_of_feeding {v : View} {s : Session} {chunks : List Bytes} (item : Bytes)
    (hv : v.Accepting) (h : Feeding s chunks) :
    (v.queue = .room ∧ ∃ s', s.trySend v item = (.ok (.ok item.length), s') ∧
        Streaming s' (chunks ++ [item])) ∨
      (v.queue = .full ∧ ∃ s', s.trySend v item = (.ok (.full item), s') ∧
        Streaming s' chunks) := by
  obtain ⟨he, hs⟩ := engaged_of_feeding hv h
  unfold trySend
  rw [he]
  simp only
  generalize s.engaged v = e at hs
  rcases offer_cases v.queue item e with
    ⟨htx, -⟩ | ⟨k, htx, hq, ho⟩ | ⟨k, -, hq, ho⟩ | ⟨k, -, hq, -⟩
  · rw [hs.tx] at htx
    cases htx
  · rw [hs.tx] at htx
    cases htx
    refine Or.inl ⟨hq, e.record (.fed 0 item), by rw [ho], ?_⟩
    obtain ⟨spec, hh⟩ := hs.history
    refine ⟨hs.tx, hs.status, hs.terminal, hs.updateType, spec, ?_⟩
    simp [record, hh]
  · exact Or.inr ⟨hq, e, by rw [ho], hs⟩
  · exact absurd hq hv.queue

theorem ended_eof {s : Session} {chunks : List Bytes} (h : Streaming s chunks) :
    Ended s.eof chunks := by
  obtain ⟨spec, hh⟩ := h.history
  rw [eof_of_some h.tx]
  refine ⟨rfl, h.status, h.terminal, h.updateType, spec, ?_⟩
  simp [record, hh]

/-- While the status task runs, a look at the verdict changes nothing. -/
theorem pollStatus_of_running {v : View} {s : Session} {k : Nat} (hv : v.task = none)
    (hst : s.status = some k) (hterm : s.terminal = none) : s.pollStatus v = (none, s) := by
  unfold pollStatus
  rw [hterm, hst, hv]

/-- The success verdict of an ended transfer is cached and starts the restart task. -/
theorem pollStatus_of_success {v : View} {s : Session} {chunks : List Bytes} (h : Ended s chunks)
    (hv : v.task = some (.done (.ok ()))) :
    (s.pollStatus v).1 = some (.ok ()) ∧
      ∃ spec u, (s.pollStatus v).2.history =
        .spawned 0 spec :: chunks.map (.fed 0) ++ [.eof 0, .restartTask u] := by
  obtain ⟨spec, hh⟩ := h.history
  obtain ⟨u, hu⟩ := h.updateType
  have he : s.pollStatus v =
      (some ({ s with status := none }.settle (.done (.ok ()))).1,
        ({ s with status := none }.settle (.done (.ok ()))).2) := by
    unfold pollStatus
    rw [h.terminal, h.status, hv]
  rw [he]
  refine ⟨rfl, spec, u, ?_⟩
  simp [settle, markComplete, hu, record, hh]

end Session

end SummitUsbgadget.Swupdate
