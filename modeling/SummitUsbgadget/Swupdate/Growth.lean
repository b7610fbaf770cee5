import SummitUsbgadget.Swupdate.Transfer
import SummitUsbgadget.Swupdate.Pipeline

/-!
# What a session that is fed grows by

A session that is only fed, ended and asked for its verdict spawns one transfer (`Single`), and what
it adds to its history is no longer than what it was fed (`Grows`).
-/

set_option autoImplicit false

namespace SummitUsbgadget.Swupdate.Session

/-- The session spawns one transfer and then has a verdict or waits for one. -/
def Single (s : Session) : Prop :=
  s.spawns = 0 ∨ (s.spawns = 1 ∧ (s.status.isSome ∨ s.terminal.isSome))

theorem Single.spawns_le {s : Session} (h : Single s) : s.spawns ≤ 1 := by
  rcases h with h | ⟨h, -⟩
  · exact h ▸ Nat.zero_le 1
  · exact Nat.le_of_eq h

theorem single_engaged (v : View) {s : Session} (h : Single s) : Single (s.engaged v) := by
  rcases engaged_cases v s with heq | ⟨⟨-, hst, hterm⟩, heq⟩
  · rw [heq]
    exact h
  · rw [heq]
    -- a vacant session has no verdict and waits for none, so it has not spawned
    have hzero : s.spawns = 0 := h.resolve_right (by simp [hst, hterm])
    exact Or.inr ⟨congrArg (· + 1) hzero, Or.inl rfl⟩

theorem single_trySend (v : View) (item : Bytes) {s : Session} (h : Single s) :
    Single (s.trySend v item).2 := by
  rcases trySend_eq_offer v item s with ⟨-, -, heq⟩ | heq
  · rw [heq]
    exact h
  · rw [heq]
    obtain ⟨hst, hterm⟩ := offer_frame v.queue item (s.engaged v)
    unfold Single
    rw [spawns_offer, hst, hterm]
    exact single_engaged v h

theorem single_eof {s : Session} (h : Single s) : Single s.eof := by
  unfold Single
  rw [spawns_eof, status_eof, terminal_eof]
  exact h

theorem single_pollStatus (v : View) {s : Session} (h : Single s) :
    Single (s.pollStatus v).2 := by
  refine pollStatus_keeps h (fun joined => ?_) v
  obtain ⟨-, -, hsp, hterm⟩ := settle_facts joined { s with status := none }
  refine h.imp (fun h0 => hsp.trans h0) ?_
  rintro ⟨h1, -⟩
  exact ⟨hsp.trans h1, Or.inr hterm⟩

/-- From `s` to `s'` no block of more than `n` bytes was fed. -/
structure Grows (n : Nat) (s s' : Session) : Prop where
  events : ∃ es, s'.history = s.history ++ es ∧ ∀ k block, .fed k block ∈ es → block.length ≤ n
  maxBlockSize : s'.maxBlockSize = s.maxBlockSize

namespace Grows

variable {n : Nat} {s s' s'' : Session}

theorem refl (n : Nat) (s : Session) : Grows n s s := ⟨⟨[], by simp⟩, rfl⟩

theorem trans (h : Grows n s s') (h' : Grows n s' s'') : Grows n s s'' := by
  obtain ⟨es, hes, hn⟩ := h.events
  obtain ⟨es', hes', hn'⟩ := h'.events
  refine ⟨⟨es ++ es', ?_, ?_⟩, h'.maxBlockSize.trans h.maxBlockSize⟩
  · rw [hes', hes, List.append_assoc]
  · intro k block hmem
    exact (List.mem_append.1 hmem).elim (hn k block) (hn' k block)

theorem of_quiet (h : Quiet s s') (hmax : s'.maxBlockSize = s.maxBlockSize) : Grows n s s' := by
  obtain ⟨es, hes, hfed⟩ := h.events
  refine ⟨⟨es, hes, fun k block hmem => ?_⟩, hmax⟩
  cases hfed _ hmem

end Grows

theorem maxBlockSize_trySend (v : View) (item : Bytes) (s : Session) :
    (s.trySend v item).2.maxBlockSize = s.maxBlockSize := by
  rcases trySend_eq_offer v item s with ⟨-, -, heq⟩ | heq
  · rw [heq]
  · rw [heq]
    refine (offer_keeps (f := maxBlockSize) (fun _ _ => rfl) v.queue item).trans ?_
    rcases engaged_cases v s with heng | ⟨-, heng⟩
    · rw [heng]
    · rw [heng]
      rfl

theorem grows_trySend (v : View) {item : Bytes} {n : Nat} (hn : item.length ≤ n) (s : Session) :
    Grows n s (s.trySend v item).2 := by
  have hmax := maxBlockSize_trySend v item s
  rcases quiet_or_fed_trySend v item s with hq | ⟨t, k, ht, -, -, heq⟩
  · exact .of_quiet hq hmax
  · obtain ⟨es, hes, hfed⟩ := ht.events
    refine ⟨⟨es ++ [.fed k item], ?_, ?_⟩, hmax⟩
    · rw [heq, record, hes, List.append_assoc]
    · intro j block hmem
      rcases List.mem_append.1 hmem with hmem | hmem
      · cases hfed _ hmem
      · cases List.mem_singleton.1 hmem
        exact hn

theorem grows_eof (n : Nat) (s : Session) : Grows n s s.eof :=
  .of_quiet (quiet_eof s) (eof_keeps (P := fun t => t.maxBlockSize = s.maxBlockSize) rfl
    fun _ _ => rfl)

theorem grows_pollStatus (n : Nat) (v : View) (s : Session) : Grows n s (s.pollStatus v).2 := by
  refine .of_quiet (quiet_pollStatus v s) ?_
  refine pollStatus_keeps (P := fun d => d.maxBlockSize = s.maxBlockSize) rfl (fun joined => ?_) v
  unfold settle markComplete
  cases joined with
  | panicked text => rfl
  | done result =>
      cases result with
      | error err => rfl
      | ok u => cases s.updateType <;> rfl

/-! ## A session that streams -/

/-- The history of a session that is fed tells what it has taken. -/
theorem Feeding.unique {s : Session} {chunks chunks' : List Bytes} (h : Feeding s chunks)
    (h' : Feeding s chunks') : chunks = chunks' := by
  rcases h with ⟨params, n, rfl, rfl⟩ | h
  · rcases h' with ⟨-, -, -, rfl⟩ | h'
    · rfl
    · cases h'.tx
  · rcases h' with ⟨params, n, rfl, rfl⟩ | h'
    · cases h.tx
    · obtain ⟨spec, hh⟩ := h.history
      obtain ⟨spec', hh'⟩ := h'.history
      have hmap := (List.cons.inj (hh.symm.trans hh')).2
      refine List.map_injective_iff.2 ?_ hmap
      intro a b hab
      cases hab
      rfl

/-- The queue of the first transfer gets what the session has taken meanwhile. -/
theorem Feeding.absorb {s s' : Session} {chunks more : List Bytes} (h : Feeding s chunks)
    (h' : Streaming s' (chunks ++ more)) (transfers : Nat → Transfer) :
    (s.since s').foldl Pipeline.absorb transfers =
      (more.map (SessionEvent.fed 0)).foldl Pipeline.absorb transfers := by
  obtain ⟨spec', hh'⟩ := h'.history
  rw [since, hh']
  rcases h with ⟨params, n, rfl, rfl⟩ | h
  · rfl
  · obtain ⟨spec, hh⟩ := h.history
    rw [hh, List.length_cons, List.length_map, List.drop_succ_cons, List.map_append,
      List.drop_append_of_le_length (by simp), List.drop_of_length_le (by simp), List.nil_append]

end SummitUsbgadget.Swupdate.Session
