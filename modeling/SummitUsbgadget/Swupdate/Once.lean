import SummitUsbgadget.Swupdate.Feed

/-!
# One transfer, one verdict

A session that is only fed and watched: no explicit `open`, no `abort`. It opens by itself with the
first block, and never again, because from then on it has a status handle or a cached verdict.
`one_transfer_one_verdict` concludes that at most one backend is spawned, that the sender never
outlives the hope for a verdict, and that the verdict of the transfer never changes once it was
returned.
-/

set_option autoImplicit false

namespace SummitUsbgadget.Swupdate

open SummitUsbgadget.Lib

namespace Session

/-- A call that neither opens nor aborts the session. -/
def Op.ordinary : Op → Bool
  | .open _ => false
  | .abort => false
  | _ => true

/-- Both are success, or both are failures with the same text. -/
def SameVerdict : Except IoError Unit → Except IoError Unit → Prop
  | .ok (), .ok () => True
  | .error err, .error err' => err.text = err'.text
  | _, _ => False

/-- A transfer has been spawned, and its verdict is cached. -/
structure Decided (s : Session) (verdict : Except String Unit) : Prop where
  spawned : s.spawns = 1
  status : s.status = none
  terminal : s.terminal = some verdict

/-- Nothing has been spawned and nothing is held; or one transfer has, and its verdict is awaited or
cached. -/
def Once (s : Session) : Prop :=
  (s.spawns = 0 ∧ Vacant s) ∨ (s.spawns = 1 ∧ s.status.isSome ∧ s.terminal = none) ∨
    ∃ verdict, Decided s verdict

theorem once_new (params : SwupdateParams) (n : Nat) : Once (new params n) :=
  Or.inl ⟨rfl, vacant_new params n⟩

theorem Decided.not_vacant {s : Session} {verdict : Except String Unit} (h : Decided s verdict) :
    ¬ Vacant s := by
  rintro ⟨-, -, hterm⟩
  rw [h.terminal] at hterm
  cases hterm

theorem once_ensureOpen (v : View) {s : Session} (h : Once s) : Once (s.ensureOpen v).2 := by
  rcases ensureOpen_cases v s with ⟨-, heq⟩ | ⟨-, -, heq⟩ | ⟨hvac, -, heq⟩
  · rw [heq]
    exact h
  · rw [heq]
    exact h
  · rw [heq]
    -- only the first block finds the session vacant
    rcases h with ⟨hzero, -⟩ | ⟨-, hst, -⟩ | ⟨verdict, hd⟩
    · exact Or.inr (Or.inl ⟨by simp [spawn, hzero], rfl, hvac.2.2⟩)
    · rw [hvac.2.1] at hst
      cases hst
    · exact absurd hvac hd.not_vacant

/-- What leaves the status side alone and brings no sender keeps the invariant. -/
theorem Once.of_frame {s t : Session} (h : Once s) (hspawns : t.spawns = s.spawns)
    (hstatus : t.status = s.status) (hterminal : t.terminal = s.terminal)
    (htx : s.tx = none → t.tx = none) : Once t := by
  rcases h with ⟨hzero, hvac⟩ | ⟨hone, hst, hterm⟩ | ⟨verdict, hd⟩
  · refine Or.inl ⟨hspawns.trans hzero, htx hvac.1, ?_, ?_⟩
    · rw [hstatus]
      exact hvac.2.1
    · rw [hterminal]
      exact hvac.2.2
  · refine Or.inr (Or.inl ⟨hspawns.trans hone, ?_, hterminal.trans hterm⟩)
    rw [hstatus]
    exact hst
  · exact Or.inr (Or.inr ⟨verdict, hspawns.trans hd.spawned, hstatus.trans hd.status,
      hterminal.trans hd.terminal⟩)

theorem once_offer (q : QueueView) (item : Bytes) {s : Session} (h : Once s) :
    Once (s.offer q item).2 := by
  obtain ⟨hst, hterm⟩ := offer_frame q item s
  refine h.of_frame (spawns_offer q item s) hst hterm fun htx => ?_
  simp [offer, htx, record]

theorem once_trySend (v : View) (item : Bytes) {s : Session} (h : Once s) :
    Once (s.trySend v item).2 :=
  trySend_keeps (once_ensureOpen v h) fun _ => once_offer v.queue item

theorem once_send (v : View) (accepted : Bool) (item : Bytes) {s : Session} (h : Once s) :
    Once (s.send v accepted item).2 := by
  rw [send_eq_trySend]
  exact once_trySend _ item h

theorem once_eof {s : Session} (h : Once s) : Once s.eof :=
  h.of_frame (spawns_eof s) (status_eof s) (terminal_eof s) fun _ => tx_eof s

/-- The poll that joins the status task decides the session. -/
theorem once_pollStatus (v : View) {s : Session} (h : Once s) : Once (s.pollStatus v).2 := by
  rcases pollStatus_keeps_or_joins v s with heq | ⟨joined, -, hst, -, heq⟩
  · rw [heq]
    exact h
  · rw [heq]
    obtain ⟨-, hstatus, hspawns, hterm⟩ := settle_facts joined { s with status := none }
    obtain ⟨verdict, hverdict⟩ := Option.isSome_iff_exists.1 hterm
    have hone : s.spawns = 1 := by
      rcases h with ⟨-, hvac⟩ | ⟨hone, -, -⟩ | ⟨_, hd⟩
      · rw [hvac.2.1] at hst
        cases hst
      · exact hone
      · exact hd.spawned
    exact Or.inr (Or.inr ⟨verdict, hspawns.trans hone, hstatus, hverdict⟩)

theorem once_apply (s : Session) (op : Op) (h : Once s) (hop : op.ordinary = true) :
    Once (s.apply op) := by
  cases op with
  | «open» v => cases hop
  | trySend v item => exact once_trySend v item h
  | send v accepted item => exact once_send v accepted item h
  | eof => exact once_eof h
  | finished v => exact once_pollStatus v h
  | tryFinished v => exact once_pollStatus v h
  | abort => cases hop

/-! ## The verdict stays -/

section Decided

variable {s : Session} {verdict : Except String Unit}

theorem decided_offer (q : QueueView) (item : Bytes) (h : Decided s verdict) :
    Decided (s.offer q item).2 verdict := by
  obtain ⟨hst, hterm⟩ := offer_frame q item s
  exact ⟨(spawns_offer q item s).trans h.spawned, hst.trans h.status, hterm.trans h.terminal⟩

/-- A cached verdict is what every poll returns. -/
theorem Decided.pollStatus (h : Decided s verdict) (v : View) :
    s.pollStatus v = (some (verdict.mapError IoError.other), s) := by
  rcases pollStatus_cases v s with
    ⟨hterm, heq⟩ | ⟨text, hterm, heq⟩ | ⟨hterm, -, -⟩ | ⟨hterm, -, -, -⟩ | ⟨joined, hterm, -, -, -⟩
  · obtain rfl := Option.some.inj (h.terminal.symm.trans hterm)
    exact heq
  · obtain rfl := Option.some.inj (h.terminal.symm.trans hterm)
    exact heq
  all_goals
    rw [h.terminal] at hterm
    cases hterm

theorem decided_apply (op : Op) (h : Decided s verdict) (hop : op.ordinary = true) :
    Decided (s.apply op) verdict := by
  have hopen := fun v => ensureOpen_of_not_vacant h.not_vacant v
  cases op with
  | «open» v => cases hop
  | trySend v item =>
      simp only [apply, trySend, hopen]
      exact decided_offer _ item h
  | send v accepted item =>
      simp only [apply, send, hopen]
      exact decided_offer _ item h
  | eof =>
      exact ⟨(spawns_eof s).trans h.spawned, (status_eof s).trans h.status,
        (terminal_eof s).trans h.terminal⟩
  | finished v =>
      simp only [apply, h.pollStatus]
      exact h
  | tryFinished v =>
      simp only [apply, tryFinished, h.pollStatus]
      exact h
  | abort => cases hop

end Decided

/-- Settling returns what it caches, up to the kind of the error. -/
theorem settle_same (joined : Joined) (s : Session) :
    ∃ verdict, (s.settle joined).2.terminal = some verdict ∧
      SameVerdict (s.settle joined).1 (verdict.mapError IoError.other) := by
  cases joined with
  | panicked text => exact ⟨_, rfl, rfl⟩
  | done result =>
      cases result with
      | error err => exact ⟨_, rfl, rfl⟩
      | ok u =>
          refine ⟨.ok (), ?_, trivial⟩
          simp only [settle, markComplete]
          cases s.updateType <;> rfl

theorem sameVerdict_refl (verdict : Except IoError Unit) : SameVerdict verdict verdict := by
  cases verdict with
  | ok u => trivial
  | error err => rfl

/-- A verdict that was returned is the one that is cached from then on. -/
theorem Once.pollStatus_decides {s : Session} (h : Once s) (hone : s.spawns = 1) {v : View}
    {r : Except IoError Unit} (hr : (s.pollStatus v).1 = some r) :
    ∃ verdict, Decided (s.pollStatus v).2 verdict ∧
      SameVerdict r (verdict.mapError IoError.other) := by
  rcases h with ⟨hzero, -⟩ | ⟨-, hst, hterm⟩ | ⟨verdict, hd⟩
  · rw [hzero] at hone
    cases hone
  · -- the verdict was awaited, so this poll joined the status task
    obtain ⟨k, hk⟩ := Option.isSome_iff_exists.1 hst
    unfold pollStatus at hr ⊢
    rw [hterm, hk] at hr ⊢
    cases htask : v.task with
    | none =>
        rw [htask] at hr
        cases hr
    | some joined =>
        rw [htask] at hr
        obtain ⟨-, hstatus, hspawns, -⟩ := settle_facts joined { s with status := none }
        obtain ⟨verdict, hverdict, hsame⟩ := settle_same joined { s with status := none }
        obtain rfl := Option.some.inj hr
        exact ⟨verdict, ⟨hspawns.trans hone, hstatus, hverdict⟩, hsame⟩
  · rw [hd.pollStatus] at hr ⊢
    obtain rfl := Option.some.inj hr
    exact ⟨verdict, hd, sameVerdict_refl _⟩

/-- After any calls that neither open nor abort the session, at most one backend was spawned, a
sender has a verdict or waits for one, and a verdict of the transfer that was returned once is
returned by every later poll, whatever is sent or closed in between. -/
theorem one_transfer_one_verdict (params : SwupdateParams) (n : Nat) (ops : List Op)
    (hops : ∀ op ∈ ops, op.ordinary = true) :
    (run apply (new params n) ops).spawns ≤ 1 ∧
      ((run apply (new params n) ops).tx.isSome →
        (run apply (new params n) ops).status.isSome ∨
          (run apply (new params n) ops).terminal.isSome) ∧
      ((run apply (new params n) ops).spawns = 1 → ∀ (v : View) (r : Except IoError Unit),
        ((run apply (new params n) ops).pollStatus v).1 = some r →
        ∀ later : List Op, (∀ op ∈ later, op.ordinary = true) → ∀ w : View, ∃ r',
          ((run apply ((run apply (new params n) ops).pollStatus v).2 later).pollStatus w).1 =
            some r' ∧ SameVerdict r r') := by
  have hconsistent := consistent_run params n ops
  have honce : Once (run apply (new params n) ops) :=
    run_invariant once_apply (once_new params n) (along_of_forall_mem hops)
  generalize run apply (new params n) ops = s at hconsistent honce
  refine ⟨?_, hconsistent.tx_verdict, fun hone v r hr later hlater w => ?_⟩
  · rcases honce with ⟨hzero, -⟩ | ⟨hone, -⟩ | ⟨_, hd⟩
    · omega
    · omega
    · exact Nat.le_of_eq hd.spawned
  · obtain ⟨verdict, hd, hsame⟩ := honce.pollStatus_decides hone hr
    have hdecided : Decided (run apply (s.pollStatus v).2 later) verdict :=
      run_invariant (I := fun t => Decided t verdict)
        (fun t op ht hop => decided_apply op ht hop) hd
        (along_of_forall_mem hlater)
    exact ⟨_, by rw [hdecided.pollStatus], hsame⟩

/-- A session that is fed two blocks, told to fail and fed again. -/
theorem one_transfer_one_verdict_failed :
    let quiet : View := ⟨false, ⟨"mmc", "a"⟩, .room, none⟩
    let failed : View := ⟨false, ⟨"mmc", "a"⟩, .room, some (.panicked "boom")⟩
    let ops : List Op := [.trySend quiet [1], .send quiet true [2], .eof]
    (∀ op ∈ ops, op.ordinary = true) ∧ (run apply (new .default 16384) ops).spawns = 1 ∧
      ∃ r', ((run apply ((run apply (new .default 16384) ops).pollStatus failed).2
          [.trySend quiet [3], .eof]).pollStatus quiet).1 = some r' ∧
        SameVerdict (.error (IoError.other "SWUpdate status task failed: boom")) r' := by
  intro quiet failed ops
  have hops : ∀ op ∈ ops, op.ordinary = true := by
    intro op hop
    simp only [ops, List.mem_cons, List.not_mem_nil, or_false] at hop
    rcases hop with rfl | rfl | rfl <;> rfl
  have hlater : ∀ op ∈ [Op.trySend quiet [3], .eof], op.ordinary = true := by
    intro op hop
    simp only [List.mem_cons, List.not_mem_nil, or_false] at hop
    rcases hop with rfl | rfl <;> rfl
  obtain ⟨-, -, hverdict⟩ := one_transfer_one_verdict .default 16384 ops hops
  exact ⟨hops, rfl, hverdict rfl failed _ rfl _ hlater quiet⟩

end Session

end SummitUsbgadget.Swupdate
