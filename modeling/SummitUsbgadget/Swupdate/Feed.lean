import SummitUsbgadget.Swupdate.Live

/-!
# What the feed side does to a session

Inversion lemmas for `ensureOpen`, `trySend` and `send`, and the bytes a session has taken: those
it accepted into a queue (`fedBytes`) and those it was handed at all (`handedBytes`), which
includes blocks discarded because SWUpdate had stopped reading. `Accountable` says that a session
with a sender, or one that took bytes, has a verdict or waits for one.
-/

set_option autoImplicit false

namespace SummitUsbgadget.Swupdate

/-- The block that an event puts into the queue. -/
def SessionEvent.fedBlock : SessionEvent → Bytes
  | .fed _ block => block
  | _ => []

/-- The block that an event takes from the producer. -/
def SessionEvent.handedBlock : SessionEvent → Bytes
  | .fed _ block => block
  | .discarded block => block
  | _ => []

namespace Session

/-- What was recorded on the way from `s` to `t`. -/
def since (s t : Session) : List SessionEvent := t.history.drop s.history.length

/-- Bytes accepted with `Feed::Ok`, in order. -/
def fedBytes (s : Session) : Bytes := (s.history.map SessionEvent.fedBlock).flatten

/-- Bytes taken from the producer, accepted or discarded, in order. -/
def handedBytes (s : Session) : Bytes := (s.history.map SessionEvent.handedBlock).flatten

@[simp] theorem fedBytes_new (params : SwupdateParams) (n : Nat) :
    (new params n).fedBytes = [] := rfl

@[simp] theorem handedBytes_new (params : SwupdateParams) (n : Nat) :
    (new params n).handedBytes = [] := rfl

@[simp] theorem fedBytes_record (s : Session) (e : SessionEvent) :
    (s.record e).fedBytes = s.fedBytes ++ e.fedBlock := by
  simp [fedBytes, record]

@[simp] theorem handedBytes_record (s : Session) (e : SessionEvent) :
    (s.record e).handedBytes = s.handedBytes ++ e.handedBlock := by
  simp [handedBytes, record]

@[simp] theorem fedBytes_dropTx (s : Session) :
    { s with tx := none }.fedBytes = s.fedBytes := rfl

@[simp] theorem fedBytes_spawn (v : View) (s : Session) : (s.spawn v).fedBytes = s.fedBytes := by
  simp [fedBytes, spawn, SessionEvent.fedBlock]

@[simp] theorem handedBytes_spawn (v : View) (s : Session) :
    (s.spawn v).handedBytes = s.handedBytes := by
  simp [handedBytes, spawn, SessionEvent.handedBlock]

@[simp] theorem fedBytes_abort (s : Session) : s.abort.fedBytes = s.fedBytes := by
  simp [fedBytes, abort, SessionEvent.fedBlock]

@[simp] theorem handedBytes_abort (s : Session) : s.abort.handedBytes = s.handedBytes := by
  simp [handedBytes, abort, SessionEvent.handedBlock]

@[simp] theorem fedBytes_eof (s : Session) : s.eof.fedBytes = s.fedBytes := by
  apply eof_keeps (P := fun s' => s'.fedBytes = s.fedBytes) rfl
  intro k _
  simp [fedBytes, record, SessionEvent.fedBlock]

@[simp] theorem handedBytes_eof (s : Session) : s.eof.handedBytes = s.handedBytes := by
  apply eof_keeps (P := fun s' => s'.handedBytes = s.handedBytes) rfl
  intro k _
  simp [handedBytes, record, SessionEvent.handedBlock]

@[simp] theorem tx_eof (s : Session) : s.eof.tx = none := by
  cases h : s.tx with
  | none => rw [eof_of_none h, h]
  | some k =>
      rw [eof_of_some h]
      rfl

@[simp] theorem status_eof (s : Session) : s.eof.status = s.status :=
  eof_keeps (P := fun s' => s'.status = s.status) rfl fun _ _ => rfl

@[simp] theorem terminal_eof (s : Session) : s.eof.terminal = s.terminal :=
  eof_keeps (P := fun s' => s'.terminal = s.terminal) rfl fun _ _ => rfl

@[simp] theorem spawns_eof (s : Session) : s.eof.spawns = s.spawns :=
  eof_keeps (P := fun s' => s'.spawns = s.spawns) rfl fun _ _ => rfl

/-- The status side keeps the sender and the bytes. -/
theorem settle_bytes (joined : Joined) (s : Session) :
    (s.settle joined).2.fedBytes = s.fedBytes ∧
      (s.settle joined).2.handedBytes = s.handedBytes := by
  unfold settle markComplete
  cases joined with
  | panicked text => exact ⟨rfl, rfl⟩
  | done result =>
      cases result with
      | error err => exact ⟨rfl, rfl⟩
      | ok u =>
          cases s.updateType <;>
            simp [fedBytes, handedBytes, record, SessionEvent.fedBlock, SessionEvent.handedBlock]

theorem pollStatus_facts (v : View) (s : Session) :
    (s.pollStatus v).2.tx = s.tx ∧ (s.pollStatus v).2.fedBytes = s.fedBytes ∧
      (s.pollStatus v).2.handedBytes = s.handedBytes := by
  refine pollStatus_keeps (P := fun d => d.tx = s.tx ∧ d.fedBytes = s.fedBytes ∧
    d.handedBytes = s.handedBytes) ⟨rfl, rfl, rfl⟩ (fun joined => ?_) v
  obtain ⟨htx, -, -, -⟩ := settle_facts joined { s with status := none }
  obtain ⟨hfed, hhanded⟩ := settle_bytes joined { s with status := none }
  exact ⟨htx, hfed, hhanded⟩

/-- Nothing is held: no sender, no status handle, no cached verdict. -/
def Vacant (s : Session) : Prop := s.tx = none ∧ s.status = none ∧ s.terminal = none

theorem vacant_new (params : SwupdateParams) (n : Nat) : Vacant (new params n) :=
  ⟨rfl, rfl, rfl⟩

/-- A vacant session opens, unless a restart is pending; any other session stays as it is. -/
theorem ensureOpen_cases (v : View) (s : Session) :
    (¬ Vacant s ∧ s.ensureOpen v = (.ok (), s)) ∨
      (Vacant s ∧ v.restartPending = true ∧ s.ensureOpen v = (.error restartPendingError, s)) ∨
      (Vacant s ∧ v.restartPending = false ∧ s.ensureOpen v = (.ok (), s.spawn v)) := by
  by_cases hv : Vacant s
  · obtain ⟨htx, hst, hterm⟩ := hv
    have hno : s.isOpen = false := (isOpen_eq_false_iff s).2 ⟨htx, hst⟩
    -- `open` clears the cached verdict, of which a vacant session has none
    have hs : { s with terminal := none } = s := by
      cases s
      simp_all
    have he : s.ensureOpen v = s.openSession v := by simp [ensureOpen, htx, hst, hterm]
    rcases openSession_cases v s with ⟨ho, -⟩ | ⟨-, hr, heq⟩ | ⟨-, hr, heq⟩
    · rw [hno] at ho
      cases ho
    · exact Or.inr (Or.inl ⟨⟨htx, hst, hterm⟩, hr, by rw [he, heq, hs]⟩)
    · exact Or.inr (Or.inr ⟨⟨htx, hst, hterm⟩, hr, by rw [he, heq, hs]⟩)
  · refine Or.inl ⟨hv, ?_⟩
    unfold ensureOpen
    rw [if_pos]
    by_contra hcon
    simp only [Bool.or_eq_true, not_or, Bool.not_eq_true, Option.isSome_eq_false_iff,
      Option.isNone_iff_eq_none] at hcon
    exact hv ⟨hcon.1.1, hcon.1.2, hcon.2⟩

/-- A session that is not vacant is left as it is by `ensureOpen`. -/
theorem ensureOpen_of_not_vacant {s : Session} (h : ¬ Vacant s) (v : View) :
    s.ensureOpen v = (.ok (), s) := by
  rcases ensureOpen_cases v s with ⟨-, heq⟩ | ⟨hvac, -, -⟩ | ⟨hvac, -, -⟩
  · exact heq
  · exact absurd hvac h
  · exact absurd hvac h

/-- A vacant session opens exactly if no restart is pending. -/
theorem ensureOpen_of_vacant {d : Session} (hvac : Vacant d) (v : View) :
    d.ensureOpen v =
      if v.restartPending then (.error restartPendingError, d) else (.ok (), d.spawn v) := by
  rcases ensureOpen_cases v d with ⟨hn, -⟩ | ⟨-, hr, heq⟩ | ⟨-, hr, heq⟩
  · exact absurd hvac hn
  · rw [heq, hr]
    rfl
  · rw [heq, hr]
    rfl

/-- The session that a send works on: opened first when it was vacant. -/
def engaged (v : View) (s : Session) : Session := (s.ensureOpen v).2

/-- It is the session as it was, or the one that was vacant and is opened now. -/
theorem engaged_cases (v : View) (s : Session) :
    s.engaged v = s ∨ (Vacant s ∧ s.engaged v = s.spawn v) := by
  rcases ensureOpen_cases v s with ⟨-, heq⟩ | ⟨-, -, heq⟩ | ⟨hvac, -, heq⟩
  · exact Or.inl (congrArg Prod.snd heq)
  · exact Or.inl (congrArg Prod.snd heq)
  · exact Or.inr ⟨hvac, congrArg Prod.snd heq⟩

@[simp] theorem fedBytes_engaged (v : View) (s : Session) :
    (s.engaged v).fedBytes = s.fedBytes := by
  rcases engaged_cases v s with heq | ⟨-, heq⟩
  · rw [heq]
  · rw [heq, fedBytes_spawn]

@[simp] theorem handedBytes_engaged (v : View) (s : Session) :
    (s.engaged v).handedBytes = s.handedBytes := by
  rcases engaged_cases v s with heq | ⟨-, heq⟩
  · rw [heq]
  · rw [heq, handedBytes_spawn]

/-- A send is rejected when a vacant session must not open; otherwise it offers the block. -/
theorem trySend_eq_offer (v : View) (item : Bytes) (s : Session) :
    (Vacant s ∧ v.restartPending = true ∧ s.trySend v item = (.error restartPendingError, s)) ∨
      s.trySend v item = (.ok ((s.engaged v).offer v.queue item).1,
        ((s.engaged v).offer v.queue item).2) := by
  unfold trySend engaged
  rcases ensureOpen_cases v s with ⟨-, heq⟩ | ⟨hvac, hr, heq⟩ | ⟨-, -, heq⟩
  · rw [heq]
    exact Or.inr rfl
  · rw [heq]
    exact Or.inl ⟨hvac, hr, rfl⟩
  · rw [heq]
    exact Or.inr rfl

/-- What the queue makes of an offered block. -/
theorem offer_cases (q : QueueView) (item : Bytes) (s : Session) :
    (s.tx = none ∧ s.offer q item = (.closed, s.record (.discarded item))) ∨
      (∃ k, s.tx = some k ∧ q = .room ∧
        s.offer q item = (.ok item.length, s.record (.fed k item))) ∨
      (∃ k, s.tx = some k ∧ q = .full ∧ s.offer q item = (.full item, s)) ∨
      (∃ k, s.tx = some k ∧ q = .closed ∧
        s.offer q item = (.closed, { s with tx := none }.record (.discarded item))) := by
  unfold offer
  cases htx : s.tx with
  | none => exact Or.inl ⟨rfl, rfl⟩
  | some k =>
      cases q with
      | room => exact Or.inr (Or.inl ⟨k, rfl, rfl, rfl⟩)
      | full => exact Or.inr (Or.inr (Or.inl ⟨k, rfl, rfl, rfl⟩))
      | closed => exact Or.inr (Or.inr (Or.inr ⟨k, rfl, rfl, rfl⟩))

/-- An offer changes the history and perhaps the sender, and nothing else. -/
theorem offer_keeps {γ : Type} {f : Session → γ} {s : Session}
    (h : ∀ tx history, f { s with tx := tx, history := history } = f s) (q : QueueView)
    (item : Bytes) : f (s.offer q item).2 = f s := by
  rcases offer_cases q item s with ⟨-, heq⟩ | ⟨k, -, -, heq⟩ | ⟨k, -, -, heq⟩ | ⟨k, -, -, heq⟩
  · rw [heq]
    exact h s.tx _
  · rw [heq]
    exact h s.tx _
  · rw [heq]
  · rw [heq]
    exact h none _

theorem offer_frame (q : QueueView) (item : Bytes) (s : Session) :
    (s.offer q item).2.status = s.status ∧ (s.offer q item).2.terminal = s.terminal :=
  ⟨offer_keeps (fun _ _ => rfl) q item, offer_keeps (fun _ _ => rfl) q item⟩

theorem spawns_offer (q : QueueView) (item : Bytes) (s : Session) :
    (s.offer q item).2.spawns = s.spawns :=
  offer_keeps (fun _ _ => rfl) q item

/-- A block that a sender does not have to keep: it is taken, or the queue was closed. -/
theorem offer_sender {q : QueueView} (hq : q ≠ .full) (item : Bytes) {s : Session}
    (htx : s.tx.isSome) :
    ((∃ n, (s.offer q item).1 = .ok n) ∧ (s.offer q item).2.tx.isSome) ∨
      (s.offer q item).1 = .closed := by
  rcases offer_cases q item s with ⟨hnone, -⟩ | ⟨k, hk, -, heq⟩ | ⟨k, -, hfull, -⟩ | ⟨k, -, -, heq⟩
  · rw [hnone] at htx
    cases htx
  · rw [heq]
    exact Or.inl ⟨⟨_, rfl⟩, htx⟩
  · exact absurd hfull hq
  · rw [heq]
    exact Or.inr rfl

/-- A block that does not come back was taken from the producer. -/
theorem offer_handed {q : QueueView} (hq : q ≠ .full) (item : Bytes) (s : Session) :
    (s.offer q item).2.handedBytes = s.handedBytes ++ item := by
  rcases offer_cases q item s with ⟨-, ho⟩ | ⟨k, -, -, ho⟩ | ⟨k, -, hfull, ho⟩ | ⟨k, -, -, ho⟩
  · simp [ho, SessionEvent.handedBlock]
  · simp [ho, SessionEvent.handedBlock]
  · exact absurd hfull hq
  · rw [ho, handedBytes_record]
    rfl

/-! ## Sessions that have a verdict or wait for one -/

/-- A sender, and any byte taken, has a verdict or waits for one. -/
structure Accountable (s : Session) : Prop where
  sender : s.tx.isSome → s.status.isSome ∨ s.terminal.isSome
  bytes : s.fedBytes ≠ [] → s.status.isSome ∨ s.terminal.isSome

theorem accountable_new (params : SwupdateParams) (n : Nat) : Accountable (new params n) :=
  ⟨by simp [new], by simp⟩

theorem accountable_engaged (v : View) {s : Session} (h : Accountable s) :
    Accountable (s.engaged v) := by
  rcases engaged_cases v s with heq | ⟨-, heq⟩
  · rw [heq]
    exact h
  · rw [heq]
    exact ⟨fun _ => Or.inl rfl, fun _ => Or.inl rfl⟩

theorem accountable_offer (q : QueueView) (item : Bytes) {s : Session} (h : Accountable s) :
    Accountable (s.offer q item).2 := by
  rcases offer_cases q item s with ⟨htx, heq⟩ | ⟨k, htx, -, heq⟩ | ⟨k, -, -, heq⟩ | ⟨k, -, -, heq⟩
  · rw [heq]
    refine ⟨h.sender, fun hb => h.bytes ?_⟩
    simpa [SessionEvent.fedBlock] using hb
  · rw [heq]
    exact ⟨h.sender, fun _ => h.sender (by simp [htx])⟩
  · rw [heq]
    exact h
  · rw [heq]
    refine ⟨by simp [record], fun hb => h.bytes ?_⟩
    simpa [SessionEvent.fedBlock] using hb

theorem accountable_trySend (v : View) (item : Bytes) {s : Session} (h : Accountable s) :
    Accountable (s.trySend v item).2 := by
  rcases trySend_eq_offer v item s with ⟨-, -, heq⟩ | heq
  · rw [heq]
    exact h
  · rw [heq]
    exact accountable_offer v.queue item (accountable_engaged v h)

theorem accountable_eof {s : Session} (h : Accountable s) : Accountable s.eof :=
  ⟨by simp, by simpa using h.bytes⟩

theorem accountable_pollStatus (v : View) {s : Session} (h : Accountable s) :
    Accountable (s.pollStatus v).2 := by
  refine pollStatus_keeps h (fun joined => ?_) v
  obtain ⟨-, -, -, hterm⟩ := settle_facts joined { s with status := none }
  exact ⟨fun _ => Or.inr hterm, fun _ => Or.inr hterm⟩

theorem fedBytes_of_vacant {s : Session} (h : Accountable s) (hv : Vacant s) :
    s.fedBytes = [] := by
  by_contra hne
  obtain ⟨-, hst, hterm⟩ := hv
  rcases h.bytes hne with hs | ht
  · simp [hst] at hs
  · simp [hterm] at ht

theorem Accountable.vacant_iff {s : Session} (h : Accountable s) :
    Vacant s ↔ s.status = none ∧ s.terminal = none := by
  refine ⟨fun hv => hv.2, fun hs => ⟨?_, hs.1, hs.2⟩⟩
  cases htx : s.tx with
  | none => rfl
  | some k =>
      exfalso
      rcases h.sender (by simp [htx]) with hst | hterm
      · simp [hs.1] at hst
      · simp [hs.2] at hterm

/-- A send that is not rejected leaves a session that has a verdict or waits for one. -/
theorem trySend_not_vacant {v : View} {item : Bytes} {s : Session} {feed : Feed}
    (h : Accountable s) (hok : (s.trySend v item).1 = .ok feed) :
    ¬ Vacant (s.trySend v item).2 := by
  intro hvac
  -- the session that the block was offered to is not vacant, and an offer leaves its status side
  have heng : ¬ Vacant (s.engaged v) := by
    intro hv
    unfold engaged at hv
    rcases ensureOpen_cases v s with ⟨hn, heq⟩ | ⟨-, -, heq⟩ | ⟨-, -, heq⟩
    · rw [heq] at hv
      exact hn hv
    · simp [trySend, heq] at hok
    · rw [heq] at hv
      exact absurd hv.1 (by simp [spawn])
  rcases trySend_eq_offer v item s with ⟨-, -, heq⟩ | heq
  · rw [heq] at hok
    cases hok
  · rw [heq] at hvac
    obtain ⟨hst, hterm⟩ := offer_frame v.queue item (s.engaged v)
    refine heng ((accountable_engaged v h).vacant_iff.2 ⟨?_, ?_⟩)
    · rw [← hst]
      exact hvac.2.1
    · rw [← hterm]
      exact hvac.2.2

/-- A session whose verdict is cached and whose sender is gone takes no byte any more. -/
def Spent (s : Session) : Prop := s.tx = none ∧ s.terminal.isSome

theorem spent_trySend (v : View) (item : Bytes) {s : Session} (h : Spent s) :
    s.trySend v item = (.ok .closed, s.record (.discarded item)) := by
  obtain ⟨htx, hterm⟩ := h
  have he : s.ensureOpen v = (.ok (), s) := by simp [ensureOpen, hterm]
  simp [trySend, he, offer, htx]

theorem spent_pollStatus (v : View) {s : Session} (h : Spent s) : (s.pollStatus v).2 = s := by
  rcases pollStatus_keeps_or_joins v s with heq | ⟨joined, hterm, -, -, -⟩
  · exact heq
  · have hs := h.2
    rw [hterm] at hs
    cases hs

theorem spent_eof {s : Session} (h : Spent s) : s.eof = s := eof_of_none h.1

theorem vacant_or_spent_of_not_isOpen {s : Session} (h : s.isOpen = false) :
    Vacant s ∨ Spent s := by
  obtain ⟨htx, hst⟩ := (isOpen_eq_false_iff s).1 h
  cases hterm : s.terminal with
  | none => exact Or.inl ⟨htx, hst, hterm⟩
  | some verdict => exact Or.inr ⟨htx, by simp [hterm]⟩

/-- Sending adds the block to the bytes taken, or nothing. What is still to be sent afterwards
is the block itself after `Feed::Full`. -/
theorem trySend_bytes (v : View) (item : Bytes) (s : Session) :
    ((∃ n, (s.trySend v item).1 = .ok (.ok n)) ∧
        (s.trySend v item).2.fedBytes = s.fedBytes ++ item) ∨
      ((s.trySend v item).1 = .ok (.full item) ∧ (s.trySend v item).2.fedBytes = s.fedBytes) ∨
      (((s.trySend v item).1 = .ok .closed ∨
          (s.trySend v item).1 = .error restartPendingError) ∧
        (s.trySend v item).2.fedBytes = s.fedBytes) := by
  rcases trySend_eq_offer v item s with ⟨-, -, heq⟩ | heq
  · rw [heq]
    exact Or.inr (Or.inr ⟨Or.inr rfl, rfl⟩)
  · rw [heq]
    rcases offer_cases v.queue item (s.engaged v) with
      ⟨-, ho⟩ | ⟨k, -, -, ho⟩ | ⟨k, -, -, ho⟩ | ⟨k, -, -, ho⟩
    · rw [ho]
      refine Or.inr (Or.inr ⟨Or.inl rfl, ?_⟩)
      simp [SessionEvent.fedBlock]
    · rw [ho]
      refine Or.inl ⟨⟨item.length, rfl⟩, ?_⟩
      simp [SessionEvent.fedBlock]
    · rw [ho]
      exact Or.inr (Or.inl ⟨rfl, fedBytes_engaged v s⟩)
    · rw [ho]
      refine Or.inr (Or.inr ⟨Or.inl rfl, ?_⟩)
      simp [SessionEvent.fedBlock]

/-- The block is taken from the producer, or it is offered in vain. -/
theorem trySend_handed (v : View) (item : Bytes) (s : Session) :
    (((∃ n, (s.trySend v item).1 = .ok (.ok n)) ∨ (s.trySend v item).1 = .ok .closed) ∧
        (s.trySend v item).2.handedBytes = s.handedBytes ++ item) ∨
      (((s.trySend v item).1 = .ok (.full item) ∨
          (s.trySend v item).1 = .error restartPendingError) ∧
        (s.trySend v item).2.handedBytes = s.handedBytes) := by
  rcases trySend_eq_offer v item s with ⟨-, -, heq⟩ | heq
  · rw [heq]
    exact Or.inr ⟨Or.inr rfl, rfl⟩
  · rw [heq]
    rcases offer_cases v.queue item (s.engaged v) with
      ⟨-, ho⟩ | ⟨k, -, -, ho⟩ | ⟨k, -, -, ho⟩ | ⟨k, -, -, ho⟩
    · rw [ho]
      exact Or.inl ⟨Or.inr rfl, by simp [SessionEvent.handedBlock]⟩
    · rw [ho]
      exact Or.inl ⟨Or.inl ⟨item.length, rfl⟩, by simp [SessionEvent.handedBlock]⟩
    · rw [ho]
      exact Or.inr ⟨Or.inl rfl, handedBytes_engaged v s⟩
    · rw [ho]
      refine Or.inl ⟨Or.inr rfl, ?_⟩
      rw [handedBytes_record]
      exact congrArg (· ++ item) (handedBytes_engaged v s)

/-- A block that comes back is the one that was offered. -/
theorem trySend_handed_full {v : View} {item block : Bytes} {s s' : Session}
    (h : s.trySend v item = (.ok (.full block), s')) :
    block = item ∧ s'.handedBytes = s.handedBytes := by
  have hhanded := trySend_handed v item s
  rw [h] at hhanded
  rcases hhanded with ⟨⟨n, hr⟩ | hr, -⟩ | ⟨hr | hr, hh⟩
  · cases hr
  · cases hr
  · cases hr
    exact ⟨rfl, hh⟩
  · cases hr

/-- A block that does not come back was taken. -/
theorem trySend_handed_taken {v : View} {item : Bytes} {s s' : Session} {feed : Feed}
    (h : s.trySend v item = (.ok feed, s')) (htaken : ∀ block, feed ≠ .full block) :
    s'.handedBytes = s.handedBytes ++ item := by
  have hhanded := trySend_handed v item s
  rw [h] at hhanded
  rcases hhanded with ⟨-, hh⟩ | ⟨hr | hr, -⟩
  · exact hh
  · exact absurd (Except.ok.inj hr) (htaken item)
  · cases hr

/-- Nothing but the block is added. -/
theorem trySend_sublist (v : View) (item : Bytes) (s : Session) :
    (s.trySend v item).2.fedBytes.Sublist (s.fedBytes ++ item) := by
  rcases trySend_bytes v item s with ⟨-, hb⟩ | ⟨-, hb⟩ | ⟨-, hb⟩
  · rw [hb]
  · rw [hb]
    exact List.sublist_append_left _ _
  · rw [hb]
    exact List.sublist_append_left _ _

/-! ## Failure verdicts -/

/-- No failure is cached. -/
def Unfailed (s : Session) : Prop := ∀ text, s.terminal ≠ some (.error text)

theorem unfailed_new (params : SwupdateParams) (n : Nat) : Unfailed (new params n) := by
  intro text h
  cases h

theorem terminal_engaged (v : View) (s : Session) : (s.engaged v).terminal = s.terminal := by
  rcases engaged_cases v s with heq | ⟨-, heq⟩
  · rw [heq]
  · rw [heq]
    rfl

theorem unfailed_trySend (v : View) (item : Bytes) {s : Session} (h : Unfailed s) :
    Unfailed (s.trySend v item).2 := by
  intro text ht
  rcases trySend_eq_offer v item s with ⟨-, -, heq⟩ | heq
  · rw [heq] at ht
    exact h text ht
  · rw [heq] at ht
    obtain ⟨-, hterm⟩ := offer_frame v.queue item (s.engaged v)
    exact h text (by rw [← terminal_engaged v s, ← hterm]; exact ht)

theorem unfailed_eof {s : Session} (h : Unfailed s) : Unfailed s.eof := by
  intro text ht
  rw [terminal_eof] at ht
  exact h text ht

/-- Settling answers with a failure, or with success and a cached success. -/
theorem settle_cases (joined : Joined) (s : Session) :
    (∃ err, (s.settle joined).1 = .error err) ∨
      (joined = .done (.ok ()) ∧ (s.settle joined).1 = .ok () ∧
        (s.settle joined).2.terminal = some (.ok ())) := by
  unfold settle
  cases joined with
  | panicked text => exact Or.inl ⟨_, rfl⟩
  | done result =>
      cases result with
      | error err => exact Or.inl ⟨err, rfl⟩
      | ok u =>
          refine Or.inr ⟨rfl, rfl, ?_⟩
          unfold markComplete
          cases s.updateType <;> rfl

theorem unfailed_pollStatus (v : View) {s : Session} (h : Unfailed s)
    (hr : ∀ err, (s.pollStatus v).1 ≠ some (.error err)) : Unfailed (s.pollStatus v).2 := by
  rcases pollStatus_keeps_or_joins v s with heq | ⟨joined, -, -, -, heq⟩
  · rw [heq]
    exact h
  · rw [heq] at hr ⊢
    intro text ht
    -- a failure that is cached here was answered by this very poll
    rcases settle_cases joined { s with status := none } with ⟨err, herr⟩ | ⟨-, -, hterm⟩
    · exact hr err (by rw [← herr])
    · have hterm' := hterm.symm.trans ht
      cases hterm'

end Session

/-- The status task has ended without success. -/
def View.reportsFailure (v : View) : Prop :=
  match v.task with
  | some (.done (.error _)) | some (.panicked _) => True
  | _ => False

namespace Session

/-- A failure verdict comes from the status task, or there is no transfer at all. -/
theorem pollStatus_failure {v : View} {s : Session} {err : IoError} (h : Unfailed s)
    (hr : (s.pollStatus v).1 = some (.error err)) :
    (s.status.isSome ∧ v.reportsFailure) ∨ (s.status = none ∧ s.terminal = none) := by
  rcases pollStatus_cases v s with
    ⟨-, heq⟩ | ⟨text, hterm, -⟩ | ⟨hterm, hst, -⟩ | ⟨-, -, -, heq⟩ | ⟨joined, -, hst, htask, heq⟩
  · rw [heq] at hr
    cases hr
  · exact absurd hterm (h text)
  · -- "no update in progress"
    exact Or.inr ⟨hst, hterm⟩
  · rw [heq] at hr
    cases hr
  · refine Or.inl ⟨hst, ?_⟩
    rw [heq] at hr
    unfold View.reportsFailure
    rw [htask]
    cases joined with
    | panicked text => exact trivial
    | done result =>
        cases result with
        | error e => exact trivial
        | ok u => simp [settle] at hr

end Session

end SummitUsbgadget.Swupdate
