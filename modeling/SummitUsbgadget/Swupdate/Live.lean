import SummitUsbgadget.Lib.Machine
import SummitUsbgadget.Swupdate.Session

/-!
# Live transfers of a session

The operations of a session in any order, each with any view of the queue, the status task and
the restart flag, keep the handles consistent: both name the last transfer spawned, and a status
handle excludes a cached verdict. `openSession_live_iff` tells from that when a successful `open`
leaves a transfer that can be fed and whose verdict is still to come.
-/

set_option autoImplicit false

namespace SummitUsbgadget.Swupdate

open SummitUsbgadget.Lib

namespace Session

/-- One call on a session, with what the call sees. -/
inductive Op where
  | «open» (v : View)
  | trySend (v : View) (item : Bytes)
  | send (v : View) (accepted : Bool) (item : Bytes)
  | eof
  | finished (v : View)
  | tryFinished (v : View)
  | abort

/-- The call, seeing what `f` makes of its view. -/
def Op.mapView (f : View → View) : Op → Op
  | .open v => .open (f v)
  | .trySend v item => .trySend (f v) item
  | .send v accepted item => .send (f v) accepted item
  | .eof => .eof
  | .finished v => .finished (f v)
  | .tryFinished v => .tryFinished (f v)
  | .abort => .abort

/-- The session after one call. An awaited `finished` is the poll that ends the wait. -/
def apply (s : Session) : Op → Session
  | .open v => (s.openSession v).2
  | .trySend v item => (s.trySend v item).2
  | .send v accepted item => (s.send v accepted item).2
  | .eof => s.eof
  | .finished v => (s.pollStatus v).2
  | .tryFinished v => (s.tryFinished v).2
  | .abort => s.abort

/-- Consistency of the handles. -/
structure Consistent (s : Session) : Prop where
  tx_last : ∀ k, s.tx = some k → k + 1 = s.spawns
  status_last : ∀ k, s.status = some k → k + 1 = s.spawns
  status_terminal : s.status.isSome → s.terminal = none
  tx_verdict : s.tx.isSome → s.status.isSome ∨ s.terminal.isSome

/-- A transfer that can be fed and whose verdict is still to come. -/
def Live (s : Session) : Prop :=
  ∃ k, s.tx = some k ∧ s.status = some k ∧ s.terminal = none

theorem consistent_new (params : SwupdateParams) (n : Nat) : Consistent (new params n) where
  tx_last := by simp [new]
  status_last := by simp [new]
  status_terminal := by simp [new]
  tx_verdict := by simp [new]

theorem consistent_spawn (v : View) {s : Session} (h : s.terminal = none) :
    Consistent (s.spawn v) where
  tx_last := by simp [spawn]
  status_last := by simp [spawn]
  status_terminal := by simp [spawn, h]
  tx_verdict := by simp [spawn]

theorem isOpen_eq_false_iff (s : Session) :
    s.isOpen = false ↔ s.tx = none ∧ s.status = none := by
  simp [isOpen]

/-- `open` returns at once on an open session, is rejected while a restart is pending, or
spawns a new transfer with no verdict cached. -/
theorem openSession_cases (v : View) (s : Session) :
    (s.isOpen = true ∧ s.openSession v = (.ok (), s)) ∨
      (s.isOpen = false ∧ v.restartPending = true ∧
        s.openSession v = (.error restartPendingError, { s with terminal := none })) ∨
      (s.isOpen = false ∧ v.restartPending = false ∧
        s.openSession v = (.ok (), { s with terminal := none }.spawn v)) := by
  unfold openSession rejectIfRestartPending
  cases ho : s.isOpen with
  | true => simp
  | false => cases hr : v.restartPending <;> simp

theorem consistent_openSession (v : View) {s : Session} (h : Consistent s) :
    Consistent (s.openSession v).2 := by
  rcases openSession_cases v s with ⟨-, heq⟩ | ⟨ho, -, heq⟩ | ⟨-, -, heq⟩
  · rw [heq]
    exact h
  · rw [heq]
    obtain ⟨htx, hst⟩ := (isOpen_eq_false_iff s).1 ho
    exact ⟨by simp [htx], by simp [hst], by simp, by simp [htx]⟩
  · rw [heq]
    exact consistent_spawn v rfl

theorem consistent_ensureOpen (v : View) {s : Session} (h : Consistent s) :
    Consistent (s.ensureOpen v).2 := by
  unfold ensureOpen
  split
  · exact h
  · exact consistent_openSession v h

theorem consistent_offer (q : QueueView) (item : Bytes) {s : Session} (h : Consistent s) :
    Consistent (s.offer q item).2 := by
  obtain ⟨h1, h2, h3, h4⟩ := h
  unfold offer
  cases htx : s.tx with
  | none => exact ⟨by simp [record, htx], h2, h3, by simp [record, htx]⟩
  | some k =>
      cases q with
      | room => exact ⟨h1, h2, h3, h4⟩
      | full => exact ⟨h1, h2, h3, h4⟩
      -- the receiver is gone, so the sender is dropped and names no transfer any more
      | closed => exact ⟨by simp [record], h2, h3, by simp [record]⟩

/-- What holds of the session behind `ensure_open`, and what an offer keeps, holds behind a send. -/
theorem trySend_keeps {P : Session → Prop} {v : View} {item : Bytes} {s : Session}
    (hopen : P (s.ensureOpen v).2) (hoffer : ∀ s', P s' → P (s'.offer v.queue item).2) :
    P (s.trySend v item).2 := by
  unfold trySend
  generalize s.ensureOpen v = r at hopen
  obtain ⟨res, s'⟩ := r
  cases res with
  | error err => exact hopen
  | ok u => exact hoffer s' hopen

/-- A resolved `send` is a `try_send` that met the queue as it was when the wait ended. -/
theorem send_eq_trySend (v : View) (accepted : Bool) (item : Bytes) (s : Session) :
    s.send v accepted item =
      s.trySend { v with queue := if accepted then .room else .closed } item := rfl

theorem consistent_trySend (v : View) (item : Bytes) {s : Session} (h : Consistent s) :
    Consistent (s.trySend v item).2 :=
  trySend_keeps (consistent_ensureOpen v h) fun _ => consistent_offer v.queue item

theorem consistent_send (v : View) (accepted : Bool) (item : Bytes) {s : Session}
    (h : Consistent s) : Consistent (s.send v accepted item).2 := by
  rw [send_eq_trySend]
  exact consistent_trySend _ item h

/-- Without a sender `eof` does nothing. -/
theorem eof_of_none {s : Session} (h : s.tx = none) : s.eof = s := by
  rw [eof, h]

theorem eof_of_some {s : Session} {k : Nat} (h : s.tx = some k) :
    s.eof = { s with tx := none }.record (.eof k) := by
  rw [eof, h]

/-- What holds of the session, and still does when its sender is dropped, holds behind `eof`. -/
theorem eof_keeps {P : Session → Prop} {s : Session} (h : P s)
    (hdrop : ∀ k, s.tx = some k → P ({ s with tx := none }.record (.eof k))) : P s.eof := by
  cases htx : s.tx with
  | none =>
      rw [eof_of_none htx]
      exact h
  | some k =>
      rw [eof_of_some htx]
      exact hdrop k htx

theorem consistent_eof {s : Session} (h : Consistent s) : Consistent s.eof :=
  eof_keeps h fun _ _ => ⟨by simp [record], h.status_last, h.status_terminal, by simp [record]⟩

/-- Settling caches a verdict and leaves the handles alone. -/
theorem settle_facts (joined : Joined) (s : Session) :
    (s.settle joined).2.tx = s.tx ∧ (s.settle joined).2.status = s.status ∧
      (s.settle joined).2.spawns = s.spawns ∧ (s.settle joined).2.terminal.isSome := by
  unfold settle markComplete
  cases joined with
  | panicked text => simp
  | done result =>
      cases result with
      | error err => simp
      | ok u => cases s.updateType <;> simp [record]

/-- A poll repeats the cached verdict, reports that there is no transfer, finds the status task
running, or joins it. -/
theorem pollStatus_cases (v : View) (s : Session) :
    (s.terminal = some (.ok ()) ∧ s.pollStatus v = (some (.ok ()), s)) ∨
      (∃ text, s.terminal = some (.error text) ∧
        s.pollStatus v = (some (.error (IoError.other text)), s)) ∨
      (s.terminal = none ∧ s.status = none ∧ s.pollStatus v =
        (some (.error (IoError.new .notConnected "no update in progress")), s)) ∨
      (s.terminal = none ∧ s.status.isSome ∧ v.task = none ∧ s.pollStatus v = (none, s)) ∨
      (∃ joined, s.terminal = none ∧ s.status.isSome ∧ v.task = some joined ∧
        s.pollStatus v = (some ({ s with status := none }.settle joined).1,
          ({ s with status := none }.settle joined).2)) := by
  unfold pollStatus
  cases ht : s.terminal with
  | some verdict => cases verdict <;> simp
  | none =>
      cases hs : s.status with
      | none => simp
      | some k => cases hv : v.task <;> simp

/-- Only the poll that joins the status task changes the session. -/
theorem pollStatus_keeps_or_joins (v : View) (s : Session) :
    (s.pollStatus v).2 = s ∨
      ∃ joined, s.terminal = none ∧ s.status.isSome ∧ v.task = some joined ∧
        s.pollStatus v = (some ({ s with status := none }.settle joined).1,
          ({ s with status := none }.settle joined).2) := by
  rcases pollStatus_cases v s with ⟨-, heq⟩ | ⟨text, -, heq⟩ | ⟨-, -, heq⟩ | ⟨-, -, -, heq⟩ | hjoins
  · exact Or.inl (by rw [heq])
  · exact Or.inl (by rw [heq])
  · exact Or.inl (by rw [heq])
  · exact Or.inl (by rw [heq])
  · exact Or.inr hjoins

/-- What a poll leaves is known from what joining the status task leaves. -/
theorem pollStatus_keeps {P : Session → Prop} {s : Session} (h : P s)
    (hjoin : ∀ joined, P ({ s with status := none }.settle joined).2) (v : View) :
    P (s.pollStatus v).2 := by
  rcases pollStatus_keeps_or_joins v s with heq | ⟨joined, -, -, -, heq⟩
  · rw [heq]
    exact h
  · rw [heq]
    exact hjoin joined

theorem consistent_pollStatus (v : View) {s : Session} (h : Consistent s) :
    Consistent (s.pollStatus v).2 := by
  refine pollStatus_keeps h (fun joined => ?_) v
  -- the status handle is gone, and the verdict it gave is cached in its place
  obtain ⟨htx, hst, hsp, hterm⟩ := settle_facts joined { s with status := none }
  refine ⟨fun j hj => ?_, fun j hj => ?_, fun hsome => ?_, fun _ => Or.inr hterm⟩
  · rw [htx] at hj
    rw [hsp]
    exact h.tx_last j hj
  · rw [hst] at hj
    cases hj
  · rw [hst] at hsome
    simp at hsome

theorem consistent_abort (s : Session) : Consistent s.abort where
  tx_last := by simp [abort]
  status_last := by simp [abort]
  status_terminal := by simp [abort]
  tx_verdict := by simp [abort]

/-- Every call keeps the handles consistent. -/
theorem consistent_apply (s : Session) (op : Op) (h : Consistent s) : Consistent (s.apply op) := by
  cases op with
  | «open» v => exact consistent_openSession v h
  | trySend v item => exact consistent_trySend v item h
  | send v accepted item => exact consistent_send v accepted item h
  | eof => exact consistent_eof h
  | finished v => exact consistent_pollStatus v h
  | tryFinished v => exact consistent_pollStatus v h
  | abort => exact consistent_abort s

/-- After any calls on a new session the handles are consistent. -/
theorem consistent_run (params : SwupdateParams) (n : Nat) (ops : List Op) :
    Consistent (run apply (new params n) ops) :=
  run_invariant_of_step consistent_apply ops (consistent_new params n)

theorem live_iff_of_consistent {s : Session} (h : Consistent s) :
    Live s ↔ s.tx.isSome ∧ s.status.isSome := by
  constructor
  · rintro ⟨k, htx, hst, -⟩
    simp [htx, hst]
  · rintro ⟨htx, hst⟩
    obtain ⟨i, hi⟩ := Option.isSome_iff_exists.1 htx
    obtain ⟨j, hj⟩ := Option.isSome_iff_exists.1 hst
    -- both handles name the last transfer that was spawned
    have hij : i = j := by
      have h1 := h.tx_last i hi
      have h2 := h.status_last j hj
      omega
    exact ⟨i, hi, hij ▸ hj, h.status_terminal hst⟩

theorem live_spawn (v : View) {s : Session} (h : s.terminal = none) : Live (s.spawn v) :=
  ⟨s.spawns, rfl, rfl, h⟩

/-- The verdict of a live transfer is the one its status task reports. -/
theorem pollStatus_of_live {s : Session} (h : Live s) (v : View) :
    (s.pollStatus v).1 = v.task.map fun joined => ({ s with status := none }.settle joined).1 := by
  obtain ⟨k, -, hst, hterm⟩ := h
  unfold pollStatus
  rw [hterm, hst]
  cases v.task <;> rfl

/-! ## What a successful `open` leaves behind -/

/-- If `open` succeeds, it leaves a live transfer, and the next verdict is the one that the
status task of this transfer reports. -/
def OpensLive (v : View) (s : Session) : Prop :=
  (s.openSession v).1 = .ok () →
    Live (s.openSession v).2 ∧
      ∀ w : View, ((s.openSession v).2.pollStatus w).1 =
        w.task.map fun joined => ({ (s.openSession v).2 with status := none }.settle joined).1

/-- After any calls on a new session, `open` leaves a live transfer exactly when the session was
closed or was live already. A session with only one of its handles counts as open, and `open`
returns `Ok` on it without spawning anything. -/
theorem openSession_live_iff (params : SwupdateParams) (n : Nat) (ops : List Op) (v : View) :
    OpensLive v (run apply (new params n) ops) ↔
      (run apply (new params n) ops).isOpen = false ∨
        ((run apply (new params n) ops).tx.isSome ∧
          (run apply (new params n) ops).status.isSome) := by
  have hc := consistent_run params n ops
  generalize run apply (new params n) ops = s at hc
  unfold OpensLive
  rcases openSession_cases v s with ⟨ho, heq⟩ | ⟨ho, -, heq⟩ | ⟨ho, -, heq⟩
  · -- one handle is enough for `open` to return at once
    rw [heq, ho]
    constructor
    · intro h
      exact Or.inr ((live_iff_of_consistent hc).1 (h rfl).1)
    · rintro (h | h) -
      · cases h
      · have hl := (live_iff_of_consistent hc).2 h
        exact ⟨hl, pollStatus_of_live hl⟩
  · -- rejected, so nothing is promised
    rw [heq]
    exact ⟨fun _ => Or.inl ho, fun _ h => by cases h⟩
  · rw [heq]
    have hl : Live ({ s with terminal := none }.spawn v) := live_spawn v rfl
    exact ⟨fun _ => Or.inl ho, fun _ _ => ⟨hl, pollStatus_of_live hl⟩⟩

/-- The first image is accepted by SWUpdate while its sender is still held; `open` for the second
image then succeeds without a new transfer, and the second image is answered with the verdict of
the first although no status task exists. -/
theorem openSession_answers_with_cached_verdict :
    let quiet : View := ⟨false, ⟨"mmc", "a"⟩, .room, none⟩
    let accepted : View := ⟨false, ⟨"mmc", "a"⟩, .room, some (.done (.ok ()))⟩
    let s := run apply (new .default 16384)
      [.open quiet, .trySend quiet [1, 2, 3], .tryFinished accepted]
    let t := run apply (s.openSession quiet).2 [.trySend quiet [4, 5, 6], .eof]
    (s.openSession quiet).1 = .ok () ∧ ¬ Live (s.openSession quiet).2 ∧
      ¬ OpensLive quiet s ∧ t.spawns = 1 ∧ t.status = none ∧
      (t.pollStatus quiet).1 = some (.ok ()) := by
  intro quiet accepted s t
  have hlive : ¬ Live (s.openSession quiet).2 := by
    rintro ⟨k, -, hst, -⟩
    cases hst
  exact ⟨rfl, hlive, fun h => hlive (h rfl).1, rfl, rfl, rfl⟩

end Session

end SummitUsbgadget.Swupdate
