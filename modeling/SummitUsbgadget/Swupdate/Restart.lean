import Mathlib.Logic.Function.Basic
import SummitUsbgadget.Swupdate.Feed

/-!
# The restart gate

All sessions of the process share `RESTART_PENDING`. A success verdict does not set it: it spawns a
task, and that task sets it for an update of a slot, whenever it gets to run. Until then a session
that opens starts a backend. `restart_gate_iff` says that a call that would start a backend is
rejected exactly if such a task has run; `backend_started_after_success` is a run in which a second
session starts one in between.
-/

set_option autoImplicit false

namespace SummitUsbgadget.Swupdate

open SummitUsbgadget.Lib

/-- `restart::on_update_success`, up to the restart itself: the flag it leaves. -/
def onUpdateSuccess (updateType : EffectiveUpdateType) (restartPending : Bool) : Bool :=
  if updateType.isComplete then restartPending else true

/-- The restart task that an event spawns. -/
def SessionEvent.task : SessionEvent → Option EffectiveUpdateType
  | .restartTask updateType => some updateType
  | _ => none

namespace Session

/-- The call, made while the flag is as given. -/
def Op.seeing (restartPending : Bool) : Op → Op :=
  Op.mapView fun v => { v with restartPending := restartPending }

/-- What the call returns, as far as it can fail; a poll that finds nothing is no failure. -/
def outcome (s : Session) : Op → Except IoError Unit
  | .open v => (s.openSession v).1
  | .trySend v item => (s.trySend v item).1.map fun _ => ()
  | .send v accepted item => (s.send v accepted item).1.map fun _ => ()
  | .eof => .ok ()
  | .finished v => (s.pollStatus v).1.getD (.ok ())
  | .tryFinished v => (s.tryFinished v).1.getD (.ok ())
  | .abort => .ok ()

/-- The verdict that the call returns. -/
def verdict (s : Session) : Op → Option (Except IoError Unit)
  | .finished v => (s.pollStatus v).1
  | .tryFinished v => (s.tryFinished v).1
  | _ => none

/-- The restart tasks that were spawned on the way from `s` to `t`. -/
def tasksSince (s t : Session) : List EffectiveUpdateType :=
  (s.since t).filterMap SessionEvent.task

end Session

/-! ## Calls that start a backend -/

namespace Session

/-- With the gate open, the call would start a backend. -/
def Starts (d : Session) (op : Op) : Prop := (d.apply (op.seeing false)).spawns = d.spawns + 1

/-- The call is rejected because a restart is pending, and starts nothing. -/
def Rejects (d : Session) (op : Op) : Prop :=
  d.outcome op = .error restartPendingError ∧ (d.apply op).spawns = d.spawns

theorem spawns_pollStatus (v : View) (s : Session) : (s.pollStatus v).2.spawns = s.spawns :=
  pollStatus_keeps (P := fun d => d.spawns = s.spawns) rfl
    (fun joined => (settle_facts joined { s with status := none }).2.2.1) v

/-- A feeding call that starts a backend is made on a vacant session. -/
theorem vacant_of_ensureOpen_spawns {v : View} {d : Session}
    (h : (d.ensureOpen v).2.spawns = d.spawns + 1) : Vacant d := by
  by_contra hvac
  rw [ensureOpen_of_not_vacant hvac] at h
  simp at h

theorem spawns_trySend (v : View) (item : Bytes) (d : Session) :
    (d.trySend v item).2.spawns = (d.ensureOpen v).2.spawns :=
  trySend_keeps (P := fun d' => d'.spawns = (d.ensureOpen v).2.spawns) rfl fun d' h =>
    (spawns_offer v.queue item d').trans h

theorem spawns_send (v : View) (accepted : Bool) (item : Bytes) (d : Session) :
    (d.send v accepted item).2.spawns = (d.ensureOpen v).2.spawns := by
  rw [send_eq_trySend]
  exact spawns_trySend _ item d

/-- Whether a call that would start a backend is rejected depends on the flag alone. -/
theorem Starts.rejects_iff {d : Session} {op : Op} (h : Starts d op) (restartPending : Bool) :
    Rejects d (op.seeing restartPending) ↔ restartPending = true := by
  unfold Starts at h
  unfold Rejects
  cases op with
  | «open» v =>
      simp only [Op.seeing, Op.mapView, apply, outcome] at h ⊢
      rcases openSession_cases { v with restartPending := false } d with
        ⟨-, heq⟩ | ⟨-, hr, -⟩ | ⟨hclosed, -, -⟩
      · rw [heq] at h
        simp at h
      · cases hr
      · cases restartPending <;> simp [openSession, hclosed, rejectIfRestartPending]
  | trySend v item =>
      simp only [Op.seeing, Op.mapView, apply, outcome, spawns_trySend] at h ⊢
      have hvac := vacant_of_ensureOpen_spawns h
      cases restartPending <;> simp [trySend, ensureOpen_of_vacant hvac, Except.map]
  | send v accepted item =>
      simp only [Op.seeing, Op.mapView, apply, outcome, spawns_send] at h ⊢
      have hvac := vacant_of_ensureOpen_spawns h
      cases restartPending <;> simp [send, ensureOpen_of_vacant hvac, Except.map]
  | eof => simp [Op.seeing, Op.mapView, apply] at h
  | finished v => simp [Op.seeing, Op.mapView, apply, spawns_pollStatus] at h
  | tryFinished v => simp [Op.seeing, Op.mapView, apply, tryFinished, spawns_pollStatus] at h
  | abort => simp [Op.seeing, Op.mapView, apply, abort] at h

end Session

/-! ## The process -/

/-- The sessions of the process, the tasks that `mark_complete` has spawned and that have not run,
and `RESTART_PENDING`. The last two fields are ghosts. -/
structure Process (ι : Type) where
  sessions : ι → Session
  tasks : List EffectiveUpdateType
  restartPending : Bool
  /-- The types of the updates for which success was returned. -/
  successes : List EffectiveUpdateType
  /-- The tasks that have run. -/
  ran : List EffectiveUpdateType

namespace Process

variable {ι : Type}

/-- What happens next: a call on one of the sessions, or the turn of one of the tasks. -/
inductive Input (ι : Type) where
  | call (session : ι) (op : Session.Op)
  | task (n : Nat)

def new (params : ι → SwupdateParams) (maxBlockSize : ι → Nat) : Process ι where
  sessions i := Session.new (params i) (maxBlockSize i)
  tasks := []
  restartPending := false
  successes := []
  ran := []

/-- The update type that a returned success stands for. -/
def success (d : Session) (op : Session.Op) : List EffectiveUpdateType :=
  match d.verdict op with
  | some (.ok ()) => d.updateType.toList
  | _ => []

/-- A call on a session; the flag is read from the process. -/
def call [DecidableEq ι] (w : Process ι) (i : ι) (op : Session.Op) : Process ι :=
  let op := op.seeing w.restartPending
  let d := (w.sessions i).apply op
  { w with
    sessions := Function.update w.sessions i d
    tasks := w.tasks ++ (w.sessions i).tasksSince d
    successes := w.successes ++ success (w.sessions i) op }

/-- One of the tasks runs; they run in any order. -/
def runTask (w : Process ι) (n : Nat) : Process ι :=
  match w.tasks[n]? with
  | none => w
  | some updateType =>
      { w with
        tasks := w.tasks.eraseIdx n
        restartPending := onUpdateSuccess updateType w.restartPending
        ran := w.ran ++ [updateType] }

def step [DecidableEq ι] (w : Process ι) : Input ι → Process ι
  | .call i op => w.call i op
  | .task n => w.runTask n

/-- The flag is set exactly if the task of a slot update has run. -/
def Gated (w : Process ι) : Prop :=
  w.restartPending = true ↔ ∃ updateType ∈ w.ran, updateType.isComplete = false

theorem gated_new (params : ι → SwupdateParams) (maxBlockSize : ι → Nat) :
    Gated (new params maxBlockSize) := by
  simp [Gated, new]

theorem gated_runTask (w : Process ι) (n : Nat) (h : Gated w) : Gated (w.runTask n) := by
  unfold runTask
  split
  · exact h
  · next updateType _ =>
      -- a complete update leaves the flag alone, and is not counted either
      unfold Gated at h ⊢
      simp only [List.mem_append, List.mem_singleton, or_and_right, exists_or, exists_eq_left,
        onUpdateSuccess, ← h]
      cases updateType.isComplete <;> simp

theorem gated_step [DecidableEq ι] (w : Process ι) (i : Input ι) (h : Gated w) :
    Gated (w.step i) := by
  cases i with
  | call i op => exact h
  | task n => exact gated_runTask w n h

end Process

/-- In every run of the process, a call that would start a backend, made on any of its sessions, is
rejected exactly if a restart task of a slot update has run; a success that was returned is not
enough. -/
theorem restart_gate_iff {ι : Type} [DecidableEq ι] (params : ι → SwupdateParams)
    (maxBlockSize : ι → Nat) (is : List (Process.Input ι)) (i : ι) (op : Session.Op)
    (hstarts : ((run Process.step (Process.new params maxBlockSize) is).sessions i).Starts op) :
    ((run Process.step (Process.new params maxBlockSize) is).sessions i).Rejects
        (op.seeing (run Process.step (Process.new params maxBlockSize) is).restartPending) ↔
      ∃ updateType ∈ (run Process.step (Process.new params maxBlockSize) is).ran,
        updateType.isComplete = false := by
  have hgated : (run Process.step (Process.new params maxBlockSize) is).Gated :=
    run_invariant_of_step Process.gated_step is (Process.gated_new params maxBlockSize)
  rw [hstarts.rejects_iff]
  exact hgated

/-- SWUpdate is at work. -/
def atWork : View := ⟨false, ⟨"MMC", "a"⟩, .room, none⟩

/-- SWUpdate is done, with success. -/
def succeeded : View := ⟨false, ⟨"MMC", "a"⟩, .room, some (.done (.ok ()))⟩

/-- The first of two sessions installs an update and is told of the success. -/
def installed : List (Process.Input Bool) :=
  [.call false (.trySend atWork [1, 2, 3]), .call false .eof, .call false (.finished succeeded)]

/-- The task of the success runs after that. -/
def gateClosed : Process Bool :=
  run Process.step (Process.new (fun _ => .default) fun _ => 16384) (installed ++ [.task 0])

/-- After that task the second session cannot open any more. -/
theorem restart_gate_iff_closed :
    (gateClosed.sessions true).Starts (.open atWork) ∧
      (gateClosed.sessions true).Rejects
        ((Session.Op.open atWork).seeing gateClosed.restartPending) := by
  have hstarts : (gateClosed.sessions true).Starts (.open atWork) := rfl
  have hran : EffectiveUpdateType.slot "full-b" ∈ gateClosed.ran := by decide +kernel
  exact ⟨hstarts, (restart_gate_iff (fun _ => .default) (fun _ => 16384)
    (installed ++ [Process.Input.task 0]) true (.open atWork) hstarts).2
      ⟨.slot "full-b", hran, rfl⟩⟩

/-- The first session has returned success for a slot update, and the second one opens all the same:
the task that sets the flag has not run yet. -/
theorem backend_started_after_success :
    let w := run Process.step (Process.new (fun _ => .default) fun _ => 16384) installed
    w.successes = [.slot "full-b"] ∧ w.tasks = [.slot "full-b"] ∧
      ((w.sessions true).openSession
        { atWork with restartPending := w.restartPending }).1 = .ok () ∧
      ((w.call true (.open atWork)).sessions true).spawns = 1 := by
  decide +kernel

end SummitUsbgadget.Swupdate
