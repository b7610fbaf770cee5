import SummitUsbgadget.Lib.Hoare
import SummitUsbgadget.Swupdate.Feed

/-!
# The session in a waiting program

The operations of `SwupdateSession` as the transports call them, from coroutines: each puts a query
where it waits and where it looks at the queue, the status task or the restart flag. They are
written once for every state that holds a session (`HasSession`) and for all surroundings that
answer its queries (`AnswersSession`).
-/

set_option autoImplicit false

namespace SummitUsbgadget.Swupdate

open SummitUsbgadget.Lib

/-- What a session operation asks for. -/
inductive SessionQuery where
  /-- A look at the session's surroundings. -/
  | look
  /-- A free slot in the session's queue; `false` if the receiver went away instead. -/
  | slot
  /-- The end of the status task. -/
  | join
  /-- The end of the aborted status task. -/
  | reap
  deriving DecidableEq, Repr

@[reducible] def SessionQuery.Answer : SessionQuery → Type
  | .look => View
  | .slot => Bool
  | .join => Joined
  | .reap => Unit

/-- A state that holds a session. -/
class HasSession (S : Type) where
  session : S → Session
  setSession : Session → S → S
  session_setSession : ∀ d s, session (setSession d s) = d
  setSession_setSession : ∀ d d' s, setSession d (setSession d' s) = setSession d s
  setSession_session : ∀ s, setSession (session s) s = s

/-- Surroundings that answer the queries of a session. -/
class AnswersSession (Q : Type) (A : Q → Type) where
  query : SessionQuery → Q
  answer : (q : SessionQuery) → A (query q) → q.Answer

open HasSession

attribute [simp] session_setSession setSession_setSession setSession_session

section Operations

variable {S Q : Type} {A : Q → Type} [HasSession S] [AnswersSession Q A] {α β : Type}

/-- The `n`-th answer, to a query of the session. -/
def answered (o : Oracle Q A) (n : Nat) (q : SessionQuery) : q.Answer :=
  AnswersSession.answer q (o n (AnswersSession.query A q))

/-- Puts a query of the session. -/
def askSession (q : SessionQuery) : Program S Q A q.Answer :=
  Program.ask (AnswersSession.query A q) >>= fun r => Pure.pure (AnswersSession.answer q r)

/-- Calls an operation of the session that does not wait. -/
def onSession (f : Session → α × Session) : Program S Q A α :=
  Program.act fun s => ((f (session s)).1, setSession (f (session s)).2 s)

def openSession : Program S Q A (Except IoError Unit) := do
  let v : View ← askSession .look
  onSession fun d => d.openSession v

def trySend (item : Bytes) : Program S Q A (Except IoError Feed) := do
  let v : View ← askSession .look
  onSession fun d => d.trySend v item

/-- `SwupdateSession::send`: waits for a slot if there is a sender. -/
def send (item : Bytes) : Program S Q A (Except IoError Feed) := do
  let v : View ← askSession .look
  let opened ← onSession fun d => d.ensureOpen v
  match opened with
  | .error err => pure (.error err)
  | .ok () => do
      let tx ← Program.read fun s : S => (session s).tx
      if tx.isNone then
        -- the cached verdict stands for a sender that is gone; nothing is waited for
        onSession fun d => (.ok (d.offer .closed item).1, (d.offer .closed item).2)
      else do
        let accepted : Bool ← askSession .slot
        let q := if accepted then QueueView.room else QueueView.closed
        onSession fun d => (.ok (d.offer q item).1, (d.offer q item).2)

def tryFinished : Program S Q A (Option (Except IoError Unit)) := do
  let v : View ← askSession .look
  onSession fun d => d.tryFinished v

/-- The verdict that needs no waiting: a cached one, or that there is no transfer. -/
def cachedVerdict (d : Session) : Option (Except IoError Unit) :=
  match d.terminal with
  | some (.ok ()) => some (.ok ())
  | some (.error text) => some (.error (IoError.other text))
  | none =>
      match d.status with
      | none => some (.error (IoError.new .notConnected "no update in progress"))
      | some _ => none

/-- `SwupdateSession::finished`: waits for the status task, unless there is a verdict. -/
def finished : Program S Q A (Except IoError Unit) := do
  let cached ← Program.read fun s : S => cachedVerdict (session s)
  match cached with
  | some result => pure result
  | none => do
      let joined : Joined ← askSession .join
      onSession fun d => { d with status := none }.settle joined

/-- The part of `abort` before the wait: the handles go, and the status task is told to stop. -/
def releaseHandles (d : Session) : Session :=
  { d with
    tx := none
    recycleRx := none
    status := none
    history := d.history ++ [.aborted] }

/-- `SwupdateSession::abort`: waits for the status task, if there is one. -/
def abort : Program S Q A Unit := do
  let status ← Program.read fun s : S => (session s).status
  onSession fun d => ((), releaseHandles d)
  if status.isSome then do
    let _ ← askSession .reap
    onSession fun d => ((), { d with terminal := none })
  else onSession fun d => ((), { d with terminal := none })

/-- `PumpToSwupdateEnd`: the source is exhausted, or SWUpdate has a verdict. -/
inductive PumpEnd where
  | inputClosed
  | swupdateFinished (result : Except IoError Unit)

/-- The look at the verdict before a block is sent, if the session counts as open. -/
def peekVerdict : Program S Q A (Option (Except IoError Unit)) := do
  let isOpen ← Program.read fun s : S => (session s).isOpen
  if isOpen then tryFinished else pure none

/-- `pump_to_swupdate`, for at most `n` blocks. -/
def pumpToSwupdate (nextBlock : Program S Q A (Except IoError (Option Bytes))) :
    Nat → Program S Q A (Except IoError PumpEnd)
  -- the loop of the source has no bound; `pumpToSwupdate_pumps` shows which ones suffice
  | 0 => pure (.ok .inputClosed)
  | n + 1 =>
      Program.attempt nextBlock fun
        | none => pure (.ok .inputClosed)
        | some block => do
            let seen ← peekVerdict
            match seen with
            | some result => pure (.ok (.swupdateFinished result))
            | none =>
                Program.attempt (send block) fun
                  | .closed => do
                      -- SWUpdate has stopped reading, so its verdict is due
                      let result ← finished
                      pure (.ok (.swupdateFinished result))
                  | _ => pumpToSwupdate nextBlock n

end Operations

/-! ## What the operations do -/

section Exec

open SummitUsbgadget.Lib.Program

variable {S Q : Type} {A : Q → Type} {α β : Type} (s : S) (o : Oracle Q A)

@[simp] theorem exec_askSession_bind [AnswersSession Q A] (q : SessionQuery)
    (g : q.Answer → Program S Q A β) :
    exec (askSession q >>= g) s o = exec (g (answered o 0 q)) s o.rest := rfl

variable [HasSession S]

@[simp] theorem exec_onSession (f : Session → α × Session) :
    exec (onSession f : Program S Q A α) s o =
      ((f (session s)).1, setSession (f (session s)).2 s, o) := rfl

@[simp] theorem exec_onSession_bind (f : Session → α × Session) (g : α → Program S Q A β) :
    exec (onSession f >>= g) s o =
      exec (g (f (session s)).1) (setSession (f (session s)).2 s) o := rfl

variable [AnswersSession Q A]

theorem exec_openSession :
    exec (openSession : Program S Q A _) s o =
      (((session s).openSession (answered o 0 .look)).1,
        setSession ((session s).openSession (answered o 0 .look)).2 s, o.rest) := rfl

theorem exec_trySend (item : Bytes) :
    exec (trySend item : Program S Q A _) s o =
      (((session s).trySend (answered o 0 .look) item).1,
        setSession ((session s).trySend (answered o 0 .look) item).2 s, o.rest) := rfl

theorem exec_tryFinished :
    exec (tryFinished : Program S Q A _) s o =
      (((session s).tryFinished (answered o 0 .look)).1,
        setSession ((session s).tryFinished (answered o 0 .look)).2 s, o.rest) := rfl

/-- `send` is the session's `send` with the outcome of the wait. -/
theorem exec_send (item : Bytes) :
    (exec (send item : Program S Q A _) s o).1 =
        ((session s).send (answered o 0 .look) (answered o 1 .slot) item).1 ∧
      (exec (send item : Program S Q A _) s o).2.1 =
        setSession ((session s).send (answered o 0 .look) (answered o 1 .slot) item).2 s := by
  unfold send Session.send
  rw [exec_askSession_bind, exec_onSession_bind]
  generalize (session s).ensureOpen (answered o 0 .look) = r
  obtain ⟨res, d⟩ := r
  cases res with
  | error err => exact ⟨rfl, rfl⟩
  | ok u =>
      simp only [exec_read_bind, exec_ite, session_setSession]
      -- without a sender the queue is not looked at, so the second answer does not matter
      cases htx : d.tx with
      | none => simp [Session.offer, htx]
      | some k =>
          rw [if_neg (by simp), exec_askSession_bind, exec_onSession, session_setSession,
            setSession_setSession]
          exact ⟨rfl, rfl⟩

/-- Where there is a sender once the session is open, `send` waits for a slot and offers the block
to a queue that has room or is closed. -/
theorem exec_send_opened (item : Bytes) {d : Session}
    (hopen : (session s).ensureOpen (answered o 0 .look) = (.ok (), d)) (htx : d.tx.isSome) :
    let q := if answered o 1 .slot then QueueView.room else QueueView.closed
    (exec (send item : Program S Q A _) s o).1 = .ok (d.offer q item).1 ∧
      (exec (send item : Program S Q A _) s o).2.1 = setSession (d.offer q item).2 s ∧
      (exec (send item : Program S Q A _) s o).2.2 = fun n => o (n + 2) := by
  intro q
  obtain ⟨hres, hst⟩ := exec_send s o item
  simp only [Session.send, hopen] at hres hst
  refine ⟨hres, hst, ?_⟩
  unfold send
  rw [exec_askSession_bind, exec_onSession_bind, hopen]
  simp only [exec_read_bind, exec_ite, session_setSession]
  rw [if_neg (by simpa using Option.isSome_iff_ne_none.1 htx), exec_askSession_bind, exec_onSession]
  rfl

/-- The same for a session that has a sender. -/
theorem exec_send_sender (item : Bytes) (htx : (session s).tx.isSome) :
    let q := if answered o 1 .slot then QueueView.room else QueueView.closed
    (exec (send item : Program S Q A _) s o).1 = .ok ((session s).offer q item).1 ∧
      (exec (send item : Program S Q A _) s o).2.1 = setSession ((session s).offer q item).2 s ∧
      (exec (send item : Program S Q A _) s o).2.2 = fun n => o (n + 2) :=
  exec_send_opened s o item (by simp [Session.ensureOpen, htx]) htx

/-- Where it does not matter which of the two it is. -/
theorem exec_send_offer (item : Bytes) (htx : (session s).tx.isSome) :
    ∃ q, q ≠ QueueView.full ∧
      (exec (send item : Program S Q A _) s o).1 = .ok ((session s).offer q item).1 ∧
      (exec (send item : Program S Q A _) s o).2.1 =
        setSession ((session s).offer q item).2 s := by
  obtain ⟨hres, hst, -⟩ := exec_send_sender s o item htx
  refine ⟨_, ?_, hres, hst⟩
  cases answered o 1 .slot <;> decide

/-- A verdict that needs no waiting is one that was cached, or there is no transfer. -/
theorem cachedVerdict_cases (d : Session) :
    (cachedVerdict d = none ∧ d.status.isSome ∧ d.terminal = none) ∨
      ∃ result, cachedVerdict d = some result ∧ (d.terminal.isSome ∨ d.status = none) := by
  unfold cachedVerdict
  cases hterm : d.terminal with
  | some verdict =>
      cases verdict with
      | ok u => exact Or.inr ⟨_, rfl, Or.inl rfl⟩
      | error text => exact Or.inr ⟨_, rfl, Or.inl rfl⟩
  | none =>
      cases hst : d.status with
      | none => exact Or.inr ⟨_, rfl, Or.inr rfl⟩
      | some k => exact Or.inl ⟨rfl, rfl, rfl⟩

theorem exec_finished_of_cached {result : Except IoError Unit}
    (h : cachedVerdict (session s) = some result) :
    exec (finished : Program S Q A _) s o = (result, s, o) := by
  unfold finished
  rw [exec_read_bind, h]
  rfl

theorem exec_finished_of_waiting (h : cachedVerdict (session s) = none) :
    exec (finished : Program S Q A _) s o =
      (({ session s with status := none }.settle (answered o 0 .join)).1,
        setSession ({ session s with status := none }.settle (answered o 0 .join)).2 s,
        o.rest) := by
  unfold finished
  rw [exec_read_bind, h]
  rfl

/-- Aborting in two parts is aborting. -/
theorem exec_abort :
    (exec (abort : Program S Q A Unit) s o).2.1 = setSession (session s).abort s := by
  unfold abort
  rw [exec_read_bind, exec_onSession_bind]
  by_cases h : (session s).status.isSome = true
  · rw [if_pos h, exec_askSession_bind, exec_onSession, session_setSession,
      setSession_setSession]
    rfl
  · rw [if_neg h, exec_onSession, session_setSession, setSession_setSession]
    rfl

end Exec

/-! ## What they leave alone -/

section Keeps

open SummitUsbgadget.Lib.Program

variable {S Q : Type} {A : Q → Type} {α γ : Type} {f : S → γ}

theorem keeps_askSession [AnswersSession Q A] (q : SessionQuery) :
    Keeps f (askSession q : Program S Q A q.Answer) :=
  keeps_bind (keeps_ask _) fun _ => keeps_pure _

variable [HasSession S]

theorem keeps_onSession (hf : ∀ d s, f (setSession d s) = f s) (g : Session → α × Session) :
    Keeps f (onSession g : Program S Q A α) :=
  keeps_act fun s => hf _ s

variable [AnswersSession Q A]

theorem keeps_openSession (hf : ∀ d s, f (setSession d s) = f s) :
    Keeps f (openSession : Program S Q A _) :=
  keeps_bind (keeps_askSession _) fun _ => keeps_onSession hf _

theorem keeps_send (hf : ∀ d s, f (setSession d s) = f s) (item : Bytes) :
    Keeps f (send item : Program S Q A _) := by
  refine keeps_bind (keeps_askSession .look) fun v => keeps_bind (keeps_onSession hf _) fun r => ?_
  cases r with
  | error err => exact keeps_pure _
  | ok u =>
      refine keeps_bind (keeps_read _) fun _ => keeps_ite (keeps_onSession hf _) ?_
      exact keeps_bind (keeps_askSession .slot) fun _ => keeps_onSession hf _

theorem keeps_peekVerdict (hf : ∀ d s, f (setSession d s) = f s) :
    Keeps f (peekVerdict : Program S Q A _) := by
  refine keeps_bind (keeps_read _) fun _ => keeps_ite ?_ (keeps_pure _)
  exact keeps_bind (keeps_askSession .look) fun _ => keeps_onSession hf _

theorem keeps_finished (hf : ∀ d s, f (setSession d s) = f s) :
    Keeps f (finished : Program S Q A _) := by
  refine keeps_bind (keeps_read _) fun cached => ?_
  cases cached with
  | some result => exact keeps_pure _
  | none => exact keeps_bind (keeps_askSession .join) fun _ => keeps_onSession hf _

theorem keeps_abort (hf : ∀ d s, f (setSession d s) = f s) :
    Keeps f (abort : Program S Q A Unit) := by
  refine keeps_bind (keeps_read _) fun _ => keeps_bind (keeps_onSession hf _) fun _ => ?_
  exact keeps_ite (keeps_bind (keeps_askSession .reap) fun _ => keeps_onSession hf _)
    (keeps_onSession hf _)

theorem keeps_pumpToSwupdate (hf : ∀ d s, f (setSession d s) = f s)
    {nextBlock : Program S Q A (Except IoError (Option Bytes))}
    (hnext : Keeps f nextBlock) (n : Nat) :
    Keeps f (pumpToSwupdate nextBlock n) := by
  induction n with
  | zero => exact keeps_pure _
  | succ n ih =>
      refine keeps_attempt hnext fun block => ?_
      cases block with
      | none => exact keeps_pure _
      | some data =>
          refine keeps_bind (keeps_peekVerdict hf) fun seen => ?_
          cases seen with
          | some result => exact keeps_pure _
          | none =>
              refine keeps_attempt (keeps_send hf data) fun fed => ?_
              cases fed with
              | ok len => exact ih
              | full item => exact ih
              | closed => exact keeps_bind (keeps_finished hf) fun _ => keeps_pure _

end Keeps

/-! ## What they ask -/

section Meets

open SummitUsbgadget.Lib.Program

variable {S Q : Type} {A : Q → Type} [AnswersSession Q A] {P : Q → Prop}

theorem meets_askSession {q : SessionQuery} (h : P (AnswersSession.query A q)) :
    Meets P (fun _ _ => True) (askSession q : Program S Q A q.Answer) :=
  meets_then (meets_ask h fun _ _ => trivial) fun _ => meets_pure fun _ => trivial

variable [HasSession S]

theorem meets_openSession (h : P (AnswersSession.query A .look)) :
    Meets P (fun _ _ => True) (openSession : Program S Q A _) :=
  meets_then (meets_askSession h) fun _ => meets_act fun _ => trivial

theorem meets_peekVerdict (h : P (AnswersSession.query A .look)) :
    Meets P (fun _ _ => True) (peekVerdict : Program S Q A _) := by
  refine meets_then (meets_read fun _ => trivial) fun _ =>
    meets_ite ?_ (meets_pure fun _ => trivial)
  exact meets_then (meets_askSession h) fun _ => meets_act fun _ => trivial

theorem meets_send (hlook : P (AnswersSession.query A .look))
    (hslot : P (AnswersSession.query A .slot)) (item : Bytes) :
    Meets P (fun _ _ => True) (send item : Program S Q A _) := by
  refine meets_then (meets_askSession hlook) fun _ =>
    meets_then (meets_act fun _ => trivial) fun opened => ?_
  cases opened with
  | error err => exact meets_pure fun _ => trivial
  | ok u =>
      refine meets_then (meets_read fun _ => trivial) fun _ =>
        meets_ite (meets_act fun _ => trivial) ?_
      exact meets_then (meets_askSession hslot) fun _ => meets_act fun _ => trivial

theorem meets_finished (h : P (AnswersSession.query A .join)) :
    Meets P (fun _ _ => True) (finished : Program S Q A _) := by
  refine meets_then (meets_read fun _ => trivial) fun cached => ?_
  cases cached with
  | some result => exact meets_pure fun _ => trivial
  | none => exact meets_then (meets_askSession h) fun _ => meets_act fun _ => trivial

/-- Aborting leaves an aborted session. -/
theorem meets_abort_session (h : P (AnswersSession.query A .reap)) :
    Meets P (fun s _ => ∃ d, session s = Session.abort d) (abort : Program S Q A Unit) := by
  have hcleared : ∀ (u : Unit) (s : S), (∃ d, session s = releaseHandles d) →
      ((onSession fun d => ((), { d with terminal := none }) : Program S Q A Unit) s).Meets P
        fun s _ => ∃ d, session s = Session.abort d := by
    rintro - s ⟨d, hd⟩
    refine ⟨d, ?_⟩
    change session (setSession { session s with terminal := none } s) = _
    rw [session_setSession, hd]
    rfl
  refine meets_then (meets_read fun _ => trivial) fun status => ?_
  refine meets_bind (M := fun s _ => ∃ d, session s = releaseHandles d) (meets_act fun s => ?_)
    fun u s hs => ?_
  · exact ⟨session s, session_setSession _ _⟩
  · -- the wait for the status task leaves the session alone
    cases status with
    | none => exact hcleared u s hs
    | some k => exact ⟨h, fun _ => hcleared u s hs⟩

theorem meets_abort (h : P (AnswersSession.query A .reap)) :
    Meets P (fun _ _ => True) (abort : Program S Q A Unit) :=
  fun s => (meets_abort_session h s).mono fun _ _ _ => trivial

end Meets

/-! ## The pump -/

section Pump

open SummitUsbgadget.Lib.Program

variable {S Q : Type} {A : Q → Type} [HasSession S] [AnswersSession Q A]
  {nextBlock : Program S Q A (Except IoError (Option Bytes))}

/-- What has to be shown of the parts of the pump for a result about the whole: `I n` holds before a
turn with `n` turns to go, `B n` after its block was read, `D` after a block found the queue closed,
and `E` at the end. Of the answers `O` is assumed. -/
structure PumpSpec (nextBlock : Program S Q A (Except IoError (Option Bytes)))
    (O : Oracle Q A → Prop) (I B : Nat → S → Prop) (D : S → Prop) (E : PumpEnd → S → Prop) :
    Prop where
  answers : ∀ o k, O o → O fun n => o (n + k)
  exhausted : ∀ s, I 0 s → E .inputClosed s
  input : ∀ n s o, O o → I (n + 1) s → (exec nextBlock s o).1 = .ok none →
    E .inputClosed (exec nextBlock s o).2.1
  block : ∀ n s o data, O o → I (n + 1) s → (exec nextBlock s o).1 = .ok (some data) →
    B n (exec nextBlock s o).2.1
  seen : ∀ n s o result, O o → B n s →
    (exec (peekVerdict : Program S Q A _) s o).1 = some result →
    E (.swupdateFinished result) (exec (peekVerdict : Program S Q A _) s o).2.1
  unseen : ∀ n s o, O o → B n s → (exec (peekVerdict : Program S Q A _) s o).1 = none →
    B n (exec (peekVerdict : Program S Q A _) s o).2.1
  fed : ∀ n s o data feed, O o → B n s →
    (exec (send data : Program S Q A _) s o).1 = .ok feed → feed ≠ .closed →
    I n (exec (send data : Program S Q A _) s o).2.1
  closed : ∀ n s o data, O o → B n s →
    (exec (send data : Program S Q A _) s o).1 = .ok .closed →
    D (exec (send data : Program S Q A _) s o).2.1
  verdict : ∀ s o, O o → D s →
    E (.swupdateFinished (exec (finished : Program S Q A _) s o).1)
      (exec (finished : Program S Q A _) s o).2.1

/-- The rule for the pump, by induction on its turns. -/
theorem PumpSpec.exec {O : Oracle Q A → Prop} {I B : Nat → S → Prop} {D : S → Prop}
    {E : PumpEnd → S → Prop} (spec : PumpSpec nextBlock O I B D E) {n : Nat} {s : S}
    {o : Oracle Q A} (ho : O o) (h : I n s) {e : PumpEnd}
    (hok : (Program.exec (pumpToSwupdate nextBlock n) s o).1 = .ok e) :
    E e (Program.exec (pumpToSwupdate nextBlock n) s o).2.1 := by
  induction n generalizing s o with
  | zero =>
      obtain rfl : PumpEnd.inputClosed = e := Except.ok.inj hok
      exact spec.exhausted s h
  | succ n ih =>
      -- what is known of each part is stated before its result is named
      have hinput := spec.input n s o ho h
      have hblock := fun data => spec.block n s o data ho h
      have ho' := answers_exec s spec.answers nextBlock ho
      unfold pumpToSwupdate at hok ⊢
      rw [exec_attempt] at hok ⊢
      generalize Program.exec nextBlock s o = r at hok hinput hblock ho' ⊢
      obtain ⟨res, s', o'⟩ := r
      rcases res with err | (- | data)
      · cases hok
      · obtain rfl : PumpEnd.inputClosed = e := Except.ok.inj hok
        exact hinput rfl
      · have hB := hblock data rfl
        have hseen := fun result => spec.seen n s' o' result ho' hB
        have hunseen := spec.unseen n s' o' ho' hB
        have ho'' := answers_exec s' spec.answers peekVerdict ho'
        dsimp only at hok ⊢
        rw [exec_bind] at hok ⊢
        generalize Program.exec peekVerdict s' o' = r at hok hseen hunseen ho'' ⊢
        obtain ⟨seen, s'', o''⟩ := r
        cases seen with
        | some result =>
            obtain rfl : PumpEnd.swupdateFinished result = e := Except.ok.inj hok
            exact hseen result rfl
        | none =>
            have hfed := fun feed => spec.fed n s'' o'' data feed ho'' (hunseen rfl)
            have hclosed := spec.closed n s'' o'' data ho'' (hunseen rfl)
            have ho₃ := answers_exec s'' spec.answers (send data) ho''
            dsimp only at hok ⊢
            rw [exec_attempt] at hok ⊢
            generalize Program.exec (send data) s'' o'' = r at hok hfed hclosed ho₃ ⊢
            obtain ⟨fed, s₃, o₃⟩ := r
            rcases fed with err | (len | item | -)
            · cases hok
            · exact ih ho₃ (hfed _ rfl (by simp)) hok
            · exact ih ho₃ (hfed _ rfl (by simp)) hok
            · -- the queue is closed, and the verdict ends the pump
              dsimp only at hok ⊢
              rw [exec_bind] at hok ⊢
              obtain rfl := Except.ok.inj hok
              exact spec.verdict s₃ o₃ ho₃ (hclosed rfl)

/-- The rule for the pump in surroundings with a state: `I n` holds before a turn with `n` turns to
go, `B n` after its block was read, `C n` if there is no verdict yet, and `D` after the block found
the queue closed. -/
theorem triple_pumpToSwupdate {E : Type} {handle : Handler E Q A} {I : Nat → S → E → Prop}
    {B C : Nat → Bytes → S → E → Prop} {D : S → E → Prop}
    {R : Except IoError PumpEnd → S → E → Prop}
    (hexhausted : ∀ s e, I 0 s e → R (.ok .inputClosed) s e)
    (hnext : ∀ n, Triple handle (I (n + 1)) nextBlock fun
      | .error err => R (.error err)
      | .ok none => R (.ok .inputClosed)
      | .ok (some data) => B n data)
    (hpeek : ∀ n data, Triple handle (B n data) peekVerdict fun
      | some result => R (.ok (.swupdateFinished result))
      | none => C n data)
    (hsend : ∀ n data, Triple handle (C n data) (send data) fun
      | .error err => R (.error err)
      | .ok .closed => D
      | .ok _ => I n)
    (hfinished : Triple handle D finished fun result => R (.ok (.swupdateFinished result)))
    (n : Nat) : Triple handle (I n) (pumpToSwupdate nextBlock n) R := by
  induction n with
  | zero => exact triple_pure hexhausted
  | succ n ih =>
      refine triple_attempt (hnext n) (fun err s e h => h) fun block => ?_
      cases block with
      | none => exact triple_pure fun s e h => h
      | some data =>
          refine triple_bind (hpeek n data) fun seen => ?_
          cases seen with
          | some result => exact triple_pure fun s e h => h
          | none =>
              refine triple_attempt (hsend n data) (fun err s e h => h) fun fed => ?_
              cases fed with
              | ok len => exact ih
              | full item => exact ih
              | closed => exact triple_bind hfinished fun result => triple_pure fun s e h => h

/-- What is left of the source, by its measure: less after a block, nothing at its end. -/
def Consumes (m : S → Nat) (before after : S) : Except IoError (Option Bytes) → Prop
  | .error _ => True
  | .ok none => m after = 0
  | .ok (some _) => m after < m before

/-- What the pump leaves of the source, of which it found `before`. -/
def Pumps (m : S → Nat) (before : Nat) : PumpEnd → S → Prop
  | .inputClosed, after => m after = 0
  | .swupdateFinished _, after => m after < before

/-- With more turns than the source has left, the pump ends at the end of the source or with a
verdict. -/
theorem pumpToSwupdate_pumps {m : S → Nat} (hm : ∀ d s, m (setSession d s) = m s)
    (hnext : ∀ s o, Consumes m s (exec nextBlock s o).2.1 (exec nextBlock s o).1) {n : Nat} {s : S}
    {o : Oracle Q A} (hn : m s < n) {e : PumpEnd}
    (hok : (exec (pumpToSwupdate nextBlock n) s o).1 = .ok e) :
    Pumps m (m s) e (exec (pumpToSwupdate nextBlock n) s o).2.1 := by
  have hpeek := fun s o => (keeps_peekVerdict (A := A) hm).exec s o
  have hsend := fun s o data => (keeps_send (A := A) hm data).exec s o
  have hfin := fun s o => (keeps_finished (A := A) hm).exec s o
  -- the bound exceeds what is left before every turn, and a block lowers what is left
  have spec : PumpSpec nextBlock (fun _ => True) (fun k t => m t < k ∧ m t ≤ m s)
      (fun k t => m t < k ∧ m t < m s) (fun t => m t < m s) (Pumps m (m s)) :=
    { answers := fun _ _ _ => trivial
      exhausted := fun t ht => absurd ht.1 (Nat.not_lt_zero _)
      input := by
        intro k t o _ _ hend
        have hc := hnext t o
        rw [hend] at hc
        exact hc
      block := by
        intro k t o data _ ht hdata
        have hc := hnext t o
        rw [hdata] at hc
        have hless : m (exec nextBlock t o).2.1 < m t := hc
        omega
      seen := by
        intro k t o result _ ht _
        change m _ < m s
        rw [hpeek]
        exact ht.2
      unseen := by
        intro k t o _ ht _
        rw [hpeek]
        exact ht
      fed := by
        intro k t o data feed _ ht _ _
        rw [hsend]
        exact ⟨ht.1, Nat.le_of_lt ht.2⟩
      closed := by
        intro k t o data _ ht _
        rw [hsend]
        exact ht.2
      verdict := by
        intro t o _ ht
        change m _ < m s
        rw [hfin]
        exact ht }
  exact spec.exec trivial ⟨hn, Nat.le_refl _⟩ hok

end Pump

end SummitUsbgadget.Swupdate
