import Mathlib.Tactic.Common

/-!
# Programs that wait

A coroutine works on a state that it owns. Now and then it puts a query to its surroundings and goes
on with the answer; the state at that point is stored in the query node, because that is the state
that is left behind if the coroutine is dropped while it waits. An oracle is a stream of answers to
whatever is asked; a statement about all oracles is a statement about everything the surroundings
may do. `run` takes a coroutine to its end, `waiting` gives the state that is left when it is
dropped at one of its queries, and a coroutine that goes on is itself the place where a program is;
`asked` lists all its queries. `Maintains` is the rule for invariants that hold at the end and at
every query in between, `Keeps` the one for parts of the state that never change, and `Meets` the
one for what is asked at all and what holds at the end.
-/

set_option autoImplicit false

namespace SummitUsbgadget.Lib

/-- A coroutine over the state `S` that asks queries `q : Q`, answered in `A q`. -/
inductive Coroutine (S : Type) (Q : Type) (A : Q → Type) (α : Type) : Type where
  | done (state : S) (value : α)
  | ask (state : S) (query : Q) (resume : A query → Coroutine S Q A α)

/-- Answers to whatever is asked: `o n q` answers the query `q` if it is the `n`-th one. -/
abbrev Oracle (Q : Type) (A : Q → Type) : Type := Nat → (q : Q) → A q

/-- A coroutine that starts from the current state. -/
def Program (S : Type) (Q : Type) (A : Q → Type) (α : Type) : Type := S → Coroutine S Q A α

variable {S Q : Type} {A : Q → Type} {α β : Type}

namespace Coroutine

def bind : Coroutine S Q A α → (α → Program S Q A β) → Coroutine S Q A β
  | .done s a, f => f a s
  | .ask s q k, f => .ask s q fun r => (k r).bind f

end Coroutine

namespace Oracle

/-- The answers after the first one. -/
def rest (o : Oracle Q A) : Oracle Q A := fun n q => o (n + 1) q

/-- Every answer satisfies `P`. -/
def All (P : (q : Q) → A q → Prop) (o : Oracle Q A) : Prop := ∀ n q, P q (o n q)

theorem All.rest {P : (q : Q) → A q → Prop} {o : Oracle Q A} (h : o.All P) : o.rest.All P :=
  fun n q => h (n + 1) q

end Oracle

namespace Coroutine

/-- The state where the coroutine is. -/
def state : Coroutine S Q A α → S
  | .done s _ => s
  | .ask s _ _ => s

/-- Runs to the end: the value, the state and the answers that are left. -/
def run : Coroutine S Q A α → Oracle Q A → α × S × Oracle Q A
  | .done s a, o => (a, s, o)
  | .ask _ q k, o => (k (o 0 q)).run o.rest

/-- The state and the query at which the coroutine waits after `n` answers; `none` if it has
ended by then. -/
def waiting : Nat → Coroutine S Q A α → Oracle Q A → Option (S × Q)
  | _, .done _ _, _ => none
  | 0, .ask s q _, _ => some (s, q)
  | n + 1, .ask _ q k, o => (k (o 0 q)).waiting n o.rest

/-- All states and queries at which the coroutine waits until its end. -/
def asked : Coroutine S Q A α → Oracle Q A → List (S × Q)
  | .done _ _, _ => []
  | .ask s q k, o => (s, q) :: (k (o 0 q)).asked o.rest

theorem run_bind (c : Coroutine S Q A α) (f : α → Program S Q A β) (o : Oracle Q A) :
    (c.bind f).run o = ((f (c.run o).1) (c.run o).2.1).run (c.run o).2.2 := by
  induction c generalizing o with
  | done s a => rfl
  | ask s q k ih => exact ih (o 0 q) o.rest

theorem asked_bind (c : Coroutine S Q A α) (f : α → Program S Q A β) (o : Oracle Q A) :
    (c.bind f).asked o =
      c.asked o ++ ((f (c.run o).1) (c.run o).2.1).asked (c.run o).2.2 := by
  induction c generalizing o with
  | done s a => rfl
  | ask s q k ih => exact congrArg ((s, q) :: ·) (ih (o 0 q) o.rest)

/-- The answers that are left are those after some number of them. -/
theorem run_answers (c : Coroutine S Q A α) (o : Oracle Q A) :
    ∃ k, (c.run o).2.2 = fun n => o (n + k) := by
  induction c generalizing o with
  | done s a => exact ⟨0, rfl⟩
  | ask s q k ih =>
      obtain ⟨j, hj⟩ := ih (o 0 q) o.rest
      exact ⟨j + 1, hj⟩

theorem all_run {P : (q : Q) → A q → Prop} (c : Coroutine S Q A α) {o : Oracle Q A}
    (h : o.All P) : (c.run o).2.2.All P := by
  induction c generalizing o with
  | done s a => exact h
  | ask s q k ih => exact ih (o 0 q) h.rest

/-- A coroutine that waits goes on waiting there as the first part of another one. -/
theorem waiting_bind {c : Coroutine S Q A α} (f : α → Program S Q A β) {n : Nat}
    {o : Oracle Q A} {x : S × Q} (h : c.waiting n o = some x) :
    (c.bind f).waiting n o = some x := by
  induction c generalizing n o with
  | done s a => simp [waiting] at h
  | ask s q k ih =>
      cases n with
      | zero => exact h
      | succ n => exact ih (o 0 q) h

/-- With some answers, the coroutine comes to where the other one is. -/
inductive Reaches (c : Coroutine S Q A α) : Coroutine S Q A α → Prop where
  | refl : Reaches c c
  | resume {s : S} {q : Q} {k : A q → Coroutine S Q A α} (h : Reaches c (.ask s q k)) (r : A q) :
      Reaches c (k r)

/-- Answers in front of others: `r` to the query `q`. -/
theorem exists_answers (q : Q) (r : A q) (o : Oracle Q A) :
    ∃ o' : Oracle Q A, o' 0 q = r ∧ o'.rest = o := by
  classical
  refine ⟨fun n q' => if n = 0 then (if h : q' = q then h ▸ r else o 0 q') else o
    (n - 1) q', ?_, ?_⟩
  · simp
  · funext n q'
    simp [Oracle.rest]

/-- What happens from there happens from the start, after some answers. -/
theorem Reaches.answers {c c' : Coroutine S Q A α} (h : Reaches c c') (o : Oracle Q A) :
    ∃ n o', c.run o' = c'.run o ∧ ∀ m, c.waiting (n + m) o' = c'.waiting m o := by
  induction h generalizing o with
  | refl => exact ⟨0, o, rfl, fun m => by rw [Nat.zero_add]⟩
  | @resume s q k h r ih =>
      -- the answer `r` goes in front of those that are used from here on
      obtain ⟨o', hr, hrest⟩ := exists_answers q r o
      obtain ⟨n, o'', hrun, hwaiting⟩ := ih o'
      refine ⟨n + 1, o'', ?_, fun m => ?_⟩
      · rw [hrun, Coroutine.run, hr, hrest]
      · rw [Nat.add_assoc, Nat.add_comm 1 m, hwaiting (m + 1), Coroutine.waiting, hr, hrest]

end Coroutine

namespace Program

def pure (a : α) : Program S Q A α := fun s => .done s a

def bind (p : Program S Q A α) (f : α → Program S Q A β) : Program S Q A β :=
  fun s => (p s).bind f

instance : Monad (Program S Q A) where
  pure := Program.pure
  bind := Program.bind

/-- Reads a part of the state. -/
def read (f : S → α) : Program S Q A α := fun s => .done s (f s)

def update (f : S → S) : Program S Q A Unit := fun s => .done (f s) ()

/-- Changes the state and returns a value with it. -/
def act (f : S → α × S) : Program S Q A α := fun s => .done (f s).2 (f s).1

/-- Puts a query and returns the answer. -/
def ask (q : Q) : Program S Q A (A q) := fun s => .ask s q fun r => .done s r

/-- Goes on with the value unless there is an error. -/
def attempt {ε : Type} (p : Program S Q A (Except ε α)) (f : α → Program S Q A (Except ε β)) :
    Program S Q A (Except ε β) :=
  p >>= fun
    | .error err => Pure.pure (.error err)
    | .ok a => f a

/-- Runs a program from a state. -/
def exec (p : Program S Q A α) (s : S) (o : Oracle Q A) : α × S × Oracle Q A := (p s).run o

section Exec

variable (s : S) (o : Oracle Q A)

theorem exec_bind (p : Program S Q A α) (f : α → Program S Q A β) :
    exec (p >>= f) s o = exec (f (exec p s o).1) (exec p s o).2.1 (exec p s o).2.2 :=
  Coroutine.run_bind (p s) f o

theorem asked_bind (p : Program S Q A α) (f : α → Program S Q A β) :
    ((p >>= f) s).asked o =
      (p s).asked o ++ (f (exec p s o).1 (exec p s o).2.1).asked (exec p s o).2.2 :=
  Coroutine.asked_bind (p s) f o

@[simp] theorem exec_pure (a : α) : exec (Pure.pure a : Program S Q A α) s o = (a, s, o) := rfl

@[simp] theorem exec_read_bind (f : S → α) (g : α → Program S Q A β) :
    exec (read f >>= g) s o = exec (g (f s)) s o := rfl

theorem waiting_read_bind (f : S → α) (g : α → Program S Q A β) (n : Nat) :
    ((read f >>= g) s).waiting n o = (g (f s) s).waiting n o := rfl

@[simp] theorem exec_update_bind (f : S → S) (g : Unit → Program S Q A β) :
    exec (update f >>= g) s o = exec (g ()) (f s) o := rfl

@[simp] theorem exec_ite (c : Prop) [Decidable c] (p q : Program S Q A α) :
    exec (if c then p else q) s o = if c then exec p s o else exec q s o := by
  split <;> rfl

/-- What `attempt` leaves: an error ends it, a value is passed on. -/
theorem exec_attempt {ε : Type} (p : Program S Q A (Except ε α))
    (f : α → Program S Q A (Except ε β)) :
    exec (attempt p f) s o =
      match (exec p s o).1 with
      | .error err => (.error err, (exec p s o).2)
      | .ok a => exec (f a) (exec p s o).2.1 (exec p s o).2.2 := by
  unfold attempt
  rw [exec_bind]
  cases (exec p s o).1 <;> rfl

theorem exec_answers (p : Program S Q A α) : ∃ k, (exec p s o).2.2 = fun n => o (n + k) :=
  Coroutine.run_answers (p s) o

theorem all_exec {P : (q : Q) → A q → Prop} (p : Program S Q A α) {o : Oracle Q A}
    (h : o.All P) : (exec p s o).2.2.All P :=
  Coroutine.all_run (p s) h

/-- What does not depend on the first answers holds of the answers that are left. -/
theorem answers_exec {O : Oracle Q A → Prop} (hO : ∀ o k, O o → O fun n => o (n + k))
    (p : Program S Q A α) {o : Oracle Q A} (h : O o) : O (exec p s o).2.2 := by
  obtain ⟨k, hk⟩ := exec_answers s o p
  rw [hk]
  exact hO o k h

/-- An end that can be reached is the result with some answers. -/
theorem exec_of_reaches {p : Program S Q A α} {s s' : S} {a : α} (o : Oracle Q A)
    (h : (p s).Reaches (.done s' a)) :
    ∃ o' : Oracle Q A, (exec p s o').1 = a ∧ (exec p s o').2.1 = s' := by
  obtain ⟨-, o', hrun, -⟩ := h.answers o
  refine ⟨o', ?_, ?_⟩
  · rw [exec, hrun, Coroutine.run]
  · rw [exec, hrun, Coroutine.run]

end Exec

end Program

/-! ## Invariants -/

/-- The invariant holds wherever the coroutine waits, and at its end. -/
def Coroutine.Always (I : S → Prop) : Coroutine S Q A α → Prop
  | .done s _ => I s
  | .ask s _ k => I s ∧ ∀ r, (k r).Always I

namespace Coroutine

variable {I : S → Prop}

theorem Always.run {c : Coroutine S Q A α} (h : c.Always I) (o : Oracle Q A) :
    I (c.run o).2.1 := by
  induction c generalizing o with
  | done s a => exact h
  | ask s q k ih => exact ih (o 0 q) (h.2 (o 0 q)) o.rest

theorem Always.bind {c : Coroutine S Q A α} (h : c.Always I) {f : α → Program S Q A β}
    (hf : ∀ a s, I s → (f a s).Always I) : (c.bind f).Always I := by
  induction c with
  | done s a => exact hf a s h
  | ask s q k ih => exact ⟨h.1, fun r => ih r (h.2 r)⟩

end Coroutine

namespace Program

/-- Started where the invariant holds, the program keeps it. -/
def Maintains (I : S → Prop) (p : Program S Q A α) : Prop := ∀ s, I s → (p s).Always I

variable {I : S → Prop}

theorem maintains_pure (a : α) : Maintains I (Pure.pure a : Program S Q A α) := fun _ h => h

theorem maintains_read (f : S → α) : Maintains I (read f : Program S Q A α) := fun _ h => h

theorem maintains_ask (q : Q) : Maintains I (ask q : Program S Q A (A q)) :=
  fun _ h => ⟨h, fun _ => h⟩

theorem maintains_update {f : S → S} (hf : ∀ s, I s → I (f s)) :
    Maintains I (update f : Program S Q A Unit) := hf

theorem maintains_act {f : S → α × S} (hf : ∀ s, I s → I (f s).2) :
    Maintains I (act f : Program S Q A α) := hf

theorem maintains_bind {p : Program S Q A α} {f : α → Program S Q A β} (hp : Maintains I p)
    (hf : ∀ a, Maintains I (f a)) : Maintains I (p >>= f) :=
  fun s h => (hp s h).bind fun a t ht => hf a t ht

theorem maintains_ite {c : Prop} [Decidable c] {p q : Program S Q A α} (hp : Maintains I p)
    (hq : Maintains I q) : Maintains I (if c then p else q) := by
  split
  · exact hp
  · exact hq

/-- The program never changes `f` of the state. -/
def Keeps {γ : Type} (f : S → γ) (p : Program S Q A α) : Prop :=
  ∀ x, Maintains (fun s => f s = x) p

section Keeps

variable {γ : Type} {f : S → γ}

theorem keeps_pure (a : α) : Keeps f (Pure.pure a : Program S Q A α) := fun _ => maintains_pure a

theorem keeps_read (g : S → α) : Keeps f (read g : Program S Q A α) := fun _ => maintains_read g

theorem keeps_ask (q : Q) : Keeps f (ask q : Program S Q A (A q)) := fun _ => maintains_ask q

theorem keeps_update {g : S → S} (hg : ∀ s, f (g s) = f s) :
    Keeps f (update g : Program S Q A Unit) :=
  fun _ => maintains_update fun s h => (hg s).trans h

theorem keeps_act {g : S → α × S} (hg : ∀ s, f (g s).2 = f s) :
    Keeps f (act g : Program S Q A α) :=
  fun _ => maintains_act fun s h => (hg s).trans h

theorem keeps_bind {p : Program S Q A α} {g : α → Program S Q A β} (hp : Keeps f p)
    (hg : ∀ a, Keeps f (g a)) : Keeps f (p >>= g) :=
  fun x => maintains_bind (hp x) fun a => hg a x

theorem keeps_attempt {ε : Type} {p : Program S Q A (Except ε α)}
    {g : α → Program S Q A (Except ε β)} (hp : Keeps f p) (hg : ∀ a, Keeps f (g a)) :
    Keeps f (attempt p g) := by
  refine keeps_bind hp fun r => ?_
  cases r with
  | error err => exact keeps_pure _
  | ok a => exact hg a

theorem keeps_ite {c : Prop} [Decidable c] {p q : Program S Q A α} (hp : Keeps f p)
    (hq : Keeps f q) : Keeps f (if c then p else q) :=
  fun x => maintains_ite (hp x) (hq x)

end Keeps

theorem Maintains.exec {p : Program S Q A α} (hp : Maintains I p) {s : S} (h : I s)
    (o : Oracle Q A) : I (Program.exec p s o).2.1 :=
  (hp s h).run o

theorem Keeps.exec {γ : Type} {f : S → γ} {p : Program S Q A α} (hp : Keeps f p) (s : S)
    (o : Oracle Q A) : f (Program.exec p s o).2.1 = f s :=
  (hp (f s)).exec rfl o

end Program

/-! ## What is asked, and what holds at the end -/

/-- Every query that may be asked satisfies `P`, and every end satisfies `R`. -/
def Coroutine.Meets (P : Q → Prop) (R : S → α → Prop) : Coroutine S Q A α → Prop
  | .done s a => R s a
  | .ask _ q k => P q ∧ ∀ r, (k r).Meets P R

theorem Coroutine.Meets.bind {P : Q → Prop} {M : S → α → Prop} {R : S → β → Prop}
    {c : Coroutine S Q A α} (h : c.Meets P M) {f : α → Program S Q A β}
    (hf : ∀ a s, M s a → (f a s).Meets P R) : (c.bind f).Meets P R := by
  induction c with
  | done s a => exact hf a s h
  | ask s q k ih => exact ⟨h.1, fun r => ih r (h.2 r)⟩

theorem Coroutine.Meets.mono {P : Q → Prop} {R R' : S → α → Prop} {c : Coroutine S Q A α}
    (h : c.Meets P R) (hR : ∀ s a, R s a → R' s a) : c.Meets P R' := by
  induction c with
  | done s a => exact hR s a h
  | ask s q k ih => exact ⟨h.1, fun r => ih r (h.2 r)⟩

theorem Coroutine.Meets.run {P : Q → Prop} {R : S → α → Prop} {c : Coroutine S Q A α}
    (h : c.Meets P R) (o : Oracle Q A) : R (c.run o).2.1 (c.run o).1 := by
  induction c generalizing o with
  | done s a => exact h
  | ask s q k ih => exact ih (o 0 q) (h.2 (o 0 q)) o.rest

theorem Coroutine.Meets.asked {P : Q → Prop} {R : S → α → Prop} {c : Coroutine S Q A α}
    (h : c.Meets P R) (o : Oracle Q A) : ∀ x ∈ c.asked o, P x.2 := by
  induction c generalizing o with
  | done s a =>
      intro x hx
      cases hx
  | ask s q k ih =>
      intro x hx
      rcases List.mem_cons.1 hx with rfl | hx
      · exact h.1
      · exact ih (o 0 q) (h.2 (o 0 q)) o.rest x hx

/-- Answers to what is not asked do not matter. -/
theorem Coroutine.Meets.run_congr {P : Q → Prop} {R : S → α → Prop} {c : Coroutine S Q A α}
    (h : c.Meets P R) {o o' : Oracle Q A} (ho : ∀ n q, P q → o n q = o' n q) :
    (c.run o).1 = (c.run o').1 ∧ (c.run o).2.1 = (c.run o').2.1 := by
  induction c generalizing o o' with
  | done s a => exact ⟨rfl, rfl⟩
  | ask s q k ih =>
      show ((k (o 0 q)).run o.rest).1 = ((k (o' 0 q)).run o'.rest).1 ∧
        ((k (o 0 q)).run o.rest).2.1 = ((k (o' 0 q)).run o'.rest).2.1
      rw [ho 0 q h.1]
      exact ih (o' 0 q) (h.2 (o' 0 q)) fun n q hq => ho (n + 1) q hq

theorem Coroutine.meets_true (c : Coroutine S Q A α) :
    c.Meets (fun _ => True) fun _ _ => True := by
  induction c with
  | done s a => trivial
  | ask s q k ih => exact ⟨trivial, ih⟩

namespace Program

/-- From every state, the program asks only what satisfies `P` and ends in `R`. -/
def Meets (P : Q → Prop) (R : S → α → Prop) (p : Program S Q A α) : Prop :=
  ∀ s, (p s).Meets P R

section Meets

variable {P : Q → Prop} {R : S → α → Prop}

theorem meets_true {p : Program S Q A α} : Meets (fun _ => True) (fun _ _ => True) p :=
  fun s => (p s).meets_true

theorem meets_pure {a : α} (h : ∀ s, R s a) : Meets P R (Pure.pure a : Program S Q A α) := h

theorem meets_read {f : S → α} (h : ∀ s, R s (f s)) : Meets P R (read f : Program S Q A α) := h

theorem meets_update {f : S → S} {R : S → Unit → Prop} (h : ∀ s, R (f s) ()) :
    Meets P R (update f : Program S Q A Unit) := h

theorem meets_act {f : S → α × S} (h : ∀ s, R (f s).2 (f s).1) :
    Meets P R (act f : Program S Q A α) := h

theorem meets_ask {q : Q} {R : S → A q → Prop} (hq : P q) (h : ∀ s r, R s r) :
    Meets P R (ask q : Program S Q A (A q)) := fun s => ⟨hq, h s⟩

theorem meets_bind {M : S → α → Prop} {R : S → β → Prop} {p : Program S Q A α}
    {f : α → Program S Q A β} (hp : Meets P M p) (hf : ∀ a s, M s a → (f a s).Meets P R) :
    Meets P R (p >>= f) :=
  fun s => (hp s).bind hf

/-- Only what is asked matters of the first part. -/
theorem meets_then {R : S → β → Prop} {p : Program S Q A α} {f : α → Program S Q A β}
    (hp : Meets P (fun _ _ => True) p) (hf : ∀ a, Meets P R (f a)) : Meets P R (p >>= f) :=
  meets_bind hp fun a s _ => hf a s

theorem meets_map {f : α → β} {p : Program S Q A α} (hp : Meets P (fun _ _ => True) p) :
    Meets P (fun _ _ => True) (f <$> p) :=
  meets_then hp fun _ => meets_pure fun _ => trivial

theorem meets_ite {c : Prop} [Decidable c] {p q : Program S Q A α} (hp : Meets P R p)
    (hq : Meets P R q) : Meets P R (if c then p else q) := by
  split
  · exact hp
  · exact hq

/-- An error goes straight to the end. -/
theorem meets_attempt {ε : Type} {R : S → Except ε β → Prop} {p : Program S Q A (Except ε α)}
    {f : α → Program S Q A (Except ε β)} (hp : Meets P (fun _ _ => True) p)
    (herr : ∀ s err, R s (.error err)) (hf : ∀ a, Meets P R (f a)) : Meets P R (attempt p f) := by
  refine meets_then hp fun r => ?_
  cases r with
  | error err => exact meets_pure fun s => herr s err
  | ok a => exact hf a

/-- More may be asked. -/
theorem Meets.imp {P' : Q → Prop} {p : Program S Q A α} (hp : Meets P R p) (h : ∀ q, P q → P' q) :
    Meets P' R p := by
  intro s
  have hc := hp s
  generalize p s = c at hc
  induction c with
  | done s a => exact hc
  | ask s q k ih => exact ⟨h q hc.1, fun r => ih r (hc.2 r)⟩

theorem Meets.exec {p : Program S Q A α} (hp : Meets P R p) (s : S) (o : Oracle Q A) :
    R (Program.exec p s o).2.1 (Program.exec p s o).1 :=
  (hp s).run o

end Meets

end Program

end SummitUsbgadget.Lib
