import SummitUsbgadget.Lib.Coroutine

/-!
# Programs in surroundings that have a state

A handler answers the queries of a program and changes a state of its own with each of them.
`execIn` runs a program against a handler; an oracle is a handler whose state is the answers that
are left, so what a program does against a handler it also does with some oracle
(`exists_oracle_execIn`), and where a handler answers from an oracle the two agree
(`execIn_eq_exec`).

`Triple` is a Hoare triple over the two states: from every pair of states that satisfies the
precondition the program ends, with a value and a pair of states in the postcondition. There is a
rule for each way of putting programs together; programs end by construction, so a triple is total.
-/

set_option autoImplicit false

namespace SummitUsbgadget.Lib

/-- Surroundings with a state: an answer to each query, and the state after it. -/
abbrev Handler (E Q : Type) (A : Q → Type) : Type := E → (q : Q) → A q × E

variable {S Q E : Type} {A : Q → Type} {α β ε : Type}

namespace Coroutine

/-- Runs to the end: the value, the state and the state of the surroundings. -/
def runIn (handle : Handler E Q A) : Coroutine S Q A α → E → α × S × E
  | .done s a, e => (a, s, e)
  | .ask _ q k, e => (k (handle e q).1).runIn handle (handle e q).2

theorem runIn_bind (handle : Handler E Q A) (c : Coroutine S Q A α) (f : α → Program S Q A β)
    (e : E) :
    (c.bind f).runIn handle e =
      ((f (c.runIn handle e).1) (c.runIn handle e).2.1).runIn handle (c.runIn handle e).2.2 := by
  induction c generalizing e with
  | done s a => rfl
  | ask s q k ih => exact ih (handle e q).1 (handle e q).2

theorem exists_oracle_runIn (handle : Handler E Q A) (c : Coroutine S Q A α) (e : E)
    (o : Oracle Q A) :
    ∃ o', (c.run o').1 = (c.runIn handle e).1 ∧ (c.run o').2.1 = (c.runIn handle e).2.1 := by
  induction c generalizing e with
  | done s a => exact ⟨o, rfl, rfl⟩
  | ask s q k ih =>
      -- the answer of the handler goes in front of the answers to what follows
      obtain ⟨o₁, h1, h2⟩ := ih (handle e q).1 (handle e q).2
      obtain ⟨o₂, hq, hrest⟩ := exists_answers q (handle e q).1 o₁
      refine ⟨o₂, ?_, ?_⟩
      · rw [Coroutine.run, hq, hrest, h1, Coroutine.runIn]
      · rw [Coroutine.run, hq, hrest, h2, Coroutine.runIn]

end Coroutine

namespace Program

/-- Runs a program from a state against a handler. -/
def execIn (handle : Handler E Q A) (p : Program S Q A α) (s : S) (e : E) : α × S × E :=
  (p s).runIn handle e

section ExecIn

variable (handle : Handler E Q A) (s : S) (e : E)

theorem execIn_bind (p : Program S Q A α) (f : α → Program S Q A β) :
    execIn handle (p >>= f) s e =
      execIn handle (f (execIn handle p s e).1) (execIn handle p s e).2.1
        (execIn handle p s e).2.2 :=
  Coroutine.runIn_bind handle (p s) f e

/-- What happens against a handler happens with some answers. -/
theorem exists_oracle_execIn (p : Program S Q A α) (o : Oracle Q A) :
    ∃ o', (exec p s o').1 = (execIn handle p s e).1 ∧
      (exec p s o').2.1 = (execIn handle p s e).2.1 :=
  Coroutine.exists_oracle_runIn handle (p s) e o

end ExecIn

/-- What a program never changes, it never changes against a handler. -/
theorem Keeps.execIn {γ : Type} {f : S → γ} {p : Program S Q A α} (hp : Keeps f p)
    (handle : Handler E Q A) (s : S) (e : E) (o : Oracle Q A) :
    f (Program.execIn handle p s e).2.1 = f s := by
  obtain ⟨o', -, hst⟩ := exists_oracle_execIn handle s e p o
  rw [← hst]
  exact hp.exec s o'

/-- A handler that answers the queries in `P` from an oracle that it keeps. -/
structure FromOracle (handle : Handler E Q A) (P : Q → Prop) (answers : E → Oracle Q A)
    (setAnswers : Oracle Q A → E → E) : Prop where
  answers_set : ∀ o e, answers (setAnswers o e) = o
  set_set : ∀ o o' e, setAnswers o (setAnswers o' e) = setAnswers o e
  set_answers : ∀ e, setAnswers (answers e) e = e
  handle : ∀ e q, P q → handle e q = (answers e 0 q, setAnswers (answers e).rest e)

/-- A program that asks nothing else does what it does with that oracle. -/
theorem execIn_eq_exec {handle : Handler E Q A} {P : Q → Prop} {answers : E → Oracle Q A}
    {setAnswers : Oracle Q A → E → E} (hE : FromOracle handle P answers setAnswers)
    {p : Program S Q A α} (hp : Meets P (fun _ _ => True) p) (s : S) (e : E) :
    execIn handle p s e =
      ((exec p s (answers e)).1, (exec p s (answers e)).2.1,
        setAnswers (exec p s (answers e)).2.2 e) := by
  have hc := hp s
  unfold execIn exec
  generalize p s = c at hc
  induction c generalizing e with
  | done s a => simp [Coroutine.runIn, Coroutine.run, hE.set_answers]
  | ask s q k ih =>
      obtain ⟨hq, hk⟩ := hc
      rw [Coroutine.runIn, hE.handle e q hq]
      dsimp only
      rw [ih (answers e 0 q) (setAnswers (answers e).rest e) (hk _), hE.answers_set, hE.set_set]
      rfl

/-! ## Triples -/

/-- From every pair of states in `P` the program ends with a value and a pair of states in `R`. -/
def Triple (handle : Handler E Q A) (P : S → E → Prop) (p : Program S Q A α)
    (R : α → S → E → Prop) : Prop :=
  ∀ s e, P s e → R (execIn handle p s e).1 (execIn handle p s e).2.1 (execIn handle p s e).2.2

section Rules

variable {handle : Handler E Q A} {P P' : S → E → Prop}

theorem triple_conseq {p : Program S Q A α} {R R' : α → S → E → Prop} (h : Triple handle P p R)
    (hP : ∀ s e, P' s e → P s e) (hR : ∀ a s e, R a s e → R' a s e) : Triple handle P' p R' :=
  fun s e hs => hR _ _ _ (h s e (hP s e hs))

theorem triple_and {p : Program S Q A α} {R R' : α → S → E → Prop} (h : Triple handle P p R)
    (h' : Triple handle P p R') : Triple handle P p fun a s e => R a s e ∧ R' a s e :=
  fun s e hs => ⟨h s e hs, h' s e hs⟩

/-- The precondition may be chosen for each pair of states. -/
theorem triple_intro {p : Program S Q A α} {R : α → S → E → Prop}
    (h : ∀ s e, P s e → ∃ P' : S → E → Prop, P' s e ∧ Triple handle P' p R) :
    Triple handle P p R := by
  intro s e hs
  obtain ⟨P', hP', hp⟩ := h s e hs
  exact hp s e hP'

theorem triple_pure {a : α} {R : α → S → E → Prop} (h : ∀ s e, P s e → R a s e) :
    Triple handle P (Pure.pure a : Program S Q A α) R := h

theorem triple_bind {p : Program S Q A α} {f : α → Program S Q A β} {M : α → S → E → Prop}
    {R : β → S → E → Prop} (hp : Triple handle P p M) (hf : ∀ a, Triple handle (M a) (f a) R) :
    Triple handle P (p >>= f) R := by
  intro s e hs
  rw [execIn_bind]
  exact hf _ _ _ (hp s e hs)

theorem triple_map {f : α → β} {p : Program S Q A α} {R : β → S → E → Prop}
    (hp : Triple handle P p fun a s e => R (f a) s e) : Triple handle P (f <$> p) R :=
  triple_bind hp fun _ => triple_pure fun _ _ h => h

/-- A part of the state is read, and known from then on. -/
theorem triple_read {f : S → α} {g : α → Program S Q A β} {R : β → S → E → Prop}
    (h : ∀ a, Triple handle (fun s e => P s e ∧ f s = a) (g a) R) :
    Triple handle P (read f >>= g) R := fun s e hs => h (f s) s e ⟨hs, rfl⟩

theorem triple_update {f : S → S} {g : Unit → Program S Q A β} {R : β → S → E → Prop}
    (h : Triple handle P' (g ()) R) (hf : ∀ s e, P s e → P' (f s) e) :
    Triple handle P (update f >>= g) R := fun s e hs => h (f s) e (hf s e hs)

theorem triple_ite {c : Prop} [Decidable c] {p q : Program S Q A α} {R : α → S → E → Prop}
    (hp : c → Triple handle P p R) (hq : ¬ c → Triple handle P q R) :
    Triple handle P (if c then p else q) R := by
  split
  · next h => exact hp h
  · next h => exact hq h

/-- An error goes straight to the end. -/
theorem triple_attempt {p : Program S Q A (Except ε α)} {f : α → Program S Q A (Except ε β)}
    {M : Except ε α → S → E → Prop} {R : Except ε β → S → E → Prop} (hp : Triple handle P p M)
    (herr : ∀ err s e, M (.error err) s e → R (.error err) s e)
    (hf : ∀ a, Triple handle (M (.ok a)) (f a) R) : Triple handle P (attempt p f) R := by
  refine triple_bind hp fun r => ?_
  cases r with
  | error err => exact triple_pure fun s e h => herr err s e h
  | ok a => exact hf a

/-- The same behind a program that succeeds with a value that is known. -/
theorem triple_attempt_ok {p : Program S Q A (Except ε α)} {f : α → Program S Q A (Except ε β)}
    {a : α} {M : S → E → Prop} {R : Except ε β → S → E → Prop}
    (hp : Triple handle P p fun r s e => r = .ok a ∧ M s e) (hf : Triple handle M (f a) R) :
    Triple handle P (attempt p f) R := by
  refine triple_attempt hp ?_ fun a' => ?_
  · rintro err s e ⟨hok, -⟩
    cases hok
  · rintro s e ⟨hok, hM⟩
    obtain rfl := Except.ok.inj hok
    exact hf s e hM

/-- What every query that is asked keeps holds to the end, and so does what the program ends in. -/
theorem triple_invariant {T : Q → Prop} {I : E → Prop} (hI : ∀ e q, T q → I e → I (handle e q).2)
    {p : Program S Q A α} {R : S → α → Prop} (hp : Meets T R p) :
    Triple handle (fun _ e => I e) p fun a s e => I e ∧ R s a := by
  intro s e he
  have hc := hp s
  unfold execIn
  generalize p s = c at hc
  induction c generalizing e with
  | done s a => exact ⟨he, hc⟩
  | ask s q k ih => exact ih _ _ (hI e q hc.1 he) (hc.2 _)

/-- A program that asks only what an oracle answers, by what it does with that oracle. -/
theorem triple_of_exec {T : Q → Prop} {answers : E → Oracle Q A} {setAnswers : Oracle Q A → E → E}
    (hE : FromOracle handle T answers setAnswers) {p : Program S Q A α}
    (hp : Meets T (fun _ _ => True) p) {R : α → S → E → Prop}
    (h : ∀ s e, P s e → R (exec p s (answers e)).1 (exec p s (answers e)).2.1
      (setAnswers (exec p s (answers e)).2.2 e)) : Triple handle P p R := by
  intro s e hs
  rw [execIn_eq_exec hE hp]
  exact h s e hs

/-! ## Loops -/

/-- One after the other, up to the first that fails. -/
def forEach (f : α → Program S Q A (Except ε Unit)) : List α → Program S Q A (Except ε Unit)
  | [] => Pure.pure (.ok ())
  | x :: xs => attempt (f x) fun _ => forEach f xs

/-- The invariant of a loop says what is still to do. -/
theorem triple_forEach {f : α → Program S Q A (Except ε Unit)} (I : List α → S → E → Prop)
    {R : ε → S → E → Prop} {xs : List α}
    (h : ∀ x rest, Triple handle (I (x :: rest)) (f x) fun r s e =>
      (r = .ok () ∧ I rest s e) ∨ ∃ err, r = .error err ∧ R err s e) :
    Triple handle (I xs) (forEach f xs) fun r s e =>
      (r = .ok () ∧ I [] s e) ∨ ∃ err, r = .error err ∧ R err s e := by
  induction xs with
  | nil => exact triple_pure fun s e hI => .inl ⟨rfl, hI⟩
  | cons x xs ih =>
      refine triple_attempt (h x xs) ?_ fun _ => ?_
      · rintro err s e (⟨hok, -⟩ | herr)
        · cases hok
        · exact .inr herr
      · rintro s e (⟨-, hI⟩ | ⟨err, herr, -⟩)
        · exact ih s e hI
        · cases herr

end Rules

end Program

end SummitUsbgadget.Lib
