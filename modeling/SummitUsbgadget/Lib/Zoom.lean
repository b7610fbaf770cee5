import SummitUsbgadget.Lib.Coroutine

/-!
# Programs over a part of the state

`zoom` runs a program on a part of a larger state. A program over the larger state may also keep
books on the rest of it; `Erases` says that it is another program once that rest is forgotten: it
asks the same queries, in states whose parts are the same, and ends with the same value. What is
known about the smaller program then holds for the part (`Erases.exec`, `Erases.waiting`,
`Erases.asked`).
-/

set_option autoImplicit false

namespace SummitUsbgadget.Lib

/-- A part of a state that can be exchanged. -/
structure Part (T S : Type) where
  get : T → S
  put : S → T → T
  get_put : ∀ s t, get (put s t) = s

variable {S T Q : Type} {A : Q → Type} {α α' β β' : Type}

namespace Coroutine

def zoom (l : Part T S) (t : T) : Coroutine S Q A α → Coroutine T Q A α
  | .done s a => .done (l.put s t) a
  | .ask s q k => .ask (l.put s t) q fun r => (k r).zoom l t

/-- The coroutine that is left when the state is seen through `f` and the value through `g`. -/
def erase (f : T → S) (g : α' → α) : Coroutine T Q A α' → Coroutine S Q A α
  | .done t a => .done (f t) (g a)
  | .ask t q k => .ask (f t) q fun r => (k r).erase f g

theorem erase_zoom (l : Part T S) (t : T) (c : Coroutine S Q A α) :
    (c.zoom l t).erase l.get id = c := by
  induction c with
  | done s a => exact congrArg (Coroutine.done · a) (l.get_put s t)
  | ask s q k ih =>
      show Coroutine.ask (l.get (l.put s t)) q _ = _
      rw [l.get_put]
      exact congrArg (Coroutine.ask s q) (funext ih)

/-- A bind is erased by erasing its parts. -/
theorem erase_bind {f : T → S} {g : α' → α} {h : β' → β} (c : Coroutine T Q A α')
    {p' : α' → Program T Q A β'} {p : α → Program S Q A β}
    (hp : ∀ a t, (p' a t).erase f h = p (g a) (f t)) :
    (c.bind p').erase f h = (c.erase f g).bind p := by
  induction c with
  | done t a => exact hp a t
  | ask t q k ih => exact congrArg (Coroutine.ask (f t) q) (funext ih)

theorem bind_pure (c : Coroutine S Q A α) : (c.bind fun a s => .done s a) = c := by
  induction c with
  | done s a => rfl
  | ask s q k ih => exact congrArg (Coroutine.ask s q) (funext ih)

theorem run_erase (f : T → S) (g : α' → α) (c : Coroutine T Q A α') (o : Oracle Q A) :
    (c.erase f g).run o = (g (c.run o).1, f (c.run o).2.1, (c.run o).2.2) := by
  induction c generalizing o with
  | done t a => rfl
  | ask t q k ih => exact ih (o 0 q) o.rest

theorem waiting_erase (f : T → S) (g : α' → α) (c : Coroutine T Q A α') (n : Nat)
    (o : Oracle Q A) :
    (c.erase f g).waiting n o = (c.waiting n o).map fun x => (f x.1, x.2) := by
  induction c generalizing n o with
  | done t a => cases n <;> rfl
  | ask t q k ih =>
      cases n with
      | zero => rfl
      | succ n => exact ih (o 0 q) n o.rest

theorem asked_erase (f : T → S) (g : α' → α) (c : Coroutine T Q A α') (o : Oracle Q A) :
    (c.erase f g).asked o = (c.asked o).map fun x => (f x.1, x.2) := by
  induction c generalizing o with
  | done t a => rfl
  | ask t q k ih => exact congrArg ((f t, q) :: ·) (ih (o 0 q) o.rest)

end Coroutine

namespace Program

/-- The program works on the part and leaves the rest alone. -/
def zoom (l : Part T S) (p : Program S Q A α) : Program T Q A α :=
  fun t => (p (l.get t)).zoom l t

/-- The program works on the part; at its end the books are brought up to date, with a look at the
state before. -/
def zoomThen (l : Part T S) (p : Program S Q A α) (books : T → T → T) : Program T Q A α :=
  fun t => (p.zoom l t).bind fun a t' => .done (books t t') a

/-- Seen through `f`, the state of `p'` is that of `p`; seen through `g`, so is its value. -/
def Erases (f : T → S) (g : α' → α) (p' : Program T Q A α') (p : Program S Q A α) : Prop :=
  ∀ t, (p' t).erase f g = p (f t)

section Erases

variable {f : T → S}

theorem erases_zoom (l : Part T S) (p : Program S Q A α) : Erases l.get id (zoom l p) p :=
  fun t => Coroutine.erase_zoom l t (p (l.get t))

/-- Books that the part does not show. -/
theorem erases_zoomThen (l : Part T S) (p : Program S Q A α) {books : T → T → T}
    (h : ∀ t t', l.get (books t t') = l.get t') : Erases l.get id (zoomThen l p books) p := by
  intro t
  have hzoom := Coroutine.erase_zoom l t (p (l.get t))
  show ((Coroutine.zoom l t (p (l.get t))).bind _).erase l.get id = _
  generalize Coroutine.zoom l t (p (l.get t)) = c at hzoom ⊢
  rw [← hzoom]
  clear hzoom
  induction c with
  | done t' a => exact congrArg (Coroutine.done · a) (h t t')
  | ask t' q k ih => exact congrArg (Coroutine.ask (l.get t') q) (funext ih)

theorem erases_pure {g : α' → α} (a : α') :
    Erases f g (Pure.pure a : Program T Q A α') (Pure.pure (g a) : Program S Q A α) :=
  fun _ => rfl

theorem erases_read {r' : T → α} {r : S → α} (h : ∀ t, r' t = r (f t)) :
    Erases f id (read r' : Program T Q A α) (read r) :=
  fun t => congrArg (Coroutine.done (f t)) (h t)

theorem erases_ask (q : Q) : Erases f id (ask q : Program T Q A (A q)) (ask q) := fun _ => rfl

theorem erases_bind {g : α' → α} {h : β' → β} {p' : Program T Q A α'} {p : Program S Q A α}
    {n' : α' → Program T Q A β'} {n : α → Program S Q A β} (hp : Erases f g p' p)
    (hn : ∀ a, Erases f h (n' a) (n (g a))) : Erases f h (p' >>= n') (p >>= n) := by
  intro t
  refine (Coroutine.erase_bind (p' t) fun a t' => hn a t').trans ?_
  exact congrArg (Coroutine.bind · n) (hp t)

/-- What only changes the value is erased if the value is seen as before. -/
theorem erases_bind_pure {g : α' → α} {h : β' → α} {p' : Program T Q A α'} {p : Program S Q A α}
    {n' : α' → Program T Q A β'} (hp : Erases f g p' p)
    (hn : ∀ a, Erases f h (n' a) (Pure.pure (g a) : Program S Q A α)) :
    Erases f h (p' >>= n') p := by
  intro t
  rw [← Coroutine.bind_pure (p (f t))]
  exact erases_bind hp hn t

/-- An update of the rest is erased altogether. -/
theorem erases_update_bind {h : β' → β} {u : T → T} {n' : Unit → Program T Q A β'}
    {p : Program S Q A β} (hu : ∀ t, f (u t) = f t) (hn : Erases f h (n' ()) p) :
    Erases f h (update u >>= n') p :=
  fun t => (hn (u t)).trans (congrArg p (hu t))

theorem erases_ite {g : α' → α} {c c' : Prop} [Decidable c] [Decidable c']
    {p' q' : Program T Q A α'} {p q : Program S Q A α} (hc : c' ↔ c) (hp : Erases f g p' p)
    (hq : Erases f g q' q) : Erases f g (if c' then p' else q') (if c then p else q) := by
  by_cases h : c
  · rw [if_pos (hc.2 h), if_pos h]
    exact hp
  · rw [if_neg fun h' => h (hc.1 h'), if_neg h]
    exact hq

end Erases

namespace Erases

variable {f : T → S} {g : α' → α} {p' : Program T Q A α'} {p : Program S Q A α}

/-- The part after the run is what the smaller program leaves. -/
theorem exec (h : Erases f g p' p) (t : T) (o : Oracle Q A) :
    Program.exec p (f t) o =
      (g (Program.exec p' t o).1, f (Program.exec p' t o).2.1, (Program.exec p' t o).2.2) := by
  unfold Program.exec
  rw [← h t]
  exact Coroutine.run_erase f g (p' t) o

theorem waiting (h : Erases f g p' p) (t : T) (n : Nat) (o : Oracle Q A) :
    (p (f t)).waiting n o = ((p' t).waiting n o).map fun x => (f x.1, x.2) := by
  rw [← h t]
  exact Coroutine.waiting_erase f g (p' t) n o

theorem asked (h : Erases f g p' p) (t : T) (o : Oracle Q A) :
    (p (f t)).asked o = ((p' t).asked o).map fun x => (f x.1, x.2) := by
  rw [← h t]
  exact Coroutine.asked_erase f g (p' t) o

end Erases

end Program

end SummitUsbgadget.Lib
