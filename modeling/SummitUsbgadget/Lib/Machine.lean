import Mathlib.Data.List.Basic

/-!
# Runs of a deterministic machine

A machine is a step function that takes a state and an input. Nondeterminism of the surroundings is
part of the input, so a statement about all input lists is a statement about all behaviours of the
surroundings. `Along` says that every step of a run meets a condition on the state before the step
and on the input; `run_invariant` is the induction rule that every safety result of a machine
instantiates, `run_filterMap` the one for runs that differ in some inputs only, and `run_simulation`
the one for two machines over the same inputs. `always_iff_along` is the rule for a condition that
is necessary as well. `states` is the run over an endless list of inputs, and `leads_to` the rule
for progress: what persists until a helpful moment comes, and changes with it, changes if helpful
moments keep coming.
-/

set_option autoImplicit false

namespace SummitUsbgadget.Lib

universe u v

variable {σ : Type u} {ι : Type v}

/-- The state after the inputs `is`, taken in order. -/
def run (step : σ → ι → σ) : σ → List ι → σ
  | s, [] => s
  | s, i :: is => run step (step s i) is

/-- Every step of the run from `s` over the inputs meets `P` in the state before it. -/
def Along (step : σ → ι → σ) (P : σ → ι → Prop) : σ → List ι → Prop
  | _, [] => True
  | s, i :: is => P s i ∧ Along step P (step s i) is

instance decidableAlong (step : σ → ι → σ) (P : σ → ι → Prop) [∀ s i, Decidable (P s i)] :
    (s : σ) → (is : List ι) → Decidable (Along step P s is)
  | _, [] => .isTrue trivial
  | s, i :: is =>
      have := decidableAlong step P (step s i) is
      inferInstanceAs (Decidable (P s i ∧ Along step P (step s i) is))

section Runs

variable (step : σ → ι → σ) {P Q : σ → ι → Prop}

@[simp] theorem run_nil (s : σ) : run step s [] = s := rfl

@[simp] theorem run_cons (s : σ) (i : ι) (is : List ι) :
    run step s (i :: is) = run step (step s i) is := rfl

theorem run_append (s : σ) (is js : List ι) :
    run step s (is ++ js) = run step (run step s is) js := by
  induction is generalizing s with
  | nil => rfl
  | cons i is ih => exact ih (step s i)

@[simp] theorem run_concat (s : σ) (is : List ι) (i : ι) :
    run step s (is ++ [i]) = step (run step s is) i := by
  rw [run_append]
  rfl

@[simp] theorem along_nil (s : σ) : Along step P s [] := trivial

@[simp] theorem along_cons (s : σ) (i : ι) (is : List ι) :
    Along step P s (i :: is) ↔ P s i ∧ Along step P (step s i) is := Iff.rfl

theorem along_append (s : σ) (is js : List ι) :
    Along step P s (is ++ js) ↔ Along step P s is ∧ Along step P (run step s is) js := by
  induction is generalizing s with
  | nil => simp
  | cons i is ih => simp [ih, and_assoc]

variable {step}

theorem Along.and_mem {A : ι → Prop} {s : σ} {is : List ι} (hA : ∀ i ∈ is, A i)
    (h : Along step P s is) : Along step (fun s i => A i ∧ P s i) s is := by
  induction is generalizing s with
  | nil => trivial
  | cons i is ih =>
      exact ⟨⟨hA i (by simp), h.1⟩, ih (fun j hj => hA j (by simp [hj])) h.2⟩

/-- A condition on the inputs alone is met along every run over such inputs. -/
theorem along_of_forall_mem {A : ι → Prop} {s : σ} {is : List ι} (hA : ∀ i ∈ is, A i) :
    Along step (fun _ i => A i) s is := by
  induction is generalizing s with
  | nil => trivial
  | cons i is ih => exact ⟨hA i (by simp), ih fun j hj => hA j (by simp [hj])⟩

/-- A condition met along a run may be replaced by one that follows from it in every state that
satisfies an invariant. -/
theorem Along.imp_of_invariant {I : σ → Prop} (hstep : ∀ s i, I s → I (step s i))
    (hPQ : ∀ s i, I s → P s i → Q s i) {s : σ} {is : List ι} (h0 : I s)
    (h : Along step P s is) : Along step Q s is := by
  induction is generalizing s with
  | nil => trivial
  | cons i is ih => exact ⟨hPQ s i h0 h.1, ih (hstep s i h0) h.2⟩

/-- An invariant that every step meeting `P` preserves holds at the end of every run whose
steps all meet `P`. -/
theorem run_invariant {I : σ → Prop} (hstep : ∀ s i, I s → P s i → I (step s i))
    {s : σ} {is : List ι} (h0 : I s) (h : Along step P s is) : I (run step s is) := by
  induction is generalizing s with
  | nil => exact h0
  | cons i is ih => exact ih (hstep s i h0 h.1) h.2

/-- The rule for invariants that every step preserves. -/
theorem run_invariant_of_step {I : σ → Prop} (hstep : ∀ s i, I s → I (step s i))
    {s : σ} (is : List ι) (h0 : I s) : I (run step s is) := by
  induction is generalizing s with
  | nil => exact h0
  | cons i is ih => exact ih (hstep s i h0)

/-- If a step that does not meet `P` leads to a state that no run recovers from, then the steps of a
run that ends elsewhere all meet `P`. -/
theorem along_of_run {Bad : σ → Prop} (hstep : ∀ s i, Bad s → Bad (step s i))
    (hbad : ∀ s i, ¬ P s i → Bad (step s i)) {s : σ} {is : List ι}
    (h : ¬ Bad (run step s is)) : Along step P s is := by
  induction is generalizing s with
  | nil => trivial
  | cons i is ih =>
      refine ⟨?_, ih h⟩
      by_contra hP
      exact h (run_invariant_of_step hstep is (hbad s i hP))

/-- If, where an invariant holds, a step leads from a good state to a good state exactly if it meets
`P`, then all states of a run are good exactly if all its steps meet `P`. -/
theorem always_iff_along {J Good : σ → Prop} (hJ : ∀ s i, J s → J (step s i))
    (hiff : ∀ s i, J s → Good s → (Good (step s i) ↔ P s i)) {s : σ} {is : List ι} (h0 : J s)
    (hgood : Good s) :
    (∀ front, front <+: is → Good (run step s front)) ↔ Along step P s is := by
  induction is generalizing s with
  | nil =>
      refine ⟨fun _ => trivial, fun _ front hfront => ?_⟩
      rw [List.prefix_nil.1 hfront]
      exact hgood
  | cons i is ih =>
      constructor
      · intro h
        have hnext : Good (step s i) := h [i] ⟨is, rfl⟩
        refine ⟨(hiff s i h0 hgood).1 hnext, (ih (hJ s i h0) hnext).1 ?_⟩
        intro front hfront
        exact h (i :: front) (List.cons_prefix_cons.2 ⟨rfl, hfront⟩)
      · rintro ⟨hP, hrest⟩ front hfront
        have hnext : Good (step s i) := (hiff s i h0 hgood).2 hP
        cases front with
        | nil => exact hgood
        | cons j front =>
            obtain ⟨rfl, hfront'⟩ := List.cons_prefix_cons.1 hfront
            exact (ih (hJ s j h0) hnext).2 hrest front hfront'

/-- Two runs over inputs of which the first one skips some: they stay related if a skipped input
keeps the relation, and one that is not skipped leads from related states to related states. -/
theorem run_filterMap {R : σ → σ → Prop} {skip : ι → Option ι}
    (hkept : ∀ s t i j, skip i = some j → R s t → P t i → R (step s j) (step t i))
    (hskipped : ∀ s t i, skip i = none → R s t → P t i → R s (step t i))
    {s t : σ} {is : List ι} (h0 : R s t) (h : Along step P t is) :
    R (run step s (is.filterMap skip)) (run step t is) := by
  induction is generalizing s t with
  | nil => exact h0
  | cons i is ih =>
      cases hi : skip i with
      | none =>
          rw [List.filterMap_cons_none hi]
          exact ih (hskipped s t i hi h0 h.1) h.2
      | some j =>
          rw [List.filterMap_cons_some hi]
          exact ih (hkept s t i j hi h0 h.1) h.2

/-- Two machines over the same inputs stay related if every step of the first one that meets `P` is
followed by a step of the second one. -/
theorem run_simulation {τ : Type*} {R : σ → τ → Prop} {step' : τ → ι → τ}
    (hstep : ∀ s t i, R s t → P s i → R (step s i) (step' t i)) {s : σ} {t : τ} {is : List ι}
    (h0 : R s t) (h : Along step P s is) : R (run step s is) (run step' t is) := by
  induction is generalizing s t with
  | nil => exact h0
  | cons i is ih => exact ih (hstep s t i h0 h.1) h.2

/-! ## Endless runs -/

/-- The state after the first `n` inputs. -/
def states (step : σ → ι → σ) (s : σ) (inputs : Nat → ι) : Nat → σ
  | 0 => s
  | n + 1 => step (states step s inputs n) (inputs n)

theorem states_invariant {I : σ → Prop} {s : σ} {inputs : Nat → ι} (h0 : I s)
    (hstep : ∀ n, I (states step s inputs n) → I (step (states step s inputs n) (inputs n)))
    (n : Nat) : I (states step s inputs n) := by
  induction n with
  | zero => exact h0
  | succ n ih => exact hstep n ih

/-- If `A` holds until `B` does, a helpful moment makes `B` hold, and helpful moments keep coming,
then `A` leads to `B`. -/
theorem leads_to {A B F : Nat → Prop} (hstep : ∀ n, A n → A (n + 1) ∨ B (n + 1))
    (hhelp : ∀ n, A n → F n → B (n + 1)) (hfair : ∀ n, A n → ∃ k, n ≤ k ∧ F k) {n : Nat}
    (h : A n) : ∃ k, n < k ∧ B k := by
  obtain ⟨k, hnk, hk⟩ := hfair n h
  -- induction on the distance to the helpful moment
  obtain ⟨j, rfl⟩ := Nat.exists_eq_add_of_le hnk
  induction j generalizing n with
  | zero => exact ⟨n + 1, Nat.lt_succ_self n, hhelp n h hk⟩
  | succ j ih =>
      rcases hstep n h with hA | hB
      · have he : n + (j + 1) = n + 1 + j := by omega
        rw [he] at hk
        obtain ⟨k, hlt, hB⟩ := ih hA (Nat.le_add_right (n + 1) j) hk
        exact ⟨k, by omega, hB⟩
      · exact ⟨n + 1, Nat.lt_succ_self n, hB⟩

end Runs

/-- What can be chosen step after step can be chosen for all steps at once. -/
theorem exists_chain {P : Nat → σ → Prop} {R : Nat → σ → σ → Prop} (h0 : ∃ s, P 0 s)
    (hstep : ∀ n s, P n s → ∃ s', P (n + 1) s' ∧ R n s s') :
    ∃ f : Nat → σ, ∀ n, P n (f n) ∧ R n (f n) (f (n + 1)) := by
  choose next hP hR using hstep
  obtain ⟨s₀, hs₀⟩ := h0
  let f : (n : Nat) → { s // P n s } := Nat.rec ⟨s₀, hs₀⟩ fun n s => ⟨next n s.1 s.2, hP n s.1 s.2⟩
  exact ⟨fun n => (f n).1, fun n => ⟨(f n).2, hR n (f n).1 (f n).2⟩⟩

end SummitUsbgadget.Lib
