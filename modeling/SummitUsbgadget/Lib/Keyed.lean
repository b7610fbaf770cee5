import Mathlib.Data.List.Basic
import Mathlib.Data.List.Perm.Basic

/-!
# Lists of items with a key

A table or a pool of pending items is a list whose items have a key. `pull` takes out the item of a
key, and `tally` says how often a key occurs, so that what moves from one list to another is a sum
that stays the same.
-/

set_option autoImplicit false

namespace SummitUsbgadget.Lib

universe u v

variable {α : Type u} {κ : Type v} [DecidableEq κ]

/-- How many items have the key. -/
def tally (key : α → κ) (k : κ) (l : List α) : Nat := (l.map key).count k

/-- The first item with the key, and the other ones. -/
def pull (key : α → κ) (k : κ) : List α → Option (α × List α)
  | [] => none
  | x :: xs => if key x = k then some (x, xs) else (pull key k xs).map fun r => (r.1, x :: r.2)

variable {key : α → κ} {k : κ}

@[simp] theorem tally_nil : tally key k [] = 0 := rfl

@[simp] theorem tally_cons (x : α) (l : List α) :
    tally key k (x :: l) = tally key k l + if key x = k then 1 else 0 := by
  simp [tally, List.count_cons]

@[simp] theorem tally_append (l l' : List α) :
    tally key k (l ++ l') = tally key k l + tally key k l' := by
  simp [tally]

theorem tally_take_drop (key : α → κ) (k : κ) (n : Nat) (l : List α) :
    tally key k (l.take n) + tally key k (l.drop n) = tally key k l := by
  rw [← tally_append, List.take_append_drop]

theorem tally_pos_iff {l : List α} : 0 < tally key k l ↔ ∃ x ∈ l, key x = k := by
  rw [tally, List.count_pos_iff, List.mem_map]

theorem tally_eq_zero_iff {l : List α} : tally key k l = 0 ↔ ∀ x ∈ l, key x ≠ k := by
  rw [tally, List.count_eq_zero, List.mem_map]
  exact ⟨fun h x hx he => h ⟨x, hx, he⟩, fun h ⟨x, hx, he⟩ => h x hx he⟩

/-- What is pulled out has the key, and it and the rest are all that was there. -/
theorem pull_eq_some {x : α} {l rest : List α} (h : pull key k l = some (x, rest)) :
    key x = k ∧ l.Perm (x :: rest) := by
  induction l generalizing rest with
  | nil => cases h
  | cons y l ih =>
      rw [pull] at h
      split at h
      · next hy =>
          cases h
          exact ⟨hy, .refl _⟩
      · obtain ⟨⟨z, others⟩, hpull, heq⟩ := Option.map_eq_some_iff.1 h
        cases heq
        obtain ⟨hkey, hperm⟩ := ih hpull
        exact ⟨hkey, (hperm.cons y).trans (.swap ..)⟩

theorem pull_eq_none_iff {l : List α} : pull key k l = none ↔ tally key k l = 0 := by
  induction l with
  | nil => simp [pull]
  | cons y l ih =>
      rw [pull, tally_cons]
      split
      · simp
      · simpa using ih

/-- Pulling an item out takes one off the tally of its key. -/
theorem tally_pull {x : α} {l rest : List α} (h : pull key k l = some (x, rest)) (j : κ) :
    tally key j l = tally key j rest + if k = j then 1 else 0 := by
  obtain ⟨rfl, hperm⟩ := pull_eq_some h
  have hcount := (hperm.map key).count_eq j
  rw [List.map_cons, List.count_cons] at hcount
  simpa [tally] using hcount

theorem mem_of_pull {x : α} {l rest : List α} (h : pull key k l = some (x, rest)) : x ∈ l :=
  (pull_eq_some h).2.mem_iff.2 (List.mem_cons_self ..)

theorem subset_of_pull {x : α} {l rest : List α} (h : pull key k l = some (x, rest)) : rest ⊆ l :=
  fun _ hy => (pull_eq_some h).2.mem_iff.2 (List.mem_cons_of_mem _ hy)

theorem length_pull {x : α} {l rest : List α} (h : pull key k l = some (x, rest)) :
    l.length = rest.length + 1 :=
  (pull_eq_some h).2.length_eq

end SummitUsbgadget.Lib
