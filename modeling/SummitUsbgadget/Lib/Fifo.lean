import Mathlib.Data.List.Basic

/-!
# Bounded queues

A first-in first-out queue that holds at most `capacity` items and refuses more. What was taken out
of it is kept in a ghost field, so `pushed`, everything that ever went in, is what was taken
followed by what is still there: no operation loses, repeats or reorders an item.
-/

set_option autoImplicit false

namespace SummitUsbgadget.Lib

/-- A queue of at most `capacity` items, the oldest first. -/
structure Fifo (α : Type) where
  capacity : Nat
  items : List α
  /-- The items that were taken out, in order. -/
  taken : List α
  bounded : items.length ≤ capacity

namespace Fifo

variable {α : Type}

def empty (capacity : Nat) : Fifo α := ⟨capacity, [], [], Nat.zero_le capacity⟩

def hasRoom (q : Fifo α) : Bool := q.items.length < q.capacity

/-- Everything that ever went in, in order. -/
def pushed (q : Fifo α) : List α := q.taken ++ q.items

/-- Puts an item in; a full queue stays as it is. -/
def push (x : α) (q : Fifo α) : Fifo α :=
  if h : q.items.length < q.capacity then
    ⟨q.capacity, q.items ++ [x], q.taken, by
      rw [List.length_append]
      exact h⟩
  else q

/-- Takes the oldest item out. -/
def pop (q : Fifo α) : Option (α × Fifo α) :=
  match h : q.items with
  | [] => none
  | x :: items =>
      some (x, ⟨q.capacity, items, q.taken ++ [x], by
        have hb := q.bounded
        rw [h] at hb
        exact Nat.le_of_succ_le hb⟩)

@[simp] theorem items_empty (n : Nat) : (empty n : Fifo α).items = [] := rfl

@[simp] theorem taken_empty (n : Nat) : (empty n : Fifo α).taken = [] := rfl

@[simp] theorem pushed_empty (n : Nat) : (empty n : Fifo α).pushed = [] := rfl

@[simp] theorem taken_push (x : α) (q : Fifo α) : (q.push x).taken = q.taken := by
  unfold push
  split <;> rfl

@[simp] theorem capacity_push (x : α) (q : Fifo α) : (q.push x).capacity = q.capacity := by
  unfold push
  split <;> rfl

theorem items_push {x : α} {q : Fifo α} (h : q.hasRoom = true) :
    (q.push x).items = q.items ++ [x] := by
  have hlt : q.items.length < q.capacity := by simpa [hasRoom] using h
  simp [push, hlt]

/-- What is in a queue after a push was there before, or is the new item. -/
theorem mem_items_push {x y : α} {q : Fifo α} (h : y ∈ (q.push x).items) :
    y ∈ q.items ∨ y = x := by
  unfold push at h
  split at h
  · exact (List.mem_append.1 h).imp_right List.mem_singleton.1
  · exact Or.inl h

theorem pushed_push {x : α} {q : Fifo α} (h : q.hasRoom = true) :
    (q.push x).pushed = q.pushed ++ [x] := by
  have hlt : q.items.length < q.capacity := by simpa [hasRoom] using h
  simp [push, hlt, pushed]

theorem pop_eq_none_iff (q : Fifo α) : q.pop = none ↔ q.items = [] := by
  unfold pop
  split <;> simp_all

/-- An item that is taken out was the oldest one. -/
theorem pop_eq_some {x : α} {q q' : Fifo α} (h : q.pop = some (x, q')) :
    q.items = x :: q'.items ∧ q'.taken = q.taken ++ [x] := by
  unfold pop at h
  split at h
  · cases h
  · next y items hitems =>
      cases h
      exact ⟨hitems, rfl⟩

theorem capacity_pop {x : α} {q q' : Fifo α} (h : q.pop = some (x, q')) :
    q'.capacity = q.capacity := by
  unfold pop at h
  split at h
  · cases h
  · cases h
    rfl

theorem pushed_pop {x : α} {q q' : Fifo α} (h : q.pop = some (x, q')) : q'.pushed = q.pushed := by
  obtain ⟨hitems, htaken⟩ := pop_eq_some h
  simp [pushed, hitems, htaken]

end Fifo

end SummitUsbgadget.Lib
