import Mathlib.Data.List.Basic

/-!
# Buffers that can be cut and grown

A buffer has contents and a capacity. Cutting it divides both; growing it leaves room for what was
asked for, and how much more it leaves is up to the allocator.
-/

set_option autoImplicit false

namespace SummitUsbgadget.Lib

/-- A growable buffer. -/
structure BytesMut (α : Type) where
  data : List α
  capacity : Nat
  fits : data.length ≤ capacity

namespace BytesMut

variable {α : Type}

def len (b : BytesMut α) : Nat := b.data.length

def withCapacity (n : Nat) : BytesMut α := ⟨[], n, Nat.zero_le n⟩

/-- A buffer of that capacity after `data` was read into it. No read gives more than fits; if one
did, the buffer would be as large as the data. -/
def filled (capacity : Nat) (data : List α) : BytesMut α :=
  ⟨data, max capacity data.length, Nat.le_max_right _ _⟩

/-- Drops the contents and keeps the room. -/
def clear (b : BytesMut α) : BytesMut α := ⟨[], b.capacity, Nat.zero_le _⟩

/-- Makes room for `n` more bytes; a buffer that has it stays as it is. The allocator leaves `extra`
bytes more than it has to. -/
def reserve (n extra : Nat) (b : BytesMut α) : BytesMut α :=
  if n ≤ b.capacity - b.len then b
  else ⟨b.data, b.len + n + extra, Nat.le_add_right_of_le (Nat.le_add_right _ _)⟩

/-- The part before `n`: it ends where it is cut. -/
def front (n : Nat) (b : BytesMut α) : BytesMut α :=
  ⟨b.data.take n, n, List.length_take_le n b.data⟩

/-- The part from `n` on: it keeps the room at the end. -/
def back (n : Nat) (b : BytesMut α) : BytesMut α :=
  ⟨b.data.drop n, b.capacity - n, by
    rw [List.length_drop]
    exact Nat.sub_le_sub_right b.fits n⟩

@[simp] theorem capacity_withCapacity (n : Nat) : (withCapacity n : BytesMut α).capacity = n := rfl

@[simp] theorem capacity_clear (b : BytesMut α) : b.clear.capacity = b.capacity := rfl

theorem reserve_of_room {n : Nat} {b : BytesMut α} (h : n ≤ b.capacity - b.len) (extra : Nat) :
    b.reserve n extra = b :=
  if_pos h

theorem capacity_reserve {n : Nat} {b : BytesMut α} (h : b.capacity - b.len < n) (extra : Nat) :
    (b.reserve n extra).capacity = b.len + n + extra :=
  congrArg capacity (if_neg (Nat.not_le_of_lt h))

end BytesMut

end SummitUsbgadget.Lib
