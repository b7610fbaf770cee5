import Mathlib.Algebra.Group.Nat.Defs
import Mathlib.Data.List.Basic
import Mathlib.Tactic.Common

/-!
# Reading back what was written

A reader takes a value off the front of some bytes, or refuses them. `Reads r bs a` says that it
takes `a` off `bs`, whatever follows them; such facts compose along the reader (`reads_bind`), so a
format is read back if each of its fields is. Numbers are little-endian and of a fixed width.
`readAll` is for a whole message.
-/

set_option autoImplicit false

namespace SummitUsbgadget.Lib

/-! ## Numbers -/

/-- The number in `width` bytes, the lowest one first. -/
def leBytes : Nat → Nat → List UInt8
  | 0, _ => []
  | width + 1, n => UInt8.ofNat n :: leBytes width (n / 256)

def ofLeBytes : List UInt8 → Nat
  | [] => 0
  | b :: bs => b.toNat + 256 * ofLeBytes bs

@[simp] theorem length_leBytes (width n : Nat) : (leBytes width n).length = width := by
  induction width generalizing n with
  | zero => rfl
  | succ width ih => rw [leBytes, List.length_cons, ih]

/-- The number fits, or its upper part is cut off. -/
theorem ofLeBytes_leBytes (width n : Nat) : ofLeBytes (leBytes width n) = n % 256 ^ width := by
  induction width generalizing n with
  | zero => simp [leBytes, ofLeBytes, Nat.mod_one]
  | succ width ih =>
      have hpow : 256 ^ (width + 1) = 256 * 256 ^ width := by rw [Nat.pow_succ, Nat.mul_comm]
      rw [leBytes, ofLeBytes, ih, UInt8.toNat_ofNat', hpow, Nat.mod_mul]

/-! ## Readers -/

/-- Takes a value off the front. -/
def Reader (α : Type) : Type := List UInt8 → Option (α × List UInt8)

instance : Monad Reader where
  pure a := fun bs => some (a, bs)
  bind r f := fun bs =>
    match r bs with
    | some (a, rest) => f a rest
    | none => none

namespace Reader

variable {α β : Type}

/-- The next `n` bytes. -/
def take (n : Nat) : Reader (List UInt8) := fun bs =>
  if n ≤ bs.length then some (bs.take n, bs.drop n) else none

/-- The next number. -/
def le (width : Nat) : Reader Nat := ofLeBytes <$> take width

def byte : Reader UInt8 := fun bs =>
  match bs with
  | [] => none
  | b :: rest => some (b, rest)

/-- Goes on only if the condition holds. -/
def check (c : Prop) [Decidable c] : Reader Unit := fun bs => if c then some ((), bs) else none

/-- One value after the other. -/
def times (r : Reader α) : Nat → Reader (List α)
  | 0 => pure []
  | n + 1 => do
      let a ← r
      let as ← times r n
      pure (a :: as)

/-- The bytes up to the next zero, which is taken off as well. -/
def cString : Reader (List UInt8) := fun bs =>
  if (0 : UInt8) ∈ bs then some (bs.takeWhile (· ≠ 0), (bs.dropWhile (· ≠ 0)).drop 1) else none

/-- A value that is all that there is. -/
def readAll (r : Reader α) (bs : List UInt8) : Option α :=
  match r bs with
  | some (a, []) => some a
  | _ => none

/-- A value that is there, or is not. -/
def ofOption (o : Option α) : Reader α := fun bs => o.map fun a => (a, bs)

/-- A value that takes exactly the next `n` bytes. -/
def within (n : Nat) (r : Reader α) : Reader α := do
  let front ← take n
  ofOption (readAll r front)

end Reader

open Reader

/-- The reader takes `a` off `bs`, whatever follows. -/
def Reads {α : Type} (r : Reader α) (bs : List UInt8) (a : α) : Prop :=
  ∀ rest, r (bs ++ rest) = some (a, rest)

section Rules

variable {α β : Type} {r : Reader α} {bs cs : List UInt8} {a : α} {b : β}

theorem reads_pure (a : α) : Reads (pure a : Reader α) [] a := fun _ => rfl

theorem reads_bind {f : α → Reader β} (hr : Reads r bs a) (hf : Reads (f a) cs b) :
    Reads (r >>= f) (bs ++ cs) b := by
  intro rest
  have h := hr (cs ++ rest)
  rw [← List.append_assoc] at h
  show (match r (bs ++ cs ++ rest) with
    | some (a, rest) => f a rest
    | none => none) = _
  rw [h]
  exact hf rest

theorem reads_map (f : α → β) (hr : Reads r bs a) : Reads (f <$> r) bs (f a) := by
  intro rest
  show (match r (bs ++ rest) with
    | some (a, rest) => some (f a, rest)
    | none => none) = _
  rw [hr rest]

theorem reads_take (bs : List UInt8) : Reads (take bs.length) bs bs := by
  intro rest
  unfold Reader.take
  rw [if_pos (by simp), List.take_left, List.drop_left]

theorem reads_le {width n : Nat} (h : n < 256 ^ width) : Reads (le width) (leBytes width n) n := by
  have htake := reads_take (leBytes width n)
  rw [length_leBytes] at htake
  have hmap := reads_map ofLeBytes htake
  rw [ofLeBytes_leBytes, Nat.mod_eq_of_lt h] at hmap
  exact hmap

theorem reads_byte (b : UInt8) : Reads byte [b] b := fun _ => rfl

theorem reads_check {c : Prop} [Decidable c] (h : c) : Reads (check c) [] () :=
  fun _ => if_pos h

/-- A check takes nothing off. -/
theorem reads_check_bind {c : Prop} [Decidable c] {f : Unit → Reader β} (h : c)
    (hf : Reads (f ()) bs b) :
    Reads (check c >>= f) bs b :=
  reads_bind (reads_check h) hf

theorem reads_bind_pure {f : α → β} (hr : Reads r bs a) :
    Reads (r >>= fun a => pure (f a)) bs (f a) := by
  have h := reads_bind (f := fun a => pure (f a)) hr (reads_pure (f a))
  rw [List.append_nil] at h
  exact h

/-- Each value is read back from its own bytes. -/
theorem reads_times {γ : Type} {write : γ → List UInt8} {value : γ → α} {xs : List γ}
    (h : ∀ x ∈ xs, Reads r (write x) (value x)) :
    Reads (times r xs.length) (xs.flatMap write) (xs.map value) := by
  induction xs with
  | nil => exact reads_pure []
  | cons x xs ih =>
      have hx := h x List.mem_cons_self
      have hxs := ih fun y hy => h y (List.mem_cons_of_mem x hy)
      exact reads_bind hx (reads_bind_pure hxs)

theorem reads_cString {bs : List UInt8} (h : (0 : UInt8) ∉ bs) : Reads cString (bs ++ [0]) bs := by
  intro rest
  have hne : ∀ b ∈ bs, (decide (b ≠ 0)) = true := by
    intro b hb
    rw [decide_eq_true_eq]
    rintro rfl
    exact h hb
  unfold Reader.cString
  rw [if_pos (by simp), List.append_assoc, List.takeWhile_append_of_pos hne,
    List.dropWhile_append_of_pos hne]
  simp

theorem readAll_of_reads (h : Reads r bs a) : readAll r bs = some a := by
  have hbs := h []
  rw [List.append_nil] at hbs
  unfold Reader.readAll
  rw [hbs]

theorem reads_within (h : Reads r bs a) : Reads (within bs.length r) bs a := by
  have hall : Reads (ofOption (readAll r bs)) [] a := by
    rw [readAll_of_reads h]
    exact reads_pure a
  have hbind := reads_bind (f := fun front => ofOption (readAll r front)) (reads_take bs) hall
  rw [List.append_nil] at hbind
  exact hbind

end Rules

/-! ## Computations that may fail -/

section Writers

variable {ε α β γ : Type}

theorem bind_eq_ok {x : Except ε α} {f : α → Except ε β} {b : β} :
    (x >>= f) = .ok b ↔ ∃ a, x = .ok a ∧ f a = .ok b := by
  cases x with
  | error err => exact ⟨nofun, nofun⟩
  | ok a =>
      constructor
      · intro h
        exact ⟨a, rfl, h⟩
      · rintro ⟨a', ha, h⟩
        cases ha
        exact h

/-- The invariant of a loop over a list with positions. -/
theorem foldlM_zipIdx {f : β → α × Nat → Except ε β} (I : List α → β → Prop)
    (hstep : ∀ done x b b', I done b → f b (x, done.length) = .ok b' →
      I (done ++ [x]) b') {xs : List α}
    {b b' : β} (hb : I [] b) (h : xs.zipIdx.foldlM f b = .ok b') : I xs b' := by
  have hall : ∀ (xs done : List α) (b : β), I done b →
      (xs.zipIdx done.length).foldlM f b = .ok b' → I (done ++ xs) b' := by
    intro xs
    induction xs with
    | nil =>
        intro done b hdone hrun
        cases hrun
        rw [List.append_nil]
        exact hdone
    | cons x xs ih =>
        intro done b hdone hrun
        rw [List.zipIdx_cons, List.foldlM_cons] at hrun
        obtain ⟨c, hc, hrest⟩ := bind_eq_ok.1 hrun
        have hnext := hstep done x b c hdone hc
        have hlength : (done ++ [x]).length = done.length + 1 := List.length_append
        rw [← hlength] at hrest
        have hend := ih (done ++ [x]) c hnext hrest
        rw [List.append_assoc] at hend
        exact hend
  exact hall xs [] b hb h

/-- A loop that gets through each step as long as its invariant holds gets to its end. -/
theorem foldlM_zipIdx_of_steps {f : β → α × Nat → Except ε β} (I : List α → β → Prop)
    {xs : List α} {b : β} (hstep : ∀ done x rest b, xs = done ++ x :: rest → I done b →
      ∃ b', f b (x, done.length) = .ok b' ∧ I (done ++ [x]) b')
    (hb : I [] b) : ∃ b', xs.zipIdx.foldlM f b = .ok b' := by
  have hall : ∀ (rest done : List α) (b : β), xs = done ++ rest → I done b →
      ∃ b', (rest.zipIdx done.length).foldlM f b = .ok b' := by
    intro rest
    induction rest with
    | nil => exact fun done b _ _ => ⟨b, rfl⟩
    | cons x rest ih =>
        intro done b hxs hdone
        obtain ⟨c, hc, hnext⟩ := hstep done x rest b hxs hdone
        have hlength : (done ++ [x]).length = done.length + 1 := List.length_append
        obtain ⟨b', hb'⟩ := ih (done ++ [x]) c (by rw [hxs, List.append_assoc]; rfl) hnext
        refine ⟨b', ?_⟩
        rw [List.zipIdx_cons, List.foldlM_cons, hc, ← hlength]
        exact hb'
  exact hall xs [] b rfl hb

/-- Two nested loops are one loop. -/
theorem foldlM_flatMap {f : β → α → Except ε β} (g : γ → List α) (xs : List γ) (b : β) :
    (xs.flatMap g).foldlM f b = xs.foldlM (fun b x => (g x).foldlM f b) b := by
  induction xs generalizing b with
  | nil => rfl
  | cons x xs ih =>
      rw [List.flatMap_cons, List.foldlM_append, List.foldlM_cons]
      exact bind_congr ih

/-- What is written for each of the values, one after the other. -/
def writeEach (write : γ → Except ε (List UInt8)) : List γ → Except ε (List UInt8)
  | [] => .ok []
  | x :: xs => do
      let bs ← write x
      let rest ← writeEach write xs
      pure (bs ++ rest)

theorem reads_writeEach {r : Reader α} {write : γ → Except ε (List UInt8)}
    {value : γ → α} {xs : List γ} {bs : List UInt8} (hw : writeEach write xs = .ok bs)
    (h : ∀ x ∈ xs, ∀ b, write x = .ok b → Reads r b (value x)) :
    Reads (times r xs.length) bs (xs.map value) := by
  induction xs generalizing bs with
  | nil =>
      cases hw
      exact reads_pure []
  | cons x xs ih =>
      obtain ⟨b, hb, hrest⟩ := bind_eq_ok.1 hw
      obtain ⟨cs, hcs, heq⟩ := bind_eq_ok.1 hrest
      cases heq
      have hx := h x List.mem_cons_self b hb
      have hxs := ih hcs fun y hy => h y (List.mem_cons_of_mem x hy)
      exact reads_bind hx (reads_bind_pure hxs)

/-- Overwrites a number that was left open. -/
def patch (offset width n : Nat) (bs : List UInt8) : List UInt8 :=
  bs.take offset ++ leBytes width n ++ bs.drop (offset + width)

theorem patch_append (front hole back : List UInt8) (n : Nat) :
    patch front.length hole.length n (front ++ (hole ++ back)) =
      front ++ (leBytes hole.length n ++ back) := by
  unfold patch
  rw [List.take_left, List.append_assoc, ← List.drop_drop, List.drop_left, List.drop_left]

end Writers

end SummitUsbgadget.Lib
