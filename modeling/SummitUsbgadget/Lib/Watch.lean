import Mathlib.Tactic.Common

/-!
# Watch channels

A watch channel hands its latest value to a receiver. Every value that is sent gets a new version;
the receiver remembers the version it has looked at, so it can tell that there was a newer one, but
not how many there were, nor what the others have been.
-/

set_option autoImplicit false

namespace SummitUsbgadget.Lib

/-- A watch channel with one receiver, which has looked at version `seen`. -/
structure Watch (α : Type) where
  value : α
  version : Nat
  seen : Nat
  seen_le : seen ≤ version

namespace Watch

variable {α : Type}

/-- A new channel; its receiver counts the first value as seen. -/
def channel (value : α) : Watch α := ⟨value, 0, 0, Nat.le_refl 0⟩

def send (value : α) (w : Watch α) : Watch α :=
  ⟨value, w.version + 1, w.seen, Nat.le_succ_of_le w.seen_le⟩

/-- There is a version that the receiver has not looked at. -/
def pending (w : Watch α) : Bool := w.seen < w.version

/-- The receiver looks at the value. -/
def markSeen (w : Watch α) : Watch α := ⟨w.value, w.version, w.version, Nat.le_refl _⟩

@[simp] theorem pending_send (value : α) (w : Watch α) : (w.send value).pending = true :=
  decide_eq_true (Nat.lt_succ_of_le w.seen_le)

@[simp] theorem value_markSeen (w : Watch α) : w.markSeen.value = w.value := rfl

end Watch

end SummitUsbgadget.Lib
