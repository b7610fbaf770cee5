import Mathlib.Tactic.Common

/-!
# Saturating arithmetic on 32-bit numbers

Sums, products and differences that stop at the end of the range, and a division that has no result
for a divisor of zero. Every operation comes with its value as a natural number, so that an argument
about a chain of them is one about `min`, `+` and `*`.
-/

set_option autoImplicit false

namespace SummitUsbgadget.Lib

/-- The largest 32-bit number. -/
def u32Max : Nat := UInt32.size - 1

/-- The 32-bit number closest to `n`. -/
def saturate (n : Nat) : UInt32 := UInt32.ofNat (min n u32Max)

def saturatingAdd (a b : UInt32) : UInt32 := saturate (a.toNat + b.toNat)

def saturatingMul (a b : UInt32) : UInt32 := saturate (a.toNat * b.toNat)

/-- A difference below zero is zero. -/
def saturatingSub (a b : UInt32) : UInt32 := saturate (a.toNat - b.toNat)

/-- `none` for a divisor of zero. -/
def checkedDiv (a b : UInt32) : Option UInt32 := if b = 0 then none else some (a / b)

theorem checkedDiv_of_ne {b : UInt32} (a : UInt32) (h : b ≠ 0) : checkedDiv a b = some (a / b) :=
  if_neg h

@[simp] theorem toNat_saturate (n : Nat) : (saturate n).toNat = min n u32Max := by
  have hlt : min n u32Max < UInt32.size := by
    have hle : min n u32Max ≤ u32Max := Nat.min_le_right n u32Max
    have hmax : u32Max < UInt32.size := by decide
    omega
  exact UInt32.toNat_ofNat_of_lt hlt

@[simp] theorem toNat_saturatingAdd (a b : UInt32) :
    (saturatingAdd a b).toNat = min (a.toNat + b.toNat) u32Max := toNat_saturate _

@[simp] theorem toNat_saturatingMul (a b : UInt32) :
    (saturatingMul a b).toNat = min (a.toNat * b.toNat) u32Max := toNat_saturate _

theorem toNat_le_u32Max (a : UInt32) : a.toNat ≤ u32Max := Nat.le_pred_of_lt a.toNat_lt

@[simp] theorem toNat_saturatingSub (a b : UInt32) :
    (saturatingSub a b).toNat = a.toNat - b.toNat := by
  have hle := toNat_le_u32Max a
  rw [saturatingSub, toNat_saturate]
  omega

@[simp] theorem toNat_min (a b : UInt32) : (min a b).toNat = min a.toNat b.toNat := by
  by_cases h : a ≤ b
  · rw [Nat.min_eq_left (UInt32.le_iff_toNat_le.1 h)]
    exact congrArg UInt32.toNat (if_pos h)
  · rw [Nat.min_eq_right (Nat.le_of_not_le fun hle => h (UInt32.le_iff_toNat_le.2 hle))]
    exact congrArg UInt32.toNat (if_neg h)

end SummitUsbgadget.Lib
