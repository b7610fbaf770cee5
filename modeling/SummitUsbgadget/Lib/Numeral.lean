import Mathlib.Algebra.Group.Nat.Defs
import Mathlib.Tactic.Common

/-!
# Numerals of fixed width

`numeral base width n` lists the last `width` digits of `n`, most significant first: the shape of a
length field and of a zero-padded number. Reading it back with the usual fold gives `n` again as
long as the width suffices, and `toDigits` padded with zeros is such a numeral.
-/

set_option autoImplicit false

namespace SummitUsbgadget.Lib

/-- The last `width` digits of `n`, most significant first. -/
def numeral (base : Nat) : Nat → Nat → List Nat
  | 0, _ => []
  | width + 1, n => numeral base width (n / base) ++ [n % base]

section Numeral

variable {base : Nat}

@[simp] theorem length_numeral (base width n : Nat) : (numeral base width n).length = width := by
  induction width generalizing n with
  | zero => rfl
  | succ width ih => simp [numeral, ih]

theorem lt_of_mem_numeral (hbase : 0 < base) {width n d : Nat} (h : d ∈ numeral base width n) :
    d < base := by
  induction width generalizing n with
  | zero => cases h
  | succ width ih =>
      rcases List.mem_append.1 h with hfront | hlast
      · exact ih hfront
      · rw [List.mem_singleton.1 hlast]
        exact Nat.mod_lt n hbase

@[simp] theorem numeral_zero (base width : Nat) :
    numeral base width 0 = List.replicate width 0 := by
  induction width with
  | zero => rfl
  | succ width ih => rw [numeral, Nat.zero_div, Nat.zero_mod, ih, List.replicate_succ']

/-- Digit by digit, from the front. -/
theorem numeral_eq_map (base width n : Nat) :
    numeral base width n = (List.range width).map fun i => n / base ^ (width - 1 - i) % base := by
  induction width generalizing n with
  | zero => rfl
  | succ width ih =>
      -- the digits in front of the last one are those of the quotient
      have hfront : ((List.range width).map fun i => n / base ^ (width + 1 - 1 - i) % base) =
          (List.range width).map fun i => n / base / base ^ (width - 1 - i) % base := by
        refine List.map_congr_left fun i hi => ?_
        have hexp : width + 1 - 1 - i = width - 1 - i + 1 := by
          have := List.mem_range.1 hi
          omega
        rw [hexp, Nat.pow_succ', Nat.div_div_eq_div_mul]
      rw [numeral, ih, List.range_succ, List.map_append, hfront]
      simp

/-- The number that a numeral spells behind `acc`. -/
theorem foldl_numeral (base width n acc : Nat) :
    (numeral base width n).foldl (fun n d => n * base + d) acc =
      acc * base ^ width + n % base ^ width := by
  induction width generalizing n with
  | zero => simp [numeral, Nat.mod_one]
  | succ width ih =>
      rw [numeral, List.foldl_append, ih, List.foldl_cons, List.foldl_nil, Nat.pow_succ',
        Nat.mod_mul, Nat.add_mul, Nat.mul_assoc, Nat.mul_comm (base ^ width) base,
        Nat.mul_comm (n / base % base ^ width) base]
      omega

theorem digit_of_mem_toDigits (hbase : 1 < base) {n : Nat} {c : Char}
    (h : c ∈ Nat.toDigits base n) : ∃ d < base, c = d.digitChar := by
  induction n using Nat.strongRecOn with
  | ind n ih =>
      by_cases hlt : n < base
      · rw [Nat.toDigits_of_lt_base hlt, List.mem_singleton] at h
        exact ⟨n, hlt, h⟩
      · have hle : base ≤ n := Nat.le_of_not_lt hlt
        rw [Nat.toDigits_of_base_le hbase hle, List.mem_append, List.mem_singleton] at h
        rcases h with hfront | rfl
        · exact ih (n / base) (Nat.div_lt_self (by omega) hbase) hfront
        · exact ⟨n % base, Nat.mod_lt n (by omega), rfl⟩

/-- A number written with `toDigits` and filled up with zeros is a numeral. -/
theorem toDigits_padded (hbase : 1 < base) {width n : Nat} (hwidth : 0 < width)
    (hn : n < base ^ width) :
    List.replicate (width - (Nat.toDigits base n).length) '0' ++ Nat.toDigits base n =
      (numeral base width n).map Nat.digitChar := by
  induction width generalizing n with
  | zero => exact absurd hwidth (Nat.lt_irrefl 0)
  | succ width ih =>
      by_cases hlt : n < base
      · rw [Nat.toDigits_of_lt_base hlt, numeral, Nat.div_eq_of_lt hlt, Nat.mod_eq_of_lt hlt]
        simp [Nat.digitChar]
      · -- one digit goes, and the quotient is shorter
        have hle : base ≤ n := Nat.le_of_not_lt hlt
        have hquot : n / base < base ^ width := by
          rw [Nat.div_lt_iff_lt_mul (by omega), ← Nat.pow_succ]
          exact hn
        have hpos : 0 < width := by
          rcases Nat.eq_zero_or_pos width with rfl | hpos
          · have := Nat.div_pos hle (by omega)
            simp only [Nat.pow_zero] at hquot
            omega
          · exact hpos
        rw [Nat.toDigits_of_base_le hbase hle, numeral, List.map_append, ← ih hpos hquot,
          List.length_append, List.length_singleton, Nat.add_sub_add_right, List.append_assoc]
        rfl

end Numeral

end SummitUsbgadget.Lib
