import Mathlib.Data.List.Nodup
import Mathlib.Tactic.Common

/-!
# Positions in a list that is thinned out

When a list is filtered, the elements that are left move to the front. `positions` are the places
that they had; an element keeps its place exactly if everything in front of it is left as well, and
that is so for any increasing list of places.
-/

set_option autoImplicit false

namespace SummitUsbgadget.Lib

variable {α : Type} {p : α → Bool} {xs : List α}

/-- The places of the elements that satisfy `p`. -/
def positions (p : α → Bool) (xs : List α) : List Nat :=
  (xs.zipIdx.filter fun x => p x.1).map Prod.snd

theorem mem_positions {i : Nat} : i ∈ positions p xs ↔ ∃ x, xs[i]? = some x ∧ p x = true := by
  constructor
  · intro h
    obtain ⟨⟨x, j⟩, hmem, rfl⟩ := List.mem_map.1 h
    obtain ⟨hidx, hp⟩ := List.mem_filter.1 hmem
    exact ⟨x, List.mem_zipIdx_iff_getElem?.1 hidx, hp⟩
  · rintro ⟨x, hx, hp⟩
    have hidx : (x, i) ∈ xs.zipIdx := List.mem_zipIdx_iff_getElem?.2 hx
    exact List.mem_map.2 ⟨(x, i), List.mem_filter.2 ⟨hidx, hp⟩, rfl⟩

theorem positions_increasing : (positions p xs).Pairwise (· < ·) := by
  have hsub : (positions p xs).Sublist (xs.zipIdx.map Prod.snd) :=
    List.Sublist.map Prod.snd List.filter_sublist
  rw [List.zipIdx_map_snd] at hsub
  exact List.Pairwise.sublist hsub List.pairwise_lt_range'

/-- The elements at the positions are those that are left, in the same order. -/
theorem map_getElem?_positions : (positions p xs).map (xs[·]?) = (xs.filter p).map some := by
  have hfirst : xs.filter p = (xs.zipIdx.filter fun x => p x.1).map Prod.fst := by
    conv_lhs => rw [← List.zipIdx_map_fst 0 xs]
    rw [List.filter_map]
    rfl
  rw [positions, hfirst, List.map_map, List.map_map]
  refine List.map_congr_left fun x hx => ?_
  exact List.mem_zipIdx_iff_getElem?.1 (List.mem_filter.1 hx).1

/-! ## Increasing lists of places -/

section Increasing

variable {kept : List Nat} {i k : Nat}

theorem increasing_pred (h : kept.Pairwise (· < ·)) (hk : kept[k + 1]? = some i) :
    ∃ j, kept[k]? = some j ∧ j < i := by
  obtain ⟨hlen, rfl⟩ := List.getElem?_eq_some_iff.1 hk
  have hlen' : k < kept.length := Nat.lt_of_succ_lt hlen
  refine ⟨kept[k], List.getElem?_eq_getElem hlen', ?_⟩
  exact List.pairwise_iff_getElem.1 h k (k + 1) hlen' hlen (Nat.lt_succ_self k)

theorem le_of_increasing (h : kept.Pairwise (· < ·)) (hk : kept[k]? = some i) : k ≤ i := by
  induction k generalizing i with
  | zero => exact Nat.zero_le i
  | succ k ih =>
      obtain ⟨j, hj, hlt⟩ := increasing_pred h hk
      exact Nat.lt_of_le_of_lt (ih hj) hlt

/-- A place that is kept where it was has all places in front of it kept. -/
theorem mem_of_in_place (h : kept.Pairwise (· < ·)) (hi : kept[i]? = some i) {j : Nat}
    (hj : j ≤ i) :
    j ∈ kept := by
  induction i with
  | zero => exact Nat.le_zero.1 hj ▸ List.mem_of_getElem? hi
  | succ i ih =>
      obtain ⟨i', hi', hlt⟩ := increasing_pred h hi
      obtain rfl : i' = i := Nat.le_antisymm (Nat.le_of_lt_succ hlt) (le_of_increasing h hi')
      obtain hle | rfl := Nat.le_succ_iff.1 hj
      · exact ih hi' hle
      · exact List.mem_of_getElem? hi

theorem in_place_of_mem (h : kept.Pairwise (· < ·)) (hmem : ∀ j ≤ i, j ∈ kept) :
    kept[i]? = some i := by
  induction i using Nat.strongRecOn with
  | ind i ih =>
      obtain ⟨k, hk⟩ := List.getElem?_of_mem (hmem i (Nat.le_refl i))
      obtain hlt | rfl := Nat.lt_or_eq_of_le (le_of_increasing h hk)
      · -- the place `k` is taken already
        have htaken := ih k hlt fun j hj => hmem j (Nat.le_trans hj (Nat.le_of_lt hlt))
        obtain rfl : i = k := Option.some.inj (hk.symm.trans htaken)
        exact hk
      · exact hk

end Increasing

end SummitUsbgadget.Lib
