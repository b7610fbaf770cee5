import Mathlib.Data.Finset.Card
import Mathlib.Data.List.Nodup

/-!
# Lists with one item for each key

A program that keeps a set of keys beside a list of the items that belong to them has to keep the
two in step. `OneEach` says that it does, and the lemmas say that it goes on doing so when an item
is pushed under a new key and when the item of a key is removed.
-/

set_option autoImplicit false

namespace SummitUsbgadget.Lib

universe u v

variable {α : Type u} {κ : Type v}

/-- The items are one for each key of the set, and none for any other key. -/
structure OneEach (key : α → κ) (keys : Finset κ) (items : List α) : Prop where
  nodup : (items.map key).Nodup
  mem_iff : ∀ k, k ∈ keys ↔ k ∈ items.map key

variable {key : α → κ} {keys : Finset κ} {items : List α}

theorem oneEach_nil : OneEach key ∅ [] where
  nodup := List.nodup_nil
  mem_iff := by simp

namespace OneEach

variable [DecidableEq κ]

/-- An item under a new key. -/
theorem push (h : OneEach key keys items) {a : α} (hnew : key a ∉ keys) :
    OneEach key (insert (key a) keys) (items ++ [a]) := by
  have hfresh : key a ∉ items.map key := fun hmem => hnew ((h.mem_iff (key a)).2 hmem)
  constructor
  · rw [List.map_append, List.map_singleton, List.nodup_append_comm, List.singleton_append,
      List.nodup_cons]
    exact ⟨hfresh, h.nodup⟩
  · intro k
    rw [Finset.mem_insert, List.map_append, List.mem_append, List.map_singleton, List.mem_singleton,
      h.mem_iff k]
    exact or_comm

/-- Without the item of a key. -/
theorem erase (h : OneEach key keys items) (k : κ) :
    OneEach key (keys.erase k) (items.eraseP fun a => key a = k) := by
  have hmap : (items.eraseP fun a => key a = k).map key = (items.map key).erase k := by
    have hkey : (fun a => decide (key a = k)) = (fun k' => k == k') ∘ key := by
      funext a
      rw [Function.comp_apply, Bool.beq_eq_decide_eq]
      exact decide_eq_decide.2 eq_comm
    rw [List.erase_eq_eraseP, List.eraseP_map, hkey]
  constructor
  · rw [hmap]
    exact h.nodup.erase k
  · intro k'
    rw [Finset.mem_erase, hmap, h.nodup.mem_erase_iff, h.mem_iff k']

/-- A key of the set has its item. -/
theorem find (h : OneEach key keys items) {k : κ} (hk : k ∈ keys) :
    ∃ a, (items.find? fun a => key a = k) = some a ∧ key a = k := by
  obtain ⟨a, ha, rfl⟩ := List.mem_map.1 ((h.mem_iff k).1 hk)
  have hsome : (items.find? fun b => key b = key a).isSome := by
    rw [List.find?_isSome]
    exact ⟨a, ha, decide_eq_true rfl⟩
  obtain ⟨b, hb⟩ := Option.isSome_iff_exists.1 hsome
  have hkey := List.find?_some hb
  exact ⟨b, hb, of_decide_eq_true hkey⟩

theorem count (h : OneEach key keys items) (k : κ) :
    (items.map key).count k = if k ∈ keys then 1 else 0 := by
  by_cases hk : k ∈ keys
  · rw [if_pos hk]
    exact List.count_eq_one_of_mem h.nodup ((h.mem_iff k).1 hk)
  · rw [if_neg hk]
    exact List.count_eq_zero.2 fun hmem => hk ((h.mem_iff k).2 hmem)

theorem length_eq_card (h : OneEach key keys items) : items.length = keys.card := by
  have hkeys : keys = (items.map key).toFinset := by
    ext k
    rw [List.mem_toFinset]
    exact h.mem_iff k
  rw [hkeys, List.toFinset_card_of_nodup h.nodup, List.length_map]

end OneEach

end SummitUsbgadget.Lib
