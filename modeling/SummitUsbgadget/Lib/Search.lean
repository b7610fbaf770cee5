import Mathlib.Data.List.Infix
import Mathlib.Tactic.Common

/-!
# The first occurrence of a pattern

`splitFirst pat text` cuts `text` where `pat` stands in it for the first time: no occurrence has
less in front of it. For a pattern of one character that is where the character stands for the first
time. `findIdx?` finds the first element with a property: the list splits there.
-/

set_option autoImplicit false

namespace SummitUsbgadget.Lib

variable {α : Type} [DecidableEq α]

/-- What stands in front of the first occurrence of `pat`, and what follows it. -/
def splitFirst (pat : List α) : List α → Option (List α × List α)
  | [] => if pat = [] then some ([], []) else none
  | x :: text =>
      if pat <+: x :: text then some ([], (x :: text).drop pat.length)
      else (splitFirst pat text).map fun (front, back) => (x :: front, back)

/-- The pattern stands somewhere in the text. -/
def contains (pat text : List α) : Bool := (splitFirst pat text).isSome

/-- The first occurrence of `pat` in `text` is the one between `front` and `back`. -/
structure FirstAt (pat text front back : List α) : Prop where
  text_eq : text = front ++ (pat ++ back)
  first : ∀ f b, text = f ++ (pat ++ b) → front.length ≤ f.length

variable {pat text front back : List α}

omit [DecidableEq α] in
/-- An occurrence behind the first element is one in the rest. -/
theorem occurs_tail {x : α} {f b : List α} (hno : ¬ pat <+: x :: text)
    (h : x :: text = f ++ (pat ++ b)) : ∃ f', f = x :: f' ∧ text = f' ++ (pat ++ b) := by
  cases f with
  | nil => exact absurd ⟨b, h.symm⟩ hno
  | cons y f' =>
      obtain ⟨rfl, htail⟩ := List.cons.inj h
      exact ⟨f', rfl, htail⟩

theorem splitFirst_sound (h : splitFirst pat text = some (front, back)) :
    FirstAt pat text front back := by
  induction text generalizing front with
  | nil =>
      rw [splitFirst] at h
      split at h
      · next hnil =>
          obtain ⟨rfl, rfl⟩ := Prod.mk.inj (Option.some.inj h)
          exact ⟨by rw [hnil]; rfl, fun f b _ => Nat.zero_le _⟩
      · cases h
  | cons x text ih =>
      rw [splitFirst] at h
      split at h
      · next hpre =>
          obtain ⟨rfl, rfl⟩ := Prod.mk.inj (Option.some.inj h)
          exact ⟨(List.prefix_append_drop hpre), fun f b _ => Nat.zero_le _⟩
      · next hno =>
          obtain ⟨⟨front', back'⟩, hsplit, heq⟩ := Option.map_eq_some_iff.1 h
          obtain ⟨rfl, rfl⟩ := Prod.mk.inj heq
          have hfirst := ih hsplit
          refine ⟨congrArg (x :: ·) hfirst.text_eq, fun f b hocc => ?_⟩
          obtain ⟨f', rfl, htail⟩ := occurs_tail hno hocc
          exact Nat.succ_le_succ (hfirst.first f' b htail)

theorem splitFirst_isSome {f b : List α} (h : text = f ++ (pat ++ b)) :
    (splitFirst pat text).isSome := by
  induction text generalizing f with
  | nil =>
      have hpat : pat = [] := (List.append_eq_nil_iff.1 (List.append_eq_nil_iff.1 h.symm).2).1
      rw [splitFirst, if_pos hpat]
      rfl
  | cons x text ih =>
      rw [splitFirst]
      split
      · rfl
      · next hno =>
          obtain ⟨f', -, htail⟩ := occurs_tail hno h
          rw [Option.isSome_map]
          exact ih htail

omit [DecidableEq α] in
theorem FirstAt.unique {front' back' : List α} (h : FirstAt pat text front back)
    (h' : FirstAt pat text front' back') : front = front' ∧ back = back' := by
  have hlen : front.length = front'.length :=
    Nat.le_antisymm (h.first _ _ h'.text_eq) (h'.first _ _ h.text_eq)
  obtain ⟨hfront, hrest⟩ := List.append_inj (h.text_eq.symm.trans h'.text_eq) hlen
  exact ⟨hfront, List.append_cancel_left hrest⟩

theorem splitFirst_iff :
    splitFirst pat text = some (front, back) ↔ FirstAt pat text front back := by
  constructor
  · exact splitFirst_sound
  · intro h
    obtain ⟨⟨front', back'⟩, hsplit⟩ := Option.isSome_iff_exists.1 (splitFirst_isSome h.text_eq)
    obtain ⟨rfl, rfl⟩ := h.unique (splitFirst_sound hsplit)
    exact hsplit

theorem contains_iff : contains pat text = true ↔ pat <:+: text := by
  constructor
  · intro h
    obtain ⟨⟨f, b⟩, hsplit⟩ := Option.isSome_iff_exists.1 h
    exact ⟨f, b, by rw [List.append_assoc]; exact (splitFirst_sound hsplit).text_eq.symm⟩
  · rintro ⟨f, b, h⟩
    exact splitFirst_isSome (by rw [← h, List.append_assoc])

omit [DecidableEq α] in
theorem firstAt_singleton_iff {c : α} :
    FirstAt [c] text front back ↔ text = front ++ c :: back ∧ c ∉ front := by
  constructor
  · intro h
    refine ⟨h.text_eq, fun hmem => ?_⟩
    obtain ⟨f, b, rfl⟩ := List.append_of_mem hmem
    have hle := h.first f (b ++ c :: back) (by rw [h.text_eq]; simp)
    rw [List.length_append, List.length_cons] at hle
    omega
  · rintro ⟨rfl, hno⟩
    refine ⟨rfl, fun f b hocc => ?_⟩
    -- a shorter front would leave `c` in `front`
    by_contra hlt
    obtain ⟨t, rfl⟩ : f <+: front :=
      List.prefix_of_prefix_length_le ⟨_, hocc.symm⟩ ⟨_, rfl⟩ (Nat.le_of_not_le hlt)
    rw [List.append_assoc, List.append_cancel_left_eq] at hocc
    cases t with
    | nil => exact hlt (by simp)
    | cons y t =>
        obtain ⟨rfl, -⟩ := List.cons.inj hocc
        exact hno (List.mem_append_right f (List.mem_cons_self ..))

/-! ## The first element with a property -/

section Element

variable {β : Type} {p : β → Bool} {data front back : List β} {i : Nat}

theorem findIdx?_front {b : β} (hfront : ∀ x ∈ front, p x = false) (hb : p b = true) :
    (front ++ b :: back).findIdx? p = some front.length := by
  rw [List.findIdx?_append, List.findIdx?_eq_none_iff.2 hfront]
  simp [List.findIdx?_cons, hb]

/-- A search that ends somewhere splits the list there. -/
theorem split_of_findIdx? (h : data.findIdx? p = some i) :
    ∃ front b back, data = front ++ b :: back ∧ front.length = i ∧ (∀ x ∈ front, p x = false) ∧
      p b = true := by
  induction data generalizing i with
  | nil => cases h
  | cons a data ih =>
      rw [List.findIdx?_cons] at h
      cases ha : p a with
      | true =>
          simp only [ha, if_true, Option.some.injEq] at h
          exact ⟨[], a, data, rfl, h, by simp, ha⟩
      | false =>
          simp only [ha, Bool.false_eq_true, if_false, Option.map_eq_some_iff] at h
          obtain ⟨j, hj, rfl⟩ := h
          obtain ⟨front, b, back, rfl, hlen, hfront, hb⟩ := ih hj
          refine ⟨a :: front, b, back, rfl, by simp [hlen], ?_, hb⟩
          intro x hx
          rcases List.mem_cons.1 hx with rfl | hx
          · exact ha
          · exact hfront x hx

end Element

end SummitUsbgadget.Lib
