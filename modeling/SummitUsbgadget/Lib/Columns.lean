import Mathlib.Data.List.AList
import Mathlib.Data.List.Lattice

/-!
# Tables with a column for each key

A table has a column for each key that was seen so far. Rows come one after another. A row need not
have a value for each key, and it may have new keys: a default stands where there is none, also in
the rows that came before. `Even` is the invariant: all columns have the same length. `Shows` says
that a row is found in the table at its index; it stays there when rows are added.
-/

set_option autoImplicit false

namespace SummitUsbgadget.Lib

variable {K V : Type}

abbrev Row (K V : Type) := AList fun _ : K => V

abbrev Columns (K V : Type) := AList fun _ : K => List V

namespace Columns

/-- The number of rows, as the first column has them. -/
def height (t : Columns K V) : Nat :=
  match t.entries with
  | [] => 0
  | entry :: _ => entry.2.length

variable [DecidableEq K]

/-- A value is put at the end of a column; a column that is new has defaults before it. -/
def pushCell (d : V) (row : Row K V) (n : Nat) (t : Columns K V) (k : K) : Columns K V :=
  t.insert k ((t.lookup k).getD (List.replicate n d) ++ [(row.lookup k).getD d])

/-- Adds a row. -/
def addRow (d : V) (row : Row K V) (t : Columns K V) : Columns K V :=
  (t.keys ∪ row.keys).foldl (pushCell d row t.height) t

/-- Each column is pushed to once. -/
theorem lookup_foldl_pushCell (d : V) (row : Row K V) (n : Nat) (k : K) {ks : List K}
    (hks : ks.Nodup) (t : Columns K V) :
    (ks.foldl (pushCell d row n) t).lookup k =
      if k ∈ ks then some ((t.lookup k).getD (List.replicate n d) ++ [(row.lookup k).getD d])
      else t.lookup k := by
  induction ks generalizing t with
  | nil => rfl
  | cons key ks ih =>
      obtain ⟨hkey, hnodup⟩ := List.nodup_cons.1 hks
      rw [List.foldl_cons, ih hnodup]
      by_cases heq : k = key
      · subst heq
        rw [if_neg hkey, if_pos List.mem_cons_self]
        exact AList.lookup_insert t
      · have hlookup : (pushCell d row n t key).lookup k = t.lookup k := AList.lookup_insert_ne heq
        rw [hlookup]
        simp only [List.mem_cons, heq, false_or]

theorem lookup_addRow (d : V) (row : Row K V) (t : Columns K V) (k : K) :
    (addRow d row t).lookup k =
      if k ∈ t ∨ k ∈ row then
        some ((t.lookup k).getD (List.replicate t.height d) ++ [(row.lookup k).getD d])
      else none := by
  have hnodup : (t.keys ∪ row.keys).Nodup := List.Nodup.union _ row.keys_nodup
  rw [addRow, lookup_foldl_pushCell d row t.height k hnodup]
  simp only [List.mem_union_iff, ← AList.mem_keys]
  split
  · rfl
  · next h => exact AList.lookup_eq_none.2 fun hmem => h (.inl hmem)

/-- All columns have `n` values, and there are no rows as long as there are no columns. -/
structure Even (n : Nat) (t : Columns K V) : Prop where
  length : ∀ k column, t.lookup k = some column → column.length = n
  empty : t.entries = [] → n = 0

theorem even_empty : Even 0 (∅ : Columns K V) where
  length := by
    intro k column h
    rw [AList.lookup_empty] at h
    cases h
  empty := fun _ => rfl

/-- A row of the table, counted from one. -/
structure Shows (d : V) (n : Nat) (t : Columns K V) (row : Row K V) (i : Nat) : Prop where
  pos : 1 ≤ i
  le : i ≤ n
  keys : ∀ k ∈ row, k ∈ t
  cell : ∀ k column, t.lookup k = some column → column[i - 1]? = some ((row.lookup k).getD d)

section Rows

variable {d : V} {n : Nat} {t : Columns K V}

theorem Even.height_eq (h : Even n t) : t.height = n := by
  unfold height
  split
  · next he => exact (h.empty he).symm
  · next entry rest he =>
      have hmem : entry ∈ t.entries := he ▸ List.mem_cons_self
      exact h.length entry.1 entry.2 (AList.mem_lookup_iff.2 hmem)

theorem mem_addRow {row : Row K V} {k : K} : k ∈ addRow d row t ↔ k ∈ t ∨ k ∈ row := by
  rw [← AList.lookup_isSome, lookup_addRow]
  split
  · next h => exact ⟨fun _ => h, fun _ => rfl⟩
  · next h => exact ⟨nofun, fun hmem => absurd hmem h⟩

/-- A column after a row was added. -/
theorem Even.lookup_addRow_eq_some (h : Even n t) {row : Row K V} {k : K} {column : List V}
    (hk : (addRow d row t).lookup k = some column) :
    column = (t.lookup k).getD (List.replicate n d) ++ [(row.lookup k).getD d] := by
  rw [lookup_addRow, h.height_eq] at hk
  split at hk
  · exact (Option.some.inj hk).symm
  · cases hk

theorem Even.length_getD (h : Even n t) (k : K) :
    ((t.lookup k).getD (List.replicate n d)).length = n := by
  cases hk : t.lookup k with
  | none => exact List.length_replicate
  | some column => exact h.length k column hk

/-- A row that has a key, or that comes when there are columns, makes the table longer. -/
theorem Even.addRow (h : Even n t) {row : Row K V} (hkeys : ∃ k, k ∈ t ∨ k ∈ row) :
    Even (n + 1) (addRow d row t) where
  length := by
    intro k column hk
    rw [h.lookup_addRow_eq_some hk, List.length_append, h.length_getD]
    rfl
  empty := by
    intro hempty
    obtain ⟨k, hk⟩ := hkeys
    have hmem : k ∈ Columns.addRow d row t := mem_addRow.2 hk
    rw [AList.mem_keys, AList.keys, hempty] at hmem
    cases hmem

/-- The rows that were there stay where they are. -/
theorem Shows.addRow {r : Row K V} {i : Nat} (hi : Shows d n t r i) (h : Even n t) (row : Row K V) :
    Shows d (n + 1) (addRow d row t) r i where
  pos := hi.pos
  le := Nat.le_succ_of_le hi.le
  keys := fun k hk => mem_addRow.2 (.inl (hi.keys k hk))
  cell := by
    intro k column hk
    have hpos := hi.pos
    have hle := hi.le
    rw [h.lookup_addRow_eq_some hk]
    have hlt : i - 1 < ((t.lookup k).getD (List.replicate n d)).length := by
      rw [h.length_getD]
      omega
    rw [List.getElem?_append_left hlt]
    cases ht : t.lookup k with
    | some old => exact hi.cell k old ht
    | none =>
        -- a column that is new shows the default, and the old row has nothing for it
        have hrow : r.lookup k = none :=
          AList.lookup_eq_none.2 fun hmem => AList.lookup_eq_none.1 ht (hi.keys k hmem)
        rw [hrow]
        exact List.getElem?_replicate_of_lt (by omega)

/-- The new row is the last one. -/
theorem shows_addRow (h : Even n t) (row : Row K V) :
    Shows d (n + 1) (addRow d row t) row (n + 1) where
  pos := Nat.le_add_left 1 n
  le := Nat.le_refl _
  keys := fun k hk => mem_addRow.2 (.inr hk)
  cell := by
    intro k column hk
    rw [h.lookup_addRow_eq_some hk]
    have hlength := h.length_getD (d := d) k
    rw [Nat.add_sub_cancel, List.getElem?_append_right (Nat.le_of_eq hlength),
      hlength, Nat.sub_self]
    rfl

/-- Without a key nothing changes. -/
theorem addRow_eq_self {row : Row K V} (hkeys : ¬ ∃ k, k ∈ t ∨ k ∈ row) : addRow d row t = t := by
  have hnone : t.keys ∪ row.keys = [] := by
    apply List.eq_nil_iff_forall_not_mem.2
    intro k hk
    exact hkeys ⟨k, List.mem_union_iff.1 hk⟩
  rw [Columns.addRow, hnone]
  rfl

/-- What holds of all values and of the default holds when a row was added. -/
theorem forall_cell_addRow {P : K → V → Prop} (hd : ∀ k, P k d) {row : Row K V}
    (ht : ∀ k column, t.lookup k = some column → ∀ v ∈ column, P k v)
    (hrow : ∀ k v, row.lookup k = some v → P k v) :
    ∀ k column, (Columns.addRow d row t).lookup k = some column → ∀ v ∈ column, P k v := by
  intro k column hk v hv
  rw [lookup_addRow] at hk
  split at hk
  · cases hk
    rcases List.mem_append.1 hv with hold | hnew
    · cases hlookup : t.lookup k with
      | none =>
          rw [hlookup] at hold
          rw [List.eq_of_mem_replicate hold]
          exact hd k
      | some old =>
          rw [hlookup] at hold
          exact ht k old hlookup v hold
    · rw [List.mem_singleton.1 hnew]
      cases hlookup : row.lookup k with
      | none => exact hd k
      | some value => exact hrow k value hlookup
  · cases hk

end Rows

end Columns

end SummitUsbgadget.Lib
