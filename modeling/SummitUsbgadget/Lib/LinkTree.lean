import Mathlib.Data.List.AList
import SummitUsbgadget.Lib.Hoare

/-!
# Directories with links

A tree has directories and links at its paths, and a link keeps its target from being removed. A
directory is removed if it is empty and no link leads to it (`rmdir`), a link at any time
(`unlink`). While a tree is taken apart, what is left is the tree without the paths that were
removed: `Without R t t'` says so for a set `R` of paths, and the rules for `rmdir` and `unlink` add
one path to it.
-/

set_option autoImplicit false

namespace SummitUsbgadget.Lib

variable {K : Type}

inductive Node (K : Type) where
  | dir
  | link (target : List K)
  deriving DecidableEq, Repr

abbrev LinkTree (K : Type) := AList fun _ : List K => Node K

namespace LinkTree

/-- The last part of a path, if the path is right below another one. -/
def childName [DecidableEq K] (p q : List K) : Option K :=
  if q.dropLast = p then q.getLast? else none

variable [DecidableEq K] {t t' : LinkTree K} {p q : List K} {R : List K → Prop}

theorem childName_eq_some {k : K} : childName p q = some k ↔ q = p ++ [k] := by
  unfold childName
  constructor
  · intro h
    split at h
    · next hp =>
        subst hp
        exact (List.dropLast_append_getLast? k h).symm
    · cases h
  · rintro rfl
    rw [List.dropLast_concat, if_pos rfl, List.getLast?_concat]

/-- What is right below a path. -/
def children (p : List K) (t : LinkTree K) : List (K × Node K) :=
  t.entries.filterMap fun e => (childName p e.1).map fun k => (k, e.2)

theorem mem_children {k : K} {n : Node K} : (k, n) ∈ children p t ↔
    t.lookup (p ++ [k]) = some n := by
  unfold children
  rw [List.mem_filterMap]
  constructor
  · rintro ⟨⟨q, m⟩, hmem, heq⟩
    obtain ⟨k', hk, hpair⟩ := Option.map_eq_some_iff.1 heq
    cases hpair
    have hq : q = p ++ [k] := childName_eq_some.1 hk
    subst hq
    exact AList.mem_lookup_iff.2 hmem
  · intro h
    refine ⟨⟨p ++ [k], n⟩, AList.mem_lookup_iff.1 h, ?_⟩
    exact Option.map_eq_some_iff.2 ⟨k, childName_eq_some.2 rfl, rfl⟩

/-- No two children have the same name. -/
theorem nodup_children (p : List K) (t : LinkTree K) : ((children p t).map Prod.fst).Nodup := by
  have hnames : (children p t).map Prod.fst = t.keys.filterMap (childName p) := by
    unfold children AList.keys List.keys
    rw [List.map_filterMap, List.filterMap_map]
    refine List.filterMap_congr fun e _ => ?_
    cases hname : childName p e.1 with
    | none => simp [hname]
    | some k => simp [hname]
  rw [hnames]
  refine List.Nodup.filterMap ?_ t.keys_nodup
  intro q q' k hq hq'
  rw [childName_eq_some.1 hq, childName_eq_some.1 hq']

/-- Why a directory cannot be removed. -/
inductive Refusal where
  | notFound
  | notEmpty
  | busy
  deriving DecidableEq, Repr

def rmdir (p : List K) (t : LinkTree K) : Except Refusal (LinkTree K) :=
  if t.lookup p ≠ some .dir then .error .notFound
  else if t.entries.any fun e => p.isPrefixOf e.1 && decide (e.1 ≠ p) then .error .notEmpty
  else if t.entries.any fun e => decide (e.2 = .link p) then .error .busy
  else .ok (t.erase p)

def unlink (p : List K) (t : LinkTree K) : Except Refusal (LinkTree K) :=
  match t.lookup p with
  | some (.link _) => .ok (t.erase p)
  | _ => .error .notFound

/-- With a path there are all that are below it. -/
def Closed (R : List K → Prop) : Prop := ∀ q q', q <+: q' → R q → R q'

omit [DecidableEq K] in
theorem closed_under (p : List K) : Closed (p <+: ·) := fun _ _ hqq' hq => hq.trans hqq'

omit [DecidableEq K] in
theorem Closed.or {R' : List K → Prop} (h : Closed R) (h' : Closed R') : Closed fun q =>
    R q ∨ R' q := by
  rintro q q' hqq' (hq | hq)
  · exact .inl (h q q' hqq' hq)
  · exact .inr (h' q q' hqq' hq)

/-- The tree `t'` is `t` without the paths in `R`. -/
structure Without (R : List K → Prop) (t t' : LinkTree K) : Prop where
  gone : ∀ q, R q → t'.lookup q = none
  kept : ∀ q, ¬ R q → t'.lookup q = t.lookup q

namespace Without

theorem refl (t : LinkTree K) : Without (fun _ => False) t t := ⟨nofun, fun _ _ => rfl⟩

/-- The set may be replaced where it makes no difference. -/
theorem congr {R' : List K → Prop} (h : Without R t t')
    (hR : ∀ q, t.lookup q ≠ none → (R q ↔ R' q)) :
    Without R' t t' where
  gone := by
    intro q hq
    by_cases ht : t.lookup q = none
    · by_cases hold : R q
      · exact h.gone q hold
      · rw [h.kept q hold]
        exact ht
    · exact h.gone q ((hR q ht).2 hq)
  kept := by
    intro q hq
    by_cases ht : t.lookup q = none
    · by_cases hold : R q
      · rw [h.gone q hold, ht]
      · exact h.kept q hold
    · exact h.kept q fun hold => hq ((hR q ht).1 hold)

theorem lookup_eq_some {n : Node K} (h : Without R t t') : t'.lookup q = some n ↔
    t.lookup q = some n ∧ ¬ R q := by
  by_cases hq : R q
  · rw [h.gone q hq]
    exact ⟨nofun, fun hn => absurd hq hn.2⟩
  · rw [h.kept q hq]
    exact ⟨fun hn => ⟨hn, hq⟩, fun hn => hn.1⟩

theorem erase (h : Without R t t') : Without (fun q => R q ∨ q = p) t (t'.erase p) where
  gone := by
    rintro q (hq | rfl)
    · by_cases heq : q = p
      · subst heq
        exact AList.lookup_erase q t'
      · rw [AList.lookup_erase_ne heq]
        exact h.gone q hq
    · exact AList.lookup_erase q t'
  kept := by
    intro q hq
    obtain ⟨hold, hne⟩ := not_or.1 hq
    rw [AList.lookup_erase_ne hne]
    exact h.kept q hold

/-- A link that is left can be removed. -/
theorem unlink {target : List K} (h : Without R t t') (hp : t.lookup p = some (.link target))
    (hR : ¬ R p) :
    LinkTree.unlink p t' = .ok (t'.erase p) := by
  unfold LinkTree.unlink
  rw [h.kept p hR, hp]

/-- A directory that is left can be removed when all that was below it and all links to it are
gone. -/
theorem rmdir (h : Without R t t') (hp : t.lookup p = some .dir) (hR : ¬ R p)
    (hbelow : ∀ q n, t.lookup q = some n → p <+: q → q ≠ p → R q)
    (hlinks : ∀ q, t.lookup q = some (.link p) → R q) : LinkTree.rmdir p t' = .ok (t'.erase p) := by
  have hleft : ∀ e ∈ t'.entries, t.lookup e.1 = some e.2 ∧ ¬ R e.1 :=
    fun e he => h.lookup_eq_some.1 (AList.mem_lookup_iff.2 he)
  have hempty : ¬ (t'.entries.any fun e => p.isPrefixOf e.1 && decide (e.1 ≠ p)) = true := by
    intro hany
    obtain ⟨e, he, hcond⟩ := List.any_eq_true.1 hany
    obtain ⟨hunder, hne⟩ := Bool.and_eq_true_iff.1 hcond
    obtain ⟨hlookup, hnot⟩ := hleft e he
    exact hnot (hbelow e.1 e.2 hlookup (List.isPrefixOf_iff_prefix.1 hunder)
      (of_decide_eq_true hne))
  have hfree : ¬ (t'.entries.any fun e => decide (e.2 = .link p)) = true := by
    intro hany
    obtain ⟨e, he, hcond⟩ := List.any_eq_true.1 hany
    obtain ⟨hlookup, hnot⟩ := hleft e he
    rw [of_decide_eq_true hcond] at hlookup
    exact hnot (hlinks e.1 hlookup)
  unfold LinkTree.rmdir
  rw [h.kept p hR, hp, if_neg (not_not.2 rfl), if_neg hempty, if_neg hfree]

end Without

/-! ## Taking a directory apart -/

section Loop

open Program

variable {S Q E α ε : Type} {A : Q → Type} {handle : Handler E Q A}

omit [DecidableEq K] in
/-- A loop over the entries of a directory, which takes away some of them with all that is below.
`At R` says that the paths in `R` are gone. -/
theorem triple_forEach_entries {body : α → Program S Q A (Except ε Unit)} {name : α → K}
    {takes : α → Bool} {entries : List α} (p : List K) (At : (List K → Prop) → S → E → Prop)
    (Err : ε → S → E → Prop) (hR : Closed R) (hnodup : ((entries.filter takes).map name).Nodup)
    (hskip : ∀ x R, takes x = false → Triple handle (At R) (body x) fun r s e =>
      r = .ok () ∧ At R s e)
    (htake : ∀ x ∈ entries, takes x = true → ∀ R' : List K → Prop,
      Closed R' → (∀ q, R q → R' q) → (∀ q, R' q → R q ∨ ∃ y, y ≠ name x ∧ p ++ [y] <+: q) →
      Triple handle (At R') (body x) fun r s e =>
        (r = .ok () ∧ At (fun q => R' q ∨ p ++ [name x] <+: q) s e) ∨
          ∃ err, r = .error err ∧ Err err s e)
    (hcongr : ∀ R₁ R₂ s e, (∀ q, R₁ q ↔ R₂ q) → At R₁ s e → At R₂ s e) :
    Triple handle (At R) (forEach body entries) fun r s e =>
      (r = .ok () ∧ At (fun q => R q ∨ ∃ x ∈ entries, takes x = true ∧ p ++ [name x] <+: q) s e) ∨
        ∃ err, r = .error err ∧ Err err s e := by
  refine triple_conseq (triple_forEach (R := Err) (fun rest s e => ∃ done, done ++ rest = entries ∧
    At (fun q => R q ∨ ∃ x ∈ done, takes x = true ∧ p ++ [name x] <+: q) s e) ?_) ?_ ?_
  · intro x rest s e hI
    obtain ⟨done, hdone, hat⟩ := hI
    have hnext : (done ++ [x]) ++ rest = entries := by
      rw [← hdone, List.append_assoc]
      rfl
    cases hx : takes x with
    | false =>
        obtain ⟨hok, hat'⟩ := hskip x _ hx s e hat
        refine .inl ⟨hok, done ++ [x], hnext, hcongr _ _ _ _ (fun q => ?_) hat'⟩
        simp [hx]
    | true =>
        have hmem : x ∈ entries := by
          rw [← hdone]
          exact List.mem_append_right done List.mem_cons_self
        -- the entries that are done have other names
        have hother : ∀ y ∈ done, takes y = true → name y ≠ name x := by
          intro y hy hty heq
          rw [← hdone, List.filter_append, List.map_append, List.nodup_append] at hnodup
          refine hnodup.2.2 (name y) ?_ (name x) ?_ heq
          · exact List.mem_map_of_mem (List.mem_filter.2 ⟨hy, hty⟩)
          · exact List.mem_map_of_mem (List.mem_filter.2 ⟨List.mem_cons_self, hx⟩)
        have hregion : ∀ q, (R q ∨ ∃ y ∈ done, takes y = true ∧ p ++ [name y] <+: q) →
            R q ∨ ∃ y, y ≠ name x ∧ p ++ [y] <+: q := by
          rintro q (hq | ⟨y, hy, hty, hunder⟩)
          · exact .inl hq
          · exact .inr ⟨name y, hother y hy hty, hunder⟩
        have hclosed : Closed fun q => R q ∨ ∃ y ∈ done, takes y = true ∧ p ++ [name y] <+: q :=
          hR.or fun q q' hqq' ⟨y, hy, hty, hunder⟩ => ⟨y, hy, hty, hunder.trans hqq'⟩
        rcases htake x hmem hx _ hclosed (fun q hq => .inl hq) hregion s e hat with
          ⟨hok, hat'⟩ | herr
        · refine .inl ⟨hok, done ++ [x], hnext, hcongr _ _ _ _ (fun q => ?_) hat'⟩
          simp only [List.mem_append, List.mem_singleton, or_assoc, or_and_right, exists_or]
          simp [hx]
        · exact .inr herr
  · intro s e hR
    refine ⟨[], rfl, hcongr _ _ s e (fun q => ?_) hR⟩
    simp
  · rintro r s e (⟨hok, done, hdone, hat⟩ | herr)
    · rw [List.append_nil] at hdone
      exact .inl ⟨hok, hdone ▸ hat⟩
    · exact .inr herr

end Loop

end LinkTree

end SummitUsbgadget.Lib
