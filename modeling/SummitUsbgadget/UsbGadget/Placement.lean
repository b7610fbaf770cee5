import SummitUsbgadget.UsbGadget.Removal

/-!
# The places in a gadget's directory

A tree is regular if everything in it is where a registration makes it and in a directory that was
made for it. That stays so when something is made in its place and when whole directories are taken
away.
-/

set_option autoImplicit false

namespace SummitUsbgadget.UsbGadget.Removal

open SummitUsbgadget.Lib

/-- What may be at a path: the gadget, its configurations with their strings and the links to their
functions, the functions with the logical units of mass storage, the strings and the link of the OS
descriptor. -/
inductive Placed (osDesc : Bool) : List String → Node String → Prop where
  | root : Placed osDesc [] .dir
  | osDescLink (name config : String) : osDesc = true →
      Placed osDesc ["os_desc", name] (.link ["configs", config])
  | config (config : String) : Placed osDesc ["configs", config] .dir
  | configLink (config name function : String) : name ≠ "strings" →
      Placed osDesc ["configs", config, name] (.link ["functions", function])
  | configLang (config lang : String) : Placed osDesc ["configs", config, "strings", lang] .dir
  | function (name : String) : (splitFunctionDir name).isSome →
      Placed osDesc ["functions", name] .dir
  | lun (name lun : String) : driver name = some "mass_storage" →
      DirEntry.isLun ⟨lun, .dir⟩ = true →
      Placed osDesc ["functions", name, lun] .dir
  | lang (lang : String) : Placed osDesc ["strings", lang] .dir

namespace Placed

variable {osDesc : Bool} {n : Node String} {q : List String} {name : String}

theorem of_osDesc (h : Placed osDesc ("os_desc" :: q) n) :
    osDesc = true ∧ ∃ name config, q = [name] ∧ n = .link ["configs", config] := by
  generalize hp : "os_desc" :: q = p at h
  cases h <;> simp_all

theorem of_configs (h : Placed osDesc ("configs" :: q) n) :
    (∃ config, q = [config] ∧ n = .dir) ∨
      (∃ config name function, q = [config, name] ∧ name ≠ "strings" ∧
        n = .link ["functions", function]) ∨
      ∃ config lang, q = [config, "strings", lang] ∧ n = .dir := by
  generalize hp : "configs" :: q = p at h
  cases h <;> simp_all

theorem of_functions (h : Placed osDesc ("functions" :: q) n) :
    n = .dir ∧ ((∃ name, q = [name] ∧ (splitFunctionDir name).isSome) ∨
      ∃ name lun, q = [name, lun] ∧ driver name = some "mass_storage" ∧
        DirEntry.isLun ⟨lun, .dir⟩ = true) := by
  generalize hp : "functions" :: q = p at h
  cases h <;> simp_all

theorem of_strings (h : Placed osDesc ("strings" :: q) n) : n = .dir ∧ ∃ lang, q = [lang] := by
  generalize hp : "strings" :: q = p at h
  cases h <;> simp_all

/-- What is below a configuration or a function comes with its directory. -/
theorem owner {area : String} (h : Placed osDesc (area :: name :: q) n)
    (harea : area ∈ ["configs", "functions"]) :
    (q = [] ∧ n = .dir) ∨ (q ≠ [] ∧ home (area :: name :: q).dropLast = [area, name]) := by
  have hcases : area = "configs" ∨ area = "functions" := by simpa using harea
  obtain rfl | rfl := hcases
  · obtain ⟨config, hq, hn⟩ | ⟨config, link, _, hq, -⟩ | ⟨config, lang, hq, -⟩ := h.of_configs
    · exact .inl ⟨(List.cons.inj hq).2, hn⟩
    · obtain ⟨rfl, rfl⟩ := List.cons.inj hq
      exact .inr ⟨nofun, rfl⟩
    · obtain ⟨rfl, rfl⟩ := List.cons.inj hq
      exact .inr ⟨nofun, rfl⟩
  · obtain ⟨hn, ⟨function, hq, -⟩ | ⟨function, lun, hq, -⟩⟩ := h.of_functions
    · exact .inl ⟨(List.cons.inj hq).2, hn⟩
    · obtain ⟨rfl, rfl⟩ := List.cons.inj hq
      exact .inr ⟨nofun, rfl⟩

/-- What a link may lead to, and from where. -/
theorem of_link {target : List String} (h : Placed osDesc q (.link target)) :
    (∃ name config, q = ["os_desc", name] ∧ target = ["configs", config]) ∨
      ∃ config name function, q = ["configs", config, name] ∧ name ≠ "strings" ∧
        target = ["functions", function] := by
  cases h with
  | osDescLink name config => exact .inl ⟨name, config, rfl, rfl⟩
  | configLink config name function hname => exact .inr ⟨config, name, function, rfl, hname, rfl⟩

end Placed

/-- Everything is in its place, and in a directory that was made for it. -/
structure Regular (osDesc : Bool) (t : Tree) : Prop where
  placed : ∀ q n, t.lookup q = some n → Placed osDesc q n
  root : ∀ q n, t.lookup q = some n → t.lookup [] = some .dir
  owner : ∀ area name q n, area ∈ ["configs", "functions"] → t.lookup (area :: name :: q) = some n →
    t.lookup [area, name] = some .dir

open LinkTree

/-- It stays so when whole directories are taken away. -/
theorem Regular.without {osDesc : Bool} {t t' : Tree} {R : List String → Prop}
    (h : Regular osDesc t) (hR : Closed R) (ht : Without R t t') : Regular osDesc t' := by
  have hparent : ∀ p q n, p <+: q → t'.lookup q = some n →
      (t.lookup q = some n → t.lookup p = some .dir) →
      t'.lookup p = some .dir := by
    intro p q n hpq hq hp
    obtain ⟨hold, hnot⟩ := ht.lookup_eq_some.1 hq
    exact ht.lookup_eq_some.2 ⟨hp hold, fun hRp => hnot (hR p q hpq hRp)⟩
  refine ⟨?_, ?_, ?_⟩
  · intro q n hq
    exact h.placed q n (ht.lookup_eq_some.1 hq).1
  · intro q n hq
    exact hparent [] q n List.nil_prefix hq (h.root q n)
  · intro area name q n harea hq
    exact hparent _ _ n (List.prefix_append [area, name] q) hq (h.owner area name q n harea)

/-- It stays so when something is made in its place. -/
theorem Regular.insert {osDesc : Bool} {t : Tree} {p : List String} {n : Node String}
    (h : Regular osDesc t) (hp : Placed osDesc p n)
    (hparent : p = [] ∨ t.lookup (home p.dropLast) = some .dir) :
    Regular osDesc (t.insert p n) := by
  have hlookup : ∀ q m, (t.insert p n).lookup q = some m → (q = p ∧ m = n) ∨
      t.lookup q = some m := by
    intro q m hq
    by_cases hqp : q = p
    · subst hqp
      rw [AList.lookup_insert] at hq
      exact .inl ⟨rfl, (Option.some.inj hq).symm⟩
    · rw [AList.lookup_insert_ne hqp] at hq
      exact .inr hq
  -- a directory stays one
  have hkept : ∀ q, (∀ m, Placed osDesc q m → m = .dir) → t.lookup q = some .dir →
      (t.insert p n).lookup q = some .dir := by
    intro q hdir hq
    by_cases hqp : q = p
    · subst hqp
      rw [AList.lookup_insert, hdir n hp]
    · rw [AList.lookup_insert_ne hqp]
      exact hq
  have hroot : ∀ m, Placed osDesc [] m → m = .dir := by
    rintro m ⟨⟩
    rfl
  refine ⟨?_, ?_, ?_⟩
  · intro q m hq
    obtain ⟨rfl, rfl⟩ | hold := hlookup q m hq
    · exact hp
    · exact h.placed q m hold
  · intro q m hq
    obtain ⟨rfl, rfl⟩ | hold := hlookup q m hq
    · obtain rfl | hparent := hparent
      · rw [hq, hroot m hp]
      · exact hkept [] hroot (h.root _ _ hparent)
    · exact hkept [] hroot (h.root q m hold)
  · intro area name q m harea hq
    have hdir : ∀ m, Placed osDesc [area, name] m → m = .dir := by
      intro m hm
      obtain ⟨-, hm⟩ | ⟨hne, -⟩ := hm.owner harea
      · exact hm
      · exact absurd rfl hne
    obtain ⟨rfl, rfl⟩ | hold := hlookup _ m hq
    · obtain ⟨rfl, rfl⟩ | ⟨-, hhome⟩ := hp.owner harea
      · exact hq
      · rw [hhome] at hparent
        exact hkept _ hdir (hparent.resolve_left (List.cons_ne_nil _ _))
    · exact hkept _ hdir (h.owner area name q m harea hold)

section Links

variable {osDesc : Bool} {t : Tree}

/-- Nothing is below a link. -/
theorem Regular.eq_of_link {p q target : List String} {n : Node String} (hreg : Regular osDesc t)
    (hp : t.lookup p = some (.link target)) (hq : t.lookup q = some n) (hpq : p <+: q) : q = p := by
  obtain ⟨rest, rfl⟩ := hpq
  obtain ⟨name, config, rfl, -⟩ | ⟨config, name, function, rfl, hname, -⟩ :=
    (hreg.placed _ _ hp).of_link
  · obtain ⟨-, name', config', hrest, -⟩ := (hreg.placed _ _ hq).of_osDesc
    simp_all
  · obtain ⟨config', hrest, -⟩ | ⟨config', name', function', hrest, -⟩
        | ⟨config', lang, hrest, -⟩ :=
      (hreg.placed _ _ hq).of_configs
    · simp at hrest
    · simp_all
    · simp_all

/-- Only mass storage has made anything in the directory of a function. -/
theorem Regular.lun_of_function {name : String} {q : List String} {n : Node String}
    (hreg : Regular osDesc t) (hn : t.lookup q = some n) (hunder : ["functions", name] <+: q)
    (hne : q ≠ ["functions", name]) :
    driver name = some "mass_storage" ∧
      ∃ lun, q = ["functions", name, lun] ∧ n = .dir ∧ DirEntry.isLun ⟨lun, .dir⟩ = true := by
  obtain ⟨rest, rfl⟩ := hunder
  obtain ⟨rfl, ⟨name', hrest, -⟩ | ⟨name', lun, hrest, hdriver, hlun⟩⟩ :=
    (hreg.placed _ _ hn).of_functions
  · simp_all
  · obtain ⟨rfl, rfl⟩ : name = name' ∧ rest = [lun] := by simpa using hrest
    exact ⟨hdriver, lun, rfl, rfl, hlun⟩

/-- No link leads into a function. -/
theorem Regular.not_link_to_lun (hreg : Regular osDesc t) (name lun : String) (q : List String) :
    t.lookup q ≠ some (.link ["functions", name, lun]) := by
  intro hq
  obtain ⟨_, _, -, htarget⟩ | ⟨_, _, _, -, -, htarget⟩ := (hreg.placed _ _ hq).of_link
  · simp at htarget
  · simp at htarget

end Links

end SummitUsbgadget.UsbGadget.Removal
