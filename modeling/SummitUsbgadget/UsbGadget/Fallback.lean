import SummitUsbgadget.Lib.Positions
import SummitUsbgadget.UsbGadget.Config

/-!
# Falling back without DFU

What a configuration without its DFU functions should be: the same configurations in the same order,
less those that had nothing but DFU functions, and an OS descriptor for the configuration that it
was for. `config_without_dfu` leaves the index of the OS descriptor as it was; it is right as long
as no configuration in front of the one that it designates is dropped. It also drops configurations
that had no function from the start.
-/

set_option autoImplicit false

namespace SummitUsbgadget.UsbGadget

open SummitUsbgadget.Lib

variable {Plugin : Type}

/-! ## What the fallback should be -/

/-- Removing its DFU functions leaves the configuration without functions. -/
def UsbConfigConfig.Emptied (usbCfg : UsbConfigConfig Plugin) : Prop :=
  usbCfg.function ≠ [] ∧ usbCfg.remains = false

/-- The gadget has a DFU function. -/
def GadgetConfig.HasDfu (cfg : GadgetConfig Plugin) : Prop :=
  ∃ c ∈ cfg.config, ∃ f ∈ c.function, f.kind = "dfu"

/-- The gadget has a function of another kind. -/
def GadgetConfig.Remains (cfg : GadgetConfig Plugin) : Prop :=
  ∃ c ∈ cfg.config, ∃ f ∈ c.function, f.kind ≠ "dfu"

/-- The result is the configuration without its DFU functions; `kept` are the places of the
configurations that are left. -/
structure FallsBack (cfg result : GadgetConfig Plugin) (kept : List Nat) : Prop where
  ordered : kept.Pairwise (· < ·)
  config : result.config.map some = kept.map fun i => cfg.config[i]?.map UsbConfigConfig.withoutDfu
  dropped : ∀ i c, cfg.config[i]? = some c → i ∉ kept → c.Emptied
  name : result.name = cfg.name
  udc : result.udc = cfg.udc
  device : result.device = cfg.device
  osDescriptor : (result.osDescriptor.map fun d => (d.vendorCode, d.qwSign)) =
    cfg.osDescriptor.map fun d => (d.vendorCode, d.qwSign)
  designated : ∀ d, cfg.osDescriptor = some d → d.index ∈ kept →
    ∃ d', result.osDescriptor = some d' ∧ kept[d'.index]? = some d.index

/-- What `config_without_dfu` should return for an error of FunctionFS. -/
def FallbackOf (cfg : GadgetConfig Plugin) : Option (GadgetConfig Plugin) → Prop
  | none => ¬ cfg.HasDfu ∨ ¬ cfg.Remains
  | some result => cfg.HasDfu ∧ cfg.Remains ∧ ∃ kept, FallsBack cfg result kept

/-- No configuration is without functions, and none in front of the one that the OS descriptor
designates is dropped unless that one is. -/
structure Undisturbed (cfg : GadgetConfig Plugin) : Prop where
  nonempty : ∀ c ∈ cfg.config, c.function ≠ []
  inPlace : ∀ d c, cfg.osDescriptor = some d → cfg.config[d.index]? = some c → c.remains = true →
    ∀ j < d.index, ∀ c', cfg.config[j]? = some c' → c'.remains = true

/-! ## What it is -/

theorem remains_iff (c : UsbConfigConfig Plugin) :
    c.remains = true ↔ ∃ f ∈ c.function, f.kind ≠ "dfu" := by
  simp [UsbConfigConfig.remains, FunctionConfig.isDfu]

/-- The configuration with only those configurations that are left, and the OS descriptor as it
is. -/
def GadgetConfig.thinned (cfg : GadgetConfig Plugin) : GadgetConfig Plugin :=
  { cfg with config := (cfg.config.filter UsbConfigConfig.remains).map UsbConfigConfig.withoutDfu }

/-- For an error of FunctionFS there is a fallback if a DFU function is removed and another one is
left. -/
theorem configWithoutDfu_eq (cfg : GadgetConfig Plugin) {err : String}
    (herr : "FunctionFS".toList <:+: err.toList) [Decidable cfg.HasDfu] [Decidable cfg.Remains] :
    configWithoutDfu cfg err =
      if cfg.HasDfu ∧ cfg.Remains then some cfg.thinned else none := by
  have hdfu : (cfg.config.any fun c => c.function.any FunctionConfig.isDfu) = true ↔
      cfg.HasDfu := by
    simp [GadgetConfig.HasDfu, FunctionConfig.isDfu]
  have hremains : ((cfg.config.filter UsbConfigConfig.remains).map
      UsbConfigConfig.withoutDfu).isEmpty = false ↔ cfg.Remains := by
    rw [List.isEmpty_map, ← Bool.not_eq_true, List.isEmpty_iff, List.filter_eq_nil_iff]
    simp [GadgetConfig.Remains, remains_iff]
  rw [configWithoutDfu, contains_iff.2 herr, retainMut_eq]
  simp only [Bool.not_true, Bool.false_eq_true, if_false, Bool.false_or, Bool.and_eq_true,
    Bool.not_eq_true', hdfu, hremains]
  rfl

theorem Undisturbed.fallsBack {cfg : GadgetConfig Plugin} (h : Undisturbed cfg) :
    FallsBack cfg cfg.thinned (positions UsbConfigConfig.remains cfg.config) where
  ordered := positions_increasing
  config := by
    have hmap := congrArg (List.map (Option.map UsbConfigConfig.withoutDfu))
      (@map_getElem?_positions _ UsbConfigConfig.remains cfg.config)
    rw [List.map_map, List.map_map] at hmap
    exact (List.map_map ..).trans hmap.symm
  dropped := by
    intro i c hc hnot
    refine ⟨h.nonempty c (List.mem_of_getElem? hc), ?_⟩
    rw [← Bool.not_eq_true]
    exact fun hremains => hnot (mem_positions.2 ⟨c, hc, hremains⟩)
  name := rfl
  udc := rfl
  device := rfl
  osDescriptor := rfl
  designated := by
    intro d hd hmem
    obtain ⟨c, hc, hremains⟩ := mem_positions.1 hmem
    refine ⟨d, hd, in_place_of_mem positions_increasing fun j hj => ?_⟩
    obtain hlt | rfl := Nat.lt_or_eq_of_le hj
    · have hlen : j < cfg.config.length :=
        Nat.lt_trans hlt (List.getElem?_eq_some_iff.1 hc).1
      have hj' := List.getElem?_eq_getElem hlen
      exact mem_positions.2 ⟨_, hj', h.inPlace d c hd hc hremains j hlt _ hj'⟩
    · exact hmem

/-- The places that are kept are those of the configurations with another function. -/
theorem FallsBack.mem_kept_iff {cfg : GadgetConfig Plugin} {kept : List Nat}
    (h : FallsBack cfg cfg.thinned kept) {i : Nat} {c : UsbConfigConfig Plugin}
    (hc : cfg.config[i]? = some c) : i ∈ kept ↔ c.remains = true := by
  constructor
  · intro hmem
    have hleft : some c.withoutDfu ∈ cfg.thinned.config.map some := by
      rw [h.config]
      exact List.mem_map.2 ⟨i, hmem, by rw [hc]; rfl⟩
    obtain ⟨c', hc', heq⟩ := List.mem_map.1 hleft
    obtain ⟨c'', hfilter, rfl⟩ := List.mem_map.1 hc'
    -- whether a configuration is left can be seen from it without its DFU functions
    have hempty := withoutDfu_isEmpty c''
    rw [Option.some.inj heq, withoutDfu_isEmpty, (List.mem_filter.1 hfilter).2] at hempty
    exact Bool.not_inj hempty
  · intro hremains
    by_contra hnot
    exact Bool.false_ne_true ((h.dropped i c hc hnot).2.symm.trans hremains)

theorem FallsBack.undisturbed {cfg : GadgetConfig Plugin} {kept : List Nat}
    (h : FallsBack cfg cfg.thinned kept) : Undisturbed cfg where
  nonempty := by
    intro c hmem hnil
    obtain ⟨i, hc⟩ := List.getElem?_of_mem hmem
    have hnot : i ∉ kept := by
      rw [h.mem_kept_iff hc, UsbConfigConfig.remains, hnil]
      exact Bool.false_ne_true
    exact (h.dropped i c hc hnot).1 hnil
  inPlace := by
    intro d c hd hc hremains j hlt c' hc'
    obtain ⟨d', hd', hplace⟩ := h.designated d hd ((h.mem_kept_iff hc).2 hremains)
    obtain rfl : d = d' := Option.some.inj (hd.symm.trans hd')
    exact (h.mem_kept_iff hc').1 (mem_of_in_place h.ordered hplace (Nat.le_of_lt hlt))

/-- For every configuration and every error of FunctionFS: nothing but DFU is lost exactly if there
is no fallback, or if no configuration was empty and the OS descriptor's stays in its place. -/
theorem config_without_dfu_iff (cfg : GadgetConfig Plugin) {err : String}
    (herr : "FunctionFS".toList <:+: err.toList) :
    FallbackOf cfg (configWithoutDfu cfg err) ↔ (cfg.HasDfu → cfg.Remains → Undisturbed cfg) := by
  classical
  rw [configWithoutDfu_eq cfg herr]
  split
  · next hboth =>
      constructor
      · rintro ⟨-, -, kept, hback⟩ _ _
        exact hback.undisturbed
      · intro h
        exact ⟨hboth.1, hboth.2, _, (h hboth.1 hboth.2).fallsBack⟩
  · next hnot =>
      constructor
      · intro _ hdfu hremains
        exact absurd ⟨hdfu, hremains⟩ hnot
      · intro _
        exact not_and_or.1 hnot

/-- A gadget with one configuration for each list of functions, and an OS descriptor. -/
def composite (functions : List (List (FunctionConfig Unit))) (index : Nat) :
    GadgetConfig Unit where
  name := none
  udc := none
  osDescriptor := some ⟨none, none, some index⟩
  device := ⟨0x1d6b, 0x0104, none, none, none, none, none, none, none, none⟩
  config := functions.map fun function => ⟨none, none, none, none, function⟩

/-- A serial port. -/
def acm : FunctionConfig Unit := .serial ⟨"acm", none⟩

/-- The DFU function of the plugin. -/
def dfu : FunctionConfig Unit := .plugin "dfu" ()

/-- The error that a gadget with a DFU function meets on a kernel without FunctionFS. -/
def noFunctionFs : String := "failed to mount FunctionFS"

theorem config_without_dfu_iff_last :
    FallbackOf (composite [[acm], [dfu]] 0)
      (configWithoutDfu (composite [[acm], [dfu]] 0) noFunctionFs) := by
  have herr : "FunctionFS".toList <:+: noFunctionFs.toList := by decide +kernel
  have hundisturbed : Undisturbed (composite [[acm], [dfu]] 0) := by
    refine ⟨by decide +kernel, fun d c hd _ _ j hlt => ?_⟩
    obtain rfl := Option.some.inj hd
    exact absurd hlt (Nat.not_lt_zero j)
  exact (config_without_dfu_iff _ herr).2 fun _ _ => hundisturbed

/-- The second configuration becomes the first, and the OS descriptor is left with an index that
designates nothing. -/
theorem os_descriptor_index_stale :
    configWithoutDfu (composite [[dfu], [acm]] 1) noFunctionFs = some (composite [[acm]] 1) ∧
      ¬ FallbackOf (composite [[dfu], [acm]] 1) (some (composite [[acm]] 1)) := by
  refine ⟨by decide +kernel, ?_⟩
  rintro ⟨-, -, kept, hback⟩
  have hmem : 1 ∈ kept := by
    by_contra hnot
    exact Bool.noConfusion (hback.dropped 1 _ rfl hnot).2
  obtain ⟨d, hd, hplace⟩ := hback.designated ⟨none, none, some 1⟩ rfl hmem
  obtain rfl := Option.some.inj hd
  have hlen : kept.length = 1 := by
    have hlength := congrArg List.length hback.config
    rw [List.length_map, List.length_map] at hlength
    exact hlength.symm
  have hbound := (List.getElem?_eq_some_iff.1 hplace).1
  rw [hlen] at hbound
  exact absurd hbound (by decide)

end SummitUsbgadget.UsbGadget
