import SummitUsbgadget.Lib.Index
import SummitUsbgadget.UsbGadget.Server

/-!
# The server's books

The server changes its list of gadgets and its set of names in two places, around builds that may
fail. `Consistent` is what holds between them after every event, by one lemma for `bind_one` and one
for `unbind_one`; `server_books_balance` adds what an event does to a name.
-/

set_option autoImplicit false

namespace SummitUsbgadget.UsbGadget

open Lib

/-! ## Selection -/

namespace Selection

variable {selection : Selection} {name : String} {bound : Finset String}

theorem wants_iff :
    selection.wants name bound = true ↔
      name ∉ bound ∧ (selection = .first → bound = ∅) ∧ ∀ names, selection = .named names →
        name ∈ names := by
  cases selection with
  | first => simp [wants]
  | all => simp [wants]
  | named names => simp [wants]

/-- The sets of controllers that the selection may have bound. -/
def Permits (selection : Selection) (bound : Finset String) : Prop :=
  match selection with
  | .first => bound.card ≤ 1
  | .all => True
  | .named names => bound ⊆ names

theorem permits_empty (selection : Selection) : selection.Permits ∅ := by
  cases selection with
  | first => exact Nat.zero_le 1
  | all => trivial
  | named names => exact Finset.empty_subset names

theorem Permits.insert (h : selection.Permits bound) (hwants : selection.wants name bound = true) :
    selection.Permits (insert name bound) := by
  obtain ⟨-, hfirst, hnamed⟩ := wants_iff.1 hwants
  cases selection with
  | first =>
      rw [hfirst rfl]
      exact Nat.le_refl 1
  | all => trivial
  | named names => exact Finset.insert_subset (hnamed names rfl) h

theorem Permits.erase (h : selection.Permits bound) (name : String) :
    selection.Permits (bound.erase name) := by
  cases selection with
  | first => exact Nat.le_trans (Finset.card_erase_le) h
  | all => trivial
  | named names => exact (Finset.erase_subset name bound).trans h

end Selection

/-! ## What the server does -/

/-- An item of the monitor that the server ignores. -/
def Ignored : Except IoError Event → Prop
  | .error _ => True
  | .ok event => udcNameFromEvent event = none

theorem item_cases (item : Except IoError Event) :
    (∃ name, item = .ok ⟨name, .add⟩) ∨ (∃ name, item = .ok ⟨name, .remove⟩) ∨ Ignored item := by
  cases item with
  | error err => exact Or.inr (Or.inr trivial)
  | ok event =>
      obtain ⟨name, eventType⟩ := event
      cases eventType with
      | add => exact Or.inl ⟨name, rfl⟩
      | remove => exact Or.inr (Or.inl ⟨name, rfl⟩)
      | change => exact Or.inr (Or.inr rfl)
      | bind => exact Or.inr (Or.inr rfl)
      | unbind => exact Or.inr (Or.inr rfl)
      | unknown => exact Or.inr (Or.inr rfl)

namespace Server

variable {Service : Type} {selection : Selection} {build : Nat → String → BuildOutcome Service}
  {s : Server Service} {name : String}

/-- The state after a gadget was built on a controller. -/
def bindTo (name : String) (running : RunningGadget Service) (s : Server Service) :
    Server Service :=
  { s with
    bound := insert name s.bound
    gadgets := s.gadgets ++ [running.startServices name]
    builds := s.builds + 1 }

theorem bindOne_built {running : RunningGadget Service}
    (hwants : selection.wants name s.bound = true) (hbuild : build s.builds name = .built running) :
    s.bindOne selection build name = s.bindTo name running := by
  rw [bindOne, if_pos hwants, hbuild]
  rfl

/-- `bind_one` binds the controller, or only counts the build, or does nothing. -/
theorem bindOne_cases (selection : Selection) (build : Nat → String → BuildOutcome Service)
    (s : Server Service) (name : String) :
    s.bindOne selection build name = s ∨
      s.bindOne selection build name = { s with builds := s.builds + 1 } ∨
      ∃ running, selection.wants name s.bound = true ∧ build s.builds name = .built running ∧
        s.bindOne selection build name = s.bindTo name running := by
  by_cases hwants : selection.wants name s.bound = true
  · cases hbuild : build s.builds name with
    | built running => exact Or.inr (Or.inr ⟨running, hwants, rfl, bindOne_built hwants hbuild⟩)
    | panicked =>
        refine Or.inr (Or.inl ?_)
        rw [bindOne, if_pos hwants, hbuild]
    | vanished =>
        refine Or.inr (Or.inl ?_)
        rw [bindOne, if_pos hwants, hbuild]
    | failed err =>
        refine Or.inr (Or.inl ?_)
        rw [bindOne, if_pos hwants, hbuild]
  · exact Or.inl (if_neg hwants)

theorem handle_of_ignored {item : Except IoError Event} (h : Ignored item) :
    s.handle selection build item = s := by
  cases item with
  | error err => rfl
  | ok event =>
      have hnone : udcNameFromEvent event = none := h
      rw [handle, hnone]

theorem unbindOne_of_notMem (h : name ∉ s.bound) : s.unbindOne name = s := if_neg h

/-- The state after the gadget of a controller was taken out and shut down. -/
def release (name : String) (gadget : RunningGadget Service) (s : Server Service) :
    Server Service :=
  { s with
    bound := s.bound.erase name
    gadgets := s.gadgets.eraseP fun gadget => gadget.udcName = name
    ended := s.ended ++ [gadget] }

/-- While the books are in order, `unbind_one` finds the gadget of the controller. -/
theorem unbindOne_of_mem (h : OneEach RunningGadget.udcName s.bound s.gadgets)
    (hmem : name ∈ s.bound) :
    ∃ gadget ∈ s.gadgets, gadget.udcName = name ∧ s.unbindOne name = s.release name gadget := by
  obtain ⟨gadget, hfind, hname⟩ := h.find hmem
  refine ⟨gadget, List.mem_of_find?_eq_some hfind, hname, ?_⟩
  rw [unbindOne, if_pos hmem]
  dsimp only
  rw [hfind]
  rfl

/-! ## Consistency -/

/-- A gadget that is built carries the name of its controller. -/
def NamedAfter (build : Nat → String → BuildOutcome Service) : Prop :=
  ∀ n name running, build n name = .built running → running.udcName = name

/-- What holds between the list and the set, and where the gadgets come from. -/
structure Consistent (selection : Selection) (build : Nat → String → BuildOutcome Service)
    (s : Server Service) : Prop where
  oneEach : OneEach RunningGadget.udcName s.bound s.gadgets
  permits : selection.Permits s.bound
  built : ∀ gadget ∈ s.gadgets, ∃ n < s.builds, ∃ running,
    build n gadget.udcName = .built running ∧ gadget = running.startServices gadget.udcName

namespace Consistent

theorem start (selection : Selection) (build : Nat → String → BuildOutcome Service) :
    Consistent selection build new where
  oneEach := oneEach_nil
  permits := selection.permits_empty
  built := nofun

theorem bindTo (h : Consistent selection build s) (hnamed : NamedAfter build)
    {running : RunningGadget Service} (hwants : selection.wants name s.bound = true)
    (hbuild : build s.builds name = .built running) :
    Consistent selection build (s.bindTo name running) := by
  have hname : (running.startServices name).udcName = name := hnamed s.builds name running hbuild
  have hnew : (running.startServices name).udcName ∉ s.bound := by
    rw [hname]
    exact (Selection.wants_iff.1 hwants).1
  constructor
  · have hpush := h.oneEach.push hnew
    rw [hname] at hpush
    exact hpush
  · exact h.permits.insert hwants
  · intro gadget hgadget
    -- the gadgets from before, or the one of this build
    rcases List.mem_append.1 hgadget with hold | hlast
    · obtain ⟨n, hn, hfrom⟩ := h.built gadget hold
      exact ⟨n, Nat.lt_succ_of_lt hn, hfrom⟩
    · rw [List.mem_singleton.1 hlast, hname]
      exact ⟨s.builds, Nat.lt_succ_self s.builds, running, hbuild, rfl⟩

theorem bindOne (h : Consistent selection build s) (hnamed : NamedAfter build) (name : String) :
    Consistent selection build (s.bindOne selection build name) := by
  rcases bindOne_cases selection build s name with hsame | hcount | ⟨running, hwants, hbuild, hbind⟩
  · rw [hsame]
    exact h
  · -- a build that brings nothing
    rw [hcount]
    refine ⟨h.oneEach, h.permits, ?_⟩
    intro gadget hgadget
    obtain ⟨n, hn, hfrom⟩ := h.built gadget hgadget
    exact ⟨n, Nat.lt_succ_of_lt hn, hfrom⟩
  · rw [hbind]
    exact h.bindTo hnamed hwants hbuild

theorem unbindOne (h : Consistent selection build s) (name : String) :
    Consistent selection build (s.unbindOne name) := by
  by_cases hmem : name ∈ s.bound
  · obtain ⟨gadget, -, -, hrelease⟩ := unbindOne_of_mem h.oneEach hmem
    rw [hrelease]
    refine ⟨h.oneEach.erase name, h.permits.erase name, ?_⟩
    intro gadget hgadget
    exact h.built gadget (List.mem_of_mem_eraseP hgadget)
  · rw [unbindOne_of_notMem hmem]
    exact h

end Consistent

namespace Consistent

theorem handle (h : Consistent selection build s) (hnamed : NamedAfter build)
    (item : Except IoError Event) : Consistent selection build (s.handle selection build item) := by
  rcases item_cases item with ⟨name, rfl⟩ | ⟨name, rfl⟩ | hignored
  · exact h.bindOne hnamed name
  · exact h.unbindOne name
  · rw [handle_of_ignored hignored]
    exact h

theorem bindExisting (h : Consistent selection build s) (hnamed : NamedAfter build)
    (enumerated : Except IoError (List String)) :
    Consistent selection build (s.bindExisting selection build enumerated) := by
  rw [Server.bindExisting]
  induction existing enumerated generalizing s with
  | nil => exact h
  | cons name names ih => exact ih (h.bindOne hnamed name)

/-- The books are in order whatever udev reports and however the builds come out. -/
theorem serving (hnamed : NamedAfter build) (enumerated : Except IoError (List String))
    (items : List (Except IoError Event)) :
    Consistent selection build (Server.serving selection build enumerated items) :=
  run_invariant_of_step (fun _ item h => h.handle hnamed item) items
    ((start selection build).bindExisting hnamed enumerated)

end Consistent

/-! ## The life of a name -/

theorem bound_unbindOne (name : String) (s : Server Service) :
    (s.unbindOne name).bound = s.bound.erase name := by
  by_cases hmem : name ∈ s.bound
  · rw [unbindOne, if_pos hmem]
    dsimp only
    cases s.gadgets.find? fun gadget => gadget.udcName = name with
    | none => rfl
    | some gadget => rfl
  · rw [unbindOne_of_notMem hmem, Finset.erase_eq_of_notMem hmem]

/-- A name gets into the set by an `Add` of the name, and with the gadget of a build. -/
theorem added_of_handle {item : Except IoError Event} (hnew : name ∉ s.bound)
    (hbound : name ∈ (s.handle selection build item).bound) :
    item = .ok ⟨name, .add⟩ ∧ ∃ running, build s.builds name = .built running ∧
      s.handle selection build item = s.bindTo name running := by
  rcases item_cases item with ⟨name', rfl⟩ | ⟨name', rfl⟩ | hignored
  · have hbind : s.handle selection build (.ok ⟨name', .add⟩) =
        s.bindOne selection build name' := rfl
    rw [hbind] at hbound ⊢
    rcases bindOne_cases selection build s name' with hsame | hcount | ⟨running, -, hbuild, hto⟩
    · rw [hsame] at hbound
      exact absurd hbound hnew
    · rw [hcount] at hbound
      exact absurd hbound hnew
    · -- the only name that comes in is the one of the event
      rw [hto] at hbound
      obtain rfl : name = name' := (Finset.mem_insert.1 hbound).resolve_right hnew
      exact ⟨rfl, running, hbuild, hto⟩
  · have herase : name ∈ s.bound.erase name' := bound_unbindOne name' s ▸ hbound
    exact absurd (Finset.mem_of_mem_erase herase) hnew
  · rw [handle_of_ignored hignored] at hbound
    exact absurd hbound hnew

/-- A name that is not in the set stays out until its controller is added. -/
theorem notMem_run {items : List (Except IoError Event)} (hnew : name ∉ s.bound)
    (hitems : .ok ⟨name, .add⟩ ∉ items) :
    name ∉ (run (handle selection build) s items).bound := by
  have hothers : ∀ item ∈ items, item ≠ .ok ⟨name, .add⟩ := by
    intro item hitem hadd
    exact hitems (hadd ▸ hitem)
  refine run_invariant (I := fun s : Server Service => name ∉ s.bound) ?_ hnew
    (along_of_forall_mem hothers)
  intro s item hout hother hin
  exact hother (added_of_handle hout hin).1

/-- The books as a whole: one gadget for each bound name, no more than the selection allows, each
from a build that succeeded on its controller; and what becomes of a name when its controller is
added, removed and added again. After a removal, `Selection::First` may have turned to another
controller. -/
structure Balanced (selection : Selection) (build : Nat → String → BuildOutcome Service)
    (s : Server Service) : Prop where
  oneEach : ∀ name,
    (s.gadgets.map RunningGadget.udcName).count name = if name ∈ s.bound then 1 else 0
  first : selection = .first → s.gadgets.length ≤ 1
  named : ∀ names, selection = .named names → ∀ gadget ∈ s.gadgets, gadget.udcName ∈ names
  built : ∀ gadget ∈ s.gadgets, ∃ n < s.builds, ∃ running,
    build n gadget.udcName = .built running ∧ gadget = running.startServices gadget.udcName
  added : ∀ item name, name ∉ s.bound → name ∈ (s.handle selection build item).bound →
    item = .ok ⟨name, .add⟩ ∧ ∃ running, build s.builds name = .built running ∧
      (s.handle selection build item).gadgets = s.gadgets ++ [running.startServices name]
  removed : ∀ name ∈ s.bound, ∃ gadget ∈ s.gadgets, gadget.udcName = name ∧
    (s.handle selection build (.ok ⟨name, .remove⟩)).ended = s.ended ++ [gadget] ∧
    ∀ gadget ∈ (s.handle selection build (.ok ⟨name, .remove⟩)).gadgets, gadget.udcName ≠ name
  rebuilt : ∀ name ∈ s.bound, ∀ later, .ok ⟨name, .add⟩ ∉ later → ∀ s',
    s' = run (handle selection build) (s.handle selection build (.ok ⟨name, .remove⟩)) later →
    (selection = .first → s'.bound = ∅) → ∀ running, build s'.builds name = .built running →
      name ∈ (s'.handle selection build (.ok ⟨name, .add⟩)).bound ∧
        (s'.handle selection build (.ok ⟨name, .add⟩)).gadgets =
          s'.gadgets ++ [running.startServices name]

namespace Consistent

theorem removed (h : Consistent selection build s) (hmem : name ∈ s.bound) :
    ∃ gadget ∈ s.gadgets, gadget.udcName = name ∧
      (s.handle selection build (.ok ⟨name, .remove⟩)).ended = s.ended ++ [gadget] ∧
      ∀ gadget ∈ (s.handle selection build (.ok ⟨name, .remove⟩)).gadgets,
        gadget.udcName ≠ name := by
  obtain ⟨gadget, hgadget, hname, hrelease⟩ := unbindOne_of_mem h.oneEach hmem
  have hhandle : s.handle selection build (.ok ⟨name, .remove⟩) = s.release name gadget := hrelease
  rw [hhandle]
  refine ⟨gadget, hgadget, hname, rfl, ?_⟩
  rintro gadget' hgadget' rfl
  -- what is left has a name that is left
  have hleft := (h.oneEach.erase gadget'.udcName).mem_iff gadget'.udcName
  exact Finset.notMem_erase _ _ (hleft.2 (List.mem_map_of_mem hgadget'))

theorem rebuilt (h : Consistent selection build s) (hmem : name ∈ s.bound)
    {later : List (Except IoError Event)} (hlater : .ok ⟨name, .add⟩ ∉ later) {s' : Server Service}
    (hrun : s' = run (Server.handle selection build)
      (s.handle selection build (.ok ⟨name, .remove⟩)) later)
    (hfirst : selection = .first → s'.bound = ∅) {running : RunningGadget Service}
    (hbuild : build s'.builds name = .built running) :
    s'.handle selection build (.ok ⟨name, .add⟩) = s'.bindTo name running := by
  have hgone : name ∉ (s.handle selection build (.ok ⟨name, .remove⟩)).bound := by
    have hbound : (s.handle selection build (.ok ⟨name, .remove⟩)).bound = s.bound.erase name :=
      bound_unbindOne name s
    rw [hbound]
    exact Finset.notMem_erase name s.bound
  have hout : name ∉ s'.bound := by
    rw [hrun]
    exact notMem_run hgone hlater
  refine bindOne_built (Selection.wants_iff.2 ⟨hout, hfirst, ?_⟩) hbuild
  -- the name was bound before, so the selection names it
  rintro names rfl
  exact h.permits hmem

theorem balanced (h : Consistent selection build s) : Balanced selection build s where
  oneEach := h.oneEach.count
  first := by
    rintro rfl
    rw [h.oneEach.length_eq_card]
    exact h.permits
  named := by
    rintro names rfl gadget hgadget
    exact h.permits ((h.oneEach.mem_iff _).2 (List.mem_map_of_mem hgadget))
  built := h.built
  added := by
    intro item name hnew hbound
    obtain ⟨hadd, running, hbuild, hto⟩ := added_of_handle hnew hbound
    exact ⟨hadd, running, hbuild, by rw [hto]; rfl⟩
  removed := fun _ hmem => h.removed hmem
  rebuilt := by
    intro name hmem later hlater s' hrun hfirst running hbuild
    rw [h.rebuilt hmem hlater hrun hfirst hbuild]
    exact ⟨Finset.mem_insert_self name s'.bound, rfl⟩

end Consistent

theorem server_books_balance (selection : Selection)
    {build : Nat → String → BuildOutcome Service} (hnamed : NamedAfter build)
    (enumerated : Except IoError (List String)) (items : List (Except IoError Event)) :
    Balanced selection build (serving selection build enumerated items) :=
  (Consistent.serving hnamed enumerated items).balanced

/-- Every build succeeds, of a gadget without services. -/
def plainBuild (_ : Nat) (name : String) : BuildOutcome Empty := .built ⟨[], [], ⟨name⟩⟩

theorem server_books_balance_replugged :
    Balanced .first plainBuild (serving .first plainBuild (.ok ["udc.1", "udc.0"])
      [.ok ⟨"udc.0", .remove⟩, .ok ⟨"udc.0", .add⟩, .ok ⟨"udc.0", .add⟩]) := by
  apply server_books_balance
  rintro n name running hbuild
  rw [← BuildOutcome.built.inj hbuild]
  rfl

end Server

end SummitUsbgadget.UsbGadget
