import SummitUsbgadget.UsbGadget.Bookkeeping

/-!
# The controllers that are served

Which controllers should be bound depends on all that are attached, but the server acts on one event
at a time: it binds on `Add` and unbinds on `Remove`. With `Selection::All` and `Selection::Named`
that is enough. With `Selection::First` the controllers that were passed over are not looked at
again when the bound one is removed; `server_covers_iff` says that this is the only case in which
something selected is not served.
-/

set_option autoImplicit false

namespace SummitUsbgadget.UsbGadget

open Lib

/-- The server, and the controllers that are attached. -/
structure Watched (Service : Type) where
  server : Server Service
  attached : Finset String

/-- The controllers that are attached after an event. -/
def attach (attached : Finset String) (item : Except IoError Event) : Finset String :=
  match item with
  | .error _ => attached
  | .ok event =>
      match event.eventType with
      | .add => insert event.sysname attached
      | .remove => attached.erase event.sysname
      | _ => attached

theorem attach_of_ignored {attached : Finset String} {item : Except IoError Event}
    (h : Ignored item) : attach attached item = attached := by
  cases item with
  | error err => rfl
  | ok event =>
      obtain ⟨name, eventType⟩ := event
      cases eventType with
      | add => cases h
      | remove => cases h
      | change => rfl
      | bind => rfl
      | unbind => rfl
      | unknown => rfl

namespace Watched

variable {Service : Type}

/-- An event is handled. -/
def handle (selection : Selection) (build : Nat → String → BuildOutcome Service)
    (w : Watched Service) (item : Except IoError Event) : Watched Service :=
  ⟨w.server.handle selection build item, attach w.attached item⟩

/-- The start of the loop, behind the enumeration. -/
def listening (selection : Selection) (build : Nat → String → BuildOutcome Service)
    (enumerated : Except IoError (List String)) : Watched Service :=
  ⟨Server.new.bindExisting selection build enumerated, (existing enumerated).toFinset⟩

/-- The controllers that the configuration asks for are bound. -/
def Covers (selection : Selection) (w : Watched Service) : Prop :=
  match selection with
  | .first => w.attached.Nonempty → ∃ name ∈ w.attached, w.server.bound = {name}
  | .all => w.server.bound = w.attached
  | .named names => w.server.bound = w.attached ∩ names

/-- The only bound controller is removed while another one is attached. -/
def Abandons (selection : Selection) (w : Watched Service) (item : Except IoError Event) : Prop :=
  selection = .first ∧ ∃ name ∈ w.server.bound, item = .ok ⟨name, .remove⟩ ∧
    ∃ other ∈ w.attached, other ≠ name

/-- Every build succeeds. -/
def Succeeds (build : Nat → String → BuildOutcome Service) : Prop :=
  ∀ n name, ∃ running, build n name = .built running

/-- What is bound is attached, and the selection allows it. -/
structure Sane (selection : Selection) (w : Watched Service) : Prop where
  attached : w.server.bound ⊆ w.attached
  permits : selection.Permits w.server.bound

variable {selection : Selection} {build : Nat → String → BuildOutcome Service} {w : Watched Service}
  {name : String}

/-- A controller that the selection takes is bound after its `Add`. -/
theorem bound_add_selected (hbuild : Succeeds build)
    (hfirst : selection = .first → w.server.bound = ∅)
    (hnamed : ∀ names, selection = .named names → name ∈ names) :
    (w.handle selection build (.ok ⟨name, .add⟩)).server.bound = insert name w.server.bound := by
  by_cases hmem : name ∈ w.server.bound
  · -- a repeated event for a bound controller is not wanted, and changes nothing
    have hwants : ¬ selection.wants name w.server.bound = true := by
      intro hwants
      exact (Selection.wants_iff.1 hwants).1 hmem
    rw [Finset.insert_eq_of_mem hmem]
    exact congrArg Server.bound (if_neg hwants)
  · obtain ⟨running, hrunning⟩ := hbuild w.server.builds name
    have hwants := Selection.wants_iff.2 ⟨hmem, hfirst, hnamed⟩
    exact congrArg Server.bound (Server.bindOne_built hwants hrunning)

/-- Any other one is passed over. -/
theorem bound_add_passed (hpassed : selection.wants name w.server.bound ≠ true) :
    (w.handle selection build (.ok ⟨name, .add⟩)).server.bound = w.server.bound :=
  congrArg Server.bound (if_neg hpassed)

theorem bound_remove :
    (w.handle selection build (.ok ⟨name, .remove⟩)).server.bound = w.server.bound.erase name :=
  Server.bound_unbindOne name w.server

theorem Sane.add (h : Sane selection w) (hbuild : Succeeds build) (name : String) :
    Sane selection (w.handle selection build (.ok ⟨name, .add⟩)) := by
  have hattached : w.server.bound ⊆ insert name w.attached :=
    h.attached.trans (Finset.subset_insert name w.attached)
  by_cases hwants : selection.wants name w.server.bound = true
  · obtain ⟨-, hfirst, hnamed⟩ := Selection.wants_iff.1 hwants
    constructor
    · rw [bound_add_selected hbuild hfirst hnamed]
      exact Finset.insert_subset (Finset.mem_insert_self name _) hattached
    · rw [bound_add_selected hbuild hfirst hnamed]
      exact h.permits.insert hwants
  · constructor
    · rw [bound_add_passed hwants]
      exact hattached
    · rw [bound_add_passed hwants]
      exact h.permits

theorem Sane.remove (h : Sane selection w) (name : String) :
    Sane selection (w.handle selection build (.ok ⟨name, .remove⟩)) := by
  constructor
  · rw [bound_remove]
    exact Finset.erase_subset_erase name h.attached
  · rw [bound_remove]
    exact h.permits.erase name

theorem handle_of_ignored {item : Except IoError Event} (h : Ignored item) :
    w.handle selection build item = w := by
  rw [handle, Server.handle_of_ignored h, attach_of_ignored h]

theorem Sane.handle (h : Sane selection w) (hbuild : Succeeds build)
    (item : Except IoError Event) : Sane selection (w.handle selection build item) := by
  rcases item_cases item with ⟨name, rfl⟩ | ⟨name, rfl⟩ | hignored
  · exact h.add hbuild name
  · exact h.remove name
  · rw [handle_of_ignored hignored]
    exact h

/-! ## Coverage -/

/-- With `Selection::First`, what is bound is the only one. -/
theorem bound_eq_of_mem (h : Covers .first w) (hsane : Sane .first w)
    (hmem : name ∈ w.server.bound) :
    w.server.bound = {name} := by
  obtain ⟨only, -, hbound⟩ := h ⟨name, hsane.attached hmem⟩
  rw [hbound, Finset.mem_singleton] at hmem
  rw [hbound, hmem]

/-- An `Add` leaves nothing uncovered. -/
theorem Covers.add (h : Covers selection w) (hsane : Sane selection w) (hbuild : Succeeds build)
    (name : String) : Covers selection (w.handle selection build (.ok ⟨name, .add⟩)) := by
  cases selection with
  | first =>
      intro _
      by_cases hempty : w.server.bound = ∅
      · have hadd : (w.handle .first build (.ok ⟨name, .add⟩)).server.bound =
            insert name w.server.bound := bound_add_selected hbuild (fun _ => hempty) nofun
        refine ⟨name, Finset.mem_insert_self name w.attached, ?_⟩
        rw [hadd, hempty]
        rfl
      · -- another one is bound, and stays so
        obtain ⟨other, hother⟩ := Finset.nonempty_iff_ne_empty.2 hempty
        have hpassed : Selection.first.wants name w.server.bound ≠ true := by
          intro hwants
          exact hempty ((Selection.wants_iff.1 hwants).2.1 rfl)
        refine ⟨other, Finset.mem_insert_of_mem (hsane.attached hother), ?_⟩
        rw [bound_add_passed hpassed]
        exact bound_eq_of_mem h hsane hother
  | all =>
      have hbound : w.server.bound = w.attached := h
      have hadd : (w.handle .all build (.ok ⟨name, .add⟩)).server.bound =
          insert name w.server.bound := bound_add_selected hbuild nofun nofun
      rw [Covers, hadd, hbound]
      rfl
  | named names =>
      have hbound : w.server.bound = w.attached ∩ names := h
      have hattached : (w.handle (.named names) build (.ok ⟨name, .add⟩)).attached =
        insert name w.attached := rfl
      rw [Covers, hattached]
      by_cases hname : name ∈ names
      · have hnamed : ∀ names', Selection.named names = .named names' → name ∈ names' := by
          rintro names' ⟨⟩
          exact hname
        have hadd : (w.handle (.named names) build (.ok ⟨name, .add⟩)).server.bound =
            insert name w.server.bound := bound_add_selected hbuild nofun hnamed
        rw [hadd, Finset.insert_inter_of_mem hname, hbound]
      · have hpassed : (Selection.named names).wants name w.server.bound ≠ true := by
          intro hwants
          exact hname ((Selection.wants_iff.1 hwants).2.2 names rfl)
        rw [bound_add_passed hpassed, Finset.insert_inter_of_notMem hname, hbound]

/-- A `Remove` leaves something uncovered exactly if it abandons the others. -/
theorem Covers.remove_iff (h : Covers selection w) (hsane : Sane selection w) (name : String) :
    Covers selection (w.handle selection build (.ok ⟨name, .remove⟩)) ↔
      ¬ Abandons selection w (.ok ⟨name, .remove⟩) := by
  have hattached : (w.handle selection build (.ok ⟨name, .remove⟩)).attached =
    w.attached.erase name := rfl
  cases selection with
  | first =>
      rw [Covers, hattached, bound_remove]
      by_cases hmem : name ∈ w.server.bound
      · -- nothing is bound any more, so nothing may be attached
        have hnone : w.server.bound.erase name = ∅ := by
          rw [bound_eq_of_mem h hsane hmem]
          simp
        rw [hnone]
        constructor
        · rintro hcovers ⟨-, name', -, hitem, other, hother, hne⟩
          cases hitem
          obtain ⟨only, -, hbound⟩ := hcovers ⟨other, Finset.mem_erase.2 ⟨hne, hother⟩⟩
          exact Finset.singleton_ne_empty only hbound.symm
        · rintro hkeeps ⟨other, hother⟩
          obtain ⟨hne, hother⟩ := Finset.mem_erase.1 hother
          exact absurd ⟨rfl, name, hmem, rfl, other, hother, hne⟩ hkeeps
      · -- the controller was not bound, so the bound one is still there
        constructor
        · rintro - ⟨-, name', hmem', hitem, -⟩
          cases hitem
          exact hmem hmem'
        · rintro - ⟨other, hother⟩
          obtain ⟨only, honly, hbound⟩ := h ⟨other, Finset.mem_of_mem_erase hother⟩
          have hne : only ≠ name := by
            rintro rfl
            exact hmem (by rw [hbound]; exact Finset.mem_singleton_self only)
          refine ⟨only, Finset.mem_erase.2 ⟨hne, honly⟩, ?_⟩
          rw [Finset.erase_eq_of_notMem hmem, hbound]
  | all =>
      have hbound : w.server.bound = w.attached := h
      refine iff_of_true ?_ nofun
      rw [Covers, hattached, bound_remove, hbound]
  | named names =>
      have hbound : w.server.bound = w.attached ∩ names := h
      refine iff_of_true ?_ nofun
      rw [Covers, hattached, bound_remove, hbound, Finset.erase_inter]

theorem Covers.handle_iff (h : Covers selection w) (hsane : Sane selection w)
    (hbuild : Succeeds build) (item : Except IoError Event) :
    Covers selection (w.handle selection build item) ↔ ¬ Abandons selection w item := by
  rcases item_cases item with ⟨name, rfl⟩ | ⟨name, rfl⟩ | hignored
  · exact iff_of_true (h.add hsane hbuild name) nofun
  · exact h.remove_iff hsane name
  · rw [handle_of_ignored hignored]
    refine iff_of_true h ?_
    rintro ⟨-, name, -, rfl, -⟩
    cases hignored

/-- The enumeration is a run over an `Add` of each controller. -/
theorem run_adds (names : List String) (s : Server Service) (attached : Finset String) :
    run (handle selection build) ⟨s, attached⟩ (names.map fun name => .ok ⟨name, .add⟩) =
      ⟨names.foldl (fun s name => s.bindOne selection build name) s,
        names.toFinset ∪ attached⟩ := by
  induction names generalizing s attached with
  | nil => simp
  | cons name names ih =>
      rw [List.map_cons, run_cons, List.toFinset_cons, Finset.insert_union, ← Finset.union_insert]
      exact ih (s.bindOne selection build name) (insert name attached)

/-- Behind the enumeration everything selected is bound. -/
theorem listening_covers (selection : Selection) (hbuild : Succeeds build)
    (enumerated : Except IoError (List String)) :
    Sane selection (listening selection build enumerated) ∧
      Covers selection (listening selection build enumerated) := by
  have hstart : Sane selection (⟨Server.new, ∅⟩ : Watched Service) ∧
      Covers selection (⟨Server.new, ∅⟩ : Watched Service) := by
    refine ⟨⟨Finset.Subset.refl ∅, selection.permits_empty⟩, ?_⟩
    cases selection with
    | first => exact fun hnone => absurd hnone Finset.not_nonempty_empty
    | all => rfl
    | named names => exact (Finset.empty_inter names).symm
  have hrun : run (handle selection build) ⟨Server.new, ∅⟩ _ = _ :=
    run_adds (existing enumerated) Server.new ∅
  rw [Finset.union_empty] at hrun
  rw [listening, Server.bindExisting, ← hrun]
  -- an `Add` keeps both
  refine run_invariant (I := fun w => Sane selection w ∧ Covers selection w)
    (P := fun _ item => ∃ name, item = .ok ⟨name, .add⟩) ?_ hstart (along_of_forall_mem ?_)
  · rintro w item ⟨hsane, hcovers⟩ ⟨name, rfl⟩
    exact ⟨hsane.add hbuild name, hcovers.add hsane hbuild name⟩
  · intro item hitem
    obtain ⟨name, -, rfl⟩ := List.mem_map.1 hitem
    exact ⟨name, rfl⟩

theorem server_covers_iff (selection : Selection) {build : Nat → String → BuildOutcome Service}
    (hbuild : Succeeds build) (enumerated : Except IoError (List String))
    (items : List (Except IoError Event)) :
    (∀ front, front <+: items →
        Covers selection
          (run (handle selection build) (listening selection build enumerated) front)) ↔
      Along (handle selection build) (fun w item => ¬ Abandons selection w item)
        (listening selection build enumerated) items := by
  obtain ⟨hsane, hcovers⟩ := listening_covers selection hbuild enumerated
  apply always_iff_along (J := Sane selection)
  · intro w item h
    exact h.handle hbuild item
  · intro w item h hcovers
    exact hcovers.handle_iff h hbuild item
  · exact hsane
  · exact hcovers

theorem succeeds_plainBuild : Succeeds Server.plainBuild :=
  fun _ name => ⟨⟨[], [], ⟨name⟩⟩, rfl⟩

/-- Controllers come and go, and all of them are bound. -/
theorem server_covers_iff_all :
    Covers .all (run (handle .all Server.plainBuild)
      (listening .all Server.plainBuild (.ok ["udc.1", "udc.0"]))
      [.ok ⟨"udc.0", .remove⟩, .ok ⟨"udc.2", .add⟩]) := by
  refine (server_covers_iff .all succeeds_plainBuild _ _).2 ?_ _ (List.prefix_refl _)
  exact ⟨nofun, nofun, trivial⟩

/-- The server binds the first of two controllers, and that one is removed. -/
def abandoned : Watched Empty :=
  run (handle .first Server.plainBuild)
    (listening .first Server.plainBuild (.ok ["udc.1", "udc.0"])) [.ok ⟨"udc.0", .remove⟩]

/-- The other one is attached, and nothing is bound. -/
theorem second_controller_abandoned :
    abandoned.server.bound = ∅ ∧ abandoned.attached = {"udc.1"} ∧ ¬ Covers .first abandoned := by
  have hbound : abandoned.server.bound = ∅ := by decide +kernel
  have hattached : abandoned.attached = {"udc.1"} := by decide +kernel
  refine ⟨hbound, hattached, ?_⟩
  intro hcovers
  have hsome : abandoned.attached.Nonempty := by
    rw [hattached]
    exact Finset.singleton_nonempty "udc.1"
  obtain ⟨only, -, honly⟩ := hcovers hsome
  rw [hbound] at honly
  exact Finset.singleton_ne_empty only honly.symm

end Watched

end SummitUsbgadget.UsbGadget
