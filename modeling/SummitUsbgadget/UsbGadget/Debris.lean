import Mathlib.Data.List.AList
import SummitUsbgadget.Lib.Hoare
import SummitUsbgadget.UsbGadget.Build

/-!
# What a failed build leaves in configfs

configfs is a map from the names of the gadgets to what was done in their directories. The kernel
creates a gadget under a name that is free, if it does; any operation in a gadget's directory may
fail; gadgets are enumerated and removed without fail. A build that fails has removed what it
registered, by the handle of the gadget or by the name of the controller. The second works where the
gadget was registered under that name, and that is so if the name is a text.
-/

set_option autoImplicit false

namespace SummitUsbgadget.UsbGadget

open SummitUsbgadget.Lib
open SummitUsbgadget.Lib.Program

variable {Plugin Service : Type}

/-! ## The kernel -/

/-- The gadgets that are registered, with what was done in their directories. -/
abbrev Configfs : Type := AList fun _ : Bytes => List Operation

/-- configfs, and the answers to everything that it does not decide. -/
structure Kernel (Plugin Service : Type) where
  configfs : Configfs
  answers : Oracle (Query Plugin) (Query.Answer Service)

namespace Kernel

/-- The answer that comes next, and the kernel after it. -/
def next (k : Kernel Plugin Service) (q : Query Plugin) :
    q.Answer Service × Kernel Plugin Service :=
  (k.answers 0 q, { k with answers := k.answers.rest })

/-- The operation is done in the gadget's directory, if there is one. -/
def record (fs : Configfs) (gadget : Bytes) (operation : Operation) : Configfs :=
  (fs.lookup gadget).elim fs fun operations => fs.insert gadget (operations ++ [operation])

end Kernel

/-- The kernel's part of a build. -/
def kernel : Handler (Kernel Plugin Service) (Query Plugin) (Query.Answer Service)
  | k, .createGadget name =>
      if name ∈ k.configfs then (.error "File exists (os error 17)", k)
      else
        match k.next (.createGadget name) with
        | (.ok (), k) => (.ok (), { k with configfs := k.configfs.insert name [] })
        | (.error err, k) => (.error err, k)
  | k, .operate gadget operation =>
      match k.next (.operate gadget operation) with
      | (.ok (), k) => (.ok (), { k with configfs := Kernel.record k.configfs gadget operation })
      | (.error err, k) => (.error err, k)
  | k, .registered => (.ok k.configfs.keys, k)
  | k, .remove gadget => (.ok (), { k with configfs := k.configfs.erase gadget })
  | k, q => k.next q

/-- configfs is as it was. -/
def Same (fs fs' : Configfs) : Prop := ∀ n, fs'.lookup n = fs.lookup n

/-- There is a gadget under the name, and the others are as they were. -/
structure Created (fs : Configfs) (dir : Bytes) (fs' : Configfs) : Prop where
  mem : dir ∈ fs'
  others : ∀ n, n ≠ dir → fs'.lookup n = fs.lookup n

theorem Same.not_mem {fs fs' : Configfs} {n : Bytes} (h : Same fs fs') (hn : n ∉ fs) : n ∉ fs' := by
  rw [← AList.lookup_eq_none, h n]
  exact AList.lookup_eq_none.2 hn

theorem Same.insert {fs fs' : Configfs} (h : Same fs fs') (dir : Bytes)
    (operations : List Operation) :
    Created fs dir (fs'.insert dir operations) where
  mem := (AList.mem_insert _).2 (Or.inl rfl)
  others n hn := (AList.lookup_insert_ne hn).trans (h n)

theorem Created.record {fs fs' : Configfs} {dir : Bytes} (h : Created fs dir fs')
    (operation : Operation) : Created fs dir (Kernel.record fs' dir operation) := by
  unfold Kernel.record
  cases fs'.lookup dir with
  | none => exact h
  | some operations =>
      refine ⟨(AList.mem_insert _).2 (Or.inl rfl), fun n hn => ?_⟩
      exact (AList.lookup_insert_ne hn).trans (h.others n hn)

/-- Removing the gadget restores what was there before it. -/
theorem Created.erase {fs fs' : Configfs} {dir : Bytes} (h : Created fs dir fs') (hdir : dir ∉ fs) :
    Same fs (fs'.erase dir) := by
  intro n
  by_cases hn : n = dir
  · rw [hn, AList.lookup_erase, AList.lookup_eq_none.2 hdir]
  · rw [AList.lookup_erase_ne hn, h.others n hn]

/-! ## What a query does to configfs -/

/-- The query does not change configfs. -/
def Quiet : Query Plugin → Prop
  | .createGadget _ => False
  | .operate _ _ => False
  | .remove _ => False
  | _ => True

/-- The query changes nothing but the gadget's directory. -/
def Within (dir : Bytes) (q : Query Plugin) : Prop :=
  Quiet q ∨ ∃ operation, q = .operate dir operation

section Queries

variable {k : Kernel Plugin Service} {q : Query Plugin}

theorem kernel_quiet (h : Quiet q) : (kernel k q).2.configfs = k.configfs := by
  cases q with
  | createGadget name => exact h.elim
  | operate gadget operation => exact h.elim
  | remove gadget => exact h.elim
  | _ => rfl

theorem kernel_operate (gadget : Bytes) (operation : Operation) :
    (kernel k (.operate gadget operation)).2.configfs = k.configfs ∨
      (kernel k (.operate gadget operation)).2.configfs =
        Kernel.record k.configfs gadget operation := by
  unfold kernel Kernel.next
  dsimp only
  cases k.answers 0 (.operate gadget operation) with
  | error err => exact Or.inl rfl
  | ok _ => exact Or.inr rfl

/-- A gadget is created under a name that was free, or nothing happens. -/
theorem kernel_create (name : Bytes) :
    ((kernel k (.createGadget name)).1 = .ok () ∧ name ∉ k.configfs ∧
        (kernel k (.createGadget name)).2.configfs = k.configfs.insert name []) ∨
      (∃ err, (kernel k (.createGadget name)).1 = .error err) ∧
        (kernel k (.createGadget name)).2.configfs = k.configfs := by
  unfold kernel Kernel.next
  dsimp only
  split
  · exact Or.inr ⟨⟨_, rfl⟩, rfl⟩
  · next hfree =>
      cases k.answers 0 (.createGadget name) with
      | error err => exact Or.inr ⟨⟨_, rfl⟩, rfl⟩
      | ok _ => exact Or.inl ⟨rfl, hfree, rfl⟩

theorem Same.quiet {fs : Configfs} (hq : Quiet q) (h : Same fs k.configfs) :
    Same fs (kernel k q).2.configfs := by
  rw [kernel_quiet hq]
  exact h

theorem Created.within {fs : Configfs} {dir : Bytes} (hq : Within dir q)
    (h : Created fs dir k.configfs) : Created fs dir (kernel k q).2.configfs := by
  obtain hquiet | ⟨operation, rfl⟩ := hq
  · rw [kernel_quiet hquiet]
    exact h
  · obtain hsame | hrecord := kernel_operate (k := k) dir operation
    · rw [hsame]
      exact h
    · rw [hrecord]
      exact h.record operation

end Queries

/-! ## What the parts of a build ask -/

/-- The part asks nothing but queries in `T`. -/
abbrev Asks {α : Type} (T : Query Plugin → Prop) (p : Build Plugin Service α) : Prop :=
  Meets T (fun _ _ => True) p

section Asked

theorem asks_pure {α : Type} {T : Query Plugin → Prop} (a : α) :
    Asks T (Pure.pure a : Build Plugin Service α) := meets_pure fun _ => trivial

theorem asks_newHandle (driver : String) :
    Asks Quiet (newHandle driver : Build Plugin Service Handle) := meets_act fun _ => trivial

theorem asks_parseOptionalAddr (what : String) (addr : Option String) :
    Asks Quiet (parseOptionalAddr what addr : Build Plugin Service (Except String Unit)) := by
  cases addr with
  | none => exact asks_pure _
  | some addr => exact meets_then (meets_ask trivial fun _ _ => trivial) fun _ => asks_pure _

theorem asks_rememberNetOsDescriptor (netClass : NetClass) (net : Handle) (id sub : Option String) :
    Asks Quiet (rememberNetOsDescriptor netClass net id sub :
      Build Plugin Service (Except String Unit)) := by
  unfold rememberNetOsDescriptor
  cases id with
  | none => exact meets_ite (asks_pure _) (asks_pure _)
  | some id =>
      dsimp only
      cases netClass.interface with
      | none => exact asks_pure _
      | some interface => exact meets_then (meets_update fun _ => trivial) fun _ => asks_pure _

theorem asks_buildNet (c : NetConfig) :
    Asks Quiet (buildNet c : Build Plugin Service (Except String Handle)) := by
  unfold buildNet
  cases NetClass.ofConfig c.netClass with
  | error err => exact asks_pure _
  | ok netClass =>
      refine meets_attempt (asks_parseOptionalAddr _ _) (fun _ _ => trivial) fun _ => ?_
      refine meets_attempt (asks_parseOptionalAddr _ _) (fun _ _ => trivial) fun _ => ?_
      refine meets_then (asks_newHandle _) fun handle => ?_
      exact meets_attempt (asks_rememberNetOsDescriptor _ _ _ _) (fun _ _ => trivial)
        fun _ => asks_pure _

theorem asks_buildFunction (serial : String) (f : FunctionConfig Plugin) :
    Asks Quiet (buildFunction serial f : Build Plugin Service (Except String (Option Handle))) := by
  have herr : ∀ (s : FunctionOutputs Service) (err : String), True := fun _ _ => trivial
  cases f with
  | serial c =>
      refine meets_attempt ?_ herr fun _ => asks_pure _
      refine meets_ite (meets_map (asks_newHandle _)) ?_
      exact meets_ite (meets_map (asks_newHandle _)) (asks_pure _)
  | net c => exact meets_attempt (asks_buildNet c) herr fun _ => asks_pure _
  | msd c =>
      refine meets_attempt ?_ herr fun _ => asks_pure _
      exact meets_ite (asks_pure _) (meets_map (asks_newHandle _))
  | plugin kind config =>
      refine meets_attempt ?_ herr fun driver => ?_
      · refine meets_attempt (meets_ask trivial fun _ _ => trivial) herr fun _ => ?_
        exact meets_then (meets_update fun _ => trivial) fun _ => asks_pure _
      · cases driver with
        | none => exact asks_pure _
        | some driver => exact meets_map (asks_newHandle driver)

theorem asks_buildFunctions (serial : String) (fs : List (FunctionConfig Plugin)) :
    Asks Quiet (buildFunctions serial fs : Build Plugin Service (Except String (List Handle))) := by
  induction fs with
  | nil => exact asks_pure _
  | cons f fs ih =>
      refine meets_attempt (asks_buildFunction serial f) (fun _ _ => trivial) fun _ => ?_
      exact meets_attempt ih (fun _ _ => trivial) fun _ => asks_pure _

theorem asks_buildConfigs (serial : String) (cs : List (UsbConfigConfig Plugin)) :
    Asks Quiet (buildConfigs serial cs : Build Plugin Service (Except String (List Config))) := by
  induction cs with
  | nil => exact asks_pure _
  | cons c cs ih =>
      refine meets_attempt (asks_buildFunctions serial c.function) (fun _ _ => trivial) fun _ => ?_
      exact meets_attempt ih (fun _ _ => trivial) fun _ => asks_pure _

theorem asks_productResolve (device : DeviceConfig) :
    Asks Quiet (productResolve device : Build Plugin Service (Except String String)) := by
  unfold productResolve
  refine meets_ite ?_ (meets_ite ?_ (asks_pure _))
  · cases device.productName.filter (· ≠ "") with
    | none => exact asks_pure _
    | some name => exact asks_pure _
  · exact meets_then (meets_ask trivial fun _ _ => trivial) fun _ => asks_pure _

/-- Putting the gadget together leaves configfs alone, and the gadget gets the controller's name. -/
theorem meets_buildGadget (cfg : GadgetConfig Plugin) (udc : Bytes) :
    Meets Quiet (fun _ r => ∀ g, r = .ok g → g.name = decodeLossy udc)
      (buildGadget cfg udc : Build Plugin Service (Except String Gadget)) := by
  have herr : ∀ (s : FunctionOutputs Service) (err : String) (g : Gadget),
      Except.error err = .ok g → g.name = decodeLossy udc := by
    intro s err g h
    cases h
  refine meets_attempt (meets_ask trivial fun _ _ => trivial) herr fun serial => ?_
  refine meets_attempt (asks_productResolve cfg.device) herr fun _ => ?_
  refine meets_then (meets_ask trivial fun _ _ => trivial) fun speed => ?_
  refine meets_ite (meets_pure fun s => herr s _) ?_
  refine meets_attempt (asks_buildConfigs serial cfg.config) herr fun _ =>
    meets_pure fun s g h => ?_
  obtain rfl := Except.ok.inj h
  rfl

theorem asks_operate (dir : Bytes) (operation : Operation) :
    Asks (Within dir) (operate dir operation : Build Plugin Service (Except String Unit)) :=
  meets_ask (Or.inr ⟨operation, rfl⟩) fun _ _ => trivial

theorem asks_perform (dir : Bytes) (operations : List Operation) :
    Asks (Within dir) (perform dir operations : Build Plugin Service (Except String Unit)) := by
  induction operations with
  | nil => exact asks_pure _
  | cons operation rest ih =>
      exact meets_attempt (asks_operate dir operation) (fun _ _ => trivial) fun _ => ih

theorem asks_registerOsDescriptor (dir : Bytes) (configDirs : List (List String))
    (osDesc : OsDescriptor) :
    Asks (Within dir) (registerOsDescriptor dir configDirs osDesc :
      Build Plugin Service (Except String Unit)) := by
  refine meets_then (meets_ask (Or.inl trivial) fun _ _ => trivial) fun _ =>
    meets_ite ?_ (asks_pure _)
  refine meets_attempt (asks_perform dir _) (fun _ _ => trivial) fun _ => ?_
  cases configDirs[osDesc.config]? with
  | none => exact asks_pure _
  | some configDir => exact asks_operate dir _

theorem asks_applyNetOsDescriptors (reg : Registration) (descriptors : List NetOsDescriptor) :
    Asks (Within reg.dir) (applyNetOsDescriptors reg descriptors :
      Build Plugin Service (Except String Unit)) := by
  induction descriptors with
  | nil => exact asks_pure _
  | cons descriptor rest ih =>
      rw [applyNetOsDescriptors]
      cases reg.funcDir descriptor.function with
      | none => exact asks_pure _
      | some functionDir =>
          exact meets_attempt (asks_perform reg.dir _) (fun _ _ => trivial) fun _ => ih

end Asked

/-! ## What a build does to configfs -/

section Effect

variable {α : Type} {fs : Configfs} {dir : Bytes}

theorem triple_same {p : Build Plugin Service α} {R : FunctionOutputs Service → α → Prop}
    (hp : Meets Quiet R p) :
    Triple kernel (fun _ k => Same fs k.configfs) p fun a s k => Same fs k.configfs ∧ R s a :=
  triple_invariant (fun _ _ hq h => h.quiet hq) hp

theorem triple_created {p : Build Plugin Service α} (hp : Asks (Within dir) p) :
    Triple kernel (fun _ k => Created fs dir k.configfs) p fun _ _ k => Created fs dir k.configfs :=
  triple_conseq (triple_invariant (fun _ _ hq h => h.within hq) hp) (fun _ _ h => h)
    fun _ _ _ h => h.1

theorem triple_createGadget (dir : Bytes) :
    Triple kernel (fun (_ : FunctionOutputs Service) (k : Kernel Plugin Service) =>
      Same fs k.configfs)
      (createGadget dir) fun r _ k =>
        (r = .ok () ∧ dir ∉ fs ∧ Created fs dir k.configfs) ∨
          (∃ err, r = .error err) ∧ Same fs k.configfs := by
  intro s k hsame
  obtain ⟨hok, hfree, hinsert⟩ | ⟨herr, hkept⟩ := kernel_create (k := k) dir
  · refine Or.inl ⟨hok, fun hmem => ?_, ?_⟩
    · have hnone := hsame dir
      rw [AList.lookup_eq_none.2 hfree] at hnone
      exact AList.lookup_eq_none.1 hnone.symm hmem
    · exact hinsert ▸ hsame.insert dir []
  · exact Or.inr ⟨herr, hkept ▸ hsame⟩

/-- What is left by a registration: the gadget under its name, which was free, or, after an error,
the gadget's directory or nothing. -/
def Registers (fs : Configfs) (name : String) : Except String Registration → Configfs → Prop
  | .ok reg, fs' => reg.name = name ∧ utf8Bytes name ∉ fs ∧ Created fs (utf8Bytes name) fs'
  | .error _, fs' => Same fs fs' ∨ Created fs (utf8Bytes name) fs'

theorem register_triple (g : Gadget) :
    Triple kernel (fun (_ : FunctionOutputs Service) (k : Kernel Plugin Service) =>
      Same fs k.configfs)
      g.register fun r _ k => Registers fs g.name r k.configfs := by
  refine triple_ite (fun _ => triple_pure fun s k hsame => Or.inl hsame) fun _ => ?_
  refine triple_attempt (triple_same (meets_ask trivial fun _ _ => trivial))
    (fun err s k h => Or.inl h.1) fun base => ?_
  refine triple_attempt (triple_conseq (triple_createGadget (utf8Bytes g.name)) (fun s k h => h.1)
    fun _ _ _ h => h) ?_ fun _ => ?_
  · rintro err s k (⟨hok, -⟩ | ⟨-, hsame⟩)
    · cases hok
    · exact Or.inl hsame
  -- from here on the directory is there
  refine triple_intro fun s k hcreate => ?_
  obtain ⟨-, hfree, hcreated⟩ | ⟨⟨err, herr⟩, -⟩ := hcreate
  · refine ⟨fun _ k => Created fs (utf8Bytes g.name) k.configfs, hcreated, ?_⟩
    refine triple_attempt (triple_created (asks_perform _ _))
      (fun err s k h => Or.inr h) fun _ => ?_
    refine triple_attempt (triple_created ?_) (fun err s k h => Or.inr h) fun _ => ?_
    · cases g.osDescriptor with
      | none => exact asks_pure _
      | some osDesc => exact asks_registerOsDescriptor _ _ _
    · exact triple_pure fun s k h => ⟨rfl, hfree, h⟩
  · cases herr

theorem triple_remove (hdir : dir ∉ fs) :
    Triple kernel
      (fun (_ : FunctionOutputs Service) (k : Kernel Plugin Service) => Created fs dir k.configfs)
      (remove dir) fun r _ k => r = .ok () ∧ Same fs k.configfs :=
  fun _ _ h => ⟨rfl, h.erase hdir⟩

/-- What follows the removal of the gadget. -/
theorem triple_remove_bind {α : Type} {next : Except String Unit → Build Plugin Service α}
    {R : α → FunctionOutputs Service → Kernel Plugin Service → Prop} (hdir : dir ∉ fs)
    (h : Triple kernel (fun _ k => Same fs k.configfs) (next (.ok ())) R) :
    Triple kernel
      (fun (_ : FunctionOutputs Service) (k : Kernel Plugin Service) => Created fs dir k.configfs)
      (remove dir >>= next) R := by
  refine triple_bind (triple_remove hdir) fun r => ?_
  rintro s k ⟨rfl, hsame⟩
  exact h s k hsame

/-- By its handle, the gadget is removed. -/
theorem cleanupFailedRegistration_triple {reg : Registration} (hdir : reg.dir ∉ fs) (err : String) :
    Triple kernel (fun (_ : FunctionOutputs Service) (k : Kernel Plugin Service) =>
        Created fs reg.dir k.configfs)
      (cleanupFailedRegistration reg err) fun _ _ k => Same fs k.configfs := by
  exact triple_remove_bind hdir (triple_pure fun s k h => h)

/-- By its name, the gadget is removed if it has that name. -/
theorem cleanupFailedRegistrationByName_triple {name : Bytes} (hname : name ∉ fs) (err : String) :
    Triple kernel (fun (_ : FunctionOutputs Service) (k : Kernel Plugin Service) =>
        Same fs k.configfs ∨ Created fs name k.configfs)
      (cleanupFailedRegistrationByName name err) fun _ _ k => Same fs k.configfs := by
  have hlist : Triple kernel (fun (_ : FunctionOutputs Service) (k : Kernel Plugin Service) =>
      Same fs k.configfs ∨ Created fs name k.configfs) (registered Plugin Service) fun r _ k =>
        r = .ok k.configfs.keys ∧ (Same fs k.configfs ∨ Created fs name k.configfs) :=
    fun s k h => ⟨rfl, h⟩
  refine triple_bind hlist fun r => ?_
  cases r with
  | error cleanupErr =>
      rintro s k ⟨hok, -⟩
      cases hok
  | ok gadgets =>
      dsimp only
      cases hfind : gadgets.find? (· == name) with
      | none =>
          refine triple_pure ?_
          rintro s k ⟨hok, hsame | hcreated⟩
          · exact hsame
          · obtain rfl := Except.ok.inj hok
            exact absurd (beq_self_eq_true name) (List.find?_eq_none.1 hfind name hcreated.mem)
      | some gadget =>
          have hfound := List.find?_some hfind
          obtain rfl := eq_of_beq hfound
          refine triple_intro fun s k h => ⟨fun _ k => Created fs gadget k.configfs, ?_, ?_⟩
          · obtain ⟨hok, hsame | hcreated⟩ := h
            · obtain rfl := Except.ok.inj hok
              exact absurd (List.mem_of_find?_eq_some hfind) (hsame.not_mem hname)
            · exact hcreated
          · exact triple_remove_bind hname (triple_pure fun s k h => h)

/-- The name that a gadget is registered under. -/
def gadgetDir (udc : Bytes) : Bytes := utf8Bytes (decodeLossy udc)

/-- What an attempt leaves: the gadget, or nothing after an error if the gadget has the controller's
name. -/
def Attempted (fs : Configfs) (udc : Bytes) : Except String α → Configfs → Prop
  | .ok _, fs' => Created fs (gadgetDir udc) fs'
  | .error _, fs' => gadgetDir udc = udc → udc ∉ fs → Same fs fs'

theorem registerOrRemove_triple {g : Gadget} {udc : Bytes} (hname : g.name = decodeLossy udc) :
    Triple kernel (fun (_ : FunctionOutputs Service) (k : Kernel Plugin Service) =>
      Same fs k.configfs)
      (registerOrRemove udc g) fun r _ k =>
        (∀ reg, r = .ok reg → reg.dir = gadgetDir udc ∧ gadgetDir udc ∉ fs) ∧
          Attempted fs udc r k.configfs := by
  refine triple_bind (register_triple g) fun r => ?_
  cases r with
  | ok reg =>
      refine triple_pure ?_
      rintro s k ⟨hreg, hfree, hcreated⟩
      rw [hname] at hreg hfree hcreated
      refine ⟨fun reg' hok => ?_, hcreated⟩
      obtain rfl := Except.ok.inj hok
      exact ⟨congrArg utf8Bytes hreg, hfree⟩
  | error err =>
      refine triple_map fun s k h => ⟨fun reg hok => ?_, fun hvalid hfree => ?_⟩
      · cases hok
      · have hdir : utf8Bytes g.name = udc := by
          rw [hname]
          exact hvalid
        rw [Registers, hdir] at h
        exact cleanupFailedRegistrationByName_triple hfree _ s k h

/-- A step of the setup that fails removes the gadget. -/
theorem orRemove_triple {reg : Registration} (what : String) (hdir : reg.dir ∉ fs)
    {setup : Build Plugin Service (Except String Unit)} (hsetup : Asks (Within reg.dir) setup) :
    Triple kernel (fun (_ : FunctionOutputs Service) (k : Kernel Plugin Service) =>
        Created fs reg.dir k.configfs)
      (orRemove reg what setup) fun r _ k =>
        (r = .ok () ∧ Created fs reg.dir k.configfs) ∨
          (∃ err, r = .error err) ∧ Same fs k.configfs := by
  refine triple_bind (triple_created hsetup) fun r => ?_
  cases r with
  | ok _ => exact triple_pure fun s k h => Or.inl ⟨rfl, h⟩
  | error err =>
      refine triple_map (triple_conseq (cleanupFailedRegistration_triple hdir _)
        (fun _ _ h => h) ?_)
      exact fun err s k h => Or.inr ⟨⟨err, rfl⟩, h⟩

theorem buildOnUdcOnce_triple (cfg : GadgetConfig Plugin) (udc : Bytes) :
    Triple kernel (fun (_ : FunctionOutputs Service) (k : Kernel Plugin Service) =>
      Same fs k.configfs)
      (buildOnUdcOnce cfg udc) fun r _ k => Attempted fs udc r k.configfs := by
  refine triple_update (?_ : Triple kernel (fun _ k => Same fs k.configfs) _ _) fun s k h => h
  refine triple_attempt (triple_same (meets_buildGadget cfg udc))
    (fun err s k h _ _ => h.1) fun g => ?_
  refine triple_intro fun s k h => ⟨fun _ k => Same fs k.configfs, h.1, ?_⟩
  have hname : g.name = decodeLossy udc := h.2 g rfl
  refine triple_attempt (registerOrRemove_triple hname) (fun err s k h => h.2) fun reg => ?_
  refine triple_intro fun s k h => ⟨fun _ k => Created fs (gadgetDir udc) k.configfs, h.2, ?_⟩
  obtain ⟨hdir, hfree⟩ := h.1 reg rfl
  rw [← hdir] at hfree ⊢
  refine triple_read fun outputs => ?_
  -- either step of the setup keeps the gadget or removes it
  refine triple_attempt (triple_conseq (orRemove_triple _ hfree (asks_applyNetOsDescriptors reg _))
    (fun s k h => h.1) fun _ _ _ h => h) ?_ fun _ => ?_
  · rintro err s k (⟨hok, -⟩ | ⟨-, hsame⟩)
    · cases hok
    · exact fun _ _ => hsame
  refine triple_attempt (triple_conseq (orRemove_triple _ hfree (asks_operate reg.dir _)) ?_
    fun _ _ _ h => h) ?_ fun _ => ?_
  · rintro s k (⟨-, hcreated⟩ | ⟨⟨err, herr⟩, -⟩)
    · exact hcreated
    · cases herr
  · rintro err s k (⟨hok, -⟩ | ⟨-, hsame⟩)
    · cases hok
    · exact fun _ _ => hsame
  · refine triple_pure ?_
    rintro s k (⟨-, hcreated⟩ | ⟨⟨err, herr⟩, -⟩)
    · rw [Attempted, ← hdir]
      exact hcreated
    · cases herr

/-- The retry begins where the first attempt began. -/
theorem buildOnUdc_triple {udc : Bytes} (hvalid : gadgetDir udc = udc) (hfree : udc ∉ fs)
    (cfg : GadgetConfig Plugin) :
    Triple kernel (fun (_ : FunctionOutputs Service) (k : Kernel Plugin Service) =>
      Same fs k.configfs)
      (buildOnUdc cfg udc) fun r _ k => Attempted fs udc r k.configfs := by
  refine triple_bind (buildOnUdcOnce_triple cfg udc) fun r => ?_
  cases r with
  | ok running => exact triple_pure fun s k h => h
  | error err =>
      dsimp only
      cases configWithoutDfu cfg err with
      | none => exact triple_pure fun s k h => h
      | some filtered =>
          refine triple_bind (triple_conseq (buildOnUdcOnce_triple filtered udc)
            (fun s k h => h hvalid hfree) fun _ _ _ h => h) fun r => ?_
          cases r with
          | ok running => exact triple_pure fun s k h => h
          | error retryErr => exact triple_pure fun s k h => h

end Effect

/-! ## No debris -/

/-- `FunctionOutputs::default`. -/
def FunctionOutputs.default : FunctionOutputs Service := ⟨[], [], 0⟩

/-- What a build returns, and configfs after it. -/
def built (build : Build Plugin Service (Except String (RunningGadget Service)))
    (k : Kernel Plugin Service) : Except String (RunningGadget Service) × Configfs :=
  ((execIn kernel build .default k).1, (execIn kernel build .default k).2.2.configfs)

/-- A build that fails leaves no gadget with the controller's name and the others as they were, one
that succeeds leaves one, and the first attempt leaves nothing in the retry's way. -/
structure CleanBuild (cfg : GadgetConfig Plugin) (udc : Bytes)
    (k : Kernel Plugin Service) : Prop where
  failed : ∀ err, (built (buildOnUdc cfg udc) k).1 = .error err →
    udc ∉ (built (buildOnUdc cfg udc) k).2 ∧
      ∀ n, n ≠ udc → (built (buildOnUdc cfg udc) k).2.lookup n = k.configfs.lookup n
  succeeded : ∀ running, (built (buildOnUdc cfg udc) k).1 = .ok running →
    (built (buildOnUdc cfg udc) k).2.keys.count udc = 1
  retried : ∀ err, (built (buildOnUdcOnce cfg udc) k).1 = .error err →
    gadgetDir udc ∈ (built (buildOnUdcOnce cfg udc) k).2 → gadgetDir udc ∈ k.configfs

theorem cleanBuild_of_valid {udc : Bytes} (hvalid : gadgetDir udc = udc)
    (cfg : GadgetConfig Plugin) (k : Kernel Plugin Service) (hfree : udc ∉ k.configfs) :
    CleanBuild cfg udc k := by
  have hbuild := buildOnUdc_triple hvalid hfree cfg .default k fun _ => rfl
  have honce := buildOnUdcOnce_triple cfg udc .default k fun n => Eq.refl (k.configfs.lookup n)
  refine ⟨fun err herr => ?_, fun running hok => ?_, fun err herr hmem => ?_⟩
  · rw [show (execIn kernel (buildOnUdc cfg udc) .default k).1 = .error err from herr] at hbuild
    have hsame := hbuild hvalid hfree
    exact ⟨hsame.not_mem hfree, fun n _ => hsame n⟩
  · rw [show (execIn kernel (buildOnUdc cfg udc) .default k).1 = .ok running from hok] at hbuild
    have hmem := hbuild.mem
    rw [hvalid] at hmem
    exact List.count_eq_one_of_mem (AList.keys_nodup _) hmem
  · rw [show (execIn kernel (buildOnUdcOnce cfg udc) .default k).1 = .error err from herr] at honce
    rw [hvalid] at hmem
    exact absurd hmem ((honce hvalid hfree).not_mem hfree)

/-- Surroundings in which nothing fails. -/
def willing : Oracle (Query Plugin) (Query.Answer Service) := fun _ q =>
  match q with
  | .resolveSerial _ => .ok "0123456789ab"
  | .readModel => none
  | .maxSpeed _ => .ok .highSpeed
  | .parseAddr _ => .ok ()
  | .buildPlugin _ _ _ => .ok (none, [])
  | .usbGadgetDir => .ok "/sys/kernel/config/usb_gadget"
  | .createGadget _ => .ok ()
  | .operate _ _ => .ok ()
  | .osDescIsDir _ => true
  | .registered => .ok []
  | .remove _ => .ok ()

/-- A device that is called as its model. -/
def plainDevice : DeviceConfig := ⟨0x1d6b, 0x0104, none, none, none, none, none, none, none, none⟩

/-- A gadget with one configuration. -/
def plain : GadgetConfig Plugin where
  name := none
  udc := none
  osDescriptor := none
  device := plainDevice
  config := [⟨none, none, none, none, []⟩]

/-- The gadget that is put together from it. -/
def plainGadget (udc : Bytes) : Gadget where
  name := decodeLossy udc
  deviceClass := 0
  subClass := 0
  protocol := 0
  vendor := 0x1d6b
  product := 0x0104
  manufacturer := ""
  productName := ""
  serialNumber := "0123456789ab"
  usbVersion := 0x0200
  maxSpeed := some .highSpeed
  osDescriptor := none
  configs := [⟨500, false, false, "", []⟩]

section Willing

/-- Nothing was done yet. -/
def Idle (s : FunctionOutputs Service) (k : Kernel Plugin Service) : Prop :=
  s = .default ∧ k = ⟨∅, willing⟩

theorem buildGadget_willing (udc : Bytes) :
    Triple kernel (Idle : FunctionOutputs Service → Kernel Plugin Service → Prop)
      (buildGadget plain udc) fun r s k => r = .ok (plainGadget udc) ∧ Idle s k := by
  have hserial : Triple kernel (Idle : FunctionOutputs Service → Kernel Plugin Service → Prop)
      (resolveSerial Plugin Service none) fun r s k => r = .ok "0123456789ab" ∧ Idle s k := by
    rintro s k ⟨rfl, rfl⟩
    exact ⟨rfl, rfl, rfl⟩
  have hproduct : Triple kernel (Idle : FunctionOutputs Service → Kernel Plugin Service → Prop)
      (productResolve plainDevice) fun r s k => r = .ok "" ∧ Idle s k := by
    rintro s k ⟨rfl, rfl⟩
    exact ⟨rfl, rfl, rfl⟩
  refine triple_attempt_ok hserial (triple_attempt_ok hproduct ?_)
  rintro s k ⟨rfl, rfl⟩
  exact ⟨rfl, rfl, rfl⟩

/-- No descriptor has to be written, and nothing fails. -/
def Willing (s : FunctionOutputs Service) (k : Kernel Plugin Service) : Prop :=
  s.netOs = [] ∧ k.answers = willing

theorem operate_willing (dir : Bytes) (operation : Operation) :
    Triple kernel (Willing : FunctionOutputs Service → Kernel Plugin Service → Prop)
      (operate dir operation) fun r s k => r = .ok () ∧ Willing s k := by
  rintro s ⟨fs, answers⟩ ⟨hs, rfl⟩
  exact ⟨rfl, hs, rfl⟩

theorem perform_willing (dir : Bytes) (operations : List Operation) :
    Triple kernel (Willing : FunctionOutputs Service → Kernel Plugin Service → Prop)
      (perform dir operations) fun r s k => r = .ok () ∧ Willing s k := by
  induction operations with
  | nil => exact triple_pure fun s k h => ⟨rfl, h⟩
  | cons operation rest ih => exact triple_attempt_ok (operate_willing dir operation) ih

/-- The gadget is created, and everything that follows is done. -/
theorem register_willing (udc : Bytes) :
    Triple kernel (Idle : FunctionOutputs Service → Kernel Plugin Service → Prop)
      (plainGadget udc).register fun r s k => (∃ reg, r = .ok reg) ∧ Willing s k := by
  have hbase : Triple kernel (Idle : FunctionOutputs Service → Kernel Plugin Service → Prop)
      (usbGadgetDir Plugin Service) fun r s k =>
        r = .ok "/sys/kernel/config/usb_gadget" ∧ Idle s k := by
    rintro s k ⟨rfl, rfl⟩
    exact ⟨rfl, rfl, rfl⟩
  have hcreate : Triple kernel (Idle : FunctionOutputs Service → Kernel Plugin Service → Prop)
      (createGadget (gadgetDir udc)) fun r s k => r = .ok () ∧ Willing s k := by
    rintro s k ⟨rfl, rfl⟩
    exact ⟨rfl, rfl, rfl⟩
  refine triple_attempt_ok hbase (triple_attempt_ok hcreate ?_)
  refine triple_attempt_ok (perform_willing (gadgetDir udc) _) ?_
  exact triple_pure fun s k h => ⟨⟨_, rfl⟩, h⟩

theorem orRemove_willing (reg : Registration) (what : String)
    {setup : Build Plugin Service (Except String Unit)}
    (hsetup : Triple kernel Willing setup fun r s k => r = .ok () ∧ Willing s k) :
    Triple kernel Willing (orRemove reg what setup) fun r s k => r = .ok () ∧ Willing s k := by
  refine triple_bind hsetup fun r => ?_
  cases r with
  | ok _ => exact triple_pure fun s k h => h
  | error err =>
      rintro s k ⟨hok, -⟩
      cases hok

/-- With nothing in its way a build returns a gadget, and the gadget is there. -/
theorem buildOnUdc_willing (udc : Bytes) :
    Triple kernel (Idle : FunctionOutputs Service → Kernel Plugin Service → Prop)
      (buildOnUdc plain udc) fun r _ k =>
        (∃ running, r = .ok running) ∧ Created ∅ (gadgetDir udc) k.configfs := by
  have hattempt : Triple kernel (Idle : FunctionOutputs Service → Kernel Plugin Service → Prop)
      (buildOnUdcOnce plain udc) fun r _ k => Attempted ∅ udc r k.configfs :=
    triple_conseq (buildOnUdcOnce_triple plain udc) (fun s k h n => by rw [h.2]) fun _ _ _ h => h
  have honce : Triple kernel (Idle : FunctionOutputs Service → Kernel Plugin Service → Prop)
      (buildOnUdcOnce plain udc) fun r _ _ => ∃ running, r = .ok running := by
    refine triple_update (?_ : Triple kernel Idle _ _) fun s k h => ⟨rfl, h.2⟩
    refine triple_attempt_ok (buildGadget_willing udc) ?_
    refine triple_attempt (M := fun r s k => (∃ reg, r = .ok reg) ∧ Willing s k) ?_ ?_ fun reg => ?_
    · refine triple_bind (register_willing udc) fun r => ?_
      cases r with
      | ok reg => exact triple_pure fun s k h => h
      | error err =>
          rintro s k ⟨⟨reg, hok⟩, -⟩
          cases hok
    · rintro err s k ⟨⟨reg, hok⟩, -⟩
      cases hok
    · refine triple_read fun outputs => ?_
      refine triple_intro fun s k h => ⟨Willing, h.1.2, ?_⟩
      have hnet : outputs.netOs = [] := h.2 ▸ h.1.2.1
      rw [hnet]
      refine triple_attempt_ok (orRemove_willing reg _ (triple_pure fun s k h => ⟨rfl, h⟩)) ?_
      refine triple_attempt_ok (orRemove_willing reg _ (operate_willing reg.dir _)) ?_
      exact triple_pure fun s k h => ⟨_, rfl⟩
  refine triple_bind (triple_and honce hattempt) fun r => ?_
  cases r with
  | ok running => exact triple_pure fun s k h => h
  | error err =>
      rintro s k ⟨⟨running, hok⟩, -⟩
      cases hok

end Willing

/-- A gadget that is built without debris has the controller's name. -/
theorem CleanBuild.dir_eq {cfg : GadgetConfig Plugin} {udc dir : Bytes} {k : Kernel Plugin Service}
    {fs : Configfs} {running : RunningGadget Service} (h : CleanBuild cfg udc k)
    (hok : (execIn kernel (buildOnUdc cfg udc) .default k).1 = .ok running)
    (hcreated : Created fs dir (execIn kernel (buildOnUdc cfg udc) .default k).2.2.configfs)
    (hfree : udc ∉ fs) : dir = udc := by
  have hcount := h.succeeded running hok
  rw [built] at hcount
  by_contra hne
  have hgone := hcreated.others udc (Ne.symm hne)
  rw [AList.lookup_eq_none.2 hfree, AList.lookup_eq_none, AList.mem_keys] at hgone
  rw [List.count_eq_zero.2 hgone] at hcount
  cases hcount

/-- For every controller: no build leaves debris, whatever the configuration and whatever fails,
exactly if the controller's name is a text. -/
theorem build_leaves_no_debris_iff (udc : Bytes) :
    (∀ (cfg : GadgetConfig Plugin) (k : Kernel Plugin Service), udc ∉ k.configfs →
      CleanBuild cfg udc k) ↔ ∃ name : String, utf8Bytes name = udc := by
  constructor
  · intro h
    have hfree : udc ∉ (∅ : Configfs) := AList.notMem_empty udc
    obtain ⟨⟨running, hok⟩, hcreated⟩ :=
      buildOnUdc_willing udc .default (⟨∅, willing⟩ : Kernel Plugin Service) ⟨rfl, rfl⟩
    have hdir : gadgetDir udc = udc :=
      CleanBuild.dir_eq (h plain ⟨∅, willing⟩ hfree) hok hcreated hfree
    exact ⟨decodeLossy udc, hdir⟩
  · rintro ⟨name, rfl⟩ cfg k hfree
    refine cleanBuild_of_valid ?_ cfg k hfree
    rw [gadgetDir, decodeLossy_utf8Bytes]

/-- Surroundings in which nothing can be written to a gadget's directory. -/
def readOnly : Oracle (Query Plugin) (Query.Answer Service) := fun n q =>
  match q with
  | .operate _ _ => .error "Read-only file system (os error 30)"
  | q => willing n q

/-- The gadget of a controller whose name is no text is created under another name, and it stays
there when its registration fails. -/
theorem replaced_name_left_behind :
    (built (buildOnUdc plain [0xff]) (⟨∅, readOnly⟩ : Kernel Unit Unit)).1.isOk = false ∧
      (built (buildOnUdc plain [0xff]) (⟨∅, readOnly⟩ : Kernel Unit Unit)).2.keys =
        [[0xef, 0xbf, 0xbd]] ∧
      ¬ CleanBuild plain [0xff] (⟨∅, readOnly⟩ : Kernel Unit Unit) := by
  have hkeys : (built (buildOnUdc plain [0xff]) (⟨∅, readOnly⟩ : Kernel Unit Unit)).2.keys =
      [[0xef, 0xbf, 0xbd]] := by decide +kernel
  refine ⟨by decide +kernel, hkeys, fun h => ?_⟩
  cases hresult : (built (buildOnUdc plain [0xff]) (⟨∅, readOnly⟩ : Kernel Unit Unit)).1 with
  | ok running =>
      have hcount := h.succeeded running hresult
      rw [hkeys] at hcount
      exact absurd hcount (by decide +kernel)
  | error err =>
      have hgone := (h.failed err hresult).2 [0xef, 0xbf, 0xbd] (by decide)
      rw [AList.lookup_empty, AList.lookup_eq_none, AList.mem_keys, hkeys] at hgone
      exact hgone (List.mem_singleton.2 rfl)

end SummitUsbgadget.UsbGadget
