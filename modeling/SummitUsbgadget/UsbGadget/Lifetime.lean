import Mathlib.Data.List.TakeWhile
import SummitUsbgadget.Lib.Machine
import SummitUsbgadget.UsbGadget.Debris
import SummitUsbgadget.UsbGadget.Teardown

/-!
# Gadgets over many builds

configfs with the trees of its gadgets, for builds that end anywhere. Whatever an operation of a
build makes is in its place: the trees stay regular through every build and every removal, failed
ones included. So each gadget that was left behind can be removed.
-/

set_option autoImplicit false

namespace SummitUsbgadget.UsbGadget

open SummitUsbgadget.Lib
open SummitUsbgadget.Lib.Program
open Removal (Tree Host Regular Placed isDir driver)

variable {Plugin Service : Type}

/-! ## The kernel -/

/-- The gadgets of configfs, and the answers to all that it does not decide. -/
structure World (Plugin Service : Type) where
  host : Host
  gadgets : AList fun _ : Bytes => Tree
  /-- The directory that was made last: a function registers itself there. -/
  current : List String
  /-- How far a function of mass storage gets with its logical units. -/
  luns : Nat → Nat
  answers : Oracle (Query Plugin) (Query.Answer Service)

/-- The kernel lets only mass storage have directories of its own. -/
def groupAllows : List String → Bool
  | ["functions", name, _] => driver name = some "mass_storage"
  | _ => true

/-- `mkdir`. -/
def makeDir (osDesc : Bool) (path : List String) (tree : Tree) : Except String Tree :=
  if (tree.lookup path).isSome then .error "File exists (os error 17)"
  else if isDir osDesc tree path.dropLast && groupAllows path then .ok (tree.insert path .dir)
  else .error (Removal.refusalText .notFound)

/-- `symlink`. -/
def makeLink (osDesc : Bool) (target path : List String) (tree : Tree) : Except String Tree :=
  if (tree.lookup path).isSome then .error "File exists (os error 17)"
  else if isDir osDesc tree path.dropLast && tree.lookup target == some .dir then
    .ok (tree.insert path (.link target))
  else .error (Removal.refusalText .notFound)

/-- `Lun::dir_name`. -/
def lunDirName (idx : Nat) : String := "lun." ++ toString idx

/-- `MsdFunction::register`: directories for all logical units but the first, up to where it
ends. -/
def makeLuns (osDesc : Bool) (dir : List String) (tree : Tree) : Nat → Tree
  | 0 => tree
  | n + 1 =>
      let tree := makeLuns osDesc dir tree n
      (makeDir osDesc (dir ++ [lunDirName (n + 1)]) tree).toOption.getD tree

/-- What `Function::register` makes; only mass storage makes anything. -/
def registerFunction (osDesc : Bool) (handle : Handle) (dir : List String) (luns : Nat)
    (tree : Tree) : Tree :=
  match dir with
  | ["functions", name] =>
      if handle.driver = "mass_storage" then makeLuns osDesc ["functions", name] tree luns else tree
  | _ => tree

/-- What was made, or the tree as it was. -/
def made (tree : Tree) : Except String Tree → Except String Unit × Tree
  | .ok tree' => (.ok (), tree')
  | .error err => (.error err, tree)

namespace World

/-- An operation in a gadget's directory, which may fail for other reasons (`answer`). -/
def operate (w : World Plugin Service) (answer : Except String Unit) (tree : Tree) :
    Operation → Except String Unit × Tree
  | .registerFunction handle =>
      (answer, registerFunction w.host.osDesc handle w.current (w.luns 0) tree)
  | .createDir path =>
      match answer with
      | .ok () => made tree (makeDir w.host.osDesc path tree)
      | .error err => (.error err, tree)
  | .symlink target path =>
      match answer with
      | .ok () => made tree (makeLink w.host.osDesc target path tree)
      | .error err => (.error err, tree)
  | _ => (answer, tree)

/-- The directory that was made last, after an operation. -/
def move (w : World Plugin Service) : Operation → World Plugin Service
  | .createDir path => { w with current := path }
  | .registerFunction _ => { w with luns := fun n => w.luns (n + 1) }
  | _ => w

/-- The answer that comes next. -/
def next (w : World Plugin Service) (q : Query Plugin) : q.Answer Service × World Plugin Service :=
  (w.answers 0 q, { w with answers := w.answers.rest })

/-- The tree of a gadget after a removal; it goes with its root. -/
def store (w : World Plugin Service) (gadget : Bytes) (tree : Tree) : World Plugin Service :=
  { w with
    gadgets :=
      if (tree.lookup []).isSome then w.gadgets.insert gadget tree else w.gadgets.erase gadget }

/-- What a handle does in the directory of its gadget; `none` if there is no such directory. -/
def within {α : Type} (w : World Plugin Service) (gadget : Bytes) (handle : Removal.RegGadget)
    (program : Removal.Remove α) : Option α × World Plugin Service :=
  match w.gadgets.lookup gadget with
  | none => (none, w)
  | some tree =>
      let done := execIn Removal.configfs program handle ⟨w.host, tree⟩
      (some done.1, { w with host := done.2.2.toHost }.store gadget done.2.2.tree)

end World

/-- The part of the kernel, and that of `remove` as the source has it. A build asks once for every
attempt of a handle. -/
def world : Handler (World Plugin Service) (Query Plugin) (Query.Answer Service)
  | w, .createGadget name =>
      if name ∈ w.gadgets then (.error "File exists (os error 17)", w)
      else
        match w.next (.createGadget name) with
        | (.ok (), w) => (.ok (), w.store name ((∅ : Tree).insert [] .dir))
        | (.error err, w) => (.error err, w)
  | w, .operate gadget operation =>
      match w.gadgets.lookup gadget with
      | none => (.error (Removal.refusalText .notFound), w)
      | some tree =>
          let answer := (w.next (.operate gadget operation)).1
          let done := w.operate answer tree operation
          (done.1, ((w.next (.operate gadget operation)).2.move operation).store gadget done.2)
  | w, .osDescIsDir gadget => ((w.gadgets.lookup gadget).any (isDir w.host.osDesc · ["os_desc"]), w)
  | w, .registered =>
      match w.next .registered with
      | (.ok _, w) => (.ok w.gadgets.keys, w)
      | (.error err, w) => (.error err, w)
  | w, .remove gadget =>
      let removed := w.within gadget ⟨[], false⟩ Removal.doRemove
      (removed.1.getD (.error (Removal.refusalText .notFound)), removed.2)
  | w, q => w.next q

/-! ## Operations -/

/-- What a build may make: things in their places. -/
def Operation.Lawful : Operation → Prop
  | .createDir path => Placed true path .dir
  | .symlink target path => Placed true path (.link target)
  | _ => True

/-- A gadget that can be removed. -/
structure Removable (osDesc : Bool) (tree : Tree) : Prop where
  regular : Regular osDesc tree
  root : tree.lookup [] = some .dir

section Operations

variable {osDesc : Bool} {tree tree' : Tree} {path : List String} {n : Node String}

/-- Where the kernel lets a link be made, the OS descriptor is there. -/
theorem placed_of_isDir (hp : Placed true path n) (hdir : isDir osDesc tree path.dropLast = true) :
    Placed osDesc path n := by
  cases hp with
  | osDescLink name config _ =>
      cases osDesc with
      | true => exact .osDescLink name config rfl
      | false => cases hdir
  | root => exact .root
  | config config => exact .config config
  | configLink config name function hname => exact .configLink config name function hname
  | configLang config lang => exact .configLang config lang
  | function name hname => exact .function name hname
  | lun name lun hdriver hlun => exact .lun name lun hdriver hlun
  | lang lang => exact .lang lang

theorem Removable.insert (h : Removable osDesc tree) (hp : Placed true path n)
    (hpath : tree.lookup path = none) (hdir : isDir osDesc tree path.dropLast = true) :
    Removable osDesc (tree.insert path n) where
  regular := by
    refine h.regular.insert (placed_of_isDir hp hdir) (.inr ?_)
    unfold isDir at hdir
    exact eq_of_beq (Bool.and_eq_true_iff.1 hdir).2
  root := by
    have hne : [] ≠ path := by
      rintro rfl
      rw [h.root] at hpath
      cases hpath
    rw [AList.lookup_insert_ne hne]
    exact h.root

theorem Removable.makeDir (h : Removable osDesc tree)
    (hp : groupAllows path = true → Placed true path .dir)
    (hmade : UsbGadget.makeDir osDesc path tree = .ok tree') : Removable osDesc tree' := by
  unfold UsbGadget.makeDir at hmade
  split at hmade
  · cases hmade
  · next hfree =>
      split at hmade
      · next hdir =>
          obtain ⟨hparent, hgroup⟩ := Bool.and_eq_true_iff.1 hdir
          cases hmade
          exact h.insert (hp hgroup) (Option.not_isSome_iff_eq_none.1 hfree) hparent
      · cases hmade

theorem Removable.makeLink {target : List String} (h : Removable osDesc tree)
    (hp : Placed true path (.link target))
    (hmade : UsbGadget.makeLink osDesc target path tree = .ok tree') :
    Removable osDesc tree' := by
  unfold UsbGadget.makeLink at hmade
  split at hmade
  · cases hmade
  · next hfree =>
      split at hmade
      · next hdir =>
          cases hmade
          exact h.insert hp (Option.not_isSome_iff_eq_none.1 hfree) (Bool.and_eq_true_iff.1 hdir).1
      · cases hmade

/-- The handler for mass storage knows what was made. -/
theorem isLun_lunDirName (n : Nat) : Removal.DirEntry.isLun ⟨lunDirName (n + 1), .dir⟩ = true := by
  have hdot : (lunDirName (n + 1)).toList.contains '.' = true := by
    unfold lunDirName
    rw [String.toList_append]
    simp
  have hne : lunDirName (n + 1) ≠ "lun.0" := by
    intro heq
    have hdigits : Nat.toDigits 10 (n + 1) = Nat.toDigits 10 0 := by
      simpa [lunDirName] using String.toList_inj.2 heq
    have hzero := congrArg (Nat.ofDigitChars 10 · 0) hdigits
    simp only [Nat.ofDigitChars_ten_toDigits] at hzero
    omega
  unfold Removal.DirEntry.isLun
  rw [hdot]
  simpa using hne

theorem Removable.makeLuns {name : String} (h : Removable osDesc tree) (n : Nat) :
    Removable osDesc (UsbGadget.makeLuns osDesc ["functions", name] tree n) := by
  induction n with
  | zero => exact h
  | succ n ih =>
      unfold UsbGadget.makeLuns
      dsimp only
      cases hmade : UsbGadget.makeDir osDesc (["functions", name] ++ [lunDirName (n + 1)])
        (UsbGadget.makeLuns osDesc ["functions", name] tree n) with
      | error err => exact ih
      | ok tree' =>
          refine ih.makeDir (fun hgroup => ?_) hmade
          exact .lun name _ (of_decide_eq_true hgroup) (isLun_lunDirName n)

end Operations

/-! ## The invariant -/

namespace World

/-- Every gadget can be removed. -/
def Sound (w : World Plugin Service) : Prop :=
  ∀ name tree, w.gadgets.lookup name = some tree → Removable w.host.osDesc tree

variable {w : World Plugin Service} {tree : Tree} {gadget : Bytes}

theorem Sound.store (h : w.Sound) (htree : (tree.lookup []).isSome → Removable w.host.osDesc tree) :
    (w.store gadget tree).Sound := by
  intro name tree' hlookup
  have hgadgets : (w.store gadget tree).gadgets =
      if (tree.lookup []).isSome then w.gadgets.insert gadget tree
        else w.gadgets.erase gadget := rfl
  rw [hgadgets] at hlookup
  by_cases hname : name = gadget
  · subst hname
    split at hlookup
    · next hsome =>
        rw [AList.lookup_insert] at hlookup
        cases hlookup
        exact htree hsome
    · rw [AList.lookup_erase] at hlookup
      cases hlookup
  · split at hlookup
    · rw [AList.lookup_insert_ne hname] at hlookup
      exact h name tree' hlookup
    · rw [AList.lookup_erase_ne hname] at hlookup
      exact h name tree' hlookup

theorem Sound.congr {w' : World Plugin Service} (h : w.Sound) (hgadgets : w'.gadgets = w.gadgets)
    (hosDesc : w'.host.osDesc = w.host.osDesc) : w'.Sound := by
  intro name tree hlookup
  rw [hosDesc]
  exact h name tree (hgadgets ▸ hlookup)

theorem Sound.move (h : w.Sound) (operation : Operation) : (w.move operation).Sound := by
  cases operation <;> exact h

theorem Removable.operate {operation : Operation} (answer : Except String Unit)
    (h : Removable w.host.osDesc tree) (hlawful : operation.Lawful) :
    Removable w.host.osDesc (w.operate answer tree operation).2 := by
  have hmade : ∀ r, (∀ tree', r = .ok tree' → Removable w.host.osDesc tree') →
      Removable w.host.osDesc (made tree r).2 := by
    intro r hr
    cases r with
    | ok tree' => exact hr tree' rfl
    | error err => exact h
  cases operation with
  | createDir path =>
      cases answer with
      | ok _ => exact hmade _ fun tree' => h.makeDir fun _ => hlawful
      | error err => exact h
  | symlink target path =>
      cases answer with
      | ok _ => exact hmade _ fun tree' => h.makeLink hlawful
      | error err => exact h
  | registerFunction handle =>
      refine (?_ : Removable _ (UsbGadget.registerFunction w.host.osDesc handle w.current
        (w.luns 0) tree))
      unfold UsbGadget.registerFunction
      split
      · split
        · exact h.makeLuns _
        · exact h
      · exact h
  | write path value => exact h
  | createDirAll path => exact h
  | bind udc => exact h

end World

/-- A removal does not change what the kernel has. -/
theorem osDesc_execIn {α : Type} (program : Removal.Remove α) (g : Removal.RegGadget)
    (e : Removal.Surroundings) :
    (execIn Removal.configfs program g e).2.2.osDesc = e.osDesc := by
  have hstep : ∀ (e' : Removal.Surroundings) (q : Removal.Query), True → e'.osDesc = e.osDesc →
      (Removal.configfs e' q).2.osDesc = e.osDesc := by
    intro e' q _ h
    have hchange : ∀ r, (e'.change r).2.osDesc = e.osDesc := by
      intro r
      cases r with
      | ok tree => exact h
      | error refusal => exact h
    cases q with
    | readDir path =>
        unfold Removal.configfs
        dsimp only
        split
        · exact h
        · exact h
    | removeFile path => exact hchange _
    | removeDir path => exact hchange _
    | _ => exact h
  exact (triple_invariant hstep meets_true g e rfl).1

/-! ## What a handle leaves -/

section Handles

variable {before g : Removal.RegGadget} {e₀ e : Removal.Surroundings}

/-- The gadget is gone, or it can be removed. -/
def Spared (osDesc : Bool) (e : Removal.Surroundings) : Prop :=
  (e.tree.lookup []).isSome → Removable osDesc e.tree

theorem spared_of_gone {osDesc : Bool} (h : Removal.Gone before g e) : Spared osDesc e := by
  intro hsome
  rw [h.tree] at hsome
  cases hsome

theorem spared_of_remains (h : Removal.Remains before g e₀.osDesc e) : Spared e₀.osDesc e :=
  fun _ => ⟨h.osDesc ▸ h.regular, h.root⟩

theorem spared_of_removes {r : Except String Unit} (h : Removal.Removes before e₀ r g e) :
    Spared e₀.osDesc e := by
  obtain ⟨-, hgone⟩ | ⟨err, -, -, hremains⟩ := h
  · exact spared_of_gone hgone
  · exact spared_of_remains hremains

theorem spared_doRemove (h : Removable e₀.osDesc e₀.tree) (handle : Removal.RegGadget) :
    Spared e₀.osDesc (execIn Removal.configfs Removal.doRemove handle e₀).2.2 :=
  spared_of_removes (Removal.triple_doRemove h.regular h.root handle e₀ ⟨rfl, rfl⟩)

/-- An attached handle tries twice. -/
theorem spared_remove (h : Removable e₀.osDesc e₀.tree) (handle : Removal.RegGadget) :
    Spared e₀.osDesc (execIn Removal.configfs Removal.RegGadget.remove handle e₀).2.2 := by
  obtain ⟨-, hgone⟩ | ⟨err, -, -, hremains | ⟨-, hgone⟩⟩ :=
    Removal.remove_outcome handle e₀ h.regular h.root
  · exact spared_of_gone hgone
  · exact spared_of_remains hremains
  · exact spared_of_gone hgone

theorem spared_dropGadget (h : Removable e₀.osDesc e₀.tree) (handle : Removal.RegGadget) :
    Spared e₀.osDesc (execIn Removal.configfs Removal.dropGadget handle e₀).2.2 := by
  suffices hdrop : Triple Removal.configfs (fun g e => g = handle ∧ e = e₀) Removal.dropGadget
      fun _ _ e => Spared e₀.osDesc e from hdrop handle e₀ ⟨rfl, rfl⟩
  refine triple_read fun attached => triple_ite (fun _ => ?_) fun _ => triple_pure ?_
  · have hremove := triple_conseq (Removal.triple_doRemove h.regular h.root)
      (fun g e (he : (g = handle ∧ e = e₀) ∧ g.attached = attached) => he.1) fun _ _ _ => id
    exact triple_bind hremove fun _ => triple_pure fun g e he => spared_of_removes he
  · rintro g e ⟨⟨-, rfl⟩, -⟩
    exact fun _ => h

end Handles

theorem World.Sound.within {α : Type} {w : World Plugin Service} {program : Removal.Remove α}
    (h : w.Sound) (gadget : Bytes) (handle : Removal.RegGadget)
    (hprogram : ∀ e₀ : Removal.Surroundings, Removable e₀.osDesc e₀.tree →
      Spared e₀.osDesc (execIn Removal.configfs program handle e₀).2.2) :
    (w.within gadget handle program).2.Sound := by
  unfold World.within
  cases hlookup : w.gadgets.lookup gadget with
  | none => exact h
  | some tree =>
      have hosDesc := osDesc_execIn program handle ⟨w.host, tree⟩
      refine World.Sound.store (h.congr rfl hosDesc) fun hsome => ?_
      have hspared := hprogram ⟨w.host, tree⟩ (h gadget tree hlookup) hsome
      exact hosDesc.symm ▸ hspared

/-- What a build may ask. -/
def Lawful : Query Plugin → Prop
  | .operate _ operation => operation.Lawful
  | _ => True

theorem world_sound {w : World Plugin Service} {q : Query Plugin} (hq : Lawful q) (h : w.Sound) :
    (world w q).2.Sound := by
  cases q with
  | createGadget name =>
      unfold world
      dsimp only
      split
      · exact h
      · have hroot : Removable w.host.osDesc ((∅ : Tree).insert [] .dir) := by
          refine ⟨Regular.insert ⟨nofun, nofun, fun _ _ _ _ _ => nofun⟩ .root (.inl rfl), ?_⟩
          exact AList.lookup_insert _
        unfold World.next
        cases w.answers 0 (.createGadget name) with
        | error err => exact h
        | ok _ =>
            exact World.Sound.store (w := { w with answers := w.answers.rest }) h fun _ => hroot
  | operate gadget operation =>
      unfold world
      dsimp only
      cases hlookup : w.gadgets.lookup gadget with
      | none => exact h
      | some tree =>
          have hnext : (w.next (.operate gadget operation)).2.Sound := h
          refine (hnext.move operation).store fun _ => ?_
          have hosDesc : ((w.next (.operate gadget operation)).2.move operation).host.osDesc =
              w.host.osDesc := by
            cases operation <;> rfl
          rw [hosDesc]
          exact World.Removable.operate _ (h gadget tree hlookup) hq
  | registered =>
      unfold world World.next
      dsimp only
      cases w.answers 0 .registered with
      | error err => exact h
      | ok _ => exact h
  | remove gadget =>
      exact h.within gadget ⟨[], false⟩ fun _ hremovable => spared_doRemove hremovable _
  | _ => exact h

/-! ## What a build makes -/

section Builds

theorem isSome_splitFunctionDir {name : String} (h : '.' ∈ name.toList) :
    (Removal.splitFunctionDir name).isSome := by
  unfold Removal.splitFunctionDir
  cases hdrop : name.toList.dropWhile (· != '.') with
  | cons c rest => rfl
  | nil =>
      have hall := List.dropWhile_eq_nil_iff.1 hdrop '.' h
      simp at hall

/-- The directory of a function has its driver in its name, and a dot behind it. -/
theorem Gadget.dot_mem_funcDirs {g : Gadget} {func : Handle} {dir : String}
    (h : (func, dir) ∈ g.funcDirs) :
    '.' ∈ dir.toList := by
  unfold Gadget.funcDirs at h
  obtain ⟨⟨func', idx⟩, -, heq⟩ := List.mem_map.1 h
  cases heq
  simp only [String.toList_append, List.mem_append]
  exact .inl (.inl (.inl (.inr (by simp))))

/-- No configuration takes a function for its strings. -/
theorem ne_strings_of_dot {name : String} (h : '.' ∈ name.toList) : name ≠ "strings" := by
  rintro rfl
  simp at h

theorem Gadget.lawful_attributeOperations (g : Gadget) :
    ∀ op ∈ g.attributeOperations, op.Lawful := by
  intro op hop
  unfold Gadget.attributeOperations at hop
  simp only [List.mem_append, List.mem_cons, List.not_mem_nil, or_false, List.mem_map] at hop
  rcases hop with (hop | ⟨speed, -, rfl⟩) | hop
  · rcases hop with rfl | rfl | rfl | rfl | rfl | rfl | rfl | rfl <;> trivial
  · trivial
  · rcases hop with rfl | rfl | rfl | rfl
    · exact .lang english
    · trivial
    · trivial
    · trivial

theorem Gadget.lawful_functionOperations (g : Gadget) : ∀ op ∈ g.functionOperations, op.Lawful := by
  intro op hop
  obtain ⟨⟨func, dir⟩, hmem, hop⟩ := List.mem_flatMap.1 hop
  obtain rfl | rfl : op = .createDir ["functions", dir] ∨ op = .registerFunction func := by
    simpa using hop
  · exact .function dir (isSome_splitFunctionDir (dot_mem_funcDirs hmem))
  · trivial

theorem Config.lawful_operations (config : Config) (g : Gadget) (name : String) :
    ∀ op ∈ config.operations g ["configs", name], op.Lawful := by
  intro op hop
  unfold Config.operations at hop
  obtain hop | hop := List.mem_append.1 hop
  · simp only [List.mem_cons, List.not_mem_nil, or_false] at hop
    rcases hop with rfl | rfl | rfl | rfl | rfl
    · exact .config name
    · trivial
    · trivial
    · exact .configLang name english
    · trivial
  · obtain ⟨funcDir, hfuncDir, rfl⟩ := List.mem_map.1 hop
    obtain ⟨func, -, hfunc⟩ := List.mem_filterMap.1 hfuncDir
    obtain ⟨dir, hdir, rfl⟩ := Option.map_eq_some_iff.1 hfunc
    obtain ⟨before, after, hsplit, -⟩ := List.lookup_eq_some_iff.1 hdir
    have hmem : (func, dir) ∈ g.funcDirs := by
      rw [hsplit]
      exact List.mem_append_right before List.mem_cons_self
    exact .configLink name dir dir (ne_strings_of_dot (Gadget.dot_mem_funcDirs hmem))

theorem Gadget.lawful_configOperations (g : Gadget) : ∀ op ∈ g.configOperations, op.Lawful := by
  intro op hop
  obtain ⟨⟨config, dir⟩, hmem, hop⟩ := List.mem_flatMap.1 hop
  obtain ⟨idx, -, rfl⟩ := List.mem_map.1 (List.of_mem_zip hmem).2
  exact config.lawful_operations g _ op hop

theorem lawful_of_quiet (q : Query Plugin) (h : Quiet q) : Lawful q := by
  cases q with
  | operate gadget operation => exact h.elim
  | _ => trivial

theorem asks_lawful_perform (dir : Bytes) {operations : List Operation}
    (h : ∀ op ∈ operations, op.Lawful) :
    Asks Lawful (perform dir operations : Build Plugin Service (Except String Unit)) := by
  induction operations with
  | nil => exact asks_pure _
  | cons operation rest ih =>
      refine meets_attempt (meets_ask (h operation List.mem_cons_self) fun _ _ => trivial)
        (fun _ _ => trivial)
        fun _ => ih fun op hop => h op (List.mem_cons_of_mem _ hop)

theorem asks_lawful_registerOsDescriptor (g : Gadget) (dir : Bytes) (osDesc : OsDescriptor) :
    Asks Lawful (registerOsDescriptor dir g.configDirs osDesc : Build Plugin Service
      (Except String Unit)) := by
  refine meets_then (meets_ask trivial fun _ _ => trivial) fun _ => meets_ite ?_ (asks_pure _)
  refine meets_attempt (asks_lawful_perform dir ?_) (fun _ _ => trivial) fun _ => ?_
  · intro op hop
    simp only [List.mem_cons, List.not_mem_nil, or_false] at hop
    rcases hop with rfl | rfl | rfl <;> trivial
  · cases hdir : g.configDirs[osDesc.config]? with
    | none => exact asks_pure _
    | some configDir =>
        obtain ⟨idx, -, rfl⟩ := List.mem_map.1 (List.mem_of_getElem? hdir)
        exact meets_ask (.osDescLink _ _ rfl) fun _ _ => trivial

theorem asks_lawful_register (g : Gadget) :
    Asks Lawful (g.register : Build Plugin Service (Except String Registration)) := by
  refine meets_ite (asks_pure _) ?_
  refine meets_attempt (meets_ask trivial fun _ _ => trivial) (fun _ _ => trivial) fun base => ?_
  refine meets_attempt (meets_ask trivial fun _ _ => trivial) (fun _ _ => trivial) fun _ => ?_
  refine meets_attempt (asks_lawful_perform _ ?_) (fun _ _ => trivial) fun _ => ?_
  · intro op hop
    simp only [List.mem_append] at hop
    obtain (hop | hop) | hop := hop
    · exact g.lawful_attributeOperations op hop
    · exact g.lawful_functionOperations op hop
    · exact g.lawful_configOperations op hop
  · refine meets_attempt ?_ (fun _ _ => trivial) fun _ => asks_pure _
    cases g.osDescriptor with
    | none => exact asks_pure _
    | some osDesc => exact asks_lawful_registerOsDescriptor g _ osDesc

theorem asks_lawful_applyNetOsDescriptors (reg : Registration)
    (descriptors : List NetOsDescriptor) :
    Asks Lawful (applyNetOsDescriptors reg descriptors : Build Plugin Service
      (Except String Unit)) := by
  induction descriptors with
  | nil => exact asks_pure _
  | cons descriptor rest ih =>
      rw [applyNetOsDescriptors]
      cases reg.funcDir descriptor.function with
      | none => exact asks_pure _
      | some functionDir =>
          refine meets_attempt (asks_lawful_perform reg.dir ?_) (fun _ _ => trivial) fun _ => ih
          intro op hop
          simp only [List.mem_append, List.mem_cons, List.not_mem_nil, or_false,
            List.mem_map] at hop
          rcases hop with (rfl | rfl) | ⟨sub, -, rfl⟩ <;> trivial

theorem asks_lawful_orRemove (reg : Registration) (what : String)
    {setup : Build Plugin Service (Except String Unit)} (hsetup : Asks Lawful setup) :
    Asks Lawful (orRemove reg what setup) := by
  refine meets_then hsetup fun r => ?_
  cases r with
  | ok _ => exact asks_pure _
  | error err =>
      refine meets_map (meets_then (meets_ask trivial fun _ _ => trivial) fun r => ?_)
      cases r with
      | ok _ => exact asks_pure _
      | error cleanupErr =>
          exact meets_then (meets_ask trivial fun _ _ => trivial) fun _ => asks_pure _

theorem asks_lawful_cleanupByName (name : Bytes) (err : String) :
    Asks Lawful (cleanupFailedRegistrationByName name err : Build Plugin Service String) := by
  refine meets_then (meets_ask trivial fun _ _ => trivial) fun r => ?_
  cases r with
  | error cleanupErr => exact asks_pure _
  | ok gadgets =>
      dsimp only
      cases gadgets.find? (· == name) with
      | none => exact asks_pure _
      | some gadget =>
          refine meets_then (meets_ask trivial fun _ _ => trivial) fun r => ?_
          cases r with
          | ok _ => exact asks_pure _
          | error cleanupErr => exact asks_pure _

theorem asks_lawful_buildOnUdcOnce (cfg : GadgetConfig Plugin) (udc : Bytes) :
    Asks Lawful (buildOnUdcOnce cfg udc : Build Plugin Service
      (Except String (RunningGadget Service))) := by
  have hgadget : Asks Lawful (buildGadget cfg udc : Build Plugin Service (Except String Gadget)) :=
    fun s => ((meets_buildGadget cfg udc).imp lawful_of_quiet s).mono fun _ _ _ => trivial
  refine meets_then (meets_update fun _ => trivial) fun _ => ?_
  refine meets_attempt hgadget (fun _ _ => trivial) fun g => ?_
  refine meets_attempt (meets_then (asks_lawful_register g) fun r => ?_)
    (fun _ _ => trivial) fun reg => ?_
  · cases r with
    | ok reg => exact asks_pure _
    | error err => exact meets_map (asks_lawful_cleanupByName udc _)
  · refine meets_then (meets_read fun _ => trivial) fun outputs => ?_
    refine meets_attempt (asks_lawful_orRemove reg _ (asks_lawful_applyNetOsDescriptors reg _))
      (fun _ _ => trivial) fun _ => ?_
    exact meets_attempt (asks_lawful_orRemove reg _ (meets_ask trivial fun _ _ => trivial))
      (fun _ _ => trivial)
      fun _ => asks_pure _

theorem asks_lawful_buildOnUdc (cfg : GadgetConfig Plugin) (udc : Bytes) :
    Asks Lawful (buildOnUdc cfg udc : Build Plugin Service
      (Except String (RunningGadget Service))) := by
  refine meets_then (asks_lawful_buildOnUdcOnce cfg udc) fun r => ?_
  cases r with
  | ok running => exact asks_pure _
  | error err =>
      dsimp only
      cases configWithoutDfu cfg err with
      | none => exact asks_pure _
      | some filtered =>
          exact meets_then (asks_lawful_buildOnUdcOnce filtered udc) fun _ => asks_pure _

end Builds

/-! ## Whole runs -/

/-- What happens to configfs in the life of the service. -/
inductive Change (Plugin : Type) where
  | build (cfg : GadgetConfig Plugin) (udc : Bytes)
  /-- `RegGadget::remove`. -/
  | remove (gadget : Bytes) (handle : Removal.RegGadget)
  /-- A handle is dropped, that of a running gadget with it. -/
  | drop (gadget : Bytes) (handle : Removal.RegGadget)

def World.step (w : World Plugin Service) : Change Plugin → World Plugin Service
  | .build cfg udc => (execIn world (buildOnUdc cfg udc) .default w).2.2
  | .remove gadget handle => (w.within gadget handle Removal.RegGadget.remove).2
  | .drop gadget handle => (w.within gadget handle Removal.dropGadget).2

theorem World.Sound.step {w : World Plugin Service} (h : w.Sound) (change : Change Plugin) :
    (w.step change).Sound := by
  cases change with
  | build cfg udc =>
      exact (triple_invariant (fun _ _ hq => world_sound hq)
        (asks_lawful_buildOnUdc cfg udc) .default w h).1
  | remove gadget handle =>
      exact h.within gadget handle fun _ hremovable => spared_remove hremovable _
  | drop gadget handle =>
      exact h.within gadget handle fun _ hremovable => spared_dropGadget hremovable _

/-- Whatever a run of builds and removals has left of a gadget, by failing anywhere, can be removed:
a removal leaves nothing of it, unless an instance of FunctionFS cannot be unmounted. -/
theorem left_behind_is_removed (w : World Plugin Service) (hempty : w.gadgets = ∅)
    (changes : List (Change Plugin)) (gadget : Bytes) (tree : Tree)
    (hleft : (run World.step w changes).gadgets.lookup gadget = some tree)
    (before : Removal.RegGadget) :
    (let w' := run World.step w changes
     let (r, g, e) := execIn Removal.configfs Removal.RegGadget.remove before ⟨w'.host, tree⟩
     (r = .ok () ∧ Removal.Gone before g e) ∨
      ∃ err, r = .error err ∧ Removal.Blocked ⟨w'.host, tree⟩ err ∧
        (Removal.Remains before g w'.host.osDesc e ∨
          (before.attached = true ∧ Removal.Gone before g e))) := by
  have hstart : w.Sound := by
    intro name tree hlookup
    rw [hempty] at hlookup
    cases hlookup
  have hsound : (run World.step w changes).Sound :=
    run_invariant_of_step (I := World.Sound) (fun _ change h => h.step change) changes hstart
  obtain ⟨hreg, hroot⟩ := hsound gadget tree hleft
  exact Removal.remove_outcome before ⟨_, tree⟩ hreg hroot

/-- A function of FunctionFS, mass storage and a serial port. -/
def threeFunctions : GadgetConfig Unit :=
  { (plain : GadgetConfig Unit) with
    config := [⟨none, none, none, none,
      [.plugin "fastboot" (), .msd ⟨none, []⟩, .serial ⟨"acm", none⟩]⟩] }

/-- The link to the serial port cannot be made, and then the gadgets cannot be listed. -/
def failing : Oracle (Query Unit) (Query.Answer Unit) := fun n q =>
  match q with
  | .buildPlugin _ _ _ => .ok (some "ffs", [])
  | .operate _ (.symlink ["functions", "acm.udc-2"] _) => .error "Input/output error (os error 5)"
  | .registered => .error "Input/output error (os error 5)"
  | q => willing n q

/-- configfs before the first build; mass storage makes one logical unit. -/
def freshWorld : World Unit Unit := ⟨Removal.plainHost, ∅, [], fun _ => 1, failing⟩

/-- One build, for the controller `udc`. -/
def oneBuild : List (Change Unit) := [.build threeFunctions [117, 100, 99]]

/-- What the build has left where it was broken off. -/
def leftTree : Tree := ((run World.step freshWorld oneBuild).gadgets.lookup [117, 100, 99]).getD ∅

/-- A handle for what was left; it is attached. -/
def leftHandle : Removal.RegGadget := ⟨[⟨some ["functions", "ffs.udc-0"], true, false⟩], true⟩

theorem left_behind_is_removed_midway :
    leftTree.lookup ["functions", "mass_storage.udc-1", "lun.1"] = some .dir ∧
      leftTree.lookup ["configs", "c.1", "mass_storage.udc-1"] =
        some (.link ["functions", "mass_storage.udc-1"]) ∧
      leftTree.lookup ["functions", "acm.udc-2"] = some .dir ∧
      leftTree.lookup ["configs", "c.1", "acm.udc-2"] = none ∧
      (let (r, g, e) := execIn Removal.configfs Removal.RegGadget.remove leftHandle
        ⟨(run World.step freshWorld oneBuild).host, leftTree⟩
       r = .ok () ∧ Removal.Gone leftHandle g e) := by
  -- the build is evaluated once
  have hbuilt : (((run World.step freshWorld oneBuild).gadgets.lookup [117, 100, 99]).isSome ∧
      (execIn Removal.configfs Removal.RegGadget.remove leftHandle
        ⟨(run World.step freshWorld oneBuild).host, leftTree⟩).1 = .ok ()) ∧
      leftTree.lookup ["functions", "mass_storage.udc-1", "lun.1"] = some .dir ∧
      leftTree.lookup ["configs", "c.1", "mass_storage.udc-1"] =
        some (.link ["functions", "mass_storage.udc-1"]) ∧
      leftTree.lookup ["functions", "acm.udc-2"] = some .dir ∧
      leftTree.lookup ["configs", "c.1", "acm.udc-2"] = none := by decide +kernel
  obtain ⟨⟨hsome, hok⟩, hlun, hlink, hdir, hnone⟩ := hbuilt
  refine ⟨hlun, hlink, hdir, hnone, ?_⟩
  have hleft : (run World.step freshWorld oneBuild).gadgets.lookup [117, 100, 99] =
      some leftTree := by
    obtain ⟨tree, htree⟩ := Option.isSome_iff_exists.1 hsome
    rw [leftTree, htree, Option.getD_some]
  have hremoved :=
    left_behind_is_removed freshWorld rfl oneBuild [117, 100, 99] leftTree hleft leftHandle
  dsimp only at hremoved
  generalize execIn Removal.configfs Removal.RegGadget.remove leftHandle
    ⟨(run World.step freshWorld oneBuild).host, leftTree⟩ = done at hok hremoved ⊢
  obtain ⟨r, g, e⟩ := done
  obtain hgone | ⟨err, herr, -⟩ := hremoved
  · exact hgone
  · cases hok.symm.trans herr

end SummitUsbgadget.UsbGadget
