import SummitUsbgadget.UsbGadget.Placement

/-!
# A gadget is taken apart

What a removal does to a regular tree. Its parts take one area of the gadget's directory after the
other: the links of the OS descriptor, the configurations, the functions, the strings and the
directory itself. In this order the kernel refuses nothing, and a removal fails only where an
instance of FunctionFS cannot be unmounted.
-/

set_option autoImplicit false

namespace SummitUsbgadget.UsbGadget.Removal

open SummitUsbgadget.Lib LinkTree
open SummitUsbgadget.Lib.Program (ask attempt update forEach)

/-! ## Loops over directories -/

section Loops

open Program

variable {t : Tree} {host : Host} {gadget : RegGadget} {R : List String → Prop}

/-- A removal on the way: the paths in `R` are gone, and some of the answers from outside are used
up. -/
structure Taken (t : Tree) (host : Host) (gadget : RegGadget) (R : List String → Prop)
    (g : RegGadget) (e : Surroundings) : Prop where
  gadget : g = gadget
  osDesc : e.osDesc = host.osDesc
  outside : ∃ k, ∀ n q, e.outside n q = host.outside (n + k) q
  tree : Without R t e.tree

theorem Taken.congr {R' : List String → Prop} {g : RegGadget} {e : Surroundings}
    (h : Taken t host gadget R g e) (hR : ∀ q, t.lookup q ≠ none → (R q ↔ R' q)) :
    Taken t host gadget R' g e := ⟨h.gadget, h.osDesc, h.outside, h.tree.congr hR⟩

/-- What is asked outside changes nothing here. -/
theorem triple_next {q : Query} (hq : ∀ e, configfs e q = e.next q) :
    Triple configfs (Taken t host gadget R) (ask q) fun r g e =>
      (∃ n, r = host.outside n q) ∧ Taken t host gadget R g e := by
  intro g e h
  obtain ⟨k, hk⟩ := h.outside
  have hstep : execIn configfs (ask q : Remove q.Answer) g e = ((e.next q).1, g, (e.next q).2) := by
    rw [← hq e]
    rfl
  rw [hstep]
  refine ⟨⟨0 + k, hk 0 q⟩, h.gadget, h.osDesc, ⟨k + 1, fun n q' => ?_⟩, h.tree⟩
  have hrest : (e.next q).2.outside n q' = e.outside (n + 1) q' := rfl
  rw [hrest, hk, Nat.add_assoc, Nat.add_comm 1 k]

/-- A link is removed. -/
theorem triple_removeFile {p target : List String}
    (hp : t.lookup p = some (.link target)) (hR : ¬ R p)
    (hleaf : ∀ q n, t.lookup q = some n → p <+: q → q = p) :
    Triple configfs (Taken t host gadget R) (removeFile p) fun r g e =>
      r = .ok () ∧ Taken t host gadget (fun q => R q ∨ p <+: q) g e := by
  intro g e h
  have hstep : execIn configfs (removeFile p) g e =
      (.ok (), g, { e with tree := e.tree.erase p }) := by
    have hchange : configfs e (.removeFile p) = e.change (unlink p e.tree) := rfl
    rw [h.tree.unlink hp hR] at hchange
    exact congrArg (fun r => (r.1, g, r.2)) hchange
  rw [hstep]
  refine ⟨rfl, h.gadget, h.osDesc, h.outside, h.tree.erase.congr fun q hq => ?_⟩
  obtain ⟨n, hn⟩ := Option.ne_none_iff_exists'.1 hq
  refine or_congr_right ⟨?_, hleaf q n hn⟩
  rintro rfl
  exact List.prefix_rfl

/-- A directory is removed when nothing is left in it and no link leads to it. -/
theorem triple_removeDir {p : List String} (hp : t.lookup p = some .dir) (hR : ¬ R p)
    (hbelow : ∀ q n, t.lookup q = some n → p <+: q → q ≠ p → R q)
    (hlinks : ∀ q, t.lookup q = some (.link p) → R q) :
    Triple configfs (Taken t host gadget R) (removeDir p) fun r g e =>
      r = .ok () ∧ Taken t host gadget (fun q => R q ∨ p <+: q) g e := by
  intro g e h
  have hstep : execIn configfs (removeDir p) g e =
      (.ok (), g, { e with tree := e.tree.erase p }) := by
    have hchange : configfs e (.removeDir p) = e.change (rmdir p e.tree) := rfl
    rw [h.tree.rmdir hp hR hbelow hlinks] at hchange
    exact congrArg (fun r => (r.1, g, r.2)) hchange
  rw [hstep]
  refine ⟨rfl, h.gadget, h.osDesc, h.outside, h.tree.erase.congr fun q hq => ?_⟩
  obtain ⟨n, hn⟩ := Option.ne_none_iff_exists'.1 hq
  constructor
  · rintro (hold | rfl)
    · exact .inl hold
    · exact .inr List.prefix_rfl
  · rintro (hold | hunder)
    · exact .inl hold
    · by_cases hqp : q = p
      · exact .inr hqp
      · exact .inl (hbelow q n hn hunder hqp)

/-- The outcome of a part: the paths in `R` are gone, or it has failed. -/
def Ends (t : Tree) (host : Host) (gadget : RegGadget) (R : List String → Prop)
    (Err : String → RegGadget → Surroundings → Prop) (r : Except String Unit) (g : RegGadget)
    (e : Surroundings) :
    Prop :=
  (r = .ok () ∧ Taken t host gadget R g e) ∨ ∃ err, r = .error err ∧ Err err g e

variable {Err : String → RegGadget → Surroundings → Prop} {path : List String}
  {body : DirEntry → Remove (Except String Unit)} {takes : DirEntry → Bool}

/-- One part after the other. -/
theorem triple_then_ends {R₁ R₂ : List String → Prop} {p : Remove (Except String Unit)}
    {f : Unit → Remove (Except String Unit)}
    (hp : Triple configfs (Taken t host gadget R) p (Ends t host gadget R₁ Err))
    (hf : Triple configfs (Taken t host gadget R₁) (f ()) (Ends t host gadget R₂ Err)) :
    Triple configfs (Taken t host gadget R) (attempt p f) (Ends t host gadget R₂ Err) := by
  refine triple_attempt hp ?_ fun _ => ?_
  · rintro err g e (⟨hok, -⟩ | herr)
    · cases hok
    · exact .inr herr
  · rintro g e (⟨-, h⟩ | ⟨err, herr, -⟩)
    · exact hf g e h
    · cases herr

/-- The regions need to agree only where something is. -/
theorem triple_ends_congr {R₁ R₂ : List String → Prop} {p : Remove (Except String Unit)}
    (hp : Triple configfs (Taken t host gadget R) p (Ends t host gadget R₁ Err))
    (hR : ∀ q n, t.lookup q = some n → (R₁ q ↔ R₂ q)) :
    Triple configfs (Taken t host gadget R) p (Ends t host gadget R₂ Err) := by
  refine triple_conseq hp (fun _ _ h => h) ?_
  rintro r g e (⟨hok, h⟩ | herr)
  · refine .inl ⟨hok, h.congr fun q hq => ?_⟩
    obtain ⟨n, hn⟩ := Option.ne_none_iff_exists'.1 hq
    exact hR q n hn
  · exact .inr herr

theorem mem_listing {attributes : List String → List String} {tree : Tree} {x : DirEntry}
    (hfile : ∀ name, takes ⟨name, .file⟩ = false)
    (hgroup : ∀ name ∈ groups path, takes ⟨name, .dir⟩ = false) (hx : takes x = true) :
    x ∈ listing attributes tree path ↔ ∃ n, tree.lookup (path ++ [x.name]) = some n ∧
      x.kind = nodeKind n := by
  unfold listing
  rw [List.mem_append, List.mem_append, List.mem_map, List.mem_map, List.mem_map]
  constructor
  · rintro (⟨⟨k, n⟩, hchild, rfl⟩ | ⟨name, hname, rfl⟩ | ⟨name, -, rfl⟩)
    · exact ⟨n, mem_children.1 hchild, rfl⟩
    · rw [hgroup name hname] at hx
      cases hx
    · rw [hfile name] at hx
      cases hx
  · rintro ⟨n, hn, hkind⟩
    refine .inl ⟨(x.name, n), mem_children.2 hn, ?_⟩
    rw [← hkind]

theorem nodup_listing (attributes : List String → List String) (tree : Tree)
    (hfile : ∀ name, takes ⟨name, .file⟩ = false)
    (hgroup : ∀ name ∈ groups path, takes ⟨name, .dir⟩ = false) :
    (((listing attributes tree path).filter takes).map DirEntry.name).Nodup := by
  have hgroups : ((groups path).map fun name => (⟨name, .dir⟩ : DirEntry)).filter takes = [] := by
    refine List.filter_eq_nil_iff.2 fun x hx => ?_
    obtain ⟨name, hname, rfl⟩ := List.mem_map.1 hx
    simp [hgroup name hname]
  have hfiles : ((attributes path).map fun name => (⟨name, .file⟩ : DirEntry)).filter
      takes = [] := by
    refine List.filter_eq_nil_iff.2 fun x hx => ?_
    obtain ⟨name, -, rfl⟩ := List.mem_map.1 hx
    simp [hfile name]
  unfold listing
  rw [List.filter_append, List.filter_append, hgroups, hfiles, List.append_nil, List.append_nil]
  refine List.Nodup.sublist (List.filter_sublist.map _) ?_
  rw [List.map_map]
  exact nodup_children path tree

/-- A loop over a listing takes what it finds there. -/
theorem triple_forListed (takes : DirEntry → Bool) {entries : List DirEntry} {tree : Tree}
    {attributes : List String → List String} {R₂ : List String → Prop} (hR : Closed R)
    (htree : Without R t tree) (hentries : entries.Perm (listing attributes tree path))
    (hfile : ∀ name, takes ⟨name, .file⟩ = false)
    (hgroup : ∀ name ∈ groups path, takes ⟨name, .dir⟩ = false)
    (hskip : ∀ x, takes x = false → body x = Pure.pure (.ok ()))
    (htake : ∀ name n, t.lookup (path ++ [name]) = some n → ¬ R (path ++ [name]) →
      takes ⟨name, nodeKind n⟩ = true → ∀ R', Closed R' → (∀ q, R q → R' q) →
      (∀ q, R' q → R q ∨ ∃ y, y ≠ name ∧ path ++ [y] <+: q) →
      Triple configfs (Taken t host gadget R') (body ⟨name, nodeKind n⟩)
        (Ends t host gadget (fun q => R' q ∨ path ++ [name] <+: q) Err))
    (hall : ∀ q n, t.lookup q = some n →
      (R₂ q ↔ R q ∨ ∃ name m, t.lookup (path ++ [name]) = some m ∧ ¬ R (path ++ [name]) ∧
        takes ⟨name, nodeKind m⟩ = true ∧ path ++ [name] <+: q)) :
    Triple configfs (Taken t host gadget R) (forEach body entries) (Ends t host gadget R₂ Err) := by
  have hmem : ∀ x, takes x = true → (x ∈ entries ↔
      ∃ n, t.lookup (path ++ [x.name]) = some n ∧ ¬ R (path ++ [x.name]) ∧
        x.kind = nodeKind n) := by
    intro x hx
    rw [hentries.mem_iff, mem_listing hfile hgroup hx]
    simp only [htree.lookup_eq_some, and_assoc]
  have hnodup : ((entries.filter takes).map DirEntry.name).Nodup :=
    ((hentries.filter takes).map _).nodup_iff.2 (nodup_listing attributes tree hfile hgroup)
  refine triple_conseq (triple_forEach_entries path (Taken t host gadget) Err hR hnodup
    ?_ ?_ ?_) (fun _ _ h => h) ?_
  · intro x R' hx
    rw [hskip x hx]
    exact triple_pure fun g e h => ⟨rfl, h⟩
  · rintro ⟨name, kind⟩ hx htakes R' hclosed hold hnew
    obtain ⟨n, hn, hnot, rfl⟩ := (hmem _ htakes).1 hx
    exact htake name n hn hnot htakes R' hclosed hold hnew
  · intro R₁ R₂ g e hR h
    exact h.congr fun q _ => hR q
  · rintro r g e (⟨hok, h⟩ | herr)
    · refine .inl ⟨hok, h.congr fun q hq => ?_⟩
      obtain ⟨n, hn⟩ := Option.ne_none_iff_exists'.1 hq
      rw [hall q n hn]
      refine or_congr_right ⟨?_, ?_⟩
      · rintro ⟨⟨name, kind⟩, hx, htakes, hunder⟩
        obtain ⟨m, hm, hnot, rfl⟩ := (hmem _ htakes).1 hx
        exact ⟨name, m, hm, hnot, htakes, hunder⟩
      · rintro ⟨name, m, hm, hnot, htakes, hunder⟩
        exact ⟨⟨name, nodeKind m⟩, (hmem _ htakes).2 ⟨m, hm, hnot, rfl⟩, htakes, hunder⟩
    · exact .inr herr

theorem triple_readDir (hdir : isDir host.osDesc t path = true) (hR : ¬ R (home path)) :
    Triple configfs (Taken t host gadget R) (readDir path) fun r g e =>
      (∃ entries attributes, r = .ok entries ∧ entries.Perm (listing attributes e.tree path)) ∧
        Taken t host gadget R g e := by
  intro g e h
  have hsome : isDir e.osDesc e.tree path = true := by
    unfold isDir at hdir ⊢
    rw [h.osDesc, h.tree.kept _ hR]
    exact hdir
  have hstep : execIn configfs (readDir path) g e =
      (.ok (e.order e.reads (listing e.attributes e.tree path)), g,
        { e with reads := e.reads + 1 }) := by
    have hread : configfs e (.readDir path) =
        (.ok (e.order e.reads (listing e.attributes e.tree path)),
          { e with reads := e.reads + 1 }) := if_pos hsome
    exact congrArg (fun r => (r.1, g, r.2)) hread
  rw [hstep]
  exact ⟨⟨_, e.attributes, rfl, e.order_perm _ _⟩, h.gadget, h.osDesc, h.outside, h.tree⟩

/-- A loop over a directory takes what is in it. -/
theorem triple_forEntries (takes : DirEntry → Bool) {R₂ : List String → Prop} (hR : Closed R)
    (hdir : isDir host.osDesc t path = true)
    (hhome : ¬ R (home path)) (hfile : ∀ name, takes ⟨name, .file⟩ = false)
    (hgroup : ∀ name ∈ groups path, takes ⟨name, .dir⟩ = false)
    (hskip : ∀ x, takes x = false → body x = Pure.pure (.ok ()))
    (htake : ∀ name n, t.lookup (path ++ [name]) = some n → ¬ R (path ++ [name]) →
      takes ⟨name, nodeKind n⟩ = true → ∀ R', Closed R' → (∀ q, R q → R' q) →
      (∀ q, R' q → R q ∨ ∃ y, y ≠ name ∧ path ++ [y] <+: q) →
      Triple configfs (Taken t host gadget R') (body ⟨name, nodeKind n⟩)
        (Ends t host gadget (fun q => R' q ∨ path ++ [name] <+: q) Err))
    (hall : ∀ q n, t.lookup q = some n →
      (R₂ q ↔ R q ∨ ∃ name m, t.lookup (path ++ [name]) = some m ∧ ¬ R (path ++ [name]) ∧
        takes ⟨name, nodeKind m⟩ = true ∧ path ++ [name] <+: q)) :
    Triple configfs (Taken t host gadget R) (forEntries path body) (Ends t host gadget R₂ Err) := by
  refine triple_attempt (triple_readDir hdir hhome) ?_ fun entries => ?_
  · rintro err g e ⟨⟨entries, attributes, hok, -⟩, -⟩
    cases hok
  · rintro g e ⟨⟨entries', attributes, hok, hperm⟩, h⟩
    obtain rfl := Except.ok.inj hok
    exact triple_forListed takes hR h.tree hperm hfile hgroup hskip htake hall g e h

end Loops

/-! ## The parts of a removal -/

section Parts

open Program

variable {t : Tree} {host : Host} {gadget : RegGadget}

/-- The table of mounts cannot be read, or a mount cannot be undone even lazily. -/
def NotUnmounted (outside : Oracle Query Query.Answer) (err : String) : Prop :=
  (∃ n, outside n .mounts = .error err) ∨ ∃ n dest, outside n (.umount dest true) = .error err

/-- A removal that has failed: the gadget is still there, without some of its directories. -/
structure Stuck (t : Tree) (host : Host) (gadget : RegGadget) (err : String) (g : RegGadget)
    (e : Surroundings) :
    Prop where
  taken : ∃ R, Closed R ∧ ¬ R [] ∧ Taken t host gadget R g e
  mounts : NotUnmounted host.outside err
  function : ∃ name, t.lookup ["functions", name] = some .dir ∧ driver name = some "ffs"

variable {R : List String → Prop}

theorem triple_unmount (name : String) (mount : Mount) :
    Triple configfs (Taken t host gadget R) (unmount name mount)
      (Ends t host gadget R fun err g e => NotUnmounted host.outside err ∧
        Taken t host gadget R g e) := by
  refine triple_ite (fun _ => ?_) fun _ => triple_pure fun g e h => .inl ⟨rfl, h⟩
  refine triple_bind (triple_next fun _ => rfl) fun first => ?_
  have hagain : Triple configfs (Taken t host gadget R) (umountLazily mount.dest first)
      (Ends t host gadget R fun err g e => NotUnmounted host.outside err ∧
        Taken t host gadget R g e) := by
    cases first with
    | ok _ => exact triple_pure fun g e h => .inl ⟨rfl, h⟩
    | error _ =>
        refine triple_conseq (triple_next fun _ => rfl) (fun _ _ h => h) ?_
        rintro r g e ⟨⟨n, rfl⟩, h⟩
        cases hr : host.outside n (.umount mount.dest true) with
        | ok _ => exact .inl ⟨rfl, h⟩
        | error err => exact .inr ⟨err, rfl, .inr ⟨n, mount.dest, hr⟩, h⟩
  refine triple_conseq (triple_then_ends hagain ?_) (fun _ _ h => h.2) fun _ _ _ h => h
  refine triple_ite (fun _ => ?_) fun _ => triple_pure fun g e h => .inl ⟨rfl, h⟩
  exact triple_bind (triple_next fun _ => rfl) fun _ => triple_pure fun g e h => .inl ⟨rfl, h.2⟩

/-- The handler for FunctionFS leaves configfs alone. -/
theorem triple_customRemoveHandler (name : String) :
    Triple configfs (Taken t host gadget R) (customRemoveHandler name)
      (Ends t host gadget R fun err g e => NotUnmounted host.outside err ∧
        Taken t host gadget R g e) := by
  refine triple_attempt (triple_next fun _ => rfl) ?_ fun mounts => ?_
  · rintro err g e ⟨⟨n, hn⟩, h⟩
    exact .inr ⟨err, rfl, .inl ⟨n, hn.symm⟩, h⟩
  · refine triple_conseq (triple_forEach (fun _ => Taken t host gadget R) fun mount _ =>
      triple_unmount name mount) (fun _ _ h => h.2) fun _ _ _ h => h

variable {Err : String → RegGadget → Surroundings → Prop} {path : List String}

theorem isDir_of_lookup {osDesc : Bool} (hdir : t.lookup (home path) = some .dir)
    (hos : (osDesc || path != ["os_desc"]) = true) : isDir osDesc t path = true := by
  unfold isDir
  rw [hdir, hos]
  rfl

/-- At a link right below a path. -/
def LinkAt (t : Tree) (path q : List String) : Prop :=
  ∃ name target, t.lookup (path ++ [name]) = some (.link target) ∧ path ++ [name] <+: q

theorem closed_linkAt (t : Tree) (path : List String) : Closed (LinkAt t path) :=
  fun _ _ hqq' ⟨name, target, hlink, hunder⟩ => ⟨name, target, hlink, hunder.trans hqq'⟩

/-- The links in a directory. -/
theorem triple_removeLinks {entries : List DirEntry} {tree : Tree}
    {attributes : List String → List String} (hreg : Regular host.osDesc t) (hR : Closed R)
    (htree : Without R t tree) (hentries : entries.Perm (listing attributes tree path)) :
    Triple configfs (Taken t host gadget R) (forEach (removeLink path) entries)
      (Ends t host gadget (fun q => R q ∨ LinkAt t path q) Err) := by
  refine triple_forListed (fun x => x.kind = .symlink) hR htree hentries (fun _ => rfl)
    (fun _ _ => rfl)
    ?_ ?_ ?_
  · intro x hx
    exact if_neg (of_decide_eq_false hx)
  · intro name n hn hnot htakes R' _ _ hnew
    cases n with
    | dir => cases htakes
    | link target =>
        refine triple_conseq (triple_removeFile hn ?_ fun q n hq => hreg.eq_of_link hn hq)
          (fun _ _ h => h)
          fun _ _ _ h => .inl h
        intro hR'
        obtain hold | ⟨y, hy, hunder⟩ := hnew _ hR'
        · exact hnot hold
        · exact hy (by simpa using hunder)
  · intro q n _
    constructor
    · rintro (hold | ⟨name, target, hlink, hunder⟩)
      · exact .inl hold
      · by_cases hname : R (path ++ [name])
        · exact .inl (hR _ _ hunder hname)
        · exact .inr ⟨name, _, hlink, hname, rfl, hunder⟩
    · rintro (hold | ⟨name, m, hm, -, htakes, hunder⟩)
      · exact .inl hold
      · cases m with
        | dir => cases htakes
        | link target => exact .inr ⟨name, target, hm, hunder⟩

/-- The links of the OS descriptor. -/
theorem triple_removeOsDescLinks (hreg : Regular host.osDesc t) (hroot : t.lookup [] = some .dir) :
    Triple configfs (Taken t host gadget fun _ => False) removeOsDescLinks
      (Ends t host gadget (["os_desc"] <+: ·) Err) := by
  cases hos : host.osDesc with
  | false =>
      -- there is nothing to read, and nothing below
      have hread : Triple configfs (Taken t host gadget fun _ => False)
          (readDir ["os_desc"]) fun r g e =>
          (∃ err, r = .error err) ∧ Taken t host gadget (fun _ => False) g e := by
        intro g e h
        have hnone : ¬ isDir e.osDesc e.tree ["os_desc"] = true := by
          rw [h.osDesc, hos]
          exact Bool.false_ne_true
        have hstep : execIn configfs (readDir ["os_desc"]) g e =
            (.error (refusalText .notFound), g, e) := by
          have hread : configfs e (.readDir ["os_desc"]) =
              (.error (refusalText .notFound), e) := if_neg hnone
          exact congrArg (fun r => (r.1, g, r.2)) hread
        rw [hstep]
        exact ⟨⟨_, rfl⟩, h⟩
      refine triple_bind hread fun r => ?_
      rintro g e ⟨⟨err, rfl⟩, h⟩
      refine .inl ⟨rfl, h.congr fun q hq => ⟨False.elim, ?_⟩⟩
      rintro ⟨rest, rfl⟩
      obtain ⟨n, hn⟩ := Option.ne_none_iff_exists'.1 hq
      have htrue := (hreg.placed _ _ hn).of_osDesc.1
      rw [hos] at htrue
      cases htrue
  | true =>
      have hdir : isDir host.osDesc t ["os_desc"] = true := isDir_of_lookup hroot (by rw [hos]; rfl)
      refine triple_bind (triple_readDir hdir id) fun r => ?_
      rintro g e ⟨⟨entries, attributes, rfl, hperm⟩, h⟩
      refine triple_ends_congr (triple_removeLinks hreg (fun _ _ _ => id) h.tree hperm) ?_ g e h
      intro q n hn
      constructor
      · rintro (hfalse | ⟨name, target, -, hunder⟩)
        · exact hfalse.elim
        · exact (List.prefix_append ["os_desc"] [name]).trans hunder
      · rintro ⟨rest, rfl⟩
        obtain ⟨-, name, config, rfl, rfl⟩ := (hreg.placed _ _ hn).of_osDesc
        exact .inr ⟨name, _, hn, List.prefix_rfl⟩

theorem triple_removeLinksIn (hreg : Regular host.osDesc t) (hR : Closed R)
    (hdir : isDir host.osDesc t path = true) (hhome : ¬ R (home path)) :
    Triple configfs (Taken t host gadget R) (forEntries path (removeLink path))
      (Ends t host gadget (fun q => R q ∨ LinkAt t path q) Err) := by
  refine triple_attempt (triple_readDir hdir hhome) ?_ fun entries => ?_
  · rintro err g e ⟨⟨entries, attributes, hok, -⟩, -⟩
    cases hok
  · rintro g e ⟨⟨entries', attributes, hok, hperm⟩, h⟩
    obtain rfl := Except.ok.inj hok
    exact triple_removeLinks hreg hR h.tree hperm g e h

/-- A directory in which all that was made are directories. -/
theorem triple_forDirs {body : DirEntry → Remove (Except String Unit)} (hR : Closed R)
    (hdir : isDir host.osDesc t path = true) (hhome : ¬ R (home path)) (hgroups : groups path = [])
    (hdirs : ∀ q n, t.lookup q = some n → path <+: q →
      ∃ name, t.lookup (path ++ [name]) = some .dir ∧ path ++ [name] <+: q)
    (hskip : ∀ x, x.kind ≠ .dir → body x = Pure.pure (.ok ()))
    (htake : ∀ name, t.lookup (path ++ [name]) = some .dir → ∀ R', Closed R' → (∀ q, R q → R' q) →
      ¬ R' (path ++ [name]) → (∀ q, path ++ [name] <+: q → R' q → R q) →
      Triple configfs (Taken t host gadget R') (body ⟨name, .dir⟩)
        (Ends t host gadget (fun q => R' q ∨ path ++ [name] <+: q) Err)) :
    Triple configfs (Taken t host gadget R) (forEntries path body)
      (Ends t host gadget (fun q => R q ∨ path <+: q) Err) := by
  refine triple_forEntries (fun x => x.kind = .dir) hR hdir hhome (fun _ => rfl) ?_ ?_ ?_ ?_
  · rw [hgroups]
    exact nofun
  · intro x hx
    exact hskip x (of_decide_eq_false hx)
  · intro name n hn hnot htakes R' hclosed hold hnew
    cases n with
    | link target => cases htakes
    | dir =>
        have hfree : ∀ q, path ++ [name] <+: q → R' q → R q := by
          rintro q ⟨rest, rfl⟩ hq
          obtain hRq | ⟨y, hy, hunder⟩ := hnew _ hq
          · exact hRq
          · exact absurd (by simpa using hunder) hy
        exact htake name hn R' hclosed hold (fun h => hnot (hfree _ List.prefix_rfl h)) hfree
  · intro q n hn
    constructor
    · rintro (hold | hunder)
      · exact .inl hold
      · obtain ⟨name, hname, hq⟩ := hdirs q n hn hunder
        by_cases hRname : R (path ++ [name])
        · exact .inl (hR _ _ hq hRname)
        · exact .inr ⟨name, .dir, hname, hRname, rfl, hq⟩
    · rintro (hold | ⟨name, -, -, -, -, hunder⟩)
      · exact .inl hold
      · exact .inr ((List.prefix_append path [name]).trans hunder)

/-- The languages in a directory of strings. -/
theorem triple_removeLangs (hR : Closed R) (hdir : isDir host.osDesc t path = true)
    (hhome : ¬ R (home path)) (hgroups : groups path = [])
    (hlang : ∀ q n, t.lookup q = some n → path <+: q → ∃ lang, q = path ++ [lang] ∧ n = .dir)
    (hlinks : ∀ lang q, t.lookup q ≠ some (.link (path ++ [lang]))) :
    Triple configfs (Taken t host gadget R) (forEntries path (removeLang path))
      (Ends t host gadget (fun q => R q ∨ path <+: q) Err) := by
  refine triple_forDirs hR hdir hhome hgroups ?_ (fun x hx => if_neg hx) ?_
  · intro q n hn hunder
    obtain ⟨lang, rfl, rfl⟩ := hlang q n hn hunder
    exact ⟨lang, hn, List.prefix_rfl⟩
  · intro name hname R' _ _ hnot _
    refine triple_conseq (triple_removeDir hname hnot ?_ fun q hq => absurd hq (hlinks name q))
      (fun _ _ h => h)
      fun _ _ _ h => .inl h
    intro q n hn hunder hne
    obtain ⟨lang, rfl, -⟩ := hlang q n hn ((List.prefix_append path [name]).trans hunder)
    exact absurd (hunder.eq_of_length (by simp)).symm hne

/-- One configuration, when the links of the OS descriptor are gone. -/
theorem triple_removeConfig {config : String} (hreg : Regular host.osDesc t)
    (hconfig : t.lookup ["configs", config] = some .dir) (hR : Closed R)
    (hos : ∀ q, ["os_desc"] <+: q → R q) (hfree : ∀ q, ["configs", config] <+: q → ¬ R q) :
    Triple configfs (Taken t host gadget R) (removeConfig ⟨config, .dir⟩)
      (Ends t host gadget (fun q => R q ∨ ["configs", config] <+: q) Err) := by
  have hbelow : ∀ q n, t.lookup q = some n → ["configs", config] <+: q → q = ["configs", config] ∨
      LinkAt t ["configs", config] q ∨ ∃ lang, q = ["configs", config, "strings", lang] ∧
        n = .dir := by
    rintro q n hn ⟨rest, rfl⟩
    obtain ⟨config', hrest, -⟩ | ⟨config', name, function, hrest, -, rfl⟩
        | ⟨config', lang, hrest, rfl⟩ :=
      (hreg.placed _ _ hn).of_configs
    · simp_all
    · obtain ⟨rfl, rfl⟩ : config = config' ∧ rest = [name] := by simpa using hrest
      exact .inr (.inl ⟨name, _, hn, List.prefix_rfl⟩)
    · obtain ⟨rfl, rfl⟩ : config = config' ∧ rest = ["strings", lang] := by simpa using hrest
      exact .inr (.inr ⟨lang, rfl, rfl⟩)
  have hlink : ∀ q, LinkAt t ["configs", config] q → ["configs", config] <+: q ∧
      q ≠ ["configs", config] := by
    rintro q ⟨name, target, -, hunder⟩
    refine ⟨(List.prefix_append ["configs", config] [name]).trans hunder, ?_⟩
    rintro rfl
    simpa using hunder.length_le
  have hstrings : ∀ q, ["configs", config, "strings"] <+: q →
      ["configs", config] <+: q ∧ q ≠ ["configs", config] := by
    intro q hunder
    refine ⟨(List.prefix_append ["configs", config] ["strings"]).trans hunder, ?_⟩
    rintro rfl
    simpa using hunder.length_le
  have hself : ¬ R ["configs", config] := hfree _ List.prefix_rfl
  have hclosed : Closed fun q => R q ∨ LinkAt t ["configs", config] q := hR.or (closed_linkAt t _)
  have hleft : ¬ (R ["configs", config] ∨ LinkAt t ["configs", config] ["configs", config]) :=
    not_or.2 ⟨hself, fun h => (hlink _ h).2 rfl⟩
  refine triple_then_ends (triple_removeLinksIn hreg hR
    (isDir_of_lookup hconfig (Bool.or_true _)) hself) ?_
  refine triple_then_ends (triple_removeLangs hclosed
    (isDir_of_lookup hconfig (Bool.or_true _)) hleft rfl ?_ ?_)
      (triple_ends_congr (triple_conseq (triple_removeDir hconfig ?_ ?_ ?_) (fun _ _ h => h)
        fun _ _ _ h => .inl h) ?_)
  · intro q n hn hunder
    obtain rfl | hlinkAt | ⟨lang, rfl, rfl⟩ := hbelow q n hn (hstrings q hunder).1
    · exact absurd rfl (hstrings _ hunder).2
    · obtain ⟨name, target, hlinked, hname⟩ := hlinkAt
      obtain rfl := hreg.eq_of_link hlinked hn hname
      obtain ⟨_, _, hq, -⟩ | ⟨_, _, _, hq, hne, -⟩ := (hreg.placed _ _ hlinked).of_link
      · simp at hq
      · simp_all
    · exact ⟨lang, rfl, rfl⟩
  · intro lang q hq
    obtain ⟨_, _, -, htarget⟩ | ⟨_, _, _, -, -, htarget⟩ := (hreg.placed _ _ hq).of_link
    · simp at htarget
    · simp at htarget
  · exact not_or.2 ⟨hleft, fun h => (hstrings _ h).2 rfl⟩
  · intro q n hn hunder hne
    obtain rfl | hlinkAt | ⟨lang, rfl, -⟩ := hbelow q n hn hunder
    · exact absurd rfl hne
    · exact .inl (.inr hlinkAt)
    · exact .inr (List.prefix_append ["configs", config, "strings"] [lang])
  · intro q hq
    obtain ⟨name, _, rfl, -⟩ | ⟨_, _, _, -, -, htarget⟩ := (hreg.placed _ _ hq).of_link
    · exact .inl (.inl (hos _ (List.prefix_append ["os_desc"] [name])))
    · simp at htarget
  · intro q n _
    constructor
    · rintro (((hold | hlinkAt) | hunder) | hunder)
      · exact .inl hold
      · exact .inr (hlink q hlinkAt).1
      · exact .inr (hstrings q hunder).1
      · exact .inr hunder
    · rintro (hold | hunder)
      · exact .inl (.inl (.inl hold))
      · exact .inr hunder

/-- The configurations. -/
theorem triple_removeConfigs (hreg : Regular host.osDesc t) (hroot : t.lookup [] = some .dir) :
    Triple configfs (Taken t host gadget (["os_desc"] <+: ·)) (forEntries ["configs"] removeConfig)
      (Ends t host gadget (fun q => ["os_desc"] <+: q ∨ ["configs"] <+: q) Err) := by
  refine triple_forDirs (closed_under _) (isDir_of_lookup hroot (Bool.or_true _)) ?_ rfl ?_
    (fun x hx => if_neg hx) ?_
  · intro hunder
    simpa [home] using hunder.length_le
  · rintro q n hn ⟨rest, rfl⟩
    obtain ⟨config, rfl, -⟩ | ⟨config, name, _, rfl, -⟩ | ⟨config, lang, rfl, -⟩ :=
      (hreg.placed _ _ hn).of_configs
    · exact ⟨config, hreg.owner "configs" config [] n (by simp) hn, List.prefix_rfl⟩
    · exact ⟨config, hreg.owner "configs" config [name] n (by simp) hn, List.prefix_append _ [name]⟩
    · exact ⟨config, hreg.owner "configs" config ["strings", lang] n (by simp) hn,
        List.prefix_append _ ["strings", lang]⟩
  · intro config hconfig R' hclosed hold _ hfree
    refine triple_removeConfig hreg hconfig hclosed hold fun q hunder hR' => ?_
    obtain ⟨rest, rfl⟩ := hunder
    have hos := hfree _ (List.prefix_append _ rest) hR'
    simp at hos

/-- Below a directory. -/
def Inside (p q : List String) : Prop := p <+: q ∧ q ≠ p

theorem triple_msdRemoveHandler {name : String} (hreg : Regular host.osDesc t)
    (hname : t.lookup ["functions", name] = some .dir) (hR : Closed R)
    (hself : ¬ R ["functions", name]) :
    Triple configfs (Taken t host gadget R) (msdRemoveHandler name)
      (Ends t host gadget (fun q => R q ∨ Inside ["functions", name] q) Err) := by
  refine triple_forEntries DirEntry.isLun hR (isDir_of_lookup hname (Bool.or_true _)) hself
    (fun _ => rfl) ?_ ?_ ?_ ?_
  · intro lun hlun
    have hgroups : groups ["functions", name] =
        if driver name = some "mass_storage" then ["lun.0"] else [] := rfl
    rw [hgroups] at hlun
    split at hlun
    · obtain rfl := List.mem_singleton.1 hlun
      rfl
    · cases hlun
  · intro x hx
    exact if_neg (Bool.eq_false_iff.1 hx)
  · intro lun n hn hnot htakes R' _ _ hnew
    obtain ⟨-, -, -, rfl, -⟩ := hreg.lun_of_function hn (List.prefix_append _ [lun]) (by simp)
    rw [if_pos htakes]
    refine triple_conseq (triple_removeDir hn ?_ ?_ fun q hq =>
      absurd hq (hreg.not_link_to_lun name lun q))
      (fun _ _ h => h) fun _ _ _ h => .inl h
    · intro hR'
      obtain hold | ⟨y, hy, hunder⟩ := hnew _ hR'
      · exact hnot hold
      · exact hy (by simpa using hunder)
    · intro q m hq hunder hne
      have hinside : q ≠ ["functions", name] := by
        rintro rfl
        simpa using hunder.length_le
      obtain ⟨-, lun', rfl, -⟩ :=
        hreg.lun_of_function hq ((List.prefix_append ["functions", name] [lun]).trans
          hunder) hinside
      exact absurd (hunder.eq_of_length (by simp)).symm hne
  · intro q n hn
    constructor
    · rintro (hold | ⟨hunder, hne⟩)
      · exact .inl hold
      · obtain ⟨-, lun, rfl, rfl, hlun⟩ := hreg.lun_of_function hn hunder hne
        by_cases hq : R ["functions", name, lun]
        · exact .inl hq
        · exact .inr ⟨lun, .dir, hn, hq, hlun, List.prefix_rfl⟩
    · rintro (hold | ⟨lun, -, -, -, -, hunder⟩)
      · exact .inl hold
      · refine .inr ⟨(List.prefix_append ["functions", name] [lun]).trans hunder, ?_⟩
        rintro rfl
        simpa using hunder.length_le

/-- The handler of its driver removes all that is in the directory of a function. -/
theorem triple_callRemoveHandler {name : String} (hreg : Regular host.osDesc t)
    (hname : t.lookup ["functions", name] = some .dir) (hR : Closed R)
    (hself : ¬ R ["functions", name]) :
    Triple configfs (Taken t host gadget R) (callRemoveHandler name)
      (Ends t host gadget (fun q => R q ∨ Inside ["functions", name] q) (Stuck t host gadget)) := by
  have hsplit : (splitFunctionDir name).isSome := by
    obtain ⟨-, ⟨_, hq, hsome⟩ | ⟨_, _, hq, -⟩⟩ := (hreg.placed _ _ hname).of_functions
    · simp_all
    · simp at hq
  -- without mass storage nothing is inside
  have hempty : driver name ≠ some "mass_storage" → ∀ q n, t.lookup q = some n →
      (R q ↔ R q ∨ Inside ["functions", name] q) := by
    intro hdriver q n hn
    refine ⟨.inl, ?_⟩
    rintro (hold | ⟨hunder, hne⟩)
    · exact hold
    · exact absurd (hreg.lun_of_function hn hunder hne).1 hdriver
  unfold callRemoveHandler
  cases hcase : splitFunctionDir name with
  | none => simp [hcase] at hsplit
  | some parts =>
      obtain ⟨driverName, rest⟩ := parts
      have hdriver : driver name = some driverName := by rw [driver, hcase, Option.map_some]
      refine triple_ite (fun hffs => ?_) fun _ => triple_ite (fun _ => ?_) fun hother => ?_
      · subst hffs
        refine triple_ends_congr (triple_conseq (triple_customRemoveHandler rest)
          (fun _ _ h => h) ?_)
          (hempty (by rw [hdriver]; decide))
        rintro r g e (hok | ⟨err, herr, hmounts, htaken⟩)
        · exact .inl hok
        · have hroot : ¬ R [] := fun h => hself (hR _ _ List.nil_prefix h)
          exact .inr ⟨err, herr, ⟨R, hR, hroot, htaken⟩, hmounts, name, hname, hdriver⟩
      · exact triple_msdRemoveHandler hreg hname hR hself
      · refine triple_ends_congr (triple_pure fun g e h => .inl ⟨rfl, h⟩) (hempty ?_)
        rw [hdriver]
        exact fun h => hother (Option.some.inj h)

/-- The functions, when the links to them are gone. -/
theorem triple_removeFunctions (hreg : Regular host.osDesc t) (hroot : t.lookup [] = some .dir) :
    Triple configfs (Taken t host gadget fun q => ["os_desc"] <+: q ∨ ["configs"] <+: q)
      (forEntries ["functions"] removeFunction)
      (Ends t host gadget (fun q => (["os_desc"] <+: q ∨ ["configs"] <+: q) ∨ ["functions"] <+: q)
        (Stuck t host gadget)) := by
  have hnil : ¬ (["os_desc"] <+: ([] : List String) ∨ ["configs"] <+: ([] : List String)) := by simp
  refine triple_forDirs ((closed_under _).or (closed_under _))
    (isDir_of_lookup hroot (Bool.or_true _)) hnil rfl
    ?_ (fun x hx => if_neg hx) ?_
  · rintro q n hn ⟨rest, rfl⟩
    obtain ⟨-, ⟨name, rfl, -⟩ | ⟨name, lun, rfl, -⟩⟩ := (hreg.placed _ _ hn).of_functions
    · exact ⟨name, hreg.owner "functions" name [] n (by simp) hn, List.prefix_rfl⟩
    · exact ⟨name, hreg.owner "functions" name [lun] n (by simp) hn, List.prefix_append _ [lun]⟩
  · intro name hname R' hclosed hold hnot hfree
    have hleft : ¬ (R' ["functions", name] ∨ Inside ["functions", name] ["functions", name]) :=
      not_or.2 ⟨hnot, fun h => h.2 rfl⟩
    refine triple_then_ends (triple_callRemoveHandler hreg hname hclosed hnot)
      (triple_ends_congr (triple_conseq (triple_removeDir hname hleft ?_ ?_) (fun _ _ h => h)
        fun _ _ _ h => .inl h) ?_)
    · exact fun q n _ hunder hne => .inr ⟨hunder, hne⟩
    · intro q hq
      obtain ⟨_, _, -, htarget⟩ | ⟨config, link, _, rfl, -⟩ := (hreg.placed _ _ hq).of_link
      · simp at htarget
      · exact .inl (hold _ (.inr (List.prefix_append ["configs"] [config, link])))
    · intro q n _
      constructor
      · rintro ((hR' | hinside) | hunder)
        · exact .inl hR'
        · exact .inr hinside.1
        · exact .inr hunder
      · rintro (hR' | hunder)
        · exact .inl (.inl hR')
        · exact .inr hunder

/-- All that was made is gone, or a mount is in the way. -/
theorem triple_removeAt (hreg : Regular host.osDesc t) (hroot : t.lookup [] = some .dir) :
    Triple configfs (Taken t host gadget fun _ => False) removeAt
      (Ends t host gadget (fun _ => True) (Stuck t host gadget)) := by
  refine triple_bind (triple_next fun _ => rfl) fun _ => ?_
  refine triple_conseq (triple_then_ends (triple_removeOsDescLinks hreg hroot)
    (triple_then_ends (triple_removeConfigs hreg hroot)
      (triple_then_ends (triple_removeFunctions hreg hroot) ?_)))
    (fun _ _ h => h.2) fun _ _ _ h => h
  have hclosed : Closed fun q : List String => (["os_desc"] <+: q ∨ ["configs"] <+: q) ∨
      ["functions"] <+: q :=
    ((closed_under _).or (closed_under _)).or (closed_under _)
  refine triple_then_ends (triple_removeLangs hclosed
    (isDir_of_lookup hroot (Bool.or_true _)) ?_ rfl ?_ ?_)
      (triple_ends_congr (triple_conseq (triple_removeDir hroot ?_ ?_ ?_) (fun _ _ h => h)
        fun _ _ _ h => .inl h) ?_)
  · simp [home]
  · rintro q n hn ⟨rest, rfl⟩
    obtain ⟨rfl, lang, rfl⟩ := (hreg.placed _ _ hn).of_strings
    exact ⟨lang, rfl, rfl⟩
  · intro lang q hq
    obtain ⟨_, _, -, htarget⟩ | ⟨_, _, _, -, -, htarget⟩ := (hreg.placed _ _ hq).of_link
    · simp at htarget
    · simp at htarget
  · simp
  · intro q n hn _ hne
    cases hreg.placed q n hn with
    | root => exact absurd rfl hne
    | _ => simp
  · intro q hq
    obtain ⟨_, _, -, htarget⟩ | ⟨_, _, _, -, -, htarget⟩ := (hreg.placed _ _ hq).of_link
    · cases htarget
    · cases htarget
  · exact fun q n _ => ⟨fun _ => trivial, fun _ => .inr List.nil_prefix⟩

end Parts

/-! ## Removal -/

section Outcome

open Program

/-- The gadget is gone, and its functions know. -/
structure Gone (before g : RegGadget) (e : Surroundings) : Prop where
  tree : ∀ q, e.tree.lookup q = none
  attached : g.attached = false
  functions : g.functions.map FunctionDir.state =
    before.functions.map fun d => if d.dirWasSet then .removed else .unregistered

/-- The gadget is still there: it can be removed later. -/
structure Remains (before g : RegGadget) (osDesc : Bool) (e : Surroundings) : Prop where
  osDesc : e.osDesc = osDesc
  regular : Regular e.osDesc e.tree
  root : e.tree.lookup [] = some .dir
  attached : g.attached = before.attached
  functions : g.functions = before.functions.map (FunctionDir.setBound false)

/-- Why a removal has failed: an instance of FunctionFS, and a mount. -/
structure Blocked (e : Surroundings) (err : String) : Prop where
  mounts : NotUnmounted e.outside err
  function : ∃ name, e.tree.lookup ["functions", name] = some .dir ∧ driver name = some "ffs"

theorem FunctionDir.state_resetDir (d : FunctionDir) :
    d.resetDir.state = if d.dirWasSet then .removed else .unregistered := by
  obtain ⟨dir, dirWasSet, bound⟩ := d
  cases dirWasSet <;> rfl

/-- What `do_remove` leaves. -/
def Removes (before : RegGadget) (e₀ : Surroundings) (r : Except String Unit) (g : RegGadget)
    (e : Surroundings) :
    Prop :=
  (r = .ok () ∧ Gone before g e) ∨ ∃ err, r = .error err ∧ Blocked e₀ err ∧
    Remains before g e₀.osDesc e

theorem triple_doRemove {before : RegGadget} {e₀ : Surroundings} (hreg : Regular e₀.osDesc e₀.tree)
    (hroot : e₀.tree.lookup [] = some .dir) :
    Triple configfs (fun g e => g = before ∧ e = e₀) doRemove (Removes before e₀) := by
  let unbound : RegGadget := { before with functions := before.functions.map (.setBound false) }
  have hstart : Triple configfs (Taken e₀.tree e₀.toHost unbound fun _ => False)
      (attempt removeAt fun _ => do
      updateFunctions .resetDir
      update fun g => { g with attached := false }
      Pure.pure (.ok ())) (Removes before e₀) := by
    refine triple_attempt (triple_removeAt hreg hroot) ?_ fun _ => ?_
    · rintro err g e (⟨hok, -⟩ | ⟨err', herr, hstuck⟩)
      · cases hok
      · obtain rfl := Except.error.inj herr
        obtain ⟨R, hR, hnil, htaken⟩ := hstuck.taken
        refine .inr ⟨err, rfl, ⟨hstuck.mounts, hstuck.function⟩, htaken.osDesc, ?_, ?_, ?_, ?_⟩
        · rw [htaken.osDesc]
          exact hreg.without hR htaken.tree
        · exact htaken.tree.lookup_eq_some.2 ⟨hroot, hnil⟩
        · rw [htaken.gadget]
        · rw [htaken.gadget]
    · have hdetach : Triple configfs
          (fun g e => (∀ q, e.tree.lookup q = none) ∧ g.functions.map FunctionDir.state =
            before.functions.map fun d => if d.dirWasSet then .removed else .unregistered)
          (do
            update fun g => { g with attached := false }
            Pure.pure (.ok ())) (Removes before e₀) := fun g e h => .inl ⟨rfl, h.1, rfl, h.2⟩
      refine triple_update hdetach ?_
      rintro g e (⟨-, htaken⟩ | ⟨err, herr, -⟩)
      · refine ⟨fun q => htaken.tree.gone q trivial, ?_⟩
        rw [htaken.gadget, List.map_map, List.map_map]
        exact List.map_congr_left fun d _ => (d.setBound false).state_resetDir
      · cases herr
  refine triple_update hstart ?_
  rintro g e ⟨rfl, rfl⟩
  exact ⟨rfl, rfl, ⟨0, fun _ _ => rfl⟩, Without.refl _⟩

/-- An attached gadget that is still there is tried once more. -/
theorem triple_dropGadget {before : RegGadget} {osDesc : Bool} :
    Triple configfs (fun g e => Remains before g osDesc e) dropGadget fun _ g e =>
      Remains before g osDesc e ∨ (before.attached = true ∧ Gone before g e) := by
  refine triple_read fun attached => ?_
  refine triple_ite (fun hattached => ?_) fun _ => triple_pure fun g e h => .inl h.1
  refine triple_intro fun g e h => ⟨fun g' e' => g' = g ∧ e' = e, ⟨rfl, rfl⟩, ?_⟩
  obtain ⟨hremains, rfl⟩ := h
  refine triple_bind (triple_doRemove hremains.regular hremains.root) fun _ => triple_pure ?_
  -- the functions were unbound by the first attempt
  rintro g' e' (⟨-, hgone⟩ | ⟨err, -, -, hstill⟩)
  · refine .inr ⟨hremains.attached ▸ hattached, hgone.tree, hgone.attached, ?_⟩
    rw [hgone.functions, hremains.functions, List.map_map]
    rfl
  · refine .inl ⟨hstill.osDesc.trans hremains.osDesc, hstill.regular, hstill.root,
      hstill.attached.trans hremains.attached, ?_⟩
    rw [hstill.functions, hremains.functions, List.map_map]
    rfl

/-- A gadget with a logical unit, an instance of FunctionFS and the link of an OS descriptor. -/
def composite : Tree :=
  ((((((((∅ : Tree).insert [] .dir).insert ["strings", "0x0409"] .dir).insert
    ["functions", "mass_storage.udc-0"] .dir).insert
    ["functions", "mass_storage.udc-0", "lun.1"] .dir).insert
    ["functions", "ffs.udc-1"] .dir).insert
    ["configs", "c.1"] .dir).insert
    ["configs", "c.1", "ffs.udc-1"] (.link ["functions", "ffs.udc-1"])).insert
    ["os_desc", "c.1"] (.link ["configs", "c.1"])

theorem regular_composite : Regular true composite := by
  have hempty : Regular true (∅ : Tree) := ⟨nofun, nofun, fun _ _ _ _ _ => nofun⟩
  refine ((((((((hempty.insert .root ?_).insert (.lang _) ?_).insert (.function _ ?_) ?_).insert
    (.lun _ _ ?_ ?_) ?_).insert (.function _ ?_) ?_).insert (.config _) ?_).insert
    (.configLink _ _ _ ?_) ?_).insert (.osDescLink _ _ rfl) ?_)
  all_goals decide

/-- A kernel without mounts that lists what was made first. -/
def plainHost : Host where
  osDesc := true
  attributes := fun _ => []
  reads := 0
  order := fun _ entries => entries
  order_perm := fun _ entries => List.Perm.refl entries
  outside := fun _ q =>
    match q with
    | .readDir _ => .ok []
    | .mounts => .ok []
    | .unbind => .ok ()
    | .removeFile _ => .ok ()
    | .removeDir _ => .ok ()
    | .umount _ _ => .ok ()
    | .removeMountPoint _ => .ok ()

/-- A gadget that was registered is removed, whatever the order in which its directories are listed:
then nothing of it is left, and its functions are in their final state. It stays only if an instance
of FunctionFS cannot be unmounted; the error is that of the mount, the gadget is unbound and can be
removed later. An attached gadget is tried twice, and the second attempt may succeed while the error
of the first is returned. -/
theorem remove_outcome (before : RegGadget) (e₀ : Surroundings) (hreg : Regular e₀.osDesc e₀.tree)
    (hroot : e₀.tree.lookup [] = some .dir) :
    (let (r, g, e) := execIn configfs RegGadget.remove before e₀
     (r = .ok () ∧ Gone before g e) ∨
      ∃ err, r = .error err ∧ Blocked e₀ err ∧
        (Remains before g e₀.osDesc e ∨ (before.attached = true ∧ Gone before g e))) := by
  suffices h : Triple configfs (fun g e => g = before ∧ e = e₀) RegGadget.remove fun r g e =>
      (r = .ok () ∧ Gone before g e) ∨ ∃ err, r = .error err ∧ Blocked e₀ err ∧
        (Remains before g e₀.osDesc e ∨ (before.attached = true ∧ Gone before g e)) from
          h before e₀ ⟨rfl, rfl⟩
  refine triple_bind (triple_doRemove hreg hroot) fun removed => triple_intro fun g e h => ?_
  obtain ⟨rfl, hgone⟩ | ⟨err, rfl, hblocked, hremains⟩ := h
  · have hdrop : Triple configfs (fun g e => Gone before g e) dropGadget fun _ g e =>
        Gone before g e := by
      refine triple_read fun attached => triple_ite (fun hattached => ?_) fun _ =>
        triple_pure fun g e h => h.1
      rintro g e ⟨hgone, rfl⟩
      rw [hgone.attached] at hattached
      cases hattached
    exact ⟨_, hgone, triple_bind hdrop fun _ => triple_pure fun g e h => .inl ⟨rfl, h⟩⟩
  · exact ⟨_, hremains, triple_bind triple_dropGadget fun _ => triple_pure fun g e h =>
      .inr ⟨err, rfl, hblocked, h⟩⟩

example :
    (let (r, g, e) := execIn configfs RegGadget.remove
      ⟨[⟨some ["functions", "ffs.udc-1"], true, true⟩], true⟩ ⟨plainHost, composite⟩
     r = .ok () ∧ g.functions.map FunctionDir.state = [.removed] ∧
       e.tree.lookup ["functions", "ffs.udc-1"] = none) := by
  obtain ⟨hok, hgone⟩ | ⟨err, -, hblocked, -⟩ :=
    remove_outcome ⟨[⟨some ["functions", "ffs.udc-1"], true, true⟩], true⟩
      ⟨plainHost, composite⟩ regular_composite
      (by decide)
  · exact ⟨hok, hgone.functions, hgone.tree _⟩
  · obtain ⟨n, hn⟩ | ⟨n, dest, hn⟩ := hblocked.mounts
    · cases hn
    · cases hn

end Outcome

end SummitUsbgadget.UsbGadget.Removal
