import SummitUsbgadget.FunctionFs.Builder

/-!
# What the builder lays out

`layout` says what the descriptors of a speed are: the interfaces in their order, each with its own
descriptors and with its endpoints, which are numbered from one across all interfaces. The loop of
`ffs_descs` makes exactly this, and its table of strings shows each name at the index that the
descriptors have for it. The files that `init` opens are numbered in the same way, so a program
talks to the endpoint that it has described.

Associations are different. The check for adjacent interfaces lets only those pass that begin with
interface 0, and of these it lets all pass.
-/

set_option autoImplicit false

namespace SummitUsbgadget.FunctionFs

open SummitUsbgadget.Lib

/-! ## Layout -/

inductive Speed where
  | full
  | high
  | super
  deriving DecidableEq, Repr

namespace Speed

/-- The packet size of an endpoint. -/
def maxPacketSize (ep : Endpoint) : Speed → UInt16
  | .full => 0
  | .high => ep.maxPacketSizeHs
  | .super => ep.maxPacketSizeSs

/-- What follows the descriptor of an endpoint. -/
def companion (ep : Endpoint) : Speed → List Desc
  | .full => []
  | .high => []
  | .super => [.ssEndpointComp (Build.ssComp ep)]

end Speed

def Descs.descrs (d : Descs) : Speed → List Desc
  | .full => d.fsDescrs
  | .high => d.hsDescrs
  | .super => d.ssDescrs

/-- The same of what FunctionFS reads. -/
def RawDescs.descrs (d : RawDescs) : Speed → List RawDesc
  | .full => d.fsDescrs
  | .high => d.hsDescrs
  | .super => d.ssDescrs

theorem descrs_raw (linux : Option (Nat × Nat)) (d : Descs) (speed : Speed) :
    (d.raw linux).descrs speed = (d.descrs speed).map Desc.raw := by
  cases speed with
  | full => rfl
  | high => rfl
  | super => rfl

def Build.descrs (s : Build) : Speed → List Desc
  | .full => s.fsDescrs
  | .high => s.hsDescrs
  | .super => s.ssDescrs

/-- The descriptor of an endpoint with its number. -/
def endpointAt (speed : Speed) (x : Endpoint × Nat) : EndpointDesc :=
  Build.endpointDesc x.1 x.2 (speed.maxPacketSize x.1)

def endpointDescs (speed : Speed) (x : Endpoint × Nat) : List Desc :=
  .endpoint (endpointAt speed x) :: speed.companion x.1

/-- An interface with the index of its name, after a number of interfaces and of endpoints. -/
def interfaceDescs (speed : Speed) (interfaces endpoints : Nat)
    (x : Interface × UInt8) : List Desc :=
  .interface (Build.interfaceDesc (UInt8.ofNat interfaces) x.1 x.2) ::
    x.1.customDescs.map .custom ++
    (x.1.endpoints.zipIdx (endpoints + 1)).flatMap (endpointDescs speed)

def layout (speed : Speed) : Nat → Nat → List (Interface × UInt8) → List Desc
  | _, _, [] => []
  | interfaces, endpoints, x :: xs =>
      interfaceDescs speed interfaces endpoints x ++
        layout speed (interfaces + 1) (endpoints + x.1.endpoints.length) xs

/-- The endpoints of a function, in their order. -/
def endpointsOf (interfaces : List Interface) : List Endpoint :=
  interfaces.flatMap Interface.endpoints

theorem layout_append (speed : Speed) (interfaces endpoints : Nat)
    (xs ys : List (Interface × UInt8)) :
    layout speed interfaces endpoints (xs ++ ys) =
      layout speed interfaces endpoints xs ++
        layout speed (interfaces + xs.length)
          (endpoints + (endpointsOf (xs.map Prod.fst)).length) ys := by
  induction xs generalizing interfaces endpoints with
  | nil => rfl
  | cons x xs ih =>
      have hlength : (endpointsOf ((x :: xs).map Prod.fst)).length =
          x.1.endpoints.length + (endpointsOf (xs.map Prod.fst)).length := List.length_append
      rw [List.cons_append, layout, layout, ih, List.append_assoc, hlength, List.length_cons]
      rw [Nat.add_assoc interfaces, Nat.add_assoc endpoints, Nat.add_comm 1]

theorem layout_snoc (speed : Speed) (xs : List (Interface × UInt8)) (x : Interface × UInt8) :
    layout speed 0 0 (xs ++ [x]) =
      layout speed 0 0 xs ++ interfaceDescs speed xs.length
        (endpointsOf (xs.map Prod.fst)).length x := by
  rw [layout_append, layout, layout, List.append_nil, Nat.zero_add, Nat.zero_add]

def Desc.endpoint? : Desc → Option EndpointDesc
  | .endpoint d => some d
  | _ => none

theorem filterMap_endpoint_interfaceDescs (speed : Speed) (interfaces endpoints : Nat)
    (x : Interface × UInt8) :
    (interfaceDescs speed interfaces endpoints x).filterMap Desc.endpoint? =
      (x.1.endpoints.zipIdx (endpoints + 1)).map (endpointAt speed) := by
  have hcustom : (x.1.customDescs.map Desc.custom).filterMap Desc.endpoint? = [] := by
    rw [List.filterMap_map]
    exact List.filterMap_eq_nil_iff.2 fun d _ => rfl
  have hone : ∀ y : Endpoint × Nat,
      (endpointDescs speed y).filterMap Desc.endpoint? = [endpointAt speed y] := by
    intro y
    cases speed with
    | full => rfl
    | high => rfl
    | super => rfl
  rw [interfaceDescs, List.filterMap_append, List.filterMap_cons_none rfl, hcustom, List.nil_append,
    List.filterMap_flatMap]
  simp only [hone]
  exact List.map_eq_flatMap.symm

/-- All endpoints are there, numbered from one. -/
theorem filterMap_endpoint_layout (speed : Speed) (interfaces endpoints : Nat)
    (xs : List (Interface × UInt8)) :
    (layout speed interfaces endpoints xs).filterMap Desc.endpoint? =
      ((endpointsOf (xs.map Prod.fst)).zipIdx (endpoints + 1)).map (endpointAt speed) := by
  induction xs generalizing interfaces endpoints with
  | nil => rfl
  | cons x xs ih =>
      have hcons : endpointsOf ((x :: xs).map Prod.fst) = x.1.endpoints ++
          endpointsOf (xs.map Prod.fst) := rfl
      rw [layout, List.filterMap_append, filterMap_endpoint_interfaceDescs, ih, hcons,
        List.zipIdx_append, List.map_append, Nat.add_right_comm]

/-! ## One interface -/

namespace Build

/-- Descriptors at the end, for each speed. -/
def append (s : Build) (ds : Speed → List Desc) : Build :=
  { s with
    fsDescrs := s.fsDescrs ++ ds .full
    hsDescrs := s.hsDescrs ++ ds .high
    ssDescrs := s.ssDescrs ++ ds .super }

theorem append_append (s : Build) (ds es : Speed → List Desc) :
    (s.append ds).append es = s.append fun speed => ds speed ++ es speed := by
  unfold append
  simp only [List.append_assoc]

theorem append_nil (s : Build) : (s.append fun _ => []) = s := by
  unfold append
  simp only [List.append_nil]

theorem foldl_pushAll {α : Type} (f : α → Desc) (xs : List α) (s : Build) :
    xs.foldl (fun s x => s.pushAll (f x)) s = s.append fun _ => xs.map f := by
  induction xs generalizing s with
  | nil => exact s.append_nil.symm
  | cons x xs ih =>
      rw [List.foldl_cons, ih]
      exact append_append s (fun _ => [f x]) fun _ => xs.map f

theorem endpoint_eq_ok {s s' : Build} {ep : Endpoint} (h : s.endpoint ep = .ok s') :
    s.endpointNum + 1 < 128 ∧
      s' = { s.append fun speed => endpointDescs speed (ep, s.endpointNum + 1) with
        endpointNum := s.endpointNum + 1 } := by
  unfold endpoint at h
  dsimp only at h
  split at h
  · cases h
  · next hlt =>
      cases h
      exact ⟨Nat.lt_of_not_le hlt, rfl⟩

/-- The loop over the endpoints of an interface. -/
theorem endpoints_eq_ok {eps : List Endpoint} {s s' : Build} (h : eps.foldlM endpoint s = .ok s') :
    (s.endpointNum < 128 → s.endpointNum + eps.length < 128) ∧
      s' = { s.append fun speed => (eps.zipIdx (s.endpointNum + 1)).flatMap
        (endpointDescs speed) with
        endpointNum := s.endpointNum + eps.length } := by
  induction eps generalizing s with
  | nil =>
      cases h
      exact ⟨id, (append_nil _).symm⟩
  | cons ep eps ih =>
      rw [List.foldlM_cons] at h
      obtain ⟨t, ht, hrest⟩ := bind_eq_ok.1 h
      obtain ⟨hlt, rfl⟩ := endpoint_eq_ok ht
      obtain ⟨hlen, rfl⟩ := ih hrest
      have hlength : s.endpointNum + 1 + eps.length = s.endpointNum + (ep :: eps).length := by
        rw [List.length_cons]
        omega
      refine ⟨fun _ => hlength ▸ hlen hlt, ?_⟩
      rw [← hlength]
      have happ := append_append s (fun speed => endpointDescs speed (ep, s.endpointNum + 1))
        fun speed => (eps.zipIdx (s.endpointNum + 1 + 1)).flatMap (endpointDescs speed)
      exact congrArg (fun t : Build =>
        { t with endpointNum := s.endpointNum + 1 + eps.length }) happ

/-- An interface before its association is looked at. -/
def placed (s : Build) (number : UInt8) (x : Interface × UInt8) (strings : StringTable) : Build :=
  { s.append fun speed => .interface (interfaceDesc number x.1 x.2) ::
    x.1.customDescs.map .custom ++
      (x.1.endpoints.zipIdx (s.endpointNum + 1)).flatMap (endpointDescs speed) with
    strings := strings
    endpointNum := s.endpointNum + x.1.endpoints.length }

/-- The loops over the custom descriptors and over the endpoints of an interface. -/
theorem placed_eq_of_endpoints {s u : Build} {number : UInt8} {x : Interface × UInt8}
    {strings : StringTable} (h : x.1.endpoints.foldlM endpoint
      (x.1.customDescs.foldl (fun s d => s.pushAll (.custom d))
        ({ s with strings := strings }.pushAll
        (.interface (interfaceDesc number x.1 x.2)))) = .ok u) :
    (s.endpointNum < 128 → s.endpointNum + x.1.endpoints.length < 128) ∧
      u = s.placed number x strings := by
  rw [foldl_pushAll] at h
  obtain ⟨hlt, rfl⟩ := endpoints_eq_ok h
  refine ⟨hlt, ?_⟩
  unfold placed append pushAll
  simp only [List.append_assoc, List.cons_append, List.nil_append]

theorem placeInterface_eq_ok {s s' : Build} {number : UInt8} {intf : Interface}
    (h : s.placeInterface number intf = .ok s') :
    ∃ nameIdx strings t, addStrings intf.name s.strings = .ok (nameIdx, strings) ∧
      (s.endpointNum < 128 → s.endpointNum + intf.endpoints.length < 128) ∧
      (s.placed number (intf, nameIdx) strings).association number intf.association = .ok t ∧
      s' = { t with osDescrs := t.osDescrs ++ osDescs number intf } := by
  obtain ⟨⟨nameIdx, strings⟩, hname, h⟩ := bind_eq_ok.1 h
  obtain ⟨u, hu, h⟩ := bind_eq_ok.1 h
  obtain ⟨t, ht, h⟩ := bind_eq_ok.1 h
  cases h
  obtain ⟨hlt, rfl⟩ := placed_eq_of_endpoints (x := (intf, nameIdx)) hu
  exact ⟨nameIdx, strings, t, hname, hlt, ht, rfl⟩

end Build

/-! ## Names -/

/-- The maps of names that an interface brings. -/
def Interface.names (intf : Interface) : List Names :=
  intf.name :: (intf.association.map (·.name)).toList

/-- The name is found under its index, if it has a language. -/
def Named (count : Nat) (t : StringTable) (name : Names) (nameIdx : UInt8) : Prop :=
  (∃ lang, lang ∈ name) → Columns.Shows "" count t name nameIdx.toNat

/-- How a table grows by names: the lists stay of one length, what was shown is shown, and there are
no strings from elsewhere. -/
structure Adds (names : List Names) (count count' : Nat) (t t' : StringTable) : Prop where
  even : Columns.Even count' t'
  shows_mono : ∀ row i, Columns.Shows "" count t row i → Columns.Shows "" count' t' row i
  origin : ∀ P : Language → String → Prop, (∀ lang, P lang "") →
    (∀ name ∈ names, ∀ lang str, name.lookup lang = some str → P lang str) →
    (∀ lang column, t.lookup lang = some column → ∀ str ∈ column, P lang str) →
    ∀ lang column, t'.lookup lang = some column → ∀ str ∈ column, P lang str

section Growth

variable {names more : List Names} {count count₁ count₂ : Nat} {t t₁ t₂ : StringTable}

theorem Adds.refl (h : Columns.Even count t) : Adds names count count t t :=
  ⟨h, fun _ _ hrow => hrow, fun _ _ _ ht => ht⟩

theorem Adds.trans (h₁ : Adds names count count₁ t t₁) (h₂ : Adds more count₁ count₂ t₁ t₂) :
    Adds (names ++ more) count count₂ t t₂ where
  even := h₂.even
  shows_mono := fun row i hrow => h₂.shows_mono row i (h₁.shows_mono row i hrow)
  origin := by
    intro P hempty hnames ht
    have hfirst := h₁.origin P hempty
        (fun name hname => hnames name (List.mem_append_left more hname)) ht
    exact h₂.origin P hempty (fun name hname =>
      hnames name (List.mem_append_right names hname)) hfirst

theorem Adds.named (h : Adds names count count₁ t t₁) {name : Names} {nameIdx : UInt8}
    (hname : Named count t name nameIdx) : Named count₁ t₁ name nameIdx :=
  fun hlang => h.shows_mono _ _ (hname hlang)

/-- A name is added, and it gets an index under which the table shows it. A name without a language
does not count as long as there is no other. -/
theorem addStrings_eq_ok {strs : Names} {nameIdx : UInt8} (ht : Columns.Even count t)
    (h : addStrings strs t = .ok (nameIdx, t₁)) :
    ∃ count₁, Adds [strs] count count₁ t t₁ ∧ Named count₁ t₁ strs nameIdx ∧
      ((∃ lang, lang ∈ t ∨ lang ∈ strs) → count₁ = count + 1 ∧ count₁ < 256) := by
  have horigin : ∀ P : Language → String → Prop, (∀ lang, P lang "") →
      (∀ name ∈ [strs], ∀ lang str, name.lookup lang = some str → P lang str) →
      (∀ lang column, t.lookup lang = some column → ∀ str ∈ column, P lang str) →
      ∀ lang column, (Columns.addRow "" strs t).lookup lang = some column →
        ∀ str ∈ column, P lang str :=
    fun P hempty hnames hcells =>
      Columns.forall_cell_addRow hempty hcells (hnames strs (List.mem_singleton_self strs))
  unfold addStrings at h
  dsimp only at h
  split at h
  · next hlt =>
      cases h
      rw [ht.height_eq] at hlt ⊢
      by_cases hkeys : ∃ lang, lang ∈ t ∨ lang ∈ strs
      · refine ⟨count + 1, ⟨ht.addRow hkeys, fun row i hrow => hrow.addRow ht strs,
          horigin⟩, fun _ => ?_, fun _ => ⟨rfl, hlt⟩⟩
        have hidx : (UInt8.ofNat (count + 1)).toNat = count + 1 := by
          rw [UInt8.toNat_ofNat']
          exact Nat.mod_eq_of_lt hlt
        rw [hidx]
        exact Columns.shows_addRow ht strs
      · rw [Columns.addRow_eq_self hkeys] at horigin ⊢
        refine ⟨count, ⟨ht, fun row i hrow => hrow, horigin⟩, ?_, fun hsome => absurd hsome hkeys⟩
        rintro ⟨lang, hlang⟩
        exact absurd ⟨lang, .inr hlang⟩ hkeys
  · cases h

theorem addStrings_of_lt (strs : Names) (ht : Columns.Even count t) (h : count + 1 < 256) :
    ∃ r, addStrings strs t = .ok r := by
  unfold addStrings
  rw [ht.height_eq]
  exact ⟨_, if_pos h⟩

end Growth

/-! ## Associations -/

/-- The descriptor of an association of `n` interfaces that begins with interface 0. -/
def assocDesc (a : Association) (n : Nat) (nameIdx : UInt8) : InterfaceAssocDesc :=
  { Build.newAssoc 0 a nameIdx with interfaceCount := UInt8.ofNat n }

/-- The associations of interfaces, and what is kept of them: there is at most one, it begins with
interface 0, and its interfaces are counted, wherever they are. -/
inductive Associated (count : Nat) (t : StringTable) :
    List Interface → List (Association × InterfaceAssocDesc) → Prop where
  | none {done : List Interface} (h : ∀ intf ∈ done, intf.association = .none) :
      Associated count t done []
  | one {first : Interface} {rest : List Interface} {a : Association} {nameIdx : UInt8}
      (hfirst : first.association = some a)
      (hrest : ∀ intf ∈ rest, ∀ b, intf.association = some b → a.eq b = true)
      (hname : Named count t a.name nameIdx) :
      Associated count t (first :: rest)
        [(a, assocDesc a ((rest.filterMap Interface.association).length + 1) nameIdx)]

/-- The association of interface 0. -/
def firstAssociation : List Interface → Option Association
  | [] => none
  | first :: _ => first.association

theorem Association.eq_refl (a : Association) : a.eq a = true := by
  unfold Association.eq
  rw [beq_self_eq_true, beq_self_eq_true, decide_eq_true (List.Perm.refl _)]
  rfl

/-- The check of a new association: it only passes at interface 0. -/
theorem add_self_eq {n : Nat} (hn : n < 256)
    (h : UInt8.ofNat n + UInt8.ofNat n = UInt8.ofNat n) : n = 0 := by
  have hzero : UInt8.ofNat n = 0 := by
    have hcancel : UInt8.ofNat n + UInt8.ofNat n = UInt8.ofNat n + 0 := by
      rw [h, UInt8.add_zero]
    exact (UInt8.add_right_inj _).1 hcancel
  have hnat := congrArg UInt8.toNat hzero
  rw [UInt8.toNat_ofNat', Nat.mod_eq_of_lt hn] at hnat
  exact hnat

section Association

variable {count count₁ : Nat} {t t₁ : StringTable} {done : List Interface} {intf : Interface}
  {assocs : List (Association × InterfaceAssocDesc)}

theorem Associated.mono {names : List Names} (h : Adds names count count₁ t t₁)
    (ha : Associated count t done assocs) : Associated count₁ t₁ done assocs := by
  cases ha with
  | none hnone => exact .none hnone
  | one hfirst hrest hname => exact .one hfirst hrest (h.named hname)

/-- What is kept is the association of interface 0, with the number of all interfaces that have
one. -/
theorem Associated.assocs_eq (ha : Associated count t done assocs) :
    ∃ nameIdx, assocs = (firstAssociation done).toList.map fun a =>
      (a, assocDesc a (done.filterMap Interface.association).length nameIdx) := by
  cases ha with
  | none hnone =>
      refine ⟨0, ?_⟩
      cases done with
      | nil => rfl
      | cons first rest =>
          rw [firstAssociation, hnone first List.mem_cons_self]
          rfl
  | @one first rest a nameIdx hfirst hrest hname =>
      refine ⟨nameIdx, ?_⟩
      rw [firstAssociation, hfirst, List.filterMap_cons_some hfirst]
      rfl

/-- All interfaces are in the association of interface 0, or in none. -/
theorem Associated.eq_first (ha : Associated count t done assocs) (hintf : intf ∈ done)
    {b : Association} (hb : intf.association = some b) : ∃ a, firstAssociation done = some a ∧
    a.eq b = true := by
  cases ha with
  | none hnone =>
      rw [hnone intf hintf] at hb
      cases hb
  | @one first rest a nameIdx hfirst hrest hname =>
      refine ⟨a, hfirst, ?_⟩
      rcases List.mem_cons.1 hintf with rfl | hmem
      · rw [hfirst] at hb
        cases hb
        exact Association.eq_refl _
      · exact hrest intf hmem b hb

/-- An interface without an association changes nothing. -/
theorem Associated.snoc_none (hintf : intf.association = .none)
    (ha : Associated count t done assocs) :
    Associated count t (done ++ [intf]) assocs := by
  cases ha with
  | none hnone =>
      apply Associated.none
      intro other hother
      rcases List.mem_append.1 hother with hold | hnew
      · exact hnone other hold
      · rw [List.mem_singleton.1 hnew]
        exact hintf
  | @one first rest a nameIdx hfirst hrest hname =>
      have hsame : (rest ++ [intf]).filterMap Interface.association =
          rest.filterMap Interface.association := by
        rw [List.filterMap_append, List.filterMap_cons_none hintf, List.filterMap_nil,
          List.append_nil]
      rw [← hsame]
      refine .one hfirst ?_ hname
      intro other hother b hb
      rcases List.mem_append.1 hother with hold | hnew
      · exact hrest other hold b hb
      · rw [List.mem_singleton.1 hnew, hintf] at hb
        cases hb

/-- One more interface of the association that there is. -/
theorem Associated.snoc_one {first : Interface} {rest : List Interface} {a b : Association}
    {nameIdx : UInt8} (hfirst : first.association = some a)
    (hrest : ∀ other ∈ rest, ∀ c, other.association = some c → a.eq c = true)
    (hname : Named count t a.name nameIdx) (hintf : intf.association = some b)
    (hab : a.eq b = true) :
    Associated count t (first :: rest ++ [intf])
      [(a, assocDesc a ((rest.filterMap Interface.association).length + 1 + 1) nameIdx)] := by
  have hmore : ((rest ++ [intf]).filterMap Interface.association).length =
      (rest.filterMap Interface.association).length + 1 := by
    rw [List.filterMap_append, List.filterMap_cons_some hintf, List.filterMap_nil,
      List.length_append]
    rfl
  rw [← hmore]
  refine .one hfirst ?_ hname
  intro other hother c hc
  rcases List.mem_append.1 hother with hold | hnew
  · exact hrest other hold c hc
  · rw [List.mem_singleton.1 hnew, hintf] at hc
    cases hc
    exact hab

/-- An association that is not known begins at the interface. -/
theorem assocEntry_new {s s₁ : Build} {number : UInt8} {a : Association} {iad : InterfaceAssocDesc}
    (hfind : s.assocs.find? (fun e => e.1.eq a) = .none)
    (h : s.assocEntry number a = .ok (iad, s₁)) :
    ∃ nameIdx strings, addStrings a.name s.strings = .ok (nameIdx, strings) ∧
      iad = Build.newAssoc number a nameIdx ∧
      s₁ = { s with strings := strings, assocs := s.assocs ++ [(a, iad)] } := by
  unfold Build.assocEntry at h
  rw [hfind] at h
  obtain ⟨⟨nameIdx, strings⟩, hname, h⟩ := bind_eq_ok.1 h
  cases h
  exact ⟨nameIdx, strings, hname, rfl, rfl⟩

/-- An association that is known is left as it is. -/
theorem assocEntry_found {s : Build} {number : UInt8} {a b : Association} {iad : InterfaceAssocDesc}
    (hs : s.assocs = [(a, iad)]) (hab : a.eq b = true) : s.assocEntry number b = .ok (iad, s) := by
  have hfind : s.assocs.find? (fun e => e.1.eq b) = some (a, iad) := by
    rw [hs]
    exact List.find?_cons_of_pos hab
  unfold Build.assocEntry
  rw [hfind]

theorem countInterface_one {s : Build} {a b : Association} {n : Nat} {nameIdx : UInt8}
    (hs : s.assocs = [(a, assocDesc a n nameIdx)]) (hab : a.eq b = true) :
    (s.countInterface b).assocs = [(a, assocDesc a (n + 1) nameIdx)] := by
  have hsucc : UInt8.ofNat n + 1 = UInt8.ofNat (n + 1) := (UInt8.ofNat_add n 1).symm
  unfold Build.countInterface
  rw [hs, List.map_singleton, if_pos hab]
  unfold assocDesc
  rw [hsucc]

/-- The association of the next interface. -/
theorem association_eq_ok {s s' : Build} (hlt : done.length < 256)
    (ht : Columns.Even count s.strings) (ha : Associated count s.strings done s.assocs)
    (h : s.association (UInt8.ofNat done.length) intf.association = .ok s') :
    ∃ count₁, Adds (intf.association.map (·.name)).toList count count₁ s.strings s'.strings ∧
      Associated count₁ s'.strings (done ++ [intf]) s'.assocs ∧
      s' = { s with strings := s'.strings, assocs := s'.assocs } ∧
      ((∃ lang, lang ∈ s.strings) → count < 256 →
        count₁ + s.assocs.length = count + s'.assocs.length ∧ count₁ < 256) := by
  cases hintf : intf.association with
  | none =>
      rw [hintf] at h
      cases h
      exact ⟨count, .refl ht, ha.snoc_none hintf, rfl, fun _ hcount => ⟨rfl, hcount⟩⟩
  | some b =>
      rw [hintf] at h
      obtain ⟨⟨iad, s₁⟩, hentry, h⟩ := bind_eq_ok.1 h
      dsimp only at h
      split at h
      · cases h
      next hcheck =>
      have hcheck : iad.firstInterface + UInt8.ofNat done.length = UInt8.ofNat done.length :=
        not_not.1 hcheck
      cases h
      -- the check lets a new association pass at interface 0 only
      have hnew : s.assocs.find? (fun e => e.1.eq b) = .none → done = [] := by
        intro hfind
        obtain ⟨nameIdx, strings, -, hiad, -⟩ := assocEntry_new hfind hentry
        rw [hiad] at hcheck
        exact List.eq_nil_of_length_eq_zero (add_self_eq hlt hcheck)
      generalize hassocs : s.assocs = assocs at ha hnew
      cases ha with
      | none hnone =>
          have hdone := hnew rfl
          subst hdone
          obtain ⟨nameIdx, strings, hname, hiad, hs₁⟩ := assocEntry_new (hassocs ▸ rfl) hentry
          obtain ⟨count₁, hadds, hnamed, hcounted⟩ := addStrings_eq_ok ht hname
          rw [hassocs] at hs₁
          subst hs₁ hiad
          refine ⟨count₁, hadds, ?_, rfl, ?_⟩
          · rw [countInterface_one (n := 0) rfl b.eq_refl]
            exact @Associated.one count₁ strings intf [] b nameIdx hintf nofun hnamed
          · rintro ⟨lang, hlang⟩ -
            exact hcounted ⟨lang, .inl hlang⟩
      | @one first rest a nameIdx hfirst hrest hname =>
          by_cases hab : a.eq b = true
          · rw [assocEntry_found hassocs hab] at hentry
            cases hentry
            refine ⟨count, .refl ht, ?_, rfl, ?_⟩
            · rw [countInterface_one hassocs hab]
              exact Associated.snoc_one hfirst hrest hname hintf hab
            · rw [countInterface_one hassocs hab]
              exact fun _ hcount => ⟨rfl, hcount⟩
          · cases hnew (List.find?_cons_of_neg hab)

end Association

/-! ## All interfaces -/

/-- The state of the loop after the interfaces `placed`, each with the index of its name. -/
structure Built (placed : List (Interface × UInt8)) (count : Nat) (s : Build) : Prop where
  names : Adds ((placed.map Prod.fst).flatMap Interface.names) 0 count ∅ s.strings
  length : placed.length ≤ 256
  endpointNum : s.endpointNum = (endpointsOf (placed.map Prod.fst)).length
  fits : s.endpointNum < 128
  descrs : ∀ speed, s.descrs speed = layout speed 0 0 placed
  named : ∀ x ∈ placed, Named count s.strings x.1.name x.2
  associated : Associated count s.strings (placed.map Prod.fst) s.assocs
  osDescrs : s.osDescrs =
    ((placed.map Prod.fst).zipIdx).flatMap fun x => Build.osDescs (UInt8.ofNat x.2) x.1
  /-- If all interfaces have names, then there is a string for each, and one for the association. -/
  counted : (∀ x ∈ placed, ∃ lang, lang ∈ x.1.name) →
    count = placed.length + s.assocs.length ∧ count < 256

theorem built_new : Built [] 0 Build.new where
  names := .refl Columns.even_empty
  length := Nat.zero_le _
  endpointNum := rfl
  fits := by decide
  descrs := by
    intro speed
    cases speed with
    | full => rfl
    | high => rfl
    | super => rfl
  named := nofun
  associated := .none nofun
  osDescrs := rfl
  counted := fun _ => ⟨rfl, by decide⟩

theorem interface_eq_ok {s s' : Build} {intf : Interface} {position : Nat}
    (h : s.interface (intf, position) = .ok s') :
    position < 256 ∧ s.placeInterface (UInt8.ofNat position) intf = .ok s' := by
  unfold Build.interface at h
  split at h
  · cases h
  next hlt =>
  split at h
  · cases h
  · exact ⟨Nat.lt_of_not_le hlt, h⟩

theorem Built.interface {placed : List (Interface × UInt8)} {count : Nat} {s s' : Build}
    {intf : Interface} (hb : Built placed count s)
    (h : s.interface (intf, placed.length) = .ok s') :
    ∃ nameIdx count', Built (placed ++ [(intf, nameIdx)]) count' s' := by
  obtain ⟨hposition, hplace⟩ := interface_eq_ok h
  obtain ⟨nameIdx, strings, t, hname, hfits, hassoc, rfl⟩ := Build.placeInterface_eq_ok hplace
  obtain ⟨count₁, hadds₁, hnamed, hcounted₁⟩ := addStrings_eq_ok hb.names.even hname
  have hmap : (placed ++ [(intf, nameIdx)]).map Prod.fst = placed.map Prod.fst ++ [intf] :=
    List.map_append
  have hlength : (placed.map Prod.fst).length = placed.length := List.length_map _
  rw [← hlength] at hassoc
  have hbefore : Associated count₁
      (s.placed (UInt8.ofNat (placed.map Prod.fst).length) (intf, nameIdx) strings).strings
        (placed.map Prod.fst) s.assocs := hb.associated.mono hadds₁
  obtain ⟨count₂, hadds₂, hassociated, ht, hcounted₂⟩ :=
    association_eq_ok (hlength ▸ hposition) hadds₁.even hbefore hassoc
  have hendpoints : (endpointsOf (placed.map Prod.fst ++ [intf])).length =
      s.endpointNum + intf.endpoints.length := by
    rw [hb.endpointNum, endpointsOf, List.flatMap_append, List.length_append,
      List.flatMap_singleton]
    rfl
  refine ⟨nameIdx, count₂, ?_⟩
  constructor
  · rw [hmap, List.flatMap_append, List.flatMap_singleton]
    exact hb.names.trans (hadds₁.trans hadds₂)
  · rw [List.length_append]
    exact hposition
  · rw [hmap, hendpoints, ht]
    rfl
  · rw [ht]
    exact hfits hb.fits
  · intro speed
    have hafter : t.descrs speed = s.descrs speed ++
        interfaceDescs speed (placed.map Prod.fst).length s.endpointNum (intf, nameIdx) := by
      rw [ht]
      cases speed with
      | full => rfl
      | high => rfl
      | super => rfl
    rw [layout_snoc, ← hb.descrs speed, ← hb.endpointNum, ← hlength]
    exact hafter
  · intro x hx
    rcases List.mem_append.1 hx with hold | hnew
    · exact hadds₂.named (hadds₁.named (hb.named x hold))
    · rw [List.mem_singleton.1 hnew]
      exact hadds₂.named hnamed
  · rw [hmap]
    exact hassociated
  · have hlast : ([intf].zipIdx (placed.map Prod.fst).length).flatMap
        (fun x => Build.osDescs (UInt8.ofNat x.2) x.1) =
          Build.osDescs (UInt8.ofNat placed.length) intf := by
      rw [hlength]
      exact List.append_nil _
    rw [hmap, List.zipIdx_append, List.flatMap_append, ← hb.osDescrs, Nat.zero_add, hlast, ht]
    rfl
  · intro hall
    obtain ⟨hcount, -⟩ := hb.counted fun x hx => hall x (List.mem_append_left _ hx)
    obtain ⟨lang, hlang⟩ := hall (intf, nameIdx)
        (List.mem_append_right _ (List.mem_singleton_self _))
    obtain ⟨hone, hlt₁⟩ := hcounted₁ ⟨lang, .inr hlang⟩
    have hmem : lang ∈ strings := (hnamed ⟨lang, hlang⟩).keys lang hlang
    obtain ⟨htwo, hlt₂⟩ := hcounted₂ ⟨lang, hmem⟩ hlt₁
    refine ⟨?_, hlt₂⟩
    have hassocs : (s.placed (UInt8.ofNat (placed.map Prod.fst).length)
        (intf, nameIdx) strings).assocs =
        s.assocs := rfl
    rw [hassocs] at htwo
    rw [List.length_append, List.length_singleton]
    show count₂ = placed.length + 1 + t.assocs.length
    omega

/-- `ffs_descs`: the layout, and behind it the associations. -/
theorem ffsDescs_eq_ok {b : CustomBuilder} {descs : Descs} {strings : StringTable}
    (h : b.ffsDescs = .ok (descs, strings)) :
    ∃ placed count s, placed.map Prod.fst = b.interfaces ∧ Built placed count s ∧
      s.strings = strings ∧
      descs.osDescrs = s.osDescrs ∧
      ∀ speed, descs.descrs speed = s.descrs speed ++ s.assocs.map fun e =>
        .interfaceAssoc e.2 := by
  obtain ⟨s, hs, h⟩ := bind_eq_ok.1 h
  cases h
  have hbuilt : ∃ placed count, placed.map Prod.fst = b.interfaces ∧ Built placed count s := by
    refine foldlM_zipIdx (fun done s => ∃ placed count, placed.map Prod.fst = done ∧
      Built placed count s)
      ?_ ⟨[], 0, rfl, built_new⟩ hs
    rintro done intf s s' ⟨placed, count, rfl, hb⟩ hstep
    rw [List.length_map] at hstep
    obtain ⟨nameIdx, count', hb'⟩ := hb.interface hstep
    exact ⟨_, count', List.map_append, hb'⟩
  obtain ⟨placed, count, hplaced, hb⟩ := hbuilt
  rw [Build.foldl_pushAll]
  refine ⟨placed, count, s, hplaced, hb, rfl, rfl, ?_⟩
  intro speed
  cases speed with
  | full => rfl
  | high => rfl
  | super => rfl

/-! ## What is accepted -/

theorem endpoints_of_lt (eps : List Endpoint) {s : Build} (h : s.endpointNum + eps.length < 128) :
    ∃ s', eps.foldlM Build.endpoint s = .ok s' := by
  induction eps generalizing s with
  | nil => exact ⟨s, rfl⟩
  | cons ep eps ih =>
      rw [List.length_cons] at h
      have hone : ∃ t, s.endpoint ep = .ok t ∧ t.endpointNum = s.endpointNum + 1 := by
        unfold Build.endpoint
        dsimp only
        rw [if_neg (by omega)]
        exact ⟨_, rfl, rfl⟩
      obtain ⟨t, ht, hnum⟩ := hone
      obtain ⟨s', hs'⟩ := ih (s := t) (by omega)
      refine ⟨s', ?_⟩
      rw [List.foldlM_cons, ht]
      exact hs'

theorem association_of_entry {s s₁ : Build} {number : UInt8} {a : Association}
    {iad : InterfaceAssocDesc} (h : s.assocEntry number a = .ok (iad, s₁))
    (hzero : iad.firstInterface = 0) :
    s.association number (some a) = .ok (s₁.countInterface a) := by
  have hcheck : ¬ (iad.firstInterface + number ≠ number) := by
    rw [hzero, UInt8.zero_add]
    exact not_not.2 rfl
  unfold Build.association
  dsimp only
  rw [h]
  exact if_neg hcheck

/-- An interface that is in the association of interface 0 is accepted, and so is interface 0
itself. -/
theorem association_of_first {count : Nat} {s : Build} {done : List Interface} {intf : Interface}
    (ht : Columns.Even count s.strings) (ha : Associated count s.strings done s.assocs)
    (hcount : s.assocs = [] → intf.association.isSome → count + 1 < 256)
    (hfirst : ∀ b, intf.association = some b →
      ∃ a, firstAssociation (done ++ [intf]) = some a ∧ a.eq b = true) :
    ∃ s', s.association (UInt8.ofNat done.length) intf.association = .ok s' := by
  cases hintf : intf.association with
  | none => exact ⟨s, rfl⟩
  | some b =>
      obtain ⟨a, hfirst, hab⟩ := hfirst b hintf
      generalize hassocs : s.assocs = assocs at ha
      cases ha with
      | none hnone =>
          -- no interface before has one, so this one is interface 0
          have hdone : done = [] := by
            cases done with
            | nil => rfl
            | cons first rest =>
                have hnone' : first.association = .none := hnone first List.mem_cons_self
                rw [List.cons_append, firstAssociation, hnone'] at hfirst
                cases hfirst
          subst hdone
          obtain ⟨⟨nameIdx, strings⟩, hname⟩ :=
            addStrings_of_lt b.name ht (hcount hassocs (by rw [hintf]; rfl))
          have hentry : s.assocEntry (UInt8.ofNat 0) b =
              .ok (Build.newAssoc (UInt8.ofNat 0) b nameIdx,
                { s with
                  strings := strings
                  assocs := s.assocs ++ [(b, Build.newAssoc (UInt8.ofNat 0) b nameIdx)] }) := by
            unfold Build.assocEntry
            rw [hassocs, hname]
            rfl
          exact ⟨_, association_of_entry hentry rfl⟩
      | @one first rest a' nameIdx hfirst' hrest hname =>
          have haa : a' = a := by
            rw [List.cons_append, firstAssociation, hfirst'] at hfirst
            exact Option.some.inj hfirst
          subst haa
          exact ⟨_, association_of_entry (assocEntry_found hassocs hab) rfl⟩

theorem firstAssociation_append {done : List Interface} (rest : List Interface) (h : done ≠ []) :
    firstAssociation (done ++ rest) = firstAssociation done := by
  cases done with
  | nil => exact absurd rfl h
  | cons first done => rfl

/-- An interface that there is room for, in an association that is there, is placed. -/
theorem Built.interface_of_fits {placed : List (Interface × UInt8)} {count : Nat} {s : Build}
    {intf : Interface} (hb : Built placed count s) (hnamed : ∀ x ∈ placed, ∃ lang, lang ∈ x.1.name)
    (hlang : ∃ lang, lang ∈ intf.name)
    (hends : (endpointsOf (placed.map Prod.fst ++ [intf])).length < 128)
    (hroom : placed.length + 1 +
      (firstAssociation (placed.map Prod.fst ++ [intf])).toList.length < 256)
    (hfirst : ∀ b, intf.association = some b →
      ∃ a, firstAssociation (placed.map Prod.fst ++ [intf]) = some a ∧ a.eq b = true) :
    ∃ s', s.interface (intf, placed.length) = .ok s' := by
  have hlength : (placed.map Prod.fst).length = placed.length := List.length_map _
  have hnum : s.endpointNum + intf.endpoints.length < 128 := by
    rw [endpointsOf, List.flatMap_append, List.length_append, List.flatMap_singleton] at hends
    rw [hb.endpointNum]
    exact hends
  obtain ⟨hcount, -⟩ := hb.counted hnamed
  obtain ⟨nameIdx₀, hassocs⟩ := hb.associated.assocs_eq
  have hassocsLe : s.assocs.length ≤
      (firstAssociation (placed.map Prod.fst ++ [intf])).toList.length := by
    rw [hassocs, List.length_map]
    cases hplaced : placed.map Prod.fst with
    | nil => exact Nat.zero_le _
    | cons first rest => exact Nat.le_refl _
  obtain ⟨⟨nameIdx, strings⟩, hname⟩ := addStrings_of_lt intf.name hb.names.even (by omega)
  obtain ⟨count₁, hadds, -, hcounted⟩ := addStrings_eq_ok hb.names.even hname
  obtain ⟨u, hu⟩ := endpoints_of_lt intf.endpoints
    (s := intf.customDescs.foldl (fun s d => s.pushAll (.custom d))
      ({ s with strings := strings }.pushAll
        (.interface (Build.interfaceDesc (UInt8.ofNat placed.length) intf nameIdx))))
    (by rw [Build.foldl_pushAll]; exact hnum)
  obtain ⟨-, hplaced⟩ := Build.placed_eq_of_endpoints (x := (intf, nameIdx)) hu
  have hbefore : Associated count₁ strings (placed.map Prod.fst) s.assocs :=
    hb.associated.mono hadds
  -- a new association needs room for one more string
  have hmore : s.assocs = [] → intf.association.isSome → count₁ + 1 < 256 := by
    intro hnil hsome
    obtain ⟨lang, hlang⟩ := hlang
    obtain ⟨hone, -⟩ := hcounted ⟨lang, .inr hlang⟩
    obtain ⟨b, hintf⟩ := Option.isSome_iff_exists.1 hsome
    obtain ⟨a, ha, -⟩ := hfirst b hintf
    rw [ha] at hroom
    rw [hnil] at hcount
    simp only [List.length_nil, Option.toList_some, List.length_singleton] at hcount hroom
    omega
  have heven : Columns.Even count₁ u.strings := by
    rw [hplaced]
    exact hadds.even
  obtain ⟨t, ht⟩ := association_of_first heven (by rw [hplaced]; exact hbefore)
      (by rw [hplaced]; exact hmore)
    hfirst
  refine ⟨{ t with osDescrs := t.osDescrs ++ Build.osDescs (UInt8.ofNat placed.length) intf }, ?_⟩
  unfold Build.interface
  dsimp only
  rw [if_neg (by omega), if_neg (by omega)]
  unfold Build.placeInterface
  rw [hlength] at ht
  rw [hname]
  show (intf.endpoints.foldlM Build.endpoint _ >>= _) = _
  rw [hu]
  show (u.association _ _ >>= _) = _
  rw [ht]
  rfl

/-- All that is put into one message, and all that is asked of associations. -/
structure Fits (interfaces : List Interface) : Prop where
  endpoints : (endpointsOf interfaces).length < 128
  strings : interfaces.length + (firstAssociation interfaces).toList.length < 256
  associations : ∀ intf ∈ interfaces, ∀ b, intf.association = some b →
    ∃ a, firstAssociation interfaces = some a ∧ a.eq b = true

theorem Fits.of_built {placed : List (Interface × UInt8)} {count : Nat} {s : Build}
    (hb : Built placed count s) (hnamed : ∀ x ∈ placed, ∃ lang, lang ∈ x.1.name) :
    Fits (placed.map Prod.fst) where
  endpoints := hb.endpointNum ▸ hb.fits
  strings := by
    obtain ⟨hcount, hlt⟩ := hb.counted hnamed
    obtain ⟨nameIdx, hassocs⟩ := hb.associated.assocs_eq
    rw [hassocs, List.length_map] at hcount
    rw [List.length_map, ← hcount]
    exact hlt
  associations := fun intf hintf b hb' => hb.associated.eq_first hintf hb'

/-- A part at the beginning fits if the whole does. -/
theorem Fits.of_append {done rest : List Interface} (hne : done ≠ []) (h : Fits (done ++ rest)) :
    Fits done where
  endpoints := by
    have hends := h.endpoints
    rw [endpointsOf, List.flatMap_append, List.length_append] at hends
    exact Nat.lt_of_le_of_lt (Nat.le_add_right _ _) hends
  strings := by
    have hstrings := h.strings
    rw [firstAssociation_append rest hne, List.length_append] at hstrings
    omega
  associations := by
    intro intf hintf b hb
    have hfirst := h.associations intf (List.mem_append_left rest hintf) b hb
    rw [firstAssociation_append rest hne] at hfirst
    exact hfirst

/-- What is accepted, if all interfaces have names: there have to be numbers for all endpoints and
all strings, and all associations have to be that of interface 0. Which interfaces are in it does
not matter. -/
theorem ffs_descs_ok_iff {b : CustomBuilder}
    (hnamed : ∀ intf ∈ b.interfaces, ∃ lang, lang ∈ intf.name) :
    (∃ r, b.ffsDescs = .ok r) ↔ Fits b.interfaces := by
  constructor
  · rintro ⟨⟨descs, strings⟩, h⟩
    obtain ⟨placed, count, s, hplaced, hb, -⟩ := ffsDescs_eq_ok h
    rw [← hplaced] at hnamed ⊢
    exact Fits.of_built hb fun x hx => hnamed x.1 (List.mem_map_of_mem hx)
  · intro hfits
    have hrun : ∃ s, b.interfaces.zipIdx.foldlM Build.interface Build.new = .ok s := by
      refine foldlM_zipIdx_of_steps
        (fun done s => ∃ placed count, placed.map Prod.fst = done ∧ Built placed count s) ?_
        ⟨[], 0, rfl, built_new⟩
      rintro done intf rest s hinterfaces ⟨placed, count, rfl, hb⟩
      have hall : b.interfaces = (placed.map Prod.fst ++ [intf]) ++ rest := by
        rw [hinterfaces, List.append_assoc]
        rfl
      have hnow : Fits (placed.map Prod.fst ++ [intf]) :=
        Fits.of_append (by simp) (hall ▸ hfits)
      have hbefore : ∀ x ∈ placed, ∃ lang, lang ∈ x.1.name := by
        intro x hx
        apply hnamed
        rw [hall, List.append_assoc]
        exact List.mem_append_left _ (List.mem_map_of_mem hx)
      have hlang : ∃ lang, lang ∈ intf.name := by
        apply hnamed
        rw [hall]
        exact List.mem_append_left _ (List.mem_append_right _ (List.mem_singleton_self intf))
      have hlast : intf ∈ placed.map Prod.fst ++ [intf] :=
        List.mem_append_right _ (List.mem_singleton_self intf)
      have hroom := hnow.strings
      rw [List.length_append, List.length_map] at hroom
      obtain ⟨s', hs'⟩ := hb.interface_of_fits hbefore hlang hnow.endpoints hroom
          (hnow.associations intf hlast)
      obtain ⟨nameIdx, count', hb'⟩ := hb.interface hs'
      refine ⟨s', ?_, _, count', List.map_append, hb'⟩
      rw [List.length_map]
      exact hs'
    obtain ⟨s, hs⟩ := hrun
    unfold CustomBuilder.ffsDescs
    rw [hs]
    exact ⟨_, rfl⟩

def modem : Association := ⟨0, ⟨2, 0, 0⟩, AList.singleton Language.default "modem"⟩

/-- A function whose first and third interface are in an association, and whose second one is
not. -/
def apart : CustomBuilder :=
  CustomBuilder.new
    |>.withInterface ((Interface.new ⟨2, 2, 0⟩ "data").withEndpoint (.bulk .hostToDevice 16)
      |>.withEndpoint (.bulk .deviceToHost 16) |>.withAssociation modem)
    |>.withInterface ((Interface.new ⟨0xff, 0, 0⟩ "other").withOsExtCompat .winusb)
    |>.withInterface ((Interface.new ⟨2, 2, 0⟩ "voice").withEndpoint (.bulk .deviceToHost 16)
      |>.withAssociation modem)

/-- Its interfaces need not be adjacent. -/
theorem ffs_descs_ok_apart : ∃ r, apart.ffsDescs = .ok r := by
  have hnamed : ∀ intf ∈ apart.interfaces, Language.default ∈ intf.name := by decide
  have hmodem : ∀ intf ∈ apart.interfaces, intf.association.all modem.eq = true := by decide
  refine (ffs_descs_ok_iff fun intf hintf => ⟨_, hnamed intf hintf⟩).2 ⟨by decide, by decide, ?_⟩
  intro intf hintf b hb
  have heq := hmodem intf hintf
  rw [hb] at heq
  exact ⟨modem, rfl, heq⟩

/-! ## Endpoints and their files -/

/-- The number of an endpoint and its direction can be read from its address. -/
theorem endpointAt_address (speed : Speed) (ep : Endpoint) {num : Nat} (h : num < 128) :
    (endpointAt speed (ep, num)).endpointAddress.toNat =
      num + if ep.direction = .deviceToHost then 128 else 0 := by
  have hin : ∀ n < 128, (UInt8.ofNat n ||| 0x80).toNat = n + 128 := by decide +kernel
  have hout : ∀ n < 128, (UInt8.ofNat n ||| 0x00).toNat = n + 0 := by decide +kernel
  unfold endpointAt Build.endpointDesc
  cases hdir : ep.direction with
  | deviceToHost =>
      rw [if_pos rfl]
      exact hin num h
  | hostToDevice =>
      rw [if_neg (by decide)]
      exact hout num h

theorem openEndpoints_eq_ok {files : Files} {eps : List Endpoint}
    {acc acc' : Nat × List (String × Endpoint)}
    (h : eps.foldlM (openEndpoint files) acc = .ok acc') :
    acc' = (acc.1 + eps.length, acc.2 ++ (eps.zipIdx (acc.1 + 1)).map fun x =>
      (epPath x.2, x.1)) := by
  induction eps generalizing acc with
  | nil =>
      cases h
      exact Prod.ext rfl (List.append_nil _).symm
  | cons ep eps ih =>
      rw [List.foldlM_cons] at h
      obtain ⟨next, hnext, hrest⟩ := bind_eq_ok.1 h
      obtain ⟨-, -, hnext⟩ := bind_eq_ok.1 hnext
      cases hnext
      rw [ih hrest]
      refine Prod.ext ?_ (List.append_assoc _ _ _)
      show acc.1 + 1 + eps.length = acc.1 + (eps.length + 1)
      omega

theorem openInterfaces_eq_ok {files : Files} {interfaces : List Interface}
    {acc acc' : Nat × List (String × Endpoint)}
    (h : interfaces.foldlM (fun acc intf => intf.endpoints.foldlM (openEndpoint files) acc)
      acc = .ok acc') :
    acc'.2 = acc.2 ++ ((endpointsOf interfaces).zipIdx (acc.1 + 1)).map fun x =>
      (epPath x.2, x.1) := by
  rw [← foldlM_flatMap] at h
  exact congrArg Prod.snd (openEndpoints_eq_ok h)

/-! ## Initialization -/

/-- An order in which tables are walked. -/
def IsWalk (walk : StringTable → List (Language × List String)) : Prop :=
  ∀ t : StringTable, (walk t).Perm (t.entries.map fun e => (e.1, e.2))

/-- How the descriptors and the strings of a function describe it. -/
structure Describes (b : CustomBuilder) (placed : List (Interface × UInt8)) (descs : Descs)
    (strings : List (Language × List String)) : Prop where
  /-- The interfaces are numbered by their positions. -/
  interfaces : placed.map Prod.fst = b.interfaces
  /-- The association of interface 0 is behind the rest, with the number of its interfaces. -/
  descrs : ∃ nameIdx, ∀ speed, descs.descrs speed =
    layout speed 0 0 placed ++ (firstAssociation b.interfaces).toList.map fun a =>
      .interfaceAssoc (assocDesc a (b.interfaces.filterMap Interface.association).length nameIdx)
  osDescrs : descs.osDescrs = b.interfaces.zipIdx.flatMap fun x =>
    Build.osDescs (UInt8.ofNat x.2) x.1
  /-- The endpoints are the same for all speeds, but for the sizes of packets. -/
  endpoints : ∀ speed, (descs.descrs speed).filterMap Desc.endpoint? =
    ((endpointsOf b.interfaces).zipIdx 1).map (endpointAt speed)
  addresses : ∀ x ∈ (endpointsOf b.interfaces).zipIdx 1, ∀ speed,
    (endpointAt speed x).endpointAddress.toNat = x.2 +
      if x.1.direction = .deviceToHost then 128 else 0
  /-- The index of a name leads to the name, in each language that it has. -/
  names : ∀ x ∈ placed, ∀ lang name, x.1.name.lookup lang = some name →
    ∃ strs, (lang, strs) ∈ strings ∧ 1 ≤ x.2.toNat ∧ strs[x.2.toNat - 1]? = some name

theorem describes_of_ffsDescs {b : CustomBuilder} {descs : Descs} {strings : StringTable}
    {walk : StringTable → List (Language × List String)} (hwalk : IsWalk walk)
    (h : b.ffsDescs = .ok (descs, strings)) :
    ∃ placed, Describes b placed descs (walk strings) := by
  obtain ⟨placed, count, s, hplaced, hb, rfl, hos, hdescs⟩ := ffsDescs_eq_ok h
  have hassociated := hb.associated
  rw [hplaced] at hassociated
  obtain ⟨nameIdx, hassocs⟩ := hassociated.assocs_eq
  refine ⟨placed, hplaced, ⟨nameIdx, ?_⟩, ?_, ?_, ?_, ?_⟩
  · intro speed
    rw [hdescs, hb.descrs, hassocs, List.map_map]
    rfl
  · rw [hos, hb.osDescrs, hplaced]
  · intro speed
    have hassoc : (s.assocs.map fun e => Desc.interfaceAssoc e.2).filterMap
        Desc.endpoint? = [] := by
      rw [List.filterMap_map]
      exact List.filterMap_eq_nil_iff.2 fun e _ => rfl
    rw [hdescs, hb.descrs, List.filterMap_append, filterMap_endpoint_layout, hassoc,
      List.append_nil, hplaced]
  · rintro ⟨ep, num⟩ hx speed
    have hfits := hb.fits
    rw [hb.endpointNum, hplaced] at hfits
    obtain ⟨-, hlt, -⟩ := List.mem_zipIdx hx
    exact endpointAt_address speed ep (by omega)
  · intro x hx lang name hname
    have hlang : lang ∈ x.1.name := AList.lookup_isSome.1 (Option.isSome_of_eq_some hname)
    have hshows := hb.named x hx ⟨lang, hlang⟩
    obtain ⟨strs, hstrs⟩ := Option.isSome_iff_exists.1
        (AList.lookup_isSome.2 (hshows.keys lang hlang))
    have hcell := hshows.cell lang strs hstrs
    rw [hname] at hcell
    refine ⟨strs, ?_, hshows.pos, hcell⟩
    have hentry : (⟨lang, strs⟩ : Sigma fun _ : Language => List String) ∈ s.strings.entries :=
      AList.mem_lookup_iff.1 hstrs
    exact (hwalk s.strings).mem_iff.2 (List.mem_map.2 ⟨_, hentry, rfl⟩)

theorem orIoError_eq_ok {α : Type} {x : Except DescError α} {a : α} :
    orIoError x = .ok a ↔ x = .ok a := by
  cases x with
  | error err => exact ⟨nofun, nofun⟩
  | ok a => exact ⟨fun h => by cases h; rfl, fun h => by cases h; rfl⟩

theorem writeMessage_eq_ok {files : Files} {before after : List Bytes} {data : Bytes}
    {short : String} (h : writeMessage files before data short = .ok after) :
    after = before ++ [data] := by
  obtain ⟨n, -, h⟩ := bind_eq_ok.1 h
  split at h
  · cases h
  · cases h
    rfl

/-- There are no strings in the table but those of the interfaces, and empty ones. -/
theorem forall_string {b : CustomBuilder} {descs : Descs} {strings : StringTable}
    (P : String → Prop) (hempty : P "")
    (hnames : ∀ intf ∈ b.interfaces, ∀ name ∈ intf.names, ∀ lang str,
      name.lookup lang = some str → P str)
    (h : b.ffsDescs = .ok (descs, strings)) :
    ∀ entry ∈ strings.entries, ∀ str ∈ entry.2, P str := by
  obtain ⟨placed, count, s, hplaced, hb, rfl, -, -⟩ := ffsDescs_eq_ok h
  have hall := hb.names.origin (fun _ => P) (fun _ => hempty) (by
    intro name hname
    rw [hplaced] at hname
    obtain ⟨intf, hintf, hmem⟩ := List.mem_flatMap.1 hname
    exact hnames intf hintf name hmem) (by
    intro lang column hcolumn
    rw [AList.lookup_empty] at hcolumn
    cases hcolumn)
  intro entry hentry str hstr
  exact hall entry.1 entry.2 (AList.mem_lookup_iff.2 hentry) str hstr

/-- What a function that was initialized has done. -/
theorem init_eq_ok {b : CustomBuilder} {linux : Option (Nat × Nat)}
    {walk : StringTable → List (Language × List String)} {files : Files} {done : Initialized}
    (h : b.init linux walk files = .ok done) :
    ∃ descs strings descsData strsData, b.ffsDescs = .ok (descs, strings) ∧
      descs.toBytes linux = .ok descsData ∧ stringsToBytes (walk strings) = .ok strsData ∧
      done.written = [descsData, strsData] ∧
      done.opened = ((endpointsOf b.interfaces).zipIdx 1).map fun x => (epPath x.2, x.1) := by
  obtain ⟨⟨descs, strings⟩, hdescs, h⟩ := bind_eq_ok.1 h
  obtain ⟨-, -, h⟩ := bind_eq_ok.1 h
  obtain ⟨descsData, hdescsData, h⟩ := bind_eq_ok.1 h
  obtain ⟨first, hfirst, h⟩ := bind_eq_ok.1 h
  obtain ⟨strsData, hstrsData, h⟩ := bind_eq_ok.1 h
  obtain ⟨written, hwritten, h⟩ := bind_eq_ok.1 h
  obtain ⟨opened, hopened, h⟩ := bind_eq_ok.1 h
  cases h
  have hwrote := writeMessage_eq_ok hwritten
  rw [writeMessage_eq_ok hfirst] at hwrote
  exact ⟨descs, strings, descsData, strsData, hdescs, orIoError_eq_ok.1 hdescsData,
    orIoError_eq_ok.1 hstrsData, hwrote, openInterfaces_eq_ok hopened⟩

/-- A function that was initialized has told FunctionFS what it is: the two messages are read as its
descriptors and its strings, and the files that its endpoints were handed have the numbers that the
descriptors say. -/
theorem init_describes {b : CustomBuilder} {linux : Option (Nat × Nat)}
    {walk : StringTable → List (Language × List String)} {files : Files} {done : Initialized}
    (hwalk : IsWalk walk)
    (hnul : ∀ intf ∈ b.interfaces, ∀ name ∈ intf.names, ∀ lang str, name.lookup lang = some str →
      (0 : UInt8) ∉ utf8Bytes str)
    (h : b.init linux walk files = .ok done) :
    ∃ descsData strsData descs strings placed,
      done.written = [descsData, strsData] ∧ readDescs descsData = some (descs.raw linux) ∧
      readStrings strsData = some (strings.map rawEntry) ∧ Describes b placed descs strings ∧
      done.opened = ((endpointsOf b.interfaces).zipIdx 1).map fun x => (epPath x.2, x.1) := by
  obtain ⟨descs, strings, descsData, strsData, hdescs, hdescsData, hstrsData, hwritten,
      hopened⟩ := init_eq_ok h
  obtain ⟨placed, hplaced⟩ := describes_of_ffsDescs hwalk hdescs
  refine ⟨descsData, strsData, descs, walk strings, placed, hwritten,
    readDescs_of_toBytes hdescsData, ?_, hplaced, hopened⟩
  refine readStrings_of_toBytes hstrsData ?_
  have hempty : (0 : UInt8) ∉ utf8Bytes "" := by
    rw [show utf8Bytes "" = [] from utf8Bytes_ofList []]
    exact List.not_mem_nil
  have hall := forall_string (fun str => (0 : UInt8) ∉ utf8Bytes str) hempty hnul hdescs
  intro entry hentry
  obtain ⟨e, he, rfl⟩ := List.mem_map.1 ((hwalk strings).mem_iff.1 hentry)
  exact hall e he

/-- Files that take all. -/
def willing : Files := ⟨.ok (), fun _ data => .ok data.length, fun _ _ => .ok ()⟩

theorem isWalk_entries : IsWalk fun t => t.entries.map fun e => (e.1, e.2) := fun _ => .refl _

theorem init_describes_apart : ∃ done,
    apart.init (some (6, 6)) (fun t => t.entries.map fun e => (e.1, e.2)) willing = .ok done ∧
      done.opened.map Prod.fst = ["ep1", "ep2", "ep3"] := by
  have hok : (apart.init (some (6, 6))
      (fun t => t.entries.map fun e => (e.1, e.2)) willing).isOk = true := by
    decide +kernel
  have hnul : ∀ intf ∈ apart.interfaces, ∀ name ∈ intf.names, ∀ e ∈ name.entries,
      (0 : UInt8) ∉ utf8Bytes e.2 := by
    decide +kernel
  cases hinit : apart.init (some (6, 6)) (fun t => t.entries.map fun e => (e.1, e.2)) willing with
  | error err =>
      rw [hinit] at hok
      cases hok
  | ok done =>
      obtain ⟨_, _, _, _, _, -, -, -, -, hopened⟩ := init_describes isWalk_entries
        (fun intf hintf name hname lang str hstr =>
          hnul intf hintf name hname ⟨lang, str⟩ (AList.mem_lookup_iff.1 hstr)) hinit
      refine ⟨done, rfl, ?_⟩
      rw [hopened]
      decide +kernel

end SummitUsbgadget.FunctionFs
