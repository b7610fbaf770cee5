import Mathlib.Data.List.Sublists
import SummitUsbgadget.Aio.Driver

/-!
# The thread's table

The thread may know an operation before the kernel has it, or learn of it after it is complete.
`Table` balances the two views: what the thread has or will be told of is what the kernel has, has
reported or has refused. From it, `Table.place_ne_panicked`: the thread finds no id twice and no id
missing, provided that ids do not come round. `Roster` says of the same ids where each of them
stands.
-/

set_option autoImplicit false

namespace SummitUsbgadget.Aio

open SummitUsbgadget.Lib

/-- The id that a command puts into the table. -/
def Cmd.inserts : Cmd → Option Nat
  | .insert op => some op.data
  | _ => none

/-- The id that a command takes out of the table without a completion. -/
def Cmd.removes : Cmd → Option Nat
  | .remove id => some id
  | _ => none

/-- The id of an operation that the thread was told of and the kernel does not have. -/
def Owner.held : Owner → Option Nat
  | .inserted op => some op.data
  | .refused id _ => some id
  | _ => none

@[simp] theorem held_idle : Owner.idle.held = none := rfl

@[simp] theorem held_inserted (op : Op) : (Owner.inserted op).held = some op.data := rfl

@[simp] theorem held_refused (id : Nat) (err : IoError) :
    (Owner.refused id err).held = some id := rfl

@[simp] theorem held_signalling (answer : Option (Except IoError Nat)) :
    (Owner.signalling answer).held = none := rfl

/-- The operation that the kernel is asked for next. -/
def Owner.offers : Owner → List Op
  | .inserted op => [op]
  | _ => []

namespace World

/-- How often the thread has an id or will be told of it. -/
def known (s : World) (k : Nat) : Nat :=
  tally Op.data k s.active + tally Cmd.inserts (some k) s.cmds

/-- How often an id is with the kernel, in an event that is not handled, or refused. -/
def live (s : World) (k : Nat) : Nat :=
  tally Op.data k s.outstanding + tally IoEvent.data k s.ring + tally IoEvent.data k s.eventQueue +
    tally Cmd.removes (some k) s.cmds + if s.owner.held = some k then 1 else 0

end World

/-- The thread's table agrees with the kernel. -/
structure Table (s : World) : Prop where
  balanced : ∀ k, s.known k = s.live k
  single : ∀ k, s.live k ≤ 1
  fresh : ∀ k, s.offered.length ≤ k → s.live k = 0
  /-- An id is not used again after a command that removes it. -/
  ordered : s.cmds.Pairwise fun a b => ∀ k, a.removes = some k → b.inserts ≠ some k
  next : s.nextId = s.offered.length % UInt64.size

theorem table_new (n : Nat) : Table (World.new n) where
  balanced _ := rfl
  single _ := Nat.zero_le 1
  fresh _ _ := rfl
  ordered := .nil
  next := rfl

namespace Table

variable {s : World}

/-- The id of the next operation is new. -/
theorem live_nextId (h : Table s) (hids : s.offered.length < UInt64.size) :
    s.nextId = s.offered.length ∧ s.live s.nextId = 0 := by
  have hnext : s.nextId = s.offered.length := by rw [h.next, Nat.mod_eq_of_lt hids]
  exact ⟨hnext, h.fresh _ (Nat.le_of_eq hnext.symm)⟩

/-- A command at the front of the queue that removes an id finds it in the table. -/
theorem known_of_remove (h : Table s) {id : Nat} {cmds : List Cmd}
    (hc : s.cmds = .remove id :: cmds) : 0 < tally Op.data id s.active := by
  have hbal := h.balanced id
  have hlater : tally Cmd.inserts (some id) cmds = 0 := by
    rw [tally_eq_zero_iff]
    intro cmd hcmd
    have hord := h.ordered
    rw [hc] at hord
    exact (List.pairwise_cons.1 hord).1 cmd hcmd id rfl
  simp only [World.known, World.live, hc, tally_cons, Cmd.inserts, Cmd.removes] at hbal
  simp only [hlater, reduceCtorEq, if_false, if_true] at hbal
  omega

/-- A command at the front of the queue that inserts an id does not find it in the table. -/
theorem unknown_of_insert (h : Table s) {op : Op} {cmds : List Cmd}
    (hc : s.cmds = .insert op :: cmds) : tally Op.data op.data s.active = 0 := by
  have hbal := h.balanced op.data
  have hone := h.single op.data
  rw [← hbal] at hone
  simp only [World.known, hc, tally_cons, Cmd.inserts, if_true] at hone
  omega

/-- The table has every operation of which an event is in the queue, unless its command is still
there. -/
theorem sent_of_unknown (h : Table s) {e : IoEvent} (he : e ∈ s.eventQueue)
    (hun : tally Op.data e.data s.active = 0) : s.cmds ≠ [] := by
  intro hnil
  have hbal := h.balanced e.data
  have hpos : 0 < tally IoEvent.data e.data s.eventQueue := tally_pos_iff.2 ⟨e, he, rfl⟩
  simp only [World.known, World.live, hnil, tally_nil, hun] at hbal
  omega

/-- The table stays in balance if the same ids leave both sides. -/
theorem of_moved (h : Table s) {t : World} (gone : Nat → Nat)
    (hknown : ∀ k, t.known k + gone k = s.known k) (hlive : ∀ k, t.live k + gone k = s.live k)
    (hoffered : t.offered = s.offered) (hnext : t.nextId = s.nextId)
    (hord : t.cmds.Pairwise fun a b => ∀ k, a.removes = some k → b.inserts ≠ some k) : Table t where
  balanced k := by
    have hs := h.balanced k
    have hk := hknown k
    have hl := hlive k
    omega
  single k := by
    have hs := h.single k
    have hl := hlive k
    omega
  fresh k hk := by
    have hs := h.fresh k (hoffered ▸ hk)
    have hl := hlive k
    omega
  ordered := hord
  next := by rw [hnext, hoffered, h.next]

/-- The table stays in balance if a new id is added to both sides. -/
theorem of_added (h : Table s) {t : World} {id : Nat} (hid : id = s.offered.length)
    (hnew : s.live id = 0) (hknown : ∀ k, t.known k = s.known k + if id = k then 1 else 0)
    (hlive : ∀ k, t.live k = s.live k + if id = k then 1 else 0)
    (hoffered : t.offered.length = s.offered.length + 1)
    (hnext : t.nextId = (s.offered.length + 1) % UInt64.size)
    (hord : t.cmds.Pairwise fun a b => ∀ k, a.removes = some k → b.inserts ≠ some k) : Table t where
  balanced k := by rw [hknown, hlive, h.balanced]
  single k := by
    rw [hlive]
    split
    · next he => rw [← he, hnew]
    · exact h.single k
  fresh k hk := by
    rw [hoffered] at hk
    rw [hlive, h.fresh k (Nat.le_of_succ_le hk), if_neg (by omega)]
  ordered := hord
  next := by rw [hnext, hoffered]

/-- A command that inserts nothing may be appended. -/
theorem ordered_concat (h : Table s) {cmd : Cmd} (hcmd : cmd.inserts = none) :
    (s.cmds ++ [cmd]).Pairwise fun a b => ∀ k, a.removes = some k → b.inserts ≠ some k := by
  refine List.pairwise_append.2 ⟨h.ordered, List.pairwise_singleton .., ?_⟩
  intro a _ b hb k _
  rw [List.mem_singleton.1 hb, hcmd]
  exact nofun

theorem ordered_tail (h : Table s) {cmd : Cmd} {cmds : List Cmd} (hc : s.cmds = cmd :: cmds) :
    cmds.Pairwise fun a b => ∀ k, a.removes = some k → b.inserts ≠ some k := by
  have hord := h.ordered
  rw [hc] at hord
  exact (List.pairwise_cons.1 hord).2

/-! ### The owner -/

theorem submit (h : Table s) (howner : s.owner = .idle) (opcode fildes : Nat) (buf : Buffer)
    (hids : (s.submit opcode fildes buf).offered.length ≤ UInt64.size) :
    Table (s.submit opcode fildes buf) := by
  unfold World.submit at hids ⊢
  split at hids
  · next hfull =>
      rw [if_pos hfull]
      exact ⟨h.balanced, h.single, h.fresh, h.ordered, h.next⟩
  · next hfull =>
      rw [if_neg hfull]
      have hlt : s.offered.length < UInt64.size := by
        rw [List.length_append] at hids
        exact hids
      obtain ⟨hnext, hzero⟩ := h.live_nextId hlt
      refine h.of_added hnext hzero (fun k => ?_) (fun k => ?_) ?_ ?_ ?_
      · simp only [World.known, tally_append, tally_cons, tally_nil, Cmd.inserts, Option.some.injEq]
        omega
      · simp [World.live, howner, Cmd.removes]
      · rw [List.length_append, List.length_singleton]
      · rw [hnext]
      · refine List.pairwise_append.2 ⟨h.ordered, List.pairwise_singleton .., ?_⟩
        intro a ha b hb k hk hins
        obtain rfl := List.mem_singleton.1 hb
        obtain rfl : s.nextId = k := Option.some.inj hins
        have hpos : 0 < tally Cmd.removes (some s.nextId) s.cmds := tally_pos_iff.2 ⟨a, ha, hk⟩
        unfold World.live at hzero
        omega

theorem ioSubmit (h : Table s) {op : Op} (howner : s.owner = .inserted op)
    (answer : Except IoError Nat) : Table (s.ioSubmit op answer) := by
  -- a refused operation stays with the owner
  have hrefused : ∀ err, Table { s with owner := .refused op.data err } := by
    intro err
    refine h.of_moved (fun _ => 0) (fun _ => rfl) (fun k => ?_) rfl rfl h.ordered
    simp [World.live, howner]
  unfold World.ioSubmit
  split
  · refine h.of_moved (fun _ => 0) (fun _ => rfl) (fun k => ?_) rfl rfl h.ordered
    simp only [World.live, howner, held_inserted, held_signalling, tally_append,
      tally_cons, tally_nil, Option.some.injEq, reduceCtorEq, if_false]
    omega
  · exact hrefused _
  · exact hrefused _

theorem sendRemove (h : Table s) {id : Nat} {err : IoError} (howner : s.owner = .refused id err) :
    Table (s.sendRemove id err) := by
  refine h.of_moved (fun _ => 0) (fun k => ?_) (fun k => ?_) rfl rfl (h.ordered_concat rfl)
  · simp [World.known, World.sendRemove, Cmd.inserts]
  · simp only [World.live, World.sendRemove, howner, held_refused, held_signalling, tally_append,
      tally_cons, tally_nil, Cmd.removes, Option.some.injEq, reduceCtorEq, if_false]
    omega

/-- An owner that holds no operation may go on and may send a command that concerns no operation. -/
theorem command_sent (h : Table s) (cmd : Cmd) {t : World} (hs : s.owner.held = none)
    (ht : t.owner.held = none) (hins : cmd.inserts = none) (hrem : cmd.removes = none)
    (hknown : t.active = s.active ∧ t.cmds = s.cmds ++ [cmd])
    (hlive : t.outstanding = s.outstanding ∧ t.ring = s.ring ∧ t.eventQueue = s.eventQueue)
    (hoffered : t.offered = s.offered) (hnext : t.nextId = s.nextId) : Table t := by
  refine h.of_moved (fun _ => 0) (fun k => ?_) (fun k => ?_) hoffered hnext ?_
  · simp [World.known, hknown, hins]
  · simp [World.live, hknown, hlive, hs, ht, hrem]
  · rw [hknown.2]
    exact h.ordered_concat hins

/-- Nothing that the table is about has changed. -/
theorem same (h : Table s) {t : World} (hheld : t.owner.held = s.owner.held)
    (hknown : t.active = s.active ∧ t.cmds = s.cmds)
    (hlive : t.outstanding = s.outstanding ∧ t.ring = s.ring ∧ t.eventQueue = s.eventQueue)
    (hoffered : t.offered = s.offered) (hnext : t.nextId = s.nextId) : Table t := by
  refine h.of_moved (fun _ => 0) (fun k => ?_) (fun k => ?_) hoffered hnext ?_
  · simp [World.known, hknown]
  · simp [World.live, hknown, hlive, hheld]
  · rw [hknown.2]
    exact h.ordered

/-! ### The thread and the kernel -/

/-- A completion that is sent does not touch the table. -/
theorem finish (h : Table s) (op : Op) (e : IoEvent) : Table (s.finish op e) := by
  unfold World.finish
  split
  · exact h.same rfl ⟨rfl, rfl⟩ ⟨rfl, rfl, rfl⟩ rfl rfl
  · exact h.same rfl ⟨rfl, rfl⟩ ⟨rfl, rfl, rfl⟩ rfl rfl

theorem cancelOne (h : Table s) (id : Nat) (answer : Option Report) :
    Table (s.cancelOne id answer) := by
  unfold World.cancelOne
  split
  · next op active taken outstanding r hactive hout =>
      split
      · refine finish ?_ op _
        refine h.of_moved (fun k => if id = k then 1 else 0) (fun k => ?_) (fun k => ?_) rfl rfl
          h.ordered
        · simp only [World.known, tally_pull hactive k]
          omega
        · simp only [World.live, tally_pull hout k]
          omega
      · exact h
  · exact h

theorem command (h : Table s) (answer : Option Report) : Table (s.command answer) := by
  unfold World.command
  split
  · split
    · exact h.same rfl ⟨rfl, rfl⟩ ⟨rfl, rfl, rfl⟩ rfl rfl
    · exact h.same rfl ⟨rfl, rfl⟩ ⟨rfl, rfl, rfl⟩ rfl rfl
  · next op cmds hc =>
      split
      · next r hpull =>
          have hnone := pull_eq_none_iff.2 (h.unknown_of_insert hc)
          rw [hpull] at hnone
          cases hnone
      · refine h.of_moved (fun _ => 0) (fun k => ?_) (fun k => ?_) rfl rfl (h.ordered_tail hc)
        · simp only [World.known, hc, tally_cons, Cmd.inserts, Option.some.injEq]
          omega
        · simp [World.live, hc, Cmd.removes]
  · next id cmds hc =>
      split
      · next op active hpull =>
          refine h.of_moved (fun k => if id = k then 1 else 0) (fun k => ?_) (fun k => ?_) rfl rfl
            (h.ordered_tail hc)
          · simp [World.known, hc, Cmd.inserts, tally_pull hpull k]
            omega
          · simp only [World.live, hc, tally_cons, Cmd.removes, Option.some.injEq]
            omega
      · next hpull =>
          have hpos := h.known_of_remove hc
          rw [pull_eq_none_iff.1 hpull] at hpos
          cases hpos
  · next id cmds hc =>
      refine cancelOne ?_ id answer
      refine h.of_moved (fun _ => 0) (fun k => ?_) (fun k => ?_) rfl rfl (h.ordered_tail hc)
      · simp [World.known, hc, Cmd.inserts]
      · simp [World.live, hc, Cmd.removes]
  · next cmds hc =>
      refine h.of_moved (fun _ => 0) (fun k => ?_) (fun k => ?_) rfl rfl (h.ordered_tail hc)
      · simp [World.known, hc, Cmd.inserts]
      · simp [World.live, hc, Cmd.removes]

theorem getevents (h : Table s) : Table s.getevents := by
  unfold World.getevents
  split
  · exact h.same rfl ⟨rfl, rfl⟩ ⟨rfl, rfl, rfl⟩ rfl rfl
  · refine h.of_moved (fun _ => 0) (fun _ => rfl) (fun k => ?_) rfl rfl h.ordered
    have hsplit := tally_take_drop IoEvent.data k 16 s.ring
    simp only [World.live, tally_append]
    omega

theorem event (h : Table s) : Table s.event := by
  unfold World.event
  split
  · exact h.same rfl ⟨rfl, rfl⟩ ⟨rfl, rfl, rfl⟩ rfl rfl
  · next e rest heq =>
      split
      · exact h.same rfl ⟨rfl, rfl⟩ ⟨rfl, rfl, rfl⟩ rfl rfl
      · next op active hpull =>
          refine finish ?_ op e
          refine h.of_moved (fun k => if e.data = k then 1 else 0) (fun k => ?_)
            (fun k => ?_) rfl rfl
            h.ordered
          · simp only [World.known, tally_pull hpull k]
            omega
          · simp only [World.live, heq, tally_cons]
            omega

theorem complete (h : Table s) (id : Nat) (r : Report) : Table (s.complete id r) := by
  unfold World.complete
  split
  · next op outstanding hout =>
      split
      · refine h.of_moved (fun _ => 0) (fun _ => rfl) (fun k => ?_) rfl rfl h.ordered
        simp only [World.live, tally_pull hout k, tally_append, tally_cons, tally_nil]
        omega
      · exact h
  · exact h

theorem cancelNext (h : Table s) (id : Nat) (answer : Option Report) (todo : List Nat) :
    Table (s.cancelNext id answer todo) := by
  unfold World.cancelNext
  split
  · have hplace : Table { s with place := .cancelling (todo.erase id) } :=
      h.same rfl ⟨rfl, rfl⟩ ⟨rfl, rfl, rfl⟩ rfl rfl
    exact hplace.cancelOne id answer
  · exact h

/-- Every action keeps the table in balance. -/
theorem moves (h : Table s) {t : World} (hm : Moves s t) (hids : t.offered.length ≤ UInt64.size) :
    Table t := by
  cases hm with
  | stay => exact h
  | submit opcode fildes buf howner => exact h.submit howner opcode fildes buf hids
  | ioSubmit op answer howner => exact h.ioSubmit howner answer
  | sendRemove id err howner => exact h.sendRemove howner
  | cancel id howner =>
      exact h.command_sent (.cancel id) (by rw [howner]; rfl) rfl rfl rfl ⟨rfl, rfl⟩
        ⟨rfl, rfl, rfl⟩ rfl rfl
  | cancelAll howner =>
      exact h.command_sent (.cancelAll) (by rw [howner]; rfl) rfl rfl rfl ⟨rfl, rfl⟩
        ⟨rfl, rfl, rfl⟩ rfl rfl
  | drop howner =>
      exact h.command_sent (.cancelAll) (by rw [howner]; rfl) rfl rfl rfl ⟨rfl, rfl⟩
        ⟨rfl, rfl, rfl⟩ rfl rfl
  | receive c rest howner hdone =>
      refine h.same ?_ ⟨rfl, rfl⟩ ⟨rfl, rfl, rfl⟩ rfl rfl
      rcases howner with howner | howner
      · rw [howner]; rfl
      · rw [howner]; rfl
  | signal answer howner => exact h.same (by rw [howner]; rfl) ⟨rfl, rfl⟩ ⟨rfl, rfl, rfl⟩ rfl rfl
  | waitCompleted howner => exact h.same (by rw [howner]; rfl) ⟨rfl, rfl⟩ ⟨rfl, rfl, rfl⟩ rfl rfl
  | park howner => exact h.same (by rw [howner]; rfl) ⟨rfl, rfl⟩ ⟨rfl, rfl, rfl⟩ rfl rfl
  | notified howner => exact h.same (by rw [howner]; rfl) ⟨rfl, rfl⟩ ⟨rfl, rfl, rfl⟩ rfl rfl
  | abandon howner => exact h.same (by rw [howner]; rfl) ⟨rfl, rfl⟩ ⟨rfl, rfl, rfl⟩ rfl rfl
  | dropSignal howner => exact h.same (by rw [howner]; rfl) ⟨rfl, rfl⟩ ⟨rfl, rfl, rfl⟩ rfl rfl
  | close howner => exact h.same (by rw [howner]; rfl) ⟨rfl, rfl⟩ ⟨rfl, rfl, rfl⟩ rfl rfl
  | wake | cancelEnd | notify | signalled => exact h.same rfl ⟨rfl, rfl⟩ ⟨rfl, rfl, rfl⟩ rfl rfl
  | command answer => exact h.command answer
  | cancelNext id answer todo => exact h.cancelNext id answer todo
  | getevents => exact h.getevents
  | event => exact h.event
  | complete id r => exact h.complete id r

end Table

/-! ## The thread does not panic -/

namespace World

variable {s : World}

theorem place_finish {op : Op} {e : IoEvent} (h : e.data = op.data) :
    (s.finish op e).place = s.place := by
  have hc : op.complete e ≠ none := by
    unfold Op.complete
    rw [if_pos h]
    exact nofun
  unfold finish
  split
  · rfl
  · next hnone => exact absurd hnone hc

theorem place_cancelOne (id : Nat) (answer : Option Report) :
    (s.cancelOne id answer).place = s.place := by
  unfold cancelOne
  split
  · next op active taken outstanding r hactive hout =>
      split
      · exact place_finish (pull_eq_some hactive).1.symm
      · rfl
  · rfl

end World

/-- The thread's loop does not panic: an id that is inserted is not there, one that is removed is,
and a completion is made of an operation and its own event. -/
theorem Table.place_ne_panicked {s t : World} (h : Table s) (hm : Moves s t)
    (hplace : s.place ≠ .panicked) : t.place ≠ .panicked := by
  cases hm with
  | submit opcode fildes buf =>
      unfold World.submit
      split
      · exact hplace
      · exact hplace
  | ioSubmit op answer =>
      unfold World.ioSubmit
      split
      · exact hplace
      · exact hplace
      · exact hplace
  | command answer hat =>
      unfold World.command
      split
      · split
        · exact nofun
        · exact nofun
      · next op cmds hc =>
          rw [pull_eq_none_iff.2 (h.unknown_of_insert hc)]
          exact hplace
      · next id cmds hc =>
          split
          · exact hplace
          · next hpull =>
              have hpos := h.known_of_remove hc
              rw [pull_eq_none_iff.1 hpull] at hpos
              cases hpos
      · rw [World.place_cancelOne]
        exact hplace
      · exact nofun
  | cancelNext id answer todo =>
      unfold World.cancelNext
      split
      · rw [World.place_cancelOne]
        exact nofun
      · exact hplace
  | getevents =>
      unfold World.getevents
      split
      · exact nofun
      · exact hplace
  | event =>
      unfold World.event
      split
      · exact nofun
      · split
        · exact nofun
        · next op active hpull =>
            rw [World.place_finish (pull_eq_some hpull).1.symm]
            exact hplace
  | complete id r =>
      unfold World.complete
      split
      · split
        · exact hplace
        · exact hplace
      · exact hplace
  | wake | cancelEnd => exact nofun
  | stay | sendRemove | cancel | cancelAll | signal | receive | waitCompleted | park | notified
  | abandon | drop | dropSignal | close | notify | signalled => exact hplace

/-! ## Operations and their numbers -/

/-- The operations are numbered in the order in which they are offered, and those that are somewhere
are those that were offered. -/
structure Roster (s : World) : Prop where
  ids : s.offered.map Op.data = List.range s.offered.length
  offers : (s.accepted ++ s.owner.offers).Sublist s.offered
  table : s.active ⊆ s.offered
  sent : ∀ op, Cmd.insert op ∈ s.cmds → op ∈ s.offered
  taken : s.outstanding ⊆ s.accepted

theorem roster_new (n : Nat) : Roster (World.new n) where
  ids := rfl
  offers := List.Sublist.refl _
  table := List.Subset.refl _
  sent _ := nofun
  taken := List.Subset.refl _

namespace Roster

variable {s : World}

theorem accepted_sublist (h : Roster s) : s.accepted.Sublist s.offered :=
  (List.sublist_append_left ..).trans h.offers

/-- An operation is known by its number. -/
theorem eq_of_data (h : Roster s) {a b : Op} (ha : a ∈ s.offered) (hb : b ∈ s.offered)
    (he : a.data = b.data) : a = b := by
  have hnodup : (s.offered.map Op.data).Nodup := h.ids ▸ List.nodup_range
  exact List.inj_on_of_nodup_map hnodup ha hb he

theorem unique (h : Roster s) (k : Nat) : tally Op.data k s.accepted ≤ 1 := by
  have hnodup : (s.offered.map Op.data).Nodup := h.ids ▸ List.nodup_range
  exact List.nodup_iff_count_le_one.1 (hnodup.sublist (h.accepted_sublist.map _)) k

/-- An owner that offers nothing may go on. -/
theorem owner_moved (h : Roster s) (o : Owner) (hs : s.owner.offers = []) (ht : o.offers = []) :
    Roster { s with owner := o } where
  ids := h.ids
  offers := by
    have hoffers := h.offers
    rw [hs] at hoffers
    show (s.accepted ++ o.offers).Sublist s.offered
    rw [ht]
    exact hoffers
  table := h.table
  sent := h.sent
  taken := h.taken

/-- An operation that the kernel does not get is offered no more. -/
theorem refused (h : Roster s) (id : Nat) (err : IoError) :
    Roster { s with owner := .refused id err } where
  ids := h.ids
  offers := by
    show (s.accepted ++ []).Sublist s.offered
    rw [List.append_nil]
    exact h.accepted_sublist
  table := h.table
  sent := h.sent
  taken := h.taken

/-- A command that inserts nothing may be sent. -/
theorem command_sent (h : Roster s) (cmd : Cmd) (hcmd : cmd.inserts = none) :
    Roster { s with cmds := s.cmds ++ [cmd] } where
  ids := h.ids
  offers := h.offers
  table := h.table
  sent op hop := by
    rcases List.mem_append.1 hop with hop | hop
    · exact h.sent op hop
    · rw [← List.mem_singleton.1 hop] at hcmd
      cases hcmd
  taken := h.taken

/-- Operations and commands may be taken away. -/
theorem shrink (h : Roster s) {active outstanding : List Op} {cmds : List Cmd}
    (hactive : active ⊆ s.active) (hout : outstanding ⊆ s.outstanding) (hcmds : cmds ⊆ s.cmds) :
    Roster { s with active := active, outstanding := outstanding, cmds := cmds } where
  ids := h.ids
  offers := h.offers
  table := fun _ hop => h.table (hactive hop)
  sent op hop := h.sent op (hcmds hop)
  taken := fun _ hop => h.taken (hout hop)

theorem submit (h : Roster s) (htable : Table s) (opcode fildes : Nat) (buf : Buffer)
    (hids : (s.submit opcode fildes buf).offered.length ≤ UInt64.size) :
    Roster (s.submit opcode fildes buf) := by
  unfold World.submit at hids ⊢
  split at hids
  · next hfull =>
      rw [if_pos hfull]
      exact ⟨h.ids, h.offers, h.table, h.sent, h.taken⟩
  · next hfull =>
      rw [if_neg hfull]
      have hlt : s.offered.length < UInt64.size := by
        rw [List.length_append] at hids
        exact hids
      have hnext := (htable.live_nextId hlt).1
      refine ⟨?_, ?_, ?_, ?_, h.taken⟩
      · rw [List.map_append, h.ids, List.length_append, List.length_singleton, List.range_succ]
        exact congrArg (List.range s.offered.length ++ [·]) hnext
      · exact h.accepted_sublist.append (List.Sublist.refl _)
      · exact fun op hop => List.mem_append_left _ (h.table hop)
      · intro op hop
        rcases List.mem_append.1 hop with hop | hop
        · exact List.mem_append_left _ (h.sent op hop)
        · cases List.mem_singleton.1 hop
          exact List.mem_append_right _ (List.mem_singleton_self _)

theorem ioSubmit (h : Roster s) {op : Op} (howner : s.owner = .inserted op)
    (answer : Except IoError Nat) : Roster (s.ioSubmit op answer) := by
  unfold World.ioSubmit
  split
  · refine ⟨h.ids, ?_, h.table, h.sent, ?_⟩
    · have hoffers := h.offers
      rw [howner] at hoffers
      show (s.accepted ++ [op] ++ []).Sublist s.offered
      rw [List.append_nil]
      exact hoffers
    · exact List.append_subset.2 ⟨fun _ hop => List.mem_append_left _ (h.taken hop),
        List.subset_append_right ..⟩
  · exact h.refused ..
  · exact h.refused ..

theorem finish (h : Roster s) (op : Op) (e : IoEvent) : Roster (s.finish op e) := by
  unfold World.finish
  split
  · exact ⟨h.ids, h.offers, h.table, h.sent, h.taken⟩
  · exact ⟨h.ids, h.offers, h.table, h.sent, h.taken⟩

theorem cancelOne (h : Roster s) (id : Nat) (answer : Option Report) :
    Roster (s.cancelOne id answer) := by
  unfold World.cancelOne
  split
  · next op active taken outstanding r hactive hout =>
      split
      · apply finish
        have hless := h.shrink (subset_of_pull hactive) (subset_of_pull hout) (List.Subset.refl _)
        exact ⟨hless.ids, hless.offers, hless.table, hless.sent, hless.taken⟩
      · exact h
  · exact h

theorem command (h : Roster s) (answer : Option Report) : Roster (s.command answer) := by
  -- a command that was carried out is gone from the queue
  have htail : ∀ {cmd : Cmd} {cmds : List Cmd}, s.cmds = cmd :: cmds → cmds ⊆ s.cmds := by
    intro cmd cmds hc
    rw [hc]
    exact List.subset_cons_self ..
  have hrest : ∀ {cmd : Cmd} {cmds : List Cmd}, s.cmds = cmd :: cmds →
      Roster { s with cmds := cmds } := fun hc =>
    h.shrink (List.Subset.refl _) (List.Subset.refl _) (htail hc)
  unfold World.command
  split
  · split
    · exact ⟨h.ids, h.offers, h.table, h.sent, h.taken⟩
    · exact ⟨h.ids, h.offers, h.table, h.sent, h.taken⟩
  · next op cmds hc =>
      have hless := hrest hc
      split
      · exact ⟨hless.ids, hless.offers, hless.table, hless.sent, hless.taken⟩
      · refine ⟨hless.ids, hless.offers, ?_, hless.sent, hless.taken⟩
        exact List.cons_subset.2 ⟨h.sent op (hc ▸ List.mem_cons_self ..), h.table⟩
  · next id cmds hc =>
      split
      · next op active hpull =>
          exact h.shrink (subset_of_pull hpull) (List.Subset.refl _) (htail hc)
      · have hless := hrest hc
        exact ⟨hless.ids, hless.offers, hless.table, hless.sent, hless.taken⟩
  · next id cmds hc => exact (hrest hc).cancelOne id answer
  · next cmds hc =>
      have hless := hrest hc
      exact ⟨hless.ids, hless.offers, hless.table, hless.sent, hless.taken⟩

theorem event (h : Roster s) : Roster s.event := by
  unfold World.event
  split
  · exact ⟨h.ids, h.offers, h.table, h.sent, h.taken⟩
  · split
    · exact ⟨h.ids, h.offers, h.table, h.sent, h.taken⟩
    · next op active hpull =>
        apply finish
        have hless := h.shrink (subset_of_pull hpull) (List.Subset.refl _) (List.Subset.refl _)
        exact ⟨hless.ids, hless.offers, hless.table, hless.sent, hless.taken⟩

theorem moves (h : Roster s) (htable : Table s) {t : World} (hm : Moves s t)
    (hids : t.offered.length ≤ UInt64.size) : Roster t := by
  cases hm with
  | stay => exact h
  | submit opcode fildes buf howner => exact h.submit htable opcode fildes buf hids
  | ioSubmit op answer howner => exact h.ioSubmit howner answer
  | sendRemove id err howner =>
      exact (h.command_sent _ rfl).owner_moved _ (by rw [howner]; rfl) rfl
  | cancel id howner => exact (h.command_sent _ rfl).owner_moved _ (by rw [howner]; rfl) rfl
  | cancelAll howner => exact (h.command_sent _ rfl).owner_moved _ (by rw [howner]; rfl) rfl
  | drop howner => exact (h.command_sent _ rfl).owner_moved _ (by rw [howner]; rfl) rfl
  | signal answer howner =>
      have hmoved := h.owner_moved .idle (by rw [howner]; rfl) rfl
      exact ⟨hmoved.ids, hmoved.offers, hmoved.table, hmoved.sent, hmoved.taken⟩
  | receive c rest howner hdone =>
      have hs : s.owner.offers = [] := by
        rcases howner with howner | howner
        · rw [howner]; rfl
        · rw [howner]; rfl
      have hmoved := h.owner_moved .idle hs rfl
      exact ⟨hmoved.ids, hmoved.offers, hmoved.table, hmoved.sent, hmoved.taken⟩
  | waitCompleted howner => exact h.owner_moved _ (by rw [howner]; rfl) rfl
  | park howner => exact h.owner_moved _ (by rw [howner]; rfl) rfl
  | notified howner =>
      have hmoved := h.owner_moved .polling (by rw [howner]; rfl) rfl
      exact ⟨hmoved.ids, hmoved.offers, hmoved.table, hmoved.sent, hmoved.taken⟩
  | abandon howner => exact h.owner_moved _ (by rw [howner]; rfl) rfl
  | dropSignal howner =>
      have hmoved := h.owner_moved .closing (by rw [howner]; rfl) rfl
      exact ⟨hmoved.ids, hmoved.offers, hmoved.table, hmoved.sent, hmoved.taken⟩
  | close howner =>
      have hmoved := h.owner_moved .gone (by rw [howner]; rfl) rfl
      exact ⟨hmoved.ids, hmoved.offers, hmoved.table, hmoved.sent, hmoved.taken⟩
  | wake | cancelEnd | notify | signalled => exact ⟨h.ids, h.offers, h.table, h.sent, h.taken⟩
  | command answer => exact h.command answer
  | cancelNext id answer todo =>
      unfold World.cancelNext
      split
      · have hplace : Roster { s with place := .cancelling (todo.erase id) } :=
          ⟨h.ids, h.offers, h.table, h.sent, h.taken⟩
        exact hplace.cancelOne id answer
      · exact h
  | getevents =>
      unfold World.getevents
      split
      · exact ⟨h.ids, h.offers, h.table, h.sent, h.taken⟩
      · exact ⟨h.ids, h.offers, h.table, h.sent, h.taken⟩
  | event => exact h.event
  | complete id r =>
      unfold World.complete
      split
      · next op outstanding hout =>
          split
          · have hless := h.shrink (List.Subset.refl _) (subset_of_pull hout) (List.Subset.refl _)
            exact ⟨hless.ids, hless.offers, hless.table, hless.sent, hless.taken⟩
          · exact h
      · exact h

end Roster

end SummitUsbgadget.Aio
