import SummitUsbgadget.Aio.Books

/-!
# Every operation completes once

What the kernel accepted is with it, in an event on the way, or in a completion that was sent:
`Accounts` keeps the sums. Completions that came through the ring keep its order, the owner receives
them in the order in which they were sent, and the free places of the queue are those that no
operation takes.
-/

set_option autoImplicit false

namespace SummitUsbgadget.Aio

open SummitUsbgadget.Lib

/-- The completion is that of an accepted operation, with a report that the kernel can give of
it. -/
def Genuine (accepted : List Op) (c : CompletedOp) : Prop :=
  ∃ op ∈ accepted, ∃ r, op.fits r = true ∧ op.complete ⟨op.data, r⟩ = some c

/-- The event is that of an accepted operation. -/
def Reported (accepted : List Op) (e : IoEvent) : Prop :=
  ∃ op ∈ accepted, op.data = e.data ∧ op.fits e.report = true

theorem Genuine.mono {accepted accepted' : List Op} {c : CompletedOp} (hsub : accepted ⊆ accepted')
    (h : Genuine accepted c) : Genuine accepted' c := by
  obtain ⟨op, hop, r, hfits, hc⟩ := h
  exact ⟨op, hsub hop, r, hfits, hc⟩

/-- An operation and its own event give a completion. -/
theorem complete_of_data (op : Op) (e : IoEvent) (h : e.data = op.data) :
    ∃ c, op.complete e = some c := by
  unfold Op.complete
  rw [if_pos h]
  exact ⟨_, rfl⟩

theorem World.finish_eq_send {s : World} {op : Op} {e : IoEvent} {c : CompletedOp}
    (h : op.complete e = some c) : s.finish op e = s.send c := by
  unfold World.finish
  rw [h]

theorem id_of_complete {op : Op} {e : IoEvent} {c : CompletedOp} (h : op.complete e = some c) :
    c.id = e.data := by
  unfold Op.complete at h
  split at h
  · cases h
    rfl
  · cases h

/-- Where the accepted operations are. -/
structure Accounts (s : World) : Prop where
  places : ∀ k, tally Op.data k s.accepted =
    tally Op.data k s.outstanding + tally IoEvent.data k s.ring +
      tally IoEvent.data k s.eventQueue +
      tally CompletedOp.id k s.delivered
  events : ∀ e ∈ s.posted, Reported s.accepted e
  genuine : ∀ c ∈ s.delivered, Genuine s.accepted c
  queued : s.harvested ++ s.eventQueue ++ s.ring = s.posted
  ended : ∀ k ∈ s.cancelled, 0 < tally CompletedOp.id k s.delivered
  order : (s.delivered.filter fun c => c.id ∉ s.cancelled).map CompletedOp.id =
    s.harvested.map IoEvent.data

theorem accounts_new (n : Nat) : Accounts (World.new n) where
  places _ := rfl
  events _ := nofun
  genuine _ := nofun
  queued := rfl
  ended _ := nofun
  order := rfl

namespace Accounts

variable {s : World}

/-- The kernel accepts an operation. -/
theorem accept (h : Accounts s) (op : Op) :
    Accounts { s with outstanding := s.outstanding ++ [op], accepted := s.accepted ++ [op] } where
  places k := by
    have hk := h.places k
    simp only [tally_append, tally_cons, tally_nil]
    omega
  events e he := by
    obtain ⟨o, ho, hdata, hfits⟩ := h.events e he
    exact ⟨o, List.mem_append_left _ ho, hdata, hfits⟩
  genuine c hc := (h.genuine c hc).mono (List.subset_append_left ..)
  queued := h.queued
  ended := h.ended
  order := h.order

/-- A completion of an accepted operation is sent. What leaves one of the lists, `gone`, is its
id. -/
theorem deliver (h : Accounts s) {t : World} {c : CompletedOp} (haccepted : t.accepted = s.accepted)
    (hdelivered : t.delivered = s.delivered ++ [c]) (hposted : t.posted = s.posted)
    (hgenuine : Genuine s.accepted c)
    (hgone : ∀ k, tally Op.data k s.outstanding + tally IoEvent.data k s.ring +
        tally IoEvent.data k s.eventQueue =
      tally Op.data k t.outstanding + tally IoEvent.data k t.ring +
        tally IoEvent.data k t.eventQueue +
        if c.id = k then 1 else 0)
    (hqueued : t.harvested ++ t.eventQueue ++ t.ring = t.posted)
    (hended : t.cancelled ⊆ s.cancelled ++ [c.id])
    (horder : (t.delivered.filter fun c => c.id ∉ t.cancelled).map CompletedOp.id =
      t.harvested.map IoEvent.data) : Accounts t where
  places k := by
    have hk := h.places k
    have hg := hgone k
    rw [haccepted, hdelivered, tally_append, tally_cons, tally_nil]
    omega
  events e he := by
    rw [hposted] at he
    rw [haccepted]
    exact h.events e he
  genuine d hd := by
    rw [haccepted]
    rw [hdelivered] at hd
    rcases List.mem_append.1 hd with hd | hd
    · exact h.genuine d hd
    · rw [List.mem_singleton.1 hd]
      exact hgenuine
  queued := hqueued
  ended k hk := by
    rw [hdelivered, tally_append, tally_cons, tally_nil]
    rcases List.mem_append.1 (hended hk) with hk | hk
    · exact Nat.add_pos_left (h.ended k hk) _
    · rw [List.mem_singleton.1 hk, if_pos rfl]
      omega
  order := horder

/-- An id that is with the kernel or in an event is in no completion. -/
theorem undelivered (h : Accounts s) (hroster : Roster s) {k : Nat}
    (hpos : 0 < tally Op.data k s.outstanding + tally IoEvent.data k s.eventQueue) :
    tally CompletedOp.id k s.delivered = 0 := by
  have hk := h.places k
  have hone := hroster.unique k
  omega

theorem cancelOne (h : Accounts s) (hroster : Roster s) (id : Nat) (answer : Option Report) :
    Accounts (s.cancelOne id answer) := by
  unfold World.cancelOne
  split
  · next op active taken outstanding r hactive hout =>
      split
      · next hfits =>
          have hdata := (pull_eq_some hactive).1
          have htaken : taken ∈ s.accepted := hroster.taken (mem_of_pull hout)
          -- the thread's operation is the kernel's
          obtain rfl : op = taken := by
            refine hroster.eq_of_data (hroster.table (mem_of_pull hactive))
              (hroster.accepted_sublist.subset htaken) ?_
            rw [hdata, (pull_eq_some hout).1]
          obtain ⟨c, hc⟩ := complete_of_data op ⟨id, r⟩ hdata.symm
          have hid : c.id = id := id_of_complete hc
          have hnew : ∀ d ∈ s.delivered, d.id ≠ id := by
            refine tally_eq_zero_iff.1 (h.undelivered hroster ?_)
            rw [tally_pull hout, if_pos rfl]
            omega
          rw [World.finish_eq_send hc]
          refine h.deliver rfl rfl rfl ⟨op, htaken, r, hfits, hdata ▸ hc⟩
            (fun k => ?_) h.queued ?_ ?_
          · simp only [World.send, tally_pull hout k, hid]
            omega
          · rw [hid]
            exact List.Subset.refl _
          · show (((s.delivered ++ [c]).filter fun d => d.id ∉ s.cancelled ++ [id]).map _) =
              s.harvested.map _
            have hold : (s.delivered.filter fun d => d.id ∉ s.cancelled ++ [id]) =
                s.delivered.filter fun d => d.id ∉ s.cancelled := by
              refine List.filter_congr fun d hd => ?_
              simp [hnew d hd]
            rw [List.filter_append, hold]
            simpa [hid] using h.order
      · exact h
  · exact h

theorem event (h : Accounts s) (hroster : Roster s) : Accounts s.event := by
  unfold World.event
  split
  · exact ⟨h.places, h.events, h.genuine, h.queued, h.ended, h.order⟩
  · next e rest hqueue =>
      split
      · exact ⟨h.places, h.events, h.genuine, h.queued, h.ended, h.order⟩
      · next op active hactive =>
          have hdata := (pull_eq_some hactive).1
          have hposted : e ∈ s.posted := by
            rw [← h.queued, hqueue]
            simp
          obtain ⟨taken, htaken, htdata, hfits⟩ := h.events e hposted
          -- the operation that the table has under the event's id is the one that the event is of
          obtain rfl : op = taken :=
            hroster.eq_of_data (hroster.table (mem_of_pull hactive))
              (hroster.accepted_sublist.subset htaken) (hdata.trans htdata.symm)
          obtain ⟨c, hc⟩ := complete_of_data op e hdata.symm
          have hid : c.id = e.data := id_of_complete hc
          have hkept : e.data ∉ s.cancelled := by
            intro hin
            have hzero := h.undelivered hroster (k := e.data) (by
              rw [hqueue, tally_cons, if_pos rfl]
              omega)
            have hpos := h.ended _ hin
            omega
          rw [World.finish_eq_send hc]
          refine h.deliver rfl rfl rfl ⟨op, htaken, e.report, hfits, hdata ▸ hc⟩ (fun k => ?_) ?_
            (List.subset_append_left ..) ?_
          · simp only [World.send, hqueue, tally_cons, hid]
            omega
          · show s.harvested ++ [e] ++ rest ++ s.ring = s.posted
            rw [← h.queued, hqueue]
            simp
          · show ((s.delivered ++ [c]).filter fun d => d.id ∉ s.cancelled).map _ =
              (s.harvested ++ [e]).map _
            rw [List.filter_append, List.map_append, h.order, List.map_append]
            simp [hid, hkept]

theorem getevents (h : Accounts s) : Accounts s.getevents := by
  unfold World.getevents
  split
  · exact ⟨h.places, h.events, h.genuine, h.queued, h.ended, h.order⟩
  · refine ⟨fun k => ?_, h.events, h.genuine, ?_, h.ended, h.order⟩
    · have hk := h.places k
      have hsplit := tally_take_drop IoEvent.data k 16 s.ring
      simp only [tally_append]
      omega
    · rw [← h.queued]
      simp

theorem complete (h : Accounts s) (hroster : Roster s) (id : Nat) (r : Report) :
    Accounts (s.complete id r) := by
  unfold World.complete
  split
  · next op outstanding hout =>
      split
      · next hfits =>
          refine ⟨fun k => ?_, fun e he => ?_, h.genuine, ?_, h.ended, h.order⟩
          · have hk := h.places k
            rw [tally_pull hout k] at hk
            simp only [tally_append, tally_cons, tally_nil]
            omega
          · rcases List.mem_append.1 he with he | he
            · exact h.events e he
            · rw [List.mem_singleton.1 he]
              exact ⟨op, hroster.taken (mem_of_pull hout), (pull_eq_some hout).1, hfits⟩
          · rw [← h.queued]
            simp
      · exact h
  · exact h

theorem command (h : Accounts s) (hroster : Roster s) (answer : Option Report) :
    Accounts (s.command answer) := by
  unfold World.command
  split
  · split
    · exact ⟨h.places, h.events, h.genuine, h.queued, h.ended, h.order⟩
    · exact ⟨h.places, h.events, h.genuine, h.queued, h.ended, h.order⟩
  · split
    · exact ⟨h.places, h.events, h.genuine, h.queued, h.ended, h.order⟩
    · exact ⟨h.places, h.events, h.genuine, h.queued, h.ended, h.order⟩
  · split
    · exact ⟨h.places, h.events, h.genuine, h.queued, h.ended, h.order⟩
    · exact ⟨h.places, h.events, h.genuine, h.queued, h.ended, h.order⟩
  · next id cmds hc =>
      have hrest : Accounts { s with cmds := cmds } :=
        ⟨h.places, h.events, h.genuine, h.queued, h.ended, h.order⟩
      refine hrest.cancelOne ?_ id answer
      exact hroster.shrink (List.Subset.refl _) (List.Subset.refl _)
        (hc ▸ List.subset_cons_self ..)
  · exact ⟨h.places, h.events, h.genuine, h.queued, h.ended, h.order⟩

theorem moves (h : Accounts s) (hroster : Roster s) {t : World} (hm : Moves s t) : Accounts t := by
  cases hm with
  | stay => exact h
  | submit opcode fildes buf =>
      unfold World.submit
      split
      · exact ⟨h.places, h.events, h.genuine, h.queued, h.ended, h.order⟩
      · exact ⟨h.places, h.events, h.genuine, h.queued, h.ended, h.order⟩
  | ioSubmit op answer =>
      unfold World.ioSubmit
      split
      · have hmore := h.accept op
        exact ⟨hmore.places, hmore.events, hmore.genuine, hmore.queued, hmore.ended, hmore.order⟩
      · exact ⟨h.places, h.events, h.genuine, h.queued, h.ended, h.order⟩
      · exact ⟨h.places, h.events, h.genuine, h.queued, h.ended, h.order⟩
  | command answer => exact h.command hroster answer
  | cancelNext id answer todo =>
      unfold World.cancelNext
      split
      · have hplace : Accounts { s with place := .cancelling (todo.erase id) } :=
          ⟨h.places, h.events, h.genuine, h.queued, h.ended, h.order⟩
        refine hplace.cancelOne ?_ id answer
        exact ⟨hroster.ids, hroster.offers, hroster.table, hroster.sent, hroster.taken⟩
      · exact h
  | getevents => exact h.getevents
  | event => exact h.event hroster
  | complete id r => exact h.complete hroster id r
  | sendRemove | cancel | cancelAll | signal | receive | waitCompleted | park | notified
  | abandon | drop | dropSignal | close | wake | cancelEnd | notify | signalled =>
      exact ⟨h.places, h.events, h.genuine, h.queued, h.ended, h.order⟩

end Accounts

/-! ## The owner's view -/

theorem connected_of {s : World} {o : Owner} (hs : s.owner = o) (ho : o ≠ .gone) :
    s.connected = true := by
  unfold World.connected
  rw [hs]
  split
  · exact absurd rfl ho
  · rfl

/-- What the owner has received, and how many places of its queue are free. -/
structure Channel (s : World) : Prop where
  space : s.space + s.accepted.length = s.queueLength + s.retrieved.length
  room : s.owner.offers ≠ [] → 0 < s.space
  sent : (s.retrieved ++ s.done) <+: s.delivered
  current : s.connected = true → s.retrieved ++ s.done = s.delivered
  closed : s.connected = false → s.done = []

theorem channel_new (n : Nat) : Channel (World.new n) where
  space := rfl
  room h := absurd rfl h
  sent := List.prefix_refl _
  current _ := rfl
  closed _ := rfl

namespace Channel

variable {s : World}

/-- Nothing that the channel is about has changed, and nothing new is offered. -/
theorem congr (h : Channel s) {t : World}
    (hsame : (t.space, t.queueLength, t.accepted, t.retrieved, t.done, t.delivered) =
      (s.space, s.queueLength, s.accepted, s.retrieved, s.done, s.delivered))
    (hconnected : t.connected = s.connected) (hoffers : t.owner.offers ⊆ s.owner.offers) :
    Channel t := by
  simp only [Prod.mk.injEq] at hsame
  obtain ⟨hspace, hlength, haccepted, hretrieved, hdone, hdelivered⟩ := hsame
  refine ⟨?_, fun hr => ?_, ?_, fun hc => ?_, fun hc => ?_⟩
  · rw [hspace, hlength, haccepted, hretrieved, h.space]
  · rw [hspace]
    refine h.room fun hnil => hr ?_
    rw [hnil] at hoffers
    exact List.subset_nil.1 hoffers
  · rw [hretrieved, hdone, hdelivered]
    exact h.sent
  · rw [hretrieved, hdone, hdelivered]
    exact h.current (hconnected ▸ hc)
  · rw [hdone]
    exact h.closed (hconnected ▸ hc)

theorem send (h : Channel s) (c : CompletedOp) : Channel (s.send c) where
  space := h.space
  room := h.room
  sent := by
    show s.retrieved ++ (if s.connected then s.done ++ [c] else s.done) <+: s.delivered ++ [c]
    split
    · next hc =>
        have hsent : s.retrieved ++ (s.done ++ [c]) = s.delivered ++ [c] := by
          rw [← List.append_assoc, h.current hc]
        exact hsent ▸ List.prefix_refl _
    · exact h.sent.trans (List.prefix_append ..)
  current hc := by
    show s.retrieved ++ (if s.connected then s.done ++ [c] else s.done) = s.delivered ++ [c]
    have hs : s.connected = true := hc
    rw [if_pos hs, ← List.append_assoc, h.current hs]
  closed hc := by
    show (if s.connected then s.done ++ [c] else s.done) = []
    have hs : s.connected = false := hc
    rw [hs, if_neg Bool.false_ne_true, h.closed hs]

theorem finish (h : Channel s) (op : Op) (e : IoEvent) : Channel (s.finish op e) := by
  unfold World.finish
  split
  · exact h.send _
  · exact h.congr rfl rfl (List.Subset.refl _)

theorem cancelOne (h : Channel s) (id : Nat) (answer : Option Report) :
    Channel (s.cancelOne id answer) := by
  unfold World.cancelOne
  split
  · split
    · apply finish
      exact h.congr rfl rfl (List.Subset.refl _)
    · exact h
  · exact h

theorem command (h : Channel s) (answer : Option Report) : Channel (s.command answer) := by
  unfold World.command
  split
  · split
    · exact h.congr rfl rfl (List.Subset.refl _)
    · exact h.congr rfl rfl (List.Subset.refl _)
  · split
    · exact h.congr rfl rfl (List.Subset.refl _)
    · exact h.congr rfl rfl (List.Subset.refl _)
  · split
    · exact h.congr rfl rfl (List.Subset.refl _)
    · exact h.congr rfl rfl (List.Subset.refl _)
  · next id cmds _ =>
      have hrest : Channel { s with cmds := cmds } :=
        h.congr rfl rfl (List.Subset.refl _)
      exact hrest.cancelOne id answer
  · exact h.congr rfl rfl (List.Subset.refl _)

theorem receive (h : Channel s) {c : CompletedOp} {rest : List CompletedOp}
    (hs : s.connected = true) (hdone : s.done = c :: rest) : Channel (s.receive c rest) where
  space := by
    have hspace := h.space
    simp only [World.receive, List.length_append, List.length_singleton]
    omega
  room hr := absurd rfl hr
  sent := by
    have hsent := h.sent
    rw [hdone] at hsent
    simpa [World.receive] using hsent
  current _ := by
    have hcurrent := h.current hs
    rw [hdone] at hcurrent
    simpa [World.receive] using hcurrent
  closed hc := nomatch hc

theorem submit (h : Channel s) (hs : s.connected = true) (opcode fildes : Nat) (buf : Buffer) :
    Channel (s.submit opcode fildes buf) := by
  unfold World.submit
  split
  · exact h.congr rfl rfl (List.Subset.refl _)
  · next hfull =>
      refine ⟨h.space, fun _ => ?_, h.sent, fun _ => h.current hs, nofun⟩
      have hne : s.space ≠ 0 := by simpa [World.isFull] using hfull
      exact Nat.pos_of_ne_zero hne

theorem ioSubmit (h : Channel s) {op : Op} (howner : s.owner = .inserted op)
    (answer : Except IoError Nat) : Channel (s.ioSubmit op answer) := by
  have hs := connected_of howner nofun
  unfold World.ioSubmit
  split
  · refine ⟨?_, fun hr => absurd rfl hr, h.sent, fun _ => h.current hs, nofun⟩
    -- the place was free when the operation was offered
    have hpos : 0 < s.space := h.room (by rw [howner]; exact nofun)
    have hspace := h.space
    simp only [List.length_append, List.length_singleton]
    omega
  · exact h.congr rfl hs.symm (List.nil_subset _)
  · exact h.congr rfl hs.symm (List.nil_subset _)

theorem moves (h : Channel s) {t : World} (hm : Moves s t) : Channel t := by
  -- an owner that acts has not closed the channels
  cases hm with
  | stay => exact h
  | submit opcode fildes buf howner => exact h.submit (connected_of howner nofun) opcode fildes buf
  | ioSubmit op answer howner => exact h.ioSubmit howner answer
  | receive c rest howner hdone =>
      rcases howner with howner | howner
      · exact h.receive (connected_of howner nofun) hdone
      · exact h.receive (connected_of howner nofun) hdone
  | sendRemove id err howner =>
      exact h.congr rfl (connected_of howner nofun).symm (List.nil_subset _)
  | cancel id howner => exact h.congr rfl (connected_of howner nofun).symm (List.nil_subset _)
  | cancelAll howner => exact h.congr rfl (connected_of howner nofun).symm (List.nil_subset _)
  | signal answer howner => exact h.congr rfl (connected_of howner nofun).symm (List.nil_subset _)
  | waitCompleted howner => exact h.congr rfl (connected_of howner nofun).symm (List.nil_subset _)
  | park howner => exact h.congr rfl (connected_of howner nofun).symm (List.nil_subset _)
  | notified howner => exact h.congr rfl (connected_of howner nofun).symm (List.nil_subset _)
  | abandon howner => exact h.congr rfl (connected_of howner nofun).symm (List.nil_subset _)
  | drop howner => exact h.congr rfl (connected_of howner nofun).symm (List.nil_subset _)
  | dropSignal howner => exact h.congr rfl (connected_of howner nofun).symm (List.nil_subset _)
  | close howner =>
      refine ⟨h.space, fun hr => absurd rfl hr, ?_, nofun, fun _ => rfl⟩
      show s.retrieved ++ [] <+: s.delivered
      rw [List.append_nil]
      exact (List.prefix_append ..).trans h.sent
  | command answer => exact h.command answer
  | cancelNext id answer todo =>
      unfold World.cancelNext
      split
      · have hplace : Channel { s with place := .cancelling (todo.erase id) } :=
          h.congr rfl rfl (List.Subset.refl _)
        exact hplace.cancelOne id answer
      · exact h
  | getevents =>
      unfold World.getevents
      split
      · exact h.congr rfl rfl (List.Subset.refl _)
      · exact h.congr rfl rfl (List.Subset.refl _)
  | event =>
      unfold World.event
      split
      · exact h.congr rfl rfl (List.Subset.refl _)
      · split
        · exact h.congr rfl rfl (List.Subset.refl _)
        · apply finish
          exact h.congr rfl rfl (List.Subset.refl _)
  | complete id r =>
      unfold World.complete
      split
      · split
        · exact h.congr rfl rfl (List.Subset.refl _)
        · exact h
      · exact h
  | wake | cancelEnd | notify | signalled =>
      exact h.congr rfl rfl (List.Subset.refl _)

end Channel

/-! ## Whole runs -/

namespace World

@[simp] theorem offered_finish (s : World) (op : Op) (e : IoEvent) :
    (s.finish op e).offered = s.offered := by
  unfold finish
  split
  · rfl
  · rfl

@[simp] theorem offered_cancelOne (s : World) (id : Nat) (answer : Option Report) :
    (s.cancelOne id answer).offered = s.offered := by
  unfold cancelOne
  split
  · split
    · exact offered_finish ..
    · rfl
  · rfl

@[simp] theorem offered_command (s : World) (answer : Option Report) :
    (s.command answer).offered = s.offered := by
  unfold command
  split
  · split <;> rfl
  · split <;> rfl
  · split <;> rfl
  · exact offered_cancelOne ..
  · rfl

/-- Operations that were offered stay so. -/
theorem offered_mono {s t : World} (hm : Moves s t) : s.offered.length ≤ t.offered.length := by
  cases hm with
  | submit opcode fildes buf =>
      unfold submit
      split
      · exact Nat.le_refl _
      · rw [List.length_append]
        exact Nat.le_add_right ..
  | ioSubmit op answer =>
      unfold ioSubmit
      split <;> exact Nat.le_refl _
  | command answer =>
      rw [offered_command]
  | cancelNext id answer todo =>
      unfold cancelNext
      split
      · rw [offered_cancelOne]
      · exact Nat.le_refl _
  | getevents =>
      unfold getevents
      split <;> exact Nat.le_refl _
  | event =>
      unfold event
      split
      · exact Nat.le_refl _
      · split
        · exact Nat.le_refl _
        · rw [offered_finish]
  | complete id r =>
      unfold complete
      split
      · split <;> exact Nat.le_refl _
      · exact Nat.le_refl _
  | stay | sendRemove | cancel | cancelAll | signal | receive | waitCompleted | park | notified
  | abandon | drop | dropSignal | close | wake | cancelEnd | notify | signalled =>
      exact Nat.le_refl _

end World

/-- All that holds of a driver whose ids have not come round. -/
structure Sound (s : World) : Prop where
  table : Table s
  roster : Roster s
  accounts : Accounts s
  channel : Channel s
  alive : s.place ≠ .panicked

theorem Sound.moves {s t : World} (h : Sound s) (hm : Moves s t)
    (hids : t.offered.length ≤ UInt64.size) : Sound t where
  table := h.table.moves hm hids
  roster := h.roster.moves h.table hm hids
  accounts := h.accounts.moves h.roster hm
  channel := h.channel.moves hm
  alive := h.table.place_ne_panicked hm h.alive

/-- Every interleaving with no more operations than ids leads to a sound state. -/
theorem sound_run (n : Nat) (acts : List Act)
    (hids : (run step (World.new n) acts).offered.length ≤ UInt64.size) :
    Sound (run step (World.new n) acts) := by
  have hall : ∀ s act, (s.offered.length ≤ UInt64.size → Sound s) →
      ((step s act).offered.length ≤ UInt64.size → Sound (step s act)) := by
    intro s act h hnext
    have hm := moves_step s act
    exact (h (Nat.le_trans (World.offered_mono hm) hnext)).moves hm hnext
  refine run_invariant_of_step (I := fun s => s.offered.length ≤ UInt64.size → Sound s)
    hall acts ?_ hids
  exact fun _ => ⟨table_new n, roster_new n, accounts_new n, channel_new n, nofun⟩

/-- Every accepted operation is with the kernel, in an event on its way to the thread, or complete,
in one of these places and once. What the owner receives are completions of operations that it has
submitted, each with its own buffer and a result that the kernel can give; and the places of the
queue that are not free are taken by the operations that it has not received. -/
theorem operations_complete_once (n : Nat) (acts : List Act)
    (hids : (run step (World.new n) acts).offered.length ≤ UInt64.size) :
    let s := run step (World.new n) acts
    (s.accepted.map Op.data).Nodup ∧
      (s.accepted.map Op.data).Perm (s.outstanding.map Op.data ++ s.ring.map IoEvent.data ++
        s.eventQueue.map IoEvent.data ++ s.delivered.map CompletedOp.id) ∧
      (s.retrieved ++ s.done) <+: s.delivered ∧ (∀ c ∈ s.delivered, Genuine s.accepted c) ∧
      (s.connected = true → s.retrieved ++ s.done = s.delivered ∧
        s.space + s.outstanding.length + s.ring.length + s.eventQueue.length + s.done.length =
          s.queueLength) := by
  intro s
  have h : Sound s := sound_run n acts hids
  have hperm : (s.accepted.map Op.data).Perm
      (s.outstanding.map Op.data ++ s.ring.map IoEvent.data ++ s.eventQueue.map IoEvent.data ++
        s.delivered.map CompletedOp.id) := by
    rw [List.perm_iff_count]
    intro k
    simp only [List.count_append]
    exact h.accounts.places k
  refine ⟨List.nodup_iff_count_le_one.2 h.roster.unique, hperm, h.channel.sent, h.accounts.genuine,
    fun hconnected => ⟨h.channel.current hconnected, ?_⟩⟩
  have hspace := h.channel.space
  have hlength := hperm.length_eq
  rw [← h.channel.current hconnected] at hlength
  simp only [List.length_map, List.length_append] at hlength
  omega

/-- A read of three bytes, up to where the owner receives it. -/
def oneRead : List Act :=
  [.submit 0 5 (.read (.withCapacity 512)), .ioSubmit (.ok 1), .signal, .wake, .command none,
    .command none, .complete 0 ⟨3, 0, [1, 2, 3]⟩, .signalled, .getevents, .getevents,
      .event, .notify,
    .completed]

theorem one_read_completes :
    (run step (World.new 1) oneRead).retrieved.length = 1 ∧
      ∀ c ∈ (run step (World.new 1) oneRead).delivered,
        Genuine (run step (World.new 1) oneRead).accepted c :=
  ⟨rfl, (operations_complete_once 1 oneRead (by decide)).2.2.2.1⟩

/-- The completions that come through the ring are received in the order in which the kernel has put
their events there; only those of cancelled operations may overtake them. -/
theorem completions_in_ring_order (n : Nat) (acts : List Act)
    (hids : (run step (World.new n) acts).offered.length ≤ UInt64.size) :
    let s := run step (World.new n) acts
    ((s.retrieved.filter fun c => c.id ∉ s.cancelled).map CompletedOp.id) <+:
      s.posted.map IoEvent.data := by
  intro s
  have h : Sound s := sound_run n acts hids
  have hretrieved : s.retrieved <+: s.delivered := (List.prefix_append ..).trans h.channel.sent
  have hharvested : s.harvested <+: s.posted := by
    rw [← h.accounts.queued, List.append_assoc]
    exact List.prefix_append ..
  have hdelivered := (hretrieved.filter fun c => c.id ∉ s.cancelled).map CompletedOp.id
  rw [h.accounts.order] at hdelivered
  exact hdelivered.trans (hharvested.map _)

/-- Two reads, of which the second completes first; the owner receives both. -/
def twoReads : List Act :=
  [.submit 0 5 (.read (.withCapacity 512)), .ioSubmit (.ok 1), .signal,
    .submit 0 6 (.read (.withCapacity 512)), .ioSubmit (.ok 1), .signal,
    .wake, .command none, .command none, .command none,
    .complete 1 ⟨2, 0, [4, 5]⟩, .signalled, .complete 0 ⟨3, 0, [1, 2, 3]⟩, .signalled,
    .getevents, .getevents, .event, .notify, .event, .notify, .completed, .completed]

theorem two_reads_in_ring_order :
    (run step (World.new 2) twoReads).accepted.map Op.data = [0, 1] ∧
      (run step (World.new 2) twoReads).retrieved.map CompletedOp.id = [1, 0] ∧
      ((run step (World.new 2) twoReads).retrieved.filter fun c =>
          c.id ∉ (run step (World.new 2) twoReads).cancelled).map CompletedOp.id <+:
        (run step (World.new 2) twoReads).posted.map IoEvent.data :=
  ⟨rfl, rfl, completions_in_ring_order 2 twoReads (by decide)⟩

end SummitUsbgadget.Aio
