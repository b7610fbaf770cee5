import SummitUsbgadget.Aio.Accounts

/-!
# Wake-ups

The thread sleeps on the eventfd. `Awake` says what may be left undone when it goes to sleep: only
work that somebody is about to signal. So a thread that sleeps with nothing signalled has delivered
everything (`parked_has_delivered`), and it gets there by itself (`thread_settles`). Closing the
channels is not signalled, though: a driver that is dropped with one operation left never ends its
thread (`dropped_thread_never_ends`).
-/

set_option autoImplicit false

namespace SummitUsbgadget.Aio

open SummitUsbgadget.Lib

/-- The owner is about to write to the eventfd. -/
def Owner.signals : Owner → Bool
  | .inserted _ | .refused _ _ | .signalling _ | .dropping => true
  | .idle | .polling | .awaiting | .closing | .gone => false

/-- An owner that is not about to signal holds no operation back. -/
theorem Owner.held_of_quiet {o : Owner} (h : o.signals = false) : o.held = none := by
  cases o with
  | inserted op => cases h
  | refused id err => cases h
  | idle | signalling | polling | awaiting | dropping | closing | gone => rfl

namespace World

/-- The eventfd is readable, or somebody is about to write to it. -/
def Wakes (s : World) : Prop := 0 < s.eventfd ∨ 0 < s.unsignalled ∨ s.owner.signals = true

/-- There is work that the thread does not see any more in this round of its loop. -/
def Overdue (s : World) : Prop :=
  match s.place with
  | .fetching => s.cmds ≠ []
  | .events => s.cmds ≠ [] ∨ s.ring ≠ []
  | .waiting => s.cmds ≠ [] ∨ s.ring ≠ [] ∨ s.eventQueue ≠ []
  | _ => False

end World

/-- No work is forgotten. -/
structure Awake (s : World) : Prop where
  woken : s.Overdue → s.Wakes
  waiter : s.owner = .awaiting → s.done ≠ [] → s.permit = true ∨ s.owes = true
  /-- The waiter is notified before the thread goes on. -/
  busy : s.owes = true → s.place ≠ .waiting ∧ s.place ≠ .fetching ∧ s.place ≠ .exited
  ended : s.place = .exited → s.connected = false ∧ s.cmds = [] ∧ s.active = []

theorem awake_new (n : Nat) : Awake (World.new n) where
  woken h := by
    rcases h with h | h | h <;> exact absurd rfl h
  waiter := nofun
  busy := nofun
  ended := nofun

namespace Awake

variable {s : World}

/-- A thread that ends is not connected, so an owner that acts has a running thread. -/
theorem running (h : Awake s) {o : Owner} (hs : s.owner = o) (ho : o ≠ .gone) :
    s.place ≠ .exited := by
  intro hplace
  have hconnected := (h.ended hplace).1
  rw [connected_of hs ho] at hconnected
  cases hconnected

/-- The owner acts. -/
theorem owner_moved (h : Awake s) {t : World} (hrunning : s.place ≠ .exited)
    (hplace : t.place = s.place) (howes : t.owes = s.owes) (hwoken : t.Overdue → t.Wakes)
    (hwaiter : t.owner = .awaiting → t.done = []) : Awake t where
  woken := hwoken
  waiter ho hd := absurd (hwaiter ho) hd
  busy ho := by
    rw [hplace]
    exact h.busy (howes ▸ ho)
  ended he := by
    rw [hplace] at he
    exact absurd he hrunning

/-- What wakes a thread whose owner is not about to signal. -/
theorem woken_quiet (h : Awake s) (hquiet : s.owner.signals = false) (hdue : s.Overdue) :
    0 < s.eventfd ∨ 0 < s.unsignalled := by
  rcases h.woken hdue with hw | hw | hw
  · exact .inl hw
  · exact .inr hw
  · rw [hquiet] at hw
    cases hw

/-- The owner acts and does not signal. -/
theorem owner_quiet (h : Awake s) (o : Owner) (hrunning : s.place ≠ .exited)
    (hquiet : s.owner.signals = false) (hwaiter : o = .awaiting → s.done = []) (permit : Bool) :
    Awake { s with owner := o, permit := permit } := by
  refine h.owner_moved hrunning rfl rfl (fun hdue => ?_) hwaiter
  rcases h.woken_quiet hquiet hdue with hw | hw
  · exact .inl hw
  · exact .inr (.inl hw)

theorem send (h : Awake s) (c : CompletedOp)
    (hplace : s.place ≠ .waiting ∧ s.place ≠ .fetching ∧ s.place ≠ .exited) : Awake (s.send c) where
  woken := h.woken
  waiter _ _ := .inr rfl
  busy _ := hplace
  ended he := absurd he hplace.2.2

theorem finish (h : Awake s) {op : Op} {e : IoEvent} (hdata : e.data = op.data)
    (hplace : s.place ≠ .waiting ∧ s.place ≠ .fetching ∧ s.place ≠ .exited) :
    Awake (s.finish op e) := by
  obtain ⟨c, hc⟩ := complete_of_data op e hdata
  rw [World.finish_eq_send hc]
  exact h.send c hplace

/-- What the thread's table and the kernel have does not matter to a thread that runs. -/
theorem table_moved (h : Awake s) (hrunning : s.place ≠ .exited) {active outstanding : List Op}
    {cancelled : List Nat} :
    Awake { s with active := active, outstanding := outstanding, cancelled := cancelled } where
  woken := h.woken
  waiter := h.waiter
  busy := h.busy
  ended he := absurd he hrunning

theorem cancelOne (h : Awake s) (id : Nat) (answer : Option Report)
    (hplace : s.place ≠ .waiting ∧ s.place ≠ .fetching ∧ s.place ≠ .exited) :
    Awake (s.cancelOne id answer) := by
  unfold World.cancelOne
  split
  · next op active taken outstanding r hactive hout =>
      split
      · exact (h.table_moved hplace.2.2).finish (pull_eq_some hactive).1.symm hplace
      · exact h
  · exact h

/-- The thread goes on to a place where it sees everything. -/
theorem thread_moved (h : Awake s) {t : World} (howner : t.owner = s.owner)
    (hdone : t.done = s.done) (hpermit : t.permit = s.permit) (howes : t.owes = s.owes)
    (hplace : t.place = .commands ∨ ∃ todo, t.place = .cancelling todo) : Awake t := by
  have hseen : t.place ≠ .waiting ∧ t.place ≠ .fetching ∧ t.place ≠ .exited ∧ ¬ t.Overdue := by
    unfold World.Overdue
    rcases hplace with hp | ⟨todo, hp⟩
    · rw [hp]
      exact ⟨nofun, nofun, nofun, id⟩
    · rw [hp]
      exact ⟨nofun, nofun, nofun, id⟩
  refine ⟨fun hdue => absurd hdue hseen.2.2.2, ?_, fun _ => ⟨hseen.1, hseen.2.1, hseen.2.2.1⟩,
    fun he => absurd he hseen.2.2.1⟩
  rw [howner, hdone, hpermit, howes]
  exact h.waiter

theorem command (h : Awake s) (htable : Table s) (answer : Option Report)
    (hplace : s.place = .commands) (howes : s.owes = false) : Awake (s.command answer) := by
  have hquiet : ∀ {P : Prop}, s.owes = true → P := by
    intro P ho
    rw [howes] at ho
    cases ho
  unfold World.command
  split
  · next hnil =>
      split
      · next hend =>
          rw [Bool.and_eq_true, Bool.not_eq_true', List.isEmpty_iff] at hend
          exact ⟨nofun, h.waiter, fun ho => hquiet ho, fun _ => ⟨hend.1, hnil, hend.2⟩⟩
      · exact ⟨fun hdue => absurd hnil hdue, h.waiter, fun ho => hquiet ho, nofun⟩
  · next op cmds hc =>
      rw [pull_eq_none_iff.2 (htable.unknown_of_insert hc)]
      exact h.thread_moved rfl rfl rfl rfl (.inl hplace)
  · next id cmds hc =>
      split
      · exact h.thread_moved rfl rfl rfl rfl (.inl hplace)
      · next hpull =>
          have hpos := htable.known_of_remove hc
          rw [pull_eq_none_iff.1 hpull] at hpos
          cases hpos
  · next id cmds hc =>
      have hrest : Awake { s with cmds := cmds } := h.thread_moved rfl rfl rfl rfl (.inl hplace)
      refine hrest.cancelOne id answer ?_
      rw [hplace]
      exact ⟨nofun, nofun, nofun⟩
  · exact h.thread_moved rfl rfl rfl rfl (.inr ⟨_, rfl⟩)

theorem getevents (h : Awake s) (hplace : s.place = .fetching) : Awake s.getevents := by
  -- the thread owes nothing here
  have hpaid : ∀ {P : Prop}, s.owes = true → P := fun ho => absurd hplace (h.busy ho).2.1
  have hcmds : s.cmds ≠ [] → s.Wakes := by
    intro hc
    refine h.woken ?_
    unfold World.Overdue
    rw [hplace]
    exact hc
  unfold World.getevents
  split
  · next hring =>
      refine ⟨fun hdue => ?_, h.waiter, fun ho => hpaid ho, nofun⟩
      rcases hdue with hc | hr
      · exact hcmds hc
      · exact absurd (List.isEmpty_iff.1 hring) hr
  · refine ⟨fun hdue => hcmds ?_, h.waiter, fun ho => hpaid ho, fun he => ?_⟩
    · unfold World.Overdue at hdue
      rw [show World.place _ = Place.fetching from hplace] at hdue
      exact hdue
    · rw [show World.place _ = Place.fetching from hplace] at he
      cases he

theorem event (h : Awake s) (htable : Table s) (hplace : s.place = .events)
    (howes : s.owes = false) :
    Awake s.event := by
  have hdue : s.cmds ≠ [] ∨ s.ring ≠ [] → s.Wakes := by
    intro hleft
    refine h.woken ?_
    unfold World.Overdue
    rw [hplace]
    exact hleft
  have hbusy : s.owes = true → Place.waiting ≠ .waiting ∧ Place.waiting ≠ .fetching ∧
      Place.waiting ≠ .exited := by
    intro ho
    rw [howes] at ho
    cases ho
  unfold World.event
  split
  · next hqueue =>
      refine ⟨fun hleft => ?_, h.waiter, hbusy, nofun⟩
      rcases hleft with hc | hr | hq
      · exact hdue (.inl hc)
      · exact hdue (.inr hr)
      · exact absurd hqueue hq
  · next e rest hqueue =>
      split
      · next hpull =>
          -- the operation of the event is in a command that is still there
          refine ⟨fun _ => ?_, h.waiter, hbusy, nofun⟩
          refine hdue (.inl (htable.sent_of_unknown (e := e) ?_ (pull_eq_none_iff.1 hpull)))
          rw [hqueue]
          exact List.mem_cons_self ..
      · next op active hpull =>
          have hat : s.place ≠ .waiting ∧ s.place ≠ .fetching ∧ s.place ≠ .exited := by
            rw [hplace]
            exact ⟨nofun, nofun, nofun⟩
          have hrest : Awake { s with
              active := active
              eventQueue := rest
              harvested := s.harvested ++ [e] } := by
            refine ⟨fun hleft => hdue ?_, h.waiter, h.busy, fun he => absurd he hat.2.2⟩
            unfold World.Overdue at hleft
            rw [show World.place _ = Place.events from hplace] at hleft
            exact hleft
          exact hrest.finish (pull_eq_some hpull).1.symm hat

theorem complete (h : Awake s) (id : Nat) (r : Report) : Awake (s.complete id r) := by
  unfold World.complete
  split
  · split
    · exact ⟨fun _ => .inr (.inl (Nat.succ_pos _)), h.waiter, h.busy, h.ended⟩
    · exact h
  · exact h

theorem moves (h : Awake s) (htable : Table s) {t : World} (hm : Moves s t) : Awake t := by
  cases hm with
  | stay => exact h
  | submit opcode fildes buf howner =>
      unfold World.submit
      split
      · exact ⟨h.woken, h.waiter, h.busy, h.ended⟩
      · exact h.owner_moved (h.running howner nofun) rfl rfl (fun _ => .inr (.inr rfl)) nofun
  | ioSubmit op answer howner =>
      unfold World.ioSubmit
      split
      · exact h.owner_moved (h.running howner nofun) rfl rfl (fun _ => .inr (.inr rfl)) nofun
      · exact h.owner_moved (h.running howner nofun) rfl rfl (fun _ => .inr (.inr rfl)) nofun
      · exact h.owner_moved (h.running howner nofun) rfl rfl (fun _ => .inr (.inr rfl)) nofun
  | sendRemove id err howner =>
      exact h.owner_moved (h.running howner nofun) rfl rfl (fun _ => .inr (.inr rfl)) nofun
  | cancel id howner =>
      exact h.owner_moved (h.running howner nofun) rfl rfl (fun _ => .inr (.inr rfl)) nofun
  | cancelAll howner =>
      exact h.owner_moved (h.running howner nofun) rfl rfl (fun _ => .inr (.inr rfl)) nofun
  | drop howner =>
      exact h.owner_moved (h.running howner nofun) rfl rfl (fun _ => .inr (.inr rfl)) nofun
  | signal answer howner =>
      exact h.owner_moved (h.running howner nofun) rfl rfl (fun _ => .inl (Nat.succ_pos _)) nofun
  | dropSignal howner =>
      exact h.owner_moved (h.running howner nofun) rfl rfl (fun _ => .inl (Nat.succ_pos _)) nofun
  | receive c rest howner hdone =>
      have hquiet : s.place ≠ .exited ∧ s.owner.signals = false := by
        rcases howner with howner | howner
        · exact ⟨h.running howner nofun, by rw [howner]; rfl⟩
        · exact ⟨h.running howner nofun, by rw [howner]; rfl⟩
      have hmoved := h.owner_quiet .idle hquiet.1 hquiet.2 nofun s.permit
      exact ⟨hmoved.woken, nofun, hmoved.busy, hmoved.ended⟩
  | waitCompleted howner =>
      exact h.owner_quiet .polling (h.running howner nofun) (by rw [howner]; rfl) nofun s.permit
  | park howner hdone =>
      exact h.owner_quiet _ (h.running howner nofun) (by rw [howner]; rfl) (fun _ => hdone) s.permit
  | notified howner =>
      exact h.owner_quiet .polling (h.running howner nofun) (by rw [howner]; rfl) nofun false
  | abandon howner =>
      exact h.owner_quiet .idle (h.running howner nofun) (by rw [howner]; rfl) nofun s.permit
  | close howner =>
      have hmoved := h.owner_quiet .gone (h.running howner nofun)
          (by rw [howner]; rfl) nofun s.permit
      exact ⟨hmoved.woken, nofun, hmoved.busy, fun he => absurd he (h.running howner nofun)⟩
  | wake => exact h.thread_moved rfl rfl rfl rfl (.inl rfl)
  | command answer hplace howes => exact h.command htable answer hplace howes
  | cancelNext id answer todo hplace =>
      unfold World.cancelNext
      split
      · have hmoved : Awake { s with place := .cancelling (todo.erase id) } :=
          h.thread_moved rfl rfl rfl rfl (.inr ⟨_, rfl⟩)
        exact hmoved.cancelOne id answer ⟨nofun, nofun, nofun⟩
      · exact h
  | cancelEnd => exact h.thread_moved rfl rfl rfl rfl (.inl rfl)
  | notify => exact ⟨h.woken, fun _ _ => .inl rfl, nofun, h.ended⟩
  | getevents hplace => exact h.getevents hplace
  | event hplace howes => exact h.event htable hplace howes
  | complete id r => exact h.complete id r
  | signalled => exact ⟨fun _ => .inl (Nat.succ_pos _), h.waiter, h.busy, h.ended⟩

end Awake

theorem awake_run (n : Nat) (acts : List Act)
    (hids : (run step (World.new n) acts).offered.length ≤ UInt64.size) :
    Awake (run step (World.new n) acts) := by
  have hall : ∀ s act, (s.offered.length ≤ UInt64.size → Table s ∧ Awake s) →
      ((step s act).offered.length ≤ UInt64.size → Table (step s act) ∧ Awake (step s act)) := by
    intro s act h hnext
    have hm := moves_step s act
    obtain ⟨htable, hawake⟩ := h (Nat.le_trans (World.offered_mono hm) hnext)
    exact ⟨htable.moves hm hnext, hawake.moves htable hm⟩
  have hrun := run_invariant_of_step
    (I := fun s => s.offered.length ≤ UInt64.size → Table s ∧ Awake s) hall acts
    (fun _ => ⟨table_new n, awake_new n⟩)
  exact (hrun hids).2

/-! ## A thread that sleeps has delivered everything -/

namespace World

/-- The thread sleeps, and nobody is about to wake it. -/
structure Parked (s : World) : Prop where
  place : s.place = .waiting
  eventfd : s.eventfd = 0
  unsignalled : s.unsignalled = 0
  owner : s.owner.signals = false

end World

/-- Nothing is left to do for a thread that sleeps. -/
theorem Awake.settled {s : World} (h : Awake s) (hparked : s.Parked) :
    s.cmds = [] ∧ s.ring = [] ∧ s.eventQueue = [] := by
  have hdone : ¬ s.Overdue := by
    intro hdue
    have hwakes := h.woken_quiet hparked.owner hdue
    rw [hparked.eventfd, hparked.unsignalled] at hwakes
    rcases hwakes with hw | hw
    · exact Nat.lt_irrefl 0 hw
    · exact Nat.lt_irrefl 0 hw
  unfold World.Overdue at hdone
  rw [hparked.place] at hdone
  simpa only [not_or, not_not] using hdone

/-- With nothing on the way, the table has what the kernel has. -/
theorem Table.active_perm {s : World} (h : Table s)
    (hsettled : s.cmds = [] ∧ s.ring = [] ∧ s.eventQueue = []) (hheld : s.owner.held = none) :
    (s.active.map Op.data).Perm (s.outstanding.map Op.data) := by
  rw [List.perm_iff_count]
  intro k
  have hk := h.balanced k
  simp only [World.known, World.live, hsettled, hheld, tally_nil, Nat.add_zero, reduceCtorEq,
    if_false] at hk
  exact hk

/-- A thread that sleeps with nothing signalled has carried out every command and delivered every
event: what it has not delivered is still with the kernel, and so is what is in its table. An owner
that waits for a completion that is there was notified of it. -/
theorem parked_has_delivered (n : Nat) (acts : List Act)
    (hids : (run step (World.new n) acts).offered.length ≤ UInt64.size)
    (hparked : (run step (World.new n) acts).Parked) :
    let s := run step (World.new n) acts
    s.cmds = [] ∧ s.ring = [] ∧ s.eventQueue = [] ∧
      (s.accepted.map Op.data).Perm (s.outstanding.map Op.data ++ s.delivered.map CompletedOp.id) ∧
      (s.active.map Op.data).Perm (s.outstanding.map Op.data) ∧
      (s.owner = .awaiting → s.done ≠ [] → s.permit = true) := by
  intro s
  have h : Sound s := sound_run n acts hids
  have hawake : Awake s := awake_run n acts hids
  obtain ⟨hcmds, hring, hqueue⟩ := hawake.settled hparked
  refine ⟨hcmds, hring, hqueue, ?_, ?_, fun ho hd => ?_⟩
  · rw [List.perm_iff_count]
    intro k
    have hk := h.accounts.places k
    simp only [hring, hqueue, tally_nil, Nat.add_zero] at hk
    rw [List.count_append]
    exact hk
  · exact h.table.active_perm ⟨hcmds, hring, hqueue⟩ (Owner.held_of_quiet hparked.owner)
  · rcases hawake.waiter ho hd with hp | hp
    · exact hp
    · exact absurd hparked.place (hawake.busy hp).1

/-- A read is submitted. -/
def submitRead : List Act :=
  [.submit 0 5 (.read (.withCapacity 512)), .ioSubmit (.ok 1), .signal]

/-- The thread takes note of it and goes to sleep. -/
def noteRead : List Act := [.wake, .command none, .command none, .getevents, .event]

theorem parked_after_submit :
    (run step (World.new 1) (submitRead ++ noteRead)).Parked ∧
      (run step (World.new 1) (submitRead ++ noteRead)).cmds = [] :=
  ⟨⟨rfl, rfl, rfl, rfl⟩,
    (parked_has_delivered 1 (submitRead ++ noteRead) (by decide) ⟨rfl, rfl, rfl, rfl⟩).1⟩

/-! ## The thread gets there by itself -/

/-- The thread can take the action now. -/
def Act.Ready (s : World) : Act → Prop
  | .wake => s.place = .waiting ∧ 0 < s.eventfd
  | .command _ => s.place = .commands ∧ s.owes = false
  | .cancelNext id _ => s.owes = false ∧ ∃ todo, s.place = .cancelling todo ∧ id ∈ todo
  | .cancelEnd => s.place = .cancelling [] ∧ s.owes = false
  | .notify => s.owes = true
  | .getevents => s.place = .fetching
  | .event => s.place = .events ∧ s.owes = false
  | _ => False

/-- Rounds of the loop over the commands, and of the loops of `CancelAll` that they may start, if
the table has `a` operations and the queue `c` commands. -/
def commandWork (a c : Nat) : Nat := c * (2 * (a + c) + 4)

theorem commandWork_mono {a a' : Nat} (h : a ≤ a') (c : Nat) : commandWork a c ≤ commandWork a' c :=
  Nat.mul_le_mul_left c (by omega)

/-- What one command is worth, if it adds one operation to the table at most. -/
theorem commandWork_succ {a a' : Nat} (h : a' ≤ a + 1) (c : Nat) :
    commandWork a' c + (2 * (a + c) + 6) ≤ commandWork a (c + 1) := by
  have hmul : c * (2 * (a' + c) + 4) ≤ c * (2 * (a + (c + 1)) + 4) :=
    Nat.mul_le_mul_left c (by omega)
  have hsucc : commandWork a (c + 1) = c * (2 * (a + (c + 1)) + 4) + (2 * (a + (c + 1)) + 4) :=
    Nat.succ_mul ..
  rw [hsucc]
  unfold commandWork
  omega

/-- Rounds to the end of the loop from a place in it. -/
def Place.work : Place → Nat
  | .waiting | .exited | .panicked => 0
  | .events => 3
  | .fetching => 4
  | .commands => 5
  | .cancelling todo => 6 + 2 * todo.length

/-- Bound on the actions that the thread can take if it is left alone. -/
def World.work (s : World) : Nat :=
  6 * min s.eventfd 1 + commandWork s.active.length s.cmds.length + s.place.work +
    3 * s.ring.length + 2 * s.eventQueue.length + s.owes.toNat

/-- A completion that is sent takes one action more. -/
theorem World.work_finish {s : World} (op : Op) (e : IoEvent) : (s.finish op e).work ≤
    s.work + 1 := by
  unfold World.finish
  split
  · simp only [World.work, World.send, Bool.toNat_true]
    omega
  · simp only [World.work, Place.work]
    omega

theorem World.work_cancelOne {s : World} (id : Nat) (answer : Option Report) :
    (s.cancelOne id answer).work ≤ s.work + 1 := by
  unfold World.cancelOne
  split
  · next op active taken outstanding r hactive hout =>
      split
      · refine Nat.le_trans (work_finish op _) (Nat.succ_le_succ ?_)
        have hless : commandWork active.length s.cmds.length ≤
            commandWork s.active.length s.cmds.length :=
          commandWork_mono (by rw [length_pull hactive]; exact Nat.le_succ _) _
        simp only [World.work]
        omega
      · exact Nat.le_succ _
  · exact Nat.le_succ _

theorem World.work_command {s : World} (answer : Option Report) (hplace : s.place = .commands) :
    (s.command answer).work < s.work := by
  unfold World.command
  split
  · next hnil =>
      split
      · simp only [World.work, Place.work, hplace]
        omega
      · simp only [World.work, Place.work, hplace]
        omega
  · next op cmds hc =>
      have hless := commandWork_succ (Nat.le_refl (s.active.length + 1)) cmds.length
      have hmono := commandWork_mono (Nat.le_add_right s.active.length 1) cmds.length
      split
      · simp only [World.work, Place.work, hplace, hc, List.length_cons]
        omega
      · simp only [World.work, hplace, hc, List.length_cons]
        omega
  · next id cmds hc =>
      have hless := commandWork_succ (Nat.le_succ s.active.length) cmds.length
      split
      · next op active hpull =>
          have hmono : commandWork active.length cmds.length ≤
              commandWork s.active.length cmds.length :=
            commandWork_mono (by rw [length_pull hpull]; exact Nat.le_succ _) _
          simp only [World.work, hplace, hc, List.length_cons]
          omega
      · simp only [World.work, Place.work, hplace, hc, List.length_cons]
        omega
  · next id cmds hc =>
      refine Nat.lt_of_le_of_lt (World.work_cancelOne id answer) ?_
      have hless := commandWork_succ (Nat.le_succ s.active.length) cmds.length
      simp only [World.work, hc, List.length_cons]
      omega
  · next cmds hc =>
      have hless := commandWork_succ (Nat.le_succ s.active.length) cmds.length
      simp only [World.work, Place.work, hplace, hc, List.length_cons, List.length_map]
      omega

theorem step_command {s : World} {answer : Option Report} (hplace : s.place = .commands)
    (howes : s.owes = false) : step s (.command answer) = s.command answer := by
  simp only [step, hplace, howes]

theorem step_getevents {s : World} (hplace : s.place = .fetching) :
    step s .getevents = s.getevents := by
  simp only [step, hplace]

theorem step_event {s : World} (hplace : s.place = .events) (howes : s.owes = false) :
    step s .event = s.event := by
  simp only [step, hplace, howes]

/-- Every action of the thread is progress. -/
theorem work_step {s : World} {act : Act} (hready : act.Ready s) : (step s act).work < s.work := by
  cases act with
  | wake =>
      obtain ⟨hplace, heventfd⟩ := hready
      have hstep : step s .wake = { s with eventfd := 0, place := .commands } := by
        simp only [step, hplace, heventfd, if_true]
      rw [hstep]
      simp only [World.work, Place.work, hplace]
      omega
  | command answer =>
      obtain ⟨hplace, howes⟩ := hready
      rw [step_command hplace howes]
      exact World.work_command answer hplace
  | cancelNext id answer =>
      obtain ⟨howes, todo, hplace, hin⟩ := hready
      have hstep : step s (.cancelNext id answer) =
          ({ s with place := .cancelling (todo.erase id) } : World).cancelOne id answer := by
        simp only [step, hplace, howes, World.cancelNext, hin, if_true]
      rw [hstep]
      refine Nat.lt_of_le_of_lt (World.work_cancelOne id answer) ?_
      have hlength := List.length_erase_of_mem hin
      have hpos := List.length_pos_of_mem hin
      simp only [World.work, Place.work, hplace]
      omega
  | cancelEnd =>
      obtain ⟨hplace, howes⟩ := hready
      have hstep : step s .cancelEnd = { s with place := .commands } := by
        simp only [step, hplace, howes]
      rw [hstep]
      simp only [World.work, Place.work, hplace, List.length_nil]
      omega
  | notify =>
      have howes : s.owes = true := hready
      have hstep : step s .notify = { s with owes := false, permit := true } := if_pos howes
      rw [hstep]
      simp only [World.work, howes, Bool.toNat_true, Bool.toNat_false]
      omega
  | getevents =>
      have hplace : s.place = .fetching := hready
      rw [step_getevents hplace]
      unfold World.getevents
      split
      · simp only [World.work, Place.work, hplace]
        omega
      · next hring =>
          have hne : s.ring ≠ [] := fun hnil => hring (List.isEmpty_iff.2 hnil)
          have hpos := List.length_pos_iff.2 hne
          simp only [World.work, List.length_append, List.length_take, List.length_drop]
          omega
  | event =>
      obtain ⟨hplace, howes⟩ := hready
      rw [step_event hplace howes]
      unfold World.event
      split
      · simp only [World.work, Place.work, hplace]
        omega
      · next e rest hqueue =>
          split
          · simp only [World.work, Place.work, hplace]
            omega
          · next op active hpull =>
              refine Nat.lt_of_le_of_lt (World.work_finish op e) ?_
              have hmono : commandWork active.length s.cmds.length ≤
                  commandWork s.active.length s.cmds.length :=
                commandWork_mono (by rw [length_pull hpull]; exact Nat.le_succ _) _
              simp only [World.work, hqueue, List.length_cons]
              omega
  | submit | ioSubmit | sendRemove | cancel | cancelAll | signal | tryCompleted | completed
  | waitCompleted | poll | notified | abandon | drop | dropSignal | close | complete | signalled
      => cases hready

/-- A thread that has neither ended nor gone to sleep can act. -/
theorem ready_of_busy {s : World} (halive : s.place ≠ .panicked) (hrunning : s.place ≠ .exited)
    (hawake : ¬ (s.place = .waiting ∧ s.eventfd = 0)) : ∃ act : Act, act.Ready s := by
  by_cases howes : s.owes = true
  · exact ⟨.notify, howes⟩
  · have hpaid : s.owes = false := Bool.eq_false_iff.2 howes
    cases hplace : s.place with
    | waiting => exact ⟨.wake, hplace, Nat.pos_of_ne_zero fun hzero => hawake ⟨hplace, hzero⟩⟩
    | commands => exact ⟨.command none, hplace, hpaid⟩
    | cancelling todo =>
        cases todo with
        | nil => exact ⟨.cancelEnd, hplace, hpaid⟩
        | cons id todo => exact ⟨.cancelNext id none, hpaid, _, hplace, List.mem_cons_self ..⟩
    | fetching => exact ⟨.getevents, hplace⟩
    | events => exact ⟨.event, hplace, hpaid⟩
    | exited => exact absurd hplace hrunning
    | panicked => exact absurd hplace halive

theorem work_run {s : World} {acts : List Act} (h : Along step (fun s act => act.Ready s) s acts) :
    acts.length + (run step s acts).work ≤ s.work := by
  induction acts generalizing s with
  | nil => exact Nat.le_of_eq (Nat.zero_add _)
  | cons act acts ih =>
      have hhead := work_step h.1
      have htail := ih h.2
      rw [run_cons, List.length_cons]
      omega

/-- If only the thread acts, it takes no more than `work` actions. Where they end, it has ended, or
it sleeps and has delivered everything that somebody is not about to signal. -/
theorem thread_settles (n : Nat) (acts more : List Act)
    (hthread : Along step (fun s act => act.Ready s) (run step (World.new n) acts) more)
    (hids : (run step (run step (World.new n) acts) more).offered.length ≤ UInt64.size) :
    let s := run step (World.new n) acts
    let t := run step s more
    more.length ≤ s.work ∧
      ((∃ act : Act, act.Ready t) ∨ t.place = .exited ∨
        t.place = .waiting ∧ t.eventfd = 0 ∧
          (t.unsignalled = 0 → t.owner.signals = false →
            t.cmds = [] ∧ t.ring = [] ∧ t.eventQueue = [])) := by
  intro s t
  have ht : t = run step (World.new n) (acts ++ more) := (run_append step _ acts more).symm
  have hsound : Sound t := by
    rw [ht]
    exact sound_run n _ (ht ▸ hids)
  have hawake : Awake t := by
    rw [ht]
    exact awake_run n _ (ht ▸ hids)
  have hwork := work_run hthread
  refine ⟨Nat.le_trans (Nat.le_add_right ..) hwork, ?_⟩
  by_cases hexited : t.place = .exited
  · exact .inr (.inl hexited)
  · by_cases hasleep : t.place = .waiting ∧ t.eventfd = 0
    · refine .inr (.inr ⟨hasleep.1, hasleep.2, fun hunsignalled hquiet => ?_⟩)
      exact hawake.settled ⟨hasleep.1, hasleep.2, hunsignalled, hquiet⟩
    · exact .inl (ready_of_busy hsound.alive hexited hasleep)

/-- Left alone after a submission, the thread takes five actions and sleeps. -/
theorem settles_after_submit :
    (run step (World.new 1) submitRead).work = 12 ∧
      noteRead.length ≤ (run step (World.new 1) submitRead).work := by
  have hready : Along step (fun s act => act.Ready s)
      (run step (World.new 1) submitRead) noteRead := by
    refine ⟨⟨rfl, by decide⟩, ⟨rfl, rfl⟩, ⟨rfl, rfl⟩, ?_, ⟨rfl, rfl⟩, trivial⟩
    show (run step (World.new 1) (submitRead ++
        [.wake, .command none, .command none])).place = .fetching
    rfl
  exact ⟨by decide, (thread_settles 1 submitRead noteRead hready (by decide)).1⟩

/-! ## The end of a driver -/

/-- Wake-ups that are still to come from the kernel. -/
def World.signalsLeft (s : World) : Nat := s.eventfd + s.unsignalled + s.outstanding.length

/-- The channels are closed, and there is no wake-up for which the thread has nothing to do. -/
structure Lingering (s : World) : Prop where
  owner : s.owner = .gone
  cmds : s.cmds = []
  left :
    s.active.length = 1 ∧
        (s.place = .waiting ∧ s.signalsLeft ≤ 1 ∨
          (s.place = .commands ∨ s.place = .fetching ∨ s.place = .events) ∧ s.signalsLeft = 0) ∨
      s.active = [] ∧ s.signalsLeft = 0 ∧ (s.place = .events ∨ s.place = .waiting)

namespace Lingering

variable {s : World}

theorem place_ne_exited (h : Lingering s) : s.place ≠ .exited := by
  intro he
  have hleft := h.left
  rw [he] at hleft
  rcases hleft with ⟨-, ⟨hp, -⟩ | ⟨hp | hp | hp, -⟩⟩ | ⟨-, -, hp | hp⟩ <;> cases hp

theorem event (h : Lingering s) (hplace : s.place = .events) : Lingering s.event := by
  have hleft := h.left
  rw [hplace] at hleft
  have hzero : s.signalsLeft = 0 := by
    rcases hleft with ⟨-, ⟨hp, -⟩ | ⟨-, hz⟩⟩ | ⟨-, hz, -⟩
    · cases hp
    · exact hz
    · exact hz
  -- back to sleep, with no operation left or with one that is still to come
  have hsleep : Lingering { s with place := .waiting } := by
    refine ⟨h.owner, h.cmds, ?_⟩
    rcases hleft with ⟨hone, -⟩ | ⟨hnone, -, -⟩
    · exact .inl ⟨hone, .inl ⟨rfl, hzero ▸ Nat.zero_le 1⟩⟩
    · exact .inr ⟨hnone, hzero, .inr rfl⟩
  unfold World.event
  split
  · exact hsleep
  · next e rest hqueue =>
      split
      · exact hsleep
      · next op active hpull =>
          have hlength := length_pull hpull
          have hempty : active = [] := by
            rcases hleft with ⟨hone, -⟩ | ⟨hnone, -, -⟩
            · exact List.length_eq_zero_iff.1 (by omega)
            · rw [hnone] at hlength
              cases hlength
          obtain ⟨c, hc⟩ := complete_of_data op e (pull_eq_some hpull).1.symm
          rw [World.finish_eq_send hc]
          exact ⟨h.owner, h.cmds, .inr ⟨hempty, hzero, .inl hplace⟩⟩

theorem moves (h : Lingering s) {t : World} (hm : Moves s t) : Lingering t := by
  -- the owner is gone
  have hgone : ∀ {o : Owner} {P : Prop}, s.owner = o → o ≠ .gone → P := by
    intro o P ho hne
    exact absurd (ho.symm.trans h.owner) hne
  cases hm with
  | stay => exact h
  | submit opcode fildes buf howner => exact hgone howner nofun
  | ioSubmit op answer howner => exact hgone howner nofun
  | sendRemove id err howner => exact hgone howner nofun
  | cancel id howner => exact hgone howner nofun
  | cancelAll howner => exact hgone howner nofun
  | signal answer howner => exact hgone howner nofun
  | receive c rest howner =>
      rcases howner with howner | howner
      · exact hgone howner nofun
      · exact hgone howner nofun
  | waitCompleted howner => exact hgone howner nofun
  | park howner => exact hgone howner nofun
  | notified howner => exact hgone howner nofun
  | abandon howner => exact hgone howner nofun
  | drop howner => exact hgone howner nofun
  | dropSignal howner => exact hgone howner nofun
  | close howner => exact hgone howner nofun
  | wake hplace heventfd =>
      have hleft := h.left
      unfold World.signalsLeft at hleft
      refine ⟨h.owner, h.cmds, .inl ?_⟩
      rcases hleft with ⟨hone, ⟨-, hle⟩ | ⟨-, hz⟩⟩ | ⟨-, hz, -⟩
      · refine ⟨hone, .inr ⟨.inl rfl, ?_⟩⟩
        show 0 + s.unsignalled + s.outstanding.length = 0
        omega
      · omega
      · omega
  | command answer hplace =>
      have hleft := h.left
      rw [hplace] at hleft
      rcases hleft with ⟨hone, ⟨hp, -⟩ | ⟨-, hz⟩⟩ | ⟨-, -, hp | hp⟩
      · cases hp
      · -- the closed channel is seen, and so is the operation that is left
        have hne : s.active.isEmpty = false := by
          rw [List.isEmpty_eq_false_iff]
          intro hnil
          rw [hnil] at hone
          cases hone
        have hcommand : s.command answer = { s with place := .fetching } := by
          unfold World.command
          rw [h.cmds]
          simp only [hne, Bool.and_false, Bool.false_eq_true, if_false]
        rw [hcommand]
        exact ⟨h.owner, h.cmds, .inl ⟨hone, .inr ⟨.inr (.inl rfl), hz⟩⟩⟩
      · cases hp
      · cases hp
  | cancelNext id answer todo hplace =>
      have hleft := h.left
      rw [hplace] at hleft
      rcases hleft with ⟨-, ⟨hp, -⟩ | ⟨hp | hp | hp, -⟩⟩ | ⟨-, -, hp | hp⟩ <;> cases hp
  | cancelEnd hplace =>
      have hleft := h.left
      rw [hplace] at hleft
      rcases hleft with ⟨-, ⟨hp, -⟩ | ⟨hp | hp | hp, -⟩⟩ | ⟨-, -, hp | hp⟩ <;> cases hp
  | notify => exact ⟨h.owner, h.cmds, h.left⟩
  | getevents hplace =>
      have hleft := h.left
      rw [hplace] at hleft
      have hone : s.active.length = 1 ∧ s.signalsLeft = 0 := by
        rcases hleft with ⟨hone, ⟨hp, -⟩ | ⟨-, hz⟩⟩ | ⟨-, -, hp | hp⟩
        · cases hp
        · exact ⟨hone, hz⟩
        · cases hp
        · cases hp
      unfold World.getevents
      split
      · exact ⟨h.owner, h.cmds, .inl ⟨hone.1, .inr ⟨.inr (.inr rfl), hone.2⟩⟩⟩
      · exact ⟨h.owner, h.cmds, .inl ⟨hone.1, .inr ⟨.inr (.inl hplace), hone.2⟩⟩⟩
  | event hplace => exact h.event hplace
  | complete id r =>
      unfold World.complete
      split
      · next op outstanding hout =>
          split
          · refine ⟨h.owner, h.cmds, ?_⟩
            have hlength := length_pull hout
            have hleft := h.left
            unfold World.signalsLeft at hleft ⊢
            simp only
            rw [hlength, show s.eventfd + s.unsignalled + (outstanding.length + 1) =
              s.eventfd + (s.unsignalled + 1) + outstanding.length by omega] at hleft
            exact hleft
          · exact h
      · exact h
  | signalled hpos =>
      refine ⟨h.owner, h.cmds, ?_⟩
      have hleft := h.left
      unfold World.signalsLeft at hleft ⊢
      simp only
      rw [show s.eventfd + s.unsignalled + s.outstanding.length =
        s.eventfd + 1 + (s.unsignalled - 1) + s.outstanding.length by omega] at hleft
      exact hleft

end Lingering

/-- Nothing tells the thread that the channels were closed. Once it sleeps after a drop, and at most
one operation is left with the kernel, no continuation ends it: the completion of that operation
wakes it while the operation is still in its table, and nothing wakes it afterwards. -/
theorem dropped_thread_never_ends (n : Nat) (acts more : List Act)
    (hids : (run step (World.new n) acts).offered.length ≤ UInt64.size)
    (hgone : (run step (World.new n) acts).owner = .gone)
    (hparked : (run step (World.new n) acts).Parked)
    (hlast : (run step (World.new n) acts).outstanding.length ≤ 1) :
    (run step (run step (World.new n) acts) more).place ≠ .exited := by
  generalize hs : run step (World.new n) acts = s at *
  have hawake : Awake s := hs ▸ awake_run n acts (hs ▸ hids)
  have htable : Table s := (hs ▸ sound_run n acts (hs ▸ hids) : Sound s).table
  obtain ⟨hcmds, hring, hqueue⟩ := hawake.settled hparked
  -- the table has what the kernel has
  have hactive : s.active.length = s.outstanding.length := by
    have hperm := htable.active_perm ⟨hcmds, hring, hqueue⟩ (Owner.held_of_quiet hparked.owner)
    simpa only [List.length_map] using hperm.length_eq
  have hsignals : s.signalsLeft = s.outstanding.length := by
    unfold World.signalsLeft
    rw [hparked.eventfd, hparked.unsignalled, Nat.zero_add]
  have hlingering : Lingering s := by
    refine ⟨hgone, hcmds, ?_⟩
    rcases Nat.le_one_iff_eq_zero_or_eq_one.1 hlast with hzero | hone
    · exact .inr ⟨List.length_eq_zero_iff.1 (hactive.trans hzero), hsignals.trans hzero,
        .inr hparked.place⟩
    · exact .inl ⟨hactive.trans hone, .inl ⟨hparked.place, Nat.le_of_eq (hsignals.trans hone)⟩⟩
  have hrun : Lingering (run step s more) :=
    run_invariant_of_step (fun s act h => h.moves (moves_step s act)) more hlingering
  exact hrun.place_ne_exited

/-- A driver that is dropped while a read is with a kernel that does not cancel it at once. -/
def droppedRead : List Act :=
  submitRead ++ noteRead ++ [.drop, .dropSignal, .wake, .command none,
    .cancelNext 0 none, .cancelEnd, .command none, .getevents, .event, .close]

/-- The thread outlives the driver: also after the read has completed. -/
theorem dropped_read_lingers :
    (run step (World.new 1) droppedRead).Parked ∧
      (run step (run step (World.new 1) droppedRead) [.complete 0 ⟨-108, 0, []⟩, .signalled, .wake,
        .command none, .getevents, .getevents, .event, .notify, .event]).place ≠ .exited :=
  ⟨⟨rfl, rfl, rfl, rfl⟩,
    dropped_thread_never_ends 1 droppedRead _ (by decide) rfl ⟨rfl, rfl, rfl, rfl⟩ (by decide)⟩

/-! ## Buffers -/

/-- The buffer of every operation that the kernel has is in the table, or on its way there. -/
theorem Sound.held {s : World} (h : Sound s) :
    ∀ op ∈ s.outstanding, op ∈ s.active ∨ Cmd.insert op ∈ s.cmds := by
  intro op hop
  have hoffered : op ∈ s.offered := h.roster.accepted_sublist.subset (h.roster.taken hop)
  have hpos : 0 < tally Op.data op.data s.outstanding := tally_pos_iff.2 ⟨op, hop, rfl⟩
  have hknown : 0 < s.known op.data := by
    rw [h.table.balanced]
    unfold World.live
    omega
  unfold World.known at hknown
  -- the table or the channel has an operation of that id, and it is this one
  by_cases hactive : 0 < tally Op.data op.data s.active
  · obtain ⟨other, hother, hdata⟩ := tally_pos_iff.1 hactive
    rw [← h.roster.eq_of_data (h.roster.table hother) hoffered hdata]
    exact Or.inl hother
  · obtain ⟨cmd, hcmd, hins⟩ := tally_pos_iff.1
        (show 0 < tally Cmd.inserts (some op.data) s.cmds by omega)
    cases cmd with
    | insert other =>
        rw [← h.roster.eq_of_data (h.roster.sent other hcmd) hoffered (Option.some.inj hins)]
        exact Or.inr hcmd
    | remove id => cases hins
    | cancel id => cases hins
    | cancelAll => cases hins

/-- The thread never panics, and the kernel never writes to a buffer that is not held: the operation
is in the thread's table, or in a command that the thread has not read. So none is left when the
thread ends. -/
theorem buffers_held (n : Nat) (acts : List Act)
    (hids : (run step (World.new n) acts).offered.length ≤ UInt64.size) :
    let s := run step (World.new n) acts
    s.place ≠ .panicked ∧ (∀ op ∈ s.outstanding, op ∈ s.active ∨ Cmd.insert op ∈ s.cmds) ∧
      (s.place = .exited → s.outstanding = [] ∧ s.connected = false) := by
  intro s
  have h : Sound s := sound_run n acts hids
  have hheld : ∀ op ∈ s.outstanding, op ∈ s.active ∨ Cmd.insert op ∈ s.cmds := h.held
  refine ⟨h.alive, hheld, fun hexited => ?_⟩
  obtain ⟨hclosed, hcmds, hactive⟩ := (awake_run n acts hids).ended hexited
  refine ⟨List.eq_nil_iff_forall_not_mem.2 fun op hop => ?_, hclosed⟩
  rcases hheld op hop with hin | hin
  · rw [hactive] at hin
    cases hin
  · rw [hcmds] at hin
    cases hin

/-- A read completes and is received; then the driver is dropped, and its thread sees the closed
channels. -/
def readThenDropped : List Act :=
  oneRead ++ [.event, .drop, .dropSignal, .close, .wake, .command none, .cancelEnd, .command none]

theorem idle_driver_ends :
    (run step (World.new 1) readThenDropped).retrieved.length = 1 ∧
      (run step (World.new 1) readThenDropped).place = .exited ∧
      (run step (World.new 1) readThenDropped).outstanding = [] :=
  ⟨rfl, rfl, ((buffers_held 1 readThenDropped (by decide)).2.2 rfl).1⟩

end SummitUsbgadget.Aio
