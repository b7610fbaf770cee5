import SummitUsbgadget.Lib.Fifo
import SummitUsbgadget.Swupdate.Session

/-!
# The tasks of a transfer

`stream::spawn` gives a transfer a bounded queue, a status task that connects to the backend, and,
once it is connected, `drain_data`, which writes the queued blocks out and closes the writer when
the sender is gone. The tasks and the backend run on their own; `Transfer.step` is one step of any
of them, `Transfer.Moves` says what a step can do, and `Transfer.Sound` is kept by every step: what
was taken from the queue was written, up to what `write_all` has left.
-/

set_option autoImplicit false

namespace SummitUsbgadget.Swupdate

open SummitUsbgadget.Lib

/-- How far a transfer has come with the receiver of its queue. -/
inductive Drain where
  /-- `connect` has not returned, and the status task holds the receiver. -/
  | connecting
  /-- `connect` failed, or the status task was aborted in it: there is no drain. -/
  | abandoned
  /-- `drain_data` is at `rx.recv()`. -/
  | receiving
  /-- It is in `write_all` for `buf`, of which `rest` is still to be written. -/
  | writing (buf rest : Bytes)
  /-- The queue is empty and its sender is gone: `shutdown` comes next. -/
  | closing
  | finished
  /-- A write failed and `rest` was never written; the writer and the receiver are dropped. -/
  | stopped (rest : Bytes)
  deriving DecidableEq

namespace Drain

/-- Somebody holds the receiver of the queue. -/
def receiverOpen : Drain → Bool
  | .connecting | .receiving | .writing _ _ | .closing => true
  | .abandoned | .finished | .stopped _ => false

/-- What was taken from the queue and has not been written. -/
def rest : Drain → Bytes
  | .writing _ rest | .stopped rest => rest
  | _ => []

/-- `drain_data` was spawned and has returned. -/
def returned : Drain → Bool
  | .finished | .stopped _ => true
  | _ => false

/-- The drain has given up on a write error. -/
def stoppedShort : Drain → Bool
  | .stopped _ => true
  | _ => false

/-- The drain has seen the end of the queue. -/
def pastEnd : Drain → Bool
  | .closing | .finished => true
  | _ => false

end Drain

/-- The tasks and channels of one transfer. `written` and `shutdowns` tell what its writer got. -/
structure Transfer where
  queue : Fifo Bytes
  recycle : Fifo Bytes
  drain : Drain
  status : Option Joined
  written : Bytes
  /-- How many bytes had been written at each call of `shutdown`. -/
  shutdowns : List Nat

/-- Which ends of a transfer its session still holds. -/
structure Handles where
  tx : Bool
  recycleRx : Bool
  status : Bool

namespace Transfer

/-- What the status task, the drain or the backend does next. -/
inductive Event where
  | connected
  | connectFailed (err : IoError)
  /-- The runtime drops the status task that was aborted. -/
  | cancelled
  | statusReady (joined : Joined)
  | recv
  /-- The writer takes `n` bytes. -/
  | write (n : Nat)
  | writeError
  | shutdown

/-- The channels of `stream::spawn`. -/
def spawn (capacity : Nat) : Transfer :=
  ⟨.empty capacity, .empty capacity, .connecting, none, [], []⟩

/-- The queue as the sender meets it. -/
def queueView (t : Transfer) : QueueView :=
  if t.drain.receiverOpen then if t.queue.hasRoom then .room else .full else .closed

def push (block : Bytes) (t : Transfer) : Transfer := { t with queue := t.queue.push block }

/-- `write_all` has returned: the buffer goes back to the producer if there is room for it. -/
def recycled (h : Handles) (buf : Bytes) (t : Transfer) : Transfer :=
  { t with
    drain := .receiving
    recycle := if h.recycleRx then t.recycle.push buf else t.recycle }

/-- The drain at `rx.recv()`. -/
def recv (h : Handles) (t : Transfer) : Transfer :=
  match t.queue.pop with
  | some (buf, queue) => { t with queue := queue, drain := .writing buf buf }
  | none => if h.tx then t else { t with drain := .closing }

/-- The writer takes `n` bytes of what `write_all` has left; none at all is an error. -/
def write (h : Handles) (buf rest : Bytes) (n : Nat) (t : Transfer) : Transfer :=
  if rest = [] then t.recycled h buf
  else if n = 0 then { t with drain := .stopped rest }
  else
    let t := { t with written := t.written ++ rest.take n, drain := .writing buf (rest.drop n) }
    if rest.drop n = [] then t.recycled h buf else t

/-- One step of the tasks of a transfer. What a task cannot do where it stands changes nothing. -/
def step (h : Handles) (t : Transfer) (e : Event) : Transfer :=
  match e, t.drain with
  | .connected, .connecting => { t with drain := .receiving }
  | .connectFailed err, .connecting =>
      { t with drain := .abandoned, status := some (.done (.error err)) }
  | .cancelled, .connecting => if h.status then t else { t with drain := .abandoned }
  | .statusReady _, .connecting | .statusReady _, .abandoned => t
  | .statusReady joined, _ => { t with status := some (t.status.getD joined) }
  | .recv, .receiving => t.recv h
  | .write n, .writing buf rest => t.write h buf rest n
  | .writeError, .writing buf rest =>
      if rest = [] then t.recycled h buf else { t with drain := .stopped rest }
  | .shutdown, .closing =>
      { t with drain := .finished, shutdowns := t.shutdowns ++ [t.written.length] }
  | _, _ => t

/-- The writer fails. -/
def Event.failsWriter : Event → Bool
  | .write n => n = 0
  | .writeError => true
  | _ => false

/-- What one step can do to a transfer. -/
inductive Moves (h : Handles) (t : Transfer) (e : Event) : Transfer → Prop
  | stays : Moves h t e t
  | settled (status : Option Joined) : Moves h t e { t with status := status }
  | connected (hd : t.drain = .connecting) : Moves h t e { t with drain := .receiving }
  | abandoned (hd : t.drain = .connecting) (status : Option Joined) :
      Moves h t e { t with drain := .abandoned, status := status }
  | received {buf : Bytes} {queue : Fifo Bytes} (hd : t.drain = .receiving)
      (hpop : t.queue.pop = some (buf, queue)) :
      Moves h t e { t with queue := queue, drain := .writing buf buf }
  | ended (hd : t.drain = .receiving) (hpop : t.queue.pop = none) (htx : h.tx = false) :
      Moves h t e { t with drain := .closing }
  | wrote {buf rest : Bytes} (hd : t.drain = .writing buf rest) (n : Nat) :
      Moves h t e
        { t with written := t.written ++ rest.take n, drain := .writing buf (rest.drop n) }
  | wroteAll {buf rest : Bytes} (hd : t.drain = .writing buf rest) :
      Moves h t e ({ t with written := t.written ++ rest }.recycled h buf)
  | stopped {buf rest : Bytes} (hd : t.drain = .writing buf rest) (he : e.failsWriter = true) :
      Moves h t e { t with drain := .stopped rest }
  | closed (hd : t.drain = .closing) :
      Moves h t e { t with drain := .finished, shutdowns := t.shutdowns ++ [t.written.length] }

theorem recv_moves (h : Handles) {t : Transfer} (e : Event) (hd : t.drain = .receiving) :
    Moves h t e (t.recv h) := by
  unfold recv
  cases hpop : t.queue.pop with
  | some r => exact .received hd hpop
  | none =>
      cases htx : h.tx with
      | true => exact .stays
      | false => exact .ended hd hpop htx

/-- A `write_all` of nothing returns at once. -/
theorem recycled_moves (h : Handles) {t : Transfer} {buf : Bytes} (e : Event)
    (hd : t.drain = .writing buf []) : Moves h t e (t.recycled h buf) := by
  have hmoves := Moves.wroteAll (h := h) (e := e) hd
  rw [List.append_nil] at hmoves
  exact hmoves

theorem write_moves (h : Handles) {t : Transfer} {buf rest : Bytes} (n : Nat)
    (hd : t.drain = .writing buf rest) : Moves h t (.write n) (t.write h buf rest n) := by
  unfold write
  split
  · next hnil =>
      subst hnil
      exact recycled_moves h _ hd
  split
  · next hn => exact .stopped hd (by simp [Event.failsWriter, hn])
  simp only
  split
  · next hdrop =>
      have htake : rest.take n = rest := by
        rw [← List.append_nil (rest.take n), ← hdrop, List.take_append_drop]
      rw [htake]
      exact .wroteAll hd
  · exact .wrote hd n

theorem step_moves (h : Handles) (t : Transfer) (e : Event) : Moves h t e (t.step h e) := by
  unfold step
  split
  · next hd => exact .connected hd
  · next hd => exact .abandoned hd _
  · next hd =>
      split
      · exact .stays
      · exact .abandoned hd t.status
  · exact .stays
  · exact .stays
  · exact .settled _
  · next hd => exact recv_moves h _ hd
  · next hd => exact write_moves h _ hd
  · next hd =>
      split
      · next hnil => exact recycled_moves h _ (by rw [hd, hnil])
      · exact .stopped hd rfl
  · next hd => exact .closed hd
  · exact .stays

/-- What was taken from the queue was written, up to what `write_all` has left; the queue is empty
once the drain has seen its end, and the writer was closed after the last byte. -/
structure Sound (t : Transfer) : Prop where
  taken : t.queue.taken.flatten = t.written ++ t.drain.rest
  items : t.drain.pastEnd = true → t.queue.items = []
  shutdowns : t.shutdowns = if t.drain = .finished then [t.written.length] else []

theorem sound_spawn (capacity : Nat) : Sound (spawn capacity) :=
  ⟨rfl, by simp [spawn], rfl⟩

theorem sound_push (block : Bytes) {t : Transfer} (h : Sound t) (hend : t.drain.pastEnd = false) :
    Sound (t.push block) where
  taken := by simpa [push] using h.taken
  items := by simp [push, hend]
  shutdowns := h.shutdowns

theorem Sound.shutdowns_eq_nil {t : Transfer} (h : Sound t) (hd : t.drain ≠ .finished) :
    t.shutdowns = [] := by
  rw [h.shutdowns, if_neg hd]

theorem Moves.sound {h : Handles} {t t' : Transfer} {e : Event} (hm : Moves h t e t')
    (ht : Sound t) : Sound t' := by
  have htaken := ht.taken
  cases hm with
  | stays => exact ht
  | settled status => exact ⟨htaken, ht.items, ht.shutdowns⟩
  | connected hd | abandoned hd status =>
      rw [hd] at htaken
      exact ⟨htaken, nofun, ht.shutdowns_eq_nil (by simp [hd])⟩
  | received hd hpop =>
      rw [hd] at htaken
      obtain ⟨-, htake⟩ := Fifo.pop_eq_some hpop
      refine ⟨?_, nofun, ht.shutdowns_eq_nil (by simp [hd])⟩
      simpa [htake, Drain.rest] using htaken
  | ended hd hpop htx =>
      rw [hd] at htaken
      exact ⟨htaken, fun _ => (Fifo.pop_eq_none_iff t.queue).1 hpop,
        ht.shutdowns_eq_nil (by simp [hd])⟩
  | wrote hd n =>
      -- the bytes that were taken move from the front of `rest` to the end of `written`
      rw [hd] at htaken
      refine ⟨?_, nofun, ht.shutdowns_eq_nil (by simp [hd])⟩
      simpa [Drain.rest, List.append_assoc, List.take_append_drop] using htaken
  | wroteAll hd =>
      rw [hd] at htaken
      refine ⟨?_, nofun, ht.shutdowns_eq_nil (by simp [hd])⟩
      simpa [recycled, Drain.rest] using htaken
  | stopped hd he =>
      rw [hd] at htaken
      exact ⟨htaken, nofun, ht.shutdowns_eq_nil (by simp [hd])⟩
  | closed hd =>
      rw [hd] at htaken
      refine ⟨htaken, fun _ => ht.items (by rw [hd]; rfl), ?_⟩
      simp [ht.shutdowns_eq_nil (t := t) (by simp [hd])]

/-- Nothing but the sender puts anything into the queue. -/
theorem Moves.pushed {h : Handles} {t t' : Transfer} {e : Event} (hm : Moves h t e t') :
    t'.queue.pushed = t.queue.pushed := by
  cases hm with
  | received hd hpop => exact Fifo.pushed_pop hpop
  | _ => rfl

/-- The drain sees the end of the queue only when the sender is gone. -/
theorem Moves.pastEnd {h : Handles} {t t' : Transfer} {e : Event} (hm : Moves h t e t')
    (hend : t'.drain.pastEnd = true) : t.drain.pastEnd = true ∨ h.tx = false := by
  cases hm with
  | stays | settled status => exact Or.inl hend
  | ended hd hpop htx => exact Or.inr htx
  | closed hd => exact Or.inl (by rw [hd]; rfl)
  | _ => cases hend

/-- Only a write error stops the drain short. -/
theorem Moves.stoppedShort {h : Handles} {t t' : Transfer} {e : Event} (hm : Moves h t e t')
    (he : e.failsWriter = false) (ht : t.drain.stoppedShort = false) :
    t'.drain.stoppedShort = false := by
  cases hm with
  | stays | settled status => exact ht
  | stopped hd hfails => rw [he] at hfails; cases hfails
  | _ => rfl

theorem Sound.written_initial {t : Transfer} (ht : Sound t) :
    t.written <+: t.queue.pushed.flatten := by
  refine ⟨t.drain.rest ++ t.queue.items.flatten, ?_⟩
  rw [Fifo.pushed, List.flatten_append, ht.taken, List.append_assoc]

/-- A drain that has returned from its `shutdown` has written all there ever was in the queue. -/
theorem Sound.finished {t : Transfer} (ht : Sound t) (hd : t.drain = .finished) :
    t.written = t.queue.pushed.flatten ∧ t.shutdowns = [t.written.length] := by
  have htaken := ht.taken
  have hitems := ht.items (by rw [hd]; rfl)
  have hsh := ht.shutdowns
  rw [hd] at htaken hsh
  refine ⟨?_, hsh⟩
  simpa [Fifo.pushed, hitems, Drain.rest] using htaken.symm

end Transfer

theorem Drain.finished_of_returned {d : Drain} (hret : d.returned = true)
    (hs : d.stoppedShort = false) : d = .finished := by
  cases d with
  | finished => rfl
  | stopped rest => cases hs
  | _ => cases hret

end SummitUsbgadget.Swupdate
