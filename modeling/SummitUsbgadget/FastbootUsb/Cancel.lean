import SummitUsbgadget.FastbootUsb.DataPhase

/-!
# Extra Enable notifications

The select of the connected loop drops the transfer step wherever it waits when the `enabled` signal
changes, even if its value is still `true`. `undisturbed` is the same run without such
notifications: a step that was dropped after it had got its completion runs to its end, and an
iteration whose step had got nothing is left out. The two runs agree if every notification comes
while the step still waits for its completion or for the verdict (`undisturbed_agrees`); at a later
wait the step has already consumed something that its successor does not get again.
-/

set_option autoImplicit false

namespace SummitUsbgadget.FastbootUsb

open SummitUsbgadget.Lib
open SummitUsbgadget.Lib.Program
open SummitUsbgadget.Swupdate
open SummitUsbgadget.Fastboot

/-- The function stays enabled and the endpoint open: a notification has the value `true`, and a
read that is submitted is taken. -/
structure StaysOpen (i : Iteration) : Prop where
  enabled : ∀ answers value, i.select = .changed answers value → value = some true
  submitted : i.top.All Query.Submitted

/-- The iteration without its notification. -/
def Iteration.undisturbed (i : Iteration) : Option Iteration :=
  match i.select with
  | .transfer => some i
  | .changed (some (_ + 1)) _ => some { i with select := .transfer }
  | .changed _ _ => none

def undisturbed (is : List Iteration) : List Iteration := is.filterMap Iteration.undisturbed

/-- The same but for a read that one of the loops has submitted already. -/
def Agree (c c' : Bool × FastbootUsbState) : Prop :=
  c.1 = c'.1 ∧ { c.2 with reading := none } = { c'.2 with reading := none }

/-- A notification that takes nothing away: the endpoint is open, the look at the verdict shows
nothing new, and the transfer step has not been polled, or waits for the completion or for a verdict
that is not there yet. -/
structure Harmless (s : FastbootUsbState) (i : Iteration) (answers : Option Nat) : Prop where
  notTornDown : s.gadgetTornDown = false
  unseen : s.download.isOpen = true → s.downloadActive = true →
    (s.download.tryFinished (i.top 0 .look)).1 = none ∨ s.download.terminal = some (.ok ())
  first : answers = none ∨
    answers = some 0 ∧ (s.finishPending = true → cachedVerdict s.download = none)

/-- Every notification that the loop gets is harmless. -/
def OnlyHarmless (c : Bool × FastbootUsbState) (i : Iteration) : Prop :=
  ∀ answers value, c.1 = true → i.select = .changed answers value → Harmless c.2 i answers

section Armed

variable (s : FastbootUsbState)

/-- The look at the verdict does not depend on the read in flight. -/
theorem exec_checkVerdict_armed (o : Answers) :
    (exec checkVerdict s.armed o).2.1 = (exec checkVerdict s o).2.1.armed := by
  cases hfin : s.finishPending with
  | true =>
      rw [exec_checkVerdict_idle s o (.inr hfin), exec_checkVerdict_idle s.armed o (.inr hfin)]
  | false =>
      cases hact : s.downloadActive with
      | false =>
          rw [exec_checkVerdict_idle s o (.inl hact), exec_checkVerdict_idle s.armed o (.inl hact)]
      | true =>
          rw [exec_checkVerdict_active s o hfin hact, exec_checkVerdict_active s.armed o hfin hact]
          rfl

theorem exec_prime_armed {o : Answers} (h : o.All Query.Submitted) :
    (exec prime s.armed o).1 = (exec prime s o).1 ∧
      (exec prime s.armed o).2.1 = (exec prime s o).2.1 := by
  rcases exec_prime s h rfl with ⟨htorn, hkeep, hst⟩ | ⟨htorn, hkeep, hst⟩
  · rcases exec_prime s.armed h (exec_checkVerdict_armed s o) with
      ⟨-, hkeep', hst'⟩ | ⟨htorn', -, -⟩
    · rw [hkeep, hkeep', hst, hst']
      exact ⟨rfl, rfl⟩
    · exact absurd (htorn'.symm.trans htorn) (by simp)
  · rcases exec_prime s.armed h (exec_checkVerdict_armed s o) with
      ⟨htorn', -, -⟩ | ⟨-, hkeep', hst'⟩
    · exact absurd (htorn'.symm.trans htorn) (by simp)
    · rw [hkeep, hkeep', hst, hst']
      exact ⟨rfl, rfl⟩

/-- An iteration does not notice that its read was submitted before. -/
theorem iterate_armed {i : Iteration} (h : i.top.All Query.Submitted) :
    iterate s.armed i = iterate s i := by
  obtain ⟨hkeep, hst⟩ := exec_prime_armed s h
  unfold iterate
  dsimp only
  rw [hkeep, hst]

end Armed

section Notified

variable {s : FastbootUsbState} {i : Iteration}

/-- The look at the verdict finds nothing new. -/
theorem Phase.watch_of_unseen {ph : Phase} {v : View}
    (h : ph.download.isOpen = true →
      (ph.download.tryFinished v).1 = none ∨ ph.download.terminal = some (.ok ())) :
    ph.watch v = ph := by
  unfold Phase.watch
  split
  · rename_i hcond
    simp only [Bool.and_eq_true, Option.isNone_iff_eq_none] at hcond
    obtain ⟨hnone, hopen⟩ := hcond
    have hph : (⟨ph.download, none⟩ : Phase) = ph := by rw [← hnone]
    have hseen : (ph.download.tryFinished v).1 ≠ none → ph.download.terminal = some (.ok ()) :=
      (h hopen).resolve_left
    -- what the condition excludes is a failure, and a success that this look would cache
    have hsame : ph.download.tryFinished v = (none, ph.download) ∨
        ph.download.tryFinished v = (some (.ok ()), ph.download) := by
      rcases Session.pollStatus_cases v ph.download with
        ⟨-, heq⟩ | ⟨text, hterm, heq⟩ | ⟨hterm, -, heq⟩ | ⟨-, -, -, heq⟩
          | ⟨joined, hterm, -, -, heq⟩
      · exact Or.inr heq
      · exact absurd (hterm.symm.trans (hseen (by simp [Session.tryFinished, heq]))) nofun
      · exact absurd (hterm.symm.trans (hseen (by simp [Session.tryFinished, heq]))) nofun
      · exact Or.inl heq
      · exact absurd (hterm.symm.trans (hseen (by simp [Session.tryFinished, heq]))) nofun
    rcases hsame with heq | heq
    · rw [heq]
      exact hph
    · rw [heq]
      exact hph
  · rfl

theorem Harmless.exec_checkVerdict {answers : Option Nat} (h : Harmless s i answers) :
    (exec checkVerdict s i.top).2.1 = s := by
  cases hfin : s.finishPending with
  | true => rw [exec_checkVerdict_idle s _ (.inr hfin)]
  | false =>
      cases hact : s.downloadActive with
      | false => rw [exec_checkVerdict_idle s _ (.inl hact)]
      | true =>
          rw [exec_checkVerdict_active s _ hfin hact,
            Phase.watch_of_unseen fun hopen => h.unseen hopen hact]
          rfl

/-- The first wait of a transfer step: for the completion, or for the verdict. -/
theorem waiting_transferStep (o : Answers) (hread : s.reading.isSome)
    (h : s.finishPending = true → cachedVerdict s.download = none) :
    ∃ q, (transferStep s).waiting 0 o = some (s, q) ∧ q.suspends = true := by
  by_cases hfin : s.finishPending = true
  · -- without a cached verdict the step waits for the status task
    have hfinished : (finished s).waiting 0 o = some (s, .join) := by
      have hnone : cachedVerdict (HasSession.session s) = none := h hfin
      unfold finished
      rw [waiting_read_bind, hnone]
      rfl
    refine ⟨.join, ?_, rfl⟩
    unfold transferStep
    rw [waiting_read_bind, if_pos (by exact hfin)]
    exact Coroutine.waiting_bind _ hfinished
  · -- with a read in flight it waits for the completion, with or without the stall timeout
    have hfetch : ∃ q, (fetchCompletion s).waiting 0 o = some (s, q) ∧ q.suspends = true := by
      change ∃ q, ((if s.reading.isNone = true then _
        else if s.downloadActive = true then _ else _ : Async (Except IoError (Option Bytes)))
          s).waiting 0 o = some (s, q) ∧ _
      rw [if_neg (by simpa [Option.isSome_iff_ne_none] using hread)]
      by_cases hact : s.downloadActive = true
      · rw [if_pos hact]
        exact ⟨.fetchTimeout, rfl, rfl⟩
      · rw [if_neg hact]
        exact ⟨.fetch, rfl, rfl⟩
    obtain ⟨q, hq, hsus⟩ := hfetch
    refine ⟨q, ?_, hsus⟩
    unfold transferStep
    rw [waiting_read_bind, if_neg (by exact hfin)]
    exact Coroutine.waiting_bind _ hq

/-- A harmless notification leaves the loop with a read in flight and nothing else changed. -/
theorem Harmless.iterate {answers : Option Nat} (h : Harmless s i answers) (hi : StaysOpen i)
    {value : Option Bool} (hsel : i.select = .changed answers value) :
    iterate s i = (true, s.armed) := by
  have hdrop : dropTransfer answers i.step s.armed = s.armed := by
    rcases h.first with hnone | ⟨hzero, hcached⟩
    · rw [hnone]
      rfl
    · obtain ⟨q, hq, hsus⟩ := waiting_transferStep (s := s.armed) i.step rfl hcached
      rw [hzero]
      unfold dropTransfer
      dsimp only
      rw [hq]
      dsimp only
      rw [if_pos hsus]
  -- so the iteration has done nothing but submit a read
  rcases exec_prime s hi.submitted h.exec_checkVerdict with ⟨-, hkeep, hst⟩ | ⟨htorn, -, -⟩
  · unfold FastbootUsb.iterate
    dsimp only
    rw [hkeep, hst, hsel, if_neg (by simp)]
    dsimp only
    rw [if_pos (hi.enabled answers value hsel), if_pos (by rfl), hdrop]
  · exact absurd (htorn.symm.trans h.notTornDown) (by simp)

end Notified

/-- The disturbed loop is at most one submitted read ahead. -/
def Ahead (c c' : Bool × FastbootUsbState) : Prop :=
  c' = c ∨ c.1 = true ∧ c' = (true, c.2.armed)

theorem Ahead.agree {c c' : Bool × FastbootUsbState} (h : Ahead c c') : Agree c' c := by
  rcases h with rfl | ⟨hgo, rfl⟩
  · exact ⟨rfl, rfl⟩
  · exact ⟨hgo.symm, rfl⟩

theorem Ahead.transfer {c c' : Bool × FastbootUsbState} (h : Ahead c c') {i : Iteration}
    (hi : StaysOpen i) : Ahead (serve c i) (serve c' i) := by
  rcases h with rfl | ⟨hgo, rfl⟩
  · exact Or.inl rfl
  · left
    unfold serve
    rw [if_pos hgo, if_pos rfl]
    exact iterate_armed c.2 hi.submitted

theorem Ahead.notified {c c' : Bool × FastbootUsbState} (h : Ahead c c') {i : Iteration}
    {answers : Option Nat} {value : Option Bool} (hi : StaysOpen i)
    (hsel : i.select = .changed answers value) (hharm : OnlyHarmless c' i) :
    Ahead c (serve c' i) := by
  unfold serve
  by_cases hgo : c'.1 = true
  · rw [if_pos hgo, (hharm answers value hgo hsel).iterate hi hsel]
    rcases h with rfl | ⟨hgo', rfl⟩
    · exact Or.inr ⟨hgo, rfl⟩
    · exact Or.inr ⟨hgo', rfl⟩
  · rw [if_neg hgo]
    exact h

/-- Notifications that take nothing away leave no trace: the bytes handed to the session, the
replies and all fields are those of the run without them. -/
theorem undisturbed_agrees (s : FastbootUsbState) (is : List Iteration)
    (hopen : ∀ i ∈ is, StaysOpen i) (h : Along serve OnlyHarmless (true, s) is) :
    Agree (run serve (true, s) is) (run serve (true, s) (undisturbed is)) := by
  refine Ahead.agree (run_filterMap ?_ ?_ (Or.inl rfl) (h.and_mem hopen))
  · rintro c c' i j hj hahead ⟨hi, hharm⟩
    unfold Iteration.undisturbed at hj
    split at hj
    · cases hj
      exact hahead.transfer hi
    · -- the step had its completion: only possible for a loop that was left already
      rename_i n value hsel
      have hleft : c'.1 = false := by
        by_contra hgo
        rcases (hharm _ _ (by simpa using hgo) hsel).first with hnone | ⟨hzero, -⟩
        · cases hnone
        · cases hzero
      rcases hahead with rfl | ⟨-, rfl⟩
      · left
        simp [serve, hleft]
      · cases hleft
    · cases hj
  · rintro c c' i hskip hahead ⟨hi, hharm⟩
    unfold Iteration.undisturbed at hskip
    split at hskip
    · cases hskip
    · cases hskip
    · rename_i answers value _ hsel
      exact hahead.notified hi hsel hharm

/-- A notification with the value `true` in quiet surroundings, after so many answers. -/
def notification (answers : Option Nat) (step : Answers) : Iteration where
  top := quiet
  step := step
  arm := quiet
  select := .changed answers (some true)

theorem staysOpen_notification (answers : Option Nat) (step : Answers) :
    StaysOpen (notification answers step) := by
  refine ⟨?_, ?_⟩
  · rintro answers' value ⟨⟩
    rfl
  · intro n q
    cases q with
    | submit capacity => rfl
    | _ => trivial

/-- A notification before the first byte of a data phase. -/
theorem undisturbed_agrees_waiting :
    Agree (run serve (true, announcing 2)
        [notification (some 0) quiet, (Packet.mk [1] quiet quiet).iteration])
      (run serve (true, announcing 2) [(Packet.mk [1] quiet quiet).iteration]) := by
  refine undisturbed_agrees (announcing 2)
    [notification (some 0) quiet, (Packet.mk [1] quiet quiet).iteration] ?_ ⟨?_, ?_, trivial⟩
  · intro i hi
    simp only [List.mem_cons, List.not_mem_nil, or_false] at hi
    rcases hi with rfl | rfl
    · exact staysOpen_notification _ _
    · exact ⟨fun _ _ hsel => (by cases hsel), Packet.submitted _⟩
  · rintro answers value - ⟨⟩
    exact ⟨rfl, fun _ _ => Or.inl rfl, Or.inr ⟨rfl, fun hfin => by cases hfin⟩⟩
  · rintro answers value - ⟨⟩

/-- The step receives a byte and finds the queue full. -/
def fullQueue : Answers := fun n q =>
  match n, q with
  | 0, .fetchTimeout => .completed (.ok [1])
  | _, .look => { quiet 0 .look with queue := .full }
  | n, q => quiet n q

/-- A notification while the step waits for a slot in the queue: the byte it has received is lost,
and the data phase never ends. -/
theorem chunk_lost_by_notification :
    StaysOpen (notification (some 3) fullQueue) ∧
      (run serve (true, announcing 2) [notification (some 3) fullQueue]).2.downloadedSize = 0 ∧
      (run serve (true, announcing 2)
        (undisturbed [notification (some 3) fullQueue])).2.downloadedSize = 1 ∧
      ¬ Agree (run serve (true, announcing 2) [notification (some 3) fullQueue])
        (run serve (true, announcing 2) (undisturbed [notification (some 3) fullQueue])) := by
  refine ⟨staysOpen_notification _ _, by decide +kernel, by decide +kernel, ?_⟩
  intro hagree
  have hsize := congrArg FastbootUsbState.downloadedSize hagree.2
  revert hsize
  decide +kernel

end SummitUsbgadget.FastbootUsb
