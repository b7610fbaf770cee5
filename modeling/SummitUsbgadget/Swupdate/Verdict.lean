import SummitUsbgadget.Swupdate.Async

/-!
# A transfer that succeeds

What a session shows of a transfer that SWUpdate will not fail: it waits for the verdict, or the
verdict is success and cached (`Underway`). `Traced` follows such a transfer: the sender is gone
exactly if it was gone before or a block was answered with `Feed::Closed`.
-/

set_option autoImplicit false

namespace SummitUsbgadget.Swupdate

namespace Session

/-- The transfer has no verdict yet, or has succeeded. -/
def Underway (d : Session) : Prop :=
  (d.status.isSome ∧ d.terminal = none) ∨ (d.status = none ∧ d.terminal = some (.ok ()))

theorem Underway.not_vacant {d : Session} (h : Underway d) : ¬ Vacant d := by
  rintro ⟨-, hst, hterm⟩
  rcases h with ⟨hsome, -⟩ | ⟨-, hok⟩
  · simp [hst] at hsome
  · rw [hterm] at hok
    cases hok

theorem Underway.ensureOpen {d : Session} (h : Underway d) (v : View) :
    d.ensureOpen v = (.ok (), d) :=
  ensureOpen_of_not_vacant h.not_vacant v

theorem Underway.eof {d : Session} (h : Underway d) : Underway d.eof := by
  unfold Underway
  rw [status_eof, terminal_eof]
  exact h

/-- The sender was gone, or a block was answered with `Feed::Closed` between the two states. -/
def closedSince (d d' : Session) : Prop :=
  d.tx = none ∨ ∃ block, SessionEvent.discarded block ∈ d'.history.drop d.history.length

/-- The session has come from `d` without a failure, and it has no sender exactly if that was gone
or a block was answered with `Feed::Closed`. -/
structure Traced (d d' : Session) : Prop where
  underway : Underway d'
  grows : d.history <+: d'.history
  closed : d'.tx = none ↔ closedSince d d'

theorem traced_refl {d : Session} (h : Underway d) : Traced d d := by
  refine ⟨h, List.prefix_refl _, ?_⟩
  rw [closedSince, List.drop_length]
  simp

/-- Of the events that are added, only a block answered with `Feed::Closed` matters. -/
theorem closedSince_append {d d' d'' : Session} (hgrows : d.history <+: d'.history)
    {e : SessionEvent} (he : d''.history = d'.history ++ [e]) :
    closedSince d d'' ↔ closedSince d d' ∨ ∃ block, e = .discarded block := by
  have hle := hgrows.length_le
  unfold closedSince
  rw [he, List.drop_append_of_le_length hle]
  simp only [List.mem_append, List.mem_singleton, exists_or, or_assoc, eq_comm]

/-- A block that is offered to a queue with room, or to none. -/
theorem Traced.offer {d d' : Session} (h : Traced d d') {q : QueueView} (hq : q ≠ .full)
    (item : Bytes) : Traced d (d'.offer q item).2 := by
  obtain ⟨hst, hterm⟩ := offer_frame q item d'
  have hunder : Underway (d'.offer q item).2 := by
    unfold Underway
    rw [hst, hterm]
    exact h.underway
  have hext : ∀ (d'' : Session) (e : SessionEvent), d''.history = d'.history ++ [e] →
      d.history <+: d''.history := by
    intro d'' e he
    rw [he]
    exact h.grows.trans (List.prefix_append _ _)
  rcases offer_cases q item d' with
    ⟨htx, heq⟩ | ⟨k, htx, -, heq⟩ | ⟨k, -, hfull, -⟩ | ⟨k, -, -, heq⟩
  · -- no sender: the block is discarded, and the sender stays gone
    rw [heq] at hunder ⊢
    refine ⟨hunder, hext _ _ rfl, ?_⟩
    rw [closedSince_append (e := .discarded item) h.grows rfl]
    simp [record, htx]
  · rw [heq] at hunder ⊢
    refine ⟨hunder, hext _ _ rfl, ?_⟩
    rw [closedSince_append (e := .fed k item) h.grows rfl, ← h.closed]
    simp [record, htx]
  · exact absurd hfull hq
  · -- the receiver is gone: the block is discarded and the sender with it
    rw [heq] at hunder ⊢
    refine ⟨hunder, hext _ (.discarded item) rfl, ?_⟩
    rw [closedSince_append (e := .discarded item) h.grows rfl]
    simp [record]

/-- A change that leaves the sender alone. -/
theorem Traced.keep {d d' d'' : Session} (h : Traced d d') (hunder : Underway d'')
    (htx : d''.tx = d'.tx)
    (hhist : d''.history = d'.history ∨ ∃ u, d''.history = d'.history ++ [.restartTask u]) :
    Traced d d'' := by
  rcases hhist with hsame | ⟨u, hadd⟩
  · refine ⟨hunder, hsame ▸ h.grows, ?_⟩
    rw [htx, h.closed, closedSince, closedSince, hsame]
  · refine ⟨hunder, hadd ▸ h.grows.trans (List.prefix_append _ _), ?_⟩
    rw [htx, h.closed, closedSince_append h.grows hadd]
    simp

/-- The status task is joined and ended with success. -/
theorem Traced.settle {d d' : Session} (h : Traced d d') :
    Traced d ({ d' with status := none }.settle (.done (.ok ()))).2 := by
  obtain hu | ⟨u, hu⟩ := Option.eq_none_or_eq_some d'.updateType
  · have heq : ({ d' with status := none }.settle (.done (.ok ()))).2 =
        { d' with status := none, terminal := some (.ok ()) } := by
      simp [Session.settle, markComplete, hu]
    rw [heq]
    exact h.keep (Or.inr ⟨rfl, rfl⟩) rfl (Or.inl rfl)
  · have heq : ({ d' with status := none }.settle (.done (.ok ()))).2 =
        { d' with status := none, terminal := some (.ok ()) }.record (.restartTask u) := by
      simp [Session.settle, markComplete, hu]
    rw [heq]
    exact h.keep (Or.inr ⟨rfl, rfl⟩) rfl (Or.inr ⟨u, rfl⟩)

/-- A look at the verdict shows nothing or success. -/
theorem Traced.tryFinished {d d' : Session} (h : Traced d d') {v : View}
    (hv : ¬ v.reportsFailure) :
    ((d'.tryFinished v).1 = none ∨ (d'.tryFinished v).1 = some (.ok ())) ∧
      Traced d (d'.tryFinished v).2 := by
  unfold Session.tryFinished
  rcases pollStatus_cases v d' with
    ⟨-, heq⟩ | ⟨text, hterm, -⟩ | ⟨hterm, hst, -⟩ | ⟨-, -, -, heq⟩ | ⟨joined, -, -, htask, heq⟩
  · rw [heq]
    exact ⟨Or.inr rfl, h⟩
  · -- a cached failure and a missing transfer are excluded while the transfer is under way
    rcases h.underway with ⟨-, hnone⟩ | ⟨-, hok⟩
    · rw [hterm] at hnone
      cases hnone
    · rw [hterm] at hok
      cases hok
  · rcases h.underway with ⟨hsome, -⟩ | ⟨-, hok⟩
    · simp [hst] at hsome
    · rw [hterm] at hok
      cases hok
  · rw [heq]
    exact ⟨Or.inl rfl, h⟩
  · have hok : joined = .done (.ok ()) := by
      unfold View.reportsFailure at hv
      rw [htask] at hv
      cases joined with
      | panicked text => exact absurd trivial hv
      | done result =>
          cases result with
          | error err => exact absurd trivial hv
          | ok u => rfl
    rw [heq, hok]
    exact ⟨Or.inr rfl, h.settle⟩

/-- The session counts as closed exactly if both its sender and its status handle are gone. -/
theorem Traced.isOpen_iff {d d' : Session} (h : Traced d d') :
    d'.isOpen = true ↔ ¬ (closedSince d d' ∧ d'.terminal.isSome) := by
  rw [← h.closed, ← not_iff_not, Bool.not_eq_true, isOpen_eq_false_iff, not_not]
  rcases h.underway with ⟨hst, hterm⟩ | ⟨hst, hterm⟩
  · simp [hterm, Option.isSome_iff_ne_none.1 hst]
  · simp [hterm, hst]

end Session

open SummitUsbgadget.Lib
open SummitUsbgadget.Lib.Program
open HasSession

section Finished

variable {S Q : Type} {A : Q → Type} [HasSession S] [AnswersSession Q A] (s : S) (o : Oracle Q A)

/-- Waiting for the verdict of a transfer that does not fail: success, cached already or from the
status task. -/
theorem exec_finished (h : Session.Underway (session s))
    (hjoin : answered o 0 .join = .done (.ok ())) :
    (exec (finished : Program S Q A _) s o).1 = .ok () ∧
      ∃ d, (exec (finished : Program S Q A _) s o).2.1 = setSession d s ∧
        (d = session s ∧ d.status = none ∨
          d = ({ session s with status := none }.settle (.done (.ok ()))).2) := by
  rcases h with ⟨hst, hterm⟩ | ⟨hst, hterm⟩
  · have hc : cachedVerdict (session s) = none := by
      obtain ⟨k, hk⟩ := Option.isSome_iff_exists.1 hst
      simp [cachedVerdict, hterm, hk]
    rw [exec_finished_of_waiting s o hc, hjoin]
    exact ⟨rfl, _, rfl, Or.inr rfl⟩
  · have hc : cachedVerdict (session s) = some (.ok ()) := by simp [cachedVerdict, hterm]
    rw [exec_finished_of_cached s o hc]
    exact ⟨rfl, session s, (setSession_session s).symm, Or.inl ⟨rfl, hst⟩⟩

theorem exec_finished_traced {d : Session} (h : Session.Traced d (session s))
    (hjoin : answered o 0 .join = .done (.ok ())) :
    (exec (finished : Program S Q A _) s o).1 = .ok () ∧
      ∃ d', (exec (finished : Program S Q A _) s o).2.1 = setSession d' s ∧
        Session.Traced d d' ∧ d'.status = none := by
  obtain ⟨hok, d', hst, ⟨hd, hnone⟩ | hd⟩ := exec_finished s o h.underway hjoin
  · exact ⟨hok, d', hst, hd ▸ h, hnone⟩
  · refine ⟨hok, d', hst, hd ▸ h.settle, ?_⟩
    rw [hd]
    exact (Session.settle_facts _ _).2.1

end Finished

/-! ## The pump -/

section Pump

variable {S Q : Type} {A : Q → Type} [AnswersSession Q A]

/-- Whenever SWUpdate is asked, it has not failed. -/
def Succeeds (o : Oracle Q A) : Prop :=
  ∀ n, ¬ (answered o n .look).reportsFailure ∧ answered o n .join = .done (.ok ())

variable [HasSession S]

theorem exec_peekVerdict (s : S) (o : Oracle Q A) (h : (session s).isOpen = true) :
    exec (peekVerdict : Program S Q A _) s o =
      (((session s).tryFinished (answered o 0 .look)).1,
        setSession ((session s).tryFinished (answered o 0 .look)).2 s, o.rest) := by
  unfold peekVerdict
  rw [exec_read_bind, if_pos h, exec_tryFinished]

/-- A block that is sent: it is taken and the sender stays, or it is answered with
`Feed::Closed`. -/
theorem exec_send_traced {d : Session} (s : S) (o : Oracle Q A)
    (h : Session.Traced d (session s)) (htx : (session s).tx.isSome) (item : Bytes) :
    ∃ d', (exec (send item : Program S Q A _) s o).2.1 = setSession d' s ∧ Session.Traced d d' ∧
      ((∃ n, (exec (send item : Program S Q A _) s o).1 = .ok (.ok n)) ∧ d'.tx.isSome ∨
        (exec (send item : Program S Q A _) s o).1 = .ok .closed) := by
  obtain ⟨q, hq, hres, hst⟩ := exec_send_offer s o item htx
  refine ⟨_, hst, h.offer hq item, ?_⟩
  rw [hres]
  rcases Session.offer_sender hq item htx with ⟨⟨n, hn⟩, hsome⟩ | hclosed
  · exact Or.inl ⟨⟨n, by rw [hn]⟩, hsome⟩
  · exact Or.inr (by rw [hclosed])

/-- A look at the verdict of a session with its sender: nothing yet, or success. -/
theorem exec_peekVerdict_traced {d : Session} {s : S} {o : Oracle Q A} (ho : Succeeds o)
    (h : d.Traced (session s)) (htx : (session s).tx.isSome) :
    d.Traced (session (exec (peekVerdict : Program S Q A _) s o).2.1) ∧
      (session (exec (peekVerdict : Program S Q A _) s o).2.1).tx.isSome ∧
      ((exec (peekVerdict : Program S Q A _) s o).1 = none ∨
        (exec (peekVerdict : Program S Q A _) s o).1 = some (.ok ())) := by
  obtain ⟨hseen, htraced⟩ := h.tryFinished (ho 0).1
  obtain ⟨hkept, -, -⟩ := Session.pollStatus_facts (answered o 0 .look) (session s)
  rw [exec_peekVerdict s o (by simp [Session.isOpen, htx]), session_setSession]
  refine ⟨htraced, ?_, hseen⟩
  rw [Session.tryFinished, hkept]
  exact htx

/-- What the pump may end with while SWUpdate does not fail: the source is exhausted, or the verdict
was seen, or a block found the queue closed and the verdict was waited for. -/
def PumpedTo (d : Session) : PumpEnd → S → Prop
  | .inputClosed, s => d.Traced (session s) ∧ (session s).tx.isSome
  | .swupdateFinished (.ok ()), s =>
      d.Traced (session s) ∧ ((session s).tx = none → (session s).status = none)
  | .swupdateFinished (.error _), _ => False

/-- The pump over a source that leaves the session alone. -/
theorem exec_pumpToSwupdate {nextBlock : Program S Q A (Except IoError (Option Bytes))}
    (hnext : Keeps session nextBlock) {d : Session} {n : Nat} {s : S} {o : Oracle Q A}
    (ho : Succeeds o) (h : d.Traced (session s)) (htx : (session s).tx.isSome) {e : PumpEnd}
    (hok : (exec (pumpToSwupdate nextBlock n) s o).1 = .ok e) :
    PumpedTo d e (exec (pumpToSwupdate nextBlock n) s o).2.1 := by
  -- until a block finds the queue closed, the sender is there
  have spec : PumpSpec nextBlock Succeeds
      (fun _ t => d.Traced (session t) ∧ (session t).tx.isSome)
      (fun _ t => d.Traced (session t) ∧ (session t).tx.isSome)
      (fun t => d.Traced (session t)) (PumpedTo d) :=
    { answers := fun o k ho n => ho (n + k)
      exhausted := fun t ht => ht
      input := by
        intro k t o _ ht _
        have hsame := hnext.exec t o
        change d.Traced _ ∧ _
        rw [hsame]
        exact ht
      block := by
        intro k t o data _ ht _
        rw [hnext.exec t o]
        exact ht
      seen := by
        intro k t o result ho ht hresult
        obtain ⟨htraced, hsender, hnone | hok⟩ := exec_peekVerdict_traced ho ht.1 ht.2
        · rw [hnone] at hresult
          cases hresult
        · rw [hok] at hresult
          obtain rfl := Option.some.inj hresult
          refine ⟨htraced, fun hgone => ?_⟩
          rw [hgone] at hsender
          cases hsender
      unseen := by
        intro k t o ho ht _
        obtain ⟨htraced, hsender, -⟩ := exec_peekVerdict_traced ho ht.1 ht.2
        exact ⟨htraced, hsender⟩
      fed := by
        intro k t o data feed _ ht hfeed hne
        obtain ⟨d', hst, htraced, ⟨-, hsender⟩ | hclosed⟩ := exec_send_traced t o ht.1 ht.2 data
        · rw [hst, session_setSession]
          exact ⟨htraced, hsender⟩
        · rw [hclosed] at hfeed
          exact absurd (Except.ok.inj hfeed).symm hne
      closed := by
        intro k t o data _ ht _
        obtain ⟨d', hst, htraced, -⟩ := exec_send_traced t o ht.1 ht.2 data
        rw [hst, session_setSession]
        exact htraced
      verdict := by
        intro t o ho ht
        obtain ⟨hok, d', hst, htraced, hnone⟩ := exec_finished_traced t o ht (ho 0).2
        rw [hok, hst]
        refine ⟨?_, ?_⟩
        · rw [session_setSession]
          exact htraced
        · rw [session_setSession]
          exact fun _ => hnone }
  exact spec.exec ho ⟨h, htx⟩ hok

end Pump

end SummitUsbgadget.Swupdate
