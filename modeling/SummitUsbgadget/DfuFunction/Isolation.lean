import SummitUsbgadget.Lib.Machine
import SummitUsbgadget.DfuFunction.Step

/-!
# Downloads and sessions

When the handler is idle, nothing of an earlier download may be left in it. Two requests break
this: `CLRSTATUS` outside the error and manifestation states, and an `UPLOAD` block that is short,
both of which set `dfuIDLE` and leave the session as it is. `TransferSafe` is the condition on the
state before a request that keeps them from doing harm; `sessions_isolated` shows that in every
run whose steps meet it each idle state is clean and each session takes bytes of one download.
-/

set_option autoImplicit false

namespace SummitUsbgadget.DfuFunction

open SummitUsbgadget.Lib
open SummitUsbgadget.Swupdate

/-- Nothing of a download is left. -/
structure Clean (d : Dfu) : Prop where
  sink : d.sink.isOpen = false
  pending : d.pending = none
  tail : d.downloadTail = []
  crc : d.downloadCrc = Crc32.Hasher.new

/-- No `CLRSTATUS` outside the error and manifestation states while a transfer is going on, and
no short `UPLOAD` block unless the handler is clean. -/
def TransferSafe (d : Dfu) (i : Input) : Prop :=
  match i.event with
  | .setupHostToDevice req (.ok _) =>
      isDfuRequest req = true → req.request = Request.clrStatus →
        d.state = .error ∨ d.isFinishing = true ∨ (d.sink.isOpen = false ∧ d.pending = none)
  | .setupDeviceToHost req =>
      isDfuRequest req = true → req.request = Request.upload → d.endsUpload req → Clean d
  | _ => True

/-! ## What the host sent -/

/-- The data block that an event delivers. -/
def Event.block : Event → Option Bytes
  | .setupHostToDevice req (.ok data) =>
      if isDfuRequest req = true ∧ req.announcesBlock then some (data.take req.length.toNat)
      else none
  | _ => none

/-- The bytes of the finished downloads and of the current one. -/
structure Downloads where
  past : List Bytes
  current : Bytes

namespace Downloads

/-- A block that arrives in `dfuIDLE` begins a download. -/
def begin (t : Downloads) (d : Dfu) (e : Event) : Downloads :=
  if e.block.isSome ∧ d.state = .dfuIdle then ⟨t.past ++ [t.current], []⟩ else t

def track (t : Downloads) (d : Dfu) (e : Event) : Downloads :=
  { t.begin d e with current := (t.begin d e).current ++ e.block.getD [] }

/-- `bytes` come, in order, from a single download. -/
def Holds (t : Downloads) (bytes : Bytes) : Prop :=
  ∃ download ∈ t.past ++ [t.current], bytes.Sublist download

instance (t : Downloads) (bytes : Bytes) : Decidable (t.Holds bytes) :=
  inferInstanceAs (Decidable (∃ download ∈ t.past ++ [t.current], bytes.Sublist download))

end Downloads

/-- The downloads of a run. -/
def downloads : Downloads → Dfu → List Input → Downloads
  | t, _, [] => t
  | t, d, i :: is => downloads (t.track d i.event) (d.step i) is

/-! ## The push and the poll -/

theorem accountable_invariant : SinkInvariant Session.Accountable where
  new := Session.accountable_new
  trySend := fun v item _ h => Session.accountable_trySend v item h
  eof := fun _ h => Session.accountable_eof h
  pollStatus := fun v _ h _ => Session.accountable_pollStatus v h

namespace Dfu

theorem poll_of_still (m : Moments) {d : Dfu} (hp : d.pending = none)
    (ho : d.sink.isOpen = false) (hs : d.state ≠ .manifest) : d.poll m = (.ok (), d) := by
  have hpush : d.pushPending m.push = (.ok false, d) := by
    rw [pushPending_of_none m.push hp, eofIfManifesting_of_ne hs]
  have hobs : d.observe m.verdict = d := by
    unfold observe
    rw [if_neg (by simp [hs, ho])]
  unfold poll
  rw [hpush]
  simp only
  rw [hobs]

theorem fedBytes_eofIfManifesting (d : Dfu) :
    d.eofIfManifesting.sink.fedBytes = d.sink.fedBytes := by
  rcases eofIfManifesting_eq d with h | ⟨-, h⟩
  · rw [h]
  · rw [h]
    exact Session.fedBytes_eof d.sink

/-- With nothing held, EOF leaves the bytes that were taken. -/
theorem bytes_eofIfManifesting {d : Dfu} (h : d.pending = none) :
    d.eofIfManifesting.sink.fedBytes ++ d.eofIfManifesting.pendingBytes = d.sink.fedBytes := by
  obtain ⟨sink, hfr⟩ := eofIfManifesting_frame d
  have hpend : d.eofIfManifesting.pendingBytes = [] := pendingBytes_of_none (by rw [hfr]; exact h)
  rw [fedBytes_eofIfManifesting, hpend, List.append_nil]

/-- The push hands on the held block, keeps it or loses it. -/
theorem pushPending_sublist (v : View) (d : Dfu) :
    ((d.pushPending v).2.sink.fedBytes ++ (d.pushPending v).2.pendingBytes).Sublist
      (d.sink.fedBytes ++ d.pendingBytes) := by
  cases hp : d.pending with
  | none =>
      rw [pushPending_of_none v hp, bytes_eofIfManifesting hp]
      exact List.sublist_append_left _ _
  | some chunk =>
      have hsub := Session.trySend_sublist v chunk d.sink
      rw [pendingBytes_of_some hp]
      rcases pushPending_of_some v hp with
        ⟨err, sink, hs, h⟩ | ⟨c, sink, hs, h⟩ | ⟨feed, sink, hs, -, h⟩
      · rw [hs] at hsub
        rw [h]
        simpa [pendingBytes] using hsub
      · -- the block that came back is the one that was sent, and none of it was taken
        rw [h]
        rcases Session.trySend_bytes v chunk d.sink with ⟨⟨n, hr⟩, -⟩ | ⟨hr, hb⟩ | ⟨hr | hr, -⟩
        · rw [hs] at hr
          cases hr
        · rw [hs] at hr hb
          cases hr
          simp [pendingBytes, hb]
        · rw [hs] at hr
          cases hr
        · rw [hs] at hr
          cases hr
      · rw [hs] at hsub
        rw [h, bytes_eofIfManifesting rfl]
        exact hsub

theorem spent_eofIfManifesting {d : Dfu} (h : d.sink.Spent) : d.eofIfManifesting = d := by
  rcases eofIfManifesting_eq d with he | ⟨-, he⟩
  · exact he
  · rw [he, Session.spent_eof h]

/-- A spent session swallows the held block. -/
theorem spent_pushPending (v : View) {d : Dfu} (h : d.sink.Spent) :
    (d.pushPending v).2.sink.Spent ∧ (d.pushPending v).2.sink.fedBytes = d.sink.fedBytes ∧
      (d.pushPending v).2.pending = none := by
  cases hp : d.pending with
  | none =>
      rw [pushPending_of_none v hp, spent_eofIfManifesting h]
      exact ⟨h, rfl, hp⟩
  | some chunk =>
      have hsend := Session.spent_trySend v chunk h
      rcases pushPending_of_some v hp with
        ⟨err, sink, hs, -⟩ | ⟨c, sink, hs, -⟩ | ⟨feed, sink, hs, -, he⟩
      · rw [hsend] at hs
        cases hs
      · rw [hsend] at hs
        cases hs
      · rw [hsend] at hs
        cases hs
        have hspent :
            { d with sink := d.sink.record (.discarded chunk), pending := none }.sink.Spent := h
        rw [he, spent_eofIfManifesting hspent]
        refine ⟨hspent, ?_, rfl⟩
        simp [SessionEvent.fedBlock]

end Dfu

/-! ## The invariants -/

/-- What a handler keeps to itself between requests. -/
structure Isolated (d : Dfu) : Prop where
  idle : d.state = .dfuIdle ∨ d.state = .manifestSync → Clean d
  manifest : d.state = .manifest → d.downloadTail = []
  accountable : d.sink.Accountable

/-- Where the bytes of a handler come from: those of a replaced session from one download, those
of the current session, followed by the held back ones, from the current download. Only a session
that is spent may stem from an earlier download. -/
structure Sourced (t : Downloads) (d : Dfu) : Prop where
  retired : ∀ s ∈ d.retired, t.Holds s.fedBytes
  stream :
    (d.sink.Spent ∧ t.Holds d.sink.fedBytes ∧
        (d.pendingBytes ++ d.downloadTail).Sublist t.current) ∨
      (d.sink.fedBytes ++ (d.pendingBytes ++ d.downloadTail)).Sublist t.current

namespace Dfu

theorem isolated_new (config : DfuConfig) : Isolated (new config) where
  idle := fun _ => ⟨rfl, rfl, rfl, rfl⟩
  manifest := fun h => by cases h
  accountable := Session.accountable_new _ _

theorem isolated_teardown (d : Dfu) : Isolated d.teardown where
  idle := fun _ => ⟨rfl, rfl, rfl, rfl⟩
  manifest := fun h => by cases h
  accountable := Session.accountable_new _ _

theorem sourced_new (config : DfuConfig) : Sourced ⟨[], []⟩ (new config) where
  retired := by simp [new]
  stream := Or.inr (List.Sublist.refl [])

end Dfu

namespace Sourced

open Dfu

variable {t : Downloads} {d : Dfu}

/-- The current session's bytes come from one download. -/
theorem sink (h : Sourced t d) : t.Holds d.sink.fedBytes := by
  rcases h.stream with ⟨-, hold, -⟩ | hsub
  · exact hold
  · exact ⟨t.current, by simp, (List.sublist_append_left _ _).trans hsub⟩

theorem tail (h : Sourced t d) : d.downloadTail.Sublist t.current := by
  rcases h.stream with ⟨-, -, hsub⟩ | hsub
  · exact (List.sublist_append_right _ _).trans hsub
  · exact ((List.sublist_append_right _ _).trans (List.sublist_append_right _ _)).trans hsub

/-- A handler with a new session: the replaced one joins the retired ones. -/
theorem replace (h : Sourced t d) {d' : Dfu} {s : Session}
    (hr : d'.retired = d.retired ++ [s]) (hs : s.fedBytes = d.sink.fedBytes)
    (hnew : d'.sink.fedBytes = []) (hp : d'.pending = none)
    (htail : d'.downloadTail.Sublist d.downloadTail) : Sourced t d' where
  retired := by
    intro r hmem
    rw [hr, List.mem_append, List.mem_singleton] at hmem
    rcases hmem with hmem | rfl
    · exact h.retired r hmem
    · rw [hs]
      exact h.sink
  stream := by
    refine Or.inr ?_
    rw [hnew, pendingBytes_of_none hp, List.nil_append, List.nil_append]
    exact htail.trans h.tail

theorem teardown (h : Sourced t d) : Sourced t d.teardown :=
  h.replace (s := d.sink.abort) rfl (Session.fedBytes_abort d.sink) rfl rfl
    (List.nil_sublist d.downloadTail)

/-- Only the sink, the held block, the tail and the retired sessions matter. -/
theorem of_frame (h : Sourced t d) {d' : Dfu} (hr : d'.retired = d.retired)
    (hs : d'.sink = d.sink) (hp : d'.pending = d.pending)
    (ht : d'.downloadTail.Sublist d.downloadTail) : Sourced t d' where
  retired := by rw [hr]; exact h.retired
  stream := by
    have hpb : d'.pendingBytes = d.pendingBytes := by simp [pendingBytes, hp]
    rw [hs, hpb]
    have happ : (d.pendingBytes ++ d'.downloadTail).Sublist (d.pendingBytes ++ d.downloadTail) :=
      ht.append_left _
    rcases h.stream with ⟨hspent, hold, hsub⟩ | hsub
    · exact Or.inl ⟨hspent, hold, happ.trans hsub⟩
    · exact Or.inr ((happ.append_left _).trans hsub)

theorem pushPending (h : Sourced t d) (v : View) : Sourced t (d.pushPending v).2 := by
  obtain ⟨sink, pending, hfr⟩ := pushPending_frame v d
  have hret : (d.pushPending v).2.retired = d.retired := by rw [hfr]
  have htail : (d.pushPending v).2.downloadTail = d.downloadTail := by rw [hfr]
  refine ⟨by rw [hret]; exact h.retired, ?_⟩
  rcases h.stream with ⟨hspent, hold, hsub⟩ | hsub
  · -- a spent session takes nothing of what is held
    obtain ⟨hspent', hfed, hpend⟩ := spent_pushPending v hspent
    refine Or.inl ⟨hspent', by rw [hfed]; exact hold, ?_⟩
    rw [pendingBytes_of_none hpend, htail, List.nil_append]
    exact (List.sublist_append_right _ _).trans hsub
  · refine Or.inr ?_
    rw [htail, ← List.append_assoc]
    rw [← List.append_assoc] at hsub
    exact ((pushPending_sublist v d).append_right _).trans hsub

theorem observe (h : Sourced t d) (v : View) : Sourced t (d.observe v) := by
  obtain ⟨htx, hfed, -⟩ := Session.pollStatus_facts v d.sink
  rcases observe_cases v d with ⟨-, he⟩ | ⟨-, -, he⟩ | ⟨-, -, he⟩ | ⟨-, -, he⟩
  · rw [he]
    exact h
  · rw [he]
    exact h.replace (s := (d.sink.pollStatus v).2) rfl hfed rfl rfl (List.Sublist.refl _)
  · rw [he]
    exact h.replace (s := (d.sink.pollStatus v).2) rfl hfed rfl rfl (List.Sublist.refl _)
  · rw [he]
    refine ⟨h.retired, ?_⟩
    rcases h.stream with ⟨hspent, hold, hsub⟩ | hsub
    · have heq := Session.spent_pollStatus v hspent
      rw [heq]
      exact Or.inl ⟨hspent, hold, hsub⟩
    · refine Or.inr ?_
      show ((d.sink.pollStatus v).2.fedBytes ++ _).Sublist _
      rw [hfed]
      exact hsub

theorem poll (h : Sourced t d) (m : Moments) : Sourced t (d.poll m).2 := by
  rcases poll_cases m d with ⟨err, -, he⟩ | ⟨held, -, he⟩
  · rw [he]
    exact h.pushPending m.push
  · rw [he]
    exact (h.pushPending m.push).observe m.verdict

/-- More bytes of the current download change nothing. -/
theorem extend (h : Sourced t d) (bytes : Bytes) :
    Sourced { t with current := t.current ++ bytes } d := by
  have hgrow : t.current.Sublist (t.current ++ bytes) := List.sublist_append_left _ _
  have hold : ∀ b, t.Holds b → Downloads.Holds { t with current := t.current ++ bytes } b := by
    rintro b ⟨download, hmem, hsub⟩
    rw [List.mem_append, List.mem_singleton] at hmem
    rcases hmem with hmem | rfl
    · exact ⟨download, by simp [hmem], hsub⟩
    · exact ⟨t.current ++ bytes, by simp, hsub.trans hgrow⟩
  refine ⟨fun s hs => hold _ (h.retired s hs), ?_⟩
  rcases h.stream with ⟨hspent, hsink, hsub⟩ | hsub
  · exact Or.inl ⟨hspent, hold _ hsink, hsub.trans hgrow⟩
  · exact Or.inr (hsub.trans hgrow)

/-- The bytes of a clean handler belong to the past. -/
theorem close (h : Sourced t d) (hc : Clean d) (ha : d.sink.Accountable) :
    Sourced ⟨t.past ++ [t.current], []⟩ d := by
  have hold : ∀ b, t.Holds b → Downloads.Holds ⟨t.past ++ [t.current], []⟩ b := by
    rintro b ⟨download, hmem, hsub⟩
    exact ⟨download, List.mem_append_left _ hmem, hsub⟩
  have hrest : d.pendingBytes ++ d.downloadTail = [] := by
    rw [pendingBytes_of_none hc.pending, hc.tail]
    rfl
  refine ⟨fun s hs => hold _ (h.retired s hs), ?_⟩
  rw [hrest]
  rcases Session.vacant_or_spent_of_not_isOpen hc.sink with hv | hs
  · -- without a verdict in sight nothing was ever taken
    rw [Session.fedBytes_of_vacant ha hv]
    exact Or.inr (List.Sublist.refl [])
  · exact Or.inl ⟨hs, hold _ h.sink, List.Sublist.refl []⟩

/-- A chunk cut off in front of the tail moves to the held block. -/
theorem hold (h : Sourced t d) {d' : Dfu} {chunk rest : Bytes} (hp : d.pending = none)
    (hr : d'.retired = d.retired) (hs : d'.sink = d.sink) (hp' : d'.pending = some chunk)
    (ht : d'.downloadTail = rest) {bytes : Bytes}
    (hsplit : d.downloadTail ++ bytes = chunk ++ rest) :
    Sourced { t with current := t.current ++ bytes } d' := by
  have hall : d'.pendingBytes ++ d'.downloadTail = d.pendingBytes ++ d.downloadTail ++ bytes := by
    rw [pendingBytes_of_some hp', ht, pendingBytes_of_none hp, List.nil_append, hsplit]
  have hx := h.extend bytes
  refine ⟨by rw [hr]; exact hx.retired, ?_⟩
  rw [hall, hs]
  rcases h.stream with ⟨hspent, -, hsub⟩ | hsub
  · exact Or.inl ⟨hspent, hx.sink, hsub.append_right bytes⟩
  · refine Or.inr ?_
    rw [← List.append_assoc]
    exact hsub.append_right bytes

/-- Submitting a chunk in front of what is held back. -/
theorem submitChunk {d₀ : Dfu} (h : Sourced t d₀) (v : View) {chunk rest bytes : Bytes}
    (hr : d.retired = d₀.retired) (hs : d.sink = d₀.sink) (hp : d.pending = d₀.pending)
    (ht : d.downloadTail = rest) (hsplit : d₀.downloadTail ++ bytes = chunk ++ rest) :
    Sourced { t with current := t.current ++ bytes } (d.submitChunk v chunk).2 := by
  cases hp₀ : d₀.pending with
  | some held =>
      -- the transfer is aborted, and its session retired
      rw [submitChunk_of_some v chunk (by simp [hp, hp₀])]
      refine (h.extend bytes).replace (s := d.sink.abort) ?_ ?_ rfl rfl (List.nil_sublist _)
      · rw [← hr]
        rfl
      · rw [Session.fedBytes_abort, hs]
  | none =>
      rw [submitChunk_of_none v chunk (by rw [hp, hp₀])]
      have hheld : Sourced { t with current := t.current ++ bytes }
          { d with pending := some chunk } := by
        refine h.hold hp₀ ?_ ?_ rfl ?_ hsplit
        · exact hr
        · exact hs
        · exact ht
      exact hheld.pushPending v

theorem acceptBlock (h : Sourced t d) (v : View) (block : Bytes) :
    Sourced { t with current := t.current ++ block } (d.acceptBlock v block).2 := by
  by_cases hlen : (d.downloadTail ++ block).length ≤ dfuSuffixLen
  · -- the block joins the tail; nothing leaves
    rw [acceptBlock_of_short v hlen]
    refine ⟨(h.extend block).retired, ?_⟩
    show (_ ∧ _ ∧ (d.pendingBytes ++ (d.downloadTail ++ block)).Sublist _) ∨
      (d.sink.fedBytes ++ (d.pendingBytes ++ (d.downloadTail ++ block))).Sublist _
    rcases h.stream with ⟨hspent, -, hsub⟩ | hsub
    · refine Or.inl ⟨hspent, (h.extend block).sink, ?_⟩
      rw [← List.append_assoc]
      exact hsub.append_right block
    · refine Or.inr ?_
      rw [← List.append_assoc, ← List.append_assoc, List.append_assoc d.sink.fedBytes]
      exact hsub.append_right block
  · rw [acceptBlock_of_long v (by omega)]
    exact h.submitChunk v rfl rfl rfl rfl (List.take_append_drop _ _).symm

theorem manifest (h : Sourced t d) (m : Moments) : Sourced t (d.manifest m).2 := by
  have hcleared : Sourced t { d with status := .ok, state := .manifest, downloadTail := [] } :=
    h.of_frame rfl rfl rfl (List.nil_sublist _)
  rcases manifest_cases m d with ⟨-, he⟩ | ⟨-, he⟩
  · rw [he]
    exact hcleared.pushPending m.submit
  · rw [he]
    have hsub : Sourced { t with current := t.current ++ [] }
        ({ d with status := .ok, state := .manifest, downloadTail := [] }.submitChunk m.submit
          d.downloadTail).2 := h.submitChunk m.submit rfl rfl rfl rfl rfl
    rw [List.append_nil] at hsub
    exact hsub

end Sourced

/-! ## The idle state -/

namespace Clean

open Dfu

variable {d : Dfu}

/-- Polling a clean handler leaves it clean, whatever its state. -/
theorem poll (h : Clean d) (m : Moments) : Clean (d.poll m).2 := by
  obtain ⟨htx, hst⟩ := (Session.isOpen_eq_false_iff d.sink).1 h.sink
  have heof : d.sink.eof = d.sink := by simp [Session.eof, htx]
  have hpush : (d.pushPending m.push).2 = d := by
    rw [pushPending_of_none m.push h.pending]
    rcases eofIfManifesting_eq d with he | ⟨-, he⟩
    · exact he
    · rw [he, heof]
  have hsink : (d.sink.pollStatus m.verdict).2 = d.sink := by
    rcases Session.pollStatus_keeps_or_joins m.verdict d.sink with he | ⟨joined, -, hs, -, -⟩
    · exact he
    · simp [hst] at hs
  rcases poll_cases m d with ⟨err, -, he⟩ | ⟨held, -, he⟩
  · rw [he, hpush]
    exact h
  · rw [he, hpush]
    rcases observe_cases m.verdict d with ⟨-, ho⟩ | ⟨-, -, ho⟩ | ⟨-, -, ho⟩ | ⟨-, -, ho⟩
    · rw [ho]
      exact h
    · rw [ho]
      exact ⟨rfl, rfl, h.tail, rfl⟩
    · rw [ho]
      exact ⟨rfl, rfl, h.tail, rfl⟩
    · rw [ho, hsink]
      exact h

end Clean

namespace Isolated

open Dfu

variable {d : Dfu}

/-- A state that makes no promise about idleness. -/
theorem of_state {d' : Dfu} (ha : d'.sink.Accountable) (h1 : d'.state ≠ .dfuIdle)
    (h2 : d'.state ≠ .manifestSync) (h3 : d'.state ≠ .manifest) : Isolated d' where
  idle := by
    rintro (h | h)
    · exact absurd h h1
    · exact absurd h h2
  manifest := fun h => absurd h h3
  accountable := ha

theorem pushPending (h : Isolated d) (v : View)
    (hc : d.state = .dfuIdle ∨ d.state = .manifestSync → d.pending = none) :
    Isolated (d.pushPending v).2 := by
  obtain ⟨sink, pending, hfr⟩ := pushPending_frame v d
  have hst : (d.pushPending v).2.state = d.state := by rw [hfr]
  have htail : (d.pushPending v).2.downloadTail = d.downloadTail := by rw [hfr]
  refine ⟨?_, ?_, accountable_invariant.pushPending v h.accountable⟩
  · -- in an idle state nothing is held, so the push does nothing
    intro hs
    rw [hst] at hs
    have hm : d.state ≠ .manifest := by
      rintro he
      rw [he] at hs
      simp at hs
    rw [pushPending_of_none v (hc hs), eofIfManifesting_of_ne hm]
    exact h.idle hs
  · intro hs
    rw [hst] at hs
    rw [htail]
    exact h.manifest hs

theorem observe (h : Isolated d) (v : View) : Isolated (d.observe v) := by
  have hacc := Session.accountable_pollStatus v h.accountable
  rcases observe_cases v d with ⟨-, he⟩ | ⟨-, -, he⟩ | ⟨hm, -, he⟩ | ⟨hw, -, he⟩
  · rw [he]
    exact h
  · rw [he]
    exact of_state (Session.accountable_new _ _) (by simp [failed, fault])
      (by simp [failed, fault]) (by simp [failed, fault])
  · rw [he]
    refine ⟨fun _ => ⟨rfl, rfl, h.manifest hm, rfl⟩, ?_, Session.accountable_new _ _⟩
    intro hs
    cases hs
  · rw [he]
    refine ⟨?_, h.manifest, hacc⟩
    -- the verdict is looked at, so the session is open and the state is not an idle one
    intro hs
    have hidle : d.state = .dfuIdle ∨ d.state = .manifestSync := hs
    have hopen := (h.idle hidle).sink
    unfold watching at hw
    rcases hidle with hi | hi
    · simp [hi, hopen] at hw
    · simp [hi, hopen] at hw

theorem poll (h : Isolated d) (m : Moments) : Isolated (d.poll m).2 := by
  have hpush := h.pushPending m.push fun hs => (h.idle hs).pending
  rcases poll_cases m d with ⟨err, -, he⟩ | ⟨held, -, he⟩
  · rw [he]
    exact hpush
  · rw [he]
    exact hpush.observe m.verdict

theorem submitChunk (v : View) (chunk : Bytes) (ha : d.sink.Accountable)
    (h1 : d.state ≠ .dfuIdle) (h2 : d.state ≠ .manifestSync)
    (h3 : d.state = .manifest → d.downloadTail = []) : Isolated (d.submitChunk v chunk).2 := by
  cases hp : d.pending with
  | some held =>
      rw [submitChunk_of_some v chunk (by simp [hp])]
      exact of_state (Session.accountable_new _ _) (by simp [abortWithFault, fault])
        (by simp [abortWithFault, fault]) (by simp [abortWithFault, fault])
  | none =>
      rw [submitChunk_of_none v chunk hp]
      have hheld : Isolated { d with pending := some chunk } := by
        refine ⟨?_, h3, ha⟩
        rintro (hs | hs)
        · exact absurd hs h1
        · exact absurd hs h2
      refine hheld.pushPending v ?_
      rintro (hs | hs)
      · exact absurd hs h1
      · exact absurd hs h2

theorem acceptBlock (h : Isolated d) (v : View) (block : Bytes) :
    Isolated (d.acceptBlock v block).2 := by
  by_cases hlen : (d.downloadTail ++ block).length ≤ dfuSuffixLen
  · rw [acceptBlock_of_short v hlen]
    exact of_state h.accountable (by simp) (by simp) (by simp)
  · rw [acceptBlock_of_long v (by omega)]
    exact submitChunk v _ h.accountable (by simp) (by simp) (by simp)

theorem manifestation (h : Isolated d) (m : Moments) : Isolated (d.manifest m).2 := by
  rcases manifest_cases m d with ⟨-, he⟩ | ⟨-, he⟩
  · rw [he]
    have hcleared : Isolated { d with status := .ok, state := .manifest, downloadTail := [] } :=
      ⟨by simp, fun _ => rfl, h.accountable⟩
    exact hcleared.pushPending m.submit (by simp)
  · rw [he]
    exact submitChunk m.submit _ h.accountable (by simp) (by simp) (by simp)

theorem getStatus (h : Isolated d) : Isolated d.getStatus.2 := by
  have hframe : d.getStatus.2 = { d with state := d.getStatus.2.state } := rfl
  refine ⟨?_, ?_, h.accountable⟩
  · intro hs
    have hold : d.state = .dfuIdle ∨ d.state = .manifestSync := by
      unfold Dfu.getStatus at hs
      cases hst : d.state <;> simp [hst] at hs ⊢ <;> split at hs <;> simp at hs
    obtain ⟨h1, h2, h3, h4⟩ := h.idle hold
    exact ⟨h1, h2, h3, h4⟩
  · intro hs
    have hold : d.state = .manifest := by
      unfold Dfu.getStatus at hs
      cases hst : d.state <;> simp [hst] at hs ⊢ <;> split at hs <;> simp at hs
    exact h.manifest hold

end Isolated

/-! ## Steps and runs -/

/-- A `CLRSTATUS` that does not abort, and that the condition allows, finds no transfer. -/
theorem Isolated.clearStatus {d : Dfu} {m : Moments} (h : Isolated d)
    (hsafe : d.state = .error ∨ d.isFinishing = true ∨ (d.sink.isOpen = false ∧ d.pending = none))
    (he : (d.poll m).2.state ≠ .error) (hf : (d.poll m).2.isFinishing = false) :
    Isolated (d.poll m).2.clearStatus := by
  have hacc := (h.poll m).accountable
  -- the poll cannot have left the error state or the manifestation for any other state
  have hclean : d.sink.isOpen = false ∧ d.pending = none := by
    rcases hsafe with hs | hs | hs
    · rcases Dfu.poll_state m d with hp | hp | ⟨hm, -⟩
      · exact absurd (hp.trans hs) he
      · exact absurd hp he
      · rw [hs] at hm
        cases hm
    · exfalso
      unfold Dfu.isFinishing at hs hf
      rcases Dfu.poll_state m d with hp | hp | ⟨-, hp⟩
      · rw [hp, hs] at hf
        cases hf
      · exact he hp
      · rw [hp] at hf
        cases hf
    · exact hs
  have hm : d.state ≠ .manifest := by
    intro hm
    rcases Dfu.poll_state m d with hp | hp | ⟨-, hp⟩
    · simp [Dfu.isFinishing, hp, hm] at hf
    · exact he hp
    · simp [Dfu.isFinishing, hp] at hf
  rw [Dfu.poll_of_still m hclean.2 hclean.1 hm] at hacc ⊢
  exact ⟨fun _ => ⟨hclean.1, hclean.2, rfl, rfl⟩, (fun hs => by cases hs), hacc⟩

theorem Isolated.uploadBlock {d : Dfu} (h : Isolated d) (req : CtrlReq)
    (hc : d.endsUpload req → Clean d) : Isolated (d.uploadBlock req).2 := by
  rcases Dfu.uploadBlock_eq req d with he | ⟨hends, he⟩ | he
  · rw [he]
    exact h
  · rw [he]
    obtain ⟨h1, h2, h3, h4⟩ := hc hends
    exact ⟨fun _ => ⟨h1, h2, h3, h4⟩, (by simp), h.accountable⟩
  · rw [he]
    exact .of_state h.accountable (by simp) (by simp) (by simp)

theorem Isolated.step {d : Dfu} {i : Input} (h : Isolated d) (hsafe : TransferSafe d i) :
    Isolated (d.step i) := by
  obtain ⟨e, m⟩ := i
  have hto := Dfu.stepTo_step d ⟨e, m⟩
  generalize d.step ⟨e, m⟩ = d' at hto ⊢
  cases hto with
  | ignored => exact h
  | tornDown => exact Dfu.isolated_teardown d
  | pollFailed => exact h.poll m
  | dispatched hp ho hd =>
      have h₁ := h.poll m
      cases hd with
      | finishing => exact h₁
      | stageClosed => exact Dfu.isolated_teardown _
      | stageFailed => exact h₁
      | block => exact h₁.acceptBlock m.submit _
      | detach => exact .of_state h₁.accountable (by simp) (by simp) (by simp)
      | manifest => exact h₁.manifestation m
      | clrAbort => exact Dfu.isolated_teardown _
      | clrStatus hr hs hf => exact h.clearStatus (hsafe hp hr) hs hf
      | abort => exact Dfu.isolated_teardown _
      | unsupportedOut =>
          exact .of_state h₁.accountable (by simp [Dfu.fault]) (by simp [Dfu.fault])
            (by simp [Dfu.fault])
      | getStatus => exact h₁.getStatus
      | getState => exact h₁
      | noUpload => exact h₁
      | upload hr hu =>
          -- the condition is about the state before the poll, which keeps the configuration
          refine h₁.uploadBlock _ fun hends => Clean.poll (hsafe hp hr ?_) m
          obtain ⟨hup, hts⟩ := Dfu.poll_config m d
          unfold Dfu.endsUpload at hends ⊢
          rw [hup, hts] at hends
          exact hends
      | unsupportedIn =>
          exact .of_state h₁.accountable (by simp [Dfu.fault]) (by simp [Dfu.fault])
            (by simp [Dfu.fault])

/-- A block that arrives in `dfuIDLE` finds nothing of the download before it. -/
theorem Sourced.begin {t : Downloads} {d : Dfu} (h : Sourced t d) (hi : Isolated d) (e : Event) :
    Sourced (t.begin d e) d := by
  unfold Downloads.begin
  split
  · rename_i hb
    exact h.close (hi.idle (Or.inl hb.2)) hi.accountable
  · exact h

theorem Sourced.step {t : Downloads} {d : Dfu} (h : Sourced t d) (hi : Isolated d) (i : Input) :
    Sourced (t.track d i.event) (d.step i) := by
  obtain ⟨e, m⟩ := i
  have hb := h.begin hi e
  have hto := Dfu.stepTo_step d ⟨e, m⟩
  show Sourced { t.begin d e with current := (t.begin d e).current ++ e.block.getD [] } _
  generalize t.begin d e = t' at hb ⊢
  generalize d.step ⟨e, m⟩ = d' at hto ⊢
  cases hto with
  | ignored => exact hb.extend _
  | tornDown => exact (hb.teardown).extend _
  | pollFailed => exact (hb.poll m).extend _
  | dispatched hp ho hd =>
      have h₁ := hb.poll m
      cases hd with
      | finishing => exact h₁.extend _
      | stageClosed => exact (h₁.teardown).extend _
      | stageFailed => exact h₁.extend _
      | @block req data hann hf =>
          have hblock : (Event.setupHostToDevice req (.ok data)).block =
              some (data.take req.length.toNat) := if_pos ⟨hp, hann⟩
          rw [hblock]
          exact h₁.acceptBlock m.submit _
      | detach => exact (h₁.extend _).of_frame rfl rfl rfl (List.Sublist.refl _)
      | manifest => exact (h₁.manifest m).extend _
      | clrAbort => exact (h₁.teardown).extend _
      | clrStatus => exact (h₁.extend _).of_frame rfl rfl rfl (List.nil_sublist _)
      | abort => exact (h₁.teardown).extend _
      | unsupportedOut => exact (h₁.extend _).of_frame rfl rfl rfl (List.Sublist.refl _)
      | getStatus => exact (h₁.extend _).of_frame rfl rfl rfl (List.Sublist.refl _)
      | getState => exact h₁.extend _
      | noUpload => exact h₁.extend _
      | @upload req =>
          obtain ⟨state, he⟩ := Dfu.uploadBlock_frame req (d.poll m).2
          rw [he]
          exact (h₁.extend _).of_frame rfl rfl rfl (List.Sublist.refl _)
      | unsupportedIn => exact (h₁.extend _).of_frame rfl rfl rfl (List.Sublist.refl _)

/-- Both invariants along a run. -/
theorem isolated_run {t : Downloads} {d : Dfu} {is : List Input} (hi : Isolated d)
    (hs : Sourced t d) (h : Along Dfu.step TransferSafe d is) :
    Isolated (run Dfu.step d is) ∧ Sourced (downloads t d is) (run Dfu.step d is) := by
  induction is generalizing t d with
  | nil => exact ⟨hi, hs⟩
  | cons i is ih => exact ih (hi.step h.1) (hs.step hi i) h.2

/-- In every state reached by a run whose steps meet `TransferSafe`, `dfuIDLE` means that the
session is not open and that nothing is held back, and every session, replaced or current, has
taken bytes of one download only. -/
theorem sessions_isolated (config : DfuConfig) (inputs reached : List Input)
    (hreached : reached <+: inputs)
    (hsafe : Along Dfu.step TransferSafe (Dfu.new config) inputs) :
    ((run Dfu.step (Dfu.new config) reached).state = .dfuIdle →
        Clean (run Dfu.step (Dfu.new config) reached)) ∧
      ∀ s ∈ (run Dfu.step (Dfu.new config) reached).retired ++
          [(run Dfu.step (Dfu.new config) reached).sink],
        (downloads ⟨[], []⟩ (Dfu.new config) reached).Holds s.fedBytes := by
  obtain ⟨rest, rfl⟩ := hreached
  have hprefix := ((along_append Dfu.step _ reached rest).1 hsafe).1
  obtain ⟨hi, hs⟩ := isolated_run (Dfu.isolated_new config) (Dfu.sourced_new config) hprefix
  refine ⟨fun hidle => hi.idle (Or.inl hidle), ?_⟩
  intro s hmem
  rw [List.mem_append, List.mem_singleton] at hmem
  rcases hmem with hmem | rfl
  · exact hs.retired s hmem
  · exact hs.sink

/-- A download that is aborted and followed by another one. -/
theorem sessions_isolated_abort :
    let quiet : View := ⟨false, ⟨"mmc", "a"⟩, .room, none⟩
    let m : Moments := ⟨quiet, quiet, quiet⟩
    let config : DfuConfig := ⟨.default, none, 64, 10⟩
    let inputs : List Input := [⟨.dnload 0 (List.replicate 20 1), m⟩, ⟨.abort, m⟩,
      ⟨.dnload 0 (List.replicate 18 2), m⟩]
    Along Dfu.step TransferSafe (Dfu.new config) inputs ∧
      (downloads ⟨[], []⟩ (Dfu.new config) inputs).Holds
        (run Dfu.step (Dfu.new config) inputs).sink.fedBytes := by
  intro quiet m config inputs
  have hsafe : Along Dfu.step TransferSafe (Dfu.new config) inputs := by
    refine ⟨?_, ?_, ?_, trivial⟩
    · exact fun _ h => absurd h (by decide)
    · exact fun _ h => absurd h (by decide)
    · exact fun _ h => absurd h (by decide)
  exact ⟨hsafe, (sessions_isolated config inputs inputs (List.prefix_refl _) hsafe).2
    (run Dfu.step (Dfu.new config) inputs).sink (by simp)⟩

/-- `CLRSTATUS` in the middle of a download, and a short `UPLOAD` block in the middle of a
download: the handler is idle with an open session, and the session goes on to take bytes of the
next download. -/
theorem idle_with_open_session :
    let quiet : View := ⟨false, ⟨"mmc", "a"⟩, .room, none⟩
    let m : Moments := ⟨quiet, quiet, quiet⟩
    let config : DfuConfig := ⟨.default, some (.data [9]), 64, 10⟩
    let first : Input := ⟨.dnload 0 (List.replicate 18 1), m⟩
    let second : Input := ⟨.dnload 0 (List.replicate 18 2), m⟩
    ∀ idle ∈ [Event.clrStatus, Event.upload 0 64],
      let d := run Dfu.step (Dfu.new config) [first, ⟨idle, m⟩]
      d.state = .dfuIdle ∧ d.sink.isOpen = true ∧ ¬ Clean d ∧
        1 ∈ (run Dfu.step d [second]).sink.fedBytes ∧
        2 ∈ (run Dfu.step d [second]).sink.fedBytes ∧
        ¬ (downloads ⟨[], []⟩ (Dfu.new config) [first, ⟨idle, m⟩, second]).Holds
          (run Dfu.step d [second]).sink.fedBytes := by
  intro quiet m config first second idle hidle d
  have hopen : d.sink.isOpen = true := by
    rcases List.mem_pair.1 hidle with rfl | rfl <;> decide +kernel
  have hclean : ¬ Clean d := by
    intro h
    have hclosed := h.sink
    rw [hopen] at hclosed
    cases hclosed
  refine ⟨?_, hopen, hclean, ?_, ?_, ?_⟩
  · rcases List.mem_pair.1 hidle with rfl | rfl <;> decide +kernel
  · rcases List.mem_pair.1 hidle with rfl | rfl <;> decide +kernel
  · rcases List.mem_pair.1 hidle with rfl | rfl <;> decide +kernel
  · rcases List.mem_pair.1 hidle with rfl | rfl <;> decide +kernel

end SummitUsbgadget.DfuFunction
