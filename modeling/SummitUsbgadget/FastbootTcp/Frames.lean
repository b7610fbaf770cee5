import SummitUsbgadget.FastbootTcp.Wire

/-!
# Frames that do not fit the payload

The data phase counts the announced bytes and the bytes of the current frame apart from each other.
It ends with the announced bytes, whatever is left of the frame, and it takes a read of no byte for
the end of the connection, also if the frame has none. `land` follows the frames to the place where
the data phase leaves them, and `streamDownload_lands` says that the program stops there and nowhere
else, unless SWUpdate or the writing of a reply fails first. The stream is at the header of a frame
afterwards, and an error means that the peer is gone, if the frames are `Regular` and in no other
case (`frames_aligned_iff`).
-/

set_option autoImplicit false

namespace SummitUsbgadget.FastbootTcp

open SummitUsbgadget.Lib
open SummitUsbgadget.Lib.Program
open SummitUsbgadget.Swupdate
open SummitUsbgadget.Fastboot

/-- Frames as they come over the stream. -/
def stream (frames : List Bytes) : Bytes := (frames.map frame).flatten

theorem stream_cons (f : Bytes) (after : List Bytes) :
    stream (f :: after) = toBeBytes f.length ++ (f ++ stream after) := by
  simp [stream, frame]

/-- Where a data phase leaves the frames. -/
inductive Landing where
  /-- Behind a frame; these follow. -/
  | boundary (after : List Bytes)
  /-- With a part of a frame still to come. -/
  | inside
  /-- Behind an empty frame, with payload still to come. -/
  | empty (after : List Bytes)
  /-- At the end of the stream, with payload still to come. -/
  | closed
  deriving DecidableEq, Repr

/-- Follows the frames for `n` bytes of payload, from a place with `h` bytes of a frame to come. -/
def land : List Bytes → Nat → Nat → Landing
  | [], n, h => if n < h then .inside else if n = h then .boundary [] else .closed
  | f :: after, n, h =>
      if n < h then .inside
      else if n = h then .boundary (f :: after)
      else if f = [] then .empty after
      else land after (n - h) f.length

/-! ## Following the frames -/

section Land

variable {n h : Nat} {f : Bytes} {after : List Bytes}

theorem land_of_lt (frames : List Bytes) (hlt : n < h) : land frames n h = .inside := by
  cases frames with
  | nil => exact if_pos hlt
  | cons f after => exact if_pos hlt

theorem land_self (frames : List Bytes) (n : Nat) : land frames n n = .boundary frames := by
  cases frames with
  | nil => exact (if_neg (Nat.lt_irrefl n)).trans (if_pos rfl)
  | cons f after => exact (if_neg (Nat.lt_irrefl n)).trans (if_pos rfl)

theorem land_nil (hlt : h < n) : land [] n h = .closed :=
  (if_neg (Nat.lt_asymm hlt)).trans (if_neg (Nat.ne_of_gt hlt))

theorem land_cons (f : Bytes) (after : List Bytes) (hlt : h < n) :
    land (f :: after) n h = if f = [] then .empty after else land after (n - h) f.length :=
  (if_neg (Nat.lt_asymm hlt)).trans (if_neg (Nat.ne_of_gt hlt))

/-- Bytes of the current frame do not change where it ends. -/
theorem land_take (frames : List Bytes) {k : Nat} (hn : k ≤ n) (hh : k ≤ h) :
    land frames (n - k) (h - k) = land frames n h := by
  rcases Nat.lt_trichotomy n h with hlt | rfl | hgt
  · rw [land_of_lt frames hlt, land_of_lt frames (by omega)]
  · rw [land_self, land_self]
  · have hgt' : h - k < n - k := by omega
    have hdiff : n - k - (h - k) = n - h := by omega
    cases frames with
    | nil => rw [land_nil hgt, land_nil hgt']
    | cons f after => rw [land_cons f after hgt, land_cons f after hgt', hdiff]

/-- Nor does the header of a frame with bytes in it. -/
theorem land_header (hn : n ≠ 0) (hf : f ≠ []) : land (f :: after) n 0 = land after n f.length := by
  rw [land_cons f after (Nat.pos_of_ne_zero hn), if_neg hf, Nat.sub_zero]

/-- A payload that ends in the current frame ends behind it only if nothing of the frame is left. -/
theorem land_boundary_of_le {frames : List Bytes} (hle : n ≤ h) :
    land frames n h = .boundary after ↔
      ∃ front, frames = front ++ after ∧ (∀ f ∈ front, f ≠ []) ∧ h + front.flatten.length = n := by
  rcases Nat.lt_or_eq_of_le hle with hlt | rfl
  · rw [land_of_lt _ hlt]
    refine ⟨nofun, ?_⟩
    rintro ⟨front, -, -, hlen⟩
    omega
  · rw [land_self]
    constructor
    · intro hland
      cases hland
      exact ⟨[], rfl, nofun, rfl⟩
    · rintro ⟨front, hframes, hne, hlen⟩
      -- nothing is left of the payload, so no frame with bytes is in front
      cases front with
      | nil => rw [hframes, List.nil_append]
      | cons g front =>
          have hpos := List.length_pos_iff.2 (hne g (List.mem_cons_self ..))
          rw [List.flatten_cons, List.length_append] at hlen
          omega

/-- A payload that goes on behind the current frame takes the next one, if that has bytes. -/
theorem exists_front_cons_iff {frames : List Bytes} (hlt : h < n) :
    (∃ front, f :: frames = front ++ after ∧ (∀ g ∈ front, g ≠ []) ∧
        h + front.flatten.length = n) ↔
      f ≠ [] ∧ ∃ front, frames = front ++ after ∧ (∀ g ∈ front, g ≠ []) ∧
        f.length + front.flatten.length = n - h := by
  constructor
  · rintro ⟨front, hframes, hne, hlen⟩
    cases front with
    | nil =>
        rw [List.flatten_nil, List.length_nil] at hlen
        omega
    | cons g front =>
        rw [List.cons_append, List.cons.injEq] at hframes
        obtain ⟨rfl, rfl⟩ := hframes
        obtain ⟨hf, hfront⟩ := List.forall_mem_cons.1 hne
        rw [List.flatten_cons, List.length_append] at hlen
        exact ⟨hf, front, rfl, hfront, by omega⟩
  · rintro ⟨hf, front, rfl, hne, hlen⟩
    refine ⟨f :: front, rfl, List.forall_mem_cons.2 ⟨hf, hne⟩, ?_⟩
    rw [List.flatten_cons, List.length_append]
    omega

/-- Behind a frame: the frames up to there have bytes, and those of the payload together. -/
theorem land_boundary_iff {frames : List Bytes} :
    land frames n h = .boundary after ↔
      ∃ front, frames = front ++ after ∧ (∀ f ∈ front, f ≠ []) ∧ h + front.flatten.length = n := by
  induction frames generalizing n h with
  | nil =>
      rcases Nat.lt_or_ge h n with hlt | hle
      · rw [land_nil hlt]
        refine ⟨nofun, ?_⟩
        rintro ⟨front, hnil, -, hlen⟩
        obtain ⟨rfl, -⟩ := List.append_eq_nil_iff.1 hnil.symm
        exact absurd hlen (Nat.ne_of_lt hlt)
      · exact land_boundary_of_le hle
  | cons f frames ih =>
      rcases Nat.lt_or_ge h n with hlt | hle
      · rw [land_cons f frames hlt, exists_front_cons_iff hlt, ← ih]
        by_cases hf : f = []
        · rw [if_pos hf]
          exact ⟨nofun, fun hfront => absurd hf hfront.1⟩
        · rw [if_neg hf]
          exact ⟨fun hland => ⟨hf, hland⟩, fun hfront => hfront.2⟩
      · exact land_boundary_of_le hle

/-- A payload that ends in the current frame does not come to the end of the stream. -/
theorem land_end_of_le {frames : List Bytes} (hle : n ≤ h) :
    (land frames n h = .closed ∨ land frames n h = .empty []) ↔
      h + frames.flatten.length < n ∧ ∀ f ∈ frames.dropLast, f ≠ [] := by
  refine iff_of_false ?_ fun hend => absurd hend.1 (by omega)
  rcases Nat.lt_or_eq_of_le hle with hlt | rfl
  · rw [land_of_lt _ hlt]
    simp
  · rw [land_self]
    simp

/-- At the end of the stream: the frames do not have enough bytes, and an empty one is the last. -/
theorem land_end_iff {frames : List Bytes} :
    (land frames n h = .closed ∨ land frames n h = .empty []) ↔
      h + frames.flatten.length < n ∧ ∀ f ∈ frames.dropLast, f ≠ [] := by
  induction frames generalizing n h with
  | nil =>
      rcases Nat.lt_or_ge h n with hlt | hle
      · rw [land_nil hlt]
        exact ⟨fun _ => ⟨hlt, nofun⟩, fun _ => Or.inl rfl⟩
      · exact land_end_of_le hle
  | cons f frames ih =>
      rcases Nat.lt_or_ge h n with hlt | hle
      · rw [land_cons f frames hlt]
        by_cases hf : f = []
        · subst hf
          rw [if_pos rfl]
          cases frames with
          | nil => exact ⟨fun _ => ⟨hlt, nofun⟩, fun _ => Or.inr rfl⟩
          | cons g frames => simp
        · rw [if_neg hf, ih, List.flatten_cons, List.length_append]
          have hshort : f.length + frames.flatten.length < n - h ↔
              h + (f.length + frames.flatten.length) < n := by omega
          have hlast : (∀ g ∈ (f :: frames).dropLast, g ≠ []) ↔ ∀ g ∈ frames.dropLast, g ≠ [] := by
            cases frames with
            | nil => simp
            | cons g frames => simp [hf]
          rw [hshort, hlast]
      · exact land_end_of_le hle

end Land

/-- The payload comes in whole frames with bytes in them; or the frames do not have enough bytes,
and only the last one may be empty. -/
def Regular (total : Nat) (frames : List Bytes) : Prop :=
  (∃ front after, frames = front ++ after ∧ (∀ f ∈ front, f ≠ []) ∧ front.flatten.length = total) ∨
    (frames.flatten.length < total ∧ ∀ f ∈ frames.dropLast, f ≠ [])

theorem regular_iff {total : Nat} {frames : List Bytes} :
    Regular total frames ↔ (∃ after, land frames total 0 = .boundary after) ∨
      land frames total 0 = .closed ∨ land frames total 0 = .empty [] := by
  rw [land_end_iff, Nat.zero_add]
  refine or_congr ?_ Iff.rfl
  constructor
  · rintro ⟨front, after, hframes, hne, hlen⟩
    exact ⟨after, land_boundary_iff.2 ⟨front, hframes, hne, by rw [Nat.zero_add, hlen]⟩⟩
  · rintro ⟨after, hland⟩
    obtain ⟨front, hframes, hne, hlen⟩ := land_boundary_iff.1 hland
    rw [Nat.zero_add] at hlen
    exact ⟨front, after, hframes, hne, hlen⟩

/-! ## The places of the data source -/

/-- The data source is at a place with `n` bytes of payload to come, from where it lands at `L`. -/
def Placed (L : Landing) (n : Nat) (s : TcpFastbootSession) (w : Wire) : Prop :=
  s.remaining = n ∧ ∃ (head : Bytes) (after : List Bytes), head.length = s.frameRemaining ∧
    (∀ f ∈ after, f.length < 2 ^ 64) ∧ land after n head.length = L ∧ w.bytes = head ++ stream after

/-- It has stopped with an error, and these bytes were not read. -/
def Halted (L : Landing) (bytes : Bytes) : Prop :=
  (L = .closed ∧ bytes = []) ∨ ∃ after, L = .empty after ∧ bytes = stream after

/-- An open transfer that has no verdict yet. -/
def Open (d : Session) : Prop := (∃ k, d.tx = some k) ∧ d.status.isSome ∧ d.terminal = none

/-- Nothing but the stream can end the data phase with an error. -/
def Taking (d : Session) (o : Answers) : Prop := Open d ∧ Accepting o ∧ Written o

/-- At such a place; what is known of the session is known under the assumption `T`. -/
structure Streaming (T : Prop) (L : Landing) (n : Nat) (s : TcpFastbootSession)
    (w : Wire) : Prop where
  placed : Placed L n s w
  session : T → Open s.sink
  answers : T → Accepting w.answers ∧ Written w.answers

theorem feeds_open :
    Feeds (fun o => Accepting o ∧ Written o) (fun _ => Open) (fun _ => False) fun _ => False := by
  have hopen : ∀ {k d got d'}, d.tx = some k → d.status.isSome → d.terminal = none →
      FedWith k d got d' → Open d' := by
    rintro k d got d' htx hstatus hterm ⟨blocks, -, -, rfl⟩
    exact ⟨⟨k, htx⟩, hstatus, hterm⟩
  have hfresh : ∀ k d, FedWith k d [] d := fun k d => ⟨[], rfl, nofun, by simp⟩
  constructor
  · exact fun o j ho => ⟨fun n => ho.1 (n + j), fun n => ho.2 (n + j)⟩
  · exact fun o data ho => ho.2 0 data
  · rintro got s o ho ⟨⟨k, htx⟩, hstatus, hterm⟩
    rcases (feeds_accepting htx hstatus hterm).peek [] s o ho (hfresh k s.sink) with
      ⟨hnone, hfed⟩ | ⟨-, hno⟩
    · exact Or.inl ⟨hnone, hopen htx hstatus hterm hfed⟩
    · exact hno.elim
  · rintro got data s o ho ⟨⟨k, htx⟩, hstatus, hterm⟩ hlen
    rcases (feeds_accepting htx hstatus hterm).send [] data s o ho (hfresh k s.sink) hlen with
      ⟨hok, hfed⟩ | ⟨-, hno⟩
    · exact Or.inl ⟨hok, hopen htx hstatus hterm hfed⟩
    · exact hno.elim
  · exact fun s o ho hno => hno.elim

section Source

variable {T : Prop} {L : Landing} {n : Nat}

/-- A new frame is begun, if there is one with bytes in it. -/
theorem nextFrame_lands (hn : n ≠ 0) :
    Triple wire (Streaming T L n) nextFrame fun r s w =>
      (r = .ok () ∧ s.frameRemaining ≠ 0 ∧ Streaming T L n s w) ∨
        ((r = .ok () → s.frameRemaining = 0) ∧ Halted L w.bytes) := by
  refine triple_read fun left => triple_ite (fun hzero => triple_intro ?_) fun hmore => ?_
  · rintro s w ⟨⟨⟨hremaining, head, after, hhead, hlt, hland, hbytes⟩, hsession, ho⟩, hleft⟩
    obtain rfl : head = [] := List.length_eq_zero_iff.1 (by omega)
    cases after with
    | nil =>
        refine ⟨At (fun o => T → Accepting o ∧ Written o) s [], ⟨rfl, hbytes, ho⟩,
          triple_attempt_ok readHeader_closed (triple_pure fun s' w' hat => ?_)⟩
        exact Or.inr ⟨nofun, Or.inl ⟨hland.symm.trans (land_nil (Nat.pos_of_ne_zero hn)), hat.2.1⟩⟩
    | cons f after =>
        obtain ⟨hflen, hafter⟩ := List.forall_mem_cons.1 hlt
        rw [List.nil_append, stream_cons] at hbytes
        refine ⟨At (fun o => T → Accepting o ∧ Written o) s _, ⟨rfl, hbytes, ho⟩,
          triple_attempt_ok (readHeader_triple hflen _) ?_⟩
        rintro s' w' ⟨rfl, hbytes', ho'⟩
        by_cases hf : f = []
        · -- the header is all there is of an empty frame
          subst hf
          refine Or.inr ⟨fun _ => rfl, Or.inr ⟨after, ?_, hbytes'⟩⟩
          rw [← hland, List.length_nil, land_cons [] after (Nat.pos_of_ne_zero hn), if_pos rfl]
        · have hpos := List.length_pos_iff.2 hf
          refine Or.inl ⟨rfl, Nat.ne_of_gt hpos, ⟨hremaining, f, after, rfl, hafter, ?_, hbytes'⟩,
            hsession, ho'⟩
          rw [← hland, List.length_nil, land_header hn hf]
  · refine triple_pure fun s w ⟨hstreaming, hleft⟩ => Or.inl ⟨rfl, ?_, hstreaming⟩
    rw [hleft]
    exact hmore

/-- What a block leaves of `n` bytes of payload. -/
def ReadTo (T : Prop) (L : Landing) (n : Nat) :
    Except IoError (Option Bytes) → TcpFastbootSession → Wire → Prop
  | .error _, _, w => Halted L w.bytes
  | .ok none, s, w => Streaming T L 0 s w
  | .ok (some block), s, w =>
      block.length ≤ recvBufferSize ∧ ∃ m, m < n ∧ Streaming T L m s w

theorem readBlock_lands : Triple wire (Streaming T L n) readBlock (ReadTo T L n) := by
  refine triple_read fun remaining => triple_ite (fun hzero => ?_) fun hmore => ?_
  · refine triple_pure fun s w ⟨hstreaming, hremaining⟩ => ?_
    obtain rfl : n = 0 := hstreaming.placed.1.symm.trans (hremaining.trans hzero)
    exact hstreaming
  · refine triple_intro fun s w ⟨hstreaming, hremaining⟩ => ?_
    have hn : n ≠ 0 := by
      rw [← hstreaming.placed.1, hremaining]
      exact hmore
    refine ⟨_, hstreaming, triple_attempt (nextFrame_lands hn) ?_ fun _ => ?_⟩
    · rintro err s w (⟨hok, -⟩ | ⟨-, hhalted⟩)
      · cases hok
      · exact hhalted
    · refine triple_read fun want => triple_intro ?_
      rintro s w ⟨⟨-, hframe, ⟨hleft, head, after, hhead, hlt, hland, hbytes⟩, hsession, ho⟩ |
        ⟨hzero, hhalted⟩, hwant⟩
      · have hsize : recvBufferSize ≠ 0 := by decide
        refine ⟨At (fun o => T → Accepting o ∧ Written o) s _, ⟨rfl, hbytes, ho⟩,
          triple_attempt (readInto_triple (by omega) head _ (by omega)) ?_ ?_⟩
        · rintro err s' w' ⟨front, back, -, -, -, hok, -⟩
          cases hok
        · rintro block s' w' ⟨front, back, rfl, hblock, hfits, hok, rfl, hbytes', ho'⟩
          obtain rfl := Except.ok.inj hok
          have hpos := List.length_pos_iff.2 hblock
          rw [if_neg hblock]
          rw [List.length_append] at hhead hland
          refine ⟨by omega, n - block.length, by omega, ⟨?_, back, after, ?_, hlt, ?_, hbytes'⟩,
            hsession, ho'⟩
          · change s'.remaining - block.length = _
            rw [hleft]
          · change back.length = s'.frameRemaining - block.length
            omega
          · have hback : back.length = block.length + back.length - block.length := by omega
            rw [hback, land_take after (by omega) (by omega)]
            exact hland
      · -- behind an empty frame no byte is asked for
        have hnothing : want = 0 := by
          rw [← hwant, hzero rfl]
          simp
        refine ⟨At (fun _ => True) s _, ⟨rfl, rfl, trivial⟩,
          triple_attempt_ok (readInto_nothing (Or.inl hnothing)) ?_⟩
        rw [if_pos rfl]
        refine triple_pure fun s' w' hat => ?_
        change Halted L w'.bytes
        rw [hat.2.1]
        exact hhalted

theorem ofStream_placed (L : Landing) (n : Nat) : OfStream (Placed L n) := by
  rintro s s' w w' hsame hbytes ⟨hremaining, head, after, hhead, hlt, hland, hstream⟩
  simp only [Prod.mk.injEq] at hsame
  obtain ⟨hframe, hleft, -⟩ := hsame
  refine ⟨?_, head, after, ?_, hlt, hland, ?_⟩
  · rw [hleft]
    exact hremaining
  · rw [hframe]
    exact hhead
  · rw [hbytes]
    exact hstream

/-- A call that only the session answers stays at the place. -/
theorem streaming_session {α : Type} {p : Async α}
    (hasks : Meets (fun q => ∀ want, q ≠ Query.read want) (fun _ _ => True) p)
    (hkeeps : Keeps (fun s : TcpFastbootSession => (s.frameRemaining, s.remaining, s.sent)) p)
    {R : α → Prop}
    (h : T → ∀ s o, Accepting o ∧ Written o → Open s.sink →
      R (exec p s o).1 ∧ Open (exec p s o).2.1.sink) :
    Triple wire (Streaming T L n) p fun r s w => (T → R r) ∧ Streaming T L n s w := by
  have hshift : ∀ (o : Answers) k, (T → Accepting o ∧ Written o) →
      T → Accepting (fun n => o (n + k)) ∧ Written fun n => o (n + k) :=
    fun o k ho hT => feeds_open.answers o k (ho hT)
  have hsession : ∀ s o, (T → Accepting o ∧ Written o) → (T → Open s.sink) →
      T → R (exec p s o).1 ∧ Open (exec p s o).2.1.sink :=
    fun s o ho hopen hT => h hT s o (ho hT) (hopen hT)
  refine triple_conseq (triple_beside (P := fun d => T → Open d)
    (R := fun r d => T → R r ∧ Open d) hshift hasks hkeeps hsession (ofStream_placed L n)) ?_ ?_
  · exact fun s w h => ⟨h.placed, h.session, h.answers⟩
  · rintro r s w ⟨hplaced, hR, ho⟩
    exact ⟨fun hT => (hR hT).1, hplaced, fun hT => (hR hT).2, ho⟩

theorem peekVerdict_lands :
    Triple wire (Streaming T L n) peekVerdict fun r s w => (T → r = none) ∧
      Streaming T L n s w := by
  refine streaming_session (meets_peekVerdict (query_ne_read _))
    (keeps_peekVerdict fun _ _ => rfl) ?_
  intro _ s o ho hopen
  rcases feeds_open.peek [] s o ho hopen with hnone | ⟨-, hno⟩
  · exact hnone
  · exact hno.elim

theorem send_lands {data : Bytes} (hfits : data.length ≤ recvBufferSize) :
    Triple wire (Streaming T L n) (Swupdate.send data) fun r s w =>
      (T → ∃ len, r = .ok (.ok len)) ∧ Streaming T L n s w := by
  refine streaming_session (meets_send (query_ne_read _) (query_ne_read _) data)
    (keeps_send (fun _ _ => rfl) data) ?_
  intro _ s o ho hopen
  rcases feeds_open.send [] data s o ho hopen hfits with hok | ⟨-, hno⟩
  · exact hok
  · exact hno.elim

/-- The verdict is only waited for if SWUpdate does not take every block. -/
theorem finished_lands (hT : ¬ T) :
    Triple wire (Streaming T L n) Swupdate.finished fun _ s w => Streaming T L n s w := by
  refine triple_conseq (streaming_session (R := fun _ => True) (meets_finished (query_ne_read _))
    (keeps_finished fun _ _ => rfl) fun h => absurd h hT) (fun s w h => h) ?_
  exact fun r s w h => h.2

end Source

/-! ## The whole data phase -/

section Loops

variable {T : Prop} {L : Landing} {n : Nat}

/-- What the pump leaves of `n` bytes of payload. -/
def PumpedTo (T : Prop) (L : Landing) (n : Nat) :
    Except IoError PumpEnd → TcpFastbootSession → Wire → Prop
  | .error _, _, w => T → Halted L w.bytes
  | .ok .inputClosed, s, w => Streaming T L 0 s w
  | .ok (.swupdateFinished (.ok ())), s, w => ∃ m, m < n ∧ Streaming T L m s w
  | .ok (.swupdateFinished (.error _)), _, _ => ¬ T

/-- A verdict ends the pump. -/
theorem pumpedTo_finished (hT : ¬ T) {m : Nat} (hm : m < n) {s : TcpFastbootSession} {w : Wire}
    (h : Streaming T L m s w) (result : Except IoError Unit) :
    PumpedTo T L n (.ok (.swupdateFinished result)) s w := by
  cases result with
  | error err => exact hT
  | ok => exact ⟨m, hm, h⟩

theorem pump_lands (n k : Nat) :
    Triple wire (fun s w => ∃ m, m ≤ n ∧ m < k ∧ Streaming T L m s w)
      (pumpToSwupdate readBlock k) (PumpedTo T L n) := by
  refine triple_pumpToSwupdate (I := fun k s w => ∃ m, m ≤ n ∧ m < k ∧ Streaming T L m s w)
    (B := fun k data s w => data.length ≤ recvBufferSize ∧ ∃ m, m < n ∧ m < k ∧ Streaming T L m s w)
    (C := fun k data s w => data.length ≤ recvBufferSize ∧ ∃ m, m < n ∧ m < k ∧ Streaming T L m s w)
    (D := fun s w => ¬ T ∧ ∃ m, m < n ∧ Streaming T L m s w) ?_ ?_ ?_ ?_ ?_ k
  · rintro s w ⟨m, -, hlt, -⟩
    exact absurd hlt (Nat.not_lt_zero _)
  · intro k
    refine triple_intro fun s w ⟨m, hle, hlt, hstreaming⟩ => ⟨_, hstreaming, ?_⟩
    refine triple_conseq readBlock_lands (fun _ _ h => h) fun r s' w' hread => ?_
    rcases r with err | - | data
    · exact fun _ => hread
    · exact hread
    · obtain ⟨hfits, m', hm, hread⟩ := hread
      exact ⟨hfits, m', by omega, by omega, hread⟩
  · intro k data
    refine triple_intro fun s w ⟨hfits, m, hm, hlt, hstreaming⟩ => ⟨_, hstreaming, ?_⟩
    refine triple_conseq peekVerdict_lands (fun _ _ h => h) fun r s' w' ⟨hnone, hread⟩ => ?_
    cases r with
    | none => exact ⟨hfits, m, hm, hlt, hread⟩
    | some result => exact pumpedTo_finished (fun hT => nomatch hnone hT) hm hread result
  · intro k data
    refine triple_intro fun s w ⟨hfits, m, hm, hlt, hstreaming⟩ => ⟨_, hstreaming, ?_⟩
    refine triple_conseq (send_lands hfits) (fun _ _ h => h) fun r s' w' ⟨hok, hread⟩ => ?_
    -- where SWUpdate takes every block, sending it has no other result
    have hnot : (∀ len, r ≠ .ok (.ok len)) → ¬ T := by
      intro hother hT
      obtain ⟨len, hr⟩ := hok hT
      exact hother len hr
    rcases r with err | len | item | -
    · exact fun hT => absurd hT (hnot nofun)
    · exact ⟨m, Nat.le_of_lt hm, hlt, hread⟩
    · exact ⟨m, Nat.le_of_lt hm, hlt, hread⟩
    · exact ⟨hnot nofun, m, hm, hread⟩
  · refine triple_intro fun s w ⟨hT, m, hm, hstreaming⟩ => ⟨_, hstreaming, ?_⟩
    exact triple_conseq (finished_lands hT) (fun _ _ h => h) fun r s' w' hread =>
      pumpedTo_finished hT hm hread r

/-- What the loop leaves. -/
def LoopedTo (T : Prop) (L : Landing) : Except IoError Unit → TcpFastbootSession → Wire → Prop
  | .error _, _, w => T → Halted L w.bytes
  | .ok (), s, w => Streaming T L 0 s w

theorem drain_lands (k : Nat) :
    Triple wire (fun s w => ∃ m, m < k ∧ Streaming T L m s w) (streamLoop k false)
      (LoopedTo T L) := by
  induction k with
  | zero =>
      rintro s w ⟨m, hlt, -⟩
      exact absurd hlt (Nat.not_lt_zero _)
  | succ k ih =>
      refine triple_read fun remaining => triple_ite (fun hzero => ?_) fun hmore => ?_
      · refine triple_pure fun s w ⟨⟨m, hlt, hstreaming⟩, hremaining⟩ => ?_
        obtain rfl : m = 0 := hstreaming.placed.1.symm.trans (hremaining.trans hzero)
        exact hstreaming
      · rw [if_pos Bool.not_false]
        refine triple_intro fun s w ⟨⟨m, hlt, hstreaming⟩, hremaining⟩ => ⟨_, hstreaming, ?_⟩
        have hm : 0 < m := by
          rw [← hstreaming.placed.1, hremaining]
          exact Nat.pos_of_ne_zero hmore
        refine triple_attempt readBlock_lands (fun err s' w' hread _ => hread) fun block => ?_
        refine triple_conseq ih (fun s' w' hread => ?_) fun r s' w' h => h
        cases block with
        | none => exact ⟨0, by omega, hread⟩
        | some data =>
            obtain ⟨-, m', hm', hread⟩ := hread
            exact ⟨m', by omega, hread⟩

theorem streamLoop_lands :
    Triple wire (Streaming T L n) (streamLoop (n + 1) true) (LoopedTo T L) := by
  refine triple_read fun remaining => triple_ite (fun hzero => ?_) fun hmore => ?_
  · refine triple_pure fun s w ⟨hstreaming, hremaining⟩ => ?_
    obtain rfl : n = 0 := hstreaming.placed.1.symm.trans (hremaining.trans hzero)
    exact hstreaming
  · rw [if_neg (by simp)]
    have hpump : Triple wire (fun s w => Streaming T L n s w ∧ s.remaining = remaining)
        (pumpToSwupdate readBlock (remaining + 1)) (PumpedTo T L n) := by
      refine triple_conseq (pump_lands n _) ?_ fun r s w h => h
      rintro s w ⟨hstreaming, rfl⟩
      refine ⟨n, Nat.le_refl n, ?_, hstreaming⟩
      rw [hstreaming.placed.1]
      exact Nat.lt_succ_self n
    refine triple_attempt hpump (fun err s w h => h) fun e => ?_
    match e with
    | .inputClosed => exact triple_pure fun s w h => h
    | .swupdateFinished (.ok ()) => exact drain_lands n
    | .swupdateFinished (.error err) =>
        refine triple_bind (M := fun _ _ _ => ¬ T) (fun s w h => h) fun _ => ?_
        refine triple_bind (M := fun _ _ _ => ¬ T) (fun s w h => h) fun _ => ?_
        exact triple_pure fun s w hT hT' => absurd hT' hT

/-- What the data phase leaves. -/
def LandsAt (T : Prop) (L : Landing) : Except IoError Unit → TcpFastbootSession → Wire → Prop
  | .error _, _, w => T → Halted L w.bytes
  | .ok (), s, w => Placed L 0 s w

theorem okay_lands (data : Bytes) :
    Triple wire (Streaming T L 0) (sendPacket data) (LandsAt T L) := by
  rintro s w ⟨hplaced, -, ho⟩
  change LandsAt T L (w.answers 0 (.write (frame data))) _ _
  cases hwrite : w.answers 0 (.write (frame data)) with
  | ok => exact hplaced
  | error err =>
      intro hT
      rw [(ho hT).2 0] at hwrite
      cases hwrite

/-- Every run of the data phase ends where the frames say, with the announced bytes read or with an
error that the frames say. -/
theorem streamDownload_lands (total : Nat) {frames : List Bytes}
    (hlen : ∀ f ∈ frames, f.length < 2 ^ 64) :
    Triple wire (fun s w => w.bytes = stream frames ∧ (T → Taking s.sink w.answers))
      (streamDownload total) (LandsAt T (land frames total 0)) := by
  refine triple_update (triple_attempt streamLoop_lands (fun err s w h => h) fun _ =>
    okay_lands Reply.okay) ?_
  rintro s w ⟨hbytes, hT⟩
  exact ⟨⟨rfl, [], frames, rfl, hlen, rfl, hbytes⟩, fun h => (hT h).1, fun h => (hT h).2⟩

end Loops

/-! ## Alignment -/

/-- With the announced bytes read, the source is inside a frame or at the header of the next one. -/
theorem Placed.ends {L : Landing} {s : TcpFastbootSession} {w : Wire} (h : Placed L 0 s w) :
    (L = .inside ∧ s.frameRemaining ≠ 0) ∨
      ∃ after, L = .boundary after ∧ s.frameRemaining = 0 ∧ w.bytes = stream after := by
  obtain ⟨-, head, after, hhead, -, hland, hbytes⟩ := h
  cases head with
  | nil =>
      rw [List.length_nil, land_self] at hland
      exact Or.inr ⟨after, hland.symm, hhead.symm, hbytes⟩
  | cons b head =>
      rw [List.length_cons] at hhead hland
      rw [land_of_lt after (Nat.succ_pos _)] at hland
      exact Or.inl ⟨hland.symm, by omega⟩

theorem stream_eq_nil {frames : List Bytes} (h : stream frames = []) : frames = [] := by
  cases frames with
  | nil => rfl
  | cons f after =>
      rw [stream_cons] at h
      have hlen := congrArg List.length h
      rw [List.length_append, length_toBeBytes, List.length_nil] at hlen
      omega

/-- However the stream is cut and whatever SWUpdate does, the data phase ends with an error, or
behind whole frames that have the announced bytes. If nothing but the stream can fail, an error
means that the peer's stream is at its end. -/
def Aligned (total : Nat) (frames : List Bytes) : Prop :=
  ∀ (s : TcpFastbootSession) (w : Wire), w.bytes = stream frames →
    ((execIn wire (streamDownload total) s w).1 = .ok () →
      (execIn wire (streamDownload total) s w).2.1.frameRemaining = 0 ∧
        ∃ front after, frames = front ++ after ∧ front.flatten.length = total ∧
          (execIn wire (streamDownload total) s w).2.2.bytes = stream after) ∧
    (Taking s.sink w.answers → ∀ err, (execIn wire (streamDownload total) s w).1 = .error err →
      (execIn wire (streamDownload total) s w).2.2.bytes = [])

theorem taking_opened : Taking opened.sink accepted :=
  ⟨⟨⟨0, rfl⟩, rfl, rfl⟩, fun _ => ⟨rfl, rfl⟩, fun _ _ => rfl⟩

theorem frames_aligned_iff (total : Nat) {frames : List Bytes}
    (hlen : ∀ f ∈ frames, f.length < 2 ^ 64) : Aligned total frames ↔ Regular total frames := by
  constructor
  · intro haligned
    -- a session that takes every block leaves only what the frames say
    have hlands := streamDownload_lands (T := True) total hlen opened
      ⟨stream frames, fun _ => 1, accepted⟩ ⟨rfl, fun _ => taking_opened⟩
    obtain ⟨hok, herr⟩ := haligned opened ⟨stream frames, fun _ => 1, accepted⟩ rfl
    generalize execIn wire (streamDownload total) opened ⟨stream frames, fun _ => 1, accepted⟩ = r
      at hlands hok herr
    obtain ⟨err | ⟨⟩, s, w⟩ := r
    · rcases hlands trivial with ⟨hclosed, -⟩ | ⟨after, hempty, hbytes⟩
      · exact regular_iff.2 (Or.inr (Or.inl hclosed))
      · obtain rfl := stream_eq_nil (hbytes.symm.trans (herr taking_opened err rfl))
        exact regular_iff.2 (Or.inr (Or.inr hempty))
    · rcases Placed.ends hlands with ⟨-, hframe⟩ | ⟨after, hboundary, -, -⟩
      · exact absurd (hok rfl).1 hframe
      · exact regular_iff.2 (Or.inl ⟨after, hboundary⟩)
  · intro hregular s w hbytes
    have hlands := streamDownload_lands (T := Taking s.sink w.answers) total hlen s w
      ⟨hbytes, id⟩
    generalize execIn wire (streamDownload total) s w = r at hlands ⊢
    obtain ⟨err | ⟨⟩, s', w'⟩ := r
    · refine ⟨nofun, fun htaking _ _ => ?_⟩
      rcases hlands htaking with ⟨-, hend⟩ | ⟨after, hempty, hend⟩
      · exact hend
      · rcases regular_iff.1 hregular with ⟨after', hland⟩ | hland | hland
        · cases hland.symm.trans hempty
        · cases hland.symm.trans hempty
        · cases hland.symm.trans hempty
          exact hend
    · refine ⟨fun _ => ?_, nofun⟩
      rcases Placed.ends hlands with ⟨hinside, -⟩ | ⟨after, hboundary, hframe, hend⟩
      · rcases regular_iff.1 hregular with ⟨after', hland⟩ | hland | hland
        · cases hland.symm.trans hinside
        · cases hland.symm.trans hinside
        · cases hland.symm.trans hinside
      · obtain ⟨front, hframes, -, hfront⟩ := land_boundary_iff.1 hboundary
        rw [Nat.zero_add] at hfront
        exact ⟨hframe, front, after, hframes, hfront, hend⟩

theorem frames_aligned_iff_twoFrames : Aligned 3 [[1], [2, 3], bytes "flash"] :=
  (frames_aligned_iff 3 (by decide +kernel)).2
    (Or.inl ⟨[[1], [2, 3]], [bytes "flash"], rfl, by decide, rfl⟩)

/-- A frame of two bytes. -/
def overlong : Wire := ⟨stream [[1, 2]], fun _ => 1, accepted⟩

/-- A frame of no byte before a frame of one. -/
def blank : Wire := ⟨stream [[], [1]], fun _ => 1, accepted⟩

/-- With one byte announced, the other one is left where the next header is read, and after an empty
frame the peer is taken to be gone. -/
theorem frames_not_aligned :
    ((execIn wire (streamDownload 1) opened overlong).1 = .ok () ∧
        (execIn wire (streamDownload 1) opened overlong).2.1.frameRemaining = 1 ∧
        (execIn wire (streamDownload 1) opened overlong).2.2.bytes = [2]) ∧
      (execIn wire (streamDownload 1) opened blank).1 =
          .error (IoError.new .unexpectedEof "connection closed mid-download") ∧
        (execIn wire (streamDownload 1) opened blank).2.2.bytes = stream [[1]] :=
  ⟨⟨by decide +kernel, by decide +kernel, by decide +kernel⟩, by decide +kernel, by decide +kernel⟩

end SummitUsbgadget.FastbootTcp
