import SummitUsbgadget.Lib.Numeral
import SummitUsbgadget.Swupdate.Verdict
import SummitUsbgadget.FastbootTcp.Session

/-!
# The data phase on the wire

`Wire` is what a session sees of a peer that has sent its bytes: a read hands over the next of them,
at least one and at most as many as were asked for, and everything else is answered as it comes.
`Pending` says where the data source is in such a stream: how much of a frame is left, how much of
the payload, and which bytes come after it. `readBlock` moves it by one block, the two loops of
`stream_download` move it to the end, and `data_phase_exact` puts the pieces together.
-/

set_option autoImplicit false

namespace SummitUsbgadget.FastbootTcp

open SummitUsbgadget.Lib
open SummitUsbgadget.Lib.Program
open SummitUsbgadget.Swupdate
open SummitUsbgadget.Fastboot

/-- The peer's bytes that were not read yet, how much each of the next reads hands over, and the
answers to everything that is not a read. -/
structure Wire where
  bytes : Bytes
  cuts : Nat → Nat
  answers : Answers

/-- How many bytes the next read hands over: one at least, unless none was asked for. -/
def Wire.grant (w : Wire) (want : Nat) : Nat := min want (max 1 (w.cuts 0))

/-- What follows the next `n` bytes. -/
def Wire.skip (w : Wire) (n : Nat) : Wire :=
  { w with bytes := w.bytes.drop n, cuts := fun i => w.cuts (i + 1) }

def wire : Handler Wire Query Query.Answer
  | w, .read want => (.ok (w.bytes.take (w.grant want)), w.skip (w.grant want))
  | w, .session q => (w.answers 0 (.session q), { w with answers := w.answers.rest })
  | w, .write data => (w.answers 0 (.write data), { w with answers := w.answers.rest })
  | w, .shutdown => (w.answers 0 .shutdown, { w with answers := w.answers.rest })
  | w, .system => (w.answers 0 .system, { w with answers := w.answers.rest })

/-- Everything but the reads is answered from the wire's answers. -/
theorem wire_fromOracle : FromOracle wire (fun q => ∀ want, q ≠ .read want) Wire.answers
    fun o w => { w with answers := o } where
  answers_set _ _ := rfl
  set_set _ _ _ := rfl
  set_answers _ := rfl
  handle w q hq := by
    cases q with
    | read want => exact absurd rfl (hq want)
    | session q => rfl
    | write data => rfl
    | shutdown => rfl
    | system => rfl

/-! ## Numbers -/

@[simp] theorem length_toBeBytes (n : Nat) : (toBeBytes n).length = 8 := by
  simp [toBeBytes]

/-- The length field is a numeral in base 256. -/
theorem toBeBytes_eq (n : Nat) : toBeBytes n = (numeral 256 8 n).map UInt8.ofNat := by
  rw [numeral_eq_map, List.map_map]
  refine List.map_congr_left fun i _ => ?_
  exact UInt8.toNat_inj.1 (by simp)

/-- Eight bytes hold every length below `2 ^ 64`. -/
theorem fromBeBytes_toBeBytes {n : Nat} (hn : n < 2 ^ 64) : fromBeBytes (toBeBytes n) = n := by
  have hdigits : (numeral 256 8 n).foldl (fun n d => n * 256 + (UInt8.ofNat d).toNat) 0 =
      (numeral 256 8 n).foldl (fun n d => n * 256 + d) 0 := by
    refine List.foldl_ext _ _ _ fun acc d hd => ?_
    have hlt := lt_of_mem_numeral (by omega) hd
    rw [UInt8.toNat_ofNat', Nat.mod_eq_of_lt hlt]
  unfold fromBeBytes
  rw [toBeBytes_eq, List.foldl_map, hdigits, foldl_numeral, Nat.zero_mul, Nat.zero_add]
  exact Nat.mod_eq_of_lt hn

/-! ## Reading -/

/-- The session, and the bytes that the peer sends next. -/
def At (O : Answers → Prop) (s₀ : TcpFastbootSession) (bytes : Bytes) (s : TcpFastbootSession)
    (w : Wire) : Prop := s = s₀ ∧ w.bytes = bytes ∧ O w.answers

section Reading

variable {O : Answers → Prop} {s₀ : TcpFastbootSession}

/-- A read from what is left of the stream hands over a piece of its front. -/
theorem readInto_front {want : Nat} (hwant : want ≠ 0) {bytes : Bytes} (hbytes : bytes ≠ []) :
    Triple wire (At O s₀ bytes) (readInto want) fun r s w =>
      ∃ front back, bytes = front ++ back ∧ front ≠ [] ∧ front.length ≤ want ∧ r = .ok front ∧
        At O s₀ back s w := by
  rintro s w ⟨rfl, rfl, ho⟩
  have hgrant : w.grant want ≤ want := Nat.min_le_left _ _
  have hone : 1 ≤ w.grant want := by
    unfold Wire.grant
    omega
  refine ⟨w.bytes.take (w.grant want), w.bytes.drop (w.grant want),
    (List.take_append_drop _ _).symm, ?_, ?_, ?_, rfl, rfl, ho⟩
  · have hpos := List.length_pos_iff.2 hbytes
    rw [← List.length_pos_iff, List.length_take]
    omega
  · rw [List.length_take]
    omega
  · change Except.ok ((w.bytes.take (w.grant want)).take want) = _
    rw [List.take_take, Nat.min_eq_right hgrant]

/-- From a part of the stream that is long enough, the piece is one of that part. -/
theorem readInto_triple {want : Nat} (hwant : want ≠ 0) (data rest : Bytes)
    (hlen : want ≤ data.length) :
    Triple wire (At O s₀ (data ++ rest)) (readInto want) fun r s w =>
      ∃ front back, data = front ++ back ∧ front ≠ [] ∧ front.length ≤ want ∧ r = .ok front ∧
        At O s₀ (back ++ rest) s w := by
  have hne : data ++ rest ≠ [] := by
    rw [← List.length_pos_iff, List.length_append]
    omega
  refine triple_conseq (readInto_front hwant hne) (fun _ _ h => h) ?_
  rintro r s w ⟨front, back, hsplit, hfront, hle, hok, hat⟩
  obtain ⟨back', rfl⟩ : front <+: data :=
    List.prefix_of_prefix_length_le ⟨back, hsplit.symm⟩ (List.prefix_append data rest) (by omega)
  rw [List.append_assoc] at hsplit
  obtain rfl := List.append_cancel_left hsplit
  exact ⟨front, back', rfl, hfront, hle, hok, hat⟩

/-- However the stream is cut, the missing bytes come together. -/
theorem fill_triple (want n : Nat) (buf data rest : Bytes) (hlen : buf.length + data.length = want)
    (hn : data.length ≤ n) :
    Triple wire (At O s₀ (data ++ rest)) (fill want n buf) fun r s w =>
      r = .ok (buf ++ data, true) ∧ At O s₀ rest s w := by
  induction n generalizing buf data with
  | zero =>
      obtain rfl : data = [] := List.length_eq_zero_iff.1 (by omega)
      exact triple_pure fun s w h => ⟨by rw [List.append_nil], h⟩
  | succ n ih =>
      refine triple_ite (fun hfull => ?_) fun hmissing => ?_
      · obtain rfl : data = [] := List.length_eq_zero_iff.1 (by omega)
        exact triple_pure fun s w h => ⟨by rw [List.append_nil], h⟩
      · refine triple_attempt (readInto_triple (by omega) data rest (by omega)) ?_ fun got => ?_
        · rintro err s w ⟨front, back, -, -, -, hok, -⟩
          cases hok
        · -- the bytes that came go to the buffer; one fewer turn is left for at least one fewer
          -- byte
          rintro s w ⟨front, back, rfl, hne, -, hok, hat⟩
          obtain rfl := Except.ok.inj hok
          rw [if_neg hne, ← List.append_assoc]
          have hpos := List.length_pos_iff.2 hne
          rw [List.length_append] at hlen hn
          refine ih (buf ++ got) back ?_ (by omega) s w hat
          rw [List.length_append]
          omega

theorem readHeader_triple {n : Nat} (hn : n < 2 ^ 64) (rest : Bytes) :
    Triple wire (At O s₀ (toBeBytes n ++ rest)) readHeader fun r s w =>
      r = .ok (some n) ∧ At O s₀ rest s w := by
  refine triple_attempt_ok (fill_triple 8 8 [] (toBeBytes n) rest (by simp) (by simp)) ?_
  refine triple_pure fun s w hat => ⟨?_, hat⟩
  rw [List.nil_append, fromBeBytes_toBeBytes hn]

/-- A read of no byte, or at the end of the stream. -/
theorem readInto_nothing {want : Nat} {bytes : Bytes} (h : want = 0 ∨ bytes = []) :
    Triple wire (At O s₀ bytes) (readInto want) fun r s w => r = .ok [] ∧ At O s₀ bytes s w := by
  rintro s w ⟨rfl, rfl, ho⟩
  have htake : w.bytes.take (w.grant want) = [] := by
    rcases h with rfl | hnil
    · rw [Wire.grant, Nat.zero_min, List.take_zero]
    · rw [hnil, List.take_nil]
  have hdrop : w.bytes.drop (w.grant want) = w.bytes := by
    rcases h with rfl | hnil
    · rw [Wire.grant, Nat.zero_min, List.drop_zero]
    · rw [hnil, List.drop_nil]
  refine ⟨?_, rfl, hdrop, ho⟩
  change Except.ok ((w.bytes.take (w.grant want)).take want) = _
  rw [htake, List.take_nil]

theorem readHeader_closed :
    Triple wire (At O s₀ []) readHeader fun r s w => r = .ok none ∧ At O s₀ [] s w := by
  have hfill : Triple wire (At O s₀ []) (fill 8 8 []) fun r s w =>
      r = .ok ([], false) ∧ At O s₀ [] s w := by
    refine triple_ite (fun hfull => absurd hfull (by decide)) fun _ => ?_
    exact triple_attempt_ok (readInto_nothing (Or.inr rfl)) (triple_pure fun s w h => ⟨rfl, h⟩)
  exact triple_attempt_ok hfill (triple_pure fun s w h => ⟨rfl, h⟩)

theorem readExact_triple (data rest : Bytes) :
    Triple wire (At O s₀ (data ++ rest)) (readExact data.length) fun res s w =>
      res = .ok data ∧ At O s₀ rest s w := by
  refine triple_attempt_ok (fill_triple data.length data.length [] data rest (by simp) (by simp)) ?_
  exact triple_pure fun s w hat => ⟨rfl, hat⟩

/-- A command of a length that is allowed is read from its frame. -/
theorem recvCommand_triple {cmd : Bytes} (hlen : cmd.length ≤ maxCommandLen) (rest : Bytes) :
    Triple wire (At O s₀ (frame cmd ++ rest)) recvCommand fun res s w =>
      res = .ok (some cmd) ∧ At O s₀ rest s w := by
  have hbound : cmd.length < 2 ^ 64 := Nat.lt_of_le_of_lt hlen (by decide)
  have hheader : Triple wire (At O s₀ (frame cmd ++ rest)) readHeader fun res s w =>
      res = .ok (some cmd.length) ∧ At O s₀ (cmd ++ rest) s w := by
    unfold frame
    rw [List.append_assoc]
    exact readHeader_triple hbound (cmd ++ rest)
  refine triple_attempt_ok hheader (triple_ite ?_ ?_)
  · intro hlong
    exact absurd hlen (Nat.not_le_of_gt hlong)
  · intro _
    refine triple_attempt_ok (readExact_triple cmd rest) ?_
    exact triple_pure fun s w hat => ⟨rfl, hat⟩

end Reading

/-! ## The data source -/

/-- The data source has `left` of the payload to come, the rest of a frame and then whole ones, and
`rest` follows on the stream. -/
def Pending (left rest : Bytes) (s : TcpFastbootSession) (w : Wire) : Prop :=
  ∃ (head : Bytes) (frames : List Bytes), head.length = s.frameRemaining ∧ (∀ f ∈ frames, f ≠ []) ∧
    left = head ++ frames.flatten ∧ s.remaining = left.length ∧ left.length < 2 ^ 64 ∧
    w.bytes = head ++ ((frames.map frame).flatten ++ rest)

theorem Pending.remaining {left rest : Bytes} {s : TcpFastbootSession} {w : Wire}
    (h : Pending left rest s w) : s.remaining = left.length := by
  obtain ⟨_, _, _, _, _, hremaining, _, _⟩ := h
  exact hremaining

/-- At the end of the payload the stream is behind the last frame. -/
theorem Pending.bytes_nil {rest : Bytes} {s : TcpFastbootSession} {w : Wire}
    (h : Pending [] rest s w) : w.bytes = rest := by
  obtain ⟨head, frames, -, hne, hleft, -, -, hbytes⟩ := h
  obtain ⟨rfl, hflat⟩ := List.append_eq_nil_iff.1 hleft.symm
  obtain rfl : frames = [] := by
    refine List.eq_nil_iff_forall_not_mem.2 fun f hf => hne f hf ?_
    exact List.flatten_eq_nil_iff.1 hflat f hf
  exact hbytes

/-- In the data phase: what is left of the payload, what is known of the session, and the replies so
far. -/
structure Reading (O : Answers → Prop) (P : Session → Prop) (sent : List Sent) (left rest : Bytes)
    (s : TcpFastbootSession) (w : Wire) : Prop where
  pending : Pending left rest s w
  session : P s.sink
  sent : s.sent = sent
  answers : O w.answers

section Source

variable {O : Answers → Prop} {P : Session → Prop} {sent : List Sent} {left : Bytes}

/-- Behind a frame comes the header of the next one. -/
theorem nextFrame_triple (hleft : left ≠ []) (rest : Bytes) :
    Triple wire (Reading O P sent left rest) nextFrame fun r s w =>
      r = .ok () ∧ s.frameRemaining ≠ 0 ∧ Reading O P sent left rest s w := by
  refine triple_read fun n => triple_ite (fun hzero => triple_intro ?_) fun hmore => ?_
  · rintro s w ⟨⟨⟨head, frames, hhead, hne, hflat, hremaining, hlt, hbytes⟩, hsession,
      hsent, ho⟩, hn⟩
    obtain rfl : head = [] := List.length_eq_zero_iff.1 (by omega)
    cases frames with
    | nil => exact absurd hflat hleft
    | cons f frames =>
        have hfpos := List.length_pos_iff.2 (hne f (List.mem_cons_self ..))
        rw [List.nil_append, List.flatten_cons] at hflat
        have hflen : f.length < 2 ^ 64 := by
          rw [hflat, List.length_append] at hlt
          omega
        have hheader : w.bytes =
            toBeBytes f.length ++ (f ++ ((frames.map frame).flatten ++ rest)) := by
          rw [hbytes]
          simp [frame]
        refine ⟨At O s _, ⟨rfl, hheader, ho⟩, triple_attempt_ok (readHeader_triple hflen _) ?_⟩
        rintro s' w' ⟨rfl, hbytes', ho'⟩
        have hframes := fun f' hf' => hne f' (List.mem_cons_of_mem _ hf')
        exact ⟨rfl, Nat.ne_of_gt hfpos,
          ⟨f, frames, rfl, hframes, hflat, hremaining, hlt, hbytes'⟩, hsession, hsent, ho'⟩
  · refine triple_pure fun s w ⟨hreading, hn⟩ => ⟨rfl, ?_, hreading⟩
    rw [hn]
    exact hmore

/-- A block is the front of what is left, and fits the buffer. -/
theorem readBlock_triple (hleft : left ≠ []) (rest : Bytes) :
    Triple wire (Reading O P sent left rest) readBlock fun r s w =>
      ∃ block left', left = block ++ left' ∧ block ≠ [] ∧ block.length ≤ recvBufferSize ∧
        r = .ok (some block) ∧ Reading O P sent left' rest s w := by
  refine triple_read fun n => triple_ite (fun hzero => ?_) fun hmore => ?_
  · rintro s w ⟨hreading, hn⟩
    have hpos := List.length_pos_iff.2 hleft
    have hremaining := hreading.pending.remaining
    omega
  · have hframe : Triple wire (fun s w => Reading O P sent left rest s w ∧ s.remaining = n)
        nextFrame _ :=
      triple_conseq (nextFrame_triple hleft rest) (fun s w h => h.1) fun r s w h => h
    refine triple_attempt_ok hframe (triple_read fun want => triple_intro ?_)
    rintro s w ⟨⟨hframe, ⟨head, frames, hhead, hne, hflat, hremaining, hlt, hbytes⟩, hsession,
      hsent, ho⟩, rfl⟩
    have hlen : left.length = head.length + frames.flatten.length := by
      rw [hflat, List.length_append]
    have hsize : recvBufferSize ≠ 0 := by decide
    refine ⟨At O s _, ⟨rfl, hbytes, ho⟩,
      triple_attempt (readInto_triple (by omega) head _ (by omega)) ?_ ?_⟩
    · rintro err s' w' ⟨front, back, -, -, -, hok, -⟩
      cases hok
    · -- the bytes that came are taken off both counters
      rintro block s' w' ⟨front, back, rfl, hblock, hfits, hok, rfl, hbytes', ho'⟩
      obtain rfl := Except.ok.inj hok
      rw [if_neg hblock]
      rw [List.length_append] at hhead hlen
      refine ⟨block, back ++ frames.flatten, ?_, hblock, by omega, rfl,
        ⟨back, frames, ?_, hne, rfl, ?_, ?_, hbytes'⟩, hsession, hsent, ho'⟩
      · rw [hflat, List.append_assoc]
      · change back.length = s'.frameRemaining - block.length
        omega
      · change s'.remaining - block.length = _
        rw [List.length_append]
        omega
      · rw [List.length_append]
        omega

/-- At the end of the payload nothing more is read. -/
theorem readBlock_triple_nil (rest : Bytes) :
    Triple wire (Reading O P sent [] rest) readBlock fun r s w =>
      r = .ok none ∧ Reading O P sent [] rest s w := by
  refine triple_read fun n => triple_ite (fun hzero => ?_) fun hmore => ?_
  · exact triple_pure fun s w h => ⟨rfl, h.1⟩
  · rintro s w ⟨hreading, hn⟩
    exact absurd (hn.symm.trans hreading.pending.remaining) hmore

end Source

/-! ## The session beside the stream -/

theorem query_ne_read (q : SessionQuery) (want : Nat) :
    AnswersSession.query Query.Answer q ≠ Query.read want :=
  fun h : Query.session q = Query.read want => nomatch h

/-- What is said of the data source, of the replies so far and of the bytes to come, and of nothing
else. -/
def OfStream (F : TcpFastbootSession → Wire → Prop) : Prop :=
  ∀ s s' w w', (s'.frameRemaining, s'.remaining, s'.sent) =
    (s.frameRemaining, s.remaining, s.sent) →
    w'.bytes = w.bytes → F s w → F s' w'

/-- A call that only the session answers leaves the data source, the replies and the stream
alone. -/
theorem triple_beside {α : Type} {O : Answers → Prop} (hO : ∀ o k, O o → O fun n => o (n + k))
    {p : Async α} (hasks : Meets (fun q => ∀ want, q ≠ Query.read want) (fun _ _ => True) p)
    (hkeeps : Keeps (fun s : TcpFastbootSession => (s.frameRemaining, s.remaining, s.sent)) p)
    {P : Session → Prop} {R : α → Session → Prop}
    (h : ∀ s o, O o → P s.sink → R (exec p s o).1 (exec p s o).2.1.sink)
    {F : TcpFastbootSession → Wire → Prop} (hF : OfStream F) :
    Triple wire (fun s w => F s w ∧ P s.sink ∧ O w.answers) p fun r s w =>
      F s w ∧ R r s.sink ∧ O w.answers := by
  refine triple_of_exec wire_fromOracle hasks ?_
  rintro s w ⟨hstream, hsession, ho⟩
  refine ⟨?_, h s w.answers ho hsession, answers_exec s hO p ho⟩
  exact hF s _ w _ (hkeeps.exec s w.answers) rfl hstream

theorem ofStream_pending (sent : List Sent) (left rest : Bytes) :
    OfStream fun s w => Pending left rest s w ∧ s.sent = sent := by
  rintro s s' w w' hsame hbytes ⟨⟨head, frames, hhead, hne, hflat, hremaining, hlt, hstream⟩, hsent⟩
  simp only [Prod.mk.injEq] at hsame
  obtain ⟨hframe, hleft, hreplies⟩ := hsame
  refine ⟨⟨head, frames, ?_, hne, hflat, ?_, hlt, ?_⟩, ?_⟩
  · rw [hframe]
    exact hhead
  · rw [hleft]
    exact hremaining
  · rw [hbytes]
    exact hstream
  · rw [hreplies]
    exact hsent

/-- The same for a payload that is being read. -/
theorem triple_of_session {α : Type} {O : Answers → Prop} (hO : ∀ o k, O o → O fun n => o (n + k))
    {p : Async α} (hasks : Meets (fun q => ∀ want, q ≠ Query.read want) (fun _ _ => True) p)
    (hkeeps : Keeps (fun s : TcpFastbootSession => (s.frameRemaining, s.remaining, s.sent)) p)
    {P : Session → Prop} {R : α → Session → Prop}
    (h : ∀ s o, O o → P s.sink → R (exec p s o).1 (exec p s o).2.1.sink) (sent : List Sent)
    (left rest : Bytes) :
    Triple wire (Reading O P sent left rest) p fun r => Reading O (R r) sent left rest := by
  refine triple_conseq (triple_beside hO hasks hkeeps h (ofStream_pending sent left rest)) ?_ ?_
  · rintro s w ⟨hpending, hsession, hsent, ho⟩
    exact ⟨⟨hpending, hsent⟩, hsession, ho⟩
  · rintro r s w ⟨⟨hpending, hsent⟩, hsession, ho⟩
    exact ⟨hpending, hsession, hsent, ho⟩

/-- What is needed of the session while a payload is fed to it: `J got` holds after the bytes `got`,
`D` if a block found the queue closed, and `K` once SWUpdate has succeeded. Of the answers `O` is
assumed. -/
structure Feeds (O : Answers → Prop) (J : Bytes → Session → Prop)
    (D K : Session → Prop) : Prop where
  answers : ∀ o k, O o → O fun n => o (n + k)
  written : ∀ o data, O o → o 0 (.write data) = .ok ()
  peek : ∀ got (s : TcpFastbootSession) o, O o → J got s.sink →
    (exec peekVerdict s o).1 = none ∧ J got (exec peekVerdict s o).2.1.sink ∨
      (exec peekVerdict s o).1 = some (.ok ()) ∧ K (exec peekVerdict s o).2.1.sink
  send : ∀ got data (s : TcpFastbootSession) o, O o → J got s.sink → data.length ≤ recvBufferSize →
    (∃ n, (exec (send data) s o).1 = .ok (.ok n)) ∧
      J (got ++ data) (exec (send data) s o).2.1.sink ∨
      (exec (send data) s o).1 = .ok .closed ∧ D (exec (send data) s o).2.1.sink
  finished : ∀ (s : TcpFastbootSession) o, O o → D s.sink →
    (exec finished s o).1 = .ok () ∧ K (exec finished s o).2.1.sink

section Loops

variable {O : Answers → Prop} {J : Bytes → Session → Prop} {D K : Session → Prop}
  {sent : List Sent} {rest : Bytes}

/-- More may be said of the session. -/
theorem Reading.withSession {P R : Session → Prop} {left : Bytes}
    {s : TcpFastbootSession} {w : Wire} (h : Reading O P sent left rest s w) (hR : R s.sink) :
    Reading O R sent left rest s w :=
  ⟨h.pending, hR, h.sent, h.answers⟩

theorem Feeds.peek_triple (feeds : Feeds O J D K) (got left : Bytes) :
    Triple wire (Reading O (J got) sent left rest) peekVerdict fun r =>
      Reading O (fun d => r = none ∧ J got d ∨ r = some (.ok ()) ∧ K d) sent left rest :=
  triple_of_session feeds.answers (meets_peekVerdict (query_ne_read _))
    (keeps_peekVerdict fun _ _ => rfl) (feeds.peek got) sent left rest

theorem Feeds.send_triple (feeds : Feeds O J D K) (got : Bytes) {data : Bytes}
    (hfits : data.length ≤ recvBufferSize) (left : Bytes) :
    Triple wire (Reading O (J got) sent left rest) (Swupdate.send data) fun r =>
      Reading O (fun d => (∃ n, r = .ok (.ok n)) ∧ J (got ++ data) d ∨ r = .ok .closed ∧ D d) sent
        left rest :=
  triple_of_session feeds.answers (meets_send (query_ne_read _) (query_ne_read _) data)
    (keeps_send (fun _ _ => rfl) data) (fun s o ho hJ => feeds.send got data s o ho hJ hfits) sent
    left rest

theorem Feeds.finished_triple (feeds : Feeds O J D K) (left : Bytes) :
    Triple wire (Reading O D sent left rest) Swupdate.finished fun r =>
      Reading O (fun d => r = .ok () ∧ K d) sent left rest :=
  triple_of_session feeds.answers (meets_finished (query_ne_read _)) (keeps_finished fun _ _ => rfl)
    feeds.finished sent left rest

/-- Where the pump may end: behind the payload, or before its end with a success. -/
def PumpedOn (O : Answers → Prop) (J : Bytes → Session → Prop) (K : Session → Prop)
    (sent : List Sent) (payload rest : Bytes) :
    Except IoError PumpEnd → TcpFastbootSession → Wire → Prop
  | .ok .inputClosed, s, w => Reading O (J payload) sent [] rest s w
  | .ok (.swupdateFinished (.ok ())), s, w =>
      ∃ left, left.length < payload.length ∧ Reading O K sent left rest s w
  | _, _, _ => False

theorem length_lt_of_block {payload got data left : Bytes} (h : payload = got ++ (data ++ left))
    (hdata : data ≠ []) : left.length < payload.length := by
  have hpos := List.length_pos_iff.2 hdata
  rw [h, List.length_append, List.length_append]
  omega

theorem pump_triple (feeds : Feeds O J D K) (payload : Bytes) (n : Nat) :
    Triple wire
      (fun s w => ∃ got left, payload = got ++ left ∧ left.length < n ∧
        Reading O (J got) sent left rest s w)
      (pumpToSwupdate readBlock n) (PumpedOn O J K sent payload rest) := by
  refine triple_pumpToSwupdate
    (I := fun n s w => ∃ got left, payload = got ++ left ∧ left.length < n ∧
      Reading O (J got) sent left rest s w)
    (B := fun n data s w => ∃ got left, payload = got ++ (data ++ left) ∧ data ≠ [] ∧
      data.length ≤ recvBufferSize ∧ left.length < n ∧ Reading O (J got) sent left rest s w)
    (C := fun n data s w => ∃ got left, payload = got ++ (data ++ left) ∧ data ≠ [] ∧
      data.length ≤ recvBufferSize ∧ left.length < n ∧ Reading O (J got) sent left rest s w)
    (D := fun s w => ∃ left, left.length < payload.length ∧ Reading O D sent left rest s w)
    ?_ ?_ ?_ ?_ ?_ n
  · rintro s w ⟨got, left, -, hlt, -⟩
    exact absurd hlt (Nat.not_lt_zero _)
  · -- a block is read, or the payload is at its end
    refine fun n => triple_intro ?_
    rintro s w ⟨got, left, hpayload, hlt, hreading⟩
    by_cases hleft : left = []
    · subst hleft
      refine ⟨_, hreading, triple_conseq (readBlock_triple_nil rest) (fun _ _ h => h) ?_⟩
      rintro r s' w' ⟨rfl, hreading'⟩
      rw [List.append_nil] at hpayload
      rw [hpayload]
      exact hreading'
    · refine ⟨_, hreading, triple_conseq (readBlock_triple hleft rest) (fun _ _ h => h) ?_⟩
      rintro r s' w' ⟨block, left', rfl, hblock, hfits, rfl, hreading'⟩
      have hpos := List.length_pos_iff.2 hblock
      rw [List.length_append] at hlt
      exact ⟨got, left', hpayload, hblock, hfits, by omega, hreading'⟩
  · refine fun n data => triple_intro ?_
    rintro s w ⟨got, left, hpayload, hdata, hfits, hlt, hreading⟩
    refine ⟨_, hreading, triple_conseq (feeds.peek_triple got left) (fun _ _ h => h) ?_⟩
    intro r s' w' hreading'
    rcases hreading'.session with ⟨rfl, hJ⟩ | ⟨rfl, hK⟩
    · exact ⟨got, left, hpayload, hdata, hfits, hlt, hreading'.withSession hJ⟩
    · exact ⟨left, length_lt_of_block hpayload hdata, hreading'.withSession hK⟩
  · refine fun n data => triple_intro ?_
    rintro s w ⟨got, left, hpayload, hdata, hfits, hlt, hreading⟩
    refine ⟨_, hreading, triple_conseq (feeds.send_triple got hfits left) (fun _ _ h => h) ?_⟩
    intro r s' w' hreading'
    rcases hreading'.session with ⟨⟨len, rfl⟩, hJ⟩ | ⟨rfl, hD⟩
    · refine ⟨got ++ data, left, ?_, hlt, hreading'.withSession hJ⟩
      rw [hpayload, List.append_assoc]
    · exact ⟨left, length_lt_of_block hpayload hdata, hreading'.withSession hD⟩
  · refine triple_intro ?_
    rintro s w ⟨left, hlt, hreading⟩
    refine ⟨_, hreading, triple_conseq (feeds.finished_triple left) (fun _ _ h => h) ?_⟩
    intro r s' w' hreading'
    obtain ⟨rfl, hK⟩ := hreading'.session
    exact ⟨left, hlt, hreading'.withSession hK⟩

/-- Once SWUpdate has succeeded, the rest of the payload is read and thrown away. -/
theorem drain_triple (n : Nat) :
    Triple wire (fun s w => ∃ left, left.length < n ∧ Reading O K sent left rest s w)
      (streamLoop n false) fun r s w => r = .ok () ∧ Reading O K sent [] rest s w := by
  induction n with
  | zero =>
      rintro s w ⟨left, hlt, -⟩
      exact absurd hlt (Nat.not_lt_zero _)
  | succ n ih =>
      refine triple_read fun remaining => triple_ite (fun hzero => ?_) fun hmore => ?_
      · refine triple_pure ?_
        rintro s w ⟨⟨left, -, hreading⟩, hremaining⟩
        obtain rfl : left = [] := by
          rw [← List.length_eq_zero_iff, ← hreading.pending.remaining, hremaining]
          exact hzero
        exact ⟨rfl, hreading⟩
      · rw [if_pos Bool.not_false]
        refine triple_intro ?_
        rintro s w ⟨⟨left, hlt, hreading⟩, hremaining⟩
        have hleft : left ≠ [] := by
          rw [← List.length_pos_iff, ← hreading.pending.remaining]
          omega
        refine ⟨_, hreading, triple_attempt (readBlock_triple hleft rest) ?_ fun block => ?_⟩
        · rintro err s' w' ⟨block, left', -, -, -, hok, -⟩
          cases hok
        · refine triple_conseq ih ?_ fun r s' w' h => h
          rintro s' w' ⟨block, left', rfl, hblock, -, -, hreading'⟩
          have hpos := List.length_pos_iff.2 hblock
          rw [List.length_append] at hlt
          exact ⟨left', by omega, hreading'⟩

/-- The whole loop: it ends behind the payload, all of it fed or SWUpdate done early. -/
theorem streamLoop_triple (feeds : Feeds O J D K) (payload : Bytes) :
    Triple wire (Reading O (J []) sent payload rest) (streamLoop (payload.length + 1) true)
      fun r s w => r = .ok () ∧ Reading O (fun d => J payload d ∨ K d) sent [] rest s w := by
  refine triple_read fun remaining => triple_ite (fun hzero => ?_) fun hmore => ?_
  · refine triple_pure ?_
    rintro s w ⟨hreading, hremaining⟩
    obtain rfl : payload = [] := by
      rw [← List.length_eq_zero_iff, ← hreading.pending.remaining, hremaining]
      exact hzero
    exact ⟨rfl, hreading.withSession (Or.inl hreading.session)⟩
  · rw [if_neg (by simp)]
    have hpump : Triple wire
        (fun s w => Reading O (J []) sent payload rest s w ∧ s.remaining = remaining)
        (pumpToSwupdate readBlock (remaining + 1)) (PumpedOn O J K sent payload rest) := by
      refine triple_conseq (pump_triple feeds payload _) ?_ fun r s w h => h
      rintro s w ⟨hreading, rfl⟩
      refine ⟨[], payload, rfl, ?_, hreading⟩
      rw [hreading.pending.remaining]
      exact Nat.lt_succ_self _
    refine triple_attempt hpump (fun err s w h => h.elim) fun e => ?_
    match e with
    | .inputClosed =>
        exact triple_pure fun s w h => ⟨rfl, h.withSession (Or.inl h.session)⟩
    | .swupdateFinished (.ok ()) =>
        refine triple_conseq (drain_triple payload.length) (fun s w h => h) ?_
        rintro r s w ⟨hok, hreading⟩
        exact ⟨hok, hreading.withSession (Or.inr hreading.session)⟩
    | .swupdateFinished (.error err) => exact fun s w h => h.elim

/-- A reply that the peer takes. -/
theorem sendPacket_triple (hO : ∀ o k, O o → O fun n => o (n + k))
    (hwritten : ∀ o data, O o → o 0 (.write data) = .ok ()) {P : Session → Prop} (left : Bytes)
    (data : Bytes) :
    Triple wire (Reading O P sent left rest) (sendPacket data) fun r s w =>
      r = .ok () ∧ Reading O P (sent ++ [⟨data, true⟩]) left rest s w := by
  rintro s w ⟨hpending, hsession, hsent, ho⟩
  have hok := hwritten w.answers (frame data) ho
  refine ⟨hok, hpending, hsession, ?_, hO _ 1 ho⟩
  change s.sent ++ [⟨data, (w.answers 0 (.write (frame data))).isOk⟩] = _
  rw [hok, hsent]
  rfl

/-- The data phase over a payload that comes in frames. -/
theorem streamDownload_triple (feeds : Feeds O J D K) {frames : List Bytes}
    (hframes : ∀ f ∈ frames, f ≠ []) (hlen : frames.flatten.length < 2 ^ 64) :
    Triple wire
      (fun s w => J [] s.sink ∧ s.sent = sent ∧ O w.answers ∧
        w.bytes = (frames.map frame).flatten ++ rest)
      (streamDownload frames.flatten.length) fun r s w =>
        r = .ok () ∧ Reading O (fun d => J frames.flatten d ∨ K d) (sent ++ [⟨Reply.okay, true⟩]) []
          rest s w := by
  have hloop : Triple wire (Reading O (J []) sent frames.flatten rest) _ _ :=
    streamLoop_triple feeds frames.flatten
  refine triple_update (triple_attempt_ok hloop
    (sendPacket_triple feeds.answers feeds.written [] Reply.okay)) ?_
  -- no frame is begun, and the payload is all of what is left
  rintro s w ⟨hsession, hsent, ho, hbytes⟩
  exact ⟨⟨[], frames, rfl, hframes, rfl, rfl, hlen, hbytes⟩, hsession, hsent, ho⟩

end Loops

/-! ## A session that takes every block, and one that succeeds early -/

/-- The peer takes every packet. -/
def Written (o : Answers) : Prop := ∀ n data, o n (.write data) = .ok ()

/-- SWUpdate reads on: there is always a slot for the next block, and no verdict. -/
def Accepting (o : Answers) : Prop :=
  ∀ n, (answered o n .look).task = none ∧ answered o n .slot = true

/-- `d` after it took the blocks of `got`. -/
def FedWith (k : Nat) (d : Session) (got : Bytes) (d' : Session) : Prop :=
  ∃ blocks : List Bytes, blocks.flatten = got ∧ (∀ b ∈ blocks, b.length ≤ recvBufferSize) ∧
    d' = { d with history := d.history ++ blocks.map (SessionEvent.fed k) }

theorem feeds_accepting {k : Nat} {d : Session} (htx : d.tx = some k) (hstatus : d.status.isSome)
    (hterm : d.terminal = none) :
    Feeds (fun o => Accepting o ∧ Written o) (FedWith k d) (fun _ => False) fun _ => False where
  answers o j ho := ⟨fun n => ho.1 (n + j), fun n => ho.2 (n + j)⟩
  written o data ho := ho.2 0 data
  peek got s o ho hfed := by
    obtain ⟨blocks, hflat, hfits, hd⟩ := hfed
    have hopen : (HasSession.session s).isOpen = true := by
      change s.sink.isOpen = true
      simp [hd, Session.isOpen, htx]
    have hnone : s.sink.tryFinished (answered o 0 .look) = (none, s.sink) := by
      rcases Session.pollStatus_cases (answered o 0 .look) s.sink with
        ⟨h, -⟩ | ⟨text, h, -⟩ | ⟨-, h, -⟩ | ⟨-, -, -, heq⟩ | ⟨joined, -, -, h, -⟩
      · simp [hd, hterm] at h
      · simp [hd, hterm] at h
      · simp [hd] at h
        simp [h] at hstatus
      · exact heq
      · rw [(ho.1 0).1] at h
        cases h
    rw [exec_peekVerdict s o hopen]
    refine Or.inl ⟨congrArg Prod.fst hnone, ?_⟩
    change FedWith k d got (s.sink.tryFinished (answered o 0 .look)).2
    rw [hnone]
    exact ⟨blocks, hflat, hfits, hd⟩
  send got data s o ho hfed hlen := by
    obtain ⟨blocks, hflat, hfits, hd⟩ := hfed
    have htx' : s.sink.tx = some k := by rw [hd]; exact htx
    have hsend : s.sink.send (answered o 0 .look) (answered o 1 .slot) data =
        (.ok (.ok data.length), s.sink.record (.fed k data)) := by
      have hopen : s.sink.ensureOpen (answered o 0 .look) = (.ok (), s.sink) := by
        simp [Session.ensureOpen, htx']
      simp [Session.send, hopen, (ho.1 1).2, Session.offer, htx']
    obtain ⟨hres, hst⟩ := exec_send s o data
    rw [hres, hst]
    change (∃ n, (s.sink.send _ _ data).1 = _) ∧ FedWith k d _ (s.sink.send _ _ data).2 ∨ _
    rw [hsend]
    refine Or.inl ⟨⟨_, rfl⟩, blocks ++ [data], ?_, ?_, ?_⟩
    · rw [List.flatten_append, hflat, List.flatten_singleton]
    · intro b hb
      rcases List.mem_append.1 hb with hb | hb
      · exact hfits b hb
      · rw [List.mem_singleton.1 hb]
        exact hlen
    · rw [hd]
      simp [Session.record]
  finished s o ho h := h.elim

/-- While SWUpdate does not fail, a session stays under way. -/
theorem feeds_underway :
    Feeds (fun o => Succeeds o ∧ Written o) (fun _ => Session.Underway) Session.Underway
      Session.Underway where
  answers o j ho := ⟨fun n => ho.1 (n + j), fun n => ho.2 (n + j)⟩
  written o data ho := ho.2 0 data
  peek got s o ho h := by
    cases hopen : s.sink.isOpen with
    | false =>
        have hexec : exec peekVerdict s o = (none, s, o) := by
          unfold peekVerdict
          rw [exec_read_bind]
          exact congrArg (fun b => exec (if b = true then tryFinished else Pure.pure
            none) s o) hopen
        rw [hexec]
        exact Or.inl ⟨rfl, h⟩
    | true =>
        obtain ⟨hseen, htraced⟩ := (Session.traced_refl h).tryFinished (ho.1 0).1
        rw [exec_peekVerdict s o hopen]
        rcases hseen with hnone | hok
        · exact Or.inl ⟨hnone, htraced.underway⟩
        · exact Or.inr ⟨hok, htraced.underway⟩
  send got data s o ho h hlen := by
    obtain ⟨q, hq, hsend⟩ : ∃ q, q ≠ QueueView.full ∧
        s.sink.send (answered o 0 .look) (answered o 1 .slot) data =
          (.ok (s.sink.offer q data).1, (s.sink.offer q data).2) := by
      refine ⟨if answered o 1 .slot then .room else .closed, by split <;> decide, ?_⟩
      simp only [Session.send, h.ensureOpen]
    have hunder := ((Session.traced_refl h).offer hq data).underway
    obtain ⟨hres, hst⟩ := exec_send s o data
    rw [hres, hst]
    change (∃ n, (s.sink.send _ _ data).1 = _) ∧ (s.sink.send _ _ data).2.Underway ∨
      (s.sink.send _ _ data).1 = _ ∧ (s.sink.send _ _ data).2.Underway
    rw [hsend]
    rcases Session.offer_cases q data s.sink with
      ⟨-, heq⟩ | ⟨k, -, -, heq⟩ | ⟨k, -, hfull, -⟩ | ⟨k, -, -, heq⟩
    · exact Or.inr ⟨by rw [heq], hunder⟩
    · exact Or.inl ⟨⟨data.length, by rw [heq]⟩, hunder⟩
    · exact absurd hfull hq
    · exact Or.inr ⟨by rw [heq], hunder⟩
  finished s o ho h := by
    obtain ⟨hok, d', hst, htraced, -⟩ :=
      exec_finished_traced s o (Session.traced_refl h) (ho.1 0).2
    rw [hst]
    exact ⟨hok, htraced.underway⟩

/-! ## The data phase -/

/-- What a data phase over the frames leaves: it is acknowledged once, and the stream is behind the
last frame. -/
def Acknowledged (rest : Bytes) (s : TcpFastbootSession)
    (r : Except IoError Unit × TcpFastbootSession × Wire) : Prop :=
  r.1 = .ok () ∧ r.2.1.sent = s.sent ++ [⟨Reply.okay, true⟩] ∧ r.2.2.bytes = rest

/-- Every payload in frames, however the stream is cut. A session that SWUpdate reads from gets the
payload in order, in blocks that fit the buffer; if SWUpdate succeeds before the end, the same bytes
are consumed and acknowledged. -/
theorem data_phase_exact (frames : List Bytes) (hframes : ∀ f ∈ frames, f ≠ [])
    (hlen : frames.flatten.length < 2 ^ 64) (rest : Bytes) (s : TcpFastbootSession) (w : Wire)
    (hbytes : w.bytes = (frames.map frame).flatten ++ rest) (hwritten : Written w.answers) :
    (∀ k, s.sink.tx = some k → s.sink.status.isSome → s.sink.terminal = none →
      Accepting w.answers →
      Acknowledged rest s (execIn wire (streamDownload frames.flatten.length) s w) ∧
        FedWith k s.sink frames.flatten
          (execIn wire (streamDownload frames.flatten.length) s w).2.1.sink) ∧
      (s.sink.Underway → Succeeds w.answers →
        Acknowledged rest s (execIn wire (streamDownload frames.flatten.length) s w)) := by
  refine ⟨fun k htx hstatus hterm hacc => ?_, fun hunder hsucc => ?_⟩
  · have hfresh : FedWith k s.sink [] s.sink := ⟨[], rfl, nofun, by simp⟩
    obtain ⟨hok, hpending, hfed | hno, hsent, -⟩ :=
      streamDownload_triple (feeds_accepting htx hstatus hterm) hframes hlen s w
        ⟨hfresh, rfl, ⟨hacc, hwritten⟩, hbytes⟩
    · exact ⟨⟨hok, hsent, hpending.bytes_nil⟩, hfed⟩
    · exact hno.elim
  · obtain ⟨hok, hpending, -, hsent, -⟩ :=
      streamDownload_triple feeds_underway hframes hlen s w
        ⟨hunder, rfl, ⟨hsucc, hwritten⟩, hbytes⟩
    exact ⟨hok, hsent, hpending.bytes_nil⟩

/-- SWUpdate takes every block, and the peer every packet. -/
def accepted : Answers := fun _ q =>
  match q with
  | .session .look => ⟨false, ⟨"MMC", "a"⟩, .room, none⟩
  | .session .slot => true
  | .session .join => .done (.ok ())
  | .session .reap => ()
  | .read _ => .ok []
  | .write _ => .ok ()
  | .shutdown => .ok ()
  | .system => ⟨[], [], ⟨"MMC", "a"⟩⟩

/-- A session with an open transfer. -/
def opened : TcpFastbootSession :=
  { TcpFastbootSession.new SwupdateParams.default [] with
    sink := (Session.new SwupdateParams.default recvBufferSize).spawn
      ⟨false, ⟨"MMC", "a"⟩, .room, none⟩ }

/-- Two frames and the bytes of what comes after them, one byte at a time. -/
def twoFrames : Wire := ⟨([[1, 2], [3]].map frame).flatten ++ [4], fun _ => 1, accepted⟩

theorem data_phase_exact_twoFrames :
    Acknowledged [4] opened (execIn wire (streamDownload 3) opened twoFrames) ∧
      FedWith 0 opened.sink [1, 2, 3]
        (execIn wire (streamDownload 3) opened twoFrames).2.1.sink := by
  have hexact := data_phase_exact [[1, 2], [3]] (by decide) (by decide) [4] opened twoFrames rfl
    fun _ _ => rfl
  have hflat : ([[1, 2], [3]] : List Bytes).flatten = [1, 2, 3] := rfl
  have hlen : ([1, 2, 3] : Bytes).length = 3 := rfl
  rw [hflat, hlen] at hexact
  exact hexact.1 0 rfl rfl rfl fun _ => ⟨rfl, rfl⟩

end SummitUsbgadget.FastbootTcp
