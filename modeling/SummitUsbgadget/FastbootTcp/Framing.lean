import SummitUsbgadget.FastbootTcp.Wire

/-!
# Packets over the wire and back

What `send_packet` writes, `recv_command` reads, however the stream is cut into reads. A stream that
ends between two packets is a clean end; one that ends inside of a packet is an error, and so is a
length beyond the limit, of which nothing but the header is read.
-/

set_option autoImplicit false

namespace SummitUsbgadget.FastbootTcp

open SummitUsbgadget.Lib

/-- The packets are sent one after the other, up to an error. -/
def sendPackets : List Bytes → Async (Except IoError Unit)
  | [] => pure (.ok ())
  | p :: ps => Program.attempt (sendPacket p) fun _ => sendPackets ps

/-- What the next `n` calls of `recv_command` return. -/
def recvCommands : Nat → Async (List (Except IoError (Option Bytes)))
  | 0 => pure []
  | n + 1 => do
      let result ← recvCommand
      let results ← recvCommands n
      pure (result :: results)

/-- A connection that takes everything that is written to it. -/
def recorder (answers : (q : Query) → q.Answer) : Handler Bytes Query Query.Answer
  | stream, .write data => (.ok (), stream ++ data)
  | stream, q => (answers q, stream)

/-- The bytes that a sender puts on the stream. -/
def written (answers : (q : Query) → q.Answer) (s : TcpFastbootSession) (ps : List Bytes) : Bytes :=
  (Program.execIn (recorder answers) (sendPackets ps) s []).2.2

open SummitUsbgadget.Lib.Program

/-! ## Sending -/

theorem sendPacket_recorded (answers : (q : Query) → q.Answer) (stream p : Bytes) :
    Triple (recorder answers) (fun _ e => e = stream) (sendPacket p) fun r _ e =>
      r = .ok () ∧ e = stream ++ frame p := by
  rintro s e rfl
  exact ⟨rfl, rfl⟩

theorem sendPackets_recorded (answers : (q : Query) → q.Answer) (stream : Bytes) (ps : List Bytes) :
    Triple (recorder answers) (fun _ e => e = stream) (sendPackets ps) fun _ _ e =>
      e = stream ++ (ps.map frame).flatten := by
  induction ps generalizing stream with
  | nil =>
      refine triple_pure fun s e h => ?_
      rw [h, List.map_nil, List.flatten_nil, List.append_nil]
  | cons p ps ih =>
      refine triple_attempt_ok (sendPacket_recorded answers stream p) ?_
      refine triple_conseq (ih (stream ++ frame p)) (fun s e h => h) fun r s e h => ?_
      rw [h, List.map_cons, List.flatten_cons, List.append_assoc]

theorem written_eq (answers : (q : Query) → q.Answer) (s : TcpFastbootSession) (ps : List Bytes) :
    written answers s ps = (ps.map frame).flatten :=
  sendPackets_recorded answers [] ps s [] rfl

/-! ## Receiving -/

section Receiving

variable {O : Answers → Prop} {s₀ : TcpFastbootSession}

/-- The stream ends before there are `want` bytes: what there was of them is all that comes. -/
theorem fill_short (want n : Nat) (buf data : Bytes) (hlen : buf.length + data.length < want)
    (hn : data.length < n) :
    Triple wire (At O s₀ data) (fill want n buf) fun r s w =>
      r = .ok (buf ++ data, false) ∧ At O s₀ [] s w := by
  induction n generalizing buf data with
  | zero => exact absurd hn (Nat.not_lt_zero _)
  | succ n ih =>
      refine triple_ite (fun hfull => absurd hfull (by omega)) fun _ => ?_
      by_cases hdata : data = []
      · subst hdata
        refine triple_attempt_ok (readInto_nothing (Or.inr rfl))
          (triple_pure fun s w hat => ⟨?_, hat⟩)
        rw [List.append_nil]
      · refine triple_attempt (readInto_front (by omega) hdata) ?_ fun got => ?_
        · rintro err s w ⟨front, back, -, -, -, hok, -⟩
          cases hok
        · -- one turn fewer is left for at least one byte fewer
          rintro s w ⟨front, back, rfl, hne, -, hok, hat⟩
          obtain rfl := Except.ok.inj hok
          rw [if_neg hne, ← List.append_assoc]
          have hpos := List.length_pos_iff.2 hne
          rw [List.length_append] at hlen hn
          refine ih (buf ++ got) back ?_ (by omega) s w hat
          rw [List.length_append]
          omega

/-- What is there of a packet is not returned. -/
theorem recvCommand_truncated {p front back : Bytes} (hlen : p.length ≤ maxCommandLen)
    (hframe : frame p = front ++ back) (hfront : front ≠ []) (hback : back ≠ []) :
    Triple wire (At O s₀ front) recvCommand fun r _ _ => ∃ err, r = .error err := by
  have hpos := List.length_pos_iff.2 hback
  have htotal : front.length + back.length = 8 + p.length := by
    rw [← List.length_append, ← hframe, frame, List.length_append, length_toBeBytes]
  by_cases hheader : front.length < 8
  · have hread : Triple wire (At O s₀ front) readHeader fun r _ _ => ∃ err, r = .error err := by
      refine triple_attempt_ok (fill_short 8 8 [] front (by simpa using hheader) hheader) ?_
      refine triple_ite (fun h => by cases h) fun _ =>
        triple_ite (fun h => absurd h hfront) fun _ => ?_
      exact triple_pure fun s w _ => ⟨_, rfl⟩
    refine triple_attempt hread (fun err s w _ => ⟨err, rfl⟩) fun len => ?_
    rintro s w ⟨err, herr⟩
    cases herr
  · -- the header is there, and so are some bytes of the packet
    have hcut : toBeBytes p.length ++ p = front.take 8 ++ (front.drop 8 ++ back) := by
      rw [← List.append_assoc, List.take_append_drop]
      exact hframe
    have hsame : (toBeBytes p.length).length = (front.take 8).length := by
      rw [length_toBeBytes, List.length_take]
      omega
    obtain ⟨hhead, hbody⟩ := List.append_inj hcut hsame
    have hfront' : front = toBeBytes p.length ++ front.drop 8 := by
      rw [hhead, List.take_append_drop]
    have hshort : (front.drop 8).length < p.length := by
      rw [List.length_drop]
      omega
    rw [hfront']
    refine triple_attempt_ok (readHeader_triple (Nat.lt_of_le_of_lt hlen (by decide)) _) ?_
    refine triple_ite (fun hlong => absurd hlen (Nat.not_le_of_gt hlong)) fun _ => ?_
    have hread : Triple wire (At O s₀ (front.drop 8)) (readExact p.length) fun r _ _ =>
        ∃ err, r = .error err := by
      refine triple_attempt_ok (fill_short p.length p.length [] _ (by simpa using hshort) hshort) ?_
      exact triple_pure fun s w _ => ⟨_, rfl⟩
    refine triple_attempt hread (fun err s w _ => ⟨err, rfl⟩) fun data => ?_
    rintro s w ⟨err, herr⟩
    cases herr

/-- Of a packet beyond the limit the header is read and nothing else. -/
theorem recvCommand_oversized {n : Nat} (hlong : maxCommandLen < n) (hn : n < 2 ^ 64)
    (rest : Bytes) :
    Triple wire (At O s₀ (toBeBytes n ++ rest)) recvCommand fun r _ w =>
      (∃ err, r = .error err) ∧ w.bytes = rest := by
  refine triple_attempt_ok (readHeader_triple hn rest) (triple_ite (fun _ => ?_) fun h => ?_)
  · exact triple_pure fun s w hat => ⟨⟨_, rfl⟩, hat.2.1⟩
  · exact absurd hlong h

theorem recvCommand_closed :
    Triple wire (At O s₀ []) recvCommand fun r s w => r = .ok none ∧ At O s₀ [] s w :=
  triple_attempt_ok readHeader_closed (triple_pure fun _ _ hat => ⟨rfl, hat⟩)

/-- Whole packets come back one after the other, and the call behind them finds what follows. -/
theorem recvCommands_triple {tail : Bytes} {R : Except IoError (Option Bytes) → Wire → Prop}
    (htail : Triple wire (At O s₀ tail) recvCommand fun r _ w => R r w) (ps : List Bytes)
    (hps : ∀ p ∈ ps, p.length ≤ maxCommandLen) :
    Triple wire (At O s₀ ((ps.map frame).flatten ++ tail)) (recvCommands (ps.length + 1))
      fun rs _ w => ∃ r, rs = ps.map (fun p => .ok (some p)) ++ [r] ∧ R r w := by
  induction ps with
  | nil =>
      refine triple_bind htail fun r => ?_
      exact triple_pure fun s w h => ⟨r, rfl, h⟩
  | cons p ps ih =>
      obtain ⟨hp, hrest⟩ := List.forall_mem_cons.1 hps
      rw [List.map_cons, List.flatten_cons, List.append_assoc]
      refine triple_bind (recvCommand_triple hp _) fun result => ?_
      have hmore : Triple wire (At O s₀ ((ps.map frame).flatten ++ tail))
          (recvCommands (ps.length + 1) >>= fun rs => Pure.pure (.ok (some p) :: rs)) fun rs _ w =>
          ∃ r, rs = (p :: ps).map (fun p => .ok (some p)) ++ [r] ∧ R r w := by
        refine triple_bind (ih hrest) fun rs => triple_pure ?_
        rintro s w ⟨r, rfl, hr⟩
        exact ⟨r, rfl, hr⟩
      rintro s w ⟨rfl, hat⟩
      exact hmore s w hat

end Receiving

/-- What `n` calls of `recv_command` return of a stream, and what they leave of it. -/
def receivedFrom (stream : Bytes) (cuts : Nat → Nat) (answers : Answers) (s : TcpFastbootSession)
    (n : Nat) : List (Except IoError (Option Bytes)) × Bytes :=
  let r := execIn wire (recvCommands n) s ⟨stream, cuts, answers⟩
  (r.1, r.2.2.bytes)

theorem receivedFrom_packets {tail : Bytes} {R : Except IoError (Option Bytes) → Bytes → Prop}
    (s : TcpFastbootSession)
    (htail : Triple wire (At (fun _ => True) s tail) recvCommand fun r _ w => R r w.bytes)
    {ps : List Bytes} (hps : ∀ p ∈ ps, p.length ≤ maxCommandLen) (cuts : Nat → Nat)
    (answers : Answers) :
    ∃ r left, receivedFrom ((ps.map frame).flatten ++ tail) cuts answers s (ps.length + 1) =
      (ps.map (fun p => .ok (some p)) ++ [r], left) ∧ R r left := by
  obtain ⟨r, hrs, hr⟩ := recvCommands_triple (R := fun r w => R r w.bytes) htail ps hps s
    ⟨_, cuts, answers⟩ ⟨rfl, rfl, trivial⟩
  exact ⟨r, _, Prod.ext hrs rfl, hr⟩

/-- The packets that were sent are received, in order and then a clean end. Where the stream ends
inside of a further packet the last call fails, and where a length beyond the limit follows it fails
without a byte of the body. -/
theorem command_framing_round_trip (ps : List Bytes) (hps : ∀ p ∈ ps, p.length ≤ maxCommandLen)
    (writes : (q : Query) → q.Answer) (sender s : TcpFastbootSession) (cuts : Nat → Nat)
    (answers : Answers) :
    receivedFrom (written writes sender ps) cuts answers s (ps.length + 1) =
        (ps.map (fun p => .ok (some p)) ++ [.ok none], []) ∧
    (∀ p front back : Bytes, p.length ≤ maxCommandLen → frame p = front ++ back → front ≠ [] →
      back ≠ [] → ∃ err,
        (receivedFrom (written writes sender ps ++ front) cuts answers s (ps.length + 1)).1 =
          ps.map (fun p => .ok (some p)) ++ [.error err]) ∧
    (∀ (n : Nat) (rest : Bytes), maxCommandLen < n → n < 2 ^ 64 → ∃ err,
      receivedFrom (written writes sender ps ++ (toBeBytes n ++ rest)) cuts answers s
          (ps.length + 1) =
        (ps.map (fun p => .ok (some p)) ++ [.error err], rest)) := by
  rw [written_eq]
  refine ⟨?_, fun p front back hp hframe hfront hback => ?_, fun n rest hlong hn => ?_⟩
  · have hclosed : Triple wire (At (fun _ => True) s []) recvCommand fun r _ w =>
        r = .ok none ∧ w.bytes = [] :=
      triple_conseq recvCommand_closed (fun _ _ h => h) fun _ _ _ h => ⟨h.1, h.2.2.1⟩
    obtain ⟨r, left, heq, rfl, rfl⟩ :=
      receivedFrom_packets (R := fun r left => r = .ok none ∧ left = [])
      s hclosed hps cuts answers
    rw [List.append_nil] at heq
    exact heq
  · obtain ⟨r, left, heq, err, rfl⟩ :=
      receivedFrom_packets (R := fun r _ => ∃ err, r = .error err) s
      (recvCommand_truncated hp hframe hfront hback) hps cuts answers
    exact ⟨err, by rw [heq]⟩
  · obtain ⟨r, left, heq, ⟨err, rfl⟩, rfl⟩ := receivedFrom_packets
      (R := fun r left => (∃ err, r = .error err) ∧ left = rest) s
      (recvCommand_oversized hlong hn rest) hps cuts answers
    exact ⟨err, heq⟩

theorem command_framing_round_trip_empty :
    receivedFrom (written (accepted 0) opened [[0x57], []]) (fun _ => 3) accepted opened 3 =
      ([.ok (some [0x57]), .ok (some []), .ok none], []) :=
  (command_framing_round_trip [[0x57], []] (by decide) (accepted 0) opened opened (fun _ => 3)
    accepted).1

end SummitUsbgadget.FastbootTcp
