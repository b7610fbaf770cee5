import SummitUsbgadget.SwupdateIpc.Progress

/-!
# Frames that arrive in pieces

The async client reads every frame, however it arrives. The blocking client loses the part of a
frame that it finds, and everything after it is shifted: a call is `Torn` if it returns nothing and
has read something. No call is torn exactly if the arrivals are `unbroken`: no read in the middle of
a frame finds nothing. `receive_nb_faithful_iff` says that the frames come through, and with them
the verdict, in that case and in no other.
-/

set_option autoImplicit false

namespace SummitUsbgadget.SwupdateIpc

/-! ## Reading from a connection that stays up -/

/-- The daemon does not close the connection, and no read fails. -/
structure Socket.Up (s : Socket) : Prop where
  ended : s.ended = false
  coming : ∀ a ∈ s.coming, ∃ data, a = .bytes data

/-- A bound for the reads until nothing is left. -/
def Socket.cost (s : Socket) : Nat := s.left.length + s.coming.length

namespace Socket

variable {s : Socket}

/-- What a read takes of something. -/
theorem take_piece {want : Nat} (hwant : want ≠ 0) {unread : Bytes} (hne : unread ≠ []) :
    unread.take want ≠ [] ∧ (unread.take want).length ≤ want := by
  have hpos := List.length_pos_iff.2 hne
  constructor
  · rw [← List.length_pos_iff, List.length_take]
    omega
  · rw [List.length_take]
    omega

/-- What a read finds: what was there, and what arrives before it. -/
def found (s : Socket) : Bytes := s.unread ++ ((s.coming.head?.map Arrival.data).getD [])

theorem left_eq_found (s : Socket) :
    s.left = s.found ++ ((s.coming.tail.map Arrival.data).flatten) := by
  obtain ⟨unread, ended, coming⟩ := s
  cases coming with
  | nil => simp [left, found]
  | cons next rest => simp [left, found]

/-- A read takes of what it finds, and would block if it finds nothing. -/
theorem readNb_found (want : Nat) (h : s.Up) :
    s.readNb want =
      if s.found = [] then (.error wouldBlockError, ⟨[], false, s.coming.tail⟩)
      else (.ok (s.found.take want), ⟨s.found.drop want, false, s.coming.tail⟩) := by
  obtain ⟨unread, ended, coming⟩ := s
  obtain ⟨rfl, hcoming⟩ := h
  have hfind : ∃ data, found ⟨unread, false, coming⟩ = data ∧
      arrive ⟨unread, false, coming⟩ = (none, ⟨data, false, coming.tail⟩) := by
    cases coming with
    | nil => exact ⟨unread, List.append_nil unread, rfl⟩
    | cons next rest =>
        obtain ⟨data, rfl⟩ := hcoming next List.mem_cons_self
        exact ⟨unread ++ data, rfl, rfl⟩
  obtain ⟨data, hfound, harrive⟩ := hfind
  rw [hfound, readNb, harrive]
  by_cases hnil : data = []
  · simp [hnil]
  · simp [hnil, take]

theorem Up.tail (h : s.Up) (unread : Bytes) : Up ⟨unread, false, s.coming.tail⟩ :=
  ⟨rfl, fun a ha => h.coming a (List.mem_of_mem_tail ha)⟩

/-- A read takes a piece of the front, or finds nothing. Either way it gets further. -/
theorem readNb_up (want : Nat) (h : s.Up) (hwant : want ≠ 0) :
    (s.readNb want).2.Up ∧ (s.readNb want).2.cost ≤ s.cost - 1 ∧
      ((∃ data, (s.readNb want).1 = .ok data ∧ data ≠ [] ∧ data.length ≤ want ∧
          s.left = data ++ (s.readNb want).2.left) ∨
        ((s.readNb want).1 = .error wouldBlockError ∧ s.left = (s.readNb want).2.left)) := by
  have hleft := left_eq_found s
  rw [readNb_found want h]
  by_cases hnil : s.found = []
  · -- a pause; the cost falls because it is over, or it was nothing before
    rw [hnil, List.nil_append] at hleft
    rw [if_pos hnil]
    refine ⟨h.tail [], ?_, Or.inr ⟨rfl, hleft⟩⟩
    cases hcoming : s.coming with
    | nil => simp [cost, left]
    | cons next rest =>
        have hcost := congrArg List.length hleft
        simp only [left, hcoming, List.tail_cons] at hcost
        simp only [cost, left, hcoming, List.tail_cons, List.nil_append, List.length_cons, hcost]
        omega
  · obtain ⟨hpiece, hlen⟩ := take_piece hwant hnil
    have hsplit : s.left = s.found.take want ++ left ⟨s.found.drop want, false, s.coming.tail⟩ := by
      rw [hleft, left, ← List.append_assoc, List.take_append_drop]
    have hpos := List.length_pos_iff.2 hpiece
    have htail : s.coming.tail.length ≤ s.coming.length := by
      rw [List.length_tail]
      omega
    rw [if_neg hnil]
    refine ⟨h.tail _, ?_, Or.inl ⟨_, rfl, hpiece, hlen, hsplit⟩⟩
    simp only [cost, hsplit, List.length_append]
    omega

/-- A read of `read_exact` that brings something. -/
theorem readExactNb_data {want n : Nat} {buf data : Bytes} {s' : Socket}
    (hshort : buf.length < want) (hread : s.readNb (want - buf.length) = (.ok data, s'))
    (hne : data ≠ []) :
    s.readExactNb want (n + 1) buf = s'.readExactNb want n (buf ++ data) := by
  cases data with
  | nil => exact absurd rfl hne
  | cons b data => rw [readExactNb, if_neg (Nat.not_le.2 hshort), hread]

/-- A read of `read_exact` that fails. -/
theorem readExactNb_failed {want n : Nat} {buf : Bytes} {err : IoError} {s' : Socket}
    (hshort : buf.length < want) (hread : s.readNb (want - buf.length) = (.error err, s')) :
    s.readExactNb want (n + 1) buf = (.error err, s') := by
  rw [readExactNb, if_neg (Nat.not_le.2 hshort), hread]

/-- However the bytes arrive, `read_exact` takes those that it wants, or fewer and fails. -/
theorem readExactNb_up {want : Nat} (h : s.Up) {n : Nat} {buf : Bytes} (hn : want ≤ buf.length + n)
    (hbuf : buf.length ≤ want) :
    ∃ got, s.left = got ++ (s.readExactNb want n buf).2.left ∧ (s.readExactNb want n buf).2.Up ∧
      (s.readExactNb want n buf).2.cost ≤ s.cost - (if buf.length < want then 1 else 0) ∧
      (((s.readExactNb want n buf).1 = .ok (buf ++ got) ∧ (buf ++ got).length = want) ∨
        ((s.readExactNb want n buf).1 = .error wouldBlockError ∧ (buf ++ got).length < want)) := by
  induction n generalizing s buf with
  | zero =>
      have hfull : buf.length = want := by omega
      refine ⟨[], rfl, h, ?_, Or.inl ⟨?_, ?_⟩⟩
      · rw [if_neg (by omega)]
        exact Nat.le_refl _
      · rw [List.append_nil]
        rfl
      · rw [List.append_nil]
        exact hfull
  | succ n ih =>
      by_cases hfull : want ≤ buf.length
      · have hread : s.readExactNb want (n + 1) buf = (.ok buf, s) := if_pos hfull
        rw [hread, if_neg (by omega)]
        refine ⟨[], rfl, h, Nat.le_refl _, Or.inl ⟨?_, ?_⟩⟩
        · rw [List.append_nil]
        · rw [List.append_nil]
          omega
      · have hshort : buf.length < want := by omega
        obtain ⟨hup, hcost, hres⟩ := readNb_up (want - buf.length) h (by omega)
        rw [if_pos hshort]
        rcases hres with ⟨data, hread, hne, hlen, hleft⟩ | ⟨hread, hleft⟩
        · have hn' : want ≤ (buf ++ data).length + n := by
            have hpos := List.length_pos_iff.2 hne
            rw [List.length_append]
            omega
          have hbuf' : (buf ++ data).length ≤ want := by
            rw [List.length_append]
            omega
          obtain ⟨got, hgot, hup', hcost', hres'⟩ := ih hup hn' hbuf'
          rw [readExactNb_data hshort (Prod.ext hread rfl) hne]
          refine ⟨data ++ got, ?_, hup', ?_, ?_⟩
          · rw [List.append_assoc, ← hgot]
            exact hleft
          · exact Nat.le_trans hcost' (Nat.le_trans (Nat.sub_le _ _) hcost)
          · rw [← List.append_assoc]
            exact hres'
        · rw [readExactNb_failed hshort (Prod.ext hread rfl)]
          refine ⟨[], hleft, hup, hcost, Or.inr ⟨rfl, ?_⟩⟩
          rw [List.append_nil]
          exact hshort

/-- A read that waits takes a piece of the front, if there is one. -/
theorem readWait_up (want : Nat) (hwant : want ≠ 0) {unread : Bytes} {coming : List Arrival}
    (h : ∀ a ∈ coming, ∃ data, a = .bytes data) (hleft : left ⟨unread, false, coming⟩ ≠ []) :
    ∃ data s', readWait want unread false coming = some (.ok data, s') ∧ data ≠ [] ∧
      data.length ≤ want ∧ left ⟨unread, false, coming⟩ = data ++ s'.left ∧ s'.Up := by
  induction coming generalizing unread with
  | nil =>
      have hnil : unread ≠ [] := by simpa [left] using hleft
      obtain ⟨hpiece, hlen⟩ := take_piece hwant hnil
      refine ⟨unread.take want, ⟨unread.drop want, false, []⟩, ?_, hpiece, hlen, ?_, ⟨rfl, nofun⟩⟩
      · simp [readWait, take, hnil]
      · simp [left]
  | cons next rest ih =>
      obtain ⟨⟨data, rfl⟩, hrest⟩ := List.forall_mem_cons.1 h
      by_cases hnil : unread = []
      · -- what arrives is read, unless it is empty as well
        subst hnil
        exact ih hrest hleft
      · obtain ⟨hpiece, hlen⟩ := take_piece hwant hnil
        refine ⟨unread.take want, ⟨unread.drop want, false, .bytes data :: rest⟩, ?_,
          hpiece, hlen, ?_, ⟨rfl, h⟩⟩
        · simp [readWait, take, hnil]
        · simp only [left]
          rw [← List.append_assoc, List.take_append_drop]

/-- It waits forever if nothing comes. -/
theorem readWait_nil {want : Nat} {unread : Bytes} {coming : List Arrival}
    (h : ∀ a ∈ coming, ∃ data, a = .bytes data) (hleft : left ⟨unread, false, coming⟩ = []) :
    readWait want unread false coming = none := by
  induction coming generalizing unread with
  | nil =>
      have hnil : unread = [] := by simpa [left] using hleft
      simp [readWait, hnil]
  | cons next rest ih =>
      obtain ⟨⟨data, rfl⟩, hrest⟩ := List.forall_mem_cons.1 h
      obtain ⟨rfl, htail⟩ := List.append_eq_nil_iff.1 hleft
      exact ih hrest htail

/-- A read of the `read_exact` that waits. -/
theorem readExactWait_data {want n : Nat} {buf data : Bytes} {s' : Socket}
    (hshort : buf.length < want)
    (hread : readWait (want - buf.length) s.unread s.ended s.coming = some (.ok data, s'))
    (hne : data ≠ []) :
    s.readExactWait want (n + 1) buf = s'.readExactWait want n (buf ++ data) := by
  cases data with
  | nil => exact absurd rfl hne
  | cons b data =>
      rw [readExactWait, if_neg (Nat.not_le.2 hshort), hread]

/-- `read_exact` that waits takes what it wants from the front. -/
theorem readExactWait_up {want : Nat} (h : s.Up) {n : Nat} {buf front rest : Bytes}
    (hn : want ≤ buf.length + n) (hlen : buf.length + front.length = want)
    (hleft : s.left = front ++ rest) :
    ∃ s', s.readExactWait want n buf = some (.ok (buf ++ front), s') ∧ s'.left = rest ∧ s'.Up := by
  induction n generalizing s buf front with
  | zero =>
      obtain rfl : front = [] := List.length_eq_zero_iff.1 (by omega)
      refine ⟨s, ?_, hleft, h⟩
      rw [List.append_nil]
      rfl
  | succ n ih =>
      by_cases hfull : want ≤ buf.length
      · obtain rfl : front = [] := List.length_eq_zero_iff.1 (by omega)
        refine ⟨s, ?_, hleft, h⟩
        rw [List.append_nil]
        exact if_pos hfull
      · obtain ⟨unread, ended, coming⟩ := s
        obtain ⟨rfl, hcoming⟩ := h
        have hne : front ≠ [] := List.length_pos_iff.1 (by omega)
        have hsome : left ⟨unread, false, coming⟩ ≠ [] := by
          rw [hleft]
          exact List.append_ne_nil_of_left_ne_nil hne rest
        obtain ⟨data, s', hread, hdata, hdlen, hsplit, hup⟩ :=
          readWait_up (want - buf.length) (by omega) hcoming hsome
        -- what was read is the front of what is wanted
        obtain ⟨more, rfl⟩ : data <+: front :=
          List.prefix_of_prefix_length_le ⟨s'.left, hsplit.symm⟩ ⟨rest, hleft.symm⟩ (by omega)
        have hrest : s'.left = more ++ rest := by
          rw [hsplit, List.append_assoc] at hleft
          exact List.append_cancel_left hleft
        have hpos := List.length_pos_iff.2 hdata
        rw [List.length_append] at hlen
        have hn' : want ≤ (buf ++ data).length + n := by
          rw [List.length_append]
          omega
        have hlen' : (buf ++ data).length + more.length = want := by
          rw [List.length_append]
          omega
        obtain ⟨s'', hread', hrest', hup'⟩ := ih hup hn' hlen' hrest
        rw [readExactWait_data (Nat.not_le.1 hfull) hread hdata, hread', List.append_assoc]
        exact ⟨s'', rfl, hrest', hup'⟩

end Socket

/-! ## What the reads find -/

/-- No read in the middle of a frame finds nothing. The list tells how many bytes arrive before each
of the next reads; `unread` bytes are there already, and `got` bytes of a frame were read by the
call that is under way. A read takes what is there, up to the end of the frame, and the first read
of a call may find nothing. When nothing arrives any more, what is there has to end with a frame. -/
def unbroken (size : Nat) : Nat → Nat → List Nat → Bool
  | got, unread, [] => (got + unread) % size = 0
  | got, unread, arriving :: rest =>
      if unread + arriving = 0 then got = 0 && unbroken size 0 0 rest
      else if got + (unread + arriving) < size then unbroken size (got + (unread + arriving)) 0 rest
      else unbroken size 0 (got + (unread + arriving) - size) rest

namespace Socket

variable {s : Socket} {size : Nat}

/-- No read of a connection breaks a frame of which `got` bytes were read. -/
def unbroken (size got : Nat) (s : Socket) : Bool :=
  SwupdateIpc.unbroken size got s.unread.length (s.coming.map fun a => a.data.length)

/-- What a read finds decides, also if nothing arrives before it. -/
theorem unbroken_found {got : Nat} (hgot : got < size) :
    s.unbroken size got =
      if s.found = [] then got = 0 && unbroken size 0 ⟨[], false, s.coming.tail⟩
      else if got + s.found.length < size then
        unbroken size (got + s.found.length) ⟨[], false, s.coming.tail⟩
      else unbroken size 0 ⟨s.found.drop (size - got), false, s.coming.tail⟩ := by
  obtain ⟨unread, ended, coming⟩ := s
  cases coming with
  | nil =>
      have hfound : found ⟨unread, ended, []⟩ = unread := List.append_nil unread
      simp only [unbroken, SwupdateIpc.unbroken, hfound, List.tail_nil, List.map_nil,
        List.length_nil, List.length_drop]
      split
      · rename_i hnil
        simp [hnil, Nat.mod_eq_of_lt hgot]
      · split
        · rfl
        · -- the first frame is taken off
          have hmod : (got + unread.length) % size = (unread.length - (size - got)) % size := by
            rw [Nat.mod_eq_sub_mod (by omega)]
            congr 1
            omega
          rw [hmod, Nat.zero_add]
  | cons next rest =>
      have hfound : found ⟨unread, ended, next :: rest⟩ = unread ++ next.data := rfl
      have hlen : (unread ++ next.data).length = unread.length + next.data.length :=
        List.length_append
      have hdrop : ((unread ++ next.data).drop (size - got)).length =
          unread.length + next.data.length - (size - got) := by
        rw [List.length_drop, hlen]
      have hrest : got + (unread.length + next.data.length) - size =
          unread.length + next.data.length - (size - got) := by omega
      simp only [unbroken, SwupdateIpc.unbroken, hfound, hdrop, List.tail_cons, List.map_cons,
        List.length_nil, hrest, ← List.length_eq_zero_iff, hlen]

/-- A read that finds nothing breaks a frame if there is one under way. -/
theorem unbroken_of_blocked {got want : Nat} {s' : Socket} (h : s.Up) (hgot : got < size)
    (hread : s.readNb want = (.error wouldBlockError, s')) :
    s.unbroken size got = (got = 0 && s'.unbroken size 0) := by
  rw [readNb_found want h] at hread
  by_cases hnil : s.found = []
  · rw [if_pos hnil] at hread
    obtain rfl : ⟨[], false, s.coming.tail⟩ = s' := congrArg Prod.snd hread
    rw [unbroken_found hgot, if_pos hnil]
  · rw [if_neg hnil] at hread
    cases congrArg Prod.fst hread

/-- A read that brings something leaves the frame under way, or ends it. -/
theorem unbroken_of_read {got : Nat} {data : Bytes} {s' : Socket} (h : s.Up) (hgot : got < size)
    (hread : s.readNb (size - got) = (.ok data, s')) :
    s.unbroken size got =
      s'.unbroken size (if got + data.length < size then got + data.length else 0) := by
  rw [readNb_found _ h] at hread
  by_cases hnil : s.found = []
  · rw [if_pos hnil] at hread
    cases congrArg Prod.fst hread
  · rw [if_neg hnil] at hread
    obtain rfl : s.found.take (size - got) = data := Except.ok.inj (congrArg Prod.fst hread)
    obtain rfl : ⟨s.found.drop (size - got), false, s.coming.tail⟩ = s' := congrArg Prod.snd hread
    rw [unbroken_found hgot, if_neg hnil, List.length_take]
    by_cases hpart : got + s.found.length < size
    · -- all of what was found belongs to the frame
      have hmin : min (size - got) s.found.length = s.found.length := by omega
      rw [hmin, if_pos hpart, if_pos hpart, List.drop_of_length_le (by omega)]
    · have hmin : min (size - got) s.found.length = size - got := by omega
      rw [hmin, if_neg hpart, if_neg (by omega)]

/-- `read_exact` that gets its bytes ends a frame. One that fails had read nothing of a frame, or
breaks it. -/
theorem readExactNb_unbroken (h : s.Up) {n : Nat} {buf : Bytes} (hn : size ≤ buf.length + n)
    (hbuf : buf.length < size) :
    (∃ msg, (s.readExactNb size n buf).1 = .ok msg ∧
        s.unbroken size buf.length = (s.readExactNb size n buf).2.unbroken size 0) ∨
      ((s.readExactNb size n buf).1 = .error wouldBlockError ∧
        ((buf = [] ∧ (s.readExactNb size n buf).2.left = s.left ∧
            s.unbroken size 0 = (s.readExactNb size n buf).2.unbroken size 0) ∨
          ((buf ≠ [] ∨ (s.readExactNb size n buf).2.left ≠ s.left) ∧
            s.unbroken size buf.length = false))) := by
  induction n generalizing s buf with
  | zero => omega
  | succ n ih =>
      obtain ⟨hup, -, ⟨data, hread, hne, hlen, hleft⟩ | ⟨hread, hleft⟩⟩ :=
        readNb_up (size - buf.length) h (by omega)
      · have hpos := List.length_pos_iff.2 hne
        have hn' : size ≤ (buf ++ data).length + n := by
          rw [List.length_append]
          omega
        rw [readExactNb_data hbuf (Prod.ext hread rfl) hne,
          unbroken_of_read h hbuf (Prod.ext hread rfl), ← List.length_append]
        by_cases hpart : (buf ++ data).length < size
        · rw [if_pos hpart]
          rcases ih hup hn' hpart with hdone | ⟨hfail, ⟨hnil, -⟩ | ⟨-, hbroken⟩⟩
          · exact Or.inl hdone
          · exact absurd (List.append_eq_nil_iff.1 hnil).2 hne
          · -- what this read brought is lost
            obtain ⟨got, hgot, -⟩ := readExactNb_up hup hn' (Nat.le_of_lt hpart)
            refine Or.inr ⟨hfail, Or.inr ⟨Or.inr fun hsame => ?_, hbroken⟩⟩
            have hless := congrArg List.length hleft
            rw [hgot, List.length_append, List.length_append, hsame] at hless
            omega
        · have hfull : (s.readNb (size - buf.length)).2.readExactNb size n (buf ++ data) =
              (.ok (buf ++ data), (s.readNb (size - buf.length)).2) := by
            cases n with
            | zero => rfl
            | succ n => exact if_pos (Nat.not_lt.1 hpart)
          rw [if_neg hpart, hfull]
          exact Or.inl ⟨_, rfl, rfl⟩
      · rw [readExactNb_failed hbuf (Prod.ext hread rfl)]
        have hblocked := unbroken_of_blocked h hbuf (Prod.ext hread rfl)
        refine Or.inr ⟨rfl, ?_⟩
        by_cases hnil : buf = []
        · subst hnil
          exact Or.inl ⟨rfl, hleft.symm, hblocked⟩
        · refine Or.inr ⟨Or.inl hnil, ?_⟩
          rw [hblocked]
          simp [hnil]

end Socket

/-! ## Calls -/

namespace Blocking

variable {size : Nat} {s : Socket}

/-- A call that reads a frame. -/
theorem receiveNb_read {msg : Bytes} {s' : Socket}
    (h : s.readExactNb size size [] = (.ok msg, s')) : receiveNb size s = (.ok (some msg), s') := by
  rw [receiveNb, h]

/-- A call that would block. -/
theorem receiveNb_blocked {s' : Socket}
    (h : s.readExactNb size size [] = (.error wouldBlockError, s')) :
    receiveNb size s = (.ok none, s') := by
  rw [receiveNb, h]
  exact if_pos (Or.inl rfl)

/-- A call returns the next bytes of a frame's size, or nothing and has read fewer. -/
theorem receiveNb_up (h : s.Up) (hsize : 0 < size) :
    (receiveNb size s).2.Up ∧ (receiveNb size s).2.cost ≤ s.cost - 1 ∧
      ∃ got, s.left = got ++ (receiveNb size s).2.left ∧
        (((receiveNb size s).1 = .ok (some got) ∧ got.length = size) ∨
          ((receiveNb size s).1 = .ok none ∧ got.length < size)) := by
  obtain ⟨got, hleft, hup, hcost, hres⟩ :=
    Socket.readExactNb_up h (Nat.le_add_left size [].length) (Nat.zero_le size)
  rw [if_pos (show ([] : Bytes).length < size from hsize)] at hcost
  rcases hres with ⟨hread, hlen⟩ | ⟨hread, hlen⟩
  · rw [receiveNb_read (Prod.ext hread rfl)]
    exact ⟨hup, hcost, got, hleft, Or.inl ⟨rfl, hlen⟩⟩
  · rw [receiveNb_blocked (Prod.ext hread rfl)]
    exact ⟨hup, hcost, got, hleft, Or.inr ⟨rfl, hlen⟩⟩

/-- The connection after `n` calls of `receive_nb`. -/
def after (size : Nat) : Nat → Socket → Socket
  | 0, s => s
  | n + 1, s => after size n (receiveNb size s).2

/-- The frames that `n` calls of `receive_nb` return. -/
def received (size : Nat) : Nat → Socket → List Bytes
  | 0, _ => []
  | n + 1, s =>
      match (receiveNb size s).1 with
      | .ok (some msg) => msg :: received size n (receiveNb size s).2
      | _ => received size n (receiveNb size s).2

/-- A call that returns nothing and has read something. -/
def Torn (size : Nat) (s : Socket) : Prop :=
  (receiveNb size s).1 = .ok none ∧ (receiveNb size s).2.left ≠ s.left

/-- No call is torn. -/
def Whole (size : Nat) (s : Socket) : Prop := ∀ n, ¬ Torn size (after size n s)

/-- A torn call breaks a frame, and no other call does. -/
theorem unbroken_receiveNb (h : s.Up) (hsize : 0 < size) :
    (Torn size s ∧ s.unbroken size 0 = false) ∨
      (¬ Torn size s ∧ s.unbroken size 0 = (receiveNb size s).2.unbroken size 0) := by
  rcases Socket.readExactNb_unbroken h (Nat.le_add_left size ([] : Bytes).length) hsize with
    ⟨msg, hread, hsame⟩ | ⟨hread, ⟨-, hleft, hsame⟩ | ⟨hleft, hbroken⟩⟩
  · rw [Torn, receiveNb_read (Prod.ext hread rfl)]
    exact Or.inr ⟨nofun, hsame⟩
  · rw [Torn, receiveNb_blocked (Prod.ext hread rfl)]
    exact Or.inr ⟨fun htorn => htorn.2 hleft, hsame⟩
  · have hlost := hleft.resolve_left fun hne => hne rfl
    rw [Torn, receiveNb_blocked (Prod.ext hread rfl)]
    exact Or.inl ⟨⟨rfl, hlost⟩, hbroken⟩

theorem received_some {msg : Bytes} (h : (receiveNb size s).1 = .ok (some msg)) (n : Nat) :
    received size (n + 1) s = msg :: received size n (receiveNb size s).2 := by
  rw [received, h]

theorem received_none (h : (receiveNb size s).1 = .ok none) (n : Nat) :
    received size (n + 1) s = received size n (receiveNb size s).2 := by
  rw [received, h]

theorem after_cost (h : s.Up) (hsize : 0 < size) (n : Nat) : (after size n s).cost ≤
    s.cost - n := by
  induction n generalizing s with
  | zero => exact Nat.le_refl _
  | succ n ih =>
      obtain ⟨hup, hcost, -⟩ := receiveNb_up h hsize
      have hrest := ih hup
      rw [after]
      omega

/-- No call is torn exactly if no read in the middle of a frame finds nothing. -/
theorem whole_iff_unbroken (h : s.Up) (hsize : 0 < size) :
    Whole size s ↔ s.unbroken size 0 = true := by
  constructor
  · intro hwhole
    -- induction on a bound for the reads; after them the connection is empty
    obtain ⟨n, hn⟩ : ∃ n, s.cost ≤ n := ⟨s.cost, Nat.le_refl _⟩
    induction n generalizing s with
    | zero =>
        rw [Socket.cost, Socket.left, List.length_append] at hn
        have hunread : s.unread.length = 0 := by omega
        have hcoming : s.coming = [] := List.length_eq_zero_iff.1 (by omega)
        rw [Socket.unbroken, hunread, hcoming]
        simp [unbroken]
    | succ n ih =>
        obtain ⟨hup, hcost, -⟩ := receiveNb_up h hsize
        rcases unbroken_receiveNb h hsize with ⟨htorn, -⟩ | ⟨-, hsame⟩
        · exact absurd htorn (hwhole 0)
        · rw [hsame]
          exact ih hup (fun n => hwhole (n + 1)) (by omega)
  · intro hunbroken n
    induction n generalizing s with
    | zero =>
        rcases unbroken_receiveNb h hsize with ⟨-, hbroken⟩ | ⟨hwhole, -⟩
        · rw [hbroken] at hunbroken
          cases hunbroken
        · exact hwhole
    | succ n ih =>
        rcases unbroken_receiveNb h hsize with ⟨-, hbroken⟩ | ⟨-, hsame⟩
        · rw [hbroken] at hunbroken
          cases hunbroken
        · exact ih (receiveNb_up h hsize).1 (hsame.symm.trans hunbroken)

/-- What was returned and what is left is no more than there was. -/
theorem received_le (h : s.Up) (hsize : 0 < size) (n : Nat) :
    (received size n s).flatten.length + (after size n s).left.length ≤ s.left.length := by
  induction n generalizing s with
  | zero => simp [received, after]
  | succ n ih =>
      obtain ⟨hup, -, got, hleft, ⟨hres, -⟩ | ⟨hres, -⟩⟩ := receiveNb_up h hsize
      · have hrest := ih hup
        rw [received_some hres, after, hleft, List.flatten_cons, List.length_append,
          List.length_append]
        omega
      · have hrest := ih hup
        rw [received_none hres, after, hleft, List.length_append]
        omega

/-- What a torn call has read is never returned. -/
theorem received_lt {k : Nat} (h : s.Up) (hsize : 0 < size) (htorn : Torn size (after size k s))
    (n : Nat) : (received size n s).flatten.length < s.left.length := by
  -- induction on the calls before the torn one; the calls that are counted may be fewer
  induction k generalizing s n with
  | zero =>
      obtain ⟨hnone, hne⟩ := htorn
      rw [after] at hnone hne
      obtain ⟨hup, -, got, hleft, -⟩ := receiveNb_up h hsize
      have hgot : 0 < got.length := by
        rw [List.length_pos_iff]
        rintro rfl
        exact hne hleft.symm
      rw [hleft, List.length_append]
      cases n with
      | zero =>
          rw [received, List.flatten_nil, List.length_nil]
          omega
      | succ n =>
          have hrest := received_le hup hsize n
          rw [received_none hnone]
          omega
  | succ k ih =>
      obtain ⟨hup, -, got, hleft, hres⟩ := receiveNb_up h hsize
      rw [hleft, List.length_append]
      cases n with
      | zero =>
          have hrest := ih hup htorn 0
          exact Nat.lt_of_lt_of_le hrest (Nat.le_add_left _ _)
      | succ n =>
          have hrest := ih hup htorn n
          rcases hres with ⟨hres, -⟩ | ⟨hres, -⟩
          · rw [received_some hres, List.flatten_cons, List.length_append]
            omega
          · rw [received_none hres]
            omega

/-- Nothing is returned from less than a frame. -/
theorem received_short (h : s.Up) (hshort : s.left.length < size) (n : Nat) :
    received size n s = [] := by
  induction n generalizing s with
  | zero => rfl
  | succ n ih =>
      obtain ⟨hup, -, got, hleft, hres⟩ := receiveNb_up h (Nat.zero_lt_of_lt hshort)
      have hlen := congrArg List.length hleft
      rw [List.length_append] at hlen
      rcases hres with ⟨-, hgot⟩ | ⟨hres, -⟩
      · omega
      · rw [received_none hres]
        exact ih hup (by omega)

end Blocking

/-- The daemon sends the frames `fs`, and the connection stays up. -/
structure Carries (size : Nat) (fs : List Bytes) (s : Socket) : Prop where
  up : s.Up
  frames : ∀ f ∈ fs, f.length = size
  left : s.left = fs.flatten

namespace Carries

variable {size : Nat} {fs : List Bytes} {s : Socket}

/-- The front, if it has the size of a frame, is the first frame. -/
theorem front {got rest : Bytes} (h : Carries size fs s) (hsize : 0 < size)
    (hgot : got.length = size) (hleft : s.left = got ++ rest) :
    ∃ tail, fs = got :: tail ∧ (∀ f ∈ tail, f.length = size) ∧ tail.flatten = rest := by
  have heq : fs.flatten = got ++ rest := h.left.symm.trans hleft
  cases fs with
  | nil =>
      have hnil := (List.append_eq_nil_iff.1 heq.symm).1
      rw [hnil, List.length_nil] at hgot
      omega
  | cons f tail =>
      obtain ⟨hf, htail⟩ := List.forall_mem_cons.1 h.frames
      obtain ⟨rfl, hrest⟩ := List.append_inj heq (hf.trans hgot.symm)
      exact ⟨tail, rfl, htail, hrest⟩

/-- No frame is sent if no byte is. -/
theorem empty (h : Carries size fs s) (hsize : 0 < size) (hleft : s.left = []) : fs = [] := by
  cases fs with
  | nil => rfl
  | cons f tail =>
      have hf := h.frames f List.mem_cons_self
      rw [(List.append_eq_nil_iff.1 (h.left.symm.trans hleft)).1, List.length_nil] at hf
      omega

/-- A call that is not torn returns the first frame, or nothing and leaves all of them. -/
theorem receiveNb_step (h : Carries size fs s) (hsize : 0 < size)
    (hwhole : ¬ Blocking.Torn size s) :
    ((Blocking.receiveNb size s).1 = .ok none ∧ Carries size fs (Blocking.receiveNb size s).2) ∨
      ∃ f tail, (Blocking.receiveNb size s).1 = .ok (some f) ∧ fs = f :: tail ∧
        Carries size tail (Blocking.receiveNb size s).2 := by
  obtain ⟨hup, -, got, hleft, ⟨hres, hlen⟩ | ⟨hres, -⟩⟩ := Blocking.receiveNb_up h.up hsize
  · obtain ⟨tail, rfl, hframes, htail⟩ := h.front hsize hlen hleft
    exact Or.inr ⟨got, tail, hres, rfl, hup, hframes, htail.symm⟩
  · have hsame : (Blocking.receiveNb size s).2.left = s.left := by
      by_contra hne
      exact hwhole ⟨hres, hne⟩
    exact Or.inl ⟨hres, hup, h.frames, hsame.trans h.left⟩

/-- The async client reads the first frame, and waits if there is none. -/
theorem receive_step (h : Carries size fs s) (hsize : 0 < size) :
    (fs = [] ∧ AsyncIo.receive size s = none) ∨
      ∃ f tail s', fs = f :: tail ∧ AsyncIo.receive size s = some (.ok f, s') ∧
        Carries size tail s' := by
  cases fs with
  | nil =>
      obtain ⟨m, rfl⟩ : ∃ m, size = m + 1 := ⟨size - 1, by omega⟩
      obtain ⟨unread, ended, coming⟩ := s
      obtain ⟨⟨rfl, hcoming⟩, -, hleft⟩ := h
      have hread : Socket.readExactWait (m + 1) (m + 1) [] ⟨unread, false, coming⟩ = none := by
        rw [Socket.readExactWait, if_neg (by simp)]
        dsimp only
        rw [Socket.readWait_nil hcoming hleft]
      refine Or.inl ⟨rfl, ?_⟩
      rw [AsyncIo.receive, hread]
  | cons f tail =>
      obtain ⟨hf, htail⟩ := List.forall_mem_cons.1 h.frames
      obtain ⟨s', hread, hrest, hup⟩ := Socket.readExactWait_up h.up
        (Nat.le_add_left size ([] : Bytes).length) ((Nat.zero_add _).trans hf) h.left
      refine Or.inr ⟨f, tail, s', rfl, ?_, hup, htail, hrest⟩
      rw [AsyncIo.receive, hread]
      rfl

end Carries

namespace Blocking

variable {size : Nat} {fs : List Bytes} {s : Socket}

/-- While no call is torn, the frames that were returned are the first ones, and the others are
left. -/
theorem received_whole (h : Carries size fs s) (hsize : 0 < size)
    (hwhole : Whole size s) (n : Nat) :
    ∃ tail, fs = received size n s ++ tail ∧ Carries size tail (after size n s) := by
  induction n generalizing s fs with
  | zero => exact ⟨fs, rfl, h⟩
  | succ n ih =>
      rcases h.receiveNb_step hsize (hwhole 0) with ⟨hres, hnext⟩ | ⟨f, tail, hres, rfl, hnext⟩
      · rw [received_none hres]
        exact ih hnext fun n => hwhole (n + 1)
      · obtain ⟨tail', htail, hrest⟩ := ih hnext fun n => hwhole (n + 1)
        rw [received_some hres]
        exact ⟨tail', congrArg (f :: ·) htail, hrest⟩

/-- With calls enough, all frames are returned. -/
theorem received_all (h : Carries size fs s) (hsize : 0 < size)
    (hwhole : Whole size s) {n : Nat} (hn : s.cost ≤ n) :
    received size n s = fs := by
  obtain ⟨tail, htail, hrest⟩ := received_whole h hsize hwhole n
  have hcost := after_cost h.up hsize n
  have hleft : (after size n s).left = [] := by
    rw [← List.length_eq_zero_iff]
    rw [Socket.cost] at hcost
    omega
  rw [hrest.empty hsize hleft, List.append_nil] at htail
  exact htail.symm

end Blocking

/-! ## Verdicts -/

/-- What a wait for the result comes to if these are the frames that it reads before its deadline:
the first verdict, with the frames before it. -/
def conclusion : List Bytes → Except Error Unit × List Bytes
  | [] => (.error .timeout, [])
  | msg :: rest =>
      match frameVerdict msg with
      | some result => (result, [])
      | none => ((conclusion rest).1, msg :: (conclusion rest).2)

theorem conclusion_verdict {msg : Bytes} {result : Except Error Unit}
    (h : frameVerdict msg = some result) (rest : List Bytes) :
    conclusion (msg :: rest) = (result, []) := by
  rw [conclusion, h]

theorem conclusion_none {msg : Bytes} (h : frameVerdict msg = none) (rest : List Bytes) :
    conclusion (msg :: rest) = ((conclusion rest).1, msg :: (conclusion rest).2) := by
  rw [conclusion, h]

/-- The async client sees the frames that are sent. -/
theorem AsyncIo.await_eq {size : Nat} {fs : List Bytes} {s : Socket} (h : Carries size fs s)
    (hsize : 0 < size) (n : Nat) (more : List (Except Error Socket)) :
    AsyncIo.awaitProgressResultWith size n s more = conclusion (fs.take n) := by
  induction n generalizing s fs with
  | zero => rfl
  | succ n ih =>
      rcases h.receive_step hsize with ⟨rfl, hread⟩ | ⟨f, tail, s', rfl, hread, hnext⟩
      · simp only [awaitProgressResultWith, hread]
        rfl
      · simp only [awaitProgressResultWith, hread, List.take_succ_cons]
        cases hverdict : frameVerdict f with
        | some result => rw [conclusion_verdict hverdict]
        | none => rw [conclusion_none hverdict, ih hnext]

namespace Blocking

variable {size : Nat} {fs : List Bytes} {s : Socket}

/-- The blocking client sees the frames that its calls return. -/
theorem await_eq (h : s.Up) (hsize : 0 < size) (n : Nat) (more : List (Except Error Socket)) :
    awaitProgressResultWith size n s more = conclusion (received size n s) := by
  induction n generalizing s with
  | zero => rfl
  | succ n ih =>
      obtain ⟨hup, -, f, -, ⟨hres, -⟩ | ⟨hres, -⟩⟩ := receiveNb_up h hsize
      · have hstep : receiveNb size s = (.ok (some f), (receiveNb size s).2) := Prod.ext hres rfl
        rw [received_some hres]
        generalize (receiveNb size s).2 = s' at *
        simp only [awaitProgressResultWith, hstep]
        cases hverdict : frameVerdict f with
        | some result => rw [conclusion_verdict hverdict]
        | none => rw [conclusion_none hverdict, ih hup]
      · have hstep : receiveNb size s = (.ok none, (receiveNb size s).2) := Prod.ext hres rfl
        rw [received_none hres]
        generalize (receiveNb size s).2 = s' at *
        simp only [awaitProgressResultWith, hstep]
        exact ih hup

/-- What `n` calls of `consume_progress` come to. -/
def consumed (size : Nat) : Nat → Socket → Option AsyncOutcome
  | 0, _ => none
  | n + 1, s =>
      match consumeProgress size s with
      | (.ok (some outcome), _) => some outcome
      | (_, s) => consumed size n s

/-- The outcome of an install with a verdict. -/
def outcome : Except Error Unit → Option AsyncOutcome
  | .ok () => some .success
  | .error .installFailed => some .failure
  | .error _ => none

/-- A frame's verdict is success or failure. -/
theorem frameVerdict_cases {msg : Bytes} {result : Except Error Unit}
    (h : frameVerdict msg = some result) : result = .ok () ∨ result = .error .installFailed := by
  unfold frameVerdict at h
  split at h
  · exact Or.inl (Option.some.inj h).symm
  · exact Or.inr (Option.some.inj h).symm
  · cases h

/-- A look ends with a frame that has a verdict. -/
theorem consumeFrames_verdict {f : Bytes} {result : Except Error Unit} {s' : Socket}
    (hread : receiveNb size s = (.ok (some f), s')) (hverdict : frameVerdict f = some result)
    (n : Nat) : consumeFrames size (n + 1) s = (.ok (outcome result), s') := by
  rw [consumeFrames, hread]
  dsimp only
  rw [hverdict]
  rcases frameVerdict_cases hverdict with rfl | rfl
  · rfl
  · rfl

/-- It goes on after any other frame. -/
theorem consumeFrames_none {f : Bytes} {s' : Socket} (hread : receiveNb size s = (.ok (some f), s'))
    (hverdict : frameVerdict f = none) (n : Nat) :
    consumeFrames size (n + 1) s = consumeFrames size n s' := by
  rw [consumeFrames, hread]
  dsimp only
  rw [hverdict]

/-- `consume_progress` comes to the verdict of the frames, or leaves it to those that it did not
read. -/
theorem consumeFrames_whole (h : Carries size fs s) (hsize : 0 < size) (hwhole : Whole size s)
    {n : Nat} (hn : s.left.length < n) :
    (∃ o s', consumeFrames size n s = (.ok (some o), s') ∧ outcome (conclusion fs).1 = some o) ∨
      ∃ tail s', consumeFrames size n s = (.ok none, s') ∧ Carries size tail s' ∧ Whole size s' ∧
        s'.cost ≤ s.cost - 1 ∧ outcome (conclusion fs).1 = outcome (conclusion tail).1 := by
  induction n generalizing s fs with
  | zero => omega
  | succ n ih =>
      have hcost := (receiveNb_up h.up hsize).2.1
      have hnext : Whole size (receiveNb size s).2 := fun n => hwhole (n + 1)
      rcases h.receiveNb_step hsize (hwhole 0) with
        ⟨hres, hcarries⟩ | ⟨f, tail, hres, rfl, hcarries⟩
      · -- nothing to read now, so the caller has to come back
        refine Or.inr ⟨fs, (receiveNb size s).2, ?_, hcarries, hnext, hcost, rfl⟩
        rw [consumeFrames,
          show receiveNb size s = (.ok none, (receiveNb size s).2) from Prod.ext hres rfl]
      · have hstep : receiveNb size s = (.ok (some f), (receiveNb size s).2) := Prod.ext hres rfl
        cases hverdict : frameVerdict f with
        | some result =>
            left
            rw [conclusion_verdict hverdict, consumeFrames_verdict hstep hverdict]
            rcases frameVerdict_cases hverdict with rfl | rfl
            · exact ⟨.success, _, rfl, rfl⟩
            · exact ⟨.failure, _, rfl, rfl⟩
        | none =>
            -- a frame of progress; the bound counts bytes, and the frame had some
            have hlen : (receiveNb size s).2.left.length < n := by
              rw [h.left, List.flatten_cons, List.length_append, ← hcarries.left,
                h.frames f List.mem_cons_self] at hn
              omega
            rw [consumeFrames_none hstep hverdict, conclusion_none hverdict]
            rcases ih hcarries hnext hlen with hdone | ⟨tail', s', hrun, hc, hw, hcost', hout⟩
            · exact Or.inl hdone
            · exact Or.inr ⟨tail', s', hrun, hc, hw, by omega, hout⟩

/-- With calls enough, `consume_progress` comes to the verdict of the frames. -/
theorem consumed_whole (h : Carries size fs s) (hsize : 0 < size) (hwhole : Whole size s) {n : Nat}
    (hn : s.cost ≤ n) : consumed size n s = outcome (conclusion fs).1 := by
  induction n generalizing s fs with
  | zero =>
      have hleft : s.left = [] := by
        rw [← List.length_eq_zero_iff]
        rw [Socket.cost] at hn
        omega
      rw [h.empty hsize hleft]
      rfl
  | succ n ih =>
      rcases consumeFrames_whole h hsize hwhole (Nat.lt_succ_self s.left.length) with
        ⟨o, s', hrun, hout⟩ | ⟨tail, s', hrun, hcarries, hnext, hcost, hout⟩
      · rw [consumed, consumeProgress, hrun, hout]
      · rw [consumed, consumeProgress, hrun, hout]
        exact ih hcarries hnext (by omega)

/-- The calls return the frames that are sent, in their order, and both waits of the blocking client
come to what the async client comes to, if their deadlines leave them turns enough. -/
structure Faithful (size : Nat) (fs : List Bytes) (s : Socket) : Prop where
  inOrder : ∀ n, received size n s <+: fs
  all : ∃ N, ∀ n ≥ N, received size n s = fs
  await : ∃ N, ∀ n ≥ N, ∀ m ≥ N, ∀ more, awaitProgressResultWith size n s more =
    AsyncIo.awaitProgressResultWith size m s more
  consume : ∃ N, ∀ n ≥ N, ∀ m ≥ N, ∀ more, consumed size n s =
    outcome (AsyncIo.awaitProgressResultWith size m s more).1

theorem size_pos (layout : ProgressLayout) : 0 < layout.size := by
  cases layout <;> decide

end Blocking

/-- A frame arrives as a whole. -/
def inOnePiece (f : Bytes) : Socket := ⟨[], false, [.bytes f]⟩

/-- A frame arrives in two pieces, with a pause between them. -/
def inTwoPieces (front back : Bytes) : Socket := ⟨[], false, [.bytes front, .bytes [], .bytes back]⟩

theorem carries_inOnePiece (f : Bytes) : Carries f.length [f] (inOnePiece f) := by
  refine ⟨⟨rfl, ?_⟩, ?_, rfl⟩
  · simp [inOnePiece]
  · simp

theorem carries_inTwoPieces (front back : Bytes) :
    Carries (front.length + back.length) [front ++ back] (inTwoPieces front back) := by
  refine ⟨⟨rfl, ?_⟩, ?_, ?_⟩
  · simp [inTwoPieces]
  · simp
  · simp [inTwoPieces, Socket.left, Arrival.data]

namespace Blocking

/-- The part of a frame that has arrived before a pause is gone. -/
theorem receiveNb_inTwoPieces {front back : Bytes} (hfront : front ≠ []) (hback : back ≠ []) :
    receiveNb (front.length + back.length) (inTwoPieces front back) =
      (.ok none, ⟨[], false, [.bytes back]⟩) := by
  have hpos := List.length_pos_iff.2 hfront
  have hpos' := List.length_pos_iff.2 hback
  obtain ⟨m, hm⟩ : ∃ m, front.length + back.length = m + 1 + 1 :=
    ⟨front.length + back.length - 2, by omega⟩
  have hread : (inTwoPieces front back).readNb (front.length + back.length - ([] : Bytes).length) =
      (.ok front, ⟨[], false, [.bytes [], .bytes back]⟩) := by
    have htake : front.take (front.length + back.length) = front :=
      List.take_of_length_le (Nat.le_add_right _ _)
    simp [inTwoPieces, Socket.readNb, Socket.arrive, Socket.take, hfront, htake]
  have hblock : Socket.readNb (front.length + back.length - front.length)
      ⟨[], false, [.bytes [], .bytes back]⟩ =
        (.error wouldBlockError, ⟨[], false, [.bytes back]⟩) :=
    rfl
  have hexact : (inTwoPieces front back).readExactNb (front.length + back.length) (m + 1 + 1) [] =
      (.error wouldBlockError, ⟨[], false, [.bytes back]⟩) := by
    rw [Socket.readExactNb_data (Nat.add_pos_left hpos _) hread hfront]
    exact Socket.readExactNb_failed (Nat.lt_add_of_pos_right hpos') hblock
  rw [← hm] at hexact
  exact receiveNb_blocked hexact

/-- Nothing of it is returned later, either. -/
theorem received_inTwoPieces {front back : Bytes} (hfront : front ≠ []) (hback : back ≠ [])
    (n : Nat) : received (front.length + back.length) n (inTwoPieces front back) = [] := by
  have hcall := receiveNb_inTwoPieces hfront hback
  have hpos := List.length_pos_iff.2 hfront
  cases n with
  | zero => rfl
  | succ n =>
      rw [received_none (by rw [hcall]), hcall]
      refine received_short ⟨rfl, by simp⟩ ?_ n
      simpa [Socket.left, Arrival.data] using hpos

theorem receive_nb_faithful_iff (layout : ProgressLayout) {fs : List Bytes} {s : Socket}
    (h : Carries layout.size fs s) :
    Faithful layout.size fs s ↔ s.unbroken layout.size 0 = true := by
  have hsize := size_pos layout
  rw [← whole_iff_unbroken h.up hsize]
  constructor
  · intro hfaithful k htorn
    -- what the torn call has read is missing, however many calls are made
    obtain ⟨N, hall⟩ := hfaithful.all
    have hlt := received_lt h.up hsize htorn N
    rw [hall N (Nat.le_refl N), h.left] at hlt
    exact Nat.lt_irrefl _ hlt
  · intro hwhole
    have hasync : ∀ m ≥ fs.length, ∀ more,
        AsyncIo.awaitProgressResultWith layout.size m s more = conclusion fs := by
      intro m hm more
      rw [AsyncIo.await_eq h hsize, List.take_of_length_le hm]
    refine ⟨fun n => ?_, ⟨s.cost, fun n hn => received_all h hsize hwhole hn⟩,
      ⟨max s.cost fs.length, fun n hn m hm more => ?_⟩,
        ⟨max s.cost fs.length, fun n hn m hm more => ?_⟩⟩
    · obtain ⟨tail, htail, -⟩ := received_whole h hsize hwhole n
      exact ⟨tail, htail.symm⟩
    · rw [await_eq h.up hsize, hasync m (by omega), received_all h hsize hwhole (by omega)]
    · rw [hasync m (by omega), consumed_whole h hsize hwhole (by omega)]

/-- The first bytes of a frame: the API version, and the status `SUCCESS`. -/
def successHead : Bytes := [0, 0, 2, 0, 3, 0, 0, 0]

/-- The rest of a frame. -/
def blankTail (layout : ProgressLayout) : Bytes := List.replicate (layout.size - 8) 0

theorem length_successFrame (layout : ProgressLayout) :
    successHead.length + (blankTail layout).length = layout.size := by
  rw [blankTail, List.length_replicate]
  cases layout with
  | packed => rfl
  | unpacked => rfl

theorem receive_nb_faithful_iff_inOnePiece :
    Faithful ProgressLayout.packed.size [successHead ++ blankTail .packed]
      (inOnePiece (successHead ++ blankTail .packed)) := by
  have hlen : (successHead ++ blankTail .packed).length = ProgressLayout.packed.size :=
    List.length_append.trans (length_successFrame .packed)
  have hcarries := carries_inOnePiece (successHead ++ blankTail .packed)
  rw [hlen] at hcarries
  have hunbroken : (inOnePiece (successHead ++ blankTail .packed)).unbroken
      ProgressLayout.packed.size 0 = true := by
    simp only [Socket.unbroken, inOnePiece, List.length_nil, List.map_cons,
      List.map_nil, Arrival.data, hlen]
    decide
  exact (receive_nb_faithful_iff .packed hcarries).2 hunbroken

/-- A success that arrives in two pieces is a timeout for the blocking client, however long it
waits. -/
theorem success_in_two_pieces_lost :
    Carries ProgressLayout.packed.size [successHead ++ blankTail .packed]
        (inTwoPieces successHead (blankTail .packed)) ∧
      (∀ n, received ProgressLayout.packed.size n
        (inTwoPieces successHead (blankTail .packed)) = []) ∧
      (∀ n more, awaitProgressResultWith ProgressLayout.packed.size n
        (inTwoPieces successHead (blankTail .packed)) more = (.error .timeout, [])) ∧
      (∀ n more, AsyncIo.awaitProgressResultWith ProgressLayout.packed.size (n + 1)
        (inTwoPieces successHead (blankTail .packed)) more = (.ok (), [])) ∧
      ¬ Faithful ProgressLayout.packed.size [successHead ++ blankTail .packed]
        (inTwoPieces successHead (blankTail .packed)) := by
  have hlen := length_successFrame .packed
  have hcarries := carries_inTwoPieces successHead (blankTail .packed)
  have hhead : successHead ≠ [] := nofun
  have htail : blankTail .packed ≠ [] := nofun
  have hnone := received_inTwoPieces hhead htail
  rw [hlen] at hcarries hnone
  have hsize := size_pos .packed
  -- the status is in the first piece, but the size of a frame is never complete
  have hverdict : frameVerdict (successHead ++ blankTail .packed) = some (.ok ()) := rfl
  refine ⟨hcarries, hnone, fun n more => ?_, fun n more => ?_, fun hfaithful => ?_⟩
  · rw [await_eq hcarries.up hsize, hnone]
    rfl
  · rw [AsyncIo.await_eq hcarries hsize, List.take_succ_cons, conclusion_verdict hverdict]
  · obtain ⟨N, hall⟩ := hfaithful.all
    cases (hnone N).symm.trans (hall N (Nat.le_refl N))

end Blocking

end SummitUsbgadget.SwupdateIpc
