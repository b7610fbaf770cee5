import SummitUsbgadget.Lib.Machine
import SummitUsbgadget.FastbootUsb.Isolation
import SummitUsbgadget.FastbootUsb.Buffers

/-!
# How long the bulk reads are

Forgetting the buffers, the loop with buffers is the loop of the model (`Buffered.iterate_usb`). An
iteration submits one read at most, with the capacity of the buffer it took (`Depot.reads_lending`).
That capacity is a legal length of a read unless a recycled buffer does not come back to full size
(`reads_legal_iff`); `read_after_short_download_illegal` is a run in which it does not.
-/

set_option autoImplicit false

namespace SummitUsbgadget.FastbootUsb

open SummitUsbgadget.Lib
open SummitUsbgadget.Lib.Program
open SummitUsbgadget.Swupdate
open SummitUsbgadget.Fastboot

/-! ## Forgetting the buffers -/

namespace Depot

@[simp] theorem usb_onLane (n k : Nat) (f : Lane → Lane) (w : Depot) :
    (w.onLane n k f).usb = w.usb := rfl

@[simp] theorem usb_takeRecycled (w : Depot) : w.takeRecycled.usb = w.usb := by
  unfold takeRecycled
  split
  · rfl
  · exact usb_onLane _ _ _ w

@[simp] theorem usb_stock (buf : BytesMut UInt8) (before w : Depot) :
    (stock buf before w).usb = w.usb := by
  unfold stock
  split
  · rfl
  · exact usb_onLane _ _ _ w

end Depot

namespace Buffered

theorem erases_plain {α : Type} (p : FastbootUsb.Async α) : Erases Depot.usb id (plain p) p :=
  erases_zoom usb p

theorem erases_feedBlock (chunk : BytesMut UInt8) :
    Erases Depot.usb id (feedBlock chunk) (FastbootUsb.feedBlock chunk.data) :=
  erases_zoomThen usb _ fun before w => Depot.usb_stock chunk before w

theorem erases_handleDownloadChunk (chunk : BytesMut UInt8) :
    Erases Depot.usb id (handleDownloadChunk chunk)
      (FastbootUsb.handleDownloadChunk chunk.data) := by
  refine erases_ite Iff.rfl (erases_pure true) ?_
  refine erases_bind (erases_read fun _ => rfl) fun failed => ?_
  cases failed with
  | some failReply => exact erases_bind (erases_plain _) fun _ => erases_pure true
  | none => exact erases_bind (erases_feedBlock chunk) fun _ => erases_plain _

theorem erases_handleCommandChunk (chunk : BytesMut UInt8) :
    Erases Depot.usb (fun r => (r.1, r.2.data)) (handleCommandChunk chunk)
      (FastbootUsb.handleCommandChunk chunk.data) := by
  refine erases_bind (erases_plain _) fun _ => ?_
  cases parseCommand chunk.data with
  | none => exact erases_pure (false, chunk)
  | some found => exact erases_bind (erases_plain _) fun handled => erases_pure _

theorem erases_handleRxChunk (chunk : BytesMut UInt8) :
    Erases Depot.usb id (handleRxChunk chunk) (FastbootUsb.handleRxChunk chunk.data) := by
  refine erases_bind (erases_read fun _ => rfl) fun active => erases_ite Iff.rfl ?_ ?_
  · refine erases_bind (erases_handleCommandChunk chunk) fun r => ?_
    refine erases_bind (erases_read fun _ => rfl) fun active => ?_
    exact erases_ite Iff.rfl (erases_handleDownloadChunk r.2) (erases_pure true)
  · refine erases_bind (erases_read fun _ => rfl) fun remaining => ?_
    refine erases_ite Iff.rfl ?_ (erases_handleDownloadChunk chunk)
    refine erases_bind (erases_handleDownloadChunk (chunk.front remaining)) fun keep => ?_
    refine erases_ite Iff.rfl (erases_pure false) ?_
    refine erases_bind (erases_read fun _ => rfl) fun active => ?_
    exact erases_ite Iff.rfl (erases_pure true) (erases_handleDownloadChunk (chunk.back remaining))

theorem erases_fetchCompletion :
    Erases Depot.usb (fun r => r.map (Option.map BytesMut.data)) fetchCompletion
      FastbootUsb.fetchCompletion := by
  refine erases_bind_pure (erases_plain _) fun result => ?_
  intro w
  rcases result with err | (- | data)
  · rfl
  · rfl
  · rfl

theorem erases_onRecv (data : Except IoError (Option (BytesMut UInt8))) :
    Erases Depot.usb id (onRecv data)
      (FastbootUsb.onRecv (data.map (Option.map BytesMut.data))) := by
  rcases data with err | (- | chunk)
  · exact erases_plain _
  · exact erases_pure true
  · exact erases_handleRxChunk chunk

theorem erases_transferStep : Erases Depot.usb id transferStep FastbootUsb.transferStep := by
  refine erases_bind (erases_read fun _ => rfl) fun finishing => ?_
  refine erases_ite Iff.rfl (erases_plain _) ?_
  exact erases_bind erases_fetchCompletion erases_onRecv

theorem erases_recvBuffer : Erases Depot.usb id recvBuffer FastbootUsb.recvBuffer := by
  refine erases_bind (erases_read fun _ => rfl) fun capacity => ?_
  refine erases_ite Iff.rfl ?_ (erases_pure capacity)
  refine erases_bind_pure (erases_ask Query.buffer) fun lent => ?_
  exact erases_update_bind Depot.usb_takeRecycled (erases_pure lent)

theorem erases_submitRecv : Erases Depot.usb id submitRecv FastbootUsb.submitRecv := by
  refine erases_bind (erases_read fun _ => rfl) fun reading => ?_
  refine erases_ite Iff.rfl (erases_pure ()) ?_
  refine erases_bind erases_recvBuffer fun capacity => ?_
  refine erases_update_bind (fun _ => rfl) ?_
  exact erases_bind (erases_ask _) fun submitted => erases_plain (submittedRead submitted)

theorem erases_prime : Erases Depot.usb id prime FastbootUsb.prime := by
  refine erases_bind (erases_plain _) fun _ => erases_bind erases_submitRecv fun _ => ?_
  refine erases_bind (erases_read fun _ => rfl) fun torn => ?_
  exact erases_ite Iff.rfl (erases_bind (erases_plain _) fun _ => erases_pure false)
    (erases_pure true)

theorem dropTransfer_usb (answers : Option Nat) (o : Answers) (w : Depot) :
    FastbootUsb.dropTransfer answers o w.usb = (dropTransfer answers o w).usb := by
  cases answers with
  | none => rfl
  | some n =>
      unfold dropTransfer FastbootUsb.dropTransfer
      simp only [erases_transferStep.waiting]
      cases (transferStep w).waiting n o with
      | none => rfl
      | some x => exact (apply_ite Depot.usb (x.2.suspends = true) x.1 w).symm

/-- One iteration is that of the model once the buffers are forgotten. -/
theorem iterate_usb (w : Depot) (i : Iteration) :
    FastbootUsb.iterate w.usb i = ((iterate w i).1, (iterate w i).2.usb) := by
  unfold iterate FastbootUsb.iterate
  simp only [erases_prime.exec, id_eq]
  generalize prime.exec w i.top = primed
  obtain ⟨keep, w', o'⟩ := primed
  cases keep with
  | false => rfl
  | true =>
      cases i.select with
      | transfer =>
          simp only [Bool.not_true, Bool.false_eq_true, if_false, erases_transferStep.exec, id_eq]
          split
          · rfl
          · rfl
      | changed answers value =>
          have hleft : (if w'.usb.ready then FastbootUsb.dropTransfer answers i.step w'.usb
              else w'.usb) =
              (if w'.usb.ready then dropTransfer answers i.step w' else w').usb := by
            rw [dropTransfer_usb, apply_ite Depot.usb]
          simp only [Bool.not_true, Bool.false_eq_true, if_false, hleft,
            (erases_plain (reset none)).exec]
          split
          · rfl
          · rfl

end Buffered

/-! ## The reads of an iteration -/

/-- The read that a query submits, with the state in which it is. -/
def readOf (x : FastbootUsbState × Query) : Option (FastbootUsbState × Nat) :=
  match x.2 with
  | .submit capacity => some (x.1, capacity)
  | _ => none

/-- The reads that are submitted before the select. -/
def FastbootUsbState.reads (o : Answers) (s : FastbootUsbState) : List (FastbootUsbState × Nat) :=
  ((prime s).asked o).filterMap readOf

/-- The reads with the buffers of the function. -/
def Depot.reads (i : Iteration) (w : Depot) : List (FastbootUsbState × Nat) :=
  (((Buffered.prime w).asked i.top).map fun x => (x.1.usb, x.2)).filterMap readOf

theorem Depot.reads_usb (i : Iteration) (w : Depot) : w.reads i = w.usb.reads i.top := by
  unfold Depot.reads FastbootUsbState.reads
  rw [Buffered.erases_prime.asked]

/-- A query that has nothing to do with a read and its buffer. -/
def Query.Aside : Query → Prop
  | .buffer => False
  | .submit _ => False
  | _ => True

theorem filterMap_readOf {α : Type} {R : FastbootUsbState → α → Prop}
    {c : Coroutine FastbootUsbState Query Query.Answer α} (h : c.Meets Query.Aside R)
    (o : Answers) : (c.asked o).filterMap readOf = [] := by
  rw [List.filterMap_eq_nil_iff]
  rintro ⟨s, q⟩ hx
  have hq : q.Aside := h.asked o (s, q) hx
  cases q with
  | submit capacity => exact hq.elim
  | _ => rfl

/-- Taking the buffer submits nothing. -/
theorem asked_recvBuffer (s : FastbootUsbState) (o : Answers) :
    ((recvBuffer s).asked o).filterMap readOf = [] := by
  unfold recvBuffer
  rw [asked_bind]
  show (((if s.recvCapacity ≥ recvBufferSize then _ else _ : Async Nat) s).asked o).filterMap
    readOf = []
  split
  · rfl
  · rfl

theorem submittedRead_meets (submitted : Except IoError Unit) :
    (Buffered.submittedRead submitted).Meets Query.Aside fun _ _ => True := by
  cases submitted with
  | ok u => exact meets_update fun _ => trivial
  | error err => exact meets_ite (meets_update fun _ => trivial) (meets_pure fun _ => trivial)

/-- A read is submitted unless one is in flight. -/
theorem asked_submitRecv (s : FastbootUsbState) (o : Answers) :
    ((submitRecv s).asked o).filterMap readOf =
      if s.reading.isSome then []
      else [(s, if s.recvCapacity ≥ recvBufferSize then o 0 .buffer else s.recvCapacity)] := by
  unfold submitRecv
  rw [asked_bind]
  show (((if s.reading.isSome then _ else _ : Async Unit) s).asked o).filterMap readOf = _
  split
  · rfl
  · obtain ⟨hcap, hst⟩ := exec_recvBuffer s o
    rw [← hcap, asked_bind, List.filterMap_append, asked_recvBuffer, hst]
    generalize exec recvBuffer s o = r
    obtain ⟨capacity, s', o'⟩ := r
    -- behind the submission nothing is asked
    exact congrArg ((s, capacity) :: ·) (filterMap_readOf (submittedRead_meets _ s) o'.rest)

/-- One read at most, after the look at the verdict. -/
theorem FastbootUsbState.reads_eq (s : FastbootUsbState) (o : Answers) :
    s.reads o =
      if (exec checkVerdict s o).2.1.reading.isSome then []
      else [((exec checkVerdict s o).2.1,
        if (exec checkVerdict s o).2.1.recvCapacity ≥ recvBufferSize
        then (exec checkVerdict s o).2.2 0 .buffer
        else (exec checkVerdict s o).2.1.recvCapacity)] := by
  have hlook := checkVerdict_meets (P := Query.Aside) trivial trivial
  unfold FastbootUsbState.reads prime
  rw [asked_bind, List.filterMap_append, filterMap_readOf (hlook s), List.nil_append, asked_bind,
    List.filterMap_append, asked_submitRecv]
  rw [filterMap_readOf (R := fun _ _ => True), List.append_nil]
  refine meets_then (meets_read fun _ => trivial) (fun torn => ?_) _
  refine meets_ite (meets_bind (reset_meets trivial none nofun) fun _ _ _ => trivial) ?_
  exact meets_pure fun _ => trivial

namespace Depot

/-- The buffer that is lent does not change the look at the verdict. -/
theorem exec_checkVerdict_lending (i : Iteration) (extra : Nat) (w : Depot) :
    (exec checkVerdict w.usb (w.lending i extra).top).2.1 = (w.submitting i).usb := by
  have hlook := checkVerdict_meets (P := Query.Aside) trivial trivial
  refine ((hlook w.usb).run_congr fun n q hq => ?_).2
  cases q with
  | buffer => exact hq.elim
  | _ => rfl

/-- The read has the capacity of the buffer that was taken for it. -/
theorem reads_lending (i : Iteration) (extra : Nat) (w : Depot) :
    w.reads (w.lending i extra) =
      if (w.submitting i).usb.reading.isSome then []
      else [((w.submitting i).usb, ((w.submitting i).recvBuffer extra).capacity)] := by
  -- the answers that are left after the look at the verdict lend the same buffer
  obtain ⟨k, hleft⟩ := exec_answers w.usb (w.lending i extra).top checkVerdict
  rw [reads_usb, FastbootUsbState.reads_eq, exec_checkVerdict_lending, hleft]
  have hcap : (if (w.submitting i).usb.recvCapacity ≥ recvBufferSize
      then ((w.submitting i).recvBuffer extra).capacity else (w.submitting i).usb.recvCapacity) =
      ((w.submitting i).recvBuffer extra).capacity := by
    unfold recvBuffer
    split
    · rfl
    · rfl
  rw [← hcap]
  rfl

end Depot

/-! ## Legal lengths -/

/-- A read that the endpoint and the download allow. -/
structure LegalRead (s : FastbootUsbState) (capacity : Nat) : Prop where
  positive : 0 < capacity
  packets : s.rxMaxPacketSize ∣ capacity
  limit : capacity ≤ recvBufferSize
  idle : s.downloadActive = false → capacity = recvBufferSize
  rest : s.downloadActive = true → min s.remainingDownloadBytes recvBufferSize ≤ capacity

instance (s : FastbootUsbState) (capacity : Nat) : Decidable (LegalRead s capacity) :=
  decidable_of_iff
    (0 < capacity ∧ s.rxMaxPacketSize ∣ capacity ∧ capacity ≤ recvBufferSize ∧
      (s.downloadActive = false → capacity = recvBufferSize) ∧
      (s.downloadActive = true → min s.remainingDownloadBytes recvBufferSize ≤ capacity))
    ⟨fun ⟨h₁, h₂, h₃, h₄, h₅⟩ => ⟨h₁, h₂, h₃, h₄, h₅⟩, fun h => ⟨h.1, h.2, h.3, h.4, h.5⟩⟩

section Capacity

variable {s : FastbootUsbState} {capacity : Nat}

theorem remainingDownloadBytes_pos (hactive : s.downloadActive = true) :
    0 < s.remainingDownloadBytes :=
  Nat.sub_pos_of_lt ((downloadActive_iff s).1 hactive)

/-- During a download the capacity is the rest of it, rounded up to packets. -/
theorem recvCapacity_bounds (hactive : s.downloadActive = true) (hpos : 0 < s.rxMaxPacketSize) :
    min s.remainingDownloadBytes recvBufferSize ≤ s.recvCapacity ∧
      s.recvCapacity < min s.remainingDownloadBytes recvBufferSize + s.rxMaxPacketSize ∧
      s.rxMaxPacketSize ∣ s.recvCapacity := by
  have hrest := remainingDownloadBytes_pos hactive
  have hcap : s.recvCapacity =
      (min s.remainingDownloadBytes recvBufferSize + s.rxMaxPacketSize - 1) / s.rxMaxPacketSize *
        s.rxMaxPacketSize := by
    simp [FastbootUsbState.recvCapacity, hactive, Nat.max_eq_left hrest, Nat.max_eq_left hpos]
  rw [hcap]
  generalize min s.remainingDownloadBytes recvBufferSize = r
  have hlt := Nat.lt_div_mul_add (a := r + s.rxMaxPacketSize - 1) hpos
  have hle := Nat.div_mul_le_self (r + s.rxMaxPacketSize - 1) s.rxMaxPacketSize
  exact ⟨by omega, by omega, Nat.dvd_mul_left _ _⟩

theorem rxMaxPacketSize_pos (hmps : s.rxMaxPacketSize ∣ recvBufferSize) : 0 < s.rxMaxPacketSize :=
  Nat.pos_of_dvd_of_pos hmps (by decide)

/-- A new buffer for the end of a download is legal. -/
theorem legalRead_recvCapacity (hmps : s.rxMaxPacketSize ∣ recvBufferSize)
    (hshort : s.recvCapacity < recvBufferSize) : LegalRead s s.recvCapacity := by
  have hactive : s.downloadActive = true := by
    by_contra h
    have : s.recvCapacity = recvBufferSize := by
      simp [FastbootUsbState.recvCapacity, Bool.eq_false_iff.2 h]
    omega
  obtain ⟨hle, -, hdvd⟩ := recvCapacity_bounds hactive (rxMaxPacketSize_pos hmps)
  have hrest : 0 < min s.remainingDownloadBytes recvBufferSize :=
    Nat.lt_min.2 ⟨remainingDownloadBytes_pos hactive, by decide⟩
  exact {
    positive := Nat.lt_of_lt_of_le hrest hle
    packets := hdvd
    limit := Nat.le_of_lt hshort
    idle := fun h => by rw [hactive] at h; cases h
    rest := fun _ => hle }

/-- Where a full-size read is due, no other is legal. -/
theorem legalRead_full_iff (hmps : s.rxMaxPacketSize ∣ recvBufferSize)
    (hfull : recvBufferSize ≤ s.recvCapacity) :
    LegalRead s capacity ↔ capacity = recvBufferSize := by
  constructor
  · intro h
    cases hactive : s.downloadActive with
    | false => exact h.idle hactive
    | true =>
        -- what is missing is less than a packet, and a multiple of one
        obtain ⟨-, hlt, -⟩ := recvCapacity_bounds hactive (rxMaxPacketSize_pos hmps)
        have hrest := h.rest hactive
        have hlimit := h.limit
        have hdvd := Nat.dvd_sub hmps h.packets
        have hzero := Nat.eq_zero_of_dvd_of_lt hdvd (by omega)
        omega
  · rintro rfl
    exact ⟨by decide, hmps, Nat.le_refl _, fun _ => rfl, fun _ => Nat.min_le_right _ _⟩

end Capacity

/-! ## Buffers that come back -/

/-- The buffer has the capacity once it is lent: it has it already, or it has less room than it
lacks, and as much room as the allocator leaves too much. -/
def Regains (capacity extra : Nat) (buf : BytesMut UInt8) : Prop :=
  buf.capacity = capacity ∨
    (buf.capacity < capacity ∧ buf.capacity - buf.len < capacity - buf.capacity ∧
      buf.len + extra = buf.capacity)

theorem capacity_lentBuffer (capacity extra : Nat) (recycled : Option (BytesMut UInt8)) :
    (lentBuffer capacity extra recycled).capacity = capacity ↔
      ∀ buf, recycled = some buf → Regains capacity extra buf := by
  cases recycled with
  | none =>
      constructor
      · intro _ buf h
        cases h
      · intro _
        simp [lentBuffer]
  | some buf =>
      simp only [lentBuffer, Option.getD_some, BytesMut.capacity_clear, Option.some.injEq,
        forall_eq', Regains]
      split
      · rename_i hlt
        -- the reserve looks at the room behind the contents, which are still there
        rcases Nat.lt_or_ge (buf.capacity - buf.len) (capacity - buf.capacity) with hroom | hroom
        · rw [BytesMut.capacity_reserve hroom]
          omega
        · rw [BytesMut.reserve_of_room hroom]
          omega
      · omega

namespace Depot

/-- Every read of the step is legal, provided the packet size divides that of the buffers. -/
def Legal (c : Bool × Depot) : Input → Prop
  | .iterate i extra =>
      c.1 = true → ∀ r ∈ c.2.reads (c.2.lending i extra),
        r.1.rxMaxPacketSize ∣ recvBufferSize → LegalRead r.1 r.2
  | _ => True

/-- A buffer that is lent for a full-size read regains that size. -/
def Regained (c : Bool × Depot) : Input → Prop
  | .iterate i extra =>
      let w := c.2.submitting i
      c.1 = true → w.usb.reading = none → w.usb.rxMaxPacketSize ∣ recvBufferSize →
        recvBufferSize ≤ w.usb.recvCapacity →
        ∀ buf, w.recycled = some buf → Regains recvBufferSize extra buf
  | _ => True

instance (c : Bool × Depot) (input : Input) : Decidable (Legal c input) :=
  match input with
  | .iterate i extra => inferInstanceAs (Decidable (c.1 = true →
      ∀ r ∈ c.2.reads (c.2.lending i extra),
        r.1.rxMaxPacketSize ∣ recvBufferSize → LegalRead r.1 r.2))
  | .connect _ => .isTrue trivial
  | .drain _ _ => .isTrue trivial

/-- The read of an iteration is legal if its buffer was new, or regained its size. -/
theorem legalRead_recvBuffer_iff {w : Depot} (hmps : w.usb.rxMaxPacketSize ∣ recvBufferSize)
    (extra : Nat) :
    LegalRead w.usb (w.recvBuffer extra).capacity ↔
      (recvBufferSize ≤ w.usb.recvCapacity →
        ∀ buf, w.recycled = some buf → Regains recvBufferSize extra buf) := by
  unfold recvBuffer
  split
  · rename_i hfull
    rw [legalRead_full_iff hmps hfull, capacity_lentBuffer]
    exact ⟨fun h _ => h, fun h => h hfull⟩
  · rename_i hshort
    have hlegal := legalRead_recvCapacity hmps (Nat.lt_of_not_le hshort)
    exact ⟨fun _ hfull => absurd hfull hshort, fun _ => hlegal⟩

theorem legal_iff_regained (c : Bool × Depot) (input : Input) :
    Legal c input ↔ Regained c input := by
  cases input with
  | connect o => exact Iff.rfl
  | drain n k => exact Iff.rfl
  | iterate i extra =>
      obtain ⟨serving, w⟩ := c
      unfold Legal Regained
      simp only [reads_lending]
      refine imp_congr_right fun _ => ?_
      cases hreading : (w.submitting i).usb.reading with
      | some n => simp
      | none =>
          simp only [Option.isSome_none, Bool.false_eq_true, if_false, List.mem_singleton,
            forall_eq, true_imp_iff]
          exact forall_congr' fun hmps => legalRead_recvBuffer_iff hmps extra

end Depot

/-- From the start, whatever the allocator does: the bulk reads are legal as long as every buffer
that is lent for a full-size read regains its size, and only then. -/
theorem reads_legal_iff (params : SwupdateParams) (serial : Bytes) (rxMaxPacketSizeDefault : Nat)
    (inputs : List Depot.Input) :
    Along Depot.step Depot.Legal (false, Depot.new params serial rxMaxPacketSizeDefault) inputs ↔
      Along Depot.step Depot.Regained
        (false, Depot.new params serial rxMaxPacketSizeDefault) inputs := by
  have h : Depot.Legal = Depot.Regained := by
    funext c input
    exact propext (Depot.legal_iff_regained c input)
  rw [h]

/-- An iteration in which the read brings the chunk, with an allocator that leaves nothing extra. -/
def Depot.Input.received (chunk : Bytes) : Depot.Input :=
  .iterate (Packet.iteration ⟨chunk, quiet, quiet⟩) 0

/-- A download of 100 bytes comes in one read of 512; its buffer has room for 412 more, and the next
read is 15972 bytes long. -/
theorem read_after_short_download_illegal :
    ¬ Along Depot.step Depot.Legal (false, Depot.new SwupdateParams.default [] 512)
      [.connect quiet, .received (bytes "download:00000064"), .received (List.replicate 100 0),
        .drain 0 0, .received []] := by
  decide +kernel

end SummitUsbgadget.FastbootUsb
