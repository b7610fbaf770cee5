import Mathlib.Data.Nat.Find
import SummitUsbgadget.DfuFunction.Isolation

/-!
# Reading the upload source

A host asks for block after block and stops at a reply that is shorter than what it asked for. The
device computes where a block starts from its number and the configured transfer size, not from what
it has delivered. The blocks therefore add up to the source if the host asks for whole blocks and
the source ends before the block numbers, sixteen bits wide, start again (`upload_reassembles_iff`).
-/

set_option autoImplicit false

namespace SummitUsbgadget.DfuFunction

open SummitUsbgadget.Lib
open SummitUsbgadget.Swupdate

/-- A host that reads the upload source: the device, the number of the next block, what came so far,
and whether it has stopped. -/
structure Upload where
  device : Dfu
  num : UInt16
  received : Bytes
  stopped : Bool

/-- One request of `length` bytes, unless the host has stopped. It stops at a reply with fewer
bytes, and at a request that the device refuses. -/
def Upload.step (length : UInt16) (u : Upload) (m : Moments) : Upload :=
  if u.stopped then u
  else
    match u.device.setupIn m ⟨0xa1, Request.upload, u.num, 0, length⟩ with
    | (.ok reply, d) =>
        let data := reply.asSlice.take length.toNat
        ⟨d, u.num + 1, u.received ++ data, decide (data.length < length.toNat)⟩
    | (.error _, d) => { u with device := d, stopped := true }

/-- The host and the device after the first requests. -/
def uploading (length : UInt16) (d : Dfu) (schedule : Nat → Moments) : Nat → Upload :=
  states (Upload.step length) ⟨d, 0, [], false⟩ schedule

/-- The host stops with the whole source and leaves the device idle; after every full block the
device waits for the next request. -/
def Reassembles (data : Bytes) (length : UInt16) (d : Dfu) (schedule : Nat → Moments) : Prop :=
  (∃ n, (uploading length d schedule n).stopped = true ∧
      (uploading length d schedule n).received = data ∧
      (uploading length d schedule n).device.state = .dfuIdle) ∧
    ∀ n, 0 < n → (uploading length d schedule n).stopped = false →
      (uploading length d schedule n).device.state = .uploadIdle

/-- The device has `data` to upload, and no download is going on. -/
structure Serving (data : Bytes) (size : UInt16) (d : Dfu) : Prop where
  upload : d.upload = some (.data data)
  transferSize : d.transferSize = size
  pending : d.pending = none
  sink : d.sink.isOpen = false
  state : d.state ≠ .manifest

/-- Bytes from the start of a block to the end of the source. -/
def leftAt (data : Bytes) (size : UInt16) (i : Nat) : Nat :=
  data.length - i % 65536 * size.toNat

/-! ## One request -/

section Request

variable {data : Bytes} {size length : UInt16}

/-- The slice between two bounds that are cut to the length of the source. -/
theorem slice_eq (data : Bytes) (offset n : Nat) :
    (data.drop (min offset data.length)).take
      (min (min offset data.length + n) data.length - min offset data.length) =
      (data.drop offset).take n := by
  rcases Nat.le_total offset data.length with hle | hge
  · rw [Nat.min_eq_left hle, List.take_eq_take_iff, List.length_drop]
    omega
  · rw [Nat.min_eq_right hge, List.drop_length, List.drop_eq_nil_of_le hge, List.take_nil,
      List.take_nil]

/-- A block is what the source has at its place, and a short one ends the upload. -/
theorem setupIn_upload {d : Dfu} (h : Serving data size d) (m : Moments) (num : UInt16) :
    d.setupIn m ⟨0xa1, Request.upload, num, 0, length⟩ =
      (.ok (.data ((data.drop (num.toNat * size.toNat)).take size.toNat)),
        { d with state :=
          if data.length - num.toNat * size.toNat < size.toNat then .dfuIdle
            else .uploadIdle }) := by
  have hdfu : isDfuRequest ⟨0xa1, Request.upload, num, 0, length⟩ = true := by
    unfold isDfuRequest
    dsimp only
    decide
  have hlen : ((data.drop (num.toNat * size.toNat)).take size.toNat).length < size.toNat ↔
      data.length - num.toNat * size.toNat < size.toNat := by
    rw [List.length_take, List.length_drop]
    omega
  unfold Dfu.setupIn Dfu.handleIn
  rw [if_neg (by simp [hdfu]), Dfu.poll_of_still m h.pending h.sink h.state]
  dsimp only
  rw [if_neg (by decide), if_neg (by decide), if_pos rfl]
  unfold Dfu.uploadBlock
  rw [h.upload, h.transferSize]
  dsimp only
  rw [slice_eq]
  simp only [hlen]

/-- A request of at most a block, while the host has not stopped. -/
theorem step_of_serving (hle : length.toNat ≤ size.toNat) {u : Upload}
    (h : Serving data size u.device) (hs : u.stopped = false) (m : Moments) :
    u.step length m =
      ⟨{ u.device with state :=
          if data.length - u.num.toNat * size.toNat < size.toNat then .dfuIdle else .uploadIdle },
        u.num + 1, u.received ++ (data.drop (u.num.toNat * size.toNat)).take length.toNat,
        decide (data.length - u.num.toNat * size.toNat < length.toNat)⟩ := by
  unfold Upload.step
  rw [if_neg (by simp [hs]), setupIn_upload h]
  dsimp only [InReply.asSlice]
  rw [List.take_take, Nat.min_eq_left hle, List.length_take, List.length_drop]
  congr 2
  exact propext (by omega)

theorem step_of_stopped {u : Upload} (h : u.stopped = true) (m : Moments) : u.step length m = u :=
  if_pos h

end Request

/-! ## All requests -/

section Requests

variable {data : Bytes} {size length : UInt16} {d : Dfu} (schedule : Nat → Moments)

/-- After full replies only: the device still serves, the host has not stopped, and it has got as
much as it asked for. -/
structure Midway (data : Bytes) (size length : UInt16) (n : Nat) (u : Upload) : Prop where
  serving : Serving data size u.device
  num : u.num.toNat = n % 65536
  received : u.received.length = n * length.toNat
  stopped : u.stopped = false
  state : 0 < n → u.device.state =
    if leftAt data size (n - 1) < size.toNat then .dfuIdle else .uploadIdle

theorem midway_uploading (hle : length.toNat ≤ size.toNat) (h : Serving data size d) {n : Nat}
    (hfull : ∀ i < n, length.toNat ≤ leftAt data size i) :
    Midway data size length n (uploading length d schedule n) := by
  induction n with
  | zero => exact ⟨h, rfl, by simp [uploading, states], rfl, nofun⟩
  | succ n ih =>
      obtain ⟨hserving, hnum, hreceived, hstopped, -⟩ := ih fun i hi => hfull i (by omega)
      have hleft := hfull n (by omega)
      unfold leftAt at hleft
      rw [← hnum] at hleft
      change Midway data size length (n + 1)
        ((uploading length d schedule n).step length (schedule n))
      rw [step_of_serving hle hserving hstopped]
      refine ⟨⟨hserving.upload, hserving.transferSize, hserving.pending, hserving.sink, ?_⟩, ?_, ?_,
        ?_, ?_⟩
      · dsimp only
        split <;> decide
      · rw [UInt16.toNat_add, hnum]
        exact Nat.mod_add_mod n 65536 1
      · rw [List.length_append, List.length_take, List.length_drop, hreceived,
          Nat.min_eq_left hleft, Nat.succ_mul]
      · exact decide_eq_false (Nat.not_lt.2 hleft)
      · intro _
        unfold leftAt
        rw [Nat.add_sub_cancel, ← hnum]

/-- The host stops behind the first reply that is short, and not before. -/
theorem uploading_of_short (hle : length.toNat ≤ size.toNat) (h : Serving data size d) {k : Nat}
    (hfull : ∀ i < k, length.toNat ≤ leftAt data size i)
    (hshort : leftAt data size k < length.toNat) (n : Nat) :
    (uploading length d schedule (k + 1 + n)).stopped = true ∧
      (uploading length d schedule (k + 1 + n)).received =
        (uploading length d schedule k).received ++ data.drop (k % 65536 * size.toNat) ∧
      (uploading length d schedule (k + 1 + n)).device.state = .dfuIdle := by
  induction n with
  | zero =>
      obtain ⟨hserving, hnum, -, hstopped, -⟩ := midway_uploading schedule hle h hfull
      have hstep : uploading length d schedule (k + 1 + 0) = _ :=
        step_of_serving hle hserving hstopped (schedule k)
      unfold leftAt at hshort
      rw [← hnum] at hshort ⊢
      rw [hstep]
      refine ⟨decide_eq_true hshort, ?_, if_pos (by omega)⟩
      rw [List.take_of_length_le]
      rw [List.length_drop]
      omega
  | succ n ih =>
      have hstep : uploading length d schedule (k + 1 + (n + 1)) =
          uploading length d schedule (k + 1 + n) := step_of_stopped ih.1 _
      rw [hstep]
      exact ih

/-- A host that stops has met a first short reply. -/
theorem exists_short_of_stopped (hle : length.toNat ≤ size.toNat)
    (h : Serving data size d) {n : Nat}
    (hstopped : (uploading length d schedule n).stopped = true) :
    ∃ k < n, (∀ i < k, length.toNat ≤ leftAt data size i) ∧
      leftAt data size k < length.toNat := by
  by_cases hfull : ∀ i < n, length.toNat ≤ leftAt data size i
  · rw [(midway_uploading schedule hle h hfull).stopped] at hstopped
    cases hstopped
  · -- the least number whose reply is short
    have hexists : ∃ i, i < n ∧ leftAt data size i < length.toNat := by
      by_contra hnone
      exact hfull fun i hi => Nat.le_of_not_lt fun hlt => hnone ⟨i, hi, hlt⟩
    obtain ⟨hlt, hshort⟩ := Nat.find_spec hexists
    refine ⟨Nat.find hexists, hlt, fun i hi => ?_, hshort⟩
    exact Nat.le_of_not_lt fun hshort' => Nat.find_min hexists hi ⟨by omega, hshort'⟩

/-- Behind the first short reply every state is the last one. -/
theorem uploading_after (hle : length.toNat ≤ size.toNat) (h : Serving data size d) {k n : Nat}
    (hfull : ∀ i < k, length.toNat ≤ leftAt data size i)
    (hshort : leftAt data size k < length.toNat) (hn : k < n) :
    (uploading length d schedule n).stopped = true ∧
      (uploading length d schedule n).received =
        (uploading length d schedule k).received ++ data.drop (k % 65536 * size.toNat) ∧
      (uploading length d schedule n).device.state = .dfuIdle := by
  obtain ⟨j, rfl⟩ := Nat.exists_eq_add_of_lt hn
  rw [Nat.add_right_comm]
  exact uploading_of_short schedule hle h hfull hshort j

/-- A place in the source within the block numbers. -/
theorem leftAt_of_lt {i : Nat} (hi : i < 65536) :
    leftAt data size i = data.length - i * size.toNat := by
  unfold leftAt
  rw [Nat.mod_eq_of_lt hi]

/-- Before the end of the source every block is whole. -/
theorem le_leftAt {i n : Nat} (hi : i < n) (hn : n * size.toNat ≤ data.length) (hwrap : n ≤ 65536) :
    size.toNat ≤ leftAt data size i := by
  have hmul := Nat.mul_le_mul_right size.toNat (Nat.succ_le_of_lt hi)
  rw [Nat.succ_mul] at hmul
  rw [leftAt_of_lt (by omega)]
  omega

/-- Whole blocks add up, as long as their numbers do. -/
theorem received_of_whole (h : Serving data size d) {n : Nat} (hn : n * size.toNat ≤ data.length)
    (hwrap : n ≤ 65536) :
    (uploading size d schedule n).received = data.take (n * size.toNat) := by
  induction n with
  | zero => simp [uploading, states]
  | succ n ih =>
      rw [Nat.succ_mul] at hn
      have hfull : ∀ i < n, size.toNat ≤ leftAt data size i :=
        fun i hi => le_leftAt hi (by omega) (by omega)
      obtain ⟨hserving, hnum, -, hstopped, -⟩ := midway_uploading schedule (Nat.le_refl _) h hfull
      have hstep : uploading size d schedule (n + 1) = _ :=
        step_of_serving (Nat.le_refl _) hserving hstopped (schedule n)
      rw [hstep]
      dsimp only
      rw [ih (by omega) (by omega), hnum, Nat.mod_eq_of_lt (by omega), Nat.succ_mul, List.take_add]

/-- What a host that has got the source tells about its requests. -/
theorem whole_of_reassembles (hle : length.toNat ≤ size.toNat) (h : Serving data size d)
    (hr : Reassembles data length d schedule) :
    data.length < length.toNat ∨ (length = size ∧ data.length < 65536 * size.toNat) := by
  obtain ⟨⟨n, hstopped, hreceived, -⟩, hstate⟩ := hr
  obtain ⟨k, hk, hfull, hshort⟩ := exists_short_of_stopped schedule hle h hstopped
  -- the numbers repeat, so the first short reply has one of the first numbers
  have hwrap : k < 65536 := by
    by_contra hge
    have hearlier := hfull (k % 65536) (by omega)
    unfold leftAt at hearlier hshort
    rw [Nat.mod_mod] at hearlier
    omega
  obtain ⟨-, hall, -⟩ := uploading_after schedule hle h hfull hshort hk
  have hmidway := midway_uploading schedule hle h hfull
  rw [leftAt_of_lt hwrap] at hshort
  rcases Nat.eq_zero_or_pos k with rfl | hpos
  · exact Or.inl (by omega)
  · have hidle := hstate k hpos hmidway.stopped
    rw [hmidway.state hpos] at hidle
    have hlast : ¬ leftAt data size (k - 1) < size.toNat := by
      intro hlt
      rw [if_pos hlt] at hidle
      cases hidle
    rw [leftAt_of_lt (by omega)] at hlast
    -- what came is as long as the source, so no block was cut
    have hsum : k * length.toNat + (data.length - k * size.toNat) = data.length := by
      have hlen := congrArg List.length (hall.symm.trans hreceived)
      rw [List.length_append, hmidway.received, List.length_drop, Nat.mod_eq_of_lt hwrap] at hlen
      exact hlen
    have hprev : k * size.toNat = (k - 1) * size.toNat + size.toNat := by
      rw [← Nat.succ_mul]
      congr 1
      omega
    have heq : length.toNat = size.toNat :=
      Nat.eq_of_mul_eq_mul_left hpos (by omega)
    have hbound := Nat.mul_le_mul_right size.toNat (Nat.succ_le_of_lt hwrap)
    rw [Nat.succ_mul] at hbound
    exact Or.inr ⟨UInt16.toNat_inj.1 heq, by omega⟩

/-- A source that is shorter than one request. -/
theorem reassembles_of_short (hle : length.toNat ≤ size.toNat) (h : Serving data size d)
    (hsmall : data.length < length.toNat) : Reassembles data length d schedule := by
  have hshort : leftAt data size 0 < length.toNat := by
    rw [leftAt_of_lt (by omega)]
    omega
  have hafter : ∀ n, 0 < n → _ := fun n hn =>
    uploading_after schedule hle h (fun i hi => absurd hi (Nat.not_lt_zero i)) hshort hn
  refine ⟨⟨1, (hafter 1 (by omega)).1, ?_, (hafter 1 (by omega)).2.2⟩, fun n hn hstopped => ?_⟩
  · rw [(hafter 1 (by omega)).2.1]
    simp [uploading, states]
  · rw [(hafter n hn).1] at hstopped
    cases hstopped

/-- Whole blocks, fewer than there are numbers. -/
theorem reassembles_of_whole (hpos : 0 < size.toNat) (h : Serving data size d)
    (hfits : data.length < 65536 * size.toNat) : Reassembles data size d schedule := by
  have hdiv := Nat.div_add_mod' data.length size.toNat
  have hmod := Nat.mod_lt data.length hpos
  have hwrap : data.length / size.toNat < 65536 := (Nat.div_lt_iff_lt_mul hpos).2 hfits
  generalize data.length / size.toNat = k at hdiv hwrap
  have hfull : ∀ i < k, size.toNat ≤ leftAt data size i :=
    fun i hi => le_leftAt hi (by omega) (by omega)
  have hshort : leftAt data size k < size.toNat := by
    rw [leftAt_of_lt hwrap]
    omega
  have hafter : ∀ n, k < n → _ :=
    fun n hn => uploading_after schedule (Nat.le_refl _) h hfull hshort hn
  obtain ⟨hstopped, hall, hidle⟩ := hafter (k + 1) (by omega)
  refine ⟨⟨k + 1, hstopped, ?_, hidle⟩, fun n hn hrunning => ?_⟩
  · rw [hall, received_of_whole schedule h (by omega) (by omega), Nat.mod_eq_of_lt hwrap,
      List.take_append_drop]
  · have hle : n ≤ k := by
      by_contra hlt
      rw [(hafter n (by omega)).1] at hrunning
      cases hrunning
    have hmidway := midway_uploading schedule (Nat.le_refl _) h
      fun i (hi : i < n) => hfull i (by omega)
    rw [hmidway.state hn, if_neg (Nat.not_lt.2 (hfull (n - 1) (by omega)))]

end Requests

/-- The host gets the source exactly if the source is shorter than what it asks for at a time, or it
asks for whole blocks and there are fewer of them than there are block numbers. -/
theorem upload_reassembles_iff {data : Bytes} {size length : UInt16} {d : Dfu}
    (h : Serving data size d) (hpos : 1 ≤ length) (hle : length ≤ size)
    (schedule : Nat → Moments) :
    Reassembles data length d schedule ↔
      data.length < length.toNat ∨ (length = size ∧ data.length < 65536 * size.toNat) := by
  have hpos' : 1 ≤ length.toNat := hpos
  refine ⟨whole_of_reassembles schedule hle h, ?_⟩
  rintro (hsmall | ⟨rfl, hfits⟩)
  · exact reassembles_of_short schedule hle h hsmall
  · exact reassembles_of_whole schedule hpos' h hfits

/-- A device that serves `data` in blocks of `size`. -/
def server (data : Bytes) (size : UInt16) : Dfu :=
  Dfu.new ⟨SwupdateParams.default, some (.data data), size, 0⟩

theorem serving_server (data : Bytes) (size : UInt16) : Serving data size (server data size) :=
  ⟨rfl, rfl, rfl, rfl, State.noConfusion⟩

/-- Nothing happens beside the requests. -/
def undisturbed : Moments := .always ⟨false, ⟨"MMC", "a"⟩, .room, none⟩

theorem upload_reassembles_iff_whole :
    Reassembles [1, 2, 3] 2 (server [1, 2, 3] 2) fun _ => undisturbed :=
  (upload_reassembles_iff (serving_server [1, 2, 3] 2) (by decide) (by decide) _).2
    (Or.inr ⟨rfl, by decide⟩)

/-- A host that asks for half blocks misses the other halves; one that asks for whole blocks of a
source with as many of them as there are block numbers starts again and does not stop. -/
theorem upload_not_reassembled :
    (Serving [1, 2, 3] 2 (server [1, 2, 3] 2) ∧
        (uploading 1 (server [1, 2, 3] 2) (fun _ => undisturbed) 3).stopped = true ∧
        (uploading 1 (server [1, 2, 3] 2) (fun _ => undisturbed) 3).received = [1, 3]) ∧
      ∀ n, (uploading 1 (server (List.replicate 65536 0) 1) (fun _ => undisturbed) n).stopped =
        false := by
  refine ⟨⟨serving_server _ _, by decide +kernel, by decide +kernel⟩, fun n => ?_⟩
  by_contra hstopped
  obtain ⟨k, -, -, hshort⟩ := exists_short_of_stopped (fun _ => undisturbed) (Nat.le_refl _)
    (serving_server (List.replicate 65536 0) 1) (Bool.of_not_eq_false hstopped)
  have hone : (1 : UInt16).toNat = 1 := rfl
  have hroom := Nat.mod_lt k (show 0 < 65536 by decide)
  unfold leftAt at hshort
  rw [List.length_replicate, hone] at hshort
  omega

end SummitUsbgadget.DfuFunction
