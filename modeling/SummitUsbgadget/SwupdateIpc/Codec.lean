import Mathlib.Data.List.TakeWhile
import SummitUsbgadget.Swupdate.Session
import SummitUsbgadget.SwupdateIpc.Proto

/-!
# What an install request says to its reader

`encode` ends a string where the string ends, a C peer where its first NUL is. The two agree on
strings without a NUL; `write_c_string` refuses a string only for its length, so a string with a NUL
in it is sent and arrives cut off.
-/

set_option autoImplicit false

namespace SummitUsbgadget.SwupdateIpc

open SummitUsbgadget.Lib
open SummitUsbgadget.Swupdate

/-- A fixed field as a C peer reads it. -/
def cString (field : Bytes) : Bytes := field.takeWhile (· ≠ 0)

/-- The five fields of a request, as a C peer sees them. -/
structure PeerRequest where
  softwareSet : Bytes
  runningMode : Bytes
  source : SourceType
  dryRun : RunType
  disableStoreSwu : Bool
  deriving DecidableEq, Repr

/-- What was asked for. -/
def InstallRequest.asked (r : InstallRequest) : PeerRequest :=
  ⟨utf8Bytes r.softwareSet, utf8Bytes r.runningMode, .from r.source, .from r.mode,
    r.disableStoreSwu⟩

/-- What is read. -/
def SwupdateRequest.read (raw : SwupdateRequest) : PeerRequest :=
  ⟨cString raw.softwareSet, cString raw.runningMode, raw.source, raw.dryRun, raw.disableStoreSwu⟩

/-- Bytes of the two string fields. -/
def fieldSize : Nat := 256

/-- No byte of the string ends it early. -/
def NulFree (text : String) : Prop := (0 : UInt8) ∉ utf8Bytes text

instance (text : String) : Decidable (NulFree text) :=
  inferInstanceAs (Decidable ((0 : UInt8) ∉ utf8Bytes text))

/-- The field can hold the string. -/
def Representable (text : String) : Prop := (utf8Bytes text).length < fieldSize ∧ NulFree text

/-- What an encoding owes to the request: it says what was asked, and it fails exactly if that
cannot be said. -/
structure Faithful (r : InstallRequest) : Prop where
  sent : ∀ m, r.encode = .ok m → m.hasType msgTypeReqInstall = true ∧
    ∃ raw, m.installRequest = some raw ∧ ∀ r', raw.read = r'.asked ↔ r' = r
  refused : (∃ err, r.encode = .error err) ↔
    ¬ (Representable r.softwareSet ∧ Representable r.runningMode)

/-! ## Fields -/

theorem SourceType.from_injective : Function.Injective SourceType.from := by
  intro a b h
  cases a <;> cases b <;> first | rfl | cases h

theorem RunType.from_injective : Function.Injective RunType.from := by
  intro a b h
  cases a <;> cases b <;> first | rfl | cases h

/-- Different requests ask for different things. -/
theorem InstallRequest.asked_injective : Function.Injective InstallRequest.asked := by
  rintro ⟨set, mode, source, run, disable⟩ ⟨set', mode', source', run', disable'⟩ h
  obtain ⟨hset, hmode, hsource, hrun, hdisable⟩ := PeerRequest.mk.inj h
  obtain rfl := utf8Bytes_injective hset
  obtain rfl := utf8Bytes_injective hmode
  obtain rfl := SourceType.from_injective hsource
  obtain rfl := RunType.from_injective hrun
  obtain rfl : disable = disable' := hdisable
  rfl

theorem nulFree_iff (text : String) :
    NulFree text ↔ (utf8Bytes text).takeWhile (· ≠ 0) = utf8Bytes text := by
  rw [List.takeWhile_eq_self_iff]
  constructor
  · intro h b hb
    have hne : b ≠ 0 := by
      rintro rfl
      exact h hb
    simpa using hne
  · intro h hmem
    simpa using h 0 hmem

theorem nulFree_append (s t : String) : NulFree (s ++ t) ↔ NulFree s ∧ NulFree t := by
  unfold NulFree
  rw [utf8Bytes_append, List.mem_append, not_or]

theorem nulFree_inactiveSide (side : Option String) : NulFree ("-" ++ inactiveSide side) := by
  unfold inactiveSide
  split <;> decide +kernel

/-- A string is refused for its length only, and read back up to its first NUL. -/
theorem writeCString_cases (value : String) :
    (fieldSize ≤ (utf8Bytes value).length ∧
        ∃ err, writeCString (List.replicate fieldSize 0) value = .error err) ∨
      ((utf8Bytes value).length < fieldSize ∧
        ∃ field, writeCString (List.replicate fieldSize 0) value = .ok field ∧
          cString field = (utf8Bytes value).takeWhile (· ≠ 0)) := by
  have hsize : (List.replicate fieldSize (0 : UInt8)).length = fieldSize := List.length_replicate
  unfold writeCString
  dsimp only
  rw [hsize]
  by_cases hlong : fieldSize ≤ (utf8Bytes value).length
  · exact Or.inl ⟨hlong, _, if_pos hlong⟩
  · refine Or.inr ⟨Nat.lt_of_not_le hlong, _, if_neg hlong, ?_⟩
    -- what stands behind the NUL is not looked at
    generalize (List.replicate fieldSize (0 : UInt8)).drop _ = rest
    change ((utf8Bytes value) ++ 0 :: rest).takeWhile (· ≠ 0) = _
    induction utf8Bytes value with
    | nil => rfl
    | cons b data ih =>
        rw [List.cons_append, List.takeWhile_cons, List.takeWhile_cons, ih]

/-- What `encode` does. -/
theorem encode_cases (r : InstallRequest) :
    ((fieldSize ≤ (utf8Bytes r.softwareSet).length ∨ fieldSize ≤ (utf8Bytes r.runningMode).length) ∧
        ∃ err, r.encode = .error err) ∨
      (((utf8Bytes r.softwareSet).length < fieldSize ∧
        (utf8Bytes r.runningMode).length < fieldSize) ∧
          ∃ raw, r.encode = .ok ⟨ipcMagic, msgTypeReqInstall, some raw⟩ ∧
          raw.read = { r.asked with
            softwareSet := (utf8Bytes r.softwareSet).takeWhile (· ≠ 0)
            runningMode := (utf8Bytes r.runningMode).takeWhile (· ≠ 0) }) := by
  unfold InstallRequest.encode SwupdateRequest.tryFrom
  dsimp only
  rcases writeCString_cases r.softwareSet with ⟨hset, err, he⟩ | ⟨hset, set, he, hreadSet⟩
  · have hfield : writeCString SwupdateRequest.prepare.softwareSet r.softwareSet = .error err := he
    rw [hfield]
    exact Or.inl ⟨Or.inl hset, err, rfl⟩
  · have hfield : writeCString SwupdateRequest.prepare.softwareSet r.softwareSet = .ok set := he
    rw [hfield]
    rcases writeCString_cases r.runningMode with ⟨hmode, err, he'⟩ | ⟨hmode, mode, he', hreadMode⟩
    · have hfield' : writeCString SwupdateRequest.prepare.runningMode r.runningMode = .error err :=
        he'
      rw [hfield']
      exact Or.inl ⟨Or.inr hmode, err, rfl⟩
    · have hfield' : writeCString SwupdateRequest.prepare.runningMode r.runningMode =
          .ok mode := he'
      rw [hfield']
      refine Or.inr ⟨⟨hset, hmode⟩, _, rfl, ?_⟩
      rw [← hreadSet, ← hreadMode]
      rfl

/-! ## Requests -/

/-- The read request is what was asked exactly if neither string has a NUL. -/
theorem read_eq_asked_iff (r : InstallRequest) :
    { r.asked with
      softwareSet := (utf8Bytes r.softwareSet).takeWhile (· ≠ 0)
      runningMode := (utf8Bytes r.runningMode).takeWhile (· ≠ 0) } = r.asked ↔
      NulFree r.softwareSet ∧ NulFree r.runningMode := by
  rw [nulFree_iff, nulFree_iff]
  constructor
  · intro h
    obtain ⟨hset, hmode, -⟩ := PeerRequest.mk.inj h
    exact ⟨hset, hmode⟩
  · rintro ⟨hset, hmode⟩
    rw [hset, hmode]
    rfl

theorem faithful_iff (r : InstallRequest) :
    Faithful r ↔ (NulFree r.softwareSet ∧ NulFree r.runningMode) ∨
      (fieldSize ≤ (utf8Bytes r.softwareSet).length ∨
        fieldSize ≤ (utf8Bytes r.runningMode).length) := by
  rcases encode_cases r with ⟨hlong, err, he⟩ | ⟨⟨hset, hmode⟩, raw, he, hread⟩
  · -- a string that is too long is refused, with or without a NUL
    refine ⟨fun _ => Or.inr hlong, fun _ => ⟨fun m hm => ?_, ?_⟩⟩
    · rw [he] at hm
      cases hm
    · refine ⟨fun _ hrep => ?_, fun _ => ⟨err, he⟩⟩
      rcases hlong with hlong | hlong
      · exact absurd hrep.1.1 (Nat.not_lt.2 hlong)
      · exact absurd hrep.2.1 (Nat.not_lt.2 hlong)
  · have hfits : ¬ (fieldSize ≤ (utf8Bytes r.softwareSet).length ∨
        fieldSize ≤ (utf8Bytes r.runningMode).length) := by omega
    constructor
    · intro h
      obtain ⟨-, raw', hraw, hback⟩ := h.sent _ he
      obtain rfl : raw = raw' := Option.some.inj hraw
      exact Or.inl ((read_eq_asked_iff r).1 (hread.symm.trans ((hback r).2 rfl)))
    · intro h
      have hnul := h.resolve_right hfits
      have hasked : raw.read = r.asked := hread.trans ((read_eq_asked_iff r).2 hnul)
      refine ⟨fun m hm => ?_, ?_⟩
      · rw [he] at hm
        obtain rfl := Except.ok.inj hm
        refine ⟨rfl, raw, rfl, fun r' => ⟨fun h' => ?_, fun h' => ?_⟩⟩
        · exact InstallRequest.asked_injective (h'.symm.trans hasked)
        · rw [h', hasked]
      · refine ⟨?_, fun hrep => absurd ⟨⟨hset, hnul.1⟩, hmode, hnul.2⟩ hrep⟩
        rintro ⟨err, herr⟩
        rw [he] at herr
        cases herr

/-- A request is encoded faithfully exactly if no string that fits its field has a NUL in it; and
the slot behind the image mode arrives exactly if the image mode has none. -/
theorem encode_faithful_iff (r : InstallRequest) :
    (Faithful r ↔ (NulFree r.softwareSet ∧ NulFree r.runningMode) ∨
        (fieldSize ≤ (utf8Bytes r.softwareSet).length ∨
          fieldSize ≤ (utf8Bytes r.runningMode).length)) ∧
      ∀ (params : SwupdateParams) (info : BootRootfsInfo) (m : IpcMessage) (raw : SwupdateRequest),
        EffectiveUpdateType.resolve params info = .slot r.runningMode → r.encode = .ok m →
        m.installRequest = some raw →
        (raw.read.runningMode = utf8Bytes (params.imageMode.getD "full") ++
            utf8Bytes ("-" ++ inactiveSide info.currentSideOption) ↔
          NulFree (params.imageMode.getD "full")) := by
  refine ⟨faithful_iff r, fun params info m raw hslot hm hraw => ?_⟩
  have hmode : r.runningMode =
      params.imageMode.getD "full" ++ ("-" ++ inactiveSide info.currentSideOption) := by
    unfold EffectiveUpdateType.resolve at hslot
    split at hslot
    · cases hslot
    · rw [← EffectiveUpdateType.slot.inj hslot, String.append_assoc]
  rcases encode_cases r with ⟨-, err, he⟩ | ⟨-, raw', he, hread⟩
  · rw [he] at hm
    cases hm
  · rw [he] at hm
    obtain rfl := Except.ok.inj hm
    obtain rfl : raw' = raw := Option.some.inj hraw
    rw [hread, ← utf8Bytes_append, ← hmode]
    change (utf8Bytes r.runningMode).takeWhile (· ≠ 0) = _ ↔ _
    rw [← nulFree_iff, hmode, nulFree_append]
    exact and_iff_left (nulFree_inactiveSide _)

/-- A configured image mode with a NUL in it. -/
def cutMode : SwupdateParams := { SwupdateParams.default with imageMode := some "full\x00" }

/-- The request for the slot `b` with that mode. -/
def cutRequest : InstallRequest := ⟨"stable", "full\x00-b", .local, .install, true⟩

/-- The request is sent, and its reader does not see the slot. -/
theorem slot_cut_off :
    EffectiveUpdateType.resolve cutMode ⟨"MMC", "a"⟩ = .slot cutRequest.runningMode ∧
      ∃ m raw, cutRequest.encode = .ok m ∧ m.installRequest = some raw ∧
        raw.read.runningMode = utf8Bytes "full" := by
  refine ⟨by decide +kernel, ?_⟩
  rcases encode_cases cutRequest with ⟨hlong, -⟩ | ⟨-, raw, he, hread⟩
  · exact absurd hlong (by decide +kernel)
  · refine ⟨_, raw, he, rfl, ?_⟩
    rw [hread]
    decide +kernel

end SummitUsbgadget.SwupdateIpc
