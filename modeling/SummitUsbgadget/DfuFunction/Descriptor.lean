import SummitUsbgadget.DfuFunction.Upload
import SummitUsbgadget.FunctionFs.Layout

/-!
# What the DFU function says of itself

The functional descriptor tells a host whether there is something to upload and how large the blocks
are. It is made from the configuration once, and so is the handler; the handler keeps what it was
made from (`Configured`). A host that takes the size of a block from the descriptor, as FunctionFS
got it, therefore reads the whole source, whenever no download is under way.
-/

set_option autoImplicit false

namespace SummitUsbgadget.DfuFunction

open SummitUsbgadget.Lib
open SummitUsbgadget.Lib.Reader
open SummitUsbgadget.FunctionFs

/-- `DfuConfig::descriptor`. -/
def DfuConfig.descriptor (config : DfuConfig) : DfuDesc where
  canDownload := true
  canUpload := config.upload.isSome
  manifestTolerant := true
  willDetach := false
  detachTimeoutMs := 1000
  transferSize := config.transferSize
  dfuVersion := (1, 1)

/-- The function that `build` describes; its class is `Class::DFU_MODE`. -/
def dfuBuilder (config : DfuConfig) : CustomBuilder :=
  CustomBuilder.new.withInterface
    ((Interface.new ⟨0xfe, 0x01, 0x02⟩ "swupdate").withCustomDesc config.descriptor.toCustomDesc)

/-! ## The host -/

/-- The functional descriptor, as the DFU specification has it. -/
structure Functional where
  canDownload : Bool
  canUpload : Bool
  manifestTolerant : Bool
  willDetach : Bool
  detachTimeout : Nat
  transferSize : Nat
  dfuVersion : Nat
  deriving DecidableEq, Repr

def readFunctional : Reader Functional := do
  let attributes ← byte
  let detachTimeout ← le 2
  let transferSize ← le 2
  let dfuVersion ← le 2
  pure ⟨attributes &&& 1 ≠ 0, attributes &&& 2 ≠ 0, attributes &&& 4 ≠ 0, attributes &&& 8 ≠ 0,
    detachTimeout, transferSize, dfuVersion⟩

/-- The functional descriptor among others. -/
def findFunctional (descs : List RawDesc) : Option Functional :=
  (descs.find? fun d => d.descriptorType == 0x21).bind fun d => readAll readFunctional d.data

/-- The flags of a functional descriptor. -/
theorem attributes_bits (canDownload canUpload manifestTolerant willDetach : Bool) :
    let attrs := canDownload.toUInt8 ||| (canUpload.toUInt8 <<< 1) |||
      (manifestTolerant.toUInt8 <<< 2) |||
      (willDetach.toUInt8 <<< 3)
    decide (attrs &&& 1 ≠ 0) = canDownload ∧ decide (attrs &&& 2 ≠ 0) = canUpload ∧
      decide (attrs &&& 4 ≠ 0) = manifestTolerant ∧ decide (attrs &&& 8 ≠ 0) = willDetach := by
  revert canDownload canUpload manifestTolerant willDetach
  decide

/-- A functional descriptor is read as it was meant. -/
theorem readFunctional_of_desc (dfu : DfuDesc) :
    ∃ f, readAll readFunctional dfu.toCustomDesc.data = some f ∧ f.canDownload = dfu.canDownload ∧
      f.canUpload = dfu.canUpload ∧ f.manifestTolerant = dfu.manifestTolerant ∧
      f.willDetach = dfu.willDetach ∧ f.transferSize = dfu.transferSize.toNat := by
  obtain ⟨canDownload, canUpload, manifestTolerant, willDetach, timeout, size, version⟩ := dfu
  obtain ⟨h₁, h₂, h₃, h₄⟩ := attributes_bits canDownload canUpload manifestTolerant willDetach
  have hread : Reads readFunctional
      (DfuDesc.toCustomDesc ⟨canDownload, canUpload, manifestTolerant, willDetach, timeout, size,
        version⟩).data
      ⟨canDownload, canUpload, manifestTolerant, willDetach, timeout.toNat, size.toNat,
        (version.1.toUInt16 <<< 8 ||| version.2.toUInt16 <<< 4).toNat⟩ := by
    unfold DfuDesc.toCustomDesc
    simp only [List.append_assoc]
    refine reads_bind (reads_byte _) ?_
    refine reads_bind (reads_le timeout.toNat_lt) (reads_bind (reads_le size.toNat_lt) ?_)
    rw [h₁, h₂, h₃, h₄]
    exact reads_bind_pure (reads_le (UInt16.toNat_lt _))
  exact ⟨_, readAll_of_reads hread, rfl, rfl, rfl, rfl, rfl⟩

theorem findFunctional_layout (speed : Speed) (config : DfuConfig) (nameIdx : UInt8)
    (rest : List Desc) :
    findFunctional ((layout speed 0 0
      ((dfuBuilder config).interfaces.map fun intf => (intf, nameIdx)) ++ rest).map Desc.raw) =
        readAll readFunctional config.descriptor.toCustomDesc.data := rfl

/-! ## The handler keeps its configuration -/

/-- The handler has what the configuration says. -/
structure Configured (config : DfuConfig) (d : Dfu) : Prop where
  upload : d.upload = config.upload
  transferSize : d.transferSize = config.transferSize

namespace Configured

variable {config : DfuConfig} {d d' : Dfu}

theorem of_eq (h : Configured config d) (hu : d'.upload = d.upload)
    (ht : d'.transferSize = d.transferSize) :
    Configured config d' :=
  ⟨hu.trans h.upload, ht.trans h.transferSize⟩

theorem poll (h : Configured config d) (m : Moments) : Configured config (d.poll m).2 := by
  obtain ⟨hu, ht⟩ := Dfu.poll_config m d
  exact h.of_eq hu ht

theorem pushPending (h : Configured config d) (v : Swupdate.View) :
    Configured config (d.pushPending v).2 := by
  obtain ⟨sink, pending, hframe⟩ := Dfu.pushPending_frame v d
  rw [hframe]
  exact h.of_eq rfl rfl

theorem submitChunk (h : Configured config d) (v : Swupdate.View) (chunk : Bytes) :
    Configured config (d.submitChunk v chunk).2 := by
  cases hp : d.pending with
  | some held =>
      rw [Dfu.submitChunk_of_some v chunk (by rw [hp]; rfl)]
      exact h.of_eq rfl rfl
  | none =>
      rw [Dfu.submitChunk_of_none v chunk hp]
      have hheld : Configured config { d with pending := some chunk } := h.of_eq rfl rfl
      exact hheld.pushPending v

theorem acceptBlock (h : Configured config d) (v : Swupdate.View) (block : Bytes) :
    Configured config (d.acceptBlock v block).2 := by
  by_cases hlen : (d.downloadTail ++ block).length ≤ dfuSuffixLen
  · rw [Dfu.acceptBlock_of_short v hlen]
    exact h.of_eq rfl rfl
  · rw [Dfu.acceptBlock_of_long v (Nat.lt_of_not_le hlen)]
    apply submitChunk
    exact h.of_eq rfl rfl

theorem manifest (h : Configured config d) (m : Moments) : Configured config (d.manifest m).2 := by
  have hstart : Configured config
      { d with status := .ok, state := .manifest, downloadTail := [] } :=
    h.of_eq rfl rfl
  rcases Dfu.manifest_cases m d with ⟨-, he⟩ | ⟨-, he⟩
  · rw [he]
    exact hstart.pushPending m.submit
  · rw [he]
    exact hstart.submitChunk m.submit _

theorem uploadBlock (h : Configured config d) (req : CtrlReq) :
    Configured config (d.uploadBlock req).2 := by
  obtain ⟨state, he⟩ := Dfu.uploadBlock_frame req d
  rw [he]
  exact h.of_eq rfl rfl

/-- No event changes it. -/
theorem step (h : Configured config d) (i : Input) : Configured config (d.step i) := by
  obtain ⟨e, m⟩ := i
  have hto := Dfu.stepTo_step d ⟨e, m⟩
  generalize d.step ⟨e, m⟩ = d' at hto ⊢
  cases hto with
  | ignored => exact h
  | tornDown => exact h.of_eq rfl rfl
  | pollFailed => exact h.poll m
  | dispatched hp ho hd =>
      have h₁ := h.poll m
      cases hd with
      | finishing => exact h₁
      | stageClosed => exact h₁.of_eq rfl rfl
      | stageFailed => exact h₁
      | block => exact h₁.acceptBlock m.submit _
      | detach => exact h₁.of_eq rfl rfl
      | manifest => exact h₁.manifest m
      | clrAbort => exact h₁.of_eq rfl rfl
      | clrStatus => exact h₁.of_eq rfl rfl
      | abort => exact h₁.of_eq rfl rfl
      | unsupportedOut => exact h₁.of_eq rfl rfl
      | getStatus => exact h₁.of_eq rfl rfl
      | getState => exact h₁
      | noUpload => exact h₁
      | upload => exact h₁.uploadBlock _
      | unsupportedIn => exact h₁.of_eq rfl rfl

end Configured

theorem configured_run (config : DfuConfig) (is : List Input) :
    Configured config (run Dfu.step (Dfu.new config) is) :=
  run_invariant_of_step (I := Configured config) (fun _ i h => h.step i) is ⟨rfl, rfl⟩

/-! ## Uploads -/

/-- Without a source no block is sent. -/
theorem setupIn_upload_of_none {d : Dfu} (hu : d.upload = none) (m : Moments) (num length : UInt16)
    (reply : InReply) : (d.setupIn m ⟨0xa1, Request.upload, num, 0, length⟩).1 ≠ .ok reply := by
  have hdfu : isDfuRequest ⟨0xa1, Request.upload, num, 0, length⟩ = true := by
    unfold isDfuRequest
    dsimp only
    decide
  have hpolled : (d.poll m).2.upload = none := (Dfu.poll_config m d).1.trans hu
  unfold Dfu.setupIn Dfu.handleIn
  rw [if_neg (by simp [hdfu])]
  generalize d.poll m = polled at hpolled ⊢
  obtain ⟨result, d'⟩ := polled
  cases result with
  | error err => exact nofun
  | ok _ =>
      dsimp only
      rw [if_neg (by decide), if_neg (by decide), if_pos rfl]
      unfold Dfu.uploadBlock
      rw [hpolled]
      exact nofun

/-- A host that reads the descriptor and asks for blocks of the size that it says gets the whole
source, whatever has happened before, unless a download is under way. Where the descriptor says that
there is no source, nothing is ever uploaded. -/
theorem dfu_upload_as_described {config : DfuConfig} {linux : Option (Nat × Nat)}
    {walk : StringTable → List (Language × List String)} {files : Files} {done : Initialized}
    (h : (dfuBuilder config).init linux walk files = .ok done) :
    ∃ raw f, done.written.head?.bind readDescs = some raw ∧
      (∀ speed, findFunctional (raw.descrs speed) = some f) ∧ f.canUpload = config.upload.isSome ∧
      ∀ is,
        (∀ data, config.upload = some (.data data) → 0 < config.transferSize.toNat →
          data.length < 65536 * config.transferSize.toNat →
          (run Dfu.step (Dfu.new config) is).pending = none →
          (run Dfu.step (Dfu.new config) is).sink.isOpen = false →
          (run Dfu.step (Dfu.new config) is).state ≠ .manifest →
          ∀ schedule, Reassembles data (UInt16.ofNat f.transferSize)
            (run Dfu.step (Dfu.new config) is)
            schedule) ∧
        (f.canUpload = false → ∀ m num length reply,
          ((run Dfu.step (Dfu.new config) is).setupIn m ⟨0xa1, Request.upload, num, 0, length⟩).1 ≠
            .ok reply) := by
  obtain ⟨descs, strings, descsData, strsData, hdescs, hdescsData, -, hwritten, -⟩ := init_eq_ok h
  obtain ⟨placed, count, s, hplaced, hb, -, -, hspeeds⟩ := ffsDescs_eq_ok hdescs
  obtain ⟨f, hf, -, hcanUpload, -, -, hsize⟩ := readFunctional_of_desc config.descriptor
  refine ⟨descs.raw linux, f, ?_, ?_, hcanUpload, ?_⟩
  · rw [hwritten]
    exact readDescs_of_toBytes hdescsData
  · intro speed
    obtain ⟨⟨intf, nameIdx⟩, rfl, hintf⟩ := List.map_eq_singleton_iff.1 hplaced
    dsimp only at hintf
    rw [descrs_raw, hspeeds, hb.descrs, ← hf]
    subst hintf
    exact findFunctional_layout speed config nameIdx _
  · intro is
    have hconfigured := configured_run config is
    constructor
    · intro data hdata hpos hfits hpending hsink hstate schedule
      have hblock : UInt16.ofNat f.transferSize = config.transferSize := by
        rw [hsize]
        exact UInt16.ofNat_toNat
      have hserving : Serving data config.transferSize (run Dfu.step (Dfu.new config) is) :=
        ⟨hconfigured.upload.trans hdata, hconfigured.transferSize, hpending, hsink, hstate⟩
      rw [hblock]
      exact reassembles_of_whole schedule hpos hserving hfits
    · intro hno m num length reply
      apply setupIn_upload_of_none
      rw [hconfigured.upload]
      have hnone : config.upload.isSome = false := hcanUpload.symm.trans hno
      exact Option.not_isSome_iff_eq_none.1 (by rw [hnone]; decide)

/-- A device with three bytes to upload in blocks of two. -/
def small : DfuConfig := ⟨Swupdate.SwupdateParams.default, some (.data [1, 2, 3]), 2, 0⟩

theorem dfu_upload_as_described_small : ∃ f : Functional, f.canUpload = true ∧ ∀ schedule,
    Reassembles [1, 2, 3] (UInt16.ofNat f.transferSize) (Dfu.new small) schedule := by
  have hok : ((dfuBuilder small).init none
      (fun t => t.entries.map fun e => (e.1, e.2)) willing).isOk = true := by
    decide +kernel
  cases hinit : (dfuBuilder small).init none
    (fun t => t.entries.map fun e => (e.1, e.2)) willing with
  | error err =>
      rw [hinit] at hok
      cases hok
  | ok done =>
      obtain ⟨raw, f, -, -, hupload, hall⟩ := dfu_upload_as_described hinit
      exact ⟨f, hupload, (hall []).1 [1, 2, 3] rfl (by decide)
        (by decide) rfl rfl State.noConfusion⟩

end SummitUsbgadget.DfuFunction
