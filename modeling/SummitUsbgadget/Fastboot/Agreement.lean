import SummitUsbgadget.FastbootTcp.Requests
import SummitUsbgadget.FastbootUsb.Requests

/-!
# The two fastboot transports

The same requests over TCP and over USB. Both transports follow the device, request by request, so
they answer alike (`transports_alike`) if every command is one that the parser takes and SWUpdate
takes every block. They do not without these two conditions (`transports_differ`): a command that
the parser does not take is answered over TCP only, and a queue that SWUpdate has closed makes the
TCP session wait for the verdict, which is then gone when the finish asks for it.
-/

set_option autoImplicit false

namespace SummitUsbgadget.Fastboot

open SummitUsbgadget.Lib
open SummitUsbgadget.Swupdate
open SummitUsbgadget.FastbootTcp (TcpFastbootSession)
open SummitUsbgadget.FastbootUsb (FastbootUsbState)

/-- A request, and how it arrives over the two transports. -/
structure Turn where
  request : Request
  tcp : FastbootTcp.Delivery
  usb : FastbootUsb.Delivery

namespace Turn

def overTcp (c : Bool × TcpFastbootSession) (t : Turn) : Bool × TcpFastbootSession :=
  FastbootTcp.request c t.request t.tcp

def overUsb (c : Bool × FastbootUsbState) (t : Turn) : Bool × FastbootUsbState :=
  FastbootUsb.request c t.request t.usb

/-- The turn arrives at the device over both transports, with a command that is taken by the parser
as a whole. -/
structure Faithful (d : Device) (t : Turn) : Prop where
  parsed : ∃ command, parseCommand t.request.command = some (command, t.request.command.length)
  tcp : FastbootTcp.Arrives d t.request t.tcp
  usb : FastbootUsb.Arrives d t.request t.usb

end Turn

/-- Both transports go on, with the same replies and the same flags. -/
structure Alike (tcp : Bool × TcpFastbootSession) (usb : Bool × FastbootUsbState) : Prop where
  serving : tcp.1 = true ∧ usb.1 = true
  replies : tcp.2.sent.map Sent.data = usb.2.sent.map Sent.data
  fastbootUsbSessionOpen : tcp.2.fastbootUsbSessionOpen = usb.2.fastbootUsbSessionOpen
  fastbootPendingFlash : tcp.2.fastbootPendingFlash = usb.2.fastbootPendingFlash

/-- The device over the turns. -/
def Device.turn (d : Device) (t : Turn) : Device := d.step t.request

theorem overTcp_follows (params : SwupdateParams) (serial : Bytes) {turns : List Turn}
    (h : Along Device.turn Turn.Faithful (Device.new serial) turns) :
    (run Turn.overTcp (true, TcpFastbootSession.new params serial) turns).1 = true ∧
      FastbootTcp.Carries (run Device.turn (Device.new serial) turns)
        (run Turn.overTcp (true, TcpFastbootSession.new params serial) turns).2 := by
  refine run_simulation (R := fun d (c : Bool × TcpFastbootSession) =>
    c.1 = true ∧ FastbootTcp.Carries d c.2) ?_ ⟨rfl, FastbootTcp.carries_new params serial⟩ h
  rintro d ⟨serving, s⟩ t ⟨hserving, hs⟩ ht
  obtain ⟨command, hparse⟩ := ht.parsed
  dsimp only at hserving
  subst hserving
  exact FastbootTcp.request_carries hs ht.tcp hparse

theorem overUsb_follows (params : SwupdateParams) (serial : Bytes) (rxMaxPacketSizeDefault : Nat)
    {turns : List Turn} (h : Along Device.turn Turn.Faithful (Device.new serial) turns) :
    (run Turn.overUsb (true, FastbootUsbState.new params serial rxMaxPacketSizeDefault) turns).1 =
        true ∧
      FastbootUsb.Carries (run Device.turn (Device.new serial) turns)
        (run Turn.overUsb (true, FastbootUsbState.new params serial rxMaxPacketSizeDefault)
          turns).2 := by
  have hproper : (Device.new serial).Proper := nofun
  -- the device stays proper on the way, which a refused `Close` needs
  refine (run_simulation (R := fun d (c : Bool × FastbootUsbState) =>
    d.Proper ∧ c.1 = true ∧ FastbootUsb.Carries d c.2) ?_
    ⟨hproper, rfl, FastbootUsb.carries_new params serial rxMaxPacketSizeDefault⟩ h).2
  rintro d ⟨serving, s⟩ t ⟨hproper, hserving, hs⟩ ht
  obtain ⟨command, hparse⟩ := ht.parsed
  dsimp only at hserving
  subst hserving
  exact ⟨hproper.step t.request, FastbootUsb.request_carries hs hproper ht.usb hparse⟩

/-- The two transports answer alike. -/
theorem transports_alike (params : SwupdateParams) (serial : Bytes) (rxMaxPacketSizeDefault : Nat)
    (turns : List Turn) (h : Along Device.turn Turn.Faithful (Device.new serial) turns) :
    Alike (run Turn.overTcp (true, TcpFastbootSession.new params serial) turns)
      (run Turn.overUsb (true, FastbootUsbState.new params serial rxMaxPacketSizeDefault)
        turns) := by
  obtain ⟨htcp, hshowsTcp⟩ := overTcp_follows params serial h
  obtain ⟨husb, hshowsUsb⟩ := overUsb_follows params serial rxMaxPacketSizeDefault h
  constructor
  · exact ⟨htcp, husb⟩
  · rw [hshowsTcp.sent, hshowsUsb.sent]
  · rw [hshowsTcp.fastbootUsbSessionOpen, hshowsUsb.fastbootUsbSessionOpen]
  · rw [hshowsTcp.fastbootPendingFlash, hshowsUsb.fastbootPendingFlash]

/-! ## Concrete turns -/

/-- A command with a data phase, in surroundings where everything goes well. -/
def smooth (command : Bytes) (blocks : List Bytes) : Turn where
  request := ⟨command, false, .done (.ok ()), ⟨[], [], ⟨"MMC", "a"⟩⟩⟩
  tcp := ⟨blocks, fun _ => 0, FastbootTcp.accepted⟩
  usb := ⟨FastbootUsb.quiet, FastbootUsb.quiet,
    blocks.map fun block => ⟨block, FastbootUsb.quiet, FastbootUsb.quiet⟩,
    ⟨FastbootUsb.quiet, FastbootUsb.quiet, FastbootUsb.quiet, .transfer⟩⟩

theorem calm_smooth : Calm (.done (.ok ())) ⟨false, ⟨"MMC", "a"⟩, .room, none⟩ := ⟨nofun, nofun⟩

theorem smooth_tcp {d : Device} {command : Bytes} {blocks : List Bytes}
    (hlen : command.length ≤ FastbootTcp.maxCommandLen) (hblocks : ∀ b ∈ blocks, b ≠ [])
    (houtcome : d.transfer.getD (.done (.ok ())) = .done (.ok ()))
    (htotal : ∀ c consumed, parseCommand command = some (c, consumed) →
      blocks.flatten.length = d.dataLength (smooth command blocks).request c) :
    FastbootTcp.Arrives d (smooth command blocks).request (smooth command blocks).tcp := by
  refine ⟨hlen, hblocks, htotal, ?_⟩
  change FastbootTcp.Opening (d.transfer.getD (.done (.ok ()))) _ _
  rw [houtcome]
  exact ⟨⟨rfl, fun _ => rfl, rfl, ⟨fun _ => calm_smooth, fun _ => rfl, fun _ => rfl⟩,
    fun _ _ => rfl, fun _ => rfl⟩, rfl⟩

theorem smooth_usb {d : Device} {command : Bytes} {blocks : List Bytes}
    (hblocks : ∀ b ∈ blocks, b ≠ [])
    (houtcome : d.transfer.getD (.done (.ok ())) = .done (.ok ()))
    (htotal : ∀ c consumed, parseCommand command = some (c, consumed) →
      blocks.flatten.length = d.dataLength (smooth command blocks).request c) :
    FastbootUsb.Arrives d (smooth command blocks).request (smooth command blocks).usb := by
  have hpayload : FastbootUsb.payload (smooth command blocks).usb.packets = blocks.flatten := by
    simp [smooth, FastbootUsb.payload, Function.comp_def]
  have hsteady : ∀ p ∈ (smooth command blocks).usb.packets, p.Steady (.done (.ok ())) := by
    intro p hp
    obtain ⟨block, -, rfl⟩ := List.mem_map.1 hp
    exact ⟨⟨fun _ => calm_smooth, fun _ => rfl, fun _ => rfl⟩,
      fun _ => calm_smooth, fun _ => rfl, fun _ => rfl⟩
  have hne : ∀ p ∈ (smooth command blocks).usb.packets, p.chunk ≠ [] := by
    intro p hp
    obtain ⟨block, hblock, rfl⟩ := List.mem_map.1 hp
    exact hblocks block hblock
  refine ⟨⟨rfl, rfl, ?_⟩, ?_, ?_, ?_⟩
  · intro n q
    cases q with
    | reply data => rfl
    | _ => trivial
  · change ∀ p ∈ _, FastbootUsb.Packet.Steady (d.transfer.getD (.done (.ok ()))) p
    rw [houtcome]
    exact hsteady
  · intro c consumed hparse
    rw [← htotal c consumed hparse, ← hpayload]
    exact FastbootUsb.complete_of_ne_nil hne
  · change FastbootUsb.Awaited (d.transfer.getD (.done (.ok ()))) _
    rw [houtcome]
    refine ⟨rfl, ?_, rfl⟩
    intro n q
    cases q with
    | submit capacity => rfl
    | _ => trivial

theorem smooth_faithful {d : Device} {command : Bytes} {blocks : List Bytes} {c : ParsedCommand}
    (hparse : parseCommand command = some (c, command.length))
    (hlen : command.length ≤ FastbootTcp.maxCommandLen) (hblocks : ∀ b ∈ blocks, b ≠ [])
    (houtcome : d.transfer.getD (.done (.ok ())) = .done (.ok ()))
    (htotal : blocks.flatten.length = d.dataLength (smooth command blocks).request c) :
    Turn.Faithful d (smooth command blocks) := by
  have hall : ∀ c' consumed, parseCommand command = some (c', consumed) →
      blocks.flatten.length = d.dataLength (smooth command blocks).request c' := by
    intro c' consumed hparse'
    rw [hparse] at hparse'
    cases hparse'
    exact htotal
  exact ⟨⟨c, hparse⟩, smooth_tcp hlen hblocks houtcome hall, smooth_usb hblocks houtcome hall⟩

/-- An update: two bytes in two blocks, and the flash. -/
def update : List Turn :=
  [smooth (bytes "download:00000002") [[1], [2]], smooth (bytes "flash:update") []]

theorem transports_alike_update :
    Along Device.turn Turn.Faithful (Device.new []) update ∧
      Alike (run Turn.overTcp (true, TcpFastbootSession.new SwupdateParams.default []) update)
        (run Turn.overUsb (true, FastbootUsbState.new SwupdateParams.default [] 512) update) := by
  have hdownload : parseCommand (bytes "download:00000002") =
      some (.download 2 .plain, (bytes "download:00000002").length) := by decide +kernel
  have hflash : parseCommand (bytes "flash:update") =
      some (.flash, (bytes "flash:update").length) := by decide +kernel
  have hopen : ((Device.new []).turn (smooth (bytes "download:00000002") [[1], [2]])).transfer =
      some (.done (.ok ())) := by
    simp [Device.turn, Device.step, smooth, hdownload, Device.carryOut, Device.begun, Device.new,
      Device.reply]
  have h : Along Device.turn Turn.Faithful (Device.new []) update := by
    refine ⟨smooth_faithful hdownload (by decide +kernel) (by decide) rfl ?_,
      smooth_faithful hflash (by decide +kernel) (by decide) ?_ rfl, trivial⟩
    · simp [smooth, Device.dataLength, Device.begun, Device.new]
    · rw [hopen]
      rfl
  exact ⟨h, transports_alike SwupdateParams.default [] 512 update h⟩

/-- SWUpdate has closed its queue when the block comes, and succeeds. -/
def closedQueue : Turn :=
  let turn := smooth (bytes "download:00000001") [[1]]
  { turn with
    tcp := { turn.tcp with answers := fun n q =>
      match q with
      | .session .slot => false
      | q => FastbootTcp.accepted n q }
    usb := { turn.usb with packets := turn.usb.packets.map fun p => { p with step := fun n q =>
      match q with
      | .look => { FastbootUsb.quiet 0 .look with queue := .closed }
      | q => FastbootUsb.quiet n q } } }

/-- A command that the parser does not take, and a queue that is closed before the flash. -/
theorem transports_differ :
    (FastbootTcp.Arrives (Device.new []) (smooth (bytes "download:zz") []).request
          (smooth (bytes "download:zz") []).tcp ∧
        FastbootUsb.Arrives (Device.new []) (smooth (bytes "download:zz") []).request
          (smooth (bytes "download:zz") []).usb ∧
        ((smooth (bytes "download:zz") []).overTcp
          (true, TcpFastbootSession.new SwupdateParams.default [])).2.sent.map Sent.data =
            [Reply.failCmd] ∧
        ((smooth (bytes "download:zz") []).overUsb
          (true, FastbootUsbState.new SwupdateParams.default [] 512)).2.sent.map Sent.data = []) ∧
      (run Turn.overTcp (true, TcpFastbootSession.new SwupdateParams.default [])
          [closedQueue, smooth (bytes "flash:update") []]).2.sent.map Sent.data =
        [dataHeader 1, Reply.okay, Reply.infoWaitSwupdate, Reply.failClose] ∧
      (run Turn.overUsb (true, FastbootUsbState.new SwupdateParams.default [] 512)
          [closedQueue, smooth (bytes "flash:update") []]).2.sent.map Sent.data =
        [dataHeader 1, Reply.okay, Reply.infoWaitSwupdate, Reply.okay] := by
  have hnone : parseCommand (bytes "download:zz") = none := by decide +kernel
  have hall : ∀ c consumed, parseCommand (bytes "download:zz") = some (c, consumed) →
      ([] : List Bytes).flatten.length =
        (Device.new []).dataLength (smooth (bytes "download:zz") []).request c := by
    intro c consumed hparse
    rw [hnone] at hparse
    cases hparse
  refine ⟨⟨smooth_tcp (by decide +kernel) (by decide) rfl hall, smooth_usb (by decide) rfl hall,
    ?_, ?_⟩, ?_, ?_⟩
  · decide +kernel
  · decide +kernel
  · decide +kernel
  · decide +kernel

end SummitUsbgadget.Fastboot
