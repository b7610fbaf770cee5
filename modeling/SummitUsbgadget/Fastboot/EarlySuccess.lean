import SummitUsbgadget.FastbootUsb.Finish
import SummitUsbgadget.FastbootTcp.Stream

/-!
# An early success of SWUpdate

Both fastboot transports let a transfer run to its end when SWUpdate is done with it early, and
leave the verdict to the `flash` or `Close` that follows. That command is refused unless the session
counts as open, and a session counts as open as long as it has its sender or its status handle. A
block that finds the queue closed takes the sender, a verdict that was looked at takes the status
handle, and after both the finish of a successful update is answered `FAILclose`.
`early_success_honoured_iff` says for each transport when that happens.
-/

set_option autoImplicit false

namespace SummitUsbgadget.Fastboot

open SummitUsbgadget.Lib
open SummitUsbgadget.Lib.Program
open SummitUsbgadget.Swupdate

/-- A data phase of fastboot-usb that SWUpdate does not fail, the finishing command behind it, and
the iteration that joins the status task. -/
structure UsbTransfer where
  start : FastbootUsb.FastbootUsbState
  len : Nat
  packets : List FastbootUsb.Packet
  last : FastbootUsb.Packet
  command : FastbootUsb.Packet
  verdict : FastbootUsb.Iteration
  announced : FastbootUsb.Announced len start
  underway : start.download.Underway
  within : (FastbootUsb.payload packets).length < len
  complete : (FastbootUsb.payload (packets ++ [last])).length = len
  unfailing : ∀ p ∈ packets ++ [last], p.Unfailing
  finishing : Finishing start.fastbootPendingFlash command.chunk
  concludes : FastbootUsb.Concludes verdict

namespace UsbTransfer

/-- The state at the end of the data phase. -/
def acknowledged (x : UsbTransfer) : FastbootUsb.FastbootUsbState :=
  (FastbootUsb.receive x.start (x.packets ++ [x.last])).2

/-- The last reply to the finishing command. -/
def answer (x : UsbTransfer) : Option Bytes :=
  lastReply (FastbootUsb.answeredBy
    (FastbootUsb.iterate x.acknowledged x.command.iteration).2 x.verdict).sent

theorem acknowledged_traced (x : UsbTransfer) :
    ∃ d accepted, x.start.download.Traced d ∧ x.acknowledged =
      { x.start with reading := none, download := d, downloadedSize := x.len }.replied Reply.okay
        accepted := by
  obtain ⟨d, accepted, htraced, hst⟩ := FastbootUsb.receive_traced x.announced x.underway x.within
    x.complete x.unfailing
  refine ⟨d, accepted, htraced, ?_⟩
  rw [acknowledged, hst]

theorem answer_eq (x : UsbTransfer) :
    x.answer = some (if x.acknowledged.download.isOpen then Reply.okay else Reply.failClose) := by
  obtain ⟨d, accepted, htraced, hst⟩ := x.acknowledged_traced
  have hsize : x.start.downloadSize = x.len := x.announced.size
  refine FastbootUsb.finish_lastReply ?_ ?_ ?_ ?_ ?_ x.concludes
  · rw [hst]
    exact x.announced.notFinishing
  · rw [hst]
    exact x.announced.notTornDown
  · rw [hst, FastbootUsb.downloadActive_eq_false_iff]
    exact Nat.le_of_eq hsize
  · rw [hst]
    exact x.finishing
  · rw [hst]
    exact htraced.underway

end UsbTransfer

/-- A data phase of fastboot over TCP that SWUpdate does not fail and that was acknowledged, on a
session with its sender, and the finishing command behind it. -/
structure TcpTransfer where
  start : FastbootTcp.TcpFastbootSession
  total : Nat
  stream : FastbootTcp.Answers
  command : Bytes
  finish : FastbootTcp.Answers
  underway : start.sink.Underway
  sender : start.sink.tx.isSome
  favourable : stream.All FastbootTcp.Query.Favourable
  okay : (exec (FastbootTcp.streamDownload total) start stream).1 = .ok ()
  finishing : Finishing
    (exec (FastbootTcp.streamDownload total) start stream).2.1.fastbootPendingFlash command
  concludes : finish.All FastbootTcp.Query.Favourable

namespace TcpTransfer

/-- The state at the end of the data phase. -/
def acknowledged (y : TcpTransfer) : FastbootTcp.TcpFastbootSession :=
  (exec (FastbootTcp.streamDownload y.total) y.start y.stream).2.1

/-- The last reply to the finishing command. -/
def answer (y : TcpTransfer) : Option Bytes :=
  lastReply (exec (FastbootTcp.dispatch y.command) y.acknowledged y.finish).2.1.sent

theorem acknowledged_drained (y : TcpTransfer) :
    FastbootTcp.Drained y.start.sink y.acknowledged.sink :=
  FastbootTcp.exec_streamDownload y.total y.start y.favourable y.underway y.sender y.okay

theorem answer_eq (y : TcpTransfer) :
    y.answer = some (if y.acknowledged.sink.isOpen then Reply.okay else Reply.failClose) :=
  FastbootTcp.dispatch_lastReply y.acknowledged y.concludes y.acknowledged_drained.1.underway
    y.finishing

end TcpTransfer

theorem okay_iff (isOpen : Bool) :
    some (if isOpen then Reply.okay else Reply.failClose) = some Reply.okay ↔ isOpen = true := by
  cases isOpen with
  | true => simp
  | false =>
      have hne : Reply.failClose ≠ Reply.okay := by decide +kernel
      simp [hne]

/-- The finish of a successful update. Over USB it is answered `OKAY` unless a block was answered
with `Feed::Closed` and the verdict was looked at as well; over TCP, where the pump waits for the
verdict as soon as a block is answered with `Feed::Closed`, unless that happened. -/
theorem early_success_honoured_iff (x : UsbTransfer) (y : TcpTransfer) :
    (x.answer = some Reply.okay ↔
        ¬ (Session.closedSince x.start.download x.acknowledged.download ∧
          x.acknowledged.download.terminal.isSome)) ∧
      (y.answer = some Reply.okay ↔
        ¬ Session.closedSince y.start.sink y.acknowledged.sink) := by
  constructor
  · obtain ⟨d, accepted, htraced, hst⟩ := x.acknowledged_traced
    rw [x.answer_eq, okay_iff, hst]
    exact htraced.isOpen_iff
  · rw [y.answer_eq, okay_iff]
    exact y.acknowledged_drained.isOpen_iff

/-! ## A backend that stops reading -/

/-- SWUpdate is still at work, or done with success; its queue is as given. -/
def working (queue : QueueView) (done : Bool) : View :=
  ⟨false, ⟨"MMC", "a"⟩, queue, if done then some (.done (.ok ())) else none⟩

theorem working_unfailing (queue : QueueView) (done : Bool) :
    ¬ (working queue done).reportsFailure := by
  cases done <;> simp [working, View.reportsFailure]

/-- The quiet surroundings of a fastboot-usb connection with another view of SWUpdate. -/
def usbAnswers (v : View) : FastbootUsb.Answers := fun n q =>
  match q with
  | .look => v
  | q => FastbootUsb.quiet n q

theorem usbAnswers_unfailing (queue : QueueView) (done : Bool) :
    (usbAnswers (working queue done)).All FastbootUsb.Query.Unfailing := by
  intro n q
  cases q with
  | look => exact working_unfailing queue done
  | _ => trivial

/-- The backend has closed its queue when the first byte arrives, and the verdict is there when the
second one does. -/
def stoppedEarlyUsb : UsbTransfer where
  start := { FastbootUsb.announcing 2 with fastbootPendingFlash := true }
  len := 2
  packets := [⟨[1], usbAnswers (working .closed false), usbAnswers (working .closed false)⟩]
  last := ⟨[2], usbAnswers (working .closed true), usbAnswers (working .closed true)⟩
  command := ⟨bytes "flash:update", FastbootUsb.quiet, FastbootUsb.quiet⟩
  verdict := ⟨FastbootUsb.quiet, FastbootUsb.quiet, FastbootUsb.quiet, .transfer⟩
  announced := ⟨⟨rfl, rfl, rfl⟩, rfl, rfl⟩
  underway := Or.inl ⟨rfl, rfl⟩
  within := by decide
  complete := by decide
  unfailing := by
    intro p hp
    rcases List.mem_cons.1 hp with rfl | hp
    · exact ⟨usbAnswers_unfailing _ _, usbAnswers_unfailing _ _⟩
    · obtain rfl := List.mem_singleton.1 hp
      exact ⟨usbAnswers_unfailing _ _, usbAnswers_unfailing _ _⟩
  finishing := ⟨12, Or.inr ⟨rfl, by decide +kernel⟩⟩
  concludes := ⟨rfl, fun _ q => by cases q <;> first | rfl | trivial, rfl⟩

/-- A peer that sends one frame of two bytes to a backend that has closed its queue. -/
def tcpAnswers : FastbootTcp.Answers := fun n q =>
  match q with
  | .session .look => working .closed false
  | .session .slot => false
  | .session .join => .done (.ok ())
  | .session .reap => ()
  | .read _ => .ok (if n = 0 then FastbootTcp.toBeBytes 2 else [1])
  | .write _ => .ok ()
  | .shutdown => .ok ()
  | .system => ⟨[], [], ⟨"MMC", "a"⟩⟩

theorem tcpAnswers_favourable : tcpAnswers.All FastbootTcp.Query.Favourable := by
  intro n q
  cases q with
  | session q =>
      cases q with
      | look => exact working_unfailing _ _
      | join => rfl
      | _ => trivial
  | write data => rfl
  | _ => trivial

def stoppedEarlyTcp : TcpTransfer where
  start := { FastbootTcp.TcpFastbootSession.new SwupdateParams.default [] with
    sink := (Session.new SwupdateParams.default FastbootTcp.recvBufferSize).spawn
      (working .room false)
    fastbootPendingFlash := true }
  total := 2
  stream := tcpAnswers
  command := bytes "flash:update"
  finish := tcpAnswers
  underway := Or.inl ⟨rfl, rfl⟩
  sender := rfl
  favourable := tcpAnswers_favourable
  okay := by decide +kernel
  finishing := ⟨12, Or.inr (by decide +kernel)⟩
  concludes := tcpAnswers_favourable

/-- The update succeeds and its finish is answered `FAILclose`, over USB and over TCP. -/
theorem early_success_refused :
    stoppedEarlyUsb.answer = some Reply.failClose ∧
      stoppedEarlyTcp.answer = some Reply.failClose := by
  constructor
  · decide +kernel
  · decide +kernel

end SummitUsbgadget.Fastboot
