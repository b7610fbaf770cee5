import SummitUsbgadget.Swupdate.Async
import SummitUsbgadget.Fastboot.Proto

/-!
# The framing of fastboot over TCP

The session state of `session.rs` and the framing of `transport.rs`: a handshake, then packets, each
behind its length in eight bytes, most significant first. The stream is a query: it hands over at
most the bytes that were asked for, and no byte at its end.
-/

set_option autoImplicit false

namespace SummitUsbgadget.FastbootTcp

open SummitUsbgadget.Lib
open SummitUsbgadget.Swupdate
open SummitUsbgadget.Fastboot

/-- `RECV_BUFFER_SIZE`. -/
def recvBufferSize : Nat := 128 * 1024

/-- `MAX_COMMAND_LEN`. -/
def maxCommandLen : Nat := 4096

/-- `TcpFastbootSession`, with the counters of the `FastbootDownloadSource` of its data phase. The
replies in `sent` and the replaced sessions in `retired` are ghost fields. -/
structure TcpFastbootSession where
  params : SwupdateParams
  serial : Bytes
  sink : Session
  fastbootUsbSessionOpen : Bool
  fastbootPendingFlash : Bool
  remaining : Nat
  frameRemaining : Nat
  sent : List Sent
  retired : List Session

/-- What a session asks for. -/
inductive Query where
  | session (query : SessionQuery)
  /-- Up to so many bytes of the stream; an inactive peer is an error. -/
  | read (want : Nat)
  /-- The writing of all the bytes. -/
  | write (data : Bytes)
  /-- The closing of the connection, up to its timeout. -/
  | shutdown
  /-- The system information. -/
  | system
  deriving DecidableEq, Repr

@[reducible] def Query.Answer : Query → Type
  | .session q => q.Answer
  | .read _ => Except IoError Bytes
  | .write _ => Except IoError Unit
  | .shutdown => Except IoError Unit
  | .system => SystemInfo

abbrev Answers := Oracle Query Query.Answer

abbrev Async (α : Type) := Program TcpFastbootSession Query Query.Answer α

instance : HasSession TcpFastbootSession where
  session s := s.sink
  setSession d s := { s with sink := d }
  session_setSession _ _ := rfl
  setSession_setSession _ _ _ := rfl
  setSession_session _ := rfl

instance : AnswersSession Query Query.Answer where
  query q := .session q
  answer _ a := a

/-- Puts a query. -/
def ask (q : Query) : Async q.Answer := Program.ask q

/-! ## Writing -/

/-- `u64::to_be_bytes`. -/
def toBeBytes (n : Nat) : Bytes :=
  (List.range 8).map fun i => UInt8.ofNat (n / 256 ^ (7 - i))

/-- `u64::from_be_bytes`. -/
def fromBeBytes (data : Bytes) : Nat := data.foldl (fun n b => n * 256 + b.toNat) 0

/-- One packet as it goes over the stream. -/
def frame (data : Bytes) : Bytes := toBeBytes data.length ++ data

/-- `send_packet`, and `send_prebuilt` for a frame that is built already. -/
def sendPacket (data : Bytes) : Async (Except IoError Unit) := do
  let result : Except IoError Unit ← ask (.write (frame data))
  Program.update fun s => { s with sent := s.sent ++ [⟨data, result.isOk⟩] }
  pure result

/-! ## Reading -/

/-- One read; the stream never hands over more than was asked for. -/
def readInto (want : Nat) : Async (Except IoError Bytes) := do
  let result : Except IoError Bytes ← ask (.read want)
  pure (result.map (·.take want))

/-- Reads until there are `want` bytes behind `buf`; `none` at the end of the stream. Every read
brings a byte, so as many reads suffice as bytes are missing. -/
def fill (want : Nat) : Nat → Bytes → Async (Except IoError (Bytes × Bool))
  | 0, buf => pure (.ok (buf, true))
  | n + 1, buf =>
      if want ≤ buf.length then pure (.ok (buf, true))
      else
        Program.attempt (readInto (want - buf.length)) fun data =>
          if data = [] then pure (.ok (buf, false)) else fill want n (buf ++ data)

/-- `read_exact`. -/
def readExact (want : Nat) : Async (Except IoError Bytes) :=
  Program.attempt (fill want want []) fun (data, complete) =>
    if complete then pure (.ok data)
    else pure (.error (IoError.new .unexpectedEof "early eof"))

/-- Length of the next frame; `none` if the peer closed before its first byte. -/
def readHeader : Async (Except IoError (Option Nat)) :=
  Program.attempt (fill 8 8 []) fun (buf, complete) =>
    if complete then pure (.ok (some (fromBeBytes buf)))
    else if buf = [] then pure (.ok none)
    else pure (.error (IoError.new .unexpectedEof "truncated fastboot frame header"))

/-- One command packet; `none` on a clean disconnect. -/
def recvCommand : Async (Except IoError (Option Bytes)) :=
  Program.attempt readHeader fun
    | none => pure (.ok none)
    | some len =>
        if len > maxCommandLen then
          pure (.error (IoError.new .invalidData "fastboot command frame too large"))
        else Program.attempt (readExact len) fun data => pure (.ok (some data))

/-! ## The handshake -/

/-- Decimal digits after `n`. -/
def decimalDigits : Nat → Bytes → Option Nat
  | n, [] => some n
  | n, b :: rest =>
      if 0x30 ≤ b ∧ b ≤ 0x39 then decimalDigits (n * 10 + (b.toNat - 0x30)) rest else none

/-- `str::parse::<u32>` for the two bytes of a version, which takes a leading plus sign. -/
def parseVersion : Bytes → Option Nat
  | [] => none
  | 0x2b :: [] => none
  | 0x2b :: rest => decimalDigits 0 rest
  | data => decimalDigits 0 data

/-- Both peers name their version; a malformed or too old one is an error. -/
def handshake : Async (Except IoError Unit) :=
  Program.attempt (ask (.write (bytes "FB01"))) fun _ =>
    Program.attempt (readExact 4) fun buf =>
      if buf.take 2 ≠ bytes "FB" then
        pure (.error (IoError.new .invalidData "malformed fastboot handshake"))
      else
        match parseVersion (buf.drop 2) with
        | none => pure (.error (IoError.new .invalidData "malformed fastboot handshake version"))
        | some version =>
            if version < 1 then
              pure (.error (IoError.new .invalidData
                ("unsupported fastboot protocol version " ++ toString version)))
            else pure (.ok ())

end SummitUsbgadget.FastbootTcp
