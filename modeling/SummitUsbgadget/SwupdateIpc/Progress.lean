import SummitUsbgadget.SwupdateIpc.Proto

/-!
# Progress connections

The readers of the progress socket. The daemon writes frames of one size, and the socket hands them
over in whatever pieces they arrive. The async client waits for the rest of a frame; the blocking
client reads in non-blocking mode and returns to its caller when there is nothing to read, whatever
it has read of a frame by then.

A `Socket` is the client's end of a connection, with what happens before each of its next reads. The
deadline of a wait is the number of turns that its loop makes.
-/

set_option autoImplicit false

namespace SummitUsbgadget.SwupdateIpc

/-- The layouts of `ProgressMsg`, one of which the build selects. -/
inductive ProgressLayout where
  | packed
  | unpacked
  deriving DecidableEq, Repr

/-- `size_of::<ProgressMsg>()`. -/
def ProgressLayout.size : ProgressLayout → Nat
  | .packed => 2408
  | .unpacked => 2416

/-- `ProgressMsg::status`, of the bytes of a frame. The field is a little-endian number behind the
four bytes of the API version in both layouts. -/
def progressStatus (msg : Bytes) : Except Nat RecoveryStatus :=
  decodeRecoveryStatus (((msg.drop 4).take 4).foldr (fun b n => b.toNat + 256 * n) 0)

/-! ## Sockets -/

/-- What happens on a connection before a read. An interrupted read is repeated and does not
count. -/
inductive Arrival where
  | bytes (data : Bytes)
  /-- The daemon closes its end. -/
  | closed
  | failed (err : IoError) (h : err.kind ≠ .interrupted)

/-- The client's end of a connection: what was not read yet, whether the daemon has closed its end,
and what happens before each of the next reads. -/
structure Socket where
  unread : Bytes
  ended : Bool
  coming : List Arrival

/-- The bytes that arrive. -/
def Arrival.data : Arrival → Bytes
  | .bytes data => data
  | _ => []

/-- What was not read yet, arrived or not. -/
def Socket.left (s : Socket) : Bytes := s.unread ++ (s.coming.map Arrival.data).flatten

namespace Socket

/-- What there is to read is read, up to `want` bytes. -/
def take (want : Nat) (s : Socket) : Bytes × Socket :=
  (s.unread.take want, { s with unread := s.unread.drop want })

/-- The next thing happens. -/
def arrive (s : Socket) : Option IoError × Socket :=
  match s.coming with
  | [] => (none, s)
  | .bytes data :: rest => (none, { s with unread := s.unread ++ data, coming := rest })
  | .closed :: rest => (none, { s with ended := true, coming := rest })
  | .failed err _ :: rest => (some err, { s with coming := rest })

/-- `read` in non-blocking mode. -/
def readNb (want : Nat) (s : Socket) : Except IoError Bytes × Socket :=
  match s.arrive with
  | (some err, s) => (.error err, s)
  | (none, s) =>
      if s.unread = [] ∧ s.ended = false then (.error wouldBlockError, s)
      else (.ok (s.take want).1, (s.take want).2)

/-- `read` that waits for something to read; `none` if nothing ever comes. -/
def readWait (want : Nat) : Bytes → Bool → List Arrival → Option (Except IoError Bytes × Socket)
  | unread, ended, [] =>
      if unread = [] ∧ ended = false then none
      else some (.ok (take want ⟨unread, ended, []⟩).1, (take want ⟨unread, ended, []⟩).2)
  | unread, ended, next :: rest =>
      if unread = [] ∧ ended = false then
        match next with
        | .bytes data => readWait want data ended rest
        | .closed => readWait want unread true rest
        | .failed err _ => some (.error err, ⟨unread, ended, rest⟩)
      else
        some (.ok (take want ⟨unread, ended, next :: rest⟩).1,
          (take want ⟨unread, ended, next :: rest⟩).2)

/-- `read_exact` in non-blocking mode, of which an error discards what was read. Every read brings a
byte, so as many reads suffice as bytes are wanted. -/
def readExactNb (want : Nat) : Nat → Bytes → Socket → Except IoError Bytes × Socket
  | 0, buf, s => (.ok buf, s)
  | n + 1, buf, s =>
      if want ≤ buf.length then (.ok buf, s)
      else
        match s.readNb (want - buf.length) with
        | (.error err, s) => (.error err, s)
        | (.ok [], s) => (.error fillError, s)
        | (.ok (b :: data), s) => readExactNb want n (buf ++ b :: data) s

/-- `read_exact` that waits; `none` if the bytes never come. -/
def readExactWait (want : Nat) : Nat → Bytes → Socket → Option (Except IoError Bytes × Socket)
  | 0, buf, s => some (.ok buf, s)
  | n + 1, buf, s =>
      if want ≤ buf.length then some (.ok buf, s)
      else
        match readWait (want - buf.length) s.unread s.ended s.coming with
        | none => none
        | some (.error err, s) => some (.error err, s)
        | some (.ok [], s) => some (.error fillError, s)
        | some (.ok (b :: data), s) => readExactWait want n (buf ++ b :: data) s

end Socket

/-! ## The clients -/

/-- What a loop does with a frame: a verdict, or `none` if it goes on. -/
def frameVerdict (msg : Bytes) : Option (Except Error Unit) :=
  match progressStatus msg with
  | .ok .success => some (.ok ())
  | .ok .failure => some (.error .installFailed)
  | _ => none

namespace Blocking

/-- `ProgressConn::receive_nb`. -/
def receiveNb (size : Nat) (s : Socket) : Except Error (Option Bytes) × Socket :=
  match s.readExactNb size size [] with
  | (.ok msg, s) => (.ok (some msg), s)
  | (.error err, s) =>
      if err.kind = .wouldBlock ∨ err.kind = .interrupted then (.ok none, s)
      else if err.kind = .unexpectedEof then (.error .closed, s)
      else (.error (.io err), s)

/-- `await_progress_result_with`, with the frames that it hands to `on_progress`, for at most `n`
turns before the deadline. `more` is what the next calls of `progress_connect` return. -/
def awaitProgressResultWith (size : Nat) :
    Nat → Socket → List (Except Error Socket) → Except Error Unit × List Bytes
  | 0, _, _ => (.error .timeout, [])
  | n + 1, s, more =>
      match receiveNb size s with
      | (.ok (some msg), s) =>
          match frameVerdict msg with
          | some result => (result, [])
          | none =>
              ((awaitProgressResultWith size n s more).1,
                msg :: (awaitProgressResultWith size n s more).2)
      | (.ok none, s) => awaitProgressResultWith size n s more
      | (.error _, _) =>
          match more with
          | [] => (.error .progressConnectTimeout, [])
          | .error err :: _ => (.error err, [])
          | .ok s :: more => awaitProgressResultWith size n s more

/-- `AsyncOutcome`. -/
inductive AsyncOutcome where
  | success
  | failure
  deriving DecidableEq, Repr

/-- The loop of `consume_progress`, for at most `n` frames. -/
def consumeFrames (size : Nat) : Nat → Socket → Except Error (Option AsyncOutcome) × Socket
  | 0, s => (.ok none, s)
  | n + 1, s =>
      match receiveNb size s with
      | (.error err, s) => (.error err, s)
      | (.ok none, s) => (.ok none, s)
      | (.ok (some msg), s) =>
          match frameVerdict msg with
          | some (.ok ()) => (.ok (some .success), s)
          | some (.error _) => (.ok (some .failure), s)
          | none => consumeFrames size n s

/-- `consume_progress`; a frame has bytes, so there are no more frames than bytes. -/
def consumeProgress (size : Nat) (s : Socket) : Except Error (Option AsyncOutcome) × Socket :=
  consumeFrames size (s.left.length + 1) s

end Blocking

namespace AsyncIo

/-- `ProgressConn::receive`; `none` if it waits forever. -/
def receive (size : Nat) (s : Socket) : Option (Except Error Bytes × Socket) :=
  match s.readExactWait size size [] with
  | none => none
  | some (.ok msg, s) => some (.ok msg, s)
  | some (.error err, s) =>
      if err.kind = .unexpectedEof then some (.error .closed, s) else some (.error (.io err), s)

/-- `await_progress_result_with`, as for the blocking client. -/
def awaitProgressResultWith (size : Nat) :
    Nat → Socket → List (Except Error Socket) → Except Error Unit × List Bytes
  | 0, _, _ => (.error .timeout, [])
  | n + 1, s, more =>
      match receive size s with
      | none => (.error .timeout, [])
      | some (.ok msg, s) =>
          match frameVerdict msg with
          | some result => (result, [])
          | none =>
              ((awaitProgressResultWith size n s more).1,
                msg :: (awaitProgressResultWith size n s more).2)
      | some (.error _, _) =>
          match more with
          | [] => (.error .progressConnectTimeout, [])
          | .error err :: _ => (.error err, [])
          | .ok s :: more => awaitProgressResultWith size n s more

end AsyncIo

end SummitUsbgadget.SwupdateIpc
