import Mathlib.Algebra.Group.Nat.Defs
import Mathlib.Tactic.Common

/-!
# Bytes and I/O errors

Values shared by every transport: firmware bytes and the part of `std::io::Error` that the
program looks at. `functionfs.rs` classifies errors by kind and by OS error number; SWUpdate
verdicts are cached by their text.
-/

set_option autoImplicit false

namespace SummitUsbgadget

/-- Bytes of a block, a reply or a command. -/
abbrev Bytes := List UInt8

/-- The `io::ErrorKind` values that the program builds or compares. -/
inductive ErrorKind where
  | notConnected
  | brokenPipe
  | interrupted
  | wouldBlock
  | timedOut
  | unexpectedEof
  | invalidInput
  | invalidData
  | notFound
  | other
  deriving DecidableEq, Repr

/-- An `io::Error`: its kind, its OS error number when it has one, and its display text. -/
structure IoError where
  kind : ErrorKind
  rawOsError : Option Nat
  text : String
  deriving DecidableEq, Repr

/-- `io::Error::new`. -/
def IoError.new (kind : ErrorKind) (text : String) : IoError := ⟨kind, none, text⟩

/-- `io::Error::other`. -/
def IoError.other (text : String) : IoError := IoError.new .other text

/-- The error of a `read_exact` whose source ends before the buffer is full. -/
def fillError : IoError := IoError.new .unexpectedEof "failed to fill whole buffer"

/-- `Errno::AGAIN`. -/
def errnoAgain : Nat := 11

/-- `Errno::NODEV`. -/
def errnoNodev : Nat := 19

/-- `Errno::IDRM`. -/
def errnoIdrm : Nat := 43

/-- `Errno::SHUTDOWN`. -/
def errnoShutdown : Nat := 108

/-- The FunctionFS instance itself is gone. -/
def isTornDownTransportError (err : IoError) : Bool :=
  err.kind == .notConnected || err.kind == .brokenPipe || err.rawOsError == some errnoNodev

/-- The host superseded the control request with a newer `SETUP`. -/
def isSetupSupersededError (err : IoError) : Bool :=
  err.rawOsError == some errnoIdrm

/-- A blocking control transfer was interrupted by a signal. -/
def isSignalInterruptedError (err : IoError) : Bool :=
  err.kind == .interrupted

/-- The request was cancelled or interrupted, or the transport was torn down. -/
def isClosedTransportError (err : IoError) : Bool :=
  isTornDownTransportError err || isSetupSupersededError err || isSignalInterruptedError err ||
    err.rawOsError == some errnoShutdown

end SummitUsbgadget
