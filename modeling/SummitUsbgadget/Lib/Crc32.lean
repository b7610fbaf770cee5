import Mathlib.Logic.Function.Iterate

/-!
# CRC-32 (IEEE), incrementally

The reflected CRC-32 with polynomial `0xedb88320`, one byte at a time through the table that the
polynomial generates. `update` takes and returns finished values, so a computation can stop after
any byte and go on from the value it has (`update_append`).
-/

set_option autoImplicit false

namespace SummitUsbgadget.Lib.Crc32

def poly : UInt32 := 0xedb88320

/-- One bit of the table's generator. -/
def shift (c : UInt32) : UInt32 :=
  if c &&& 1 = 1 then (c >>> 1) ^^^ poly else c >>> 1

/-- The table's word for a byte. -/
def tableEntry (i : UInt8) : UInt32 := shift^[8] i.toUInt32

/-- One byte of the remainder. -/
def byteStep (crc : UInt32) (byte : UInt8) : UInt32 :=
  tableEntry (crc.toUInt8 ^^^ byte) ^^^ (crc >>> 8)

/-- The CRC of a text whose beginning has the CRC `prev` and whose rest is `buf`. -/
def update (prev : UInt32) (buf : List UInt8) : UInt32 := ~~~ buf.foldl byteStep (~~~ prev)

theorem update_nil (prev : UInt32) : update prev [] = prev := by simp [update]

/-- Two updates are one update with the texts joined. -/
theorem update_append (prev : UInt32) (a b : List UInt8) :
    update prev (a ++ b) = update (update prev a) b := by
  simp [update]

/-- An incremental computation: bytes seen and the value so far. -/
structure Hasher where
  amount : Nat
  state : UInt32
  deriving DecidableEq, Repr

namespace Hasher

def new : Hasher := ⟨0, 0⟩

def update (h : Hasher) (buf : List UInt8) : Hasher :=
  ⟨h.amount + buf.length, Crc32.update h.state buf⟩

def finalize (h : Hasher) : UInt32 := h.state

theorem update_nil (h : Hasher) : h.update [] = h := by
  simp [update, Crc32.update_nil]

theorem update_update (h : Hasher) (a b : List UInt8) :
    (h.update a).update b = h.update (a ++ b) := by
  simp [update, Crc32.update_append, Nat.add_assoc]

end Hasher

/-- The CRC of a whole text. -/
def hash (buf : List UInt8) : UInt32 := (Hasher.new.update buf).finalize

theorem finalize_update_new (a b : List UInt8) :
    ((Hasher.new.update a).update b).finalize = hash (a ++ b) := by
  rw [Hasher.update_update, hash]

example : tableEntry 1 = 0x77073096 ∧ tableEntry 255 = 0x2d02ef8d := by decide

/-- The CRC of `hello world`, in two pieces. -/
example : update (update 0 [104, 101, 108, 108, 111]) [32, 119, 111, 114, 108, 100] =
    0x0d4a1185 := by decide +kernel

end SummitUsbgadget.Lib.Crc32
