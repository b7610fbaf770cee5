import SummitUsbgadget.Lib.Text
import SummitUsbgadget.Swupdate.Session

/-!
# The fastboot command language

Reply tokens, the command parser and the replies to `getvar`, shared by both fastboot transports.
A command is parsed from the front of the bytes received so far; a `download` command consumes its
fixed-size header only and leaves what follows it alone.
-/

set_option autoImplicit false

namespace SummitUsbgadget.Fastboot

open SummitUsbgadget.Swupdate

/-- The bytes of a text. -/
def bytes (text : String) : Bytes := Lib.utf8Bytes text

namespace Reply

def okay : Bytes := bytes "OKAY"
def failBadsize : Bytes := bytes "FAILbad size"
def failClose : Bytes := bytes "FAILclose"
def failCmd : Bytes := bytes "FAILunknown command"
def failEpipe : Bytes := bytes "FAILwrite failed"
def failFlash : Bytes := bytes "FAILflash before download"
def failNotopen : Bytes := bytes "FAILnot open"
def failOpen : Bytes := bytes "FAILopen failed"
def failUnknownPart : Bytes := bytes "FAILpartition does not exist"
def infoWaitSwupdate : Bytes := bytes "INFOwaiting for SWUpdate"

end Reply

/-- A reply handed to the transport, and whether the transport took it. -/
structure Sent where
  data : Bytes
  accepted : Bool
  deriving DecidableEq, Repr

/-- The last reply that was handed to the transport. -/
def lastReply (sent : List Sent) : Option Bytes := sent.getLast?.map Sent.data

theorem lastReply_concat (sent : List Sent) (data : Bytes) (accepted : Bool) :
    lastReply (sent ++ [⟨data, accepted⟩]) = some data := by
  simp [lastReply]

/-- `download:` or `download:%`. -/
inductive DownloadKind where
  | plain
  | fastboot
  deriving DecidableEq, Repr

inductive FetchTarget where
  | sysinfo
  | sysinfoJson
  deriving DecidableEq, Repr

/-- A parsed command; the argument of `getvar` is kept as its UTF-8 bytes. -/
inductive ParsedCommand where
  | wOpen
  | getVar (arg : Bytes)
  | fetch (target : FetchTarget)
  | fetchUnknownPart
  | download (len : Nat) (kind : DownloadKind)
  | flash
  | close
  | unsupported
  deriving DecidableEq, Repr

def downloadSizeWidth : Nat := 8

/-- NUL, or ASCII whitespace. -/
def isPaddingByte (b : UInt8) : Bool := b == 0 || [0x20, 0x09, 0x0a, 0x0c, 0x0d].contains b

def isUtf8 (data : Bytes) : Bool := (String.fromUTF8? ⟨data.toArray⟩).isSome

/-- The value of a hexadecimal digit. -/
def hexDigit (b : UInt8) : Option Nat :=
  if 0x30 ≤ b ∧ b ≤ 0x39 then some (b.toNat - 0x30)
  else if 0x61 ≤ b ∧ b ≤ 0x66 then some (b.toNat - 0x61 + 10)
  else if 0x41 ≤ b ∧ b ≤ 0x46 then some (b.toNat - 0x41 + 10)
  else none

/-- Digits after `acc`. -/
def hexDigits : Nat → Bytes → Option Nat
  | acc, [] => some acc
  | acc, b :: rest =>
      match hexDigit b with
      | some d => hexDigits (acc * 16 + d) rest
      | none => none

/-- `usize::from_str_radix(_, 16)`, which takes a leading plus sign. -/
def fromStrRadix16 : Bytes → Option Nat
  | [] => none
  | 0x2b :: [] => none
  | 0x2b :: rest => hexDigits 0 rest
  | data => hexDigits 0 data

/-- Bytes up to the first padding byte. -/
def tokenLen (args : Bytes) : Nat := (args.findIdx? isPaddingByte).getD args.length

/-- The command named before the colon, with the number of argument bytes it consumes. -/
def parseNamed (name args : Bytes) : Option (ParsedCommand × Nat) :=
  if name = bytes "download" ∨ name = bytes "donwload" then
    let percent := name == bytes "download" && args.head? == some 0x25
    let sizeStart := if percent then 1 else 0
    let size := (args.drop sizeStart).take downloadSizeWidth
    if size.length < downloadSizeWidth then none
    else
      match fromStrRadix16 size with
      | none => none
      | some len =>
          some (.download len (if percent then .fastboot else .plain),
            sizeStart + downloadSizeWidth)
  else if name = bytes "WOpen" then some (.wOpen, tokenLen args)
  else if name = bytes "getvar" then
    let arg := args.take (tokenLen args)
    if isUtf8 arg && !arg.isEmpty then some (.getVar arg, tokenLen args)
    else some (.unsupported, tokenLen args)
  else if name = bytes "fetch" then
    let arg := args.take (tokenLen args)
    if isUtf8 arg then
      let target := arg.takeWhile (· != 0x3a)
      let command :=
        if target = bytes "sysinfo" then ParsedCommand.fetch .sysinfo
        else if target = bytes "sysinfo.json" then .fetch .sysinfoJson
        else .fetchUnknownPart
      some (command, tokenLen args)
    else none
  else if name = bytes "flash" then some (.flash, tokenLen args)
  else some (.unsupported, tokenLen args)

/-- Parses one command from the front of `data`, with the number of bytes to remove. -/
def parseCommand (data : Bytes) : Option (ParsedCommand × Nat) :=
  match data.findIdx? (fun b => !isPaddingByte b) with
  | none => none
  | some start =>
      let rest := data.drop start
      match rest.findIdx? (· == 0x3a) with
      | some colon =>
          match parseNamed (rest.take colon) (rest.drop (colon + 1)) with
          | none => none
          | some (command, argLen) => some (command, start + (colon + 1 + argLen))
      | none =>
          let len := tokenLen rest
          let command := if rest.take len = bytes "Close" then ParsedCommand.close else .unsupported
          some (command, start + len)

theorem hexDigit_lt {b : UInt8} {d : Nat} (h : hexDigit b = some d) : d < 16 := by
  unfold hexDigit at h
  split at h
  · next hb =>
      have h9 := UInt8.le_iff_toNat_le.1 hb.2
      rw [← Option.some.inj h]
      change b.toNat ≤ 0x39 at h9
      omega
  · split at h
    · next hb =>
        have hf := UInt8.le_iff_toNat_le.1 hb.2
        rw [← Option.some.inj h]
        change b.toNat ≤ 0x66 at hf
        omega
    · split at h
      · next hb =>
          have hF := UInt8.le_iff_toNat_le.1 hb.2
          rw [← Option.some.inj h]
          change b.toNat ≤ 0x46 at hF
          omega
      · cases h

theorem hexDigits_lt {data : Bytes} {acc n : Nat} (h : hexDigits acc data = some n) :
    n < (acc + 1) * 16 ^ data.length := by
  induction data generalizing acc with
  | nil =>
      rw [← Option.some.inj h]
      simp
  | cons b rest ih =>
      unfold hexDigits at h
      cases hd : hexDigit b with
      | none =>
          rw [hd] at h
          cases h
      | some d =>
          rw [hd] at h
          have hlt := hexDigit_lt hd
          calc n < (acc * 16 + d + 1) * 16 ^ rest.length := ih h
            _ ≤ ((acc + 1) * 16) * 16 ^ rest.length := Nat.mul_le_mul_right _ (by omega)
            _ = (acc + 1) * 16 ^ (b :: rest).length := by
              rw [List.length_cons, Nat.pow_succ, Nat.mul_assoc, Nat.mul_comm 16]

theorem fromStrRadix16_lt {data : Bytes} {n : Nat} (hlen : data.length ≤ downloadSizeWidth)
    (h : fromStrRadix16 data = some n) : n < 16 ^ downloadSizeWidth := by
  have hbound : ∀ digits : Bytes, digits.length ≤ downloadSizeWidth → hexDigits 0 digits = some n →
      n < 16 ^ downloadSizeWidth := by
    intro digits hdigits hn
    have hlt := hexDigits_lt hn
    have hpow := Nat.pow_le_pow_right (n := 16) (by omega) hdigits
    omega
  unfold fromStrRadix16 at h
  split at h
  · cases h
  · cases h
  · exact hbound _ (Nat.le_of_succ_le hlen) h
  · exact hbound _ hlen h

theorem parseNamed_download_lt {name args : Bytes} {len argLen : Nat} {kind : DownloadKind}
    (h : parseNamed name args = some (.download len kind, argLen)) :
    len < 16 ^ downloadSizeWidth := by
  unfold parseNamed at h
  by_cases hname : name = bytes "download" ∨ name = bytes "donwload"
  · rw [if_pos hname] at h
    dsimp only at h
    generalize (name == bytes "download" && args.head? == some 0x25) = percent at h
    generalize hsize : (args.drop (if percent then 1 else 0)).take downloadSizeWidth = size at h
    have hlen : size.length ≤ downloadSizeWidth := hsize ▸ List.length_take_le _ _
    by_cases hshort : size.length < downloadSizeWidth
    · rw [if_pos hshort] at h
      cases h
    · rw [if_neg hshort] at h
      cases hn : fromStrRadix16 size with
      | none =>
          rw [hn] at h
          cases h
      | some n =>
          rw [hn] at h
          obtain ⟨hcommand, -⟩ := Prod.mk.inj (Option.some.inj h)
          rw [← (ParsedCommand.download.inj hcommand).1]
          exact fromStrRadix16_lt hlen hn
  · -- no other name gives a download
    rw [if_neg hname] at h
    grind

/-- A data phase is announced with eight digits. -/
theorem parseCommand_download_lt {data : Bytes} {len consumed : Nat} {kind : DownloadKind}
    (h : parseCommand data = some (.download len kind, consumed)) :
    len < 16 ^ downloadSizeWidth := by
  unfold parseCommand at h
  split at h
  · cases h
  · dsimp only at h
    split at h
    · split at h
      · cases h
      · next hnamed =>
          cases h
          exact parseNamed_download_lt hnamed
    · grind

/-! ## Replies with data -/

/-- `{:08X}`. -/
def hex08 (n : Nat) : Bytes :=
  let digits := (Nat.toDigits 16 n).map fun c => UInt8.ofNat c.toUpper.toNat
  List.replicate (8 - digits.length) 0x30 ++ digits

/-- The `DATA%08X` header of a data phase. -/
def dataHeader (len : Nat) : Bytes := bytes "DATA" ++ hex08 len

/-- The download is to be followed by `flash` rather than `Close`. -/
def fastbootDownload (kind : DownloadKind) (fastbootUsbSessionOpen : Bool) : Bool :=
  match kind with
  | .fastboot => true
  | .plain => !fastbootUsbSessionOpen

/-- The command asks for the end of the transfer: `Close`, or `flash` with a pending flash. -/
def Finishing (pendingFlash : Bool) (cmd : Bytes) : Prop :=
  ∃ consumed, parseCommand cmd = some (.close, consumed) ∨
    pendingFlash = true ∧ parseCommand cmd = some (.flash, consumed)

/-- What the replies read of the system. -/
structure SystemInfo where
  model : Bytes
  json : Bytes
  boot : BootRootfsInfo

/-- The reply to `getvar`, if the variable is known. -/
def fastbootGetvarReply (arg serial : Bytes) (info : SystemInfo) : Option Bytes :=
  if arg = bytes "version" then some (bytes "OKAY0.4")
  else if arg = bytes "max-download-size" then some (bytes "OKAY400000000")
  else if arg = bytes "max-fetch-size" then some (bytes "OKAY00010000")
  else if arg = bytes "product" then some (bytes "OKAY" ++ info.model)
  else if arg = bytes "serialno" then some (bytes "OKAY" ++ serial)
  else if arg = bytes "is-userspace" then some (bytes "OKAYyes")
  else if arg = bytes "current-slot" then
    info.boot.currentSideOption.map fun side => bytes "OKAY" ++ bytes side
  else if arg = bytes "slot-num" then
    some (bytes (if info.boot.isSingleSlot then "OKAY1" else "OKAY2"))
  else if arg = bytes "all" then some (bytes "OKAYversion:0.4")
  else if arg ∈ ["has-slot:update", "has-slot:swu"].map bytes then some (bytes "OKAYno")
  else if arg ∈ ["is-logical:update", "is-logical:swu"].map bytes then some (bytes "OKAYno")
  else if arg ∈ ["partition-type:update", "partition-type:swu"].map bytes then
    some (bytes "OKAYraw")
  else if arg ∈ ["partition-size:update", "partition-size:swu"].map bytes then
    some (bytes "OKAY400000000")
  else if arg ∈ ["partition-size:sysinfo", "partition-size:sysinfo.json"].map bytes then
    some (bytes "OKAY" ++ hex08 info.json.length)
  else none

end SummitUsbgadget.Fastboot
