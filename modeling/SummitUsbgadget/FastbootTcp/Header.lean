import SummitUsbgadget.Fastboot.Header
import SummitUsbgadget.FastbootTcp.Session

/-!
# The lengths that a download command announces

A packet of fastboot over TCP holds one command, so the size of a download could be asked to be all
of what follows the header. The parser looks at eight bytes of it, and hands them to
`usize::from_str_radix`: a packet that spells a length is always taken at its word, but a size with
a plus sign, or one with something behind its eighth byte, starts a download as well. The size that
the device advertises is one of the latter.
-/

set_option autoImplicit false

namespace SummitUsbgadget.FastbootTcp

open SummitUsbgadget.Lib
open SummitUsbgadget.Fastboot

/-- The packet starts a download of `len` bytes. -/
def StartsDownload (cmd : Bytes) (len : Nat) : Prop :=
  ∃ kind consumed, parseCommand cmd = some (.download len kind, consumed) ∧
    dispatch cmd = handleDownload len kind

/-- The packet, less the padding at both ends, is a header and the eight hexadecimal digits of
`len`. -/
def Spells (cmd : Bytes) (len : Nat) : Prop :=
  ∃ (pad : Bytes) (form : HeaderForm) (size tail : Bytes), Padding pad ∧ Padding tail ∧
    cmd = pad ++ (form.text ++ (size ++ tail)) ∧ size.length = downloadSizeWidth ∧
    hexDigits 0 size = some len

/-- Nothing but padding stands behind a size that the parser takes, and no plus sign before it. -/
def PlainSize (cmd : Bytes) : Prop :=
  ∀ (pad : Bytes) (form : HeaderForm) (size tail : Bytes), Padding pad →
    cmd = pad ++ (form.text ++ (size ++ tail)) → size.length = downloadSizeWidth →
    (fromStrRadix16 size).isSome → size.head? ≠ some 0x2b ∧ Padding tail

theorem startsDownload_iff (cmd : Bytes) (len : Nat) :
    StartsDownload cmd len ↔ ∃ kind consumed,
      parseCommand cmd = some (.download len kind, consumed) := by
  constructor
  · rintro ⟨kind, consumed, h, -⟩
    exact ⟨kind, consumed, h⟩
  · rintro ⟨kind, consumed, h⟩
    refine ⟨kind, consumed, h, ?_⟩
    unfold dispatch
    rw [h]

theorem StartsDownload.unique {cmd : Bytes} {m n : Nat} (hm : StartsDownload cmd m)
    (hn : StartsDownload cmd n) : m = n := by
  obtain ⟨kind, consumed, hm, -⟩ := hm
  obtain ⟨kind', consumed', hn, -⟩ := hn
  rw [hm] at hn
  exact (ParsedCommand.download.inj (Prod.mk.inj (Option.some.inj hn)).1).1

theorem startsDownload_header {pad : Bytes} (hpad : Padding pad) (form : HeaderForm) {size : Bytes}
    {len : Nat} (hlen : size.length = downloadSizeWidth) (hsize : fromStrRadix16 size = some len)
    (tail : Bytes) : StartsDownload (pad ++ (form.text ++ (size ++ tail))) len :=
  (startsDownload_iff _ _).2 ⟨form.kind, _,
    parseCommand_download_iff.2 ⟨pad, form, size, tail, hpad, rfl, hlen, hsize, rfl, rfl⟩⟩

theorem ne_nil_of_length {size : Bytes} (h : size.length = downloadSizeWidth) : size ≠ [] := by
  rintro rfl
  cases h

/-- What is spelled is started. -/
theorem Spells.starts {cmd : Bytes} {len : Nat} (h : Spells cmd len) : StartsDownload cmd len := by
  obtain ⟨pad, form, size, tail, hpad, -, rfl, hlen, hsize⟩ := h
  exact startsDownload_header hpad form hlen
    (fromStrRadix16_of_hexDigits (ne_nil_of_length hlen) hsize) tail

/-- A size without a plus sign is made of digits. -/
theorem hexDigits_of_fromStrRadix16 {size : Bytes} {n : Nat} (hhead : size.head? ≠ some 0x2b)
    (h : fromStrRadix16 size = some n) : hexDigits 0 size = some n := by
  unfold fromStrRadix16 at h
  split at h
  · cases h
  · exact absurd rfl hhead
  · exact absurd rfl hhead
  · exact h

/-- Two headers that start the same download have the same size and the same bytes behind it. -/
theorem header_unique {pad pad' size size' tail tail' : Bytes} {form form' : HeaderForm} {len : Nat}
    (hpad : Padding pad) (hpad' : Padding pad')
    (h : pad ++ (form.text ++ (size ++ tail)) = pad' ++ (form'.text ++ (size' ++ tail')))
    (hlen : size.length = downloadSizeWidth) (hlen' : size'.length = downloadSizeWidth)
    (hsize : fromStrRadix16 size = some len) (hsize' : fromStrRadix16 size' = some len) :
    size = size' ∧ tail = tail' := by
  -- the parser consumes both up to the end of the size
  have hparse := parseCommand_download_iff.2
      ⟨pad, form, size, tail, hpad, rfl, hlen, hsize, rfl, rfl⟩
  have hparse' :=
    parseCommand_download_iff.2 ⟨pad', form', size', tail', hpad', rfl, hlen', hsize', rfl, rfl⟩
  rw [h, hparse'] at hparse
  obtain ⟨-, hconsumed⟩ := Prod.mk.inj (Option.some.inj hparse)
  have hfront : (pad ++ form.text ++ size).length = (pad' ++ form'.text ++ size').length := by
    simp only [List.length_append, hlen, hlen']
    omega
  have hsplit : pad ++ form.text ++ size ++ tail = pad' ++ form'.text ++ size' ++ tail' := by
    simpa only [List.append_assoc] using h
  obtain ⟨hheaders, htail⟩ := List.append_inj hsplit hfront
  exact ⟨List.append_inj_right' hheaders (hlen.trans hlen'.symm), htail⟩

/-- The command that a host sends for `n` bytes: `download:%08x`. -/
def hostDownload (n : Nat) : Bytes :=
  let digits := (Nat.toDigits 16 n).map fun c => UInt8.ofNat c.toNat
  HeaderForm.download.text ++ (List.replicate (downloadSizeWidth - digits.length) 0x30 ++ digits)

theorem hexDigits_isSome {data : Bytes} (h : ∀ b ∈ data, (hexDigit b).isSome) (acc : Nat) :
    (hexDigits acc data).isSome := by
  induction data generalizing acc with
  | nil => rfl
  | cons b data ih =>
      obtain ⟨d, hd⟩ := Option.isSome_iff_exists.1 (h b (List.mem_cons_self ..))
      rw [hexDigits, hd]
      exact ih (fun c hc => h c (List.mem_cons_of_mem b hc)) _

/-- Up to eight digits the host is understood. -/
theorem startsDownload_hostDownload {n : Nat} (hn : n < 16 ^ downloadSizeWidth) :
    StartsDownload (hostDownload n) n := by
  have hbyte : ∀ d < 16, UInt8.ofNat d.digitChar.toNat = hexByte false d := by decide
  have hsize := padded_eq_spelling false (fun c => UInt8.ofNat c.toNat) hbyte hn
  have hcmd : hostDownload n =
      [] ++ (HeaderForm.download.text ++ (spelling (fun _ => false) n ++ [])) := by
    unfold hostDownload
    dsimp only
    rw [← hsize, List.map_append, List.map_replicate, List.length_map, List.append_nil]
    rfl
  rw [hcmd]
  exact startsDownload_header (by decide) .download (length_spelling _ n)
    (fromStrRadix16_spelling _ hn) []

/-- With more digits it is not: the first eight of them start a download of their own. -/
theorem startsDownload_hostDownload_long {n : Nat} (hn : 16 ^ downloadSizeWidth ≤ n) :
    ∃ len < 16 ^ downloadSizeWidth, StartsDownload (hostDownload n) len := by
  have hlong : downloadSizeWidth <
      ((Nat.toDigits 16 n).map fun c => UInt8.ofNat c.toNat).length := by
    rw [List.length_map]
    by_contra hle
    have := (Nat.length_toDigits_le_iff (by omega) (by decide)).1 (Nat.le_of_not_lt hle)
    omega
  have hhex : ∀ d < 16, (hexDigit (UInt8.ofNat d.digitChar.toNat)).isSome := by decide
  have hdigits : ∀ b ∈ (Nat.toDigits 16 n).map fun c => UInt8.ofNat c.toNat,
      (hexDigit b).isSome := by
    intro b hb
    obtain ⟨c, hc, rfl⟩ := List.mem_map.1 hb
    obtain ⟨d, hd, rfl⟩ := digit_of_mem_toDigits (by omega) hc
    exact hhex d hd
  generalize hdata : ((Nat.toDigits 16 n).map fun c => UInt8.ofNat c.toNat) = digits
    at hlong hdigits
  have hcmd : hostDownload n = [] ++ (HeaderForm.download.text ++
      (digits.take downloadSizeWidth ++ digits.drop downloadSizeWidth)) := by
    have hzero : downloadSizeWidth - digits.length = 0 := by omega
    unfold hostDownload
    dsimp only
    rw [hdata, hzero, List.take_append_drop]
    rfl
  have hwidth : (digits.take downloadSizeWidth).length = downloadSizeWidth := by
    rw [List.length_take]
    omega
  obtain ⟨len, hlen⟩ := Option.isSome_iff_exists.1
    (hexDigits_isSome (fun b hb => hdigits b (List.mem_of_mem_take hb)) 0)
  have hsize := fromStrRadix16_of_hexDigits (ne_nil_of_length hwidth) hlen
  refine ⟨len, fromStrRadix16_lt (Nat.le_of_eq hwidth) hsize, ?_⟩
  rw [hcmd]
  exact startsDownload_header (by decide) .download hwidth hsize _

/-- A packet starts exactly the downloads that it spells if the size has no plus sign and nothing
but padding behind it; and the host's command for `n` bytes is taken for no other length exactly if
`n` has at most eight digits. -/
theorem download_length_iff (cmd : Bytes) (n : Nat) :
    ((∀ len, StartsDownload cmd len ↔ Spells cmd len) ↔ PlainSize cmd) ∧
      ((∀ len, StartsDownload (hostDownload n) len → len = n) ↔ n < 2 ^ 32) := by
  refine ⟨⟨fun hexact => ?_, fun hplain len => ⟨fun hstarts => ?_, Spells.starts⟩⟩,
    fun hown => ?_, fun hn len hstarts => ?_⟩
  · intro pad form size tail hpad hcmd hlen hsome
    obtain ⟨len, hsize⟩ := Option.isSome_iff_exists.1 hsome
    subst hcmd
    obtain ⟨pad', form', size', tail', hpad', htail', hcmd', hlen', hdigits⟩ :=
      (hexact len).1 (startsDownload_header hpad form hlen hsize tail)
    have hsize' := fromStrRadix16_of_hexDigits (ne_nil_of_length hlen') hdigits
    obtain ⟨rfl, rfl⟩ := header_unique hpad hpad' hcmd' hlen hlen' hsize hsize'
    refine ⟨fun hhead => ?_, htail'⟩
    -- a plus sign is no digit
    obtain ⟨rest, rfl⟩ := List.head?_eq_some_iff.1 hhead
    cases hdigits
  · obtain ⟨kind, consumed, hparse⟩ := (startsDownload_iff cmd len).1 hstarts
    obtain ⟨pad, form, size, tail, hpad, hcmd, hlen, hsize, -, -⟩ :=
      parseCommand_download_iff.1 hparse
    obtain ⟨hhead, htail⟩ := hplain pad form size tail hpad hcmd hlen (by simp [hsize])
    exact ⟨pad, form, size, tail, hpad, htail, hcmd, hlen, hexDigits_of_fromStrRadix16 hhead hsize⟩
  · by_contra hlong
    obtain ⟨len, hlt, hstarts⟩ := startsDownload_hostDownload_long (Nat.le_of_not_lt hlong)
    have := hown len hstarts
    exact hlong (this ▸ hlt)
  · exact hstarts.unique (startsDownload_hostDownload hn)

/-- `max-download-size`. -/
def maxDownloadSize : Nat := 0x400000000

/-- The device advertises a size that it takes for another one, and takes a size with a plus
sign. -/
theorem download_of_another_length :
    (∀ serial info, fastbootGetvarReply (bytes "max-download-size") serial info =
        some (bytes "OKAY" ++ bytes "400000000")) ∧
      hostDownload maxDownloadSize = bytes "download:" ++ bytes "400000000" ∧
      StartsDownload (hostDownload maxDownloadSize) 0x40000000 ∧
      StartsDownload (bytes "download:+0000001") 1 ∧
      ¬ Spells (bytes "download:+0000001") 1 := by
  have hlong : hostDownload maxDownloadSize =
      [] ++ (HeaderForm.download.text ++ (bytes "40000000" ++ bytes "0")) := by decide +kernel
  have hsigned : bytes "download:+0000001" =
      [] ++ (HeaderForm.download.text ++ (bytes "+0000001" ++ [])) := by decide +kernel
  have hsize : fromStrRadix16 (bytes "+0000001") = some 1 := by decide +kernel
  refine ⟨fun serial info => ?_, by decide +kernel, ?_, ?_, ?_⟩
  · have hname : bytes "max-download-size" ≠ bytes "version" := by decide +kernel
    have hreply : bytes "OKAY400000000" = bytes "OKAY" ++ bytes "400000000" := by decide +kernel
    rw [fastbootGetvarReply, if_neg hname, if_pos rfl, hreply]
  · rw [hlong]
    exact startsDownload_header (by decide) .download (by decide +kernel) (by decide +kernel) _
  · rw [hsigned]
    exact startsDownload_header (by decide) .download (by decide +kernel) hsize _
  · rintro ⟨pad, form, size, tail, hpad, -, hcmd, hlen, hdigits⟩
    rw [hsigned] at hcmd
    obtain ⟨rfl, -⟩ := header_unique (by decide) hpad hcmd (by decide +kernel) hlen hsize
      (fromStrRadix16_of_hexDigits (ne_nil_of_length hlen) hdigits)
    have hnone : hexDigits 0 (bytes "+0000001") = none := by decide +kernel
    rw [hnone] at hdigits
    cases hdigits

end SummitUsbgadget.FastbootTcp
