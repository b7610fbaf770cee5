import Mathlib.Data.List.Basic
import SummitUsbgadget.Lib.Numeral
import SummitUsbgadget.Lib.Search
import SummitUsbgadget.Fastboot.Proto

/-!
# Download headers

A download header is one of three words with a colon, for one of them with a percent sign, and the
eight bytes of a size. `parseCommand_download_iff` says which byte strings the parser takes for one:
padding, a header whose size `usize::from_str_radix` accepts, and anything behind it. The payload
may therefore follow at once, whatever it looks like; on the other hand a size with a plus sign, and
a size of nine digits, are taken too.
-/

set_option autoImplicit false

namespace SummitUsbgadget.Fastboot

open SummitUsbgadget.Lib

/-- The words in front of the size. -/
inductive HeaderForm where
  | download
  | downloadPercent
  | donwload
  deriving DecidableEq, Repr

namespace HeaderForm

def text : HeaderForm → Bytes
  | download => bytes "download:"
  | downloadPercent => bytes "download:%"
  | donwload => bytes "donwload:"

/-- The percent sign marks the fastboot protocol. -/
def kind : HeaderForm → DownloadKind
  | downloadPercent => .fastboot
  | _ => .plain

/-- The name before the colon. -/
def name : HeaderForm → Bytes
  | donwload => bytes "donwload"
  | _ => bytes "download"

/-- The percent sign stands between the colon and the size. -/
def percent : HeaderForm → Bool
  | downloadPercent => true
  | _ => false

def mark (form : HeaderForm) : Bytes := if form.percent then [0x25] else []

theorem text_eq (form : HeaderForm) : form.text = form.name ++ 0x3a :: form.mark := by
  cases form <;> decide +kernel

theorem name_eq (form : HeaderForm) :
    form.name = bytes "download" ∨ form.name = bytes "donwload" := by
  cases form
  · exact Or.inl rfl
  · exact Or.inl rfl
  · exact Or.inr rfl

/-- The test of the parser for the percent sign. -/
theorem percent_eq (form : HeaderForm) {rest : Bytes} (hrest : rest.head? ≠ some 0x25) :
    (form.name == bytes "download" && (form.mark ++ rest).head? == some 0x25) = form.percent := by
  cases form with
  | download => exact Bool.and_eq_false_iff.2 (Or.inr (beq_eq_false_iff_ne.2 hrest))
  | downloadPercent => exact Bool.and_eq_true_iff.2 ⟨beq_self_eq_true _, rfl⟩
  | donwload => exact Bool.and_eq_false_iff.2 (Or.inr (beq_eq_false_iff_ne.2 hrest))

theorem drop_mark (form : HeaderForm) (rest : Bytes) :
    (form.mark ++ rest).drop form.percent.toNat = rest := by
  cases form <;> rfl

theorem colon_notMem_name (form : HeaderForm) : (0x3a : UInt8) ∉ form.name := by
  cases form <;> decide +kernel

end HeaderForm

/-! ## The parser -/

/-- Bytes that the parser skips in front of a command. -/
def Padding (data : Bytes) : Prop := ∀ b ∈ data, isPaddingByte b = true

instance (data : Bytes) : Decidable (Padding data) :=
  List.decidableBAll (fun b => isPaddingByte b = true) data

/-- Behind padding, a name and a colon the command is that of the name. -/
theorem parseCommand_named {pad name args : Bytes} (hpad : Padding pad)
    (hname : (0x3a : UInt8) ∉ name) (hhead : ∀ b ∈ name.head?, isPaddingByte b = false) :
    parseCommand (pad ++ (name ++ 0x3a :: args)) =
      (parseNamed name args).map fun r => (r.1, pad.length + (name.length + 1 + r.2)) := by
  obtain ⟨b, rest, hrest, hb⟩ : ∃ b rest, name ++ 0x3a :: args = b :: rest ∧
      isPaddingByte b = false := by
    cases name with
    | nil => exact ⟨0x3a, args, rfl, by decide⟩
    | cons b name => exact ⟨b, name ++ 0x3a :: args, rfl, hhead b (by simp)⟩
  have hstart : (pad ++ (name ++ 0x3a :: args)).findIdx? (fun b => !isPaddingByte b) =
      some pad.length := by
    rw [hrest]
    exact findIdx?_front (fun x hx => by simp [hpad x hx]) (by simp [hb])
  have hcolon : (name ++ 0x3a :: args).findIdx? (· == 0x3a) = some name.length := by
    refine findIdx?_front (fun x hx => ?_) (by simp)
    rw [beq_eq_false_iff_ne]
    rintro rfl
    exact hname hx
  have hargs : (name ++ 0x3a :: args).drop (name.length + 1) = args := by
    rw [List.drop_length_add_append, List.drop_succ_cons, List.drop_zero]
  unfold parseCommand
  rw [hstart]
  dsimp only
  rw [List.drop_left, hcolon]
  dsimp only
  rw [List.take_left, hargs]
  cases parseNamed name args <;> rfl

/-- A size never starts with a percent sign. -/
theorem head?_of_fromStrRadix16 {size : Bytes} {n : Nat} (h : fromStrRadix16 size = some n) :
    size.head? ≠ some 0x25 := by
  intro hhead
  obtain ⟨rest, rfl⟩ : ∃ rest, size = 0x25 :: rest := List.head?_eq_some_iff.1 hhead
  cases h

/-- A download command, once it is known whether the percent sign is there. -/
theorem parseNamed_size {name args : Bytes}
    (hname : name = bytes "download" ∨ name = bytes "donwload") {percent : Bool}
    (hpercent : (name == bytes "download" && args.head? == some 0x25) = percent) {size : Bytes}
    (hsize : (args.drop percent.toNat).take downloadSizeWidth = size) :
    parseNamed name args =
      if size.length < downloadSizeWidth then none
      else (fromStrRadix16 size).map fun len =>
        (.download len (if percent then .fastboot else .plain),
          percent.toNat + downloadSizeWidth) := by
  have hstart : (if percent = true then 1 else 0) = percent.toNat := by cases percent <;> rfl
  unfold parseNamed
  rw [if_pos hname]
  dsimp only
  rw [hpercent, hstart, hsize]
  cases fromStrRadix16 size <;> rfl

theorem parseNamed_header (form : HeaderForm) {size : Bytes} {n : Nat}
    (hlen : size.length = downloadSizeWidth) (hsize : fromStrRadix16 size = some n) (tail : Bytes) :
    parseNamed form.name (form.mark ++ (size ++ tail)) =
      some (.download n form.kind, form.mark.length + downloadSizeWidth) := by
  have hhead : (size ++ tail).head? ≠ some 0x25 := by
    have hne : size ≠ [] := by
      rintro rfl
      cases hsize
    rw [List.head?_append_of_ne_nil _ hne]
    exact head?_of_fromStrRadix16 hsize
  have htake : (size ++ tail).take downloadSizeWidth = size := by rw [← hlen, List.take_left]
  rw [← form.drop_mark (size ++ tail)] at htake
  rw [parseNamed_size form.name_eq (form.percent_eq hhead) htake, if_neg (by omega), hsize]
  cases form <;> rfl

/-- Only a header gives a download. -/
theorem header_of_parseNamed {name args : Bytes} {len argLen : Nat} {kind : DownloadKind}
    (h : parseNamed name args = some (.download len kind, argLen)) :
    ∃ (form : HeaderForm) (size tail : Bytes), name = form.name ∧
      args = form.mark ++ (size ++ tail) ∧
      size.length = downloadSizeWidth ∧ fromStrRadix16 size = some len ∧ kind = form.kind ∧
      argLen = form.mark.length + downloadSizeWidth := by
  by_cases hname : name = bytes "download" ∨ name = bytes "donwload"
  · obtain ⟨percent, hpercent⟩ :
        ∃ percent, (name == bytes "download" && args.head? == some 0x25) = percent := ⟨_, rfl⟩
    rw [parseNamed_size hname hpercent rfl] at h
    split at h
    · cases h
    · next hlen =>
        obtain ⟨n, hsize, heq⟩ := Option.map_eq_some_iff.1 h
        obtain ⟨hcommand, rfl⟩ := Prod.mk.inj heq
        obtain ⟨rfl, rfl⟩ := ParsedCommand.download.inj hcommand
        have hwidth : ((args.drop percent.toNat).take downloadSizeWidth).length =
            downloadSizeWidth := by
          have := List.length_take_le downloadSizeWidth (args.drop percent.toNat)
          omega
        have hargs := List.take_append_drop downloadSizeWidth (args.drop percent.toNat)
        cases percent with
        | true =>
            obtain ⟨hdownload, hhead⟩ := Bool.and_eq_true_iff.1 hpercent
            obtain ⟨args, rfl⟩ := List.head?_eq_some_iff.1 (beq_iff_eq.1 hhead)
            exact ⟨.downloadPercent, _, args.drop downloadSizeWidth, beq_iff_eq.1 hdownload,
              congrArg (List.cons 0x25) hargs.symm, hwidth, hsize, rfl, rfl⟩
        | false =>
            rcases hname with rfl | rfl
            · exact ⟨.download, _, _, rfl, hargs.symm, hwidth, hsize, rfl, rfl⟩
            · exact ⟨.donwload, _, _, rfl, hargs.symm, hwidth, hsize, rfl, rfl⟩
  · -- no other name gives a download
    unfold parseNamed at h
    rw [if_neg hname] at h
    grind

/-- The byte strings that are taken for a download: a header behind padding, and anything behind
it. -/
theorem parseCommand_download_iff {data : Bytes} {len consumed : Nat} {kind : DownloadKind} :
    parseCommand data = some (.download len kind, consumed) ↔
      ∃ (pad : Bytes) (form : HeaderForm) (size tail : Bytes), Padding pad ∧
        data = pad ++ (form.text ++ (size ++ tail)) ∧ size.length = downloadSizeWidth ∧
        fromStrRadix16 size = some len ∧ kind = form.kind ∧
        consumed = pad.length + (form.text.length + downloadSizeWidth) := by
  constructor
  · intro h
    unfold parseCommand at h
    split at h
    · cases h
    · next start hstart =>
        obtain ⟨pad, b, rest, rfl, rfl, hpad, hb⟩ := split_of_findIdx? hstart
        dsimp only at h
        rw [List.drop_left] at h
        split at h
        · next colon hcolon =>
            obtain ⟨name, c, args, hrest, rfl, hname, hc⟩ := split_of_findIdx? hcolon
            obtain rfl := beq_iff_eq.1 hc
            have hargs : (name ++ 0x3a :: args).drop (name.length + 1) = args := by
              rw [List.drop_length_add_append, List.drop_succ_cons, List.drop_zero]
            rw [hrest, List.take_left, hargs] at h
            split at h
            · cases h
            · next command argLen hnamed =>
                obtain ⟨rfl, rfl⟩ := Prod.mk.inj (Option.some.inj h)
                obtain ⟨form, size, tail, rfl, rfl, hlen, hsize, rfl, rfl⟩ :=
                  header_of_parseNamed hnamed
                refine ⟨pad, form, size, tail, ?_, ?_, hlen, hsize, rfl, ?_⟩
                · exact fun x hx => by simpa using hpad x hx
                · rw [hrest, form.text_eq, List.append_assoc, List.cons_append]
                · rw [form.text_eq, List.length_append, List.length_cons]
                  omega
        · -- without a colon there is no download
          grind
  · rintro ⟨pad, form, size, tail, hpad, rfl, hlen, hsize, rfl, rfl⟩
    have hhead : ∀ b ∈ form.name.head?, isPaddingByte b = false := by
      cases form <;> decide +kernel
    rw [form.text_eq, List.append_assoc, List.cons_append,
      parseCommand_named hpad form.colon_notMem_name hhead, parseNamed_header form hlen hsize tail,
      List.length_append, List.length_cons]
    simp only [Option.map_some]
    congr 2
    omega

/-! ## Spelling a size -/

/-- The byte that spells a digit, in either letter case. -/
def hexByte (upper : Bool) (d : Nat) : UInt8 :=
  if d < 10 then UInt8.ofNat (0x30 + d)
  else UInt8.ofNat ((if upper then 0x41 else 0x61) + (d - 10))

/-- The number in eight digits; `upper` chooses the letter case of each of them. -/
def spelling (upper : Nat → Bool) (n : Nat) : Bytes :=
  (numeral 16 downloadSizeWidth n).mapIdx fun i d => hexByte (upper i) d

theorem length_spelling (upper : Nat → Bool) (n : Nat) :
    (spelling upper n).length = downloadSizeWidth := by
  simp [spelling]

theorem hexDigit_hexByte (upper : Bool) {d : Nat} (hd : d < 16) :
    hexDigit (hexByte upper d) = some d := by
  have hall : ∀ upper : Bool, ∀ d < 16, hexDigit (hexByte upper d) = some d := by decide
  exact hall upper d hd

/-- Digits that are spelled in any way are read as the number they make up. -/
theorem hexDigits_mapIdx {digits : List Nat} (spell : Nat → Nat → UInt8)
    (h : ∀ i, ∀ d ∈ digits, hexDigit (spell i d) = some d) (acc : Nat) :
    hexDigits acc (digits.mapIdx spell) = some (digits.foldl (fun n d => n * 16 + d) acc) := by
  induction digits generalizing acc spell with
  | nil => rfl
  | cons d digits ih =>
      have hrest := ih (fun i => spell (i + 1))
        (fun i d' hd' => h (i + 1) d' (List.mem_cons_of_mem d hd')) (acc * 16 + d)
      rw [List.mapIdx_cons, hexDigits, h 0 d (List.mem_cons_self ..)]
      exact hrest

/-- Without a sign the whole text is digits. -/
theorem fromStrRadix16_of_hexDigits {size : Bytes} {n : Nat} (hne : size ≠ [])
    (h : hexDigits 0 size = some n) : fromStrRadix16 size = some n := by
  unfold fromStrRadix16
  split
  · exact absurd rfl hne
  · cases h
  · cases h
  · exact h

theorem fromStrRadix16_spelling (upper : Nat → Bool) {n : Nat} (hn : n < 16 ^ downloadSizeWidth) :
    fromStrRadix16 (spelling upper n) = some n := by
  refine fromStrRadix16_of_hexDigits ?_ ?_
  · refine List.ne_nil_of_length_pos ?_
    rw [length_spelling]
    decide
  · have hdigits : ∀ i, ∀ d ∈ numeral 16 downloadSizeWidth n,
        hexDigit (hexByte (upper i) d) = some d :=
      fun i d hd => hexDigit_hexByte (upper i) (lt_of_mem_numeral (by omega) hd)
    unfold spelling
    rw [hexDigits_mapIdx _ hdigits 0, foldl_numeral, Nat.zero_mul, Nat.zero_add,
      Nat.mod_eq_of_lt hn]

/-- A number filled up with zeros to eight digits, all in one letter case. -/
theorem padded_eq_spelling (upper : Bool) (byte : Char → UInt8)
    (hbyte : ∀ d < 16, byte d.digitChar = hexByte upper d) {n : Nat}
    (hn : n < 16 ^ downloadSizeWidth) :
    (List.replicate (downloadSizeWidth - (Nat.toDigits 16 n).length) '0' ++
      Nat.toDigits 16 n).map byte = spelling (fun _ => upper) n := by
  rw [toDigits_padded (by omega) (by decide) hn, List.map_map, spelling]
  refine List.ext_getElem (by simp) fun i hi _ => ?_
  have hmem : (numeral 16 downloadSizeWidth n)[i] ∈ numeral 16 downloadSizeWidth n :=
    List.getElem_mem _
  rw [List.getElem_map, List.getElem_mapIdx]
  exact hbyte _ (lt_of_mem_numeral (by omega) hmem)

/-- The header of a data phase has the size in upper case. -/
theorem hex08_eq_spelling {n : Nat} (hn : n < 16 ^ downloadSizeWidth) :
    hex08 n = spelling (fun _ => true) n := by
  have hbyte : ∀ d < 16, UInt8.ofNat d.digitChar.toUpper.toNat = hexByte true d := by decide
  rw [← padded_eq_spelling true (fun c => UInt8.ofNat c.toUpper.toNat) hbyte hn]
  unfold hex08
  dsimp only
  rw [List.map_append, List.map_replicate, List.length_map]
  rfl

/-- A header with a size in any letter case, behind any padding and before any payload: the parser
finds the size, and leaves the payload alone. The header of the reply has the same size in upper
case. -/
theorem download_header_round_trip {n : Nat} (hn : n < 2 ^ 32) {pad : Bytes} (hpad : Padding pad)
    (form : HeaderForm) (upper : Nat → Bool) (payload : Bytes) :
    (∃ kind consumed,
        parseCommand (pad ++ (form.text ++ (spelling upper n ++ payload))) =
          some (.download n kind, consumed) ∧
        (kind = .fastboot ↔ form = .downloadPercent) ∧
        (pad ++ (form.text ++ (spelling upper n ++ payload))).drop consumed = payload) ∧
      dataHeader n = bytes "DATA" ++ spelling (fun _ => true) n ∧
      fromStrRadix16 (spelling (fun _ => true) n) = some n := by
  have hlt : n < 16 ^ downloadSizeWidth := hn
  refine ⟨⟨form.kind, pad.length + (form.text.length + downloadSizeWidth), ?_, ?_, ?_⟩, ?_,
    fromStrRadix16_spelling _ hlt⟩
  · exact parseCommand_download_iff.2 ⟨pad, form, spelling upper n, payload, hpad, rfl,
      length_spelling upper n, fromStrRadix16_spelling upper hlt, rfl, rfl⟩
  · cases form <;> decide
  · rw [List.drop_length_add_append, List.drop_length_add_append, ← length_spelling upper n,
      List.drop_left]
  · rw [dataHeader, hex08_eq_spelling hlt]

/-- A payload that looks like more of the header. -/
theorem download_header_round_trip_ambiguous :
    ∃ kind consumed,
      parseCommand ([0x20] ++ (HeaderForm.downloadPercent.text ++
          (spelling (fun i => i % 2 == 0) 0xbeef ++ bytes "0:%"))) =
        some (.download 0xbeef kind, consumed) ∧
      (kind = .fastboot ↔ HeaderForm.downloadPercent = .downloadPercent) ∧
      ([0x20] ++ (HeaderForm.downloadPercent.text ++
          (spelling (fun i => i % 2 == 0) 0xbeef ++ bytes "0:%"))).drop consumed = bytes "0:%" :=
  (download_header_round_trip (by decide) (by decide) .downloadPercent _ _).1

end SummitUsbgadget.Fastboot
