import SummitUsbgadget.Fastboot.Header

/-!
# What stands behind a command

Host tools pad their commands, so the bytes behind the first padding byte should not matter to the
command in front of it. Whether a command has a colon is decided by a search of all the bytes that
were received: a command with a colon is parsed the same whatever follows it, but a bare word,
`Close` among them, is taken for the name in front of a colon that stands anywhere behind it.
-/

set_option autoImplicit false

namespace SummitUsbgadget.Fastboot

/-- No byte is padding. -/
def Solid (data : Bytes) : Prop := ∀ b ∈ data, isPaddingByte b = false

instance (data : Bytes) : Decidable (Solid data) :=
  List.decidableBAll (fun b => isPaddingByte b = false) data

section Tail

variable {b : UInt8} (hb : isPaddingByte b = true)

include hb

/-! ## Commands with a colon -/

theorem tokenLen_tail {args : Bytes} (hargs : Solid args) (t : Bytes) :
    tokenLen (args ++ b :: t) = args.length := by
  unfold tokenLen
  rw [Lib.findIdx?_front hargs hb, Option.getD_some]

omit hb in
theorem tokenLen_solid {args : Bytes} (hargs : Solid args) : tokenLen args = args.length := by
  unfold tokenLen
  rw [List.findIdx?_eq_none_iff.2 hargs, Option.getD_none]

/-- A name other than those of a download looks at its argument up to the padding. -/
theorem parseNamed_token_tail {name args : Bytes} (hargs : Solid args)
    (hname : ¬ (name = bytes "download" ∨ name = bytes "donwload")) (t : Bytes) :
    parseNamed name (args ++ b :: t) = parseNamed name args := by
  unfold parseNamed
  simp only [if_neg hname, tokenLen_tail hb hargs, tokenLen_solid hargs, List.take_left,
    List.take_length]

omit hb in
/-- A download looks at the eight bytes of its size, which are there already. -/
theorem parseNamed_download_tail {name args : Bytes} {command : ParsedCommand}
    (hname : name = bytes "download" ∨ name = bytes "donwload")
    (h : parseNamed name args = some (command, args.length)) (tail : Bytes) :
    parseNamed name (args ++ tail) = some (command, args.length) := by
  obtain ⟨len, kind, rfl⟩ : ∃ len kind, command = .download len kind := by
    rw [parseNamed_size hname rfl rfl] at h
    split at h
    · cases h
    · obtain ⟨len, -, heq⟩ := Option.map_eq_some_iff.1 h
      exact ⟨len, _, (Prod.mk.inj heq).1.symm⟩
  obtain ⟨form, size, rest, rfl, rfl, hwidth, hsize, rfl, hlen⟩ := header_of_parseNamed h
  obtain rfl : rest = [] := by
    rw [List.length_append, List.length_append] at hlen
    exact List.length_eq_zero_iff.1 (by omega)
  rw [List.append_nil, List.append_assoc, parseNamed_header form hwidth hsize tail,
    List.length_append, hwidth]

theorem parseNamed_tail {name args : Bytes} {command : ParsedCommand} (hargs : Solid args)
    (h : parseNamed name args = some (command, args.length)) (t : Bytes) :
    parseNamed name (args ++ b :: t) = some (command, args.length) := by
  by_cases hname : name = bytes "download" ∨ name = bytes "donwload"
  · exact parseNamed_download_tail hname h (b :: t)
  · rw [parseNamed_token_tail hb hargs hname t, h]

omit hb in
theorem parseCommand_unpadded {name : Bytes} (hname : (0x3a : UInt8) ∉ name)
    (hhead : ∀ x ∈ name.head?, isPaddingByte x = false) (args : Bytes) :
    parseCommand (name ++ 0x3a :: args) =
      (parseNamed name args).map fun r => (r.1, name.length + 1 + r.2) := by
  have hparse := @parseCommand_named [] name args nofun hname hhead
  simpa only [List.nil_append, List.length_nil, Nat.zero_add] using hparse

theorem parseCommand_colon_tail {c : Bytes} {command : ParsedCommand} (hc : Solid c)
    (hcolon : (0x3a : UInt8) ∈ c) (h : parseCommand c = some (command, c.length)) (t : Bytes) :
    parseCommand (c ++ b :: t) = some (command, c.length) := by
  obtain ⟨name, args, rfl, hname⟩ := List.eq_append_cons_of_mem hcolon
  have hargs : Solid args := fun x hx => hc x (List.mem_append_right _ (List.mem_cons_of_mem _ hx))
  have hhead : ∀ x ∈ name.head?, isPaddingByte x = false :=
    fun x hx => hc x (List.mem_append_left _ (List.mem_of_mem_head? hx))
  have hparse := parseCommand_unpadded hname hhead
  rw [hparse args] at h
  obtain ⟨⟨command', argLen⟩, hnamed, heq⟩ := Option.map_eq_some_iff.1 h
  obtain ⟨rfl, hlen⟩ := Prod.mk.inj heq
  -- the argument is all that stands behind the colon
  obtain rfl : argLen = args.length := by
    rw [List.length_append, List.length_cons] at hlen
    dsimp only at hlen
    omega
  rw [List.append_assoc, List.cons_append, hparse (args ++ b :: t),
    parseNamed_tail hb hargs hnamed t]
  exact congrArg some (Prod.ext rfl hlen)

/-! ## Bare words -/

omit hb in
theorem parseCommand_bare {x : UInt8} {rest : Bytes} (hx : isPaddingByte x = false)
    (hcolon : (0x3a : UInt8) ∉ x :: rest) :
    parseCommand (x :: rest) =
      some (if (x :: rest).take (tokenLen (x :: rest)) = bytes "Close" then .close
        else .unsupported, tokenLen (x :: rest)) := by
  have hstart : (x :: rest).findIdx? (fun b => !isPaddingByte b) = some 0 := by
    simp [List.findIdx?_cons, hx]
  have hnone : (x :: rest).findIdx? (· == 0x3a) = none := by
    refine List.findIdx?_eq_none_iff.2 fun y hy => beq_eq_false_iff_ne.2 ?_
    rintro rfl
    exact hcolon hy
  unfold parseCommand
  rw [hstart]
  dsimp only
  rw [List.drop_zero, hnone, Nat.zero_add]

/-- Without a colon the word ends at the padding. -/
theorem parseCommand_bare_tail {x : UInt8} {rest : Bytes} (hc : Solid (x :: rest)) {t : Bytes}
    (hcolon : (0x3a : UInt8) ∉ x :: rest) (ht : (0x3a : UInt8) ∉ t) :
    parseCommand (x :: rest ++ b :: t) = parseCommand (x :: rest) := by
  have hx : isPaddingByte x = false := hc x (List.mem_cons_self ..)
  have hall : (0x3a : UInt8) ∉ x :: (rest ++ b :: t) := by
    intro hmem
    rcases List.mem_append.1 (show (0x3a : UInt8) ∈ x :: rest ++ b :: t from hmem) with hmem | hmem
    · exact hcolon hmem
    · rcases List.mem_cons.1 hmem with rfl | hmem
      · cases hb
      · exact ht hmem
  rw [parseCommand_bare hx hcolon, List.cons_append, parseCommand_bare hx hall, ← List.cons_append,
    tokenLen_tail hb hc, tokenLen_solid hc, List.take_left, List.take_length]

omit hb in
/-- A colon anywhere behind a bare word makes all in front of it a name, and the command longer. -/
theorem consumed_of_colon {x : UInt8} {rest tail : Bytes} {command : ParsedCommand} {consumed : Nat}
    (hx : isPaddingByte x = false) (hcolon : (0x3a : UInt8) ∉ x :: rest)
    (htail : (0x3a : UInt8) ∈ tail)
    (h : parseCommand (x :: rest ++ tail) = some (command, consumed)) :
    (x :: rest).length < consumed := by
  obtain ⟨front, args, rfl, hfront⟩ := List.eq_append_cons_of_mem htail
  have hname : (0x3a : UInt8) ∉ x :: rest ++ front := by
    intro hmem
    exact (List.mem_append.1 hmem).elim hcolon hfront
  rw [← List.append_assoc, parseCommand_unpadded hname (fun y hy => Option.some.inj hy ▸ hx)] at h
  obtain ⟨r, -, heq⟩ := Option.map_eq_some_iff.1 h
  rw [← (Prod.mk.inj heq).2, List.length_append]
  omega

end Tail

/-- A command in front of padding parses as it does alone exactly if it has a colon, or none
follows. -/
theorem parse_command_tail_iff {c : Bytes} (hc : Solid c) {command : ParsedCommand}
    (h : parseCommand c = some (command, c.length)) {b : UInt8} (hb : isPaddingByte b = true)
    (t : Bytes) :
    parseCommand (c ++ b :: t) = some (command, c.length) ↔
      (0x3a : UInt8) ∈ c ∨ (0x3a : UInt8) ∉ t := by
  cases c with
  | nil => cases h
  | cons x rest =>
      constructor
      · intro hsame
        by_contra hnot
        obtain ⟨hcolon, ht⟩ := not_or.1 hnot
        have hx := hc x (List.mem_cons_self ..)
        have htail := List.mem_cons_of_mem b (not_not.1 ht)
        exact Nat.lt_irrefl _ (consumed_of_colon hx hcolon htail hsame)
      · intro hor
        by_cases hcolon : (0x3a : UInt8) ∈ x :: rest
        · exact parseCommand_colon_tail hb hc hcolon h t
        · rw [parseCommand_bare_tail hb hc hcolon (hor.resolve_left hcolon), h]

theorem parse_command_tail_iff_close :
    parseCommand (bytes "Close" ++ 0 :: bytes "trailing") =
      some (.close, (bytes "Close").length) := by
  have hsolid : Solid (bytes "Close") := by decide +kernel
  have hparse : parseCommand (bytes "Close") = some (.close, (bytes "Close").length) := by
    decide +kernel
  have hcolon : (0x3a : UInt8) ∉ bytes "trailing" := by decide +kernel
  exact (parse_command_tail_iff hsolid hparse (b := 0) rfl (bytes "trailing")).2 (Or.inr hcolon)

/-- `Close`, a NUL and the beginning of another command: the close is not recognised. -/
theorem close_not_recognised :
    Solid (bytes "Close") ∧ parseCommand (bytes "Close") = some (.close, 5) ∧
      isPaddingByte 0 = true ∧
      parseCommand (bytes "Close" ++ 0 :: bytes "getvar:version") = some (.unsupported, 20) := by
  decide +kernel

end SummitUsbgadget.Fastboot
