import SummitUsbgadget.Lib.Search

/-!
# The layout of `ProgressMsg`, as SWUpdate's header has it

The build script reads `progress_ipc.h` and compiles `ProgressMsg` packed or not, as the attributes
of `struct progress_msg` say. `progress_msg_is_packed` looks for the first mention of the struct,
for the first brace behind it, for the brace that closes it and for the semicolon behind that.
`Group` is what it finds; it may belong to another declaration than `Definition`, which is what it
looks for.
-/

set_option autoImplicit false

namespace SummitUsbgadget.SwupdateIpc

open SummitUsbgadget.Lib

/-! ## The build script -/

/-- The name of the struct, as the build script looks for it. -/
def structProgressMsg : List Char := "struct progress_msg".toList

/-- The loop over the characters: the text from the brace that closes the body. -/
def bodyEnd (nesting : Nat) : List Char → Option (List Char)
  | [] => none
  | character :: rest =>
      if character = '{' then bodyEnd (nesting + 1) rest
      else if character = '}' then
        if nesting - 1 = 0 then some (character :: rest) else bodyEnd (nesting - 1) rest
      else bodyEnd nesting rest

/-- `progress_msg_is_packed`. -/
def progressMsgIsPacked (source : List Char) : Option Bool := do
  let (_, rest) ← splitFirst structProgressMsg source
  let declaration := structProgressMsg ++ rest
  let (bodyStart, _) ← splitFirst ['{'] declaration
  let suffix ← bodyEnd 0 (declaration.drop bodyStart.length)
  let (attributes, _) ← splitFirst [';'] suffix
  some (contains "packed".toList attributes)

/-! ## Declarations -/

/-- A text in which every brace has its partner. -/
inductive Balanced : List Char → Prop where
  | nil : Balanced []
  | char {c : Char} {rest : List Char} (hopen : c ≠ '{') (hclose : c ≠ '}')
      (hrest : Balanced rest) : Balanced (c :: rest)
  | braces {inner rest : List Char} (hinner : Balanced inner) (hrest : Balanced rest) :
      Balanced ('{' :: (inner ++ '}' :: rest))

/-- The text of a body in braces, its attributes and the semicolon. -/
def braced (body attributes back : List Char) : List Char :=
  '{' :: (body ++ '}' :: (attributes ++ ';' :: back))

/-- A character of an identifier. -/
def isIdentifier (c : Char) : Bool := c.isAlphanum || c == '_'

/-- A complete definition of the struct in the text. -/
structure Definition (text : List Char) where
  front : List Char
  blank : List Char
  body : List Char
  attributes : List Char
  back : List Char
  text_eq : text = front ++ (structProgressMsg ++ (blank ++ braced body attributes back))
  starts : ∀ c ∈ front.getLast?, isIdentifier c = false
  isBlank : ∀ c ∈ blank, c.isWhitespace = true
  balanced : Balanced body
  ends : ';' ∉ attributes

/-- The first body in braces behind the first mention of the struct. -/
structure Group (text : List Char) where
  front : List Char
  between : List Char
  body : List Char
  attributes : List Char
  back : List Char
  first : FirstAt structProgressMsg text front (between ++ braced body attributes back)
  noBrace : '{' ∉ between
  balanced : Balanced body
  ends : ';' ∉ attributes

/-- The attributes say that the struct is packed. -/
def Packed (attributes : List Char) : Prop := "packed".toList <:+: attributes

instance (attributes : List Char) : Decidable (Packed attributes) :=
  inferInstanceAs (Decidable (_ <:+: _))

/-- The layout is that of the definition, and there is none without a definition. -/
structure Detected (text : List Char) : Prop where
  packed : ∀ d : Definition text, progressMsgIsPacked text = some (decide (Packed d.attributes))
  missing : IsEmpty (Definition text) → progressMsgIsPacked text = none

/-! ## The closing brace -/

/-- A balanced text is passed over. -/
theorem bodyEnd_balanced {body : List Char} (h : Balanced body) (n : Nat) (rest : List Char) :
    bodyEnd (n + 1) (body ++ rest) = bodyEnd (n + 1) rest := by
  induction h generalizing n rest with
  | nil => rfl
  | char hopen hclose _ ih =>
      rw [List.cons_append, bodyEnd, if_neg hopen, if_neg hclose]
      exact ih n rest
  | braces _ _ ihInner ihRest =>
      rw [List.cons_append, bodyEnd, if_pos rfl, List.append_assoc, ihInner (n + 1),
        List.cons_append, bodyEnd, if_neg (by decide), if_pos rfl]
      exact (if_neg (Nat.succ_ne_zero n)).trans (ihRest n rest)

theorem bodyEnd_braced {body : List Char} (h : Balanced body) (tail : List Char) :
    bodyEnd 0 ('{' :: (body ++ '}' :: tail)) = some ('}' :: tail) := by
  rw [bodyEnd, if_pos rfl, bodyEnd_balanced h, bodyEnd, if_neg (by decide), if_pos rfl]
  exact if_pos rfl

/-- What is found behind `n + 1` open braces: a balanced text, the brace that closes the innermost
of them, and what is found behind the others. -/
theorem bodyEnd_some {n : Nat} {text suffix : List Char} (h : bodyEnd (n + 1) text = some suffix) :
    ∃ body rest, text = body ++ '}' :: rest ∧ Balanced body ∧
      (if n = 0 then suffix = '}' :: rest else bodyEnd n rest = some suffix) := by
  induction hlen : text.length using Nat.strong_induction_on generalizing n text with
  | _ len ih =>
  cases text with
  | nil => cases h
  | cons c text =>
      rw [bodyEnd] at h
      split at h
      · next hopen =>
          -- the braces in front of the rest, and then the rest
          obtain ⟨inner, rest, rfl, hinner, hnext⟩ := ih text.length (by rw [← hlen]; simp) h rfl
          rw [if_neg (Nat.succ_ne_zero n)] at hnext
          obtain ⟨body, rest', rfl, hbody, hfound⟩ :=
            ih rest.length (by rw [← hlen]; simp; omega) hnext rfl
          exact ⟨_, rest', by rw [hopen]; simp, Balanced.braces hinner hbody, hfound⟩
      · next hopen =>
          split at h
          · next hclose =>
              refine ⟨[], text, by rw [hclose]; rfl, Balanced.nil, ?_⟩
              rw [Nat.add_sub_cancel] at h
              split at h
              · next hzero =>
                  rw [if_pos hzero, ← hclose]
                  exact (Option.some.inj h).symm
              · next hpos =>
                  rw [if_neg hpos]
                  exact h
          · next hclose =>
              obtain ⟨body, rest, rfl, hbody, hfound⟩ := ih text.length (by rw [← hlen]; simp) h rfl
              exact ⟨c :: body, rest, rfl, Balanced.char hopen hclose hbody, hfound⟩

/-! ## What the build script finds -/

theorem noBrace_struct : '{' ∉ structProgressMsg := by decide +kernel

/-- The brace that closes the body is not part of what `packed` is looked for in. -/
theorem contains_packed_iff (attributes : List Char) :
    contains "packed".toList ('}' :: attributes) = true ↔ Packed attributes := by
  rw [contains_iff, List.infix_cons_iff]
  constructor
  · rintro (hpre | hinfix)
    · exact absurd (List.cons_prefix_cons.1 hpre).1 (by decide)
    · exact hinfix
  · exact Or.inr

section Group

variable {text : List Char}

theorem Group.progressMsgIsPacked (g : Group text) :
    progressMsgIsPacked text = some (decide (Packed g.attributes)) := by
  have hbrace : FirstAt ['{'] (structProgressMsg ++
      (g.between ++ braced g.body g.attributes g.back)) (structProgressMsg ++ g.between)
        (g.body ++ '}' :: (g.attributes ++ ';' :: g.back)) := by
    refine firstAt_singleton_iff.2 ⟨by rw [List.append_assoc]; rfl, fun hmem => ?_⟩
    exact (List.mem_append.1 hmem).elim noBrace_struct g.noBrace
  have hsemicolon : FirstAt [';'] ('}' :: (g.attributes ++ ';' :: g.back)) ('}' :: g.attributes)
      g.back := by
    refine firstAt_singleton_iff.2 ⟨rfl, fun hmem => ?_⟩
    exact (List.mem_cons.1 hmem).elim (by decide) g.ends
  rw [SwupdateIpc.progressMsgIsPacked, splitFirst_iff.2 g.first]
  simp only [Option.bind_eq_bind, Option.bind_some, splitFirst_iff.2 hbrace]
  rw [← List.append_assoc, List.drop_left, braced, bodyEnd_braced g.balanced, Option.bind_some,
    splitFirst_iff.2 hsemicolon]
  exact congrArg some (Bool.eq_iff_iff.2 (by rw [contains_packed_iff, decide_eq_true_iff]))

/-- What is in front of the first brace behind the name begins with the name. -/
theorem brace_behind_struct {rest front back : List Char}
    (h : structProgressMsg ++ rest = front ++ '{' :: back) :
    ∃ between, front = structProgressMsg ++ between ∧ rest = between ++ '{' :: back := by
  obtain ⟨between, hfront, hrest⟩ | ⟨t, hstruct, htail⟩ := List.append_eq_append_iff.1 h
  · exact ⟨between, hfront, hrest⟩
  · cases t with
    | nil => exact ⟨[], by simpa using hstruct.symm, by simpa using htail.symm⟩
    | cons c t =>
        obtain ⟨rfl, -⟩ := List.cons.inj htail
        exact absurd (hstruct ▸ List.mem_append_right front (List.mem_cons_self ..)) noBrace_struct

theorem group_of_progressMsgIsPacked {b : Bool} (h : progressMsgIsPacked text = some b) :
    Nonempty (Group text) := by
  rw [progressMsgIsPacked] at h
  obtain ⟨⟨front, rest⟩, hfirst, h⟩ := Option.bind_eq_some_iff.1 h
  obtain ⟨⟨bodyStart, back⟩, hbrace, h⟩ := Option.bind_eq_some_iff.1 h
  obtain ⟨suffix, hend, h⟩ := Option.bind_eq_some_iff.1 h
  obtain ⟨⟨attributes, back'⟩, hsemicolon, -⟩ := Option.bind_eq_some_iff.1 h
  obtain ⟨hdeclaration, hno⟩ := firstAt_singleton_iff.1 (splitFirst_sound hbrace)
  obtain ⟨between, rfl, rfl⟩ := brace_behind_struct hdeclaration
  rw [hdeclaration, List.drop_left, bodyEnd, if_pos rfl] at hend
  obtain ⟨body, tail, rfl, hbody, hsuffix⟩ := bodyEnd_some hend
  rw [if_pos rfl] at hsuffix
  obtain ⟨hattributes, hends⟩ := firstAt_singleton_iff.1 (splitFirst_sound hsemicolon)
  rw [hsuffix] at hattributes
  cases attributes with
  | nil => exact absurd (List.cons.inj hattributes).1 (by decide)
  | cons c attributes =>
      obtain ⟨-, rfl⟩ := List.cons.inj hattributes
      exact ⟨⟨front, between, body, attributes, back', splitFirst_sound hfirst,
        fun hmem => hno (List.mem_append_right _ hmem), hbody,
        fun hmem => hends (List.mem_cons_of_mem _ hmem)⟩⟩

theorem progressMsgIsPacked_none_iff : progressMsgIsPacked text = none ↔ IsEmpty (Group text) := by
  constructor
  · intro h
    refine ⟨fun g => ?_⟩
    cases h.symm.trans g.progressMsgIsPacked
  · intro h
    cases hpacked : progressMsgIsPacked text with
    | none => rfl
    | some b =>
        obtain ⟨g⟩ := group_of_progressMsgIsPacked hpacked
        exact (h.false g).elim

/-- A definition is found from the first mention of the struct on if no brace stands between
them. -/
theorem Definition.progressMsgIsPacked (d : Definition text) {front between : List Char}
    (hfirst : FirstAt structProgressMsg text front
      (between ++ braced d.body d.attributes d.back)) (hno : '{' ∉ between) :
    SwupdateIpc.progressMsgIsPacked text = some (decide (Packed d.attributes)) :=
  Group.progressMsgIsPacked
    ⟨front, between, d.body, d.attributes, d.back, hfirst, hno, d.balanced, d.ends⟩

end Group

/-- The layout is the definition's exactly if the first body behind the first mention of the struct
is that of the definition, or of another declaration that is packed if the definition is. -/
theorem progress_msg_layout_iff (text : List Char) :
    Detected text ↔
      (∀ d : Definition text, ∃ g : Group text, Packed g.attributes ↔ Packed d.attributes) ∧
        (IsEmpty (Definition text) → IsEmpty (Group text)) := by
  constructor
  · intro h
    refine ⟨fun d => ?_, fun hnone => progressMsgIsPacked_none_iff.1 (h.missing hnone)⟩
    obtain ⟨g⟩ := group_of_progressMsgIsPacked (h.packed d)
    have hsame := Option.some.inj (g.progressMsgIsPacked.symm.trans (h.packed d))
    exact ⟨g, decide_eq_decide.1 hsame⟩
  · rintro ⟨hdefined, hmissing⟩
    refine ⟨fun d => ?_, fun hnone => progressMsgIsPacked_none_iff.2 (hmissing hnone)⟩
    obtain ⟨g, hsame⟩ := hdefined d
    rw [g.progressMsgIsPacked, decide_eq_decide.2 hsame]

/-- A header with a forward declaration, another struct and the definition. -/
def forwardDeclared : List Char :=
  ("struct progress_msg; struct other \x7b int a; \x7d __attribute__((packed)); " ++
    "struct progress_msg \x7b int b; \x7d;").toList

theorem balanced_of_noBrace {text : List Char}
    (h : text.all (fun c => c != '{' && c != '}') = true) : Balanced text := by
  induction text with
  | nil => exact Balanced.nil
  | cons c text ih =>
      rw [List.all_cons, Bool.and_eq_true, Bool.and_eq_true, bne_iff_ne, bne_iff_ne] at h
      exact Balanced.char h.1.1 h.1.2 (ih h.2)

/-- The definition behind the forward declaration and the other struct. -/
def forwardDeclaredDefinition : Definition forwardDeclared where
  front := "struct progress_msg; struct other \x7b int a; \x7d __attribute__((packed)); ".toList
  blank := [' ']
  body := " int b; ".toList
  attributes := []
  back := []
  text_eq := by decide +kernel
  starts c hc := by
    obtain rfl : ' ' = c := Option.some.inj hc
    rfl
  isBlank c hc := by
    obtain rfl := List.mem_singleton.1 hc
    rfl
  balanced := balanced_of_noBrace rfl
  ends := List.not_mem_nil

/-- The attributes of the other struct are taken for those of the definition. -/
theorem layout_of_another_struct :
    ¬ Packed forwardDeclaredDefinition.attributes ∧
      progressMsgIsPacked forwardDeclared = some true ∧ ¬ Detected forwardDeclared := by
  have hplain : ¬ Packed forwardDeclaredDefinition.attributes := by decide +kernel
  have hpacked : progressMsgIsPacked forwardDeclared = some true := by decide +kernel
  refine ⟨hplain, hpacked, fun h => ?_⟩
  have hsame := Option.some.inj (hpacked.symm.trans (h.packed forwardDeclaredDefinition))
  exact hplain (of_decide_eq_true hsame.symm)

end SummitUsbgadget.SwupdateIpc
