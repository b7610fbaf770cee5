import SummitUsbgadget.Lib.Text

/-!
# Reading bytes as a text

`decodeLossy` reads bytes as UTF-8 and puts U+FFFD for what is not: for each longest beginning of a
character that does not go on as one. A text reads back as itself, so bytes are the encoding of a
text exactly if reading them loses nothing.
-/

set_option autoImplicit false

namespace SummitUsbgadget.Lib

/-- The second byte may follow the first one in a character of three or four bytes. -/
def goesOn (first second : UInt8) : Bool :=
  if first == 0xe0 then 0xa0 ≤ second && second ≤ 0xbf
  else if first == 0xed then 0x80 ≤ second && second ≤ 0x9f
  else if 0xe1 ≤ first && first ≤ 0xef then 0x80 ≤ second && second ≤ 0xbf
  else if first == 0xf0 then 0x90 ≤ second && second ≤ 0xbf
  else if 0xf1 ≤ first && first ≤ 0xf3 then 0x80 ≤ second && second ≤ 0xbf
  else first == 0xf4 && 0x80 ≤ second && second ≤ 0x8f

/-- How many bytes stand for one U+FFFD where no character begins. -/
def invalidLength : List UInt8 → Nat
  | first :: second :: third :: _ =>
      if !goesOn first second then 1
      else if 0xf0 ≤ first && third &&& 0xc0 == 0x80 then 3
      else 2
  | [first, second] => if goesOn first second then 2 else 1
  | _ => 1

/-- The characters that at most `fuel` steps read from the bytes. -/
def lossyChars : Nat → List UInt8 → List Char
  | 0, _ => []
  | _ + 1, [] => []
  | fuel + 1, byte :: bytes =>
      match (byte :: bytes).toByteArray.utf8DecodeChar? 0 with
      | some c => c :: lossyChars fuel ((byte :: bytes).drop c.utf8Size)
      | none => '\uFFFD' :: lossyChars fuel ((byte :: bytes).drop (invalidLength (byte :: bytes)))

/-- The bytes as a text; every byte is read in at most one step. -/
def decodeLossy (bytes : List UInt8) : String := String.ofList (lossyChars bytes.length bytes)

example : decodeLossy [0x75, 0xe2, 0x82, 0xff, 0x64] = "u\uFFFD\uFFFDd" := by decide +kernel

theorem utf8Bytes_ofList (l : List Char) :
    utf8Bytes (String.ofList l) = l.flatMap String.utf8EncodeChar := by
  rw [utf8Bytes, toList_eq, String.toUTF8_eq_toByteArray, String.toByteArray_ofList,
    List.utf8Encode, List.toList_data_toByteArray]

/-- A step reads the character that comes first. -/
theorem lossyChars_encoded (fuel : Nat) (c : Char) (rest : List UInt8) :
    lossyChars (fuel + 1) (String.utf8EncodeChar c ++ rest) = c :: lossyChars fuel rest := by
  have hdecode : (String.utf8EncodeChar c ++ rest).toByteArray.utf8DecodeChar? 0 = some c := by
    rw [List.toByteArray_append]
    exact ByteArray.utf8DecodeChar?_utf8EncodeChar_append
  have hdrop : (String.utf8EncodeChar c ++ rest).drop c.utf8Size = rest := by
    rw [← String.length_utf8EncodeChar, List.drop_left]
  cases hbytes : String.utf8EncodeChar c ++ rest with
  | nil =>
      have hlen := congrArg List.length (List.append_eq_nil_iff.1 hbytes).1
      rw [String.length_utf8EncodeChar] at hlen
      exact absurd hlen (Nat.ne_of_gt c.utf8Size_pos)
  | cons byte bytes =>
      rw [hbytes] at hdecode hdrop
      rw [lossyChars, hdecode]
      exact congrArg (fun bytes => c :: lossyChars fuel bytes) hdrop

theorem lossyChars_flatMap (l : List Char) {fuel : Nat}
    (h : (l.flatMap String.utf8EncodeChar).length ≤ fuel) :
    lossyChars fuel (l.flatMap String.utf8EncodeChar) = l := by
  induction l generalizing fuel with
  | nil => cases fuel <;> rfl
  | cons c l ih =>
      rw [List.flatMap_cons, List.length_append, String.length_utf8EncodeChar] at h
      have hpos := c.utf8Size_pos
      cases fuel with
      | zero => omega
      | succ fuel => rw [List.flatMap_cons, lossyChars_encoded, ih (by omega)]

/-- A text reads back as itself. -/
theorem decodeLossy_utf8Bytes (s : String) : decodeLossy (utf8Bytes s) = s := by
  rw [← String.ofList_toList (s := s), utf8Bytes_ofList, decodeLossy,
    lossyChars_flatMap s.toList (Nat.le_refl _)]

end SummitUsbgadget.Lib
