import Mathlib.Data.List.Basic
import Mathlib.Tactic.Common

/-!
# The bytes of a text

`ByteArray.toList` runs a loop of its own; these lemmas take it to lists, where appending texts
appends their bytes, and different texts have different bytes.
-/

set_option autoImplicit false

namespace SummitUsbgadget.Lib

theorem toList_loop (data : ByteArray) (i : Nat) (front : List UInt8) :
    ByteArray.toList.loop data i front = front.reverse ++ data.data.toList.drop i := by
  fun_induction ByteArray.toList.loop data i front with
  | case1 i front hlt ih =>
      have hlen : i < data.data.toList.length := by simpa using hlt
      have hget : data.get! i = data.data.toList[i] := by simp [ByteArray.get!, hlt]
      rw [ih, List.drop_eq_getElem_cons hlen, hget]
      simp
  | case2 i front hge =>
      rw [List.drop_eq_nil_of_le (by simpa using hge), List.append_nil]

theorem toList_eq (data : ByteArray) : data.toList = data.data.toList := toList_loop data 0 []

/-- The bytes of a text. -/
def utf8Bytes (s : String) : List UInt8 := s.toUTF8.toList

theorem utf8Bytes_append (s t : String) : utf8Bytes (s ++ t) = utf8Bytes s ++ utf8Bytes t := by
  simp only [utf8Bytes, toList_eq, String.toUTF8_eq_toByteArray, String.toByteArray_append,
    ByteArray.data_append, Array.toList_append]

theorem utf8Bytes_injective : Function.Injective utf8Bytes := by
  intro s t h
  simp only [utf8Bytes, toList_eq] at h
  exact String.toByteArray_inj.1 (ByteArray.ext (Array.toList_inj.1 h))

end SummitUsbgadget.Lib
