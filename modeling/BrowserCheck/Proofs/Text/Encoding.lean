import BrowserCheck.Text.Bytes
import Mathlib.Data.List.TakeWhile

set_option autoImplicit false

namespace BrowserCheck.Text

lemma loop_eq_drop (b : ByteArray) (i : Nat) (r : List UInt8) :
    ByteArray.toList.loop b i r = r.reverse ++ b.data.toList.drop i := by
  induction i, r using ByteArray.toList.loop.induct b with
  | case1 i r hi ih =>
    have hdata : i < b.data.toList.length := hi
    have hget : b.get! i = b.data.toList[i] := by
      rw [Array.getElem_toList]
      exact getElem!_pos b.data i hi
    rw [ByteArray.toList.loop, if_pos hi, ih, List.reverse_cons, List.append_assoc, List.singleton_append,
      List.drop_eq_getElem_cons hdata, hget]
  | case2 i r hi =>
    have hdata : b.data.toList.length ≤ i := Nat.not_lt.mp hi
    rw [ByteArray.toList.loop, if_neg hi, List.drop_eq_nil_of_le hdata, List.append_nil]

lemma encode_eq_data (s : String) : encode s = s.toUTF8.data.toList := by
  rw [encode, ByteArray.toList, loop_eq_drop]
  rfl

lemma encode_eq_flatMap (s : String) : encode s = s.toList.flatMap String.utf8EncodeChar := by
  have hbytes : s.toUTF8 = (s.toList.flatMap String.utf8EncodeChar).toByteArray := String.utf8Encode_toList.symm
  rw [encode_eq_data, hbytes, List.data_toByteArray]

lemma length_le_encode (s : String) : s.toList.length ≤ (encode s).length := by
  rw [encode_eq_flatMap]
  induction s.toList with
  | nil => exact Nat.le_refl 0
  | cons c cs ih =>
    have hpos := c.utf8Size_pos
    rw [List.flatMap_cons, List.length_append, String.length_utf8EncodeChar, List.length_cons]
    omega

lemma decode?_encode (s : String) : decode? (encode s) = some s := by
  have hbytes : (⟨(encode s).toArray⟩ : ByteArray) = s.toUTF8 := by rw [encode_eq_data]
  have hvalid : s.toUTF8.IsValidUTF8 := s.isValidUTF8
  rw [decode?, hbytes, String.fromUTF8?, dif_pos hvalid]
  rfl

lemma characters_encode (s : String) : characters (encode s) = s.toList.map some := by
  rw [characters, decode?_encode]

lemma lossy_encode (s : String) : lossy (encode s) = s := by
  simp [lossy, characters_encode, Function.comp_def]

lemma beginning_encode (s : String) : beginning (encode s) = s := by
  have hall : (s.toList.map some).takeWhile Option.isSome = s.toList.map some := by
    rw [List.takeWhile_map]
    exact congrArg _ (List.takeWhile_eq_self_iff.mpr fun _ _ => rfl)
  rw [beginning, characters_encode, hall, List.filterMap_map]
  exact (congrArg String.ofList List.filterMap_some).trans s.ofList_toList

end BrowserCheck.Text
