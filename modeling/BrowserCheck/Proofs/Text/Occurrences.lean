import BrowserCheck.Proofs.Text.Encoding
import BrowserCheck.Proofs.Text.Search
import Mathlib.Order.Bounds.Basic
import Mathlib.Order.Nat

set_option autoImplicit false

/-! Where a marker stands in the bytes of a text. It never begins inside a character, so the first place
in the bytes is the first place in the characters. -/

namespace BrowserCheck.Text

def utf8 (s : List Char) : Bytes := s.flatMap String.utf8EncodeChar

@[simp] lemma utf8_nil : utf8 [] = [] := rfl

lemma utf8_cons (c : Char) (s : List Char) : utf8 (c :: s) = String.utf8EncodeChar c ++ utf8 s := rfl

lemma utf8_append (a b : List Char) : utf8 (a ++ b) = utf8 a ++ utf8 b := List.flatMap_append

lemma encode_eq (s : String) : encode s = utf8 s.toList := by
  rw [encode, ByteArray.toList, loop_eq_drop, List.reverse_nil, List.nil_append, List.drop_zero, String.toUTF8,
    ← String.utf8Encode_toList]
  exact List.toList_data_toByteArray

lemma encode_ofList (s : List Char) : encode (String.ofList s) = utf8 s := by
  rw [encode_eq, String.toList_ofList]

variable {marker a b text : List Char} {k : Nat}

lemma utf8_ne_nil (hm : marker ≠ []) : utf8 marker ≠ [] := by
  cases marker with
  | nil => exact absurd rfl hm
  | cons c marker =>
    intro h
    exact String.utf8EncodeChar_ne_nil (List.append_eq_nil_iff.mp h).1

lemma prefix_of_utf8 (h : utf8 a <+: utf8 b) : a <+: b := by
  obtain ⟨rest, hrest⟩ := h
  apply List.isPrefix_of_utf8Encode_append_eq_utf8Encode rest.toByteArray
  rw [List.utf8Encode, List.utf8Encode, ← List.toByteArray_append]
  exact congrArg List.toByteArray hrest

lemma isFirst_of_prefix {bytes : Bytes} (hm : marker ≠ []) (h : utf8 marker <+: bytes) :
    ∃ first rest, bytes = first :: rest ∧ first.IsUTF8FirstByte := by
  obtain ⟨rest, rfl⟩ := h
  cases marker with
  | nil => exact absurd rfl hm
  | cons c marker =>
    have hfirst := UInt8.isUTF8FirstByte_getElem_zero_utf8EncodeChar (c := c)
    cases hc : String.utf8EncodeChar c with
    | nil => exact absurd hc String.utf8EncodeChar_ne_nil
    | cons first others =>
      refine ⟨first, others ++ utf8 marker ++ rest, ?_, ?_⟩
      · simp [utf8_cons, hc]
      · simpa [hc] using hfirst

-- a byte inside a character begins no character, and a marker's first byte begins one
lemma cut_of_prefix_drop (hm : marker ≠ []) (h : utf8 marker <+: (utf8 text).drop k) :
    ∃ before after, text = before ++ (marker ++ after) ∧ (utf8 before).length = k := by
  induction text generalizing k with
  | nil =>
    rw [utf8_nil, List.drop_nil, List.prefix_nil] at h
    exact absurd h (utf8_ne_nil hm)
  | cons c text ih =>
    rw [utf8_cons] at h
    by_cases hk : k < (String.utf8EncodeChar c).length
    · cases k with
      | zero =>
        obtain ⟨after, hafter⟩ := prefix_of_utf8 (b := c :: text) h
        exact ⟨[], after, hafter.symm, rfl⟩
      | succ k =>
        obtain ⟨first, rest, he, hfirst⟩ := isFirst_of_prefix hm h
        rw [List.drop_append_of_le_length hk.le, List.drop_eq_getElem_cons hk, List.cons_append, List.cons.injEq] at he
        rw [← he.1, UInt8.isUTF8FirstByte_getElem_utf8EncodeChar] at hfirst
        exact absurd hfirst (Nat.succ_ne_zero k)
    · have hdrop : ((String.utf8EncodeChar c) ++ utf8 text).drop k =
          (utf8 text).drop (k - (String.utf8EncodeChar c).length) := by
        rw [List.drop_append, List.drop_eq_nil_of_le (Nat.not_lt.mp hk), List.nil_append]
      obtain ⟨before, after, rfl, hlen⟩ := ih (hdrop ▸ h)
      refine ⟨c :: before, after, rfl, ?_⟩
      rw [utf8_cons, List.length_append, hlen]
      omega

def First (marker before after : Bytes) : Prop :=
  IsLeast {k | marker <+: (before ++ (marker ++ after)).drop k} before.length

lemma first_utf8 (hm : marker ≠ []) (h : FirstCloses marker a) (rest : List Char) :
    First (utf8 marker) (utf8 a) (utf8 rest) := by
  refine ⟨?_, fun k hk => ?_⟩
  · simp
  · rw [Set.mem_ofPred_eq, ← utf8_append, ← utf8_append] at hk
    obtain ⟨before, after, he, rfl⟩ := cut_of_prefix_drop hm hk
    have hbefore : before <+: a ++ (marker ++ rest) := he ▸ List.prefix_append _ _
    have hle : a.length ≤ before.length := by
      by_contra hlt
      have hlt := Nat.not_le.mp hlt
      have hmarker : marker <+: (a ++ (marker ++ rest)).drop before.length := by
        rw [he, List.drop_left]
        exact List.prefix_append _ _
      rw [← List.append_assoc, List.drop_append_of_le_length (by simp; omega)] at hmarker
      refine h before.length hlt (List.prefix_of_prefix_length_le hmarker (List.prefix_append _ _) ?_)
      simp
      omega
    obtain ⟨between, rfl⟩ := List.prefix_of_prefix_length_le (List.prefix_append _ _) hbefore hle
    rw [utf8_append, List.length_append]
    exact Nat.le_add_right _ _

lemma First.unique {marker before before' after after' : Bytes} (h : First marker before after)
    (h' : First marker before' after') (he : before ++ (marker ++ after) = before' ++ (marker ++ after')) :
    before = before' ∧ after = after' := by
  rw [First, he] at h
  obtain ⟨hb, hrest⟩ := List.append_inj he (h.unique h')
  exact ⟨hb, List.append_cancel_left hrest⟩

lemma infix_utf8 (hm : marker ≠ []) (h : utf8 marker <:+: utf8 text) : marker <:+: text := by
  obtain ⟨front, back, he⟩ := h
  have hdrop : utf8 marker <+: (utf8 text).drop front.length := by
    rw [← he, List.append_assoc, List.drop_left]
    exact List.prefix_append _ _
  obtain ⟨before, after, rfl, -⟩ := cut_of_prefix_drop hm hdrop
  exact ⟨before, after, List.append_assoc _ _ _⟩

end BrowserCheck.Text
