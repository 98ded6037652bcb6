import BrowserCheck.Proofs.Json.Integers

set_option autoImplicit false

namespace BrowserCheck.Json

namespace Number

lemma newline_notMem_digits (n : Nat) : '\n' ∉ Nat.toDigits 10 n := by
  intro h
  have hdigit := Text.isDigit_of_mem_digits h
  revert hdigit
  decide

lemma newline_notMem_realText (x : Number.Binary64) : '\n' ∉ realText x := by
  have hdigits := newline_notMem_digits x.shortest.digits
  have htake (n : Nat) := mt (List.mem_of_mem_take (i := n)) hdigits
  have hdrop (n : Nat) := mt (List.mem_of_mem_drop (i := n)) hdigits
  have htail := mt List.mem_of_mem_tail hdigits
  have hpower := newline_notMem_digits
  simp only [realText, List.mem_append, not_or]
  refine ⟨?_, ?_⟩
  · split <;> decide
  · split_ifs <;> simp_all [zeros]

lemma newline_notMem_toText (x : Number) : '\n' ∉ x.toText := by
  cases x with
  | real x => exact newline_notMem_realText x
  | integer n =>
    rcases toText_cases n with ⟨k, -, ht⟩ | ⟨k, -, -, ht⟩
    · rw [ht]
      exact newline_notMem_digits k
    · rw [ht, List.mem_cons, not_or]
      exact ⟨by decide, newline_notMem_digits k⟩

end Number

namespace Writer

lemma hexDigit_ne_newline : ∀ n < 16, Text.hexDigit n ≠ '\n' := by decide

lemma newline_notMem_escapeChar (c : Char) : '\n' ∉ escapeChar c := by
  unfold escapeChar
  split
  case h_8 =>
    split
    next hc =>
      have h1 := hexDigit_ne_newline (c.toNat / 16) (by omega)
      have h2 := hexDigit_ne_newline (c.toNat % 16) (by omega)
      simp [h1.symm, h2.symm]
    next hc =>
      simp only [List.mem_singleton]
      rintro rfl
      exact hc (by decide)
  all_goals decide

lemma newline_notMem_quote (s : String) : '\n' ∉ quote s := by
  simp [quote, newline_notMem_escapeChar]

mutual

lemma newline_notMem_compact : ∀ v : Value, '\n' ∉ compact v
  | .null => by decide
  | .boolean b => by cases b <;> decide
  | .number n => n.newline_notMem_toText
  | .text s => newline_notMem_quote s
  | .array items => by simp [compact, newline_notMem_items]
  | .object fields => by simp [compact, newline_notMem_fields]

lemma newline_notMem_items (first : Bool) : ∀ items : List Value, '\n' ∉ compactItems first items
  | [] => List.not_mem_nil
  | v :: rest => by
    rw [compactItems, List.mem_append, List.mem_append]
    rintro ((h | h) | h)
    · cases first <;> simp at h
    · exact newline_notMem_compact v h
    · exact newline_notMem_items false rest h

lemma newline_notMem_fields (first : Bool) : ∀ fields : Fields, '\n' ∉ compactFields first fields
  | [] => List.not_mem_nil
  | (k, v) :: rest => by
    rw [compactFields, List.mem_append, List.mem_append, List.mem_append, List.mem_cons]
    rintro (((h | h) | h | h) | h)
    · cases first <;> simp at h
    · exact newline_notMem_quote k h
    · exact absurd h (by decide)
    · exact newline_notMem_compact v h
    · exact newline_notMem_fields false rest h

end

end Writer

end BrowserCheck.Json
