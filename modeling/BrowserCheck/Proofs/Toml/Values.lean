import BrowserCheck.Proofs.Json.Integers
import BrowserCheck.Proofs.Json.Typed
import BrowserCheck.Proofs.Toml.Strings
import BrowserCheck.Toml.Writer

set_option autoImplicit false

namespace BrowserCheck.Toml

open Json Reader

section Naturals

variable {ds : List Char}

lemma isTokenChar_of_isDigit {c : Char} (h : c.isDigit = true) : isTokenChar c = true := by
  simp [isTokenChar, Char.isAlphanum, h]

lemma grouped_of_digits (hne : ds ≠ []) (hd : ∀ c ∈ ds, c.isDigit = true) : grouped Char.isDigit ds = true := by
  induction ds with
  | nil => exact absurd rfl hne
  | cons c ds ih =>
    obtain ⟨hc, hds⟩ := List.forall_mem_cons.mp hd
    unfold grouped
    split
    · next heq => cases heq
    · next heq =>
      cases heq
      exact hc
    · next heq =>
      cases heq
      exact absurd (hds '_' (by simp)) (by decide)
    · next hne _ heq =>
      cases heq
      rw [hc, ih (fun he => hne (he ▸ rfl)) hds]
      rfl

lemma valueIn_ten (hd : ∀ c ∈ ds, c.isDigit = true) : valueIn 10 ds = naturalOf ds := by
  have hplain : ds.filter (· != '_') = ds := List.filter_eq_self.mpr fun c hc => by
    rw [bne_iff_ne]
    rintro rfl
    exact absurd (hd _ hc) (by decide)
  rw [valueIn, naturalOf, hplain]
  refine List.foldl_ext _ _ _ fun n c hc => ?_
  rw [Text.hexValue?, if_pos (hd c hc), Option.getD_some]

lemma isWhole_digits (n : Nat) : isWhole (Nat.toDigits 10 n) = true := by
  have hgrouped := grouped_of_digits (Nat.toDigits_ne_nil (b := 10) (n := n)) fun c => Text.isDigit_of_mem_digits
  rw [isWhole, hgrouped, Bool.true_and]
  rcases Nat.eq_zero_or_pos n with rfl | hn
  · decide
  · obtain ⟨c, ds, hds, -, hc⟩ := Text.digits_eq_cons n hn
    simp [hds, hc]

lemma integer?_digits {n : Nat} (h : n ≤ greatestInteger) :
    integer? (Nat.toDigits 10 n) = some (.number (.integer n)) := by
  have hd : ∀ c ∈ Nat.toDigits 10 n, c.isDigit = true := fun c => Text.isDigit_of_mem_digits
  have hnot {c : Char} (hc : c.isDigit = false) : c ∉ Nat.toDigits 10 n := fun hm => by simp [hd c hm] at hc
  have hvalue : valueIn 10 (Nat.toDigits 10 n) = n := by rw [valueIn_ten hd, Number.naturalOf_digits]
  have hbound : -2 ^ 63 ≤ (n : Int) ∧ (n : Int) < 2 ^ 63 := by
    rw [greatestInteger] at h
    omega
  have hsign : splitSign (Nat.toDigits 10 n) = (none, Nat.toDigits 10 n) := by
    unfold splitSign
    split
    · next heq => exact absurd (by simp [heq]) (hnot (c := '+') (by decide))
    · next heq => exact absurd (by simp [heq]) (hnot (c := '-') (by decide))
    · rfl
  unfold integer?
  split
  · next heq => exact absurd (by simp [heq]) (hnot (c := 'x') (by decide))
  · next heq => exact absurd (by simp [heq]) (hnot (c := 'o') (by decide))
  · next heq => exact absurd (by simp [heq]) (hnot (c := 'b') (by decide))
  · simpa [hsign, isWhole_digits, hvalue, integerOf?] using hbound.2

lemma scalar?_digits {n : Nat} (h : n ≤ greatestInteger) :
    scalar? (Nat.toDigits 10 n) = some (.number (.integer n)) := by
  have hword (w : String) (c : Char) (hc : c ∈ w.toList) (hdigit : c.isDigit = false) : Nat.toDigits 10 n ≠ w.toList :=
    fun he => by simp [Text.isDigit_of_mem_digits (he ▸ hc)] at hdigit
  have hnone : word? (Nat.toDigits 10 n) = none := by
    rw [word?, if_neg (hword "true" 't' (by decide) (by decide)), if_neg (hword "false" 'f' (by decide) (by decide))]
  rw [scalar?, hnone, integer?_digits h]
  rfl

end Naturals

section Scalars

variable {scalar : List Char}

lemma token_line (hs : ∀ c ∈ scalar, isTokenChar c = true) (rest : List Char) :
    token (scalar ++ '\n' :: rest) = (scalar, '\n' :: rest) := by
  have hend : isTokenChar '\n' = false := by decide
  have htake : (scalar ++ '\n' :: rest).takeWhile isTokenChar = scalar := by
    rw [List.takeWhile_append_of_pos hs, List.takeWhile_cons_of_neg (by simp [hend]), List.append_nil]
  have hdrop : (scalar ++ '\n' :: rest).dropWhile isTokenChar = '\n' :: rest := by
    rw [List.dropWhile_append_of_pos hs, List.dropWhile_cons_of_neg (by simp [hend])]
  unfold token
  dsimp only
  rw [htake, hdrop]
  split
  · next heq => cases heq
  · rfl

lemma value?_scalar {w : Written} (hne : scalar ≠ []) (hs : ∀ c ∈ scalar, isTokenChar c = true)
    (hw : scalar? scalar = some w) (depth : Nat) (rest : List Char) :
    value? (depth + 1) (scalar ++ '\n' :: rest) = some (w, '\n' :: rest) := by
  have htoken := token_line hs rest
  cases scalar with
  | nil => exact absurd rfl hne
  | cons c more =>
    have hc := hs c List.mem_cons_self
    have hother (x : Char) (hx : isTokenChar x = false) : c ≠ x := fun he => by simp [he ▸ hc] at hx
    rw [List.cons_append] at htoken ⊢
    rw [value?, if_neg (not_or.mpr ⟨hother _ (by decide), hother _ (by decide)⟩), if_neg (hother _ (by decide)),
      if_neg (hother _ (by decide)), htoken, hw]
    rfl

end Scalars

section Texts

lemma writeText_cons (s : List Char) : ∃ c more, writeText s = c :: more ∧ (c = '"' ∨ c = '\'') := by
  unfold writeText
  split
  · exact ⟨_, _, rfl, .inl rfl⟩
  · exact ⟨_, _, rfl, .inr rfl⟩
  · exact ⟨_, _, rfl, .inl rfl⟩
  · exact ⟨_, _, rfl, .inr rfl⟩

lemma value?_text (s : String) {rest : List Char} (hrest : ∀ c ∈ rest.head?, c ≠ '"' ∧ c ≠ '\'') (depth : Nat) :
    value? (depth + 1) (writeText s.toList ++ rest) = some (.text s, rest) := by
  have hread := string?_writeText s hrest
  obtain ⟨c, more, htext, hc⟩ := writeText_cons s.toList
  rw [htext, List.cons_append] at hread ⊢
  rw [value?, if_pos hc, hread]
  rfl

lemma skipGap_text (s rest : List Char) : skipGap false (writeText s ++ rest) = some (writeText s ++ rest) := by
  obtain ⟨c, more, htext, rfl | rfl⟩ := writeText_cons s
  · rw [htext]
    rfl
  · rw [htext]
    rfl

variable {value : List Char → Option (Written × List Char)}
variable (hvalue : ∀ (s : String) (rest : List Char), (∀ c ∈ rest.head?, c ≠ '"' ∧ c ≠ '\'') →
  value (writeText s.toList ++ rest) = some (.text s, rest))

include hvalue

lemma items?_text {gap : List Char} (s : String) {x : Char} (hx : x = ']' ∨ x = ',') (rest : List Char)
    (hgap : skipGap false (gap ++ (writeText s.toList ++ x :: rest)) = some (writeText s.toList ++ x :: rest)) :
    items? value (gap ++ (writeText s.toList ++ x :: rest)) =
      if x = ']' then some ([.text s], rest) else (items? value rest).map fun p => (.text s :: p.1, p.2) := by
  have hread := hvalue s (x :: rest) (by rcases hx with rfl | rfl <;> simp)
  have hlength : rest.length < (gap ++ (writeText s.toList ++ x :: rest)).length := by
    simp only [List.length_append, List.length_cons]
    omega
  have hafter : skipGap false (x :: rest) = some (x :: rest) := by rcases hx with rfl | rfl <;> rfl
  rw [items?, hgap]
  obtain ⟨c, more, htext, hc⟩ := writeText_cons s.toList
  split
  · next heq => cases heq
  · next heq =>
    rw [htext] at heq
    rcases hc with rfl | rfl <;> cases heq
  · next heq =>
    cases heq
    rw [hread]
    dsimp only
    rw [hafter]
    rcases hx with rfl | rfl
    · rfl
    · rw [if_neg (by decide)]
      exact if_pos hlength

lemma items?_lines (ss : List String) (rest : List Char) :
    items? value ('\n' :: (ss.flatMap writeItem ++ ']' :: rest)) = some (ss.map Written.text, rest) := by
  induction ss with
  | nil =>
    rw [items?]
    rfl
  | cons s ss ih =>
    have hgap := skipGap_text s.toList (',' :: '\n' :: (ss.flatMap writeItem ++ ']' :: rest))
    have hitem : '\n' :: ((s :: ss).flatMap writeItem ++ ']' :: rest) = "\n    ".toList ++
        (writeText s.toList ++ ',' :: ('\n' :: (ss.flatMap writeItem ++ ']' :: rest))) := by
      simp [writeItem]
    rw [hitem, items?_text hvalue s (.inr rfl) _ hgap, ih, if_neg (by decide)]
    rfl

lemma items?_writeTexts (ss : List String) (rest : List Char) : ∃ more,
    writeTexts ss ++ rest = '[' :: more ∧ items? value more = some (ss.map Written.text, rest) := by
  match ss with
  | [] =>
    refine ⟨']' :: rest, rfl, ?_⟩
    rw [items?]
    rfl
  | [s] =>
    refine ⟨writeText s.toList ++ ']' :: rest, by simp [writeTexts], ?_⟩
    exact @items?_text value hvalue [] s ']' (.inl rfl) rest (skipGap_text s.toList _)
  | s :: s' :: ss =>
    refine ⟨'\n' :: ((s :: s' :: ss).flatMap writeItem ++ ']' :: rest), by simp [writeTexts], ?_⟩
    exact items?_lines hvalue _ rest

end Texts

lemma value?_texts (ss : List String) (depth : Nat) (rest : List Char) :
    value? (depth + 2) (writeTexts ss ++ rest) = some (.array (ss.map .text), rest) := by
  obtain ⟨more, htext, hread⟩ := @items?_writeTexts (value? (depth + 1))
    (fun s _ h => value?_text s h depth) ss rest
  rw [htext, value?, if_neg (by decide), if_pos rfl, if_neg (by omega), hread]
  rfl

namespace Entry

def value : Entry → Value
  | .text s => .text s
  | .natural n => .ofNat n
  | .boolean b => .boolean b
  | .texts ss => .ofTexts ss

lemma value?_write {e : Entry} {text : List Char} (h : e.write? = some text) (rest : List Char) :
    value? Toml.Reader.depthLimit (text ++ '\n' :: rest) = some (.ofValue e.value, '\n' :: rest) := by
  cases e with
  | text s =>
    cases h
    exact value?_text s (by simp) _
  | natural n =>
    rw [write?] at h
    split_ifs at h with hn
    cases h
    rw [Text.toList_toString]
    refine value?_scalar Nat.toDigits_ne_nil (fun c hc => isTokenChar_of_isDigit ?_) (scalar?_digits hn) _ rest
    exact Text.isDigit_of_mem_digits hc
  | boolean b =>
    cases h
    cases b
    · exact value?_scalar (by decide) (List.all_eq_true.mp (by decide)) rfl _ rest
    · exact value?_scalar (by decide) (List.all_eq_true.mp (by decide)) rfl _ rest
  | texts ss =>
    cases h
    have hvalues : Written.ofValue (Value.ofTexts ss) = .array (ss.map .text) := by
      rw [Value.ofTexts, Written.ofValue, Written.ofValues_eq, List.map_map]
      rfl
    rw [value, hvalues]
    exact value?_texts ss _ _

end Entry

end BrowserCheck.Toml
