import BrowserCheck.Text.Basic
import Mathlib.Tactic.Common
import Mathlib.Data.List.Basic

set_option autoImplicit false

namespace BrowserCheck.Text

lemma hexValue?_hexDigit : ∀ n < 16, hexValue? (hexDigit n) = some n ∧ hexValue? (hexDigit n).toUpper = some n := by
  decide

def noDigitAhead (rest : List Char) : Prop := ∀ c ∈ rest.head?, c.isDigit = false

@[simp] lemma noDigitAhead_nil : noDigitAhead [] := by simp [noDigitAhead]

@[simp] lemma noDigitAhead_cons (c : Char) (rest : List Char) :
    noDigitAhead (c :: rest) ↔ c.isDigit = false := by simp [noDigitAhead]

lemma toList_toString (n : Nat) : (toString n).toList = Nat.toDigits 10 n := by simp

lemma isDigit_of_mem_digits {n : Nat} {c : Char} (h : c ∈ Nat.toDigits 10 n) : c.isDigit = true :=
  Nat.isDigit_of_mem_toDigits (by decide) (by decide) h

lemma takeWhile_digits (n : Nat) {rest : List Char} (h : noDigitAhead rest) :
    (Nat.toDigits 10 n ++ rest).takeWhile Char.isDigit = Nat.toDigits 10 n := by
  rw [List.takeWhile_append_of_pos fun c hc => isDigit_of_mem_digits hc]
  cases rest with
  | nil => simp
  | cons c rest => simp [(noDigitAhead_cons c rest).mp h]

lemma dropWhile_digits (n : Nat) {rest : List Char} (h : noDigitAhead rest) :
    (Nat.toDigits 10 n ++ rest).dropWhile Char.isDigit = rest := by
  rw [List.dropWhile_append_of_pos fun c hc => isDigit_of_mem_digits hc]
  cases rest with
  | nil => simp
  | cons c rest => simp [(noDigitAhead_cons c rest).mp h]

lemma digits_eq_cons (n : Nat) (hn : 0 < n) :
    ∃ c ds, Nat.toDigits 10 n = c :: ds ∧ c.isDigit = true ∧ c ≠ '0' := by
  induction n using Nat.strongRecOn with
  | ind n ih =>
    by_cases hlt : n < 10
    · refine ⟨n.digitChar, [], Nat.toDigits_of_lt_base hlt, ?_, ?_⟩
      · simpa using hlt
      · intro h
        have hv := congrArg Char.toNat h
        rw [Nat.toNat_digitChar_of_lt_ten hlt, show '0'.toNat = 48 from rfl] at hv
        omega
    · obtain ⟨c, ds, hc, hd, h0⟩ := ih (n / 10) (by omega) (by omega)
      exact ⟨c, ds ++ [(n % 10).digitChar],
        by rw [Nat.toDigits_of_base_le (by decide) (by omega), hc, List.cons_append], hd, h0⟩

def readNumber? (s : List Char) : Option (Nat × List Char) :=
  if s.takeWhile Char.isDigit = [] then none
  else some (Nat.ofDigitChars 10 (s.takeWhile Char.isDigit) 0, s.dropWhile Char.isDigit)

lemma readNumber?_digits (n : Nat) {rest : List Char} (h : noDigitAhead rest) :
    readNumber? (Nat.toDigits 10 n ++ rest) = some (n, rest) := by
  simp only [readNumber?, takeWhile_digits n h, dropWhile_digits n h,
    if_neg Nat.toDigits_ne_nil, Nat.ofDigitChars_ten_toDigits]

lemma decimal?_digits {bound n : Nat} (h : n < bound) : decimal? bound (Nat.toDigits 10 n) = some n := by
  have hdigits : ¬((Nat.toDigits 10 n).isEmpty = true ∨ ¬(Nat.toDigits 10 n).all Char.isDigit = true) := by
    rintro (he | ha)
    · exact Nat.toDigits_ne_nil (List.isEmpty_iff.mp he)
    · exact ha (List.all_eq_true.mpr fun c hc => isDigit_of_mem_digits hc)
  have hvalue : (Nat.toDigits 10 n).foldl (fun (n : Nat) c => 10 * n + (c.toNat - '0'.toNat)) 0 = n :=
    Nat.ofDigitChars_ten_toDigits
  simp only [decimal?, if_neg hdigits, hvalue, if_pos h]

end BrowserCheck.Text
