import Mathlib.Tactic.Common

set_option autoImplicit false

namespace BrowserCheck.Text

def unitsOfPoint (n : Nat) : List Nat :=
  if n < 0x10000 then [n] else [0xD800 + (n - 0x10000) / 0x400, 0xDC00 + (n - 0x10000) % 0x400]

def units (s : List Char) : List Nat := s.flatMap fun c => unitsOfPoint c.toNat

def isHigh (u : Nat) : Prop := 0xD800 ≤ u ∧ u < 0xDC00

def isLow (u : Nat) : Prop := 0xDC00 ≤ u ∧ u < 0xE000

instance (u : Nat) : Decidable (isHigh u) := inferInstanceAs (Decidable (_ ∧ _))

instance (u : Nat) : Decidable (isLow u) := inferInstanceAs (Decidable (_ ∧ _))

def ofUnits? : List Nat → Option (List Char)
  | [] => some []
  | u :: rest =>
    if isHigh u then
      match rest with
      | l :: rest =>
        if isLow l then
          (ofUnits? rest).map (Char.ofNat (0x10000 + (u - 0xD800) * 0x400 + (l - 0xDC00)) :: ·)
        else none
      | [] => none
    else if isLow u then none
    else (ofUnits? rest).map (Char.ofNat u :: ·)

lemma not_surrogate (c : Char) : ¬isHigh c.toNat ∧ ¬isLow c.toNat := by
  have hv : c.toNat < 0xD800 ∨ (0xDFFF < c.toNat ∧ c.toNat < 0x110000) := c.valid
  simp only [isHigh, isLow]
  omega

@[simp] lemma units_nil : units [] = [] := rfl

@[simp] lemma units_cons (c : Char) (s : List Char) :
    units (c :: s) = unitsOfPoint c.toNat ++ units s := rfl

lemma ofUnits?_plain {u : Nat} (hh : ¬isHigh u) (hl : ¬isLow u) (us : List Nat) :
    ofUnits? (u :: us) = (ofUnits? us).map (Char.ofNat u :: ·) := by
  rw [ofUnits?.eq_def]
  simp only [if_neg hh, if_neg hl]

lemma ofUnits?_point (c : Char) (us : List Nat) :
    ofUnits? (unitsOfPoint c.toNat ++ us) = (ofUnits? us).map (c :: ·) := by
  obtain ⟨hh, hl⟩ := not_surrogate c
  by_cases hn : c.toNat < 0x10000
  · simp [unitsOfPoint, hn, ofUnits?_plain hh hl]
  · have hv : c.toNat < 0x110000 := by
      have : c.toNat < 0xD800 ∨ (0xDFFF < c.toNat ∧ c.toNat < 0x110000) := c.valid
      omega
    have hhigh : isHigh (0xD800 + (c.toNat - 0x10000) / 0x400) := by simp only [isHigh]; omega
    have hlow : isLow (0xDC00 + (c.toNat - 0x10000) % 0x400) := by simp only [isLow]; omega
    have hsum : 0x10000 + (0xD800 + (c.toNat - 0x10000) / 0x400 - 0xD800) * 0x400 +
        (0xDC00 + (c.toNat - 0x10000) % 0x400 - 0xDC00) = c.toNat := by omega
    simp only [unitsOfPoint, if_neg hn, List.cons_append, List.nil_append, ofUnits?, if_pos hhigh,
      if_pos hlow, hsum, Char.ofNat_toNat]

lemma ofUnits?_units (s : List Char) : ofUnits? (units s) = some s := by
  induction s with
  | nil => rfl
  | cons c s ih => rw [units_cons, ofUnits?_point, ih, Option.map_some]

end BrowserCheck.Text
