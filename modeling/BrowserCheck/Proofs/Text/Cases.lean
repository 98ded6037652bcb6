import Mathlib.Tactic.Common

set_option autoImplicit false

namespace BrowserCheck.Text

lemma toNat_toLower (c : Char) : c.toLower.toNat = if 65 ≤ c.toNat ∧ c.toNat ≤ 90 then c.toNat + 32 else c.toNat := by
  have hrange : c.val ≥ 'A'.val ∧ c.val ≤ 'Z'.val ↔ 65 ≤ c.toNat ∧ c.toNat ≤ 90 := by
    rw [ge_iff_le, UInt32.le_iff_toNat_le, UInt32.le_iff_toNat_le]
    rfl
  delta Char.toLower
  split_ifs with h h' h'
  · have hle : c.val.toNat ≤ 90 := (hrange.mp h).2
    have hshift : ('a'.val - 'A'.val).toNat = 32 := by decide
    change (c.val + ('a'.val - 'A'.val)).toNat = c.val.toNat + 32
    rw [UInt32.toNat_add, hshift]
    omega
  · exact absurd (hrange.mp h) h'
  · exact absurd (hrange.mpr h') h
  · rfl

lemma toNat_toUpper (c : Char) : c.toUpper.toNat = if 97 ≤ c.toNat ∧ c.toNat ≤ 122 then c.toNat - 32 else c.toNat := by
  have hrange : 'a'.val ≤ c.val ∧ c.val ≤ 'z'.val ↔ 97 ≤ c.toNat ∧ c.toNat ≤ 122 := by
    rw [UInt32.le_iff_toNat_le, UInt32.le_iff_toNat_le]
    rfl
  delta Char.toUpper
  split_ifs with h h' h'
  · have hle : 97 ≤ c.val.toNat ∧ c.val.toNat ≤ 122 := hrange.mp h
    have hshift : ('A'.val - 'a'.val).toNat = 4294967264 := by decide
    change (c.val + ('A'.val - 'a'.val)).toNat = c.val.toNat - 32
    rw [UInt32.toNat_add, hshift]
    omega
  · exact absurd (hrange.mp h) h'
  · exact absurd (hrange.mpr h') h
  · rfl

lemma toLower_eq_iff {c x : Char} (hx : x.toLower = x) : c.toLower = x ↔ c = x ∨ c = x.toUpper := by
  have hsmall := congrArg Char.toNat hx
  rw [toNat_toLower] at hsmall
  simp only [← Char.toNat_inj, toNat_toLower, toNat_toUpper]
  split_ifs at * <;> omega

def IsSmall (word : List Char) : Prop := ∀ x ∈ word, x.toLower = x

instance (word : List Char) : Decidable (IsSmall word) := List.decidableBAll _ word

def AnyCase (word text : List Char) : Prop := List.Forall₂ (fun x c => c = x ∨ c = x.toUpper) word text

lemma anyCase_iff {word text : List Char} (hword : IsSmall word) :
    AnyCase word text ↔ text.map Char.toLower = word := by
  constructor
  · intro h
    induction h with
    | nil => rfl
    | cons hc _ ih =>
      obtain ⟨hx, hword⟩ := List.forall_mem_cons.mp hword
      rw [List.map_cons, (toLower_eq_iff hx).mpr hc, ih hword]
  · rintro rfl
    induction text with
    | nil => exact .nil
    | cons c text ih =>
      obtain ⟨hx, hword⟩ := List.forall_mem_cons.mp hword
      exact .cons ((toLower_eq_iff hx).mp rfl) (ih hword)

end BrowserCheck.Text
