import BrowserCheck.Json.Decode
import Mathlib.Tactic.Common
import Mathlib.Data.List.Nodup

set_option autoImplicit false

namespace BrowserCheck.Json

namespace Written

lemma natural?_ofNat {bound n : Nat} (h : n < bound) : natural? bound (.number (.integer n)) = some n := by
  have hn : (0 : Int) ≤ n ∧ (n : Int) < bound := ⟨by omega, by omega⟩
  simp only [natural?, integer?, Option.bind_some, if_pos hn, Int.toNat_natCast]

lemma uint8?_toNat (n : UInt8) : uint8? (.number (.integer n.toNat)) = some n := by
  rw [uint8?, natural?_ofNat n.toNat_lt, Option.map_some, Nat.toUInt8, UInt8.ofNat_toNat]

lemma uint16?_toNat (n : UInt16) : uint16? (.number (.integer n.toNat)) = some n := by
  rw [uint16?, natural?_ofNat n.toNat_lt, Option.map_some, Nat.toUInt16, UInt16.ofNat_toNat]

lemma uint32?_toNat (n : UInt32) : uint32? (.number (.integer n.toNat)) = some n := by
  rw [uint32?, natural?_ofNat n.toNat_lt, Option.map_some, Nat.toUInt32, UInt32.ofNat_toNat]

lemma uint64?_toNat (n : UInt64) : uint64? (.number (.integer n.toNat)) = some n := by
  rw [uint64?, natural?_ofNat n.toNat_lt, Option.map_some, Nat.toUInt64, UInt64.ofNat_toNat]

lemma int32?_toInt (n : Int32) : int32? (.number (.integer n.toInt)) = some n := by
  have hn : -2 ^ 31 ≤ n.toInt ∧ n.toInt < 2 ^ 31 := ⟨n.le_toInt, n.toInt_lt⟩
  simp only [int32?, integer?, Option.bind_some, if_pos hn, Int32.ofInt_toInt]

lemma int64?_toInt (n : Int64) : int64? (.number (.integer n.toInt)) = some n := by
  have hn : -2 ^ 63 ≤ n.toInt ∧ n.toInt < 2 ^ 63 := ⟨n.le_toInt, n.toInt_lt⟩
  simp only [int64?, integer?, Option.bind_some, if_pos hn, Int64.ofInt_toInt]

lemma filter_of_mem {fields : List (String × Written)} (hn : (fields.map Prod.fst).Nodup)
    {f : String × Written} (hf : f ∈ fields) : fields.filter (fun g => g.1 == f.1) = [f] := by
  induction fields with
  | nil => cases hf
  | cons g fields ih =>
    obtain ⟨hg, hn⟩ := List.nodup_cons.mp hn
    rcases List.mem_cons.mp hf with rfl | hf
    · have hrest : fields.filter (fun g => g.1 == f.1) = [] := by
        apply List.filter_eq_nil_iff.mpr
        intro d hd he
        exact hg (List.mem_map.mpr ⟨d, hd, by simpa using he⟩)
      rw [List.filter_cons_of_pos (by simp), hrest]
    · have hne : g.1 ≠ f.1 := fun he => hg (he ▸ List.mem_map_of_mem hf)
      rw [List.filter_cons_of_neg (by simpa using hne), ih hn hf]

lemma field?_of_mem {fields : List (String × Written)} (hn : (fields.map Prod.fst).Nodup)
    {f : String × Written} (hf : f ∈ fields) : field? fields f.1 = some (.given f.2) := by
  rw [field?, filter_of_mem hn hf]

lemma slots?_object (conv : Conventions) (fields : List (String × Written))
    (hn : (fields.map Prod.fst).Nodup) :
    slots? conv (fields.map Prod.fst) (.object fields) = some (fields.map fun f => .given f.2) := by
  suffices h : ∀ part : List (String × Written), (∀ f ∈ part, f ∈ fields) →
      (part.map Prod.fst).mapM (field? fields) = some (part.map fun f => Slot.given f.2) from h fields fun _ h => h
  intro part
  induction part with
  | nil => simp
  | cons f part ih =>
    intro hp
    rw [List.map_cons, List.mapM_cons, field?_of_mem hn (hp f (by simp)), ih fun g hg => hp g (by simp [hg])]
    rfl

lemma list?_map {α : Type} {d : Decoder α} {encode : α → Value} (h : ∀ a, d (ofValue (encode a)) = some a)
    (as : List α) : list? d (ofValue (.array (as.map encode))) = some as := by
  rw [ofValue, list?]
  induction as with
  | nil => simp [ofValue.ofValues]
  | cons a as ih => simp [ofValue.ofValues, h a, ih]

end Written

namespace Slot

variable {α : Type}

@[simp] lemma required_given (d : Decoder α) (w : Written) : (given w).required d = d w := rfl

@[simp] lemma withDefault_given (a : α) (d : Decoder α) (w : Written) : (given w).withDefault a d = d w := rfl

lemma optional_given {d : Decoder α} (encode : α → Value) (h : ∀ a, d (Written.ofValue (encode a)) = some a)
    (hn : ∀ a, encode a ≠ .null) (a : Option α) :
    (given (Written.ofValue (Value.ofOption encode a))).optional d = some a := by
  cases a with
  | none => rfl
  | some a =>
    have ha := h a
    rw [Value.ofOption]
    cases he : encode a with
    | null => exact absurd he (hn a)
    | _ =>
      rw [he] at ha
      simp only [Written.ofValue] at ha ⊢
      rw [optional, ha, Option.map_some]
      simp

end Slot

end BrowserCheck.Json
