import BrowserCheck.Json.Written
import Mathlib.Data.String.Basic
import Mathlib.Data.List.Nodup
import Mathlib.Tactic.Common

set_option autoImplicit false

namespace BrowserCheck.Json

inductive Value.Distinct : Value → Prop where
  | null : Distinct .null
  | boolean (b : Bool) : Distinct (.boolean b)
  | number (n : Number) : Distinct (.number n)
  | text (s : String) : Distinct (.text s)
  | array {items : List Value} (h : ∀ v ∈ items, Distinct v) : Distinct (.array items)
  | object {fields : Fields} (hkeys : (fields.map Prod.fst).Nodup) (h : ∀ f ∈ fields, Distinct f.2) :
      Distinct (.object fields)

namespace Value.Distinct

lemma items {items : List Value} (h : (Value.array items).Distinct) : ∀ v ∈ items, v.Distinct := by
  cases h with
  | array h => exact h

lemma keys_nodup {fields : Fields} (h : (Value.object fields).Distinct) : (fields.map Prod.fst).Nodup := by
  cases h with
  | object hkeys _ => exact hkeys

lemma field {fields : Fields} (h : (Value.object fields).Distinct) {name : String} {v : Value}
    (hf : fields.get? name = some v) : v.Distinct := by
  obtain ⟨before, behind, rfl, -⟩ := List.lookup_eq_some_iff.mp hf
  cases h with
  | object _ h => exact h (name, v) (List.mem_append_right _ List.mem_cons_self)

end Value.Distinct

namespace Fields

def InOrder (fields : Fields) : Prop := (fields.map Prod.fst).Pairwise (· < ·)

lemma InOrder.nodup {fields : Fields} (h : fields.InOrder) : (fields.map Prod.fst).Nodup :=
  h.imp fun hlt => hlt.ne

lemma mem_insert {key : String} {v : Value} {fields : Fields} {f : String × Value} (h : f ∈ insert key v fields) :
    f = (key, v) ∨ f ∈ fields := by
  induction fields with
  | nil => exact .inl (List.mem_singleton.mp h)
  | cons g fields ih =>
    obtain ⟨k, w⟩ := g
    rw [insert] at h
    split at h
    · rcases List.mem_cons.mp h with rfl | h
      · exact .inl rfl
      · exact .inr (List.mem_cons_of_mem _ h)
    · split at h
      · exact List.mem_cons.mp h
      · rcases List.mem_cons.mp h with rfl | h
        · exact .inr List.mem_cons_self
        · exact (ih h).imp_right (List.mem_cons_of_mem _)

lemma InOrder.insert {fields : Fields} (h : fields.InOrder) (key : String) (v : Value) :
    (insert key v fields).InOrder := by
  induction fields with
  | nil => exact List.pairwise_singleton _ _
  | cons g fields ih =>
    obtain ⟨k, w⟩ := g
    obtain ⟨hk, hf⟩ := List.pairwise_cons.mp h
    rw [Fields.insert]
    split
    · next he => exact List.pairwise_cons.mpr ⟨he ▸ hk, hf⟩
    · split
      · next hlt =>
        refine List.pairwise_cons.mpr ⟨fun l hl => ?_, h⟩
        rcases List.mem_cons.mp hl with rfl | hl
        · exact hlt
        · exact lt_trans hlt (hk l hl)
      · next hne hnlt =>
        refine List.pairwise_cons.mpr ⟨fun l hl => ?_, ih hf⟩
        obtain ⟨f, hm, rfl⟩ := List.mem_map.mp hl
        rcases mem_insert hm with rfl | hm
        · exact lt_of_le_of_ne (not_lt.mp hnlt) (Ne.symm hne)
        · exact hk _ (List.mem_map_of_mem hm)

end Fields

end BrowserCheck.Json
