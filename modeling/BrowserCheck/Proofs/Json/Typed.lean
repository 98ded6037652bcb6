import BrowserCheck.Proofs.Json.Ordered
import BrowserCheck.Proofs.Json.Records

set_option autoImplicit false

/-! What a decoder sees of a value whose keys are told apart: a field is there as it is looked up, and a tag is
found wherever it stands. -/

namespace BrowserCheck.Json

lemma Value.text?_eq_some {v : Value} {s : String} (h : v.text? = some s) : v = .text s := by
  cases v <;> cases h
  rfl

lemma Slot.required_bind {α β : Type} (d : Decoder α) (f : α → β) (s : Slot) :
    ((s.required d).bind fun a => some (f a)) = s.required fun w => (d w).map f := by
  cases s with
  | given w => exact Option.map_eq_bind.symm
  | absent => rfl
  | beyond => rfl

namespace Written

lemma uint64?_eq_some {v : Value} {n : UInt64} (h : uint64? (ofValue v) = some n) :
    v = .number (.integer n.toNat) := by
  obtain ⟨m, hm, rfl⟩ := Option.map_eq_some_iff.mp h
  obtain ⟨i, hi, hm⟩ := Option.bind_eq_some_iff.mp hm
  split at hm
  case isFalse => cases hm
  next hr =>
    obtain rfl := Option.some.inj hm
    have ht : i.toNat.toUInt64.toNat = i.toNat := UInt64.toNat_ofNat_of_lt' (by simp only [UInt64.size]; omega)
    have hv : v = .number (.integer i) := by
      cases v with
      | number x =>
        cases x <;> cases hi
        rfl
      | _ => cases hi
    rw [hv, ht, Int.toNat_of_nonneg hr.1]

lemma ofValues_eq (vs : List Value) : ofValue.ofValues vs = vs.map ofValue := by
  induction vs with
  | nil => rfl
  | cons v vs ih => rw [ofValue.ofValues, ih, List.map_cons]

lemma ofFields_eq (fields : Fields) : ofValue.ofFields fields = fields.map fun f => (f.1, ofValue f.2) := by
  induction fields with
  | nil => rfl
  | cons f fields ih => rw [ofValue.ofFields, ih, List.map_cons]

lemma text?_ofValue (v : Value) : text? (ofValue v) = v.text? := by
  cases v <;> rfl

variable {fields : Fields}

lemma keys_ofFields : (ofValue.ofFields fields).map Prod.fst = fields.map Prod.fst := by
  rw [ofFields_eq, List.map_map]
  rfl

lemma filter_ofFields_of_none {name : String} (h : fields.get? name = none) :
    (ofValue.ofFields fields).filter (·.1 == name) = [] := by
  have hne := List.lookup_eq_none_iff.mp h
  rw [List.filter_eq_nil_iff, ofFields_eq]
  rintro g hg he
  obtain ⟨f, hf, rfl⟩ := List.mem_map.mp hg
  have hn := hne f hf
  simp only [beq_iff_eq] at he
  simp [he] at hn

lemma filter_ofFields_of_some (hn : (fields.map Prod.fst).Nodup) {name : String} {v : Value}
    (h : fields.get? name = some v) :
    (ofValue.ofFields fields).filter (·.1 == name) = [(name, ofValue v)] := by
  obtain ⟨before, behind, he, -⟩ := List.lookup_eq_some_iff.mp h
  have hm : (name, v) ∈ fields := he ▸ List.mem_append_right _ List.mem_cons_self
  have hw : (name, ofValue v) ∈ ofValue.ofFields fields := by
    rw [ofFields_eq]
    exact List.mem_map_of_mem hm
  exact filter_of_mem (keys_ofFields ▸ hn) hw

lemma field?_filter {ws : List (String × Written)} {tag name : String} (h : name ≠ tag) :
    field? (ws.filter (·.1 != tag)) name = field? ws name := by
  have hf : (ws.filter (·.1 != tag)).filter (·.1 == name) = ws.filter (·.1 == name) := by
    rw [List.filter_filter]
    refine List.filter_congr fun w _ => ?_
    by_cases he : w.1 = name
    · simp [he, h]
    · simp [he]
  rw [field?, hf, field?]

def slot (fields : Fields) (name : String) : Slot :=
  match fields.get? name with
  | some v => .given (ofValue v)
  | none => .absent

lemma required_slot {α : Type} (d : Decoder α) (name : String) :
    (slot fields name).required d = (fields.get? name).bind fun v => d (ofValue v) := by
  rw [slot]
  cases fields.get? name <;> rfl

lemma field?_ofFields (hn : (fields.map Prod.fst).Nodup) (name : String) :
    field? (ofValue.ofFields fields) name = some (slot fields name) := by
  rw [field?, slot]
  cases h : fields.get? name with
  | none => rw [filter_ofFields_of_none h]
  | some v => rw [filter_ofFields_of_some hn h]

lemma slots?_of_field? {ws : List (String × Written)} {names : List String} (conv : Conventions)
    (h : ∀ name ∈ names, field? ws name = some (slot fields name)) :
    slots? conv names (.object ws) = some (names.map (slot fields)) := by
  rw [slots?]
  induction names with
  | nil => rfl
  | cons name names ih =>
    rw [List.mapM_cons, h name List.mem_cons_self, ih fun n hn => h n (List.mem_cons_of_mem _ hn)]
    rfl

lemma slots?_ofValue (hn : (fields.map Prod.fst).Nodup) (conv : Conventions) (names : List String) :
    slots? conv names (ofValue (.object fields)) = some (names.map (slot fields)) :=
  slots?_of_field? conv fun name _ => field?_ofFields hn name

def untagged (tag : String) (fields : Fields) : Written :=
  .object ((ofValue.ofFields fields).filter (·.1 != tag))

lemma slots?_untagged (hn : (fields.map Prod.fst).Nodup) (conv : Conventions) {tag : String} {names : List String}
    (h : tag ∉ names) : slots? conv names (untagged tag fields) = some (names.map (slot fields)) :=
  slots?_of_field? conv fun name hm => by
    have hne : name ≠ tag := fun he => h (he ▸ hm)
    rw [field?_filter hne, field?_ofFields hn]

lemma tagged?_object {ws : List (String × Written)} {v : Value} (h : (Written.object ws).value? = some v)
    (tag : String) : tagged? tag (.object ws) =
      match ws.filter (·.1 == tag) with
      | [(_, .text s)] => some (s, .object (ws.filter (·.1 != tag)))
      | _ => none := by
  rw [tagged?, h]
  rfl

lemma tagged?_ofValue (hn : (fields.map Prod.fst).Nodup) (tag : String) :
    tagged? tag (ofValue (.object fields)) =
      ((fields.get? tag).bind Value.text?).map fun s => (s, untagged tag fields) := by
  refine (tagged?_object (value?_ofValue (.object fields)) tag).trans ?_
  cases h : fields.get? tag with
  | none =>
    rw [filter_ofFields_of_none h]
    rfl
  | some v =>
    rw [filter_ofFields_of_some hn h]
    cases v <;> rfl

lemma tagged?_listed (key tag : String) (rest : List Value) :
    tagged? key (ofValue (.array (.text tag :: rest))) = some (tag, .array (rest.map ofValue)) := by
  have hv := value?_ofValue (.array (.text tag :: rest))
  rw [ofValue, ofValues_eq, List.map_cons, ofValue] at hv ⊢
  rw [tagged?, hv]
  rfl

end Written

end BrowserCheck.Json
