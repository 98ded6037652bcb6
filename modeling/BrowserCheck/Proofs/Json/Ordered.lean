import BrowserCheck.Proofs.Json.Distinct
import Mathlib.Data.List.Sort

set_option autoImplicit false

namespace BrowserCheck.Json

namespace Fields

variable {fields : Fields}

lemma get?_cons (key : String) (v : Value) (fields : Fields) (name : String) :
    get? ((key, v) :: fields) name = if name = key then some v else fields.get? name := by
  rw [get?, List.lookup_cons]
  by_cases h : name = key
  · simp [h]
  · have hb : (name == key) = false := beq_eq_false_iff_ne.mpr h
    simp only [hb, if_neg h, get?]

lemma get?_eq_none_of_notMem {name : String} (h : name ∉ fields.map Prod.fst) : fields.get? name = none := by
  apply List.lookup_eq_none_iff.mpr
  intro f hf
  have hne : name ≠ f.1 := fun he => h (he ▸ List.mem_map_of_mem hf)
  simpa using hne

lemma mem_of_get? {name : String} {v : Value} (h : fields.get? name = some v) : (name, v) ∈ fields := by
  obtain ⟨before, behind, rfl, -⟩ := List.lookup_eq_some_iff.mp h
  exact List.mem_append_right _ List.mem_cons_self

lemma get?_of_mem (hn : (fields.map Prod.fst).Nodup) {name : String} {v : Value} (h : (name, v) ∈ fields) :
    fields.get? name = some v := by
  induction fields with
  | nil => cases h
  | cons f fields ih =>
    obtain ⟨k, w⟩ := f
    obtain ⟨hk, hn⟩ := List.nodup_cons.mp hn
    rw [get?_cons]
    rcases List.mem_cons.mp h with he | hm
    · cases he
      exact if_pos rfl
    · have hm' : name ∈ fields.map Prod.fst := List.mem_map_of_mem (f := Prod.fst) hm
      have hne : name ≠ k := fun he => hk (he ▸ hm')
      rw [if_neg hne, ih hn hm]

lemma get?_filter (p : String → Bool) (fields : Fields) (name : String) :
    get? (fields.filter fun f => p f.1) name = if p name then fields.get? name else none := by
  induction fields with
  | nil => simp [get?]
  | cons f fields ih =>
    obtain ⟨k, v⟩ := f
    by_cases h : name = k
    · subst h
      cases hp : p name <;> simp [hp, get?_cons, ih]
    · cases hp : p k <;> simp [hp, get?_cons, ih, h]

lemma get?_map (g : String → Value → Value) (fields : Fields) (name : String) :
    get? (fields.map fun f => (f.1, g f.1 f.2)) name = (fields.get? name).map (g name) := by
  induction fields with
  | nil => rfl
  | cons f fields ih =>
    obtain ⟨k, v⟩ := f
    rw [List.map_cons, get?_cons, get?_cons, ih]
    by_cases h : name = k <;> simp [h]

lemma get?_insert (key : String) (v : Value) (fields : Fields) (name : String) :
    (fields.insert key v).get? name = if name = key then some v else fields.get? name := by
  induction fields with
  | nil => exact get?_cons key v [] name
  | cons f fields ih =>
    obtain ⟨k, w⟩ := f
    rw [insert]
    by_cases hk : key = k
    · subst hk
      rw [if_pos rfl, get?_cons, get?_cons]
      by_cases h : name = key <;> simp [h]
    · rw [if_neg hk]
      by_cases hlt : key < k
      · rw [if_pos hlt, get?_cons]
      · rw [if_neg hlt, get?_cons, get?_cons, ih]
        by_cases h : name = k
        · subst h
          simp [Ne.symm hk]
        · simp [h]

lemma InOrder.filter (h : fields.InOrder) (p : String × Value → Bool) : InOrder (fields.filter p) :=
  List.Pairwise.sublist (List.filter_sublist.map Prod.fst) h

lemma InOrder.map (h : fields.InOrder) (g : String → Value → Value) :
    InOrder (fields.map fun f => (f.1, g f.1 f.2)) := by
  rw [InOrder, List.map_map]
  exact h

lemma InOrder.ext {fields' : Fields} (h : fields.InOrder) (h' : fields'.InOrder)
    (hget : ∀ name, fields.get? name = fields'.get? name) : fields = fields' := by
  have hirrefl : Std.Irrefl fun f g : String × Value => f.1 < g.1 := ⟨fun f => lt_irrefl f.1⟩
  have hantisymm : Std.Antisymm fun f g : String × Value => f.1 < g.1 := ⟨fun f g hf hg => (lt_asymm hf hg).elim⟩
  refine (List.pairwise_map.mp h).eq_of_mem_iff (List.pairwise_map.mp h') fun f => ?_
  constructor
  · intro hf
    exact mem_of_get? ((hget f.1).symm.trans (get?_of_mem h.nodup hf))
  · intro hf
    exact mem_of_get? ((hget f.1).trans (get?_of_mem h'.nodup hf))

end Fields

inductive Value.Ordered : Value → Prop where
  | null : Ordered .null
  | boolean (b : Bool) : Ordered (.boolean b)
  | number (n : Number) : Ordered (.number n)
  | text (s : String) : Ordered (.text s)
  | array {items : List Value} (h : ∀ v ∈ items, Ordered v) : Ordered (.array items)
  | object {fields : Fields} (hkeys : fields.InOrder) (h : ∀ f ∈ fields, Ordered f.2) : Ordered (.object fields)

namespace Value

namespace Ordered

lemma items {items : List Value} (h : (Value.array items).Ordered) : ∀ v ∈ items, v.Ordered := by
  cases h with
  | array h => exact h

lemma inOrder {fields : Fields} (h : (Value.object fields).Ordered) : fields.InOrder := by
  cases h with
  | object hkeys _ => exact hkeys

lemma fields {fields : Fields} (h : (Value.object fields).Ordered) : ∀ f ∈ fields, f.2.Ordered := by
  cases h with
  | object _ h => exact h

lemma field {fields : Fields} (h : (Value.object fields).Ordered) {name : String} {v : Value}
    (hf : fields.get? name = some v) : v.Ordered :=
  h.fields (name, v) (Fields.mem_of_get? hf)

lemma distinct {v : Value} (h : v.Ordered) : v.Distinct := by
  induction h with
  | null => exact .null
  | boolean b => exact .boolean b
  | number n => exact .number n
  | text s => exact .text s
  | array _ ih => exact .array ih
  | object hkeys _ ih => exact .object hkeys.nodup ih

end Ordered

lemma sortItems_eq (items : List Value) : sort.sortItems items = items.map sort := by
  induction items with
  | nil => rfl
  | cons v items ih => rw [sort.sortItems, ih, List.map_cons]

lemma sort_array (items : List Value) : (array items).sort = .array (items.map sort) := by
  rw [sort, sortItems_eq]

lemma get?_sortFields {fields : Fields} (hn : (fields.map Prod.fst).Nodup) (done : Fields) (name : String) :
    Fields.get? (sort.sortFields done fields) name = ((fields.get? name).map sort).or (done.get? name) := by
  induction fields generalizing done with
  | nil => rfl
  | cons f fields ih =>
    obtain ⟨k, v⟩ := f
    obtain ⟨hk, hn⟩ := List.nodup_cons.mp hn
    rw [sort.sortFields, ih hn, Fields.get?_cons, Fields.get?_insert]
    by_cases h : name = k
    · subst h
      have hnone : Fields.get? fields name = none := Fields.get?_eq_none_of_notMem hk
      simp [hnone]
    · simp [h]

end Value

namespace Written

open Value (Ordered)

mutual

lemma value?_ofValue : ∀ v : Value, (ofValue v).value? = some v.sort
  | .null => rfl
  | .boolean _ => rfl
  | .number _ => rfl
  | .text _ => rfl
  | .array items => by rw [ofValue, value?, values?_ofValues items, Option.map_some, Value.sort]
  | .object fields => by rw [ofValue, value?, fields?_ofFields [] fields, Option.map_some, Value.sort]

lemma values?_ofValues : ∀ items : List Value,
    value?.values? (ofValue.ofValues items) = some (Value.sort.sortItems items)
  | [] => rfl
  | v :: items => by
    rw [ofValue.ofValues, value?.values?, value?_ofValue v, Option.bind_some, values?_ofValues items, Option.map_some,
      Value.sort.sortItems]

lemma fields?_ofFields : ∀ done fields : Fields,
    value?.fields? done (ofValue.ofFields fields) = some (Value.sort.sortFields done fields)
  | _, [] => rfl
  | done, (k, v) :: fields => by
    rw [ofValue.ofFields, value?.fields?, value?_ofValue v, Option.bind_some,
      fields?_ofFields (done.insert k v.sort) fields, Value.sort.sortFields]

end

mutual

lemma ordered_of_value? : ∀ {w : Written} {v : Value}, w.value? = some v → v.Ordered
  | .null, _, h => by cases h; exact .null
  | .boolean b, _, h => by cases h; exact .boolean b
  | .number n, _, h => by cases h; exact .number n
  | .text s, _, h => by cases h; exact .text s
  | .array items, _, h => by
    obtain ⟨vs, hvs, rfl⟩ := Option.map_eq_some_iff.mp h
    exact .array (ordered_of_values? hvs)
  | .object fields, _, h => by
    obtain ⟨fs, hfs, rfl⟩ := Option.map_eq_some_iff.mp h
    have ho : Fields.InOrder [] := List.Pairwise.nil
    obtain ⟨hkeys, hd⟩ := ordered_of_fields? hfs ho nofun
    exact .object hkeys hd
  | .unreadable, _, h => by cases h

lemma ordered_of_values? : ∀ {ws : List Written} {vs : List Value}, value?.values? ws = some vs →
    ∀ v ∈ vs, v.Ordered
  | [], _, h => by cases h; exact nofun
  | w :: ws, _, h => by
    obtain ⟨v, hv, h⟩ := Option.bind_eq_some_iff.mp h
    obtain ⟨vs, hvs, rfl⟩ := Option.map_eq_some_iff.mp h
    exact List.forall_mem_cons.mpr ⟨ordered_of_value? hv, ordered_of_values? hvs⟩

lemma ordered_of_fields? : ∀ {ws : List (String × Written)} {done fs : Fields},
    value?.fields? done ws = some fs → done.InOrder → (∀ f ∈ done, f.2.Ordered) →
    fs.InOrder ∧ ∀ f ∈ fs, f.2.Ordered
  | [], _, _, h, ho, hd => by cases h; exact ⟨ho, hd⟩
  | (k, w) :: ws, done, _, h, ho, hd => by
    obtain ⟨v, hv, h⟩ := Option.bind_eq_some_iff.mp h
    refine ordered_of_fields? h (ho.insert k v) fun f hf => ?_
    rcases Fields.mem_insert hf with rfl | hf
    · exact ordered_of_value? hv
    · exact hd f hf

end

end Written

namespace Value

lemma sort_ordered (v : Value) : v.sort.Ordered := Written.ordered_of_value? (Written.value?_ofValue v)

lemma sort_object (fields : Fields) : (object fields).sort = .object (sort.sortFields [] fields) := by rw [sort]

lemma sorted_inOrder (fields : Fields) : Fields.InOrder (sort.sortFields [] fields) := by
  have ho := (object fields).sort_ordered
  rw [sort_object] at ho
  exact ho.inOrder

lemma get?_sorted {fields : Fields} (hn : (fields.map Prod.fst).Nodup) (name : String) :
    Fields.get? (sort.sortFields [] fields) name = (fields.get? name).map sort := by
  rw [get?_sortFields hn]
  exact Option.or_none

end Value

end BrowserCheck.Json
