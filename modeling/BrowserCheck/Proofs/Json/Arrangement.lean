import BrowserCheck.Proofs.Json.Typed

set_option autoImplicit false

/-! Two values are the same up to the order of keys when they are the same sorted. A decoder that looks fields up
finds in one what it finds in the other. -/

namespace BrowserCheck.Json

namespace Value

def IsLeaf : Value → Prop
  | .array _ => False
  | .object _ => False
  | _ => True

lemma eq_of_sort {v w : Value} (hw : w.IsLeaf) (h : v.sort = w.sort) : v = w := by
  cases w with
  | array items => exact hw.elim
  | object fields => exact hw.elim
  | _ => cases v <;> simp_all [sort]

lemma array_of_sort {v : Value} {items : List Value} (h : v.sort = (array items).sort) :
    ∃ items', v = .array items' ∧ items'.map sort = items.map sort := by
  rw [sort_array] at h
  cases v with
  | array items' =>
    rw [sort_array] at h
    exact ⟨items', rfl, array.inj h⟩
  | _ => simp [sort] at h

lemma Ordered.sort_eq {v : Value} (h : v.Ordered) : v.sort = v := by
  induction h with
  | array _ ih =>
    rw [sort_array, List.map_congr_left ih, List.map_id']
  | object hkeys _ ih =>
    rw [sort_object]
    refine congrArg Value.object ((sorted_inOrder _).ext hkeys fun name => ?_)
    rw [get?_sorted hkeys.nodup]
    cases hg : Fields.get? _ name with
    | none => rfl
    | some v => exact congrArg some (ih _ (Fields.mem_of_get? hg))
  | _ => rfl

lemma sort_sort (v : Value) : v.sort.sort = v.sort := v.sort_ordered.sort_eq

end Value

structure Fields.Arranges (fields' fields : Fields) : Prop where
  nodup : (fields'.map Prod.fst).Nodup
  distinct : ∀ name v, fields'.get? name = some v → v.Distinct
  alike : ∀ name, (fields'.get? name).map Value.sort = (fields.get? name).map Value.sort

lemma Value.object_of_sort {v : Value} {fields : Fields} (hn : (fields.map Prod.fst).Nodup) (hv : v.Distinct)
    (h : v.sort = (object fields).sort) : ∃ fields' : Fields, v = .object fields' ∧ fields'.Arranges fields := by
  rw [sort_object] at h
  cases v with
  | object fields' =>
    refine ⟨fields', rfl, hv.keys_nodup, fun _ _ => hv.field, fun name => ?_⟩
    rw [sort_object] at h
    rw [← get?_sorted hv.keys_nodup, ← get?_sorted hn, object.inj h]
  | _ => simp [sort] at h

/-- The decoder finds `a` in a value, however the keys are arranged. -/
def Recovers {α : Type} (d : Decoder α) (w : Value) (a : α) : Prop :=
  ∀ v : Value, v.Distinct → v.sort = w.sort → d (.ofValue v) = some a

namespace Recovers

variable {α : Type} {d : Decoder α} {w : Value} {a : α}

lemma leaf (hw : w.IsLeaf) (h : d (.ofValue w) = some a) : Recovers d w a := by
  intro v _ hs
  rwa [Value.eq_of_sort hw hs]

lemma text (s : String) : Recovers Written.text? (.text s) s := leaf trivial rfl

lemma boolean (b : Bool) : Recovers Written.boolean? (.boolean b) b := leaf trivial rfl

lemma uint64 (n : UInt64) : Recovers Written.uint64? (.ofNat n.toNat) n := leaf trivial (Written.uint64?_toNat n)

lemma int32 (n : Int32) : Recovers Written.int32? (.ofInt n.toInt) n := leaf trivial (Written.int32?_toInt n)

lemma int64 (n : Int64) : Recovers Written.int64? (.ofInt n.toInt) n := leaf trivial (Written.int64?_toInt n)

lemma value (hw : w.Ordered) : Recovers Written.value? w w := by
  intro v _ hs
  rw [Written.value?_ofValue, hs, hw.sort_eq]

lemma list {encode : α → Value} {as : List α} (h : ∀ a ∈ as, Recovers d (encode a) a) :
    Recovers (Written.list? d) (.array (as.map encode)) as := by
  intro v hv hs
  obtain ⟨items, rfl, hi⟩ := Value.array_of_sort hs
  have hd := hv.items
  rw [Written.ofValue, Written.ofValues_eq, Written.list?]
  clear hs hv
  induction as generalizing items with
  | nil =>
    obtain rfl : items = [] := List.map_eq_nil_iff.mp hi
    rfl
  | cons a as ih =>
    obtain ⟨ha, has⟩ := List.forall_mem_cons.mp h
    cases items with
    | nil => simp at hi
    | cons v items =>
      obtain ⟨hv, hvs⟩ := List.forall_mem_cons.mp hd
      obtain ⟨hfirst, hrest⟩ := List.cons.inj hi
      rw [List.map_cons, List.mapM_cons, ha v hv hfirst, ih has items hrest hvs]
      rfl

end Recovers

lemma Written.exists_of_list? {α : Type} {d : Decoder α} {w : Written} {as : List α} (h : list? d w = some as) :
    ∀ a ∈ as, ∃ w, d w = some a := by
  cases w with
  | array items =>
    rw [list?] at h
    induction items generalizing as with
    | nil =>
      cases h
      exact List.forall_mem_nil _
    | cons w items ih =>
      rw [List.mapM_cons] at h
      obtain ⟨a, ha, h⟩ := Option.bind_eq_some_iff.mp h
      obtain ⟨rest, hrest, h⟩ := Option.bind_eq_some_iff.mp h
      cases h
      exact List.forall_mem_cons.mpr ⟨⟨w, ha⟩, ih hrest⟩
  | _ => cases h

namespace Slot

variable {α : Type} {d : Decoder α} {w : Written} {a : α}

lemma exists_of_required {s : Slot} (h : s.required d = some a) : ∃ w, d w = some a := by
  cases s with
  | given w => exact ⟨w, h⟩
  | _ => cases h

lemma exists_of_optional {s : Slot} (h : s.optional d = some (some a)) : ∃ w, d w = some a := by
  cases s with
  | given w =>
    cases w with
    | null => cases h
    | _ =>
      obtain ⟨b, hb, he⟩ := Option.map_eq_some_iff.mp h
      cases he
      exact ⟨_, hb⟩
  | _ => cases h

lemma exists_of_nullable {s : Slot} (h : s.nullable d = some (some a)) : ∃ w, d w = some a := by
  cases s with
  | given w =>
    cases w with
    | null => cases h
    | _ =>
      obtain ⟨b, hb, he⟩ := Option.map_eq_some_iff.mp h
      cases he
      exact ⟨_, hb⟩
  | _ => cases h

lemma optional_of_some (hnull : d .null = none) (h : d w = some a) : (given w).optional d = some (some a) := by
  cases w with
  | null =>
    rw [hnull] at h
    cases h
  | _ => exact congrArg (Option.map some) h

lemma nullable_of_some (hnull : d .null = none) (h : d w = some a) : (given w).nullable d = some (some a) := by
  cases w with
  | null =>
    rw [hnull] at h
    cases h
  | _ => exact congrArg (Option.map some) h

end Slot

namespace Fields.Arranges

variable {α : Type} {d : Decoder α} {w : Value} {a : α} {encode : α → Value} {o : Option α}
variable {fields' fields : Fields} {name : String} (h : fields'.Arranges fields)

include h

lemma slots? (conv : Conventions) (names : List String) : (Written.ofValue (.object fields')).slots? conv names =
    some (names.map (Written.slot fields')) :=
  Written.slots?_ofValue h.nodup conv names

lemma slot_of_none (hw : fields.get? name = none) : Written.slot fields' name = .absent := by
  have ha := h.alike name
  rw [hw] at ha
  rw [Written.slot, Option.map_eq_none_iff.mp ha]

lemma exists_field (hw : fields.get? name = some w) :
    ∃ v, fields'.get? name = some v ∧ v.Distinct ∧ v.sort = w.sort := by
  have ha := h.alike name
  rw [hw] at ha
  obtain ⟨v, hv, hs⟩ := Option.map_eq_some_iff.mp ha
  exact ⟨v, hv, h.distinct name v hv, hs⟩

lemma slot_of_recovers (hw : fields.get? name = some w) (hd : Recovers d w a) :
    ∃ v, Written.slot fields' name = .given v ∧ d v = some a := by
  obtain ⟨v, hv, hdist, hs⟩ := h.exists_field hw
  exact ⟨_, by rw [Written.slot, hv], hd v hdist hs⟩

lemma required (hw : fields.get? name = some w) (hd : Recovers d w a) :
    (Written.slot fields' name).required d = some a := by
  obtain ⟨v, hs, hv⟩ := h.slot_of_recovers hw hd
  rw [hs, Slot.required_given, hv]

lemma withDefault (b : α) (hw : fields.get? name = some w) (hd : Recovers d w a) :
    (Written.slot fields' name).withDefault b d = some a := by
  obtain ⟨v, hs, hv⟩ := h.slot_of_recovers hw hd
  rw [hs, Slot.withDefault_given, hv]

lemma slot_of_null (hw : fields.get? name = some .null) : Written.slot fields' name = .given .null := by
  obtain ⟨v, hv, -, hs⟩ := h.exists_field hw
  obtain rfl := Value.eq_of_sort (w := .null) trivial hs
  rw [Written.slot, hv]
  rfl

lemma optional_of_get? (hnull : d .null = none) (hw : fields.get? name = o.map encode)
    (hd : ∀ a, o = some a → Recovers d (encode a) a) : (Written.slot fields' name).optional d = some o := by
  cases o with
  | none =>
    rw [h.slot_of_none hw]
    rfl
  | some a =>
    obtain ⟨v, hs, hv⟩ := h.slot_of_recovers hw (hd a rfl)
    rw [hs, Slot.optional_of_some hnull hv]

lemma optional (hnull : d .null = none) (hw : fields.get? name = some (.ofOption encode o))
    (hd : ∀ a, o = some a → Recovers d (encode a) a) : (Written.slot fields' name).optional d = some o := by
  cases o with
  | none =>
    rw [h.slot_of_null hw]
    rfl
  | some a =>
    obtain ⟨v, hs, hv⟩ := h.slot_of_recovers hw (hd a rfl)
    rw [hs, Slot.optional_of_some hnull hv]

lemma nullable (hnull : d .null = none) (hw : fields.get? name = some (.ofOption encode o))
    (hd : ∀ a, o = some a → Recovers d (encode a) a) : (Written.slot fields' name).nullable d = some o := by
  cases o with
  | none =>
    rw [h.slot_of_null hw]
    rfl
  | some a =>
    obtain ⟨v, hs, hv⟩ := h.slot_of_recovers hw (hd a rfl)
    rw [hs, Slot.nullable_of_some hnull hv]

end Fields.Arranges

end BrowserCheck.Json
