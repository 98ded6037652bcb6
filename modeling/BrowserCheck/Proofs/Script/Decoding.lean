import BrowserCheck.Proofs.Json.Distinct
import BrowserCheck.Proofs.Json.Typed
import BrowserCheck.Proofs.Script.Grammar
import BrowserCheck.Script.Codec

set_option autoImplicit false

namespace BrowserCheck

open Json

namespace ActionKind

lemma ofTag?_eq_some_iff {tag : String} {kind : ActionKind} : ofTag? tag = some kind ↔ tag = kind.tag := by
  constructor
  · intro h
    have he : (kind.tag == tag) = true := List.find?_some (p := fun k : ActionKind => k.tag == tag) h
    exact (eq_of_beq he).symm
  · rintro rfl
    cases kind <;> decide

end ActionKind

namespace Action

variable {fields : Fields}

def decodeContent (kind : ActionKind) (w : Written) : Option Action :=
  match kind with
  | .goTo => w.text?.map .goTo
  | .click => w.text?.map .click
  | .sleep => w.uint64?.map .sleep

lemma decodeAs_of_slots? {kind : ActionKind} {w : Written} {s : Slot}
    (h : w.slots? .json [kind.fieldName] = some [s]) : decodeAs kind w = s.required (decodeContent kind) := by
  cases kind with
  | goTo =>
    have hu : w.slots? .json ["url"] = some [s] := h
    rw [decodeAs, hu]
    exact Slot.required_bind Written.text? goTo s
  | click =>
    have hs : w.slots? .json ["selector"] = some [s] := h
    rw [decodeAs, hs]
    exact Slot.required_bind Written.text? click s
  | sleep =>
    have hm : w.slots? .json ["milliseconds"] = some [s] := h
    rw [decodeAs, hm]
    exact Slot.required_bind Written.uint64? sleep s

lemma decodeAs_untagged (hn : (fields.map Prod.fst).Nodup) (kind : ActionKind) :
    decodeAs kind (Written.untagged "type" fields) =
      (fields.get? kind.fieldName).bind fun v => decodeContent kind (.ofValue v) := by
  have hs : (Written.untagged "type" fields).slots? .json [kind.fieldName] =
      some [Written.slot fields kind.fieldName] :=
    Written.slots?_untagged hn .json (by cases kind <;> decide)
  rw [decodeAs_of_slots? hs, Written.required_slot]

lemma decode?_object (hn : (fields.map Prod.fst).Nodup) : decode? (.ofValue (.object fields)) =
    ((fields.get? "type").bind Value.text?).bind fun tag => (ActionKind.ofTag? tag).bind fun kind =>
      (fields.get? kind.fieldName).bind fun v => decodeContent kind (.ofValue v) := by
  rw [decode?, Written.tagged?_ofValue hn]
  cases (fields.get? "type").bind Value.text? with
  | none => rfl
  | some tag =>
    change ((ActionKind.ofTag? tag).bind fun kind => decodeAs kind (Written.untagged "type" fields)) = _
    simp only [decodeAs_untagged hn, Option.bind_some]

lemma decodeContent_of_content {kind : ActionKind} {v : Value} {a : Action} (h : Content kind v a) :
    decodeContent kind (.ofValue v) = some a ∧ ∀ ms, a = .sleep ms → ms.toNat ≤ 2 ^ 53 - 1 := by
  cases h with
  | goTo url => exact ⟨rfl, nofun⟩
  | click selector => exact ⟨rfl, nofun⟩
  | sleep n h =>
    have hn : n.toUInt64.toNat = n := UInt64.toNat_ofNat_of_lt' (by simp only [UInt64.size]; omega)
    refine ⟨?_, ?_⟩
    · have hd := Written.uint64?_toNat n.toUInt64
      rw [hn] at hd
      rw [decodeContent, Written.ofValue, hd, Option.map_some]
    · rintro ms hm
      obtain rfl := Action.sleep.inj hm
      rwa [hn]

lemma content_of_decodeContent {kind : ActionKind} {v : Value} {a : Action}
    (h : decodeContent kind (.ofValue v) = some a) (hb : ∀ ms, a = .sleep ms → ms.toNat ≤ 2 ^ 53 - 1) :
    Content kind v a := by
  cases kind with
  | goTo =>
    obtain ⟨s, hs, rfl⟩ := Option.map_eq_some_iff.mp h
    cases v <;> cases hs
    exact .goTo s
  | click =>
    obtain ⟨s, hs, rfl⟩ := Option.map_eq_some_iff.mp h
    cases v <;> cases hs
    exact .click s
  | sleep =>
    obtain ⟨ms, hm, rfl⟩ := Option.map_eq_some_iff.mp h
    have hc := Content.sleep ms.toNat (hb ms rfl)
    rw [Written.uint64?_eq_some hm]
    rwa [Nat.toUInt64, UInt64.ofNat_toNat] at hc

lemma decode?_of_describes (hn : (fields.map Prod.fst).Nodup) {a : Action} (h : Describes (.object fields) a) :
    decode? (.ofValue (.object fields)) = some a ∧ ∀ ms, a = .sleep ms → ms.toNat ≤ 2 ^ 53 - 1 := by
  cases h with
  | @object _ kind v _ htype hfield hc =>
    have hk : ActionKind.ofTag? kind.tag = some kind := ActionKind.ofTag?_eq_some_iff.mpr rfl
    obtain ⟨hd, hb⟩ := decodeContent_of_content hc
    refine ⟨?_, hb⟩
    rw [decode?_object hn, htype, Option.bind_some, Value.text?, Option.bind_some, hk, Option.bind_some, hfield,
      Option.bind_some, hd]

lemma describes_of_decode? (hn : (fields.map Prod.fst).Nodup) {a : Action}
    (h : decode? (.ofValue (.object fields)) = some a) (hb : ∀ ms, a = .sleep ms → ms.toNat ≤ 2 ^ 53 - 1) :
    Describes (.object fields) a := by
  rw [decode?_object hn] at h
  obtain ⟨tag, ht, h⟩ := Option.bind_eq_some_iff.mp h
  obtain ⟨kind, hk, h⟩ := Option.bind_eq_some_iff.mp h
  obtain ⟨v, hv, hd⟩ := Option.bind_eq_some_iff.mp h
  obtain ⟨t, htype, hs⟩ := Option.bind_eq_some_iff.mp ht
  obtain rfl := ActionKind.ofTag?_eq_some_iff.mp hk
  have he : t = .text kind.tag := Value.text?_eq_some hs
  exact .object (he ▸ htype) hv (content_of_decodeContent hd hb)

lemma Describes.isObject {v : Value} {a : Action} (h : Describes v a) : ∃ fields, v = .object fields := by
  cases h
  exact ⟨_, rfl⟩

lemma decodeAll_of_described {items : List Value} {actions : List Action} (hd : ∀ v ∈ items, v.Distinct)
    (h : List.Forall₂ Describes items actions) :
    (items.map Written.ofValue).mapM decode? = some actions ∧
      ∀ ms, .sleep ms ∈ actions → ms.toNat ≤ 2 ^ 53 - 1 := by
  induction h with
  | nil => exact ⟨rfl, nofun⟩
  | @cons v a items actions ha _ ih =>
    obtain ⟨hv, hvs⟩ := List.forall_mem_cons.mp hd
    obtain ⟨fields, rfl⟩ := ha.isObject
    obtain ⟨hfirst, hb⟩ := decode?_of_describes hv.keys_nodup ha
    obtain ⟨hrest, hbs⟩ := ih hvs
    refine ⟨?_, fun ms hm => ?_⟩
    · rw [List.map_cons, List.mapM_cons, hfirst, hrest]
      rfl
    · rcases List.mem_cons.mp hm with he | hm
      · exact hb ms he.symm
      · exact hbs ms hm

lemma described_of_decodeAll {items : List Value} {actions : List Action} (hd : ∀ v ∈ items, v.Distinct)
    (ho : ∀ v ∈ items, ∃ fields, v = .object fields)
    (h : (items.map Written.ofValue).mapM decode? = some actions)
    (hb : ∀ ms, .sleep ms ∈ actions → ms.toNat ≤ 2 ^ 53 - 1) : List.Forall₂ Describes items actions := by
  induction items generalizing actions with
  | nil =>
    cases h
    exact .nil
  | cons v items ih =>
    rw [List.map_cons, List.mapM_cons] at h
    obtain ⟨a, ha, h⟩ := Option.bind_eq_some_iff.mp h
    obtain ⟨as, has, h⟩ := Option.bind_eq_some_iff.mp h
    obtain rfl := Option.some.inj h
    obtain ⟨hv, hvs⟩ := List.forall_mem_cons.mp hd
    obtain ⟨⟨fields, rfl⟩, hos⟩ := List.forall_mem_cons.mp ho
    have hfirst := describes_of_decode? hv.keys_nodup ha fun ms he => hb ms (he ▸ List.mem_cons_self)
    exact .cons hfirst (ih hvs hos has fun ms hm => hb ms (List.mem_cons_of_mem _ hm))

end Action

namespace Script

variable {fields : Fields}

lemma decode?_object (hn : (fields.map Prod.fst).Nodup) : decode? (.ofValue (.object fields)) =
    ((fields.get? "version").bind fun v => (Written.ofValue v).text?).bind fun version =>
      ((fields.get? "actions").bind fun v => Written.list? Action.decode? (.ofValue v)).bind fun actions =>
        some ⟨version, actions⟩ := by
  rw [decode?, Written.slots?_ofValue hn, ← Written.required_slot, ← Written.required_slot]
  rfl

def OfObjects (v : Value) : Prop :=
  ∃ fields : Fields, v = .object fields ∧
    ∀ items, fields.get? "actions" = some (.array items) → ∀ item ∈ items, ∃ content, item = .object content

lemma decode?_of_describes {v : Value} {s : Script} (hv : v.Distinct) (h : Describes v s) :
    decode? (.ofValue v) = some s ∧ s.version = "1.0.0" ∧
      ∀ ms, .sleep ms ∈ s.actions → ms.toNat ≤ 2 ^ 53 - 1 := by
  cases h with
  | @object fields items actions hversion hactions hitems =>
    obtain ⟨hd, hb⟩ := Action.decodeAll_of_described (hv.field hactions).items hitems
    have ha : Written.list? Action.decode? (.ofValue (.array items)) = some actions := by
      rwa [Written.ofValue, Written.ofValues_eq, Written.list?]
    refine ⟨?_, rfl, hb⟩
    rw [decode?_object hv.keys_nodup, hversion, hactions, Option.bind_some, Option.bind_some, ha]
    rfl

lemma describes_of_decode? {v : Value} {s : Script} (hv : v.Distinct) (ho : OfObjects v)
    (h : decode? (.ofValue v) = some s) (hversion : s.version = "1.0.0")
    (hb : ∀ ms, .sleep ms ∈ s.actions → ms.toNat ≤ 2 ^ 53 - 1) : Describes v s := by
  obtain ⟨fields, rfl, hitems⟩ := ho
  rw [decode?_object hv.keys_nodup] at h
  obtain ⟨version, ht, h⟩ := Option.bind_eq_some_iff.mp h
  obtain ⟨actions, ha, h⟩ := Option.bind_eq_some_iff.mp h
  obtain rfl := Option.some.inj h
  obtain ⟨t, htext, ht⟩ := Option.bind_eq_some_iff.mp ht
  obtain ⟨l, hlist, ha⟩ := Option.bind_eq_some_iff.mp ha
  obtain rfl : version = "1.0.0" := hversion
  obtain rfl : t = .text "1.0.0" := by
    cases t <;> cases ht
    rfl
  cases l with
  | array items =>
    rw [Written.ofValue, Written.ofValues_eq, Written.list?] at ha
    exact .object htext hlist (Action.described_of_decodeAll (hv.field hlist).items (hitems items hlist) ha hb)
  | _ => cases ha

/-- What the check takes is decoded to the same script. On objects decoding takes no more, apart from other
versions and longer sleeps. -/
theorem check_agrees_with_decode (v : Value) (hv : v.Distinct) :
    (∀ s, check v = .ok s → decode? (.ofValue v) = some s) ∧
    (OfObjects v → ∀ s, check v = .ok s ↔ decode? (.ofValue v) = some s ∧ s.version = "1.0.0" ∧
      ∀ ms, .sleep ms ∈ s.actions → ms.toNat ≤ 2 ^ 53 - 1) := by
  refine ⟨fun s h => (decode?_of_describes hv (describes_of_check h)).1, fun ho s => ⟨fun h => ?_, ?_⟩⟩
  · exact decode?_of_describes hv (describes_of_check h)
  · rintro ⟨h, hversion, hb⟩
    exact check_of_describes (describes_of_decode? hv ho h hversion hb)

theorem check_agrees_with_decode_crowded : ∃ fields : Fields, (Value.object fields).Distinct ∧
    OfObjects (.object fields) ∧ fields.get? "note" = some .null ∧
    decode? (.ofValue (.object fields)) = some ⟨"1.0.0", [.sleep 5]⟩ ∧
    check (.object fields) = .ok ⟨"1.0.0", [.sleep 5]⟩ := by
  have hitem : Value.Distinct (.object [("milliseconds", .ofNat 5), ("type", .text "sleep"), ("url", .null)]) :=
    .object (by decide) (by simp [Value.ofNat, Value.Distinct.number, Value.Distinct.text, Value.Distinct.null])
  have hv : Value.Distinct (.object [("actions", .array [.object [("milliseconds", .ofNat 5),
      ("type", .text "sleep"), ("url", .null)]]), ("note", .null), ("version", .text "1.0.0")]) :=
    .object (by decide) (by simp [Value.Distinct.text, Value.Distinct.null, Value.Distinct.array, hitem])
  have ho : OfObjects (.object [("actions", .array [.object [("milliseconds", .ofNat 5),
      ("type", .text "sleep"), ("url", .null)]]), ("note", .null), ("version", .text "1.0.0")]) := by
    refine ⟨_, rfl, fun items h item hm => ?_⟩
    cases h
    exact ⟨_, List.mem_singleton.mp hm⟩
  have hc := (check_agrees_with_decode _ hv).2 ho ⟨"1.0.0", [.sleep 5]⟩
  have hcheck := hc.mpr ⟨rfl, rfl, by simp⟩
  exact ⟨_, hv, ho, rfl, (check_agrees_with_decode _ hv).1 _ hcheck, hcheck⟩

example : decode? (.ofValue (.array [.text "1.0.0", .array []])) = some ⟨"1.0.0", []⟩ := rfl

end Script

end BrowserCheck
