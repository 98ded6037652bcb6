import BrowserCheck.Generation.Schema
import BrowserCheck.Proofs.Json.Form
import BrowserCheck.Proofs.Script.RoundTrip

set_option autoImplicit false

namespace BrowserCheck.Generation

open Json

namespace Schema

def Allows (s : Schema) (v : Value) : Prop := Form.Admits s.encode v

variable {v : Value}

lemma encodeAll_eq (ss : List Schema) : encode.encodeAll ss = ss.map encode := by
  induction ss with
  | nil => rfl
  | cons s ss ih => rw [encode.encodeAll, ih, List.map_cons]

lemma encodeFields_eq (fields : List (String × Schema)) :
    encode.encodeFields fields = fields.map fun f => (f.1, f.2.encode) := by
  induction fields with
  | nil => rfl
  | cons f fields ih => rw [encode.encodeFields, ih, List.map_cons]

lemma allows_text : text.Allows v ↔ ∃ s, v = .text s := by
  have h : text.Allows v ↔ Form.AllOf [Form.Plain "type" (.text "string")] v := Iff.rfl
  rw [h, Form.allOf_one, Form.plain_type, Form.hasType_string]

lemma allows_word {w : String} : (word w).Allows v ↔ v = .text w := by
  have h : (word w).Allows v ↔ Form.AllOf [Form.Plain "const" (.text w)] v := Iff.rfl
  rw [h, Form.allOf_one, Form.plain_const]

lemma allows_words {ws : List String} : (words ws).Allows v ↔ ∃ w ∈ ws, v = .text w := by
  have h : (words ws).Allows v ↔
      Form.AllOf [Form.Plain "type" (.text "string"), Form.Plain "enum" (.ofTexts ws)] v := Iff.rfl
  rw [h, Form.allOf_cons, Form.allOf_one, Form.plain_type, Form.hasType_string, Value.ofTexts, Form.plain_enum,
    List.mem_map]
  constructor
  · rintro ⟨-, w, hw, rfl⟩
    exact ⟨w, hw, rfl⟩
  · rintro ⟨w, hw, rfl⟩
    exact ⟨⟨w, rfl⟩, w, hw, rfl⟩

lemma allows_integer {low high : Nat} :
    (integer low high).Allows v ↔ ∃ n : Nat, v = .number (.integer n) ∧ low ≤ n ∧ n ≤ high := by
  have h : (integer low high).Allows v ↔ Form.AllOf [Form.Plain "type" (.text "integer"),
      Form.Plain "minimum" (.ofNat low), Form.Plain "maximum" (.ofNat high)] v := Iff.rfl
  rw [h, Form.allOf_cons, Form.allOf_cons, Form.allOf_one, Form.plain_type, Form.hasType_integer]
  constructor
  · rintro ⟨⟨n, rfl⟩, hlow, hhigh⟩
    have hl := Form.plain_minimum.mp hlow
    have hh := Form.plain_maximum.mp hhigh
    obtain ⟨m, rfl⟩ := Int.eq_ofNat_of_zero_le (show 0 ≤ n by omega)
    exact ⟨m, rfl, by omega, by omega⟩
  · rintro ⟨n, rfl, hl, hh⟩
    exact ⟨⟨n, rfl⟩, Form.plain_minimum.mpr (by omega), Form.plain_maximum.mpr (by omega)⟩

lemma allows_array {items : Schema} :
    (array items).Allows v ↔ ∃ vs, v = .array vs ∧ ∀ w ∈ vs, items.Allows w := by
  have h : (array items).Allows v ↔ Form.AllOf [Form.Plain "type" (.text "array"), Form.EachItem items.Allows] v :=
    Iff.rfl
  rw [h, Form.allOf_cons, Form.allOf_one, Form.plain_type, Form.hasType_array]
  constructor
  · rintro ⟨⟨vs, rfl⟩, hvs⟩
    exact ⟨vs, rfl, hvs vs rfl⟩
  · rintro ⟨vs, rfl, hvs⟩
    refine ⟨⟨vs, rfl⟩, fun ws he => ?_⟩
    cases he
    exact hvs

lemma allows_oneOf {ss : List Schema} : (oneOf ss).Allows v ↔ ∃! i : Nat, ∃ s, ss[i]? = some s ∧ s.Allows v := by
  have h : (oneOf ss).Allows v ↔ Form.AllOf [Form.ExactlyOne (Form.choices (encode.encodeAll ss))] v := Iff.rfl
  rw [h, Form.allOf_one, Form.choices_eq, encodeAll_eq, List.map_map]
  refine existsUnique_congr fun i => ?_
  rw [List.getElem?_map]
  constructor
  · rintro ⟨p, hp, hv⟩
    obtain ⟨s, hs, rfl⟩ := Option.map_eq_some_iff.mp hp
    exact ⟨s, hs, hv⟩
  · rintro ⟨s, hs, hv⟩
    exact ⟨s.Allows, by rw [hs]; rfl, hv⟩

lemma allows_object {fields : List (String × Schema)} : (object fields).Allows v ↔
    ∃ fs : Fields, v = .object fs ∧ ∀ f ∈ fields, ∃ w, fs.get? f.1 = some w ∧ f.2.Allows w := by
  have h : (object fields).Allows v ↔ Form.AllOf [Form.Plain "type" (.text "object"),
      Form.EachProperty (Form.properties (encode.encodeFields fields)),
      Form.Plain "required" (.ofTexts (fields.map (·.1)))] v := Iff.rfl
  have hp : Form.properties (encode.encodeFields fields) = fields.map fun f => (f.1, f.2.Allows) := by
    rw [Form.properties_eq, encodeFields_eq, List.map_map]
    rfl
  rw [h, Form.allOf_cons, Form.allOf_cons, Form.allOf_one, Form.plain_type, Form.hasType_object, hp]
  constructor
  · rintro ⟨⟨fs, rfl⟩, heach, hrequired⟩
    refine ⟨fs, rfl, fun f hf => ?_⟩
    have hsome := Form.plain_required.mp hrequired f.1 (List.mem_map_of_mem (List.mem_map_of_mem hf))
    obtain ⟨w, hw⟩ := Option.isSome_iff_exists.mp hsome
    exact ⟨w, hw, heach fs rfl _ (List.mem_map_of_mem hf) w hw⟩
  · rintro ⟨fs, rfl, hfs⟩
    refine ⟨⟨fs, rfl⟩, fun fs' he p hp w hw => ?_, Form.plain_required.mpr fun name hn => ?_⟩
    · cases he
      obtain ⟨f, hf, rfl⟩ := List.mem_map.mp hp
      obtain ⟨w', hw', ha⟩ := hfs f hf
      cases hw.symm.trans hw'
      exact ha
    · obtain ⟨name', hm, he⟩ := List.mem_map.mp hn
      obtain ⟨f, hf, rfl⟩ := List.mem_map.mp hm
      cases he
      obtain ⟨w, hw, -⟩ := hfs f hf
      rw [hw]
      rfl

def ofContent : ActionKind → Schema
  | .goTo => .text
  | .click => .text
  | .sleep => .integer 0 Action.longestSleep

lemma ofKind_eq (kind : ActionKind) :
    ofKind kind = .object [("type", .word kind.tag), (kind.fieldName, ofContent kind)] := by
  cases kind <;> rfl

lemma allows_ofContent {kind : ActionKind} : (ofContent kind).Allows v ↔ ∃ a, Action.Content kind v a := by
  cases kind with
  | goTo =>
    rw [ofContent, allows_text]
    constructor
    · rintro ⟨s, rfl⟩
      exact ⟨_, .goTo s⟩
    · rintro ⟨a, h⟩
      cases h with
      | goTo s => exact ⟨s, rfl⟩
  | click =>
    rw [ofContent, allows_text]
    constructor
    · rintro ⟨s, rfl⟩
      exact ⟨_, .click s⟩
    · rintro ⟨a, h⟩
      cases h with
      | click s => exact ⟨s, rfl⟩
  | sleep =>
    rw [ofContent, allows_integer]
    constructor
    · rintro ⟨n, rfl, -, hn⟩
      exact ⟨_, .sleep n hn⟩
    · rintro ⟨a, h⟩
      cases h with
      | sleep n hn => exact ⟨n, rfl, Nat.zero_le n, hn⟩

lemma allows_ofKind {kind : ActionKind} : (ofKind kind).Allows v ↔ ∃ a, Action.Describes v a ∧ a.kind = kind := by
  rw [ofKind_eq, allows_object]
  constructor
  · rintro ⟨fs, rfl, hfs⟩
    obtain ⟨t, htype, ht⟩ := hfs _ List.mem_cons_self
    obtain ⟨w, hfield, hw⟩ := hfs _ (List.mem_cons_of_mem _ List.mem_cons_self)
    obtain ⟨a, ha⟩ := allows_ofContent.mp hw
    obtain rfl := allows_word.mp ht
    exact ⟨a, .object htype hfield ha, (Action.content_iff.mp ha).1⟩
  · rintro ⟨a, h, hk⟩
    cases h with
    | @object fs kind' w _ htype hfield hc =>
      obtain rfl : kind' = kind := (Action.content_iff.mp hc).1.symm.trans hk
      refine ⟨fs, rfl, ?_⟩
      simp only [List.forall_mem_cons]
      exact ⟨⟨_, htype, allows_word.mpr rfl⟩, ⟨w, hfield, allows_ofContent.mpr ⟨a, hc⟩⟩, nofun⟩

lemma mem_kinds (kind : ActionKind) : kind ∈ ActionKind.all := by
  cases kind <;> decide

lemma kinds_nodup : ActionKind.all.Nodup := by
  decide

lemma allows_kinds : (oneOf (ActionKind.all.map ofKind)).Allows v ↔ ∃ a, Action.Describes v a := by
  rw [allows_oneOf]
  constructor
  · rintro ⟨i, ⟨s, hs, ha⟩, -⟩
    obtain ⟨kind, -, rfl⟩ := List.mem_map.mp (List.mem_of_getElem? hs)
    obtain ⟨a, h, -⟩ := allows_ofKind.mp ha
    exact ⟨a, h⟩
  · rintro ⟨a, h⟩
    obtain ⟨i, hi⟩ := List.mem_iff_getElem?.mp (mem_kinds a.kind)
    refine ⟨i, ⟨ofKind a.kind, by rw [List.getElem?_map, hi, Option.map_some], allows_ofKind.mpr ⟨a, h, rfl⟩⟩, ?_⟩
    rintro j ⟨s, hs, ha⟩
    rw [List.getElem?_map] at hs
    obtain ⟨kind, hj, rfl⟩ := Option.map_eq_some_iff.mp hs
    obtain ⟨b, hb, rfl⟩ := allows_ofKind.mp ha
    -- what two choices allow is one action, and so of one kind
    obtain rfl : a = b :=
      Except.ok.inj ((Action.check_of_describes h 0).symm.trans (Action.check_of_describes hb 0))
    obtain ⟨hlt, -⟩ := List.getElem?_eq_some_iff.mp hj
    exact (List.getElem?_inj hlt kinds_nodup).mp (hj.trans hi.symm)

lemma forall_described {items : List Value} :
    (∀ v ∈ items, ∃ a, Action.Describes v a) ↔ ∃ actions, List.Forall₂ Action.Describes items actions := by
  constructor
  · intro h
    rcases Action.described_or_first_bad items with hs | ⟨good, item, rest, rfl, -, hbad⟩
    · exact hs
    · exact absurd (h item (List.mem_append_right _ List.mem_cons_self)) hbad
  · rintro ⟨actions, h⟩
    induction h with
    | nil => exact List.forall_mem_nil _
    | cons ha _ ih => exact List.forall_mem_cons.mpr ⟨⟨_, ha⟩, ih⟩

lemma allows_actions : (array (oneOf (ActionKind.all.map ofKind))).Allows v ↔
    ∃ items actions, v = .array items ∧ List.Forall₂ Action.Describes items actions := by
  rw [allows_array]
  refine exists_congr fun items => ?_
  rw [exists_and_left, ← forall_described]
  exact and_congr_right fun _ => forall₂_congr fun w _ => allows_kinds

lemma allows_script : script.Allows v ↔ ∃ s, Script.Describes v s := by
  rw [script, allows_object]
  constructor
  · rintro ⟨fs, rfl, hfs⟩
    obtain ⟨t, hversion, ht⟩ := hfs _ List.mem_cons_self
    obtain ⟨w, hactions, hw⟩ := hfs _ (List.mem_cons_of_mem _ List.mem_cons_self)
    obtain ⟨tag, htag, rfl⟩ := allows_words.mp ht
    obtain rfl := List.mem_singleton.mp htag
    obtain ⟨items, actions, rfl, hitems⟩ := allows_actions.mp hw
    exact ⟨_, .object hversion hactions hitems⟩
  · rintro ⟨s, h⟩
    cases h with
    | @object fs items actions hversion hactions hitems =>
      refine ⟨fs, rfl, ?_⟩
      simp only [List.forall_mem_cons]
      exact ⟨⟨_, hversion, allows_words.mpr ⟨_, List.mem_singleton_self _, rfl⟩⟩,
        ⟨_, hactions, allows_actions.mpr ⟨items, actions, rfl, hitems⟩⟩, nofun⟩

/-- The part of the asked answer that is about the script admits what the check takes, and nothing else. -/
theorem script_admits_iff_checked : ∃ form, (answer.encode.get? "properties").bind (·.get? "script") = some form ∧
    ∀ v, Form.Admits form v ↔ ∃ s, Script.check v = .ok s := by
  refine ⟨script.encode, rfl, fun v => allows_script.trans (exists_congr fun s => ?_)⟩
  exact ⟨Script.check_of_describes, Script.describes_of_check⟩

end Schema

end BrowserCheck.Generation
