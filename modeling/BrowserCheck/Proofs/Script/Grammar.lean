import BrowserCheck.Script.Check
import Mathlib.Data.List.Forall2
import Mathlib.Tactic.Common

set_option autoImplicit false

namespace BrowserCheck

open Json (Value Fields)

namespace ActionKind

def fieldName : ActionKind → String
  | goTo => "url"
  | click => "selector"
  | sleep => "milliseconds"

def expected : ActionKind → String
  | goTo => "string"
  | click => "string"
  | sleep => "integer between 0 and 2^53 - 1"

lemma ofTag?_eq_none {tag : String} (h : ∀ kind : ActionKind, tag ≠ kind.tag) : ofTag? tag = none :=
  List.find?_eq_none.mpr fun kind _ he => h kind (eq_of_beq he).symm

end ActionKind

namespace Action

inductive Content : ActionKind → Value → Action → Prop where
  | goTo (url : String) : Content .goTo (.text url) (.goTo url)
  | click (selector : String) : Content .click (.text selector) (.click selector)
  | sleep (n : Nat) (h : n ≤ 2 ^ 53 - 1) : Content .sleep (.number (.integer n)) (.sleep n.toUInt64)

inductive Describes : Value → Action → Prop where
  | object {fields : Fields} {kind : ActionKind} {v : Value} {a : Action}
      (htype : fields.get? "type" = some (.text kind.tag)) (hfield : fields.get? kind.fieldName = some v)
      (hcontent : Content kind v a) : Describes (.object fields) a

inductive Fault (path : String) : Value → Violation → Prop where
  | notAnObject {v : Value} (h : ∀ fields, v ≠ .object fields) :
      Fault path v ⟨.invalidType, path, "expected object, found " ++ v.typeName⟩
  | typeMissing {fields : Fields} (h : fields.get? "type" = none) :
      Fault path (.object fields) ⟨.missingField, path ++ ".type", "required field is missing"⟩
  | typeNoText {fields : Fields} {v : Value} (h : fields.get? "type" = some v) (ht : ∀ s, v ≠ .text s) :
      Fault path (.object fields) ⟨.invalidType, path ++ ".type", "expected string, found " ++ v.typeName⟩
  | typeUnknown {fields : Fields} {tag : String} (h : fields.get? "type" = some (.text tag))
      (ht : ∀ kind : ActionKind, tag ≠ kind.tag) :
      Fault path (.object fields)
        ⟨.unknownAction, path ++ ".type", "unknown action \"" ++ tag ++ "\" for script version 1.0.0"⟩
  | fieldMissing {fields : Fields} {kind : ActionKind} (h : fields.get? "type" = some (.text kind.tag))
      (hf : fields.get? kind.fieldName = none) :
      Fault path (.object fields) ⟨.missingField, path ++ "." ++ kind.fieldName, "required field is missing"⟩
  | fieldWrong {fields : Fields} {kind : ActionKind} {v : Value} (h : fields.get? "type" = some (.text kind.tag))
      (hf : fields.get? kind.fieldName = some v) (hc : ∀ a, ¬Content kind v a) :
      Fault path (.object fields) ⟨.invalidType, path ++ "." ++ kind.fieldName,
        "expected " ++ kind.expected ++ ", found " ++ v.typeName⟩

def path (index : Nat) : String := "actions[" ++ toString index ++ "]"

lemma described_or_fault (path : String) (v : Value) : (∃ a, Describes v a) ∨ ∃ e, Fault path v e := by
  cases v with
  | object fields =>
    cases htype : Fields.get? fields "type" with
    | none => exact .inr ⟨_, .typeMissing htype⟩
    | some t =>
      by_cases ht : ∃ s, t = .text s
      case neg => exact .inr ⟨_, .typeNoText htype fun s he => ht ⟨s, he⟩⟩
      obtain ⟨tag, rfl⟩ := ht
      by_cases hk : ∃ kind : ActionKind, tag = kind.tag
      case neg => exact .inr ⟨_, .typeUnknown htype fun kind he => hk ⟨kind, he⟩⟩
      obtain ⟨kind, rfl⟩ := hk
      cases hfield : Fields.get? fields kind.fieldName with
      | none => exact .inr ⟨_, .fieldMissing htype hfield⟩
      | some v =>
        by_cases hc : ∃ a, Content kind v a
        · obtain ⟨a, hc⟩ := hc
          exact .inl ⟨a, .object htype hfield hc⟩
        · exact .inr ⟨_, .fieldWrong htype hfield fun a ha => hc ⟨a, ha⟩⟩
  | _ => exact .inr ⟨_, .notAnObject nofun⟩

lemma kindField_tag {fields : Fields} {kind : ActionKind} (path : String)
    (h : fields.get? "type" = some (.text kind.tag)) : kindField .v100 fields path = .ok kind := by
  rw [kindField, h]
  cases kind <;> rfl

lemma kindField_unknown {fields : Fields} {tag : String} (path : String)
    (h : fields.get? "type" = some (.text tag)) (ht : ∀ kind : ActionKind, tag ≠ kind.tag) :
    kindField .v100 fields path = .error
      ⟨.unknownAction, path ++ ".type", "unknown action \"" ++ tag ++ "\" for script version 1.0.0"⟩ := by
  have hv : "\" for script version " ++ Version.v100.tag = "\" for script version 1.0.0" := rfl
  rw [kindField, h]
  simp only [ActionKind.ofTag?_eq_none ht, Option.filter_none, String.append_assoc, hv]

lemma kindField_noText {fields : Fields} {v : Value} (path : String) (h : fields.get? "type" = some v)
    (ht : ∀ s, v ≠ .text s) : kindField .v100 fields path = .error (.wrongType (path ++ ".type") "string" v) := by
  rw [kindField, h]
  cases v with
  | text s => exact absurd rfl (ht s)
  | _ => rfl

lemma textField_noText {fields : Fields} {name : String} {v : Value} (path : String)
    (h : fields.get? name = some v) (ht : ∀ s, v ≠ .text s) :
    textField fields path name = .error (.wrongType (path ++ "." ++ name) "string" v) := by
  rw [textField, h]
  cases v with
  | text s => exact absurd rfl (ht s)
  | _ => rfl

lemma sleepField_wrong {fields : Fields} {v : Value} (path : String) (h : fields.get? "milliseconds" = some v)
    (hn : ∀ n : Nat, n ≤ 2 ^ 53 - 1 → v ≠ .number (.integer n)) :
    sleepField fields path =
      .error (.wrongType (path ++ ".milliseconds") "integer between 0 and 2^53 - 1" v) := by
  rw [sleepField, h]
  cases v with
  | number n =>
    cases n with
    | integer n =>
      refine if_neg fun hr => ?_
      obtain ⟨n, rfl⟩ := Int.eq_ofNat_of_zero_le hr.1
      exact hn n (by exact_mod_cast hr.2) rfl
    | real x => rfl
  | _ => rfl

lemma ofFields_content {fields : Fields} {kind : ActionKind} {v : Value} {a : Action} (path : String)
    (hf : fields.get? kind.fieldName = some v) (hc : Content kind v a) : ofFields kind fields path = .ok a := by
  cases hc with
  | goTo url =>
    have hu : fields.get? "url" = some (.text url) := hf
    rw [ofFields, textField, hu]
    rfl
  | click selector =>
    have hs : fields.get? "selector" = some (.text selector) := hf
    rw [ofFields, textField, hs]
    rfl
  | sleep n h =>
    have hm : fields.get? "milliseconds" = some (.number (.integer n)) := hf
    have hn : (n : Int) ≤ longestSleep := by exact_mod_cast h
    simp [ofFields, sleepField, hm, hn, Except.map]

lemma ofFields_missing {fields : Fields} {kind : ActionKind} (path : String)
    (hf : fields.get? kind.fieldName = none) :
    ofFields kind fields path = .error (.missing (path ++ "." ++ kind.fieldName)) := by
  cases kind with
  | goTo =>
    have hu : fields.get? "url" = none := hf
    rw [ofFields, textField, hu]
    rfl
  | click =>
    have hs : fields.get? "selector" = none := hf
    rw [ofFields, textField, hs]
    rfl
  | sleep =>
    have hm : fields.get? "milliseconds" = none := hf
    rw [ofFields, sleepField, hm]
    simp [Except.map, ActionKind.fieldName, String.append_assoc]

lemma ofFields_wrong {fields : Fields} {kind : ActionKind} {v : Value} (path : String)
    (hf : fields.get? kind.fieldName = some v) (hc : ∀ a, ¬Content kind v a) :
    ofFields kind fields path = .error (.wrongType (path ++ "." ++ kind.fieldName) kind.expected v) := by
  cases kind with
  | goTo =>
    have hu : textField fields path "url" = .error (.wrongType (path ++ "." ++ "url") "string" v) :=
      textField_noText path hf fun s he => hc (.goTo s) (he ▸ .goTo s)
    rw [ofFields, hu]
    rfl
  | click =>
    have hs : textField fields path "selector" = .error (.wrongType (path ++ "." ++ "selector") "string" v) :=
      textField_noText path hf fun s he => hc (.click s) (he ▸ .click s)
    rw [ofFields, hs]
    rfl
  | sleep =>
    have hm := sleepField_wrong path hf fun n hn he => hc (.sleep n.toUInt64) (he ▸ .sleep n hn)
    rw [ofFields, hm]
    simp [Except.map, ActionKind.fieldName, ActionKind.expected, String.append_assoc]

lemma check_of_describes {v : Value} {a : Action} (h : Describes v a) (index : Nat) :
    check .v100 index v = .ok a := by
  obtain ⟨htype, hfield, hc⟩ := h
  rw [check, kindField_tag _ htype]
  exact ofFields_content _ hfield hc

lemma check_of_fault {v : Value} {e : Violation} {index : Nat} (h : Fault (path index) v e) :
    check .v100 index v = .error e := by
  cases h with
  | notAnObject h =>
    cases v with
    | object fields => exact absurd rfl (h fields)
    | _ => rfl
  | typeMissing h =>
    rw [check, kindField, h]
    rfl
  | typeNoText h ht =>
    rw [check, kindField_noText _ h ht]
    rfl
  | typeUnknown h ht =>
    rw [check, kindField_unknown _ h ht]
    rfl
  | fieldMissing h hf =>
    rw [check, kindField_tag _ h]
    exact ofFields_missing _ hf
  | fieldWrong h hf hc =>
    rw [check, kindField_tag _ h]
    exact ofFields_wrong _ hf hc

lemma checkAll_cons {index : Nat} {item : Value} {a : Action} (h : check .v100 index item = .ok a)
    (rest : List Value) :
    checkAll .v100 index (item :: rest) = (checkAll .v100 (index + 1) rest).map (a :: ·) := by
  rw [checkAll, h]
  cases checkAll .v100 (index + 1) rest <;> rfl

lemma checkAll_of_described {items : List Value} {actions : List Action}
    (h : List.Forall₂ Describes items actions) (index : Nat) : checkAll .v100 index items = .ok actions := by
  induction h generalizing index with
  | nil => rfl
  | cons ha _ ih =>
    rw [checkAll_cons (check_of_describes ha index), ih (index + 1)]
    rfl

lemma checkAll_of_fault {good : List Value} (hgood : ∀ v ∈ good, ∃ a, Describes v a) {item : Value}
    (rest : List Value) {e : Violation} (index : Nat) (h : Fault (path (index + good.length)) item e) :
    checkAll .v100 index (good ++ item :: rest) = .error e := by
  induction good generalizing index with
  | nil =>
    have he : check .v100 index item = .error e := check_of_fault h
    rw [List.nil_append, checkAll, he]
    rfl
  | cons v good ih =>
    obtain ⟨a, ha⟩ := hgood v List.mem_cons_self
    have hi : index + (v :: good).length = index + 1 + good.length := by
      rw [List.length_cons]
      omega
    have ht := ih (fun w hw => hgood w (List.mem_cons_of_mem _ hw)) (index + 1) (hi ▸ h)
    rw [List.cons_append, checkAll_cons (check_of_describes ha index), ht]
    rfl

lemma described_or_first_bad (items : List Value) : (∃ actions, List.Forall₂ Describes items actions) ∨
    ∃ good item rest, items = good ++ item :: rest ∧ (∀ v ∈ good, ∃ a, Describes v a) ∧
      ¬∃ a, Describes item a := by
  induction items with
  | nil => exact .inl ⟨[], .nil⟩
  | cons v items ih =>
    by_cases hv : ∃ a, Describes v a
    case neg => exact .inr ⟨[], v, items, rfl, List.forall_mem_nil _, hv⟩
    rcases ih with ⟨actions, hs⟩ | ⟨good, item, rest, rfl, hgood, hbad⟩
    · obtain ⟨a, ha⟩ := hv
      exact .inl ⟨a :: actions, .cons ha hs⟩
    · exact .inr ⟨v :: good, item, rest, rfl, List.forall_mem_cons.mpr ⟨hv, hgood⟩, hbad⟩

end Action

namespace Script

inductive Describes : Value → Script → Prop where
  | object {fields : Fields} {items : List Value} {actions : List Action}
      (hversion : fields.get? "version" = some (.text "1.0.0"))
      (hactions : fields.get? "actions" = some (.array items))
      (hitems : List.Forall₂ Action.Describes items actions) : Describes (.object fields) ⟨"1.0.0", actions⟩

inductive Fault : Value → Violation → Prop where
  | notAnObject {v : Value} (h : ∀ fields, v ≠ .object fields) :
      Fault v ⟨.notAnObject, "$", "script must be a JSON object"⟩
  | versionMissing {fields : Fields} (h : fields.get? "version" = none) :
      Fault (.object fields) ⟨.missingField, "version", "required field is missing"⟩
  | versionNoText {fields : Fields} {v : Value} (h : fields.get? "version" = some v) (hv : ∀ s, v ≠ .text s) :
      Fault (.object fields) ⟨.invalidType, "version", "expected string, found " ++ v.typeName⟩
  | versionUnsupported {fields : Fields} {s : String} (h : fields.get? "version" = some (.text s))
      (hs : s ≠ "1.0.0") :
      Fault (.object fields) ⟨.unsupportedVersion, "version", "expected \"1.0.0\", got \"" ++ s ++ "\""⟩
  | actionsMissing {fields : Fields} (h : fields.get? "version" = some (.text "1.0.0"))
      (ha : fields.get? "actions" = none) :
      Fault (.object fields) ⟨.missingField, "actions", "required field is missing"⟩
  | actionsNoArray {fields : Fields} {v : Value} (h : fields.get? "version" = some (.text "1.0.0"))
      (ha : fields.get? "actions" = some v) (hv : ∀ items, v ≠ .array items) :
      Fault (.object fields) ⟨.invalidType, "actions", "expected array, found " ++ v.typeName⟩
  | badItem {fields : Fields} {good rest : List Value} {item : Value} {e : Violation}
      (h : fields.get? "version" = some (.text "1.0.0"))
      (ha : fields.get? "actions" = some (.array (good ++ item :: rest)))
      (hgood : ∀ v ∈ good, ∃ a, Action.Describes v a)
      (hitem : Action.Fault ("actions[" ++ toString good.length ++ "]") item e) : Fault (.object fields) e

lemma check_supported {fields : Fields} (h : fields.get? "version" = some (.text "1.0.0")) :
    check (.object fields) = (checkActions .v100 fields).map (⟨"1.0.0", ·⟩) := by
  have hv : checkVersion fields = .ok .v100 := by
    rw [checkVersion, h]
    rfl
  rw [check, hv]
  change (checkActions .v100 fields >>= fun actions => .ok (Script.mk "1.0.0" actions)) = _
  cases checkActions .v100 fields <;> rfl

lemma check_of_describes {v : Value} {s : Script} (h : Describes v s) : check v = .ok s := by
  obtain ⟨hv, ha, hitems⟩ := h
  rw [check_supported hv, checkActions, ha]
  exact congrArg (Except.map _) (Action.checkAll_of_described hitems 0)

lemma checkVersion_noText {fields : Fields} {v : Value} (h : fields.get? "version" = some v)
    (hv : ∀ s, v ≠ .text s) : checkVersion fields = .error (.wrongType "version" "string" v) := by
  rw [checkVersion, h]
  cases v with
  | text s => exact absurd rfl (hv s)
  | _ => rfl

lemma checkVersion_unsupported {fields : Fields} {s : String} (h : fields.get? "version" = some (.text s))
    (hs : s ≠ "1.0.0") : checkVersion fields =
      .error ⟨.unsupportedVersion, "version", "expected \"1.0.0\", got \"" ++ s ++ "\""⟩ := by
  have hn : Version.ofTag? s = none := by
    simp [Version.ofTag?, Version.all, Version.tag, Ne.symm hs]
  rw [checkVersion, h]
  simp only [hn]
  rfl

lemma checkActions_noArray {fields : Fields} {v : Value} (h : fields.get? "actions" = some v)
    (hv : ∀ items, v ≠ .array items) :
    checkActions .v100 fields = .error (.wrongType "actions" "array" v) := by
  rw [checkActions, h]
  cases v with
  | array items => exact absurd rfl (hv items)
  | _ => rfl

lemma check_of_fault {v : Value} {e : Violation} (h : Fault v e) : check v = .error e := by
  cases h with
  | notAnObject h =>
    cases v with
    | object fields => exact absurd rfl (h fields)
    | _ => rfl
  | versionMissing h =>
    rw [check, checkVersion, h]
    rfl
  | versionNoText h hv =>
    rw [check, checkVersion_noText h hv]
    rfl
  | versionUnsupported h hs =>
    rw [check, checkVersion_unsupported h hs]
    rfl
  | actionsMissing h ha =>
    rw [check_supported h, checkActions, ha]
    rfl
  | actionsNoArray h ha hv =>
    rw [check_supported h, checkActions_noArray ha hv]
    rfl
  | @badItem fields good rest item e h ha hgood hitem =>
    have hi : Action.Fault (Action.path (0 + good.length)) item e := by rwa [Nat.zero_add]
    rw [check_supported h, checkActions, ha]
    exact congrArg (Except.map _) (Action.checkAll_of_fault hgood rest 0 hi)

lemma described_or_fault (v : Value) : (∃ s, Describes v s) ∨ ∃ e, Fault v e := by
  cases v with
  | object fields =>
    cases hversion : Fields.get? fields "version" with
    | none => exact .inr ⟨_, .versionMissing hversion⟩
    | some t =>
      by_cases ht : ∃ s, t = .text s
      case neg => exact .inr ⟨_, .versionNoText hversion fun s he => ht ⟨s, he⟩⟩
      obtain ⟨s, rfl⟩ := ht
      by_cases hs : s = "1.0.0"
      case neg => exact .inr ⟨_, .versionUnsupported hversion hs⟩
      subst hs
      cases hactions : Fields.get? fields "actions" with
      | none => exact .inr ⟨_, .actionsMissing hversion hactions⟩
      | some t =>
        by_cases ht : ∃ items, t = .array items
        case neg => exact .inr ⟨_, .actionsNoArray hversion hactions fun items he => ht ⟨items, he⟩⟩
        obtain ⟨items, rfl⟩ := ht
        rcases Action.described_or_first_bad items with ⟨actions, h⟩ | ⟨good, item, rest, rfl, hgood, hbad⟩
        · exact .inl ⟨_, .object hversion hactions h⟩
        · obtain ⟨e, he⟩ := (Action.described_or_fault (Action.path good.length) item).resolve_left hbad
          exact .inr ⟨e, .badItem hversion hactions hgood he⟩
  | _ => exact .inr ⟨_, .notAnObject nofun⟩

lemma describes_of_check {v : Value} {s : Script} (h : check v = .ok s) : Describes v s := by
  rcases described_or_fault v with ⟨s', hs⟩ | ⟨e, he⟩
  · obtain rfl : s' = s := Except.ok.inj ((check_of_describes hs).symm.trans h)
    exact hs
  · cases (check_of_fault he).symm.trans h

lemma fault_of_check {v : Value} {e : Violation} (h : check v = .error e) : Fault v e := by
  rcases described_or_fault v with ⟨s, hs⟩ | ⟨e', he⟩
  · cases (check_of_describes hs).symm.trans h
  · obtain rfl : e' = e := Except.error.inj ((check_of_fault he).symm.trans h)
    exact he

/-- The check accepts the language of scripts and nothing else. Of any other document it reports what is wrong
first. -/
theorem check_first_violation (v : Value) :
    (∀ s, check v = .ok s ↔ Describes v s) ∧ ∀ e, check v = .error e ↔ Fault v e :=
  ⟨fun _ => ⟨describes_of_check, check_of_describes⟩, fun _ => ⟨fault_of_check, check_of_fault⟩⟩

end Script

end BrowserCheck
