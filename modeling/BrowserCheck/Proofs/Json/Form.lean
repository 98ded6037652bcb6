import BrowserCheck.Json.Value
import Mathlib.Tactic.Common

set_option autoImplicit false

/-! What a JSON Schema document says about a value. Each keyword is a condition of its own, and a keyword that is not
known here is none. -/

namespace BrowserCheck.Json

def Number.toRat : Number → Rat
  | .integer n => n
  | .real x => (if x.negative then -1 else 1) * x.ratio.1 / x.ratio.2

namespace Form

def HasType (t : String) : Value → Prop
  | .null => t = "null"
  | .boolean _ => t = "boolean"
  | .number (.integer _) => t = "integer" ∨ t = "number"
  | .number (.real _) => t = "number"
  | .text _ => t = "string"
  | .array _ => t = "array"
  | .object _ => t = "object"

def Plain : String → Value → Value → Prop
  | "type", .text t, v => HasType t v
  | "enum", .array choices, v => v ∈ choices
  | "const", w, v => v = w
  | "required", .array names, .object fields => ∀ name, .text name ∈ names → (Fields.get? fields name).isSome
  | "minimum", .number low, .number n => low.toRat ≤ n.toRat
  | "maximum", .number high, .number n => n.toRat ≤ high.toRat
  | _, _, _ => True

def AllOf (conditions : List (Value → Prop)) (v : Value) : Prop := ∀ p ∈ conditions, p v

def ExactlyOne (choices : List (Value → Prop)) (v : Value) : Prop :=
  ∃! i : Nat, ∃ p : Value → Prop, choices[i]? = some p ∧ p v

def EachItem (p : Value → Prop) (v : Value) : Prop := ∀ items, v = .array items → ∀ item ∈ items, p item

def EachProperty (properties : List (String × (Value → Prop))) (v : Value) : Prop :=
  ∀ fields : Fields, v = .object fields → ∀ p ∈ properties, ∀ w, fields.get? p.1 = some w → p.2 w

mutual

def Admits : Value → Value → Prop
  | .boolean b => fun _ => b = true
  | .object keywords => AllOf (conditions keywords)
  | _ => fun _ => False

def conditions : List (String × Value) → List (Value → Prop)
  | [] => []
  | ("items", d) :: rest => EachItem (Admits d) :: conditions rest
  | ("properties", .object ds) :: rest => EachProperty (properties ds) :: conditions rest
  | ("oneOf", .array ds) :: rest => ExactlyOne (choices ds) :: conditions rest
  | (keyword, d) :: rest => Plain keyword d :: conditions rest

def choices : List Value → List (Value → Prop)
  | [] => []
  | d :: rest => Admits d :: choices rest

def properties : List (String × Value) → List (String × (Value → Prop))
  | [] => []
  | (name, d) :: rest => (name, Admits d) :: properties rest

end

section

variable {v : Value}

lemma allOf_cons {p : Value → Prop} {ps : List (Value → Prop)} : AllOf (p :: ps) v ↔ p v ∧ AllOf ps v :=
  List.forall_mem_cons

lemma allOf_one {p : Value → Prop} : AllOf [p] v ↔ p v := List.forall_mem_singleton

lemma plain_type {t : String} : Plain "type" (.text t) v ↔ HasType t v := Iff.rfl

lemma plain_enum {choices : List Value} : Plain "enum" (.array choices) v ↔ v ∈ choices := Iff.rfl

lemma plain_const {w : Value} : Plain "const" w v ↔ v = w := Iff.rfl

lemma plain_minimum {low n : Int} : Plain "minimum" (.number (.integer low)) (.number (.integer n)) ↔ low ≤ n :=
  Rat.intCast_le_intCast

lemma plain_maximum {high n : Int} : Plain "maximum" (.number (.integer high)) (.number (.integer n)) ↔ n ≤ high :=
  Rat.intCast_le_intCast

lemma plain_required {names : List Value} {fields : Fields} : Plain "required" (.array names) (.object fields) ↔
    ∀ name, .text name ∈ names → (fields.get? name).isSome := Iff.rfl

lemma hasType_string : HasType "string" v ↔ ∃ s, v = .text s := by
  rcases v with _ | _ | (_ | _) | _ | _ | _ <;> simp [HasType]

lemma hasType_array : HasType "array" v ↔ ∃ items, v = .array items := by
  rcases v with _ | _ | (_ | _) | _ | _ | _ <;> simp [HasType]

lemma hasType_object : HasType "object" v ↔ ∃ fields, v = .object fields := by
  rcases v with _ | _ | (_ | _) | _ | _ | _ <;> simp [HasType]

lemma hasType_integer : HasType "integer" v ↔ ∃ n, v = .number (.integer n) := by
  rcases v with _ | _ | (_ | _) | _ | _ | _ <;> simp [HasType]

end

lemma choices_eq (ds : List Value) : choices ds = ds.map Admits := by
  induction ds with
  | nil => rfl
  | cons d ds ih => rw [choices, ih, List.map_cons]

lemma properties_eq (ds : List (String × Value)) : properties ds = ds.map fun p => (p.1, Admits p.2) := by
  induction ds with
  | nil => rfl
  | cons p ds ih => rw [properties, ih, List.map_cons]

end Form

end BrowserCheck.Json
