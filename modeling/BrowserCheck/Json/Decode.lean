import BrowserCheck.Json.Reader

set_option autoImplicit false

namespace BrowserCheck.Json

abbrev Decoder (α : Type) := Written → Option α

/-- What a document format allows where a record or a variant is expected: whether a record written
as a list may have entries beyond its fields, and what a variant without content carries. -/
structure Conventions where
  extraItems : Bool
  isEmptyContent : Written → Bool

/-- What a record says about one of its fields. `beyond` is a field that a record written as a list is
too short for. -/
inductive Slot where
  | given (w : Written)
  | absent
  | beyond

namespace Slot

variable {α : Type}

def required (d : Decoder α) : Slot → Option α
  | given w => d w
  | absent => none
  | beyond => none

def withDefault (a : α) (d : Decoder α) : Slot → Option α
  | given w => d w
  | absent => some a
  | beyond => some a

def nullable (d : Decoder α) : Slot → Option (Option α)
  | given .null => some none
  | given w => (d w).map some
  | absent => some none
  | beyond => none

def optional (d : Decoder α) : Slot → Option (Option α)
  | given .null => some none
  | given w => (d w).map some
  | absent => some none
  | beyond => some none

end Slot

namespace Written

def field? (fields : List (String × Written)) (name : String) : Option Slot :=
  match fields.filter (·.1 == name) with
  | [] => some .absent
  | [(_, w)] => some (.given w)
  | _ => none

def itemSlots : Nat → List Written → List Slot
  | 0, _ => []
  | n + 1, [] => .beyond :: itemSlots n []
  | n + 1, w :: rest => .given w :: itemSlots n rest

def slots? (conv : Conventions) (names : List String) : Written → Option (List Slot)
  | .object fields => names.mapM (field? fields)
  | .array items =>
    if names.length < items.length ∧ ¬conv.extraItems then none
    else some (itemSlots names.length items)
  | _ => none

def text? : Decoder String
  | .text s => some s
  | _ => none

def boolean? : Decoder Bool
  | .boolean b => some b
  | _ => none

def integer? : Decoder Int
  | .number (.integer n) => some n
  | _ => none

def natural? (bound : Nat) (w : Written) : Option Nat :=
  (integer? w).bind fun n => if 0 ≤ n ∧ n < bound then some n.toNat else none

def uint8? (w : Written) : Option UInt8 := (natural? (2 ^ 8) w).map Nat.toUInt8
def uint16? (w : Written) : Option UInt16 := (natural? (2 ^ 16) w).map Nat.toUInt16
def uint32? (w : Written) : Option UInt32 := (natural? (2 ^ 32) w).map Nat.toUInt32
def uint64? (w : Written) : Option UInt64 := (natural? (2 ^ 64) w).map Nat.toUInt64

def int32? (w : Written) : Option Int32 :=
  (integer? w).bind fun n => if -2 ^ 31 ≤ n ∧ n < 2 ^ 31 then some (Int32.ofInt n) else none

def int64? (w : Written) : Option Int64 :=
  (integer? w).bind fun n => if -2 ^ 63 ≤ n ∧ n < 2 ^ 63 then some (Int64.ofInt n) else none

def list? {α : Type} (d : Decoder α) : Decoder (List α)
  | .array items => items.mapM d
  | _ => none

def variant? {α : Type} (conv : Conventions) (ofName : String → Option α) : Decoder α
  | .text s => ofName s
  | .object [(k, w)] => if conv.isEmptyContent w then ofName k else none
  | _ => none

-- the whole record has to be readable, also what is not asked for
def tagged? (tag : String) (w : Written) : Option (String × Written) :=
  if w.value?.isNone then none
  else match w with
  | .object fields =>
    match fields.filter (·.1 == tag) with
    | [(_, .text s)] => some (s, .object (fields.filter (·.1 != tag)))
    | _ => none
  | .array (.text s :: rest) => some (s, .array rest)
  | _ => none

end Written

namespace Conventions

def json : Conventions := ⟨false, fun w => match w with | .null => true | _ => false⟩

end Conventions

end BrowserCheck.Json
