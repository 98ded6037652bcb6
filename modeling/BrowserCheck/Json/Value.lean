import BrowserCheck.Number.Binary64

set_option autoImplicit false

namespace BrowserCheck.Json

open BrowserCheck.Number (Binary64)

inductive Number where
  | integer (n : Int)
  | real (x : Binary64)
deriving DecidableEq, Repr

inductive Value where
  | null
  | boolean (b : Bool)
  | number (n : Number)
  | text (s : String)
  | array (items : List Value)
  | object (fields : List (String × Value))

abbrev Fields := List (String × Value)

namespace Fields

def get? (fields : Fields) (key : String) : Option Value := fields.lookup key

def insert (key : String) (v : Value) : Fields → Fields
  | [] => [(key, v)]
  | (k, w) :: rest =>
    if key = k then (key, v) :: rest
    else if key < k then (key, v) :: (k, w) :: rest
    else (k, w) :: insert key v rest

end Fields

namespace Value

def ofNat (n : Nat) : Value := .number (.integer n)
def ofInt (n : Int) : Value := .number (.integer n)
def ofOption {α : Type} (f : α → Value) : Option α → Value
  | none => .null
  | some a => f a
def ofTexts (ss : List String) : Value := .array (ss.map .text)

def get? (v : Value) (key : String) : Option Value :=
  match v with
  | .object fields => Fields.get? fields key
  | _ => none

def text? : Value → Option String
  | .text s => some s
  | _ => none

def typeName : Value → String
  | .null => "null"
  | .boolean _ => "boolean"
  | .number _ => "number"
  | .text _ => "string"
  | .array _ => "array"
  | .object _ => "object"

-- of a repeated key the last field stays
def sort : Value → Value
  | .array items => .array (sortItems items)
  | .object fields => .object (sortFields [] fields)
  | .null => .null
  | .boolean b => .boolean b
  | .number n => .number n
  | .text s => .text s
where
  sortItems : List Value → List Value
    | [] => []
    | v :: rest => sort v :: sortItems rest
  sortFields (done : Fields) : Fields → Fields
    | [] => done
    | (k, v) :: rest => sortFields (Fields.insert k (sort v) done) rest

end Value

end BrowserCheck.Json
