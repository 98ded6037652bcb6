import BrowserCheck.Json.Value

set_option autoImplicit false

/-! A JSON document as it was written: keys keep their order and may repeat. -/

namespace BrowserCheck.Json

/-- `unreadable` stands for a part that follows the grammar and has no value: a lone surrogate, a
number beyond every double, a nesting that is too deep. It does harm only where it is looked at. -/
inductive Written where
  | null
  | boolean (b : Bool)
  | number (n : Number)
  | text (s : String)
  | array (items : List Written)
  | object (fields : List (String × Written))
  | unreadable

namespace Written

def value? : Written → Option Value
  | .null => some .null
  | .boolean b => some (.boolean b)
  | .number n => some (.number n)
  | .text s => some (.text s)
  | .array items => (values? items).map .array
  | .object fields => (fields? [] fields).map .object
  | .unreadable => none
where
  values? : List Written → Option (List Value)
    | [] => some []
    | w :: rest => (value? w).bind fun v => (values? rest).map (v :: ·)
  fields? (done : Fields) : List (String × Written) → Option Fields
    | [] => some done
    | (k, w) :: rest => (value? w).bind fun v => fields? (done.insert k v) rest

def ofValue : Value → Written
  | .null => .null
  | .boolean b => .boolean b
  | .number n => .number n
  | .text s => .text s
  | .array items => .array (ofValues items)
  | .object fields => .object (ofFields fields)
where
  ofValues : List Value → List Written
    | [] => []
    | v :: rest => ofValue v :: ofValues rest
  ofFields : List (String × Value) → List (String × Written)
    | [] => []
    | (k, v) :: rest => (k, ofValue v) :: ofFields rest

end Written

end BrowserCheck.Json
