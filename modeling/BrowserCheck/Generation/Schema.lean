import BrowserCheck.Script.Check

set_option autoImplicit false

namespace BrowserCheck.Generation

open Json

inductive Schema where
  | text
  | described (description : String)
  | word (w : String)
  | words (ws : List String)
  | integer (low high : Nat)
  | array (items : Schema)
  | oneOf (choices : List Schema)
  | object (fields : List (String × Schema))

namespace Schema

def encode : Schema → Value
  | .text => .object [("type", .text "string")]
  | .described description => .object [("type", .text "string"), ("description", .text description)]
  | .word w => .object [("const", .text w)]
  | .words ws => .object [("type", .text "string"), ("enum", .ofTexts ws)]
  | .integer low high =>
    .object [("type", .text "integer"), ("minimum", .ofNat low), ("maximum", .ofNat high)]
  | .array items => .object [("type", .text "array"), ("items", encode items)]
  | .oneOf choices => .object [("oneOf", .array (encodeAll choices))]
  | .object fields =>
    .object [("type", .text "object"), ("properties", .object (encodeFields fields)),
      ("required", .ofTexts (fields.map (·.1)))]
where
  encodeAll : List Schema → List Value
    | [] => []
    | s :: rest => encode s :: encodeAll rest
  encodeFields : List (String × Schema) → List (String × Value)
    | [] => []
    | (k, s) :: rest => (k, encode s) :: encodeFields rest

def ofKind : ActionKind → Schema
  | .goTo => .object [("type", .word "goto"), ("url", .text)]
  | .click => .object [("type", .word "click"), ("selector", .text)]
  | .sleep => .object [("type", .word "sleep"), ("milliseconds", .integer 0 Action.longestSleep)]

def script : Schema :=
  .object [("version", .words [Version.current.tag]),
    ("actions", .array (.oneOf (ActionKind.all.map ofKind)))]

def answer : Schema :=
  .object [("message", .described "Short explanation of the script for the user"), ("script", script)]

end Schema

end BrowserCheck.Generation
