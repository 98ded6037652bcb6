import BrowserCheck.Json.Numeral

set_option autoImplicit false

namespace BrowserCheck.Json

namespace Writer

def escapeChar (c : Char) : List Char :=
  match c with
  | '"' => "\\\"".toList
  | '\\' => "\\\\".toList
  | '\x08' => "\\b".toList
  | '\x0c' => "\\f".toList
  | '\n' => "\\n".toList
  | '\r' => "\\r".toList
  | '\t' => "\\t".toList
  | c =>
    if c.toNat < 0x20 then "\\u00".toList ++ [Text.hexDigit (c.toNat / 16), Text.hexDigit (c.toNat % 16)]
    else [c]

def quote (s : String) : List Char := '"' :: (s.toList.flatMap escapeChar ++ ['"'])

def word (b : Bool) : List Char := (if b then "true" else "false").toList

mutual

def compact : Value → List Char
  | .null => "null".toList
  | .boolean b => word b
  | .number n => n.toText
  | .text s => quote s
  | .array items => '[' :: (compactItems true items ++ [']'])
  | .object fields => '\x7b' :: (compactFields true fields ++ ['\x7d'])

def compactItems (first : Bool) : List Value → List Char
  | [] => []
  | v :: rest => (if first then [] else [',']) ++ compact v ++ compactItems false rest

def compactFields (first : Bool) : List (String × Value) → List Char
  | [] => []
  | (k, v) :: rest =>
    (if first then [] else [',']) ++ quote k ++ ':' :: compact v ++ compactFields false rest

end

def newline (level : Nat) : List Char := '\n' :: List.replicate (2 * level) ' '

mutual

def pretty (level : Nat) : Value → List Char
  | .null => "null".toList
  | .boolean b => word b
  | .number n => n.toText
  | .text s => quote s
  | .array items =>
    if items.isEmpty then "[]".toList
    else '[' :: (prettyItems (level + 1) true items ++ newline level ++ [']'])
  | .object fields =>
    if fields.isEmpty then "\x7b\x7d".toList
    else '\x7b' :: (prettyFields (level + 1) true fields ++ newline level ++ ['\x7d'])

def prettyItems (level : Nat) (first : Bool) : List Value → List Char
  | [] => []
  | v :: rest =>
    (if first then [] else [',']) ++ newline level ++ pretty level v ++ prettyItems level false rest

def prettyFields (level : Nat) (first : Bool) : List (String × Value) → List Char
  | [] => []
  | (k, v) :: rest =>
    (if first then [] else [',']) ++ newline level ++ quote k ++ ": ".toList ++ pretty level v ++
      prettyFields level false rest

end

end Writer

namespace Value

def toText (v : Value) : String := String.ofList (Writer.compact v)

def toPretty (v : Value) : String := String.ofList (Writer.pretty 0 v)

end Value

end BrowserCheck.Json
