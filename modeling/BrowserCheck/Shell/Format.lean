import BrowserCheck.Text.Bytes
import BrowserCheck.Text.Basic

set_option autoImplicit false

namespace BrowserCheck.Shell

open Text (Bytes)

inductive Item where
  | bytes (b : Bytes)
  | directive (c : Char)
deriving DecidableEq, Repr

namespace Format

inductive Mode where
  | plain
  | backslash
  | octal (left value : Nat)
  | percent
  | stopped
deriving DecidableEq, Repr

structure Scanner where
  mode : Mode
  items : List Item
deriving DecidableEq, Repr

def octalDigit? (c : Char) : Option Nat :=
  if '0' ≤ c ∧ c ≤ '7' then some (c.toNat - '0'.toNat) else none

def escaped? (c : Char) : Option UInt8 :=
  [('\\', 0x5C), ('a', 0x07), ('b', 0x08), ('f', 0x0C), ('n', 0x0A), ('r', 0x0D), ('t', 0x09),
    ('v', 0x0B)].lookup c

namespace Scanner

def add (s : Scanner) (i : Item) (m : Mode) : Scanner := ⟨m, i :: s.items⟩

def addChar (s : Scanner) (c : Char) : Scanner := s.add (.bytes (Text.encode (String.singleton c))) .plain

def stepPlain (format : Bool) (s : Scanner) (c : Char) : Scanner :=
  if c = '\\' then { s with mode := .backslash }
  else if c = '%' ∧ format then { s with mode := .percent }
  else s.addChar c

def stepBackslash (format : Bool) (s : Scanner) (c : Char) : Scanner :=
  if c = 'c' ∧ ¬format then { s with mode := .stopped }
  else if c = '0' ∧ ¬format then { s with mode := .octal 3 0 }
  else
    match octalDigit? c with
    | some d => { s with mode := .octal 2 d }
    | none =>
      match escaped? c with
      | some b => s.add (.bytes [b]) .plain
      | none => (s.addChar '\\').addChar c

def step (format : Bool) (s : Scanner) (c : Char) : Scanner :=
  match s.mode with
  | .plain => s.stepPlain format c
  | .backslash => s.stepBackslash format c
  | .octal left value =>
    match left, octalDigit? c with
    | left + 1, some d => { s with mode := .octal left (value * 8 + d) }
    | _, _ => (s.add (.bytes [value.toUInt8]) .plain).stepPlain format c
  | .percent => if c = '%' then s.addChar '%' else s.add (.directive c) .plain
  | .stopped => s

def finish (s : Scanner) : List Item × Bool :=
  match s.mode with
  | .plain => (s.items.reverse, false)
  | .backslash => ((s.addChar '\\').items.reverse, false)
  | .octal _ value => ((s.add (.bytes [value.toUInt8]) .plain).items.reverse, false)
  | .percent => ((s.addChar '%').items.reverse, false)
  | .stopped => (s.items.reverse, true)

end Scanner

def scan (format : Bool) (text : String) : List Item × Bool :=
  (text.toList.foldl (Scanner.step format) ⟨.plain, []⟩).finish

def bytesOf (items : List Item) : Bytes :=
  items.flatMap fun
    | .bytes b => b
    | .directive _ => []

def unescape (text : String) : Bytes × Bool :=
  let (items, stopped) := scan false text
  (bytesOf items, stopped)

def firstChar (s : String) : String := String.ofList (s.toList.take 1)

def directive? (c : Char) (argument : Option String) : Option Bytes :=
  let text := argument.getD ""
  let integer := (Text.signedDecimal? text.toList).getD 0
  if c = 's' then some (Text.encode text)
  else if c = 'b' then some (unescape text).1
  else if c = 'c' then some (Text.encode (firstChar text))
  else if c = 'd' ∨ c = 'i' ∨ c = 'u' then some (Text.encode (toString integer))
  else if c = 'x' then some (Text.encode (String.ofList (Nat.toDigits 16 integer.toNat)))
  else if c = 'o' then some (Text.encode (String.ofList (Nat.toDigits 8 integer.toNat)))
  else none

def fill : List Item → List String → Except Char (Bytes × List String)
  | [], arguments => .ok ([], arguments)
  | .bytes b :: rest, arguments => (fill rest arguments).map fun p => (b ++ p.1, p.2)
  | .directive c :: rest, arguments =>
    match directive? c arguments.head? with
    | none => .error c
    | some b => (fill rest arguments.tail).map fun p => (b ++ p.1, p.2)

def fillAll (items : List Item) (arguments : List String) : Nat → Except Char Bytes
  | 0 => .ok []
  | turns + 1 => do
    let (b, rest) ← fill items arguments
    if rest.isEmpty ∨ rest.length = arguments.length then return b
    else return b ++ (← fillAll items rest turns)

end Format

end BrowserCheck.Shell
