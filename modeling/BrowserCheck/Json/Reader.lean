import BrowserCheck.Json.Numeral
import BrowserCheck.Json.Written
import BrowserCheck.Text.Bytes

set_option autoImplicit false

/-! Reading JSON one character at a time, with the open containers on a stack. -/

namespace BrowserCheck.Json

namespace Reader

/-- The characters of a string so far, last one first. `high` is a leading surrogate that still needs
its other half, `broken` says that some surrogate stood alone. -/
structure Partial where
  chars : List Char
  high : Option Nat
  broken : Bool

namespace Partial

def empty : Partial := ⟨[], none, false⟩

def add (p : Partial) (c : Char) : Partial := ⟨c :: p.chars, none, p.broken || p.high.isSome⟩

def addUnit (p : Partial) (u : Nat) : Partial :=
  if 0xDC00 ≤ u ∧ u ≤ 0xDFFF then
    match p.high with
    | some h => ⟨Char.ofNat (0x10000 + (h - 0xD800) * 0x400 + (u - 0xDC00)) :: p.chars, none, p.broken⟩
    | none => ⟨p.chars, none, true⟩
  else if 0xD800 ≤ u ∧ u ≤ 0xDBFF then ⟨p.chars, some u, p.broken || p.high.isSome⟩
  else p.add (Char.ofNat u)

def finish? (p : Partial) : Option String :=
  if p.broken || p.high.isSome then none else some (String.ofList p.chars.reverse)

end Partial

inductive Escape where
  | plain
  | backslash
  | unit (count value : Nat)

inductive Digits where
  | sign | zero | whole | point | fraction | mark | markSign | power
deriving DecidableEq

namespace Digits

def first? (c : Char) : Option Digits :=
  if c = '0' then some .zero else if c.isDigit then some .whole else none

def afterWhole? (c : Char) : Option Digits :=
  if c = '.' then some .point else if isMark c then some .mark else none

def next? (d : Digits) (c : Char) : Option Digits :=
  match d with
  | .sign => first? c
  | .zero => afterWhole? c
  | .whole => if c.isDigit then some .whole else afterWhole? c
  | .point => if c.isDigit then some .fraction else none
  | .fraction => if c.isDigit then some .fraction else if isMark c then some .mark else none
  | .mark => if c = '+' ∨ c = '-' then some .markSign else if c.isDigit then some .power else none
  | .markSign => if c.isDigit then some .power else none
  | .power => if c.isDigit then some .power else none

def complete : Digits → Bool
  | .zero | .whole | .fraction | .power => true
  | _ => false

end Digits

inductive Open where
  | array (items : List Written)
  | object (fields : List (Option String × Written)) (key : Option String)

inductive Mode where
  | value
  | firstItem
  | firstKey
  | nextKey
  | colon
  | after
  | string (isKey : Bool) (escape : Escape) (content : Partial)
  | number (numeral : List Char) (digits : Digits)
  | word (left : List Char) (w : Written)
  | finished (w : Written)

structure State where
  stack : List Open
  mode : Mode

def start : State := ⟨[], .value⟩

def isSpace (c : Char) : Bool := c == ' ' || c == '\n' || c == '\t' || c == '\r'

def place (w : Written) : List Open → State
  | [] => ⟨[], .finished w⟩
  | .array items :: rest => ⟨.array (w :: items) :: rest, .after⟩
  | .object fields key :: rest => ⟨.object ((key, w) :: fields) none :: rest, .after⟩

def depthLimit : Nat := 127

def named? (fields : List (Option String × Written)) : Option (List (String × Written)) :=
  fields.mapM fun f => f.1.map (·, f.2)

def arrayOf (depth : Nat) (items : List Written) : Written :=
  if depthLimit < depth then .unreadable else .array items.reverse

def objectOf (depth : Nat) (fields : List (Option String × Written)) : Written :=
  if depthLimit < depth then .unreadable
  else match named? fields.reverse with
    | some named => .object named
    | none => .unreadable

def numberOf (numeral : List Char) : Written :=
  match Number.ofNumeral? numeral.reverse with
  | some n => .number n
  | none => .unreadable

def close (c : Char) : List Open → Option State
  | .array items :: rest =>
    if c = ']' then some (place (arrayOf (rest.length + 1) items) rest) else none
  | .object fields _ :: rest =>
    if c = '\x7d' then some (place (objectOf (rest.length + 1) fields) rest) else none
  | [] => none

def begin? (stack : List Open) (c : Char) : Option State :=
  if c = '"' then some ⟨stack, .string false .plain .empty⟩
  else if c = '[' then some ⟨.array [] :: stack, .firstItem⟩
  else if c = '\x7b' then some ⟨.object [] none :: stack, .firstKey⟩
  else if c = 'n' then some ⟨stack, .word "ull".toList .null⟩
  else if c = 't' then some ⟨stack, .word "rue".toList (.boolean true)⟩
  else if c = 'f' then some ⟨stack, .word "alse".toList (.boolean false)⟩
  else if c = '-' then some ⟨stack, .number [c] .sign⟩
  else (Digits.first? c).map fun d => ⟨stack, .number [c] d⟩

def stepBetween (s : State) (c : Char) : Option State :=
  if isSpace c then some s
  else match s.mode with
    | .value => begin? s.stack c
    | .firstItem => if c = ']' then close c s.stack else begin? s.stack c
    | .firstKey => if c = '"' then some ⟨s.stack, .string true .plain .empty⟩ else close c s.stack
    | .nextKey => if c = '"' then some ⟨s.stack, .string true .plain .empty⟩ else none
    | .colon => if c = ':' then some ⟨s.stack, .value⟩ else none
    | .after =>
      if c = ',' then
        match s.stack with
        | .array _ :: _ => some ⟨s.stack, .value⟩
        | .object _ _ :: _ => some ⟨s.stack, .nextKey⟩
        | [] => none
      else close c s.stack
    | _ => none

def escaped? (c : Char) : Option Char :=
  match c with
  | '"' => some '"'
  | '\\' => some '\\'
  | '/' => some '/'
  | 'b' => some '\x08'
  | 'f' => some '\x0c'
  | 'n' => some '\n'
  | 'r' => some '\r'
  | 't' => some '\t'
  | _ => none

def closeString (stack : List Open) (isKey : Bool) (p : Partial) : Option State :=
  if isKey then
    match stack with
    | .object fields _ :: rest => some ⟨.object fields p.finish? :: rest, .colon⟩
    | _ => none
  else match p.finish? with
    | some s => some (place (.text s) stack)
    | none => some (place .unreadable stack)

def stepString (stack : List Open) (isKey : Bool) (e : Escape) (p : Partial) (c : Char) : Option State :=
  match e with
  | .plain =>
    if c = '"' then closeString stack isKey p
    else if c = '\\' then some ⟨stack, .string isKey .backslash p⟩
    else if c.toNat < 0x20 then none
    else some ⟨stack, .string isKey .plain (p.add c)⟩
  | .backslash =>
    if c = 'u' then some ⟨stack, .string isKey (.unit 0 0) p⟩
    else (escaped? c).map fun d => ⟨stack, .string isKey .plain (p.add d)⟩
  | .unit count value =>
    (Text.hexValue? c).map fun d =>
      if count = 3 then ⟨stack, .string isKey .plain (p.addUnit (value * 16 + d))⟩
      else ⟨stack, .string isKey (.unit (count + 1) (value * 16 + d)) p⟩

def step (s : State) (c : Char) : Option State :=
  match s.mode with
  | .string isKey e p => stepString s.stack isKey e p c
  | .number numeral d =>
    match d.next? c with
    | some d => some ⟨s.stack, .number (c :: numeral) d⟩
    | none => if d.complete then stepBetween (place (numberOf numeral) s.stack) c else none
  | .word (x :: left) w =>
    if c = x then
      if left.isEmpty then some (place w s.stack) else some ⟨s.stack, .word left w⟩
    else none
  | _ => stepBetween s c

def stepOr (s : State) : Option Char → Option State
  | some c => step s c
  | none => match s.mode with
    | .string isKey .plain p => some ⟨s.stack, .string isKey .plain { p with broken := true }⟩
    | _ => none

def finish? (s : State) : Option Written :=
  match s.stack, s.mode with
  | [], .finished w => some w
  | [], .number numeral d => if d.complete then some (numberOf numeral) else none
  | _, _ => none

def readFirst? (s : State) : List Char → Option Written
  | [] => finish? s
  | c :: rest =>
    match s.stack, s.mode with
    | [], .finished w => some w
    | [], .number numeral d =>
      match d.next? c with
      | some d => readFirst? ⟨[], .number (c :: numeral) d⟩ rest
      | none => if d.complete then some (numberOf numeral) else none
    | _, _ => (step s c).bind fun s => readFirst? s rest

end Reader

def Written.read? (text : List Char) : Option Written :=
  (text.foldlM Reader.step Reader.start).bind Reader.finish?

def Written.readBytes? (b : Text.Bytes) : Option Written :=
  ((Text.characters b).foldlM Reader.stepOr Reader.start).bind Reader.finish?

def Value.readFirst? (text : String) : Option Value :=
  (Reader.readFirst? Reader.start text.toList).bind Written.value?

def Value.read? (text : String) : Option Value := (Written.read? text.toList).bind Written.value?

end BrowserCheck.Json
