import BrowserCheck.Toml.Scalar
import BrowserCheck.Toml.Table

set_option autoImplicit false

namespace BrowserCheck.Toml

open Json

namespace Reader

def isSpace (c : Char) : Bool := c == ' ' || c == '\t'

def skipSpace (s : List Char) : List Char := s.dropWhile isSpace

def isInline (c : Char) : Bool := c == '\t' || (0x20 ≤ c.toNat && c.toNat != 0x7F)

def lineEnd? (s : List Char) : Option (List Char) :=
  let s := skipSpace s
  let s := if s.head? = some '#' then s.dropWhile isInline else s
  match s with
  | [] => some []
  | '\n' :: rest => some rest
  | '\r' :: '\n' :: rest => some rest
  | _ => none

def skipGap : Bool → List Char → Option (List Char)
  | _, [] => some []
  | inComment, c :: rest =>
    if c = '\n' then skipGap false rest
    else if c = '\r' then if rest.head? = some '\n' then skipGap inComment rest else none
    else if inComment then if isInline c then skipGap true rest else none
    else if isSpace c then skipGap false rest
    else if c = '#' then skipGap true rest
    else some (c :: rest)

inductive Escape where
  | plain
  | backslash
  | unit (left value : Nat)
  | trim (crossed : Bool)

def escaped? (c : Char) : Option Char :=
  match c with
  | 'b' => some '\x08'
  | 't' => some '\t'
  | 'n' => some '\n'
  | 'f' => some '\x0c'
  | 'r' => some '\r'
  | '"' => some '"'
  | '\\' => some '\\'
  | _ => none

def charOf? (n : Nat) : Option Char := if n.isValidChar then some (Char.ofNat n) else none

def stepEscape? (e : Escape) (c : Char) : Option (List Char × Escape) :=
  match e with
  | .backslash =>
    if c = 'u' then some ([], .unit 3 0)
    else if c = 'U' then some ([], .unit 7 0)
    else (escaped? c).map fun d => ([d], .plain)
  | .unit left value => do
    let d ← Text.hexValue? c
    if left = 0 then (charOf? (value * 16 + d)).map fun d => ([d], .plain)
    else some ([], .unit (left - 1) (value * 16 + d))
  | _ => none

def basic? : Escape → List Char → List Char → Option (List Char × List Char)
  | _, _, [] => none
  | .plain, done, c :: rest =>
    if c = '"' then some (done.reverse, rest)
    else if c = '\\' then basic? .backslash done rest
    else if isInline c then basic? .plain (c :: done) rest
    else none
  | e, done, c :: rest =>
    match stepEscape? e c with
    | some (more, e) => basic? e (more ++ done) rest
    | none => none

def literal? : List Char → List Char → Option (List Char × List Char)
  | _, [] => none
  | done, c :: rest =>
    if c = '\'' then some (done.reverse, rest)
    else if isInline c then literal? (c :: done) rest
    else none

def closeLong (quote : Char) (quotes : Nat) (done rest : List Char) : List Char × List Char :=
  ((List.replicate (quotes - 3) quote ++ done).reverse, rest)

def afterTrim (rest : List Char) : Escape :=
  match rest with
  | c :: _ => if isSpace c || c == '\n' || c == '\r' then .trim true else .plain
  | [] => .plain

def stepTrim? (crossed : Bool) (c : Char) (rest : List Char) : Option Escape :=
  if c = '\n' then some (afterTrim rest)
  else if c = '\r' then if rest.head? = some '\n' then some (.trim crossed) else none
  else if isSpace c then if crossed then some (afterTrim rest) else some (.trim false)
  else none

def longBasic? : Escape → Nat → List Char → List Char → Option (List Char × List Char)
  | .plain, quotes, done, [] => if 3 ≤ quotes then some (closeLong '"' quotes done []) else none
  | _, _, _, [] => none
  | .plain, quotes, done, c :: rest =>
    if c = '"' then
      if quotes = 4 then some (closeLong '"' 5 done rest) else longBasic? .plain (quotes + 1) done rest
    else if 3 ≤ quotes then some (closeLong '"' quotes done (c :: rest))
    else
      let done := List.replicate quotes '"' ++ done
      if c = '\\' then longBasic? .backslash 0 done rest
      else if c = '\n' ∨ isInline c then longBasic? .plain 0 (c :: done) rest
      else if c = '\r' ∧ rest.head? = some '\n' then longBasic? .plain 0 done rest
      else none
  | .trim crossed, _, done, c :: rest =>
    match stepTrim? crossed c rest with
    | some e => longBasic? e 0 done rest
    | none => none
  | e, _, done, c :: rest =>
    match stepEscape? e c with
    | some (more, e) => longBasic? e 0 (more ++ done) rest
    | none =>
      match e with
      | .backslash =>
        match stepTrim? false c rest with
        | some e => longBasic? e 0 done rest
        | none => none
      | _ => none

def longLiteral? : Nat → List Char → List Char → Option (List Char × List Char)
  | quotes, done, [] => if 3 ≤ quotes then some (closeLong '\'' quotes done []) else none
  | quotes, done, c :: rest =>
    if c = '\'' then
      if quotes = 4 then some (closeLong '\'' 5 done rest) else longLiteral? (quotes + 1) done rest
    else if 3 ≤ quotes then some (closeLong '\'' quotes done (c :: rest))
    else
      let done := List.replicate quotes '\'' ++ done
      if c = '\n' ∨ isInline c then longLiteral? 0 (c :: done) rest
      else if c = '\r' ∧ rest.head? = some '\n' then longLiteral? 0 done rest
      else none

def skipNewline : List Char → List Char
  | '\n' :: rest => rest
  | '\r' :: '\n' :: rest => rest
  | s => s

def string? (s : List Char) : Option (String × List Char) :=
  let read :=
    match s with
    | '"' :: '"' :: '"' :: rest => longBasic? .plain 0 [] (skipNewline rest)
    | '"' :: rest => basic? .plain [] rest
    | '\'' :: '\'' :: '\'' :: rest => longLiteral? 0 [] (skipNewline rest)
    | '\'' :: rest => literal? [] rest
    | _ => none
  read.map fun p => (String.ofList p.1, p.2)

def isBare (c : Char) : Bool := c.isAlphanum || c == '_' || c == '-'

def simpleKey? (s : List Char) : Option (String × List Char) :=
  match s with
  | '"' :: rest => (basic? .plain [] rest).map fun p => (String.ofList p.1, p.2)
  | '\'' :: rest => (literal? [] rest).map fun p => (String.ofList p.1, p.2)
  | s =>
    let name := s.takeWhile isBare
    if name.isEmpty then none else some (String.ofList name, s.dropWhile isBare)

def key? (s : List Char) : Option (List String × List Char) :=
  match simpleKey? s with
  | none => none
  | some (name, rest) =>
    match skipSpace rest with
    | '.' :: more =>
      if (skipSpace more).length < s.length then
        (key? (skipSpace more)).map fun p => (name :: p.1, p.2)
      else none
    | _ => some ([name], rest)
termination_by s.length

def splitLast? : List String → Option (List String × String)
  | [] => none
  | [name] => some ([], name)
  | name :: rest => (splitLast? rest).map fun p => (name :: p.1, p.2)

def isTokenChar (c : Char) : Bool := c.isAlphanum || ['_', '+', '-', '.', ':'].contains c

-- a date and a time may have a blank between them
def token (s : List Char) : List Char × List Char :=
  let first := s.takeWhile isTokenChar
  let rest := s.dropWhile isTokenChar
  match date? first, rest with
  | some [], ' ' :: more =>
    if more.head?.any Char.isDigit then
      (first ++ ' ' :: more.takeWhile isTokenChar, more.dropWhile isTokenChar)
    else (first, rest)
  | _, _ => (first, rest)

def items? (value? : List Char → Option (Written × List Char)) (s : List Char) :
    Option (List Written × List Char) :=
  match skipGap false s with
  | none => none
  | some (']' :: rest) => some ([], rest)
  | some s' =>
    match value? s' with
    | none => none
    | some (w, rest) =>
      match skipGap false rest with
      | some (']' :: rest) => some ([w], rest)
      | some (',' :: rest) =>
        if rest.length < s.length then (items? value? rest).map fun p => (w :: p.1, p.2) else none
      | _ => none
termination_by s.length

def pair? (value? : List Char → Option (Written × List Char)) (s : List Char) :
    Option (List String × Written × List Char) :=
  match key? s with
  | none => none
  | some (key, rest) =>
    match skipSpace rest with
    | '=' :: rest => (value? (skipSpace rest)).map fun p => (key, p.1, p.2)
    | _ => none

def pairs? (value? : List Char → Option (Written × List Char)) (t : Table) (s : List Char) :
    Option (Table × List Char) :=
  match pair? value? (skipSpace s) with
  | none => none
  | some (key, w, rest) =>
    match (splitLast? key).bind fun k => t.insert k.1 k.2 (.value w) with
    | none => none
    | some t =>
      match skipSpace rest with
      | '\x7d' :: rest => some (t, rest)
      | ',' :: rest => if rest.length < s.length then pairs? value? t rest else none
      | _ => none
termination_by s.length

def inlineTable? (value? : List Char → Option (Written × List Char)) (s : List Char) :
    Option (Written × List Char) :=
  match skipSpace s with
  | '\x7d' :: rest => some (.object [], rest)
  | s => (pairs? value? [] s).map fun p => (p.1.written, p.2)

def value? : Nat → List Char → Option (Written × List Char)
  | 0, _ => none
  | depth + 1, s =>
    match s with
    | [] => none
    | c :: rest =>
      if c = '"' ∨ c = '\'' then (string? s).map fun p => (.text p.1, p.2)
      else if c = '[' then
        if depth = 0 then none else (items? (value? depth) rest).map fun p => (.array p.1, p.2)
      else if c = '\x7b' then
        if depth = 0 then none else inlineTable? (value? depth) rest
      else (scalar? (token s).1).map fun w => (w, (token s).2)

def depthLimit : Nat := 80

structure State where
  root : Table
  header : List String

def header? (open? : List String → String → Table → Option Table) (closing : List Char) (st : State)
    (s : List Char) : Option (State × List Char) := do
  let (path, rest) ← key? (skipSpace s)
  let rest ← closing.isPrefixOf? (skipSpace rest)
  let rest ← lineEnd? rest
  let (init, last) ← splitLast? path
  let root ← open? init last st.root
  return (⟨root, path⟩, rest)

def pairLine? (st : State) (s : List Char) : Option (State × List Char) := do
  let (key, w, rest) ← pair? (value? depthLimit) s
  let rest ← lineEnd? rest
  let (path, name) ← splitLast? key
  let root ← st.root.insertAt st.header path name (.value w)
  return (⟨root, st.header⟩, rest)

def line? (st : State) (s : List Char) : Option (State × List Char) :=
  match skipSpace s with
  | '[' :: '[' :: rest => header? (fun p k t => t.openElement p k) "]]".toList st rest
  | '[' :: rest => header? (fun p k t => t.openTable p k) "]".toList st rest
  | rest =>
    match lineEnd? s with
    | some rest => some (st, rest)
    | none => pairLine? st rest

def document? (st : State) (s : List Char) : Option Table :=
  if s.isEmpty then some st.root
  else
    match line? st s with
    | none => none
    | some (st, rest) => if rest.length < s.length then document? st rest else none
termination_by s.length

def skipMark : List Char → List Char
  | '\uFEFF' :: rest => rest
  | s => s

end Reader

def read? (text : String) : Option Written :=
  (Reader.document? ⟨[], []⟩ (Reader.skipMark text.toList)).map Table.written

end BrowserCheck.Toml
