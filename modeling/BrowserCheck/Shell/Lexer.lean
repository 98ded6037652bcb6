import BrowserCheck.Shell.Token

set_option autoImplicit false

namespace BrowserCheck.Shell

/-- Where the lexer is. A flag tells whether double quotes are open around that place. -/
inductive Mode where
  | plain
  | single
  | double
  | escape (quoted : Bool)
  | dollar (quoted : Bool)
  | name (quoted : Bool) (read : List Char)
  | braced (quoted : Bool) (read : List Char)
  | operator (c : Char)
  | redirect (descriptor : Nat) (c : Char)
  | comment
deriving DecidableEq, Repr

structure Lexer where
  mode : Mode
  tokens : List Token
  word : List Piece
deriving DecidableEq, Repr

namespace Lexer

def start : Lexer := ⟨.plain, [], []⟩

def goTo (l : Lexer) (m : Mode) : Lexer := { l with mode := m }

def addPiece (l : Lexer) (p : Piece) : Lexer := { l with word := p :: l.word }

def addChar (l : Lexer) (c : Char) : Lexer := l.addPiece (.text [c])

def addToken (l : Lexer) (t : Token) : Lexer := { l with tokens := t :: l.tokens }

def endWord (l : Lexer) : Lexer :=
  if l.word.isEmpty then l else { l with tokens := .word l.word.reverse :: l.tokens, word := [] }

def around (quoted : Bool) : Mode := if quoted then .double else .plain

def openRedirect (l : Lexer) (c : Char) : Lexer :=
  match l.word with
  | [.text [d]] =>
    if d.isDigit then { l with word := [], mode := .redirect (d.toNat - '0'.toNat) c }
    else l.endWord.goTo (.redirect (if c = '<' then 0 else 1) c)
  | _ => l.endWord.goTo (.redirect (if c = '<' then 0 else 1) c)

def stepPlain (l : Lexer) (c : Char) : Lexer :=
  if c = ' ' ∨ c = '\t' then l.endWord.goTo .plain
  else if c = '\n' then (l.endWord.addToken (.operator "\n")).goTo .plain
  else if c = '\'' then (l.addPiece (.text [])).goTo .single
  else if c = '"' then (l.addPiece (.text [])).goTo .double
  else if c = '\\' then l.goTo (.escape false)
  else if c = '$' then l.goTo (.dollar false)
  else if c = ';' ∨ c = '&' ∨ c = '|' then l.endWord.goTo (.operator c)
  else if c = '<' ∨ c = '>' then l.openRedirect c
  else if c = '(' ∨ c = ')' then (l.endWord.addToken (.operator (String.singleton c))).goTo .plain
  else if c = '#' ∧ l.word.isEmpty then l.goTo .comment
  else (l.addChar c).goTo .plain

def stepDouble (l : Lexer) (c : Char) : Lexer :=
  if c = '"' then l.goTo .plain
  else if c = '\\' then l.goTo (.escape true)
  else if c = '$' then l.goTo (.dollar true)
  else (l.addChar c).goTo .double

def stepAround (l : Lexer) (quoted : Bool) (c : Char) : Lexer :=
  if quoted then l.stepDouble c else l.stepPlain c

def isProtected (c : Char) : Bool := ['$', '`', '"', '\\'].contains c

def stepEscape (l : Lexer) (quoted : Bool) (c : Char) : Lexer :=
  if c = '\n' then l.goTo (around quoted)
  else if quoted ∧ ¬isProtected c then ((l.addChar '\\').addChar c).goTo .double
  else (l.addChar c).goTo (around quoted)

def isSpecial (c : Char) : Bool := c.isDigit || ['?', '$', '#', '@', '*', '!', '-'].contains c

def addParameter (l : Lexer) (quoted : Bool) (read : List Char) : Lexer :=
  (l.addPiece (.parameter (String.ofList read.reverse) quoted)).goTo (around quoted)

def stepDollar (l : Lexer) (quoted : Bool) (c : Char) : Lexer :=
  if Word.isNameStart c then l.goTo (.name quoted [c])
  else if isSpecial c then l.addParameter quoted [c]
  else if c = '\x7b' then l.goTo (.braced quoted [])
  else (l.addChar '$').stepAround quoted c

def stepOperator (l : Lexer) (first c : Char) : Lexer :=
  if c = first then (l.addToken (.operator (String.ofList [first, c]))).goTo .plain
  else (l.addToken (.operator (String.singleton first))).stepPlain c

def direction (c : Char) : Direction := if c = '<' then .read else .write

def stepRedirect (l : Lexer) (descriptor : Nat) (first c : Char) : Lexer :=
  if c = '&' then (l.addToken (.redirect descriptor .duplicate)).goTo .plain
  else if first = '>' ∧ c = '>' then (l.addToken (.redirect descriptor .append)).goTo .plain
  else if first = '>' ∧ c = '|' then (l.addToken (.redirect descriptor .write)).goTo .plain
  else (l.addToken (.redirect descriptor (direction first))).stepPlain c

def step (l : Lexer) (c : Char) : Lexer :=
  match l.mode with
  | .plain => l.stepPlain c
  | .single => if c = '\'' then l.goTo .plain else l.addChar c
  | .double => l.stepDouble c
  | .escape quoted => l.stepEscape quoted c
  | .dollar quoted => l.stepDollar quoted c
  | .name quoted read =>
    if Word.isNamePart c then l.goTo (.name quoted (c :: read))
    else (l.addParameter quoted read).stepAround quoted c
  | .braced quoted read =>
    if c = '\x7d' then l.addParameter quoted read else l.goTo (.braced quoted (c :: read))
  | .operator first => l.stepOperator first c
  | .redirect descriptor first => l.stepRedirect descriptor first c
  | .comment => if c = '\n' then l.stepPlain c else l

def finish (l : Lexer) : Except String (List Token) :=
  let tokens (l : Lexer) := l.endWord.tokens.reverse
  match l.mode with
  | .plain | .comment => .ok (tokens l)
  | .single | .double | .escape true | .dollar true | .name true _ => .error "Unterminated quoted string"
  | .escape false => .ok (tokens (l.addChar '\\'))
  | .dollar false => .ok (tokens (l.addChar '$'))
  | .name false read => .ok (tokens (l.addParameter false read))
  | .braced _ _ => .error "Missing '\x7d'"
  | .operator c => .ok (tokens (l.addToken (.operator (String.singleton c))))
  | .redirect descriptor c => .ok (tokens (l.addToken (.redirect descriptor (direction c))))

end Lexer

def tokens (line : String) : Except String (List Token) := (line.toList.foldl Lexer.step Lexer.start).finish

end BrowserCheck.Shell
