set_option autoImplicit false

namespace BrowserCheck.Shell

inductive Piece where
  | text (s : List Char)
  | parameter (name : String) (quoted : Bool)
deriving DecidableEq, Repr

abbrev Word := List Piece

inductive Direction where
  | read
  | write
  | append
  | duplicate
deriving DecidableEq, Repr

inductive Token where
  | word (w : Word)
  | operator (symbol : String)
  | redirect (descriptor : Nat) (direction : Direction)
deriving DecidableEq, Repr

namespace Word

def isNameStart (c : Char) : Bool := c.isAlpha || c == '_'

def isNamePart (c : Char) : Bool := c.isAlphanum || c == '_'

def assignment? (name : List Char) : Word → Option (String × Word)
  | .text [c] :: rest =>
    if c = '=' ∧ name ≠ [] then some (String.ofList name.reverse, rest)
    else if (if name.isEmpty then isNameStart c else isNamePart c) then assignment? (c :: name) rest
    else none
  | _ => none

def expand (value : String → String) (field : Option (List Char)) : Word → List String
  | [] => (field.map String.ofList).toList
  | .text s :: rest => expand value (some (field.getD [] ++ s)) rest
  | .parameter name true :: rest => expand value (some (field.getD [] ++ (value name).toList)) rest
  | .parameter name false :: rest =>
    let (done, field) := (value name).toList.foldl split ([], field)
    done ++ expand value field rest
where
  split : List String × Option (List Char) → Char → List String × Option (List Char)
    | (done, field), c =>
      if c = ' ' ∨ c = '\t' ∨ c = '\n' then (done ++ (field.map String.ofList).toList, none)
      else (done, some (field.getD [] ++ [c]))

def join (value : String → String) (w : Word) : String :=
  String.ofList (w.flatMap fun
    | .text s => s
    | .parameter name _ => (value name).toList)

end Word

end BrowserCheck.Shell
