import BrowserCheck.Shell.Lexer

set_option autoImplicit false

namespace BrowserCheck.Shell

structure Redirect where
  descriptor : Nat
  direction : Direction
  target : Word
deriving DecidableEq, Repr

structure Command where
  words : List Word
  redirects : List Redirect
deriving DecidableEq, Repr

namespace Command

def empty : Command := ⟨[], []⟩

def isEmpty (c : Command) : Bool := c.words.isEmpty && c.redirects.isEmpty

end Command

inductive Joint where
  | always
  | afterSuccess
  | afterFailure
deriving DecidableEq, Repr

structure Pipeline where
  joint : Joint
  commands : List Command
deriving DecidableEq, Repr

def unexpected (symbol : String) : String :=
  if symbol = "\n" then "newline unexpected" else "\"" ++ symbol ++ "\" unexpected"

def jointOf? : String → Option Joint
  | ";" | "&" | "\n" => some .always
  | "&&" => some .afterSuccess
  | "||" => some .afterFailure
  | _ => none

def pipelines (p : Pipeline) (c : Command) : List Token → Except String (List Pipeline)
  | [] =>
    if ¬c.isEmpty then .ok [{ p with commands := p.commands ++ [c] }]
    else if p.commands.isEmpty ∧ p.joint = .always then .ok []
    else .error "end of file unexpected"
  | .word w :: rest => pipelines p { c with words := c.words ++ [w] } rest
  | .redirect descriptor direction :: .word w :: rest =>
    pipelines p { c with redirects := c.redirects ++ [⟨descriptor, direction, w⟩] } rest
  | .redirect _ _ :: .operator symbol :: _ => .error (unexpected symbol)
  | .redirect _ _ :: .redirect _ _ :: _ => .error "redirection unexpected"
  | [.redirect _ _] => .error "end of file unexpected"
  | .operator symbol :: rest =>
    if c.isEmpty then
      if symbol = "\n" then pipelines p c rest else .error (unexpected symbol)
    else if symbol = "|" then pipelines { p with commands := p.commands ++ [c] } .empty rest
    else
      match jointOf? symbol with
      | some joint => do
        let after ← pipelines ⟨joint, []⟩ .empty rest
        return { p with commands := p.commands ++ [c] } :: after
      | none => .error (unexpected symbol)

def parse (line : String) : Except String (List Pipeline) := do
  pipelines ⟨.always, []⟩ .empty (← tokens line)

end BrowserCheck.Shell
