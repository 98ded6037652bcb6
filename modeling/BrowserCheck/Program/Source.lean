import BrowserCheck.Program.Statement
import BrowserCheck.Text.Basic

set_option autoImplicit false

namespace BrowserCheck.Program

structure Source where
  text : List Char
  level : Nat

namespace Source

def atLevel (level : Nat) : Source := ⟨[], level⟩

def margin (level : Nat) : List Char := List.replicate (2 * level) ' '

def line (s : Source) (code : String) : Source :=
  { s with text := s.text ++ margin s.level ++ code.toList ++ ['\n'] }

def blank (s : Source) : Source := { s with text := s.text ++ ['\n'] }

def indent (s : Source) : Source := { s with level := s.level + 1 }

def dedent (s : Source) : Source := { s with level := s.level - 1 }

def blockLine (s : Source) (code : List Char) : Source :=
  if code.isEmpty then s.blank else s.line (String.ofList code)

def block (s : Source) (text : String) : Source := (Text.lines text.toList).foldl blockLine s

def statement (s : Source) (stmt : Statement) : Source :=
  let s := s.line stmt.code
  if stmt.isCapture then s.blank else s

def statements (s : Source) (stmts : List Statement) : Source := stmts.foldl statement s

def toText (s : Source) : String := String.ofList s.text

end Source

end BrowserCheck.Program
