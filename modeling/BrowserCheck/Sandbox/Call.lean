import BrowserCheck.Dialogue
import BrowserCheck.Failure
import BrowserCheck.Run.Report

set_option autoImplicit false

namespace BrowserCheck.Sandbox

def quoteChar (c : Char) : List Char := if c = '\'' then ['\'', '\\', '\'', '\''] else [c]

def shellQuote (s : String) : String :=
  String.ofList ('\'' :: (s.toList.flatMap quoteChar ++ ['\'']))

/-- A sandbox that was acquired: its name, and how its shell sees a path. -/
structure Handle where
  name : String
  resolve : String → String

inductive Call where
  | acquire (name : String)
  | exec (command : String)
  | write (path contents : String)
  | pause (milliseconds : UInt64)
deriving DecidableEq, Repr

def Call.Answer : Call → Type
  | .acquire _ => Outcome Handle
  | .exec _ => Outcome RawOutput
  | .write _ _ => Outcome Unit
  | .pause _ => Unit

abbrev Session (α : Type) := Dialogue Call Call.Answer α

namespace Session

def acquire (name : String) : Session (Outcome Handle) := .ask (.acquire name) .done

def exec (command : String) : Session (Outcome RawOutput) := .ask (.exec command) .done

def write (path contents : String) : Session (Outcome Unit) := .ask (.write path contents) .done

end Session

end BrowserCheck.Sandbox
