import BrowserCheck.Files.Operation
import BrowserCheck.Web.Http

set_option autoImplicit false

namespace BrowserCheck.Cli

open Files Text

inductive Effect where
  | file (op : Operation)
  | input
  | request (r : Web.Request)

def Effect.Answer : Effect → Type
  | .file op => op.Answer
  | .input => Bytes
  | .request _ => Except Web.NoAnswer Web.Response

abbrev Job (α : Type) := Dialogue Effect Effect.Answer α

namespace Job

def ofAccess {α : Type} (a : Access α) : Job α := a.embed .file fun _ r => r

def ofExchange {α : Type} (e : Web.Exchange α) : Job α := e.embed .request fun _ r => r

def input : Job Bytes := .ask .input .done

end Job

structure Trouble where
  message : String
  cause : Option String
deriving DecidableEq, Repr

namespace Trouble

def plain (message : String) : Trouble := ⟨message, none⟩

def indented (cause : String) : String :=
  String.ofList (cause.toList.flatMap fun c => if c = '\n' then "\n    ".toList else [c])

def text (t : Trouble) : String :=
  "Error: " ++ t.message ++
    match t.cause with
    | some cause => "\n\nCaused by:\n    " ++ indented cause ++ "\n"
    | none => "\n"

end Trouble

structure Report where
  exitCode : Nat
  stdout : String
  stderr : String
deriving DecidableEq, Repr

namespace Report

def success (stdout : String) : Report := ⟨0, stdout, ""⟩

def trouble (t : Trouble) : Report := ⟨1, "", t.text⟩

end Report

def println (s : String) : String := s ++ "\n"

def success (s : String) : String := println ("✅ " ++ s)

def failure (s : String) : String := println ("❌ " ++ s)

def warning (s : String) : String := println ("⚠️  " ++ s)

def note (s : String) : String := println ("ℹ️  " ++ s)

end BrowserCheck.Cli
