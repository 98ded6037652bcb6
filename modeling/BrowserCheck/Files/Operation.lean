import BrowserCheck.Dialogue
import BrowserCheck.Files.Tree

set_option autoImplicit false

namespace BrowserCheck.Files

open Text (Bytes)

inductive Operation where
  | read (path : String)
  | write (path : String) (contents : Bytes)
  | makeDirectories (path : String)
deriving DecidableEq, Repr

def Operation.Answer : Operation → Type
  | .read _ => Except OsError Bytes
  | .write _ _ => Except OsError Unit
  | .makeDirectories _ => Except OsError Unit

abbrev Access (α : Type) := Dialogue Operation Operation.Answer α

namespace Access

def read (path : String) : Access (Except OsError Bytes) := .ask (.read path) .done

def write (path : String) (contents : Bytes) : Access (Except OsError Unit) := .ask (.write path contents) .done

def makeDirectories (path : String) : Access (Except OsError Unit) := .ask (.makeDirectories path) .done

def readText (path : String) : Access (Except OsError String) :=
  (read path).bind fun r => .done (r.bind fun b =>
    match Text.decode? b with
    | some s => .ok s
    | none => .error .badText)

end Access

namespace Tree

def answer : (op : Operation) → Tree → op.Answer × Tree
  | .read path, t => (t.readFile [] path, t)
  | .write path contents, t => t.commit (t.writeFile [] path contents)
  | .makeDirectories path, t => t.makeDirectories [] path

end Tree

end BrowserCheck.Files
