import BrowserCheck.Script.Violation

set_option autoImplicit false

namespace BrowserCheck

inductive Failure where
  | io (detail : String)
  | serialization (detail : String)
  | invalidScript (violation : Violation)
  | unsupportedVersion (tag : String)
  | sandboxUnavailable (name : String) (attempts : Nat) (lastError : String)
  | sandbox (detail : String)
  | generation (detail : String)
  | invalidRequest (detail : String)
  | invalidConfig (detail : String)
  | internal (detail : String)
deriving DecidableEq, Repr

namespace Failure

def message : Failure → String
  | io detail => "IO error: " ++ detail
  | serialization detail => "Serialization error: " ++ detail
  | invalidScript violation => "Invalid script: " ++ violation.text
  | unsupportedVersion tag => "Unsupported script version: " ++ tag
  | sandboxUnavailable name attempts lastError =>
    "Sandbox " ++ name ++ " unavailable after " ++ toString attempts ++ " health check attempts: " ++
      lastError
  | sandbox detail => "Sandbox error: " ++ detail
  | generation detail => "Script generation failed: " ++ detail
  | invalidRequest detail => "Invalid request: " ++ detail
  | invalidConfig detail => "Invalid configuration: " ++ detail
  | internal detail => "Internal error: " ++ detail

def isCallers : Failure → Bool
  | invalidScript _ | unsupportedVersion _ | invalidRequest _ => true
  | _ => false

end Failure

abbrev Outcome (α : Type) := Except Failure α

namespace Outcome

variable {α β : Type} {x : Outcome α} {f : α → Outcome β}

theorem bind_eq_ok_iff {b : β} : x.bind f = .ok b ↔ ∃ a, x = .ok a ∧ f a = .ok b := by
  cases x with
  | ok a => simp [Except.bind]
  | error e => simp [Except.bind]

theorem bind_eq_error_iff {e : Failure} :
    x.bind f = .error e ↔ x = .error e ∨ ∃ a, x = .ok a ∧ f a = .error e := by
  cases x with
  | ok a => simp [Except.bind]
  | error e => simp [Except.bind]

end Outcome

end BrowserCheck
