import BrowserCheck.Json.Value

set_option autoImplicit false

namespace BrowserCheck

inductive ViolationKind where
  | notAnObject
  | missingField
  | invalidType
  | unknownAction
  | unsupportedVersion
deriving DecidableEq, Repr

structure Violation where
  kind : ViolationKind
  path : String
  message : String
deriving DecidableEq, Repr

namespace Violation

def text (v : Violation) : String := v.path ++ ": " ++ v.message

def missing (path : String) : Violation := ⟨.missingField, path, "required field is missing"⟩

def wrongType (path expected : String) (found : Json.Value) : Violation :=
  ⟨.invalidType, path, "expected " ++ expected ++ ", found " ++ found.typeName⟩

end Violation

end BrowserCheck
