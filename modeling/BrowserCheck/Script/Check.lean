import BrowserCheck.Json.Reader
import BrowserCheck.Script.Action
import BrowserCheck.Script.Violation

set_option autoImplicit false

namespace BrowserCheck

open Json (Value Fields)

namespace Action

-- above it the number of milliseconds is no exact double
def longestSleep : Nat := 2 ^ 53 - 1

def textField (fields : Fields) (path name : String) : Except Violation String :=
  let place := path ++ "." ++ name
  match fields.get? name with
  | none => .error (.missing place)
  | some (.text s) => .ok s
  | some v => .error (.wrongType place "string" v)

def sleepField (fields : Fields) (path : String) : Except Violation UInt64 :=
  let place := path ++ ".milliseconds"
  match fields.get? "milliseconds" with
  | none => .error (.missing place)
  | some (.number (.integer n)) =>
    if 0 ≤ n ∧ n ≤ longestSleep then .ok n.toNat.toUInt64
    else .error (.wrongType place "integer between 0 and 2^53 - 1" (.number (.integer n)))
  | some v => .error (.wrongType place "integer between 0 and 2^53 - 1" v)

def kindField (version : Version) (fields : Fields) (path : String) : Except Violation ActionKind :=
  let place := path ++ ".type"
  match fields.get? "type" with
  | none => .error (.missing place)
  | some (.text tag) =>
    match (ActionKind.ofTag? tag).filter version.vocabulary.contains with
    | some kind => .ok kind
    | none =>
      .error ⟨.unknownAction, place,
        "unknown action \"" ++ tag ++ "\" for script version " ++ version.tag⟩
  | some v => .error (.wrongType place "string" v)

def ofFields (kind : ActionKind) (fields : Fields) (path : String) : Except Violation Action :=
  match kind with
  | .goTo => (textField fields path "url").map .goTo
  | .click => (textField fields path "selector").map .click
  | .sleep => (sleepField fields path).map .sleep

def check (version : Version) (index : Nat) (item : Value) : Except Violation Action :=
  let path := "actions[" ++ toString index ++ "]"
  match item with
  | .object fields => do
    let kind ← kindField version fields path
    ofFields kind fields path
  | v => .error (.wrongType path "object" v)

def checkAll (version : Version) (index : Nat) : List Value → Except Violation (List Action)
  | [] => .ok []
  | item :: rest => do
    let action ← check version index item
    let actions ← checkAll version (index + 1) rest
    return action :: actions

end Action

namespace Script

def checkVersion (fields : Fields) : Except Violation Version :=
  match fields.get? "version" with
  | none => .error (.missing "version")
  | some (.text tag) =>
    match Version.ofTag? tag with
    | some version => .ok version
    | none =>
      .error ⟨.unsupportedVersion, "version",
        "expected \"" ++ Version.current.tag ++ "\", got \"" ++ tag ++ "\""⟩
  | some v => .error (.wrongType "version" "string" v)

def checkActions (version : Version) (fields : Fields) : Except Violation (List Action) :=
  match fields.get? "actions" with
  | none => .error (.missing "actions")
  | some (.array items) => Action.checkAll version 0 items
  | some v => .error (.wrongType "actions" "array" v)

def check (v : Value) : Except Violation Script :=
  match v with
  | .object fields => do
    let version ← checkVersion fields
    let actions ← checkActions version fields
    return ⟨version.tag, actions⟩
  | _ => .error ⟨.notAnObject, "$", "script must be a JSON object"⟩

def read (text : String) : Except Violation Script :=
  match Value.read? text with
  | some v => check v
  | none => .error ⟨.notAnObject, "$", "invalid JSON: not a document"⟩

end Script

end BrowserCheck
