import BrowserCheck.Json.Decode
import BrowserCheck.Json.Writer
import BrowserCheck.Script.Action

set_option autoImplicit false

/-! Scripts as JSON, without the rules on version and sleep. -/

namespace BrowserCheck

open Json

namespace Action

def encode : Action → Value
  | goTo url => .object [("type", .text "goto"), ("url", .text url)]
  | click selector => .object [("type", .text "click"), ("selector", .text selector)]
  | sleep milliseconds =>
    .object [("type", .text "sleep"), ("milliseconds", .ofNat milliseconds.toNat)]

def decodeAs (kind : ActionKind) (w : Written) : Option Action :=
  match kind with
  | .goTo => do
    let [url] ← w.slots? .json ["url"] | none
    return .goTo (← url.required Written.text?)
  | .click => do
    let [selector] ← w.slots? .json ["selector"] | none
    return .click (← selector.required Written.text?)
  | .sleep => do
    let [milliseconds] ← w.slots? .json ["milliseconds"] | none
    return .sleep (← milliseconds.required Written.uint64?)

def decode? : Decoder Action := fun w => do
  let (tag, rest) ← w.tagged? "type"
  let kind ← ActionKind.ofTag? tag
  decodeAs kind rest

end Action

namespace Script

def encode (s : Script) : Value :=
  .object [("version", .text s.version), ("actions", .array (s.actions.map Action.encode))]

def toValue (s : Script) : Value := s.encode.sort

def decode? : Decoder Script := fun w => do
  let [version, actions] ← w.slots? .json ["version", "actions"] | none
  return ⟨← version.required Written.text?, ← actions.required (Written.list? Action.decode?)⟩

end Script

end BrowserCheck
