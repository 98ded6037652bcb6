import BrowserCheck.Generation.Model

set_option autoImplicit false

namespace BrowserCheck.Generation

open Json Web

inductive Part where
  | toolUse (name : String) (input : Value)
  | other

namespace Part

def decode? : Decoder Part := fun w => do
  let (tag, rest) ← w.tagged? "type"
  if tag = "tool_use" then do
    let [name, input] ← rest.slots? .json ["name", "input"] | none
    return .toolUse (← name.required Written.text?) (← input.required Written.value?)
  else match rest with
    | .object _ | .array [] => some .other
    | _ => none

def submitted? : Part → Option Value
  | toolUse name input => if name = toolName then some input else none
  | other => none

end Part

def decodeParts? (w : Written) : Option (List Part) := do
  let [content] ← w.slots? .json ["content"] | none
  content.required (Written.list? Part.decode?)

def submission (body : Value) : Outcome Value :=
  match decodeParts? (.ofValue body) with
  | none => .error (.generation "unexpected response: not a message")
  | some parts =>
    match parts.findSome? Part.submitted? with
    | none => .error (.generation "model did not call the script tool")
    | some input => .ok input

def answerOf (input : Value) : Outcome GenerateResponse :=
  match input.get? "script" with
  | none => .error (.generation "tool input has no script")
  | some v =>
    match Script.check v with
    | .error e => .error (.generation ("model produced an invalid script: " ++ e.text))
    | .ok s => .ok ⟨((input.get? "message").bind Value.text?).getD "", s⟩

def readReply (body : Value) : Outcome GenerateResponse := (submission body).bind answerOf

def errorMessage (body : String) : String :=
  (((Value.read? body).bind (·.get? "error")).bind (·.get? "message")).bind Value.text?
    |>.getD body.trimBlank

def bodyOf : Except NoAnswer Web.Response → Outcome Value
  | .error e => .error (.generation e.detail)
  | .ok r =>
    if Status.isSuccess r.status then
      match Value.read? (Text.lossy r.body) with
      | some v => .ok v
      | none => .error (.generation "undecodable response: not a document")
    else .error (.generation (Status.text r.status ++ ": " ++ errorMessage (Text.lossy r.body)))

def isPaused (body : Value) : Bool :=
  match (body.get? "stop_reason").bind Value.text? with
  | some s => s == "pause_turn"
  | none => false

end BrowserCheck.Generation
