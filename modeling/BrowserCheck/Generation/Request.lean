import BrowserCheck.Failure
import BrowserCheck.Script.Check
import BrowserCheck.Script.Codec
import BrowserCheck.Text.Basic

set_option autoImplicit false

namespace BrowserCheck

open Json

namespace Web

-- what is asked of an address: whether other addresses can be relative to it
structure Address where
  canBeBase : Bool
deriving DecidableEq, Repr

/-- Addresses are read by a library of their own, which tells why a text is none. -/
abbrev AddressReader := String → Except String Address

end Web

structure GenerateRequest where
  url : String
  prompt : String
  previousScript : Option Script
deriving DecidableEq, Repr

namespace GenerateRequest

def check (reads : Web.AddressReader) (r : GenerateRequest) : Outcome Unit :=
  match reads r.url with
  | .error e => .error (.invalidRequest ("url: " ++ e))
  | .ok address =>
    if ¬address.canBeBase then .error (.invalidRequest "url: must be an absolute URL")
    else if r.prompt.trimBlank.isEmpty then .error (.invalidRequest "prompt: must not be empty")
    else .ok ()

def revision : String :=
  "\n\nRevise this existing script according to the request above. Keep the steps that still apply.\n"

def userPrompt (r : GenerateRequest) : String :=
  let asked := "URL - " ++ r.url ++ "\n" ++ r.prompt
  match r.previousScript with
  | none => asked
  | some s => asked ++ revision ++ s.toValue.toText

def encode (r : GenerateRequest) : Value :=
  .object ([("url", .text r.url), ("prompt", .text r.prompt)] ++
    (r.previousScript.map fun s => ("previousScript", s.encode)).toList)

def decode? : Decoder GenerateRequest := fun w => do
  let [url, prompt, previousScript] ← w.slots? .json ["url", "prompt", "previousScript"] | none
  return ⟨← url.required Written.text?, ← prompt.required Written.text?,
    ← previousScript.optional Script.decode?⟩

end GenerateRequest

structure GenerateResponse where
  message : String
  script : Script
deriving DecidableEq, Repr

namespace GenerateResponse

def encode (r : GenerateResponse) : Value :=
  .object [("message", .text r.message), ("script", r.script.encode)]

def decode? : Decoder GenerateResponse := fun w => do
  let [message, script] ← w.slots? .json ["message", "script"] | none
  return ⟨← message.required Written.text?, ← script.required Script.decode?⟩

end GenerateResponse

end BrowserCheck
