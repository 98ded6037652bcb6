import BrowserCheck.Generation.Reply

set_option autoImplicit false

namespace BrowserCheck.Generation

open Json Web

def send (c : ModelSettings) (apiKey : String) (turns : List Turn) : Exchange (Outcome Value) :=
  .ask (request c apiKey turns) fun r => .done (bodyOf r)

-- how often a paused turn is taken up again
def continuations : Nat := 3

def converse (c : ModelSettings) (apiKey : String) (turns : List Turn) : Nat → Exchange (Outcome Value)
  | 0 => send c apiKey turns
  | left + 1 => (send c apiKey turns).andThen fun body =>
    if isPaused body then
      converse c apiKey (turns ++ [⟨"assistant", (body.get? "content").getD .null⟩]) left
    else .done (.ok body)

def generate (reads : AddressReader) (c : ModelSettings) (apiKey : String) (r : GenerateRequest) :
    Exchange (Outcome GenerateResponse) :=
  match r.check reads with
  | .error f => .done (.error f)
  | .ok () =>
    (converse c apiKey [⟨"user", .text r.userPrompt⟩] continuations).bind fun body =>
      .done (body.bind readReply)

def refuse (reads : AddressReader) (reason : String) (r : GenerateRequest) : Exchange (Outcome GenerateResponse) :=
  match r.check reads with
  | .error f => .done (.error f)
  | .ok () => .done (.error (.generation ("generation disabled: " ++ reason)))

def apiKey (c : ModelSettings) (lookup : String → Option String) : Outcome String :=
  match lookup c.apiKeyEnv with
  | some key => .ok key
  | none => .error (.invalidConfig (c.apiKeyEnv ++ " is not set"))

end BrowserCheck.Generation
