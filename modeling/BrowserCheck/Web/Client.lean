import BrowserCheck.Generation.Request
import BrowserCheck.Run.Report
import BrowserCheck.Web.Http

set_option autoImplicit false

namespace BrowserCheck.Web

open Json

structure Client where
  baseUrl : String
deriving DecidableEq, Repr

namespace Client

def ofUrl (url : String) : Client := ⟨withoutSlashes url⟩

def errorMessage (body : String) : String :=
  (((Value.read? body).bind (·.get? "error")).bind Value.text?).getD body.trimBlank

def decode {α : Type} (d : Decoder α) : Except NoAnswer Response → Except String α
  | .error e => .error e.detail
  | .ok r =>
    if Status.isSuccess r.status then
      match (Written.readBytes? r.body).bind d with
      | some a => .ok a
      | none => .error "error decoding response body"
    else .error (errorMessage (Text.lossy r.body) ++ " (" ++ Status.text r.status ++ ")")

def healthRequest (c : Client) : Request := ⟨"GET", c.baseUrl ++ "/health", [], none⟩

def generateRequest (c : Client) (r : GenerateRequest) : Request :=
  ⟨"POST", c.baseUrl ++ "/generate", [], some r.encode⟩

def runRequest (c : Client) (s : Script) : Request :=
  ⟨"POST", c.baseUrl ++ "/run", [], some (.object [("script", s.encode)])⟩

def health (c : Client) : Exchange (Except String Value) :=
  .ask c.healthRequest fun r => .done (decode Written.value? r)

def generate (c : Client) (r : GenerateRequest) : Exchange (Except String GenerateResponse) :=
  .ask (c.generateRequest r) fun a => .done (decode GenerateResponse.decode? a)

def run (c : Client) (s : Script) : Exchange (Except String RunResult) :=
  .ask (c.runRequest s) fun a => .done (decode RunResult.decode? a)

end Client

end BrowserCheck.Web
