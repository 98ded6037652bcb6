import BrowserCheck.Generation.Agent
import BrowserCheck.Sandbox.Gateway
import BrowserCheck.Web.ContentType

set_option autoImplicit false

namespace BrowserCheck.Web

open Json

inductive Effect where
  | sandbox (c : Sandbox.Call)
  | model (r : Request)

def Effect.Answer : Effect → Type
  | .sandbox c => c.Answer
  | .model _ => Except NoAnswer Response

abbrev Handling (α : Type) := Dialogue Effect Effect.Answer α

namespace Handling

def ofSession {α : Type} (s : Sandbox.Session α) : Handling α := s.embed .sandbox fun _ a => a

def ofExchange {α : Type} (e : Exchange α) : Handling α := e.embed .model fun _ a => a

end Handling

structure Incoming where
  method : String
  uri : String
  contentType : Option String
  body : Text.Bytes
deriving DecidableEq, Repr

structure Reply where
  status : Nat
  contentType : Option String
  body : String
deriving DecidableEq, Repr

namespace Reply

def empty (status : Nat) : Reply := ⟨status, none, ""⟩

def json (status : Nat) (v : Value) : Reply := ⟨status, some "application/json", v.toText⟩

-- why a script could not be generated is not told
def errorText : Failure → String
  | .generation _ => "Failed to generate script"
  | f => f.message

def statusOf (f : Failure) : Nat :=
  if f.isCallers then 400
  else match f with
    | .generation _ => 502
    | .sandboxUnavailable .. => 503
    | _ => 500

def ofFailure (f : Failure) : Reply := json (statusOf f) (.object [("error", .text (errorText f))])

def ofOutcome {α : Type} (encode : α → Value) : Outcome α → Reply
  | .ok a => json 200 (encode a)
  | .error f => ofFailure f

end Reply

structure Service where
  agent : GenerateRequest → Handling (Outcome GenerateResponse)
  gateway : Sandbox.Gateway
  options : Program.Options

namespace Service

def bodyLimit : Nat := 2097152

/-- The value in the body of a request. What stands behind the value is not looked at. -/
def bodyOf (r : Incoming) : Outcome Value :=
  match r.contentType.map ContentType.isJson with
  | some true =>
    if bodyLimit < r.body.length then
      .error (.invalidRequest "Failed to buffer the request body: length limit exceeded")
    else match Value.readFirst? (Text.beginning r.body) with
    | some v => .ok v
    | none => .error (.invalidRequest "Failed to parse the request body as JSON: not a document")
  | _ => .error (.invalidRequest "Expected request with `Content-Type: application/json`")

def missing (field : String) : Failure := .invalidRequest (field ++ ": required field is missing")

def checkScript (v : Value) : Outcome Script := (Script.check v).mapError .invalidScript

def scriptField (body : Value) : Outcome Script :=
  match body.get? "script" with
  | some v => checkScript v
  | none => .error (missing "script")

def textField (body : Value) (field : String) : Outcome String :=
  match body.get? field with
  | some (.text s) => .ok s
  | some _ => .error (.invalidRequest (field ++ ": expected a string"))
  | none => .error (missing field)

def previousField (body : Value) : Outcome (Option Script) :=
  match body.get? "previousScript" with
  | none => .ok none
  | some .null => .ok none
  | some v => (checkScript v).map some

def generateRequest (body : Value) : Outcome GenerateRequest := do
  let previousScript ← previousField body
  let url ← textField body "url"
  let prompt ← textField body "prompt"
  return ⟨url, prompt, previousScript⟩

def health : Reply := .json 200 (.object [("service", .text "momos-service"), ("status", .text "ok")])

def generate (s : Service) (r : Incoming) : Handling Reply :=
  match (bodyOf r).bind generateRequest with
  | .error f => .done (.ofFailure f)
  | .ok request => (s.agent request).bind fun a => .done (.ofOutcome GenerateResponse.encode a)

def run (s : Service) (r : Incoming) : Handling Reply :=
  match (bodyOf r).bind scriptField with
  | .error f => .done (.ofFailure f)
  | .ok script =>
    (Handling.ofSession (s.gateway.run s.options script)).bind fun a =>
      .done (.ofOutcome RunResult.encode a)

def placeholderTarget : String := "ws://localhost:9222/devtools/browser/<id>"

def compile (s : Service) (r : Incoming) : Reply :=
  Reply.ofOutcome (fun program => .object [("program", .text program)])
    (((bodyOf r).bind scriptField).bind fun script =>
      (Program.Block.ofScript script).map (Program.assemble s.options placeholderTarget))

def pathOf (uri : String) : String :=
  let s := uri.toList.takeWhile fun c => c != '?' && c != '#'
  match Text.cutAt? "://".toList s with
  | some (_, rest) =>
    let path := rest.dropWhile (· != '/')
    if path.isEmpty then "/" else String.ofList path
  | none => String.ofList s

-- other origins may ask for everything, so that their preflight requests are answered anywhere
def respond (s : Service) (r : Incoming) : Handling Reply :=
  if r.method = "OPTIONS" then .done (.empty 200)
  else
    let path := pathOf r.uri
    if path = "/health" then
      if r.method = "GET" then .done health
      else if r.method = "HEAD" then .done { health with body := "" }
      else .done (.empty 405)
    else if path = "/generate" then if r.method = "POST" then s.generate r else .done (.empty 405)
    else if path = "/run" then if r.method = "POST" then s.run r else .done (.empty 405)
    else if path = "/compile" then if r.method = "POST" then .done (s.compile r) else .done (.empty 405)
    else .done (.empty 404)

end Service

end BrowserCheck.Web
