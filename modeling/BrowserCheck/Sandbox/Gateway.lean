import BrowserCheck.Program.Assembly
import BrowserCheck.Sandbox.Backoff
import BrowserCheck.Sandbox.Call

set_option autoImplicit false

namespace BrowserCheck.Sandbox

open Json

structure Gateway where
  sandboxName : String
  healthCheckCommand : String
  programPath : String
  backoff : Backoff
deriving DecidableEq, Repr

namespace Gateway

def standard : Gateway where
  sandboxName := "momos-sandbox"
  healthCheckCommand := "curl -s http://localhost:9222/json/version"
  programPath := "/workspace/index.mjs"
  backoff := .standard

def encode (g : Gateway) : Value :=
  .object [("sandbox_name", .text g.sandboxName), ("health_check_command", .text g.healthCheckCommand),
    ("program_path", .text g.programPath), ("backoff", g.backoff.encode)]

def decode? (conv : Conventions) : Decoder Gateway := fun w => do
  let [sandboxName, healthCheckCommand, programPath, backoff] ←
    w.slots? conv ["sandbox_name", "health_check_command", "program_path", "backoff"] | none
  return {
    sandboxName := ← sandboxName.withDefault standard.sandboxName Written.text?
    healthCheckCommand := ← healthCheckCommand.withDefault standard.healthCheckCommand Written.text?
    programPath := ← programPath.withDefault standard.programPath Written.text?
    backoff := ← backoff.withDefault .standard (Backoff.decode? conv) }

def target? (response : String) : Option String := do
  let w ← Written.read? (Text.trim response.toList)
  let [url] ← w.slots? .json ["webSocketDebuggerUrl"] | none
  (← url.required Written.text?) |> fun s => if s.isEmpty then none else some s

def health : Outcome RawOutput → Except String String
  | .ok out =>
    if out.exitCode = 0 then
      match target? out.stdout with
      | some target => .ok target
      | none => .error "response has no webSocketDebuggerUrl"
    else .error ("exit code " ++ toString out.exitCode.toInt ++ ": " ++ out.stderr.trimBlank)
  | .error f => .error f.message

-- no pause follows the last check
def awaitBrowser (g : Gateway) (sandbox : Handle) (attempt : Nat) (lastError : String) :
    Nat → Session (Outcome String)
  | 0 => .done (.error (.sandboxUnavailable sandbox.name g.backoff.attempts lastError))
  | left + 1 => .ask (.exec g.healthCheckCommand) fun r =>
    match health r with
    | .ok target => .done (.ok target)
    | .error e =>
      if left = 0 then awaitBrowser g sandbox (attempt + 1) e left
      else .ask (.pause (g.backoff.delayAfter attempt.toUInt32)) fun _ =>
        awaitBrowser g sandbox (attempt + 1) e left

def nodeCommand (g : Gateway) (sandbox : Handle) : String :=
  "node " ++ shellQuote (sandbox.resolve g.programPath)

def runProgram (g : Gateway) (o : Program.Options) (b : Program.Block) (sandbox : Handle)
    (target : String) : Session (Outcome RawOutput) :=
  (Session.write g.programPath (Program.assemble o target b)).andThen fun _ =>
    Session.exec (g.nodeCommand sandbox)

def execute (g : Gateway) (o : Program.Options) (s : Script) : Session (Outcome RawOutput) :=
  match Program.Block.ofScript s with
  | .error f => .done (.error f)
  | .ok b =>
    (Session.acquire g.sandboxName).andThen fun sandbox =>
      (g.awaitBrowser sandbox 1 "" g.backoff.attempts).andThen fun target =>
        g.runProgram o b sandbox target

def run (g : Gateway) (o : Program.Options) (s : Script) : Session (Outcome RunResult) :=
  (g.execute o s).bind fun r => .done (r.map RunResult.ofOutput)

end Gateway

end BrowserCheck.Sandbox
