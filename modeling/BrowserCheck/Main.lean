import BrowserCheck.Cli.Serve
import BrowserCheck.Main.Address

set_option autoImplicit false

namespace BrowserCheck.Main

open Files

def converse {Q : Type} {A : Q → Type} {α : Type} (answer : (q : Q) → IO (A q)) : Dialogue Q A α → IO α
  | .done a => pure a
  | .ask q next => do converse answer (next (← answer q))

def osError : IO.Error → OsError
  | .noFileOrDirectory .. | .noSuchThing .. => .notFound
  | .alreadyExists .. => .exists
  | .inappropriateType _ code _ => if code = 21 then .isDirectory else .notDirectory
  | _ => .denied

def attempt {α : Type} (act : IO α) : IO (Except OsError α) := do
  try return .ok (← act)
  catch e => return .error (osError e)

def fileAnswer : (op : Operation) → IO op.Answer
  | .read path => attempt (do return (← IO.FS.readBinFile path).toList)
  | .write path contents => attempt (IO.FS.writeBinFile path ⟨contents.toArray⟩)
  | .makeDirectories path => attempt (if path.isEmpty then pure () else IO.FS.createDirAll path)

def commandAnswer : (e : Cli.Effect) → IO e.Answer
  | .file op => fileAnswer op
  | .input => return (← (← IO.getStdin).readBinToEnd).toList
  | .request r => return (.error (.unreachable r.url) : Except Web.NoAnswer Web.Response)

def serviceAnswer : (e : Web.Effect) → IO e.Answer
  | .sandbox (.acquire _) => return (.error (.sandbox OsError.notFound.message) : Outcome Sandbox.Handle)
  | .sandbox (.exec _) => return (.error (.sandbox OsError.notFound.message) : Outcome RawOutput)
  | .sandbox (.write _ _) => return (.error (.sandbox OsError.notFound.message) : Outcome Unit)
  | .sandbox (.pause _) => return ()
  | .model r => return (.error (.unreachable r.url) : Except Web.NoAnswer Web.Response)

def startAnswer : (e : Cli.Serve.Effect) → IO e.Answer
  | .file op => fileAnswer op
  | .command _ => return (.error OsError.notFound.message : Except String Sandbox.Finished)

def environment (names : List String) : IO (List (String × String)) :=
  names.filterMapM fun name => do return (← IO.getEnv name).map fun v => (name, v)

def present (r : Cli.Report) : IO UInt32 := do
  IO.print r.stdout
  IO.eprint r.stderr
  return r.exitCode.toUInt32

def command (args : List String) : IO UInt32 := do
  let env ← environment Cli.environmentNames
  present (← converse commandAnswer (Cli.execute (fun name => env.lookup name) args))

def start (args : List String) : IO UInt32 := do
  let env ← environment Cli.Serve.environmentNames
  let lookup (name : String) : Option String := env.lookup name
  match ← converse startAnswer (Cli.Serve.execute lookup args) with
  | .error r => present r
  | .ok ready =>
    let service := Web.Service.ofSettings ready.settings (Web.Service.agentOf Address.read ready.settings.agent lookup)
    let health ← converse serviceAnswer (service.respond ⟨"GET", "/health", none, []⟩)
    IO.eprintln ("ready to listen on " ++ ready.address ++ ": " ++ health.body)
    return 0

end BrowserCheck.Main

def main (args : List String) : IO UInt32 := do
  let name := BrowserCheck.Shell.Builtin.lastPart (toString (← IO.appPath))
  if String.ofList name = BrowserCheck.Cli.Serve.commandName then BrowserCheck.Main.start args
  else BrowserCheck.Main.command args
