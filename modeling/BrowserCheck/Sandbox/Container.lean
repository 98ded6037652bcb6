import BrowserCheck.Files.Path
import BrowserCheck.Sandbox.Call
import BrowserCheck.Text.Bytes

set_option autoImplicit false

namespace BrowserCheck.Sandbox

open Text (Bytes)

inductive ContainerRuntime where
  | docker
  | podman
deriving DecidableEq, Repr

namespace ContainerRuntime

def command : ContainerRuntime → String
  | docker => "docker"
  | podman => "podman"

def all : List ContainerRuntime := [docker, podman]

def ofCommand? (s : String) : Option ContainerRuntime := all.find? (·.command == s)

def decode? (conv : Json.Conventions) : Json.Decoder ContainerRuntime :=
  Json.Written.variant? conv ofCommand?

end ContainerRuntime

structure Invocation where
  program : String
  arguments : List String
  input : Option String
deriving DecidableEq, Repr

structure Finished where
  stdout : Bytes
  stderr : Bytes
  exitCode : Option Int32
deriving DecidableEq, Repr

namespace Finished

def isSuccess (f : Finished) : Bool := f.exitCode == some 0

def outText (f : Finished) : String := Text.lossy f.stdout

def errorText (f : Finished) : String := Text.lossy f.stderr

def rawOutput (f : Finished) : RawOutput := ⟨f.outText, f.errorText, f.exitCode.getD (-1)⟩

end Finished

abbrev Commands (α : Type) := Dialogue Invocation (fun _ => Except String Finished) α

namespace Commands

def hasNul (s : String) : Bool := s.toList.contains '\x00'

-- no argument can hold a NUL
def start (i : Invocation) : Commands (Outcome Finished) :=
  if i.arguments.any hasNul then .done (.error (.io "nul byte found in provided data"))
  else .ask i fun r => .done (r.mapError .io)

end Commands

structure Container where
  runtime : ContainerRuntime
  image : String
  runArguments : List String
deriving DecidableEq, Repr

namespace Container

inductive State where
  | running
  | stopped
  | missing
deriving DecidableEq, Repr

def detect : Commands (Option ContainerRuntime) :=
  .ask ⟨"podman", ["--version"], none⟩ fun r =>
    if r.isOk then .done (some .podman)
    else .ask ⟨"docker", ["--version"], none⟩ fun r => .done (if r.isOk then some .docker else none)

def noRuntime : Failure := .sandbox "No container runtime available"

def detected (image : String) (runArguments : List String) : Commands (Outcome Container) :=
  detect.bind fun r => .done (match r with
    | some runtime => .ok ⟨runtime, image, runArguments⟩
    | none => .error noRuntime)

def invoke (c : Container) (arguments : List String) (input : Option String) : Commands (Outcome Finished) :=
  Commands.start ⟨c.runtime.command, arguments, input⟩

def stateFormat : String := "\x7b\x7b.State.Running\x7d\x7d"

def stateOf (f : Finished) : State :=
  if ¬f.isSuccess then .missing
  else if f.outText.trimBlank = "true" then .running
  else .stopped

def expectSuccess (before : String) (f : Finished) : Outcome Unit :=
  if f.isSuccess then .ok () else .error (.sandbox (before ++ f.errorText.trimBlank))

def wake (c : Container) (name : String) : State → Option (List String)
  | .running => none
  | .stopped => some ["start", name]
  | .missing => some (["run", "-d", "--name", name] ++ c.runArguments ++ [c.image])

def acquire (c : Container) (name : String) : Commands (Outcome Handle) :=
  (c.invoke ["inspect", "--format", stateFormat, name] none).andThen fun f =>
    match c.wake name (stateOf f) with
    | none => .done (.ok ⟨name, id⟩)
    | some arguments => (c.invoke arguments none).andThen fun f =>
      .done ((expectSuccess "" f).map fun _ => ⟨name, id⟩)

def exec (c : Container) (name command : String) : Commands (Outcome RawOutput) :=
  (c.invoke ["exec", name, "sh", "-c", command] none).andThen fun f => .done (.ok f.rawOutput)

def writeCommand (path : String) : String :=
  let write := "cat > " ++ shellQuote path
  match Files.parent? path with
  | none => write
  | some dir => if dir.isEmpty then write else "mkdir -p " ++ shellQuote dir ++ " && " ++ write

def write (c : Container) (name path contents : String) : Commands (Outcome Unit) :=
  (c.invoke ["exec", "-i", name, "sh", "-c", writeCommand path] (some contents)).andThen fun f =>
    .done (expectSuccess ("failed to write " ++ path ++ ": ") f)

end Container

end BrowserCheck.Sandbox
