import BrowserCheck.Files.Path
import BrowserCheck.Generation.Model
import BrowserCheck.Sandbox.Gateway

set_option autoImplicit false

namespace BrowserCheck

open Json

namespace Settings

inductive Provider where
  | container
  | host
deriving DecidableEq, Repr

namespace Provider

def name : Provider → String
  | container => "docker"
  | host => "local"

def all : List Provider := [container, host]

def ofName? (s : String) : Option Provider := all.find? (·.name == s)

end Provider

structure SandboxSettings where
  provider : Provider
  name : String
  image : String
  runArguments : List String
  workspaceDirectory : String
  programPath : String
  healthCheckCommand : String
  backoff : Sandbox.Backoff
deriving DecidableEq, Repr

namespace SandboxSettings

def standard (temp : String) : SandboxSettings where
  provider := .container
  name := Sandbox.Gateway.standard.sandboxName
  image := "momos/sandbox:latest"
  runArguments := ["--shm-size=1g"]
  workspaceDirectory := Files.join temp "momos"
  programPath := Sandbox.Gateway.standard.programPath
  healthCheckCommand := Sandbox.Gateway.standard.healthCheckCommand
  backoff := Sandbox.Gateway.standard.backoff

def gateway (s : SandboxSettings) : Sandbox.Gateway :=
  ⟨s.name, s.healthCheckCommand, s.programPath, s.backoff⟩

def encode (s : SandboxSettings) : Value :=
  .object [("provider", .text s.provider.name), ("name", .text s.name), ("image", .text s.image),
    ("run_args", .ofTexts s.runArguments), ("workspace_dir", .text s.workspaceDirectory),
    ("program_path", .text s.programPath), ("health_check_command", .text s.healthCheckCommand),
    ("backoff", s.backoff.encode)]

def decode? (temp : String) (conv : Conventions) : Decoder SandboxSettings := fun w => do
  let standard := standard temp
  let [provider, name, image, runArguments, workspaceDirectory, programPath, healthCheckCommand, backoff] ←
    w.slots? conv ["provider", "name", "image", "run_args", "workspace_dir", "program_path",
      "health_check_command", "backoff"] | none
  return {
    provider := ← provider.withDefault standard.provider (Written.variant? conv Provider.ofName?)
    name := ← name.withDefault standard.name Written.text?
    image := ← image.withDefault standard.image Written.text?
    runArguments := ← runArguments.withDefault standard.runArguments (Written.list? Written.text?)
    workspaceDirectory := ← workspaceDirectory.withDefault standard.workspaceDirectory Written.text?
    programPath := ← programPath.withDefault standard.programPath Written.text?
    healthCheckCommand := ← healthCheckCommand.withDefault standard.healthCheckCommand Written.text?
    backoff := ← backoff.withDefault standard.backoff (Sandbox.Backoff.decode? conv) }

end SandboxSettings

end Settings

open Settings in
structure Settings where
  listen : String
  sandbox : SandboxSettings
  program : Program.Options
  agent : Generation.ModelSettings
deriving DecidableEq, Repr

namespace Settings

def standard (temp : String) : Settings where
  listen := "127.0.0.1:8787"
  sandbox := .standard temp
  program := .standard
  agent := .standard

def encode (s : Settings) : Value :=
  .object [("listen", .text s.listen), ("sandbox", s.sandbox.encode), ("program", s.program.encode),
    ("agent", s.agent.encode)]

def decode? (temp : String) (conv : Conventions) : Decoder Settings := fun w => do
  let standard := standard temp
  let [listen, sandbox, program, agent] ← w.slots? conv ["listen", "sandbox", "program", "agent"] | none
  return {
    listen := ← listen.withDefault standard.listen Written.text?
    sandbox := ← sandbox.withDefault standard.sandbox (SandboxSettings.decode? temp conv)
    program := ← program.withDefault standard.program (Program.Options.decode? conv)
    agent := ← agent.withDefault standard.agent (Generation.ModelSettings.decode? conv) }

end Settings

end BrowserCheck
