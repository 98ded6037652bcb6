import BrowserCheck.Cli.Commands
import BrowserCheck.Settings.File
import BrowserCheck.Settings.Overrides
import BrowserCheck.Web.Setup
import BrowserCheck.Web.SocketAddress

set_option autoImplicit false

/-! The command that starts the service, up to the moment at which it listens. -/

namespace BrowserCheck.Cli.Serve

open Files

inductive Effect where
  | file (op : Operation)
  | command (i : Sandbox.Invocation)

def Effect.Answer : Effect → Type
  | .file op => op.Answer
  | .command _ => Except String Sandbox.Finished

abbrev Job (α : Type) := Dialogue Effect Effect.Answer α

def ofAccess {α : Type} (a : Access α) : Job α := a.embed .file fun _ r => r

def ofCommands {α : Type} (c : Sandbox.Commands α) : Job α := c.embed .command fun _ r => r

structure Arguments where
  settingsPath : String
  listen : Option String
  writeSettings : Bool
deriving DecidableEq, Repr

def commandName : String := "momos-service"

def grammar : Grammar :=
  ⟨commandName, [.path "config" (some 'c'), .text "listen" (some 'l'), .switch "write-config" none], 0, []⟩

def pathOf (lookup : String → Option String) (f : Found) : Except Stop String :=
  match (f.value? "config").or (lookup "MOMOS_CONFIG") with
  | some path => if path.isEmpty then .error (.refused "a value is required for --config") else .ok path
  | none => .ok Settings.defaultPath

def Arguments.read (lookup : String → Option String) (line : List String) : Except Stop Arguments := do
  let (f, _) ← grammar.read .empty line
  return ⟨← pathOf lookup f, f.value? "listen", f.isGiven "write-config"⟩

structure Ready where
  address : String
  settings : Settings
  source : Web.SandboxSource
deriving DecidableEq, Repr

def temporary (lookup : String → Option String) : String := (lookup "TMPDIR").getD "/tmp"

def effective (lookup : String → Option String) (a : Arguments) : Job (Except Trouble Settings) :=
  (ofAccess (Settings.load (temporary lookup) a.settingsPath)).bind fun r =>
    .done ((r.bind (Settings.override lookup)).mapError .plain |>.map fun s =>
      match a.listen with
      | some listen => { s with listen := listen }
      | none => s)

def prepare (s : Settings) : Job (Except Trouble Ready) :=
  if Web.SocketAddress.isValid s.listen then
    (ofCommands (Web.SandboxSource.ofSettings s.sandbox)).bind fun r =>
      .done ((r.mapError fun f => .plain f.message).map fun source => ⟨s.listen, s, source⟩)
  else .done (.error (.plain "invalid socket address syntax"))

def perform (lookup : String → Option String) (a : Arguments) : Job (Except Trouble (Option Ready)) :=
  (effective lookup a).andThen fun s =>
    if a.writeSettings then
      (ofAccess (Settings.save a.settingsPath s)).bind fun r =>
        .done ((r.mapError .plain).map fun _ => none)
    else (prepare s).bind fun r => .done (r.map some)

def environmentNames : List String := "MOMOS_CONFIG" :: "TMPDIR" :: Settings.Override.all.map (·.key)

def execute (lookup : String → Option String) (line : List String) : Job (Except Report Ready) :=
  match Arguments.read lookup line with
  | .error stop => .done (.error stop.report)
  | .ok a => (perform lookup a).bind fun
    | .ok (some ready) => .done (.ok ready)
    | .ok none => .done (.error (.success ""))
    | .error t => .done (.error (.trouble t))

end BrowserCheck.Cli.Serve
