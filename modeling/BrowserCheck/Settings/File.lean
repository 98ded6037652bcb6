import BrowserCheck.Files.Operation
import BrowserCheck.Settings.Values
import BrowserCheck.Toml.Reader
import BrowserCheck.Toml.Writer

set_option autoImplicit false

namespace BrowserCheck.Settings

open Json Files

/-- A record written as a list may go on after its fields, and a bare variant may carry an empty table. -/
def conventions : Conventions :=
  ⟨true, fun w => match w with | .object [] => true | _ => false⟩

def defaultPath : String := "momos.toml"

def read? (temp text : String) : Option Settings := (Toml.read? text).bind (decode? temp conventions)

def sections (s : Settings) : List Toml.Section :=
  [⟨[], [("listen", .text s.listen)]⟩,
   ⟨["sandbox"],
    [("provider", .text s.sandbox.provider.name), ("name", .text s.sandbox.name),
     ("image", .text s.sandbox.image), ("run_args", .texts s.sandbox.runArguments),
     ("workspace_dir", .text s.sandbox.workspaceDirectory),
     ("program_path", .text s.sandbox.programPath),
     ("health_check_command", .text s.sandbox.healthCheckCommand)]⟩,
   ⟨["sandbox", "backoff"],
    [("initial_delay_ms", .natural s.sandbox.backoff.initialDelayMs.toNat),
     ("max_attempts", .natural s.sandbox.backoff.maxAttempts.toNat)]⟩,
   ⟨["program"], [("screenshot_quality", .natural s.program.screenshotQuality.toNat)]⟩,
   ⟨["program", "telemetry"],
    [("enabled", .boolean s.program.telemetry.enabled),
     ("port", .natural s.program.telemetry.port.toNat),
     ("buffer_capacity", .natural s.program.telemetry.bufferCapacity.toNat),
     ("sentry_bundles", .texts s.program.telemetry.sentryBundles)]⟩,
   ⟨["agent"],
    [("model", .text s.agent.model), ("api_key_env", .text s.agent.apiKeyEnv),
     ("max_tokens", .natural s.agent.maxTokens.toNat), ("base_url", .text s.agent.baseUrl),
     ("web_fetch", .boolean s.agent.webFetch),
     ("web_fetch_max_uses", .natural s.agent.webFetchMaxUses.toNat)]⟩]

def write? (s : Settings) : Option String := Toml.write? s.sections

def isAbsent : OsError → Bool
  | .notFound | .notDirectory | .badName => true
  | _ => false

def load (temp path : String) : Access (Except String Settings) :=
  (Access.readText path).bind fun
    | .ok text => .done (match read? temp text with
      | some s => .ok s
      | none => .error "TOML parse error: not a settings file")
    | .error e => .done (if isAbsent e then .ok (standard temp) else .error e.message)

def save (path : String) (s : Settings) : Access (Except String Unit) :=
  match s.write? with
  | none => .done (.error "out-of-range value for u64 type")
  | some text =>
    ((Access.makeDirectories ((parent? path).getD "")).andThen fun _ =>
      Access.write path (Text.encode text)).bind fun r => .done (r.mapError OsError.message)

end BrowserCheck.Settings
