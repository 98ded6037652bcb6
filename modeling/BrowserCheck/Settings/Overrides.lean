import BrowserCheck.Settings.Values

set_option autoImplicit false

namespace BrowserCheck.Settings

def lowercase (s : String) : String := String.ofList (s.toList.map Char.toLower)

def readProvider (s : String) : Except String Provider :=
  match Provider.ofName? (lowercase s) with
  | some p => .ok p
  | none => .error ("unknown sandbox provider: " ++ lowercase s)

def yesWords : List String := ["1", "true", "yes", "on"]

def noWords : List String := ["0", "false", "no", "off"]

def readSwitch (s : String) : Except String Bool :=
  if yesWords.contains (lowercase s) then .ok true
  else if noWords.contains (lowercase s) then .ok false
  else .error ("expected a boolean, got " ++ lowercase s)

structure Override where
  key : String
  apply : String → Settings → Except String Settings

namespace Override

def ofText (key : String) (set : String → Settings → Settings) : Override :=
  ⟨key, fun v s => .ok (set v s)⟩

def ofReader {α : Type} (key : String) (read : String → Except String α)
    (set : α → Settings → Settings) : Override :=
  ⟨key, fun v s => (read v).map fun a => set a s⟩

def all : List Override :=
  [ofText "MOMOS_LISTEN" fun v s => { s with listen := v },
   ofReader "MOMOS_SANDBOX_PROVIDER" readProvider fun v s => { s with sandbox.provider := v },
   ofText "MOMOS_SANDBOX_NAME" fun v s => { s with sandbox.name := v },
   ofText "MOMOS_SANDBOX_IMAGE" fun v s => { s with sandbox.image := v },
   ofText "MOMOS_WORKSPACE_DIR" fun v s => { s with sandbox.workspaceDirectory := v },
   ofReader "MOMOS_TELEMETRY_ENABLED" readSwitch fun v s => { s with program.telemetry.enabled := v },
   ofText "MOMOS_AGENT_MODEL" fun v s => { s with agent.model := v },
   ofText "MOMOS_AGENT_BASE_URL" fun v s => { s with agent.baseUrl := v },
   ofReader "MOMOS_AGENT_WEB_FETCH" readSwitch fun v s => { s with agent.webFetch := v }]

end Override

def override (lookup : String → Option String) (s : Settings) : Except String Settings :=
  Override.all.foldlM (fun s o =>
    match lookup o.key with
    | some v => o.apply v s
    | none => .ok s) s

end BrowserCheck.Settings
