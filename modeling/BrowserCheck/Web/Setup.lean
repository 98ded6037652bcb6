import BrowserCheck.Sandbox.Container
import BrowserCheck.Sandbox.Directory
import BrowserCheck.Settings.Values
import BrowserCheck.Web.Service

set_option autoImplicit false

namespace BrowserCheck.Web

open Settings

inductive SandboxSource where
  | container (c : Sandbox.Container)
  | directory (root : String)
deriving DecidableEq, Repr

def SandboxSource.ofSettings (s : SandboxSettings) : Sandbox.Commands (Outcome SandboxSource) :=
  match s.provider with
  | .container =>
    (Sandbox.Container.detected s.image s.runArguments).bind fun r => .done (r.map .container)
  | .host => .done (.ok (.directory s.workspaceDirectory))

namespace Service

def agentOf (reads : AddressReader) (c : Generation.ModelSettings) (lookup : String → Option String)
    (r : GenerateRequest) : Exchange (Outcome GenerateResponse) :=
  match Generation.apiKey c lookup with
  | .ok key => Generation.generate reads c key r
  | .error f => Generation.refuse reads f.message r

def ofSettings (s : Settings) (agent : GenerateRequest → Exchange (Outcome GenerateResponse)) : Service :=
  ⟨fun r => Handling.ofExchange (agent r), s.sandbox.gateway, s.program⟩

end Service

end BrowserCheck.Web
