import BrowserCheck.Failure
import BrowserCheck.Program.Source

set_option autoImplicit false

namespace BrowserCheck.Program

structure Block where
  version : Version
  actionCount : Nat
  statements : List Statement
deriving DecidableEq, Repr

namespace Block

def isEmpty (b : Block) : Bool := b.statements.isEmpty

def render (b : Block) (level : Nat) : String := ((Source.atLevel level).statements b.statements).toText

def captureIndices (b : Block) : List Nat :=
  b.statements.filterMap fun
    | .captureStep index _ _ => some index
    | _ => none

-- telemetry does not outlive a navigation and is set up again
def performed : Action → List Statement
  | .goTo url => [.navigate url, .injectTelemetry]
  | .click selector => [.click selector]
  | .sleep milliseconds => [.sleep milliseconds]

def ofAction (index : Nat) (a : Action) : List Statement :=
  performed a ++ [.captureStep index a.kind a.details]

def ofActions (index : Nat) : List Action → List Statement
  | [] => []
  | a :: rest => ofAction index a ++ ofActions (index + 1) rest

def ofScript (s : Script) : Outcome Block :=
  match s.version? with
  | some version => .ok ⟨version, s.actions.length, ofActions 0 s.actions⟩
  | none => .error (.unsupportedVersion s.version)

end Block

end BrowserCheck.Program
