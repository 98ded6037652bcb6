import BrowserCheck.Cli.Listing
import BrowserCheck.Cli.Report
import BrowserCheck.Cli.Style
import BrowserCheck.Run.Trace
import BrowserCheck.Script.Action

set_option autoImplicit false

namespace BrowserCheck

namespace Cli

def earliest : Int := -8334601228800000
def latest : Int := 8210266876799999

def digits (width n : Nat) : String :=
  let ds := (toString n).toList
  String.ofList (List.replicate (width - ds.length) '0' ++ ds)

def clockTime (ms : Int) : String :=
  if ms < earliest ∨ latest < ms then ""
  else
    let t := (ms % 86400000).toNat
    digits 2 (t / 3600000) ++ ":" ++ digits 2 (t / 60000 % 60) ++ ":" ++ digits 2 (t / 1000 % 60) ++ "." ++
      digits 3 (t % 1000)

end Cli

namespace Action

def row (index : Nat) (a : Action) : List String :=
  [toString index, a.kind.tag, Cli.shorten a.details 80]

end Action

namespace Script

def listing (s : Script) : Cli.Listing :=
  ⟨["#", "Action", "Details"], s.actions.mapIdx Action.row⟩

end Script

namespace TraceStep

def headers : List String := ["#", "Action", "Details", "URL", "Time"]

def row (color : Bool) (s : TraceStep) : List String :=
  [toString s.index.toNat, if s.isError then Cli.Style.paint color .red s.action else s.action,
    Cli.shorten s.details 60, Cli.shorten s.url 50, Cli.clockTime s.timestamp.toInt]

end TraceStep

namespace Trace

open Cli

def headline (color : Bool) (t : Trace) : String :=
  if t.success then
    Style.paint color .boldGreen "✓ Passed" ++ " " ++ toString t.steps.length ++ " steps in " ++
      toString t.duration.toInt ++ "ms"
  else
    Style.paint color .boldRed "✗ Failed" ++ " after " ++ toString t.duration.toInt ++ "ms: " ++
      t.error.getD "unknown error"

def listing (color : Bool) (t : Trace) : Listing := ⟨TraceStep.headers, t.steps.map (TraceStep.row color)⟩

def text (color : Bool) (layout : Layout) (t : Trace) : String :=
  println (t.headline color) ++ (t.listing color).text layout

end Trace

end BrowserCheck
