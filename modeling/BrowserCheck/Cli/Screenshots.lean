import BrowserCheck.Cli.Report
import BrowserCheck.Run.Trace
import BrowserCheck.Text.Base64

set_option autoImplicit false

namespace BrowserCheck.Cli.Screenshots

open Files Text

def isKept (c : Char) : Bool := c.isAlphanum

def fileName (s : TraceStep) : String :=
  toString s.index.toNat ++ "-" ++ String.ofList (s.action.toList.map fun c => if isKept c then c else '_') ++
    ".jpg"

def because {α : Type} (message : String) (r : Except OsError α) : Except Trouble α :=
  r.mapError fun e => ⟨message, some e.message⟩

def save (dir : String) (s : TraceStep) : Access (Except Trouble String) :=
  match Base64.decode? s.screenshot.toList with
  | none => .done (.error ⟨"step " ++ toString s.index.toNat ++ " screenshot is not valid base64",
      some "the text is no canonical base64 with padding"⟩)
  | some b =>
    let path := join dir (fileName s)
    (Access.write path b).bind fun r => .done ((because ("writing " ++ path) r).map fun _ => path)

def saveAll (dir : String) : List TraceStep → Access (Except Trouble (List String))
  | [] => .done (.ok [])
  | s :: rest =>
    (save dir s).andThen fun path =>
      (saveAll dir rest).bind fun r => .done (r.map (path :: ·))

def saveTrace (t : Trace) (dir : String) : Access (Except Trouble (List String)) :=
  ((Access.makeDirectories dir).bind fun r => .done (because ("creating " ++ dir) r)).andThen fun _ =>
    saveAll dir (t.steps.filter fun s => !s.screenshot.isEmpty)

end BrowserCheck.Cli.Screenshots
