import BrowserCheck.Sandbox.Call
import BrowserCheck.Shell.Run

set_option autoImplicit false

namespace BrowserCheck.Sandbox

open Files

/-- The directories of all sandboxes lie below `root`. `home` is the absolute path of the working
directory. -/
structure Directory where
  root : String
  home : String
  programs : Shell.Programs

namespace Directory

structure World where
  tree : Tree
  current : Option String

def workspace : String := "/workspace"

def dropSlashes (s : List Char) : List Char := s.dropWhile (· == '/')

def hostPath (dir path : String) : String :=
  let below := (workspace.toList.isPrefixOf? path.toList).getD path.toList
  join dir (String.ofList (dropSlashes below))

def acquire (d : Directory) (name : String) (w : World) : Outcome Handle × World :=
  let dir := join d.root name
  match w.tree.makeDirectories [] dir with
  | (.ok (), t) => (.ok ⟨name, hostPath dir⟩, ⟨t, some dir⟩)
  | (.error e, t) => (.error (.io e.message), { w with tree := t })

def exitCode (r : Shell.Result) : Int32 :=
  match r.state.ending with
  | some .killed => -1
  | _ => Int32.ofInt r.status

def rawOutput (r : Shell.Result) : RawOutput :=
  ⟨Text.lossy r.stdout, Text.lossy r.stderr, exitCode r⟩

def execIn (d : Directory) (dir command : String) (t : Tree) : Outcome RawOutput × Tree :=
  if command.toList.contains '\x00' then (.error (.io "nul byte found in provided data"), t)
  else
    match t.lookup [] dir, t.locate [] dir with
    | .ok .directory, .ok p =>
      let r := Shell.run d.programs command ⟨t, d.home, p, [], 0, none⟩
      (.ok (rawOutput r), r.state.tree)
    | .error e, _ => (.error (.io e.message), t)
    | _, .error e => (.error (.io e.message), t)
    | .ok (.file _), .ok _ => (.error (.io OsError.notDirectory.message), t)

def writeIn (dir path contents : String) (t : Tree) : Outcome Unit × Tree :=
  let (r, t) := t.writeBelow [] (hostPath dir path) (Text.encode contents)
  (r.mapError fun e => .io e.message, t)

def noSandbox : Failure := .internal "no sandbox was acquired"

def answer (d : Directory) : (c : Call) → World → c.Answer × World
  | .acquire name, w => d.acquire name w
  | .exec command, w =>
    match w.current with
    | some dir => let (r, t) := d.execIn dir command w.tree; (r, { w with tree := t })
    | none => (.error noSandbox, w)
  | .write path contents, w =>
    match w.current with
    | some dir => let (r, t) := writeIn dir path contents w.tree; (r, { w with tree := t })
    | none => (.error noSandbox, w)
  | .pause _, w => ((), w)

end Directory

end BrowserCheck.Sandbox
