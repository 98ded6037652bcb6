import BrowserCheck.Shell.Builtin
import BrowserCheck.Shell.Command

set_option autoImplicit false

namespace BrowserCheck.Shell

open Files Text

inductive Sink where
  | output
  | errors
  | file (p : Place)
  | nowhere
deriving DecidableEq, Repr

structure Streams where
  input : Bytes
  output : Sink
  errors : Sink
deriving DecidableEq, Repr

namespace Streams

def setSink (st : Streams) (descriptor : Nat) (k : Sink) : Streams :=
  if descriptor = 2 then { st with errors := k } else { st with output := k }

def sinkOf? (st : Streams) (descriptor : String) : Option Sink :=
  if descriptor = "1" then some st.output
  else if descriptor = "2" then some st.errors
  else if descriptor = "-" then some .nowhere
  else none

end Streams

def cannotOpen (path : String) (e : OsError) : String :=
  "sh: 1: cannot open " ++ path ++ ": " ++ if e = .notFound then "No such file" else reason e

def cannotCreate (path : String) (e : OsError) : String :=
  "sh: 1: cannot create " ++ path ++ ": " ++ if e = .notFound then "Directory nonexistent" else reason e

def openSink (s : State) (path : String) (keep : Bool) : Except OsError (State × Sink) := do
  let old := if keep then (s.tree.readFile s.place path).toOption.getD [] else []
  let t ← s.tree.writeFile s.place path old
  let p ← t.locate s.place path
  return ({ s with tree := t }, .file p)

def redirect (s : State) (st : Streams) (r : Redirect) : Except String (State × Streams) :=
  let path := r.target.join s.value
  match r.direction with
  | .duplicate =>
    match st.sinkOf? path with
    | some k => .ok (s, st.setSink r.descriptor k)
    | none => .error ("sh: 1: " ++ path ++ ": Bad file descriptor")
  | .read =>
    match s.readFile path with
    | .ok b => .ok (s, { st with input := b })
    | .error e => .error (cannotOpen path e)
  | .write | .append =>
    if path = State.nullPath then .ok (s, st.setSink r.descriptor .nowhere)
    else match openSink s path (r.direction = .append) with
      | .ok (s, k) => .ok (s, st.setSink r.descriptor k)
      | .error e => .error (cannotCreate path e)

def deliver (k : Sink) (b : Bytes) (r : Result) : Result :=
  match k with
  | .output => { r with stdout := r.stdout ++ b }
  | .errors => { r with stderr := r.stderr ++ b }
  | .nowhere => r
  | .file p =>
    let old := match r.state.tree.get? p with
      | some (.file contents) => contents
      | _ => []
    { r with state.tree := r.state.tree.put p (.file (old ++ b)) }

abbrev Programs := List (String × Builtin)

def findCommand (programs : Programs) (name : String) : Builtin :=
  match programs.lookup name, Builtin.all.lookup name with
  | some program, _ => program
  | none, some builtin => builtin
  | none, none => fun _ _ s =>
    if name.contains '/' ∧ (s.tree.readFile s.place name).isOk then
      s.complain 126 ("sh: 1: " ++ name ++ ": Permission denied")
    else s.complain 127 ("sh: 1: " ++ name ++ ": not found")

def splitAssignments : List Word → List (String × Word) × List Word
  | [] => ([], [])
  | w :: rest =>
    match w.assignment? [] with
    | some a => (a :: (splitAssignments rest).1, (splitAssignments rest).2)
    | none => ([], w :: rest)

def assign (s : State) (a : String × Word) : State := s.setParameter a.1 (a.2.join s.value)

def runCommand (programs : Programs) (c : Command) (input : Bytes) (s : State) : Result :=
  let (assignments, words) := splitAssignments c.words
  let fields := words.flatMap (Word.expand s.value none)
  match c.redirects.foldlM (fun p r => redirect p.1 p.2 r) (s, ⟨input, .output, .errors⟩) with
  | .error e => s.complain 2 e
  | .ok (s, st) =>
    match fields with
    | [] => (assignments.foldl assign s).quiet 0
    | name :: arguments =>
      let r := findCommand programs name arguments st.input s
      deliver st.errors r.stderr (deliver st.output r.stdout ⟨[], [], r.status, r.state⟩)

-- a command in a pipeline changes files and nothing else of the shell
def outside (s : State) (r : Result) : State :=
  { s with tree := r.state.tree, ending := if r.state.ending = some .killed then some .killed else s.ending }

def runChain (programs : Programs) (input : Bytes) (s : State) : List Command → Result
  | [] => s.quiet 0
  | [c] =>
    let r := runCommand programs c input s
    { r with state := outside s r }
  | c :: rest =>
    let r := runCommand programs c input s
    let after := runChain programs r.stdout (outside s r) rest
    { after with stderr := r.stderr ++ after.stderr }

def splitNegation : List Command → Bool × List Command
  | ⟨[.text ['!']] :: words, redirects⟩ :: rest => (true, ⟨words, redirects⟩ :: rest)
  | commands => (false, commands)

def runPipeline (programs : Programs) (p : Pipeline) (s : State) : Result :=
  let (negated, commands) := splitNegation p.commands
  let r := match commands with
    | [c] => runCommand programs c [] s
    | commands => runChain programs [] s commands
  let status := if negated then (if r.status = 0 then 1 else 0) else r.status
  { r with status := status, state.status := status }

def isDue (j : Joint) (status : Nat) : Bool :=
  match j with
  | .always => true
  | .afterSuccess => status == 0
  | .afterFailure => status != 0

def runPipelines (programs : Programs) (s : State) : List Pipeline → Result
  | [] => s.quiet s.status
  | p :: rest =>
    if s.ending.isSome then s.quiet s.status
    else if isDue p.joint s.status then
      let r := runPipeline programs p s
      let after := runPipelines programs r.state rest
      { after with stdout := r.stdout ++ after.stdout, stderr := r.stderr ++ after.stderr }
    else runPipelines programs s rest

def run (programs : Programs) (line : String) (s : State) : Result :=
  match parse line with
  | .ok ps => runPipelines programs s ps
  | .error e => s.complain 2 ("sh: 1: Syntax error: " ++ e)

end BrowserCheck.Shell
