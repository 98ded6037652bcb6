import BrowserCheck.Files.Path
import BrowserCheck.Text.Bytes

set_option autoImplicit false

namespace BrowserCheck.Files

open Text (Bytes splitAt)

inductive OsError where
  | notFound
  | exists
  | notDirectory
  | isDirectory
  | denied
  | loops
  | badName
  | badText
deriving DecidableEq, Repr

namespace OsError

def message : OsError → String
  | .notFound => "No such file or directory (os error 2)"
  | .exists => "File exists (os error 17)"
  | .notDirectory => "Not a directory (os error 20)"
  | .isDirectory => "Is a directory (os error 21)"
  | .denied => "Permission denied (os error 13)"
  | .loops => "Too many levels of symbolic links (os error 40)"
  | .badName => "file name contained an unexpected NUL byte"
  | .badText => "stream did not contain valid UTF-8"

end OsError

inductive Entry where
  | file (contents : Bytes)
  | directory
deriving DecidableEq, Repr

/-- The parts of the way from the working directory to an entry. Absolute paths begin with the part
`/`, and paths that leave the working directory with the part `..`. -/
abbrev Place := List String

structure Tree where
  entries : List (Place × Entry)
deriving DecidableEq, Repr

namespace Tree

def empty : Tree := ⟨[]⟩

def isGiven (p : Place) : Bool := p.all fun part => part == "/" || part == ".."

def get? (t : Tree) (p : Place) : Option Entry := if isGiven p then some .directory else t.entries.lookup p

def putEntry (p : Place) (e : Entry) : List (Place × Entry) → List (Place × Entry)
  | [] => [(p, e)]
  | (q, old) :: rest => if q = p then (p, e) :: rest else (q, old) :: putEntry p e rest

def put (t : Tree) (p : Place) (e : Entry) : Tree := ⟨putEntry p e t.entries⟩

def remove (t : Tree) (p : Place) : Tree := ⟨t.entries.filter fun e => !p.isPrefixOf e.1⟩

def parts (path : String) : List String :=
  ((splitAt '/' path.toList).filter fun part => !isIdle part).map String.ofList

def endsInDirectory (path : String) : Bool := ((splitAt '/' path.toList).getLast?.map isIdle).getD false

/-- The last part is a single dot: the path leads on only where the directory before the dot is there. -/
def endsInDot (path : String) : Bool :=
  ((splitAt '/' path.toList).reverse.dropWhile List.isEmpty).head? == some ['.']

def start (cwd : Place) (path : String) : Place := if path.toList.head? = some '/' then ["/"] else cwd

def above (p : Place) : Place :=
  match p.getLast? with
  | none => [".."]
  | some part => if part = "/" then p else if part = ".." then p ++ [".."] else p.dropLast

def step (p : Place) (part : String) : Place := if part = ".." then above p else p ++ [part]

def enter (t : Tree) (p : Place) (part : String) : Except OsError Place :=
  match t.get? (step p part) with
  | some .directory => .ok (step p part)
  | some (.file _) => .error .notDirectory
  | none => .error .notFound

def locate (t : Tree) (cwd : Place) (path : String) : Except OsError Place :=
  if path.toList.contains '\x00' then .error .badName
  else
    let ps := parts path
    match ps.getLast? with
    | none => if path.isEmpty then .error .notFound else .ok (start cwd path)
    | some last => do
      let dir ← ps.dropLast.foldlM t.enter (start cwd path)
      return step dir last

def lookup (t : Tree) (cwd : Place) (path : String) : Except OsError Entry := do
  let p ← t.locate cwd path
  match t.get? p with
  | none => .error .notFound
  | some .directory => .ok .directory
  | some (.file contents) => if endsInDirectory path then .error .notDirectory else .ok (.file contents)

def pathExists (t : Tree) (cwd : Place) (path : String) : Bool := (t.lookup cwd path).isOk

def readFile (t : Tree) (cwd : Place) (path : String) : Except OsError Bytes := do
  match ← t.lookup cwd path with
  | .directory => .error .isDirectory
  | .file contents => .ok contents

def readText (t : Tree) (cwd : Place) (path : String) : Except OsError String := do
  let contents ← t.readFile cwd path
  match Text.decode? contents with
  | some s => .ok s
  | none => .error .badText

def writeFile (t : Tree) (cwd : Place) (path : String) (contents : Bytes) : Except OsError Tree := do
  let p ← t.locate cwd path
  match t.get? p with
  | some .directory => .error .isDirectory
  | entry =>
    if endsInDot path then .error (if entry.isSome then .notDirectory else .notFound)
    else if endsInDirectory path then .error .isDirectory
    else .ok (t.put p (.file contents))

abbrev Changed := Except OsError Unit × Tree

def commit (t : Tree) : Except OsError Tree → Changed
  | .ok t => (.ok (), t)
  | .error e => (.error e, t)

def makeAlong (t : Tree) (p : Place) : List String → Changed
  | [] => (.ok (), t)
  | part :: rest =>
    let q := step p part
    match t.get? q with
    | some .directory => makeAlong t q rest
    | some (.file _) => (.error (if rest.isEmpty then .exists else .notDirectory), t)
    | none => makeAlong (t.put q .directory) q rest

def makeBeforeDot (t : Tree) (cwd : Place) (path : String) : Changed :=
  match t.lookup cwd path with
  | .ok _ => (.ok (), t)
  | .error .notFound =>
    match t.makeAlong (start cwd path) (parts path).dropLast with
    | (.ok (), t) => ((t.lookup cwd path).map fun _ => (), t)
    | failed => failed
  | .error e => (.error e, t)

def makeDirectories (t : Tree) (cwd : Place) (path : String) : Changed :=
  if path.toList.contains '\x00' then (.error .badName, t)
  else if endsInDot path then t.makeBeforeDot cwd path
  else t.makeAlong (start cwd path) (parts path)

def writeBelow (t : Tree) (cwd : Place) (path : String) (contents : Bytes) : Changed :=
  match t.makeDirectories cwd ((parent? path).getD "") with
  | (.ok (), t) => t.commit (t.writeFile cwd path contents)
  | failed => failed

def files (t : Tree) : List (String × Bytes) :=
  t.entries.filterMap fun
    | (p, .file contents) => if p.head? = some "/" ∨ p.head? = some ".." then none
      else some (String.intercalate "/" p, contents)
    | (_, .directory) => none

def names (t : Tree) (p : Place) : List String :=
  (t.entries.filterMap fun e =>
    if e.1.length = p.length + 1 ∧ p.isPrefixOf e.1 then e.1.getLast? else none).mergeSort

end Tree

end BrowserCheck.Files
