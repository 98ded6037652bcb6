import BrowserCheck.Files.Operation

set_option autoImplicit false

/-! Files that go by several names, and links that lead from one name to another. -/

namespace BrowserCheck.Files

open Text (Bytes)
open BrowserCheck.Files.Tree (isGiven parts endsInDirectory endsInDot start step)

inductive Node where
  | file (number : Nat)
  | directory
  | link (target : String)
deriving DecidableEq, Repr

structure Disk where
  nodes : List (Place × Node)
  contents : Nat → Bytes
  next : Nat
  numbered : ∀ p n, (p, Node.file n) ∈ nodes → n < next

namespace Disk

def empty : Disk := ⟨[], fun _ => [], 0, nofun⟩

def node? (d : Disk) (p : Place) : Option Node := if isGiven p then some .directory else d.nodes.lookup p

def fill (d : Disk) (n : Nat) (b : Bytes) : Disk := { d with contents := fun m => if m = n then b else d.contents m }

def add (d : Disk) (p : Place) (node : Node) (h : ∀ n, node = .file n → n < d.next) : Disk where
  nodes := (p, node) :: d.nodes
  contents := d.contents
  next := d.next
  numbered q n hq := by
    rcases List.mem_cons.mp hq with hq | hq
    · exact h n (Prod.mk.inj hq).2.symm
    · exact d.numbered q n hq

def addDirectory (d : Disk) (p : Place) : Disk := d.add p .directory nofun

def keep (d : Disk) (b : Bytes) : Disk where
  nodes := d.nodes
  contents m := if m = d.next then b else d.contents m
  next := d.next + 1
  numbered p n h := Nat.lt_succ_of_lt (d.numbered p n h)

def addFile (d : Disk) (p : Place) (b : Bytes) : Disk :=
  (d.keep b).add p (.file d.next) fun _ h => Node.file.inj h ▸ Nat.lt_succ_self d.next

-- a slash behind a link's target asks for a directory, as a dot does
def targetParts (target : String) : List String := parts target ++ if endsInDirectory target then ["."] else []

-- a link is left to `follow`, and so is what comes behind it
def along (d : Disk) (follow : Place → List String → Except OsError (Place × Nat)) (links : Nat) (p : Place) :
    List String → Except OsError (Place × Nat)
  | [] => .ok (p, links)
  | part :: rest =>
    let q := if part = "." then p else step p part
    match d.node? q with
    | some .directory => d.along follow links q rest
    | some (.link target) => follow (start p target) (targetParts target ++ rest)
    | some (.file _) => if rest.isEmpty then .ok (q, links) else .error .notDirectory
    | none => if rest.isEmpty then .ok (q, links) else .error .notFound

/-- The place that a way leads to, and how many more links could have been followed. -/
def walk (d : Disk) : Nat → Place → List String → Except OsError (Place × Nat)
  | 0 => d.along (fun _ _ => .error .loops) 0
  | links + 1 => d.along (d.walk links) (links + 1)

def linkLimit : Nat := 40

def locate (d : Disk) (cwd : Place) (path : String) : Except OsError Place :=
  if path.toList.contains '\x00' then .error .badName
  else (d.walk linkLimit (start cwd path) (parts path)).map Prod.fst

def lookup (d : Disk) (cwd : Place) (path : String) : Except OsError Node := do
  if path.isEmpty then throw .notFound
  let p ← d.locate cwd path
  match d.node? p with
  | some (.file n) => if endsInDirectory path then .error .notDirectory else .ok (.file n)
  | some .directory => .ok .directory
  | _ => .error .notFound

def file? (d : Disk) (cwd : Place) (path : String) : Option Nat :=
  match d.lookup cwd path with
  | .ok (.file n) => some n
  | _ => none

def readFile (d : Disk) (cwd : Place) (path : String) : Except OsError Bytes := do
  match ← d.lookup cwd path with
  | .file n => .ok (d.contents n)
  | _ => .error .isDirectory

def writeFile (d : Disk) (cwd : Place) (path : String) (b : Bytes) : Except OsError Disk := do
  if path.isEmpty then throw .notFound
  let p ← d.locate cwd path
  match d.node? p with
  | some (.file n) =>
    if endsInDot path then .error .notDirectory
    else if endsInDirectory path then .error .isDirectory
    else .ok (d.fill n b)
  | some _ => .error .isDirectory
  | none =>
    if endsInDot path then .error .notFound
    else if endsInDirectory path then .error .isDirectory
    else .ok (d.addFile p b)

abbrev Changed := Except OsError Unit × Disk

def commit (d : Disk) : Except OsError Disk → Changed
  | .ok d => (.ok (), d)
  | .error e => (.error e, d)

def makeAlong (d : Disk) (links : Nat) (p : Place) : List String → Changed
  | [] => (.ok (), d)
  | part :: rest =>
    match d.walk links p [part] with
    | .error e => (.error (if rest.isEmpty ∨ e = .notFound then .exists else e), d)
    | .ok (q, left) =>
      match d.node? q with
      | some .directory => d.makeAlong left q rest
      | some _ => (.error (if rest.isEmpty then .exists else .notDirectory), d)
      | none => if q = step p part then (d.addDirectory q).makeAlong left q rest else (.error .exists, d)

def makeBeforeDot (d : Disk) (cwd : Place) (path : String) : Changed :=
  match d.lookup cwd path with
  | .ok _ => (.ok (), d)
  | .error .notFound =>
    match d.makeAlong linkLimit (start cwd path) (parts path).dropLast with
    | (.ok (), d) => ((d.lookup cwd path).map fun _ => (), d)
    | failed => failed
  | .error e => (.error e, d)

def makeDirectories (d : Disk) (cwd : Place) (path : String) : Changed :=
  if path.toList.contains '\x00' then (.error .badName, d)
  else if endsInDot path then d.makeBeforeDot cwd path
  else d.makeAlong linkLimit (start cwd path) (parts path)

def answer : (op : Operation) → Disk → op.Answer × Disk
  | .read path, d => (d.readFile [] path, d)
  | .write path contents, d => d.commit (d.writeFile [] path contents)
  | .makeDirectories path, d => d.makeDirectories [] path

end Disk

end BrowserCheck.Files
