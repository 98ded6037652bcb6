import BrowserCheck.Shell.Format
import BrowserCheck.Shell.State
import BrowserCheck.Shell.Token
import BrowserCheck.Text.Basic

set_option autoImplicit false

/-! The commands that every shell of a sandbox has. -/

namespace BrowserCheck.Shell

open Files Text

abbrev Builtin := List String → Bytes → State → Result

def reason : OsError → String
  | .notFound => "No such file or directory"
  | .exists => "File exists"
  | .notDirectory => "Not a directory"
  | .isDirectory => "Is a directory"
  | .denied => "Permission denied"
  | .loops => "Too many levels of symbolic links"
  | .badName => "Invalid argument"
  | .badText => "Invalid argument"

namespace Builtin

def quit (status : Nat) : Builtin := fun _ _ s => s.quiet status

def echo : Builtin := fun arguments _ s =>
  let (silent, words) := match arguments with
    | "-n" :: rest => (true, rest)
    | words => (false, words)
  let (b, stopped) := Format.unescape (String.intercalate " " words)
  ⟨if silent || stopped then b else b ++ [0x0A], [], 0, s⟩

def printf : Builtin := fun arguments _ s =>
  match arguments with
  | [] => s.complain 2 "sh: 1: printf: usage: printf format [arg ...]"
  | format :: rest =>
    match Format.fillAll (Format.scan true format).1 rest (rest.length + 1) with
    | .ok b => ⟨b, [], 0, s⟩
    | .error c => s.complain 2 ("sh: 1: printf: %" ++ String.singleton c ++ ": invalid directive")

def each (act : String → State → Result) (arguments : List String) (s : State) : Result :=
  arguments.foldl (fun r a =>
    let next := act a r.state
    ⟨r.stdout ++ next.stdout, r.stderr ++ next.stderr, max r.status next.status, next.state⟩) (s.quiet 0)

def cat : Builtin := fun arguments input s =>
  each (fun a s =>
    if a = "-" then ⟨input, [], 0, s⟩
    else match s.readFile a with
      | .ok b => ⟨b, [], 0, s⟩
      | .error e => s.complain 1 ("cat: " ++ a ++ ": " ++ reason e))
    (if arguments.isEmpty then ["-"] else arguments) s

def countOf (option : Char) (b : Bytes) : Nat :=
  if option = 'l' then b.count 0x0A
  else if option = 'w' then (Word.expand (fun _ => lossy b) none [.parameter "" false]).length
  else if option = 'm' then (characters b).length
  else b.length

def countFile (option : Char) (a : String) (s : State) : Result :=
  match s.readFile a with
  | .ok b => s.print (toString (countOf option b) ++ " " ++ a ++ "\n")
  | .error e => s.complain 1 ("wc: " ++ a ++ ": " ++ reason e)

def options : List String → List Char × List String
  | [] => ([], [])
  | a :: rest =>
    match a.toList with
    | '-' :: c :: cs =>
      if c :: cs = ['-'] then ([], rest)
      else ((c :: cs) ++ (options rest).1, (options rest).2)
    | _ => ([], a :: rest)

def isHidden (name : String) : Bool := name.toList.head? == some '.'

def listing (opts : List Char) (t : Tree) (p : Place) : String :=
  let names := t.names p
  let shown :=
    if opts.contains 'a' then "." :: ".." :: names
    else if opts.contains 'A' then names
    else names.filter fun n => !isHidden n
  String.join (shown.map (· ++ "\n"))

def ls : Builtin := fun arguments _ s =>
  let (opts, paths) := options arguments
  each (fun a s =>
    match s.tree.lookup s.place a, s.tree.locate s.place a with
    | .ok .directory, .ok p => s.print (listing opts s.tree p)
    | .ok (.file _), _ => s.print (a ++ "\n")
    | .error e, _ => s.complain 2 ("ls: cannot access '" ++ a ++ "': " ++ reason e)
    | .ok .directory, .error e => s.complain 2 ("ls: cannot access '" ++ a ++ "': " ++ reason e))
    (if paths.isEmpty then ["."] else paths) s

def lastPart (path : String) : List Char :=
  match ((splitAt '/' path.toList).filter fun part => !part.isEmpty).getLast? with
  | some part => part
  | none => if path.isEmpty then [] else ['/']

def dropEnding (ending name : List Char) : List Char :=
  if ending.isSuffixOf name ∧ name ≠ ending then name.take (name.length - ending.length) else name

def wc : Builtin := fun arguments input s =>
  match options arguments with
  | ([option], []) => s.print (toString (countOf option input) ++ "\n")
  | ([option], [a]) => countFile option a s
  | _ => s.complain 1 "wc: extra operand"

def lines : Bytes → List Bytes
  | [] => []
  | b :: rest =>
    if b = 0x0A then [b] :: lines rest
    else match lines rest with
      | [] => [[b]]
      | first :: more => (b :: first) :: more

inductive Amount where
  | lines (n : Nat)
  | bytes (n : Nat)
deriving DecidableEq, Repr

def Amount.take : Amount → Bytes → Bytes
  | .lines n, b => ((Builtin.lines b).take n).flatten
  | .bytes n, b => b.take n

def number (digits : List Char) : Nat := (decimal? (2 ^ 63) digits).getD 0

def amount : List String → Amount × List String
  | "-n" :: n :: rest => (.lines (number n.toList), rest)
  | "-c" :: n :: rest => (.bytes (number n.toList), rest)
  | a :: rest =>
    match a.toList with
    | '-' :: 'n' :: n => (.lines (number n), rest)
    | '-' :: 'c' :: n => (.bytes (number n), rest)
    | '-' :: n => (.lines (number n), rest)
    | _ => (.lines 10, a :: rest)
  | [] => (.lines 10, [])

def head : Builtin := fun arguments input s =>
  match amount arguments with
  | (n, []) => ⟨n.take input, [], 0, s⟩
  | (n, a :: _) =>
    match s.readFile a with
    | .ok b => ⟨n.take b, [], 0, s⟩
    | .error e => s.complain 1 ("head: cannot open '" ++ a ++ "' for reading: " ++ reason e)

def basename : Builtin := fun arguments _ s =>
  match arguments with
  | [path] => s.print (String.ofList (lastPart path) ++ "\n")
  | [path, ending] => s.print (String.ofList (dropEnding ending.toList (lastPart path)) ++ "\n")
  | _ => s.complain 1 "basename: missing operand\nTry 'basename --help' for more information."

def dirname : Builtin := fun arguments _ s =>
  match arguments with
  | [path] =>
    let parent := (parent? path).getD (if path.isEmpty then "." else "/")
    s.print ((if parent.isEmpty then "." else parent) ++ "\n")
  | _ => s.complain 1 "dirname: missing operand\nTry 'dirname --help' for more information."

def pwd : Builtin := fun _ _ s => s.print (s.directory ++ "\n")

def cd : Builtin := fun arguments _ s =>
  match arguments with
  | [] => s.quiet 0
  | path :: _ =>
    match s.tree.locate s.place path with
    | .ok p =>
      if s.tree.get? p = some .directory then { s with place := p }.quiet 0
      else s.complain 2 ("sh: 1: cd: can't cd to " ++ path)
    | .error _ => s.complain 2 ("sh: 1: cd: can't cd to " ++ path)

def makeOne (t : Tree) (cwd : Place) (path : String) : Tree.Changed :=
  t.commit (do
    let p ← t.locate cwd path
    if (t.get? p).isSome then .error .exists else .ok (t.put p .directory))

def mkdir : Builtin := fun arguments _ s =>
  let (opts, paths) := options arguments
  each (fun a s =>
    match (if opts.contains 'p' then s.tree.makeDirectories s.place a else makeOne s.tree s.place a) with
    | (.ok (), t) => { s with tree := t }.quiet 0
    | (.error e, t) =>
      { s with tree := t }.complain 1 ("mkdir: cannot create directory '" ++ a ++ "': " ++ reason e)) paths s

def rm : Builtin := fun arguments _ s =>
  let (opts, paths) := options arguments
  let deep := opts.contains 'r' || opts.contains 'R'
  let fail (a : String) (e : OsError) (s : State) : Result :=
    s.complain 1 ("rm: cannot remove '" ++ a ++ "': " ++ reason e)
  each (fun a s =>
    match s.tree.lookup s.place a, s.tree.locate s.place a with
    | .ok .directory, .ok p =>
      if deep then { s with tree := s.tree.remove p }.quiet 0 else fail a .isDirectory s
    | .ok (.file _), .ok p => { s with tree := s.tree.remove p }.quiet 0
    | .error e, _ => if opts.contains 'f' then s.quiet 0 else fail a e s
    | .ok _, .error e => fail a e s) paths s

def touch : Builtin := fun arguments _ s =>
  each (fun a s =>
    if s.tree.pathExists s.place a then s.quiet 0
    else match s.tree.writeFile s.place a [] with
      | .ok t => { s with tree := t }.quiet 0
      | .error e => s.complain 1 ("touch: cannot touch '" ++ a ++ "': " ++ reason e)) arguments s

def integer? (a : String) : Option Int := signedDecimal? a.toList

def condition? (s : State) : List String → Option Bool
  | [] => some false
  | ["!", a] => some a.isEmpty
  | [a] => some (!a.isEmpty)
  | ["-n", a] => some (!a.isEmpty)
  | ["-z", a] => some a.isEmpty
  | ["-e", a] => some (s.tree.pathExists s.place a)
  | ["-f", a] => some (s.tree.readFile s.place a).isOk
  | ["-d", a] => some (match s.tree.lookup s.place a with | .ok .directory => true | _ => false)
  | ["-s", a] => some (match s.tree.readFile s.place a with | .ok b => !b.isEmpty | _ => false)
  | [a, "=", b] => some (a == b)
  | [a, "!=", b] => some (a != b)
  | [a, "-eq", b] => do return (← integer? a) == (← integer? b)
  | [a, "-ne", b] => do return (← integer? a) != (← integer? b)
  | [a, "-lt", b] => do return (← integer? a) < (← integer? b)
  | [a, "-gt", b] => do return (← integer? a) > (← integer? b)
  | "!" :: rest => (condition? s rest).map not
  | _ => none

def test : Builtin := fun arguments _ s =>
  match condition? s arguments with
  | some true => s.quiet 0
  | some false => s.quiet 1
  | none => s.complain 2 "sh: 1: test: unexpected operator"

def bracket : Builtin := fun arguments input s =>
  if arguments.getLast? = some "]" then test arguments.dropLast input s
  else s.complain 2 "sh: 1: [: missing ]"

def exit : Builtin := fun arguments _ s =>
  match arguments with
  | [] => { s with ending := some (.exited s.status) }.quiet s.status
  | a :: _ =>
    match decimal? (2 ^ 31) a.toList with
    | some n => { s with ending := some (.exited (n % 256)) }.quiet (n % 256)
    | none => { s with ending := some (.exited 2) }.complain 2 ("sh: 1: exit: Illegal number: " ++ a)

def kill : Builtin := fun arguments _ s =>
  let target := (options arguments).2.getLast?
  if target = some (s.value "$") then { s with ending := some .killed }.quiet 0
  else s.complain 1 "sh: 1: kill: No such process"

def all : List (String × Builtin) :=
  [(":", quit 0), ("true", quit 0), ("false", quit 1), ("sleep", quit 0), ("echo", echo),
   ("printf", printf), ("cat", cat), ("ls", ls), ("wc", wc), ("head", head), ("basename", basename),
   ("dirname", dirname), ("pwd", pwd), ("cd", cd), ("mkdir", mkdir), ("rm", rm), ("touch", touch),
   ("test", test), ("[", bracket), ("exit", exit), ("kill", kill)]

end Builtin

end BrowserCheck.Shell
