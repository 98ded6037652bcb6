import BrowserCheck.Files.Tree

set_option autoImplicit false

namespace BrowserCheck.Shell

open Files Text

inductive Ending where
  | exited (status : Nat)
  | killed
deriving DecidableEq, Repr

structure State where
  tree : Tree
  home : String
  place : Place
  parameters : List (String × String)
  status : Nat
  ending : Option Ending
deriving DecidableEq, Repr

structure Result where
  stdout : Bytes
  stderr : Bytes
  status : Nat
  state : State
deriving DecidableEq, Repr

namespace State

def pathOf (s : State) (p : Place) : String :=
  match p with
  | [] => s.home
  | "/" :: parts => "/" ++ String.intercalate "/" parts
  | ".." :: parts =>
    let (ups, down) := parts.span (· == "..")
    let above := (ups.foldl (fun dir _ => dir.bind parent?) (parent? s.home)).getD "/"
    down.foldl join above
  | parts => parts.foldl join s.home

def directory (s : State) : String := s.pathOf s.place

def setParameter (s : State) (name value : String) : State :=
  { s with parameters := (name, value) :: s.parameters.filter (·.1 != name) }

def value (s : State) (name : String) : String :=
  if name = "?" then toString s.status
  else if name = "$" then "1000"
  else if name = "#" then "0"
  else if name = "0" then "sh"
  else if name = "PWD" then s.directory
  else (s.parameters.lookup name).getD ""

def nullPath : String := "/dev/null"

def readFile (s : State) (path : String) : Except OsError Bytes :=
  if path = nullPath then .ok [] else s.tree.readFile s.place path

def quiet (s : State) (status : Nat) : Result := ⟨[], [], status, s⟩

def print (s : State) (text : String) : Result := ⟨encode text, [], 0, s⟩

def complain (s : State) (status : Nat) (text : String) : Result := ⟨[], encode (text ++ "\n"), status, s⟩

end State

end BrowserCheck.Shell
