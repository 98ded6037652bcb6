import BrowserCheck.Text.Basic

set_option autoImplicit false

namespace BrowserCheck.Files

open Text (splitAt)

def joinSlash : List (List Char) → List Char
  | [] => []
  | [part] => part
  | part :: parts => part ++ '/' :: joinSlash parts

def isIdle (part : List Char) : Bool := part.isEmpty || part == ['.']

def dropIdleEnd (parts : List (List Char)) : List (List Char) := (parts.reverse.dropWhile isIdle).reverse

def splitStart (path : List Char) : List Char × List Char :=
  match path with
  | '/' :: rest => (['/'], rest)
  | ['.'] => (['.'], [])
  | '.' :: '/' :: rest => (['.'], '/' :: rest)
  | path => ([], path)

def parent? (path : String) : Option String :=
  let (start, body) := splitStart path.toList
  match dropIdleEnd (splitAt '/' body) with
  | [] => if start = ['.'] then some "" else none
  | parts => some (String.ofList (start ++ joinSlash (dropIdleEnd parts.dropLast)))

def join (dir path : String) : String :=
  if path.toList.head? = some '/' then path
  else if dir.isEmpty ∨ dir.toList.getLast? = some '/' then dir ++ path
  else dir ++ "/" ++ path

end BrowserCheck.Files
