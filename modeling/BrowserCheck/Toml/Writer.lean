import BrowserCheck.Number.Binary64
import BrowserCheck.Toml.Quoted

set_option autoImplicit false

namespace BrowserCheck.Toml

inductive Entry where
  | text (s : String)
  | natural (n : Nat)
  | boolean (b : Bool)
  | texts (ss : List String)

structure Section where
  path : List String
  entries : List (String × Entry)

def greatestInteger : Nat := 2 ^ 63 - 1

def writeItem (s : String) : List Char := "    ".toList ++ writeText s.toList ++ ",\n".toList

-- two items or more get a line each
def writeTexts : List String → List Char
  | [] => "[]".toList
  | [s] => '[' :: (writeText s.toList ++ [']'])
  | ss => "[\n".toList ++ ss.flatMap writeItem ++ [']']

namespace Entry

def write? : Entry → Option (List Char)
  | .text s => some (writeText s.toList)
  | .natural n => if n ≤ greatestInteger then some (toString n).toList else none
  | .boolean b => some (if b then "true" else "false").toList
  | .texts ss => some (writeTexts ss)

end Entry

def writeField? (field : String × Entry) : Option (List Char) :=
  field.2.write?.map fun v => field.1.toList ++ " = ".toList ++ v ++ ['\n']

namespace Section

def header (path : List String) : List Char :=
  if path.isEmpty then [] else "\n[".toList ++ (String.intercalate "." path).toList ++ "]\n".toList

def write? (s : Section) : Option (List Char) :=
  (s.entries.mapM writeField?).map fun ls => header s.path ++ ls.flatten

end Section

def write? (sections : List Section) : Option String :=
  (sections.mapM Section.write?).map fun ps => String.ofList ps.flatten

end BrowserCheck.Toml
