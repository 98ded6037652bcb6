import BrowserCheck.Json.Decode

set_option autoImplicit false

namespace BrowserCheck.Toml

open Json

/-- How a table came to be: by a header of its own, as a part of a header's path, or as a part of a
dotted key. -/
inductive Origin where
  | header
  | path
  | dotted
deriving DecidableEq

inductive Item where
  | value (w : Written)
  | table (origin : Origin) (fields : List (String × Item))
  | tables (elements : List (List (String × Item)))

abbrev Table := List (String × Item)

namespace Item

def written : Item → Written
  | .value w => w
  | .table _ fields => .object (writtenFields fields)
  | .tables elements => .array (writtenElements elements).reverse
where
  writtenFields : List (String × Item) → List (String × Written)
    | [] => []
    | (k, item) :: rest => (k, written item) :: writtenFields rest
  writtenElements : List (List (String × Item)) → List Written
    | [] => []
    | fields :: rest => .object (writtenFields fields) :: writtenElements rest

end Item

namespace Table

def written (t : Table) : Written := .object (Item.written.writtenFields t)

def set (key : String) (item : Item) : Table → Table
  | [] => [(key, item)]
  | (k, old) :: rest => if k = key then (key, item) :: rest else (k, old) :: set key item rest

/-- Changes the table at a path, and makes the tables that are missing on the way. Of an array of
tables the last one is meant. A dotted key does not reach into a table that has its own header. -/
def change (dotted : Bool) (f : Origin → Table → Option Table) :
    List String → Origin → Table → Option Table
  | [], origin, t => f origin t
  | key :: path, _, t =>
    match t.lookup key with
    | none =>
      let origin := if dotted then .dotted else .path
      (change dotted f path origin []).map fun sub => t.set key (.table origin sub)
    | some (.table origin sub) =>
      if dotted && origin = .header then none
      else (change dotted f path origin sub).map fun sub => t.set key (.table origin sub)
    | some (.tables (last :: others)) =>
      (change dotted f path .header last).map fun last => t.set key (.tables (last :: others))
    | some (.tables []) => none
    | some (.value _) => none

def insert (path : List String) (key : String) (item : Item) (t : Table) : Option Table :=
  change true (fun origin t =>
    if ¬path.isEmpty ∧ origin ≠ .dotted then none
    else if (t.lookup key).isSome then none
    else some (t.set key item)) path .header t

def openTable (path : List String) (key : String) (t : Table) : Option Table :=
  change false (fun _ t =>
    match t.lookup key with
    | none => some (t.set key (.table .header []))
    | some (.table .path sub) => some (t.set key (.table .header sub))
    | some _ => none) path .header t

def openElement (path : List String) (key : String) (t : Table) : Option Table :=
  change false (fun _ t =>
    match t.lookup key with
    | none => some (t.set key (.tables [[]]))
    | some (.tables elements) => some (t.set key (.tables ([] :: elements)))
    | some _ => none) path .header t

def insertAt (header path : List String) (key : String) (item : Item) (t : Table) : Option Table :=
  change false (fun _ t => t.insert path key item) header .header t

end Table

end BrowserCheck.Toml
