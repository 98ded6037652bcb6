import BrowserCheck.Text.Width

set_option autoImplicit false

namespace BrowserCheck.Cli

structure Listing where
  headers : List String
  rows : List (List String)
deriving DecidableEq, Repr

def shorten (text : String) (limit : Nat) : String :=
  let line := text.toList.map fun c => if c = '\n' then ' ' else c
  if line.length ≤ limit then String.ofList line else String.ofList (line.take (limit - 1) ++ ['…'])

namespace Listing

def cellLines (cell : String) : List (List Char) :=
  cell.toList.foldr (fun c ls => if c = '\n' then [] :: ls else ls.modifyHead (c :: ·)) [[]]

def cellWidth (cell : String) : Nat := ((cellLines cell).map Text.width).foldl max 0

def columnWidths (l : Listing) : List Nat :=
  l.rows.foldl (fun ws row => List.zipWith max ws (row.map cellWidth)) (l.headers.map cellWidth)

def pad (width : Nat) (line : List Char) : List Char :=
  ' ' :: (line ++ List.replicate (width - Text.width line) ' ' ++ [' '])

def rule (widths : List Nat) (left fill cross right : Char) : List Char :=
  left :: ((widths.map fun w => List.replicate (w + 2) fill).intersperse [cross]).flatten ++ [right, '\n']

def screenLine (widths : List Nat) (cells : List (List Char)) : List Char :=
  '│' :: ((List.zipWith pad widths cells).intersperse ['┆']).flatten ++ ['│', '\n']

def screenRow (widths : List Nat) (row : List String) : List Char :=
  let cells := row.map cellLines
  let height := (cells.map List.length).foldl max 1
  (List.range height).flatMap fun i => screenLine widths (cells.map fun ls => ls.getD i [])

def table (l : Listing) : String :=
  let widths := l.columnWidths
  let rows := (l.rows.map (screenRow widths)).intersperse (rule widths '├' '╌' '┼' '┤')
  String.ofList (rule widths '┌' '─' '┬' '┐' ++ screenRow widths l.headers ++
    rule widths '╞' '═' '╪' '╡' ++ rows.flatten ++ rule widths '└' '─' '┴' '┘')

def item (headers row : List String) : String :=
  String.join (List.zipWith (fun h v => h ++ ": " ++ v ++ "\n") headers row)

def items (l : Listing) : String := String.intercalate "---\n" (l.rows.map (item l.headers))

end Listing

inductive Layout where
  | table
  | plain
deriving DecidableEq, Repr

def Listing.text (layout : Layout) (l : Listing) : String :=
  if l.rows.isEmpty then "No items found.\n"
  else match layout with
    | .table => l.table
    | .plain => l.items

end BrowserCheck.Cli
