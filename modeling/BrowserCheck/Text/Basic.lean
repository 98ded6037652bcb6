import BrowserCheck.Number.Binary64

set_option autoImplicit false

namespace BrowserCheck.Text

-- the code points with the Unicode property White_Space
def blankPoints : List Nat :=
  [0x09, 0x0A, 0x0B, 0x0C, 0x0D, 0x20, 0x85, 0xA0, 0x1680,
   0x2000, 0x2001, 0x2002, 0x2003, 0x2004, 0x2005, 0x2006, 0x2007, 0x2008, 0x2009, 0x200A,
   0x2028, 0x2029, 0x202F, 0x205F, 0x3000]

def isBlank (c : Char) : Bool := blankPoints.contains c.toNat

def trimStart (s : List Char) : List Char := s.dropWhile isBlank

def trimEnd (s : List Char) : List Char := (s.reverse.dropWhile isBlank).reverse

def trim (s : List Char) : List Char := trimEnd (trimStart s)

def cutAt? (marker : List Char) : List Char → Option (List Char × List Char)
  | [] => if marker.isEmpty then some ([], []) else none
  | c :: rest =>
    match marker.isPrefixOf? (c :: rest) with
    | some after => some ([], after)
    | none => (cutAt? marker rest).map fun p => (c :: p.1, p.2)

def holds (marker s : List Char) : Bool := (cutAt? marker s).isSome

def splitAt (mark : Char) : List Char → List (List Char)
  | [] => [[]]
  | c :: rest =>
    if c = mark then [] :: splitAt mark rest
    else match splitAt mark rest with
      | part :: parts => (c :: part) :: parts
      | [] => [[c]]

def dropReturn : List Char → List Char
  | '\r' :: rest => rest
  | line => line

-- `line` holds the characters of the open line, last one first
def linesFrom (line : List Char) : List Char → List (List Char)
  | [] => if line.isEmpty then [] else [line.reverse]
  | c :: rest =>
    if c = '\n' then (dropReturn line).reverse :: linesFrom [] rest else linesFrom (c :: line) rest

/-- The lines of a text. A final newline opens no further line, and a carriage return counts as part
of the line end only where a newline follows it. -/
def lines (s : List Char) : List (List Char) := linesFrom [] s

def unlines (ls : List (List Char)) : List Char := ls.flatMap (· ++ ['\n'])

def digitValue (c : Char) : Nat := c.toNat - '0'.toNat

def decimal? (bound : Nat) (s : List Char) : Option Nat :=
  if s.isEmpty ∨ ¬s.all Char.isDigit then none
  else
    let n := s.foldl (fun (n : Nat) c => 10 * n + (c.toNat - '0'.toNat)) 0
    if n < bound then some n else none

def signedDecimal? (s : List Char) : Option Int :=
  let magnitude? (digits : List Char) := (decimal? (2 ^ 63) digits).map Int.ofNat
  match s with
  | '-' :: digits => (magnitude? digits).map Int.neg
  | '+' :: digits => magnitude? digits
  | digits => magnitude? digits

def hexDigit (n : Nat) : Char := "0123456789abcdef".toList.getD n '0'

def hexValue? (c : Char) : Option Nat :=
  if c.isDigit then some (digitValue c)
  else if 'a' ≤ c ∧ c ≤ 'f' then some (c.toNat - 'a'.toNat + 10)
  else if 'A' ≤ c ∧ c ≤ 'F' then some (c.toNat - 'A'.toNat + 10)
  else none

end BrowserCheck.Text

namespace String

def trimBlank (s : String) : String := String.ofList (BrowserCheck.Text.trim s.toList)

end String
