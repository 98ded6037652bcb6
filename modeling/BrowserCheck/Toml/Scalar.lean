import BrowserCheck.Json.Reader

set_option autoImplicit false

namespace BrowserCheck.Toml

open Json

def grouped (isDigit : Char → Bool) : List Char → Bool
  | [] => false
  | [c] => isDigit c
  | c :: '_' :: rest => isDigit c && grouped isDigit rest
  | c :: rest => isDigit c && grouped isDigit rest

def isWhole (s : List Char) : Bool :=
  grouped Char.isDigit s && (s.head? != some '0' || s.length == 1)

def isHex (c : Char) : Bool := (Text.hexValue? c).isSome
def isOctal (c : Char) : Bool := '0' ≤ c && c ≤ '7'
def isBinary (c : Char) : Bool := c == '0' || c == '1'

def valueIn (base : Nat) (s : List Char) : Nat :=
  (s.filter (· != '_')).foldl (fun n c => n * base + (Text.hexValue? c).getD 0) 0

def splitSign : List Char → Option Char × List Char
  | '+' :: rest => (some '+', rest)
  | '-' :: rest => (some '-', rest)
  | s => (none, s)

def integerOf? (n : Int) : Option Written :=
  if -2 ^ 63 ≤ n ∧ n < 2 ^ 63 then some (.number (.integer n)) else none

def integer? (s : List Char) : Option Written :=
  match s with
  | '0' :: 'x' :: ds => if grouped isHex ds then integerOf? (valueIn 16 ds) else none
  | '0' :: 'o' :: ds => if grouped isOctal ds then integerOf? (valueIn 8 ds) else none
  | '0' :: 'b' :: ds => if grouped isBinary ds then integerOf? (valueIn 2 ds) else none
  | _ =>
    let (sign, ds) := splitSign s
    if ¬isWhole ds then none
    else if sign = some '-' then integerOf? (-(valueIn 10 ds : Int))
    else integerOf? (valueIn 10 ds)

def isPower (s : List Char) : Bool := grouped Char.isDigit (splitSign s).2

def isFloatBody (s : List Char) : Bool :=
  let whole := s.takeWhile fun c => c.isDigit || c == '_'
  isWhole whole &&
    match s.drop whole.length with
    | '.' :: rest =>
      let fraction := rest.takeWhile fun c => c.isDigit || c == '_'
      grouped Char.isDigit fraction &&
        match rest.drop fraction.length with
        | [] => true
        | c :: power => isMark c && isPower power
    | c :: power => isMark c && isPower power
    | [] => false

def isTooGreat (s : List Char) : Bool :=
  let plain := s.filter (· != '_')
  let whole := plain.takeWhile Char.isDigit
  let rest := plain.dropWhile Char.isDigit
  let fraction := if rest.head? = some '.' then (rest.drop 1).takeWhile Char.isDigit else []
  let power := powerOf ((plain.dropWhile (fun c => !isMark c)).drop 1)
  let n := naturalOf (whole ++ fraction)
  if n = 0 then false
  else
    let top := ((toString n).length : Int) + power - fraction.length
    if top < 300 then false
    else if 320 < top then true
    else
      let k := power - fraction.length
      let (num, den) := if k < 0 then (n, 10 ^ (-k).toNat) else (n * 10 ^ k.toNat, 1)
      (BrowserCheck.Number.Binary64.ofRatio? false num den).isNone

-- no setting is a float, so that floats are told apart from errors and no more
def float? (s : List Char) : Option Written :=
  let (sign, body) := splitSign s
  if body = "inf".toList ∨ body = "nan".toList then some .unreadable
  else if isFloatBody body ∧ (sign = some '-' ∨ ¬isTooGreat body) then some .unreadable
  else none

def digits? (count : Nat) (s : List Char) : Option (Nat × List Char) :=
  let ds := s.take count
  if ds.length = count ∧ ds.all Char.isDigit then some (naturalOf ds, s.drop count) else none

def isLeap (year : Nat) : Bool := year % 4 == 0 && (year % 100 != 0 || year % 400 == 0)

def daysIn (year month : Nat) : Nat :=
  if month = 2 then if isLeap year then 29 else 28
  else if [4, 6, 9, 11].contains month then 30 else 31

def date? (s : List Char) : Option (List Char) := do
  let (year, s) ← digits? 4 s
  let '-' :: s := s | none
  let (month, s) ← digits? 2 s
  let '-' :: s := s | none
  let (day, s) ← digits? 2 s
  if 1 ≤ month ∧ month ≤ 12 ∧ 1 ≤ day ∧ day ≤ daysIn year month then some s else none

def fraction? (s : List Char) : Option (List Char) :=
  match s with
  | '.' :: rest => if (rest.takeWhile Char.isDigit).isEmpty then none else some (rest.dropWhile Char.isDigit)
  | s => some s

def clockTime? (s : List Char) : Option (List Char) := do
  let (hour, s) ← digits? 2 s
  let ':' :: s := s | none
  let (minute, s) ← digits? 2 s
  let ':' :: s := s | none
  let (second, s) ← digits? 2 s
  if hour ≤ 23 ∧ minute ≤ 59 ∧ second ≤ 60 then fraction? s else none

def zone? (s : List Char) : Option (List Char) :=
  match s with
  | [] => some []
  | c :: rest =>
    if c = 'Z' ∨ c = 'z' then some rest
    else if c = '+' ∨ c = '-' then do
      let (hour, s) ← digits? 2 rest
      let ':' :: s := s | none
      let (minute, s) ← digits? 2 s
      if hour ≤ 23 ∧ minute ≤ 59 then some s else none
    else none

def isDateTime (s : List Char) : Bool :=
  match date? s with
  | some [] => true
  | some (c :: rest) =>
    (c == 'T' || c == 't' || c == ' ') && ((clockTime? rest).bind zone?) == some []
  | none => clockTime? s == some []

-- a date reads as a record with a field of its own
def dateTime? (s : List Char) : Option Written :=
  if isDateTime s then some (.object [("$datetime", .text (String.ofList s))]) else none

def word? (s : List Char) : Option Written :=
  if s = "true".toList then some (.boolean true)
  else if s = "false".toList then some (.boolean false)
  else none

def scalar? (s : List Char) : Option Written :=
  (word? s).orElse fun _ => (integer? s).orElse fun _ => (float? s).orElse fun _ => dateTime? s

end BrowserCheck.Toml
