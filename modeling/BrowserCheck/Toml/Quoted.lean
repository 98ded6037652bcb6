import BrowserCheck.Text.Basic

set_option autoImplicit false

namespace BrowserCheck.Toml

inductive Quotes where
  | basic
  | literal
  | longBasic
  | longLiteral
deriving DecidableEq, Repr

def longestRun (x : Char) : Nat → List Char → Nat
  | run, [] => run
  | run, c :: rest => if c = x then longestRun x (run + 1) rest else max run (longestRun x 0 rest)

def isControl (c : Char) : Bool := c.toNat < 0x20 || c.toNat == 0x7F

def needsEscape (c : Char) : Bool := isControl c && c != '\t' && c != '\n'

def chooseQuotes (s : List Char) : Quotes :=
  let control := s.any needsEscape
  let backslash := s.contains '\\'
  let newline := s.contains '\n'
  let doubles := longestRun '"' 0 s
  let singles := longestRun '\'' 0 s
  if ¬control ∧ ¬backslash ∧ doubles = 0 ∧ ¬newline then .basic
  else if ¬control ∧ singles = 0 ∧ ¬newline then .literal
  else if ¬control ∧ ¬backslash ∧ doubles ≤ 2 then .longBasic
  else if ¬control ∧ singles ≤ 2 then .longLiteral
  else if newline then .longBasic
  else .basic

def hexDigit (n : Nat) : Char := (Text.hexDigit n).toUpper

def escapeControl (c : Char) : List Char :=
  match c with
  | '\x08' => "\\b".toList
  | '\t' => "\\t".toList
  | '\n' => "\\n".toList
  | '\x0c' => "\\f".toList
  | '\r' => "\\r".toList
  | c => "\\u00".toList ++ [hexDigit (c.toNat / 16), hexDigit (c.toNat % 16)]

def writeBasic (long : Bool) (limit : Nat) : Nat → List Char → List Char
  | _, [] => []
  | run, c :: rest =>
    if c = '"' then
      if run < limit then '"' :: writeBasic long limit (run + 1) rest
      else '\\' :: '"' :: writeBasic long limit 0 rest
    else if c = '\\' then '\\' :: '\\' :: writeBasic long limit 0 rest
    else if c = '\n' ∧ long then '\n' :: writeBasic long limit 0 rest
    else if isControl c then escapeControl c ++ writeBasic long limit 0 rest
    else c :: writeBasic long limit 0 rest

def longDelimiter (quote : Char) (s : List Char) : List Char :=
  List.replicate 3 quote ++ (if s.contains '\n' then ['\n'] else [])

def writeText (s : List Char) : List Char :=
  match chooseQuotes s with
  | .basic => '"' :: (writeBasic false 0 0 s ++ ['"'])
  | .literal => '\'' :: (s ++ ['\''])
  | .longBasic => longDelimiter '"' s ++ writeBasic true 2 0 s ++ "\"\"\"".toList
  | .longLiteral => longDelimiter '\'' s ++ s ++ "'''".toList

end BrowserCheck.Toml
