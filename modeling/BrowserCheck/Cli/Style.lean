set_option autoImplicit false

namespace BrowserCheck.Cli

inductive Style where
  | bold
  | dimmed
  | red
  | boldRed
  | boldGreen
deriving DecidableEq, Repr

namespace Style

def opening : Style → List Char
  | bold => "\x1b[1m".toList
  | dimmed => "\x1b[2m".toList
  | red => "\x1b[31m".toList
  | boldRed => "\x1b[1;31m".toList
  | boldGreen => "\x1b[1;32m".toList

def reset : List Char := "\x1b[0m".toList

def reopen (opening : List Char) : List Char → List Char
  | [] => []
  | c :: rest =>
    if reset.isPrefixOf (c :: rest) then
      match rest with
      | c₂ :: c₃ :: c₄ :: rest => c :: c₂ :: c₃ :: c₄ :: (opening ++ reopen opening rest)
      | rest => c :: rest
    else c :: reopen opening rest

def paint (color : Bool) (s : Style) (text : String) : String :=
  if color then String.ofList (s.opening ++ reopen s.opening text.toList ++ reset) else text

def isForced (lookup : String → Option String) : Bool :=
  match lookup "CLICOLOR_FORCE" with
  | some v => v != "0"
  | none => false

end Style

end BrowserCheck.Cli
