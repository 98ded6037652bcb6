set_option autoImplicit false

namespace BrowserCheck.Cli

structure OptionSpec where
  name : String
  short : Option Char
  accepts : Option (String → Bool)

structure Grammar where
  name : String
  options : List OptionSpec
  paths : Nat
  commands : List String

structure Found where
  options : List (String × String)
  paths : List String
deriving DecidableEq, Repr

inductive Stop where
  | help
  | version (command : String)
  | refused (why : String)
deriving DecidableEq, Repr

inductive Reading where
  | done (f : Found)
  | valueOf (o : OptionSpec)
  | path

namespace Found

def empty : Found := ⟨[], []⟩

def isGiven (f : Found) (name : String) : Bool := (f.options.lookup name).isSome

def value? (f : Found) (name : String) : Option String := f.options.lookup name

def add (f : Found) (o : OptionSpec) (value : String) : Except Stop Found :=
  if f.isGiven o.name then .error (.refused ("--" ++ o.name ++ " cannot be used multiple times"))
  else .ok { f with options := f.options ++ [(o.name, value)] }

def addValue (f : Found) (o : OptionSpec) (value : String) : Except Stop Found :=
  match o.accepts with
  | some accepts =>
    if accepts value then f.add o value else .error (.refused ("invalid value for --" ++ o.name))
  | none => .error (.refused ("unexpected value for --" ++ o.name))

end Found

namespace Grammar

def splitValue (s : List Char) : String × Option String :=
  let (name, rest) := s.span (· != '=')
  (String.ofList name, match rest with | _ :: v => some (String.ofList v) | [] => none)

def unknown (arg : String) : Stop := .refused ("unexpected argument " ++ arg)

def readLong (g : Grammar) (f : Found) (text : List Char) : Except Stop Reading :=
  let (name, value) := splitValue text
  match g.options.find? (·.name == name) with
  | none =>
    if value.isSome then .error (unknown ("--" ++ name))
    else if name = "help" then .error .help
    else if name = "version" then .error (.version g.name)
    else .error (unknown ("--" ++ name))
  | some o =>
    match value, o.accepts with
    | some v, _ => (f.addValue o v).map .done
    | none, some _ => .ok (.valueOf o)
    | none, none => (f.add o "").map .done

def readShorts (g : Grammar) (f : Found) : List Char → Except Stop Reading
  | [] => .ok (.done f)
  | c :: rest =>
    match g.options.find? (·.short == some c) with
    | none =>
      if c = 'h' then .error .help
      else if c = 'V' then .error (.version g.name)
      else .error (unknown (String.ofList ['-', c]))
    | some o =>
      match o.accepts, rest with
      | none, rest => do readShorts g (← f.add o "") rest
      | some _, [] => .ok (.valueOf o)
      | some _, '=' :: v => (f.addValue o (String.ofList v)).map .done
      | some _, v => (f.addValue o (String.ofList v)).map .done

def readArgument (g : Grammar) (f : Found) (arg : String) : Except Stop Reading :=
  match arg.toList with
  | '-' :: '-' :: text => g.readLong f text
  | ['-'] => .ok .path
  | '-' :: shorts => g.readShorts f shorts
  | _ => .ok .path

def addPath (g : Grammar) (f : Found) (arg : String) : Except Stop Found :=
  if f.paths.length < g.paths ∧ ¬arg.isEmpty then .ok { f with paths := f.paths ++ [arg] }
  else .error (unknown arg)

def isValue (arg : String) : Bool := arg.toList.head? != some '-' || arg == "-"

def read (g : Grammar) (f : Found) : List String → Except Stop (Found × Option (String × List String))
  | [] => .ok (f, none)
  | arg :: rest =>
    if arg = "--" then (rest.foldlM g.addPath f).map fun f => (f, none)
    else if g.commands.contains arg then .ok (f, some (arg, rest))
    else
      match g.readArgument f arg with
      | .error s => .error s
      | .ok (.done f) => read g f rest
      | .ok .path =>
        match g.addPath f arg with
        | .ok f => read g f rest
        | .error s => .error s
      | .ok (.valueOf o) =>
        match rest with
        | [] => .error (.refused ("a value is required for --" ++ o.name))
        | v :: rest =>
          if isValue v then
            match f.addValue o v with
            | .ok f => read g f rest
            | .error s => .error s
          else .error (.refused ("a value is required for --" ++ o.name))

end Grammar

def OptionSpec.text (name : String) (short : Option Char) : OptionSpec := ⟨name, short, some fun _ => true⟩

def OptionSpec.path (name : String) (short : Option Char) : OptionSpec :=
  ⟨name, short, some fun v => !v.isEmpty⟩

def OptionSpec.switch (name : String) (short : Option Char) : OptionSpec := ⟨name, short, none⟩

end BrowserCheck.Cli
