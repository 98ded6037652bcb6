import BrowserCheck.Cli.Options
import BrowserCheck.Text.Basic
import BrowserCheck.Web.Service

set_option autoImplicit false

namespace BrowserCheck.Cli

inductive Format where
  | table
  | json
  | plain
deriving DecidableEq, Repr

namespace Format

def name : Format → String
  | table => "table"
  | json => "json"
  | plain => "plain"

def all : List Format := [table, json, plain]

def ofName? (s : String) : Option Format := all.find? (·.name == s)

end Format

structure CompileOptions where
  assembled : Bool
  target : String
  telemetry : Bool
  screenshotQuality : UInt8
deriving DecidableEq, Repr

structure GenerateOptions where
  url : String
  prompt : String
  previous : Option String
  output : Option String
deriving DecidableEq, Repr

inductive Command where
  | validate (file : String)
  | compile (file : String) (o : CompileOptions)
  | demux (file : String)
  | generate (o : GenerateOptions)
  | run (file : String) (screenshots : Option String)
  | status
  | version
deriving DecidableEq, Repr

structure Arguments where
  serviceUrl : String
  format : Format
  command : Command
deriving DecidableEq, Repr

namespace Arguments

def programName : String := "momos"

def programVersion : String := "0.1.0"

def defaultServiceUrl : String := "http://127.0.0.1:8787"

def quality? (s : String) : Option UInt8 :=
  let digits : List Char := match s.toList with
    | '+' :: rest => rest
    | cs => cs
  (Text.decimal? 256 digits).map Nat.toUInt8

def globals : List OptionSpec :=
  [.text "service-url" none, ⟨"format", none, some fun v => (Format.ofName? v).isSome⟩,
   .switch "verbose" (some 'v')]

def compileOptions : List OptionSpec :=
  [.switch "assembled" none, .text "target" none, .switch "no-telemetry" none,
   ⟨"screenshot-quality", none, some fun v => (quality? v).isSome⟩]

def generateOptions : List OptionSpec :=
  [.text "url" none, .text "prompt" none, .path "previous" none, .path "output" (some 'o')]

def commands : List (String × List OptionSpec × Nat) :=
  [("validate", [], 1), ("compile", compileOptions, 1), ("demux", [], 1), ("generate", generateOptions, 0),
   ("run", [.path "screenshots" none], 1), ("status", [], 0), ("version", [], 0)]

def topLevel : Grammar := ⟨programName, globals, 0, "help" :: commands.map (·.1)⟩

def missing (what : String) : Stop := .refused ("required arguments were not provided: " ++ what)

def required (what : String) : Option String → Except Stop String
  | some v => .ok v
  | none => .error (missing what)

def commandOf (name : String) (f : Found) : Except Stop Command := do
  let file := required "<FILE>" f.paths.head?
  match name with
  | "validate" => return .validate (← file)
  | "compile" => return .compile (← file) {
      assembled := f.isGiven "assembled"
      target := (f.value? "target").getD Web.Service.placeholderTarget
      telemetry := !f.isGiven "no-telemetry"
      screenshotQuality := ((f.value? "screenshot-quality").bind quality?).getD 60 }
  | "demux" => return .demux (← file)
  | "generate" => return .generate {
      url := ← required "--url" (f.value? "url")
      prompt := ← required "--prompt" (f.value? "prompt")
      previous := f.value? "previous"
      output := f.value? "output" }
  | "run" => return .run (← file) (f.value? "screenshots")
  | "status" => return .status
  | "version" => return .version
  | _ => throw (Grammar.unknown name)

def globalValue? (above below : Found) (name : String) : Option String :=
  (below.value? name).or (above.value? name)

def ofFound (lookup : String → Option String) (above below : Found) (c : Command) : Arguments where
  serviceUrl := ((globalValue? above below "service-url").or (lookup "MOMOS_SERVICE_URL")).getD defaultServiceUrl
  format := ((globalValue? above below "format").bind Format.ofName?).getD .table
  command := c

def read (lookup : String → Option String) (line : List String) : Except Stop Arguments := do
  let (above, command) ← topLevel.read .empty line
  match command with
  | none => throw (missing "a command")
  | some (name, rest) =>
    match commands.lookup name with
    | none => throw .help
    | some (options, paths) =>
      let g : Grammar := ⟨programName ++ "-" ++ name, options ++ globals, paths, []⟩
      let (below, _) ← g.read .empty rest
      return ofFound lookup above below (← commandOf name below)

end Arguments

end BrowserCheck.Cli
