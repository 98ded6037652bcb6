import BrowserCheck.Cli.Arguments
import BrowserCheck.Cli.Screenshots
import BrowserCheck.Cli.Timeline
import BrowserCheck.Web.Client

set_option autoImplicit false

namespace BrowserCheck.Cli

open Files Json
open Text (splitAt)

structure Screen where
  format : Format
  color : Bool
deriving DecidableEq, Repr

def Screen.layout? (s : Screen) : Option Layout :=
  match s.format with
  | .table => some .table
  | .plain => some .plain
  | .json => none

abbrev Attempt (α : Type) := Job (Except Trouble α)

def printJson (v : Value) : String := println v.toPretty

def isInput (path : String) : Bool :=
  let (start, body) := splitStart path.toList
  start.isEmpty && (splitAt '/' body).filter (fun part => !isIdle part) == [['-']]

def readInput (path : String) : Attempt String :=
  if isInput path then
    Job.input.bind fun b => .done (match Text.decode? b with
      | some s => .ok s
      | none => .error (.plain OsError.badText.message))
  else
    (Job.ofAccess (Access.readText path)).bind fun r =>
      .done (Screenshots.because ("reading " ++ path) r)

def loadScript (path : String) : Attempt Script :=
  (readInput path).andThen fun text =>
    .done ((Script.read text).mapError fun v => ⟨path ++ " is not a valid action script", some v.text⟩)

def validate (s : Screen) (file : String) : Attempt Report :=
  (loadScript file).andThen fun script =>
    .done (.ok (.success (match s.layout? with
      | none => printJson script.toValue
      | some layout =>
        Cli.success (file ++ " is a valid " ++ script.version ++ " script with " ++
          toString script.actions.length ++ " actions") ++ script.listing.text layout)))

def programText (o : CompileOptions) (b : Program.Block) : String :=
  if o.assembled then
    let telemetry := { Program.Telemetry.standard with enabled := o.telemetry }
    Program.assemble ⟨o.screenshotQuality, telemetry⟩ o.target b
  else b.render 0

def compile (s : Screen) (file : String) (o : CompileOptions) : Attempt Report :=
  (loadScript file).andThen fun script =>
    .done (match Program.Block.ofScript script with
      | .error f => .error (.plain f.message)
      | .ok b =>
        let text := programText o b
        .ok (.success (if s.format = .json then
          printJson (.object [("actions", .ofNat b.actionCount), ("program", .text text),
            ("version", .text b.version.tag)])
        else text)))

def paragraph (text : String) : String := if text.isEmpty then "" else println text ++ "\n"

def eventsLine : Option (List Event) → String
  | some events => println (toString events.length ++ " telemetry events")
  | none => println "No telemetry captured."

def demux (s : Screen) (file : String) : Attempt Report :=
  (readInput file).andThen fun stdout =>
    let out := Separated.ofStdout stdout
    .done (.ok (.success (match s.layout? with
      | none => printJson (Value.sort (.object [("trace", .ofOption Trace.encode out.trace),
          ("spotlight", .ofOption RunResult.encodeEvents out.spotlight), ("stdout", .text out.stdout)]))
      | some layout =>
        paragraph out.stdout ++
          (match out.trace with
            | some t => t.text s.color layout
            | none => println "No trace found.") ++
          eventsLine out.spotlight)))

def generatedText (s : Screen) (o : GenerateOptions) (r : GenerateResponse) : String :=
  match s.layout? with
  | none => printJson r.encode
  | some layout =>
    println r.message ++ "\n" ++ r.script.listing.text layout ++
      match o.output with
      | some path => Cli.success ("Script written to " ++ path)
      | none => ""

def loadPrevious : Option String → Attempt (Option Script)
  | none => .done (.ok none)
  | some path => (loadScript path).andThen fun script => .done (.ok (some script))

def writeScript (script : Script) : Option String → Attempt Unit
  | none => .done (.ok ())
  | some path =>
    (Job.ofAccess (Access.write path (Text.encode (printJson script.toValue)))).bind fun r =>
      .done (r.mapError fun e => .plain e.message)

def generate (s : Screen) (c : Web.Client) (o : GenerateOptions) : Attempt Report :=
  (loadPrevious o.previous).andThen fun previous =>
    ((Job.ofExchange (c.generate ⟨o.url, o.prompt, previous⟩)).bind fun r =>
      .done (r.mapError .plain)).andThen fun response =>
      (writeScript response.script o.output).andThen fun _ =>
        .done (.ok (.success (generatedText s o response)))

def stream (s : Screen) (name text : String) : String :=
  println (Style.paint s.color .bold name) ++ println text ++ "\n"

def telemetryLine : Option (List Event) → String
  | some events => println (toString events.length ++ " telemetry events, " ++
      toString (events.countP Event.isError) ++ " errors")
  | none => ""

def resultText (s : Screen) (layout : Layout) (r : RunResult) : String :=
  (if r.stdout.isEmpty then "" else stream s "stdout" r.stdout) ++
    (if r.stderr.trimBlank.isEmpty then ""
     else stream s "stderr" (Style.paint s.color .dimmed (String.ofList (Text.trimEnd r.stderr.toList)))) ++
    (match r.trace with
      | some t => t.text s.color layout
      | none => Cli.warning ("Program produced no trace (exit code " ++ toString r.exitCode.toInt ++ ")")) ++
    telemetryLine r.spotlight

def saveScreenshots (dir : Option String) (r : RunResult) : Attempt (Option Nat) :=
  match dir, r.trace with
  | some dir, some t =>
    (Job.ofAccess (Screenshots.saveTrace t dir)).andThen fun written => .done (.ok (some written.length))
  | _, _ => .done (.ok none)

def savedLine (dir : Option String) : Option Nat → String
  | some n => Cli.note (toString n ++ " screenshots saved to " ++ dir.getD "")
  | none => ""

def run (s : Screen) (c : Web.Client) (file : String) (screenshots : Option String) : Attempt Report :=
  (loadScript file).andThen fun script =>
    ((Job.ofExchange (c.run script)).bind fun r => .done (r.mapError .plain)).andThen fun result =>
      (saveScreenshots screenshots result).andThen fun saved =>
        .done (.ok ⟨if result.passed then 0 else 1,
          match s.layout? with
          | none => printJson result.encode
          | some layout => savedLine screenshots saved ++ resultText s layout result,
          ""⟩)

def serviceName (health : Value) : String := ((health.get? "service").bind Value.text?).getD "service"

def status (c : Web.Client) : Attempt Report :=
  (Job.ofExchange c.health).bind fun
    | .ok health => .done (.ok (.success (Cli.success (serviceName health ++ " is running at " ++ c.baseUrl))))
    | .error e => .done (.ok ⟨1, "", Cli.failure ("Cannot reach service at " ++ c.baseUrl ++ ": " ++ e)⟩)

def version : Report :=
  .success (println ("Momos CLI v" ++ Arguments.programVersion) ++
    println ("Action script version " ++ Version.current.tag))

def perform (color : Bool) (a : Arguments) : Attempt Report :=
  let s : Screen := ⟨a.format, color⟩
  let c := Web.Client.ofUrl a.serviceUrl
  match a.command with
  | .validate file => validate s file
  | .compile file o => compile s file o
  | .demux file => demux s file
  | .generate o => generate s c o
  | .run file screenshots => run s c file screenshots
  | .status => status c
  | .version => .done (.ok version)

def Stop.report : Stop → Report
  | .help => .success ""
  | .version command => .success (println (command ++ " " ++ Arguments.programVersion))
  | .refused why => ⟨2, "", println ("error: " ++ why)⟩

def concluded (a : Attempt Report) : Job Report :=
  a.bind fun
    | .ok r => .done r
    | .error t => .done (.trouble t)

def environmentNames : List String := ["MOMOS_SERVICE_URL", "CLICOLOR_FORCE"]

def execute (lookup : String → Option String) (line : List String) : Job Report :=
  match Arguments.read lookup line with
  | .error stop => .done stop.report
  | .ok a => concluded (perform (Style.isForced lookup) a)

end BrowserCheck.Cli
