import BrowserCheck.Run.Event
import BrowserCheck.Run.Trace
import BrowserCheck.Text.Basic

set_option autoImplicit false

namespace BrowserCheck

open Json

structure RawOutput where
  stdout : String
  stderr : String
  exitCode : Int32
deriving DecidableEq, Repr

namespace RawOutput

def empty : RawOutput := ⟨"", "", 0⟩

def encode (o : RawOutput) : Value :=
  .object [("stdout", .text o.stdout), ("stderr", .text o.stderr), ("exitCode", .ofInt o.exitCode.toInt)]

def decode? : Decoder RawOutput := fun w => do
  let [stdout, stderr, exitCode] ← w.slots? .json ["stdout", "stderr", "exitCode"] | none
  return ⟨← stdout.required Written.text?, ← stderr.required Written.text?, ← exitCode.required Written.int32?⟩

end RawOutput

namespace Channel

def takeSpan? (c : Channel) (text : List Char) : Option (List Char × List Char) := do
  let (before, opened) ← Text.cutAt? c.startMarker.toList text
  let (payload, after) ← Text.cutAt? c.endMarker.toList opened
  return (before ++ after, payload)

end Channel

structure Separated where
  stdout : String
  trace : Option Trace
  spotlight : Option (List Event)

namespace Separated

-- a payload that cannot be read is removed as well
def split {α : Type} (c : Channel) (d : Decoder α) (text : List Char) : List Char × Option α :=
  match c.takeSpan? text with
  | some (rest, payload) => (rest, (Written.read? payload).bind d)
  | none => (text, none)

def ofStdout (stdout : String) : Separated :=
  let (text, trace) := split .trace Trace.decode? stdout.toList
  let (text, spotlight) := split .spotlight (Written.list? Event.decode?) text
  ⟨String.ofList (Text.trim text), trace, spotlight⟩

end Separated

structure RunResult where
  exitCode : Int32
  stdout : String
  stderr : String
  trace : Option Trace
  spotlight : Option (List Event)

namespace RunResult

def ofOutput (o : RawOutput) : RunResult :=
  let s := Separated.ofStdout o.stdout
  ⟨o.exitCode, s.stdout, o.stderr, s.trace, s.spotlight⟩

def passed (r : RunResult) : Bool :=
  match r.trace with
  | some t => t.success
  | none => false

def encodeEvents (events : List Event) : Value := .array (events.map Event.encode)

def encode (r : RunResult) : Value :=
  .object [("exitCode", .ofInt r.exitCode.toInt), ("stdout", .text r.stdout), ("stderr", .text r.stderr),
    ("trace", .ofOption Trace.encode r.trace), ("spotlight", .ofOption encodeEvents r.spotlight)]

def decode? : Decoder RunResult := fun w => do
  let [exitCode, stdout, stderr, trace, spotlight] ←
    w.slots? .json ["exitCode", "stdout", "stderr", "trace", "spotlight"] | none
  return {
    exitCode := ← exitCode.required Written.int32?
    stdout := ← stdout.required Written.text?
    stderr := ← stderr.required Written.text?
    trace := ← trace.nullable Trace.decode?
    spotlight := ← spotlight.nullable (Written.list? Event.decode?) }

end RunResult

end BrowserCheck
