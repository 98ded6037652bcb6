import BrowserCheck.Json.Decode
import BrowserCheck.Json.Writer

set_option autoImplicit false

namespace BrowserCheck

open Json

inductive Channel where
  | trace
  | spotlight
deriving DecidableEq, Repr

namespace Channel

def startMarker : Channel → String
  | trace => "__TRACE_START__"
  | spotlight => "__SPOTLIGHT_START__"

def endMarker : Channel → String
  | trace => "__TRACE_END__"
  | spotlight => "__SPOTLIGHT_END__"

def wrap (c : Channel) (payload : String) : String := c.startMarker ++ payload ++ c.endMarker

end Channel

structure TraceStep where
  index : UInt64
  action : String
  details : String
  timestamp : Int64
  screenshot : String
  url : String
deriving DecidableEq, Repr

namespace TraceStep

def errorAction : String := "error"

def isError (s : TraceStep) : Bool := s.action == errorAction

def encode (s : TraceStep) : Value :=
  .object [("index", .ofNat s.index.toNat), ("action", .text s.action), ("details", .text s.details),
    ("timestamp", .ofInt s.timestamp.toInt), ("screenshot", .text s.screenshot), ("url", .text s.url)]

def decode? : Decoder TraceStep := fun w => do
  let [index, action, details, timestamp, screenshot, url] ←
    w.slots? .json ["index", "action", "details", "timestamp", "screenshot", "url"] | none
  return {
    index := ← index.required Written.uint64?
    action := ← action.required Written.text?
    details := ← details.required Written.text?
    timestamp := ← timestamp.required Written.int64?
    screenshot := ← screenshot.required Written.text?
    url := ← url.required Written.text? }

end TraceStep

structure Trace where
  startTime : Int64
  endTime : Int64
  duration : Int64
  success : Bool
  error : Option String
  steps : List TraceStep
deriving DecidableEq, Repr

namespace Trace

def isConsistent (t : Trace) (actionCount : Nat) : Bool :=
  t.steps.length ≤ actionCount + 1 && 0 ≤ t.duration.toInt &&
    t.endTime.toInt - t.startTime.toInt == t.duration.toInt

def errorStep? (t : Trace) : Option TraceStep := t.steps.getLast?.filter TraceStep.isError

def encode (t : Trace) : Value :=
  .object [("startTime", .ofInt t.startTime.toInt), ("endTime", .ofInt t.endTime.toInt),
    ("duration", .ofInt t.duration.toInt), ("success", .boolean t.success),
    ("error", .ofOption .text t.error), ("steps", .array (t.steps.map TraceStep.encode))]

def decode? : Decoder Trace := fun w => do
  let [startTime, endTime, duration, success, error, steps] ←
    w.slots? .json ["startTime", "endTime", "duration", "success", "error", "steps"] | none
  return {
    startTime := ← startTime.required Written.int64?
    endTime := ← endTime.required Written.int64?
    duration := ← duration.required Written.int64?
    success := ← success.required Written.boolean?
    error := ← error.optional Written.text?
    steps := ← steps.withDefault [] (Written.list? TraceStep.decode?) }

end Trace

end BrowserCheck
