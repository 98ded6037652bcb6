import BrowserCheck.Json.Decode
import BrowserCheck.Program.Block
import BrowserCheck.Program.Fixed
import BrowserCheck.Run.Trace

set_option autoImplicit false

namespace BrowserCheck.Program

open Json

structure Telemetry where
  enabled : Bool
  port : UInt16
  bufferCapacity : UInt64
  sentryBundles : List String
deriving DecidableEq, Repr

namespace Telemetry

def standard : Telemetry where
  enabled := true
  port := 8969
  bufferCapacity := 1000
  sentryBundles :=
    ["https://browser.sentry-cdn.com/10.33.0/bundle.tracing.min.js",
     "https://browser.sentry-cdn.com/10.33.0/spotlight.min.js"]

def sidecarUrl (t : Telemetry) : String := "http://localhost:" ++ toString t.port.toNat ++ "/stream"

def encode (t : Telemetry) : Value :=
  .object [("enabled", .boolean t.enabled), ("port", .ofNat t.port.toNat),
    ("buffer_capacity", .ofNat t.bufferCapacity.toNat), ("sentry_bundles", .ofTexts t.sentryBundles)]

def decode? (conv : Conventions) : Decoder Telemetry := fun w => do
  let [enabled, port, bufferCapacity, sentryBundles] ←
    w.slots? conv ["enabled", "port", "buffer_capacity", "sentry_bundles"] | none
  return {
    enabled := ← enabled.withDefault standard.enabled Written.boolean?
    port := ← port.withDefault standard.port Written.uint16?
    bufferCapacity := ← bufferCapacity.withDefault standard.bufferCapacity Written.uint64?
    sentryBundles := ← sentryBundles.withDefault standard.sentryBundles (Written.list? Written.text?) }

end Telemetry

structure Options where
  screenshotQuality : UInt8
  telemetry : Telemetry
deriving DecidableEq, Repr

namespace Options

def standard : Options := ⟨60, .standard⟩

def encode (o : Options) : Value :=
  .object [("screenshot_quality", .ofNat o.screenshotQuality.toNat), ("telemetry", o.telemetry.encode)]

def decode? (conv : Conventions) : Decoder Options := fun w => do
  let [screenshotQuality, telemetry] ← w.slots? conv ["screenshot_quality", "telemetry"] | none
  return {
    screenshotQuality := ← screenshotQuality.withDefault standard.screenshotQuality Written.uint8?
    telemetry := ← telemetry.withDefault .standard (Telemetry.decode? conv) }

-- a quality that the browser accepts
def quality (o : Options) : Nat := max 1 (min 100 o.screenshotQuality.toNat)

def bufferSize (o : Options) : Nat := max 1 o.telemetry.bufferCapacity.toNat

end Options

def constant (name value : String) : String := "const " ++ name ++ " = " ++ value ++ ";"

def literalList (ss : List String) : String := "[" ++ String.intercalate ", " (ss.map literal) ++ "]"

def imports : List String :=
  ["import \x7b chromium \x7d from 'playwright';", "import http from 'node:http';"]

def constants (o : Options) (target : String) : List String :=
  [constant "CDP_ENDPOINT" (literal target),
   constant "TRACE_START" (literal Channel.trace.startMarker),
   constant "TRACE_END" (literal Channel.trace.endMarker),
   constant "SPOTLIGHT_START" (literal Channel.spotlight.startMarker),
   constant "SPOTLIGHT_END" (literal Channel.spotlight.endMarker),
   constant "SCREENSHOT_QUALITY" (toString o.quality),
   constant "SPOTLIGHT_ENABLED" (if o.telemetry.enabled then "true" else "false"),
   constant "SPOTLIGHT_PORT" (toString o.telemetry.port.toNat),
   constant "SPOTLIGHT_URL" (literal o.telemetry.sidecarUrl),
   constant "SPOTLIGHT_BUFFER_SIZE" (toString o.bufferSize),
   constant "SENTRY_BUNDLES" (literalList o.telemetry.sentryBundles)]

namespace Source

def linesOf (s : Source) (codes : List String) : Source := codes.foldl line s

def opening (o : Options) (target : String) : Source :=
  Source.atLevel 0
    |>.linesOf imports
    |>.blank
    |>.linesOf (constants o target)
    |>.blank
    |>.block (Fixed.textOf Fixed.helpers)
    |>.blank
    |>.line "async function main() \x7b"
    |>.indent
    |>.block (Fixed.textOf Fixed.setup)
    |>.blank
    |>.line "try \x7b"
    |>.indent

def closing (s : Source) : Source :=
  s.line "trace.success = true;"
    |>.dedent
    |>.block (Fixed.textOf Fixed.failureBoundary)
    |>.blank
    |>.block (Fixed.textOf Fixed.teardown)
    |>.dedent
    |>.line "\x7d"
    |>.blank
    |>.block (Fixed.textOf Fixed.entryPoint)

end Source

def assemble (o : Options) (target : String) (b : Block) : String :=
  Source.opening o target |>.statements b.statements |>.closing |>.toText

end BrowserCheck.Program
