import BrowserCheck.Json.Decode
import BrowserCheck.Json.Writer
import BrowserCheck.Text.Basic

set_option autoImplicit false

namespace BrowserCheck

open Json

/-- `headers` is in the order of names, each name once. -/
structure Event where
  envelopeId : Option String
  type : String
  timestamp : Int64
  data : Value
  headers : Option (List (String × String))

namespace Event

def isError (e : Event) : Bool := Text.holds "error".toList e.type.toList

def isTransaction (e : Event) : Bool := Text.holds "transaction".toList e.type.toList

def putHeader (name value : String) : List (String × String) → List (String × String)
  | [] => [(name, value)]
  | (n, v) :: rest =>
    if name = n then (name, value) :: rest
    else if name < n then (name, value) :: (n, v) :: rest
    else (n, v) :: putHeader name value rest

def decodeHeaders? : Decoder (List (String × String))
  | .object fields =>
    fields.foldlM (fun hs f => f.2.text?.map fun v => putHeader f.1 v hs) []
  | _ => none

def encodeHeaders (hs : List (String × String)) : Value :=
  .object (hs.map fun h => (h.1, .text h.2))

def encode (e : Event) : Value :=
  .object ((e.envelopeId.map fun s => ("envelopeId", .text s)).toList ++
    [("type", .text e.type), ("timestamp", .ofInt e.timestamp.toInt), ("data", e.data)] ++
    (e.headers.map fun hs => ("headers", encodeHeaders hs)).toList)

def decode? : Decoder Event := fun w => do
  let [envelopeId, type, timestamp, data, headers] ←
    w.slots? .json ["envelopeId", "type", "timestamp", "data", "headers"] | none
  return {
    envelopeId := ← envelopeId.optional Written.text?
    type := ← type.required Written.text?
    timestamp := ← timestamp.required Written.int64?
    data := ← data.required Written.value?
    headers := ← headers.optional decodeHeaders? }

end Event

end BrowserCheck
