import BrowserCheck.Json.Decode
import BrowserCheck.Json.Writer

set_option autoImplicit false

namespace BrowserCheck.Sandbox

open Json

structure Backoff where
  initialDelayMs : UInt64
  maxAttempts : UInt32
deriving DecidableEq, Repr

def greatestWord : UInt64 := 0xFFFFFFFFFFFFFFFF

def saturatingMul (a b : UInt64) : UInt64 :=
  if a.toNat * b.toNat < 2 ^ 64 then a * b else greatestWord

def saturatingPower (k : UInt32) : UInt64 := if k < 64 then 1 <<< k.toUInt64 else greatestWord

namespace Backoff

def standard : Backoff := ⟨1000, 10⟩

def delayAfter (b : Backoff) (attempt : UInt32) : UInt64 :=
  saturatingMul b.initialDelayMs (saturatingPower (if attempt = 0 then 0 else attempt - 1))

def attempts (b : Backoff) : Nat := max 1 b.maxAttempts.toNat

def encode (b : Backoff) : Value :=
  .object [("initial_delay_ms", .ofNat b.initialDelayMs.toNat), ("max_attempts", .ofNat b.maxAttempts.toNat)]

def decode? (conv : Conventions) : Decoder Backoff := fun w => do
  let [initialDelayMs, maxAttempts] ← w.slots? conv ["initial_delay_ms", "max_attempts"] | none
  return {
    initialDelayMs := ← initialDelayMs.withDefault standard.initialDelayMs Written.uint64?
    maxAttempts := ← maxAttempts.withDefault standard.maxAttempts Written.uint32? }

end Backoff

end BrowserCheck.Sandbox
