import BrowserCheck.Text.Bytes

set_option autoImplicit false

namespace BrowserCheck.Text.Base64

def alphabet : List Char :=
  "ABCDEFGHIJKLMNOPQRSTUVWXYZabcdefghijklmnopqrstuvwxyz0123456789+/".toList

def sextet? (c : Char) : Option Nat := alphabet.idxOf? c

def byte (n : Nat) : UInt8 := n.toUInt8

/-- Three bytes take four characters. The last characters may be padding, and the bits that no byte
takes have to be zero. -/
def decode? : List Char → Option Bytes
  | [] => some []
  | [a, b, '=', '='] => do
    let n := (← sextet? a) * 64 + (← sextet? b)
    if n % 16 = 0 then some [byte (n / 16)] else none
  | [a, b, c, '='] => do
    let n := ((← sextet? a) * 64 + (← sextet? b)) * 64 + (← sextet? c)
    if n % 4 = 0 then some [byte (n / 1024), byte (n / 4 % 256)] else none
  | a :: b :: c :: d :: rest => do
    let n := (((← sextet? a) * 64 + (← sextet? b)) * 64 + (← sextet? c)) * 64 + (← sextet? d)
    let more ← decode? rest
    some (byte (n / 65536) :: byte (n / 256 % 256) :: byte (n % 256) :: more)
  | _ => none

end BrowserCheck.Text.Base64
