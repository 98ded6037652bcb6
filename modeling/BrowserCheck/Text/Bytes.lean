import BrowserCheck.Number.Binary64

set_option autoImplicit false

/-! Texts as bytes in UTF-8, read strictly or with a replacement character for what is malformed. -/

namespace BrowserCheck.Text

abbrev Bytes := List UInt8

def encode (s : String) : Bytes := s.toUTF8.toList

def decode? (b : Bytes) : Option String := String.fromUTF8? ⟨b.toArray⟩

def replacement : Char := '\uFFFD'

def isContinuation (b : UInt8) : Bool := 0x80 ≤ b && b ≤ 0xBF

def isSecond (first second : UInt8) : Bool :=
  if first = 0xE0 then 0xA0 ≤ second && second ≤ 0xBF
  else if first = 0xED then 0x80 ≤ second && second ≤ 0x9F
  else if first = 0xF0 then 0x90 ≤ second && second ≤ 0xBF
  else if first = 0xF4 then 0x80 ≤ second && second ≤ 0x8F
  else isContinuation second

def bits (b : UInt8) (width : Nat) : Nat := b.toNat % 2 ^ width

/-- Each longest beginning of a well-formed sequence that is not carried through is no character, and
neither is a byte that begins none. -/
def scan : Bytes → List (Option Char)
  | [] => []
  | a :: r =>
    if a < 0x80 then some (Char.ofNat a.toNat) :: scan r
    else if a < 0xC2 then none :: scan r
    else if a < 0xE0 then
      match r with
      | b :: r =>
        if isContinuation b then some (Char.ofNat (bits a 5 * 64 + bits b 6)) :: scan r
        else none :: scan (b :: r)
      | [] => [none]
    else if a < 0xF5 then
      match r with
      | b :: r =>
        if isSecond a b then
          match r with
          | c :: r =>
            if isContinuation c then
              if a < 0xF0 then
                some (Char.ofNat (bits a 4 * 4096 + bits b 6 * 64 + bits c 6)) :: scan r
              else
                match r with
                | d :: r =>
                  if isContinuation d then
                    some (Char.ofNat (bits a 3 * 262144 + bits b 6 * 4096 + bits c 6 * 64 + bits d 6)) ::
                      scan r
                  else none :: scan (d :: r)
                | [] => [none]
            else none :: scan (c :: r)
          | [] => [none]
        else none :: scan (b :: r)
      | [] => [none]
    else none :: scan r
termination_by b => b.length

-- bytes that are a text need no scan
def characters (b : Bytes) : List (Option Char) :=
  match decode? b with
  | some s => s.toList.map some
  | none => scan b

def lossy (b : Bytes) : String := String.ofList ((characters b).map (·.getD replacement))

def beginning (b : Bytes) : String := String.ofList (((characters b).takeWhile Option.isSome).filterMap id)

end BrowserCheck.Text
