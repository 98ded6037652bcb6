import BrowserCheck.Generation.Request
import BrowserCheck.Json.Reader
import BrowserCheck.Text.Bytes

set_option autoImplicit false

/-! The outer layer's reader of addresses. Hosts beyond ASCII are mapped by a few ranges, not by all of Unicode. -/

namespace BrowserCheck.Main

open Text (splitAt)

namespace Punycode

def digitValue? (c : Char) : Option Nat :=
  if 'a' ≤ c ∧ c ≤ 'z' then some (c.toNat - 'a'.toNat)
  else if 'A' ≤ c ∧ c ≤ 'Z' then some (c.toNat - 'A'.toNat)
  else if c.isDigit then some (c.toNat - '0'.toNat + 26)
  else none

def threshold (k bias : Nat) : Nat := if k ≤ bias then 1 else if bias + 26 ≤ k then 26 else k - bias

def adaptFrom (delta k : Nat) : Nat → Nat
  | 0 => k
  | rounds + 1 => if 455 < delta then adaptFrom (delta / 35) (k + 36) rounds else k + 36 * delta / (delta + 38)

def adapt (delta count : Nat) (first : Bool) : Nat :=
  let d := if first then delta / 700 else delta / 2
  adaptFrom (d + d / count) 0 64

structure State where
  text : List Char
  point : Nat
  index : Nat
  bias : Nat
  before : Nat
  weight : Nat
  k : Nat

def step? (s : State) (c : Char) : Option State := do
  let d ← digitValue? c
  let index := s.index + d * s.weight
  let t := threshold s.k s.bias
  if 2 ^ 32 ≤ index then none
  else if t ≤ d then some { s with index := index, weight := s.weight * (36 - t), k := s.k + 36 }
  else
    let count := s.text.length + 1
    let point := s.point + index / count
    let place := index % count
    if ¬point.isValidChar then none
    else some {
      text := s.text.insertIdx place (Char.ofNat point)
      point := point
      index := place + 1
      bias := adapt (index - s.before) count (s.before == 0)
      before := place + 1
      weight := 1
      k := 36 }

def splitBasic (s : List Char) : List Char × List Char :=
  let rest := (s.reverse.takeWhile (· != '-')).reverse
  (s.take (s.length - rest.length - 1), rest)

def decode? (s : List Char) : Option (List Char) :=
  let (basic, rest) := splitBasic s
  (rest.foldlM step? ⟨basic, 128, 0, 72, 0, 1, 36⟩).bind fun st =>
    if st.k = 36 then some st.text else none

end Punycode

inductive AddressError where
  | relative
  | emptyHost
  | port
  | ipv4
  | ipv6
  | domain
  | domainCharacter
deriving DecidableEq, Repr

namespace AddressError

def message : AddressError → String
  | relative => "relative URL without a base"
  | emptyHost => "empty host"
  | port => "invalid port number"
  | ipv4 => "invalid IPv4 address"
  | ipv6 => "invalid IPv6 address"
  | domain => "invalid international domain name"
  | domainCharacter => "invalid domain character"

end AddressError

namespace Host

def isHexPiece (s : List Char) : Bool :=
  1 ≤ s.length && s.length ≤ 4 && s.all fun c => (Text.hexValue? c).isSome

def isOctet (s : List Char) : Bool :=
  !s.isEmpty && s.all Char.isDigit && (s.length == 1 || s.head? != some '0') && s.length ≤ 3 &&
    Json.naturalOf s ≤ 255

def isDottedQuad (s : List Char) : Bool :=
  let parts := splitAt '.' s
  parts.length == 4 && parts.all isOctet

def pieceCount? (dotted : Bool) : List (List Char) → Option Nat
  | [] => some 0
  | [p] => if isHexPiece p then some 1 else if dotted && isDottedQuad p then some 2 else none
  | p :: rest => if isHexPiece p then (pieceCount? dotted rest).map (· + 1) else none

def pieces? (dotted : Bool) (s : List Char) : Option Nat :=
  if s.isEmpty then some 0 else pieceCount? dotted (splitAt ':' s)

def isIpv6 (s : List Char) : Bool :=
  match Text.cutAt? "::".toList s with
  | some (left, right) =>
    match pieces? false left, pieces? true right with
    | some l, some r => l + r ≤ 7
    | _, _ => false
  | none => pieces? true s == some 8 && !s.isEmpty

def ipv4Number? (s : List Char) : Option Nat :=
  let value (base : Nat) (ds : List Char) : Option Nat :=
    ds.foldlM (fun n c => (Text.hexValue? c).bind fun d => if d < base then some (n * base + d) else none) 0
  match s with
  | [] => none
  | '0' :: 'x' :: ds => value 16 ds
  | '0' :: 'X' :: ds => value 16 ds
  | '0' :: d :: ds => value 8 (d :: ds)
  | ds => value 10 ds

def dropEmptyLast (parts : List (List Char)) : List (List Char) :=
  if parts.getLast? = some [] then parts.dropLast else parts

def endsInNumber (s : List Char) : Bool :=
  let parts := splitAt '.' s
  let parts := if 1 < parts.length then dropEmptyLast parts else parts
  match parts.getLast? with
  | some [] => false
  | some last => last.all Char.isDigit || (ipv4Number? last).isSome
  | none => false

def isIpv4 (s : List Char) : Bool :=
  let parts := dropEmptyLast (splitAt '.' s)
  if 4 < parts.length then false
  else match parts.mapM ipv4Number? with
    | some ns =>
      match ns.getLast? with
      | some last => last < 256 ^ (5 - ns.length) && ns.dropLast.all (· ≤ 255)
      | none => false
    | none => false

def percentDecode : Text.Bytes → Text.Bytes
  | [] => []
  | b :: rest =>
    match rest with
    | x :: y :: more =>
      if b = 0x25 then
        match Text.hexValue? (Char.ofNat x.toNat), Text.hexValue? (Char.ofNat y.toNat) with
        | some h, some l => (h * 16 + l).toUInt8 :: percentDecode more
        | _, _ => b :: percentDecode (x :: y :: more)
      else b :: percentDecode (x :: y :: more)
    | rest => b :: percentDecode rest

def isForbidden (c : Char) : Bool :=
  c.toNat ≤ 0x20 || c.toNat == 0x7F || "%#/:<>?@[\\]^|".toList.contains c

def within (ranges : List (Nat × Nat)) (c : Char) : Bool := ranges.any fun r => r.1 ≤ c.toNat && c.toNat ≤ r.2

def isIgnored (c : Char) : Bool :=
  within [(0xAD, 0xAD), (0x34F, 0x34F), (0x180B, 0x180F), (0x200B, 0x200B), (0x2060, 0x2060), (0x2064, 0x2064),
    (0xFE00, 0xFE0F), (0xFEFF, 0xFEFF), (0xE0100, 0xE01EF)] c

def isRefused (c : Char) : Bool :=
  within [(0x80, 0xA0), (0xA8, 0xA8), (0xAF, 0xAF), (0xB4, 0xB4), (0xB8, 0xB8), (0x2D8, 0x2DD), (0x37A, 0x37A),
    (0x384, 0x385), (0x1680, 0x1680), (0x180E, 0x180E), (0x1FBD, 0x1FC1), (0x2000, 0x200A), (0x200C, 0x200F),
    (0x2017, 0x2017),
    (0x2025, 0x202F), (0x203C, 0x203E), (0x2047, 0x2049), (0x205F, 0x205F), (0x2061, 0x2063), (0x2065, 0x206F),
    (0x2100, 0x2101), (0x2105, 0x2106), (0x2FF0, 0x3000), (0xE000, 0xF8FF), (0xFDD0, 0xFDEF), (0xFFF9, 0xFFFF),
    (0x1FFFE, 0x1FFFF), (0x2FFFE, 0x2FFFF), (0x3FFFE, 0xE00FF), (0xE01F0, 0x10FFFF)] c

def fold (c : Char) : Char :=
  if c = '\u3002' ∨ c = '\uFF61' ∨ c = '\u2024' then '.'
  else if 0xFF01 ≤ c.toNat ∧ c.toNat ≤ 0xFF5E then (Char.ofNat (c.toNat - 0xFEE0)).toLower
  else c.toLower

def isMark (c : Char) : Bool := within [(0x300, 0x36F), (0x483, 0x489), (0x591, 0x5BD), (0x610, 0x61A),
  (0x64B, 0x65F), (0x1AB0, 0x1AFF), (0x1DC0, 0x1DFF), (0x20D0, 0x20F0), (0x3099, 0x309A), (0xFE20, 0xFE2F)] c

def isAscii (s : List Char) : Bool := s.all fun c => c.toNat < 0x80

def isPlainLabel (s : List Char) : Bool :=
  !(s.any fun c => isForbidden c || isRefused c) && !(s.head?.any isMark)

def isLabel (s : List Char) : Bool :=
  match "xn--".toList.isPrefixOf? s with
  | some code =>
    isAscii s &&
      match Punycode.decode? code with
      | some t => !isAscii t && isPlainLabel t && t.all fun c => !isIgnored c && fold c == c
      | none => false
  | none => isPlainLabel s

def domain? (s : List Char) : Option (List Char) :=
  let raw := (Text.lossy (percentDecode (Text.encode (String.ofList s)))).toList
  let folded := (raw.map fold).filter fun c => !isIgnored c
  if (splitAt '.' folded).all isLabel then some folded else none

def bracketed? (s : List Char) : Option (Option (List Char)) :=
  match s with
  | '[' :: rest => some (if rest.getLast? = some ']' then some rest.dropLast else none)
  | _ => none

def check (s : List Char) : Except AddressError Unit :=
  match bracketed? s with
  | some (some inside) => if isIpv6 inside then .ok () else .error .ipv6
  | some none => .error .ipv6
  | none =>
    match domain? s with
    | none => .error .domain
    | some d =>
      if d.isEmpty then .error .emptyHost
      else if endsInNumber d ∧ ¬isIpv4 d then .error .ipv4
      else .ok ()

def checkOpaque (s : List Char) : Except AddressError Unit :=
  match bracketed? s with
  | some (some inside) => if isIpv6 inside then .ok () else .error .ipv6
  | some none => .error .ipv6
  | none =>
    if s.any fun c => c == '\x00' || "\t\n\r #/:<>?@[\\]^|".toList.contains c then .error .domainCharacter
    else .ok ()

end Host

namespace Address

def clean (s : String) : List Char :=
  let outer (c : Char) : Bool := c.toNat ≤ 0x20
  (((s.toList.dropWhile outer).reverse.dropWhile outer).reverse).filter fun c =>
    c != '\t' && c != '\n' && c != '\r'

def isSchemeChar (c : Char) : Bool := c.isAlphanum || c == '+' || c == '-' || c == '.'

def scheme? (s : List Char) : Option (String × List Char) :=
  match s with
  | [] => none
  | c :: _ =>
    if c.isAlpha then
      match s.dropWhile isSchemeChar with
      | ':' :: rest => some (String.ofList ((s.takeWhile isSchemeChar).map Char.toLower), rest)
      | _ => none
    else none

def specialSchemes : List String := ["http", "https", "ws", "wss", "ftp"]

def isSlash (c : Char) : Bool := c == '/' || c == '\\'

def endsAuthority (special : Bool) (c : Char) : Bool :=
  c == '/' || c == '?' || c == '#' || (special && c == '\\')

def afterUser (special : Bool) (s : List Char) : Except AddressError (Bool × List Char) :=
  let authority := s.takeWhile fun c => !endsAuthority special c
  let rest := s.drop authority.length
  let behind := (authority.reverse.takeWhile (· != '@')).reverse
  if behind.length = authority.length then .ok (false, s)
  else if authority.length = behind.length + 1 then
    if behind.isEmpty ∧ ¬rest.isEmpty then .error .emptyHost else .ok (false, behind ++ rest)
  else .ok (true, behind ++ rest)

def hostPart (special : Bool) (inside : Bool) : List Char → List Char
  | [] => []
  | c :: rest =>
    if (c == ':' && !inside) || endsAuthority special c then []
    else c :: hostPart special (if c = '[' then true else if c = ']' then false else inside) rest

def checkPort (s : List Char) : Except AddressError Unit :=
  let ds := s.takeWhile Char.isDigit
  if 65535 < Json.naturalOf ds then .error .port
  else match s.drop ds.length with
    | [] => .ok ()
    | c :: _ => if isSlash c || c == '?' || c == '#' then .ok () else .error .port

def checkAuthority (special : Bool) (s : List Char) : Except AddressError Unit := do
  let (hasUser, s) ← afterUser special s
  let host := hostPart special false s
  let rest := s.drop host.length
  if host.isEmpty then
    if special || hasUser || rest.head? == some ':' then throw .emptyHost
  else if special then Host.check host
  else Host.checkOpaque host
  match rest with
  | ':' :: port => checkPort port
  | _ => return

def isDriveLetter (s : List Char) : Bool :=
  match s with
  | [c, d] => c.isAlpha && (d == ':' || d == '|')
  | _ => false

def checkFile (s : List Char) : Except AddressError Unit :=
  match s with
  | a :: b :: rest =>
    if isSlash a && isSlash b then
      let host := rest.takeWhile fun c => !(isSlash c || c == '?' || c == '#')
      if host.isEmpty || isDriveLetter host then .ok () else Host.check host
    else .ok ()
  | _ => .ok ()

def check (text : String) : Except AddressError Web.Address :=
  match scheme? (clean text) with
  | none => .error .relative
  | some (scheme, rest) =>
    if scheme = "file" then (checkFile rest).map fun _ => ⟨true⟩
    else if specialSchemes.contains scheme then
      (checkAuthority true (rest.dropWhile isSlash)).map fun _ => ⟨true⟩
    else match rest with
      | '/' :: '/' :: rest => (checkAuthority false rest).map fun _ => ⟨true⟩
      | '/' :: _ => .ok ⟨true⟩
      | _ => .ok ⟨false⟩

def read : Web.AddressReader := fun text => (check text).mapError AddressError.message

end Address

end BrowserCheck.Main
