import BrowserCheck.Json.Value
import BrowserCheck.Number.Shortest
import BrowserCheck.Text.Basic

set_option autoImplicit false

namespace BrowserCheck.Json

open BrowserCheck.Number (Binary64)
open Text (digitValue)

structure Scaled where
  significand : Nat
  power : Int

namespace Scaled

def greatest : Nat := 2 ^ 64 - 1

-- from the first digit on that would not fit into 64 bits they only count
def addWhole (x : Scaled) : List Char → Scaled
  | [] => x
  | c :: rest =>
    if x.significand * 10 + digitValue c ≤ greatest then
      addWhole ⟨x.significand * 10 + digitValue c, x.power⟩ rest
    else ⟨x.significand, x.power + (rest.length + 1)⟩

-- and here they are dropped
def addFraction (x : Scaled) : List Char → Scaled
  | [] => x
  | c :: rest =>
    if x.significand * 10 + digitValue c ≤ greatest then
      addFraction ⟨x.significand * 10 + digitValue c, x.power - 1⟩ rest
    else x

end Scaled

def naturalOf (ds : List Char) : Nat := ds.foldl (fun n c => n * 10 + digitValue c) 0

def powerOf : List Char → Int
  | '-' :: ds => -(naturalOf ds : Int)
  | '+' :: ds => naturalOf ds
  | ds => naturalOf ds

def isMark (c : Char) : Bool := c == 'e' || c == 'E'

namespace Number

def realOf? (negative : Bool) (whole fraction power : List Char) : Option Number :=
  let x := ((⟨0, 0⟩ : Scaled).addWhole whole).addFraction fraction
  (Binary64.scale? negative x.significand (x.power + powerOf power)).map .real

def ofNumeral? (numeral : List Char) : Option Number :=
  let negative := numeral.head? == some '-'
  let body := if negative then numeral.drop 1 else numeral
  let whole := body.takeWhile Char.isDigit
  match body.dropWhile Char.isDigit with
  | [] =>
    let n := naturalOf whole
    if negative then
      if n = 0 then some (.real (Binary64.zero true))
      else if n ≤ 2 ^ 63 then some (.integer (-(n : Int)))
      else realOf? true whole [] []
    else if n ≤ Scaled.greatest then some (.integer n)
    else realOf? false whole [] []
  | '.' :: rest =>
    realOf? negative whole (rest.takeWhile Char.isDigit) ((rest.dropWhile Char.isDigit).drop 1)
  | _ :: power => realOf? negative whole [] power

def zeros (n : Nat) : List Char := List.replicate n '0'

def realText (x : Binary64) : List Char :=
  let d := x.shortest
  let ds := (toString d.digits).toList
  let sign := if x.negative then ['-'] else []
  let point := (ds.length : Int) + d.power
  let body :=
    if x.mantissa = 0 then "0.0".toList
    else if 0 < point ∧ point ≤ 16 then
      if 0 ≤ d.power then ds ++ zeros d.power.toNat ++ ".0".toList
      else ds.take point.toNat ++ ['.'] ++ ds.drop point.toNat
    else if -5 < point ∧ point ≤ 0 then
      "0.".toList ++ zeros (-point).toNat ++ ds
    else
      let rest := ds.drop 1
      let power := point - 1
      ds.take 1 ++ (if rest.isEmpty then [] else '.' :: rest) ++ ['e'] ++
        (if power < 0 then ['-'] else ['+']) ++ (toString power.natAbs).toList
  sign ++ body

def toText : Number → List Char
  | .integer n => (toString n).toList
  | .real x => realText x

end Number

end BrowserCheck.Json
