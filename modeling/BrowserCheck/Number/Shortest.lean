import BrowserCheck.Number.Binary64

set_option autoImplicit false

namespace BrowserCheck.Number

structure Decimal where
  digits : Nat
  power : Int
deriving DecidableEq, Repr

structure Interval where
  low : Nat
  value : Nat
  high : Nat
  den : Nat
  closed : Bool

namespace Interval

def contains (i : Interval) (num den : Nat) : Bool :=
  let x := num * i.den
  if i.closed then i.low * den ≤ x && x ≤ i.high * den else i.low * den < x && x < i.high * den

end Interval

namespace Binary64

/-- The numbers that lie nearer to `x` than to its neighbours. Below a power of two the neighbour is
only half as far. -/
def interval (x : Binary64) : Interval :=
  let below := if x.mantissa = 2 ^ 52 ∧ leastExponent < x.exponent then 1 else 2
  let m := x.mantissa * 4
  let e := x.exponent - 2
  let (num, den) := if e < 0 then (1, 2 ^ (-e).toNat) else (2 ^ e.toNat, 1)
  ⟨(m - below) * num, m * num, (m + 2) * num, den, x.mantissa % 2 == 0⟩

def distance (a b : Nat) : Nat := (a - b) + (b - a)

def onGrid? (i : Interval) (power : Int) : Option Decimal :=
  let (up, down) := if power < 0 then (1, 10 ^ (-power).toNat) else (10 ^ power.toNat, 1)
  let d := i.value * down / (i.den * up)
  let lower := i.contains (d * up) down
  let upper := i.contains ((d + 1) * up) down
  let target := i.value * down
  let step := i.den * up
  let toLower := distance target (d * step)
  let toUpper := distance target ((d + 1) * step)
  if lower && (!upper || toLower < toUpper || (toLower == toUpper && d % 2 == 0)) then some ⟨d, power⟩
  else if upper then some ⟨d + 1, power⟩
  else none

def magnitude (num den : Nat) (estimate : Int) : Nat → Int
  | 0 => estimate
  | tries + 1 =>
    let below := if estimate < 0 then num * 10 ^ (-estimate).toNat < den else num < den * 10 ^ estimate.toNat
    if below then estimate else magnitude num den (estimate + 1) tries

def firstGrid (i : Interval) (power : Int) : Nat → Decimal
  | 0 => ⟨0, 0⟩
  | finer + 1 => (onGrid? i power).getD (firstGrid i (power - 1) finer)

def shortest (x : Binary64) : Decimal :=
  if x.mantissa = 0 then ⟨0, 0⟩
  else
    let i := x.interval
    let estimate := ((x.mantissa.log2 : Int) + x.exponent) * 30103 / 100000
    let top := magnitude i.value i.den estimate 4
    firstGrid i top 19

end Binary64

end BrowserCheck.Number
