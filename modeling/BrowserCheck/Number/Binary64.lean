
set_option autoImplicit false

/-! Double precision numbers as exact integers: sign, mantissa and power of two. -/

-- powers of numbers are the built-in ones, also where an algebra library brings its own
attribute [default_instance 20000, instance (20000)] instPowNat

namespace BrowserCheck.Number

/-- A finite double of absolute value `mantissa * 2 ^ exponent`. The mantissa stays below `2 ^ 53`,
and below `2 ^ 52` only with the least exponent. -/
structure Binary64 where
  negative : Bool
  mantissa : Nat
  exponent : Int
deriving DecidableEq, Repr

namespace Binary64

def leastExponent : Int := -1074
def greatestExponent : Int := 971

def zero (negative : Bool) : Binary64 := ⟨negative, 0, leastExponent⟩

def roundQuotient (num den : Nat) : Nat :=
  let q := num / den
  let r := num % den
  if den < 2 * r || (2 * r == den && q % 2 == 1) then q + 1 else q

def shifted (num den : Nat) (e : Int) : Nat × Nat :=
  if e < 0 then (num * 2 ^ (-e).toNat, den) else (num, den * 2 ^ e.toNat)

def fittingExponent (num den : Nat) : Int :=
  let e := max leastExponent ((num.log2 : Int) - den.log2 - 52)
  let (n, d) := shifted num den e
  if n / d < 2 ^ 52 then max leastExponent (e - 1) else e

def ofRatio? (negative : Bool) (num den : Nat) : Option Binary64 :=
  if num = 0 then some (zero negative)
  else
    let e := fittingExponent num den
    let (n, d) := shifted num den e
    let m := roundQuotient n d
    let x := if m = 2 ^ 53 then ⟨negative, 2 ^ 52, e + 1⟩ else ⟨negative, m, e⟩
    if greatestExponent < x.exponent then none else some x

def ratio (x : Binary64) : Nat × Nat :=
  if x.exponent < 0 then (x.mantissa, 2 ^ (-x.exponent).toNat) else (x.mantissa * 2 ^ x.exponent.toNat, 1)

def powerOfTen (k : Nat) : Binary64 := (ofRatio? false (10 ^ k) 1).getD (zero false)

def mul? (x y : Binary64) : Option Binary64 :=
  ofRatio? (x.negative != y.negative) (x.ratio.1 * y.ratio.1) (x.ratio.2 * y.ratio.2)

def div? (x y : Binary64) : Option Binary64 :=
  ofRatio? (x.negative != y.negative) (x.ratio.1 * y.ratio.2) (x.ratio.2 * y.ratio.1)

def greatestPower : Nat := 308

-- `steps` bounds the number of divisions: two of them bring every 64 bit number to zero
def divPower? (x : Binary64) (k : Nat) : Nat → Option Binary64
  | 0 => some (zero x.negative)
  | steps + 1 =>
    if k ≤ greatestPower then x.div? (powerOfTen k)
    else (x.div? (powerOfTen greatestPower)).bind fun y => y.divPower? (k - greatestPower) steps

/-- The value of `significand * 10 ^ k`: the significand is rounded to a double first, and the
product or quotient with the power of ten is rounded again. -/
def scale? (negative : Bool) (significand : Nat) (k : Int) : Option Binary64 :=
  (ofRatio? negative significand 1).bind fun x =>
    if x.mantissa = 0 then some x
    else if k < 0 then x.divPower? (-k).toNat 4
    else if k.toNat ≤ greatestPower then x.mul? (powerOfTen k.toNat)
    else none

end Binary64

end BrowserCheck.Number
