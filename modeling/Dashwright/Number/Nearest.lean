import Dashwright.Number.Shortest

/-!
The double nearest to an exact rational, ties to even, computed on natural numbers: the
rational is scaled so that one unit is the last place the double keeps (fifty-two places below
its leading bit, never below the last place of the subnormals), cut to a whole number with the
remainder deciding the rounding, and packed. Arithmetic that has an exact rational result
(division of integers, the remainder of doubles, decimal rounding, decimal text) goes through it,
so each such result is rounded exactly once.
-/

namespace Dashwright.Number

open Float.Model

/-- The exponent of the highest set bit of a positive number. -/
def topBit (n : Nat) : Nat := n.log2

/-- A double from its unpacked form, which must already be rounded to the format. -/
def ofUnpacked (u : UnpackedFloat) : Float := Float.ofModel (Float.Model.pack u)

/-- The sign of a double that is negative or not. -/
def signOf (negative : Bool) : UnpackedFloat.Sign := if negative then .negative else .positive

/-- Whether `num / den` lies below `2^k`. -/
def ratioBelow (num den : Nat) (k : Int) : Bool :=
  if k ≥ 0 then num < den * Nat.pow 2 k.toNat else num * Nat.pow 2 k.natAbs < den

/-- The exponent of the leading bit of `num / den`, for positive `num` and `den`: the `k` with
`2^k ≤ num / den < 2^(k+1)`. -/
def leadExponent (num den : Nat) : Int :=
  let k : Int := (topBit num : Int) - topBit den
  if ratioBelow num den k then k - 1 else k

/-- The exponent of the last place a double keeps of `num / den`. -/
def lastPlace (num den : Nat) : Int := max (leadExponent num den - 52) (-1074)

/-- `num / den` counted in units of `2^place`: the whole number of units, the remainder, and
the size of a unit, the remainder and the unit over one denominator. -/
def inUnits (num den : Nat) (place : Int) : Nat × Nat × Nat :=
  if place ≥ 0 then
    let unit := den * Nat.pow 2 place.toNat
    (num / unit, num % unit, unit)
  else
    let scaled := num * Nat.pow 2 place.natAbs
    (scaled / den, scaled % den, den)

/-- A whole number of units rounded by its remainder, half to even. -/
def roundUnits (q r unit : Nat) : Nat :=
  if 2 * r > unit || (2 * r == unit && q % 2 == 1) then q + 1 else q

/-- The unpacked double nearest to `num / den`, with a sign; `none` when it is too large for a
double. A zero denominator counts as one. -/
def nearestUnpacked (negative : Bool) (num den : Nat) : Option UnpackedFloat :=
  let den := max den 1
  let place := lastPlace num den
  let (q, r, unit) := inUnits num den place
  let m := roundUnits q r unit
  if h : m = 0 then some (.zero (signOf negative))
  -- rounding up to the next power of two moves the last place up by one
  else if m == Nat.pow 2 53 then
    if place + 1 > 971 then none else some (.finite (signOf negative) (Nat.pow 2 52) (place + 1) (by decide))
  else if place > 971 then none
  else some (.finite (signOf negative) m place (Nat.pos_of_ne_zero h))

/-- The double nearest to `num / den`, with a sign; `none` when it is too large for a double.
A zero denominator counts as one. -/
def nearestFloat (negative : Bool) (num den : Nat) : Option Float :=
  (nearestUnpacked negative num den).map ofUnpacked

/-- The double nearest to an integer; `none` when it is too large for a double. -/
def intToFloat? (i : Int) : Option Float := nearestFloat (i < 0) i.natAbs 1

/-- The exact value of a finite double as a signed numerator over a power of two. -/
def exactParts (f : Float) : Int × Nat :=
  let b := Binary.ofFloat f
  let num : Int := if b.exponent ≥ 0 then Int.ofNat (b.mantissa * Nat.pow 2 b.exponent.toNat) else b.mantissa
  let den : Nat := if b.exponent ≥ 0 then 1 else Nat.pow 2 b.exponent.natAbs
  (if b.negative then -num else num, den)

/-- The remainder of `x / y` with the sign of `x`, exact, for finite `x` and non-zero finite
`y`. -/
def floatRemainder (x y : Float) : Float :=
  let (a, da) := exactParts x
  let (b, db) := exactParts y
  -- both over the common denominator `da * db`
  let xa := a * db
  let yb := (b * da).natAbs
  let r : Int := if xa < 0 then -((xa.natAbs % yb : Nat) : Int) else (xa.natAbs % yb : Nat)
  let v := (nearestFloat (r < 0) r.natAbs (da * db)).getD 0.0
  if r == 0 then (if x < 0 || (x == 0 && 1.0 / x < 0) then -0.0 else 0.0) else v

/-- The double nearest to `x` rounded to `digits` decimal places, ties to even on the exact
value of `x`; `digits` may be negative. -/
def roundDecimal (x : Float) (digits : Int) : Option Float :=
  let (a, d) := exactParts x
  let (num, den) : Int × Nat :=
    if digits ≥ 0 then (a * Int.pow 10 digits.toNat, d) else (a, d * Nat.pow 10 digits.natAbs)
  let q := num.natAbs / den
  let r := num.natAbs % den
  let q := if 2 * r > den || (2 * r == den && q % 2 == 1) then q + 1 else q
  if digits ≥ 0 then nearestFloat (x < 0 || (x == 0 && 1.0 / x < 0)) q (Nat.pow 10 digits.toNat)
  else nearestFloat (x < 0 || (x == 0 && 1.0 / x < 0)) (q * Nat.pow 10 digits.natAbs) 1

end Dashwright.Number
