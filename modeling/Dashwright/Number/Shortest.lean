/-!
The shortest decimal form of a double. A finite double is `m * 2^q`; the reals that round
to it form an interval around it, closed when `m` is even. The shortest form is the decimal
with fewest significant digits inside that interval, and the nearest one of those.
All comparisons are exact, on natural numbers.
-/

namespace Dashwright.Number

/-- A finite double as sign, significand and binary exponent, `m * 2^q`. `narrowBelow` marks
a significand that is a power of two above the smallest exponent: the gap below it is half the
gap above it. -/
structure Binary where
  negative : Bool
  mantissa : Nat
  exponent : Int
  narrowBelow : Bool
deriving Repr, BEq

namespace Binary

/-- A double as sign, significand and exponent, read off its unpacked form. An infinity reads as
the significand `2^52` one exponent beyond the largest, a NaN as the quiet NaN there. -/
def ofFloat (f : Float) : Binary :=
  match f.toModel.unpack with
  | .finite s m e _ => ⟨s == .negative, m, e, m == Nat.pow 2 52 && e > -1074⟩
  | .zero s => ⟨s == .negative, 0, -1074, false⟩
  | .infinity s => ⟨s == .negative, Nat.pow 2 52, 972, true⟩
  | .notANumber => ⟨false, Nat.pow 2 52 + Nat.pow 2 51, 972, false⟩

/-- The integer part of the value, rounded toward zero. -/
def truncate (b : Binary) : Int :=
  let mag : Nat :=
    if b.exponent ≥ 0 then b.mantissa * Nat.pow 2 b.exponent.toNat
    else b.mantissa / Nat.pow 2 b.exponent.natAbs
  if b.negative then -(mag : Int) else mag

end Binary

/-- A non-negative rational as numerator and denominator. -/
structure Ratio where
  num : Nat
  den : Nat

namespace Ratio

/-- `x * 2^e` as a ratio. -/
def ofBinary (x : Nat) (e : Int) : Ratio :=
  if e ≥ 0 then ⟨x * Nat.pow 2 e.toNat, 1⟩ else ⟨x, Nat.pow 2 e.natAbs⟩

/-- `d * 10^k` as a ratio. -/
def ofDecimal (d : Nat) (k : Int) : Ratio :=
  if k ≥ 0 then ⟨d * Nat.pow 10 k.toNat, 1⟩ else ⟨d, Nat.pow 10 k.natAbs⟩

def cmp (a b : Ratio) : Ordering := compare (a.num * b.den) (b.num * a.den)

/-- The floor of `a / 10^k`. -/
def floorScaled (a : Ratio) (k : Int) : Nat :=
  if k ≥ 0 then a.num / (a.den * Nat.pow 10 k.toNat) else a.num * Nat.pow 10 k.natAbs / a.den

/-- The distance between two ratios, as a ratio. -/
def dist (a b : Ratio) : Ratio :=
  let x := a.num * b.den
  let y := b.num * a.den
  ⟨if x ≥ y then x - y else y - x, a.den * b.den⟩

end Ratio

def decimalLength (n : Nat) : Nat := (Nat.toDigits 10 n).length

/-- The smallest `p` with `v < 10^p`, for a positive ratio. -/
def decimalPoint (v : Ratio) : Int :=
  let est : Int := (decimalLength v.num : Int) - decimalLength v.den
  if (v.cmp (Ratio.ofDecimal 1 est)) == .lt then est else est + 1

/-- Drops trailing zero digits, raising the exponent for each. -/
def stripZeros : Nat → Nat → Int → Nat × Int
  | 0, d, k => (d, k)
  | fuel + 1, d, k => if d ≠ 0 ∧ d % 10 = 0 then stripZeros fuel (d / 10) (k + 1) else (d, k)

/-- Shortest digits `d` and exponent `k` with `d * 10^k` reading back as the given positive
double: the fewest digits first, then the candidate nearest the double, then an even last digit. -/
def shortest (b : Binary) : Nat × Int :=
  let m := b.mantissa
  let v := Ratio.ofBinary m b.exponent
  let lo := Ratio.ofBinary (4 * m - (if b.narrowBelow then 1 else 2)) (b.exponent - 2)
  let hi := Ratio.ofBinary (4 * m + 2) (b.exponent - 2)
  let closed := m % 2 == 0
  let inside (c : Ratio) : Bool :=
    (match lo.cmp c with | .lt => true | .eq => closed | .gt => false) &&
    (match c.cmp hi with | .lt => true | .eq => closed | .gt => false)
  let p := decimalPoint v
  let attempt (n : Nat) : Option (Nat × Int) :=
    let k := p - n
    let d := v.floorScaled k
    let below := inside (Ratio.ofDecimal d k)
    let above := inside (Ratio.ofDecimal (d + 1) k)
    if below && above then
      match (Ratio.dist v (Ratio.ofDecimal d k)).cmp (Ratio.dist (Ratio.ofDecimal (d + 1) k) v) with
      | .lt => some (d, k)
      | .gt => some (d + 1, k)
      | .eq => some (if d % 2 == 0 then d else d + 1, k)
    else if below then some (d, k)
    else if above then some (d + 1, k)
    else none
  let found := ((List.range 17).map (· + 1)).findSome? attempt
  let (d, k) := found.getD (v.floorScaled (p - 17), p - 17)
  stripZeros 20 d k

end Dashwright.Number
