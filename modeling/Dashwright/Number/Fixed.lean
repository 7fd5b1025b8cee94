import Dashwright.Number.Text

/-!
Doubles written with a fixed number of digits: after the point (`fixed`), after the first
significant digit with a decimal exponent (`scientific`), or as the shorter of the two for a
number of significant digits (`general`). Each rounds the exact value of the double once, ties
to even, so `2.675` to two places is `2.67`: the double lies below the tie.
-/

namespace Dashwright.Number

/-- `n` rounded to a multiple of `den`, ties to even, divided by `den`. -/
def roundQuotient (num : Nat) (den : Nat) : Nat :=
  let q := num / den
  let r := num % den
  if 2 * r > den || (2 * r == den && q % 2 == 1) then q + 1 else q

/-- The magnitude of a finite double as an exact fraction. -/
def magnitude (x : Float) : Nat × Nat :=
  let (a, d) := exactParts x
  (a.natAbs, d)

/-- Digits of the magnitude with `places` digits after the point. -/
def fixedDigits (x : Float) (places : Nat) (keepPoint : Bool) : String :=
  let (a, d) := magnitude x
  let n := roundQuotient (a * Nat.pow 10 places) d
  let s := toString n
  let s := if s.length ≤ places then zeros (places + 1 - s.length) ++ s else s
  if places == 0 then (if keepPoint then s ++ "." else s)
  else
    let cs := s.toList
    String.ofList (cs.take (cs.length - places)) ++ "." ++ String.ofList (cs.drop (cs.length - places))

/-- The decimal exponent of a positive fraction: the `k` with `10^k ≤ a/d < 10^(k+1)`. -/
def decimalExponent (a d : Nat) : Int :=
  let est : Int := ((decimalLength a : Int) - (decimalLength d : Int))
  -- the estimate is the exponent or one above it
  let below (k : Int) : Bool :=
    if k ≥ 0 then a < d * Nat.pow 10 k.toNat else a * Nat.pow 10 k.natAbs < d
  if below est then est - 1 else est

/-- The significant digits of a positive fraction rounded to `count` digits, with the decimal
exponent of the first. -/
def significantDigits (a d : Nat) (count : Nat) : Nat × Int :=
  let k := decimalExponent a d
  let shift : Int := (count : Int) - 1 - k
  let n := if shift ≥ 0 then roundQuotient (a * Nat.pow 10 shift.toNat) d
    else roundQuotient a (d * Nat.pow 10 shift.natAbs)
  if n ≥ Nat.pow 10 count then (n / 10, k + 1) else (n, k)

/-- An exponent as a sign and at least two digits. -/
def exponentText (k : Int) : String :=
  let body := toString k.natAbs
  (if k < 0 then "-" else "+") ++ (if body.length < 2 then "0" ++ body else body)

/-- The magnitude with one digit before the point, `places` after it, and an exponent. -/
def scientificDigits (x : Float) (places : Nat) (keepPoint : Bool) (mark : Char) : String :=
  let (a, d) := magnitude x
  let (n, k) := if a == 0 then (0, (0 : Int)) else significantDigits a d (places + 1)
  let s := toString n
  let s := if s.length < places + 1 then s ++ zeros (places + 1 - s.length) else s
  let cs := s.toList
  let body := if places == 0 then String.ofList (cs.take 1) ++ (if keepPoint then "." else "")
    else String.ofList (cs.take 1) ++ "." ++ String.ofList (cs.drop 1)
  body ++ String.singleton mark ++ exponentText k

/-- Drops zeros at the end of a fraction, and the point if nothing is left after it. -/
def trimFraction (s : String) : String :=
  if s.contains '.' then
    let cs := (s.toList.reverse.dropWhile (· == '0'))
    String.ofList (match cs with | '.' :: r => r.reverse | r => r.reverse)
  else s

/-- The magnitude with `precision` significant digits, fixed or with an exponent, whichever
the exponent calls for; zeros at the end are dropped unless `alternate`. -/
def generalDigits (x : Float) (precision : Nat) (alternate : Bool) (mark : Char) : String :=
  let p := if precision == 0 then 1 else precision
  let (a, d) := magnitude x
  let k := if a == 0 then (0 : Int) else (significantDigits a d p).2
  if -4 ≤ k ∧ k < p then
    let s := fixedDigits x (p - 1 - k).toNat alternate
    if alternate then s else trimFraction s
  else
    let s := scientificDigits x (p - 1) alternate mark
    if alternate then s
    else
      let (mant, rest) := s.toList.span (· != mark)
      trimFraction (String.ofList mant) ++ String.ofList rest

end Dashwright.Number
