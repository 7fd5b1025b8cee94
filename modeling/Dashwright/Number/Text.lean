import Dashwright.Number.Nearest

/-!
Text of numbers. A double is written with its shortest digits: positionally when the decimal
point falls within sixteen places of the first digit (and not four or more places before it),
with `.0` after a whole number, and otherwise as one digit, a fraction and a signed exponent of
at least two digits. Decimal text is read back with correct rounding.
-/

namespace Dashwright.Number

/-- How a double is written: the window in which positional notation is used and the smallest
number of exponent digits. -/
structure FloatStyle where
  /-- positional notation when `lowPoint < point ∧ point ≤ highPoint` -/
  lowPoint : Int
  highPoint : Int
  exponentDigits : Nat

/-- The style of the default text of a double: `1e+16`, `1000000000000000.0`, `0.0001`, `1e-05`. -/
def FloatStyle.standard : FloatStyle := ⟨-4, 16, 2⟩

def zeros (n : Nat) : String := String.ofList (List.replicate n '0')

/-- Digits `ds` (no trailing zeros) with the decimal point `point` places after the first
digit, written in the given style. -/
def layout (style : FloatStyle) (ds : String) (point : Int) : String :=
  let n := ds.length
  if style.lowPoint < point ∧ point ≤ style.highPoint then
    if point ≤ 0 then "0." ++ zeros point.natAbs ++ ds
    else if point ≥ n then ds ++ zeros (point.toNat - n) ++ ".0"
    else String.ofList (ds.toList.take point.toNat) ++ "." ++ String.ofList (ds.toList.drop point.toNat)
  else
    let e := point - 1
    let es := toString e.natAbs
    let mant := match ds.toList with
      | c :: rest@(_ :: _) => String.singleton c ++ "." ++ String.ofList rest
      | cs => String.ofList cs
    mant ++ "e" ++ (if e < 0 then "-" else "+") ++ zeros (style.exponentDigits - es.length) ++ es

/-- The shortest text of a double that reads back as it, in the given style. -/
def floatTextWith (style : FloatStyle) (f : Float) : String :=
  if f.isNaN then "nan"
  else if f.isInf then (if f < 0 then "-inf" else "inf")
  else
    let b := Binary.ofFloat f
    let sign := if b.negative then "-" else ""
    if b.mantissa == 0 then sign ++ "0.0"
    else
      let (d, k) := shortest b
      let ds := toString d
      sign ++ layout style ds (k + ds.length)

def floatText (f : Float) : String := floatTextWith FloatStyle.standard f

def infinity : Float := 1.0 / 0.0

def notANumber : Float := 0.0 / 0.0

/-- The double nearest to `digits * 10^exp`, with a sign; an infinity beyond the largest. -/
def floatOfDecimal (negative : Bool) (digits : Nat) (exp : Int) : Float :=
  let (num, den) := if exp ≥ 0 then (digits * Nat.pow 10 exp.toNat, 1) else (digits, Nat.pow 10 exp.natAbs)
  (nearestFloat negative num den).getD (ofUnpacked (.infinity (signOf negative)))

def floatOfInt (i : Int) : Float :=
  floatOfDecimal (i < 0) i.natAbs 0

/-- Exact comparison of an integer with a finite double. -/
def compareIntFloat (i : Int) (f : Float) : Ordering :=
  let b := Binary.ofFloat f
  let r := Ratio.ofBinary b.mantissa b.exponent
  let fv : Ratio × Bool := (r, b.negative && b.mantissa != 0)
  let iv : Ratio × Bool := (⟨i.natAbs, 1⟩, i < 0)
  match iv.2, fv.2 with
  | false, true => .gt
  | true, false => .lt
  | false, false => iv.1.cmp fv.1
  | true, true => fv.1.cmp iv.1

/-- Whether a double is finite and has no fractional part. -/
def isIntegral (f : Float) : Bool :=
  !f.isNaN && !f.isInf && floatOfInt (Binary.ofFloat f).truncate == f

end Dashwright.Number
