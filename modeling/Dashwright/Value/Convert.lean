import Dashwright.Number.Nearest
import Dashwright.Text.Blank
import Dashwright.Text.Unicode
import Dashwright.Value.Basic

/-!
Numbers read from text as the integer and float constructors read them: blanks around the
number are ignored, a sign may lead, and digits may be grouped by single underscores. A float
is a decimal with an optional point and exponent, or `inf`, `infinity` or `nan` in any case.
-/

namespace Dashwright.Value

/-- Decimal digits of any script grouped by single underscores between digits; their value and
count. -/
def groupedDigits (cs : List Char) : Option (Nat × Nat) :=
  match cs with
  | [] => Option.none
  | c :: _ =>
    if !Text.isDecimal c then Option.none
    else
      let rec go : List Char → Nat → Nat → Bool → Option (Nat × Nat)
        | [], v, n, _ => some (v, n)
        | '_' :: rest, v, n, afterDigit =>
          match rest with
          | d :: _ => if afterDigit && Text.isDecimal d then go rest v n false else Option.none
          | [] => Option.none
        | d :: rest, v, n, _ =>
          match Text.decimalValue? d with
          | some x => go rest (v * 10 + x) (n + 1) true
          | Option.none => Option.none
      go cs 0 0 false

/-- A sign at the front: whether it is a minus, and the rest. -/
def splitSign (cs : List Char) : Bool × List Char :=
  match cs with
  | '-' :: rest => (true, rest)
  | '+' :: rest => (false, rest)
  | _ => (false, cs)

def parseIntText? (s : String) : Option Int :=
  let (neg, body) := splitSign (Text.strip s).toList
  (groupedDigits body).map fun (v, _) => if neg then -(v : Int) else v

/-- The value of a digit in bases up to 36: decimal digits of any script, then ASCII letters of
either case. -/
def digitValue (c : Char) : Option Nat :=
  match Text.decimalValue? c with
  | some d => some d
  | Option.none =>
    if ('a' ≤ c && c ≤ 'z') || ('A' ≤ c && c ≤ 'Z') then some (c.toLower.toNat - 87) else Option.none

/-- Digits of a base grouped by single underscores between digits, and their value. -/
def digitsInBase (base : Nat) : List Char → Option Nat
  | [] => Option.none
  | cs =>
    let rec go : List Char → Nat → Bool → Option Nat
      | [], v, afterDigit => if afterDigit then some v else Option.none
      | '_' :: rest, v, afterDigit => if afterDigit then go rest v false else Option.none
      | d :: rest, v, _ =>
        match digitValue d with
        | some x => if x < base then go rest (v * base + x) true else Option.none
        | Option.none => Option.none
    go cs 0 false

/-- The base a prefix letter after a leading zero names. -/
def prefixBase : Char → Option Nat
  | 'x' | 'X' => some 16
  | 'o' | 'O' => some 8
  | 'b' | 'B' => some 2
  | _ => Option.none

/-- An integer in text in a base from 2 to 36, or in base 0 in the base its prefix names
(decimal without one, where a leading zero allows only zeros): blanks around, a sign, the
base's prefix where it matches (an underscore may follow it), and digits with single
underscores between them. -/
def parseIntBase? (s : String) (base : Nat) : Option Int :=
  let (neg, body) := splitSign (Text.strip s).toList
  let signed (v : Nat) : Int := if neg then -(v : Int) else v
  let afterPrefix (rest : List Char) : List Char :=
    match rest with
    | '_' :: more => more
    | _ => rest
  match body with
  | '0' :: c :: rest =>
    match prefixBase c with
    | some b =>
      if base == 0 || base == b then (digitsInBase b (afterPrefix rest)).map signed
      else (digitsInBase base body).map signed
    | Option.none =>
      if base == 0 then
        if body.all (fun d => d == '0' || d == '_') then (digitsInBase 10 body).map signed
        else Option.none
      else (digitsInBase base body).map signed
  | _ => (digitsInBase (if base == 0 then 10 else base) body).map signed

def parseFloatText? (s : String) : Option Float :=
  let (neg, body) := splitSign (Text.strip s).toList
  let word := String.ofList (body.map Char.toLower)
  if word == "inf" || word == "infinity" then some (if neg then -Number.infinity else Number.infinity)
  else if word == "nan" then some Number.notANumber
  else
    let (mant, expo) := body.span (fun c => c != 'e' && c != 'E')
    let (whole, frac) := mant.span (· != '.')
    let frac := frac.drop 1
    let wholeV := if whole.isEmpty then some (0, 0) else groupedDigits whole
    let fracV := if frac.isEmpty then some (0, 0) else groupedDigits frac
    let hasPoint := mant.contains '.'
    let expV : Option Int := match expo with
      | [] => some 0
      | _ :: rest =>
        let (eneg, edigits) := splitSign rest
        (groupedDigits edigits).map fun (v, _) => if eneg then -(v : Int) else v
    match wholeV, fracV, expV with
    | some (_, wn), some (_, fn), some e =>
      if wn + fn == 0 || (!hasPoint && !frac.isEmpty) then Option.none
      else
        let n := (whole ++ frac).foldl (fun a d =>
          match Text.decimalValue? d with
          | some x => a * 10 + x
          | Option.none => a) 0
        some (Number.floatOfDecimal neg n (e - fn))
    | _, _, _ => Option.none

end Dashwright.Value
