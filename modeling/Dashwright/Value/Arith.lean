import Dashwright.Value.Percent
import Dashwright.Text.Blank

/-!
Arithmetic, comparison and membership on values. Integers are exact and of any size; a
boolean counts as 0 or 1; an integer meeting a double becomes the nearest double. Texts, lists
and tuples concatenate with `+` and repeat with `*`; `%` on a text formats it. Division by zero
and operands of the wrong kinds fail with their own messages.

Ordering compares numbers by value, texts by code points, sequences item by item and sets by
inclusion; values of different kinds have no order.
-/

namespace Dashwright.Value

open Number

/-- The failure of a binary operator on operands it does not take. -/
def unsupportedOperands (op : String) (a b : Value) : Failure :=
  Failure.wrongType ("unsupported operand type(s) for " ++ op ++ ": '" ++ a.typeName ++
    "' and '" ++ b.typeName ++ "'")

def tooLargeForFloat : Failure := ⟨.overflow, some "int too large to convert to float"⟩

def Numeric.toFloat : Numeric → Outcome Float
  | .int i => match intToFloat? i with
    | some f => pure f
    | Option.none => throw tooLargeForFloat
  | .float f => pure f

/-- An operator on two numbers: `onInt` when both are integers, `onFloat` on their doubles
otherwise. -/
def numericOp (onInt : Int → Int → Outcome Value) (onFloat : Float → Float → Outcome Value) :
    Numeric → Numeric → Outcome Value
  | .int a, .int b => onInt a b
  | a, b => do onFloat (← a.toFloat) (← b.toFloat)

/-- The count of a repetition: an integer or a boolean. -/
def repeatCount? : Value → Option Int
  | .int i => some i
  | .bool b => some (if b then 1 else 0)
  | _ => Option.none

def repeatList (xs : List Value) (n : Int) : List Value :=
  (List.replicate n.toNat xs).flatten

def repeatText (s : String) (n : Int) : String :=
  String.join (List.replicate n.toNat s)

def concatFailure (kind : String) (other : Value) : Failure :=
  Failure.wrongType ("can only concatenate " ++ kind ++ " (not \"" ++ other.typeName ++ "\") to " ++ kind)

/-! ### Complex numbers -/

def divisionByZero (message : String) : Failure := Failure.make .divisionByZero message

/-- A number as a complex number: a complex number's parts, or a real number with no
imaginary part. -/
def asComplex : Value → Option (Outcome (Float × Float))
  | .complex re im => some (pure (re, im))
  | v => v.numeric?.map fun n => do pure (← n.toFloat, 0.0)

/-- The operands of an operator as complex numbers, when one of them is complex and the other
a number. -/
def complexPair? (a b : Value) : Option (Outcome ((Float × Float) × (Float × Float))) :=
  let anyComplex := match a, b with
    | .complex _ _, _ | _, .complex _ _ => true
    | _, _ => false
  if !anyComplex then Option.none
  else match asComplex a, asComplex b with
    | some x, some y => some (do pure (← x, ← y))
    | _, _ => Option.none

def complexProduct (x y : Float × Float) : Float × Float :=
  (x.1 * y.1 - x.2 * y.2, x.1 * y.2 + x.2 * y.1)

/-- The quotient of complex numbers, dividing through by the larger part of the divisor;
nothing when the divisor is zero. -/
def complexQuotient (x y : Float × Float) : Option (Float × Float) :=
  let (a, b) := x
  let (c, d) := y
  if c.abs ≥ d.abs then
    if c.abs == 0 then Option.none
    else
      let ratio := d / c
      let denom := c + d * ratio
      some ((a + b * ratio) / denom, (b - a * ratio) / denom)
  else if d.abs ≥ c.abs then
    let ratio := c / d
    let denom := c * ratio + d
    some ((a * ratio + b) / denom, (b * ratio - a) / denom)
  else some (notANumber, notANumber)

/-- Repeated squaring from the lowest bit: `r` times `p` to the power `n`. -/
def complexPowLoop (r p : Float × Float) : Nat → Nat → Float × Float
  | 0, _ => r
  | fuel + 1, n =>
    if n == 0 then r
    else complexPowLoop (if n % 2 == 1 then complexProduct r p else r) (complexProduct p p) fuel (n / 2)

/-- A complex number to a natural power, by repeated squaring. -/
def complexPowNat (x : Float × Float) (n : Nat) : Float × Float :=
  complexPowLoop (1.0, 0.0) x (n + 1) n

def hypotenuse (a b : Float) : Float :=
  let a := a.abs
  let b := b.abs
  if a.isInf || b.isInf then infinity
  else if a == 0 then b
  else if b == 0 then a
  else
    let big := max a b
    let small := min a b
    big * Float.sqrt (1.0 + (small / big) * (small / big))

/-- A complex number to a complex power: small integral powers by repeated products, others
through the polar form. -/
def complexPow (x y : Float × Float) : Outcome (Float × Float) := do
  let (a, b) := x
  let (c, d) := y
  let zeroPower := divisionByZero "0.0 to a negative or complex power"
  let r ←
    if d == 0 && c == c.floor && c.abs ≤ 100.0 then
      let n := (Binary.ofFloat c.abs).truncate.toNat
      if c ≥ 0 then pure (complexPowNat x n)
      else match complexQuotient (1.0, 0.0) (complexPowNat x n) with
        | some q => pure q
        | Option.none => throw zeroPower
    else if c == 0 && d == 0 then pure (1.0, 0.0)
    else if a == 0 && b == 0 then
      if d != 0 || c < 0 then throw zeroPower else pure (0.0, 0.0)
    else
      let vabs := hypotenuse a b
      let len := Float.pow vabs c
      let angle := Float.atan2 b a
      let phase := angle * c
      let (len, phase) := if d != 0 then (len / Float.exp (angle * d), phase + d * Float.log vabs)
        else (len, phase)
      if len.isInf then throw ⟨.overflow, some "complex exponentiation"⟩
      pure (len * Float.cos phase, len * Float.sin phase)
  if (r.1.isInf || r.2.isInf) && !(a.isInf || b.isInf) then
    throw ⟨.overflow, some "complex exponentiation"⟩
  pure r

def add (a b : Value) : Outcome Value :=
  match a, b with
  | .str x, .str y => pure (.str (x ++ y))
  | .list x, .list y => pure (.list (x ++ y))
  | .tuple x, .tuple y => pure (.tuple (x ++ y))
  | .str _, _ => throw (concatFailure "str" b)
  | .list _, _ => throw (concatFailure "list" b)
  | .tuple _, _ => throw (concatFailure "tuple" b)
  | _, _ =>
    match complexPair? a b with
    | some pair => do
      let (x, y) ← pair
      pure (.complex (x.1 + y.1) (x.2 + y.2))
    | Option.none =>
      match a.numeric?, b.numeric? with
      | some x, some y =>
        numericOp (fun i j => pure (.int (i + j))) (fun f g => pure (.float (f + g))) x y
      | _, _ => throw (unsupportedOperands "+" a b)

def sub (a b : Value) : Outcome Value :=
  match complexPair? a b with
  | some pair => do
    let (x, y) ← pair
    pure (.complex (x.1 - y.1) (x.2 - y.2))
  | Option.none =>
    match a.numeric?, b.numeric? with
    | some x, some y =>
      numericOp (fun i j => pure (.int (i - j))) (fun f g => pure (.float (f - g))) x y
    | _, _ => throw (unsupportedOperands "-" a b)

def sequenceCountFailure (count : Value) : Failure :=
  Failure.wrongType ("can't multiply sequence by non-int of type '" ++ count.typeName ++ "'")

/-- Repeats a text, list or tuple. -/
def repeatSequence (s : Value) (count : Value) : Option (Outcome Value) :=
  match s with
  | .str x => some (match repeatCount? count with
    | some n => pure (.str (repeatText x n))
    | Option.none => throw (sequenceCountFailure count))
  | .list xs => some (match repeatCount? count with
    | some n => pure (.list (repeatList xs n))
    | Option.none => throw (sequenceCountFailure count))
  | .tuple xs => some (match repeatCount? count with
    | some n => pure (.tuple (repeatList xs n))
    | Option.none => throw (sequenceCountFailure count))
  | _ => Option.none

def mul (a b : Value) : Outcome Value :=
  match complexPair? a b with
  | some pair => do
    let (x, y) ← pair
    let (re, im) := complexProduct x y
    pure (.complex re im)
  | Option.none =>
  match a.numeric?, b.numeric? with
  | some x, some y =>
    numericOp (fun i j => pure (.int (i * j))) (fun f g => pure (.float (f * g))) x y
  | _, _ =>
    match repeatSequence a b with
    | some r => r
    | Option.none =>
      match repeatSequence b a with
      | some r => if a.numeric?.isSome then r else throw (unsupportedOperands "*" a b)
      | Option.none => throw (unsupportedOperands "*" a b)


def trueDiv (a b : Value) : Outcome Value :=
  match complexPair? a b with
  | some pair => do
    let (x, y) ← pair
    match complexQuotient x y with
    | some (re, im) => pure (.complex re im)
    | Option.none => throw (divisionByZero "complex division by zero")
  | Option.none =>
  match a.numeric?, b.numeric? with
  | some x, some y =>
    numericOp
      (fun i j =>
        if j == 0 then throw (divisionByZero "division by zero")
        else match nearestFloat ((i < 0) != (j < 0)) i.natAbs j.natAbs with
          | some f => pure (.float f)
          | Option.none => throw ⟨.overflow, some "integer division result too large for a float"⟩)
      (fun f g => if g == 0 then throw (divisionByZero "float division by zero") else pure (.float (f / g)))
      x y
  | _, _ => throw (unsupportedOperands "/" a b)

/-- The remainder of doubles with the sign of `x`, as the C library computes it. -/
def floatFmod (x y : Float) : Float :=
  if x.isNaN || x.isInf || y.isNaN then notANumber
  else if y.isInf then x
  else floatRemainder x y

def copySign (magnitude sign : Float) : Float :=
  if sign < 0 || (sign == 0 && 1.0 / sign < 0) then -magnitude.abs else magnitude.abs

/-- Floor division and remainder of doubles, the remainder taking the sign of the divisor. -/
def floatDivMod (x y : Float) : Float × Float :=
  let m := floatFmod x y
  let d := (x - m) / y
  let (m, d) :=
    if m != 0 then (if (y < 0) != (m < 0) then (m + y, d - 1.0) else (m, d))
    else (copySign 0.0 y, d)
  let q :=
    if d != 0 then
      let fl := d.floor
      if d - fl > 0.5 then fl + 1.0 else fl
    else copySign 0.0 (x / y)
  (q, m)

def floorDiv (a b : Value) : Outcome Value :=
  match a.numeric?, b.numeric? with
  | some x, some y =>
    numericOp
      (fun i j => if j == 0 then throw (divisionByZero "integer division or modulo by zero")
        else pure (.int (i.fdiv j)))
      (fun f g => if g == 0 then throw (divisionByZero "float floor division by zero")
        else pure (.float (floatDivMod f g).1))
      x y
  | _, _ => throw (unsupportedOperands "//" a b)

def mod (a b : Value) : Outcome Value :=
  match a with
  | .str s => do pure (.str (← percentFormat s b))
  | _ =>
    match a.numeric?, b.numeric? with
    | some x, some y =>
      numericOp
        (fun i j => if j == 0 then throw (divisionByZero "integer modulo by zero")
          else pure (.int (i.fmod j)))
        (fun f g => if g == 0 then throw (divisionByZero "float modulo")
          else pure (.float (floatDivMod f g).2))
        x y
    | _, _ => throw (unsupportedOperands "%" a b)

def isOddIntegral (f : Float) : Bool :=
  isIntegral f && (Binary.ofFloat f).truncate % 2 != 0

/-- A double raised to a double, with the special cases settled before the C library's power:
anything to the zero is one, zero to a negative power fails, a negative base takes only
integral exponents, and a result too large fails. -/
def floatPow (v w : Float) : Outcome Float := do
  if w == 0 then return 1.0
  if v.isNaN then return v
  if w.isNaN then return (if v == 1.0 then 1.0 else w)
  if w.isInf then
    let av := v.abs
    if av == 1.0 then return 1.0
    else if (w > 0) == (av > 1.0) then return infinity
    else return 0.0
  if v.isInf then
    let odd := isOddIntegral w
    if w > 0 then return (if odd then v else v.abs)
    else return (if odd then copySign 0.0 v else 0.0)
  if v == 0 then
    if w < 0 then throw (divisionByZero "0.0 cannot be raised to a negative power")
    return (if isOddIntegral w then v else 0.0)
  let (v, negate) ← if v < 0 then
      if w != w.floor then throw (Failure.make .unsupported "complex result of a negative base")
      else pure (-v, isOddIntegral w)
    else pure (v, false)
  if v == 1.0 then return (if negate then -1.0 else 1.0)
  let r := Float.pow v w
  if r.isInf then throw ⟨.overflow, some "(34, 'Numerical result out of range')"⟩
  pure (if negate then -r else r)

/-- A double to a double power; a negative base to a fractional power is complex. -/
def realPow (f g : Float) : Outcome Value := do
  if f < 0 && !f.isInf && !g.isNaN && !g.isInf && g != g.floor then
    let (re, im) ← complexPow (f, 0.0) (g, 0.0)
    pure (.complex re im)
  else pure (.float (← floatPow f g))

def pow (a b : Value) : Outcome Value :=
  match complexPair? a b with
  | some pair => do
    let (x, y) ← pair
    let (re, im) ← complexPow x y
    pure (.complex re im)
  | Option.none =>
  match a.numeric?, b.numeric? with
  | some x, some y =>
    numericOp
      (fun i j =>
        if j ≥ 0 then pure (.int (Int.pow i j.toNat))
        else if i == 0 then throw (divisionByZero "0.0 cannot be raised to a negative power")
        else do
          let f ← (Numeric.int i).toFloat
          let g ← (Numeric.int j).toFloat
          realPow f g)
      realPow
      x y
  | _, _ => throw (unsupportedOperands "** or pow()" a b)

def negate (a : Value) : Outcome Value :=
  match a with
  | .int i => pure (.int (-i))
  | .bool b => pure (.int (if b then -1 else 0))
  | .float f => pure (.float (-f))
  | .complex re im => pure (.complex (-re) (-im))
  | _ => throw (Failure.wrongType ("bad operand type for unary -: '" ++ a.typeName ++ "'"))

def plus (a : Value) : Outcome Value :=
  match a with
  | .int _ | .float _ | .complex _ _ => pure a
  | .bool b => pure (.int (if b then 1 else 0))
  | _ => throw (Failure.wrongType ("bad operand type for unary +: '" ++ a.typeName ++ "'"))

/-- The comparison operators. -/
inductive Comparison where
  | lt
  | le
  | gt
  | ge
deriving BEq

def Comparison.symbol : Comparison → String
  | .lt => "<"
  | .le => "<="
  | .gt => ">"
  | .ge => ">="

def Comparison.holds (c : Comparison) (o : Ordering) : Bool :=
  match c with
  | .lt => o == .lt
  | .le => o != .gt
  | .gt => o == .gt
  | .ge => o != .lt

def compareNumeric : Numeric → Numeric → Option Ordering
  | .int a, .int b => some (compare a b)
  | .float a, .float b =>
    if a.isNaN || b.isNaN then Option.none
    else some (if a < b then .lt else if a == b then .eq else .gt)
  | .int a, .float b =>
    if b.isNaN then Option.none
    else if b.isInf then some (if b > 0 then .lt else .gt)
    else some (compareIntFloat a b)
  | .float a, .int b =>
    if a.isNaN then Option.none
    else if a.isInf then some (if a > 0 then .gt else .lt)
    else some (compareIntFloat b a).swap

def orderFailure (c : Comparison) (a b : Value) : Failure :=
  Failure.wrongType ("'" ++ c.symbol ++ "' not supported between instances of '" ++ a.typeName ++
    "' and '" ++ b.typeName ++ "'")

def compareTexts (a b : String) : Ordering := compare a.toList b.toList

def compareWith (c : Comparison) (a b : Value) : Outcome Bool :=
  let rec go : Nat → Value → Value → Outcome Bool
    | 0, _, _ => throw (Failure.make .tooDeep "maximum recursion depth exceeded in comparison")
    | fuel + 1, a, b =>
      match a, b with
      | .str x, .str y => pure (c.holds (compareTexts x y))
      | .bytes x, .bytes y => pure (c.holds (compare x y))
      | .date x, .date y => pure (c.holds (compare x.toDays y.toDays))
      | .moment x, .moment y =>
        if x.offset.isSome != y.offset.isSome then
          throw (Failure.wrongType "can't compare offset-naive and offset-aware datetimes")
        else pure (c.holds (compare (momentKey x) (momentKey y)))
      | .list xs, .list ys | .tuple xs, .tuple ys =>
        match (xs.zip ys).find? (fun (x, y) => !equal x y) with
        | some (x, y) => go fuel x y
        | Option.none => pure (c.holds (compare xs.length ys.length))
      | .set xs, .set ys =>
        let sub := subsetOf xs ys
        let sup := subsetOf ys xs
        pure (match c with
          | .le => sub
          | .lt => sub && xs.length < ys.length
          | .ge => sup
          | .gt => sup && ys.length < xs.length)
      | _, _ =>
        match a.numeric?, b.numeric? with
        | some x, some y => pure (match compareNumeric x y with
          | some o => c.holds o
          | Option.none => false)
        | _, _ =>
          match a, b with
          | .moment _, .date _ => throw (Failure.wrongType "can't compare datetime.datetime to datetime.date")
          | .date _, .moment _ => throw (Failure.wrongType "can't compare datetime.date to datetime.datetime")
          | _, _ => throw (orderFailure c a b)
  go 200 a b

/-- Membership: a part of a text, an item of a sequence or set, a key of a mapping. -/
def contains (container item : Value) : Outcome Bool :=
  match container with
  | .str s =>
    match item with
    | .str t => pure (Text.contains s t)
    | _ => throw (Failure.wrongType ("'in <string>' requires string as left operand, not " ++ item.typeName))
  | .list xs | .tuple xs => pure (xs.any (equal item))
  | .set xs => if item.hashable then pure (xs.any (equal item)) else throw (unhashable item)
  | .map es _ => if item.hashable then pure (es.any (fun (k, _) => equal item k)) else throw (unhashable item)
  | .bytes bs =>
    match item with
    | .int i => pure (bs.any (fun b => (b.toNat : Int) == i))
    | _ => throw (Failure.wrongType ("a bytes-like object is required, not '" ++ item.typeName ++ "'"))
  | _ => throw (Failure.wrongType ("argument of type '" ++ container.typeName ++ "' is not iterable"))

end Dashwright.Value
