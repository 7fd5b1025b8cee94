import Dashwright.Value.Percent
import Dashwright.Time.Stamp

/-!
Values written by a format specification, the text after the colon of a replacement field:

    [[fill]align][sign][z][#][0][width][grouping][.precision][type]

The alignment is `<`, `>`, `^` or `=` (fill between the sign and the digits), the fill any
character before it. The sign is `+`, `-` or a blank; `z` turns a negative zero into a
positive one; `#` asks for the alternate form (a base prefix, a kept decimal point); a `0`
before the width, when no fill is given, fills with zeros and, for numbers without an
alignment, aligns by `=`. Widths and precisions are decimal digits of any script. The
grouping `,` or `_` separates groups of three digits, or of four for `_` in binary, octal and
hexadecimal.

Texts take the type `s`; integers `b`, `c`, `d`, `o`, `x`, `X`, `n` and the floating types,
which they reach as doubles; doubles `e`, `E`, `f`, `F`, `g`, `G`, `n`, `%`, or no type,
which is the shortest text or, with a precision, `g` with at least one digit after the point
and an exponent from `precision - 1` on. Complex numbers take the floating types but `%`;
dates and moments take a `%` time format. Any other value takes only the empty
specification, which gives its display text.
-/

namespace Dashwright.Value

open Number

/-- A format specification, its fill and alignment settled for the kind of value it formats. -/
structure FormatSpec where
  fill : Char
  align : Char
  sign : Option Char
  noNegZero : Bool
  alternate : Bool
  width : Option Nat
  grouping : Option Char
  precision : Option Nat
  kind : Option Char
deriving Inhabited

/-- A type character as messages quote it: itself between 33 and 127, else its code. -/
def codeText (c : Char) : String :=
  if 32 < c.toNat && c.toNat < 128 then "'" ++ String.singleton c ++ "'"
  else "'\\x" ++ String.ofList (Nat.toDigits 16 c.toNat) ++ "'"

def isAlignChar (c : Char) : Bool := c == '<' || c == '>' || c == '=' || c == '^'

/-- Reads decimal digits of any script: their value, their count and the rest. A value past
the largest signed 64-bit integer is refused. -/
def readDigits : List Char → Nat → Nat → Outcome (Nat × Nat × List Char)
  | [], v, n => pure (v, n, [])
  | c :: rest, v, n =>
    match Text.decimalValue? c with
    | some d =>
      if v * 10 + d > 9223372036854775807 then
        throw (Failure.badValue "Too many decimal digits in format string")
      else readDigits rest (v * 10 + d) (n + 1)
    | Option.none => pure (v, n, c :: rest)

/-- Reads a format specification for a value of a type, with the type's default type
character and alignment. -/
def parseSpec (spec : String) (typeName : String) (defaultKind : Option Char)
    (defaultAlign : Char) : Outcome FormatSpec := do
  let cs := spec.toList
  let (fill, align, cs) : Option Char × Option Char × List Char :=
    match cs with
    | f :: a :: rest =>
      if isAlignChar a then (some f, some a, rest)
      else if isAlignChar f then (Option.none, some f, a :: rest)
      else (Option.none, Option.none, cs)
    | [a] => if isAlignChar a then (Option.none, some a, []) else (Option.none, Option.none, cs)
    | [] => (Option.none, Option.none, [])
  let (sign, cs) : Option Char × List Char :=
    match cs with
    | c :: rest => if c == '+' || c == '-' || c == ' ' then (some c, rest) else (Option.none, cs)
    | [] => (Option.none, [])
  let (noNegZero, cs) := match cs with
    | 'z' :: rest => (true, rest)
    | _ => (false, cs)
  let (alternate, cs) := match cs with
    | '#' :: rest => (true, rest)
    | _ => (false, cs)
  let (zero, cs) := match fill, cs with
    | Option.none, '0' :: rest => (true, rest)
    | _, _ => (false, cs)
  let (width, widthDigits, cs) ← readDigits cs 0 0
  let both := Failure.badValue "Cannot specify both ',' and '_'."
  let (grouping, cs) : Option Char × List Char := match cs with
    | ',' :: rest => (some ',', rest)
    | _ => (Option.none, cs)
  let (grouping, cs) ← match cs with
    | '_' :: rest => if grouping.isSome then throw both else pure (some '_', rest)
    | _ => pure (grouping, cs)
  match grouping, cs with
  | some '_', ',' :: _ => throw both
  | _, _ => pure ()
  let (precision, cs) ← match cs with
    | '.' :: rest => do
      let (p, digits, rest) ← readDigits rest 0 0
      if digits == 0 then throw (Failure.badValue "Format specifier missing precision")
      pure (some p, rest)
    | _ => pure (Option.none, cs)
  let kind ← match cs with
    | [] => pure defaultKind
    | [c] => pure (some c)
    | _ => throw (Failure.badValue ("Invalid format specifier '" ++ spec ++ "' for object of type '" ++
        typeName ++ "'"))
  match grouping, kind with
  | some g, some k =>
    let allowed := "defgEGF%".toList.contains k || (g == '_' && "boxX".toList.contains k)
    if !allowed then
      throw (Failure.badValue ("Cannot specify '" ++ String.singleton g ++ "' with " ++ codeText k ++ "."))
  | _, _ => pure ()
  pure {
    fill := fill.getD (if zero then '0' else ' ')
    align := align.getD (if zero && defaultAlign == '>' then '=' else defaultAlign)
    sign, noNegZero, alternate
    width := if widthDigits == 0 then Option.none else some width
    grouping, precision, kind }

/-- The failure of a type character that a type does not know. -/
def unknownCode (c : Char) (typeName : String) : Failure :=
  Failure.badValue ("Unknown format code " ++ codeText c ++ " for object of type '" ++ typeName ++ "'")

def fillText (c : Char) (n : Nat) : String := String.ofList (List.replicate n c)

/-- A text brought to the width, placed as the alignment says. -/
def padded (text : String) (sp : FormatSpec) : String :=
  let gap := sp.width.getD 0 - text.length
  let left := if sp.align == '>' then gap else if sp.align == '^' then gap / 2 else 0
  fillText sp.fill left ++ text ++ fillText sp.fill (gap - left)

/-- Digits in groups of `size` from the right joined by `sep`, zeros added in front, in whole
groups and separators, until the text is at least `minWidth` long. -/
def groupDigits (digits : List Char) (minWidth : Int) (size : Nat) (sep : Char) : List Char :=
  let rec go : Nat → List Char → Int → Bool → List Char → List Char
    | 0, _, _, _, acc => acc
    | fuel + 1, rev, want, first, acc =>
      let remaining := rev.length
      let len := min size (max (max remaining want.toNat) 1)
      let chars := min remaining len
      let group := List.replicate (len - remaining) '0' ++ (rev.take chars).reverse
      let acc := if first then group else group ++ sep :: acc
      let rev := rev.drop chars
      let want := want - len
      if rev.isEmpty && want ≤ 0 then acc else go fuel rev (want - 1) false acc
  go (digits.length + minWidth.toNat + 2) digits.reverse (max minWidth 0) true []

/-- Digits with zeros in front up to `minWidth`, with no grouping. -/
def leadingZeros (digits : List Char) (minWidth : Int) : List Char :=
  List.replicate (max (max digits.length minWidth.toNat) 1 - digits.length) '0' ++ digits

/-- Lays out a number from its parts: the sign (when negative or asked for), a prefix such
as `0x`, the integer digits (grouped, and with zeros in front when zeros fill by `=`), the
decimal point and what follows it. The width is filled as the alignment says; `=` fills
between the prefix and the digits. `upper` writes the prefix and digits in capitals. -/
def layoutNumber (sp : FormatSpec) (negative : Bool) (pre : String) (digits : List Char)
    (point : Bool) (rest : String) (group : Option (Nat × Char)) (upper : Bool) : String :=
  let sign : String := match sp.sign with
    | some '+' => if negative then "-" else "+"
    | some ' ' => if negative then "-" else " "
    | _ => if negative then "-" else ""
  let others := sign.length + pre.length + (if point then 1 else 0) + rest.length
  let width : Int := match sp.width with
    | some w => w
    | Option.none => -1
  let minWidth : Int := if sp.fill == '0' && sp.align == '=' then width - others else 0
  let grouped : List Char :=
    if digits.isEmpty then []
    else match group with
      | some (size, sep) => groupDigits digits minWidth size sep
      | Option.none => leadingZeros digits minWidth
  let gap := (width - ((others + grouped.length : Nat) : Int)).toNat
  let (lpad, spad, rpad) : Nat × Nat × Nat := match sp.align with
    | '<' => (0, 0, gap)
    | '^' => (gap / 2, 0, gap - gap / 2)
    | '=' => (0, gap, 0)
    | _ => (gap, 0, 0)
  let up (s : String) : String := if upper then s.toUpper else s
  fillText sp.fill lpad ++ sign ++ up pre ++ fillText sp.fill spad ++ up (String.ofList grouped) ++
    (if point then "." else "") ++ rest ++ fillText sp.fill rpad

/-- Lays out the text of a double without its sign: its leading digits, then a point and the
rest. -/
def layoutFloat (sp : FormatSpec) (negative : Bool) (body : String) (group : Option (Nat × Char)) :
    String :=
  let cs := body.toList
  let digits := cs.takeWhile Char.isDigit
  let (point, rest) : Bool × List Char := match cs.drop digits.length with
    | '.' :: r => (true, r)
    | r => (false, r)
  layoutNumber sp negative "" digits point (String.ofList rest) group false

def FormatSpec.groupFor (sp : FormatSpec) (base : Nat) : Option (Nat × Char) :=
  match sp.grouping with
  | some ',' => some (3, ',')
  | some g => some (if base == 10 then 3 else 4, g)
  | Option.none => Option.none

def formatInteger (i : Int) (sp : FormatSpec) : Outcome String := do
  if sp.precision.isSome then
    throw (Failure.badValue "Precision not allowed in integer format specifier")
  if sp.noNegZero then
    throw (Failure.badValue "Negative zero coercion (z) not allowed in integer format specifier")
  if sp.kind == some 'c' then
    if sp.sign.isSome then throw (Failure.badValue "Sign not allowed with integer format specifier 'c'")
    if sp.alternate then
      throw (Failure.badValue "Alternate form (#) not allowed with integer format specifier 'c'")
    if i < -9223372036854775808 || i > 9223372036854775807 then
      throw ⟨.overflow, some "Python int too large to convert to C long"⟩
    if i < 0 || i > 0x10ffff then throw ⟨.overflow, some "%c arg not in range(0x110000)"⟩
    return layoutNumber sp false "" [] false (String.singleton (Char.ofNat i.toNat)) Option.none false
  let base := match sp.kind with
    | some 'b' => 2
    | some 'o' => 8
    | some 'x' | some 'X' => 16
    | _ => 10
  let pre := if !sp.alternate then "" else match base with
    | 2 => "0b"
    | 8 => "0o"
    | 16 => "0x"
    | _ => ""
  pure (layoutNumber sp (i < 0) pre (Nat.toDigits base i.natAbs) false "" (sp.groupFor base)
    (sp.kind == some 'X'))

/-- The shortest text of a non-negative double; without `addDot` an integral value has no
`.0`, and `alternate` keeps a point before an exponent. -/
def shortestText (a : Float) (alternate addDot : Bool) : String :=
  let t := if addDot then floatText a else complexPartText a
  let (mant, expo) := t.toList.span (· != 'e')
  if alternate && !mant.contains '.' then String.ofList (mant ++ ['.'] ++ expo) else t

/-- A non-negative double with `precision` significant digits, fixed or with an exponent,
whichever the exponent calls for. Zeros at the end are dropped unless `alternate`; with
`addDot` the exponent comes one place sooner and a fixed text keeps a digit after its point. -/
def generalText (a : Float) (precision : Nat) (alternate addDot : Bool) : String :=
  let p := if precision == 0 then 1 else precision
  let (m, d) := magnitude a
  let k := if m == 0 then (0 : Int) else (significantDigits m d p).2
  let limit : Int := if addDot then (p : Int) - 1 else p
  if -4 ≤ k ∧ k < limit then
    let s := fixedDigits a (p - 1 - k).toNat alternate
    let s := if alternate then s else trimFraction s
    if addDot && !s.contains '.' then s ++ ".0" else s
  else
    let s := scientificDigits a (p - 1) alternate 'e'
    if alternate then s
    else
      let (mant, rest) := s.toList.span (· != 'e')
      trimFraction (String.ofList mant) ++ String.ofList rest

/-- A non-negative double by a presentation mode (`r` for the shortest text, `e`, `f`, `g`, or
the capitals of the last three), or `inf` and `nan`. -/
def floatDigits (a : Float) (mode : Char) (precision : Nat) (alternate addDot : Bool) : String :=
  let body :=
    if a.isNaN then "nan"
    else if a.isInf then "inf"
    else match mode.toLower with
      | 'e' => scientificDigits a precision alternate 'e'
      | 'f' => fixedDigits a precision alternate
      | 'g' => generalText a precision alternate addDot
      | _ => shortestText a alternate addDot
  if mode == 'E' || mode == 'F' || mode == 'G' then body.toUpper else body

/-- Whether a double is written with a minus: a negative number or zero, but no NaN, and not
when `noNegZero` and its digits are all zeros. -/
def writtenNegative (x : Float) (noNegZero : Bool) (body : String) : Bool :=
  let negative := !x.isNaN && (x < 0 || (x == 0 && 1.0 / x < 0))
  let mantissa := body.toList.takeWhile (fun c => c != 'e' && c != 'E')
  if noNegZero && !x.isInf && mantissa.all (fun c => !c.isDigit || c == '0') then false else negative

/-- The mode and precision a floating type asks for, whether it is a percentage, and whether an
integral result keeps `.0`. -/
def floatMode (sp : FormatSpec) : Char × Nat × Bool × Bool :=
  let (mode, percent, addDot, byDefault) : Char × Bool × Bool × Nat :=
    match sp.kind with
    | Option.none => ('r', false, true, 0)
    | some 'n' => ('g', false, false, 6)
    | some '%' => ('f', true, false, 6)
    | some c => (c, false, false, 6)
  match sp.precision with
  | some p => (if mode == 'r' then 'g' else mode, p, percent, addDot)
  | Option.none => (mode, byDefault, percent, addDot)

def formatFloat (x : Float) (sp : FormatSpec) : Outcome String := do
  if sp.precision.getD 0 > 2147483647 then throw (Failure.badValue "precision too big")
  let (mode, precision, percent, addDot) := floatMode sp
  let value := if percent then x * 100.0 else x
  let body := floatDigits (Float.abs value) mode precision sp.alternate addDot
  let negative := writtenNegative value sp.noNegZero body
  pure (layoutFloat sp negative (if percent then body ++ "%" else body) (sp.groupFor 10))

/-- A complex number by a floating type: both parts alike, the imaginary one always signed and
followed by `j`; without a type, like its literal (no real part when that is a positive zero,
else both in parentheses). The whole is brought to the width; zeros and `=` do not fill. -/
def formatComplex (re im : Float) (sp : FormatSpec) : Outcome String := do
  if sp.precision.getD 0 > 2147483647 then throw (Failure.badValue "precision too big")
  if sp.fill == '0' then
    throw (Failure.badValue "Zero padding is not allowed in complex format specifier")
  if sp.align == '=' then
    throw (Failure.badValue "'=' alignment flag is not allowed in complex format specifier")
  let positiveZero := re == 0 && !(1.0 / re < 0)
  let (skipReal, parens) := if sp.kind.isNone then (positiveZero, !positiveZero) else (false, false)
  let (mode, precision, _, _) := floatMode sp
  let part : FormatSpec := { sp with fill := ' ', align := '<', width := Option.none }
  let text (x : Float) (partSpec : FormatSpec) : String :=
    let body := floatDigits (Float.abs x) mode precision sp.alternate false
    layoutFloat partSpec (writtenNegative x sp.noNegZero body) body (sp.groupFor 10)
  let realText := if skipReal then "" else text re part
  let imagText := text im (if skipReal then part else { part with sign := some '+' })
  let body := realText ++ imagText ++ "j"
  pure (padded (if parens then "(" ++ body ++ ")" else body) sp)

/-- A text by a specification of type `s`: cut to the precision and brought to the width. -/
def formatText (s : String) (spec : String) : Outcome String := do
  if spec.isEmpty then return s
  let sp ← parseSpec spec "str" (some 's') '<'
  match sp.kind with
  | some 's' => pure ()
  | some c => throw (unknownCode c "str")
  | Option.none => pure ()
  if let some c := sp.sign then
    throw (Failure.badValue (if c == ' ' then "Space not allowed in string format specifier"
      else "Sign not allowed in string format specifier"))
  if sp.noNegZero then
    throw (Failure.badValue "Negative zero coercion (z) not allowed in string format specifier")
  if sp.alternate then throw (Failure.badValue "Alternate form (#) not allowed in string format specifier")
  if sp.align == '=' then throw (Failure.badValue "'=' alignment not allowed in string format specifier")
  let cut := match sp.precision with
    | some p => String.ofList (s.toList.take p)
    | Option.none => s
  pure (padded cut sp)

/-- An integer (of type `int` or `bool`) by a specification: integer types directly, floating
types through the double nearest to it. -/
def formatIntegral (i : Int) (typeName : String) (spec : String) : Outcome String := do
  let sp ← parseSpec spec typeName (some 'd') '>'
  match sp.kind with
  | some 'b' | some 'c' | some 'd' | some 'o' | some 'x' | some 'X' | some 'n' => formatInteger i sp
  | some 'e' | some 'E' | some 'f' | some 'F' | some 'g' | some 'G' | some '%' =>
    formatFloat (← floatArgument (.int i)) sp
  | some c => throw (unknownCode c typeName)
  | Option.none => formatInteger i sp

def formatValue (v : Value) (spec : String) : Outcome String := do
  match v with
  | .str s => formatText s spec
  | .int i => if spec.isEmpty then pure (toString i) else formatIntegral i "int" spec
  | .bool b =>
    if spec.isEmpty then pure (if b then "True" else "False")
    else formatIntegral (if b then 1 else 0) "bool" spec
  | .float x =>
    if spec.isEmpty then return floatText x
    let sp ← parseSpec spec "float" Option.none '>'
    match sp.kind with
    | Option.none | some 'e' | some 'E' | some 'f' | some 'F' | some 'g' | some 'G' | some 'n'
    | some '%' => formatFloat x sp
    | some c => throw (unknownCode c "float")
  | .complex re im =>
    if spec.isEmpty then return complexLiteral re im
    let sp ← parseSpec spec "complex" Option.none '>'
    match sp.kind with
    | Option.none | some 'e' | some 'E' | some 'f' | some 'F' | some 'g' | some 'G' | some 'n' =>
      formatComplex re im sp
    | some c => throw (unknownCode c "complex")
  | .date d => if spec.isEmpty then v.display else pure (Time.Moment.format ⟨d, 0, 0, 0, 0, Option.none⟩ spec)
  | .moment m => if spec.isEmpty then v.display else pure (Time.Moment.format m spec)
  | _ =>
    if spec.isEmpty then v.display
    else throw (Failure.wrongType ("unsupported format string passed to " ++ v.typeName ++ ".__format__"))

end Dashwright.Value
