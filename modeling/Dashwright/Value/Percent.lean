import Dashwright.Number.Fixed
import Dashwright.Value.Access

/-!
Text formatting by `%` conversions: `format % args` where `args` is one value, a tuple of
values, or a mapping for conversions that name a key as `%(key)s`. A conversion is written
`%[(key)][flags][width][.precision][h|l|L]type` with the flags `-` (left justify), `+`, blank
(sign), `#` (alternate form) and `0` (zero fill); `*` takes a width or precision from the
arguments. Texts take `s`, `r` and `a`; integers `d`, `i`, `u`, `o`, `x`, `X`; doubles `e`,
`E`, `f`, `F`, `g`, `G`; a character `c`. Every argument of a tuple must be used.
-/

namespace Dashwright.Value

open Number

/-- One conversion as written: its flags, width, precision and type character. -/
structure Conversion where
  flags : List Char
  width : Option Nat
  precision : Option Nat
  kind : Char

/-- Where conversions take their arguments from: the items of a tuple, or one value used
once, and the mapping that keyed conversions look up. -/
structure Arguments where
  source : Value
  items : List Value
  index : Int
  count : Int
  mapping : Option Value

/-- The ASCII form of a text: its literal with each other character escaped. -/
def asciiText (s : String) : String :=
  String.join (s.toList.map fun c =>
    let n := c.toNat
    if n < 128 then String.singleton c
    else if n < 256 then "\\x" ++ hexText 2 n
    else if n < 65536 then "\\u" ++ hexText 4 n
    else "\\U" ++ hexText 8 n)

namespace Arguments

def start (args : Value) : Arguments :=
  let mapping := match args with
    | .map _ _ | .list _ | .bytes _ | .range _ _ _ => some args
    | _ => Option.none
  match args with
  | .tuple xs => ⟨args, xs, 0, xs.length, mapping⟩
  | _ => ⟨args, [], -2, -1, mapping⟩

/-- The next argument, or the failure when there are no more. -/
def next (a : Arguments) : Outcome (Value × Arguments) :=
  if a.index < a.count then
    let v := if a.count < 0 then a.source else a.items.getD a.index.toNat .none
    pure (v, { a with index := a.index + 1 })
  else throw (Failure.wrongType "not enough arguments for format string")

/-- Makes the value under a key the one argument of the conversions that follow. -/
def select (a : Arguments) (key : String) : Outcome Arguments :=
  match a.mapping with
  | Option.none => throw (Failure.wrongType "format requires a mapping")
  | some (.map es _) =>
    match lookupEntry (.str key) es with
    | some v => pure { a with source := v, items := [], index := -2, count := -1 }
    | Option.none => throw (Failure.missingKey (quoteText key))
  | some (.bytes _) => throw (Failure.wrongType "byte indices must be integers or slices, not str")
  | some (.range _ _ _) => throw (Failure.wrongType "range indices must be integers or slices, not str")
  | some _ => throw (Failure.wrongType "list indices must be integers or slices, not str")

end Arguments

/-- The digits of an integer in a base, in lower case. -/
def digitsIn (base : Nat) (n : Nat) : String :=
  String.ofList (Nat.toDigits base n)

/-- An integer under an integer conversion: sign, alternate lead and at least `precision`
digits. -/
def integerText (i : Int) (c : Conversion) : String :=
  let base := match c.kind with | 'o' => 8 | 'x' | 'X' => 16 | _ => 10
  let ds := digitsIn base i.natAbs
  let ds := match c.precision with
    | some p => if ds.length < p then zeros (p - ds.length) ++ ds else ds
    | Option.none => ds
  let ds := if c.kind == 'X' then ds.toUpper else ds
  let lead := if c.flags.contains '#' then
      (match c.kind with | 'o' => "0o" | 'x' => "0x" | 'X' => "0X" | _ => "") else ""
  (if i < 0 then "-" else "") ++ lead ++ ds

/-- A double under a floating conversion, with a sign when negative. -/
def floatingText (f : Float) (c : Conversion) : String :=
  let p := c.precision.getD 6
  let alt := c.flags.contains '#'
  let upper := c.kind == 'E' || c.kind == 'F' || c.kind == 'G'
  let body :=
    if f.isNaN then "nan"
    else if f.isInf then "inf"
    else match c.kind.toLower with
      | 'e' => scientificDigits f p alt 'e'
      | 'f' => fixedDigits f p alt
      | _ => generalDigits f p alt 'e'
  let body := if upper then body.toUpper else body
  let negative := !f.isNaN && (f < 0 || (f == 0 && 1.0 / f < 0))
  (if negative then "-" else "") ++ body

/-- The number under an integer conversion: integers as they are, doubles cut toward zero. -/
def integerArgument (v : Value) (c : Conversion) : Outcome Int := do
  let wrong := if c.kind == 'o' || c.kind == 'x' || c.kind == 'X' then
      "%" ++ String.singleton c.kind ++ " format: an integer is required, not " ++ v.typeName
    else "%" ++ String.singleton c.kind ++ " format: a real number is required, not " ++ v.typeName
  match v with
  | .int i => pure i
  | .bool b => pure (if b then 1 else 0)
  | .float f =>
    if c.kind == 'o' || c.kind == 'x' || c.kind == 'X' then throw (Failure.wrongType wrong)
    else if f.isNaN then throw (Failure.badValue "cannot convert float NaN to integer")
    else if f.isInf then throw ⟨.overflow, some "cannot convert float infinity to integer"⟩
    else pure (Binary.ofFloat f).truncate
  | _ => throw (Failure.wrongType wrong)

def floatArgument (v : Value) : Outcome Float :=
  match v with
  | .float f => pure f
  | .int i => match intToFloat? i with
    | some f => pure f
    | Option.none => throw ⟨.overflow, some "int too large to convert to float"⟩
  | .bool b => pure (if b then 1.0 else 0.0)
  | _ => throw (Failure.wrongType ("must be real number, not " ++ v.typeName))

/-- The text of one conversion applied to its argument, and whether it is a number (which
takes a sign flag and zero fill). -/
def convert (v : Value) (c : Conversion) : Outcome (String × Bool) := do
  match c.kind with
  | 's' => pure (← v.display, false)
  | 'r' => pure (v.repr, false)
  | 'a' => pure (asciiText v.repr, false)
  | 'd' | 'i' | 'u' | 'o' | 'x' | 'X' => pure (integerText (← integerArgument v c) c, true)
  | 'e' | 'E' | 'f' | 'F' | 'g' | 'G' => pure (floatingText (← floatArgument v) c, true)
  | 'c' =>
    match (match v with | .bool b => Value.int (if b then 1 else 0) | w => w) with
    | .int i =>
      if i < 0 ∨ i ≥ 0x110000 then throw ⟨.overflow, some "%c arg not in range(0x110000)"⟩
      else pure (String.singleton (Char.ofNat i.toNat), false)
    | .str s =>
      if s.length == 1 then pure (s, false)
      else throw (Failure.wrongType "%c requires int or char")
    | _ => throw (Failure.wrongType "%c requires int or char")
  | _ => pure ("", false)

/-- Lays out a converted text: precision cuts texts, a sign is added on request, and the
width is filled with blanks, or with zeros after the sign and lead of a number. -/
def layoutConversion (text : String) (numeric : Bool) (c : Conversion) : String :=
  let cs := text.toList
  let cs := if (c.kind == 's' || c.kind == 'r' || c.kind == 'a') then
      (match c.precision with | some p => cs.take p | Option.none => cs) else cs
  let (sign, body) : List Char × List Char :=
    if numeric then
      match cs with
      | '-' :: r => (['-'], r)
      | '+' :: r => (['+'], r)
      | r => (if c.flags.contains '+' then ['+'] else if c.flags.contains ' ' then [' '] else [], r)
    else ([], cs)
  let (lead, body) : List Char × List Char :=
    if numeric && c.flags.contains '#' && (c.kind == 'x' || c.kind == 'X' || c.kind == 'o') then
      (body.take 2, body.drop 2) else ([], body)
  let width := c.width.getD 0
  let used := sign.length + lead.length + body.length
  let gap := width - used
  let zeroFill := numeric && c.flags.contains '0' && !c.flags.contains '-'
  let out :=
    if c.flags.contains '-' then sign ++ lead ++ body ++ List.replicate gap ' '
    else if zeroFill then sign ++ lead ++ List.replicate gap '0' ++ body
    else List.replicate gap ' ' ++ sign ++ lead ++ body
  String.ofList out

/-- Reads digits; gives their number, if any, and the rest. -/
def readCount (cs : List Char) : Option Nat × List Char :=
  let ds := cs.takeWhile Char.isDigit
  if ds.isEmpty then (Option.none, cs)
  else (some (ds.foldl (fun n d => n * 10 + (d.toNat - 48)) 0), cs.drop ds.length)

/-- Reads a width or precision given as `*`: the next argument, which must be an integer. -/
def starCount (a : Arguments) : Outcome (Int × Arguments) := do
  let (v, a) ← a.next
  match v with
  | .int i => pure (i, a)
  | .bool b => pure (if b then 1 else 0, a)
  | _ => throw (Failure.wrongType "* wants int")

/-- Applies `%` conversions to arguments. -/
def percentFormat (fmt : String) (args : Value) : Outcome String := do
  let total := fmt.length
  let incomplete := Failure.badValue "incomplete format"
  let rec go : Nat → List Char → Arguments → List Char → Outcome (List Char × Arguments)
    | 0, _, a, acc => pure (acc, a)
    | _, [], a, acc => pure (acc, a)
    | fuel + 1, '%' :: '%' :: rest, a, acc => go fuel rest a ('%' :: acc)
    | fuel + 1, '%' :: rest, a, acc => do
      -- a key in parentheses, which may nest
      let (rest, a) ← match rest with
        | '(' :: r =>
          let rec key : Nat → Nat → List Char → List Char → Option (List Char × List Char)
            | 0, _, _, _ => Option.none
            | _, _, [], _ => Option.none
            | f + 1, depth, c :: r, k =>
              if c == ')' then (if depth == 1 then some (k.reverse, r) else key f (depth - 1) r (c :: k))
              else if c == '(' then key f (depth + 1) r (c :: k)
              else key f depth r (c :: k)
          if a.mapping.isNone then throw (Failure.wrongType "format requires a mapping")
          match key (r.length + 1) 1 r [] with
          | Option.none => throw (Failure.badValue "incomplete format key")
          | some (k, r') => pure (r', ← a.select (String.ofList k))
        | r => pure (r, a)
      let flags := rest.takeWhile (fun c => c == '-' || c == '+' || c == ' ' || c == '#' || c == '0')
      let rest := rest.drop flags.length
      let (width, flags, rest, a) ← match rest with
        | '*' :: r => do
          let (w, a) ← starCount a
          pure (some w.natAbs, (if w < 0 then '-' :: flags else flags), r, a)
        | r =>
          let (w, r) := readCount r
          pure (w, flags, r, a)
      let (precision, rest, a) ← match rest with
        | '.' :: '*' :: r => do
          let (p, a) ← starCount a
          pure (some p.toNat, r, a)
        | '.' :: r =>
          let (p, r) := readCount r
          pure (some (p.getD 0), r, a)
        | r => pure (Option.none, r, a)
      let rest := match rest with
        | 'h' :: r | 'l' :: r | 'L' :: r => r
        | r => r
      match rest with
      | [] => throw incomplete
      | k :: r =>
        let c : Conversion := ⟨flags, width, precision, k⟩
        let (v, a) ← a.next
        if k == '%' then go fuel r a ('%' :: acc)
        else if "sradiuoxXeEfFgGc".toList.contains k then
          let (text, numeric) ← convert v c
          go fuel r a ((layoutConversion text numeric c).toList.reverse ++ acc)
        else
          let shown := if 31 ≤ k.toNat ∧ k.toNat ≤ 126 then k else '?'
          throw (Failure.badValue ("unsupported format character '" ++ String.singleton shown ++
            "' (0x" ++ digitsIn 16 k.toNat ++ ") at index " ++ toString (total - r.length - 1)))
    | fuel + 1, c :: rest, a, acc => go fuel rest a (c :: acc)
  let (out, a) ← go (total + 1) fmt.toList (Arguments.start args) []
  if a.index < a.count && a.mapping.isNone then
    throw (Failure.wrongType "not all arguments converted during string formatting")
  pure (String.ofList out.reverse)

end Dashwright.Value
