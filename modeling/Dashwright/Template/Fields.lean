import Dashwright.Template.Access
import Dashwright.Value.Spec

/-!
Replacement fields of a text's `format` and `format_map`.

A format text is literal text with fields `{name!conversion:spec}`; `{{` and `}}` stand for
single braces. A field's name is a number, a word, or nothing (the next number), followed by
`.attribute` and `[key]` steps; numbers index the positional arguments and words look up the
keyword arguments or the mapping given. Numbering by count and by hand cannot be mixed. The
conversion `r`, `s` or `a` writes the value as its literal, its text or its ASCII literal, and
the spec, whose own fields are filled first (one level deep), formats the result.

The text is read from left to right and each field is filled when it is reached, so a field
that fails stops before any later field is read.
-/

namespace Dashwright.Template

open Value

/-- How fields without a number are numbered: not yet decided, by count from the next
number, or by hand. -/
inductive Numbering where
  | undecided
  | counted (next : Nat)
  | manual
deriving Inhabited

/-- Where fields find their values: the positional arguments (none for `format_map`), and what
names look up, the keyword arguments or a mapping. -/
structure FieldSource where
  positional : Option (List Value)
  keywords : List (String × Value)
  mapping : Option Value

/-- One step of a format text: literal text alone, or literal text followed by a field
(its name, conversion, spec and whether the spec holds fields of its own); with the rest. -/
inductive Markup where
  | text (literal : String) (rest : List Char)
  | field (literal : String) (name : String) (conversion : Option Char) (spec : String)
      (nested : Bool) (rest : List Char)

/-- Reads a field's spec after its colon up to the brace that closes the field, braces inside
nesting: the spec, whether it holds a brace, and the rest. -/
def readSpecText : List Char → Nat → Bool → List Char → Outcome (String × Bool × List Char)
  | [], _, _, _ => throw (Failure.badValue "unmatched '\x7b' in format spec")
  | '{' :: rest, depth, _, acc => readSpecText rest (depth + 1) true ('{' :: acc)
  | '}' :: rest, depth, nested, acc =>
    if depth == 0 then pure (String.ofList acc.reverse, nested, rest)
    else readSpecText rest (depth - 1) nested ('}' :: acc)
  | c :: rest, depth, nested, acc => readSpecText rest depth nested (c :: acc)

/-- Reads a field's name: up to `}`, `:` or `!`, the contents of brackets taken whole. Gives
the name, the character that ended it and the rest after it. -/
def readFieldName : List Char → Bool → List Char → Outcome (String × Char × List Char)
  | [], _, _ => throw (Failure.badValue "expected '\x7d' before end of string")
  | c :: rest, true, acc => readFieldName rest (c != ']') (c :: acc)
  | '{' :: _, false, _ => throw (Failure.badValue "unexpected '\x7b' in field name")
  | c :: rest, false, acc =>
    if c == '}' || c == ':' || c == '!' then pure (String.ofList acc.reverse, c, rest)
    else readFieldName rest (c == '[') (c :: acc)

def readField (literal : String) (cs : List Char) : Outcome Markup := do
  let (name, stop, rest) ← readFieldName cs false []
  match stop with
  | '}' => pure (.field literal name Option.none "" false rest)
  | ':' =>
    let (spec, nested, rest) ← readSpecText rest 0 false []
    pure (.field literal name Option.none spec nested rest)
  | _ =>
    match rest with
    | [] => throw (Failure.badValue "end of string while looking for conversion specifier")
    | conv :: more =>
      match more with
      | '}' :: rest => pure (.field literal name (some conv) "" false rest)
      | ':' :: rest =>
        let (spec, nested, rest) ← readSpecText rest 0 false []
        pure (.field literal name (some conv) spec nested rest)
      | [] =>
        let (spec, nested, rest) ← readSpecText [] 0 false []
        pure (.field literal name (some conv) spec nested rest)
      | _ => throw (Failure.badValue "expected ':' after conversion specifier")

/-- Reads the next step of a format text, or nothing at its end. -/
def nextMarkup (cs : List Char) : Outcome (Option Markup) := do
  if cs.isEmpty then return Option.none
  let (lit, after) := cs.span (fun c => c != '{' && c != '}')
  let literal := String.ofList lit
  match after with
  | [] => pure (some (.text literal []))
  | '}' :: '}' :: rest => pure (some (.text (literal ++ "\x7d") rest))
  | '}' :: _ => throw (Failure.badValue "Single '\x7d' encountered in format string")
  | '{' :: [] => throw (Failure.badValue "Single '\x7b' encountered in format string")
  | '{' :: '{' :: rest => pure (some (.text (literal ++ "\x7b") rest))
  | _ :: rest => some <$> readField literal rest

/-- A field number: all decimal digits of any script, or none for anything else. -/
def fieldNumber (cs : List Char) : Outcome (Option Nat) := do
  if cs.isEmpty then return Option.none
  let (v, _, rest) ← readDigits cs 0 0
  pure (if rest.isEmpty then some v else Option.none)

/-- The name of a value's type in messages about attributes and items. -/
def objectTypeName (v : Value) : String :=
  match v with
  | .date _ => "datetime.date"
  | .moment _ => "datetime.datetime"
  | _ => v.typeName

/-- `value.name`, for the data attributes that values have. -/
def fieldAttribute (v : Value) (name : String) : Outcome Value :=
  match propertyOf v name with
  | some a => pure a
  | Option.none =>
    if (methodsOf v).contains name then
      throw (Failure.make .unsupported (objectTypeName v ++ "." ++ name ++ " as a field"))
    else match v with
      | .classObject n =>
        throw (Failure.make .missingAttribute ("type object '" ++ className n ++ "' has no attribute '" ++
          name ++ "'"))
      | _ =>
        throw (Failure.make .missingAttribute ("'" ++ objectTypeName v ++ "' object has no attribute '" ++
          name ++ "'"))

/-- `value[key]` for a text key. -/
def itemByName (v : Value) (key : String) : Outcome Value :=
  match v with
  | .map es _ =>
    match lookupEntry (.str key) es with
    | some x => pure x
    | Option.none => throw (Failure.missingKey (quoteText key))
  | .list _ => throw (Failure.wrongType "list indices must be integers or slices, not str")
  | .tuple _ => throw (Failure.wrongType "tuple indices must be integers or slices, not str")
  | .range _ _ _ => throw (Failure.wrongType "range indices must be integers or slices, not str")
  | .str _ => throw (Failure.wrongType "string indices must be integers, not 'str'")
  | .bytes _ => throw (Failure.wrongType "byte indices must be integers or slices, not str")
  | _ => throw (Failure.wrongType ("'" ++ objectTypeName v ++ "' object is not subscriptable"))

/-- `value[number]`: an item of a sequence, or a mapping's value under the integer. -/
def itemByNumber (v : Value) (i : Nat) : Outcome Value :=
  let outOfRange (what : String) : Failure := Failure.make .badIndex what
  match v with
  | .list xs => match xs[i]? with
    | some x => pure x
    | Option.none => throw (outOfRange "list index out of range")
  | .tuple xs => match xs[i]? with
    | some x => pure x
    | Option.none => throw (outOfRange "tuple index out of range")
  | .str s => match s.toList[i]? with
    | some c => pure (.str (String.singleton c))
    | Option.none => throw (outOfRange "string index out of range")
  | .bytes bs => match bs[i]? with
    | some b => pure (.int b.toNat)
    | Option.none => throw (outOfRange "index out of range")
  | .range a b s => match (Value.rangeItems a b s)[i]? with
    | some x => pure (.int x)
    | Option.none => throw (outOfRange "range object index out of range")
  | .map es _ =>
    match lookupEntry (.int i) es with
    | some x => pure x
    | Option.none => throw (Failure.missingKey (toString i))
  | _ => throw (Failure.wrongType ("'" ++ objectTypeName v ++ "' object is not subscriptable"))

/-- Follows a field's `.attribute` and `[key]` steps from a value. -/
def followSteps : Nat → Value → List Char → Outcome Value
  | 0, v, _ => pure v
  | _, v, [] => pure v
  | fuel + 1, v, '.' :: cs => do
    let attr := cs.takeWhile (fun c => c != '.' && c != '[')
    if attr.isEmpty then throw (Failure.badValue "Empty attribute in format string")
    followSteps fuel (← fieldAttribute v (String.ofList attr)) (cs.drop attr.length)
  | fuel + 1, v, '[' :: cs => do
    let (key, more) := cs.span (· != ']')
    if more.isEmpty then throw (Failure.badValue "Missing ']' in format string")
    let number ← fieldNumber key
    if key.isEmpty then throw (Failure.badValue "Empty attribute in format string")
    let item ← match number with
      | some i => itemByNumber v i
      | Option.none => itemByName v (String.ofList key)
    followSteps fuel item (more.drop 1)
  | _ + 1, _, _ => throw (Failure.badValue "Only '.' or '[' may follow ']' in format field specifier")

/-- The value a name looks up: a keyword argument, or the mapping's item. -/
def FieldSource.named (src : FieldSource) (name : String) : Outcome Value :=
  match src.mapping with
  | some m => itemByName m name
  | Option.none =>
    match src.keywords.find? (·.1 == name) with
    | some (_, v) => pure v
    | Option.none => throw (Failure.missingKey (quoteText name))

/-- The value of a field's name, and the numbering after it. -/
def resolveField (src : FieldSource) (name : String) (numbering : Numbering) :
    Outcome (Value × Numbering) := do
  let cs := name.toList
  let first := cs.takeWhile (fun c => c != '.' && c != '[')
  let number ← fieldNumber first
  let (number, numbering) ← match first.isEmpty, number, numbering with
    | true, _, .undecided => pure (some 0, Numbering.counted 1)
    | true, _, .counted n => pure (some n, Numbering.counted (n + 1))
    | true, _, .manual =>
      throw (Failure.badValue "cannot switch from manual field specification to automatic field numbering")
    | false, some _, .counted _ =>
      throw (Failure.badValue "cannot switch from automatic field numbering to manual field specification")
    | false, some i, _ => pure (some i, Numbering.manual)
    | false, Option.none, _ => pure (Option.none, numbering)
  let start ← match number with
    | some i =>
      match src.positional with
      | Option.none => throw (Failure.badValue "Format string contains positional fields")
      | some args =>
        match args[i]? with
        | some v => pure v
        | Option.none => throw (Failure.make .badIndex ("Replacement index " ++ toString i ++
            " out of range for positional args tuple"))
    | Option.none => src.named (String.ofList first)
  let v ← followSteps (cs.length + 1) start (cs.drop first.length)
  pure (v, numbering)

/-- A value under a field's conversion: `r` its literal, `s` its text, `a` its ASCII literal. -/
def convertField (v : Value) : Option Char → Outcome Value
  | Option.none => pure v
  | some 'r' => pure (.str v.repr)
  | some 's' => do pure (.str (← v.display))
  | some 'a' => pure (.str (asciiText v.repr))
  | some c =>
    if 32 < c.toNat && c.toNat < 127 then
      throw (Failure.badValue ("Unknown conversion specifier " ++ String.singleton c))
    else throw (Failure.badValue ("Unknown conversion specifier \\x" ++ String.ofList (Nat.toDigits 16 c.toNat)))

/-- Fills the fields of a format text read from a point on, appending to `out`; `inner` fills
the fields of a spec. -/
def fillFrom (src : FieldSource) (inner : List Char → Numbering → Outcome (String × Numbering)) :
    Nat → List Char → Numbering → String → Outcome (String × Numbering)
  | 0, _, numbering, out => pure (out, numbering)
  | fuel + 1, cs, numbering, out => do
    match ← nextMarkup cs with
    | Option.none => pure (out, numbering)
    | some (.text literal rest) => fillFrom src inner fuel rest numbering (out ++ literal)
    | some (.field literal name conv spec nested rest) =>
      let (v, numbering) ← resolveField src name numbering
      let v ← convertField v conv
      let (spec, numbering) ← if nested then inner spec.toList numbering else pure (spec, numbering)
      let text ← formatValue v spec
      fillFrom src inner fuel rest numbering (out ++ literal ++ text)

/-- Fills the fields of a format text, with `depth` levels of specs holding fields. -/
def fillFields (src : FieldSource) : Nat → List Char → Numbering → Outcome (String × Numbering)
  | 0, _, _ => throw (Failure.badValue "Max string recursion exceeded")
  | depth + 1, cs, numbering => fillFrom src (fillFields src depth) (cs.length + 1) cs numbering ""

/-- `text.format(*args, **kwargs)`. -/
def formatFields (text : String) (args : List Value) (kwargs : List (String × Value)) :
    Outcome String := do
  let (out, _) ← fillFields ⟨some args, kwargs, Option.none⟩ 2 text.toList .undecided
  pure out

/-- `text.format_map(mapping)`. -/
def formatMapFields (text : String) (mapping : Value) : Outcome String := do
  let (out, _) ← fillFields ⟨Option.none, [], some mapping⟩ 2 text.toList .undecided
  pure out

end Dashwright.Template
