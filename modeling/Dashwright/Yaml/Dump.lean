import Dashwright.Value.Sort
import Dashwright.Yaml.Resolve

/-!
Writing values as YAML in block style, as far as the first line of a mapping.

A scalar is written plain when its text reads back as the same kind of value and nothing in
it would be taken for syntax; otherwise in single quotes when that can hold it; otherwise in
double quotes, where every character outside printable ASCII is escaped. A long scalar
outside a key is folded at a single space once the line is past eighty columns.

The keys of a mapping are written in sorted order when they can be compared, and in their
own order when not. A key is written on the line of its value when it is a short scalar on
one line; otherwise it follows a `?` on a line of its own.
-/

namespace Dashwright.Yaml

/-- The column past which scalars are folded. -/
def bestWidth : Nat := 80

def isLineBreakChar (c : Char) : Bool :=
  c == '\n' || c == '\x85' || c == '\u2028' || c == '\u2029'

def isWhiteAround (c : Char) : Bool :=
  c == '\x00' || c == ' ' || c == '\t' || c == '\r' || isLineBreakChar c

/-- Which styles can hold a scalar's text. -/
structure Analysis where
  empty : Bool
  multiline : Bool
  blockPlain : Bool
  singleQuoted : Bool
deriving Inhabited

/-- The styles a scalar's text allows: indicators rule out plain text, white space at the
ends or around breaks rules out plain and quoted forms, and any character outside printable
ASCII leaves only double quotes. -/
def analyze (text : String) : Analysis := Id.run do
  let cs := text.toList.toArray
  let n := cs.size
  if n == 0 then return ⟨true, false, true, true⟩
  let mut indicators := text.startsWith "---" || text.startsWith "..."
  let mut lineBreaks := false
  let mut special := false
  let mut leadingSpace := false
  let mut leadingBreak := false
  let mut trailingSpace := false
  let mut trailingBreak := false
  let mut breakSpace := false
  let mut spaceBreak := false
  let mut precededByWhite := true
  let mut followedByWhite := n == 1 || isWhiteAround cs[1]!
  let mut previousSpace := false
  let mut previousBreak := false
  for i in [0:n] do
    let c := cs[i]!
    if i == 0 then
      if "#,[]\x7b\x7d&*!|>'\"%@`".toList.contains c then indicators := true
      if (c == '?' || c == ':') && followedByWhite then indicators := true
      if c == '-' && followedByWhite then indicators := true
    else
      if c == ':' && followedByWhite then indicators := true
      if c == '#' && precededByWhite then indicators := true
    if isLineBreakChar c then lineBreaks := true
    if !(c == '\n' || ('\x20' ≤ c && c ≤ '\x7E')) then special := true
    if c == ' ' then
      if i == 0 then leadingSpace := true
      if i + 1 == n then trailingSpace := true
      if previousBreak then breakSpace := true
      previousSpace := true
      previousBreak := false
    else if isLineBreakChar c then
      if i == 0 then leadingBreak := true
      if i + 1 == n then trailingBreak := true
      if previousSpace then spaceBreak := true
      previousSpace := false
      previousBreak := true
    else
      previousSpace := false
      previousBreak := false
    precededByWhite := isWhiteAround c
    followedByWhite := i + 2 ≥ n || isWhiteAround cs[i + 2]!
  let plainEnds := !(leadingSpace || leadingBreak || trailingSpace || trailingBreak)
  let quotable := !breakSpace && !spaceBreak && !special
  return ⟨false, lineBreaks,
    plainEnds && quotable && !lineBreaks && !indicators && !breakSpace,
    quotable⟩

/-- The ways a scalar is written. -/
inductive Style where
  | plain
  | single
  | double
deriving BEq, Inhabited

/-- The style of a scalar: plain when its text reads back as its own kind and the analysis
allows it, single quotes when they can hold it, double quotes otherwise. A key on the line
of its value must not be empty nor span lines. -/
def chooseStyle (a : Analysis) (readsBack simpleKey : Bool) : Style :=
  if readsBack && !(simpleKey && (a.empty || a.multiline)) && a.blockPlain then .plain
  else if a.singleQuoted && !(simpleKey && a.multiline) then .single
  else .double

/-- The text written so far and where the writer stands. -/
structure Pen where
  out : String
  column : Nat
  whitespace : Bool
  indention : Bool
  indent : Nat

namespace Pen

def start : Pen := ⟨"", 0, true, true, 0⟩

def put (p : Pen) (s : String) : Pen :=
  { p with out := p.out ++ s, column := p.column + s.length }

def breakWith (p : Pen) (br : Char) : Pen :=
  { p with out := p.out.push br, column := 0, whitespace := true, indention := true }

def lineBreak (p : Pen) : Pen := p.breakWith '\n'

/-- Moves to the indentation of the current level, starting a new line unless the pen already
stands in the indentation. -/
def toIndent (p : Pen) : Pen :=
  let p := if !p.indention || p.column > p.indent || (p.column == p.indent && !p.whitespace) then
    p.lineBreak else p
  if p.column < p.indent then
    { p with out := p.out ++ String.ofList (List.replicate (p.indent - p.column) ' '),
             column := p.indent, whitespace := true }
  else p

/-- Writes an indicator, with a space before it when it needs one and the pen is not at white
space. -/
def indicator (p : Pen) (s : String) (needWhitespace whitespace indention : Bool) : Pen :=
  let p := if p.whitespace || !needWhitespace then p.put s else p.put (" " ++ s)
  { p with whitespace := whitespace, indention := p.indention && indention }

end Pen

def slice (cs : Array Char) (a b : Nat) : String := String.ofList ((cs.toList.drop a).take (b - a))

/-- Writes the line breaks of a run, doubling a leading newline as folding requires. -/
def writeBreaks (p : Pen) (run : List Char) : Pen :=
  let p := if run.head? == some '\n' then p.lineBreak else p
  run.foldl (fun p br => p.breakWith br) p

/-- Writes a plain scalar, folding at a single space past the width when `split`. -/
def writePlain (p : Pen) (text : String) (split : Bool) : Pen := Id.run do
  if text.isEmpty then return p
  let cs := text.toList.toArray
  let mut p := if p.whitespace then p else p.put " "
  p := { p with whitespace := false, indention := false }
  let mut spaces := false
  let mut breaks := false
  let mut start := 0
  for e in [0:cs.size + 1] do
    let ch := cs[e]?
    if spaces then
      if ch != some ' ' then
        if start + 1 == e && p.column > bestWidth && split then
          p := { p.toIndent with whitespace := false, indention := false }
        else
          p := p.put (slice cs start e)
        start := e
    else if breaks then
      if !(ch.map isLineBreakChar).getD false then
        p := writeBreaks p ((cs.toList.drop start).take (e - start))
        p := { p.toIndent with whitespace := false, indention := false }
        start := e
    else
      if (ch.map fun c => c == ' ' || isLineBreakChar c).getD true then
        p := p.put (slice cs start e)
        start := e
    if let some c := ch then
      spaces := c == ' '
      breaks := isLineBreakChar c
  return p

/-- Writes a scalar in single quotes, a quote inside written twice. -/
def writeSingleQuoted (p : Pen) (text : String) (split : Bool) : Pen := Id.run do
  let cs := text.toList.toArray
  let mut p := p.indicator "'" true false false
  let mut spaces := false
  let mut breaks := false
  let mut start := 0
  for e in [0:cs.size + 1] do
    let ch := cs[e]?
    if spaces then
      if ch != some ' ' then
        if start + 1 == e && p.column > bestWidth && split && start != 0 && e != cs.size then
          p := p.toIndent
        else
          p := p.put (slice cs start e)
        start := e
    else if breaks then
      if !(ch.map isLineBreakChar).getD false then
        p := writeBreaks p ((cs.toList.drop start).take (e - start))
        p := p.toIndent
        start := e
    else
      if (ch.map fun c => c == ' ' || isLineBreakChar c || c == '\'').getD true then
        if start < e then
          p := p.put (slice cs start e)
          start := e
    if ch == some '\'' then
      p := p.put "''"
      start := e + 1
    if let some c := ch then
      spaces := c == ' '
      breaks := isLineBreakChar c
  return p.indicator "'" false false false

def escapeOf (c : Char) : String :=
  let upperHex (width : Nat) : String := (hexText width c.toNat).toUpper
  match c with
  | '\x00' => "\\0"
  | '\x07' => "\\a"
  | '\x08' => "\\b"
  | '\t' => "\\t"
  | '\n' => "\\n"
  | '\x0B' => "\\v"
  | '\x0C' => "\\f"
  | '\r' => "\\r"
  | '\x1B' => "\\e"
  | '"' => "\\\""
  | '\\' => "\\\\"
  | '\x85' => "\\N"
  | '\xA0' => "\\_"
  | '\u2028' => "\\L"
  | '\u2029' => "\\P"
  | _ =>
    if c.toNat ≤ 0xFF then "\\x" ++ upperHex 2
    else if c.toNat ≤ 0xFFFF then "\\u" ++ upperHex 4
    else "\\U" ++ upperHex 8

def needsEscape (c : Char) : Bool :=
  c == '"' || c == '\\' || c == '\x85' || c == '\u2028' || c == '\u2029' || c == '\uFEFF' ||
    !('\x20' ≤ c && c ≤ '\x7E')

/-- Writes a scalar in double quotes, folding with an escaped line end when `split`. -/
def writeDoubleQuoted (p : Pen) (text : String) (split : Bool) : Pen := Id.run do
  let cs := text.toList.toArray
  let n := cs.size
  let mut p := p.indicator "\"" true false false
  let mut start := 0
  for e in [0:n + 1] do
    let ch := cs[e]?
    if (ch.map needsEscape).getD true then
      if start < e then
        p := p.put (slice cs start e)
        start := e
      if let some c := ch then
        p := p.put (escapeOf c)
        start := e + 1
    if 0 < e && e + 1 < n && (ch == some ' ' || start ≥ e) && p.column + (e - start) > bestWidth && split then
      p := p.put (slice cs start e ++ "\\")
      if start < e then start := e
      p := { p.toIndent with whitespace := false, indention := false }
      if cs[start]? == some ' ' then p := p.put "\\"
  return p.indicator "\"" false false false

/-- The tag and text a value is written with when it is a scalar. -/
def scalarForm : Value → Option (String × String)
  | .none => some (coreTag "null", "null")
  | .bool b => some (coreTag "bool", if b then "true" else "false")
  | .int i => some (coreTag "int", toString i)
  | .float f =>
    let text :=
      if f.isNaN then ".nan"
      else if f.isInf then (if f < 0 then "-.inf" else ".inf")
      else
        let t := (Number.floatText f).toLower
        if !t.contains '.' && t.contains 'e' then t.replace "e" ".0e" else t
    some (coreTag "float", text)
  | .str s => some (coreTag "str", s)
  | .date d => some (coreTag "timestamp", d.iso)
  | .moment m => some (coreTag "timestamp", m.isoWith " ")
  | _ => none

/-- The short form of a tag in the YAML namespace. -/
def shortTag (tag : String) : String :=
  let core := coreTag ""
  if tag.startsWith core then "!!" ++ (tag.drop core.length).copy else tag

/-- A value as the node it is written as: a scalar with its tag and text, or a collection
with its tag when that is not the plain sequence or mapping tag. -/
inductive DumpNode where
  | scalar (tag text : String)
  | sequence (tag : Option String) (items : List DumpNode)
  | mapping (tag : Option String) (pairs : List (DumpNode × DumpNode))
deriving Inhabited

/-- Pairs in the order they are written: sorted by key when the keys compare, as they stand
otherwise. -/
def writtenOrder {α : Type} [Inhabited α] (keyed : List (Value × α)) : List α :=
  match Value.sortByKeys Value.lessThan keyed false with
  | .ok sorted => sorted
  | .error _ => keyed.map Prod.snd

mutual

/-- The node a value is written as. Mappings and sets are written with sorted keys. -/
def represent : Value → Outcome DumpNode
  | .list xs => .sequence none <$> representItems xs
  | .tuple xs => .sequence (some (coreTag "python/tuple")) <$> representItems xs
  | .set xs => do
    let keys ← representItems xs
    pure (.mapping (some (coreTag "set")) (writtenOrder (xs.zip (keys.map fun k => (k, .scalar (coreTag "null") "null")))))
  | .map es _ => do
    let pairs ← representEntries es
    pure (.mapping none (writtenOrder pairs))
  | v =>
    match scalarForm v with
    | some (tag, text) => pure (.scalar tag text)
    | none => throw (Failure.make .unsupported ("cannot write a " ++ v.typeName ++ " as YAML"))

def representItems : List Value → Outcome (List DumpNode)
  | [] => pure []
  | x :: rest => do pure ((← represent x) :: (← representItems rest))

def representEntries : List (Value × Value) → Outcome (List (Value × (DumpNode × DumpNode)))
  | [] => pure []
  | (k, v) :: rest => do pure ((k, (← represent k, ← represent v)) :: (← representEntries rest))

end

/-- The indentation one level in: a block level starts at the margin, a flow level two in. -/
def deeper (indent : Option Nat) (flow : Bool) : Nat :=
  match indent with
  | none => if flow then 2 else 0
  | some i => i + 2

/-- Whether a node can be written as a key on the line of its value: a short scalar on one
line, or an empty collection. -/
def isSimpleKey : DumpNode → Bool
  | .scalar tag text =>
    let a := analyze text
    text.length + (shortTag tag).length < 128 && !a.empty && !a.multiline
  | .sequence _ [] | .mapping _ [] => true
  | _ => false

/-- Writes a scalar of a tag in the style its text allows, with its tag when the text would
not read back as it. -/
def writeScalar (p : Pen) (indent : Option Nat) (tag text : String) (simpleKey : Bool) : Pen :=
  let a := analyze text
  let readsBack := resolveScalar text true == tag
  let style := chooseStyle a readsBack simpleKey
  let tagged := !((style == .plain && readsBack) || (style != .plain && tag == coreTag "str"))
  let p := if tagged then p.indicator (shortTag tag) true false false else p
  let saved := p.indent
  let p := { p with indent := deeper indent true }
  let split := !simpleKey
  let p := match style with
    | .plain => writePlain p text split
    | .single => writeSingleQuoted p text split
    | .double => writeDoubleQuoted p text split
  { p with indent := saved }

def writeCollectionTag (p : Pen) : Option String → Pen
  | some t => p.indicator (shortTag t) true false false
  | none => p

mutual

/-- Writes a node at a nesting level: `inMapping` when it is a key or value of a mapping,
`simpleKey` when it is a key on the line of its value. -/
def writeNode (p : Pen) (indent : Option Nat) (inMapping simpleKey : Bool) : DumpNode → Pen
  | .scalar tag text => writeScalar p indent tag text simpleKey
  | .sequence tag [] =>
    (writeCollectionTag p tag).indicator "[" true true false |>.indicator "]" false false false
  | .mapping tag [] =>
    (writeCollectionTag p tag).indicator "\x7b" true true false |>.indicator "\x7d" false false false
  | .sequence tag items =>
    let p := writeCollectionTag p tag
    let level := if inMapping && !p.indention then indent.getD 0 else deeper indent false
    let saved := p.indent
    let p := writeItems { p with indent := level } level items
    { p with indent := saved }
  | .mapping tag pairs =>
    let p := writeCollectionTag p tag
    let level := deeper indent false
    let saved := p.indent
    let p := writePairs { p with indent := level } level pairs
    { p with indent := saved }

def writeItems (p : Pen) (level : Nat) : List DumpNode → Pen
  | [] => p
  | x :: rest =>
    let p := (p.toIndent).indicator "-" true false true
    let p := writeNode p (some level) false false x
    writeItems { p with indent := level } level rest

def writePairs (p : Pen) (level : Nat) : List (DumpNode × DumpNode) → Pen
  | [] => p
  | (k, v) :: rest =>
    let p := p.toIndent
    let p :=
      if isSimpleKey k then
        let p := writeNode p (some level) true true k
        let p := { p with indent := level }.indicator ":" false false false
        writeNode p (some level) true false v
      else
        let p := p.indicator "?" true false true
        let p := writeNode p (some level) true false k
        let p := { p with indent := level }.toIndent.indicator ":" true false true
        writeNode p (some level) true false v
    writePairs { p with indent := level } level rest

end

/-- A value written as a YAML document in block style: the keys of mappings sorted, the
document ended by a line break, and a plain scalar document closed by `...`. -/
def dumpText (v : Value) : Outcome String := do
  let node ← represent v
  let p := writeNode Pen.start none false false node
  let p := { p with indent := 0 }.toIndent
  let openEnded : Bool := match node with
    | .scalar tag text =>
      let a := analyze text
      chooseStyle a (resolveScalar text true == tag) false == .plain
    | _ => false
  let p := if openEnded then (p.indicator "..." true false false).toIndent else p
  pure p.out

end Dashwright.Yaml
