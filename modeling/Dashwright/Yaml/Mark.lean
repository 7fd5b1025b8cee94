import Dashwright.Value.Text

/-!
Positions in a YAML text and the problems found while loading one.

A problem is either a character that may not appear in a YAML text at all, or a problem found
at a mark by one of the stages (scanning, parsing, composing, constructing), possibly while
reading something that started at an earlier mark. Its text names the stream, the line and
column from one, and shows the line with a caret under the column, cut to about 75
characters around it.
-/

namespace Dashwright.Yaml

/-- A position in a YAML text: character index, line and column, all counted from zero. -/
structure Mark where
  index : Nat
  line : Nat
  column : Nat
deriving Inhabited, BEq, Repr

/-- The stage of loading that found a problem. -/
inductive Stage where
  | scanner
  | parser
  | composer
  | constructor
deriving BEq, Repr, Inhabited

/-- Why a YAML text could not be loaded. -/
inductive Problem where
  /-- a character that may not appear in a YAML text, at its position -/
  | unacceptable (position : Nat) (code : Nat)
  /-- a problem found at a mark, possibly while reading what began at another mark -/
  | marked (stage : Stage) (context : Option String) (contextMark : Option Mark)
      (problem : String) (problemMark : Mark)
  /-- a failure that is not about YAML, met while values were built -/
  | other (failure : Failure)
deriving Inhabited

/-- The name a text given directly is known by in marks. -/
def streamName : String := "<unicode string>"

/-- Characters that end a line, and the end of the text. -/
def isBreakOrEnd (c : Char) : Bool :=
  c == '\x00' || c == '\r' || c == '\n' || c == '\x85' || c == '\u2028' || c == '\u2029'

/-- The line of a mark with a caret under its column, cut to at most 75 characters around
it with ` ... ` at a cut. -/
def snippet (buffer : Array Char) (pointer : Nat) : String := Id.run do
  let charAt (i : Nat) : Char := buffer.getD i '\x00'
  let mut head := ""
  let mut start := pointer
  for _ in [0:pointer] do
    if start > 0 && !isBreakOrEnd (charAt (start - 1)) then
      start := start - 1
      if pointer - start ≥ 37 then
        head := " ... "
        start := start + 5
        break
    else break
  let mut tail := ""
  let mut stop := pointer
  for _ in [0:buffer.size + 1] do
    if stop < buffer.size && !isBreakOrEnd (charAt stop) then
      stop := stop + 1
      if stop - pointer ≥ 37 then
        tail := " ... "
        stop := stop - 5
        break
    else break
  let text := String.ofList ((buffer.extract start stop).toList)
  "    " ++ head ++ text ++ tail ++ "\n" ++
    String.ofList (List.replicate (4 + (pointer - start) + head.length) ' ') ++ "^"

/-- Where a mark is, with its snippet of the text. -/
def Mark.describe (buffer : Array Char) (m : Mark) : String :=
  "  in \"" ++ streamName ++ "\", line " ++ toString (m.line + 1) ++ ", column " ++
    toString (m.column + 1) ++ ":\n" ++ snippet buffer m.index

def Stage.kind : Stage → Failure.Kind
  | .scanner => .yamlScanner
  | .parser => .yamlParser
  | .composer => .yamlComposer
  | .constructor => .yamlConstructor

def unacceptableText (position code : Nat) : String :=
  "unacceptable character #x" ++ hexText 4 code ++ ": special characters are not allowed\n  in \"" ++
    streamName ++ "\", position " ++ toString position

/-- The full text of a problem in a text: the context and its mark unless it is the problem's
own, then the problem and its mark. -/
def Problem.text (source : String) : Problem → String
  | .unacceptable position code => unacceptableText position code
  | .marked _ context contextMark problem problemMark =>
    let buffer := (source.toList ++ ['\x00']).toArray
    let lines := (match context with | some c => [c] | none => []) ++
      (match contextMark with
        | some m => if m.line != problemMark.line || m.column != problemMark.column
            then [m.describe buffer] else []
        | none => []) ++
      [problem, problemMark.describe buffer]
    "\n".intercalate lines
  | .other f => f.message.getD ""

/-- A problem as a failure of its own kind with its full text. -/
def Problem.toFailure (source : String) : Problem → Failure
  | .unacceptable position code => Failure.make .yamlReader (unacceptableText position code)
  | p@(.marked stage _ _ _ _) => Failure.make stage.kind (p.text source)
  | .other f => f

end Dashwright.Yaml
