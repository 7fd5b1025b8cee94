import Dashwright.Yaml.Dump
import Dashwright.Value.Access
import Dashwright.Text.Blank

/-!
Reports of invalid project objects, pointing at where the offending input was written.

An input that is a loaded mapping names its own position: that of its first key. An input
that is a number, a truth value or a text is looked for in the project's files: the entry
`key: input` is written as YAML and its first line searched for in each file's lines, with
leading blanks and dashes dropped from both so that list items and indentation do not
matter. Inputs of any other kind are not placed.
-/

namespace Dashwright.Project

/-- Drops the blanks, tabs and dashes that open a line. -/
def dropLineOpening (line : String) : String :=
  String.ofList (line.toList.dropWhile fun c => c == ' ' || c == '\t' || c == '-')

/-- Drops the white space and dashes that open the first line. -/
def dropDumpOpening (line : String) : String :=
  String.ofList (line.toList.dropWhile fun c =>
    c == ' ' || c == '\t' || c == '\n' || c == '\r' || c == '\x0B' || c == '\x0C' ||
      ('\x1C' ≤ c && c ≤ '\x1F') || c == '-')

/-- The first of some lines, counted from one, that holds a text, or -1. -/
def lineHolding (pat : String) (lines : List String) : Int :=
  match lines.findIdx? (Text.contains · pat) with
  | some i => i + 1
  | none => -1

/-- The line of a file's text where a mapping's first entry is written, or -1: the first line
that holds the entry's first written line, both taken without their opening blanks and
dashes. -/
def findLine (content : String) (entries : List (Value × Value)) : Outcome Int := do
  let lines := Text.splitOn (Text.universalNewlines content) "\n" |>.map dropLineOpening
  let written ← Yaml.dumpText (Value.dict entries)
  pure (lineHolding (dropDumpOpening ((Text.splitOn written "\n").headD "")) lines)

/-- One complaint about a project object: the path to the field, the message and the input
that was refused, when known. -/
structure FieldError where
  loc : Option (List Value)
  msg : Option Value
  input : Option Value

/-- Where an error's input was written, as the lines that report it, if it can be placed.
Files without text are not on disk and are passed over. -/
def locateInput (files : List (String × Option String)) (e : FieldError) : Outcome (Option String) := do
  match e.input with
  | none => pure none
  | some (.map es (some locs)) =>
    if es.isEmpty then pure none
    else
      match locs with
      | (_, keyLoc, _) :: _ => pure (some ("  Location: " ++ keyLoc ++ "\n"))
      | [] => throw (Failure.make .badIndex "list index out of range")
  | some input =>
    match input with
    | .int _ | .bool _ | .str _ =>
      let key ← match (e.loc.getD []).getLast? with
        | some k => pure k
        | none => throw (Failure.make .badIndex "tuple index out of range")
      if !key.hashable then throw (Value.unhashable key)
      for (name, content) in files do
        if let some text := content then
          let line ← findLine text [(key, input)]
          if line ≥ 0 then return some ("     Location: " ++ name ++ ":" ++ toString line ++ "\n\n")
      pure none
    | _ => pure none

/-- Adds one error to a report under way, numbered one past the errors before it: its object
path, message and input, and where the input was written when it can be placed. The flag
records that some input was placed. -/
def reportError (files : List (String × Option String)) (sofar : String × Bool × Nat) (e : FieldError) :
    Outcome (String × Bool × Nat) := do
  let i := sofar.2.2 + 1
  let loc ← match e.loc with
    | some l => pure l
    | none => throw (Failure.missingKey "'loc'")
  let path ← loc.mapM Value.display
  let mut message := sofar.1 ++ "  " ++ toString i ++ ". Object: " ++ ".".intercalate path ++ "\n"
  let msg ← match e.msg with
    | some m => m.display
    | none => throw (Failure.missingKey "'msg'")
  message := message ++ "     Message: " ++ msg ++ "\n"
  let lineMessage ← locateInput files e
  let input ← match e.input with
    | some v => v.display
    | none => throw (Failure.missingKey "'input'")
  message := message ++ "     The input used: (" ++ input ++ ")\n"
  match lineMessage with
  | some m => pure (message ++ m, true, i)
  | none => pure (message, sofar.2.1, i)

/-- The report of a failed validation: every error with its object path, message, input and
position; when no input could be placed, the plain description instead. -/
def validationReport (title : String) (errors : List FieldError) (files : List (String × Option String))
    (plain : String) : Outcome String := do
  let header := toString errors.length ++ " validation errors in " ++ title ++ "\n\n"
  let done ← errors.foldlM (reportError files) (header, false, 0)
  pure (if done.2.1 then done.1 else plain)

end Dashwright.Project
