import Dashwright.Value.Text
import Dashwright.Text.Blank

/-!
Function-call notation in trace fields, such as `query(sum(x))`. The argument of a call is
everything between the first `name(` in the text and the last closing parenthesis on the same
line, with at least one character between them, trimmed of blanks. When the first `name(` has
no such parenthesis after it, the next one is tried.
-/

namespace Dashwright.Query

/-- The text of a line before its last closing parenthesis, when that parenthesis is not the
line's first character. -/
def beforeLastClose (line : List Char) : Option (List Char) :=
  match (line.zip (List.range line.length)).reverse.find? (fun (c, i) => c == ')' && i > 0) with
  | some (_, i) => some (line.take i)
  | none => none

/-- Scans the text for `name(` followed by an argument. -/
def argumentAt (name : List Char) : List Char → Option (List Char)
  | [] => none
  | c :: cs =>
    let here : Option (List Char) :=
      if (c :: cs).take name.length == name then
        match (c :: cs).drop name.length with
        | '(' :: rest => beforeLastClose (rest.takeWhile (· != '\n'))
        | _ => none
      else none
    match here with
    | some arg => some arg
    | none => argumentAt name cs

/-- The argument of a call of the named function in a text, trimmed. -/
def argumentOf (name : String) (text : String) : Option String :=
  (argumentAt name.toList text.toList).map fun cs => Text.strip (String.ofList cs)

/-- The argument of a call in a value: nothing for a null, the argument for a text, and a
wrong-type failure for anything else. -/
def argumentOfValue (name : String) : Value → Outcome (Option String)
  | .none => pure none
  | .str s => pure (argumentOf name s)
  | v => throw (Failure.wrongType
      ("expected string or bytes-like object, got '" ++ v.typeName ++ "'"))

end Dashwright.Query
