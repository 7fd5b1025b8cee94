import Dashwright.Query.Dialect
import Dashwright.Text.Blank
import Dashwright.Text.Case

/-!
Kinds of SQL statements. A statement is a window statement when it calls `over`, an
aggregate statement when it calls one of its dialect's aggregate functions, and vanilla
otherwise. A call is the function's name, in any case and anywhere in the text, then blanks,
an opening parenthesis and a closing one later on the same line.
-/

namespace Dashwright.Query

inductive StatementKind where
  | aggregate
  | window
  | vanilla
deriving BEq, DecidableEq, Repr, Inhabited

def StatementKind.name : StatementKind → String
  | .aggregate => "aggregate"
  | .window => "window"
  | .vanilla => "vanilla"

/-- The rest of a text after a case-blind match of a lower-case name at its start. -/
def afterName : List Char → List Char → Option (List Char)
  | [], rest => some rest
  | _ :: _, [] => none
  | l :: ls, c :: cs => if Text.matchesLetterIgnoringCase c l then afterName ls cs else none

/-- A parenthesised part starts here, after blanks, and closes on the same line. -/
def opensAndCloses (rest : List Char) : Bool :=
  match rest.dropWhile Text.isSpace with
  | '(' :: tail => (tail.takeWhile (· != '\n')).contains ')'
  | _ => false

/-- Whether the text calls the named function somewhere. -/
def callsAt (name : List Char) : List Char → Bool
  | [] => false
  | c :: cs =>
    (match afterName name (c :: cs) with
     | some rest => opensAndCloses rest
     | none => false) || callsAt name cs

def calls (name : String) (text : String) : Bool := callsAt name.toList text.toList

def classify (d : Dialect) (statement : String) : StatementKind :=
  if calls "over" statement then .window
  else if d.aggregates.any (calls · statement) then .aggregate
  else .vanilla

end Dashwright.Query
