import Dashwright.Query.Moments
import Dashwright.Value.Sort
import Dashwright.Number.Fixed
import Dashwright.Number.Text

/-!
Aggregating query rows by cohort: the rows of a trace's data, read as a table (see
`Query.Frame` and `Query.Moments`), are grouped by their `cohort_on` value, and every other
column becomes, per cohort, the list of its values in row order. The result is written as
JSON: cohorts in sorted order, each with its columns.

Cohorts are sorted by value; when their values do not compare, numbers come first and texts
after them, each sorted. Rows without a cohort are left out; a cohort that is a list or a
mapping cannot be hashed, and the first such one fails the aggregation. Cohort and column labels are the
plain text of their values. Fractions are written with at most ten decimals, large and tiny
ones in exponent form; moments as milliseconds since the epoch (whole microseconds, then
toward zero); texts with every character outside ASCII, and the slash, escaped. A text holding
a surrogate that stands alone cannot be written, and fails with the position of the first.
-/

namespace Dashwright.Query

def natDigits (n : Nat) : String := toString n

/-- A double as the data-frame writer writes it: ten decimals at most with trailing zeros
dropped, and the general form with ten significant digits beyond `1e16` or below `1e-15`. -/
def frameFloatText (value : Float) : String :=
  let neg := value < 0
  let v := if neg then -value else value
  if v > 9999999999999999.0 || (v != 0 && v < 1e-15) then
    (if neg then "-" else "") ++ Number.generalDigits v 10 false 'e'
  else
    let pow10 : Float := 10000000000.0
    let whole0 := v.floor
    let tmp := (v - whole0) * pow10
    let frac0 := tmp.floor
    let diff := tmp - frac0
    let fracN0 := frac0.toUInt64.toNat
    let fracN := if diff > 0.5 || (diff == 0.5 && (fracN0 == 0 || fracN0 % 2 == 1)) then fracN0 + 1 else fracN0
    let wholeN0 := whole0.toUInt64.toNat
    let (wholeN, fracN) := if fracN ≥ 10000000000 then (wholeN0 + 1, 0) else (wholeN0, fracN)
    let fracText :=
      if fracN == 0 then "0"
      else
        let digits := (natDigits fracN).toList
        let padded := List.replicate (10 - digits.length) '0' ++ digits
        String.ofList ((padded.reverse.dropWhile (· == '0')).reverse)
    (if neg then "-" else "") ++ natDigits wholeN ++ "." ++ fracText

/-- A text as a JSON string with everything outside ASCII, and the slash, escaped. -/
def frameQuote (s : String) : String :=
  let hex4 (n : Nat) : String := "\\u" ++ hexText 4 n
  let esc (c : Char) : String :=
    match c with
    | '"' => "\\\""
    | '\\' => "\\\\"
    | '/' => "\\/"
    | '\n' => "\\n"
    | '\r' => "\\r"
    | '\t' => "\\t"
    | '\x08' => "\\b"
    | '\x0C' => "\\f"
    | c =>
      let n := c.toNat
      if n < 0x20 then hex4 n
      else if n < 0x80 then String.singleton c
      else if n < 0x10000 then hex4 n
      else
        let m := n - 0x10000
        hex4 (0xD800 + m / 0x400) ++ hex4 (0xDC00 + m % 0x400)
  "\"" ++ String.join (s.toList.map esc) ++ "\""

mutual

def nestedJson : Value → String
  | .none => "null"
  | .bool b => if b then "true" else "false"
  | .int i => toString i
  | .float f => if f.isNaN || f.isInf then "null" else frameFloatText f
  | .str s => frameQuote s
  | .list xs => "[" ++ nestedItems xs ++ "]"
  | .map es _ => "\x7b" ++ nestedEntries es ++ "\x7d"
  | v => frameQuote v.text

def nestedItems : List Value → String
  | [] => ""
  | [x] => nestedJson x
  | x :: rest => nestedJson x ++ "," ++ nestedItems rest

def nestedEntries : List (Value × Value) → String
  | [] => ""
  | [(k, v)] => frameQuote k.text ++ ":" ++ nestedJson v
  | (k, v) :: rest => frameQuote k.text ++ ":" ++ nestedJson v ++ "," ++ nestedEntries rest

end

/-- Milliseconds since the epoch of a moment in nanoseconds: whole microseconds first, then
milliseconds toward zero. -/
def stampMillis (nanos : Int) : Int := Int.tdiv (nanos / 1000) 1000

def cellJson : Cell → String
  | .null => "null"
  | .int i => toString i
  | .float f => if f.isNaN || f.isInf then "null" else frameFloatText f
  | .bool b => if b then "true" else "false"
  | .text s => frameQuote s
  | .stamp ns => toString (stampMillis ns)
  | .nested v => nestedJson v

/-- A cohort or column label as a JSON key: the plain text of its value. -/
def labelText : Cell → String
  | .null => "None"
  | .int i => toString i
  | .float f => Number.floatText f
  | .bool b => if b then "True" else "False"
  | .text s => s
  | .stamp ns => toString (stampMillis ns)
  | .nested v => v.text

/-- A cell as a value to order cohorts by. -/
def cellKey : Cell → Value
  | .null => .none
  | .int i => .int i
  | .float f => .float f
  | .bool b => .bool b
  | .text s => .str s
  | .stamp ns => .int ns
  | .nested v => v

def isTextCell : Cell → Bool
  | .text _ => true
  | _ => false

/-- Sorts cells by value, leaving them as they are when their values do not compare. -/
def sortComparable (ks : List Cell) : List Cell :=
  match Value.sortByKeys Value.lessThan (ks.map fun k => (cellKey k, k)) false with
  | .ok s => s
  | .error _ => ks

/-- Sorts cohorts by value; when values do not compare, numbers first and texts after them,
each sorted. -/
def sortCohorts (keys : List Cell) : List Cell :=
  match Value.sortByKeys Value.lessThan (keys.map fun k => (cellKey k, k)) false with
  | .ok s => s
  | .error _ => sortComparable (keys.filter (!isTextCell ·)) ++ sortComparable (keys.filter isTextCell)

/-! ### Texts that cannot be written -/

/-- Why a text cannot be written as UTF-8: the first run of surrogates standing alone in it. -/
def unencodable (s : String) : Option Failure :=
  let cs := s.toList
  let lone (c : Char) : Bool := (Text.loneSurrogate? c).isSome
  match cs.findIdx? lone with
  | none => none
  | some i =>
    let run := ((cs.drop i).takeWhile lone).length
    let message :=
      if run == 1 then
        let u := (Text.loneSurrogate? (cs.getD i ' ')).getD 0
        "'utf-8' codec can't encode character '\\u" ++ hexText 4 u ++ "' in position " ++
          toString i ++ ": surrogates not allowed"
      else
        "'utf-8' codec can't encode characters in position " ++ toString i ++ "-" ++
          toString (i + run - 1) ++ ": surrogates not allowed"
    some (Failure.make .unencodable message)

mutual

/-- The texts inside a nested value, in the order they are written. -/
def nestedTexts : Value → List String
  | .str s => [s]
  | .list xs => nestedItemTexts xs
  | .map es _ => nestedEntryTexts es
  | _ => []

def nestedItemTexts : List Value → List String
  | [] => []
  | x :: rest => nestedTexts x ++ nestedItemTexts rest

def nestedEntryTexts : List (Value × Value) → List String
  | [] => []
  | (k, v) :: rest => k.text :: nestedTexts v ++ nestedEntryTexts rest

end

/-- The texts of a cell, in the order they are written. -/
def cellTexts : Cell → List String
  | .text s => [s]
  | .nested v => nestedTexts v
  | _ => []

/-- The first text that cannot be written, among texts in the order they are written. -/
def firstUnencodable (texts : List String) : Option Failure := texts.findSome? unencodable

/-! ### Grouping -/

/-- The columns of a table once dates and numbers are settled. -/
def settledColumns (columns : List Column) : List Column :=
  columns.map fun c => settleColumn (datedColumn c)

def cohortName : Value := .str "cohort_on"

/-- The column that holds the cohorts, if the table has one. -/
def cohortColumn (columns : List Column) : Option Column :=
  (settledColumns columns).find? fun c => Value.equal c.name cohortName

def otherColumns (columns : List Column) : List Column :=
  (settledColumns columns).filter fun c => !Value.equal c.name cohortName

/-- The rows that have a cohort, with their cohort. -/
def cohortRows (cells : List Cell) : List (Cell × Nat) :=
  cells.zipIdx.filterMap fun (cell, row) => match cell with
    | .null => none
    | c => some (c, row)

/-- The first cohort, in row order, that cannot be hashed. -/
def unhashableCohort (cells : List Cell) : Option Value :=
  cells.findSome? fun cell => match cell with
    | .nested v => if v.hashable then none else some v
    | _ => none

/-- Adds a row's cohort to the cohorts found so far, unless an equal one is there. -/
def addCohort (keys : List Cell) (row : Cell × Nat) : List Cell :=
  if keys.any (fun k => Value.equal (cellKey k) (cellKey row.1)) then keys else keys ++ [row.1]

/-- The distinct cohorts of some rows, in the order they first appear. -/
def firstCohorts (keyed : List (Cell × Nat)) : List Cell := keyed.foldl addCohort []

/-- The rows, in order, whose cohort equals a given one. -/
def rowsOfCohort (keyed : List (Cell × Nat)) (k : Cell) : List Nat :=
  keyed.filterMap fun (c, row) => if Value.equal (cellKey c) (cellKey k) then some row else none

/-- Each cohort of a column, in sorted order, with the rows that hold it, in row order. -/
def cohortGroups (cells : List Cell) : List (Cell × List Nat) :=
  let keyed := cohortRows cells
  (sortCohorts (firstCohorts keyed)).map fun k => (k, rowsOfCohort keyed k)

/-- A cohort as JSON: each other column as the list of its values in the cohort's rows. -/
def cohortJson (others : List Column) (group : Cell × List Nat) : String :=
  let fields := others.map fun col =>
    let values := group.2.map fun r => cellJson (col.cells.getD r .null)
    frameQuote (labelText (cellOf col.name)) ++ ":[" ++ ",".intercalate values ++ "]"
  frameQuote (labelText group.1) ++ ":\x7b" ++ ",".intercalate fields ++ "\x7d"

/-- The texts written for some cohorts, in the order they are checked: the cohort labels, the
column names, then the texts of the cells. -/
def writtenTexts (others : List Column) (groups : List (Cell × List Nat)) : List String :=
  let cells := groups.flatMap fun g => others.flatMap fun col => g.2.map fun r => col.cells.getD r .null
  groups.map (fun g => labelText g.1) ++ others.map (fun col => labelText (cellOf col.name)) ++
    cells.flatMap cellTexts

/-- The cohorts of a table as JSON: for each cohort value, in sorted order, each other column
as the list of its values in the cohort's rows. -/
def aggregateByCohort (columns : List Column) : Outcome String := do
  let cohort ← match cohortColumn columns with
    | some c => pure c
    | none => throw (Failure.missingKey (quoteText "cohort_on"))
  if let some v := unhashableCohort cohort.cells then
    throw (Value.unhashable v)
  let others := otherColumns columns
  let groups := cohortGroups cohort.cells
  if let some failure := firstUnencodable (writtenTexts others groups) then
    throw failure
  pure ("\x7b" ++ ",".intercalate (groups.map (cohortJson others)) ++ "\x7d")

def aggregateJson (json : String) : Outcome String := do
  aggregateByCohort (← readFrame json)

end Dashwright.Query
