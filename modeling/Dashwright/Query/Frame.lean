import Dashwright.Json.Lenient
import Dashwright.Value.Convert
import Dashwright.Failure

/-!
Tables of query rows: the columns a data-frame constructor builds from decoded JSON, and the
types it gives them.

The shapes of the data:

* null, an empty list or an empty object is an empty table;
* a list of objects gives a column for each key, in the order keys are first met, a missing
  key a gap; every item must be an object;
* a list of lists gives the columns `0, 1, …` as wide as the longest row; every item must have
  a length;
* a list starting with anything else is a single column `0`;
* an object of lists gives a column for each key, the lists all of one length; an object of
  objects gives a column for each key, its rows the inner keys in the order first met; plain
  values alongside are repeated down the column. A text, number or truth value alone is not a
  table.

A column's type follows from its values: whole numbers alone are whole, numbers with a
fraction or a gap are fractional, truth values alone are truth values, and anything else (a
text, a list, a truth value beside a number or a gap) makes the column mixed. After reading, a
mixed column whose values all read as numbers becomes fractional, and a fractional column whose
values are all whole becomes whole.
-/

namespace Dashwright.Query

/-- A value in a column. -/
inductive Cell where
  | null
  | int (i : Int)
  | float (f : Float)
  | bool (b : Bool)
  | text (s : String)
  /-- a moment, as nanoseconds since the epoch in UTC -/
  | stamp (nanos : Int)
  /-- a list or mapping, kept as it is -/
  | nested (v : Value)
deriving Inhabited

/-- How a column's values are typed. -/
inductive ColumnKind where
  | whole
  | fractional
  | truth
  | moments
  | mixed
deriving BEq, Inhabited

structure Column where
  name : Value
  kind : ColumnKind
  cells : List Cell
deriving Inhabited

/-- A cell of a decoded value; a NaN double is a gap. -/
def cellOf : Value → Cell
  | .none => .null
  | .int i => .int i
  | .float f => if f.isNaN then .null else .float f
  | .bool b => .bool b
  | .str s => .text s
  | v => .nested v

/-- Two to the sixty-third: whole numbers from here on are unsigned. -/
def signedLimit : Int := Int.pow 2 63

/-- What a scan of a column's values has seen. -/
structure Seen where
  null : Bool := false
  bool : Bool := false
  float : Bool := false
  int : Bool := false
  unsigned : Bool := false
  negative : Bool := false
  other : Bool := false

/-- Notes one value. Whole numbers are checked for mixing signed and unsigned ranges only
while no gap has been seen; a value of another kind ends the scan. -/
def Seen.note (s : Seen) (c : Cell) : Seen :=
  if s.other then s
  else match c with
    | .null => { s with null := true }
    | .bool _ => { s with bool := true }
    | .float _ => { s with float := true }
    | .int i =>
      let s := { s with int := true }
      if s.null then s
      else
        let s := { s with unsigned := s.unsigned || i ≥ signedLimit, negative := s.negative || i < 0 }
        if s.unsigned && s.negative then { s with other := true } else s
    | _ => { s with other := true }

def inferKind (cells : List Cell) : ColumnKind :=
  let s := cells.foldl Seen.note {}
  if s.other then .mixed
  else if s.bool then (if s.null || s.float || s.int then .mixed else .truth)
  else if s.null then (if s.float || s.int then .fractional else .mixed)
  else if s.float then .fractional
  else if s.int then .whole
  else .mixed

/-- A column of decoded cells, typed; whole numbers in a fractional column become doubles. -/
def typedColumn (name : Value) (cells : List Cell) : Column :=
  let kind := inferKind cells
  let cells := if kind == .fractional then cells.map fun c => match c with
      | .int i => .float (Float.ofInt i)
      | c => c
    else cells
  ⟨name, kind, cells⟩

def keysInOrder (maps : List (List (Value × Value))) : List Value :=
  maps.foldl (fun acc es =>
    es.foldl (fun acc (k, _) => if acc.any (Value.equal k) then acc else acc ++ [k]) acc) []

/-- The columns of a list of objects; every item must be an object. -/
def recordsFrame (rows : List Value) : Outcome (List Column) := do
  let maps ← rows.mapM fun r => match r with
    | .map es _ => pure es
    | other => throw (Failure.make .missingAttribute
        ("'" ++ other.typeName ++ "' object has no attribute 'keys'"))
  pure ((keysInOrder maps).map fun n =>
    typedColumn n (maps.map fun es => ((lookupEntry n es).map cellOf).getD .null))

/-- The items of a row of a list of lists: a list's items, a mapping's keys, a text's
characters; other values have no length. -/
def rowItems : Value → Outcome (List Value)
  | .list xs => pure xs
  | .map es _ => pure (es.map (·.1))
  | .str s => pure (s.toList.map fun c => .str (String.singleton c))
  | other => throw (Failure.wrongType ("object of type '" ++ other.typeName ++ "' has no len()"))

/-- The columns `0, 1, …` of a list of lists, as wide as the longest row. -/
def rowsFrame (rows : List Value) : Outcome (List Column) := do
  let items ← rows.mapM rowItems
  let width := items.foldl (fun m xs => max m xs.length) 0
  pure ((List.range width).map fun (j : Nat) =>
    typedColumn (.int (j : Int)) (items.map fun xs => (xs[j]?.map cellOf).getD .null))

/-- The columns of an object: of lists of one length, or of objects whose inner keys are the
rows; plain values are repeated down the column. -/
def mappingFrame (cols : List (Value × Value)) : Outcome (List Column) := do
  if cols.isEmpty then return []
  let lengths := cols.filterMap fun (_, c) => match c with
    | .list xs => some xs.length
    | _ => none
  let inner := cols.filterMap fun (_, c) => match c with
    | .map es _ => some es
    | _ => none
  if lengths.isEmpty && inner.isEmpty then
    throw (Failure.badValue "If using all scalar values, you must pass an index")
  match lengths with
  | n :: rest =>
    if rest.any (· != n) then throw (Failure.badValue "All arrays must be of the same length")
    if !inner.isEmpty then
      throw (Failure.badValue "Mixing dicts with non-Series may lead to ambiguous ordering.")
    pure (cols.map fun (k, c) => typedColumn k (match c with
      | .list xs => xs.map cellOf
      | other => List.replicate n (cellOf other)))
  | [] =>
    let index := keysInOrder inner
    pure (cols.map fun (k, c) => typedColumn k (match c with
      | .map es _ => index.map fun i => ((lookupEntry i es).map cellOf).getD .null
      | other => index.map fun _ => cellOf other))

def frameOf : Value → Outcome (List Column)
  | .none => pure []
  | .list [] => pure []
  | .list (first :: rest) =>
    match first with
    | .map _ _ => recordsFrame (first :: rest)
    | .list _ => rowsFrame (first :: rest)
    | _ => pure [typedColumn (.int 0) ((first :: rest).map cellOf)]
  | .map cols _ => mappingFrame cols
  | _ => throw (Failure.badValue "DataFrame constructor not properly called!")

/-- The table that rows given as lenient JSON text describe. -/
def readFrame (json : String) : Outcome (List Column) :=
  match Json.Lenient.decode json with
  | .ok v => frameOf v
  | .error message => throw (Failure.badValue message)

/-! ### Settling types after reading -/

/-- A cell as the float conversion of a mixed column reads it: gaps are NaN, truth values
are one and zero, texts are read as float literals; nothing for other values. -/
def cellFloat : Cell → Option (Option Float)
  | .null => some none
  | .int i => some (some (Float.ofInt i))
  | .float f => some (some f)
  | .bool b => some (some (if b then 1.0 else 0.0))
  | .text s => (Value.parseFloatText? s).map fun f => if f.isNaN then none else some f
  | _ => none

/-- Whether a double is whole and within the range of a machine integer. -/
def isMachineWhole (f : Float) : Bool :=
  !f.isNaN && !f.isInf && f.floor == f && -9223372036854775808.0 ≤ f && f < 9223372036854775808.0

def floatWhole (f : Float) : Int :=
  if f < 0 then -((-f).toUInt64.toNat : Int) else (f.toUInt64.toNat : Int)

/-- Retypes a column after reading: mixed values that all read as numbers become fractional,
and fractional values that are all whole become whole. -/
def settleColumn (c : Column) : Column :=
  let c := if c.kind == .mixed then
      match c.cells.mapM cellFloat with
      | some fs => { c with kind := .fractional, cells := fs.map fun f => (f.map Cell.float).getD .null }
      | none => c
    else c
  if c.kind == .fractional && !c.cells.isEmpty then
    let wholes := c.cells.mapM fun cell => match cell with
      | .float f => if isMachineWhole f then some (floatWhole f) else none
      | _ => none
    match wholes with
    | some is => { c with kind := .whole, cells := is.map Cell.int }
    | none => c
  else c

end Dashwright.Query
