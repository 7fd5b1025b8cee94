import Dashwright.Query.Frame
import Dashwright.Time.Lenient
import Dashwright.Number.Nearest

/-!
Turning the columns whose names mark them as dates into moments, the way the reader of query
rows does it.

A column named `date`, `datetime` or `modified`, or ending in `_at` or `_time`, or starting
with `timestamp` (in any case), is tried:

* a mixed column whose values all convert to machine integers (texts of whole numbers,
  doubles truncated, truth values as one and zero) is taken as those integers;
* a column of numbers with a value at or below a year of seconds (31536000) stays as it is;
* the units seconds, milliseconds, microseconds and nanoseconds are tried in turn, and the
  first that converts every value wins. Numbers count units since the epoch and must stay
  within the range of nanoseconds; in a mixed column texts of numbers count units as well,
  and in nanoseconds texts are read as dates (see `Time.Lenient`), all with one offset or all
  without one.

A column that no unit converts stays as it is.
-/

namespace Dashwright.Query

def isDateName (name : Value) : Bool :=
  match name with
  | .str s =>
    let l := Text.lower s
    l.endsWith "_at" || l.endsWith "_time" || l == "modified" || l == "date" || l == "datetime" ||
      l.startsWith "timestamp"
  | _ => false

/-- The smallest machine integer, which also marks a missing moment. -/
def missingMark : Int := -(Int.pow 2 63)

def machineMax : Int := Int.pow 2 63 - 1

def fitsMachine (i : Int) : Bool := missingMark ≤ i && i ≤ machineMax

/-- An integer taken modulo two to the sixty-fourth into the signed machine range. -/
def wrapMachine (i : Int) : Int :=
  let m : Int := Int.pow 2 64
  let r := i % m
  if r ≥ Int.pow 2 63 then r - m else r

/-- A double cast to a machine integer, toward zero; NaN and doubles out of range give the
smallest machine integer, as the processor's conversion does. -/
def castMachine (f : Float) : Int :=
  if f.isNaN || f ≥ 9223372036854775808.0 || f < -9223372036854775808.0 then missingMark
  else floatWhole (if f < 0 then f.ceil else f.floor)

/-- A unit of time that numbers count. -/
inductive TimeUnit where
  | seconds
  | millis
  | micros
  | nanos
deriving BEq, Inhabited

def TimeUnit.scale : TimeUnit → Nat
  | .seconds => 1000000000
  | .millis => 1000000
  | .micros => 1000
  | .nanos => 1

/-- The decimal places a fraction of a unit is rounded to. -/
def TimeUnit.places : TimeUnit → Nat
  | .seconds => 9
  | .millis => 6
  | .micros => 3
  | .nanos => 0

/-- The units tried in turn. -/
def TimeUnit.all : List TimeUnit := [.seconds, .millis, .micros, .nanos]

/-- A cell of a mixed column as a machine integer, as the integer conversion reads it. -/
def machineInteger : Cell → Option Int
  | .int i => if fitsMachine i then some i else none
  | .bool b => some (if b then 1 else 0)
  | .float f => if f.isNaN || f.isInf then none else
      let w := floatWhole (if f < 0 then f.ceil else f.floor)
      if fitsMachine w then some w else none
  | .text s => (Value.parseIntText? s).bind fun i => if fitsMachine i then some i else none
  | _ => none

/-- Whether a cell of a numeric column is a gap or lies past a year of seconds. -/
def pastFirstYear : Cell → Bool
  | .null => true
  | .int i => i > 31536000 || i == missingMark
  | .float f => f > 31536000.0
  | _ => true

/-- Converts a whole number of units to nanoseconds: its double times the scale must lie
within the range of doubles the moments allow, and the product wraps around the machine word. -/
def wholeStamp (u : TimeUnit) (i : Int) : Option Cell :=
  let i := wrapMachine i
  if i == missingMark then some .null
  else if u == .nanos then some (.stamp i)
  else
    let scaled := Float.ofInt i * u.scale.toFloat
    if scaled > 9223372036854775807.0 || scaled < -9223372036854775807.0 then none
    else some (.stamp (wrapMachine (i * u.scale)))

/-- Converts a double number of units to nanoseconds: its truncation times the scale must lie
within range, and the nanoseconds are the cast of the double times the scale; doubles that do
not cast are gaps. -/
def fractionalStamp (u : TimeUnit) (f : Float) : Option Cell :=
  let t := castMachine f
  if t == missingMark then some .null
  else if u == .nanos then some (.stamp t)
  else
    let scaled := Float.ofInt t * u.scale.toFloat
    if scaled > 9223372036854775807.0 || scaled < -9223372036854775807.0 then none
    else
      let ns := castMachine (f * u.scale.toFloat)
      some (if ns == missingMark then .null else .stamp ns)

/-- Converts one number of a mixed column to nanoseconds: the whole part times the scale, plus
the fraction rounded to the unit's places times the scale, all within the machine word. -/
def objectStamp (u : TimeUnit) (f : Float) : Option Int := do
  if f.isNaN || f.isInf || f ≥ 9223372036854775808.0 || f < -9223372036854775808.0 then none
  let base := floatWhole (if f < 0 then f.ceil else f.floor)
  let whole := base * u.scale
  if !fitsMachine whole then none
  let frac := f - Float.ofInt base
  let frac ← if u.places == 0 then some frac else Number.roundDecimal frac u.places
  some (whole + castMachine (frac * u.scale.toFloat))

/-- Converts a cell of a mixed column in a unit coarser than nanoseconds. -/
def mixedUnitStamp (u : TimeUnit) : Cell → Option Cell
  | .null => some .null
  | .int i =>
    if i == missingMark then some .null
    else if !fitsMachine i || !fitsMachine (i * u.scale) then none
    else some (.stamp (i * u.scale))
  | .float f =>
    if f == -9223372036854775808.0 then some .null else (objectStamp u f).map Cell.stamp
  | .text s =>
    if s.isEmpty || Time.Lenient.gapWords.contains s then some .null
    else (Value.parseFloatText? s).bind fun f => (objectStamp u f).map Cell.stamp
  | _ => none

/-- Converts a cell of a mixed column in nanoseconds: numbers count nanoseconds, texts are
read as dates. Gives the cell and, for a text, the offset it named (`some none` for none). -/
def mixedNanoStamp : Cell → Option (Cell × Option (Option Int))
  | .null => some (.null, none)
  | .int i => if i == missingMark then some (.null, none)
      else if fitsMachine i then some (.stamp i, none) else none
  | .float f =>
    if f.isNaN || f.isInf || f ≥ 9223372036854775808.0 || f < -9223372036854775808.0 then none
    else
      let t := castMachine f
      some (if t == missingMark then .null else .stamp t, none)
  | .text s =>
    match Time.Lenient.readDateText s with
    | some .gap => some (.null, none)
    | some (.stamp st) => some (.stamp st.nanos, some st.offset)
    | none => none
  | _ => none

/-- Converts a mixed column in nanoseconds, when its texts all named one offset or all named
none. -/
def mixedNanoColumn (cells : List Cell) : Option (List Cell) := do
  let read ← cells.mapM mixedNanoStamp
  let offsets := read.filterMap (·.2)
  let aware := offsets.any (·.isSome)
  let distinct := offsets.foldl (fun acc o => if acc.contains o then acc else acc ++ [o]) []
  if aware && distinct.length > 1 then none
  some (read.map (·.1))

/-- Converts the cells of a column in one unit, when every cell converts. -/
def unitColumn (kind : ColumnKind) (cells : List Cell) (u : TimeUnit) : Option (List Cell) :=
  match kind with
  | .whole => cells.mapM fun c => match c with
    | .int i => wholeStamp u i
    | .null => some .null
    | _ => none
  | .fractional => cells.mapM fun c => match c with
    | .float f => fractionalStamp u f
    | .int i => fractionalStamp u (Float.ofInt i)
    | .null => some .null
    | _ => none
  | .mixed => if u == .nanos then mixedNanoColumn cells else cells.mapM (mixedUnitStamp u)
  | _ => none

/-- Turns a date-named column into moments when some unit converts every value. -/
def datedColumn (c : Column) : Column :=
  if !isDateName c.name || c.cells.isEmpty then c
  else
    let (kind, cells) :=
      if c.kind == .mixed then
        match c.cells.mapM machineInteger with
        | some is => (ColumnKind.whole, is.map Cell.int)
        | none => (c.kind, c.cells)
      else (c.kind, c.cells)
    let numeric := kind == .whole || kind == .fractional
    if numeric && !cells.all pastFirstYear then c
    else
      match TimeUnit.all.findSome? (unitColumn kind cells) with
      | some converted => { c with kind := .moments, cells := converted }
      | none => c

end Dashwright.Query
