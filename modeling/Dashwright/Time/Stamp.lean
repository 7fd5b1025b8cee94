import Dashwright.Time.Civil
import Dashwright.Value.Text
import Dashwright.Number.Fixed

/-!
Timestamps: seconds since 1970-01-01T00:00:00 UTC as integers or doubles. A timestamp is
split into whole seconds and microseconds (the fraction rounded half to even), turned into a
UTC moment, and written as ISO text (a date alone at midnight) or by a `%` format.

The range is that of a 64-bit count of seconds, then that of a 32-bit count of years from
1900, then the years 1 to 9999; each bound has its own failure.
-/

namespace Dashwright.Time

open Number

/-- Rounds a double to an integral double, half to even. -/
def roundHalfEven (x : Float) : Float :=
  let r := x.round
  if (x - r).abs == 0.5 then 2.0 * (x / 2.0).round else r

/-- The integral part of a double, toward zero. -/
def truncFloat (x : Float) : Float := if x < 0 then x.ceil else x.floor

def timeRangeFailure : Failure := ⟨.overflow, some "timestamp out of range for platform time_t"⟩

/-- Whether whole seconds fit a signed 64-bit count. -/
def fitsSeconds (s : Int) : Bool := -(Int.pow 2 63) ≤ s ∧ s < Int.pow 2 63

/-- Whole seconds and microseconds of a timestamp value; booleans count as 0 and 1. -/
def splitTimestamp : Value → Outcome (Int × Nat)
  | .bool b => pure (if b then 1 else 0, 0)
  | .int i => if fitsSeconds i then pure (i, 0) else throw timeRangeFailure
  | .float f =>
    if f.isNaN then throw (Failure.badValue "Invalid value NaN (not a number)")
    else if f.isInf then throw timeRangeFailure
    else
      -- the double is exactly `a / d`: its integral part toward zero, and the fraction left
      let (a, d) := exactParts f
      let ip := a.tdiv d
      let frac := a - ip * d
      -- the fraction in microseconds is a double, rounded once, then rounded half to even
      let (b, e) := exactParts ((nearestFloat (frac < 0) (frac.natAbs * 1000000) d).getD 0.0)
      let fp : Int := if b < 0 then -(roundQuotient b.natAbs e : Int) else roundQuotient b.natAbs e
      let (ip, fp) := if fp ≥ 1000000 then (ip + 1, fp - 1000000)
        else if fp < 0 then (ip - 1, fp + 1000000) else (ip, fp)
      if ip < -Int.pow 2 63 || ip > Int.pow 2 63 then throw timeRangeFailure
      else pure (ip, fp.toNat)
  | v => throw (Failure.wrongType ("'" ++ v.typeName ++ "' object cannot be interpreted as an integer"))

/-- The UTC moment of whole seconds and microseconds since the epoch. -/
def utcMoment (secs : Int) (micro : Nat) : Outcome Moment := do
  let m := Moment.ofMicros (secs * 1000000 + micro) (some 0)
  let y := m.date.year
  if y - 1900 < -(Int.pow 2 31) ∨ y - 1900 ≥ Int.pow 2 31 then
    throw (Failure.make .system "[Errno 75] Value too large for defined data type")
  if y < 1 ∨ y > 9999 then
    throw (Failure.badValue ("year " ++ toString y ++ " is out of range"))
  pure m

def momentOf (ts : Value) : Outcome Moment := do
  let (s, us) ← splitTimestamp ts
  utcMoment s us

/-- ISO text of a timestamp: the date alone at midnight, else date, time and offset. -/
def isoOf (ts : Value) : Outcome String := do
  let m ← momentOf ts
  if m.hour == 0 ∧ m.minute == 0 ∧ m.second == 0 ∧ m.micro == 0 then pure m.date.iso
  else pure m.iso

def weekdayNames : List String :=
  ["Monday", "Tuesday", "Wednesday", "Thursday", "Friday", "Saturday", "Sunday"]

def monthNames : List String :=
  ["January", "February", "March", "April", "May", "June", "July", "August", "September",
   "October", "November", "December"]

def abbrev3 (s : String) : String := String.ofList (s.toList.take 3)

/-- The ISO 8601 week-numbering year and week of a date. -/
def isoWeek (d : Date) : Int × Nat :=
  -- the Thursday of the date's week decides the year
  let thursday := Date.ofDays (d.toDays + 3 - d.weekday)
  (thursday.year, (thursday.ordinal - 1) / 7 + 1)

/-- How a directive was written: its padding flag (`_`, `-` or `0`), whether `^` asks for
upper case and `#` for the other case, its width, and its modifier (`E` or `O`). -/
structure Spec where
  pad : Option Char
  upper : Bool
  swap : Bool
  width : Option Nat
  modifier : Option Char

/-- Text brought to the directive's width on the left: with zeros under the `0` flag, else
with blanks. -/
def Spec.fill (sp : Spec) (s : String) : String :=
  let w := sp.width.getD 0
  if s.length < w then
    String.ofList (List.replicate (w - s.length) (if sp.pad == some '0' then '0' else ' ')) ++ s
  else s

/-- A number with at least `minDigits` digits (or as many as the width): padded with zeros
after the sign, or with blanks under `_` (the default of the blank-padded directives unless
`0` or `-` is given); under `-` unpadded, though still brought to the width. -/
def Spec.number (sp : Spec) (minDigits : Nat) (spacePad : Bool) (n : Int) : String :=
  let pad := if spacePad && sp.pad != some '0' && sp.pad != some '-' then some '_' else sp.pad
  let digits := max minDigits (sp.width.getD 0)
  let magnitude := toString n.natAbs
  let body := (if n < 0 then "-" else "") ++ magnitude
  if pad == some '-' then sp.fill body
  else if body.length < digits then
    let padding := digits - body.length
    if pad == some '_' then String.ofList (List.replicate padding ' ') ++ body
    else (if n < 0 then "-" else "") ++ String.ofList (List.replicate padding '0') ++ magnitude
  else sp.fill body

/-- Text in the case the directive asks for, brought to its width. -/
def Spec.text (sp : Spec) (lower upper : Bool) (s : String) : String :=
  sp.fill (if lower then String.map Char.toLower s else if upper then String.map Char.toUpper s else s)

/-- The week of the year, counted from the first Sunday or Monday. -/
def weekOfYear (d : Date) (firstDay : Nat) : Nat :=
  let wd := (d.weekday + 1) % 7
  (d.ordinal - 1 + 7 - (wd + 7 - firstDay) % 7) / 7

/-- What a directive stands for: a number, a name, a nested format, a fixed text, or nothing;
an invalid directive is written as it stands. -/
inductive Directive where
  | number (minDigits : Nat) (spacePad : Bool) (n : Int)
  | name (s : String) (lower : Bool)
  | nested (fmt : String)
  | fixed (s : String)
  | empty
  | invalid

/-- The meaning of a directive character under a modifier, for a moment, in the C locale. -/
def directiveFor (m : Moment) (modifier : Option Char) (c : Char) : Directive :=
  let d := m.date
  let wd := d.weekday
  let sundayBased := (wd + 1) % 7
  let hour12 := if m.hour % 12 == 0 then 12 else m.hour % 12
  let noE (x : Directive) : Directive := if modifier == some 'E' then .invalid else x
  let noO (x : Directive) : Directive := if modifier == some 'O' then .invalid else x
  let none (x : Directive) : Directive := if modifier.isSome then .invalid else x
  match c with
  | '%' => none (.fixed "%")
  | 'a' => none (.name (abbrev3 (weekdayNames.getD wd "")) false)
  | 'A' => none (.name (weekdayNames.getD wd "") false)
  | 'b' | 'h' => noE (.name (abbrev3 (monthNames.getD (d.month - 1) "")) false)
  | 'B' => noE (.name (monthNames.getD (d.month - 1) "") false)
  | 'c' => noO (.nested "%a %b %e %H:%M:%S %Y")
  | 'C' => .number 1 false (d.year.fdiv 100)
  | 'd' => noE (.number 2 false d.day)
  | 'D' => none (.nested "%m/%d/%y")
  | 'e' => noE (.number 2 true d.day)
  | 'F' => none (.nested "%Y-%m-%d")
  | 'g' => noE (.number 2 false ((isoWeek d).1.fmod 100))
  | 'G' => noE (.number 1 false (isoWeek d).1)
  | 'H' => noE (.number 2 false m.hour)
  | 'I' => noE (.number 2 false hour12)
  | 'j' => noE (.number 3 false d.ordinal)
  | 'k' => noE (.number 2 true m.hour)
  | 'l' => noE (.number 2 true hour12)
  | 'm' => noE (.number 2 false d.month)
  | 'M' => noE (.number 2 false m.minute)
  | 'n' => .fixed "\n"
  | 'p' => .name (if m.hour < 12 then "AM" else "PM") false
  | 'P' => .name (if m.hour < 12 then "AM" else "PM") true
  | 'r' => .nested "%I:%M:%S %p"
  | 'R' => .nested "%H:%M"
  | 's' => .number 1 false (m.wallSeconds - m.offset.getD 0)
  | 'S' => noE (.number 2 false m.second)
  | 't' => .fixed "\t"
  | 'T' => .nested "%H:%M:%S"
  | 'u' => .number 1 false (wd + 1)
  | 'U' => noE (.number 2 false (weekOfYear d 0))
  | 'V' => noE (.number 2 false (isoWeek d).2)
  | 'w' => noE (.number 1 false sundayBased)
  | 'W' => noE (.number 2 false (weekOfYear d 1))
  | 'x' => noO (.nested "%m/%d/%y")
  | 'X' => noO (.nested "%H:%M:%S")
  | 'y' => .number 2 false (d.year.fmod 100)
  | 'Y' => noO (.number 1 false d.year)
  | 'z' => .empty
  | 'Z' => .name "" false
  | _ => .invalid

def isPadFlag (c : Char) : Bool := c == '_' || c == '-' || c == '0'

/-- Reads the flags, width and modifier after a `%`; gives the spec and the rest. -/
def readSpec (cs : List Char) : Spec × List Char :=
  let rec flags : Nat → List Char → Spec → Spec × List Char
    | 0, r, sp => (sp, r)
    | fuel + 1, c :: r, sp =>
      if isPadFlag c then flags fuel r { sp with pad := some c }
      else if c == '^' then flags fuel r { sp with upper := true }
      else if c == '#' then flags fuel r { sp with swap := true }
      else (sp, c :: r)
    | _, [], sp => (sp, [])
  let (sp, r) := flags cs.length cs ⟨none, false, false, none, none⟩
  let digits := r.takeWhile Char.isDigit
  let r := r.drop digits.length
  let sp := if digits.isEmpty then sp
    else { sp with width := some (digits.foldl (fun n c => n * 10 + (c.toNat - 48)) 0) }
  match r with
  | 'E' :: r' => ({ sp with modifier := some 'E' }, r')
  | 'O' :: r' => ({ sp with modifier := some 'O' }, r')
  | r' => (sp, r')

/-- Writes a moment by a format: each directive `%` (flags, width, modifier, character) is
replaced by what it stands for, with `nested` writing nested formats (in upper case when
asked); an invalid or unfinished directive is written as it stands. -/
def scanFormat (m : Moment) (nested : Bool → String → String) (upcase : Bool) :
    Nat → List Char → List Char → String
  | 0, _, acc => String.ofList acc.reverse
  | _, [], acc => String.ofList acc.reverse
  | fuel + 1, '%' :: rest, acc =>
    let (sp, r) := readSpec rest
    let upper := upcase || sp.upper
    let raw (r' : List Char) : String := String.ofList ('%' :: rest.take (rest.length - r'.length))
    let out : String × List Char :=
      match r with
      | [] => (sp.text false upper (raw []), [])
      | c :: r' =>
        match directiveFor m sp.modifier c with
        | .number k spacePad n => (sp.number k spacePad n, r')
        | .name s lower =>
          let lower := lower || (sp.swap && (c == 'p' || c == 'Z'))
          (sp.text lower (upper || sp.swap) s, r')
        | .nested f =>
          let inner := nested upper f
          (sp.fill (if upper then String.map Char.toUpper inner else inner), r')
        | .fixed s => (sp.fill s, r')
        | .empty => ("", r')
        | .invalid => (sp.text false upper (raw r'), r')
    scanFormat m nested upcase fuel out.2 (out.1.toList.reverse ++ acc)
  | fuel + 1, c :: rest, acc => scanFormat m nested upcase fuel rest (c :: acc)

/-- Writes a moment by a format, nested formats to a depth. -/
def formatDirectives (m : Moment) : Nat → Bool → List Char → String
  | 0, _, _ => ""
  | depth + 1, upcase, fmt =>
    scanFormat m (fun up f => formatDirectives m depth up f.toList) upcase (fmt.length + 1) fmt []

/-- Replaces the directives for microseconds, offset and zone name, which are filled in from
the moment before the rest of the format is applied; `%%` is left for later. -/
def fillOwnDirectives (m : Moment) : List Char → List Char
  | [] => []
  | '%' :: 'f' :: rest => (padNat 6 m.micro).toList ++ fillOwnDirectives m rest
  | '%' :: 'z' :: rest =>
    (match m.offset with
     | some o => (offsetText "" o m.micro).toList
     | none => []) ++ fillOwnDirectives m rest
  | '%' :: 'Z' :: rest =>
    (match m.offset with
     | some _ => "UTC".toList
     | none => []) ++ fillOwnDirectives m rest
  | '%' :: c :: rest => '%' :: c :: fillOwnDirectives m rest
  | c :: rest => c :: fillOwnDirectives m rest

/-- A moment written by a `%` format. The format ends at its first NUL character; the
directives for microseconds, offset and zone name are filled in from the moment first, and
the rest as the C library writes them. -/
def Moment.format (m : Moment) (fmt : String) : String :=
  formatDirectives m 3 false (fillOwnDirectives m (fmt.toList.takeWhile (· != '\x00')))

/-- A timestamp written by a `%` format, in UTC. -/
def formatOf (ts : Value) (fmt : String) : Outcome String := do
  let m ← momentOf ts
  pure (Moment.format m fmt)

end Dashwright.Time
