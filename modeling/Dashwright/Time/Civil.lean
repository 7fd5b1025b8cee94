/-!
Civil time: proleptic Gregorian dates, wall-clock moments with an optional fixed offset,
and the count of days since 1970-01-01 that links them to timestamps.
-/

namespace Dashwright

/-- A date of the proleptic Gregorian calendar. -/
structure Date where
  year : Int
  month : Nat
  day : Nat
deriving BEq, DecidableEq, Inhabited, Repr

/-- A wall-clock instant on a date, with an offset from UTC in seconds when one is known. -/
structure Moment where
  date : Date
  hour : Nat
  minute : Nat
  second : Nat
  micro : Nat
  offset : Option Int
deriving BEq, DecidableEq, Inhabited, Repr

namespace Date

def isLeapYear (y : Int) : Bool :=
  (y % 4 == 0 && y % 100 != 0) || y % 400 == 0

def daysInMonth (y : Int) (m : Nat) : Nat :=
  match m with
  | 1 | 3 | 5 | 7 | 8 | 10 | 12 => 31
  | 4 | 6 | 9 | 11 => 30
  | 2 => if isLeapYear y then 29 else 28
  | _ => 0

/-- Days from 1970-01-01 to the date, by the era decomposition of the Gregorian cycle. -/
def toDays (d : Date) : Int :=
  let y : Int := if d.month ≤ 2 then d.year - 1 else d.year
  let era : Int := (if y ≥ 0 then y else y - 399) / 400
  let yoe : Int := y - era * 400
  let mp : Int := (d.month + 9) % 12
  let doy : Int := (153 * mp + 2) / 5 + d.day - 1
  let doe : Int := yoe * 365 + yoe / 4 - yoe / 100 + doy
  era * 146097 + doe - 719468

/-- The date that lies the given number of days after 1970-01-01. -/
def ofDays (z0 : Int) : Date :=
  let z := z0 + 719468
  let era : Int := (if z ≥ 0 then z else z - 146096) / 146097
  let doe : Int := z - era * 146097
  let yoe : Int := (doe - doe / 1460 + doe / 36524 - doe / 146096) / 365
  let y : Int := yoe + era * 400
  let doy : Int := doe - (365 * yoe + yoe / 4 - yoe / 100)
  let mp : Int := (5 * doy + 2) / 153
  let d : Int := doy - (153 * mp + 2) / 5 + 1
  let m : Int := if mp < 10 then mp + 3 else mp - 9
  { year := if m ≤ 2 then y + 1 else y, month := m.toNat, day := d.toNat }

/-- Day of the week, 0 for Monday through 6 for Sunday. -/
def weekday (d : Date) : Nat :=
  ((d.toDays + 3) % 7).toNat

/-- Day of the year, 1 for the first of January. -/
def ordinal (d : Date) : Nat :=
  (d.toDays - ({ year := d.year, month := 1, day := 1 } : Date).toDays).toNat + 1

def isValid (d : Date) : Bool :=
  1 ≤ d.month && d.month ≤ 12 && 1 ≤ d.day && d.day ≤ daysInMonth d.year d.month

end Date

/-- Zero-padded decimal text of a natural number, at least `width` digits. -/
def padNat (width : Nat) (n : Nat) : String :=
  let s := toString n
  String.ofList (List.replicate (width - s.length) '0') ++ s

/-- A year as four digits, or with a sign and four digits before year 1. -/
def yearText (y : Int) : String :=
  if y < 0 then "-" ++ padNat 4 y.natAbs else padNat 4 y.toNat

namespace Date

/-- ISO 8601 text, YYYY-MM-DD. -/
def iso (d : Date) : String :=
  yearText d.year ++ "-" ++ padNat 2 d.month ++ "-" ++ padNat 2 d.day

end Date

/-- Offset text: a sign, hours and minutes, then seconds and microseconds when present. -/
def offsetText (sep : String) (off : Int) (micro : Nat) : String :=
  let sign := if off < 0 then "-" else "+"
  let a := off.natAbs
  let base := sign ++ padNat 2 (a / 3600) ++ sep ++ padNat 2 (a / 60 % 60)
  if a % 60 == 0 && micro == 0 then base
  else if micro == 0 then base ++ sep ++ padNat 2 (a % 60)
  else base ++ sep ++ padNat 2 (a % 60) ++ "." ++ padNat 6 micro

namespace Moment

/-- Seconds since 1970-01-01T00:00:00 of the wall clock, ignoring the offset. -/
def wallSeconds (m : Moment) : Int :=
  m.date.toDays * 86400 + m.hour * 3600 + m.minute * 60 + m.second

/-- The time of day as HH:MM:SS, with microseconds when they are not zero. -/
def clockText (m : Moment) : String :=
  let base := padNat 2 m.hour ++ ":" ++ padNat 2 m.minute ++ ":" ++ padNat 2 m.second
  if m.micro == 0 then base else base ++ "." ++ padNat 6 m.micro

/-- ISO 8601 text with a separator between date and time. -/
def isoWith (sep : String) (m : Moment) : String :=
  m.date.iso ++ sep ++ m.clockText ++
    match m.offset with
    | none => ""
    | some o => offsetText ":" o 0

def iso (m : Moment) : String := isoWith "T" m

/-- The moment that lies the given number of microseconds after the epoch, at an offset. -/
def ofMicros (us : Int) (offset : Option Int) : Moment :=
  let days := us / 86400000000
  let rest := (us % 86400000000).toNat
  let secs := rest / 1000000
  { date := Date.ofDays days, hour := secs / 3600, minute := secs / 60 % 60,
    second := secs % 60, micro := rest % 1000000, offset := offset }

end Moment

end Dashwright
