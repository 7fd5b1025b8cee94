import Dashwright.Time.Reading
import Dashwright.Value.Convert

/-!
Reading a date text the way a data-frame reader turns a column of texts into moments with
nanosecond resolution.

A text is tried in this order:

* the empty text and the words for a missing moment (`NaT`, `nan` and their cases) are gaps;
* a relaxed ISO 8601 form: blanks before, a four-digit year (or none), month and day with or
  without one of the separators `- . / \` or a space (one- or two-digit fields need a
  separator), a `T` or a space, a clock whose fields may lack their leading zero when a colon
  separates them, a fraction after a point, then `Z` or an offset `±H`, `±HH`, `±HH:MM`,
  `±HHMM`, and blanks;
* texts that read as a plain number below a thousand are not dates, nor are texts that start
  with a clock (they would take today's date);
* `MM/DD/YYYY`, `DD/MM/YYYY`, `M/D/YYYY` and `MM/YYYY` with the separators ` / - .`, the day
  and month swapped when the month is above twelve;
* a year of four characters, a quarter (`4Q24`, `2Q2024`, `24Q1`, `2024-Q1`), or a month
  (`2024-1`, `Jan 2024`, `Jan-2024`), each its first day;
* the free-form fields of `readFields`, with the missing ones taken from 0001-01-01 at
  midnight.

A moment must lie within the nanosecond range on its own clock and in UTC. A text that no
form reads, or that reads out of range, is not a date.
-/

namespace Dashwright.Time.Lenient

/-- A moment read from a date text: nanoseconds since the epoch in UTC, and the offset from
UTC in seconds that the text named, if it named one. -/
structure Stamp where
  nanos : Int
  offset : Option Int
deriving BEq, Inhabited

/-- What a date text reads as: a gap or a moment. -/
inductive Reading where
  | gap
  | stamp (s : Stamp)
deriving BEq, Inhabited

/-- The largest count of nanoseconds a moment may have; its negation is the smallest. -/
def nanoLimit : Int := 9223372036854775807

/-- Whether a count of nanoseconds is within the range of moments. -/
def inNanoRange (n : Int) : Bool := -nanoLimit ≤ n && n ≤ nanoLimit

/-- Nanoseconds since the epoch of a wall-clock time on a date. -/
def wallNanos (d : Date) (hour minute second : Nat) (nanos : Nat) : Int :=
  ((d.toDays * 86400 + (hour * 3600 + minute * 60 + second : Nat)) * 1000000000) + nanos

/-- The moment of a wall-clock time with an optional offset in seconds, when both the wall
clock and UTC are within range. -/
def stampOf (wall : Int) (offset : Option Int) : Option Stamp :=
  let utc := wall - offset.getD 0 * 1000000000
  if inNanoRange wall && inNanoRange utc then some ⟨utc, offset⟩ else none

def gapWords : List String := ["NaT", "nat", "NAT", "nan", "NaN", "NAN"]

/-! ### The relaxed ISO form -/

abbrev Bytes := Array UInt8

/-- The byte at a position, NUL past the end. -/
def byteAt (bs : Bytes) (i : Nat) : UInt8 := bs.getD i 0

def isDigitByte (b : UInt8) : Bool := 48 ≤ b && b ≤ 57

/-- Blank bytes: the space, tab, newline, vertical tab, form feed and carriage return. -/
def isBlankByte (b : UInt8) : Bool := b == 32 || (9 ≤ b && b ≤ 13)

/-- The first position at or after `i` that is not blank. -/
def skipBlanks (bs : Bytes) (i : Nat) : Nat :=
  if h : i < bs.size then
    if isBlankByte bs[i] then skipBlanks bs (i + 1) else i
  else i
termination_by bs.size - i

/-- Reads up to `count` digits, scaling the value by ten for each place whether or not a
digit fills it: the value and the position after the digits. -/
def scaledDigits (bs : Bytes) : Nat → Nat → Nat → Nat × Nat
  | 0, i, v => (v, i)
  | count + 1, i, v =>
    let b := byteAt bs i
    if i < bs.size && isDigitByte b then scaledDigits bs count (i + 1) (v * 10 + (b.toNat - 48))
    else scaledDigits bs count i (v * 10)

/-- Reads a zone at a position: nothing, `Z`, or an offset; then blanks to the end. Gives the
offset in minutes, if there is one. -/
def readZone (bs : Bytes) (start : Nat) : Option (Option Int) := do
  let n := bs.size
  let dig (i : Nat) : Bool := isDigitByte (byteAt bs i)
  let dv (i : Nat) : Nat := (byteAt bs i).toNat - 48
  let i := skipBlanks bs start
  if i == n then return none
  let c := byteAt bs i
  let (offset, j) ← (if c == 90 then some (some (0 : Int), i + 1)
    else if c == 45 || c == 43 then do
      let j := i + 1
      let (hours, j) ← (if n - j ≥ 2 && dig j && dig (j + 1) then
          let h := dv j * 10 + dv (j + 1)
          if h ≥ 24 then none else some (h, j + 2)
        else if n - j ≥ 1 && dig j then some (dv j, j + 1)
        else none)
      let (minutes, j) ← (if j < n then
          let j := if byteAt bs j == 58 then j + 1 else j
          if n - j ≥ 2 && dig j && dig (j + 1) then
            let m := dv j * 10 + dv (j + 1)
            if m ≥ 60 then none else some (m, j + 2)
          else if n - j ≥ 1 && dig j then some (dv j, j + 1)
          else none
        else some (0, j))
      let total : Int := (hours * 60 + minutes : Nat)
      some (some (if c == 45 then -total else total), j)
    else some (none, i))
  if skipBlanks bs j == n then some offset else none

/-- The clock of the relaxed ISO form from the position after the date: hour, minute, second
and nanoseconds, and the position where a zone may start. -/
def readClock (bs : Bytes) (start : Nat) : Option (Nat × Nat × Nat × Nat × Nat) := do
  let n := bs.size
  let dig (i : Nat) : Bool := isDigitByte (byteAt bs i)
  let dv (i : Nat) : Nat := (byteAt bs i).toNat - 48
  let mut i := start
  if !dig i then none
  let mut hour := dv i
  i := i + 1
  let mut twoDigitHour := false
  if dig i then
    hour := hour * 10 + dv i
    i := i + 1
    twoDigitHour := true
    if hour ≥ 24 then none
  if i == n then
    if !twoDigitHour then none
    return (hour, 0, 0, 0, i)
  let mut colons := false
  if byteAt bs i == 58 then
    colons := true
    i := i + 1
    if i == n || !dig i then none
  else if !dig i then
    if !twoDigitHour then none
    return (hour, 0, 0, 0, i)
  let mut minute := dv i
  i := i + 1
  if dig i then
    minute := minute * 10 + dv i
    i := i + 1
    if minute ≥ 60 then none
  else if !colons then none
  if i == n then return (hour, minute, 0, 0, i)
  if colons && byteAt bs i == 58 then
    i := i + 1
    if i == n || !dig i then none
  else if !(!colons && dig i) then
    return (hour, minute, 0, 0, i)
  let mut second := dv i
  i := i + 1
  if dig i then
    second := second * 10 + dv i
    i := i + 1
    if second ≥ 60 then none
  else if !colons then none
  if !(i < n && byteAt bs i == 46) then return (hour, minute, second, 0, i)
  let (micros, j) := scaledDigits bs 6 (i + 1) 0
  if j == n || !dig j then return (hour, minute, second, micros * 1000, j)
  let (picos, k) := scaledDigits bs 6 j 0
  if k == n || !dig k then return (hour, minute, second, micros * 1000 + picos / 1000, k)
  let (_, l) := scaledDigits bs 6 k 0
  return (hour, minute, second, micros * 1000 + picos / 1000, l)

/-- The wall-clock nanoseconds and the offset in minutes of a text in the relaxed ISO form,
or nothing when the text is not in that form or names a field out of its range. -/
def readIso (s : String) : Option (Int × Option Int) := do
  let bs := s.toUTF8.data
  let n := bs.size
  let dig (i : Nat) : Bool := isDigitByte (byteAt bs i)
  let dv (i : Nat) : Nat := (byteAt bs i).toNat - 48
  let mut i := skipBlanks bs 0
  if byteAt bs i == 45 then i := i + 1
  if i == n then none
  let mut year : Int := 0
  if n - i ≥ 4 && dig i && dig (i + 1) && dig (i + 2) && dig (i + 3) then
    year := (dv i * 1000 + dv (i + 1) * 100 + dv (i + 2) * 10 + dv (i + 3) : Nat)
    i := i + 4
  if byteAt bs 0 == 45 then year := -year
  let midnight (d : Date) : Int := wallNanos d 0 0 0 0
  if i == n then return (midnight ⟨year, 1, 1⟩, none)
  let mut separator : Option UInt8 := none
  if !dig i then
    let c := byteAt bs i
    if !([45, 46, 47, 92, 32].contains c) then none
    separator := some c
    i := i + 1
    if i == n || !dig i then none
  let mut month := dv i
  i := i + 1
  if dig i then
    month := month * 10 + dv i
    i := i + 1
  else if separator.isNone then none
  if month < 1 || month > 12 then none
  if i == n then
    if separator.isNone then none
    return (midnight ⟨year, month, 1⟩, none)
  if let some c := separator then
    if byteAt bs i != c || n - i == 1 then none
    i := i + 1
  if !dig i then none
  let mut day := dv i
  i := i + 1
  if dig i then
    day := day * 10 + dv i
    i := i + 1
  else if separator.isNone then none
  if day < 1 || day > Date.daysInMonth year month then none
  let date : Date := ⟨year, month, day⟩
  if i == n then return (midnight date, none)
  if (byteAt bs i != 84 && byteAt bs i != 32) || n - i == 1 then none
  let (hour, minute, second, nanos, j) ← readClock bs (i + 1)
  let offset ← readZone bs j
  return (wallNanos date hour minute second nanos, offset)

/-! ### Numbers that are not dates -/

/-- The value of a text that is wholly a plain decimal number, with blanks around it, as the
fast number reader computes it: nothing when the text is anything else or its exponent is out
of the range of doubles. -/
def plainNumber? (s : String) : Option Float := do
  let cs := s.toList.toArray
  let n := cs.size
  let charAt (i : Nat) : Char := cs.getD i '\x00'
  let blank (c : Char) : Bool := c == ' ' || c == '\t' || c == '\n' || c == '\r' || c == '\x0b' || c == '\x0c'
  let mut i := 0
  while i < n && blank (charAt i) do i := i + 1
  let negative := charAt i == '-'
  if charAt i == '-' || charAt i == '+' then i := i + 1
  let mut digits := 0
  let mut number : Float := 0.0
  while charAt i |>.isDigit do
    number := number * 10.0 + (charAt i).toNat.toFloat - 48.0
    i := i + 1
    digits := digits + 1
  let mut exponent : Int := 0
  if charAt i == '.' then
    i := i + 1
    while charAt i |>.isDigit do
      number := number * 10.0 + (charAt i).toNat.toFloat - 48.0
      i := i + 1
      digits := digits + 1
      exponent := exponent - 1
  if digits == 0 then none
  if negative then number := -number
  if charAt i == 'e' || charAt i == 'E' then
    let mark := i
    i := i + 1
    let expNegative := charAt i == '-'
    if charAt i == '-' || charAt i == '+' then i := i + 1
    let mut expDigits := 0
    let mut e : Int := 0
    while expDigits < 10 && (charAt i).isDigit do
      e := e * 10 + ((charAt i).toNat - 48 : Nat)
      i := i + 1
      expDigits := expDigits + 1
    if expDigits == 0 then i := if expNegative || charAt (mark + 1) == '+' then mark + 1 else mark
    exponent := if expNegative then exponent - e else exponent + e
  if exponent < -1021 || exponent > 1024 then none
  let scale := Float.ofScientific 1 false exponent.natAbs
  number := if exponent < 0 then number / scale else number * scale
  while i < n && blank (charAt i) do i := i + 1
  if i == n then some number else none

/-- Whether a text may be a date at all: texts starting with a zero may; one-letter words of
halves of the day and of the clock separator may not, nor may texts that are wholly a number
below a thousand. -/
def looksLikeDate (s : String) : Bool :=
  if s.startsWith "0" then true
  else if ["a", "A", "m", "M", "p", "P", "t", "T"].contains s then false
  else match plainNumber? s with
    | some v => v ≥ 1000.0
    | none => true

/-- Whether a text starts with a clock `H:MM` or `HH:MM`, hours below twenty-four. -/
def startsWithClock (s : String) : Bool :=
  let cs := s.toList
  let digit (c : Char) : Bool := '0' ≤ c && c ≤ '9'
  let minutes (rest : List Char) : Bool :=
    match rest with
    | ':' :: a :: b :: _ => '0' ≤ a && a ≤ '5' && digit b
    | _ => false
  match cs with
  | a :: b :: rest =>
    (digit a && minutes (b :: rest)) ||
      ((a == '0' || a == '1') && digit b && minutes rest) ||
      (a == '2' && '0' ≤ b && b ≤ '3' && minutes rest)
  | _ => false

/-! ### Short numeric and abbreviated dates -/

/-- The value of a run of ASCII digits at a position of bytes. -/
def asciiNumber (bs : Bytes) (start count : Nat) : Option Nat :=
  (List.range count).foldlM (fun v k =>
    let b := byteAt bs (start + k)
    if isDigitByte b then some (v * 10 + (b.toNat - 48)) else none) 0

/-- A date written `MM/DD/YYYY`, `M/DD/YYYY`, `MM/D/YYYY`, `M/D/YYYY` or `MM/YYYY` with the
separators space, point, slash or hyphen: nothing when the text is not in these forms, `some
none` when it is but names no date. Day and month swap when the month is above twelve. -/
def delimitedDate (s : String) : Option (Option Date) :=
  let bs := s.toUTF8.data
  let isSeparator (i : Nat) : Bool :=
    let b := byteAt bs i
    b == 32 || b == 46 || b == 47 || b == 45
  let fields : Option (Option Nat × Option Nat × Option Nat × Bool) :=
    if bs.size == 10 && isSeparator 2 && isSeparator 5 then
      some (asciiNumber bs 0 2, asciiNumber bs 3 2, asciiNumber bs 6 4, true)
    else if bs.size == 9 && isSeparator 1 && isSeparator 4 then
      some (asciiNumber bs 0 1, asciiNumber bs 2 2, asciiNumber bs 5 4, true)
    else if bs.size == 9 && isSeparator 2 && isSeparator 4 then
      some (asciiNumber bs 0 2, asciiNumber bs 3 1, asciiNumber bs 5 4, true)
    else if bs.size == 8 && isSeparator 1 && isSeparator 3 then
      some (asciiNumber bs 0 1, asciiNumber bs 2 1, asciiNumber bs 4 4, true)
    else if bs.size == 7 && isSeparator 2 && byteAt bs 2 != 46 then
      some (asciiNumber bs 0 2, some 1, asciiNumber bs 3 4, false)
    else none
  match fields with
  | some (some month, some day, some year, swappable) =>
    if year < 1000 then none
    else if 1 ≤ month && month ≤ 31 && 1 ≤ day && day ≤ 31 && (month ≤ 12 || day ≤ 12) then
      let (month, day) := if month > 12 && swappable then (day, month) else (month, day)
      let d : Date := ⟨year, month, day⟩
      some (if d.isValid then some d else none)
    else some none
  | _ => none

/-- The abbreviated month names, in lower case. -/
def monthAbbreviations : List String :=
  ["jan", "feb", "mar", "apr", "may", "jun", "jul", "aug", "sep", "oct", "nov", "dec"]

def fourDigits (cs : List Char) : Option Nat :=
  match cs with
  | [a, b, c, d] => [a, b, c, d].foldlM (fun v x => (Text.decimalValue? x).map (v * 10 + ·)) 0
  | _ => none

/-- A month written `YYYY-M`, `Mon YYYY` or `Mon-YYYY`, as its first day. -/
def monthDate (s : String) : Option Date :=
  let cs := s.toList
  let dated (y : Nat) (m : Nat) : Option Date := if y ≥ 1 then some ⟨y, m, 1⟩ else none
  let byNumber : Option Date :=
    match cs with
    | a :: b :: c :: d :: '-' :: rest => do
      let y ← fourDigits [a, b, c, d]
      let m ← match rest with
        | ['1', x] => if '0' ≤ x && x ≤ '2' then some (10 + (x.toNat - 48)) else none
        | ['0', x] => if '1' ≤ x && x ≤ '9' then some (x.toNat - 48) else none
        | [x] => if '1' ≤ x && x ≤ '9' then some (x.toNat - 48) else none
        | _ => none
      dated y m
    | _ => none
  let byName : Option Date :=
    match cs with
    | a :: b :: c :: rest => do
      let m ← monthAbbreviations.findIdx? fun name =>
        match name.toList with
        | [x, y, z] => Text.matchesLetterIgnoringCase a x && Text.matchesLetterIgnoringCase b y &&
            Text.matchesLetterIgnoringCase c z
        | _ => false
      let yearChars ← match rest with
        | '-' :: ys => some ys
        | sp :: more =>
          if Text.isSpace sp then some (more.dropWhile Text.isSpace)
          else none
        | [] => none
      let y ← fourDigits yearChars
      dated y (m + 1)
    | _ => none
  byNumber <|> byName

/-- A date written as a year of four characters, a quarter or a month, on the text in upper
case: nothing when it is none of these, `some none` when it names a quarter out of range. -/
def abbreviatedDate (s : String) : Option (Option Date) :=
  let u := Text.upper s
  let cs := u.toList.toArray
  let n := cs.size
  let part (a b : Nat) : Option Int := Value.parseIntText? (String.ofList (cs.extract a b).toList)
  let charAt (i : Nat) : Char := cs.getD i '\x00'
  let yearOnly : Option Date :=
    if n == 4 then
      match part 0 4 with
      | some y => if 1 ≤ y && y ≤ 9999 then some ⟨y, 1, 1⟩ else none
      | none => none
    else none
  match yearOnly with
  | some d => some (some d)
  | none =>
    let quarterAndYear : Option (Int × Int) :=
      if 4 ≤ n && n ≤ 7 then
        match (List.range (min n 6)).find? fun k => k ≥ 1 && charAt k == 'Q' with
        | some 1 => do
          let q ← part 0 1
          if n == 4 || (n == 5 && charAt 2 == '-') then pure (q, 2000 + (← part (n - 2) n))
          else if n == 6 || (n == 7 && charAt 2 == '-') then pure (q, ← part (n - 4) n)
          else none
        | some i =>
          if i == 2 || i == 3 then
            if n == 4 || (n == 5 && charAt (i - 1) == '-') then do
              let q ← part (n - 1) n
              pure (q, 2000 + (← part 0 2))
            else none
          else if n == 6 || (n == 7 && charAt (i - 1) == '-') then do
            let q ← part (n - 1) n
            pure (q, ← part 0 4)
          else none
        | none => none
      else none
    match quarterAndYear with
    | some (q, y) =>
      if q < 1 || q > 4 then some none
      else if 1 ≤ y && y ≤ 9999 then some (some ⟨y, ((q - 1) * 3 + 1).toNat, 1⟩)
      else (monthDate u).map some
    | none => (monthDate u).map some

/-! ### Free-form dates -/

/-- Whether a text holds a clock written `HH:MM:SS.f`, two digits a field and at least one
after the point. -/
def hasClockFraction (s : String) : Bool :=
  let digit (c : Char) : Bool := (Text.decimalValue? c).isSome
  let rec scan : List Char → Bool
    | [] => false
    | cs@(_ :: rest) =>
      match cs with
      | h1 :: h2 :: ':' :: m1 :: m2 :: ':' :: s1 :: s2 :: '.' :: f :: _ =>
        (digit h1 && digit h2 && digit m1 && digit m2 && digit s1 && digit s2 && digit f) || scan rest
      | _ => scan rest
  scan s.toList

/-- The moment of the free-form fields of a text, missing ones taken from 0001-01-01 at
midnight, when every field is in its range. The fraction of a second counts only when it is
not whole milliseconds or the text writes it after a full clock `HH:MM:SS.`; otherwise the
moment is kept to whole seconds. -/
def freeFormStamp (s : String) : Option Stamp := do
  let f ← (readFields s).toOption
  if f.isEmpty then none
  let year := f.year.getD 1
  let month := f.month.getD 1
  if !(1 ≤ year && year ≤ 9999 && 1 ≤ month && month ≤ 12) then none
  let day := f.day.getD 1
  let hour := f.hour.getD 0
  let minute := f.minute.getD 0
  let second := f.second.getD 0
  let micro := f.micro.getD 0
  if !(1 ≤ day && day ≤ Date.daysInMonth year month.toNat) then none
  if !(0 ≤ hour && hour ≤ 23 && 0 ≤ minute && minute ≤ 59 && 0 ≤ second && second ≤ 59 &&
      0 ≤ micro && micro ≤ 999999) then none
  let date : Date := ⟨year, month.toNat, day.toNat⟩
  let date := match f.weekday with
    | some wd =>
      if f.day.isNone then Date.ofDays (date.toDays + ((wd + 7 - date.weekday) % 7 : Nat)) else date
    | none => date
  let offset : Option Int := if f.zone == some "UTC" then some 0 else f.offset
  if let some o := offset then
    if o ≤ -86400 || o ≥ 86400 then none
  let micro := if micro % 1000 == 0 && !hasClockFraction s then 0 else micro
  stampOf (wallNanos date hour.toNat minute.toNat second.toNat (micro.toNat * 1000)) offset

/-! ### Any date text -/

/-- How a date text reads: a gap, a moment, or nothing when it is not a date in range. -/
def readDateText (s : String) : Option Reading :=
  if s.isEmpty || gapWords.contains s then some .gap
  else match readIso s with
    | some (wall, minutes) => (stampOf wall (minutes.map (· * 60))).map Reading.stamp
    | none =>
      if s == "now" || s == "today" || !looksLikeDate s || startsWithClock s then none
      else
        let midnight (d : Date) : Option Reading := (stampOf (wallNanos d 0 0 0 0) none).map .stamp
        match delimitedDate s with
        | some found => found.bind midnight
        | none =>
          match abbreviatedDate s with
          | some found => found.bind midnight
          | none => (freeFormStamp s).map .stamp

end Dashwright.Time.Lenient
