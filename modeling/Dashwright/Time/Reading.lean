import Dashwright.Time.Stamp
import Dashwright.Time.Iso
import Dashwright.Text.Case
import Dashwright.Text.Blank

/-!
Reading dates and times written in free form: `2024-06-01T12:00:00Z`, `Dec 31, 2024`,
`1/2/03 3pm`, `Sat, 29 Feb 2020 23:59:59 +0100`.

The text is cut into tokens (runs of letters, runs of digits with their decimal marks,
single blanks and single other characters). Tokens are then read left to right: numbers fill
the date and the time by their length and their neighbours, names fill month, weekday, half
of the day and zone, and the date's numbers are assigned to year, month and day at the end
by their sizes. Missing fields come from a reference day; a two-digit year is taken within
fifty years of the reference year. A result without an offset is read as UTC.
-/

namespace Dashwright.Time

/-! ### Tokens -/

inductive LexMode where
  | word
  | number
  | wordDot
  | numberDot
deriving BEq

def isWordChar (c : Char) : Bool := Text.isAlpha c

def isNumChar (c : Char) : Bool := Text.isDigitChar c

/-- Continues a token whose characters so far are `tok` (last one first), in a mode; gives the
token, whether letters were seen after its first character, its final mode and the rest. -/
def readToken : Nat → LexMode → List Char → Bool → List Char →
    List Char × Bool × LexMode × List Char
  | 0, m, tok, seen, rest => (tok, seen, m, rest)
  | _, m, tok, seen, [] => (tok, seen, m, [])
  | fuel + 1, m, tok, seen, c :: rest =>
    let last := tok.head?
    match m with
    | .word =>
      if isWordChar c then readToken fuel .word (c :: tok) true rest
      else if c == '.' then readToken fuel .wordDot (c :: tok) true rest
      else (tok, true, .word, c :: rest)
    | .number =>
      if isNumChar c then readToken fuel .number (c :: tok) seen rest
      else if c == '.' || (c == ',' && tok.length ≥ 2) then readToken fuel .numberDot (c :: tok) seen rest
      else (tok, seen, .number, c :: rest)
    | .wordDot =>
      if c == '.' || isWordChar c then readToken fuel .wordDot (c :: tok) true rest
      else if isNumChar c && last == some '.' then readToken fuel .numberDot (c :: tok) true rest
      else (tok, true, .wordDot, c :: rest)
    | .numberDot =>
      if c == '.' || isNumChar c then readToken fuel .numberDot (c :: tok) seen rest
      else if isWordChar c && last == some '.' then readToken fuel .wordDot (c :: tok) seen rest
      else (tok, seen, .numberDot, c :: rest)

/-- Cuts a token at its dots and commas, which become pieces of their own. -/
def splitAtMarks (cs : List Char) : List (List Char) :=
  let rec go : List Char → List Char → List (List Char) → List (List Char)
    | [], cur, acc => (cur.reverse :: acc).reverse
    | c :: rest, cur, acc =>
      if c == '.' || c == ',' then go rest [] ([c] :: cur.reverse :: acc) else go rest (c :: cur) acc
  go cs [] []

/-- The tokens a finished token gives: a token with letters and marks, or with several dots,
or ending in a mark is cut at its marks; a number with commas and no dot takes the commas as
decimal points. -/
def finishToken (tok : List Char) (seen : Bool) (mode : LexMode) : List String :=
  let dotted := mode == .wordDot || mode == .numberDot
  let (first, others) :=
    if dotted && (seen || tok.count '.' > 1 || tok.getLast? == some '.' || tok.getLast? == some ',') then
      match splitAtMarks tok with
      | p :: ps => (p, ps.filter (!·.isEmpty))
      | [] => (tok, [])
    else (tok, [])
  let first := if mode == .numberDot && !first.contains '.' then
      first.map fun c => if c == ',' then '.' else c
    else first
  String.ofList first :: others.map String.ofList

/-- The character a date text is read with: a decimal digit of any script as the ASCII digit of
its value, as the number conversions read it. -/
def asciiDigitOf (c : Char) : Char :=
  match Text.decimalValue? c with
  | some d => Char.ofNat (48 + d)
  | none => c

def dateTokens (s : String) : List String :=
  let rec go : Nat → List Char → List String → List String
    | 0, _, acc => acc.reverse
    | _, [], acc => acc.reverse
    | fuel + 1, c :: rest, acc =>
      if isWordChar c || isNumChar c then
        let mode := if isWordChar c then LexMode.word else LexMode.number
        let (tok, seen, mode, rest') := readToken rest.length mode [c] false rest
        go fuel rest' ((finishToken tok.reverse seen mode).reverse ++ acc)
      else if Text.isSpace c then go fuel rest (" " :: acc)
      else go fuel rest (String.singleton c :: acc)
  let cs := (s.toList.filter (· != '\x00')).map asciiDigitOf
  go (cs.length + 1) cs []

/-! ### Names -/

def lowerIndex (table : List (List String)) (t : String) : Option Nat :=
  let l := Text.lower t
  table.findIdx? (·.contains l)

def jumpWords : List String :=
  [" ", ".", ",", ";", "-", "/", "'", "at", "on", "and", "ad", "m", "t", "of", "st", "nd", "rd", "th"]

def isJump (t : String) : Bool := jumpWords.contains (Text.lower t)

def weekdayOf? (t : String) : Option Nat :=
  lowerIndex [["mon", "monday"], ["tue", "tuesday"], ["wed", "wednesday"], ["thu", "thursday"],
    ["fri", "friday"], ["sat", "saturday"], ["sun", "sunday"]] t

def monthOf? (t : String) : Option Nat :=
  (lowerIndex [["jan", "january"], ["feb", "february"], ["mar", "march"], ["apr", "april"],
    ["may"], ["jun", "june"], ["jul", "july"], ["aug", "august"], ["sep", "sept", "september"],
    ["oct", "october"], ["nov", "november"], ["dec", "december"]] t).map (· + 1)

/-- Units of time: 0 hours, 1 minutes, 2 seconds. -/
def unitOf? (t : String) : Option Nat :=
  lowerIndex [["h", "hour", "hours"], ["m", "minute", "minutes"], ["s", "second", "seconds"]] t

/-- Halves of the day: 0 before noon, 1 after. -/
def halfOf? (t : String) : Option Nat := lowerIndex [["am", "a"], ["pm", "p"]] t

def isUtcName (t : String) : Bool := ["utc", "gmt", "z"].contains (Text.lower t)

/-! ### Numbers -/

/-- A non-negative decimal `num / 10^scale`. -/
structure Dec where
  num : Nat
  scale : Nat

namespace Dec

def unit (d : Dec) : Nat := Nat.pow 10 d.scale

def ofToken? (t : String) : Option Dec :=
  match Text.splitOn t "." with
  | [a] => (digitsValue a.toList).map fun n => ⟨n, 0⟩
  | [a, b] =>
    if (digitsValue a.toList).isSome && b.toList.all Char.isDigit then
      (digitsValue (a.toList ++ b.toList)).map fun n => ⟨n, b.length⟩
    else none
  | _ => none

def trunc (d : Dec) : Int := d.num / d.unit

def hasFraction (d : Dec) : Bool := d.num % d.unit != 0

/-- Sixty times the fraction, truncated. -/
def sixtieths (d : Dec) : Int := (60 * (d.num % d.unit)) / d.unit

def cmp (d : Dec) (k : Int) : Ordering :=
  if k < 0 then .gt else compare d.num (k.toNat * d.unit)

def lt (d : Dec) (k : Int) : Bool := d.cmp k == .lt
def le (d : Dec) (k : Int) : Bool := d.cmp k != .gt
def gt (d : Dec) (k : Int) : Bool := d.cmp k == .gt

end Dec

/-- Texts that read as a double but not as a finite decimal. -/
def isSpecialFloat (t : String) : Bool := ["nan", "inf", "infinity"].contains (Text.lower t)

def digitsOf? (s : String) : Option Int := (digitsValue s.toList).map Int.ofNat

abbrev Attempt := Except Unit

def need {α : Type} : Option α → Attempt α
  | some a => pure a
  | none => throw ()

/-- Seconds and microseconds of `S[.F]`: the fraction's first six digits. -/
def secondsAndMicros (v : String) : Attempt (Int × Int) := do
  match Text.splitOn v "." with
  | [a] => pure (← need (digitsOf? a), 0)
  | [a, b] =>
    let f := String.ofList ((b.toList ++ List.replicate 6 '0').take 6)
    pure (← need (digitsOf? a), ← need (digitsOf? f))
  | _ => throw ()

/-! ### Fields -/

/-- The year that two-digit years are read near, and the day that gives missing fields. -/
def referenceDate : Date := ⟨2025, 1, 1⟩

/-- A year below 100 written without its century: the one within fifty years of the
reference year. -/
def convertYear (y : Int) (century : Bool) : Int :=
  let ref : Int := referenceDate.year
  if y < 100 && !century then
    let y := y + ref / 100 * 100
    if y ≥ ref + 50 then y - 100 else if y < ref - 50 then y + 100 else y
  else y



/-- The numbers met for the date, with which of them are known to be year, month or day. -/
structure Ymd where
  items : List Int
  century : Bool
  yearAt : Option Nat
  monthAt : Option Nat
  dayAt : Option Nat

inductive Label where
  | year
  | month
  | none
deriving BEq

namespace Ymd

def empty : Ymd := ⟨[], false, none, none, none⟩

def push (y : Ymd) (v : Int) (label : Label) (century : Bool) : Attempt Ymd := do
  let label := if century then Label.year else label
  let y := { y with items := y.items ++ [v], century := y.century || century }
  let at_ := y.items.length - 1
  match label with
  | .month => if y.monthAt.isSome then throw () else pure { y with monthAt := some at_ }
  | .year => if y.yearAt.isSome then throw () else pure { y with yearAt := some at_ }
  | .none => pure y

/-- Adds a number written as a token; more than two digits make it the year. -/
def pushText (y : Ymd) (t : String) (label : Label) : Attempt Ymd := do
  let century := (digitsValue t.toList).isSome && t.length > 2
  y.push (← need (digitsOf? t)) label century

/-- Adds a number read as a decimal; above 100 it is the year. -/
def pushDec (y : Ymd) (d : Dec) : Attempt Ymd := y.push d.trunc .none (d.gt 100)

def pushMonth (y : Ymd) (m : Nat) : Attempt Ymd := y.push m .month false

def at? (y : Ymd) (i : Nat) : Int := y.items.getD i 0

def couldBeDay (y : Ymd) (v : Dec) : Bool :=
  if y.dayAt.isSome then false
  else match y.monthAt with
    | none => v.le 31 && !v.lt 1
    | some mi =>
      let month := y.at? mi
      let year := match y.yearAt with
        | some yi => y.at? yi
        | none => 2000
      !v.lt 1 && v.le (Date.daysInMonth year month.toNat)

/-- Assigns the numbers to year, month and day. -/
def resolve (y : Ymd) : Attempt (Option Int × Option Int × Option Int) := do
  let n := y.items.length
  let known := [y.yearAt, y.monthAt, y.dayAt].filterMap id
  let get (i : Option Nat) : Option Int := i.map y.at?
  if (n == known.length && n > 0) || (n == 3 && known.length == 2) then
    let missing := (List.range 3).filter (!known.contains ·)
    let fill (i : Option Nat) : Option Nat :=
      if n == 3 && known.length == 2 && i.isNone then missing.head? else i
    return (get (fill y.yearAt), get (fill y.monthAt), get (fill y.dayAt))
  let a := y.at? 0
  let b := y.at? 1
  let c := y.at? 2
  if n > 3 then throw ()
  else if n == 1 || (y.monthAt.isSome && n == 2) then
    match y.monthAt with
    | some mi =>
      let month := y.at? mi
      let other := if mi == 0 then y.at? (n - 1) else y.at? (mi - 1)
      if other > 31 then return (some other, some month, none) else return (none, some month, some other)
    | none => if a > 31 then return (some a, none, none) else return (none, none, some a)
  else if n == 2 then
    if a > 31 then return (some a, some b, none)
    else if b > 31 then return (some b, some a, none)
    else return (none, some a, some b)
  else if n == 3 then
    match y.monthAt with
    | some 0 => if b > 31 then return (some b, some a, some c) else return (some c, some a, some b)
    | some 1 => if a > 31 then return (some a, some b, some c) else return (some c, some b, some a)
    | some _ => if b > 31 then return (some b, some c, some a) else return (some a, some c, some b)
    | none =>
      if a > 31 || y.yearAt == some 0 then return (some a, some b, some c)
      else if a > 12 then return (some c, some b, some a)
      else return (some c, some a, some b)
  else return (none, none, none)

end Ymd

/-- What the tokens say. -/
structure Fields where
  year : Option Int
  month : Option Int
  day : Option Int
  weekday : Option Nat
  hour : Option Int
  minute : Option Int
  second : Option Int
  micro : Option Int
  zone : Option String
  offset : Option Int
  half : Option Nat

def Fields.empty : Fields :=
  ⟨none, none, none, none, none, none, none, none, none, none, none⟩

def Fields.isEmpty (f : Fields) : Bool :=
  f.year.isNone && f.month.isNone && f.day.isNone && f.weekday.isNone && f.hour.isNone &&
  f.minute.isNone && f.second.isNone && f.micro.isNone && f.zone.isNone && f.offset.isNone &&
  f.half.isNone

def toTwelveHour (hour : Int) (half : Nat) : Int :=
  if hour < 12 && half == 1 then hour + 12 else if hour == 12 && half == 0 then 0 else hour

/-- A zone name: upper-case ASCII of at most five letters, or a UTC name, after a time and
before any other zone. -/
def couldBeZone (f : Fields) (t : String) : Bool :=
  f.hour.isSome && f.zone.isNone && f.offset.isNone && t.length ≤ 5 &&
    (t.toList.all (fun c => 'A' ≤ c && c ≤ 'Z') || ["UTC", "GMT", "Z", "z"].contains t)

structure ReadState where
  tokens : Array String
  ymd : Ymd
  fields : Fields

section
variable (l : Array String)

def tok (i : Nat) : Attempt String := need l[i]?

def tokD (i : Nat) : String := l[i]?.getD ""

/-- The index of the unit word that applies to the number at `idx`, if any. -/
def unitIndex (idx : Nat) : Option Nat :=
  let n := l.size
  if idx + 1 < n && (unitOf? (tokD l (idx + 1))).isSome then some (idx + 1)
  else if idx + 2 < n && tokD l (idx + 1) == " " && (unitOf? (tokD l (idx + 2))).isSome then some (idx + 2)
  else if idx > 0 && (unitOf? (tokD l (idx - 1))).isSome then some (idx - 1)
  else if 1 < idx && idx == n - 1 && tokD l (idx - 1) == " " && (unitOf? (tokD l (idx - 2))).isSome then
    some (idx - 2)
  else none

end

/-- Reads the number at `idx`; gives the index of the last token used. -/
def readNumber (l : Array String) (idx : Nat) (st : ReadState) : Attempt (Nat × ReadState) := do
  let t ← tok l idx
  let v ← need (Dec.ofToken? t)
  let len := t.length
  let n := l.size
  let f := st.fields
  let ymd := st.ymd
  if ymd.items.length == 3 && (len == 2 || len == 4) && f.hour.isNone &&
      (idx + 1 ≥ n || (tokD l (idx + 1) != ":" && (unitOf? (tokD l (idx + 1))).isNone)) then
    let hour ← need (digitsOf? (String.ofList (t.toList.take 2)))
    let minute ← if len == 4 then some <$> need (digitsOf? (String.ofList (t.toList.drop 2))) else pure none
    return (idx, { st with fields := { f with hour := some hour, minute := minute.orElse fun _ => f.minute } })
  if len == 6 || (len > 6 && t.toList.findIdx? (· == '.') == some 6) then
    let cs := t.toList
    if ymd.items.isEmpty && !t.toList.contains '.' then
      let ymd ← ymd.pushText (String.ofList (cs.take 2)) .none
      let ymd ← ymd.pushText (String.ofList ((cs.drop 2).take 2)) .none
      let ymd ← ymd.pushText (String.ofList (cs.drop 4)) .none
      return (idx, { st with ymd := ymd })
    else
      let hour ← need (digitsOf? (String.ofList (cs.take 2)))
      let minute ← need (digitsOf? (String.ofList ((cs.drop 2).take 2)))
      let (sec, us) ← secondsAndMicros (String.ofList (cs.drop 4))
      let f := { f with hour := some hour, minute := some minute, second := some sec }
      return (idx, { st with fields := { f with micro := some us } })
  if len == 8 || len == 12 || len == 14 then
    let cs := t.toList
    let sub (a b : Nat) : String := String.ofList ((cs.drop a).take (b - a))
    let ymd ← ymd.pushText (sub 0 4) .year
    let ymd ← ymd.pushText (sub 4 6) .none
    let ymd ← ymd.pushText (sub 6 8) .none
    let mut f := f
    if len > 8 then
      f := { f with hour := some (← need (digitsOf? (sub 8 10))),
                    minute := some (← need (digitsOf? (sub 10 12))) }
      if len > 12 then
        f := { f with second := some (← need (digitsOf? (String.ofList (cs.drop 12)))) }
    return (idx, { st with ymd := ymd, fields := f })
  match unitIndex l idx with
  | some ui =>
    let (newIdx, unit) :=
      if ui > idx then (ui, unitOf? (tokD l ui)) else (idx, (unitOf? (tokD l ui)).map (· + 1))
    match unit with
    | some 0 =>
      let minute := if v.hasFraction then some v.sixtieths else f.minute
      return (newIdx, { st with fields := { f with hour := some v.trunc, minute := minute } })
    | some 1 =>
      let second := if v.hasFraction then some v.sixtieths else none
      return (newIdx, { st with fields := { f with minute := some v.trunc, second := second } })
    | some 2 =>
      let (sec, us) ← secondsAndMicros t
      return (newIdx, { st with fields := { f with second := some sec, micro := some us } })
    | _ => return (newIdx, st)
  | none => pure ()
  if idx + 2 < n && tokD l (idx + 1) == ":" then
    let mv ← need (Dec.ofToken? (tokD l (idx + 2)))
    let second := if mv.hasFraction then some mv.sixtieths else none
    let mut f := { f with hour := some v.trunc, minute := some mv.trunc, second := second }
    let mut i := idx
    if idx + 4 < n && tokD l (idx + 3) == ":" then
      let (sec, us) ← secondsAndMicros (tokD l (idx + 4))
      f := { f with second := some sec, micro := some us }
      i := i + 2
    return (i + 2, { st with fields := f })
  if idx + 1 < n && ["-", "/", "."].contains (tokD l (idx + 1)) then
    let sep := tokD l (idx + 1)
    let mut ymd ← ymd.pushText t .none
    let mut i := idx
    if idx + 2 < n && !isJump (tokD l (idx + 2)) then
      let t2 := tokD l (idx + 2)
      if (digitsValue t2.toList).isSome then ymd ← ymd.pushText t2 .none
      else ymd ← ymd.pushMonth (← need (monthOf? t2))
      if idx + 3 < n && tokD l (idx + 3) == sep then
        let t4 ← tok l (idx + 4)
        match monthOf? t4 with
        | some m => ymd ← ymd.pushMonth m
        | none => ymd ← ymd.pushText t4 .none
        i := i + 2
      i := i + 1
    return (i + 1, { st with ymd := ymd })
  if idx + 1 ≥ n || isJump (tokD l (idx + 1)) then
    if idx + 2 < n && (halfOf? (tokD l (idx + 2))).isSome then
      let half := (halfOf? (tokD l (idx + 2))).getD 0
      return (idx + 2, { st with fields := { f with hour := some (toTwelveHour v.trunc half) } })
    else
      return (idx + 1, { st with ymd := ← ymd.pushDec v })
  if (halfOf? (tokD l (idx + 1))).isSome && v.lt 24 then
    let half := (halfOf? (tokD l (idx + 1))).getD 0
    return (idx + 1, { st with fields := { f with hour := some (toTwelveHour v.trunc half) } })
  if ymd.couldBeDay v then
    return (idx, { st with ymd := ← ymd.pushDec v })
  throw ()

/-- Reads the token at `i`; gives the index of the next token to read. -/
def readAt (i : Nat) (st : ReadState) : Attempt (Nat × ReadState) := do
  let l := st.tokens
  let t ← tok l i
  let n := l.size
  let f := st.fields
  if (Dec.ofToken? t).isSome then
    let (j, st) ← readNumber l i st
    return (j + 1, st)
  if isSpecialFloat t then throw ()
  match weekdayOf? t with
  | some wd => return (i + 1, { st with fields := { f with weekday := some wd } })
  | none => pure ()
  match monthOf? t with
  | some m =>
    let mut ymd ← st.ymd.pushMonth m
    let mut j := i
    if i + 1 < n then
      let next := tokD l (i + 1)
      if next == "-" || next == "/" then
        ymd ← ymd.pushText (← tok l (i + 2)) .none
        if i + 3 < n && tokD l (i + 3) == next then
          ymd ← ymd.pushText (← tok l (i + 4)) .none
          j := j + 2
        j := j + 2
      else if i + 4 < n && next == " " && tokD l (i + 3) == " " && Text.lower (tokD l (i + 2)) == "of" then
        let t4 := tokD l (i + 4)
        if let some v := digitsValue t4.toList then
          let y := convertYear v false
          ymd ← ymd.push y .year ((toString y).length > 2)
        j := j + 4
    return (j + 1, { st with ymd := ymd })
  | none => pure ()
  match halfOf? t with
  | some half =>
    match f.hour with
    | none => throw ()
    | some h =>
      if h < 0 || h > 12 then throw ()
      return (i + 1, { st with fields := { f with hour := some (toTwelveHour h half), half := some half } })
  | none => pure ()
  if couldBeZone f t then
    let offset := if t == "z" then some 0 else none
    let mut f := { f with zone := some t, offset := offset }
    let mut l := l
    if i + 1 < n && (tokD l (i + 1) == "+" || tokD l (i + 1) == "-") then
      l := l.set! (i + 1) (if tokD l (i + 1) == "+" then "-" else "+")
      f := { f with offset := none }
      if isUtcName t then f := { f with zone := none }
    return (i + 1, { st with tokens := l, fields := f })
  if f.hour.isSome && (t == "+" || t == "-") then
    let sign : Int := if t == "+" then 1 else -1
    let t1 ← tok l (i + 1)
    let mut j := i
    let (h, m) ←
      if t1.length == 4 then
        pure (← need (digitsOf? (String.ofList (t1.toList.take 2))),
              ← need (digitsOf? (String.ofList (t1.toList.drop 2))))
      else if i + 2 < n && tokD l (i + 2) == ":" then do
        let h ← need (digitsOf? t1)
        let m ← need (digitsOf? (← tok l (i + 3)))
        j := j + 2
        pure (h, m)
      else if t1.length ≤ 2 then
        pure (← need (digitsOf? (String.ofList (t1.toList.take 2))), 0)
      else throw ()
    let mut f := { f with offset := some (sign * (h * 3600 + m * 60)) }
    if j + 5 < n && isJump (tokD l (j + 2)) && tokD l (j + 3) == "(" && tokD l (j + 5) == ")" &&
        3 ≤ (tokD l (j + 4)).length && couldBeZone { f with offset := none } (tokD l (j + 4)) then
      f := { f with zone := some (tokD l (j + 4)) }
      j := j + 4
    return (j + 2, { st with fields := f })
  if isJump t then return (i + 1, st)
  throw ()

/-- Reads all tokens from `i` on. -/
def readFrom : Nat → Nat → ReadState → Attempt ReadState
  | 0, _, st => pure st
  | fuel + 1, i, st =>
    if i < st.tokens.size then do
      let (j, st) ← readAt i st
      readFrom fuel j st
    else pure st

/-- The fields of a text, or nothing when the text is not a date. -/
def readFields (s : String) : Attempt Fields := do
  let toks := (dateTokens s).toArray
  let st ← readFrom (toks.size + 1) 0 ⟨toks, Ymd.empty, Fields.empty⟩
  let (y, m, d) ← st.ymd.resolve
  let f := { st.fields with year := y.map (convertYear · st.ymd.century), month := m, day := d }
  let utcLike (z : Option String) : Bool := (z.map isUtcName).getD false
  if (f.offset == some 0 && f.zone.isNone) || f.zone == some "Z" || f.zone == some "z" then
    return { f with zone := some "UTC", offset := some 0 }
  else if f.offset != some 0 && utcLike f.zone then
    return { f with offset := some 0 }
  else return f

/-- Why fields make no moment: a field too large to be passed on at all, or a field out of its
range. -/
inductive MomentProblem where
  | overflow (why : String)
  | outOfRange (why : String)

/-- Why an integer cannot be passed where a machine integer of 32 bits is wanted. -/
def machineIntProblem? (v : Int) : Option String :=
  if v ≥ Int.pow 2 63 || v < -(Int.pow 2 63) then some "Python int too large to convert to C long"
  else if v > 2147483647 then some "signed integer is greater than maximum"
  else if v < -2147483648 then some "signed integer is less than minimum"
  else none

/-- Why fields make no moment: the first field too large to pass, else the first field out of
its range. -/
def Fields.toMoment (f : Fields) : Except MomentProblem Moment := do
  let ref := referenceDate
  let year := f.year.getD ref.year
  let month := f.month.getD ref.month
  let day ← match f.day with
    | some d => pure d
    | none =>
      if month < 1 || month > 12 then
        throw (.outOfRange ("bad month number " ++ toString month ++ "; must be 1-12"))
      pure (min (ref.day : Int) (Date.daysInMonth year month.toNat))
  let given := [f.year, f.month, some day, f.hour, f.minute, f.second, f.micro]
  if let some why := (given.filterMap id).findSome? machineIntProblem? then throw (.overflow why)
  let range (ok : Bool) (why : String) : Except MomentProblem Unit :=
    if ok then pure () else throw (.outOfRange why)
  range (1 ≤ year && year ≤ 9999) ("year " ++ toString year ++ " is out of range")
  range (1 ≤ month && month ≤ 12) "month must be in 1..12"
  range (1 ≤ day && day ≤ Date.daysInMonth year month.toNat) "day is out of range for month"
  let hour := f.hour.getD 0
  let minute := f.minute.getD 0
  let second := f.second.getD 0
  let micro := f.micro.getD 0
  range (0 ≤ hour && hour ≤ 23) "hour must be in 0..23"
  range (0 ≤ minute && minute ≤ 59) "minute must be in 0..59"
  range (0 ≤ second && second ≤ 59) "second must be in 0..59"
  range (0 ≤ micro && micro ≤ 999999) "microsecond must be in 0..999999"
  let date : Date := ⟨year, month.toNat, day.toNat⟩
  let date := match f.weekday with
    | some wd => if f.day.isNone then Date.ofDays (date.toDays + ((wd + 7 - date.weekday) % 7 : Nat)) else date
    | none => date
  let offset := if f.zone == some "UTC" then 0 else f.offset.getD 0
  pure ⟨date, hour.toNat, minute.toNat, second.toNat, micro.toNat, some offset⟩

def unreadable (text : String) (why : String) : Failure :=
  Failure.make .unreadableDate (why ++ ": " ++ text)

/-- The moment a free-form date text denotes; without an offset it is in UTC. -/
def readMoment (text : String) : Outcome Moment := do
  match readFields text with
  | .error _ => throw (unreadable text "Unknown string format")
  | .ok f =>
    if f.isEmpty then throw (unreadable text "String does not contain a date")
    match f.toMoment with
    | .error (.outOfRange why) => throw (unreadable text why)
    | .error (.overflow why) => throw (Failure.make .overflow why)
    | .ok m => pure m

/-- The timestamp of a free-form date text. -/
def unixOf (v : Value) : Outcome Float := do
  match v with
  | .str text =>
    let m ← readMoment text
    let off := m.offset.getD 0
    if off ≤ -86400 || off ≥ 86400 then
      throw (Failure.badValue
        "offset must be a timedelta strictly between -timedelta(hours=24) and timedelta(hours=24).")
    let us := (m.wallSeconds - off) * 1000000 + m.micro
    pure (Number.floatOfDecimal (us < 0) us.natAbs (-6))
  | other => throw (Failure.wrongType
      ("Parser must be a string or character stream, not " ++ other.typeName))

end Dashwright.Time
