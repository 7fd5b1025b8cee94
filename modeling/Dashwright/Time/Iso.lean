import Dashwright.Time.Civil

/-!
Reading date-times written in ISO 8601: a date `YYYY-MM-DD`, optionally followed by `T`, `t`,
`_` or a space and a time `HH:MM`, `HH:MM:SS` or `HH:MM:SS.f` (at most microseconds kept), and
then optionally `Z` or an offset `±HH:MM`, `±HHMM` or `±HH`. A date alone is its midnight.
Moments written without an offset have none.
-/

namespace Dashwright.Time

def digitsValue (cs : List Char) : Option Nat :=
  if cs.isEmpty || !cs.all Char.isDigit then none
  else some (cs.foldl (fun acc c => acc * 10 + (c.toNat - 48)) 0)

def takeNumber (k : Nat) (cs : List Char) : Option (Nat × List Char) := do
  let v ← digitsValue (cs.take k)
  if (cs.take k).length != k then none
  pure (v, cs.drop k)

/-- Reads an offset: `Z`, or a sign with hours and optional minutes. -/
def readOffset : List Char → Option Int
  | ['Z'] | ['z'] => some 0
  | sign :: rest =>
    if sign != '+' && sign != '-' then none
    else do
      let (h, rest) ← takeNumber 2 rest
      let m ← match rest with
        | [] => pure 0
        | ':' :: more => do let (m, r) ← takeNumber 2 more; if r.isEmpty then pure m else none
        | more => do let (m, r) ← takeNumber 2 more; if r.isEmpty then pure m else none
      if h > 23 || m > 59 then none
      let secs : Int := h * 3600 + m * 60
      pure (if sign == '-' then -secs else secs)
  | [] => none

def readClock (cs : List Char) : Option (Nat × Nat × Nat × Nat × Option Int) := do
  let (h, rest) ← takeNumber 2 cs
  let rest ← match rest with
    | ':' :: r => pure r
    | _ => none
  let (m, rest) ← takeNumber 2 rest
  let (s, rest) ← match rest with
    | ':' :: r => takeNumber 2 r
    | r => pure (0, r)
  let (micro, rest) ← match rest with
    | '.' :: r =>
      let ds := r.takeWhile Char.isDigit
      if ds.isEmpty then none
      else
        let six := (ds.take 6) ++ List.replicate (6 - min 6 ds.length) '0'
        pure ((digitsValue six).getD 0, r.drop ds.length)
    | r => pure (0, r)
  let offset ← if rest.isEmpty then pure none else (some <$> readOffset rest)
  if h > 23 || m > 59 || s > 59 then none
  pure (h, m, s, micro, offset)

def readIsoMoment (text : String) : Option Moment := do
  let cs := text.toList
  let (y, rest) ← takeNumber 4 cs
  let rest ← match rest with
    | '-' :: r => pure r
    | _ => none
  let (mo, rest) ← takeNumber 2 rest
  let rest ← match rest with
    | '-' :: r => pure r
    | _ => none
  let (d, rest) ← takeNumber 2 rest
  let date : Date := ⟨y, mo, d⟩
  if !date.isValid then none
  match rest with
  | [] => pure ⟨date, 0, 0, 0, 0, none⟩
  | sep :: clock =>
    if sep != 'T' && sep != 't' && sep != ' ' && sep != '_' then none
    else do
      let (h, m, s, micro, offset) ← readClock clock
      pure ⟨date, h, m, s, micro, offset⟩

def wallMicros (m : Moment) : Int := m.wallSeconds * 1000000 + m.micro

end Dashwright.Time
