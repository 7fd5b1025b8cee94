import Dashwright.Time.Stamp

/-!
Durations given in parts (weeks, days, hours, minutes, seconds, milliseconds, microseconds),
each an integer or a double, added up to whole microseconds. Integer parts add exactly. The
whole part of a double adds exactly; its fraction becomes microseconds by double arithmetic,
and what is left below a microsecond is gathered over all parts and rounded once, half to even.
A duration spans at most 999999999 days either way.
-/

namespace Dashwright.Time

open Number

/-- The parts a duration may be given in, with their size in microseconds, in the order in
which they are added. -/
def durationParts : List (String × Nat) :=
  [("microseconds", 1), ("milliseconds", 1000), ("seconds", 1000000), ("minutes", 60000000),
   ("hours", 3600000000), ("days", 86400000000), ("weeks", 604800000000)]

def integralOf (f : Float) : Outcome Int :=
  if f.isNaN then throw (Failure.badValue "cannot convert float NaN to integer")
  else if f.isInf then throw ⟨.overflow, some "cannot convert float infinity to integer"⟩
  else pure (Binary.ofFloat f).truncate

/-- Adds one part: its whole microseconds to the total, and what is left of a microsecond to
the remainder. -/
def addPart (tag : String) (size : Nat) (total : Int) (left : Float) (v : Value) :
    Outcome (Int × Float) := do
  match v with
  | .int i => pure (total + i * size, left)
  | .bool b => pure (total + (if b then size else 0), left)
  | .float f =>
    let ip := truncFloat f
    let fp := f - ip
    let whole ← integralOf ip
    let total := total + whole * size
    if fp == 0.0 then return (total, left)
    let scaled := floatOfInt size * fp
    let ip2 := truncFloat scaled
    let whole2 ← integralOf ip2
    pure (total + whole2, left + (scaled - ip2))
  | other => throw (Failure.wrongType ("unsupported type for timedelta " ++ tag ++
      " component: " ++ other.typeName))

/-- The largest number of days a duration may span either way. -/
def maxDurationDays : Int := 999999999

def durationMicros (parts : List (String × Value)) : Outcome Int := do
  for (k, _) in parts do
    if !(durationParts.any (·.1 == k)) then
      throw (Failure.wrongType ("'" ++ k ++ "' is an invalid keyword argument for __new__()"))
  let mut total : Int := 0
  let mut left : Float := 0.0
  for (tag, size) in durationParts do
    match parts.find? (·.1 == tag) with
    | some (_, v) =>
      let (t, l) ← addPart tag size total left v
      total := t
      left := l
    | none => pure ()
  if left != 0.0 then
    let whole := left.round
    let whole := if (whole - left).abs == 0.5 then
        let odd : Float := if total % 2 == 0 then 0.0 else 1.0
        2.0 * ((left + odd) * 0.5).round - odd
      else whole
    total := total + (Binary.ofFloat whole).truncate
  let days := total.fdiv 86400000000
  if days < -(Int.pow 2 31) || days ≥ Int.pow 2 31 then
    throw ⟨.overflow, some "Python int too large to convert to C int"⟩
  if days.natAbs > maxDurationDays then
    throw ⟨.overflow, some ("days=" ++ toString days ++ "; must have magnitude <= 999999999")⟩
  pure total

/-- The seconds of a duration, as the double nearest to them. -/
def durationSeconds (parts : List (String × Value)) : Outcome Float := do
  let us ← durationMicros parts
  pure (floatOfDecimal (us < 0) us.natAbs (-6))

end Dashwright.Time
