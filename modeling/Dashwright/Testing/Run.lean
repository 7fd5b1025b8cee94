import Dashwright.Time.Iso
import Dashwright.Failure

/-!
The outcome of a test run: the tests that passed and those that failed with their messages,
between a start and a finish.

The duration is the seconds part of the time between start and finish: the whole days are
dropped, so a finish before the start counts back from the next day. Moments with and without
an offset cannot be compared, and a run that has not finished has no duration.
-/

namespace Dashwright.Testing

/-- A failed test: its id and what went wrong. -/
structure TestFailure where
  testId : String
  message : String

/-- A test run. -/
structure TestRun where
  startedAt : Moment
  finishedAt : Option Moment
  failures : List TestFailure
  successes : List String

namespace TestRun

def success (r : TestRun) : Bool := r.failures.isEmpty

def count (r : TestRun) : Nat := r.failures.length + r.successes.length

/-- The seconds part of the time from start to finish. -/
def duration (r : TestRun) : Outcome Nat := do
  let finished ← match r.finishedAt with
    | some m => pure m
    | none => throw (Failure.wrongType "unsupported operand type(s) for -: 'NoneType' and 'datetime.datetime'")
  let started := r.startedAt
  let micros ← match finished.offset, started.offset with
    | none, none => pure (Time.wallMicros finished - Time.wallMicros started)
    | some a, some b => pure ((Time.wallMicros finished - a * 1000000) - (Time.wallMicros started - b * 1000000))
    | _, _ => throw (Failure.wrongType "can't subtract offset-naive and offset-aware datetimes")
  let day : Int := 86400 * 1000000
  pure ((micros % day) / 1000000).toNat

/-- The summary printed after a run: how many tests ran in how long, and every failure. -/
def summary (r : TestRun) : Outcome String := do
  let mut text := "Testing complete. " ++ toString r.count ++ " tests run in " ++ toString (← r.duration) ++
    " seconds."
  if !r.failures.isEmpty then text := text ++ "\nFailures:"
  for f in r.failures do
    text := text ++ "\n> " ++ f.testId ++ ": " ++ f.message
  pure text

end TestRun

end Dashwright.Testing
