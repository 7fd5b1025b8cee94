import Dashwright.Template.Render
import Dashwright.Time.Reading
import Dashwright.Time.Duration
import Dashwright.Project.Environment
import Dashwright.Project.Shipped
import Dashwright.Signature

/-!
The functions a project file's template can call, and rendering a project file with them.

* `env_var(key)` reads an environment variable, quoted for a double-quoted scalar;
* `now()` is the current time as a timestamp;
* `timedelta(**parts)` is the number of seconds in a duration given in parts;
* `to_unix(text)` is the timestamp of a date written in free form, in UTC unless it says
  otherwise;
* `to_iso(ts)` and `to_str_format(ts, format)` write a timestamp in UTC;
* `read_json_file(path)` reads one of the shipped JSON files.

Arguments bind as they would to ordinary functions of these parameters; an argument of the
wrong kind fails as the function would fail on it.
-/

namespace Dashwright.Project

open Template

def functionNames : List String :=
  ["env_var", "now", "timedelta", "to_unix", "to_iso", "to_str_format", "read_json_file"]

def functionSignature (name : String) : Signature :=
  match name with
  | "env_var" => ⟨name, ["key"], 0, true⟩
  | "to_unix" => ⟨name, ["date_str"], 0, true⟩
  | "to_iso" => ⟨name, ["unix_timestamp"], 0, true⟩
  | "to_str_format" => ⟨name, ["unix_timestamp", "str_format"], 0, true⟩
  | "read_json_file" => ⟨name, ["filepath"], 0, true⟩
  | _ => ⟨name, [], 0, true⟩

/-- The time the clock reads, as a timestamp. -/
def clockReading : Float := 1735689600.0

/-- An argument that must be a plain value; any other object fails with its type's name. -/
def plainArgument (t : Term) (failure : String → Failure) : Outcome Value :=
  match t with
  | .value v => pure v
  | other => throw (failure other.typeName)

/-- `timedelta(**parts)`: the parts are checked as the duration adds them up, so an object that
is not a number fails where it is reached. -/
def durationOf (kwargs : List (String × Term)) : Outcome Float := do
  for (k, _) in kwargs do
    if !(Time.durationParts.any (·.1 == k)) then
      throw (Failure.wrongType ("'" ++ k ++ "' is an invalid keyword argument for __new__()"))
  let ordered := Time.durationParts.filterMap fun (tag, _) =>
    (kwargs.find? (·.1 == tag)).map fun (_, t) => (tag, t)
  let plain := ordered.filterMap fun (tag, t) => match t with
    | .value v => some (tag, v)
    | _ => none
  match ordered.find? (fun (_, t) => match t with | .value _ => false | _ => true) with
  | none => Time.durationSeconds plain
  | some (tag, t) =>
    let before := ordered.takeWhile (·.1 != tag)
    let earlier := before.filterMap fun (k, x) => match x with
      | .value v => some (k, v)
      | _ => none
    let _ ← Time.durationSeconds earlier
    throw (Failure.wrongType ("unsupported type for timedelta " ++ tag ++ " component: " ++ t.typeName))

def callFunction (env : Environment) (name : String) (args : List Term) (kwargs : List (String × Term)) :
    Outcome Term := do
  if name == "timedelta" then
    if !args.isEmpty then
      throw (Failure.wrongType ("timedelta() takes 0 positional arguments but " ++ toString args.length ++
        (if args.length == 1 then " was" else " were") ++ " given"))
    return .value (.float (← durationOf kwargs))
  let bound ← (functionSignature name).bind args kwargs
  let arg (i : Nat) : Term := ((bound[i]?).getD none).getD (.value .none)
  match name with
  | "env_var" =>
    let key ← plainArgument (arg 0) fun t => Failure.wrongType ("str expected, not " ++ t)
    pure (.value (.str (← env.quotedValue key)))
  | "now" => pure (.value (.float clockReading))
  | "to_unix" =>
    let text ← match arg 0 with
      | .missing m => throw m.failure
      | t => plainArgument t fun n => Failure.wrongType ("Parser must be a string or character stream, not " ++ n)
    pure (.value (.float (← Time.unixOf text)))
  | "to_iso" =>
    let ts ← plainArgument (arg 0) fun t =>
      Failure.wrongType ("'" ++ t ++ "' object cannot be interpreted as an integer")
    pure (.value (.str (← Time.isoOf ts)))
  | "to_str_format" =>
    let ts ← plainArgument (arg 0) fun t =>
      Failure.wrongType ("'" ++ t ++ "' object cannot be interpreted as an integer")
    let m ← Time.momentOf ts
    let fmt ← match arg 1 with
      | .value (.str s) => pure s
      | t => throw (Failure.wrongType ("strftime() argument 1 must be str, not " ++ t.typeName))
    pure (.value (.str (Time.Moment.format m fmt)))
  | "read_json_file" =>
    let path ← plainArgument (arg 0) fun t =>
      Failure.wrongType ("expected str, bytes or os.PathLike object, not " ++ t)
    pure (.value (← readShippedJson path))
  | _ => throw (Failure.make .unsupported name)

/-- The project functions as the host of a template render. -/
def projectHost (env : Environment) : Host := fun name args kwargs =>
  if functionNames.contains name then some (callFunction env name args kwargs) else none

/-- The context of a project template: its functions by name. -/
def projectContext : List (String × Term) := functionNames.map fun n => (n, Term.function n)

/-- Renders the text of a project file as a template, with the project functions. -/
def renderProjectText (env : Environment) (source : String) : Outcome String :=
  renderTemplate (projectHost env) projectContext source

end Dashwright.Project
