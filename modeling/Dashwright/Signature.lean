import Dashwright.Value.Text

/-!
Signatures of callable operations: named positional parameters, of which the trailing ones
may have defaults, and whether keywords are accepted. Binding arguments to a signature checks
their number and names and gives one value per parameter, or the failure a caller sees.
-/

namespace Dashwright

structure Signature where
  /-- the name shown in messages, with its owner when it is a method -/
  name : String
  params : List String
  /-- how many trailing parameters have defaults -/
  optional : Nat
  /-- whether parameters may also be passed by keyword -/
  keywords : Bool

/-- Names in quotes, joined as a list in prose: `'a'`, `'a' and 'b'`, `'a', 'b', and 'c'`. -/
def proseList (names : List String) : String :=
  let qs := names.map fun n => "'" ++ n ++ "'"
  match qs with
  | [] => ""
  | [a] => a
  | [a, b] => a ++ " and " ++ b
  | _ => ", ".intercalate qs.dropLast ++ ", and " ++ qs.getLastD ""

def plural (n : Nat) (word : String) : String :=
  toString n ++ " " ++ word ++ (if n == 1 then "" else "s")

namespace Signature

def required (s : Signature) : Nat := s.params.length - s.optional

/-- Binds positional and keyword arguments; missing optional parameters are `none`. -/
def bind {α : Type} (s : Signature) (args : List α) (kwargs : List (String × α)) :
    Outcome (List (Option α)) := do
  let n := s.params.length
  if args.length > n then
    let takes :=
      if s.optional == 0 then plural n "positional argument"
      else "from " ++ toString s.required ++ " to " ++ plural n "positional argument"
    throw (Failure.wrongType (s.name ++ "() takes " ++ takes ++ " but " ++
      toString args.length ++ (if args.length == 1 then " was" else " were") ++ " given"))
  for (k, _) in kwargs do
    match s.params.idxOf? k with
    | none => throw (Failure.wrongType (s.name ++ "() got an unexpected keyword argument '" ++ k ++ "'"))
    | some i =>
      if !s.keywords then
        throw (Failure.wrongType (s.name ++ "() got an unexpected keyword argument '" ++ k ++ "'"))
      if i < args.length then
        throw (Failure.wrongType (s.name ++ "() got multiple values for argument '" ++ k ++ "'"))
  let bound := s.params.zipIdx.map fun (p, i) =>
    match args[i]? with
    | some v => some v
    | none => (kwargs.find? (·.1 == p)).map Prod.snd
  let missing := ((s.params.zip bound).take s.required).filterMap fun (p, b) =>
    if b.isNone then some p else none
  if !missing.isEmpty then
    throw (Failure.wrongType (s.name ++ "() missing " ++
      plural missing.length "required positional argument" ++ ": " ++ proseList missing))
  pure bound

end Signature

end Dashwright
