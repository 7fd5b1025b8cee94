import Dashwright.Value.Text

/-!
The defaults of a project: the alert and the target used when none is named. Both are
optional names; other fields given are ignored. Two defaults hash alike when both names are
the same.
-/

namespace Dashwright.Project

/-- The default alert and target names. -/
structure Defaults where
  alertName : Option String
  targetName : Option String
deriving BEq

/-- An optional name field: missing or null is no name, a text is the name. -/
def optionalName (model field : String) (v : Option Value) : Outcome (Option String) :=
  match v with
  | none | some .none => pure none
  | some (.str s) => pure (some s)
  | some other =>
    throw (Failure.make .invalidModel ("1 validation error for " ++ model ++ "\n" ++ field ++
      "\n  Input should be a valid string [type=string_type, input_value=" ++ other.repr ++
      ", input_type=" ++ other.typeName ++ "]"))

def Defaults.ofValue (v : Value) : Outcome Defaults := do
  pure ⟨← optionalName "Defaults" "alert_name" (v.field? "alert_name"),
    ← optionalName "Defaults" "target_name" (v.field? "target_name")⟩

def Defaults.sameHash (a b : Defaults) : Bool := a == b

end Dashwright.Project
