import Dashwright.Value.Text
import Dashwright.Text.Blank

/-!
The environment variables a project is read under, and their quoted reading for templates:
a variable that is not set reads as `NOT-SET`, and backslashes and double quotes are escaped
so that the value can stand inside a double-quoted YAML scalar.
-/

namespace Dashwright.Project

structure Environment where
  vars : List (String × String)
deriving Inhabited

namespace Environment

def empty : Environment := ⟨[]⟩

def get? (env : Environment) (key : String) : Option String :=
  (env.vars.find? (·.1 == key)).map Prod.snd

/-- The text a variable stands for in a template. -/
def quoted (env : Environment) (key : String) : String :=
  let raw := (env.get? key).getD "NOT-SET"
  Text.replaceAll (Text.replaceAll raw "\\" "\\\\") "\"" "\\\""

/-- The quoted reading of a variable named by a value; the name must be text. -/
def quotedValue (env : Environment) : Value → Outcome String
  | .str k => pure (env.quoted k)
  | v => throw (Failure.wrongType ("str expected, not " ++ v.typeName))

end Environment

end Dashwright.Project
