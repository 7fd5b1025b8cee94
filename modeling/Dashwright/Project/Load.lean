import Dashwright.Project.Functions
import Dashwright.Yaml.Load
import Dashwright.Text.Blank

/-!
Reading a project file: its text is rendered as a template with the project functions, and
the result is loaded as YAML under the file's name, so that loaded mappings record where
their keys and values stand in the file.
-/

namespace Dashwright.Project

/-- The graph of a project file with some text, read under some environment variables, and the
index of its root. -/
def loadProjectGraph (env : Environment) (file : String) (content : String) :
    Outcome (Yaml.Graph × Nat) := do
  let text ← renderProjectText env (Text.universalNewlines content)
  Yaml.loadProjectGraph file text

/-- The value of a project file with some text, read under some environment variables. -/
def loadProjectFile (env : Environment) (file : String) (content : String) : Outcome Value := do
  let (g, root) ← loadProjectGraph env file content
  pure (g.toValue root)

end Dashwright.Project
