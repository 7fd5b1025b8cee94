import Dashwright.Reference.Packing
import Dashwright.Reference.SchemaData
import Dashwright.Json.Reader

/-!
The configuration schema of projects, as shipped with the documentation: the objects a project
is made of are its `$defs`, each with its properties, and the project itself is the schema's
top level.
-/

namespace Dashwright.Reference

def schemaText : String := unpack schemaPacked

/-- The configuration schema, read. -/
def documentedSchema : Value :=
  match Json.parse schemaText with
  | .ok v => v
  | .error _ => .none

def documentedDefs : Value := (documentedSchema.field? "$defs").getD .none

end Dashwright.Reference
