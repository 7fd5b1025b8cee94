import Dashwright.Value.Text
import Dashwright.Text.Blank

/-!
The table that a `create ... as ...` statement creates: the last word before the first
` as `, when the text before it mentions `create`.
-/

namespace Dashwright.Query

def createdTable (sql : String) : Option String :=
  let flat := Text.replaceAll sql "\n" " "
  let head := Text.strip ((Text.splitOn flat " as ").headD "")
  if Text.contains head "create" then some ((Text.splitOn head " ").getLastD "") else none

end Dashwright.Query
