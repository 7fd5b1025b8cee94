import Dashwright.Value.Text
import Dashwright.Text.Blank

/-!
Names in slash-separated paths: the stem of a path's last part (before its first dot) and the
path without its last part.
-/

namespace Dashwright.Project

/-- The last part of a path, up to its first dot. -/
def fileStem (path : String) : String :=
  let last := ((Text.splitOn path "/").getLastD "")
  (Text.splitOn last ".").headD ""

def parentPath (path : String) : String :=
  "/".intercalate (Text.splitOn path "/").dropLast

end Dashwright.Project
