import Dashwright.Text.Wrap
import Dashwright.Project.Workspace

/-!
The status lines printed while jobs run.

A line is the job's details shortened to eighty columns, a space, dots up to column ninety and
the status in brackets. When the job wrote a file, the file's path follows on a dimmed line,
named a query or a database file by its extension, and an error message on a dimmed line of
its own.
-/

namespace Dashwright.Jobs

def dim : String := "\x1b[2m"

def underline : String := "\x1b[4m"

def plain : String := "\x1b[0m"

/-- A status line: the details, dots to column ninety and the status; then the path of the file
written, if any, and the error, if any. -/
def formatMessage (details status : String) (fullPath : Option String) (errorMsg : Option String) :
    String :=
  let shown := Text.shorten details 80 "(truncated)" ++ " "
  let dots := String.ofList (List.replicate (90 - shown.length) '.')
  let head := shown ++ dots ++ "[" ++ status ++ "]"
  match fullPath with
  | none => head
  | some "" => head
  | some path =>
    let relative := Project.collapsePath path
    let action :=
      if relative.endsWith ".sql" then "query: "
      else if relative.endsWith ".sqlite" then "database file: "
      else ""
    let errorText := match errorMsg with
      | some e => "\n\t" ++ dim ++ "error: " ++ e ++ plain
      | none => ""
    head ++ "\n\t" ++ dim ++ action ++ relative ++ plain ++ errorText

/-- The line announcing that a job for an item has started. -/
def startMessage (itemName : String) : String :=
  formatMessage ("Running job for Job " ++ underline ++ itemName ++ plain) "RUNNING" none none

end Dashwright.Jobs
