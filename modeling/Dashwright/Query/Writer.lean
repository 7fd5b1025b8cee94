import Dashwright.Project.Workspace

/-!
Writing a trace's query to `<output dir>/<trace name>/query.sql`.

The directories are made first, each level that is missing; a file standing where a directory
should be stops the writing. The trace is marked changed when the query differs from what the
file held before, read back in text mode (so a carriage return reads as a line feed), a
missing file holding nothing. The file is opened for writing before the
query is written, so a query that is not text leaves it empty.
-/

namespace Dashwright.Query

open Project

/-- Makes the directories of a path: fails when one of its levels is a file. -/
def makeDirs (ws : Workspace) (dir : String) : Outcome Unit := do
  let parts := pathParts dir
  for k in [1:parts.length + 1] do
    let level := parts.take k
    if ws.isFileParts level then
      if k == parts.length then
        throw (Failure.make .fileExists ("[Errno 17] File exists: " ++ quoteText dir))
      else
        throw (Failure.make .notDirectory ("[Errno 20] Not a directory: " ++
          quoteText ("/".intercalate (parts.take (k + 1)))))

/-- The directory of a trace's files under an output directory. -/
def traceDirectory (outputDir traceName : String) : String := outputDir ++ "/" ++ traceName

def queryPath (outputDir traceName : String) : String := traceDirectory outputDir traceName ++ "/query.sql"

/-- Writes a trace's query under an output directory: the working directory after the write
(also after a write that failed once the file was opened), whether the trace changed, and the
failure if there was one. -/
def writeQuery (ws : Workspace) (outputDir traceName : String) (query : Value) :
    Workspace × Outcome Bool :=
  let queryFile := queryPath outputDir traceName
  match makeDirs ws (traceDirectory outputDir traceName) with
  | .error e => (ws, .error e)
  | .ok () =>
    let existing : Outcome String :=
      if ws.isFile queryFile || ws.isDir queryFile then ws.readText queryFile else .ok ""
    match existing with
    | .error e => (ws, .error e)
    | .ok before =>
      let changed := !Value.equal (.str before) query
      if ws.isDir queryFile then
        (ws, .error (Failure.make .isDirectory ("[Errno 21] Is a directory: " ++ quoteText queryFile)))
      else
        let target := pathParts queryFile
        match query with
        | .str text => (ws.write target text, .ok changed)
        | v => (ws.write target "", .error (Failure.wrongType ("write() argument must be str, not " ++ v.typeName)))

/-- The query file of a trace read back as text, as the next write reads it. -/
def readQuery (ws : Workspace) (outputDir traceName : String) : Outcome String :=
  ws.readText (queryPath outputDir traceName)

/-- Writes queries one after another for one trace under one output directory: each write's
working directory after it and its answer. -/
def writeQueries (ws : Workspace) (outputDir traceName : String) : List Value → List (Workspace × Outcome Bool)
  | [] => []
  | query :: rest =>
    let step := writeQuery ws outputDir traceName query
    step :: writeQueries step.1 outputDir traceName rest

end Dashwright.Query
