import Dashwright.Json.Reader
import Dashwright.Text.Blank

/-!
The data files shipped with the program that project templates can read, and the directories
that hold them. Paths are resolved as the file system resolves them: a relative path starts in
the directory of the template functions, each `..` climbs one directory, and every component
but the last must be an existing directory. A path that leaves the shipped tree, or names no
shipped file, is not found.
-/

namespace Dashwright.Project

/-- The shipped directories, each as its components. -/
def shippedDirectories : List (List String) :=
  [["visivo"],
   ["visivo", "commands"],
   ["visivo", "db"],
   ["visivo", "discovery"],
   ["visivo", "logging"],
   ["visivo", "models"],
   ["visivo", "models", "base"],
   ["visivo", "models", "models"],
   ["visivo", "models", "targets"],
   ["visivo", "parsers"],
   ["visivo", "parsers", "mkdocs_utils"],
   ["visivo", "query"],
   ["visivo", "query", "jobs"],
   ["visivo", "src"],
   ["visivo", "templates"],
   ["visivo", "templates", "charts"],
   ["visivo", "templates", "queries"],
   ["visivo", "templates", "queries", "tests"],
   ["visivo", "testing"],
   ["visivo", "viewer"],
   ["visivo", "viewer", "static"],
   ["visivo", "viewer", "static", "css"],
   ["visivo", "viewer", "static", "js"]]

/-- The directory relative paths start in. -/
def templateDirectory : List String := ["visivo", "templates"]

/-- The shipped data files, each as its components and its text. -/
def shippedFiles : List (List String × String) :=
  [(["visivo", "viewer", "manifest.json"],
    "\x7b\n" ++
    "  \"short_name\": \"React App\",\n" ++
    "  \"name\": \"Create React App Sample\",\n" ++
    "  \"icons\": [\n" ++
    "    \x7b\n" ++
    "      \"src\": \"favicon.ico\",\n" ++
    "      \"sizes\": \"64x64 32x32 24x24 16x16\",\n" ++
    "      \"type\": \"image/x-icon\"\n" ++
    "    \x7d,\n" ++
    "    \x7b\n" ++
    "      \"src\": \"logo192.png\",\n" ++
    "      \"type\": \"image/png\",\n" ++
    "      \"sizes\": \"192x192\"\n" ++
    "    \x7d,\n" ++
    "    \x7b\n" ++
    "      \"src\": \"logo512.png\",\n" ++
    "      \"type\": \"image/png\",\n" ++
    "      \"sizes\": \"512x512\"\n" ++
    "    \x7d\n" ++
    "  ],\n" ++
    "  \"start_url\": \".\",\n" ++
    "  \"display\": \"standalone\",\n" ++
    "  \"theme_color\": \"#000000\",\n" ++
    "  \"background_color\": \"#ffffff\"\n" ++
    "\x7d\n"),
   (["visivo", "viewer", "asset-manifest.json"],
    "\x7b\n" ++
    "  \"files\": \x7b\n" ++
    "    \"main.css\": \"/static/css/main.1d6d9269.css\",\n" ++
    "    \"main.js\": \"/static/js/main.cc3f9ed6.js\",\n" ++
    "    \"static/js/488.72e7b0fa.chunk.js\": \"/static/js/488.72e7b0fa.chunk.js\",\n" ++
    "    \"index.html\": \"/index.html\",\n" ++
    "    \"main.1d6d9269.css.map\": \"/static/css/main.1d6d9269.css.map\",\n" ++
    "    \"main.cc3f9ed6.js.map\": \"/static/js/main.cc3f9ed6.js.map\",\n" ++
    "    \"488.72e7b0fa.chunk.js.map\": \"/static/js/488.72e7b0fa.chunk.js.map\"\n" ++
    "  \x7d,\n" ++
    "  \"entrypoints\": [\n" ++
    "    \"static/css/main.1d6d9269.css\",\n" ++
    "    \"static/js/main.cc3f9ed6.js\"\n" ++
    "  ]\n" ++
    "\x7d"),
   (["visivo", "viewer", "site.webmanifest"],
    "\x7b\"name\":\"\",\"short_name\":\"\",\"icons\":[\x7b\"src\":\"/android-chrome-192x192.png\",\"sizes\":\"192x192\",\"type\":\"image/png\"\x7d,\x7b\"src\":\"/android-chrome-512x512.png\",\"sizes\":\"512x512\",\"type\":\"image/png\"\x7d],\"theme_color\":\"#ffffff\",\"background_color\":\"#ffffff\",\"display\":\"standalone\"\x7d")]

/-- Walks path components from a directory: `none` when a component is not a directory where
one is needed, or the walk leaves the shipped tree. -/
def walkPath : List String → List String → Option (List String)
  | here, [] => some here
  | here, [last] =>
    if last == "" || last == "." then some here
    else if last == ".." then (if here.isEmpty then none else some here.dropLast)
    else some (here ++ [last])
  | here, part :: rest =>
    if part == "" || part == "." then walkPath here rest
    else if part == ".." then
      if here.isEmpty then none else walkPath here.dropLast rest
    else
      let next := here ++ [part]
      if shippedDirectories.contains next then walkPath next rest else none

/-- The text of the shipped file a path names, if it names one. A path ending in a slash or a
dot names a directory, never a file. -/
def shippedText? (path : String) : Option String :=
  if path.startsWith "/" || path.endsWith "/" then none
  else
    match walkPath templateDirectory (Text.splitOn path "/") with
    | some parts =>
      let lastPart := (Text.splitOn path "/").getLastD ""
      if lastPart == "." || lastPart == ".." then none
      else (shippedFiles.find? (·.1 == parts)).map Prod.snd
    | none => none

/-- Reads a shipped JSON file; a path that names none is not found. -/
def readShippedJson (path : Value) : Outcome Value := do
  match path with
  | .str p =>
    match shippedText? p with
    | some text => Json.parse text
    | none => throw ⟨.fileMissing, none⟩
  | other => throw (Failure.wrongType ("expected str, bytes or os.PathLike object, not " ++ other.typeName))

end Dashwright.Project
