import Dashwright.Project.Profile
import Dashwright.Text.Blank
import Dashwright.Project.Load
import Dashwright.Project.Merge
import Dashwright.Value.Access

/-!
Finding the files of a project: the project file of the working directory, then every file it
includes, depth first, then the user's profile when there is one.

A project file is `visivo_project.yml` when a directory has one, else `project.visivo.yml`.
An include names a path relative to the including file's directory, or a git dependency
`org/repo.git@version`. A dependency is served from the cache under the working directory,
`.visivo_cache/org/repo@version`, which is checked out at the version; its project file is
what is included. Every included file must exist and is searched for includes in turn.
-/

namespace Dashwright.Project

/-- A commit of a cached repository: the files it writes and the tags it gets. -/
structure Commit where
  files : List (String × String)
  tags : List String

/-- A repository in the dependency cache: its directory and its commits, oldest first, the
last one on branch `main`. -/
structure CachedRepo where
  dir : String
  commits : List Commit

/-- The files of a repository at a commit: every file written by it or an earlier commit, as
the latest of these wrote it. -/
def CachedRepo.treeAt (r : CachedRepo) (n : Nat) : List (String × String) :=
  (r.commits.take (n + 1)).foldl (fun acc c =>
    c.files.foldl (fun acc (name, text) => (acc.filter (·.1 != name)) ++ [(name, text)]) acc) []

/-- The last commit of a cached repository, on branch `main`. -/
def CachedRepo.last (r : CachedRepo) : Nat := r.commits.length - 1

/-- The working directory, the cached repositories and the commit each has checked out. -/
structure Discovery where
  ws : Workspace
  repos : List CachedRepo
  heads : List (String × Nat)

/-- The commit a cached repository has checked out: the one discovery last put there, else its
last. -/
def Discovery.headOf (d : Discovery) (r : CachedRepo) : Nat :=
  ((d.heads.find? fun e => e.1 == normalizePath r.dir).map Prod.snd).getD r.last

abbrev DiscoverM := StateT Discovery (Except Failure)

def Workspace.exists (ws : Workspace) (path : String) : Bool := ws.isFile path || ws.isDir path

/-- Puts a repository's tree at a commit in place of its current one. -/
def checkoutTree (ws : Workspace) (r : CachedRepo) (n : Nat) : Workspace :=
  let base := pathParts r.dir
  let kept := ws.files.filter fun (f, _) =>
    !(f.length > base.length && f.take base.length == base) || (f.drop base.length).headD "" == ".git"
  (r.treeAt n).foldl (fun w (name, text) => w.write (base ++ pathParts name) text) ⟨kept⟩

/-- The working directory with the cached repositories in it, each at its last commit. -/
def Discovery.start (ws : Workspace) (repos : List CachedRepo) : Discovery :=
  let ws := repos.foldl (fun w r => (checkoutTree w r r.last).write
    (pathParts r.dir ++ [".git", "HEAD"]) "ref: refs/heads/main\n") ws
  ⟨ws, repos, repos.map fun r => (normalizePath r.dir, r.last)⟩

def projectFileIn (ws : Workspace) (dir : String) : String :=
  if ws.exists (dir ++ "/visivo_project.yml") then dir ++ "/visivo_project.yml"
  else dir ++ "/project.visivo.yml"

/-- The failure of checking out a version that names nothing. -/
def checkoutFailure (version : String) : String :=
  if version.isEmpty then
    "Cmd('git') failed due to: exit code(128)\n  cmdline: git checkout \n  stderr: 'fatal: empty string " ++
      "is not a valid pathspec. please use . instead if you meant to match all paths'"
  else
    "Cmd('git') failed due to: exit code(1)\n  cmdline: git checkout " ++ version ++
      "\n  stderr: 'error: pathspec '" ++ version ++ "' did not match any file(s) known to git'"

/-- How many commits back a run of ancestry steps goes: each step is a tilde or a caret, a
tilde followed by a count going back that many commits. History is a line, so a caret may only
name the first parent. -/
def stepsBack : Nat → List Char → Option Nat
  | _, [] => some 0
  | 0, _ :: _ => none
  | fuel + 1, c :: rest =>
    let digits := rest.takeWhile Char.isDigit
    let count := if digits.isEmpty then 1 else (String.ofList digits).toNat!
    let more := (stepsBack fuel (rest.drop digits.length)).map (· + count)
    if c == '~' then more
    else if c == '^' && count ≤ 1 then more
    else none

/-- The commit a revision names: a tag, `main` or `HEAD`, then ancestry steps. -/
def revisionCommit (r : CachedRepo) (current : Nat) (rev : String) : Option Nat :=
  let cs := rev.toList
  let name := cs.takeWhile fun c => c != '~' && c != '^'
  let steps := cs.drop name.length
  let name := String.ofList name
  let base :=
    match r.commits.zipIdx.find? (fun (c, _) => c.tags.contains name) with
    | some (_, n) => some n
    | none =>
      if name == "main" then some r.last
      else if name == "HEAD" then some current
      else none
  base.bind fun n => (stepsBack steps.length steps).bind fun k => if k ≤ n then some (n - k) else none

/-- Checks out a version of a cached repository: a revision, or a path of its tree, which
restores that path and leaves the commit as it is. -/
def checkout (r : CachedRepo) (version : String) : DiscoverM (Option String) := do
  let d ← get
  let key := normalizePath r.dir
  let current := d.headOf r
  let parts := pathParts version
  let target :=
    if version.isEmpty then none
    else if let some n := revisionCommit r current version then some n
    else if (r.treeAt current).any (fun (name, _) => (pathParts name).take parts.length == parts) then
      some current
    else none
  match target with
  | none => pure (some (checkoutFailure version))
  | some n =>
    set { d with ws := checkoutTree d.ws r n,
                 heads := (d.heads.filter fun (p : String × Nat) => p.1 != key) ++ [(key, n)] }
    pure none

/-- The version a git dependency names: what follows its first `@`. -/
def gitVersion (gitUrl : String) : String := (Text.splitOn gitUrl "@").getD 1 ""

/-- The folder of the cache a git dependency is served from. -/
def gitFolder (workingDirectory gitUrl : String) : String :=
  workingDirectory ++ "/.visivo_cache/" ++ Text.replaceAll gitUrl ".git" ""

/-- The project file of a git dependency, checked out from the cache. -/
def gitProjectFile (workingDirectory gitUrl : String) : DiscoverM String := do
  if !gitUrl.toList.contains '@' then
    throw (Failure.make .usage ("Invalid github dependency \"" ++ gitUrl ++
      "\". A version specified with \"@\" is required"))
  let version := gitVersion gitUrl
  let localFolder := gitFolder workingDirectory gitUrl
  let d ← get
  match d.repos.find? (fun r => normalizePath r.dir == normalizePath localFolder) with
  | none =>
    throw (Failure.make .unsupported ("cloning " ++ gitUrl ++ " is not possible here"))
  | some r =>
    if let some problem ← checkout r version then
      throw (Failure.make .usage ("Error cloning \"" ++ gitUrl ++ "\": " ++ problem))
    pure (projectFileIn (← get).ws localFolder)

/-- The directory part of a path text: everything before the last slash, without trailing
slashes unless it is all slashes. -/
def dirName (p : String) : String :=
  let cs := p.toList
  match (cs.zipIdx.filter (·.1 == '/')).getLast? with
  | none => ""
  | some (_, i) =>
    let head := cs.take (i + 1)
    if head.all (· == '/') then String.ofList head
    else String.ofList ((head.reverse.dropWhile (· == '/')).reverse)

/-- The path of an include: its only field, absent when not given. -/
def includePath (data : Value) : Outcome Value := do
  match data with
  | .map es _ =>
    for (k, _) in es do
      match k with
      | .str "path" => pure ()
      | .str name =>
        throw (Failure.wrongType ("Include.__init__() got an unexpected keyword argument " ++ quoteText name))
      | _ => throw (Failure.wrongType "keywords must be strings")
    pure ((lookupEntry (.str "path") es).getD .none)
  | other =>
    throw (Failure.wrongType ("visivo.models.include.Include() argument after ** must be a mapping, not " ++
      other.typeName))

/-- The include entries of a loaded project file: the items of its `includes`, none when it
has no `includes`. -/
def includeEntries (data : Value) : Outcome (List Value) := do
  if (← containsKey data "includes") then itemAt data "includes" >>= Value.iterate
  else pure []

/-- The file an include entry names, seen from the directory of the including file: a path
relative to that directory, or the project file of a git dependency. It must exist. -/
def includeTarget (workingDirectory base : String) (entry : Value) : DiscoverM String := do
  let path ← includePath entry
  let mut target := base ++ "/" ++ path.text
  if (← containsKey path ".git") then
    target ← gitProjectFile workingDirectory path.text
  if !Workspace.exists (← get).ws target then
    throw (Failure.make .usage ("Invalid \"include\" in project. \"" ++ target ++ "\" does not exist."))
  pure target

/-- The files some include entries name, each followed by the files `visit` finds below it. -/
def includesBelow (visit : String → DiscoverM (List String)) (workingDirectory base : String) :
    List Value → DiscoverM (List String)
  | [] => pure []
  | entry :: rest => do
    let target ← includeTarget workingDirectory base entry
    let below ← visit target
    let others ← includesBelow visit workingDirectory base rest
    pure (normalizePath target :: below ++ others)

/-- How deeply includes may nest before the walk meets the recursion limit. -/
def includeDepth : Nat := 990

/-- The files a file includes, depth first, each followed by those it includes. -/
def includedFiles (env : Environment) (workingDirectory : String) : Nat → String → DiscoverM (List String)
  | 0, _ => throw (Failure.make .tooDeep "maximum recursion depth exceeded")
  | fuel + 1, file => do
    let text ← (← get).ws.read file
    let data ← loadProjectFile env file text
    let entries ← includeEntries data
    includesBelow (includedFiles env workingDirectory fuel) workingDirectory (dirName file) entries

/-- The project file of a working directory and all files of the project: the project file, the
files it includes, and the profile under the home directory when it exists. -/
def discoverFiles (ws : Workspace) (repos : List CachedRepo) (env : Environment)
    (workingDirectory homeDirectory : String) : Outcome (String × List String) := do
  let d := Discovery.start ws repos
  let projectFile := normalizePath (projectFileIn d.ws workingDirectory)
  if !Workspace.exists d.ws projectFile then
    throw (Failure.make .usage "Project file \"project.visivo.yml\" not found")
  let (found, d) ← (includedFiles env workingDirectory includeDepth projectFile).run d
  let profile := profilePath homeDirectory
  let files := [projectFile] ++ found ++ (if Workspace.exists d.ws profile then [profile] else [])
  pure (projectFile, files)

end Dashwright.Project
