import Dashwright.Value.Text
import Dashwright.Text.Blank

/-!
A working directory holding a project's files, and paths into it.

Path text is written as a path object writes it: empty parts and `.` parts dropped, `..`
kept, one leading slash kept (two when there are exactly two), and `.` for nothing. Opening
a path walks its parts: `..` climbs, and every part before the last must be a directory;
the directories are those that hold the files. A path that climbs out of the working
directory, or starts at the root, names nothing here.
-/

namespace Dashwright.Project

/-- The parts of a path text, without empty parts and `.` parts. -/
def pathParts (p : String) : List String :=
  (Text.splitOn p "/").filter fun s => s != "" && s != "."

/-- A path text as a path object writes it. -/
def normalizePath (p : String) : String :=
  let root :=
    if p.startsWith "//" && !p.startsWith "///" then "//"
    else if p.startsWith "/" then "/"
    else ""
  let body := "/".intercalate (pathParts p)
  if root == "" && body == "" then "." else root ++ body

/-- A path text with `..` parts resolved against the parts before them, as a relative path is
seen from the directory it is relative to: `..` parts that climb above it are kept. -/
def collapsePath (p : String) : String :=
  let parts := (pathParts p).foldl (fun (acc : List String) part =>
    if part == ".." then
      match acc.getLast? with
      | some last => if last == ".." then acc ++ [part] else acc.dropLast
      | none => if p.startsWith "/" then acc else [part]
    else acc ++ [part]) []
  let body := "/".intercalate parts
  if p.startsWith "/" then "/" ++ body
  else if body.isEmpty then "." else body

/-- Joins two path texts as a path object does: an absolute second part replaces the first. -/
def joinPath (a b : String) : String :=
  if b.startsWith "/" then normalizePath b
  else if normalizePath a == "." then normalizePath b
  else normalizePath (a ++ "/" ++ b)

/-- The characters of a text as reading it in text mode gives them: a carriage return, alone
or before a line feed, becomes one line feed. -/
def universalNewlines : List Char → List Char
  | '\r' :: '\n' :: rest => '\n' :: universalNewlines rest
  | '\r' :: rest => '\n' :: universalNewlines rest
  | c :: rest => c :: universalNewlines rest
  | [] => []

/-- A file's text as reading it in text mode gives it back. -/
def readInTextMode (text : String) : String := String.ofList (universalNewlines text.toList)

/-- The files of a working directory: paths relative to it, with their text. -/
structure Workspace where
  files : List (List String × String)
deriving Inhabited

namespace Workspace

def empty : Workspace := ⟨[]⟩

/-- A working directory with some files; a later file of the same path replaces an earlier. -/
def ofFiles (entries : List (String × String)) : Workspace :=
  entries.foldl (fun ws (name, text) =>
    let parts := pathParts name
    ⟨ws.files.filter (·.1 != parts) ++ [(parts, text)]⟩) empty

/-- Whether some parts name a directory: the working directory itself, or one that holds a file. -/
def isDirParts (ws : Workspace) (parts : List String) : Bool :=
  parts.isEmpty || ws.files.any fun (f, _) => f.length > parts.length && f.take parts.length == parts

def isFileParts (ws : Workspace) (parts : List String) : Bool :=
  ws.files.any (·.1 == parts)

/-- Why a path cannot be walked. -/
inductive Miss where
  | missing
  | notDirectory
  | outside

/-- The parts a path leads to from the working directory, walking `..` and requiring every
part before the last to be a directory. -/
def walk (ws : Workspace) (path : String) : Except Miss (List String) := do
  if path.startsWith "/" then throw .outside
  if path.isEmpty then throw .missing
  let raw := Text.splitOn path "/"
  let mut here : List String := []
  let mut i := 0
  for part in raw do
    i := i + 1
    let last := i == raw.length
    if part == "" || part == "." then
      if !ws.isDirParts here then
        throw (if ws.isFileParts here then .notDirectory else .missing)
      continue
    if part == ".." then
      if !ws.isDirParts here then
        throw (if ws.isFileParts here then .notDirectory else .missing)
      match here.reverse with
      | [] => throw .outside
      | _ :: rest => here := rest.reverse
      continue
    if !ws.isDirParts here then
      throw (if ws.isFileParts here then .notDirectory else .missing)
    here := here ++ [part]
    if !last && !ws.isDirParts here && !ws.isFileParts here then throw .missing
  pure here

def notFound (path : String) : Failure :=
  Failure.make .fileMissing ("[Errno 2] No such file or directory: " ++ quoteText path)

def read (ws : Workspace) (path : String) : Outcome String :=
  match ws.walk path with
  | .ok parts =>
    match ws.files.find? (·.1 == parts) with
    | some (_, text) => .ok text
    | none =>
      if ws.isDirParts parts then .error (Failure.make .isDirectory ("[Errno 21] Is a directory: " ++ quoteText path))
      else .error (notFound path)
  | .error .notDirectory => .error (Failure.make .notDirectory ("[Errno 20] Not a directory: " ++ quoteText path))
  | .error _ => .error (notFound path)

/-- The text of the file at a path, read in text mode. -/
def readText (ws : Workspace) (path : String) : Outcome String :=
  (ws.read path).map readInTextMode

def isFile (ws : Workspace) (path : String) : Bool :=
  match ws.walk path with
  | .ok parts => ws.isFileParts parts
  | .error _ => false

def isDir (ws : Workspace) (path : String) : Bool :=
  match ws.walk path with
  | .ok parts => ws.isDirParts parts
  | .error _ => false

/-- The files at any depth below a directory whose names end in a suffix, as paths written
from the directory's own path text. -/
def filesUnder (ws : Workspace) (dir : String) (suffix : String) : List String :=
  match ws.walk dir with
  | .ok parts =>
    if !ws.isDirParts parts then []
    else
      ws.files.filterMap fun (f, _) =>
        if f.length > parts.length && f.take parts.length == parts && (f.getLastD "").endsWith suffix then
          some (joinPath dir ("/".intercalate (f.drop parts.length)))
        else none
  | .error _ => []

/-- Writes a file, replacing what was at its path. -/
def write (ws : Workspace) (parts : List String) (text : String) : Workspace :=
  ⟨ws.files.filter (·.1 != parts) ++ [(parts, text)]⟩

section Writing

variable {ws : Workspace} {target l : List String} {text : String}

theorem find?_write : (ws.write target text).files.find? (·.1 == target) = some (target, text) := by
  simp only [write, List.find?_append, List.find?_cons, beq_self_eq_true]
  have absent : (ws.files.filter (·.1 != target)).find? (·.1 == target) = none := by
    simp [List.find?_eq_none]
  rw [absent]
  rfl

theorem isFileParts_write_other (other : l ≠ target) :
    (ws.write target text).isFileParts l = ws.isFileParts l := by
  simp only [isFileParts, write, List.any_append, List.any_cons, List.any_nil, Bool.or_false]
  have notTarget : (target == l) = false := by simpa using fun same => other same.symm
  rw [notTarget, Bool.or_false]
  apply Bool.eq_iff_iff.mpr
  simp only [List.any_eq_true, List.mem_filter]
  constructor
  · rintro ⟨e, ⟨member, -⟩, named⟩
    exact ⟨e, member, named⟩
  · rintro ⟨e, member, named⟩
    refine ⟨e, ⟨member, ?_⟩, named⟩
    simp only [beq_iff_eq] at named
    simpa [named] using other

/-- A write puts nothing below its own path. -/
theorem isDirParts_write_self (nonempty : target ≠ []) (empty : ws.isDirParts target = false) :
    (ws.write target text).isDirParts target = false := by
  simp only [isDirParts, write, List.any_append, List.any_cons, List.any_nil, Bool.or_false,
    List.isEmpty_eq_false_iff.mpr nonempty, Bool.false_or, gt_iff_lt, Nat.lt_irrefl,
    decide_false, Bool.false_and] at empty ⊢
  rw [Bool.eq_false_iff] at empty ⊢
  intro below
  apply empty
  simp only [List.any_eq_true, List.mem_filter] at below ⊢
  obtain ⟨e, ⟨member, -⟩, deeper⟩ := below
  exact ⟨e, member, deeper⟩

end Writing

/-- Every beginning of a directory's parts is a directory. -/
theorem isDirParts_take {ws : Workspace} {l : List String} (dir : ws.isDirParts l = true) (k : Nat) :
    ws.isDirParts (l.take k) = true := by
  simp only [isDirParts, Bool.or_eq_true, List.isEmpty_iff, List.any_eq_true, Bool.and_eq_true,
    decide_eq_true_eq, beq_iff_eq] at dir ⊢
  rcases dir with empty | ⟨e, member, deeper, starts⟩
  · exact .inl (by simp [empty])
  · refine .inr ⟨e, member, ?_, ?_⟩
    · have := List.length_take_le' k l
      omega
    · calc e.fst.take (l.take k).length = (e.fst.take l.length).take k := by
            rw [List.length_take, List.take_take]
        _ = l.take k := by rw [starts]

/-- A file's path is a directory at every level above the file. -/
theorem isDirParts_of_file {ws : Workspace} {l : List String} (file : ws.isFileParts l = true) {k : Nat}
    (above : k < l.length) : ws.isDirParts (l.take k) = true := by
  simp only [isFileParts, List.any_eq_true, beq_iff_eq] at file
  obtain ⟨e, member, rfl⟩ := file
  simp only [isDirParts, Bool.or_eq_true, List.any_eq_true, Bool.and_eq_true, decide_eq_true_eq,
    beq_iff_eq]
  refine .inr ⟨e, member, ?_, ?_⟩
  · rw [List.length_take]
    omega
  · rw [List.length_take, Nat.min_eq_left (Nat.le_of_lt above)]

end Workspace

end Dashwright.Project
