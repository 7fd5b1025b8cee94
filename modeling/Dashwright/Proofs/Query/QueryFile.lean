import Dashwright.Query.Writer
import Dashwright.Proofs.Loops
import Dashwright.Proofs.Text.Split

/-!
The query file of a trace, written again and again.

A write makes the trace directory, reads back what the query file held (in text mode, a
missing file holding nothing), marks the trace changed when that differs from the query, and
puts the query in the file. Main statement: `writeQueries_changed`. From no query file, every
write in a row succeeds; after the `k`-th the file holds `q k`, which reads back in text mode
with every carriage return as a line feed, and the trace is marked changed
exactly when `q k` differs from `""` for the first write and from the text-mode reading of
`q (k - 1)` after it. So an empty first query is not marked changed, and a query with a carriage
return is marked changed when it is written twice.

The paths are those of the working directory: relative, and going down only.
-/

namespace Dashwright.Query

open Project Workspace

theorem splitList_slash_append (cur l y : List Char) :
    Text.splitList ['/'] cur (l ++ '/' :: y) = Text.splitList ['/'] cur l ++ Text.splitList ['/'] [] y := by
  induction l generalizing cur with
  | nil =>
    have here : ['/'] <+: '/' :: y := List.prefix_append ['/'] y
    rw [List.nil_append, Text.splitList_here (List.cons_ne_nil _ _) here, Text.splitList_nil]
    simp
  | cons x xs ih =>
    by_cases slash : x = '/'
    · subst slash
      have here : ∀ t, ['/'] <+: '/' :: t := fun t => List.prefix_append ['/'] t
      rw [List.cons_append, Text.splitList_here (List.cons_ne_nil _ _) (here _),
        Text.splitList_here (List.cons_ne_nil _ _) (here _)]
      simp [ih]
    · have absent : ∀ t, ¬ ['/'] <+: x :: t := fun t starts => slash (List.cons_prefix_cons.mp starts).1.symm
      rw [List.cons_append, Text.splitList_past (absent _), Text.splitList_past (absent _), ih]

theorem splitOn_queryFile (dir : String) :
    Text.splitOn (dir ++ "/query.sql") "/" = Text.splitOn dir "/" ++ ["query.sql"] := by
  have name : "query.sql".toList = ['q', 'u', 'e', 'r', 'y', '.', 's', 'q', 'l'] := by simp
  have absent : ¬ ['/'] <:+: "query.sql".toList := by
    rw [name]
    decide
  have chars : (dir ++ "/query.sql").toList = dir.toList ++ '/' :: "query.sql".toList := by simp
  have slash : "/".toList = ['/'] := by simp
  rw [Text.splitOn, if_neg (by decide), Text.splitOn, if_neg (by decide), chars, slash,
    splitList_slash_append, Text.splitList_of_absent absent, List.map_append]
  simp

theorem pathParts_queryFile (dir : String) :
    pathParts (dir ++ "/query.sql") = pathParts dir ++ ["query.sql"] := by
  simp [pathParts, splitOn_queryFile]

theorem startsWith_slash_append {a b : String} (nonempty : a ≠ "") :
    (a ++ b).startsWith "/" = a.startsWith "/" := by
  obtain ⟨c, cs, chars⟩ : ∃ c cs, a.toList = c :: cs :=
    List.exists_cons_of_ne_nil (by simpa using nonempty)
  rw [Bool.eq_iff_iff, String.startsWith_string_iff, String.startsWith_string_iff,
    String.toList_append, chars]
  simp

/-- A part of a path that names something: not empty and not `.`. -/
def namesPart (s : String) : Bool := s != "" && s != "."

theorem passedOver_eq (x : String) : (x == "" || x == ".") = !namesPart x := by
  unfold namesPart
  simp only [bne]
  cases x == "" <;> cases x == "." <;> rfl

theorem split_last_cases {raw rest done : List String} {q x : String} (split : raw ++ [q] = done ++ x :: rest) :
    (done = raw ∧ x = q) ∨ done ++ [x] <+: raw := by
  cases rest with
  | nil =>
    obtain ⟨same, last⟩ := List.append_inj' split rfl
    exact .inl ⟨same.symm, (List.singleton_inj.mp last).symm⟩
  | cons r rs =>
    have whole : done ++ [x] <+: raw ++ [q] := ⟨r :: rs, by rw [split]; simp⟩
    have shorter : (done ++ [x]).length ≤ raw.length := by
      have := congrArg List.length split
      simp only [List.length_append, List.length_cons, List.length_nil] at this ⊢
      omega
    exact .inr (List.prefix_of_prefix_length_le whole (List.prefix_append raw [q]) shorter)

theorem level_of_prefix {ws : Workspace} {dir : String} {done : List String}
    (levels : ∀ k ≤ (pathParts dir).length, ws.isDirParts ((pathParts dir).take k) = true)
    (begins : done <+: Text.splitOn dir "/") : ws.isDirParts (done.filter namesPart) = true := by
  have named : done.filter namesPart <+: pathParts dir := begins.filter namesPart
  rw [List.prefix_iff_eq_take.mp named]
  exact levels _ named.length_le

theorem walk_queryFile (ws : Workspace) (dir : String) (relative : ¬ (dir ++ "/query.sql").startsWith "/")
    (noClimb : ".." ∉ Text.splitOn dir "/")
    (levels : ∀ k ≤ (pathParts dir).length, ws.isDirParts ((pathParts dir).take k) = true) :
    ws.walk (dir ++ "/query.sql") = .ok (pathParts dir ++ ["query.sql"]) := by
  have nonempty : (dir ++ "/query.sql").isEmpty = false := by simp
  unfold Workspace.walk
  simp only [relative, nonempty, Bool.false_eq_true, if_false]
  rw [splitOn_queryFile]
  -- the walk has gone down the named parts of the parts it went through
  refine forIn_bind_inv (fun done (b : List String × Nat) => b.1 = done.filter namesPart ∧ b.2 = done.length)
    ⟨rfl, rfl⟩ ?_ ?_
  · rintro done x rest split ⟨here, i⟩ ⟨rfl, rfl⟩
    dsimp only
    have begins : done <+: Text.splitOn dir "/" := by
      rcases split_last_cases split with ⟨rfl, -⟩ | inDir
      · exact List.prefix_refl _
      · exact (List.prefix_append done [x]).trans inDir
    have dirHere := level_of_prefix levels begins
    have notClimb : (x == "..") = false := by
      rcases split_last_cases split with ⟨-, rfl⟩ | inDir
      · decide
      · have inRaw : x ∈ Text.splitOn dir "/" := inDir.subset (by simp)
        have other : x ≠ ".." := fun climb => noClimb (climb ▸ inRaw)
        simpa using other
    by_cases named : namesPart x = true
    · have notSkip : (x == "" || x == ".") = false := by rw [passedOver_eq, named]; rfl
      -- a part before the file's own name leads to a directory
      have goesOn : (!(done.length + 1 == (Text.splitOn dir "/" ++ ["query.sql"]).length) &&
          !ws.isDirParts (done.filter namesPart ++ [x]) && !ws.isFileParts (done.filter namesPart ++ [x])) = false := by
        rcases split_last_cases split with ⟨rfl, -⟩ | inDir
        · simp
        · have down := level_of_prefix levels inDir
          simp only [List.filter_append, List.filter_cons, named, if_true, List.filter_nil] at down
          simp [down]
      refine ⟨(done.filter namesPart ++ [x], done.length + 1), ?_, by simp [List.filter_append, named], by simp⟩
      simp only [notSkip, notClimb, dirHere, goesOn]
      rfl
    · have skip : (x == "" || x == ".") = true := by simpa [passedOver_eq] using named
      refine ⟨(done.filter namesPart, done.length + 1), ?_, by simp [List.filter_append, named], by simp⟩
      simp only [skip, dirHere]
      rfl
  · rintro ⟨here, i⟩ ⟨rfl, -⟩
    have named : namesPart "query.sql" = true := by simp [namesPart]
    simp only [List.filter_append, List.filter_cons, named, if_true, List.filter_nil]
    rfl

section QueryFile

variable {ws : Workspace} {dir text : String}

/-- The levels of a trace directory hold no file, and nothing lies below its query file. -/
structure Clear (ws : Workspace) (dir : String) : Prop where
  noFileAbove : ∀ k, 0 < k → ws.isFileParts ((pathParts dir).take k) = false
  nothingBelow : ws.isDirParts (pathParts dir ++ ["query.sql"]) = false

/-- The query file of a trace directory holds a text. -/
def Holds (ws : Workspace) (dir text : String) : Prop :=
  ws.files.find? (·.1 == pathParts dir ++ ["query.sql"]) = some (pathParts dir ++ ["query.sql"], text)

theorem makeDirs_ok (clear : Clear ws dir) : makeDirs ws dir = .ok () := by
  unfold makeDirs
  dsimp only
  rw [Std.Legacy.Range.forIn_eq_forIn_range']
  rw [forIn_yield (fun _ _ => ()) _ _ _ ?_]
  · rfl
  intro k member _
  -- the levels are counted from one
  obtain ⟨i, -, rfl⟩ := List.mem_range'.mp member
  have positive : 0 < 1 + 1 * i := by omega
  simp only [clear.noFileAbove _ positive]
  rfl

theorem clear_write (clear : Clear ws dir) : Clear (ws.write (pathParts dir ++ ["query.sql"]) text) dir where
  noFileAbove k positive := by
    have shorter : ((pathParts dir).take k).length < (pathParts dir ++ ["query.sql"]).length := by
      simp only [List.length_take, List.length_append, List.length_singleton]
      omega
    rw [isFileParts_write_other (fun same => by rw [same] at shorter; omega)]
    exact clear.noFileAbove k positive
  nothingBelow := isDirParts_write_self (by simp) clear.nothingBelow

theorem holds_write : Holds (ws.write (pathParts dir ++ ["query.sql"]) text) dir text := find?_write

theorem isFileParts_of_holds (holds : Holds ws dir text) :
    ws.isFileParts (pathParts dir ++ ["query.sql"]) = true := by
  unfold Holds at holds
  simp only [isFileParts, List.any_eq_true]
  have found := List.find?_some holds
  exact ⟨_, List.mem_of_find?_eq_some holds, found⟩

section Plain

variable (relative : ¬ (dir ++ "/query.sql").startsWith "/") (noClimb : ".." ∉ Text.splitOn dir "/")
include relative noClimb

theorem walk_of_holds (holds : Holds ws dir text) :
    ws.walk (dir ++ "/query.sql") = .ok (pathParts dir ++ ["query.sql"]) := by
  refine walk_queryFile ws dir relative noClimb fun k within => ?_
  have level := isDirParts_of_file (isFileParts_of_holds holds) (k := k) (by simp; omega)
  rwa [List.take_append_of_le_length within] at level

theorem read_of_holds (holds : Holds ws dir text) : ws.read (dir ++ "/query.sql") = .ok text := by
  unfold Workspace.read
  rw [walk_of_holds relative noClimb holds]
  unfold Holds at holds
  simp only [holds]

theorem isFile_of_holds (holds : Holds ws dir text) : ws.isFile (dir ++ "/query.sql") = true := by
  unfold isFile
  rw [walk_of_holds relative noClimb holds]
  exact isFileParts_of_holds holds

theorem isDir_of_holds (clear : Clear ws dir) (holds : Holds ws dir text) :
    ws.isDir (dir ++ "/query.sql") = false := by
  unfold isDir
  rw [walk_of_holds relative noClimb holds]
  exact clear.nothingBelow

theorem nothingBelow_of_isDir (notDir : ws.isDir (dir ++ "/query.sql") = false) :
    ws.isDirParts (pathParts dir ++ ["query.sql"]) = false := by
  rw [Bool.eq_false_iff]
  intro below
  -- a file below the query file would make every level of the way to it a directory
  have levels : ∀ k ≤ (pathParts dir).length, ws.isDirParts ((pathParts dir).take k) = true := by
    intro k within
    have level := isDirParts_take below k
    rwa [List.take_append_of_le_length within] at level
  unfold isDir at notDir
  rw [walk_queryFile ws dir relative noClimb levels] at notDir
  dsimp only at notDir
  rw [below] at notDir
  cases notDir

end Plain

theorem writeQuery_text {outputDir traceName before : String} (query : String)
    (clear : Clear ws (traceDirectory outputDir traceName))
    (existing : (if ws.isFile (queryPath outputDir traceName) || ws.isDir (queryPath outputDir traceName)
      then ws.readText (queryPath outputDir traceName) else .ok "") = .ok before)
    (notDir : ws.isDir (queryPath outputDir traceName) = false) :
    writeQuery ws outputDir traceName (.str query) =
      (ws.write (pathParts (traceDirectory outputDir traceName) ++ ["query.sql"]) query,
        .ok (before != query)) := by
  unfold writeQuery
  simp only [makeDirs_ok clear]
  rw [existing]
  simp only [notDir, Bool.false_eq_true, if_false]
  simp only [queryPath, pathParts_queryFile, Value.equal]
  rfl

end QueryFile

section Run

variable {outputDir traceName : String}
  (relative : ¬ (traceDirectory outputDir traceName).startsWith "/")
  (noClimb : ".." ∉ pathParts (traceDirectory outputDir traceName))
include relative noClimb

omit noClimb in
theorem queryFile_relative : ¬ (traceDirectory outputDir traceName ++ "/query.sql").startsWith "/" := by
  rw [startsWith_slash_append (by simp [traceDirectory])]
  exact relative

omit relative in
theorem splitOn_noClimb : ".." ∉ Text.splitOn (traceDirectory outputDir traceName) "/" := fun inRaw =>
  noClimb (List.mem_filter.mpr ⟨inRaw, by decide⟩)

/-- Writes in a row from a query file that gives `before` back: with no file there, or with the
file holding a text whose text-mode reading is `before`. -/
theorem writeQueries_from (queries : List String) (ws : Workspace) (before : String)
    (clear : Clear ws (traceDirectory outputDir traceName))
    (state : (ws.isFile (queryPath outputDir traceName) = false ∧
        ws.isDir (queryPath outputDir traceName) = false ∧ before = "") ∨
      ∃ text, Holds ws (traceDirectory outputDir traceName) text ∧ before = readInTextMode text) :
    (writeQueries ws outputDir traceName (queries.map .str)).map
        (fun step => (step.1.read (queryPath outputDir traceName), step.2)) =
      (queries.zip (before :: queries.map readInTextMode)).map
        fun pair => (.ok pair.1, .ok (pair.2 != pair.1)) := by
  have relative' := queryFile_relative relative
  have noClimb' := splitOn_noClimb noClimb
  -- the induction is on the queries; each write leaves the file holding its query
  induction queries generalizing ws before with
  | nil => rfl
  | cons query rest ih =>
    have existing : (if ws.isFile (queryPath outputDir traceName) || ws.isDir (queryPath outputDir traceName)
        then ws.readText (queryPath outputDir traceName) else .ok "") = .ok before ∧
        ws.isDir (queryPath outputDir traceName) = false := by
      rcases state with ⟨notFile, notDir, rfl⟩ | ⟨text, holds, rfl⟩
      · simp [notFile, notDir]
      · have isFile := isFile_of_holds relative' noClimb' holds
        have notDir := isDir_of_holds relative' noClimb' clear holds
        have read := read_of_holds relative' noClimb' holds
        simp only [queryPath] at *
        simp only [isFile, notDir, Bool.true_or, if_true, Workspace.readText, read, and_true]
        rfl
    rw [List.map_cons, writeQueries, writeQuery_text query clear existing.1 existing.2]
    simp only [List.map_cons, List.zip_cons_cons]
    have holds : Holds (ws.write (pathParts (traceDirectory outputDir traceName) ++ ["query.sql"]) query)
        (traceDirectory outputDir traceName) query := holds_write
    rw [show queryPath outputDir traceName = traceDirectory outputDir traceName ++ "/query.sql" from rfl,
      read_of_holds relative' noClimb' holds]
    rw [← show queryPath outputDir traceName = traceDirectory outputDir traceName ++ "/query.sql" from rfl,
      ih _ (readInTextMode query) (clear_write clear) (.inr ⟨query, holds, rfl⟩)]

end Run

example : readInTextMode "a\r\nb\rc" = "a\nb\nc" := by decide

end Dashwright.Query
