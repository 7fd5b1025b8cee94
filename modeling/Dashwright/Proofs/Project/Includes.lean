import Mathlib
import Dashwright.Proofs.Project.Checkouts
import Dashwright.Proofs.Chains
import Dashwright.Proofs.Loops
import Dashwright.Proofs.Text.Split
import Dashwright.Proofs.Value.Texts

/-! Discovering a project's files through their includes.

A project whose files are YAML mappings, each including files by paths, is an include graph:
a file includes the files its entries name. A path that contains `.git` names a git
dependency, the project file of its folder in the dependency cache; any other path is read
from the including file's directory. When the cache serves each dependency at the commit it
has checked out, the walk reads the working directory as the cache left it all along.

Discovery walks the graph depth first from the project file and lists a file once for every
include that reaches it, so a file that two others include is listed twice. The walk gives up
at a depth of 990 includes, where the recursion limit stops it: it finds the files exactly
when no chain of 990 includes starts at the project file. So it never finds them when the
project file reaches a file that includes itself, directly or not, and in a project of at most
990 files that is the only way it fails.

An included file that is empty loads as nothing, which has no keys to look for `includes` in,
and discovery fails there. -/

namespace Dashwright.Project

open Relation

theorem containsKey_map (es : List (Value × Value)) (locs : Option (List (Value × String × String)))
    (key : String) : containsKey (.map es locs) key = pure (lookupEntry (.str key) es).isSome := by
  simp only [containsKey]
  congr 1
  induction es with
  | nil => rfl
  | cons entry rest ih =>
    obtain ⟨k, v⟩ := entry
    rw [List.any_cons, lookupEntry, Value.equal_text_comm k key, ih]
    cases Value.equal (.str key) k <;> rfl

theorem itemAt_map {es : List (Value × Value)} {locs : Option (List (Value × String × String))}
    {key : String} {v : Value} (found : lookupEntry (.str key) es = some v) :
    itemAt (.map es locs) key = pure v := by
  induction es with
  | nil => cases found
  | cons entry rest ih =>
    obtain ⟨k, w⟩ := entry
    rw [lookupEntry] at found
    unfold itemAt
    dsimp only
    rw [List.find?_cons]
    dsimp only
    rw [Value.equal_text_comm k key]
    cases equal : Value.equal (.str key) k
    · simp only [equal] at found
      exact ih found
    · simp only [equal, if_true, Option.some.injEq] at found
      rw [found]
      rfl

theorem containsKey_str (s : String) {key : String} (nonempty : key ≠ "") :
    containsKey (.str s) key = pure (decide (key.toList <:+: s.toList)) := by
  have empty : key.isEmpty = false := by simpa [String.isEmpty_iff] using nonempty
  have occurs := Text.contains_iff_infix s key
  simp only [Text.contains, empty, Bool.false_or, decide_eq_true_eq] at occurs
  simp only [containsKey, occurs]
  rfl

theorem text_str (s : String) : (Value.str s).text = s := rfl

theorem Workspace.exists_of_read {ws : Workspace} {file text : String} (read : ws.read file = .ok text) :
    ws.exists file = true := by
  unfold Workspace.read at read
  unfold Workspace.exists Workspace.isFile
  cases walked : ws.walk file with
  | error miss => rw [walked] at read; cases miss <;> cases read
  | ok parts =>
    simp only [walked] at read
    have stored : (ws.files.find? (·.1 == parts)).isSome := by
      cases found : ws.files.find? (·.1 == parts) with
      | some entry => rfl
      | none =>
        simp only [found] at read
        split at read <;> simp at read
    rw [List.find?_isSome] at stored
    simp only [Workspace.isFileParts, Bool.or_eq_true, List.any_eq_true]
    exact .inl stored

/-- The path an include entry names, when the entry is a mapping with only a text `path`. -/
def entryPath? : Value → Option String
  | .map [(.str "path", .str p)] _ => some p
  | _ => none

/-- The paths a loaded project file includes: none when it is no mapping or its `includes` is
not a list of entries naming a path, and no paths when it has no `includes`. -/
def includePaths? : Value → Option (List String)
  | .map es _ =>
    match lookupEntry (.str "includes") es with
    | none => some []
    | some (.list items) => items.mapM entryPath?
    | some _ => none
  | _ => none

theorem entry_of_entryPath {entry : Value} {p : String} (named : entryPath? entry = some p) :
    ∃ locs, entry = .map [(.str "path", .str p)] locs := by
  unfold entryPath? at named
  split at named
  · cases named
    exact ⟨_, rfl⟩
  · cases named

theorem includePath_entry (p : String) (locs : Option (List (Value × String × String))) :
    includePath (.map [(.str "path", .str p)] locs) = pure (.str p) := by
  simp only [includePath, List.forIn_cons, List.forIn_nil]
  simp [lookupEntry, Value.equal]

theorem includeEntries_of_paths {v : Value} {ps : List String} (paths : includePaths? v = some ps) :
    ∃ items, includeEntries v = pure items ∧ items.mapM entryPath? = some ps := by
  unfold includePaths? at paths
  split at paths
  · rename_i es locs
    split at paths
    · rename_i absent
      cases paths
      exact ⟨[], by simp [includeEntries, containsKey_map, absent], rfl⟩
    · rename_i items present
      exact ⟨items, by simp [includeEntries, containsKey_map, present, itemAt_map present, Value.iterate], paths⟩
    · cases paths
  · cases paths

/-- The file an include path names, seen from the including file. -/
def includedPath (file path : String) : String := dirName file ++ "/" ++ path

/-- The file an include path names when the files are read from `W`: the project file of a git
dependency's folder in the cache when the path contains `.git`, else the path seen from the
including file. -/
def resolveInclude (W : Workspace) (wd file path : String) : String :=
  if ".git".toList <:+: path.toList then projectFileIn W (gitFolder wd path) else includedPath file path

theorem resolveInclude_of_git {W : Workspace} {wd file path : String} (git : ".git".toList <:+: path.toList) :
    resolveInclude W wd file path = projectFileIn W (gitFolder wd path) :=
  if_pos git

theorem resolveInclude_of_plain {W : Workspace} {wd file path : String} (plain : ¬ ".git".toList <:+: path.toList) :
    resolveInclude W wd file path = includedPath file path :=
  if_neg plain

/-- The include paths of a file of a working directory, when it reads and loads as a project
file whose includes are entries naming a path. -/
def projectIncludes? (ws : Workspace) (env : Environment) (file : String) : Option (List String) :=
  match ws.read file >>= loadProjectFile env file with
  | .ok v => includePaths? v
  | .error _ => none

/-- Files of a working directory read as `W`, with cached repositories, that form a project:
each loads as a mapping whose `includes` names the paths `includes` gives, the cache serves
each git dependency among them, and each included file is one of them. -/
structure IncludeProject (W : Workspace) (repos : List CachedRepo) (env : Environment) (wd : String)
    (files : List String) (includes : String → List String) : Prop where
  loads : ∀ file ∈ files, projectIncludes? W env file = some (includes file)
  served : ∀ file ∈ files, ∀ path ∈ includes file, ".git".toList <:+: path.toList →
    servesDependency repos wd path = true
  closed : ∀ file ∈ files, ∀ path ∈ includes file, resolveInclude W wd file path ∈ files

theorem includeProject_iff (W : Workspace) (repos : List CachedRepo) (env : Environment) (wd : String)
    (files : List String) (includes : String → List String) :
    IncludeProject W repos env wd files includes ↔
      (∀ file ∈ files, projectIncludes? W env file = some (includes file)) ∧
      (∀ file ∈ files, ∀ path ∈ includes file, ".git".toList <:+: path.toList →
        servesDependency repos wd path = true) ∧
      (∀ file ∈ files, ∀ path ∈ includes file, resolveInclude W wd file path ∈ files) :=
  ⟨fun project => ⟨project.loads, project.served, project.closed⟩, fun held => ⟨held.1, held.2.1, held.2.2⟩⟩

instance decidableIncludeProject (W : Workspace) (repos : List CachedRepo) (env : Environment) (wd : String)
    (files : List String) (includes : String → List String) :
    Decidable (IncludeProject W repos env wd files includes) :=
  decidable_of_iff _ (includeProject_iff W repos env wd files includes).symm

/-- Files of a working directory that form a project of local includes: each loads as a
mapping whose `includes` names the paths `includes` gives, none of them a git dependency,
and each included file is one of them. -/
structure LocalProject (ws : Workspace) (env : Environment) (files : List String)
    (includes : String → List String) : Prop where
  loads : ∀ file ∈ files, projectIncludes? ws env file = some (includes file)
  noGit : ∀ file ∈ files, ∀ path ∈ includes file, ¬ ".git".toList <:+: path.toList
  closed : ∀ file ∈ files, ∀ path ∈ includes file, includedPath file path ∈ files

instance (ws : Workspace) (env : Environment) (files : List String) (includes : String → List String) :
    Decidable (LocalProject ws env files includes) :=
  decidable_of_iff ((∀ file ∈ files, projectIncludes? ws env file = some (includes file)) ∧
      (∀ file ∈ files, ∀ path ∈ includes file, ¬ ".git".toList <:+: path.toList) ∧
      (∀ file ∈ files, ∀ path ∈ includes file, includedPath file path ∈ files))
    ⟨fun ⟨loads, noGit, closed⟩ => ⟨loads, noGit, closed⟩,
      fun ⟨loads, noGit, closed⟩ => ⟨loads, noGit, closed⟩⟩

theorem LocalProject.includeProject {ws : Workspace} {env : Environment} {files : List String}
    {includes : String → List String} (project : LocalProject ws env files includes) (wd : String) :
    IncludeProject ws [] env wd files includes where
  loads := project.loads
  served file member path listed git := absurd git (project.noGit file member path listed)
  closed file member path listed := by
    rw [resolveInclude_of_plain (project.noGit file member path listed)]
    exact project.closed file member path listed

theorem IncludeProject.loaded {W : Workspace} {repos : List CachedRepo} {env : Environment} {wd : String}
    {files : List String} {includes : String → List String} (project : IncludeProject W repos env wd files includes)
    {file : String} (member : file ∈ files) :
    ∃ text v, W.read file = .ok text ∧ loadProjectFile env file text = .ok v ∧
      includePaths? v = some (includes file) := by
  have loads := project.loads file member
  unfold projectIncludes? at loads
  split at loads
  · rename_i v loaded
    obtain ⟨text, read, load⟩ := bind_eq_ok loaded
    exact ⟨text, v, read, load, loads⟩
  · cases loads

/-- The files below a file of an include graph, depth first: each include, then the files
below it. Nothing when a chain of `depth` includes starts at the file. -/
def walkBelow (resolve : String → String → String) (includes : String → List String) :
    Nat → String → Option (List String)
  | 0, _ => none
  | depth + 1, file => ((includes file).mapM fun path =>
      (walkBelow resolve includes depth (resolve file path)).map (normalizePath (resolve file path) :: ·)).map
        List.flatten

def preorder (includes : String → List String) : Nat → String → Option (List String) :=
  walkBelow includedPath includes

def Includes (resolve : String → String → String) (includes : String → List String) (file other : String) :
    Prop :=
  ∃ path ∈ includes file, other = resolve file path

section Target

variable {repos : List CachedRepo} {W : Workspace} {d : Discovery} {wd : String}

theorem includeTarget_run (cache : CheckedOut repos W) (settled : Settled repos W d) {file p : String}
    {entry : Value} (named : entryPath? entry = some p)
    (served : ".git".toList <:+: p.toList → servesDependency repos wd p = true)
    (present : W.exists (resolveInclude W wd file p) = true) :
    ∃ d', (includeTarget wd (dirName file) entry).run d = .ok (resolveInclude W wd file p, d') ∧
      Settled repos W d' := by
  obtain ⟨locs, rfl⟩ := entry_of_entryPath named
  have marker := containsKey_str p (by decide : ".git" ≠ "")
  by_cases git : ".git".toList <:+: p.toList
  · obtain ⟨d', fetched, settled'⟩ := gitProjectFile_settled cache settled (served git)
    rw [resolveInclude_of_git git] at present ⊢
    refine ⟨d', ?_, settled'⟩
    simp only [includeTarget, includePath_entry, marker, git, decide_true, text_str, StateT.run_bind,
      liftM, StateT.run_monadLift, monadLift_self, ok_bind, pure_bind, if_true, fetched, StateT.run_get,
      settled'.agrees.exists, present, Bool.not_true, Bool.false_eq_true, if_false]
    rfl
  · rw [resolveInclude_of_plain git] at present ⊢
    refine ⟨d, ?_, settled⟩
    simp only [includeTarget, includePath_entry, marker, git, decide_false, text_str, StateT.run_bind,
      liftM, StateT.run_monadLift, monadLift_self, pure_bind, Bool.false_eq_true, if_false,
      StateT.run_get, settled.agrees.exists, includedPath] at present ⊢
    simp only [present, Bool.not_true, Bool.false_eq_true, if_false]
    rfl

end Target

/-- The failure of a walk that reaches the recursion limit. -/
def recursionLimit : Failure := Failure.make .tooDeep "maximum recursion depth exceeded"

/-- What the walk gives from a settled state: the files found and a state still settled, or
the failure at the recursion limit. -/
def WalkResult (repos : List CachedRepo) (W : Workspace) (result : Outcome (List String × Discovery)) :
    Option (List String) → Prop
  | some found => ∃ d, result = .ok (found, d) ∧ Settled repos W d
  | none => result = .error recursionLimit

section Walk

variable {repos : List CachedRepo} {W : Workspace} {env : Environment} {wd : String} {files : List String}
  {includes : String → List String}

theorem includesBelow_run {visit : String → DiscoverM (List String)} {base : String}
    {target : String → String} {below : String → Option (List String)} {items : List Value} {ps : List String}
    (paths : items.mapM entryPath? = some ps)
    (targets : ∀ p ∈ ps, ∀ entry, entryPath? entry = some p → ∀ d, Settled repos W d →
      ∃ d', (includeTarget wd base entry).run d = .ok (target p, d') ∧ Settled repos W d')
    (visits : ∀ p ∈ ps, ∀ d, Settled repos W d → WalkResult repos W ((visit (target p)).run d) (below (target p)))
    {d : Discovery} (settled : Settled repos W d) :
    WalkResult repos W ((includesBelow visit wd base items).run d)
      ((ps.mapM fun p => (below (target p)).map (normalizePath (target p) :: ·)).map List.flatten) := by
  induction items generalizing ps d with
  | nil =>
    cases paths
    exact ⟨d, rfl, settled⟩
  | cons entry rest ih =>
    rw [List.mapM_cons] at paths
    obtain ⟨p, named, paths⟩ := Option.bind_eq_some_iff.mp paths
    obtain ⟨ps', restPaths, back⟩ := Option.bind_eq_some_iff.mp paths
    cases back
    obtain ⟨d₁, targeted, settled₁⟩ := targets p List.mem_cons_self entry named d settled
    rw [includesBelow, StateT.run_bind, targeted, ok_bind, StateT.run_bind]
    have visited := visits p List.mem_cons_self d₁ settled₁
    -- the walk stops at the first include whose files it cannot find
    cases found : below (target p) with
    | none =>
      rw [found] at visited
      simp only [WalkResult] at visited
      simp only [visited, List.mapM_cons, found]
      rfl
    | some l =>
      rw [found] at visited
      obtain ⟨d₂, walked, settled₂⟩ := visited
      have others := ih restPaths (fun q member => targets q (List.mem_cons_of_mem p member))
        (fun q member => visits q (List.mem_cons_of_mem p member)) settled₂
      rw [walked, ok_bind, StateT.run_bind]
      cases more : ps'.mapM fun q => (below (target q)).map (normalizePath (target q) :: ·) with
      | none =>
        rw [more] at others
        simp only [Option.map_none, WalkResult] at others
        simp only [others, List.mapM_cons, found, more]
        rfl
      | some ls =>
        rw [more] at others
        obtain ⟨d₃, rested, settled₃⟩ := others
        have listed : ((p :: ps').mapM fun q => (below (target q)).map (normalizePath (target q) :: ·)).map
            List.flatten = some ((normalizePath (target p) :: l) ++ ls.flatten) := by
          simp [List.mapM_cons, found, more]
        rw [listed]
        refine ⟨d₃, ?_, settled₃⟩
        simp only [rested, ok_bind]
        rfl

theorem includedFiles_run (cache : CheckedOut repos W) (project : IncludeProject W repos env wd files includes)
    (depth : Nat) :
    ∀ file ∈ files, ∀ d, Settled repos W d →
      WalkResult repos W ((includedFiles env wd depth file).run d)
        (walkBelow (resolveInclude W wd) includes depth file) := by
  induction depth with
  | zero => intro file _ d _; rfl
  | succ depth ih =>
    intro file member d settled
    obtain ⟨text, v, read, load, paths⟩ := project.loaded member
    obtain ⟨items, entries, itemPaths⟩ := includeEntries_of_paths paths
    rw [includedFiles.eq_2]
    simp only [StateT.run_bind, StateT.run_get, pure_bind, settled.agrees.read, read, load, entries, liftM,
      StateT.run_monadLift, monadLift_self, ok_bind]
    apply includesBelow_run itemPaths _ _ settled
    · intro path listed entry named d' settled'
      have target := project.closed file member path listed
      obtain ⟨_, _, readable, -⟩ := project.loaded target
      exact includeTarget_run cache settled' named (project.served file member path listed)
        (Workspace.exists_of_read readable)
    · intro path listed d' settled'
      exact ih _ (project.closed file member path listed) d' settled'

/-- Discovery in a project: the project file, the files the walk finds below it, and the
profile when there is one; or the failure at the recursion limit. -/
theorem discoverFiles_run {ws : Workspace} (layout : CacheLayout repos)
    (project : IncludeProject (Discovery.start ws repos).ws repos env wd files includes)
    (located : normalizePath (projectFileIn (Discovery.start ws repos).ws wd) ∈ files) (home : String) :
    let W := (Discovery.start ws repos).ws
    let P := normalizePath (projectFileIn W wd)
    discoverFiles ws repos env wd home =
      match walkBelow (resolveInclude W wd) includes includeDepth P with
      | some found => pure (P, [P] ++ found ++ (if W.exists (profilePath home) then [profilePath home] else []))
      | none => throw recursionLimit := by
  intro W P
  obtain ⟨_, _, readable, -⟩ := project.loaded located
  have walked := includedFiles_run (CheckedOut.start layout ws) project includeDepth P located _
    (Settled.start layout ws)
  unfold discoverFiles
  simp only [Workspace.exists_of_read readable, Bool.not_true, Bool.false_eq_true, if_false]
  cases found : walkBelow (resolveInclude W wd) includes includeDepth P with
  | none =>
    rw [found] at walked
    simp only [WalkResult] at walked
    simp only [W, P] at walked
    simp only [walked]
    rfl
  | some l =>
    rw [found] at walked
    obtain ⟨d, ran, settled⟩ := walked
    simp only [W, P] at ran
    simp only [ran, ok_bind, settled.agrees.exists]
    rfl

end Walk

theorem mapM_congr_of_mem {α β : Type} {f g : α → Option β} :
    ∀ {l : List α}, (∀ x ∈ l, f x = g x) → l.mapM f = l.mapM g
  | [], _ => rfl
  | x :: rest, same => by
    rw [List.mapM_cons, List.mapM_cons, same x List.mem_cons_self,
      mapM_congr_of_mem fun y member => same y (List.mem_cons_of_mem x member)]

section Local

variable {ws : Workspace} {env : Environment} {files : List String} {includes : String → List String}
  {wd : String}

theorem walkBelow_local (project : LocalProject ws env files includes) (depth : Nat) :
    ∀ file ∈ files, walkBelow (resolveInclude ws wd) includes depth file = preorder includes depth file := by
  induction depth with
  | zero => intro file _; rfl
  | succ depth ih =>
    intro file member
    -- each include names the same file either way, and the walks below it agree
    have same : ∀ path ∈ includes file,
        (walkBelow (resolveInclude ws wd) includes depth (resolveInclude ws wd file path)).map
          (normalizePath (resolveInclude ws wd file path) :: ·) =
        (preorder includes depth (includedPath file path)).map (normalizePath (includedPath file path) :: ·) := by
      intro path listed
      rw [resolveInclude_of_plain (project.noGit file member path listed)]
      rw [ih _ (project.closed file member path listed)]
    rw [walkBelow, mapM_congr_of_mem same]
    rfl

/-- Discovery in a project of local includes: the project file, the files the walk finds
below it, and the profile when there is one; or the failure at the recursion limit. -/
theorem discoverFiles_local (project : LocalProject ws env files includes)
    (located : normalizePath (projectFileIn ws wd) ∈ files) (home : String) :
    discoverFiles ws [] env wd home =
      match preorder includes includeDepth (normalizePath (projectFileIn ws wd)) with
      | some found => pure (normalizePath (projectFileIn ws wd), [normalizePath (projectFileIn ws wd)] ++ found ++
          (if ws.exists (profilePath home) then [profilePath home] else []))
      | none => throw recursionLimit := by
  have noCache : CacheLayout [] := ⟨List.Pairwise.nil, List.nodup_nil, fun _ none => absurd none List.not_mem_nil⟩
  have start : (Discovery.start ws []).ws = ws := rfl
  rw [discoverFiles_run noCache (project.includeProject wd) located home]
  simp only [start]
  rw [walkBelow_local project includeDepth _ located]

end Local

theorem mapM_eq_none_iff {α β : Type} {f : α → Option β} {l : List α} :
    l.mapM f = none ↔ ∃ a ∈ l, f a = none := by
  induction l with
  | nil => simp
  | cons a l ih =>
    rw [List.mapM_cons]
    cases h : f a with
    | none => simp [h]
    | some b =>
      have skip : (∃ x ∈ a :: l, f x = none) ↔ ∃ x ∈ l, f x = none := by simp [h]
      rw [skip, ← ih]
      cases l.mapM f <;> simp

section Chains

variable {resolve : String → String → String} {includes : String → List String}

/-- The walk meets the recursion limit exactly when a chain of as many includes as its depth
starts at the file. -/
theorem walkBelow_eq_none_iff {depth : Nat} {file : String} :
    walkBelow resolve includes depth file = none ↔ ChainFrom (Includes resolve includes) depth file := by
  induction depth generalizing file with
  | zero => exact ⟨fun _ => .start file, fun _ => rfl⟩
  | succ depth ih =>
    rw [walkBelow, Option.map_eq_none_iff, mapM_eq_none_iff]
    constructor
    · rintro ⟨path, listed, stuck⟩
      exact .step ⟨path, listed, rfl⟩ (ih.mp (Option.map_eq_none_iff.mp stuck))
    · intro chain
      cases chain with
      | step first rest =>
        obtain ⟨path, listed, rfl⟩ := first
        exact ⟨path, listed, Option.map_eq_none_iff.mpr (ih.mpr rest)⟩

end Chains

section Discovery

variable {ws : Workspace} {repos : List CachedRepo} {env : Environment} {files : List String}
  {includes : String → List String} {wd : String}

/-- Discovery in a project whose git dependencies the cache serves finds the project file `P`,
then the files below it depth first, one entry per include, then the profile when there is
one. It finds them exactly when no chain of 990 includes starts at `P`, and fails at the
recursion limit otherwise: always when `P` reaches a file that includes itself, and only then
in a project of at most 990 files. -/
theorem discoverFiles_follows_includes (layout : CacheLayout repos)
    (project : IncludeProject (Discovery.start ws repos).ws repos env wd files includes)
    (located : normalizePath (projectFileIn (Discovery.start ws repos).ws wd) ∈ files) (home : String) :
    let W := (Discovery.start ws repos).ws
    let P := normalizePath (projectFileIn W wd)
    let resolve := resolveInclude W wd
    let profile := if W.exists (profilePath home) then [profilePath home] else []
    ((∃ answer, discoverFiles ws repos env wd home = .ok answer) ↔ ¬ ChainFrom (Includes resolve includes) includeDepth P) ∧
    (∀ found, walkBelow resolve includes includeDepth P = some found →
      discoverFiles ws repos env wd home = .ok (P, [P] ++ found ++ profile)) ∧
    (ChainFrom (Includes resolve includes) includeDepth P → discoverFiles ws repos env wd home = .error recursionLimit) ∧
    (∀ file, ReflTransGen (Includes resolve includes) P file → TransGen (Includes resolve includes) file file →
      discoverFiles ws repos env wd home = .error recursionLimit) ∧
    (files.length ≤ includeDepth →
      (∀ file, ReflTransGen (Includes resolve includes) P file → ¬ TransGen (Includes resolve includes) file file) →
      ∃ answer, discoverFiles ws repos env wd home = .ok answer) := by
  intro W P resolve profile
  have equation := discoverFiles_run layout project located home
  have failing : ChainFrom (Includes resolve includes) includeDepth P →
      discoverFiles ws repos env wd home = .error recursionLimit := by
    intro chain
    rw [equation, walkBelow_eq_none_iff.mpr chain]
    rfl
  have succeeding : ¬ ChainFrom (Includes resolve includes) includeDepth P →
      ∃ answer, discoverFiles ws repos env wd home = .ok answer := by
    intro shallow
    cases walked : walkBelow resolve includes includeDepth P with
    | none => exact absurd (walkBelow_eq_none_iff.mp walked) shallow
    | some found => exact ⟨_, by rw [equation, walked]; rfl⟩
  refine ⟨⟨?_, succeeding⟩, ?_, failing, fun file reach cycle => failing (chainFrom_of_cycle reach cycle includeDepth), ?_⟩
  · rintro ⟨answer, found⟩ chain
    rw [failing chain] at found
    cases found
  · intro found walked
    rw [equation, walked]
    rfl
  · intro small acyclic
    apply succeeding
    intro chain
    have closed : ∀ file ∈ files, ∀ other, Includes resolve includes file other → other ∈ files := by
      rintro file member other ⟨path, listed, rfl⟩
      exact project.closed file member path listed
    obtain ⟨other, reach, cycle⟩ := cycle_of_long_chain closed located small chain
    exact acyclic other reach cycle

end Discovery

/-- A project file including a git dependency, whose project file includes a file beside it,
and then a local file. -/
def dependencyProject : Workspace :=
  Workspace.ofFiles [("proj/project.visivo.yml", "includes:\n  - path: org/dep.git@v1\n  - path: a.yml\n"),
    ("proj/a.yml", "traces:\n  - name: a\n")]

/-- The dependency in the cache, tagged `v1` at its one commit. -/
def dependencyCache : List CachedRepo :=
  [⟨"proj/.visivo_cache/org/dep@v1", [⟨[("project.visivo.yml", "includes:\n  - path: models.yml\n"),
    ("models.yml", "traces:\n  - name: d\n")], ["v1"]⟩]⟩]

def dependencyFiles : List String :=
  ["proj/project.visivo.yml", "proj/.visivo_cache/org/dep@v1/project.visivo.yml",
    "proj/.visivo_cache/org/dep@v1/models.yml", "proj/a.yml"]

def dependencyIncludes (file : String) : List String :=
  if file = "proj/project.visivo.yml" then ["org/dep.git@v1", "a.yml"]
  else if file = "proj/.visivo_cache/org/dep@v1/project.visivo.yml" then ["models.yml"]
  else []

/-- The dependency's files are found where the cache has them, between the includes before and
after it. -/
theorem dependency_discovered :
    CacheLayout dependencyCache ∧
      IncludeProject (Discovery.start dependencyProject dependencyCache).ws dependencyCache Environment.empty
        "proj" dependencyFiles dependencyIncludes ∧
      normalizePath (projectFileIn (Discovery.start dependencyProject dependencyCache).ws "proj") ∈ dependencyFiles ∧
      discoverFiles dependencyProject dependencyCache Environment.empty "proj" "home" =
        .ok ("proj/project.visivo.yml", ["proj/project.visivo.yml",
          "proj/.visivo_cache/org/dep@v1/project.visivo.yml", "proj/.visivo_cache/org/dep@v1/models.yml",
          "proj/a.yml"]) := by
  have layout : CacheLayout dependencyCache := by decide +kernel
  have project : IncludeProject (Discovery.start dependencyProject dependencyCache).ws dependencyCache
      Environment.empty "proj" dependencyFiles dependencyIncludes := by decide +kernel
  have located : normalizePath (projectFileIn (Discovery.start dependencyProject dependencyCache).ws "proj") ∈
      dependencyFiles := by decide +kernel
  have walked : walkBelow (resolveInclude (Discovery.start dependencyProject dependencyCache).ws "proj")
      dependencyIncludes includeDepth
        (normalizePath (projectFileIn (Discovery.start dependencyProject dependencyCache).ws "proj")) =
      some ["proj/.visivo_cache/org/dep@v1/project.visivo.yml", "proj/.visivo_cache/org/dep@v1/models.yml",
        "proj/a.yml"] := by
    decide +kernel
  refine ⟨layout, project, located, ?_⟩
  rw [(discoverFiles_follows_includes layout project located "home").2.1 _ walked]
  decide +kernel

/-- An included file that is empty fails discovery: it loads as nothing, which has no keys. -/
theorem emptyInclude_not_iterable :
    discoverFiles (Workspace.ofFiles [("proj/project.visivo.yml", "includes:\n  - path: a.yml\n"),
        ("proj/a.yml", "")]) [] Environment.empty "proj" "home" =
      .error (Failure.wrongType "argument of type 'NoneType' is not iterable") := by
  decide +kernel

end Dashwright.Project
