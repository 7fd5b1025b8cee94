import Dashwright.Proofs.Project.Collections
import Dashwright.Proofs.Project.Includes

/-! A project's data, assembled from the files discovery lists.

The merge loads each listed file but the project file into a graph of its own and joins it
onto the graph of those before it, its indices moved past their pieces; the project's
collections then take each joined file's items in order. So the merged graph holds one copy of
a file per time the list names it, and each collection of the project lists the items of every
copy: a file that two included files both include is listed twice by the depth-first walk, and
its items are merged twice, from two copies of its objects. -/

namespace Dashwright.Yaml.Graph

/-- A graph extends another: the other's pieces at their indices, and maybe more after them. -/
def Extends (g g' : Graph) : Prop :=
  g.pieces.size ≤ g'.pieces.size ∧ ∀ i < g.pieces.size, g'.piece i = g.piece i

/-- A graph holds a copy of another from an offset on: each of the other's pieces, its indices
moved up by the offset. -/
def HoldsCopy (g h : Graph) (offset : Nat) : Prop :=
  offset + h.pieces.size ≤ g.pieces.size ∧ ∀ j < h.pieces.size, g.piece (offset + j) = (h.piece j).shift offset

section Join

variable (g h : Graph)

@[simp] theorem size_join : (g.join h).pieces.size = g.pieces.size + h.pieces.size := by
  simp [join]

theorem piece_join_lt {i : Nat} (inside : i < g.pieces.size) : (g.join h).piece i = g.piece i := by
  simp [join, piece, Array.getElem?_append_left inside]

theorem piece_join_shift {j : Nat} (inside : j < h.pieces.size) :
    (g.join h).piece (g.pieces.size + j) = (h.piece j).shift g.pieces.size := by
  simp [join, piece, inside]

theorem extends_join : Extends g (g.join h) :=
  ⟨by simp, fun _ inside => piece_join_lt g h inside⟩

theorem holdsCopy_join : HoldsCopy (g.join h) h g.pieces.size :=
  ⟨by simp, fun _ inside => piece_join_shift g h inside⟩

end Join

theorem Extends.refl (g : Graph) : Extends g g := ⟨Nat.le_refl _, fun _ _ => rfl⟩

theorem Extends.trans {g₁ g₂ g₃ : Graph} (first : Extends g₁ g₂) (second : Extends g₂ g₃) : Extends g₁ g₃ :=
  ⟨Nat.le_trans first.1 second.1, fun i inside =>
    (second.2 i (Nat.lt_of_lt_of_le inside first.1)).trans (first.2 i inside)⟩

theorem Extends.keeps {g g' : Graph} (ext : Extends g g') (x : Nat) : Keeps g g' x :=
  ⟨ext.1, fun i inside _ => ext.2 i inside⟩

theorem HoldsCopy.lt {g h : Graph} {offset j : Nat} (copy : HoldsCopy g h offset) (inside : j < h.pieces.size) :
    offset + j < g.pieces.size :=
  Nat.lt_of_lt_of_le (Nat.add_lt_add_left inside offset) copy.1

theorem HoldsCopy.extend {g g' h : Graph} {offset : Nat} (copy : HoldsCopy g h offset) (ext : Extends g g') :
    HoldsCopy g' h offset :=
  ⟨Nat.le_trans copy.1 ext.1, fun j inside => (ext.2 _ (copy.lt inside)).trans (copy.2 j inside)⟩

theorem HoldsCopy.keeps {g g' h : Graph} {offset x : Nat} (copy : HoldsCopy g h offset) (keeps : Keeps g g' x)
    (below : x < offset) : HoldsCopy g' h offset :=
  ⟨Nat.le_trans copy.1 keeps.1, fun j inside => (keeps.2 _ (copy.lt inside) (by omega)).trans (copy.2 j inside)⟩

section Copies

variable {g h : Graph} {offset root : Nat}

theorem isText_copy (copy : HoldsCopy g h offset) {k : Nat} (inside : k < h.pieces.size) (key : String) :
    g.isText (k + offset) key = h.isText k key := by
  unfold isText
  rw [Nat.add_comm, copy.2 k inside]
  cases h.piece k <;> rfl

theorem find?_copy (copy : HoldsCopy g h offset) (key : String) :
    ∀ {entries : List (Nat × Nat)}, (∀ e ∈ entries, e.1 < h.pieces.size) →
      (entries.map fun (k, v) => (k + offset, v + offset)).find? (fun (k, _) => g.isText k key) =
        (entries.find? fun (k, _) => h.isText k key).map fun (k, v) => (k + offset, v + offset)
  | [], _ => rfl
  | (k, v) :: rest, inside => by
    have head := isText_copy copy (inside (k, v) List.mem_cons_self) key
    have tail := find?_copy copy key fun e member => inside e (List.mem_cons_of_mem (k, v) member)
    cases hit : h.isText k key
    · simp only [List.map_cons, List.find?_cons, head, hit, tail]
    · simp only [List.map_cons, List.find?_cons, head, hit, Option.map_some]

theorem piece_copy_dict (copy : HoldsCopy g h offset) {entries : List (Nat × Nat)} {locs : List (String × String)}
    (found : h.piece root = .dict entries locs) :
    g.piece (offset + root) = .dict (entries.map fun (k, v) => (k + offset, v + offset)) locs := by
  rw [copy.2 root (lt_of_isDict ⟨entries, locs, found⟩), found]
  rfl

theorem itemAt_copy (copy : HoldsCopy g h offset) (dict : IsDict h root) (within : EntriesWithin h root)
    (key : String) : g.itemAt (offset + root) key = (h.itemAt root key).map (· + offset) := by
  obtain ⟨entries, locs, found⟩ := dict
  have inside : ∀ e ∈ entries, e.1 < h.pieces.size := fun e member => (within entries locs found e member).1
  simp only [itemAt, piece_copy_dict copy found, found, find?_copy copy key inside]
  cases entries.find? (fun (k, _) => h.isText k key) <;> rfl

theorem collection?_copy (copy : HoldsCopy g h offset) (dict : IsDict h root) (within : EntriesWithin h root)
    (key : String) : g.collection? (offset + root) key = (h.collection? root key).map (List.map (· + offset)) := by
  unfold collection?
  rw [itemAt_copy copy dict within]
  cases found : h.itemAt root key with
  | error => rfl
  | ok v =>
    simp only [Except.map, Nat.add_comm v, copy.2 v (itemAt_lt dict within found)]
    cases h.piece v with
    | leaf value shared => cases value <;> rfl
    | _ => rfl

end Copies

section Extends

variable {g g' : Graph} {x : Nat}

theorem itemAt_extends (ext : Extends g g') (dict : IsDict g x) (within : EntriesWithin g x) (key : String) :
    g'.itemAt x key = g.itemAt x key := by
  have same := ext.2 x (lt_of_isDict dict)
  obtain ⟨entries, locs, found⟩ := dict
  exact itemAt_keeps (ext.keeps x) ⟨entries, locs, found⟩ ⟨entries, locs, same.trans found⟩ same found
    (fun e member => (within entries locs found e member).1) key

theorem collection?_extends (ext : Extends g g') (dict : IsDict g x) (within : EntriesWithin g x) (key : String) :
    g'.collection? x key = g.collection? x key := by
  unfold collection?
  rw [itemAt_extends ext dict within]
  cases found : g.itemAt x key with
  | error => rfl
  | ok v => simp only [ext.2 v (itemAt_lt dict within found)]

end Extends

/-- Graphs joined one after another onto a first: the graph of them all, and for each joined
graph the offset its pieces start at. -/
def joinAll (g : Graph) : List Graph → Graph × List Nat
  | [] => (g, [])
  | h :: rest => ((joinAll (g.join h) rest).1, g.pieces.size :: (joinAll (g.join h) rest).2)

theorem extends_joinAll (g : Graph) (hs : List Graph) : Extends g (joinAll g hs).1 := by
  induction hs generalizing g with
  | nil => exact Extends.refl g
  | cons h rest ih => exact (extends_join g h).trans (ih (g.join h))

theorem holdsCopy_joinAll (g : Graph) (hs : List Graph) :
    ∀ p ∈ hs.zip (joinAll g hs).2, HoldsCopy (joinAll g hs).1 p.1 p.2 ∧ g.pieces.size ≤ p.2 := by
  induction hs generalizing g with
  | nil => simp [joinAll]
  | cons h rest ih =>
    intro p member
    simp only [joinAll, List.zip_cons_cons, List.mem_cons] at member
    rcases member with rfl | later
    · exact ⟨(holdsCopy_join g h).extend (extends_joinAll (g.join h) rest), Nat.le_refl _⟩
    · obtain ⟨copy, past⟩ := ih (g.join h) p later
      exact ⟨copy, Nat.le_trans (by simp) past⟩

end Dashwright.Yaml.Graph

namespace Dashwright.Project

open Yaml Graph

/-- A loaded file that can be merged into a project: a mapping within its graph whose
collections are lists. -/
structure MergeableFile (h : Graph) (root : Nat) : Prop where
  dict : IsDict h root
  within : EntriesWithin h root
  lists : ∀ key ∈ mergedKeys, ∀ v, h.itemAt root key = .ok v → ∃ items, h.piece v = .list items

def mergeable (h : Graph) (root : Nat) : Bool :=
  match h.piece root with
  | .dict entries _ =>
    entries.all (fun e => e.1 < h.pieces.size && e.2 < h.pieces.size) &&
      mergedKeys.all fun key =>
        match h.itemAt root key with
        | .ok v => match h.piece v with
          | .list _ => true
          | _ => false
        | .error _ => true
  | _ => false

theorem mergeable_iff (h : Graph) (root : Nat) : mergeable h root = true ↔ MergeableFile h root := by
  unfold mergeable
  cases found : h.piece root with
  | dict entries locs =>
    simp only [Bool.and_eq_true, List.all_eq_true]
    constructor
    · rintro ⟨within, lists⟩
      refine ⟨⟨entries, locs, found⟩, fun es ls again e member => ?_, fun key merged v item => ?_⟩
      · rw [found] at again
        cases again
        simpa using within e member
      · have listed := lists key merged
        simp only [item] at listed
        split at listed
        · rename_i items list
          exact ⟨items, list⟩
        · cases listed
    · intro file
      refine ⟨fun e member => by simpa using file.within entries locs found e member, fun key merged => ?_⟩
      cases item : h.itemAt root key with
      | error => rfl
      | ok v =>
        obtain ⟨items, list⟩ := file.lists key merged v item
        simp only [list]
  | _ =>
    simp only [Bool.false_eq_true, false_iff]
    intro file
    obtain ⟨entries, locs, dict⟩ := file.dict
    rw [found] at dict
    cases dict

instance (h : Graph) (root : Nat) : Decidable (MergeableFile h root) :=
  decidable_of_iff _ (mergeable_iff h root)

theorem MergeableFile.input {h : Graph} {root : Nat} (file : MergeableFile h root) : MergeInput h root [] where
  dict := file.dict
  within := file.within
  bases key merged := by
    cases item : h.itemAt root key with
    | error failure => simp [collection?_missing item]
    | ok v =>
      obtain ⟨items, list⟩ := file.lists key merged v item
      simp [collection?_list item list]
  files _ member := absurd member List.not_mem_nil

theorem dataFile_of_copy {g h : Graph} {offset root project : Nat} (copy : HoldsCopy g h offset)
    (file : MergeableFile h root) (past : project < offset) : DataFile g project (offset + root) := by
  obtain ⟨entries, locs, found⟩ := file.dict
  have copied := piece_copy_dict copy found
  refine ⟨⟨_, _, copied⟩, fun es ls again e member => ?_, by omega, fun key merged v item => ?_⟩
  · rw [copied] at again
    cases again
    obtain ⟨⟨k, w⟩, original, rfl⟩ := List.mem_map.mp member
    have bounds := file.within entries locs found (k, w) original
    have fits := copy.1
    constructor <;> dsimp only <;> omega
  · rw [itemAt_copy copy file.dict file.within] at item
    cases original : h.itemAt root key with
    | error failure => simp [original, Except.map] at item
    | ok w =>
      simp only [original, Except.map, Except.ok.injEq] at item
      subst item
      obtain ⟨items, list⟩ := file.lists key merged w original
      refine ⟨items.map (· + offset), ?_⟩
      rw [Nat.add_comm, copy.2 w (itemAt_lt file.dict file.within original), list]
      rfl

/-- What a file of a working directory loads to, as the merge reads it; an empty graph for a
file that does not load. -/
def loadedGraph (ws : Workspace) (env : Environment) (file : String) : Graph × Nat :=
  match loadGraphAt ws env (normalizePath file) with
  | .ok loaded => loaded
  | .error _ => (⟨#[]⟩, 0)

/-- A file of a working directory that loads as a mapping whose collections are lists. -/
def LoadsMergeable (ws : Workspace) (env : Environment) (file : String) : Prop :=
  (loadGraphAt ws env (normalizePath file)).toBool = true ∧
    MergeableFile (loadedGraph ws env file).1 (loadedGraph ws env file).2

instance (ws : Workspace) (env : Environment) (file : String) : Decidable (LoadsMergeable ws env file) :=
  inferInstanceAs (Decidable (_ ∧ _))

theorem LoadsMergeable.loads {ws : Workspace} {env : Environment} {file : String}
    (mergeable : LoadsMergeable ws env file) :
    loadGraphAt ws env (normalizePath file) = .ok (loadedGraph ws env file) := by
  have ok := mergeable.1
  unfold loadedGraph
  cases loaded : loadGraphAt ws env (normalizePath file) with
  | error => rw [loaded] at ok; cases ok
  | ok => rfl

theorem foldl_join (part : String → Graph × Nat) (pf : String) (files : List String) (g : Graph) (data : List Nat) :
    files.foldl (fun s f => if (normalizePath f == pf) = true then s
        else (s.1.join (part f).1, s.2 ++ [s.1.pieces.size + (part f).2])) (g, data) =
      let kept := files.filter fun f => normalizePath f != pf
      let joined := joinAll g (kept.map fun f => (part f).1)
      (joined.1, data ++ (kept.zip joined.2).map fun p => p.2 + (part p.1).2) := by
  induction files generalizing g data with
  | nil => simp [joinAll]
  | cons f rest ih =>
    rw [List.foldl_cons]
    by_cases project : normalizePath f = pf
    · rw [if_pos (beq_iff_eq.mpr project), ih, List.filter_cons_of_neg (by simp [project])]
    · rw [if_neg (mt beq_iff_eq.mp project), ih, List.filter_cons_of_pos (by simp [project])]
      simp [joinAll]

theorem mergeInto_merges {g : Graph} {project : Nat} {dataFiles : List Nat} (input : MergeInput g project dataFiles) :
    ∃ g', mergeInto g project dataFiles = .ok g' ∧
      Merging g project g' fun key => dataFiles.flatMap fun d => (g.collection? d key).getD [] := by
  unfold mergeInto
  dsimp only
  rw [bind_pure]
  refine forIn_ok dataFiles g _ (fun files g' => Merging g project g' fun key =>
      files.flatMap fun d => (g.collection? d key).getD []) (Merging.start input) ?_
  intro files d rest split b holds
  have file := input.files d (by rw [split]; exact List.mem_append_right _ List.mem_cons_self)
  obtain ⟨b', run, next⟩ := holds.mergeFile input.dict file
  refine ⟨b', ?_, next.of_eq fun key _ => by simp⟩
  show (forIn mergedKeys b (fun key g => mergeKey g project d key) >>= fun g => pure (ForInStep.yield g)) = _
  rw [run, pure_bind]

/-- The merged data of a project file and a list of files, each a mapping whose collections are
lists: each file but the project file is joined on in order, each onto a copy of its own, and each
collection of the project is its own items followed by the items of each such file, in the order
of the list, every file's items the pieces of its copy. -/
theorem mergedProjectData_joins {ws : Workspace} {env : Environment} {projectFile : String}
    {listed : List String} (project : LoadsMergeable ws env projectFile)
    (others : ∀ f ∈ listed, normalizePath f ≠ normalizePath projectFile → LoadsMergeable ws env f) :
    let part := loadedGraph ws env
    let first := (part projectFile).1
    let root := (part projectFile).2
    let kept := listed.filter fun f => normalizePath f != normalizePath projectFile
    let offsets := (joinAll first (kept.map fun f => (part f).1)).2
    ∃ g, mergedProjectData ws env projectFile listed = .ok (g.toValue root) ∧
      (∀ key ∈ mergedKeys, g.collection? root key = some ((first.collection? root key).getD [] ++
        (kept.zip offsets).flatMap fun (f, o) => (((part f).1.collection? (part f).2 key).getD []).map (· + o))) ∧
      (∀ p ∈ kept.zip offsets, HoldsCopy g (part p.1).1 p.2) ∧
      (∀ key ∉ mergedKeys, g.itemAt root key = first.itemAt root key) := by
  intro part first root kept offsets
  have file : MergeableFile first root := project.2
  have grown := extends_joinAll first (kept.map fun f => (part f).1)
  generalize joined : (joinAll first (kept.map fun f => (part f).1)).1 = G at grown
  -- each kept file's copy lies in the joined graph, past the project's pieces
  have placed : ∀ p ∈ kept.zip offsets, HoldsCopy G (part p.1).1 p.2 ∧ root < p.2 := by
    intro p member
    have copied := holdsCopy_joinAll first (kept.map fun f => (part f).1) ((part p.1).1, p.2)
      (by rw [List.zip_map_left]; exact List.mem_map_of_mem member)
    rw [joined] at copied
    exact ⟨copied.1, Nat.lt_of_lt_of_le (lt_of_isDict file.dict) copied.2⟩
  have mergeableKept : ∀ f ∈ kept, LoadsMergeable ws env f := by
    intro f member
    obtain ⟨listed_f, other⟩ := List.mem_filter.mp member
    exact others f listed_f (by simpa using other)
  have input : MergeInput G root ((kept.zip offsets).map fun p => p.2 + (part p.1).2) := by
    have same := grown.2 root (lt_of_isDict file.dict)
    obtain ⟨entries, locs, found⟩ := file.dict
    refine ⟨⟨entries, locs, same.trans found⟩, file.within.keeps (grown.keeps root) same, fun key merged => ?_,
      fun d member => ?_⟩
    · rw [collection?_extends grown file.dict file.within]
      exact file.input.bases key merged
    · obtain ⟨⟨f, o⟩, zipped, rfl⟩ := List.mem_map.mp member
      exact dataFile_of_copy (placed (f, o) zipped).1 (mergeableKept f (List.of_mem_zip zipped).1).2 (placed (f, o) zipped).2
  -- the loop joins the kept files on, one after another
  have loop := foldl_join part (normalizePath projectFile) listed first []
  change _ = ((joinAll first (kept.map fun f => (part f).1)).1,
    [] ++ (kept.zip offsets).map fun p => p.2 + (part p.1).2) at loop
  rw [joined, List.nil_append] at loop
  obtain ⟨g, merged, merging⟩ := mergeInto_merges input
  refine ⟨g, ?_, fun key member => ?_, fun p member => ?_,
    fun key other => (merging.others key other).trans (itemAt_extends grown file.dict file.within key)⟩
  · unfold mergedProjectData
    simp only [bind_pure_comp, project.loads, ok_bind]
    rw [forIn_yield _ listed _ _ ?yields, loop]
    · rw [pure_bind, show mergeInto G (loadedGraph ws env projectFile).2 _ = .ok g from merged]
      rfl
    · intro f member s
      by_cases skipped : normalizePath f = normalizePath projectFile
      · simp [skipped]
      · have stays := mt beq_iff_eq.mp skipped
        rw [if_neg stays, if_neg stays, (others f member skipped).loads]
        rfl
  · rw [merging.collections key member, collection?_extends grown file.dict file.within, List.flatMap_map]
    refine congrArg (fun rest : List Nat => some ((first.collection? root key).getD [] ++ rest)) ?_
    rw [List.flatMap_def, List.flatMap_def]
    refine congrArg List.flatten (List.map_congr_left fun ⟨f, o⟩ zipped => ?_)
    have mergeable := (mergeableKept f (List.of_mem_zip zipped).1).2
    rw [collection?_copy (placed (f, o) zipped).1 mergeable.dict mergeable.within]
    dsimp only
    cases (part f).1.collection? (part f).2 key <;> rfl
  · exact (placed p member).1.keeps merging.keeps (placed p member).2

/-- Merging what discovery finds in a project of local includes whose walk ends, every file a
mapping whose collections are lists: each collection of the project is its own items followed,
for each file the walk lists, once per time it lists it, by that file's items, in the walk's
depth-first order; each time on a copy of its own of the file's objects. -/
theorem mergedProjectData_of_discovery {ws : Workspace} {env : Environment} {files : List String}
    {includes : String → List String} {wd : String} (project : LocalProject ws env files includes)
    (located : normalizePath (projectFileIn ws wd) ∈ files) (home : String) {found : List String}
    (walked : preorder includes includeDepth (normalizePath (projectFileIn ws wd)) = some found) :
    let P := normalizePath (projectFileIn ws wd)
    let listed := [P] ++ found ++ (if ws.exists (profilePath home) then [profilePath home] else [])
    (∀ f ∈ listed, LoadsMergeable ws env f) →
    let part := loadedGraph ws env
    let first := (part P).1
    let root := (part P).2
    let kept := listed.filter fun f => normalizePath f != normalizePath P
    let offsets := (joinAll first (kept.map fun f => (part f).1)).2
    discoverFiles ws [] env wd home = .ok (P, listed) ∧
    ∃ g, mergedProjectData ws env P listed = .ok (g.toValue root) ∧
      (∀ key ∈ mergedKeys, g.collection? root key = some ((first.collection? root key).getD [] ++
        (kept.zip offsets).flatMap fun (f, o) => (((part f).1.collection? (part f).2 key).getD []).map (· + o))) ∧
      (∀ p ∈ kept.zip offsets, HoldsCopy g (part p.1).1 p.2) := by
  intro P listed mergeable
  have discovered := discoverFiles_local project located home
  rw [walked] at discovered
  obtain ⟨g, merged, collections, copies, -⟩ :=
    mergedProjectData_joins (mergeable P (by simp [listed])) fun f member _ => mergeable f member
  exact ⟨discovered, g, merged, collections, copies⟩

/-- A project file including two files that both include a third. -/
def diamondProject : Workspace :=
  Workspace.ofFiles [("proj/project.visivo.yml", "includes:\n  - path: a.yml\n  - path: b.yml\n"),
    ("proj/a.yml", "includes:\n  - path: c.yml\n"), ("proj/b.yml", "includes:\n  - path: c.yml\n"),
    ("proj/c.yml", "traces:\n  - name: c\n")]

def diamondFiles : List String := ["proj/project.visivo.yml", "proj/a.yml", "proj/b.yml", "proj/c.yml"]

def diamondIncludes (file : String) : List String :=
  if file = "proj/project.visivo.yml" then ["a.yml", "b.yml"]
  else if file = "proj/a.yml" ∨ file = "proj/b.yml" then ["c.yml"]
  else []

theorem diamondProject_walked :
    LocalProject diamondProject Environment.empty diamondFiles diamondIncludes ∧
      normalizePath (projectFileIn diamondProject "proj") ∈ diamondFiles ∧
      preorder diamondIncludes includeDepth (normalizePath (projectFileIn diamondProject "proj")) =
        some ["proj/a.yml", "proj/c.yml", "proj/b.yml", "proj/c.yml"] := by
  decide +kernel

/-- The files discovery lists in the diamond project: the file both branches include, twice. -/
def diamondListed : List String :=
  ["proj/project.visivo.yml", "proj/a.yml", "proj/c.yml", "proj/b.yml", "proj/c.yml"]

/-- The diamond's merged traces: the one trace of the shared file, at each of its two copies. -/
theorem diamond_traces_per_copy :
    ∃ g : Graph, mergedProjectData diamondProject Environment.empty "proj/project.visivo.yml" diamondListed =
      .ok (g.toValue 0) ∧ g.collection? 0 "traces" = some [18, 30] := by
  have projectFile : normalizePath (projectFileIn diamondProject "proj") = "proj/project.visivo.yml" := by
    decide +kernel
  have noProfile : diamondProject.exists (profilePath "home") = false := by decide +kernel
  have root : (loadedGraph diamondProject Environment.empty "proj/project.visivo.yml").2 = 0 := by
    decide +kernel
  have mergeable : ∀ f ∈ diamondListed, LoadsMergeable diamondProject Environment.empty f := by
    decide +kernel
  obtain ⟨project, located, walked⟩ := diamondProject_walked
  obtain ⟨-, g, merged, collections, -⟩ := mergedProjectData_of_discovery project located "home" walked
    (by rw [projectFile, noProfile]; exact mergeable)
  rw [projectFile, noProfile, root] at collections
  rw [projectFile, noProfile, root] at merged
  refine ⟨g, merged, ?_⟩
  rw [collections "traces" (by decide)]
  decide +kernel

/-- Merging what discovery finds in the diamond project takes the shared file's trace twice. -/
theorem diamond_traces_merged_twice :
    (match discoverFiles diamondProject [] Environment.empty "proj" "home" with
      | .ok (projectFile, listed) =>
        match mergedProjectData diamondProject Environment.empty projectFile listed with
        | .ok v => Value.equal v (.record [
            ("includes", .list [.record [("path", .str "a.yml")], .record [("path", .str "b.yml")]]),
            ("traces", .list [.record [("name", .str "c")], .record [("name", .str "c")]])])
        | .error _ => false
      | .error _ => false) = true := by
  obtain ⟨project, located, walked⟩ := diamondProject_walked
  rw [discoverFiles_local project located "home", walked]
  decide +kernel

end Dashwright.Project
