import Dashwright.Proofs.Yaml.Frame
import Dashwright.Proofs.Loops

/-! The collections of a project's files, merged.

For each file other than the project file and each collection it has, the project's value is
merged deeply with the file's: two lists give a new list of the items of both, a null gives
way to the file's list, and a missing value is an empty list. So while every file's
collections are lists, each collection of the project ends up as the project's own items
followed by every file's items in order, the items themselves the very pieces the files were
read into, and nothing else of the project or of the files changes. A file whose collection is
a null or a mapping instead replaces what was merged before it. -/

namespace Dashwright.Yaml.Graph

/-- The collection a mapping holds under a key: a list's items, and nothing for a key that is
missing or null; no collection for any other value. -/
def collection? (g : Graph) (x : Nat) (key : String) : Option (List Nat) :=
  match g.itemAt x key with
  | .ok v =>
    match g.piece v with
    | .list items => some items
    | .leaf Value.none _ => some []
    | _ => Option.none
  | .error _ => some []

theorem collection?_list {g : Graph} {x v : Nat} {key : String} {items : List Nat}
    (found : g.itemAt x key = .ok v) (list : g.piece v = .list items) : g.collection? x key = some items := by
  simp only [collection?, found, list]

theorem collection?_null {g : Graph} {x v : Nat} {key : String} {shared : Bool}
    (found : g.itemAt x key = .ok v) (null : g.piece v = .leaf Value.none shared) :
    g.collection? x key = some [] := by
  simp only [collection?, found, null]

theorem collection?_missing {g : Graph} {x : Nat} {key : String} {failure : Failure}
    (missing : g.itemAt x key = .error failure) : g.collection? x key = some [] := by
  simp only [collection?, missing]

theorem containsKey_dict {g : Graph} {x : Nat} {entries : List (Nat × Nat)} {locs : List (String × String)}
    (found : g.piece x = .dict entries locs) (key : String) :
    g.containsKey x key = pure (entries.any fun (k, _) => g.isText k key) := by
  simp only [containsKey, found]
  rfl

theorem itemAt_of_contains {g : Graph} {x : Nat} {entries : List (Nat × Nat)} {locs : List (String × String)}
    (found : g.piece x = .dict entries locs) {key : String}
    (present : (entries.any fun (k, _) => g.isText k key) = true) : ∃ v, g.itemAt x key = pure v := by
  have hit : (entries.find? fun (k, _) => g.isText k key).isSome := by
    rw [List.find?_isSome]
    exact List.any_eq_true.mp present
  obtain ⟨⟨k, v⟩, first⟩ := Option.isSome_iff_exists.mp hit
  exact ⟨v, by simp only [itemAt, found, first]; rfl⟩

theorem itemAt_of_absent {g : Graph} {x : Nat} {entries : List (Nat × Nat)} {locs : List (String × String)}
    (found : g.piece x = .dict entries locs) {key : String}
    (absent : (entries.any fun (k, _) => g.isText k key) = false) :
    g.itemAt x key = .error (Failure.missingKey (quoteText key)) := by
  simp only [itemAt, found, List.find?_eq_none.mpr (List.any_eq_false.mp absent)]

theorem containsKey_of_itemAt {g : Graph} {x v : Nat} (dict : IsDict g x) {key : String}
    (found : g.itemAt x key = pure v) : g.containsKey x key = pure true := by
  obtain ⟨entries, locs, piece_x⟩ := dict
  rw [containsKey_dict piece_x]
  cases present : entries.any (fun (k, _) => g.isText k key)
  · rw [itemAt_of_absent piece_x present] at found
    cases found
  · rfl

theorem ne_of_list {g : Graph} {x v : Nat} (dict : IsDict g x) {items : List Nat}
    (list : g.piece v = .list items) : v ≠ x := by
  rintro rfl
  obtain ⟨entries, locs, piece_x⟩ := dict
  rw [piece_x] at list
  cases list

theorem deepMerge_lists (g : Graph) (fuel : Nat) {base next : Nat} {xs ys : List Nat}
    (base_list : g.piece base = .list xs) (next_list : g.piece next = .list ys) :
    g.deepMerge (fuel + 1) base next = g.add (.list (xs ++ ys)) := by
  simp only [deepMerge, base_list, next_list]

theorem deepMerge_null (g : Graph) (fuel : Nat) {base next : Nat} {shared : Bool} {ys : List Nat}
    (base_null : g.piece base = .leaf Value.none shared) (next_list : g.piece next = .list ys) :
    g.deepMerge (fuel + 1) base next = (g, next) := by
  simp only [deepMerge, base_null, next_list]

theorem itemAt_lt {g : Graph} {x v : Nat} (dict : IsDict g x) (within : EntriesWithin g x) {key : String}
    (found : g.itemAt x key = .ok v) : v < g.pieces.size := by
  obtain ⟨entries, locs, piece_x⟩ := dict
  simp only [itemAt, piece_x] at found
  split at found
  · rename_i k v' first
    cases found
    exact (within entries locs piece_x (k, v) (List.mem_of_find?_eq_some first)).2
  · cases found

theorem collection?_keeps {g g' : Graph} {x : Nat} (keeps : Keeps g g' x) (dict : IsDict g x)
    (within : EntriesWithin g x) {key : String} (same : g'.itemAt x key = g.itemAt x key)
    (known : (g.collection? x key).isSome) : g'.collection? x key = g.collection? x key := by
  unfold collection? at known ⊢
  rw [same]
  cases found : g.itemAt x key with
  | error => rfl
  | ok v =>
    rw [found] at known
    have other : v ≠ x := by
      rintro rfl
      obtain ⟨entries, locs, piece_x⟩ := dict
      simp [piece_x] at known
    simp only [keeps.2 v (itemAt_lt dict within found) other]

end Dashwright.Yaml.Graph

namespace Dashwright.Project

open Yaml Graph

/-- One collection of one file merged into the project, as a step of the loop over them. -/
def mergeKey (g : Graph) (project d : Nat) (key : String) : Outcome (ForInStep Graph) := do
  if ← g.containsKey d key then
    let (g1, base) ← if ← g.containsKey project key then do pure (g, ← g.itemAt project key)
      else pure (g.add (.list []))
    let next ← g1.itemAt d key
    let (g2, merged) := g1.deepMerge (g1.pieces.size + 2) base next
    let g ← g2.setItem project key merged
    pure (.yield g)
  else pure (.yield g)

/-- The items contributed to each collection, with some more for one of them. -/
def contribute (contributed : String → List Nat) (key : String) (items : List Nat) : String → List Nat :=
  fun k => if k = key then contributed k ++ items else contributed k

/-- A file that can be merged into the project: a mapping within the graph, other than the
project, whose collections are lists. -/
structure DataFile (g : Graph) (project d : Nat) : Prop where
  dict : IsDict g d
  within : EntriesWithin g d
  apart : d ≠ project
  lists : ∀ key ∈ mergedKeys, ∀ v, g.itemAt d key = .ok v → ∃ items, g.piece v = .list items

/-- Files that can be merged into a project: the project a mapping within the graph whose
collections are missing, null or lists, and every other file one that can be merged. -/
structure MergeInput (g : Graph) (project : Nat) (dataFiles : List Nat) : Prop where
  dict : IsDict g project
  within : EntriesWithin g project
  bases : ∀ key ∈ mergedKeys, (g.collection? project key).isSome
  files : ∀ d ∈ dataFiles, DataFile g project d

/-- The project while files are merged into it: the other pieces kept, the project a mapping
within the graph, each collection the project's own items followed by those contributed, and
every other key as it was. -/
structure Merging (g₀ : Graph) (project : Nat) (g : Graph) (contributed : String → List Nat) : Prop where
  keeps : Keeps g₀ g project
  dict : IsDict g project
  within : EntriesWithin g project
  collections : ∀ key ∈ mergedKeys,
    g.collection? project key = some ((g₀.collection? project key).getD [] ++ contributed key)
  others : ∀ key ∉ mergedKeys, g.itemAt project key = g₀.itemAt project key

section Merging

variable {g₀ g : Graph} {project : Nat} {contributed : String → List Nat}

theorem Merging.start {dataFiles : List Nat} (input : MergeInput g project dataFiles) :
    Merging g project g fun _ => [] where
  keeps := Keeps.refl g project
  dict := input.dict
  within := input.within
  collections key member := by
    obtain ⟨items, known⟩ := Option.isSome_iff_exists.mp (input.bases key member)
    rw [known, Option.getD_some, List.append_nil]
  others _ _ := rfl

theorem Merging.of_eq {other : String → List Nat} (inv : Merging g₀ project g contributed)
    (same : ∀ key ∈ mergedKeys, other key = contributed key) : Merging g₀ project g other where
  keeps := inv.keeps
  dict := inv.dict
  within := inv.within
  collections key member := by rw [same key member]; exact inv.collections key member
  others := inv.others

theorem Merging.setCollection (inv : Merging g₀ project g contributed) {g₁ : Graph}
    (keeps : Keeps g g₁ project) (same : g₁.piece project = g.piece project) {m : Nat}
    (inside : m < g₁.pieces.size) (other : m ≠ project) {key : String} (merged : key ∈ mergedKeys)
    {items : List Nat}
    (piece_m : g₁.piece m = .list ((g₀.collection? project key).getD [] ++ contributed key ++ items)) :
    ∃ g', g₁.setItem project key m = .ok g' ∧ Merging g₀ project g' (contribute contributed key items) := by
  obtain ⟨entries, locs, piece_p⟩ := inv.dict
  have piece_p₁ : g₁.piece project = .dict entries locs := same.trans piece_p
  have keys : ∀ e ∈ entries, e.1 < g.pieces.size := fun e member =>
    (inv.within entries locs piece_p e member).1
  obtain ⟨g', set, keeps', dict', within', self, others⟩ :=
    setItem_spec piece_p₁ (inv.within.keeps keeps same) inside key
  -- the project's other keys read in the new graph as in the old one
  have lookups (k : String) : g₁.itemAt project k = g.itemAt project k :=
    itemAt_keeps keeps inv.dict ⟨_, _, piece_p₁⟩ same piece_p keys k
  refine ⟨g', set, inv.keeps.trans (keeps.trans keeps'), dict', within', fun k member => ?_,
    fun k outside => ?_⟩
  · by_cases same_key : k = key
    · subst same_key
      rw [collection?_list self ((keeps'.2 m inside other).trans piece_m)]
      simp only [contribute, if_true, List.append_assoc]
    · have kept : g'.itemAt project k = g.itemAt project k := (others k same_key).trans (lookups k)
      rw [collection?_keeps (keeps.trans keeps') inv.dict inv.within kept
        (by rw [inv.collections k member]; rfl), inv.collections k member]
      simp only [contribute, same_key, if_false]
  · have distinct : k ≠ key := fun same_key => outside (same_key ▸ merged)
    rw [others k distinct, lookups k, inv.others k outside]

theorem Merging.mergeOntoList (inv : Merging g₀ project g contributed) {key : String}
    (merged : key ∈ mergedKeys) {d v u : Nat} {xs ys : List Nat}
    (contains_d : g.containsKey d key = pure true) (item_d : g.itemAt d key = pure v)
    (list_v : g.piece v = .list ys) (found_u : g.itemAt project key = pure u)
    (list_u : g.piece u = .list xs) :
    ∃ g', mergeKey g project d key = pure (.yield g') ∧
      Merging g₀ project g' (contribute contributed key ys) := by
  have inside_p := lt_of_isDict inv.dict
  have contains_p := containsKey_of_itemAt inv.dict found_u
  have xs_eq : xs = (g₀.collection? project key).getD [] ++ contributed key := by
    have current := inv.collections key merged
    rw [collection?_list found_u list_u] at current
    exact Option.some.inj current
  obtain ⟨g', set, next⟩ := inv.setCollection (keeps_add g (.list (xs ++ ys)) project)
    (piece_add_lt g _ inside_p) (by simp) (Nat.ne_of_gt inside_p) merged
    (by rw [piece_add_self, xs_eq])
  refine ⟨g', ?_, next⟩
  simp only [mergeKey, contains_d, contains_p, found_u, item_d, pure_bind, if_true,
    deepMerge_lists g _ list_u list_v, index_add, set]
  rfl

theorem Merging.mergeOntoNull (inv : Merging g₀ project g contributed) {key : String}
    (merged : key ∈ mergedKeys) {d v u : Nat} {ys : List Nat} {shared : Bool}
    (contains_d : g.containsKey d key = pure true) (item_d : g.itemAt d key = pure v)
    (list_v : g.piece v = .list ys) (inside_v : v < g.pieces.size)
    (found_u : g.itemAt project key = pure u) (null_u : g.piece u = .leaf Value.none shared) :
    ∃ g', mergeKey g project d key = pure (.yield g') ∧
      Merging g₀ project g' (contribute contributed key ys) := by
  have contains_p := containsKey_of_itemAt inv.dict found_u
  have nothing_yet : (g₀.collection? project key).getD [] ++ contributed key = [] := by
    have current := inv.collections key merged
    rw [collection?_null found_u null_u] at current
    exact (Option.some.inj current).symm
  obtain ⟨g', set, next⟩ := inv.setCollection (Keeps.refl g project) rfl inside_v (ne_of_list inv.dict list_v)
    merged
    (by rw [list_v, nothing_yet, List.nil_append])
  refine ⟨g', ?_, next⟩
  simp only [mergeKey, contains_d, contains_p, found_u, item_d, pure_bind, if_true,
    deepMerge_null g _ null_u list_v, set]
  rfl

theorem Merging.mergeOntoMissing (inv : Merging g₀ project g contributed) {key : String}
    (merged : key ∈ mergedKeys) {d v : Nat} {ys : List Nat} (dict_d : IsDict g d)
    (within_d : EntriesWithin g d) (contains_d : g.containsKey d key = pure true)
    (item_d : g.itemAt d key = pure v) (list_v : g.piece v = .list ys)
    (absent : g.containsKey project key = pure false) :
    ∃ g', mergeKey g project d key = pure (.yield g') ∧
      Merging g₀ project g' (contribute contributed key ys) := by
  obtain ⟨entries, locs, piece_p⟩ := inv.dict
  obtain ⟨entries_d, locs_d, piece_d⟩ := dict_d
  have inside_p := lt_of_isDict inv.dict
  have inside_d := lt_of_isDict ⟨_, _, piece_d⟩
  have inside_v : v < g.pieces.size := itemAt_lt ⟨_, _, piece_d⟩ within_d item_d
  have nothing_yet : (g₀.collection? project key).getD [] ++ contributed key = [] := by
    have current := inv.collections key merged
    rw [containsKey_dict piece_p] at absent
    rw [collection?_missing (itemAt_of_absent piece_p (Except.ok.inj absent))] at current
    exact (Option.some.inj current).symm
  -- an empty list stands for the missing collection
  have added := keeps_add g (.list []) project
  have same_p := piece_add_lt g (.list []) inside_p
  have item_d₁ : ((g.add (.list [])).1).itemAt d key = pure v := by
    rw [itemAt_keeps added inv.dict ⟨_, _, same_p.trans piece_p⟩ (piece_add_lt g _ inside_d) piece_d
      (fun e member => (within_d entries_d locs_d piece_d e member).1) key, item_d]
  have list_v₁ : ((g.add (.list [])).1).piece v = .list ys := (piece_add_lt g _ inside_v).trans list_v
  have base₁ : ((g.add (.list [])).1).piece g.pieces.size = .list [] := piece_add_self g _
  have inside₁ := lt_of_isDict ⟨_, _, same_p.trans piece_p⟩
  have inside_m : ((g.add (.list [])).1).pieces.size <
      (((g.add (.list [])).1).add (.list ([] ++ ys))).1.pieces.size := by simp
  have other_m : ((g.add (.list [])).1).pieces.size ≠ project := by
    rw [size_add]
    omega
  have piece_m : (((g.add (.list [])).1).add (.list ([] ++ ys))).1.piece ((g.add (.list [])).1).pieces.size =
      .list ((g₀.collection? project key).getD [] ++ contributed key ++ ys) := by
    rw [piece_add_self, nothing_yet]
  obtain ⟨g', set, next⟩ := inv.setCollection (added.trans (keeps_add _ (.list ([] ++ ys)) project))
    ((piece_add_lt _ _ inside₁).trans same_p) inside_m other_m merged piece_m
  refine ⟨g', ?_, next⟩
  simp only [mergeKey, contains_d, absent, pure_bind, if_true, Bool.false_eq_true, if_false,
    item_d₁, deepMerge_lists _ _ base₁ list_v₁, index_add, set]
  rfl

theorem Merging.mergeList (inv : Merging g₀ project g contributed) {key : String}
    (merged : key ∈ mergedKeys) {d v : Nat} {ys : List Nat} (dict_d : IsDict g d)
    (within_d : EntriesWithin g d) (contains_d : g.containsKey d key = pure true)
    (item_d : g.itemAt d key = pure v) (list_v : g.piece v = .list ys) :
    ∃ g', mergeKey g project d key = pure (.yield g') ∧
      Merging g₀ project g' (contribute contributed key ys) := by
  obtain ⟨entries, locs, piece_p⟩ := inv.dict
  cases has : entries.any (fun (k, _) => g.isText k key) with
  | false =>
    exact inv.mergeOntoMissing merged dict_d within_d contains_d item_d list_v
      (by rw [containsKey_dict piece_p, has])
  | true =>
    obtain ⟨u, found_u⟩ := itemAt_of_contains piece_p has
    have found_u' : g.itemAt project key = .ok u := found_u
    -- the merge so far keeps the collection a list or a null: no other piece is one
    have known : (g.collection? project key).isSome := by
      rw [inv.collections key merged]
      rfl
    cases piece_u : g.piece u with
    | list xs => exact inv.mergeOntoList merged contains_d item_d list_v found_u piece_u
    | leaf w shared =>
      cases w
      case none =>
        exact inv.mergeOntoNull merged contains_d item_d list_v (itemAt_lt dict_d within_d item_d)
          found_u piece_u
      all_goals simp [collection?, found_u', piece_u] at known
    | _ => simp [collection?, found_u', piece_u] at known

theorem Merging.mergeCollection (inv : Merging g₀ project g contributed) (dict₀ : IsDict g₀ project)
    {d : Nat} (file : DataFile g₀ project d) {key : String} (merged : key ∈ mergedKeys) :
    ∃ g', mergeKey g project d key = pure (.yield g') ∧
      Merging g₀ project g' (contribute contributed key ((g₀.collection? d key).getD [])) := by
  obtain ⟨entries_d, locs_d, piece_d₀⟩ := file.dict
  have keys_d : ∀ e ∈ entries_d, e.1 < g₀.pieces.size := fun e member =>
    (file.within entries_d locs_d piece_d₀ e member).1
  have same_d : g.piece d = g₀.piece d := inv.keeps.2 d (lt_of_isDict file.dict) file.apart
  -- the file reads in the graph as it was loaded
  have contains_d : g.containsKey d key = pure (entries_d.any fun (k, _) => g₀.isText k key) := by
    rw [containsKey_keeps inv.keeps dict₀ inv.dict same_d piece_d₀ keys_d key, containsKey_dict piece_d₀]
  have item_d : g.itemAt d key = g₀.itemAt d key :=
    itemAt_keeps inv.keeps dict₀ inv.dict same_d piece_d₀ keys_d key
  cases present : entries_d.any (fun (k, _) => g₀.isText k key) with
  | false =>
    -- a file without the collection changes nothing
    have missing : g₀.collection? d key = some [] := collection?_missing (itemAt_of_absent piece_d₀ present)
    refine ⟨g, ?_, inv.of_eq fun k _ => ?_⟩
    · simp only [mergeKey, contains_d, present, pure_bind, Bool.false_eq_true, if_false]
    · by_cases same_key : k = key <;> simp [contribute, missing, same_key]
  | true =>
    obtain ⟨v, found⟩ := itemAt_of_contains piece_d₀ present
    obtain ⟨ys, list_v₀⟩ := file.lists key merged v found
    have list_v : g.piece v = .list ys :=
      (inv.keeps.2 v (itemAt_lt file.dict file.within found) (ne_of_list dict₀ list_v₀)).trans list_v₀
    rw [collection?_list found list_v₀, Option.getD_some]
    rw [present] at contains_d
    rw [found] at item_d
    exact inv.mergeList merged ⟨_, _, same_d.trans piece_d₀⟩ (file.within.keeps inv.keeps same_d)
      contains_d item_d list_v

theorem Merging.mergeFile (inv : Merging g₀ project g contributed) (dict₀ : IsDict g₀ project)
    {d : Nat} (file : DataFile g₀ project d) :
    ∃ g', forIn mergedKeys g (fun key g => mergeKey g project d key) = pure g' ∧
      Merging g₀ project g' (fun key => contributed key ++ (g₀.collection? d key).getD []) := by
  have distinct : mergedKeys.Nodup := by decide
  -- the collections merged so far have the file's items, the others not yet
  obtain ⟨g', run, done⟩ := forIn_ok mergedKeys g (fun key g => mergeKey g project d key)
    (fun keys g' => Merging g₀ project g' fun key =>
      contributed key ++ if key ∈ keys then (g₀.collection? d key).getD [] else [])
    (inv.of_eq fun key _ => by simp) fun keys key rest split b holds => by
      have merged : key ∈ mergedKeys := by
        rw [split]
        exact List.mem_append_right _ List.mem_cons_self
      have fresh : key ∉ keys := fun seen =>
        (List.nodup_append.mp (split ▸ distinct)).2.2 key seen key List.mem_cons_self rfl
      obtain ⟨g', step, next⟩ := holds.mergeCollection dict₀ file merged
      refine ⟨g', step, next.of_eq fun k _ => ?_⟩
      by_cases same_key : k = key
      · subst same_key
        simp [contribute, fresh]
      · simp [contribute, same_key]
  exact ⟨g', run, done.of_eq fun key member => by simp [member]⟩

end Merging

/-- While every other file's collections are lists, each collection of the merged project is
the project's own items (none for a missing or null one) followed by the items of each file
that has the collection, in the order of the files; every other key of the project keeps its
value, and every piece but the project's mapping is kept, so the items are the very pieces the
files were read into. -/
theorem mergeInto_appends_collections {g : Graph} {project : Nat} {dataFiles : List Nat}
    (input : MergeInput g project dataFiles) :
    ∃ g', mergeInto g project dataFiles = .ok g' ∧
      (∀ key ∈ mergedKeys, g'.collection? project key =
        some ((g.collection? project key).getD [] ++
          dataFiles.flatMap fun d => (g.collection? d key).getD [])) ∧
      (∀ key ∉ mergedKeys, g'.itemAt project key = g.itemAt project key) ∧
      Keeps g g' project := by
  unfold mergeInto
  dsimp only
  rw [bind_pure]
  refine (forIn_ok dataFiles g _ (fun files g' => Merging g project g' fun key =>
      files.flatMap fun d => (g.collection? d key).getD []) (Merging.start input) ?_).imp
    fun g' ⟨run, merged⟩ => ⟨run, merged.collections, merged.others, merged.keeps⟩
  intro files d rest split b holds
  have file := input.files d (by rw [split]; exact List.mem_append_right _ List.mem_cons_self)
  obtain ⟨b', run, next⟩ := holds.mergeFile input.dict file
  refine ⟨b', ?_, next.of_eq fun key _ => by simp⟩
  show (forIn mergedKeys b (fun key g => mergeKey g project d key) >>= fun g => pure (ForInStep.yield g)) = _
  rw [run, pure_bind]

/-- A project `{name: p, traces: [{name: a}]}` at 0 and a file `{traces: [{name: b}]}` at 8. -/
def twoTraceFiles : Graph :=
  ⟨#[.dict [(1, 2), (3, 4)] [], .leaf (.str "name") false, .leaf (.str "p") false,
    .leaf (.str "traces") false, .list [5], .dict [(6, 7)] [], .leaf (.str "name") false,
    .leaf (.str "a") false, .dict [(9, 10)] [], .leaf (.str "traces") false, .list [11],
    .dict [(12, 13)] [], .leaf (.str "name") false, .leaf (.str "b") false]⟩

/-- The merged traces are the project's trace followed by the file's, the same two mappings. -/
theorem twoTraceFiles_traces_appended :
    MergeInput twoTraceFiles 0 [8] ∧
      ∃ g', mergeInto twoTraceFiles 0 [8] = .ok g' ∧ g'.collection? 0 "traces" = some [5, 11] := by
  have table : ∀ key ∈ mergedKeys, (twoTraceFiles.itemAt 8 key).toOption =
      if key = "traces" then some 10 else Option.none := by
    decide +kernel
  have input : MergeInput twoTraceFiles 0 [8] := by
    refine ⟨⟨_, _, rfl⟩, ?_, by decide +kernel, ?_⟩
    · intro entries locs found e member
      cases found
      simp only [List.mem_cons, List.not_mem_nil, or_false] at member
      rcases member with rfl | rfl <;> decide
    · intro d member
      rw [List.mem_singleton.mp member]
      refine ⟨⟨_, _, rfl⟩, ?_, by decide, ?_⟩
      · intro entries locs found e member
        cases found
        rw [List.mem_singleton.mp member]
        decide
      · intro key merged v found
        have entry := table key merged
        rw [found] at entry
        split at entry
        · cases entry
          exact ⟨[11], rfl⟩
        · cases entry
  obtain ⟨g', run, collections, _⟩ := mergeInto_appends_collections input
  refine ⟨input, g', run, ?_⟩
  rw [collections "traces" (by decide)]
  decide +kernel

/-- The same project and a file `{traces: null}` at 8. -/
def nullTraces : Graph :=
  ⟨#[.dict [(1, 2), (3, 4)] [], .leaf (.str "name") false, .leaf (.str "p") false,
    .leaf (.str "traces") false, .list [5], .dict [(6, 7)] [], .leaf (.str "name") false,
    .leaf (.str "a") false, .dict [(9, 10)] [], .leaf (.str "traces") false, .leaf Value.none false]⟩

/-- A file whose collection is null does not count as an empty list: the project's traces,
which concatenation with nothing would keep, become the file's null. -/
theorem null_collection_replaces_merged :
    (nullTraces.collection? 0 "traces").getD [] ++ (nullTraces.collection? 8 "traces").getD [] = [5] ∧
      (match mergeInto nullTraces 0 [8] with
        | .ok g => (g.itemAt 0 "traces").toOption == some 10 && g.collection? 0 "traces" == some []
        | .error _ => false) = true :=
  ⟨by decide +kernel, by decide +kernel⟩

end Dashwright.Project
