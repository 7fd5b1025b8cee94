import Dashwright.Proofs.Yaml.Locations
import Dashwright.Proofs.Loops
import Dashwright.Proofs.Chains

/-! Which loaded mappings of a project file are located by the file's name.

Placing walks down from the root of a loaded document, when it is a loaded mapping, to each
value that is a loaded mapping and to each loaded mapping that is an item of a value that is a
list. It goes no deeper into lists: a mapping in a list in a list, or in a list at the root, is
not reached. Every mapping it reaches is located by the file's name, and the others keep the
stream's name. The walk keeps no record of the mappings done, and each mapping it goes into
nests it one call deeper, so it meets the recursion limit where a chain of 990 mappings starts
at the root: always when a reached mapping reaches itself, and, through anchors, also on a long
enough chain of distinct ones.

The walk is proved to answer exactly the mappings reached (`placedFrom_ok_mem`) and to fail,
only with the recursion error, exactly where such a chain starts (`placedFrom_error_iff`). -/

namespace Dashwright.Yaml

open Relation

namespace Document

variable (d : Document)

/-- Placing goes on from a loaded mapping to each value of it that is a loaded mapping, and to
each loaded mapping that is an item of a value of it that is a list. -/
inductive Child : Nat → Nat → Prop
  | value {i k v : Nat} {entries : List (Nat × Nat)} {marks : List (Mark × Mark)}
      (mapping : d.objOf i = some (.dict entries marks)) (entry : (k, v) ∈ entries) (dict : d.isDict v = true) :
      Child i v
  | item {i k v c : Nat} {entries : List (Nat × Nat)} {marks : List (Mark × Mark)} {items : List Nat}
      (mapping : d.objOf i = some (.dict entries marks)) (entry : (k, v) ∈ entries)
      (list : d.objOf v = some (.seq items)) (member : c ∈ items) (dict : d.isDict c = true) : Child i c

/-- The mappings placing reaches: the root if it is a loaded mapping, and all below it. -/
def Placed (i : Nat) : Prop := d.isDict d.root = true ∧ ReflTransGen d.Child d.root i

variable {d}

theorem isDict_iff {i : Nat} : d.isDict i = true ↔ ∃ entries marks, d.objOf i = some (.dict entries marks) := by
  unfold isDict
  split
  · rename_i entries marks stored
    exact ⟨fun _ => ⟨entries, marks, stored⟩, fun _ => rfl⟩
  · rename_i other
    exact ⟨nofun, fun ⟨entries, marks, stored⟩ => absurd stored (other entries marks)⟩

theorem isDict_of_child {i j : Nat} (child : d.Child i j) : d.isDict j = true := by
  cases child with
  | value _ _ dict => exact dict
  | item _ _ _ _ dict => exact dict

theorem mem_children_iff {i j : Nat} : j ∈ d.children i ↔ d.Child i j := by
  unfold children
  constructor
  · intro member
    split at member
    · rename_i entries marks mapping
      obtain ⟨v, value, below⟩ := List.mem_flatMap.mp member
      obtain ⟨⟨k, v'⟩, entry, rfl⟩ := List.mem_map.mp value
      unfold Document.below at below
      split at below
      · rename_i es ms dict
        rw [List.mem_singleton.mp below]
        exact .value mapping entry (by simp [isDict, dict])
      · rename_i items list
        obtain ⟨member, dict⟩ := List.mem_filter.mp below
        exact .item mapping entry list member dict
      · cases below
    · cases member
  · intro child
    cases child with
    | value mapping entry dict =>
      obtain ⟨es, ms, stored⟩ := isDict_iff.mp dict
      rw [mapping]
      exact List.mem_flatMap.mpr ⟨j, List.mem_map.mpr ⟨_, entry, rfl⟩, by simp [Document.below, stored]⟩
    | item mapping entry list member dict =>
      rw [mapping]
      exact List.mem_flatMap.mpr ⟨_, List.mem_map.mpr ⟨_, entry, rfl⟩, by simp [Document.below, list, member, dict]⟩

theorem lt_of_isDict {i : Nat} (dict : d.isDict i = true) : i < d.objs.size := by
  unfold isDict objOf at dict
  cases stored : d.objs[i]? with
  | none => simp [stored] at dict
  | some o => exact (Array.getElem?_eq_some_iff.mp stored).1

section Walk

variable {fuel : Nat} {path : List Nat} {i : Nat}

theorem placedFrom_succ_ok {ps : List Nat}
    (ok : d.placedFrom (fuel + 1) path i = .ok ps) :
    i ∉ path ∧ ∃ below : List (List Nat), ps = i :: below.flatten ∧
      (∀ c, d.Child i c → ∃ qs ∈ below, d.placedFrom fuel (i :: path) c = .ok qs) ∧
      (∀ qs ∈ below, ∃ c, d.Child i c ∧ d.placedFrom fuel (i :: path) c = .ok qs) := by
  rw [placedFrom] at ok
  split at ok
  · cases ok
  rename_i fresh
  obtain ⟨below, walked, answer⟩ := bind_eq_ok ok
  cases answer
  obtain ⟨every, only⟩ := mapM_ok_mem walked
  refine ⟨by simpa using fresh, below, rfl, fun c child => every c (mem_children_iff.mpr child), ?_⟩
  intro qs part
  obtain ⟨c, listed, gives⟩ := only qs part
  exact ⟨c, mem_children_iff.mp listed, gives⟩

theorem placedFrom_succ_error {e : Failure}
    (failed : d.placedFrom (fuel + 1) path i = .error e) :
    (i ∈ path ∧ e = Failure.make .tooDeep "maximum recursion depth exceeded") ∨
      (i ∉ path ∧ ∃ c, d.Child i c ∧ d.placedFrom fuel (i :: path) c = .error e) := by
  rw [placedFrom] at failed
  split at failed
  · rename_i onPath
    cases failed
    exact .inl ⟨by simpa using onPath, rfl⟩
  rename_i fresh
  cases walked : (d.children i).mapM (d.placedFrom fuel (i :: path)) with
  | ok below =>
    rw [walked] at failed
    cases failed
  | error e' =>
    rw [walked] at failed
    cases failed
    obtain ⟨c, listed, fails⟩ := mapM_error walked
    exact .inr ⟨by simpa using fresh, c, mem_children_iff.mp listed, fails⟩

theorem placedFrom_ok_mem {ps : List Nat}
    (ok : d.placedFrom fuel path i = .ok ps) (j : Nat) : j ∈ ps ↔ ReflTransGen d.Child i j := by
  induction fuel generalizing path i ps with
  | zero => cases ok
  | succ fuel ih =>
    obtain ⟨_, below, rfl, every, only⟩ := placedFrom_succ_ok ok
    constructor
    · intro member
      rcases List.mem_cons.mp member with rfl | deeper
      · exact ReflTransGen.refl
      · obtain ⟨qs, part, inPart⟩ := List.mem_flatten.mp deeper
        obtain ⟨c, child, gives⟩ := only qs part
        exact ReflTransGen.head child ((ih gives).mp inPart)
    · intro reached
      rcases reached.cases_head with rfl | ⟨c, child, rest⟩
      · exact List.mem_cons_self
      · obtain ⟨qs, part, gives⟩ := every c child
        exact List.mem_cons_of_mem i (List.mem_flatten.mpr ⟨qs, part, (ih gives).mpr rest⟩)

theorem placedFrom_ok_avoids {ps : List Nat}
    (ok : d.placedFrom fuel path i = .ok ps) {j : Nat} (reached : ReflTransGen d.Child i j) : j ∉ path := by
  induction fuel generalizing path i ps with
  | zero => cases ok
  | succ fuel ih =>
    obtain ⟨fresh, below, _, every, _⟩ := placedFrom_succ_ok ok
    rcases reached.cases_head with rfl | ⟨c, child, rest⟩
    · exact fresh
    · obtain ⟨qs, _, gives⟩ := every c child
      exact fun member => ih gives rest (List.mem_cons_of_mem i member)

theorem placedFrom_ok_acyclic {ps : List Nat}
    (ok : d.placedFrom fuel path i = .ok ps) {j : Nat} (reached : ReflTransGen d.Child i j) :
    ¬ TransGen d.Child j j := by
  induction fuel generalizing path i ps with
  | zero => cases ok
  | succ fuel ih =>
    obtain ⟨_, below, _, every, _⟩ := placedFrom_succ_ok ok
    rcases reached.cases_head with rfl | ⟨c, child, rest⟩
    · -- a way from the mapping back to itself goes through a child, whose walk has it on its path
      intro cycle
      obtain ⟨c, child, back⟩ := TransGen.head'_iff.mp cycle
      obtain ⟨qs, _, gives⟩ := every c child
      exact placedFrom_ok_avoids gives back List.mem_cons_self
    · obtain ⟨qs, _, gives⟩ := every c child
      exact ih gives rest

theorem placedFrom_error_limit {e : Failure} (failed : d.placedFrom fuel path i = .error e) :
    e = Failure.make .tooDeep "maximum recursion depth exceeded" := by
  induction fuel generalizing path i with
  | zero =>
    cases failed
    rfl
  | succ fuel ih =>
    rcases placedFrom_succ_error failed with ⟨-, limit⟩ | ⟨-, c, -, fails⟩
    · exact limit
    · exact ih fails

/-- A walk down a path of mappings that each reach the mapping walked from fails exactly where
a chain of as many steps as its depth starts: going back up the path is a cycle, and a cycle
starts chains of every length. -/
theorem placedFrom_error_iff (above : ∀ p ∈ path, TransGen d.Child p i) :
    (∃ e, d.placedFrom fuel path i = .error e) ↔ ChainFrom d.Child fuel i := by
  induction fuel generalizing path i with
  | zero => exact ⟨fun _ => .start i, fun _ => ⟨_, rfl⟩⟩
  | succ fuel ih =>
    -- the walks from the children go on with the mapping on their path
    have below : ∀ c, d.Child i c → ∀ p ∈ i :: path, TransGen d.Child p c := by
      intro c child p member
      rcases List.mem_cons.mp member with rfl | onPath
      · exact .single child
      · exact (above p onPath).tail child
    constructor
    · rintro ⟨e, failed⟩
      rcases placedFrom_succ_error failed with ⟨onPath, -⟩ | ⟨-, c, child, fails⟩
      · exact chainFrom_of_cycle .refl (above i onPath) (fuel + 1)
      · exact .step child ((ih (below c child)).mp ⟨e, fails⟩)
    · intro chain
      cases chain with
      | step child rest =>
        refine Classical.byContradiction fun ends => ?_
        cases walked : d.placedFrom (fuel + 1) path i with
        | error e => exact ends ⟨e, walked⟩
        | ok ps =>
          obtain ⟨-, _, -, every, -⟩ := placedFrom_succ_ok walked
          obtain ⟨qs, -, gives⟩ := every _ child
          obtain ⟨e, fails⟩ := (ih (below _ child)).mpr rest
          rw [gives] at fails
          cases fails

end Walk

theorem objects_closed : ∀ a ∈ List.range d.objs.size, ∀ b, d.Child a b → b ∈ List.range d.objs.size :=
  fun _ _ _ child => List.mem_range.mpr (lt_of_isDict (isDict_of_child child))

variable (d) in
/-- Placing answers exactly the mappings it reaches, and fails, with the recursion error, exactly
when a chain of as many mappings as the recursion limit allows starts at the root: always when
a reached mapping reaches itself, and only then in a document of at most that many objects. -/
theorem placed_spec :
    (∀ ps, d.placed = .ok ps → ∀ i, i ∈ ps ↔ d.Placed i) ∧
    (∀ e, d.placed = .error e → e = Failure.make .tooDeep "maximum recursion depth exceeded") ∧
    ((∃ e, d.placed = .error e) ↔ d.isDict d.root = true ∧ ChainFrom d.Child placingDepth d.root) ∧
    ((∃ i, d.Placed i ∧ TransGen d.Child i i) → ∃ e, d.placed = .error e) ∧
    (d.objs.size ≤ placingDepth → ((∃ e, d.placed = .error e) ↔ ∃ i, d.Placed i ∧ TransGen d.Child i i)) := by
  have fails : (∃ e, d.placed = .error e) ↔ d.isDict d.root = true ∧ ChainFrom d.Child placingDepth d.root := by
    unfold placed
    split
    · rename_i dict
      rw [placedFrom_error_iff (fun _ none => absurd none List.not_mem_nil)]
      exact ⟨fun chain => ⟨dict, chain⟩, fun held => held.2⟩
    · rename_i notDict
      constructor
      · rintro ⟨_, failed⟩
        cases failed
      · exact fun held => absurd held.1 notDict
  have cycles : (∃ i, d.Placed i ∧ TransGen d.Child i i) → ∃ e, d.placed = .error e := by
    rintro ⟨i, ⟨dict, reached⟩, cycle⟩
    exact fails.mpr ⟨dict, chainFrom_of_cycle reached cycle placingDepth⟩
  refine ⟨?_, ?_, fails, cycles, fun small => ⟨fun failed => ?_, cycles⟩⟩
  · intro ps ok i
    unfold placed at ok
    split at ok
    · rename_i dict
      rw [placedFrom_ok_mem ok i]
      exact ⟨fun reached => ⟨dict, reached⟩, fun placed => placed.2⟩
    · rename_i notDict
      cases ok
      exact ⟨nofun, fun placed => absurd placed.1 notDict⟩
  · intro e failed
    unfold placed at failed
    split at failed
    · exact placedFrom_error_limit failed
    · cases failed
  · -- a chain as long as the document has objects goes round a cycle
    obtain ⟨dict, chain⟩ := fails.mp failed
    obtain ⟨j, reached, cycle⟩ := cycle_of_long_chain objects_closed
      (List.mem_range.mpr (lt_of_isDict dict)) (by simpa using small) chain
    exact ⟨j, ⟨dict, reached⟩, cycle⟩

end Document

/-- A loaded mapping of a project file's graph is located by the file's name exactly when placing
reaches it, through mapping values and mappings directly in list values, and by the stream's
name otherwise. Loading the file fails, only with the recursion error, exactly when a chain of
990 mappings so reached starts at the root: always when a reached mapping reaches itself, and
only then in a document of at most 990 objects. -/
theorem projectGraph_placing {file text : String} {d : Document} (loaded : loadDocument text = .ok (some d)) :
    (∀ g root, loadProjectGraph file text = .ok (g, root) →
      ∀ i entries locs, g.piece i = .dict entries locs →
        ∃ marks, d.objOf i = some (.dict entries marks) ∧
          (d.Placed i ∧ locs = markTexts file marks ∨ ¬ d.Placed i ∧ locs = markTexts streamName marks)) ∧
    (∀ e, loadProjectGraph file text = .error e → e = Failure.make .tooDeep "maximum recursion depth exceeded") ∧
    ((∃ e, loadProjectGraph file text = .error e) ↔ d.isDict d.root = true ∧ ChainFrom d.Child placingDepth d.root) ∧
    ((∃ i, d.Placed i ∧ TransGen d.Child i i) → ∃ e, loadProjectGraph file text = .error e) ∧
    (d.objs.size ≤ placingDepth →
      ((∃ e, loadProjectGraph file text = .error e) ↔ ∃ i, d.Placed i ∧ TransGen d.Child i i)) := by
  obtain ⟨answers, limit, chains, cycles, small⟩ := d.placed_spec
  have graph : loadProjectGraph file text = (d.placed >>= fun placed => pure (d.toGraph file placed, d.root)) := by
    unfold loadProjectGraph
    rw [loaded]
  -- loading fails exactly when placing does, with its failure
  have fails : (∃ e, loadProjectGraph file text = .error e) ↔ ∃ e, d.placed = .error e := by
    rw [graph]
    cases d.placed with
    | ok ps =>
      constructor <;> rintro ⟨_, failed⟩ <;> cases failed
    | error e => exact ⟨fun _ => ⟨e, rfl⟩, fun _ => ⟨e, rfl⟩⟩
  refine ⟨?_, ?_, fails.trans chains, fun cycle => fails.mpr (cycles cycle),
    fun bounded => fails.trans (small bounded)⟩
  · intro g root ok i entries locs dict
    rw [graph] at ok
    cases placing : d.placed with
    | error e =>
      rw [placing] at ok
      cases ok
    | ok ps =>
      rw [placing] at ok
      cases ok
      obtain ⟨marks, obj, written⟩ := toGraph_dict dict
      have listed : ps.contains i = true ↔ d.Placed i := by
        rw [List.contains_iff_mem]
        exact answers ps placing i
      refine ⟨marks, obj, ?_⟩
      by_cases found : ps.contains i
      · exact .inl ⟨listed.mp found, by rw [written, if_pos found]⟩
      · exact .inr ⟨fun placed => found (listed.mpr placed), by rw [written, if_neg found]⟩
  · intro e failed
    rw [graph] at failed
    cases placing : d.placed with
    | ok ps =>
      rw [placing] at failed
      cases failed
    | error e' =>
      rw [placing] at failed
      cases failed
      exact limit e placing

/-- A mapping in a list that is itself an item of a list. -/
def nestedListText : String := "a:\n  - - b: x\n"

/-- The mapping `b: x` (node 4) is not placed, so it keeps the stream's name. -/
theorem nestedListMapping_unplaced :
    let d := loadedDocument nestedListText
    loadDocument nestedListText = .ok (some d) ∧
    ((∀ g root, loadProjectGraph "project.visivo.yml" nestedListText = .ok (g, root) →
      ∀ i entries locs, g.piece i = .dict entries locs →
        ∃ marks, d.objOf i = some (.dict entries marks) ∧
          (d.Placed i ∧ locs = markTexts "project.visivo.yml" marks ∨
            ¬ d.Placed i ∧ locs = markTexts streamName marks)) ∧
      (∀ e, loadProjectGraph "project.visivo.yml" nestedListText = .error e →
        e = Failure.make .tooDeep "maximum recursion depth exceeded") ∧
      ((∃ e, loadProjectGraph "project.visivo.yml" nestedListText = .error e) ↔
        d.isDict d.root = true ∧ ChainFrom d.Child placingDepth d.root) ∧
      ((∃ i, d.Placed i ∧ TransGen d.Child i i) → ∃ e, loadProjectGraph "project.visivo.yml" nestedListText = .error e) ∧
      (d.objs.size ≤ placingDepth →
        ((∃ e, loadProjectGraph "project.visivo.yml" nestedListText = .error e) ↔
          ∃ i, d.Placed i ∧ TransGen d.Child i i))) ∧
    ¬ d.Placed 4 := by
  have loaded := loadDocument_of_loads (show loadsDocument nestedListText = true by decide +kernel)
  have placing : (loadedDocument nestedListText).placed = .ok [0] := by decide +kernel
  refine ⟨loaded, projectGraph_placing loaded, fun placed => ?_⟩
  have listed := ((loadedDocument nestedListText).placed_spec.1 [0] placing 4).mpr placed
  simp at listed

end Dashwright.Yaml
