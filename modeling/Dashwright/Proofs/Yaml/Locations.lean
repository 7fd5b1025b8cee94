import Dashwright.Yaml.Load

/-! Where a loaded mapping says its keys stand.

A document's objects are built in a state monad over the builder. `Spec pre x post` says
that a run of `x` from a builder meeting `pre`, if it succeeds, ends in one meeting `post`.
The rules below carry such facts through binds and loops, so an invariant of the builder is
proved of a whole construction one step at a time.

The invariant proved here says where the marks of a loaded mapping come from. The mapping's
`j`-th mark is the start of the `j`-th pair written in its node, whichever pair gave its
`j`-th entry. A key written twice keeps its first place among the entries and takes its value
from the later pair. So once a key repeats, every later entry is marked at a pair written
before its own. -/

namespace Dashwright.Yaml

/-- A building step meets a specification: from a builder where `pre` holds, each answer it
gives and the builder it leaves meet `post`. -/
def Spec {α : Type} (pre : Builder → Prop) (x : BuildM α) (post : α → Builder → Prop) : Prop :=
  ∀ b a b', x.run b = .ok (a, b') → pre b → post a b'

namespace Spec

variable {α β : Type} {P : Builder → Prop}

theorem bind {Q : α → Builder → Prop} {R : β → Builder → Prop} {x : BuildM α} {f : α → BuildM β}
    (first : Spec P x Q) (rest : ∀ a, Spec (Q a) (f a) R) : Spec P (x >>= f) R := by
  intro b c b'' run holds
  rw [StateT.run_bind] at run
  cases ran : x.run b with
  | error e =>
    rw [ran] at run
    cases run
  | ok p =>
    rw [ran] at run
    exact rest p.1 p.2 c b'' run (first b p.1 p.2 ran holds)

theorem pre {P' : Builder → Prop} {Q : α → Builder → Prop} {x : BuildM α} (stronger : ∀ b, P' b → P b)
    (spec : Spec P x Q) : Spec P' x Q :=
  fun b a b' run holds => spec b a b' run (stronger b holds)

theorem fact {F : Prop} {Q : α → Builder → Prop} {x : BuildM α} (holds : ∀ b, P b → F)
    (spec : F → Spec P x Q) : Spec P x Q :=
  fun b a b' run before => spec (holds b before) b a b' run before

theorem weaken {Q R : α → Builder → Prop} {x : BuildM α} (spec : Spec P x Q) (more : ∀ a b, Q a b → R a b) :
    Spec P x R :=
  fun b a b' run holds => more a b' (spec b a b' run holds)

theorem of_pure {a : α} {Q : α → Builder → Prop} (holds : ∀ b, P b → Q a b) : Spec P (pure a) Q := by
  intro b a' b' run before
  cases run
  exact holds b before

theorem pure_keeps {a : α} : Spec P (pure a) (fun _ => P) :=
  of_pure fun _ holds => holds

theorem ite {c : Prop} [Decidable c] {Q : α → Builder → Prop} {x y : BuildM α}
    (yes : c → Spec P x Q) (no : ¬c → Spec P y Q) : Spec P (if c then x else y) Q := by
  by_cases h : c
  · rw [if_pos h]
    exact yes h
  · rw [if_neg h]
    exact no h

theorem of_get {Q : Builder → Builder → Prop} (holds : ∀ b, P b → Q b b) : Spec P get Q := by
  intro b a b' run before
  cases run
  exact holds b before

theorem of_modify {f : Builder → Builder} {Q : PUnit → Builder → Prop} (holds : ∀ b, P b → Q ⟨⟩ (f b)) :
    Spec P (modify f) Q := by
  intro b a b' run before
  cases run
  exact holds b before

theorem of_throw {e : Problem} {Q : α → Builder → Prop} : Spec P (throw e) Q := by
  intro b a b' run
  cases run

theorem of_lift {e : ReadM α} {Q : α → Builder → Prop} (holds : ∀ b a, P b → Q a b) :
    Spec P (monadLift e) Q := by
  intro b a b' run before
  cases e with
  | error p => cases run
  | ok v =>
    cases run
    exact holds b _ before

theorem forIn_keeps (xs : List α) (init : β) (body : α → β → BuildM (ForInStep β))
    (each : ∀ x ∈ xs, ∀ acc, Spec P (body x acc) (fun _ => P)) : Spec P (forIn xs init body) (fun _ => P) := by
  induction xs generalizing init with
  | nil => exact Spec.pure_keeps
  | cons x rest ih =>
    rw [List.forIn_cons]
    refine Spec.bind (each x List.mem_cons_self init) fun step => ?_
    cases step with
    | done acc => exact Spec.pure_keeps
    | yield acc => exact ih acc fun y member => each y (List.mem_cons_of_mem x member)

theorem forIn_inv (xs : List α) (init : β) (body : α → β → BuildM (ForInStep β))
    (I : List α → β → Builder → Prop)
    (step : ∀ done x rest, xs = done ++ x :: rest → ∀ acc,
      Spec (I done acc) (body x acc) (fun r b => ∃ acc', r = .yield acc' ∧ I (done ++ [x]) acc' b)) :
    Spec (I [] init) (forIn xs init body) (fun r => I xs r) := by
  -- the loop over what is left, once the items before it are gone through
  suffices left : ∀ rest done acc, xs = done ++ rest →
      Spec (I done acc) (forIn rest acc body) (fun r => I xs r) from left xs [] init rfl
  intro rest
  induction rest with
  | nil =>
    intro done acc split
    rw [List.append_nil] at split
    subst split
    exact Spec.of_pure fun _ holds => holds
  | cons x rest ih =>
    intro done acc split
    rw [List.forIn_cons]
    refine Spec.bind (step done x rest split acc) fun r => ?_
    intro b r' b' run ⟨acc', yields, holds⟩
    subst yields
    exact ih (done ++ [x]) acc' (by rw [split, List.append_assoc, List.singleton_append]) b r' b' run holds

end Spec

section Steps

variable {α β : Type} {P : Builder → Prop}

theorem get_spec : Spec P get (fun a b => P b ∧ a = b) :=
  Spec.of_get fun _ holds => ⟨holds, rfl⟩

theorem objAt_spec (i : Nat) : Spec P (objAt i) (fun _ b => P b) :=
  Spec.bind get_spec fun _ => Spec.of_pure fun _ holds => holds.1

theorem nodeAt_spec (i : Nat) : Spec P (nodeAt i) (fun n b => P b ∧ n = (b.nodes[i]?).getD default) :=
  Spec.bind get_spec fun _ => Spec.of_pure fun _ holds => ⟨holds.1, by rw [holds.2]⟩

theorem nodeAt_keeps (i : Nat) : Spec P (nodeAt i) (fun _ => P) :=
  (nodeAt_spec i).weaken fun _ _ holds => holds.1

theorem sameKey_spec (ka kb : Nat) (a b : Value) : Spec P (sameKey ka a kb b) (fun _ => P) := by
  unfold sameKey
  split
  · split
    · split
      · exact Spec.pure_keeps
      · exact Spec.bind (nodeAt_keeps ka) fun _ => Spec.bind (nodeAt_keeps kb) fun _ =>
          Spec.pure_keeps
    · exact Spec.pure_keeps
  · exact Spec.pure_keeps

theorem anyM_spec {f : α → BuildM Bool} (xs : List α) (each : ∀ x ∈ xs, Spec P (f x) (fun _ => P)) :
    Spec P (xs.anyM f) (fun _ => P) := by
  induction xs with
  | nil => exact Spec.pure_keeps
  | cons x rest ih =>
    rw [List.anyM_cons]
    refine Spec.bind (each x List.mem_cons_self) fun found => ?_
    split
    · exact Spec.pure_keeps
    · exact ih fun y member => each y (List.mem_cons_of_mem x member)

theorem mapM_spec {f : α → BuildM β} (xs : List α) (each : ∀ x ∈ xs, Spec P (f x) (fun _ => P)) :
    Spec P (xs.mapM f) (fun ys b => P b ∧ ys.length = xs.length) := by
  induction xs with
  | nil => exact Spec.of_pure fun _ holds => ⟨holds, rfl⟩
  | cons x rest ih =>
    rw [List.mapM_cons]
    refine Spec.bind (each x List.mem_cons_self) fun y => ?_
    refine Spec.bind (ih fun z member => each z (List.mem_cons_of_mem x member)) fun ys => ?_
    exact Spec.of_pure fun _ holds => ⟨holds.1, by simp [holds.2]⟩

theorem fail_spec {Q : α → Builder → Prop} (f : Failure) : Spec P (fail f) Q :=
  Spec.of_throw

theorem fail_bind {R : β → Builder → Prop} {f : α → BuildM β} (e : Failure) : Spec P (fail e >>= f) R :=
  fun _ _ _ run => by cases run

theorem constructProblem_spec {Q : α → Builder → Prop} (c : Option String) (cm : Option Mark) (problem : String)
    (m : Mark) : Spec P (constructProblem c cm problem m) Q :=
  Spec.of_throw

theorem constructProblem_bind {R : β → Builder → Prop} {f : α → BuildM β} (c : Option String) (cm : Option Mark)
    (problem : String) (m : Mark) : Spec P (constructProblem c cm problem m >>= f) R :=
  fun _ _ _ run => by cases run

end Steps

/-- Where a mapping's pairs are written: the start of each key and of each value. -/
def pairMarks (nodes : Array Node) (pairs : List (Nat × Nat)) : List (Mark × Mark) :=
  pairs.map fun (k, v) => (((nodes[k]?).map (·.start)).getD default, ((nodes[v]?).map (·.start)).getD default)

/-- A loaded mapping made for node `i`, with its entries and marks, is marked at the pairs of
the node written first: its `j`-th entry at the `j`-th pair. -/
def MarkedAtPairs (nodes : Array Node) (i : Nat) (entries : List (Nat × Nat)) (marks : List (Mark × Mark)) :
    Prop :=
  ∃ pairs, ((nodes[i]?).getD default).kind = .mapping pairs ∧ entries.length ≤ pairs.length ∧
    marks = pairMarks nodes (pairs.take entries.length)

/-- A builder over given nodes whose loaded mappings are all marked at their pairs. -/
def Marked (nodes : Array Node) (b : Builder) : Prop :=
  b.nodes = nodes ∧
    ∀ i entries marks, b.objs[i]? = some (some (.dict entries marks)) → MarkedAtPairs nodes i entries marks

section Marking

variable {N : Array Node}

theorem work_spec (f : Builder → List Nat) (g : Builder → List (Nat × Filling)) :
    Spec (Marked N) (modify fun b => ⟨b.nodes, b.objs, f b, g b⟩) (fun _ => Marked N) :=
  Spec.of_modify fun _ marked => marked

theorem setObj_spec (i : Nat) (o : Obj) (markedIfDict : ∀ es ms, o = .dict es ms → MarkedAtPairs N i es ms) :
    Spec (Marked N) (setObj i o) (fun _ => Marked N) := by
  refine Spec.of_modify fun b marked => ⟨marked.1, fun j es ms found => ?_⟩
  simp only [Array.set!_eq_setIfInBounds, Array.getElem?_setIfInBounds] at found
  split at found
  · rename_i same
    subst same
    split at found
    · cases found
      exact markedIfDict es ms rfl
    · cases found
  · exact marked.2 j es ms found

theorem setObj_plain (i : Nat) (o : Obj) (plain : ∀ es ms, o ≠ .dict es ms) :
    Spec (Marked N) (setObj i o) (fun _ => Marked N) :=
  setObj_spec i o fun es ms same => absurd same (plain es ms)

theorem building_marked (fuel : Nat) :
    (∀ i, Spec (Marked N) (construct fuel i) (fun _ => Marked N)) ∧
    (∀ p, Spec (Marked N) (fill fuel p) (fun _ => Marked N)) := by
  induction fuel with
  | zero => exact ⟨fun _ => by rw [construct.eq_1]; exact fail_spec _, fun _ => by rw [fill.eq_1]; exact fail_spec _⟩
  | succ fuel ih =>
    refine ⟨fun i => ?_, fun ⟨i, how⟩ => ?_⟩
    · rw [construct.eq_2]
      refine Spec.bind (objAt_spec i) fun o => Spec.ite (fun _ => Spec.pure_keeps) fun _ => ?_
      refine Spec.bind (nodeAt_spec i) fun n => ?_
      refine Spec.fact (fun b holds => show n = (N[i]?).getD default by rw [holds.2, holds.1.1]) fun read => ?_
      refine Spec.pre (fun b holds => holds.1) ?_
      refine Spec.bind get_spec fun _ => Spec.pre (fun b holds => holds.1) ?_
      dsimp only
      refine Spec.ite (fun _ => constructProblem_bind _ _ _ _) fun _ => ?_
      refine Spec.bind (work_spec _ _) fun _ => ?_
      -- the tags of the collections filled later each make an empty collection first
      refine Spec.ite (fun _ => Spec.bind (setObj_plain _ _ nofun) fun _ =>
        Spec.bind (work_spec _ _) fun _ => work_spec _ _) fun _ => ?_
      refine Spec.ite (fun _ => Spec.bind (setObj_plain _ _ nofun) fun _ =>
        Spec.bind (work_spec _ _) fun _ => work_spec _ _) fun _ => ?_
      refine Spec.ite (fun _ => Spec.bind (setObj_plain _ _ nofun) fun _ =>
        Spec.bind (work_spec _ _) fun _ => work_spec _ _) fun _ => ?_
      refine Spec.ite (fun _ => Spec.bind (setObj_plain _ _ nofun) fun _ =>
        Spec.bind (work_spec _ _) fun _ => work_spec _ _) fun _ => ?_
      refine Spec.ite (fun _ => ?_) fun _ => ?_
      · split
        · rename_i pairs mapping
          refine Spec.bind (Spec.forIn_keeps _ _ _ fun x _ _ =>
            Spec.bind (ih.1 x.1) fun _ => Spec.bind (ih.1 x.2) fun _ => Spec.pure_keeps)
            fun _ => ?_
          -- each pair read adds at most one entry, so the entries never outnumber the pairs read
          refine Spec.bind (Spec.pre (fun b marked => ⟨marked, Nat.le_refl 0⟩)
            (Spec.forIn_inv _ _ _ (fun done es b => Marked N b ∧ es.length ≤ done.length)
              fun done x rest _ es => ?_)) fun es => ?_
          · refine Spec.bind (objAt_spec x.1) fun o => ?_
            split
            · rename_i kv
              refine Spec.bind (anyM_spec es fun y _ => sameKey_spec _ _ _ _) fun found => ?_
              split
              · refine Spec.bind (mapM_spec es fun y _ => Spec.bind (sameKey_spec _ _ _ _) fun _ =>
                  Spec.pure_keeps) fun es' => ?_
                exact Spec.of_pure fun b holds => ⟨es', rfl, holds.1.1, by simp [holds.2]; omega⟩
              · exact Spec.of_pure fun b holds => ⟨_, rfl, holds.1, by simp; omega⟩
            · exact fail_bind _
            · exact Spec.of_pure fun b holds => ⟨_, rfl, holds.1, by simp; omega⟩
          refine Spec.bind get_spec fun b => ?_
          refine Spec.fact (fun b' holds => show es.length ≤ pairs.length ∧ b.nodes = N by
            rw [holds.2]; exact ⟨holds.1.2, holds.1.1.1⟩) fun ⟨short, nodes⟩ => ?_
          refine Spec.pre (fun _ holds => holds.1.1) ?_
          refine Spec.bind (setObj_spec _ _ fun es' ms same => ?_) fun _ => work_spec _ _
          cases same
          refine ⟨pairs, by rw [← read]; exact mapping, by simpa using short, ?_⟩
          rw [List.length_map, nodes]
          rfl
        · exact constructProblem_bind _ _ _ _
      · split
        · exact Spec.bind (Spec.of_lift fun _ _ marked => marked) fun _ =>
            Spec.bind (setObj_plain _ _ nofun) fun _ => work_spec _ _
        · exact constructProblem_bind _ _ _ _
    · rw [fill.eq_2]
      refine Spec.bind (nodeAt_keeps i) fun n => ?_
      dsimp only
      split
      · split
        · exact Spec.bind (Spec.forIn_keeps _ _ _ fun c _ _ => Spec.bind (ih.1 c) fun _ =>
            Spec.pure_keeps) fun _ => setObj_plain _ _ nofun
        · exact constructProblem_spec _ _ _ _
      · split
        · refine Spec.bind (Spec.forIn_keeps _ _ _ fun x _ keys => ?_) fun _ => setObj_plain _ _ nofun
          refine Spec.bind (ih.1 x.1) fun _ => Spec.bind (objAt_spec x.1) fun o => ?_
          split
          · refine Spec.bind (ih.1 x.2) fun _ => Spec.bind (anyM_spec keys fun y _ => sameKey_spec _ _ _ _)
              fun _ => ?_
            split <;> exact Spec.pure_keeps
          · exact Spec.bind (nodeAt_keeps x.1) fun _ => constructProblem_bind _ _ _ _
        · exact constructProblem_spec _ _ _ _
      -- ordered maps and pairs are filled alike, from a sequence of one-pair mappings
      case h_3 | h_4 =>
        split
        · refine Spec.bind (Spec.forIn_keeps _ _ _ fun c _ out => ?_) fun _ => setObj_plain _ _ nofun
          refine Spec.bind (nodeAt_keeps c) fun sub => ?_
          split
          · exact Spec.bind (ih.1 _) fun _ => Spec.bind (ih.1 _) fun _ => Spec.pure_keeps
          · exact constructProblem_bind _ _ _ _
          · exact constructProblem_bind _ _ _ _
        · exact constructProblem_spec _ _ _ _

theorem constructAll_marked (root : Nat) : Spec (Marked N) (constructAll root) (fun _ => Marked N) := by
  unfold constructAll
  refine Spec.bind get_spec fun b => Spec.pre (fun _ holds => holds.1) ?_
  refine Spec.bind ((building_marked _).1 root) fun _ => ?_
  rw [Std.Legacy.Range.forIn_eq_forIn_range']
  refine Spec.bind (Spec.forIn_keeps _ _ _ fun _ _ _ => ?_) fun _ => Spec.pure_keeps
  refine Spec.bind get_spec fun b' => Spec.pre (fun _ holds => holds.1) ?_
  dsimp only
  split
  · exact Spec.pure_keeps
  refine Spec.bind (work_spec _ _) fun _ => ?_
  refine Spec.bind (Spec.forIn_keeps _ _ _ fun p _ _ => ?_) fun _ => Spec.pure_keeps
  exact Spec.bind ((building_marked _).2 p) fun _ => Spec.pure_keeps

end Marking

theorem marked_start (nodes : Array Node) : Marked nodes ⟨nodes, Array.replicate nodes.size none, [], []⟩ := by
  refine ⟨rfl, fun i es ms found => ?_⟩
  simp [Array.getElem?_replicate] at found

/-- Every loaded mapping of a loaded document is marked at the pairs of its node. -/
theorem loadDocument_marked {text : String} {d : Document} (loaded : loadDocument text = .ok (some d)) :
    ∀ i es ms, d.objs[i]? = some (some (.dict es ms)) → MarkedAtPairs d.nodes i es ms := by
  unfold loadDocument at loaded
  dsimp only at loaded
  split at loaded
  · cases loaded
  cases composed : composeText text.toList.toArray with
  | error p => rw [composed] at loaded; cases loaded
  | ok result =>
    obtain ⟨nodes, root⟩ := result
    simp only [composed, bind, Except.bind] at loaded
    cases root with
    | none => cases loaded
    | some r =>
      cases built : (constructAll r).run ⟨nodes, Array.replicate nodes.size none, [], []⟩ with
      | error p => simp only [built, reduceCtorEq] at loaded
      | ok out =>
        simp only [built, pure, Except.pure, Except.ok.injEq, Option.some.injEq] at loaded
        subst loaded
        exact (constructAll_marked r _ _ _ built (marked_start nodes)).2

/-- The locations of a mapping's marks, under a stream's name. -/
def markTexts (name : String) (marks : List (Mark × Mark)) : List (String × String) :=
  marks.map fun (km, vm) => (locationText name km, locationText name vm)

theorem objOf_eq_some {d : Document} {i : Nat} {o : Obj} (found : d.objOf i = some o) :
    d.objs[i]? = some (some o) := by
  unfold Document.objOf at found
  cases stored : d.objs[i]? with
  | none => rw [stored] at found; cases found
  | some o' => rw [stored] at found; rw [show o' = some o from found]

section Pieces

variable (d : Document) (file : String) (placed : List Nat)

/-- What the graph of a document holds after its first `k` objects: a piece for each, the piece
of a loaded mapping holding the entries of its object and its marks as locations, and no
mapping among the tuples kept apart. -/
def PiecesSoFar (k : Nat) (acc : Array Piece × Array Piece) : Prop :=
  acc.1.size = k ∧ (∀ t ∈ acc.2, ∀ es locs, t ≠ .dict es locs) ∧
    ∀ j es locs, acc.1[j]? = some (.dict es locs) →
      ∃ marks, d.objOf j = some (.dict es marks) ∧
        locs = markTexts (if placed.contains j then file else streamName) marks

variable {d file placed}

theorem PiecesSoFar.push {k : Nat} {pieces tuples : Array Piece} (sofar : PiecesSoFar d file placed k (pieces, tuples))
    (p : Piece) (more : Array Piece) (noDict : ∀ t ∈ more, ∀ es locs, t ≠ .dict es locs)
    (dict : ∀ es locs, p = .dict es locs → ∃ marks, d.objOf k = some (.dict es marks) ∧
      locs = markTexts (if placed.contains k then file else streamName) marks) :
    PiecesSoFar d file placed (k + 1) (pieces.push p, tuples ++ more) := by
  obtain ⟨size, tuplesNoDict, dicts⟩ := sofar
  refine ⟨by simp [size], fun t member => ?_, fun j es locs found => ?_⟩
  · rcases Array.mem_append.mp member with old | new
    · exact tuplesNoDict t old
    · exact noDict t new
  · rw [Array.getElem?_push] at found
    split at found
    · rename_i last
      rw [last, size]
      exact dict es locs (Option.some.inj found)
    · exact dicts j es locs found

theorem piecesSoFar_addPiece {k : Nat} {acc : Array Piece × Array Piece} (sofar : PiecesSoFar d file placed k acc) :
    PiecesSoFar d file placed (k + 1) (d.addPiece file placed acc k) := by
  obtain ⟨pieces, tuples⟩ := acc
  -- every object but a list of pairs adds no tuple
  have alone : ∀ p : Piece, (∀ es locs, p = .dict es locs → ∃ marks, d.objOf k = some (.dict es marks) ∧
      locs = markTexts (if placed.contains k then file else streamName) marks) →
      PiecesSoFar d file placed (k + 1) (pieces.push p, tuples) := by
    intro p dict
    simpa using sofar.push p #[] (by simp) dict
  unfold Document.addPiece
  dsimp only
  split
  · exact alone _ nofun
  · exact alone _ nofun
  · exact alone _ nofun
  · refine sofar.push _ _ (fun t member es locs => ?_) nofun
    obtain ⟨⟨k, v⟩, _, made⟩ := List.mem_map.mp (Array.mem_toList_iff.mpr member)
    rw [← made]
    exact nofun
  · rename_i entries marks stored
    exact alone _ fun es locs same => by cases same; exact ⟨marks, stored, rfl⟩
  · exact alone _ nofun

variable (d file placed)

theorem piecesSoFar_range (n : Nat) :
    PiecesSoFar d file placed n ((List.range n).foldl (d.addPiece file placed) (#[], #[])) := by
  induction n with
  | zero => exact ⟨rfl, nofun, fun j es locs found => by simp at found⟩
  | succ n ih =>
    rw [List.range_succ, List.foldl_append, List.foldl_cons, List.foldl_nil]
    exact piecesSoFar_addPiece ih

end Pieces

theorem toGraph_dict {d : Document} {file : String} {placed : List Nat} {i : Nat} {es : List (Nat × Nat)}
    {locs : List (String × String)} (dict : (d.toGraph file placed).piece i = .dict es locs) :
    ∃ marks, d.objOf i = some (.dict es marks) ∧
      locs = markTexts (if placed.contains i then file else streamName) marks := by
  have sofar := piecesSoFar_range d file placed d.nodes.size
  unfold Document.toGraph Graph.piece at dict
  generalize (List.range d.nodes.size).foldl (d.addPiece file placed) (#[], #[]) = acc at dict sofar
  obtain ⟨pieces, tuples⟩ := acc
  obtain ⟨_, noDict, dicts⟩ := sofar
  rw [Array.getElem?_append] at dict
  -- past the nodes' pieces stand only tuples
  split at dict
  · cases found : pieces[i]? with
    | none => rw [found] at dict; cases dict
    | some p =>
      rw [found] at dict
      cases dict
      exact dicts i es locs found
  · cases found : tuples[i - pieces.size]? with
    | none => rw [found] at dict; cases dict
    | some t =>
      rw [found] at dict
      exact absurd dict (noDict t (Array.mem_of_getElem? found) es locs)

/-- The locations of a loaded mapping follow the pairs written in its node, in order: its
`j`-th entry is located at the `j`-th pair, not at the pair its key and value came from. -/
theorem loaded_locations_by_position {text file : String} {d : Document} {placed : List Nat}
    (loaded : loadDocument text = .ok (some d)) {i : Nat} {entries : List (Nat × Nat)}
    {locs : List (String × String)} (dict : (d.toGraph file placed).piece i = .dict entries locs) :
    ∃ pairs, ((d.nodes[i]?).getD default).kind = .mapping pairs ∧ entries.length ≤ pairs.length ∧
      locs = markTexts (if placed.contains i then file else streamName)
        (pairMarks d.nodes (pairs.take entries.length)) := by
  obtain ⟨marks, obj, written⟩ := toGraph_dict dict
  obtain ⟨pairs, mapping, short, marked⟩ := loadDocument_marked loaded i entries marks (objOf_eq_some obj)
  exact ⟨pairs, mapping, short, marked ▸ written⟩

def loadsDocument (text : String) : Bool :=
  match loadDocument text with
  | .ok (some _) => true
  | _ => false

/-- The document a text loads, or an empty one. -/
def loadedDocument (text : String) : Document :=
  match loadDocument text with
  | .ok (some d) => d
  | _ => ⟨#[], #[], 0⟩

theorem loadDocument_of_loads {text : String} (loads : loadsDocument text = true) :
    loadDocument text = .ok (some (loadedDocument text)) := by
  unfold loadsDocument at loads
  unfold loadedDocument
  split at loads
  · rename_i d loaded
    rw [loaded]
  · cases loads

/-- The entries and locations of a mapping piece; none for any other piece. -/
def Piece.dictParts : Piece → Option (List (Nat × Nat) × List (String × String))
  | .dict es locs => some (es, locs)
  | _ => none

theorem Piece.eq_dict {p : Piece} {es : List (Nat × Nat)} {locs : List (String × String)}
    (parts : p.dictParts = some (es, locs)) : p = .dict es locs := by
  cases p with
  | dict => cases parts; rfl
  | _ => cases parts

/-- A mapping whose first key is written again before its last key. -/
def repeatedKeyText : String := "a: x\na: y\nb: z\n"

/-- The mapping keeps the first key `a` (node 1) with the later value (node 4), and `b` (nodes 5
and 6, on line 3) is located on line 2, at the second pair. -/
theorem repeatedKey_located :
    let d := loadedDocument repeatedKeyText
    loadDocument repeatedKeyText = .ok (some d) ∧
    (d.toGraph "project.visivo.yml" [0]).piece 0 =
      .dict [(1, 4), (5, 6)] [("project.visivo.yml:1", "project.visivo.yml:1"),
        ("project.visivo.yml:2", "project.visivo.yml:2")] ∧
    ∃ pairs, ((d.nodes[0]?).getD default).kind = .mapping pairs ∧ [(1, 4), (5, 6)].length ≤ pairs.length ∧
      [("project.visivo.yml:1", "project.visivo.yml:1"), ("project.visivo.yml:2", "project.visivo.yml:2")] =
        markTexts (if [0].contains 0 then "project.visivo.yml" else streamName)
          (pairMarks d.nodes (pairs.take [(1, 4), (5, 6)].length)) := by
  have loaded := loadDocument_of_loads (show loadsDocument repeatedKeyText = true by decide +kernel)
  have dict := Piece.eq_dict (show (((loadedDocument repeatedKeyText).toGraph "project.visivo.yml" [0]).piece 0).dictParts =
    some ([(1, 4), (5, 6)], [("project.visivo.yml:1", "project.visivo.yml:1"),
      ("project.visivo.yml:2", "project.visivo.yml:2")]) by decide +kernel)
  exact ⟨loaded, dict, loaded_locations_by_position loaded dict⟩

end Dashwright.Yaml
