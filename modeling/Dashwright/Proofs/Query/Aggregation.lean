import Dashwright.Query.Aggregate
import Dashwright.Proofs.Value.Sorting
import Dashwright.Proofs.Value.Texts
import Dashwright.Proofs.Number.Doubles

/-!
Grouping rows by cohort. The rows of a table whose cohort cell is not null are grouped by the
cohort they hold: every such row stands in exactly one group, the group of its cohort, and the
rows of a group keep their order (`Partitions`, `cohortGroups_partitions`). A row whose cohort is
null stands in no group: it is dropped from the aggregation. Cohorts are told apart by value
equality, so the groups partition the rows where that equality is an equivalence among the
cohorts of the column (`CohortsCompare`). It is one among nulls, integers, texts and doubles
that are not NaN, where it is the equality of a key: the text, or the exact value of the
number (`equal_iff_plainKey`). A cohort that is a list or a mapping fails the aggregation.
-/

namespace Dashwright.Query

/-- Whether a cell holds a cohort: every cell but a null one. -/
def holdsCohort : Cell → Bool
  | .null => false
  | _ => true

/-- The rows of a column whose cell holds a cohort. -/
def heldRows (cells : List Cell) : List Nat :=
  (List.range cells.length).filter fun r => holdsCohort (cells.getD r .null)

/-- Value equality among the cohorts of a column is an equivalence. -/
structure CohortsCompare (cells : List Cell) : Prop where
  refl : ∀ c ∈ cells, holdsCohort c = true → Value.equal (cellKey c) (cellKey c) = true
  symm : ∀ c ∈ cells, ∀ d ∈ cells, Value.equal (cellKey c) (cellKey d) = Value.equal (cellKey d) (cellKey c)
  trans : ∀ c ∈ cells, ∀ d ∈ cells, ∀ e ∈ cells, Value.equal (cellKey c) (cellKey d) = true →
    Value.equal (cellKey d) (cellKey e) = true → Value.equal (cellKey c) (cellKey e) = true

/-- Groups of rows that partition the rows holding a cohort: together they hold each such row
once, each in row order, each row with the cohort of its group, and no two groups with equal
cohorts. -/
structure Partitions (cells : List Cell) (groups : List (Cell × List Nat)) : Prop where
  covers : (groups.flatMap Prod.snd).Perm (heldRows cells)
  ordered : ∀ g ∈ groups, g.2.Pairwise (· < ·)
  agrees : ∀ g ∈ groups, ∀ r ∈ g.2, Value.equal (cellKey (cells.getD r .null)) (cellKey g.1) = true
  distinct : groups.Pairwise fun g h => Value.equal (cellKey g.1) (cellKey h.1) = false

section Rows

theorem mem_heldRows {cells : List Cell} {r : Nat} :
    r ∈ heldRows cells ↔ r < cells.length ∧ holdsCohort (cells.getD r .null) = true := by
  simp [heldRows]

theorem heldRows_nodup (cells : List Cell) : (heldRows cells).Nodup :=
  List.nodup_range.filter _

theorem mem_cohortRows {cells : List Cell} {c : Cell} {r : Nat} :
    (c, r) ∈ cohortRows cells ↔ cells[r]? = some c ∧ holdsCohort c = true := by
  unfold cohortRows
  rw [List.mem_filterMap]
  constructor
  · rintro ⟨⟨cell, row⟩, member, kept⟩
    rw [List.mem_zipIdx_iff_getElem?] at member
    cases cell <;> simp only [Option.some.injEq, Prod.mk.injEq, reduceCtorEq] at kept <;>
      obtain ⟨rfl, rfl⟩ := kept <;> exact ⟨member, rfl⟩
  · rintro ⟨found, holds⟩
    refine ⟨(c, r), List.mem_zipIdx_iff_getElem?.mpr found, ?_⟩
    cases c with
    | null => cases holds
    | _ => rfl

theorem cohortRows_rows (cells : List Cell) :
    List.Sublist ((cohortRows cells).map Prod.snd) (List.range cells.length) := by
  have positions : cells.zipIdx.map Prod.snd = List.range cells.length := by
    rw [List.zipIdx_map_snd, List.range_eq_range']
  unfold cohortRows
  rw [← positions]
  generalize cells.zipIdx = l
  -- each row is kept with its own position, or dropped
  induction l with
  | nil => exact List.Sublist.slnil
  | cons p rest ih =>
    obtain ⟨cell, row⟩ := p
    cases cell <;> simp only [List.filterMap_cons, List.map_cons] <;>
      first | exact ih.cons _ | exact ih.cons_cons _

theorem cohortRows_ordered (cells : List Cell) : ((cohortRows cells).map Prod.snd).Pairwise (· < ·) :=
  (List.pairwise_lt_range : (List.range cells.length).Pairwise (· < ·)).sublist (cohortRows_rows cells)

end Rows

section Keys

def Unequal (k c : Cell) : Prop := Value.equal (cellKey k) (cellKey c) = false

variable {keys : List Cell} {row : Cell × Nat}

theorem mem_addCohort {k : Cell} : k ∈ addCohort keys row ↔ k ∈ keys ∨
    (keys.all (fun j => !Value.equal (cellKey j) (cellKey row.1)) ∧ k = row.1) := by
  unfold addCohort
  by_cases seen : keys.any (fun j => Value.equal (cellKey j) (cellKey row.1)) = true
  · have notAll : keys.all (fun j => !Value.equal (cellKey j) (cellKey row.1)) = false := by
      simpa [List.all_eq_false] using seen
    simp [seen, notAll]
  · have all : keys.all (fun j => !Value.equal (cellKey j) (cellKey row.1)) = true := by
      simpa [List.all_eq_true] using seen
    simp [seen, all]

theorem addCohort_unequal (apart : keys.Pairwise Unequal) : (addCohort keys row).Pairwise Unequal := by
  unfold addCohort
  split
  · exact apart
  · next unseen =>
    -- the new cohort is unequal to every one before it
    refine List.pairwise_append.mpr ⟨apart, List.pairwise_singleton _ _, ?_⟩
    intro k member c added
    rw [List.mem_singleton] at added
    subst added
    simpa [Unequal] using fun same => unseen (List.any_eq_true.mpr ⟨k, member, same⟩)

theorem addCohort_covers (itself : Value.equal (cellKey row.1) (cellKey row.1) = true) :
    ∃ k ∈ addCohort keys row, Value.equal (cellKey k) (cellKey row.1) = true := by
  unfold addCohort
  split
  · next seen => exact List.any_eq_true.mp seen
  · exact ⟨row.1, List.mem_append_right _ List.mem_cons_self, itself⟩

theorem foldl_addCohort_keeps (rest : List (Cell × Nat)) {k : Cell} (member : k ∈ keys) :
    k ∈ rest.foldl addCohort keys := by
  induction rest generalizing keys with
  | nil => exact member
  | cons p rest ih => exact ih (mem_addCohort.mpr (.inl member))

theorem mem_foldl_addCohort (rest : List (Cell × Nat)) {k : Cell} (member : k ∈ rest.foldl addCohort keys) :
    k ∈ keys ∨ ∃ p ∈ rest, k = p.1 := by
  induction rest generalizing keys with
  | nil => exact .inl member
  | cons p rest ih =>
    rcases ih member with earlier | ⟨q, later, same⟩
    · rcases mem_addCohort.mp earlier with before | ⟨-, same⟩
      · exact .inl before
      · exact .inr ⟨p, List.mem_cons_self, same⟩
    · exact .inr ⟨q, List.mem_cons_of_mem p later, same⟩

theorem foldl_addCohort_unequal (rest : List (Cell × Nat)) (apart : keys.Pairwise Unequal) :
    (rest.foldl addCohort keys).Pairwise Unequal := by
  induction rest generalizing keys with
  | nil => exact apart
  | cons p rest ih => exact ih (addCohort_unequal apart)

theorem foldl_addCohort_covers (rest : List (Cell × Nat))
    (itself : ∀ p ∈ rest, Value.equal (cellKey p.1) (cellKey p.1) = true) :
    ∀ p ∈ rest, ∃ k ∈ rest.foldl addCohort keys, Value.equal (cellKey k) (cellKey p.1) = true := by
  induction rest generalizing keys with
  | nil => intro p member; cases member
  | cons q rest ih =>
    intro p member
    rcases List.mem_cons.mp member with rfl | later
    · -- the first row's cohort is kept by the rest of the run
      obtain ⟨k, kept, same⟩ := @addCohort_covers keys p (itself p List.mem_cons_self)
      exact ⟨k, foldl_addCohort_keeps rest kept, same⟩
    · exact ih (fun x inside => itself x (List.mem_cons_of_mem q inside)) p later

theorem mem_firstCohorts {keyed : List (Cell × Nat)} {k : Cell} (member : k ∈ firstCohorts keyed) :
    ∃ p ∈ keyed, k = p.1 :=
  (mem_foldl_addCohort keyed member).resolve_left (fun nothing => by cases nothing)

theorem firstCohorts_unequal (keyed : List (Cell × Nat)) : (firstCohorts keyed).Pairwise Unequal :=
  foldl_addCohort_unequal keyed List.Pairwise.nil

theorem firstCohorts_covers {keyed : List (Cell × Nat)}
    (itself : ∀ p ∈ keyed, Value.equal (cellKey p.1) (cellKey p.1) = true) :
    ∀ p ∈ keyed, ∃ k ∈ firstCohorts keyed, Value.equal (cellKey k) (cellKey p.1) = true :=
  foldl_addCohort_covers keyed itself

theorem sortComparable_perm (ks : List Cell) : (sortComparable ks).Perm ks := by
  unfold sortComparable
  split
  · next sorted => simpa [Function.comp_def] using Value.sortByKeys_perm sorted
  · exact List.Perm.refl ks

theorem sortCohorts_perm (keys : List Cell) : (sortCohorts keys).Perm keys := by
  unfold sortCohorts
  split
  · next sorted => simpa [Function.comp_def] using Value.sortByKeys_perm sorted
  · -- cohorts that do not compare: those that are not texts, then the texts, each sorted
    have parts := (sortComparable_perm (keys.filter (!isTextCell ·))).append
      (sortComparable_perm (keys.filter isTextCell))
    exact (parts.trans List.perm_append_comm).trans (List.filter_append_perm isTextCell keys)

end Keys

section Groups

theorem mem_rowsOfCohort {keyed : List (Cell × Nat)} {k : Cell} {r : Nat} :
    r ∈ rowsOfCohort keyed k ↔ ∃ c, (c, r) ∈ keyed ∧ Value.equal (cellKey c) (cellKey k) = true := by
  unfold rowsOfCohort
  rw [List.mem_filterMap]
  constructor
  · rintro ⟨⟨c, row⟩, member, kept⟩
    by_cases same : Value.equal (cellKey c) (cellKey k) = true
    · simp only [same, if_true, Option.some.injEq] at kept
      subst kept
      exact ⟨c, member, same⟩
    · simp [same] at kept
  · rintro ⟨c, member, same⟩
    exact ⟨(c, r), member, by simp [same]⟩

theorem rowsOfCohort_sublist (keyed : List (Cell × Nat)) (k : Cell) :
    List.Sublist (rowsOfCohort keyed k) (keyed.map Prod.snd) := by
  unfold rowsOfCohort
  induction keyed with
  | nil => exact List.Sublist.slnil
  | cons p rest ih =>
    obtain ⟨c, row⟩ := p
    by_cases same : Value.equal (cellKey c) (cellKey k) = true
    · simpa [same] using ih.cons_cons row
    · simpa [same] using ih.cons row

variable {cells : List Cell}

theorem cell_of_cohortRows {c : Cell} {r : Nat} (member : (c, r) ∈ cohortRows cells) :
    c ∈ cells ∧ cells.getD r .null = c ∧ holdsCohort c = true := by
  obtain ⟨found, holds⟩ := mem_cohortRows.mp member
  exact ⟨List.mem_of_getElem? found, by simp [List.getD_eq_getElem?_getD, found], holds⟩

theorem groupKey_cohort {k : Cell} (member : k ∈ sortCohorts (firstCohorts (cohortRows cells))) :
    ∃ r, (k, r) ∈ cohortRows cells := by
  obtain ⟨⟨c, r⟩, row, same⟩ := mem_firstCohorts ((sortCohorts_perm _).subset member)
  exact ⟨r, same ▸ row⟩

theorem groupKeys_apart (compare : CohortsCompare cells) :
    (sortCohorts (firstCohorts (cohortRows cells))).Pairwise fun a b => Unequal a b ∧ Unequal b a := by
  have inColumn : ∀ k ∈ firstCohorts (cohortRows cells), k ∈ cells := by
    intro k member
    obtain ⟨⟨c, r⟩, row, same⟩ := mem_firstCohorts member
    exact same ▸ (cell_of_cohortRows row).1
  have found : (firstCohorts (cohortRows cells)).Pairwise fun a b => Unequal a b ∧ Unequal b a :=
    (firstCohorts_unequal _).imp_of_mem fun {a b} memberA memberB apart =>
      ⟨apart, (compare.symm b (inColumn b memberB) a (inColumn a memberA)).trans apart⟩
  exact ((sortCohorts_perm _).pairwise_iff fun apart => ⟨apart.2, apart.1⟩).mpr found

theorem rowsOfCohort_disjoint (compare : CohortsCompare cells) {a b : Cell}
    (keyA : ∃ r, (a, r) ∈ cohortRows cells) (keyB : ∃ r, (b, r) ∈ cohortRows cells) (apart : Unequal a b) :
    List.Disjoint (rowsOfCohort (cohortRows cells) a) (rowsOfCohort (cohortRows cells) b) := by
  intro r inA inB
  obtain ⟨c, rowA, sameA⟩ := mem_rowsOfCohort.mp inA
  obtain ⟨d, rowB, sameB⟩ := mem_rowsOfCohort.mp inB
  obtain ⟨cIn, cAt, -⟩ := cell_of_cohortRows rowA
  obtain ⟨dIn, dAt, -⟩ := cell_of_cohortRows rowB
  -- both rows are row `r`, so they hold the same cohort
  have same : c = d := cAt.symm.trans dAt
  subst same
  obtain ⟨ra, inColumnA⟩ := keyA
  obtain ⟨rb, inColumnB⟩ := keyB
  have aIn := (cell_of_cohortRows inColumnA).1
  have bIn := (cell_of_cohortRows inColumnB).1
  have backA : Value.equal (cellKey a) (cellKey c) = true := (compare.symm a aIn c cIn).trans sameA
  have joined := compare.trans a aIn c cIn b bIn backA sameB
  rw [apart] at joined
  cases joined

theorem heldRow_grouped (compare : CohortsCompare cells) {r : Nat} (held : r ∈ heldRows cells) :
    ∃ k ∈ sortCohorts (firstCohorts (cohortRows cells)), r ∈ rowsOfCohort (cohortRows cells) k := by
  obtain ⟨bound, holds⟩ := mem_heldRows.mp held
  have row : (cells.getD r .null, r) ∈ cohortRows cells :=
    mem_cohortRows.mpr ⟨by simp [List.getD_eq_getElem?_getD, bound], holds⟩
  have reflexive : ∀ p ∈ cohortRows cells, Value.equal (cellKey p.1) (cellKey p.1) = true := by
    intro p member
    obtain ⟨inColumn, -, holdsP⟩ := cell_of_cohortRows member
    exact compare.refl p.1 inColumn holdsP
  obtain ⟨k, first, same⟩ := firstCohorts_covers reflexive _ row
  have kIn : k ∈ cells := by
    obtain ⟨⟨c, rk⟩, rowK, isK⟩ := mem_firstCohorts first
    exact isK ▸ (cell_of_cohortRows rowK).1
  have cIn := (cell_of_cohortRows row).1
  refine ⟨k, (sortCohorts_perm _).symm.subset first, mem_rowsOfCohort.mpr ⟨_, row, ?_⟩⟩
  exact (compare.symm _ cIn k kIn).trans same

/-- The groups of a column's cohorts partition the rows that hold a cohort. -/
theorem cohortGroups_partitions (compare : CohortsCompare cells) : Partitions cells (cohortGroups cells) := by
  have apart := groupKeys_apart compare
  have rowsNodup : ∀ k, (rowsOfCohort (cohortRows cells) k).Nodup := fun k =>
    ((cohortRows_ordered cells).sublist (rowsOfCohort_sublist _ k)).imp Nat.ne_of_lt
  unfold cohortGroups
  refine ⟨?covers, ?ordered, ?agrees, ?distinct⟩
  case covers =>
    rw [List.flatMap_map]
    have disjoint : (sortCohorts (firstCohorts (cohortRows cells))).Pairwise fun a b =>
        List.Disjoint (rowsOfCohort (cohortRows cells) a) (rowsOfCohort (cohortRows cells) b) :=
      apart.imp_of_mem fun memberA memberB keys =>
        rowsOfCohort_disjoint compare (groupKey_cohort memberA) (groupKey_cohort memberB) keys.1
    refine (List.perm_ext_iff_of_nodup (List.nodup_flatMap.mpr ⟨fun k _ => rowsNodup k, disjoint⟩)
      (heldRows_nodup cells)).mpr fun r => ⟨fun grouped => ?_, fun held => ?_⟩
    · obtain ⟨k, -, inGroup⟩ := List.mem_flatMap.mp grouped
      obtain ⟨c, row, -⟩ := mem_rowsOfCohort.mp inGroup
      obtain ⟨found, holds⟩ := mem_cohortRows.mp row
      exact mem_heldRows.mpr ⟨(List.getElem?_eq_some_iff.mp found).1,
        by simp [List.getD_eq_getElem?_getD, found, holds]⟩
    · obtain ⟨k, key, inGroup⟩ := heldRow_grouped compare held
      exact List.mem_flatMap.mpr ⟨k, key, inGroup⟩
  case ordered =>
    intro g member
    obtain ⟨k, -, rfl⟩ := List.mem_map.mp member
    exact (cohortRows_ordered cells).sublist (rowsOfCohort_sublist _ k)
  case agrees =>
    intro g member r inGroup
    obtain ⟨k, -, rfl⟩ := List.mem_map.mp member
    obtain ⟨c, row, same⟩ := mem_rowsOfCohort.mp inGroup
    rw [(cell_of_cohortRows row).2.1]
    exact same
  case distinct =>
    exact List.pairwise_map.mpr (apart.imp fun keys => keys.1)

end Groups

/-- What value equality tells plain cohorts apart by: a null, a text, or a number read as whether
it is infinite and its exact value. -/
inductive PlainKey where
  | null
  | text (s : String)
  | number (infinite : Bool) (value : ℚ)

/-- Whether a cell is a null, an integer, a double that is not NaN, or a text. -/
def isPlainCohort : Cell → Bool
  | .null | .int _ | .text _ => true
  | .float f => !f.isNaN
  | _ => false

def plainKey : Cell → PlainKey
  | .int i => .number false i
  | .float f => .number f.isInf (Number.Binary.ofFloat f).value
  | .text s => .text s
  | _ => .null

theorem equal_iff_plainKey {c d : Cell} (plainC : isPlainCohort c = true) (plainD : isPlainCohort d = true) :
    Value.equal (cellKey c) (cellKey d) = true ↔ plainKey c = plainKey d := by
  -- a null, a text and a number are never equal to one another
  cases c <;> cases d
  all_goals simp only [isPlainCohort, Bool.not_eq_true', Bool.false_eq_true] at plainC plainD
  all_goals first
    | simp [Value.equal, cellKey, plainKey]; done
    | skip
  case int.float a g =>
    have notNaN : ¬ g = Float.nan := by simpa using plainD
    simp [Value.equal, cellKey, plainKey, Value.Numeric.equal, notNaN, Number.compareIntFloat_eq_iff]
  case float.int f b =>
    have notNaN : ¬ f = Float.nan := by simpa using plainC
    simp [Value.equal, cellKey, plainKey, Value.Numeric.equal, notNaN, Number.compareIntFloat_eq_iff]
    exact fun _ => eq_comm
  case float.float f g => simpa [Value.equal, cellKey, plainKey] using Number.beq_iff_value plainC plainD

theorem CohortsCompare.of_plain {cells : List Cell} (plain : cells.all isPlainCohort = true) :
    CohortsCompare cells := by
  have key : ∀ c ∈ cells, ∀ d ∈ cells, Value.equal (cellKey c) (cellKey d) = true ↔ plainKey c = plainKey d :=
    fun c memberC d memberD =>
      equal_iff_plainKey (List.all_eq_true.mp plain c memberC) (List.all_eq_true.mp plain d memberD)
  refine ⟨fun c member _ => (key c member c member).mpr rfl, ?_, ?_⟩
  · intro c memberC d memberD
    rw [Bool.eq_iff_iff, key c memberC d memberD, key d memberD c memberC, eq_comm]
  · intro c memberC d memberD e memberE same next
    rw [key c memberC d memberD] at same
    rw [key d memberD e memberE] at next
    exact (key c memberC e memberE).mpr (same.trans next)

theorem unhashableCohort_plain {cells : List Cell} (plain : cells.all isPlainCohort = true) :
    unhashableCohort cells = none := by
  unfold unhashableCohort
  rw [List.findSome?_eq_none_iff]
  intro c member
  have held := List.all_eq_true.mp plain c member
  cases c <;> simp_all [isPlainCohort]

/-- Aggregating a table with a cohort column writes, for each cohort in sorted order, the values
of every other column in the rows of that cohort. Those rows are exactly the rows whose cohort is
not null, each in one cohort, in row order: a row whose cohort is null is dropped. The text is
written unless one of its texts holds a lone surrogate. -/
theorem aggregateByCohort_partitions (columns : List Column) (cohort : Column)
    (found : cohortColumn columns = some cohort) (plain : cohort.cells.all isPlainCohort = true) :
    Partitions cohort.cells (cohortGroups cohort.cells) ∧
      ∀ s, aggregateByCohort columns = .ok s ↔
        firstUnencodable (writtenTexts (otherColumns columns) (cohortGroups cohort.cells)) = none ∧
          s = "\x7b" ++ ",".intercalate ((cohortGroups cohort.cells).map (cohortJson (otherColumns columns))) ++
            "\x7d" := by
  refine ⟨cohortGroups_partitions (CohortsCompare.of_plain plain), fun s => ?_⟩
  unfold aggregateByCohort
  rw [found]
  simp only [pure_bind, unhashableCohort_plain plain]
  cases firstUnencodable (writtenTexts (otherColumns columns) (cohortGroups cohort.cells)) with
  | none =>
    constructor
    · intro written
      injection written with same
      exact ⟨rfl, same.symm⟩
    · rintro ⟨-, rfl⟩
      rfl
  | some failure =>
    constructor
    · intro written
      cases written
    · rintro ⟨none, -⟩
      cases none

/-- A table whose cohorts are texts and a number, one of them missing, is grouped into a
partition. -/
theorem aggregateByCohort_partitions_plain :
    ∃ cohort, cohortColumn [⟨.str "cohort_on", .mixed, [.text "a", .null, .int 1, .text "a"]⟩,
        ⟨.str "x", .mixed, [.text "p", .text "q", .text "r", .text "s"]⟩] = some cohort ∧
      cohort.cells.all isPlainCohort = true ∧ Partitions cohort.cells (cohortGroups cohort.cells) := by
  have present : (cohortColumn [⟨.str "cohort_on", .mixed, [.text "a", .null, .int 1, .text "a"]⟩,
      ⟨.str "x", .mixed, [.text "p", .text "q", .text "r", .text "s"]⟩]).isSome = true := by
    decide +kernel
  have plain : (cohortColumn [⟨.str "cohort_on", .mixed, [.text "a", .null, .int 1, .text "a"]⟩,
      ⟨.str "x", .mixed, [.text "p", .text "q", .text "r", .text "s"]⟩]).all
        (fun c => c.cells.all isPlainCohort) = true := by
    decide +kernel
  obtain ⟨cohort, found⟩ := Option.isSome_iff_exists.mp present
  rw [found] at plain
  exact ⟨cohort, found, plain, (aggregateByCohort_partitions _ _ found plain).1⟩

theorem aggregateByCohort_unhashable {columns : List Column} {cohort : Column} {v : Value}
    (found : cohortColumn columns = some cohort) (first : unhashableCohort cohort.cells = some v) :
    aggregateByCohort columns = .error (Value.unhashable v) := by
  unfold aggregateByCohort
  rw [found]
  simp only [pure_bind, first]
  rfl

example :
    aggregateJson "[\x7b\"cohort_on\": [1], \"x\": 1\x7d]" = .error (Failure.wrongType "unhashable type: 'list'") := by
  decide +kernel

/-- A row whose cohort is null is dropped: only the row of cohort `a` is written. -/
theorem nullCohort_row_dropped :
    aggregateJson "[\x7b\"cohort_on\": null, \"x\": \"p\"\x7d, \x7b\"cohort_on\": \"a\", \"x\": \"q\"\x7d]" =
      .ok "\x7b\"a\":\x7b\"x\":[\"q\"]\x7d\x7d" := by
  decide +kernel

end Dashwright.Query
