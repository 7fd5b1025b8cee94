import Dashwright.Query.Tokenizer
import Dashwright.Proofs.Loops
import Dashwright.Proofs.Text.Split

/-! The statements a trace's query groups by.

A tokenized trace groups by its candidate statements (the select items, the order terms read
without their directions, and the cohort) less whole quoted literals and aggregates, each once,
and by nothing at all when none is left. An order term is read in lower case with every `asc`
and `desc` in it removed and its ends trimmed. For a term whose body holds neither word, that
removes the direction at its end and keeps the rest as written, a `nulls first` or `nulls last`
clause included. -/

namespace Dashwright.Query

open Text

theorem mem_foldl_distinct (acc xs : List String) (s : String) :
    s ∈ xs.foldl (fun acc x => if acc.contains x then acc else acc ++ [x]) acc ↔ s ∈ acc ∨ s ∈ xs := by
  induction xs generalizing acc with
  | nil => simp
  | cons x rest ih =>
    rw [List.foldl_cons, ih]
    by_cases seen : acc.contains x = true
    · have member : x ∈ acc := by simpa using seen
      simp only [seen, if_true, List.mem_cons]
      constructor
      · rintro (inAcc | inRest)
        · exact .inl inAcc
        · exact .inr (.inr inRest)
      · rintro (inAcc | rfl | inRest)
        · exact .inl inAcc
        · exact .inl member
        · exact .inr inRest
    · simp only [seen, Bool.false_eq_true, if_false, List.mem_append, List.mem_cons,
        List.not_mem_nil, or_false, or_assoc]

theorem nodup_foldl_distinct (acc xs : List String) (distinct : acc.Nodup) :
    (xs.foldl (fun acc x => if acc.contains x then acc else acc ++ [x]) acc).Nodup := by
  induction xs generalizing acc with
  | nil => exact distinct
  | cons x rest ih =>
    rw [List.foldl_cons]
    apply ih
    by_cases seen : acc.contains x = true
    · simpa only [seen, if_true] using distinct
    · have fresh : x ∉ acc := by simpa using seen
      simp only [seen, Bool.false_eq_true, if_false]
      refine List.nodup_append.mpr ⟨distinct, by simp, fun a inAcc y inX same => ?_⟩
      rw [List.mem_singleton] at inX
      exact fresh (inX ▸ same ▸ inAcc)

theorem insertText_perm (x : String) (l : List String) : (insertText x l).Perm (x :: l) := by
  induction l with
  | nil => exact .refl _
  | cons y ys ih =>
    unfold insertText
    split
    · exact .refl _
    · exact (ih.cons y).trans (.swap x y ys)

theorem foldr_insertText_perm (l : List String) : (l.foldr insertText []).Perm l := by
  induction l with
  | nil => exact .refl _
  | cons x xs ih => exact (insertText_perm x _).trans (ih.cons x)

@[simp] theorem mem_distinctSorted (xs : List String) (s : String) : s ∈ distinctSorted xs ↔ s ∈ xs := by
  rw [distinctSorted, (foldr_insertText_perm _).mem_iff, mem_foldl_distinct]
  simp

theorem nodup_distinctSorted (xs : List String) : (distinctSorted xs).Nodup :=
  (foldr_insertText_perm _).nodup_iff.mpr (nodup_foldl_distinct [] xs List.nodup_nil)

/-- A statement kept for grouping: neither a whole quoted literal nor an aggregate. -/
def Groupable (d : Dialect) (s : String) : Prop :=
  isQuotedLiteral s = false ∧ classify d s ≠ .aggregate

instance (d : Dialect) (s : String) : Decidable (Groupable d s) :=
  inferInstanceAs (Decidable (isQuotedLiteral s = false ∧ classify d s ≠ .aggregate))

theorem foldl_keep (p : String → Prop) [DecidablePred p] (acc xs : List String) :
    xs.foldl (fun kept s => if p s then kept ++ [s] else kept) acc = acc ++ xs.filter (fun s => decide (p s)) := by
  induction xs generalizing acc with
  | nil => simp
  | cons x rest ih =>
    rw [List.foldl_cons, ih]
    by_cases keep : p x <;> simp [keep]

theorem groupStatements_eq {name : String} {d : Dialect} (known : dialectOf name = .ok d)
    (candidates : List String) :
    groupStatements name candidates =
      .ok (let kept := candidates.filter (fun s => decide (Groupable d s))
           if kept.isEmpty then none else some (distinctSorted kept)) := by
  unfold groupStatements
  dsimp only
  rw [forIn_yield (fun kept s => if Groupable d s then kept ++ [s] else kept)]
  · rw [foldl_keep, List.nil_append]
    rfl
  · intro s _ kept
    by_cases literal : isQuotedLiteral s = true
    · have not_groupable : ¬ Groupable d s := fun groups => by simp [groups.1] at literal
      simp only [literal, if_true, not_groupable, if_false]
    · simp only [literal, Bool.false_eq_true, if_false, known, bind, Except.bind]
      cases kind : classify d s with
      | aggregate =>
        have not_groupable : ¬ Groupable d s := fun groups => groups.2 kind
        simp only [not_groupable, if_false]
      | window | vanilla =>
        have groupable : Groupable d s := ⟨by simpa using literal, by rw [kind]; decide⟩
        simp only [groupable, if_true]

/-- The statements a tokenized trace groups by come from the grouping pass over its own select
items, order terms without their directions, and cohort, in the dialect it was asked for. -/
theorem tokenize_groups {trace modelSql targetName dialect : Value} {tt : TokenizedTrace}
    {warnings : List String} (ok : tokenize trace modelSql targetName dialect = .ok (tt, warnings)) :
    ∃ name, textField "Dialect" "type" dialect = .ok name ∧
      groupStatements name (tt.selectItems.map Prod.snd ++ (tt.orderBy.getD []).map withoutDirection ++
        [tt.cohortOn]) = .ok tt.groupBy := by
  unfold tokenize at ok
  obtain ⟨name, named, ok⟩ := bind_eq_ok ok
  obtain ⟨items, itemized, ok⟩ := bind_eq_ok ok
  obtain ⟨order, ordered, ok⟩ := bind_eq_ok ok
  obtain ⟨cohort, cohorted, ok⟩ := bind_eq_ok ok
  obtain ⟨group, grouped, ok⟩ := bind_eq_ok ok
  obtain ⟨⟨filters, warnings'⟩, _, ok⟩ := bind_eq_ok ok
  obtain ⟨cohort', cohorted', ok⟩ := bind_eq_ok ok
  obtain ⟨sql, _, ok⟩ := bind_eq_ok ok
  obtain ⟨target, _, ok⟩ := bind_eq_ok ok
  -- the cohort is read twice, the same both times
  rw [cohorted] at cohorted'
  cases cohorted'
  cases ok
  exact ⟨name, named, grouped⟩

/-- The direction words an order term may end in, or none. -/
def directionWords : List String := ["", "asc", "desc"]

/-- The clauses that may follow a direction, or none. -/
def nullsClauses : List String := ["", " nulls first", " nulls last"]

/-- An order term read in lower case as a body holding neither direction word, a direction
word or none, and a nulls clause or none. -/
structure OrderTermParts (e b n : String) : Prop where
  split : ∃ dir ∈ directionWords, Text.lower e = b ++ dir ++ n
  nulls : n ∈ nullsClauses
  noAsc : ¬ "asc".toList <:+: b.toList
  noDesc : ¬ "desc".toList <:+: b.toList

theorem nullsClause_facts : ∀ n ∈ nullsClauses,
    (¬ "asc".toList <:+: n.toList ∧ ¬ "desc".toList <:+: n.toList) ∧
    (Unmatched "asc".toList n.toList ∧ Unmatched "desc".toList n.toList) ∧
    (Unmatched "asc".toList ("asc" ++ n).toList ∧ Unmatched "desc".toList ("desc" ++ n).toList) ∧
    (¬ "asc".toList <:+: ("desc" ++ n).toList ∧ Unmatched "asc".toList ("desc" ++ n).toList) := by
  decide +kernel

theorem replaceAll_body_tail {b t w : String} (absent_b : ¬ w.toList <:+: b.toList)
    (absent_t : ¬ w.toList <:+: t.toList) (unmatched : Unmatched w.toList t.toList) :
    replaceAll (b ++ t) w "" = b ++ t := by
  apply replaceAll_of_absent
  rw [String.toList_append]
  exact absent_append absent_b absent_t unmatched

theorem replaceAll_between {b w t : String} (nonempty : w ≠ "") (absent_b : ¬ w.toList <:+: b.toList)
    (absent_t : ¬ w.toList <:+: t.toList) (unmatched : Unmatched w.toList (w ++ t).toList) :
    replaceAll (b ++ w ++ t) w "" = b ++ t := by
  rw [replaceAll_at_first "" nonempty (startsNowhereIn_of_absent absent_b
    (by rwa [String.toList_append] at unmatched)) absent_t, String.append_empty]

section Directions

variable {b n : String} (noAsc : ¬ "asc".toList <:+: b.toList) (noDesc : ¬ "desc".toList <:+: b.toList)
  (nulls : n ∈ nullsClauses)
include noAsc noDesc nulls

theorem removeDirections_none :
    replaceAll (replaceAll (b ++ n) "asc" "") "desc" "" = b ++ n := by
  obtain ⟨⟨ascInN, descInN⟩, ⟨ascAfter, descAfter⟩, -⟩ := nullsClause_facts n nulls
  rw [replaceAll_body_tail noAsc ascInN ascAfter, replaceAll_body_tail noDesc descInN descAfter]

theorem removeDirections_asc :
    replaceAll (replaceAll (b ++ "asc" ++ n) "asc" "") "desc" "" = b ++ n := by
  obtain ⟨⟨ascInN, descInN⟩, ⟨-, descAfter⟩, ⟨ascAfterAsc, -⟩, -⟩ := nullsClause_facts n nulls
  rw [replaceAll_between (by decide) noAsc ascInN ascAfterAsc,
    replaceAll_body_tail noDesc descInN descAfter]

theorem removeDirections_desc :
    replaceAll (replaceAll (b ++ "desc" ++ n) "asc" "") "desc" "" = b ++ n := by
  obtain ⟨⟨-, descInN⟩, -, ⟨-, descAfterDesc⟩, ⟨ascInDesc, ascAfterDesc⟩⟩ := nullsClause_facts n nulls
  rw [String.append_assoc, replaceAll_body_tail noAsc ascInDesc ascAfterDesc, ← String.append_assoc,
    replaceAll_between (by decide) noDesc descInN descAfterDesc]

end Directions

theorem withoutDirection_parts {e b n : String} (parts : OrderTermParts e b n) :
    withoutDirection e = Text.strip (b ++ n) := by
  obtain ⟨dir, word, split⟩ := parts.split
  unfold withoutDirection
  rw [split]
  simp only [directionWords, List.mem_cons, List.not_mem_nil, or_false] at word
  rcases word with rfl | rfl | rfl
  · rw [String.append_empty, removeDirections_none parts.noAsc parts.noDesc parts.nulls]
  · rw [removeDirections_asc parts.noAsc parts.noDesc parts.nulls]
  · rw [removeDirections_desc parts.noAsc parts.noDesc parts.nulls]

/-- A statement a tokenized trace groups by: one of its select items, one of its order terms
read without its direction, or its cohort, and kept for grouping. -/
def GroupsBy (d : Dialect) (tt : TokenizedTrace) (s : String) : Prop :=
  (s ∈ tt.selectItems.map Prod.snd ∨
    (∃ e ∈ tt.orderBy.getD [], ∃ b n, OrderTermParts e b n ∧ s = Text.strip (b ++ n)) ∨
    s = tt.cohortOn) ∧
  Groupable d s

theorem mem_withoutDirection_iff {terms : List String} (directed : ∀ e ∈ terms, ∃ b n, OrderTermParts e b n)
    (s : String) :
    s ∈ terms.map withoutDirection ↔ ∃ e ∈ terms, ∃ b n, OrderTermParts e b n ∧ s = Text.strip (b ++ n) := by
  rw [List.mem_map]
  constructor
  · rintro ⟨e, member, rfl⟩
    obtain ⟨b, n, parts⟩ := directed e member
    exact ⟨e, member, b, n, parts, withoutDirection_parts parts⟩
  · rintro ⟨e, member, b, n, parts, rfl⟩
    exact ⟨e, member, withoutDirection_parts parts⟩

/-- When every order term of a tokenized trace reads as a body free of direction words, a
direction and a nulls clause, the trace groups by exactly the statements `GroupsBy` names,
each once, and by nothing when there are none. -/
theorem groupBy_of_tokenize {trace modelSql targetName : Value} {name : String} {d : Dialect}
    {tt : TokenizedTrace} {warnings : List String} (known : dialectOf name = .ok d)
    (ok : tokenize trace modelSql targetName (.str name) = .ok (tt, warnings))
    (directed : ∀ e ∈ tt.orderBy.getD [], ∃ b n, OrderTermParts e b n) :
    (∀ s, s ∈ tt.groupBy.getD [] ↔ GroupsBy d tt s) ∧
      (tt.groupBy = none ↔ ∀ s, ¬ GroupsBy d tt s) ∧ (tt.groupBy.getD []).Nodup := by
  obtain ⟨name', named, grouped⟩ := tokenize_groups ok
  -- the dialect is named by a text, read as it is
  cases named
  rw [groupStatements_eq known] at grouped
  have result := Except.ok.inj grouped
  generalize keptDef : List.filter (fun s => decide (Groupable d s)) _ = kept at result
  have member (s : String) : s ∈ kept ↔ GroupsBy d tt s := by
    rw [← keptDef, List.mem_filter, List.mem_append, List.mem_append, List.mem_singleton,
      mem_withoutDirection_iff directed, decide_eq_true_iff, GroupsBy, or_assoc]
  cases empty : kept.isEmpty
  · -- something is kept: the trace groups by its distinct texts
    simp only [empty, Bool.false_eq_true, if_false] at result
    rw [← result]
    refine ⟨fun s => by rw [Option.getD_some, mem_distinctSorted, member], ⟨fun absent => (by cases absent),
      fun nothing => ?_⟩, nodup_distinctSorted kept⟩
    obtain ⟨s, kept_s⟩ := List.exists_mem_of_ne_nil kept (by simpa using empty)
    exact absurd ((member s).mp kept_s) (nothing s)
  · -- nothing is kept: the trace does not group
    simp only [empty, if_true] at result
    rw [← result]
    have nothing (s : String) : ¬ GroupsBy d tt s := fun groups =>
      by simp [List.isEmpty_iff.mp empty] at member; exact member s groups
    exact ⟨fun s => by simp [nothing s], ⟨fun _ => nothing, fun _ => rfl⟩, List.nodup_nil⟩

/-- A trace ordered by two terms with a direction each, one of them an aggregate. -/
def orderedTrace : Value :=
  .record [("name", .str "query_trace"), ("cohort_on", .str "query(widget)"),
    ("props", .record [("type", .str "scatter"), ("x", .str "query( date_trunc('week', completed_at) )"),
      ("y", .str "query( sum(amount) )")]),
    ("order_by", .list [.str "query( a_different_column desc)", .str "query( count(amount) desc )"])]

/-- The tokens of `orderedTrace` on Snowflake. -/
def orderedTokens : TokenizedTrace where
  sql := "SELECT * FROM widget_sales"
  cohortOn := "widget"
  target := "t"
  groupBy := some ["a_different_column", "date_trunc('week', completed_at)", "widget"]
  selectItems := [("props.x", "date_trunc('week', completed_at)"), ("props.y", "sum(amount)")]
  filterBy := none
  orderBy := some ["a_different_column desc", "count(amount) desc"]

theorem orderedTrace_groups :
    dialectOf "snowflake" = .ok .snowflake ∧
      tokenize orderedTrace (.str "SELECT * FROM widget_sales") (.str "t") (.str "snowflake") =
        .ok (orderedTokens, []) ∧
      (∀ e ∈ orderedTokens.orderBy.getD [], ∃ b n, OrderTermParts e b n) ∧
      (∀ s, s ∈ orderedTokens.groupBy.getD [] ↔ GroupsBy .snowflake orderedTokens s) := by
  have known : dialectOf "snowflake" = .ok .snowflake := rfl
  have ok : tokenize orderedTrace (.str "SELECT * FROM widget_sales") (.str "t") (.str "snowflake") =
      .ok (orderedTokens, []) := by decide +kernel
  have directed : ∀ e ∈ orderedTokens.orderBy.getD [], ∃ b n, OrderTermParts e b n := by
    intro e member
    simp only [orderedTokens, Option.getD_some, List.mem_cons, List.not_mem_nil, or_false] at member
    rcases member with rfl | rfl
    · exact ⟨"a_different_column ", "", ⟨"desc", by decide +kernel, by decide +kernel⟩, by decide +kernel,
        by decide +kernel, by decide +kernel⟩
    · exact ⟨"count(amount) ", "", ⟨"desc", by decide +kernel, by decide +kernel⟩, by decide +kernel,
        by decide +kernel, by decide +kernel⟩
  exact ⟨known, ok, directed, (groupBy_of_tokenize known ok directed).1⟩

/-- A trace ordered by `x desc nulls last`. -/
def nullsLastTrace : Value :=
  .record [("name", .str "t"), ("props", .record [("type", .str "scatter"), ("x", .str "query(x)")]),
    ("order_by", .list [.str "query(x desc nulls last)"])]

/-- The order term `x desc nulls last` is grouped by as `x  nulls last`: only `desc` is
removed, so the nulls clause stays, and the trace groups by a statement that is neither its
select item `x`, nor the term without its trailing clause, nor its cohort `'t'`. -/
theorem nullsLast_kept_in_grouping :
    tokenize nullsLastTrace (.str "select 1") (.str "t") (.str "snowflake") =
      .ok ({ sql := "select 1", cohortOn := "'t'", target := "t",
             groupBy := some ["x", "x  nulls last"], selectItems := [("props.x", "x")],
             filterBy := none, orderBy := some ["x desc nulls last"] }, []) := by
  decide +kernel

end Dashwright.Query
