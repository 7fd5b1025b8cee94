import Dashwright.Query.Render

/-! The layout of a trace's query, clause by clause.

The query template reads a tokenized trace as a record of dynamic values. On the records that a
tokenized trace gives, every clause is a plain function of one list of statements: WHERE holds
the vanilla filters joined by `AND`, HAVING and QUALIFY the aggregate and window filters joined
by commas, ORDER BY the order terms joined by commas, and each is written exactly when its list
is not empty. GROUP BY is written when the trace groups or has a cohort of its own, and then a
comma follows its statements whenever the trace groups, also when it groups by nothing. -/

namespace Dashwright.Query

open Template

/-- Statements each on a line of its own after `indent`, separated by `sep`. -/
def statementLines (indent sep : String) (items : List String) : String :=
  sep.intercalate (items.map (indent ++ ·))

def optionalClause (keyword indent sep : String) (items : List String) : String :=
  if items.isEmpty then "" else keyword ++ statementLines indent sep items

/-- The select list: `statement as "name",` for each item in order, or every column. -/
def selectText (items : List (String × String)) : String :=
  if items.isEmpty then "\n        *,"
  else String.join (items.map fun (k, v) => "\n            " ++ v ++ " as \"" ++ k ++ "\",")

/-- The GROUP BY clause: the group statements separated by ` , `, a comma after them when the
trace groups, and the cohort column. -/
def groupText (groupBy : Option (List String)) (cohortOn : String) : String :=
  if groupBy.isSome || cohortOn != defaultCohort then
    "\n    GROUP BY" ++ " , ".intercalate ((groupBy.getD []).map fun s => "\n        " ++ s ++ " ") ++
      (if groupBy.isSome then "," else "") ++ "\n    \"cohort_on\""
  else ""

/-- The query's common table expressions and its `SELECT` keyword. -/
def queryHead (sql cohortOn : String) : String :=
  "WITH \nbase_query as (\n    " ++ sql ++
    "\n),\ncolumnize_cohort_on as (\n    SELECT \n        *,\n        " ++ cohortOn ++
    " as \"cohort_on\"\n    FROM base_query\n)\nSELECT"

/-- The filters of one kind; a trace with no filters has none of any kind. -/
def TokenizedTrace.filters (t : TokenizedTrace) (kind : FilterSet → List String) : List String :=
  (t.filterBy.map kind).getD []

/-- The text of a trace's query, clause by clause. -/
def TokenizedTrace.queryText (t : TokenizedTrace) : String :=
  queryHead t.sql t.cohortOn ++ selectText t.selectItems ++
    "\n    \"cohort_on\"\nFROM columnize_cohort_on" ++
    optionalClause "\n    WHERE" "\n        " " AND " (t.filters FilterSet.vanilla) ++
    groupText t.groupBy t.cohortOn ++
    optionalClause "\n        HAVING" "\n            " ", " (t.filters FilterSet.aggregate) ++
    optionalClause "\n        QUALIFY" "\n            " ", " (t.filters FilterSet.window) ++
    optionalClause "\n    ORDER BY" "\n        " ", " (t.orderBy.getD []) ++
    " \n-- target: " ++ t.target

theorem joinLoop_map {α β : Type} (f : β → Bool → Outcome String) (h : α → β) (xs : List α) :
    joinLoop f (xs.map h) = joinLoop (fun x last => f (h x) last) xs := by
  fun_induction joinLoop (fun x last => f (h x) last) xs with
  | case1 => rfl
  | case2 x => rfl
  | case3 x rest nonempty ih =>
    obtain ⟨y, rest, rfl⟩ := List.exists_cons_of_ne_nil nonempty
    simp only [List.map_cons, joinLoop] at ih ⊢
    rw [ih]

theorem joinLoop_sep {α : Type} (g : α → String) (sep : String) (f : α → Bool → Outcome String)
    (hf : ∀ x last, f x last = pure (g x ++ if last then "" else sep)) (xs : List α) :
    joinLoop f xs = pure (sep.intercalate (xs.map g)) := by
  fun_induction joinLoop f xs with
  | case1 => rfl
  | case2 x => simp [hf]
  | case3 x rest nonempty ih =>
    have mapped : rest.map g ≠ [] := by simpa using nonempty
    simp only [hf, ih, List.map_cons, String.intercalate_cons_of_ne_nil mapped]
    simp [bind, Except.bind, pure, Except.pure, String.append_assoc]

theorem joinLoop_join {α : Type} (g : α → String) (f : α → Bool → Outcome String)
    (hf : ∀ x last, f x last = pure (g x)) (xs : List α) :
    joinLoop f xs = pure (String.join (xs.map g)) := by
  fun_induction joinLoop f xs with
  | case1 => rfl
  | case2 x => simp [hf]
  | case3 x rest _ ih => simp [hf, ih, bind, Except.bind, pure, Except.pure]

theorem clauseLines_texts (indent sep : String) (xs : List String) :
    clauseLines indent sep (xs.map .str) = pure (statementLines indent sep xs) := by
  rw [clauseLines, joinLoop_map]
  exact joinLoop_sep (indent ++ ·) sep _ (fun x last => by simp [Slot.text, Value.display]) xs

@[simp] theorem filterSet_attribute (f : FilterSet) :
    (Slot.value f.toValue).attribute "aggregate" = pure (.value (.list (f.aggregate.map .str))) ∧
    (Slot.value f.toValue).attribute "window" = pure (.value (.list (f.window.map .str))) ∧
    (Slot.value f.toValue).attribute "vanilla" = pure (.value (.list (f.vanilla.map .str))) := by
  simp [Slot.attribute, Value.item?, FilterSet.toValue, Value.record, lookupEntry, Value.equal]

theorem pure_optionalClause (keyword indent sep : String) (xs : List String) :
    (if 0 < xs.length then pure (keyword ++ statementLines indent sep xs) else pure "" : Outcome String) =
      pure (optionalClause keyword indent sep xs) := by
  cases xs <;> simp [optionalClause]

theorem selectList_items (t : TokenizedTrace) : selectList t.toQuery = pure (selectText t.selectItems) := by
  by_cases empty : t.selectItems.isEmpty
  · simp [selectList, TokenizedTrace.toQuery, slotOf, Slot.isDefined, Slot.truthy, Value.truthy,
      Value.record, selectText, empty]
  · simp [selectList, TokenizedTrace.toQuery, slotOf, Slot.isDefined, Slot.truthy, Value.truthy,
      Value.record, selectText, empty, itemsOf, joinLoop_map]
    exact joinLoop_join _ _ (fun x _ => by simp [Slot.text, Value.display]) _

theorem whereClause_filters (t : TokenizedTrace) :
    whereClause t.toQuery =
      pure (optionalClause "\n    WHERE" "\n        " " AND " (t.filters FilterSet.vanilla)) := by
  cases h : t.filterBy with
  | none =>
    simp [whereClause, TokenizedTrace.toQuery, slotOf, Slot.isDefined, h, TokenizedTrace.filters,
      optionalClause]
  | some f =>
    simp [whereClause, TokenizedTrace.toQuery, slotOf, Slot.isDefined, h, TokenizedTrace.filters,
      Slot.size, Value.size, Slot.iterate, Value.iterate, clauseLines_texts, pure_optionalClause]

theorem groupClause_text (t : TokenizedTrace) :
    groupClause t.toQuery = pure (groupText t.groupBy t.cohortOn) := by
  have cohort : (Slot.value (.str t.cohortOn)).differsFrom (.str defaultCohort) =
      (t.cohortOn != defaultCohort) := by
    simp [Slot.differsFrom, Value.equal, bne]
  cases h : t.groupBy with
  | none =>
    simp only [groupClause, groupText, TokenizedTrace.toQuery, slotOf, h, Option.map_none,
      Slot.isDefined, cohort, Bool.false_or, Option.isSome_none]
    split <;> rfl
  | some xs =>
    simp only [groupClause, groupText, TokenizedTrace.toQuery, slotOf, h, Option.map_some,
      Slot.isDefined, Bool.true_or, if_true, Option.isSome_some, Option.getD_some, Slot.iterate,
      Value.iterate, pure_bind]
    rw [joinLoop_map, joinLoop_sep (fun s => "\n        " ++ s ++ " ") " , "]
    · rfl
    · intro x last
      simp [Slot.text, Value.display]

theorem filterClauses_text (t : TokenizedTrace) :
    filterClauses t.toQuery =
      pure (optionalClause "\n        HAVING" "\n            " ", " (t.filters FilterSet.aggregate) ++
        optionalClause "\n        QUALIFY" "\n            " ", " (t.filters FilterSet.window)) := by
  cases h : t.filterBy with
  | none =>
    simp [filterClauses, TokenizedTrace.toQuery, slotOf, Slot.isDefined, h, TokenizedTrace.filters,
      optionalClause]
  | some f =>
    simp only [filterClauses, TokenizedTrace.toQuery, slotOf, Slot.isDefined, h, Option.map_some,
      TokenizedTrace.filters, Option.getD_some, filterSet_attribute, Slot.size, Value.size,
      Slot.iterate, Value.iterate, clauseLines_texts, pure_bind, gt_iff_lt, List.length_map]
    -- the two clauses are decided one after the other, so both lists are split
    by_cases ha : f.aggregate = [] <;> by_cases hw : f.window = [] <;>
      simp [optionalClause, ha, hw, List.length_pos_iff]

theorem orderClause_text (t : TokenizedTrace) :
    orderClause t.toQuery = pure (optionalClause "\n    ORDER BY" "\n        " ", " (t.orderBy.getD [])) := by
  cases h : t.orderBy with
  | none =>
    simp [orderClause, TokenizedTrace.toQuery, slotOf, Slot.isDefined, Slot.size, h, optionalClause]
  | some xs =>
    simp [orderClause, TokenizedTrace.toQuery, slotOf, Slot.isDefined, h, Slot.size, Value.size,
      Slot.iterate, Value.iterate, clauseLines_texts, pure_optionalClause]

/-- The query of a tokenized trace is laid out clause by clause: the select items in order (or
every column), then WHERE with the vanilla filters joined by `AND`, GROUP BY, HAVING and QUALIFY
with the aggregate and window filters joined by commas, and ORDER BY with the order terms joined by
commas. -/
theorem render_eq_queryText (t : TokenizedTrace) : t.toQuery.render = pure t.queryText := by
  have sql : (slotOf "sql" t.toQuery.sql).text = pure t.sql := rfl
  have cohort : (slotOf "cohort_on" t.toQuery.cohortOn).text = pure t.cohortOn := rfl
  have target : (slotOf "target" t.toQuery.target).text = pure t.target := rfl
  simp only [TraceQuery.render, selectList_items, whereClause_filters, groupClause_text,
    filterClauses_text, orderClause_text, sql, cohort, target, pure_bind]
  unfold TokenizedTrace.queryText queryHead
  simp only [String.append_assoc]

end Dashwright.Query
