import Dashwright.Query.Tokenizer
import Dashwright.Template.Slot

/-!
The text of a trace's query, and of the test queries built around it.

The trace query selects the model's rows with a `cohort_on` column added, then either the
select items (`statement as "name"`) or every column, then `"cohort_on"`; then the clauses
WHERE (vanilla filters joined by AND), GROUP BY (the group statements and `"cohort_on"`),
HAVING (aggregate filters), QUALIFY (window filters) and ORDER BY, each only when it has
something to hold, and last a comment naming the target.

The fields are read as a template reads them: an absent field is missing, a missing field
prints as nothing and loops over nothing, and fields of other kinds than the usual ones print
their display form.
-/

namespace Dashwright.Query

open Template

/-- The fields of a tokenized trace as the query text reads them; `none` is an absent field. -/
structure TraceQuery where
  sql : Option Value
  cohortOn : Option Value
  target : Option Value
  groupBy : Option Value
  selectItems : Option Value
  filterBy : Option Value
  orderBy : Option Value
deriving Inhabited

def slotOf (name : String) : Option Value → Slot
  | some v => .value v
  | none => .missing (.name name)

def FilterSet.toValue (f : FilterSet) : Value :=
  let strs (xs : List String) : Value := .list (xs.map .str)
  Value.record [("aggregate", strs f.aggregate), ("window", strs f.window),
    ("vanilla", strs f.vanilla)]

/-- A tokenized trace as a record of its fields; absent parts are nulls. -/
def TokenizedTrace.toValue (t : TokenizedTrace) : Value :=
  let strs (xs : List String) : Value := .list (xs.map .str)
  Value.record [("sql", .str t.sql), ("cohort_on", .str t.cohortOn), ("target", .str t.target),
    ("groupby_statements", (t.groupBy.map strs).getD .none),
    ("select_items", Value.record (t.selectItems.map fun (k, v) => (k, .str v))),
    ("filter_by", (t.filterBy.map FilterSet.toValue).getD .none),
    ("order_by", (t.orderBy.map strs).getD .none)]

/-- The fields of a record read as a tokenized trace; null fields are absent. -/
def TraceQuery.ofValue (v : Value) : TraceQuery :=
  let get (k : String) : Option Value := match v.field? k with
    | some .none => none
    | other => other
  { sql := get "sql", cohortOn := get "cohort_on", target := get "target",
    groupBy := get "groupby_statements", selectItems := get "select_items",
    filterBy := get "filter_by", orderBy := get "order_by" }

/-- The fields of a tokenized trace; its absent parts are absent fields. -/
def TokenizedTrace.toQuery (t : TokenizedTrace) : TraceQuery :=
  let strs (xs : List String) : Value := .list (xs.map .str)
  { sql := some (.str t.sql), cohortOn := some (.str t.cohortOn), target := some (.str t.target),
    groupBy := t.groupBy.map strs,
    selectItems := some (Value.record (t.selectItems.map fun (k, v) => (k, .str v))),
    filterBy := t.filterBy.map FilterSet.toValue,
    orderBy := t.orderBy.map strs }

/-- Concatenates the texts of the items of a loop, each told whether it is the last. -/
def joinLoop {α : Type} (f : α → Bool → Outcome String) : List α → Outcome String
  | [] => pure ""
  | [x] => f x true
  | x :: xs => do pure ((← f x false) ++ (← joinLoop f xs))

/-- The pairs of a mapping's `items()`; anything else lacks the method. -/
def itemsOf : Slot → Outcome (List (Value × Value))
  | .value (.map es _) => pure es
  | .value v => throw (Missing.attribute (objectKind v) "items").failure
  | .missing m => throw m.failure

/-- The lines of one clause's statements: each on its own line after `indent`, with `sep`
after all but the last. -/
def clauseLines (indent sep : String) (items : List Value) : Outcome String :=
  joinLoop (fun v last => do
    pure (indent ++ (← (Slot.value v).text) ++ (if last then "" else sep))) items

def selectList (q : TraceQuery) : Outcome String := do
  let sel := slotOf "select_items" q.selectItems
  if sel.isDefined && sel.truthy then
    let items ← itemsOf sel
    joinLoop (fun (k, v) _ => do
      pure ("\n            " ++ (← (Slot.value v).text) ++ " as \"" ++ (← (Slot.value k).text) ++ "\","))
      items
  else pure "\n        *,"

def whereClause (q : TraceQuery) : Outcome String := do
  let fb := slotOf "filter_by" q.filterBy
  if !fb.isDefined then return ""
  let vanilla ← fb.attribute "vanilla"
  if (← vanilla.size) > 0 then
    pure ("\n    WHERE" ++ (← clauseLines "\n        " " AND " (← vanilla.iterate)))
  else pure ""

def groupClause (q : TraceQuery) : Outcome String := do
  let gb := slotOf "groupby_statements" q.groupBy
  let co := slotOf "cohort_on" q.cohortOn
  if gb.isDefined || co.differsFrom (.str defaultCohort) then
    let lines ← joinLoop (fun v last => do
      pure ("\n        " ++ (← (Slot.value v).text) ++ " " ++ (if last then "" else " , ")))
      (← gb.iterate)
    pure ("\n    GROUP BY" ++ lines ++ (if gb.isDefined then "," else "") ++ "\n    \"cohort_on\"")
  else pure ""

def filterClauses (q : TraceQuery) : Outcome String := do
  let fb := slotOf "filter_by" q.filterBy
  if !fb.isDefined then return ""
  let agg ← fb.attribute "aggregate"
  let having ← if (← agg.size) > 0 then
      pure ("\n        HAVING" ++ (← clauseLines "\n            " ", " (← agg.iterate)))
    else pure ""
  let win ← fb.attribute "window"
  let qualify ← if (← win.size) > 0 then
      pure ("\n        QUALIFY" ++ (← clauseLines "\n            " ", " (← win.iterate)))
    else pure ""
  pure (having ++ qualify)

def orderClause (q : TraceQuery) : Outcome String := do
  let ob := slotOf "order_by" q.orderBy
  if ob.isDefined && (← ob.size) > 0 then
    pure ("\n    ORDER BY" ++ (← clauseLines "\n        " ", " (← ob.iterate)))
  else pure ""

def TraceQuery.render (q : TraceQuery) : Outcome String := do
  let sql ← (slotOf "sql" q.sql).text
  let cohort ← (slotOf "cohort_on" q.cohortOn).text
  let head := "WITH \nbase_query as (\n    " ++ sql ++
    "\n),\ncolumnize_cohort_on as (\n    SELECT \n        *,\n        " ++ cohort ++
    " as \"cohort_on\"\n    FROM base_query\n)\nSELECT"
  let select ← selectList q
  let wh ← whereClause q
  let gr ← groupClause q
  let fi ← filterClauses q
  let ord ← orderClause q
  let target ← (slotOf "target" q.target).text
  pure (head ++ select ++ "\n    \"cohort_on\"\nFROM columnize_cohort_on" ++ wh ++ gr ++ fi ++ ord ++
    " \n-- target: " ++ target)

/-- The checks a test query can make of a trace's query. -/
inductive Check where
  /-- some row has the given values in the given columns -/
  | coordinateExists
  /-- no row has a null in the given columns -/
  | notNull
  /-- always fails -/
  | fail
deriving BEq, Repr

def Check.ofName? : String → Option Check
  | "coordinate_exists" => some .coordinateExists
  | "not_null" => some .notNull
  | "fail" => some .fail
  | _ => none

/-- The tail shared by the test queries: the failing row is returned by joining the test's
condition with the error row. -/
def checkTail : String :=
  "\n)\nSELECT --error if result is returned. \n    e.err_msg\nFROM test_case tc \nJOIN error e \n    ON e.condition = tc.condition"

def checkHead (traceSql : String) : String :=
  "WITH \ntrace_sql as (\n    " ++ traceSql ++ "\n),\ntest_case as (\n    SELECT \n        max(CAST("

def checkMiddle : String :=
  "\n         as int )\n        ) as condition\n    FROM trace_sql \n), \nerror as (        \n    SELECT \n        0 as condition,\n        'coordinates"

/-- A parameter of a test, missing when the test does not give it. -/
def paramSlot (params : List (String × Value)) (name : String) : Slot :=
  match params.find? (·.1 == name) with
  | some (_, v) => .value v
  | none => .missing (.name name)

/-- The text of a test query around a trace's query, with the test's parameters. -/
def Check.render (c : Check) (traceSql : String) (params : List (String × Value)) :
    Outcome String := do
  match c with
  | .fail => pure "SELECT \"fail\";"
  | .coordinateExists =>
    let coords := paramSlot params "coordinates"
    let conds ← joinLoop (fun (k, v) last => do
      pure ("\n            \"" ++ (← (Slot.value k).text) ++ "\" = '" ++ (← (Slot.value v).text) ++
        "'" ++ (if last then "" else " AND"))) (← itemsOf coords)
    let listed ← joinLoop (fun (k, v) last => do
      pure (" " ++ (← (Slot.value k).text) ++ "=" ++ (← (Slot.value v).text) ++
        (if last then "" else ","))) (← itemsOf coords)
    pure (checkHead traceSql ++ conds ++ checkMiddle ++ listed ++
      " were not found in any trace cohort' as err_msg " ++ checkTail)
  | .notNull =>
    let attrs := paramSlot params "attributes"
    let conds ← joinLoop (fun a last => do
      pure ("\n            \"" ++ (← (Slot.value a).text) ++ "\" is not null " ++
        (if last then "" else " AND"))) (← attrs.iterate)
    let listed ← joinLoop (fun a last => do
      pure (" " ++ (← (Slot.value a).text) ++ (if last then "" else "or"))) (← attrs.iterate)
    pure (checkHead traceSql ++ conds ++ checkMiddle ++ listed ++
      " contained null values.' as err_msg " ++ checkTail)

end Dashwright.Query
