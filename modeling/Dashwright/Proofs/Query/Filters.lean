import Dashwright.Proofs.Query.Walk
import Dashwright.Proofs.Query.Grouping
import Mathlib.Data.List.TakeWhile

/-! Filters and order terms of a tokenized trace.

A trace's filters and order terms are texts that hold a `query(...)` call. Tokenizing keeps the
argument of each call: an order term without one, or with an empty one, is left out, while a
filter without one is refused, its missing argument being handed on to the classifier. The
filters kept are sorted by kind, each kind in the order given; window filters are dropped,
with a warning, on every dialect but Snowflake.

Only `query(...)` is read. The argument of `query(e)` is `e` trimmed when `e` stands on one line,
and `column(c)` has none: a `column(c)` order term is dropped and a `column(c)` filter makes
tokenizing fail. -/

namespace Dashwright.Query

open Text

theorem beforeLastClose_close (arg : List Char) (nonempty : arg ≠ []) :
    beforeLastClose (arg ++ [')']) = some arg := by
  have positive : 0 < arg.length := List.length_pos_iff.mpr nonempty
  unfold beforeLastClose
  rw [List.length_append, List.length_singleton, List.range_succ,
    List.zip_append (by simp), List.reverse_append]
  simp [positive]

theorem argumentAt_call (name arg : List Char) (oneLine : '\n' ∉ arg) (nonempty : arg ≠ []) :
    argumentAt name (name ++ '(' :: (arg ++ [')'])) = some arg := by
  obtain ⟨c, cs, split⟩ : ∃ c cs, name ++ '(' :: (arg ++ [')']) = c :: cs := by
    cases name with
    | nil => exact ⟨_, _, rfl⟩
    | cons n ns => exact ⟨_, _, rfl⟩
  have line : (arg ++ [')']).takeWhile (· != '\n') = arg ++ [')'] := by
    rw [List.takeWhile_eq_self_iff]
    intro ch member
    simp only [List.mem_append, List.mem_singleton] at member
    rcases member with inArg | rfl
    · have notBreak : ch ≠ '\n' := fun same => oneLine (same ▸ inArg)
      simpa using notBreak
    · decide
  rw [split, argumentAt, ← split, List.take_left' rfl, List.drop_left' rfl]
  simp [line, beforeLastClose_close arg nonempty]

theorem argumentAt_of_absent {name text : List Char} (absent : ¬ name ++ ['('] <:+: text) :
    argumentAt name text = none := by
  induction text with
  | nil => rfl
  | cons c cs ih =>
    rw [argumentAt]
    split
    · -- a call cannot start here: `name(` would occur in the text
      rename_i arg found
      split at found
      · rename_i named
        split at found
        · rename_i rest opens
          refine absurd (List.IsPrefix.isInfix ?_) absent
          rw [← List.take_append_drop name.length (c :: cs), opens, eq_of_beq named]
          exact ⟨rest, by simp⟩
        · cases found
      · cases found
    · exact ih fun inner => absent (inner.trans (List.infix_cons (List.infix_refl cs)))

theorem argumentOf_query (e : String) (oneLine : '\n' ∉ e.toList) (nonempty : e ≠ "") :
    argumentOf "query" ("query(" ++ e ++ ")") = some (Text.strip e) := by
  have text : ("query(" ++ e ++ ")").toList = "query".toList ++ '(' :: (e.toList ++ [')']) := by
    simp
  unfold argumentOf
  rw [text, argumentAt_call _ _ oneLine (by simpa using nonempty)]
  simp

theorem argumentOf_column (c : String) (noCall : ¬ "query(".toList <:+: c.toList) :
    argumentOf "query" ("column(" ++ c ++ ")") = none := by
  unfold argumentOf
  rw [argumentAt_of_absent]
  · rfl
  · rw [show "query".toList ++ ['('] = "query(".toList from rfl, String.toList_append,
      String.toList_append, List.append_assoc]
    exact absent_after_foreign rfl (by decide) (absent_append noCall (by decide) (by decide))

/-- The text a value holds, if it is a text. -/
def textOf : Value → Option String
  | .str s => some s
  | _ => none

/-- The texts of a trace's list field: none for a missing or null field, and no reading at all
when the field holds anything but a list of texts. -/
def fieldTexts (trace : Value) (name : String) : Option (List String) :=
  match field trace name with
  | none => some []
  | some (.list xs) => xs.mapM textOf
  | some _ => none

/-- Whether a trace field is missing, null or a text. -/
def textOrMissing (trace : Value) (name : String) : Bool :=
  match field trace name with
  | none => true
  | some v => (textOf v).isSome

theorem mapM_textOf {xs : List Value} {ts : List String} (texts : xs.mapM textOf = some ts) :
    xs = ts.map .str := by
  induction xs generalizing ts with
  | nil =>
    cases texts
    rfl
  | cons x rest ih =>
    rw [List.mapM_cons] at texts
    cases x with
    | str s =>
      simp only [textOf, Option.pure_def, Option.bind_eq_bind, Option.bind_some] at texts
      obtain ⟨texts, found, same⟩ := Option.bind_eq_some_iff.mp texts
      cases same
      rw [ih found, List.map_cons]
    | _ => cases texts

theorem field_of_fieldTexts {trace : Value} {name : String} {ts : List String}
    (texts : fieldTexts trace name = some ts) :
    (field trace name = none ∧ ts = []) ∨ field trace name = some (.list (ts.map .str)) := by
  unfold fieldTexts at texts
  split at texts
  · rename_i missing
    exact .inl ⟨missing, (Option.some.inj texts).symm⟩
  · rename_i xs listed
    exact .inr (by rw [listed, mapM_textOf texts])
  · cases texts

/-- Adds a filter statement to the list of its kind. -/
def FilterSet.add (d : Dialect) (fs : FilterSet) (a : String) : FilterSet :=
  match classify d a with
  | .window => { fs with window := fs.window ++ [a] }
  | .vanilla => { fs with vanilla := fs.vanilla ++ [a] }
  | .aggregate => { fs with aggregate := fs.aggregate ++ [a] }

/-- Filter statements sorted by kind in a dialect, each kind in the order given. -/
def sortFilters (d : Dialect) (args : List String) : FilterSet where
  aggregate := args.filter fun s => classify d s = .aggregate
  window := args.filter fun s => classify d s = .window
  vanilla := args.filter fun s => classify d s = .vanilla

theorem foldl_add (d : Dialect) (acc : FilterSet) (args : List String) :
    args.foldl (FilterSet.add d) acc =
      ⟨acc.aggregate ++ (sortFilters d args).aggregate, acc.window ++ (sortFilters d args).window,
        acc.vanilla ++ (sortFilters d args).vanilla⟩ := by
  induction args generalizing acc with
  | nil => simp [sortFilters]
  | cons a rest ih =>
    rw [List.foldl_cons, ih]
    unfold FilterSet.add
    cases kind : classify d a <;> simp [sortFilters, kind]

theorem foldl_addArgument (d : Dialect) {fs : List String} (calls : ∀ f ∈ fs, (argumentOf "query" f).isSome)
    (acc : FilterSet) :
    fs.foldl (fun acc f => FilterSet.add d acc ((argumentOf "query" f).getD "")) acc =
      (fs.filterMap (argumentOf "query")).foldl (FilterSet.add d) acc := by
  induction fs generalizing acc with
  | nil => rfl
  | cons f rest ih =>
    obtain ⟨a, found⟩ := Option.isSome_iff_exists.mp (calls f List.mem_cons_self)
    rw [List.foldl_cons, List.filterMap_cons, found, ih (fun g member => calls g (List.mem_cons_of_mem f member))]
    rfl

/-- The filters a trace's filter texts give in a dialect, with the warnings: none without
filters; otherwise the argument of each filter's `query` call, in the list of its kind and in
the order given, window statements being dropped with a warning on any dialect but Snowflake. -/
def filtersFor (name : String) (d : Dialect) (fs : List String) : Option FilterSet × List String :=
  if fs.isEmpty then (none, [])
  else
    let sorted := sortFilters d (fs.filterMap (argumentOf "query"))
    if name == "snowflake" then (some sorted, [])
    else (some { sorted with window := [] }, if sorted.window.isEmpty then [] else [windowFilterWarning])

/-- The failure of a filter that is no `query` call: its missing argument is classified. -/
def noArgument : Failure := Failure.wrongType "expected string or bytes-like object, got 'NoneType'"

theorem filterSet_texts {name : String} {d : Dialect} (known : dialectOf name = .ok d)
    {trace : Value} {fs : List String} (filters : fieldTexts trace "filters" = some fs)
    (calls : ∀ f ∈ fs, (argumentOf "query" f).isSome) :
    filterSet name trace = .ok (filtersFor name d fs) := by
  unfold filterSet
  rcases field_of_fieldTexts filters with ⟨missing, rfl⟩ | listed
  · rw [missing]
    rfl
  · rw [listed]
    cases fs with
    | nil => rfl
    | cons f rest =>
      have truthy : (Value.list ((f :: rest).map Value.str)).truthy = true := rfl
      simp only [truthy, Bool.not_true, Bool.false_eq_true, if_false, Value.iterate, pure_bind]
      rw [List.forIn_map, forIn_yield (fun acc f => FilterSet.add d acc ((argumentOf "query" f).getD ""))]
      · rw [pure_bind, foldl_addArgument d calls, foldl_add]
        by_cases snowflake : name = "snowflake"
        · simp only [filtersFor, snowflake, bne_self_eq_false, beq_self_eq_true, List.isEmpty_cons,
            Bool.false_eq_true, if_false, if_true]
          rfl
        · have other : (name != "snowflake") = true := by simpa using snowflake
          simp only [filtersFor, other, List.isEmpty_cons, Bool.false_eq_true, if_false, if_true,
            beq_false_of_ne snowflake]
          rfl
      · -- each filter is a call: its argument goes to the list of its kind
        intro g member acc
        obtain ⟨a, found⟩ := Option.isSome_iff_exists.mp (calls g member)
        simp only [argumentOfValue, found, known, ok_bind, pure_bind, Option.getD_some]
        unfold FilterSet.add
        cases classify d a <;> rfl

theorem filterSet_refuses {name : String} {d : Dialect} (known : dialectOf name = .ok d)
    {trace : Value} {fs : List String} (filters : fieldTexts trace "filters" = some fs)
    {f : String} (member : f ∈ fs) (noCall : argumentOf "query" f = none) :
    filterSet name trace = .error noArgument := by
  unfold filterSet
  rcases field_of_fieldTexts filters with ⟨_, rfl⟩ | listed
  · cases member
  · rw [listed]
    cases fs with
    | nil => cases member
    | cons g rest =>
      have truthy : (Value.list ((g :: rest).map Value.str)).truthy = true := rfl
      simp only [truthy, Bool.not_true, Bool.false_eq_true, if_false, Value.iterate, pure_bind]
      rw [List.forIn_map, forIn_fails _ _ _ member]
      · rfl
      · intro acc
        simp only [argumentOfValue, noCall, known, ok_bind, pure_bind]
        rfl
      · -- the filters before it are calls or refused the same way
        intro h _ acc
        cases found : argumentOf "query" h with
        | none =>
          refine .inl ?_
          simp only [argumentOfValue, found, known, ok_bind, pure_bind]
          rfl
        | some a =>
          refine .inr ⟨FilterSet.add d acc a, ?_⟩
          simp only [argumentOfValue, found, known, ok_bind, pure_bind]
          unfold FilterSet.add
          cases classify d a <;> rfl

/-- The order terms a trace's order texts give: the argument of each one's `query` call, in
order, leaving out texts with no call or with an empty argument; none when nothing is left. -/
def orderFor (os : List String) : Option (List String) :=
  let kept := os.filterMap fun s => (argumentOf "query" s).filter (!·.isEmpty)
  if kept.isEmpty then none else some kept

theorem mapM_argumentOfValue (os : List String) :
    (os.map Value.str).mapM (argumentOfValue "query") = .ok (os.map (argumentOf "query")) := by
  induction os with
  | nil => rfl
  | cons s rest ih =>
    rw [List.map_cons, List.mapM_cons, ih]
    rfl

theorem filterMap_nonEmpty (l : List String) :
    l.filterMap (fun t => (argumentOf "query" t).filter (!·.isEmpty)) =
      l.filterMap fun t => match argumentOf "query" t with
        | some a => if a.isEmpty then none else some a
        | none => none := by
  congr 1
  funext t
  cases argumentOf "query" t with
  | none => rfl
  | some a => cases empty : a.isEmpty <;> simp [Option.filter, empty]

theorem orderTerms_texts {trace : Value} {os : List String} (orders : fieldTexts trace "order_by" = some os) :
    orderTerms trace = .ok (orderFor os) := by
  unfold orderTerms
  rcases field_of_fieldTexts orders with ⟨missing, rfl⟩ | listed
  · rw [missing]
    rfl
  · rw [listed]
    cases os with
    | nil => rfl
    | cons s rest =>
      have truthy : (Value.list ((s :: rest).map Value.str)).truthy = true := rfl
      simp only [truthy, Bool.not_true, Bool.false_eq_true, if_false, Value.iterate, pure_bind,
        mapM_argumentOfValue, ok_bind, List.filterMap_map]
      unfold orderFor
      rw [filterMap_nonEmpty]
      rfl

theorem ite_text {c : Prop} [Decidable c] {v w : Value} (inText : ∃ s, v = .str s)
    (outText : ∃ s, w = .str s) : ∃ s, (if c then v else w) = .str s := by
  split
  · exact inText
  · exact outText

theorem cohortOn_text {trace : Value} (cohort : textOrMissing trace "cohort_on" = true) :
    ∃ c, cohortOn trace = .ok c := by
  -- the expression chosen is the trace's own text, its name quoted, or the default: a text
  have chosenText : ∀ v : Value, (∃ s, v = .str s) → ∃ c, (do
      match ← argumentOfValue "query" v with
      | some arg => if arg.isEmpty then pure v.text else pure arg
      | none => pure v.text : Outcome String) = .ok c := by
    rintro v ⟨s, rfl⟩
    simp only [argumentOfValue, pure_bind]
    split
    · split
      · exact ⟨_, rfl⟩
      · exact ⟨_, rfl⟩
    · exact ⟨_, rfl⟩
  unfold cohortOn
  dsimp only
  apply chosenText
  cases own : field trace "cohort_on" with
  | none =>
    rw [Option.getD_none, if_neg (show ¬ (Value.none.truthy = true) by decide)]
    exact ite_text (ite_text ⟨_, rfl⟩ ⟨_, rfl⟩) ⟨_, rfl⟩
  | some v =>
    rw [textOrMissing, own] at cohort
    cases v with
    | str s => exact ite_text (ite_text ⟨s, rfl⟩ (ite_text ⟨_, rfl⟩ ⟨_, rfl⟩)) ⟨_, rfl⟩
    | _ => cases cohort

/-- In a known dialect, a trace with no null list item, a cohort that is missing or a text, and
filters and order terms that are texts, tokenizes exactly when every filter holds a `query`
call. It then carries the call arguments of its filters, each in the list of its kind and in
the order given (window ones on Snowflake only, with a warning elsewhere), and the non-empty
call arguments of its order terms, in order. A filter without a call, such as `column(c)`,
makes tokenizing fail as the classifier does on a missing statement. -/
theorem tokenize_filters_orders {trace : Value} {sql target name : String} {d : Dialect}
    {fs os : List String} (known : dialectOf name = .ok d) (noNull : ¬ NullItem trace)
    (cohort : textOrMissing trace "cohort_on" = true) (filters : fieldTexts trace "filters" = some fs) (orders : fieldTexts trace "order_by" = some os) :
    ((∀ f ∈ fs, (argumentOf "query" f).isSome) →
      ∃ tt, tokenize trace (.str sql) (.str target) (.str name) = .ok (tt, (filtersFor name d fs).2) ∧
        tt.filterBy = (filtersFor name d fs).1 ∧ tt.orderBy = orderFor os) ∧
    (∀ f ∈ fs, argumentOf "query" f = none →
      tokenize trace (.str sql) (.str target) (.str name) = .error noArgument) := by
  obtain ⟨items, walked⟩ := (selectItems_ends trace).2 noNull
  obtain ⟨cohortText, cohorted⟩ := cohortOn_text cohort
  have dialectText : textField "Dialect" "type" (.str name) = .ok name := rfl
  refine ⟨fun calls => ?_, fun f member noCall => ?_⟩
  · unfold tokenize
    rw [dialectText, ok_bind, walked, ok_bind, orderTerms_texts orders, ok_bind, cohorted, ok_bind]
    dsimp only
    rw [groupStatements_eq known, ok_bind, filterSet_texts known filters calls, ok_bind, ok_bind]
    exact ⟨_, rfl, rfl, rfl⟩
  · unfold tokenize
    rw [dialectText, ok_bind, walked, ok_bind, orderTerms_texts orders, ok_bind, cohorted, ok_bind]
    dsimp only
    rw [groupStatements_eq known, ok_bind, filterSet_refuses known filters member noCall, error_bind]

/-- A trace filtered by `column(c)`, with `c` one of its columns. -/
def columnFilterTrace : Value :=
  .record [("name", .str "t"), ("props", .record [("type", .str "scatter"), ("x", .str "query(x)")]),
    ("columns", .record [("c", .str "a > 1")]), ("filters", .list [.str "column(c)"])]

theorem columnFilter_refused :
    dialectOf "snowflake" = .ok .snowflake ∧ ¬ NullItem columnFilterTrace ∧
      textOrMissing columnFilterTrace "cohort_on" = true ∧
      fieldTexts columnFilterTrace "filters" = some ["column(c)"] ∧
      fieldTexts columnFilterTrace "order_by" = some [] ∧
      tokenize columnFilterTrace (.str "select 1") (.str "t") (.str "snowflake") = .error noArgument := by
  have known : dialectOf "snowflake" = .ok .snowflake := rfl
  have noNull : ¬ NullItem columnFilterTrace := by decide +kernel
  have cohort : textOrMissing columnFilterTrace "cohort_on" = true := by decide +kernel
  have filters : fieldTexts columnFilterTrace "filters" = some ["column(c)"] := by decide +kernel
  have orders : fieldTexts columnFilterTrace "order_by" = some [] := by decide +kernel
  have noCall : argumentOf "query" "column(c)" = none := argumentOf_column "c" (by decide)
  exact ⟨known, noNull, cohort, filters, orders,
    (tokenize_filters_orders known noNull cohort filters orders).2 "column(c)" List.mem_cons_self noCall⟩

end Dashwright.Query
