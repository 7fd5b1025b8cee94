import Dashwright.Proofs.Query.Layout

/-! What the test queries return.

A test query wraps a trace's query and returns its error message when the test fails. Its shape
is fixed: it takes, over the rows of the trace's query, the maximum of a per-row condition cast
to an integer, and joins that one value with an error row whose condition is 0. So it fails
exactly when that maximum is 0.

The reading of SQL is the standard one for that shape: a comparison with NULL is unknown, AND is
false as soon as one side is false, a cast carries an unknown value to NULL, `max` skips NULLs
and is NULL over no values, and an inner join keeps a pair only when its condition is true.

Taking the maximum, a test fails only when some row fails its condition and no row meets it.
So `not_null` fails exactly when there are rows and every one of them has a NULL in some
column, not as soon as one has; and `coordinate_exists` does not fail on a trace query with no
rows, nor when every row has a NULL where it should have a coordinate. -/

namespace Dashwright.Query

open Template

/-- A row of a query's result: the text each column holds, `none` standing for NULL. -/
structure Row where
  cell : String → Option String

/-- `a AND b` on truth values that may be unknown (`none`): false when either side is false,
true when both are true, and unknown otherwise. -/
def sqlAnd : Option Bool → Option Bool → Option Bool
  | some false, _ => some false
  | _, some false => some false
  | some true, some true => some true
  | _, _ => none

/-- Conditions joined by AND, left to right. -/
def sqlAll (ts : List (Option Bool)) : Option Bool := ts.foldl sqlAnd (some true)

/-- `a = b` on values that may be NULL: unknown when either side is NULL. -/
def sqlEq {α : Type} [DecidableEq α] (a b : Option α) : Option Bool :=
  match a, b with
  | some x, some y => some (decide (x = y))
  | _, _ => none

/-- `CAST(t AS int)` of a truth value: 1 for true, 0 for false, NULL for unknown. -/
def castInt (t : Option Bool) : Option Nat := t.map fun b => if b then 1 else 0

/-- `max` over a column: the largest of the values that are not NULL, and NULL when there are
none. -/
def sqlMax (xs : List (Option Nat)) : Option Nat := (xs.filterMap id).max?

/-- An inner join: the pairs of rows, one from each side, on which the condition is true. -/
def innerJoin {α β : Type} (left : List α) (right : List β) (on : α → β → Option Bool) :
    List (α × β) :=
  left.flatMap fun a => (right.filter fun b => on a b = some true).map (a, ·)

/-- A condition a test checks on each row of the trace's query. -/
inductive Atom where
  /-- `"column" is not null` -/
  | notNull (column : String)
  /-- `"column" = 'value'` -/
  | equals (column value : String)

def Atom.eval (r : Row) : Atom → Option Bool
  | .notNull c => some (r.cell c).isSome
  | .equals c v => sqlEq (r.cell c) (some v)

/-- The line of a test query that states a condition. It reads as the condition when the
column holds no double quote and the value no single quote. -/
def Atom.line : Atom → String
  | .notNull c => "\n            \"" ++ c ++ "\" is not null "
  | .equals c v => "\n            \"" ++ c ++ "\" = '" ++ v ++ "'"

/-- A test query: the trace's query, the conditions it joins by AND on each of its rows, and
its error message, which lists what was tested after the word `coordinates` and then says what
went wrong. -/
structure CheckQuery where
  traceSql : String
  atoms : List Atom
  listing : String
  verdict : String

def CheckQuery.message (q : CheckQuery) : String := "coordinates" ++ q.listing ++ q.verdict

def CheckQuery.text (q : CheckQuery) : String :=
  checkHead q.traceSql ++ " AND".intercalate (q.atoms.map Atom.line) ++ checkMiddle ++
    q.listing ++ q.verdict ++ "' as err_msg " ++ checkTail

/-- Whether a row meets all the conditions of a test. -/
def CheckQuery.holds (q : CheckQuery) (r : Row) : Option Bool := sqlAll (q.atoms.map (·.eval r))

/-- The test's value: the maximum, over the rows of the trace's query, of whether each row
meets the conditions, cast to an integer. -/
def CheckQuery.condition (q : CheckQuery) (rows : List Row) : Option Nat :=
  sqlMax (rows.map fun r => castInt (q.holds r))

/-- The rows a test query returns on the rows of the trace's query: its one test row joined
with its one error row, whose condition is 0, on equal conditions; each pair gives the error
message. -/
def CheckQuery.run (q : CheckQuery) (rows : List Row) : List String :=
  (innerJoin [q.condition rows] [((0 : Nat), q.message)] fun c e => sqlEq (some e.1) c).map
    (·.2.2)

/-- The `not_null` test of the given columns. -/
def notNullCheck (traceSql : String) (attrs : List String) : CheckQuery where
  traceSql := traceSql
  atoms := attrs.map .notNull
  listing := "or".intercalate (attrs.map (" " ++ ·))
  verdict := " contained null values."

/-- The `coordinate_exists` test of the given columns and texts. -/
def coordinateCheck (traceSql : String) (coords : List (String × String)) : CheckQuery where
  traceSql := traceSql
  atoms := coords.map fun kv => .equals kv.1 kv.2
  listing := ",".intercalate (coords.map fun kv => " " ++ kv.1 ++ "=" ++ kv.2)
  verdict := " were not found in any trace cohort"

@[simp] theorem sqlAnd_eq_false {a b : Option Bool} :
    sqlAnd a b = some false ↔ a = some false ∨ b = some false := by
  rcases a with _ | ⟨_ | _⟩ <;> rcases b with _ | ⟨_ | _⟩ <;> simp [sqlAnd]

@[simp] theorem sqlAnd_eq_true {a b : Option Bool} :
    sqlAnd a b = some true ↔ a = some true ∧ b = some true := by
  rcases a with _ | ⟨_ | _⟩ <;> rcases b with _ | ⟨_ | _⟩ <;> simp [sqlAnd]

theorem foldl_sqlAnd_eq_false (acc : Option Bool) (ts : List (Option Bool)) :
    ts.foldl sqlAnd acc = some false ↔ acc = some false ∨ some false ∈ ts := by
  induction ts generalizing acc with
  | nil => simp
  | cons t ts ih =>
    rw [List.foldl_cons, ih, sqlAnd_eq_false, List.mem_cons, or_assoc, @eq_comm _ (some false) t]

theorem foldl_sqlAnd_eq_true (acc : Option Bool) (ts : List (Option Bool)) :
    ts.foldl sqlAnd acc = some true ↔ acc = some true ∧ ∀ t ∈ ts, t = some true := by
  induction ts generalizing acc with
  | nil => simp
  | cons t ts ih => rw [List.foldl_cons, ih, sqlAnd_eq_true, List.forall_mem_cons, and_assoc]

theorem sqlAll_eq_false (ts : List (Option Bool)) : sqlAll ts = some false ↔ some false ∈ ts := by
  simp [sqlAll, foldl_sqlAnd_eq_false]

theorem sqlAll_eq_true (ts : List (Option Bool)) :
    sqlAll ts = some true ↔ ∀ t ∈ ts, t = some true := by
  simp [sqlAll, foldl_sqlAnd_eq_true]

@[simp] theorem sqlEq_some_eq_true {α : Type} [DecidableEq α] (a : Option α) (v : α) :
    sqlEq a (some v) = some true ↔ a = some v := by
  cases a <;> simp [sqlEq]

@[simp] theorem sqlEq_some_eq_false {α : Type} [DecidableEq α] (a : Option α) (v : α) :
    sqlEq a (some v) = some false ↔ ∃ x, a = some x ∧ x ≠ v := by
  cases a <;> simp [sqlEq]

@[simp] theorem castInt_eq_some (t : Option Bool) (n : Nat) :
    castInt t = some n ↔ (t = some true ∧ n = 1) ∨ (t = some false ∧ n = 0) := by
  rcases t with _ | ⟨_ | _⟩ <;> simp [castInt, eq_comm]

theorem sqlMax_eq_zero (xs : List (Option Nat)) :
    sqlMax xs = some 0 ↔ some 0 ∈ xs ∧ ∀ n, some n ∈ xs → n = 0 := by
  simp [sqlMax, List.max?_eq_some_iff]

section Run

variable (q : CheckQuery) (rows : List Row)

theorem run_eq : q.run rows = if q.condition rows = some 0 then [q.message] else [] := by
  unfold CheckQuery.run innerJoin
  cases q.condition rows with
  | none => simp [sqlEq]
  | some n => by_cases zero : n = 0 <;> simp [sqlEq, zero, @eq_comm _ 0]

theorem condition_eq_zero :
    q.condition rows = some 0 ↔
      (∃ r ∈ rows, q.holds r = some false) ∧ ∀ r ∈ rows, q.holds r ≠ some true := by
  simp only [CheckQuery.condition, sqlMax_eq_zero, List.mem_map]
  refine and_congr (exists_congr fun r => and_congr_right fun _ => by simp) ⟨?_, ?_⟩
  · intro onlyZero r row passed
    have one := onlyZero 1 ⟨r, row, by simp [passed]⟩
    exact absurd one (by decide)
  · rintro nonePassed n ⟨r, row, cast⟩
    rcases (castInt_eq_some _ _).mp cast with ⟨passed, -⟩ | ⟨-, rfl⟩
    · exact absurd passed (nonePassed r row)
    · rfl

/-- A test query returns a row exactly when some row of the trace's query fails the test's
conditions and no row meets them all. -/
theorem run_ne_nil_iff :
    q.run rows ≠ [] ↔ (∃ r ∈ rows, q.holds r = some false) ∧ ∀ r ∈ rows, q.holds r ≠ some true := by
  rw [run_eq, ← condition_eq_zero]
  split <;> simp [*]

end Run

section Tests

variable (traceSql : String) (r : Row)

theorem notNull_holds_eq_false (attrs : List String) :
    (notNullCheck traceSql attrs).holds r = some false ↔ ∃ a ∈ attrs, r.cell a = none := by
  rw [notNullCheck, CheckQuery.holds, List.map_map, sqlAll_eq_false, List.mem_map]
  simp [Atom.eval]

theorem notNull_holds_ne_true (attrs : List String) :
    (notNullCheck traceSql attrs).holds r ≠ some true ↔ ∃ a ∈ attrs, r.cell a = none := by
  rw [notNullCheck, CheckQuery.holds, List.map_map, ne_eq, sqlAll_eq_true, List.forall_mem_map]
  simp [Atom.eval]

theorem coordinate_holds_eq_false (coords : List (String × String)) :
    (coordinateCheck traceSql coords).holds r = some false ↔
      ∃ kv ∈ coords, ∃ x, r.cell kv.1 = some x ∧ x ≠ kv.2 := by
  rw [coordinateCheck, CheckQuery.holds, List.map_map, sqlAll_eq_false, List.mem_map]
  simp [Atom.eval]

theorem coordinate_holds_eq_true (coords : List (String × String)) :
    (coordinateCheck traceSql coords).holds r = some true ↔
      ∀ kv ∈ coords, r.cell kv.1 = some kv.2 := by
  rw [coordinateCheck, CheckQuery.holds, List.map_map, sqlAll_eq_true, List.forall_mem_map]
  simp [Atom.eval]

end Tests

theorem notNull_run_ne_nil_iff (traceSql : String) (attrs : List String) (rows : List Row) :
    (notNullCheck traceSql attrs).run rows ≠ [] ↔
      rows ≠ [] ∧ ∀ r ∈ rows, ∃ a ∈ attrs, r.cell a = none := by
  simp only [run_ne_nil_iff, notNull_holds_eq_false, notNull_holds_ne_true]
  constructor
  · rintro ⟨⟨r, row, -⟩, everyRow⟩
    exact ⟨List.ne_nil_of_mem row, everyRow⟩
  · rintro ⟨nonempty, everyRow⟩
    obtain ⟨r, row⟩ := List.exists_mem_of_ne_nil rows nonempty
    exact ⟨⟨r, row, everyRow r row⟩, everyRow⟩

theorem coordinate_run_ne_nil_iff (traceSql : String) (coords : List (String × String))
    (rows : List Row) :
    (coordinateCheck traceSql coords).run rows ≠ [] ↔
      (∃ r ∈ rows, ∃ kv ∈ coords, ∃ x, r.cell kv.1 = some x ∧ x ≠ kv.2) ∧
        ∀ r ∈ rows, ¬ ∀ kv ∈ coords, r.cell kv.1 = some kv.2 := by
  simp only [run_ne_nil_iff, coordinate_holds_eq_false, ne_eq, coordinate_holds_eq_true]

@[simp] theorem slot_str_text (s : String) : (Slot.value (.str s)).text = pure s := by
  simp [Slot.text, Value.display]

theorem render_notNull (traceSql : String) (attrs : List String) :
    Check.render .notNull traceSql [("attributes", .list (attrs.map .str))] =
      .ok (notNullCheck traceSql attrs).text := by
  simp only [Check.render, paramSlot, List.find?, beq_self_eq_true, Slot.iterate, Value.iterate,
    pure_bind, joinLoop_map]
  rw [joinLoop_sep (fun a => "\n            \"" ++ a ++ "\" is not null ") " AND",
    joinLoop_sep (" " ++ ·) "or"]
  · -- the message's two literals make the one literal of the template
    simp only [pure_bind, CheckQuery.text, notNullCheck, List.map_map]
    rw [@String.append_assoc _ " contained null values." "' as err_msg "]
    simp only [String.reduceAppend]
    rfl
  all_goals simp

theorem render_coordinates (traceSql : String) (coords : List (String × String)) :
    Check.render .coordinateExists traceSql
        [("coordinates", Value.record (coords.map fun kv => (kv.1, .str kv.2)))] =
      .ok (coordinateCheck traceSql coords).text := by
  simp only [Check.render, paramSlot, List.find?, beq_self_eq_true, itemsOf, Value.record,
    List.map_map, pure_bind, joinLoop_map]
  rw [joinLoop_sep (fun kv => "\n            \"" ++ kv.1 ++ "\" = '" ++ kv.2 ++ "'") " AND",
    joinLoop_sep (fun kv => " " ++ kv.1 ++ "=" ++ kv.2) ","]
  · simp only [pure_bind, CheckQuery.text, coordinateCheck, List.map_map]
    rw [@String.append_assoc _ " were not found in any trace cohort" "' as err_msg "]
    simp only [String.reduceAppend]
    rfl
  all_goals simp

/-- The test queries, as rendered, on any rows of any trace's query: `not_null` returns a row
exactly when there are rows and each has a NULL in one of the attributes, and
`coordinate_exists` exactly when some row holds another text in one of the coordinates' columns
and no row holds them all. -/
theorem rendered_tests_fail_iff (traceSql : String) (attrs : List String)
    (coords : List (String × String)) :
    (Check.render .notNull traceSql [("attributes", .list (attrs.map .str))] =
        .ok (notNullCheck traceSql attrs).text ∧
      ∀ rows, (notNullCheck traceSql attrs).run rows ≠ [] ↔
        rows ≠ [] ∧ ∀ r ∈ rows, ∃ a ∈ attrs, r.cell a = none) ∧
    (Check.render .coordinateExists traceSql
        [("coordinates", Value.record (coords.map fun kv => (kv.1, .str kv.2)))] =
        .ok (coordinateCheck traceSql coords).text ∧
      ∀ rows, (coordinateCheck traceSql coords).run rows ≠ [] ↔
        (∃ r ∈ rows, ∃ kv ∈ coords, ∃ x, r.cell kv.1 = some x ∧ x ≠ kv.2) ∧
          ∀ r ∈ rows, ¬ ∀ kv ∈ coords, r.cell kv.1 = some kv.2) :=
  ⟨⟨render_notNull traceSql attrs, notNull_run_ne_nil_iff traceSql attrs⟩,
    ⟨render_coordinates traceSql coords, coordinate_run_ne_nil_iff traceSql coords⟩⟩

/-- One row with a NULL beside one without passes `not_null`, and a query with no rows, or with
a NULL where the coordinate should be, passes `coordinate_exists`. -/
theorem nullRow_passes_tests :
    (⟨fun _ => none⟩ : Row).cell "x" = none ∧
      (notNullCheck "select x from t" ["x"]).run [⟨fun _ => none⟩, ⟨fun _ => some "1"⟩] = [] ∧
      (coordinateCheck "select x from t" [("x", "1")]).run [] = [] ∧
      (coordinateCheck "select x from t" [("x", "1")]).run [⟨fun _ => none⟩] = [] := by
  decide

end Dashwright.Query
