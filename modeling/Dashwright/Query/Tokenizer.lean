import Dashwright.Query.Statement
import Dashwright.Query.Call
import Dashwright.Value.Access

/-!
Tokenizing a trace: splitting a trace's fields into the parts of its query.

* Select items: every leaf under `props` whose text is a `query(...)` call, named by its
  dotted path, with the call's argument; and every leaf under `columns`, with its text.
* Order: the arguments of the `query(...)` calls of `order_by`.
* Cohort: the trace's `cohort_on` (the argument when it is a call), else its name quoted,
  else `'values'`.
* Grouping: the select items, the order terms without their directions, and the cohort, less
  quoted literals and aggregates.
* Filters: the arguments of `filters`, sorted into aggregate, window and vanilla ones; window
  filters are kept on Snowflake only, with a warning elsewhere.
-/

namespace Dashwright.Query

/-- Filter statements sorted by kind. -/
structure FilterSet where
  aggregate : List String
  window : List String
  vanilla : List String
deriving BEq, DecidableEq, Repr, Inhabited

/-- The parts of a trace's query. -/
structure TokenizedTrace where
  sql : String
  cohortOn : String
  target : String
  groupBy : Option (List String)
  selectItems : List (String × String)
  filterBy : Option FilterSet
  orderBy : Option (List String)
deriving BEq, DecidableEq, Repr, Inhabited

/-- A step of a path into a trace: a key of a mapping or an index into a list. -/
inductive Step where
  | key (k : Value)
  | index (i : Nat)

def Step.text : Step → String
  | .key k => k.text
  | .index i => toString i

/-- The default cohort: every row in one cohort. -/
def defaultCohort : String := "'values'"

def windowFilterWarning : String :=
  "Window function filtering is only supported on snowflake targets"

/-- The failure of a walk that never ends, stopped by the recursion limit. -/
def endlessWalk : Failure := ⟨.tooDeep, none⟩

/-- The select item a leaf gives, if any: under `props` the argument of its `query(...)` call,
under `columns` its text. -/
def leafStatement (path : List Step) (leaf : Value) : Option String :=
  let text := leaf.text
  match path.head? with
  | some (.key (.str "props")) => argumentOf "query" text
  | some (.key (.str "columns")) => some text
  | _ => none

/-- Adds a select item; a repeated name keeps its place and takes the new statement. -/
def addItem (items : List (String × String)) (name stmt : String) : List (String × String) :=
  if items.any (·.1 == name) then items.map fun (n, s) => if n == name then (n, stmt) else (n, s)
  else items ++ [(name, stmt)]

mutual
/-- Walks a value, collecting select items. Null mapping values are skipped; a null list item
is handed to `again` with its path, and the walk goes on with what that gives. -/
def collectItems (again : List Step → List (String × String) → Outcome (List (String × String)))
    (path : List Step) (acc : List (String × String)) : Value → Outcome (List (String × String))
  | .map es _ => collectEntries again path acc es
  | .list xs => collectList again path 0 acc xs
  | leaf =>
    match leafStatement path leaf with
    | some stmt =>
      let name := ".".intercalate (path.map Step.text)
      if stmt.isEmpty || name == "cohort_on" || name == "filter" || name == "order_by" then pure acc
      else pure (addItem acc name stmt)
    | none => pure acc

def collectEntries (again : List Step → List (String × String) → Outcome (List (String × String)))
    (path : List Step) (acc : List (String × String)) :
    List (Value × Value) → Outcome (List (String × String))
  | [] => pure acc
  | (_, .none) :: rest => collectEntries again path acc rest
  | (k, v) :: rest => do
    let acc ← collectItems again (path ++ [.key k]) acc v
    collectEntries again path acc rest

def collectList (again : List Step → List (String × String) → Outcome (List (String × String)))
    (path : List Step) (i : Nat) (acc : List (String × String)) :
    List Value → Outcome (List (String × String))
  | [] => pure acc
  | .none :: rest => do
    let acc ← again (path ++ [.index i]) acc
    collectList again path (i + 1) acc rest
  | x :: rest => do
    let acc ← collectItems again (path ++ [.index i]) acc x
    collectList again path (i + 1) acc rest
end

/-- How many times the walk may start again from the root before the recursion limit stops
it. -/
def restartLimit : Nat := 990

/-- The walk from the root of a trace. It reads a null as the sign to start at the root, so a
null list item starts the walk again, under the path that reached it; each start nests the
walk deeper, and after `depth` of them the recursion limit stops it. -/
def walkFromRoot (root : Value) : Nat → List Step → List (String × String) → Outcome (List (String × String))
  | 0, _, _ => throw endlessWalk
  | depth + 1, path, acc => collectItems (walkFromRoot root depth) path acc root

/-- The select items of a trace, in the order they are first met. -/
def selectItems (trace : Value) : Outcome (List (String × String)) :=
  walkFromRoot trace restartLimit [] []

/-- A trace field, a null or absent one read as missing. -/
def field (trace : Value) (name : String) : Option Value :=
  match trace.field? name with
  | some .none => none
  | other => other

/-- The arguments of the `query(...)` calls among a trace's order terms. -/
def orderTerms (trace : Value) : Outcome (Option (List String)) := do
  match field trace "order_by" with
  | some v =>
    if !v.truthy then return none
    let terms ← v.iterate
    let args ← terms.mapM (argumentOfValue "query")
    let kept := args.filterMap fun a => match a with
      | some s => if s.isEmpty then none else some s
      | none => none
    return if kept.isEmpty then none else some kept
  | none => return none

def cohortOn (trace : Value) : Outcome String := do
  let name := (field trace "name").getD .none
  let own := (field trace "cohort_on").getD .none
  let chosen : Value :=
    if own.truthy then own
    else if name.truthy then .str ("'" ++ name.text ++ "'")
    else .str defaultCohort
  let chosen := if chosen.truthy then chosen else .str defaultCohort
  match ← argumentOfValue "query" chosen with
  | some arg => if arg.isEmpty then pure chosen.text else pure arg
  | none => pure chosen.text

/-- A whole quoted literal: after trimming, a quote, one line of anything, and a quote. -/
def isQuotedLiteral (s : String) : Bool :=
  match Text.dropSpaceRight (Text.dropSpaceLeft s.toList) with
  | '\'' :: rest@(_ :: _) =>
    rest.getLast? == some '\'' && !(rest.dropLast.contains '\n')
  | _ => false

/-- An order term without its direction: lower case, every `asc` and `desc` removed, trimmed. -/
def withoutDirection (term : String) : String :=
  Text.strip (Text.replaceAll (Text.replaceAll (Text.lower term) "asc" "") "desc" "")

/-- Puts a text into an ascending list before the first text not below it. -/
def insertText (x : String) : List String → List String
  | [] => [x]
  | y :: ys => if x ≤ y then x :: y :: ys else y :: insertText x ys

/-- The distinct texts of a list, in ascending order. -/
def distinctSorted (xs : List String) : List String :=
  (xs.foldl (fun acc x => if acc.contains x then acc else acc ++ [x]) []).foldr insertText []

/-- The statements a trace's query groups by: those of the candidates that are neither quoted
literals nor aggregates, without repeats and in ascending order. The dialect is asked for only when some candidate
needs classifying. -/
def groupStatements (dialectName : String) (candidates : List String) :
    Outcome (Option (List String)) := do
  let mut kept : List String := []
  for s in candidates do
    if isQuotedLiteral s then continue
    let d ← dialectOf dialectName
    match classify d s with
    | .aggregate => pure ()
    | _ => kept := kept ++ [s]
  return if kept.isEmpty then none else some (distinctSorted kept)

/-- The filters of a trace by kind, with the warnings they give. -/
def filterSet (dialectName : String) (trace : Value) :
    Outcome (Option FilterSet × List String) := do
  match field trace "filters" with
  | none => return (none, [])
  | some v =>
    if !v.truthy then return (none, [])
    let mut fs : FilterSet := ⟨[], [], []⟩
    for f in ← v.iterate do
      let arg ← argumentOfValue "query" f
      let d ← dialectOf dialectName
      match arg with
      | none => throw (Failure.wrongType "expected string or bytes-like object, got 'NoneType'")
      | some a =>
        match classify d a with
        | .window => fs := { fs with window := fs.window ++ [a] }
        | .vanilla => fs := { fs with vanilla := fs.vanilla ++ [a] }
        | .aggregate => fs := { fs with aggregate := fs.aggregate ++ [a] }
    if dialectName != "snowflake" then
      let warnings := if fs.window.isEmpty then [] else [windowFilterWarning]
      return (some { fs with window := [] }, warnings)
    return (some fs, [])

/-- The text of a field whose value must be text: numbers are written out, a null or a
container is refused. -/
def textField (owner fieldName : String) : Value → Outcome String
  | .str s => pure s
  | .int i => pure (toString i)
  | .bool b => pure (if b then "True" else "False")
  | .float f => pure (Number.floatText f)
  | .none => throw (Failure.badValue ("1 validation error for " ++ owner ++ "\n" ++ fieldName ++
      "\n  none is not an allowed value (type=type_error.none.not_allowed)"))
  | _ => throw (Failure.badValue ("1 validation error for " ++ owner ++ "\n" ++ fieldName ++
      "\n  str type expected (type=type_error.str)"))

/-- Tokenizes a trace for a model's SQL and a target, giving the parts and the warnings. -/
def tokenize (trace : Value) (modelSql : Value) (targetName : Value) (dialect : Value) :
    Outcome (TokenizedTrace × List String) := do
  let dialectName ← textField "Dialect" "type" dialect
  let items ← selectItems trace
  let order ← orderTerms trace
  let cohort ← cohortOn trace
  let orderClean := (order.getD []).map withoutDirection
  let group ← groupStatements dialectName (items.map Prod.snd ++ orderClean ++ [cohort])
  let (filters, warnings) ← filterSet dialectName trace
  let cohort ← cohortOn trace
  let sql ← textField "TokenizedTrace" "sql" modelSql
  let target ← textField "TokenizedTrace" "target" targetName
  pure ({ sql := sql, cohortOn := cohort, target := target, groupBy := group,
          selectItems := items, filterBy := filters, orderBy := order }, warnings)

end Dashwright.Query

namespace Dashwright.Query

/-- Classifies a statement given as a value, in the dialect a value names. -/
def classifyValue (dialect statement : Value) : Outcome StatementKind := do
  let d ← dialectOf (← textField "Dialect" "type" dialect)
  match statement with
  | .str s => pure (classify d s)
  | v => throw (Failure.wrongType ("expected string or bytes-like object, got '" ++ v.typeName ++ "'"))

/-- The aggregate functions and comparison operators of the dialect a value names. -/
def keywordsOf (dialect : Value) : Outcome (List String × List String) := do
  let d ← dialectOf (← textField "Dialect" "type" dialect)
  pure (d.aggregates, d.comparisons)

end Dashwright.Query
