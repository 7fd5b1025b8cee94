import Dashwright.Reference.Markdown
import Dashwright.Text.Blank
import Dashwright.Text.Case

/-!
The navigation of the reference pages, built from the configuration schema.

Every object the project refers to gets a page under `reference/configuration`, nested under
the object that refers to it. The structure is first unfolded from the project's properties:
a property that refers to objects holds their structures (only the names for `props` and
`layout`, and a capitalised group for a choice among item objects), any other property its
type. An object met at several depths is kept only where it is shallowest. The navigation
then lists, for every object, its page when it is defined and the entries of the objects
below it.

The pages are then named two ways: from a schema reference to a Markdown link, and from an
object's name to its file.
-/

namespace Dashwright.Reference

/-- How a property refers to objects. -/
inductive RefKind where
  | item
  | anyOf
  | oneOf
  | mapping
deriving BEq

/-- The `$ref` values of some entries that have one. -/
def entryRefs (entries : List Value) : Outcome (List Value) := do
  let mut refs := []
  for entry in entries do
    let r ← getText entry "$ref" .none
    if r.truthy then refs := refs ++ [r]
  pure refs

/-- The objects a property refers to and how: the reference of its items, the references
among its alternatives, those among its items' choices, or the targets of its discriminator. -/
def refsOf (field : Value) : Outcome (List Value × Option RefKind) := do
  let ref ← getText (← getText field "items" emptyDict) "$ref" .none
  if ref.truthy then return ([ref], some .item)
  let anyOf ← getText field "anyOf" (.list [])
  if anyOf.truthy then return (← entryRefs (← Value.iterate anyOf), some .anyOf)
  let oneOf ← getText (← getText field "items" emptyDict) "oneOf" (.list [])
  if oneOf.truthy then return (← entryRefs (← Value.iterate oneOf), some .oneOf)
  let mapping ← getText (← getText field "discriminator" emptyDict) "mapping" emptyDict
  let targets ← match mapping with
    | .map es _ => pure (es.map Prod.snd)
    | v => throw (noAttribute v "values")
  if !targets.isEmpty then return (targets.filter Value.truthy, some .mapping)
  return ([], none)

/-- The definition of an object by name, or an empty mapping. -/
def definitionOf (schema : Value) (name : String) : Outcome Value := do
  getText (← getText schema "$defs" emptyDict) name emptyDict

def sortedItems (v : Value) : Outcome (List (Value × Value)) := do
  let es ← itemsOf v
  Value.sortByKeys Value.lessThan (es.map fun e => (e.1, e)) false

/-- Sets an entry inside the mapping held at a key. -/
def insertInside (outer : List (Value × Value)) (key k v : Value) : Outcome (List (Value × Value)) :=
  match lookupEntry key outer with
  | some (.map es locs) => pure (insertEntry key (.map (insertEntry k v es) locs) outer)
  | some other => throw (Failure.wrongType ("'" ++ other.typeName ++ "' object does not support item assignment"))
  | none => throw (Failure.missingKey (key.repr))

/-- The properties whose objects are listed by name only, without their structures. -/
def namesOnly (field : Value) : Bool :=
  Value.equal field (.str "props") || Value.equal field (.str "layout")

/-- The heading under which a property's choice among item objects is grouped: its name
capitalised. -/
def groupOf (field : Value) : Outcome Value :=
  match field with
  | .str f => pure (.str (Text.capitalize f))
  | v => throw (noAttribute v "capitalize")

/-- The structure below an object: for each property, sorted by name, the structures of the
objects it refers to, or its type. -/
def unfoldModel (schema : Value) : Nat → Value → Outcome Value
  | 0, _ => throw (Failure.make .tooDeep "maximum recursion depth exceeded")
  | fuel + 1, model => do
    let props ← getText model "properties" emptyDict
    let mut nested : List (Value × Value) := []
    for (field, data) in (← sortedItems props) do
      let (refs, kind) ← refsOf data
      let special := namesOnly field
      if !refs.isEmpty && !special && kind != some .oneOf then
        for ref in refs do
          let name ← lastSegment ref
          let sub ← unfoldModel schema fuel (← definitionOf schema name)
          nested := insertEntry (.str name) sub nested
      else if !refs.isEmpty && special then
        for ref in refs do
          let name ← lastSegment ref
          let _ ← definitionOf schema name
          nested := insertEntry (.str name) emptyDict nested
      else if !refs.isEmpty && kind == some .oneOf then
        let group ← groupOf field
        nested := insertEntry group emptyDict nested
        for ref in refs do
          let name ← lastSegment ref
          let sub ← unfoldModel schema fuel (← definitionOf schema name)
          nested ← insertInside nested group (.str name) sub
      else
        nested := insertEntry field (← getText data "type" (.str "unknown")) nested
    pure (Value.dict nested)

mutual

/-- Every key that holds a mapping, with the path of keys leading to it, depth first. -/
def keyPaths (path : List Value) : Value → List (Value × List Value)
  | .map es _ => entryPaths path es
  | _ => []

def entryPaths (path : List Value) : List (Value × Value) → List (Value × List Value)
  | [] => []
  | (k, v) :: rest =>
    let here := match v with
      | .map _ _ => (k, path ++ [k]) :: keyPaths (path ++ [k]) v
      | _ => []
    here ++ entryPaths path rest

end

/-- The paths gathered for the first group whose key equals a key. -/
def lookupGroup (k : Value) : List (Value × List (List Value)) → Option (List (List Value))
  | [] => none
  | (k2, ps) :: rest => if Value.equal k k2 then some ps else lookupGroup k rest

/-- Adds the path of a key to the groups whose key equals it, or starts a group for the key. -/
def addToGroup (groups : List (Value × List (List Value))) (entry : Value × List Value) :
    List (Value × List (List Value)) :=
  match lookupGroup entry.1 groups with
  | some _ => groups.map fun g => if Value.equal entry.1 g.1 then (g.1, g.2 ++ [entry.2]) else g
  | none => groups ++ [(entry.1, [entry.2])]

/-- The length of the shortest of some paths, or 9999 when none is shorter. -/
def shortestLength (ps : List (List Value)) : Nat :=
  ps.foldl (fun m p => min m p.length) 9999

/-- The paths of keys met more than once that are deeper than their shallowest path. -/
def deeperPaths (paths : List (Value × List Value)) : List (List Value) :=
  (paths.foldl addToGroup []).flatMap fun g => g.2.filter (·.length != shortestLength g.2)

/-- Removes a key from the mapping at a path of keys. -/
def removeAt : List Value → Value → Value → Value
  | [], key, .map es locs => .map (es.filter fun (k, _) => !Value.equal k key) locs
  | step :: rest, key, .map es locs =>
    .map (es.map fun (k, v) => if Value.equal k step then (k, removeAt rest key v) else (k, v)) locs
  | _, _, v => v

/-- One step of a walk down a structure: into the value of the key when the walk stands on a
mapping that has it, and nowhere otherwise. Gives where the walk stands and the keys taken. -/
def walkStep (pos : Value × List Value) (key : Value) : Value × List Value :=
  match pos.1 with
  | .map es _ =>
    match lookupEntry key es with
    | some v => (v, pos.2 ++ [key])
    | none => pos
  | _ => pos

/-- Removes the last key of a path from where the path leads; a key of the path that is no
longer there is passed over, and the walk stays where it is. -/
def popPath (tree : Value) (path : List Value) : Outcome Value := do
  let some last := path.getLast? | throw (Failure.make .badIndex "list index out of range")
  let (here, walked) := path.dropLast.foldl walkStep (tree, [])
  match here with
  | .map es _ =>
    if (lookupEntry last es).isSome then pure (removeAt walked last tree) else pure tree
  | v => throw (noAttribute v "keys")

/-- Removes from a structure, one after another, the paths of keys deeper than the shallowest
path of their key. -/
def prune (tree : Value) : Outcome Value := do
  let mut pruned := tree
  for p in deeperPaths (keyPaths [] tree) do
    pruned ← popPath pruned p
  pure pruned

mutual

/-- The navigation entries of a structure under a base path: for every key holding a mapping,
its page when the object is defined, then the entries below it. -/
def navEntries (schema : Value) (base : String) : Value → Outcome (List Value)
  | .map es _ => navOfEntries schema base es
  | _ => pure []

def navOfEntries (schema : Value) (base : String) : List (Value × Value) → Outcome (List Value)
  | [] => pure []
  | (model, contents) :: rest => do
    let here ← match contents with
      | .map _ _ => do
        let name ← model.display
        let sub := base ++ "/" ++ name
        let below ← navEntries schema sub contents
        let defined ← getOr (← getText schema "$defs" emptyDict) model emptyDict
        let pages := if defined.truthy then .str (sub ++ "/index.md") :: below else below
        pure [Value.dict [(model, .list pages)]]
      | _ => pure []
    pure (here ++ (← navOfEntries schema base rest))

end

def modelsNav (schema : Value) : Outcome Value := do
  let unfolded ← unfoldModel schema 990 schema
  let pruned ← prune unfolded
  pure (.list (← navEntries schema "reference/configuration" pruned))

mutual

/-- All texts in a navigation, in order: a text itself, the items of a list, the values of a
mapping. -/
def navTexts : Value → List String
  | .str s => [s]
  | .list xs => navTextItems xs
  | .map es _ => navTextEntries es
  | _ => []

def navTextItems : List Value → List String
  | [] => []
  | x :: rest => navTexts x ++ navTextItems rest

def navTextEntries : List (Value × Value) → List String
  | [] => []
  | (_, v) :: rest => navTexts v ++ navTextEntries rest

end

/-- The object a page path is for: the part before the last. -/
def pageModel (path : String) : Outcome String :=
  let parts := Text.splitOn path "/"
  if parts.length < 2 then throw (Failure.make .badIndex "list index out of range")
  else pure (parts.getD (parts.length - 2) "")

/-- The Markdown link of every page, by the schema reference of its object. -/
def modelToPage (nav : Value) : Outcome Value := do
  let mut mapping : List (Value × Value) := []
  for path in navTexts nav do
    let model ← pageModel path
    let link := "[" ++ model ++ "](https://docs.visivo.io/" ++ Text.replaceAll path "index.md" ")"
    mapping := insertEntry (.str ("#/$defs/" ++ model)) (.str link) mapping
  pure (Value.dict mapping)

/-- The file of every page, by the name of its object. -/
def modelToPath (nav : Value) : Outcome Value := do
  let mut mapping : List (Value × Value) := []
  for path in navTexts nav do
    let model ← pageModel path
    mapping := insertEntry (.str model) (.str ("mkdocs/" ++ path)) mapping
  pure (Value.dict mapping)

mutual

/-- The path of keys and indices to the first key equal to the one sought, depth first. -/
def findPath (key : Value) (path : List Value) : Value → Option (List Value)
  | .map es _ => findInEntries key path es
  | .list xs => findInItems key path 0 xs
  | _ => none

def findInEntries (key : Value) (path : List Value) : List (Value × Value) → Option (List Value)
  | [] => none
  | (k, v) :: rest =>
    if Value.equal k key then some (path ++ [k])
    else
      match findPath key (path ++ [k]) v with
      | some p => some p
      | none => findInEntries key path rest

def findInItems (key : Value) (path : List Value) (i : Nat) : List Value → Option (List Value)
  | [] => none
  | x :: rest =>
    match findPath key (path ++ [.int i]) x with
    | some p => some p
    | none => findInItems key path (i + 1) rest

end

/-- An integer read from a text as the integer constructor reads it: blanks around, a sign,
and digits with single underscores between them. -/
def readInteger (s : String) : Option Int :=
  let body := (Text.strip s).toList
  let (neg, digits) := match body with
    | '-' :: rest => (true, rest)
    | '+' :: rest => (false, rest)
    | cs => (false, cs)
  let wellFormed := !digits.isEmpty && digits.head? != some '_' && digits.getLast? != some '_' &&
    digits.all (fun c => c.isDigit || c == '_') &&
    !(digits.zip (digits.drop 1)).any (fun (a, b) => a == '_' && b == '_')
  if !wellFormed then none
  else
    let v : Nat := (digits.filter Char.isDigit).foldl (fun acc c => acc * 10 + (c.toNat - 48)) 0
    some (if neg then -(v : Int) else v)

/-- A path step used as a list index, converted to an integer. -/
def stepIndex (step : Value) : Outcome Int :=
  match step with
  | .int i => pure i
  | .bool b => pure (if b then 1 else 0)
  | .str s =>
    match readInteger s with
    | some i => pure i
    | none => throw (Failure.badValue ("invalid literal for int() with base 10: " ++ quoteText s))
  | .float f =>
    if f.isNaN then throw (Failure.badValue "cannot convert float NaN to integer")
    else if f.isInf then throw (Failure.make .overflow "cannot convert float infinity to integer")
    else pure (if f < 0 then -((-f).floor.toUInt64.toNat : Int) else (f.floor.toUInt64.toNat : Int))
  | v => throw (Failure.wrongType ("int() argument must be a string, a bytes-like object or a real number, not '" ++
      v.typeName ++ "'"))

/-- The position an index names in a list of a length, counting from the end when negative. -/
def listPosition (i : Int) (n : Nat) : Option Nat :=
  let j : Int := if i < 0 then i + (n : Int) else i
  if 0 ≤ j ∧ j < n then some j.toNat else none

def assignItem (container key v : Value) : Outcome Value :=
  match container with
  | .map es locs =>
    if key.hashable then pure (.map (insertEntry key v es) locs) else throw (Value.unhashable key)
  | .list xs =>
    match key with
    | .int _ | .bool _ => do
      let i ← stepIndex key
      match listPosition i xs.length with
      | some j => pure (.list (xs.set j v))
      | none => throw (Failure.make .badIndex "list assignment index out of range")
    | k => throw (Failure.wrongType ("list indices must be integers or slices, not " ++ k.typeName))
  | c => throw (Failure.wrongType ("'" ++ c.typeName ++ "' object does not support item assignment"))

/-- Replaces what a path of keys and indices leads to; the steps before the last walk mappings
by key and lists by index. -/
def replaceUsingPath (newValue : Value) : Value → List Value → Outcome Value
  | current, [] => pure current
  | current, [last] => assignItem current last newValue
  | current, step :: rest@(_ :: _) =>
    match current with
    | .map es locs => do
      if !step.hashable then throw (Value.unhashable step)
      match lookupEntry step es with
      | some inner =>
        let updated ← replaceUsingPath newValue inner rest
        pure (.map (insertEntry step updated es) locs)
      | none => throw (Failure.missingKey step.repr)
    | .list xs => do
      let i ← stepIndex step
      match listPosition i xs.length with
      | some j =>
        let updated ← replaceUsingPath newValue (xs.getD j .none) rest
        pure (.list (xs.set j updated))
      | none => throw (Failure.make .badIndex "list index out of range")
    | _ => throw (Failure.badValue "Invalid path or object structure")

end Dashwright.Reference
