import Dashwright.Project.Load
import Dashwright.Text.Blank
import Dashwright.Project.Workspace

/-!
Merging a project's files into one project.

The project file is read first, then each other file of the project in order. For each of
the collections `alerts`, `targets`, `models`, `traces`, `tables`, `charts` and
`dashboards` that a file has, its value is merged deeply into the project's value (an
empty list when the project has none), and the result is stored under the collection's name.

The merge works on the loaded objects themselves, as a graph, since aliases share them: a
mapping is merged into in place, key by key, so every path that reaches it sees the merged
keys, and a key new to it takes the later file's value itself, which a later merge may change
in turn. Two lists give a new list of the items of both, two sets a new set of the members of
both, and any other pair of values gives the later one. A key new to a loaded mapping has no
recorded position.

Membership and item access follow the values' own rules, so a file that is a list or a
text, or a project with no mapping at its top, fails as those values fail.
-/

namespace Dashwright.Project

def mergedKeys : List String := ["alerts", "targets", "models", "traces", "tables", "charts", "dashboards"]

/-- The name of a value's type in messages about containers. -/
def containerTypeName (v : Value) : String :=
  match v with
  | .date _ => "datetime.date"
  | .moment _ => "datetime.datetime"
  | _ => v.typeName

/-- `key in container` for a text key. -/
def containsKey (container : Value) (key : String) : Outcome Bool :=
  match container with
  | .map es _ => .ok (es.any fun (k, _) => Value.equal k (.str key))
  | .list xs | .tuple xs | .set xs => .ok (xs.any (Value.equal (.str key)))
  | .str s => .ok ((Text.splitOn s key).length > 1)
  | .bytes _ => .error (Failure.wrongType "a bytes-like object is required, not 'str'")
  | v => .error (Failure.wrongType ("argument of type '" ++ containerTypeName v ++ "' is not iterable"))

/-- The failure of `container[key]` for a text key on anything but a mapping. -/
def keyFailure (container : Value) : Failure :=
  match container with
  | .list _ => Failure.wrongType "list indices must be integers or slices, not str"
  | .tuple _ => Failure.wrongType "tuple indices must be integers or slices, not str"
  | .str _ => Failure.wrongType "string indices must be integers, not 'str'"
  | .bytes _ => Failure.wrongType "byte indices must be integers or slices, not str"
  | v => Failure.wrongType ("'" ++ containerTypeName v ++ "' object is not subscriptable")

/-- `container[key]` for a text key. -/
def itemAt (container : Value) (key : String) : Outcome Value :=
  match container with
  | .map es _ =>
    match es.find? (fun (k, _) => Value.equal k (.str key)) with
    | some (_, v) => .ok v
    | none => .error (Failure.missingKey (quoteText key))
  | v => .error (keyFailure v)

end Dashwright.Project

namespace Dashwright.Yaml.Graph

open Project

/-- Whether a piece is a leaf equal to a text. -/
def isText (g : Graph) (i : Nat) (key : String) : Bool :=
  match g.piece i with
  | .leaf v _ => Value.equal v (.str key)
  | _ => false

/-- `key in container` for the object at an index. -/
def containsKey (g : Graph) (i : Nat) (key : String) : Outcome Bool :=
  match g.piece i with
  | .dict entries _ => .ok (entries.any fun (k, _) => g.isText k key)
  | _ => Project.containsKey (g.toValue i) key

/-- `container[key]` for the object at an index: the index of the value. -/
def itemAt (g : Graph) (i : Nat) (key : String) : Outcome Nat :=
  match g.piece i with
  | .dict entries _ =>
    match entries.find? (fun (k, _) => g.isText k key) with
    | some (_, v) => .ok v
    | none => .error (Failure.missingKey (quoteText key))
  | _ => .error (keyFailure (g.toValue i))

/-- `container[key] = item` for the object at an index: a mapping's entry for the key takes
the item, or a new entry is added after the others. -/
def setItem (g : Graph) (i : Nat) (key : String) (item : Nat) : Outcome Graph :=
  match g.piece i with
  | .dict entries locs =>
    if entries.any (fun (k, _) => g.isText k key) then
      .ok (g.update i (.dict (entries.map fun (k, v) => if g.isText k key then (k, item) else (k, v)) locs))
    else
      let (g, k) := g.add (.leaf (.str key) false)
      .ok (g.update i (.dict (entries ++ [(k, item)]) locs))
  | _ =>
    match g.toValue i with
    | .list _ => .error (Failure.wrongType "list indices must be integers or slices, not str")
    | w => .error (Failure.wrongType ("'" ++ containerTypeName w ++ "' object does not support item assignment"))

/-- Deep merge of the object at `next` into the object at `base`: the graph after it, and the
index of the result. A mapping is merged into in place and is its own result; for each entry
of the later mapping in order, a key already present takes the merge of its value with the
later one, and a new key is added with the later value itself. -/
def deepMerge : Nat → Graph → Nat → Nat → Graph × Nat
  | 0, g, _, next => (g, next)
  | fuel + 1, g, base, next =>
    match g.piece base, g.piece next with
    | .list xs, .list ys => g.add (.list (xs ++ ys))
    | .set xs, .set ys => g.add (.set (xs ++ ys.filter fun y => !(xs.any (g.sameLeaf y ·))))
    | .dict _ _, .dict later _ =>
      let step (g : Graph) (kv : Nat × Nat) : Graph :=
        match g.piece base with
        | .dict entries _ =>
          match entries.find? (fun (k, _) => g.sameLeaf k kv.1) with
          | some (k, old) =>
            let (g, merged) := deepMerge fuel g old kv.2
            match g.piece base with
            | .dict entries locs =>
              g.update base (.dict (entries.map fun (k2, v) => if k2 == k then (k2, merged) else (k2, v)) locs)
            | _ => g
          | none =>
            match g.piece base with
            | .dict entries locs => g.update base (.dict (entries ++ [kv]) locs)
            | _ => g
        | _ => g
      (later.foldl step g, base)
    | _, _ => (g, next)

end Dashwright.Yaml.Graph

namespace Dashwright.Project

open Yaml

/-- Merges the collections of some files' objects into a project's object, all in one graph. -/
def mergeInto (g : Graph) (project : Nat) (dataFiles : List Nat) : Outcome Graph := do
  let mut g := g
  for d in dataFiles do
    for key in mergedKeys do
      if ← g.containsKey d key then
        let (g1, base) ← if ← g.containsKey project key then do pure (g, ← g.itemAt project key)
          else pure (g.add (.list []))
        let next ← g1.itemAt d key
        let (g2, merged) := g1.deepMerge (g1.pieces.size + 2) base next
        g ← g2.setItem project key merged
  pure g

/-- Reads and loads the project file at a path of a working directory, as a graph and the index
of its root. -/
def loadGraphAt (ws : Workspace) (env : Environment) (path : String) : Outcome (Graph × Nat) := do
  let text ← ws.read path
  loadProjectGraph env path text

/-- Reads and loads the project file at a path of a working directory. -/
def loadFileAt (ws : Workspace) (env : Environment) (path : String) : Outcome Value := do
  let (g, root) ← loadGraphAt ws env path
  pure (g.toValue root)

/-- The merged data of a project: its project file, then its other files in order, the
project file itself skipped among them. -/
def mergedProjectData (ws : Workspace) (env : Environment) (projectFile : String)
    (files : List String) : Outcome Value := do
  let pf := normalizePath projectFile
  let (first, project) ← loadGraphAt ws env pf
  let mut g := first
  let mut data : List Nat := []
  for f in files do
    let nf := normalizePath f
    if nf == pf then continue
    let (h, root) ← loadGraphAt ws env nf
    data := data ++ [g.pieces.size + root]
    g := g.join h
  let merged ← mergeInto g project data
  pure (merged.toValue project)

end Dashwright.Project
