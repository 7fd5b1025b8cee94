import Dashwright.Yaml.Graph

/-!
Loading a YAML text with one document into a value.

A text may hold tabs, line breaks and printable characters only; the first other character
is refused before anything is read. The document is composed whole, a second document being
a problem, and then built into values.

A project file is loaded under its file name: every loaded mapping that placing the name
reaches records its positions as `<file>:<line>`, and a problem found at a mark is reported
as invalid YAML at `<file>:<line>[<column>]` with what was wrong.
-/

namespace Dashwright.Yaml

def isAcceptable (c : Char) : Bool :=
  let n := c.toNat
  n == 0x09 || n == 0x0A || n == 0x0D || (0x20 ≤ n && n ≤ 0x7E) || n == 0x85 ||
    (0xA0 ≤ n && n ≤ 0xD7FF) || (0xE000 ≤ n && n ≤ 0xFFFD) || (0x10000 ≤ n && n ≤ 0x10FFFF)

/-- The loaded document of a text, or none for a text without one. -/
def loadDocument (text : String) : Except Problem (Option Document) := do
  match (text.toList.zipIdx.find? fun (c, _) => !isAcceptable c) with
  | some (c, i) => throw (.unacceptable i c.toNat)
  | none => pure ()
  let src := text.toList.toArray
  let (nodes, root) ← composeText src
  match root with
  | none => pure none
  | some r =>
    let (_, b) ← (constructAll r).run ⟨nodes, Array.replicate nodes.size none, [], []⟩
    pure (some ⟨nodes, b.objs, r⟩)

/-- The value of a text's document, its mappings naming positions by the stream's name;
a problem fails with its full text. -/
def loadValue (text : String) : Outcome Value :=
  match loadDocument text with
  | .ok none => .ok .none
  | .ok (some d) => .ok (d.toValue streamName [])
  | .error p => .error (p.toFailure text)

/-- The failure a problem in a project file is reported as. -/
def projectProblem (file text : String) : Problem → Failure
  | .marked _ _ _ problem m =>
    Failure.make .usage ("Invalid yaml in project\n  Location: " ++ file ++ ":" ++ toString (m.line + 1) ++
      "[" ++ toString (m.column + 1) ++ "]\n  Issue: " ++ problem)
  | p@(.unacceptable _ _) => Failure.make .usage (p.text text)
  | .other f => f

/-- The graph of a project file's text and the index of its root, its reachable mappings naming
positions by the file; a text without a document is a null. -/
def loadProjectGraph (file text : String) : Outcome (Graph × Nat) :=
  match loadDocument text with
  | .ok none => .ok (⟨#[.leaf Value.none false]⟩, 0)
  | .ok (some d) => do
    let placed ← d.placed
    pure (d.toGraph file placed, d.root)
  | .error p => .error (projectProblem file text p)

/-- A recorded position: the path of keys and list indices to a key, where the key stands
and where its value stands. -/
abbrev Location := List Value × String × String

mutual

/-- The positions recorded in a value: for each loaded mapping reached through mappings and
lists, depth first, each key's entry and then those within its value. -/
def locationsIn (path : List Value) : Value → List Location
  | .map es (some locs) => entryLocations path es locs
  | .map es none => entryLocations path es []
  | .list items => itemLocations path 0 items
  | _ => []

def itemLocations (path : List Value) (i : Nat) : List Value → List Location
  | [] => []
  | x :: rest => locationsIn (path ++ [.int i]) x ++ itemLocations path (i + 1) rest

def entryLocations (path : List Value) : List (Value × Value) → List (Value × String × String) → List Location
  | [], _ => []
  | (k, v) :: rest, locs =>
    let (here, more) : List Location × List (Value × String × String) := match locs with
      | (_, kl, vl) :: ls => ([(path ++ [k], kl, vl)], ls)
      | [] => ([], [])
    here ++ locationsIn (path ++ [k]) v ++ entryLocations path rest more

end

end Dashwright.Yaml
