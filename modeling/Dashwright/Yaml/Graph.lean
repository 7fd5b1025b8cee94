import Dashwright.Yaml.Construct

/-!
Loaded documents as graphs of shared objects.

An alias names the object of its anchor again, so one mapping or list of a loaded document
may be reached along several paths, and a change made to it along one path is seen along
all of them. A `Graph` keeps the objects of one or more documents in one array, a container
holding its parts by their indices and a loaded mapping holding its positions already written
as locations. Written out as a tree, a shared object appears at every path that reaches it,
and a container met again inside itself is a cycle mark.
-/

namespace Dashwright.Yaml

/-- An object of a graph; containers hold the indices of their parts. -/
inductive Piece where
  /-- a scalar, and whether it is the one NaN that `.nan` stands for -/
  | leaf (v : Value) (sharedNaN : Bool)
  | list (items : List Nat)
  | tuple (items : List Nat)
  | set (items : List Nat)
  /-- a loaded mapping: per key, the index of the key and of its value; and for its first
  keys in order, the locations of the key and of the value -/
  | dict (entries : List (Nat × Nat)) (locs : List (String × String))
deriving Inhabited

/-- The indices of a piece moved up by `n`. -/
def Piece.shift (n : Nat) : Piece → Piece
  | .leaf v s => .leaf v s
  | .list xs => .list (xs.map (· + n))
  | .tuple xs => .tuple (xs.map (· + n))
  | .set xs => .set (xs.map (· + n))
  | .dict es ls => .dict (es.map fun (k, v) => (k + n, v + n)) ls

/-- Objects that refer to each other by index. -/
structure Graph where
  pieces : Array Piece
deriving Inhabited

namespace Graph

/-- The piece at an index; a missing one reads as null. -/
def piece (g : Graph) (i : Nat) : Piece := (g.pieces[i]?).getD (.leaf Value.none false)

/-- A graph with one more piece, and that piece's index. -/
def add (g : Graph) (p : Piece) : Graph × Nat := (⟨g.pieces.push p⟩, g.pieces.size)

def update (g : Graph) (i : Nat) (p : Piece) : Graph := ⟨g.pieces.set! i p⟩

/-- Two graphs side by side, the second's indices moved past the first's pieces. -/
def join (g h : Graph) : Graph := ⟨g.pieces ++ h.pieces.map (Piece.shift g.pieces.size)⟩

/-- Whether two pieces are one key or one member of a set: one object, both the NaN that
`.nan` stands for, or equal values (so never two other NaNs). -/
def sameLeaf (g : Graph) (a b : Nat) : Bool :=
  a == b ||
    match g.piece a, g.piece b with
    | .leaf x nx, .leaf y ny => (nx && ny) || Value.equal x y
    | _, _ => false

/-- The tree of values reached from an index, a container met again inside itself written
as a cycle mark. A loaded mapping's keys past its recorded locations have empty ones. -/
def toValue (g : Graph) (root : Nat) : Value :=
  let rec build : Nat → List Nat → Nat → Value
    | 0, _, _ => Value.none
    | fuel + 1, path, i =>
      if path.contains i then
        .cycle (match g.piece i with | .dict _ _ => true | _ => false)
      else
        let path := i :: path
        match g.piece i with
        | .leaf v _ => v
        | .list items => .list (items.map (build fuel path))
        | .tuple items => .tuple (items.map (build fuel path))
        | .set items => .set (items.map (build fuel path))
        | .dict entries locs =>
          let es := entries.map fun (k, v) => (build fuel path k, build fuel path v)
          let located := (es.zip locs).map fun ((k, _), (kl, vl)) => (k, kl, vl)
          .map es (some (located ++ (es.drop locs.length).map fun (k, _) => (k, "", "")))
  build (g.pieces.size + 2) [] root

end Graph

/-- The text of a mark as a location: the stream's name and the line from one. -/
def locationText (name : String) (m : Mark) : String := name ++ ":" ++ toString (m.line + 1)

/-- The pieces of a document's graph with the object of node `i` added at index `i`; each
pair of a list of pairs becomes a tuple kept apart, to be placed after the nodes. A mapping in
`placed` names its positions by a file name, others by the stream's name. -/
def Document.addPiece (d : Document) (file : String) (placed : List Nat) (acc : Array Piece × Array Piece)
    (i : Nat) : Array Piece × Array Piece :=
  let (pieces, tuples) := acc
  let node := (d.nodes[i]?).getD default
  match d.objOf i with
  | some (.leaf v) => (pieces.push (.leaf v node.readsSharedNaN), tuples)
  | some (.seq items) => (pieces.push (.list items), tuples)
  | some (.set keys) => (pieces.push (.set keys), tuples)
  | some (.pairs items) =>
    let first := d.nodes.size + tuples.size
    (pieces.push (.list ((List.range items.length).map (first + ·))),
      tuples ++ (items.map fun (k, v) => Piece.tuple [k, v]).toArray)
  | some (.dict entries marks) =>
    let name := if placed.contains i then file else streamName
    (pieces.push (.dict entries (marks.map fun (km, vm) => (locationText name km, locationText name vm))),
      tuples)
  | none => (pieces.push (.leaf Value.none false), tuples)

/-- The graph of a document's objects, at the indices of their nodes, and after them a tuple
for each pair of a list of pairs. -/
def Document.toGraph (d : Document) (file : String) (placed : List Nat) : Graph :=
  let (pieces, tuples) := (List.range d.nodes.size).foldl (d.addPiece file placed) (#[], #[])
  ⟨pieces ++ tuples⟩

/-- Writes a document's objects out as a value tree; the mappings in `placed` name their
positions by a file name, others by the stream's name. -/
def Document.toValue (d : Document) (file : String) (placed : List Nat) : Value :=
  (d.toGraph file placed).toValue d.root

end Dashwright.Yaml
