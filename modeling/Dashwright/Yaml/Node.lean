import Dashwright.Yaml.Event
import Dashwright.Yaml.Resolve

/-!
Composing events into a graph of nodes. Every node gets a number; a collection lists the
numbers of its items, or of its keys and values in the order written. An anchor names the
node it is written on from then to the end of the document, and an alias stands for that
very node, so a document can share nodes and even contain itself.

Untagged scalars get their tag from their text when they are plain; collections get the
sequence and mapping tags.

A stream must hold at most one document. A problem of parsing is met only when composing
reaches the event it stops at.
-/

namespace Dashwright.Yaml

/-- What a node holds. -/
inductive NodeKind where
  | scalar (value : String) (style : ScalarStyle)
  | sequence (items : List Nat)
  | mapping (pairs : List (Nat × Nat))
deriving Inhabited

structure Node where
  tag : String
  kind : NodeKind
  start : Mark
deriving Inhabited

def Node.kindName (n : Node) : String :=
  match n.kind with
  | .scalar _ _ => "scalar"
  | .sequence _ => "sequence"
  | .mapping _ => "mapping"

/-- The state of composing: the events, how many are read, the nodes so far and the
anchors of the document. -/
structure Composer where
  events : Array Event
  stop : Option Problem
  pos : Nat
  nodes : Array Node
  anchors : List (String × Nat)

abbrev ComposeM := StateT Composer (Except Problem)

/-- The next event; past the last one, the problem that ended parsing. -/
def peekEvent : ComposeM Event := do
  let c ← get
  match c.events[c.pos]? with
  | some e => pure e
  | none =>
    match c.stop with
    | some p => throw p
    | none => pure ⟨.streamEnd, default, default⟩

def takeEvent : ComposeM Event := do
  let e ← peekEvent
  modify fun c => { c with pos := c.pos + 1 }
  pure e

def isSequenceEnd (e : Event) : Bool := match e.kind with | .sequenceEnd => true | _ => false
def isMappingEnd (e : Event) : Bool := match e.kind with | .mappingEnd => true | _ => false
def isStreamEnd (e : Event) : Bool := match e.kind with | .streamEnd => true | _ => false

def composeProblem {α : Type} (context : Option String) (contextMark : Option Mark) (problem : String)
    (m : Mark) : ComposeM α :=
  throw (.marked .composer context contextMark problem m)

/-- Adds a node, first a placeholder for a collection whose items are not read yet. -/
def addNode (n : Node) : ComposeM Nat := do
  let c ← get
  set { c with nodes := c.nodes.push n }
  pure c.nodes.size

def setNode (i : Nat) (n : Node) : ComposeM Unit :=
  modify fun c => { c with nodes := c.nodes.set! i n }

def nameAnchor (anchor : Option String) (i : Nat) : ComposeM Unit :=
  match anchor with
  | some a => modify fun c => { c with anchors := (a, i) :: c.anchors.filter (·.1 != a) }
  | none => pure ()

/-- The tag of a collection: as written unless it is missing or `!`. -/
def collectionTag (tag : Option String) (default : String) : String :=
  match tag with
  | some t => if t == "!" then default else t
  | none => default

def composeNode : Nat → ComposeM Nat
  | 0 => throw (.other (Failure.make .tooDeep "maximum recursion depth exceeded"))
  | fuel + 1 => do
    let e ← peekEvent
    if let .alias a := e.kind then
      let _ ← takeEvent
      match (← get).anchors.find? (·.1 == a) with
      | some (_, i) => return i
      | none => composeProblem none none ("found undefined alias " ++ quoteText a) e.start
    let anchor := match e.kind with
      | .scalar a _ _ _ _ _ | .sequenceStart a _ _ | .mappingStart a _ _ => a
      | _ => none
    if let some a := anchor then
      match (← get).anchors.find? (·.1 == a) with
      | some (_, first) =>
        let firstMark := ((← get).nodes[first]?.map (·.start)).getD default
        composeProblem (some ("found duplicate anchor " ++ quoteText a ++ "; first occurrence"))
          (some firstMark) "second occurrence" e.start
      | none => pure ()
    match e.kind with
    | .scalar _ tag plainImplicit _ value style =>
      let _ ← takeEvent
      let t := match tag with
        | some t => if t == "!" then resolveScalar value plainImplicit else t
        | none => resolveScalar value plainImplicit
      let i ← addNode ⟨t, .scalar value style, e.start⟩
      nameAnchor anchor i
      pure i
    | .sequenceStart _ tag _ =>
      let _ ← takeEvent
      let t := collectionTag tag (coreTag "seq")
      let i ← addNode ⟨t, .sequence [], e.start⟩
      nameAnchor anchor i
      let mut items : Array Nat := #[]
      for _ in [0:(← get).events.size + 1] do
        if isSequenceEnd (← peekEvent) then break
        items := items.push (← composeNode fuel)
      let _ ← takeEvent
      setNode i ⟨t, .sequence items.toList, e.start⟩
      pure i
    | .mappingStart _ tag _ =>
      let _ ← takeEvent
      let t := collectionTag tag (coreTag "map")
      let i ← addNode ⟨t, .mapping [], e.start⟩
      nameAnchor anchor i
      let mut pairs : Array (Nat × Nat) := #[]
      for _ in [0:(← get).events.size + 1] do
        if isMappingEnd (← peekEvent) then break
        let k ← composeNode fuel
        let v ← composeNode fuel
        pairs := pairs.push (k, v)
      let _ ← takeEvent
      setNode i ⟨t, .mapping pairs.toList, e.start⟩
      pure i
    | _ =>
      let _ ← takeEvent
      addNode ⟨coreTag "null", .scalar "" .plain, e.start⟩

/-- How deeply collections may nest before the recursion limit stops composing: each level
takes two calls, the node's and its collection's. -/
def composeDepth : Nat := 490

/-- The graph of the single document of a stream and the number of its root, if it has one. -/
def composeSingle : ComposeM (Option Nat) := do
  let _ ← takeEvent
  let mut root : Option Nat := none
  let mut docStart : Mark := default
  if !isStreamEnd (← peekEvent) then
    let _ ← takeEvent
    let r ← composeNode composeDepth
    root := some r
    docStart := (((← get).nodes[r]?).map (·.start)).getD default
    let _ ← takeEvent
    modify fun c => { c with anchors := [] }
  let next ← peekEvent
  if !isStreamEnd next then
    let e ← takeEvent
    composeProblem (some "expected a single document in the stream") (some docStart)
      "but found another document" e.start
  let _ ← takeEvent
  pure root

/-- The node graph of a text with one document at most. -/
def composeText (src : Array Char) : Except Problem (Array Node × Option Nat) := do
  let (events, stop) := parseEvents src
  let (root, c) ← composeSingle.run ⟨events.toArray, stop, 0, #[], []⟩
  pure (c.nodes, root)

end Dashwright.Yaml
