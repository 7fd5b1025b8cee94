import Dashwright.Yaml.Node
import Dashwright.Text.Blank
import Dashwright.Value.Access
import Dashwright.Value.Convert

/-!
Building values from a node graph, by the tags of the nodes.

Scalars become null, booleans, integers, doubles, bytes (`binary`, base 64), dates and
moments (`timestamp`), or texts. A mapping becomes a loaded mapping: its entries in the order
their keys first appear, each with the last value given for it, and for each of its keys
where a key and a value were written — the positions of the first, second, ... pair written,
taken in the order of the distinct keys. Sequences become lists; `set`, `omap` and `pairs`
become sets and lists of pairs.

Objects are made once per node, so aliases share them. A mapping is made at once, its keys
and values first; a sequence is made empty and filled after the object that holds it is
done. So a mapping that contains itself only through mappings cannot be made, while one
reached again through a sequence can.
-/

namespace Dashwright.Yaml

/-- The object made from a node. -/
inductive Obj where
  | leaf (v : Value)
  | seq (items : List Nat)
  /-- a loaded mapping: per distinct key, the node of its key and of its last value, and the
  marks of the pair written at its place -/
  | dict (entries : List (Nat × Nat)) (marks : List (Mark × Mark))
  | set (keys : List Nat)
  | pairs (items : List (Nat × Nat))
deriving Inhabited

/-- The sort of deferred filling a collection needs. -/
inductive Filling where
  | seq | set | omap | pairs
deriving Inhabited, BEq

/-- The state of building: the nodes, the object of each node made so far, the nodes being
made, and the collections still to fill. -/
structure Builder where
  nodes : Array Node
  objs : Array (Option Obj)
  active : List Nat
  pending : List (Nat × Filling)

abbrev BuildM := StateT Builder (Except Problem)

def constructProblem {α : Type} (context : Option String) (contextMark : Option Mark) (problem : String)
    (m : Mark) : BuildM α :=
  throw (.marked .constructor context contextMark problem m)

def fail {α : Type} (f : Failure) : BuildM α := throw (.other f)

/-- Reading a scalar: it needs the node alone, never the builder. -/
abbrev ReadM := Except Problem

def readProblem {α : Type} (context : Option String) (contextMark : Option Mark) (problem : String)
    (m : Mark) : ReadM α :=
  throw (.marked .constructor context contextMark problem m)

def readFail {α : Type} (f : Failure) : ReadM α := throw (.other f)

def nodeAt (i : Nat) : BuildM Node := do pure (((← get).nodes[i]?).getD default)

def objAt (i : Nat) : BuildM (Option Obj) := do pure (((← get).objs[i]?).getD none)

def setObj (i : Nat) (o : Obj) : BuildM Unit :=
  modify fun b => { b with objs := b.objs.set! i (some o) }

/-- The text of a scalar node; any other node is a problem. -/
def scalarText (n : Node) : ReadM String :=
  match n.kind with
  | .scalar v _ => pure v
  | _ => readProblem none none ("expected a scalar node, but found " ++ n.kindName) n.start

/-! ### Scalars -/

def bytesRepr (s : String) : String := quoteText s

/-- The integer a text spells in a base, as the integer constructor reads it: blanks around,
a sign, the base's prefix, digits of any script. -/
def parseIntBase (s : String) (base : Nat) : Outcome Int :=
  match Value.parseIntBase? s base with
  | some v => .ok v
  | none => .error (Failure.badValue ("invalid literal for int() with base " ++ toString base ++
      ": " ++ quoteText s))

/-- The integer of a node's text: sign, then `0b`, `0x`, a leading zero for octal, `:` for
base 60, or decimal; underscores are ignored. -/
def intOfText (raw : String) : Outcome Int := do
  let text := String.ofList (raw.toList.filter (· != '_'))
  let cs := text.toList
  let c0 ← match cs.head? with
    | some c => pure c
    | none => throw (Failure.make .badIndex "string index out of range")
  let sign : Int := if c0 == '-' then -1 else 1
  let body := if c0 == '-' || c0 == '+' then String.ofList cs.tail else text
  if body == "0" then return 0
  if body.startsWith "0b" then return sign * (← parseIntBase (String.ofList (body.toList.drop 2)) 2)
  if body.startsWith "0x" then return sign * (← parseIntBase (String.ofList (body.toList.drop 2)) 16)
  match body.toList.head? with
  | some '0' => return sign * (← parseIntBase body 8)
  | none => throw (Failure.make .badIndex "string index out of range")
  | _ => pure ()
  if body.toList.contains ':' then
    let parts ← (Text.splitOn body ":").mapM fun p => parseIntBase p 10
    let total := parts.foldl (fun acc d => acc * 60 + d) 0
    return sign * total
  return sign * (← parseIntBase body 10)

/-- A double read from text as the float constructor reads it. -/
def floatOfText (s : String) : Outcome Float :=
  match Value.parseFloatText? s with
  | some f => .ok f
  | none => .error (Failure.badValue ("could not convert string to float: " ++ quoteText s))

/-- The double of a node's text: sign, then `.inf`, `.nan`, base 60 with `:`, or a decimal;
underscores are ignored and case does not matter. -/
def floatOfNodeText (raw : String) : Outcome Float := do
  let text := String.ofList ((raw.toList.filter (· != '_')).map Char.toLower)
  let cs := text.toList
  let c0 ← match cs.head? with
    | some c => pure c
    | none => throw (Failure.make .badIndex "string index out of range")
  let sign : Float := if c0 == '-' then -1.0 else 1.0
  let body := if c0 == '-' || c0 == '+' then String.ofList cs.tail else text
  if body == ".inf" then return sign * Number.infinity
  if body == ".nan" then return Number.notANumber
  if body.toList.contains ':' then
    let parts ← (Text.splitOn body ":").mapM floatOfText
    let mut total : Float := 0.0
    let mut base : Float := 1.0
    for d in parts.reverse do
      total := total + d * base
      base := base * 60.0
    return sign * total
  return sign * (← floatOfText body)

/-- The value of a base-64 character, if it is one. -/
def base64Value (c : Char) : Option Nat :=
  if 'A' ≤ c && c ≤ 'Z' then some (c.toNat - 65)
  else if 'a' ≤ c && c ≤ 'z' then some (c.toNat - 71)
  else if c.isDigit then some (c.toNat + 4)
  else if c == '+' then some 62
  else if c == '/' then some 63
  else none

/-- Decodes base 64 leniently: characters outside the alphabet are skipped, and padding ends
the data once a quad has at least two characters. -/
def decodeBase64 (s : String) : Except String (List UInt8) := Id.run do
  let mut out : Array UInt8 := #[]
  let mut quad := 0
  let mut left := 0
  let mut pads := 0
  let mut finished := false
  for c in s.toList do
    if finished then break
    if c == '=' then
      if quad ≥ 2 then
        pads := pads + 1
        if quad + pads ≥ 4 then
          finished := true
      continue
    match base64Value c with
    | none => continue
    | some v =>
      pads := 0
      if quad == 0 then
        quad := 1
        left := v
      else if quad == 1 then
        quad := 2
        out := out.push (UInt8.ofNat ((left * 4 + v / 16) % 256))
        left := v % 16
      else if quad == 2 then
        quad := 3
        out := out.push (UInt8.ofNat ((left * 16 + v / 4) % 256))
        left := v % 4
      else
        quad := 0
        out := out.push (UInt8.ofNat ((left * 64 + v) % 256))
        left := 0
  if finished || quad == 0 then return .ok out.toList
  if quad == 1 then
    return .error ("Invalid base64-encoded string: number of data characters (" ++
      toString (out.size / 3 * 4 + 1) ++ ") cannot be 1 more than a multiple of 4")
  return .error "Incorrect padding"

def binaryOf (n : Node) : ReadM Value := do
  let text ← scalarText n
  match (text.toList.zipIdx.find? fun (c, _) => c.toNat ≥ 128) with
  | some (c, i) =>
    readProblem none none ("failed to convert base64 data into ascii: 'ascii' codec can't encode character " ++
      codecCharText c ++ " in position " ++ toString i ++ ": ordinal not in range(128)") n.start
  | none =>
    match decodeBase64 text with
    | .ok bs => pure (.bytes bs)
    | .error why => readProblem none none ("failed to decode base64 data: " ++ why) n.start

/-- The text of a duration as the duration type writes itself. -/
def durationLiteral (seconds : Int) : String :=
  let days := seconds / 86400
  let secs := seconds % 86400
  let parts := (if days != 0 then ["days=" ++ toString days] else []) ++
    (if secs != 0 then ["seconds=" ++ toString secs] else [])
  if parts.isEmpty then "datetime.timedelta(0)" else "datetime.timedelta(" ++ ", ".intercalate parts ++ ")"

/-- Reads digits from the front of a text: one or two, or exactly some. -/
def digitsValue (cs : List Char) : Nat := cs.foldl (fun acc d => acc * 10 + (d.toNat - 48)) 0

/-- The parts of a timestamp text: date, and optionally time, fraction digits and zone. -/
structure StampParts where
  year : Nat
  month : Nat
  day : Nat
  time : Option (Nat × Nat × Nat × List Char)
  zone : Option (Option (Bool × Nat × Nat))

def readStamp (cs : List Char) : Option StampParts := do
  let y := cs.take 4
  if y.length != 4 || !y.all Char.isDigit then none
  let r := cs.drop 4
  let r ← match r with | '-' :: x => some x | _ => none
  let m := r.takeWhile Char.isDigit |>.take 2
  if m.isEmpty then none
  let r := r.drop m.length
  let r ← match r with | '-' :: x => some x | _ => none
  let d := r.takeWhile Char.isDigit |>.take 2
  if d.isEmpty then none
  let r := r.drop d.length
  if r.isEmpty then return ⟨digitsValue y, digitsValue m, digitsValue d, none, none⟩
  let r ← match r with
    | c :: x =>
      if c == 'T' || c == 't' then some x
      else if c == ' ' || c == '\t' then some (x.dropWhile fun e => e == ' ' || e == '\t')
      else none
    | [] => none
  let h := r.takeWhile Char.isDigit |>.take 2
  if h.isEmpty then none
  let r := r.drop h.length
  let r ← match r with | ':' :: x => some x | _ => none
  let mi := r.take 2
  if mi.length != 2 || !mi.all Char.isDigit then none
  let r := r.drop 2
  let r ← match r with | ':' :: x => some x | _ => none
  let s := r.take 2
  if s.length != 2 || !s.all Char.isDigit then none
  let r := r.drop 2
  let (frac, r) := match r with
    | '.' :: x => (x.takeWhile Char.isDigit, x.dropWhile Char.isDigit)
    | _ => ([], r)
  let time := (digitsValue h, digitsValue mi, digitsValue s, frac)
  if r.isEmpty then return ⟨digitsValue y, digitsValue m, digitsValue d, some time, none⟩
  let r := r.dropWhile fun e => e == ' ' || e == '\t'
  match r with
  | ['Z'] => return ⟨digitsValue y, digitsValue m, digitsValue d, some time, some none⟩
  | sgn :: x =>
    if sgn != '-' && sgn != '+' then none
    let th := x.takeWhile Char.isDigit |>.take 2
    if th.isEmpty then none
    let r := x.drop th.length
    match r with
    | [] => return ⟨digitsValue y, digitsValue m, digitsValue d, some time,
        some (some (sgn == '-', digitsValue th, 0))⟩
    | ':' :: z =>
      if z.length == 2 && z.all Char.isDigit then
        return ⟨digitsValue y, digitsValue m, digitsValue d, some time,
          some (some (sgn == '-', digitsValue th, digitsValue z))⟩
      else none
    | _ => none
  | [] => none

def timestampOf (n : Node) : ReadM Value := do
  let _ ← scalarText n
  let raw := match n.kind with | .scalar v _ => v | _ => ""
  -- a text ending in one line break reads as without it
  let cs := raw.toList
  let parts := match readStamp cs with
    | some p => some p
    | none => if cs.getLast? == some '\n' then readStamp cs.dropLast else none
  match parts with
  | none => readFail (Failure.make .missingAttribute "'NoneType' object has no attribute 'groupdict'")
  | some p =>
    if p.year < 1 || p.year > 9999 then
      readFail (Failure.badValue ("year " ++ toString p.year ++ " is out of range"))
    if p.month < 1 || p.month > 12 then readFail (Failure.badValue "month must be in 1..12")
    if p.day < 1 || p.day > Date.daysInMonth p.year p.month then
      readFail (Failure.badValue "day is out of range for month")
    let date : Date := ⟨p.year, p.month, p.day⟩
    match p.time with
    | none => pure (.date date)
    | some (h, mi, s, frac) =>
      if h > 23 then readFail (Failure.badValue "hour must be in 0..23")
      if mi > 59 then readFail (Failure.badValue "minute must be in 0..59")
      if s > 59 then readFail (Failure.badValue "second must be in 0..59")
      let fracDigits := frac.take 6
      let micro := digitsValue (fracDigits ++ List.replicate (6 - fracDigits.length) '0')
      let offset ← match p.zone with
        | none => pure none
        | some none => pure (some 0)
        | some (some (neg, th, tm)) =>
          let secs : Int := (th * 3600 + tm * 60 : Nat)
          let secs := if neg then -secs else secs
          if secs ≤ -86400 || secs ≥ 86400 then
            readFail (Failure.badValue ("offset must be a timedelta strictly between -timedelta(hours=24) and " ++
              "timedelta(hours=24), not " ++ durationLiteral secs ++ "."))
          pure (some secs)
      pure (.moment ⟨date, h, mi, s, micro, offset⟩)

/-- The value of a scalar node with a known tag, if the tag is one of the scalar tags. -/
def scalarOf (n : Node) : Option (ReadM Value) :=
  let tag := n.tag
  if tag == coreTag "null" then some (do let _ ← scalarText n; pure .none)
  else if tag == coreTag "bool" then some (do
    let text ← scalarText n
    let lower := String.ofList (text.toList.map Char.toLower)
    if ["yes", "true", "on"].contains lower then pure (.bool true)
    else if ["no", "false", "off"].contains lower then pure (.bool false)
    else readFail (Failure.missingKey (quoteText lower)))
  else if tag == coreTag "int" then some (do
    let text ← scalarText n
    match intOfText text with
    | .ok i => pure (.int i)
    | .error f => readFail f)
  else if tag == coreTag "float" then some (do
    let text ← scalarText n
    match floatOfNodeText text with
    | .ok f => pure (.float f)
    | .error f => readFail f)
  else if tag == coreTag "binary" then some (binaryOf n)
  else if tag == coreTag "timestamp" then some (timestampOf n)
  else if tag == coreTag "str" then some (do pure (.str (← scalarText n)))
  else none

/-! ### Objects -/

/-- The type name of an object, for a key that cannot be hashed. -/
def Obj.typeName : Obj → String
  | .leaf v => v.typeName
  | .seq _ | .pairs _ => "list"
  | .dict _ _ => "YamlOrderedDict"
  | .set _ => "set"

def leafOf (i : Nat) : BuildM (Option Value) := do
  match ← objAt i with
  | some (.leaf v) => pure (some v)
  | _ => pure none

/-- Whether a node is read as the one NaN that `.nan` stands for (a float node spelled `.nan` in
any case, with underscores and a sign allowed), which is a single object wherever it appears. -/
def Node.readsSharedNaN (n : Node) : Bool :=
  n.tag == coreTag "float" &&
    match n.kind with
    | .scalar v _ =>
      let text := String.ofList ((v.toList.filter (· != '_')).map Char.toLower)
      let body := match text.toList with
        | '-' :: rest | '+' :: rest => String.ofList rest
        | _ => text
      body == ".nan"
    | _ => false

/-- Whether the leaf values of two key nodes are one key: equal values, or one object. A NaN
is equal to nothing, so two NaN keys are one only when they come from the same node or are
both the NaN that `.nan` stands for. -/
def sameKey (ka : Nat) (a : Value) (kb : Nat) (b : Value) : BuildM Bool := do
  match a, b with
  | .float x, .float y =>
    if x.isNaN && y.isNaN then
      if ka == kb then return true
      return (← nodeAt ka).readsSharedNaN && (← nodeAt kb).readsSharedNaN
    else return x == y
  | _, _ => return Value.equal a b

mutual

/-- Makes the object of a node once. -/
def construct : Nat → Nat → BuildM Unit
  | 0, _ => fail (Failure.make .tooDeep "maximum recursion depth exceeded")
  | fuel + 1, i => do
    if (← objAt i).isSome then return
    let n ← nodeAt i
    if (← get).active.contains i then
      constructProblem none none "found unconstructable recursive node" n.start
    modify fun b => { b with active := i :: b.active }
    if n.tag == coreTag "seq" then
      setObj i (.seq [])
      modify fun b => { b with pending := b.pending ++ [(i, .seq)] }
    else if n.tag == coreTag "set" then
      setObj i (.set [])
      modify fun b => { b with pending := b.pending ++ [(i, .set)] }
    else if n.tag == coreTag "omap" then
      setObj i (.pairs [])
      modify fun b => { b with pending := b.pending ++ [(i, .omap)] }
    else if n.tag == coreTag "pairs" then
      setObj i (.pairs [])
      modify fun b => { b with pending := b.pending ++ [(i, .pairs)] }
    else if n.tag == coreTag "map" then
      match n.kind with
      | .mapping pairs =>
        for (k, v) in pairs do
          construct fuel k
          construct fuel v
        let mut entries : List (Nat × Nat × Value) := []
        for (k, v) in pairs do
          match ← objAt k with
          | some (.leaf kv) =>
            if ← entries.anyM (fun (k0, _, x) => sameKey k0 x k kv) then
              entries ← entries.mapM fun (k0, v0, x) => do
                pure (if ← sameKey k0 x k kv then (k0, v, x) else (k0, v0, x))
            else entries := entries ++ [(k, v, kv)]
          | some o => fail (Failure.wrongType ("unhashable type: '" ++ o.typeName ++ "'"))
          | none => pure ()
        let nodes := (← get).nodes
        let marks := (pairs.take entries.length).map fun (k, v) =>
          (((nodes[k]?).map (·.start)).getD default, ((nodes[v]?).map (·.start)).getD default)
        setObj i (.dict (entries.map fun (k, v, _) => (k, v)) marks)
      | _ => constructProblem none none ("expected a mapping node, but found " ++ n.kindName) n.start
    else
      match scalarOf n with
      | some make => setObj i (.leaf (← make))
      | none =>
        constructProblem none none ("could not determine a constructor for the tag " ++ quoteText n.tag) n.start
    modify fun b => { b with active := b.active.filter (· != i) }

/-- Fills a collection made empty before. -/
def fill : Nat → Nat × Filling → BuildM Unit
  | 0, _ => fail (Failure.make .tooDeep "maximum recursion depth exceeded")
  | fuel + 1, (i, how) => do
    let n ← nodeAt i
    match how with
    | .seq =>
      match n.kind with
      | .sequence items =>
        for c in items do construct fuel c
        setObj i (.seq items)
      | _ => constructProblem none none ("expected a sequence node, but found " ++ n.kindName) n.start
    | .set =>
      match n.kind with
      | .mapping pairs =>
        let mut keys : List (Nat × Value) := []
        for (k, v) in pairs do
          construct fuel k
          match ← objAt k with
          | some (.leaf kv) =>
            construct fuel v
            if !(← keys.anyM fun (k0, x) => sameKey k0 x k kv) then keys := keys ++ [(k, kv)]
          | _ =>
            let kn ← nodeAt k
            constructProblem (some "while constructing a mapping") (some n.start) "found unhashable key" kn.start
        setObj i (.set (keys.map Prod.fst))
      | _ => constructProblem none none ("expected a mapping node, but found " ++ n.kindName) n.start
    | .omap | .pairs =>
      let what := if how == .omap then "while constructing an ordered map" else "while constructing pairs"
      match n.kind with
      | .sequence items =>
        let mut out : List (Nat × Nat) := []
        for c in items do
          let sub ← nodeAt c
          match sub.kind with
          | .mapping [(k, v)] =>
            construct fuel k
            construct fuel v
            out := out ++ [(k, v)]
          | .mapping ps =>
            constructProblem (some what) (some n.start)
              ("expected a single mapping item, but found " ++ toString ps.length ++ " items") sub.start
          | _ =>
            constructProblem (some what) (some n.start)
              ("expected a mapping of length 1, but found " ++ sub.kindName) sub.start
        setObj i (.pairs out)
      | _ => constructProblem (some what) (some n.start) ("expected a sequence, but found " ++ n.kindName) n.start

end

/-- How deeply mappings may nest in mappings before the recursion limit stops building: each
level takes three calls, the node's, its constructor's and the one building its pairs. A
collection filled later starts again from the top. -/
def constructDepth : Nat := 330

/-- Makes the object of the root, then fills collections round by round until none is left. -/
def constructAll (root : Nat) : BuildM Unit := do
  let rounds := (← get).nodes.size + 2
  construct constructDepth root
  for _ in [0:rounds] do
    let pending := (← get).pending
    if pending.isEmpty then break
    modify fun b => { b with pending := [] }
    for p in pending do fill constructDepth p

/-- A loaded document: its nodes, the object of each, and the root. -/
structure Document where
  nodes : Array Node
  objs : Array (Option Obj)
  root : Nat

/-- The object of a node of a loaded document; a missing one reads as none. -/
def Document.objOf (d : Document) (i : Nat) : Option Obj := (d.objs[i]?).getD none

/-- Whether the object of a node is a loaded mapping. -/
def Document.isDict (d : Document) (i : Nat) : Bool :=
  match d.objOf i with
  | some (.dict _ _) => true
  | _ => false

/-- The loaded mappings placing a file name goes on to from a value of a mapping: the value
if it is a mapping, and each mapping directly in it if it is a list. -/
def Document.below (d : Document) (v : Nat) : List Nat :=
  match d.objOf v with
  | some (.dict _ _) => [v]
  | some (.seq items) => items.filter d.isDict
  | _ => []

/-- The loaded mappings placing a file name goes on to from a loaded mapping, through its
values in order. -/
def Document.children (d : Document) (i : Nat) : List Nat :=
  match d.objOf i with
  | some (.dict entries _) => (entries.map Prod.snd).flatMap d.below
  | _ => []

/-- The mappings placing reaches from mapping `i`, once for every way down to each, when `i`
was reached through the mappings of `path` and `depth` more levels are allowed: a mapping met
again inside itself makes the walk endless. -/
def Document.placedFrom (d : Document) : Nat → List Nat → Nat → Outcome (List Nat)
  | 0, _, _ => throw (Failure.make .tooDeep "maximum recursion depth exceeded")
  | depth + 1, path, i =>
    if path.contains i then throw (Failure.make .tooDeep "maximum recursion depth exceeded")
    else do
      let below ← (d.children i).mapM (d.placedFrom depth (i :: path))
      pure (i :: below.flatten)

/-- How many mappings deep placing may go before the recursion limit stops it: one call per
mapping. -/
def placingDepth : Nat := 990

/-- The loaded mappings that placing a file name reaches from the root: the root if it is a
mapping, then each mapping value of a reached mapping and each mapping directly in a list
value of one. A mapping met again inside itself makes the walk endless, and a chain of
mappings longer than the recursion limit allows stops it. -/
def Document.placed (d : Document) : Outcome (List Nat) :=
  if d.isDict d.root then d.placedFrom placingDepth [] d.root else .ok []

end Dashwright.Yaml
