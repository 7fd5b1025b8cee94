import Dashwright.Yaml.Scanner

/-!
Parsing YAML tokens into events: the start and end of the stream, of documents, of
sequences and of mappings, scalars and aliases, each with the anchor and tag written on it.

The parser is a machine of named steps with a stack of steps to return to, one event per
step. Empty values (a key with no value, an entry with nothing after `-`) become empty
scalars. A tag's handle is replaced by its prefix: `!` by `!`, `!!` by
`tag:yaml.org,2002:`, and others as `%TAG` directives declare them.
-/

namespace Dashwright.Yaml

/-- What an event says. -/
inductive EventKind where
  | streamStart
  | streamEnd
  | documentStart (explicit : Bool)
  | documentEnd (explicit : Bool)
  | alias (anchor : String)
  /-- a scalar; `plainImplicit` when it may be resolved by its text, `quotedImplicit` when
  its tag may be left out as text -/
  | scalar (anchor : Option String) (tag : Option String) (plainImplicit quotedImplicit : Bool)
      (value : String) (style : ScalarStyle)
  | sequenceStart (anchor : Option String) (tag : Option String) (implicit : Bool)
  | sequenceEnd
  | mappingStart (anchor : Option String) (tag : Option String) (implicit : Bool)
  | mappingEnd
deriving Inhabited

structure Event where
  kind : EventKind
  start : Mark
  stop : Mark
deriving Inhabited

/-- The steps of the parsing machine. -/
inductive ParseStep where
  | streamStart | implicitDocumentStart | documentStart | documentEnd | documentContent
  | blockNode | blockSequenceFirstEntry | blockSequenceEntry | indentlessSequenceEntry
  | blockMappingFirstKey | blockMappingKey | blockMappingValue
  | flowSequenceFirstEntry | flowSequenceEntry | flowSequenceEntryMappingKey
  | flowSequenceEntryMappingValue | flowSequenceEntryMappingEnd
  | flowMappingFirstKey | flowMappingKey | flowMappingValue | flowMappingEmptyValue
  | finished
deriving BEq, Inhabited

/-- The state of parsing: the scanner, the current step, the steps to return to, the marks
where open collections began, and the tag handles of the document. -/
structure Parser where
  scan : Scanner
  step : ParseStep
  steps : List ParseStep
  marks : List Mark
  handles : List (String × String)
deriving Inhabited

abbrev ParseM := StateT Parser (Except Problem)

def defaultHandles : List (String × String) := [("!", "!"), ("!!", "tag:yaml.org,2002:")]

def scanning {α : Type} (m : ScanM α) : ParseM α := fun p => do
  let (a, s) ← m.run p.scan
  pure (a, { p with scan := s })

def check (sorts : List TokenSort) : ParseM Bool := scanning (checkToken sorts)

def peek : ParseM Token := scanning peekToken

def take : ParseM Token := scanning takeToken

def goTo (s : ParseStep) : ParseM Unit := modify fun p => { p with step := s }

def pushStep (s : ParseStep) : ParseM Unit := modify fun p => { p with steps := s :: p.steps }

def popStep : ParseM Unit := modify fun p =>
  match p.steps with
  | s :: rest => { p with step := s, steps := rest }
  | [] => { p with step := .finished }

def pushMark (m : Mark) : ParseM Unit := modify fun p => { p with marks := m :: p.marks }

def popMark : ParseM Unit := modify fun p => { p with marks := p.marks.drop 1 }

def topMark : ParseM Mark := do pure ((← get).marks.headD default)

def parseProblem {α : Type} (context : Option String) (contextMark : Option Mark) (problem : String)
    (m : Mark) : ParseM α :=
  throw (.marked .parser context contextMark problem m)

def emptyScalar (m : Mark) : Event := ⟨.scalar none none true false "" .plain, m, m⟩

/-- The directives before an explicit document: a `%YAML` version of 1.x at most once and
`%TAG` handles at most once each; the default handles are added after. -/
def processDirectives : ParseM Unit := do
  let mut version : Option (Nat × Nat) := none
  let mut handles : List (String × String) := []
  for _ in [0:(← get).scan.src.size + 1] do
    if !(← check [.directive]) then break
    let t ← take
    match t.kind with
    | .directive "YAML" (.version major minor) =>
      if version.isSome then parseProblem none none "found duplicate YAML directive" t.start
      if major != 1 then
        parseProblem none none "found incompatible YAML document (version 1.* is required)" t.start
      version := some (major, minor)
    | .directive "TAG" (.tagPrefix handle pre) =>
      if handles.any (·.1 == handle) then
        parseProblem none none ("duplicate tag handle " ++ quoteText handle) t.start
      handles := handles ++ [(handle, pre)]
    | _ => pure ()
  for (h, pre) in defaultHandles do
    if !(handles.any (·.1 == h)) then handles := handles ++ [(h, pre)]
  modify fun p => { p with handles := handles }

/-- A node: an alias, or properties followed by a scalar, a collection start, or nothing. -/
def parseNode (block indentless : Bool) : ParseM Event := do
  if ← check [.alias] then
    let t ← take
    popStep
    match t.kind with
    | .alias name => return ⟨.alias name, t.start, t.stop⟩
    | _ => return ⟨.alias "", t.start, t.stop⟩
  let mut anchor : Option String := none
  let mut rawTag : Option (Option String × String) := none
  let mut startMark : Option Mark := none
  let mut endMark : Option Mark := none
  let mut tagMark : Option Mark := none
  if ← check [.anchor] then
    let t ← take
    startMark := some t.start
    endMark := some t.stop
    if let .anchor name := t.kind then anchor := some name
    if ← check [.tag] then
      let t ← take
      tagMark := some t.start
      endMark := some t.stop
      if let .tag h s := t.kind then rawTag := some (h, s)
  else if ← check [.tag] then
    let t ← take
    startMark := some t.start
    tagMark := some t.start
    endMark := some t.stop
    if let .tag h s := t.kind then rawTag := some (h, s)
    if ← check [.anchor] then
      let t ← take
      endMark := some t.stop
      if let .anchor name := t.kind then anchor := some name
  let mut tag : Option String := none
  if let some (handle, suffix) := rawTag then
    match handle with
    | some h =>
      match (← get).handles.find? (·.1 == h) with
      | some (_, pre) => tag := some (pre ++ suffix)
      | none =>
        parseProblem (some "while parsing a node") startMark ("found undefined tag handle " ++ quoteText h)
          (tagMark.getD default)
    | none => tag := some suffix
  let startM ← match startMark with
    | some m => pure m
    | none => do pure (← peek).start
  let endM := endMark.getD startM
  let implicit := tag.isNone || tag == some "!"
  if indentless && (← check [.blockEntry]) then
    let t ← peek
    goTo .indentlessSequenceEntry
    return ⟨.sequenceStart anchor tag implicit, startM, t.stop⟩
  if ← check [.scalar] then
    let t ← take
    match t.kind with
    | .scalar value plain style =>
      let (pi, qi) :=
        if (plain && tag.isNone) || tag == some "!" then (true, false)
        else if tag.isNone then (false, true) else (false, false)
      popStep
      return ⟨.scalar anchor tag pi qi value style, startM, t.stop⟩
    | _ => return ⟨.scalar anchor tag true false "" .plain, startM, t.stop⟩
  if ← check [.flowSequenceStart] then
    let t ← peek
    goTo .flowSequenceFirstEntry
    return ⟨.sequenceStart anchor tag implicit, startM, t.stop⟩
  if ← check [.flowMappingStart] then
    let t ← peek
    goTo .flowMappingFirstKey
    return ⟨.mappingStart anchor tag implicit, startM, t.stop⟩
  if block && (← check [.blockSequenceStart]) then
    let t ← peek
    goTo .blockSequenceFirstEntry
    return ⟨.sequenceStart anchor tag implicit, startM, t.start⟩
  if block && (← check [.blockMappingStart]) then
    let t ← peek
    goTo .blockMappingFirstKey
    return ⟨.mappingStart anchor tag implicit, startM, t.start⟩
  if anchor.isSome || tag.isSome then
    popStep
    return ⟨.scalar anchor tag implicit false "" .plain, startM, endM⟩
  let t ← peek
  parseProblem (some ("while parsing a " ++ (if block then "block" else "flow") ++ " node")) (some startM)
    ("expected the node content, but found " ++ t.quotedName) t.start

def parseDocumentStart : ParseM Event := do
  for _ in [0:(← get).scan.src.size + 1] do
    if ← check [.documentEnd] then let _ ← take else break
  if !(← check [.streamEnd]) then
    let t ← peek
    processDirectives
    if !(← check [.documentStart]) then
      let u ← peek
      parseProblem none none ("expected '<document start>', but found " ++ u.quotedName) u.start
    let d ← take
    pushStep .documentEnd
    goTo .documentContent
    pure ⟨.documentStart true, t.start, d.stop⟩
  else
    let t ← take
    goTo .finished
    pure ⟨.streamEnd, t.start, t.stop⟩

def parseBlockMappingKey : ParseM Event := do
  if ← check [.key] then
    let t ← take
    if !(← check [.key, .value, .blockEnd]) then
      pushStep .blockMappingValue
      parseNode true true
    else
      goTo .blockMappingValue
      pure (emptyScalar t.stop)
  else
    if !(← check [.blockEnd]) then
      let t ← peek
      parseProblem (some "while parsing a block mapping") (some (← topMark))
        ("expected <block end>, but found " ++ t.quotedName) t.start
    let t ← take
    popStep
    popMark
    pure ⟨.mappingEnd, t.start, t.stop⟩

def parseBlockSequenceEntry : ParseM Event := do
  if ← check [.blockEntry] then
    let t ← take
    if !(← check [.blockEntry, .blockEnd]) then
      pushStep .blockSequenceEntry
      parseNode true false
    else
      goTo .blockSequenceEntry
      pure (emptyScalar t.stop)
  else
    if !(← check [.blockEnd]) then
      let t ← peek
      parseProblem (some "while parsing a block collection") (some (← topMark))
        ("expected <block end>, but found " ++ t.quotedName) t.start
    let t ← take
    popStep
    popMark
    pure ⟨.sequenceEnd, t.start, t.stop⟩

def parseFlowSequenceEntry (first : Bool) : ParseM Event := do
  if !(← check [.flowSequenceEnd]) then
    if !first then
      if ← check [.flowEntry] then let _ ← take
      else
        let t ← peek
        parseProblem (some "while parsing a flow sequence") (some (← topMark))
          ("expected ',' or ']', but got " ++ t.quotedName) t.start
    if ← check [.key] then
      let t ← peek
      goTo .flowSequenceEntryMappingKey
      return ⟨.mappingStart none none true, t.start, t.stop⟩
    else if !(← check [.flowSequenceEnd]) then
      pushStep .flowSequenceEntry
      return (← parseNode false false)
  let t ← take
  popStep
  popMark
  pure ⟨.sequenceEnd, t.start, t.stop⟩

def parseFlowMappingKey (first : Bool) : ParseM Event := do
  if !(← check [.flowMappingEnd]) then
    if !first then
      if ← check [.flowEntry] then let _ ← take
      else
        let t ← peek
        parseProblem (some "while parsing a flow mapping") (some (← topMark))
          ("expected ',' or '\x7d', but got " ++ t.quotedName) t.start
    if ← check [.key] then
      let t ← take
      if !(← check [.value, .flowEntry, .flowMappingEnd]) then
        pushStep .flowMappingValue
        return (← parseNode false false)
      else
        goTo .flowMappingValue
        return emptyScalar t.stop
    else if !(← check [.flowMappingEnd]) then
      pushStep .flowMappingEmptyValue
      return (← parseNode false false)
  let t ← take
  popStep
  popMark
  pure ⟨.mappingEnd, t.start, t.stop⟩

def nextEvent : ParseM Event := do
  match (← get).step with
  | .streamStart =>
    let t ← take
    goTo .implicitDocumentStart
    pure ⟨.streamStart, t.start, t.stop⟩
  | .implicitDocumentStart =>
    if !(← check [.directive, .documentStart, .streamEnd]) then
      modify fun p => { p with handles := defaultHandles }
      let t ← peek
      pushStep .documentEnd
      goTo .blockNode
      pure ⟨.documentStart false, t.start, t.start⟩
    else parseDocumentStart
  | .documentStart => parseDocumentStart
  | .documentEnd =>
    let t ← peek
    let (stop, explicit) ← if ← check [.documentEnd] then do
        let d ← take
        pure (d.stop, true)
      else pure (t.start, false)
    goTo .documentStart
    pure ⟨.documentEnd explicit, t.start, stop⟩
  | .documentContent =>
    if ← check [.directive, .documentStart, .documentEnd, .streamEnd] then
      let t ← peek
      popStep
      pure (emptyScalar t.start)
    else parseNode true false
  | .blockNode => parseNode true false
  | .blockSequenceFirstEntry =>
    let t ← take
    pushMark t.start
    parseBlockSequenceEntry
  | .blockSequenceEntry => parseBlockSequenceEntry
  | .indentlessSequenceEntry =>
    if ← check [.blockEntry] then
      let t ← take
      if !(← check [.blockEntry, .key, .value, .blockEnd]) then
        pushStep .indentlessSequenceEntry
        parseNode true false
      else
        goTo .indentlessSequenceEntry
        pure (emptyScalar t.stop)
    else
      let t ← peek
      popStep
      pure ⟨.sequenceEnd, t.start, t.start⟩
  | .blockMappingFirstKey =>
    let t ← take
    pushMark t.start
    parseBlockMappingKey
  | .blockMappingKey => parseBlockMappingKey
  | .blockMappingValue =>
    if ← check [.value] then
      let t ← take
      if !(← check [.key, .value, .blockEnd]) then
        pushStep .blockMappingKey
        parseNode true true
      else
        goTo .blockMappingKey
        pure (emptyScalar t.stop)
    else
      goTo .blockMappingKey
      let t ← peek
      pure (emptyScalar t.start)
  | .flowSequenceFirstEntry =>
    let t ← take
    pushMark t.start
    parseFlowSequenceEntry true
  | .flowSequenceEntry => parseFlowSequenceEntry false
  | .flowSequenceEntryMappingKey =>
    let t ← take
    if !(← check [.value, .flowEntry, .flowSequenceEnd]) then
      pushStep .flowSequenceEntryMappingValue
      parseNode false false
    else
      goTo .flowSequenceEntryMappingValue
      pure (emptyScalar t.stop)
  | .flowSequenceEntryMappingValue =>
    if ← check [.value] then
      let t ← take
      if !(← check [.flowEntry, .flowSequenceEnd]) then
        pushStep .flowSequenceEntryMappingEnd
        parseNode false false
      else
        goTo .flowSequenceEntryMappingEnd
        pure (emptyScalar t.stop)
    else
      goTo .flowSequenceEntryMappingEnd
      let t ← peek
      pure (emptyScalar t.start)
  | .flowSequenceEntryMappingEnd =>
    goTo .flowSequenceEntry
    let t ← peek
    pure ⟨.mappingEnd, t.start, t.start⟩
  | .flowMappingFirstKey =>
    let t ← take
    pushMark t.start
    parseFlowMappingKey true
  | .flowMappingKey => parseFlowMappingKey false
  | .flowMappingValue =>
    if ← check [.value] then
      let t ← take
      if !(← check [.flowEntry, .flowMappingEnd]) then
        pushStep .flowMappingKey
        parseNode false false
      else
        goTo .flowMappingKey
        pure (emptyScalar t.stop)
    else
      goTo .flowMappingKey
      let t ← peek
      pure (emptyScalar t.start)
  | .flowMappingEmptyValue =>
    goTo .flowMappingKey
    let t ← peek
    pure (emptyScalar t.start)
  | .finished =>
    let t ← peek
    pure ⟨.streamEnd, t.start, t.stop⟩

/-- The events of a text, up to the end of the stream or up to the first problem. -/
def parseEvents (src : Array Char) : List Event × Option Problem := Id.run do
  let mut p : Parser := ⟨Scanner.start src, .streamStart, [], [], defaultHandles⟩
  let mut out : Array Event := #[]
  for _ in [0:8 * (src.size + 4)] do
    match nextEvent.run p with
    | .error e => return (out.toList, some e)
    | .ok (ev, p') =>
      out := out.push ev
      p := p'
      match ev.kind with
      | .streamEnd => return (out.toList, none)
      | _ => pure ()
  (out.toList, none)

end Dashwright.Yaml
