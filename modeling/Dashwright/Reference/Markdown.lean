import Dashwright.Value.Sort
import Dashwright.Value.Access
import Dashwright.Text.Blank
import Dashwright.Yaml.Dump

/-!
Reference pages for the objects of the configuration schema, written in Markdown.

An object's page is its description followed by a table of its attributes, one row per
property with the property's type, default and description. The type is read off the shape
of the property's schema: a reference to an enumeration, a choice among alternatives, a
constant, an array of objects, a choice among objects by a discriminator, or a plain type.

Trace properties get a different page: the nested structure of the properties written as a
YAML block, each leaf showing its type and pointing to a numbered note with its details.

Schemas are plain values, so any shape can be asked about; lookups that the shape does not
allow fail as the schema code would.
-/

namespace Dashwright.Reference

/-- The failure of asking a value for an attribute it does not have. -/
def noAttribute (v : Value) (name : String) : Failure :=
  Failure.make .missingAttribute ("'" ++ v.typeName ++ "' object has no attribute '" ++ name ++ "'")

/-- A mapping's value for a key, or a default when the key is missing. -/
def getOr (owner : Value) (key : Value) (dflt : Value) : Outcome Value :=
  match owner with
  | .map es _ =>
    if key.hashable then pure ((lookupEntry key es).getD dflt) else throw (Value.unhashable key)
  | v => throw (noAttribute v "get")

/-- A mapping's value for a text key, or a default. -/
def getText (owner : Value) (key : String) (dflt : Value) : Outcome Value := getOr owner (.str key) dflt

def emptyDict : Value := Value.dict []

/-- A mapping's value for a key that must be present. -/
def subscript (owner : Value) (key : String) : Outcome Value :=
  match owner with
  | .map es _ =>
    match lookupEntry (.str key) es with
    | some v => pure v
    | none => throw (Failure.missingKey (quoteText key))
  | v => throw (Failure.wrongType ("'" ++ v.typeName ++ "' object is not subscriptable"))

def itemsOf : Value → Outcome (List (Value × Value))
  | .map es _ => pure es
  | v => throw (noAttribute v "items")

/-- Texts joined by a separator; every item must be a text. -/
def joinTexts (sep : String) (v : Value) : Outcome String := do
  let items ← match v with
    | .list xs | .tuple xs | .set xs => pure xs
    | .map es _ => pure (es.map Prod.fst)
    | .str s => pure (s.toList.map fun c => .str (String.singleton c))
    | _ => throw (Failure.wrongType "can only join an iterable")
  let mut texts : Array String := #[]
  for (x, i) in items.zipIdx do
    match x with
    | .str s => texts := texts.push s
    | _ => throw (Failure.wrongType ("sequence item " ++ toString i ++ ": expected str instance, " ++
        x.typeName ++ " found"))
  pure (sep.intercalate texts.toList)

/-- The keys of a mapping joined by dots, the form in which the shape of a property is told. -/
def keysJoined (v : Value) : Outcome String :=
  match v with
  | .map es _ => joinTexts "." (.list (es.map Prod.fst))
  | v => throw (noAttribute v "keys")

def splitValue (v : Value) (sep : String) : Outcome (List String) :=
  match v with
  | .str s => pure (Text.splitOn s sep)
  | v => throw (noAttribute v "split")

/-- The last part of a reference path, the name of the object it points to. -/
def lastSegment (ref : Value) : Outcome String := do
  pure ((← splitValue ref "/").getLastD "")

mutual

/-- The values of all `$ref` keys in a value, in the order met: a reference's value is taken
as it is, and only mappings and lists are searched. -/
def refsIn : Value → List Value
  | .map es _ => refsInEntries es
  | .list xs => refsInItems xs
  | _ => []

def refsInEntries : List (Value × Value) → List Value
  | [] => []
  | (k, v) :: rest =>
    let here := match k, v with
      | .str "$ref", _ => [v]
      | _, .map _ _ | _, .list _ => refsIn v
      | _, _ => []
    here ++ refsInEntries rest

def refsInItems : List Value → List Value
  | [] => []
  | x :: rest =>
    let here := match x with
      | .map _ _ | .list _ => refsIn x
      | _ => []
    here ++ refsInItems rest

end

/-- The references in a value, sorted. -/
def findRefs (v : Value) : Outcome (List Value) := Value.sortWith Value.lessThan (refsIn v)

/-- A property's default: its own, or the text `None`. -/
def defaultOf (prop : Value) : Outcome Value := getText prop "default" (.str "None")

/-- The type of a property that refers to an enumeration: its values listed. -/
def enumeratedType (prop defs : Value) : Outcome (Value × Value) := do
  let dflt ← defaultOf prop
  let first ← match (← findRefs prop) with
    | r :: _ => pure r
    | [] => throw (Failure.make .badIndex "list index out of range")
  let key ← lastSegment first
  let model ← getOr defs (.str key) emptyDict
  if !model.truthy then
    throw (Failure.missingKey (quoteText ("Key " ++ key ++ " was not found in $defs dictionary.")))
  let names ← joinTexts ", " (← getText model "enum" .none)
  pure (.str ("Enumerated - one of: " ++ names), dflt)

/-- The type of a property that may take any of several forms: the objects it refers to, the
patterns it must match when it refers to none, and the plain types it may have besides null. -/
def alternativesType (prop : Value) : Outcome (Value × Value) := do
  let dflt ← defaultOf prop
  let refs ← findRefs prop
  let mut found := refs
  for option in (← Value.iterate (← subscript prop "anyOf")) do
    if (← Value.contains option (.str "pattern")) && refs.isEmpty then
      let pattern ← getText option "pattern" .none
      found := found ++ [.str ("Regex(" ++ (← pattern.display) ++ ")")]
    else if (← Value.contains option (.str "type")) && !(← Value.contains option (.str "pattern")) then
      let t ← getText option "type" .none
      if !(Value.equal t (.str "null") || Value.equal t (.str "None")) then
        found := found ++ [t]
  match found with
  | [] => throw (Failure.wrongType "cannot unpack non-iterable NoneType object")
  | [one] => pure (one, dflt)
  | _ => pure (.str ("Any of: " ++ (← joinTexts ", " (.list found))), dflt)

/-- The type of an array property: the objects its items refer to, or its plain type. -/
def arrayType (prop : Value) : Outcome (Value × Value) := do
  let dflt ← defaultOf prop
  let t ← getText prop "type" .none
  let refs ← findRefs (← getText prop "items" emptyDict)
  if Value.equal t (.str "array") && !refs.isEmpty then
    pure (.str ("Array of " ++ (← joinTexts " or " (.list refs))), dflt)
  else pure (t, dflt)

/-- The type of a property chosen among objects by a discriminator: the objects listed, and
the default the discriminator's mapping gives for the default's discriminating value. -/
def discriminatedType (prop : Value) : Outcome (Value × Value) := do
  let key ← getText (← getText prop "discriminator" emptyDict) "propertyName" (.str "")
  let value ← getOr (← getText prop "default" emptyDict) key .none
  let mapping ← getText (← getText prop "discriminator" emptyDict) "mapping" emptyDict
  let dflt ← getOr mapping value .none
  let refs ← findRefs (← getText prop "oneOf" (.list []))
  if refs.isEmpty then pure (.str "", dflt)
  else pure (.str ("One of:<br>  •" ++ (← joinTexts "<br>  •" (.list refs))), dflt)

/-- The type, description and default of a property, by the shape of its schema; a missing
default is the text `None`. -/
def attributeProperties (defs prop : Value) : Outcome (Value × Value × Value) := do
  let description ← getText prop "description" (.str "")
  let keys ← keysJoined prop
  let (t, dflt) ←
    if Text.contains keys "allOf" then enumeratedType prop defs
    else if Text.contains keys "anyOf" then alternativesType prop
    else if Text.contains keys "const" then do pure (.str "string", ← defaultOf prop)
    else if Text.contains keys "items" then arrayType prop
    else if Text.contains keys "discriminator" then discriminatedType prop
    else do
      let dflt ← defaultOf prop
      pure (← getText prop "type" (.str ""), dflt)
  let dflt := match dflt with
    | .none => .str "None"
    | d => d
  pure (t, description, dflt)

def dedentValue : Value → Outcome String
  | .str s => pure (Text.dedent s)
  | v => throw (Failure.wrongType ("expected string or bytes-like object, got '" ++ v.typeName ++ "'"))

/-- An object's definition, which must be there and not be empty. -/
def modelDef (defs name : Value) : Outcome Value := do
  let d ← getOr defs name emptyDict
  if !d.truthy then throw (Failure.missingKey (quoteText ("Schema missing model: " ++ (← name.display))))
  pure d

/-- The reference page of an object: its name, its description and the table of its
attributes. -/
def modelMarkdown (defs name : Value) : Outcome String := do
  let model ← modelDef defs name
  let props ← getText model "properties" emptyDict
  let description ← getText model "description" emptyDict
  let md ← if description.truthy then dedentValue description else pure ""
  let mut table := "| Field | Type | Default | Description |\n|-------|------|---------|-------------|\n"
  for (field, prop) in (← itemsOf props) do
    let (t, d, dflt) ← attributeProperties defs prop
    table := table ++ "| " ++ (← field.display) ++ " | " ++ (← t.display) ++ " | " ++ (← dflt.display) ++
      " | " ++ (← d.display) ++ " |\n"
  pure ("# " ++ (← name.display) ++ "\n" ++ md ++ "\n## Attributes\n" ++ table)

/-- The nested structure of a trace's properties and the notes gathered so far: a property
that refers to one object holds that object's structure, a constant holds its value, and
any other property holds its type, marked with the number of its note when its description
has details after the last `<br>`. -/
def tracePropsOutline (defs : Value) : Nat → Value → List String → Outcome (Value × List String)
  | 0, _, _ => throw (Failure.make .tooDeep "maximum recursion depth exceeded")
  | fuel + 1, name, details => do
    let props ← getText (← getOr defs name emptyDict) "properties" emptyDict
    if !props.truthy then
      throw (Failure.missingKey (quoteText ("Model " ++ (← name.display) ++
        " not found in model_defs dictionary passed into the function.")))
    let mut output : List (Value × Value) := []
    let mut details := details
    for (field, info) in (← itemsOf props) do
      let keys ← keysJoined info
      if Text.contains keys "anyOf" then
        match (← findRefs (← getText info "anyOf" emptyDict)) with
        | [ref] =>
          let nested ← lastSegment ref
          let (sub, more) ← tracePropsOutline defs fuel (.str nested) details
          output := insertEntry field sub output
          details := more
        | _ :: _ :: _ =>
          throw (Failure.make .unsupported "Have not handled Traceprop attributes with multiple models referenced.")
        | [] =>
          let parts ← splitValue (← getText info "description" emptyDict) "<br>"
          let position := details.length + 1
          let mut t := Text.stripChars (parts.headD "") [' ']
          let detail := parts.getLastD ""
          if (Text.strip detail).length > 0 then
            t := t ++ " #(" ++ toString position ++ ")!"
            details := details ++ [toString position ++ ". " ++ detail]
          output := insertEntry field (.str t) output
      else if Text.contains keys "const" then
        output := insertEntry field (← getText info "const" .none) output
      else
        throw (Failure.make .unsupported ("Have not yet handled properties with attributes " ++ keys))
    pure (Value.dict output, details)

/-- Moves each note marker out of the quotes of the text it follows: `'type #(n)!'` becomes
`'type' #(n)!`. The marker must follow a space and close on the line it opens. -/
def unquoteMarkers (s : String) : String := Id.run do
  let cs := s.toList.toArray
  let n := cs.size
  let mut out : Array Char := #[]
  let mut i := 0
  for _ in [0:n] do
    if i ≥ n then break
    let mut matched := false
    if cs[i]! == '\'' then
      let mut r := i + 1
      for _ in [i + 1:n] do
        if cs[r]! == '\'' || cs[r]! == '#' then break
        r := r + 1
      if r < n && cs[r]! == '#' && r ≥ i + 3 && cs[r - 1]! == ' ' && cs[r + 1]? == some '(' then
        let mut m := r + 2
        let mut close : Option Nat := none
        for _ in [r + 2:n] do
          if cs[m]? == some ')' && cs[m + 1]? == some '!' && cs[m + 2]? == some '\'' then
            close := some m
            break
          if cs[m]! == '\n' then break
          m := m + 1
        if let some stop := close then
          out := out.push '\''
          out := out ++ cs.extract (i + 1) (r - 1)
          out := out.push '\''
          out := out.push ' '
          out := out ++ cs.extract r (stop + 2)
          i := stop + 3
          matched := true
    if !matched then
      out := out.push cs[i]!
      i := i + 1
  return String.ofList out.toList

/-- The reference page of a trace's properties: the name, the description, the nested
structure as a YAML block with note markers, and the numbered notes. -/
def tracePropsMarkdown (defs name : Value) : Outcome String := do
  let model ← modelDef defs name
  let description ← getText model "description" emptyDict
  let md ← if description.truthy then (· ++ "\n") <$> dedentValue description else pure ""
  let (nested, details) ← tracePropsOutline defs 990 name []
  let doc ← Yaml.dumpText nested
  pure ("# " ++ (← name.display) ++ "\n" ++ md ++ "\x7b% raw %\x7d\n``` yaml\n" ++ unquoteMarkers doc ++
    "\n```\n\n" ++ "\n".intercalate details ++ "\n\x7b% endraw %\x7d\n")

end Dashwright.Reference
