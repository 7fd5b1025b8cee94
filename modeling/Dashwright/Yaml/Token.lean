import Dashwright.Yaml.Mark

/-!
The tokens of a YAML text: indicators of structure (block and flow collections, keys,
values, entries, documents), node properties (anchors, aliases, tags), scalars with the style
they were written in, and directives. Each token knows where it starts and ends, and has a
name used in messages (`'<block end>'`, `','`).
-/

namespace Dashwright.Yaml

/-- The style a scalar is written in. -/
inductive ScalarStyle where
  | plain
  | singleQuoted
  | doubleQuoted
  | literal
  | folded
deriving BEq, Repr, Inhabited

/-- What a directive says. -/
inductive Directive where
  | version (major minor : Nat)
  | tagPrefix (handle pre : String)
  | other
deriving BEq, Repr, Inhabited

/-- The sorts of tokens, without their contents. -/
inductive TokenSort where
  | streamStart | streamEnd | directive | documentStart | documentEnd
  | blockSequenceStart | blockMappingStart | blockEnd
  | flowSequenceStart | flowMappingStart | flowSequenceEnd | flowMappingEnd
  | key | value | blockEntry | flowEntry
  | alias | anchor | tag | scalar
deriving BEq, Repr, Inhabited

def TokenSort.name : TokenSort → String
  | .streamStart => "<stream start>"
  | .streamEnd => "<stream end>"
  | .directive => "<directive>"
  | .documentStart => "<document start>"
  | .documentEnd => "<document end>"
  | .blockSequenceStart => "<block sequence start>"
  | .blockMappingStart => "<block mapping start>"
  | .blockEnd => "<block end>"
  | .flowSequenceStart => "["
  | .flowMappingStart => "\x7b"
  | .flowSequenceEnd => "]"
  | .flowMappingEnd => "\x7d"
  | .key => "?"
  | .value => ":"
  | .blockEntry => "-"
  | .flowEntry => ","
  | .alias => "<alias>"
  | .anchor => "<anchor>"
  | .tag => "<tag>"
  | .scalar => "<scalar>"

/-- A token's contents. -/
inductive TokenKind where
  | streamStart
  | streamEnd
  | directive (name : String) (value : Directive)
  | documentStart
  | documentEnd
  | blockSequenceStart
  | blockMappingStart
  | blockEnd
  | flowSequenceStart
  | flowMappingStart
  | flowSequenceEnd
  | flowMappingEnd
  | key
  | value
  | blockEntry
  | flowEntry
  | alias (name : String)
  | anchor (name : String)
  | tag (handle : Option String) (suffix : String)
  | scalar (text : String) (plain : Bool) (style : ScalarStyle)
deriving Repr, Inhabited

def TokenKind.sort : TokenKind → TokenSort
  | .streamStart => .streamStart
  | .streamEnd => .streamEnd
  | .directive _ _ => .directive
  | .documentStart => .documentStart
  | .documentEnd => .documentEnd
  | .blockSequenceStart => .blockSequenceStart
  | .blockMappingStart => .blockMappingStart
  | .blockEnd => .blockEnd
  | .flowSequenceStart => .flowSequenceStart
  | .flowMappingStart => .flowMappingStart
  | .flowSequenceEnd => .flowSequenceEnd
  | .flowMappingEnd => .flowMappingEnd
  | .key => .key
  | .value => .value
  | .blockEntry => .blockEntry
  | .flowEntry => .flowEntry
  | .alias _ => .alias
  | .anchor _ => .anchor
  | .tag _ _ => .tag
  | .scalar _ _ _ => .scalar

/-- A token with where it starts and ends. -/
structure Token where
  kind : TokenKind
  start : Mark
  stop : Mark
deriving Inhabited

def Token.sort (t : Token) : TokenSort := t.kind.sort

/-- The token's name, quoted as messages show it. -/
def Token.quotedName (t : Token) : String := quoteText t.sort.name

end Dashwright.Yaml
