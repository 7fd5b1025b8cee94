import Dashwright.Template.Lexer
import Dashwright.Template.Syntax
import Dashwright.Failure

/-!
Parsing template tokens into statements. The grammar is read by recursive descent, operator
precedence from loosest to tightest: conditional expressions, `or`, `and`, `not`,
comparisons, `+ -`, `~`, `* / // %`, `**`, unary signs, then primaries with their attribute,
subscript, call, filter and test suffixes.

A statement that opens a block is read up to one of its closing tags. Failures name the
token that was found and, for a missing closing tag, the tags the parser was looking for and
the innermost open block. Every recursive reader takes a fuel argument bounded by the number
of tokens times the depth of the grammar.
-/

namespace Dashwright.Template

/-- What the parser may expect next: a kind of token, or a name with a given text. -/
inductive Expect where
  | kind (k : String)
  | word (w : String)
deriving BEq, Inhabited

/-- The kind of a token, as expectations name it. -/
def Token.kindName : Token → String
  | .data _ => "data"
  | .variableBegin => "variable_begin"
  | .variableEnd => "variable_end"
  | .blockBegin => "block_begin"
  | .blockEnd => "block_end"
  | .name _ => "name"
  | .string _ => "string"
  | .integer _ => "integer"
  | .float _ => "float"
  | .operator op => Token.operatorName op
  | .eof => "eof"
  | .failure _ => "error"

def Token.meets (t : Token) : Expect → Bool
  | .kind k => t.kindName == k
  | .word w => t.isName w

def describeKind : String → String
  | "variable_begin" => "begin of print statement"
  | "variable_end" => "end of print statement"
  | "block_begin" => "begin of statement block"
  | "block_end" => "end of statement block"
  | "data" => "template data / text"
  | "eof" => "end of template"
  | "add" => "+"
  | "sub" => "-"
  | "div" => "/"
  | "floordiv" => "//"
  | "mul" => "*"
  | "mod" => "%"
  | "pow" => "**"
  | "tilde" => "~"
  | "lbracket" => "["
  | "rbracket" => "]"
  | "lparen" => "("
  | "rparen" => ")"
  | "lbrace" => "\x7b"
  | "rbrace" => "\x7d"
  | "eq" => "=="
  | "ne" => "!="
  | "gt" => ">"
  | "gteq" => ">="
  | "lt" => "<"
  | "lteq" => "<="
  | "assign" => "="
  | "dot" => "."
  | "colon" => ":"
  | "pipe" => "|"
  | "comma" => ","
  | "semicolon" => ";"
  | k => k

def Expect.describe : Expect → String
  | .kind k => describeKind k
  | .word w => w

/-- The state of the parser: the tokens, the position, the open tags and the closing tags
each open block waits for. -/
structure ParseState where
  tokens : Array Token
  pos : Nat
  tags : List String
  ends : List (List Expect)

abbrev Parse := StateT ParseState (Except Failure)

def syntaxError (message : String) : Failure := Failure.make .templateSyntax message

def fail {α : Type} (message : String) : Parse α := throw (syntaxError message)

def tokenAt (s : ParseState) (i : Nat) : Token := s.tokens[i]?.getD .eof

def current : Parse Token := do
  let s ← get
  pure (tokenAt s s.pos)

/-- Moves to the next token; reaching a token that could not be read fails with its reason. -/
def advance : Parse Unit := do
  let s ← get
  match tokenAt s s.pos with
  | .eof => pure ()
  | _ =>
    set { s with pos := s.pos + 1 }
    match tokenAt s (s.pos + 1) with
    | .failure m => fail m
    | _ => pure ()

/-- The token after the current one; reading it may fail. -/
def look : Parse Token := do
  let s ← get
  match tokenAt s s.pos with
  | .eof => pure .eof
  | _ =>
    match tokenAt s (s.pos + 1) with
    | .failure m => fail m
    | t => pure t

def take : Parse Token := do
  let t ← current
  advance
  pure t

def atKind (k : String) : Parse Bool := do pure ((← current).kindName == k)

def atWord (w : String) : Parse Bool := do pure ((← current).isName w)

def skipIf (e : Expect) : Parse Bool := do
  if (← current).meets e then
    advance
    pure true
  else pure false

def expectToken (e : Expect) : Parse Token := do
  let t ← current
  if t.meets e then
    advance
    pure t
  else match t with
    | .eof => fail ("unexpected end of template, expected " ++ quoteText e.describe ++ ".")
    | _ => fail ("expected token " ++ quoteText e.describe ++ ", got " ++ quoteText t.describe)

def expectName : Parse String := do
  match ← expectToken (.kind "name") with
  | .name s => pure s
  | _ => pure ""

/-- The failure for an unknown tag (`name`) or an early end of the template (`none`). -/
def unknownTagFailure (name : Option String) (stack : List (List Expect)) : Parse Failure := do
  let s ← get
  let expected := stack.flatten.map Expect.describe
  let looking := match stack.getLast? with
    | some es => some (" or ".intercalate (es.map fun e => quoteText e.describe))
    | none => none
  let head := match name with
    | none => "Unexpected end of template."
    | some n => "Encountered unknown tag " ++ quoteText n ++ "."
  let middle := match looking with
    | some l =>
      match name with
      | some n =>
        if expected.contains n then
          ["You probably made a nesting mistake. Jinja is expecting this tag, but currently looking for " ++ l ++ "."]
        else ["Jinja was looking for the following tags: " ++ l ++ "."]
      | none => ["Jinja was looking for the following tags: " ++ l ++ "."]
    | none => []
  let tail := match s.tags.head? with
    | some t => ["The innermost block that needs to be closed is " ++ quoteText t ++ "."]
    | none => []
  pure (syntaxError (" ".intercalate (head :: middle ++ tail)))

/-- The closing tags the open blocks wait for, outermost first. -/
def openEnds : Parse (List (List Expect)) := do pure (← get).ends.reverse

def failUnknownTag {α : Type} (name : String) : Parse α := do
  throw (← unknownTagFailure (some name) (← openEnds))

def failEof {α : Type} (ends : List Expect) : Parse α := do
  throw (← unknownTagFailure none ((← openEnds) ++ [ends]))

def pushTag (t : String) : Parse Unit := modify fun s => { s with tags := t :: s.tags }

def popTag : Parse Unit := modify fun s => { s with tags := s.tags.drop 1 }

def pushEnds (e : List Expect) : Parse Unit := modify fun s => { s with ends := e :: s.ends }

def popEnds : Parse Unit := modify fun s => { s with ends := s.ends.drop 1 }

/-- A bound on the iterations of any loop of the parser: each consumes a token. -/
def budget : Parse Nat := do pure ((← get).tokens.size + 1)

/-- The name an expression's kind goes by when it cannot be assigned to. -/
def Expr.kindName : Expr → String
  | .const _ | .unspellable _ => "const"
  | .name _ => "name"
  | .attr _ _ => "getattr"
  | .item _ _ => "getitem"
  | .slice _ _ _ => "slice"
  | .tuple _ => "tuple"
  | .list _ => "list"
  | .dict _ => "dict"
  | .neg _ => "neg"
  | .pos _ => "pos"
  | .not _ => "not"
  | .arith .add _ _ => "add"
  | .arith .sub _ _ => "sub"
  | .arith .mul _ _ => "mul"
  | .arith .div _ _ => "div"
  | .arith .floorDiv _ _ => "floordiv"
  | .arith .mod _ _ => "mod"
  | .arith .pow _ _ => "pow"
  | .and _ _ => "and"
  | .or _ _ => "or"
  | .concat _ => "concat"
  | .compare _ _ => "compare"
  | .cond _ _ _ => "condexpr"
  | .call _ _ => "call"
  | .filter _ _ _ => "filter"
  | .test _ _ _ => "test"

/-- An expression as an assignment target: a name or a tuple of targets. -/
def Expr.toTarget? : Expr → Option Target
  | .name n => some (.name n)
  | .tuple items =>
    let rec go : List Expr → Option (List Target)
      | [] => some []
      | .name n :: rest => (go rest).map (Target.name n :: ·)
      | .tuple inner :: rest =>
        match Expr.toTarget? (.tuple inner), go rest with
        | some t, some ts => some (t :: ts)
        | _, _ => none
      | _ :: _ => none
    (go items).map Target.tuple
  | _ => none

def comparisonOf : String → Option Relation
  | "eq" => some .eq
  | "ne" => some .ne
  | "lt" => some .lt
  | "lteq" => some .le
  | "gt" => some .gt
  | "gteq" => some .ge
  | _ => none

def outOfFuel {α : Type} : Parse α := throw (Failure.make .tooDeep "maximum recursion depth exceeded")

mutual

def parseExpression : Nat → Bool → Parse Expr
  | 0, _ => outOfFuel
  | f + 1, withCond => if withCond then parseCondExpr f else parseOr f

def parseCondExpr : Nat → Parse Expr
  | 0 => outOfFuel
  | f + 1 => do
    let mut e ← parseOr f
    for _ in List.range (← budget) do
      if ← skipIf (.word "if") then
        let test ← parseOr f
        let orelse ← if ← skipIf (.word "else") then some <$> parseCondExpr f else pure none
        e := .cond test e orelse
      else break
    pure e

def parseOr : Nat → Parse Expr
  | 0 => outOfFuel
  | f + 1 => do
    let mut e ← parseAnd f
    for _ in List.range (← budget) do
      if ← skipIf (.word "or") then e := .or e (← parseAnd f) else break
    pure e

def parseAnd : Nat → Parse Expr
  | 0 => outOfFuel
  | f + 1 => do
    let mut e ← parseNot f
    for _ in List.range (← budget) do
      if ← skipIf (.word "and") then e := .and e (← parseNot f) else break
    pure e

def parseNot : Nat → Parse Expr
  | 0 => outOfFuel
  | f + 1 => do
    if ← atWord "not" then
      advance
      pure (.not (← parseNot f))
    else parseCompare f

def parseCompare : Nat → Parse Expr
  | 0 => outOfFuel
  | f + 1 => do
    let first ← parseMath1 f
    let mut ops : List (Relation × Expr) := []
    for _ in List.range (← budget) do
      let t ← current
      match comparisonOf t.kindName with
      | some r =>
        advance
        ops := ops ++ [(r, ← parseMath1 f)]
      | none =>
        if ← skipIf (.word "in") then ops := ops ++ [(.isIn, ← parseMath1 f)]
        else if t.isName "not" && (← look).isName "in" then
          advance
          advance
          ops := ops ++ [(.notIn, ← parseMath1 f)]
        else break
    pure (if ops.isEmpty then first else .compare first ops)

def parseMath1 : Nat → Parse Expr
  | 0 => outOfFuel
  | f + 1 => do
    let mut e ← parseConcat f
    for _ in List.range (← budget) do
      let k := (← current).kindName
      if k == "add" then
        advance
        e := .arith .add e (← parseConcat f)
      else if k == "sub" then
        advance
        e := .arith .sub e (← parseConcat f)
      else break
    pure e

def parseConcat : Nat → Parse Expr
  | 0 => outOfFuel
  | f + 1 => do
    let first ← parseMath2 f
    let mut rest : List Expr := []
    for _ in List.range (← budget) do
      if ← atKind "tilde" then
        advance
        rest := rest ++ [← parseMath2 f]
      else break
    pure (if rest.isEmpty then first else .concat (first :: rest))

def parseMath2 : Nat → Parse Expr
  | 0 => outOfFuel
  | f + 1 => do
    let mut e ← parsePow f
    for _ in List.range (← budget) do
      let op := match (← current).kindName with
        | "mul" => some Arith.mul
        | "div" => some Arith.div
        | "floordiv" => some Arith.floorDiv
        | "mod" => some Arith.mod
        | _ => none
      match op with
      | some o =>
        advance
        e := .arith o e (← parsePow f)
      | none => break
    pure e

def parsePow : Nat → Parse Expr
  | 0 => outOfFuel
  | f + 1 => do
    let mut e ← parseUnary f true
    for _ in List.range (← budget) do
      if ← atKind "pow" then
        advance
        e := .arith .pow e (← parseUnary f true)
      else break
    pure e

def parseUnary : Nat → Bool → Parse Expr
  | 0, _ => outOfFuel
  | f + 1, withFilter => do
    let k := (← current).kindName
    let node ← if k == "sub" then do
        advance
        pure (Expr.neg (← parseUnary f false))
      else if k == "add" then do
        advance
        pure (Expr.pos (← parseUnary f false))
      else parsePrimary f
    let node ← parsePostfix f node
    if withFilter then parseFilterExpr f node else pure node

def parsePrimary : Nat → Parse Expr
  | 0 => outOfFuel
  | f + 1 => do
    let t ← current
    match t with
    | .name n =>
      advance
      if n == "true" || n == "True" then pure (.const (.bool true))
      else if n == "false" || n == "False" then pure (.const (.bool false))
      else if n == "none" || n == "None" then pure (.const .none)
      else pure (.name n)
    | .string s =>
      advance
      let mut buf := s
      for _ in List.range (← budget) do
        match ← current with
        | .string more =>
          buf := buf ++ more
          advance
        | _ => break
      pure (.const (.str buf))
    | .integer i =>
      advance
      pure (.const (.int i))
    | .float x =>
      advance
      pure (.const (.float x))
    | _ =>
      let k := t.kindName
      if k == "lparen" then
        advance
        let e ← parseTuple f false true [] true
        let _ ← expectToken (.kind "rparen")
        pure e
      else if k == "lbracket" then parseList f
      else if k == "lbrace" then parseDict f
      else fail ("unexpected " ++ quoteText t.describe)

/-- A tuple of expressions separated by commas, or the single expression when there is no
comma. `simplified` reads primaries only, as assignment targets are. -/
def parseTuple : Nat → Bool → Bool → List Expect → Bool → Parse Expr
  | 0, _, _, _, _ => outOfFuel
  | f + 1, simplified, withCond, extraEnd, explicitParens => do
    let mut args : List Expr := []
    let mut isTuple := false
    for _ in List.range (← budget) do
      if !args.isEmpty then
        let _ ← expectToken (.kind "comma")
      let t ← current
      let atEnd := t.kindName == "variable_end" || t.kindName == "block_end" ||
        t.kindName == "rparen" || extraEnd.any t.meets
      if atEnd then break
      let e ← if simplified then parsePrimary f else parseExpression f withCond
      args := args ++ [e]
      if ← atKind "comma" then isTuple := true else break
    if !isTuple then
      match args with
      | [e] => return e
      | _ =>
        if !explicitParens then
          fail ("Expected an expression, got " ++ quoteText (← current).describe)
    pure (.tuple args)

def parseList : Nat → Parse Expr
  | 0 => outOfFuel
  | f + 1 => do
    let _ ← expectToken (.kind "lbracket")
    let mut items : List Expr := []
    for _ in List.range (← budget) do
      if ← atKind "rbracket" then break
      if !items.isEmpty then
        let _ ← expectToken (.kind "comma")
      if ← atKind "rbracket" then break
      items := items ++ [← parseExpression f true]
    let _ ← expectToken (.kind "rbracket")
    pure (.list items)

def parseDict : Nat → Parse Expr
  | 0 => outOfFuel
  | f + 1 => do
    let _ ← expectToken (.kind "lbrace")
    let mut pairs : List (Expr × Expr) := []
    for _ in List.range (← budget) do
      if ← atKind "rbrace" then break
      if !pairs.isEmpty then
        let _ ← expectToken (.kind "comma")
      if ← atKind "rbrace" then break
      let k ← parseExpression f true
      let _ ← expectToken (.kind "colon")
      let v ← parseExpression f true
      pairs := pairs ++ [(k, v)]
    let _ ← expectToken (.kind "rbrace")
    pure (.dict pairs)

def parsePostfix : Nat → Expr → Parse Expr
  | 0, _ => outOfFuel
  | f + 1, node => do
    let mut e := node
    for _ in List.range (← budget) do
      let k := (← current).kindName
      if k == "dot" || k == "lbracket" then e ← parseSubscript f e
      else if k == "lparen" then e := .call e (← parseCallArgs f)
      else break
    pure e

def parseFilterExpr : Nat → Expr → Parse Expr
  | 0, _ => outOfFuel
  | f + 1, node => do
    let mut e := node
    for _ in List.range (← budget) do
      let t ← current
      if t.kindName == "pipe" then e ← parseFilter f (some e) false
      else if t.isName "is" then e ← parseTest f e
      else if t.kindName == "lparen" then e := .call e (← parseCallArgs f)
      else break
    pure e

def parseSubscript : Nat → Expr → Parse Expr
  | 0, _ => outOfFuel
  | f + 1, node => do
    let t ← take
    if t.kindName == "dot" then
      let a ← take
      match a with
      | .name n => pure (.attr node n)
      | .integer i => pure (.item node (.const (.int i)))
      | _ => fail "expected name or number"
    else if t.kindName == "lbracket" then
      let mut args : List Expr := []
      for _ in List.range (← budget) do
        if ← atKind "rbracket" then break
        if !args.isEmpty then
          let _ ← expectToken (.kind "comma")
        args := args ++ [← parseSubscribed f]
      let _ ← expectToken (.kind "rbracket")
      match args with
      | [a] => pure (.item node a)
      | _ => pure (.item node (.tuple args))
    else fail "expected subscript expression"

def parseSubscribed : Nat → Parse Expr
  | 0 => outOfFuel
  | f + 1 => do
    let start ← if ← atKind "colon" then do
        advance
        pure none
      else do
        let e ← parseExpression f true
        if !(← atKind "colon") then return e
        advance
        pure (some e)
    let k := (← current).kindName
    let stop ← if k == "colon" || k == "rbracket" || k == "comma" then pure none
      else some <$> parseExpression f true
    let step ← if ← atKind "colon" then do
        advance
        let k := (← current).kindName
        if k == "rbracket" || k == "comma" then pure none else some <$> parseExpression f true
      else pure none
    pure (.slice start stop step)

def parseCallArgs : Nat → Parse Args
  | 0 => outOfFuel
  | f + 1 => do
    let _ ← expectToken (.kind "lparen")
    let mut positional : List Expr := []
    let mut keywords : List (String × Expr) := []
    let mut star : Option Expr := none
    let mut starStar : Option Expr := none
    let mut needComma := false
    let invalid := "invalid syntax for function call expression"
    for _ in List.range (← budget) do
      if ← atKind "rparen" then break
      if needComma then
        let _ ← expectToken (.kind "comma")
        if ← atKind "rparen" then break
      let t ← current
      if t.kindName == "mul" then
        if star.isSome || starStar.isSome then fail invalid
        advance
        star := some (← parseExpression f true)
      else if t.kindName == "pow" then
        if starStar.isSome then fail invalid
        advance
        starStar := some (← parseExpression f true)
      else
        let next ← if t.kindName == "name" then look else pure Token.eof
        match t, next.kindName == "assign" with
        | .name key, true =>
          if starStar.isSome then fail invalid
          advance
          advance
          keywords := keywords ++ [(key, ← parseExpression f true)]
        | _, _ =>
          if star.isSome || starStar.isSome || !keywords.isEmpty then fail invalid
          positional := positional ++ [← parseExpression f true]
      needComma := true
    let _ ← expectToken (.kind "rparen")
    pure (.mk positional keywords star starStar)

/-- Filters after `|`; with `inline` the first one is read without a `|` before it. -/
def parseFilter : Nat → Option Expr → Bool → Parse Expr
  | 0, _, _ => outOfFuel
  | f + 1, node, inline => do
    let mut e := node
    let mut first := inline
    for _ in List.range (← budget) do
      if !(first || (← atKind "pipe")) then break
      if !first then advance
      let mut name ← expectName
      for _ in List.range (← budget) do
        if ← atKind "dot" then
          advance
          name := name ++ "." ++ (← expectName)
        else break
      let args ← if ← atKind "lparen" then parseCallArgs f else pure Args.empty
      e := some (.filter e name args)
      first := false
    pure (e.getD (.const .none))

def parseTest : Nat → Expr → Parse Expr
  | 0, _ => outOfFuel
  | f + 1, node => do
    advance
    let negated ← if ← atWord "not" then do
        advance
        pure true
      else pure false
    let mut name ← expectName
    for _ in List.range (← budget) do
      if ← atKind "dot" then
        advance
        name := name ++ "." ++ (← expectName)
      else break
    let t ← current
    let k := t.kindName
    let args ← if k == "lparen" then parseCallArgs f
      else if (k == "name" || k == "string" || k == "integer" || k == "float" || k == "lbracket" ||
          k == "lbrace") && !(t.isName "else" || t.isName "or" || t.isName "and") then do
        if t.isName "is" then fail "You cannot chain multiple tests with is"
        let a ← parsePrimary f
        let a ← parsePostfix f a
        pure (Args.mk [a] [] none none)
      else pure Args.empty
    let e := Expr.test node name args
    pure (if negated then .not e else e)

end

/-- An assignment target: a name, a namespace attribute (with `withNamespace`), or a tuple
of names. -/
def parseAssignTarget (fuel : Nat) (withTuple nameOnly withNamespace : Bool)
    (extraEnd : List Expect) : Parse Target := do
  if withNamespace && (← look).kindName == "dot" then
    let ns ← expectName
    advance
    let a ← expectName
    return .field ns a
  if nameOnly then
    return .name (← expectName)
  let e ← if withTuple then parseTuple fuel true true extraEnd false else parsePrimary fuel
  match e.toTarget? with
  | some t => pure t
  | none => fail ("can't assign to " ++ quoteText e.kindName)

/-- The parameters of a macro or call block: names, those after the first default with
defaults of their own. -/
def parseSignature (fuel : Nat) : Parse (List (String × Option Expr)) := do
  let _ ← expectToken (.kind "lparen")
  let mut params : List (String × Option Expr) := []
  for _ in List.range (← budget) do
    if ← atKind "rparen" then break
    if !params.isEmpty then
      let _ ← expectToken (.kind "comma")
    let n ← expectName
    if ← skipIf (.kind "assign") then
      params := params ++ [(n, some (← parseExpression fuel true))]
    else
      if params.any (·.2.isSome) then fail "non-default argument follows default argument"
      params := params ++ [(n, none)]
  let _ ← expectToken (.kind "rparen")
  pure params

/-- `with` or `without context` after an import. -/
def parseImportContext : Parse Unit := do
  let t ← current
  if (t.isName "with" || t.isName "without") && (← look).isName "context" then
    advance
    advance

/-- The statements a template is made of. -/
inductive Keyword where
  | forLoop | ifChain | block | extends | print | routine | include | fromImport | importAll
  | set | withBlock | autoescape | call | filter

def keywordOf : String → Option Keyword
  | "for" => some .forLoop
  | "if" => some .ifChain
  | "block" => some .block
  | "extends" => some .extends
  | "print" => some .print
  | "macro" => some .routine
  | "include" => some .include
  | "from" => some .fromImport
  | "import" => some .importAll
  | "set" => some .set
  | "with" => some .withBlock
  | "autoescape" => some .autoescape
  | "call" => some .call
  | "filter" => some .filter
  | _ => none

mutual

/-- Statements and text up to one of the closing tags `ends` (or the end of the template). -/
def subparse : Nat → Option (List Expect) → Parse (List Node)
  | 0, _ => outOfFuel
  | f + 1, ends => do
    if let some e := ends then pushEnds e
    let mut body : List Node := []
    for _ in List.range (← budget) do
      let t ← current
      match t with
      | .eof => break
      | .data s =>
        body := body ++ [.text s]
        advance
      | .variableBegin =>
        advance
        body := body ++ [.print (← parseTuple f false true [] false)]
        let _ ← expectToken (.kind "variable_end")
      | .blockBegin =>
        advance
        let cur ← current
        if let some e := ends then
          if e.any cur.meets then
            popEnds
            return body
        body := body ++ (← parseStatement f)
        let _ ← expectToken (.kind "block_end")
      | _ => fail "internal parsing error"
    if ends.isSome then popEnds
    pure body

/-- The body of a block statement up to one of its closing tags; with `drop` the closing tag
is consumed. -/
def parseStatements : Nat → List Expect → Bool → Parse (List Node)
  | 0, _, _ => outOfFuel
  | f + 1, ends, drop => do
    let _ ← skipIf (.kind "colon")
    let _ ← expectToken (.kind "block_end")
    let body ← subparse f (some ends)
    if (← current).kindName == "eof" then failEof ends
    if drop then advance
    pure body

def parseStatement : Nat → Parse (List Node)
  | 0 => outOfFuel
  | f + 1 => do
    let t ← current
    let name ← match t with
      | .name n => pure n
      | _ => fail "tag name expected"
    match keywordOf name with
    | none => failUnknownTag name
    | some kw =>
      pushTag name
      let r ← parseKeyword f kw
      popTag
      pure r

def parseKeyword : Nat → Keyword → Parse (List Node)
  | 0, _ => outOfFuel
  | f + 1, kw => do
    match kw with
    | .forLoop =>
      let _ ← expectToken (.word "for")
      let target ← parseAssignTarget f true false false [.word "in"]
      let _ ← expectToken (.word "in")
      let iter ← parseTuple f false false [.word "recursive"] false
      let test ← if ← skipIf (.word "if") then some <$> parseExpression f true else pure none
      let recursive ← skipIf (.word "recursive")
      let body ← parseStatements f [.word "endfor", .word "else"] false
      let closing ← take
      let orelse ← if closing.isName "endfor" then pure []
        else parseStatements f [.word "endfor"] true
      pure [.forLoop target iter body orelse test recursive]
    | .ifChain =>
      let _ ← expectToken (.word "if")
      let mut branches : List (Expr × List Node) := []
      let mut orelse : List Node := []
      for _ in List.range (← budget) do
        let test ← parseTuple f false false [] false
        let body ← parseStatements f [.word "elif", .word "else", .word "endif"] false
        branches := branches ++ [(test, body)]
        let closing ← take
        if closing.isName "elif" then continue
        if closing.isName "else" then
          orelse ← parseStatements f [.word "endif"] true
        break
      pure [.ifChain branches orelse]
    | .set =>
      advance
      let target ← parseAssignTarget f true false true []
      if ← skipIf (.kind "assign") then
        pure [.assign target (← parseTuple f false true [] false)]
      else
        let filter ← if ← atKind "pipe" then some <$> parseFilter f none false else pure none
        let body ← parseStatements f [.word "endset"] true
        pure [.assignBlock target filter body]
    | .withBlock =>
      advance
      let mut bindings : List (Target × Expr) := []
      for _ in List.range (← budget) do
        if ← atKind "block_end" then break
        if !bindings.isEmpty then
          let _ ← expectToken (.kind "comma")
        let target ← parseAssignTarget f true false false []
        let _ ← expectToken (.kind "assign")
        bindings := bindings ++ [(target, ← parseExpression f true)]
      let body ← parseStatements f [.word "endwith"] true
      pure [.withBlock bindings body]
    | .autoescape =>
      advance
      let _ ← parseExpression f true
      let body ← parseStatements f [.word "endautoescape"] true
      pure [.scope body]
    | .block =>
      advance
      let name ← expectName
      let _ ← skipIf (.word "scoped")
      let required ← skipIf (.word "required")
      if ← atKind "sub" then
        fail ("Block names in Jinja have to be valid Python identifiers and may not contain " ++
          "hyphens, use an underscore instead.")
      let body ← parseStatements f [.word "endblock"] true
      if required && body.any (fun n => match n with
          | .text s => !(s.all Text.isSpace && !s.isEmpty)
          | _ => true) then
        fail "Required blocks can only contain comments or whitespace"
      let _ ← skipIf (.word name)
      pure [.block name body]
    | .extends =>
      advance
      pure [.load (← parseExpression f true)]
    | .include =>
      advance
      let e ← parseExpression f true
      if (← current).isName "ignore" && (← look).isName "missing" then
        advance
        advance
      parseImportContext
      pure [.load e]
    | .importAll =>
      advance
      let e ← parseExpression f true
      let _ ← expectToken (.word "as")
      let _ ← parseAssignTarget f true true false []
      parseImportContext
      pure [.load e]
    | .fromImport =>
      advance
      let e ← parseExpression f true
      let _ ← expectToken (.word "import")
      let mut count := 0
      for _ in List.range (← budget) do
        if count > 0 then
          let _ ← expectToken (.kind "comma")
        let t ← current
        if t.kindName == "name" then
          if (t.isName "with" || t.isName "without") && (← look).isName "context" then
            advance
            advance
            break
          let n ← expectName
          if n.startsWith "_" then
            throw (Failure.make .templateAssertion "names starting with an underline can not be imported")
          if ← skipIf (.word "as") then
            let _ ← expectName
          count := count + 1
          let t2 ← current
          if (t2.isName "with" || t2.isName "without") && (← look).isName "context" then
            advance
            advance
            break
          if t2.kindName != "comma" then break
        else
          let _ ← expectToken (.kind "name")
      pure [.load e]
    | .print =>
      advance
      let mut items : List Node := []
      for _ in List.range (← budget) do
        if ← atKind "block_end" then break
        if !items.isEmpty then
          let _ ← expectToken (.kind "comma")
        items := items ++ [.print (← parseExpression f true)]
      pure items
    | .routine =>
      advance
      let name ← expectName
      let params ← parseSignature f
      let body ← parseStatements f [.word "endmacro"] true
      pure [.routine name params body]
    | .call =>
      advance
      let params ← if ← atKind "lparen" then parseSignature f else pure []
      let call ← parseExpression f true
      match call with
      | .call _ _ =>
        let body ← parseStatements f [.word "endcall"] true
        pure [.callBlock params call body]
      | _ => fail "expected call"
    | .filter =>
      advance
      let filter ← parseFilter f none true
      let body ← parseStatements f [.word "endfilter"] true
      pure [.filterBlock filter body]

end

def parseTokens (tokens : List Token) : Outcome (List Node) := do
  let arr := tokens.toArray
  match (arr[0]? : Option Token) with
  | some (Token.failure m) => throw (syntaxError m)
  | _ =>
    let fuel := 40 * (arr.size + 2)
    let (body, _) ← (subparse fuel none).run ⟨arr, 0, [], []⟩
    pure body

def parseTemplate (source : String) : Outcome (List Node) := parseTokens (tokenize source)

end Dashwright.Template
