import Dashwright.Number.Text
import Dashwright.Value.Text
import Dashwright.Text.Blank
import Dashwright.Text.Case
import Dashwright.Text.Names

/-!
Splitting a template into tokens. Outside tags the text is data. `{{ ... }}` holds an
expression to print, `{% ... %}` a statement, `{# ... #}` a comment; `{% raw %}` starts text
taken as it stands up to `{% endraw %}`. A `-` just inside a delimiter strips the white space
on that side of the tag, newlines included. Line ends are read as `\n`, and one newline at
the very end of the template is dropped.

Inside tags the tokens are names, numbers, quoted texts and operators. A closing `}}` or `%}`
only ends the tag when every bracket opened inside it is closed.

A token that cannot be read becomes a `failure` token at its place: the template is read as
far as the parser asks, so a mistake further on only shows when the parser gets there.
-/

namespace Dashwright.Template

/-- The tokens of a template. -/
inductive Token where
  | data (text : String)
  | variableBegin
  | variableEnd
  | blockBegin
  | blockEnd
  | name (s : String)
  | string (s : String)
  | integer (i : Int)
  | float (f : Float)
  /-- an operator, by its text -/
  | operator (op : String)
  | eof
  /-- the place of a token that could not be read, with the reason -/
  | failure (message : String)
deriving Inhabited

namespace Token

/-- The name of an operator, as expectations in parse failures refer to it. -/
def operatorName : String → String
  | "+" => "add"
  | "-" => "sub"
  | "/" => "div"
  | "//" => "floordiv"
  | "*" => "mul"
  | "%" => "mod"
  | "**" => "pow"
  | "~" => "tilde"
  | "[" => "lbracket"
  | "]" => "rbracket"
  | "(" => "lparen"
  | ")" => "rparen"
  | "\x7b" => "lbrace"
  | "\x7d" => "rbrace"
  | "==" => "eq"
  | "!=" => "ne"
  | ">" => "gt"
  | ">=" => "gteq"
  | "<" => "lt"
  | "<=" => "lteq"
  | "=" => "assign"
  | "." => "dot"
  | ":" => "colon"
  | "|" => "pipe"
  | "," => "comma"
  | ";" => "semicolon"
  | op => op

def describe : Token → String
  | .data _ => "template data / text"
  | .variableBegin => "begin of print statement"
  | .variableEnd => "end of print statement"
  | .blockBegin => "begin of statement block"
  | .blockEnd => "end of statement block"
  | .name s => s
  | .string _ => "string"
  | .integer _ => "integer"
  | .float _ => "float"
  | .operator op => op
  | .eof => "end of template"
  | .failure _ => "error"

def isName (t : Token) (w : String) : Bool :=
  match t with
  | .name s => s == w
  | _ => false

def isOperator (t : Token) (op : String) : Bool :=
  match t with
  | .operator o => o == op
  | _ => false

end Token

/-- The operators, longest first. -/
def operators : List String :=
  ["//", "**", "==", "!=", ">=", "<=", "+", "-", "/", "*", "%", "~", "[", "]", "(", ")", "\x7b",
   "\x7d", ">", "<", "=", ".", ":", "|", ",", ";"]

/-- Characters of a name: word characters and the marks that may continue an identifier. -/
def isWordChar (c : Char) : Bool := Text.isWordCharacter c || Text.isIdentContinue c

/-- Whether a word is a name: an identifier. -/
def isIdentifier (w : List Char) : Bool := Text.isIdentifier (String.ofList w)

def startsAt (src : Array Char) (pos : Nat) (lit : String) : Bool :=
  (lit.toList.zipIdx).all fun (c, i) => src[pos + i]? == some c

/-- The first position at or after `pos` where `src` holds no blank. -/
def skipBlank (src : Array Char) (pos : Nat) : Nat :=
  let rec go : Nat → Nat → Nat
    | 0, p => p
    | fuel + 1, p => if (src[p]?.map Text.isSpace).getD false then go fuel (p + 1) else p
  go (src.size - pos + 1) pos

def slice (src : Array Char) (a b : Nat) : String := String.ofList (src.extract a b).toList

/-- The end of a closing delimiter at `pos`, with its strip sign: `-` strips the blanks after
it, `+` is allowed only where `plus` says so. -/
def closingAt (src : Array Char) (pos : Nat) (close : String) (plus : Bool) : Option Nat :=
  if plus && startsAt src pos ("+" ++ close) then some (pos + 1 + close.length)
  else if startsAt src pos ("-" ++ close) then some (skipBlank src (pos + 1 + close.length))
  else if startsAt src pos close then some (pos + close.length)
  else none

def signAt (src : Array Char) (pos : Nat) : Option Char :=
  match src[pos]? with
  | some '-' => some '-'
  | some '+' => some '+'
  | _ => none

/-- The end of `{% raw %}` (or `{% endraw %}` with the given word) at `pos`, with the strip
sign after its `{%`. -/
def rawTagAt (src : Array Char) (pos : Nat) (word : String) (plusEnd : Bool) :
    Option (Nat × Option Char) :=
  if !startsAt src pos "\x7b%" then none
  else
    let sign := signAt src (pos + 2)
    let p := pos + 2 + (if sign.isSome then 1 else 0)
    let p := skipBlank src p
    if !startsAt src p word then none
    else
      let p := skipBlank src (p + word.length)
      (closingAt src p "%\x7d" plusEnd).map fun e => (e, sign)

/-- What opens at a position of data: a raw block, a print, a statement or a comment. -/
inductive Opening where
  | raw
  | variable
  | block
  | comment
deriving BEq

/-- The first opening at or after `pos`: its position, kind, the position after it, and its
strip sign. -/
def nextOpening (src : Array Char) (pos : Nat) : Option (Nat × Opening × Nat × Option Char) :=
  let rec go : Nat → Nat → Option (Nat × Opening × Nat × Option Char)
    | 0, _ => none
    | fuel + 1, p =>
      if p + 1 ≥ src.size then none
      else if src[p]? != some '{' then go fuel (p + 1)
      else match rawTagAt src p "raw" false with
        | some (e, sign) => some (p, .raw, e, sign)
        | none =>
          let kind := match src[p + 1]? with
            | some '{' => some Opening.variable
            | some '%' => some Opening.block
            | some '#' => some Opening.comment
            | _ => none
          match kind with
          | some k =>
            let sign := signAt src (p + 2)
            some (p, k, p + 2 + (if sign.isSome then 1 else 0), sign)
          | none => go fuel (p + 1)
  go (src.size + 1) pos

/-- Digits with single underscores between them, from `pos`; the position after them. -/
def digitRun (src : Array Char) (pos : Nat) (ok : Char → Bool) : Option Nat :=
  let rec go : Nat → Nat → Bool → Option Nat
    | 0, p, _ => some p
    | fuel + 1, p, any =>
      match src[p]? with
      | some c =>
        if ok c then go fuel (p + 1) true
        else if c == '_' && any && ((src[p + 1]?.map ok).getD false) then go fuel (p + 1) true
        else if any then some p else none
      | none => if any then some p else none
  go (src.size - pos + 1) pos false

/-- A decimal number with a fraction or an exponent at `pos`: the position after it. -/
def floatAt (src : Array Char) (pos : Nat) : Option Nat :=
  if pos > 0 && src[pos - 1]? == some '.' then none
  else
    match digitRun src pos Text.isDecimal with
    | none => none
    | some p =>
      let exponent (q : Nat) : Option Nat :=
        match src[q]? with
        | some 'e' | some 'E' =>
          let q1 := match src[q + 1]? with
            | some '+' | some '-' => q + 2
            | _ => q + 1
          digitRun src q1 Text.isDecimal
        | _ => none
      let fraction : Option Nat :=
        if src[p]? == some '.' then digitRun src (p + 1) Text.isDecimal else none
      match fraction with
      | some q => some ((exponent q).getD q)
      | none => exponent p

def isHexDigit (c : Char) : Bool :=
  c.isDigit || ('a' ≤ c && c ≤ 'f') || ('A' ≤ c && c ≤ 'F')

/-- Digits of a hexadecimal literal: decimal digits of any script and the six letters. -/
def isHexLiteralDigit (c : Char) : Bool :=
  Text.isDecimal c || ('a' ≤ c && c ≤ 'f') || ('A' ≤ c && c ≤ 'F')

/-- The value of a digit of a literal: decimal digits of any script, then the letters. -/
def literalDigitValue (c : Char) : Nat :=
  match Text.decimalValue? c with
  | some d => d
  | none => c.toLower.toNat - 87

/-- An integer at `pos`: binary, octal, hexadecimal or decimal, with underscores between
digits; the position after it and its value. -/
def integerAt (src : Array Char) (pos : Nat) : Option (Nat × Int) :=
  let digitsValue (base : Nat) (a b : Nat) : Int :=
    ((src.extract a b).toList.filter (· != '_')).foldl (fun n c =>
      n * base + literalDigitValue c) 0
  let prefixed (marks : List Char) (base : Nat) (ok : Char → Bool) : Option (Nat × Int) :=
    if src[pos]? == some '0' && (src[pos + 1]?.map marks.contains).getD false then
      -- an underscore may follow the base mark
      let start := if src[pos + 2]? == some '_' then pos + 3 else pos + 2
      if (src[start]?.map ok).getD false then
        (digitRun src start ok).map fun e => (e, digitsValue base start e)
      else none
    else none
  match prefixed ['b', 'B'] 2 (fun c => c == '0' || c == '1') with
  | some r => some r
  | none => match prefixed ['o', 'O'] 8 (fun c => '0' ≤ c && c ≤ '7') with
    | some r => some r
    | none => match prefixed ['x', 'X'] 16 isHexLiteralDigit with
      | some r => some r
      | none =>
        match src[pos]? with
        | some c =>
          if '1' ≤ c && c ≤ '9' then
            (digitRun src pos Text.isDecimal).map fun e => (e, digitsValue 10 pos e)
          else if c == '0' then
            (digitRun src pos (· == '0')).map fun e => (e, 0)
          else none
        | none => none

/-- The value of a decimal number with a fraction or exponent, underscores dropped. -/
def floatValue (text : List Char) : Float :=
  let cs := text.filter (· != '_')
  let (mant, ex) := cs.span (fun c => c != 'e' && c != 'E')
  let (whole, frac) := mant.span (· != '.')
  let frac := frac.drop 1
  let value (ds : List Char) : Nat := ds.foldl (fun n c => n * 10 + literalDigitValue c) 0
  let digits := value (whole ++ frac)
  let expo : Int := match ex.drop 1 with
    | '-' :: ds => -((value ds : Nat) : Int)
    | '+' :: ds => (value ds : Nat)
    | ds => (value ds : Nat)
  Number.floatOfDecimal false digits (expo - frac.length)

/-- A quoted text at `pos`: the position after it and the characters between the quotes. -/
def stringAt (src : Array Char) (pos : Nat) : Option (Nat × List Char) :=
  match src[pos]? with
  | some q =>
    if q != '\'' && q != '"' then none
    else
      let rec go : Nat → Nat → List Char → Option (Nat × List Char)
        | 0, _, _ => none
        | fuel + 1, p, acc =>
          match src[p]? with
          | none => none
          | some c =>
            if c == q then some (p + 1, acc.reverse)
            else if c == '\\' then
              match src[p + 1]? with
              | some d => go fuel (p + 2) (d :: c :: acc)
              | none => none
            else go fuel (p + 1) (c :: acc)
      go (src.size - pos + 1) (pos + 1) []
  | none => none

/-- The value of a hexadecimal escape of exactly `n` digits. -/
def hexValue (cs : List Char) (n : Nat) : Option Nat :=
  let ds := cs.take n
  if ds.length == n && ds.all isHexDigit then
    some (ds.foldl (fun v c => v * 16 + (if c.isDigit then c.toNat - 48 else c.toLower.toNat - 87)) 0)
  else none

/-- Decodes the escapes of a quoted text the way unicode escapes decode: characters outside
ASCII are first written as escapes themselves, so a backslash before one stays a backslash. -/
def unescape (body : List Char) : Except String String :=
  let ascii := body.flatMap fun c =>
    let n := c.toNat
    if n < 128 then [c]
    else if n < 256 then ("\\x" ++ hexText 2 n).toList
    else if n < 65536 then ("\\u" ++ hexText 4 n).toList
    else ("\\U" ++ hexText 8 n).toList
  let rec go : Nat → List Char → List Char → Except String (List Char)
    | 0, _, acc => .ok acc.reverse
    | _, [], acc => .ok acc.reverse
    | fuel + 1, '\\' :: rest, acc =>
      match rest with
      | [] => .error "\\ at end of string"
      | '\n' :: r => go fuel r acc
      | '\\' :: r => go fuel r ('\\' :: acc)
      | '\'' :: r => go fuel r ('\'' :: acc)
      | '"' :: r => go fuel r ('"' :: acc)
      | 'a' :: r => go fuel r ('\x07' :: acc)
      | 'b' :: r => go fuel r ('\x08' :: acc)
      | 'f' :: r => go fuel r ('\x0c' :: acc)
      | 'n' :: r => go fuel r ('\n' :: acc)
      | 'r' :: r => go fuel r ('\r' :: acc)
      | 't' :: r => go fuel r ('\t' :: acc)
      | 'v' :: r => go fuel r ('\x0b' :: acc)
      | 'x' :: r => match hexValue r 2 with
        | some v => go fuel (r.drop 2) (Char.ofNat v :: acc)
        | none => .error "truncated \\xXX escape"
      | 'u' :: r => match hexValue r 4 with
        | some v => go fuel (r.drop 4) (Char.ofNat v :: acc)
        | none => .error "truncated \\uXXXX escape"
      | 'U' :: r => match hexValue r 8 with
        | some v =>
          if v > 0x10ffff then .error "illegal Unicode character"
          else go fuel (r.drop 8) (Char.ofNat v :: acc)
        | none => .error "truncated \\UXXXXXXXX escape"
      | 'N' :: '\x7b' :: more =>
        let (name, after) := more.span (· != '\x7d')
        match after with
        | _ :: rest =>
          if name.isEmpty then .error "malformed \\N character escape"
          else match Text.codeOfName? (String.ofList name) with
            | some c => go fuel rest (Char.ofNat c :: acc)
            | none => .error "unknown Unicode character name"
        | [] => .error "malformed \\N character escape"
      | 'N' :: _ => .error "malformed \\N character escape"
      | c :: r =>
        if '0' ≤ c && c ≤ '7' then
          let ds := (c :: r).take 3 |>.takeWhile (fun d => '0' ≤ d && d ≤ '7')
          let v := ds.foldl (fun n d => n * 8 + (d.toNat - 48)) 0
          go fuel ((c :: r).drop ds.length) (Char.ofNat v :: acc)
        else go fuel r (c :: '\\' :: acc)
    | fuel + 1, c :: rest, acc => go fuel rest (c :: acc)
  (go (ascii.length + 1) ascii []).map String.ofList

/-- The state of the tokenizer: data, inside a print, inside a statement. -/
inductive Mode where
  | data
  | variable
  | block
deriving BEq

def closerOf : String → Option String
  | "(" => some ")"
  | "[" => some "]"
  | "\x7b" => some "\x7d"
  | _ => none

/-- Tokenizes the text after the newline normalisation. Comments and raw blocks are resolved
here; white space inside tags is dropped. -/
def tokenizeSource (src : Array Char) : List Token :=
  let unexpected (p : Nat) : Token :=
    .failure ("unexpected char " ++ quoteText (String.singleton (src[p]?.getD ' ')) ++ " at " ++ toString p)
  let rec go : Nat → Mode → Nat → List String → List Token → List Token
    | 0, _, _, _, acc => (Token.eof :: acc).reverse
    | fuel + 1, mode, pos, stack, acc =>
      match mode with
      | .data =>
        if pos ≥ src.size then (Token.eof :: acc).reverse
        else match nextOpening src pos with
          | none => (Token.eof :: .data (slice src pos src.size) :: acc).reverse
          | some (p, kind, after, sign) =>
            let text := slice src pos p
            let text := if sign == some '-' then Text.stripRight text else text
            let acc := if text.isEmpty then acc else .data text :: acc
            match kind with
            | .variable => go fuel .variable after [] (.variableBegin :: acc)
            | .block => go fuel .block after [] (.blockBegin :: acc)
            | .comment =>
              -- the comment ends at the first closing mark
              let rec close : Nat → Nat → Option Nat
                | 0, _ => none
                | f + 1, q =>
                  if q ≥ src.size then none
                  else match closingAt src q "#\x7d" true with
                    | some e => some e
                    | none => close f (q + 1)
              match close (src.size + 1) after with
              | some e => go fuel .data e [] acc
              | none =>
                if after < src.size then (Token.failure "Missing end of comment tag" :: acc).reverse
                else (Token.eof :: acc).reverse
            | .raw =>
              let rec closeRaw : Nat → Nat → Option (Nat × Nat × Option Char)
                | 0, _ => none
                | f + 1, q =>
                  if q ≥ src.size then none
                  else match rawTagAt src q "endraw" true with
                    | some (e, sg) => some (q, e, sg)
                    | none => closeRaw f (q + 1)
              match closeRaw (src.size + 1) after with
              | some (q, e, sg) =>
                let body := slice src after q
                let body := if sg == some '-' then Text.stripRight body else body
                go fuel .data e [] (if body.isEmpty then acc else .data body :: acc)
              | none =>
                if after < src.size then (Token.failure "Missing end of raw directive" :: acc).reverse
                else (Token.eof :: acc).reverse
      | _ =>
        let ending := if mode == .variable then closingAt src pos "\x7d\x7d" false
          else closingAt src pos "%\x7d" true
        match (if stack.isEmpty then ending else none) with
        | some e => go fuel .data e [] ((if mode == .variable then Token.variableEnd else .blockEnd) :: acc)
        | none =>
          if pos ≥ src.size then (Token.eof :: acc).reverse
          else if (src[pos]?.map Text.isSpace).getD false then go fuel mode (skipBlank src pos) stack acc
          else match floatAt src pos with
          | some e => go fuel mode e stack (.float (floatValue (src.extract pos e).toList) :: acc)
          | none => match integerAt src pos with
          | some (e, v) => go fuel mode e stack (.integer v :: acc)
          | none =>
            let word := ((src.extract pos src.size).toList.takeWhile isWordChar)
            if !word.isEmpty then
              if isIdentifier word then
                go fuel mode (pos + word.length) stack (.name (String.ofList word) :: acc)
              else (Token.failure "Invalid character in identifier" :: acc).reverse
            else match stringAt src pos with
            | some (e, body) =>
              match unescape body with
              | .ok s => go fuel mode e stack (.string s :: acc)
              | .error m => (Token.failure m :: acc).reverse
            | none =>
              match operators.find? (startsAt src pos) with
              | none => (unexpected pos :: acc).reverse
              | some op =>
                let acc := .operator op :: acc
                match closerOf op with
                | some c => go fuel mode (pos + op.length) (c :: stack) acc
                | none =>
                  if op == ")" || op == "]" || op == "\x7d" then
                    match stack with
                    | [] => (Token.failure ("unexpected '" ++ op ++ "'") :: acc.drop 1).reverse
                    | top :: rest =>
                      if top == op then go fuel mode (pos + op.length) rest acc
                      else (Token.failure ("unexpected '" ++ op ++ "', expected '" ++ top ++ "'") :: acc.drop 1).reverse
                  else go fuel mode (pos + op.length) stack acc
  go (2 * src.size + 2) .data 0 [] []

/-- The lines of a text, split at `\r\n`, `\r` and `\n`. -/
def splitLines (s : String) : List String :=
  let rec go : List Char → List Char → List String → List String
    | [], cur, acc => (String.ofList cur.reverse :: acc).reverse
    | '\r' :: '\n' :: rest, cur, acc => go rest [] (String.ofList cur.reverse :: acc)
    | '\r' :: rest, cur, acc => go rest [] (String.ofList cur.reverse :: acc)
    | '\n' :: rest, cur, acc => go rest [] (String.ofList cur.reverse :: acc)
    | c :: rest, cur, acc => go rest (c :: cur) acc
  go s.toList [] []

/-- The template text as the tokenizer reads it: line ends as `\n`, without one final newline. -/
def normalizeSource (s : String) : String :=
  let lines := splitLines s
  let lines := if lines.getLast? == some "" then lines.dropLast else lines
  "\n".intercalate lines

/-- The tokens of a template, ending in `eof` or in the failure that stopped reading. -/
def tokenize (s : String) : List Token :=
  tokenizeSource (normalizeSource s).toList.toArray

end Dashwright.Template
