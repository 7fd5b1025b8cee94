import Dashwright.Yaml.Token

/-!
Scanning a YAML text into tokens, on demand.

Block structure comes from indentation: a line indented deeper than the current block opens
a block sequence or mapping, and a line indented less closes blocks with block-end tokens.
A key written without `?` (a simple key) is only known to be a key when the `:` after it is
found, on the same line and within 1024 characters; the scanner keeps one candidate per
level of flow nesting, by the number of the token it would precede, and inserts the key
token there when the `:` comes. Tokens are handed out only when no candidate could still
precede them, so a problem further on is found exactly when a reader asks for a token that
depends on it.

Plain scalars end before `: `, ` #` and line breaks that lead to a less indented line;
quoted scalars fold line breaks into spaces and process escapes; block scalars keep or fold
their lines and chomp their final breaks as their header says.
-/

namespace Dashwright.Yaml

/-- A place where a simple key may begin, if a `:` follows. -/
structure SimpleKey where
  tokenNumber : Nat
  required : Bool
  mark : Mark
deriving Inhabited

/-- The state of scanning a text. -/
structure Scanner where
  src : Array Char
  index : Nat
  line : Nat
  column : Nat
  done : Bool
  flowLevel : Int
  tokens : List Token
  taken : Nat
  indent : Int
  indents : List Int
  allowSimpleKey : Bool
  keys : List (Int × SimpleKey)
deriving Inhabited

abbrev ScanM := StateT Scanner (Except Problem)

def isBreak (c : Char) : Bool :=
  c == '\r' || c == '\n' || c == '\x85' || c == '\u2028' || c == '\u2029'

/-- Blanks, line breaks and the end of the text. -/
def isBlankOrEnd (c : Char) : Bool := c == ' ' || c == '\t' || isBreakOrEnd c

/-- Spaces (not tabs), line breaks and the end of the text. -/
def isSpaceOrEnd (c : Char) : Bool := c == ' ' || isBreakOrEnd c

def isWordChar (c : Char) : Bool :=
  ('0' ≤ c && c ≤ '9') || ('A' ≤ c && c ≤ 'Z') || ('a' ≤ c && c ≤ 'z') || c == '-' || c == '_'

def isHexChar (c : Char) : Bool :=
  ('0' ≤ c && c ≤ '9') || ('A' ≤ c && c ≤ 'F') || ('a' ≤ c && c ≤ 'f')

/-- How many characters from a position on satisfy a test. -/
def runLength (src : Array Char) (p : Char → Bool) (i : Nat) : Nat :=
  if h : i < src.size then
    if p src[i] then runLength src p (i + 1) + 1 else 0
  else 0
termination_by src.size - i

/-- The first offset below a bound at which a test holds, or the bound. -/
def firstOffset (p : Nat → Bool) (bound : Nat) : Nat :=
  let rec go (k : Nat) : Nat → Nat
    | 0 => k
    | fuel + 1 => if p k then k else go (k + 1) fuel
  go 0 bound

namespace Scanner

def start (src : Array Char) : Scanner :=
  let m : Mark := ⟨0, 0, 0⟩
  { src, index := 0, line := 0, column := 0, done := false, flowLevel := 0,
    tokens := [⟨.streamStart, m, m⟩], taken := 0, indent := -1, indents := [],
    allowSimpleKey := true, keys := [] }

def inFlow (s : Scanner) : Bool := s.flowLevel != 0

def mark (s : Scanner) : Mark := ⟨s.index, s.line, s.column⟩

/-- The character some places ahead; the end of the text reads as NUL. -/
def charAt (s : Scanner) (k : Nat) : Char := s.src.getD (s.index + k) '\x00'

def ahead (s : Scanner) (n : Nat) : String :=
  String.ofList ((List.range n).map s.charAt)

/-- Moves one character on, keeping lines and columns. -/
def step (s : Scanner) : Scanner :=
  if s.index < s.src.size then
    let c := s.src.getD s.index '\x00'
    let next := s.src.getD (s.index + 1) '\x00'
    if c == '\n' || c == '\x85' || c == '\u2028' || c == '\u2029' || (c == '\r' && next != '\n') then
      { s with index := s.index + 1, line := s.line + 1, column := 0 }
    else if c == '\uFEFF' then { s with index := s.index + 1 }
    else { s with index := s.index + 1, column := s.column + 1 }
  else s

def stepBy (s : Scanner) : Nat → Scanner
  | 0 => s
  | n + 1 => (s.step).stepBy n

end Scanner

def peekAt (k : Nat) : ScanM Char := do pure ((← get).charAt k)

def peekChar : ScanM Char := peekAt 0

def forward (n : Nat := 1) : ScanM Unit := modify (·.stepBy n)

def currentMark : ScanM Mark := do pure (← get).mark

def aheadText (n : Nat) : ScanM String := do pure ((← get).ahead n)

/-- The length of the run of characters from here that satisfy a test. -/
def runAhead (p : Char → Bool) : ScanM Nat := do
  let s ← get
  pure (runLength s.src p s.index)

def skipWhile (p : Char → Bool) : ScanM Unit := do forward (← runAhead p)

def scanProblem {α : Type} (context : Option String) (contextMark : Option Mark) (problem : String)
    (m : Mark) : ScanM α :=
  throw (.marked .scanner context contextMark problem m)

def charText (c : Char) : String := quoteText (String.singleton c)

/-- Reads a line break: CR LF, CR, LF and NEL read as LF, the separators as themselves. -/
def scanLineBreak : ScanM String := do
  let c ← peekChar
  if c == '\r' || c == '\n' || c == '\x85' then
    if (← aheadText 2) == "\r\n" then forward 2 else forward 1
    pure "\n"
  else if c == '\u2028' || c == '\u2029' then
    forward 1
    pure (String.singleton c)
  else pure ""

def pushToken (t : Token) : ScanM Unit := modify fun s => { s with tokens := s.tokens ++ [t] }

def insertToken (i : Nat) (t : Token) : ScanM Unit :=
  modify fun s => { s with tokens := s.tokens.take i ++ [t] ++ s.tokens.drop i }

def Scanner.nextKeyNumber (s : Scanner) : Option Nat :=
  s.keys.foldl (fun acc (_, k) => match acc with
    | some n => some (min n k.tokenNumber)
    | none => some k.tokenNumber) none

/-- Drops candidates that can no longer be keys: on an earlier line or too far back. A
required candidate that is dropped is a missing `:`. -/
def staleKeys : ScanM Unit := do
  let s ← get
  let mut kept : List (Int × SimpleKey) := []
  for (level, key) in s.keys do
    if key.mark.line != s.line || s.index - key.mark.index > 1024 then
      if key.required then
        scanProblem (some "while scanning a simple key") (some key.mark) "could not find expected ':'" s.mark
    else kept := kept ++ [(level, key)]
  set { s with keys := kept }

/-- Drops the candidate at the current flow level; a required one is a missing `:`. -/
def removeSimpleKey : ScanM Unit := do
  let s ← get
  match s.keys.find? (·.1 == s.flowLevel) with
  | some (_, key) =>
    if key.required then
      scanProblem (some "while scanning a simple key") (some key.mark) "could not find expected ':'" s.mark
    set { s with keys := s.keys.filter (·.1 != s.flowLevel) }
  | none => pure ()

/-- Records that the next token may be a simple key. -/
def saveSimpleKey : ScanM Unit := do
  let s ← get
  let required := !s.inFlow && s.indent == (s.column : Int)
  if s.allowSimpleKey then
    removeSimpleKey
    let s ← get
    let key : SimpleKey := ⟨s.taken + s.tokens.length, required, s.mark⟩
    let others := s.keys.filter (fun (e : Int × SimpleKey) => e.1 != s.flowLevel)
    set { s with keys := others ++ [(s.flowLevel, key)] }

def unwindIndent (column : Int) : ScanM Unit := do
  let s ← get
  if s.inFlow then return
  let mut st := s
  for _ in [0:s.indents.length + 1] do
    if st.indent > column then
      let m := st.mark
      match st.indents with
      | i :: rest => st := { st with indent := i, indents := rest, tokens := st.tokens ++ [⟨.blockEnd, m, m⟩] }
      | [] => break
    else break
  set st

/-- Opens a block at a column if it is deeper than the current one. -/
def addIndent (column : Int) : ScanM Bool := do
  let s ← get
  if s.indent < column then
    set { s with indents := s.indent :: s.indents, indent := column }
    pure true
  else pure false

def setAllow (b : Bool) : ScanM Unit := modify fun s => { s with allowSimpleKey := b }

/-- Skips blanks, comments and line breaks up to the next token. A line break in block
context allows a simple key again. -/
def scanToNextToken : ScanM Unit := do
  let s ← get
  if s.index == 0 && s.charAt 0 == '\uFEFF' then forward 1
  for _ in [0:s.src.size + 1] do
    skipWhile (· == ' ')
    if (← peekChar) == '#' then skipWhile (fun c => !isBreakOrEnd c)
    if (← scanLineBreak) != "" then
      if !(← get).inFlow then setAllow true
    else break

/-! ### Directives -/

def directiveProblem {α : Type} (start : Mark) (problem : String) : ScanM α := do
  scanProblem (some "while scanning a directive") (some start) problem (← currentMark)

def scanDirectiveName (start : Mark) : ScanM String := do
  let n ← runAhead isWordChar
  if n == 0 then
    directiveProblem start ("expected alphabetic or numeric character, but found " ++ charText (← peekChar))
  let name ← aheadText n
  forward n
  let c ← peekChar
  if !isSpaceOrEnd c then
    directiveProblem start ("expected alphabetic or numeric character, but found " ++ charText c)
  pure name

def scanVersionNumber (start : Mark) : ScanM Nat := do
  let c ← peekChar
  if !c.isDigit then directiveProblem start ("expected a digit, but found " ++ charText c)
  let n ← runAhead Char.isDigit
  let text ← aheadText n
  forward n
  pure (text.foldl (fun acc d => acc * 10 + (d.toNat - 48)) 0)

def scanVersionValue (start : Mark) : ScanM Directive := do
  skipWhile (· == ' ')
  let major ← scanVersionNumber start
  if (← peekChar) != '.' then
    directiveProblem start ("expected a digit or '.', but found " ++ charText (← peekChar))
  forward
  let minor ← scanVersionNumber start
  if !isSpaceOrEnd (← peekChar) then
    directiveProblem start ("expected a digit or ' ', but found " ++ charText (← peekChar))
  pure (.version major minor)

/-- Reads `!`, `!!` or `!name!`. -/
def scanTagHandle (what : String) (start : Mark) : ScanM String := do
  let c ← peekChar
  if c != '!' then
    scanProblem (some ("while scanning a " ++ what)) (some start) ("expected '!', but found " ++ charText c) (← currentMark)
  let mut n := 1
  let c1 ← peekAt 1
  if c1 != ' ' then
    let s ← get
    n := 1 + runLength s.src isWordChar (s.index + 1)
    let c2 ← peekAt n
    if c2 != '!' then
      forward n
      scanProblem (some ("while scanning a " ++ what)) (some start) ("expected '!', but found " ++ charText c2) (← currentMark)
    n := n + 1
  let text ← aheadText n
  forward n
  pure text

def isUriChar (c : Char) : Bool :=
  isWordChar c || ";/?:@&=+$,.!~*'()[]%".toList.contains c

/-- The text of bytes read as UTF-8, or the reason they are not UTF-8. -/
def decodeUtf8 (bytes : List Nat) : Except String String :=
  let rec go : List Nat → Nat → List Char → Nat → Except String String
    | [], _, acc, _ => .ok (String.ofList acc.reverse)
    | b :: rest, pos, acc, fuel =>
      match fuel with
      | 0 => .ok (String.ofList acc.reverse)
      | fuel + 1 =>
        let bad (why : String) : Except String String :=
          .error ("'utf-8' codec can't decode byte 0x" ++ hexText 2 b ++ " in position " ++ toString pos ++ ": " ++ why)
        if b < 0x80 then go rest (pos + 1) (Char.ofNat b :: acc) fuel
        else
          let (need, init) :=
            if 0xC2 ≤ b && b ≤ 0xDF then (1, b - 0xC0)
            else if 0xE0 ≤ b && b ≤ 0xEF then (2, b - 0xE0)
            else if 0xF0 ≤ b && b ≤ 0xF4 then (3, b - 0xF0)
            else (0, 0)
          if need == 0 then bad "invalid start byte"
          else
            let conts := rest.take need
            if conts.length < need && conts.all (fun x => 0x80 ≤ x && x ≤ 0xBF) then
              if conts.isEmpty then bad "unexpected end of data"
              else .error ("'utf-8' codec can't decode bytes in position " ++ toString pos ++ "-" ++
                toString (pos + conts.length) ++ ": unexpected end of data")
            else if conts.all (fun x => 0x80 ≤ x && x ≤ 0xBF) then
              let code := conts.foldl (fun acc x => acc * 64 + (x - 0x80)) init
              go (rest.drop need) (pos + need + 1) (Char.ofNat code :: acc) fuel
            else bad "invalid continuation byte"
  go bytes 0 [] (bytes.length + 1)

/-- Reads `%XX` escapes of a tag as UTF-8. -/
def scanUriEscapes (what : String) (start : Mark) : ScanM String := do
  let m ← currentMark
  let mut codes : List Nat := []
  for _ in [0:(← get).src.size + 1] do
    if (← peekChar) != '%' then break
    forward
    for k in [0:2] do
      let c ← peekAt k
      if !isHexChar c then
        scanProblem (some ("while scanning a " ++ what)) (some start)
          ("expected URI escape sequence of 2 hexadecimal numbers, but found " ++ charText c) (← currentMark)
    let text ← aheadText 2
    let v := text.foldl (fun acc c => acc * 16 +
      (if c.isDigit then c.toNat - 48 else if 'a' ≤ c then c.toNat - 87 else c.toNat - 55)) 0
    codes := codes ++ [v]
    forward 2
  match decodeUtf8 codes with
  | .ok s => pure s
  | .error why => scanProblem (some ("while scanning a " ++ what)) (some start) why m

def scanTagUri (what : String) (start : Mark) : ScanM String := do
  let mut chunks : List String := []
  let mut n := 0
  for _ in [0:(← get).src.size + 1] do
    let c ← peekAt n
    if !isUriChar c then break
    if c == '%' then
      chunks := chunks ++ [← aheadText n]
      forward n
      n := 0
      chunks := chunks ++ [← scanUriEscapes what start]
    else n := n + 1
  if n > 0 then
    chunks := chunks ++ [← aheadText n]
    forward n
  if chunks.isEmpty then
    scanProblem (some ("while parsing a " ++ what)) (some start)
      ("expected URI, but found " ++ charText (← peekAt n)) (← currentMark)
  pure (String.join chunks)

def scanTagDirectiveValue (start : Mark) : ScanM Directive := do
  skipWhile (· == ' ')
  let handle ← scanTagHandle "directive" start
  if (← peekChar) != ' ' then
    directiveProblem start ("expected ' ', but found " ++ charText (← peekChar))
  skipWhile (· == ' ')
  let pre ← scanTagUri "directive" start
  if !isSpaceOrEnd (← peekChar) then
    directiveProblem start ("expected ' ', but found " ++ charText (← peekChar))
  pure (.tagPrefix handle pre)

def scanDirective : ScanM Token := do
  let start ← currentMark
  forward
  let name ← scanDirectiveName start
  let (value, stop) ← if name == "YAML" then do
      let v ← scanVersionValue start
      pure (v, ← currentMark)
    else if name == "TAG" then do
      let v ← scanTagDirectiveValue start
      pure (v, ← currentMark)
    else do
      let m ← currentMark
      skipWhile (fun c => !isBreakOrEnd c)
      pure (Directive.other, m)
  skipWhile (· == ' ')
  if (← peekChar) == '#' then skipWhile (fun c => !isBreakOrEnd c)
  if !isBreakOrEnd (← peekChar) then
    directiveProblem start ("expected a comment or a line break, but found " ++ charText (← peekChar))
  let _ ← scanLineBreak
  pure ⟨.directive name value, start, stop⟩

/-! ### Anchors, aliases and tags -/

def scanAnchor (isAlias : Bool) : ScanM Token := do
  let start ← currentMark
  let what := if isAlias then "alias" else "anchor"
  forward
  let n ← runAhead isWordChar
  if n == 0 then
    scanProblem (some ("while scanning an " ++ what)) (some start)
      ("expected alphabetic or numeric character, but found " ++ charText (← peekChar)) (← currentMark)
  let name ← aheadText n
  forward n
  let c ← peekChar
  if !(isBlankOrEnd c || "?:,]\x7d%@`".toList.contains c) then
    scanProblem (some ("while scanning an " ++ what)) (some start)
      ("expected alphabetic or numeric character, but found " ++ charText c) (← currentMark)
  let stop ← currentMark
  pure ⟨if isAlias then .alias name else .anchor name, start, stop⟩

def scanTag : ScanM Token := do
  let start ← currentMark
  let c ← peekAt 1
  let (handle, suffix) ← if c == '<' then do
      forward 2
      let suffix ← scanTagUri "tag" start
      if (← peekChar) != '>' then
        scanProblem (some "while parsing a tag") (some start)
          ("expected '>', but found " ++ charText (← peekChar)) (← currentMark)
      forward
      pure (Option.none, suffix)
    else if isBlankOrEnd c then do
      forward
      pure (Option.none, "!")
    else do
      let s ← get
      let mut n := 1
      let mut useHandle := false
      for _ in [0:s.src.size + 1] do
        let d := s.charAt n
        if isSpaceOrEnd d then break
        if d == '!' then
          useHandle := true
          break
        n := n + 1
      let handle ← if useHandle then scanTagHandle "tag" start else do
        forward
        pure "!"
      let suffix ← scanTagUri "tag" start
      pure (some handle, suffix)
  let d ← peekChar
  if !isSpaceOrEnd d then
    scanProblem (some "while scanning a tag") (some start) ("expected ' ', but found " ++ charText d) (← currentMark)
  let stop ← currentMark
  pure ⟨.tag handle suffix, start, stop⟩

/-! ### Block scalars -/

def blockScalarProblem {α : Type} (start : Mark) (problem : String) : ScanM α := do
  scanProblem (some "while scanning a block scalar") (some start) problem (← currentMark)

/-- The header of a block scalar: chomping (`+` keep, `-` strip) and an explicit indentation. -/
def scanBlockIndicators (start : Mark) : ScanM (Option Bool × Option Nat) := do
  let mut chomping : Option Bool := none
  let mut increment : Option Nat := none
  let c ← peekChar
  if c == '+' || c == '-' then
    chomping := some (c == '+')
    forward
    let d ← peekChar
    if d.isDigit then
      if d == '0' then
        blockScalarProblem start "expected indentation indicator in the range 1-9, but found 0"
      increment := some (d.toNat - 48)
      forward
  else if c.isDigit then
    if c == '0' then
      blockScalarProblem start "expected indentation indicator in the range 1-9, but found 0"
    increment := some (c.toNat - 48)
    forward
    let d ← peekChar
    if d == '+' || d == '-' then
      chomping := some (d == '+')
      forward
  let e ← peekChar
  if !isSpaceOrEnd e then
    blockScalarProblem start ("expected chomping or indentation indicators, but found " ++ charText e)
  pure (chomping, increment)

/-- Line breaks and indentation before the first line of a block scalar, with the deepest
indentation seen. -/
def scanBlockIndentation : ScanM (List String × Nat × Mark) := do
  let mut chunks : List String := []
  let mut maxIndent := 0
  let mut stop ← currentMark
  for _ in [0:(← get).src.size + 1] do
    let c ← peekChar
    if !(c == ' ' || isBreak c) then break
    if c != ' ' then
      chunks := chunks ++ [← scanLineBreak]
      stop ← currentMark
    else
      forward
      let col := (← get).column
      if col > maxIndent then maxIndent := col
  pure (chunks, maxIndent, stop)

/-- Line breaks of a block scalar, skipping indentation up to a column. -/
def scanBlockBreaks (indent : Nat) : ScanM (List String × Mark) := do
  let mut chunks : List String := []
  let mut stop ← currentMark
  let bound := (← get).src.size + 1
  for _ in [0:bound] do
    if (← get).column < indent && (← peekChar) == ' ' then forward else break
  for _ in [0:bound] do
    if !isBreak (← peekChar) then break
    chunks := chunks ++ [← scanLineBreak]
    stop ← currentMark
    for _ in [0:bound] do
      if (← get).column < indent && (← peekChar) == ' ' then forward else break
  pure (chunks, stop)

def scanBlockScalar (folded : Bool) : ScanM Token := do
  let start ← currentMark
  forward
  let (chomping, increment) ← scanBlockIndicators start
  skipWhile (· == ' ')
  if (← peekChar) == '#' then skipWhile (fun c => !isBreakOrEnd c)
  let c ← peekChar
  if !isBreakOrEnd c then
    blockScalarProblem start ("expected a comment or a line break, but found " ++ charText c)
  let _ ← scanLineBreak
  let s ← get
  let minIndent : Nat := if s.indent + 1 < 1 then 1 else (s.indent + 1).toNat
  let (firstBreaks, indent, firstStop) ← match increment with
    | none => do
      let (bs, maxIndent, m) ← scanBlockIndentation
      pure (bs, max minIndent maxIndent, m)
    | some inc => do
      let ind := minIndent + inc - 1
      let (bs, m) ← scanBlockBreaks ind
      pure (bs, ind, m)
  let mut breaks := firstBreaks
  let mut stop := firstStop
  let mut chunks : List String := []
  let mut lineBreak := ""
  for _ in [0:(← get).src.size + 1] do
    let st ← get
    if !(st.column == indent && st.charAt 0 != '\x00') then break
    chunks := chunks ++ breaks
    let leadingNonSpace := !(st.charAt 0 == ' ' || st.charAt 0 == '\t')
    let n ← runAhead (fun c => !isBreakOrEnd c)
    chunks := chunks ++ [← aheadText n]
    forward n
    lineBreak ← scanLineBreak
    let (bs, m) ← scanBlockBreaks indent
    breaks := bs
    stop := m
    let st ← get
    if st.column == indent && st.charAt 0 != '\x00' then
      if folded && lineBreak == "\n" && leadingNonSpace && !(st.charAt 0 == ' ' || st.charAt 0 == '\t') then
        if breaks.isEmpty then chunks := chunks ++ [" "]
      else chunks := chunks ++ [lineBreak]
    else break
  if chomping != some false then chunks := chunks ++ [lineBreak]
  if chomping == some true then chunks := chunks ++ breaks
  pure ⟨.scalar (String.join chunks) false (if folded then .folded else .literal), start, stop⟩

/-! ### Quoted scalars -/

/-- The character a one-letter escape of a double-quoted scalar stands for. -/
def escapeReplacement (c : Char) : Option Char :=
  match c with
  | '0' => some '\x00'
  | 'a' => some '\x07'
  | 'b' => some '\x08'
  | 't' => some '\t'
  | '\t' => some '\t'
  | 'n' => some '\n'
  | 'v' => some '\x0b'
  | 'f' => some '\x0c'
  | 'r' => some '\r'
  | 'e' => some '\x1b'
  | ' ' => some ' '
  | '"' => some '"'
  | '\\' => some '\\'
  | '/' => some '/'
  | 'N' => some '\x85'
  | '_' => some '\xa0'
  | 'L' => some '\u2028'
  | 'P' => some '\u2029'
  | _ => none

def escapeLength (c : Char) : Option Nat :=
  match c with
  | 'x' => some 2
  | 'u' => some 4
  | 'U' => some 8
  | _ => none

def quotedProblem {α : Type} (double : Bool) (start : Mark) (problem : String) : ScanM α := do
  let what := if double then "while scanning a double-quoted scalar" else "while scanning a quoted scalar"
  scanProblem (some what) (some start) problem (← currentMark)

/-- Line breaks inside a quoted scalar; a document separator there is a problem. -/
def scanQuotedBreaks (start : Mark) : ScanM (List String) := do
  let mut chunks : List String := []
  let bound := (← get).src.size + 1
  for _ in [0:bound] do
    let pre ← aheadText 3
    if (pre == "---" || pre == "...") && isBlankOrEnd (← peekAt 3) then
      scanProblem (some "while scanning a quoted scalar") (some start) "found unexpected document separator" (← currentMark)
    skipWhile (fun c => c == ' ' || c == '\t')
    if isBreak (← peekChar) then chunks := chunks ++ [← scanLineBreak]
    else break
  pure chunks

/-- The characters of a quoted scalar up to a blank or line break. -/
def scanQuotedNonSpaces (double : Bool) (start : Mark) : ScanM (List String) := do
  let mut chunks : List String := []
  for _ in [0:(← get).src.size + 1] do
    let n ← runAhead (fun c => !("'\"\\".toList.contains c || isBlankOrEnd c))
    if n > 0 then
      chunks := chunks ++ [← aheadText n]
      forward n
    let c ← peekChar
    if !double && c == '\'' && (← peekAt 1) == '\'' then
      chunks := chunks ++ ["'"]
      forward 2
    else if (double && c == '\'') || (!double && (c == '"' || c == '\\')) then
      chunks := chunks ++ [String.singleton c]
      forward
    else if double && c == '\\' then
      forward
      let e ← peekChar
      match escapeReplacement e, escapeLength e with
      | some r, _ =>
        chunks := chunks ++ [String.singleton r]
        forward
      | none, some len =>
        forward
        for k in [0:len] do
          let d ← peekAt k
          if !isHexChar d then
            quotedProblem true start ("expected escape sequence of " ++ toString len ++
              " hexadecimal numbers, but found " ++ charText d)
        let text ← aheadText len
        let code := text.foldl (fun acc c => acc * 16 +
          (if c.isDigit then c.toNat - 48 else if 'a' ≤ c then c.toNat - 87 else c.toNat - 55)) 0
        if code > 0x10FFFF then
          throw (.other (Failure.badValue "chr() arg not in range(0x110000)"))
        chunks := chunks ++ [String.singleton (Char.ofNat code)]
        forward len
      | none, none =>
        if isBreak e then
          let _ ← scanLineBreak
          chunks := chunks ++ (← scanQuotedBreaks start)
        else quotedProblem true start ("found unknown escape character " ++ charText e)
    else break
  pure chunks

/-- Blanks and line breaks inside a quoted scalar: a single line break folds to a space. -/
def scanQuotedSpaces (start : Mark) : ScanM (List String) := do
  let n ← runAhead (fun c => c == ' ' || c == '\t')
  let blanks ← aheadText n
  forward n
  let c ← peekChar
  if c == '\x00' then
    scanProblem (some "while scanning a quoted scalar") (some start) "found unexpected end of stream" (← currentMark)
  else if isBreak c then
    let lineBreak ← scanLineBreak
    let breaks ← scanQuotedBreaks start
    let first := if lineBreak != "\n" then [lineBreak] else if breaks.isEmpty then [" "] else []
    pure (first ++ breaks)
  else pure [blanks]

def scanQuotedScalar (double : Bool) : ScanM Token := do
  let start ← currentMark
  let quote ← peekChar
  forward
  let mut chunks ← scanQuotedNonSpaces double start
  for _ in [0:(← get).src.size + 1] do
    if (← peekChar) == quote then break
    chunks := chunks ++ (← scanQuotedSpaces start)
    chunks := chunks ++ (← scanQuotedNonSpaces double start)
  forward
  let stop ← currentMark
  pure ⟨.scalar (String.join chunks) false (if double then .doubleQuoted else .singleQuoted), start, stop⟩

/-! ### Plain scalars -/

/-- Blanks and line breaks inside a plain scalar; `none` at a document separator. A line
break allows a simple key again. -/
def scanPlainSpaces : ScanM (Option (List String)) := do
  let n ← runAhead (· == ' ')
  let blanks ← aheadText n
  forward n
  let c ← peekChar
  if isBreak c then
    let lineBreak ← scanLineBreak
    setAllow true
    let pre ← aheadText 3
    if (pre == "---" || pre == "...") && isBlankOrEnd (← peekAt 3) then return none
    let mut breaks : List String := []
    for _ in [0:(← get).src.size + 1] do
      let d ← peekChar
      if d == ' ' then forward
      else if isBreak d then
        breaks := breaks ++ [← scanLineBreak]
        let pre ← aheadText 3
        if (pre == "---" || pre == "...") && isBlankOrEnd (← peekAt 3) then return none
      else break
    let first := if lineBreak != "\n" then [lineBreak] else if breaks.isEmpty then [" "] else []
    pure (some (first ++ breaks))
  else if blanks != "" then pure (some [blanks])
  else pure (some [])

def scanPlain : ScanM Token := do
  let start ← currentMark
  let mut stop := start
  let indent := (← get).indent + 1
  let mut chunks : List String := []
  let mut spaces : List String := []
  for _ in [0:(← get).src.size + 1] do
    if (← peekChar) == '#' then break
    let s ← get
    let inFlow := s.inFlow
    let ends (k : Nat) : Bool :=
      let c := s.charAt k
      isBlankOrEnd c ||
        (c == ':' && (isBlankOrEnd (s.charAt (k + 1)) || (inFlow && ",[]\x7b\x7d".toList.contains (s.charAt (k + 1))))) ||
        (inFlow && ",?[]\x7b\x7d".toList.contains c)
    let n := firstOffset ends (s.src.size - s.index + 1)
    if n == 0 then break
    setAllow false
    chunks := chunks ++ spaces ++ [← aheadText n]
    forward n
    stop ← currentMark
    match ← scanPlainSpaces with
    | none => break
    | some sp =>
      spaces := sp
      let st ← get
      if sp.isEmpty || st.charAt 0 == '#' || (!st.inFlow && (st.column : Int) < indent) then break
  pure ⟨.scalar (String.join chunks) true .plain, start, stop⟩

/-! ### Fetching tokens -/

def fetchStreamEnd : ScanM Unit := do
  unwindIndent (-1)
  removeSimpleKey
  modify fun s => { s with allowSimpleKey := false, keys := [] }
  let m ← currentMark
  pushToken ⟨.streamEnd, m, m⟩
  modify fun s => { s with done := true }

def fetchDirective : ScanM Unit := do
  unwindIndent (-1)
  removeSimpleKey
  setAllow false
  pushToken (← scanDirective)

def fetchDocumentIndicator (kind : TokenKind) : ScanM Unit := do
  unwindIndent (-1)
  removeSimpleKey
  setAllow false
  let start ← currentMark
  forward 3
  pushToken ⟨kind, start, ← currentMark⟩

def fetchFlowCollectionStart (kind : TokenKind) : ScanM Unit := do
  saveSimpleKey
  modify fun s => { s with flowLevel := s.flowLevel + 1, allowSimpleKey := true }
  let start ← currentMark
  forward
  pushToken ⟨kind, start, ← currentMark⟩

def fetchFlowCollectionEnd (kind : TokenKind) : ScanM Unit := do
  removeSimpleKey
  modify fun s => { s with flowLevel := s.flowLevel - 1, allowSimpleKey := false }
  let start ← currentMark
  forward
  pushToken ⟨kind, start, ← currentMark⟩

def fetchFlowEntry : ScanM Unit := do
  setAllow true
  removeSimpleKey
  let start ← currentMark
  forward
  pushToken ⟨.flowEntry, start, ← currentMark⟩

def fetchBlockEntry : ScanM Unit := do
  let s ← get
  if !s.inFlow then
    if !s.allowSimpleKey then
      scanProblem none none "sequence entries are not allowed here" s.mark
    if ← addIndent s.column then
      let m ← currentMark
      pushToken ⟨.blockSequenceStart, m, m⟩
  setAllow true
  removeSimpleKey
  let start ← currentMark
  forward
  pushToken ⟨.blockEntry, start, ← currentMark⟩

def fetchKey : ScanM Unit := do
  let s ← get
  if !s.inFlow then
    if !s.allowSimpleKey then
      scanProblem none none "mapping keys are not allowed here" s.mark
    if ← addIndent s.column then
      let m ← currentMark
      pushToken ⟨.blockMappingStart, m, m⟩
  setAllow (!(← get).inFlow)
  removeSimpleKey
  let start ← currentMark
  forward
  pushToken ⟨.key, start, ← currentMark⟩

def fetchValue : ScanM Unit := do
  let s ← get
  match s.keys.find? (·.1 == s.flowLevel) with
  | some (_, key) =>
    set { s with keys := s.keys.filter (·.1 != s.flowLevel) }
    insertToken (key.tokenNumber - s.taken) ⟨.key, key.mark, key.mark⟩
    if !s.inFlow then
      if ← addIndent key.mark.column then
        insertToken (key.tokenNumber - s.taken) ⟨.blockMappingStart, key.mark, key.mark⟩
    setAllow false
  | none =>
    if !s.inFlow then
      if !s.allowSimpleKey then
        scanProblem none none "mapping values are not allowed here" s.mark
      if ← addIndent s.column then
        let m ← currentMark
        pushToken ⟨.blockMappingStart, m, m⟩
    setAllow (!(← get).inFlow)
    removeSimpleKey
  let start ← currentMark
  forward
  pushToken ⟨.value, start, ← currentMark⟩

def Scanner.plainStarts (s : Scanner) : Bool :=
  let c := s.charAt 0
  !(isBlankOrEnd c || "-?:,[]\x7b\x7d#&*!|>'\"%@`".toList.contains c) ||
    (!isBlankOrEnd (s.charAt 1) && (c == '-' || (!s.inFlow && (c == '?' || c == ':'))))

def fetchMoreTokens : ScanM Unit := do
  scanToNextToken
  staleKeys
  unwindIndent (← get).column
  let s ← get
  let c := s.charAt 0
  let atLineStart := s.column == 0
  let separator (t : String) : Bool := atLineStart && s.ahead 3 == t && isBlankOrEnd (s.charAt 3)
  if c == '\x00' then fetchStreamEnd
  else if c == '%' && atLineStart then fetchDirective
  else if c == '-' && separator "---" then fetchDocumentIndicator .documentStart
  else if c == '.' && separator "..." then fetchDocumentIndicator .documentEnd
  else if c == '[' then fetchFlowCollectionStart .flowSequenceStart
  else if c == '{' then fetchFlowCollectionStart .flowMappingStart
  else if c == ']' then fetchFlowCollectionEnd .flowSequenceEnd
  else if c == '}' then fetchFlowCollectionEnd .flowMappingEnd
  else if c == ',' then fetchFlowEntry
  else if c == '-' && isBlankOrEnd (s.charAt 1) then fetchBlockEntry
  else if c == '?' && (s.inFlow || isBlankOrEnd (s.charAt 1)) then fetchKey
  else if c == ':' && (s.inFlow || isBlankOrEnd (s.charAt 1)) then fetchValue
  else if c == '*' || c == '&' then
    saveSimpleKey
    setAllow false
    pushToken (← scanAnchor (c == '*'))
  else if c == '!' then
    saveSimpleKey
    setAllow false
    pushToken (← scanTag)
  else if (c == '|' || c == '>') && !s.inFlow then
    setAllow true
    removeSimpleKey
    pushToken (← scanBlockScalar (c == '>'))
  else if c == '\'' || c == '"' then
    saveSimpleKey
    setAllow false
    pushToken (← scanQuotedScalar (c == '"'))
  else if s.plainStarts then
    saveSimpleKey
    setAllow false
    pushToken (← scanPlain)
  else
    scanProblem (some "while scanning for the next token") none
      ("found character " ++ charText c ++ " that cannot start any token") s.mark

/-- Whether more tokens must be scanned before the next one can be handed out. -/
def needMoreTokens : ScanM Bool := do
  let s ← get
  if s.done then return false
  if s.tokens.isEmpty then return true
  staleKeys
  let s ← get
  pure (s.nextKeyNumber == some s.taken)

def ensureTokens : ScanM Unit := do
  for _ in [0:(← get).src.size + 8] do
    if !(← needMoreTokens) then break
    fetchMoreTokens

/-- The next token, without taking it. -/
def peekToken : ScanM Token := do
  ensureTokens
  let s ← get
  match s.tokens with
  | t :: _ => pure t
  | [] => let m := s.mark; pure ⟨.streamEnd, m, m⟩

/-- Whether the next token is of one of some sorts. -/
def checkToken (sorts : List TokenSort) : ScanM Bool := do
  ensureTokens
  match (← get).tokens with
  | t :: _ => pure (sorts.contains t.sort)
  | [] => pure false

def takeToken : ScanM Token := do
  ensureTokens
  let s ← get
  match s.tokens with
  | t :: rest =>
    set { s with tokens := rest, taken := s.taken + 1 }
    pure t
  | [] => let m := s.mark; pure ⟨.streamEnd, m, m⟩

end Dashwright.Yaml
