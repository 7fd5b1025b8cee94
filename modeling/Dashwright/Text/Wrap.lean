import Dashwright.Text.Blank
import Dashwright.Text.Case

/-!
Shortening a text to one line of a width, as a paragraph wrapper does when it may write a
single line.

White space runs become single spaces and the ends are trimmed. The text is cut into chunks:
runs of spaces, words, the parts of a hyphenated word (a break after a hyphen between letters
is allowed), and dash runs between words. As many chunks as fit are kept; a word longer than
the whole line is cut, after its last fitting hyphen when it has one. When chunks are left
over, trailing chunks are dropped until the placeholder fits after a word, and the
placeholder closes the line; when nothing is left, the line is the placeholder alone.
-/

namespace Dashwright.Text

/-- Word characters: letters, characters with a numeric value and the underscore. -/
def isWordChar (c : Char) : Bool := isWordCharacter c

def isLetterChar (c : Char) : Bool := isWordCharacter c && !isDecimal c

/-- Characters after which a dash run may separate words. -/
def isWordPunct (c : Char) : Bool := isWordChar c || "!\"'&.,?".contains c

def isChunkSpace (c : Char) : Bool :=
  c == ' ' || c == '\t' || c == '\n' || c == '\x0B' || c == '\x0C' || c == '\r'

/-- The length of the run of dashes starting at a position. -/
def dashRun (cs : Array Char) (i : Nat) : Nat := Id.run do
  let mut k := 0
  for j in [i:cs.size] do
    if cs[j]! == '-' then k := k + 1 else break
  return k

/-- Whether a dash run of two or more starts at a position and is followed by a word character. -/
def dashesBeforeWord (cs : Array Char) (i : Nat) : Bool :=
  let k := dashRun cs i
  k ≥ 2 && (cs[i + k]?.map isWordChar).getD false

/-- Whether the character at a position (possibly before the start) satisfies a test. -/
def charIs (cs : Array Char) (i : Int) (p : Char → Bool) : Bool :=
  if i < 0 then false else (cs[i.toNat]?.map p).getD false

/-- Whether a word may break after the hyphen at a position: the hyphen follows two letters
or a letter, hyphen and letter, and a letter follows it, then a letter after an optional
hyphen. -/
def breaksAfterHyphen (cs : Array Char) (e : Nat) : Bool :=
  let near (d : Int) (p : Char → Bool) : Bool := charIs cs (e + d) p
  cs[e]? == some '-' &&
    ((near (-2) isLetterChar && near (-1) isLetterChar) ||
      (near (-3) isLetterChar && near (-2) (· == '-') && near (-1) isLetterChar)) &&
    near 1 isLetterChar &&
    (near 2 isLetterChar || (near 2 (· == '-') && near 3 isLetterChar))

def chunkEnd (cs : Array Char) (i : Nat) : Nat := Id.run do
  let n := cs.size
  if (cs[i]?.map isChunkSpace).getD false then
    let mut e := i
    for j in [i:n] do
      if isChunkSpace cs[j]! then e := j + 1 else break
    return e
  if charIs cs (i - 1 : Int) isWordPunct && dashesBeforeWord cs i then
    return i + dashRun cs i
  for e in [i + 1:n + 1] do
    if breaksAfterHyphen cs e then return e + 1
    if e == n || isChunkSpace cs[e]! then return e
    if charIs cs (e - 1 : Int) isWordPunct && dashesBeforeWord cs e then return e
  return n

def wrapChunks (text : String) : List String := Id.run do
  let cs := text.toList.toArray
  let mut out : Array String := #[]
  let mut i := 0
  for _ in [0:cs.size] do
    if i ≥ cs.size then break
    let e := max (chunkEnd cs i) (i + 1)
    out := out.push (String.ofList (cs.extract i e).toList)
    i := e
  return out.toList

def isBlankChunk (s : String) : Bool := (strip s).isEmpty

def fillLine (width : Nat) : List String → List String → Nat → List String × Nat × List String
  | [], line, len => (line, len, [])
  | c :: rest, line, len =>
    if len + c.length ≤ width then fillLine width rest (line ++ [c]) (len + c.length)
    else (line, len, c :: rest)

/-- The text on one line of a width, with a placeholder when it does not all fit. -/
def shorten (text : String) (width : Nat) (placeholder : String) : String := Id.run do
  let chunks := wrapChunks (" ".intercalate (words text))
  if chunks.isEmpty then return ""
  let (line, len, rest) := fillLine width chunks [] 0
  let mut line := line
  let mut len := len
  let mut rest := rest
  match rest with
  | c :: more =>
    if c.length > width then
      let spaceLeft := if width < 1 then 1 else width - len
      let mut cut := spaceLeft
      if c.length > spaceLeft then
        let head := (c.toList.take spaceLeft)
        match (head.zipIdx.filter (·.1 == '-')).getLast? with
        | some (_, h) =>
          if h > 0 && (c.toList.take h).any (· != '-') then cut := h + 1
        | none => pure ()
      line := line ++ [String.ofList (c.toList.take cut)]
      rest := String.ofList (c.toList.drop cut) :: more
      len := (line.map String.length).foldl (· + ·) 0
  | [] => pure ()
  if let some last := line.getLast? then
    if isBlankChunk last then
      len := len - last.length
      line := line.dropLast
  if line.isEmpty then return ""
  let fits := match rest with
    | [] => true
    | [w] => isBlankChunk w
    | _ => false
  if fits && len ≤ width then return String.join line
  for _ in [0:line.length] do
    match line.getLast? with
    | some last =>
      if !isBlankChunk last && len + placeholder.length ≤ width then
        return String.join line ++ placeholder
      len := len - last.length
      line := line.dropLast
    | none => break
  return String.ofList (placeholder.toList.dropWhile isSpace)


/-! ### Wrapping a paragraph into lines -/

/-- The chunks of a text when breaking only at white space: runs of white space and the runs
between them. -/
def blankChunks (text : String) : List String :=
  let step (acc : List (List Char)) (c : Char) : List (List Char) :=
    match acc with
    | cur :: rest =>
      match cur.head? with
      | some d => if isChunkSpace d == isChunkSpace c then (c :: cur) :: rest else [c] :: acc
      | none => [c] :: rest
    | [] => [[c]]
  ((text.toList.foldl step []).map fun cs => String.ofList cs.reverse).reverse

/-- Puts a chunk too long for any line onto the current line: as much as fits, cut after the
last hyphen of that part when breaking on hyphens and something other than hyphens precedes
it; without breaking long words, the whole chunk, and only on an empty line. -/
def placeLongChunk (width len : Nat) (breakLong breakOnHyphens : Bool) (line : List String)
    (chunk : String) (more : List String) : List String × List String :=
  if breakLong then
    let spaceLeft := width - len
    let cs := chunk.toList
    let cut :=
      if breakOnHyphens && cs.length > spaceLeft then
        match ((cs.take spaceLeft).zipIdx.filter (·.1 == '-')).getLast? with
        | some (_, h) => if h > 0 && (cs.take h).any (· != '-') then h + 1 else spaceLeft
        | none => spaceLeft
      else spaceLeft
    (line ++ [String.ofList (cs.take cut)], String.ofList (cs.drop cut) :: more)
  else if line.isEmpty then ([chunk], more)
  else (line, chunk :: more)

/-- Fills lines from chunks: a line after the first drops a leading blank chunk, takes chunks
while they fit, places a chunk too long for any line, and drops a trailing blank chunk; empty
lines are not kept. -/
def wrapLines (width : Nat) (breakLong breakOnHyphens : Bool) : Nat → List String → List String →
    List String
  | 0, _, lines => lines
  | _, [], lines => lines
  | fuel + 1, c :: cs, lines =>
    let chunks := if !lines.isEmpty && isBlankChunk c then cs else c :: cs
    let (line, len, rest) := fillLine width chunks [] 0
    let (line, rest) := match rest with
      | d :: more => if d.length > width then placeLongChunk width len breakLong breakOnHyphens line d more
        else (line, rest)
      | [] => (line, rest)
    let line := match line.getLast? with
      | some last => if isBlankChunk last then line.dropLast else line
      | none => line
    wrapLines width breakLong breakOnHyphens fuel rest
      (if line.isEmpty then lines else lines ++ [String.join line])

/-- The lines a paragraph wraps into at a width (at least one): chunks are cut at white space,
and also after hyphens inside words when breaking on hyphens. -/
def wrapParagraph (text : String) (width : Nat) (breakLong breakOnHyphens : Bool) : List String :=
  let chunks := if breakOnHyphens then wrapChunks text else blankChunks text
  wrapLines width breakLong breakOnHyphens (2 * (text.length + chunks.length) + 2) chunks []

end Dashwright.Text
