import Dashwright.Text.Markup
import Dashwright.Text.Unicode

/-!
Turning web addresses and mail addresses in text into links.

The text is escaped as markup and cut at runs of white space. From each word, opening
brackets (`(`, `<`, `&lt;`) are set aside at the front and closing punctuation (`)`, `>`,
`.`, `,`, a line break, `&gt;`) at the back; closing brackets set aside are given back while
the word has more opening brackets of their kind than closing ones. What is left is a link
when it is a web address: `http://`, `https://` or `www.` and a host with a top-level domain
of letters (or an encoded one, `xn--`), a bare host of labels under one of the classic
top-level domains, or `http(s)://` and an address of numbers; then an optional port and an
optional path, query or fragment. A mail address, with or without `mailto:`, becomes a mail
link, and a word that starts with one of the extra schemes a link to itself.
-/

namespace Dashwright.Text

/-- Whether characters from a position spell a word, ignoring the case of ASCII letters. -/
def spellsAt (cs : Array Char) (i : Nat) (w : String) : Bool :=
  (w.toList.zipIdx.all fun (c, k) =>
    match cs[i + k]? with
    | some d => d.toLower == c.toLower
    | none => false)

/-- The positions up to which characters satisfy a test, taking between `lo` and `hi` of them. -/
def runEnds (cs : Array Char) (i lo hi : Nat) (p : Char → Bool) : List Nat :=
  let n := ((List.range (hi + 1)).takeWhile fun k =>
    k == 0 || (cs[i + k - 1]?.map p).getD false).length
  (List.range n).filterMap fun k => if k ≥ lo then some (i + k) else none

def isLabelChar (c : Char) : Bool := isWordCharacter c || c == '%' || c == '-'

/-- The positions after any number of labels each followed by a dot, from a position. -/
def labelEnds (cs : Array Char) (i : Nat) (lo hi : Nat) (least : Nat) : List Nat :=
  let rec go : Nat → Nat → Nat → List Nat → List Nat
    | 0, _, _, acc => acc
    | fuel + 1, pos, count, acc =>
      let len := ((List.range (cs.size - pos)).takeWhile fun k =>
        (cs[pos + k]?.map isLabelChar).getD false).length
      if len ≥ lo && len ≤ hi && cs[pos + len]? == some '.' then
        let next := pos + len + 1
        go fuel next (count + 1) (if count + 1 ≥ least then acc ++ [next] else acc)
      else acc
  go (cs.size + 1) i 0 (if least == 0 then [i] else [])

/-- Whether a character is a hexadecimal digit of an address of numbers. -/
def isAddressHex (c : Char) : Bool :=
  isDecimal c || ('a' ≤ c.toLower && c.toLower ≤ 'f')

/-- The positions after a host name, from the start of the text. -/
def hostEnds (cs : Array Char) : List Nat :=
  let schemes := (if spellsAt cs 0 "https://" then [8] else []) ++ (if spellsAt cs 0 "http://" then [7] else [])
  let named :=
    (schemes ++ (if spellsAt cs 0 "www." then [4] else [])).flatMap fun p0 =>
      (labelEnds cs p0 1 cs.size 0).flatMap fun q =>
        runEnds cs q 2 63 (fun c => 'a' ≤ c.toLower && c.toLower ≤ 'z') ++
          (if spellsAt cs q "xn--" then runEnds cs (q + 4) 2 59 (fun c => isWordCharacter c || c == '%')
           else [])
  let classic :=
    (labelEnds cs 0 2 63 1).flatMap fun q =>
      ["com", "net", "int", "edu", "gov", "org", "info", "mil"].filterMap fun t =>
        if spellsAt cs q t then some (q + t.length) else none
  let dottedGroup (ps : List Nat) : List Nat :=
    ps.flatMap fun p => if cs[p]? == some '.' then runEnds cs (p + 1) 1 3 isDecimal else []
  let numbered := schemes.flatMap fun p0 =>
    dottedGroup (dottedGroup (dottedGroup (runEnds cs p0 1 3 isDecimal)))
  let colonGroup (ps : List Nat) : List Nat :=
    ps.flatMap fun p => (runEnds cs p 0 4 isAddressHex).filterMap fun q =>
      if cs[q]? == some ':' then some (q + 1) else none
  let optionalColon (ps : List Nat) : List Nat :=
    ps.flatMap fun p => (runEnds cs p 0 4 isAddressHex).flatMap fun q =>
      q :: (if cs[q]? == some ':' then [q + 1] else [])
  let bracketed := schemes.flatMap fun p0 =>
    if cs[p0]? == some '[' then
      let start := colonGroup (colonGroup [p0 + 1])
      let groups := (List.range 6).foldl (fun (acc : List Nat × List Nat) _ =>
        let next := optionalColon acc.1
        (next, acc.2 ++ next)) (start, [])
      groups.2.filterMap fun t => if cs[t]? == some ']' then some (t + 1) else none
    else []
  named ++ classic ++ numbered ++ bracketed

/-- The positions where an address may end: the end of the text, or before a final line
break. -/
def addressEnds (cs : Array Char) : List Nat :=
  cs.size :: (if cs.size > 0 && cs[cs.size - 1]? == some '\n' then [cs.size - 1] else [])

/-- Whether a word is a web address: a host, an optional port and an optional path, query or
fragment without blanks, to the end. -/
def isWebAddress (w : String) : Bool :=
  let cs := w.toList.toArray
  let ends := addressEnds cs
  (hostEnds cs).any fun e =>
    let ports := e :: (if cs[e]? == some ':' then runEnds cs (e + 1) 1 5 isDecimal else [])
    ports.any fun x =>
      ends.any fun stop =>
        x == stop ||
          (x < stop && "/?#".toList.contains (cs.getD x ' ') &&
            ((List.range (stop - x - 1)).all fun k => !isSpace (cs.getD (x + 1 + k) ' ')))

/-- Whether a word is a mail address: something without blanks, `@`, a word character, word
characters, dots and dashes, a dot and word characters, to the end. -/
def isMailAddress (w : String) : Bool :=
  let cs := w.toList
  let ends := addressEnds cs.toArray
  (cs.zipIdx.filter (·.1 == '@')).any fun (_, a) =>
    a ≥ 1 && (cs.take a).all (fun c => !isSpace c) &&
      ends.any fun stop =>
        let b := (cs.take stop).drop (a + 1)
        match b with
        | [] => false
        | first :: _ =>
          match (b.zipIdx.filter (·.1 == '.')).getLast? with
          | some (_, j) =>
            isWordCharacter first && j ≥ 1 && j + 1 < b.length &&
              ((b.drop (j + 1)).all isWordCharacter) &&
              (((b.take j).drop 1).all fun c => isWordCharacter c || c == '.' || c == '-')
          | none => false

def leadLength : Nat → List Char → Nat
  | 0, _ => 0
  | fuel + 1, cs =>
    match cs with
    | '(' :: rest | '<' :: rest => 1 + leadLength fuel rest
    | '&' :: 'l' :: 't' :: ';' :: rest => 4 + leadLength fuel rest
    | _ => 0

def isClosing : Nat → List Char → Bool
  | 0, _ => false
  | _, [] => true
  | fuel + 1, cs =>
    match cs with
    | ')' :: rest | '>' :: rest | '.' :: rest | ',' :: rest | '\n' :: rest => isClosing fuel rest
    | '&' :: 'g' :: 't' :: ';' :: rest => isClosing fuel rest
    | _ => false

/-- Counts occurrences of a pattern, not overlapping. -/
def countOf (s pat : String) : Nat := (Text.splitOn s pat).length - 1

/-- Gives closing brackets set aside back to a word that has more opening brackets of their
kind, each with what precedes it in the set-aside text. -/
def balance (middle tail : String) : String × String :=
  [("(", ")"), ("<", ">"), ("&lt;", "&gt;")].foldl (fun (acc : String × String) (op, cl) =>
    let (middle, tail) := acc
    let opens := countOf middle op
    if opens ≤ countOf middle cl then (middle, tail)
    else
      (List.range (min opens (countOf tail cl))).foldl (fun (acc : String × String) _ =>
        let (middle, tail) := acc
        match Text.splitOn tail cl with
        | before :: _ =>
          let cut := before.length + cl.length
          (middle ++ String.ofList (tail.toList.take cut), String.ofList (tail.toList.drop cut))
        | [] => (middle, tail)) (middle, tail)) (middle, tail)

/-- How links are written: the limit on the length of a link's text, the `rel` and `target`
attributes, and the extra schemes that make a word a link. -/
structure LinkStyle where
  trimLimit : Option Int
  rel : String
  target : String
  extraSchemes : List String

/-- A word with the link it holds, if any. -/
def linkWord (style : LinkStyle) (word : String) : String :=
  let cs := word.toList
  let lead := leadLength (cs.length + 1) cs
  let head := String.ofList (cs.take lead)
  let middle := cs.drop lead
  let cut := (List.range (middle.length + 1)).find? fun p =>
    p < middle.length && isClosing (middle.length + 1) (middle.drop p)
  let (middle, tail) := match cut with
    | some p => (String.ofList (middle.take p), String.ofList (middle.drop p))
    | none => (String.ofList middle, "")
  let (middle, tail) := balance middle tail
  let trim (x : String) : String :=
    match style.trimLimit with
    | some k =>
      if (x.length : Int) > k then
        String.ofList (x.toList.take (if k ≥ 0 then k.toNat else (x.length + k).toNat)) ++ "..."
      else x
    | none => x
  let relAttr := if style.rel.isEmpty then "" else " rel=\"" ++ escapeMarkup style.rel ++ "\""
  let targetAttr := if style.target.isEmpty then "" else " target=\"" ++ escapeMarkup style.target ++ "\""
  let middle :=
    if isWebAddress middle then
      let href := if middle.startsWith "https://" || middle.startsWith "http://" then middle
        else "https://" ++ middle
      "<a href=\"" ++ href ++ "\"" ++ relAttr ++ targetAttr ++ ">" ++ trim middle ++ "</a>"
    else if middle.startsWith "mailto:" && isMailAddress (String.ofList (middle.toList.drop 7)) then
      "<a href=\"" ++ middle ++ "\">" ++ String.ofList (middle.toList.drop 7) ++ "</a>"
    else if middle.contains '@' && !middle.startsWith "www." && !middle.contains ':' &&
        isMailAddress middle then
      "<a href=\"mailto:" ++ middle ++ "\">" ++ middle ++ "</a>"
    else
      style.extraSchemes.foldl (fun m scheme =>
        if m != scheme && m.startsWith scheme then
          "<a href=\"" ++ m ++ "\"" ++ relAttr ++ targetAttr ++ ">" ++ m ++ "</a>"
        else m) middle
  head ++ middle ++ tail

/-- A text cut into its words and the runs of white space between them, starting and ending
with a word (perhaps empty). -/
def wordsAndBlanks (s : String) : List String :=
  let step (acc : List (List Char) × Bool) (c : Char) : List (List Char) × Bool :=
    let (parts, inBlank) := acc
    let blank := isSpace c
    match parts with
    | cur :: rest =>
      if blank == inBlank then ((c :: cur) :: rest, inBlank)
      else ([c] :: parts, blank)
    | [] => ([[c]], blank)
  let (parts, lastBlank) := s.toList.foldl step ([[]], false)
  let parts := (parts.map fun cs => String.ofList cs.reverse).reverse
  let parts := match parts with
    | first :: rest => if first.isEmpty && rest.isEmpty then [""] else first :: rest
    | [] => [""]
  if lastBlank then parts ++ [""] else parts

/-- Text with the addresses in it turned into links; the text is escaped as markup first. -/
def linkify (style : LinkStyle) (s : String) : String :=
  String.join ((wordsAndBlanks (escapeMarkup s)).map (linkWord style))

/-- Whether a scheme given to make links is a scheme prefix: two or more word characters,
dots, pluses or dashes, a colon, and at most two slashes. -/
def isSchemePrefix (s : String) : Bool :=
  match Text.splitOn s ":" with
  | [name, slashes] =>
    name.length ≥ 2 && name.all (fun c => isWordCharacter c || c == '.' || c == '+' || c == '-') &&
      slashes.length ≤ 2 && slashes.all (· == '/')
  | _ => false

end Dashwright.Text
