import Dashwright.Text.Entities
import Dashwright.Text.Blank

/-!
Markup text: escaping the characters markup gives a meaning to, reading character references
back, and stripping tags.

A character reference is `&` followed by `#` and decimal digits, `#x` and hexadecimal digits,
or a name of up to 32 characters (none of them a blank, `<`, `&`, `#` or `;`), each with an
optional closing semicolon. A name that is not known whole stands for its longest known prefix
followed by the rest; an `&` that starts no reference stays as it is.
-/

namespace Dashwright.Text

def escapeMarkupChar (c : Char) : List Char :=
  match c with
  | '&' => "&amp;".toList
  | '<' => "&lt;".toList
  | '>' => "&gt;".toList
  | '"' => "&#34;".toList
  | '\'' => "&#39;".toList
  | c => [c]

/-- Text with `&`, `<`, `>` and both quotes written as character references. -/
def escapeMarkup (s : String) : String := String.ofList (s.toList.flatMap escapeMarkupChar)

/-- Whether a character may appear in the name of a reference. -/
def isReferenceNameChar (c : Char) : Bool :=
  !(c == '\t' || c == '\n' || c == '\x0C' || c == ' ' || c == '<' || c == '&' || c == '#' || c == ';')

def isAsciiHexDigit (c : Char) : Bool :=
  c.isDigit || ('a' ≤ c && c ≤ 'f') || ('A' ≤ c && c ≤ 'F')

def numericReferenceText (n : Nat) : String :=
  match legacyReference? n with
  | some c => String.singleton c
  | none =>
    if (0xD800 ≤ n && n ≤ 0xDFFF) || n > 0x10FFFF then "�"
    else if isDroppedReference n then ""
    else String.singleton (Char.ofNat n)

/-- The text a named reference stands for, given its name with the semicolon when it has one:
the whole name when known, else its longest known prefix of two or more characters followed
by the rest, else the reference as written. -/
def namedReferenceText (name : String) : String :=
  match entityText? name with
  | some t => t
  | none =>
    let cs := name.toList
    let found := (List.range (cs.length - 2)).findSome? fun k =>
      let x := cs.length - 1 - k
      (entityText? (String.ofList (cs.take x))).map fun t => t ++ String.ofList (cs.drop x)
    found.getD ("&" ++ name)

def afterSemicolon (cs : List Char) : List Char :=
  match cs with
  | ';' :: rest => rest
  | _ => cs

/-- The character reference after an `&`: what it stands for and the characters after it, or
nothing when no reference starts there. -/
def readReference (cs : List Char) : Option (String × List Char) :=
  match cs with
  | '#' :: rest =>
    let decimal := rest.takeWhile Char.isDigit
    if !decimal.isEmpty then
      let n := decimal.foldl (fun n c => n * 10 + (c.toNat - 48)) 0
      some (numericReferenceText n, afterSemicolon (rest.drop decimal.length))
    else
      match rest with
      | x :: more =>
        let hex := more.takeWhile isAsciiHexDigit
        if (x == 'x' || x == 'X') && !hex.isEmpty then
          some (numericReferenceText (hexDigitsValue (String.ofList hex)),
            afterSemicolon (more.drop hex.length))
        else none
      | [] => none
  | _ =>
    let name := (cs.take 32).takeWhile isReferenceNameChar
    if name.isEmpty then none
    else
      match cs.drop name.length with
      | ';' :: after => some (namedReferenceText (String.ofList (name ++ [';'])), after)
      | after => some (namedReferenceText (String.ofList name), after)

/-- Replaces the character references of characters, from the left. -/
def unescapeChars : Nat → List Char → List Char → List Char
  | 0, cs, acc => acc.reverse ++ cs
  | _, [], acc => acc.reverse
  | fuel + 1, '&' :: rest, acc =>
    match readReference rest with
    | some (t, after) => unescapeChars fuel after (t.toList.reverse ++ acc)
    | none => unescapeChars fuel rest ('&' :: acc)
  | fuel + 1, c :: rest, acc => unescapeChars fuel rest (c :: acc)

/-- Text with its character references replaced by what they stand for. -/
def unescapeMarkup (s : String) : String := String.ofList (unescapeChars (s.length + 1) s.toList [])

def positionOf (cs pat : List Char) : Option Nat :=
  (List.range (cs.length + 1)).find? fun i => (cs.drop i).take pat.length == pat

/-- Removes comments `<!-- ... -->`, each ending at the first `-->` after its start. -/
def dropComments : Nat → List Char → List Char → List Char
  | 0, cs, acc => acc.reverse ++ cs
  | _, [], acc => acc.reverse
  | fuel + 1, '<' :: '!' :: '-' :: '-' :: rest, acc =>
    match positionOf rest "-->".toList with
    | some j => dropComments fuel (rest.drop (j + 3)) acc
    | none => acc.reverse ++ '<' :: '!' :: '-' :: '-' :: rest
  | fuel + 1, c :: rest, acc => dropComments fuel rest (c :: acc)

/-- Removes tags `< ... >`, each ending at the first `>` after its start. -/
def dropTags : Nat → List Char → List Char → List Char
  | 0, cs, acc => acc.reverse ++ cs
  | _, [], acc => acc.reverse
  | fuel + 1, '<' :: rest, acc =>
    match rest.findIdx? (· == '>') with
    | some j => dropTags fuel (rest.drop (j + 1)) acc
    | none => acc.reverse ++ '<' :: rest
  | fuel + 1, c :: rest, acc => dropTags fuel rest (c :: acc)

/-- Markup as plain text: comments and then tags removed, runs of white space made single
spaces with none at the ends, and character references replaced. -/
def stripTags (s : String) : String :=
  let cs := s.toList
  let cs := dropComments (cs.length + 1) cs []
  let cs := dropTags (cs.length + 1) cs []
  unescapeMarkup (" ".intercalate (words (String.ofList cs)))

end Dashwright.Text
