/-!
Blank characters: the Unicode white space that trimming and splitting remove, and the
operations that trim and split by it.
-/

namespace Dashwright.Text

/-- White space: ASCII tab through carriage return, the four separators 0x1c to 0x1f, space,
and the Unicode space and line separators. -/
def isSpace (c : Char) : Bool :=
  let n := c.toNat
  (9 ≤ n && n ≤ 13) || (0x1c ≤ n && n ≤ 0x20) || n == 0x85 || n == 0xa0 || n == 0x1680 ||
  (0x2000 ≤ n && n ≤ 0x200a) || n == 0x2028 || n == 0x2029 || n == 0x202f || n == 0x205f ||
  n == 0x3000

def dropSpaceLeft (cs : List Char) : List Char := cs.dropWhile isSpace

def dropSpaceRight (cs : List Char) : List Char := (cs.reverse.dropWhile isSpace).reverse

def strip (s : String) : String := String.ofList (dropSpaceRight (dropSpaceLeft s.toList))

def stripLeft (s : String) : String := String.ofList (dropSpaceLeft s.toList)

def stripRight (s : String) : String := String.ofList (dropSpaceRight s.toList)

def stripChars (s : String) (chars : List Char) : String :=
  let keep (c : Char) := chars.contains c
  String.ofList (((s.toList.dropWhile keep).reverse.dropWhile keep).reverse)

/-- The words of a text: maximal runs of non-blank characters. -/
def words (s : String) : List String :=
  let rec go : List Char → List Char → List String → List String
    | [], cur, acc => (if cur.isEmpty then acc else String.ofList cur.reverse :: acc).reverse
    | c :: cs, cur, acc =>
      if isSpace c then go cs [] (if cur.isEmpty then acc else String.ofList cur.reverse :: acc)
      else go cs (c :: cur) acc
  go s.toList [] []

/-- The parts of a list between the occurrences of a separator, each occurrence taken at the
leftmost place it starts after the previous one; `cur` is the part read so far. -/
def splitList (sep cur : List Char) : List Char → List (List Char)
  | [] => [cur]
  | c :: cs =>
    if !sep.isEmpty && sep.isPrefixOf (c :: cs) then cur :: splitList sep [] ((c :: cs).drop sep.length)
    else splitList sep (cur ++ [c]) cs
termination_by l => l.length
decreasing_by
  · simp only [List.length_drop, List.length_cons]
    cases sep with
    | nil => simp at *
    | cons _ _ => simp only [List.length_cons]; omega
  · simp only [List.length_cons]; omega

/-- Splits a text at every occurrence of a non-empty separator; an empty separator leaves the
text whole. -/
def splitOn (s sep : String) : List String :=
  if sep.isEmpty then [s] else (splitList sep.toList [] s.toList).map String.ofList

/-- Replaces every occurrence of a non-empty pattern, scanning left to right. -/
def replaceAll (s pat rep : String) : String :=
  if pat.isEmpty then s else rep.intercalate (splitOn s pat)

/-- Whether `pat` occurs in `s`. -/
def contains (s pat : String) : Bool :=
  pat.isEmpty || (splitOn s pat).length > 1

end Dashwright.Text

namespace Dashwright.Text

/-- Text as read from a file in text mode: each `\r\n` and each lone `\r` becomes `\n`. -/
def universalNewlines (s : String) : String :=
  let rec go : List Char → List Char → List Char
    | [], acc => acc.reverse
    | '\r' :: '\n' :: rest, acc => go rest ('\n' :: acc)
    | '\r' :: rest, acc => go rest ('\n' :: acc)
    | c :: rest, acc => go rest (c :: acc)
  String.ofList (go s.toList [])

end Dashwright.Text

namespace Dashwright.Text

def commonPrefix : List Char → List Char → List Char
  | a :: as, b :: bs => if a == b then a :: commonPrefix as bs else []
  | _, _ => []

def isIndentBlank (c : Char) : Bool := c == ' ' || c == '\t'

/-- Removes the indentation that all lines with text have in common. Lines holding only
blanks and tabs are emptied first and do not count. -/
def dedent (s : String) : String :=
  let lines := (splitOn s "\n").map fun l =>
    if !l.isEmpty && l.all isIndentBlank then "" else l
  let indents := lines.filterMap fun l =>
    let ind := l.toList.takeWhile isIndentBlank
    if ind.length < l.length then some ind else none
  let margin := match indents with
    | [] => []
    | first :: rest => rest.foldl commonPrefix first
  if margin.isEmpty then "\n".intercalate lines
  else
    "\n".intercalate (lines.map fun l =>
      if l.toList.take margin.length == margin then String.ofList (l.toList.drop margin.length) else l)

end Dashwright.Text
