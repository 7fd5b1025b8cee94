import Dashwright.Text.Packed
import Dashwright.Text.Unicode.Tables

/-!
Character properties and case maps of Unicode 14, read from the packed tables.

A property is a `CharSet`: the sorted code points where membership changes, so that a
character belongs to the set when an odd number of them are at or below it. A case map is a
`CaseMap`: groups of evenly spaced characters that move by one offset, and the characters
whose image is longer than one character.
-/

namespace Dashwright.Text.Unicode

/-- The position of the first entry above a number in a sorted array, searching between two
positions. -/
def firstAbove (xs : Array Nat) (n : Nat) (lo hi : Nat) : Nat :=
  if lo < hi then
    let mid := (lo + hi) / 2
    if xs[mid]! ≤ n then firstAbove xs n (mid + 1) hi else firstAbove xs n lo mid
  else lo
termination_by hi - lo
decreasing_by all_goals omega

/-- A set of characters, as the code points where membership changes. -/
structure CharSet where
  bounds : Array Nat

def CharSet.ofPacked (blocks : List String) : CharSet :=
  let ds := readPackedNumbers (String.join blocks)
  ⟨(ds.foldl (fun (acc : Array Nat × Nat) d => (acc.1.push (acc.2 + d), acc.2 + d)) (#[], 0)).1⟩

def CharSet.has (s : CharSet) (n : Nat) : Bool :=
  firstAbove s.bounds n 0 s.bounds.size % 2 == 1

/-- Where the run of the set holding a code point starts. -/
def CharSet.runStart (s : CharSet) (n : Nat) : Nat :=
  let i := firstAbove s.bounds n 0 s.bounds.size
  if i == 0 then 0 else s.bounds[i - 1]!

/-- A folded offset: even numbers forward, odd numbers backward. -/
def unfold (z : Nat) : Int := if z % 2 == 0 then (z / 2 : Nat) else -(((z + 1) / 2 : Nat) : Int)

/-- A group of a case map: `count` characters from `start`, `step` apart, each moving by
`offset`. -/
structure CaseGroup where
  start : Nat
  count : Nat
  step : Nat
  offset : Int
deriving Inhabited

def CaseGroup.last (g : CaseGroup) : Nat := g.start + (g.count - 1) * g.step

/-- A case map: the groups in order of their starts, and the longer images. -/
structure CaseMap where
  groups : Array CaseGroup
  starts : Array Nat
  long : List (Nat × List Nat)

/-- The groups of a case map from its packed numbers. -/
def groupsOf : List Nat → Nat → List CaseGroup
  | gap :: count :: step :: z :: rest, prev =>
    let g : CaseGroup := ⟨prev + gap, count, step, unfold z⟩
    g :: groupsOf rest g.last
  | _, _ => []

/-- The longer images of a case map from its packed numbers. -/
def longOf (fuel : Nat) (ns : List Nat) (prev : Nat) : List (Nat × List Nat) :=
  match fuel, ns with
  | fuel + 1, gap :: len :: rest =>
    let c := prev + gap
    let image := (rest.take len).map fun z => ((c : Int) + unfold z).toNat
    (c, image) :: longOf fuel (rest.drop len) c
  | _, _ => []

def CaseMap.ofPacked (groups long : List String) : CaseMap :=
  let gs := (groupsOf (readPackedNumbers (String.join groups)).toList 0).toArray
  let ls := (readPackedNumbers (String.join long)).toList
  ⟨gs, gs.map (·.start), longOf ls.length ls 0⟩

/-- The image of a character under a case map, as code points. -/
def CaseMap.image (m : CaseMap) (n : Nat) : List Nat :=
  match m.long.find? (·.1 == n) with
  | some (_, image) => image
  | none =>
    let i := firstAbove m.starts n 0 m.starts.size
    if i == 0 then [n]
    else
      let g := m.groups[i - 1]!
      if n ≤ g.last && (n - g.start) % g.step == 0 then [((n : Int) + g.offset).toNat] else [n]

def alphaSet : CharSet := .ofPacked alphaBounds
def decimalSet : CharSet := .ofPacked decimalBounds
def digitSet : CharSet := .ofPacked digitBounds
def numericSet : CharSet := .ofPacked numericBounds
def printableSet : CharSet := .ofPacked printableBounds
def identStartSet : CharSet := .ofPacked identStartBounds
def identContinueSet : CharSet := .ofPacked identContinueBounds
def lowerSet : CharSet := .ofPacked lowerBounds
def upperSet : CharSet := .ofPacked upperBounds
def titleSet : CharSet := .ofPacked titleBounds
def casedSet : CharSet := .ofPacked casedBounds
def caseIgnorableSet : CharSet := .ofPacked caseIgnorableBounds
def spaceSet : CharSet := .ofPacked spaceBounds

def lowerCaseMap : CaseMap := .ofPacked lowerMap lowerMapLong
def upperCaseMap : CaseMap := .ofPacked upperMap upperMapLong
def titleCaseMap : CaseMap := .ofPacked titleMap titleMapLong
def foldCaseMap : CaseMap := .ofPacked foldMap foldMapLong

end Dashwright.Text.Unicode

namespace Dashwright.Text

open Unicode

def asciiLetter (n : Nat) : Bool := (65 ≤ n && n ≤ 90) || (97 ≤ n && n ≤ 122)

def asciiDigit (n : Nat) : Bool := 48 ≤ n && n ≤ 57

/-- Membership in a set, read for the ASCII characters from a rule that agrees with the set
there, and from the set's bounds for the others. -/
def Unicode.CharSet.hasAscii (s : CharSet) (ascii : Nat → Bool) (n : Nat) : Bool :=
  if n < 128 then ascii n else s.has n

/-- Letters: the characters of the five letter categories. -/
def isAlpha (c : Char) : Bool := alphaSet.hasAscii asciiLetter c.toNat

/-- Decimal digits, in any script. -/
def isDecimal (c : Char) : Bool := decimalSet.hasAscii asciiDigit c.toNat

/-- Digits: the decimal digits and the other characters with a digit value, such as
superscripts. -/
def isDigitChar (c : Char) : Bool := digitSet.hasAscii asciiDigit c.toNat

/-- Characters with a numeric value: digits, fractions, numerals. -/
def isNumeric (c : Char) : Bool := numericSet.hasAscii asciiDigit c.toNat

def isAlnum (c : Char) : Bool := isAlpha c || isNumeric c

/-- Word characters of patterns: letters, characters with a numeric value, and the
underscore. -/
def isWordCharacter (c : Char) : Bool := isAlnum c || c == '_'

/-- Printable characters: all but controls, formats, surrogates, private use, unassigned code
points and separators other than the space. -/
def isPrintable (c : Char) : Bool := printableSet.hasAscii (fun n => 32 ≤ n && n ≤ 126) c.toNat

/-- Characters that may start an identifier: letters of the identifier classes and the
underscore. -/
def isIdentStart (c : Char) : Bool := identStartSet.hasAscii (fun n => asciiLetter n || n == 95) c.toNat

def isIdentContinue (c : Char) : Bool :=
  identContinueSet.hasAscii (fun n => asciiLetter n || asciiDigit n || n == 95) c.toNat

/-- Whether a text is an identifier: non-empty, a starting character, then continuing ones. -/
def isIdentifier (s : String) : Bool :=
  match s.toList with
  | [] => false
  | c :: rest => isIdentStart c && rest.all isIdentContinue

def isLowerCase (c : Char) : Bool := lowerSet.has c.toNat

def isUpperCase (c : Char) : Bool := upperSet.has c.toNat

/-- Title-case characters, such as the digraph with a capital first letter. -/
def isTitleCase (c : Char) : Bool := titleSet.has c.toNat

def isCased (c : Char) : Bool := casedSet.has c.toNat

/-- Characters that case mapping looks through: marks, modifiers, format characters and the
apostrophes. -/
def isCaseIgnorable (c : Char) : Bool := caseIgnorableSet.has c.toNat

/-- The value of a decimal digit in any script; an ASCII digit is read without the tables. -/
def decimalValue? (c : Char) : Option Nat :=
  if c.toNat < 128 then (if asciiDigit c.toNat then some (c.toNat - 48) else none)
  else if isDecimal c then some ((c.toNat - decimalSet.runStart c.toNat) % 10) else none

/-- The character a code point or a UTF-16 code unit decodes to. A surrogate standing alone is
not a character: it is held as one of the last 2048 code points, in the last private use plane,
in its order, so that it can be written back as the escape it came from. -/
def codeChar (n : Nat) : Char :=
  if 0xd800 ≤ n && n ≤ 0xdfff then Char.ofNat (0x10f800 + (n - 0xd800)) else Char.ofNat n

/-- The surrogate that a character stands for, when it is one of the stand-ins of `codeChar`. -/
def loneSurrogate? (c : Char) : Option Nat :=
  if c.toNat ≥ 0x10f800 then some (0xd800 + (c.toNat - 0x10f800)) else none

def mapChars (m : CaseMap) (c : Char) : List Char := (m.image c.toNat).map Char.ofNat

def upperChars (c : Char) : List Char := mapChars upperCaseMap c

def titleChars (c : Char) : List Char := mapChars titleCaseMap c

/-- The lower case of an ASCII character: a capital moves to its small letter. -/
def asciiLower (c : Char) : Char :=
  if 'A' ≤ c && c ≤ 'Z' then Char.ofNat (c.toNat + 32) else c

/-- The full lower case of a character, out of context; an ASCII character is read without the
tables. -/
def lowerCharsAlone (c : Char) : List Char :=
  if c.toNat < 128 then [asciiLower c] else mapChars lowerCaseMap c

def foldChars (c : Char) : List Char := mapChars foldCaseMap c

/-- The simple lower case of a character: its lower case when that is one character. -/
def simpleLower (c : Char) : Char :=
  match lowerCharsAlone c with
  | [d] => d
  | _ => if c.toNat == 0x130 then 'i' else c

/-- The simple upper case of a character: its upper case when that is one character. -/
def simpleUpper (c : Char) : Char :=
  match upperChars c with
  | [d] => d
  | _ => c

end Dashwright.Text
