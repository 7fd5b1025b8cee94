import Dashwright.Text.Unicode

/-!
Letter case of texts: lower, upper, title and capitalised text, swapped case and case
folding, built on the full case maps of single characters, and the predicates that ask
whether a text is in one case.

The one map that depends on context is that of the capital sigma: it becomes the final small
sigma when a cased character comes before it and none after it, looking through the
characters that case mapping ignores on both sides.
-/

namespace Dashwright.Text

/-- Whether the capital sigma at a position of a text ends a word. -/
def isFinalSigma (cs : Array Char) (i : Nat) : Bool :=
  match (cs.extract 0 i).toList.reverse.dropWhile isCaseIgnorable with
  | c :: _ =>
    isCased c &&
      match (cs.extract (i + 1) cs.size).toList.dropWhile isCaseIgnorable with
      | [] => true
      | d :: _ => !isCased d
  | [] => false

/-- The full lower case of the character at a position of a text, in its context. -/
def lowerAt (cs : Array Char) (i : Nat) : List Char :=
  let c := cs[i]!
  if c.toNat == 0x3a3 then [Char.ofNat (if isFinalSigma cs i then 0x3c2 else 0x3c3)]
  else lowerCharsAlone c

def mapByPosition (s : String) (f : Array Char → Nat → Char → List Char) : String :=
  let cs := s.toList.toArray
  String.ofList ((List.range cs.size).flatMap fun i => f cs i cs[i]!)

def lower (s : String) : String := mapByPosition s fun cs i _ => lowerAt cs i

def upper (s : String) : String := String.ofList (s.toList.flatMap upperChars)

/-- Case-folded text, for comparisons that ignore case. -/
def casefold (s : String) : String := String.ofList (s.toList.flatMap foldChars)

/-- The first character in title case and the rest in lower case. -/
def capitalize (s : String) : String :=
  mapByPosition s fun cs i c => if i == 0 then titleChars c else lowerAt cs i

/-- Title case: each character after an uncased one in title case, the others in lower case. -/
def title (s : String) : String :=
  mapByPosition s fun cs i c =>
    if i > 0 && isCased cs[i - 1]! then lowerAt cs i else titleChars c

/-- Upper-case characters to lower case and lower-case characters to upper case. -/
def swapCase (s : String) : String :=
  mapByPosition s fun cs i c =>
    if isUpperCase c then lowerAt cs i else if isLowerCase c then upperChars c else [c]

/-- Whether a text has a lower-case character and no upper-case or title-case one. -/
def isLowerText (s : String) : Bool :=
  !s.toList.any (fun c => isUpperCase c || isTitleCase c) && s.toList.any isLowerCase

/-- Whether a text has an upper-case character and no lower-case or title-case one. -/
def isUpperText (s : String) : Bool :=
  !s.toList.any (fun c => isLowerCase c || isTitleCase c) && s.toList.any isUpperCase

/-- Whether a text is in title case: upper-case and title-case characters only after uncased
ones, lower-case characters only after cased ones, and at least one cased character. -/
def isTitleText (s : String) : Bool :=
  let step (st : Option (Bool × Bool)) (c : Char) : Option (Bool × Bool) :=
    st.bind fun (prevCased, seen) =>
      if isUpperCase c || isTitleCase c then
        if prevCased then none else some (true, true)
      else if isLowerCase c then
        if prevCased then some (true, true) else none
      else some (false, seen)
  match s.toList.foldl step (some (false, false)) with
  | some (_, seen) => seen
  | none => false

/-- Whether a character matches a lower-case ASCII letter with case ignored: its simple lower
case is that letter, or the dotless i for `i`, or the long s for `s`. -/
def matchesLetterIgnoringCase (c lit : Char) : Bool :=
  let l := simpleLower c
  l == lit || (lit == 'i' && l.toNat == 0x131) || (lit == 's' && l.toNat == 0x17f)

end Dashwright.Text
