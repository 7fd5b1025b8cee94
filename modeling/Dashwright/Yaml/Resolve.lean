import Dashwright.Yaml.Mark

/-!
The tags of untagged plain scalars, read off their text as YAML 1.1 does:

* `null`: empty, `~`, `null`, `Null`, `NULL`;
* `bool`: `yes`/`no`, `true`/`false`, `on`/`off` in lower, title or upper case;
* `int`: decimal, `0b` binary, `0` octal, `0x` hexadecimal, and base 60 (`1:30`), with
  underscores between digits allowed;
* `float`: a decimal with a point and an optional signed exponent, base 60 with a point,
  `.inf` with a sign, `.nan`;
* `timestamp`: a date `YYYY-MM-DD`, or a date and time with optional fraction and zone;
* `merge` for `<<` and `value` for `=`.

Anything else is text. A text that ends in one line break is read as if it did not.
-/

namespace Dashwright.Yaml

/-- The tag of a kind of value, in the YAML namespace. -/
def coreTag (name : String) : String := "tag:yaml.org,2002:" ++ name

def isDigitIn (lo hi : Char) (c : Char) : Bool := lo ≤ c && c ≤ hi

def dropSign (cs : List Char) : List Char :=
  match cs with
  | c :: rest => if c == '-' || c == '+' then rest else cs
  | [] => []

def dropRun (p : Char → Bool) (cs : List Char) : List Char := cs.dropWhile p

/-- One or more base-60 parts `:N` or `:NN` (the first of two digits at most 5). -/
def sexagesimalRest : Nat → List Char → Option (List Char)
  | 0, _ => none
  | fuel + 1, ':' :: rest =>
    let after := match rest with
      | a :: b :: more => if isDigitIn '0' '5' a && b.isDigit then some more
          else if a.isDigit then some (b :: more) else none
      | [a] => if a.isDigit then some [] else none
      | [] => none
    match after with
    | some more =>
      match more with
      | ':' :: _ => sexagesimalRest fuel more
      | _ => some more
    | none => none
  | _, _ => none

/-- `[eE][-+][0-9]+`, optionally. -/
def exponentRest (cs : List Char) : Option (List Char) :=
  match cs with
  | e :: s :: d :: rest =>
    if (e == 'e' || e == 'E') && (s == '-' || s == '+') && d.isDigit then some (dropRun Char.isDigit rest)
    else some cs
  | _ => some cs

def isDigitOrUnderscore (c : Char) : Bool := c.isDigit || c == '_'

def isFloatText (cs : List Char) : Bool :=
  let unsigned := dropSign cs
  let signed := unsigned.length != cs.length
  -- [-+]?[0-9][0-9_]*\.[0-9_]*([eE][-+][0-9]+)?
  let decimal := match unsigned with
    | d :: rest =>
      if d.isDigit then
        match dropRun isDigitOrUnderscore rest with
        | '.' :: frac => exponentRest (dropRun isDigitOrUnderscore frac) == some []
        | _ => false
      else false
    | [] => false
  -- \.[0-9][0-9_]*([eE][-+][0-9]+)?
  let pointFirst := !signed && match cs with
    | '.' :: d :: rest => d.isDigit && exponentRest (dropRun isDigitOrUnderscore rest) == some []
    | _ => false
  -- [-+]?[0-9][0-9_]*(:[0-5]?[0-9])+\.[0-9_]*
  let base60 := match unsigned with
    | d :: rest =>
      if d.isDigit then
        match sexagesimalRest (cs.length + 1) (dropRun isDigitOrUnderscore rest) with
        | some ('.' :: frac) => (dropRun isDigitOrUnderscore frac).isEmpty
        | _ => false
      else false
    | [] => false
  let infinity := ["inf", "Inf", "INF"].any fun w => unsigned == '.' :: w.toList
  let notNumber := !signed && ["nan", "NaN", "NAN"].any fun w => cs == '.' :: w.toList
  decimal || pointFirst || base60 || infinity || notNumber

def isIntText (cs : List Char) : Bool :=
  let unsigned := dropSign cs
  let binary := match unsigned with
    | '0' :: 'b' :: rest => !rest.isEmpty && rest.all (fun c => c == '0' || c == '1' || c == '_')
    | _ => false
  let octal := match unsigned with
    | '0' :: rest => !rest.isEmpty && rest.all (fun c => isDigitIn '0' '7' c || c == '_')
    | _ => false
  let decimal := match unsigned with
    | ['0'] => true
    | d :: rest => isDigitIn '1' '9' d && rest.all isDigitOrUnderscore
    | [] => false
  let hex := match unsigned with
    | '0' :: 'x' :: rest => !rest.isEmpty && rest.all (fun c => c.isDigit || isDigitIn 'a' 'f' c ||
        isDigitIn 'A' 'F' c || c == '_')
    | _ => false
  let base60 := match unsigned with
    | d :: rest =>
      isDigitIn '1' '9' d && sexagesimalRest (cs.length + 1) (dropRun isDigitOrUnderscore rest) == some []
    | [] => false
  binary || octal || decimal || hex || base60

def takeDigits (n : Nat) (cs : List Char) : Option (List Char) :=
  if (cs.take n).length == n && (cs.take n).all Char.isDigit then some (cs.drop n) else none

/-- One or two digits, as many as there are. -/
def takeOneOrTwoDigits (cs : List Char) : Option (List Char) :=
  match cs with
  | a :: b :: rest => if a.isDigit then (if b.isDigit then some rest else some (b :: rest)) else none
  | [a] => if a.isDigit then some [] else none
  | [] => none

def isTimestampText (cs : List Char) : Bool :=
  let dateOnly := match takeDigits 4 cs with
    | some ('-' :: rest) =>
      match takeDigits 2 rest with
      | some ('-' :: rest2) => takeDigits 2 rest2 == some []
      | _ => false
    | _ => false
  let full : Option Bool := do
    let r ← takeDigits 4 cs
    let r ← match r with | '-' :: x => some x | _ => none
    let r ← takeOneOrTwoDigits r
    let r ← match r with | '-' :: x => some x | _ => none
    let r ← takeOneOrTwoDigits r
    let r ← match r with
      | c :: x =>
        if c == 'T' || c == 't' then some x
        else if c == ' ' || c == '\t' then some (x.dropWhile (fun d => d == ' ' || d == '\t'))
        else none
      | [] => none
    let r ← takeOneOrTwoDigits r
    let r ← match r with | ':' :: x => some x | _ => none
    let r ← takeDigits 2 r
    let r ← match r with | ':' :: x => some x | _ => none
    let r ← takeDigits 2 r
    let r := match r with
      | '.' :: x => x.dropWhile Char.isDigit
      | _ => r
    if r.isEmpty then return true
    let r := r.dropWhile (fun d => d == ' ' || d == '\t')
    match r with
    | ['Z'] => return true
    | s :: x =>
      if s == '-' || s == '+' then
        let r ← takeOneOrTwoDigits x
        match r with
        | [] => return true
        | ':' :: y => return (takeDigits 2 y == some [])
        | _ => return false
      else return false
    | [] => return false
  dateOnly || full == some true

/-- The tag of a plain scalar's text by the YAML 1.1 rules, if one applies; the rules tried
are those for the first character of the whole text. -/
def implicitTagOf (first : Option Char) (cs : List Char) : Option String :=
  let startsWith (set : String) : Bool := match first with
    | some c => set.toList.contains c
    | none => false
  if startsWith "yYnNtTfFoO" && ["yes", "Yes", "YES", "no", "No", "NO", "true", "True", "TRUE",
      "false", "False", "FALSE", "on", "On", "ON", "off", "Off", "OFF"].any (·.toList == cs) then
    some (coreTag "bool")
  else if startsWith "-+0123456789." && isFloatText cs then some (coreTag "float")
  else if startsWith "-+0123456789" && isIntText cs then some (coreTag "int")
  else if first == some '<' && cs == ['<', '<'] then some (coreTag "merge")
  else if (first.isNone || startsWith "~nN") && (cs.isEmpty || ["~", "null", "Null", "NULL"].any (·.toList == cs)) then
    some (coreTag "null")
  else if startsWith "0123456789" && isTimestampText cs then some (coreTag "timestamp")
  else if first == some '=' && cs == ['='] then some (coreTag "value")
  else none

/-- The tag of a scalar: by its text when it may be resolved implicitly (a text ending in one
line break is read without it), else text. -/
def resolveScalar (value : String) (plainImplicit : Bool) : String :=
  if plainImplicit then
    let cs := value.toList
    let found := match implicitTagOf cs.head? cs with
      | some t => some t
      | none =>
        if cs.getLast? == some '\n' then implicitTagOf cs.head? cs.dropLast else none
    found.getD (coreTag "str")
  else coreTag "str"

end Dashwright.Yaml
