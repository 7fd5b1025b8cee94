import Dashwright.Value.Text
import Dashwright.Number.Text

/-!
The lenient JSON dialect that data-frame rows are read in.

It accepts more than JSON: numbers may have leading zeros, a bare point or a bare exponent
mark, strings may hold raw control characters, and `NaN`, `Infinity` and `-Infinity` are
values (`NaN` reads as null). It reads numbers its own way:

* whole numbers are kept in 64 unsigned bits: a positive number that wraps around is "too big",
  a negative one past the smallest machine integer is "too small";
* a fraction keeps its first fifteen decimals as a double, and the value is the whole part plus
  that double times the double nearest to `10^-decimals`, so that long fractions read slightly
  off; an exponent multiplies by `10^exponent`.

In strings a high surrogate escape waits for the escape after it, which must be a low one; a
high surrogate that nothing completes is dropped, and a lone low one is kept.

A failure is the reader's message. Reading past the end meets a NUL character.
-/

namespace Dashwright.Json.Lenient

abbrev Decoding := Except String

/-- The character at a position, NUL past the end. -/
def charAt (cs : Array Char) (i : Nat) : Char := cs.getD i '\x00'

def isBlank (c : Char) : Bool := c == ' ' || c == '\t' || c == '\r' || c == '\n'

/-- The first position at or after `i` that is not blank. -/
def skipBlank (cs : Array Char) (i : Nat) : Nat :=
  if h : i < cs.size then
    if isBlank cs[i] then skipBlank cs (i + 1) else i
  else i
termination_by cs.size - i

def spells (cs : Array Char) (i : Nat) (w : String) : Bool :=
  w.toList.zipIdx.all fun (c, k) => charAt cs (i + k) == c

/-- The doubles `10^-k` for up to fifteen decimals, as written in the reader. -/
def negativePowers : Array Float :=
  (List.range 16).toArray.map fun k => Float.ofScientific 1 true k

/-- Two to the sixty-fourth: the size of the whole-number register. -/
def wordSize : Nat := Nat.pow 2 64

/-- Reads the whole part of a number: its digits, kept modulo two to the sixty-fourth with
the overflow checks of the register. -/
def wholePart (cs : Array Char) (negative : Bool) : Nat → Nat → Nat → Decoding (Nat × Nat)
  | 0, i, v => pure (v, i)
  | fuel + 1, i, v =>
    let c := charAt cs i
    if c.isDigit then
      let next := (v * 10 + (c.toNat - 48)) % wordSize
      if !negative && v > next then throw "Value is too big!"
      else if negative && next > Nat.pow 2 63 then throw "Value is too small"
      else wholePart cs negative fuel (i + 1) next
    else pure (v, i)

/-- Reads the decimals of a fraction: the first fifteen as a double and their count. -/
def fractionPart (cs : Array Char) : Nat → Nat → Float → Nat → Float × Nat × Nat
  | 0, i, f, k => (f, k, i)
  | fuel + 1, i, f, k =>
    let c := charAt cs i
    if c.isDigit then
      if k < 15 then fractionPart cs fuel (i + 1) (f * 10.0 + (c.toNat - 48).toFloat) (k + 1)
      else fractionPart cs fuel (i + 1) f k
    else (f, k, i)

def exponentDigits (cs : Array Char) : Nat → Nat → Float → Float × Nat
  | 0, i, e => (e, i)
  | fuel + 1, i, e =>
    let c := charAt cs i
    if c.isDigit then exponentDigits cs fuel (i + 1) (e * 10.0 + (c.toNat - 48).toFloat)
    else (e, i)

/-- The double of a whole part, decimals and their count, with a sign. -/
def combine (negative : Bool) (whole : Nat) (fraction : Float) (count : Nat) : Float :=
  let v := Number.floatOfDecimal false whole 0 + fraction * negativePowers.getD count 0.0
  if negative then -v else v

/-- Reads a number, or `NaN` or an infinity, starting at a position. -/
def readNumber (cs : Array Char) (start : Nat) : Decoding (Value × Nat) := do
  let fuel := cs.size + 1
  let infinity (at0 : Nat) (negative : Bool) : Decoding (Value × Nat) :=
    if spells cs at0 "Infinity" then
      pure (.float (if negative then -Number.infinity else Number.infinity), at0 + 8)
    else if negative then throw "Unexpected character found when decoding '-Infinity'"
    else throw "Unexpected character found when decoding 'Infinity'"
  match charAt cs start with
  | 'I' => infinity start false
  | 'N' =>
    if spells cs start "NaN" then pure (.none, start + 3)
    else throw "Unexpected character found when decoding 'NaN'"
  | c =>
    let negative := c == '-'
    let i := if negative then start + 1 else start
    if negative && charAt cs i == 'I' then return ← infinity i true
    let (whole, i) ← wholePart cs negative fuel i 0
    let exponentFrom (fraction : Float) (count : Nat) (j : Nat) : Value × Nat :=
      let (sign, j) := match charAt cs j with
        | '-' => (-1.0, j + 1)
        | '+' => (1.0, j + 1)
        | _ => (1.0, j)
      let (e, j) := exponentDigits cs fuel j 0.0
      (.float (combine negative whole fraction count * Float.pow 10.0 (e * sign)), j)
    match charAt cs i with
    | '.' =>
      let (fraction, count, j) := fractionPart cs fuel (i + 1) 0.0 0
      if charAt cs j == 'e' || charAt cs j == 'E' then pure (exponentFrom fraction count (j + 1))
      else pure (.float (combine negative whole fraction count), j)
    | 'e' | 'E' => pure (exponentFrom 0.0 0 (i + 1))
    | _ => pure (.int (if negative then -(whole : Int) else whole), i)

def hexDigitValue (c : Char) : Option Nat :=
  if c.isDigit then some (c.toNat - 48)
  else if 'a' ≤ c && c ≤ 'f' then some (c.toNat - 87)
  else if 'A' ≤ c && c ≤ 'F' then some (c.toNat - 55)
  else none

def escapeUnit (cs : Array Char) (i : Nat) : Decoding Nat :=
  (List.range 4).foldlM (fun v k => do
    let c := charAt cs (i + k)
    if c == '\x00' then throw "Unterminated unicode escape sequence when decoding 'string'"
    match hexDigitValue c with
    | some d => pure (v * 16 + d)
    | none => throw "Unexpected character in unicode escape sequence when decoding 'string'") 0

/-- Reads the body of a string from a position after its opening quote; `high` is a high
surrogate waiting for its low half. Gives the text and the position after the closing quote. -/
def readString (cs : Array Char) : Nat → Nat → Option Nat → List Char → Decoding (String × Nat)
  | 0, _, _, _ => throw "Unmatched ''\"' when when decoding 'string'"
  | fuel + 1, i, high, acc =>
    match charAt cs i with
    | '\x00' => throw "Unmatched ''\"' when when decoding 'string'"
    | '"' => pure (String.ofList acc.reverse, i + 1)
    | '\\' =>
      let simple : Option Char := match charAt cs (i + 1) with
        | '\\' => some '\\' | '"' => some '"' | '/' => some '/'
        | 'b' => some '\x08' | 'f' => some '\x0c' | 'n' => some '\n'
        | 'r' => some '\r' | 't' => some '\t' | _ => none
      match simple, charAt cs (i + 1) with
      | some d, _ => readString cs fuel (i + 2) high (d :: acc)
      | none, 'u' => do
        let u ← escapeUnit cs (i + 2)
        match high with
        | none =>
          if u / 1024 == 0xd800 / 1024 then readString cs fuel (i + 6) (some u) acc
          else readString cs fuel (i + 6) none (Text.codeChar u :: acc)
        | some h =>
          if u / 1024 != 0xdc00 / 1024 then throw "Unpaired high surrogate when decoding 'string'"
          else
            let cp := 0x10000 + (h - 0xd800) * 1024 + (u - 0xdc00)
            readString cs fuel (i + 6) none (Char.ofNat cp :: acc)
      | none, '\x00' => throw "Unterminated escape sequence when decoding 'string'"
      | none, _ => throw "Unrecognized escape sequence when decoding 'string'"
    | c => readString cs fuel (i + 1) high (c :: acc)

def depthLimit : Nat := 1024

mutual

/-- Reads any value at a position, after blanks, inside `depth` open arrays and objects. -/
def readAny (cs : Array Char) (depth : Nat) : Nat → Nat → Decoding (Value × Nat)
  | 0, _ => throw "Expected object or value"
  | fuel + 1, i =>
    let i := skipBlank cs i
    match charAt cs i with
    | '"' => do
      let (s, j) ← readString cs (cs.size + 1) (i + 1) none []
      pure (.str s, j)
    | '[' =>
      if depth + 1 > depthLimit then throw "Reached object decoding depth limit"
      else readArray cs (depth + 1) fuel (i + 1) []
    | '\x7b' =>
      if depth + 1 > depthLimit then throw "Reached object decoding depth limit"
      else readObject cs (depth + 1) fuel (i + 1) []
    | 't' =>
      if spells cs i "true" then pure (.bool true, i + 4)
      else throw "Unexpected character found when decoding 'true'"
    | 'f' =>
      if spells cs i "false" then pure (.bool false, i + 5)
      else throw "Unexpected character found when decoding 'false'"
    | 'n' =>
      if spells cs i "null" then pure (.none, i + 4)
      else throw "Unexpected character found when decoding 'null'"
    | c =>
      if c.isDigit || c == 'I' || c == 'N' || c == '-' then readNumber cs i
      else throw "Expected object or value"

/-- Reads the items of an array after its opening bracket or a comma. -/
def readArray (cs : Array Char) (depth : Nat) : Nat → Nat → List Value → Decoding (Value × Nat)
  | 0, _, _ => throw "Expected object or value"
  | fuel + 1, i, acc => do
    let i := skipBlank cs i
    if charAt cs i == ']' then
      if acc.isEmpty then return (.list [], i + 1)
      else throw "Unexpected character found when decoding array value (1)"
    let (v, j) ← readAny cs depth fuel i
    let j := skipBlank cs j
    match charAt cs j with
    | ']' => pure (.list (acc ++ [v]), j + 1)
    | ',' => readArray cs depth fuel (j + 1) (acc ++ [v])
    | _ => throw "Unexpected character found when decoding array value (2)"

/-- Reads the members of an object after its opening brace or a comma; a repeated key keeps
its first place and takes the last value. -/
def readObject (cs : Array Char) (depth : Nat) : Nat → Nat → List (Value × Value) →
    Decoding (Value × Nat)
  | 0, _, _ => throw "Expected object or value"
  | fuel + 1, i, acc => do
    let i := skipBlank cs i
    if charAt cs i == '\x7d' then return (Value.dict acc, i + 1)
    let (k, j) ← match charAt cs i with
      | '"' => readString cs (cs.size + 1) (i + 1) none []
      | _ => do
        let _ ← readAny cs depth fuel i
        throw "Key name of object must be 'string' when decoding 'object'"
    let j := skipBlank cs j
    if charAt cs j != ':' then throw "No ':' found when decoding object value"
    let (v, j) ← readAny cs depth fuel (j + 1)
    let acc := if acc.any (fun (k2, _) => Value.equal k2 (.str k)) then
        acc.map fun (k2, v2) => if Value.equal k2 (.str k) then (k2, v) else (k2, v2)
      else acc ++ [(.str k, v)]
    let j := skipBlank cs j
    match charAt cs j with
    | '\x7d' => pure (Value.dict acc, j + 1)
    | ',' => readObject cs depth fuel (j + 1) acc
    | _ => throw "Unexpected character found when decoding object value"

end

/-- The value of a text in the lenient dialect, which must hold one value and blanks. -/
def decode (text : String) : Decoding Value := do
  let cs := text.toList.toArray
  let (v, i) ← readAny cs 0 (cs.size + 2) 0
  if skipBlank cs i != cs.size then throw "Trailing data"
  pure v

end Dashwright.Json.Lenient
