import Dashwright.Value.Text

/-!
Reading JSON text into values. Numbers with a fraction or an exponent are doubles, others
exact integers; `NaN`, `Infinity` and `-Infinity` are read as doubles; a repeated key keeps
its first place and takes its last value. A failure names what was expected and where, as
a line, a column and a character offset, all counted in characters.
-/

namespace Dashwright.Json

/-- What the reader expected or found wrong at a position. -/
inductive Problem where
  | expectingValue
  | expectingName
  | expectingColon
  | expectingComma
  | extraData
  | unterminated
  | controlCharacter
  | badEscape
  | badUnicodeEscape
  | byteOrderMark
  /-- an integer with more digits than the reader accepts -/
  | tooManyDigits (count : Nat)
deriving BEq, Repr

def Problem.text : Problem → String
  | .expectingValue => "Expecting value"
  | .expectingName => "Expecting property name enclosed in double quotes"
  | .expectingColon => "Expecting ':' delimiter"
  | .expectingComma => "Expecting ',' delimiter"
  | .extraData => "Extra data"
  | .unterminated => "Unterminated string starting at"
  | .controlCharacter => "Invalid control character at"
  | .badEscape => "Invalid \\escape"
  | .badUnicodeEscape => "Invalid \\uXXXX escape"
  | .byteOrderMark => "Unexpected UTF-8 BOM (decode using utf-8-sig)"
  | .tooManyDigits n => "Exceeds the limit (4300 digits) for integer string conversion: value has " ++
      toString n ++ " digits; use sys.set_int_max_str_digits() to increase the limit"

/-- The message for a problem at a character offset of a text: the line is one more than the
newlines before it, the column counts from the last of them. -/
def problemMessage (text : Array Char) (p : Problem) (pos : Nat) : String :=
  let before := text.toList.take pos
  let line := before.count '\n' + 1
  let col := match before.reverse.findIdx? (· == '\n') with
    | some i => i + 1
    | none => pos + 1
  p.text ++ ": line " ++ toString line ++ " column " ++ toString col ++ " (char " ++
    toString pos ++ ")"

/-- A reading failure: the problem and its offset. -/
structure Fault where
  problem : Problem
  pos : Nat

abbrev Reading := Except Fault

def isBlank (c : Char) : Bool := c == ' ' || c == '\t' || c == '\n' || c == '\r'

section
variable (s : Array Char)

def at? (i : Nat) : Option Char := s[i]?

/-- The first offset from `i` on whose character fails the test. -/
def skipWhile (p : Char → Bool) (i : Nat) : Nat :=
  go (s.size - i) i
where
  go : Nat → Nat → Nat
    | 0, i => i
    | fuel + 1, i => match s[i]? with
      | some c => if p c then go fuel (i + 1) else i
      | none => i

def skipBlank (i : Nat) : Nat := skipWhile s isBlank i

def hexValue (c : Char) : Option Nat :=
  if '0' ≤ c ∧ c ≤ '9' then some (c.toNat - 48)
  else if 'a' ≤ c ∧ c ≤ 'f' then some (c.toNat - 87)
  else if 'A' ≤ c ∧ c ≤ 'F' then some (c.toNat - 55)
  else none

def hex4 (i : Nat) : Option Nat := do
  let a ← hexValue (← at? s i)
  let b ← hexValue (← at? s (i + 1))
  let c ← hexValue (← at? s (i + 2))
  let d ← hexValue (← at? s (i + 3))
  pure (((a * 16 + b) * 16 + c) * 16 + d)

/-- Reads the body of a string whose opening quote is at `begin`, from offset `i`; gives the
text and the offset after the closing quote. -/
def readString (begin : Nat) : Nat → Nat → List Char → Reading (String × Nat)
  | 0, i, _ => throw ⟨.unterminated, i⟩
  | fuel + 1, i, acc =>
    match at? s i with
    | none => throw ⟨.unterminated, begin⟩
    | some '"' => pure (String.ofList acc.reverse, i + 1)
    | some '\\' =>
      match at? s (i + 1) with
      | none => throw ⟨.unterminated, begin⟩
      | some 'u' =>
        if i + 6 ≥ s.size then throw ⟨.badUnicodeEscape, i + 1⟩
        else match hex4 s (i + 2) with
          | none => throw ⟨.badUnicodeEscape, i + 1⟩
          | some u =>
            if 0xd800 ≤ u ∧ u ≤ 0xdbff ∧ at? s (i + 6) == some '\\' ∧ at? s (i + 7) == some 'u' then
              match hex4 s (i + 8) with
              | some l =>
                if 0xdc00 ≤ l ∧ l ≤ 0xdfff then
                  let cp := 0x10000 + (u - 0xd800) * 1024 + (l - 0xdc00)
                  readString begin fuel (i + 12) (Char.ofNat cp :: acc)
                else readString begin fuel (i + 6) (Text.codeChar u :: acc)
              | none =>
                if i + 12 ≥ s.size + 1 then throw ⟨.badUnicodeEscape, i + 7⟩
                else throw ⟨.badUnicodeEscape, i + 7⟩
            else readString begin fuel (i + 6) (Text.codeChar u :: acc)
      | some c =>
        let decoded : Option Char := match c with
          | '"' => some '"' | '\\' => some '\\' | '/' => some '/'
          | 'b' => some '\x08' | 'f' => some '\x0c' | 'n' => some '\n'
          | 'r' => some '\r' | 't' => some '\t' | _ => none
        match decoded with
        | some d => readString begin fuel (i + 2) (d :: acc)
        | none => throw ⟨.badEscape, i⟩
    | some c =>
      if c.toNat ≤ 0x1f then throw ⟨.controlCharacter, i⟩
      else readString begin fuel (i + 1) (c :: acc)

def digitsFrom (i : Nat) : List Char :=
  (s.extract i (skipWhile s Char.isDigit i)).toList

/-- The largest number of digits an integer text may have. -/
def maxIntDigits : Nat := 4300

/-- Reads a number at `i`: an optional minus, an integer part without leading zeros, an
optional fraction and an optional exponent. -/
def readNumber (i : Nat) : Reading (Value × Nat) := do
  let neg := at? s i == some '-'
  let j := if neg then i + 1 else i
  let intPart ← match at? s j with
    | some '0' => pure ['0']
    | some c => if '1' ≤ c ∧ c ≤ '9' then pure (digitsFrom s j) else throw ⟨.expectingValue, i⟩
    | none => throw ⟨.expectingValue, i⟩
  let k := j + intPart.length
  let frac := if at? s k == some '.' then digitsFrom s (k + 1) else []
  let k := if frac.isEmpty then k else k + 1 + frac.length
  let expPart : Option (Bool × List Char × Nat) :=
    match at? s k with
    | some 'e' | some 'E' =>
      let sgn := at? s (k + 1)
      let (negExp, d0) := if sgn == some '-' then (true, k + 2)
        else if sgn == some '+' then (false, k + 2) else (false, k + 1)
      let ds := digitsFrom s d0
      if ds.isEmpty then none else some (negExp, ds, d0 + ds.length)
    | _ => none
  let natOf (cs : List Char) : Nat := cs.foldl (fun n c => n * 10 + (c.toNat - 48)) 0
  match expPart, frac with
  | none, [] =>
    if intPart.length > maxIntDigits then
      throw ⟨.tooManyDigits intPart.length, i⟩
    else
      let n : Int := natOf intPart
      pure (.int (if neg then -n else n), k)
  | _, _ =>
    let mant := natOf (intPart ++ frac)
    let e0 : Int := -(frac.length : Int)
    let (e, stop) := match expPart with
      | some (negExp, ds, stop) => (e0 + (if negExp then -(natOf ds : Int) else natOf ds), stop)
      | none => (e0, k)
    let digitsLen := (Nat.toDigits 10 mant).length
    let f := if mant == 0 then (if neg then -0.0 else 0.0)
      else if e + digitsLen > 330 then (if neg then -Number.infinity else Number.infinity)
      else if e + digitsLen < -345 then (if neg then -0.0 else 0.0)
      else Number.floatOfDecimal neg mant e
    pure (.float f, stop)

def matchWord (i : Nat) (w : String) : Bool :=
  (s.extract i (i + w.length)).toList == w.toList

mutual
/-- Reads one value at offset `i`. -/
def readValue : Nat → Nat → Reading (Value × Nat)
  | 0, i => throw ⟨.expectingValue, i⟩
  | fuel + 1, i =>
    match at? s i with
    | some '"' => do
      let (t, j) ← readString s i (s.size + 1) (i + 1) []
      pure (.str t, j)
    | some '{' => readObject fuel (skipBlank s (i + 1))
    | some '[' => readArray fuel (skipBlank s (i + 1))
    | some 'n' => if matchWord s i "null" then pure (.none, i + 4) else throw ⟨.expectingValue, i⟩
    | some 't' => if matchWord s i "true" then pure (.bool true, i + 4) else throw ⟨.expectingValue, i⟩
    | some 'f' => if matchWord s i "false" then pure (.bool false, i + 5) else throw ⟨.expectingValue, i⟩
    | some 'N' => if matchWord s i "NaN" then pure (.float Number.notANumber, i + 3) else throw ⟨.expectingValue, i⟩
    | some 'I' =>
      if matchWord s i "Infinity" then pure (.float Number.infinity, i + 8) else throw ⟨.expectingValue, i⟩
    | some '-' =>
      if matchWord s i "-Infinity" then pure (.float (-Number.infinity), i + 9) else readNumber s i
    | some _ => readNumber s i
    | none => throw ⟨.expectingValue, i⟩

/-- Reads an object's members from `i`, just after the brace and any blanks. -/
def readObject : Nat → Nat → Reading (Value × Nat)
  | 0, i => throw ⟨.expectingName, i⟩
  | fuel + 1, i =>
    if at? s i == some '}' then pure (Value.dict [], i + 1)
    else do
      let (es, j) ← readMembers fuel i []
      pure (Value.dict es, j)

def readMembers : Nat → Nat → List (Value × Value) → Reading (List (Value × Value) × Nat)
  | 0, i, _ => throw ⟨.expectingName, i⟩
  | fuel + 1, i, acc => do
    if at? s i != some '"' then throw ⟨.expectingName, i⟩
    let (key, j) ← readString s i (s.size + 1) (i + 1) []
    let j := skipBlank s j
    if at? s j != some ':' then throw ⟨.expectingColon, j⟩
    let (v, k) ← readValue fuel (skipBlank s (j + 1))
    let acc := insertEntry (.str key) v acc
    let k := skipBlank s k
    match at? s k with
    | some '}' => pure (acc, k + 1)
    | some ',' => readMembers fuel (skipBlank s (k + 1)) acc
    | _ => throw ⟨.expectingComma, k⟩

/-- Reads an array's items from `i`, just after the bracket and any blanks. -/
def readArray : Nat → Nat → Reading (Value × Nat)
  | 0, i => throw ⟨.expectingValue, i⟩
  | fuel + 1, i =>
    if at? s i == some ']' then pure (.list [], i + 1)
    else do
      let (xs, j) ← readItems fuel i []
      pure (.list xs, j)

def readItems : Nat → Nat → List Value → Reading (List Value × Nat)
  | 0, i, _ => throw ⟨.expectingValue, i⟩
  | fuel + 1, i, acc => do
    let (v, k) ← readValue fuel i
    let k := skipBlank s k
    match at? s k with
    | some ']' => pure ((v :: acc).reverse, k + 1)
    | some ',' => readItems fuel (skipBlank s (k + 1)) (v :: acc)
    | _ => throw ⟨.expectingComma, k⟩
end

end

/-- Reads a whole JSON text: one value with blanks around it and nothing else. -/
def parse (text : String) : Outcome Value :=
  let s := text.toList.toArray
  let fail (f : Fault) : Outcome Value :=
    match f.problem with
    | .tooManyDigits _ => throw (Failure.badValue f.problem.text)
    | p => throw (Failure.make .jsonDecode (problemMessage s p f.pos))
  if s[0]? == some '\uFEFF' then fail ⟨.byteOrderMark, 0⟩
  else
    match readValue s (2 * s.size + 2) (skipBlank s 0) with
    | .error f => fail f
    | .ok (v, i) =>
      let j := skipBlank s i
      if j != s.size then fail ⟨.extraData, j⟩ else pure v

end Dashwright.Json
