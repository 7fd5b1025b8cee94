/-!
Packed numbers: a list of naturals stored as printable text. A number is a run of digits, most
significant first, in base 44: a digit of the first alphabet says that more digits follow, a
digit of the second ends the number. The two alphabets are the printable ASCII characters
other than the quote, the backslash, the braces and `@`, in order, so that packed text needs
no escapes in a string literal.
-/

namespace Dashwright.Text

/-- The digit characters of packed numbers, in order. -/
def packedDigits : List Char :=
  ((List.range 94).map fun i => Char.ofNat (33 + i)).filter fun c => !"\"\\\x7b\x7d@".contains c

/-- What a character is as a digit: whether more digits follow, and its value. -/
def digitTable : Array (Option (Bool × Nat)) := Id.run do
  let mut table : Array (Option (Bool × Nat)) := Array.replicate 128 none
  for (c, i) in packedDigits.zipIdx do
    if i < 44 then table := table.set! c.toNat (some (true, i))
    else if i < 88 then table := table.set! c.toNat (some (false, i - 44))
  return table

/-- Reads a number starting at a position: its value and the position after it. -/
def readNumber (cs : Array Char) (start : Nat) : Option (Nat × Nat) := Id.run do
  let mut v := 0
  for i in [start:cs.size] do
    match digitTable[cs[i]!.toNat]?.join with
    | some (true, d) => v := v * 44 + d
    | some (false, d) => return some (v * 44 + d, i + 1)
    | none => return none
  return none

/-- All numbers of a packed text, in order; reading stops at the first character that is not
a digit. -/
def readPackedNumbers (packed : String) : Array Nat := Id.run do
  let cs := packed.toList.toArray
  let mut out : Array Nat := #[]
  let mut i := 0
  for _ in [0:cs.size] do
    if i ≥ cs.size then break
    match readNumber cs i with
    | some (v, j) =>
      out := out.push v
      i := j
    | none => break
  return out

end Dashwright.Text
