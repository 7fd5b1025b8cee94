import Dashwright.Text.Packed

/-!
Packed text: a text stored as runs of characters and references back into what is already
unpacked, so that a stretch repeated anywhere later is stored once.

A reference is `@`, then how far back the copy starts less one, then how many characters it
copies less five, both packed numbers; `@@` stands for a plain `@`.

Before packing, the quote, the backslash and the two braces were exchanged with `K`, `Q`, `!`
and `&`, which are rare in the packed texts, so that the stored text needs few escapes;
unpacking exchanges them back.

A copy may overlap the characters it produces, since it reads them one at a time.
-/

namespace Dashwright.Reference

/-- Undoes the exchange of the four characters that string literals escape. -/
def exchange (c : Char) : Char :=
  match c with
  | '"' => 'K' | 'K' => '"'
  | '\\' => 'Q' | 'Q' => '\\'
  | '\x7b' => '!' | '!' => '\x7b'
  | '\x7d' => '&' | '&' => '\x7d'
  | c => c

/-- The text a packed text stands for. Unpacking stops at the first malformed reference. -/
def unpack (packed : String) : String := Id.run do
  let cs := packed.toList.toArray
  let mut out : Array Char := Array.mkEmpty (cs.size * 20)
  let mut i := 0
  for _ in [0:cs.size] do
    if i ≥ cs.size then break
    let c := cs[i]!
    if c != '@' then
      out := out.push c
      i := i + 1
    else if cs[i + 1]? == some '@' then
      out := out.push '@'
      i := i + 2
    else
      match Text.readNumber cs (i + 1) with
      | none => break
      | some (back, j) =>
        match Text.readNumber cs j with
        | none => break
        | some (count, k) =>
          let origin := out.size - (back + 1)
          for t in [0:count + 5] do
            out := out.push out[origin + t]!
          i := k
  return String.ofList (out.toList.map exchange)

end Dashwright.Reference
