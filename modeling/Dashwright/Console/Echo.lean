import Dashwright.Value.Text

/-!
Writing messages to a console that is not a terminal: every message goes out on a line of its
own, as text, with terminal styling codes removed. A missing message is an empty line.

The console logger writes every kind of message this way. There is one logger; asking for a
new one instead of the shared instance is refused.
-/

namespace Dashwright.Console

/-- Removes terminal styling codes: an escape, `[`, digits, `;` or `?`, and a letter. -/
def stripStyling (s : String) : String := Id.run do
  let cs := s.toList.toArray
  let n := cs.size
  let mut out : Array Char := #[]
  let mut i := 0
  for _ in [0:n] do
    if i ≥ n then break
    if cs[i]! == '\x1b' && cs[i + 1]? == some '[' then
      let mut j := i + 2
      for _ in [i + 2:n] do
        let c := cs[j]!
        if c.isDigit || c == ';' || c == '?' then j := j + 1 else break
      if (cs[j]?.map Char.isAlpha).getD false then
        i := j + 1
        continue
    out := out.push cs[i]!
    i := i + 1
  return String.ofList out.toList

def echo (message : Value) : String :=
  match message with
  | .none => "\n"
  | v => stripStyling v.text ++ "\n"

def loggerCalls : List String := ["debug", "info", "success", "error"]

def singletonRefusal : Failure := Failure.wrongType "Singletons must be accessed through `instance()`."

end Dashwright.Console
