import Dashwright.Template.Methods
import Dashwright.Value.Sort

/-!
The pretty-printed form of a value, eighty characters wide, as the `pprint` filter writes it.

A value whose literal fits in the room left on its line is written as its literal, with the
keys of every mapping in sorted order. A list, tuple, set or mapping that does not fit puts
each item on a line of its own, indented one past the opening bracket (a mapping's values
after their keys); a text that does not fit is cut into literals of whole lines, and of words
with the spaces after them within a line, one literal a line, in parentheses at the top level.
The last item of a container leaves room for the closing brackets after it.
-/

namespace Dashwright.Template

/-- The order of a mapping's keys: by `<` where they compare, else by the names of their
types. -/
def prettyKeyLess (a b : Value) : Outcome Bool :=
  match Value.compareWith .lt a b with
  | .ok r => pure r
  | .error _ => pure (decide (("<class '" ++ a.typeName ++ "'>") < ("<class '" ++ b.typeName ++ "'>")))

def sortedEntries (es : List (Value × Value)) : List (Value × Value) :=
  match Value.sortWith (fun x y => prettyKeyLess x.1 y.1) es with
  | .ok sorted => sorted
  | .error _ => es

mutual

/-- The literal of a value with the keys of plain mappings sorted. -/
def prettyLiteral : Nat → Value → String
  | 0, v => v.repr
  | f + 1, v =>
    match v with
    | .list xs => "[" ++ ", ".intercalate (xs.map (prettyLiteral f)) ++ "]"
    | .tuple [x] => "(" ++ prettyLiteral f x ++ ",)"
    | .tuple xs => "(" ++ ", ".intercalate (xs.map (prettyLiteral f)) ++ ")"
    | .map es Option.none =>
      "\x7b" ++ ", ".intercalate ((sortedEntries es).map fun (k, x) =>
        prettyLiteral f k ++ ": " ++ prettyLiteral f x) ++ "\x7d"
    | _ => v.repr

end

/-- The parts of a line: runs of non-space characters, each with the spaces after it. -/
def wordParts (line : String) : List String :=
  let step (acc : List (List Char) × Bool) (c : Char) : List (List Char) × Bool :=
    let (parts, inSpace) := acc
    match parts with
    | cur :: rest =>
      if Text.isSpace c then ((c :: cur) :: rest, true)
      else if inSpace then ([c] :: parts, false)
      else ((c :: cur) :: rest, false)
    | [] => ([[c]], Text.isSpace c)
  ((line.toList.foldl step ([], false)).1.map fun cs => String.ofList cs.reverse).reverse

/-- Cuts a line too long for its room into literals of word parts. -/
def cutLine (parts : List String) (maxWidth allowance : Int) (lastLine : Bool) : List String :=
  let n := parts.length
  let (chunks, current) := parts.zipIdx.foldl (fun (acc : List String × String) (part, j) =>
    let (chunks, current) := acc
    let candidate := current ++ part
    let room := if j + 1 == n && lastLine then maxWidth - allowance else maxWidth
    if ((quoteText candidate).length : Int) > room then
      (if current.isEmpty then chunks else chunks ++ [quoteText current], part)
    else (chunks, candidate)) ([], "")
  if current.isEmpty then chunks else chunks ++ [quoteText current]

/-- A text too long for its room: literals of its lines, long lines cut at words. -/
def prettyText (s : String) (indent allowance : Nat) (level : Nat) : String :=
  if s.isEmpty then quoteText s
  else
    let (indent, allowance) := if level == 1 then (indent + 1, allowance + 1) else (indent, allowance)
    let maxWidth : Int := 80 - indent
    let lines := splitLinesKeeping s true
    let n := lines.length
    let chunks := lines.zipIdx.foldl (fun (acc : List String) (line, i) =>
      let rep := quoteText line
      let room := if i + 1 == n then maxWidth - allowance else maxWidth
      if (rep.length : Int) ≤ room then acc ++ [rep]
      else acc ++ cutLine (wordParts line) maxWidth allowance (i + 1 == n)) []
    match chunks with
    | [_] => quoteText (lines.getLastD s)
    | _ =>
      let body := ("\n" ++ String.ofList (List.replicate indent ' ')).intercalate chunks
      if level == 1 then "(" ++ body ++ ")" else body

mutual

/-- Writes a value starting at an indent, leaving an allowance after its last line, at a
nesting level. -/
def prettyFormat : Nat → Value → Nat → Nat → Nat → String
  | 0, v, _, _, _ => v.repr
  | f + 1, v, indent, allowance, level =>
    let rep := prettyLiteral 10000 v
    if (rep.length : Int) ≤ (80 : Int) - indent - allowance then rep
    else
      match v with
      | .list xs => "[" ++ prettyItems f xs (indent + 1) (allowance + 1) (level + 1) ++ "]"
      | .tuple xs =>
        let closing := if xs.length == 1 then ",)" else ")"
        "(" ++ prettyItems f xs (indent + 1) (allowance + closing.length) (level + 1) ++ closing
      | .set [] => rep
      | .set xs =>
        let sorted := match Value.sortWith prettyKeyLess xs with
          | .ok s => s
          | .error _ => xs
        "\x7b" ++ prettyItems f sorted (indent + 1) (allowance + 1) (level + 1) ++ "\x7d"
      | .map [] Option.none => rep
      | .map es Option.none =>
        "\x7b" ++ prettyEntries f (sortedEntries es) (indent + 1) (allowance + 1) (level + 1) ++ "\x7d"
      | .str s => prettyText s indent allowance (level + 1)
      | _ => rep

/-- The items of a container, one a line at an indent; the last leaves the allowance. -/
def prettyItems : Nat → List Value → Nat → Nat → Nat → String
  | 0, _, _, _, _ => ""
  | _, [], _, _, _ => ""
  | f + 1, [x], indent, allowance, level => prettyFormat f x indent allowance level
  | f + 1, x :: rest, indent, allowance, level =>
    prettyFormat f x indent 1 level ++ ",\n" ++ String.ofList (List.replicate indent ' ') ++
      prettyItems f rest indent allowance level

/-- The entries of a mapping, one a line at an indent, each value after its key. -/
def prettyEntries : Nat → List (Value × Value) → Nat → Nat → Nat → String
  | 0, _, _, _, _ => ""
  | _, [], _, _, _ => ""
  | f + 1, (k, x) :: rest, indent, allowance, level =>
    let key := prettyLiteral 10000 k
    let last := rest.isEmpty
    let head := key ++ ": " ++ prettyFormat f x (indent + key.length + 2) (if last then allowance else 1) level
    if last then head
    else head ++ ",\n" ++ String.ofList (List.replicate indent ' ') ++ prettyEntries f rest indent allowance level

end

def prettyPrint (v : Value) : String := prettyFormat 10000 v 0 0 0

end Dashwright.Template
