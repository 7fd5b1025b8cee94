import Dashwright.Value.Text

/-!
Access to the parts of a value: iteration, size, and subscript by key or index.
-/

namespace Dashwright.Value

/-- The items that iterating over a value yields: the items of a sequence or set, the keys of
a mapping, the characters of a text, the numbers of bytes. -/
def iterate : Value → Outcome (List Value)
  | .list xs | .tuple xs | .set xs => pure xs
  | .map es _ => pure (es.map Prod.fst)
  | .str s => pure (s.toList.map fun c => .str (String.singleton c))
  | .bytes bs => pure (bs.map fun b => .int b.toNat)
  | .range a b s => pure ((rangeItems a b s).map Value.int)
  | v => throw (Failure.wrongType ("'" ++ v.typeName ++ "' object is not iterable"))

def size : Value → Outcome Nat
  | .list xs | .tuple xs | .set xs => pure xs.length
  | .map es _ => pure es.length
  | .str s => pure s.length
  | .bytes bs => pure bs.length
  | .range a b s => pure (rangeItems a b s).length
  | v => throw (Failure.wrongType ("object of type '" ++ v.typeName ++ "' has no len()"))

/-- Looks up a key of a mapping or an item of a sequence by subscript, as attribute access
falls back to: a missing key gives no value. -/
def item? (owner : Value) (key : Value) : Option Value :=
  match owner, key with
  | .map es _, k => lookupEntry k es
  | .list xs, .int i | .tuple xs, .int i =>
    let n : Int := xs.length
    let j := if i < 0 then i + n else i
    if 0 ≤ j ∧ j < n then xs[j.toNat]? else none
  | .range a b st, .int i =>
    let xs := rangeItems a b st
    let n : Int := xs.length
    let j := if i < 0 then i + n else i
    if 0 ≤ j ∧ j < n then (xs[j.toNat]?).map Value.int else none
  | .str s, .int i =>
    let n : Int := s.length
    let j := if i < 0 then i + n else i
    if 0 ≤ j ∧ j < n then (s.toList[j.toNat]?).map fun c => .str (String.singleton c) else none
  | _, _ => none

end Dashwright.Value

namespace Dashwright.Value

/-- A value as a list of items: a text is one item, a list is itself, a null is one null. -/
def asItems : Value → Outcome (List Value)
  | .str s => pure [.str s]
  | .list xs => pure xs
  | .none => pure [.none]
  | _ => throw (Failure.badValue "Passed object that was neither a string, list or None")

def raiseIf (condition : Value) (message : Value) : Outcome Unit :=
  if condition.truthy then throw (Failure.make .raised message.text) else pure ()

end Dashwright.Value

namespace Dashwright.Value

/-- The unhashable-key failure for a value used as a key. -/
def unhashable (v : Value) : Failure := Failure.wrongType ("unhashable type: '" ++ v.typeName ++ "'")

/-- The entries of a mapping built from a value: a mapping's own entries, or the pairs that
iterating over the value yields, later keys overriding earlier ones. -/
def toDict (v : Value) : Outcome (List (Value × Value)) := do
  match v with
  | .map es _ => pure es
  | _ =>
    let items ← v.iterate
    let mut acc : List (Value × Value) := []
    for (item, i) in items.zipIdx do
      let parts ← match item.iterate with
        | .ok ps => pure ps
        | .error _ => throw (Failure.wrongType ("cannot convert dictionary update sequence element #" ++
            toString i ++ " to a sequence"))
      match parts with
      | [k, x] =>
        if !k.hashable then throw (unhashable k)
        acc := insertEntry k x acc
      | _ => throw (Failure.badValue ("dictionary update sequence element #" ++ toString i ++
          " has length " ++ toString parts.length ++ "; 2 is required"))
    pure acc

end Dashwright.Value
