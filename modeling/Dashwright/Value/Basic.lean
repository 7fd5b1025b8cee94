import Dashwright.Time.Civil
import Dashwright.Number.Text

/-!
Dynamic values: what YAML and JSON documents, templates and schemas carry. Mappings keep
their entries in insertion order. A mapping loaded from a YAML text also records, per key,
where its key and its value stood (`Value.map` with `some` locations); other mappings record
nothing. A container reached again inside itself is a `cycle` mark.

Equality is the one the data formats agree on: booleans, integers and doubles compare as
numbers, containers compare item by item, and mappings compare as sets of entries.
-/

namespace Dashwright

inductive Value where
  | none
  | bool (b : Bool)
  | int (i : Int)
  | float (f : Float)
  | str (s : String)
  | bytes (b : List UInt8)
  | date (d : Date)
  | moment (m : Moment)
  | list (items : List Value)
  | tuple (items : List Value)
  | set (items : List Value)
  /-- A mapping; a loaded one lists, per key, where its key and its value stood. -/
  | map (entries : List (Value × Value)) (locs : Option (List (Value × String × String)))
  | cycle (ofMapping : Bool)
  /-- The integers from `start` toward `stop` by `step`, as one object. -/
  | range (start stop step : Int)
  /-- A complex number. -/
  | complex (re im : Float)
  /-- A class, as an object, by the name it is written with. -/
  | classObject (name : String)
deriving Inhabited

namespace Value

def rangeItems (start stop step : Int) : List Int :=
  if step == 0 then []
  else
    let count : Nat :=
      if step > 0 then (if stop > start then ((stop - start + step - 1) / step).toNat else 0)
      else (if start > stop then ((start - stop + (-step) - 1) / (-step)).toNat else 0)
    (List.range count).map fun (i : Nat) => start + step * (i : Int)

/-- A plain mapping, with no record of positions. -/
def dict (entries : List (Value × Value)) : Value := .map entries Option.none

def record (entries : List (String × Value)) : Value :=
  .map (entries.map fun (k, v) => (.str k, v)) Option.none

/-- The name of a value's kind, as the error texts of the data formats spell it. -/
def typeName : Value → String
  | .none => "NoneType"
  | .bool _ => "bool"
  | .int _ => "int"
  | .float _ => "float"
  | .str _ => "str"
  | .bytes _ => "bytes"
  | .date _ => "date"
  | .moment _ => "datetime"
  | .list _ => "list"
  | .tuple _ => "tuple"
  | .set _ => "set"
  | .map _ Option.none => "dict"
  | .map _ (some _) => "YamlOrderedDict"
  | .cycle true => "dict"
  | .cycle false => "list"
  | .range _ _ _ => "range"
  | .complex _ _ => "complex"
  | .classObject _ => "type"

/-- Whether a value counts as true in a condition: non-zero numbers and non-empty texts and
containers. -/
def truthy : Value → Bool
  | .none => false
  | .bool b => b
  | .int i => i != 0
  | .float f => f != 0
  | .str s => !s.isEmpty
  | .bytes b => !b.isEmpty
  | .date _ => true
  | .moment _ => true
  | .list xs => !xs.isEmpty
  | .tuple xs => !xs.isEmpty
  | .set xs => !xs.isEmpty
  | .map es _ => !es.isEmpty
  | .cycle _ => true
  | .range a b s => !(rangeItems a b s).isEmpty
  | .complex re im => re != 0 || im != 0
  | .classObject _ => true

/-- Whether a value can be a mapping key or a set member. -/
def hashable : Value → Bool
  | .list _ | .set _ | .map _ _ | .cycle _ => false
  | .tuple xs => xs.all fun x => match x with
    | .list _ | .set _ | .map _ _ | .cycle _ => false
    | _ => true
  | _ => true

/-- The numeric reading of booleans, integers and doubles. -/
inductive Numeric where
  | int (i : Int)
  | float (f : Float)

def numeric? : Value → Option Numeric
  | .bool b => some (.int (if b then 1 else 0))
  | .int i => some (.int i)
  | .float f => some (.float f)
  | _ => Option.none

def Numeric.equal : Numeric → Numeric → Bool
  | .int a, .int b => a == b
  | .float a, .float b => a == b
  | .int a, .float b => !b.isNaN && !b.isInf && Number.compareIntFloat a b == .eq
  | .float a, .int b => !a.isNaN && !a.isInf && Number.compareIntFloat b a == .eq

/-- The instant of an aware moment in microseconds, or its wall clock when it has no offset. -/
def momentKey (m : Moment) : Int :=
  (m.wallSeconds - m.offset.getD 0) * 1000000 + m.micro

mutual
def equal : Value → Value → Bool
  | .none, .none => true
  | .str a, .str b => a == b
  | .bytes a, .bytes b => a == b
  | .date a, .date b => a == b
  | .moment a, .moment b => a.offset.isSome == b.offset.isSome && momentKey a == momentKey b
  | .list a, .list b => equalItems a b
  | .tuple a, .tuple b => equalItems a b
  | .set a, .set b => a.length == b.length && subsetOf a b
  | .map a _, .map b _ => a.length == b.length && entriesWithin a b
  | .bool a, .bool b => a == b
  | .int a, .int b => a == b
  | .bool a, .int b => (if a then 1 else 0) == b
  | .int a, .bool b => a == (if b then 1 else 0)
  | .float a, .float b => a == b
  | .float a, .int b => Numeric.equal (.float a) (.int b)
  | .int a, .float b => Numeric.equal (.int a) (.float b)
  | .float a, .bool b => Numeric.equal (.float a) (.int (if b then 1 else 0))
  | .bool a, .float b => Numeric.equal (.int (if a then 1 else 0)) (.float b)
  | .range a b s, .range c d t => rangeItems a b s == rangeItems c d t
  | .complex a b, .complex c d => a == c && b == d
  | .complex a b, .int i | .int i, .complex a b => b == 0 && Numeric.equal (.float a) (.int i)
  | .complex a b, .float x | .float x, .complex a b => b == 0 && a == x
  | .complex a b, .bool x | .bool x, .complex a b =>
    b == 0 && Numeric.equal (.float a) (.int (if x then 1 else 0))
  | .classObject a, .classObject b => a == b
  | _, _ => false
termination_by a b => sizeOf a + sizeOf b

def equalItems : List Value → List Value → Bool
  | [], [] => true
  | x :: xs, y :: ys => equal x y && equalItems xs ys
  | _, _ => false
termination_by a b => sizeOf a + sizeOf b

/-- Every member of the first list equals some member of the second. -/
def subsetOf : List Value → List Value → Bool
  | [], _ => true
  | x :: xs, ys => memberOf x ys && subsetOf xs ys
termination_by a b => sizeOf a + sizeOf b

def memberOf (x : Value) : List Value → Bool
  | [] => false
  | y :: ys => equal x y || memberOf x ys
termination_by ys => sizeOf x + sizeOf ys

/-- Every entry of the first mapping is an entry of the second. -/
def entriesWithin : List (Value × Value) → List (Value × Value) → Bool
  | [], _ => true
  | (k, v) :: rest, other => entryIn k v other && entriesWithin rest other
termination_by a b => sizeOf a + sizeOf b

def entryIn (k v : Value) : List (Value × Value) → Bool
  | [] => false
  | (k2, v2) :: rest => (equal k k2 && equal v v2) || entryIn k v rest
termination_by es => sizeOf k + sizeOf v + sizeOf es
end

instance : BEq Value := ⟨equal⟩

end Value

/-- Looks a key up in a list of entries: the first entry whose key equals it. -/
def lookupEntry (k : Value) : List (Value × Value) → Option Value
  | [] => none
  | (k2, v) :: rest => if Value.equal k k2 then some v else lookupEntry k rest

/-- Sets a key: an equal key keeps its place and its own form and takes the new value;
a new key goes last. -/
def insertEntry (k v : Value) : List (Value × Value) → List (Value × Value)
  | [] => [(k, v)]
  | (k2, v2) :: rest => if Value.equal k k2 then (k2, v) :: rest else (k2, v2) :: insertEntry k v rest

/-- Builds a mapping's entries from pairs, later pairs overriding earlier ones. -/
def entriesOfPairs (pairs : List (Value × Value)) : List (Value × Value) :=
  pairs.foldl (fun acc (k, v) => insertEntry k v acc) []

namespace Value

def field? (v : Value) (key : String) : Option Value :=
  match v with
  | .map es _ => lookupEntry (.str key) es
  | _ => Option.none

end Value

end Dashwright
