import Dashwright.Template.Term

/-!
Attribute access and subscripts in templates. `x.name` is first an attribute of `x` (a method
of a text, list or mapping, a property of a number), then the item of `x` under the key
`name`; `x[key]` is first the item, then, for a text key, the attribute. When both fail the
result is a missing value that remembers what was asked of which object, so printing it gives
nothing and using it fails with that message.

Subscripts of texts, lists and tuples take integers counted from either end, and slices.
-/

namespace Dashwright.Template

def textMethods : List String :=
  ["capitalize", "casefold", "center", "count", "encode", "endswith", "expandtabs", "find",
   "format", "format_map", "index", "isalnum", "isalpha", "isascii", "isdecimal", "isdigit",
   "isidentifier", "islower", "isnumeric", "isprintable", "isspace", "istitle", "isupper",
   "join", "ljust", "lower", "lstrip", "maketrans", "partition", "removeprefix",
   "removesuffix", "replace", "rfind", "rindex", "rjust", "rpartition", "rsplit", "rstrip",
   "split", "splitlines", "startswith", "strip", "swapcase", "title", "translate", "upper",
   "zfill"]

def listMethods : List String :=
  ["append", "clear", "copy", "count", "extend", "index", "insert", "pop", "remove", "reverse",
   "sort"]

def mapMethods : List String :=
  ["clear", "copy", "fromkeys", "get", "items", "keys", "pop", "popitem", "setdefault",
   "update", "values"]

def setMethods : List String :=
  ["add", "clear", "copy", "difference", "difference_update", "discard", "intersection",
   "intersection_update", "isdisjoint", "issubset", "issuperset", "pop", "remove",
   "symmetric_difference", "symmetric_difference_update", "union", "update"]

def integerMethods : List String :=
  ["as_integer_ratio", "bit_count", "bit_length", "conjugate", "from_bytes", "to_bytes"]

def floatMethods : List String :=
  ["as_integer_ratio", "conjugate", "fromhex", "hex", "is_integer"]

/-- The methods of a value's type, besides the length of a sized value. -/
def typeMethods : Value → List String
  | .str _ => textMethods
  | .list _ => listMethods
  | .map _ _ => mapMethods
  | .tuple _ => ["count", "index"]
  | .set _ => setMethods
  | .int _ | .bool _ => integerMethods
  | .float _ => floatMethods
  | .range _ _ _ => ["count", "index"]
  | .complex _ _ => ["conjugate"]
  | _ => []

def methodsOf (v : Value) : List String :=
  match v with
  | .str _ | .list _ | .map _ _ | .tuple _ | .set _ | .range _ _ _ | .bytes _ => typeMethods v ++ ["__len__"]
  | _ => typeMethods v

def className (n : String) : String :=
  match n with
  | "namespace" => "Namespace"
  | "cycler" => "Cycler"
  | "joiner" => "Joiner"
  | _ => n

def propertyOf (v : Value) (name : String) : Option Value :=
  match v, name with
  | .int i, "real" | .int i, "numerator" => some (.int i)
  | .int _, "imag" => some (.int 0)
  | .int _, "denominator" => some (.int 1)
  | .bool b, "real" | .bool b, "numerator" => some (.int (if b then 1 else 0))
  | .bool _, "imag" => some (.int 0)
  | .bool _, "denominator" => some (.int 1)
  | .float f, "real" => some (.float f)
  | .float _, "imag" => some (.float 0.0)
  | .complex re _, "real" => some (.float re)
  | .complex _ im, "imag" => some (.float im)
  | .range a _ _, "start" => some (.int a)
  | .range _ b _, "stop" => some (.int b)
  | .range _ _ s, "step" => some (.int s)
  | .classObject n, "__name__" | .classObject n, "__qualname__" => some (.str (className n))
  | v, "__class__" => some (.classObject v.typeName)
  | .date d, "year" => some (.int d.year)
  | .date d, "month" => some (.int d.month)
  | .date d, "day" => some (.int d.day)
  | .moment m, "year" => some (.int m.date.year)
  | .moment m, "month" => some (.int m.date.month)
  | .moment m, "day" => some (.int m.date.day)
  | .moment m, "hour" => some (.int m.hour)
  | .moment m, "minute" => some (.int m.minute)
  | .moment m, "second" => some (.int m.second)
  | .moment m, "microsecond" => some (.int m.micro)
  | _, _ => none

/-- The attribute of a value proper, without the fallback to its items. -/
def valueAttribute? (v : Value) (name : String) : Option Term :=
  if (methodsOf v).contains name then some (.method v name)
  else (propertyOf v name).map Term.value

def loopAttribute? (info : LoopInfo) (name : String) : Option Term :=
  let n := info.items.length
  let i := info.index0
  match name with
  | "index" => some (.value (.int (i + 1)))
  | "index0" => some (.value (.int i))
  | "revindex" => some (.value (.int (n - i)))
  | "revindex0" => some (.value (.int (n - i - 1)))
  | "first" => some (.value (.bool (i == 0)))
  | "last" => some (.value (.bool (i + 1 == n)))
  | "length" => some (.value (.int n))
  | "depth" => some (.value (.int (info.depth0 + 1)))
  | "depth0" => some (.value (.int info.depth0))
  | "previtem" =>
    some (if i == 0 then .missing (.hint "there is no previous item")
      else .value (info.items.getD (i - 1) .none))
  | "nextitem" =>
    some (if i + 1 ≥ n then .missing (.hint "there is no next item")
      else .value (info.items.getD (i + 1) .none))
  | "cycle" | "changed" => some (.loopMethod info name)
  | _ => none

/-- A position in a sequence of `n` items, counted from the end when negative. -/
def indexIn (n : Nat) (i : Int) : Option Nat :=
  let j := if i < 0 then i + n else i
  if 0 ≤ j ∧ j < n then some j.toNat else none

def indexValue? : Value → Option Int
  | .int i => some i
  | .bool b => some (if b then 1 else 0)
  | _ => none

/-- The item of a value under a key, when the value has it. -/
def valueItem? (v : Value) (key : Value) : Option Value :=
  match v with
  | .map es _ => if key.hashable then lookupEntry key es else none
  | .list xs | .tuple xs => (indexValue? key).bind fun i => (indexIn xs.length i).bind fun j => xs[j]?
  | .str s => (indexValue? key).bind fun i => (indexIn s.length i).bind fun j =>
      (s.toList[j]?).map fun c => .str (String.singleton c)
  | .bytes bs => (indexValue? key).bind fun i => (indexIn bs.length i).bind fun j =>
      (bs[j]?).map fun b => .int b.toNat
  | _ => none

/-- `x.name` on a term other than a namespace: the attribute, else the item under the text key,
else a missing value. -/
def Term.attribute (t : Term) (name : String) : Outcome Term :=
  match t with
  | .missing m => throw m.failure
  | .value v =>
    match valueAttribute? v name with
    | some a => pure a
    | none =>
      match valueItem? v (.str name) with
      | some x => pure (.value x)
      | none => pure (.missing (.attribute (objectKind v) name))
  | .loop info =>
    match loopAttribute? info name with
    | some a => pure a
    | none => pure (.missing (.attribute t.ownerKind name))
  | _ => pure (.missing (.attribute t.ownerKind name))

/-- The bounds of a slice over `n` items: the positions it takes, in order. -/
def slicePositions (n : Nat) (start stop : Option Int) (step : Int) : List Nat :=
  let len : Int := n
  let adjust (x : Int) : Int :=
    if x < 0 then (let y := x + len; if y < 0 then (if step < 0 then -1 else 0) else y)
    else if x ≥ len then (if step < 0 then len - 1 else len) else x
  let a := match start with
    | some x => adjust x
    | none => if step < 0 then len - 1 else 0
  let b := match stop with
    | some x => adjust x
    | none => if step < 0 then -1 else len
  let count : Nat :=
    if step < 0 then (if b < a then ((a - b - 1) / (-step) + 1).toNat else 0)
    else (if a < b then ((b - a - 1) / step + 1).toNat else 0)
  (List.range count).map fun (k : Nat) => (a + step * (k : Int)).toNat

/-- The start, stop and step that a slice selects over `n` items, each bound clamped to the
items as slices of sequences clamp them. -/
def sliceIndices (n : Nat) (start stop : Option Int) (step : Int) : Int × Int × Int :=
  let len : Int := n
  let (lower, upper) : Int × Int := if step < 0 then (-1, len - 1) else (0, len)
  let clamp (x : Int) : Int :=
    let y := if x < 0 then x + len else x
    if y < lower then lower else if y > upper then upper else y
  let a := match start with
    | some x => clamp x
    | none => if step < 0 then upper else lower
  let b := match stop with
    | some x => clamp x
    | none => if step < 0 then lower else upper
  (a, b, step)

def sliceLiteral (a b c : Value) : String :=
  "slice(" ++ a.repr ++ ", " ++ b.repr ++ ", " ++ c.repr ++ ")"

/-- A slice bound: an integer or nothing. -/
def sliceBound? : Value → Option (Option Int)
  | .none => some none
  | .int i => some (some i)
  | .bool b => some (some (if b then 1 else 0))
  | _ => none

/-- `x[a:b:c]`: the items of a text, list, tuple or range at the slice's positions. -/
def Term.slice (t : Term) (a b c : Value) : Outcome Term := do
  let missing : Term := .missing (.element t.ownerKind (sliceLiteral a b c))
  match t with
  | .missing m => throw m.failure
  | _ => pure ()
  match sliceBound? a, sliceBound? b, sliceBound? c with
  | some start, some stop, some step =>
    let step := step.getD 1
    if step == 0 then throw (Failure.badValue "slice step cannot be zero")
    match t with
    | .value (.str s) =>
      let cs := s.toList
      pure (.value (.str (String.ofList ((slicePositions cs.length start stop step).filterMap (cs[·]?)))))
    | .value (.list xs) => pure (.value (.list ((slicePositions xs.length start stop step).filterMap (xs[·]?))))
    | .value (.tuple xs) => pure (.value (.tuple ((slicePositions xs.length start stop step).filterMap (xs[·]?))))
    | .value (.bytes bs) => pure (.value (.bytes ((slicePositions bs.length start stop step).filterMap (bs[·]?))))
    | .value (.range r0 r1 rs) =>
      let (i, j, k) := sliceIndices (Value.rangeItems r0 r1 rs).length start stop step
      pure (.value (.range (r0 + i * rs) (r0 + j * rs) (k * rs)))
    | _ => pure missing
  | _, _, _ => pure missing

/-- `x[key]` on a term other than a namespace: the item, else for a text key the attribute,
else a missing value. -/
def Term.subscript (t : Term) (key : Value) : Outcome Term :=
  let fallback : Outcome Term :=
    match key with
    | .str name =>
      match t with
      | .value v =>
        match valueAttribute? v name with
        | some a => pure a
        | none => pure (.missing (.attribute t.ownerKind name))
      | _ => t.attribute name
    | _ => pure (.missing (.element t.ownerKind key.repr))
  match t with
  | .missing m => throw m.failure
  | .value (.range a b s) =>
    match indexValue? key with
    | some i =>
      let items := Value.rangeItems a b s
      match indexIn items.length i with
      | some j => pure (.value (.int (items.getD j 0)))
      | none => pure (.missing (.element t.ownerKind key.repr))
    | none => fallback
  | .value v =>
    match valueItem? v key with
    | some x => pure (.value x)
    | none => fallback
  | _ => fallback

end Dashwright.Template
