import Dashwright.Template.Slot
import Dashwright.Value.Arith

/-!
What a template expression evaluates to. Most often a value; otherwise the mark of a missing
value, a function or method that can be called, a view of a mapping's
items, keys or values, a namespace object (whose attributes can be assigned), a macro, or the
loop object of an enclosing `for`.

A missing value prints as nothing, counts as false, has length zero and iterates as empty;
equality holds between two missing values only; any other use fails with the missing value's
message.
-/

namespace Dashwright.Template

/-- Which view of a mapping. -/
inductive ViewKind where
  | items
  | keys
  | values
deriving BEq, Inhabited

/-- A loop in progress: its position, all its items, how deep it is nested among recursive
loops, and whether it may be called to recurse. -/
structure LoopInfo where
  id : Nat
  index0 : Nat
  items : List Value
  depth0 : Nat
  recursive : Bool
deriving Inhabited

inductive Term where
  | value (v : Value)
  | missing (m : Missing)
  /-- a function or class of the template's globals or context, by name -/
  | function (name : String)
  /-- a method of a value, bound to it -/
  | method (owner : Value) (name : String)
  | view (kind : ViewKind) (entries : List (Value × Value))
  /-- a namespace object, by its place in the render's store -/
  | space (id : Nat)
  | routine (id : Nat) (name : String)
  | loop (info : LoopInfo)
  /-- a method of a loop object: `cycle`, `changed`, or a recursive call -/
  | loopMethod (info : LoopInfo) (name : String)
  /-- a joiner made by `joiner(sep)`, by its place in the render's store -/
  | joiner (id : Nat)
  /-- a cycler made by `cycler(items)`, by its place in the render's store -/
  | cycler (id : Nat)
  /-- a method of a cycler: `next` or `reset` -/
  | cyclerMethod (id : Nat) (name : String)
deriving Inhabited

/-- The classes among the globals: calling them builds a value. -/
def isClassName (n : String) : Bool :=
  n == "range" || n == "dict" || n == "namespace" || n == "cycler" || n == "joiner"

namespace Term

def viewItems (kind : ViewKind) (entries : List (Value × Value)) : List Value :=
  match kind with
  | .items => entries.map fun (k, v) => .tuple [k, v]
  | .keys => entries.map Prod.fst
  | .values => entries.map Prod.snd

def viewName : ViewKind → String
  | .items => "dict_items"
  | .keys => "dict_keys"
  | .values => "dict_values"

/-- The name of a term's type, as failures spell it. -/
def typeName : Term → String
  | .value v => v.typeName
  | .missing _ => "Undefined"
  | .function n => if isClassName n then "type" else "function"
  | .method _ _ => "builtin_function_or_method"
  | .view k _ => viewName k
  | .space _ => "Namespace"
  | .routine _ _ => "Macro"
  | .loop _ => "LoopContext"
  | .loopMethod _ _ => "method"
  | .joiner _ => "Joiner"
  | .cycler _ => "Cycler"
  | .cyclerMethod _ _ => "method"

/-- How an object is named in the message of a missing attribute or element. -/
def ownerKind : Term → String
  | .value v => objectKind v
  | .missing _ => "jinja2.runtime.Undefined object"
  | .function n => if isClassName n then "type object" else "function object"
  | .method _ _ => "builtin_function_or_method object"
  | .view k _ => viewName k ++ " object"
  | .space _ => "jinja2.utils.Namespace object"
  | .routine _ _ => "jinja2.runtime.Macro object"
  | .loop _ => "jinja2.runtime.LoopContext object"
  | .loopMethod _ _ => "method object"
  | .joiner _ => "jinja2.utils.Joiner object"
  | .cycler _ => "jinja2.utils.Cycler object"
  | .cyclerMethod _ _ => "method object"

def isDefined : Term → Bool
  | .missing _ => false
  | _ => true

def truthy : Term → Bool
  | .value v => v.truthy
  | .missing _ => false
  | .view _ es => !es.isEmpty
  | _ => true

def iterate : Term → Outcome (List Value)
  | .value v => v.iterate
  | .missing _ => pure []
  | .view k es => pure (viewItems k es)
  | .loop info => pure (info.items.drop (info.index0 + 1))
  | t => throw (Failure.wrongType ("'" ++ t.typeName ++ "' object is not iterable"))

def size : Term → Outcome Nat
  | .value v => v.size
  | .missing _ => pure 0
  | .view _ es => pure es.length
  | .loop info => pure info.items.length
  | t => throw (Failure.wrongType ("object of type '" ++ t.typeName ++ "' has no len()"))

/-- The term as a plain value, for storing in a container: a view becomes the list of its
items, a class the class object; other objects have no value. -/
def toValue : Term → Value
  | .value v => v
  | .view k es => .list (viewItems k es)
  | .function n => if isClassName n then .classObject n else .none
  | _ => .none

/-- The term's value, or the failure that using a missing value gives. -/
def get : Term → Outcome Value
  | .value v => pure v
  | .missing m => throw m.failure
  | t => pure t.toValue

/-- The printed form of a term that needs no store: values print as text, a missing value as
nothing. -/
def text : Term → Outcome String
  | .value v => v.display
  | .missing _ => pure ""
  | .function n =>
    pure (if isClassName n then classLiteral n else "<function " ++ n ++ ">")
  | .method owner n => pure ("<built-in method " ++ n ++ " of " ++ owner.typeName ++ " object>")
  | .view k es =>
    pure (viewName k ++ "(" ++ (Value.list (viewItems k es)).repr ++ ")")
  | .space _ => pure "<Namespace>"
  | .routine _ n => pure ("<Macro " ++ quoteText n ++ ">")
  | .loop info => pure ("<LoopContext " ++ toString (info.index0 + 1) ++ "/" ++ toString info.items.length ++ ">")
  | .loopMethod _ n => pure ("<bound method LoopContext." ++ n ++ ">")
  | .joiner _ => pure "<Joiner>"
  | .cycler _ => pure "<Cycler>"
  | .cyclerMethod _ n => pure ("<bound method Cycler." ++ n ++ ">")

/-- Equality as `==` decides it: values by value; two missing values are equal; other objects
only themselves. -/
def equal : Term → Term → Bool
  | .value a, .value b => Value.equal a b
  | .missing _, .missing _ => true
  | .view k es, .view l fs => k == l && Value.equal (.list (viewItems k es)) (.list (viewItems l fs))
  | .space i, .space j => i == j
  | .joiner i, .joiner j => i == j
  | .cycler i, .cycler j => i == j
  | .function m, .function n => m == n
  | .routine i _, .routine j _ => i == j
  | _, _ => false

end Term

end Dashwright.Template
