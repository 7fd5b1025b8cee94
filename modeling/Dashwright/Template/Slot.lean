import Dashwright.Value.Access

/-!
What a template expression denotes: a value, or the mark of a missing one. A missing value
prints as nothing, is false, has length zero and iterates as empty; using it in any other way
fails with a message that says what was missing: a name, an attribute of an object, or an
element of one. Attribute access on a mapping falls back to its key of that name.
-/

namespace Dashwright.Template

/-- Why a template expression has no value. -/
inductive Missing where
  /-- a variable that the context does not define -/
  | name (n : String)
  /-- an attribute that an object lacks; the object is named by its kind -/
  | attribute (ownerKind : String) (attr : String)
  /-- an element that an object lacks, the key given by its literal -/
  | element (ownerKind : String) (keyLiteral : String)
  /-- a missing value with its own explanation -/
  | hint (text : String)
deriving Inhabited

/-- How an object's kind is named in messages about what it lacks. -/
def objectKind : Value → String
  | .none => "None"
  | .date _ => "datetime.date object"
  | .moment _ => "datetime.datetime object"
  | v => v.typeName ++ " object"

def Missing.message : Missing → String
  | .name n => quoteText n ++ " is undefined"
  | .attribute owner a => quoteText owner ++ " has no attribute " ++ quoteText a
  | .element owner k => owner ++ " has no element " ++ k
  | .hint t => t

def Missing.failure (m : Missing) : Failure := Failure.make .undefinedName m.message

/-- A template operand: a value or a missing one. -/
inductive Slot where
  | value (v : Value)
  | missing (m : Missing)
deriving Inhabited

namespace Slot

def isDefined : Slot → Bool
  | .value _ => true
  | .missing _ => false

def truthy : Slot → Bool
  | .value v => v.truthy
  | .missing _ => false

/-- Items of a loop over the operand; a missing value gives none. -/
def iterate : Slot → Outcome (List Value)
  | .value v => v.iterate
  | .missing _ => pure []

def size : Slot → Outcome Nat
  | .value v => v.size
  | .missing _ => pure 0

/-- The printed form: the display form of a value, nothing for a missing one. -/
def text : Slot → Outcome String
  | .value v => v.display
  | .missing _ => pure ""

/-- The operand's value, or the failure that using a missing one gives. -/
def get : Slot → Outcome Value
  | .value v => pure v
  | .missing m => throw m.failure

/-- Inequality: a missing value differs from every value. -/
def differsFrom (s : Slot) (v : Value) : Bool :=
  match s with
  | .value w => !Value.equal w v
  | .missing _ => true

end Slot

/-- Attribute access for a data attribute: a mapping's key of that name; otherwise missing. -/
def Slot.attribute (s : Slot) (attr : String) : Outcome Slot :=
  match s with
  | .missing m => throw m.failure
  | .value v =>
    match v.item? (.str attr) with
    | some x => pure (.value x)
    | none => pure (.missing (.attribute (objectKind v) attr))

end Dashwright.Template
