import Dashwright.Template.Access
import Dashwright.Template.Syntax
import Dashwright.Value.Sort

/-!
The operators of template expressions on terms. Values combine by value arithmetic and
comparison; a missing operand makes any operator but equality fail with its message; other
objects take part in equality and membership only.
-/

namespace Dashwright.Template

def operand (t : Term) : Outcome Value :=
  match t with
  | .missing m => throw m.failure
  | .value v => pure v
  | _ => pure t.toValue

/-- The failure of an operator between objects that are not values. -/
def objectOperands (op : String) (a b : Term) : Failure :=
  Failure.wrongType ("unsupported operand type(s) for " ++ op ++ ": '" ++ a.typeName ++ "' and '" ++
    b.typeName ++ "'")

def arithSymbol : Arith → String
  | .add => "+"
  | .sub => "-"
  | .mul => "*"
  | .div => "/"
  | .floorDiv => "//"
  | .mod => "%"
  | .pow => "** or pow()"

def applyArith (op : Arith) (a b : Term) : Outcome Term := do
  match a with
  | .missing m => throw m.failure
  | _ => pure ()
  match b with
  | .missing m => throw m.failure
  | _ => pure ()
  match a, b with
  | .value x, .value y =>
    let r ← match op with
      | .add => Value.add x y
      | .sub => Value.sub x y
      | .mul => Value.mul x y
      | .div => Value.trueDiv x y
      | .floorDiv => Value.floorDiv x y
      | .mod => Value.mod x y
      | .pow => Value.pow x y
    pure (.value r)
  | _, _ => throw (objectOperands (arithSymbol op) a b)

/-- Orders two terms by a comparison; a missing operand fails. -/
def orderTerms (c : Value.Comparison) (a b : Term) : Outcome Bool := do
  match a, b with
  | .missing m, _ => throw m.failure
  | _, .missing m => throw m.failure
  | .value x, .value y => Value.compareWith c x y
  | _, _ => throw (Failure.wrongType ("'" ++ c.symbol ++ "' not supported between instances of '" ++
      a.typeName ++ "' and '" ++ b.typeName ++ "'"))

def Term.contains (container item : Term) : Outcome Bool :=
  match container, item with
  | .missing _, _ => pure false
  | .value (.range a b s), .value v =>
    match indexValue? v with
    | some i => pure ((Value.rangeItems a b s).contains i)
    | none => pure false
  | .value c, .value i => Value.contains c i
  | .value (.str _), _ => throw (Failure.wrongType ("'in <string>' requires string as left operand, not " ++ item.typeName))
  | .value (.list _), _ | .value (.tuple _), _ | .value (.set _), _ | .value (.map _ _), _
  | .value (.range _ _ _), _ => pure false
  | .view k es, .value v => pure ((Term.viewItems k es).any (Value.equal v))
  | .view _ _, _ => pure false
  | _, _ => throw (Failure.wrongType ("argument of type '" ++ container.typeName ++ "' is not iterable"))

def relate (r : Relation) (a b : Term) : Outcome Bool :=
  match r with
  | .eq => pure (Term.equal a b)
  | .ne => pure (!Term.equal a b)
  | .lt => orderTerms .lt a b
  | .le => orderTerms .le a b
  | .gt => orderTerms .gt a b
  | .ge => orderTerms .ge a b
  | .isIn => b.contains a
  | .notIn => do pure (!(← b.contains a))

/-- `-x` and `+x`. -/
def negateTerm (t : Term) : Outcome Term := do
  match t with
  | .missing m => throw m.failure
  | .value v => pure (.value (← Value.negate v))
  | _ => throw (Failure.wrongType ("bad operand type for unary -: '" ++ t.typeName ++ "'"))

def plusTerm (t : Term) : Outcome Term := do
  match t with
  | .missing m => throw m.failure
  | .value v => pure (.value (← Value.plus v))
  | _ => throw (Failure.wrongType ("bad operand type for unary +: '" ++ t.typeName ++ "'"))

end Dashwright.Template
