import Dashwright.Template.Filters
import Dashwright.Template.Syntax

/-!
Folding the constant parts of a template before it runs.

Every expression whose value follows from its literals alone is replaced by that value before
the template runs: operators, filters and tests on constants, comparisons, subscripts and
attributes of constants, and the lazy `and`, `or` and inline `if` once the operands they look
at are known. Names and calls are never constant, nor are the filters that read the render's
context, nor anything whose evaluation fails (the failure is left for the run), and a value is
only put in place of its expression when it is plain data.

The compiled template holds each constant as its literal. A double that is not finite has no
literal: it is written `nan` or `inf`, a name that nothing defines, so evaluating such a
constant fails. An expression printed directly is the exception: when it is constant as a
whole, its text is computed once and printed as it is.
-/

namespace Dashwright.Template

/-- The items of a value given with `*`. -/
def starItems (t : Term) : Outcome (List Term) := do
  pure ((← t.iterate).map Term.value)

/-- The entries of a mapping given with `**`. -/
def starStarEntries (t : Term) : Outcome (List (String × Term)) := do
  match t with
  | .value (.map es _) =>
    es.mapM fun (k, v) => match k with
      | .str s => pure (s, Term.value v)
      | _ => throw (Failure.wrongType "keywords must be strings")
  | .missing m => throw m.failure
  | _ => throw (Failure.wrongType ("argument after ** must be a mapping, not " ++ t.typeName))

/-- The filters that read the render's context; they are never folded. -/
def contextFilters : List String := ["map", "select", "reject", "selectattr", "rejectattr", "random"]

/-- Whether a value is plain data, which has a literal: numbers, texts, ranges, and lists,
tuples, sets and plain mappings of them. -/
def isPlainData : Nat → Value → Bool
  | 0, _ => false
  | f + 1, v =>
    match v with
    | .none | .bool _ | .int _ | .float _ | .str _ | .range _ _ _ | .complex _ _ => true
    | .list xs | .tuple xs | .set xs => xs.all (isPlainData f)
    | .map es Option.none => es.all fun (k, x) => isPlainData f k && isPlainData f x
    | _ => false

/-- The word a double that is not finite is written as. -/
def floatWord (x : Float) : Option String :=
  if x.isNaN then some "nan" else if x.isInf then some "inf" else none

/-- The first word a value's literal spells for a double that is not finite, in the order the
literal is written: `nan` or `inf`, and `nanj` or `infj` for an imaginary part (a complex
number whose real part is a positive zero is written by its imaginary part alone). -/
def nonFiniteWord : Nat → Value → Option String
  | 0, _ => none
  | f + 1, v =>
    match v with
    | .float x => floatWord x
    | .complex re im =>
      let imWord := (floatWord im).map (· ++ "j")
      if re == 0 && !(1.0 / re < 0) then imWord else (floatWord re).orElse fun _ => imWord
    | .list xs | .tuple xs | .set xs => xs.findSome? (nonFiniteWord f)
    | .map es _ => es.findSome? fun (k, x) => (nonFiniteWord f k).orElse fun _ => nonFiniteWord f x
    | _ => none

/-- The value an evaluation gives, when it gives a value and does not fail. -/
def valueOf : Outcome Term → Option Value
  | .ok (.value v) => some v
  | _ => none

mutual

/-- The value of an expression that follows from its literals alone, when it has one. -/
def constantOf : Nat → Expr → Option Value
  | 0, _ => none
  | f + 1, e =>
    match e with
    | .const v => some v
    | .name _ | .call _ _ | .slice _ _ _ | .unspellable _ | .filter none _ _ => none
    | .attr o a => do valueOf ((Term.value (← constantOf f o)).attribute a)
    | .item o (.slice a b c) => do
      let owner ← constantOf f o
      let bound (x : Option Expr) : Option Value :=
        match x with
        | some y => constantOf f y
        | none => some .none
      valueOf ((Term.value owner).slice (← bound a) (← bound b) (← bound c))
    | .item o k => do valueOf ((Term.value (← constantOf f o)).subscript (← constantOf f k))
    | .tuple xs => do pure (.tuple (← xs.mapM (constantOf f)))
    | .list xs => do pure (.list (← xs.mapM (constantOf f)))
    | .dict ps => do
      let entries ← ps.mapM fun (k, x) => do pure (← constantOf f k, ← constantOf f x)
      if entries.any fun (k, _) => !k.hashable then none
      pure (Value.dict (entries.foldl (fun acc (k, x) => insertEntry k x acc) []))
    | .neg x => do valueOf (negateTerm (.value (← constantOf f x)))
    | .pos x => do valueOf (plusTerm (.value (← constantOf f x)))
    | .not x => do pure (.bool !(← constantOf f x).truthy)
    | .arith op a b => do
      let x ← constantOf f a
      let y ← constantOf f b
      valueOf (applyArith op (.value x) (.value y))
    | .and a b => do
      let x ← constantOf f a
      if x.truthy then constantOf f b else pure x
    | .or a b => do
      let x ← constantOf f a
      if x.truthy then pure x else constantOf f b
    | .concat xs => do
      let texts ← (← xs.mapM (constantOf f)).mapM fun v => v.display.toOption
      pure (.str (String.join texts))
    | .compare first rest => do constantChain f (← constantOf f first) rest
    | .cond test body orelse => do
      if (← constantOf f test).truthy then constantOf f body else constantOf f (← orelse)
    | .filter (some operand) name args =>
      if contextFilters.contains name then none
      else do
        let (pos, kws) ← constantArgs f args
        let input ← constantOf f operand
        valueOf (applyFilter 64 name (.value input) pos kws)
    | .test operand name args => do
      let (pos, kws) ← constantArgs f args
      let input ← constantOf f operand
      pure (.bool (← (applyTest name (.value input) pos kws).toOption))

/-- A chain of comparisons from a known left operand; it stops at the first that fails. -/
def constantChain : Nat → Value → List (Relation × Expr) → Option Value
  | 0, _, _ => none
  | _, _, [] => some (.bool true)
  | f + 1, left, (r, x) :: rest => do
    let right ← constantOf f x
    if ← (relate r (.value left) (.value right)).toOption then constantChain f right rest
    else pure (.bool false)

/-- The arguments of a filter or test, when all are constant. -/
def constantArgs : Nat → Args → Option (List Term × List (String × Term))
  | 0, _ => none
  | f + 1, .mk pos kws star starStar => do
    let given ← pos.mapM (constantOf f)
    let named ← kws.mapM fun (n, x) => do pure (n, Term.value (← constantOf f x))
    let spread ← match star with
      | some x => do (starItems (.value (← constantOf f x))).toOption
      | none => pure []
    let spreadNamed ← match starStar with
      | some x => do (starStarEntries (.value (← constantOf f x))).toOption
      | none => pure []
    pure (given.map Term.value ++ spread, named ++ spreadNamed)

end

/-- A constant as the compiled template holds it: its literal, or the undefined name a double
that is not finite is written as. -/
def spelled (v : Value) : Expr :=
  match nonFiniteWord 10000 v with
  | some w => .unspellable w
  | none => .const v

mutual

/-- Replaces the largest constant parts of an expression by their values. -/
def foldExpr : Nat → Expr → Expr
  | 0, e => e
  | f + 1, e =>
    match constantOf f e with
    | some v => if isPlainData 10000 v then spelled v else foldParts f e
    | none => foldParts f e

/-- Folds the parts of an expression that is not constant as a whole. -/
def foldParts : Nat → Expr → Expr
  | 0, e => e
  | f + 1, e =>
    match e with
    | .const v => spelled v
    | .name _ | .unspellable _ => e
    | .attr o a => .attr (foldExpr f o) a
    | .item o k => .item (foldExpr f o) (foldExpr f k)
    | .slice a b c => .slice (a.map (foldExpr f)) (b.map (foldExpr f)) (c.map (foldExpr f))
    | .tuple xs => .tuple (xs.map (foldExpr f))
    | .list xs => .list (xs.map (foldExpr f))
    | .dict ps => .dict (ps.map fun (k, x) => (foldExpr f k, foldExpr f x))
    | .neg x => .neg (foldExpr f x)
    | .pos x => .pos (foldExpr f x)
    | .not x => .not (foldExpr f x)
    | .arith op a b => .arith op (foldExpr f a) (foldExpr f b)
    | .and a b => .and (foldExpr f a) (foldExpr f b)
    | .or a b => .or (foldExpr f a) (foldExpr f b)
    | .concat xs => .concat (xs.map (foldExpr f))
    | .compare first rest => .compare (foldExpr f first) (rest.map fun (r, x) => (r, foldExpr f x))
    | .cond test body orelse => .cond (foldExpr f test) (foldExpr f body) (orelse.map (foldExpr f))
    | .call callee args => .call (foldExpr f callee) (foldArgs f args)
    | .filter operand name args => .filter (operand.map (foldExpr f)) name (foldArgs f args)
    | .test operand name args => .test (foldExpr f operand) name (foldArgs f args)

def foldArgs : Nat → Args → Args
  | 0, a => a
  | f + 1, .mk pos kws star starStar =>
    .mk (pos.map (foldExpr f)) (kws.map fun (n, x) => (n, foldExpr f x)) (star.map (foldExpr f))
      (starStar.map (foldExpr f))

end

mutual

def foldNodes : Nat → List Node → List Node
  | 0, ns => ns
  | f + 1, ns => ns.map (foldNode f)

/-- Folds the expressions of a statement; a printed expression that is constant as a whole
is replaced by its value as it is. -/
def foldNode : Nat → Node → Node
  | 0, n => n
  | f + 1, n =>
    match n with
    | .text s => .text s
    | .print e =>
      match constantOf f e with
      | some v => .print (.const v)
      | none => .print (foldExpr f e)
    | .forLoop target iter body orelse test recursive =>
      .forLoop target (foldExpr f iter) (foldNodes f body) (foldNodes f orelse) (test.map (foldExpr f))
        recursive
    | .ifChain branches orelse =>
      .ifChain (branches.map fun (t, b) => (foldExpr f t, foldNodes f b)) (foldNodes f orelse)
    | .assign target value => .assign target (foldExpr f value)
    | .assignBlock target filter body => .assignBlock target (filter.map (foldExpr f)) (foldNodes f body)
    | .routine name params body =>
      .routine name (params.map fun (p, d) => (p, d.map (foldExpr f))) (foldNodes f body)
    | .callBlock params call body =>
      .callBlock (params.map fun (p, d) => (p, d.map (foldExpr f))) (foldExpr f call) (foldNodes f body)
    | .filterBlock filter body => .filterBlock (foldExpr f filter) (foldNodes f body)
    | .withBlock bindings body =>
      .withBlock (bindings.map fun (t, x) => (t, foldExpr f x)) (foldNodes f body)
    | .block name body => .block name (foldNodes f body)
    | .scope body => .scope (foldNodes f body)
    | .load e => .load (foldExpr f e)

end

def foldTemplate (body : List Node) : List Node := foldNodes 10000 body

end Dashwright.Template
