import Dashwright.Template.Syntax

/-!
Which names a template body reads. A macro or call block whose body reads `varargs` or
`kwargs` collects the extra positional or keyword arguments under that name, and a macro
whose body reads `caller` takes the body of a call block as `caller`. Every expression of the
body counts, those of nested macros and call blocks included; the bodies of `block`
statements do not.
-/

namespace Dashwright.Template

/-- An optional part, read or not. -/
def optionReads (reads : Expr → Bool) : Option Expr → Bool
  | some x => reads x
  | none => false

mutual

def exprReads : Nat → String → Expr → Bool
  | 0, _, _ => false
  | f + 1, n, e =>
    match e with
    | .name m => m == n
    | .const _ | .unspellable _ => false
    | .attr o _ => exprReads f n o
    | .item o k => exprReads f n o || exprReads f n k
    | .slice a b c =>
      optionReads (exprReads f n) a || optionReads (exprReads f n) b || optionReads (exprReads f n) c
    | .tuple xs | .list xs | .concat xs => xs.any (exprReads f n)
    | .dict ps => ps.any fun (k, v) => exprReads f n k || exprReads f n v
    | .neg x | .pos x | .not x => exprReads f n x
    | .arith _ a b | .and a b | .or a b => exprReads f n a || exprReads f n b
    | .compare a rest => exprReads f n a || rest.any fun (_, x) => exprReads f n x
    | .cond test body orelse =>
      exprReads f n test || exprReads f n body || optionReads (exprReads f n) orelse
    | .call callee args => exprReads f n callee || argsRead f n args
    | .filter operand _ args => optionReads (exprReads f n) operand || argsRead f n args
    | .test operand _ args => exprReads f n operand || argsRead f n args

/-- Whether the arguments of a call, filter or test read a name. -/
def argsRead : Nat → String → Args → Bool
  | 0, _, _ => false
  | f + 1, n, .mk pos kws star starStar =>
    pos.any (exprReads f n) || kws.any (fun (_, x) => exprReads f n x) ||
      optionReads (exprReads f n) star || optionReads (exprReads f n) starStar

end

def defaultsRead (reads : Expr → Bool) (params : List (String × Option Expr)) : Bool :=
  params.any fun (_, d) => optionReads reads d

/-- Whether statements read a name, outside the bodies of `block` statements. -/
def nodesRead : Nat → String → List Node → Bool
  | 0, _, _ => false
  | f + 1, n, nodes =>
    let reads := exprReads f n
    nodes.any fun node =>
      match node with
      | .text _ => false
      | .print e => reads e
      | .forLoop _ iter body orelse test _ =>
        reads iter || nodesRead f n body || nodesRead f n orelse || optionReads reads test
      | .ifChain branches orelse =>
        branches.any (fun (t, b) => reads t || nodesRead f n b) || nodesRead f n orelse
      | .assign _ v => reads v
      | .assignBlock _ filter body => optionReads reads filter || nodesRead f n body
      | .routine _ params body => defaultsRead reads params || nodesRead f n body
      | .callBlock params call body => defaultsRead reads params || reads call || nodesRead f n body
      | .filterBlock filter body => reads filter || nodesRead f n body
      | .withBlock bindings body => bindings.any (fun (_, x) => reads x) || nodesRead f n body
      | .block _ _ => false
      | .scope body => nodesRead f n body
      | .load e => reads e

/-- How a macro or call block takes what its parameters do not: extra positional arguments as
`varargs`, extra keyword arguments as `kwargs`, and a call block's body as `caller`. -/
structure Extras where
  varargs : Bool
  kwargs : Bool
  caller : Bool
deriving Inhabited

/-- The extras of a body with parameters: each special name the body reads and no parameter
takes (a parameter named `caller` still lets the body take a caller). -/
def extrasOf (params : List (String × Option Expr)) (body : List Node) : Extras :=
  let reads (n : String) : Bool := nodesRead 100000 n body
  let named (n : String) : Bool := params.any (·.1 == n)
  ⟨reads "varargs" && !named "varargs", reads "kwargs" && !named "kwargs", reads "caller"⟩

end Dashwright.Template
