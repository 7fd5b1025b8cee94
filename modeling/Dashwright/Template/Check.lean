import Dashwright.Template.Filters
import Dashwright.Template.Syntax

/-!
Checks made on a parsed template before it is rendered. A filter or test that does not exist
is refused, unless it stands inside a condition or the branches of an `if` (or an inline `if`),
where it only fails if it is reached. A `for` whose statements assign to `loop` is refused.
The checks run in the order the template is read, the body of `block` statements after the
rest, and an outer filter before the operand it applies to.
-/

namespace Dashwright.Template

def assertionFailure (message : String) : Failure := Failure.make .templateAssertion message

mutual

def checkExpr : Nat → Bool → Expr → Outcome Unit
  | 0, _, _ => pure ()
  | f + 1, soft, e =>
    match e with
    | .const _ | .name _ | .unspellable _ => pure ()
    | .attr o _ => checkExpr f soft o
    | .item o k => do checkExpr f soft o; checkExpr f soft k
    | .slice a b c => do
      if let some x := a then checkExpr f soft x
      if let some x := b then checkExpr f soft x
      if let some x := c then checkExpr f soft x
    | .tuple xs | .list xs | .concat xs => checkExprs f soft xs
    | .dict ps => do
      for (k, v) in ps do
        checkExpr f soft k
        checkExpr f soft v
    | .neg x | .pos x | .not x => checkExpr f soft x
    | .arith _ a b | .and a b | .or a b => do checkExpr f soft a; checkExpr f soft b
    | .compare a rest => do
      checkExpr f soft a
      checkExprs f soft (rest.map Prod.snd)
    | .cond test body orelse => do
      checkExpr f true body
      checkExpr f true test
      if let some x := orelse then checkExpr f true x
    | .call callee args => do checkExpr f soft callee; checkArgs f soft args
    | .filter operand name args => do
      if !soft && !filterNames.contains name then
        throw (assertionFailure ("No filter named " ++ quoteText name ++ "."))
      if let some x := operand then checkExpr f soft x
      checkArgs f soft args
    | .test operand name args => do
      if !soft && !testNames.contains name then
        throw (assertionFailure ("No test named " ++ quoteText name ++ "."))
      checkExpr f soft operand
      checkArgs f soft args

def checkExprs : Nat → Bool → List Expr → Outcome Unit
  | 0, _, _ => pure ()
  | _, _, [] => pure ()
  | f + 1, soft, x :: rest => do checkExpr f soft x; checkExprs f soft rest

def checkArgs : Nat → Bool → Args → Outcome Unit
  | 0, _, _ => pure ()
  | f + 1, soft, .mk pos kws star starStar => do
    checkExprs f soft pos
    checkExprs f soft (kws.map Prod.snd)
    if let some x := star then checkExpr f soft x
    if let some x := starStar then checkExpr f soft x

end

/-- Whether a target binds the name `loop`. -/
def Target.bindsLoop : Target → Bool
  | .name n => n == "loop"
  | .tuple ts => ts.attach.any fun ⟨t, _⟩ => t.bindsLoop
  | .field _ _ => false

mutual

/-- Whether statements assign to the name `loop` anywhere within them. -/
def assignsLoop : Nat → List Node → Bool
  | 0, _ => false
  | _, [] => false
  | f + 1, n :: rest =>
    let here := match n with
      | .forLoop t _ body orelse _ _ => t.bindsLoop || assignsLoop f body || assignsLoop f orelse
      | .ifChain bs orelse => bs.any (fun (_, b) => assignsLoop f b) || assignsLoop f orelse
      | .assign t _ => t.bindsLoop
      | .assignBlock t _ body => t.bindsLoop || assignsLoop f body
      | .routine _ _ body | .callBlock _ _ body | .filterBlock _ body | .block _ body | .scope body =>
        assignsLoop f body
      | .withBlock bs body => bs.any (fun (t, _) => t.bindsLoop) || assignsLoop f body
      | _ => false
    here || assignsLoop f rest

end

mutual

/-- Checks statements; gives the bodies of `block` statements, checked after the rest. -/
def checkNodes : Nat → Bool → List Node → Outcome (List (List Node))
  | 0, _, _ => pure []
  | _, _, [] => pure []
  | f + 1, soft, n :: rest => do
    let here ← checkNode f soft n
    let later ← checkNodes f soft rest
    pure (here ++ later)

def checkNode : Nat → Bool → Node → Outcome (List (List Node))
  | 0, _, _ => pure []
  | f + 1, soft, n =>
    match n with
    | .text _ => pure []
    | .print e => do checkExpr f soft e; pure []
    | .forLoop t iter body orelse test _ => do
      if let some x := test then checkExpr f false x
      if t.bindsLoop || assignsLoop f body || assignsLoop f orelse then
        throw (assertionFailure "Can't assign to special loop variable in for-loop target")
      checkExpr f soft iter
      let a ← checkNodes f false body
      let b ← checkNodes f false orelse
      pure (a ++ b)
    | .ifChain branches orelse => do
      let mut blocks : List (List Node) := []
      for (test, body) in branches do
        checkExpr f true test
        blocks := blocks ++ (← checkNodes f true body)
      blocks := blocks ++ (← checkNodes f true orelse)
      pure blocks
    | .assign _ value => do checkExpr f soft value; pure []
    | .assignBlock _ filter body => do
      let blocks ← checkNodes f false body
      if let some x := filter then checkExpr f false x
      pure blocks
    | .routine _ params body => do
      for (_, d) in params do
        if let some x := d then checkExpr f false x
      checkNodes f false body
    | .callBlock params call body => do
      for (_, d) in params do
        if let some x := d then checkExpr f false x
      checkExpr f soft call
      checkNodes f false body
    | .filterBlock filter body => do
      let blocks ← checkNodes f false body
      checkExpr f false filter
      pure blocks
    | .withBlock bindings body => do
      for (_, v) in bindings do checkExpr f soft v
      checkNodes f false body
    | .block _ body => pure [body]
    | .scope body => checkNodes f false body
    | .load e => do checkExpr f soft e; pure []

end

/-- Checks a template: its statements, then the bodies of its blocks, in order. -/
def checkTemplate (body : List Node) : Outcome Unit := do
  let fuel := 100000
  let mut pending ← checkNodes fuel false body
  for _ in List.range 1000 do
    match pending with
    | [] => break
    | b :: rest =>
      let more ← checkNodes fuel false b
      pending := more ++ rest

end Dashwright.Template
