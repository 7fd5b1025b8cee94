import Dashwright.Template.Check
import Dashwright.Template.Fold
import Dashwright.Template.Parser
import Dashwright.Template.Scan

/-!
Rendering a parsed template. Statements run in order and write text; expressions evaluate to
terms.

Names are looked up in the open scopes, innermost first, then in the render's context. A `for`
body runs in a fresh scope for each item (so assignments inside do not outlive the iteration),
as do the bodies of `set` blocks, `filter` blocks, `with`, routines and blocks; an `if` opens no
scope. Methods that change their receiver in place store the changed value back where the
receiver's name is bound. Namespace objects live in a store, so assignments to their attributes
are seen through every name bound to them.

Functions of the render's context other than the standard ones are supplied by the caller as
a host: a function from a name and arguments to a result, `none` for names it does not know.
-/

namespace Dashwright.Template

/-- A macro as defined: its parameters with defaults, its body, what it takes besides its
parameters, and the scopes its body sees: those open where it was defined (the innermost of
them as they are when it is called), or for the body of a call block the scopes as they were
at the call. -/
structure Routine where
  name : String
  params : List (String × Option Expr)
  body : List Node
  extras : Extras
  depth : Nat
  captured : Option (List (List (String × Term)))

/-- A `for` loop marked `recursive`, as calling its `loop` runs it again: its target, body,
`else` body and filter, and the scopes open at the loop. -/
structure LoopDef where
  target : Target
  body : List Node
  orelse : List Node
  test : Option Expr
  scopes : List (List (String × Term))

/-- Functions supplied by the caller, by name. -/
abbrev Host := String → List Term → List (String × Term) → Option (Outcome Term)

/-- The state of a render. -/
structure RenderState where
  scopes : List (List (String × Term))
  context : List (String × Term)
  spaces : Array (List (String × Term))
  routines : Array Routine
  joiners : Array (String × Bool)
  cyclers : Array (List Term × Nat)
  loopDefs : List (Nat × LoopDef)
  changed : List (Nat × List Term)
  loops : Nat
  out : List String

abbrev Render := StateT RenderState (Except Failure)

def globalNames : List String := ["range", "dict", "lipsum", "cycler", "joiner", "namespace"]

def emit (s : String) : Render Unit := modify fun st => { st with out := s :: st.out }

def lookupName (n : String) : Render Term := do
  let st ← get
  for frame in st.scopes do
    match frame.find? (·.1 == n) with
    | some (_, t) => return t
    | none => pure ()
  match st.context.find? (·.1 == n) with
  | some (_, t) => pure t
  | none => if globalNames.contains n then pure (.function n) else pure (.missing (.name n))

def bindName (n : String) (t : Term) : Render Unit :=
  modify fun st =>
    match st.scopes with
    | frame :: rest => { st with scopes := ((n, t) :: frame.filter (·.1 != n)) :: rest }
    | [] => { st with scopes := [[(n, t)]] }

/-- Rebinds a name where it is bound, after a method changed its value in place. -/
def rebindName (n : String) (t : Term) : Render Unit :=
  modify fun st =>
    let rec go : List (List (String × Term)) → Option (List (List (String × Term)))
      | [] => none
      | frame :: rest =>
        if frame.any (·.1 == n) then some (frame.map (fun (k, v) => if k == n then (k, t) else (k, v)) :: rest)
        else (go rest).map (frame :: ·)
    match go st.scopes with
    | some scopes => { st with scopes := scopes }
    | none => st

def pushScope : Render Unit := modify fun st => { st with scopes := [] :: st.scopes }

def popScope : Render Unit := modify fun st => { st with scopes := st.scopes.drop 1 }

def spaceAttrs (id : Nat) : Render (List (String × Term)) := do
  pure ((← get).spaces.getD id [])

def setSpaceAttr (id : Nat) (n : String) (t : Term) : Render Unit :=
  modify fun st =>
    { st with spaces := st.spaces.modify id fun attrs => (attrs.filter (·.1 != n)) ++ [(n, t)] }

def newSpace (attrs : List (String × Term)) : Render Term := do
  let st ← get
  set { st with spaces := st.spaces.push attrs }
  pure (.space st.spaces.size)

/-- Runs an action and gives what it wrote instead of writing it. -/
def capture (action : Render Unit) : Render String := do
  let saved := (← get).out
  modify fun st => { st with out := [] }
  action
  let written := (← get).out
  modify fun st => { st with out := saved }
  pure (String.join written.reverse)

/-- The printed form of a term, namespaces included. -/
def termText (t : Term) : Render String := do
  match t with
  | .space id =>
    let attrs ← spaceAttrs id
    pure ("<Namespace " ++ (Value.dict (attrs.map fun (k, v) => (.str k, v.toValue))).repr ++ ">")
  | _ => t.text

/-- `x.name`, namespaces included. -/
def attributeOf (t : Term) (n : String) : Render Term := do
  match t with
  | .space id =>
    match (← spaceAttrs id).find? (·.1 == n) with
    | some (_, v) => pure v
    | none => pure (.missing (.attribute t.ownerKind n))
  | .cycler id =>
    let (items, pos) := (← get).cyclers.getD id ([], 0)
    match n with
    | "current" => pure (items.getD pos (.value .none))
    | "items" => pure (.value (.tuple (items.map Term.toValue)))
    | "pos" => pure (.value (.int pos))
    | "next" | "__next__" | "reset" => pure (.cyclerMethod id n)
    | _ => pure (.missing (.attribute t.ownerKind n))
  | _ => t.attribute n

/-- `x[key]`, namespaces included. -/
def subscriptOf (t : Term) (key : Value) : Render Term := do
  match t, key with
  | .space _, .str n => attributeOf t n
  | _, _ => t.subscript key

def keywordMap (kwargs : List (String × Term)) : Value :=
  Value.dict (kwargs.map fun (k, v) => (.str k, v.toValue))

/-- `range(...)`. -/
def makeRange (args : List Term) (kwargs : List (String × Term)) : Outcome Term := do
  if !kwargs.isEmpty then throw (Failure.wrongType "range() takes no keyword arguments")
  let ints ← args.mapM fun a => do
    match a with
    | .value (.int i) => pure i
    | .value (.bool b) => pure (if b then 1 else 0)
    | .missing m => throw m.failure
    | t => throw (Failure.wrongType ("'" ++ t.typeName ++ "' object cannot be interpreted as an integer"))
  match ints with
  | [] => throw (Failure.wrongType "range expected at least 1 argument, got 0")
  | [b] => pure (.value (.range 0 b 1))
  | [a, b] => pure (.value (.range a b 1))
  | [a, b, s] =>
    if s == 0 then throw (Failure.badValue "range() arg 3 must not be zero")
    else pure (.value (.range a b s))
  | _ => throw (Failure.wrongType ("range expected at most 3 arguments, got " ++ toString ints.length))

/-- `dict(...)` and the attributes of `namespace(...)`. -/
def dictEntries (fn : String) (args : List Term) (kwargs : List (String × Term)) :
    Outcome (List (Value × Value)) := do
  let base ← match args with
    | [] => pure []
    | [a] => (← operand a).toDict
    | _ => throw (Failure.wrongType (fn ++ " expected at most 1 argument, got " ++ toString args.length))
  let mut out := base
  for (k, v) in kwargs do
    out := insertEntry (.str k) v.toValue out
  pure out

def unpackTarget (target : Target) (item : Term) : Outcome (List (String × Term)) := do
  match target with
  | .name n => pure [(n, item)]
  | .field _ _ => pure []
  | .tuple ts =>
    let parts ← match item with
      | .value (.int _) | .value (.float _) | .value .none | .value (.bool _) =>
        throw (Failure.wrongType ("cannot unpack non-iterable " ++ item.typeName ++ " object"))
      | .missing m => throw m.failure
      | _ => item.iterate
    if parts.length < ts.length then
      throw (Failure.badValue ("not enough values to unpack (expected " ++ toString ts.length ++
        ", got " ++ toString parts.length ++ ")"))
    if parts.length > ts.length then
      throw (Failure.badValue ("too many values to unpack (expected " ++ toString ts.length ++ ")"))
    let mut out : List (String × Term) := []
    for (t, p) in ts.zip parts do
      match t with
      | .name n => out := out ++ [(n, .value p)]
      | .tuple inner =>
        let nested ← match p with
          | .list xs | .tuple xs => pure xs
          | .str s => pure (s.toList.map fun c => Value.str (String.singleton c))
          | v => throw (Failure.wrongType ("cannot unpack non-iterable " ++ v.typeName ++ " object"))
        if nested.length != inner.length then
          throw (Failure.badValue ("too many values to unpack (expected " ++ toString inner.length ++ ")"))
        for (it, q) in inner.zip nested do
          match it with
          | .name n => out := out ++ [(n, .value q)]
          | _ => pure ()
      | .field _ _ => pure ()
    pure out

def renderTooDeep {α : Type} : Render α := throw (Failure.make .tooDeep "maximum recursion depth exceeded")

mutual

def evalExpr : Nat → Host → Expr → Render Term
  | 0, _, _ => renderTooDeep
  | f + 1, host, e =>
    match e with
    | .const v => pure (.value v)
    | .unspellable w => throw (Failure.make .unboundName ("name '" ++ w ++ "' is not defined"))
    | .name n => lookupName n
    | .attr o a => do attributeOf (← evalExpr f host o) a
    | .item o k => do
      let owner ← evalExpr f host o
      match k with
      | .slice a b c =>
        let bound (x : Option Expr) : Render Value := do
          match x with
          | some y => pure (← evalExpr f host y).toValue
          | none => pure .none
        let av ← bound a
        let bv ← bound b
        let cv ← bound c
        owner.slice av bv cv
      | _ =>
        let key ← evalExpr f host k
        subscriptOf owner key.toValue
    | .slice _ _ _ => pure (.value .none)
    | .tuple xs => do pure (.value (.tuple ((← evalList f host xs).map Term.toValue)))
    | .list xs => do pure (.value (.list ((← evalList f host xs).map Term.toValue)))
    | .dict ps => do
      let mut out : List (Value × Value) := []
      for (k, v) in ps do
        let kt ← evalExpr f host k
        let vt ← evalExpr f host v
        let kv := kt.toValue
        if !kv.hashable then throw (Value.unhashable kv)
        out := insertEntry kv vt.toValue out
      pure (.value (Value.dict out))
    | .neg x => do negateTerm (← evalExpr f host x)
    | .pos x => do plusTerm (← evalExpr f host x)
    | .not x => do pure (.value (.bool !(← evalExpr f host x).truthy))
    | .arith op a b => do
      let x ← evalExpr f host a
      let y ← evalExpr f host b
      applyArith op x y
    | .and a b => do
      let x ← evalExpr f host a
      if x.truthy then evalExpr f host b else pure x
    | .or a b => do
      let x ← evalExpr f host a
      if x.truthy then pure x else evalExpr f host b
    | .concat xs => do
      let parts ← evalList f host xs
      let texts ← parts.mapM termText
      pure (.value (.str (String.join texts)))
    | .compare first rest => do
      let mut left ← evalExpr f host first
      for (r, x) in rest do
        let right ← evalExpr f host x
        if !(← relate r left right) then return .value (.bool false)
        left := right
      pure (.value (.bool true))
    | .cond test body orelse => do
      if (← evalExpr f host test).truthy then evalExpr f host body
      else match orelse with
        | some x => evalExpr f host x
        | none => pure (.missing (.hint "the inline if-expression on line 1 evaluated to false and no else section was defined."))
    | .call callee args => do
      let fn ← evalExpr f host callee
      let (pos, kws) ← evalArgs f host args
      let result ← callTerm f host fn pos kws
      -- a method that changed its receiver stores it back where the receiver is bound
      match result.2, callee with
      | some changed, .attr (.name n) _ => rebindName n (.value changed)
      | some changed, .attr (.attr (.name ns) field) _ =>
        match ← lookupName ns with
        | .space id => setSpaceAttr id field (.value changed)
        | _ => pure ()
      | _, _ => pure ()
      pure result.1
    | .filter operand name args => do
      let input ← match operand with
        | some x => evalExpr f host x
        | none => pure (.value (.str ""))
      let (pos, kws) ← evalArgs f host args
      applyFilter 64 name input pos kws
    | .test operand name args => do
      let input ← evalExpr f host operand
      let (pos, kws) ← evalArgs f host args
      pure (.value (.bool (← applyTest name input pos kws)))

def evalList : Nat → Host → List Expr → Render (List Term)
  | 0, _, _ => renderTooDeep
  | _, _, [] => pure []
  | f + 1, host, x :: rest => do
    let t ← evalExpr f host x
    pure (t :: (← evalList f host rest))

def evalArgs : Nat → Host → Args → Render (List Term × List (String × Term))
  | 0, _, _ => renderTooDeep
  | f + 1, host, .mk pos kws star starStar => do
    let given ← evalList f host pos
    let mut named : List (String × Term) := []
    for (n, x) in kws do
      named := named ++ [(n, ← evalExpr f host x)]
    let spread ← match star with
      | some x => do pure (given ++ (← starItems (← evalExpr f host x)))
      | none => pure given
    let spreadNamed ← match starStar with
      | some x => do pure (named ++ (← starStarEntries (← evalExpr f host x)))
      | none => pure named
    pure (spread, spreadNamed)

/-- Applies the filters of a filter block or `set` block to the text of its body. -/
def applyFilterChain : Nat → Host → Expr → Term → Render Term
  | 0, _, _, _ => renderTooDeep
  | f + 1, host, e, text =>
    match e with
    | .filter none name args => do
      let (pos, kws) ← evalArgs f host args
      applyFilter 64 name text pos kws
    | .filter (some inner) name args => do
      let input ← applyFilterChain f host inner text
      let (pos, kws) ← evalArgs f host args
      applyFilter 64 name input pos kws
    | _ => evalExpr f host e

/-- Calls a term; gives the result and, for a method that changed its receiver, the receiver. -/
def callTerm : Nat → Host → Term → List Term → List (String × Term) → Render (Term × Option Value)
  | 0, _, _, _, _ => renderTooDeep
  | f + 1, host, fn, args, kwargs => do
    match fn with
    | .missing m => throw m.failure
    | .method owner name =>
      let vals ← args.mapM fun a => (operand a : Outcome Value)
      let kv ← kwargs.mapM fun (k, a) => do pure (k, ← (operand a : Outcome Value))
      let r ← callMethod owner name vals kv
      pure (r.result, r.receiver)
    | .function name =>
      match host name args kwargs with
      | some r => pure (← r, none)
      | none =>
        match name with
        | "range" => pure (← makeRange args kwargs, none)
        | "dict" => pure (.value (Value.dict (← dictEntries "dict" args kwargs)), none)
        | "namespace" =>
          let entries ← dictEntries "dict" args kwargs
          let attrs := entries.map fun (k, v) => (k.text, Term.value v)
          pure (← newSpace attrs, none)
        | "cycler" =>
          if let some (k, _) := kwargs.head? then
            throw (Failure.wrongType ("Cycler.__init__() got an unexpected keyword argument " ++ quoteText k))
          if args.isEmpty then throw (Failure.make .runtime "at least one item has to be provided")
          let st ← get
          set { st with cyclers := st.cyclers.push (args, 0) }
          pure (.cycler st.cyclers.size, none)
        | "joiner" =>
          let sep ← match args.head? with
            | some s => termText s
            | none => match kwargs.find? (·.1 == "sep") with
              | some (_, s) => termText s
              | none => pure ", "
          let st ← get
          set { st with joiners := st.joiners.push (sep, false) }
          pure (.joiner st.joiners.size, none)
        | _ => throw (Failure.make .unsupported name)
    | .joiner id =>
      let st ← get
      let (sep, used) := st.joiners.getD id (", ", false)
      set { st with joiners := st.joiners.set! id (sep, true) }
      pure (.value (.str (if used then sep else "")), none)
    | .loopMethod info name =>
      if name == "cycle" then
        if args.isEmpty then throw (Failure.wrongType "no items for cycling given")
        pure (args.getD (info.index0 % args.length) (.value .none), none)
      else
        let st ← get
        let last := (st.changed.find? (·.1 == info.id)).map Prod.snd
        let same := match last with
          | some prev => prev.length == args.length && (prev.zip args).all fun (a, b) => Term.equal a b
          | none => false
        if same then pure (.value (.bool false), none)
        else
          set { st with changed := (info.id, args) :: st.changed.filter (·.1 != info.id) }
          pure (.value (.bool true), none)
    | .cyclerMethod id name =>
      let qualified := "Cycler." ++ name ++ "()"
      if let some (k, _) := kwargs.head? then
        throw (Failure.wrongType (qualified ++ " got an unexpected keyword argument " ++ quoteText k))
      if !args.isEmpty then
        throw (Failure.wrongType (qualified ++ " takes 1 positional argument but " ++
          toString (args.length + 1) ++ " were given"))
      let st ← get
      let (items, pos) := st.cyclers.getD id ([], 0)
      if name == "reset" then
        set { st with cyclers := st.cyclers.set! id (items, 0) }
        pure (.value .none, none)
      else
        set { st with cyclers := st.cyclers.set! id (items, (pos + 1) % items.length) }
        pure (items.getD pos (.value .none), none)
    | .loop info =>
      if !info.recursive then
        throw (Failure.wrongType "The loop must be marked with 'recursive' to be called recursively.")
      let iterable ← match args, kwargs with
        | [x], [] => pure x
        | [], [("iterable", x)] => pure x
        | [], [] => throw (Failure.wrongType
            "LoopContext.__call__() missing 1 required positional argument: 'iterable'")
        | _, (k, _) :: _ =>
          if k == "iterable" then throw (Failure.wrongType
            "LoopContext.__call__() got multiple values for argument 'iterable'")
          else throw (Failure.wrongType
            ("LoopContext.__call__() got an unexpected keyword argument " ++ quoteText k))
        | _, _ => throw (Failure.wrongType ("LoopContext.__call__() takes 2 positional arguments but " ++
            toString (args.length + 1) ++ " were given"))
      let st ← get
      match st.loopDefs.find? (·.1 == info.id) with
      | none => throw (Failure.wrongType "The loop must be marked with 'recursive' to be called recursively.")
      | some (_, d) =>
        let items ← (iterable.iterate : Outcome (List Value))
        let saved := st.scopes
        set { st with scopes := d.scopes }
        let text ← capture (runLoop f host d items (info.depth0 + 1) true)
        modify fun s => { s with scopes := saved }
        pure (.value (.str text), none)
    | .routine id _ =>
      let st ← get
      match st.routines[id]? with
      | none => pure (.value .none, none)
      | some m => pure (.value (.str (← callRoutine f host m args kwargs)), none)
    | t => throw (Failure.wrongType ("'" ++ t.typeName ++ "' object is not callable"))

/-- Calls a macro: positional arguments fill its parameters in order and keyword arguments the
rest; a parameter left out takes its default, or is missing. Extra keyword arguments go to
`kwargs` and extra positional ones to `varargs` when the body reads those names, and are
refused otherwise; a body that reads `caller` takes the `caller` keyword argument. The body
runs in a fresh scope over the scopes the macro sees, and its text is the result. -/
def callRoutine : Nat → Host → Routine → List Term → List (String × Term) → Render String
  | 0, _, _, _, _ => renderTooDeep
  | f + 1, host, m, args, kwargs => do
    let names := m.params.map Prod.fst
    let count := names.length
    let given := args.take count
    let mut rest := kwargs
    let mut supplied : List (String × Option Term) := (names.zip given).map fun (n, t) => (n, some t)
    let mut foundCaller := names.contains "caller"
    if given.length != count then
      foundCaller := false
      for n in names.drop given.length do
        match rest.find? (·.1 == n) with
        | some (_, t) =>
          rest := rest.filter (·.1 != n)
          supplied := supplied ++ [(n, some t)]
        | none => supplied := supplied ++ [(n, none)]
        if n == "caller" then foundCaller := true
    let mut special : List (String × Term) := []
    if m.extras.caller && !foundCaller then
      let c := match rest.find? (·.1 == "caller") with
        | some (_, t) => t
        | none => .missing (.hint "No caller defined")
      rest := rest.filter (·.1 != "caller")
      special := special ++ [("caller", c)]
    if m.extras.kwargs then
      special := special ++ [("kwargs", .value (Value.dict (rest.map fun (k, t) => (.str k, t.toValue))))]
    else if let some (k, _) := rest.head? then
      if rest.any (·.1 == "caller") then
        throw (Failure.wrongType ("macro " ++ quoteText m.name ++
          " was invoked with two values for the special caller argument. This is most likely a bug."))
      throw (Failure.wrongType ("macro " ++ quoteText m.name ++ " takes no keyword argument " ++ quoteText k))
    if m.extras.varargs then
      special := special ++ [("varargs", .value (.tuple ((args.drop count).map Term.toValue)))]
    else if args.length > count then
      throw (Failure.wrongType ("macro " ++ quoteText m.name ++ " takes not more than " ++
        toString count ++ " argument(s)"))
    let st ← get
    let saved := st.scopes
    let base := match m.captured with
      | some scopes => scopes
      | none => saved.drop (saved.length - m.depth)
    set { st with scopes := [] :: base }
    for ((p, value), (_, dflt)) in supplied.zip m.params do
      let v ← match value with
        | some a => pure a
        | none =>
          match dflt with
          | some d => evalExpr f host d
          | none => pure (.missing (.hint ("parameter " ++ quoteText p ++ " was not provided")))
      bindName p v
    for (k, v) in special do bindName k v
    let text ← capture (execNodes f host m.body)
    modify fun s => { s with scopes := saved }
    pure text

/-- Runs a `for` loop over items at a depth of recursion: for each item that passes the
filter, the body in a fresh scope with the target and `loop` bound; the `else` body when no
item is left. -/
def runLoop : Nat → Host → LoopDef → List Value → Nat → Bool → Render Unit
  | 0, _, _, _, _, _ => renderTooDeep
  | f + 1, host, d, items, depth0, recursive => do
    let items ← match d.test with
      | none => pure items
      | some cond => do
        let mut kept : List Value := []
        for it in items do
          pushScope
          for (k, v) in ← unpackTarget d.target (.value it) do bindName k v
          let ok := (← evalExpr f host cond).truthy
          popScope
          if ok then kept := kept ++ [it]
        pure kept
    if items.isEmpty then
      pushScope
      execNodes f host d.orelse
      popScope
    else
      let st ← get
      let id := st.loops
      set { st with loops := id + 1, loopDefs := if recursive then (id, d) :: st.loopDefs else st.loopDefs }
      for (it, i) in items.zipIdx do
        pushScope
        for (k, v) in ← unpackTarget d.target (.value it) do bindName k v
        bindName "loop" (.loop ⟨id, i, items, depth0, recursive⟩)
        execNodes f host d.body
        popScope

def execNodes : Nat → Host → List Node → Render Unit
  | 0, _, _ => renderTooDeep
  | _, _, [] => pure ()
  | f + 1, host, n :: rest => do
    execNode f host n
    execNodes f host rest

def execNode : Nat → Host → Node → Render Unit
  | 0, _, _ => renderTooDeep
  | f + 1, host, n =>
    match n with
    | .text s => emit s
    | .print e => do emit (← termText (← evalExpr f host e))
    | .forLoop target iter body orelse test recursive => do
      let seq ← evalExpr f host iter
      let items ← (seq.iterate : Outcome (List Value))
      runLoop f host ⟨target, body, orelse, test, (← get).scopes⟩ items 0 recursive
    | .ifChain branches orelse => do
      for (test, body) in branches do
        if (← evalExpr f host test).truthy then
          execNodes f host body
          return
      execNodes f host orelse
    | .assign target value => do
      let v ← evalExpr f host value
      assignTarget target v
    | .assignBlock target filter body => do
      pushScope
      let text ← capture (execNodes f host body)
      popScope
      let v ← match filter with
        | some fe => applyFilterChain f host fe (.value (.str text))
        | none => pure (.value (.str text))
      assignTarget target v
    | .routine name params body => do
      let st ← get
      let id := st.routines.size
      let r : Routine := ⟨name, params, body, extrasOf params body, st.scopes.length, none⟩
      set { st with routines := st.routines.push r }
      bindName name (.routine id name)
    | .callBlock params call body => do
      let st ← get
      let id := st.routines.size
      let extras := { extrasOf params body with caller := false }
      let r : Routine := ⟨"caller", params, body, extras, st.scopes.length, some st.scopes⟩
      set { st with routines := st.routines.push r }
      match call with
      | .call callee args =>
        let fn ← evalExpr f host callee
        let (pos, kws) ← evalArgs f host args
        let (result, _) ← callTerm f host fn pos (kws ++ [("caller", .routine id "caller")])
        emit (← termText result)
      | other => emit (← termText (← evalExpr f host other))
    | .filterBlock filter body => do
      pushScope
      let text ← capture (execNodes f host body)
      popScope
      emit (← termText (← applyFilterChain f host filter (.value (.str text))))
    | .withBlock bindings body => do
      let mut bound : List (String × Term) := []
      for (t, x) in bindings do
        let v ← evalExpr f host x
        bound := bound ++ (← unpackTarget t v)
      pushScope
      for (k, v) in bound do bindName k v
      execNodes f host body
      popScope
    | .block _ body => do
      let st ← get
      let saved := st.scopes
      set { st with scopes := [] :: saved.drop (saved.length - 1) }
      execNodes f host body
      modify fun s => { s with scopes := saved }
    | .scope body => do
      pushScope
      execNodes f host body
      popScope
    | .load e => do
      let _ ← evalExpr f host e
      throw (Failure.wrongType "no loader for this environment specified")

/-- Assigns to a target: names in the innermost scope, attributes of namespace objects. -/
def assignTarget : Target → Term → Render Unit
  | .field ns attr, v => do
    match ← lookupName ns with
    | .space id => setSpaceAttr id attr v
    | _ => throw (Failure.make .templateRuntime "cannot assign attribute on non-namespace object")
  | t, v => do
    for (k, x) in ← unpackTarget t v do bindName k x

end

/-- Renders a template's text with a context and host functions. -/
def renderTemplate (host : Host) (context : List (String × Term)) (source : String) : Outcome String := do
  let body := foldTemplate (← parseTemplate source)
  checkTemplate body
  let fuel := 10000
  let start : RenderState := ⟨[[]], context, #[], #[], #[], #[], [], [], 0, []⟩
  let ((), st) ← (execNodes fuel host body).run start
  pure (String.join st.out.reverse)

end Dashwright.Template
