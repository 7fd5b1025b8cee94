import Dashwright.Template.Methods
import Dashwright.Text.Blank
import Dashwright.Template.Pretty
import Dashwright.Text.Wrap
import Dashwright.Text.Links
import Dashwright.Template.Operators
import Dashwright.Value.Convert
import Dashwright.Signature

/-!
The filters (`x | name(args)`) and tests (`x is name(args)`) of templates. Each takes the
operand and its arguments, bound to its parameters by position or keyword. Texts are taken as
the printed form of the operand, so a missing operand reads as empty text; sequences are taken
as the items of a loop over the operand, so a missing operand reads as empty.

Filters that pick items by a test or transform them by another filter (`select`, `map`, ...)
call tests and filters by name; an unknown name fails when it is first used.
-/

namespace Dashwright.Template

def filterNames : List String :=
  ["abs", "attr", "batch", "capitalize", "center", "count", "d", "default", "dictsort", "e",
   "escape", "filesizeformat", "first", "float", "forceescape", "format", "groupby", "indent",
   "int", "join", "last", "length", "list", "lower", "items", "map", "min", "max", "pprint",
   "random", "reject", "rejectattr", "replace", "reverse", "round", "safe", "select",
   "selectattr", "slice", "sort", "string", "striptags", "sum", "title", "trim", "truncate",
   "unique", "upper", "urlencode", "urlize", "wordcount", "wordwrap", "xmlattr", "tojson"]

def testNames : List String :=
  ["odd", "even", "divisibleby", "defined", "undefined", "filter", "test", "none", "boolean",
   "false", "true", "integer", "float", "lower", "upper", "string", "mapping", "number",
   "sequence", "iterable", "callable", "sameas", "escaped", "in", "==", "eq", "equalto", "!=",
   "ne", ">", "gt", "greaterthan", ">=", "ge", "<", "lt", "lessthan", "<=", "le"]

/-- Arguments bound to parameters, in parameter order. -/
abbrev Bound := List (Option Term)

/-- Binds the operand and arguments to a function's parameters. A function that also takes the
environment first (`hidden`) counts it in its messages. -/
def bindCall (fn : String) (hidden : Bool) (params : List String) (optional : Nat) (input : Term)
    (args : List Term) (kwargs : List (String × Term)) : Outcome Bound := do
  let sig : Signature := ⟨fn, (if hidden then ["environment"] else []) ++ params, optional, true⟩
  let bound ← sig.bind ((if hidden then [Term.value .none] else []) ++ input :: args) kwargs
  pure (if hidden then bound.drop 1 else bound)

def argAt (b : Bound) (i : Nat) (dflt : Term) : Term := (b.getD i none).getD dflt

def given (b : Bound) (i : Nat) : Option Term := b.getD i none

/-- The value of an argument, failing on a missing one. -/
def argValue (b : Bound) (i : Nat) (dflt : Value) : Outcome Value :=
  match given b i with
  | some t => operand t
  | none => pure dflt

def textValue (s : String) : Term := .value (.str s)

def ignoreCase : Value → Value
  | .str s => .str (Text.lower s)
  | v => v

/-- The parts of an attribute path: names split at dots, digits read as indices. -/
def attributeParts (attr : Term) : List Value :=
  match attr with
  | .value (.str s) =>
    (Text.splitOn s ".").map fun p =>
      if !p.isEmpty && p.toList.all Char.isDigit then .int p.toNat! else .str p
  | .value (.int i) => [.int i]
  | .value .none | .missing _ => []
  | t => [t.toValue]

/-- Looks up an attribute path in an item, as subscripts do; a missing step with a default
gives the default. -/
def followPath (parts : List Value) (dflt : Option Term) (item : Term) : Outcome Term := do
  let mut cur := item
  for p in parts do
    cur ← cur.subscript p
    match cur, dflt with
    | .missing _, some d => cur := d
    | _, _ => pure ()
  pure cur

/-- `<` between sort keys that may be missing. -/
def keyLess (a b : Term) : Outcome Bool := orderTerms .lt a b

/-- Sorts items by keys, stably, descending when `reverse`. -/
def sortItemsByKeys {α : Type} [Inhabited α] (keyed : List (Term × α)) (reverse : Bool) : Outcome (List α) := do
  let input := if reverse then keyed.reverse else keyed
  let sorted ← Value.sortWith (fun a b => keyLess a.1 b.1) input
  let out := sorted.map Prod.snd
  pure (if reverse then out.reverse else out)

/-- Title case as the filter does it: each run between blanks, dashes and opening brackets
starts with a capital and goes on in small letters. -/
def titleWords (s : String) : String :=
  let isBreak (c : Char) : Bool := c == '-' || Text.isSpace c || c == '(' || c == '\x7b' || c == '[' || c == '<'
  let rec chunks : Nat → List Char → List (List Char) → List (List Char)
    | 0, _, acc => acc.reverse
    | _, [], acc => acc.reverse
    | fuel + 1, c :: rest, acc =>
      let brk := isBreak c
      let run := (c :: rest).takeWhile (fun d => isBreak d == brk)
      chunks fuel ((c :: rest).drop run.length) (run :: acc)
  String.join ((chunks (s.length + 1) s.toList []).map fun w =>
    match w with
    | c :: rest => String.ofList (Text.upperChars c) ++ Text.lower (String.ofList rest)
    | [] => "")

/-- Word characters of the word count: letters, characters with a numeric value and the
underscore. -/
def isWordLetter (c : Char) : Bool := Text.isWordCharacter c

def countWords (s : String) : Nat :=
  let rec go : List Char → Bool → Nat → Nat
    | [], _, n => n
    | c :: rest, inWord, n =>
      if isWordLetter c then go rest true (if inWord then n else n + 1) else go rest false n
  go s.toList false 0

/-- Percent-encodes a text for a URL, keeping letters, digits and `_.-~` (and `/` outside query
strings); in query strings a blank becomes `+`. -/
def urlQuote (s : String) (forQuery : Bool) : String :=
  let bytes := s.toUTF8.toList
  String.join (bytes.map fun b =>
    let c := Char.ofNat b.toNat
    if c.isAlphanum && b.toNat < 128 || c == '_' || c == '.' || c == '-' || c == '~' || (!forQuery && c == '/') then
      String.singleton c
    else if forQuery && c == ' ' then "+"
    else "%" ++ (hexText 2 b.toNat).toUpper)

/-- Key-sorted copy of a value for JSON output: mapping entries in the order of their keys. -/
def sortKeysDeep : Nat → Value → Outcome Value
  | 0, v => pure v
  | fuel + 1, v =>
    match v with
    | .list xs => do pure (.list (← xs.mapM (sortKeysDeep fuel)))
    | .tuple xs => do pure (.tuple (← xs.mapM (sortKeysDeep fuel)))
    | .map es locs => do
      let es ← es.mapM fun (k, x) => do pure (k, ← sortKeysDeep fuel x)
      let sorted ← Value.sortWith (fun a b => Value.lessThan a.1 b.1) es
      pure (.map sorted locs)
    | _ => pure v

/-- The integer conversion of an operand for the `int` filter: `none` where a conversion error is
caught and the default taken. -/
def integerOf (t : Term) (base : Int) : Outcome (Option Int) := do
  match t with
  | .missing m => throw m.failure
  | .value (.int i) => pure (some i)
  | .value (.bool b) => pure (some (if b then 1 else 0))
  | .value (.float f) =>
    if f.isNaN then pure none
    else if f.isInf then throw ⟨.overflow, some "cannot convert float infinity to integer"⟩
    else pure (some (Number.Binary.ofFloat f).truncate)
  | .value (.str s) =>
    let direct : Option Int :=
      if base == 10 then Value.parseIntText? s
      else if base == 0 || (2 ≤ base && base ≤ 36) then Value.parseIntBase? s base.toNat
      else none
    match direct with
    | some i => pure (some i)
    | none =>
      match Value.parseFloatText? s with
      | some f =>
        if f.isNaN then pure none
        else if f.isInf then throw ⟨.overflow, some "cannot convert float infinity to integer"⟩
        else pure (some (Number.Binary.ofFloat f).truncate)
      | none => pure none
  | _ => pure none

/-- An item unpacked into two names: a sequence, text or mapping of exactly two items. -/
def unpackPair (x : Value) : Outcome (Value × Value) := do
  let items ← match x with
    | .str s => pure (s.toList.map fun c => Value.str (String.singleton c))
    | .list _ | .tuple _ | .set _ | .map _ _ | .range _ _ _ | .bytes _ => x.iterate
    | _ => throw (Failure.wrongType ("cannot unpack non-iterable " ++ x.typeName ++ " object"))
  match items with
  | [k, v] => pure (k, v)
  | _ =>
    if items.length < 2 then
      throw (Failure.badValue ("not enough values to unpack (expected 2, got " ++ toString items.length ++ ")"))
    else throw (Failure.badValue "too many values to unpack (expected 2)")

/-- The float conversion of an operand for the `float` filter; `none` where the default is taken. -/
def floatOf (t : Term) : Outcome (Option Float) := do
  match t with
  | .missing m => throw m.failure
  | .value (.float f) => pure (some f)
  | .value (.int i) =>
    match Number.intToFloat? i with
    | some f => pure (some f)
    | none => throw ⟨.overflow, some "int too large to convert to float"⟩
  | .value (.bool b) => pure (some (if b then 1.0 else 0.0))
  | .value (.str s) => pure (Value.parseFloatText? s)
  | _ => pure none

/-- `round` of a number to a number of decimal places. -/
def roundNumber (v : Value) (digits : Value) : Outcome Value := do
  let n ← match digits with
    | .int i => pure i
    | .bool b => pure (if b then 1 else 0)
    | d => throw (Failure.wrongType ("'" ++ d.typeName ++ "' object cannot be interpreted as an integer"))
  match v with
  | .int i =>
    if n ≥ 0 then pure (.int i)
    else
      let unit : Int := Int.pow 10 n.natAbs
      let q := i.fdiv unit
      let r := i - q * unit
      let q := if 2 * r > unit || (2 * r == unit && q % 2 != 0) then q + 1 else q
      pure (.int (q * unit))
  | .bool b => pure (.int (if b then 1 else 0))
  | .float f =>
    if f.isNaN || f.isInf then pure (.float f)
    else if n > 323 then pure (.float f)
    else if n < -308 then pure (.float (0.0 * f))
    else match Number.roundDecimal f n with
      | some r => pure (.float r)
      | none => throw ⟨.overflow, some "rounded value too large to represent"⟩
  | _ => throw (Failure.wrongType ("type " ++ v.typeName ++ " doesn't define __round__ method"))

def applyTest (name : String) (input : Term) (args : List Term) (kwargs : List (String × Term)) :
    Outcome Bool := do
  let one (fn : String) : Outcome Unit := do
    let _ ← bindCall fn false ["value"] 0 input args kwargs
  let two (fn : String) (param : String) : Outcome Term := do
    let b ← bindCall fn false ["value", param] 0 input args kwargs
    pure (argAt b 1 (.value .none))
  let compareArg (fn : String) : Outcome Term := do
    if !kwargs.isEmpty then throw (Failure.wrongType (fn ++ "() takes no keyword arguments"))
    match args with
    | [a] => pure a
    | _ => throw (Failure.wrongType (fn ++ " expected 2 arguments, got " ++ toString (args.length + 1)))
  match name with
  | "defined" => one "test_defined"; pure input.isDefined
  | "undefined" => one "test_undefined"; pure !input.isDefined
  | "none" => one "test_none"; pure (match input with | .value .none => true | _ => false)
  | "boolean" => one "test_boolean"; pure (match input with | .value (.bool _) => true | _ => false)
  | "true" => one "test_true"; pure (match input with | .value (.bool true) => true | _ => false)
  | "false" => one "test_false"; pure (match input with | .value (.bool false) => true | _ => false)
  | "integer" => one "test_integer"; pure (match input with | .value (.int _) => true | _ => false)
  | "float" => one "test_float"; pure (match input with | .value (.float _) => true | _ => false)
  | "number" =>
    one "test_number"
    pure (match input with | .value (.int _) | .value (.float _) | .value (.bool _) => true | _ => false)
  | "string" => one "test_string"; pure (match input with | .value (.str _) => true | _ => false)
  | "mapping" => one "test_mapping"; pure (match input with | .value (.map _ _) => true | _ => false)
  | "iterable" =>
    one "test_iterable"
    pure (match input with
      | .value (.str _) | .value (.list _) | .value (.tuple _) | .value (.set _) | .value (.map _ _)
      | .value (.bytes _) | .missing _ | .value (.range _ _ _) | .view _ _ | .loop _ => true
      | _ => false)
  | "sequence" =>
    one "test_sequence"
    pure (match input with
      | .value (.str _) | .value (.list _) | .value (.tuple _) | .value (.map _ _) | .value (.bytes _)
      | .missing _ | .value (.range _ _ _) => true
      | _ => false)
  | "callable" =>
    one "test_callable"
    pure (match input with
      | .function _ | .method _ _ | .routine _ _ | .loopMethod _ _ | .joiner _ | .loop _ | .cyclerMethod _ _ =>
        true
      | _ => false)
  | "escaped" => one "test_escaped"; pure false
  | "lower" =>
    one "test_lower"
    pure (Text.isLowerText (← input.text))
  | "upper" =>
    one "test_upper"
    pure (Text.isUpperText (← input.text))
  | "even" | "odd" =>
    one ("test_" ++ name)
    let r ← applyArith .mod input (.value (.int 2))
    let z := Term.equal r (.value (.int 0))
    pure (if name == "even" then z else !z)
  | "divisibleby" =>
    let n ← two "test_divisibleby" "num"
    let r ← applyArith .mod input n
    pure (Term.equal r (.value (.int 0)))
  | "sameas" =>
    let other ← two "test_sameas" "other"
    pure (match input, other with
      | .value .none, .value .none => true
      | .value (.bool a), .value (.bool b) => a == b
      | .value (.int a), .value (.int b) => a == b && -5 ≤ a && a ≤ 256
      | _, _ => false)
  | "in" =>
    let seq ← two "test_in" "seq"
    seq.contains input
  | "filter" =>
    let n ← two "test_filter" "value"
    pure (match n with | .value (.str s) => filterNames.contains s | _ => false)
  | "test" =>
    let n ← two "test_test" "value"
    pure (match n with | .value (.str s) => testNames.contains s | _ => false)
  | "==" | "eq" | "equalto" => do pure (Term.equal input (← compareArg "eq"))
  | "!=" | "ne" => do pure (!Term.equal input (← compareArg "ne"))
  | ">" | "gt" | "greaterthan" => do orderTerms .gt input (← compareArg "gt")
  | ">=" | "ge" => do orderTerms .ge input (← compareArg "ge")
  | "<" | "lt" | "lessthan" => do orderTerms .lt input (← compareArg "lt")
  | "<=" | "le" => do orderTerms .le input (← compareArg "le")
  | _ => throw (Failure.make .templateRuntime ("No test named " ++ quoteText name ++ "."))

def itemsOf (t : Term) : Outcome (List Term) := do
  pure ((← t.iterate).map Term.value)

def listTerm (ts : List Term) : Term := .value (.list (ts.map Term.toValue))

mutual

def applyFilter : Nat → String → Term → List Term → List (String × Term) → Outcome Term
  | 0, _, _, _, _ => throw (Failure.make .tooDeep "maximum recursion depth exceeded")
  | fuel + 1, name, input, args, kwargs => do
    let bind (fn : String) (hidden : Bool) (params : List String) (optional : Nat) : Outcome Bound :=
      bindCall fn hidden params optional input args kwargs
    match name with
    | "upper" => let _ ← bind "do_upper" false ["s"] 0; pure (textValue (Text.upper (← input.text)))
    | "lower" => let _ ← bind "do_lower" false ["s"] 0; pure (textValue (Text.lower (← input.text)))
    | "capitalize" =>
      let _ ← bind "do_capitalize" false ["s"] 0
      pure (textValue (Text.capitalize (← input.text)))
    | "title" => let _ ← bind "do_title" false ["s"] 0; pure (textValue (titleWords (← input.text)))
    | "string" => let _ ← bind "soft_str" false ["s"] 0; pure (textValue (← input.text))
    | "e" | "escape" | "forceescape" =>
      let _ ← bind "escape" false ["s"] 0
      pure (textValue (Text.escapeMarkup (← input.text)))
    | "safe" => let _ ← bind "do_mark_safe" false ["value"] 0; pure (textValue (← input.text))
    | "trim" =>
      let b ← bind "do_trim" false ["value", "chars"] 1
      let s ← input.text
      match ← argValue b 1 .none with
      | .none => pure (textValue (Text.strip s))
      | .str cs => pure (textValue (Text.stripChars s cs.toList))
      | _ => throw (Failure.wrongType "strip arg must be None or str")
    | "length" | "count" =>
      if !kwargs.isEmpty then throw (Failure.wrongType "len() takes no keyword arguments")
      if !args.isEmpty then
        throw (Failure.wrongType ("len() takes exactly one argument (" ++ toString (args.length + 1) ++ " given)"))
      pure (.value (.int (← input.size)))
    | "d" | "default" =>
      let b ← bind "do_default" false ["value", "default_value", "boolean"] 2
      let boolean := (argAt b 2 (.value (.bool false))).truthy
      if !input.isDefined || (boolean && !input.truthy) then pure (argAt b 1 (textValue ""))
      else pure input
    | "int" =>
      let b ← bind "do_int" false ["value", "default", "base"] 2
      let base ← match ← argValue b 2 (.int 10) with
        | .int i => pure i
        | .bool bb => pure (if bb then 1 else 0)
        | _ => pure 10
      match ← integerOf input base with
      | some i => pure (.value (.int i))
      | none => pure (argAt b 1 (.value (.int 0)))
    | "float" =>
      let b ← bind "do_float" false ["value", "default"] 1
      match ← floatOf input with
      | some f => pure (.value (.float f))
      | none => pure (argAt b 1 (.value (.float 0.0)))
    | "abs" =>
      if !kwargs.isEmpty then throw (Failure.wrongType "abs() takes no keyword arguments")
      if !args.isEmpty then
        throw (Failure.wrongType ("abs() takes exactly one argument (" ++ toString (args.length + 1) ++ " given)"))
      match input with
      | .value (.int i) => pure (.value (.int i.natAbs))
      | .value (.bool b) => pure (.value (.int (if b then 1 else 0)))
      | .value (.float f) => pure (.value (.float f.abs))
      | t => throw (Failure.wrongType ("bad operand type for abs(): '" ++ t.typeName ++ "'"))
    | "round" =>
      let b ← bind "do_round" false ["value", "precision", "method"] 2
      let method ← argValue b 2 (.str "common")
      let precision ← argValue b 1 (.int 0)
      let v ← operand input
      match method with
      | .str "common" => pure (.value (← roundNumber v precision))
      | .str m =>
        if m != "ceil" && m != "floor" then
          throw (Failure.make .filterArgument "method must be common, ceil or floor")
        let scale ← Value.pow (.int 10) precision
        let scaled ← Value.mul v scale
        let f ← match scaled with
          | .float x => pure x
          | .int i => pure (Number.floatOfInt i)
          | .bool bb => pure (if bb then 1.0 else 0.0)
          | x => throw (Failure.wrongType ("must be real number, not " ++ x.typeName))
        let whole := if m == "ceil" then f.ceil else f.floor
        if whole.isInf then throw ⟨.overflow, some "cannot convert float infinity to integer"⟩
        if whole.isNaN then throw (Failure.badValue "cannot convert float NaN to integer")
        pure (.value (← Value.trueDiv (.int (Number.Binary.ofFloat whole).truncate) scale))
      | _ => throw (Failure.make .filterArgument "method must be common, ceil or floor")
    | "replace" =>
      let b ← bind "do_replace" true ["s", "old", "new", "count"] 1
      let s ← input.text
      let old ← (argAt b 1 (textValue "")).text
      let new ← (argAt b 2 (textValue "")).text
      let count ← match ← argValue b 3 .none with
        | .none => pure (-1)
        | .int i => pure i
        | .bool bb => pure (if bb then 1 else 0)
        | x => throw (Failure.wrongType ("'" ++ x.typeName ++ "' object cannot be interpreted as an integer"))
      pure (textValue (replaceText s old new count))
    | "join" =>
      let b ← bind "sync_do_join" true ["value", "d", "attribute"] 2
      let sep ← (argAt b 1 (textValue "")).text
      let items ← itemsOf input
      let items ← match given b 2 with
        | some a => items.mapM (followPath (attributeParts a) none)
        | none => pure items
      let texts ← items.mapM Term.text
      pure (textValue (sep.intercalate texts))
    | "list" =>
      let _ ← bind "sync_do_list" false ["value"] 0
      pure (listTerm (← itemsOf input))
    | "first" =>
      let _ ← bind "sync_do_first" true ["seq"] 0
      match ← input.iterate with
      | x :: _ => pure (.value x)
      | [] => pure (.missing (.hint "No first item, sequence was empty."))
    | "last" =>
      let _ ← bind "do_last" true ["seq"] 0
      match input with
      | .value (.set _) => throw (Failure.wrongType "'set' object is not reversible")
      | _ =>
        match (← input.iterate).getLast? with
        | some x => pure (.value x)
        | none => pure (.missing (.hint "No last item, sequence was empty."))
    | "reverse" =>
      let _ ← bind "do_reverse" false ["value"] 0
      match input with
      | .value (.str s) => pure (textValue (String.ofList s.toList.reverse))
      | _ =>
        match input.iterate with
        | .ok xs => pure (.value (.list xs.reverse))
        | .error _ => throw (Failure.make .filterArgument "argument must be iterable")
    | "sort" =>
      let b ← bind "do_sort" true ["value", "reverse", "case_sensitive", "attribute"] 3
      let reverse := (argAt b 1 (.value (.bool false))).truthy
      let caseSensitive := (argAt b 2 (.value (.bool false))).truthy
      let parts := match given b 3 with
        | some a => attributeParts a
        | none => []
      let items ← itemsOf input
      let keyed ← items.mapM fun it => do
        let k ← followPath parts none it
        let k := if caseSensitive then k else (match k with
          | .value v => .value (ignoreCase v)
          | other => other)
        pure (k, it)
      pure (listTerm (← sortItemsByKeys keyed reverse))
    | "dictsort" =>
      let b ← bind "do_dictsort" false ["value", "case_sensitive", "by", "reverse"] 3
      let caseSensitive := (argAt b 1 (.value (.bool false))).truthy
      let reverse := (argAt b 3 (.value (.bool false))).truthy
      let pos ← match ← argValue b 2 (.str "key") with
        | .str "key" => pure 0
        | .str "value" => pure 1
        | _ => throw (Failure.make .filterArgument "You can only sort by either \"key\" or \"value\"")
      let entries ← match input with
        | .value (.map es _) => pure es
        | .missing m => throw m.failure
        | t => throw (Failure.make .missingAttribute ("'" ++ t.typeName ++ "' object has no attribute 'items'"))
      let keyed := entries.map fun (k, v) =>
        let key := if pos == 0 then k else v
        (Term.value (if caseSensitive then key else ignoreCase key), Value.tuple [k, v])
      pure (.value (.list (← sortItemsByKeys keyed reverse)))
    | "items" =>
      let _ ← bind "do_items" false ["value"] 0
      match input with
      | .missing _ => pure (.value (.list []))
      | .value (.map es _) => pure (.value (.list (es.map fun (k, v) => .tuple [k, v])))
      | _ => throw (Failure.wrongType "Can only get item pairs from a mapping.")
    | "unique" =>
      let b ← bind "do_unique" true ["value", "case_sensitive", "attribute"] 2
      let caseSensitive := (argAt b 1 (.value (.bool false))).truthy
      let parts := match given b 2 with
        | some a => attributeParts a
        | none => []
      let mut seen : List Value := []
      let mut out : List Term := []
      for it in ← itemsOf input do
        let k ← followPath parts none it
        let kv := if caseSensitive then k.toValue else ignoreCase k.toValue
        if !kv.hashable then throw (Value.unhashable kv)
        if !(seen.any (Value.equal kv)) then
          seen := seen ++ [kv]
          out := out ++ [it]
      pure (listTerm out)
    | "min" | "max" =>
      let b ← bind ("do_" ++ name) true ["value", "case_sensitive", "attribute"] 2
      let caseSensitive := (argAt b 1 (.value (.bool false))).truthy
      let parts := match given b 2 with
        | some a => attributeParts a
        | none => []
      match ← itemsOf input with
      | [] => pure (.missing (.hint "No aggregated item, sequence was empty."))
      | first :: rest =>
        let keyOf (it : Term) : Outcome Term := do
          let k ← followPath parts none it
          pure (if caseSensitive then k else (match k with
            | .value v => .value (ignoreCase v)
            | other => other))
        let mut best := first
        let mut bestKey ← keyOf first
        for it in rest do
          let k ← keyOf it
          let better ← if name == "min" then orderTerms .lt k bestKey else orderTerms .gt k bestKey
          if better then
            best := it
            bestKey := k
        pure best
    | "sum" =>
      let b ← bind "sync_do_sum" true ["iterable", "attribute", "start"] 2
      let start := argAt b 2 (.value (.int 0))
      match start with
      | .value (.str _) => throw (Failure.wrongType "sum() can't sum strings [use ''.join(seq) instead]")
      | _ => pure ()
      let items ← itemsOf input
      let items ← match given b 1 with
        | some a => items.mapM (followPath (attributeParts a) none)
        | none => pure items
      let mut total := start
      for it in items do
        total ← applyArith .add total it
      pure total
    | "batch" =>
      let b ← bind "do_batch" false ["value", "linecount", "fill_with"] 1
      let count ← match ← argValue b 1 .none with
        | .int i => pure i.toNat
        | x => throw (Failure.wrongType ("'" ++ x.typeName ++ "' object cannot be interpreted as an integer"))
      let fill := given b 2
      let items ← input.iterate
      let mut groups : List (List Value) := []
      let mut cur : List Value := []
      for it in items do
        if cur.length == count then
          groups := groups ++ [cur]
          cur := []
        cur := cur ++ [it]
      if !cur.isEmpty then
        match fill with
        | some f =>
          if (match f with | .value .none => false | _ => true) && cur.length < count then
            cur := cur ++ List.replicate (count - cur.length) f.toValue
        | none => pure ()
        groups := groups ++ [cur]
      pure (.value (.list (groups.map Value.list)))
    | "slice" =>
      let b ← bind "sync_do_slice" false ["value", "slices", "fill_with"] 1
      let slices ← match ← argValue b 1 .none with
        | .int i => pure i.toNat
        | x => throw (Failure.wrongType ("'" ++ x.typeName ++ "' object cannot be interpreted as an integer"))
      if slices == 0 then throw (Failure.make .divisionByZero "integer division or modulo by zero")
      let seq ← input.iterate
      let perSlice := seq.length / slices
      let withExtra := seq.length % slices
      let mut offset := 0
      let mut out : List Value := []
      for k in List.range slices do
        let start := offset + k * perSlice
        if k < withExtra then offset := offset + 1
        let stop := offset + (k + 1) * perSlice
        let mut part := (seq.drop start).take (stop - start)
        match given b 2 with
        | some f =>
          if (match f with | .value .none => false | _ => true) && k ≥ withExtra then
            part := part ++ [f.toValue]
        | none => pure ()
        out := out ++ [.list part]
      pure (.value (.list out))
    | "map" =>
      if !input.truthy then return listTerm []
      let items ← itemsOf input
      match args, kwargs.find? (·.1 == "attribute") with
      | [], some (_, attr) =>
        let dflt := (kwargs.find? (·.1 == "default")).map Prod.snd
        match kwargs.find? (fun (k, _) => k != "attribute" && k != "default") with
        | some (k, _) => throw (Failure.make .filterArgument ("Unexpected keyword argument " ++ quoteText k))
        | none => pure ()
        pure (listTerm (← items.mapM (followPath (attributeParts attr) (dflt.filter (·.isDefined)))))
      | [], none => throw (Failure.make .filterArgument "map requires a filter argument")
      | f :: rest, _ =>
        let fname ← f.text
        pure (listTerm (← items.mapM fun it => applyNamedFilter fuel fname it rest kwargs))
    | "select" | "reject" | "selectattr" | "rejectattr" =>
      if !input.truthy then return listTerm []
      let byAttr := name == "selectattr" || name == "rejectattr"
      let keep := name == "select" || name == "selectattr"
      let (parts, rest) ← if byAttr then
          match args with
          | a :: r => pure (attributeParts a, r)
          | [] => throw (Failure.make .filterArgument "Missing parameter for attribute name")
        else pure ([], args)
      let mut out : List Term := []
      for it in ← itemsOf input do
        let x ← followPath parts none it
        let ok ← match rest with
          | t :: targs => applyTest (← t.text) x targs kwargs
          | [] => pure x.truthy
        if ok == keep then out := out ++ [it]
      pure (listTerm out)
    | "groupby" =>
      let b ← bind "sync_do_groupby" true ["value", "attribute", "default", "case_sensitive"] 2
      let parts := attributeParts (argAt b 1 (.value .none))
      let dflt := (given b 2).filter fun t => match t with | .value .none => false | _ => true
      let caseSensitive := (argAt b 3 (.value (.bool false))).truthy
      let items ← itemsOf input
      let keyed ← items.mapM fun it => do
        let k ← followPath parts dflt it
        pure ((if caseSensitive then k else (match k with
          | .value v => .value (ignoreCase v)
          | other => other)), it)
      let sorted ← sortItemsByKeys keyed false
      let sortedKeyed ← sorted.mapM fun it => do
        let k ← followPath parts dflt it
        pure ((if caseSensitive then k else (match k with
          | .value v => .value (ignoreCase v)
          | other => other)), it)
      let mut groups : List (Term × List Term) := []
      for (k, it) in sortedKeyed do
        match groups.getLast? with
        | some (gk, members) =>
          if Term.equal gk k then groups := groups.dropLast ++ [(gk, members ++ [it])]
          else groups := groups ++ [(k, [it])]
        | none => groups := groups ++ [(k, [it])]
      let out ← groups.mapM fun (k, members) => do
        let shown ← if caseSensitive then pure k else
          match members.head? with
          | some m => followPath parts dflt m
          | none => pure k
        pure (Value.tuple [shown.toValue, .list (members.map Term.toValue)])
      pure (.value (.list out))
    | "center" =>
      let b ← bind "do_center" false ["value", "width"] 1
      let w ← match ← argValue b 1 (.int 80) with
        | .int i => pure i
        | x => throw (Failure.wrongType ("'" ++ x.typeName ++ "' object cannot be interpreted as an integer"))
      pure (textValue (padText (← input.text) w ' ' '^'))
    | "indent" =>
      let b ← bind "do_indent" false ["s", "width", "first", "blank"] 3
      let indention ← match argAt b 1 (.value (.int 4)) with
        | .value (.str s) => pure s
        | .value (.int i) => pure (String.ofList (List.replicate i.toNat ' '))
        | .value (.bool bb) => pure (if bb then " " else "")
        | t => throw (Failure.wrongType ("can't multiply sequence by non-int of type '" ++ t.typeName ++ "'"))
      let first := (argAt b 2 (.value (.bool false))).truthy
      let blank := (argAt b 3 (.value (.bool false))).truthy
      let s := (← input.text) ++ "\n"
      let lines := splitLinesKeeping s false
      let rv := if blank then ("\n" ++ indention).intercalate lines
        else match lines with
          | l :: rest =>
            if rest.isEmpty then l
            else l ++ "\n" ++ "\n".intercalate (rest.map fun x => if x.isEmpty then x else indention ++ x)
          | [] => ""
      pure (textValue (if first then indention ++ rv else rv))
    | "pprint" =>
      let _ ← bind "do_pprint" false ["value"] 0
      match input with
      | .value v => pure (textValue (prettyPrint v))
      | .missing _ => pure (textValue "Undefined")
      | t => pure (textValue (← t.text))
    | "wordwrap" =>
      let b ← bind "do_wordwrap" true ["s", "width", "break_long_words", "wrapstring", "break_on_hyphens"] 4
      let newline ← match argAt b 3 (.value .none) with
        | .value .none => pure "\n"
        | .value (.str w) => pure w
        | .missing m => throw m.failure
        | t => throw (Failure.make .missingAttribute ("'" ++ t.typeName ++ "' object has no attribute 'join'"))
      let s ← match input with
        | .value (.str s) => pure s
        | .missing m => throw m.failure
        | t => throw (Failure.make .missingAttribute ("'" ++ t.typeName ++ "' object has no attribute 'splitlines'"))
      let lines := splitLinesKeeping s false
      if lines.isEmpty then return textValue ""
      let widthValue ← argValue b 1 (.int 79)
      let width ← match widthValue with
        | .int i => pure i
        | .bool bb => pure (if bb then 1 else 0)
        | .float x => pure (if x ≤ 0 then 0 else (Number.Binary.ofFloat x.floor).truncate)
        | x => throw (Failure.wrongType ("'<=' not supported between instances of '" ++ x.typeName ++ "' and 'int'"))
      if width ≤ 0 then
        throw (Failure.badValue ("invalid width " ++ widthValue.repr ++ " (must be > 0)"))
      let breakLong := (argAt b 2 (.value (.bool true))).truthy
      let breakOnHyphens := (argAt b 4 (.value (.bool true))).truthy
      pure (textValue (newline.intercalate (lines.map fun l =>
        newline.intercalate (Text.wrapParagraph l width.toNat breakLong breakOnHyphens))))
    | "xmlattr" =>
      let b ← bind "do_xmlattr" true ["d", "autospace"] 1
      let entries ← match input with
        | .value (.map es _) => pure es
        | .missing m => throw m.failure
        | t => throw (Failure.make .missingAttribute ("'" ++ t.typeName ++ "' object has no attribute 'items'"))
      let mut items : List String := []
      for (k, v) in entries do
        if let .none := v then continue
        let key ← match k with
          | .str s => pure s
          | other => throw (Failure.wrongType ("expected string or bytes-like object, got '" ++ other.typeName ++ "'"))
        if key.any fun c => c == '/' || c == '>' || c == '=' || c == ' ' || ('\t' ≤ c && c ≤ '\r') then
          throw (Failure.badValue ("Invalid character in attribute name: " ++ quoteText key))
        items := items ++ [Text.escapeMarkup key ++ "=\"" ++ Text.escapeMarkup (← v.display) ++ "\""]
      let rv := " ".intercalate items
      let autospace := (argAt b 1 (.value (.bool true))).truthy
      pure (textValue (if autospace && !rv.isEmpty then " " ++ rv else rv))
    | "striptags" =>
      let _ ← bind "do_striptags" false ["value"] 0
      pure (textValue (Text.stripTags (← input.text)))
    | "urlize" =>
      let b ← bind "do_urlize" true ["value", "trim_url_limit", "nofollow", "target", "rel", "extra_schemes"] 5
      let trim ← match ← argValue b 1 .none with
        | .none => pure none
        | .int i => pure (some i)
        | .bool bb => pure (some (if bb then 1 else 0))
        | x => throw (Failure.wrongType ("'>' not supported between instances of 'int' and '" ++ x.typeName ++ "'"))
      let nofollow := (argAt b 2 (.value (.bool false))).truthy
      let target ← match argAt b 3 (.value .none) with
        | .value .none => pure ""
        | t => if t.truthy then t.text else pure ""
      let relGiven ← match argAt b 4 (.value .none) with
        | .value (.str r) => pure r
        | t =>
          if t.truthy then
            throw (Failure.make .missingAttribute ("'" ++ t.typeName ++ "' object has no attribute 'split'"))
          else pure ""
      let parts := Text.words relGiven ++ (if nofollow then ["nofollow"] else []) ++ ["noopener"]
      let parts := parts.foldl (fun acc p => if acc.contains p then acc else acc ++ [p]) []
      let rel := " ".intercalate (← Value.sortWith (fun x y => pure (decide (x < y))) parts)
      let schemes ← match argAt b 5 (.value .none) with
        | .value .none => pure []
        | t => (← t.iterate).mapM fun v => match v with
          | .str sc => pure sc
          | other => throw (Failure.wrongType ("expected string or bytes-like object, got '" ++ other.typeName ++ "'"))
      for sc in schemes do
        if !Text.isSchemePrefix sc then
          throw (Failure.make .filterArgument (quoteText sc ++ " is not a valid URI scheme prefix."))
      let style : Text.LinkStyle := ⟨trim, rel, target, schemes⟩
      pure (textValue (Text.linkify style (← input.text)))
    | "truncate" =>
      let b ← bind "do_truncate" true ["s", "length", "killwords", "end", "leeway"] 4
      let s ← input.text
      let length ← match ← argValue b 1 (.int 255) with
        | .int i => pure i
        | x => throw (Failure.wrongType ("'" ++ x.typeName ++ "' object cannot be interpreted as an integer"))
      let killwords := (argAt b 2 (.value (.bool false))).truthy
      let ending ← (argAt b 3 (textValue "...")).text
      let leeway ← match ← argValue b 4 (.int 5) with
        | .int i => pure i
        | .none => pure 5
        | x => throw (Failure.wrongType ("'" ++ x.typeName ++ "' object cannot be interpreted as an integer"))
      if length < ending.length then
        throw (Failure.make .raised ("expected length >= " ++ toString ending.length ++ ", got " ++ toString length))
      if leeway < 0 then
        throw (Failure.make .raised ("expected leeway >= 0, got " ++ toString leeway))
      if (s.length : Int) ≤ length + leeway then return textValue s
      let cut := String.ofList (s.toList.take (length - ending.length).toNat)
      if killwords then return textValue (cut ++ ending)
      let kept := match rsplitLimited cut " " 1 with
        | p :: _ => p
        | [] => cut
      pure (textValue (kept ++ ending))
    | "wordcount" =>
      let _ ← bind "do_wordcount" false ["s"] 0
      pure (.value (.int (countWords (← input.text))))
    | "format" =>
      if !args.isEmpty && !kwargs.isEmpty then
        throw (Failure.make .filterArgument "can't handle positional and keyword arguments at the same time")
      let fmt ← input.text
      let params : Value := if !kwargs.isEmpty then
          Value.dict (kwargs.map fun (k, v) => (.str k, v.toValue))
        else .tuple (args.map Term.toValue)
      pure (textValue (← Value.percentFormat fmt params))
    | "tojson" =>
      let b ← bind "do_tojson" true ["value", "indent"] 1
      let indent ← match ← argValue b 1 .none with
        | .none => pure none
        | .str i => pure (some i)
        | .int i => pure (some (String.ofList (List.replicate i.toNat ' ')))
        | .bool bb => pure (some (if bb then " " else ""))
        | x => throw (Failure.wrongType ("can't multiply sequence by non-int of type '" ++ x.typeName ++ "'"))
      let v ← sortKeysDeep 200 (← operand input)
      let text ← match indent with
        | some i => v.jsonIndented i 10000 0
        | none => v.jsonText
      let text := Text.replaceAll text "<" "\\u003c"
      let text := Text.replaceAll text ">" "\\u003e"
      let text := Text.replaceAll text "&" "\\u0026"
      let text := Text.replaceAll text "'" "\\u0027"
      pure (textValue text)
    | "filesizeformat" =>
      let b ← bind "do_filesizeformat" false ["value", "binary"] 1
      let binary := (argAt b 1 (.value (.bool false))).truthy
      let bytes ← match ← floatOf input with
        | some f => pure f
        | none => throw (Failure.badValue ("could not convert string to float: " ++ (← input.text)))
      let base : Float := if binary then 1024.0 else 1000.0
      let names := if binary then ["KiB", "MiB", "GiB", "TiB", "PiB", "EiB", "ZiB", "YiB"]
        else ["kB", "MB", "GB", "TB", "PB", "EB", "ZB", "YB"]
      if bytes == 1.0 then return textValue "1 Byte"
      if bytes < base then
        return textValue (toString (Number.Binary.ofFloat bytes).truncate ++ " Bytes")
      let mut out := ""
      let mut found := false
      for (p, i) in names.zipIdx do
        if found then break
        let unit := Float.pow base (Float.ofNat (i + 2))
        if bytes < unit || i + 1 == names.length then
          out := Number.fixedDigits (base * bytes / unit) 1 false ++ " " ++ p
          found := true
      pure (textValue out)
    | "urlencode" =>
      let _ ← bind "do_urlencode" false ["value"] 0
      match input with
      | .value (.str s) => pure (textValue (urlQuote s false))
      | .value (.map es _) =>
        let parts ← es.mapM fun (k, v) => do
          pure (urlQuote (← k.display) true ++ "=" ++ urlQuote (← v.display) true)
        pure (textValue ("&".intercalate parts))
      | .value v@(.list _) | .value v@(.tuple _) | .value v@(.set _) | .value v@(.range _ _ _)
      | .value v@(.bytes _) =>
        let parts ← (← v.iterate).mapM fun x => do
          let (k, w) ← unpackPair x
          pure (urlQuote (← k.display) true ++ "=" ++ urlQuote (← w.display) true)
        pure (textValue ("&".intercalate parts))
      | .view kind es =>
        let parts ← (Term.viewItems kind es).mapM fun x => do
          let (k, w) ← unpackPair x
          pure (urlQuote (← k.display) true ++ "=" ++ urlQuote (← w.display) true)
        pure (textValue ("&".intercalate parts))
      | t => pure (textValue (urlQuote (← t.text) false))
    | "attr" =>
      let b ← bind "do_attr" true ["obj", "name"] 0
      let attr ← (argAt b 1 (textValue "")).text
      match input with
      | .value v =>
        match valueAttribute? v attr with
        | some a => pure a
        | none => pure (.missing (.attribute (objectKind v) attr))
      | .missing m => throw m.failure
      | t => t.attribute attr
    | "random" =>
      let _ ← bind "do_random" true ["seq"] 0
      let n ← input.size
      if n == 0 then pure (.missing (.hint "No random item, sequence was empty."))
      else if n > 1 then throw (Failure.make .unsupported "filter random over more than one item")
      else match input with
        | .value (.set _) => throw (Failure.wrongType "'set' object is not subscriptable")
        | .value (.map _ _) | .view _ _ => throw (Failure.make .unsupported "filter random over a mapping")
        | _ => pure (.value ((← input.iterate).headD .none))
    | other =>
      if filterNames.contains other then
        throw (Failure.make .unsupported ("filter " ++ other))
      else throw (Failure.make .templateRuntime ("No filter named " ++ quoteText other ++ "."))

/-- Applies a filter named by a text, as `map` does. -/
def applyNamedFilter : Nat → String → Term → List Term → List (String × Term) → Outcome Term
  | 0, _, _, _, _ => throw (Failure.make .tooDeep "maximum recursion depth exceeded")
  | fuel + 1, name, input, args, kwargs => applyFilter fuel name input args kwargs

end

end Dashwright.Template
