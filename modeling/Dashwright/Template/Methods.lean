import Dashwright.Template.Access
import Dashwright.Template.Fields
import Dashwright.Value.Sort
import Dashwright.Text.Case
import Dashwright.Text.Blank

/-!
The methods of texts, lists, tuples and mappings that templates call: `'a,b'.split(',')`,
`d.items()`, `d.get('k', 0)`, `xs.index(2)`, and so on. A call gives its result and, for the
methods that change their receiver in place (`append`, `update`, `pop`, ...), the receiver as
changed, which the caller stores back.

Wrong argument counts and kinds fail with the messages of the methods themselves.
-/

namespace Dashwright.Template



/-- The result of a method call, and the receiver when the call changed it. -/
structure MethodResult where
  result : Term
  receiver : Option Value

def returns (v : Value) : Outcome MethodResult := pure ⟨.value v, none⟩

def changes (receiver : Value) (v : Value) : Outcome MethodResult := pure ⟨.value v, some receiver⟩

def argWord (n : Nat) : String := if n == 1 then "argument" else "arguments"

def noKeywords (qualified : String) (kwargs : List (String × Value)) : Outcome Unit :=
  if kwargs.isEmpty then pure ()
  else throw (Failure.wrongType (qualified ++ "() takes no keyword arguments"))

def noArguments (qualified : String) (args : List Value) (kwargs : List (String × Value)) :
    Outcome Unit := do
  noKeywords qualified kwargs
  if !args.isEmpty then
    throw (Failure.wrongType (qualified ++ "() takes no arguments (" ++ toString args.length ++ " given)"))

def oneArgument (qualified : String) (args : List Value) (kwargs : List (String × Value)) :
    Outcome Value := do
  noKeywords qualified kwargs
  match args with
  | [a] => pure a
  | _ => throw (Failure.wrongType (qualified ++ "() takes exactly one argument (" ++
      toString args.length ++ " given)"))

/-- Takes between `lo` and `hi` positional arguments, counted as the argument-clinic methods
count them. -/
def argumentRange (name : String) (lo hi : Nat) (args : List Value) : Outcome Unit :=
  if args.length < lo then
    throw (Failure.wrongType (name ++ " expected at least " ++ toString lo ++ " " ++ argWord lo ++
      ", got " ++ toString args.length))
  else if args.length > hi then
    throw (Failure.wrongType (name ++ " expected at most " ++ toString hi ++ " " ++ argWord hi ++
      ", got " ++ toString args.length))
  else pure ()

/-- Takes between `lo` and `hi` positional arguments, counted as the older methods count them. -/
def argumentSpan (name : String) (lo hi : Nat) (args : List Value) : Outcome Unit :=
  if args.length < lo then
    throw (Failure.wrongType (name ++ "() takes at least " ++ toString lo ++ " " ++ argWord lo ++
      " (" ++ toString args.length ++ " given)"))
  else if args.length > hi then
    throw (Failure.wrongType (name ++ "() takes at most " ++ toString hi ++ " " ++ argWord hi ++
      " (" ++ toString args.length ++ " given)"))
  else pure ()

def needText (context : String) : Value → Outcome String
  | .str s => pure s
  | v => throw (Failure.wrongType (context ++ v.typeName))

def needIndex : Value → Outcome Int
  | .int i => pure i
  | .bool b => pure (if b then 1 else 0)
  | v => throw (Failure.wrongType ("'" ++ v.typeName ++ "' object cannot be interpreted as an integer"))

/-- Line boundaries of `splitlines`. -/
def isLineBreak (c : Char) : Bool :=
  let n := c.toNat
  n == 10 || n == 11 || n == 12 || n == 13 || n == 0x1c || n == 0x1d || n == 0x1e ||
  n == 0x85 || n == 0x2028 || n == 0x2029

/-- The lines of a text, with or without their line ends. -/
def splitLinesKeeping (s : String) (keep : Bool) : List String :=
  let rec go : List Char → List Char → List String → List String
    | [], cur, acc => (if cur.isEmpty then acc else String.ofList cur.reverse :: acc).reverse
    | '\r' :: '\n' :: rest, cur, acc =>
      go rest [] (String.ofList ((if keep then ['\n', '\r'] else []) ++ cur).reverse :: acc)
    | c :: rest, cur, acc =>
      if isLineBreak c then go rest [] (String.ofList ((if keep then [c] else []) ++ cur).reverse :: acc)
      else go rest (c :: cur) acc
  go s.toList [] []

/-- Splits at a separator, at most `limit` times from the left (no limit when negative). -/
def splitLimited (s sep : String) (limit : Int) : List String :=
  let parts := Text.splitOn s sep
  if limit < 0 || parts.length ≤ limit.toNat + 1 then parts
  else parts.take limit.toNat ++ [sep.intercalate (parts.drop limit.toNat)]

/-- Splits at runs of blanks, at most `limit` times from the left; blanks at the ends give no
empty parts, and the rest after the last split keeps the blanks at its end. -/
def splitBlankLimited (s : String) (limit : Int) : List String :=
  let rec go : Nat → List Char → List String → List String
    | 0, _, acc => acc.reverse
    | fuel + 1, cs, acc =>
      let cs := cs.dropWhile Text.isSpace
      if cs.isEmpty then acc.reverse
      else if limit ≥ 0 && acc.length == limit.toNat then
        (String.ofList cs :: acc).reverse
      else
        let word := cs.takeWhile (fun c => !Text.isSpace c)
        go fuel (cs.drop word.length) (String.ofList word :: acc)
  go (s.length + 1) s.toList []

/-- Splits at a separator, at most `limit` times from the right. -/
def rsplitLimited (s sep : String) (limit : Int) : List String :=
  let parts := Text.splitOn s sep
  if limit < 0 || parts.length ≤ limit.toNat + 1 then parts
  else
    let keep := parts.length - limit.toNat
    [sep.intercalate (parts.take keep)] ++ parts.drop keep

/-- Pads a text to a width with a fill character, the text placed left, right or centred as
the text methods centre it (the extra fill on the right, unless the margin and width are both odd). -/
def padText (s : String) (width : Int) (fill : Char) (align : Char) : String :=
  let len : Int := s.length
  if width ≤ len then s
  else
    let marg := (width - len).toNat
    let left := match align with
      | '<' => 0
      | '>' => marg
      | _ => marg / 2 + (if marg % 2 == 1 && width.toNat % 2 == 1 then 1 else 0)
    String.ofList (List.replicate left fill) ++ s ++ String.ofList (List.replicate (marg - left) fill)

/-- The position of the first occurrence of `sub` in `s` at or after `start`. -/
def findFrom (s sub : List Char) (start : Nat) : Option Nat :=
  let n := s.length
  let m := sub.length
  if m > n then none
  else (List.range (n - m + 1)).find? fun i => i ≥ start && (s.drop i).take m == sub

/-- The position of the last occurrence of `sub` in `s`. -/
def findLast (s sub : List Char) : Option Nat :=
  let n := s.length
  let m := sub.length
  if m > n then none
  else ((List.range (n - m + 1)).reverse).find? fun i => (s.drop i).take m == sub

/-- A slice bound given to a text method: an integer, or nothing for the default. -/
def sliceBoundArg (v : Option Value) : Outcome (Option Int) :=
  match v with
  | none | some .none => pure none
  | some (.int i) => pure (some i)
  | some (.bool b) => pure (some (if b then 1 else 0))
  | some _ => throw (Failure.wrongType "slice indices must be integers or None or have an __index__ method")

/-- The window a start and end select in a text of a length: negative positions count from
the end, the end is cut to the length and neither goes below zero (the start may lie past the
end). -/
def searchWindow (n : Nat) (start stop : Option Int) : Int × Int :=
  let len : Int := n
  let stop := stop.getD len
  let stop := if stop > len then len else if stop < 0 then max 0 (stop + len) else stop
  let start := start.getD 0
  let start := if start < 0 then max 0 (start + len) else start
  (start, stop)

/-- The positions in a window where `sub` occurs, in order. -/
def occurrencesIn (s sub : List Char) (start stop : Int) : List Nat :=
  let m : Int := sub.length
  if stop - start < m then []
  else
    let first := start.toNat
    let last := (stop - m).toNat
    (List.range (last + 1 - first)).filterMap fun k =>
      let i := first + k
      if (s.drop i).take sub.length == sub then some i else none

/-- The first position of `sub` within a window. -/
def findIn (s sub : List Char) (start stop : Int) : Option Nat := (occurrencesIn s sub start stop).head?

/-- The last position of `sub` within a window. -/
def findLastIn (s sub : List Char) (start stop : Int) : Option Nat := (occurrencesIn s sub start stop).getLast?

/-- The occurrences of `sub` within a window that do not overlap, taken from the left; an
empty `sub` occurs at every position of the window and at its end. -/
def countIn (s sub : List Char) (start stop : Int) : Nat :=
  if stop - start < sub.length then 0
  else if sub.isEmpty then (stop - start).toNat + 1
  else
    (occurrencesIn s sub start stop).foldl (fun (acc : Nat × Nat) i =>
      if i ≥ acc.2 then (acc.1 + 1, i + sub.length) else acc) (0, 0) |>.1

/-- Replaces occurrences, at most `count` of them when it is not negative; an empty pattern
matches between every two characters and at both ends. -/
def replaceText (s old new : String) (count : Int) : String :=
  if old.isEmpty then
    let cs := s.toList
    let slots := cs.length + 1
    let n := if count < 0 then slots else min slots count.toNat
    let rec go : Nat → List Char → String
      | 0, rest => String.ofList rest
      | k + 1, [] => new ++ go k []
      | k + 1, c :: rest => new ++ String.singleton c ++ go k rest
    go n cs
  else
    let parts := Text.splitOn s old
    if count < 0 || parts.length ≤ count.toNat + 1 then new.intercalate parts
    else new.intercalate (parts.take (count.toNat + 1)) ++ old ++
      old.intercalate (parts.drop (count.toNat + 1))

/-- A prefix or suffix test with a text or a tuple of texts. -/
def affixTest (name : String) (test : String → Bool) (arg : Value) : Outcome Bool :=
  match arg with
  | .str p => pure (test p)
  | .tuple ps => do
    let mut hit := false
    for p in ps do
      match p with
      | .str t => if test t then hit := true
      | v => throw (Failure.wrongType ("tuple for " ++ name ++ " must only contain str, not " ++ v.typeName))
    pure hit
  | v => throw (Failure.wrongType (name ++ " first arg must be str or a tuple of str, not " ++ v.typeName))

/-- Reads `sep` and `maxsplit` of `split`, given by position or keyword. -/
def splitArguments (name : String) (args : List Value) (kwargs : List (String × Value)) :
    Outcome (Option String × Int) := do
  argumentSpan name 0 2 args
  for (k, _) in kwargs do
    if k != "sep" && k != "maxsplit" then
      throw (Failure.wrongType ("'" ++ k ++ "' is an invalid keyword argument for " ++ name ++ "()"))
  let sepV := (args.head?.orElse fun _ => (kwargs.find? (·.1 == "sep")).map (·.2)).getD .none
  let maxV := ((args[1]?).orElse fun _ => (kwargs.find? (·.1 == "maxsplit")).map (·.2)).getD (.int (-1))
  let sep ← match sepV with
    | .none => pure none
    | .str s => if s.isEmpty then throw (Failure.badValue "empty separator") else pure (some s)
    | v => throw (Failure.wrongType ("must be str or None, not " ++ v.typeName))
  pure (sep, ← needIndex maxV)

/-- Characters to strip: blanks by default. -/
def stripSet (name : String) (args : List Value) : Outcome (Option (List Char)) := do
  argumentRange name 0 1 args
  match args with
  | [] | [.none] => pure none
  | [.str s] => pure (some s.toList)
  | _ => throw (Failure.wrongType (name ++ " arg must be None or str"))

/-- Tabs replaced by spaces up to the next multiple of the tab size, columns counted from the
last line break; a tab size of zero or less removes tabs. -/
def expandTabs (s : String) (size : Int) : String :=
  let step (acc : List Char × Nat) (c : Char) : List Char × Nat :=
    let (out, col) := acc
    if c == '\t' then
      if size > 0 then
        let n := size.toNat - col % size.toNat
        (List.replicate n ' ' ++ out, col + n)
      else (out, col)
    else if c == '\n' || c == '\r' then (c :: out, 0)
    else (c :: out, col + 1)
  String.ofList (s.toList.foldl step ([], 0)).1.reverse

/-- The bytes of a text in an encoding: UTF-8, or ASCII and Latin-1 for the characters they
hold. -/
def encodeText (s : String) (encoding : String) : Outcome (List UInt8) := do
  let name := (Text.lower encoding).replace "_" "-"
  let limited (codec : String) (limit : Nat) : Outcome (List UInt8) := do
    match s.toList.zipIdx.find? (fun (c, _) => c.toNat ≥ limit) with
    | some (c, i) =>
      throw (Failure.make .unencodable ("'" ++ codec ++ "' codec can't encode character " ++
        codecCharText c ++ " in position " ++ toString i ++ ": ordinal not in range(" ++
        toString limit ++ ")"))
    | none => pure (s.toList.map fun c => c.toNat.toUInt8)
  if name == "utf-8" || name == "utf8" || name == "u8" then pure s.toUTF8.toList
  else if name == "ascii" || name == "us-ascii" then limited "ascii" 128
  else if name == "latin-1" || name == "latin1" || name == "iso-8859-1" || name == "l1" then
    limited "latin-1" 256
  else throw (Failure.make .unknownName ("unknown encoding: " ++ encoding))

def callTextMethod (s : String) (name : String) (args : List Value) (kwargs : List (String × Value)) :
    Outcome MethodResult := do
  let q := "str." ++ name
  match name with
  | "upper" => noArguments q args kwargs; returns (.str (Text.upper s))
  | "lower" => noArguments q args kwargs; returns (.str (Text.lower s))
  | "casefold" => noArguments q args kwargs; returns (.str (Text.casefold s))
  | "title" => noArguments q args kwargs; returns (.str (Text.title s))
  | "capitalize" => noArguments q args kwargs; returns (.str (Text.capitalize s))
  | "swapcase" => noArguments q args kwargs; returns (.str (Text.swapCase s))
  | "isdigit" => noArguments q args kwargs; returns (.bool (!s.isEmpty && s.toList.all Text.isDigitChar))
  | "isdecimal" => noArguments q args kwargs; returns (.bool (!s.isEmpty && s.toList.all Text.isDecimal))
  | "isnumeric" => noArguments q args kwargs; returns (.bool (!s.isEmpty && s.toList.all Text.isNumeric))
  | "isalpha" => noArguments q args kwargs; returns (.bool (!s.isEmpty && s.toList.all Text.isAlpha))
  | "isalnum" => noArguments q args kwargs; returns (.bool (!s.isEmpty && s.toList.all Text.isAlnum))
  | "isspace" => noArguments q args kwargs; returns (.bool (!s.isEmpty && s.toList.all Text.isSpace))
  | "isascii" => noArguments q args kwargs; returns (.bool (s.toList.all fun c => c.toNat < 128))
  | "isprintable" => noArguments q args kwargs; returns (.bool (s.toList.all Text.isPrintable))
  | "islower" => noArguments q args kwargs; returns (.bool (Text.isLowerText s))
  | "isupper" => noArguments q args kwargs; returns (.bool (Text.isUpperText s))
  | "istitle" => noArguments q args kwargs; returns (.bool (Text.isTitleText s))
  | "isidentifier" => noArguments q args kwargs; returns (.bool (Text.isIdentifier s))
  | "strip" | "lstrip" | "rstrip" =>
    noKeywords q kwargs
    let chars ← stripSet name args
    let drop (c : Char) : Bool := match chars with
      | some cs => cs.contains c
      | none => Text.isSpace c
    let cs := s.toList
    let cs := if name != "rstrip" then cs.dropWhile drop else cs
    let cs := if name != "lstrip" then (cs.reverse.dropWhile drop).reverse else cs
    returns (.str (String.ofList cs))
  | "split" =>
    let (sep, limit) ← splitArguments name args kwargs
    let parts := match sep with
      | some p => splitLimited s p limit
      | none => splitBlankLimited s limit
    returns (.list (parts.map Value.str))
  | "rsplit" =>
    let (sep, limit) ← splitArguments name args kwargs
    let parts := match sep with
      | some p => rsplitLimited s p limit
      | none =>
        ((splitBlankLimited (String.ofList s.toList.reverse) limit).map fun (w : String) =>
          String.ofList w.toList.reverse).reverse
    returns (.list (parts.map Value.str))
  | "splitlines" =>
    argumentSpan name 0 1 args
    let keep := (args.head?.orElse fun _ => (kwargs.find? (·.1 == "keepends")).map (·.2)).map Value.truthy
    returns (.list ((splitLinesKeeping s (keep.getD false)).map Value.str))
  | "replace" =>
    noKeywords q kwargs
    argumentRange name 2 3 args
    let old ← needText "replace() argument 1 must be str, not " (args.getD 0 .none)
    let new ← needText "replace() argument 2 must be str, not " (args.getD 1 .none)
    let count ← match args[2]? with
      | some c => needIndex c
      | none => pure (-1)
    returns (.str (replaceText s old new count))
  | "startswith" | "endswith" =>
    noKeywords q kwargs
    argumentSpan name 1 3 args
    let test := if name == "startswith" then (fun p => s.startsWith p) else (fun p => s.endsWith p)
    returns (.bool (← affixTest name test (args.getD 0 .none)))
  | "find" | "index" | "rfind" | "rindex" | "count" =>
    noKeywords q kwargs
    argumentSpan name 1 3 args
    let sub ← needText "must be str, not " (args.getD 0 .none)
    let (start, stop) := searchWindow s.length (← sliceBoundArg args[1]?) (← sliceBoundArg args[2]?)
    if name == "count" then returns (.int (countIn s.toList sub.toList start stop))
    else
    let pos := if name == "find" || name == "index" then findIn s.toList sub.toList start stop
      else findLastIn s.toList sub.toList start stop
    match pos with
    | some i => returns (.int i)
    | none =>
      if name == "find" || name == "rfind" then returns (.int (-1))
      else throw (Failure.badValue "substring not found")
  | "join" =>
    let items ← oneArgument q args kwargs
    let parts ← match items with
      | .list xs | .tuple xs | .set xs => pure xs
      | .map es _ => pure (es.map Prod.fst)
      | .str t => pure (t.toList.map fun c => Value.str (String.singleton c))
      | _ => throw (Failure.wrongType "can only join an iterable")
    let mut texts : List String := []
    for (p, i) in parts.zipIdx do
      match p with
      | .str t => texts := texts ++ [t]
      | v => throw (Failure.wrongType ("sequence item " ++ toString i ++ ": expected str instance, " ++
          v.typeName ++ " found"))
    returns (.str (s.intercalate texts))
  | "expandtabs" =>
    let size ← match args, kwargs with
      | [], [] => pure 8
      | [v], [] => needIndex v
      | [], [("tabsize", v)] => needIndex v
      | _, (k, _) :: _ =>
        if k != "tabsize" then
          throw (Failure.wrongType ("expandtabs() got an unexpected keyword argument '" ++ k ++ "'"))
        else throw (Failure.wrongType "argument for expandtabs() given by name ('tabsize') and position (1)")
      | _, _ => throw (Failure.wrongType ("expandtabs() takes at most 1 argument (" ++
          toString args.length ++ " given)"))
    returns (.str (expandTabs s size))
  | "encode" =>
    argumentRange "encode" 0 2 args
    let encoding ← match args.head? |>.orElse fun _ => (kwargs.find? (·.1 == "encoding")).map (·.2) with
      | some (.str e) => pure e
      | some v => throw (Failure.wrongType ("encode() argument 'encoding' must be str, not " ++ v.typeName))
      | none => pure "utf-8"
    returns (.bytes (← encodeText s encoding))
  | "maketrans" =>
    noKeywords q kwargs
    argumentRange "maketrans" 1 3 args
    match args with
    | [.map es _] =>
      let mut table : List (Value × Value) := []
      for (k, v) in es do
        let key ← match k with
          | .str c =>
            if c.length == 1 then pure (Value.int (c.toList.headD ' ').toNat)
            else throw (Failure.badValue "string keys in translate table must be of length 1")
          | .int i => pure (.int i)
          | .bool b => pure (.int (if b then 1 else 0))
          | _ => throw (Failure.wrongType "keys in translate table must be strings or integers")
        table := insertEntry key v table
      returns (Value.dict table)
    | [_] => throw (Failure.wrongType "if you give only one argument to maketrans it must be a dict")
    | x :: y :: rest =>
      let xs ← needText "maketrans() argument 1 must be str, not " x
      let ys ← needText "maketrans() argument 2 must be str, not " y
      if xs.length != ys.length then
        throw (Failure.badValue "the first two maketrans arguments must have equal length")
      let mut table : List (Value × Value) := []
      for (a, b) in xs.toList.zip ys.toList do
        table := insertEntry (.int a.toNat) (.int b.toNat) table
      if let some z := rest.head? then
        let zs ← needText "maketrans() argument 3 must be str, not " z
        for c in zs.toList do
          table := insertEntry (.int c.toNat) .none table
      returns (Value.dict table)
    | [] => throw (Failure.wrongType "maketrans expected at least 1 argument, got 0")
  | "translate" =>
    let table ← oneArgument q args kwargs
    let mut out : List Char := []
    for c in s.toList do
      let found : Option Value ← match table with
        | .map es _ => pure (lookupEntry (.int c.toNat) es)
        | .list xs | .tuple xs => pure xs[c.toNat]?
        | .str t => pure ((t.toList[c.toNat]?).map fun d => .str (String.singleton d))
        | v => throw (Failure.wrongType ("'" ++ v.typeName ++ "' object is not subscriptable"))
      match found with
      | none => out := c :: out
      | some .none => pure ()
      | some (.str t) => out := t.toList.reverse ++ out
      | some v =>
        let code ← match v with
          | .int i => pure i
          | .bool b => pure (if b then 1 else 0)
          | _ => throw (Failure.wrongType "character mapping must return integer, None or str")
        if code < 0 || code ≥ 0x110000 then
          throw (Failure.badValue "character mapping must be in range(0x110000)")
        out := Char.ofNat code.toNat :: out
    returns (.str (String.ofList out.reverse))
  | "zfill" =>
    let w ← needIndex (← oneArgument q args kwargs)
    let len : Int := s.length
    if w ≤ len then returns (.str s)
    else
      let pad := String.ofList (List.replicate (w - len).toNat '0')
      match s.toList with
      | c :: rest =>
        if c == '+' || c == '-' then returns (.str (String.singleton c ++ pad ++ String.ofList rest))
        else returns (.str (pad ++ s))
      | [] => returns (.str pad)
  | "center" | "ljust" | "rjust" =>
    noKeywords q kwargs
    argumentRange name 1 2 args
    let w ← needIndex (args.getD 0 .none)
    let fill ← match (args[1]? : Option Value) with
      | none => pure ' '
      | some (.str f) =>
        if f.length == 1 then pure (f.toList.headD ' ')
        else throw (Failure.wrongType "The fill character must be exactly one character long")
      | some v => throw (Failure.wrongType (name ++ "() argument 2 must be str, not " ++ v.typeName))
    let align := if name == "ljust" then '<' else if name == "rjust" then '>' else '^'
    returns (.str (padText s w fill align))
  | "partition" | "rpartition" =>
    let sep ← needText "must be str, not " (← oneArgument q args kwargs)
    if sep.isEmpty then throw (Failure.badValue "empty separator")
    let pos := if name == "partition" then findFrom s.toList sep.toList 0 else findLast s.toList sep.toList
    match pos with
    | some i =>
      let cs := s.toList
      returns (.tuple [.str (String.ofList (cs.take i)), .str sep, .str (String.ofList (cs.drop (i + sep.length)))])
    | none =>
      if name == "partition" then returns (.tuple [.str s, .str "", .str ""])
      else returns (.tuple [.str "", .str "", .str s])
  | "format" => returns (.str (← formatFields s args kwargs))
  | "format_map" => returns (.str (← formatMapFields s (← oneArgument q args kwargs)))
  | "removeprefix" =>
    let p ← needText "removeprefix() argument must be str, not " (← oneArgument q args kwargs)
    returns (.str (if s.startsWith p then String.ofList (s.toList.drop p.length) else s))
  | "removesuffix" =>
    let p ← needText "removesuffix() argument must be str, not " (← oneArgument q args kwargs)
    returns (.str (if s.endsWith p && !p.isEmpty then String.ofList (s.toList.take (s.length - p.length)) else s))
  | _ => throw (Failure.make .unsupported ("str." ++ name))

def callSequenceMethod (xs : List Value) (isList : Bool) (name : String) (args : List Value)
    (kwargs : List (String × Value)) : Outcome MethodResult := do
  let kind := if isList then "list" else "tuple"
  let q := kind ++ "." ++ name
  let wrap (ys : List Value) : Value := if isList then .list ys else .tuple ys
  match name with
  | "count" =>
    let x ← oneArgument q args kwargs
    returns (.int (xs.filter (Value.equal x)).length)
  | "index" =>
    noKeywords q kwargs
    argumentRange "index" 1 3 args
    let x := args.getD 0 .none
    let bound (v : Option Value) (dflt : Int) : Outcome Int :=
      match v with
      | none => pure dflt
      | some (.int i) => pure i
      | some (.bool b) => pure (if b then 1 else 0)
      | some _ => throw (Failure.wrongType "slice indices must be integers or have an __index__ method")
    let n : Int := xs.length
    let fromEnd (i : Int) : Int := if i < 0 then max 0 (i + n) else i
    let start := fromEnd (← bound args[1]? 0)
    let stop := fromEnd (← bound args[2]? n)
    match xs.zipIdx.find? fun (y, i) => start ≤ i && i < stop && Value.equal y x with
    | some (_, i) => returns (.int i)
    | none =>
      throw (Failure.badValue (if isList then x.repr ++ " is not in list" else "tuple.index(x): x not in tuple"))
  | "sort" =>
    if !isList then throw (Failure.make .unsupported q)
    if !args.isEmpty then throw (Failure.wrongType "sort() takes no positional arguments")
    let mut reverse := false
    for (k, v) in kwargs do
      if k == "reverse" then reverse := (← needIndex v) != 0
      else if k == "key" then
        if let .none := v then pure () else throw (Failure.make .unsupported "list.sort with a key")
      else throw (Failure.wrongType ("'" ++ k ++ "' is an invalid keyword argument for sort()"))
    let sorted ← Value.sortByKeys Value.lessThan (xs.map fun x => (x, x)) reverse
    changes (.list sorted) .none
  | "copy" => noArguments q args kwargs; returns (wrap xs)
  | "append" =>
    let x ← oneArgument q args kwargs
    changes (wrap (xs ++ [x])) .none
  | "extend" =>
    let x ← oneArgument q args kwargs
    let more ← x.iterate
    changes (wrap (xs ++ more)) .none
  | "insert" =>
    noKeywords q kwargs
    if args.length != 2 then
      throw (Failure.wrongType ("insert expected 2 arguments, got " ++ toString args.length))
    let i ← needIndex (args.getD 0 .none)
    let n : Int := xs.length
    let j := if i < 0 then max 0 (i + n) else min i n
    changes (wrap (xs.take j.toNat ++ [args.getD 1 .none] ++ xs.drop j.toNat)) .none
  | "pop" =>
    noKeywords q kwargs
    argumentRange "pop" 0 1 args
    if xs.isEmpty then throw (Failure.make .badIndex "pop from empty list")
    let i ← match args with
      | [a] => needIndex a
      | _ => pure (-1)
    match indexIn xs.length i with
    | some j => changes (wrap (xs.eraseIdx j)) (xs.getD j .none)
    | none => throw (Failure.make .badIndex "pop index out of range")
  | "remove" =>
    let x ← oneArgument q args kwargs
    match xs.findIdx? (Value.equal x) with
    | some j => changes (wrap (xs.eraseIdx j)) .none
    | none => throw (Failure.badValue "list.remove(x): x not in list")
  | "reverse" => noArguments q args kwargs; changes (wrap xs.reverse) .none
  | "clear" => noArguments q args kwargs; changes (wrap []) .none
  | _ => throw (Failure.make .unsupported (q))

def callMapMethod (es : List (Value × Value)) (name : String) (args : List Value)
    (kwargs : List (String × Value)) : Outcome MethodResult := do
  let q := "dict." ++ name
  let needKey (k : Value) : Outcome Unit :=
    if k.hashable then pure () else throw (Value.unhashable k)
  match name with
  | "items" => noArguments q args kwargs; pure ⟨.view .items es, none⟩
  | "keys" => noArguments q args kwargs; pure ⟨.view .keys es, none⟩
  | "values" => noArguments q args kwargs; pure ⟨.view .values es, none⟩
  | "fromkeys" =>
    noKeywords q kwargs
    argumentRange "fromkeys" 1 2 args
    let keys ← (args.getD 0 .none).iterate
    let v := args.getD 1 .none
    let mut out : List (Value × Value) := []
    for k in keys do
      if !k.hashable then throw (Value.unhashable k)
      out := insertEntry k v out
    returns (Value.dict out)
  | "copy" => noArguments q args kwargs; returns (Value.dict es)
  | "get" =>
    noKeywords q kwargs
    argumentRange "get" 1 2 args
    let k := args.getD 0 .none
    needKey k
    returns ((lookupEntry k es).getD (args.getD 1 .none))
  | "setdefault" =>
    noKeywords q kwargs
    argumentRange "setdefault" 1 2 args
    let k := args.getD 0 .none
    needKey k
    match lookupEntry k es with
    | some v => returns v
    | none =>
      let d := args.getD 1 .none
      changes (Value.dict (es ++ [(k, d)])) d
  | "pop" =>
    noKeywords q kwargs
    argumentRange "pop" 1 2 args
    let k := args.getD 0 .none
    needKey k
    match es.findIdx? (fun (k2, _) => Value.equal k k2) with
    | some j => changes (Value.dict (es.eraseIdx j)) ((es.getD j (.none, .none)).2)
    | none =>
      match args[1]? with
      | some d => returns d
      | none => throw (Failure.missingKey k.repr)
  | "popitem" =>
    noArguments q args kwargs
    match es.getLast? with
    | some (k, v) => changes (Value.dict es.dropLast) (.tuple [k, v])
    | none => throw (Failure.missingKey "'popitem(): dictionary is empty'")
  | "update" =>
    argumentRange "update" 0 1 args
    let mut out := es
    match args with
    | [a] =>
      for (k, v) in ← a.toDict do
        out := insertEntry k v out
    | _ => pure ()
    for (k, v) in kwargs do
      out := insertEntry (.str k) v out
    changes (Value.dict out) .none
  | "clear" => noArguments q args kwargs; changes (Value.dict []) .none
  | _ => throw (Failure.make .unsupported q)

/-- The bytes of an integer in a length, most significant first, in two's complement. -/
def integerBytes (i : Int) (length : Nat) : List UInt8 :=
  let m : Int := Int.pow 256 length
  let u := ((i % m) + m) % m
  ((List.range length).map fun k => ((u / Int.pow 256 k) % 256).toNat.toUInt8).reverse

def callIntegerMethod (i : Int) (name : String) (args : List Value) (kwargs : List (String × Value)) :
    Outcome MethodResult := do
  match name with
  | "bit_length" =>
    noArguments "int.bit_length" args kwargs
    returns (.int (if i == 0 then 0 else (i.natAbs.log2 + 1 : Nat)))
  | "bit_count" =>
    noArguments "int.bit_count" args kwargs
    returns (.int (Nat.fold i.natAbs.log2.succ (fun k _ acc => acc + (i.natAbs / Nat.pow 2 k) % 2) 0))
  | "to_bytes" =>
    argumentRange "to_bytes" 0 2 args
    let lengthV := (args[0]?.orElse fun _ => (kwargs.find? (·.1 == "length")).map (·.2)).getD (.int 1)
    let orderV := (args[1]?.orElse fun _ => (kwargs.find? (·.1 == "byteorder")).map (·.2)).getD (.str "big")
    let signed := ((kwargs.find? (·.1 == "signed")).map (·.2.truthy)).getD false
    let length ← needIndex lengthV
    let order ← match orderV with
      | .str o => pure o
      | v => throw (Failure.wrongType ("to_bytes() argument 'byteorder' must be str, not " ++ v.typeName))
    if length < 0 then throw (Failure.badValue "length argument must be non-negative")
    if order != "big" && order != "little" then
      throw (Failure.badValue "byteorder must be either 'little' or 'big'")
    if i < 0 && !signed then throw ⟨.overflow, some "can't convert negative int to unsigned"⟩
    let bits := 8 * length.toNat
    let fits := if signed then
        (bits > 0 && -(Int.pow 2 (bits - 1)) ≤ i && i < Int.pow 2 (bits - 1)) || (bits == 0 && i == 0)
      else i < Int.pow 2 bits
    if !fits then throw ⟨.overflow, some "int too big to convert"⟩
    let bs := integerBytes i length.toNat
    returns (.bytes (if order == "big" then bs else bs.reverse))
  | _ => throw (Failure.make .unsupported ("int." ++ name))

def callMethod (owner : Value) (name : String) (args : List Value) (kwargs : List (String × Value)) :
    Outcome MethodResult :=
  if name == "__len__" then do
    noArguments (owner.typeName ++ ".__len__") args kwargs
    returns (.int (← owner.size))
  else
  match owner with
  | .str s => callTextMethod s name args kwargs
  | .list xs => callSequenceMethod xs true name args kwargs
  | .tuple xs => callSequenceMethod xs false name args kwargs
  | .map es _ => callMapMethod es name args kwargs
  | .float f =>
    if name == "is_integer" then do
      noArguments "float.is_integer" args kwargs
      returns (.bool (Number.isIntegral f))
    else throw (Failure.make .unsupported ("float." ++ name))
  | .int i => callIntegerMethod i name args kwargs
  | .bool b => callIntegerMethod (if b then 1 else 0) name args kwargs
  | v => throw (Failure.make .unsupported (v.typeName ++ "." ++ name))

end Dashwright.Template
