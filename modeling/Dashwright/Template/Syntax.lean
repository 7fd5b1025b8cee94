import Dashwright.Value.Basic

/-!
The syntax of templates: expressions, assignment targets and statements, as the parser
builds them.
-/

namespace Dashwright.Template

/-- Binary arithmetic operators. -/
inductive Arith where
  | add
  | sub
  | mul
  | div
  | floorDiv
  | mod
  | pow
deriving BEq, Inhabited

/-- Comparison operators of a comparison chain. -/
inductive Relation where
  | eq
  | ne
  | lt
  | le
  | gt
  | ge
  | isIn
  | notIn
deriving BEq, Inhabited

mutual

/-- Template expressions. -/
inductive Expr where
  | const (v : Value)
  | name (n : String)
  | attr (owner : Expr) (attr : String)
  | item (owner : Expr) (key : Expr)
  /-- a slice `[start:stop:step]`, only as a subscript -/
  | slice (start stop step : Option Expr)
  | tuple (items : List Expr)
  | list (items : List Expr)
  | dict (pairs : List (Expr × Expr))
  | neg (e : Expr)
  | pos (e : Expr)
  | not (e : Expr)
  | arith (op : Arith) (a b : Expr)
  | and (a b : Expr)
  | or (a b : Expr)
  /-- `a ~ b ~ ...`: the texts of the operands joined -/
  | concat (items : List Expr)
  | compare (first : Expr) (rest : List (Relation × Expr))
  /-- `body if test else orelse`; without `else` the value is missing -/
  | cond (test body : Expr) (orelse : Option Expr)
  | call (callee : Expr) (args : Args)
  /-- a filter applied to an operand; no operand means the text of the enclosing block -/
  | filter (operand : Option Expr) (name : String) (args : Args)
  | test (operand : Expr) (name : String) (args : Args)
  /-- a constant the compiled template cannot spell, a double that is not finite: evaluating
  it fails, naming the word the constant would be written as -/
  | unspellable (word : String)

/-- The arguments of a call, a filter or a test: positional ones, keyword ones, and the
sequence and mapping given with `*` and `**`. -/
inductive Args where
  | mk (positional : List Expr) (keywords : List (String × Expr)) (star : Option Expr)
      (starStar : Option Expr)

end

instance : Inhabited Expr := ⟨.const .none⟩

def Args.empty : Args := .mk [] [] none none

/-- What an assignment or a loop binds. -/
inductive Target where
  | name (n : String)
  | tuple (items : List Target)
  /-- an attribute of a namespace object, `ns.attr` -/
  | field (ns attr : String)
deriving Inhabited

/-- Template statements. -/
inductive Node where
  | text (s : String)
  | print (e : Expr)
  | forLoop (target : Target) (iter : Expr) (body : List Node) (orelse : List Node)
      (filter : Option Expr) (recursive : Bool)
  | ifChain (branches : List (Expr × List Node)) (orelse : List Node)
  | assign (target : Target) (value : Expr)
  /-- `{% set x %}...{% endset %}`, with an optional filter on the text -/
  | assignBlock (target : Target) (filter : Option Expr) (body : List Node)
  | routine (name : String) (params : List (String × Option Expr)) (body : List Node)
  | callBlock (params : List (String × Option Expr)) (call : Expr) (body : List Node)
  | filterBlock (filter : Expr) (body : List Node)
  | withBlock (bindings : List (Target × Expr)) (body : List Node)
  | block (name : String) (body : List Node)
  | scope (body : List Node)
  /-- a statement that needs another template: `extends`, `include`, `import`, `from` -/
  | load (template : Expr)
deriving Inhabited

end Dashwright.Template
