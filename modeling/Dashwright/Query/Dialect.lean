import Dashwright.Failure

/-!
SQL dialects and their keywords: the aggregate functions that every dialect shares plus each
dialect's own, and the comparison operators likewise.
-/

namespace Dashwright.Query

inductive Dialect where
  /-- the keywords common to all dialects, and no others -/
  | common
  | sqlite
  | postgresql
  | snowflake
  | mysql
deriving BEq, DecidableEq, Repr, Inhabited

namespace Dialect

def ofName? : String → Option Dialect
  | "all" => some .common
  | "sqlite" => some .sqlite
  | "postgresql" => some .postgresql
  | "snowflake" => some .snowflake
  | "mysql" => some .mysql
  | _ => none

def name : Dialect → String
  | .common => "all"
  | .sqlite => "sqlite"
  | .postgresql => "postgresql"
  | .snowflake => "snowflake"
  | .mysql => "mysql"

def sharedAggregates : List String := ["sum", "max", "min", "avg", "count"]

def ownAggregates : Dialect → List String
  | .common => []
  | .sqlite => ["total", "group_concat"]
  | .postgresql => ["array_agg", "bit_and", "bit_or", "bool_and", "bool_or", "every", "json_agg",
      "jsonb_agg", "json_object_agg", "jsonb_object_agg", "string_agg", "xmlagg"]
  | .snowflake => ["any_value", "stddev", "corr", "count_if", "covar_pop", "covar_samp", "listagg",
      "median", "mode", "stddev_pop", "stddev_samp", "var_pop", "var_samp", "variance_pop",
      "variance", "variance_samp"]
  | .mysql => ["bit_and", "bit_or", "bit_xor", "group_concat", "json_arrayagg", "json_objectagg",
      "std", "stddev", "stddev_pop", "stddev_samp", "var_pop", "var_samp", "variance"]

def sharedComparisons : List String := [">", "<", "=", ">=", "<=", "<>", "!=", "like", "in"]

def ownComparisons : Dialect → List String
  | .postgresql | .snowflake => ["ilike"]
  | .common | .sqlite | .mysql => []

def aggregates (d : Dialect) : List String := sharedAggregates ++ d.ownAggregates

def comparisons (d : Dialect) : List String := sharedComparisons ++ d.ownComparisons

end Dialect

/-- Looking up the keywords of a dialect that has none recorded fails; the failure is of the
wrong-type kind because what is raised is a text rather than an error. -/
def unknownDialect : Failure :=
  Failure.wrongType "exceptions must derive from BaseException"

/-- The dialect of a name, or the failure of asking for keywords of an unknown one. -/
def dialectOf (name : String) : Outcome Dialect :=
  match Dialect.ofName? name with
  | some d => pure d
  | none => throw unknownDialect

end Dashwright.Query
