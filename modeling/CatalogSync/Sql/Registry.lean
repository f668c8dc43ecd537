import CatalogSync.Sql.Datum

/-!
# The built-in functions by name

`lookupFunction name n` says what a call of `name` with `n` arguments is: an ordinary
function, an aggregate, a window function, a known name called with a number of arguments
it does not take, or an unknown name. Names are matched without regard to ASCII case.

`min` and `max` are aggregates with one argument and ordinary functions with more; `count`
takes none or one. Functions whose number of arguments is free take any number, some with a
least number (`coalesce` two, `min` and `max` one as ordinary functions).
-/

namespace CatalogSync.Sql

/-- What a call is. -/
inductive CallKind where
  | scalar
  | aggregate
  | window
  /-- A known function that does not take that many arguments. -/
  | wrongArity
  | unknown
  deriving DecidableEq, Repr, Inhabited

/-- The numbers of arguments an ordinary function takes: a list, or any number from a
least one. -/
inductive Arity where
  | exactly (counts : List Nat)
  | atLeast (n : Nat)
  deriving Repr, Inhabited

def Arity.allows : Arity → Nat → Bool
  | .exactly cs, n => cs.contains n
  | .atLeast m, n => m ≤ n

def scalarArity (name : String) : Option Arity :=
  match name with
  | "abs" | "hex" | "length" | "lower" | "upper" | "quote" | "randomblob" | "typeof"
  | "unicode" | "zeroblob" | "soundex" | "likely" | "unlikely" | "sign" | "json"
  | "json_quote" | "json_valid" | "sqlite_compileoption_get" | "sqlite_compileoption_used"
  | "sqlite_offset" => some (.exactly [1])
  | "changes" | "last_insert_rowid" | "random" | "sqlite_source_id" | "sqlite_version"
  | "total_changes" | "current_date" | "current_time" | "current_timestamp" | "pi" =>
    some (.exactly [0])
  | "ifnull" | "instr" | "glob" | "likelihood" | "nullif" | "json_patch" | "->" | "->>"
  | "match" | "atan2" | "mod" | "pow" | "power" => some (.exactly [2])
  | "iif" | "replace" => some (.exactly [3])
  | "like" => some (.exactly [2, 3])
  | "ltrim" | "rtrim" | "trim" | "round" | "json_array_length" | "json_type" => some (.exactly [1, 2])
  | "log" => some (.exactly [1, 2])
  | "substr" | "substring" => some (.exactly [2, 3])
  | "coalesce" => some (.atLeast 2)
  | "min" | "max" => some (.atLeast 2)
  | "char" | "printf" | "format" | "date" | "time" | "datetime" | "julianday" | "unixepoch"
  | "strftime" | "json_array" | "json_object" | "json_extract" | "json_insert" | "json_remove"
  | "json_replace" | "json_set" => some (.atLeast 0)
  | "acos" | "acosh" | "asin" | "asinh" | "atan" | "atanh" | "ceil" | "ceiling" | "cos"
  | "cosh" | "degrees" | "exp" | "floor" | "ln" | "log10" | "log2" | "radians" | "sin"
  | "sinh" | "sqrt" | "tan" | "tanh" | "trunc" => some (.exactly [1])
  | _ => none

def aggregateArity (name : String) : Option Arity :=
  match name with
  | "avg" | "sum" | "total" | "min" | "max" | "json_group_array" => some (.exactly [1])
  | "count" => some (.exactly [0, 1])
  | "group_concat" => some (.exactly [1, 2])
  | "json_group_object" => some (.exactly [2])
  | _ => none

def windowOnly (name : String) : Option Arity :=
  match name with
  | "row_number" | "rank" | "dense_rank" | "percent_rank" | "cume_dist" => some (.exactly [0])
  | "ntile" => some (.exactly [1])
  | "lag" | "lead" => some (.exactly [1, 2, 3])
  | "first_value" | "last_value" => some (.exactly [1])
  | "nth_value" => some (.exactly [2])
  | _ => none

def lookupFunction (name : String) (n : Nat) : CallKind :=
  let k := asciiLower name
  if ((aggregateArity k).map (·.allows n)).getD false then .aggregate
  else if ((scalarArity k).map (·.allows n)).getD false then .scalar
  else if ((windowOnly k).map (·.allows n)).getD false then .window
  else if (aggregateArity k).isSome || (scalarArity k).isSome || (windowOnly k).isSome then
    .wrongArity
  else .unknown

def isDeterministic (name : String) : Bool :=
  match asciiLower name with
  | "random" | "randomblob" | "changes" | "last_insert_rowid" | "total_changes"
  | "current_date" | "current_time" | "current_timestamp" => false
  | _ => true

def needsCollation (name : String) : Bool :=
  match asciiLower name with
  | "min" | "max" | "nullif" => true
  | _ => false

example : lookupFunction "COUNT" 0 = .aggregate ∧ lookupFunction "max" 2 = .scalar ∧
    lookupFunction "coalesce" 1 = .wrongArity ∧ lookupFunction "nosuch" 1 = .unknown := by
  decide

end CatalogSync.Sql
