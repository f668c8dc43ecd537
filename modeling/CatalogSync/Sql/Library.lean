import CatalogSync.Sql.Scalar
import CatalogSync.Sql.Printf
import CatalogSync.Sql.Calendar
import CatalogSync.Sql.Registry

/-!
# Calling a built-in function

`callFunction` applies an ordinary built-in function to its argument values. The
functions that read the connection (`changes`, `total_changes`, `last_insert_rowid`) get
its counters; `min`, `max` and `nullif` get the collation of their arguments.

The functions that choose which arguments to compute (`coalesce`, `ifnull`, `iif`,
`likely`, `unlikely`, `likelihood`) are not here: the evaluator computes them itself.
-/

namespace CatalogSync.Sql

/-- What a function call may read besides its arguments. -/
structure CallContext where
  changes : Int := 0
  totalChanges : Int := 0
  lastRowid : Int := 0
  /-- The collation of the arguments, for functions that compare them. -/
  collation : Collation := .binary
  /-- The clock of the date functions, as a Julian day number in milliseconds. -/
  now : Int := clockJd

def engineVersion : String := "3.40.1"

/-- Applies an ordinary built-in function to its argument values. -/
def callFunction (name : String) (ctx : CallContext) (args : List Datum) :
    Except Failure Datum :=
  let arg (i : Nat) : Datum := args.getD i .null
  let key := asciiLower name
  match key with
  | "length" => .ok (lengthOf (arg 0))
  | "lower" => .ok (caseOf false (arg 0))
  | "upper" => .ok (caseOf true (arg 0))
  | "typeof" => .ok (.text (arg 0).typeName)
  | "abs" => absOf (arg 0)
  | "hex" => .ok (hexOf (arg 0))
  | "quote" => .ok (quoteOf (arg 0))
  | "char" => .ok (charOf args)
  | "unicode" => .ok (unicodeOf (arg 0))
  | "instr" => .ok (instrOf (arg 0) (arg 1))
  | "substr" | "substring" => .ok (substrOf args)
  | "trim" => .ok (trimOf true true args)
  | "ltrim" => .ok (trimOf true false args)
  | "rtrim" => .ok (trimOf false true args)
  | "replace" => .ok (replaceOf (arg 0) (arg 1) (arg 2))
  | "round" => .ok (roundOf args)
  | "sign" => .ok (signOf (arg 0))
  | "soundex" => .ok (soundexOf (arg 0))
  | "zeroblob" => zeroblobOf (arg 0)
  | "min" => .ok (extremumOf false ctx.collation args)
  | "max" => .ok (extremumOf true ctx.collation args)
  | "nullif" => .ok (nullifOf ctx.collation (arg 0) (arg 1))
  | "like" => patternOf false args
  | "glob" => patternOf true args
  | "changes" => .ok (.int ctx.changes)
  | "total_changes" => .ok (.int ctx.totalChanges)
  | "last_insert_rowid" => .ok (.int ctx.lastRowid)
  | "sqlite_version" => .ok (.text engineVersion)
  | "sqlite_source_id" => .ok (.text "2022-12-28 14:03:47 df5c253c0b3dd24916e4ec7cf77d3db5294cc9fd45ae7b9c5e82ad8197f38a1f")
  | "random" => .ok (.int 0)
  | "randomblob" => .ok (.blob (List.replicate (max 1 (arg 0).intValue).toNat 0))
  | "match" => .error (sqlError "unable to use function MATCH in the requested context")
  | "sqlite_compileoption_used" => .ok (.int 0)
  | "sqlite_compileoption_get" => .ok .null
  | "sqlite_offset" => .ok .null
  | "pi" => .ok (.real piValue)
  | "ceil" | "ceiling" => .ok (roundingOf Float.ceil (arg 0))
  | "floor" => .ok (roundingOf Float.floor (arg 0))
  | "trunc" => .ok (roundingOf truncFloat (arg 0))
  | "ln" => .ok (logOf Float.log args)
  | "log" => .ok (logOf Float.log10 args)
  | "log10" => .ok (logOf Float.log10 args)
  | "log2" => .ok (logOf Float.log2 args)
  | "atan2" => .ok (mathTwo Float.atan2 (arg 0) (arg 1))
  | "pow" | "power" => .ok (mathTwo Float.pow (arg 0) (arg 1))
  | "mod" => .ok (mathTwo floatRemainder (arg 0) (arg 1))
  | "printf" | "format" => .ok (printfOf args)
  | _ =>
    if isDateFunction key then .ok (callDateFunction key ctx.now args) else
    match mathFunction? key with
    | some f => .ok (mathOne f (arg 0))
    | none => .error (sqlError ("no such function: " ++ name))

end CatalogSync.Sql
