import CatalogSync.Filter.Predicate

/-!
# Predicates as SQL conditions

A catalog keeps its records in a SQL table. `Predicate.toSql` turns a predicate into the
condition of a `WHERE` clause with `?` placeholders and the texts bound to them: a native
condition is pasted between parentheses, a time becomes a bound catalog time text, and the
parts of a conjunction or disjunction are joined by `AND` or `OR` between parentheses, even
when there are none.

Catalog times are UTC with six fractional digits, so that comparing their texts follows
time order; a time without an offset is read as UTC.
-/

namespace CatalogSync

def Stamp.catalogText (t : Stamp) : Except Failure String := do
  let t := if t.isAware then t else { t with offset := some 0 }
  return (← t.toUtc).isoMicros

namespace Predicate

mutual
/-- The condition and bound texts of a predicate; an absent predicate holds always. -/
def toSql : Option Predicate → Except Failure (String × List String)
  | none => .ok ("1 = 1", [])
  | some (.native e) => .ok ("(" ++ e ++ ")", [])
  | some (.modifiedAfter t) => do return ("modified > ?", [← t.catalogText])
  | some (.idIn ids) => .ok ("id IN (" ++ ",".intercalate (ids.map fun _ => "?") ++ ")", ids)
  | some (.allOf ps) => do
    let (cs, params) ← toSqlAll ps
    return ("(" ++ " AND ".intercalate cs ++ ")", params)
  | some (.anyOf ps) => do
    let (cs, params) ← toSqlAll ps
    return ("(" ++ " OR ".intercalate cs ++ ")", params)
  | some .unknown => .error (.invalid "Unsupported predicate: Filter")

def toSqlAll : List (Option Predicate) → Except Failure (List String × List String)
  | [] => .ok ([], [])
  | p :: ps => do
    let (c, xs) ← toSql p
    let (cs, ys) ← toSqlAll ps
    return (c :: cs, xs ++ ys)
end

end Predicate

end CatalogSync
