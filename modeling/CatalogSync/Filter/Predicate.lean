import CatalogSync.Time.Stamp

/-!
# Query predicates

A `Predicate` says which records a query asks a node for. The engine builds predicates and
never evaluates them: each node reads them in its own query language. An absent predicate
(`none`) asks for every record; the parts of a conjunction or a disjunction may be absent
too.

`Predicate.render` writes the text people read, and `Predicate.restrictedIds` the ids a
predicate limits the answer to, the only part of it that a node without a query language
can use.
-/

namespace CatalogSync

/-- A query predicate. -/
inductive Predicate where
  /-- A condition in the node's own query language, kept verbatim. -/
  | native (expression : String)
  /-- Records modified strictly after a time. -/
  | modifiedAfter (time : Stamp)
  /-- Records with one of the ids. -/
  | idIn (ids : List String)
  /-- Every part holds; an absent part holds for every record. -/
  | allOf (parts : List (Option Predicate))
  /-- Some part holds. -/
  | anyOf (parts : List (Option Predicate))
  /-- A predicate of no kind that nodes understand. -/
  | unknown
  deriving Repr, Inhabited

namespace Predicate

def kindName : Predicate → String
  | .native _ => "NativeFilter"
  | .modifiedAfter _ => "ModifiedAfter"
  | .idIn _ => "IdIn"
  | .allOf _ => "AllOf"
  | .anyOf _ => "AnyOf"
  | .unknown => "Filter"

mutual
/-- The text people read for a predicate; an absent predicate is `<all records>`. -/
def render : Option Predicate → Except Failure String
  | none => .ok "<all records>"
  | some (.native e) => .ok ("(" ++ e ++ ")")
  | some (.modifiedAfter t) => .ok ("modified > " ++ t.iso)
  | some (.idIn ids) => .ok ("id in [" ++ ", ".intercalate ids ++ "]")
  | some (.allOf ps) => do return "(" ++ " AND ".intercalate (← renderAll ps) ++ ")"
  | some (.anyOf ps) => do return "(" ++ " OR ".intercalate (← renderAll ps) ++ ")"
  | some .unknown => .error (.wrongKind "Unknown predicate type: Filter")

def renderAll : List (Option Predicate) → Except Failure (List String)
  | [] => .ok []
  | p :: ps => do return (← render p) :: (← renderAll ps)
end

def idSet (ids : List String) : List String :=
  (ids.mergeSort (fun a b => decide (a ≤ b))).eraseDups

mutual
/-- The ids a predicate limits the answer to, as a sorted list, or `none` when it allows
every id. A conjunction allows the ids every restricting part allows; a disjunction limits
the answer only when each of its parts does, and one without parts is refused. -/
def restrictedIds : Option Predicate → Except Failure (Option (List String))
  | some (.idIn ids) => .ok (some (idSet ids))
  | some (.allOf ps) => do
    let restricted := (← restrictedAll ps).filterMap id
    match restricted with
    | [] => return none
    | r :: rs => return some (rs.foldl (fun acc s => acc.filter (s.contains ·)) r)
  | some (.anyOf ps) => do
    let branches ← restrictedAll ps
    if branches.isEmpty then
      throw (.wrongKind "descriptor 'union' of 'frozenset' object needs an argument")
    if branches.any Option.isNone then return none
    return some (idSet (branches.filterMap id).flatten)
  | _ => .ok none

def restrictedAll : List (Option Predicate) → Except Failure (List (Option (List String)))
  | [] => .ok []
  | p :: ps => do return (← restrictedIds p) :: (← restrictedAll ps)
end

end Predicate

end CatalogSync
