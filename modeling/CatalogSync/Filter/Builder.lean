import CatalogSync.Filter.Predicate
import CatalogSync.Text.Blank

/-!
# Building predicates

The builder collapses what it builds: a blank native condition is absent, absent parts are
dropped, a conjunction or disjunction of one part is that part, and of none is absent.

For a run with failed ids `F`, watermark `W` and base condition `B`, the records asked for
are `B AND (id IN F OR modified > W)`: `changeSet` is the temporal half, `failedItems` the
identity half, and `compose` the whole in one predicate.
-/

namespace CatalogSync.Predicate

def nativeOf? : Option String → Option Predicate
  | none => none
  | some e => if Text.isBlankText e then none else some (.native (Text.trim e))

def idsOf (ids : List String) : Except Failure Predicate :=
  if ids.isEmpty then .error (.invalid "IdIn requires at least one id") else .ok (.idIn ids)

def collapse (kind : List (Option Predicate) → Predicate) (parts : List (Option Predicate)) :
    Option Predicate :=
  match parts.filterMap id with
  | [] => none
  | [p] => some p
  | ps => some (kind (ps.map some))

def allOfParts (parts : List (Option Predicate)) : Option Predicate := collapse .allOf parts

def anyOfParts (parts : List (Option Predicate)) : Option Predicate := collapse .anyOf parts

/-- The base condition limited to failed ids; there must be some. -/
def failedItems (base : Option String) (failed : List String) : Except Failure (Option Predicate) :=
  if failed.isEmpty then .error (.invalid "Cannot build a failed-items filter without failed ids")
  else do return allOfParts [nativeOf? base, some (← idsOf failed)]

/-- The base condition limited to records modified after the watermark, if there is one. -/
def changeSet (base : Option String) (watermark : Option Stamp) : Option Predicate :=
  allOfParts [nativeOf? base, watermark.map .modifiedAfter]

/-- One predicate for both failed-item retries and new changes. -/
def compose (base : Option String) (watermark : Option Stamp) (failed : List String) :
    Except Failure (Option Predicate) :=
  match watermark with
  | some w =>
    if failed.isEmpty then .ok (changeSet base watermark)
    else do
      let ids ← idsOf failed
      return allOfParts [nativeOf? base, anyOfParts [some ids, some (.modifiedAfter w)]]
  | none => .ok (changeSet base watermark)

end CatalogSync.Predicate
