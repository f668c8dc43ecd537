import CatalogSync.Data.Value

/-!
# Replication settings

A replication copies the records of a source site to a destination site. Its settings come
from a mapping: `id`, `name`, `source` and `destination` must be set; the failure retry
limit defaults to 5 and must be at least 1; a missing filter is empty.
-/

namespace CatalogSync

/-- The settings of one replication. -/
structure Replication where
  id : String
  name : Value
  source : Value
  destination : Value
  /-- The base condition: the empty text or a value that counts as set. -/
  filter : Value := .str ""
  retryLimit : Int := 5
  metadataOnly : Bool := false
  suspended : Bool := false
  deriving Inhabited

namespace Replication

def requiredKeys : List String := ["id", "name", "source", "destination"]

def ofValue (data : Value) : Except Failure Replication := do
  if !data.isObj then throw (data.lacks "get")
  let missing := requiredKeys.filter fun k => !(data.get k).truthy
  if !missing.isEmpty then
    throw (.invalid ("Replication config is missing: " ++ ", ".intercalate missing))
  let retry ← (data.getD "failure_retry_count" (.int 5)).toInteger
  if retry < 1 then
    throw (.invalid ("failure_retry_count must be at least 1 for " ++ (data.get "name").display))
  let filter := data.get "filter"
  return { id := (data.get "id").display, name := data.get "name",
           source := data.get "source", destination := data.get "destination",
           filter := if filter.truthy then filter else .str "",
           retryLimit := retry,
           metadataOnly := (data.get "metadata_only").truthy,
           suspended := (data.get "suspended").truthy }

def isBlankByte (b : UInt8) : Bool := b == 32 || (9 ≤ b && b ≤ 13)

/-- The base condition as a text. A byte string stands for the literal of its bytes with
the blanks around them stripped, or for nothing when only blanks are left; any other value
that is not a text cannot be stripped. -/
def baseCondition (r : Replication) : Except Failure (Option String) :=
  match r.filter with
  | .str s => .ok (some s)
  | .bytes b =>
    let stripped := ((b.dropWhile isBlankByte).reverse.dropWhile isBlankByte).reverse
    .ok (some (if stripped.isEmpty then "" else Value.bytesLiteral stripped))
  | v => .error (v.lacks "strip")

end Replication

end CatalogSync
