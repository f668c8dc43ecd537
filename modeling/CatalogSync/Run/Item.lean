import CatalogSync.Time.Stamp

/-!
# Replication items

An item remembers, for one record of one replication between a source and a destination,
the versions last pushed and how many pushes in a row failed. Both updates clear
`updatedAt`, so that the store stamps the time of the latest attempt.
-/

namespace CatalogSync

/-- A failure count as the store hands it back: a whole number, unless the column was
given a double, a text or bytes, which it keeps as they are. -/
inductive Tally where
  | whole (n : Int)
  | real (x : Float)
  | text (s : String)
  | bytes (b : List UInt8)
  deriving Repr, Inhabited

namespace Tally

def kindName : Tally → String
  | .whole _ => "int"
  | .real _ => "float"
  | .text _ => "str"
  | .bytes _ => "bytes"

def next : Tally → Except Failure Tally
  | .whole n => .ok (.whole (n + 1))
  | .real x => .ok (.real (x + 1.0))
  | .text _ => .error (.wrongKind "can only concatenate str (not \"int\") to str")
  | .bytes _ => .error (.wrongKind "can't concat int to bytes")

def atLeast (t : Tally) (limit : Int) : Except Failure Bool :=
  match t with
  | .whole n => .ok (decide (n ≥ limit))
  | .real x => .ok (match Binary64.compareInt x limit with
    | some .gt | some .eq => true
    | _ => false)
  | t => .error (.wrongKind
      ("'>=' not supported between instances of '" ++ t.kindName ++ "' and 'int'"))

end Tally

/-- The replication state of one record. -/
structure Item where
  configId : String
  metadataId : String
  source : String
  destination : String
  metadataModified : Option Stamp := none
  resourceModified : Option Stamp := none
  failureCount : Tally := .whole 0
  updatedAt : Option Stamp := none
  deriving Repr, Inhabited

namespace Item

def succeeded (i : Item) (metadataModified resourceModified : Option Stamp) : Item :=
  { i with metadataModified, resourceModified, failureCount := .whole 0, updatedAt := none }

def failed (i : Item) (restart : Bool) : Except Failure Item := do
  let failureCount ← if restart then pure (.whole 1) else i.failureCount.next
  return { i with failureCount, updatedAt := none }

end Item

/-- What a push does to the destination. -/
inductive Operation where
  | create
  | update
  | delete
  deriving Repr, DecidableEq

def Operation.text : Operation → String
  | .create => "create"
  | .update => "update"
  | .delete => "delete"

def Operation.classify (itemExists deleted : Bool) : Operation :=
  if !itemExists then .create else if deleted then .delete else .update

end CatalogSync
