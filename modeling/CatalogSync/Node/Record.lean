import CatalogSync.Data.Value
import CatalogSync.Time.Stamp
import CatalogSync.Node.Wrap

/-!
# Metadata records and resources

A `Record` is what nodes exchange: an id, the time the record was last modified, free-form
attributes, and optionally a reference to binary content (its URI, size and modification
time). A deleted record is a tombstone that carries its deletion to other nodes.

A `Resource` is the binary content of a record, with a file name and a media type, and a
`Listing` is a node's answer to a query.
-/

namespace CatalogSync

/-- A metadata record. -/
structure Record where
  /-- The identifier; a text, unless a node stores identifiers of other kinds. -/
  id : Value
  modified : Option Stamp
  attributes : Value := .obj []
  resourceUri : Option String := none
  /-- The size of the content as the source reports it; null when unknown. -/
  resourceSize : Value := .null
  resourceModified : Option Stamp := none
  deleted : Bool := false
  deriving Inhabited

namespace Record

def ident (r : Record) : String := r.id.display

def hasResource (r : Record) : Bool := r.resourceUri.isSome

def title (r : Record) : Except Failure Value :=
  match r.attributes with
  | .obj _ => .ok (r.attributes.get "title")
  | v => .error (v.lacks "get")

end Record

def octetStream : String := "application/octet-stream"

/-- Binary content of a record. -/
structure Resource where
  record : Record
  content : List UInt8
  name : Value := .null
  mimeType : Option String := some octetStream
  deriving Inhabited

/-- The records a node yields for a query, in order; if the yielding fails, the failure
that ends it after the records, and the message a consumer reports it under. -/
structure Listing where
  records : List Record
  failure : Option Failure := none
  context : String
  deriving Inhabited

def Listing.wrap (l : Listing) (e : Failure) : Except Failure Failure :=
  Failure.asNodeFailure l.context e

end CatalogSync
