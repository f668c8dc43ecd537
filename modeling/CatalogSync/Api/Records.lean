import CatalogSync.Api.Codec
import CatalogSync.Node.Record
import CatalogSync.Text.Base64

/-!
# Records, content and callers in requests and answers

A record is written as a mapping of its fields, its times as ISO texts. Content in a request
is a text, standing for its UTF-8 bytes, or `{"b64": text}`; content in an answer is always
base64 text. A caller is its subject, or a mapping with one.
-/

namespace CatalogSync.Api

def asOptStr : Value → Option String
  | .null => none
  | .str s => some s
  | v => some v.display

def decodeRecord (v : Value) : Except Failure Record := do
  let id ← match v.get "id" with
    | .null => throw (.missingKey "'id'")
    | x => pure x
  return { id, modified := ← asOptStamp (v.get "modified"),
           attributes := v.getD "attributes" (.obj []),
           resourceUri := asOptStr (v.get "resource_uri"),
           resourceSize := v.get "resource_size",
           resourceModified := ← asOptStamp (v.get "resource_modified"),
           deleted := (v.get "deleted").truthy }

def recordValue (r : Record) : Value :=
  obj [("id", r.id), ("modified", optStamp r.modified), ("attributes", r.attributes),
       ("resource_uri", optStr r.resourceUri),
       ("resource_size", r.resourceSize),
       ("resource_modified", optStamp r.resourceModified), ("deleted", .bool r.deleted)]

def decodeBytes (v : Value) : Except Failure (List UInt8) :=
  match v with
  | .str s => .ok s.toUTF8.toList
  | .obj _ =>
    match v.get "b64" with
    | .str s =>
      match Base64.decode s with
      | .ok b => .ok b
      | .error m => .error (.invalid m)
    | _ => .error (.wrongKind "content must be a text or base64")
  | _ => .error (.wrongKind "content must be a text or base64")

def decodeOptBytes : Value → Except Failure (Option (List UInt8))
  | .null => .ok none
  | v => some <$> decodeBytes v

def bytesValue (b : List UInt8) : Value := .str (Base64.encode b)

def decodeCaller : Value → Except Failure (Option Value)
  | .null => .ok none
  | .obj fs =>
    match (Value.obj fs).lookup "subject" with
    | some s => .ok (some s)
    | none => .error (.wrongKind "missing subject")
  | v => .ok (some v)

def decodeResource (v : Value) : Except Failure Resource := do
  let record ← decodeRecord (v.get "record")
  let content ← decodeBytes (v.get "content")
  let mimeType := match v.lookup "mime_type" with
    | none => some octetStream
    | some m => asOptStr m
  return { record, content, name := v.get "name", mimeType }

def resourceValue (r : Resource) : Value :=
  obj [("content", bytesValue r.content), ("size", .int r.content.length), ("name", r.name),
       ("mime_type", optStr r.mimeType), ("record_id", r.record.id)]

end CatalogSync.Api
