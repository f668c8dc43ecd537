import CatalogSync.Catalog.Where
import CatalogSync.Disk.Files
import CatalogSync.Sql.Bind
import CatalogSync.Json.Reader
import CatalogSync.Json.Writer
import CatalogSync.Node.Record
import CatalogSync.Node.Wrap
import CatalogSync.Time.Iso
import CatalogSync.Text.Base64

/-!
# Catalog nodes

A catalog node keeps records and their content in the `records` table of a database file.
Every operation opens its own connection, so each runs as one transaction of its own.

* Times are stored as their catalog texts (`Stamp.catalogText`), attributes as JSON text
  with every non-ASCII character escaped, and the record's `title` attribute in a column of
  its own.
* Reading a row back parses its times and its attributes; a row that does not parse fails
  when it is reached, so a query yields the rows before it first.
* The operations the engine calls report database failures as node failures: a database
  that cannot run a statement is unreachable (`NodeFault.link`), any other refusal is a
  failed operation, and a write that breaks a constraint is reported as not accepted.
-/

namespace CatalogSync.Catalog

open Disk Sql

/-- A catalog node: its database file and the name it reports. -/
structure Node where
  path : String
  name : String
  deriving Inhabited

def recordColumns : String :=
  "id, modified, deleted, attributes, resource_uri,\n                    resource_size, resource_modified"

def schema : String :=
  "CREATE TABLE IF NOT EXISTS records (id TEXT PRIMARY KEY, modified TEXT NOT NULL, " ++
  "deleted INTEGER NOT NULL DEFAULT 0, title TEXT, attributes TEXT NOT NULL, " ++
  "resource_uri TEXT, resource_size INTEGER, resource_modified TEXT, resource BLOB, " ++
  "mime_type TEXT, replicated_by TEXT)"

def stampText : Option Stamp → Except Failure (Option String)
  | some t => some <$> t.catalogText
  | none => .ok none

def attributesText (v : Value) : String := Json.write .ascii v

def kindOf : Datum → String
  | .null => "NoneType"
  | .int _ => "int"
  | .real _ => "float"
  | .text _ => "str"
  | .blob _ => "bytes"

def storedAttributes (d : Datum) : Except Failure Value :=
  match d with
  | .text s => Json.read s
  | .blob b =>
    match String.fromUTF8? (ByteArray.mk b.toArray) with
    | some s => Json.read s
    | none => .error (.invalid "invalid utf-8 in JSON bytes")
  | _ => .error (.wrongKind ("the JSON object must be str, bytes or bytearray, not " ++ kindOf d))

def toRecord (row : List Datum) : Except Failure Record := do
  let at_ (i : Nat) : Datum := row.getD i .null
  let modified ← storedStamp (at_ 1)
  let attributes ← storedAttributes (at_ 3)
  let resourceModified ← storedStamp (at_ 6)
  return { id := storedValue (at_ 0), modified, deleted := truthOf (at_ 2), attributes,
           resourceUri := storedOptText (at_ 4), resourceSize := storedValue (at_ 5),
           resourceModified }

def toRecords : List (List Datum) → List Record × Option Failure
  | [] => ([], none)
  | row :: rows =>
    match toRecord row with
    | .error e => ([], some e)
    | .ok r =>
      let (rs, e) := toRecords rows
      (r :: rs, e)

def lift {α : Type} : Except Failure α → DiskM α
  | .ok a => pure a
  | .error e => throw e

namespace Node

def create (path name : String) : DiskM Node := do
  session path (do let _ ← exec schema []; pure ())
  return { path, name }

def guard (n : Node) (action ident : String) (act : DiskM α) : DiskM α :=
  tryCatch act fun e =>
    let msg := "Failed to " ++ action ++ " " ++ ident ++ " in " ++ n.name
    match e with
    | .database .operational _ => throw (.node .link msg (some e))
    | .database .reader _ => throw e
    | .database .. => throw (.node .operation msg (some e))
    | _ => throw e

def isAvailable (n : Node) : DiskM Bool := do
  return (← get).exists? n.path

def query (n : Node) (p : Option Predicate) : DiskM Listing := do
  let (cond, texts) ← lift (Predicate.toSql p)
  let context := "Failed to query catalog " ++ n.name
  let sql := "SELECT " ++ recordColumns ++ " FROM records WHERE " ++ cond ++
    " ORDER BY modified ASC, id ASC"
  tryCatch (do
      let rows ← session n.path (exec sql (texts.map fun t => .ok (.text t)))
      let (records, failure) := toRecords rows
      return { records, failure, context })
    fun e => return { records := [], failure := some e, context }

def getRecord (n : Node) (id : String) : DiskM (Option Record) := do
  let rows ← session n.path
    (exec ("SELECT " ++ recordColumns ++ " FROM records WHERE id = ?") [.ok (.text id)])
  match rows with
  | [] => return none
  | row :: _ =>
    match toRecord row with
    | .ok r => return some r
    | .error e => throw e

def existsId (n : Node) (id : Except Failure Datum) (ident : String) : DiskM Bool :=
  n.guard "check existence of" ident do
    let rows ← session n.path (exec "SELECT 1 FROM records WHERE id = ? AND deleted = 0" [id])
    return !rows.isEmpty

def «exists» (n : Node) (r : Record) : DiskM Bool := n.existsId (valueParam r.id) r.ident

def addRecord (n : Node) (r : Record) (content : Option (List UInt8))
    (mimeType : Option String) (caller : Option Value) : DiskM Unit := do
  let size := match content, r.resourceSize with
    | some c, .null => .int c.length
    | _, s => s
  let fs ← get
  match fs.connect n.path with
  | .error e => throw e
  | .ok (fs, _) => set fs
  let modified ← lift (stampText r.modified)
  let title ← lift r.title
  let resourceModified ← lift (stampText r.resourceModified)
  let params : List (Except Failure Datum) :=
    [valueParam r.id, textParam modified, .ok (.int (if r.deleted then 1 else 0)),
     valueParam title, .ok (.text (attributesText r.attributes)), textParam r.resourceUri,
     valueParam size, textParam resourceModified,
     .ok (match content with
       | some c => .blob c
       | none => .null),
     textParam mimeType,
     match caller with
     | some s => valueParam s
     | none => .ok .null]
  session n.path do
    let _ ← exec ("INSERT OR REPLACE INTO records (id, modified, deleted, title, attributes, " ++
      "resource_uri, resource_size, resource_modified, resource, mime_type, replicated_by) " ++
      "VALUES (?, ?, ?, ?, ?, ?, ?, ?, ?, ?, ?)") params

def markDeleted (n : Node) (id : String) (modified : Stamp) : DiskM Unit := do
  let fs ← get
  match fs.connect n.path with
  | .error e => throw e
  | .ok (fs, _) => set fs
  let text ← lift modified.catalogText
  session n.path do
    let _ ← exec "UPDATE records SET deleted = 1, modified = ? WHERE id = ?"
      [.ok (.text text), .ok (.text id)]

def updateRow (n : Node) (r : Record) (caller : Option Value) : DiskM Unit := do
  let fs ← get
  match fs.connect n.path with
  | .error e => throw e
  | .ok (fs, _) => set fs
  let modified ← lift (stampText r.modified)
  let title ← lift r.title
  let resourceModified ← lift (stampText r.resourceModified)
  let params : List (Except Failure Datum) :=
    [textParam modified, .ok (.int (if r.deleted then 1 else 0)), valueParam title,
     .ok (.text (attributesText r.attributes)), textParam r.resourceUri,
     valueParam r.resourceSize, textParam resourceModified,
     match caller with
     | some s => valueParam s
     | none => .ok .null,
     valueParam r.id]
  session n.path do
    let _ ← exec ("UPDATE records SET modified = ?, deleted = ?, title = ?, attributes = ?, " ++
      "resource_uri = ?, resource_size = ?, resource_modified = ?, replicated_by = ? " ++
      "WHERE id = ?") params

def writeGuard (n : Node) (failed : String) (act : DiskM Bool) : DiskM Bool :=
  tryCatch act fun e =>
    match e with
    | .database .integrity _ => return false
    | .database .operational _ =>
      throw (.node .link ("Catalog " ++ n.name ++ " is unreachable") (some e))
    | .database .reader _ => throw e
    | .database .. => throw (.node .operation failed (some e))
    | _ => throw e

def writeRecords (n : Node) (records : List Record) (caller : Option Value) (replace : Bool) :
    DiskM Bool :=
  n.writeGuard ("Failed to write to catalog " ++ n.name) (go records)
where
  go : List Record → DiskM Bool
    | [] => return true
    | r :: rs => do
      if !replace then
        if ← n.exists r then return false
        n.addRecord r none none caller
      else n.updateRow r caller
      go rs

def createMetadata (n : Node) (records : List Record) (caller : Option Value) : DiskM Bool :=
  n.writeRecords records caller false

def updateMetadata (n : Node) (records : List Record) (caller : Option Value) : DiskM Bool :=
  n.writeRecords records caller true

def joinIds (records : List Record) : Except Failure String := do
  let texts ← records.zipIdx.mapM fun (r, k) =>
    match r.id with
    | .str s => pure s
    | v => throw (.wrongKind ("sequence item " ++ toString k ++ ": expected str instance, " ++
        v.kindName ++ " found"))
  return ",".intercalate texts

def deleteMetadata (n : Node) (records : List Record) : DiskM Bool := do
  n.guard "delete" (← lift (joinIds records)) do
    session n.path (execMany "DELETE FROM records WHERE id = ?"
      (records.map fun r => [valueParam r.id]))
  return true

def writeResources (n : Node) (resources : List Resource) (caller : Option Value)
    (replace : Bool) : DiskM Bool :=
  n.writeGuard ("Failed to store resources in " ++ n.name) (go resources)
where
  go : List Resource → DiskM Bool
    | [] => return true
    | res :: rest => do
      if !replace then
        if ← n.exists res.record then return false
      n.addRecord res.record (some res.content) res.mimeType caller
      go rest

def createResource (n : Node) (resources : List Resource) (caller : Option Value) :
    DiskM Bool :=
  n.writeResources resources caller false

def updateResource (n : Node) (resources : List Resource) (caller : Option Value) :
    DiskM Bool :=
  n.writeResources resources caller true

def readResource (n : Node) (r : Record) : DiskM Resource := do
  let rows ← n.guard "read resource of" r.ident
    (session n.path (exec "SELECT resource, mime_type FROM records WHERE id = ?"
      [valueParam r.id]))
  let missing : Failure :=
    .node .operation ("No resource stored for " ++ r.ident ++ " in " ++ n.name) none
  match rows with
  | [content, mime] :: _ =>
    let bytes ← match content with
      | .null => throw missing
      | .blob b => pure b
      | .text _ => throw (.wrongKind "string argument without an encoding")
      | _ => throw (.wrongKind "cannot convert to bytes")
    let mimeType := if truthOf mime then storedText mime else octetStream
    let name ← lift r.title
    return { record := r, content := bytes, name, mimeType := some mimeType }
  | _ => throw missing

end Node

end CatalogSync.Catalog
