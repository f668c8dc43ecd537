import CatalogSync.Disk.Files
import CatalogSync.Run.Item
import CatalogSync.Sql.Bind

/-!
# The item store

The item store keeps one row per replication, record, source and destination in the
`replication_items` table of a database file. Saving an item replaces the versions, the
failure count and the time of the row with the same four keys, or adds one; an item without
a time is stamped with the current time. Times are stored as ISO texts.

The failure list of a replication holds the ids of records whose pushes failed, fewer times
than the limit, oldest attempt first.
-/

namespace CatalogSync.Store

open Disk Sql

def itemsSchema : String :=
  "CREATE TABLE IF NOT EXISTS replication_items (config_id TEXT NOT NULL, " ++
  "metadata_id TEXT NOT NULL, source TEXT NOT NULL, destination TEXT NOT NULL, " ++
  "metadata_modified TEXT, resource_modified TEXT, " ++
  "failure_count INTEGER NOT NULL DEFAULT 0, updated_at TEXT NOT NULL, " ++
  "PRIMARY KEY (config_id, metadata_id, source, destination))"

def initItems (path : String) : DiskM Unit :=
  session path (do let _ ← exec itemsSchema []; pure ())

def tallyParam : Tally → Except Failure Datum
  | .whole n => intParam n
  | .real x => .ok (.real x)
  | .text t => .ok (.text t)
  | .bytes b => .ok (.blob b)

def itemOfRow (row : List Datum) : Except Failure Item := do
  let at_ (i : Nat) : Datum := row.getD i .null
  return { configId := storedText (at_ 0), metadataId := storedText (at_ 1),
           source := storedText (at_ 2), destination := storedText (at_ 3),
           metadataModified := ← storedStamp (at_ 4),
           resourceModified := ← storedStamp (at_ 5),
           failureCount := match at_ 6 with
             | .int n => .whole n
             | .real x => .real x
             | .text t => .text t
             | .blob b => .bytes b
             | .null => .whole 0,
           updatedAt := ← storedStamp (at_ 7) }

def getItem (path configId metadataId source destination : String) :
    DiskM (Option Item) := do
  let rows ← session path (exec
    ("SELECT config_id, metadata_id, source, destination, metadata_modified, " ++
     "resource_modified, failure_count, updated_at FROM replication_items " ++
     "WHERE config_id = ? AND metadata_id = ? AND source = ? AND destination = ?")
    [.ok (.text configId), .ok (.text metadataId), .ok (.text source),
     .ok (.text destination)])
  match rows with
  | [] => return none
  | row :: _ =>
    match itemOfRow row with
    | .ok i => return some i
    | .error e => throw e

def failureList (path configId : String) (maxFailures : Int) (source destination : String) :
    DiskM (List String) := do
  let rows ← session path (exec
    ("SELECT metadata_id FROM replication_items WHERE config_id = ? AND source = ? " ++
     "AND destination = ? AND failure_count > 0 AND failure_count < ? " ++
     "ORDER BY updated_at ASC, metadata_id ASC")
    [.ok (.text configId), .ok (.text source), .ok (.text destination), intParam maxFailures])
  return rows.map fun row => storedText (row.getD 0 .null)

def isoText : Option Stamp → Except Failure Datum
  | some t => .ok (.text t.iso)
  | none => .ok .null

def saveItem (path : String) (now : Stamp) (i : Item) : DiskM Unit := do
  let updatedAt := i.updatedAt.getD now
  session path do
    let _ ← exec
      ("INSERT INTO replication_items (config_id, metadata_id, source, destination, " ++
       "metadata_modified, resource_modified, failure_count, updated_at) " ++
       "VALUES (?, ?, ?, ?, ?, ?, ?, ?) " ++
       "ON CONFLICT(config_id, metadata_id, source, destination) DO UPDATE SET " ++
       "metadata_modified = excluded.metadata_modified, " ++
       "resource_modified = excluded.resource_modified, " ++
       "failure_count = excluded.failure_count, updated_at = excluded.updated_at")
      [.ok (.text i.configId), .ok (.text i.metadataId), .ok (.text i.source),
       .ok (.text i.destination), isoText i.metadataModified, isoText i.resourceModified,
       tallyParam i.failureCount, .ok (.text updatedAt.iso)]

def cleanup (path : String) : DiskM Unit := modify (·.remove path)

end CatalogSync.Store
