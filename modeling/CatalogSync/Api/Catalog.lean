import CatalogSync.Api.Basics
import CatalogSync.Api.Records
import CatalogSync.Catalog.Node

/-!
# Requests on a catalog node

`catalog` builds a catalog node on a fresh file and runs a list of steps on it, answering
each with `{"result": value}` or its failure. Besides the node's operations there are steps
that look at the file (`dump`), change it behind the node's back (`sql`, `remove_file`) and
move the clock (`time`).
-/

namespace CatalogSync.Api

open Catalog Disk Sql

def dumpColumns : List String :=
  ["id", "modified", "deleted", "title", "attributes", "resource_uri", "resource_size",
   "resource_modified", "resource", "mime_type", "replicated_by"]

def dumpRecords (path : String) : DiskM Value := do
  let rows ← session path
    (exec ("SELECT " ++ ", ".intercalate dumpColumns ++ " FROM records ORDER BY id") [])
  return .list (rows.map fun row =>
    .obj ((dumpColumns.zip row).map fun (c, d) => (c, storedValue d)))

def decodeRecords (v : Value) : Except Failure (List Record) := (asList v).mapM decodeRecord

def liftDisk {α : Type} : Except Failure α → DiskM α
  | .ok a => pure a
  | .error e => throw e

def answering (act : DiskM Value) : DiskM Value :=
  tryCatch (do return obj [("result", ← act)]) fun e => return e.answer

def catalogStep (n : Node) (clock : Stamp) (step : Value) : DiskM Value := do
  let caller ← liftDisk (decodeCaller (step.get "context"))
  match step.get "op" with
  | .str "add" => do
    let r ← liftDisk (decodeRecord (step.get "record"))
    let content ← liftDisk (decodeOptBytes (step.get "content"))
    n.addRecord r content (asOptStr (step.get "mime_type")) caller
    return .null
  | .str "mark_deleted" => do
    let id ← liftDisk (asStr (step.get "id"))
    let modified ← match step.get "modified" with
      | .null => liftDisk (utcNow clock)
      | v => liftDisk (asStamp v)
    n.markDeleted id modified
    return .null
  | .str "get" => do
    let id ← liftDisk (asStr (step.get "id"))
    return match ← n.getRecord id with
      | some r => recordValue r
      | none => .null
  | .str "exists" => do
    let id ← liftDisk (asStr (step.get "id"))
    return .bool (← n.existsId (.ok (.text id)) id)
  | .str "exists_raw" => do
    let id := step.get "id"
    return .bool (← n.existsId (valueParam id) id.display)
  | .str "query" => do
    let p ← liftDisk (decodePredicate 100000 (step.get "filter"))
    let l ← n.query p
    match l.failure with
    | none => return .list (l.records.map recordValue)
    | some e =>
      let w ← liftDisk (l.wrap e)
      return obj [("iteration_error", w.answer)]
  | .str "create" => do
    return .bool (← n.createMetadata (← liftDisk (decodeRecords (step.get "records"))) caller)
  | .str "update" => do
    return .bool (← n.updateMetadata (← liftDisk (decodeRecords (step.get "records"))) caller)
  | .str "delete" => do
    let ids ← liftDisk (asStrs (step.get "ids"))
    return .bool (← n.deleteMetadata (ids.map fun id => { id := .str id, modified := none }))
  | .str "create_resource" => do
    let rs ← liftDisk ((asList (step.get "resources")).mapM decodeResource)
    return .bool (← n.createResource rs caller)
  | .str "update_resource" => do
    let rs ← liftDisk ((asList (step.get "resources")).mapM decodeResource)
    return .bool (← n.updateResource rs caller)
  | .str "read_resource" => do
    let r ← liftDisk (decodeRecord (step.get "record"))
    return resourceValue (← n.readResource r)
  | .str "is_available" => return .bool (← n.isAvailable)
  | .str "system_name" => return .str n.name
  | .str "dump" => dumpRecords n.path
  | .str "sql" => do
    let statements ← liftDisk (asStrs (step.get "sql"))
    script n.path statements
    return .null
  | .str "remove_file" => do
    modify (·.remove n.path)
    return .null
  | _ => throw (.invalid "unknown catalog step")

def catalogFile : String := "catalog.db"

def catalogAnswer (req : Value) : Value :=
  valueOr do
    let clock ← startClock req
    let name := match req.get "name" with
      | .str s => s
      | v => v.display
    let (made, files) := ((Node.create catalogFile name).run {}).run
    let n ← made
    let (_, _, answers) := (asList (req.get "ops")).foldl
      (fun (acc : Stamp × Files × List Value) step =>
        let (clock, files, answers) := acc
        match step.get "op" with
        | .str "time" =>
          match asStamp (step.get "at") with
          | .ok t => (t, files, answers ++ [obj [("result", .null)]])
          | .error e => (clock, files, answers ++ [e.answer])
        | _ =>
          let (out, files) := ((answering (catalogStep n clock step)).run files).run
          let answer := match out with
            | .ok v => v
            | .error e => e.answer
          (clock, files, answers ++ [answer])) (clock, files, [])
    return obj [("steps", .list answers)]

end CatalogSync.Api
